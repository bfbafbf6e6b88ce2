import QueryWatch.Path
import QueryWatch.Settings.Basic

/-!
Where files are found below the home directory.
-/

set_option autoImplicit false

namespace QueryWatch

/-- The program's own directory. -/
def programDirectory (home : String) : String := Path.join home ".sqltap"

/-- The settings file, unless another one is asked for. -/
def settingsPath (home : String) : String := Path.join (programDirectory home) "config.toml"

/-- The socket of the daemon, unless another one is set. -/
def defaultSocketPath (home : String) : String := Path.join (programDirectory home) "daemon.sock"

/-- The socket on which the daemon listens. -/
def DaemonSettings.socketIn (s : DaemonSettings) (home : String) : String :=
  match s.socketPath with
  | some path => Path.underHome home path
  | none => defaultSocketPath home

end QueryWatch
