import QueryWatch.Daemon.Basic
import QueryWatch.Execution.Command
import QueryWatch.Host.Basic
import QueryWatch.Operator.Program

/-!
The program. Without arguments it is a daemon that takes requests line by line and answers each on a
line; with arguments it is an operator's program that asks a daemon of its own.
-/

set_option autoImplicit false

namespace QueryWatch

open Text (Bytes)

/-- The moment at which it is so many nanoseconds after the start of the clock. -/
def momentOf (nanos : Nat) : Moment := ⟨nanos, ⟨nanos / 1000000000, nanos % 1000000000⟩⟩

/-- A daemon with default settings. -/
def Daemon.ofDefaults (now : Moment) : Daemon where
  dashboard :=
    { Dashboard.ofSettings {} with
      executor := Executor.ofSettings Host.small {}
      steering := .ofFeed none false }
  startedAt := now.time
  processId := 1

/-- What a daemon says to the bytes of a connection. -/
def Daemon.exchange (now : Moment) : Exchange Daemon := fun d bytes ↦
  let reply := d.serve (Framing.pieces Framing.pieceSize bytes) now
  (.ok (Text.Utf8.encode reply.response.line), reply.daemon)

/-- Answers requests until the input ends. -/
partial def answerLines (input output : IO.FS.Stream) (d : Daemon) : IO Unit := do
  let line ← input.getLine
  unless line.isEmpty do
    let now := momentOf (← IO.monoNanosNow)
    let dashboard := (d.dashboard.tick now.instant).2
    let pieces := Framing.pieces Framing.pieceSize (Text.Utf8.encode line)
    let reply := (d.setDashboard dashboard).serve pieces now
    output.putStr reply.response.line
    output.flush
    answerLines input output reply.daemon

/-- The rest of an input. -/
partial def readAll (input : IO.FS.Stream) (lines : List String) : IO String := do
  let line ← input.getLine
  if line.isEmpty then return String.join lines.reverse
  else readAll input (line :: lines)

/-- A disk on which nothing is in the way. -/
def emptyDisk : Disk := ⟨fun _ ↦ false, fun _ ↦ false, fun _ ↦ false⟩

/-- Carries out what the arguments ask for. -/
def operate (args : List String) : IO UInt32 := do
  let now := momentOf (← IO.monoNanosNow)
  let home ← IO.getEnv "HOME"
  let socket ← IO.getEnv "SQLTAP_DAEMON_SOCKET"
  let input ← if args.head? = some "send" then readAll (← IO.getStdin) [] else pure ""
  let id := Client.requestId (now.instant / millis 1) 1 now.instant
  let invocation : Invocation :=
    { args := args.map Text.Utf8.encode, input := Text.Utf8.encode input, home, socket }
  let (p, _) := Operator.run emptyDisk (fun _ ↦ Daemon.exchange now) id invocation
    (Daemon.ofDefaults now)
  IO.print p.output
  IO.eprint p.errors
  return p.code.toUInt32

end QueryWatch

def main (args : List String) : IO UInt32 := do
  if args.isEmpty then
    let now := QueryWatch.momentOf (← IO.monoNanosNow)
    QueryWatch.answerLines (← IO.getStdin) (← IO.getStdout) (QueryWatch.Daemon.ofDefaults now)
    return 0
  else QueryWatch.operate args
