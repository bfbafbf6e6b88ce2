import QueryWatch.Dashboard.Basic
import QueryWatch.Feed.Backoff
import QueryWatch.Feed.Lines

/-!
The feed: a connection to the proxy that is made again whenever it is lost, until it is switched
off. It looks at one posted switch at a time, and not while it tries to connect. What it tells the
dashboard is that it is connected, the lines that say something, and that it is not connected any
more.
-/

set_option autoImplicit false

namespace QueryWatch

open Text (Bytes)

/-- What the feed is doing. -/
inductive FeedPhase
  /-- It is switched off, and waits for a switch. -/
  | idle
  /-- It tries to connect. -/
  | connecting
  /-- It reads a connection. -/
  | reading (lines : LineReader)
  /-- It waits a number of milliseconds before it tries again. -/
  | waiting (delay : Nat)
  /-- It has ended. -/
  | ended
  deriving DecidableEq, Repr

structure Feed where
  /-- Whether it is switched on. -/
  enabled : Bool
  phase : FeedPhase
  backoff : Backoff
  /-- The switches that were posted and not looked at yet, in their order. -/
  posted : List FeedSwitch := []
  /-- Whether nobody can post any more. -/
  abandoned : Bool := false
  deriving DecidableEq, Repr

/-- What happens to the feed. -/
inductive FeedInput
  /-- It looks for the next switch. -/
  | switch
  /-- The attempt to connect ends. -/
  | attempted (success : Bool)
  | received (bytes : Bytes)
  /-- Nothing has come for a while. -/
  | paused
  /-- The proxy closes the connection. -/
  | closed
  /-- The connection cannot be read any more. -/
  | broken
  /-- The time to wait is over. -/
  | elapsed
  deriving DecidableEq, Repr

/-- What the feed tells the dashboard. -/
inductive FeedReport
  | connected (connected : Bool)
  | line (text : String)
  deriving DecidableEq, Repr

/-- The dashboard is told something by the feed. A line is counted if it is not an event. -/
def Dashboard.hear (d : Dashboard) : FeedReport → Dashboard
  | .connected connected => d.setConnected connected
  | .line text => (d.receiveText text).2

namespace Feed

/-- The feed goes on as it is switched: it tries to connect, or waits for a switch. -/
def resume (f : Feed) : Feed := { f with phase := if f.enabled then .connecting else .idle }

/-- The feed as it starts. -/
def start (s : FeedSettings) : Feed :=
  resume
    { enabled := s.autoConnect
      phase := .idle
      backoff := .ofMillis s.reconnectInitial s.reconnectMax }

/-- The feed as set, if an address is set. -/
def ofSettings (s : FeedSettings) : Option Feed :=
  (FeedSteering.feedAddress s.address).map fun _ ↦ start s

def post (f : Feed) (switch : FeedSwitch) : Feed := { f with posted := f.posted ++ [switch] }

/-- Nobody can post any more. -/
def abandon (f : Feed) : Feed := { f with abandoned := true }

/-- The lines that say something, as they are told. -/
def told (lines : List Bytes) : List FeedReport :=
  (lines.filterMap LineReader.lineText).map .line

/-- What is told when the feed lets go of what it is doing. -/
def parting (f : Feed) : List FeedReport :=
  match f.phase with
  | .reading _ => [.connected false]
  | _ => []

/-- The feed goes to wait. -/
def wait (f : Feed) : Feed :=
  let (delay, backoff) := f.backoff.advance
  { f with phase := .waiting delay, backoff }

/-- The feed heeds a switch that it has looked at. While it reads it does not have to be switched
on. -/
def heed (f : Feed) : FeedSwitch → Feed × List FeedReport
  | .off => ({ f with enabled := false }.resume, f.parting)
  | .on =>
    match f.phase with
    | .idle => ({ f with enabled := true, backoff := f.backoff.reset }.resume, [])
    | .waiting _ => (f.resume, [])
    | _ => (f, [])

/-- The feed looks for the next switch. If none is there and none can come, it ends. -/
def obey (f : Feed) : Feed × List FeedReport :=
  match f.phase with
  | .connecting | .ended => (f, [])
  | _ =>
    match f.posted with
    | switch :: rest => { f with posted := rest }.heed switch
    | [] => if f.abandoned then ({ f with phase := .ended }, f.parting) else (f, [])

/-- What happens to the feed, and what it tells. What does not fit the phase is passed over. -/
def react (f : Feed) : FeedInput → Feed × List FeedReport
  | .switch => f.obey
  | .attempted success =>
    match f.phase, success with
    | .connecting, true =>
      ({ f with phase := .reading {}, backoff := f.backoff.reset }, [.connected true])
    | .connecting, false => (f.wait, [])
    | _, _ => (f, [])
  | .received bytes =>
    match f.phase with
    | .reading lines =>
      let (done, lines) := lines.read bytes
      ({ f with phase := .reading lines }, told done)
    | _ => (f, [])
  | .paused =>
    match f.phase with
    | .reading lines => ({ f with phase := .reading lines.pause }, [])
    | _ => (f, [])
  | .closed =>
    match f.phase with
    | .reading lines => (f.wait, told lines.finish.toList ++ [.connected false])
    | _ => (f, [])
  | .broken =>
    match f.phase with
    | .reading _ => (f.wait, [.connected false])
    | _ => (f, [])
  | .elapsed =>
    match f.phase with
    | .waiting _ => (f.resume, [])
    | _ => (f, [])

/-- What happens to the feed, and the dashboard after what it is told. -/
def step (f : Feed) (d : Dashboard) (input : FeedInput) : Feed × Dashboard :=
  let (after, reports) := f.react input
  (after, reports.foldl Dashboard.hear d)

end Feed
end QueryWatch
