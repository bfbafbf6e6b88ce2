import QueryWatch.Daemon.Basic
import QueryWatch.Execution.Command
import QueryWatch.Feed.Basic
import QueryWatch.Host.Disk
import QueryWatch.Service.Proxy
import QueryWatch.Settings.Loading
import QueryWatch.Settings.Location

/-!
The daemon as it runs. Beside the requests it answers, time goes on: a ticker commits the filter
text that is pending, and the feed connects, reads, waits and looks at the switches that were
posted. Time passes in steps of a millisecond; in each of them the ticker is looked at and the feed
does one thing.
-/

set_option autoImplicit false

namespace QueryWatch

open Text (Bytes)

structure Service where
  daemon : Daemon
  /-- The socket on which requests come. -/
  socket : String
  /-- The feed and the address of its proxy, if one is set. -/
  feed : Option (String × Feed)
  proxy : Proxy
  now : Moment
  /-- How many nanoseconds the ticker sleeps. -/
  tickInterval : Nat
  nextTick : Instant
  /-- When the feed has waited long enough to connect again. -/
  retryAt : Instant
  /-- Since when the feed reads in vain. -/
  quietSince : Instant

namespace Service

/-- How many nanoseconds the feed reads in vain before it looks up. -/
def readPoll : Nat := millis 100

/-- What starts: settings, a place to listen, and a proxy that may be there. If the settings cannot
be read all are defaults; if there is no place to listen nothing starts. -/
def start (host : Host) (disk : Disk) (home : String) (file : SettingsFile) (proxy : Proxy)
    (now : Moment) (processId : Nat) : Option Service :=
  let settings := match Settings.load file with
    | .ok settings => settings
    | .error _ => {}
  let socket := settings.daemon.socketIn home
  let tickInterval := millis (max settings.daemon.tickInterval 1)
  if disk.canListen socket then
    some
      { daemon :=
          { dashboard :=
              { Dashboard.ofSettings settings.dashboard with
                executor := Executor.ofSettings host settings.executor
                steering := .ofFeed settings.feed.address false }
            startedAt := now.time
            processId }
        socket
        feed :=
          (FeedSteering.feedAddress settings.feed.address).bind fun address ↦
            (Feed.ofSettings settings.feed).map fun feed ↦ (address, feed)
        proxy
        now
        tickInterval
        nextTick := now.instant + tickInterval
        retryAt := now.instant
        quietSince := now.instant }
  else none

/-- Something happens to the feed. When it lets go of its connection the proxy notices, and when it
goes to wait it is set when to try again. -/
def feedStep (s : Service) (address : String) (feed : Feed) (input : FeedInput) : Service :=
  let (after, dashboard) := feed.step s.daemon.dashboard input
  { s with
    daemon := s.daemon.setDashboard dashboard
    feed := some (address, after)
    proxy := match feed.phase, after.phase with
      | .reading _, .reading _ => s.proxy
      | .reading _, _ => s.proxy.left
      | _, _ => s.proxy
    retryAt := match feed.phase, after.phase with
      | .waiting _, _ => s.retryAt
      | _, .waiting delay => s.now.instant + millis delay
      | _, _ => s.retryAt }

/-- The feed tries to connect. -/
def attempt (s : Service) (address : String) (feed : Feed) : Service :=
  let success := s.proxy.answers address
  let s := s.feedStep address feed (.attempted success)
  if success then { s with proxy := s.proxy.connected, quietSince := s.now.instant } else s

/-- The feed takes what has come on a connection. -/
def receive (s : Service) (address : String) (feed : Feed) (link : ProxyLink) : Service :=
  let s := s.feedStep address feed (.received link.unread)
  { s with
    proxy := { s.proxy with link := some { link with unread := [] } }
    quietSince := s.now.instant }

/-- The feed has nothing to read. -/
def listen (s : Service) (address : String) (feed : Feed) : Service :=
  if s.quietSince + readPoll ≤ s.now.instant then
    { s.feedStep address feed .paused with quietSince := s.now.instant }
  else s

/-- The next thing the feed does: it takes what has come, else it looks at the next switch, else it
goes on with what it is doing. -/
def turn (s : Service) : Service :=
  match s.feed with
  | none => s
  | some (address, feed) =>
    match feed.phase, s.proxy.link with
    | .connecting, _ => s.attempt address feed
    | .reading _, some link =>
      if link.unread ≠ [] then s.receive address feed link
      else if feed.posted ≠ [] then s.feedStep address feed .switch
      else if link.closed then s.feedStep address feed .closed
      else s.listen address feed
    | .reading _, none => s.feedStep address feed .closed
    | .waiting _, _ =>
      if feed.posted ≠ [] then s.feedStep address feed .switch
      else if s.retryAt ≤ s.now.instant then s.feedStep address feed .elapsed
      else s
    | .idle, _ => s.feedStep address feed .switch
    | .ended, _ => s

/-- The ticker commits the filter text that is pending, if its time has come. -/
def tick (s : Service) : Service :=
  if s.nextTick ≤ s.now.instant then
    { s with
      daemon := s.daemon.setDashboard (s.daemon.dashboard.tick s.now.instant).2
      nextTick := s.nextTick + s.tickInterval }
  else s

/-- Time goes on for a number of milliseconds. -/
def pass : Nat → Service → Service
  | 0, s => s
  | n + 1, s => pass n { s with now := s.now.after (millis 1) }.tick.turn

/-- Time goes on until something holds, at most for a number of milliseconds. -/
def passUntil (holds : Service → Bool) : Nat → Service → Service
  | 0, s => s
  | n + 1, s => if holds s then s else passUntil holds n (pass 1 s)

/-- Answers a connection that brings these pieces, and posts what it asks of the feed. -/
def serve (s : Service) (pieces : List Bytes) : Response × Service :=
  let reply := s.daemon.serve pieces s.now
  let feed := match reply.switch with
    | some switch => s.feed.map fun (address, feed) ↦ (address, feed.post switch)
    | none => s.feed
  (reply.response, { s with daemon := reply.daemon, feed })

/-- The service with another state of its proxy. -/
def withProxy (s : Service) (f : Proxy → Proxy) : Service := { s with proxy := f s.proxy }

/-- What comes of bytes that are sent to a socket, when nobody but the service listens. -/
def exchange (disk : Disk) (path : String) : Service → Bytes → Except PathError Bytes × Service :=
  fun s bytes ↦
    if path = s.socket then
      let (response, s) := s.serve (Framing.pieces Framing.pieceSize bytes)
      (.ok (Text.Utf8.encode response.line), s)
    else (.error (disk.connectError path), s)

end Service
end QueryWatch
