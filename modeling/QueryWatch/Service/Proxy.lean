import QueryWatch.Text.Utf8

/-!
The proxy at the other end of the feed: whether it can be reached, and the connection the feed has
to it. The feed is connected as soon as it has reached the proxy, but the proxy only sends on a
connection that it has accepted.
-/

set_option autoImplicit false

namespace QueryWatch

open Text (Bytes)

/-- A connection to the proxy: whether the proxy has accepted it, what the feed has not read yet,
and whether the proxy has closed it. -/
structure ProxyLink where
  accepted : Bool := false
  unread : Bytes := []
  closed : Bool := false
  deriving DecidableEq, Repr

structure Proxy where
  address : String
  listening : Bool
  link : Option ProxyLink := none
  deriving DecidableEq, Repr

namespace Proxy

/-- Whether a connection to an address leads here. -/
def answers (p : Proxy) (address : String) : Bool := p.listening && p.address = address

/-- The feed connects. -/
def connected (p : Proxy) : Proxy := { p with link := some {} }

/-- The feed lets its connection go. -/
def left (p : Proxy) : Proxy := { p with link := none }

/-- The proxy with another state of its open connection, if it has accepted one. -/
def onAccepted (p : Proxy) (f : ProxyLink → ProxyLink) : Proxy :=
  { p with link := p.link.map fun l ↦ if l.accepted && !l.closed then f l else l }

/-- The connection that waits to be accepted. -/
def waiting? (p : Proxy) : Option ProxyLink := p.link.filter fun l ↦ !l.accepted && !l.closed

/-- The proxy accepts the connection that waits. -/
def accept (p : Proxy) : Proxy :=
  match p.waiting? with
  | some l => { p with link := some { l with accepted := true } }
  | none => p

def send (p : Proxy) (bytes : Bytes) : Proxy :=
  p.onAccepted fun l ↦ { l with unread := l.unread ++ bytes }

def close (p : Proxy) : Proxy := p.onAccepted fun l ↦ { l with closed := true }

def listen (p : Proxy) : Proxy := { p with listening := true }

/-- The proxy cannot be reached any more; a connection that it has not accepted is closed. -/
def unlisten (p : Proxy) : Proxy :=
  { p with
    listening := false
    link := p.link.map fun l ↦ if l.accepted then l else { l with closed := true } }

end Proxy
end QueryWatch
