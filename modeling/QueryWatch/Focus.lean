import QueryWatch.Telemetry.Event

/-!
Which connection the dashboard looks at. A person can choose it; otherwise the policy says whether
a session that opens takes the focus.
-/

set_option autoImplicit false

namespace QueryWatch

inductive FocusPolicy
  | firstSessionWins
  | followNewest
  deriving DecidableEq, Repr

structure Focus where
  policy : FocusPolicy := .firstSessionWins
  active : Option ConnectionId := none
  deriving DecidableEq, Repr

namespace Focus

/-- Whether a session that opens on a connection takes the focus. -/
def attracts (f : Focus) (connection : ConnectionId) : Bool :=
  match f.policy with
  | .firstSessionWins => f.active.isNone
  | .followNewest => f.active != some connection

/-- The focus after a session has opened. -/
def opened (f : Focus) (connection : ConnectionId) : Focus :=
  if f.attracts connection then { f with active := some connection } else f

/-- The focus after a choice, which need not be a connection that was seen. -/
def choose (f : Focus) (connection : ConnectionId) : Focus := { f with active := some connection }

def clear (f : Focus) : Focus := { f with active := none }

def isOn (f : Focus) (connection : ConnectionId) : Bool := f.active = some connection

end Focus
end QueryWatch
