import QueryWatch.Protocol.Request
import QueryWatch.Execution.Outcome

/-!
What an operator can ask of the daemon. Each question is one request: a method and its parameters.
-/

set_option autoImplicit false

namespace QueryWatch

open Json (nat)

inductive Ask
  | status
  | view (asJson : Bool)
  | filter (text : String) (immediate : Bool)
  | select (connection : ConnectionId)
  | toggle (connection : ConnectionId) (command : CommandId)
  | expandAll
  | clear
  | connect
  | disconnect
  | execute (connection : ConnectionId) (command : CommandId)
  | run (request : ExecutionRequest)
  | copy (connection : ConnectionId) (command : CommandId)
  deriving DecidableEq, Repr

namespace Ask

def method : Ask → Method
  | status => .getHealth
  | view _ => .getView
  | filter _ _ => .setFilter
  | select _ => .selectSession
  | toggle _ _ => .toggleExpand
  | expandAll => .toggleExpandAll
  | clear => .clear
  | connect => .connect
  | disconnect => .disconnect
  | execute _ _ => .execute
  | run _ => .execute
  | copy _ _ => .getQuery

/-- The parameters that name a command. -/
def addressJson (connection : ConnectionId) (command : CommandId) : Json :=
  .object [("command_id", nat command.toNat), ("connection_id", .string connection)]

def params : Ask → Option Json
  | filter text immediate => some (.object [("immediate", .bool immediate), ("text", .string text)])
  | select connection => some (.object [("connection_id", .string connection)])
  | toggle connection command => some (addressJson connection command)
  | execute connection command => some (addressJson connection command)
  | run request => some request.toJson
  | copy connection command => some (addressJson connection command)
  | _ => none

/-- The request for a question, under an id. -/
def request (a : Ask) (id : String) : Request := ⟨protocolVersion, a.method, some id, a.params⟩

end Ask
end QueryWatch
