import QueryWatch.Operator.Ask
import QueryWatch.Operator.Client
import QueryWatch.Operator.Render

/-!
What an operator is shown for an answer of the daemon. What is absent from an answer or of another
type counts as empty, false or failed.
-/

set_option autoImplicit false

namespace QueryWatch.Ask

/-- A text in an answer. -/
def answerText (data : Json) (name : String) : String :=
  ((data.get? name).bind Json.asString?).getD ""

/-- A truth value in an answer. -/
def answerFlag (data : Json) (name : String) : Bool :=
  ((data.get? name).bind Json.asBool?).getD false

def shownFilter (data : Json) : String :=
  match (data.get? "pending").bind Json.asString? with
  | some pending => "filter \"" ++ pending ++ "\" pending"
  | none => "filter \"" ++ answerText data "applied" ++ "\" applied"

/-- What an execution gave; one that failed is an error. -/
def shownExecution (data : Json) : Except CallError String :=
  if answerFlag data "ok" then .ok (Text.trimEnd (answerText data "payload") ++ "\n")
  else .error (.daemon ⟨"execution_failed", answerText data "payload"⟩)

/-- What is shown for the answer to a question. -/
def shown (a : Ask) (data : Json) : Except CallError String :=
  match a with
  | status => .ok (Render.health data ++ "\n")
  | view true => .ok (data.pretty ++ "\n")
  | view false =>
    match Seen.readView data with
    | .error m => .error (.parse m.message)
    | .ok snapshot => .ok (Render.view snapshot)
  | filter _ _ => .ok (shownFilter data ++ "\n")
  | select connection => .ok ("selected #" ++ connection ++ "\n")
  | toggle connection command =>
    .ok ("#" ++ connection ++ "/" ++ toString command.toNat ++ " " ++
      (if answerFlag data "expanded" then "expanded" else "collapsed") ++ "\n")
  | expandAll => .ok (if answerFlag data "expand_all" then "expanded all\n" else "collapsed all\n")
  | clear => .ok "cleared\n"
  | connect => .ok "connecting\n"
  | disconnect => .ok "disconnecting\n"
  | execute _ _ => shownExecution data
  | run _ => shownExecution data
  | copy _ _ => .ok (answerText data "query_text" ++ "\n")

end QueryWatch.Ask
