import QueryWatch.Operator.Ask
import QueryWatch.Proofs.Daemon.Framing

/-!
What an operator asks is what the daemon is asked. A question is sent as a request that can be read
back (`Ask.readable_request`), with an object of texts, truth values and numbers as its parameters,
and the daemon reads from that object what the operator has given (`Ask.isUnderstood_params`). The
two sides agree on the names and types of the parameters, and a query is told from a recorded one by
the name of its command.
-/

set_option autoImplicit false

namespace QueryWatch

open Text (Bytes)
open Json (Plain)

/-! ### Parameters that are written -/

namespace Ask

variable (connection : ConnectionId) (command : CommandId) (request : ExecutionRequest)

theorem plain_toJson {depth : Nat} : Plain (depth + 2) request.toJson := by
  have hordered : ["database_name", "parameters", "query_text"].Pairwise (· < ·) := by decide
  refine .object (List.pairwise_map.mp hordered) ?_
  simp only [List.forall_mem_cons]
  exact ⟨.optString request.database, .strings request.parameters, .string request.text, nofun⟩

example : ((toggle "7" 3).request "a").line =
    "\x7b\"protocol_version\":1,\"method\":\"toggle_expand\",\"id\":\"a\",\"params\":" ++
      "\x7b\"command_id\":3,\"connection_id\":\"7\"\x7d\x7d\n" := by
  decide

end Ask
end QueryWatch
