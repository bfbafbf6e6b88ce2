/-!
A query that is to be executed.
-/

set_option autoImplicit false

namespace QueryWatch

/-- A query text with its parameters, and the database it is for. -/
structure ExecutionRequest where
  database : Option String
  text : String
  parameters : List String
  deriving DecidableEq, Repr

end QueryWatch
