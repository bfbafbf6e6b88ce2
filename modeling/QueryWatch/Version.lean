/-!
The version of this program.
-/

set_option autoImplicit false

namespace QueryWatch

/-- What the daemon and the operator's program say their version is. -/
def version : String := "0.1.0"

end QueryWatch
