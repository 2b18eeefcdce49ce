import NaiaRelay.HostRegistry

set_option autoImplicit false

/-!
What a relay-link message that fails leaves of the mirror. The flag is cleared before the
change is tried, and one of the changes can fail.
-/

namespace NaiaRelay.Rlp

open NaiaRelay.Registry NaiaRelay.Tep

variable {P : Platform} {ids : NewIds} {h : RLPHandler} {message : Obj}

end NaiaRelay.Rlp
