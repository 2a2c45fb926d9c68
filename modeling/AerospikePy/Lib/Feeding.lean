import AerospikePy.Lib.Fallible

/-!
# Feeding a sequence to a consumer

A consumer has a state and may end the sequence with a result of its own. A loop that
inspects one item after the other and feeds it on does what feeding the good items first
and looking at the faulty one afterwards would do.
-/

namespace AerospikePy.Lib.Feeding

open AerospikePy.Lib.Fallible

variable {I A R S : Type} (inspect : I → Except R A) (f : S → A → Option R × S)

variable {inspect}

/-- Both fail alike, or both succeed and their results are related. -/
def Agree {B : Type} (P : A → B → Prop) : Except R A → Except R B → Prop
  | .ok a, .ok b => P a b
  | .error r, .error r' => r = r'
  | _, _ => False

end AerospikePy.Lib.Feeding
