import Mathlib.Data.List.Infix
import Mathlib.Data.List.Basic

/-!
# Settings inherited along a path

The nodes of a tree by their paths, the last component first. A node without a setting of
its own takes that of the nearest node above it.
-/

namespace AerospikePy.Lib.Inheritance

variable {A V : Type} (root : V) (own : List A → Option V)

def inherited : List A → V
  | [] => root
  | a :: path => match own (a :: path) with
    | some v => v
    | none => inherited path

variable {root own}

/-- Only the settings on the way to the root matter. -/
theorem inherited_congr {root' : V} {own' : List A → Option V} {path : List A}
    (hroot : root = root') (h : ∀ node, node ≠ [] → node <:+ path → own node = own' node) :
    inherited root own path = inherited root' own' path := by
  induction path with
  | nil => exact hroot
  | cons a path ih =>
    have hrest := ih fun node hne hnode => h node hne (hnode.trans (List.suffix_cons a path))
    rw [inherited, inherited, h (a :: path) (by simp) (List.suffix_refl _), hrest]

end AerospikePy.Lib.Inheritance
