/-
Trees written in preorder: a list of labels, each followed by what belongs to its children, read
by the number of trees it spells when the label tells how many children there are.
-/
import Mathlib.Data.List.Basic

namespace VpnSs.Preorder

variable {α : Type*} (arity : α → Nat)

/-- The list spells that many trees. -/
inductive Spells : Nat → List α → Prop
  | nil : Spells 0 []
  | cons {k : Nat} {a : α} {l : List α} : Spells (arity a + k) l → Spells (k + 1) (a :: l)

variable {arity}

theorem Spells.append {j k : Nat} {l m : List α} (hl : Spells arity j l) (hm : Spells arity k m) :
    Spells arity (j + k) (l ++ m) := by
  induction hl with
  | nil => rwa [Nat.zero_add]
  | cons _ ih =>
    rw [Nat.add_right_comm, List.cons_append]
    refine .cons ?_
    rwa [← Nat.add_assoc]

/-- One tree: a label and its children. -/
theorem Spells.tree {a : α} {l : List α} (h : Spells arity (arity a) l) : Spells arity 1 (a :: l) := .cons h

/-- A list that spells a tree at least has a first label, and the rest spells its children and the
trees after it. -/
theorem Spells.exists_cons {k : Nat} {l : List α} (h : Spells arity (k + 1) l) :
    ∃ a m, l = a :: m ∧ Spells arity (arity a + k) m := by
  cases h with
  | cons h => exact ⟨_, _, rfl, h⟩

end VpnSs.Preorder
