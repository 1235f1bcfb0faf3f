/-
Searching a list for a pattern from its end: where a pattern occurs, its last occurrence, and how
occurrences relate to the lists they are cut from.
-/
import Mathlib.Data.List.Infix

namespace VpnSs.Search

variable {α : Type*}

/-- The pattern stands at position `i`. -/
def OccursAt (p l : List α) (i : Nat) : Prop := i + p.length ≤ l.length ∧ p <+: l.drop i

theorem occursAt_zero {p l : List α} : OccursAt p l 0 ↔ p <+: l := by
  rw [OccursAt, List.drop_zero, Nat.zero_add, and_iff_right_iff_imp]
  exact List.IsPrefix.length_le

theorem occursAt_succ {p xs : List α} {x : α} {i : Nat} : OccursAt p (x :: xs) (i + 1) ↔ OccursAt p xs i := by
  rw [OccursAt, OccursAt, List.drop_succ_cons, List.length_cons, Nat.add_right_comm, Nat.add_le_add_iff_right]

theorem not_occursAt_nil {p : List α} (hp : p ≠ []) (i : Nat) : ¬ OccursAt p [] i := by
  rintro ⟨hlen, -⟩
  have := List.length_pos_of_ne_nil hp
  rw [List.length_nil] at hlen
  omega

/-! ## The last occurrence -/

section Last

variable [DecidableEq α]

/-- The last position of the pattern. -/
def last (p : List α) : List α → Option Nat
  | [] => if p = [] then some 0 else none
  | x :: xs =>
    match last p xs with
    | some i => some (i + 1)
    | none => if p <+: x :: xs then some 0 else none

/-- The search finds nothing exactly where the pattern does not occur. -/
theorem last_eq_none {p l : List α} (hp : p ≠ []) : last p l = none ↔ ∀ i, ¬ OccursAt p l i := by
  induction l with
  | nil => simp [last, hp, not_occursAt_nil hp]
  | cons x xs ih =>
    rw [last]
    rcases hl : last p xs with _ | j
    · have hxs := ih.1 hl
      constructor
      · intro h i
        cases i with
        | zero =>
          rw [occursAt_zero]
          intro hpre
          simp [hpre] at h
        | succ i => rw [occursAt_succ]; exact hxs i
      · intro h
        exact if_neg fun hpre => h 0 (occursAt_zero.2 hpre)
    · have hsome : ¬ ∀ i, ¬ OccursAt p xs i := by
        rw [← ih, hl]; exact Option.some_ne_none j
      refine iff_of_false (Option.some_ne_none _) ?_
      intro h
      exact hsome fun i hi => h (i + 1) (occursAt_succ.2 hi)

/-- What the search finds is the greatest position. -/
theorem last_eq_some {p l : List α} (hp : p ≠ []) {i : Nat} :
    last p l = some i ↔ OccursAt p l i ∧ ∀ j, OccursAt p l j → j ≤ i := by
  induction l generalizing i with
  | nil => simp [last, hp, not_occursAt_nil hp]
  | cons x xs ih =>
    rw [last]
    rcases hl : last p xs with _ | k
    · have hxs := (last_eq_none hp).1 hl
      dsimp only
      constructor
      · intro h
        split at h
        · rename_i hpre
          cases h
          refine ⟨occursAt_zero.2 hpre, ?_⟩
          intro j hj
          cases j with
          | zero => exact Nat.le_refl 0
          | succ j => exact absurd (occursAt_succ.1 hj) (hxs j)
        · cases h
      · rintro ⟨hi, -⟩
        cases i with
        | zero => exact if_pos (occursAt_zero.1 hi)
        | succ i => exact absurd (occursAt_succ.1 hi) (hxs i)
    · obtain ⟨hk, hmax⟩ := ih.1 hl
      constructor
      · intro h
        cases h
        refine ⟨occursAt_succ.2 hk, ?_⟩
        intro j hj
        cases j with
        | zero => exact Nat.zero_le _
        | succ j => exact Nat.succ_le_succ (hmax j (occursAt_succ.1 hj))
      · rintro ⟨hi, himax⟩
        have hle : k + 1 ≤ i := himax (k + 1) (occursAt_succ.2 hk)
        cases i with
        | zero => omega
        | succ i =>
          have : i ≤ k := hmax i (occursAt_succ.1 hi)
          have hik : k = i := by omega
          rw [hik]

end Last

/-! ## Occurrences and cuts -/

/-- What stands at a position cuts the list in three. -/
theorem OccursAt.split {p l : List α} {i : Nat} (h : OccursAt p l i) :
    l = l.take i ++ p ++ l.drop (i + p.length) := by
  obtain ⟨-, t, ht⟩ := h
  have hdrop : l.drop (i + p.length) = t := by
    rw [← List.drop_drop, ← ht, List.drop_left]
  rw [hdrop, List.append_assoc, ht, List.take_append_drop]

/-- An occurrence that ends within the first part stands in it. -/
theorem OccursAt.of_append {p l r : List α} {i : Nat} (h : OccursAt p (l ++ r) i) (hi : i + p.length ≤ l.length) :
    OccursAt p l i := by
  obtain ⟨-, hpre⟩ := h
  refine ⟨hi, ?_⟩
  rw [List.drop_append_of_le_length (by omega)] at hpre
  exact List.prefix_of_prefix_length_le hpre (List.prefix_append _ _) (by rw [List.length_drop]; omega)

/-- Occurrences from a position on are those of the rest of the list. -/
theorem occursAt_drop {p l : List α} {k i : Nat} (hk : k ≤ l.length) : OccursAt p (l.drop k) i ↔ OccursAt p l (k + i) := by
  rw [OccursAt, OccursAt, List.drop_drop, List.length_drop]
  apply and_congr_left
  intro _
  omega

/-- A search from `k` on finds what a search of the whole list finds, if nothing stands before `k`. -/
theorem last_eq_map_drop [DecidableEq α] {p l : List α} (hp : p ≠ []) {k : Nat} (hk : k ≤ l.length)
    (h : ∀ i, OccursAt p l i → k ≤ i) : last p l = (last p (l.drop k)).map (k + ·) := by
  rcases hd : last p (l.drop k) with _ | j
  · have hnone := (last_eq_none hp).1 hd
    rw [Option.map_none, last_eq_none hp]
    intro i hi
    obtain ⟨d, rfl⟩ := Nat.exists_eq_add_of_le (h i hi)
    exact hnone d ((occursAt_drop hk).2 hi)
  · obtain ⟨hj, hmax⟩ := (last_eq_some hp).1 hd
    rw [Option.map_some, last_eq_some hp]
    refine ⟨(occursAt_drop hk).1 hj, ?_⟩
    intro i hi
    obtain ⟨d, rfl⟩ := Nat.exists_eq_add_of_le (h i hi)
    exact Nat.add_le_add_left (hmax d ((occursAt_drop hk).2 hi)) k

end VpnSs.Search
