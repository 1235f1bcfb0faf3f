/-
Descending in a tree by bits: states from which each bit leads to another state or to an outcome,
the outcome a list of bits leads to, and where outcomes stand. No two outcomes stand one above
the other, so the one a list of bits meets is the only one on its way.
-/
import Mathlib.Data.List.Infix

namespace VpnSs.Descent

variable {σ α : Type*} (next : σ → Bool → σ ⊕ α)

/-- Following the bits from a state: the outcome met and the number of bits up to it, or the state
reached when they end. -/
def descend : σ → List Bool → σ ⊕ (α × Nat)
  | s, [] => .inl s
  | s, b :: bs =>
    match next s b with
    | .inr a => .inr (a, 1)
    | .inl t => (descend t bs).map id fun x => (x.1, x.2 + 1)

/-- The outcome stands at the end of the path. -/
inductive Stands : σ → List Bool → α → Prop
  | stop {s : σ} {b : Bool} {a : α} : next s b = .inr a → Stands s [b] a
  | turn {s t : σ} {b : Bool} {p : List Bool} {a : α} : next s b = .inl t → Stands t p a → Stands s (b :: p) a

variable {next}

theorem descend_nil (s : σ) : descend next s [] = .inl s := rfl

theorem descend_cons_inl {s t : σ} {b : Bool} (h : next s b = .inl t) (bs : List Bool) :
    descend next s (b :: bs) = (descend next t bs).map id fun x => (x.1, x.2 + 1) := by rw [descend, h]

theorem descend_cons_inr {s : σ} {b : Bool} {a : α} (h : next s b = .inr a) (bs : List Bool) :
    descend next s (b :: bs) = .inr (a, 1) := by rw [descend, h]

/-- The descent meets the outcome that stands at a beginning of the bits. -/
theorem descend_eq_inr {s : σ} {bs : List Bool} {a : α} {n : Nat} :
    descend next s bs = .inr (a, n) ↔ ∃ p, p <+: bs ∧ p.length = n ∧ Stands next s p a := by
  induction bs generalizing s n with
  | nil =>
    rw [descend_nil]
    refine iff_of_false nofun ?_
    rintro ⟨p, hp, -, hs⟩
    rw [List.prefix_nil.1 hp] at hs
    cases hs
  | cons b bs ih =>
    rcases h : next s b with t | c
    · rw [descend_cons_inl h]
      constructor
      · intro hd
        rcases hr : descend next t bs with u | ⟨c, m⟩
        · rw [hr] at hd; cases hd
        · rw [hr] at hd
          cases hd
          obtain ⟨p, hp, rfl, hs⟩ := ih.1 hr
          exact ⟨b :: p, (List.prefix_cons_inj b).2 hp, rfl, .turn h hs⟩
      · rintro ⟨p, hp, rfl, hs⟩
        cases hs with
        | stop h' => rw [(List.cons_prefix_cons.1 hp).1, h] at h'; cases h'
        | turn h' hs =>
          obtain ⟨rfl, htail⟩ := List.cons_prefix_cons.1 hp
          cases h.symm.trans h'
          rw [ih.2 ⟨_, htail, rfl, hs⟩]
          rfl
    · rw [descend_cons_inr h]
      constructor
      · intro hd
        cases hd
        exact ⟨[b], List.cons_prefix_cons.2 ⟨rfl, List.nil_prefix⟩, rfl, .stop h⟩
      · rintro ⟨p, hp, rfl, hs⟩
        cases hs with
        | stop h' =>
          rw [(List.cons_prefix_cons.1 hp).1, h] at h'
          cases h'
          rfl
        | turn h' _ => rw [(List.cons_prefix_cons.1 hp).1, h] at h'; cases h'

theorem descend_bounds {s : σ} {bs : List Bool} {a : α} {n : Nat} (h : descend next s bs = .inr (a, n)) :
    0 < n ∧ n ≤ bs.length := by
  obtain ⟨p, hp, rfl, hs⟩ := descend_eq_inr.1 h
  refine ⟨?_, hp.length_le⟩
  cases hs <;> exact Nat.succ_pos _

/-- A path ends in at most one outcome, and no outcome stands above another. -/
theorem Stands.unique {s : σ} {bs p q : List Bool} {a b : α} (ha : Stands next s p a) (hb : Stands next s q b)
    (hp : p <+: bs) (hq : q <+: bs) : p = q ∧ a = b := by
  have hda := descend_eq_inr.2 ⟨p, hp, rfl, ha⟩
  have hdb := descend_eq_inr.2 ⟨q, hq, rfl, hb⟩
  obtain ⟨hab, hlen⟩ := Prod.mk.inj (Sum.inr.inj (hda.symm.trans hdb))
  exact ⟨(List.prefix_of_prefix_length_le hp hq hlen.le).eq_of_length hlen, hab⟩

/-- A descent by two lists of bits goes on, from where the first leads, with the second. -/
theorem descend_append (s : σ) (p q : List Bool) : descend next s (p ++ q) =
    match descend next s p with
    | .inl t => (descend next t q).map id fun x => (x.1, x.2 + p.length)
    | .inr x => .inr x := by
  induction p generalizing s with
  | nil =>
    rw [List.nil_append, descend_nil]
    dsimp only
    rcases descend next s q with t | ⟨a, n⟩ <;> rfl
  | cons b p ih =>
    rw [List.cons_append]
    rcases h : next s b with t | a
    · rw [descend_cons_inl h, descend_cons_inl h, ih]
      rcases descend next t p with u | x
      · dsimp only [Sum.map_inl, id]
        rcases descend next u q with v | ⟨a, n⟩
        · rfl
        · rw [List.length_cons]
          simp only [Sum.map_inr, Nat.add_assoc]
      · rfl
    · rw [descend_cons_inr h, descend_cons_inr h]

end VpnSs.Descent
