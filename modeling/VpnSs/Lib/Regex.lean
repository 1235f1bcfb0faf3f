/-
Patterns over the symbols of a list, with the matches of a backtracking search in the order in which it finds
them: the first is the match.
-/
import Mathlib.Data.List.Infix

namespace VpnSs

variable {α : Type*}

/-- `lazyStar` takes as few symbols as it can, `star` as many, and `group` remembers what it matches. -/
inductive Regex (α : Type*) where
  | empty
  | symbol (p : α → Bool)
  | seq (r s : Regex α)
  | optional (r : Regex α)
  | star (p : α → Bool)
  | lazyStar (p : α → Bool)
  | group (n : Nat) (r : Regex α)
  | atEnd (p : List α → Bool)

namespace Regex

/-- What the groups have matched, the last one first. -/
abbrev Captures (α : Type*) := List (Nat × List α)

/-- What is left behind none, one, two, ... symbols that satisfy `p`. -/
def spans (p : α → Bool) : List α → List (List α)
  | [] => [[]]
  | x :: t => (x :: t) :: if p x then spans p t else []

/-- The matches at the beginning of a list, in the order of the search: the groups, and what is left. -/
def ends : Regex α → Captures α → List α → List (Captures α × List α)
  | empty, c, t => [(c, t)]
  | symbol _, _, [] => []
  | symbol p, c, x :: t => if p x then [(c, t)] else []
  | seq r s, c, t => (ends r c t).flatMap fun m => ends s m.1 m.2
  | optional r, c, t => ends r c t ++ [(c, t)]
  | star p, c, t => (spans p t).reverse.map fun s => (c, s)
  | lazyStar p, c, t => (spans p t).map fun s => (c, s)
  | group n r, c, t => (ends r c t).map fun m => ((n, t.take (t.length - m.2.length)) :: m.1, m.2)
  | atEnd p, c, t => if p t then [(c, t)] else []

/-- The match at the beginning of the list. -/
def matchHere (r : Regex α) (t : List α) : Option (Captures α) := ((r.ends [] t).head?).map Prod.fst

/-- The match at the first place that has one. -/
def firstMatch (r : Regex α) (t : List α) : Option (Captures α) := t.tails.findSome? r.matchHere

/-- One symbol after the other. -/
def word : List (α → Bool) → Regex α
  | [] => empty
  | p :: ps => seq (symbol p) (word ps)

/-- At least one symbol. -/
def plus (p : α → Bool) : Regex α := seq (symbol p) (star p)

@[simp] theorem spans_cons (p : α → Bool) (x : α) (t : List α) :
    spans p (x :: t) = (x :: t) :: if p x then spans p t else [] := rfl

@[simp] theorem ends_symbol_cons (p : α → Bool) (c : Captures α) (x : α) (t : List α) :
    ends (symbol p) c (x :: t) = if p x then [(c, t)] else [] := rfl

@[simp] theorem ends_seq (r s : Regex α) (c : Captures α) (t : List α) :
    ends (seq r s) c t = (ends r c t).flatMap fun m => ends s m.1 m.2 := rfl

@[simp] theorem ends_optional (r : Regex α) (c : Captures α) (t : List α) :
    ends (optional r) c t = ends r c t ++ [(c, t)] := rfl

@[simp] theorem ends_star (p : α → Bool) (c : Captures α) (t : List α) :
    ends (star p) c t = (spans p t).reverse.map fun s => (c, s) := rfl

@[simp] theorem ends_lazyStar (p : α → Bool) (c : Captures α) (t : List α) :
    ends (lazyStar p) c t = (spans p t).map fun s => (c, s) := rfl

@[simp] theorem ends_group (n : Nat) (r : Regex α) (c : Captures α) (t : List α) :
    ends (group n r) c t =
      (ends r c t).map fun m => ((n, t.take (t.length - m.2.length)) :: m.1, m.2) := rfl

@[simp] theorem ends_atEnd (p : List α → Bool) (c : Captures α) (t : List α) :
    ends (atEnd p) c t = if p t then [(c, t)] else [] := rfl

/-! ## What matches leave -/

theorem suffix_of_mem_spans {p : α → Bool} {s t : List α} (h : s ∈ spans p t) : s <:+ t := by
  induction t with
  | nil => rw [List.mem_singleton.1 h]
  | cons x t ih =>
    rw [spans_cons, List.mem_cons] at h
    rcases h with rfl | h
    · exact List.suffix_refl _
    · split at h
      · exact (ih h).trans (List.suffix_cons x t)
      · cases h

/-- A match leaves an end of the list, and its groups are parts of the list. -/
theorem mem_ends {r : Regex α} {c c' : Captures α} {t s : List α} (h : (c', s) ∈ ends r c t) :
    s <:+ t ∧ ∀ g ∈ c', g ∈ c ∨ g.2 <:+: t := by
  induction r generalizing c c' t s with
  | empty =>
    cases List.mem_singleton.1 h
    exact ⟨List.suffix_refl _, fun g hg => .inl hg⟩
  | symbol p =>
    cases t with
    | nil => cases h
    | cons x t =>
      rw [ends_symbol_cons] at h
      split at h
      · cases List.mem_singleton.1 h
        exact ⟨List.suffix_cons _ _, fun g hg => .inl hg⟩
      · cases h
  | seq r₁ r₂ ihr ihs =>
    obtain ⟨⟨d, u⟩, hm, hs⟩ := List.mem_flatMap.1 h
    obtain ⟨hu, hd⟩ := ihr hm
    obtain ⟨hsu, hc⟩ := ihs hs
    refine ⟨hsu.trans hu, fun g hg => ?_⟩
    rcases hc g hg with hg | hg
    · exact hd g hg
    · exact .inr (hg.trans hu.isInfix)
  | optional r ih =>
    rcases List.mem_append.1 h with h | h
    · exact ih h
    · cases List.mem_singleton.1 h
      exact ⟨List.suffix_refl _, fun g hg => .inl hg⟩
  | star p =>
    obtain ⟨u, hu, heq⟩ := List.mem_map.1 h
    cases heq
    exact ⟨suffix_of_mem_spans (List.mem_reverse.1 hu), fun g hg => .inl hg⟩
  | lazyStar p =>
    obtain ⟨u, hu, heq⟩ := List.mem_map.1 h
    cases heq
    exact ⟨suffix_of_mem_spans hu, fun g hg => .inl hg⟩
  | group n r ih =>
    obtain ⟨⟨d, u⟩, hm, heq⟩ := List.mem_map.1 h
    cases heq
    obtain ⟨hu, hd⟩ := ih hm
    refine ⟨hu, fun g hg => ?_⟩
    rcases List.mem_cons.1 hg with rfl | hg
    · exact .inr (List.take_prefix _ _).isInfix
    · exact hd g hg
  | atEnd p =>
    rw [ends_atEnd] at h
    split at h
    · cases List.mem_singleton.1 h
      exact ⟨List.suffix_refl _, fun g hg => .inl hg⟩
    · cases h

/-- The pattern has no groups. -/
def groupless : Regex α → Bool
  | seq r s => r.groupless && s.groupless
  | optional r => r.groupless
  | group _ _ => false
  | _ => true

theorem groupless_word (ps : List (α → Bool)) : (word ps).groupless = true := by
  induction ps with
  | nil => rfl
  | cons p ps ih => exact ih

theorem captures_of_mem_ends {r : Regex α} {c c' : Captures α} {t s : List α} (hr : r.groupless = true)
    (h : (c', s) ∈ ends r c t) : c' = c := by
  induction r generalizing c c' t s with
  | empty => cases List.mem_singleton.1 h; rfl
  | symbol p =>
    cases t with
    | nil => cases h
    | cons x t =>
      rw [ends_symbol_cons] at h
      split at h
      · cases List.mem_singleton.1 h; rfl
      · cases h
  | seq r₁ r₂ ihr ihs =>
    obtain ⟨hr₁, hr₂⟩ := Bool.and_eq_true_iff.1 hr
    obtain ⟨⟨d, u⟩, hm, hs⟩ := List.mem_flatMap.1 h
    exact (ihs hr₂ hs).trans (ihr hr₁ hm)
  | optional r ih =>
    rcases List.mem_append.1 h with h | h
    · exact ih hr h
    · cases List.mem_singleton.1 h; rfl
  | star p =>
    obtain ⟨u, -, heq⟩ := List.mem_map.1 h
    cases heq; rfl
  | lazyStar p =>
    obtain ⟨u, -, heq⟩ := List.mem_map.1 h
    cases heq; rfl
  | group n r ih => cases hr
  | atEnd p =>
    rw [ends_atEnd] at h
    split at h
    · cases List.mem_singleton.1 h; rfl
    · cases h

/-! ## Which match is found -/

/-- A match at the beginning is the first. -/
theorem firstMatch_of_matchHere {r : Regex α} {c : Captures α} {t : List α} (h : r.matchHere t = some c) :
    r.firstMatch t = some c := by
  cases t with
  | nil => rw [firstMatch, List.tails, List.findSome?_cons, h]
  | cons x t => rw [firstMatch, List.tails, List.findSome?_cons, h]

/-- What satisfies the symbols of a word is what it matches. -/
theorem ends_word {ps : List (α → Bool)} {w : List α} (h : List.Forall₂ (fun p x => p x = true) ps w) (c : Captures α)
    (t : List α) : ends (word ps) c (w ++ t) = [(c, t)] := by
  induction h with
  | nil => rfl
  | cons hp h ih =>
    rw [word, ends_seq, List.cons_append, ends_symbol_cons, if_pos hp, List.flatMap_singleton, ih]

theorem ends_word_of_neg {p : α → Bool} {x : α} (hx : p x = false) (ps : List (α → Bool)) (c : Captures α)
    (t : List α) : ends (word (p :: ps)) c (x :: t) = [] := by
  rw [word, ends_seq, ends_symbol_cons, if_neg (Bool.eq_false_iff.1 hx), List.flatMap_nil]

theorem ends_seq_word {ps : List (α → Bool)} {w : List α} (h : List.Forall₂ (fun p x => p x = true) ps w)
    (r : Regex α) (c : Captures α) (t : List α) : ends (seq (word ps) r) c (w ++ t) = ends r c t := by
  rw [ends_seq, ends_word h, List.flatMap_singleton]

/-- With what is optional comes first, without it next. -/
theorem ends_seq_optional (r s : Regex α) (c : Captures α) (t : List α) :
    ends (seq (optional r) s) c t = ends (seq r s) c t ++ ends s c t := by
  simp only [ends_seq, ends_optional, List.flatMap_append, List.flatMap_singleton]

theorem ends_seq_symbol {p : α → Bool} {x : α} (hx : p x = true) (r : Regex α) (c : Captures α) (t : List α) :
    ends (seq (symbol p) r) c (x :: t) = ends r c t := by
  rw [ends_seq, ends_symbol_cons, if_pos hx, List.flatMap_singleton]

/-- As few symbols as it can: those before the first place where the rest matches. -/
theorem ends_lazyStar_seq {p : α → Bool} {r : Regex α} {c : Captures α} {w t : List α} (hp : ∀ x ∈ w, p x = true)
    (hr : ∀ x ∈ w, ∀ s, ends r c (x :: s) = []) :
    (ends (seq (lazyStar p) r) c (w ++ t)).head? = (ends (seq (lazyStar p) r) c t).head? := by
  induction w with
  | nil => rfl
  | cons x w ih =>
    rw [← ih (fun y hy => hp y (List.mem_cons_of_mem x hy)) fun y hy => hr y (List.mem_cons_of_mem x hy)]
    simp only [ends_seq, ends_lazyStar, List.cons_append, spans_cons, hp x List.mem_cons_self, if_true, List.map_cons, List.flatMap_cons,
      hr x List.mem_cons_self, List.nil_append]

/-- The rest matches at once. -/
theorem head?_ends_lazyStar_seq {p : α → Bool} {r : Regex α} {c : Captures α} {t : List α} {m : Captures α × List α}
    (h : (ends r c t).head? = some m) : (ends (seq (lazyStar p) r) c t).head? = some m := by
  cases t with
  | nil => simpa [spans] using h
  | cons x t => simp [List.head?_append, h]

theorem getLast?_spans {p : α → Bool} {t : List α} (hp : ∀ x ∈ t, p x = true) : (spans p t).getLast? = some [] := by
  induction t with
  | nil => rfl
  | cons x t ih =>
    have hlast := ih fun y hy => hp y (List.mem_cons_of_mem x hy)
    rw [spans_cons, if_pos (hp x List.mem_cons_self), List.getLast?_cons, hlast]
    rfl

/-- As many symbols as it can: all of them. -/
theorem head?_ends_star {p : α → Bool} (c : Captures α) {t : List α} (hp : ∀ x ∈ t, p x = true) :
    (ends (star p) c t).head? = some (c, []) := by
  rw [ends_star, List.head?_map, List.head?_reverse, getLast?_spans hp, Option.map_some]

theorem head?_ends_group {n : Nat} {r : Regex α} {c d : Captures α} {t s : List α}
    (h : (ends r c t).head? = some (d, s)) :
    (ends (group n r) c t).head? = some ((n, t.take (t.length - s.length)) :: d, s) := by
  rw [ends_group, List.head?_map, h, Option.map_some]

end Regex

end VpnSs
