/-
Lists cut at every occurrence of two symbols in a row, as text is cut into lines, and put together
again; and the two ends of a list trimmed.
-/
import Mathlib.Data.List.DropRight
import Mathlib.Data.List.Infix

namespace VpnSs.Lines

variable {α : Type*}

/-! ## Cutting -/

theorem not_infix_cons {a b x y : α} {t : List α} (hxy : ¬ (x = a ∧ y = b)) (h : ¬ [a, b] <:+: y :: t) :
    ¬ [a, b] <:+: x :: y :: t := by
  rw [List.infix_cons_iff]
  rintro (hpre | hin)
  · obtain ⟨hx, hpre⟩ := List.cons_prefix_cons.1 hpre
    obtain ⟨hy, -⟩ := List.cons_prefix_cons.1 hpre
    exact hxy ⟨hx.symm, hy.symm⟩
  · exact h hin

section Cut

variable [DecidableEq α]

/-- The parts between the occurrences of `a` followed by `b`. -/
def cut (a b : α) : List α → List (List α)
  | [] => [[]]
  | [x] => [[x]]
  | x :: y :: t =>
    if x = a ∧ y = b then [] :: cut a b t
    else (cut a b (y :: t)).modifyHead (x :: ·)

variable {a b : α}

theorem cut_ne_nil (t : List α) : cut a b t ≠ [] := by
  fun_induction cut a b t with
  | case1 => exact List.cons_ne_nil _ _
  | case2 x => exact List.cons_ne_nil _ _
  | case3 x y t h => exact List.cons_ne_nil _ _
  | case4 x y t h ih => rw [Ne, List.modifyHead_eq_nil_iff]; exact ih

/-- The first part begins the list. -/
theorem isPrefix_of_cut {t l : List α} {ls : List (List α)} (h : cut a b t = l :: ls) : l <+: t := by
  fun_induction cut a b t generalizing l ls with
  | case1 => cases h; exact List.prefix_refl _
  | case2 x => cases h; exact List.prefix_refl _
  | case3 x y t hxy ih => cases h; exact List.nil_prefix
  | case4 x y t hxy ih =>
    rcases hcut : cut a b (y :: t) with _ | ⟨m, ms⟩
    · exact absurd hcut (cut_ne_nil _)
    · rw [hcut, List.modifyHead_cons] at h
      cases h
      exact (List.prefix_cons_inj x).2 (ih hcut)

/-- The parts do not contain the separator. -/
theorem not_infix_of_mem_cut {t : List α} {l : List α} (hl : l ∈ cut a b t) : ¬ [a, b] <:+: l := by
  fun_induction cut a b t generalizing l with
  | case1 =>
    rw [List.mem_singleton.1 hl]
    intro h
    simpa using h.length_le
  | case2 x =>
    rw [List.mem_singleton.1 hl]
    intro h
    simpa using h.length_le
  | case3 x y t h ih =>
    rcases List.mem_cons.1 hl with rfl | hl
    · intro h
      simpa using h.length_le
    · exact ih hl
  | case4 x y t h ih =>
    rcases hcut : cut a b (y :: t) with _ | ⟨m, ms⟩
    · exact absurd hcut (cut_ne_nil _)
    · rw [hcut, List.modifyHead_cons] at hl
      rcases List.mem_cons.1 hl with rfl | hl
      · -- the first part gets one more symbol in front, and the next one is `y` if there is one
        rcases m with _ | ⟨z, m⟩
        · intro hin
          simpa using hin.length_le
        · obtain ⟨rfl, -⟩ := List.cons_prefix_cons.1 (isPrefix_of_cut hcut)
          exact not_infix_cons h (ih (by rw [hcut]; exact List.mem_cons_self))
      · exact ih (by rw [hcut]; exact List.mem_cons_of_mem m hl)

/-- The parts are parts of the list. -/
theorem infix_of_mem_cut {t : List α} {l : List α} (hl : l ∈ cut a b t) : l <:+: t := by
  fun_induction cut a b t generalizing l with
  | case1 => rw [List.mem_singleton.1 hl]
  | case2 x => rw [List.mem_singleton.1 hl]
  | case3 x y t h ih =>
    rcases List.mem_cons.1 hl with rfl | hl
    · exact List.nil_infix
    · exact (ih hl).trans ((List.suffix_cons y t).trans (List.suffix_cons x _)).isInfix
  | case4 x y t h ih =>
    rcases hcut : cut a b (y :: t) with _ | ⟨m, ms⟩
    · exact absurd hcut (cut_ne_nil _)
    · rw [hcut, List.modifyHead_cons] at hl
      rcases List.mem_cons.1 hl with rfl | hl
      · exact ((List.prefix_cons_inj x).2 (isPrefix_of_cut hcut)).isInfix
      · exact (ih (by rw [hcut]; exact List.mem_cons_of_mem m hl)).trans (List.suffix_cons x _).isInfix

/-- Cutting a list that goes on after the separator. -/
theorem cut_append (hab : a ≠ b) {l : List α} (hl : ¬ [a, b] <:+: l) (t : List α) :
    cut a b (l ++ a :: b :: t) = l :: cut a b t := by
  induction l with
  | nil => rw [List.nil_append, cut, if_pos ⟨rfl, rfl⟩]
  | cons x l ih =>
    have htail : ¬ [a, b] <:+: l := fun h => hl (h.trans (List.suffix_cons x l).isInfix)
    cases l with
    | nil =>
      rw [List.cons_append, List.nil_append, cut, if_neg fun h => hab h.2, cut, if_pos ⟨rfl, rfl⟩]
      rfl
    | cons y l =>
      have hxy : ¬ (x = a ∧ y = b) := by
        rintro ⟨rfl, rfl⟩
        exact hl ⟨[], l, rfl⟩
      rw [List.cons_append, List.cons_append, cut, if_neg hxy, ← List.cons_append, ih htail]
      rfl

/-- Parts put together with the separator after each are cut into these parts again, and an empty one. -/
theorem cut_flatMap (hab : a ≠ b) {ls : List (List α)} (hls : ∀ l ∈ ls, ¬ [a, b] <:+: l) (t : List α) :
    cut a b (ls.flatMap (fun l => l ++ [a, b]) ++ t) = ls ++ cut a b t := by
  induction ls with
  | nil => rfl
  | cons l ls ih =>
    rw [List.forall_mem_cons] at hls
    have hassoc : (l :: ls).flatMap (fun l => l ++ [a, b]) ++ t =
        l ++ a :: b :: (ls.flatMap (fun l => l ++ [a, b]) ++ t) := by simp
    rw [hassoc, cut_append hab hls.1, ih hls.2, List.cons_append]

end Cut

/-! ## Parts around one symbol -/

/-- Two lists without the separator, around a symbol that is not of it. -/
theorem not_infix_append_cons {a b c : α} (ha : c ≠ a) (hb : c ≠ b) {l r : List α} (hl : ¬ [a, b] <:+: l)
    (hr : ¬ [a, b] <:+: r) : ¬ [a, b] <:+: l ++ c :: r := by
  induction l with
  | nil =>
    rw [List.nil_append, List.infix_cons_iff]
    rintro (hpre | hin)
    · exact ha (List.cons_prefix_cons.1 hpre).1.symm
    · exact hr hin
  | cons x l ih =>
    have htail : ¬ [a, b] <:+: l := fun h => hl (h.trans (List.suffix_cons x l).isInfix)
    rw [List.cons_append, List.infix_cons_iff]
    rintro (hpre | hin)
    · obtain ⟨hx, hnext⟩ := List.cons_prefix_cons.1 hpre
      cases l with
      | nil => exact hb (List.cons_prefix_cons.1 hnext).1.symm
      | cons y l =>
        have hy : b = y := (List.cons_prefix_cons.1 hnext).1
        exact hl ⟨[], l, by rw [hx, hy]; rfl⟩
    · exact ih htail hin

theorem not_mem_of_mem_splitOn [DecidableEq α] {c : α} {t l : List α} (hl : l ∈ t.splitOn c) : c ∉ l := by
  induction t generalizing l with
  | nil =>
    rw [List.splitOn_nil, List.mem_singleton] at hl
    rw [hl]
    exact List.not_mem_nil
  | cons x t ih =>
    rw [List.splitOn_cons_eq_if_modifyHead] at hl
    split at hl
    · rcases List.mem_cons.1 hl with rfl | hl
      · exact List.not_mem_nil
      · exact ih hl
    · rename_i hx
      rcases hsplit : t.splitOn c with _ | ⟨m, ms⟩
      · exact absurd hsplit (List.splitOn_ne_nil c t)
      · rw [hsplit, List.modifyHead_cons] at hl
        have hxc : x ≠ c := fun h => hx (beq_iff_eq.2 h)
        rcases List.mem_cons.1 hl with rfl | hl
        · have hm := ih (l := m) (by rw [hsplit]; exact List.mem_cons_self)
          rw [List.mem_cons]
          rintro (rfl | h)
          · exact hxc rfl
          · exact hm h
        · exact ih (by rw [hsplit]; exact List.mem_cons_of_mem m hl)

/-- Three parts around a symbol. -/
theorem splitOn_eq_three [DecidableEq α] {c : α} {t x y z : List α} :
    t.splitOn c = [x, y, z] ↔ t = x ++ c :: (y ++ c :: z) ∧ c ∉ x ∧ c ∉ y ∧ c ∉ z := by
  constructor
  · intro h
    refine ⟨?_, ?_, ?_, ?_⟩
    · have hjoin : [c].intercalate (t.splitOn c) = t := List.intercalate_splitOn c
      rw [h] at hjoin
      rw [← hjoin]
      simp [List.intercalate]
    · exact not_mem_of_mem_splitOn (by rw [h]; simp)
    · exact not_mem_of_mem_splitOn (by rw [h]; simp)
    · exact not_mem_of_mem_splitOn (by rw [h]; simp)
  · rintro ⟨rfl, hx, hy, hz⟩
    rw [List.splitOn_append_cons_self_of_not_mem hx, List.splitOn_append_cons_self_of_not_mem hy,
      List.splitOn_eq_singleton hz]

/-! ## Trimming -/

/-- Without what satisfies `p` at its two ends. -/
def trim (p : α → Bool) (t : List α) : List α := (t.dropWhile p).rdropWhile p

variable {p : α → Bool}

theorem trim_cons {x : α} (hx : p x = true) (t : List α) : trim p (x :: t) = trim p t := by
  rw [trim, List.dropWhile_cons_of_pos hx, trim]

theorem trim_isInfix (t : List α) : trim p t <:+: t :=
  (List.rdropWhile_prefix p _).isInfix.trans (List.dropWhile_suffix p).isInfix

theorem dropWhile_trim (t : List α) : (trim p t).dropWhile p = trim p t := by
  rcases htrim : trim p t with _ | ⟨x, r⟩
  · rfl
  · -- what is left begins as the text does after its leading part, which is not dropped again
    have hpre : x :: r <+: t.dropWhile p := by rw [← htrim]; exact List.rdropWhile_prefix p _
    obtain ⟨s, hs⟩ := hpre
    have hx := List.dropWhile_idempotent p t
    rw [← hs, List.cons_append, List.dropWhile_cons] at hx
    split at hx
    · have hlen := (List.dropWhile_suffix (l := r ++ s) p).length_le
      rw [hx, List.length_cons] at hlen
      omega
    · rename_i hp
      rw [List.dropWhile_cons, if_neg hp]

theorem trim_trim (t : List α) : trim p (trim p t) = trim p t := by
  rw [trim, dropWhile_trim, trim, List.rdropWhile_idempotent]

end VpnSs.Lines
