/-
Computations that may fail: the monad laws as rewriting rules, what a successful sequence of
computations is, and loops that append to an accumulator.
-/
import Mathlib.Data.List.Forall2

namespace VpnSs.Except

variable {ε α β γ : Type}

@[simp] theorem pure_eq_ok (a : α) : (pure a : Except ε α) = .ok a := rfl

@[simp] theorem ok_bind (a : α) (f : α → Except ε β) : ((.ok a : Except ε α) >>= f) = f a := rfl

@[simp] theorem error_bind (e : ε) (f : α → Except ε β) : ((.error e : Except ε α) >>= f) = .error e := rfl

@[simp] theorem map_ok (a : α) (f : α → β) : (.ok a : Except ε α).map f = .ok (f a) := rfl

@[simp] theorem map_error (e : ε) (f : α → β) : (.error e : Except ε α).map f = .error e := rfl

theorem bind_eq_ok {x : Except ε α} {f : α → Except ε β} {b : β} :
    (x >>= f) = .ok b ↔ ∃ a, x = .ok a ∧ f a = .ok b := by
  cases x <;> simp

theorem map_eq_ok {x : Except ε α} {f : α → β} {b : β} : x.map f = .ok b ↔ ∃ a, x = .ok a ∧ f a = b := by
  cases x <;> simp

theorem toOption_eq_some {x : Except ε α} {a : α} : x.toOption = some a ↔ x = .ok a := by
  cases x <;> simp [Except.toOption]

theorem map_bind (x : Except ε α) (f : α → Except ε β) (g : β → γ) :
    (x >>= f).map g = x >>= fun a => (f a).map g := by
  cases x <;> rfl

/-! ## What a computation yields -/

/-- The computation gives a value with the property, or fails in a way that is allowed. -/
def Yields (allowed : ε → Prop) (P : α → Prop) : Except ε α → Prop
  | .ok a => P a
  | .error e => allowed e

section Yields

variable {allowed : ε → Prop} {P : α → Prop} {Q : β → Prop} {x : Except ε α}

theorem Yields.bind {f : α → Except ε β} (hx : Yields allowed P x) (hf : ∀ a, P a → Yields allowed Q (f a)) :
    Yields allowed Q (x >>= f) := by
  rcases x with e | a
  · exact hx
  · exact hf a hx

theorem Yields.map {f : α → β} (hx : Yields allowed (fun a => Q (f a)) x) : Yields allowed Q (x.map f) := by
  rcases x with e | a <;> exact hx

theorem Yields.mono {P' : α → Prop} (hx : Yields allowed P x) (h : ∀ a, P a → P' a) : Yields allowed P' x := by
  rcases x with e | a
  · exact hx
  · exact h a hx

theorem Yields.ite {y : Except ε α} {c : Prop} [Decidable c] (hx : c → Yields allowed P x)
    (hy : ¬c → Yields allowed P y) : Yields allowed P (if c then x else y) := by
  split
  · rename_i h; exact hx h
  · rename_i h; exact hy h

theorem Yields.of_eq_ok {a : α} (hx : Yields allowed P x) (h : x = .ok a) : P a := by
  rw [h] at hx
  exact hx

theorem Yields.exists_ok (hx : Yields (fun _ => False) P x) : ∃ a, x = .ok a ∧ P a := by
  rcases x with e | a
  · exact hx.elim
  · exact ⟨a, rfl, hx⟩

end Yields

/-! ## Loops -/

/-- A run over a list succeeds exactly when it succeeds on each element, with the results in order. -/
theorem mapM_eq_ok {f : α → Except ε β} {xs : List α} {ys : List β} :
    xs.mapM f = .ok ys ↔ List.Forall₂ (fun x y => f x = .ok y) xs ys := by
  induction xs generalizing ys with
  | nil =>
    rw [List.mapM_nil, pure_eq_ok, List.forall₂_nil_left_iff]
    constructor
    · intro h; cases h; rfl
    · intro h; rw [h]
  | cons x xs ih =>
    rw [List.mapM_cons]
    simp only [bind_eq_ok, pure_eq_ok, ih]
    constructor
    · rintro ⟨y, hy, zs, hzs, h⟩; cases h; exact .cons hy hzs
    · rintro (_ | ⟨hy, hys⟩); exact ⟨_, hy, _, hys, rfl⟩

/-- Each result of a successful run is that of some element. -/
theorem exists_of_mem_mapM {f : α → Except ε β} {xs : List α} {ys : List β} (h : xs.mapM f = .ok ys) {y : β}
    (hy : y ∈ ys) : ∃ x ∈ xs, f x = .ok y := by
  induction mapM_eq_ok.1 h with
  | nil => exact absurd hy List.not_mem_nil
  | cons hx _ ih =>
    rename_i x z xs zs hrest
    rcases List.mem_cons.1 hy with rfl | hy
    · exact ⟨x, List.mem_cons_self, hx⟩
    · obtain ⟨w, hw, hfw⟩ := ih (mapM_eq_ok.2 hrest) hy
      exact ⟨w, List.mem_cons_of_mem x hw, hfw⟩

theorem mapM_of_forall {f : α → Except ε β} {g : α → β} {xs : List α} (h : ∀ x ∈ xs, f x = .ok (g x)) :
    xs.mapM f = .ok (xs.map g) := by
  rw [mapM_eq_ok, List.forall₂_map_right_iff]
  exact List.forall₂_same.2 h

theorem mapM_isOk_iff {f : α → Except ε β} {xs : List α} :
    (∃ ys, xs.mapM f = .ok ys) ↔ ∀ x ∈ xs, ∃ y, f x = .ok y := by
  induction xs with
  | nil => simp
  | cons x xs ih =>
    rw [List.forall_mem_cons, ← ih, List.mapM_cons]
    simp only [bind_eq_ok, pure_eq_ok]
    constructor
    · rintro ⟨ys, y, hy, zs, hzs, -⟩; exact ⟨⟨y, hy⟩, zs, hzs⟩
    · rintro ⟨⟨y, hy⟩, zs, hzs⟩; exact ⟨_, y, hy, zs, hzs, rfl⟩

/-- A loop whose steps only append to the accumulator is a run of the appended parts. -/
theorem foldlM_append {f : α → Except ε (List β)} {step : List β → α → Except ε (List β)}
    (h : ∀ acc x, step acc x = (f x).map (acc ++ ·)) (acc : List β) (xs : List α) :
    xs.foldlM step acc = (xs.mapM f).map fun parts => acc ++ parts.flatten := by
  induction xs generalizing acc with
  | nil => simp
  | cons x xs ih =>
    rw [List.foldlM_cons, List.mapM_cons, h]
    rcases f x with e | part
    · rfl
    · simp only [map_ok, ok_bind, ih]
      rcases xs.mapM f with e | parts
      · rfl
      · simp

end VpnSs.Except
