/-
Event machines: a partial step function, its runs, and the rules to reason about whole runs. An
invariant needs one lemma about a step; a guard says what every step of a run is assumed to meet, and
one that is exact for a property tells the runs that keep it from the others; a simulation carries an
abstract state along with the run.
-/
import Mathlib.Data.List.Basic
import Mathlib.Logic.Basic

namespace VpnSs.Lts

variable {σ ε α : Type*}

/-! ## Runs -/

/-- The state after a list of events; `none` when one of them is not enabled where it comes. -/
def run (step : σ → ε → Option σ) : σ → List ε → Option σ
  | s, [] => some s
  | s, e :: es => (step s e).bind fun s' => run step s' es

/-- Every step the run takes meets the guard `G`, which sees the state before the step. -/
def Meets (step : σ → ε → Option σ) (G : σ → ε → Prop) : σ → List ε → Prop
  | _, [] => True
  | s, e :: es => G s e ∧ (match step s e with
      | none => True
      | some s' => Meets step G s' es)

instance Meets.decidable (step : σ → ε → Option σ) (G : σ → ε → Prop) [∀ s e, Decidable (G s e)] :
    ∀ (s : σ) (es : List ε), Decidable (Meets step G s es)
  | _, [] => .isTrue trivial
  | s, e :: es =>
    have : Decidable (match step s e with
        | none => True
        | some s' => Meets step G s' es) :=
      match step s e with
      | none => .isTrue trivial
      | some s' => Meets.decidable step G s' es
    inferInstanceAs (Decidable (G s e ∧ _))

section Runs

variable {step : σ → ε → Option σ} {G : σ → ε → Prop}

@[simp] theorem run_nil (s : σ) : run step s [] = some s := rfl

@[simp] theorem run_cons (s : σ) (e : ε) (es : List ε) :
    run step s (e :: es) = (step s e).bind fun s' => run step s' es := rfl

theorem run_cons_some {s t : σ} {e : ε} {es : List ε} :
    run step s (e :: es) = some t ↔ ∃ s', step s e = some s' ∧ run step s' es = some t :=
  Option.bind_eq_some_iff

theorem run_append (es₁ es₂ : List ε) (s : σ) :
    run step s (es₁ ++ es₂) = (run step s es₁).bind fun s' => run step s' es₂ := by
  induction es₁ generalizing s with
  | nil => rfl
  | cons e es ih =>
    simp only [List.cons_append, run_cons, Option.bind_assoc]
    exact congrArg _ (funext fun s' => ih s')

theorem run_append_some {es₁ es₂ : List ε} {s t : σ} :
    run step s (es₁ ++ es₂) = some t ↔ ∃ s', run step s es₁ = some s' ∧ run step s' es₂ = some t := by
  rw [run_append]; exact Option.bind_eq_some_iff

@[simp] theorem meets_nil (s : σ) : Meets step G s [] := trivial

theorem meets_cons {s : σ} {e : ε} {es : List ε} :
    Meets step G s (e :: es) ↔ G s e ∧ ∀ s', step s e = some s' → Meets step G s' es := by
  rw [Meets]
  apply and_congr_right
  intro _
  cases hs : step s e with
  | none => simp
  | some s' => simp

theorem meets_of_forall (hG : ∀ s e, G s e) (s : σ) (es : List ε) : Meets step G s es := by
  induction es generalizing s with
  | nil => trivial
  | cons e es ih =>
    rw [meets_cons]
    exact ⟨hG s e, fun s' _ => ih s'⟩

/-- A guarded run splits at any point: the first part is guarded, and so is the rest from the
state the first part reaches. -/
theorem meets_append {es₁ es₂ : List ε} {s : σ} :
    Meets step G s (es₁ ++ es₂) ↔
      Meets step G s es₁ ∧ ∀ s', run step s es₁ = some s' → Meets step G s' es₂ := by
  induction es₁ generalizing s with
  | nil => simp
  | cons e es ih =>
    rw [List.cons_append, meets_cons, meets_cons]
    constructor
    · rintro ⟨h1, h2⟩
      refine ⟨⟨h1, fun s' hs => (ih.1 (h2 s' hs)).1⟩, ?_⟩
      intro s' hr
      obtain ⟨u, hu, hr⟩ := run_cons_some.1 hr
      exact (ih.1 (h2 u hu)).2 s' hr
    · rintro ⟨⟨h1, h2⟩, h3⟩
      refine ⟨h1, fun s' hs => ih.2 ⟨h2 s' hs, ?_⟩⟩
      intro t ht
      exact h3 t (run_cons_some.2 ⟨s', hs, ht⟩)

theorem meets_and_forall {P : ε → Prop} {s : σ} {es : List ε} (h : Meets step G s es) (hP : ∀ e ∈ es, P e) :
    Meets step (fun s e => G s e ∧ P e) s es := by
  induction es generalizing s with
  | nil => trivial
  | cons e es ih =>
    obtain ⟨hg, hrest⟩ := meets_cons.1 h
    obtain ⟨hp, hps⟩ := List.forall_mem_cons.1 hP
    exact meets_cons.2 ⟨⟨hg, hp⟩, fun s' hs => ih (hrest s' hs) hps⟩

/-! ## Invariants -/

/-- What every guarded step preserves, a guarded run preserves. -/
theorem run_invariant_of_meets {I : σ → Prop}
    (hstep : ∀ s e s', I s → G s e → step s e = some s' → I s') {s t : σ} {es : List ε}
    (hs : I s) (hG : Meets step G s es) (hr : run step s es = some t) : I t := by
  induction es generalizing s with
  | nil => cases hr; exact hs
  | cons e es ih =>
    obtain ⟨s', h1, h2⟩ := run_cons_some.1 hr
    obtain ⟨hg, hrest⟩ := meets_cons.1 hG
    exact ih (hstep s e s' hs hg h1) (hrest s' h1) h2

/-- What every step preserves, a run preserves. -/
theorem run_invariant {I : σ → Prop} (hstep : ∀ s e s', I s → step s e = some s' → I s')
    {s t : σ} {es : List ε} (hs : I s) (hr : run step s es = some t) : I t := by
  have hG : Meets step (fun _ _ => True) s es := meets_of_forall (fun _ _ => trivial) s es
  exact run_invariant_of_meets (fun s e s' h _ => hstep s e s' h) hs hG hr

/-! ## What holds at every state of a run -/

/-- `P` holds of every state the run passes through, its first and its last included. -/
def Always (step : σ → ε → Option σ) (P : σ → Prop) (s : σ) (es : List ε) : Prop :=
  ∀ es₁ t, es₁ <+: es → run step s es₁ = some t → P t

theorem always_nil {P : σ → Prop} {s : σ} : Always step P s [] ↔ P s := by
  constructor
  · intro h
    exact h [] s (List.prefix_refl _) rfl
  · intro h es₁ t hpre hr
    rw [List.prefix_nil.1 hpre] at hr
    cases hr
    exact h

theorem always_cons {P : σ → Prop} {s : σ} {e : ε} {es : List ε} :
    Always step P s (e :: es) ↔ P s ∧ ∀ s', step s e = some s' → Always step P s' es := by
  constructor
  · intro h
    refine ⟨h [] s List.nil_prefix rfl, ?_⟩
    intro s' hs es₁ t hpre hr
    exact h (e :: es₁) t ((List.prefix_cons_inj e).2 hpre) (run_cons_some.2 ⟨s', hs, hr⟩)
  · rintro ⟨hp, h⟩ es₁ t hpre hr
    cases es₁ with
    | nil => cases hr; exact hp
    | cons e' es₁ =>
      obtain ⟨rfl, hrest⟩ := List.cons_prefix_cons.1 hpre
      obtain ⟨s', hs, hr⟩ := run_cons_some.1 hr
      exact h s' hs es₁ t hrest hr

/-- Where `C` says of each step whether it keeps `P`, a run keeps `P` throughout exactly when all its
steps meet `C`. -/
theorem always_iff_meets {I P : σ → Prop} {C : σ → ε → Prop}
    (hstep : ∀ s e s', I s → G s e → step s e = some s' → I s')
    (hP : ∀ s e s', I s → P s → G s e → step s e = some s' → (P s' ↔ C s e)) {s t : σ} {es : List ε}
    (hs : I s) (hp : P s) (hG : Meets step G s es) (hr : run step s es = some t) :
    Always step P s es ↔ Meets step C s es := by
  induction es generalizing s with
  | nil => exact iff_of_true (always_nil.2 hp) trivial
  | cons e es ih =>
    obtain ⟨s', h1, h2⟩ := run_cons_some.1 hr
    obtain ⟨hg, hrest⟩ := meets_cons.1 hG
    have hiff : P s' ↔ C s e := hP s e s' hs hp hg h1
    have hi : I s' := hstep s e s' hs hg h1
    have hnext (Q : σ → Prop) : (∀ u, step s e = some u → Q u) ↔ Q s' := by simp [h1]
    rw [always_cons, meets_cons, hnext, hnext, and_iff_right hp]
    constructor
    · intro h
      have hp' : P s' := h [] s' List.nil_prefix rfl
      exact ⟨hiff.1 hp', (ih hi hp' (hrest s' h1) h2).1 h⟩
    · rintro ⟨hc, h⟩
      exact (ih hi (hiff.2 hc) (hrest s' h1) h2).2 h

/-! ## Simulation -/

/-- Forward simulation by a total abstract machine that reads the same events. -/
theorem run_simulates {R : σ → α → Prop} {astep : α → ε → α}
    (hstep : ∀ s a e s', R s a → G s e → step s e = some s' → R s' (astep a e))
    {s t : σ} {a : α} {es : List ε} (h : R s a) (hG : Meets step G s es)
    (hr : run step s es = some t) : R t (es.foldl astep a) := by
  induction es generalizing s a with
  | nil => cases hr; exact h
  | cons e es ih =>
    obtain ⟨s', h1, h2⟩ := run_cons_some.1 hr
    obtain ⟨hg, hrest⟩ := meets_cons.1 hG
    exact ih (hstep s a e s' h hg h1) (hrest s' h1) h2

end Runs

end VpnSs.Lts
