/-
Decision lists: rules asked in order, the first answer wins. The abstract list `decide` asks each
rule a question with a fixed answer; the program `firstM` evaluates rules on a state that fills in
as they run (memoised values). `Computes` relates the two: a program that on every state of a
class returns what a pure computation gives, and stays inside the class.
-/
import VpnSs.Lib.Except

namespace VpnSs

/-! ## Stateful programs with a pure meaning -/

section Computes

variable {σ ε α β : Type}

/-- On every state of the class `C` the program returns `r`, errors included, and leaves a state
of the class. -/
def Computes (C : σ → Prop) (x : StateT σ (Except ε) α) (r : Except ε α) : Prop :=
  ∀ s, C s → match r with
    | .ok a => ∃ s', x.run s = .ok (a, s') ∧ C s'
    | .error e => x.run s = .error e

variable {C : σ → Prop}

theorem Computes.pure (a : α) : Computes C (Pure.pure a : StateT σ (Except ε) α) (.ok a) :=
  fun s hs => ⟨s, rfl, hs⟩

theorem Computes.bind {x : StateT σ (Except ε) α} {r : Except ε α} {f : α → StateT σ (Except ε) β}
    {g : α → Except ε β} (hx : Computes C x r) (hf : ∀ a, r = .ok a → Computes C (f a) (g a)) :
    Computes C (x >>= f) (r >>= g) := by
  intro s hs
  have h := hx s hs
  cases r with
  | error e =>
    show (x >>= f).run s = .error e
    rw [StateT.run_bind, h]; rfl
  | ok a =>
    obtain ⟨s', h1, h2⟩ := h
    have h3 : (x >>= f).run s = (f a).run s' := by rw [StateT.run_bind, h1]; rfl
    show match g a with
      | .ok b => ∃ s'', (x >>= f).run s = .ok (b, s'') ∧ C s''
      | .error e => (x >>= f).run s = .error e
    rw [h3]; exact hf a rfl s' h2

/-- A program that reads a part of the state on which the class agrees. -/
theorem Computes.gets (f : σ → α) (a : α) (h : ∀ s, C s → f s = a) :
    Computes C (do return f (← get) : StateT σ (Except ε) α) (.ok a) :=
  fun s hs => ⟨s, by rw [← h s hs]; rfl, hs⟩

theorem Computes.run_ok {x : StateT σ (Except ε) α} {a : α} (h : Computes C x (.ok a)) {s : σ} (hs : C s) :
    ∃ s', x.run s = .ok (a, s') ∧ C s' := h s hs

theorem Computes.run_error {x : StateT σ (Except ε) α} {e : ε} (h : Computes C x (.error e)) {s : σ}
    (hs : C s) : x.run s = .error e := h s hs

end Computes

/-! ## Decision lists -/

namespace DecisionList

variable {ρ σ ε α : Type}

/-- The first rule that answers, with its answer; a rule that fails ends the search. -/
def decide (answer : ρ → Except ε (Option α)) : List ρ → Except ε (Option (ρ × α))
  | [] => .ok none
  | r :: rs =>
    match answer r with
    | .error e => .error e
    | .ok (some a) => .ok (some (r, a))
    | .ok none => decide answer rs

/-- The loop over the rules, each evaluated on the current state. -/
def firstM (eval : ρ → StateT σ (Except ε) (Option α)) : List ρ → StateT σ (Except ε) (Option (ρ × α))
  | [] => pure none
  | r :: rs => do
    match ← eval r with
    | some a => return some (r, a)
    | none => firstM eval rs

/-- The loop computes the decision when every rule computes its answer. -/
theorem firstM_computes {C : σ → Prop} {eval : ρ → StateT σ (Except ε) (Option α)}
    {answer : ρ → Except ε (Option α)} (rs : List ρ) (h : ∀ r ∈ rs, Computes C (eval r) (answer r)) :
    Computes C (firstM eval rs) (decide answer rs) := by
  induction rs with
  | nil => exact Computes.pure none
  | cons r rs ih =>
    have hrest := ih fun r' hr' => h r' (List.mem_cons_of_mem _ hr')
    have hdec : decide answer (r :: rs) = (answer r >>= fun o => match o with
        | some a => .ok (some (r, a))
        | none => decide answer rs) := by
      rw [decide]
      rcases answer r with e | (_ | a) <;> rfl
    rw [hdec]
    apply (h r (List.mem_cons_self ..)).bind
    intro o _
    cases o with
    | some a => exact Computes.pure (some (r, a))
    | none => exact hrest -- from the state `r` left, which is still of the class

/-- The answer a list gives, without the rule that gave it. -/
def verdict (answer : ρ → Except ε (Option α)) (rs : List ρ) : Except ε (Option α) :=
  (decide answer rs).map fun o => o.map Prod.snd

section Verdict

variable {answer : ρ → Except ε (Option α)}

theorem verdict_cons (r : ρ) (rs : List ρ) :
    verdict answer (r :: rs) = (answer r >>= fun o => match o with
      | some a => .ok (some a)
      | none => verdict answer rs) := by
  unfold verdict
  rw [decide]
  rcases answer r with e | (_ | a) <;> rfl

theorem verdict_singleton (r : ρ) : verdict answer [r] = answer r := by
  rw [verdict_cons]
  rcases answer r with e | (_ | a) <;> rfl

/-- The first list decides, and the second only where the first has no answer. -/
theorem verdict_append (l₁ l₂ : List ρ) :
    verdict answer (l₁ ++ l₂) = (verdict answer l₁ >>= fun o => match o with
      | some a => .ok (some a)
      | none => verdict answer l₂) := by
  induction l₁ with
  | nil => rfl
  | cons r l ih =>
    rw [List.cons_append, verdict_cons, verdict_cons]
    rcases answer r with e | (_ | a)
    · rfl
    · exact ih
    · rfl

/-- Where each part of a list has a known verdict, the list gives the first of them. -/
theorem verdict_flatten {γ : Type} {f : γ → Option α} {xs : List γ} {parts : List (List ρ)}
    (h : List.Forall₂ (fun x rs => verdict answer rs = .ok (f x)) xs parts) :
    verdict answer parts.flatten = .ok (xs.findSome? f) := by
  induction h with
  | nil => rfl
  | @cons x rs xs parts hx _ ih =>
    -- the part of `x` decides if it has an answer, else the rest
    rw [List.flatten_cons, verdict_append, hx, ih, List.findSome?_cons]
    cases f x <;> rfl

end Verdict

end DecisionList

end VpnSs
