/-
Streams that arrive in chunks. A stage takes a chunk and gives its next state and what comes out of it.
A stage is seamless when it makes no difference where the chunks are cut; a seamless stage may then be
reasoned about as a function of the whole stream, and one that decodes what another stage encodes does
so for every way to cut the stream on either side.
-/
import Mathlib.Data.List.Infix
import Mathlib.Data.List.Flatten

namespace VpnSs.Stream

variable {σ τ α β γ : Type*}

/-- Takes a chunk in a state: the next state, and what comes out. -/
abbrev Stage (σ α β : Type*) := σ → List α → σ × List β

/-- Chunks one after another; what comes out of them, joined. -/
def run (f : Stage σ α β) : σ → List (List α) → σ × List β
  | s, [] => (s, [])
  | s, c :: cs => ((run f (f s c).1 cs).1, (f s c).2 ++ (run f (f s c).1 cs).2)

@[simp] theorem run_nil (f : Stage σ α β) (s : σ) : run f s [] = (s, []) := rfl

@[simp] theorem run_cons (f : Stage σ α β) (s : σ) (c : List α) (cs : List (List α)) :
    run f s (c :: cs) = ((run f (f s c).1 cs).1, (f s c).2 ++ (run f (f s c).1 cs).2) := rfl

theorem run_append (f : Stage σ α β) (s : σ) (cs ds : List (List α)) :
    run f s (cs ++ ds) = ((run f (run f s cs).1 ds).1, (run f s cs).2 ++ (run f (run f s cs).1 ds).2) := by
  induction cs generalizing s with
  | nil => simp
  | cons c cs ih => simp [ih]

theorem run_concat (f : Stage σ α β) (s : σ) (cs : List (List α)) (c : List α) :
    run f s (cs ++ [c]) = ((f (run f s cs).1 c).1, (run f s cs).2 ++ (f (run f s cs).1 c).2) := by
  rw [run_append]; simp

/-! ## Seamless stages -/

/-- A chunk may be cut anywhere. -/
def Seamless (f : Stage σ α β) : Prop :=
  ∀ s xs ys, f s (xs ++ ys) = ((f (f s xs).1 ys).1, (f s xs).2 ++ (f (f s xs).1 ys).2)

/-- A state in which an empty chunk changes nothing. -/
def Settled (f : Stage σ α β) (s : σ) : Prop := f s [] = (s, [])

section Seamless

variable {f : Stage σ α β} {g : Stage τ β γ}

/-- A seamless stage is settled after any chunk. -/
theorem Seamless.settled (hf : Seamless f) (s : σ) (xs : List α) : Settled f (f s xs).1 := by
  have h := hf s xs []
  rw [List.append_nil] at h
  obtain ⟨hstate, hout⟩ := Prod.ext_iff.1 h
  apply Prod.ext
  · exact hstate.symm
  · exact List.self_eq_append_right.1 hout

/-- However the stream is cut, the stage does to it what it does to the whole. -/
theorem Seamless.run_eq (hf : Seamless f) {s : σ} (hs : Settled f s) (cs : List (List α)) :
    run f s cs = f s cs.flatten := by
  induction cs generalizing s with
  | nil => exact hs.symm
  | cons c cs ih => rw [run_cons, ih (hf.settled s c), List.flatten_cons, hf]

/-- More input adds to the output. -/
theorem Seamless.monotone (hf : Seamless f) (s : σ) {xs ys : List α} (h : xs <+: ys) :
    (f s xs).2 <+: (f s ys).2 := by
  obtain ⟨zs, rfl⟩ := h
  rw [hf]
  exact List.prefix_append _ _

/-- A stage behind another. -/
def comp (g : Stage τ β γ) (f : Stage σ α β) : Stage (σ × τ) α γ := fun s xs =>
  (((f s.1 xs).1, (g s.2 (f s.1 xs).2).1), (g s.2 (f s.1 xs).2).2)

/-- Behind a first stage, a second one runs on what comes out of each chunk. -/
def outputs (f : Stage σ α β) : σ → List (List α) → List (List β)
  | _, [] => []
  | s, c :: cs => (f s c).2 :: outputs f (f s c).1 cs

theorem flatten_outputs (s : σ) (cs : List (List α)) : (outputs f s cs).flatten = (run f s cs).2 := by
  induction cs generalizing s with
  | nil => rfl
  | cons c cs ih => rw [outputs, List.flatten_cons, ih, run_cons]

theorem run_comp (s : σ) (t : τ) (cs : List (List α)) : (run (comp g f) (s, t) cs).2 = (run g t (outputs f s cs)).2 := by
  induction cs generalizing s t with
  | nil => rfl
  | cons c cs ih => rw [outputs, run_cons, run_cons, ih]; rfl

end Seamless

/-! ## Refinement -/

/-- From related states the two stages give the same and stay related. -/
def Refines (R : σ → τ → Prop) (f : Stage σ α β) (g : Stage τ α β) : Prop :=
  ∀ s t c, R s t → R (f s c).1 (g t c).1 ∧ (f s c).2 = (g t c).2

theorem Refines.run_eq {R : σ → τ → Prop} {f : Stage σ α β} {g : Stage τ α β} (h : Refines R f g) {s : σ} {t : τ}
    (hst : R s t) (cs : List (List α)) : R (run f s cs).1 (run g t cs).1 ∧ (run f s cs).2 = (run g t cs).2 := by
  induction cs generalizing s t with
  | nil => exact ⟨hst, rfl⟩
  | cons c cs ih =>
    obtain ⟨hnext, hout⟩ := h s t c hst
    obtain ⟨hlast, hrest⟩ := ih hnext
    exact ⟨hlast, by rw [run_cons, run_cons, hout, hrest]⟩

/-! ## A header, and what it starts -/

/-- Collects `n` symbols, and from these starts a stage for the rest. -/
def headed (n : Nat) (start : List α → σ) (f : Stage σ α β) : Stage (List α ⊕ σ) α β
  | .inl held, c =>
    if n ≤ (held ++ c).length then
      let r := f (start ((held ++ c).take n)) ((held ++ c).drop n)
      (.inr r.1, r.2)
    else (.inl (held ++ c), [])
  | .inr s, c => (.inr (f s c).1, (f s c).2)

section Headed

variable {n : Nat} {start : List α → σ} {f : Stage σ α β}

theorem Seamless.headed (hf : Seamless f) : Seamless (headed n start f) := by
  rintro (held | s) xs ys
  · have hassoc : held ++ (xs ++ ys) = held ++ xs ++ ys := (List.append_assoc ..).symm
    by_cases hxs : n ≤ (held ++ xs).length
    · -- the header ends in the first part
      have hall : n ≤ (held ++ xs ++ ys).length := by rw [List.length_append]; omega
      simp only [Stream.headed, hassoc, if_pos hxs, if_pos hall, List.take_append_of_le_length hxs,
        List.drop_append_of_le_length hxs, hf _ ((held ++ xs).drop n) ys]
    · simp only [Stream.headed, hassoc, if_neg hxs, List.nil_append]
  · simp only [Stream.headed, hf s xs ys]

theorem settled_headed (hn : 0 < n) : Settled (headed n start f) (.inl []) :=
  if_neg (Nat.not_le.2 hn)

/-- A stream that begins with a header of the right length. -/
theorem headed_append {h : List α} (hh : h.length = n) (xs : List α) :
    headed n start f (.inl []) (h ++ xs) = (.inr (f (start h) xs).1, (f (start h) xs).2) := by
  subst hh
  rw [headed, if_pos (by rw [List.nil_append, List.length_append]; omega)]
  simp only [List.nil_append, List.take_left, List.drop_left]

end Headed

/-! ## Stages that work symbol by symbol -/

/-- A machine that turns each symbol into another. -/
def each (step : σ → α → σ × β) : Stage σ α β
  | s, [] => (s, [])
  | s, x :: xs => ((each step (step s x).1 xs).1, (step s x).2 :: (each step (step s x).1 xs).2)

theorem each_append (step : σ → α → σ × β) (s : σ) (xs ys : List α) :
    each step s (xs ++ ys) =
      ((each step (each step s xs).1 ys).1, (each step s xs).2 ++ (each step (each step s xs).1 ys).2) := by
  induction xs generalizing s with
  | nil => simp [each]
  | cons x xs ih => simp [each, ih]

theorem seamless_each (step : σ → α → σ × β) : Seamless (each step) := each_append step

/-- Undoing each symbol in turn undoes the stream, and keeps the two machines in the same state. -/
theorem each_each {enc : σ → α → σ × β} {dec : σ → β → σ × α}
    (h : ∀ s x, dec s (enc s x).2 = ((enc s x).1, x)) (s : σ) (xs : List α) :
    each dec s (each enc s xs).2 = ((each enc s xs).1, xs) := by
  induction xs generalizing s with
  | nil => rfl
  | cons x xs ih => simp [each, h, ih]

/-! ## Something sent once, before the rest -/

/-- Puts `p` before the first chunk; the state tells whether it has. -/
def once (p : List α) : Stage Bool α α := fun sent c => (true, if sent then c else p ++ c)

theorem run_once_true (p : List α) (cs : List (List α)) : run (once p) true cs = (true, cs.flatten) := by
  induction cs with
  | nil => rfl
  | cons c cs ih => simp [once, ih]

theorem run_once_false (p : List α) (c : List α) (cs : List (List α)) :
    run (once p) false (c :: cs) = (true, p ++ (c ++ cs.flatten)) := by
  have h : run (once p) false (c :: cs) = ((run (once p) true cs).1, (p ++ c) ++ (run (once p) true cs).2) := rfl
  rw [h, run_once_true, List.append_assoc]

/-! ## Encoders and decoders -/

/-- What `f` makes of chunks from `s` on, `g` turns back from `t` on. -/
def Decodes (g : Stage τ β α) (t : τ) (f : Stage σ α β) (s : σ) : Prop :=
  ∀ cs, (g t (run f s cs).2).2 = cs.flatten

section Decodes

variable {f : Stage σ α β} {g : Stage τ β α} {s : σ} {t : τ}

/-- The decoder may see the encoded stream in any other chunks. -/
theorem Decodes.run_run (h : Decodes g t f s) (hg : Seamless g) (ht : Settled g t) {cs : List (List α)}
    {ds : List (List β)} (hds : ds.flatten = (run f s cs).2) : (run g t ds).2 = cs.flatten := by
  rw [hg.run_eq ht, hds, h cs]

/-- From a part of the encoded stream the decoder gives a part of the plain one. -/
theorem Decodes.run_part (h : Decodes g t f s) (hg : Seamless g) (ht : Settled g t) {cs : List (List α)}
    {ds : List (List β)} (hds : ds.flatten <+: (run f s cs).2) : (run g t ds).2 <+: cs.flatten := by
  rw [hg.run_eq ht, ← h cs]
  exact hg.monotone t hds

end Decodes

end VpnSs.Stream
