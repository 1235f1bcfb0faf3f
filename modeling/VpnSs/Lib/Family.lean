/-
A growing family of machines that start alike. A step adds a member, or is one member's, or is the same step
of all of them. Each member goes through a run of its own, whatever the others do and however the steps are
interleaved, so that what holds of every run of the machine holds of every member.
-/
import VpnSs.Lib.Lts
import Mathlib.Data.List.Basic

namespace VpnSs.Family

variable {σ ε : Type*}

inductive Event (ε : Type*) where
  | spawn
  | one (i : Nat) (e : ε)
  | all (e : ε)

/-- A step of the family, member by member in the order they were added; each has a step of its own. -/
def step (member : Nat → σ → ε → Option σ) (new : σ) (ss : List σ) : Event ε → Option (List σ)
  | .spawn => some (ss ++ [new])
  | .one i e => (ss[i]?.bind fun s => member i s e).map fun s => ss.set i s
  | .all e => ss.zipIdx.mapM fun s => member s.2 s.1 e

/-- The steps of the member `i`, where there are `n` members. -/
def own (i : Nat) : Nat → List (Event ε) → List ε
  | _, [] => []
  | n, .spawn :: es => own i (n + 1) es
  | n, .one j e :: es => if i = j then e :: own i n es else own i n es
  | n, .all e :: es => if i < n then e :: own i n es else own i n es

section Runs

variable {τ : Type*} {member : Nat → σ → ε → Option σ} {new : σ} {ss ts : List σ} {s t : σ} {i : Nat}

theorem length_mapM {f : σ → Option τ} {ts : List τ} (h : ss.mapM f = some ts) : ts.length = ss.length := by
  induction ss generalizing ts with
  | nil => cases h; rfl
  | cons s ss ih =>
    rw [List.mapM_cons] at h
    obtain ⟨t, -, h⟩ := Option.bind_eq_some_iff.1 h
    obtain ⟨ts', hts, h⟩ := Option.bind_eq_some_iff.1 h
    cases h
    rw [List.length_cons, List.length_cons, ih hts]

theorem getElem?_mapM {f : σ → Option τ} {ts : List τ} (h : ss.mapM f = some ts) (hs : ss[i]? = some s) :
    ts[i]? = f s := by
  induction ss generalizing ts i with
  | nil => cases hs
  | cons u ss ih =>
    rw [List.mapM_cons] at h
    obtain ⟨t, hu, h⟩ := Option.bind_eq_some_iff.1 h
    obtain ⟨ts', hts, h⟩ := Option.bind_eq_some_iff.1 h
    cases h
    cases i with
    | zero => cases hs; exact hu.symm
    | succ i =>
      have htail : ts'[i]? = f s := ih hts hs
      exact htail

/-- No member is lost. -/
theorem length_le_run {es : List (Event ε)} (hr : Lts.run (step member new) ss es = some ts) :
    ss.length ≤ ts.length := by
  have hstep : ∀ us e vs, ss.length ≤ us.length → step member new us e = some vs → ss.length ≤ vs.length := by
    intro us e vs hle hs
    cases e with
    | spawn => cases hs; rw [List.length_append]; omega
    | one j e =>
      obtain ⟨u, -, rfl⟩ := Option.map_eq_some_iff.1 hs
      rw [List.length_set]
      exact hle
    | all e => rw [length_mapM hs, List.length_zipIdx]; exact hle
  exact Lts.run_invariant hstep (Nat.le_refl _) hr

/-- A member of a family has gone through its own steps, from its state at first or from the start if it was
added later. -/
theorem run_member {es : List (Event ε)} (hr : Lts.run (step member new) ss es = some ts) (ht : ts[i]? = some t) :
    Lts.run (member i) (ss[i]?.getD new) (own i ss.length es) = some t := by
  induction es generalizing ss with
  | nil => cases hr; rw [ht]; rfl
  | cons e es ih =>
    obtain ⟨us, hu, hrest⟩ := Lts.run_cons_some.1 hr
    have hown := ih hrest
    cases e with
    | spawn =>
      cases hu
      have hsame : (ss ++ [new])[i]?.getD new = ss[i]?.getD new := by
        rcases Nat.lt_trichotomy i ss.length with hlt | rfl | hgt
        · rw [List.getElem?_append_left hlt]
        · simp
        · rw [List.getElem?_eq_none (by simp; omega), List.getElem?_eq_none (by omega)]
      rw [hsame, List.length_append] at hown
      exact hown
    | one j e =>
      obtain ⟨u, hmem, rfl⟩ := Option.map_eq_some_iff.1 hu
      obtain ⟨s, hs, hstep⟩ := Option.bind_eq_some_iff.1 hmem
      rw [List.length_set] at hown
      rw [own]
      split
      · rename_i hij
        subst hij
        have hlt : i < ss.length := (List.getElem?_eq_some_iff.1 hs).1
        rw [List.getElem?_set_self hlt] at hown
        rw [hs]
        exact Lts.run_cons_some.2 ⟨u, hstep, hown⟩
      · rename_i hij
        rw [List.getElem?_set_ne (Ne.symm hij)] at hown
        exact hown
    | all e =>
      have hlen : us.length = ss.length := (length_mapM hu).trans List.length_zipIdx
      rw [hlen] at hown
      rw [own]
      split
      · rename_i hlt
        have hs : ss[i]? = some ss[i] := List.getElem?_eq_getElem hlt
        have hzip : ss.zipIdx[i]? = some (ss[i], i) := by
          rw [List.getElem?_zipIdx, hs, Nat.zero_add]
          rfl
        obtain ⟨u, hui⟩ : ∃ u, us[i]? = some u := ⟨_, List.getElem?_eq_getElem (by rw [hlen]; exact hlt)⟩
        have hstep : member i ss[i] e = some u := (getElem?_mapM hu hzip).symm.trans hui
        rw [hui] at hown
        rw [hs]
        exact Lts.run_cons_some.2 ⟨u, hstep, hown⟩
      · rename_i hge
        have hnone : us[i]? = none := List.getElem?_eq_none (by rw [hlen]; omega)
        rw [hnone] at hown
        rw [List.getElem?_eq_none (by omega)]
        exact hown

end Runs

end VpnSs.Family
