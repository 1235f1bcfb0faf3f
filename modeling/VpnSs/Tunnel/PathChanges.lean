/-
Which path changes restart the proxy. The observer compares a path with `lastPath`, which it leaves
alone when it schedules a restart. After a restart `lastPath` therefore names the network left
behind, not the one the proxy was restarted for; whether an observation is judged as it should be
is decided by the observation before it, the last satisfied path and `lastPath`.
-/
import VpnSs.Tunnel.Provider

namespace VpnSs.Tunnel.Provider

variable {Path : Type} (api : NWPathApi Path) (s : Provider Path)

/-! ## Observations in sequence -/

/-- The provider after a sequence of observations. -/
def seen (before : List (Option Path)) : Provider Path := before.foldl (observe api) s

/-- The most recent satisfied path of a sequence. -/
def recent (before : List (Option Path)) : Option Path :=
  (before.filterMap fun x => if api.satisfied x then x else none).getLast?

/-- The observation of `x` after `before` schedules a restart. -/
def Schedules (before : List (Option Path)) (x : Option Path) : Prop :=
  (observe api (seen api s before) x).scheduled = (seen api s before).scheduled + 1

/-- The observation is judged as it should be: a satisfied path other than the last satisfied one
restarts the proxy, and a value equal to the preceding one does not. -/
structure RestartsOnChange (before : List (Option Path)) (x : Option Path) : Prop where
  change : ∀ p q, x = some p → api.satisfied x = true → recent api before = some q → api.isEqual p q = false →
    Schedules api s before x
  only : ∀ y, before.getLast? = some y → api.eq x y = true → ¬Schedules api s before x

/-- No satisfied path was seen, or the last one equals `p`. -/
def AgreesWithRecent (before : List (Option Path)) (p : Path) : Prop :=
  ∀ q, recent api before = some q → api.isEqual p q = true

/-- When the observation `x` is judged as it should be: it is not satisfied, or `lastPath` is what
the judgement needs. After nil, and after an unsatisfied path that equals it, `x` must be the last
satisfied path. After a satisfied path that `lastPath` does not equal, since a restart was
scheduled there, it must equal neither. -/
def Judged (before : List (Option Path)) (x : Option Path) : Prop :=
  ∀ p, x = some p → api.satisfied x = true →
    match before.getLast? with
    | some (some q) =>
      if api.satisfied (some q) then
        api.eq (seen api s before).lastPath (some q) = true ∨
          (api.isEqual p q = false ∧ api.eq (some p) (seen api s before).lastPath = false)
      else api.isEqual p q = true → AgreesWithRecent api before p
    | _ => AgreesWithRecent api before p

/-! ## What an observation does -/

variable {api s}

theorem eq_none_iff (x : Option Path) : api.eq x none = true ↔ x = none := by
  cases x <;> simp [NWPathApi.eq]

/-- The three outcomes: a first or known path is recorded, a change is not but schedules a restart,
and so on for values that are not satisfied. -/
theorem observe_cases (api : NWPathApi Path) (t : Provider Path) (x : Option Path) :
    ((observe api t x).lastPath = x ∧ (observe api t x).scheduled = t.scheduled ∧
      ¬(api.satisfied x = true ∧ api.eq x t.lastPath = false ∧ t.lastPath ≠ none)) ∨
    ((observe api t x).lastPath = t.lastPath ∧ (observe api t x).scheduled = t.scheduled + 1 ∧
      api.satisfied x = true ∧ api.eq x t.lastPath = false ∧ t.lastPath ≠ none) := by
  unfold observe observeValue
  by_cases hc : api.satisfied x = true ∧ api.eq x t.lastPath = false
  · rw [if_pos (by simp [hc.1, hc.2])]
    by_cases hn : t.lastPath = none
    · rw [if_pos ((eq_none_iff _).2 hn)]
      exact .inl ⟨rfl, rfl, fun h => h.2.2 hn⟩
    · rw [if_neg (mt (eq_none_iff _).1 hn)]
      exact .inr ⟨rfl, rfl, hc.1, hc.2, hn⟩
  · rw [if_neg (by simpa using hc)]
    exact .inl ⟨rfl, rfl, fun h => hc ⟨h.1, h.2.1⟩⟩

/-- A restart is scheduled for a satisfied path other than `lastPath`, when there is one. -/
theorem schedules_iff {before : List (Option Path)} {x : Option Path} :
    Schedules api s before x ↔ api.satisfied x = true ∧ api.eq x (seen api s before).lastPath = false ∧
      (seen api s before).lastPath ≠ none := by
  unfold Schedules
  rcases observe_cases api (seen api s before) x with ⟨-, hn, h⟩ | ⟨-, hn, h⟩
  · exact iff_of_false (by omega) h
  · exact iff_of_true hn h

theorem seen_concat (before : List (Option Path)) (y : Option Path) :
    seen api s (before ++ [y]) = observe api (seen api s before) y := List.foldl_concat ..

/-- `lastPath` is the last value observed, unless that was a satisfied path it does not equal. -/
theorem lastPath_concat (api : NWPathApi Path) (s : Provider Path) (before : List (Option Path)) (y : Option Path) :
    (seen api s (before ++ [y])).lastPath = y ∨
      ∃ q l, y = some q ∧ api.satisfied y = true ∧ (seen api s (before ++ [y])).lastPath = some l ∧
        api.isEqual q l = false := by
  rw [seen_concat]
  rcases observe_cases api (seen api s before) y with ⟨h, -, -⟩ | ⟨h, -, hsat, hne, hsome⟩
  · exact .inl h
  · obtain ⟨l, hl⟩ := Option.ne_none_iff_exists'.1 hsome
    cases y with
    | none => cases hsat
    | some q => exact .inr ⟨q, l, rfl, hsat, h.trans hl, by rw [hl] at hne; exact hne⟩

theorem recent_concat {before : List (Option Path)} {q : Path} (h : api.satisfied (some q) = true) :
    recent api (before ++ [some q]) = some q := by
  unfold recent
  rw [List.filterMap_append, List.filterMap_cons, h]
  simp

/-! ## When observations are judged as they should be -/

theorem isEqual_refl (p : Path) : api.isEqual p p = true := api.equivalence.refl p

theorem isEqual_symm {p q : Path} (h : api.isEqual p q = true) : api.isEqual q p = true := api.equivalence.symm h

theorem isEqual_trans {p q r : Path} (h : api.isEqual p q = true) (h' : api.isEqual q r = true) :
    api.isEqual p r = true := api.equivalence.trans h h'

/-- Where no restart is scheduled, the observation is right iff the path is the last satisfied one. -/
theorem change_iff_of_not_schedules {before : List (Option Path)} {p : Path} (h : api.satisfied (some p) = true)
    (hn : ¬Schedules api s before (some p)) :
    RestartsOnChange api s before (some p) ↔ AgreesWithRecent api before p := by
  constructor
  · intro hr q hq
    by_contra hne
    exact hn (hr.change p q rfl h hq (by simpa using hne))
  · intro ha
    constructor
    · intro p' q hp _ hq hne
      cases hp
      rw [ha q hq] at hne; cases hne
    · intro _ _ _
      exact hn

/-- After a satisfied path `q` everything depends on whether `lastPath` names it. -/
theorem restartsOnChange_after_satisfied {init : List (Option Path)} {p q : Path}
    (hp : api.satisfied (some p) = true) (hq : api.satisfied (some q) = true) :
    RestartsOnChange api s (init ++ [some q]) (some p) ↔
      api.eq (seen api s (init ++ [some q])).lastPath (some q) = true ∨
        (api.isEqual p q = false ∧ api.eq (some p) (seen api s (init ++ [some q])).lastPath = false) := by
  have hr : recent api (init ++ [some q]) = some q := recent_concat hq
  have hlast : (init ++ [some q]).getLast? = some (some q) := List.getLast?_concat
  rcases lastPath_concat api s init (some q) with hl | ⟨q', l, hqq, -, hl, hne⟩
  · have hsch : Schedules api s (init ++ [some q]) (some p) ↔ api.isEqual p q = false := by
      rw [schedules_iff, hl]; simp [hp, NWPathApi.eq]
    apply iff_of_true
    · constructor
      · intro p' r hp' _ hr' hne
        cases hp'; rw [hr] at hr'; cases hr'
        exact hsch.2 hne
      · intro y hy he hs
        rw [hlast] at hy; cases hy
        rw [hsch, show api.isEqual p q = true from he] at hs; cases hs
    · rw [hl]; exact .inl (isEqual_refl q)
  · -- a restart was scheduled at `q`, and `lastPath` is still the path `l` from before
    cases hqq
    have hsch : Schedules api s (init ++ [some q]) (some p) ↔ api.isEqual p l = false := by
      rw [schedules_iff, hl]; simp [hp, NWPathApi.eq]
    have hlq : api.isEqual l q = false := by
      by_contra h
      rw [Bool.not_eq_false] at h
      rw [isEqual_symm h] at hne; cases hne
    rw [hl]
    show _ ↔ api.isEqual l q = true ∨ (api.isEqual p q = false ∧ api.isEqual p l = false)
    rw [hlq, or_iff_right Bool.false_ne_true]
    constructor
    · -- `p` equal to `q` would have to equal `l` as well, and then `l` equals `q`
      intro h
      have hpq : api.isEqual p q = false := by
        by_contra hpq
        rw [Bool.not_eq_false] at hpq
        have hpl : api.isEqual p l = true := by
          by_contra hpl
          exact h.only (some q) hlast hpq (hsch.2 (by simpa using hpl))
        rw [isEqual_trans (isEqual_symm hpl) hpq] at hlq; cases hlq
      exact ⟨hpq, hsch.1 (h.change p q rfl hp hr hpq)⟩
    · rintro ⟨hpq, hpl⟩
      constructor
      · intro p' r hp' _ _ _
        cases hp'
        exact hsch.2 hpl
      · intro y hy he
        rw [hlast] at hy; cases hy
        rw [show api.isEqual p q = true from he] at hpq; cases hpq

/-- After an unsatisfied path `q`, which `lastPath` names, a path equal to it is taken for no change. -/
theorem restartsOnChange_after_unsatisfied {init : List (Option Path)} {p q : Path}
    (hp : api.satisfied (some p) = true) (hq : ¬api.satisfied (some q) = true) :
    RestartsOnChange api s (init ++ [some q]) (some p) ↔
      (api.isEqual p q = true → AgreesWithRecent api (init ++ [some q]) p) := by
  have hl : (seen api s (init ++ [some q])).lastPath = some q := by
    rcases lastPath_concat api s init (some q) with hl | ⟨q', l, -, hsat, -⟩
    · exact hl
    · exact absurd hsat hq
  have hsch : Schedules api s (init ++ [some q]) (some p) ↔ api.isEqual p q = false := by
    rw [schedules_iff, hl]; simp [hp, NWPathApi.eq]
  by_cases hpq : api.isEqual p q = true
  · have hn : ¬Schedules api s (init ++ [some q]) (some p) := by
      rw [hsch, hpq]; exact Bool.true_eq_false_eq_False
    rw [change_iff_of_not_schedules hp hn]
    constructor
    · intro h _; exact h
    · intro h; exact h hpq
  · apply iff_of_true
    · constructor
      · intro p' r hp' _ _ _
        cases hp'
        exact hsch.2 (by simpa using hpq)
      · intro y hy he
        rw [List.getLast?_concat] at hy; cases hy
        exact absurd he hpq
    · intro h; exact absurd h hpq

theorem judged_some {before : List (Option Path)} {p : Path} (hp : api.satisfied (some p) = true) :
    Judged api s before (some p) ↔
      match before.getLast? with
      | some (some q) =>
        if api.satisfied (some q) then
          api.eq (seen api s before).lastPath (some q) = true ∨
            (api.isEqual p q = false ∧ api.eq (some p) (seen api s before).lastPath = false)
        else api.isEqual p q = true → AgreesWithRecent api before p
      | _ => AgreesWithRecent api before p := by
  constructor
  · intro h
    exact h p rfl hp
  · intro h p' hp' _
    cases hp'
    exact h

/-- An observation restarts the proxy as it should exactly when it is `Judged`. -/
theorem restartsOnChange_iff (hs : s.lastPath = none) (before : List (Option Path)) (x : Option Path) :
    RestartsOnChange api s before x ↔ Judged api s before x := by
  by_cases hx : api.satisfied x = true
  · cases x with
    | none => cases hx
    | some p =>
      rw [judged_some hx]
      rcases List.eq_nil_or_concat' before with rfl | ⟨init, y, rfl⟩
      · apply change_iff_of_not_schedules hx
        intro h
        exact (schedules_iff.1 h).2.2 hs
      · rw [List.getLast?_concat]
        cases y with
        | none =>
          apply change_iff_of_not_schedules hx
          intro h
          apply (schedules_iff.1 h).2.2
          rcases lastPath_concat api s init none with hl | ⟨q, l, hq, -⟩
          · exact hl
          · cases hq
        | some q =>
          by_cases hq : api.satisfied (some q) = true
          · simp only [hq, if_true]; exact restartsOnChange_after_satisfied hx hq
          · simp only [hq]; exact restartsOnChange_after_unsatisfied hx hq
  · -- a value that is not satisfied schedules nothing, and nothing is asked of it
    apply iff_of_true
    · constructor
      · intro p q _ h
        exact absurd h hx
      · intro y _ _ h
        exact hx (schedules_iff.1 h).1
    · intro p _ h
      exact absurd h hx

/-- Every network change restarts the proxy, and only a change does, in exactly the sequences whose
observations are all `Judged`. -/
theorem every_change_restarts_iff (hs : s.lastPath = none) (observed : List (Option Path)) :
    (∀ before x after, observed = before ++ x :: after → RestartsOnChange api s before x) ↔
      ∀ before x after, observed = before ++ x :: after → Judged api s before x := by
  constructor
  · intro h before x after ho
    exact (restartsOnChange_iff hs before x).1 (h before x after ho)
  · intro h before x after ho
    exact (restartsOnChange_iff hs before x).2 (h before x after ho)

theorem every_change_restarts_iff_sample :
    (∀ before x after, [some 1, some 2, none] = before ++ x :: after →
        RestartsOnChange .numbered (initial none) before x) ↔
      ∀ before x after, [some 1, some 2, none] = before ++ x :: after → Judged .numbered (initial none) before x :=
  every_change_restarts_iff rfl [some 1, some 2, none]

/-- Leaving a network and coming back does not restart the proxy, and reporting the new network twice
restarts it twice: both compare with the network before the change. -/
theorem return_not_restarted :
    (¬∀ before x after, [some 1, some 2, some 1] = before ++ x :: after →
        RestartsOnChange .numbered (initial none) before x) ∧
      ¬∀ before x after, [some 1, some 2, some 2] = before ++ x :: after →
        RestartsOnChange .numbered (initial none) before x := by
  constructor
  · intro h
    have hsch := (h [some 1, some 2] (some 1) [] rfl).change 1 2 rfl rfl rfl rfl
    exact absurd (schedules_iff.1 hsch).2.1 (by decide)
  · intro h
    exact (h [some 1, some 2] (some 2) [] rfl).only (some 2) rfl rfl (schedules_iff.2 ⟨rfl, rfl, by decide⟩)

end VpnSs.Tunnel.Provider
