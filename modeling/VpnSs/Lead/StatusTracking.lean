/-
When the status of `VPNManager` follows the tunnel. A state is tracked when the status is the image
of the first manager's connection status, or a read of it is still outstanding: a load started by
`check`, or a queued block of that manager. A step from a tracked state loses track exactly when it
is not covered, above all by a status change that no registered block hears.
-/
import VpnSs.Lead.VPNManager

namespace VpnSs.Lead

open VpnSs.Swift

/-- The manager a load of all managers gives first. -/
def Preferences.first (p : Preferences) : Option Nat := p.managers.head?.map NETunnelProviderManager.ident

namespace VPNManager

variable {ruleConf : Text}

/-! ## Tracked states and covered steps -/

/-- A read of the manager's status is outstanding. -/
def ReadPending (v : VPNManager) (ident : Nat) : Prop := .loadAll .check ∈ v.tasks ∨ ident ∈ v.notifications

/-- The status is right for the manager, or will be read. -/
def Attended (v : VPNManager) (ident : Nat) : Prop :=
  v.status = (v.connection ident).image ∨ v.ReadPending ident

def Tracked (v : VPNManager) : Prop := ∀ ident ∈ v.preferences.first, v.Attended ident

/-- The steps that keep track. A status change of the first manager is heard by a block, or a read is
outstanding, or the status is right for it anyway; a block of another manager, a failing load of
`check` and a change of the first manager leave a status that is right or will be read. -/
def Covered (v : VPNManager) : Event → Prop
  | .statusChange ident status =>
    ident ∈ v.preferences.first →
      (∃ r ∈ v.registrations, r.object = ident) ∨ v.ReadPending ident ∨ v.status = status.image
  | .runBlock ident =>
    ∀ p ∈ v.preferences.first, p ≠ ident → (v.connection ident).image = (v.connection p).image ∨ v.ReadPending p
  | .complete t ok =>
    (t = .loadAll .check → ok = false → ∀ p ∈ v.preferences.first,
      v.status = (v.connection p).image ∨ .loadAll .check ∈ v.tasks.erase t ∨ p ∈ v.notifications) ∧
    ∀ p ∈ (preferencesAfter v.preferences t ok).first, p ∈ v.preferences.first ∨ v.Attended p
  | _ => True

instance (v : VPNManager) (ident : Nat) : Decidable (v.ReadPending ident) := inferInstanceAs (Decidable (_ ∨ _))

instance (v : VPNManager) (ident : Nat) : Decidable (v.Attended ident) := inferInstanceAs (Decidable (_ ∨ _))

instance Covered.decidable (v : VPNManager) : ∀ e, Decidable (v.Covered e)
  | .statusChange _ _ => inferInstanceAs (Decidable (_ → _))
  | .runBlock _ => inferInstanceAs (Decidable (∀ p ∈ v.preferences.first, _))
  | .complete _ _ => inferInstanceAs (Decidable ((_ → _ → ∀ p ∈ v.preferences.first, _) ∧ ∀ p ∈ Preferences.first _, _))
  | .check => .isTrue trivial
  | .connect _ => .isTrue trivial
  | .disconnect => .isTrue trivial

/-! ## What the steps do to the reads -/

theorem mem_tasks_start {v : VPNManager} {t u : Task} : u ∈ (v.start t).tasks ↔ u ∈ v.tasks ∨ u = t := by
  simp [start]

/-- The completion of another call leaves the loads of `check` outstanding. -/
theorem check_mem_erase {tasks : List Task} {t : Task} (h : t ≠ .loadAll .check) :
    .loadAll .check ∈ tasks.erase t ↔ .loadAll .check ∈ tasks :=
  List.mem_erase_of_ne (Ne.symm h)

/-- A state that differs in nothing the status depends on. -/
structure SameReads (v v' : VPNManager) : Prop where
  status : v'.status = v.status
  connection : v'.connection = v.connection
  notifications : v'.notifications = v.notifications
  check : .loadAll .check ∈ v'.tasks ↔ .loadAll .check ∈ v.tasks

theorem SameReads.attended {v v' : VPNManager} (h : SameReads v v') (ident : Nat) :
    v'.Attended ident ↔ v.Attended ident := by
  unfold Attended ReadPending
  rw [h.status, h.connection, h.notifications, h.check]

theorem SameReads.trans {u v w : VPNManager} (h : SameReads u v) (h' : SameReads v w) : SameReads u w :=
  ⟨h'.status.trans h.status, h'.connection.trans h.connection, h'.notifications.trans h.notifications,
    h'.check.trans h.check⟩

theorem SameReads.start {v : VPNManager} {t : Task} (ht : t ≠ .loadAll .check) : SameReads v (v.start t) :=
  ⟨rfl, rfl, rfl, by rw [mem_tasks_start]; exact or_iff_left (Ne.symm ht)⟩

theorem SameReads.erase {v : VPNManager} {t : Task} (ht : t ≠ .loadAll .check) :
    SameReads v { v with tasks := v.tasks.erase t } :=
  ⟨rfl, rfl, rfl, check_mem_erase ht⟩

/-! ## One step -/

/-- Where the first manager and what is read stay the same, so does being tracked. -/
theorem SameReads.tracked {v v' : VPNManager} (h : SameReads v v') (hp : v'.preferences = v.preferences) :
    v'.Tracked ↔ v.Tracked := by
  unfold Tracked
  rw [hp]
  apply forall_congr'; intro ident
  apply imp_congr_right; intro _
  exact h.attended ident

/-- A step that may change which manager is first keeps track iff the new first one is attended. -/
theorem tracked_preferences {v v' : VPNManager} (hv : v.Tracked) (h : SameReads v v') :
    v'.Tracked ↔ ∀ p ∈ v'.preferences.first, p ∈ v.preferences.first ∨ v.Attended p := by
  apply forall_congr'; intro p
  apply imp_congr_right; intro _
  rw [h.attended]
  constructor
  · intro hp; exact .inr hp
  · rintro (hp | hp)
    · exact hv p hp
    · exact hp

/-- A status change queues a block of the manager iff one is registered. -/
theorem mem_notifications_changeStatus {v : VPNManager} {ident p : Nat} {status : NEVPNStatus} :
    p ∈ (v.changeStatus ident status).notifications ↔
      p ∈ v.notifications ∨ (p = ident ∧ ∃ r ∈ v.registrations, r.object = ident) := by
  simp only [changeStatus, List.mem_append, List.mem_map, List.mem_filter, beq_iff_eq]
  apply or_congr_right
  constructor
  · rintro ⟨r, ⟨hr, hid⟩, rfl⟩; exact ⟨hid, r, hr, hid⟩
  · rintro ⟨rfl, r, hr, hid⟩; exact ⟨r, ⟨hr, hid⟩, hid⟩

theorem tracked_changeStatus_iff {v : VPNManager} (hv : v.Tracked) (ident : Nat) (status : NEVPNStatus) :
    (v.changeStatus ident status).Tracked ↔ v.Covered (.statusChange ident status) := by
  have hattended (p : Nat) : (v.changeStatus ident status).Attended p ↔
      v.status = (Function.update v.connection ident status p).image ∨ .loadAll .check ∈ v.tasks ∨
        p ∈ v.notifications ∨ (p = ident ∧ ∃ r ∈ v.registrations, r.object = ident) := by
    rw [Attended, ReadPending, mem_notifications_changeStatus]; rfl
  constructor
  · intro h hfirst
    have h := (hattended ident).1 (h ident hfirst)
    rw [Function.update_self] at h
    rcases h with h | h | h | ⟨-, h⟩
    · exact .inr (.inr h)
    · exact .inr (.inl (.inl h))
    · exact .inr (.inl (.inr h))
    · exact .inl h
  · intro h p hfirst
    rw [hattended]
    by_cases hp : p = ident
    · subst hp
      rw [Function.update_self]
      rcases h hfirst with h | (h | h) | h
      · exact .inr (.inr (.inr ⟨rfl, h⟩))
      · exact .inr (.inl h)
      · exact .inr (.inr (.inl h))
      · exact .inl h
    · rw [Function.update_of_ne hp]
      rcases hv p hfirst with h | h | h
      · exact .inl h
      · exact .inr (.inl h)
      · exact .inr (.inr (.inl h))

/-- A block sets the status to that of its own manager. -/
theorem tracked_runBlock_iff {v : VPNManager} {ident : Nat} (hm : ident ∈ v.notifications) :
    ({ v with notifications := v.notifications.erase ident }.updateVPNStatus ident).Tracked ↔
      v.Covered (.runBlock ident) := by
  apply forall_congr'; intro p
  apply imp_congr_right; intro _
  unfold Attended ReadPending updateVPNStatus
  by_cases hp : p = ident
  · subst hp
    exact iff_of_true (.inl rfl) fun hne => absurd rfl hne
  · simp only [List.mem_erase_of_ne hp, hp, ne_eq, not_false_eq_true, true_imp_iff]

theorem tracked_complete_check {v v' : VPNManager} (hs : v.complete ruleConf (.loadAll .check) true = some v') :
    v'.Tracked := by
  have hspec := complete_spec hs
  have hpref : v'.preferences = v.preferences := hspec.preferences
  intro p hp
  rw [Preferences.first, hpref] at hp
  cases hm : v.preferences.managers with
  | nil => rw [hm] at hp; cases hp
  | cons manager managers =>
    rw [hm] at hp
    cases hp
    left
    rw [complete_check hs hm, hspec.connection]

theorem check_not_mem_issued (v : VPNManager) (config : Config) :
    Task.loadAll .check ∉ issued ruleConf v config := by
  unfold issued removals
  split <;> simp

/-- Every other completion reads no status and starts no load that will. -/
theorem complete_sameReads {v v' : VPNManager} {t : Task} {ok : Bool} (ht : t ≠ .loadAll .check)
    (hs : v.complete ruleConf t ok = some v') : SameReads v v' := by
  have hspec := complete_spec hs
  refine ⟨hspec.status ht, hspec.connection, hspec.notifications, ?_⟩
  rw [hspec.tasks, List.mem_append, or_iff_left]
  unfold started
  split
  · cases v.config with
    | none => simp
    | some config => exact check_not_mem_issued v config
  · simp
  · simp
  · simp

theorem tracked_complete_iff {v v' : VPNManager} {t : Task} {ok : Bool} (hv : v.Tracked)
    (hs : { v with tasks := v.tasks.erase t }.complete ruleConf t ok = some v') :
    v'.Tracked ↔ v.Covered (.complete t ok) := by
  by_cases ht : t = .loadAll .check
  · subst ht
    cases ok with
    | false =>
      -- the status is still right without the failed load, or another read is outstanding
      cases hs
      constructor
      · intro h; exact ⟨fun _ _ => h, fun p hp => .inl hp⟩
      · intro h; exact h.1 rfl rfl
    | true =>
      apply iff_of_true (tracked_complete_check hs)
      constructor
      · intro _ h; cases h
      · intro p hp; exact .inl hp
  · have hsame := (SameReads.erase ht).trans (complete_sameReads ht hs)
    rw [tracked_preferences hv hsame, (complete_spec hs).preferences]
    constructor
    · intro h; exact ⟨fun hc => absurd hc ht, h⟩
    · rintro ⟨-, h⟩; exact h

/-- A step from a tracked state keeps track exactly when it is covered. -/
theorem tracked_step_iff {v v' : VPNManager} {e : Event} (hv : v.Tracked) (hs : step ruleConf v e = some v') :
    v'.Tracked ↔ v.Covered e := by
  cases e with
  | check =>
    cases hs
    apply iff_of_true _ trivial
    intro _ _
    exact .inr (.inl (mem_tasks_start.2 (.inr rfl)))
  | connect config =>
    cases hs
    have hsame : SameReads v (v.connect config) := ⟨rfl, rfl, rfl, by simp [VPNManager.connect, start]⟩
    exact iff_of_true ((hsame.tracked rfl).2 hv) trivial
  | disconnect =>
    cases hs
    exact iff_of_true (((SameReads.start (by simp)).tracked rfl).2 hv) trivial
  | statusChange ident status => cases hs; exact tracked_changeStatus_iff hv ident status
  | runBlock ident =>
    obtain ⟨hm, hs⟩ := Option.ite_none_right_eq_some.1 hs
    cases hs
    exact tracked_runBlock_iff hm
  | complete t ok =>
    obtain ⟨ht, hs⟩ := Option.ite_none_right_eq_some.1 hs
    exact tracked_complete_iff hv hs

/-! ## Runs -/

theorem launch_tracked (preferences : Preferences) (connection : Nat → NEVPNStatus) (nextIdent : Nat) :
    (launch preferences connection nextIdent).Tracked :=
  fun _ _ => .inr (.inl (List.mem_cons_self ..))

/-- A run whose steps are all covered is tracked to its end. -/
theorem run_tracked {v v' : VPNManager} {es : List Event} (hv : v.Tracked)
    (hcov : Lts.Meets (step ruleConf) Covered v es) (hrun : Lts.run (step ruleConf) v es = some v') : v'.Tracked :=
  Lts.run_invariant_of_meets (fun _ _ _ hv hc hs => (tracked_step_iff hv hs).2 hc) hv hcov hrun

/-- No completion and no notification is outstanding. -/
structure Quiet (v : VPNManager) : Prop where
  tasks : v.tasks = []
  notifications : v.notifications = []

/-- In every run whose steps are all covered, the status of a quiet state is the image of the first
manager's connection status. -/
theorem status_eq_image {preferences : Preferences} {connection : Nat → NEVPNStatus} {nextIdent : Nat}
    {es : List Event} {v : VPNManager} {ident : Nat}
    (hcov : Lts.Meets (step ruleConf) Covered (launch preferences connection nextIdent) es)
    (hrun : Lts.run (step ruleConf) (launch preferences connection nextIdent) es = some v)
    (hquiet : v.Quiet) (hfirst : ident ∈ v.preferences.first) :
    v.status = (v.connection ident).image := by
  rcases run_tracked (launch_tracked preferences connection nextIdent) hcov hrun ident hfirst with h | h | h
  · exact h
  · rw [hquiet.tasks] at h; exact absurd h List.not_mem_nil
  · rw [hquiet.notifications] at h; exact absurd h List.not_mem_nil

/-- The app starts with one manager, whose tunnel is down. -/
def sampleLaunch : VPNManager := launch (.single (.create 0)) (fun _ => .disconnected) 1

theorem status_eq_image_sample : ∃ v,
    Lts.run (step []) sampleLaunch
        [.complete (.loadAll .addStatusObserver) true, .statusChange 0 .connected, .runBlock 0,
          .complete (.loadAll .check) true] = some v ∧
      v.status = (v.connection 0).image :=
  ⟨_, rfl, @status_eq_image [] (.single (.create 0)) (fun _ => .disconnected) 1
    [.complete (.loadAll .addStatusObserver) true, .statusChange 0 .connected, .runBlock 0,
      .complete (.loadAll .check) true] _ 0 (by decide) rfl ⟨rfl, rfl⟩ rfl⟩

/-- The tunnel comes up after `check` has read its status and before a block is registered: the
change is not heard, and registering the block does not read the status again. -/
theorem status_change_lost : ∃ v,
    Lts.run (step []) sampleLaunch
        [.complete (.loadAll .check) true, .statusChange 0 .connected,
          .complete (.loadAll .addStatusObserver) true] = some v ∧
      v.Quiet ∧ 0 ∈ v.preferences.first ∧ v.status = .off ∧ (v.connection 0).image = .on :=
  ⟨_, rfl, ⟨rfl, rfl⟩, rfl, rfl, rfl⟩

end VPNManager

end VpnSs.Lead
