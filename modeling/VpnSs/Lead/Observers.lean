/-
The blocks `addStatusObserver` registers. `removeObserver` names the manager and the registrations
belong to their tokens, so none is ever dropped: every load of `addStatusObserver` that finds a manager
adds a block, and one status change runs them all. A run has at most one block exactly when each such
load finds none registered, that is, when there is at most one such load.
-/
import VpnSs.Lead.StatusTracking

namespace VpnSs.Lead

open VpnSs.Swift

namespace VPNManager

variable {ruleConf : Text}

/-- What one status change posts: every block it queues runs `updateVPNStatus`, and setting the status
posts the app's notification. -/
def posts (v : VPNManager) (ident : Nat) (status : NEVPNStatus) : List Status :=
  let v' := v.changeStatus ident status
  (v'.notifications.drop v.notifications.length).map fun block => (v'.updateVPNStatus block).status

/-- At most one block is registered, and one status change posts at most once. -/
structure SingleObserver (v : VPNManager) : Prop where
  registrations : v.registrations.length ≤ 1
  posts : ∀ ident status, (v.posts ident status).length ≤ 1

/-- The steps that register no second block. -/
def RegistersFirst (v : VPNManager) : Event → Prop
  | .complete (.loadAll .addStatusObserver) true => v.preferences.managers ≠ [] → v.registrations = []
  | _ => True

instance (v : VPNManager) (e : Event) : Decidable (v.RegistersFirst e) := by
  unfold RegistersFirst
  split <;> infer_instance

/-- How many of a run's loads of `addStatusObserver` find a manager. -/
def loadsThatFind (ruleConf : Text) : VPNManager → List Event → Nat
  | _, [] => 0
  | v, e :: es =>
    (match e with
      | .complete (.loadAll .addStatusObserver) true => if v.preferences.managers = [] then 0 else 1
      | _ => 0) +
    (match step ruleConf v e with
      | none => 0
      | some v' => loadsThatFind ruleConf v' es)

/-! ## Registrations are never dropped -/

/-- Every registration belongs to a token. -/
def Tokens (v : VPNManager) : Prop := ∀ r ∈ v.registrations, r.observer = .token

/-- The blocks a step registers. -/
def registered (p : Preferences) : Event → List Registration
  | .complete (.loadAll .addStatusObserver) true =>
    (p.first.map fun ident => { observer := .token, object := ident }).toList
  | _ => []

theorem removeObserver_tokens {v : VPNManager} (h : v.Tokens) : v.removeObserver .vpnManager = v := by
  have hall : (v.registrations.filter fun r => r.observer != .vpnManager) = v.registrations := by
    apply List.filter_eq_self.2
    intro r hr
    rw [h r hr]; rfl
  rw [removeObserver, hall]

theorem complete_registrations {v v' : VPNManager} (h : v.Tokens) {t : Task} {ok : Bool}
    (hs : v.complete ruleConf t ok = some v') :
    v'.registrations = v.registrations ++ registered v.preferences (.complete t ok) := by
  have hnone : v.registrations = v.registrations ++ [] := (List.append_nil _).symm
  cases ok with
  | false =>
    rw [complete_false] at hs
    cases hs
    cases t with
    | loadAll load => cases load <;> exact hnone
    | _ => exact hnone
  | true =>
    cases t with
    | loadAll load =>
      cases load with
      | check =>
        simp only [complete] at hs
        split at hs <;> cases hs <;> exact hnone
      | addStatusObserver =>
        simp only [complete] at hs
        split at hs
        · rename_i hm
          cases hs
          rw [registered, Preferences.first, hm]; exact hnone
        · rename_i manager managers hm
          cases hs
          rw [registerBlock, removeObserver_tokens h, registered, Preferences.first, hm]; rfl
      | connect =>
        obtain ⟨config, -, rfl⟩ := Option.map_eq_some_iff.1 hs
        obtain ⟨n, heq⟩ := loadAndCreateProviderManager_eq ruleConf v config
        rw [heq]; exact hnone
      | disconnect => cases hs; exact hnone
    | remove ident => cases hs; exact hnone
    | save manager => cases hs; exact hnone
    | load manager => cases hs; exact hnone

/-- A step adds the blocks it registers, and drops none. -/
theorem step_registrations {v v' : VPNManager} (h : v.Tokens) {e : Event} (hs : step ruleConf v e = some v') :
    v'.registrations = v.registrations ++ registered v.preferences e := by
  have hnone : v.registrations = v.registrations ++ [] := (List.append_nil _).symm
  cases e with
  | check => cases hs; exact hnone
  | connect config => cases hs; exact hnone
  | disconnect => cases hs; exact hnone
  | statusChange ident status => cases hs; exact hnone
  | runBlock ident =>
    obtain ⟨-, hs⟩ := Option.ite_none_right_eq_some.1 hs
    cases hs
    exact hnone
  | complete t ok =>
    obtain ⟨-, hs⟩ := Option.ite_none_right_eq_some.1 hs
    exact complete_registrations (v := { v with tasks := v.tasks.erase t }) h hs

theorem registered_token {p : Preferences} {e : Event} {r : Registration} (h : r ∈ registered p e) :
    r.observer = .token := by
  unfold registered at h
  split at h
  · rw [Option.mem_toList, Option.map_eq_some_iff] at h
    obtain ⟨ident, -, rfl⟩ := h
    rfl
  · cases h

theorem step_tokens {v v' : VPNManager} (h : v.Tokens) {e : Event} (hs : step ruleConf v e = some v') : v'.Tokens := by
  intro r hr
  rw [step_registrations h hs] at hr
  rcases List.mem_append.1 hr with hr | hr
  · exact h r hr
  · exact registered_token hr

/-! ## At most one block -/

theorem length_posts (v : VPNManager) (ident : Nat) (status : NEVPNStatus) :
    (v.posts ident status).length ≤ v.registrations.length := by
  simp only [posts, changeStatus, List.drop_left, List.length_map]
  exact List.length_filter_le ..

theorem singleObserver_iff {v : VPNManager} : v.SingleObserver ↔ v.registrations.length ≤ 1 := by
  constructor
  · intro h; exact h.registrations
  · intro h; exact ⟨h, fun ident status => Nat.le_trans (length_posts v ident status) h⟩

/-- A step registers at most one block, and one exactly where a load of `addStatusObserver` finds a
manager. -/
theorem registersFirst_iff {v : VPNManager} {e : Event} (hv : v.SingleObserver) :
    (v.registrations ++ registered v.preferences e).length ≤ 1 ↔ v.RegistersFirst e := by
  unfold registered RegistersFirst
  split
  · cases hm : v.preferences.managers with
    | nil => simpa [Preferences.first, hm] using hv.registrations
    | cons manager managers => simp [Preferences.first, hm, List.length_eq_zero_iff]
  · simpa using hv.registrations

/-- A step keeps a single observer exactly when it registers no second block. -/
theorem singleObserver_step_iff {v v' : VPNManager} {e : Event} (ht : v.Tokens) (hv : v.SingleObserver)
    (hs : step ruleConf v e = some v') : v'.SingleObserver ↔ v.RegistersFirst e := by
  rw [singleObserver_iff, step_registrations ht hs]
  exact registersFirst_iff hv

theorem loadsThatFind_cons {v v' : VPNManager} {e : Event} (hs : step ruleConf v e = some v') (es : List Event) :
    loadsThatFind ruleConf v (e :: es) = (registered v.preferences e).length + loadsThatFind ruleConf v' es := by
  rw [loadsThatFind.eq_def]
  dsimp only
  rw [hs]
  dsimp only
  congr 1
  unfold registered
  split
  · cases hm : v.preferences.managers with
    | nil => simp [Preferences.first, hm]
    | cons manager managers => simp [Preferences.first, hm]
  · rfl

/-- From a state on there is a single observer all along exactly when it, with the loads to come, makes at
most one block. -/
theorem always_iff_loadsThatFind {v t : VPNManager} {es : List Event} (ht : v.Tokens)
    (hr : Lts.run (step ruleConf) v es = some t) :
    Lts.Always (step ruleConf) SingleObserver v es ↔ v.registrations.length + loadsThatFind ruleConf v es ≤ 1 := by
  induction es generalizing v with
  | nil => rw [Lts.always_nil, singleObserver_iff]; rfl
  | cons e es ih =>
    obtain ⟨v', hs, hr⟩ := Lts.run_cons_some.1 hr
    have hlen : v'.registrations.length = v.registrations.length + (registered v.preferences e).length := by
      rw [step_registrations ht hs, List.length_append]
    have hrest := ih (step_tokens ht hs) hr
    rw [hlen] at hrest
    rw [Lts.always_cons, singleObserver_iff, loadsThatFind_cons hs]
    simp only [hs, Option.some.injEq, forall_eq']
    rw [hrest]
    omega

/-- A run has at most one block registered at all times, and one post for each status change, exactly
when each load of `addStatusObserver` that finds a manager finds no block registered, and so exactly when at
most one of its loads finds a manager. -/
theorem always_singleObserver_iff {preferences : Preferences} {connection : Nat → NEVPNStatus} {nextIdent : Nat}
    {es : List Event} {v : VPNManager}
    (hrun : Lts.run (step ruleConf) (launch preferences connection nextIdent) es = some v) :
    (Lts.Always (step ruleConf) SingleObserver (launch preferences connection nextIdent) es ↔
      Lts.Meets (step ruleConf) RegistersFirst (launch preferences connection nextIdent) es) ∧
    (Lts.Always (step ruleConf) SingleObserver (launch preferences connection nextIdent) es ↔
      loadsThatFind ruleConf (launch preferences connection nextIdent) es ≤ 1) := by
  have htokens : (launch preferences connection nextIdent).Tokens := by
    intro r hr
    cases hr
  constructor
  · have hG : Lts.Meets (step ruleConf) (fun _ _ => True) (launch preferences connection nextIdent) es :=
      Lts.meets_of_forall (fun _ _ => trivial) _ es
    apply Lts.always_iff_meets (I := Tokens) _ _ htokens _ hG hrun
    · intro v e v' ht _ hs
      exact step_tokens ht hs
    · intro v e v' ht hv _ hs
      exact singleObserver_step_iff ht hv hs
    · exact singleObserver_iff.2 (Nat.zero_le 1)
  · have hloads := always_iff_loadsThatFind htokens hrun
    have hnone : (launch preferences connection nextIdent).registrations.length = 0 := rfl
    rw [hnone, Nat.zero_add] at hloads
    exact hloads

/-- The block of `init` hears the tunnel come up. -/
theorem always_singleObserver_sample :
    Lts.Always (step []) SingleObserver sampleLaunch
      [.complete (.loadAll .addStatusObserver) true, .statusChange 0 .connected, .runBlock 0] :=
  (@always_singleObserver_iff [] (.single (.create 0)) (fun _ => .disconnected) 1
    [.complete (.loadAll .addStatusObserver) true, .statusChange 0 .connected, .runBlock 0] _ rfl).2.2 (by decide)

/-- One connect after `init` has registered its block. -/
def sampleConnect : List Event :=
  let manager := (NETunnelProviderManager.create 0).configured [] (Config.sample "1")
  [.complete (.loadAll .addStatusObserver) true, .connect (Config.sample "1"), .complete (.loadAll .connect) true,
    .complete (.save manager) true, .complete (.load manager) true, .complete (.loadAll .addStatusObserver) true]

/-- It leaves two blocks registered: the tunnel comes up and the app's notification is posted twice. -/
theorem connect_registers_twice : ∃ v,
    Lts.run (step []) sampleLaunch sampleConnect = some v ∧
      v.registrations.length = 2 ∧ v.posts 0 .connected = [.on, .on] :=
  ⟨_, rfl, rfl, rfl⟩

end VPNManager

end VpnSs.Lead
