/-
`VPNManager` and the part of the system it works with: the preferences, the connections of the
managers, the notification centre and the main queue. Every call to NetworkExtension ends in a
completion at some later time; the outstanding ones are the tasks of the state, and a run takes
them in any order among the calls of the app and the status changes of the system.
-/
import VpnSs.Lead.Preferences
import VpnSs.Lib.Lts
import Mathlib.Logic.Function.Basic

namespace VpnSs.Lead

open VpnSs.Swift

/-! ## Status -/

inductive NEVPNStatus where
  | invalid
  | disconnected
  | connecting
  | connected
  | reasserting
  | disconnecting
  deriving DecidableEq, Repr

inductive Status where
  | off
  | connecting
  | on
  | disconnecting
  deriving DecidableEq, Repr

/-- The switch of `updateVPNStatus`. -/
def NEVPNStatus.image : NEVPNStatus → Status
  | .connected => .on
  | .connecting => .connecting
  | .reasserting => .connecting
  | .disconnecting => .disconnecting
  | .disconnected => .off
  | .invalid => .off

/-! ## State -/

/-- What a load of all managers was started for. -/
inductive Load where
  | check
  | addStatusObserver
  | connect
  | disconnect
  deriving DecidableEq, Repr

/-- An outstanding call to NetworkExtension. -/
inductive Task where
  | loadAll (load : Load)
  | remove (ident : Nat)
  | save (manager : NETunnelProviderManager)
  | load (manager : NETunnelProviderManager)
  deriving DecidableEq

/-- A call that changes the preferences. -/
def Task.IsWrite : Task → Prop
  | .remove _ => True
  | .save _ => True
  | _ => False

/-- The manager a call saves. -/
def Task.saved : Task → Option NETunnelProviderManager
  | .save manager => some manager
  | _ => none

/-- Who a registration belongs to: an observer object, or the token a block registration returns. -/
inductive Observer where
  | vpnManager
  | token
  deriving DecidableEq, Repr

/-- A registration for status changes of a manager's connection. -/
structure Registration where
  observer : Observer
  object : Nat
  deriving DecidableEq, Repr

/-- `VPNManager.shared` and the system. `notifications` are the blocks queued to run, each named by
the manager it captures. -/
structure VPNManager where
  config : Option Config
  status : Status
  preferences : Preferences
  connection : Nat → NEVPNStatus
  registrations : List Registration
  notifications : List Nat
  tasks : List Task
  nextIdent : Nat

namespace VPNManager

/-! ## The source -/

def start (v : VPNManager) (t : Task) : VPNManager := { v with tasks := v.tasks ++ [t] }

def check (v : VPNManager) : VPNManager := v.start (.loadAll .check)

def addStatusObserver (v : VPNManager) : VPNManager := v.start (.loadAll .addStatusObserver)

/-- `init`, with the preferences and connections it finds. -/
def launch (preferences : Preferences) (connection : Nat → NEVPNStatus) (nextIdent : Nat) : VPNManager :=
  let v : VPNManager :=
    { config := none, status := .off, preferences, connection, registrations := [], notifications := [],
      tasks := [], nextIdent }
  v.check.addStatusObserver

def connect (v : VPNManager) (config : Config) : VPNManager :=
  { v with config := some config }.start (.loadAll .connect)

def disconnect (v : VPNManager) : VPNManager := v.start (.loadAll .disconnect)

def updateVPNStatus (v : VPNManager) (ident : Nat) : VPNManager :=
  { v with status := (v.connection ident).image }

/-- `NotificationCenter.removeObserver`: drops the registrations of the observer. -/
def removeObserver (v : VPNManager) (observer : Observer) : VPNManager :=
  { v with registrations := v.registrations.filter fun r => r.observer != observer }

/-- The completion in `addStatusObserver`. Registering a block returns a token, which is the observer
of the registration. -/
def registerBlock (v : VPNManager) (ident : Nat) : VPNManager :=
  let v := v.removeObserver .vpnManager
  { v with registrations := v.registrations ++ [{ observer := .token, object := ident }] }

/-- `deleteDupConfig`: starts a removal of every manager of the array. -/
def deleteDupConfig (v : VPNManager) (managers : List NETunnelProviderManager) : VPNManager :=
  if managers.length > 1 then managers.foldl (fun v m => v.start (.remove m.ident)) v else v

/-- The completion of the load in `loadAndCreateProviderManager`, up to the save. -/
def loadAndCreateProviderManager (ruleConf : Text) (v : VPNManager) (config : Config) : VPNManager :=
  match v.preferences.managers with
  | [] =>
    let manager := NETunnelProviderManager.create v.nextIdent
    { v with nextIdent := v.nextIdent + 1 }.start (.save (manager.configured ruleConf config))
  | manager :: managers =>
    (v.deleteDupConfig (manager :: managers)).start (.save (manager.configured ruleConf config))

/-- What the completion of a call does. A failed load gives no managers; the failure of the others
shows a message and nothing more. `startVPNTunnel` and `stopVPNTunnel` are requests: the system
answers with status changes. A connect without a config would trap; it has no next state. -/
def complete (ruleConf : Text) (v : VPNManager) : Task → Bool → Option VPNManager
  | .loadAll .check, true =>
    match v.preferences.managers with
    | [] => some v
    | manager :: _ => some (v.updateVPNStatus manager.ident)
  | .loadAll .addStatusObserver, true =>
    match v.preferences.managers with
    | [] => some v
    | manager :: _ => some (v.registerBlock manager.ident) -- the status is not read here
  -- the config of the last call, whichever call the load belongs to
  | .loadAll .connect, true => v.config.map (v.loadAndCreateProviderManager ruleConf)
  | .loadAll .disconnect, true => some v
  | .remove ident, true => some { v with preferences := v.preferences.remove ident }
  | .save manager, true => some ({ v with preferences := v.preferences.save manager }.start (.load manager))
  | .load _, true => some v.addStatusObserver
  | _, false => some v

/-! ## Runs -/

inductive Event where
  | check
  | connect (config : Config)
  | disconnect
  | complete (t : Task) (ok : Bool)
  | statusChange (ident : Nat) (status : NEVPNStatus)
  | runBlock (ident : Nat)

/-- A change of a connection's status queues the blocks registered for it. -/
def changeStatus (v : VPNManager) (ident : Nat) (status : NEVPNStatus) : VPNManager :=
  { v with
    connection := Function.update v.connection ident status
    notifications := v.notifications ++ (v.registrations.filter fun r => r.object == ident).map Registration.object }

/-- One event: a call of the app, the completion of an outstanding call with or without success, a
status change, or a queued block that runs. -/
def step (ruleConf : Text) (v : VPNManager) : Event → Option VPNManager
  | .check => some v.check
  | .connect config => some (v.connect config)
  | .disconnect => some v.disconnect
  | .complete t ok => if t ∈ v.tasks then { v with tasks := v.tasks.erase t }.complete ruleConf t ok else none
  | .statusChange ident status => some (v.changeStatus ident status)
  | .runBlock ident =>
    if ident ∈ v.notifications then
      some ({ v with notifications := v.notifications.erase ident }.updateVPNStatus ident)
    else none

/-! ## What connect starts -/

/-- The removals `deleteDupConfig` starts. -/
def removals (managers : List NETunnelProviderManager) : List Task :=
  if managers.length > 1 then managers.map fun m => .remove m.ident else []

/-- The manager `loadAndCreateProviderManager` configures: the first one, or a new one. -/
def target (v : VPNManager) : NETunnelProviderManager :=
  match v.preferences.managers with
  | [] => .create v.nextIdent
  | manager :: _ => manager

/-- The removals of duplicates and the save of the configured manager. -/
def issued (ruleConf : Text) (v : VPNManager) (config : Config) : List Task :=
  removals v.preferences.managers ++ [.save (v.target.configured ruleConf config)]

theorem deleteDupConfig_eq (v : VPNManager) (managers : List NETunnelProviderManager) :
    v.deleteDupConfig managers = { v with tasks := v.tasks ++ removals managers } := by
  have hfold : ∀ (ms : List NETunnelProviderManager) (v : VPNManager),
      ms.foldl (fun v m => v.start (.remove m.ident)) v =
        { v with tasks := v.tasks ++ ms.map fun m => .remove m.ident } := by
    intro ms
    induction ms with
    | nil => intro v; simp
    | cons m ms ih => intro v; rw [List.foldl_cons, ih]; simp [start]
  unfold deleteDupConfig removals
  split
  · exact hfold managers v
  · simp

theorem loadAndCreateProviderManager_eq (ruleConf : Text) (v : VPNManager) (config : Config) : ∃ n,
    v.loadAndCreateProviderManager ruleConf config =
      { v with tasks := v.tasks ++ issued ruleConf v config, nextIdent := n } := by
  unfold loadAndCreateProviderManager issued target
  cases v.preferences.managers with
  | nil => exact ⟨v.nextIdent + 1, by simp [start, removals]⟩
  | cons manager managers =>
    refine ⟨v.nextIdent, ?_⟩
    simp only [deleteDupConfig_eq, start, List.append_assoc]

/-! ## What completions do -/

/-- The preferences after a call: a removal or a save that succeeds changes them. -/
def preferencesAfter (p : Preferences) : Task → Bool → Preferences
  | .remove ident, true => p.remove ident
  | .save manager, true => p.save manager
  | _, _ => p

/-- The calls a completion starts. -/
def started (ruleConf : Text) (v : VPNManager) : Task → Bool → List Task
  | .loadAll .connect, true => (v.config.map (issued ruleConf v)).getD []
  | .save manager, true => [.load manager]
  | .load _, true => [.loadAll .addStatusObserver]
  | _, _ => []

@[simp] theorem preferencesAfter_false (p : Preferences) (t : Task) : preferencesAfter p t false = p := by
  cases t <;> rfl

@[simp] theorem started_false (ruleConf : Text) (v : VPNManager) (t : Task) : v.started ruleConf t false = [] := by
  cases t with
  | loadAll load => cases load <;> rfl
  | _ => rfl

/-- Everything a completion does to the preferences, the calls and the status; of the rest it may
register a block and take an identity. -/
structure Completes (ruleConf : Text) (v : VPNManager) (t : Task) (ok : Bool) (v' : VPNManager) : Prop where
  config : v'.config = v.config
  preferences : v'.preferences = preferencesAfter v.preferences t ok
  connection : v'.connection = v.connection
  notifications : v'.notifications = v.notifications
  tasks : v'.tasks = v.tasks ++ v.started ruleConf t ok
  status : t ≠ .loadAll .check → v'.status = v.status

theorem complete_false (ruleConf : Text) (v : VPNManager) (t : Task) : v.complete ruleConf t false = some v := by
  cases t with
  | loadAll load => cases load <;> rfl
  | _ => rfl

theorem complete_spec {ruleConf : Text} {v v' : VPNManager} {t : Task} {ok : Bool}
    (hs : v.complete ruleConf t ok = some v') : Completes ruleConf v t ok v' := by
  have hnone : v.tasks = v.tasks ++ [] := (List.append_nil _).symm
  cases ok with
  | false =>
    rw [complete_false] at hs
    cases hs
    exact ⟨rfl, by rw [preferencesAfter_false], rfl, rfl, by rw [started_false, List.append_nil], fun _ => rfl⟩
  | true =>
    cases t with
    | loadAll load =>
      cases load with
      | check =>
        simp only [complete] at hs
        split at hs <;> cases hs <;> exact ⟨rfl, rfl, rfl, rfl, hnone, fun h => absurd rfl h⟩
      | addStatusObserver =>
        simp only [complete] at hs
        split at hs <;> cases hs <;> exact ⟨rfl, rfl, rfl, rfl, hnone, fun _ => rfl⟩
      | connect =>
        obtain ⟨config, hc, rfl⟩ := Option.map_eq_some_iff.1 hs
        obtain ⟨n, h⟩ := loadAndCreateProviderManager_eq ruleConf v config
        rw [h]
        exact ⟨rfl, rfl, rfl, rfl, by simp [started, hc], fun _ => rfl⟩
      | disconnect => cases hs; exact ⟨rfl, rfl, rfl, rfl, hnone, fun _ => rfl⟩
    | remove ident => cases hs; exact ⟨rfl, rfl, rfl, rfl, hnone, fun _ => rfl⟩
    | save manager => cases hs; exact ⟨rfl, rfl, rfl, rfl, rfl, fun _ => rfl⟩
    | load manager => cases hs; exact ⟨rfl, rfl, rfl, rfl, rfl, fun _ => rfl⟩

/-- The completion of a load of `check` reads the first manager's status. -/
theorem complete_check {ruleConf : Text} {v v' : VPNManager}
    (hs : v.complete ruleConf (.loadAll .check) true = some v') {manager : NETunnelProviderManager}
    {managers : List NETunnelProviderManager} (hm : v.preferences.managers = manager :: managers) :
    v'.status = (v.connection manager.ident).image := by
  simp only [complete, hm, Option.some.injEq] at hs
  rw [← hs, updateVPNStatus]

end VPNManager

end VpnSs.Lead
