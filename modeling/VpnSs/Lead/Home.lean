/-
The home screen: the list of configs with its guards, the config screen it opens, and the connect
button. Beside the state of the app the connect calls are remembered, each with the config passed
and its contents then: those whose tunnel may still start, and the session, the call that started
the tunnel, until it is off again. While the status is on the guards let no gesture begin, so that the
config in use can only be lost to one begun before.
-/
import VpnSs.Lead.DataManager
import VpnSs.Lead.VPNManager

namespace VpnSs.Lead

open VpnSs.Swift

/-- The fields the config screen edits. -/
structure Contents where
  name : Text
  address : Text
  port : Int
  crypto : Crypto
  password : Text
  deriving DecidableEq, Repr

def Config.contents (c : Config) : Contents :=
  { name := c.name, address := c.address, port := c.port, crypto := c.crypto, password := c.password }

@[simp] theorem Config.contents_update (c model : Config) : (c.update model).contents = model.contents := rfl

@[simp] theorem Config.contents_select (b : Bool) (c : Config) : (c.select b).contents = c.contents := rfl

/-- A connect call: the config passed, what it contained, and whether a gesture begun while the status
was not on has been completed on the config since. -/
structure Call where
  config : Ref
  contents : Contents
  hit : Bool
  deriving DecidableEq, Repr

/-- A row whose deletion is offered, and the status when it was swiped. -/
structure Swipe where
  row : Nat
  status : Status

/-- A config screen with the config it edits (none for a new one), and the status when it was opened. -/
structure Screen where
  config : Option Ref
  status : Status

/-- The store, the status of `VPNManager`, the row that is swiped, the config screen on top, the connect
calls whose tunnel may still start, and the call that started the tunnel. -/
structure Home (Data : Type) where
  dataManager : DataManager Data
  status : Status
  swiped : Option Swipe
  editor : Option Screen
  pending : List Call
  session : Option Call

namespace Home

variable {Data : Type} (coder : JSONCoder Data)

/-! ## The source -/

/-- `config(at:)`, which traps past the end. -/
def config (h : Home Data) (row : Nat) : Option Ref := h.dataManager.configs[row]?

/-- `canEditRow` in the section of the configs. -/
def canEditRow (h : Home Data) (row : Nat) : Bool :=
  decide (row < h.dataManager.configs.length) && h.status != .on

/-- `deleteConfig(at:)` -/
def deleteConfig (h : Home Data) (row : Nat) : Option (Home Data) :=
  -- the status is not asked for again
  (h.config row).map fun config => { h with dataManager := h.dataManager.deleteConfig coder config, swiped := none }

/-- `didSelectRow`: the row after the last config opens the config screen for a new one. -/
def didSelectRow (h : Home Data) (row : Nat) : Option (Home Data) :=
  if row = h.dataManager.configs.length then some { h with editor := some { config := none, status := h.status } }
  else (h.config row).map fun config => { h with dataManager := h.dataManager.selecteConfig coder config }

/-- `accessoryButtonTapped`: while connected a tip is shown, and nothing else. -/
def accessoryButtonTapped (h : Home Data) (row : Nat) : Option (Home Data) :=
  if h.status = .on then some h
  else (h.config row).map fun config => { h with editor := some { config := some config, status := h.status } }

/-- `ConfigViewController.done`, for a form that is accepted with the contents of `model`. -/
def done (h : Home Data) (model : Config) : Option (Home Data) :=
  match h.editor with
  | none => none
  | some { config := none, .. } =>
    let m := h.dataManager.newConfig (model.select false)
    some { h with dataManager := m.addConfig coder h.dataManager.heap.next, editor := none }
  | some { config := some config, .. } =>
    let m := h.dataManager.updateObject config model
    some { h with dataManager := m.updateConfig coder config, editor := none }

/-- `HeaderView.didTapButton`. The view model's config follows the relay `selectedConfig`. -/
def didTapButton (h : Home Data) : Home Data :=
  if h.status = .off then
    match h.dataManager.selectedConfigValue with
    | some config =>
      let contents := (h.dataManager.heap.read config).contents
      { h with pending := h.pending ++ [{ config, contents, hit := false }] }
    | none => h
  else h

/-- The system's status reaches `VPNManager.status`. -/
def changeStatus (h : Home Data) (status : Status) : Home Data :=
  { h with status, session := if status = .off ∧ h.status ≠ .off then none else h.session }

/-- The tunnel starts for a connect call; it does not start twice. -/
def startTunnel (h : Home Data) (i : Nat) : Option (Home Data) :=
  if h.session = none then
    h.pending[i]?.map fun call => { h with pending := h.pending.eraseIdx i, session := some call }
  else none

/-! ## Runs -/

/-- What the user does, what becomes of the connect calls and their tunnel, and the system's status
changes. -/
inductive Action where
  | swipe (row : Nat)
  | confirmDelete
  | tapRow (row : Nat)
  | tapAccessory (row : Nat)
  | done (model : Config)
  | cancel
  | tapConnect
  | startTunnel (i : Nat)
  | callEnds (i : Nat)
  | tunnelEnds
  | statusChange (status : Status)
  deriving DecidableEq

/-- One action of the user or the system. A form that is not accepted changes nothing, so only
accepted ones are actions. -/
def act (h : Home Data) : Action → Option (Home Data)
  | .swipe row => if h.canEditRow row then some { h with swiped := some { row, status := h.status } } else none
  | .confirmDelete => h.swiped.bind fun swipe => h.deleteConfig coder swipe.row
  | .tapRow row => h.didSelectRow coder row
  | .tapAccessory row => h.accessoryButtonTapped row
  | .done model => h.done coder model
  | .cancel => if h.editor.isSome then some { h with editor := none } else none
  | .tapConnect => some h.didTapButton
  | .startTunnel i => h.startTunnel i
  | .callEnds i => some { h with pending := h.pending.eraseIdx i }
  | .tunnelEnds => if h.status = .off then some { h with session := none } else none
  | .statusChange status => some (h.changeStatus status)

/-- The action completes a gesture that was begun while the status was not on, on the config of a call:
it deletes a row with its id, or edits an object with its id and does not leave it as it was passed. -/
def hits (h : Home Data) (call : Call) : Action → Bool
  | .confirmDelete => h.swiped.any fun swipe => swipe.status != .on && (h.config swipe.row).any fun config =>
      (h.dataManager.heap.read call.config).id == (h.dataManager.heap.read config).id
  | .done model => h.editor.any fun screen => screen.status != .on && screen.config.any fun config =>
      (h.dataManager.heap.read call.config).id == (h.dataManager.heap.read config).id &&
        !(call.config == config && model.contents == call.contents)
  | _ => false

/-- A call remembers what the action completes on its config. -/
def mark (h : Home Data) (a : Action) (call : Call) : Call := { call with hit := call.hit || h.hits call a }

def step (h : Home Data) (a : Action) : Option (Home Data) :=
  (h.act coder a).map fun h' => { h' with pending := h'.pending.map (h.mark a), session := h'.session.map (h.mark a) }

/-- The app at its start. -/
def launch (heap : Heap Config) (defaults : Option Data) : Home Data :=
  { dataManager := .launch coder heap defaults, status := .off, swiped := none, editor := none, pending := [],
    session := none }

end Home

/-! ## What the store's operations do to the objects -/

namespace DataManager

variable {Data : Type} {coder : JSONCoder Data}

/-- Every listed config is an object, and so is the one the relay publishes. -/
structure Listed (m : DataManager Data) : Prop where
  live : m.heap.Live m.configs
  selected : ∀ c, m.selectedConfigValue = some c → c ∈ m.configs

/-- An operation keeps an object in the list, with its id and contents. -/
structure Keeps (m m' : DataManager Data) (c : Ref) : Prop where
  mem : c ∈ m'.configs
  contents : (m'.heap.read c).contents = (m.heap.read c).contents

theorem firstSelected_mem {m : DataManager Data} {c : Ref} (h : m.firstSelected = some c) : c ∈ m.configs :=
  List.mem_of_find?_eq_some h

theorem launch_listed (heap : Heap Config) (defaults : Option Data) : (launch coder heap defaults).Listed :=
  ⟨Heap.allocAll_live heap _, fun _ hc => firstSelected_mem hc⟩

/-- A relay that is created late publishes a listed config, and one that exists still does where the
list only grows. -/
theorem Listed.of_subset {m m' : DataManager Data} (h : m.Listed) (hlive : m'.heap.Live m'.configs)
    (hsub : m.configs ⊆ m'.configs) (hsel : m'.selectedConfig = m.selectedConfig) : m'.Listed := by
  refine ⟨hlive, ?_⟩
  intro c hc
  unfold selectedConfigValue at hc
  cases hrelay : m.selectedConfig with
  | none =>
    rw [hsel, hrelay] at hc
    exact firstSelected_mem hc
  | some value =>
    rw [hsel, hrelay] at hc
    apply hsub
    apply h.selected
    rw [selectedConfigValue, hrelay]; exact hc

theorem save_listed {m : DataManager Data} (h : m.heap.Live m.configs) : (m.save coder).Listed :=
  ⟨h, fun _ hc => firstSelected_mem (m := m) hc⟩

/-- Selecting changes flags only. -/
theorem selecteConfig_keeps (coder : JSONCoder Data) {m : DataManager Data} (h : m.Listed) (config : Ref) :
    (m.selecteConfig coder config).Listed ∧ (m.selecteConfig coder config).heap.next = m.heap.next ∧
      ∀ c ∈ m.configs, m.Keeps (m.selecteConfig coder config) c := by
  unfold selecteConfig
  split
  · exact ⟨h, rfl, fun c hc => ⟨hc, rfl⟩⟩
  rename_i selected _
  split
  · exact ⟨h, rfl, fun c hc => ⟨hc, rfl⟩⟩
  have hnext : ((m.heap.modifyAll m.configs (Config.select false)).modify selected (Config.select true)).next =
      m.heap.next := by simp
  refine ⟨save_listed ?_, hnext, ?_⟩
  · intro r hr
    rw [hnext]; exact h.live r hr
  · -- of a listed object only the flag is written, by the loop and perhaps once more
    intro c hc
    refine ⟨hc, ?_⟩
    show ((((m.heap.modifyAll m.configs _).modify selected _).read c : Config)).contents = _
    rw [Heap.read_modify, Heap.read_modifyAll (fun v => Config.select_select ..), if_pos hc]
    split <;> simp

theorem addConfig_keeps (coder : JSONCoder Data) {m : DataManager Data} (h : m.Listed) (config : Config) :
    ((m.newConfig config).addConfig coder m.heap.next).Listed ∧
      m.heap.next ≤ ((m.newConfig config).addConfig coder m.heap.next).heap.next ∧
      ∀ c ∈ m.configs, m.Keeps ((m.newConfig config).addConfig coder m.heap.next) c := by
  have hlive : (m.heap.alloc config).Live (m.configs ++ [m.heap.next]) := h.live.append_alloc config
  have hread : ∀ c ∈ m.configs, (m.heap.alloc config).read c = m.heap.read c := by
    intro c hc
    exact Heap.read_alloc_of_lt m.heap config (h.live c hc)
  have hlisted : Listed { m.newConfig config with configs := m.configs ++ [m.heap.next] } :=
    h.of_subset hlive (List.subset_append_left ..) rfl
  unfold addConfig
  simp only
  split
  · obtain ⟨hl, hn, hk⟩ := selecteConfig_keeps coder hlisted m.heap.next
    refine ⟨hl, Nat.le_of_lt (lt_of_lt_of_eq (Nat.lt_succ_self _) hn.symm), ?_⟩
    intro c hc
    obtain ⟨hm, hcont⟩ := hk c (List.mem_append_left _ hc)
    exact ⟨hm, hcont.trans (congrArg Config.contents (hread c hc))⟩
  · refine ⟨save_listed hlive, Nat.le_succ _, ?_⟩
    intro c hc
    exact ⟨List.mem_append_left _ hc, congrArg Config.contents (hread c hc)⟩

/-- Deleting removes exactly the configs with the id. -/
theorem mem_deleteConfig {m : DataManager Data} {config c : Ref} :
    c ∈ (m.deleteConfig coder config).configs ↔
      c ∈ m.configs ∧ (m.heap.read c).id ≠ (m.heap.read config).id := by
  have hfilter : (m.deleteConfig coder config).configs =
      m.configs.filter fun c => (m.heap.read c).id != (m.heap.read config).id := by
    unfold deleteConfig
    simp only
    split
    · rfl
    · rename_i hlen
      exact (List.filter_sublist.eq_of_length (by simpa using hlen)).symm
  rw [hfilter, List.mem_filter, bne_iff_ne]

variable (coder) in
theorem deleteConfig_listed {m : DataManager Data} (h : m.Listed) (config : Ref) :
    (m.deleteConfig coder config).Listed ∧ (m.deleteConfig coder config).heap = m.heap := by
  unfold deleteConfig
  simp only
  split
  · exact ⟨save_listed fun r hr => h.live r (List.mem_of_mem_filter hr), rfl⟩
  · exact ⟨h, rfl⟩

theorem updateObject_id (m : DataManager Data) (config c : Ref) (model : Config) :
    ((m.updateObject config model).heap.read c).id = (m.heap.read c).id := by
  rw [updateObject, Heap.read_modify]
  split <;> rfl

/-- An edit changes the edited object, and keeps every object with another id in its place. -/
theorem edit_keeps (coder : JSONCoder Data) {m : DataManager Data} (h : m.Listed) {config : Ref}
    (hlive : config < m.heap.next) (model : Config) :
    ((m.updateObject config model).updateConfig coder config).Listed ∧
      ((m.updateObject config model).updateConfig coder config).heap = (m.updateObject config model).heap ∧
      (∀ c ∈ m.configs, (m.heap.read c).id ≠ (m.heap.read config).id ∨ c = config →
        c ∈ ((m.updateObject config model).updateConfig coder config).configs) := by
  have hlisted : (m.updateObject config model).Listed := h.of_subset h.live (List.Subset.refl _) rfl
  unfold updateConfig
  split
  · exact ⟨hlisted, rfl, fun c hc _ => hc⟩
  rename_i index hindex
  obtain ⟨hlt, hat, -⟩ := List.findIdx?_eq_some_iff_getElem.1 hindex
  refine ⟨save_listed ?_, rfl, ?_⟩
  · intro r hr
    rcases List.mem_or_eq_of_mem_set hr with hr | rfl
    · exact h.live r hr
    · exact hlive
  · intro c hc hne
    show c ∈ m.configs.set index config
    obtain ⟨i, hi, rfl⟩ := List.mem_iff_getElem.1 hc
    by_cases hii : index = i
    · -- the entry that is replaced has the id of the edited config
      subst hii
      rw [beq_iff_eq, updateObject_id, updateObject_id] at hat
      rw [hne.resolve_left fun hne => hne hat]
      exact List.mem_set hlt config
    · exact List.mem_iff_getElem.2 ⟨i, by rw [List.length_set]; exact hi, List.getElem_set_ne hii _⟩

end DataManager

namespace Home

variable {Data : Type} {coder : JSONCoder Data}

/-! ## The session is protected -/

/-- The store is in order, the config screen edits an object, and no gesture under way was begun while the
status was on. -/
structure Inv (h : Home Data) : Prop where
  listed : h.dataManager.Listed
  editor : ∀ screen ∈ h.editor, ∀ config ∈ screen.config, config < h.dataManager.heap.next
  swipedBefore : ∀ swipe ∈ h.swiped, swipe.status ≠ .on
  openedBefore : ∀ screen ∈ h.editor, ∀ config ∈ screen.config, screen.status ≠ .on

/-- The calls that have the tunnel or may get it. -/
def calls (h : Home Data) : List Call := h.pending ++ h.session.toList

/-- The config of a call is listed and has the contents it was passed with. -/
def Intact (h : Home Data) (call : Call) : Prop :=
  call.config ∈ h.dataManager.configs ∧ (h.dataManager.heap.read call.config).contents = call.contents

/-- Where no gesture begun while the status was not on was completed on its config. -/
def Protected (h : Home Data) : Prop := ∀ call ∈ h.calls, call.hit = false → h.Intact call

/-- What an action leaves: everything is in order, and the config of a call that it does not hit is intact. -/
structure Leaves (h : Home Data) (a : Action) (h' : Home Data) : Prop where
  inv : h'.Inv
  intact : ∀ call ∈ h'.calls, call.hit = false → h.hits call a = false → h'.Intact call

theorem Intact.of_keeps {h h' : Home Data} {call : Call} (hc : h.Intact call)
    (hk : call.config ∈ h.dataManager.configs → h.dataManager.Keeps h'.dataManager call.config) : h'.Intact call := by
  obtain ⟨hmem, hcont⟩ := hc
  exact ⟨(hk hmem).mem, (hk hmem).contents.trans hcont⟩

theorem Protected.of_subset {h h' : Home Data} (hp : h.Protected) (hd : h'.dataManager = h.dataManager)
    (hs : h'.calls ⊆ h.calls) : h'.Protected := by
  intro call hm hhit
  rw [Intact, hd]
  exact hp call (hs hm) hhit

/-- An action that leaves the store alone, and the config screen open or closes it. -/
theorem Leaves.of_protected {h h' : Home Data} {a : Action} (hi : h'.Inv) (hp : h'.Protected) : h.Leaves a h' :=
  ⟨hi, fun call hm hhit _ => hp call hm hhit⟩

theorem deleteConfig_leaves {h h' : Home Data} {swipe : Swipe} (hi : h.Inv) (hp : h.Protected)
    (hswiped : h.swiped = some swipe) (hs : h.deleteConfig coder swipe.row = some h') : h.Leaves .confirmDelete h' := by
  obtain ⟨config, hrow, rfl⟩ := Option.map_eq_some_iff.1 hs
  obtain ⟨hl, hheap⟩ := DataManager.deleteConfig_listed coder hi.listed config
  refine ⟨⟨hl, ?_, fun _ hr => (nomatch hr), hi.openedBefore⟩, ?_⟩
  · intro screen hscreen r hr
    show r < (h.dataManager.deleteConfig coder config).heap.next
    rw [hheap]
    exact hi.editor screen hscreen r hr
  · intro call hm hhit hmiss
    -- the guard let no row be swiped while the status was on
    have hbefore : (swipe.status != .on) = true := bne_iff_ne.2 (hi.swipedBefore swipe hswiped)
    have hother : (h.dataManager.heap.read call.config).id ≠ (h.dataManager.heap.read config).id := by
      rw [hits, hswiped, Option.any_some, hbefore, Bool.true_and, hrow, Option.any_some] at hmiss
      exact beq_eq_false_iff_ne.1 hmiss
    refine (hp call hm hhit).of_keeps fun hmem => ⟨DataManager.mem_deleteConfig.2 ⟨hmem, hother⟩, ?_⟩
    show ((h.dataManager.deleteConfig coder config).heap.read call.config).contents = _
    rw [hheap]

/-- The config screen for a new config adds it. -/
theorem done_new_leaves {h h' : Home Data} {model : Config} {status : Status} (hi : h.Inv) (hp : h.Protected)
    (heditor : h.editor = some { config := none, status }) (hs : h.done coder model = some h') :
    h.Leaves (.done model) h' := by
  simp only [done, heditor, Option.some.injEq] at hs
  subst hs
  obtain ⟨hl, -, hk⟩ := DataManager.addConfig_keeps coder hi.listed (model.select false)
  refine ⟨⟨hl, fun _ hr => (nomatch hr), hi.swipedBefore, fun _ hr => (nomatch hr)⟩, ?_⟩
  intro call hm hhit _
  exact (hp call hm hhit).of_keeps (hk call.config)

/-- The config screen of a config alters it, and replaces the entry with its id. -/
theorem done_edit_leaves {h h' : Home Data} {model : Config} {config : Ref} {status : Status} (hi : h.Inv)
    (hp : h.Protected) (heditor : h.editor = some { config := some config, status })
    (hs : h.done coder model = some h') : h.Leaves (.done model) h' := by
  have hlive : config < h.dataManager.heap.next := hi.editor _ heditor config rfl
  simp only [done, heditor, Option.some.injEq] at hs
  subst hs
  obtain ⟨hl, hheap, hmem⟩ := DataManager.edit_keeps coder hi.listed hlive model
  refine ⟨⟨hl, fun _ hr => (nomatch hr), hi.swipedBefore, fun _ hr => (nomatch hr)⟩, ?_⟩
  intro call hm hhit hmiss
  obtain ⟨hpm, hpc⟩ := hp call hm hhit
  -- the guard opened no config screen while the status was on
  have hbefore : (status != .on) = true := bne_iff_ne.2 (hi.openedBefore _ heditor config rfl)
  have hcov : (h.dataManager.heap.read call.config).id ≠ (h.dataManager.heap.read config).id ∨
      (call.config = config ∧ model.contents = call.contents) := by
    simp only [hits, heditor, Option.any_some, hbefore, Bool.true_and, Bool.and_eq_false_iff, Bool.not_eq_false',
      Bool.and_eq_true, beq_eq_false_iff_ne, beq_iff_eq] at hmiss
    exact hmiss
  refine ⟨hmem call.config hpm (hcov.imp_right And.left), ?_⟩
  show ((DataManager.updateConfig coder _ config).heap.read call.config).contents = call.contents
  rw [hheap, DataManager.updateObject, Heap.read_modify]
  rcases hcov with hne | ⟨rfl, hsame⟩
  · have hother : call.config ≠ config := fun he => hne (by rw [he])
    rw [if_neg hother, hpc]
  · rw [if_pos rfl, Config.contents_update, hsame]

theorem didSelectRow_leaves {h h' : Home Data} {row : Nat} (hi : h.Inv) (hp : h.Protected)
    (hs : h.didSelectRow coder row = some h') : h.Leaves (.tapRow row) h' := by
  unfold didSelectRow at hs
  split at hs
  · cases hs
    refine .of_protected ⟨hi.listed, ?_, hi.swipedBefore, ?_⟩ hp
    · rintro screen hscreen r hr
      cases hscreen
      cases hr
    · rintro screen hscreen r hr
      cases hscreen
      cases hr
  · obtain ⟨config, -, rfl⟩ := Option.map_eq_some_iff.1 hs
    obtain ⟨hl, hn, hk⟩ := DataManager.selecteConfig_keeps coder hi.listed config
    refine ⟨⟨hl, ?_, hi.swipedBefore, hi.openedBefore⟩, ?_⟩
    · intro screen hscreen r hr
      exact lt_of_lt_of_eq (hi.editor screen hscreen r hr) hn.symm
    · intro call hm hhit _
      exact (hp call hm hhit).of_keeps (hk call.config)

/-- The guard: a config screen is opened while the status is not on. -/
theorem accessoryButtonTapped_leaves {h h' : Home Data} {row : Nat} (hi : h.Inv) (hp : h.Protected)
    (hs : h.accessoryButtonTapped row = some h') : h.Leaves (.tapAccessory row) h' := by
  unfold accessoryButtonTapped at hs
  split at hs
  · cases hs
    exact .of_protected hi hp
  · rename_i hoff
    obtain ⟨config, hrow, rfl⟩ := Option.map_eq_some_iff.1 hs
    refine .of_protected ⟨hi.listed, ?_, hi.swipedBefore, ?_⟩ hp
    · rintro screen hscreen r hr
      cases hscreen
      cases hr
      exact hi.listed.live _ (List.mem_of_getElem? hrow)
    · rintro screen hscreen r hr
      cases hscreen
      exact hoff

/-- A connect call passes a listed config, as it is. -/
theorem didTapButton_leaves {h : Home Data} (hi : h.Inv) (hp : h.Protected) :
    h.Leaves .tapConnect h.didTapButton := by
  unfold didTapButton
  split
  · split
    · rename_i config hsel
      refine .of_protected ⟨hi.listed, hi.editor, hi.swipedBefore, hi.openedBefore⟩ ?_
      intro call hm hhit
      simp only [calls, List.append_assoc, List.mem_append, List.mem_singleton] at hm
      rcases hm with hm | rfl | hm
      · exact hp call (List.mem_append_left _ hm) hhit
      · exact ⟨hi.listed.selected config hsel, rfl⟩
      · exact hp call (List.mem_append_right _ hm) hhit
    · exact .of_protected hi hp
  · exact .of_protected hi hp

theorem startTunnel_leaves {h h' : Home Data} {i : Nat} (hi : h.Inv) (hp : h.Protected)
    (hs : h.startTunnel i = some h') : h.Leaves (.startTunnel i) h' := by
  obtain ⟨-, hs⟩ := Option.ite_none_right_eq_some.1 hs
  obtain ⟨call, hcall, rfl⟩ := Option.map_eq_some_iff.1 hs
  refine .of_protected ⟨hi.listed, hi.editor, hi.swipedBefore, hi.openedBefore⟩ (hp.of_subset rfl ?_)
  intro c hc
  apply List.mem_append_left
  rcases List.mem_append.1 hc with hc | hc
  · exact List.mem_of_mem_eraseIdx hc
  · rw [List.mem_singleton.1 (show c ∈ [call] from hc)]
    exact List.mem_of_getElem? hcall

/-- A call that ends without a tunnel is no longer protected, nor is a tunnel that ends. -/
theorem forget_leaves {h : Home Data} {a : Action} (hi : h.Inv) (hp : h.Protected) {status : Status}
    {pending : List Call} {session : Option Call} (hpending : pending ⊆ h.pending)
    (hsession : session.toList ⊆ h.session.toList) : h.Leaves a { h with status, pending, session } := by
  refine .of_protected ⟨hi.listed, hi.editor, hi.swipedBefore, hi.openedBefore⟩ (hp.of_subset rfl ?_)
  intro c hc
  rcases List.mem_append.1 hc with hc | hc
  · exact List.mem_append_left _ (hpending hc)
  · exact List.mem_append_right _ (hsession hc)

theorem changeStatus_leaves {h : Home Data} (hi : h.Inv) (hp : h.Protected) (status : Status) :
    h.Leaves (.statusChange status) (h.changeStatus status) := by
  apply forget_leaves hi hp (List.Subset.refl _)
  split
  · exact List.nil_subset _
  · exact List.Subset.refl _

theorem act_leaves {h h' : Home Data} {a : Action} (hi : h.Inv) (hp : h.Protected)
    (hs : h.act coder a = some h') : h.Leaves a h' := by
  cases a with
  | swipe row =>
    obtain ⟨hedit, hs⟩ := Option.ite_none_right_eq_some.1 hs
    cases hs
    refine .of_protected ⟨hi.listed, hi.editor, ?_, hi.openedBefore⟩ hp
    -- the guard: a row is swiped while the status is not on
    rintro swipe hswipe
    cases hswipe
    rw [canEditRow, Bool.and_eq_true] at hedit
    exact bne_iff_ne.1 hedit.2
  | confirmDelete =>
    obtain ⟨swipe, hswiped, hs⟩ := Option.bind_eq_some_iff.1 hs
    exact deleteConfig_leaves hi hp hswiped hs
  | tapRow row => exact didSelectRow_leaves hi hp hs
  | tapAccessory row => exact accessoryButtonTapped_leaves hi hp hs
  | done model =>
    rcases heditor : h.editor with _ | ⟨_ | config, status⟩
    · simp only [act, done, heditor] at hs
      cases hs
    · exact done_new_leaves hi hp heditor hs
    · exact done_edit_leaves hi hp heditor hs
  | cancel =>
    obtain ⟨-, hs⟩ := Option.ite_none_right_eq_some.1 hs
    cases hs
    exact .of_protected ⟨hi.listed, fun _ hr => (nomatch hr), hi.swipedBefore, fun _ hr => (nomatch hr)⟩ hp
  | tapConnect => cases hs; exact didTapButton_leaves hi hp
  | startTunnel i => exact startTunnel_leaves hi hp hs
  | callEnds i =>
    cases hs
    exact forget_leaves hi hp (fun c hc => List.mem_of_mem_eraseIdx hc) (List.Subset.refl _)
  | tunnelEnds =>
    obtain ⟨-, hs⟩ := Option.ite_none_right_eq_some.1 hs
    cases hs
    exact forget_leaves hi hp (List.Subset.refl _) (List.nil_subset _)
  | statusChange status => cases hs; exact changeStatus_leaves hi hp status

/-- Every step keeps the configs of the calls that no such gesture was completed on. -/
theorem step_protected {h h' : Home Data} {a : Action} (hi : h.Inv) (hp : h.Protected)
    (hs : h.step coder a = some h') : h'.Inv ∧ h'.Protected := by
  obtain ⟨h₁, hact, rfl⟩ := Option.map_eq_some_iff.1 hs
  obtain ⟨hi₁, hintact⟩ := act_leaves hi hp hact
  refine ⟨⟨hi₁.listed, hi₁.editor, hi₁.swipedBefore, hi₁.openedBefore⟩, ?_⟩
  intro call hm hhit
  have hcalls : calls { h₁ with pending := h₁.pending.map (h.mark a), session := h₁.session.map (h.mark a) } =
      h₁.calls.map (h.mark a) := by
    rw [calls, calls, List.map_append]
    cases h₁.session <;> rfl
  rw [hcalls, List.mem_map] at hm
  obtain ⟨c, hc, rfl⟩ := hm
  obtain ⟨hold, hmiss⟩ := Bool.or_eq_false_iff.1 hhit
  exact hintact c hc hold hmiss

/-! ## While the status is on -/

/-- The call whose tunnel is on once the action is done. -/
def onAfter (h : Home Data) : Action → Option Call
  | .statusChange status => if status = .on then h.session else none
  | .startTunnel i => if h.status = .on then h.pending[i]? else none
  | _ => if h.status = .on then h.session else none

/-- No gesture begun while the status was not on has been completed, nor is now, on the config of the call
whose tunnel is on then. -/
def Clear (h : Home Data) (a : Action) : Prop := ∀ call ∈ h.onAfter a, (h.mark a call).hit = false

instance Clear.decidable (h : Home Data) (a : Action) : Decidable (h.Clear a) :=
  inferInstanceAs (Decidable (∀ call ∈ h.onAfter a, _))

/-- Only the status changes and the tunnel's start and end concern whose tunnel is on. -/
theorem act_onAfter {h h' : Home Data} {a : Action} (hs : h.act coder a = some h') (hon : h'.status = .on) :
    h'.session = h.onAfter a := by
  -- an action that leaves the status and the session alone
  have hsame : ∀ {o : Option Call}, h'.status = h.status → h'.session = h.session →
      o = (if h.status = .on then h.session else none) → h'.session = o := by
    rintro o hstatus hsession rfl
    rw [if_pos (hstatus.symm.trans hon), hsession]
  cases a with
  | swipe row =>
    obtain ⟨-, hs⟩ := Option.ite_none_right_eq_some.1 hs
    cases hs
    exact hsame rfl rfl rfl
  | confirmDelete =>
    obtain ⟨swipe, -, hs⟩ := Option.bind_eq_some_iff.1 hs
    obtain ⟨config, -, rfl⟩ := Option.map_eq_some_iff.1 hs
    exact hsame rfl rfl rfl
  | tapRow row =>
    simp only [act, didSelectRow] at hs
    split at hs
    · cases hs
      exact hsame rfl rfl rfl
    · obtain ⟨config, -, rfl⟩ := Option.map_eq_some_iff.1 hs
      exact hsame rfl rfl rfl
  | tapAccessory row =>
    simp only [act, accessoryButtonTapped] at hs
    split at hs
    · cases hs
      exact hsame rfl rfl rfl
    · obtain ⟨config, -, rfl⟩ := Option.map_eq_some_iff.1 hs
      exact hsame rfl rfl rfl
  | done model =>
    simp only [act, done] at hs
    split at hs
    · cases hs
    · cases hs
      exact hsame rfl rfl rfl
    · cases hs
      exact hsame rfl rfl rfl
  | cancel =>
    obtain ⟨-, hs⟩ := Option.ite_none_right_eq_some.1 hs
    cases hs
    exact hsame rfl rfl rfl
  | tapConnect =>
    cases hs
    unfold didTapButton at hon ⊢
    split
    · rename_i hoff
      rw [if_pos hoff] at hon
      split
      · rename_i config hsel
        rw [hsel] at hon
        exact absurd (hoff.symm.trans hon) (by decide)
      · rename_i hsel
        rw [hsel] at hon
        exact absurd (hoff.symm.trans hon) (by decide)
    · rename_i hoff
      rw [if_neg hoff] at hon
      exact (if_pos hon).symm
  | startTunnel i =>
    obtain ⟨-, hs⟩ := Option.ite_none_right_eq_some.1 hs
    obtain ⟨call, hcall, rfl⟩ := Option.map_eq_some_iff.1 hs
    exact ((if_pos hon).trans hcall).symm
  | callEnds i => cases hs; exact hsame rfl rfl rfl
  | tunnelEnds =>
    obtain ⟨hoff, hs⟩ := Option.ite_none_right_eq_some.1 hs
    cases hs
    exact absurd (hoff.symm.trans hon) (by decide)
  | statusChange status =>
    cases hs
    have hstatus : status = .on := hon
    subst hstatus
    rfl

/-- A call whose tunnel is on has been spared. -/
def Spared (h : Home Data) : Prop := h.status = .on → ∀ call ∈ h.session, call.hit = false

theorem step_spared {h h' : Home Data} {a : Action} (hc : h.Clear a) (hs : h.step coder a = some h') :
    h'.Spared := by
  obtain ⟨h₁, hact, rfl⟩ := Option.map_eq_some_iff.1 hs
  intro hon call hcall
  obtain ⟨c, hc₁, rfl⟩ := Option.map_eq_some_iff.1 hcall
  exact hc c (act_onAfter hact hon ▸ hc₁)

/-- A deletion that hits the config of a call loses it. -/
theorem deleteConfig_unprotected {h h' : Home Data} {call : Call} (hs : h.step coder .confirmDelete = some h')
    (hhit : h.hits call .confirmDelete = true) : call.config ∉ h'.dataManager.configs := by
  obtain ⟨h₁, hact, rfl⟩ := Option.map_eq_some_iff.1 hs
  obtain ⟨swipe, hswiped, hact⟩ := Option.bind_eq_some_iff.1 hact
  obtain ⟨config, hrow, rfl⟩ := Option.map_eq_some_iff.1 hact
  rw [hits, hswiped, Option.any_some, Bool.and_eq_true, hrow, Option.any_some, beq_iff_eq] at hhit
  intro hmem
  exact (DataManager.mem_deleteConfig.1 hmem).2 hhit.2

/-- A form that hits it, on the screen of the config itself, leaves it with other contents. -/
theorem done_unprotected {h h' : Home Data} {model : Config} {call : Call} {status : Status} (hi : h.Inv)
    (hs : h.step coder (.done model) = some h')
    (heditor : h.editor = some { config := some call.config, status }) (hhit : h.hits call (.done model) = true) :
    (h'.dataManager.heap.read call.config).contents ≠ call.contents := by
  obtain ⟨h₁, hact, rfl⟩ := Option.map_eq_some_iff.1 hs
  have hlive : call.config < h.dataManager.heap.next := hi.editor _ heditor call.config rfl
  simp only [act, done, heditor, Option.some.injEq] at hact
  subst hact
  obtain ⟨-, hheap, -⟩ := DataManager.edit_keeps coder hi.listed hlive model
  have hne : model.contents ≠ call.contents := by
    rw [hits, heditor, Option.any_some, Bool.and_eq_true] at hhit
    simpa using hhit.2
  show ((DataManager.updateConfig coder _ call.config).heap.read call.config).contents ≠ call.contents
  rw [hheap, DataManager.updateObject, Heap.read_modify, if_pos rfl, Config.contents_update]
  exact hne

/-! ## Runs -/

theorem launch_inv (heap : Heap Config) (defaults : Option Data) : (launch coder heap defaults).Inv :=
  ⟨DataManager.launch_listed heap defaults, fun _ hr => (nomatch hr), fun _ hr => (nomatch hr),
    fun _ hr => (nomatch hr)⟩

/-- While the status is on, the config passed to the connect call that started the tunnel is listed with the
contents of the call, in every run that completes on it no gesture begun while the status was not on: the
guards let no other begin. -/
theorem session_protected {heap : Heap Config} {defaults : Option Data} {as : List Action} {h : Home Data}
    {call : Call} (hclear : Lts.Meets (step coder) Clear (launch coder heap defaults) as)
    (hrun : Lts.run (step coder) (launch coder heap defaults) as = some h) (hon : h.status = .on)
    (hsession : h.session = some call) :
    call.config ∈ h.dataManager.configs ∧ (h.dataManager.heap.read call.config).contents = call.contents := by
  have hstart : (launch coder heap defaults).Inv ∧ (launch coder heap defaults).Protected :=
    ⟨launch_inv heap defaults, fun _ hm => nomatch hm⟩
  have hend : h.Inv ∧ h.Protected := Lts.run_invariant (I := fun h => h.Inv ∧ h.Protected)
    (fun h a h' hip hs => step_protected hip.1 hip.2 hs) hstart hrun
  have hspared : h.Spared := Lts.run_invariant_of_meets (I := Spared) (fun h a h' _ hc hs => step_spared hc hs)
    (fun hon => absurd (hon : Status.off = .on) (by decide)) hclear hrun
  have hmem : call ∈ h.calls := by
    rw [calls, hsession]
    exact List.mem_append_right _ (List.mem_singleton_self call)
  exact hend.2 call hmem (hspared hon call hsession)

/-- One stored config, which is selected. -/
def sampleStored : List Config := [(Config.sample "0").select true]

/-- A swipe without a deletion, a connect, and the tunnel comes up. -/
def sampleActions : List Action :=
  [.swipe 0, .tapConnect, .startTunnel 0, .statusChange .connecting, .statusChange .on]

theorem session_protected_sample : ∃ h call,
    Lts.run (step .list) (launch .list noObjects (some sampleStored)) sampleActions = some h ∧
      h.status = .on ∧ h.session = some call ∧
      call.config ∈ h.dataManager.configs ∧ (h.dataManager.heap.read call.config).contents = call.contents :=
  ⟨_, _, rfl, rfl, rfl, @session_protected _ .list noObjects (some sampleStored) sampleActions _ _ (by decide)
    rfl rfl rfl⟩

/-- The row was swiped before the tunnel came up: its deletion is still offered, and nothing asks for
the status again. -/
theorem session_deleted : ∃ h call,
    Lts.run (step .list) (launch .list noObjects (some sampleStored)) (sampleActions ++ [.confirmDelete]) = some h ∧
      h.status = .on ∧ h.session = some call ∧ call.config ∉ h.dataManager.configs :=
  ⟨_, _, rfl, rfl, rfl, by decide⟩

end Home

end VpnSs.Lead
