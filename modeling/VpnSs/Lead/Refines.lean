/-
The store refines the config list. The relation ties the objects, the two relays and the stored
entry to one list of values: the objects have the values of the list, a relay that exists holds
what it would be created with, and the entry decodes to the list. Every operation, restarts
included, keeps it, so the lists of a run are those of the pure machine, and what the relays
publish never lags behind.
-/
import VpnSs.Lead.ConfigList
import Mathlib.Data.List.Find

namespace VpnSs.Lead

open VpnSs.Swift

namespace DataManager

variable {Data : Type} (coder : JSONCoder Data)

/-- The store holds the list `l`. -/
structure Refines (m : DataManager Data) (l : List Config) : Prop where
  live : m.heap.Live m.configs
  values : m.heap.values m.configs = l
  rx : m.rxConfigsValue = m.configs
  selected : m.selectedConfigValue = m.firstSelected
  saved : loadConfig coder m.defaults = l

/-! ## Objects and values -/

theorem ids_eq {m : DataManager Data} {l : List Config} (h : m.heap.values m.configs = l) :
    m.ids = l.map Config.id := by rw [ids, h]

theorem firstSelected_value {m : DataManager Data} {l : List Config} (h : m.heap.values m.configs = l) :
    m.firstSelected.map m.heap.read = ConfigList.selected l := by
  rw [firstSelected, ConfigList.selected, ← h, Heap.values, List.find?_map]; rfl

/-- Objects of the list with the same id are the same object. -/
theorem eq_of_id_eq {m : DataManager Data} (h : m.ids.Nodup) {c d : Ref} (hc : c ∈ m.configs)
    (hd : d ∈ m.configs) (hid : (m.heap.read c).id = (m.heap.read d).id) : c = d := by
  rw [ids, Heap.values, List.map_map] at h
  exact List.inj_on_of_nodup_map h hc hd hid

theorem mem_ids {m : DataManager Data} {id : Text} : id ∈ m.ids ↔ ∃ c ∈ m.configs, (m.heap.read c).id = id := by
  simp [ids, Heap.values]

/-! ## Saving -/

variable {coder}

/-- A save publishes and stores the list the objects hold. -/
theorem refines_save {m : DataManager Data} {l : List Config} (hlive : m.heap.Live m.configs)
    (hv : m.heap.values m.configs = l) : (m.save coder).Refines coder l := by
  refine ⟨hlive, hv, rfl, rfl, ?_⟩
  obtain ⟨data, he, hd⟩ := coder.round_trip l
  show loadConfig coder (coder.encode (m.heap.values m.configs)) = l
  rw [hv, loadConfig, he, Option.bind_some, hd, Option.getD_some]

theorem refines_launch (heap : Heap Config) (defaults : Option Data) :
    (launch coder heap defaults).Refines coder (loadConfig coder defaults) :=
  ⟨Heap.allocAll_live heap _, Heap.allocAll_values heap _, rfl, rfl, rfl⟩

/-! ## The operations -/

section Operations

variable {m : DataManager Data} {l : List Config}

/-- `selecteConfig` of an id that is not listed, or of a selected config, changes nothing. -/
theorem selecteConfig_idle {config : Ref}
    (h : ∀ c ∈ m.configs, (m.heap.read c).id = (m.heap.read config).id → (m.heap.read c).isSelected = true) :
    m.selecteConfig coder config = m := by
  unfold selecteConfig
  cases hf : m.configs.find? fun c => (m.heap.read c).id == (m.heap.read config).id with
  | none => rfl
  | some selected =>
    have hs := h selected (List.mem_of_find?_eq_some hf) (by simpa using List.find?_some hf)
    exact if_pos hs

/-- `selecteConfig` of a config that is listed and not selected: the objects take the values of
the list in which it alone is selected. -/
theorem refines_selecteConfig (coder : JSONCoder Data) {config : Ref} (hlive : m.heap.Live m.configs)
    (hid : m.ids.Nodup) {c : Ref} (hc : c ∈ m.configs) (hcid : (m.heap.read c).id = (m.heap.read config).id)
    (hs : (m.heap.read c).isSelected = false) :
    (m.selecteConfig coder config).Refines coder
      (ConfigList.select (m.heap.values m.configs) (m.heap.read config).id) := by
  have hf : m.configs.find? (fun c => (m.heap.read c).id == (m.heap.read config).id) = some c := by
    cases hf : m.configs.find? fun c => (m.heap.read c).id == (m.heap.read config).id with
    | none => exact absurd hcid (by simpa using List.find?_eq_none.1 hf c hc)
    | some d =>
      have hd : (m.heap.read d).id = (m.heap.read config).id := by simpa using List.find?_some hf
      rw [eq_of_id_eq hid (List.mem_of_find?_eq_some hf) hc (hd.trans hcid.symm)]
  have hmem : (m.heap.read config).id ∈ (m.heap.values m.configs).map Config.id := mem_ids.2 ⟨c, hc, hcid⟩
  unfold selecteConfig
  rw [hf]
  simp only [hs, Bool.false_eq_true, if_false]
  apply refines_save (m := { m with heap := _ })
  · intro r hr
    simpa using hlive r hr
  · -- clearing all flags keeps the ids, so setting one flag is a map over the cleared values
    have hread : ∀ x ∈ m.configs, (m.heap.modifyAll m.configs (Config.select false)).read x =
        (m.heap.read x).select false := by
      intro x hx
      rw [Heap.read_modifyAll (fun v => Config.select_select ..), if_pos hx]
    have hkey : ∀ x ∈ m.configs, ((m.heap.modifyAll m.configs (Config.select false)).read x).id =
        ((m.heap.modifyAll m.configs (Config.select false)).read c).id → x = c := by
      intro x hx he
      rw [hread x hx, hread c hc] at he
      exact eq_of_id_eq hid hx hc he
    rw [Heap.values_modify_key Config.id _ c (Config.select true) hkey,
      Heap.values_modifyAll (fun v => Config.select_select ..), hread c hc, List.map_map, ConfigList.select,
      if_pos hmem]
    apply List.map_congr_left
    intro v _
    simp only [Function.comp, Config.select_id, hcid]
    by_cases hv : v.id = (m.heap.read config).id
    · rw [if_pos hv, hv, beq_self_eq_true, Config.select_select]
    · rw [if_neg hv, beq_false_of_ne hv]

theorem selecteConfig_refines (h : m.Refines coder l) (hl : ConfigList.Valid l) {config : Ref} {id : Text}
    (hn : m.Names config id) : (m.selecteConfig coder config).Refines coder (ConfigList.select l id) := by
  obtain ⟨-, rfl⟩ := hn
  have hid : m.ids.Nodup := by rw [ids_eq h.values]; exact hl.nodup
  by_cases hs : ∃ c ∈ m.configs, (m.heap.read c).id = (m.heap.read config).id ∧ (m.heap.read c).isSelected = false
  · obtain ⟨c, hc, hcid, hsel⟩ := hs
    rw [← h.values]
    exact refines_selecteConfig coder h.live hid hc hcid hsel
  · have hidle : ∀ c ∈ m.configs, (m.heap.read c).id = (m.heap.read config).id →
        (m.heap.read c).isSelected = true := by
      intro c hc hcid
      by_contra hne
      exact hs ⟨c, hc, hcid, by simpa using hne⟩
    rw [selecteConfig_idle hidle]
    suffices hsame : ConfigList.select l (m.heap.read config).id = l by rw [hsame]; exact h
    by_cases hmem : ∃ c ∈ m.configs, (m.heap.read c).id = (m.heap.read config).id
    · obtain ⟨c, hc, hcid⟩ := hmem
      have hlc : m.heap.read c ∈ l := by
        rw [← h.values]; exact List.mem_map_of_mem hc
      rw [← hcid]
      exact ConfigList.select_of_selected hl hlc (hidle c hc hcid)
    · apply ConfigList.select_of_not_mem
      rw [← ids_eq h.values, mem_ids]
      exact hmem

theorem addConfig_refines (h : m.Refines coder l) {config : Config} (hsel : config.isSelected = false) :
    ((m.newConfig config).addConfig coder m.heap.next).Refines coder (ConfigList.add l config) := by
  have hv : (m.heap.alloc config).values (m.configs ++ [m.heap.next]) = l ++ [config] := by
    rw [Heap.values_append_alloc h.live, h.values]
  have hlive : (m.heap.alloc config).Live (m.configs ++ [m.heap.next]) := h.live.append_alloc config
  have hlen : l.length = m.configs.length := by rw [← h.values, Heap.values, List.length_map]
  unfold addConfig
  simp only [newConfig, List.length_append, List.length_singleton, beq_iff_eq, Nat.add_eq_right]
  by_cases hnil : m.configs.length = 0
  · -- the first config is saved by being selected
    rw [if_pos hnil]
    have hl0 : l = [] := List.length_eq_zero_iff.1 (hlen.trans hnil)
    subst hl0
    have hids : (m.newConfig config).heap.values (m.configs ++ [m.heap.next]) = [config] := hv
    have hr := refines_selecteConfig coder (m := { m.newConfig config with configs := m.configs ++ [m.heap.next] })
      hlive (by rw [ids_eq hids]; exact List.nodup_singleton _)
      (List.mem_append_right _ (List.mem_singleton_self m.heap.next)) rfl
      (by rw [newConfig, Heap.read_alloc_self]; exact hsel)
    rw [hids, newConfig, Heap.read_alloc_self] at hr
    have hadd : ConfigList.select [config] config.id = ConfigList.add [] config := by
      simp [ConfigList.select, ConfigList.add]
    rw [← hadd]; exact hr
  · rw [if_neg hnil]
    have hne : l.isEmpty = false := by
      rw [List.isEmpty_eq_false_iff]; rintro rfl; exact hnil hlen.symm
    rw [ConfigList.add, hne, show config.select false = config by rw [Config.select, ← hsel]]
    exact refines_save hlive hv

theorem deleteConfig_refines (h : m.Refines coder l) {config : Ref} {id : Text} (hn : m.Names config id) :
    (m.deleteConfig coder config).Refines coder (ConfigList.delete l id) := by
  obtain ⟨-, rfl⟩ := hn
  have hv : m.heap.values (m.configs.filter fun c => (m.heap.read c).id != (m.heap.read config).id) =
      ConfigList.delete l (m.heap.read config).id := by
    rw [ConfigList.delete, ← h.values, Heap.values, Heap.values, List.filter_map]; rfl
  unfold deleteConfig
  by_cases hlen : (m.configs.filter fun c => (m.heap.read c).id != (m.heap.read config).id).length =
      m.configs.length
  · -- nothing was filtered out: the list is as it was
    have hsame := List.filter_sublist.eq_of_length hlen
    rw [hsame, h.values] at hv
    rw [if_neg (by simp [hlen]), ← hv]
    exact h
  · rw [if_pos (by simpa using hlen)]
    exact refines_save (fun r hr => h.live r (List.mem_of_mem_filter hr)) hv

/-- `deleteConfig` and `updateConfig` of an id that is not listed change nothing. -/
theorem deleteConfig_idle {config : Ref} (h : ∀ c ∈ m.configs, (m.heap.read c).id ≠ (m.heap.read config).id) :
    m.deleteConfig coder config = m := by
  have hall : (m.configs.filter fun c => (m.heap.read c).id != (m.heap.read config).id) = m.configs :=
    List.filter_eq_self.2 fun c hc => by simpa using h c hc
  unfold deleteConfig
  rw [hall]
  exact if_neg (by simp)

theorem updateConfig_idle {config : Ref} (h : ∀ c ∈ m.configs, (m.heap.read c).id ≠ (m.heap.read config).id) :
    m.updateConfig coder config = m := by
  unfold updateConfig
  rw [List.findIdx?_eq_none_iff.2 fun c hc => by simpa using h c hc]

/-- After `update(with:)` on an object of the list the values are those of the edited list. -/
theorem values_updateObject (h : m.Refines coder l) (hl : ConfigList.Valid l) {config : Ref} (model : Config)
    (hc : config ∈ m.configs) :
    (m.updateObject config model).heap.values m.configs =
      ConfigList.edit l (m.heap.read config).id model := by
  have hid : m.ids.Nodup := by rw [ids_eq h.values]; exact hl.nodup
  have hkey := Heap.values_modify_key Config.id m.heap config (fun c => c.update model) fun x hx he =>
    eq_of_id_eq hid hx hc he
  rw [h.values] at hkey
  exact hkey

theorem read_updateObject {config c : Ref} (model : Config) (h : config ∉ m.configs) (hc : c ∈ m.configs) :
    (m.updateObject config model).heap.read c = m.heap.read c := by
  rw [updateObject, Heap.read_modify, if_neg (ne_of_mem_of_not_mem hc h)]

theorem updateConfig_self (m : DataManager Data) (hid : m.ids.Nodup) {config : Ref} (hc : config ∈ m.configs) :
    m.updateConfig coder config = m.save coder := by
  unfold updateConfig
  cases hf : m.configs.findIdx? fun c => (m.heap.read c).id == (m.heap.read config).id with
  | none =>
    have hne := List.findIdx?_eq_none_iff.1 hf config hc
    rw [beq_self_eq_true] at hne
    cases hne
  | some index =>
    -- the entry that is replaced is the object itself
    obtain ⟨hlt, hat, -⟩ := List.findIdx?_eq_some_iff_getElem.1 hf
    have hself : m.configs[index] = config := eq_of_id_eq hid (List.getElem_mem hlt) hc (by simpa using hat)
    have hset : m.configs.set index config = m.configs := by
      conv_lhs => rw [← hself]
      exact List.set_getElem_self hlt
    simp only [hset]

theorem edit_refines (h : m.Refines coder l) (hl : ConfigList.Valid l) {config : Ref} {id : Text} (model : Config)
    (hn : m.Names config id) (hc : config ∈ m.configs ∨ id ∉ m.ids) :
    ((m.updateObject config model).updateConfig coder config).Refines coder (ConfigList.edit l id model) := by
  obtain ⟨-, rfl⟩ := hn
  by_cases hmem : config ∈ m.configs
  · have hv := values_updateObject h hl model hmem
    rw [updateConfig_self (m.updateObject config model) (by
      rw [ids_eq hv, ConfigList.map_id_edit]; exact hl.nodup) hmem]
    exact refines_save h.live hv
  · -- an object outside the list is edited without a trace in the list
    have hid := hc.resolve_left hmem
    have hread := fun c (hc : c ∈ m.configs) => read_updateObject model hmem hc
    have hv : (m.updateObject config model).heap.values m.configs = l := by
      rw [← h.values]; exact List.map_congr_left hread
    have hfirst : (m.updateObject config model).firstSelected = m.firstSelected :=
      List.find?_congr fun c hc => by rw [hread c hc]
    have hown : ((m.updateObject config model).heap.read config).id = (m.heap.read config).id := by
      rw [updateObject, Heap.read_modify, if_pos rfl, Config.update_id]
    rw [ConfigList.edit_of_not_mem (by rw [← ids_eq h.values]; exact hid), updateConfig_idle]
    · exact ⟨h.live, hv, h.rx, by rw [hfirst, ← h.selected, selectedConfigValue, hfirst]; rfl, h.saved⟩
    · intro c hc
      rw [hread c hc, hown]
      intro he
      exact hid (mem_ids.2 ⟨c, hc, he⟩)

end Operations

/-! ## Runs -/

/-- Every operation of the store is one of the list, with the same arguments. -/
theorem step_refines {m m' : DataManager Data} {l : List Config} {op : Op} (h : m.Refines coder l)
    (hl : ConfigList.Valid l) (hs : step coder m op = some m') :
    m'.Refines coder (ConfigList.step l op) := by
  unfold step at hs
  cases op with
  | add config =>
    obtain ⟨hsel, hs⟩ := Option.ite_none_right_eq_some.1 hs
    cases hs
    exact addConfig_refines h hsel
  | delete config id =>
    obtain ⟨hn, hs⟩ := Option.ite_none_right_eq_some.1 hs
    cases hs
    exact deleteConfig_refines h hn
  | select config id =>
    obtain ⟨hn, hs⟩ := Option.ite_none_right_eq_some.1 hs
    cases hs
    exact selecteConfig_refines h hl hn
  | edit config id model =>
    obtain ⟨⟨hn, hc⟩, hs⟩ := Option.ite_none_right_eq_some.1 hs
    cases hs
    exact edit_refines h hl model hn hc
  | touchRxConfigs => cases hs; exact ⟨h.live, h.values, h.rx, h.selected, h.saved⟩
  | touchSelectedConfig => cases hs; exact ⟨h.live, h.values, h.rx, h.selected, h.saved⟩
  | restart =>
    cases hs
    rw [ConfigList.step, ← h.saved]
    exact refines_launch m.heap m.defaults

/-- Added configs have ids the list does not have. -/
def Fresh (m : DataManager Data) (op : Op) : Prop := ConfigList.Fresh (m.heap.values m.configs) op

instance (m : DataManager Data) (op : Op) : Decidable (m.Fresh op) :=
  inferInstanceAs (Decidable (ConfigList.Fresh _ _))

/-- A run of the store is a run of the list, which stays valid. -/
theorem run_refines {m m' : DataManager Data} {l : List Config} {ops : List Op} (h : m.Refines coder l)
    (hl : ConfigList.Valid l) (hf : Lts.Meets (step coder) Fresh m ops)
    (hrun : Lts.run (step coder) m ops = some m') :
    m'.Refines coder (ops.foldl ConfigList.step l) ∧ ConfigList.Valid (ops.foldl ConfigList.step l) := by
  have hstep : ∀ (m : DataManager Data) (l : List Config) (op : Op) (m' : DataManager Data),
      (m.Refines coder l ∧ ConfigList.Valid l) → m.Fresh op → step coder m op = some m' →
        m'.Refines coder (ConfigList.step l op) ∧ ConfigList.Valid (ConfigList.step l op) := by
    rintro m l op m' ⟨hr, hl⟩ hf hs
    rw [Fresh, hr.values] at hf
    exact ⟨step_refines hr hl hs, ConfigList.step_valid hl hf⟩
  exact Lts.run_simulates hstep ⟨h, hl⟩ hf hrun

/-- The ids of a run's new configs. -/
def Op.addedId : Op → Option Text
  | .add config => some config.id
  | _ => none

/-- A step takes the id of the config it adds from the ids still to come. -/
theorem ids_step_sublist (l : List Config) (op : Op) (ops : List Op) :
    ((ConfigList.step l op).map Config.id ++ ops.filterMap Op.addedId).Sublist
      (l.map Config.id ++ (op :: ops).filterMap Op.addedId) := by
  cases op with
  | add config => simp [ConfigList.step, ConfigList.add, Op.addedId]
  | delete _ id => exact (List.filter_sublist.map _).append_right _
  | select _ id => rw [ConfigList.step, ConfigList.map_id_select]; exact List.Sublist.refl _
  | edit _ id model => rw [ConfigList.step, ConfigList.map_id_edit]; exact List.Sublist.refl _
  | touchRxConfigs => exact List.Sublist.refl _
  | touchSelectedConfig => exact List.Sublist.refl _
  | restart => exact List.Sublist.refl _

/-- Distinct ids are fresh where they are added. -/
theorem meets_fresh {m : DataManager Data} {l : List Config} {ops : List Op} (h : m.Refines coder l)
    (hl : ConfigList.Valid l) (hids : (l.map Config.id ++ ops.filterMap Op.addedId).Nodup) :
    Lts.Meets (step coder) Fresh m ops := by
  induction ops generalizing m l with
  | nil => trivial
  | cons op ops ih =>
    -- the new id is not listed, and the ids still to come stay distinct from the list
    have hfresh : ConfigList.Fresh l op := by
      cases op with
      | add config =>
        intro hm
        exact (List.nodup_append.1 hids).2.2 _ hm _ (List.mem_cons_self ..) rfl
      | _ => trivial
    rw [Lts.meets_cons]
    constructor
    · rw [Fresh, h.values]; exact hfresh
    · intro m' hs
      exact ih (step_refines h hl hs) (ConfigList.step_valid hl hfresh) (hids.sublist (ids_step_sublist l op ops))

/-- The store refines the config list across restarts: after any run from an empty entry the values
of `configs`, in order, and the config the relay publishes are those of the list machine. -/
theorem run_refines_list {heap : Heap Config} {ops : List Op} {m : DataManager Data}
    (hids : (ops.filterMap Op.addedId).Nodup)
    (hrun : Lts.run (step coder) (launch coder heap none) ops = some m) :
    m.heap.values m.configs = ops.foldl ConfigList.step [] ∧
      m.selectedConfigValue.map m.heap.read = ConfigList.selected (ops.foldl ConfigList.step []) := by
  have hstart : (launch coder heap none).Refines coder [] := refines_launch heap none
  have hf : Lts.Meets (step coder) Fresh (launch coder heap none) ops :=
    meets_fresh hstart ConfigList.valid_nil hids
  obtain ⟨hr, -⟩ := run_refines hstart ConfigList.valid_nil hf hrun
  refine ⟨hr.values, ?_⟩
  rw [hr.selected, firstSelected_value hr.values]

/-- Two configs; the second is selected, and after a restart its new object is edited and the first
one deleted. -/
def sampleOps : List Op :=
  [.add (Config.sample "1"), .add (Config.sample "2"), .select 1 (text "2"), .restart,
    .edit 3 (text "2") (Config.sample "9"), .delete 0 (text "1")]

theorem run_refines_list_sample : ∃ m,
    Lts.run (step .list) (launch .list noObjects none) sampleOps = some m ∧
      m.heap.values m.configs = sampleOps.foldl ConfigList.step [] ∧
      m.selectedConfigValue.map m.heap.read = ConfigList.selected (sampleOps.foldl ConfigList.step []) :=
  ⟨_, rfl, @run_refines_list _ .list noObjects sampleOps _ (by decide) rfl⟩

/-! ## The store's invariant -/

/-- Distinct ids, at most one selected config, the relay of the list with the same objects, and the
relay of the selection with the selected object. -/
structure Consistent (m : DataManager Data) : Prop where
  nodup : m.ids.Nodup
  selected : m.configs.countP (fun c => (m.heap.read c).isSelected) ≤ 1
  rxConfigs : m.rxConfigsValue = m.configs
  selectedConfig : ∀ c, m.selectedConfigValue = some c ↔ c ∈ m.configs ∧ (m.heap.read c).isSelected = true

/-- The operations that have nothing to do: the id is not listed, or the config is selected already. -/
def Idle (m : DataManager Data) : Op → Prop
  | .delete _ id => id ∉ m.ids
  | .edit _ id _ => id ∉ m.ids
  | .select _ id => id ∉ m.ids ∨ ∃ c ∈ m.configs, (m.heap.read c).id = id ∧ (m.heap.read c).isSelected = true
  | _ => False

/-- The same list of objects with the same values, the same relays and the same entry. -/
structure Unchanged (m m' : DataManager Data) : Prop where
  configs : m'.configs = m.configs
  values : m'.heap.values m.configs = m.heap.values m.configs
  rxConfigs : m'.rxConfigs = m.rxConfigs
  selectedConfig : m'.selectedConfig = m.selectedConfig
  defaults : m'.defaults = m.defaults

theorem Unchanged.refl (m : DataManager Data) : m.Unchanged m := ⟨rfl, rfl, rfl, rfl, rfl⟩

theorem consistent_of_refines {m : DataManager Data} {l : List Config} (h : m.Refines coder l)
    (hl : ConfigList.Valid l) : m.Consistent := by
  have hcount : m.configs.countP (fun c => (m.heap.read c).isSelected) = l.countP Config.isSelected := by
    rw [← h.values, Heap.values, List.countP_map]; rfl
  refine ⟨by rw [ids_eq h.values]; exact hl.nodup, by rw [hcount]; exact hl.selected, h.rx, ?_⟩
  intro c
  rw [h.selected, firstSelected]
  constructor
  · intro hf
    have hs := List.find?_some hf
    exact ⟨List.mem_of_find?_eq_some hf, hs⟩
  · rintro ⟨hc, hs⟩
    cases hf : m.configs.find? fun c => (m.heap.read c).isSelected with
    | none => exact absurd hs (List.find?_eq_none.1 hf c hc)
    | some d =>
      have hd := List.find?_some hf
      rw [ConfigList.eq_of_countP_le_one (hcount ▸ hl.selected) (List.mem_of_find?_eq_some hf) hc hd hs]

/-- An idle operation leaves list, relays and entry alone. -/
theorem step_idle {m m' : DataManager Data} {op : Op} (hm : m.Consistent) (hidle : m.Idle op)
    (hs : step coder m op = some m') : m.Unchanged m' := by
  unfold step at hs
  cases op with
  | add config => exact hidle.elim
  | delete config id =>
    obtain ⟨hn, hs⟩ := Option.ite_none_right_eq_some.1 hs
    cases hs
    obtain ⟨-, rfl⟩ := hn
    rw [deleteConfig_idle fun c hc he => hidle (mem_ids.2 ⟨c, hc, he⟩)]
    exact .refl m
  | select config id =>
    obtain ⟨hn, hs⟩ := Option.ite_none_right_eq_some.1 hs
    cases hs
    obtain ⟨-, rfl⟩ := hn
    rw [selecteConfig_idle]
    · exact .refl m
    · intro c hc hcid
      rcases hidle with hno | ⟨d, hd, hdid, hds⟩
      · exact absurd (mem_ids.2 ⟨c, hc, hcid⟩) hno
      · rw [eq_of_id_eq hm.nodup hc hd (hcid.trans hdid.symm)]; exact hds
  | edit config id model =>
    obtain ⟨hn, hs⟩ := Option.ite_none_right_eq_some.1 hs
    cases hs
    obtain ⟨⟨-, rfl⟩, -⟩ := hn
    have hmem : config ∉ m.configs := fun hc => hidle (mem_ids.2 ⟨config, hc, rfl⟩)
    have hread := fun c (hc : c ∈ m.configs) => read_updateObject model hmem hc
    rw [updateConfig_idle]
    · exact ⟨rfl, List.map_congr_left hread, rfl, rfl, rfl⟩
    · intro c hc
      rw [hread c hc, updateObject, Heap.read_modify, if_pos rfl, Config.update_id]
      intro he
      exact hidle (mem_ids.2 ⟨c, hc, he⟩)
  | touchRxConfigs => exact hidle.elim
  | touchSelectedConfig => exact hidle.elim
  | restart => exact hidle.elim

/-- The store's invariant: from every stored list with distinct ids and at most one selected config,
whatever the operations and the moments the relays are first touched, the store is consistent, and
the operations that have nothing to do leave it unchanged. -/
theorem run_consistent {heap : Heap Config} {defaults : Option Data} {ops : List Op} {m : DataManager Data}
    (hstored : ConfigList.Valid (loadConfig coder defaults))
    (hf : Lts.Meets (step coder) Fresh (launch coder heap defaults) ops)
    (hrun : Lts.run (step coder) (launch coder heap defaults) ops = some m) :
    m.Consistent ∧ ∀ op m', m.Idle op → step coder m op = some m' → m.Unchanged m' := by
  obtain ⟨hr, hl⟩ := run_refines (refines_launch heap defaults) hstored hf hrun
  have hm := consistent_of_refines hr hl
  exact ⟨hm, fun op m' hidle hs => step_idle hm hidle hs⟩

/-- The stored config is replaced by a new one; the relay of the list is touched on the way. -/
def sampleStoredOps : List Op :=
  [.add (Config.sample "1"), .touchRxConfigs, .select 1 (text "1"), .edit 1 (text "1") (Config.sample "9"),
    .delete 0 (text "0")]

theorem run_consistent_sample : ∃ m,
    Lts.run (step .list) (launch .list noObjects (some [Config.sample "0"])) sampleStoredOps = some m ∧
      m.Consistent ∧ ∀ op m', m.Idle op → step .list m op = some m' → m.Unchanged m' :=
  ⟨_, rfl, @run_consistent _ .list noObjects (some [Config.sample "0"]) sampleStoredOps _
    ⟨by decide, by decide⟩ (by decide) rfl⟩

end DataManager

end VpnSs.Lead
