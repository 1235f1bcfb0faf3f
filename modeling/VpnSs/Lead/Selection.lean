/-
Whether there is a config to connect with. The first config added is selected, and every operation
but one keeps a selection: `deleteConfig` of the selected config selects none of the others. A run
has a selection at all times exactly when it deletes the selected config only as the last one.
-/
import VpnSs.Lead.Refines

namespace VpnSs.Lead

open VpnSs.Swift

namespace ConfigList

/-- A list that is not empty has a selected config. -/
def HasSelection (l : List Config) : Prop := l ≠ [] → ∃ c ∈ l, c.isSelected = true

/-- The operations that keep a selection: all but the deletion of the selected config from among
others. -/
def KeepsSelection (l : List Config) : DataManager.Op → Prop
  | .delete _ id => ∀ c ∈ l, c.id = id → c.isSelected = true → l = [c]
  | _ => True

instance KeepsSelection.decidable (l : List Config) : ∀ op, Decidable (KeepsSelection l op)
  | .delete _ _ => inferInstanceAs (Decidable (∀ c ∈ l, _))
  | .add _ => .isTrue trivial
  | .select _ _ => .isTrue trivial
  | .edit _ _ _ => .isTrue trivial
  | .touchRxConfigs => .isTrue trivial
  | .touchSelectedConfig => .isTrue trivial
  | .restart => .isTrue trivial

/-! ## One operation on the list -/

theorem add_hasSelection {l : List Config} (hs : HasSelection l) (config : Config) : HasSelection (add l config) := by
  intro _
  cases l with
  | nil => exact ⟨config.select true, List.mem_singleton_self _, rfl⟩
  | cons c l =>
    obtain ⟨d, hd, hsel⟩ := hs (List.cons_ne_nil c l)
    exact ⟨d, List.mem_append_left _ hd, hsel⟩

theorem select_hasSelection {l : List Config} (hs : HasSelection l) (id : Text) : HasSelection (select l id) := by
  unfold select
  split
  · rename_i hid
    intro _
    obtain ⟨c, hc, rfl⟩ := List.mem_map.1 hid
    exact ⟨c.select (c.id == c.id), List.mem_map_of_mem hc, by rw [beq_self_eq_true, Config.select_isSelected]⟩
  · exact hs

theorem edit_hasSelection {l : List Config} (hs : HasSelection l) (id : Text) (model : Config) :
    HasSelection (edit l id model) := by
  intro hne
  obtain ⟨c, hc, hsel⟩ := hs fun hnil => hne (by rw [hnil, edit, List.map_nil])
  refine ⟨_, List.mem_map_of_mem hc, ?_⟩
  split
  · rw [Config.update_isSelected, hsel]
  · exact hsel

theorem delete_hasSelection_iff {l : List Config} (hl : Valid l) (hs : HasSelection l) (config : Ref) (id : Text) :
    HasSelection (delete l id) ↔ KeepsSelection l (.delete config id) := by
  constructor
  · rintro h c hc rfl hsel
    -- no other config is selected, so none may be left
    have hnil : delete l c.id = [] := by
      by_contra hne
      obtain ⟨d, hd, hdsel⟩ := h hne
      obtain ⟨hdl, hdid⟩ := List.mem_filter.1 hd
      rw [eq_of_countP_le_one hl.selected hdl hc hdsel hsel, bne_self_eq_false] at hdid
      cases hdid
    have hall : ∀ d ∈ l, d = c := by
      intro d hd
      have hdid := List.filter_eq_nil_iff.1 hnil d hd
      rw [bne_iff_ne, not_not] at hdid
      exact List.inj_on_of_nodup_map hl.nodup hd hc hdid
    have hrep : l = List.replicate l.length c := List.eq_replicate_iff.2 ⟨rfl, hall⟩
    have hlen : l.length ≤ 1 := by
      have hnodup := List.Nodup.of_map _ hl.nodup
      rw [hrep] at hnodup
      exact List.nodup_replicate.1 hnodup
    rw [hrep, Nat.le_antisymm hlen (List.length_pos_of_mem hc)]
    rfl
  · intro h hne
    have hnil : l ≠ [] := by
      rintro rfl
      exact hne rfl
    obtain ⟨c, hc, hsel⟩ := hs hnil
    by_cases hid : c.id = id
    · rw [h c hc hid hsel, delete, List.filter_singleton, hid, bne_self_eq_false] at hne
      exact absurd rfl hne
    · exact ⟨c, List.mem_filter.2 ⟨hc, by rwa [bne_iff_ne]⟩, hsel⟩

theorem step_hasSelection_iff {l : List Config} (hl : Valid l) (hs : HasSelection l) (op : DataManager.Op) :
    HasSelection (step l op) ↔ KeepsSelection l op := by
  cases op with
  | add config => exact iff_of_true (add_hasSelection hs config) trivial
  | delete config id => exact delete_hasSelection_iff hl hs config id
  | select _ id => exact iff_of_true (select_hasSelection hs id) trivial
  | edit _ id model => exact iff_of_true (edit_hasSelection hs id model) trivial
  | touchRxConfigs => exact iff_of_true hs trivial
  | touchSelectedConfig => exact iff_of_true hs trivial
  | restart => exact iff_of_true hs trivial

end ConfigList

namespace DataManager

variable {Data : Type} {coder : JSONCoder Data}

/-- Where there are configs, one is selected and the relay publishes it. -/
def HasSelection (m : DataManager Data) : Prop :=
  m.configs ≠ [] → ∃ c ∈ m.configs, (m.heap.read c).isSelected = true ∧ m.selectedConfigValue = some c

def KeepsSelection (m : DataManager Data) (op : Op) : Prop :=
  ConfigList.KeepsSelection (m.heap.values m.configs) op

instance (m : DataManager Data) (op : Op) : Decidable (m.KeepsSelection op) :=
  inferInstanceAs (Decidable (ConfigList.KeepsSelection _ _))

/-! ## Runs of the store -/

theorem hasSelection_iff {m : DataManager Data} {l : List Config} (h : m.Refines coder l) (hl : ConfigList.Valid l) :
    m.HasSelection ↔ ConfigList.HasSelection l := by
  have hm := consistent_of_refines h hl
  have hnil : l = [] ↔ m.configs = [] := by rw [← h.values, Heap.values, List.map_eq_nil_iff]
  unfold HasSelection ConfigList.HasSelection
  rw [ne_eq, ne_eq, hnil]
  apply imp_congr_right
  intro _
  constructor
  · rintro ⟨c, hc, hsel, -⟩
    refine ⟨m.heap.read c, ?_, hsel⟩
    rw [← h.values]; exact List.mem_map_of_mem hc
  · rintro ⟨v, hv, hsel⟩
    rw [← h.values] at hv
    obtain ⟨c, hc, rfl⟩ := List.mem_map.1 hv
    exact ⟨c, hc, hsel, (hm.selectedConfig c).2 ⟨hc, hsel⟩⟩

/-- A run from an empty entry has a config to connect with, whenever it has configs, exactly when it
deletes the selected config only where it is the only one. -/
theorem always_hasSelection_iff {heap : Heap Config} {ops : List Op} {m : DataManager Data}
    (hf : Lts.Meets (step coder) Fresh (launch coder heap none) ops)
    (hrun : Lts.run (step coder) (launch coder heap none) ops = some m) :
    Lts.Always (step coder) HasSelection (launch coder heap none) ops ↔
      Lts.Meets (step coder) KeepsSelection (launch coder heap none) ops := by
  have hstart : (launch coder heap none).Refines coder [] := refines_launch heap none
  apply Lts.always_iff_meets (I := fun m => ∃ l, m.Refines coder l ∧ ConfigList.Valid l) _ _ _ _ hf hrun
  · rintro m op m' ⟨l, hr, hl⟩ hf hs
    rw [Fresh, hr.values] at hf
    exact ⟨_, step_refines hr hl hs, ConfigList.step_valid hl hf⟩
  · rintro m op m' ⟨l, hr, hl⟩ hsel hf hs
    rw [Fresh, hr.values] at hf
    rw [hasSelection_iff (step_refines hr hl hs) (ConfigList.step_valid hl hf), KeepsSelection, hr.values]
    exact ConfigList.step_hasSelection_iff hl ((hasSelection_iff hr hl).1 hsel) op
  · exact ⟨[], hstart, ConfigList.valid_nil⟩
  · exact (hasSelection_iff hstart ConfigList.valid_nil).2 fun h => absurd rfl h

/-- The config that is not selected is deleted, then the other. -/
def sampleDeletions : List Op :=
  [.add (Config.sample "1"), .add (Config.sample "2"), .delete 1 (text "2"), .delete 0 (text "1")]

theorem always_hasSelection_sample :
    Lts.Always (step .list) HasSelection (launch .list noObjects none) sampleDeletions :=
  (@always_hasSelection_iff _ .list noObjects sampleDeletions _ (by decide) rfl).2 (by decide)

/-- The selected one of two configs is deleted: the other is left, not selected, and the relay
publishes none. -/
theorem deleteConfig_selected : ∃ m,
    Lts.run (step .list) (launch .list noObjects none)
        [.add (Config.sample "1"), .add (Config.sample "2"), .delete 0 (text "1")] = some m ∧
      Lts.Meets (step .list) Fresh (launch .list noObjects none)
        [.add (Config.sample "1"), .add (Config.sample "2"), .delete 0 (text "1")] ∧
      m.heap.values m.configs = [Config.sample "2"] ∧ m.selectedConfigValue = none ∧ ¬m.HasSelection :=
  ⟨_, rfl, by decide, rfl, rfl, by unfold HasSelection; decide⟩

end DataManager

end VpnSs.Lead
