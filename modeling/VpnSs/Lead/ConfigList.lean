/-
What the store is for: a list of configs with distinct ids of which at most one is selected. Its
operations are functions on lists of values; a restart does nothing.
-/
import VpnSs.Lead.DataManager
import Mathlib.Data.List.Count
import Mathlib.Data.List.Nodup

namespace VpnSs.Lead

open VpnSs.Swift

namespace ConfigList

/-- The first config of an empty list is selected, a later one is not. -/
def add (l : List Config) (config : Config) : List Config := l ++ [config.select l.isEmpty]

def delete (l : List Config) (id : Text) : List Config := l.filter fun c => c.id != id

/-- The config with the id becomes the only selected one; an unknown id changes nothing. -/
def select (l : List Config) (id : Text) : List Config :=
  if id ∈ l.map Config.id then l.map fun c => c.select (c.id == id) else l

def edit (l : List Config) (id : Text) (model : Config) : List Config :=
  l.map fun c => if c.id = id then c.update model else c

def selected (l : List Config) : Option Config := l.find? Config.isSelected

def step (l : List Config) : DataManager.Op → List Config
  | .add config => add l config
  | .delete _ id => delete l id
  | .select _ id => select l id
  | .edit _ id model => edit l id model
  | .touchRxConfigs => l
  | .touchSelectedConfig => l
  | .restart => l

/-- Distinct ids, and at most one selected config. -/
structure Valid (l : List Config) : Prop where
  nodup : (l.map Config.id).Nodup
  selected : l.countP Config.isSelected ≤ 1

/-! ## The operations keep lists valid -/

theorem valid_nil : Valid [] := ⟨List.nodup_nil, Nat.zero_le _⟩

theorem map_id_edit (l : List Config) (id : Text) (model : Config) :
    (edit l id model).map Config.id = l.map Config.id := by
  rw [edit, List.map_map]
  apply List.map_congr_left
  intro c _
  simp only [Function.comp]
  split <;> rfl

theorem map_id_select (l : List Config) (id : Text) : (select l id).map Config.id = l.map Config.id := by
  unfold select
  split
  · rw [List.map_map]; rfl
  · rfl

theorem add_valid {l : List Config} (hl : Valid l) {config : Config} (hid : config.id ∉ l.map Config.id) :
    Valid (add l config) := by
  constructor
  · rw [add, List.map_append, List.map_singleton, Config.select_id]
    refine List.nodup_append.2 ⟨hl.nodup, List.nodup_singleton _, ?_⟩
    rintro a ha b hb rfl
    rw [List.mem_singleton.1 hb] at ha
    exact hid ha
  · rw [add, List.countP_append]
    cases l with
    | nil => simp
    | cons c l => simpa using hl.selected

theorem delete_valid {l : List Config} (hl : Valid l) (id : Text) : Valid (delete l id) := by
  have hsub : (delete l id).Sublist l := List.filter_sublist
  constructor
  · exact hl.nodup.sublist (hsub.map _)
  · exact Nat.le_trans hsub.countP_le hl.selected

theorem select_valid {l : List Config} (hl : Valid l) (id : Text) : Valid (select l id) := by
  refine ⟨by rw [map_id_select]; exact hl.nodup, ?_⟩
  unfold select
  split
  · -- the flags now count the occurrences of the id
    have hcount : (l.map fun c => c.select (c.id == id)).countP Config.isSelected = (l.map Config.id).count id := by
      rw [List.countP_map, List.count, List.countP_map]; rfl
    rw [hcount]
    exact List.nodup_iff_count_le_one.1 hl.nodup id
  · exact hl.selected

theorem edit_valid {l : List Config} (hl : Valid l) (id : Text) (model : Config) : Valid (edit l id model) := by
  refine ⟨by rw [map_id_edit]; exact hl.nodup, ?_⟩
  have hcount : (edit l id model).countP Config.isSelected = l.countP Config.isSelected := by
    rw [edit, List.countP_map]
    apply List.countP_congr
    intro c _
    simp only [Function.comp]
    split <;> simp
  rw [hcount]; exact hl.selected

/-- The ids a list may take on: adding is the only operation that brings a new one. -/
def Fresh (l : List Config) : DataManager.Op → Prop
  | .add config => config.id ∉ l.map Config.id
  | _ => True

instance (l : List Config) (op : DataManager.Op) : Decidable (Fresh l op) := by
  cases op <;> (unfold Fresh; infer_instance)

theorem step_valid {l : List Config} (hl : Valid l) {op : DataManager.Op} (hf : Fresh l op) : Valid (step l op) := by
  cases op with
  | add config => exact add_valid hl hf
  | delete _ id => exact delete_valid hl id
  | select _ id => exact select_valid hl id
  | edit _ id model => exact edit_valid hl id model
  | touchRxConfigs => exact hl
  | touchSelectedConfig => exact hl
  | restart => exact hl

/-! ## Operations that change nothing -/

theorem edit_of_not_mem {l : List Config} {id : Text} (h : id ∉ l.map Config.id) (model : Config) :
    edit l id model = l := by
  have hsame : ∀ c ∈ l, (if c.id = id then c.update model else c) = c := by
    intro c hc
    apply if_neg
    rintro rfl
    exact h (List.mem_map_of_mem hc)
  rw [edit, List.map_congr_left hsame, List.map_id']

theorem select_of_not_mem {l : List Config} {id : Text} (h : id ∉ l.map Config.id) : select l id = l := if_neg h

/-- Where at most one element has a property, two elements that have it are one. -/
theorem eq_of_countP_le_one {α : Type*} {p : α → Bool} {l : List α} (h : l.countP p ≤ 1) {a b : α}
    (ha : a ∈ l) (hb : b ∈ l) (pa : p a = true) (pb : p b = true) : a = b := by
  have ha := List.mem_filter.2 ⟨ha, pa⟩
  have hb := List.mem_filter.2 ⟨hb, pb⟩
  rw [List.countP_eq_length_filter] at h
  match hl : l.filter p with
  | [] => rw [hl] at ha; exact absurd ha List.not_mem_nil
  | [x] => rw [hl, List.mem_singleton] at ha hb; rw [ha, hb]
  | x :: y :: l => rw [hl] at h; simp at h

/-- Selecting the selected config again changes nothing. -/
theorem select_of_selected {l : List Config} (hl : Valid l) {c : Config} (hc : c ∈ l) (hs : c.isSelected = true) :
    select l c.id = l := by
  have hsame : ∀ d ∈ l, d.select (d.id == c.id) = d := by
    intro d hd
    by_cases hid : d.id = c.id
    · have hdc : d = c := List.inj_on_of_nodup_map hl.nodup hd hc hid
      subst hdc
      rw [beq_self_eq_true, Config.select, ← hs]
    · have hd' : d.isSelected = false := by
        by_contra hne
        rw [Bool.not_eq_false] at hne
        exact hid (by rw [eq_of_countP_le_one hl.selected hd hc hne hs])
      rw [beq_false_of_ne hid, Config.select, ← hd']
  rw [select, if_pos (List.mem_map_of_mem hc), List.map_congr_left hsame, List.map_id']

end ConfigList

end VpnSs.Lead
