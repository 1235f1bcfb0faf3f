/-
Reading the data section: the list of the entries an entry is made of, with its pointers followed,
and the value a map holds under a key. Neither reads outside the file, and a list is the preorder
of the entry with its keys, values and elements.
-/
import VpnSs.Lib.Preorder
import VpnSs.MMDB.Database

namespace VpnSs.MMDB

open VpnSs.Swift VpnSs.Except VpnSs.Preorder

/-! ## The list of an entry -/

abbrev MAXIMUM_DATA_STRUCTURE_DEPTH : Nat := 512

/-- That many entries one after the other, each with what belongs to it, and the offset after them. -/
def entriesFrom (entryDataList : Nat → C (EntryData × List EntryData)) : Nat → Nat → C (List EntryData × Nat)
  | 0, offset => .ok ([], offset)
  | n + 1, offset => do
    let (entry, below) ← entryDataList offset
    let (rest, next) ← entriesFrom entryDataList n entry.offsetToNext
    return (entry :: below ++ rest, next)

/-- `get_entry_data_list`, with as many levels left: the entry, and the entries taken from the pool
for it, in that order. -/
def getEntryDataList (mmdb : MMDB_s) : Nat → Nat → C (EntryData × List EntryData)
  | 0, _ => C.fail .invalidData
  | levels + 1, offset => do
    let entry ← decodeOne mmdb offset
    match entry.value with
    | .pointer pointer =>
      let pointed ← decodeOne mmdb pointer
      match pointed.value with
      | .pointer _ => C.fail .invalidData
      | .array _ | .map _ =>
        -- decoded once more, a level down
        let (pointed, below) ← getEntryDataList mmdb levels pointer
        return ({ pointed with offsetToNext := entry.offsetToNext }, below)
      | _ => return ({ pointed with offsetToNext := entry.offsetToNext }, [])
    | .array size =>
      let (below, next) ← entriesFrom (getEntryDataList mmdb levels) size entry.offsetToNext
      return ({ entry with offsetToNext := next }, below)
    | .map size =>
      -- a key and a value each time
      let (below, next) ← entriesFrom (getEntryDataList mmdb levels) (2 * size) entry.offsetToNext
      return ({ entry with offsetToNext := next }, below)
    | _ => return (entry, [])

/-- `MMDB_get_entry_data_list`; the pool is linked in the order its elements were taken. -/
def entryDataList (mmdb : MMDB_s) (offset : Nat) : C (List EntryData) := do
  let (entry, below) ← getEntryDataList mmdb MAXIMUM_DATA_STRUCTURE_DEPTH offset
  return entry :: below

/-! ## The value under a key -/

def decodeOneFollow (mmdb : MMDB_s) (offset : Nat) : C EntryData := do
  let entry ← decodeOne mmdb offset
  match entry.value with
  | .pointer pointer =>
    let pointed ← decodeOne mmdb pointer
    match pointed.value with
    | .pointer _ => C.fail .invalidData
    -- what is inside a map or an array comes next
    | .array _ | .map _ => return pointed
    | _ => return { pointed with offsetToNext := entry.offsetToNext }
  | _ => return entry

/-- That many values, each after a key if there are keys, with what belongs to them; the offset
after them. -/
def skipFrom (mmdb : MMDB_s) (keys : Bool) (skip : EntryData → C Nat) : Nat → Nat → C Nat
  | 0, offset => .ok offset
  | n + 1, offset => do
    let offset ← (if keys then (decodeOne mmdb offset).map EntryData.offsetToNext else .ok offset)
    let value ← decodeOne mmdb offset
    let next ← skip value
    skipFrom mmdb keys skip n next

/-- `skip_map_or_array`: the offset after the entry. The number bounds the calls inside each other, for which
the C stack is taken to be large enough. -/
def skipMapOrArray (mmdb : MMDB_s) : Nat → EntryData → C Nat
  | 0, _ => .error .tooDeep
  | calls + 1, entry =>
    match entry.value with
    | .map size => skipFrom mmdb true (skipMapOrArray mmdb calls) size entry.offsetToNext
    | .array size => skipFrom mmdb false (skipMapOrArray mmdb calls) size entry.offsetToNext
    | _ => .ok entry.offsetToNext

def lookupPathInMap (mmdb : MMDB_s) (pathElem : Data) : Nat → Nat → C EntryData
  | 0, _ => C.fail .lookupPathDoesNotMatchData
  | size + 1, offset => do
    let key ← decodeOneFollow mmdb offset
    match key.value with
    | .utf8String bytes =>
      if bytes = pathElem then decodeOneFollow mmdb key.offsetToNext
      else
        let value ← decodeOne mmdb key.offsetToNext
        let next ← skipMapOrArray mmdb (mmdb.dataSectionSize + 1) value
        lookupPathInMap mmdb pathElem size next
    | _ => C.fail .invalidData

/-- `MMDB_aget_value` for a path of one key, which is no index of an array. -/
def agetValue (mmdb : MMDB_s) (offset : Nat) (key : Data) : C EntryData := do
  let entry ← decodeOneFollow mmdb offset
  match entry.value with
  | .map size => lookupPathInMap mmdb key size entry.offsetToNext
  | _ => C.fail .lookupPathDoesNotMatchData

/-! ## Inside the file -/

/-- How many entries follow an entry as parts of it. -/
def EntryData.parts (entry : EntryData) : Nat :=
  match entry.value with
  | .map size => 2 * size
  | .array size => size
  | _ => 0

theorem EntryData.parts_eq_zero {entry : EntryData} (hmap : ∀ size, entry.value = .map size → False)
    (harray : ∀ size, entry.value = .array size → False) : entry.parts = 0 := by
  unfold EntryData.parts
  split
  · rename_i size h; exact (hmap size h).elim
  · rename_i size h; exact (harray size h).elim
  · rfl

theorem entriesFrom_sound {one : Nat → C (EntryData × List EntryData)}
    (hone : ∀ offset, Sound (fun r => Spells EntryData.parts 1 (r.1 :: r.2)) (one offset)) (n offset : Nat) :
    Sound (fun r => Spells EntryData.parts n r.1) (entriesFrom one n offset) := by
  induction n generalizing offset with
  | zero => exact .nil
  | succ n ih =>
    refine (hone offset).bind fun r hr => (ih r.1.offsetToNext).bind fun s hs => ?_
    rw [Nat.add_comm]
    exact hr.append hs

namespace MMDB_s.Bounded

variable {mmdb : MMDB_s} (hb : mmdb.Bounded)
include hb

/-- A list stays inside the file, and spells one entry with all its parts. -/
theorem getEntryDataList_sound (levels offset : Nat) :
    Sound (fun r => Spells EntryData.parts 1 (r.1 :: r.2)) (getEntryDataList mmdb levels offset) := by
  induction levels generalizing offset with
  | zero => exact Sound.fail _
  | succ levels ih =>
    refine (hb.decodeOne_sound offset).bind fun entry _ => ?_
    split
    · rename_i pointer hvalue
      refine (hb.decodeOne_sound pointer).bind fun pointed _ => ?_
      split
      · exact Sound.fail _
      · refine (ih pointer).bind fun r hr => ?_
        obtain ⟨_, _, h, hspells⟩ := hr.exists_cons
        cases h
        exact .tree hspells
      · refine (ih pointer).bind fun r hr => ?_
        obtain ⟨_, _, h, hspells⟩ := hr.exists_cons
        cases h
        exact .tree hspells
      · rename_i hpointer harray hmap
        have hparts : EntryData.parts { pointed with offsetToNext := entry.offsetToNext } = 0 :=
          EntryData.parts_eq_zero hmap harray
        refine .tree ?_
        rw [hparts]
        exact .nil
    · rename_i size hvalue
      refine (entriesFrom_sound ih size entry.offsetToNext).bind fun r hr => .tree ?_
      rw [EntryData.parts]
      simpa only [hvalue] using hr
    · rename_i size hvalue
      refine (entriesFrom_sound ih (2 * size) entry.offsetToNext).bind fun r hr => .tree ?_
      rw [EntryData.parts]
      simpa only [hvalue] using hr
    · rename_i hpointer harray hmap
      refine .tree ?_
      rw [EntryData.parts_eq_zero hmap harray]
      exact .nil

theorem entryDataList_sound (offset : Nat) :
    Sound (fun l => Spells EntryData.parts 1 l) (entryDataList mmdb offset) :=
  (hb.getEntryDataList_sound _ offset).bind fun _ h => h

theorem decodeOneFollow_sound (offset : Nat) :
    Sound (fun e => e.offsetToNext ≤ mmdb.dataSectionSize) (decodeOneFollow mmdb offset) := by
  refine (hb.decodeOne_sound offset).bind fun entry hentry => ?_
  split
  · rename_i pointer hvalue
    refine (hb.decodeOne_sound pointer).bind fun pointed hpointed => ?_
    split
    · exact Sound.fail _
    · exact hpointed.2.2
    · exact hpointed.2.2
    · exact hentry.2.2
  · exact hentry.2.2

/-- Skipping goes forward, so that there are fewer calls inside each other than bytes left. -/
theorem skipFrom_sound (keys : Bool) {skip : EntryData → C Nat} {bound : Nat}
    (hskip : ∀ e : EntryData, bound < e.offsetToNext → e.offsetToNext ≤ mmdb.dataSectionSize →
      Sound (fun next => e.offsetToNext ≤ next ∧ next ≤ mmdb.dataSectionSize) (skip e))
    (n : Nat) {offset : Nat} (hoffset : bound ≤ offset) (hend : offset ≤ mmdb.dataSectionSize) :
    Sound (fun next => offset ≤ next ∧ next ≤ mmdb.dataSectionSize) (skipFrom mmdb keys skip n offset) := by
  induction n generalizing offset with
  | zero => exact ⟨Nat.le_refl _, hend⟩
  | succ n ih =>
    have hkey : Sound (fun next => offset ≤ next)
        (if keys then (decodeOne mmdb offset).map EntryData.offsetToNext else .ok offset) := by
      refine Yields.ite (fun _ => Yields.map ?_) fun _ => Nat.le_refl _
      exact (hb.decodeOne_sound offset).mono fun entry hentry => hentry.2.1.le
    refine hkey.bind fun start hstart => ?_
    refine (hb.decodeOne_sound start).bind fun value hvalue => ?_
    obtain ⟨-, hlt, hle⟩ := hvalue
    refine (hskip value (by omega) hle).bind fun next hnext => ?_
    refine (ih (by omega) hnext.2).mono fun last hlast => ⟨by omega, hlast.2⟩

theorem skipMapOrArray_sound {calls : Nat} {entry : EntryData} (hend : entry.offsetToNext ≤ mmdb.dataSectionSize)
    (hcalls : mmdb.dataSectionSize - entry.offsetToNext < calls) :
    Sound (fun next => entry.offsetToNext ≤ next ∧ next ≤ mmdb.dataSectionSize) (skipMapOrArray mmdb calls entry) := by
  induction calls generalizing entry with
  | zero => omega
  | succ calls ih =>
    have hskip : ∀ e : EntryData, entry.offsetToNext < e.offsetToNext → e.offsetToNext ≤ mmdb.dataSectionSize →
        Sound (fun next => e.offsetToNext ≤ next ∧ next ≤ mmdb.dataSectionSize) (skipMapOrArray mmdb calls e) :=
      fun e hlt hle => ih hle (by omega)
    rw [skipMapOrArray]
    split
    · exact hb.skipFrom_sound true hskip _ (Nat.le_refl _) hend
    · exact hb.skipFrom_sound false hskip _ (Nat.le_refl _) hend
    · exact ⟨Nat.le_refl _, hend⟩

theorem lookupPathInMap_sound (pathElem : Data) (size offset : Nat) :
    Sound (fun _ => True) (lookupPathInMap mmdb pathElem size offset) := by
  induction size generalizing offset with
  | zero => exact Sound.fail _
  | succ size ih =>
    refine (hb.decodeOneFollow_sound offset).bind fun key _ => ?_
    split
    · refine Yields.ite (fun _ => (hb.decodeOneFollow_sound _).mono fun _ _ => trivial) fun _ => ?_
      refine (hb.decodeOne_sound key.offsetToNext).bind fun value hvalue => ?_
      exact (hb.skipMapOrArray_sound hvalue.2.2 (by omega)).bind fun next _ => ih next
    · exact Sound.fail _

theorem agetValue_sound (offset : Nat) (key : Data) : Sound (fun _ => True) (agetValue mmdb offset key) := by
  refine (hb.decodeOneFollow_sound offset).bind fun entry _ => ?_
  split
  · exact hb.lookupPathInMap_sound key _ _
  · exact Sound.fail _

end MMDB_s.Bounded

end VpnSs.MMDB
