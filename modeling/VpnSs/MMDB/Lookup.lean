/-
MMDB.swift: opening a database and looking the text of an address up, which turns the list of the
entry found into a dictionary. A lookup neither reads outside the file nor traps, whatever the
file; and where the entry is made of maps with nonempty keys, strings and 32-bit unsigned numbers only, the
types `dump` knows, the dictionary is what the bytes of the entry say.
-/
import VpnSs.MMDB.Open

namespace VpnSs.MMDB

open VpnSs.Swift VpnSs.Except VpnSs.Preorder VpnSs.Descent

/-! ## Foundation's objects -/

/-- A string by its scalars, which is how Foundation compares them. -/
abbrev NSString := List Char

inductive NSObject where
  | string (s : NSString)
  | number (n : Nat)
  | dictionary (entries : List (NSString × NSObject))

abbrev NSDictionary := List (NSString × NSObject)

/-- `dict[key] = out` -/
def NSDictionary.set (dict : NSDictionary) (key : NSString) (out : NSObject) : NSDictionary :=
  (key, out) :: dict.filter fun entry => entry.1 ≠ key

section Dump

-- `String(cString:)`, which repairs what is no UTF-8
variable (cString : Data → NSString)

/-! ## The dictionary of a list -/

def getString (entry : EntryData) : NSString :=
  match entry.value with
  | .utf8String bytes => cString (strndup bytes)
  | _ => []

/-- The loop of `dump` over a map, with as many keys left. -/
def dumpMap (dump : List EntryData → Except Trap (List EntryData × Option NSObject)) :
    Nat → List EntryData → NSDictionary → Except Trap (List EntryData × NSDictionary)
  | 0, list, dict => .ok (list, dict)
  | _ + 1, [], dict => .ok ([], dict)
  | size + 1, entry :: list, dict => do
    let key := getString cString entry
    let (list, out) ← dump list
    match out with
    | none => return (list, dict)
    | some out => if key = [] then return (list, dict) else dumpMap dump size list (NSDictionary.set dict key out)

/-- `dump`; the number bounds the calls inside each other. -/
def dump : Nat → List EntryData → Except Trap (List EntryData × Option NSObject)
  | 0, _ => .error .fatalError
  | _ + 1, [] => .error .unwrapNil
  | calls + 1, entry :: list =>
    match entry.value with
    | .map size => do
      let (list, dict) ← dumpMap cString (dump calls) size list []
      return (list, some (.dictionary dict))
    | .utf8String _ => .ok (list, some (.string (getString cString entry)))
    | .uint32 n => .ok (list, some (.number n))
    -- the list stays where it is
    | _ => .ok (entry :: list, none)

/-- A status other than success makes the Swift functions return nil. -/
def ifSuccess {α : Type} : C α → C (Option α)
  | .ok a => .ok (some a)
  | .error (.status _) => .ok none
  | .error e => .error e

/-- `lookup(ip:)` of a text that `getaddrinfo` takes for the address, if for any. That no entry was
found is not asked: the offset is then past the end of the data section. -/
def lookup (db : MMDB_s) (address : Option SockAddr) : C (Except Trap (Option NSDictionary)) := do
  match address with
  | none => return .ok none
  | some sockaddr =>
    match ← ifSuccess (lookupSockaddr db sockaddr) with
    | none => return .ok none
    | some result =>
      match ← ifSuccess (entryDataList db result.offset) with
      | none => return .ok none
      | some list =>
        return (dump cString list.length list).map fun res =>
          match res.2 with
          | some (.dictionary d) => some d
          | _ => none

def NSObject.asString : NSObject → Option NSString
  | .string s => some s
  | _ => none

def NSObject.asDictionary : NSObject → Option NSDictionary
  | .dictionary d => some d
  | _ => none

/-- `as? [String: String]` -/
def NSObject.asStrings (o : NSObject) : Option (List (NSString × NSString)) := do
  (← o.asDictionary).mapM fun entry => entry.2.asString.map fun s => (entry.1, s)

structure MMDBCountry where
  continentCode : Option NSString
  continentNames : Option (List (NSString × NSString))
  isoCode : NSString
  names : List (NSString × NSString)
  deriving DecidableEq

/-- `dictionary[key] as? NSDictionary`, with a code and names in it. -/
def codeAndNames (dictionary : NSDictionary) (key code : String) : Option (NSString × List (NSString × NSString)) := do
  let dict ← (← dictionary.lookup key.toList).asDictionary
  let code ← (← dict.lookup code.toList).asString
  let names ← (← dict.lookup "names".toList).asStrings
  return (code, names)

/-- `MMDBCountry(dictionary:)` -/
def MMDBCountry.ofDictionary (dictionary : NSDictionary) : MMDBCountry :=
  let continent := codeAndNames dictionary "continent" "code"
  let country := codeAndNames dictionary "country" "iso_code"
  { continentCode := continent.map Prod.fst
    continentNames := continent.map Prod.snd
    isoCode := (country.map Prod.fst).getD []
    names := (country.map Prod.snd).getD [] }

/-- `lookup(_:)` -/
def lookupCountry (db : MMDB_s) (address : Option SockAddr) : C (Except Trap (Option MMDBCountry)) := do
  return (← lookup cString db address).map (Option.map MMDBCountry.ofDictionary)

/-! ## No trap -/

/-- In a list that spells a tree at least `dump` takes at most that tree, whatever the types. -/
theorem dump_total {calls k : Nat} {list : List EntryData} (h : Spells EntryData.parts (k + 1) list)
    (hcalls : list.length ≤ calls) :
    ∃ rest out j, dump cString calls list = .ok (rest, out) ∧ Spells EntryData.parts j rest ∧ k ≤ j ∧
      rest.length ≤ list.length := by
  induction calls generalizing k list with
  | zero =>
    obtain ⟨a, l, rfl, -⟩ := h.exists_cons
    simp at hcalls
  | succ calls ih =>
    obtain ⟨entry, list, rfl, hlist⟩ := h.exists_cons
    rw [List.length_cons] at hcalls
    -- the loop takes at most a key and a value for each turn left
    have hmap : ∀ (size j : Nat) (list : List EntryData) (dict : NSDictionary), Spells EntryData.parts j list →
        2 * size + k ≤ j → list.length ≤ calls →
        ∃ rest dict' j', dumpMap cString (dump cString calls) size list dict = .ok (rest, dict') ∧
          Spells EntryData.parts j' rest ∧ k ≤ j' ∧ rest.length ≤ list.length := by
      intro size
      induction size with
      | zero =>
        intro j list dict hj hle _
        exact ⟨list, dict, j, rfl, hj, by omega, Nat.le_refl _⟩
      | succ size ihsize =>
        intro j list dict hj hle hlen
        obtain ⟨j, rfl⟩ : ∃ i, j = i + 2 := ⟨j - 2, by omega⟩
        obtain ⟨key, list, rfl, hkey⟩ := hj.exists_cons
        rw [List.length_cons] at hlen
        rw [← Nat.add_assoc] at hkey
        obtain ⟨rest, out, i, hdump, hrest, hi, hshort⟩ := ih hkey (by omega)
        rw [dumpMap, hdump, ok_bind]
        rw [List.length_cons]
        rcases out with _ | out
        · exact ⟨rest, dict, i, rfl, hrest, by omega, by omega⟩
        · dsimp only
          split
          · exact ⟨rest, dict, i, rfl, hrest, by omega, by omega⟩
          · obtain ⟨rest', dict', j', hloop, hspells, hj', hlen'⟩ :=
              ihsize i rest (NSDictionary.set dict _ out) hrest (by omega) (by omega)
            exact ⟨rest', dict', j', hloop, hspells, hj', by omega⟩
    rw [dump]
    split
    · rename_i size hvalue
      have hparts : entry.parts = 2 * size := by rw [EntryData.parts, hvalue]
      rw [hparts] at hlist
      obtain ⟨rest, dict, j, hloop, hspells, hj, hlen⟩ := hmap size _ list [] hlist (Nat.le_refl _) (by omega)
      rw [hloop, ok_bind]
      exact ⟨rest, _, j, rfl, hspells, hj, by rw [List.length_cons]; omega⟩
    · exact ⟨list, _, _, rfl, hlist, Nat.le_add_left _ _, Nat.le_succ _⟩
    · exact ⟨list, _, _, rfl, hlist, Nat.le_add_left _ _, Nat.le_succ _⟩
    · exact ⟨entry :: list, none, k + 1, rfl, h, Nat.le_succ _, Nat.le_refl _⟩

/-! ## Inside the file -/

theorem ifSuccess_ok {α : Type} {P : α → Prop} {x : C α} (h : Sound P x) :
    ∃ o, ifSuccess x = .ok o ∧ ∀ a, o = some a → P a := by
  rcases x with e | a
  · obtain ⟨s, rfl⟩ := h
    exact ⟨none, rfl, nofun⟩
  · refine ⟨some a, rfl, ?_⟩
    rintro b ⟨⟩
    exact h

/-- Whatever the file, opening it and looking texts up in what was opened stays inside the file and
does not trap, if its metadata have three bytes and its search tree ends within a word. How many calls the
stack holds inside each other is not asked. -/
theorem lookup_inside {fileContent : Data}
    (hthree : ∀ metadata, findMetadata fileContent = some metadata → 3 ≤ metadata.2)
    (hsize : ∀ metadata mmdb, findMetadata fileContent = some metadata →
      readMetadata (mapped fileContent metadata) = .ok mmdb →
      mmdb.searchTreeSize + MMDB_DATA_SECTION_SEPARATOR < 2 ^ 32) :
    Sound (fun db => ∀ address, ∃ d, lookup cString db address = .ok (.ok d)) (mmdbOpen fileContent) := by
  refine (mmdbOpen_sound hthree hsize).mono fun db hs address => ?_
  rcases address with _ | sockaddr
  · exact ⟨none, rfl⟩
  obtain ⟨result, hresult, -⟩ := ifSuccess_ok (hs.lookupSockaddr_sound sockaddr)
  rw [lookup, hresult, ok_bind]
  rcases result with _ | result
  · exact ⟨none, rfl⟩
  obtain ⟨list, hlist, hspells⟩ := ifSuccess_ok (hs.bounded.entryDataList_sound result.offset)
  dsimp only
  rw [hlist, ok_bind]
  rcases list with _ | list
  · exact ⟨none, rfl⟩
  obtain ⟨rest, out, j, hdump, -⟩ := dump_total cString (hspells list rfl) (Nat.le_refl _)
  dsimp only
  rw [hdump]
  exact ⟨_, rfl⟩

/-! ## What the bytes say -/

mutual

/-- The entry at the offset, or the one it points to, is the object, and the next entry of what it
is in starts at the second offset; `levels` is how deep entries may stand in each other. The objects are those
of the types `dump` knows. -/
inductive Holds (mmdb : MMDB_s) : Nat → Nat → NSObject → Nat → Prop
  | here {levels offset next : Nat} {v : NSObject} : HoldsHere mmdb levels offset v next → Holds mmdb levels offset v next
  | pointer {levels offset target next : Nat} {v : NSObject} {entry : EntryData} :
      decodeOne mmdb offset = .ok entry → entry.value = .pointer target → HoldsHere mmdb levels target v next →
      Holds mmdb (levels + 1) offset v entry.offsetToNext

inductive HoldsHere (mmdb : MMDB_s) : Nat → Nat → NSObject → Nat → Prop
  | string {levels offset : Nat} {bytes : Data} {entry : EntryData} :
      decodeOne mmdb offset = .ok entry → entry.value = .utf8String bytes →
      HoldsHere mmdb (levels + 1) offset (.string (cString (strndup bytes))) entry.offsetToNext
  | number {levels offset n : Nat} {entry : EntryData} :
      decodeOne mmdb offset = .ok entry → entry.value = .uint32 n →
      HoldsHere mmdb (levels + 1) offset (.number n) entry.offsetToNext
  | map {levels offset size next : Nat} {d : NSDictionary} {entry : EntryData} :
      decodeOne mmdb offset = .ok entry → entry.value = .map size →
      HoldsPairs mmdb levels size entry.offsetToNext [] d next →
      HoldsHere mmdb (levels + 1) offset (.dictionary d) next

/-- That many keys with their values stand from the offset on, and make the second dictionary of
the first. -/
inductive HoldsPairs (mmdb : MMDB_s) : Nat → Nat → Nat → NSDictionary → NSDictionary → Nat → Prop
  | nil {levels offset : Nat} {d : NSDictionary} : HoldsPairs mmdb levels 0 offset d d offset
  | cons {levels size offset toValue toNext next : Nat} {key : NSString} {v : NSObject} {d d' : NSDictionary} :
      Holds mmdb levels offset (.string key) toValue → key ≠ [] → Holds mmdb levels toValue v toNext →
      HoldsPairs mmdb levels size toNext (NSDictionary.set d key v) d' next →
      HoldsPairs mmdb levels (size + 1) offset d d' next

end

/-! ## What is looked up -/

/-- An entry of this type with these entries after it is dumped as the object. -/
def Dumps (value : EntryValue) (below : List EntryData) (v : NSObject) : Prop :=
  ∀ (entry : EntryData) (calls : Nat) (rest : List EntryData), entry.value = value → below.length < calls →
    dump cString calls (entry :: (below ++ rest)) = .ok (rest, some v)

variable {cString}

/-- A key is one entry, and its string. -/
theorem Dumps.key {entry : EntryData} {below : List EntryData} {key : NSString}
    (h : Dumps cString entry.value below (.string key)) : below = [] ∧ getString cString entry = key := by
  have hdump := h entry (below.length + 1) [] rfl (Nat.lt_succ_self _)
  rw [List.append_nil, dump] at hdump
  split at hdump
  · rcases hloop : dumpMap cString (dump cString below.length) _ below [] with e | ⟨l, d⟩ <;>
      rw [hloop] at hdump <;> cases hdump
  · cases hdump
    exact ⟨rfl, rfl⟩
  · cases hdump
  · cases hdump

theorem dumps_string {entry : EntryData} {bytes : Data} (h : entry.value = .utf8String bytes) :
    Dumps cString entry.value [] (.string (cString (strndup bytes))) := by
  intro e calls rest he hcalls
  obtain ⟨calls, rfl⟩ : ∃ n, calls = n + 1 := ⟨calls - 1, by rw [List.length_nil] at hcalls; omega⟩
  rw [h] at he
  rw [List.nil_append, dump]
  simp only [he, getString]

theorem dumps_number {entry : EntryData} {n : Nat} (h : entry.value = .uint32 n) :
    Dumps cString entry.value [] (.number n) := by
  intro e calls rest he hcalls
  obtain ⟨calls, rfl⟩ : ∃ n, calls = n + 1 := ⟨calls - 1, by rw [List.length_nil] at hcalls; omega⟩
  rw [h] at he
  rw [List.nil_append, dump]
  simp only [he]

/-- The list of what an offset holds is dumped as it. -/
def Listed (mmdb : MMDB_s) (cString : Data → NSString) (levels offset : Nat) (v : NSObject) (next : Nat) : Prop :=
  ∃ entry below, getEntryDataList mmdb levels offset = .ok (entry, below) ∧ entry.offsetToNext = next ∧
    Dumps cString entry.value below v

/-- The entries of a map's keys and values are dumped into the dictionary. -/
def PairsListed (mmdb : MMDB_s) (cString : Data → NSString) (levels size offset : Nat) (d d' : NSDictionary)
    (next : Nat) : Prop :=
  ∃ below, entriesFrom (getEntryDataList mmdb levels) (2 * size) offset = .ok (below, next) ∧
    ∀ calls rest, below.length ≤ calls →
      dumpMap cString (dump cString calls) size (below ++ rest) d = .ok (rest, d')

section Listing

variable {mmdb : MMDB_s} {levels : Nat}

theorem PairsListed.cons {size offset toValue toNext next : Nat} {key : NSString} {v : NSObject} {d d' : NSDictionary}
    (hkey : Listed mmdb cString levels offset (.string key) toValue) (hne : key ≠ [])
    (hvalue : Listed mmdb cString levels toValue v toNext)
    (hpairs : PairsListed mmdb cString levels size toNext (NSDictionary.set d key v) d' next) :
    PairsListed mmdb cString levels (size + 1) offset d d' next := by
  obtain ⟨k, kbelow, hk, rfl, hkdumps⟩ := hkey
  obtain ⟨rfl, rfl⟩ := hkdumps.key
  obtain ⟨e, ebelow, he, rfl, hedumps⟩ := hvalue
  obtain ⟨below, hbelow, hloop⟩ := hpairs
  refine ⟨k :: e :: ebelow ++ below, ?_, ?_⟩
  · have htwice : 2 * (size + 1) = 2 * size + 1 + 1 := by omega
    rw [htwice, entriesFrom, hk, ok_bind]
    dsimp only
    rw [entriesFrom, he, ok_bind]
    dsimp only
    rw [hbelow]
    rfl
  · intro calls rest hcalls
    simp only [List.cons_append, List.length_cons, List.length_append, List.append_assoc] at hcalls ⊢
    rw [dumpMap, hedumps e calls (below ++ rest) rfl (by omega), ok_bind]
    dsimp only
    rw [if_neg hne]
    exact hloop calls rest (by omega)

theorem Listed.map {offset size next : Nat} {d : NSDictionary} {entry : EntryData}
    (hentry : decodeOne mmdb offset = .ok entry) (hvalue : entry.value = .map size)
    (hpairs : PairsListed mmdb cString levels size entry.offsetToNext [] d next) :
    Listed mmdb cString (levels + 1) offset (.dictionary d) next := by
  obtain ⟨below, hbelow, hloop⟩ := hpairs
  refine ⟨{ entry with offsetToNext := next }, below, ?_, rfl, ?_⟩
  · rw [getEntryDataList, hentry, ok_bind]
    simp only [hvalue, hbelow, ok_bind, pure_eq_ok]
  · intro e calls rest he hcalls
    obtain ⟨calls, rfl⟩ : ∃ n, calls = n + 1 := ⟨calls - 1, by omega⟩
    replace he : e.value = .map size := he.trans hvalue
    rw [dump]
    simp only [he]
    rw [hloop calls rest (by omega), ok_bind, pure_eq_ok]

theorem Listed.string {offset : Nat} {bytes : Data} {entry : EntryData} (hentry : decodeOne mmdb offset = .ok entry)
    (hvalue : entry.value = .utf8String bytes) :
    Listed mmdb cString (levels + 1) offset (.string (cString (strndup bytes))) entry.offsetToNext := by
  refine ⟨entry, [], ?_, rfl, dumps_string hvalue⟩
  rw [getEntryDataList, hentry, ok_bind]
  simp only [hvalue, pure_eq_ok]

theorem Listed.number {offset n : Nat} {entry : EntryData} (hentry : decodeOne mmdb offset = .ok entry)
    (hvalue : entry.value = .uint32 n) : Listed mmdb cString (levels + 1) offset (.number n) entry.offsetToNext := by
  refine ⟨entry, [], ?_, rfl, dumps_number hvalue⟩
  rw [getEntryDataList, hentry, ok_bind]
  simp only [hvalue, pure_eq_ok]

/-- Through a pointer the same object is listed, and what comes next is behind the pointer. -/
theorem Listed.pointer {offset target next : Nat} {v : NSObject} {entry : EntryData}
    (hentry : decodeOne mmdb offset = .ok entry) (hvalue : entry.value = .pointer target)
    (hhere : HoldsHere cString mmdb levels target v next) (hlisted : Listed mmdb cString levels target v next) :
    Listed mmdb cString (levels + 1) offset v entry.offsetToNext := by
  rw [Listed, getEntryDataList, hentry, ok_bind]
  simp only [hvalue]
  cases hhere with
  | string hto htovalue =>
    rw [hto, ok_bind]
    simp only [htovalue, pure_eq_ok]
    exact ⟨_, _, rfl, rfl, htovalue ▸ dumps_string htovalue⟩
  | number hto htovalue =>
    rw [hto, ok_bind]
    simp only [htovalue, pure_eq_ok]
    exact ⟨_, _, rfl, rfl, htovalue ▸ dumps_number htovalue⟩
  | map hto htovalue _ =>
    obtain ⟨pointed, below, hlist, -, hdumps⟩ := hlisted
    rw [hto, ok_bind]
    simp only [htovalue, hlist, ok_bind, pure_eq_ok]
    exact ⟨_, _, rfl, rfl, hdumps⟩

end Listing

mutual

theorem Holds.listed {mmdb : MMDB_s} {levels offset next : Nat} {v : NSObject} :
    Holds cString mmdb levels offset v next → Listed mmdb cString levels offset v next
  | .here h => h.listed
  | .pointer hentry hvalue h => .pointer hentry hvalue h h.listed

theorem HoldsHere.listed {mmdb : MMDB_s} {levels offset next : Nat} {v : NSObject} :
    HoldsHere cString mmdb levels offset v next → Listed mmdb cString levels offset v next
  | .string hentry hvalue => .string hentry hvalue
  | .number hentry hvalue => .number hentry hvalue
  | .map hentry hvalue hpairs => .map hentry hvalue hpairs.listed

theorem HoldsPairs.listed {mmdb : MMDB_s} {levels size offset next : Nat} {d d' : NSDictionary} :
    HoldsPairs cString mmdb levels size offset d d' next → PairsListed mmdb cString levels size offset d d' next
  | .nil => ⟨[], rfl, fun _ _ _ => rfl⟩
  | .cons hkey hne hvalue hpairs => .cons hkey.listed hne hvalue.listed hpairs.listed

end

/-- Past the end of the data section there is no entry. -/
theorem MMDB_s.Opened.entryDataList_pastEnd {db : MMDB_s} (ho : db.Opened) :
    entryDataList db (2 ^ 32 - MMDB_DATA_SECTION_SEPARATOR) = C.fail .invalidData := by
  have hend := ho.pastEnd
  have hthree := ho.bounded.three
  have hpast : 2 ^ 32 - MMDB_DATA_SECTION_SEPARATOR > sub32 db.dataSectionSize 1 := by
    rw [ho.bounded.sub32_eq (by omega)]
    omega
  generalize 2 ^ 32 - MMDB_DATA_SECTION_SEPARATOR = offset at hpast
  have hdecode : decodeOne db offset = C.fail .invalidData := by rw [decodeOne, if_pos hpast]
  rw [entryDataList, MAXIMUM_DATA_STRUCTURE_DEPTH, getEntryDataList, hdecode]
  rfl

section Country

variable {db : MMDB_s} {sockaddr : SockAddr} {result : LookupResult} {list rest : List EntryData} {d : NSDictionary}
  {s : Status}

theorem lookupCountry_dumped (hresult : lookupSockaddr db sockaddr = .ok result)
    (hlist : entryDataList db result.offset = .ok list)
    (hdump : dump cString list.length list = .ok (rest, some (.dictionary d))) :
    lookupCountry cString db (some sockaddr) = .ok (.ok (some (MMDBCountry.ofDictionary d))) := by
  rw [lookupCountry, lookup, hresult, ifSuccess, ok_bind]
  dsimp only
  rw [hlist, ifSuccess, ok_bind]
  dsimp only
  rw [hdump]
  rfl

theorem lookupCountry_unlisted (hresult : lookupSockaddr db sockaddr = .ok result)
    (hlist : entryDataList db result.offset = C.fail s) : lookupCountry cString db (some sockaddr) = .ok (.ok none) := by
  rw [lookupCountry, lookup, hresult, ifSuccess, ok_bind]
  dsimp only
  rw [hlist, ifSuccess, ok_bind]
  rfl

theorem lookupCountry_unfound (hresult : lookupSockaddr db sockaddr = C.fail s) :
    lookupCountry cString db (some sockaddr) = .ok (.ok none) := by
  rw [lookupCountry, lookup, hresult, ifSuccess, ok_bind]
  rfl

end Country

/-- The country of an address is what the bytes at the offset say that stands at a beginning of its
bits, if they are a map of the types `dump` knows, and there is none if what stands there is no data. A
database of IPv4 networks is asked for IPv4 addresses only. -/
theorem lookupCountry_holds {fileContent : Data} {db : MMDB_s} (h : mmdbOpen fileContent = .ok db)
    (hsize : db.metadata.nodeCount * db.fullRecordByteSize + MMDB_DATA_SECTION_SEPARATOR < 2 ^ 32)
    (hroot : db.metadata.ipVersion = 6 → db.Rooted) {sockaddr : SockAddr}
    (hfamily : db.metadata.ipVersion = 4 → ∃ addr, sockaddr = .inet addr) {p : List Bool} (hp : p <+: path db sockaddr) :
    (∀ offset d after, Stands (next db) 0 p (.data offset) →
      Holds cString db MAXIMUM_DATA_STRUCTURE_DEPTH offset (.dictionary d) after →
      lookupCountry cString db (some sockaddr) = .ok (.ok (some (MMDBCountry.ofDictionary d)))) ∧
    ∀ o, Stands (next db) 0 p o → (∀ offset, o ≠ .data offset) →
      lookupCountry cString db (some sockaddr) = .ok (.ok none) := by
  have ho := opened_of_mmdbOpen h hsize
  have heq := ho.lookupSockaddr_eq hroot hfamily
  constructor
  · intro offset d after hs hd
    rw [descend_eq_inr.2 ⟨p, hp, rfl, hs⟩] at heq
    obtain ⟨entry, below, hlist, -, hdumps⟩ := hd.listed
    have hdump := hdumps entry (below.length + 1) [] rfl (Nat.lt_succ_self _)
    rw [List.append_nil, ← List.length_cons] at hdump
    have hentries : entryDataList db offset = .ok (entry :: below) := by
      rw [entryDataList, hlist, ok_bind]
      rfl
    exact lookupCountry_dumped heq hentries hdump
  · intro o hs hdata
    rw [descend_eq_inr.2 ⟨p, hp, rfl, hs⟩] at heq
    cases o with
    | data offset => exact absurd rfl (hdata offset)
    | invalid => exact lookupCountry_unfound heq
    | empty => exact lookupCountry_unlisted heq (ho.entryDataList_pastEnd)

end Dump

/-! ## A sample -/

/-- ASCII bytes as their characters. -/
def sampleString (bytes : Data) : NSString := bytes.map fun b => Char.ofNat b.toNat

theorem findMetadata_sampleFile : findMetadata sampleFile = some (74, 164) := by decide +kernel

theorem searchTreeSize_sampleFile :
    (readMetadata (mapped sampleFile (74, 164))).toOption.map MMDB_s.searchTreeSize = some 6 := by decide +kernel

theorem lookup_inside_sample : mmdbOpen sampleFile = .ok sampleDb ∧
    ∀ address, ∃ d, lookup sampleString sampleDb address = .ok (.ok d) := by
  refine ⟨mmdbOpen_sampleFile, (lookup_inside sampleString ?_ ?_).of_eq_ok mmdbOpen_sampleFile⟩
  · intro metadata h
    rw [findMetadata_sampleFile] at h
    cases h
    decide
  · intro metadata mmdb h hread
    rw [findMetadata_sampleFile] at h
    cases h
    have hsize := searchTreeSize_sampleFile
    rw [hread] at hsize
    rw [Option.some.inj hsize]
    decide

/-- Nothing but a marker: the first byte of the metadata lies behind the end of the file. -/
example : mmdbOpen METADATA_MARKER = .error .outside := by decide +kernel

/-- What the sample's bytes say. -/
def sampleDictionary : NSDictionary :=
  [("country".toList, .dictionary [("names".toList, .dictionary [("en".toList, .string "China".toList)]),
    ("iso_code".toList, .string "CN".toList)])]

/-- A string of the sample. -/
theorem holdsString_sample {levels : Nat} (offset after : Nat) (t : String)
    (h : decodeOne sampleDb offset = .ok { offset, offsetToNext := after, value := .utf8String (data t) })
    (ht : sampleString (strndup (data t)) = t.toList) :
    Holds sampleString sampleDb (levels + 1) offset (.string t.toList) after :=
  ht ▸ .here (.string h rfl)

/-- A map of the sample. -/
theorem holdsMap_sample {levels after : Nat} {d : NSDictionary} (offset inside size : Nat)
    (h : decodeOne sampleDb offset = .ok { offset, offsetToNext := inside, value := .map size })
    (hpairs : HoldsPairs sampleString sampleDb levels size inside [] d after) :
    Holds sampleString sampleDb (levels + 1) offset (.dictionary d) after :=
  .here (.map h rfl hpairs)

theorem sampleDictionary_holds :
    Holds sampleString sampleDb MAXIMUM_DATA_STRUCTURE_DEPTH 0 (.dictionary sampleDictionary) 38 := by
  refine holdsMap_sample 0 1 1 ?_ (.cons (holdsString_sample 1 9 "country" ?_ ?_) ?_
    (holdsMap_sample 9 10 2 ?_ (.cons (holdsString_sample 10 19 "iso_code" ?_ ?_) ?_ (holdsString_sample 19 22 "CN" ?_ ?_)
      (.cons (holdsString_sample 22 28 "names" ?_ ?_) ?_
        (holdsMap_sample 28 29 1 ?_ (.cons (holdsString_sample 29 32 "en" ?_ ?_) ?_ (holdsString_sample 32 38 "China" ?_ ?_)
          .nil)) .nil))) .nil)
  all_goals decide +kernel

theorem lookupCountry_holds_sample : mmdbOpen sampleFile = .ok sampleDb ∧
    lookupCountry sampleString sampleDb (some sampleAddress) = .ok (.ok (some (MMDBCountry.ofDictionary sampleDictionary))) ∧
    (MMDBCountry.ofDictionary sampleDictionary).isoCode = "CN".toList := by
  have hstands : Stands (next sampleDb) 0 [false] (.data 0) := .stop (by decide +kernel)
  have hholds := @lookupCountry_holds sampleString sampleFile sampleDb mmdbOpen_sampleFile (by decide)
    (fun _ => sampleDb_rooted) sampleAddress nofun [false] (List.cons_prefix_cons.2 ⟨rfl, List.nil_prefix⟩)
  exact ⟨mmdbOpen_sampleFile, hholds.1 _ _ _ hstands sampleDictionary_holds, by decide +kernel⟩

end VpnSs.MMDB
