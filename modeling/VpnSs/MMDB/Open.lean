/-
Opening a database: finding the metadata behind its last marker, reading it, and placing the
search tree and the data section. No file makes opening it, or looking an address up and reading
its entry afterwards, read outside the file, as long as the metadata has three bytes and the size
of the search tree and the separator is a word.
-/
import VpnSs.MMDB.DataSection
import VpnSs.MMDB.SearchTree

namespace VpnSs.MMDB

open VpnSs.Swift VpnSs.Except VpnSs.Preorder VpnSs.Descent

/-! ## Finding the metadata -/

def METADATA_MARKER : Data := [0xab, 0xcd, 0xef] ++ data "MaxMind.com"

/-- This is 128kb -/
abbrev METADATA_BLOCK_MAX_SIZE : Nat := 131072

/-- `mmdb_memmem`: where `s` first stands. -/
def memmem (s : Data) : Data → Option Nat
  | [] => none
  | b :: l => if s.isPrefixOf (b :: l) then some 0 else (memmem s l).map (· + 1)

/-- The loop of `find_metadata`: what is left of the search area after the last marker. -/
def findMetadataFrom : Nat → Data → Data
  | 0, searchArea => searchArea
  | turns + 1, searchArea =>
    match memmem METADATA_MARKER searchArea with
    | none => searchArea
    | some tmp => findMetadataFrom turns (searchArea.drop (tmp + METADATA_MARKER.length))

/-- Where the metadata starts, and its size. -/
def findMetadata (fileContent : Data) : Option (Nat × Nat) :=
  let maxSize := min fileContent.length METADATA_BLOCK_MAX_SIZE
  let searchArea := findMetadataFrom maxSize (fileContent.drop (fileContent.length - maxSize))
  if searchArea.length = maxSize then none
  else some (fileContent.length - searchArea.length, searchArea.length)

/-! ## Reading the metadata -/

def C.check (c : Prop) [Decidable c] (s : Status) : C Unit := if c then .ok () else C.fail s

/-- `mmdb_strndup` -/
def strndup (bytes : Data) : Data := bytes.takeWhile (· ≠ 0)

/-- `make_fake_metadata_db` -/
def makeFakeMetadataDb (mmdb : MMDB_s) : MMDB_s :=
  { mmdb with dataSection := mmdb.metadataSection, dataSectionSize := mmdb.metadataSectionSize }

def valueForKeyAsUint16 (metadataDb : MMDB_s) (key : Data) : C Nat := do
  match (← agetValue metadataDb 0 key).value with
  | .uint16 value => return value
  | _ => C.fail .invalidMetadata

def valueForKeyAsUint32 (metadataDb : MMDB_s) (key : Data) : C Nat := do
  match (← agetValue metadataDb 0 key).value with
  | .uint32 value => return value
  | _ => C.fail .invalidMetadata

def valueForKeyAsUint64 (metadataDb : MMDB_s) (key : Data) : C Nat := do
  match (← agetValue metadataDb 0 key).value with
  | .uint64 value => return value
  | _ => C.fail .invalidMetadata

def valueForKeyAsString (metadataDb : MMDB_s) (key : Data) : C Data := do
  match (← agetValue metadataDb 0 key).value with
  | .utf8String bytes => return strndup bytes
  | _ => C.fail .invalidMetadata

/-- The strings the next members are; past the last member the pointer is null. -/
def memberStrings : Nat → List EntryData → C (List Data)
  | 0, _ => .ok []
  | _ + 1, [] => .error .outside
  | n + 1, member :: members =>
    match member.value with
    | .utf8String bytes => do return strndup bytes :: (← memberStrings n members)
    | _ => C.fail .invalidMetadata

/-- The strings in the list of an entry: the elements of an array, the keys and values of a map. -/
def listStrings (metadataDb : MMDB_s) (offset : Nat) : C (List Data) := do
  match ← entryDataList metadataDb offset with
  | [] => .error .outside
  | first :: members => memberStrings first.parts members

def populateLanguagesMetadata (metadataDb : MMDB_s) : C (List Data) := do
  let entry ← agetValue metadataDb 0 (data "languages")
  match entry.value with
  | .array _ => listStrings metadataDb entry.offset
  | _ => C.fail .invalidMetadata

/-- A language and a description each time. -/
def descriptions : List Data → List (Data × Data)
  | language :: description :: rest => (language, description) :: descriptions rest
  | _ => []

def populateDescriptionMetadata (metadataDb : MMDB_s) : C (List (Data × Data)) := do
  let entry ← agetValue metadataDb 0 (data "description")
  match entry.value with
  | .map _ => return descriptions (← listStrings metadataDb entry.offset)
  | _ => C.fail .invalidMetadata

def readMetadata (mmdb : MMDB_s) : C MMDB_s := do
  let metadataDb := makeFakeMetadataDb mmdb
  let nodeCount ← valueForKeyAsUint32 metadataDb (data "node_count")
  C.check (nodeCount ≠ 0) .invalidMetadata
  let recordSize ← valueForKeyAsUint16 metadataDb (data "record_size")
  C.check (recordSize ≠ 0) .invalidMetadata
  C.check (recordSize = 24 ∨ recordSize = 28 ∨ recordSize = 32) .unknownDatabaseFormat
  let ipVersion ← valueForKeyAsUint16 metadataDb (data "ip_version")
  C.check (ipVersion = 4 ∨ ipVersion = 6) .invalidMetadata
  let databaseType ← valueForKeyAsString metadataDb (data "database_type")
  let languages ← populateLanguagesMetadata metadataDb
  let binaryFormatMajorVersion ← valueForKeyAsUint16 metadataDb (data "binary_format_major_version")
  C.check (binaryFormatMajorVersion ≠ 0) .invalidMetadata
  let binaryFormatMinorVersion ← valueForKeyAsUint16 metadataDb (data "binary_format_minor_version")
  let buildEpoch ← valueForKeyAsUint64 metadataDb (data "build_epoch")
  C.check (buildEpoch ≠ 0) .invalidMetadata
  let description ← populateDescriptionMetadata metadataDb
  return { mmdb with
    metadata := {
      nodeCount, recordSize, ipVersion, databaseType, languages, binaryFormatMajorVersion, binaryFormatMinorVersion
      buildEpoch, description }
    fullRecordByteSize := recordSize * 2 / 8
    depth := if ipVersion = 4 then 32 else 128 }

/-! ## Opening -/

/-- The struct with nothing but the file and its metadata section. -/
def mapped (fileContent : Data) (metadata : Nat × Nat) : MMDB_s where
  fileContent
  dataSection := 0
  dataSectionSize := 0
  metadataSection := metadata.1
  metadataSectionSize := metadata.2
  fullRecordByteSize := 0
  depth := 0
  ipv4StartNode := { netmask := 0, nodeValue := 0 }
  metadata := {
    nodeCount := 0, recordSize := 0, ipVersion := 0, databaseType := [], languages := []
    binaryFormatMajorVersion := 0, binaryFormatMinorVersion := 0, buildEpoch := 0, description := [] }

def MMDB_s.searchTreeSize (mmdb : MMDB_s) : Nat := u32 (mmdb.metadata.nodeCount * mmdb.fullRecordByteSize)

/-- The data section placed behind the search tree, and no start node yet. -/
def MMDB_s.place (mmdb : MMDB_s) : MMDB_s :=
  { mmdb with
    dataSection := mmdb.searchTreeSize + MMDB_DATA_SECTION_SEPARATOR
    dataSectionSize :=
      sub32 (sub32 (u32 mmdb.fileContent.length) mmdb.searchTreeSize) MMDB_DATA_SECTION_SEPARATOR
    ipv4StartNode := { netmask := 0, nodeValue := 0 } }

/-- `MMDB_open`, of a file that could be mapped. -/
def mmdbOpen (fileContent : Data) : C MMDB_s := do
  match findMetadata fileContent with
  | none => C.fail .invalidMetadata
  | some metadata =>
    let mmdb ← readMetadata (mapped fileContent metadata)
    C.check (mmdb.metadata.binaryFormatMajorVersion = 2) .unknownDatabaseFormat
    C.check (u32 (mmdb.searchTreeSize + MMDB_DATA_SECTION_SEPARATOR) ≤ u32 fileContent.length) .invalidMetadata
    -- later checks of bounds subtract three from it
    C.check (3 ≤ mmdb.place.dataSectionSize) .invalidData
    if mmdb.metadata.ipVersion = 6 then findIPv4StartNode mmdb.place else return mmdb.place

theorem C.check_yields {allowed : Stop → Prop} {c : Prop} [Decidable c] {s : Status} (h : allowed (.status s)) :
    Yields allowed (fun _ => c) (C.check c s) :=
  Yields.ite (fun hc => hc) fun _ => h

theorem C.check_sound {c : Prop} [Decidable c] {s : Status} : Sound (fun _ => c) (C.check c s) :=
  C.check_yields ⟨s, rfl⟩

theorem C.of_check {c : Prop} [Decidable c] {s : Status} {u : Unit} (h : C.check c s = .ok u) : c :=
  C.check_sound.of_eq_ok h

theorem length_findMetadataFrom_le (turns : Nat) (searchArea : Data) :
    (findMetadataFrom turns searchArea).length ≤ searchArea.length := by
  induction turns generalizing searchArea with
  | zero => exact Nat.le_refl _
  | succ turns ih =>
    rw [findMetadataFrom]
    split
    · exact Nat.le_refl _
    · refine (ih _).trans ?_
      rw [List.length_drop]
      exact Nat.sub_le _ _

/-- The metadata are the end of the file. -/
theorem findMetadata_bounds {fileContent : Data} {start size : Nat} (h : findMetadata fileContent = some (start, size)) :
    start + size = fileContent.length ∧ size ≤ METADATA_BLOCK_MAX_SIZE := by
  unfold findMetadata at h
  dsimp only at h
  split at h
  · cases h
  · have hle := length_findMetadataFrom_le (min fileContent.length METADATA_BLOCK_MAX_SIZE)
      (fileContent.drop (fileContent.length - min fileContent.length METADATA_BLOCK_MAX_SIZE))
    rw [List.length_drop] at hle
    cases h
    omega

/-! ## Metadata that were read -/

/-- What is checked of the metadata. -/
structure MMDB_s.Read (fileContent : Data) (mmdb : MMDB_s) : Prop where
  file : mmdb.fileContent = fileContent
  nodes : 0 < mmdb.metadata.nodeCount
  record : mmdb.fullRecordByteSize = 6 ∨ mmdb.fullRecordByteSize = 7 ∨ mmdb.fullRecordByteSize = 8
  version : mmdb.metadata.ipVersion = 4 ∧ mmdb.depth = 32 ∨ mmdb.metadata.ipVersion = 6 ∧ mmdb.depth = 128

theorem readMetadata_yields {allowed : Stop → Prop} {mmdb : MMDB_s} (hstatus : ∀ s, allowed (.status s))
    (haget : ∀ key, Yields allowed (fun _ => True) (agetValue (makeFakeMetadataDb mmdb) 0 key))
    (hstrings : ∀ offset, Yields allowed (fun _ => True) (listStrings (makeFakeMetadataDb mmdb) offset)) :
    Yields allowed (MMDB_s.Read mmdb.fileContent) (readMetadata mmdb) := by
  have huint16 : ∀ key, Yields allowed (fun _ => True) (valueForKeyAsUint16 (makeFakeMetadataDb mmdb) key) := by
    intro key
    refine (haget key).bind fun entry _ => ?_
    split
    · trivial
    · exact hstatus _
  have huint32 : Yields allowed (fun _ => True) (valueForKeyAsUint32 (makeFakeMetadataDb mmdb) (data "node_count")) := by
    refine (haget _).bind fun entry _ => ?_
    split
    · trivial
    · exact hstatus _
  have huint64 : Yields allowed (fun _ => True) (valueForKeyAsUint64 (makeFakeMetadataDb mmdb) (data "build_epoch")) := by
    refine (haget _).bind fun entry _ => ?_
    split
    · trivial
    · exact hstatus _
  have hstring : Yields allowed (fun _ => True) (valueForKeyAsString (makeFakeMetadataDb mmdb) (data "database_type")) := by
    refine (haget _).bind fun entry _ => ?_
    split
    · trivial
    · exact hstatus _
  have hlanguages : Yields allowed (fun _ => True) (populateLanguagesMetadata (makeFakeMetadataDb mmdb)) := by
    refine (haget _).bind fun entry _ => ?_
    split
    · exact hstrings _
    · exact hstatus _
  have hdescription : Yields allowed (fun _ => True) (populateDescriptionMetadata (makeFakeMetadataDb mmdb)) := by
    refine (haget _).bind fun entry _ => ?_
    split
    · exact (hstrings _).bind fun _ _ => trivial
    · exact hstatus _
  refine huint32.bind fun nodeCount _ => (C.check_yields (hstatus _)).bind fun _ hnodes => ?_
  refine (huint16 _).bind fun recordSize _ => (C.check_yields (hstatus _)).bind fun _ _ => ?_
  refine (C.check_yields (hstatus _)).bind fun _ hsize => ?_
  refine (huint16 _).bind fun ipVersion _ => (C.check_yields (hstatus _)).bind fun _ hversion => ?_
  refine hstring.bind fun databaseType _ => hlanguages.bind fun languages _ => ?_
  refine (huint16 _).bind fun major _ => (C.check_yields (hstatus _)).bind fun _ _ => ?_
  refine (huint16 _).bind fun minor _ => huint64.bind fun buildEpoch _ => ?_
  refine (C.check_yields (hstatus _)).bind fun _ _ => hdescription.bind fun description _ => ?_
  refine ⟨rfl, Nat.pos_of_ne_zero hnodes, ?_, ?_⟩
  · show recordSize * 2 / 8 = 6 ∨ recordSize * 2 / 8 = 7 ∨ recordSize * 2 / 8 = 8
    omega
  · rcases hversion with rfl | rfl
    · exact .inl ⟨rfl, rfl⟩
    · exact .inr ⟨rfl, rfl⟩

/-- The members of a list are there for the size its first entry tells, as long as they are strings. -/
theorem memberStrings_sound {n k : Nat} {members : List EntryData} (hn : n ≤ k)
    (hm : Spells EntryData.parts k members) : Sound (fun _ => True) (memberStrings n members) := by
  induction n generalizing k members with
  | zero => trivial
  | succ n ih =>
    obtain ⟨k, rfl⟩ : ∃ j, k = j + 1 := ⟨k - 1, by omega⟩
    obtain ⟨member, rest, rfl, hrest⟩ := hm.exists_cons
    rw [memberStrings]
    split
    · rename_i bytes hvalue
      have hparts : member.parts = 0 := by rw [EntryData.parts, hvalue]
      rw [hparts, Nat.zero_add] at hrest
      exact (ih (by omega) hrest).bind fun _ _ => trivial
    · exact Sound.fail _

theorem MMDB_s.Bounded.listStrings_sound {mmdb : MMDB_s} (hb : mmdb.Bounded) (offset : Nat) :
    Sound (fun _ => True) (listStrings mmdb offset) := by
  refine (hb.entryDataList_sound offset).bind fun l hl => ?_
  obtain ⟨first, members, rfl, hmembers⟩ := hl.exists_cons
  exact memberStrings_sound (Nat.le_refl _) hmembers

/-- With three bytes of metadata, reading them stays inside the file. -/
theorem readMetadata_sound {fileContent : Data} {metadata : Nat × Nat} (h : findMetadata fileContent = some metadata)
    (hthree : 3 ≤ metadata.2) : Sound (MMDB_s.Read fileContent) (readMetadata (mapped fileContent metadata)) := by
  obtain ⟨hlen, hmax⟩ := findMetadata_bounds h
  have hb : (makeFakeMetadataDb (mapped fileContent metadata)).Bounded := by
    refine ⟨hlen.le, hthree, ?_⟩
    exact Nat.lt_of_le_of_lt hmax (by decide)
  exact readMetadata_yields (fun s => ⟨s, rfl⟩) (hb.agetValue_sound 0) hb.listStrings_sound

/-! ## Searching inside the file -/

/-- What keeps a search inside the file: each pair of records it reads ends before the data section. -/
structure MMDB_s.Safe (mmdb : MMDB_s) : Prop where
  record : mmdb.fullRecordByteSize = 6 ∨ mmdb.fullRecordByteSize = 7 ∨ mmdb.fullRecordByteSize = 8
  bounded : mmdb.Bounded

namespace MMDB_s.Safe

variable {mmdb : MMDB_s} (hs : mmdb.Safe)
include hs

theorem getters_sound {p : Nat} (hp : ¬ p + (recordInfoForDatabase mmdb).recordLength > mmdb.dataSection) :
    Sound (fun _ => True) ((recordInfoForDatabase mmdb).leftRecordGetter mmdb p) ∧
      Sound (fun _ => True)
        ((recordInfoForDatabase mmdb).rightRecordGetter mmdb (p + (recordInfoForDatabase mmdb).rightRecordOffset)) := by
  have hfile := hs.bounded.inFile
  revert hp
  unfold recordInfoForDatabase
  obtain h | h | h := hs.record <;> simp only [h, if_true, if_neg (show ¬ 7 = 6 by omega),
    if_neg (show ¬ 8 = 6 by omega), if_neg (show ¬ 8 = 7 by omega)] <;> intro hp
  · exact ⟨(getUint24_yields (by omega)).mono fun _ _ => trivial,
      (getUint24_yields (by omega)).mono fun _ _ => trivial⟩
  · exact ⟨getLeft28BitRecord_yields (by omega), getRight28BitRecord_yields (by omega)⟩
  · exact ⟨(getUint32_yields (by omega)).mono fun _ _ => trivial,
      (getUint32_yields (by omega)).mono fun _ _ => trivial⟩

theorem findFrom_sound (address : Data) (result : LookupResult) (left value : Nat) :
    Sound (fun _ => True) (findFrom mmdb address result left value) := by
  induction left generalizing value result with
  | zero => exact Sound.fail _
  | succ currentBit ih =>
    refine Yields.ite (fun _ => Sound.fail _) fun hp => ?_
    obtain ⟨hleft, hright⟩ := hs.getters_sound hp
    refine (Yields.ite (fun _ => hright) fun _ => hleft).bind fun r _ => ?_
    rcases maybePopulateResult mmdb r currentBit result with ⟨_ | _ | _ | _, a⟩
    · exact ih a r
    · trivial
    · trivial
    · exact Sound.fail _

theorem findStartFrom_sound (levels : Nat) (node : IPv4StartNode) :
    Sound (fun _ => True) (findStartFrom mmdb levels node) := by
  induction levels generalizing node with
  | zero => trivial
  | succ levels ih =>
    refine Yields.ite (fun _ => Sound.fail _) fun hp => ?_
    refine (hs.getters_sound hp).1.bind fun r _ => ?_
    exact Yields.ite (fun _ => trivial) fun _ => ih _

theorem findAddressInSearchTree_sound (address : Data) (addressFamily : AddressFamily) (result : LookupResult) :
    Sound (fun _ => True) (findAddressInSearchTree mmdb address addressFamily result) := by
  refine Yields.ite (fun _ => Sound.fail _) fun _ => Yields.ite (fun _ => ?_) fun _ => hs.findFrom_sound _ _ _ _
  rcases maybePopulateResult mmdb mmdb.ipv4StartNode.nodeValue mmdb.ipv4StartNode.netmask result with ⟨_ | _ | _ | _, a⟩
  · exact hs.findFrom_sound _ _ _ _
  · trivial
  · trivial
  · exact Sound.fail _

theorem lookupSockaddr_sound (sockaddr : SockAddr) : Sound (fun _ => True) (lookupSockaddr mmdb sockaddr) := by
  unfold lookupSockaddr
  refine Yields.ite (fun _ => ?_) fun _ => ?_
  · cases sockaddr with
    | inet addr => exact hs.findAddressInSearchTree_sound _ _ _
    | inet6 addr => exact Sound.fail _
  · cases sockaddr with
    | inet addr => exact hs.findAddressInSearchTree_sound _ _ _
    | inet6 addr => exact hs.findAddressInSearchTree_sound _ _ _

end MMDB_s.Safe

/-! ## Opened databases -/

theorem MMDB_s.Read.dataSectionSize_eq {fileContent : Data} {mmdb : MMDB_s} (hm : mmdb.Read fileContent)
    (hsize : mmdb.searchTreeSize + MMDB_DATA_SECTION_SEPARATOR < 2 ^ 32)
    (hfit : u32 (mmdb.searchTreeSize + MMDB_DATA_SECTION_SEPARATOR) ≤ u32 fileContent.length) :
    mmdb.place.dataSectionSize = u32 fileContent.length - mmdb.searchTreeSize - MMDB_DATA_SECTION_SEPARATOR := by
  have hlt := u32_lt fileContent.length
  rw [u32_of_lt hsize] at hfit
  show sub32 (sub32 (u32 mmdb.fileContent.length) mmdb.searchTreeSize) MMDB_DATA_SECTION_SEPARATOR = _
  rw [hm.file, sub32_of_le hlt (by omega), sub32_of_le (by omega) (by omega)]

/-- The checks of the sizes place the data section in the file. -/
theorem MMDB_s.Read.bounded {fileContent : Data} {mmdb : MMDB_s} (hm : mmdb.Read fileContent)
    (hsize : mmdb.searchTreeSize + MMDB_DATA_SECTION_SEPARATOR < 2 ^ 32)
    (hfit : u32 (mmdb.searchTreeSize + MMDB_DATA_SECTION_SEPARATOR) ≤ u32 fileContent.length)
    (hthree : 3 ≤ mmdb.place.dataSectionSize) : mmdb.place.Bounded := by
  have hlen : u32 fileContent.length ≤ fileContent.length := Nat.mod_le _ _
  have hlt := u32_lt fileContent.length
  have hdata := hm.dataSectionSize_eq hsize hfit
  rw [u32_of_lt hsize] at hfit
  refine ⟨?_, hthree, by omega⟩
  rw [hdata]
  show mmdb.searchTreeSize + MMDB_DATA_SECTION_SEPARATOR + _ ≤ mmdb.fileContent.length
  rw [hm.file]
  omega

theorem findIPv4StartNode_place (mmdb : MMDB_s) : findIPv4StartNode mmdb.place =
    (findStartFrom mmdb.place 96 { netmask := 0, nodeValue := 0 }).map
      fun node => { mmdb.place with ipv4StartNode := node } := by
  rw [findIPv4StartNode, if_neg (by exact fun h => h rfl)]
  rcases findStartFrom mmdb.place 96 { netmask := 0, nodeValue := 0 } with e | node <;> rfl

/-- Opening stays inside the file, and leaves a database that searches stay inside of. -/
theorem mmdbOpen_sound {fileContent : Data}
    (hthree : ∀ metadata, findMetadata fileContent = some metadata → 3 ≤ metadata.2)
    (hsize : ∀ metadata mmdb, findMetadata fileContent = some metadata →
      readMetadata (mapped fileContent metadata) = .ok mmdb →
      mmdb.searchTreeSize + MMDB_DATA_SECTION_SEPARATOR < 2 ^ 32) :
    Sound MMDB_s.Safe (mmdbOpen fileContent) := by
  unfold mmdbOpen
  rcases hfind : findMetadata fileContent with _ | metadata
  · exact Sound.fail _
  · have hread := readMetadata_sound hfind (hthree _ hfind)
    dsimp only
    rcases hok : readMetadata (mapped fileContent metadata) with e | mmdb
    · rw [hok] at hread
      exact hread
    · rw [hok] at hread
      have hm : mmdb.Read fileContent := hread
      rw [ok_bind]
      refine C.check_sound.bind fun _ _ => C.check_sound.bind fun _ hfit => ?_
      refine C.check_sound.bind fun _ hdata => ?_
      have hb := hm.bounded (hsize _ _ hfind hok) hfit hdata
      have hs : mmdb.place.Safe := ⟨hm.record, hb⟩
      refine Yields.ite (fun _ => ?_) fun _ => hs
      rw [findIPv4StartNode_place]
      exact Yields.map ((hs.findStartFrom_sound _ _).mono fun _ _ => ⟨hm.record, ⟨hb.inFile, hb.three, hb.word⟩⟩)

/-- The start node is found whatever start node there was. -/
theorem findStartFrom_congr (mmdb : MMDB_s) (start : IPv4StartNode) (levels : Nat) (node : IPv4StartNode) :
    findStartFrom { mmdb with ipv4StartNode := start } levels node = findStartFrom mmdb levels node := by
  induction levels generalizing node with
  | zero => rfl
  | succ levels ih =>
    have hleft : ∀ p, (recordInfoForDatabase mmdb).leftRecordGetter { mmdb with ipv4StartNode := start } p =
        (recordInfoForDatabase mmdb).leftRecordGetter mmdb p := by
      intro p
      unfold recordInfoForDatabase
      split
      · rfl
      · split
        · rfl
        · split <;> rfl
    have hinfo : recordInfoForDatabase { mmdb with ipv4StartNode := start } = recordInfoForDatabase mmdb := rfl
    rw [findStartFrom, findStartFrom]
    simp only [hinfo, hleft, ih]

/-- What an opened database is, if its search tree fits in a word with the separator. -/
theorem opened_of_mmdbOpen {fileContent : Data} {db : MMDB_s} (h : mmdbOpen fileContent = .ok db)
    (hsize : db.metadata.nodeCount * db.fullRecordByteSize + MMDB_DATA_SECTION_SEPARATOR < 2 ^ 32) : db.Opened := by
  unfold mmdbOpen at h
  rcases hfind : findMetadata fileContent with _ | metadata
  · rw [hfind] at h; cases h
  rw [hfind] at h
  obtain ⟨mmdb, hread, h⟩ := bind_eq_ok.1 h
  obtain ⟨_, -, h⟩ := bind_eq_ok.1 h
  obtain ⟨_, hfit, h⟩ := bind_eq_ok.1 h
  obtain ⟨_, hthree, h⟩ := bind_eq_ok.1 h
  replace hfit := C.of_check hfit
  replace hthree := C.of_check hthree
  have hany : ∀ {α : Type} (x : C α), Yields (fun _ => True) (fun _ => True) x := by
    intro α x
    cases x <;> trivial
  have hm : mmdb.Read fileContent :=
    (readMetadata_yields (fun _ => trivial) (fun _ => hany _) (fun _ => hany _)).of_eq_ok hread
  -- the start node is the only field set after the sections are placed
  obtain ⟨node, rfl, hnode⟩ : ∃ node, db = { mmdb.place with ipv4StartNode := node } ∧
      (mmdb.metadata.ipVersion = 6 → findStartFrom mmdb.place 96 { netmask := 0, nodeValue := 0 } = .ok node) := by
    split at h
    · rw [findIPv4StartNode_place] at h
      obtain ⟨node, hnode, rfl⟩ := map_eq_ok.1 h
      exact ⟨node, rfl, fun _ => hnode⟩
    · rename_i hversion
      cases h
      exact ⟨_, rfl, fun hv => absurd hv hversion⟩
  have htree : mmdb.searchTreeSize = mmdb.metadata.nodeCount * mmdb.fullRecordByteSize := by
    refine u32_of_lt (Nat.lt_of_le_of_lt (Nat.le_add_right _ _) hsize)
  have hword : mmdb.searchTreeSize + MMDB_DATA_SECTION_SEPARATOR < 2 ^ 32 := by rw [htree]; exact hsize
  have hb := hm.bounded hword hfit hthree
  refine ⟨⟨hm.record, hm.nodes, ?_, hword, ?_⟩, ⟨hb.inFile, hb.three, hb.word⟩, hm.version, ?_, ?_⟩
  · show mmdb.searchTreeSize + _ = _
    rw [htree]
    rfl
  · exact Nat.le_trans (Nat.le_add_right _ _) hb.inFile
  · intro hversion
    rw [findStartFrom_congr]
    exact hnode hversion
  · show mmdb.place.dataSectionSize ≤ _
    have hlt := u32_lt fileContent.length
    rw [hm.dataSectionSize_eq hword hfit]
    omega

/-! ## The networks of a database -/

/-- What a lookup in an opened database answers: the outcome that stands at a beginning of the
address's bits, of which there is one at most, and an error of the tree where none stands. A database of IPv4
networks is asked for IPv4 addresses only; for another it answers `ipv6LookupInIPv4Database`. -/
theorem lookupSockaddr_networks {fileContent : Data} {db : MMDB_s} (h : mmdbOpen fileContent = .ok db)
    (hsize : db.metadata.nodeCount * db.fullRecordByteSize + MMDB_DATA_SECTION_SEPARATOR < 2 ^ 32)
    (hroot : db.metadata.ipVersion = 6 → db.Rooted) (sockaddr : SockAddr)
    (hfamily : db.metadata.ipVersion = 4 → ∃ addr, sockaddr = .inet addr) :
    (∀ r, lookupSockaddr db sockaddr = .ok r ↔
      ∃ p o, p <+: path db sockaddr ∧ Stands (next db) 0 p o ∧
        o.answer (reportedNetmask db p.length sockaddr) = .ok r) ∧
    (∀ p o q o', p <+: path db sockaddr → Stands (next db) 0 p o → q <+: path db sockaddr → Stands (next db) 0 q o' →
      p = q ∧ o = o') ∧
    ∀ e, lookupSockaddr db sockaddr = .error e → e = .status .corruptSearchTree := by
  have ho := opened_of_mmdbOpen h hsize
  have heq := ho.lookupSockaddr_eq hroot hfamily
  refine ⟨?_, fun p o q o' hp hs hq hs' => hs.unique hs' hp hq, ?_⟩
  · intro r
    rw [heq]
    constructor
    · intro hr
      rcases hd : descend (next db) 0 (path db sockaddr) with t | ⟨o, n⟩
      · rw [hd] at hr; cases hr
      · rw [hd] at hr
        obtain ⟨p, hp, rfl, hs⟩ := descend_eq_inr.1 hd
        exact ⟨p, o, hp, hs, hr⟩
    · rintro ⟨p, o, hp, hs, hr⟩
      rw [descend_eq_inr.2 ⟨p, hp, rfl, hs⟩]
      exact hr
  · intro e he
    rw [heq] at he
    rcases hd : descend (next db) 0 (path db sockaddr) with t | ⟨o, n⟩ <;> rw [hd] at he
    · cases he; rfl
    · cases o <;> cases he
      rfl

/-! ## A sample -/

/-- A string entry of the format. -/
def entryOf (s : String) : Data := UInt8.ofNat (64 + s.length) :: data s

/-- One node of 24-bit records, the left one with an entry; an entry with a country; metadata. -/
def sampleFile : Data :=
  [0, 0, 17, 0, 0, 1] ++ List.replicate 16 0 ++
  [0xe1] ++ entryOf "country" ++ [0xe2] ++ entryOf "iso_code" ++ entryOf "CN" ++
    entryOf "names" ++ [0xe1] ++ entryOf "en" ++ entryOf "China" ++
  METADATA_MARKER ++ [0xe9] ++ entryOf "node_count" ++ [0xc1, 1] ++ entryOf "record_size" ++ [0xa1, 24] ++
    entryOf "ip_version" ++ [0xa1, 6] ++ entryOf "database_type" ++ entryOf "T" ++
    entryOf "languages" ++ [1, 4] ++ entryOf "en" ++ entryOf "binary_format_major_version" ++ [0xa1, 2] ++
    entryOf "binary_format_minor_version" ++ [0xa0] ++ entryOf "build_epoch" ++ [1, 2, 1] ++
    entryOf "description" ++ [0xe1] ++ entryOf "en" ++ entryOf "x"

def sampleDb : MMDB_s where
  fileContent := sampleFile
  dataSection := 22
  dataSectionSize := 216
  metadataSection := 74
  metadataSectionSize := 164
  fullRecordByteSize := 6
  depth := 128
  ipv4StartNode := { netmask := 0, nodeValue := 17 }
  metadata := {
    nodeCount := 1, recordSize := 24, ipVersion := 6, databaseType := data "T", languages := [data "en"]
    binaryFormatMajorVersion := 2, binaryFormatMinorVersion := 0, buildEpoch := 1
    description := [(data "en", data "x")] }

theorem mmdbOpen_sampleFile : mmdbOpen sampleFile = .ok sampleDb := by decide +kernel

def sampleAddress : SockAddr := .inet ⟨[1, 2, 4, 8], rfl⟩

theorem sampleDb_rooted : sampleDb.Rooted := by
  intro node n hnode hread
  obtain rfl : node = 0 := Nat.lt_one_iff.1 hnode
  have hzero : (readNode sampleDb 0).toOption.map SearchNode.leftRecord = some 17 := by decide +kernel
  rw [hread] at hzero
  rw [Option.some.inj hzero]
  decide

/-- An address of the IPv4 internet, for which the netmask of its one bit is reported as 128. -/
theorem lookupSockaddr_networks_sample : mmdbOpen sampleFile = .ok sampleDb ∧ sampleDb.Rooted ∧
    lookupSockaddr sampleDb sampleAddress = .ok { foundEntry := true, offset := 0, netmask := 128 } := by
  have hnetworks := lookupSockaddr_networks mmdbOpen_sampleFile (by decide) (fun _ => sampleDb_rooted) sampleAddress nofun
  have hstands : Stands (next sampleDb) 0 [false] (.data 0) := .stop (by decide +kernel)
  refine ⟨mmdbOpen_sampleFile, sampleDb_rooted, (hnetworks.1 _).2 ⟨[false], .data 0, ?_, hstands, rfl⟩⟩
  exact List.cons_prefix_cons.2 ⟨rfl, List.nil_prefix⟩

end VpnSs.MMDB
