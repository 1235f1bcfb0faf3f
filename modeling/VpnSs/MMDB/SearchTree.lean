/-
The search tree: nodes of two records, of 24, 28 or 32 bits each, that lead from a bit of an
address to another node or out of the tree. Looking an address up descends through the nodes by
the bits of the address; an IPv4 address in an IPv6 database starts at the node found when the
database was opened, and gets what the address with 96 zeros before it would get from the root.
-/
import VpnSs.Lib.Descent
import VpnSs.MMDB.Database
import Mathlib.Data.Nat.Bitwise

namespace VpnSs.MMDB

open VpnSs.Swift VpnSs.Except VpnSs.Descent

/-! ## Records and nodes -/

inductive RecordType where
  | searchNode
  | empty
  | data
  | invalid
  deriving DecidableEq, Repr

/-- `record_info_s` -/
structure RecordInfo where
  recordLength : Nat
  leftRecordGetter : MMDB_s → Nat → C Nat
  rightRecordGetter : MMDB_s → Nat → C Nat
  rightRecordOffset : Nat

def getLeft28BitRecord (mmdb : MMDB_s) (p : Nat) : C Nat := do
  return (← mmdb.byte p) * 65536 + (← mmdb.byte (p + 1)) * 256 + (← mmdb.byte (p + 2)) +
    (((← mmdb.byte (p + 3)) &&& 0xf0) <<< 20)

def getRight28BitRecord (mmdb : MMDB_s) (p : Nat) : C Nat := do
  return (← getUint32 mmdb p) &&& 0xfffffff

/-- For any other length the getters stay null. -/
def recordInfoForDatabase (mmdb : MMDB_s) : RecordInfo :=
  if mmdb.fullRecordByteSize = 6 then
    { recordLength := 6, leftRecordGetter := getUint24, rightRecordGetter := getUint24, rightRecordOffset := 3 }
  else if mmdb.fullRecordByteSize = 7 then
    { recordLength := 7, leftRecordGetter := getLeft28BitRecord, rightRecordGetter := getRight28BitRecord,
      rightRecordOffset := 3 }
  else if mmdb.fullRecordByteSize = 8 then
    { recordLength := 8, leftRecordGetter := getUint32, rightRecordGetter := getUint32, rightRecordOffset := 4 }
  else
    { recordLength := mmdb.fullRecordByteSize, leftRecordGetter := fun _ _ => .error .outside,
      rightRecordGetter := fun _ _ => .error .outside, rightRecordOffset := 0 }

def recordType (mmdb : MMDB_s) (record : Nat) : RecordType :=
  if record = 0 then .invalid
  else if record < mmdb.metadata.nodeCount then .searchNode
  else if record = mmdb.metadata.nodeCount then .empty
  else if record - mmdb.metadata.nodeCount < mmdb.dataSectionSize then .data
  else .invalid

abbrev MMDB_DATA_SECTION_SEPARATOR : Nat := 16

def dataSectionOffsetForRecord (mmdb : MMDB_s) (record : Nat) : Nat :=
  sub32 (sub32 (u32 record) mmdb.metadata.nodeCount) MMDB_DATA_SECTION_SEPARATOR

/-- `MMDB_search_node_s`; an entry is its offset. -/
structure SearchNode where
  leftRecord : Nat
  rightRecord : Nat
  leftRecordType : RecordType
  rightRecordType : RecordType
  leftRecordEntry : Nat
  rightRecordEntry : Nat

/-- `MMDB_read_node` -/
def readNode (mmdb : MMDB_s) (nodeNumber : Nat) : C SearchNode := do
  let recordInfo := recordInfoForDatabase mmdb
  if recordInfo.rightRecordOffset = 0 then C.fail .unknownDatabaseFormat
  -- the number of the last node is one less
  else if nodeNumber > mmdb.metadata.nodeCount then C.fail .invalidNodeNumber
  else
    let recordPointer := u32 (nodeNumber * recordInfo.recordLength)
    let leftRecord ← recordInfo.leftRecordGetter mmdb recordPointer
    let rightRecord ← recordInfo.rightRecordGetter mmdb (recordPointer + recordInfo.rightRecordOffset)
    return {
      leftRecord, rightRecord
      leftRecordType := recordType mmdb leftRecord
      rightRecordType := recordType mmdb rightRecord
      leftRecordEntry := dataSectionOffsetForRecord mmdb leftRecord
      rightRecordEntry := dataSectionOffsetForRecord mmdb rightRecord }

/-! ## Looking an address up -/

/-- `MMDB_lookup_result_s`; the entry is its offset. -/
structure LookupResult where
  foundEntry : Bool
  offset : Nat
  netmask : Nat
  deriving DecidableEq, Repr

def maybePopulateResult (mmdb : MMDB_s) (record netmask : Nat) (result : LookupResult) : RecordType × LookupResult :=
  match recordType mmdb record with
  | .searchNode => (.searchNode, result)
  | .invalid => (.invalid, result)
  | type =>
    (type, { foundEntry := type = .data, offset := dataSectionOffsetForRecord mmdb record, netmask := mmdb.depth - netmask })

/-- `address[i >> 3] & (1U << (~i & 7)) ? 1 : 0` -/
def bit (address : Data) (i : Nat) : Bool := (address.getD (i >>> 3) 0).toNat &&& (1 <<< (7 - i % 8)) ≠ 0

/-- The loop of `find_address_in_search_tree`, for the bits from `current_bit` down to zero, one
less than the number given. -/
def findFrom (mmdb : MMDB_s) (address : Data) (result : LookupResult) : Nat → Nat → C LookupResult
  | 0, _ => C.fail .corruptSearchTree
  | currentBit + 1, value => do
    let recordInfo := recordInfoForDatabase mmdb
    let recordPointer := u32 (value * recordInfo.recordLength)
    if recordPointer + recordInfo.recordLength > mmdb.dataSection then C.fail .corruptSearchTree
    else
      let value ←
        (if bit address (mmdb.depth - 1 - currentBit) then
          recordInfo.rightRecordGetter mmdb (recordPointer + recordInfo.rightRecordOffset)
        else recordInfo.leftRecordGetter mmdb recordPointer)
      match maybePopulateResult mmdb value currentBit result with
      | (.invalid, _) => C.fail .corruptSearchTree
      | (.searchNode, result) => findFrom mmdb address result currentBit value
      | (_, result) => return result

inductive AddressFamily where
  | inet
  | inet6
  deriving DecidableEq, Repr

def findAddressInSearchTree (mmdb : MMDB_s) (address : Data) (addressFamily : AddressFamily) (result : LookupResult) :
    C LookupResult :=
  if (recordInfoForDatabase mmdb).rightRecordOffset = 0 then C.fail .unknownDatabaseFormat
  else if mmdb.metadata.ipVersion = 6 ∧ addressFamily = .inet then
    match maybePopulateResult mmdb mmdb.ipv4StartNode.nodeValue mmdb.ipv4StartNode.netmask result with
    | (.invalid, _) => C.fail .corruptSearchTree
    | (.searchNode, result) =>
      findFrom mmdb address result (mmdb.depth - mmdb.ipv4StartNode.netmask) mmdb.ipv4StartNode.nodeValue
    | (_, result) => .ok result
  else findFrom mmdb address result mmdb.depth 0

/-- The loop of `find_ipv4_start_node`, for as many more levels as given. -/
def findStartFrom (mmdb : MMDB_s) : Nat → IPv4StartNode → C IPv4StartNode
  | 0, node => .ok node
  | levels + 1, node => do
    let recordInfo := recordInfoForDatabase mmdb
    let recordPointer := u32 (node.nodeValue * recordInfo.recordLength)
    if recordPointer + recordInfo.recordLength > mmdb.dataSection then C.fail .corruptSearchTree
    else
      let nodeValue ← recordInfo.leftRecordGetter mmdb recordPointer
      -- no IPv4 data, or a network that holds all of it: the level is not counted
      if nodeValue ≥ mmdb.metadata.nodeCount then return { node with nodeValue }
      else findStartFrom mmdb levels { netmask := node.netmask + 1, nodeValue }

def findIPv4StartNode (mmdb : MMDB_s) : C MMDB_s := do
  if mmdb.ipv4StartNode.nodeValue ≠ 0 then return mmdb
  else return { mmdb with ipv4StartNode := ← findStartFrom mmdb 96 { netmask := 0, nodeValue := 0 } }

/-- The addresses of `struct sockaddr`. -/
inductive SockAddr where
  | inet (addr : {d : Data // d.length = 4})
  | inet6 (addr : {d : Data // d.length = 16})

/-- `MMDB_lookup_sockaddr` -/
def lookupSockaddr (mmdb : MMDB_s) (sockaddr : SockAddr) : C LookupResult :=
  let result : LookupResult := { foundEntry := false, offset := 0, netmask := 0 }
  if mmdb.metadata.ipVersion = 4 then
    match sockaddr with
    | .inet6 _ => C.fail .ipv6LookupInIPv4Database
    | .inet addr => findAddressInSearchTree mmdb addr .inet result
  else
    match sockaddr with
    | .inet6 addr => findAddressInSearchTree mmdb addr .inet6 result
    | .inet addr => findAddressInSearchTree mmdb (List.replicate 12 0 ++ addr.val) .inet result

/-! ## The tree the nodes make -/

/-- What stands at the end of a path through the nodes. -/
inductive Outcome where
  | empty
  | data (offset : Nat)
  | invalid
  deriving DecidableEq, Repr

/-- Where a record leads. -/
def target (record : Nat) (entry : Nat) : RecordType → Nat ⊕ Outcome
  | .searchNode => .inl record
  | .empty => .inr .empty
  | .data => .inr (.data entry)
  | .invalid => .inr .invalid

/-- The tree, as `MMDB_read_node` shows its nodes. -/
def next (mmdb : MMDB_s) (node : Nat) (b : Bool) : Nat ⊕ Outcome :=
  match readNode mmdb node with
  | .ok n => if b then target n.rightRecord n.rightRecordEntry n.rightRecordType
    else target n.leftRecord n.leftRecordEntry n.leftRecordType
  | .error _ => .inr .invalid

/-- The bits of an address, the most significant of each byte first. -/
def bits (address : Data) : List Bool := address.flatMap fun b => (List.range 8).map fun k => b.toNat.testBit (7 - k)

/-- The bits an address is looked up by from the root. -/
def path (mmdb : MMDB_s) : SockAddr → List Bool
  | .inet addr => if mmdb.metadata.ipVersion = 6 then List.replicate 96 false ++ bits addr else bits addr
  | .inet6 addr => bits addr

/-! ## Reading nodes -/

/-- The search tree lies in the file, before the separator and the data section. -/
structure MMDB_s.Tree (mmdb : MMDB_s) : Prop where
  record : mmdb.fullRecordByteSize = 6 ∨ mmdb.fullRecordByteSize = 7 ∨ mmdb.fullRecordByteSize = 8
  nodes : 0 < mmdb.metadata.nodeCount
  start : mmdb.dataSection = mmdb.metadata.nodeCount * mmdb.fullRecordByteSize + MMDB_DATA_SECTION_SEPARATOR
  word : mmdb.dataSection < 2 ^ 32
  inFile : mmdb.dataSection ≤ mmdb.fileContent.length

/-- The record of a node for a bit of an address. -/
def readRecord (mmdb : MMDB_s) (node : Nat) (b : Bool) : C Nat :=
  let recordInfo := recordInfoForDatabase mmdb
  let recordPointer := u32 (node * recordInfo.recordLength)
  if b then recordInfo.rightRecordGetter mmdb (recordPointer + recordInfo.rightRecordOffset)
  else recordInfo.leftRecordGetter mmdb recordPointer

theorem getLeft28BitRecord_yields {mmdb : MMDB_s} {allowed : Stop → Prop} {p : Nat}
    (h : p + 4 ≤ mmdb.fileContent.length) : Yields allowed (fun _ => True) (getLeft28BitRecord mmdb p) := by
  refine (byte_yields (by omega)).bind fun _ _ => (byte_yields (by omega)).bind fun _ _ => ?_
  exact (byte_yields (by omega)).bind fun _ _ => (byte_yields (by omega)).bind fun _ _ => trivial

theorem getRight28BitRecord_yields {mmdb : MMDB_s} {allowed : Stop → Prop} {p : Nat}
    (h : p + 4 ≤ mmdb.fileContent.length) : Yields allowed (fun _ => True) (getRight28BitRecord mmdb p) :=
  (getUint32_yields h).bind fun _ _ => trivial

namespace MMDB_s.Tree

variable {mmdb : MMDB_s} (ht : mmdb.Tree)
include ht

theorem recordLength_eq : (recordInfoForDatabase mmdb).recordLength = mmdb.fullRecordByteSize := by
  unfold recordInfoForDatabase
  obtain h | h | h := ht.record <;> simp [h]

theorem rightRecordOffset_ne : (recordInfoForDatabase mmdb).rightRecordOffset ≠ 0 := by
  unfold recordInfoForDatabase
  obtain h | h | h := ht.record <;> simp [h]

/-- The records of a node lie in the tree. -/
theorem node_le {node : Nat} (hn : node < mmdb.metadata.nodeCount) :
    node * mmdb.fullRecordByteSize + mmdb.fullRecordByteSize + MMDB_DATA_SECTION_SEPARATOR ≤ mmdb.dataSection := by
  rw [ht.start, ← Nat.succ_mul]
  exact Nat.add_le_add_right (Nat.mul_le_mul_right _ hn) _

theorem pointer_eq {node : Nat} (hn : node < mmdb.metadata.nodeCount) :
    u32 (node * (recordInfoForDatabase mmdb).recordLength) = node * mmdb.fullRecordByteSize := by
  have hle := ht.node_le hn
  have hword := ht.word
  rw [ht.recordLength_eq, u32_of_lt (by omega)]

theorem readRecord_ok {node : Nat} (hn : node < mmdb.metadata.nodeCount) (b : Bool) :
    ∃ r, readRecord mmdb node b = .ok r := by
  have hle := ht.node_le hn
  have hfile := ht.inFile
  have hyields : Yields (fun _ => False) (fun _ => True) (readRecord mmdb node b) := by
    rw [readRecord, ht.pointer_eq hn]
    unfold recordInfoForDatabase
    obtain h | h | h := ht.record <;> rw [h] at hle ⊢ <;> cases b
    · exact (getUint24_yields (by omega)).mono fun _ _ => trivial
    · exact (getUint24_yields (show _ + 3 + 3 ≤ _ by omega)).mono fun _ _ => trivial
    · exact getLeft28BitRecord_yields (by omega)
    · exact getRight28BitRecord_yields (show _ + 3 + 4 ≤ _ by omega)
    · exact (getUint32_yields (by omega)).mono fun _ _ => trivial
    · exact (getUint32_yields (show _ + 4 + 4 ≤ _ by omega)).mono fun _ _ => trivial
  obtain ⟨r, hr, -⟩ := hyields.exists_ok
  exact ⟨r, hr⟩

/-- A node of the tree, as it is read. -/
theorem readNode_eq {node l r : Nat} (hn : node < mmdb.metadata.nodeCount) (hl : readRecord mmdb node false = .ok l)
    (hr : readRecord mmdb node true = .ok r) :
    readNode mmdb node = .ok {
      leftRecord := l
      rightRecord := r
      leftRecordType := recordType mmdb l
      rightRecordType := recordType mmdb r
      leftRecordEntry := dataSectionOffsetForRecord mmdb l
      rightRecordEntry := dataSectionOffsetForRecord mmdb r } := by
  replace hl : (recordInfoForDatabase mmdb).leftRecordGetter mmdb
      (u32 (node * (recordInfoForDatabase mmdb).recordLength)) = .ok l := hl
  replace hr : (recordInfoForDatabase mmdb).rightRecordGetter mmdb
      (u32 (node * (recordInfoForDatabase mmdb).recordLength) + (recordInfoForDatabase mmdb).rightRecordOffset) = .ok r := hr
  rw [readNode, if_neg ht.rightRecordOffset_ne, if_neg (by omega)]
  simp only [hl, hr, ok_bind, pure_eq_ok]

/-- Where the tree leads is told by the record. -/
theorem next_eq {node r : Nat} {b : Bool} (hn : node < mmdb.metadata.nodeCount) (hr : readRecord mmdb node b = .ok r) :
    next mmdb node b = target r (dataSectionOffsetForRecord mmdb r) (recordType mmdb r) := by
  cases b with
  | false =>
    obtain ⟨r', hr'⟩ := ht.readRecord_ok hn true
    rw [next, ht.readNode_eq hn hr hr']
    rfl
  | true =>
    obtain ⟨l, hl⟩ := ht.readRecord_ok hn false
    rw [next, ht.readNode_eq hn hl hr]
    rfl

end MMDB_s.Tree

theorem target_eq_inl {mmdb : MMDB_s} {r entry t : Nat} (h : target r entry (recordType mmdb r) = .inl t) :
    t = r ∧ recordType mmdb r = .searchNode ∧ t < mmdb.metadata.nodeCount := by
  rcases hr : recordType mmdb r with _ | _ | _ | _ <;> rw [hr] at h <;> cases h
  refine ⟨rfl, rfl, ?_⟩
  unfold recordType at hr
  split at hr
  · cases hr
  · split at hr
    · assumption
    · split at hr
      · cases hr
      · split at hr <;> cases hr

/-! ## The bits of an address -/

theorem bits_cons (b : UInt8) (address : Data) :
    bits (b :: address) = ((List.range 8).map fun k => b.toNat.testBit (7 - k)) ++ bits address := rfl

theorem length_bits (address : Data) : (bits address).length = 8 * address.length := by
  induction address with
  | nil => rfl
  | cons b address ih =>
    rw [bits_cons, List.length_append, ih, List.length_map, List.length_range, List.length_cons]
    omega

theorem bit_eq_testBit (address : Data) (i : Nat) :
    bit address i = (address.getD (i >>> 3) 0).toNat.testBit (7 - i % 8) := by
  rw [bit, Nat.one_shiftLeft, Nat.and_two_pow]
  cases (address.getD (i >>> 3) 0).toNat.testBit (7 - i % 8) <;> simp

theorem bits_getElem? {address : Data} {i : Nat} (hi : i < 8 * address.length) :
    (bits address)[i]? = some (bit address i) := by
  induction address generalizing i with
  | nil => simp at hi
  | cons b address ih =>
    rw [List.length_cons] at hi
    rw [bits_cons]
    by_cases h8 : i < 8
    · have hzero : i >>> 3 = 0 := by rw [Nat.shiftRight_eq_div_pow]; omega
      rw [List.getElem?_append_left (by simpa using h8), bit_eq_testBit, hzero, Nat.mod_eq_of_lt h8]
      simp [h8]
    · have hshift : i >>> 3 = (i - 8) >>> 3 + 1 := by
        rw [Nat.shiftRight_eq_div_pow, Nat.shiftRight_eq_div_pow]
        omega
      have hmod : i % 8 = (i - 8) % 8 := by omega
      rw [List.getElem?_append_right (by simpa using h8), List.length_map, List.length_range, ih (by omega),
        bit_eq_testBit, bit_eq_testBit, hshift, hmod, List.getD_cons_succ]

theorem drop_bits {address : Data} {i : Nat} (hi : i < 8 * address.length) :
    (bits address).drop i = bit address i :: (bits address).drop (i + 1) := by
  have hlt : i < (bits address).length := by rw [length_bits]; exact hi
  rw [List.drop_eq_getElem_cons hlt]
  have hget := bits_getElem? hi
  rw [List.getElem?_eq_getElem hlt] at hget
  rw [Option.some.inj hget]

/-! ## The search -/

/-- What the search answers for an outcome that stands `netmask` bits deep; where there is no data
the entry lies past the end of any data section. -/
def Outcome.answer (netmask : Nat) : Outcome → C LookupResult
  | .empty => .ok { foundEntry := false, offset := 2 ^ 32 - MMDB_DATA_SECTION_SEPARATOR, netmask }
  | .data offset => .ok { foundEntry := true, offset, netmask }
  | .invalid => C.fail .corruptSearchTree

namespace MMDB_s.Tree

variable {mmdb : MMDB_s} (ht : mmdb.Tree)
include ht

theorem nodeCount_lt : mmdb.metadata.nodeCount < 2 ^ 32 := by
  have hword := ht.word
  have hstart := ht.start
  have hmul : mmdb.metadata.nodeCount * 1 ≤ mmdb.metadata.nodeCount * mmdb.fullRecordByteSize :=
    Nat.mul_le_mul_left _ (by have := ht.record; omega)
  omega

theorem emptyOffset_eq : dataSectionOffsetForRecord mmdb mmdb.metadata.nodeCount = 2 ^ 32 - MMDB_DATA_SECTION_SEPARATOR := by
  have hlt := ht.nodeCount_lt
  rw [dataSectionOffsetForRecord, u32_of_lt hlt, sub32_of_le hlt (Nat.le_refl _), Nat.sub_self, sub32,
    Nat.zero_add, Nat.mod_eq_of_lt (Nat.sub_lt (Nat.two_pow_pos 32) (by decide))]

/-- What a record says: to go on with a node, or the answer. -/
theorem populate_cases (r netmask : Nat) (result : LookupResult) :
    (∃ t, target r (dataSectionOffsetForRecord mmdb r) (recordType mmdb r) = .inl t ∧ t = r ∧
        maybePopulateResult mmdb r netmask result = (.searchNode, result)) ∨
      (target r (dataSectionOffsetForRecord mmdb r) (recordType mmdb r) = .inr .invalid ∧
        maybePopulateResult mmdb r netmask result = (.invalid, result)) ∨
      ∃ o a type, target r (dataSectionOffsetForRecord mmdb r) (recordType mmdb r) = .inr o ∧
        o.answer (mmdb.depth - netmask) = .ok a ∧ maybePopulateResult mmdb r netmask result = (type, a) ∧
        (type = .data ∨ type = .empty) := by
  unfold maybePopulateResult
  rcases hr : recordType mmdb r with _ | _ | _ | _
  · exact .inl ⟨r, rfl, rfl, rfl⟩
  · have hrecord : r = mmdb.metadata.nodeCount := by
      unfold recordType at hr
      split at hr
      · cases hr
      · split at hr
        · cases hr
        · split at hr
          · assumption
          · split at hr <;> cases hr
    refine .inr (.inr ⟨.empty, _, .empty, rfl, rfl, ?_, .inr rfl⟩)
    rw [hrecord, ht.emptyOffset_eq]
    rfl
  · exact .inr (.inr ⟨.data _, _, .data, rfl, rfl, rfl, .inl rfl⟩)
  · exact .inr (.inl ⟨rfl, rfl⟩)

/-- One turn of the loop. -/
theorem findFrom_succ {address : Data} {result : LookupResult} {currentBit value r : Nat}
    (hv : value < mmdb.metadata.nodeCount)
    (hr : readRecord mmdb value (bit address (mmdb.depth - 1 - currentBit)) = .ok r) :
    findFrom mmdb address result (currentBit + 1) value =
      match target r (dataSectionOffsetForRecord mmdb r) (recordType mmdb r) with
      | .inl t => findFrom mmdb address result currentBit t
      | .inr o => o.answer (mmdb.depth - currentBit) := by
  have hle := ht.node_le hv
  have hpointer : ¬ u32 (value * (recordInfoForDatabase mmdb).recordLength) + (recordInfoForDatabase mmdb).recordLength >
      mmdb.dataSection := by
    rw [ht.pointer_eq hv, ht.recordLength_eq]
    omega
  rw [findFrom, if_neg hpointer]
  change (readRecord mmdb value (bit address (mmdb.depth - 1 - currentBit)) >>= _) = _
  rw [hr, ok_bind]
  obtain ⟨t, htarget, rfl, hpop⟩ | ⟨htarget, hpop⟩ | ⟨o, a, type, htarget, hanswer, hpop, rfl | rfl⟩ :=
    ht.populate_cases r currentBit result
  · rw [htarget, hpop]
  · rw [htarget, hpop]; rfl
  · rw [htarget, hpop]; exact hanswer.symm
  · rw [htarget, hpop]; exact hanswer.symm

/-- The search from a node is the descent from it by the bits that are left. -/
theorem findFrom_eq {address : Data} {result : LookupResult} (hlen : 8 * address.length = mmdb.depth) {left value : Nat}
    (hleft : left ≤ mmdb.depth) (hv : value < mmdb.metadata.nodeCount) :
    findFrom mmdb address result left value =
      match descend (next mmdb) value ((bits address).drop (mmdb.depth - left)) with
      | .inr (o, n) => o.answer (mmdb.depth - left + n)
      | .inl _ => C.fail .corruptSearchTree := by
  induction left generalizing value with
  | zero =>
    rw [Nat.sub_zero, List.drop_of_length_le (by rw [length_bits]; omega), descend_nil]
    rfl
  | succ left ih =>
    have hindex : mmdb.depth - (left + 1) = mmdb.depth - 1 - left := by omega
    have hdrop : mmdb.depth - 1 - left + 1 = mmdb.depth - left := by omega
    obtain ⟨r, hr⟩ := ht.readRecord_ok hv (bit address (mmdb.depth - 1 - left))
    have hnext := ht.next_eq hv hr
    rw [ht.findFrom_succ hv hr, ← hnext, hindex, drop_bits (by omega), hdrop]
    rcases h : next mmdb value (bit address (mmdb.depth - 1 - left)) with t | o
    · obtain ⟨-, -, htlt⟩ := target_eq_inl (hnext.symm.trans h)
      rw [descend_cons_inl h]
      dsimp only
      rw [ih (by omega) htlt]
      rcases descend (next mmdb) t ((bits address).drop (mmdb.depth - left)) with u | ⟨o, n⟩
      · rfl
      · have hn : mmdb.depth - left + n = mmdb.depth - 1 - left + (n + 1) := by omega
        simp only [Sum.map_inr, hn]
    · rw [descend_cons_inr h]
      simp only [hdrop]

end MMDB_s.Tree

/-! ## The start of the IPv4 addresses -/

/-- No left record leads back to the root. -/
def MMDB_s.Rooted (mmdb : MMDB_s) : Prop :=
  ∀ node n, node < mmdb.metadata.nodeCount → readNode mmdb node = .ok n → n.leftRecord ≠ 0

/-- The start node is where zeros lead from the root, or the record they leave the tree by. -/
theorem MMDB_s.Tree.findStartFrom_spec {mmdb : MMDB_s} (ht : mmdb.Tree) (hroot : mmdb.Rooted) (levels : Nat)
    (node : IPv4StartNode) (hv : node.nodeValue < mmdb.metadata.nodeCount) :
    (∃ t, descend (next mmdb) node.nodeValue (List.replicate levels false) = .inl t ∧
        findStartFrom mmdb levels node = .ok { netmask := node.netmask + levels, nodeValue := t } ∧
        t < mmdb.metadata.nodeCount ∧ (levels = 0 ∨ recordType mmdb t = .searchNode)) ∨
      ∃ o n r, descend (next mmdb) node.nodeValue (List.replicate levels false) = .inr (o, n + 1) ∧
        findStartFrom mmdb levels node = .ok { netmask := node.netmask + n, nodeValue := r } ∧
        target r (dataSectionOffsetForRecord mmdb r) (recordType mmdb r) = .inr o := by
  induction levels generalizing node with
  | zero => exact .inl ⟨_, rfl, rfl, hv, .inl rfl⟩
  | succ levels ih =>
    obtain ⟨l, hl⟩ := ht.readRecord_ok hv false
    obtain ⟨r, hr⟩ := ht.readRecord_ok hv true
    have hne : l ≠ 0 := hroot _ _ hv (ht.readNode_eq hv hl hr)
    have hle := ht.node_le hv
    have hpointer : ¬ u32 (node.nodeValue * (recordInfoForDatabase mmdb).recordLength) +
        (recordInfoForDatabase mmdb).recordLength > mmdb.dataSection := by
      rw [ht.pointer_eq hv, ht.recordLength_eq]
      omega
    have hstep : findStartFrom mmdb (levels + 1) node =
        if l ≥ mmdb.metadata.nodeCount then .ok { node with nodeValue := l }
        else findStartFrom mmdb levels { netmask := node.netmask + 1, nodeValue := l } := by
      rw [findStartFrom, if_neg hpointer]
      change (readRecord mmdb node.nodeValue false >>= _) = _
      rw [hl, ok_bind]
      rfl
    have hnext := ht.next_eq hv hl
    rw [List.replicate_succ, hstep]
    by_cases hlt : l < mmdb.metadata.nodeCount
    · -- another node, one level down
      have htype : recordType mmdb l = .searchNode := by rw [recordType, if_neg hne, if_pos hlt]
      rw [htype] at hnext
      rw [if_neg (Nat.not_le.2 hlt), descend_cons_inl hnext]
      obtain ⟨t, hd, hf, ht, hlast⟩ | ⟨o, n, s, hd, hf, htarget⟩ :=
        ih { netmask := node.netmask + 1, nodeValue := l } hlt
      · refine .inl ⟨t, ?_, ?_, ht, .inr ?_⟩
        · rw [hd]; rfl
        · rw [hf, Nat.add_right_comm, Nat.add_assoc]
        · rcases hlast with rfl | hlast
          · cases hd
            exact htype
          · exact hlast
      · refine .inr ⟨o, n + 1, s, ?_, ?_, htarget⟩
        · rw [hd]; rfl
        · rw [hf, Nat.add_right_comm, Nat.add_assoc]
    · -- the record leaves the tree
      rw [if_pos (Nat.not_lt.1 hlt)]
      rcases htarget : target l (dataSectionOffsetForRecord mmdb l) (recordType mmdb l) with t | o
      · obtain ⟨rfl, -, h⟩ := target_eq_inl htarget
        exact absurd h hlt
      · rw [htarget] at hnext
        exact .inr ⟨o, 0, l, descend_cons_inr hnext _, rfl, htarget⟩

/-! ## Every address -/

/-- What opening a database leaves. -/
structure MMDB_s.Opened (mmdb : MMDB_s) : Prop where
  tree : mmdb.Tree
  bounded : mmdb.Bounded
  version : mmdb.metadata.ipVersion = 4 ∧ mmdb.depth = 32 ∨ mmdb.metadata.ipVersion = 6 ∧ mmdb.depth = 128
  start : mmdb.metadata.ipVersion = 6 → findStartFrom mmdb 96 { netmask := 0, nodeValue := 0 } = .ok mmdb.ipv4StartNode
  pastEnd : mmdb.dataSectionSize ≤ 2 ^ 32 - MMDB_DATA_SECTION_SEPARATOR

/-- The netmask reported for an outcome `n` bits deep: for an IPv4 address in an IPv6 database that
no node is left for below the first 96 zeros, one less than the bits beside the `n`. -/
def reportedNetmask (mmdb : MMDB_s) (n : Nat) : SockAddr → Nat
  | .inet _ => if mmdb.metadata.ipVersion = 6 ∧ n ≤ 96 then 129 - n else n
  | .inet6 _ => n

theorem bits_mapped (addr : Data) : bits (List.replicate 12 0 ++ addr) = List.replicate 96 false ++ bits addr := by
  have hzeros : bits (List.replicate 12 0) = List.replicate 96 false := by decide
  rw [← hzeros]
  exact List.flatMap_append

/-- A search that begins at the root. -/
theorem MMDB_s.Tree.findAddress_root {mmdb : MMDB_s} (ht : mmdb.Tree) {address : Data} {family : AddressFamily}
    {result : LookupResult} (hlen : 8 * address.length = mmdb.depth)
    (hfamily : ¬ (mmdb.metadata.ipVersion = 6 ∧ family = .inet)) :
    findAddressInSearchTree mmdb address family result =
      match descend (next mmdb) 0 (bits address) with
      | .inr (o, n) => o.answer n
      | .inl _ => C.fail .corruptSearchTree := by
  rw [findAddressInSearchTree, if_neg ht.rightRecordOffset_ne, if_neg hfamily,
    ht.findFrom_eq hlen (Nat.le_refl _) ht.nodes, Nat.sub_self, List.drop_zero]
  simp only [Nat.zero_add]

/-- Where the record of the start node leads out of the tree, it is the answer, whatever the search would be. -/
theorem MMDB_s.Tree.populate_of_target {mmdb : MMDB_s} (ht : mmdb.Tree) {r : Nat} {o : Outcome}
    (htarget : target r (dataSectionOffsetForRecord mmdb r) (recordType mmdb r) = .inr o) (netmask : Nat)
    (search : LookupResult → C LookupResult) :
    (match maybePopulateResult mmdb r netmask { foundEntry := false, offset := 0, netmask := 0 } with
      | (.invalid, _) => C.fail .corruptSearchTree
      | (.searchNode, result) => search result
      | (_, result) => .ok result) = o.answer (mmdb.depth - netmask) := by
  obtain ⟨t, h, -⟩ | ⟨h, hpop⟩ | ⟨o', a, type, h, hanswer, hpop, rfl | rfl⟩ :=
    ht.populate_cases r netmask { foundEntry := false, offset := 0, netmask := 0 }
  · cases htarget.symm.trans h
  · cases htarget.symm.trans h
    rw [hpop]
    rfl
  · cases htarget.symm.trans h
    rw [hpop]
    exact hanswer.symm
  · cases htarget.symm.trans h
    rw [hpop]
    exact hanswer.symm

/-- The search for an IPv4 address in an IPv6 database, which begins at the start node. -/
theorem MMDB_s.Opened.findAddress_start {mmdb : MMDB_s} (ho : mmdb.Opened) (hver : mmdb.metadata.ipVersion = 6)
    (hdepth : mmdb.depth = 128) (hroot : mmdb.Rooted) {addr : Data} (hlen : addr.length = 4) :
    findAddressInSearchTree mmdb (List.replicate 12 0 ++ addr) .inet { foundEntry := false, offset := 0, netmask := 0 } =
      match descend (next mmdb) 0 (List.replicate 96 false ++ bits addr) with
      | .inr (o, n) => o.answer (if n ≤ 96 then 129 - n else n)
      | .inl _ => C.fail .corruptSearchTree := by
  have ht := ho.tree
  have hlen' : 8 * (List.replicate 12 0 ++ addr).length = mmdb.depth := by
    rw [List.length_append, List.length_replicate, hlen, hdepth]
  have hbits : (bits (List.replicate 12 0 ++ addr)).drop 96 = bits addr := by
    rw [bits_mapped]
    exact List.drop_left' (by rw [List.length_replicate])
  rw [findAddressInSearchTree, if_neg ht.rightRecordOffset_ne, if_pos ⟨hver, rfl⟩, descend_append]
  have hstart := ho.start hver
  obtain ⟨t, hd, hf, htlt, hlast⟩ | ⟨o, n, r, hd, hf, htarget⟩ :=
    ht.findStartFrom_spec hroot 96 { netmask := 0, nodeValue := 0 } ht.nodes
  · -- the search goes on below the start node
    have hnode := Except.ok.inj (hstart.symm.trans hf)
    have htype := hlast.resolve_left (by omega)
    dsimp only at hd
    rw [hnode, hd, maybePopulateResult, htype]
    dsimp only
    rw [hdepth, ht.findFrom_eq hlen' (by omega) htlt, hdepth]
    have hdrop : 128 - (128 - (0 + 96)) = 96 := rfl
    rw [hdrop, hbits]
    rcases hr : descend (next mmdb) t (bits addr) with u | ⟨o, n⟩
    · rfl
    · have hpos := (descend_bounds hr).1
      simp only [Sum.map_inr, List.length_replicate]
      rw [if_neg (by omega), Nat.add_comm]
  · -- the answer is the start node's
    have hnode := Except.ok.inj (hstart.symm.trans hf)
    have hn := (descend_bounds hd).2
    rw [List.length_replicate] at hn
    dsimp only at hd
    have hmask : 129 - (n + 1) = mmdb.depth - (0 + n) := by omega
    rw [hnode, hd]
    dsimp only
    rw [if_pos hn, hmask]
    exact ht.populate_of_target htarget (0 + n) _

/-- Looking an address up is the descent from the root by its bits. -/
theorem MMDB_s.Opened.lookupSockaddr_eq {mmdb : MMDB_s} (ho : mmdb.Opened)
    (hroot : mmdb.metadata.ipVersion = 6 → mmdb.Rooted) {sockaddr : SockAddr}
    (hfamily : mmdb.metadata.ipVersion = 4 → ∃ addr, sockaddr = .inet addr) :
    lookupSockaddr mmdb sockaddr =
      match descend (next mmdb) 0 (path mmdb sockaddr) with
      | .inr (o, n) => o.answer (reportedNetmask mmdb n sockaddr)
      | .inl _ => C.fail .corruptSearchTree := by
  obtain ⟨hver, hdepth⟩ | ⟨hver, hdepth⟩ := ho.version
  · obtain ⟨addr, rfl⟩ := hfamily hver
    have hlen : 8 * addr.val.length = mmdb.depth := by rw [addr.property, hdepth]
    rw [lookupSockaddr, if_pos hver, ho.tree.findAddress_root hlen (by omega)]
    simp only [path, reportedNetmask, hver]
    rfl
  · have hnot : mmdb.metadata.ipVersion ≠ 4 := by omega
    cases sockaddr with
    | inet6 addr =>
      have hlen : 8 * addr.val.length = mmdb.depth := by rw [addr.property, hdepth]
      rw [lookupSockaddr, if_neg hnot, ho.tree.findAddress_root hlen (by simp)]
      rfl
    | inet addr =>
      rw [lookupSockaddr, if_neg hnot, ho.findAddress_start hver hdepth (hroot hver) addr.property]
      simp only [path, reportedNetmask, hver, true_and, if_true]

end VpnSs.MMDB
