/-
libmaxminddb's database in memory: the mapped file with its sections, reading bytes and words of
it, and decoding one entry of the data section. A read outside the file has no defined result and
stops the computation; within a section of at least three bytes that lies in the file no decoding
reads outside it, and it moves forward.
-/
import VpnSs.Lib.Except
import VpnSs.Swift.Data
import Mathlib.Algebra.Group.Nat.Defs

namespace VpnSs.MMDB

open VpnSs.Swift VpnSs.Except

/-! ## Words -/

/-- Arithmetic of `uint32_t`. -/
def u32 (n : Nat) : Nat := n % 2 ^ 32

@[irreducible] def sub32 (a b : Nat) : Nat := (a + 2 ^ 32 - b) % 2 ^ 32

theorem u32_of_lt {n : Nat} (h : n < 2 ^ 32) : u32 n = n := Nat.mod_eq_of_lt h

theorem u32_lt (n : Nat) : u32 n < 2 ^ 32 := Nat.mod_lt _ (Nat.two_pow_pos 32)

theorem sub32_of_le {a b : Nat} (ha : a < 2 ^ 32) (h : b ≤ a) : sub32 a b = a - b := by
  unfold sub32
  omega

/-! ## The database -/

/-- The error codes the modelled functions return. -/
inductive Status where
  | corruptSearchTree
  | invalidMetadata
  | unknownDatabaseFormat
  | invalidData
  | lookupPathDoesNotMatchData
  | invalidNodeNumber
  | ipv6LookupInIPv4Database
  deriving DecidableEq, Repr

/-- What stops a function: a read outside the mapped file, or through a null pointer, which has no
defined result; the bound on nested calls that the model of a recursion without one carries; or a
status other than `MMDB_SUCCESS`. -/
inductive Stop where
  | outside
  | tooDeep
  | status (s : Status)
  deriving DecidableEq, Repr

abbrev C := Except Stop

abbrev C.fail {α : Type} (s : Status) : C α := .error (.status s)

/-- The computation is sound: it stays inside the file and within its bounds, and a value it
gives has the property. -/
abbrev Sound {α : Type} (P : α → Prop) (x : C α) : Prop := Yields (fun e => ∃ s, e = .status s) P x

theorem Sound.fail {α : Type} {P : α → Prop} (s : Status) : Sound P (C.fail s) := ⟨s, rfl⟩

/-- `MMDB_ipv4_start_node_s` -/
structure IPv4StartNode where
  netmask : Nat
  nodeValue : Nat
  deriving DecidableEq, Repr

/-- `MMDB_metadata_s` -/
structure Metadata where
  nodeCount : Nat
  recordSize : Nat
  ipVersion : Nat
  databaseType : Data
  languages : List Data
  binaryFormatMajorVersion : Nat
  binaryFormatMinorVersion : Nat
  buildEpoch : Nat
  description : List (Data × Data)
  deriving DecidableEq, Repr

/-- `MMDB_s`; the sections are given by where they start in the file. -/
structure MMDB_s where
  fileContent : Data
  dataSection : Nat
  dataSectionSize : Nat
  metadataSection : Nat
  metadataSectionSize : Nat
  fullRecordByteSize : Nat
  depth : Nat
  ipv4StartNode : IPv4StartNode
  metadata : Metadata
  deriving DecidableEq, Repr

/-- `file_content[p]` -/
def MMDB_s.byte (mmdb : MMDB_s) (p : Nat) : C Nat :=
  match mmdb.fileContent[p]? with
  | some b => .ok b.toNat
  | none => .error .outside

/-- The `n` bytes from `p` on. -/
def MMDB_s.bytes (mmdb : MMDB_s) (p n : Nat) : C Data :=
  if p + n ≤ mmdb.fileContent.length then .ok ((mmdb.fileContent.drop p).take n) else .error .outside

/-- `mem[offset]`, of the data section. -/
def MMDB_s.mem (mmdb : MMDB_s) (offset : Nat) : C Nat := mmdb.byte (mmdb.dataSection + offset)

/-- `get_uintX`: the most significant byte comes first. -/
def getUintX (mmdb : MMDB_s) (p : Nat) : Nat → C Nat
  | 0 => .ok 0
  | length + 1 => do
    let value ← getUintX mmdb p length
    let b ← mmdb.byte (p + length)
    return value * 256 + b

def getUint32 (mmdb : MMDB_s) (p : Nat) : C Nat := do
  return (← mmdb.byte p) * 16777216 + (← mmdb.byte (p + 1)) * 65536 + (← mmdb.byte (p + 2)) * 256 +
    (← mmdb.byte (p + 3))

def getUint24 (mmdb : MMDB_s) (p : Nat) : C Nat := do
  return (← mmdb.byte p) * 65536 + (← mmdb.byte (p + 1)) * 256 + (← mmdb.byte (p + 2))

def getUint16 (mmdb : MMDB_s) (p : Nat) : C Nat := do
  return (← mmdb.byte p) * 256 + (← mmdb.byte (p + 1))

/-! ## The data section -/

abbrev MMDB_DATA_TYPE_EXTENDED : Nat := 0
abbrev MMDB_DATA_TYPE_POINTER : Nat := 1
abbrev MMDB_DATA_TYPE_MAP : Nat := 7
abbrev MMDB_DATA_TYPE_ARRAY : Nat := 11
abbrev MMDB_DATA_TYPE_BOOLEAN : Nat := 14

/-- What an entry holds, by its type. Strings, numbers in floating point and numbers of 128 bits
are given by their bytes, which the code reads from the file when it uses them. -/
inductive EntryValue where
  | pointer (pointer : Nat)
  | utf8String (bytes : Data)
  | double (bytes : Data)
  | bytes (bytes : Data)
  | uint16 (n : Nat)
  | uint32 (n : Nat)
  | map (size : Nat)
  | int32 (n : Int)
  | uint64 (n : Nat)
  | uint128 (bytes : Data)
  | array (size : Nat)
  | boolean (b : Bool)
  | float (bytes : Data)
  | other (type : Nat)
  deriving DecidableEq, Repr

/-- `MMDB_entry_data_s` -/
structure EntryData where
  offset : Nat
  offsetToNext : Nat
  value : EntryValue
  deriving DecidableEq, Repr

def getExtType (rawExtType : Nat) : Nat := 7 + rawExtType

def getPtrFrom (mmdb : MMDB_s) (ctrl p : Nat) : Nat → C Nat
  | 1 => do return ((ctrl &&& 7) <<< 8) + (← mmdb.byte p)
  | 2 => do return 2048 + ((ctrl &&& 7) <<< 16) + ((← mmdb.byte p) <<< 8) + (← mmdb.byte (p + 1))
  | 3 => do return 2048 + 524288 + ((ctrl &&& 7) <<< 24) + (← getUint24 mmdb p)
  | _ => getUint32 mmdb p

/-- The type the control byte tells, with the offset after it. -/
def decodeType (mmdb : MMDB_s) (ctrl offset : Nat) : C (Nat × Nat) := do
  let type := (ctrl >>> 5) &&& 7
  if type = MMDB_DATA_TYPE_EXTENDED then
    if offset > sub32 mmdb.dataSectionSize 1 then C.fail .invalidData
    else return (getExtType (← mmdb.mem offset), offset + 1)
  else return (type, offset)

def decodePointer (mmdb : MMDB_s) (start ctrl offset : Nat) : C EntryData := do
  let psize := ((ctrl >>> 3) &&& 3) + 1
  if offset > sub32 mmdb.dataSectionSize psize ∨ mmdb.dataSectionSize < psize then C.fail .invalidData
  else
    let pointer ← getPtrFrom mmdb ctrl (mmdb.dataSection + offset) psize
    return { offset := start, offsetToNext := offset + psize, value := .pointer pointer }

/-- The size the control byte tells, with the offset after it. -/
def decodeSize (mmdb : MMDB_s) (ctrl offset : Nat) : C (Nat × Nat) := do
  let size := ctrl &&& 31
  if size = 29 then
    if offset > sub32 mmdb.dataSectionSize 1 then C.fail .invalidData
    else return (29 + (← mmdb.mem offset), offset + 1)
  else if size = 30 then
    if offset > sub32 mmdb.dataSectionSize 2 then C.fail .invalidData
    else return (285 + (← getUint16 mmdb (mmdb.dataSection + offset)), offset + 2)
  else if size = 31 then
    if offset > sub32 mmdb.dataSectionSize 3 then C.fail .invalidData
    else return (65821 + (← getUint24 mmdb (mmdb.dataSection + offset)), offset + 3)
  else return (size, offset)

/-- A value of `size` bytes at `p`. -/
def decodeValue (mmdb : MMDB_s) (type p size : Nat) : C EntryValue :=
  match type with
  | 2 => do return .utf8String (← mmdb.bytes p size)
  | 3 => do
    if size ≠ 8 then C.fail .invalidData else return .double (← mmdb.bytes p size)
  | 4 => do return .bytes (← mmdb.bytes p size)
  | 5 => do
    if size > 2 then C.fail .invalidData else return .uint16 (← getUintX mmdb p size)
  | 6 => do
    if size > 4 then C.fail .invalidData else return .uint32 (← getUintX mmdb p size)
  | 8 => do
    if size > 4 then C.fail .invalidData
    else return .int32 (Int.bmod (← getUintX mmdb p size) (2 ^ 32))
  | 9 => do
    if size > 8 then C.fail .invalidData else return .uint64 (← getUintX mmdb p size)
  | 10 => do
    if size > 16 then C.fail .invalidData else return .uint128 (← mmdb.bytes p size)
  | 15 => do
    if size ≠ 4 then C.fail .invalidData else return .float (← mmdb.bytes p size)
  | type => return .other type

def decodeOne (mmdb : MMDB_s) (start : Nat) : C EntryData := do
  if start > sub32 mmdb.dataSectionSize 1 then C.fail .invalidData
  else
    let ctrl ← mmdb.mem start
    let (type, offset) ← decodeType mmdb ctrl (start + 1)
    if type = MMDB_DATA_TYPE_POINTER then decodePointer mmdb start ctrl offset
    else
      let (size, offset) ← decodeSize mmdb ctrl offset
      if type = MMDB_DATA_TYPE_MAP then return { offset := start, offsetToNext := offset, value := .map size }
      else if type = MMDB_DATA_TYPE_ARRAY then return { offset := start, offsetToNext := offset, value := .array size }
      else if type = MMDB_DATA_TYPE_BOOLEAN then
        return { offset := start, offsetToNext := offset, value := .boolean (size ≠ 0) }
      else if offset > sub32 mmdb.dataSectionSize size ∨ mmdb.dataSectionSize < size then C.fail .invalidData
      else
        let value ← decodeValue mmdb type (mmdb.dataSection + offset) size
        return { offset := start, offsetToNext := offset + size, value }

/-! ## Reading inside the file -/

section Reading

variable {mmdb : MMDB_s} {allowed : Stop → Prop} {p n : Nat}

theorem byte_yields (h : p < mmdb.fileContent.length) : Yields allowed (· < 256) (mmdb.byte p) := by
  rw [MMDB_s.byte, List.getElem?_eq_getElem h]
  exact UInt8.toNat_lt _

theorem bytes_yields (h : p + n ≤ mmdb.fileContent.length) : Yields allowed (fun d => d.length = n) (mmdb.bytes p n) := by
  rw [MMDB_s.bytes, if_pos h]
  show List.length _ = n
  rw [List.length_take, List.length_drop]
  omega

theorem getUintX_yields (h : p + n ≤ mmdb.fileContent.length) : Yields allowed (· < 256 ^ n) (getUintX mmdb p n) := by
  induction n with
  | zero => exact Nat.one_pos
  | succ n ih =>
    refine (ih (by omega)).bind fun v hv => (byte_yields (by omega)).bind fun b hb => ?_
    show v * 256 + b < 256 ^ (n + 1)
    rw [Nat.pow_succ]
    omega

theorem getUint32_yields (h : p + 4 ≤ mmdb.fileContent.length) : Yields allowed (· < 2 ^ 32) (getUint32 mmdb p) := by
  refine (byte_yields (by omega)).bind fun b0 h0 => (byte_yields (by omega)).bind fun b1 h1 => ?_
  refine (byte_yields (by omega)).bind fun b2 h2 => (byte_yields (by omega)).bind fun b3 h3 => ?_
  show _ < _
  omega

theorem getUint24_yields (h : p + 3 ≤ mmdb.fileContent.length) : Yields allowed (· < 2 ^ 24) (getUint24 mmdb p) := by
  refine (byte_yields (by omega)).bind fun b0 h0 => (byte_yields (by omega)).bind fun b1 h1 => ?_
  refine (byte_yields (by omega)).bind fun b2 h2 => ?_
  show _ < _
  omega

theorem getUint16_yields (h : p + 2 ≤ mmdb.fileContent.length) : Yields allowed (· < 2 ^ 16) (getUint16 mmdb p) := by
  refine (byte_yields (by omega)).bind fun b0 h0 => (byte_yields (by omega)).bind fun b1 h1 => ?_
  show _ < _
  omega

theorem decodeValue_sound (type : Nat) {p size : Nat} (h : p + size ≤ mmdb.fileContent.length) :
    Sound (fun _ => True) (decodeValue mmdb type p size) := by
  have hbytes : ∀ f : Data → EntryValue, Sound (fun _ => True) (do return f (← mmdb.bytes p size) : C EntryValue) :=
    fun f => (bytes_yields h).bind fun _ _ => trivial
  have huint : ∀ f : Nat → EntryValue, Sound (fun _ => True) (do return f (← getUintX mmdb p size) : C EntryValue) :=
    fun f => (getUintX_yields h).bind fun _ _ => trivial
  unfold decodeValue
  split
  · exact hbytes _
  · exact Yields.ite (fun _ => Sound.fail _) fun _ => hbytes _
  · exact hbytes _
  · exact Yields.ite (fun _ => Sound.fail _) fun _ => huint _
  · exact Yields.ite (fun _ => Sound.fail _) fun _ => huint _
  · exact Yields.ite (fun _ => Sound.fail _) fun _ => huint fun n => .int32 (Int.bmod n (2 ^ 32))
  · exact Yields.ite (fun _ => Sound.fail _) fun _ => huint _
  · exact Yields.ite (fun _ => Sound.fail _) fun _ => hbytes _
  · exact Yields.ite (fun _ => Sound.fail _) fun _ => hbytes _
  · trivial

end Reading

/-- The data section lies in the file, and has the three bytes the checks of its bounds rely on. -/
structure MMDB_s.Bounded (mmdb : MMDB_s) : Prop where
  inFile : mmdb.dataSection + mmdb.dataSectionSize ≤ mmdb.fileContent.length
  three : 3 ≤ mmdb.dataSectionSize
  word : mmdb.dataSectionSize < 2 ^ 32

namespace MMDB_s.Bounded

variable {mmdb : MMDB_s} (hb : mmdb.Bounded)
include hb

theorem sub32_eq {n : Nat} (h : n ≤ mmdb.dataSectionSize) : sub32 mmdb.dataSectionSize n = mmdb.dataSectionSize - n :=
  sub32_of_le hb.word h

theorem mem_sound {offset : Nat} (h : offset < mmdb.dataSectionSize) : Sound (· < 256) (mmdb.mem offset) :=
  byte_yields (Nat.lt_of_lt_of_le (Nat.add_lt_add_left h _) hb.inFile)

theorem decodeType_sound (ctrl : Nat) {offset : Nat} (h : offset ≤ mmdb.dataSectionSize) :
    Sound (fun r => offset ≤ r.2 ∧ r.2 ≤ mmdb.dataSectionSize) (decodeType mmdb ctrl offset) := by
  have hthree := hb.three
  refine Yields.ite (fun _ => ?_) fun _ => ⟨Nat.le_refl _, h⟩
  refine Yields.ite (fun _ => Sound.fail _) fun hoff => ?_
  rw [hb.sub32_eq (by omega)] at hoff
  refine (hb.mem_sound (by omega)).bind fun b _ => ?_
  exact ⟨Nat.le_succ _, show offset + 1 ≤ _ by omega⟩

theorem getPtrFrom_sound (ctrl : Nat) {offset psize : Nat} (hpos : 0 < psize) (hfour : psize ≤ 4)
    (h : offset + psize ≤ mmdb.dataSectionSize) :
    Sound (fun _ => True) (getPtrFrom mmdb ctrl (mmdb.dataSection + offset) psize) := by
  have hfile := hb.inFile
  obtain rfl | rfl | rfl | rfl : psize = 1 ∨ psize = 2 ∨ psize = 3 ∨ psize = 4 := by omega
  · exact (byte_yields (by omega)).bind fun _ _ => trivial
  · exact (byte_yields (by omega)).bind fun _ _ => (byte_yields (by omega)).bind fun _ _ => trivial
  · exact (getUint24_yields (by omega)).bind fun _ _ => trivial
  · exact (getUint32_yields (by omega)).mono fun _ _ => trivial

theorem decodePointer_sound (start ctrl offset : Nat) :
    Sound (fun e => e.offset = start ∧ offset < e.offsetToNext ∧ e.offsetToNext ≤ mmdb.dataSectionSize)
      (decodePointer mmdb start ctrl offset) := by
  have hpsize : (ctrl >>> 3) &&& 3 ≤ 3 := Nat.and_le_right
  refine Yields.ite (fun _ => Sound.fail _) fun hoff => ?_
  rw [not_or, Nat.not_lt, Nat.not_lt] at hoff
  obtain ⟨hoff, hfit⟩ := hoff
  rw [hb.sub32_eq hfit] at hoff
  refine (hb.getPtrFrom_sound ctrl (Nat.succ_pos _) (by omega) (by omega)).bind fun _ _ => ?_
  refine ⟨rfl, ?_, ?_⟩
  · show offset < offset + _
    omega
  · show offset + _ ≤ _
    omega

theorem decodeSize_sound (ctrl : Nat) {offset : Nat} (h : offset ≤ mmdb.dataSectionSize) :
    Sound (fun r => offset ≤ r.2 ∧ r.2 ≤ mmdb.dataSectionSize) (decodeSize mmdb ctrl offset) := by
  have hthree := hb.three
  have hfile := hb.inFile
  refine Yields.ite (fun _ => ?_) fun _ => Yields.ite (fun _ => ?_) fun _ => Yields.ite (fun _ => ?_) fun _ => ?_
  · refine Yields.ite (fun _ => Sound.fail _) fun hoff => ?_
    rw [hb.sub32_eq (by omega)] at hoff
    refine (hb.mem_sound (by omega)).bind fun _ _ => ?_
    exact ⟨Nat.le_add_right _ _, show offset + 1 ≤ _ by omega⟩
  · refine Yields.ite (fun _ => Sound.fail _) fun hoff => ?_
    rw [hb.sub32_eq (by omega)] at hoff
    refine (getUint16_yields (by omega)).bind fun _ _ => ?_
    exact ⟨Nat.le_add_right _ _, show offset + 2 ≤ _ by omega⟩
  · refine Yields.ite (fun _ => Sound.fail _) fun hoff => ?_
    rw [hb.sub32_eq (by omega)] at hoff
    refine (getUint24_yields (by omega)).bind fun _ _ => ?_
    exact ⟨Nat.le_add_right _ _, show offset + 3 ≤ _ by omega⟩
  · exact ⟨Nat.le_refl _, h⟩

/-- Decoding an entry stays inside the file, and the next entry starts behind it. -/
theorem decodeOne_sound (start : Nat) :
    Sound (fun e => e.offset = start ∧ start < e.offsetToNext ∧ e.offsetToNext ≤ mmdb.dataSectionSize)
      (decodeOne mmdb start) := by
  have hthree := hb.three
  have hfile := hb.inFile
  refine Yields.ite (fun _ => Sound.fail _) fun hstart => ?_
  rw [hb.sub32_eq (by omega)] at hstart
  refine (hb.mem_sound (by omega)).bind fun ctrl _ => ?_
  refine (hb.decodeType_sound ctrl (by omega)).bind fun r hr => ?_
  obtain ⟨type, offset⟩ := r
  obtain ⟨hle, hsize⟩ := hr
  refine Yields.ite (fun _ => ?_) fun _ => ?_
  · refine (hb.decodePointer_sound start ctrl offset).mono ?_
    rintro e ⟨hoffset, hnext, hend⟩
    exact ⟨hoffset, by omega, hend⟩
  · refine (hb.decodeSize_sound ctrl hsize).bind fun r hr => ?_
    obtain ⟨size, next⟩ := r
    obtain ⟨hle', hsize'⟩ := hr
    have hnext : start < next := by omega
    refine Yields.ite (fun _ => ⟨rfl, hnext, hsize'⟩) fun _ => ?_
    refine Yields.ite (fun _ => ⟨rfl, hnext, hsize'⟩) fun _ => ?_
    refine Yields.ite (fun _ => ⟨rfl, hnext, hsize'⟩) fun _ => ?_
    refine Yields.ite (fun _ => Sound.fail _) fun hoff => ?_
    rw [not_or, Nat.not_lt, Nat.not_lt] at hoff
    obtain ⟨hoff, hfit⟩ := hoff
    rw [hb.sub32_eq hfit] at hoff
    refine (decodeValue_sound type (by omega)).bind fun value _ => ⟨rfl, ?_, ?_⟩
    · show start < next + size
      omega
    · show next + size ≤ _
      omega

end MMDB_s.Bounded

end VpnSs.MMDB
