/-
NEKit's `Buffer`, bytes with the offset of the first unread one, and `StreamScanner`, which collects
the data of reads until a pattern shows. It looks for the last occurrence of the pattern.
-/
import VpnSs.Lib.Search
import VpnSs.Swift.Data
import Mathlib.Data.List.Infix

namespace VpnSs.NEKit

open VpnSs.Swift VpnSs.Search

/-! ## Buffers -/

structure Buffer where
  buffer : Data
  offset : Nat
  deriving DecidableEq, Repr

namespace Buffer

/-- A new buffer; its capacity is only a hint. -/
def empty : Buffer := ⟨[], 0⟩

def left (b : Buffer) : Int := (b.buffer.length : Int) - (b.offset : Int)

def append (b : Buffer) (data : Data) : Buffer := { b with buffer := b.buffer ++ data }

/-- `get(length:)`: the next bytes, if there are as many. -/
def get (b : Buffer) (length : Nat) : Option Data × Buffer :=
  if (length : Int) ≤ b.left then
    (some ((b.buffer.drop b.offset).take length), { b with offset := b.offset + length })
  else (none, b)

/-- `get()`: all the bytes left. -/
def getAll (b : Buffer) : Option Data × Buffer := b.get b.left.toNat

/-- Drops the bytes; the offset stays. -/
def release (b : Buffer) : Buffer := { b with buffer := [] }

/-- The bytes not read yet. -/
def unread (b : Buffer) : Data := b.buffer.drop b.offset

@[simp] theorem buffer_append (b : Buffer) (data : Data) : (b.append data).buffer = b.buffer ++ data := rfl

@[simp] theorem offset_append (b : Buffer) (data : Data) : (b.append data).offset = b.offset := rfl

theorem get_of_le {b : Buffer} {length : Nat} (h : b.offset + length ≤ b.buffer.length) :
    b.get length = (some (b.unread.take length), { b with offset := b.offset + length }) :=
  if_pos (by rw [left]; omega)

theorem get_of_not_le {b : Buffer} {length : Nat} (h : ¬ b.offset + length ≤ b.buffer.length) :
    b.get length = (none, b) :=
  if_neg (by rw [left]; omega)

theorem getAll_of_le {b : Buffer} (h : b.offset ≤ b.buffer.length) :
    b.getAll = (some b.unread, { b with offset := b.buffer.length }) := by
  have hleft : b.left.toNat = b.buffer.length - b.offset := by rw [left]; omega
  rw [getAll, hleft, get_of_le (by omega), Nat.add_sub_cancel' h]
  have hall : b.unread.take (b.buffer.length - b.offset) = b.unread :=
    List.take_of_length_le (by rw [unread, List.length_drop])
  rw [hall]

end Buffer

/-! ## Scanning reads for a pattern -/

structure StreamScanner where
  receivedData : Data
  pattern : Data
  maximumLength : Nat
  finished : Bool

namespace StreamScanner

/-- `StreamScanner(pattern:maximumLength:)` -/
def create (pattern : Data) (maximumLength : Nat) : StreamScanner := ⟨[], pattern, maximumLength, false⟩

/-- `addAndScan`: the data up to the pattern and the rest, no match and all the data once there is too
much of it, or nothing yet. -/
def addAndScan (s : StreamScanner) (data : Data) : StreamScanner × Option (Option Data × Data) :=
  if s.finished then (s, none)
  else
    let receivedData := s.receivedData ++ data
    let startind := receivedData.length - s.pattern.length - data.length
    match last s.pattern (receivedData.drop startind) with
    | none =>
      if s.maximumLength < receivedData.length then
        ({ s with receivedData, finished := true }, some (none, receivedData))
      else ({ s with receivedData }, none)
    | some i =>
      let foundEndIndex := startind + i + s.pattern.length
      ({ s with receivedData, finished := true },
        some (some (receivedData.take foundEndIndex), receivedData.drop foundEndIndex))

/-- Reads go on until one of them is answered. -/
def scan (s : StreamScanner) : List Data → Option (Option Data × Data)
  | [] => none
  | c :: cs =>
    match (s.addAndScan c).2 with
    | some found => some found
    | none => (s.addAndScan c).1.scan cs

/-! ## Scanning against a search of the whole data -/

/-- What there is to say of all the data received. -/
def answer (pattern : Data) (maximumLength : Nat) (received : Data) : Option (Option Data × Data) :=
  match last pattern received with
  | none => if maximumLength < received.length then some (none, received) else none
  | some i => some (some (received.take (i + pattern.length)), received.drop (i + pattern.length))

/-- A match ends with the pattern, the rest does not contain it, and nothing is lost. -/
theorem answer_match {pattern received m rest : Data} {maximumLength : Nat} (hp : pattern ≠ [])
    (h : answer pattern maximumLength received = some (some m, rest)) :
    m ++ rest = received ∧ pattern <:+ m ∧ ∀ i, ¬ OccursAt pattern rest i := by
  unfold answer at h
  rcases hl : last pattern received with _ | i
  · rw [hl] at h
    dsimp only at h
    split at h <;> cases h
  · rw [hl] at h
    cases h
    obtain ⟨hi, hmax⟩ := (last_eq_some hp).1 hl
    refine ⟨List.take_append_drop _ _, ?_, ?_⟩
    · have hsplit := hi.split
      have hlen : (received.take i ++ pattern).length = i + pattern.length := by
        have := hi.1
        rw [List.length_append, List.length_take]
        omega
      rw [hsplit, ← hlen, List.take_left]
      exact List.suffix_append _ _
    · intro j hj
      have hle := hmax _ ((occursAt_drop hi.1).1 hj)
      have := List.length_pos_of_ne_nil hp
      omega

/-- The scanner gives up over more than the length it is to scan. -/
theorem answer_none {pattern received rest : Data} {maximumLength : Nat}
    (h : answer pattern maximumLength received = some (none, rest)) : maximumLength < received.length := by
  unfold answer at h
  split at h
  · split at h
    · assumption
    · cases h
  · cases h

/-- A scanner that has received `received` and found nothing. -/
structure Open (s : StreamScanner) (received : Data) : Prop where
  receivedData : s.receivedData = received
  finished : s.finished = false
  absent : ∀ i, ¬ OccursAt s.pattern received i

/-- The window that is searched has all the new occurrences. -/
theorem addAndScan_open {s : StreamScanner} {received : Data} (h : s.Open received) (hp : s.pattern ≠ [])
    (data : Data) :
    (s.addAndScan data).2 = answer s.pattern s.maximumLength (received ++ data) ∧
      (s.addAndScan data).1.pattern = s.pattern ∧ (s.addAndScan data).1.maximumLength = s.maximumLength ∧
      ((s.addAndScan data).2 = none → (s.addAndScan data).1.Open (received ++ data)) := by
  obtain ⟨rfl, hfin, habs⟩ := h
  have hwindow : ∀ i, OccursAt s.pattern (s.receivedData ++ data) i →
      (s.receivedData ++ data).length - s.pattern.length - data.length ≤ i := by
    intro i hi
    by_contra hlt
    -- one that starts before the window ends in the old data
    apply habs i
    apply hi.of_append
    rw [List.length_append] at hlt
    omega
  have hlast := last_eq_map_drop hp (Nat.le_trans (Nat.sub_le _ _) (Nat.sub_le _ _)) hwindow
  simp only [addAndScan, answer, hfin, Bool.false_eq_true, if_false]
  rw [hlast]
  rcases hd : last s.pattern ((s.receivedData ++ data).drop
      ((s.receivedData ++ data).length - s.pattern.length - data.length)) with _ | i
  · rw [hd, Option.map_none] at hlast
    have hnone := (last_eq_none hp).1 hlast
    dsimp only [Option.map_none]
    split
    · refine ⟨rfl, rfl, rfl, ?_⟩
      intro h; cases h
    · refine ⟨rfl, rfl, rfl, ?_⟩
      intro _
      exact ⟨rfl, rfl, hnone⟩
  · refine ⟨rfl, rfl, rfl, ?_⟩
    intro h; cases h

/-- However the data arrives, the scanner answers at the first read after which a search of all the
data received has an answer, and its answer is that one. -/
theorem scan_eq {s : StreamScanner} {received : Data} (h : s.Open received) (hp : s.pattern ≠ []) (cs : List Data) :
    s.scan cs = cs.inits.tail.findSome? fun ds => answer s.pattern s.maximumLength (received ++ ds.flatten) := by
  induction cs generalizing s received with
  | nil => rfl
  | cons c cs ih =>
    obtain ⟨hans, hpat, hmax, hopen⟩ := addAndScan_open h hp c
    have hinits : (c :: cs).inits.tail = [c] :: cs.inits.tail.map (c :: ·) := by
      cases cs <;> simp
    rw [scan, hinits, List.findSome?_cons, List.findSome?_map]
    have hone : received ++ [c].flatten = received ++ c := by simp
    rw [hone, ← hans]
    rcases hres : (s.addAndScan c).2 with _ | found
    · have hnext := ih (hopen hres) (by rw [hpat]; exact hp)
      dsimp only
      rw [hnext, hpat, hmax]
      congr 1
      funext ds
      simp
    · rfl

/-- A new scanner, however the data arrives: it answers at the first read after which a search of all the data
has an answer, with that answer. A match ends with the pattern, the rest has no further one, and together
they are the data received. -/
theorem scan_reads {pattern : Data} (hp : pattern ≠ []) (maximumLength : Nat) (cs : List Data) :
    (create pattern maximumLength).scan cs =
        cs.inits.tail.findSome? (fun ds => answer pattern maximumLength ds.flatten) ∧
      ∀ m rest, (create pattern maximumLength).scan cs = some (some m, rest) →
        ∃ ds, ds <+: cs ∧ m ++ rest = ds.flatten ∧ pattern <:+ m ∧ ∀ i, ¬ OccursAt pattern rest i := by
  have hopen : (create pattern maximumLength).Open [] := ⟨rfl, rfl, not_occursAt_nil hp⟩
  have hscan : (create pattern maximumLength).scan cs =
      cs.inits.tail.findSome? (fun ds => answer pattern maximumLength ds.flatten) := scan_eq hopen hp cs
  refine ⟨hscan, ?_⟩
  intro m rest hfound
  rw [hscan] at hfound
  obtain ⟨ds, hds, hans⟩ := List.exists_of_findSome?_eq_some hfound
  obtain ⟨hsplit, hends, hrest⟩ := answer_match hp hans
  exact ⟨ds, (List.mem_inits ds cs).1 (List.mem_of_mem_tail hds), hsplit, hends, hrest⟩

theorem scan_reads_crlf :
    (create [13, 10] 100).scan [[71, 13], [10, 72]] =
      [[71, 13], [10, 72]].inits.tail.findSome? (fun ds => answer [13, 10] 100 ds.flatten) :=
  (scan_reads (by decide) 100 _).1

end StreamScanner

end VpnSs.NEKit
