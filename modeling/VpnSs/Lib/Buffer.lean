/-
Byte buffers of a fixed size, as C code uses them: zeroed, filled from the start by a receive or by a
printed text, and read as a string up to the first zero byte. A write past the end has no result; a
string without a zero byte in the buffer has none either.
-/
import Mathlib.Data.List.TakeWhile

namespace VpnSs

/-- A buffer of `n` bytes. -/
structure Buffer (n : Nat) where
  bytes : List UInt8
  length_bytes : bytes.length = n

namespace Buffer

variable {n : Nat}

def bzero (_ : Buffer n) : Buffer n := ⟨List.replicate n 0, List.length_replicate⟩

/-- The bytes of `data` from the start; the rest is left as it was. -/
def store (b : Buffer n) (data : List UInt8) (h : data.length ≤ n) : Buffer n :=
  ⟨data ++ b.bytes.drop data.length, by
    rw [List.length_append, List.length_drop, b.length_bytes, Nat.add_sub_cancel' h]⟩

/-- Receives a datagram: stores as much of it as fits, and returns the number of bytes stored. -/
def recvfrom (b : Buffer n) (payload : List UInt8) : Buffer n × Nat :=
  (b.store (payload.take n) (List.length_take_le ..), (payload.take n).length)

/-- Prints a text and its terminating zero, if they fit. -/
def sprintf (b : Buffer n) (s : List UInt8) : Option (Buffer n) :=
  if h : (s ++ [0]).length ≤ n then some (b.store (s ++ [0]) h) else none

/-- Some byte is zero. -/
def Terminated (b : Buffer n) : Prop := 0 ∈ b.bytes

instance (b : Buffer n) : Decidable b.Terminated := inferInstanceAs (Decidable (0 ∈ b.bytes))

/-- The bytes before the first zero. -/
def cString (b : Buffer n) : Option (List UInt8) :=
  if b.Terminated then some (b.bytes.takeWhile fun c => c != 0) else none

@[simp] theorem bytes_bzero (b : Buffer n) : b.bzero.bytes = List.replicate n 0 := rfl

@[simp] theorem bytes_store (b : Buffer n) (data : List UInt8) (h : data.length ≤ n) :
    (b.store data h).bytes = data ++ b.bytes.drop data.length := rfl

/-! ## Receiving -/

theorem bytes_recvfrom_bzero (b : Buffer n) (payload : List UInt8) :
    (b.bzero.recvfrom payload).1.bytes = payload.take n ++ List.replicate (n - (payload.take n).length) 0 := by
  rw [recvfrom, bytes_store, bytes_bzero, List.drop_replicate]

theorem recvfrom_nil (b : Buffer n) : (b.recvfrom []).1 = b := by
  cases b
  simp [recvfrom, store]

/-- A payload whose string ends in the buffer: it leaves room for a zero, or contains one in time. -/
def Fits (n : Nat) (payload : List UInt8) : Prop := payload.length < n ∨ 0 ∈ payload.take n

instance (n : Nat) (payload : List UInt8) : Decidable (Fits n payload) := inferInstanceAs (Decidable (_ ∨ _))

theorem terminated_recvfrom_bzero (b : Buffer n) (payload : List UInt8) :
    (b.bzero.recvfrom payload).1.Terminated ↔ Fits n payload := by
  rw [Terminated, bytes_recvfrom_bzero, List.mem_append, List.mem_replicate, Fits, List.length_take, or_comm]
  apply or_congr_left
  constructor
  · rintro ⟨hne, -⟩
    by_contra hle
    rw [Nat.min_eq_left (Nat.le_of_not_lt hle), Nat.sub_self] at hne
    exact hne rfl
  · intro hlt
    refine ⟨?_, rfl⟩
    rw [Nat.min_eq_right (Nat.le_of_lt hlt)]
    exact Nat.sub_ne_zero_of_lt hlt

/-- Zeros after a text do not change its string. -/
theorem takeWhile_append_zeros (s : List UInt8) (k : Nat) :
    (s ++ List.replicate k 0).takeWhile (fun c => c != 0) = s.takeWhile fun c => c != 0 := by
  rw [List.takeWhile_append]
  split
  · rename_i hall
    have hzeros : (List.replicate k (0 : UInt8)).takeWhile (fun c => c != 0) = [] := by
      cases k with
      | zero => rfl
      | succ k => rfl
    rw [hzeros, List.append_nil]
    exact ((List.takeWhile_prefix _).eq_of_length hall).symm
  · rfl

/-- A string that ends within the first bytes is not changed by dropping the others. -/
theorem takeWhile_take {s : List UInt8} (h : Fits n s) :
    (s.take n).takeWhile (fun c => c != 0) = s.takeWhile fun c => c != 0 := by
  rcases h with hlt | hzero
  · rw [List.take_of_length_le (Nat.le_of_lt hlt)]
  · have hsplit : s.takeWhile (fun c => c != 0) = (s.take n ++ s.drop n).takeWhile fun c => c != 0 := by
      rw [List.take_append_drop]
    rw [hsplit, List.takeWhile_append, if_neg]
    intro hall
    have hself := (List.takeWhile_prefix (fun c : UInt8 => c != 0)).eq_of_length hall
    have hne := List.takeWhile_eq_self_iff.1 hself 0 hzero
    cases hne

/-- What is received into a zeroed buffer reads as its bytes up to the first zero exactly when it fits. -/
theorem cString_recvfrom_bzero (b : Buffer n) (payload : List UInt8) :
    (b.bzero.recvfrom payload).1.cString = some (payload.takeWhile fun c => c != 0) ↔ Fits n payload := by
  rw [← terminated_recvfrom_bzero b payload, cString]
  split
  · rename_i h
    apply iff_of_true _ h
    rw [bytes_recvfrom_bzero, takeWhile_append_zeros, takeWhile_take ((terminated_recvfrom_bzero b payload).1 h)]
  · rename_i h
    exact iff_of_false (fun he => Option.some_ne_none _ he.symm) h

/-! ## Printing -/

/-- A text that leaves room for its zero is followed by zeros in a zeroed buffer. -/
theorem sprintf_bzero (b : Buffer n) {s : List UInt8} (h : s.length < n) :
    ∃ b' : Buffer n, b.bzero.sprintf s = some b' ∧ b'.bytes = s ++ List.replicate (n - s.length) 0 := by
  have hlen : (s ++ [(0 : UInt8)]).length ≤ n := by
    rw [List.length_append]; exact h
  refine ⟨_, dif_pos hlen, ?_⟩
  rw [bytes_store, bytes_bzero, List.drop_replicate, List.append_assoc, List.length_append, List.length_singleton,
    List.singleton_append, ← List.replicate_succ, ← Nat.sub_sub, Nat.sub_add_cancel (Nat.sub_pos_of_lt h)]

end Buffer

end VpnSs
