/-
The Swift values the code computes with: text as a list of characters, the string and number
operations of the standard library and Foundation by their documented behaviour, and the traps
that end a process.
-/
import Mathlib.Algebra.Group.Int.Defs
import Mathlib.Data.List.Infix

namespace VpnSs.Swift

/-! ## Traps -/

/-- What ends a Swift process: an index past the end of a string, `!` on nil, `try!` on an error,
a failing `as!`, `fatalError`, and `exit(EXIT_FAILURE)`. -/
inductive Trap where
  | indexOutOfBounds
  | unwrapNil
  | tryError
  | castFailed
  | fatalError
  | exitFailure
  deriving DecidableEq, Repr

/-- `x!` -/
def unwrap {α : Type*} : Option α → Except Trap α
  | some a => .ok a
  | none => .error .unwrapNil

/-- `try! e` -/
def forceTry {ε α : Type*} : Except ε α → Except Trap α
  | .ok a => .ok a
  | .error _ => .error .tryError

/-- `x as! T`, of what `x as? T` gives. -/
def forceCast {α : Type*} : Option α → Except Trap α
  | some a => .ok a
  | none => .error .castFailed

@[simp] theorem unwrap_some {α : Type*} (a : α) : unwrap (some a) = .ok a := rfl

theorem unwrap_ok {α : Type*} {x : Option α} {a : α} : unwrap x = .ok a ↔ x = some a := by
  cases x <;> simp [unwrap]

theorem forceTry_eq_ok {ε α : Type*} {x : Except ε α} {a : α} : forceTry x = .ok a ↔ x = .ok a := by
  cases x <;> simp [forceTry]

@[simp] theorem forceTry_ok {ε α : Type*} (a : α) : forceTry (.ok a : Except ε α) = .ok a := rfl

theorem forceCast_eq_ok {α : Type*} {x : Option α} {a : α} : forceCast x = .ok a ↔ x = some a := by
  cases x <;> simp [forceCast]

/-! ## Text -/

/-- A Swift `Character`: one extended grapheme cluster. Swift compares characters up to canonical
equivalence, so a character is given by the scalars of its normal form. -/
structure Character where
  scalars : List Char
  deriving DecidableEq, Repr

/-- A Swift `String` is the collection of its characters. -/
abbrev Text := List Character

instance : LawfulBEq Text := inferInstanceAs (LawfulBEq (List Character))

/-- A literal whose characters are single scalars. -/
def text (s : String) : Text := s.toList.map fun c => ⟨[c]⟩

def hasPrefix (t p : Text) : Bool := p.isPrefixOf t

def hasSuffix (t p : Text) : Bool := p.isSuffixOf t

/-- Foundation's `contains(_ other: StringProtocol)`, which is `range(of: other) != nil`: true iff
`other` is non-empty and contained within the text. -/
def contains (t other : Text) : Bool := !other.isEmpty && decide (other <:+: t)

/-- `t.index(t.startIndex, offsetBy: n)`, as an offset; it traps past the end. -/
def index (t : Text) (n : Nat) : Except Trap Nat :=
  if n ≤ t.length then .ok n else .error .indexOutOfBounds

/-- `t[..<i]` -/
def upTo (t : Text) (i : Nat) : Text := t.take i

/-- `t[i...]` -/
def suffixFrom (t : Text) (i : Nat) : Text := t.drop i

/-- `t.components(separatedBy: c)` for a separator of one character. -/
def components (t : Text) (c : Character) : List Text := t.splitOn c

theorem hasPrefix_iff {t p : Text} : hasPrefix t p = true ↔ p <+: t := List.isPrefixOf_iff_prefix

theorem hasSuffix_iff {t p : Text} : hasSuffix t p = true ↔ p <:+ t := List.isSuffixOf_iff_suffix

theorem index_ok {t : Text} {n i : Nat} : index t n = .ok i ↔ n ≤ t.length ∧ i = n := by
  unfold index
  split
  · rename_i h; simp [h, eq_comm]
  · rename_i h; simp [h]

/-! ## Numbers -/

/-- The value of an ASCII digit below the radix; letters of either case count from ten. -/
def digitValue (radix : Nat) (c : Character) : Option Nat :=
  match c.scalars with
  | [ch] =>
    let v := if '0' ≤ ch ∧ ch ≤ '9' then some (ch.toNat - '0'.toNat)
      else if 'a' ≤ ch ∧ ch ≤ 'z' then some (ch.toNat - 'a'.toNat + 10)
      else if 'A' ≤ ch ∧ ch ≤ 'Z' then some (ch.toNat - 'A'.toNat + 10)
      else none
    v.filter (· < radix)
  | _ => none

/-- The number a non-empty list of digits writes. -/
def digits (radix : Nat) : Text → Option Nat
  | [] => none
  | c :: cs => (c :: cs).foldlM (fun n c => (digitValue radix c).map (n * radix + ·)) 0

/-- The integer a text writes: digits after at most one sign. -/
def parseInt (radix : Nat) : Text → Option Int
  | [] => none
  | c :: cs =>
    if c = ⟨['-']⟩ then (digits radix cs).map fun n => -(n : Int)
    else if c = ⟨['+']⟩ then (digits radix cs).map fun n => (n : Int)
    else (digits radix (c :: cs)).map fun n => (n : Int)

/-- `FixedWidthInteger.init?(_ text:radix:)` for the integers from `lo` to `hi`: nil for text that
writes no integer and for an integer out of range. -/
def fixedWidth (lo hi : Int) (radix : Nat) (t : Text) : Option Int :=
  (parseInt radix t).filter fun n => lo ≤ n && n ≤ hi

def unsigned (w radix : Nat) (t : Text) : Option (BitVec w) :=
  (fixedWidth 0 (2 ^ w - 1) radix t).map fun n => BitVec.ofInt w n

/-- `UInt32(t)` -/
def uInt32 (t : Text) : Option (BitVec 32) := unsigned 32 10 t

example : uInt32 (text "+08") = some 8 ∧ uInt32 (text "4294967296") = none := by decide

/-- `Int(t)`, of 64 bits. -/
def int (t : Text) : Option Int := fixedWidth (-2 ^ 63) (2 ^ 63 - 1) 10 t

/-- The digits of a natural number. -/
def numeral (n : Nat) : Text := (Nat.toDigits 10 n).map fun c => ⟨[c]⟩

/-- `String(n)` -/
def decimal : Int → Text
  | .ofNat n => numeral n
  | .negSucc n => ⟨['-']⟩ :: numeral (n + 1)

theorem digitValue_digitChar : ∀ d < 10, digitValue 10 ⟨[Nat.digitChar d]⟩ = some d := by decide

/-- One more digit at the end. -/
theorem digits_append_singleton {radix : Nat} {t : Text} (ht : t ≠ []) (c : Character) :
    digits radix (t ++ [c]) = (digits radix t).bind fun n => (digitValue radix c).map (n * radix + ·) := by
  obtain ⟨d, t, rfl⟩ := List.exists_cons_of_ne_nil ht
  simp only [digits, List.cons_append]
  rw [← List.cons_append, List.foldlM_append]
  simp

theorem numeral_ne_nil (n : Nat) : numeral n ≠ [] := by simp [numeral]

theorem digits_numeral (n : Nat) : digits 10 (numeral n) = some n := by
  induction n using Nat.strong_induction_on with
  | _ n ih =>
    by_cases hn : n < 10
    · rw [numeral, Nat.toDigits_of_lt_base hn]
      simp [digits, digitValue_digitChar n hn]
    · have hlast : n % 10 < 10 := Nat.mod_lt n (by omega)
      have happ : numeral n = numeral (n / 10) ++ [⟨[Nat.digitChar (n % 10)]⟩] := by
        rw [numeral, Nat.toDigits_of_base_le (by omega) (by omega), List.map_append]; rfl
      rw [happ, digits_append_singleton (numeral_ne_nil _), ih (n / 10) (by omega), Option.bind_some,
        digitValue_digitChar _ hlast, Option.map_some, Nat.div_add_mod']

/-- A text that starts with a digit has no sign. -/
theorem parseInt_numeral (n : Nat) : parseInt 10 (numeral n) = some (n : Int) := by
  obtain ⟨c, cs, hc⟩ := List.exists_cons_of_ne_nil (Nat.toDigits_ne_nil (n := n) (b := 10))
  have hdigit : c.isDigit := Nat.isDigit_of_mem_toDigits (by omega) (by omega) (hc ▸ List.mem_cons_self)
  have hcs : numeral n = ⟨[c]⟩ :: cs.map fun c => ⟨[c]⟩ := by rw [numeral, hc, List.map_cons]
  have hminus : (⟨[c]⟩ : Character) ≠ ⟨['-']⟩ := by
    intro h
    cases h; cases hdigit
  have hplus : (⟨[c]⟩ : Character) ≠ ⟨['+']⟩ := by
    intro h
    cases h; cases hdigit
  have hvalue := digits_numeral n
  rw [hcs] at hvalue ⊢
  rw [parseInt, if_neg hminus, if_neg hplus, hvalue]
  rfl

/-- Printing and parsing: `Int(String(n))` is `n`. -/
theorem parseInt_decimal (n : Int) : parseInt 10 (decimal n) = some n := by
  cases n with
  | ofNat n => exact parseInt_numeral n
  | negSucc n =>
    simp only [decimal, parseInt, if_true, digits_numeral]
    rfl

theorem int_decimal {n : Int} (hlo : -2 ^ 63 ≤ n) (hhi : n ≤ 2 ^ 63 - 1) : int (decimal n) = some n := by
  rw [int, fixedWidth, parseInt_decimal, Option.filter_some, if_pos]
  simp only [Bool.and_eq_true, decide_eq_true_eq]
  exact ⟨hlo, hhi⟩

theorem int_range {t : Text} {n : Int} (h : int t = some n) : -2 ^ 63 ≤ n ∧ n ≤ 2 ^ 63 - 1 := by
  obtain ⟨-, hn⟩ := Option.filter_eq_some_iff.1 h
  simpa only [Bool.and_eq_true, decide_eq_true_eq] using hn

/-! ## Dictionaries -/

/-- The values the code puts in a `[String: Any]`. -/
inductive AnyValue where
  | string (t : Text)
  | int (n : Int)
  deriving DecidableEq, Repr

/-- `x as? String` -/
def AnyValue.asString : AnyValue → Option Text
  | .string t => some t
  | .int _ => none

/-- `x as? Int` -/
def AnyValue.asInt : AnyValue → Option Int
  | .int n => some n
  | .string _ => none

/-- A `[String: Any]`, as its entries. -/
abbrev Dictionary := List (Text × AnyValue)

def Dictionary.get (d : Dictionary) (key : Text) : Option AnyValue := d.lookup key

end VpnSs.Swift
