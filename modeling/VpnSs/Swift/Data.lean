/-
Bytes: Foundation's `Data` as a list, the UTF-8 bytes of a text, the conversions to `UInt8` and
`UInt16`, which trap on a number out of range, and two bytes in network order.
-/
import VpnSs.Swift.Text

namespace VpnSs.Swift

abbrev Data := List UInt8

/-- `t.utf8` -/
def utf8 (t : Text) : Data := t.flatMap fun c => c.scalars.flatMap String.utf8EncodeChar

/-- `s.data(using: .utf8)!` of a literal. -/
def data (s : String) : Data := s.toList.flatMap String.utf8EncodeChar

/-- `UInt8(n)`; none where it traps. -/
def toUInt8 (n : Int) : Option UInt8 := if 0 ≤ n ∧ n < 256 then some (UInt8.ofNat n.toNat) else none

/-- `UInt16(n)`; none where it traps. -/
def toUInt16 (n : Int) : Option UInt16 := if 0 ≤ n ∧ n < 65536 then some (UInt16.ofNat n.toNat) else none

/-- The bytes of `n.bigEndian`. -/
def bigEndian (n : UInt16) : Data := [UInt8.ofNat (n.toNat / 256), UInt8.ofNat n.toNat]

/-- The number two bytes in network order are. -/
def ofBigEndian (hi lo : UInt8) : Nat := hi.toNat * 256 + lo.toNat

@[simp] theorem length_bigEndian (n : UInt16) : (bigEndian n).length = 2 := rfl

theorem ofBigEndian_bigEndian (n : UInt16) :
    ofBigEndian (UInt8.ofNat (n.toNat / 256)) (UInt8.ofNat n.toNat) = n.toNat := by
  have hlt : n.toNat < 65536 := n.toNat_lt
  simp only [ofBigEndian, UInt8.toNat_ofNat']
  omega

theorem toUInt8_eq_some {n : Int} {b : UInt8} : toUInt8 n = some b ↔ n = (b.toNat : Int) := by
  unfold toUInt8
  have hb : b.toNat < 256 := b.toNat_lt
  constructor
  · intro h
    split at h
    · rename_i hn
      cases h
      simp only [UInt8.toNat_ofNat']
      omega
    · cases h
  · rintro rfl
    rw [if_pos (by omega), Int.toNat_natCast, UInt8.ofNat_toNat]

theorem toUInt16_eq_some {n : Int} {b : UInt16} : toUInt16 n = some b ↔ n = (b.toNat : Int) := by
  unfold toUInt16
  have hb : b.toNat < 65536 := b.toNat_lt
  constructor
  · intro h
    split at h
    · rename_i hn
      cases h
      simp only [UInt16.toNat_ofNat']
      omega
    · cases h
  · rintro rfl
    rw [if_pos (by omega), Int.toNat_natCast, UInt16.ofNat_toNat]

theorem toUInt8_isSome {n : Int} : (toUInt8 n).isSome ↔ 0 ≤ n ∧ n < 256 := by
  unfold toUInt8; split <;> simp_all

theorem toUInt16_isSome {n : Int} : (toUInt16 n).isSome ↔ 0 ≤ n ∧ n < 65536 := by
  unfold toUInt16; split <;> simp_all

end VpnSs.Swift
