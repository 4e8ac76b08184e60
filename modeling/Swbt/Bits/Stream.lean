import Mathlib.Data.Nat.Init
import Mathlib.Data.Nat.Bitwise
/-!
# Bits of a byte string

A byte string read as a little-endian stream of bits: bit `i` is bit `i % 8` of
byte `i / 8`. A field is a window of the stream, its first bit the lowest.
-/

set_option autoImplicit false

namespace Bits

variable {bytes bytes' : List UInt8} {start width : Nat}

def bitAt (bytes : List UInt8) (i : Nat) : Bool := (bytes.getD (i / 8) 0).toNat.testBit (i % 8)

/-- The number in the `width` bits from `start` on. -/
def field (bytes : List UInt8) (start width : Nat) : Nat := Nat.ofBits fun i : Fin width => bitAt bytes (start + i)

theorem field_lt (bytes : List UInt8) (start width : Nat) : field bytes start width < 2 ^ width :=
  Nat.ofBits_lt_two_pow _

/-- A field whose bits are the lowest of a number holds the number cut to its width. -/
theorem field_eq {value : Nat} (hbits : ∀ i < width, bitAt bytes (start + i) = value.testBit i) :
    field bytes start width = value % 2 ^ width := by
  rw [← Nat.ofBits_testBit, field]
  congr
  funext i
  exact hbits i i.isLt

/-- A field within one that is known. -/
theorem testBit_field {i : Nat} (hi : i < width) : (field bytes start width).testBit i = bitAt bytes (start + i) :=
  Nat.testBit_ofBits_lt _ i hi

/-- Two adjacent fields are one. -/
theorem field_add (bytes : List UInt8) (start a b : Nat) :
    field bytes start (a + b) = field bytes start a + 2 ^ a * field bytes (start + a) b := by
  apply Nat.eq_of_testBit_eq
  intro i
  rw [Nat.add_comm (field bytes start a), Nat.testBit_two_pow_mul_add _ (field_lt bytes start a)]
  by_cases hia : i < a
  · rw [if_pos hia, testBit_field hia, testBit_field (by omega)]
  · rw [if_neg hia]
    by_cases hib : i < a + b
    · rw [testBit_field hib, testBit_field (by omega), show start + a + (i - a) = start + i by omega]
    · have hleft : field bytes start (a + b) < 2 ^ i :=
        lt_of_lt_of_le (field_lt _ _ _) (Nat.pow_le_pow_right (by decide) (not_lt.1 hib))
      have hright : field bytes (start + a) b < 2 ^ (i - a) :=
        lt_of_lt_of_le (field_lt _ _ _) (Nat.pow_le_pow_right (by decide) (by omega))
      rw [Nat.testBit_lt_two_pow hleft, Nat.testBit_lt_two_pow hright]

/-- A field inside one byte. -/
theorem field_byte (bytes : List UInt8) (j : Nat) {a width : Nat} (hfits : a + width ≤ 8) :
    field bytes (8 * j + a) width = (bytes.getD j 0).toNat / 2 ^ a % 2 ^ width := by
  apply field_eq
  intro i hi
  unfold bitAt
  rw [Nat.testBit_div_two_pow, show (8 * j + a + i) / 8 = j by omega, show (8 * j + a + i) % 8 = i + a by omega]

theorem bitAt_of_getElem? (hbyte : bytes[start / 8]? = bytes'[start / 8]?) : bitAt bytes start = bitAt bytes' start := by
  unfold bitAt
  rw [List.getD_eq_getElem?_getD, List.getD_eq_getElem?_getD, hbyte]

theorem toNat_bit {k : Nat} (hk : k < 8) : ((1 : UInt8) <<< UInt8.ofNat k).toNat = 2 ^ k := by
  have hall : ∀ k < 8, ((1 : UInt8) <<< UInt8.ofNat k).toNat = 2 ^ k := by decide
  exact hall k hk

/-- Setting one bit of a byte sets that bit of the stream. -/
theorem bitAt_set {k : Nat} (hk : k < 8 * bytes.length) (i : Nat) :
    bitAt (bytes.modify (k / 8) (· ||| 1 <<< UInt8.ofNat (k % 8))) i = (bitAt bytes i || decide (i = k)) := by
  have hlt : k / 8 < bytes.length := by omega
  unfold bitAt
  rw [List.getD_eq_getElem?_getD, List.getD_eq_getElem?_getD]
  by_cases hbyte : k / 8 = i / 8
  · rw [← hbyte, List.getElem?_modify_eq, List.getElem?_eq_getElem hlt]
    simp only [Option.map_eq_map, Option.map_some, Option.getD_some]
    rw [UInt8.toNat_or, Nat.testBit_or, toNat_bit (Nat.mod_lt _ (by decide)), Nat.testBit_two_pow]
    congr 2
    rw [eq_iff_iff]
    omega
  · rw [List.getElem?_modify_ne _ _ hbyte, show decide (i = k) = false from decide_eq_false (by omega), Bool.or_false]

/-- A byte is its eight bits. -/
theorem getD_of_bits {j : Nat} (hbits : ∀ i < 8, bitAt bytes (8 * j + i) = bitAt bytes' (8 * j + i)) :
    bytes.getD j 0 = bytes'.getD j 0 := by
  rw [← UInt8.toNat_inj]
  apply Nat.eq_of_testBit_eq
  intro i
  by_cases hi : i < 8
  · have hbit := hbits i hi
    unfold bitAt at hbit
    rwa [show (8 * j + i) / 8 = j by omega, show (8 * j + i) % 8 = i by omega] at hbit
  · have hbound : ∀ byte : UInt8, byte.toNat < 2 ^ i := fun byte =>
      lt_of_lt_of_le byte.toNat_lt (Nat.pow_le_pow_right (by decide) (not_lt.1 hi))
    rw [Nat.testBit_lt_two_pow (hbound _), Nat.testBit_lt_two_pow (hbound _)]

end Bits
