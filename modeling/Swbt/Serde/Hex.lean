import Mathlib.Data.List.Forall2
import Mathlib.Tactic.IntervalCases
/-!
# Hexadecimal text

Octets as pairs of uppercase digits, read back from digits of either case.
-/

set_option autoImplicit false

namespace Serde

/-- The value of a hexadecimal digit of either case. -/
def hexNibble (digit : Char) : Option Nat :=
  if '0' ≤ digit ∧ digit ≤ '9' then some (digit.toNat - '0'.toNat)
  else if 'a' ≤ digit ∧ digit ≤ 'f' then some (digit.toNat - 'a'.toNat + 10)
  else if 'A' ≤ digit ∧ digit ≤ 'F' then some (digit.toNat - 'A'.toNat + 10)
  else none

def isHexDigit (digit : Char) : Bool := (hexNibble digit).isSome

/-- The uppercase digit of a value below 16. -/
def hexDigit (value : Nat) : Char :=
  ['0', '1', '2', '3', '4', '5', '6', '7', '8', '9', 'A', 'B', 'C', 'D', 'E', 'F'].getD value '0'

theorem hexNibble_hexDigit {value : Nat} (h : value < 16) : hexNibble (hexDigit value) = some value := by
  interval_cases value <;> rfl

/-- Written digits are digits, and none is lowercase. -/
theorem hexDigit_upper {value : Nat} (h : value < 16) :
    isHexDigit (hexDigit value) = true ∧ ¬ ('a' ≤ hexDigit value ∧ hexDigit value ≤ 'z') := by
  interval_cases value <;> decide

/-- A digit that is not lowercase is one that is written. -/
theorem hexDigit_surjective {digit : Char} (hdigit : isHexDigit digit = true) (hupper : ¬ ('a' ≤ digit ∧ digit ≤ 'z')) :
    ∃ value < 16, hexDigit value = digit := by
  have hnat : ∀ c d : Char, c ≤ d → c.toNat ≤ d.toNat := fun c d hcd => UInt32.le_iff_toNat_le.1 hcd
  have hchar := (Char.ofNat_toNat digit).symm
  have hzero : '0'.toNat = 48 ∧ '9'.toNat = 57 ∧ 'A'.toNat = 65 ∧ 'F'.toNat = 70 := by decide
  unfold isHexDigit hexNibble at hdigit
  split at hdigit
  · rename_i hrange
    have hlow := hnat _ _ hrange.1
    have hhigh := hnat _ _ hrange.2
    rw [hzero.1] at hlow
    rw [hzero.2.1] at hhigh
    rw [hchar]
    generalize digit.toNat = code at hlow hhigh
    refine ⟨code - 48, by omega, ?_⟩
    interval_cases code <;> rfl
  · split at hdigit
    · rename_i hrange
      exact absurd ⟨hrange.1, Char.le_trans hrange.2 (show 'f' ≤ 'z' by decide)⟩ hupper
    · split at hdigit
      · rename_i hrange
        have hlow := hnat _ _ hrange.1
        have hhigh := hnat _ _ hrange.2
        rw [hzero.2.2.1] at hlow
        rw [hzero.2.2.2] at hhigh
        rw [hchar]
        generalize digit.toNat = code at hlow hhigh
        refine ⟨code - 55, by omega, ?_⟩
        interval_cases code <;> rfl
      · cases hdigit

/-- The two digits of an octet, high digit first. -/
def octetText (octet : UInt8) : List Char := [hexDigit (octet.toNat / 16), hexDigit (octet.toNat % 16)]

/-- The octet of two digits. -/
def readOctet (high low : Char) : Option UInt8 := do
  return UInt8.ofNat (16 * (← hexNibble high) + (← hexNibble low))

theorem readOctet_octetText (octet : UInt8) :
    readOctet (hexDigit (octet.toNat / 16)) (hexDigit (octet.toNat % 16)) = some octet := by
  have hlt := octet.toNat_lt
  unfold readOctet
  rw [hexNibble_hexDigit (by omega), hexNibble_hexDigit (by omega)]
  change some (UInt8.ofNat (16 * (octet.toNat / 16) + octet.toNat % 16)) = some octet
  rw [Nat.div_add_mod, UInt8.ofNat_toNat]

theorem readOctet_isSome {high low : Char} : (readOctet high low).isSome = (isHexDigit high && isHexDigit low) := by
  unfold readOctet isHexDigit
  cases hexNibble high <;> cases hexNibble low <;> rfl

/-! ## Octet strings -/

def encodeHex (octets : List UInt8) : List Char := octets.flatMap octetText

/-- Reads pairs of digits to the end of the text. -/
def decodeHex : List Char → Option (List UInt8)
  | [] => some []
  | [_] => none
  | high :: low :: rest => do return (← readOctet high low) :: (← decodeHex rest)

@[simp] theorem decodeHex_encodeHex (octets : List UInt8) : decodeHex (encodeHex octets) = some octets := by
  induction octets with
  | nil => rfl
  | cons octet rest ih =>
    have hcons : encodeHex (octet :: rest) =
        hexDigit (octet.toNat / 16) :: hexDigit (octet.toNat % 16) :: encodeHex rest := rfl
    rw [hcons, decodeHex, readOctet_octetText, ih]
    rfl

theorem length_encodeHex (octets : List UInt8) : (encodeHex octets).length = 2 * octets.length := by
  induction octets with
  | nil => rfl
  | cons octet rest ih =>
    have hcons : encodeHex (octet :: rest) =
        hexDigit (octet.toNat / 16) :: hexDigit (octet.toNat % 16) :: encodeHex rest := rfl
    rw [hcons, List.length_cons, List.length_cons, ih, List.length_cons]
    omega

/-- Texts of an even number of digits are read, each pair to one octet. -/
theorem decodeHex_isSome {n : Nat} {digits : List Char} (hlength : digits.length = 2 * n) :
    (∃ octets, decodeHex digits = some octets ∧ octets.length = n) ↔ digits.all isHexDigit = true := by
  induction n generalizing digits with
  | zero =>
    rw [Nat.mul_zero, List.length_eq_zero_iff] at hlength
    subst hlength
    exact iff_of_true ⟨[], rfl, rfl⟩ rfl
  | succ n ih =>
    match digits, hlength with
    | high :: low :: rest, hlength =>
      have hrest : rest.length = 2 * n := by
        simp only [List.length_cons] at hlength
        omega
      have hpair := @readOctet_isSome high low
      rw [decodeHex, List.all_cons, List.all_cons, ← Bool.and_assoc, ← hpair, Bool.and_eq_true, ← ih hrest]
      cases readOctet high low with
      | none => simp
      | some octet =>
        constructor
        · rintro ⟨octets, hoctets, hcount⟩
          refine ⟨rfl, ?_⟩
          cases hdecoded : decodeHex rest with
          | none =>
            rw [hdecoded] at hoctets
            cases hoctets
          | some others =>
            rw [hdecoded] at hoctets
            cases hoctets
            exact ⟨others, rfl, by simpa using hcount⟩
        · rintro ⟨-, others, hothers, hcount⟩
          rw [hothers]
          exact ⟨octet :: others, rfl, by simp [hcount]⟩

end Serde
