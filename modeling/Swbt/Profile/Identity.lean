import Mathlib.Data.List.OfFn
import Swbt.Core.Input
import Swbt.Serde.Hex
/-!
# Addresses of a profile

Local addresses, with the checks that make one, and the address texts that
name the namespaces and the peers of a key store.
-/

set_option autoImplicit false

open Serde

namespace Swbt

/-! ## Address texts -/

/-- Six octets as `XX:XX:XX:XX:XX:XX`, uppercase. -/
def formatOctets (octets : List UInt8) : String := String.ofList (List.intercalate [':'] (octets.map octetText))

/-- The characters that are colons in an address text. -/
def colonIndices : List Nat := [2, 5, 8, 11, 14]

/-- `is_bluetooth_address`. The code looks at bytes: no character beyond ASCII
has bytes that pass its checks. -/
def isBluetoothAddress (value : String) : Bool :=
  let chars := value.toList
  chars.length == 17 && colonIndices.all (fun index => chars[index]? == some ':') &&
    (List.range 17).all fun index => colonIndices.contains index || (chars[index]?).any isHexDigit

def isAsciiLowercase (c : Char) : Bool := 'a' ≤ c && c ≤ 'z'

def isCanonicalBluetoothAddress (value : String) : Bool := isBluetoothAddress value && !value.toList.any isAsciiLowercase

theorem toList_formatOctets (o0 o1 o2 o3 o4 o5 : UInt8) : (formatOctets [o0, o1, o2, o3, o4, o5]).toList =
    [hexDigit (o0.toNat / 16), hexDigit (o0.toNat % 16), ':', hexDigit (o1.toNat / 16), hexDigit (o1.toNat % 16), ':',
      hexDigit (o2.toNat / 16), hexDigit (o2.toNat % 16), ':', hexDigit (o3.toNat / 16), hexDigit (o3.toNat % 16), ':',
      hexDigit (o4.toNat / 16), hexDigit (o4.toNat % 16), ':', hexDigit (o5.toNat / 16), hexDigit (o5.toNat % 16)] := by
  rw [formatOctets, String.toList_ofList]
  rfl

theorem octet_of_length {octets : List UInt8} (hlength : octets.length = 6) :
    ∃ o0 o1 o2 o3 o4 o5, octets = [o0, o1, o2, o3, o4, o5] := by
  match octets, hlength with
  | [o0, o1, o2, o3, o4, o5], _ => exact ⟨o0, o1, o2, o3, o4, o5, rfl⟩

/-- Two digits for each octet and colons between them make an address. -/
theorem isBluetoothAddress_ofList {a0 b0 a1 b1 a2 b2 a3 b3 a4 b4 a5 b5 : Char}
    (hdigits : ∀ c ∈ [a0, b0, a1, b1, a2, b2, a3, b3, a4, b4, a5, b5], isHexDigit c = true) {value : String}
    (hvalue : value.toList = [a0, b0, ':', a1, b1, ':', a2, b2, ':', a3, b3, ':', a4, b4, ':', a5, b5]) :
    isBluetoothAddress value = true := by
  simp only [List.forall_mem_cons] at hdigits
  unfold isBluetoothAddress
  rw [hvalue]
  simp [List.range, List.range.loop, colonIndices, hdigits]

/-- Written addresses are canonical. -/
theorem canonical_formatOctets {octets : List UInt8} (hlength : octets.length = 6) :
    isCanonicalBluetoothAddress (formatOctets octets) = true := by
  obtain ⟨o0, o1, o2, o3, o4, o5, rfl⟩ := octet_of_length hlength
  have hhigh : ∀ o : UInt8, o.toNat / 16 < 16 := fun o => by have := o.toNat_lt; omega
  have hlow : ∀ o : UInt8, o.toNat % 16 < 16 := fun o => Nat.mod_lt _ (by decide)
  have hcase : ∀ n, n < 16 → isAsciiLowercase (hexDigit n) = false := by
    intro n hn
    have hupper := (hexDigit_upper hn).2
    simpa [isAsciiLowercase, Bool.and_eq_false_iff] using hupper
  have hcolon : isAsciiLowercase ':' = false := rfl
  have haddress : isBluetoothAddress (formatOctets [o0, o1, o2, o3, o4, o5]) = true := by
    refine isBluetoothAddress_ofList ?_ (toList_formatOctets o0 o1 o2 o3 o4 o5)
    simp only [List.forall_mem_cons, List.not_mem_nil, false_imp_iff, implies_true, and_true]
    simp only [(hexDigit_upper (hhigh _)).1, (hexDigit_upper (hlow _)).1, and_self]
  unfold isCanonicalBluetoothAddress
  rw [haddress, toList_formatOctets]
  simp only [List.any_cons, List.any_nil, hcase _ (hhigh _), hcase _ (hlow _), hcolon]
  rfl

theorem octet_of_digits {octet other : UInt8} (hhigh : hexDigit (octet.toNat / 16) = hexDigit (other.toNat / 16))
    (hlow : hexDigit (octet.toNat % 16) = hexDigit (other.toNat % 16)) : octet = other := by
  have hread := readOctet_octetText octet
  rw [hhigh, hlow, readOctet_octetText other] at hread
  exact (Option.some.inj hread).symm

/-- Different octets have different texts. -/
theorem formatOctets_injective {octets others : List UInt8} (hoctets : octets.length = 6) (hothers : others.length = 6)
    (hsame : formatOctets octets = formatOctets others) : octets = others := by
  obtain ⟨o0, o1, o2, o3, o4, o5, rfl⟩ := octet_of_length hoctets
  obtain ⟨p0, p1, p2, p3, p4, p5, rfl⟩ := octet_of_length hothers
  have hchars := congrArg String.toList hsame
  rw [toList_formatOctets, toList_formatOctets] at hchars
  simp only [List.cons.injEq, true_and, and_true] at hchars
  obtain ⟨h0, l0, h1, l1, h2, l2, h3, l3, h4, l4, h5, l5⟩ := hchars
  rw [octet_of_digits h0 l0, octet_of_digits h1 l1, octet_of_digits h2 l2, octet_of_digits h3 l3, octet_of_digits h4 l4,
    octet_of_digits h5 l5]

/-- The digits of an address text. -/
theorem chars_of_length {chars : List Char} (hlength : chars.length = 17) :
    ∃ a0 b0 c0 a1 b1 c1 a2 b2 c2 a3 b3 c3 a4 b4 c4 a5 b5 : Char,
      chars = [a0, b0, c0, a1, b1, c1, a2, b2, c2, a3, b3, c3, a4, b4, c4, a5, b5] := by
  rw [← List.ofFn_get chars, List.ofFn_congr hlength]
  exact ⟨_, _, _, _, _, _, _, _, _, _, _, _, _, _, _, _, _, rfl⟩

theorem chars_of_isBluetoothAddress {value : String} (h : isBluetoothAddress value = true) :
    ∃ a0 b0 a1 b1 a2 b2 a3 b3 a4 b4 a5 b5 : Char,
      value.toList = [a0, b0, ':', a1, b1, ':', a2, b2, ':', a3, b3, ':', a4, b4, ':', a5, b5] ∧
        ∀ c ∈ [a0, b0, a1, b1, a2, b2, a3, b3, a4, b4, a5, b5], isHexDigit c = true := by
  unfold isBluetoothAddress at h
  generalize value.toList = chars at h ⊢
  simp only [Bool.and_eq_true, beq_iff_eq] at h
  obtain ⟨⟨hlength, hcolons⟩, hdigits⟩ := h
  obtain ⟨a0, b0, c0, a1, b1, c1, a2, b2, c2, a3, b3, c3, a4, b4, c4, a5, b5, rfl⟩ := chars_of_length hlength
  simp [colonIndices] at hcolons
  simp [List.range, List.range.loop, colonIndices] at hdigits
  obtain ⟨rfl, rfl, rfl, rfl, rfl⟩ := hcolons
  exact ⟨a0, b0, a1, b1, a2, b2, a3, b3, a4, b4, a5, b5, rfl, by simp [hdigits]⟩

/-- Every canonical address is written from its octets. -/
theorem octets_of_canonical {value : String} (h : isCanonicalBluetoothAddress value = true) :
    ∃ octets, octets.length = 6 ∧ formatOctets octets = value := by
  unfold isCanonicalBluetoothAddress at h
  rw [Bool.and_eq_true, Bool.not_eq_true'] at h
  obtain ⟨a0, b0, a1, b1, a2, b2, a3, b3, a4, b4, a5, b5, hchars, hdigits⟩ := chars_of_isBluetoothAddress h.1
  have hupper : ∀ c ∈ value.toList, ¬ ('a' ≤ c ∧ c ≤ 'z') := by
    intro c hmem hlower
    have hnone := List.any_eq_false.1 h.2 c hmem
    exact hnone (by simpa [isAsciiLowercase] using hlower)
  rw [hchars] at hupper
  have hpair : ∀ a b : Char, isHexDigit a = true → isHexDigit b = true → ¬ ('a' ≤ a ∧ a ≤ 'z') → ¬ ('a' ≤ b ∧ b ≤ 'z') →
      ∃ octet, octetText octet = [a, b] := by
    intro a b ha hb hua hub
    obtain ⟨high, hhigh, rfl⟩ := hexDigit_surjective ha hua
    obtain ⟨low, hlow, rfl⟩ := hexDigit_surjective hb hub
    refine ⟨UInt8.ofNat (16 * high + low), ?_⟩
    rw [octetText, UInt8.toNat_ofNat_of_lt' (by change _ < 256; omega)]
    rw [show (16 * high + low) / 16 = high by omega, show (16 * high + low) % 16 = low by omega]
  simp only [List.forall_mem_cons] at hdigits hupper
  obtain ⟨ha0, hb0, ha1, hb1, ha2, hb2, ha3, hb3, ha4, hb4, ha5, hb5, -⟩ := hdigits
  obtain ⟨ua0, ub0, -, ua1, ub1, -, ua2, ub2, -, ua3, ub3, -, ua4, ub4, -, ua5, ub5, -⟩ := hupper
  obtain ⟨o0, h0⟩ := hpair a0 b0 ha0 hb0 ua0 ub0
  obtain ⟨o1, h1⟩ := hpair a1 b1 ha1 hb1 ua1 ub1
  obtain ⟨o2, h2⟩ := hpair a2 b2 ha2 hb2 ua2 ub2
  obtain ⟨o3, h3⟩ := hpair a3 b3 ha3 hb3 ua3 ub3
  obtain ⟨o4, h4⟩ := hpair a4 b4 ha4 hb4 ua4 ub4
  obtain ⟨o5, h5⟩ := hpair a5 b5 ha5 hb5 ua5 ub5
  refine ⟨[o0, o1, o2, o3, o4, o5], rfl, String.toList_injective ?_⟩
  rw [formatOctets, String.toList_ofList, hchars, List.map_cons, List.map_cons, List.map_cons, List.map_cons,
    List.map_cons, List.map_cons, List.map_nil, h0, h1, h2, h3, h4, h5]
  rfl

/-! ## Local addresses -/

/-- The lower three octets of an address. -/
def addressLap (octets : List UInt8) : Nat :=
  2 ^ 16 * (octets.getD 3 0).toNat + 2 ^ 8 * (octets.getD 4 0).toNat + (octets.getD 5 0).toNat

/-- An individual, locally administered address outside the reserved inquiry LAPs. -/
structure LocalAddress where
  octets : List UInt8
  length_octets : octets.length = 6
  individual : octets.getD 0 0 &&& 0x01 = 0
  administered : octets.getD 0 0 &&& 0x02 ≠ 0
  unreserved : ¬ (0x9E8B00 ≤ addressLap octets ∧ addressLap octets ≤ 0x9E8B3F)
deriving DecidableEq

namespace LocalAddress

/-- `LocalAddress::try_from`, of six octets. -/
def tryFrom (octets : List UInt8) (length_octets : octets.length = 6) : Except Error LocalAddress :=
  if individual : octets.getD 0 0 &&& 0x01 = 0 then
    if administered : octets.getD 0 0 &&& 0x02 ≠ 0 then
      if unreserved : ¬ (0x9E8B00 ≤ addressLap octets ∧ addressLap octets ≤ 0x9E8B3F) then
        .ok ⟨octets, length_octets, individual, administered, unreserved⟩
      else .error ⟨.invalidInput, "local address must not use a reserved inquiry LAP"⟩
    else .error ⟨.invalidInput, "local address must be locally administered"⟩
  else .error ⟨.invalidInput, "local address must be an individual address"⟩

/-- The octet whose digits stand at `3 * index`. -/
def octetAt (chars : List Char) (index : Nat) : Option UInt8 := do
  readOctet (← chars[3 * index]?) (← chars[3 * index + 1]?)

def readOctets (chars : List Char) : Option { octets : List UInt8 // octets.length = 6 } := do
  return ⟨[← octetAt chars 0, ← octetAt chars 1, ← octetAt chars 2, ← octetAt chars 3, ← octetAt chars 4,
    ← octetAt chars 5], rfl⟩

def notationError : Error :=
  ⟨.invalidInput, "local address must contain six hexadecimal octets in XX:XX:XX:XX:XX:XX form"⟩

def parse (value : String) : Except Error LocalAddress :=
  let chars := value.toList
  if chars.length ≠ 17 ∨ colonIndices.any (fun index => chars[index]? != some ':') then .error notationError
  else match readOctets chars with
    | none => .error notationError
    | some octets => tryFrom octets.val octets.property

/-- `format_local_address`. -/
def format (address : LocalAddress) : String := formatOctets address.octets

theorem tryFrom_octets (address : LocalAddress) : tryFrom address.octets address.length_octets = .ok address := by
  unfold tryFrom
  rw [dif_pos address.individual, dif_pos address.administered, dif_pos address.unreserved]

/-- A written address is read back. -/
theorem readOctets_formatOctets {octets : List UInt8} (hlength : octets.length = 6) :
    readOctets (formatOctets octets).toList = some ⟨octets, hlength⟩ := by
  obtain ⟨o0, o1, o2, o3, o4, o5, rfl⟩ := octet_of_length hlength
  have hread := readOctet_octetText
  rw [toList_formatOctets]
  simp only [readOctets, octetAt, List.getElem?_cons_zero, List.getElem?_cons_succ, Option.bind_eq_bind, Option.bind_some,
    Nat.mul_zero, Nat.zero_add, Nat.reduceMul, Nat.reduceAdd, hread]
  rfl

theorem parse_format (address : LocalAddress) : parse address.format = .ok address := by
  have hread := readOctets_formatOctets address.length_octets
  have hcolons : ¬ ((formatOctets address.octets).toList.length ≠ 17 ∨
      colonIndices.any (fun index => (formatOctets address.octets).toList[index]? != some ':') = true) := by
    obtain ⟨o0, o1, o2, o3, o4, o5, hoctets⟩ := octet_of_length address.length_octets
    rw [hoctets, toList_formatOctets]
    simp [colonIndices]
  unfold parse format
  dsimp only
  rw [if_neg hcolons, hread]
  exact tryFrom_octets address

end LocalAddress

end Swbt
