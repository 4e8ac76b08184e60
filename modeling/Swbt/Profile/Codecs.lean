import Swbt.Profile.KeyStore
import Swbt.Serde.Ascii
/-!
# The text codecs of a profile, on bytes

The readers and writers of addresses and link keys as the code has them, on the
bytes of a text, where an index beyond them is a panic. They panic on no text,
and do to its bytes what `LocalAddress.parse` and the others do to its
characters.
-/

set_option autoImplicit false

open Serde

namespace Swbt

namespace Bytes

/-- `as_bytes`. -/
def asBytes (value : String) : List UInt8 := utf8 value.toList

def colon : UInt8 := 0x3A

def isAsciiHexdigit (byte : UInt8) : Bool :=
  (0x30 ≤ byte && byte ≤ 0x39) || (0x41 ≤ byte && byte ≤ 0x46) || (0x61 ≤ byte && byte ≤ 0x66)

def isAsciiLowercase (byte : UInt8) : Bool := 0x61 ≤ byte && byte ≤ 0x7A

def hexNibble (byte : UInt8) : Option UInt8 :=
  if 0x30 ≤ byte ∧ byte ≤ 0x39 then some (byte - 0x30)
  else if 0x61 ≤ byte ∧ byte ≤ 0x66 then some (byte - 0x61 + 10)
  else if 0x41 ≤ byte ∧ byte ≤ 0x46 then some (byte - 0x41 + 10)
  else none

/-! ## Local addresses -/

/-- The octet whose digits stand at `3 * index`: nothing where an index is out
of bounds, no octet where a byte is no digit. -/
def octetAt (bytes : List UInt8) (index : Nat) : Option (Option UInt8) := do
  let high := hexNibble (← bytes[index * 3]?)
  let low := hexNibble (← bytes[index * 3 + 1]?)
  match high, low with
  | some high, some low => return some (high <<< 4 ||| low)
  | _, _ => return none

/-- The loop over the octets, which ends at the first that is none. -/
def readOctets (bytes : List UInt8) : (count : Nat) → Option (Option { octets : List UInt8 // octets.length = count })
  | 0 => some (some ⟨[], rfl⟩)
  | count + 1 => do
    match ← readOctets bytes count with
    | none => return none
    | some octets =>
      match ← octetAt bytes count with
      | none => return none
      | some octet => return some ⟨octets.val ++ [octet], by rw [List.length_append, octets.property]; rfl⟩

/-- `LocalAddress::parse`. -/
def parseLocalAddress (value : String) : Option (Except Error LocalAddress) :=
  let bytes := asBytes value
  if bytes.length ≠ 17 then some (.error LocalAddress.notationError)
  else do
    if ← colonIndices.anyM fun index => return (← bytes[index]?) != colon then return .error LocalAddress.notationError
    match ← readOctets bytes 6 with
    | none => return .error LocalAddress.notationError
    | some ⟨octets, hlength⟩ => return LocalAddress.tryFrom octets hlength

/-! ## Key names -/

/-- `is_bluetooth_address`. -/
def isBluetoothAddress (bytes : List UInt8) : Option Bool :=
  if bytes.length ≠ 17 then some false
  else do
    if ← colonIndices.allM fun index => return (← bytes[index]?) == colon then
      return bytes.zipIdx.all fun (byte, index) => colonIndices.contains index || isAsciiHexdigit byte
    else return false

/-- `is_canonical_bluetooth_address`. -/
def isCanonicalBluetoothAddress (bytes : List UInt8) : Option Bool := do
  if ← isBluetoothAddress bytes then return !bytes.any isAsciiLowercase else return false

/-- `BluetoothAddressKey::parse`, to the text of the key. -/
def parseAddressKey (value : String) : Option (Except Error String) := do
  if ← isCanonicalBluetoothAddress (asBytes value) then return .ok value
  else return .error (invalidProfile "profile key-store namespace must use an uppercase Bluetooth address")

/-- `strip_suffix("/P")`. -/
def stripPublicSuffix (bytes : List UInt8) : Option (List UInt8) :=
  if bytes.drop (bytes.length - 2) = [0x2F, 0x50] then some (bytes.take (bytes.length - 2)) else none

/-- `ClassicPeerKey::parse`, to the text of the key. -/
def parsePeerKey (value : String) : Option (Except Error String) :=
  let refused := .error (invalidProfile "profile key-store peer name must use an uppercase public Bluetooth address")
  match stripPublicSuffix (asBytes value) with
  | none => some refused
  | some address => do if ← isCanonicalBluetoothAddress address then return .ok value else return refused

/-! ## Link keys -/

/-- `0123456789ABCDEF`. -/
def HEX : List UInt8 :=
  [0x30, 0x31, 0x32, 0x33, 0x34, 0x35, 0x36, 0x37, 0x38, 0x39, 0x41, 0x42, 0x43, 0x44, 0x45, 0x46]

/-- `char::from`. -/
def toChar (byte : UInt8) : Char := Char.ofNat byte.toNat

def encodeChars : List UInt8 → Option (List Char)
  | [] => some []
  | byte :: rest => do
    let high ← HEX[(byte >>> 4).toNat]?
    let low ← HEX[(byte &&& 0x0F).toNat]?
    return toChar high :: toChar low :: (← encodeChars rest)

/-- `encode_hex`. -/
def encodeHex (bytes : List UInt8) : Option String := String.ofList <$> encodeChars bytes

/-- `chunks_exact(2)`. -/
def chunksExact : List UInt8 → List (List UInt8)
  | first :: second :: rest => [first, second] :: chunksExact rest
  | _ => []

/-- `u8::from_str_radix(_, 16)`: digits, perhaps after a sign, of a value that fits. -/
def fromStrRadix (src : String) : Option UInt8 :=
  let digits := match src.toList with
    | '+' :: first :: rest => first :: rest
    | chars => chars
  if digits = [] then none
  else digits.foldlM (fun result digit => do
    let value := 16 * result.toNat + (← Serde.hexNibble digit)
    if value < 256 then some (UInt8.ofNat value) else none) (0 : UInt8)

def decodePair (pair : List UInt8) : Option UInt8 := do fromStrRadix (← String.fromUTF8? pair.toByteArray)

/-- The loop over the outputs and the pairs, which ends with either. -/
def decodePairs : (outputs : List UInt8) → List (List UInt8) →
    Option { decoded : List UInt8 // decoded.length = outputs.length }
  | output :: outputs, pair :: pairs => do
    let octet ← decodePair pair
    let decoded ← decodePairs outputs pairs
    return ⟨octet :: decoded.val, by rw [List.length_cons, decoded.property]; rfl⟩
  | outputs, _ => some ⟨outputs, rfl⟩

/-- `decode_link_key`. -/
def decodeLinkKey (value : String) : Option LinkKeyBytes :=
  let bytes := asBytes value
  if bytes.length ≠ 32 ∨ ¬ bytes.all isAsciiHexdigit then none
  else do
    let decoded ← decodePairs (List.replicate 16 0) (chunksExact bytes)
    return ⟨decoded.val, decoded.property⟩

/-! ## Tests of bytes -/

/-- What is read in a character of ASCII is read in its byte. -/
theorem toUInt8_reads : ∀ c, IsAscii c → (c.toUInt8 == colon) = (c == ':') ∧
    isAsciiLowercase c.toUInt8 = Swbt.isAsciiLowercase c ∧
    hexNibble c.toUInt8 = (Serde.hexNibble c).map UInt8.ofNat :=
  forall_ascii (by decide +kernel)

/-- The value of a byte is that of its character. -/
theorem hexNibble_toUInt8 (c : Char) (hc : IsAscii c) : hexNibble c.toUInt8 = (Serde.hexNibble c).map UInt8.ofNat :=
  (toUInt8_reads c hc).2.2

theorem hexNibble_isSome (byte : UInt8) : (hexNibble byte).isSome = isAsciiHexdigit byte := by
  unfold hexNibble isAsciiHexdigit
  by_cases hdecimal : 0x30 ≤ byte ∧ byte ≤ 0x39
  · simp [hdecimal]
  · by_cases hlower : 0x61 ≤ byte ∧ byte ≤ 0x66
    · simp [hdecimal, hlower]
    · by_cases hupper : 0x41 ≤ byte ∧ byte ≤ 0x46
      · simp [hdecimal, hlower, hupper]
      · simp only [if_neg hdecimal, if_neg hlower, if_neg hupper, Option.isSome_none, Bool.false_eq, Bool.or_eq_false_iff]
        simp only [← Bool.decide_and, decide_eq_false_iff_not]
        exact ⟨⟨hdecimal, hupper⟩, hlower⟩

theorem toNat_lt_of_le {byte bound : UInt8} (hbound : bound.toNat < 128) (hle : byte ≤ bound) : byte.toNat < 128 :=
  Nat.lt_of_le_of_lt (UInt8.le_iff_toNat_le.1 hle) hbound

theorem hexdigit_same : SameTest isAsciiHexdigit isHexDigit where
  ascii c hc := by
    rw [← hexNibble_isSome, hexNibble_toUInt8 c hc, Option.isSome_map]
    rfl
  byte byte hdigit := by
    unfold isAsciiHexdigit at hdigit
    simp only [Bool.or_eq_true, Bool.and_eq_true, decide_eq_true_iff] at hdigit
    rcases hdigit with (⟨-, hle⟩ | ⟨-, hle⟩) | ⟨-, hle⟩
    all_goals exact toNat_lt_of_le (by decide) hle
  char _ := isAscii_of_isHexDigit

theorem lowercase_same : SameTest isAsciiLowercase Swbt.isAsciiLowercase where
  ascii c hc := (toUInt8_reads c hc).2.1
  byte byte hlower := by
    unfold isAsciiLowercase at hlower
    rw [Bool.and_eq_true, decide_eq_true_iff, decide_eq_true_iff] at hlower
    exact toNat_lt_of_le (by decide) hlower.2
  char c hlower := by
    unfold Swbt.isAsciiLowercase at hlower
    rw [Bool.and_eq_true, decide_eq_true_iff, decide_eq_true_iff] at hlower
    exact isAscii_of_le (by decide) hlower.2

theorem hexNibble_lt {digit : Char} {value : Nat} (h : Serde.hexNibble digit = some value) : value < 16 :=
  (hexNibble_spec h).1

/-! ## Address texts -/

/-- The checks of an address text, in one list of whatever units. -/
def AddressShape {α : Type} (isColon isDigit : α → Bool) (units : List α) : Prop :=
  units.length = 17 ∧ (∀ index ∈ colonIndices, (units[index]?).any isColon = true) ∧
    ∀ index < 17, index ∉ colonIndices → (units[index]?).any isDigit = true

theorem AddressShape.mem {α : Type} {isColon isDigit : α → Bool} {units : List α} (h : AddressShape isColon isDigit units)
    {unit : α} (hmem : unit ∈ units) : isColon unit = true ∨ isDigit unit = true := by
  obtain ⟨index, hindex, rfl⟩ := List.getElem_of_mem hmem
  have hget := List.getElem?_eq_getElem hindex
  by_cases hcolon : index ∈ colonIndices
  · have hchecked := h.2.1 index hcolon
    rw [hget] at hchecked
    exact .inl hchecked
  · have hchecked := h.2.2 index (h.1 ▸ hindex) hcolon
    rw [hget] at hchecked
    exact .inr hchecked

/-- A check in sequence of indices within the bytes panics nowhere. -/
theorem allM_index {bytes : List UInt8} {indices : List Nat} (hbound : ∀ index ∈ indices, index < bytes.length) :
    (indices.allM fun index => return (← bytes[index]?) == colon) =
      some (indices.all fun index => (bytes[index]?).any (· == colon)) := by
  induction indices with
  | nil => rfl
  | cons index rest ih =>
    rw [List.forall_mem_cons] at hbound
    rw [List.allM, List.all_cons, List.getElem?_eq_getElem hbound.1, ih hbound.2]
    change (match bytes[index] == colon with | true => _ | false => _) = some ((bytes[index] == colon) && _)
    cases bytes[index] == colon <;> rfl

theorem anyM_index {bytes : List UInt8} {indices : List Nat} (hbound : ∀ index ∈ indices, index < bytes.length) :
    (indices.anyM fun index => return (← bytes[index]?) != colon) =
      some (!indices.all fun index => (bytes[index]?).any (· == colon)) := by
  induction indices with
  | nil => rfl
  | cons index rest ih =>
    rw [List.forall_mem_cons] at hbound
    rw [List.anyM, List.all_cons, List.getElem?_eq_getElem hbound.1, ih hbound.2]
    change (match bytes[index] != colon with | true => _ | false => _) = some (!((bytes[index] == colon) && _))
    cases hcolon : bytes[index] == colon <;> simp [bne, hcolon]

/-- `is_bluetooth_address` panics on no bytes, and accepts those of its shape. -/
theorem isBluetoothAddress_spec (bytes : List UInt8) : ∃ accepted, isBluetoothAddress bytes = some accepted ∧
    (accepted = true ↔ AddressShape (· == colon) isAsciiHexdigit bytes) := by
  unfold isBluetoothAddress
  by_cases hlength : bytes.length = 17
  · have hbound : ∀ index ∈ colonIndices, index < bytes.length := by
      rw [hlength]
      decide
    rw [if_neg (not_not.2 hlength), allM_index hbound]
    refine ⟨_, (apply_ite some _ _ _).symm, ?_⟩
    by_cases hcolons : (colonIndices.all fun index => (bytes[index]?).any (· == colon)) = true
    · rw [if_pos hcolons, List.all_eq_true]
      rw [List.all_eq_true] at hcolons
      constructor
      · intro hdigits
        refine ⟨hlength, hcolons, fun index hindex hdigit => ?_⟩
        have hget := List.getElem?_eq_getElem (hlength ▸ hindex)
        have hchecked := hdigits (bytes[index], index) (List.mem_zipIdx_iff_getElem?.2 hget)
        rw [hget]
        simpa [hdigit] using hchecked
      · rintro ⟨-, -, hdigits⟩ ⟨byte, index⟩ hmem
        have hget := List.mem_zipIdx_iff_getElem?.1 hmem
        by_cases hcolon : index ∈ colonIndices
        · simp [hcolon]
        · have hindex : index < 17 := hlength ▸ (List.getElem?_eq_some_iff.1 hget).1
          have hchecked := hdigits index hindex hcolon
          rw [hget] at hchecked
          simpa [hcolon] using hchecked
    · rw [if_neg hcolons]
      refine iff_of_false Bool.false_ne_true fun hshape => hcolons ?_
      rw [List.all_eq_true]
      exact hshape.2.1
  · rw [if_pos hlength]
    exact ⟨false, rfl, iff_of_false Bool.false_ne_true fun hshape => hlength hshape.1⟩

/-- The characters of an address text have the same shape. -/
theorem isBluetoothAddress_shape (value : String) :
    Swbt.isBluetoothAddress value = true ↔ AddressShape (· == ':') isHexDigit value.toList := by
  unfold Swbt.isBluetoothAddress AddressShape
  rw [Bool.and_eq_true, Bool.and_eq_true, beq_iff_eq, List.all_eq_true, List.all_eq_true, and_assoc]
  refine and_congr_right fun hlength => and_congr (forall₂_congr fun index hindex => ?_) ?_
  · cases value.toList[index]? <;> simp
  · refine forall_congr' fun index => ?_
    rw [List.mem_range, Bool.or_eq_true, List.contains_iff_mem]
    exact imp_congr_right fun hindex => or_iff_not_imp_left

/-- Bytes have the shape of an address text where their characters have it. -/
theorem addressShape_utf8 (chars : List Char) :
    AddressShape (· == colon) isAsciiHexdigit (utf8 chars) ↔ AddressShape (· == ':') isHexDigit chars := by
  have hascii (hchars : ∀ c ∈ chars, IsAscii c) :
      AddressShape (· == colon) isAsciiHexdigit (utf8 chars) ↔ AddressShape (· == ':') isHexDigit chars := by
    rw [utf8_ascii hchars]
    unfold AddressShape
    rw [List.length_map]
    have hcolon : ∀ c, IsAscii c → (c.toUInt8 == colon) = (c == ':') := fun c hc => (toUInt8_reads c hc).1
    refine and_congr_right fun hlength => and_congr (forall₂_congr fun index hindex => ?_)
      (forall₃_congr fun index hindex hdigit => ?_)
    · rw [List.getElem?_map, Option.any_map]
      cases hget : chars[index]? with
      | none => rfl
      | some c => rw [Option.any_some, Option.any_some, hcolon c (hchars c (List.mem_of_getElem? hget))]
    · rw [List.getElem?_map, Option.any_map]
      cases hget : chars[index]? with
      | none => rfl
      | some c =>
        rw [Option.any_some, Option.any_some, hexdigit_same.ascii c
          (hchars c (List.mem_of_getElem? hget))]
  constructor
  · intro hshape
    refine (hascii (ascii_of_utf8 fun byte hmem => ?_)).1 hshape
    rcases hshape.mem hmem with hcolon | hdigit
    · rw [eq_of_beq hcolon]
      decide
    · exact hexdigit_same.byte byte hdigit
  · intro hshape
    refine (hascii fun c hmem => ?_).2 hshape
    rcases hshape.mem hmem with hcolon | hdigit
    · rw [eq_of_beq hcolon]
      decide
    · exact hexdigit_same.char c hdigit

theorem isBluetoothAddress_asBytes (value : String) :
    isBluetoothAddress (asBytes value) = some (Swbt.isBluetoothAddress value) := by
  obtain ⟨accepted, haccepted, hshape⟩ := isBluetoothAddress_spec (asBytes value)
  rw [asBytes, addressShape_utf8, ← isBluetoothAddress_shape, ← Bool.eq_iff_iff] at hshape
  rw [haccepted, hshape]

theorem isCanonicalBluetoothAddress_asBytes (value : String) :
    isCanonicalBluetoothAddress (asBytes value) = some (Swbt.isCanonicalBluetoothAddress value) := by
  unfold isCanonicalBluetoothAddress Swbt.isCanonicalBluetoothAddress
  rw [isBluetoothAddress_asBytes, asBytes, lowercase_same.any_utf8]
  cases Swbt.isBluetoothAddress value <;> rfl

theorem parseAddressKey_eq (value : String) :
    parseAddressKey value = some ((BluetoothAddressKey.parse value).map Subtype.val) := by
  unfold parseAddressKey BluetoothAddressKey.parse
  rw [isCanonicalBluetoothAddress_asBytes]
  by_cases hcanonical : Swbt.isCanonicalBluetoothAddress value = true
  · rw [dif_pos hcanonical, hcanonical]
    rfl
  · rw [dif_neg hcanonical, Bool.eq_false_iff.2 hcanonical]
    rfl

theorem stripPublicSuffix_concat {α : Type} [DecidableEq α] {units : List α} {first second : α}
    (h : units.drop (units.length - 2) = [first, second]) : units = units.take (units.length - 2) ++ [first, second] := by
  rw [← h, List.take_append_drop]

theorem stripPublicSuffix_asBytes (value : String) :
    stripPublicSuffix (asBytes value) = (Swbt.stripPublicSuffix value).map asBytes := by
  cases hchars : Swbt.stripPublicSuffix value with
  | some raw =>
    rw [stripPublicSuffix_eq_some] at hchars
    have hbytes : asBytes value = asBytes raw ++ [0x2F, 0x50] := by
      rw [hchars, asBytes, String.toList_append, utf8_append]
      rfl
    unfold stripPublicSuffix
    rw [hbytes]
    simp
  | none =>
    unfold stripPublicSuffix
    refine if_neg fun hdrop => ?_
    have hconcat := stripPublicSuffix_concat hdrop
    generalize (asBytes value).take ((asBytes value).length - 2) = bytes at hconcat
    rw [show bytes ++ [0x2F, 0x50] = bytes ++ [Char.toUInt8 '/'] ++ [Char.toUInt8 'P'] by simp; decide] at hconcat
    obtain ⟨rest, hvalue, hrest⟩ := utf8_concat (by decide) hconcat
    obtain ⟨raw, rfl, -⟩ := utf8_concat (by decide) hrest
    have hstrip : Swbt.stripPublicSuffix value = some (String.ofList raw) := by
      rw [stripPublicSuffix_eq_some]
      apply String.toList_injective
      rw [String.toList_append, String.toList_ofList, hvalue]
      simp
    rw [hchars] at hstrip
    cases hstrip

theorem parsePeerKey_eq (value : String) : parsePeerKey value = some ((ClassicPeerKey.parse value).map Subtype.val) := by
  unfold parsePeerKey ClassicPeerKey.parse
  rw [stripPublicSuffix_asBytes]
  by_cases hclassic : isClassicPeerName value = true
  · rw [dif_pos hclassic]
    unfold isClassicPeerName at hclassic
    cases hstrip : Swbt.stripPublicSuffix value with
    | none =>
      rw [hstrip] at hclassic
      cases hclassic
    | some raw =>
      rw [hstrip, Option.any_some] at hclassic
      dsimp only [Option.map_some]
      rw [isCanonicalBluetoothAddress_asBytes, hclassic]
      rfl
  · rw [dif_neg hclassic]
    unfold isClassicPeerName at hclassic
    cases hstrip : Swbt.stripPublicSuffix value with
    | none => rfl
    | some raw =>
      rw [hstrip, Option.any_some, Bool.not_eq_true] at hclassic
      dsimp only [Option.map_some]
      rw [isCanonicalBluetoothAddress_asBytes, hclassic]
      rfl

/-! ## Octets of an address -/

/-- Pairs of digits stand wherever an address text has no colon. -/
theorem AddressShape.ofPairs {α : Type} {isColon isDigit : α → Bool} {units : List α} (hlength : units.length = 17)
    (hcolons : ∀ index ∈ colonIndices, (units[index]?).any isColon = true)
    (hpairs : ∀ index < 6, (units[index * 3]?).any isDigit = true ∧ (units[index * 3 + 1]?).any isDigit = true) :
    AddressShape isColon isDigit units := by
  refine ⟨hlength, hcolons, fun index hindex hdigit => ?_⟩
  obtain ⟨hhigh, hlow⟩ := hpairs (index / 3) (by omega)
  have hplace : index = index / 3 * 3 ∨ index = index / 3 * 3 + 1 := by
    have hrest : index % 3 ≠ 2 := by
      intro hrest
      apply hdigit
      have hcolon : index = 2 ∨ index = 5 ∨ index = 8 ∨ index = 11 ∨ index = 14 := by omega
      simpa [colonIndices] using hcolon
    omega
  rcases hplace with hplace | hplace
  · rw [hplace]
    exact hhigh
  · rw [hplace]
    exact hlow

theorem AddressShape.pairs {α : Type} {isColon isDigit : α → Bool} {units : List α} (h : AddressShape isColon isDigit units)
    {index : Nat} (hindex : index < 6) :
    (units[index * 3]?).any isDigit = true ∧ (units[index * 3 + 1]?).any isDigit = true := by
  have hcolon : ∀ n, n ∈ colonIndices → n % 3 = 2 := by decide
  constructor
  · apply h.2.2 (index * 3) (by omega)
    intro hmem
    have hrest := hcolon _ hmem
    omega
  · apply h.2.2 (index * 3 + 1) (by omega)
    intro hmem
    have hrest := hcolon _ hmem
    omega

/-- An octet with its digits within the bytes. -/
theorem octetAt_spec {bytes : List UInt8} {index : Nat} (hbound : index * 3 + 1 < bytes.length) :
    ∃ octet, octetAt bytes index = some octet ∧ (octet.isSome = true ↔
      (bytes[index * 3]?).any isAsciiHexdigit = true ∧ (bytes[index * 3 + 1]?).any isAsciiHexdigit = true) := by
  have hhigh := List.getElem?_eq_getElem (show index * 3 < bytes.length by omega)
  have hlow := List.getElem?_eq_getElem hbound
  unfold octetAt
  rw [hhigh, hlow, Option.any_some, Option.any_some, ← hexNibble_isSome, ← hexNibble_isSome]
  change ∃ octet, (match hexNibble bytes[index * 3], hexNibble bytes[index * 3 + 1] with
    | some high, some low => some (some (high <<< 4 ||| low))
    | _, _ => some none) = some octet ∧ _
  cases hexNibble bytes[index * 3] <;> cases hexNibble bytes[index * 3 + 1] <;> simp

/-- The loop over the octets panics nowhere within the bytes, and reads the octets where all are digits. -/
theorem readOctets_spec {bytes : List UInt8} {count : Nat} (hbound : ∀ index < count, index * 3 + 1 < bytes.length) :
    ∃ octets, readOctets bytes count = some octets ∧ (octets.isSome = true ↔ ∀ index < count,
      (bytes[index * 3]?).any isAsciiHexdigit = true ∧ (bytes[index * 3 + 1]?).any isAsciiHexdigit = true) := by
  induction count with
  | zero => exact ⟨_, rfl, by simp⟩
  | succ count ih =>
    obtain ⟨octets, hoctets, hdigits⟩ := ih fun index hindex => hbound index (by omega)
    obtain ⟨octet, hoctet, hpair⟩ := octetAt_spec (hbound count (by omega))
    rw [readOctets, hoctets]
    simp only [Nat.lt_succ_iff_lt_or_eq, or_imp, forall_and, forall_eq] at hdigits ⊢
    cases octets with
    | none =>
      refine ⟨none, rfl, iff_of_false Bool.false_ne_true fun hall => ?_⟩
      exact absurd (hdigits.2 ⟨hall.1.1, hall.2.1⟩) Bool.false_ne_true
    | some octets =>
      rw [Option.bind_eq_bind, Option.bind_some, hoctet]
      cases octet with
      | none =>
        refine ⟨none, rfl, iff_of_false Bool.false_ne_true fun hall => ?_⟩
        exact absurd (hpair.2 ⟨hall.1.2, hall.2.2⟩) Bool.false_ne_true
      | some octet =>
        obtain ⟨hhigh, hlow⟩ := hdigits.1 rfl
        exact ⟨_, rfl, iff_of_true rfl ⟨⟨hhigh, (hpair.1 rfl).1⟩, hlow, (hpair.1 rfl).2⟩⟩

theorem isSome_octetAt {chars : List Char} {index : Nat} :
    (LocalAddress.octetAt chars index).isSome = true ↔
      (chars[3 * index]?).any isHexDigit = true ∧ (chars[3 * index + 1]?).any isHexDigit = true := by
  unfold LocalAddress.octetAt
  cases chars[3 * index]? with
  | none => simp
  | some high =>
    cases chars[3 * index + 1]? with
    | none => simp
    | some low => simp [readOctet_isSome]

theorem isSome_readOctets {chars : List Char} : (LocalAddress.readOctets chars).isSome = true ↔
    ∀ index < 6, (LocalAddress.octetAt chars index).isSome = true := by
  have hsix : (∀ index < 6, (LocalAddress.octetAt chars index).isSome = true) ↔
      (LocalAddress.octetAt chars 0).isSome = true ∧ (LocalAddress.octetAt chars 1).isSome = true ∧
        (LocalAddress.octetAt chars 2).isSome = true ∧ (LocalAddress.octetAt chars 3).isSome = true ∧
        (LocalAddress.octetAt chars 4).isSome = true ∧ (LocalAddress.octetAt chars 5).isSome = true := by
    simp only [Nat.forall_lt_succ_right, Nat.not_lt_zero, false_imp_iff, implies_true, true_and, and_assoc]
  rw [hsix]
  unfold LocalAddress.readOctets
  simp only [Option.bind_eq_bind, Option.isSome_iff_exists, Option.bind_eq_some_iff]
  constructor
  · rintro ⟨octets, o0, h0, o1, h1, o2, h2, o3, h3, o4, h4, o5, h5, -⟩
    exact ⟨⟨o0, h0⟩, ⟨o1, h1⟩, ⟨o2, h2⟩, ⟨o3, h3⟩, ⟨o4, h4⟩, ⟨o5, h5⟩⟩
  · rintro ⟨⟨o0, h0⟩, ⟨o1, h1⟩, ⟨o2, h2⟩, ⟨o3, h3⟩, ⟨o4, h4⟩, ⟨o5, h5⟩⟩
    exact ⟨_, o0, h0, o1, h1, o2, h2, o3, h3, o4, h4, o5, h5, rfl⟩

/-- `LocalAddress.parse` refuses a text of another shape as notation. -/
theorem parse_spec (value : String) :
    (AddressShape (· == ':') isHexDigit value.toList ∧ ∃ octets, LocalAddress.readOctets value.toList = some octets ∧
      LocalAddress.parse value = LocalAddress.tryFrom octets.val octets.property) ∨
    ¬ AddressShape (· == ':') isHexDigit value.toList ∧ LocalAddress.parse value = .error LocalAddress.notationError := by
  have hcolons : (∀ index ∈ colonIndices, (value.toList[index]?).any (· == ':') = true) ↔
      ¬ colonIndices.any (fun index => value.toList[index]? != some ':') = true := by
    rw [Bool.not_eq_true, List.any_eq_false]
    refine forall₂_congr fun index hindex => ?_
    cases value.toList[index]? <;> simp
  unfold LocalAddress.parse
  dsimp only
  by_cases hnotation : value.toList.length ≠ 17 ∨ colonIndices.any (fun index => value.toList[index]? != some ':') = true
  · rw [if_pos hnotation]
    refine .inr ⟨fun hshape => ?_, rfl⟩
    rcases hnotation with hlength | hcolon
    · exact hlength hshape.1
    · exact hcolons.1 hshape.2.1 hcolon
  · rw [if_neg hnotation]
    obtain ⟨hlength, hcolon⟩ := not_or.1 hnotation
    rw [← hcolons] at hcolon
    cases hread : LocalAddress.readOctets value.toList with
    | none =>
      refine .inr ⟨fun hshape => ?_, rfl⟩
      have hsome : (LocalAddress.readOctets value.toList).isSome = true := by
        refine isSome_readOctets.2 fun index hindex => isSome_octetAt.2 ?_
        rw [Nat.mul_comm]
        exact hshape.pairs hindex
      rw [hread] at hsome
      cases hsome
    | some octets =>
      refine .inl ⟨.ofPairs (not_not.1 hlength) hcolon fun index hindex => ?_, octets, rfl, rfl⟩
      have hsome := isSome_readOctets.1 (Option.isSome_of_mem hread) index hindex
      rw [Nat.mul_comm]
      exact isSome_octetAt.1 hsome

/-- `LocalAddress::parse` panics on no text, and refuses bytes of another shape as notation. -/
theorem parseLocalAddress_spec (value : String) :
    (AddressShape (· == colon) isAsciiHexdigit (asBytes value) ∧ ∃ octets, readOctets (asBytes value) 6 = some (some octets) ∧
      parseLocalAddress value = some (LocalAddress.tryFrom octets.val octets.property)) ∨
    ¬ AddressShape (· == colon) isAsciiHexdigit (asBytes value) ∧
      parseLocalAddress value = some (.error LocalAddress.notationError) := by
  unfold parseLocalAddress
  dsimp only
  by_cases hlength : (asBytes value).length = 17
  · have hbound : ∀ index ∈ colonIndices, index < (asBytes value).length := by
      rw [hlength]
      decide
    have hoctets : ∀ index < 6, index * 3 + 1 < (asBytes value).length := by omega
    rw [if_neg (not_not.2 hlength), anyM_index hbound]
    by_cases hcolons : (colonIndices.all fun index => ((asBytes value)[index]?).any (· == colon)) = true
    · obtain ⟨octets, hread, hdigits⟩ := readOctets_spec hoctets
      rw [hcolons, hread]
      rw [List.all_eq_true] at hcolons
      cases octets with
      | none =>
        refine .inr ⟨fun hshape => ?_, rfl⟩
        exact absurd (hdigits.2 fun index hindex => hshape.pairs hindex) Bool.false_ne_true
      | some octets => exact .inl ⟨.ofPairs hlength hcolons (hdigits.1 rfl), octets, rfl, rfl⟩
    · rw [Bool.eq_false_iff.2 hcolons]
      refine .inr ⟨fun hshape => hcolons ?_, rfl⟩
      rw [List.all_eq_true]
      exact hshape.2.1
  · rw [if_pos hlength]
    exact .inr ⟨fun hshape => hlength hshape.1, rfl⟩

/-- The octet of two bytes is that of their characters. -/
theorem octetAt_ascii {chars : List Char} (hchars : ∀ c ∈ chars, IsAscii c) {index : Nat} {octet : UInt8}
    (hoctet : LocalAddress.octetAt chars index = some octet) : octetAt (utf8 chars) index = some (some octet) := by
  have hjoin : ∀ high : Fin 16, ∀ low : Fin 16,
      UInt8.ofNat high <<< 4 ||| UInt8.ofNat low = UInt8.ofNat (16 * high + low) := by decide +kernel
  unfold LocalAddress.octetAt readOctet at hoctet
  simp only [Option.bind_eq_bind, Option.bind_eq_some_iff] at hoctet
  obtain ⟨high, hhigh, low, hlow, h, hh, l, hl, hvalue⟩ := hoctet
  unfold octetAt
  rw [utf8_ascii hchars, Nat.mul_comm, List.getElem?_map, List.getElem?_map, hhigh, hlow]
  simp only [Option.map_some, Option.bind_eq_bind, Option.bind_some]
  rw [hexNibble_toUInt8 high (hchars high (List.mem_of_getElem? hhigh)),
    hexNibble_toUInt8 low (hchars low (List.mem_of_getElem? hlow)), hh, hl]
  rw [← Option.some.inj hvalue, ← hjoin ⟨h, hexNibble_lt hh⟩ ⟨l, hexNibble_lt hl⟩]
  rfl

theorem readOctets_ascii {chars : List Char} (hchars : ∀ c ∈ chars, IsAscii c)
    {octets : { octets : List UInt8 // octets.length = 6 }} (hread : LocalAddress.readOctets chars = some octets) :
    readOctets (utf8 chars) 6 = some (some octets) := by
  unfold LocalAddress.readOctets at hread
  simp only [Option.bind_eq_bind, Option.bind_eq_some_iff] at hread
  obtain ⟨o0, h0, o1, h1, o2, h2, o3, h3, o4, h4, o5, h5, hoctets⟩ := hread
  cases hoctets
  simp only [readOctets, octetAt_ascii hchars h0, octetAt_ascii hchars h1, octetAt_ascii hchars h2, octetAt_ascii hchars h3,
    octetAt_ascii hchars h4, octetAt_ascii hchars h5, Option.bind_eq_bind, Option.bind_some]
  rfl

/-- Reading an address from bytes is reading it from characters. -/
theorem parseLocalAddress_eq (value : String) : parseLocalAddress value = some (LocalAddress.parse value) := by
  have hshape := addressShape_utf8 value.toList
  rcases parse_spec value with ⟨hchars, octets, hread, hparse⟩ | ⟨hchars, hparse⟩
  · have hascii : ∀ c ∈ value.toList, IsAscii c := by
      intro c hmem
      rcases hchars.mem hmem with hcolon | hdigit
      · rw [eq_of_beq hcolon]
        decide
      · exact hexdigit_same.char c hdigit
    have hbytes := readOctets_ascii hascii hread
    rcases parseLocalAddress_spec value with ⟨-, others, hothers, hresult⟩ | ⟨hnone, -⟩
    · rw [asBytes, hbytes] at hothers
      cases hothers
      rw [hresult, hparse]
    · exact absurd (hshape.2 hchars) hnone
  · rcases parseLocalAddress_spec value with ⟨hbytes, -⟩ | ⟨-, hresult⟩
    · exact absurd (hshape.1 hbytes) hchars
    · rw [hresult, hparse]

/-! ## Digits of a link key -/

/-- A written octet takes its digits from the table, and no index is beyond it. -/
theorem HEX_digits : ∀ byte : UInt8, (HEX[(byte >>> 4).toNat]?).map toChar = some (hexDigit (byte.toNat / 16)) ∧
    (HEX[(byte &&& 0x0F).toNat]?).map toChar = some (hexDigit (byte.toNat % 16)) := forall_byte (by decide +kernel)

theorem encodeChars_eq (bytes : List UInt8) : encodeChars bytes = some (Serde.encodeHex bytes) := by
  induction bytes with
  | nil => rfl
  | cons byte rest ih =>
    obtain ⟨hhigh, hlow⟩ := HEX_digits byte
    obtain ⟨high, hhigh, hdigit⟩ := Option.map_eq_some_iff.1 hhigh
    obtain ⟨low, hlow, hdigit'⟩ := Option.map_eq_some_iff.1 hlow
    rw [encodeChars, hhigh, hlow, ih]
    change some (toChar high :: toChar low :: Serde.encodeHex rest) = _
    rw [hdigit, hdigit']
    rfl

/-- `encode_hex` panics on no bytes. -/
theorem encodeHex_eq (bytes : List UInt8) : encodeHex bytes = some (String.ofList (Serde.encodeHex bytes)) := by
  rw [encodeHex, encodeChars_eq]
  rfl

/-- The bytes of a text are a text. -/
theorem fromUTF8_utf8 (chars : List Char) : String.fromUTF8? (utf8 chars).toByteArray = some (String.ofList chars) := by
  have hbytes : (utf8 chars).toByteArray = (String.ofList chars).toByteArray := String.toByteArray_ofList.symm
  have hvalid : (utf8 chars).toByteArray.IsValidUTF8 := by
    rw [hbytes, String.toByteArray_ofList]
    exact ByteArray.isValidUTF8_utf8Encode
  unfold String.fromUTF8?
  rw [dif_pos hvalid]
  exact congrArg some (String.toByteArray_inj.1 hbytes)

/-- A pair of digits is read without a sign and without overflow. -/
theorem fromStrRadix_digits {high low : Char} {h l : Nat} (hhigh : Serde.hexNibble high = some h)
    (hlow : Serde.hexNibble low = some l) : fromStrRadix (String.ofList [high, low]) = some (UInt8.ofNat (16 * h + l)) := by
  have hh := hexNibble_lt hhigh
  have hl := hexNibble_lt hlow
  have hsign : high ≠ '+' := by
    rintro rfl
    cases hhigh
  have hdigits : (match [high, low] with
      | '+' :: first :: rest => first :: rest
      | chars => chars) = [high, low] := by
    split
    · rename_i heq
      exact absurd (List.cons.inj heq).1 hsign
    · rfl
  unfold fromStrRadix
  rw [String.toList_ofList, hdigits]
  have hfirst : 16 * (0 : UInt8).toNat + h < 256 := by
    change 16 * 0 + h < 256
    omega
  have hsecond : 16 * h + l < 256 := by omega
  simp only [List.foldlM_cons, List.foldlM_nil, hhigh, hlow, Option.bind_eq_bind, Option.bind_some, if_pos hfirst,
    reduceCtorEq, if_false]
  rw [show 16 * (0 : UInt8).toNat + h = h from Nat.zero_add h, UInt8.toNat_ofNat_of_lt' (by change h < 256; omega),
    if_pos hsecond]
  rfl

theorem decodePair_digits {high low : Char} (hhigh : isHexDigit high = true) (hlow : isHexDigit low = true) :
    decodePair [high.toUInt8, low.toUInt8] = readOctet high low := by
  obtain ⟨h, hh⟩ := Option.isSome_iff_exists.1 hhigh
  obtain ⟨l, hl⟩ := Option.isSome_iff_exists.1 hlow
  have hascii : ∀ c ∈ [high, low], IsAscii c := by
    intro c hmem
    rcases List.mem_pair.1 hmem with rfl | rfl
    · exact isAscii_of_isHexDigit hhigh
    · exact isAscii_of_isHexDigit hlow
  have hbytes : [high.toUInt8, low.toUInt8] = utf8 [high, low] := (utf8_ascii hascii).symm
  rw [decodePair, hbytes, fromUTF8_utf8, readOctet, hh, hl]
  exact fromStrRadix_digits hh hl

/-- The loop over the pairs of digits fills every output. -/
theorem decodePairs_digits {outputs : List UInt8} {digits : List Char} (hlength : digits.length = 2 * outputs.length)
    (hdigits : digits.all isHexDigit = true) :
    (decodePairs outputs (chunksExact (digits.map Char.toUInt8))).map Subtype.val = decodeHex digits := by
  induction outputs generalizing digits with
  | nil =>
    rw [List.length_nil, Nat.mul_zero, List.length_eq_zero_iff] at hlength
    subst hlength
    rfl
  | cons output outputs ih =>
    match digits, hlength with
    | high :: low :: rest, hlength =>
      have hrest : rest.length = 2 * outputs.length := by
        simp only [List.length_cons] at hlength
        omega
      rw [List.all_cons, List.all_cons, Bool.and_eq_true, Bool.and_eq_true] at hdigits
      obtain ⟨hhigh, hlow, hothers⟩ := hdigits
      rw [List.map_cons, List.map_cons, chunksExact, decodePairs, decodePair_digits hhigh hlow, decodeHex, ← ih hrest hothers]
      cases readOctet high low with
      | none => rfl
      | some octet => cases decodePairs outputs (chunksExact (rest.map Char.toUInt8)) <;> rfl

/-- Decoding a link key from bytes is decoding it from characters. -/
theorem decodeLinkKey_eq (value : String) : decodeLinkKey value = Swbt.decodeLinkKey value := by
  have hall := hexdigit_same.all_utf8 value.toList
  unfold decodeLinkKey Swbt.decodeLinkKey
  dsimp only
  rw [asBytes, hall]
  by_cases hdigits : value.toList.all isHexDigit = true
  · have hascii : ∀ c ∈ value.toList, IsAscii c := fun c hmem => isAscii_of_isHexDigit (List.all_eq_true.1 hdigits c hmem)
    rw [utf8_ascii hascii, List.length_map]
    by_cases hlength : value.toList.length = 32
    · have hread := @decodePairs_digits (List.replicate 16 0) value.toList (by rw [hlength]; rfl) hdigits
      have hnotation : ¬ (value.toList.length ≠ 32 ∨ ¬ value.toList.all isHexDigit = true) := by
        rintro (hother | hother)
        · exact hother hlength
        · exact hother hdigits
      rw [if_neg hnotation, if_neg hnotation, ← hread]
      cases decodePairs (List.replicate 16 0) (chunksExact (value.toList.map Char.toUInt8)) with
      | none => rfl
      | some decoded =>
        have hsize : decoded.val.length = 16 := decoded.property
        change some _ = if length_bytes : decoded.val.length = 16 then some _ else none
        rw [dif_pos hsize]
    · rw [if_pos (.inl hlength), if_pos (.inl hlength)]
  · rw [if_pos (.inr hdigits), if_pos (.inr hdigits)]

end Bytes

end Swbt
