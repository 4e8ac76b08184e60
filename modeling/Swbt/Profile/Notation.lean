import Swbt.Profile.Codecs
import Swbt.Profile.Grammar
/-!
# The texts that the codecs accept

Addresses are six pairs of digits with colons between them, link keys are 32
digits. Every text that is read is written again in uppercase, and every value
that is written is read again.
-/

set_option autoImplicit false

open Serde

namespace Swbt

/-- Two digits of either case, for an octet. -/
inductive OctetDigits : List Char → UInt8 → Prop
  | pair {high low : Char} {h l : Nat} (hhigh : hexNibble high = some h) (hlow : hexNibble low = some l) :
      OctetDigits [high, low] (UInt8.ofNat (16 * h + l))

/-- The octets in pairs of digits, with colons between the pairs. -/
def AddressNotation (octets : List UInt8) (value : String) : Prop :=
  ∃ pairs, List.Forall₂ OctetDigits pairs octets ∧ value.toList = List.intercalate [':'] pairs

/-- An address text without a lowercase letter. -/
def CanonicalAddress (value : String) : Prop :=
  ∃ octets, octets.length = 6 ∧ AddressNotation octets value ∧ ∀ c ∈ value.toList, ¬ ('a' ≤ c ∧ c ≤ 'z')

/-! ## Digits -/

theorem OctetDigits.chars {pair : List Char} {octet : UInt8} (h : OctetDigits pair octet) :
    ∃ high low, pair = [high, low] ∧ readOctet high low = some octet := by
  cases h with
  | @pair high low h l hhigh hlow =>
    refine ⟨high, low, rfl, ?_⟩
    unfold readOctet
    rw [hhigh, hlow]
    rfl

theorem OctetDigits.ofRead {high low : Char} {octet : UInt8} (h : readOctet high low = some octet) :
    OctetDigits [high, low] octet := by
  unfold readOctet at h
  simp only [Option.bind_eq_bind, Option.bind_eq_some_iff] at h
  obtain ⟨high', hhigh, low', hlow, hoctet⟩ := h
  cases hoctet
  exact .pair hhigh hlow

theorem toUpper_hexDigit {c : Char} {value : Nat} (h : hexNibble c = some value) : hexDigit value = c.toUpper :=
  (hexNibble_spec h).2

/-- An octet is written in the uppercase of the digits it was read from. -/
theorem OctetDigits.upper {pair : List Char} {octet : UInt8} (h : OctetDigits pair octet) :
    octetText octet = pair.map Char.toUpper := by
  cases h with
  | @pair high low h l hhigh hlow =>
    have hh := Bytes.hexNibble_lt hhigh
    have hl := Bytes.hexNibble_lt hlow
    rw [octetText, UInt8.toNat_ofNat_of_lt' (by change _ < 256; omega), show (16 * h + l) / 16 = h by omega,
      show (16 * h + l) % 16 = l by omega, toUpper_hexDigit hhigh, toUpper_hexDigit hlow]
    rfl

/-- Digits are written back in uppercase. -/
theorem encodeHex_decodeHex {digits : List Char} {octets : List UInt8} (h : decodeHex digits = some octets) :
    encodeHex octets = digits.map Char.toUpper := by
  induction digits using decodeHex.induct generalizing octets with
  | case1 =>
    cases h
    rfl
  | case2 => cases h
  | case3 high low rest ih =>
    rw [decodeHex] at h
    simp only [Option.bind_eq_bind, Option.bind_eq_some_iff] at h
    obtain ⟨octet, hoctet, others, hothers, hcons⟩ := h
    cases hcons
    have hpair := (OctetDigits.ofRead hoctet).upper
    rw [encodeHex, List.flatMap_cons, hpair]
    exact congrArg (fun written => high.toUpper :: low.toUpper :: written) (ih hothers)

/-! ## Addresses -/

/-- Six pairs of digits in their places. -/
theorem addressNotation_chars {octets : List UInt8} {value : String} (hlength : octets.length = 6)
    (h : AddressNotation octets value) : ∃ a0 b0 a1 b1 a2 b2 a3 b3 a4 b4 a5 b5 : Char, ∃ o0 o1 o2 o3 o4 o5 : UInt8,
      value.toList = [a0, b0, ':', a1, b1, ':', a2, b2, ':', a3, b3, ':', a4, b4, ':', a5, b5] ∧
      octets = [o0, o1, o2, o3, o4, o5] ∧ readOctet a0 b0 = some o0 ∧ readOctet a1 b1 = some o1 ∧
      readOctet a2 b2 = some o2 ∧ readOctet a3 b3 = some o3 ∧ readOctet a4 b4 = some o4 ∧ readOctet a5 b5 = some o5 := by
  obtain ⟨pairs, hpairs, hvalue⟩ := h
  obtain ⟨o0, o1, o2, o3, o4, o5, rfl⟩ := octet_of_length hlength
  simp only [List.forall₂_cons_right_iff, List.forall₂_nil_right_iff] at hpairs
  obtain ⟨p0, _, h0, ⟨p1, _, h1, ⟨p2, _, h2, ⟨p3, _, h3, ⟨p4, _, h4, ⟨p5, _, h5, rfl, rfl⟩, rfl⟩, rfl⟩, rfl⟩, rfl⟩, rfl⟩ :=
    hpairs
  obtain ⟨a0, b0, rfl, r0⟩ := h0.chars
  obtain ⟨a1, b1, rfl, r1⟩ := h1.chars
  obtain ⟨a2, b2, rfl, r2⟩ := h2.chars
  obtain ⟨a3, b3, rfl, r3⟩ := h3.chars
  obtain ⟨a4, b4, rfl, r4⟩ := h4.chars
  obtain ⟨a5, b5, rfl, r5⟩ := h5.chars
  exact ⟨a0, b0, a1, b1, a2, b2, a3, b3, a4, b4, a5, b5, o0, o1, o2, o3, o4, o5, hvalue, rfl, r0, r1, r2, r3, r4, r5⟩

theorem addressNotation_of_chars {value : String} {a0 b0 a1 b1 a2 b2 a3 b3 a4 b4 a5 b5 : Char}
    {o0 o1 o2 o3 o4 o5 : UInt8}
    (hvalue : value.toList = [a0, b0, ':', a1, b1, ':', a2, b2, ':', a3, b3, ':', a4, b4, ':', a5, b5])
    (h0 : readOctet a0 b0 = some o0) (h1 : readOctet a1 b1 = some o1) (h2 : readOctet a2 b2 = some o2)
    (h3 : readOctet a3 b3 = some o3) (h4 : readOctet a4 b4 = some o4) (h5 : readOctet a5 b5 = some o5) :
    AddressNotation [o0, o1, o2, o3, o4, o5] value :=
  ⟨[[a0, b0], [a1, b1], [a2, b2], [a3, b3], [a4, b4], [a5, b5]],
    .cons (.ofRead h0) (.cons (.ofRead h1) (.cons (.ofRead h2) (.cons (.ofRead h3) (.cons (.ofRead h4)
      (.cons (.ofRead h5) .nil))))), hvalue⟩

/-- An address text is one of some octets. -/
theorem isBluetoothAddress_iff (value : String) :
    isBluetoothAddress value = true ↔ ∃ octets, octets.length = 6 ∧ AddressNotation octets value := by
  constructor
  · intro h
    obtain ⟨a0, b0, a1, b1, a2, b2, a3, b3, a4, b4, a5, b5, hvalue, hdigits⟩ := chars_of_isBluetoothAddress h
    simp only [List.forall_mem_cons] at hdigits
    obtain ⟨ha0, hb0, ha1, hb1, ha2, hb2, ha3, hb3, ha4, hb4, ha5, hb5, -⟩ := hdigits
    have hread (a b : Char) (ha : isHexDigit a = true) (hb : isHexDigit b = true) : ∃ octet, readOctet a b = some octet := by
      rw [← Option.isSome_iff_exists, readOctet_isSome, ha, hb]
      rfl
    obtain ⟨o0, h0⟩ := hread a0 b0 ha0 hb0
    obtain ⟨o1, h1⟩ := hread a1 b1 ha1 hb1
    obtain ⟨o2, h2⟩ := hread a2 b2 ha2 hb2
    obtain ⟨o3, h3⟩ := hread a3 b3 ha3 hb3
    obtain ⟨o4, h4⟩ := hread a4 b4 ha4 hb4
    obtain ⟨o5, h5⟩ := hread a5 b5 ha5 hb5
    exact ⟨_, rfl, addressNotation_of_chars hvalue h0 h1 h2 h3 h4 h5⟩
  · rintro ⟨octets, hlength, h⟩
    obtain ⟨a0, b0, a1, b1, a2, b2, a3, b3, a4, b4, a5, b5, o0, o1, o2, o3, o4, o5, hvalue, -, h0, h1, h2, h3, h4, h5⟩ :=
      addressNotation_chars hlength h
    refine isBluetoothAddress_ofList ?_ hvalue
    have hdigits (a b : Char) (o : UInt8) (hread : readOctet a b = some o) : isHexDigit a = true ∧ isHexDigit b = true := by
      rw [← Bool.and_eq_true, ← readOctet_isSome, hread]
      rfl
    simp only [List.forall_mem_cons, List.not_mem_nil, false_imp_iff, implies_true, and_true]
    exact ⟨(hdigits _ _ _ h0).1, (hdigits _ _ _ h0).2, (hdigits _ _ _ h1).1, (hdigits _ _ _ h1).2, (hdigits _ _ _ h2).1,
      (hdigits _ _ _ h2).2, (hdigits _ _ _ h3).1, (hdigits _ _ _ h3).2, (hdigits _ _ _ h4).1, (hdigits _ _ _ h4).2,
      (hdigits _ _ _ h5).1, (hdigits _ _ _ h5).2⟩

/-- The octets of an address text are read. -/
theorem readOctets_written {octets : List UInt8} {value : String} (hlength : octets.length = 6)
    (h : AddressNotation octets value) : LocalAddress.readOctets value.toList = some ⟨octets, hlength⟩ := by
  obtain ⟨a0, b0, a1, b1, a2, b2, a3, b3, a4, b4, a5, b5, o0, o1, o2, o3, o4, o5, hvalue, rfl, h0, h1, h2, h3, h4, h5⟩ :=
    addressNotation_chars hlength h
  rw [hvalue]
  simp only [LocalAddress.readOctets, LocalAddress.octetAt, List.getElem?_cons_zero, List.getElem?_cons_succ,
    Option.bind_eq_bind, Option.bind_some, Nat.mul_zero, Nat.zero_add, Nat.reduceMul, Nat.reduceAdd, h0, h1, h2, h3, h4, h5]
  rfl

/-- `LocalAddress.parse` takes the octets of an address text, and refuses every other text. -/
theorem parse_written {octets : List UInt8} {value : String} (hlength : octets.length = 6)
    (h : AddressNotation octets value) : LocalAddress.parse value = LocalAddress.tryFrom octets hlength := by
  rcases Bytes.parse_spec value with ⟨-, others, hread, hparse⟩ | ⟨hshape, -⟩
  · rw [readOctets_written hlength h] at hread
    cases hread
    exact hparse
  · rw [← Bytes.isBluetoothAddress_shape] at hshape
    exact absurd ((isBluetoothAddress_iff value).2 ⟨octets, hlength, h⟩) hshape

theorem tryFrom_eq_ok {octets : List UInt8} {hlength : octets.length = 6} {address : LocalAddress} :
    LocalAddress.tryFrom octets hlength = .ok address ↔ address.octets = octets := by
  constructor
  · intro h
    unfold LocalAddress.tryFrom at h
    split at h
    · split at h
      · split at h
        · cases h
          rfl
        · cases h
      · cases h
    · cases h
  · rintro rfl
    exact address.tryFrom_octets

/-- An address is read from its notations only. -/
theorem parse_eq_ok {value : String} {address : LocalAddress} :
    LocalAddress.parse value = .ok address ↔ AddressNotation address.octets value := by
  constructor
  · intro h
    rcases Bytes.parse_spec value with ⟨hshape, octets, hread, hparse⟩ | ⟨-, hparse⟩
    · obtain ⟨others, hlength, hothers⟩ := (isBluetoothAddress_iff value).1 ((Bytes.isBluetoothAddress_shape value).2 hshape)
      rw [parse_written hlength hothers] at h
      rw [tryFrom_eq_ok.1 h]
      exact hothers
    · rw [hparse] at h
      cases h
  · intro h
    rw [parse_written address.length_octets h]
    exact address.tryFrom_octets

/-- An address is written in the uppercase of what it was read from. -/
theorem format_written {octets : List UInt8} {value : String} (hlength : octets.length = 6)
    (h : AddressNotation octets value) : formatOctets octets = value.toUpper := by
  obtain ⟨a0, b0, a1, b1, a2, b2, a3, b3, a4, b4, a5, b5, o0, o1, o2, o3, o4, o5, hvalue, rfl, h0, h1, h2, h3, h4, h5⟩ :=
    addressNotation_chars hlength h
  apply String.toList_injective
  rw [formatOctets, String.toList_ofList, String.toUpper, String.toList_map, hvalue]
  simp only [List.map_cons, List.map_nil, (OctetDigits.ofRead h0).upper, (OctetDigits.ofRead h1).upper,
    (OctetDigits.ofRead h2).upper, (OctetDigits.ofRead h3).upper, (OctetDigits.ofRead h4).upper,
    (OctetDigits.ofRead h5).upper]
  rfl

/-! ## The codecs -/

theorem parseLocalAddress_ok {value : String} {address : LocalAddress} :
    Bytes.parseLocalAddress value = some (.ok address) ↔ AddressNotation address.octets value := by
  rw [Bytes.parseLocalAddress_eq, Option.some.injEq, parse_eq_ok]

/-- A key text is read as it stands. -/
theorem keyText_ok {p : Prop} [Decidable p] {q : String → Prop} {value key : String} {error : Error} (hq : p → q value) :
    (if h : p then (.ok ⟨value, hq h⟩ : Except Error { value : String // q value }) else .error error).map Subtype.val =
      .ok key ↔ key = value ∧ p := by
  by_cases h : p
  · rw [dif_pos h]
    change Except.ok value = .ok key ↔ _
    rw [Except.ok.injEq, eq_comm, and_iff_left h]
  · rw [dif_neg h]
    exact iff_of_false nofun fun hboth => h hboth.2

theorem isCanonicalBluetoothAddress_iff (value : String) :
    isCanonicalBluetoothAddress value = true ↔ CanonicalAddress value := by
  have hlower : (!value.toList.any isAsciiLowercase) = true ↔ ∀ c ∈ value.toList, ¬ ('a' ≤ c ∧ c ≤ 'z') := by
    rw [Bool.not_eq_true', List.any_eq_false]
    refine forall₂_congr fun c hmem => not_congr ?_
    rw [isAsciiLowercase, Bool.and_eq_true, decide_eq_true_iff, decide_eq_true_iff]
  unfold isCanonicalBluetoothAddress CanonicalAddress
  rw [Bool.and_eq_true, isBluetoothAddress_iff, hlower]
  constructor
  · rintro ⟨⟨octets, hlength, hnotation⟩, hupper⟩
    exact ⟨octets, hlength, hnotation, hupper⟩
  · rintro ⟨octets, hlength, hnotation, hupper⟩
    exact ⟨⟨octets, hlength, hnotation⟩, hupper⟩

theorem isClassicPeerName_iff (value : String) :
    isClassicPeerName value = true ↔ ∃ address, CanonicalAddress address ∧ value = address ++ "/P" := by
  unfold isClassicPeerName
  rw [Option.any_eq_true]
  refine exists_congr fun address => ?_
  rw [stripPublicSuffix_eq_some, isCanonicalBluetoothAddress_iff, and_comm]

theorem parseAddressKey_ok {value key : String} :
    Bytes.parseAddressKey value = some (.ok key) ↔ key = value ∧ CanonicalAddress value := by
  rw [Bytes.parseAddressKey_eq, Option.some.injEq, ← isCanonicalBluetoothAddress_iff]
  exact keyText_ok id

theorem parsePeerKey_ok {value key : String} : Bytes.parsePeerKey value = some (.ok key) ↔
    key = value ∧ ∃ address, CanonicalAddress address ∧ value = address ++ "/P" := by
  rw [Bytes.parsePeerKey_eq, Option.some.injEq, ← isClassicPeerName_iff]
  exact keyText_ok id

theorem decodeHex_of_decodeLinkKey {value : String} {key : LinkKeyBytes} (h : decodeLinkKey value = some key) :
    decodeHex value.toList = some key.bytes := by
  unfold decodeLinkKey at h
  split at h
  · cases h
  · obtain ⟨bytes, hbytes, hkey⟩ := Option.bind_eq_some_iff.1 h
    split at hkey
    · cases hkey
      exact hbytes
    · cases hkey

theorem decodeLinkKey_accepts (value : String) : (∃ key, decodeLinkKey value = some key) ↔
    value.toList.length = 32 ∧ ∀ c ∈ value.toList, isHexDigit c = true := by
  rw [decodeLinkKey_isSome, IsLinkKeyText, List.all_eq_true]

/-- On every text and every value: addresses and link keys are read from their
notations only and written in uppercase, what is written is read again, key
names are canonical and stay as they are, and nothing panics. -/
theorem text_codecs :
    (∀ value, (∃ address, Bytes.parseLocalAddress value = some (.ok address)) ↔
      ∃ octets, octets.length = 6 ∧ AddressNotation octets value ∧ octets.getD 0 0 &&& 0x01 = 0 ∧
        octets.getD 0 0 &&& 0x02 ≠ 0 ∧ ¬ (0x9E8B00 ≤ addressLap octets ∧ addressLap octets ≤ 0x9E8B3F)) ∧
    (∀ value address, Bytes.parseLocalAddress value = some (.ok address) ↔ AddressNotation address.octets value) ∧
    (∀ address, Bytes.parseLocalAddress address.format = some (.ok address)) ∧
    (∀ value address, Bytes.parseLocalAddress value = some (.ok address) → address.format = value.toUpper) ∧
    (∀ value, (∃ key, Bytes.decodeLinkKey value = some key) ↔
      value.toList.length = 32 ∧ ∀ c ∈ value.toList, isHexDigit c = true) ∧
    (∀ key : LinkKeyBytes, ∃ text, Bytes.encodeHex key.bytes = some text ∧ Bytes.decodeLinkKey text = some key) ∧
    (∀ value key, Bytes.decodeLinkKey value = some key → Bytes.encodeHex key.bytes = some value.toUpper) ∧
    (∀ value key, Bytes.parseAddressKey value = some (.ok key) ↔ key = value ∧ CanonicalAddress value) ∧
    (∀ value key, Bytes.parsePeerKey value = some (.ok key) ↔
      key = value ∧ ∃ address, CanonicalAddress address ∧ value = address ++ "/P") ∧
    (∀ value, Bytes.parseLocalAddress value ≠ none ∧ Bytes.parseAddressKey value ≠ none ∧ Bytes.parsePeerKey value ≠ none) ∧
    ∀ bytes, Bytes.encodeHex bytes ≠ none := by
  refine ⟨?_, fun value address => parseLocalAddress_ok, ?_, ?_, ?_, ?_, ?_, fun value key => parseAddressKey_ok,
    fun value key => parsePeerKey_ok, ?_, ?_⟩
  · intro value
    constructor
    · rintro ⟨address, h⟩
      exact ⟨address.octets, address.length_octets, parseLocalAddress_ok.1 h, address.individual, address.administered,
        address.unreserved⟩
    · rintro ⟨octets, hlength, hnotation, hindividual, hadministered, hunreserved⟩
      exact ⟨⟨octets, hlength, hindividual, hadministered, hunreserved⟩, parseLocalAddress_ok.2 hnotation⟩
  · intro address
    rw [Bytes.parseLocalAddress_eq, LocalAddress.parse_format]
  · intro value address h
    exact format_written address.length_octets (parseLocalAddress_ok.1 h)
  · intro value
    simp only [Bytes.decodeLinkKey_eq]
    exact decodeLinkKey_accepts value
  · intro key
    refine ⟨_, Bytes.encodeHex_eq key.bytes, ?_⟩
    rw [Bytes.decodeLinkKey_eq]
    exact decodeLinkKey_encodeHex key
  · intro value key h
    rw [Bytes.decodeLinkKey_eq] at h
    rw [Bytes.encodeHex_eq, encodeHex_decodeHex (decodeHex_of_decodeLinkKey h)]
    exact congrArg some (String.toList_injective (by rw [String.toList_ofList, String.toUpper, String.toList_map]))
  · intro value
    rw [Bytes.parseLocalAddress_eq, Bytes.parseAddressKey_eq, Bytes.parsePeerKey_eq]
    exact ⟨nofun, nofun, nofun⟩
  · intro bytes
    rw [Bytes.encodeHex_eq]
    exact nofun

/-- A lowercase address is read, and written in uppercase. -/
theorem text_codecs_lowercase : ∃ address,
    Bytes.parseLocalAddress "02:00:00:0a:0b:0c" = some (.ok address) ∧ address.format = "02:00:00:0a:0b:0c".toUpper := by
  obtain ⟨haccepts, -, -, hupper, -⟩ := text_codecs
  have hnotation : AddressNotation [2, 0, 0, 10, 11, 12] "02:00:00:0a:0b:0c" := by
    have hvalue : "02:00:00:0a:0b:0c".toList =
        ['0', '2', ':', '0', '0', ':', '0', '0', ':', '0', 'a', ':', '0', 'b', ':', '0', 'c'] := by decide +kernel
    exact addressNotation_of_chars hvalue (by decide +kernel) (by decide +kernel) (by decide +kernel) (by decide +kernel)
      (by decide +kernel) (by decide +kernel)
  obtain ⟨address, haddress⟩ := (haccepts _).2 ⟨_, rfl, hnotation, by decide, by decide, by decide⟩
  exact ⟨address, haddress, hupper _ _ haddress⟩

end Swbt
