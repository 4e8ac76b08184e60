import Swbt.Serde.Hex
/-!
# ASCII in UTF-8

A character of ASCII is one byte, its code, and every byte of another character
lies beyond ASCII. So what looks at the bytes of a text for characters of ASCII
looks at its characters.
-/

set_option autoImplicit false

namespace Serde

/-- The bytes of a text. -/
def utf8 (chars : List Char) : List UInt8 := chars.flatMap String.utf8EncodeChar

abbrev IsAscii (c : Char) : Prop := c.toNat < 128

theorem utf8EncodeChar_ascii {c : Char} (hc : IsAscii c) : String.utf8EncodeChar c = [c.toUInt8] := by
  have hcode : c.val.toNat ≤ 0x7F := Nat.le_of_lt_succ hc
  unfold String.utf8EncodeChar
  rw [if_pos hcode]
  rfl

/-- The bytes of a character beyond ASCII lie beyond ASCII. -/
theorem high_of_mem_utf8EncodeChar {c : Char} (hc : ¬ IsAscii c) {byte : UInt8}
    (hmem : byte ∈ String.utf8EncodeChar c) : 128 ≤ byte.toNat := by
  have hcode : ¬ c.val.toNat ≤ 0x7F := fun hle => hc (Nat.lt_succ_of_le hle)
  have hbound (n : Nat) (hlow : 128 ≤ n) (hhigh : n < 256) : 128 ≤ (UInt8.ofNat n).toNat := by
    rw [UInt8.toNat_ofNat_of_lt' hhigh]
    exact hlow
  unfold String.utf8EncodeChar at hmem
  generalize c.val.toNat = code at hcode hmem
  dsimp only at hmem
  rw [if_neg hcode] at hmem
  -- Every lead byte is at least 0xC0, every other one at least 0x80.
  split at hmem
  · simp only [List.mem_cons, List.not_mem_nil, or_false] at hmem
    rcases hmem with rfl | rfl <;> (apply hbound <;> omega)
  · split at hmem
    · simp only [List.mem_cons, List.not_mem_nil, or_false] at hmem
      rcases hmem with rfl | rfl | rfl <;> (apply hbound <;> omega)
    · simp only [List.mem_cons, List.not_mem_nil, or_false] at hmem
      rcases hmem with rfl | rfl | rfl | rfl <;> (apply hbound <;> omega)

theorem utf8_nil : utf8 [] = [] := rfl

theorem utf8_cons (c : Char) (chars : List Char) : utf8 (c :: chars) = String.utf8EncodeChar c ++ utf8 chars :=
  List.flatMap_cons

theorem utf8_append (chars others : List Char) : utf8 (chars ++ others) = utf8 chars ++ utf8 others :=
  List.flatMap_append

theorem utf8_ascii {chars : List Char} (hchars : ∀ c ∈ chars, IsAscii c) : utf8 chars = chars.map Char.toUInt8 := by
  induction chars with
  | nil => rfl
  | cons c rest ih =>
    rw [List.forall_mem_cons] at hchars
    rw [utf8_cons, utf8EncodeChar_ascii hchars.1, ih hchars.2]
    rfl

/-- A text whose bytes are all ASCII is one of ASCII characters. -/
theorem ascii_of_utf8 {chars : List Char} (hbytes : ∀ byte ∈ utf8 chars, byte.toNat < 128) : ∀ c ∈ chars, IsAscii c := by
  intro c hmem
  by_contra hhigh
  obtain ⟨byte, hbyte⟩ := List.exists_mem_of_ne_nil _ (String.utf8EncodeChar_ne_nil (c := c))
  have hlow := hbytes byte (List.mem_flatMap.2 ⟨c, hmem, hbyte⟩)
  have hbeyond := high_of_mem_utf8EncodeChar hhigh hbyte
  omega

/-- A character of ASCII is the one of its byte. -/
theorem toUInt8_injective {c d : Char} (hc : IsAscii c) (hd : IsAscii d) (h : c.toUInt8 = d.toUInt8) : c = d := by
  have hcode : c.toUInt8.toNat = d.toUInt8.toNat := congrArg UInt8.toNat h
  have htoNat (e : Char) (he : IsAscii e) : e.toUInt8.toNat = e.toNat := UInt8.toNat_ofNat_of_lt' (Nat.lt_trans he (by decide))
  rw [htoNat c hc, htoNat d hd] at hcode
  exact Char.toNat_inj.1 hcode

/-- A text whose last byte is one of ASCII ends with its character. -/
theorem utf8_concat {chars : List Char} {bytes : List UInt8} {c : Char} (hc : IsAscii c)
    (h : utf8 chars = bytes ++ [c.toUInt8]) : ∃ rest, chars = rest ++ [c] ∧ utf8 rest = bytes := by
  rcases chars.eq_nil_or_concat with rfl | ⟨rest, d, rfl⟩
  · simp [utf8_nil] at h
  · rw [List.concat_eq_append] at h ⊢
    have hlow : c.toUInt8.toNat < 128 := by
      rw [show c.toUInt8.toNat = c.toNat from UInt8.toNat_ofNat_of_lt' (Nat.lt_trans hc (by decide))]
      exact hc
    have hd : IsAscii d := by
      by_contra hhigh
      have hlast := congrArg List.getLast? h
      rw [utf8_append, utf8_cons, utf8_nil, List.append_nil, List.getLast?_append, List.getLast?_concat,
        List.getLast?_eq_some_getLast String.utf8EncodeChar_ne_nil, Option.some_or] at hlast
      have hbeyond := high_of_mem_utf8EncodeChar hhigh (List.getLast_mem String.utf8EncodeChar_ne_nil)
      rw [Option.some.inj hlast] at hbeyond
      omega
    rw [utf8_append, utf8_cons, utf8_nil, List.append_nil, utf8EncodeChar_ascii hd] at h
    obtain ⟨hrest, hbyte⟩ := List.append_inj' h rfl
    exact ⟨rest, by rw [toUInt8_injective hd hc (List.cons.inj hbyte).1], hrest⟩

/-- What is checked of the 128 characters of ASCII holds of each. -/
theorem forall_ascii {p : Char → Prop} (h : ∀ code : Fin 128, p (Char.ofNat code)) (c : Char) (hc : IsAscii c) : p c := by
  have hcode := h ⟨c.toNat, hc⟩
  rw [show Char.ofNat c.toNat = c from Char.ofNat_toNat c] at hcode
  exact hcode

/-- What is checked of the 256 bytes holds of each. -/
theorem forall_byte {p : UInt8 → Prop} (h : ∀ code : Fin 256, p (UInt8.ofFin code)) (byte : UInt8) : p byte := h byte.toFin

/-! ## Digits -/

theorem isAscii_of_le {c d : Char} (hd : IsAscii d) (hle : c ≤ d) : IsAscii c :=
  Nat.lt_of_le_of_lt (UInt32.le_iff_toNat_le.1 hle) hd

theorem isAscii_of_isHexDigit {c : Char} (hdigit : isHexDigit c = true) : IsAscii c := by
  unfold isHexDigit hexNibble at hdigit
  split at hdigit
  · rename_i hrange
    exact isAscii_of_le (by decide) hrange.2
  · split at hdigit
    · rename_i hrange
      exact isAscii_of_le (by decide) hrange.2
    · split at hdigit
      · rename_i hrange
        exact isAscii_of_le (by decide) hrange.2
      · cases hdigit

/-- A digit is one of sixteen, and writing its value again puts it in uppercase. -/
theorem hexNibble_spec {digit : Char} {value : Nat} (h : hexNibble digit = some value) :
    value < 16 ∧ hexDigit value = digit.toUpper := by
  have hascii : IsAscii digit := isAscii_of_isHexDigit (by rw [isHexDigit, h]; rfl)
  have hdigits : ∀ c, IsAscii c → ∀ value ∈ hexNibble c, value < 16 ∧ hexDigit value = c.toUpper :=
    forall_ascii (by decide +kernel)
  exact hdigits digit hascii value h

/-! ## Tests of bytes and of characters -/

/-- A test of bytes and one of characters that pass the same characters of ASCII, and nothing beyond. -/
structure SameTest (onByte : UInt8 → Bool) (onChar : Char → Bool) : Prop where
  ascii : ∀ c, IsAscii c → onByte c.toUInt8 = onChar c
  byte : ∀ byte : UInt8, onByte byte = true → byte.toNat < 128
  char : ∀ c, onChar c = true → IsAscii c

namespace SameTest

variable {onByte : UInt8 → Bool} {onChar : Char → Bool}

theorem utf8EncodeChar (h : SameTest onByte onChar) (c : Char) :
    (String.utf8EncodeChar c).any onByte = onChar c ∧ (String.utf8EncodeChar c).all onByte = onChar c := by
  by_cases hc : IsAscii c
  · rw [utf8EncodeChar_ascii hc]
    simp [h.ascii c hc]
  · have hchar : onChar c = false := by simpa using fun hpass => hc (h.char c hpass)
    have hbytes : ∀ byte ∈ String.utf8EncodeChar c, ¬ onByte byte = true := by
      intro byte hmem hpass
      have hlow := h.byte byte hpass
      have hhigh := high_of_mem_utf8EncodeChar hc hmem
      omega
    obtain ⟨byte, hmem⟩ := List.exists_mem_of_ne_nil _ (String.utf8EncodeChar_ne_nil (c := c))
    refine ⟨?_, ?_⟩
    · rw [hchar, List.any_eq_false]
      exact hbytes
    · rw [hchar, List.all_eq_false]
      exact ⟨byte, hmem, hbytes byte hmem⟩

theorem any_utf8 (h : SameTest onByte onChar) (chars : List Char) : (utf8 chars).any onByte = chars.any onChar := by
  induction chars with
  | nil => rfl
  | cons c rest ih => rw [utf8_cons, List.any_append, List.any_cons, ih, (h.utf8EncodeChar c).1]

theorem all_utf8 (h : SameTest onByte onChar) (chars : List Char) : (utf8 chars).all onByte = chars.all onChar := by
  induction chars with
  | nil => rfl
  | cons c rest ih => rw [utf8_cons, List.all_append, List.all_cons, ih, (h.utf8EncodeChar c).2]

end SameTest

end Serde
