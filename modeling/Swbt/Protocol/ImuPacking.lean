import Mathlib.Tactic.IntervalCases
import Swbt.Bits.Stream
import Swbt.Protocol.Report
/-!
# Reading IMU blocks back

The fields of a quaternion block lie beside each other and beside the
accelerometer samples, so each one reads back whatever the others hold. The
samples of a standard block read back too.
-/

set_option autoImplicit false

open Bits

namespace Swbt

/-! ## Samples -/

/-- `i16::from_le_bytes`. -/
def sampleOf (low high : UInt8) : Int16 := (UInt16.ofNat (low.toNat + 256 * high.toNat)).toInt16

/-- The three samples that start at byte `offset`. -/
def axesAt (block : List UInt8) (offset : Nat) : Axes where
  x := sampleOf (block.getD offset 0) (block.getD (offset + 1) 0)
  y := sampleOf (block.getD (offset + 2) 0) (block.getD (offset + 3) 0)
  z := sampleOf (block.getD (offset + 4) 0) (block.getD (offset + 5) 0)

theorem sampleOf_leBytes (value : Int16) :
    sampleOf value.toUInt16.toUInt8 (value.toUInt16 >>> 8).toUInt8 = value := by
  have hvalue : UInt16.ofNat (value.toUInt16.toUInt8.toNat + 256 * (value.toUInt16 >>> 8).toUInt8.toNat) =
      value.toUInt16 := by
    have hlt := value.toUInt16.toNat_lt
    rw [← UInt16.toNat_inj, UInt16.toNat_ofNat', UInt16.toNat_toUInt8, UInt16.toNat_toUInt8, UInt16.toNat_shiftRight,
      Nat.shiftRight_eq_div_pow]
    change (value.toUInt16.toNat % 2 ^ 8 + 256 * (value.toUInt16.toNat / 2 ^ 8 % 2 ^ 8)) % 2 ^ 16 = _
    omega
  rw [sampleOf, hvalue]
  rfl

/-! ## Bit fields -/

/-- Bit `i` of a number, as the code tests it. -/
theorem testBit_uint64 (value : UInt64) {bit : Nat} (hbit : bit < 64) :
    (value &&& (1 <<< UInt64.ofNat bit) != 0) = value.toNat.testBit bit := by
  have hpow : ((1 : UInt64) <<< UInt64.ofNat bit).toNat = 2 ^ bit := by
    have hlt : 2 ^ bit < 2 ^ 64 := Nat.pow_lt_pow_right (by decide) hbit
    rw [UInt64.toNat_shiftLeft, UInt64.toNat_ofNat', Nat.mod_eq_of_lt (show bit < 2 ^ 64 by omega),
      Nat.mod_eq_of_lt hbit, UInt64.toNat_one, Nat.shiftLeft_eq, Nat.one_mul, Nat.mod_eq_of_lt hlt]
  rw [Bool.eq_iff_iff, bne_iff_ne, ne_eq, ← UInt64.toNat_inj, UInt64.toNat_and, hpow, UInt64.toNat_zero, Nat.and_two_pow]
  cases value.toNat.testBit bit <;> simp

/-- Writing a field sets its bits where the value has them and leaves every other bit. -/
theorem bitAt_putBits (target : List UInt8) (start : Nat) {width : Nat} (value : UInt64) (hwidth : width ≤ 64)
    (hfits : start + width ≤ 8 * target.length) (i : Nat) :
    bitAt (putBits target start width value) i =
      (bitAt target i || (decide (start ≤ i ∧ i < start + width) && value.toNat.testBit (i - start))) := by
  induction width with
  | zero =>
    rw [show decide (start ≤ i ∧ i < start + 0) = false from decide_eq_false (by omega)]
    simp [putBits]
  | succ width ih =>
    have hstep : putBits target start (width + 1) value =
        if value.toNat.testBit width then
          (putBits target start width value).modify ((start + width) / 8) (· ||| (1 <<< UInt8.ofNat ((start + width) % 8)))
        else putBits target start width value := by
      rw [putBits, List.range_succ, List.foldl_append, List.foldl_cons, List.foldl_nil,
        testBit_uint64 value (by omega)]
      rfl
    have hbefore := ih (by omega) (by omega)
    rw [hstep]
    by_cases hi : i = start + width
    · -- the bit that this round may set
      have hin : decide (start ≤ i ∧ i < start + (width + 1)) = true := decide_eq_true (by omega)
      have hout : decide (start ≤ i ∧ i < start + width) = false := decide_eq_false (by omega)
      rw [hout, Bool.false_and, Bool.or_false] at hbefore
      rw [hin, Bool.true_and, show i - start = width by omega]
      cases value.toNat.testBit width with
      | true =>
        rw [if_pos rfl, bitAt_set (by rw [length_putBits]; omega), hbefore, decide_eq_true hi]
      | false => rw [if_neg Bool.false_ne_true, hbefore, Bool.or_false]
    · have hsame : decide (start ≤ i ∧ i < start + (width + 1)) = decide (start ≤ i ∧ i < start + width) :=
        decide_eq_decide.2 (by omega)
      rw [hsame, ← hbefore]
      cases value.toNat.testBit width with
      | true =>
        rw [if_pos rfl, bitAt_set (by rw [length_putBits]; omega), decide_eq_false hi, Bool.or_false]
      | false => rw [if_neg Bool.false_ne_true]

/-! ## Fields side by side -/

/-- A number and the bits it is written to. -/
structure BitField where
  start : Nat
  width : Nat
  value : UInt64

namespace BitField

def put (block : List UInt8) (f : BitField) : List UInt8 := putBits block f.start f.width f.value

/-- The field fits a block of `bytes` bytes. -/
def Fits (bytes : Nat) (f : BitField) : Prop := f.width ≤ 64 ∧ f.start + f.width ≤ 8 * bytes

def Before (f g : BitField) : Prop := f.start + f.width ≤ g.start

def Holds (f : BitField) (i : Nat) : Prop := f.start ≤ i ∧ i < f.start + f.width

instance (f : BitField) (i : Nat) : Decidable (f.Holds i) := inferInstanceAs (Decidable (_ ∧ _))

variable {fields : List BitField} {block : List UInt8} {i : Nat}

@[simp] theorem length_put (f : BitField) : (f.put block).length = block.length := length_putBits _ _ _ _

theorem bitAt_put {f : BitField} (hfits : f.Fits block.length) :
    bitAt (f.put block) i = (bitAt block i || (decide (f.Holds i) && f.value.toNat.testBit (i - f.start))) :=
  bitAt_putBits _ _ _ hfits.1 hfits.2 i

/-- Bits that no field holds stay. -/
theorem bitAt_putAll_other (hfits : ∀ f ∈ fields, f.Fits block.length) (hother : ∀ f ∈ fields, ¬ f.Holds i) :
    bitAt (fields.foldl put block) i = bitAt block i := by
  induction fields generalizing block with
  | nil => rfl
  | cons f rest ih =>
    obtain ⟨hf, hrest⟩ := List.forall_mem_cons.1 hfits
    obtain ⟨hout, houts⟩ := List.forall_mem_cons.1 hother
    rw [List.foldl_cons, ih (by simpa using hrest) houts, bitAt_put hf, decide_eq_false hout, Bool.false_and, Bool.or_false]

/-- Fields side by side do not disturb each other. -/
theorem bitAt_putAll {f : BitField} (hsorted : fields.Pairwise Before) (hfits : ∀ f ∈ fields, f.Fits block.length)
    (hmem : f ∈ fields) (hholds : f.Holds i) (hclear : bitAt block i = false) :
    bitAt (fields.foldl put block) i = f.value.toNat.testBit (i - f.start) := by
  induction fields generalizing block with
  | nil => cases hmem
  | cons g rest ih =>
    obtain ⟨hbefore, hrest⟩ := List.pairwise_cons.1 hsorted
    obtain ⟨hg, hfitting⟩ := List.forall_mem_cons.1 hfits
    rw [List.foldl_cons]
    rcases List.mem_cons.1 hmem with rfl | hmem
    · have hother : ∀ g ∈ rest, ¬ g.Holds i := by
        intro g hmem hheld
        have hle := hbefore g hmem
        unfold Before at hle
        unfold Holds at hholds hheld
        omega
      rw [bitAt_putAll_other (by simpa using hfitting) hother, bitAt_put hg, hclear, decide_eq_true hholds, Bool.true_and,
        Bool.false_or]
    · refine ih hrest (by simpa using hfitting) hmem ?_
      have hout : ¬ g.Holds i := by
        intro hheld
        have hle := hbefore f hmem
        unfold Before at hle
        unfold Holds at hholds hheld
        omega
      rw [bitAt_put hg, hclear, decide_eq_false hout]
      rfl

/-- A field written among others reads back. -/
theorem field_putAll {f : BitField} (hsorted : fields.Pairwise Before) (hfits : ∀ f ∈ fields, f.Fits block.length)
    (hmem : f ∈ fields) (hclear : ∀ i, f.Holds i → bitAt block i = false) :
    field (fields.foldl put block) f.start f.width = f.value.toNat % 2 ^ f.width := by
  apply field_eq
  intro i hi
  have hholds : f.Holds (f.start + i) := ⟨Nat.le_add_right _ _, by omega⟩
  rw [bitAt_putAll hsorted hfits hmem hholds (hclear _ hholds), Nat.add_sub_cancel_left]

end BitField

/-! ## Quaternion blocks -/

/-- The fields of a mode 2 block, in the order they are written. -/
def imuFields (index : Nat) (c0 c1 c2 : Int64) (timestampMs : UInt64) : List BitField :=
  [⟨48, 2, 2⟩, ⟨50, 2, UInt64.ofNat index⟩, ⟨52, 21, c0.toUInt64⟩, ⟨73, 21, c1.toUInt64⟩, ⟨94, 2, c2.toUInt64⟩,
    ⟨144, 19, (c2 >>> 2).toUInt64⟩, ⟨271, 11, timestampMs⟩, ⟨282, 6, 3⟩]

section Fields

variable (index : Nat) (c0 c1 c2 : Int64) (timestampMs : UInt64)

theorem packFields_eq (block : List UInt8) :
    packFields block index c0 c1 c2 timestampMs = (imuFields index c0 c1 c2 timestampMs).foldl BitField.put block := rfl

theorem imuFields_sorted : (imuFields index c0 c1 c2 timestampMs).Pairwise BitField.Before := by
  simp [imuFields, BitField.Before]

theorem imuFields_fit : ∀ f ∈ imuFields index c0 c1 c2 timestampMs, f.Fits 36 := by
  simp [imuFields, BitField.Fits]

end Fields

/-- The samples lie at the start of each third of the block. -/
theorem accelBlock_eq (frames : ImuFrames) : accelBlock frames =
    frames.first.accel.leBytes ++ zeros 6 ++ frames.second.accel.leBytes ++ zeros 6 ++ frames.third.accel.leBytes ++
      zeros 6 := by
  have hsix : ∀ axes : Axes, ∃ b0 b1 b2 b3 b4 b5, axes.leBytes = [b0, b1, b2, b3, b4, b5] :=
    fun axes => ⟨_, _, _, _, _, _, rfl⟩
  obtain ⟨a0, a1, a2, a3, a4, a5, hfirst⟩ := hsix frames.first.accel
  obtain ⟨b0, b1, b2, b3, b4, b5, hsecond⟩ := hsix frames.second.accel
  obtain ⟨c0, c1, c2, c3, c4, c5, hthird⟩ := hsix frames.third.accel
  rw [accelBlock, hfirst, hsecond, hthird]
  simp only [copyAt, zeros, List.replicate, List.set_cons_succ, List.set_cons_zero, Nat.reduceAdd, List.cons_append,
    List.nil_append]

/-- Whether byte `j` of a block is left to the fields. -/
def Spare (j : Nat) : Prop := 6 ≤ j ∧ j < 12 ∨ 18 ≤ j ∧ j < 24 ∨ 30 ≤ j ∧ j < 36

theorem accelBlock_spare (frames : ImuFrames) {j : Nat} (hspare : Spare j) : (accelBlock frames).getD j 0 = 0 := by
  rw [accelBlock_eq]
  rcases hspare with ⟨hle, hlt⟩ | ⟨hle, hlt⟩ | ⟨hle, hlt⟩
  all_goals interval_cases j <;> rfl

theorem accelBlock_clear (frames : ImuFrames) {i : Nat} (hspare : Spare (i / 8)) :
    bitAt (accelBlock frames) i = false := by
  rw [bitAt, accelBlock_spare frames hspare]
  exact Nat.zero_testBit _

theorem imuFields_spare {index : Nat} {c0 c1 c2 : Int64} {timestampMs : UInt64} :
    ∀ f ∈ imuFields index c0 c1 c2 timestampMs, ∀ i, f.Holds i → Spare (i / 8) := by
  simp only [imuFields, List.forall_mem_cons, BitField.Holds, Spare]
  refine ⟨?_, ?_, ?_, ?_, ?_, ?_, ?_, ?_, nofun⟩
  all_goals
    intro i hholds
    omega

theorem axesAt_congr {block block' : List UInt8} {offset : Nat}
    (hbytes : ∀ j, offset ≤ j → j < offset + 6 → block.getD j 0 = block'.getD j 0) :
    axesAt block offset = axesAt block' offset := by
  unfold axesAt
  rw [hbytes offset (by omega) (by omega), hbytes (offset + 1) (by omega) (by omega),
    hbytes (offset + 2) (by omega) (by omega), hbytes (offset + 3) (by omega) (by omega),
    hbytes (offset + 4) (by omega) (by omega), hbytes (offset + 5) (by omega) (by omega)]

/-- Six bytes that are the bytes of three samples read as them. -/
theorem axesAt_eq {block : List UInt8} {offset : Nat} {axes : Axes}
    (hbytes : ∀ k, k < 6 → block.getD (offset + k) 0 = axes.leBytes.getD k 0) : axesAt block offset = axes := by
  have hx := sampleOf_leBytes axes.x
  have hy := sampleOf_leBytes axes.y
  have hz := sampleOf_leBytes axes.z
  unfold axesAt
  rw [← Nat.add_zero offset, Nat.add_assoc, hbytes 0 (by omega), Nat.add_zero, hbytes 1 (by omega), hbytes 2 (by omega),
    hbytes 3 (by omega), hbytes 4 (by omega), hbytes 5 (by omega)]
  exact congr (congrArg₂ Axes.mk hx hy) hz

/-- What a reader of a quaternion block finds in it. -/
structure Mode2Block where
  first : Axes
  second : Axes
  third : Axes
  mode : Nat
  index : Nat
  component0 : Nat
  component1 : Nat
  component2 : Nat
  timestamp : Nat
  frames : Nat
deriving DecidableEq

/-- The third component is cut in two, around the second frame's samples. -/
def decodeMode2 (block : List UInt8) : Mode2Block where
  first := axesAt block 0
  second := axesAt block 12
  third := axesAt block 24
  mode := field block 48 2
  index := field block 50 2
  component0 := field block 52 21
  component1 := field block 73 21
  component2 := field block 94 2 + 4 * field block 144 19
  timestamp := field block 271 11
  frames := field block 282 6

/-- The samples of each frame in the block. -/
theorem axesAt_accelBlock (frames : ImuFrames) : axesAt (accelBlock frames) 0 = frames.first.accel ∧
    axesAt (accelBlock frames) 12 = frames.second.accel ∧ axesAt (accelBlock frames) 24 = frames.third.accel := by
  rw [accelBlock_eq]
  refine ⟨axesAt_eq ?_, axesAt_eq ?_, axesAt_eq ?_⟩
  all_goals
    intro k hk
    interval_cases k <;> rfl

/-- An arithmetic shift by two drops the two lowest bits. -/
theorem testBit_shiftRight_two (c : Int64) {i : Nat} (hi : i < 62) :
    (c >>> 2).toUInt64.toNat.testBit i = c.toUInt64.toNat.testBit (i + 2) := by
  have hshift : (c >>> 2).toBitVec = c.toBitVec.sshiftRight 2 := by
    rw [Int64.toBitVec_shiftRight]
    rfl
  change (c >>> 2).toBitVec.toNat.testBit i = c.toBitVec.toNat.testBit (i + 2)
  rw [BitVec.testBit_toNat, BitVec.testBit_toNat, hshift, BitVec.getLsbD_sshiftRight, decide_eq_false (by omega)]
  rw [if_pos (by omega), Nat.add_comm 2 i]
  rfl

section Packed

variable (frames : ImuFrames) (index : Nat) (c0 c1 c2 : Int64) (timestampMs : UInt64)

theorem accelBlock_fits : ∀ f ∈ imuFields index c0 c1 c2 timestampMs, f.Fits (accelBlock frames).length := by
  have hlength : (accelBlock frames).length = 36 := by
    rw [accelBlock_eq]
    rfl
  rw [hlength]
  exact imuFields_fit index c0 c1 c2 timestampMs

theorem field_packFields {f : BitField} (hmem : f ∈ imuFields index c0 c1 c2 timestampMs) :
    field (packFields (accelBlock frames) index c0 c1 c2 timestampMs) f.start f.width = f.value.toNat % 2 ^ f.width := by
  rw [packFields_eq]
  apply BitField.field_putAll (imuFields_sorted index c0 c1 c2 timestampMs) (accelBlock_fits frames index c0 c1 c2 timestampMs) hmem
  exact fun i hholds => accelBlock_clear frames (imuFields_spare f hmem i hholds)

/-- The bits of the samples and the bits left over are those of the sample block. -/
theorem bitAt_packFields {i : Nat} (hi : ¬ Spare (i / 8) ∨ (163 ≤ i ∧ i < 192 ∨ 240 ≤ i ∧ i < 271)) :
    bitAt (packFields (accelBlock frames) index c0 c1 c2 timestampMs) i = bitAt (accelBlock frames) i := by
  rw [packFields_eq]
  apply BitField.bitAt_putAll_other (accelBlock_fits frames index c0 c1 c2 timestampMs)
  simp only [imuFields, List.forall_mem_cons, BitField.Holds, Spare] at hi ⊢
  refine ⟨?_, ?_, ?_, ?_, ?_, ?_, ?_, ?_, nofun⟩
  all_goals omega

theorem axesAt_packFields {offset : Nat} (hoffset : offset = 0 ∨ offset = 12 ∨ offset = 24) :
    axesAt (packFields (accelBlock frames) index c0 c1 c2 timestampMs) offset = axesAt (accelBlock frames) offset := by
  refine axesAt_congr fun j hle hlt => getD_of_bits fun i hi => bitAt_packFields _ _ _ _ _ _ (.inl ?_)
  rw [show (8 * j + i) / 8 = j by omega]
  unfold Spare
  omega

/-- The two parts of the third component make up its low 21 bits. -/
theorem component_parts : c2.toUInt64.toNat % 2 ^ 2 + 4 * ((c2 >>> 2).toUInt64.toNat % 2 ^ 19) =
    c2.toUInt64.toNat % 2 ^ 21 := by
  have hshift : (c2 >>> 2).toUInt64.toNat % 2 ^ 19 = c2.toUInt64.toNat / 2 ^ 2 % 2 ^ 19 := by
    apply Nat.eq_of_testBit_eq
    intro i
    rw [Nat.testBit_mod_two_pow, Nat.testBit_mod_two_pow, Nat.testBit_div_two_pow]
    by_cases hi : i < 19
    · rw [testBit_shiftRight_two c2 (by omega)]
    · rw [decide_eq_false hi]
      rfl
  rw [hshift]
  omega

end Packed

/-- Every field of a quaternion block reads back, cut to its width, beside the
samples of the three frames, and every bit that no field holds is zero. -/
theorem decode_packFields (frames : ImuFrames) (index : Fin 4) (c0 c1 c2 : Int64) (timestampMs : UInt64) :
    decodeMode2 (packFields (accelBlock frames) index c0 c1 c2 timestampMs) =
        ⟨frames.first.accel, frames.second.accel, frames.third.accel, 2, index, c0.toUInt64.toNat % 2 ^ 21,
          c1.toUInt64.toNat % 2 ^ 21, c2.toUInt64.toNat % 2 ^ 21, timestampMs.toNat % 2 ^ 11, 3⟩ ∧
      ∀ i, 163 ≤ i ∧ i < 192 ∨ 240 ≤ i ∧ i < 271 →
        bitAt (packFields (accelBlock frames) index c0 c1 c2 timestampMs) i = false := by
  obtain ⟨hfirst, hsecond, hthird⟩ := axesAt_accelBlock frames
  refine ⟨?_, ?_⟩
  · have hread : ∀ f ∈ imuFields index c0 c1 c2 timestampMs, _ := fun f hmem =>
      field_packFields frames index c0 c1 c2 timestampMs hmem
    unfold imuFields at hread
    simp only [List.forall_mem_cons] at hread
    obtain ⟨hmode, hindex, h0, h1, hlow, hhigh, htime, hcount, -⟩ := hread
    have hindex' : (UInt64.ofNat index).toNat % 2 ^ 2 = index := by
      have hlt := index.isLt
      rw [UInt64.toNat_ofNat']
      omega
    unfold decodeMode2
    rw [hmode, hindex, h0, h1, hlow, hhigh, htime, hcount, hindex', component_parts,
      axesAt_packFields _ _ _ _ _ _ (.inl rfl), axesAt_packFields _ _ _ _ _ _ (.inr (.inl rfl)),
      axesAt_packFields _ _ _ _ _ _ (.inr (.inr rfl)), hfirst, hsecond, hthird]
    rfl
  · intro i hi
    rw [bitAt_packFields _ _ _ _ _ _ (.inr hi)]
    refine accelBlock_clear frames ?_
    unfold Spare
    omega

end Swbt
