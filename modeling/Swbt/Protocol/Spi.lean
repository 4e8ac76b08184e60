import Mathlib.Tactic.IntervalCases
import Swbt.Protocol.Supported
/-!
# The memory behind SPI reads

The flash computes every byte it returns. The bytes are those of one image:
erased memory with five regions written over it, and a read is a window of it.
-/

set_option autoImplicit false

namespace Swbt

/-! ## Bytes of an overwritten region -/

/-- Copying replaces the bytes of the source's range and no others. -/
theorem getElem?_copyAt (target : List UInt8) {offset : Nat} {src : List UInt8}
    (hfits : offset + src.length ≤ target.length) (i : Nat) :
    (copyAt target offset src)[i]? = if offset ≤ i ∧ i < offset + src.length then src[i - offset]? else target[i]? := by
  split
  · rename_i hin
    have hread := congrArg (·[i - offset]?) (drop_take_copyAt target offset src hfits)
    simpa [List.getElem?_take, show i - offset < src.length by omega, show offset + (i - offset) = i by omega] using hread
  · by_cases hlow : i < offset
    · exact getElem?_copyAt_lt target offset src hlow
    · exact getElem?_copyAt_ge target offset src (by omega)

/-- The `size` bytes from `address` on. -/
def window (image : List UInt8) (address size : Nat) : List UInt8 := (image.drop address).take size

theorem getElem?_window (image : List UInt8) (address : Nat) {size i : Nat} (hi : i < size) :
    (window image address size)[i]? = image[address + i]? := by
  rw [window, List.getElem?_take_of_lt hi, List.getElem?_drop]

theorem length_window {image : List UInt8} {address size : Nat} (hfits : address + size ≤ image.length) :
    (window image address size).length = size := by
  rw [window, List.length_take, List.length_drop]
  omega

/-- A window splits into the windows of its two parts. -/
theorem window_add (image : List UInt8) (address n k : Nat) :
    window image address (n + k) = window image address n ++ window image (address + n) k := by
  rw [window, window, window, List.take_add, List.drop_drop]

theorem window_append (before block after : List UInt8) :
    window (before ++ block ++ after) before.length block.length = block := by
  simp [window]

theorem window_eq {image block : List UInt8} {address size : Nat} (hlength : block.length = size)
    (hbytes : ∀ i < size, image[address + i]? = block[i]?) : window image address size = block := by
  apply List.ext_getElem?
  intro i
  by_cases hi : i < size
  · rw [getElem?_window _ _ hi, hbytes i hi]
  · rw [window, List.getElem?_take_eq_none (by omega), List.getElem?_eq_none (by omega)]

/-! ## The image -/

def calibrationBytes (calibration : SensorCalibration) : List UInt8 :=
  calibration.zeroRaw.leBytes ++ calibration.referenceRaw.leBytes

def erasedImage : List UInt8 := List.replicate 0x80000 0xFF

/-- The memory of a controller: erased but for the device type, the mark that
colors exist, both factory calibrations and the colors. -/
def spiImage (m : ControllerKind) (colors : ControllerColors) : List UInt8 :=
  let image := copyAt erasedImage 0x6012 [m.spec.protocol.deviceType]
  let image := copyAt image 0x601B [0x01]
  let image := copyAt image 0x6020 (calibrationBytes m.spec.protocol.accelerometerCalibration)
  let image := copyAt image 0x602C (calibrationBytes m.spec.protocol.gyroscopeCalibration)
  copyAt image 0x6050 colors.toSpiBytes

theorem length_erasedImage : erasedImage.length = 0x80000 := List.length_replicate

theorem length_spiImage (m : ControllerKind) (colors : ControllerColors) : (spiImage m colors).length = 0x80000 := by
  unfold spiImage
  dsimp only
  rw [length_copyAt, length_copyAt, length_copyAt, length_copyAt, length_copyAt, length_erasedImage]

theorem length_calibrationBytes (calibration : SensorCalibration) : (calibrationBytes calibration).length = 12 := rfl

theorem length_toSpiBytes (colors : ControllerColors) : colors.toSpiBytes.length = 12 := rfl

/-- Both samples of an axis are little-endian. -/
theorem calibrationByte_eq (calibration : SensorCalibration) {offset : Nat} (h : offset < 12) :
    (calibrationBytes calibration)[offset]? = some (calibrationByte calibration offset) := by
  interval_cases offset <;> rfl

/-- The image holds the byte that the flash computes for each address. -/
theorem getElem?_spiImage (m : ControllerKind) (colors : ControllerColors) {address : Nat} (h : address < 0x80000) :
    (spiImage m colors)[address]? = some (spiByteAt m colors address) := by
  have hlength := length_erasedImage
  have haccel := length_calibrationBytes m.spec.protocol.accelerometerCalibration
  have hgyro := length_calibrationBytes m.spec.protocol.gyroscopeCalibration
  have hcolors := length_toSpiBytes colors
  have herased : erasedImage[address]? = some 0xFF := by
    rw [erasedImage, List.getElem?_replicate, if_pos h]
  unfold spiImage spiByteAt
  dsimp only
  generalize m.spec.protocol = protocol at *
  rw [getElem?_copyAt _ (by simp only [length_copyAt]; omega), getElem?_copyAt _ (by simp only [length_copyAt]; omega),
    getElem?_copyAt _ (by simp only [length_copyAt]; omega),
    getElem?_copyAt _ (by simp only [length_copyAt, List.length_singleton]; omega),
    getElem?_copyAt _ (by simp only [List.length_singleton]; omega), haccel, hgyro, hcolors, herased]
  by_cases hdevice : address = 0x6012
  · rw [if_neg (by omega), if_neg (by omega), if_neg (by omega), if_neg (by simp only [List.length_singleton]; omega),
      if_pos (by simp only [List.length_singleton]; omega), if_pos hdevice, hdevice]
    rfl
  by_cases hexists : address = 0x601B
  · rw [if_neg (by omega), if_neg (by omega), if_neg (by omega), if_pos (by simp only [List.length_singleton]; omega),
      if_neg hdevice, if_pos hexists, hexists]
    rfl
  rw [if_neg hdevice, if_neg hexists]
  by_cases haccelIn : 0x6020 ≤ address ∧ address ≤ 0x602B
  · rw [if_neg (by omega), if_neg (by omega), if_pos (by omega), if_pos haccelIn]
    exact calibrationByte_eq _ (by omega)
  by_cases hgyroIn : 0x602C ≤ address ∧ address ≤ 0x6037
  · rw [if_neg (by omega), if_pos (by omega), if_neg haccelIn, if_pos hgyroIn]
    exact calibrationByte_eq _ (by omega)
  by_cases hcolorsIn : 0x6050 ≤ address ∧ address ≤ 0x605B
  · rw [if_pos (by omega), if_neg haccelIn, if_neg hgyroIn, if_pos hcolorsIn, List.getD_eq_getElem?_getD,
      List.getElem?_eq_getElem (by omega), Option.getD_some]
  · rw [if_neg (by omega), if_neg (by omega), if_neg (by omega), if_neg (by simp only [List.length_singleton]; omega),
      if_neg (by simp only [List.length_singleton]; omega), if_neg haccelIn, if_neg hgyroIn, if_neg hcolorsIn]

section Regions

variable (m : ControllerKind) (colors : ControllerColors)

theorem spiImage_device : (spiImage m colors)[0x6012]? = some m.spec.protocol.deviceType := by
  rw [getElem?_spiImage m colors (by omega), spiByteAt, if_pos rfl]

theorem spiImage_colorsExist : (spiImage m colors)[0x601B]? = some 0x01 := by
  rw [getElem?_spiImage m colors (by omega), spiByteAt]
  rw [if_neg (by omega), if_pos rfl]

theorem spiImage_accelerometer :
    window (spiImage m colors) 0x6020 12 = calibrationBytes m.spec.protocol.accelerometerCalibration := by
  refine window_eq (length_calibrationBytes _) ?_
  intro i hi
  rw [getElem?_spiImage m colors (by omega), spiByteAt, calibrationByte_eq _ hi]
  rw [if_neg (by omega), if_neg (by omega), if_pos (by omega), Nat.add_sub_cancel_left]

theorem spiImage_gyroscope :
    window (spiImage m colors) 0x602C 12 = calibrationBytes m.spec.protocol.gyroscopeCalibration := by
  refine window_eq (length_calibrationBytes _) ?_
  intro i hi
  rw [getElem?_spiImage m colors (by omega), spiByteAt, calibrationByte_eq _ hi]
  rw [if_neg (by omega), if_neg (by omega), if_neg (by omega), if_pos (by omega), Nat.add_sub_cancel_left]

theorem spiImage_colors : window (spiImage m colors) 0x6050 12 = colors.toSpiBytes := by
  have hlength := length_toSpiBytes colors
  refine window_eq hlength ?_
  intro i hi
  rw [getElem?_spiImage m colors (by omega), spiByteAt]
  rw [if_neg (by omega), if_neg (by omega), if_neg (by omega), if_neg (by omega), if_pos (by omega),
    Nat.add_sub_cancel_left, List.getD_eq_getElem?_getD, List.getElem?_eq_getElem (by omega), Option.getD_some]

/-- Everything else is erased. -/
theorem spiImage_erased {address : Nat} (h : address < 0x80000) (hdevice : address ≠ 0x6012)
    (hexists : address ≠ 0x601B) (hcalibration : ¬ (0x6020 ≤ address ∧ address < 0x6038))
    (hcolors : ¬ (0x6050 ≤ address ∧ address < 0x605C)) : (spiImage m colors)[address]? = some 0xFF := by
  rw [getElem?_spiImage m colors h, spiByteAt]
  rw [if_neg hdevice, if_neg hexists, if_neg (by omega), if_neg (by omega), if_neg (by omega)]

end Regions

/-! ## Reads -/

theorem spiRead_eq (m : ControllerKind) (colors : ControllerColors) {address : UInt32} {size : Nat}
    (hsize : size ≤ maxReadSize) (hrange : address.toNat + size ≤ 0x80000) :
    spiRead m colors address size = .ok (window (spiImage m colors) address.toNat size) := by
  have hlength := length_spiImage m colors
  have hbytes : ((List.range size).map fun offset => spiByteAt m colors (address.toNat + offset)) =
      window (spiImage m colors) address.toNat size := by
    apply List.ext_getElem?
    intro i
    by_cases hi : i < size
    · rw [getElem?_window _ _ hi, getElem?_spiImage m colors (by omega), List.getElem?_map, List.getElem?_range hi]
      rfl
    · rw [List.getElem?_eq_none (by simpa using hi),
        List.getElem?_eq_none (by rw [length_window (by omega)]; omega)]
  unfold spiRead
  rw [if_neg (by omega), if_neg (by omega), if_neg (by omega), hbytes]

/-- A read succeeds when it is short enough and ends within the image. -/
theorem spiRead_ok_iff (m : ControllerKind) (colors : ControllerColors) (address : UInt32) (size : Nat)
    (bytes : List UInt8) : spiRead m colors address size = .ok bytes ↔
      (size ≤ maxReadSize ∧ address.toNat + size ≤ 0x80000) ∧ bytes = window (spiImage m colors) address.toNat size := by
  constructor
  · intro hread
    have hbounds : size ≤ maxReadSize ∧ address.toNat + size ≤ 0x80000 := by
      unfold spiRead at hread
      split at hread
      · cases hread
      · split at hread
        · cases hread
        · split at hread
          · cases hread
          · exact ⟨by omega, by omega⟩
    rw [spiRead_eq m colors hbounds.1 hbounds.2] at hread
    exact ⟨hbounds, (Except.ok.inj hread).symm⟩
  · rintro ⟨⟨hsize, hrange⟩, rfl⟩
    exact spiRead_eq m colors hsize hrange

/-- A read is its first bytes and a second read of the rest. -/
theorem spiRead_add {m : ControllerKind} {colors : ControllerColors} {address : UInt32} {n k : Nat} {bytes : List UInt8}
    (hread : spiRead m colors address (n + k) = .ok bytes) :
    ∃ first second, spiRead m colors address n = .ok first ∧
      spiRead m colors (address + UInt32.ofNat n) k = .ok second ∧ bytes = first ++ second := by
  obtain ⟨⟨hsize, hrange⟩, rfl⟩ := (spiRead_ok_iff m colors address (n + k) bytes).1 hread
  have haddress : (address + UInt32.ofNat n).toNat = address.toNat + n := by
    rw [UInt32.toNat_add, UInt32.toNat_ofNat']
    omega
  refine ⟨_, _, spiRead_eq m colors (by omega) (by omega), spiRead_eq m colors (by omega) (by omega), ?_⟩
  rw [haddress, window_add]

end Swbt
