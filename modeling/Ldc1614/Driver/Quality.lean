import Mathlib.Algebra.Group.Nat.Defs
import Ldc1614.Driver.Script

/-! # The quality of a sample

What `decodeDeviceStatus` and `decodeChannelSample` make of a word, flag by flag and channel by
channel. -/

namespace Ldc1614

open Arithmetic Cmd Driver

/-! ### Quality flags -/

section Flags

variable {quality added : SampleQualityFlags} {flag other : SampleQualityFlag} {condition : Bool}

/-- No quality has no flag. -/
@[simp] theorem hasSampleQuality_zero : hasSampleQuality 0 flag = false := by
  cases flag <;> rfl

/-- A single flag has itself only. -/
@[simp] theorem hasSampleQuality_flag :
    hasSampleQuality (sampleQualityFlag flag) other = decide (flag = other) := by
  cases flag <;> cases other <;> rfl

/-- What is added has its flags. -/
@[simp] theorem hasSampleQuality_or : hasSampleQuality (quality ||| added) flag =
    (hasSampleQuality quality flag || hasSampleQuality added flag) :=
  Fields.has_or quality added

/-- What is added on a condition has its flags on that condition. -/
@[simp] theorem hasSampleQuality_setBits : hasSampleQuality (setBits quality condition added) flag =
    (hasSampleQuality quality flag || condition && hasSampleQuality added flag) := by
  unfold setBits
  cases condition with
  | false => simp
  | true => simp

/-- Retracting a flag leaves the others. -/
@[simp] theorem hasSampleQuality_and_not :
    hasSampleQuality (quality &&& ~~~sampleQualityFlag other) flag =
      (hasSampleQuality quality flag && decide (flag ≠ other)) := by
  by_cases hsame : flag = other
  · subst hsame
    rw [decide_eq_false (not_not.mpr rfl), Bool.and_false]
    exact Fields.has_and_not_self
  · have hdisjoint : sampleQualityFlag flag &&& sampleQualityFlag other = 0 := by
      revert hsame
      cases flag <;> cases other <;> first | (intro h; exact absurd rfl h) | (intro _; rfl)
    rw [decide_eq_true hsame, Bool.and_true]
    exact Fields.has_and_not hdisjoint

end Flags

/-! ### Masks of channels -/

/-- The mask of the channels that meet a condition. -/
def maskOf (selects : Fin 4 → Bool) : ChannelMask :=
  ⟨Fields.setAll 0 ((List.finRange 4).map fun index => (selects index, indexBit index))⟩

/-- The bits of a mask are the channels it selects. -/
theorem getLsbD_maskOf (selects : Fin 4 → Bool) (i : ℕ) :
    (maskOf selects).bits.getLsbD i = true ↔ ∃ index : Fin 4, index.val = i ∧
      selects index = true := by
  have hzero : (0 : U8).getLsbD i = false := BitVec.getLsbD_zero
  rw [maskOf, Fields.getLsbD_setAll, hzero, Bool.false_or, List.any_map, List.any_eq_true]
  refine exists_congr fun index => ?_
  rw [Function.comp_apply, getLsbD_indexBit, Bool.and_eq_true, decide_eq_true_iff]
  exact ⟨fun h => ⟨h.2.2, h.2.1⟩, fun h => ⟨List.mem_finRange index, h.2, h.1⟩⟩

/-- The bit of a channel says whether it is selected. -/
@[simp] theorem maskOf_bit (selects : Fin 4 → Bool) (index : Fin 4) :
    (maskOf selects).bits.getLsbD index.val = selects index := by
  rw [Bool.eq_iff_iff, getLsbD_maskOf]
  exact ⟨fun ⟨other, hsame, h⟩ => Fin.ext hsame ▸ h, fun h => ⟨index, rfl, h⟩⟩

/-- A mask is that of the channels it selects, if it selects nothing else. -/
theorem eq_maskOf {mask : ChannelMask} {selects : Fin 4 → Bool}
    (h : ∀ i, mask.bits.getLsbD i = true ↔ ∃ index : Fin 4, index.val = i ∧
      selects index = true) : mask = maskOf selects := by
  refine congrArg ChannelMask.mk (BitVec.eq_of_getLsbD_eq fun i _ => ?_)
  rw [Bool.eq_iff_iff, h i]
  exact (getLsbD_maskOf selects i).symm

/-! ### STATUS words -/

section Status

variable (raw : U16)

/-- The bit a channel has in the unread part of STATUS: bits 3 to 0 are channels 0 to 3. -/
def unreadIn (word : U16) (index : Fin 4) : Bool := word.getLsbD (3 - index.val)

/-- The error of the mask is set and ERR_CHAN names the channel. -/
def statusBlames (word : U16) (index : Fin 4) (mask : U16) : Bool :=
  Fields.has word mask && (word >>> bitStatusErrChan).toNat = index.val

/-- The flags of a decoded STATUS word, without the channel it names. -/
def statusBits : DeviceStatus where
  observed := true
  raw := raw
  errorUnderRange := Fields.has raw maskStatusErrUr
  errorOverRange := Fields.has raw maskStatusErrOr
  errorWatchdog := Fields.has raw maskStatusErrWd
  errorAmplitudeHigh := Fields.has raw maskStatusErrAhe
  errorAmplitudeLow := Fields.has raw maskStatusErrAle
  errorZeroCount := Fields.has raw maskStatusErrZc
  dataReady := Fields.has raw maskStatusDrdy
  unreadChannels := maskOf (unreadIn raw)

/-- The error channel is decoded only where there is an error. -/
theorem decodeDeviceStatus_eq : decodeDeviceStatus raw =
    if (statusBits raw).hasError then
      { statusBits raw with
        errorChannel := ⟨((raw &&& maskStatusErrChan) >>> bitStatusErrChan).setWidth 8⟩ }
    else statusBits raw := by
  have hbit (i : ℕ) : ((raw &&& (1#16 <<< i)) != 0) = raw.getLsbD i := Fields.has_bit raw i
  have hunread : ((raw &&& maskStatusUnreadconv0) != 0) = unreadIn raw 0 ∧
      ((raw &&& maskStatusUnreadconv1) != 0) = unreadIn raw 1 ∧
      ((raw &&& maskStatusUnreadconv2) != 0) = unreadIn raw 2 ∧
      ((raw &&& maskStatusUnreadconv3) != 0) = unreadIn raw 3 :=
    ⟨hbit 3, hbit 2, hbit 1, hbit 0⟩
  obtain ⟨h0, h1, h2, h3⟩ := hunread
  unfold decodeDeviceStatus
  rw [h0, h1, h2, h3]
  rfl

/-- The errors of STATUS do not depend on the channel it names. -/
theorem decodeDeviceStatus_errors : (decodeDeviceStatus raw).hasError = (statusBits raw).hasError ∧
    attributeStatusErrors (decodeDeviceStatus raw) = attributeStatusErrors (statusBits raw) ∧
    (decodeDeviceStatus raw).unreadChannels = (statusBits raw).unreadChannels := by
  rw [decodeDeviceStatus_eq]
  by_cases herror : (statusBits raw).hasError = true
  · rw [if_pos herror]
    exact ⟨rfl, rfl, rfl⟩
  · rw [if_neg herror]
    exact ⟨rfl, rfl, rfl⟩

/-- With an error STATUS names a channel. -/
theorem decodeDeviceStatus_channel (h : (statusBits raw).hasError = true) (index : Fin 4) :
    (decodeDeviceStatus raw).errorChannel = ⟨BitVec.ofNat 8 index.val⟩ ↔
      (raw >>> bitStatusErrChan).toNat = index.val := by
  have hlt : (raw >>> bitStatusErrChan).toNat < 4 := by
    rw [BitVec.toNat_ushiftRight, Nat.shiftRight_eq_div_pow]
    exact Nat.div_lt_of_lt_mul raw.isLt
  have hmask : (maskStatusErrChan >>> bitStatusErrChan).toNat = 2 ^ 2 - 1 := by decide
  have hshift : (raw &&& maskStatusErrChan) >>> bitStatusErrChan = raw >>> bitStatusErrChan := by
    apply BitVec.eq_of_toNat_eq
    rw [BitVec.ushiftRight_and_distrib, BitVec.toNat_and, hmask, Nat.and_two_pow_sub_one_eq_mod]
    exact Nat.mod_eq_of_lt hlt
  rw [decodeDeviceStatus_eq, if_pos h, hshift, Channel.mk.injEq, ← BitVec.toNat_inj,
    BitVec.toNat_setWidth, BitVec.toNat_ofNat, Nat.mod_eq_of_lt (by omega),
    Nat.mod_eq_of_lt (by omega)]

end Status

/-! ### Decoded samples -/

section Sample

variable (msb lsb : U16)

/-- The conversion code in the two words of a channel. -/
def conversionCode : ℕ := msb.toNat % 4096 * 65536 + lsb.toNat

/-- The count of a sample is the code of its two words. -/
theorem decodeChannelSample_rawCount28 :
    (decodeChannelSample msb lsb).rawCount28.toNat = conversionCode msb lsb := by
  have hmask : maskDataMsbData.toNat = 2 ^ 12 - 1 := by decide
  have hhigh : (msb &&& maskDataMsbData).toNat = msb.toNat % 4096 := by
    rw [BitVec.toNat_and, hmask, Nat.and_two_pow_sub_one_eq_mod]
  have hlsb := lsb.isLt
  have hmod : msb.toNat % 4096 < 4096 := Nat.mod_lt _ (by decide)
  have hshift : (((msb &&& maskDataMsbData).setWidth 32 : U32) <<< 16).toNat =
      (msb.toNat % 4096) <<< 16 := by
    rw [BitVec.toNat_shiftLeft, BitVec.toNat_setWidth, hhigh, Nat.shiftLeft_eq]
    omega
  have hlow : (lsb.setWidth 32 : U32).toNat = lsb.toNat := by
    rw [BitVec.toNat_setWidth]
    omega
  show (((msb &&& maskDataMsbData).setWidth 32 <<< 16) ||| lsb.setWidth 32 : U32).toNat = _
  rw [BitVec.toNat_or, hshift, hlow, ← Nat.shiftLeft_add_eq_or_of_lt hlsb, Nat.shiftLeft_eq,
    conversionCode]

/-- The flags of a decoded sample: an endpoint code, or an error bit of the MSB word. -/
theorem decodeChannelSample_quality (flag : SampleQualityFlag) :
    hasSampleQuality (decodeChannelSample msb lsb).quality flag =
      match flag with
      | .underRange => msb.getLsbD 15 || conversionCode msb lsb = 0
      | .overRange => msb.getLsbD 14 || conversionCode msb lsb = 2 ^ 28 - 1
      | .watchdog => msb.getLsbD 13
      | .amplitudeSuspect => msb.getLsbD 12
      | _ => false := by
  have hbit (i : ℕ) : ((msb &&& (1#16 <<< i)) != 0) = msb.getLsbD i := Fields.has_bit msb i
  have hcode := decodeChannelSample_rawCount28 msb lsb
  have hzero : ((decodeChannelSample msb lsb).rawCount28 == 0) =
      decide (conversionCode msb lsb = 0) := by
    rw [← hcode, Bool.eq_iff_iff, beq_iff_eq, decide_eq_true_iff, ← BitVec.toNat_inj]
    rfl
  have hmax : ((decodeChannelSample msb lsb).rawCount28 == rawCountMax) =
      decide (conversionCode msb lsb = 2 ^ 28 - 1) := by
    rw [← hcode, Bool.eq_iff_iff, beq_iff_eq, decide_eq_true_iff, ← BitVec.toNat_inj]
    rfl
  have hquality : (decodeChannelSample msb lsb).quality =
      setBits (setBits (setBits (setBits 0
        ((msb &&& maskDataErrUr) != 0 || (decodeChannelSample msb lsb).rawCount28 == 0)
          (sampleQualityFlag .underRange))
        ((msb &&& maskDataErrOr) != 0 || (decodeChannelSample msb lsb).rawCount28 == rawCountMax)
          (sampleQualityFlag .overRange))
        ((msb &&& maskDataErrWd) != 0) (sampleQualityFlag .watchdog))
        ((msb &&& maskDataErrAe) != 0) (sampleQualityFlag .amplitudeSuspect) := rfl
  have hbits : ((msb &&& maskDataErrUr) != 0) = msb.getLsbD 15 ∧
      ((msb &&& maskDataErrOr) != 0) = msb.getLsbD 14 ∧
      ((msb &&& maskDataErrWd) != 0) = msb.getLsbD 13 ∧
      ((msb &&& maskDataErrAe) != 0) = msb.getLsbD 12 := ⟨hbit 15, hbit 14, hbit 13, hbit 12⟩
  obtain ⟨hur, hor, hwd, hae⟩ := hbits
  rw [hquality, hur, hor, hwd, hae, hzero, hmax]
  simp only [hasSampleQuality_setBits, hasSampleQuality_zero, hasSampleQuality_flag]
  cases flag <;> simp

end Sample

end Ldc1614
