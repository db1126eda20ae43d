import Ldc1614.Arithmetic.Exact
import Ldc1614.Driver.Timing

/-! # The helpers in exact arithmetic

The pure helpers once more, statement by statement, with every fixed-width operation replaced by
its exact counterpart. Each exact function has a value, and it is the value of the fixed-width one:
no step of the code wraps, divides by zero or drops a bit. -/

namespace Ldc1614

open Arithmetic Cmd

/-! ### The exact helpers -/

/-- `ceilDivide`. -/
def exactCeilDivide (numerator denominator : ℕ) : Option ℕ :=
  if denominator = 0 then some 0
  else do
    let sum ← Exact.add 64 numerator denominator
    let sum ← Exact.sub sum 1
    Exact.div sum denominator

/-- `referenceClockBoundsHz`. -/
def exactReferenceClockBoundsHz (config : Config) : Option (ℕ × ℕ) :=
  if config.referenceClock.source = .internal then
    some (internalClockMinHz.toNat, internalClockMaxHz.toNat)
  else do
    let clock := config.referenceClock.frequencyHz.toNat
    let slowest ← Exact.sub ppmScale.toNat config.referenceClock.tolerancePpm.toNat
    let slowest ← Exact.mul 64 clock slowest
    let minHz ← Exact.div slowest ppmScale.toNat
    let fastest ← Exact.add 64 ppmScale.toNat config.referenceClock.tolerancePpm.toNat
    let fastest ← Exact.mul 64 clock fastest
    let maxHz ← exactCeilDivide fastest ppmScale.toNat
    some (minHz, maxHz)

/-- `channelBit`. -/
def exactChannelBit (channel : Channel) : Option ℕ :=
  if channel.raw < 4 then Exact.shiftLeft 8 1 channel.raw.toNat else some 0

/-- The highest channel reference of a mode. -/
def frefLimitHz (config : Config) : ℕ :=
  if config.mode = .singleChannel then 35000000
  else if config.referenceClock.source = .externalClock then 40000000
  else 55000000

/-- The checks of `validateConfig` that relate a selected channel to the reference clock. -/
def exactValidateMargins (config : Config) (clockMin clockMax : ℕ) (index : Fin 4) :
    Option (Option Status) := do
  let channel := config.channel.get index
  let frefDivider := channel.frefDivider.toNat
  let finDivider := channel.finDivider.toNat
  let frefMin ← Exact.div clockMin frefDivider
  let frefMax ← exactCeilDivide clockMax frefDivider
  if frefMin = 0 ∨ frefLimitHz config < frefMax then
    some (some (.error .invalidConfig "Channel reference clock tolerance exceeds limit" index.val))
  else
    let cycles ← Exact.mul 64 channel.rcount.toNat 16
    let cycles ← Exact.add 64 cycles 4
    let window ← Exact.mul 64 cycles channel.expectedSensorMinHz.toNat
    let window ← Exact.mul 64 window frefDivider
    let period ← Exact.mul 64 clockMax finDivider
    if window < period then
      some (some (.error .invalidConfig "Conversion shorter than minimum sensor period" index.val))
    else
      let masked ← Exact.mul 64 channel.offset.toNat clockMax
      let masked ← Exact.mul 64 masked finDivider
      let least ← Exact.mul 64 channel.expectedSensorMinHz.toNat 65536
      let least ← Exact.mul 64 least frefDivider
      if least ≤ masked then
        some (some (.error .invalidConfig "OFFSET masks expected sensor minimum" index.val))
      else
        let input ← Exact.mul 64 channel.expectedSensorMaxHz.toNat 4
        let input ← Exact.mul 64 input frefDivider
        let quarter ← Exact.mul 64 clockMin finDivider
        if quarter ≤ input then
          some (some (.error .invalidConfig "Worst-case sensor input must be below fREFx/4"
            index.val))
        else some none

/-- The body of the per-channel loop of `validateConfig`. -/
def exactValidateChannel (config : Config) (clockMin clockMax : ℕ) (bandwidth : U32)
    (index : Fin 4) : Option (Option Status) := do
  let bit ← Exact.shiftLeft 8 1 index.val
  let channel := config.channel.get index
  if channel.rcount < rcountMin || channel.finDivider < finDividerMin ||
      finDividerMax < channel.finDivider || channel.frefDivider < frefDividerMin ||
      frefDividerMax < channel.frefDivider || idriveMax < channel.driveCurrentCode.value then
    some (some (.error .invalidConfig "Incomplete channel register profile" index.val))
  else if config.channels.bits.toNat &&& bit = 0 then some none
  else if channel.rcount < conversionRcountMin || channel.settleCount < conversionSettleMin then
    some (some (.error .invalidConfig "Conversion timing below datasheet minimum" index.val))
  else if channel.expectedSensorMinHz < sensorFrequencyMinHz ||
      sensorFrequencyMaxHz < channel.expectedSensorMaxHz ||
      channel.expectedSensorMaxHz < channel.expectedSensorMinHz then
    some (some (.error .invalidConfig "Expected sensor range must be 1 kHz-10 MHz" index.val))
  else if bandwidth ≤ channel.expectedSensorMaxHz then
    some (some (.error .invalidConfig "Deglitch bandwidth must exceed sensor maximum" index.val))
  else if 8750000 ≤ channel.expectedSensorMaxHz && channel.finDivider < 2 then
    some (some (.error .invalidConfig "FIN divider must be >=2 at 8.75 MHz or above" index.val))
  else exactValidateMargins config clockMin clockMax index

/-- The first failure of a check over the channels; `OK` when there is none. -/
def exactFirstFailure (check : Fin 4 → Option (Option Status)) : List (Fin 4) → Option Status
  | [] => some .ok
  | index :: rest =>
      check index >>= fun
        | some failure => some failure
        | none => exactFirstFailure check rest

/-- `validateConfig`. -/
def exactValidateConfig (config : Config) : Option Status :=
  let channelCount := channelCountFor config.variant
  let valid := validChannelMask config.variant
  let clock := config.referenceClock.frequencyHz
  if config.i2cWrite.isNone || config.i2cWriteRead.isNone then
    some (.error .invalidConfig "I2C callbacks required")
  else if config.i2cTimeoutMs == 0 then
    some (.error .invalidConfig "I2C timeout must be nonzero")
  else if config.i2cAddress ≠ .addrGnd && config.i2cAddress ≠ .addrVdd then
    some (.error .invalidConfig "Invalid I2C address")
  else if channelCount.val == 0 then
    some (.error .invalidConfig "Device variant required")
  else if config.channels.empty || (config.channels.bits &&& ~~~valid.bits) != 0 then
    some (.error .invalidConfig "Invalid configured channel mask")
  else if config.referenceClock.source ≠ .internal &&
      config.referenceClock.source ≠ .externalClock then
    some (.error .invalidConfig "Reference clock required")
  else if config.referenceClock.source = .internal &&
      (clock < internalClockMinHz || internalClockMaxHz < clock) then
    some (.error .invalidConfig "Internal reference clock outside 35-55 MHz")
  else if config.referenceClock.source ≠ .internal &&
      (clock < externalClockMinHz || externalClockMaxHz < clock) then
    some (.error .invalidConfig "External reference clock outside 2-40 MHz")
  else if maxTolerancePpm < config.referenceClock.tolerancePpm then
    some (.error .invalidConfig "Reference clock tolerance must be <1000000 ppm")
  else exactReferenceClockBoundsHz config >>= fun (clockMin, clockMax) =>
    if config.referenceClock.source ≠ .internal ∧
        (clockMin < externalClockMinHz.toNat ∨ externalClockMaxHz.toNat < clockMax) then
      some (.error .invalidConfig "Reference clock tolerance exceeds source range")
    else if !isValidDeglitch config.deglitch then
      some (.error .invalidConfig "Deglitch bandwidth required")
    else if config.sensorActivation ≠ .fullCurrent && config.sensorActivation ≠ .lowPower then
      some (.error .invalidConfig "Invalid sensor activation mode")
    else exactChannelBit config.activeChannel >>= fun bit =>
      if config.mode = .singleChannel ∧
          (isConcreteChannel config.activeChannel = false ∨
            config.channels.contains config.activeChannel = false ∨
            config.channels.bits.toNat ≠ bit ∨ config.rrSequence ≠ .unspecified) then
        some (.error .invalidConfig "Single-channel mode/profile mismatch")
      else if config.mode = .multiChannelSequential &&
          (config.activeChannel ≠ .none ||
            (sequenceMask config.rrSequence).bits != config.channels.bits ||
            ((sequenceMask config.rrSequence).bits &&& ~~~valid.bits) != 0) then
        some (.error .invalidConfig "Sequential mode/profile mismatch")
      else if config.mode ≠ .singleChannel && config.mode ≠ .multiChannelSequential then
        some (.error .invalidConfig "Operating mode required")
      else if config.highCurrentDriveEnabled &&
          (config.mode ≠ .singleChannel || config.activeChannel ≠ .ch0) then
        some (.error .invalidConfig "High-current drive is single-channel CH0 only")
      else
        exactFirstFailure
          (exactValidateChannel config clockMin clockMax (deglitchBandwidthHz config.deglitch))
          (channelIndices channelCount)

/-! ### Agreement -/

/-- Division rounding up does not wrap below the sum's range. -/
theorem exactCeilDivide_eq {numerator denominator : U64}
    (h : numerator.toNat + denominator.toNat < 2 ^ 64) :
    exactCeilDivide numerator.toNat denominator.toNat =
      some (ceilDivide numerator denominator).toNat := by
  unfold exactCeilDivide ceilDivide
  by_cases hzero : denominator = 0
  · rw [if_pos (by rw [hzero]; rfl), if_pos hzero]
    rfl
  · have hpos : denominator.toNat ≠ 0 := fun hnat =>
      hzero (BitVec.eq_of_toNat_eq (by rw [hnat]; rfl))
    have hsum : (numerator + denominator).toNat = numerator.toNat + denominator.toNat := by
      rw [BitVec.toNat_add, Nat.mod_eq_of_lt h]
    have hone : (1 : U64).toNat ≤ (numerator + denominator).toNat := by
      rw [hsum]
      show 1 ≤ _
      omega
    rw [if_neg hpos, if_neg hzero]
    refine Exact.bind_eq_some (Exact.add_toNat h) ?_
    refine Exact.bind_eq_some (Exact.sub_toNat hone) ?_
    exact Exact.div_toNat hzero

/-- The clock envelope neither underflows nor wraps, for any clock and any admitted tolerance. -/
theorem exactReferenceClockBoundsHz_eq {config : Config}
    (h : config.referenceClock.tolerancePpm.toNat ≤ 999999) :
    exactReferenceClockBoundsHz config =
      some ((referenceClockBoundsHz config).1.toNat, (referenceClockBoundsHz config).2.toNat) := by
  unfold exactReferenceClockBoundsHz referenceClockBoundsHz
  by_cases hsource : config.referenceClock.source = .internal
  · rw [if_pos hsource, if_pos hsource]
    rfl
  · rw [if_neg hsource, if_neg hsource]
    have hclock : (config.referenceClock.frequencyHz.setWidth 64).toNat =
        config.referenceClock.frequencyHz.toNat := BitVec.toNat_setWidth_of_le (by decide)
    have htolerance : (config.referenceClock.tolerancePpm.setWidth 64).toNat =
        config.referenceClock.tolerancePpm.toNat := BitVec.toNat_setWidth_of_le (by decide)
    have hscale : ppmScale.toNat = 1000000 := rfl
    rw [← htolerance] at h
    have hfrequency : (config.referenceClock.frequencyHz.setWidth 64).toNat ≤ 2 ^ 32 :=
      hclock ▸ Nat.le_of_lt config.referenceClock.frequencyHz.isLt
    rw [← hclock, ← htolerance]
    generalize (config.referenceClock.frequencyHz.setWidth 64 : U64) = clock at hfrequency ⊢
    generalize (config.referenceClock.tolerancePpm.setWidth 64 : U64) = tolerance at h ⊢
    have hbelow : tolerance.toNat ≤ ppmScale.toNat := by omega
    have hslow : (ppmScale - tolerance).toNat ≤ 1000000 := by
      rw [BitVec.toNat_sub_of_le (BitVec.le_def.mpr hbelow)]
      omega
    obtain ⟨hsum, hfast⟩ := Exact.add_of_le (Nat.le_of_eq hscale) h (by decide)
    obtain ⟨hlow, -⟩ := Exact.mul_of_le hfrequency hslow (by decide)
    obtain ⟨hhigh, hproduct⟩ := Exact.mul_of_le hfrequency hfast (by decide)
    refine Exact.bind_eq_some (Exact.sub_toNat hbelow) ?_
    refine Exact.bind_eq_some hlow ?_
    refine Exact.bind_eq_some (Exact.div_toNat (by decide)) ?_
    refine Exact.bind_eq_some hsum ?_
    refine Exact.bind_eq_some hhigh ?_
    exact Exact.bind_eq_some (exactCeilDivide_eq (by omega)) rfl

/-- The value of an exact division rounding up. -/
theorem value_ceilDivide {numerator denominator quotient : ℕ}
    (h : exactCeilDivide numerator denominator = some quotient) :
    quotient = if denominator = 0 then 0 else (numerator + denominator - 1) / denominator := by
  unfold exactCeilDivide at h
  by_cases hzero : denominator = 0
  · rw [if_pos hzero] at h ⊢
    exact (Option.some.inj h).symm
  · rw [if_neg hzero] at h ⊢
    obtain ⟨sum, hsum, h⟩ := Option.bind_eq_some_iff.mp h
    obtain ⟨pred, hpred, h⟩ := Option.bind_eq_some_iff.mp h
    rw [Exact.value_div h, Exact.value_sub hpred, Exact.value_add hsum]

/-- The clock envelope in numbers. -/
theorem referenceClockBoundsHz_toNat {config : Config}
    (h : config.referenceClock.tolerancePpm.toNat ≤ 999999)
    (hsource : config.referenceClock.source ≠ .internal) :
    (referenceClockBoundsHz config).1.toNat =
        config.referenceClock.frequencyHz.toNat *
          (1000000 - config.referenceClock.tolerancePpm.toNat) / 1000000 ∧
      (referenceClockBoundsHz config).2.toNat =
        (config.referenceClock.frequencyHz.toNat *
          (1000000 + config.referenceClock.tolerancePpm.toNat) + 1000000 - 1) / 1000000 := by
  have hexact := exactReferenceClockBoundsHz_eq h
  unfold exactReferenceClockBoundsHz at hexact
  rw [if_neg hsource] at hexact
  obtain ⟨slower, hslower, hexact⟩ := Option.bind_eq_some_iff.mp hexact
  obtain ⟨slowest, hslowest, hexact⟩ := Option.bind_eq_some_iff.mp hexact
  obtain ⟨minHz, hmin, hexact⟩ := Option.bind_eq_some_iff.mp hexact
  obtain ⟨faster, hfaster, hexact⟩ := Option.bind_eq_some_iff.mp hexact
  obtain ⟨fastest, hfastest, hexact⟩ := Option.bind_eq_some_iff.mp hexact
  obtain ⟨maxHz, hmax, hexact⟩ := Option.bind_eq_some_iff.mp hexact
  obtain ⟨hfst, hsnd⟩ := Prod.mk.inj (Option.some.inj hexact)
  have hscale : ppmScale.toNat = 1000000 := rfl
  constructor
  · rw [← hfst, Exact.value_div hmin, Exact.value_mul hslowest, Exact.value_sub hslower, hscale]
  · rw [← hsnd, value_ceilDivide hmax, Exact.value_mul hfastest, Exact.value_add hfaster, hscale,
      if_neg (by decide)]

/-- The bit of a slot is not shifted out of its byte. -/
theorem exactIndexBit_eq (index : Fin 4) :
    Exact.shiftLeft 8 1 index.val = some (indexBit index).toNat := by
  have hpow : 2 ^ index.val < 2 ^ 8 := Nat.pow_lt_pow_right (by decide) (by omega)
  exact Exact.shiftLeft_toNat (a := 1#8) (by simpa using hpow)

/-- The one-hot mask of a channel loses no bit. -/
theorem exactChannelBit_eq (channel : Channel) :
    exactChannelBit channel = some (channelBit channel).bits.toNat := by
  unfold exactChannelBit channelBit
  by_cases h : channel.raw < 4
  · have hraw : channel.raw.toNat < 4 := BitVec.lt_def.mp h
    have hpow : 2 ^ channel.raw.toNat < 2 ^ 8 := Nat.pow_lt_pow_right (by decide) (by omega)
    rw [if_pos h, if_pos h]
    exact Exact.shiftLeft_toNat (a := 1#8) (by simpa using hpow)
  · rw [if_neg h, if_neg h]
    rfl

/-- A field read at 64 bits keeps its value, and any bound on it. -/
theorem widened {w : ℕ} (x : BitVec w) (h : w ≤ 64) : x.toNat = (x.setWidth 64).toNat :=
  (BitVec.toNat_setWidth_of_le h).symm

/-- A word is zero exactly if its value is. -/
theorem toNat_eq_zero_iff {w : ℕ} {x : BitVec w} : x.toNat = 0 ↔ x = 0 :=
  ⟨fun hnat => BitVec.eq_of_toNat_eq (by rw [hnat]; simp), fun heq => by rw [heq]; simp⟩

/-- The limit on a channel reference, as the comparison at 64 bits makes it. -/
theorem frefLimitHz_lt_iff {config : Config} {fref : U64} :
    frefLimitHz config < fref.toNat ↔
      (if config.mode = .singleChannel then (35000000 : U64)
        else if config.referenceClock.source = .externalClock then 40000000
        else 55000000) < fref := by
  unfold frefLimitHz
  rw [BitVec.lt_def]
  split
  · exact Iff.rfl
  · split <;> exact Iff.rfl

/-- The channel loop compares unwrapped products. -/
theorem exactValidateChannel_eq {config : Config} {clockMin clockMax : U64} {bandwidth : U32}
    {index : Fin 4} (hmin : clockMin.toNat ≤ 2 ^ 32) (hmax : clockMax.toNat ≤ 55000000) :
    exactValidateChannel config clockMin.toNat clockMax.toNat bandwidth index =
      some (validateChannel config clockMin clockMax bandwidth index) := by
  unfold exactValidateChannel validateChannel
  refine Exact.bind_eq_some (exactIndexBit_eq index) ?_
  refine Exact.ite_eq_some Iff.rfl (fun _ => rfl) fun hregisters => ?_
  refine Exact.ite_eq_some ?_ (fun _ => rfl) fun _ => ?_
  · rw [← BitVec.toNat_and, beq_iff_eq]
    exact toNat_eq_zero_iff
  refine Exact.ite_eq_some Iff.rfl (fun _ => rfl) fun _ => ?_
  refine Exact.ite_eq_some Iff.rfl (fun _ => rfl) fun hsensor => ?_
  refine Exact.ite_eq_some Iff.rfl (fun _ => rfl) fun _ => ?_
  refine Exact.ite_eq_some Iff.rfl (fun _ => rfl) fun _ => ?_
  unfold exactValidateMargins
  dsimp only
  generalize config.channel.get index = channel at hregisters hsensor ⊢
  simp only [Bool.or_eq_true, decide_eq_true_eq, not_or, BitVec.not_lt,
    BitVec.le_def] at hregisters hsensor
  obtain ⟨⟨⟨⟨⟨-, -⟩, hfin⟩, hpos⟩, hfref⟩, -⟩ := hregisters
  obtain ⟨⟨-, hsmax⟩, hsmin⟩ := hsensor
  have hrcount : channel.rcount.toNat ≤ 65535 := Nat.le_of_lt_succ channel.rcount.isLt
  have hoffset : channel.offset.toNat ≤ 65535 := Nat.le_of_lt_succ channel.offset.isLt
  replace hsmin := Nat.le_trans hsmin hsmax
  -- The code computes at 64 bits, where the fields have the values just bounded.
  rw [widened channel.finDivider (by decide)] at hfin ⊢
  rw [widened channel.frefDivider (by decide)] at hpos hfref ⊢
  rw [widened channel.rcount (by decide)] at hrcount ⊢
  rw [widened channel.offset (by decide)] at hoffset ⊢
  rw [widened channel.expectedSensorMinHz (by decide)] at hsmin ⊢
  rw [widened channel.expectedSensorMaxHz (by decide)] at hsmax ⊢
  generalize (channel.finDivider.setWidth 64 : U64) = fin at hfin ⊢
  generalize (channel.frefDivider.setWidth 64 : U64) = fref at hpos hfref ⊢
  generalize (channel.rcount.setWidth 64 : U64) = rcount at hrcount ⊢
  generalize (channel.offset.setWidth 64 : U64) = offset at hoffset ⊢
  generalize (channel.expectedSensorMinHz.setWidth 64 : U64) = smin at hsmin ⊢
  generalize (channel.expectedSensorMaxHz.setWidth 64 : U64) = smax at hsmax ⊢
  have hne : fref ≠ 0 := by
    rintro rfl
    exact absurd hpos (by decide)
  have hconst (n : U64) : n.toNat ≤ n.toNat := Nat.le_refl _
  obtain ⟨hcycles, hcyclesLe⟩ := Exact.mul_of_le hrcount (hconst 16) (by decide)
  obtain ⟨hwhole, hwholeLe⟩ := Exact.add_of_le hcyclesLe (hconst 4) (by decide)
  obtain ⟨hsensed, hsensedLe⟩ := Exact.mul_of_le hwholeLe hsmin (by decide)
  obtain ⟨hwindow, -⟩ := Exact.mul_of_le hsensedLe hfref (by decide)
  obtain ⟨hperiod, -⟩ := Exact.mul_of_le hmax hfin (by decide)
  obtain ⟨hmasked, hmaskedLe⟩ := Exact.mul_of_le hoffset hmax (by decide)
  obtain ⟨hhidden, -⟩ := Exact.mul_of_le hmaskedLe hfin (by decide)
  obtain ⟨hscaled, hscaledLe⟩ := Exact.mul_of_le hsmin (hconst 65536) (by decide)
  obtain ⟨hleast, -⟩ := Exact.mul_of_le hscaledLe hfref (by decide)
  obtain ⟨hfourfold, hfourfoldLe⟩ := Exact.mul_of_le hsmax (hconst 4) (by decide)
  obtain ⟨hinput, -⟩ := Exact.mul_of_le hfourfoldLe hfref (by decide)
  obtain ⟨hquarter, -⟩ := Exact.mul_of_le hmin hfin (by decide)
  refine Exact.bind_eq_some (Exact.div_toNat hne) ?_
  refine Exact.bind_eq_some (exactCeilDivide_eq (by omega)) ?_
  refine Exact.ite_eq_some ?_ (fun _ => rfl) fun _ => ?_
  · rw [Bool.or_eq_true, beq_iff_eq, decide_eq_true_eq]
    exact or_congr toNat_eq_zero_iff frefLimitHz_lt_iff
  refine Exact.bind_eq_some hcycles ?_
  refine Exact.bind_eq_some hwhole ?_
  refine Exact.bind_eq_some hsensed ?_
  refine Exact.bind_eq_some hwindow ?_
  refine Exact.bind_eq_some hperiod ?_
  refine Exact.ite_eq_some BitVec.lt_def.symm (fun _ => rfl) fun _ => ?_
  refine Exact.bind_eq_some hmasked ?_
  refine Exact.bind_eq_some hhidden ?_
  refine Exact.bind_eq_some hscaled ?_
  refine Exact.bind_eq_some hleast ?_
  refine Exact.ite_eq_some BitVec.le_def.symm (fun _ => rfl) fun _ => ?_
  refine Exact.bind_eq_some hfourfold ?_
  refine Exact.bind_eq_some hinput ?_
  refine Exact.bind_eq_some hquarter ?_
  exact Exact.ite_eq_some BitVec.le_def.symm (fun _ => rfl) fun _ => rfl

/-- The loop over the channels returns the first failure. -/
theorem exactFirstFailure_eq {check : Fin 4 → Option (Option Status)} {body : Fin 4 → Option Status}
    (h : ∀ index, check index = some (body index)) (indices : List (Fin 4)) :
    exactFirstFailure check indices =
      some (match indices.findSome? body with
        | some failure => failure
        | none => .ok) := by
  induction indices with
  | nil => rfl
  | cons index rest ih =>
      unfold exactFirstFailure
      refine Exact.bind_eq_some (h index) ?_
      rw [List.findSome?_cons]
      cases body index with
      | none => exact ih
      | some failure => rfl

/-- The slow end of the envelope is at most the nominal clock. -/
theorem referenceClockBoundsHz_fst_le {config : Config}
    (h : config.referenceClock.tolerancePpm.toNat ≤ 999999) :
    (referenceClockBoundsHz config).1.toNat ≤ 2 ^ 32 := by
  by_cases hsource : config.referenceClock.source = .internal
  · unfold referenceClockBoundsHz
    rw [if_pos hsource]
    decide
  · have hfrequency := config.referenceClock.frequencyHz.isLt
    rw [(referenceClockBoundsHz_toNat h hsource).1]
    calc config.referenceClock.frequencyHz.toNat *
            (1000000 - config.referenceClock.tolerancePpm.toNat) / 1000000
        ≤ config.referenceClock.frequencyHz.toNat * 1000000 / 1000000 :=
          Nat.div_le_div_right (Nat.mul_le_mul_left _ (Nat.sub_le _ _))
      _ = config.referenceClock.frequencyHz.toNat := Nat.mul_div_cancel _ (by decide)
      _ ≤ 2 ^ 32 := Nat.le_of_lt hfrequency

/-- Validation of any profile computes in unwrapped values throughout. -/
theorem exactValidateConfig_eq (config : Config) :
    exactValidateConfig config = some (validateConfig config) := by
  unfold exactValidateConfig validateConfig
  dsimp only
  refine Exact.ite_eq_some Iff.rfl (fun _ => rfl) fun _ => ?_
  refine Exact.ite_eq_some Iff.rfl (fun _ => rfl) fun _ => ?_
  refine Exact.ite_eq_some Iff.rfl (fun _ => rfl) fun _ => ?_
  refine Exact.ite_eq_some Iff.rfl (fun _ => rfl) fun _ => ?_
  refine Exact.ite_eq_some Iff.rfl (fun _ => rfl) fun _ => ?_
  refine Exact.ite_eq_some Iff.rfl (fun _ => rfl) fun _ => ?_
  refine Exact.ite_eq_some Iff.rfl (fun _ => rfl) fun _ => ?_
  refine Exact.ite_eq_some Iff.rfl (fun _ => rfl) fun hclock => ?_
  refine Exact.ite_eq_some Iff.rfl (fun _ => rfl) fun htolerance => ?_
  replace htolerance : config.referenceClock.tolerancePpm.toNat ≤ 999999 :=
    BitVec.le_def.mp (BitVec.not_lt.mp htolerance)
  refine Exact.bind_eq_some (exactReferenceClockBoundsHz_eq htolerance) ?_
  refine Exact.ite_eq_some ?_ (fun _ => rfl) fun hbounds => ?_
  · simp only [Bool.and_eq_true, Bool.or_eq_true, decide_eq_true_eq, BitVec.lt_def]
    exact Iff.rfl
  refine Exact.ite_eq_some Iff.rfl (fun _ => rfl) fun _ => ?_
  refine Exact.ite_eq_some Iff.rfl (fun _ => rfl) fun _ => ?_
  refine Exact.bind_eq_some (exactChannelBit_eq config.activeChannel) ?_
  refine Exact.ite_eq_some ?_ (fun _ => rfl) fun _ => ?_
  · simp only [Bool.and_eq_true, Bool.or_eq_true, decide_eq_true_eq, Bool.not_eq_true',
      bne_iff_ne, ne_eq, BitVec.toNat_inj, or_assoc]
  refine Exact.ite_eq_some Iff.rfl (fun _ => rfl) fun _ => ?_
  refine Exact.ite_eq_some Iff.rfl (fun _ => rfl) fun _ => ?_
  refine Exact.ite_eq_some Iff.rfl (fun _ => rfl) fun _ => ?_
  refine exactFirstFailure_eq (fun index => exactValidateChannel_eq ?_ ?_) _
  · exact referenceClockBoundsHz_fst_le htolerance
  · by_cases hsource : config.referenceClock.source = .internal
    · unfold referenceClockBoundsHz
      rw [if_pos hsource]
      decide
    · simp only [Bool.and_eq_true, Bool.or_eq_true, decide_eq_true_eq, not_and, not_or,
        BitVec.lt_def] at hbounds
      have hmax := Nat.not_lt.mp (hbounds hsource).2
      exact Nat.le_trans hmax (by decide)

end Ldc1614
