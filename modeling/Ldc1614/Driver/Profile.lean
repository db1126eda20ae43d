import Ldc1614.Driver.Types

/-! # The configuration profile

Validation of a profile, its encoding into registers, and the sequence of register writes that
replays it: `validateConfig`, `buildConfigRegister`, `buildMuxConfigRegister`, `configWriteAt` and
`expectedConfigurationRegister` of `LDC1614.cpp`. -/

namespace Ldc1614

open Cmd

/-! ### Provenance of a register -/

/-- The replay phase a register belongs to. -/
def configurationPhaseForRegister (reg : U8) : JobPhase :=
  if regRcount0 ≤ reg && reg ≤ regRcount3 then .writeRcount
  else if regSettlecount0 ≤ reg && reg ≤ regSettlecount3 then .writeSettlecount
  else if regClockDividers0 ≤ reg && reg ≤ regClockDividers3 then .writeClockDividers
  else if regOffset0 ≤ reg && reg ≤ regOffset3 then .writeOffset
  else if regDriveCurrent0 ≤ reg && reg ≤ regDriveCurrent3 then .writeDriveCurrent
  else if reg == regErrorConfig then .writeErrorConfig
  else if reg == regMuxConfig then .writeMuxConfig
  else if reg == regConfig then .writeFinalConfig
  else if reg == regResetDev then .softwareReset
  else .none

/-- The channel a register belongs to. -/
def configurationChannelForRegister (reg : U8) : Channel :=
  if regRcount0 ≤ reg && reg ≤ regRcount3 then ⟨reg - regRcount0⟩
  else if regSettlecount0 ≤ reg && reg ≤ regSettlecount3 then ⟨reg - regSettlecount0⟩
  else if regClockDividers0 ≤ reg && reg ≤ regClockDividers3 then ⟨reg - regClockDividers0⟩
  else if regOffset0 ≤ reg && reg ≤ regOffset3 then ⟨reg - regOffset0⟩
  else if regDriveCurrent0 ≤ reg && reg ≤ regDriveCurrent3 then ⟨reg - regDriveCurrent0⟩
  else .none

/-! ### Validation -/

def sensorFrequencyMinHz : U32 := 1000
def sensorFrequencyMaxHz : U32 := 10000000
def internalClockMinHz : U32 := 35000000
def internalClockMaxHz : U32 := 55000000
def externalClockMinHz : U32 := 2000000
def externalClockMaxHz : U32 := 40000000
def maxTolerancePpm : U32 := 999999
def ppmScale : U64 := 1000000

/-- The deglitch setting is one of the four bandwidths. -/
def isValidDeglitch (deglitch : Deglitch) : Bool :=
  deglitch = .bw1Mhz || deglitch = .bw3Mhz || deglitch = .bw10Mhz || deglitch = .bw33Mhz

/-- Bandwidth of a deglitch setting. -/
def deglitchBandwidthHz (deglitch : Deglitch) : U32 :=
  if deglitch = .bw1Mhz then 1000000
  else if deglitch = .bw3Mhz then 3300000
  else if deglitch = .bw10Mhz then 10000000
  else if deglitch = .bw33Mhz then 33000000
  else 0

/-- Division rounding up; `0` for a zero denominator. -/
def ceilDivide (numerator denominator : U64) : U64 :=
  if denominator = 0 then 0 else (numerator + denominator - 1) / denominator

/-- Slowest and fastest reference clock of the declared envelope. -/
def referenceClockBoundsHz (config : Config) : U64 × U64 :=
  if config.referenceClock.source = .internal then
    (internalClockMinHz.setWidth 64, internalClockMaxHz.setWidth 64)
  else
    let clock := config.referenceClock.frequencyHz.setWidth 64
    let tolerance := config.referenceClock.tolerancePpm.setWidth 64
    (clock * (ppmScale - tolerance) / ppmScale, ceilDivide (clock * (ppmScale + tolerance)) ppmScale)

/-- The body of the per-channel loop of `validateConfig`: the failure it returns, if any. -/
def validateChannel (config : Config) (clockMin clockMax : U64) (bandwidth : U32)
    (index : Fin 4) : Option Status :=
  let channel := config.channel.get index
  if channel.rcount < rcountMin || channel.finDivider < finDividerMin ||
      finDividerMax < channel.finDivider || channel.frefDivider < frefDividerMin ||
      frefDividerMax < channel.frefDivider || idriveMax < channel.driveCurrentCode.value then
    some (.error .invalidConfig "Incomplete channel register profile" index.val)
  else if (config.channels.bits &&& indexBit index) == 0 then none
  else if channel.rcount < conversionRcountMin || channel.settleCount < conversionSettleMin then
    some (.error .invalidConfig "Conversion timing below datasheet minimum" index.val)
  else if channel.expectedSensorMinHz < sensorFrequencyMinHz ||
      sensorFrequencyMaxHz < channel.expectedSensorMaxHz ||
      channel.expectedSensorMaxHz < channel.expectedSensorMinHz then
    some (.error .invalidConfig "Expected sensor range must be 1 kHz-10 MHz" index.val)
  else if bandwidth ≤ channel.expectedSensorMaxHz then
    some (.error .invalidConfig "Deglitch bandwidth must exceed sensor maximum" index.val)
  else if 8750000 ≤ channel.expectedSensorMaxHz && channel.finDivider < 2 then
    some (.error .invalidConfig "FIN divider must be >=2 at 8.75 MHz or above" index.val)
  else
    let frefDivider : U64 := channel.frefDivider.setWidth 64
    let finDivider : U64 := channel.finDivider.setWidth 64
    let frefMin := clockMin / frefDivider
    let frefMax := ceilDivide clockMax frefDivider
    let frefLimit : U64 :=
      if config.mode = .singleChannel then 35000000
      else if config.referenceClock.source = .externalClock then 40000000
      else 55000000
    if frefMin == 0 || frefLimit < frefMax then
      some (.error .invalidConfig "Channel reference clock tolerance exceeds limit" index.val)
    else
      let conversionCycles : U64 := channel.rcount.setWidth 64 * 16 + 4
      if conversionCycles * channel.expectedSensorMinHz.setWidth 64 * frefDivider
          < clockMax * finDivider then
        some (.error .invalidConfig "Conversion shorter than minimum sensor period" index.val)
      else if channel.expectedSensorMinHz.setWidth 64 * 65536 * frefDivider
          ≤ channel.offset.setWidth 64 * clockMax * finDivider then
        some (.error .invalidConfig "OFFSET masks expected sensor minimum" index.val)
      else if clockMin * finDivider
          ≤ channel.expectedSensorMaxHz.setWidth 64 * 4 * frefDivider then
        some (.error .invalidConfig "Worst-case sensor input must be below fREFx/4" index.val)
      else none

/-- Validate one complete desired profile. -/
def validateConfig (config : Config) : Status :=
  let channelCount := channelCountFor config.variant
  let valid := validChannelMask config.variant
  let clock := config.referenceClock.frequencyHz
  let bounds := referenceClockBoundsHz config
  if config.i2cWrite.isNone || config.i2cWriteRead.isNone then
    .error .invalidConfig "I2C callbacks required"
  else if config.i2cTimeoutMs == 0 then
    .error .invalidConfig "I2C timeout must be nonzero"
  else if config.i2cAddress ≠ .addrGnd && config.i2cAddress ≠ .addrVdd then
    .error .invalidConfig "Invalid I2C address"
  else if channelCount.val == 0 then
    .error .invalidConfig "Device variant required"
  else if config.channels.empty || (config.channels.bits &&& ~~~valid.bits) != 0 then
    .error .invalidConfig "Invalid configured channel mask"
  else if config.referenceClock.source ≠ .internal &&
      config.referenceClock.source ≠ .externalClock then
    .error .invalidConfig "Reference clock required"
  else if config.referenceClock.source = .internal &&
      (clock < internalClockMinHz || internalClockMaxHz < clock) then
    .error .invalidConfig "Internal reference clock outside 35-55 MHz"
  else if config.referenceClock.source ≠ .internal &&
      (clock < externalClockMinHz || externalClockMaxHz < clock) then
    .error .invalidConfig "External reference clock outside 2-40 MHz"
  else if maxTolerancePpm < config.referenceClock.tolerancePpm then
    .error .invalidConfig "Reference clock tolerance must be <1000000 ppm"
  else if config.referenceClock.source ≠ .internal &&
      (bounds.1 < externalClockMinHz.setWidth 64 || externalClockMaxHz.setWidth 64 < bounds.2) then
    .error .invalidConfig "Reference clock tolerance exceeds source range"
  else if !isValidDeglitch config.deglitch then
    .error .invalidConfig "Deglitch bandwidth required"
  else if config.sensorActivation ≠ .fullCurrent && config.sensorActivation ≠ .lowPower then
    .error .invalidConfig "Invalid sensor activation mode"
  else if config.mode = .singleChannel &&
      (!isConcreteChannel config.activeChannel || !config.channels.contains config.activeChannel ||
        config.channels.bits != (channelBit config.activeChannel).bits ||
        config.rrSequence ≠ .unspecified) then
    .error .invalidConfig "Single-channel mode/profile mismatch"
  else if config.mode = .multiChannelSequential &&
      (config.activeChannel ≠ .none ||
        (sequenceMask config.rrSequence).bits != config.channels.bits ||
        ((sequenceMask config.rrSequence).bits &&& ~~~valid.bits) != 0) then
    .error .invalidConfig "Sequential mode/profile mismatch"
  else if config.mode ≠ .singleChannel && config.mode ≠ .multiChannelSequential then
    .error .invalidConfig "Operating mode required"
  else if config.highCurrentDriveEnabled &&
      (config.mode ≠ .singleChannel || config.activeChannel ≠ .ch0) then
    .error .invalidConfig "High-current drive is single-channel CH0 only"
  else
    match (channelIndices channelCount).findSome?
        (validateChannel config bounds.1 bounds.2 (deglitchBandwidthHz config.deglitch)) with
    | some failure => failure
    | none => .ok

/-- What the driver relies on once a profile is validated. -/
structure Config.Valid (config : Config) : Prop where
  i2cWrite : config.i2cWrite.isSome = true
  i2cWriteRead : config.i2cWriteRead.isSome = true
  timeout : config.i2cTimeoutMs ≠ 0
  variant : config.variant = .ldc1612 ∨ config.variant = .ldc1614
  nonempty : config.channels.bits ≠ 0
  implemented : config.channels.bits &&& ~~~(validChannelMask config.variant).bits = 0

/-- Only the two variants have channels. -/
theorem channelCountFor_ne_zero {variant : DeviceVariant} (h : channelCountFor variant ≠ 0) :
    variant = .ldc1612 ∨ variant = .ldc1614 := by
  unfold channelCountFor at h
  split_ifs at h with h₁ h₂
  · exact Or.inl h₁
  · exact Or.inr h₂
  · exact absurd rfl h

/-- A check that passed. -/
theorem passed_of_isOk {failing : Prop} [Decidable failing] {failure rest : Status}
    (hfailure : failure.isOk = false) (h : (if failing then failure else rest).isOk = true) :
    ¬ failing ∧ rest.isOk = true := by
  by_cases hc : failing
  · rw [if_pos hc, hfailure] at h
    exact absurd h (by decide)
  · rw [if_neg hc] at h
    exact ⟨hc, h⟩

/-- Validation accepts only such profiles. -/
theorem valid_of_validateConfig {config : Config} (h : (validateConfig config).isOk = true) :
    config.Valid := by
  unfold validateConfig at h
  obtain ⟨hcallbacks, h⟩ := passed_of_isOk rfl h
  obtain ⟨htimeout, h⟩ := passed_of_isOk rfl h
  obtain ⟨-, h⟩ := passed_of_isOk rfl h
  obtain ⟨hvariant, h⟩ := passed_of_isOk rfl h
  obtain ⟨hmask, -⟩ := passed_of_isOk rfl h
  simp only [Bool.or_eq_true, not_or, Option.isNone_iff_eq_none, ← ne_eq,
    ← Option.isSome_iff_ne_none] at hcallbacks
  simp only [Bool.or_eq_true, not_or, ChannelMask.empty, beq_iff_eq, bne_iff_ne, ne_eq,
    not_not] at hmask
  exact ⟨hcallbacks.1, hcallbacks.2, by simpa using htimeout,
    channelCountFor_ne_zero (by simpa using hvariant), hmask.1, hmask.2⟩

/-! ### Register encoding -/

/-- `value` with the bits of `mask` set when `condition` holds. -/
def setBits (value : U16) (condition : Bool) (mask : U16) : U16 :=
  if condition then value ||| mask else value

/-- The CONFIG word of a profile. -/
def buildConfigRegister (config : Config) (sleeping : Bool) : U16 :=
  let value := configReservedValue
  let value := setBits value (isConcreteChannel config.activeChannel)
    ((config.activeChannel.raw.setWidth 16 <<< bitCfgActiveChan) &&& maskCfgActiveChan)
  let value := setBits value sleeping maskCfgSleepModeEn
  let value := setBits value config.rpOverrideEnabled maskCfgRpOverrideEn
  let value := setBits value (config.sensorActivation = .lowPower) maskCfgSensorActivateSel
  let value := setBits value (!config.autoAmplitudeCorrectionEnabled) maskCfgAutoAmpDis
  let value := setBits value (config.referenceClock.source = .externalClock) maskCfgRefClkSrc
  let value := setBits value config.intbDisabled maskCfgIntbDis
  setBits value config.highCurrentDriveEnabled maskCfgHighCurrentDrv

/-- The MUX_CONFIG word of a profile. -/
def buildMuxConfigRegister (config : Config) : U16 :=
  let value := muxConfigReservedValue
  let sequential : Bool := config.mode = .multiChannelSequential
  let value := setBits value sequential maskMuxAutoscanEn
  let value := setBits value sequential
    ((config.rrSequence.raw.setWidth 16 <<< bitMuxRrSequence) &&& maskMuxRrSequence)
  value ||| (config.deglitch.raw.setWidth 16 &&& maskMuxDeglitch)

/-- The ERROR_CONFIG word of a routing policy. -/
def encodeErrorReporting (reporting : ErrorReporting) : U16 :=
  let value : U16 := 0
  let value := setBits value reporting.dataUnderRange maskErrcfgUrErr2out
  let value := setBits value reporting.dataOverRange maskErrcfgOrErr2out
  let value := setBits value reporting.dataWatchdog maskErrcfgWdErr2out
  let value := setBits value reporting.dataAmplitudeHigh maskErrcfgAhErr2out
  let value := setBits value reporting.dataAmplitudeLow maskErrcfgAlErr2out
  let value := setBits value reporting.statusUnderRange maskErrcfgUrErr2int
  let value := setBits value reporting.statusOverRange maskErrcfgOrErr2int
  let value := setBits value reporting.statusWatchdog maskErrcfgWdErr2int
  let value := setBits value reporting.statusAmplitudeHigh maskErrcfgAhErr2int
  let value := setBits value reporting.statusAmplitudeLow maskErrcfgAlErr2int
  let value := setBits value reporting.statusZeroCount maskErrcfgZcErr2int
  setBits value reporting.dataReady maskErrcfgDrdy2int

/-! ### The replay sequence -/

/-- Number of writes that replay a profile. -/
def configurationTransferCount (channelCount : Fin 5) : U8 :=
  1 + BitVec.ofNat 8 channelCount.val * 5 + 2

/-- One step of the replay; `valid` is false past its end. -/
structure ConfigWrite where
  valid : Bool := false
  reg : U8 := 0
  value : U16 := 0
  phase : JobPhase := .none
  channel : Channel := .none
  deriving DecidableEq, Repr

/-- The five per-channel writes of the replay. -/
def channelWriteAt (config : Config) (index : Fin 4) (field : ℕ) : ConfigWrite :=
  let channel := config.channel.get index
  let ch : U8 := BitVec.ofNat 8 index.val
  match field with
  | 0 => ⟨true, regRcount ch, channel.rcount, .writeRcount, ⟨ch⟩⟩
  | 1 => ⟨true, regSettleCount ch, channel.settleCount, .writeSettlecount, ⟨ch⟩⟩
  | 2 => ⟨true, regClockDividers ch,
      (channel.finDivider.setWidth 16 <<< bitFinDivider) ||| (channel.frefDivider &&& maskFrefDivider),
      .writeClockDividers, ⟨ch⟩⟩
  | 3 => ⟨true, regOffset ch, channel.offset, .writeOffset, ⟨ch⟩⟩
  | _ => ⟨true, regDriveCurrent ch, channel.driveCurrentCode.value.setWidth 16 <<< bitIdrive,
      .writeDriveCurrent, ⟨ch⟩⟩

/-- The `step`-th write of the replay. -/
def configWriteAt (config : Config) (channelCount : Fin 5) (step : U8) : ConfigWrite :=
  let total := configurationTransferCount channelCount
  if total ≤ step then {}
  else if step = 0 then
    { valid := true, reg := regConfig, value := buildConfigRegister config true,
      phase := .forceSleep }
  else
    let perChannelStep := step.toNat - 1
    if h : perChannelStep < channelCount.val * 5 then
      channelWriteAt config ⟨perChannelStep / 5, by omega⟩ (perChannelStep % 5)
    else if perChannelStep - channelCount.val * 5 = 0 then
      { valid := true, reg := regErrorConfig, value := encodeErrorReporting config.errorReporting,
        phase := .writeErrorConfig }
    else
      { valid := true, reg := regMuxConfig, value := buildMuxConfigRegister config,
        phase := .writeMuxConfig }

/-- The bits of a register whose readback the profile owns. -/
def configurationComparisonMask (reg : U8) : U16 :=
  if (regRcount0 ≤ reg && reg ≤ regRcount3) || (regOffset0 ≤ reg && reg ≤ regOffset3) ||
      (regSettlecount0 ≤ reg && reg ≤ regSettlecount3) then 0xFFFF
  else if regClockDividers0 ≤ reg && reg ≤ regClockDividers3 then 0xFFFF
  else if reg == regErrorConfig then 0xFFFF
  else if reg == regConfig then 0xFFFF &&& ~~~maskCfgSleepModeEn
  else if reg == regMuxConfig then 0xFFFF
  else if regDriveCurrent0 ≤ reg && reg ≤ regDriveCurrent3 then 0xFFFF &&& ~~~maskInitIdrive
  else 0

/-- What `expectedConfigurationRegister` returns and stores into its output arguments. -/
structure ExpectedRegister where
  status : Status
  expectedValue : U16 := 0
  comparisonMask : U16 := 0
  deriving DecidableEq, Repr

/-- The canonical replay value and comparison mask of one persistent register. -/
def expectedConfigurationRegister (config : Config) (reg : U8) : ExpectedRegister :=
  let validation := validateConfig config
  if !validation.isOk then { status := validation }
  else
    let channelCount := channelCountFor config.variant
    let steps := (List.range (configurationTransferCount channelCount).toNat).map (BitVec.ofNat 8)
    match (steps.map (configWriteAt config channelCount)).find?
        fun write => write.valid && write.reg == reg with
    | some write => ⟨.ok, write.value, configurationComparisonMask reg⟩
    | none =>
        { status := .error .invalidParam
            "Register is not part of selected configuration profile" reg.toNat }

end Ldc1614
