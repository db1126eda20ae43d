import Ldc1614.Driver.Config

/-! # Jobs, results and decoded data

The public types of `LDC1614.h` (trust state, job kinds and phases, effects, faults, samples,
progress and results) and the decoders of STATUS and DATA words. -/

namespace Ldc1614

open Cmd

/-! ### Trust, jobs and outcomes -/

/-- Trust state of the desired configuration relative to hardware. -/
inductive AppliedConfigState where
  | unknown
  | applying
  | appliedSleeping
  | appliedActive
  | dirty
  deriving DecidableEq, Repr

/-- Cooperative multi-transfer operation class. -/
inductive JobKind where
  | none
  /-- `INITIALIZE`. -/
  | initialise
  | applyConfig
  | resetAndReapply
  | acquire
  deriving DecidableEq, Repr

/-- Protocol phase used for progress and fault provenance. -/
inductive JobPhase where
  | none
  | verifyManufacturer
  | verifyDevice
  | forceSleep
  | writeRcount
  | writeSettlecount
  | writeClockDividers
  | writeOffset
  | writeDriveCurrent
  | writeErrorConfig
  | writeMuxConfig
  | writeFinalConfig
  | softwareReset
  | readStatusBefore
  | readDataMsb
  | readDataLsb
  | readStatusAfter
  deriving DecidableEq, Repr

/-- Terminal classification independent of the detailed status. -/
inductive TerminalOutcome where
  | none
  | success
  | failed
  | cancelled
  | timedOut
  deriving DecidableEq, Repr

/-! ### Effects -/

/-- Hardware-side effects an operation accumulates. -/
inductive EffectFlag where
  | readSideEffects
  | partialWrite
  | indeterminateWrite
  deriving DecidableEq, Repr

/-- Bitset of effects. -/
abbrev EffectFlags := U8

/-- One-hot representation of an effect. -/
def effectFlag : EffectFlag → EffectFlags
  | .readSideEffects => 1
  | .partialWrite => 2
  | .indeterminateWrite => 4

/-- The effect is present. -/
def hasEffect (flags : EffectFlags) (flag : EffectFlag) : Bool := (flags &&& effectFlag flag) != 0

/-- No effects have no flag. -/
@[simp] theorem hasEffect_zero (flag : EffectFlag) : hasEffect 0 flag = false := by
  cases flag <;> rfl

/-- Adding an effect makes it present and leaves the others as they are. -/
@[simp] theorem hasEffect_or (flags : EffectFlags) (added flag : EffectFlag) :
    hasEffect (flags ||| effectFlag added) flag = (decide (added = flag) || hasEffect flags flag) := by
  revert flags
  cases added <;> cases flag <;> decide

/-! ### Faults, statuses and samples -/

/-- The sentinel for "no register". -/
def invalidRegister : U8 := 0xFF

/-- Provenance when trusted configuration becomes partial, uncertain or disproven. -/
structure ConfigFault where
  valid : Bool := false
  cause : Status := .ok
  job : JobKind := .none
  phase : JobPhase := .none
  registerAddress : U8 := 0xFF
  channel : Channel := .none
  effects : EffectFlags := 0
  deriving DecidableEq, Repr

/-- Parsed STATUS register snapshot. -/
structure DeviceStatus where
  observed : Bool := false
  errorChannel : Channel := .none
  errorUnderRange : Bool := false
  errorOverRange : Bool := false
  errorWatchdog : Bool := false
  errorAmplitudeHigh : Bool := false
  errorAmplitudeLow : Bool := false
  errorZeroCount : Bool := false
  dataReady : Bool := false
  unreadChannels : ChannelMask := {}
  raw : U16 := 0
  deriving DecidableEq, Repr

/-- Some decoded silicon error is asserted. -/
def DeviceStatus.hasError (status : DeviceStatus) : Bool :=
  status.errorUnderRange || status.errorOverRange || status.errorWatchdog ||
    status.errorAmplitudeHigh || status.errorAmplitudeLow || status.errorZeroCount

/-- Per-channel quality evidence. -/
inductive SampleQualityFlag where
  | fresh
  | stale
  | underRange
  | overRange
  | watchdog
  | amplitudeSuspect
  | zeroCount
  | dataLost
  | configUnknown
  deriving DecidableEq, Repr

/-- Bitset of quality flags. -/
abbrev SampleQualityFlags := U16

/-- One-hot representation of a quality flag. -/
def sampleQualityFlag : SampleQualityFlag → SampleQualityFlags
  | .fresh => 0x001
  | .stale => 0x002
  | .underRange => 0x004
  | .overRange => 0x008
  | .watchdog => 0x010
  | .amplitudeSuspect => 0x020
  | .zeroCount => 0x040
  | .dataLost => 0x080
  | .configUnknown => 0x100

/-- The quality flag is present. -/
def hasSampleQuality (flags : SampleQualityFlags) (flag : SampleQualityFlag) : Bool :=
  (flags &&& sampleQualityFlag flag) != 0

/-- Raw coherent channel result plus quality. -/
structure ChannelSample where
  rawCount28 : U32 := 0
  rawDataMsb : U16 := 0
  rawDataLsb : U16 := 0
  quality : SampleQualityFlags := 0
  deriving DecidableEq, Repr

/-- One sequential readout batch. -/
structure SampleBatch where
  selectedChannels : ChannelMask := {}
  validChannels : ChannelMask := {}
  freshChannels : ChannelMask := {}
  errorChannels : ChannelMask := {}
  overrunChannels : ChannelMask := {}
  statusBefore : DeviceStatus := {}
  statusAfter : DeviceStatus := {}
  channel : Vector ChannelSample 4 := Vector.replicate 4 {}
  completedUptimeMs : U64 := 0
  configRevision : U32 := 0
  deriving DecidableEq, Repr

/-! ### Progress and results -/

/-- Snapshot of active or terminal job progress. -/
structure JobProgress where
  active : Bool := false
  operationId : U64 := 0
  kind : JobKind := .none
  phase : JobPhase := .none
  registerAddress : U8 := 0xFF
  channel : Channel := .none
  deadlineMs : U64 := 0
  completedTransfers : U8 := 0
  maximumTransfers : U8 := 0
  requestedChannels : ChannelMask := {}
  completedChannels : ChannelMask := {}
  effects : EffectFlags := 0
  configRevision : U32 := 0
  deriving DecidableEq, Repr

/-- Terminal record returned by `takeResult`. -/
structure OperationResult where
  operationId : U64 := 0
  kind : JobKind := .none
  outcome : TerminalOutcome := .none
  status : Status := .ok
  effects : EffectFlags := 0
  configFault : ConfigFault := {}
  configRevision : U32 := 0
  completedUptimeMs : U64 := 0
  finalProgress : JobProgress := {}
  hasSampleBatch : Bool := false
  sampleBatch : SampleBatch := {}
  deriving DecidableEq, Repr

/-- Transport diagnostics. -/
structure TransportStats where
  totalAttempts : U32 := 0
  totalSuccess : U32 := 0
  totalFailures : U32 := 0
  lastStatus : Status := .ok
  deriving DecidableEq, Repr

/-! ### Decoders -/

/-- Decode one STATUS word. -/
def decodeDeviceStatus (raw : U16) : DeviceStatus :=
  let unread : U8 := 0
  let unread := if (raw &&& maskStatusUnreadconv0) != 0 then unread ||| (channelBit .ch0).bits
    else unread
  let unread := if (raw &&& maskStatusUnreadconv1) != 0 then unread ||| (channelBit .ch1).bits
    else unread
  let unread := if (raw &&& maskStatusUnreadconv2) != 0 then unread ||| (channelBit .ch2).bits
    else unread
  let unread := if (raw &&& maskStatusUnreadconv3) != 0 then unread ||| (channelBit .ch3).bits
    else unread
  let status : DeviceStatus :=
    { observed := true
      raw := raw
      errorUnderRange := (raw &&& maskStatusErrUr) != 0
      errorOverRange := (raw &&& maskStatusErrOr) != 0
      errorWatchdog := (raw &&& maskStatusErrWd) != 0
      errorAmplitudeHigh := (raw &&& maskStatusErrAhe) != 0
      errorAmplitudeLow := (raw &&& maskStatusErrAle) != 0
      errorZeroCount := (raw &&& maskStatusErrZc) != 0
      dataReady := (raw &&& maskStatusDrdy) != 0
      unreadChannels := ⟨unread⟩ }
  if status.hasError then
    { status with errorChannel := ⟨((raw &&& maskStatusErrChan) >>> bitStatusErrChan).setWidth 8⟩ }
  else status

/-- The largest 28-bit conversion code. -/
def rawCountMax : U32 := 0x0FFFFFFF

/-- Decode one DATAx_MSB/DATAx_LSB pair. -/
def decodeChannelSample (msb lsb : U16) : ChannelSample :=
  let rawCount28 : U32 := ((msb &&& maskDataMsbData).setWidth 32 <<< 16) ||| lsb.setWidth 32
  let quality : SampleQualityFlags := 0
  let quality := if (msb &&& maskDataErrUr) != 0 || rawCount28 == 0 then
    quality ||| sampleQualityFlag .underRange else quality
  let quality := if (msb &&& maskDataErrOr) != 0 || rawCount28 == rawCountMax then
    quality ||| sampleQualityFlag .overRange else quality
  let quality := if (msb &&& maskDataErrWd) != 0 then
    quality ||| sampleQualityFlag .watchdog else quality
  let quality := if (msb &&& maskDataErrAe) != 0 then
    quality ||| sampleQualityFlag .amplitudeSuspect else quality
  { rawCount28 := rawCount28, rawDataMsb := msb, rawDataLsb := lsb, quality := quality }

end Ldc1614
