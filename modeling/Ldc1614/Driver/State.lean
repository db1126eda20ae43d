import Ldc1614.Driver.Profile
import Ldc1614.Interaction.Program
import Ldc1614.Interaction.Ring

/-! # Driver state, transport and job bookkeeping

The private fields of the class `LDC1614`, its two transport helpers and the bookkeeping its jobs
share: `_readRegister`, `_writeRegister`, `_tracked`, `_recordConfigFault`, `_clearActiveJob`,
`_buildAcquisition` and `_finishJob`. -/

namespace Ldc1614

open Cmd Interaction

/-! ### The callbacks -/

/-- One invocation of an injected callback with its arguments. -/
inductive Request where
  /-- `i2cWrite(address, data, length, timeoutMs, user)`. -/
  | i2cWrite (callback : Callback) (address : U8) (data : List U8) (timeoutMs : U32)
      (user : Context)
  /-- `i2cWriteRead(address, txData, txLength, rxData, rxLength, timeoutMs, user)`. -/
  | i2cWriteRead (callback : Callback) (address : U8) (txData : List U8) (rxLength : ℕ)
      (timeoutMs : U32) (user : Context)
  /-- `intbAsserted(asserted, user)`. -/
  | intbAsserted (callback : Callback) (user : Context)
  deriving DecidableEq, Repr

/-- What a callback returned: its status, the two receive bytes it left behind and the level it
reported. Each callback uses the parts it has. -/
structure Reply where
  status : Status
  rxHigh : U8 := 0
  rxLow : U8 := 0
  asserted : Bool := false
  deriving DecidableEq, Repr

/-- The receive bytes as a register word. -/
def Reply.word (reply : Reply) : U16 := (reply.rxHigh.setWidth 16 <<< 8) ||| reply.rxLow.setWidth 16

/-- A callback invocation with what it returned. -/
abbrev Event := Request × Reply

/-- A driver function that may invoke callbacks. -/
abbrev Bus (α : Type) := Program Request Reply α

/-! ### The state -/

/-- Number of fixed terminal-result slots. -/
def resultCapacity : ℕ := 2

/-- The fields of the driver. -/
structure Driver where
  config : Config := {}
  bound : Bool := false
  appliedState : AppliedConfigState := .unknown
  configRevision : U32 := 0
  configFault : ConfigFault := {}
  transportStats : TransportStats := {}
  progress : JobProgress := {}
  jobStep : U8 := 0
  jobChannel : Channel := .none
  lastWritePhase : JobPhase := .none
  lastWriteRegister : U8 := invalidRegister
  lastWriteChannel : Channel := .none
  scratchMsb : U16 := 0
  scratchStatusBefore : DeviceStatus := {}
  scratchStatusAfter : DeviceStatus := {}
  scratchSamples : Vector ChannelSample 4 := Vector.replicate 4 {}
  scratchCompleted : ChannelMask := {}
  results : Vector OperationResult resultCapacity := Vector.replicate resultCapacity {}
  resultHead : U8 := 0
  resultCount : U8 := 0
  deriving DecidableEq, Repr

namespace Driver

/-- The state of a default-constructed driver. -/
def initial : Driver := {}

/-- Number of channels of the bound variant. -/
def configuredChannelCount (d : Driver) : Fin 5 := channelCountFor d.config.variant

/-! ### Transport -/

/-- `value + 1`, staying at the largest value. -/
def saturatingIncrement (value : U32) : U32 := if value < BitVec.allOnes 32 then value + 1 else value

/-- Count one callback attempt. -/
def tracked (d : Driver) (status : Status) : Driver :=
  { d with
    transportStats :=
      { totalAttempts := saturatingIncrement d.transportStats.totalAttempts
        totalSuccess :=
          if status.isOk then saturatingIncrement d.transportStats.totalSuccess
          else d.transportStats.totalSuccess
        totalFailures :=
          if status.isOk then d.transportStats.totalFailures
          else saturatingIncrement d.transportStats.totalFailures
        lastStatus := status } }

/-- The request that reads register `reg`. -/
def readRequest (config : Config) (callback : Callback) (reg : U8) (timeoutMs : U32) : Request :=
  .i2cWriteRead callback config.i2cAddress.raw [reg] 2 timeoutMs config.i2cUser

/-- The request that writes `value` to register `reg`. -/
def writeRequest (config : Config) (callback : Callback) (reg : U8) (value : U16)
    (timeoutMs : U32) : Request :=
  .i2cWrite callback config.i2cAddress.raw
    [reg, ((value >>> 8) &&& 0xFF).setWidth 8, (value &&& 0xFF).setWidth 8] timeoutMs config.i2cUser

/-- Read one register: the new state, the status and the word, `0` on failure. Calling through a
null callback is undefined. -/
def readRegister (d : Driver) (reg : U8) (timeoutMs : U32) : Bus (Driver × Status × U16) :=
  match d.config.i2cWriteRead with
  | none => .trap
  | some callback =>
      .call (readRequest d.config callback reg timeoutMs) fun reply =>
        .done (d.tracked reply.status, reply.status, if reply.status.isOk then reply.word else 0)

/-- Write one register: the new state and the status. -/
def writeRegister (d : Driver) (reg : U8) (value : U16) (timeoutMs : U32) :
    Bus (Driver × Status) :=
  match d.config.i2cWrite with
  | none => .trap
  | some callback =>
      .call (writeRequest d.config callback reg value timeoutMs) fun reply =>
        .done (d.tracked reply.status, reply.status)

/-! ### Fault provenance and the end of a job -/

/-- Record why trusted configuration became partial, uncertain or disproven. -/
def recordConfigFault (d : Driver) (cause : Status) (phase : JobPhase) (reg : U8)
    (channel : Channel) (effects : EffectFlags) : Driver :=
  { d with
    configFault :=
      { valid := true, cause := cause, job := d.progress.kind, phase := phase,
        registerAddress := reg, channel := channel, effects := effects } }

/-- Forget the active job and all its scratch data. -/
def clearActiveJob (d : Driver) : Driver :=
  { d with
    progress := {}
    jobStep := 0
    jobChannel := .none
    lastWritePhase := .none
    lastWriteRegister := invalidRegister
    lastWriteChannel := .none
    scratchMsb := 0
    scratchStatusBefore := {}
    scratchStatusAfter := {}
    scratchCompleted := {}
    scratchSamples := Vector.replicate 4 {} }

/-- The error part of `_buildAcquisition`: what a STATUS error attributed to the channel adds. -/
def attributeStatusErrors (status : DeviceStatus) (quality : SampleQualityFlags) :
    SampleQualityFlags :=
  let quality := setBits quality status.errorUnderRange (sampleQualityFlag .underRange)
  let quality := setBits quality status.errorOverRange (sampleQualityFlag .overRange)
  let quality := setBits quality status.errorWatchdog (sampleQualityFlag .watchdog)
  let quality := setBits quality (status.errorAmplitudeHigh || status.errorAmplitudeLow)
    (sampleQualityFlag .amplitudeSuspect)
  setBits quality status.errorZeroCount (sampleQualityFlag .zeroCount)

/-- The sample `_buildAcquisition` publishes for one selected channel. -/
def classifySample (d : Driver) (fresh overrun : ChannelMask) (index : Fin 4) : ChannelSample :=
  let bit := indexBit index
  let sample := d.scratchSamples.get index
  let quality :=
    if (fresh.bits &&& bit) != 0 then sample.quality ||| sampleQualityFlag .fresh
    else
      let quality := sample.quality ||| sampleQualityFlag .stale
      -- without unread evidence only the range bits the silicon reported itself are kept
      let quality := if (sample.rawDataMsb &&& maskDataErrUr) == 0 then
        quality &&& ~~~sampleQualityFlag .underRange else quality
      if (sample.rawDataMsb &&& maskDataErrOr) == 0 then
        quality &&& ~~~sampleQualityFlag .overRange else quality
  let statusApplies := d.scratchStatusBefore.hasError &&
    d.scratchStatusBefore.errorChannel = ⟨BitVec.ofNat 8 index.val⟩
  let quality := if statusApplies then attributeStatusErrors d.scratchStatusBefore quality
    else quality
  let quality := setBits quality ((overrun.bits &&& bit) != 0) (sampleQualityFlag .dataLost)
  { sample with quality := quality }

/-- The flags that make a sample invalid. -/
def invalidFlags : SampleQualityFlags :=
  sampleQualityFlag .stale ||| sampleQualityFlag .underRange ||| sampleQualityFlag .overRange |||
    sampleQualityFlag .watchdog ||| sampleQualityFlag .amplitudeSuspect |||
    sampleQualityFlag .zeroCount

/-- The flags that make a sample an error. -/
def errorFlags : SampleQualityFlags := invalidFlags &&& ~~~sampleQualityFlag .stale

/-- One turn of the loop of `_buildAcquisition`. -/
def addSample (d : Driver) (batch : SampleBatch) (index : Fin 4) : SampleBatch :=
  let bit := indexBit index
  if (batch.selectedChannels.bits &&& bit) == 0 then batch
  else
    let sample := d.classifySample batch.freshChannels batch.overrunChannels index
    { batch with
      validChannels :=
        if (sample.quality &&& invalidFlags) == 0 then ⟨batch.validChannels.bits ||| bit⟩
        else batch.validChannels
      errorChannels :=
        if (sample.quality &&& errorFlags) != 0 then ⟨batch.errorChannels.bits ||| bit⟩
        else batch.errorChannels
      channel := store batch.channel index sample }

/-- Assemble the batch of a finished acquisition from the scratch data. -/
def buildAcquisition (d : Driver) (completedUptimeMs : U64) : SampleBatch :=
  let selected := d.progress.requestedChannels
  let batch : SampleBatch :=
    { selectedChannels := selected
      statusBefore := d.scratchStatusBefore
      statusAfter := d.scratchStatusAfter
      completedUptimeMs := completedUptimeMs
      configRevision := d.configRevision
      freshChannels := ⟨d.scratchStatusBefore.unreadChannels.bits &&& selected.bits⟩
      overrunChannels := ⟨d.scratchStatusAfter.unreadChannels.bits &&& selected.bits⟩ }
  (channelIndices d.configuredChannelCount).foldl d.addSample batch

/-- The terminal record `_finishJob` queues. -/
def terminalResult (d : Driver) (outcome : TerminalOutcome) (status : Status)
    (completedUptimeMs : U64) : OperationResult :=
  let succeeded := d.progress.kind == .acquire && outcome == .success
  { operationId := d.progress.operationId
    kind := d.progress.kind
    outcome := outcome
    status := status
    effects := d.progress.effects
    configFault := d.configFault
    configRevision := d.progress.configRevision
    completedUptimeMs := completedUptimeMs
    finalProgress := { d.progress with active := false }
    hasSampleBatch := succeeded
    sampleBatch := if succeeded then d.buildAcquisition completedUptimeMs else {} }

/-- Store a result behind the last queued one. The slot index is reduced modulo the capacity, and
the count does not grow past it. -/
def queueResult (d : Driver) (result : OperationResult) : Driver :=
  { d with
    results := d.results.set (Ring.slot resultCapacity d.resultHead.toNat d.resultCount.toNat)
      result (Ring.slot_lt (by decide) _ _)
    resultCount := if d.resultCount.toNat < resultCapacity then d.resultCount + 1
      else d.resultCount }

/-- Queue the terminal result of the active job and clear it. -/
def finishJob (d : Driver) (outcome : TerminalOutcome) (status : Status)
    (completedUptimeMs : U64) : Driver × Status :=
  ((d.queueResult (d.terminalResult outcome status completedUptimeMs)).clearActiveJob,
    if outcome = .success then .ok else status)

/-! ### Result slots -/

/-- The id belongs to the active job or to a queued result. -/
def operationIdInUse (d : Driver) (operationId : U64) : Bool :=
  (d.progress.active && d.progress.operationId == operationId) ||
    (Ring.toList d.results d.resultHead.toNat d.resultCount.toNat).any
      (·.operationId == operationId)

/-- A result slot is free. -/
def reserveResultSlot (d : Driver) : Bool := d.resultCount.toNat < resultCapacity

end Driver

end Ldc1614
