import Ldc1614.Driver.State

/-! # Jobs

Admission, polling and cancellation of the four cooperative jobs: `_startJob` and the public
`start*` functions, `poll` with its two inner loops `_pollInitializeOrApply` and `_pollAcquire`, and
`cancelJob`. Each transfer of a loop is split at the callback: the part behind it is a function of
what the callback returned (`identityRead`, `profileWritten`, `dataMsbRead`, ...). -/

namespace Ldc1614

open Cmd Interaction

namespace Driver

/-! ### Admission -/

/-- The phase and register a job of this kind starts at. -/
def startingPoint : JobKind → Option (JobPhase × U8)
  | .initialise => some (.verifyManufacturer, regManufacturerId)
  | .applyConfig => some (.forceSleep, regConfig)
  | .resetAndReapply => some (.softwareReset, regResetDev)
  | .acquire => some (.readStatusBefore, regStatus)
  | .none => none

/-- The state after a job has been admitted. -/
def admitted (d : Driver) (kind : JobKind) (channels : ChannelMask) (operationId deadlineMs : U64)
    (maximumTransfers : U8) (start : JobPhase × U8) : Driver :=
  let d := d.clearActiveJob
  { d with
    progress :=
      { d.progress with
        active := true
        operationId := operationId
        kind := kind
        deadlineMs := deadlineMs
        maximumTransfers := maximumTransfers
        requestedChannels := channels
        configRevision := d.configRevision
        phase := start.1
        registerAddress := start.2 }
    jobChannel := .none }

/-- Admit a job. -/
def startJob (d : Driver) (kind : JobKind) (channels : ChannelMask) (operationId deadlineMs : U64)
    (maximumTransfers : U8) : Driver × Status :=
  if !d.bound then (d, .error .notBound "Driver not bound")
  else if operationId = 0 then (d, .error .invalidParam "Operation id must be nonzero")
  else if d.operationIdInUse operationId then
    (d, .error .duplicateOperationId "Operation id already active or pending")
  else if d.progress.active then (d, .error .busy "Operation active")
  else if !d.reserveResultSlot then
    (d, .error .resultQueueFull "Terminal result capacity exhausted")
  else
    match startingPoint kind with
    | some start =>
        (d.admitted kind channels operationId deadlineMs maximumTransfers start,
          .error .inProgress "Operation scheduled")
    | none => (d.clearActiveJob, .error .invalidParam "Invalid operation kind")

/-- Start verifying the identity and replaying the complete profile. -/
def startInitialize (d : Driver) (operationId deadlineMs : U64) : Driver × Status :=
  d.startJob .initialise {} operationId deadlineMs
    (2 + configurationTransferCount d.configuredChannelCount)

/-- Start replaying the complete profile without identity reads. -/
def startApplyConfig (d : Driver) (operationId deadlineMs : U64) : Driver × Status :=
  if d.bound && d.appliedState = .unknown then
    (d, .error .configDirty "Identity/configuration not established")
  else
    d.startJob .applyConfig {} operationId deadlineMs
      (configurationTransferCount d.configuredChannelCount)

/-- Start a software reset followed by identity verification and replay. -/
def startResetAndReapply (d : Driver) (operationId deadlineMs : U64) : Driver × Status :=
  d.startJob .resetAndReapply {} operationId deadlineMs
    (3 + configurationTransferCount d.configuredChannelCount)

/-- Start acquiring one batch for a nonempty subset of the configured channels. -/
def startAcquire (d : Driver) (channels : ChannelMask) (operationId deadlineMs : U64) :
    Driver × Status :=
  if !d.bound then (d, .error .notBound "Driver not bound")
  else if d.appliedState ≠ .appliedActive then
    (d, .error .configDirty "Acquisition requires verified active configuration")
  else if channels.empty || (channels.bits &&& ~~~d.config.channels.bits) != 0 then
    (d, .error .invalidParam "Acquisition mask must be configured and nonzero")
  else d.startJob .acquire channels operationId deadlineMs (2 + 2 * popcount channels)

/-! ### One turn of a job loop -/

/-- How one turn of a job loop ends: the loop continues, or it returns because the job has
finished. -/
inductive Turn where
  | again (d : Driver)
  | finish (d : Driver) (status : Status) (idle : d.progress.active = false)

/-- The state a turn leaves. -/
def Turn.driver : Turn → Driver
  | .again d => d
  | .finish d _ _ => d

/-- `return _finishJob(outcome, status, nowMs)`. -/
def finishTurn (d : Driver) (outcome : TerminalOutcome) (status : Status) (nowMs : U64) : Turn :=
  .finish (d.finishJob outcome status nowMs).1 (d.finishJob outcome status nowMs).2 rfl

/-- Only the whole-operation deadline is classified as timed out; a failed transfer is a failure. -/
def outcomeForFailure (_status : Status) : TerminalOutcome := .failed

/-- Point the progress at a transfer. -/
def positioned (d : Driver) (phase : JobPhase) (reg : U8) (channel : Channel) : Driver :=
  { d with progress := { d.progress with phase := phase, registerAddress := reg, channel := channel } }

/-- `++_progress.completedTransfers`. -/
def countTransfer (d : Driver) : Driver :=
  { d with progress := { d.progress with completedTransfers := d.progress.completedTransfers + 1 } }

/-- `_progress.effects |= effectFlag(flag)`, when the condition holds. -/
def addEffectIf (d : Driver) (condition : Bool) (flag : EffectFlag) : Driver :=
  { d with
    progress :=
      { d.progress with
        effects := if condition then d.progress.effects ||| effectFlag flag
          else d.progress.effects } }

/-- `_progress.effects |= effectFlag(flag)`. -/
def addEffect (d : Driver) (flag : EffectFlag) : Driver := d.addEffectIf true flag

/-- What a failed job write records. A write that may have reached the device, or any failure after
a confirmed write, leaves the applied state at `trust` and records the fault. -/
def writeFault (d : Driver) (trust : AppliedConfigState) (phase : JobPhase) (reg : U8)
    (channel : Channel) (status : Status) : Driver :=
  let reached := transferFailureMayHaveReachedDevice status
  let d := d.addEffectIf reached .indeterminateWrite
  if reached || hasEffect d.progress.effects .partialWrite then
    ({ d with appliedState := trust }).recordConfigFault status phase reg channel
      d.progress.effects
  else d

/-- A job write failed. -/
def writeFailed (d : Driver) (trust : AppliedConfigState) (phase : JobPhase) (reg : U8)
    (channel : Channel) (status : Status) (nowMs : U64) : Turn :=
  (d.writeFault trust phase reg channel status).finishTurn (outcomeForFailure status) status nowMs

/-- A job write succeeded: it is the last confirmed write, and the job moves to its next step. -/
def writeConfirmed (d : Driver) (trust : AppliedConfigState) (phase : JobPhase) (reg : U8)
    (channel : Channel) : Driver :=
  let d := d.addEffect .partialWrite
  { d with
    lastWritePhase := phase
    lastWriteRegister := reg
    lastWriteChannel := channel
    appliedState := trust
    jobStep := d.jobStep + 1 }

/-! ### Initialize, apply and reset -/

/-- The reset is confirmed: the identity is checked next. -/
def resetConfirmed (d : Driver) : Driver :=
  let d := d.writeConfirmed .unknown .softwareReset regResetDev .none
  { d with
    progress :=
      { d.progress with phase := .verifyManufacturer, registerAddress := regManufacturerId } }

/-- Behind the RESET_DEV write. -/
def resetWritten (d : Driver) (status : Status) (nowMs : U64) : Turn :=
  let d := d.countTransfer
  if !status.isOk then d.writeFailed .unknown .softwareReset regResetDev .none status nowMs
  else .again d.resetConfirmed

/-- One identity register with the word it must hold. -/
structure IdentityStep where
  reg : U8
  expected : U16
  phase : JobPhase
  mismatch : String

/-- The two identity checks, in order. -/
def identitySteps : Vector IdentityStep 2 :=
  #v[⟨regManufacturerId, manufacturerIdValue, .verifyManufacturer, "Wrong MANUFACTURER_ID"⟩,
    ⟨regDeviceId, deviceIdValue, .verifyDevice, "Wrong DEVICE_ID"⟩]

/-- What a failed or mismatched identity read records. -/
def identityFault (d : Driver) (step : IdentityStep) (status : Status) : Driver :=
  ({ d with appliedState := .unknown }).recordConfigFault status step.phase step.reg .none
    d.progress.effects

/-- An identity read failed or returned another value. -/
def identityFailed (d : Driver) (step : IdentityStep) (status : Status) (nowMs : U64) : Turn :=
  (d.identityFault step status).finishTurn .failed status nowMs

/-- An identity register held its word. The second one establishes the identity. -/
def identityConfirmed (d : Driver) (index : Fin 2) : Driver :=
  let step := identitySteps.get index
  let moreIdentity : Bool := index.val + 1 < 2
  { d with
    appliedState := if step.reg = regDeviceId && d.appliedState = .unknown then .dirty
      else d.appliedState
    jobStep := d.jobStep + 1
    progress :=
      { d.progress with
        phase := if moreIdentity then .verifyDevice else .forceSleep
        registerAddress := if moreIdentity then regDeviceId else regConfig } }

/-- Behind an identity read. -/
def identityRead (d : Driver) (index : Fin 2) (status : Status) (value : U16) (nowMs : U64) :
    Turn :=
  let step := identitySteps.get index
  let d := d.countTransfer
  if !status.isOk then d.identityFailed step status nowMs
  else if value ≠ step.expected then
    d.identityFailed step (.error .deviceNotFound step.mismatch value.toNat) nowMs
  else .again (d.identityConfirmed index)

/-- The profile is applied and sleeping. -/
def profileApplied (d : Driver) : Driver :=
  { d with appliedState := .appliedSleeping, configFault := {} }

/-- The replay is complete. -/
def replayComplete (d : Driver) (nowMs : U64) : Turn :=
  d.profileApplied.finishTurn .success .ok nowMs

/-- The progress points at a profile write. -/
def positionedAtWrite (d : Driver) (applyStep : U8) : Driver :=
  let write := configWriteAt d.config d.configuredChannelCount applyStep
  d.positioned write.phase write.reg write.channel

/-- Behind a profile write. -/
def profileWritten (d : Driver) (write : ConfigWrite) (applyStep : U8) (status : Status)
    (nowMs : U64) : Turn :=
  let d := d.countTransfer
  if !status.isOk then d.writeFailed .dirty write.phase write.reg write.channel status nowMs
  else
    let d := d.writeConfirmed .applying write.phase write.reg write.channel
    if configurationTransferCount d.configuredChannelCount ≤ applyStep + 1 then
      d.replayComplete nowMs
    else .again (d.positionedAtWrite (applyStep + 1))

/-- The job step at which the profile writes start. -/
def applyOffset (kind : JobKind) (resetFirst : Bool) : ℕ :=
  if kind = .initialise then 2 else if resetFirst then 3 else 0

/-- One turn of the loop of `_pollInitializeOrApply`. -/
def initializeOrApplyTurn (nowMs : U64) (transferTimeoutMs : U32) (resetFirst : Bool)
    (offset : ℕ) (d : Driver) : Bus Turn :=
  if resetFirst && d.jobStep = 0 then do
    let (d, status) ← (d.positioned .softwareReset regResetDev .none).writeRegister regResetDev
      maskResetDev transferTimeoutMs
    return d.resetWritten status nowMs
  else if h : offset ≠ 0 ∧ offset - 2 ≤ d.jobStep.toNat ∧ d.jobStep.toNat < offset then do
    let index : Fin 2 := ⟨d.jobStep.toNat - (offset - 2), by omega⟩
    let step := identitySteps.get index
    let (d, status, value) ← (d.positioned step.phase step.reg .none).readRegister step.reg
      transferTimeoutMs
    return d.identityRead index status value nowMs
  else
    let applyStep := d.jobStep - BitVec.ofNat 8 offset
    let write := configWriteAt d.config d.configuredChannelCount applyStep
    if !write.valid then return d.replayComplete nowMs
    else do
      let (d, status) ← (d.positioned write.phase write.reg write.channel).writeRegister write.reg
        write.value transferTimeoutMs
      return d.profileWritten write applyStep status nowMs

/-! ### Acquisition -/

/-- Move to the next requested channel behind `after`, or to the closing STATUS read. -/
def advanceAcquireChannel (d : Driver) (after : Channel) : Driver :=
  let next := nextChannel d.progress.requestedChannels after
  { d with
    progress :=
      { d.progress with
        phase := if next = .none then .readStatusAfter else .readDataMsb
        registerAddress := if next = .none then regStatus else regDataMsb next.raw
        channel := next }
    jobChannel := next }

/-- The opening STATUS read succeeded. -/
def statusBeforeSeen (d : Driver) (raw : U16) : Driver :=
  let d := d.addEffect .readSideEffects
  ({ d with scratchStatusBefore := decodeDeviceStatus raw }).advanceAcquireChannel .none

/-- Behind the opening STATUS read. -/
def statusBeforeRead (d : Driver) (status : Status) (raw : U16) (nowMs : U64) : Turn :=
  let d := d.countTransfer
  if !status.isOk then
    (d.addEffectIf (transferFailureMayHaveReachedDevice status) .readSideEffects).finishTurn
      (outcomeForFailure status) status nowMs
  else .again (d.statusBeforeSeen raw)

/-- A DATAx_MSB read succeeded. -/
def dataMsbSeen (d : Driver) (value : U16) : Driver :=
  let d := d.addEffect .readSideEffects
  { d with
    scratchMsb := value
    progress :=
      { d.progress with phase := .readDataLsb, registerAddress := regDataLsb d.jobChannel.raw } }

/-- Behind a DATAx_MSB read. -/
def dataMsbRead (d : Driver) (status : Status) (value : U16) (nowMs : U64) : Turn :=
  let d := d.countTransfer
  if !status.isOk then d.finishTurn (outcomeForFailure status) status nowMs
  else .again (d.dataMsbSeen value)

/-- A DATAx_LSB read succeeded, with the channel as an index into the scratch samples. -/
def dataLsbSeen (d : Driver) (index : Fin 4) (value : U16) : Driver :=
  let completed : ChannelMask := ⟨d.scratchCompleted.bits ||| indexBit index⟩
  ({ d with
    scratchSamples := store d.scratchSamples index (decodeChannelSample d.scratchMsb value)
    scratchCompleted := completed
    progress := { d.progress with completedChannels := completed } }).advanceAcquireChannel
      d.jobChannel

/-- The closing STATUS read succeeded. -/
def statusAfterSeen (d : Driver) (raw : U16) : Driver :=
  { d.addEffect .readSideEffects with scratchStatusAfter := decodeDeviceStatus raw }

/-- Behind the closing STATUS read. -/
def statusAfterRead (d : Driver) (status : Status) (raw : U16) (nowMs : U64) : Turn :=
  let d := d.countTransfer
  if !status.isOk then d.finishTurn (outcomeForFailure status) status nowMs
  else (d.statusAfterSeen raw).finishTurn .success .ok nowMs

/-- One turn of the loop of `_pollAcquire`. Storing a sample past the four scratch slots is
undefined. -/
def acquireTurn (nowMs : U64) (transferTimeoutMs : U32) (d : Driver) : Bus Turn :=
  match d.progress.phase with
  | .readStatusBefore => do
      let (d, status, raw) ← (d.positioned .readStatusBefore regStatus .none).readRegister
        regStatus transferTimeoutMs
      return d.statusBeforeRead status raw nowMs
  | .readDataMsb => do
      let reg := regDataMsb d.jobChannel.raw
      let (d, status, value) ← (d.positioned .readDataMsb reg d.jobChannel).readRegister reg
        transferTimeoutMs
      return d.dataMsbRead status value nowMs
  | .readDataLsb => do
      let reg := regDataLsb d.jobChannel.raw
      let (d, status, value) ← (d.positioned .readDataLsb reg d.jobChannel).readRegister reg
        transferTimeoutMs
      let d := d.countTransfer
      if !status.isOk then return d.finishTurn (outcomeForFailure status) status nowMs
      else if h : d.jobChannel.raw.toNat < 4 then
        return .again (d.dataLsbSeen ⟨d.jobChannel.raw.toNat, h⟩ value)
      else .trap
  | .readStatusAfter => do
      let (d, status, raw) ← (d.positioned .readStatusAfter regStatus .none).readRegister
        regStatus transferTimeoutMs
      return d.statusAfterRead status raw nowMs
  | _ =>
      return d.finishTurn .failed (.error .invalidParam "Invalid acquisition phase") nowMs

/-! ### The loops of poll -/

/-- How an inner loop hands back to `poll`: with no active job, or with no transfers left. -/
structure LoopExit where
  driver : Driver
  remaining : ℕ
  status : Status
  settled : driver.progress.active = false ∨ remaining = 0

/-- "The job needs more `poll` calls." -/
def pollInProgress : Status := .error .inProgress "Operation in progress"

/-- `while (_progress.active && remainingTransfers > 0U) { turn }`. Every turn that continues has
used one transfer; the transfers left behind a turn that returns are not read again. -/
def turnLoop (turn : Driver → Bus Turn) : ℕ → Driver → Bus LoopExit
  | 0, d => return ⟨d, 0, pollInProgress, Or.inr rfl⟩
  | remaining + 1, d =>
      if h : d.progress.active = false then return ⟨d, remaining + 1, pollInProgress, Or.inl h⟩
      else do
        match ← turn d with
        | .again d => turnLoop turn remaining d
        | .finish d status idle => return ⟨d, remaining, status, Or.inl idle⟩

/-- Advance an initialize, apply or reset job. -/
def pollInitializeOrApply (d : Driver) (nowMs : U64) (remainingTransfers : ℕ)
    (transferTimeoutMs : U32) (resetFirst : Bool) : Bus LoopExit :=
  let offset := applyOffset d.progress.kind resetFirst
  turnLoop (initializeOrApplyTurn nowMs transferTimeoutMs resetFirst offset) remainingTransfers d

/-- Advance an acquisition. -/
def pollAcquire (d : Driver) (nowMs : U64) (remainingTransfers : ℕ) (transferTimeoutMs : U32) :
    Bus LoopExit :=
  turnLoop (acquireTurn nowMs transferTimeoutMs) remainingTransfers d

/-- The inner loop of the active job's kind. -/
def pollJob (d : Driver) (nowMs : U64) (remaining : ℕ) (transferTimeoutMs : U32) : Bus LoopExit :=
  if d.progress.kind = .acquire then d.pollAcquire nowMs remaining transferTimeoutMs
  else
    d.pollInitializeOrApply nowMs remaining transferTimeoutMs
      (d.progress.kind = .resetAndReapply)

/-- The outer loop of `poll`. An inner loop returns settled, so that `turns` rounds are enough as
soon as there is one: when none is left, the loop condition is false. -/
def pollLoop (nowMs : U64) (transferTimeoutMs : U32) :
    (turns : ℕ) → (d : Driver) → (remaining : ℕ) →
      (turns = 0 → d.progress.active = false ∨ remaining = 0) → Bus (Driver × Status)
  | 0, d, _, _ => return (d, if d.progress.active then pollInProgress else .ok)
  | turns + 1, d, remaining, _ =>
      if d.progress.active && 0 < remaining then do
        let exit ← d.pollJob nowMs remaining transferTimeoutMs
        if !exit.status.isOk && !exit.status.inProgress then return (exit.driver, exit.status)
        else
          pollLoop nowMs transferTimeoutMs turns exit.driver exit.remaining fun _ => exit.settled
      else return (d, if d.progress.active then pollInProgress else .ok)

/-! ### Polling and cancelling -/

/-- Wrap-safe for deadline horizons shorter than half the range. -/
def dueOrPast (nowMs deadlineMs : U64) : Bool := nowMs - deadlineMs < 1 <<< 63

/-- A job with confirmed writes is interrupted: the profile is partial. -/
def recordInterruption (d : Driver) (cause : Status) : Driver :=
  if d.progress.kind ≠ .acquire && hasEffect d.progress.effects .partialWrite then
    let trust : AppliedConfigState := if d.appliedState ≠ .unknown then .dirty else d.appliedState
    ({ d with appliedState := trust }).recordConfigFault cause d.lastWritePhase d.lastWriteRegister
      d.lastWriteChannel
      d.progress.effects
  else d

/-- The status of an expired job. -/
def deadlineExpired : Status := .error .timeout "Operation deadline expired"

/-- The status of a cancelled job. -/
def operationCancelled : Status := .error .cancelled "Operation cancelled"

/-- The number of transfers one `poll` may make. -/
def transferBudget (d : Driver) (nowMs : U64) (maxTransfers : U8) : U8 :=
  let deadlineBudgetMs := d.progress.deadlineMs - nowMs
  let jobTransfersRemaining := d.progress.maximumTransfers - d.progress.completedTransfers
  let remaining := if maxTransfers < jobTransfersRemaining then maxTransfers
    else jobTransfersRemaining
  if deadlineBudgetMs < remaining.setWidth 64 then deadlineBudgetMs.setWidth 8 else remaining

/-- The timeout of each transfer of one `poll`: a fair share of the remaining time, capped. -/
def transferTimeoutMs (d : Driver) (nowMs : U64) (remaining : U8) : U32 :=
  let fairShareMs := (d.progress.deadlineMs - nowMs) / remaining.setWidth 64
  let cap : U64 := d.config.i2cTimeoutMs.setWidth 64
  (if fairShareMs < cap then fairShareMs else cap).setWidth 32

/-- Advance the active job by at most `maxTransfers` callbacks. Dividing the remaining time among
no transfers is undefined. -/
def poll (d : Driver) (nowMs : U64) (maxTransfers : U8) : Bus (Driver × Status) :=
  if !d.progress.active then return (d, .ok)
  else if dueOrPast nowMs d.progress.deadlineMs then
    return (d.recordInterruption deadlineExpired).finishJob .timedOut deadlineExpired nowMs
  else if maxTransfers = 0 then return (d, pollInProgress)
  else
    let remaining := d.transferBudget nowMs maxTransfers
    if remaining = 0 then .trap
    else
      pollLoop nowMs (d.transferTimeoutMs nowMs remaining) 1 d remaining.toNat
        fun h => absurd h (by decide)

/-- Cancel the active job without bus traffic. -/
def cancelJob (d : Driver) : Driver × Status :=
  if !d.progress.active then (d, .ok)
  else
    (((d.recordInterruption operationCancelled).finishJob .cancelled operationCancelled 0).1, .ok)

end Driver

end Ldc1614
