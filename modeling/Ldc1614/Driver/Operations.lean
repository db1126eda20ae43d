import Ldc1614.Driver.Jobs
import Ldc1614.Interaction.Machine

/-! # Public operations

The remaining public functions of the driver, and the machine they form together: a `Call` is one
public operation with its arguments, `Call.exec` runs it, and a `DriverRun` is any sequence of calls
against any transport. -/

namespace Ldc1614

open Cmd Interaction

namespace Driver

/-! ### Binding -/

/-- The state `bind` establishes for a valid profile. -/
def boundTo (d : Driver) (config : Config) : Driver :=
  { ({ d with
      config := config
      bound := true
      appliedState := .unknown
      configRevision := 1
      configFault := {}
      transportStats := {} }).clearActiveJob with
    resultHead := 0
    resultCount := 0
    results := Vector.replicate resultCapacity {} }

/-- Validate and retain the desired profile. -/
def bind (d : Driver) (config : Config) : Driver × Status :=
  if d.bound then (d, .error .busy "Driver already bound; call end first")
  else
    let validation := validateConfig config
    if !validation.isOk then (d, validation) else (d.boundTo config, .ok)

/-- Unbind; pending results are discarded. -/
def end_ (d : Driver) : Driver :=
  { ({ d with
      bound := false
      config := {}
      appliedState := .unknown
      configRevision := 0
      configFault := {}
      transportStats := {} }).clearActiveJob with
    resultHead := 0
    resultCount := 0
    results := Vector.replicate resultCapacity {} }

/-- The state after the desired profile has been replaced. -/
def retain (d : Driver) (config : Config) : Driver :=
  { d with
    config := config
    configRevision := d.configRevision + 1
    appliedState := if d.appliedState ≠ .unknown then .dirty else d.appliedState }

/-- Replace the desired profile without bus traffic; a later apply is required. -/
def updateDesiredConfig (d : Driver) (config : Config) : Driver × Status :=
  if !d.bound then (d, .error .notBound "Driver not bound")
  else if d.progress.active then (d, .error .busy "Operation active")
  else if d.appliedState = .appliedActive then
    (d, .error .busy "Sleep device before replacing desired config")
  else
    let validation := validateConfig config
    if !validation.isOk then (d, validation)
    else if config.i2cWrite ≠ d.config.i2cWrite || config.i2cWriteRead ≠ d.config.i2cWriteRead ||
        config.i2cUser ≠ d.config.i2cUser || config.i2cAddress ≠ d.config.i2cAddress ||
        config.variant ≠ d.config.variant then
      (d, .error .invalidConfig "Transport, address, and variant changes require end/rebind")
    else if d.configRevision = BitVec.allOnes 32 then
      (d, .error .invalidConfig "Config revision exhausted")
    else (d.retain config, .ok)

/-! ### Results and invalidation -/

/-- Remove the oldest terminal result; the output is cleared when there is none. Reading past the
result slots is undefined. -/
def takeResult (d : Driver) : Bus (Driver × Status × OperationResult) :=
  if d.resultCount = 0 then
    return (d, .error .resultNotReady "No terminal result available", {})
  else if h : d.resultHead.toNat < resultCapacity then
    return ({ d with
      results := d.results.set d.resultHead.toNat {} h
      resultHead := BitVec.ofNat 8 ((d.resultHead.toNat + 1) % resultCapacity)
      resultCount := d.resultCount - 1 }, .ok, d.results[d.resultHead.toNat])
  else .trap

/-- Mark the hardware configuration unknown, cancelling an active job first. -/
def invalidateAppliedState (d : Driver) (reason : Status) : Driver :=
  let d := if d.progress.active then d.cancelJob.1 else d
  { d with
    appliedState := .unknown
    configFault :=
      { valid := true
        cause := if reason.isOk then .error .configDirty "Applied configuration invalidated"
          else reason } }

/-! ### Direct reads -/

/-- Read and decode STATUS in one callback. -/
def readDeviceStatus (d : Driver) : Bus (Driver × Status × DeviceStatus) :=
  if !d.bound then return (d, .error .notBound "Driver not bound", {})
  else if d.progress.active then return (d, .error .busy "Operation active", {})
  else do
    let (d, status, raw) ← d.readRegister regStatus d.config.i2cTimeoutMs
    return (d, status, if status.isOk then decodeDeviceStatus raw else {})

/-- The STATUS read at the end of `readDataReady`. -/
def readDataReadyStatus (d : Driver) : Bus (Driver × Status × Bool × DeviceStatus) := do
  let (d, status, observed) ← d.readDeviceStatus
  return (d, status, status.isOk && observed.dataReady, observed)

/-- Observe DRDY, through the INTB observer when one is enabled. -/
def readDataReady (d : Driver) : Bus (Driver × Status × Bool × DeviceStatus) :=
  if !d.bound then return (d, .error .notBound "Driver not bound", false, {})
  else if !d.config.errorReporting.dataReady then
    return (d, .error .invalidConfig "Data-ready reporting is disabled", false, {})
  else if d.progress.active then return (d, .error .busy "Operation active", false, {})
  else if d.appliedState ≠ .appliedActive then
    return (d, .error .configDirty "Readiness requires verified active configuration", false, {})
  else
    match d.config.intbAsserted with
    | some callback =>
        if d.config.intbDisabled then d.readDataReadyStatus
        else
          .call (.intbAsserted callback d.config.intbUser) fun reply =>
            if !reply.status.isOk then return (d, reply.status, false, {})
            else if !reply.asserted then return (d, .ok, false, {})
            else d.readDataReadyStatus
    | none => d.readDataReadyStatus

/-- Read one mapped register. -/
def readRegister16 (d : Driver) (reg : U8) : Bus (Driver × Status × U16) :=
  if !d.bound then return (d, .error .notBound "Driver not bound", 0)
  else if d.progress.active then return (d, .error .busy "Operation active", 0)
  else if !isValidRegisterAddress reg then
    return (d, .error .invalidParam "Invalid register address", 0)
  else if d.config.variant = .ldc1612 && isLdc1614OnlyRegister reg then
    return (d, .error .invalidParam "Register is unavailable on LDC1612", 0)
  else d.readRegister reg d.config.i2cTimeoutMs

/-- Read the silicon-selected initial IDRIVE code. -/
def readInitDriveCurrent (d : Driver) (channel : Channel) : Bus (Driver × Status × U8) :=
  if !d.bound then return (d, .error .notBound "Driver not bound", 0)
  else if !isConcreteChannel channel || !(validChannelMask d.config.variant).contains channel then
    return (d, .error .invalidParam "Invalid channel", 0)
  else do
    let (d, status, value) ← d.readRegister16 (regDriveCurrent channel.raw)
    return (d, status,
      if status.isOk then ((value &&& maskInitIdrive) >>> bitInitIdrive).setWidth 8 else 0)

/-- Observe INTB through the optional callback. -/
def readIntb (d : Driver) : Bus (Status × Bool) :=
  if !d.bound then return (.error .notBound "Driver not bound", false)
  else
    match d.config.intbAsserted with
    | none => return (.error .invalidConfig "INTB callback not enabled", false)
    | some callback =>
        if d.config.intbDisabled then
          return (.error .invalidConfig "INTB callback not enabled", false)
        else
          .call (.intbAsserted callback d.config.intbUser) fun reply =>
            return (reply.status, reply.asserted)

/-! ### Direct writes -/

/-- Behind the CONFIG write of `sleep` and `wake`: success establishes `trust`, a write that may
have reached the device leaves the state dirty. -/
def configWritten (d : Driver) (trust : AppliedConfigState) (status : Status) : Driver × Status :=
  if !status.isOk then
    (if transferFailureMayHaveReachedDevice status then
        ({ d with appliedState := .dirty }).recordConfigFault status .writeFinalConfig regConfig .none
          (effectFlag .indeterminateWrite)
      else d, status)
  else ({ d with appliedState := trust }, .ok)

/-- `sleep` (`sleeping = true`) and `wake` (`sleeping = false`) in one: nothing to do in the target
state, refused unless in the opposite one, otherwise one CONFIG write. -/
def switchSleep (d : Driver) (sleeping : Bool) (target source : AppliedConfigState) :
    Bus (Driver × Status) :=
  if !d.bound then return (d, .error .notBound "Driver not bound")
  else if d.progress.active then return (d, .error .busy "Operation active")
  else if d.appliedState = target then return (d, .ok)
  else if d.appliedState ≠ source then
    return (d, .error .configDirty "Applied configuration is not trusted")
  else do
    let (d, status) ← d.writeRegister regConfig (buildConfigRegister d.config sleeping)
      d.config.i2cTimeoutMs
    return d.configWritten target status

/-- Enter sleep mode with one CONFIG write. -/
def sleep (d : Driver) : Bus (Driver × Status) :=
  d.switchSleep true .appliedSleeping .appliedActive

/-- Leave sleep mode with one CONFIG write. -/
def wake (d : Driver) : Bus (Driver × Status) :=
  d.switchSleep false .appliedActive .appliedSleeping

/-- Behind the write of `writeRegister16`: a write that may have changed the device revokes the
trust in its configuration. -/
def diagnosticWritten (d : Driver) (reg : U8) (status : Status) : Driver × Status :=
  let mutationPossible := status.isOk || transferFailureMayHaveReachedDevice status
  let effects : EffectFlags :=
    if status.isOk then effectFlag .partialWrite
    else if mutationPossible then effectFlag .indeterminateWrite else 0
  let trust : AppliedConfigState :=
    if reg = regResetDev ∨ d.appliedState = .unknown then .unknown else .dirty
  (if mutationPossible then
      ({ d with appliedState := trust }).recordConfigFault
        (if status.isOk then
            .error .configDirty "Diagnostic write invalidated applied state"
          else status)
        (configurationPhaseForRegister reg) reg (configurationChannelForRegister reg) effects
    else d, status)

/-- Write one mapped writable register. -/
def writeRegister16 (d : Driver) (reg : U8) (value : U16) : Bus (Driver × Status) :=
  if !d.bound then return (d, .error .notBound "Driver not bound")
  else if d.progress.active then return (d, .error .busy "Operation active")
  else if !isConfigurationRegister reg then
    return (d, .error .invalidParam "Register is not writable by this device")
  else if d.config.variant = .ldc1612 && isLdc1614OnlyRegister reg then
    return (d, .error .invalidParam "Register is unavailable on LDC1612")
  else do
    let (d, status) ← d.writeRegister reg value d.config.i2cTimeoutMs
    return d.diagnosticWritten reg status

end Driver

/-! ### The machine of public operations -/

/-- One public operation with its arguments. -/
inductive Call where
  | bind (config : Config)
  | end_
  | updateDesiredConfig (config : Config)
  | startInitialize (operationId deadlineMs : U64)
  | startApplyConfig (operationId deadlineMs : U64)
  | startResetAndReapply (operationId deadlineMs : U64)
  | startAcquire (channels : ChannelMask) (operationId deadlineMs : U64)
  | poll (nowMs : U64) (maxTransfers : U8)
  | cancelJob
  | takeResult
  | invalidateAppliedState (reason : Status)
  | readDeviceStatus
  | readDataReady
  | sleep
  | wake
  | readInitDriveCurrent (channel : Channel)
  | readRegister16 (reg : U8)
  | writeRegister16 (reg : U8) (value : U16)
  | readIntb
  deriving DecidableEq, Repr

/-- What an operation returns: its status and what it stored into its output arguments. -/
inductive Output where
  | nothing
  | status (status : Status)
  | result (status : Status) (out : OperationResult)
  | deviceStatus (status : Status) (out : DeviceStatus)
  | dataReady (status : Status) (ready : Bool) (observedStatus : DeviceStatus)
  | code (status : Status) (code : U8)
  | word (status : Status) (value : U16)
  | intb (status : Status) (asserted : Bool)
  deriving DecidableEq, Repr

/-- A bus-silent operation that returns a status. -/
def silent (step : Driver × Status) : Bus (Driver × Output) :=
  return (step.1, .status step.2)

/-- Run one public operation. -/
def Call.exec : Call → Driver → Bus (Driver × Output)
  | .bind config, d => silent (d.bind config)
  | .end_, d => return (d.end_, .nothing)
  | .updateDesiredConfig config, d => silent (d.updateDesiredConfig config)
  | .startInitialize operationId deadlineMs, d => silent (d.startInitialize operationId deadlineMs)
  | .startApplyConfig operationId deadlineMs, d => silent (d.startApplyConfig operationId deadlineMs)
  | .startResetAndReapply operationId deadlineMs, d =>
      silent (d.startResetAndReapply operationId deadlineMs)
  | .startAcquire channels operationId deadlineMs, d =>
      silent (d.startAcquire channels operationId deadlineMs)
  | .poll nowMs maxTransfers, d => do
      let (d, status) ← d.poll nowMs maxTransfers
      return (d, .status status)
  | .cancelJob, d => silent d.cancelJob
  | .takeResult, d => do
      let (d, status, out) ← d.takeResult
      return (d, .result status out)
  | .invalidateAppliedState reason, d => return (d.invalidateAppliedState reason, .nothing)
  | .readDeviceStatus, d => do
      let (d, status, out) ← d.readDeviceStatus
      return (d, .deviceStatus status out)
  | .readDataReady, d => do
      let (d, status, ready, observedStatus) ← d.readDataReady
      return (d, .dataReady status ready observedStatus)
  | .sleep, d => do
      let (d, status) ← d.sleep
      return (d, .status status)
  | .wake, d => do
      let (d, status) ← d.wake
      return (d, .status status)
  | .readInitDriveCurrent channel, d => do
      let (d, status, code) ← d.readInitDriveCurrent channel
      return (d, .code status code)
  | .readRegister16 reg, d => do
      let (d, status, value) ← d.readRegister16 reg
      return (d, .word status value)
  | .writeRegister16 reg value, d => do
      let (d, status) ← d.writeRegister16 reg value
      return (d, .status status)
  | .readIntb, d => do
      let (status, asserted) ← d.readIntb
      return (d, .intb status asserted)

/-- One executed public operation. -/
abbrev DriverTransition := Transition Driver Call Output Request Reply

/-- A run of public operations against some transport. -/
abbrev DriverRun : Driver → List DriverTransition → Driver → Prop := Run Call.exec

/-- The states a driver reaches from construction on. -/
def Reachable (d : Driver) : Prop := ∃ transitions, DriverRun Driver.initial transitions d

end Ldc1614
