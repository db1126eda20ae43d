import Ldc1614.Driver.Encoding
import Ldc1614.Driver.Script

/-! # The transfer plans

What each start call asks of the bus, entry by entry and in closed form: the registers and words,
and the phase and channel the progress shows for each. The scripts the driver steps through are
these plans. -/

namespace Ldc1614

open Cmd

/-! ### The plans -/

/-- One entry of a plan. -/
structure PlanEntry where
  transfer : Transfer
  phase : JobPhase
  channel : Channel := .none
  deriving DecidableEq, Repr

/-- The five writes of a physical channel. -/
def channelPlan (config : Config) (index : Fin 4) : List PlanEntry :=
  let channel := config.channel.get index
  let ch := channelAt index
  [⟨.write (regRcount ch.raw) channel.rcount, .writeRcount, ch⟩,
    ⟨.write (regSettleCount ch.raw) channel.settleCount, .writeSettlecount, ch⟩,
    ⟨.write (regClockDividers ch.raw) (dividerWord channel.finDivider channel.frefDivider),
      .writeClockDividers, ch⟩,
    ⟨.write (regOffset ch.raw) channel.offset, .writeOffset, ch⟩,
    ⟨.write (regDriveCurrent ch.raw) (channel.driveCurrentCode.value.setWidth 16 <<< bitIdrive),
      .writeDriveCurrent, ch⟩]

/-- The writes that replay a profile: asleep first, then each physical channel, then routing and
multiplexer. -/
def profilePlan (config : Config) : List PlanEntry :=
  { transfer := .write regConfig (buildConfigRegister config true), phase := .forceSleep } ::
    (channelIndices (channelCountFor config.variant)).flatMap (channelPlan config) ++
    [{ transfer := .write regErrorConfig (encodeErrorReporting config.errorReporting)
       phase := .writeErrorConfig },
     { transfer := .write regMuxConfig (buildMuxConfigRegister config), phase := .writeMuxConfig }]

/-- The two identity reads, then the profile. -/
def initializePlan (config : Config) : List PlanEntry :=
  { transfer := .read regManufacturerId, phase := .verifyManufacturer } ::
    { transfer := .read regDeviceId, phase := .verifyDevice } :: profilePlan config

/-- The RESET_DEV write, then everything an initialization does. -/
def resetPlan (config : Config) : List PlanEntry :=
  { transfer := .write regResetDev maskResetDev, phase := .softwareReset } :: initializePlan config

/-- STATUS, the two words of each selected channel, STATUS. -/
def acquirePlan (mask : ChannelMask) : List PlanEntry :=
  { transfer := .read regStatus, phase := .readStatusBefore } ::
    (maskChannels mask).flatMap (fun index =>
      [⟨.read (regDataMsb (channelAt index).raw), .readDataMsb, channelAt index⟩,
        ⟨.read (regDataLsb (channelAt index).raw), .readDataLsb, channelAt index⟩]) ++
    [{ transfer := .read regStatus, phase := .readStatusAfter }]

/-- The plan of the job a start call asks for, with the desired profile. -/
def Call.plan (config : Config) : Call → List PlanEntry
  | .startApplyConfig _ _ => profilePlan config
  | .startInitialize _ _ => initializePlan config
  | .startResetAndReapply _ _ => resetPlan config
  | .startAcquire channels _ _ => acquirePlan channels
  | _ => []

/-! ### Scripts follow the plans -/

/-- A stage as an entry of a plan. -/
def Stage.entry (config : Config) (stage : Stage) : PlanEntry :=
  ⟨stage.transfer config, (stage.position config).1, (stage.position config).2.2⟩

/-- A profile write as an entry of a plan. -/
def ConfigWrite.entry (write : ConfigWrite) : PlanEntry :=
  ⟨.write write.reg write.value, write.phase, write.channel⟩

/-- A stage shows the register of its transfer. -/
theorem Stage.transfer_reg (config : Config) (stage : Stage) :
    (stage.transfer config).reg = (stage.position config).2.1 := by
  cases stage <;> rfl

/-- The replay follows the profile plan. -/
theorem replay_entries {config : Config}
    (hvariant : config.variant = .ldc1612 ∨ config.variant = .ldc1614) :
    (replay config).map (Stage.entry config) = profilePlan config := by
  have hentry : (replay config).map (Stage.entry config) =
      (List.range (profileLength config)).map fun step =>
        (configWriteAt config (channelCountFor config.variant) (BitVec.ofNat 8 step)).entry := by
    rw [replay, List.map_map]
    rfl
  rw [hentry, profilePlan, profileLength]
  rcases hvariant with hvariant | hvariant
  · rw [hvariant]
    rfl
  · rw [hvariant]
    rfl

/-- An acquisition follows its plan. -/
theorem acquisition_entries (config : Config) (mask : ChannelMask) :
    (acquisition mask).map (Stage.entry config) = acquirePlan mask := by
  simp [acquisition, acquirePlan, List.map_flatMap, Stage.entry, Stage.transfer, Stage.position]

end Ldc1614
