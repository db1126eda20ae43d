import Ldc1614.Driver.Turns

/-! # What a transfer settles

The effect of one transfer of a job, field by field: what no transfer changes (`frame`), what each
stage adds, and what finishing a job adds to the queue. Later files reason with these facts and never
unfold a turn again. -/

namespace Ldc1614

open Cmd Interaction

/-! ### What no transfer changes -/

/-- The part of a progress snapshot that is fixed when the job is admitted. -/
def JobProgress.ticket (progress : JobProgress) : JobProgress :=
  { progress with
    phase := .none
    registerAddress := 0xFF
    channel := .none
    completedTransfers := 0
    completedChannels := {}
    effects := 0 }

namespace Driver

variable {d d' : Driver} {stage : Stage} {reply : Reply} {nowMs : U64}

/-- The part of the state no transfer of a job changes. -/
def frame (d : Driver) : Driver :=
  { d with
    appliedState := .unknown
    configFault := {}
    transportStats := {}
    progress := d.progress.ticket
    jobStep := 0
    jobChannel := .none
    lastWritePhase := .none
    lastWriteRegister := invalidRegister
    lastWriteChannel := .none
    scratchMsb := 0
    scratchStatusBefore := {}
    scratchStatusAfter := {}
    scratchSamples := Vector.replicate 4 {}
    scratchCompleted := {} }

/-- A failed write leaves the frame alone. -/
theorem writeFault_frame (trust : AppliedConfigState) (phase : JobPhase) (reg : U8)
    (channel : Channel) (status : Status) :
    (d.writeFault trust phase reg channel status).frame = d.frame := by
  unfold writeFault
  dsimp only
  split <;> rfl

/-- So does every failed transfer. -/
theorem failedAt_frame (status : Status) : (d.failedAt stage status).frame = d.frame := by
  cases stage with
  | reset => exact writeFault_frame ..
  | profile applyStep => exact writeFault_frame ..
  | _ => rfl

/-- So does every transfer that passed. -/
theorem passedAt_frame (value : U16) : (d.passedAt stage value).frame = d.frame := by
  cases stage with
  | identity index =>
      simp only [passedAt]
      split <;> rfl
  | profile applyStep =>
      simp only [passedAt]
      split <;> rfl
  | _ => rfl

/-- **Frame.** A transfer keeps the profile, the queue and the identity of the job. -/
theorem settled_frame (d : Driver) (stage : Stage) (reply : Reply) :
    (d.settled stage reply).frame = d.frame := by
  unfold settled
  dsimp only
  split
  · exact failedAt_frame _
  · exact passedAt_frame _

/-- A transfer keeps the profile. -/
@[simp] theorem settled_config : (d.settled stage reply).config = d.config :=
  (congrArg config (settled_frame d stage reply) :)

/-- A transfer keeps the binding. -/
@[simp] theorem settled_bound : (d.settled stage reply).bound = d.bound :=
  (congrArg Driver.bound (settled_frame d stage reply) :)

/-- A transfer keeps the revision. -/
@[simp] theorem settled_configRevision :
    (d.settled stage reply).configRevision = d.configRevision :=
  (congrArg configRevision (settled_frame d stage reply) :)

/-- A transfer stores no result. -/
@[simp] theorem settled_results : (d.settled stage reply).results = d.results :=
  (congrArg results (settled_frame d stage reply) :)

/-- A transfer moves no result. -/
@[simp] theorem settled_resultHead : (d.settled stage reply).resultHead = d.resultHead :=
  (congrArg resultHead (settled_frame d stage reply) :)

/-- A transfer queues no result. -/
@[simp] theorem settled_resultCount : (d.settled stage reply).resultCount = d.resultCount :=
  (congrArg resultCount (settled_frame d stage reply) :)

/-- A transfer keeps the ticket of its job. -/
@[simp] theorem settled_ticket (d : Driver) (stage : Stage) (reply : Reply) :
    (d.settled stage reply).progress.ticket = d.progress.ticket :=
  (congrArg progress (settled_frame d stage reply) :)

/-- A transfer alone neither starts nor ends a job. -/
@[simp] theorem settled_active : (d.settled stage reply).progress.active = d.progress.active :=
  (congrArg JobProgress.active (settled_ticket d stage reply) :)

/-- A transfer keeps the kind of its job. -/
@[simp] theorem settled_kind : (d.settled stage reply).progress.kind = d.progress.kind :=
  (congrArg JobProgress.kind (settled_ticket d stage reply) :)

/-- A transfer keeps the id of its job. -/
@[simp] theorem settled_operationId :
    (d.settled stage reply).progress.operationId = d.progress.operationId :=
  (congrArg JobProgress.operationId (settled_ticket d stage reply) :)

/-- A transfer keeps the announced number of transfers. -/
@[simp] theorem settled_maximumTransfers :
    (d.settled stage reply).progress.maximumTransfers = d.progress.maximumTransfers :=
  (congrArg JobProgress.maximumTransfers (settled_ticket d stage reply) :)

/-- A transfer keeps the requested channels. -/
@[simp] theorem settled_requestedChannels :
    (d.settled stage reply).progress.requestedChannels = d.progress.requestedChannels :=
  (congrArg JobProgress.requestedChannels (settled_ticket d stage reply) :)

/-- A transfer keeps the revision the job was admitted under. -/
@[simp] theorem settled_jobRevision :
    (d.settled stage reply).progress.configRevision = d.progress.configRevision :=
  (congrArg JobProgress.configRevision (settled_ticket d stage reply) :)

/-- A transfer keeps the deadline. -/
@[simp] theorem settled_deadlineMs :
    (d.settled stage reply).progress.deadlineMs = d.progress.deadlineMs :=
  (congrArg JobProgress.deadlineMs (settled_ticket d stage reply) :)

/-! ### What a transfer adds -/

/-- Every transfer is counted among the callback attempts, whatever it was for. -/
theorem settled_transportStats :
    (d.settled stage reply).transportStats = (d.tracked reply.status).transportStats := by
  have hfault (e : Driver) (trust : AppliedConfigState) (phase : JobPhase) (reg : U8)
      (channel : Channel) (status : Status) :
      (e.writeFault trust phase reg channel status).transportStats = e.transportStats := by
    unfold writeFault
    dsimp only
    split <;> rfl
  have hfailed (e : Driver) (status : Status) :
      (e.failedAt stage status).transportStats = e.transportStats := by
    cases stage with
    | reset => exact hfault ..
    | profile applyStep => exact hfault ..
    | _ => rfl
  have hpassed (e : Driver) (value : U16) :
      (e.passedAt stage value).transportStats = e.transportStats := by
    cases stage with
    | identity index =>
        simp only [passedAt]
        split <;> rfl
    | profile applyStep =>
        simp only [passedAt]
        split <;> rfl
    | _ => rfl
  unfold settled
  dsimp only
  split
  · exact hfailed _ _
  · exact hpassed _ _

/-- What a failure records is not counted as a transfer. -/
theorem failedAt_completedTransfers (status : Status) :
    (d.failedAt stage status).progress.completedTransfers = d.progress.completedTransfers := by
  have hfault (trust : AppliedConfigState) (phase : JobPhase) (reg : U8) (channel : Channel) :
      (d.writeFault trust phase reg channel status).progress.completedTransfers =
        d.progress.completedTransfers := by
    unfold writeFault
    dsimp only
    split <;> rfl
  cases stage with
  | reset => exact hfault ..
  | profile applyStep => exact hfault ..
  | _ => rfl

/-- What a success records is not counted as a transfer. -/
theorem passedAt_completedTransfers (value : U16) :
    (d.passedAt stage value).progress.completedTransfers = d.progress.completedTransfers := by
  cases stage with
  | identity index =>
      simp only [passedAt]
      split <;> rfl
  | profile applyStep =>
      simp only [passedAt]
      split <;> rfl
  | _ => rfl

/-- Every transfer is counted. -/
@[simp] theorem settled_completedTransfers :
    (d.settled stage reply).progress.completedTransfers = d.progress.completedTransfers + 1 := by
  unfold settled
  dsimp only
  split
  · exact failedAt_completedTransfers _
  · exact passedAt_completedTransfers _

/-- A job goes on only behind a successful transfer. -/
theorem isOk_of_verdict (h : d.verdict stage reply = none) : reply.status.isOk = true := by
  unfold verdict at h
  cases hok : reply.status.isOk with
  | true => rfl
  | false => simp [hok] at h

/-- What a successful transfer leaves. -/
theorem settled_of_isOk (h : reply.status.isOk = true) :
    d.settled stage reply = (d.attempt stage reply).countTransfer.passedAt stage reply.word := by
  simp [settled, h]

/-- A passed identity check goes on, a mismatch does not. -/
theorem verdict_identity {index : Fin 2} (h : reply.status.isOk = true) :
    d.verdict (.identity index) reply = none ↔ reply.word = (identitySteps.get index).expected := by
  simp only [verdict, h, Bool.not_true, Bool.false_eq_true, if_false]
  split
  · next hword => exact ⟨fun h => (by cases h), fun h => absurd h hword⟩
  · next hword => exact ⟨fun _ => not_not.mp hword, fun _ => rfl⟩

/-- A confirmed write goes on unless it is the last of the profile. -/
theorem verdict_profile {applyStep : U8} (h : reply.status.isOk = true) :
    d.verdict (.profile applyStep) reply = none ↔
      (applyStep + 1).toNat < profileLength d.config := by
  have hle : configurationTransferCount d.configuredChannelCount ≤ applyStep + 1 ↔
      profileLength d.config ≤ (applyStep + 1).toNat := BitVec.le_def
  simp only [verdict, h, Bool.not_true, Bool.false_eq_true, if_false]
  split
  · next hlast => exact ⟨fun h => (by cases h), fun h => absurd (hle.mp hlast) (by omega)⟩
  · next hlast => exact ⟨fun _ => not_le.mp (mt hle.mpr hlast), fun _ => rfl⟩

/-! ### A job that goes on -/

/-- An identity check that goes on. -/
theorem settled_identity {index : Fin 2} (hv : d.verdict (.identity index) reply = none) :
    d.settled (.identity index) reply =
      (d.attempt (.identity index) reply).countTransfer.identityConfirmed index := by
  have hok := isOk_of_verdict hv
  simp only [settled_of_isOk hok, passedAt, ne_eq, (verdict_identity hok).mp hv, not_true_eq_false,
    if_false]

/-- An identity register with another word. -/
theorem settled_identity_mismatch {index : Fin 2} (hok : reply.status.isOk = true)
    (hword : reply.word ≠ (identitySteps.get index).expected) :
    d.settled (.identity index) reply =
      (d.attempt (.identity index) reply).countTransfer.identityFault (identitySteps.get index)
        (.error .deviceNotFound (identitySteps.get index).mismatch reply.word.toNat) := by
  rw [settled_of_isOk hok, passedAt]
  exact if_pos hword

/-- A confirmed profile write behind which the replay goes on. -/
theorem settled_profile {applyStep : U8} (hv : d.verdict (.profile applyStep) reply = none) :
    d.settled (.profile applyStep) reply =
      ((d.attempt (.profile applyStep) reply).countTransfer.writeConfirmed .applying
        (Stage.writeAt d.config applyStep).phase (Stage.writeAt d.config applyStep).reg
        (Stage.writeAt d.config applyStep).channel).positionedAtWrite (applyStep + 1) := by
  have hok := isOk_of_verdict hv
  have hlast : ¬ configurationTransferCount
      (d.attempt (.profile applyStep) reply).countTransfer.configuredChannelCount
        ≤ applyStep + 1 := fun hle => by
    have := (verdict_profile hok).mp hv
    have : profileLength d.config ≤ (applyStep + 1).toNat := BitVec.le_def.mp hle
    omega
  simp only [settled_of_isOk hok, passedAt, hlast, if_false]
  rfl

/-- Moving on to the next channel is finding the next read. -/
theorem advanceAcquireChannel_stage (after : Channel) :
    (d.advanceAcquireChannel after).acquireStage =
      some (channelStage (nextChannel d.progress.requestedChannels after)) := by
  rcases nextChannel_cases d.progress.requestedChannels after with ⟨index, hnext⟩ | hnext
  · rw [hnext, channelStage_channelAt]
    refine acquireStage_eq_some.mpr (Or.inr (Or.inl ⟨index, ?_, hnext, rfl⟩))
    simp only [advanceAcquireChannel, hnext, if_neg (channelAt_ne_none index)]
  · rw [hnext, channelStage_none]
    refine acquireStage_eq_some.mpr (Or.inr (Or.inr (Or.inr ⟨?_, rfl⟩)))
    simp only [advanceAcquireChannel, hnext, if_true]

/-- The driver finds the next read of an acquisition. -/
theorem settled_acquireStage {next : Stage} (hstage : d.acquireStage = some stage)
    (hok : reply.status.isOk = true)
    (hnext : nextRead d.progress.requestedChannels stage = some next) :
    (d.settled stage reply).acquireStage = some next := by
  rw [settled_of_isOk hok]
  rcases acquireStage_eq_some.mp hstage with ⟨-, rfl⟩ | ⟨index, hphase, hch, rfl⟩ |
    ⟨index, hphase, hch, rfl⟩ | ⟨-, rfl⟩
  · rw [← hnext]
    exact advanceAcquireChannel_stage _
  · obtain rfl := Option.some.inj hnext
    exact acquireStage_eq_some.mpr (Or.inr (Or.inr (Or.inl ⟨index, rfl, hch, rfl⟩)))
  · rw [← hnext, nextRead, ← hch]
    exact advanceAcquireChannel_stage _
  · cases hnext

/-- The second identity check lifts the applied state out of `UNKNOWN`; the first leaves it. -/
theorem identityConfirmed_appliedState (index : Fin 2) :
    (d.identityConfirmed index).appliedState =
      if index = deviceCheck ∧ d.appliedState = .unknown then .dirty else d.appliedState := by
  have hreg : (identitySteps.get index).reg = regDeviceId ↔ index = deviceCheck := by
    revert index
    decide
  simp only [identityConfirmed, hreg, Bool.and_eq_true, decide_eq_true_eq]

/-- What a passed identity check does to the applied state. -/
theorem settled_identity_appliedState {index : Fin 2}
    (hv : d.verdict (.identity index) reply = none) :
    (d.settled (.identity index) reply).appliedState =
      if index = deviceCheck ∧ d.appliedState = .unknown then .dirty else d.appliedState := by
  rw [settled_identity hv]
  exact identityConfirmed_appliedState index

/-- The reads of an acquisition leave the applied state alone. -/
theorem settled_appliedState_of_isAcquire (h : stage.isAcquire = true) :
    (d.settled stage reply).appliedState = d.appliedState := by
  unfold settled
  dsimp only
  cases stage with
  | reset => cases h
  | identity index => cases h
  | profile applyStep => cases h
  | _ => split <;> rfl

/-- The progress shows the transfer of a stage. -/
def shows (d : Driver) (stage : Stage) : Prop :=
  (d.progress.phase, d.progress.registerAddress, d.progress.channel) = stage.position d.config

/-- Moving on to the next channel shows its read. -/
theorem advanceAcquireChannel_shows (after : Channel) :
    (d.advanceAcquireChannel after).shows
      (channelStage (nextChannel d.progress.requestedChannels after)) := by
  rcases nextChannel_cases d.progress.requestedChannels after with ⟨index, hnext⟩ | hnext
  · rw [hnext, channelStage_channelAt]
    simp only [shows, advanceAcquireChannel, hnext, if_neg (channelAt_ne_none index)]
    rfl
  · rw [hnext, channelStage_none]
    simp only [shows, advanceAcquireChannel, hnext, if_true]
    rfl

/-- An acquisition that goes on shows its next read. -/
theorem settled_shows_read {next : Stage} (hstage : d.acquireStage = some stage)
    (hok : reply.status.isOk = true)
    (hnext : nextRead d.progress.requestedChannels stage = some next) :
    (d.settled stage reply).shows next := by
  rw [settled_of_isOk hok]
  rcases acquireStage_eq_some.mp hstage with ⟨-, rfl⟩ | ⟨index, hphase, hch, rfl⟩ |
    ⟨index, hphase, hch, rfl⟩ | ⟨-, rfl⟩
  · obtain rfl := Option.some.inj hnext
    exact advanceAcquireChannel_shows _
  · obtain rfl := Option.some.inj hnext
    change (_, regDataLsb d.jobChannel.raw, _) = _
    rw [hch]
    rfl
  · obtain rfl := Option.some.inj hnext
    rw [← hch]
    exact advanceAcquireChannel_shows _
  · cases hnext

/-- A replay that goes on shows its next transfer. -/
theorem settled_shows_write {next : Stage} (hv : d.verdict stage reply = none)
    (h : Follows stage next) : (d.settled stage reply).shows next := by
  cases h with
  | afterReset => rw [settled_of_isOk (isOk_of_verdict hv)]; rfl
  | afterManufacturer => rw [settled_identity hv]; rfl
  | afterDevice =>
      rw [settled_identity hv, shows, Stage.position]
      change _ = ((Stage.writeAt d.config 0).phase, (Stage.writeAt d.config 0).reg,
        (Stage.writeAt d.config 0).channel)
      rw [writeAt_zero]
      rfl
  | afterWrite applyStep => rw [settled_profile hv]; rfl

/-- A replay that goes on has taken one job step. -/
theorem settled_jobStep {next : Stage} (hv : d.verdict stage reply = none)
    (h : Follows stage next) : (d.settled stage reply).jobStep = d.jobStep + 1 := by
  cases h with
  | afterReset => rw [settled_of_isOk (isOk_of_verdict hv)]; rfl
  | afterManufacturer => rw [settled_identity hv]; rfl
  | afterDevice => rw [settled_identity hv]; rfl
  | afterWrite applyStep => rw [settled_profile hv]; rfl

/-- A replay that goes on has the trust its next stage needs. -/
theorem settled_trusted {next : Stage} (hv : d.verdict stage reply = none)
    (h : Follows stage next) (htrust : stage.Trusts d.appliedState) :
    next.Trusts (d.settled stage reply).appliedState ∧
      ((d.settled stage reply).appliedState = .applying →
        hasEffect (d.settled stage reply).progress.effects .partialWrite = true) := by
  cases h with
  | afterReset =>
      rw [settled_of_isOk (isOk_of_verdict hv)]
      exact ⟨AppliedConfigState.noConfusion, AppliedConfigState.noConfusion⟩
  | afterManufacturer =>
      rw [settled_identity_appliedState hv, if_neg (by simp)]
      exact ⟨htrust, fun happlying => absurd happlying htrust⟩
  | afterDevice =>
      have hne : (d.settled (.identity deviceCheck) reply).appliedState ≠ .unknown ∧
          (d.settled (.identity deviceCheck) reply).appliedState ≠ .applying := by
        rw [settled_identity_appliedState hv]
        split
        · exact ⟨AppliedConfigState.noConfusion, AppliedConfigState.noConfusion⟩
        · next hknown => exact ⟨fun h => hknown ⟨rfl, h⟩, htrust⟩
      exact ⟨hne, fun happlying => absurd happlying hne.2⟩
  | afterWrite applyStep hne =>
      rw [settled_profile hv]
      refine ⟨(if_neg hne).mpr rfl, fun _ => ?_⟩
      exact (hasEffect_or _ _ _).trans (by simp)

/-! ### The end of a job -/

/-- The queued results, oldest first. -/
def queue (d : Driver) : List OperationResult :=
  Ring.toList d.results d.resultHead.toNat d.resultCount.toNat

section Finish

variable (outcome : TerminalOutcome) (status : Status)

/-- A finished job leaves no progress. -/
@[simp] theorem finishJob_progress : (d.finishJob outcome status nowMs).1.progress = {} := rfl

/-- Finishing a job keeps the profile. -/
@[simp] theorem finishJob_config : (d.finishJob outcome status nowMs).1.config = d.config := rfl

/-- Finishing a job keeps the binding. -/
@[simp] theorem finishJob_bound : (d.finishJob outcome status nowMs).1.bound = d.bound := rfl

/-- Finishing a job keeps the applied state. -/
@[simp] theorem finishJob_appliedState :
    (d.finishJob outcome status nowMs).1.appliedState = d.appliedState := rfl

/-- Finishing a job keeps the revision. -/
@[simp] theorem finishJob_configRevision :
    (d.finishJob outcome status nowMs).1.configRevision = d.configRevision := rfl

/-- Finishing a job keeps the fault. -/
@[simp] theorem finishJob_configFault :
    (d.finishJob outcome status nowMs).1.configFault = d.configFault := rfl

/-- Finishing a job counts no transfer. -/
@[simp] theorem finishJob_transportStats :
    (d.finishJob outcome status nowMs).1.transportStats = d.transportStats := rfl

/-- Finishing a job keeps the oldest result where it is. -/
@[simp] theorem finishJob_resultHead :
    (d.finishJob outcome status nowMs).1.resultHead = d.resultHead := rfl

/-- A finished job is cleared. -/
@[simp] theorem finishJob_clearActiveJob :
    (d.finishJob outcome status nowMs).1.clearActiveJob = (d.finishJob outcome status nowMs).1 :=
  rfl

/-- With a free slot, finishing takes one. -/
theorem finishJob_resultCount (h : d.resultCount.toNat < resultCapacity) :
    (d.finishJob outcome status nowMs).1.resultCount.toNat = d.resultCount.toNat + 1 := by
  have hcount : (d.finishJob outcome status nowMs).1.resultCount = d.resultCount + 1 := if_pos h
  rw [hcount, BitVec.toNat_add]
  exact Nat.mod_eq_of_lt (by have : (1 : U8).toNat = 1 := rfl; simp only [resultCapacity] at h; omega)

/-- **Finishing queues the terminal result**, behind everything queued before. -/
theorem finishJob_queue (h : d.resultCount.toNat < resultCapacity) :
    (d.finishJob outcome status nowMs).1.queue =
      d.queue ++ [d.terminalResult outcome status nowMs] := by
  rw [queue, finishJob_resultCount outcome status h]
  exact Ring.toList_push d.results d.resultHead.toNat h _

end Finish

/-- A failed write is recorded when it may have reached the device or the job has confirmed one. -/
def mustRecord (d : Driver) (status : Status) : Bool :=
  transferFailureMayHaveReachedDevice status || hasEffect d.progress.effects .partialWrite

/-- An effect that does not apply adds nothing. -/
theorem addEffectIf_false (flag : EffectFlag) : d.addEffectIf false flag = d := rfl

/-- Adding another effect leaves the confirmed writes as they are. -/
theorem hasEffect_addEffectIf {condition : Bool} {added flag : EffectFlag} :
    hasEffect (d.addEffectIf condition added).progress.effects flag =
      (condition && decide (added = flag) || hasEffect d.progress.effects flag) := by
  cases condition with
  | false => simp [addEffectIf_false]
  | true => exact (hasEffect_or d.progress.effects added flag).trans (by simp)

/-- A failed write that must be recorded marks its effect, the state and the fault. -/
theorem writeFault_of_mustRecord (trust : AppliedConfigState) (phase : JobPhase) (reg : U8)
    (channel : Channel) {status : Status} (h : d.mustRecord status = true) :
    d.writeFault trust phase reg channel status =
      let e := d.addEffectIf (transferFailureMayHaveReachedDevice status) .indeterminateWrite
      ({ e with appliedState := trust }).recordConfigFault status phase reg channel
        e.progress.effects :=
  if_pos (by rw [hasEffect_addEffectIf]; simpa [mustRecord] using h)

/-- A failed write that need not be recorded changes nothing. -/
theorem writeFault_of_not_mustRecord (trust : AppliedConfigState) (phase : JobPhase) (reg : U8)
    (channel : Channel) {status : Status} (h : d.mustRecord status = false) :
    d.writeFault trust phase reg channel status = d := by
  rw [mustRecord, Bool.or_eq_false_iff] at h
  rw [writeFault, h.1]
  exact if_neg (by simp [addEffectIf_false, h.2])

/-- A failed write leaves the applied state at `trust` when it is recorded. -/
theorem writeFault_appliedState (trust : AppliedConfigState) (phase : JobPhase) (reg : U8)
    (channel : Channel) (status : Status) :
    (d.writeFault trust phase reg channel status).appliedState =
      if d.mustRecord status then trust else d.appliedState := by
  cases h : d.mustRecord status with
  | true => rw [writeFault_of_mustRecord _ _ _ _ h]; rfl
  | false => rw [writeFault_of_not_mustRecord _ _ _ _ h]; rfl

/-- What a failed write adds to the effects. -/
theorem writeFault_effects (trust : AppliedConfigState) (phase : JobPhase) (reg : U8)
    (channel : Channel) (status : Status) :
    (d.writeFault trust phase reg channel status).progress.effects =
      (d.addEffectIf (transferFailureMayHaveReachedDevice status)
        .indeterminateWrite).progress.effects := by
  unfold writeFault
  dsimp only
  split <;> rfl

/-- The fault a failed write records, if it is recorded. -/
theorem writeFault_configFault (trust : AppliedConfigState) (phase : JobPhase) (reg : U8)
    (channel : Channel) (status : Status) :
    (d.writeFault trust phase reg channel status).configFault =
      if d.mustRecord status then
        { valid := true, cause := status, job := d.progress.kind, phase := phase,
          registerAddress := reg, channel := channel,
          effects := (d.writeFault trust phase reg channel status).progress.effects }
      else d.configFault := by
  rw [writeFault_effects]
  cases h : d.mustRecord status with
  | true => rw [writeFault_of_mustRecord _ _ _ _ h]; rfl
  | false => rw [writeFault_of_not_mustRecord _ _ _ _ h]; rfl

/-- A failed RESET_DEV write. -/
theorem settled_reset_failed (hok : reply.status.isOk = false) :
    d.settled .reset reply =
      (d.attempt .reset reply).countTransfer.writeFault .unknown .softwareReset regResetDev .none
        reply.status := by
  simp only [settled, hok, Bool.not_false, if_true]
  rfl

/-- A failed profile write. -/
theorem settled_profile_failed {applyStep : U8} (hok : reply.status.isOk = false) :
    d.settled (.profile applyStep) reply =
      (d.attempt (.profile applyStep) reply).countTransfer.writeFault .dirty
        (Stage.writeAt d.config applyStep).phase (Stage.writeAt d.config applyStep).reg
        (Stage.writeAt d.config applyStep).channel reply.status := by
  simp only [settled, hok, Bool.not_false, if_true]
  rfl

/-- The last write of a profile applies it. -/
theorem settled_profile_last {applyStep : U8} (hok : reply.status.isOk = true)
    (hv : d.verdict (.profile applyStep) reply ≠ none) :
    d.settled (.profile applyStep) reply =
      ((d.attempt (.profile applyStep) reply).countTransfer.writeConfirmed .applying
        (Stage.writeAt d.config applyStep).phase (Stage.writeAt d.config applyStep).reg
        (Stage.writeAt d.config applyStep).channel).profileApplied := by
  have hlast : configurationTransferCount
      (d.attempt (.profile applyStep) reply).countTransfer.configuredChannelCount
        ≤ applyStep + 1 :=
    BitVec.le_def.mpr (not_lt.mp (mt (verdict_profile hok).mpr hv))
  simp only [settled_of_isOk hok, passedAt, hlast, if_true]
  rfl

/-! ### The applied state behind a transfer -/

/-- The applied state a transfer of the active job leaves. -/
def trustAfter (d : Driver) (stage : Stage) (reply : Reply) : AppliedConfigState :=
  match stage with
  | .reset => if reply.status.isOk || d.mustRecord reply.status then .unknown else d.appliedState
  | .identity index =>
      if !reply.status.isOk || reply.word ≠ (identitySteps.get index).expected then .unknown
      else if index = deviceCheck ∧ d.appliedState = .unknown then .dirty
      else d.appliedState
  | .profile applyStep =>
      if reply.status.isOk then
        if profileLength d.config ≤ (applyStep + 1).toNat then .appliedSleeping else .applying
      else if d.mustRecord reply.status then .dirty
      else d.appliedState
  | _ => d.appliedState

/-- **The applied state behind a transfer**, whatever the stage and the reply. -/
theorem settled_appliedState (d : Driver) (stage : Stage) (reply : Reply) :
    (d.settled stage reply).appliedState = d.trustAfter stage reply := by
  have hfault (trust : AppliedConfigState) (phase : JobPhase) (reg : U8) (channel : Channel) :
      ((d.attempt stage reply).countTransfer.writeFault trust phase reg channel
        reply.status).appliedState =
        if d.mustRecord reply.status then trust else d.appliedState :=
    writeFault_appliedState ..
  -- a failed write consults `mustRecord`; a failed identity read revokes all trust
  cases stage with
  | reset =>
      cases hok : reply.status.isOk with
      | true =>
          rw [settled_of_isOk hok, trustAfter, hok]
          rfl
      | false =>
          simp only [settled, trustAfter, hok, Bool.not_false, if_true, Bool.false_or]
          exact hfault ..
  | identity index =>
      cases hok : reply.status.isOk with
      | false =>
          simp only [settled, trustAfter, hok, Bool.not_false, if_true, Bool.true_or]
          rfl
      | true =>
          by_cases hword : reply.word = (identitySteps.get index).expected
          · rw [settled_identity_appliedState ((verdict_identity hok).mpr hword)]
            simp [trustAfter, hok, hword]
          · simp only [settled_of_isOk hok, passedAt, trustAfter, hok, hword, ne_eq,
              not_false_eq_true, if_true, Bool.not_true, decide_true, Bool.or_true]
            rfl
  | profile applyStep =>
      cases hok : reply.status.isOk with
      | false =>
          simp only [settled, trustAfter, hok, Bool.not_false, if_true, Bool.false_eq_true,
            if_false]
          exact hfault ..
      | true =>
          -- the last write of the profile makes it applied, each before it makes it applying
          by_cases hlast : profileLength d.config ≤ (applyStep + 1).toNat
          · rw [settled_profile_last hok (mt (verdict_profile hok).mp (by omega))]
            simp only [trustAfter, hok, hlast, if_true]
            rfl
          · rw [settled_profile ((verdict_profile hok).mpr (by omega))]
            simp only [trustAfter, hok, hlast, if_true, if_false]
            rfl
  | _ => exact settled_appliedState_of_isAcquire rfl

end Driver

end Ldc1614
