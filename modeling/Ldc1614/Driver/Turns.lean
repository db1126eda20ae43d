import Ldc1614.Driver.Script

/-! # Polling, one transfer at a time

A turn of a job loop is one register transfer followed by a pure function of the reply. This file
reads off the `Stage` an active job is in, gives the continuation `resume` of each stage, and shows
that `poll` is the plain iteration `drive` of the two. -/

namespace Ldc1614

open Cmd Interaction Interaction.Program

namespace Driver

/-! ### The stage of an active job -/

/-- The stage of an acquisition, from its phase and channel. -/
def acquireStage (d : Driver) : Option Stage :=
  match d.progress.phase with
  | .readStatusBefore => some .statusBefore
  | .readDataMsb =>
      if h : d.jobChannel.raw.toNat < 4 then some (.dataMsb ⟨d.jobChannel.raw.toNat, h⟩) else none
  | .readDataLsb =>
      if h : d.jobChannel.raw.toNat < 4 then some (.dataLsb ⟨d.jobChannel.raw.toNat, h⟩) else none
  | .readStatusAfter => some .statusAfter
  | _ => none

/-- The stage of the active job; there is none where the loop would leave its protocol. -/
def stage (d : Driver) : Option Stage :=
  if d.progress.kind = .acquire then d.acquireStage
  else (preamble d.progress.kind ++ replay d.config)[d.jobStep.toNat]?

/-- The driver right behind the callback of a stage. -/
def attempt (d : Driver) (stage : Stage) (reply : Reply) : Driver :=
  let (phase, reg, channel) := stage.position d.config
  (d.positioned phase reg channel).tracked reply.status

/-- The rest of a turn behind the callback of its stage. -/
def resume (d : Driver) (stage : Stage) (reply : Reply) (nowMs : U64) : Turn :=
  let status := reply.status
  let value : U16 := if status.isOk then reply.word else 0
  let d' := d.attempt stage reply
  match stage with
  | .reset => d'.resetWritten status nowMs
  | .identity index => d'.identityRead index status value nowMs
  | .profile applyStep => d'.profileWritten (Stage.writeAt d.config applyStep) applyStep status nowMs
  | .statusBefore => d'.statusBeforeRead status value nowMs
  | .dataMsb _ => d'.dataMsbRead status value nowMs
  | .dataLsb index =>
      if !status.isOk then d'.countTransfer.finishTurn (outcomeForFailure status) status nowMs
      else .again (d'.countTransfer.dataLsbSeen index value)
  | .statusAfter => d'.statusAfterRead status value nowMs

/-- One turn of the inner loop of the active job's kind. -/
def turn (nowMs : U64) (transferTimeoutMs : U32) (d : Driver) : Bus Turn :=
  if d.progress.kind = .acquire then acquireTurn nowMs transferTimeoutMs d
  else
    initializeOrApplyTurn nowMs transferTimeoutMs (d.progress.kind = .resetAndReapply)
      (applyOffset d.progress.kind (d.progress.kind = .resetAndReapply)) d

/-! ### A turn is its stage -/

variable {d : Driver} {stage : Stage} {nowMs : U64} {transferTimeoutMs : U32}

/-- With its callback a read makes one request and counts it. -/
theorem readRegister_eq (h : d.config.i2cWriteRead.isSome) (reg : U8) (timeoutMs : U32) :
    d.readRegister reg timeoutMs =
      .call ((Transfer.read reg).request d.config timeoutMs) fun reply =>
        .done (d.tracked reply.status, reply.status, if reply.status.isOk then reply.word else 0) := by
  obtain ⟨callback, hcallback⟩ := Option.isSome_iff_exists.mp h
  simp only [readRegister, Transfer.request, hcallback, Option.getD_some]

/-- With its callback a write makes one request and counts it. -/
theorem writeRegister_eq (h : d.config.i2cWrite.isSome) (reg : U8) (value : U16)
    (timeoutMs : U32) :
    d.writeRegister reg value timeoutMs =
      .call ((Transfer.write reg value).request d.config timeoutMs) fun reply =>
        .done (d.tracked reply.status, reply.status) := by
  obtain ⟨callback, hcallback⟩ := Option.isSome_iff_exists.mp h
  simp only [writeRegister, Transfer.request, hcallback, Option.getD_some]

/-- The phase and channel behind each stage of an acquisition. -/
theorem acquireStage_eq_some : d.acquireStage = some stage ↔
    (d.progress.phase = .readStatusBefore ∧ stage = .statusBefore) ∨
    (∃ index, d.progress.phase = .readDataMsb ∧ d.jobChannel = channelAt index ∧
      stage = .dataMsb index) ∨
    (∃ index, d.progress.phase = .readDataLsb ∧ d.jobChannel = channelAt index ∧
      stage = .dataLsb index) ∨
    (d.progress.phase = .readStatusAfter ∧ stage = .statusAfter) := by
  have hslot (h : d.jobChannel.raw.toNat < 4) :
      d.jobChannel = channelAt ⟨d.jobChannel.raw.toNat, h⟩ := by
    simp [channelAt]
  have hindex (index : Fin 4) (h : d.jobChannel = channelAt index) :
      ∃ hlt : d.jobChannel.raw.toNat < 4, ⟨d.jobChannel.raw.toNat, hlt⟩ = index := by
    rw [h]
    exact ⟨by rw [channelAt_toNat]; exact index.isLt, Fin.ext (channelAt_toNat index)⟩
  unfold acquireStage
  constructor
  · intro h
    split at h
    · next hphase => exact Or.inl ⟨hphase, (Option.some.inj h).symm⟩
    · next hphase =>
        split at h
        · next hlt =>
            exact Or.inr (Or.inl ⟨_, hphase, hslot hlt, (Option.some.inj h).symm⟩)
        · cases h
    · next hphase =>
        split at h
        · next hlt =>
            exact Or.inr (Or.inr (Or.inl ⟨_, hphase, hslot hlt, (Option.some.inj h).symm⟩))
        · cases h
    · next hphase => exact Or.inr (Or.inr (Or.inr ⟨hphase, (Option.some.inj h).symm⟩))
    · cases h
  · rintro (⟨hphase, rfl⟩ | ⟨index, hphase, hch, rfl⟩ | ⟨index, hphase, hch, rfl⟩ | ⟨hphase, rfl⟩)
    · simp only [hphase]
    · obtain ⟨hlt, rfl⟩ := hindex index hch
      simp only [hphase, dif_pos hlt]
    · obtain ⟨hlt, rfl⟩ := hindex index hch
      simp only [hphase, dif_pos hlt]
    · simp only [hphase]

/-- A turn of an acquisition issues the transfer of its stage and resumes with the reply. -/
theorem acquireTurn_eq (hread : d.config.i2cWriteRead.isSome)
    (hstage : d.acquireStage = some stage) :
    acquireTurn nowMs transferTimeoutMs d =
      .call ((stage.transfer d.config).request d.config transferTimeoutMs) fun reply =>
        .done (d.resume stage reply nowMs) := by
  have hreadRegister (phase : JobPhase) (reg : U8) (channel : Channel) :=
    readRegister_eq (d := d.positioned phase reg channel) hread reg transferTimeoutMs
  unfold acquireTurn
  rcases acquireStage_eq_some.mp hstage with ⟨hphase, rfl⟩ | ⟨index, hphase, hch, rfl⟩ |
    ⟨index, hphase, hch, rfl⟩ | ⟨hphase, rfl⟩
  · simp only [hphase, hreadRegister, call_bind, done_bind, pure_eq_done]
    rfl
  · simp only [hphase, hreadRegister, call_bind, done_bind, pure_eq_done, hch]
    rfl
  · simp only [hphase, hreadRegister, call_bind, done_bind, pure_eq_done, hch]
    refine congrArg (Program.call _) (funext fun reply => ?_)
    have hchannel : ((d.positioned .readDataLsb (regDataLsb (channelAt index).raw)
        (channelAt index)).tracked reply.status).countTransfer.jobChannel = channelAt index := hch
    cases hok : reply.status.isOk with
    | false => simp only [resume, hok]; rfl
    | true =>
      simp only [resume, hok, hchannel, channelAt_toNat, Bool.not_true, Bool.false_eq_true,
        if_false, dif_pos index.isLt]
      rfl
  · simp only [hphase, hreadRegister, call_bind, done_bind, pure_eq_done]
    rfl

/-- A turn of a replay issues the transfer of its stage and resumes with the reply. -/
theorem initializeOrApplyTurn_eq (hwrite : d.config.i2cWrite.isSome)
    (hread : d.config.i2cWriteRead.isSome)
    (hstage : (preamble d.progress.kind ++ replay d.config)[d.jobStep.toNat]? = some stage) :
    initializeOrApplyTurn nowMs transferTimeoutMs (d.progress.kind = .resetAndReapply)
        (applyOffset d.progress.kind (d.progress.kind = .resetAndReapply)) d =
      .call ((stage.transfer d.config).request d.config transferTimeoutMs) fun reply =>
        .done (d.resume stage reply nowMs) := by
  have hreadRegister (phase : JobPhase) (reg : U8) (channel : Channel) :=
    readRegister_eq (d := d.positioned phase reg channel) hread reg transferTimeoutMs
  have hwriteRegister (phase : JobPhase) (reg : U8) (channel : Channel) (value : U16) :=
    writeRegister_eq (d := d.positioned phase reg channel) hwrite reg value transferTimeoutMs
  have hlen := length_preamble_le d.progress.kind
  unfold initializeOrApplyTurn
  rw [applyOffset_eq]
  rcases Nat.lt_or_ge d.jobStep.toNat (preamble d.progress.kind).length with hlt | hge
  -- in front of the replay: the reset, or an identity read
  · rw [List.getElem?_append_left hlt] at hstage
    rcases preamble_eq_some hstage with ⟨hkind, hstep, rfl⟩ | ⟨index, hne, hstep, rfl⟩
    · have hjob : d.jobStep = 0 := BitVec.eq_of_toNat_eq hstep
      simp only [hkind, hjob, hwriteRegister, call_bind, done_bind, pure_eq_done, decide_true,
        Bool.and_self, if_true]
      rfl
    · have hfirst : ¬ (decide (d.progress.kind = .resetAndReapply) && decide (d.jobStep = 0)) = true :=
        fun h => by
          simp only [Bool.and_eq_true, decide_eq_true_eq] at h
          rw [h.1, h.2] at hstep
          simp only [preamble, List.length_cons, List.length_nil] at hstep
          exact absurd hstep (by simp; omega)
      have hrange : (preamble d.progress.kind).length ≠ 0 ∧
          (preamble d.progress.kind).length - 2 ≤ d.jobStep.toNat ∧
          d.jobStep.toNat < (preamble d.progress.kind).length := ⟨hne, by omega, hlt⟩
      have hindex : (⟨d.jobStep.toNat - ((preamble d.progress.kind).length - 2), by omega⟩ : Fin 2)
          = index := Fin.ext (by dsimp only; omega)
      simp only [if_neg hfirst, dif_pos hrange, hindex, hreadRegister, call_bind, done_bind,
        pure_eq_done]
      rfl
  -- in the replay: a write of the profile
  · rw [List.getElem?_append_right hge] at hstage
    obtain ⟨hlt, rfl⟩ := replay_eq_some.mp hstage
    have hfirst : ¬ (decide (d.progress.kind = .resetAndReapply) && decide (d.jobStep = 0)) = true :=
      fun h => by
        simp only [Bool.and_eq_true, decide_eq_true_eq] at h
        simp [h.1, h.2, preamble] at hge
    have hrange : ¬ ((preamble d.progress.kind).length ≠ 0 ∧
        (preamble d.progress.kind).length - 2 ≤ d.jobStep.toNat ∧
        d.jobStep.toNat < (preamble d.progress.kind).length) := fun h => by omega
    have hstep : d.jobStep - BitVec.ofNat 8 (preamble d.progress.kind).length =
        BitVec.ofNat 8 (d.jobStep.toNat - (preamble d.progress.kind).length) := by
      refine BitVec.eq_of_toNat_eq ?_
      have := d.jobStep.isLt
      simp only [BitVec.toNat_sub, BitVec.toNat_ofNat]
      omega
    have hvalid : (configWriteAt d.config d.configuredChannelCount
        (BitVec.ofNat 8 (d.jobStep.toNat - (preamble d.progress.kind).length))).valid = true := by
      have hv := writeAt_valid d.config
        (BitVec.ofNat 8 (d.jobStep.toNat - (preamble d.progress.kind).length))
      rw [BitVec.toNat_ofNat, Nat.mod_eq_of_lt (by have := d.jobStep.isLt; omega),
        decide_eq_true hlt] at hv
      exact hv
    simp only [if_neg hfirst, dif_neg hrange, hstep, hvalid, hwriteRegister, call_bind, done_bind,
      pure_eq_done, Bool.not_true, Bool.false_eq_true, if_false]
    rfl

/-- Both register callbacks are present. -/
def Wired (d : Driver) : Prop := d.config.i2cWrite.isSome ∧ d.config.i2cWriteRead.isSome

/-- **A turn is its stage.** A turn of the active job issues the transfer of the stage the job is in,
and continues with that stage's function of the reply. -/
theorem turn_eq (hwired : d.Wired) (hstage : d.stage = some stage) :
    turn nowMs transferTimeoutMs d =
      .call ((stage.transfer d.config).request d.config transferTimeoutMs) fun reply =>
        .done (d.resume stage reply nowMs) := by
  unfold Driver.stage at hstage
  unfold turn
  split at hstage
  · next hkind =>
      rw [if_pos hkind]
      exact acquireTurn_eq hwired.2 hstage
  · next hkind =>
      rw [if_neg hkind]
      exact initializeOrApplyTurn_eq hwired.1 hwired.2 hstage

/-! ### What a transfer settles -/

/-- How the job ends with this reply, if it does. -/
def verdict (d : Driver) (stage : Stage) (reply : Reply) : Option (TerminalOutcome × Status) :=
  if !reply.status.isOk then some (.failed, reply.status)
  else
    match stage with
    | .identity index =>
        let step := identitySteps.get index
        if reply.word ≠ step.expected then
          some (.failed, .error .deviceNotFound step.mismatch reply.word.toNat)
        else none
    | .profile applyStep =>
        if configurationTransferCount d.configuredChannelCount ≤ applyStep + 1 then
          some (.success, .ok)
        else none
    | .statusAfter => some (.success, .ok)
    | _ => none

/-- What a failed transfer of a stage records. -/
def failedAt (d : Driver) (stage : Stage) (status : Status) : Driver :=
  let (phase, reg, channel) := stage.position d.config
  match stage with
  | .reset => d.writeFault .unknown phase reg channel status
  | .profile _ => d.writeFault .dirty phase reg channel status
  | .identity index => d.identityFault (identitySteps.get index) status
  | .statusBefore => d.addEffectIf (transferFailureMayHaveReachedDevice status) .readSideEffects
  | _ => d

/-- What a successful transfer of a stage records. -/
def passedAt (d : Driver) (stage : Stage) (value : U16) : Driver :=
  match stage with
  | .reset => d.resetConfirmed
  | .identity index =>
      let step := identitySteps.get index
      if value ≠ step.expected then
        d.identityFault step (.error .deviceNotFound step.mismatch value.toNat)
      else d.identityConfirmed index
  | .profile applyStep =>
      let write := Stage.writeAt d.config applyStep
      let confirmed := d.writeConfirmed .applying write.phase write.reg write.channel
      if configurationTransferCount d.configuredChannelCount ≤ applyStep + 1 then
        confirmed.profileApplied
      else confirmed.positionedAtWrite (applyStep + 1)
  | .statusBefore => d.statusBeforeSeen value
  | .dataMsb _ => d.dataMsbSeen value
  | .dataLsb index => d.dataLsbSeen index value
  | .statusAfter => d.statusAfterSeen value

/-- The driver behind a transfer, before the job is finished if it ends. -/
def settled (d : Driver) (stage : Stage) (reply : Reply) : Driver :=
  let d' := (d.attempt stage reply).countTransfer
  if !reply.status.isOk then d'.failedAt stage reply.status else d'.passedAt stage reply.word

/-- The job ends according to the verdict, or goes on. -/
def conclude (d : Driver) (nowMs : U64) : Option (TerminalOutcome × Status) → Turn
  | none => .again d
  | some (outcome, status) => d.finishTurn outcome status nowMs

/-- An attempt keeps the profile. -/
@[simp] theorem attempt_config (reply : Reply) : (d.attempt stage reply).config = d.config := rfl

/-- Counting a transfer keeps the profile. -/
@[simp] theorem countTransfer_config : d.countTransfer.config = d.config := rfl

/-- A confirmed write keeps the profile. -/
@[simp] theorem writeConfirmed_config (trust : AppliedConfigState) (phase : JobPhase) (reg : U8)
    (channel : Channel) : (d.writeConfirmed trust phase reg channel).config = d.config := rfl

/-- A turn settles its transfer, then ends the job or goes on. -/
theorem resume_eq (reply : Reply) :
    d.resume stage reply nowMs =
      (d.settled stage reply).conclude nowMs (d.verdict stage reply) := by
  cases hok : reply.status.isOk with
  | false =>
      simp only [resume, settled, verdict, hok, Bool.not_false, if_true, conclude]
      cases stage <;>
        simp only [resetWritten, identityRead, profileWritten, statusBeforeRead, dataMsbRead,
          statusAfterRead, hok, Bool.not_false, if_true] <;> rfl
  | true =>
      simp only [resume, settled, verdict, hok, Bool.not_true, Bool.false_eq_true, if_false, if_true]
      cases stage with
      | identity index =>
          simp only [identityRead, passedAt, hok, Bool.not_true, Bool.false_eq_true, if_false]
          split <;> rfl
      | profile applyStep =>
          simp only [profileWritten, passedAt, hok, Bool.not_true, Bool.false_eq_true, if_false,
            configuredChannelCount, writeConfirmed_config, countTransfer_config, attempt_config]
          by_cases hlast : configurationTransferCount (channelCountFor d.config.variant)
              ≤ applyStep + 1
          · simp only [hlast, if_true]
            rfl
          · simp only [hlast, if_false]
            rfl
      | reset => simp only [resetWritten, hok, Bool.not_true, Bool.false_eq_true, if_false]; rfl
      | statusBefore =>
          simp only [statusBeforeRead, hok, Bool.not_true, Bool.false_eq_true, if_false]; rfl
      | dataMsb index => simp only [dataMsbRead, hok, Bool.not_true, Bool.false_eq_true, if_false]; rfl
      | dataLsb index => rfl
      | statusAfter =>
          simp only [statusAfterRead, hok, Bool.not_true, Bool.false_eq_true, if_false]; rfl

end Driver

end Ldc1614
