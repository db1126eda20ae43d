import Ldc1614.Driver.Poll

/-! # What a job records

The evidence a job accumulates, as functions of its stage and the reply: the effects a transfer adds
and the fault it records. -/

namespace Ldc1614

open Cmd Interaction

namespace Driver

variable {d : Driver} {stage : Stage} {reply : Reply} {nowMs : U64}

/-- The reply to an identity read carries the word. -/
def IdentityStep.Matches (step : IdentityStep) (reply : Reply) : Prop :=
  reply.status.isOk = true ∧ reply.word = step.expected

instance (step : IdentityStep) (reply : Reply) : Decidable (step.Matches reply) :=
  inferInstanceAs (Decidable (_ ∧ _))

/-! ### Effects -/

/-- The effects a transfer adds. -/
def adds (stage : Stage) (reply : Reply) : EffectFlag → Bool
  | .partialWrite => stage.isWrite && reply.status.isOk
  | .indeterminateWrite =>
      stage.isWrite && !reply.status.isOk && transferFailureMayHaveReachedDevice reply.status
  | .readSideEffects =>
      match stage with
      | .statusBefore => reply.status.isOk || transferFailureMayHaveReachedDevice reply.status
      | .dataMsb _ | .statusAfter => reply.status.isOk
      | _ => false

theorem hasEffect_addEffect (d : Driver) (added flag : EffectFlag) :
    hasEffect (d.addEffect added).progress.effects flag =
      (decide (added = flag) || hasEffect d.progress.effects flag) := by
  rw [addEffect, hasEffect_addEffectIf, Bool.true_and]

/-- A write has no side effects of a read. -/
theorem adds_readSideEffects_of_isWrite (h : stage.isWrite = true) :
    adds stage reply .readSideEffects = false := by
  cases stage with
  | reset => rfl
  | profile applyStep => rfl
  | _ => cases h

/-- A failed write adds doubt when it may have reached the device. -/
theorem failed_write_effects (hwrite : stage.isWrite = true) (hok : reply.status.isOk = false)
    (trust : AppliedConfigState) (phase : JobPhase) (reg : U8) (channel : Channel)
    (flag : EffectFlag) :
    hasEffect ((d.attempt stage reply).countTransfer.writeFault trust phase reg channel
        reply.status).progress.effects flag =
      (adds stage reply flag || hasEffect d.progress.effects flag) := by
  have hadds : adds stage reply flag =
      (transferFailureMayHaveReachedDevice reply.status &&
        decide (EffectFlag.indeterminateWrite = flag)) := by
    cases flag with
    | readSideEffects => simp [adds_readSideEffects_of_isWrite hwrite]
    | partialWrite => simp [adds, hok]
    | indeterminateWrite => simp [adds, hwrite, hok]
  rw [writeFault_effects, hasEffect_addEffectIf, hadds]
  rfl

/-- A confirmed write adds itself. -/
theorem confirmed_write_effects (hwrite : stage.isWrite = true) (hok : reply.status.isOk = true)
    (flag : EffectFlag) :
    hasEffect (d.addEffect .partialWrite).progress.effects flag =
      (adds stage reply flag || hasEffect d.progress.effects flag) := by
  rw [hasEffect_addEffect]
  refine congrArg (· || hasEffect d.progress.effects flag) ?_
  cases flag with
  | readSideEffects => exact (adds_readSideEffects_of_isWrite hwrite).symm
  | partialWrite => simp [adds, hwrite, hok]
  | indeterminateWrite => simp [adds, hok]

/-- **The effects behind a transfer**: those it adds, and those before it. -/
theorem settled_effects (d : Driver) (stage : Stage) (reply : Reply) (flag : EffectFlag) :
    hasEffect (d.settled stage reply).progress.effects flag =
      (adds stage reply flag || hasEffect d.progress.effects flag) := by
  have hread (h : adds stage reply flag = (reply.status.isOk &&
      decide (EffectFlag.readSideEffects = flag))) (hok : reply.status.isOk = true) :
      hasEffect (d.addEffect .readSideEffects).progress.effects flag =
        (adds stage reply flag || hasEffect d.progress.effects flag) := by
    rw [hasEffect_addEffect, h, hok, Bool.true_and]
  cases hok : reply.status.isOk with
  | true =>
      rw [settled_of_isOk hok]
      cases stage with
      -- a confirmed write is recorded as such, and so is a read that has side effects
      | reset =>
          exact confirmed_write_effects (d := (d.attempt .reset reply).countTransfer) rfl hok flag
      | identity index =>
          have hnone : adds (.identity index) reply flag = false := by cases flag <;> rfl
          rw [hnone, Bool.false_or]
          simp only [passedAt]
          split <;> rfl
      | profile applyStep =>
          have hwrite : (Stage.profile applyStep).isWrite = true := rfl
          have hconfirmed := confirmed_write_effects
            (d := (d.attempt (.profile applyStep) reply).countTransfer) hwrite hok flag
          simp only [passedAt]
          split <;> exact hconfirmed
      | dataLsb index =>
          have hnone : adds (.dataLsb index) reply flag = false := by cases flag <;> rfl
          rw [hnone, Bool.false_or]
          rfl
      | _ => exact hread (by cases flag <;> simp [adds, Stage.isWrite, hok]) hok
  | false =>
      -- a failed transfer is recorded if it may have reached the device all the same
      simp only [settled, hok, Bool.not_false, if_true]
      cases stage with
      | reset => exact failed_write_effects rfl hok _ _ _ _ flag
      | profile applyStep => exact failed_write_effects rfl hok _ _ _ _ flag
      | statusBefore =>
          show hasEffect (Driver.addEffectIf _ _ _).progress.effects flag = _
          rw [hasEffect_addEffectIf]
          refine congrArg (· || hasEffect d.progress.effects flag) ?_
          cases flag <;> simp [adds, Stage.isWrite, hok]
      | _ =>
          cases flag <;> simp only [adds, Stage.isWrite, hok, Bool.false_and, Bool.false_or] <;> rfl

/-! ### Faults -/

/-- A confirmed write that moves on keeps the fault. -/
theorem confirmed_configFault (d : Driver) (trust : AppliedConfigState) (phase : JobPhase) (reg : U8)
    (channel : Channel) (applyStep : U8) :
    ((d.writeConfirmed trust phase reg channel).positionedAtWrite applyStep).configFault =
      d.configFault := rfl

/-- The cause a transfer records as a fault, if it records one. -/
def blames (d : Driver) (stage : Stage) (reply : Reply) : Option Status :=
  match stage with
  | .identity index =>
      let step := identitySteps.get index
      if !reply.status.isOk then some reply.status
      else if reply.word ≠ step.expected then
        some (.error .deviceNotFound step.mismatch reply.word.toNat)
      else none
  | .reset | .profile _ =>
      if !reply.status.isOk && d.mustRecord reply.status then some reply.status else none
  | _ => none

/-- The transfer completes a replay. -/
def completes (d : Driver) (stage : Stage) (reply : Reply) : Bool :=
  match stage with
  | .profile applyStep =>
      reply.status.isOk && profileLength d.config ≤ (applyStep + 1).toNat
  | _ => false

/-- The fault a stage is blamed with. -/
def faultAt (d : Driver) (stage : Stage) (cause : Status) (effects : EffectFlags) : ConfigFault :=
  { valid := true
    cause := cause
    job := d.progress.kind
    phase := (stage.position d.config).1
    registerAddress := (stage.position d.config).2.1
    channel := (stage.position d.config).2.2
    effects := effects }

/-- A transfer that is blamed leaves a fault with its provenance. -/
theorem settled_configFault_of_blames {cause : Status} (h : d.blames stage reply = some cause) :
    (d.settled stage reply).configFault =
      d.faultAt stage cause (d.settled stage reply).progress.effects := by
  have hwrite (hblames : d.blames stage reply =
        if !reply.status.isOk && d.mustRecord reply.status then some reply.status else none) :
      reply.status.isOk = false ∧ d.mustRecord reply.status = true ∧ cause = reply.status := by
    rw [hblames] at h
    split at h
    · next hfailed =>
        rw [Bool.and_eq_true, Bool.not_eq_true'] at hfailed
        exact ⟨hfailed.1, hfailed.2, (Option.some.inj h).symm⟩
    · cases h
  cases stage with
  | reset =>
      obtain ⟨hok, hrecord, rfl⟩ := hwrite rfl
      rw [settled_reset_failed hok, writeFault_configFault]
      exact if_pos hrecord
  | profile applyStep =>
      obtain ⟨hok, hrecord, rfl⟩ := hwrite rfl
      rw [settled_profile_failed hok, writeFault_configFault]
      exact if_pos hrecord
  | identity index =>
      simp only [blames] at h
      split at h
      · next hfailed =>
          obtain rfl := Option.some.inj h
          rw [Bool.not_eq_true'] at hfailed
          simp only [settled, hfailed, Bool.not_false, if_true]
          rfl
      next hok =>
      rw [Bool.not_eq_true', Bool.not_eq_false] at hok
      split at h
      · next hword =>
          obtain rfl := Option.some.inj h
          rw [settled_identity_mismatch hok hword]
          rfl
      · cases h
  | _ => cases h

/-- A transfer that is not blamed keeps the fault, or clears it by completing the replay. -/
theorem settled_configFault_of_not_blames (h : d.blames stage reply = none) :
    (d.settled stage reply).configFault =
      if d.completes stage reply then {} else d.configFault := by
  -- a write that failed without blame was not recorded
  have hwrite (hblames : d.blames stage reply =
        if !reply.status.isOk && d.mustRecord reply.status then some reply.status else none)
      (hok : reply.status.isOk = false) : ¬ d.mustRecord reply.status = true := by
    rw [hblames, hok] at h
    intro hrecord
    rw [hrecord] at h
    cases h
  cases stage with
  | reset =>
      cases hok : reply.status.isOk with
      | true =>
          rw [settled_of_isOk hok]
          rfl
      | false =>
          rw [settled_reset_failed hok, writeFault_configFault]
          exact if_neg (hwrite rfl hok)
  | profile applyStep =>
      cases hok : reply.status.isOk with
      | true =>
          by_cases hlast : profileLength d.config ≤ (applyStep + 1).toNat
          · have hcompletes : d.completes (.profile applyStep) reply = true := by
              rw [completes, hok, decide_eq_true hlast]
              rfl
            rw [settled_profile_last hok (mt (verdict_profile hok).mp (by omega)), if_pos hcompletes]
            rfl
          · have hcompletes : d.completes (.profile applyStep) reply = false := by
              rw [completes, hok, decide_eq_false hlast]
              rfl
            rw [settled_profile ((verdict_profile hok).mpr (by omega)), hcompletes,
              if_neg Bool.false_ne_true, confirmed_configFault]
            rfl
      | false =>
          have hcompletes : d.completes (.profile applyStep) reply = false := by
            rw [completes, hok]
            rfl
          rw [hcompletes, settled_profile_failed hok, writeFault_configFault]
          exact if_neg (hwrite rfl hok)
  | identity index =>
      simp only [blames] at h
      split at h
      · cases h
      next hok =>
      rw [Bool.not_eq_true', Bool.not_eq_false] at hok
      split at h
      · cases h
      next hword =>
      rw [settled_identity ((verdict_identity hok).mpr (not_not.mp hword))]
      rfl
  | _ =>
      unfold settled
      dsimp only
      split <;> rfl

/-! ### The ends of a job on the bus -/

/-- How a transfer ends a job. -/
inductive Ending (d : Driver) : Stage → Reply → TerminalOutcome → Status → Prop
  | failed {stage : Stage} {reply : Reply} (h : reply.status.isOk = false) :
      Ending d stage reply .failed reply.status
  | mismatched {index : Fin 2} {reply : Reply} (hok : reply.status.isOk = true)
      (hword : reply.word ≠ (identitySteps.get index).expected) :
      Ending d (.identity index) reply .failed
        (.error .deviceNotFound (identitySteps.get index).mismatch reply.word.toNat)
  | replayed {applyStep : U8} {reply : Reply} (hok : reply.status.isOk = true)
      (hlast : profileLength d.config ≤ (applyStep + 1).toNat) :
      Ending d (.profile applyStep) reply .success .ok
  | acquired {reply : Reply} (hok : reply.status.isOk = true) :
      Ending d .statusAfter reply .success .ok

/-- These are all the ways. -/
theorem ending_of_verdict {outcome : TerminalOutcome} {status : Status}
    (hv : d.verdict stage reply = some (outcome, status)) : Ending d stage reply outcome status := by
  unfold verdict at hv
  cases hok : reply.status.isOk with
  | false =>
      simp only [hok, Bool.not_false, if_true, Option.some.injEq, Prod.mk.injEq] at hv
      obtain ⟨rfl, rfl⟩ := hv
      exact .failed hok
  | true =>
      simp only [hok, Bool.not_true, Bool.false_eq_true, if_false] at hv
      cases stage with
      | identity index =>
          dsimp only at hv
          split at hv
          · next hword =>
              cases hv
              exact .mismatched hok hword
          · cases hv
      | profile applyStep =>
          dsimp only at hv
          split at hv
          · next hlast =>
              cases hv
              exact .replayed hok (BitVec.le_def.mp hlast)
          · cases hv
      | statusAfter =>
          cases hv
          exact .acquired hok
      | _ => cases hv

/-- A blamed transfer ends its job with the cause, and leaves no trust. -/
theorem Ending.of_blames {outcome : TerminalOutcome} {status cause : Status}
    (h : Ending d stage reply outcome status) (hblames : d.blames stage reply = some cause) :
    cause = status ∧
      d.trustAfter stage reply = if stage.isWrite && stage ≠ .reset then .dirty else .unknown := by
  have hwrite (h' : d.blames stage reply =
        if !reply.status.isOk && d.mustRecord reply.status then some reply.status else none) :
      reply.status.isOk = false ∧ d.mustRecord reply.status = true ∧ cause = reply.status := by
    rw [h'] at hblames
    split at hblames
    · next hfailed =>
        rw [Bool.and_eq_true, Bool.not_eq_true'] at hfailed
        exact ⟨hfailed.1, hfailed.2, (Option.some.inj hblames).symm⟩
    · cases hblames
  cases stage with
  | reset =>
      obtain ⟨hok, hrecord, rfl⟩ := hwrite rfl
      cases h
      exact ⟨rfl, by simp [trustAfter, hrecord, Stage.isWrite]⟩
  | profile applyStep =>
      obtain ⟨hok, hrecord, rfl⟩ := hwrite rfl
      cases h with
      | failed => exact ⟨rfl, by simp [trustAfter, hok, hrecord, Stage.isWrite]⟩
      | replayed hok' => exact absurd (hok.symm.trans hok') Bool.noConfusion
  | identity index =>
      cases h with
      | failed hfailed =>
          simp only [blames, hfailed, Bool.not_false, if_true, Option.some.injEq] at hblames
          exact ⟨hblames.symm, by simp [trustAfter, hfailed, Stage.isWrite]⟩
      | mismatched hok hword =>
          simp only [blames, hok, Bool.not_true, Bool.false_eq_true, if_false, if_pos hword,
            Option.some.injEq] at hblames
          exact ⟨hblames.symm, by simp [trustAfter, hok, hword, Stage.isWrite]⟩
  | _ => cases hblames

end Driver

end Ldc1614
