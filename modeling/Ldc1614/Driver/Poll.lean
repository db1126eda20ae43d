import Ldc1614.Driver.WellFormed

/-! # Polling as one iteration

`poll` nests two loops around the turns of a job. From a running job they are one iteration, `drive`:
issue the transfer of the stage, resume, and go on while the job does and the budget lasts. -/

namespace Ldc1614

open Interaction Interaction.Program

namespace Driver

variable {d d' : Driver} {stage : Stage} {reply : Reply} {nowMs : U64} {transferTimeoutMs : U32}

/-- What `poll` returns for the status a job loop returned. -/
def pollStatus (status : Status) : Status :=
  if !status.isOk && !status.inProgress then status else .ok

/-- Make up to `budget` transfers of the active job. -/
def drive (nowMs : U64) (transferTimeoutMs : U32) : ℕ → Driver → Bus (Driver × Status)
  | 0, d => .done (d, pollInProgress)
  | budget + 1, d =>
      match d.stage with
      | none => .trap
      | some stage =>
          .call ((stage.transfer d.config).request d.config transferTimeoutMs) fun reply =>
            match d.resume stage reply nowMs with
            | .again d => drive nowMs transferTimeoutMs budget d
            | .finish d status _ => .done (d, pollStatus status)

/-- The turns of the inner loop of a job kind. -/
def kindTurn (nowMs : U64) (transferTimeoutMs : U32) (kind : JobKind) : Driver → Bus Turn :=
  if kind = .acquire then acquireTurn nowMs transferTimeoutMs
  else
    initializeOrApplyTurn nowMs transferTimeoutMs (kind = .resetAndReapply)
      (applyOffset kind (kind = .resetAndReapply))

/-- The turn of the kind of the active job is the turn of its stage. -/
theorem kindTurn_eq_turn (d : Driver) :
    kindTurn nowMs transferTimeoutMs d.progress.kind d = turn nowMs transferTimeoutMs d := by
  unfold kindTurn turn
  split <;> rfl

/-- The dispatch on the kind of the job can be made once for all turns. -/
theorem pollJob_eq_turnLoop (d : Driver) (remaining : ℕ) :
    d.pollJob nowMs remaining transferTimeoutMs =
      turnLoop (kindTurn nowMs transferTimeoutMs d.progress.kind) remaining d := by
  unfold pollJob kindTurn
  split <;> rfl

/-- A turn that goes on, or one that ends the job, by its verdict. -/
theorem resume_of_none (hv : d.verdict stage reply = none) :
    d.resume stage reply nowMs = .again (d.settled stage reply) := by
  rw [resume_eq, hv]
  rfl

/-- A transfer that ends the job finishes the turn. -/
theorem resume_of_some {outcome : TerminalOutcome} {status : Status}
    (hv : d.verdict stage reply = some (outcome, status)) :
    d.resume stage reply nowMs = (d.settled stage reply).finishTurn outcome status nowMs := by
  rw [resume_eq, hv]
  rfl

/-- Without a verdict the job goes on from the settled driver. -/
theorem resume_driver_of_none (hv : d.verdict stage reply = none) :
    (d.resume stage reply nowMs).driver = d.settled stage reply := by
  rw [resume_of_none hv]
  rfl

/-- With a verdict the settled driver finishes the job. -/
theorem resume_driver_of_some {outcome : TerminalOutcome} {status : Status}
    (hv : d.verdict stage reply = some (outcome, status)) :
    (d.resume stage reply nowMs).driver =
      ((d.settled stage reply).finishJob outcome status nowMs).1 := by
  rw [resume_of_some hv]
  rfl

/-- The applied state behind a turn: finishing a job does not touch it. -/
theorem resume_appliedState (d : Driver) (stage : Stage) (reply : Reply) (nowMs : U64) :
    (d.resume stage reply nowMs).driver.appliedState = d.trustAfter stage reply := by
  cases hv : d.verdict stage reply with
  | none =>
      rw [resume_driver_of_none hv]
      exact settled_appliedState d stage reply
  | some verdict =>
      rw [resume_driver_of_some hv]
      exact settled_appliedState d stage reply

/-- What `poll` does behind an inner loop. -/
def afterLoop (exit : LoopExit) : Bus (Driver × Status) :=
  .done (exit.driver,
    if !exit.status.isOk && !exit.status.inProgress then exit.status
    else if exit.driver.progress.active then pollInProgress else .ok)

/-- The inner loop of a running job is the iteration of its stages. -/
theorem turnLoop_eq_drive (budget : ℕ) (h : d.Running stage) (hvalid : d.config.Valid) :
    (turnLoop (kindTurn nowMs transferTimeoutMs d.progress.kind) budget d >>= afterLoop) =
      drive nowMs transferTimeoutMs budget d := by
  induction budget generalizing d stage with
  | zero =>
      simp only [turnLoop, pure_eq_done, done_bind, drive, afterLoop, h.active]
      rfl
  | succ budget ih =>
      have hactive : ¬ d.progress.active = false := by simp [h.active]
      simp only [turnLoop, dif_neg hactive, kindTurn_eq_turn,
        turn_eq (wired_of_valid hvalid) h.here, call_bind, done_bind, drive, h.here]
      refine congrArg (Program.call _) (funext fun reply => ?_)
      cases hv : d.verdict stage reply with
      | none =>
          obtain ⟨next, hnext⟩ := h.settled hvalid hv
          have hloop := ih hnext (by rw [settled_config]; exact hvalid)
          rw [settled_kind] at hloop
          simp only [resume_of_none hv, hloop]
      | some verdict =>
          simp only [resume_of_some hv, finishTurn, pure_eq_done, done_bind, afterLoop, pollStatus,
            finishJob_progress]
          rfl

/-- Against every transport, the transfers of a running job trap nowhere. -/
theorem drive_safe (h : d.Running stage) (hvalid : d.config.Valid) (budget : ℕ) :
    (drive nowMs transferTimeoutMs budget d).Safe := by
  induction budget generalizing d stage with
  | zero => exact trivial
  | succ budget ih =>
      simp only [drive, h.here, Program.safe_call]
      intro reply
      cases hv : d.verdict stage reply with
      | none =>
          rw [resume_of_none hv]
          obtain ⟨next, hnext⟩ := h.settled hvalid hv
          exact ih hnext (by rw [settled_config]; exact hvalid)
      | some verdict =>
          rw [resume_of_some hv]
          exact trivial

/-! ### The transfer budget -/

/-- The job has transfers left, and their number does not wrap. -/
theorem Running.transfersLeft (h : d.Running stage) :
    (d.progress.maximumTransfers - d.progress.completedTransfers).toNat =
        d.progress.maximumTransfers.toNat - d.progress.completedTransfers.toNat ∧
      d.progress.completedTransfers.toNat < d.progress.maximumTransfers.toNat := by
  have hlt : d.progress.completedTransfers.toNat < d.progress.maximumTransfers.toNat := by
    rw [h.maximum]
    exact h.lt_length
  exact ⟨BitVec.toNat_sub_of_le (BitVec.le_def.mpr hlt.le), hlt⟩

/-- **The budget is the least of the three bounds**: no narrowing loses anything. -/
theorem Running.transferBudget_toNat (h : d.Running stage) (nowMs : U64) (maxTransfers : U8) :
    (d.transferBudget nowMs maxTransfers).toNat =
      min (min maxTransfers.toNat
          (d.progress.maximumTransfers.toNat - d.progress.completedTransfers.toNat))
        (d.progress.deadlineMs - nowMs).toNat := by
  obtain ⟨hleft, -⟩ := h.transfersLeft
  have hmin : (if maxTransfers < d.progress.maximumTransfers - d.progress.completedTransfers
      then maxTransfers
      else d.progress.maximumTransfers - d.progress.completedTransfers).toNat =
      min maxTransfers.toNat
        (d.progress.maximumTransfers.toNat - d.progress.completedTransfers.toNat) := by
    rw [← hleft]
    split
    · next hlt => exact (min_eq_left (BitVec.lt_def.mp hlt).le).symm
    · next hge => exact (min_eq_right (BitVec.le_def.mp (BitVec.not_lt.mp hge))).symm
  unfold transferBudget
  dsimp only
  generalize (if maxTransfers < d.progress.maximumTransfers - d.progress.completedTransfers
      then maxTransfers
      else d.progress.maximumTransfers - d.progress.completedTransfers) = remaining at hmin ⊢
  have hwidth : (remaining.setWidth 64).toNat = remaining.toNat := by
    rw [BitVec.toNat_setWidth]
    exact Nat.mod_eq_of_lt (lt_of_lt_of_le remaining.isLt (by decide))
  rw [← hmin, ← hwidth]
  split
  · next hlt =>
      have hnat := BitVec.lt_def.mp hlt
      rw [hwidth] at hnat
      rw [BitVec.toNat_setWidth, Nat.mod_eq_of_lt (lt_trans hnat remaining.isLt), hwidth]
      exact (min_eq_right hnat.le).symm
  · next hge =>
      rw [hwidth]
      exact (min_eq_left (by rw [← hwidth]; exact BitVec.le_def.mp (BitVec.not_lt.mp hge))).symm

/-- Before the deadline some time is left. -/
theorem timeLeft_pos {deadlineMs : U64} (h : dueOrPast nowMs deadlineMs = false) :
    0 < (deadlineMs - nowMs).toNat := by
  refine Nat.pos_of_ne_zero fun hzero => ?_
  have heq : deadlineMs = nowMs := by
    have := BitVec.eq_of_toNat_eq (y := 0#64) hzero
    rwa [BitVec.sub_eq_iff_eq_add, BitVec.zero_add] at this
  subst heq
  simp [dueOrPast] at h

/-- The division that shares the time out never has a zero divisor. -/
theorem Running.transferBudget_ne_zero {maxTransfers : U8} (h : d.Running stage)
    (hdue : dueOrPast nowMs d.progress.deadlineMs = false) (hmax : maxTransfers ≠ 0) :
    d.transferBudget nowMs maxTransfers ≠ 0 := by
  intro hzero
  have hbudget := h.transferBudget_toNat nowMs maxTransfers
  have hleft := h.transfersLeft.2
  have htime := timeLeft_pos hdue
  have hpos : 0 < maxTransfers.toNat :=
    Nat.pos_of_ne_zero fun h0 => hmax (BitVec.eq_of_toNat_eq h0)
  rw [hzero] at hbudget
  have : (0 : U8).toNat = 0 := rfl
  omega

/-! ### The branches of poll -/

/-- Without a job there is nothing to do. -/
theorem poll_of_idle {maxTransfers : U8} (h : d.progress.active = false) :
    d.poll nowMs maxTransfers = .done (d, .ok) := by
  simp only [poll, h, Bool.not_false, if_true, pure_eq_done]

/-- An expired job is recorded as interrupted and ends. -/
theorem poll_of_due {maxTransfers : U8} (h : d.progress.active = true)
    (hdue : dueOrPast nowMs d.progress.deadlineMs = true) :
    d.poll nowMs maxTransfers =
      .done ((d.recordInterruption deadlineExpired).finishJob .timedOut deadlineExpired nowMs) := by
  simp only [poll, h, hdue, Bool.not_true, Bool.false_eq_true, if_false, if_true, pure_eq_done]

/-- A poll that may make no transfer changes nothing. -/
theorem poll_zero (h : d.progress.active = true)
    (hdue : dueOrPast nowMs d.progress.deadlineMs = false) :
    d.poll nowMs 0 = .done (d, pollInProgress) := by
  simp only [poll, h, hdue, Bool.not_true, Bool.false_eq_true, if_false, if_true, pure_eq_done]

/-- **Polling a running job iterates its stages** within the budget. -/
theorem poll_eq_drive {maxTransfers : U8} (h : d.Running stage) (hvalid : d.config.Valid)
    (hdue : dueOrPast nowMs d.progress.deadlineMs = false) (hmax : maxTransfers ≠ 0) :
    d.poll nowMs maxTransfers =
      drive nowMs (d.transferTimeoutMs nowMs (d.transferBudget nowMs maxTransfers))
        (d.transferBudget nowMs maxTransfers).toNat d := by
  have hbudget := h.transferBudget_ne_zero hdue hmax
  have hpos : 0 < (d.transferBudget nowMs maxTransfers).toNat :=
    Nat.pos_of_ne_zero fun hzero => hbudget (BitVec.eq_of_toNat_eq hzero)
  rw [← turnLoop_eq_drive _ h hvalid]
  simp only [poll, h.active, hdue, hmax, hbudget, pollLoop, hpos, pollJob_eq_turnLoop,
    Bool.not_true, Bool.false_eq_true, if_false, decide_true, Bool.and_self, if_true]
  refine congrArg _ (funext fun exit => ?_)
  unfold afterLoop
  split <;> rfl

/-- **Polling traps nowhere**, whatever the transport does. -/
theorem WellFormed.poll_safe (hw : d.WellFormed) (nowMs : U64) (maxTransfers : U8) :
    (d.poll nowMs maxTransfers).Safe := by
  cases hactive : d.progress.active with
  | false =>
      rw [poll_of_idle hactive]
      exact trivial
  | true =>
      obtain ⟨stage, hrun⟩ := hw.running hactive
      cases hdue : dueOrPast nowMs d.progress.deadlineMs with
      | true =>
          rw [poll_of_due hactive hdue]
          exact trivial
      | false =>
          by_cases hmax : maxTransfers = 0
          · rw [hmax, poll_zero hactive hdue]
            exact trivial
          · rw [poll_eq_drive hrun (hw.validProfile hrun.bound) hdue hmax]
            exact drive_safe hrun (hw.validProfile hrun.bound) _

end Driver

end Ldc1614
