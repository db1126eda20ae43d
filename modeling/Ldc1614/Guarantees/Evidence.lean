import Ldc1614.Guarantees.Lifetime

/-! # Terminal evidence

What the terminal result of a job says about the hardware, compared with what the job did on the
bus. `Progressing` relates an active job to the transfers it has made since its admission; every
step keeps it or ends the job, and what it says at the end is `Evidence`: the effect flags are exact,
a failure behind a write or at the identity leaves a fault and no trust, and every other failure
leaves the applied state and the fault as they were. -/

namespace Ldc1614

open Cmd Interaction Driver

/-! ### The transfers of a job -/

/-- A write that returned OK. -/
def confirmedWrite (e : Transfer × Reply) : Bool := e.1.isWrite && e.2.status.isOk

/-- A write that failed but may have reached the device. -/
def doubtfulWrite (e : Transfer × Reply) : Bool :=
  e.1.isWrite && !e.2.status.isOk && transferFailureMayHaveReachedDevice e.2.status

/-- An identity read with its word. -/
def PassesIdentity (index : Fin 2) (e : Transfer × Reply) : Prop :=
  e.1 = .read (identitySteps.get index).reg ∧ (identitySteps.get index).Matches e.2

/-- An identity read that failed or returned another value. -/
def FailsIdentity (e : Transfer × Reply) : Prop :=
  ∃ index, e.1 = .read (identitySteps.get index).reg ∧ ¬ (identitySteps.get index).Matches e.2

instance (index : Fin 2) (e : Transfer × Reply) : Decidable (PassesIdentity index e) :=
  inferInstanceAs (Decidable (_ ∧ _))

/-- The trust a job that has written nothing leaves: a passed identity check lifts `UNKNOWN`. -/
def afterIdentity (trust : AppliedConfigState) (transfers : List (Transfer × Reply)) :
    AppliedConfigState :=
  if trust = .unknown ∧ ∃ e ∈ transfers, PassesIdentity deviceCheck e then .dirty else trust

/-- A property of some element, with one more element at the end. -/
theorem any_snoc {α : Type} (p : α → Bool) (past : List α) (e : α) :
    (past ++ [e]).any p = (past.any p || p e) := by
  simp

/-- Other transfers do not change that trust. -/
theorem afterIdentity_snoc {trust : AppliedConfigState} {past : List (Transfer × Reply)}
    {e : Transfer × Reply} (h : ¬ PassesIdentity deviceCheck e) :
    afterIdentity trust (past ++ [e]) = afterIdentity trust past := by
  simp only [afterIdentity, List.mem_append, List.mem_singleton, or_and_right, exists_or,
    exists_eq_left, h, or_false]

/-- A passed identity check lifts `UNKNOWN`. -/
theorem afterIdentity_passed {trust : AppliedConfigState} {past : List (Transfer × Reply)}
    {e : Transfer × Reply} (h : PassesIdentity deviceCheck e) :
    afterIdentity trust (past ++ [e]) =
      if afterIdentity trust past = .unknown then .dirty else afterIdentity trust past := by
  by_cases hunknown : trust = .unknown
  · have hnow : afterIdentity trust (past ++ [e]) = .dirty :=
      if_pos ⟨hunknown, e, by simp, h⟩
    rw [hnow]
    unfold afterIdentity
    split
    · rfl
    · rfl
  · have hkept (transfers : List (Transfer × Reply)) : afterIdentity trust transfers = trust :=
      if_neg fun hboth => hunknown hboth.1
    rw [hkept, hkept, if_neg hunknown]

/-! ### The job under way -/

/-- What an active job says about the transfers it has made since it was admitted in the state
`entry`. -/
structure Progressing (entry : Driver) (past : List (Transfer × Reply)) (d : Driver) : Prop where
  active : d.progress.active = true
  counted : d.progress.completedTransfers.toNat = past.length
  passed : ∀ e ∈ past, e.2.status.isOk = true ∧ ¬ FailsIdentity e
  confirmed : hasEffect d.progress.effects .partialWrite = past.any confirmedWrite
  undoubted : hasEffect d.progress.effects .indeterminateWrite = false
  observed : hasEffect d.progress.effects .readSideEffects =
    (decide (d.progress.kind = .acquire) && !past.isEmpty)
  /-- An acquisition opens with a STATUS read. -/
  opening : d.progress.kind = .acquire → ∀ e ∈ past.head?, e.1 = .read regStatus
  reading : d.progress.kind = .acquire → past.any confirmedWrite = false
  kept : past.any confirmedWrite = false → d.configFault = entry.configFault ∧
    d.appliedState = afterIdentity entry.appliedState past

/-- The evidence in a terminal result: `transfers` are those of the job, `entry` is the state it was
admitted in, and `d` the state in which the result was queued. -/
structure Evidence (entry : Driver) (transfers : List (Transfer × Reply)) (result : OperationResult)
    (d : Driver) : Prop where
  partialWrite : hasEffect result.effects .partialWrite = true ↔
    ∃ e ∈ transfers, e.1.isWrite = true ∧ e.2.status.isOk = true
  indeterminateWrite : hasEffect result.effects .indeterminateWrite = true ↔
    ∃ e ∈ transfers, e.1.isWrite = true ∧ e.2.status.isOk = false ∧
      e.2.status.code ≠ .i2cNackAddr
  readSideEffects : hasEffect result.effects .readSideEffects = true ↔
    result.kind = .acquire ∧ ∃ e, transfers.find? (fun e => e.1 = .read regStatus) = some e ∧
      (e.2.status.isOk = true ∨ e.2.status.code ≠ .i2cNackAddr)
  /-- The result carries the fault of the driver. -/
  carried : result.configFault = d.configFault
  /-- A failure behind a write, or at the identity, leaves no trust and a fault with its cause. -/
  disturbed : result.outcome ≠ .success → result.kind ≠ .acquire →
    hasEffect result.effects .partialWrite = true ∨
      hasEffect result.effects .indeterminateWrite = true ∨ (∃ e ∈ transfers, FailsIdentity e) →
    (d.appliedState = .dirty ∨ d.appliedState = .unknown) ∧
      ((∃ e ∈ transfers, FailsIdentity e) → d.appliedState = .unknown) ∧
      result.configFault.valid = true ∧ result.configFault.job = result.kind ∧
      result.configFault.effects = result.effects ∧ result.configFault.cause = result.status
  /-- Every other failure, and every acquisition, keeps the fault, and keeps the applied state but
  for an identity that was confirmed. -/
  undisturbed : result.kind = .acquire ∨ (result.outcome ≠ .success ∧
      hasEffect result.effects .partialWrite = false ∧
      hasEffect result.effects .indeterminateWrite = false ∧
      ¬ ∃ e ∈ transfers, FailsIdentity e) →
    d.configFault = entry.configFault ∧
      d.appliedState = afterIdentity entry.appliedState transfers
  /-- A complete replay is applied and clears the fault. -/
  replayed : result.outcome = .success → result.kind ≠ .acquire →
    d.appliedState = .appliedSleeping ∧ d.configFault = {}

/-! ### One transfer more -/

section Transfer

variable {entry d : Driver} {past : List (Transfer × Reply)} {stage : Stage} {reply : Reply}
  {nowMs : U64}

/-- An acquisition starts with a STATUS read. -/
theorem Progressing.first (hp : Progressing entry past d) (hrun : d.Running stage)
    (hkind : d.progress.kind = .acquire) (hempty : past = []) : stage = .statusBefore := by
  have hs := hrun.scripted
  rw [hp.counted, hempty, Driver.script, Ldc1614.script, if_pos hkind] at hs
  exact (Option.some.inj hs).symm

/-- The STATUS read of a job that reads it comes first. -/
theorem Progressing.opening_snoc (hp : Progressing entry past d) (hrun : d.Running stage)
    (hkind : d.progress.kind = .acquire) :
    ∀ e ∈ (past ++ [(stage.transfer d.config, reply)]).head?, e.1 = .read regStatus := by
  intro e he
  cases past with
  | nil =>
      obtain rfl : (stage.transfer d.config, reply) = e := by simpa using he
      rw [hp.first hrun hkind rfl]
      rfl
  | cons first rest => exact hp.opening hkind e (by simpa using he)

/-- The identity outcome of a transfer. -/
theorem failsIdentity_iff {config : Config} : FailsIdentity (stage.transfer config, reply) ↔
    ∃ index, stage = .identity index ∧ ¬ (identitySteps.get index).Matches reply := by
  constructor
  · rintro ⟨index, hread, hfails⟩
    exact ⟨index, stage_of_identity hread, hfails⟩
  · rintro ⟨index, rfl, hfails⟩
    exact ⟨index, rfl, hfails⟩

/-- Only the stage of an identity read passes that read. -/
theorem passesIdentity_iff {config : Config} {index : Fin 2} :
    PassesIdentity index (stage.transfer config, reply) ↔
      stage = .identity index ∧ (identitySteps.get index).Matches reply := by
  constructor
  · rintro ⟨hread, hpasses⟩
    exact ⟨stage_of_identity hread, hpasses⟩
  · rintro ⟨rfl, hpasses⟩
    exact ⟨rfl, hpasses⟩

/-- The read side effects behind one transfer more. -/
theorem Progressing.observed_snoc (hp : Progressing entry past d) (hrun : d.Running stage) :
    hasEffect (d.settled stage reply).progress.effects .readSideEffects =
      (decide (d.progress.kind = .acquire) && (!past.isEmpty || reply.status.isOk ||
        transferFailureMayHaveReachedDevice reply.status)) := by
  have hacquire := hrun.isAcquire
  rw [settled_effects, hp.observed]
  by_cases hkind : d.progress.kind = .acquire
  · cases past with
    | nil =>
        obtain rfl := hp.first hrun hkind rfl
        simp [adds, hkind]
    | cons e rest => simp [hkind]
  · rw [decide_eq_false hkind] at hacquire ⊢
    cases stage with
    | reset => rfl
    | profile applyStep => rfl
    | identity index => rfl
    | _ => cases hacquire

/-- The applied state behind a transfer that writes nothing and records nothing. -/
theorem trustAfter_of_read (hwrite : stage.isWrite = false)
    (hfails : ¬ FailsIdentity (stage.transfer d.config, reply))
    (hkept : d.appliedState = afterIdentity entry.appliedState past) :
    d.trustAfter stage reply =
      afterIdentity entry.appliedState (past ++ [(stage.transfer d.config, reply)]) := by
  cases stage with
  | reset => cases hwrite
  | profile applyStep => cases hwrite
  | identity index =>
      have hmatches : (identitySteps.get index).Matches reply := by
        by_contra hmismatch
        exact hfails ⟨index, rfl, hmismatch⟩
      have hpassed : ¬ (!reply.status.isOk ||
          decide (reply.word ≠ (identitySteps.get index).expected)) = true := by
        simp [hmatches.1, hmatches.2]
      rw [trustAfter, if_neg hpassed, hkept]
      by_cases hindex : index = deviceCheck
      · subst hindex
        rw [afterIdentity_passed ⟨rfl, hmatches⟩]
        simp only [true_and]
      · rw [if_neg fun hboth => hindex hboth.1, afterIdentity_snoc]
        intro hpasses
        exact hindex (Stage.identity.inj (passesIdentity_iff.mp hpasses).1)
  | _ =>
      rw [afterIdentity_snoc (fun hpasses => by cases (passesIdentity_iff.mp hpasses).1)]
      exact hkept

/-- A transfer that writes nothing and fails no identity check is not blamed. -/
theorem not_blames_of_read (hwrite : stage.isWrite = false)
    (hfails : ¬ FailsIdentity (stage.transfer d.config, reply)) :
    d.blames stage reply = none ∧ d.completes stage reply = false := by
  cases stage with
  | reset => cases hwrite
  | profile applyStep => cases hwrite
  | identity index =>
      have hmatches : (identitySteps.get index).Matches reply := by
        by_contra hmismatch
        exact hfails ⟨index, rfl, hmismatch⟩
      refine ⟨?_, rfl⟩
      simp [blames, hmatches.1, hmatches.2]
  | _ => exact ⟨rfl, rfl⟩

/-- A job that goes on keeps its evidence. -/
theorem Progressing.settled (hp : Progressing entry past d) (hrun : d.Running stage)
    (hv : d.verdict stage reply = none) :
    Progressing entry (past ++ [(stage.transfer d.config, reply)]) (d.settled stage reply) := by
  have hok := isOk_of_verdict hv
  have hfails : ¬ FailsIdentity (stage.transfer d.config, reply) := by
    intro hfails
    obtain ⟨index, rfl, hmismatch⟩ := failsIdentity_iff.mp hfails
    -- every part of the evidence grows by the transfer that passed
    exact hmismatch ⟨hok, (verdict_identity hok).mp hv⟩
  have hconfirmed : confirmedWrite (stage.transfer d.config, reply) = stage.isWrite := by
    simp [confirmedWrite, hok]
  have hacquire := hrun.isAcquire
  have hreads (hkind : d.progress.kind = .acquire) : stage.isWrite = false := by
    rw [decide_eq_true hkind] at hacquire
    cases stage <;> first | rfl | cases hacquire
  exact
    { active := by rw [settled_active]; exact hp.active
      counted := by
        rw [settled_completedTransfers, hrun.completed_succ, hp.counted, List.length_append]
        rfl
      passed := by
        intro e he
        rcases List.mem_append.mp he with he | he
        · exact hp.passed e he
        · obtain rfl := List.mem_singleton.mp he
          exact ⟨hok, hfails⟩
      confirmed := by
        rw [settled_effects, hp.confirmed, any_snoc, hconfirmed, adds, hok, Bool.and_true,
          Bool.or_comm]
      undoubted := by
        rw [settled_effects, hp.undoubted, adds, hok]
        simp
      observed := by
        rw [hp.observed_snoc hrun, hok, settled_kind]
        simp
      opening := by
        rw [settled_kind]
        exact hp.opening_snoc hrun
      reading := by
        rw [settled_kind]
        intro hkind
        rw [any_snoc, hp.reading hkind, hconfirmed, hreads hkind]
        rfl
      kept := by
        rw [any_snoc, Bool.or_eq_false_iff, hconfirmed]
        rintro ⟨hpast, hwrite⟩
        obtain ⟨hfault, hstate⟩ := hp.kept hpast
        obtain ⟨hblames, hcompletes⟩ := not_blames_of_read hwrite hfails
        rw [settled_configFault_of_not_blames hblames, hcompletes, settled_appliedState]
        exact ⟨hfault, trustAfter_of_read hwrite hfails hstate⟩ }

/-- Only an acquisition reads STATUS, and it does so first. -/
theorem reads_status_iff {transfers : List (Transfer × Reply)} {kind : JobKind}
    (hopening : kind = .acquire → ∀ e ∈ transfers.head?, e.1 = Transfer.read regStatus) :
    (kind = .acquire ∧ ∃ e, transfers.find? (fun e => e.1 = .read regStatus) = some e ∧
      (e.2.status.isOk = true ∨ e.2.status.code ≠ .i2cNackAddr)) ↔
    kind = .acquire ∧ ∃ e, transfers.head? = some e ∧
      (e.2.status.isOk || transferFailureMayHaveReachedDevice e.2.status) = true := by
  refine and_congr_right fun hkind => ?_
  cases transfers with
  | nil => simp
  | cons first rest =>
      have hfirst : first.1 = Transfer.read regStatus := hopening hkind first rfl
      simp [hfirst, transferFailureMayHaveReachedDevice]

/-- Some transfer was a write that succeeded. -/
theorem any_confirmedWrite_iff {transfers : List (Transfer × Reply)} :
    transfers.any confirmedWrite = true ↔
      ∃ e ∈ transfers, e.1.isWrite = true ∧ e.2.status.isOk = true := by
  simp only [List.any_eq_true, confirmedWrite, Bool.and_eq_true]

/-- Some transfer was a write that failed and may have reached the device. -/
theorem any_doubtfulWrite_iff {transfers : List (Transfer × Reply)} :
    transfers.any doubtfulWrite = true ↔
      ∃ e ∈ transfers, e.1.isWrite = true ∧ e.2.status.isOk = false ∧
        e.2.status.code ≠ .i2cNackAddr := by
  simp only [List.any_eq_true, doubtfulWrite, transferFailureMayHaveReachedDevice,
    Bool.and_eq_true, Bool.not_eq_true', bne_iff_ne, and_assoc]

/-- The write flags behind one transfer more. -/
theorem Progressing.partial_snoc (hp : Progressing entry past d) :
    hasEffect (d.settled stage reply).progress.effects .partialWrite =
      (past ++ [(stage.transfer d.config, reply)]).any confirmedWrite := by
  rw [settled_effects, hp.confirmed, any_snoc, Bool.or_comm, adds, confirmedWrite, isWrite_transfer]

/-- The job is marked as indeterminate exactly when a write has been doubtful. -/
theorem Progressing.indeterminate_snoc (hp : Progressing entry past d) :
    hasEffect (d.settled stage reply).progress.effects .indeterminateWrite =
      (past ++ [(stage.transfer d.config, reply)]).any doubtfulWrite := by
  have hpast : past.any doubtfulWrite = false := by
    rw [List.any_eq_false]
    intro e he
    simp [doubtfulWrite, (hp.passed e he).1]
  rw [settled_effects, hp.undoubted, any_snoc, hpast, Bool.or_false, Bool.false_or, adds,
    doubtfulWrite, isWrite_transfer]

/-- Only the last transfer of a job may fail an identity check. -/
theorem Progressing.failsIdentity_snoc (hp : Progressing entry past d) :
    (∃ e ∈ past ++ [(stage.transfer d.config, reply)], FailsIdentity e) ↔
      ∃ index, stage = .identity index ∧ ¬ (identitySteps.get index).Matches reply := by
  have hlast : FailsIdentity (stage.transfer d.config, reply) ↔ _ := failsIdentity_iff
  rw [← hlast]
  constructor
  · rintro ⟨e, he, hfails⟩
    rcases List.mem_append.mp he with he | he
    · exact absurd hfails (hp.passed e he).2
    · exact List.mem_singleton.mp he ▸ hfails
  · intro hfails
    exact ⟨_, by simp, hfails⟩

/-- A failure behind a write, or at the identity, is blamed. -/
theorem Progressing.blames_of_disturbed {outcome : TerminalOutcome} {status : Status}
    (hp : Progressing entry past d) (hrun : d.Running stage) (h : Ending d stage reply outcome status)
    (hfailed : outcome ≠ .success) (hkind : d.progress.kind ≠ .acquire)
    (hdisturbed : hasEffect (d.settled stage reply).progress.effects .partialWrite = true ∨
      hasEffect (d.settled stage reply).progress.effects .indeterminateWrite = true ∨
      ∃ index, stage = .identity index ∧ ¬ (identitySteps.get index).Matches reply) :
    d.blames stage reply = some status := by
  have hacquire := hrun.isAcquire
  rw [decide_eq_false hkind] at hacquire
  cases h with
  | failed hok =>
      have hrecord (hwrite : stage.isWrite = true) : d.mustRecord reply.status = true := by
        rw [settled_effects, settled_effects, hp.undoubted] at hdisturbed
        rcases hdisturbed with hpartial | hindeterminate | ⟨index, rfl, -⟩
        · rw [adds, hok, Bool.and_false, Bool.false_or] at hpartial
          rw [mustRecord, hpartial, Bool.or_true]
        · rw [adds, hwrite, hok] at hindeterminate
          rw [mustRecord, show transferFailureMayHaveReachedDevice reply.status = true by
            simpa using hindeterminate, Bool.true_or]
        · cases hwrite
      cases stage with
      | reset => simp [blames, hok, hrecord rfl]
      | profile applyStep => simp [blames, hok, hrecord rfl]
      | identity index => simp [blames, hok]
      | _ => cases hacquire
  | mismatched hok hword => simp [blames, hok, hword]
  | replayed => exact absurd rfl hfailed
  | acquired => exact absurd rfl hfailed

/-- A failure that is not blamed, and every read of an acquisition, leaves what was there. -/
theorem Progressing.kept_snoc {outcome : TerminalOutcome} {status : Status}
    (hp : Progressing entry past d) (hrun : d.Running stage) (h : Ending d stage reply outcome status)
    (hundisturbed : d.progress.kind = .acquire ∨ (outcome ≠ .success ∧
      hasEffect (d.settled stage reply).progress.effects .partialWrite = false ∧
      hasEffect (d.settled stage reply).progress.effects .indeterminateWrite = false ∧
      ¬ ∃ index, stage = .identity index ∧ ¬ (identitySteps.get index).Matches reply)) :
    (d.settled stage reply).configFault = entry.configFault ∧
      (d.settled stage reply).appliedState =
        afterIdentity entry.appliedState (past ++ [(stage.transfer d.config, reply)]) := by
  have hacquire := hrun.isAcquire
  rcases hundisturbed with hkind | ⟨hfailed, hpartial, hindeterminate, hidentity⟩
  · have hwrite : stage.isWrite = false := by
      rw [decide_eq_true hkind] at hacquire
      cases stage <;> first | rfl | cases hacquire
    have hfails : ¬ FailsIdentity (stage.transfer d.config, reply) := by
      intro hfails
      obtain ⟨index, rfl, -⟩ := failsIdentity_iff.mp hfails
      rw [decide_eq_true hkind] at hacquire
      cases hacquire
    obtain ⟨hfault, hstate⟩ := hp.kept (hp.reading hkind)
    obtain ⟨hblames, hcompletes⟩ := not_blames_of_read hwrite hfails
    rw [settled_configFault_of_not_blames hblames, hcompletes, settled_appliedState]
    exact ⟨hfault, trustAfter_of_read hwrite hfails hstate⟩
  · have hpast : past.any confirmedWrite = false := by
      rw [hp.partial_snoc, any_snoc, Bool.or_eq_false_iff] at hpartial
      exact hpartial.1
    obtain ⟨hfault, hstate⟩ := hp.kept hpast
    cases hwrite : stage.isWrite with
    | false =>
        have hfails : ¬ FailsIdentity (stage.transfer d.config, reply) := by
          rwa [failsIdentity_iff]
        obtain ⟨hblames, hcompletes⟩ := not_blames_of_read hwrite hfails
        rw [settled_configFault_of_not_blames hblames, hcompletes, settled_appliedState]
        exact ⟨hfault, trustAfter_of_read hwrite hfails hstate⟩
    | true =>
        -- the write failed without reaching the device, before any other was confirmed
        have hok : reply.status.isOk = false := by
          cases h with
          | failed hok => exact hok
          | mismatched => cases hwrite
          | replayed => exact absurd rfl hfailed
          | acquired => exact absurd rfl hfailed
        have hrecord : d.mustRecord reply.status = false := by
          rw [settled_effects, adds, hwrite, hok, Bool.or_eq_false_iff] at hindeterminate
          rw [mustRecord, hp.confirmed, hpast, Bool.or_false]
          simpa using hindeterminate.1
        have hread : ¬ PassesIdentity deviceCheck (stage.transfer d.config, reply) := by
          intro hpasses
          exact absurd (hok.symm.trans hpasses.2.1) Bool.noConfusion
        rw [afterIdentity_snoc hread, ← hfault, ← hstate, settled_appliedState]
        cases stage with
        | reset =>
            have hblames : d.blames .reset reply = none := by simp [blames, hrecord]
            rw [settled_configFault_of_not_blames hblames, trustAfter, hok, hrecord]
            exact ⟨rfl, rfl⟩
        | profile applyStep =>
            have hblames : d.blames (.profile applyStep) reply = none := by simp [blames, hrecord]
            have hcompletes : d.completes (.profile applyStep) reply = false := by
              rw [completes, hok, Bool.false_and]
            rw [settled_configFault_of_not_blames hblames, hcompletes, trustAfter, hok, hrecord]
            exact ⟨rfl, rfl⟩
        | _ => cases hwrite

/-- A job that a transfer ends leaves its evidence. -/
theorem Progressing.concluded {outcome : TerminalOutcome} {status : Status}
    (hp : Progressing entry past d) (hrun : d.Running stage)
    (h : Ending d stage reply outcome status) :
    Evidence entry (past ++ [(stage.transfer d.config, reply)])
      ((d.settled stage reply).terminalResult outcome status nowMs)
      ((d.settled stage reply).finishJob outcome status nowMs).1 := by
  have hsame : ((d.settled stage reply).terminalResult outcome status nowMs).kind =
      d.progress.kind := settled_kind
  refine
    { partialWrite := by
        rw [← any_confirmedWrite_iff, ← hp.partial_snoc]
        rfl
      indeterminateWrite := by
        rw [← any_doubtfulWrite_iff, ← hp.indeterminate_snoc]
        rfl
      readSideEffects := ?_
      carried := rfl
      disturbed := ?_
      undisturbed := ?_
      replayed := ?_ }
  · have hread : hasEffect ((d.settled stage reply).terminalResult outcome status nowMs).effects
        .readSideEffects = _ := hp.observed_snoc hrun
    rw [hread, hsame, reads_status_iff fun hkind => hp.opening_snoc hrun hkind, Bool.and_eq_true,
      decide_eq_true_eq]
    refine and_congr_right fun hkind => ?_
    cases past with
    | nil => simp
    | cons first rest => simp [(hp.passed first (by simp)).1]
  -- the transfer that ends a disturbed replay is the one that is blamed
  · intro hfailed hkind hdisturbed
    rw [hsame] at hkind
    rw [hp.failsIdentity_snoc] at hdisturbed ⊢
    have hblames := hp.blames_of_disturbed hrun h hfailed hkind hdisturbed
    have hstate : ((d.settled stage reply).finishJob outcome status nowMs).1.appliedState =
        if stage.isWrite && stage ≠ .reset then .dirty else .unknown := by
      rw [finishJob_appliedState, settled_appliedState, (h.of_blames hblames).2]
    have hfault : ((d.settled stage reply).terminalResult outcome status nowMs).configFault =
        d.faultAt stage status (d.settled stage reply).progress.effects :=
      settled_configFault_of_blames hblames
    refine ⟨?_, ?_, by rw [hfault]; rfl, by rw [hfault, hsame]; rfl, by rw [hfault]; rfl,
      by rw [hfault]; rfl⟩
    · rw [hstate]
      split
      · exact Or.inl rfl
      · exact Or.inr rfl
    · rintro ⟨index, rfl, -⟩
      rw [hstate]
      rfl
  · intro hundisturbed
    rw [hsame, hp.failsIdentity_snoc] at hundisturbed
    exact hp.kept_snoc hrun h hundisturbed
  -- only the last write of a replay ends it with success
  · intro hsuccess hkind
    rw [hsame] at hkind
    have hacquire := hrun.isAcquire
    rw [decide_eq_false hkind] at hacquire
    cases h with
    | failed => cases hsuccess
    | mismatched => cases hsuccess
    | @replayed applyStep _ hok hlast =>
        have hv : d.verdict (.profile applyStep) reply ≠ none :=
          mt (verdict_profile hok).mp (by omega)
        rw [settled_profile_last hok hv]
        exact ⟨rfl, rfl⟩
    | acquired => cases hacquire

/-- A job that is interrupted between its transfers leaves its evidence. -/
theorem Progressing.interrupted {outcome : TerminalOutcome} {cause : Status}
    (hp : Progressing entry past d) (hfailed : outcome ≠ .success) :
    Evidence entry past ((d.recordInterruption cause).terminalResult outcome cause nowMs)
      ((d.recordInterruption cause).finishJob outcome cause nowMs).1 := by
  have heffects : ((d.recordInterruption cause).terminalResult outcome cause nowMs).effects =
      d.progress.effects := congrArg JobProgress.effects (recordInterruption_progress cause)
  have hsame : ((d.recordInterruption cause).terminalResult outcome cause nowMs).kind =
      d.progress.kind := congrArg JobProgress.kind (recordInterruption_progress cause)
  -- a job that is still active has not failed an identity read
  have hidentity : ¬ ∃ e ∈ past, FailsIdentity e := by
    rintro ⟨e, he, hfails⟩
    exact (hp.passed e he).2 hfails
  have hfault : ((d.recordInterruption cause).finishJob outcome cause nowMs).1.configFault =
      _ := recordInterruption_configFault cause
  have hstate : ((d.recordInterruption cause).finishJob outcome cause nowMs).1.appliedState =
      _ := recordInterruption_appliedState cause
  refine
    { partialWrite := by rw [heffects, hp.confirmed, any_confirmedWrite_iff]
      indeterminateWrite := ?_
      readSideEffects := ?_
      carried := rfl
      disturbed := ?_
      undisturbed := ?_
      replayed := fun hsuccess => absurd hsuccess hfailed }
  · rw [heffects, hp.undoubted]
    constructor
    · intro h
      cases h
    · rintro ⟨e, he, -, hok, -⟩
      exact absurd ((hp.passed e he).1.symm.trans hok) Bool.noConfusion
  · rw [heffects, hp.observed, hsame, reads_status_iff hp.opening, Bool.and_eq_true,
      decide_eq_true_eq]
    refine and_congr_right fun hkind => ?_
    cases past with
    | nil => simp
    | cons first rest => simp [(hp.passed first (by simp)).1]
  -- a replay that has written is interrupted with a fault of its own
  · intro _ hkind hdisturbed
    rw [hsame] at hkind
    have hconfirmed : hasEffect d.progress.effects .partialWrite = true := by
      rw [heffects, hp.undoubted] at hdisturbed
      rcases hdisturbed with hpartial | hindeterminate | hfails
      · exact hpartial
      · cases hindeterminate
      · exact absurd hfails hidentity
    have hinterrupted : d.interrupted = true := by
      rw [Driver.interrupted, decide_eq_true hkind, hconfirmed]
      rfl
    rw [hinterrupted] at hfault hstate
    have hcarried : ((d.recordInterruption cause).terminalResult outcome cause nowMs).configFault =
        _ := hfault
    refine ⟨?_, fun hfails => absurd hfails hidentity, by rw [hcarried]; rfl,
      by rw [hcarried, hsame]; rfl, by rw [hcarried, heffects]; rfl, by rw [hcarried]; rfl⟩
    rw [hstate]
    by_cases hunknown : d.appliedState = .unknown
    · rw [if_neg fun hboth => hboth.2 hunknown]
      exact Or.inr hunknown
    · rw [if_pos ⟨rfl, hunknown⟩]
      exact Or.inl rfl
  -- any other job leaves trust and fault as it found them
  · intro hundisturbed
    rw [hsame, heffects] at hundisturbed
    have huninterrupted : d.interrupted = false ∧ past.any confirmedWrite = false := by
      rcases hundisturbed with hkind | ⟨-, hpartial, -⟩
      · exact ⟨by simp [Driver.interrupted, hkind], hp.reading hkind⟩
      · rw [Driver.interrupted, hpartial, Bool.and_false]
        exact ⟨rfl, by rw [← hp.confirmed, hpartial]⟩
    rw [huninterrupted.1] at hfault hstate
    obtain ⟨hkept, htrust⟩ := hp.kept huninterrupted.2
    rw [hfault, hstate]
    exact ⟨hkept, (if_neg (by simp)).trans htrust⟩

end Transfer

/-! ### Every step of the job -/

section Steps

variable {entry d : Driver} {past : List (Transfer × Reply)}

/-- An admitted job has made no transfer. -/
theorem progressing_admitted {kind : JobKind} {channels : ChannelMask}
    {operationId deadlineMs : U64} {maximumTransfers : U8} {start : JobPhase × U8} :
    Progressing (d.admitted kind channels operationId deadlineMs maximumTransfers start) []
      (d.admitted kind channels operationId deadlineMs maximumTransfers start) where
  active := rfl
  counted := rfl
  passed e he := by cases he
  confirmed := show hasEffect 0 .partialWrite = false by decide
  undoubted := show hasEffect 0 .indeterminateWrite = false by decide
  observed := by
    show hasEffect 0 .readSideEffects = _
    rw [List.isEmpty_nil, Bool.not_true, Bool.and_false]
    decide
  opening _ e he := by cases he
  reading _ := rfl
  kept _ := ⟨rfl, (if_neg (by rintro ⟨-, e, he, -⟩; cases he)).symm⟩

/-- Delivering an earlier result does not touch the job. -/
theorem Progressing.delivered (hp : Progressing entry past d)
    (hhead : d.resultHead.toNat < resultCapacity) : Progressing entry past (d.delivered hhead) where
  active := hp.active
  counted := hp.counted
  passed := hp.passed
  confirmed := hp.confirmed
  undoubted := hp.undoubted
  observed := hp.observed
  opening := hp.opening
  reading := hp.reading
  kept := hp.kept

/-- **Progress is a rule of jobs**: a transfer, an interruption and the delivery of an earlier
result keep it, or end the job with its evidence. -/
theorem progressing_rule (entry : Driver) : JobRule (Progressing entry) (Evidence entry) where
  goesOn hp _ hrun hv := hp.settled hrun hv
  ends _ hp _ hrun hending := hp.concluded hrun hending
  interrupted _ hp _ hfailed := hp.interrupted hfailed
  delivered hhead hp := hp.delivered hhead

end Steps

/-! ### The whole job -/

/-- A call that admits a job leaves it without transfers. -/
theorem progressing_of_admitted {t : DriverTransition} (hw : t.before.WellFormed)
    (hv : t.Valid Call.exec) (hadmitted : (account t).admitted ≠ none) :
    Progressing t.after [] t.after := by
  obtain ⟨kind, channels, operationId, deadlineMs, maximumTransfers, start, -, -, -, hafter⟩ :=
    admitted_of_start hw hv hadmitted
  rw [hafter]
  exact progressing_admitted

/-- **Terminal evidence is exact.** Whatever the transport does, and however a job ends, its result
tells what its transfers did: the effect flags, the fault and the trust that is left. -/
theorem terminal_evidence {u : Driver} {ts : List DriverTransition}
    (h : DriverRun Driver.initial ts u) (job : JobLife ts) :
    Evidence job.start.after (jobTransfers (job.mid ++ [job.last])) job.result
      (queuedAt job.last) := by
  obtain ⟨hbefore, hstart, -⟩ := job.around h
  exact (progressing_rule job.start.after).life h job
    (progressing_of_admitted (run_wellFormed wellFormed_initial hbefore) hstart job.admitted)

/-- A bench job: the identity and one profile write are confirmed, the next write times out. -/
def benchJob : List (Call × List Reply) :=
  [(.startInitialize 7 1000, []),
    (.poll 10 3, [replied 0x54 0x49, replied 0x30 0x55, replied 0 0]),
    (.poll 20 1, [failedWith .i2cTimeout])]

/-- The result of the bench job carries both write flags and the fault of the timed-out write; the
profile is left dirty. -/
theorem terminal_evidence_timeout : ∃ ts u, DriverRun Driver.initial ts u ∧ ∃ job : JobLife ts,
    Evidence job.start.after (jobTransfers (job.mid ++ [job.last])) job.result
      (queuedAt job.last) ∧
    job.result.configFault.valid = true ∧ job.result.configFault.cause = job.result.status ∧
    job.result.outcome = .failed ∧ job.result.effects = 6 ∧
    (queuedAt job.last).appliedState = .dirty := by
  have hlength : (runBound benchProfile benchJob).1.length = 3 := by decide +kernel
  obtain ⟨start, poll, last, hts⟩ := List.length_eq_three.mp hlength
  have hbinding : WithinBinding (Driver.initial.boundTo benchProfile)
      (runBound benchProfile benchJob).1 (runBound benchProfile benchJob).2 :=
    withinBinding_runBound (by decide +kernel) (by decide +kernel) (by decide +kernel)
  have hadmitted : (runBound benchProfile benchJob).1.map (fun t => (account t).admitted.isSome) =
      [true, false, false] := by decide +kernel
  have hactive : (runBound benchProfile benchJob).1.map (fun t => t.after.progress.active) =
      [true, true, false] := by decide +kernel
  have hfinished : (runBound benchProfile benchJob).1.map (fun t =>
      (account t).finished.map fun result => (result.outcome, result.kind, result.effects)) =
      [none, none, some (.failed, .initialise, 6)] := by decide +kernel
  have hstate : (runBound benchProfile benchJob).1.map (fun t => (queuedAt t).appliedState) =
      [.unknown, .applying, .dirty] := by decide +kernel
  have hbound := hbinding.run
  obtain ⟨past, bind, config, hpast, -, -⟩ := hbinding.binding
  rw [hts] at hadmitted hactive hfinished hstate hbound
  simp only [List.map_cons, List.map_nil, List.cons.injEq, and_true] at hadmitted hactive
  simp only [List.map_cons, List.map_nil, List.cons.injEq, and_true] at hfinished hstate
  obtain ⟨result, hresult, hfields⟩ := Option.map_eq_some_iff.mp hfinished.2.2
  obtain ⟨houtcome, hkind, heffects⟩ : result.outcome = .failed ∧ result.kind = .initialise ∧
      result.effects = 6 := by simpa using hfields
  let job : JobLife ((past ++ [bind]) ++ [start, poll, last]) :=
    { past := past ++ [bind]
      start := start
      mid := [poll]
      last := last
      later := []
      result := result
      calls := rfl
      admitted := by
        rw [← Option.isSome_iff_ne_none]
        exact hadmitted.1
      active := fun t ht => by
        obtain rfl := List.mem_singleton.mp ht
        exact hactive.2.1
      finished := hresult }
  have hrun := hpast.append hbound
  have hevidence := terminal_evidence hrun job
  have hpartial : hasEffect job.result.effects .partialWrite = true := by
    show hasEffect result.effects .partialWrite = true
    rw [heffects]
    decide
  obtain ⟨-, -, hvalid, -, -, hcause⟩ := hevidence.disturbed
    (show result.outcome ≠ .success by rw [houtcome]; decide)
    (show result.kind ≠ .acquire by rw [hkind]; decide) (Or.inl hpartial)
  exact ⟨_, _, hrun, job, hevidence, hvalid, hcause, houtcome, heffects, hstate.2.2⟩

end Ldc1614
