import Ldc1614.Guarantees.IdentityFence
import Ldc1614.Guarantees.Lifetime
import Ldc1614.Guarantees.Trust

/-! # Consistency of trust, fault and job

The applied state, the fault record and the active job are separate fields, written in different
places. This file says what they tell about one another: when a replay is under way, that a trusted
profile has no fault, that a fault goes away only with a completed replay or with the binding, and
that trust is never lost without one. -/

namespace Ldc1614

open Cmd Interaction Driver

/-! ### A replay under way -/

/-- A profile write of the active job returned OK. -/
def ReplaysWrite (mark : Mark) : Prop :=
  ∃ reg value reply, mark.jobTransfer = some (.write reg value, reply) ∧ reg ≠ regResetDev ∧
    reply.status.isOk = true

/-- The job under way has confirmed a profile write: no job was admitted since. -/
def ReplayBegun : List Mark → Prop := Since (fun _ mark => ReplaysWrite mark) Admits

/-- What the applied state says about the fault and about the job, whose history this is. -/
structure Consistent (past : List Mark) (d : Driver) : Prop where
  replaying : d.appliedState = .applying ↔
    d.progress.active = true ∧ d.progress.kind ≠ .acquire ∧ ReplayBegun past
  faultless : d.appliedState.claim ≠ none → d.configFault.valid = false

section Steps

variable {d d' : Driver} {past : List Mark} {mark : Mark} {stage : Stage} {reply : Reply}
  {call : Call} {output : Output} {event : Event}

/-- A job transfer replays a write when its stage is a profile write. -/
theorem replaysWrite_job {nowMs : U64} {maxTransfers : U8} {timeoutMs : U32}
    (hrun : d.Running stage) :
    ReplaysWrite (.bus (.poll nowMs maxTransfers)
        ((stage.transfer d.config).request d.config timeoutMs, reply)) ↔
      (∃ applyStep, stage = .profile applyStep) ∧ reply.status.isOk = true := by
  simp only [ReplaysWrite, jobTransfer_stage, Option.some.injEq, Prod.mk.injEq]
  constructor
  · rintro ⟨reg, value, _, ⟨hwrite, rfl⟩, hreg, hok⟩
    rcases stage_of_write hwrite with ⟨-, hreset, -⟩ | ⟨applyStep, rfl, -, -⟩
    · exact absurd hreset hreg
    · exact ⟨⟨applyStep, rfl⟩, hok⟩
  · rintro ⟨⟨applyStep, rfl⟩, hok⟩
    exact ⟨_, _, reply, ⟨rfl, rfl⟩, (replay_layout hrun.profile_lt).notReset, hok⟩

/-- Exchanges outside a job and returns replay nothing. -/
theorem not_replaysWrite (h : mark.jobTransfer = none) : ¬ ReplaysWrite mark := by
  rintro ⟨_, _, _, hmark, -⟩
  rw [h] at hmark
  cases hmark

/-- A mark that neither replays a write nor admits a job keeps what the job has begun. -/
theorem replayBegun_snoc (hwrite : ¬ ReplaysWrite mark) (hadmits : ¬ Admits mark) :
    ReplayBegun (past ++ [mark]) ↔ ReplayBegun past := by
  rw [ReplayBegun, since_snoc]
  simp [hwrite, hadmits]

/-- An idle driver that is not replaying, and has no fault where it claims something. -/
theorem Consistent.of_idle (hidle : d'.progress.active = false)
    (hstate : d'.appliedState ≠ .applying)
    (hfault : d'.appliedState.claim ≠ none → d'.configFault.valid = false) :
    Consistent past d' where
  replaying := by simp [hidle, hstate]
  faultless := hfault

/-- A transfer that claims something, and is neither blamed nor the last of a replay, has found the
trust it leaves. -/
theorem trustAfter_of_claim (hblames : d.blames stage reply = none)
    (hcompletes : d.completes stage reply = false)
    (hclaim : (d.trustAfter stage reply).claim ≠ none) :
    d.trustAfter stage reply = d.appliedState := by
  cases stage with
  | reset =>
      simp only [trustAfter] at hclaim ⊢
      split at hclaim
      · exact absurd rfl hclaim
      · next hkept => rw [if_neg hkept]
  | identity index =>
      simp only [trustAfter] at hclaim ⊢
      split at hclaim
      · exact absurd rfl hclaim
      next hmatch =>
      split at hclaim
      · exact absurd rfl hclaim
      next hknown => rw [if_neg hmatch, if_neg hknown]
  | profile applyStep =>
      cases hok : reply.status.isOk with
      | true =>
          -- a confirmed write that is not the last leaves the replay under way
          simp only [completes, hok, Bool.true_and, decide_eq_false_iff_not] at hcompletes
          simp only [trustAfter, hok, if_true, if_neg hcompletes] at hclaim
          exact absurd rfl hclaim
      | false =>
          simp only [blames, hok, Bool.not_false, Bool.true_and] at hblames
          have hrecord : ¬ d.mustRecord reply.status = true := by
            intro hrecord
            simp [hrecord] at hblames
          simp only [trustAfter, hok, Bool.false_eq_true, if_false, if_neg hrecord]
  | _ => rfl

/-- What is blamed leaves no trust. -/
theorem claim_of_blames {cause : Status} (hblames : d.blames stage reply = some cause) :
    (d.trustAfter stage reply).claim = none := by
  cases hv : d.verdict stage reply with
  | none =>
      -- a job goes on only behind a transfer that nothing is blamed for
      have hok := isOk_of_verdict hv
      cases stage with
      | identity index =>
          have hword := (verdict_identity hok).mp hv
          simp [blames, hok, hword] at hblames
      | _ => simp [blames, hok] at hblames
  | some verdict =>
      rw [((ending_of_verdict hv).of_blames hblames).2]
      split <;> rfl

/-- Behind a transfer, what is claimed has no fault. -/
theorem Consistent.faultless_settled (hc : Consistent past d) :
    (d.settled stage reply).appliedState.claim ≠ none →
      (d.settled stage reply).configFault.valid = false := by
  intro hclaim
  rw [settled_appliedState] at hclaim
  cases hblames : d.blames stage reply with
  | some cause => exact absurd (claim_of_blames hblames) hclaim
  | none =>
      rw [settled_configFault_of_not_blames hblames]
      cases hcompletes : d.completes stage reply with
      | true => rfl
      | false =>
          rw [trustAfter_of_claim hblames hcompletes hclaim] at hclaim
          exact hc.faultless hclaim

/-- A job that goes on behind a profile write is replaying. -/
theorem applying_of_profile {applyStep : U8} (hv : d.verdict (.profile applyStep) reply = none) :
    (d.settled (.profile applyStep) reply).appliedState = .applying := by
  have hok := isOk_of_verdict hv
  have hmore := Nat.not_le.mpr ((verdict_profile hok).mp hv)
  rw [settled_appliedState, trustAfter, if_pos hok, if_neg hmore]

/-- A job that goes on behind another transfer is replaying if it was. -/
theorem applying_settled_iff (hrun : d.Running stage) (hv : d.verdict stage reply = none)
    (hstage : ∀ applyStep, stage ≠ .profile applyStep) :
    (d.settled stage reply).appliedState = .applying ↔ d.appliedState = .applying := by
  have htrusted := hrun.trusted
  cases stage with
  | profile applyStep => exact absurd rfl (hstage applyStep)
  | reset =>
      have hnot : d.appliedState ≠ .applying := htrusted
      rw [settled_appliedState, trustAfter, isOk_of_verdict hv]
      simp [hnot]
  | identity index =>
      have hnot : d.appliedState ≠ .applying := htrusted
      rw [settled_identity_appliedState hv]
      split
      · simp [hnot]
      · exact Iff.rfl
  | _ => rw [settled_appliedState_of_isAcquire rfl]

/-- A transfer of a job keeps the fields consistent. -/
theorem Consistent.job {nowMs : U64} {maxTransfers : U8} {timeoutMs : U32}
    (hc : Consistent past d) (hrun : d.Running stage) :
    Consistent (past ++ [.bus (.poll nowMs maxTransfers)
      ((stage.transfer d.config).request d.config timeoutMs, reply)])
      (d.resume stage reply nowMs).driver := by
  have hfault : (d.settled stage reply).appliedState.claim ≠ none →
      (d.settled stage reply).configFault.valid = false := hc.faultless_settled
  cases hv : d.verdict stage reply with
  | some verdict =>
      rw [resume_driver_of_some hv]
      exact .of_idle rfl (hrun.settled_not_applying (by simp [hv])) hfault
  | none =>
      rw [resume_driver_of_none hv]
      refine ⟨?_, hfault⟩
      rw [settled_active, settled_kind, ReplayBegun, since_snoc, replaysWrite_job hrun]
      have hbefore := hc.replaying
      simp only [hrun.active, true_and] at hbefore ⊢
      by_cases hprofile : ∃ applyStep, stage = .profile applyStep
      · obtain ⟨applyStep, rfl⟩ := hprofile
        have hkind : d.progress.kind ≠ .acquire := by
          intro hkind
          have hacquire := hrun.isAcquire
          rw [decide_eq_true hkind] at hacquire
          cases hacquire
        simp [applying_of_profile hv, hkind, isOk_of_verdict hv]
      · -- no other stage begins a replay, and the mark admits no job
        rw [applying_settled_iff hrun hv (not_exists.mp hprofile), hbefore]
        simp only [hprofile, false_and, false_or, not_admits_bus, not_false_eq_true, and_true]
        rfl

/-- Whatever leaves trust, fault and job alone keeps the fields consistent. -/
theorem Consistent.kept (hc : Consistent past d) (hwrite : ¬ ReplaysWrite mark)
    (hadmits : ¬ Admits mark) (hstate : d'.appliedState = d.appliedState)
    (hfault : d'.configFault = d.configFault) (hactive : d'.progress.active = d.progress.active)
    (hkind : d'.progress.kind = d.progress.kind) : Consistent (past ++ [mark]) d' where
  replaying := by
    rw [hstate, hactive, hkind, replayBegun_snoc hwrite hadmits]
    exact hc.replaying
  faultless := by
    rw [hstate, hfault]
    exact hc.faultless

/-- Nothing is claimed, and the fault says why. -/
structure Revoked (d : Driver) : Prop where
  untrusted : d.appliedState = .dirty ∨ d.appliedState = .unknown
  recorded : d.configFault.valid = true

/-- An idle driver whose claim is revoked. -/
theorem Revoked.consistent (h : Revoked d) (hidle : d.progress.active = false) :
    Consistent past d := by
  rcases h.untrusted with hstate | hstate
  · exact .of_idle hidle (by simp [hstate]) fun hclaim => absurd (by rw [hstate]; rfl) hclaim
  · exact .of_idle hidle (by simp [hstate]) fun hclaim => absurd (by rw [hstate]; rfl) hclaim

/-- A diagnostic write revokes the trust, or has not reached the device. -/
theorem diagnosticWritten_revokes (reg : U8) (status : Status) :
    Revoked (d.diagnosticWritten reg status).1 ∨ (d.diagnosticWritten reg status).1 = d := by
  rw [diagnosticWritten_eq]
  split
  · refine Or.inl ⟨?_, rfl⟩
    dsimp only [recordConfigFault]
    split
    · exact Or.inr rfl
    · exact Or.inl rfl
  · exact Or.inr rfl

/-- A write of CONFIG establishes its trust, revokes it, or has not reached the device. -/
theorem configWritten_cases (trust : AppliedConfigState) (status : Status) :
    (d.configWritten trust status).1 = { d with appliedState := trust } ∨
      Revoked (d.configWritten trust status).1 ∨ (d.configWritten trust status).1 = d := by
  rw [configWritten_eq]
  cases status.isOk with
  | true => exact Or.inl rfl
  | false =>
      cases transferFailureMayHaveReachedDevice status with
      | true => exact Or.inr (Or.inl ⟨Or.inl rfl, rfl⟩)
      | false => exact Or.inr (Or.inr rfl)

/-- An exchange outside a job keeps the fields consistent. -/
theorem Consistent.direct (hc : Consistent past d)
    (h : d.Direct call event d') : Consistent (past ++ [.bus call event]) d' := by
  have hwrite := not_replaysWrite h.jobTransfer_eq_none
  have hactive : d'.progress.active = d.progress.active :=
    (congrArg (fun e : Driver => e.progress.active) h.frame_eq :)
  cases h with
  | observed => exact hc.kept hwrite not_admits_bus rfl rfl rfl rfl
  | read => exact hc.kept hwrite not_admits_bus rfl rfl rfl rfl
  | @slept reply hbound hidle hstate | @woken reply hbound hidle hstate =>
      have hfault : d.configFault.valid = false := by
        refine hc.faultless ?_
        rw [hstate]
        exact Option.some_ne_none _
      rcases configWritten_cases (d := d.tracked reply.status) _ reply.status with
        hnew | hrevoked | hsame
      · rw [hnew]
        exact .of_idle hidle AppliedConfigState.noConfusion fun _ => hfault
      · exact hrevoked.consistent (hactive.trans hidle)
      · rw [hsame]
        exact hc.kept hwrite not_admits_bus rfl rfl rfl rfl
  | @wrote reg value reply hbound hidle =>
      rcases diagnosticWritten_revokes (d := d.tracked reply.status) reg reply.status with
        hrevoked | hsame
      · exact hrevoked.consistent (hactive.trans hidle)
      · rw [hsame]
        exact hc.kept hwrite not_admits_bus rfl rfl rfl rfl

/-- Ending a job between its transfers keeps the fields consistent. -/
theorem Consistent.interrupted {outcome : TerminalOutcome} {cause : Status} {nowMs : U64}
    (hc : Consistent past d) (hrun : d.Running stage) (mark : Mark) :
    Consistent (past ++ [mark])
      ((d.recordInterruption cause).finishJob outcome cause nowMs).1 := by
  refine .of_idle rfl (hrun.recordInterruption_not_applying cause) ?_
  rw [finishJob_appliedState, finishJob_configFault, recordInterruption_appliedState,
    recordInterruption_configFault]
  by_cases hinterrupted : d.interrupted = true
  · -- an interrupted replay is dirty, or its identity is unknown
    by_cases hunknown : d.appliedState = .unknown
    · simp [hinterrupted, hunknown, AppliedConfigState.claim]
    · simp [hinterrupted, hunknown, AppliedConfigState.claim]
  · simpa [hinterrupted] using hc.faultless

/-- Returning from a call keeps the fields consistent. -/
theorem Consistent.quiet (hc : Consistent past d) (hw : d.WellFormed)
    (h : d.Quiet call output d') : Consistent (past ++ [.ret call output]) d' := by
  have hwrite : ¬ ReplaysWrite (.ret call output) := not_replaysWrite rfl
  cases h with
  | kept hkept => exact hc.kept hwrite (not_admits_of_kept hkept) rfl rfl rfl rfl
  | bound => exact .of_idle rfl AppliedConfigState.noConfusion fun hclaim => absurd rfl hclaim
  | ended => exact .of_idle rfl AppliedConfigState.noConfusion fun hclaim => absurd rfl hclaim
  | updated config hu =>
      refine .of_idle hu.idle ?_ ?_
      · dsimp only [retain]
        split_ifs
        · exact AppliedConfigState.noConfusion
        · exact (hw.idle hu.idle).2
      · dsimp only [retain]
        split_ifs with hknown
        · exact fun hclaim => absurd rfl hclaim
        · rw [not_not.mp hknown]
          exact fun hclaim => absurd rfl hclaim
  | started hstarts hadm hstart =>
      refine ⟨?_, hc.faultless⟩
      -- the admission begins a new job
      have hadmits : Admits (.ret call (.status scheduled)) := by
        refine ⟨call, _, rfl, ?_, rfl⟩
        cases hstarts <;> rfl
      have hidle : d.appliedState ≠ .applying := (hw.idle hadm.idle).2
      have hnone : ¬ ReplayBegun (past ++ [.ret call (.status scheduled)]) := by
        rw [ReplayBegun, since_snoc]
        rintro (hnow | ⟨-, hne⟩)
        · exact hwrite hnow
        · exact hne hadmits
      simpa [hnone, admitted, clearActiveJob] using hidle
  | expired nowMs maxTransfers hactive =>
      obtain ⟨stage, hrun⟩ := hw.running hactive
      exact hc.interrupted hrun _
  | cancelled hactive =>
      obtain ⟨stage, hrun⟩ := hw.running hactive
      exact hc.interrupted hrun _
  | taken hpos hhead =>
      refine hc.kept hwrite ?_ rfl rfl rfl rfl
      rintro ⟨_, _, hmark, hstart, -⟩
      cases hmark
      cases hstart
  | invalidated reason hidle =>
      exact .of_idle hidle AppliedConfigState.noConfusion fun hclaim => absurd rfl hclaim

/-- Every step keeps the fields consistent. -/
theorem Consistent.step (hc : Consistent past d) (hw : d.WellFormed) (h : Step d mark d') :
    Consistent (past ++ [mark]) d' := by
  cases h with
  | job hrun hdue => exact hc.job hrun
  | direct hdirect => exact hc.direct hdirect
  | quiet hquiet => exact hc.quiet hw hquiet

end Steps

/-- The fields are consistent in every state a run passes through. -/
theorem consistent_of_path {past : List Mark} {d : Driver} (h : Path Step Driver.initial past d) :
    Consistent past d := by
  have key : Consistent past d ∧ d.WellFormed := by
    refine h.history (fun past d => Consistent past d ∧ d.WellFormed) [] ⟨?_, wellFormed_initial⟩ ?_
    · exact .of_idle rfl AppliedConfigState.noConfusion fun hclaim => absurd rfl hclaim
    · intro past m mark m' hm hstep
      exact ⟨hm.1.step hm.2 hstep, hstep.wellFormed hm.2⟩
  exact key.1

/-- **Trust, fault and job are consistent** in every state a run passes through, also between the
transfers of one `poll`: the applied state is `APPLYING` exactly while a replay is active that has
confirmed a profile write; an active acquisition has a trusted active profile; and a profile that is
claimed to be applied has no fault. -/
theorem trust_fault_job_consistent {past : List Mark} {d : Driver}
    (h : Path Step Driver.initial past d) :
    (d.appliedState = .applying ↔
      d.progress.active = true ∧ d.progress.kind ≠ .acquire ∧ ReplayBegun past) ∧
    (d.progress.active = true → d.progress.kind = .acquire → d.appliedState = .appliedActive) ∧
    (d.appliedState = .appliedSleeping ∨ d.appliedState = .appliedActive →
      d.configFault.valid = false) := by
  have hc := consistent_of_path h
  refine ⟨hc.replaying, ?_, ?_⟩
  · intro hactive hkind
    obtain ⟨stage, hrun⟩ := (Visited.wellFormed ⟨past, h⟩).running hactive
    have hacquire := hrun.isAcquire
    rw [decide_eq_true hkind] at hacquire
    exact (Stage.trusts_of_isAcquire hacquire).mp hrun.trusted
  · rintro (hstate | hstate)
    · exact hc.faultless (by rw [hstate]; exact Option.some_ne_none _)
    · exact hc.faultless (by rw [hstate]; exact Option.some_ne_none _)

/-- An initialization under way: the identity and one profile write are confirmed. -/
def benchReplaying : List (Call × List Reply) :=
  benchWake.take 2 ++ [(.poll 10 3, [replied 0x54 0x49, replied 0x30 0x55, replied 0 0])]

/-- Three transfers into an initialization a profile write is confirmed and the state says so. -/
theorem trust_fault_job_consistent_replaying : ∃ ts u, DriverRun Driver.initial ts u ∧
    u.appliedState = .applying ∧ ReplayBegun (timeline ts) := by
  have hstate : (runOf benchReplaying).2.appliedState = .applying := by decide +kernel
  have hrun := run_runOf benchReplaying
  have hconsistent := trust_fault_job_consistent (run_path wellFormed_initial hrun)
  exact ⟨_, _, hrun, hstate, (hconsistent.1.mp hstate).2.2⟩

/-! ### The end of a fault -/

/-- The kinds of job that replay the profile. -/
def JobKind.replays : JobKind → Bool
  | .initialise | .applyConfig | .resetAndReapply => true
  | .none | .acquire => false

section Fault

variable {d d' : Driver} {mark : Mark} {stage : Stage} {reply : Reply} {t : DriverTransition}

/-- Only a replay writes the profile. -/
theorem replays_of_profile {applyStep : U8} (h : d.Running (.profile applyStep)) :
    d.progress.kind.replays = true := by
  have hkind := h.kind
  have hacquire := h.isAcquire
  cases hd : d.progress.kind with
  | none => exact absurd hd hkind
  | acquire =>
      rw [decide_eq_true hd] at hacquire
      cases hacquire
  | _ => rfl

/-- **A fault is a matter of replays**: a job keeps it until it completes the profile. -/
theorem fault_rule : JobRule (fun _ d => d.configFault.valid = true) (fun _ result d =>
    d.configFault.valid = true ∨ result.outcome = .success ∧ result.kind.replays = true) where
  goesOn {past d stage reply} hfault hw hrun hv := by
    cases hblames : d.blames stage reply with
    | some cause =>
        rw [settled_configFault_of_blames hblames]
        rfl
    | none =>
        rw [settled_configFault_of_not_blames hblames]
        have hcompletes : d.completes stage reply = false := by
          cases stage with
          | profile applyStep =>
              have hmore := (verdict_profile (isOk_of_verdict hv)).mp hv
              simpa [completes, isOk_of_verdict hv] using hmore
          | _ => rfl
        simpa [hcompletes] using hfault
  ends {past d stage reply outcome status} nowMs hfault hw hrun hending := by
    rw [finishJob_configFault]
    cases hblames : d.blames stage reply with
    | some cause =>
        rw [settled_configFault_of_blames hblames]
        exact Or.inl rfl
    | none =>
        rw [settled_configFault_of_not_blames hblames]
        cases hcompletes : d.completes stage reply with
        | false => exact Or.inl hfault
        | true =>
            -- only the last write of a profile completes it
            cases hending with
            | replayed hok hlast =>
                refine Or.inr ⟨rfl, ?_⟩
                rw [terminalResult, settled_kind]
                exact replays_of_profile hrun
            | failed hfailed =>
                cases stage with
                | profile applyStep => simp [completes, hfailed] at hcompletes
                | _ => cases hcompletes
            | _ => cases hcompletes
  interrupted {past d stage outcome cause} nowMs hfault hrun hfailed := by
    refine Or.inl ?_
    rw [finishJob_configFault, recordInterruption_configFault]
    split
    · rfl
    · exact hfault
  delivered _ hfault := hfault

/-- Only polling clears a fault within a binding. -/
theorem Step.keeps_fault (h : Step d mark d')
    (hpoll : ∀ nowMs maxTransfers, mark.call ≠ .poll nowMs maxTransfers)
    (hkept : mark.rebinds = false) (hfault : d.configFault.valid = true) :
    d'.configFault.valid = true := by
  cases h with
  | job hrun hdue => exact absurd rfl (hpoll _ _)
  | direct hdirect =>
      cases hdirect with
      | observed => exact hfault
      | read => exact hfault
      | @slept reply | @woken reply =>
          rcases configWritten_cases (d := d.tracked reply.status) _ reply.status with
            hnew | hrevoked | hsame
          · rw [hnew]
            exact hfault
          · exact hrevoked.recorded
          · rw [hsame]
            exact hfault
      | @wrote reg value reply =>
          rcases diagnosticWritten_revokes (d := d.tracked reply.status) reg reply.status with
            hrevoked | hsame
          · exact hrevoked.recorded
          · rw [hsame]
            exact hfault
  | quiet hquiet =>
      cases hquiet with
      | bound => cases hkept
      | ended => cases hkept
      | expired => exact absurd rfl (hpoll _ _)
      -- an interruption records a fault of its own, or leaves the one there is
      | cancelled =>
          rw [finishJob_configFault, recordInterruption_configFault]
          split
          · rfl
          · exact hfault
      | invalidated => rfl
      | _ => exact hfault

/-- **A fault is cleared in three ways only**: by the last write of a replay, whose job then
succeeds, by a new binding, or by the end of the binding. -/
theorem fault_cleared {u : Driver} {ts us : List DriverTransition}
    (h : DriverRun Driver.initial (ts ++ t :: us) u) (hbefore : t.before.configFault.valid = true)
    (hafter : t.after.configFault.valid = false) :
    t.call.rebinds t.output = true ∨ ∃ nowMs maxTransfers result,
      t.call = .poll nowMs maxTransfers ∧ t.after.progress.active = false ∧
      t.after.queue = t.before.queue ++ [result] ∧ result.outcome = .success ∧
      result.kind.replays = true := by
  obtain ⟨hpast, hvalid, -⟩ := Run.around h
  have hw := run_wellFormed wellFormed_initial hpast
  have hpath := transition_path t hw hvalid
  have hlost : ¬ t.after.configFault.valid = true := by simp [hafter]
  by_cases hpoll : ∃ nowMs maxTransfers, t.call = .poll nowMs maxTransfers
  · obtain ⟨nowMs, maxTransfers, hcall⟩ := hpoll
    refine Or.inr ⟨nowMs, maxTransfers, ?_⟩
    have hplain : nestedMarks t = [] := by rw [nestedMarks, hcall]
    have hconcludes : ∀ mark ∈ marks t, mark.call.concludes = true := by
      intro mark hmark
      rw [(call_of_mark hplain hmark).1, hcall]
      rfl
    cases hactive : t.before.progress.active with
    | true =>
        -- the job of the poll has gone on, or it has ended
        rcases @JobRule.concluding _ _ [] _ _ _ fault_rule hactive hbefore hw hpath hconcludes with
          ⟨-, hkept, -⟩ | ⟨hidle, result, hqueue, hended⟩
        · exact absurd hkept hlost
        · exact ⟨result, hcall, hidle, hqueue, hended.resolve_left hlost⟩
    | false =>
        have hsame : t.after = t.before := by
          generalize marks t = labels at hpath hconcludes
          generalize t.after = after at hpath ⊢
          induction hpath with
          | nil => rfl
          | snoc _ hstep ih =>
              have hm := ih fun mark hmark => hconcludes mark (List.mem_append_left _ hmark)
              rw [hm] at hstep
              exact (hstep.eq_of_idle hactive (hconcludes _ (by simp))).1
        rw [hsame] at hlost
        exact absurd hbefore hlost
  · refine Or.inl ?_
    by_contra hrebinds
    rw [Bool.not_eq_true] at hrebinds
    refine hlost ?_
    have hmarks : ∀ mark ∈ marks t,
        (∀ nowMs maxTransfers, mark.call ≠ .poll nowMs maxTransfers) ∧ mark.rebinds = false := by
      intro mark hmark
      rcases mem_marks hmark with rfl | ⟨event, rfl⟩ | rfl
      · exact ⟨fun _ _ => Call.noConfusion, rfl⟩
      · exact ⟨fun nowMs maxTransfers hcall => hpoll ⟨nowMs, maxTransfers, hcall⟩, rfl⟩
      · exact ⟨fun nowMs maxTransfers hcall => hpoll ⟨nowMs, maxTransfers, hcall⟩, hrebinds⟩
    exact (hpath.restrict hmarks).invariant (I := fun m => m.configFault.valid = true) hbefore
      fun _ _ _ hm hstep => hstep.1.keeps_fault hstep.2.1 hstep.2.2 hm

/-- The awake bench device does not answer a sleep, and the next initialization recovers it. -/
def benchRecovery : List (Call × List Reply) :=
  [(.takeResult, []), (.sleep, [failedWith .i2cTimeout]), (.startInitialize 8 2000, []),
    (.poll 1010 15, replied 0x54 0x49 :: replied 0x30 0x55 :: List.replicate 13 (replied 0 0))]

/-- The initialization behind it succeeds and clears the fault. -/
theorem fault_cleared_recovery : ∃ ts t u, DriverRun Driver.initial (ts ++ [t]) u ∧
    t.before.configFault.valid = true ∧ t.after.configFault.valid = false ∧
    ∃ result, t.after.queue = t.before.queue ++ [result] ∧ result.outcome = .success ∧
      result.kind.replays = true := by
  have hlast : (runOf (benchWake ++ benchRecovery)).1.getLast?.map (fun t =>
      (t.before.configFault.valid, t.after.configFault.valid, t.call.rebinds t.output)) =
      some (true, false, false) := by decide +kernel
  obtain ⟨t, ht, hfacts⟩ := Option.map_eq_some_iff.mp hlast
  obtain ⟨hbefore, hafter, hkept⟩ : t.before.configFault.valid = true ∧
      t.after.configFault.valid = false ∧ t.call.rebinds t.output = false := by simpa using hfacts
  obtain ⟨ts, hts⟩ := List.getLast?_eq_some_iff.mp ht
  have hrun := run_runOf (benchWake ++ benchRecovery)
  rw [hts] at hrun
  rcases fault_cleared hrun hbefore hafter with hrebinds | ⟨_, _, result, -, -, hqueue, hended⟩
  · exact absurd (hkept.symm.trans hrebinds) Bool.noConfusion
  · exact ⟨ts, t, _, hrun, hbefore, hafter, result, hqueue, hended⟩

end Fault

/-! ### The loss of trust -/

/-- The call replaces the desired profile, or ends the binding. -/
def Call.replacesProfile : Call → Output → Bool
  | .updateDesiredConfig _, output => output.toStatus.isOk
  | .end_, _ => true
  | _, _ => false

/-- The mark replaces the desired profile, or ends the binding. -/
def Mark.replacesProfile : Mark → Bool
  | .ret call output => call.replacesProfile output
  | .bus _ _ => false

/-- Wherever a bound driver trusts nothing there is a fault, or the active job will leave one when
it fails. -/
structure Provenanced (d : Driver) : Prop where
  bound : d.bound = true
  lost : d.appliedState = .dirty ∨ d.appliedState = .unknown →
    d.configFault.valid = true ∨ d.progress.active = true ∧ d.interrupted = true

section Provenance

variable {d d' : Driver} {mark : Mark} {stage : Stage} {reply : Reply} {call : Call}
  {output : Output}

/-- A transfer adds to what a job has written. -/
theorem interrupted_settled (h : d.interrupted = true) :
    (d.settled stage reply).interrupted = true := by
  simp only [interrupted, settled_kind, settled_effects, Bool.and_eq_true] at h ⊢
  exact ⟨h.1, by rw [h.2, Bool.or_true]⟩

/-- A failed write that is not recorded changes nothing of what has been lost. -/
theorem Provenanced.unrecorded (hp : Provenanced d) {status : Status}
    (hrecord : d.mustRecord status = false)
    (hlost : d.appliedState = .dirty ∨ d.appliedState = .unknown) :
    d.configFault.valid = true := by
  rcases hp.lost hlost with hfault | ⟨-, hinterrupted⟩
  · exact hfault
  · -- a job that has written records every failure
    simp only [mustRecord, Bool.or_eq_false_iff] at hrecord
    simp [interrupted, hrecord.2] at hinterrupted

/-- **One transfer of a job**: without trust behind it there is a fault, or the job goes on and has
written. -/
theorem Provenanced.settled (hp : Provenanced d) (hrun : d.Running stage)
    (hlost : (d.settled stage reply).appliedState = .dirty ∨
      (d.settled stage reply).appliedState = .unknown) :
    (d.settled stage reply).configFault.valid = true ∨
      d.verdict stage reply = none ∧ (d.settled stage reply).interrupted = true := by
  rw [settled_appliedState] at hlost
  cases hblames : d.blames stage reply with
  | some cause =>
      rw [settled_configFault_of_blames hblames]
      exact Or.inl rfl
  | none =>
      rw [settled_configFault_of_not_blames hblames]
      have hkind := hrun.isAcquire
      have htrusted := hrun.trusted
      cases hok : reply.status.isOk with
      | false =>
          -- an unblamed failure is that of a read, or of a write that did not reach the device
          have hwrite (hrecord : d.mustRecord reply.status = false)
              (hlost : d.appliedState = .dirty ∨ d.appliedState = .unknown) :
              (if d.completes stage reply then {} else d.configFault).valid = true := by
            have hcompletes : d.completes stage reply = false := by
              cases stage <;> simp [completes, hok]
            simpa [hcompletes] using hp.unrecorded hrecord hlost
          cases stage with
          | reset | profile applyStep =>
              simp only [blames, hok, Bool.not_false, Bool.true_and, ite_eq_right_iff,
                reduceCtorEq, imp_false, Bool.not_eq_true] at hblames
              simp only [trustAfter, hok, hblames, Bool.or_self, Bool.false_eq_true,
                if_false] at hlost
              exact Or.inl (hwrite hblames hlost)
          | identity index => simp [blames, hok] at hblames
          | _ =>
              have hactive : d.appliedState = .appliedActive := htrusted
              simp [trustAfter, hactive] at hlost
      | true =>
          cases stage with
          | reset =>
              refine Or.inr ⟨by simp [verdict, hok], ?_⟩
              have hreplays : d.progress.kind ≠ .acquire := by simpa [Stage.isAcquire] using hkind
              simp [interrupted, settled_kind, settled_effects, adds, hok, hreplays, Stage.isWrite]
          | identity index =>
              have hword : reply.word = (identitySteps.get index).expected := by
                by_contra hword
                simp [blames, hok, hword] at hblames
              have hbefore : d.appliedState = .dirty ∨ d.appliedState = .unknown := by
                by_cases hunknown : d.appliedState = .unknown
                · exact Or.inr hunknown
                · simpa [trustAfter, hok, hword, hunknown] using hlost
              rcases hp.lost hbefore with hfault | ⟨-, hinterrupted⟩
              · exact Or.inl hfault
              · exact Or.inr ⟨(verdict_identity hok).mpr hword, interrupted_settled hinterrupted⟩
          | profile applyStep =>
              simp only [trustAfter, hok, if_true] at hlost
              split at hlost <;> simp at hlost
          | _ =>
              have hactive : d.appliedState = .appliedActive := htrusted
              simp [trustAfter, hactive] at hlost

/-- A transfer of a job keeps the provenance. -/
theorem Provenanced.job {nowMs : U64} (hp : Provenanced d) (hrun : d.Running stage) :
    Provenanced (d.resume stage reply nowMs).driver := by
  cases hv : d.verdict stage reply with
  | none =>
      rw [resume_driver_of_none hv]
      refine ⟨by rw [settled_bound]; exact hp.bound, fun hlost => ?_⟩
      rcases hp.settled hrun hlost with hfault | ⟨-, hinterrupted⟩
      · exact Or.inl hfault
      · exact Or.inr ⟨by rw [settled_active]; exact hrun.active, hinterrupted⟩
  | some verdict =>
      rw [resume_driver_of_some hv]
      refine ⟨by rw [finishJob_bound, settled_bound]; exact hp.bound, fun hlost => ?_⟩
      rw [finishJob_appliedState] at hlost
      rcases hp.settled hrun hlost with hfault | ⟨hnone, -⟩
      · exact Or.inl hfault
      · rw [hv] at hnone
        cases hnone

/-- A revoked claim of a bound driver has its provenance. -/
theorem Revoked.provenanced (h : Revoked d) (hbound : d.bound = true) : Provenanced d :=
  ⟨hbound, fun _ => Or.inl h.recorded⟩

/-- Ending a job between its transfers keeps the provenance. -/
theorem Provenanced.ended {outcome : TerminalOutcome} {cause : Status} {nowMs : U64}
    (hp : Provenanced d) :
    Provenanced ((d.recordInterruption cause).finishJob outcome cause nowMs).1 := by
  have hbound : (d.recordInterruption cause).bound = d.bound :=
    (congrArg Driver.bound (recordInterruption_frame (d := d) cause) :)
  refine ⟨by rw [finishJob_bound, hbound]; exact hp.bound, fun hlost => Or.inl ?_⟩
  rw [finishJob_appliedState, recordInterruption_appliedState] at hlost
  rw [finishJob_configFault, recordInterruption_configFault]
  split
  · rfl
  · next hwritten =>
      -- a job that has written nothing leaves the trust it found
      rw [if_neg fun hboth => hwritten hboth.1] at hlost
      exact (hp.lost hlost).resolve_right fun hright => hwritten hright.2

/-- Every step but the replacement of the profile keeps the provenance. -/
theorem Provenanced.step (hp : Provenanced d) (h : Step d mark d')
    (hkept : mark.replacesProfile = false) : Provenanced d' := by
  cases h with
  | job hrun hdue => exact hp.job hrun
  | direct hdirect =>
      have hbound : d'.bound = true :=
        (congrArg Driver.bound hdirect.frame_eq :).trans hp.bound
      cases hdirect with
      | observed => exact hp
      | read => exact ⟨hbound, hp.lost⟩
      -- a CONFIG write sets the state, revokes it with a fault, or has not reached the device
      | @slept reply | @woken reply =>
          rcases configWritten_cases (d := d.tracked reply.status) _ reply.status with
            hnew | hrevoked | hsame
          · rw [hnew]
            exact ⟨hp.bound, fun hlost => by simp at hlost⟩
          · exact hrevoked.provenanced hbound
          · rw [hsame]
            exact ⟨hp.bound, hp.lost⟩
      | @wrote reg value reply =>
          rcases diagnosticWritten_revokes (d := d.tracked reply.status) reg reply.status with
            hrevoked | hsame
          · exact hrevoked.provenanced hbound
          · rw [hsame]
            exact ⟨hp.bound, hp.lost⟩
  | quiet hquiet =>
      cases hquiet with
      | kept => exact hp
      | bound config hfree => exact absurd (hfree.symm.trans hp.bound) Bool.noConfusion
      | ended => cases hkept
      | updated => cases hkept
      -- a job starts with the fault there is; it is owed only while the job is active
      | started hstarts hadm hstart =>
          refine ⟨hp.bound, fun hlost => Or.inl ?_⟩
          exact (hp.lost hlost).resolve_right fun hright =>
            Bool.noConfusion (hadm.idle.symm.trans hright.1)
      | expired => exact hp.ended
      | cancelled => exact hp.ended
      | taken => exact ⟨hp.bound, hp.lost⟩
      | invalidated reason hidle => exact ⟨hp.bound, fun _ => Or.inl rfl⟩

/-- **Trust is never lost without provenance.** From a driver that trusts its profile on, as long as
the desired profile is not replaced: whenever the driver is idle it has a fault exactly if it trusts
nothing. -/
theorem trust_loss_recorded {s u : Driver} {ts : List DriverTransition} (hs : Reachable s)
    (htrust : s.appliedState = .appliedSleeping ∨ s.appliedState = .appliedActive)
    (h : DriverRun s ts u) (hkept : ∀ t ∈ ts, t.call.replacesProfile t.output = false)
    (hidle : u.progress.active = false) :
    u.configFault.valid = true ↔ u.appliedState = .dirty ∨ u.appliedState = .unknown := by
  have hw := hs.wellFormed
  -- a driver with a trusted profile is bound, and has lost nothing yet
  have hstart : Provenanced s := by
    refine ⟨?_, fun hlost => ?_⟩
    · cases hbound : s.bound with
      | true => rfl
      | false =>
          have hunknown := (hw.unbound hbound).2.1
          rw [hunknown] at htrust
          simp at htrust
    · rcases htrust with hstate | hstate <;> simp [hstate] at hlost
  have hmarks : ∀ mark ∈ timeline ts, mark.replacesProfile = false := by
    intro mark hmark
    obtain ⟨t, ht, hmark⟩ := List.mem_flatMap.mp hmark
    rcases mem_marks hmark with rfl | ⟨event, rfl⟩ | rfl
    · rfl
    · rfl
    · exact hkept t ht
  -- no step but a replacement of the profile loses the provenance
  have hend : Provenanced u := ((run_path hw h).restrict hmarks).invariant hstart
    fun _ _ _ hm hstep => hm.step hstep.1 hstep.2
  -- a profile that is trusted has no fault, whatever the run was
  constructor
  · intro hfault
    obtain ⟨past, hpast⟩ := hs.visited
    have hconsistent := consistent_of_path (hpast.append (run_path hw h))
    have hstate := ((run_wellFormed hw h).idle hidle).2
    cases hu : u.appliedState with
    | unknown => exact Or.inr rfl
    | dirty => exact Or.inl rfl
    | applying => exact absurd hu hstate
    | _ =>
        have hnone := hconsistent.faultless (by rw [hu]; exact Option.some_ne_none _)
        exact absurd (hfault.symm.trans hnone) Bool.noConfusion
  · intro hlost
    exact (hend.lost hlost).resolve_right fun hright =>
      Bool.noConfusion (hidle.symm.trans hright.1)

/-- The sleep without an answer leaves the profile dirty, with a fault. -/
theorem trust_loss_recorded_sleep : ∃ ts u, DriverRun (reachedBy benchWake) ts u ∧
    u.appliedState = .dirty ∧ u.configFault.valid = true := by
  have htrust : (reachedBy benchWake).appliedState = .appliedActive := by decide +kernel
  have hstate : (execute (reachedBy benchWake) (benchRecovery.take 2)).map (fun run =>
      (run.1.all fun t => !t.call.replacesProfile t.output, run.2.progress.active,
        run.2.appliedState)) = some (true, false, .dirty) := by decide +kernel
  obtain ⟨⟨ts, u⟩, hrun, hfacts⟩ := Option.map_eq_some_iff.mp hstate
  obtain ⟨hkept, hidle, hdirty⟩ : (ts.all fun t => !t.call.replacesProfile t.output) = true ∧
      u.progress.active = false ∧ u.appliedState = .dirty := by simpa using hfacts
  have hloss := trust_loss_recorded (reachable_reachedBy benchWake) (Or.inr htrust)
    (run_of_execute hrun) (fun t ht => by simpa using List.all_eq_true.mp hkept t ht) hidle
  exact ⟨ts, u, run_of_execute hrun, hdirty, hloss.mpr (Or.inl hdirty)⟩

end Provenance

end Ldc1614
