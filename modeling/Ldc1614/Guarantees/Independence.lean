import Ldc1614.Driver.Evaluate

/-! # History independence

Nothing but the listed state survives a job: two idle drivers that agree on profile, applied state,
revision, fault and queued results behave alike ever after, whatever happened to each before.
`Alike` is the bisimulation: equality of everything but the transport statistics and the place of the
queue in its ring. -/

namespace Ldc1614

open Interaction Interaction.Program

namespace Driver

/-- The driver with other statistics and another ring. -/
def reseat (d : Driver) (stats : TransportStats) (results : Vector OperationResult resultCapacity)
    (head : U8) : Driver :=
  { d with transportStats := stats, results := results, resultHead := head }

/-- The drivers agree on everything but the transport statistics and the layout of the result ring,
and queue the same results. -/
structure Alike (d e : Driver) : Prop where
  same : e = d.reseat e.transportStats e.results e.resultHead
  queue : e.queue = d.queue

variable {d e : Driver} {stage : Stage} {reply : Reply} {nowMs : U64}

/-- A driver is like itself. -/
theorem Alike.refl (d : Driver) : Alike d d := ⟨rfl, rfl⟩

/-! ### What a transfer does, elsewhere in the ring -/

section Reseat

variable {stats : TransportStats} {results : Vector OperationResult resultCapacity} {head : U8}

/-- A failed transfer does not look at the counters and the ring. -/
theorem failedAt_reseat (status : Status) :
    (d.reseat stats results head).failedAt stage status =
      (d.failedAt stage status).reseat stats results head := by
  have hfault (trust : AppliedConfigState) (phase : JobPhase) (reg : U8) (channel : Channel) :
      (d.reseat stats results head).writeFault trust phase reg channel status =
        (d.writeFault trust phase reg channel status).reseat stats results head := by
    have hsame : (d.reseat stats results head).mustRecord status = d.mustRecord status := rfl
    cases h : d.mustRecord status with
    | true =>
        rw [writeFault_of_mustRecord _ _ _ _ h, writeFault_of_mustRecord _ _ _ _ (hsame.trans h)]
        rfl
    | false =>
        rw [writeFault_of_not_mustRecord _ _ _ _ h,
          writeFault_of_not_mustRecord _ _ _ _ (hsame.trans h)]
  cases stage with
  | reset => exact hfault ..
  | profile applyStep => exact hfault ..
  | _ => rfl

/-- Nor does one that passed. -/
theorem passedAt_reseat (value : U16) :
    (d.reseat stats results head).passedAt stage value =
      (d.passedAt stage value).reseat stats results head := by
  cases stage with
  | identity index =>
      simp only [passedAt]
      split <;> rfl
  | profile applyStep =>
      simp only [passedAt]
      by_cases h : configurationTransferCount d.configuredChannelCount ≤ applyStep + 1
      · have h' : configurationTransferCount (d.reseat stats results head).configuredChannelCount ≤
            applyStep + 1 := h
        rw [if_pos h, if_pos h']
        rfl
      · have h' : ¬ configurationTransferCount (d.reseat stats results head).configuredChannelCount ≤
            applyStep + 1 := h
        rw [if_neg h, if_neg h']
        rfl
  | _ => rfl

/-- A transfer does the same elsewhere in the ring. -/
theorem settled_reseat :
    (d.reseat stats results head).settled stage reply =
      (d.settled stage reply).reseat
        ((d.reseat stats results head).tracked reply.status).transportStats results head := by
  have hattempt : ((d.reseat stats results head).attempt stage reply).countTransfer =
      (d.attempt stage reply).countTransfer.reseat
        ((d.reseat stats results head).tracked reply.status).transportStats results head := rfl
  rw [settled, settled, hattempt]
  cases reply.status.isOk with
  | false => exact failedAt_reseat _
  | true => exact passedAt_reseat _

/-- An interruption is recorded the same elsewhere in the ring. -/
theorem recordInterruption_reseat (cause : Status) :
    (d.reseat stats results head).recordInterruption cause =
      (d.recordInterruption cause).reseat stats results head := by
  by_cases h : (d.progress.kind ≠ .acquire && hasEffect d.progress.effects .partialWrite) = true
  · have h' : ((d.reseat stats results head).progress.kind ≠ .acquire &&
        hasEffect (d.reseat stats results head).progress.effects .partialWrite) = true := h
    rw [recordInterruption, recordInterruption, if_pos h, if_pos h']
    rfl
  · have h' : ¬ ((d.reseat stats results head).progress.kind ≠ .acquire &&
        hasEffect (d.reseat stats results head).progress.effects .partialWrite) = true := h
    rw [recordInterruption, recordInterruption, if_neg h, if_neg h']

end Reseat

/-! ### Alike drivers do alike -/

/-- A change that does not look at the ring or the statistics, and keeps the ring. -/
theorem Alike.lift (h : Alike d e) (f : Driver → Driver)
    (hring : ∀ d, (f d).queue = d.queue)
    (hf : ∀ d stats results head, ∃ stats', f (d.reseat stats results head) =
      (f d).reseat stats' results head) : Alike (f d) (f e) where
  same := by
    obtain ⟨stats, hstats⟩ := hf d e.transportStats e.results e.resultHead
    rw [h.same, hstats]
    rfl
  queue := by rw [hring, hring, h.queue]

/-- A transfer with the same reply keeps drivers alike. -/
theorem Alike.settled (h : Alike d e) (stage : Stage) (reply : Reply) :
    Alike (d.settled stage reply) (e.settled stage reply) :=
  h.lift (·.settled stage reply)
    (fun d => (congrArg Driver.queue (settled_frame d stage reply) :))
    fun _ _ _ _ => ⟨_, settled_reseat⟩

/-- The same interruption keeps drivers alike. -/
theorem Alike.recordInterruption (h : Alike d e) (cause : Status) :
    Alike (d.recordInterruption cause) (e.recordInterruption cause) :=
  h.lift (·.recordInterruption cause)
    (fun d => (congrArg Driver.queue (recordInterruption_frame (d := d) cause) :))
    fun _ _ _ _ => ⟨_, recordInterruption_reseat cause⟩

/-- Finishing a job queues the same result. -/
theorem Alike.finishJob {outcome : TerminalOutcome} {status : Status} (h : Alike d e)
    (hslot : d.resultCount.toNat < resultCapacity) :
    Alike (d.finishJob outcome status nowMs).1 (e.finishJob outcome status nowMs).1 where
  same := by
    rw [h.same]
    rfl
  queue := by
    have hcount : e.resultCount = d.resultCount := (congrArg resultCount h.same :)
    have hresult : e.terminalResult outcome status nowMs = d.terminalResult outcome status nowMs :=
      (congrArg (·.terminalResult outcome status nowMs) h.same :)
    rw [finishJob_queue outcome status hslot, finishJob_queue outcome status (hcount ▸ hslot),
      h.queue, hresult]

section Fields

variable (h : Alike d e)
include h

/-- Alike drivers have the same profile. -/
theorem Alike.config : e.config = d.config := (congrArg Driver.config h.same :)

/-- Alike drivers are bound or not together. -/
theorem Alike.bound : e.bound = d.bound := (congrArg Driver.bound h.same :)

/-- Alike drivers are in the same applied state. -/
theorem Alike.appliedState : e.appliedState = d.appliedState :=
  (congrArg Driver.appliedState h.same :)

/-- Alike drivers have the same revision. -/
theorem Alike.configRevision : e.configRevision = d.configRevision :=
  (congrArg Driver.configRevision h.same :)

/-- Alike drivers have the same job. -/
theorem Alike.progress : e.progress = d.progress := (congrArg Driver.progress h.same :)

/-- Alike drivers have as many results queued. -/
theorem Alike.resultCount : e.resultCount = d.resultCount :=
  (congrArg Driver.resultCount h.same :)

/-- Alike drivers are at the same stage. -/
theorem Alike.stage_eq : e.stage = d.stage := (congrArg Driver.stage h.same :)

/-- Alike drivers have the same operation ids in use. -/
theorem Alike.operationIdInUse (operationId : U64) :
    e.operationIdInUse operationId = d.operationIdInUse operationId := by
  have hqueue : Ring.toList e.results e.resultHead.toNat e.resultCount.toNat =
      Ring.toList d.results d.resultHead.toNat d.resultCount.toNat := h.queue
  rw [Driver.operationIdInUse, Driver.operationIdInUse, h.progress, hqueue]

/-- Alike drivers come to the same verdict. -/
theorem Alike.verdict (stage : Stage) (reply : Reply) :
    e.verdict stage reply = d.verdict stage reply :=
  (congrArg (·.verdict stage reply) h.same :)

/-- Counting the same transfer keeps drivers alike. -/
theorem Alike.tracked (status : Status) : Alike (d.tracked status) (e.tracked status) :=
  h.lift (·.tracked status) (fun _ => rfl) fun _ _ _ _ => ⟨_, rfl⟩

/-- The same answer to a sleep or wake write keeps drivers alike. -/
theorem Alike.configWritten (trust : AppliedConfigState) (status : Status) :
    Alike (d.configWritten trust status).1 (e.configWritten trust status).1 := by
  refine h.lift (fun d => (d.configWritten trust status).1) (fun d => ?_) fun d stats _ _ =>
    ⟨stats, ?_⟩
  · rw [configWritten_eq]
    rfl
  · rw [configWritten_eq, configWritten_eq]
    rfl

/-- The same answer to a diagnostic write keeps drivers alike. -/
theorem Alike.diagnosticWritten (reg : U8) (status : Status) :
    Alike (d.diagnosticWritten reg status).1 (e.diagnosticWritten reg status).1 := by
  refine h.lift (fun d => (d.diagnosticWritten reg status).1) (fun d => ?_) fun d stats _ _ =>
    ⟨stats, ?_⟩
  · rw [diagnosticWritten_eq]
    split <;> rfl
  · rw [diagnosticWritten_eq, diagnosticWritten_eq]
    split <;> rfl

end Fields

/-! ### Twin programs -/

section Programs

variable {α β : Type} {events : List Event}

/-- The two outcomes are alike, with the same output. -/
def Agree (a b : Driver × α) : Prop := Alike a.1 b.1 ∧ a.2 = b.2

/-- The two programs make the same exchanges and end alike, with the same output. -/
abbrev Twin (p q : Bus (Driver × α)) : Prop := Program.Related Agree p q

/-- Calls that agree on both branches of one condition agree. -/
theorem Agree.ite {condition : Prop} [Decidable condition] {a a' b b' : Driver × α}
    (h : Agree a b) (h' : Agree a' b') :
    Agree (if condition then a else a') (if condition then b else b') := by
  by_cases hc : condition
  · rw [if_pos hc, if_pos hc]
    exact h
  · rw [if_neg hc, if_neg hc]
    exact h'

/-- Twin programs followed by twin continuations. -/
theorem Twin.bind {p q : Bus (Driver × α)} {f g : Driver × α → Bus (Driver × β)} (h : Twin p q)
    (hfg : ∀ d e out, Alike d e → Twin (f (d, out)) (g (e, out))) : Twin (p >>= f) (q >>= g) := by
  refine Related.bind h ?_
  rintro ⟨d, out⟩ ⟨e, out'⟩ ⟨halike, hout⟩
  obtain rfl : out = out' := hout
  exact hfg d e out halike

/-- Returning what two agreeing steps produced. -/
theorem Twin.done {a b : Driver × α} (h : Agree a b) : Twin (.done a) (.done b) := Related.done h

/-- Alike drivers read alike. -/
theorem twin_readRegister (h : Alike d e) (reg : U8) (timeoutMs : U32) :
    Twin (d.readRegister reg timeoutMs) (e.readRegister reg timeoutMs) := by
  unfold readRegister
  rw [h.config]
  cases d.config.i2cWriteRead with
  | none => exact .trap
  | some callback => exact .call fun reply => .done ⟨h.tracked reply.status, rfl⟩

/-- Alike drivers write alike. -/
theorem twin_writeRegister (h : Alike d e) (reg : U8) (value : U16) (timeoutMs : U32) :
    Twin (d.writeRegister reg value timeoutMs) (e.writeRegister reg value timeoutMs) := by
  unfold writeRegister
  rw [h.config]
  cases d.config.i2cWrite with
  | none => exact .trap
  | some callback => exact .call fun reply => .done ⟨h.tracked reply.status, rfl⟩

/-! ### Every call is twin -/

/-- Alike drivers are bound alike. -/
theorem agree_bind (h : Alike d e) (config : Config) : Agree (d.bind config) (e.bind config) := by
  unfold Driver.bind
  rw [h.bound]
  exact .ite ⟨h, rfl⟩ (.ite ⟨h, rfl⟩ ⟨⟨rfl, rfl⟩, rfl⟩)

/-- Alike drivers take an update alike. -/
theorem agree_updateDesiredConfig (h : Alike d e) (config : Config) :
    Agree (d.updateDesiredConfig config) (e.updateDesiredConfig config) := by
  have hretain : Alike (d.retain config) (e.retain config) :=
    h.lift (·.retain config) (fun _ => rfl) fun _ stats _ _ => ⟨stats, rfl⟩
  unfold updateDesiredConfig
  rw [h.bound, h.progress, h.appliedState, h.config, h.configRevision]
  exact .ite ⟨h, rfl⟩ (.ite ⟨h, rfl⟩ (.ite ⟨h, rfl⟩ (.ite ⟨h, rfl⟩ (.ite ⟨h, rfl⟩
    (.ite ⟨h, rfl⟩ ⟨hretain, rfl⟩)))))

/-- Alike drivers admit a job alike. -/
theorem agree_startJob (h : Alike d e) (kind : JobKind) (channels : ChannelMask)
    (operationId deadlineMs : U64) (maximumTransfers : U8) :
    Agree (d.startJob kind channels operationId deadlineMs maximumTransfers)
      (e.startJob kind channels operationId deadlineMs maximumTransfers) := by
  have hclear : Alike d.clearActiveJob e.clearActiveJob :=
    h.lift clearActiveJob (fun _ => rfl) fun _ stats _ _ => ⟨stats, rfl⟩
  have hadmitted (start : JobPhase × U8) :
      Alike (d.admitted kind channels operationId deadlineMs maximumTransfers start)
        (e.admitted kind channels operationId deadlineMs maximumTransfers start) :=
    h.lift (·.admitted kind channels operationId deadlineMs maximumTransfers start) (fun _ => rfl)
      fun _ stats _ _ => ⟨stats, rfl⟩
  unfold startJob
  rw [h.bound, h.operationIdInUse, h.progress, reserveResultSlot, reserveResultSlot, h.resultCount]
  refine .ite ⟨h, rfl⟩ (.ite ⟨h, rfl⟩ (.ite ⟨h, rfl⟩ (.ite ⟨h, rfl⟩ (.ite ⟨h, rfl⟩ ?_))))
  cases startingPoint kind with
  | none => exact ⟨hclear, rfl⟩
  | some start => exact ⟨hadmitted start, rfl⟩

/-- Alike drivers cancel alike. -/
theorem agree_cancelJob (h : Alike d e) (hw : d.WellFormed) : Agree d.cancelJob e.cancelJob := by
  unfold cancelJob
  rw [h.progress]
  by_cases hactive : d.progress.active = true
  · rw [if_neg (by simp [hactive]), if_neg (by simp [hactive])]
    obtain ⟨stage, hrun⟩ := hw.running hactive
    have hcount : (d.recordInterruption operationCancelled).resultCount = d.resultCount :=
      (congrArg Driver.resultCount (recordInterruption_frame operationCancelled) :)
    exact ⟨(h.recordInterruption operationCancelled).finishJob (hcount ▸ hrun.slot), rfl⟩
  · rw [if_pos (by simpa using hactive), if_pos (by simpa using hactive)]
    exact ⟨h, rfl⟩

/-- An invalidation cancels and marks alike. -/
theorem alike_invalidateAppliedState (h : Alike d e) (hw : d.WellFormed) (reason : Status) :
    Alike (d.invalidateAppliedState reason) (e.invalidateAppliedState reason) := by
  have hcancelled := (agree_cancelJob h hw).1
  unfold Driver.invalidateAppliedState
  rw [h.progress]
  by_cases hactive : d.progress.active = true
  · rw [if_pos hactive, if_pos hactive]
    exact hcancelled.lift (·.invalidated reason) (fun _ => rfl) fun _ stats _ _ => ⟨stats, rfl⟩
  · rw [if_neg hactive, if_neg hactive]
    exact h.lift (·.invalidated reason) (fun _ => rfl) fun _ stats _ _ => ⟨stats, rfl⟩

/-- A delivery hands out the same result. -/
theorem twin_takeResult (h : Alike d e) (hd : d.WellFormed) (he : e.WellFormed) :
    Twin d.takeResult e.takeResult := by
  by_cases hzero : d.resultCount = 0
  · rw [takeResult_of_zero hzero, takeResult_of_zero (h.resultCount.trans hzero)]
    exact .done ⟨h, rfl⟩
  · have hzero' : e.resultCount ≠ 0 := by rwa [h.resultCount]
    rw [takeResult_of_ne_zero hzero hd.head, takeResult_of_ne_zero hzero' he.head]
    -- the heads of equal queues are equal, and so are their tails
    have hpop := queue_delivered hd hzero hd.head
    have hpop' := queue_delivered he hzero' he.head
    obtain ⟨hfirst, hrest⟩ := List.cons.inj (hpop'.symm.trans (h.queue.trans hpop))
    have hsame : Alike (d.delivered hd.head) (e.delivered he.head) := by
      refine ⟨?_, hrest⟩
      obtain ⟨stats, results, head, rfl⟩ :
          ∃ stats results head, e = d.reseat stats results head := ⟨_, _, _, h.same⟩
      rfl
    exact .done ⟨hsame, congrArg (Prod.mk Status.ok) hfirst.symm⟩

/-- Alike drivers run `readDeviceStatus` alike. -/
theorem twin_readDeviceStatus (h : Alike d e) : Twin d.readDeviceStatus e.readDeviceStatus := by
  unfold readDeviceStatus
  rw [h.bound, h.progress, h.config]
  exact .ite (.done ⟨h, rfl⟩) (.ite (.done ⟨h, rfl⟩)
    (Twin.bind (twin_readRegister h _ _) fun _ _ _ halike => .done ⟨halike, rfl⟩))

/-- Alike drivers run the fallback of `readDataReady` alike. -/
theorem twin_readDataReadyStatus (h : Alike d e) :
    Twin d.readDataReadyStatus e.readDataReadyStatus :=
  Twin.bind (twin_readDeviceStatus h) fun _ _ _ halike => .done ⟨halike, rfl⟩

/-- Alike drivers run `readDataReady` alike. -/
theorem twin_readDataReady (h : Alike d e) : Twin d.readDataReady e.readDataReady := by
  unfold readDataReady
  rw [h.bound, h.progress, h.appliedState, h.config]
  refine .ite (.done ⟨h, rfl⟩) (.ite (.done ⟨h, rfl⟩) (.ite (.done ⟨h, rfl⟩)
    (.ite (.done ⟨h, rfl⟩) ?_)))
  cases d.config.intbAsserted with
  | none => exact twin_readDataReadyStatus h
  | some callback =>
      refine .ite (twin_readDataReadyStatus h) (.call fun reply => ?_)
      exact .ite (.done ⟨h, rfl⟩) (.ite (.done ⟨h, rfl⟩) (twin_readDataReadyStatus h))

/-- Alike drivers run `readRegister16` alike. -/
theorem twin_readRegister16 (h : Alike d e) (reg : U8) :
    Twin (d.readRegister16 reg) (e.readRegister16 reg) := by
  unfold readRegister16
  rw [h.bound, h.progress, h.config]
  exact .ite (.done ⟨h, rfl⟩) (.ite (.done ⟨h, rfl⟩) (.ite (.done ⟨h, rfl⟩)
    (.ite (.done ⟨h, rfl⟩) (twin_readRegister h _ _))))

/-- Alike drivers run `readInitDriveCurrent` alike. -/
theorem twin_readInitDriveCurrent (h : Alike d e) (channel : Channel) :
    Twin (d.readInitDriveCurrent channel) (e.readInitDriveCurrent channel) := by
  unfold readInitDriveCurrent
  rw [h.bound, h.config]
  exact .ite (.done ⟨h, rfl⟩) (.ite (.done ⟨h, rfl⟩)
    (Twin.bind (twin_readRegister16 h _) fun _ _ _ halike => .done ⟨halike, rfl⟩))

/-- Alike drivers run `sleep` and `wake` alike. -/
theorem twin_switchSleep (h : Alike d e) (sleeping : Bool) (target source : AppliedConfigState) :
    Twin (d.switchSleep sleeping target source) (e.switchSleep sleeping target source) := by
  unfold switchSleep
  rw [h.bound, h.progress, h.appliedState, h.config]
  refine .ite (.done ⟨h, rfl⟩) (.ite (.done ⟨h, rfl⟩) (.ite (.done ⟨h, rfl⟩)
    (.ite (.done ⟨h, rfl⟩) (Twin.bind (twin_writeRegister h _ _ _) fun _ _ status halike => ?_))))
  refine .done ⟨halike.configWritten target status, ?_⟩
  unfold Driver.configWritten
  cases status.isOk <;> rfl

/-- Alike drivers run `writeRegister16` alike. -/
theorem twin_writeRegister16 (h : Alike d e) (reg : U8) (value : U16) :
    Twin (d.writeRegister16 reg value) (e.writeRegister16 reg value) := by
  unfold writeRegister16
  rw [h.bound, h.progress, h.config]
  exact .ite (.done ⟨h, rfl⟩) (.ite (.done ⟨h, rfl⟩) (.ite (.done ⟨h, rfl⟩)
    (.ite (.done ⟨h, rfl⟩) (Twin.bind (twin_writeRegister h _ _ _) fun _ _ status halike =>
      .done ⟨halike.diagnosticWritten reg status, rfl⟩))))

/-! ### Polling is twin -/

/-- The transfers of alike jobs are the same, one by one. -/
theorem twin_drive {timeoutMs : U32} (budget : ℕ) (h : Alike d e) (hd : d.Running stage)
    (he : e.Running stage) (hvalid : d.config.Valid) :
    Twin (drive nowMs timeoutMs budget d) (drive nowMs timeoutMs budget e) := by
  induction budget generalizing d e stage with
  | zero => exact .done ⟨h, rfl⟩
  | succ budget ih =>
      simp only [drive, hd.here, he.here, h.config]
      refine .call fun reply => ?_
      cases hv : d.verdict stage reply with
      | none =>
          have hv' := (h.verdict stage reply).trans hv
          rw [resume_of_none hv, resume_of_none hv']
          obtain ⟨next, hnext⟩ := hd.settled hvalid hv
          obtain ⟨next', hnext'⟩ := he.settled (h.config ▸ hvalid) hv'
          have halike := h.settled stage reply
          obtain rfl : next' = next := by
            have hstage := hnext'.here
            rw [halike.stage_eq, hnext.here] at hstage
            exact (Option.some.inj hstage).symm
          exact ih halike hnext hnext' (by rw [settled_config]; exact hvalid)
      | some verdict =>
          rw [resume_of_some hv, resume_of_some ((h.verdict stage reply).trans hv)]
          refine .done ⟨(h.settled stage reply).finishJob ?_, rfl⟩
          rw [settled_resultCount]
          exact hd.slot

/-- Alike drivers run `poll` alike. -/
theorem twin_poll (h : Alike d e) (hd : d.WellFormed) (he : e.WellFormed) (nowMs : U64)
    (maxTransfers : U8) : Twin (d.poll nowMs maxTransfers) (e.poll nowMs maxTransfers) := by
  cases hactive : d.progress.active with
  | false =>
      rw [poll_of_idle hactive, poll_of_idle (by rw [h.progress, hactive])]
      exact .done ⟨h, rfl⟩
  | true =>
      have hactive' : e.progress.active = true := by rw [h.progress, hactive]
      obtain ⟨stage, hrun⟩ := hd.running hactive
      obtain ⟨stage', hrun'⟩ := he.running hactive'
      obtain rfl : stage' = stage := by
        have hstage := hrun'.here
        rw [h.stage_eq, hrun.here] at hstage
        exact (Option.some.inj hstage).symm
      cases hdue : dueOrPast nowMs d.progress.deadlineMs with
      | true =>
          have hcount : (d.recordInterruption deadlineExpired).resultCount = d.resultCount :=
            (congrArg Driver.resultCount (recordInterruption_frame deadlineExpired) :)
          rw [poll_of_due hactive hdue, poll_of_due hactive' (by rw [h.progress, hdue])]
          exact .done ⟨(h.recordInterruption deadlineExpired).finishJob (hcount ▸ hrun.slot), rfl⟩
      | false =>
          have hdue' : dueOrPast nowMs e.progress.deadlineMs = false := by rw [h.progress, hdue]
          by_cases hmax : maxTransfers = 0
          · rw [hmax, poll_zero hactive hdue, poll_zero hactive' hdue']
            exact .done ⟨h, rfl⟩
          · have hvalid := hd.validProfile hrun.bound
            rw [poll_eq_drive hrun hvalid hdue hmax,
              poll_eq_drive hrun' (h.config ▸ hvalid) hdue' hmax]
            -- the budget and the timeouts depend on the progress and the profile only
            have hbudget : e.transferBudget nowMs maxTransfers =
                d.transferBudget nowMs maxTransfers :=
              (congrArg (·.transferBudget nowMs maxTransfers) h.same :)
            have htimeout (remaining : U8) : e.transferTimeoutMs nowMs remaining =
                d.transferTimeoutMs nowMs remaining :=
              (congrArg (·.transferTimeoutMs nowMs remaining) h.same :)
            rw [hbudget, htimeout]
            exact twin_drive _ h hrun hrun' hvalid

/-! ### Every operation is twin -/

/-- Alike drivers run `startApplyConfig` alike. -/
theorem agree_startApplyConfig (h : Alike d e) (operationId deadlineMs : U64) :
    Agree (d.startApplyConfig operationId deadlineMs) (e.startApplyConfig operationId deadlineMs) := by
  unfold startApplyConfig configuredChannelCount
  rw [h.bound, h.appliedState, h.config]
  exact .ite ⟨h, rfl⟩ (agree_startJob h ..)

/-- Alike drivers run `startAcquire` alike. -/
theorem agree_startAcquire (h : Alike d e) (channels : ChannelMask) (operationId deadlineMs : U64) :
    Agree (d.startAcquire channels operationId deadlineMs)
      (e.startAcquire channels operationId deadlineMs) := by
  unfold startAcquire
  rw [h.bound, h.appliedState, h.config]
  exact .ite ⟨h, rfl⟩ (.ite ⟨h, rfl⟩ (.ite ⟨h, rfl⟩ (agree_startJob h ..)))

/-- Alike drivers run `readIntb` alike. -/
theorem twin_readIntb (h : Alike d e) : Twin (Call.exec .readIntb d) (Call.exec .readIntb e) := by
  have hsame : e.readIntb = d.readIntb := by
    unfold readIntb
    rw [h.bound, h.config]
  simp only [Call.exec, hsame]
  refine Related.bind (Related.refl d.readIntb) ?_
  rintro out _ rfl
  exact .done ⟨h, rfl⟩

/-- A silent operation. -/
theorem twin_silent {a b : Driver × Status} (h : Agree a b) : Twin (silent a) (silent b) :=
  .done ⟨h.1, congrArg Output.status h.2⟩

/-- **Every operation is twin.** Alike drivers make the same exchanges, return the same and stay
alike. -/
theorem twin_exec (call : Call) (h : Alike d e) (hd : d.WellFormed) (he : e.WellFormed) :
    Twin (call.exec d) (call.exec e) := by
  have hchannels : e.configuredChannelCount = d.configuredChannelCount :=
    congrArg (fun config : Config => channelCountFor config.variant) h.config
  -- an operation that ends by wrapping up its output
  have hwrap {α : Type} {p q : Bus (Driver × α)} (f : α → Output) (hpq : Twin p q) :
      Twin (p >>= fun end_ => .done (end_.1, f end_.2))
        (q >>= fun end_ => .done (end_.1, f end_.2)) :=
    Twin.bind hpq fun _ _ _ halike => .done ⟨halike, rfl⟩
  cases call with
  | bind config => exact twin_silent (agree_bind h config)
  | end_ => exact .done ⟨⟨rfl, rfl⟩, rfl⟩
  | updateDesiredConfig config => exact twin_silent (agree_updateDesiredConfig h config)
  | startInitialize operationId deadlineMs =>
      simp only [Call.exec, startInitialize, hchannels]
      exact twin_silent (agree_startJob h ..)
  | startApplyConfig operationId deadlineMs => exact twin_silent (agree_startApplyConfig h ..)
  | startResetAndReapply operationId deadlineMs =>
      simp only [Call.exec, startResetAndReapply, hchannels]
      exact twin_silent (agree_startJob h ..)
  | startAcquire channels operationId deadlineMs => exact twin_silent (agree_startAcquire h ..)
  | poll nowMs maxTransfers => exact hwrap .status (twin_poll h hd he nowMs maxTransfers)
  | cancelJob => exact twin_silent (agree_cancelJob h hd)
  | takeResult => exact hwrap (fun out => .result out.1 out.2) (twin_takeResult h hd he)
  | invalidateAppliedState reason =>
      exact .done ⟨alike_invalidateAppliedState h hd reason, rfl⟩
  | readDeviceStatus =>
      exact hwrap (fun out => .deviceStatus out.1 out.2) (twin_readDeviceStatus h)
  | readDataReady =>
      exact hwrap (fun out => .dataReady out.1 out.2.1 out.2.2) (twin_readDataReady h)
  | sleep => exact hwrap .status (twin_switchSleep h ..)
  | wake => exact hwrap .status (twin_switchSleep h ..)
  | readInitDriveCurrent channel =>
      exact hwrap (fun out => .code out.1 out.2) (twin_readInitDriveCurrent h channel)
  | readRegister16 reg => exact hwrap (fun out => .word out.1 out.2) (twin_readRegister16 h reg)
  | writeRegister16 reg value => exact hwrap .status (twin_writeRegister16 h reg value)
  | readIntb => exact twin_readIntb h

end Programs

/-! ### Idle drivers -/

/-- Idle drivers carry no job data, so that the listed fields make them alike. -/
theorem alike_of_idle (hd : d.WellFormed) (he : e.WellFormed) (hidle : d.progress.active = false)
    (hidle' : e.progress.active = false) (hbound : e.bound = d.bound) (hconfig : e.config = d.config)
    (happlied : e.appliedState = d.appliedState) (hrevision : e.configRevision = d.configRevision)
    (hfault : e.configFault = d.configFault) (hqueue : e.queue = d.queue) : Alike d e := by
  have hcount : e.resultCount = d.resultCount := by
    have hlength := congrArg List.length hqueue
    rw [Driver.queue, Driver.queue, Ring.length_toList (by decide),
      Ring.length_toList (by decide)] at hlength
    exact BitVec.eq_of_toNat_eq hlength
  refine ⟨?_, hqueue⟩
  -- both equal their cleared selves, and these differ in the statistics and the ring only
  have hcleared : e.clearActiveJob =
      d.clearActiveJob.reseat e.transportStats e.results e.resultHead := by
    simp only [clearActiveJob, reseat, hbound, hconfig, happlied, hrevision, hfault, hcount]
  rw [(hd.idle hidle).1, (he.idle hidle').1] at hcleared
  exact hcleared

end Driver

/-! ### History independence -/

/-- **History independence.** Let two reachable bound states without an active job agree on profile,
applied state, revision, fault and queued results, whatever happened before. Then every run from one
is matched from the other: the same calls make the same callbacks and return the same, and the
states stay alike. The matching run is the only one that makes these calls and is fed from the same
transport outcomes. -/
theorem history_independence {d e : Driver} (hd : Reachable d) (he : Reachable e)
    (hbound : d.bound = true) (hbound' : e.bound = true) (hidle : d.progress.active = false)
    (hidle' : e.progress.active = false) (hconfig : e.config = d.config)
    (happlied : e.appliedState = d.appliedState) (hrevision : e.configRevision = d.configRevision)
    (hfault : e.configFault = d.configFault) (hqueue : e.queue = d.queue)
    {ts : List DriverTransition} {u : Driver} (h : DriverRun d ts u) :
    ∃ ts' u', DriverRun e ts' u' ∧ u.Alike u' ∧
      List.Forall₂ (fun t t' => t.SameObservation t' ∧ t.before.Alike t'.before ∧
        t.after.Alike t'.after) ts ts' ∧
      ∀ us v left left', DriverRun e us v →
        us.map Transition.call = ts.map Transition.call →
        replies us ++ left = replies ts ++ left' → us = ts' ∧ v = u' := by
  have halike := Driver.alike_of_idle hd.wellFormed he.wellFormed hidle hidle'
    (hbound'.trans hbound.symm) hconfig happlied hrevision hfault hqueue
  obtain ⟨ts', u', hrun, hend, hall⟩ := Run.related
    (fun t hw hv => run_wellFormed hw (.single ⟨rfl, hv, rfl⟩))
    (fun call d e hw hw' h => Driver.twin_exec call h hw hw') hd.wellFormed he.wellFormed halike h
  refine ⟨ts', u', hrun, hend, hall, ?_⟩
  intro us v left left' hother hcalls hreplies
  have hsame : ts.map Transition.call = ts'.map Transition.call ∧ replies ts = replies ts' :=
    observed_same (hall.imp fun _ _ hboth => hboth.1)
  rw [hsame.2] at hreplies
  exact Run.unique hother hrun (hcalls.trans hsame.1) hreplies

/-- A bench that has just been bound. -/
def benchFresh : Driver := reachedBy [(.bind benchProfile, [])]

/-- A bench whose first job was cancelled between its two identity reads, and its result taken. -/
def benchAbandoned : Driver :=
  reachedBy [(.bind benchProfile, []), (.startInitialize 7 1000, []),
    (.poll 0 1, [replied 0x54 0x49]), (.cancelJob, []), (.takeResult, [])]

/-- A job under an id used before, which times out at its second transfer. -/
def benchRetry : List (Call × List Reply) :=
  [(.startInitialize 7 1000, []), (.poll 10 5, [replied 0x54 0x49, failedWith .i2cTimeout]),
    (.takeResult, [])]

/-- The two benches stand at different places of their rings and have counted differently, and the
retry runs alike on both. -/
theorem history_independence_abandoned :
    benchFresh.resultHead ≠ benchAbandoned.resultHead ∧
      benchFresh.transportStats ≠ benchAbandoned.transportStats ∧
      ∃ ts u ts' u', execute benchFresh benchRetry = some (ts, u) ∧ (exchange ts).length = 2 ∧
        DriverRun benchAbandoned ts' u' ∧ u.Alike u' ∧
        List.Forall₂ Transition.SameObservation ts ts' := by
  refine ⟨by decide +kernel, by decide +kernel, ?_⟩
  have hlength : (execute benchFresh benchRetry).map (fun run => (exchange run.1).length) =
      some 2 := by decide +kernel
  obtain ⟨⟨ts, u⟩, hrun, htwo⟩ := Option.map_eq_some_iff.mp hlength
  obtain ⟨ts', u', hrun', hend, hall, -⟩ := history_independence
    (reachable_reachedBy [(.bind benchProfile, [])]) (reachable_reachedBy _ : Reachable benchAbandoned)
    (by decide +kernel) (by decide +kernel) (by decide +kernel) (by decide +kernel)
    (by decide +kernel) (by decide +kernel) (by decide +kernel) (by decide +kernel)
    (by decide +kernel) (run_of_execute hrun)
  exact ⟨ts, u, ts', u', hrun, htwo, hrun', hend, hall.imp fun _ _ hboth => hboth.1⟩

end Ldc1614
