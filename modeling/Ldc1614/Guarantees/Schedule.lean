import Ldc1614.Guarantees.Deadline

/-! # Independence of the poll schedule

How the owner splits a job over `poll` calls does not matter. `remainder` is the job without
schedule and time, a program of transfers; whatever the budgets and times of the calls before the
deadline, what they do together is a run of that program, and only the completion time shows when it
ended. -/

namespace Ldc1614

open Interaction Interaction.Program

namespace Driver

variable {d m p : Driver} {stage : Stage} {reply : Reply} {nowMs : U64}

/-! ### A job without schedule and time -/

/-- How the active job ends: its outcome and status. -/
abbrev Verdict := TerminalOutcome × Status

/-- The next `fuel` transfers of the active job: the state they settle and, if one of them ends the
job, how. -/
def remainder : ℕ → Driver → Program Transfer Reply (Driver × Option Verdict)
  | 0, d => .done (d, none)
  | fuel + 1, d =>
      match d.stage with
      | none => .trap
      | some stage =>
          .call (stage.transfer d.config) fun reply =>
            match d.verdict stage reply with
            | none => remainder fuel (d.settled stage reply)
            | some verdict => .done (d.settled stage reply, some verdict)

/-- Go on with the job unless it has ended. -/
def goOn (fuel : ℕ) (end_ : Driver × Option Verdict) :
    Program Transfer Reply (Driver × Option Verdict) :=
  match end_.2 with
  | none => remainder fuel end_.1
  | some _ => .done end_

/-- Transfers may be made in portions. -/
theorem remainder_add (first later : ℕ) (d : Driver) :
    remainder (first + later) d = remainder first d >>= goOn later := by
  induction first generalizing d with
  | zero => rw [Nat.zero_add]; rfl
  | succ first ih =>
      rw [Nat.succ_add, remainder, remainder]
      cases d.stage with
      | none => rfl
      | some stage =>
          rw [call_bind]
          refine congrArg (Program.call _) (funext fun reply => ?_)
          cases d.verdict stage reply with
          | none => exact ih _
          | some verdict => rfl

/-- A job that has ended makes no more transfers. -/
theorem remainder_ended {events : List (Transfer × Reply)} {fuel : ℕ} {verdict : Verdict}
    (h : (remainder fuel d).Yields events (p, some verdict)) (more : ℕ) :
    (remainder (fuel + more) d).Yields events (p, some verdict) := by
  rw [remainder_add]
  exact yields_bind.mpr ⟨events, _, [], by rw [List.append_nil], h, rfl, rfl⟩

/-- One more transfer of a job that goes on. -/
theorem remainder_snoc {events : List (Transfer × Reply)} {fuel : ℕ}
    (h : (remainder fuel d).Yields events (p, none)) (hstage : p.stage = some stage) (reply : Reply) :
    (remainder (fuel + 1) d).Yields (events ++ [(stage.transfer p.config, reply)])
      (p.settled stage reply, p.verdict stage reply) := by
  rw [remainder_add]
  refine yields_bind.mpr ⟨events, _, _, rfl, h, ?_⟩
  simp only [goOn, remainder, hstage, yields_call]
  refine ⟨reply, [], rfl, ?_⟩
  cases p.verdict stage reply with
  | none => exact ⟨rfl, rfl⟩
  | some verdict => exact ⟨rfl, rfl⟩

/-! ### What the calls of a schedule do -/

/-- The state the job has reached, or has been left in at this time. -/
def concluded (nowMs : U64) (end_ : Driver × Option Verdict) : Driver :=
  match end_.2 with
  | none => end_.1
  | some verdict => (end_.1.finishJob verdict.1 verdict.2 nowMs).1

/-- From `d` on the job has made exactly these transfers, all of them at times in `times`, and has
come to `m`. -/
def Proceeds (times : U64 → Prop) (d : Driver) (transfers : List (Transfer × Reply)) (m : Driver) :
    Prop :=
  ∃ end_ nowMs, (remainder transfers.length d).Yields transfers end_ ∧ end_.1.frame = d.frame ∧
    (end_.2 ≠ none → times nowMs) ∧ m = concluded nowMs end_

variable {times : U64 → Prop} {transfers : List (Transfer × Reply)}

theorem Proceeds.refl (d : Driver) : Proceeds times d [] d :=
  ⟨(d, none), 0, ⟨rfl, rfl⟩, rfl, fun h => absurd rfl h, rfl⟩

/-- A job that is still active is where its transfers have settled it. -/
theorem Proceeds.of_active (h : Proceeds times d transfers m) (hactive : m.progress.active = true) :
    (remainder transfers.length d).Yields transfers (m, none) ∧ m.frame = d.frame := by
  obtain ⟨⟨p, verdict⟩, nowMs, hy, hframe, -, rfl⟩ := h
  cases verdict with
  | none => exact ⟨hy, hframe⟩
  | some verdict => cases hactive

/-- **One step of a schedule.** A step of a `poll` before the deadline makes the next transfer of the
job or none. -/
theorem Proceeds.step {m' : Driver} {mark : Mark} {maxTransfers : U8}
    (h : Proceeds times d transfers m) (hstep : Step m mark m')
    (hcall : mark.call = .poll nowMs maxTransfers) (htime : times nowMs)
    (hdue : dueOrPast nowMs d.progress.deadlineMs = false) :
    Proceeds times d (transfers ++ mark.jobTransfer.toList) m' := by
  cases hstep with
  | @job stage now max timeoutMs reply hrun _ =>
      obtain ⟨hy, hframe⟩ := h.of_active hrun.active
      obtain ⟨rfl, rfl⟩ : now = nowMs ∧ max = maxTransfers := by
        simpa [Mark.call] using hcall
      rw [jobTransfer_stage, Option.toList_some]
      refine ⟨(m.settled stage reply, m.verdict stage reply), now, ?_,
        (settled_frame m stage reply).trans hframe, fun _ => htime, ?_⟩
      · rw [List.length_append]
        exact remainder_snoc hy hrun.here reply
      · unfold concluded
        cases hv : m.verdict stage reply with
        | none => exact resume_driver_of_none hv
        | some verdict => exact resume_driver_of_some hv
  | direct hdirect =>
      -- outside a job nothing is exchanged during a poll
      obtain rfl : _ = Call.poll nowMs maxTransfers := hcall
      cases hdirect with
      | observed hcall => rcases hcall with h | h <;> cases h
      | read hcall => cases hcall
  | quiet hquiet =>
      obtain rfl : _ = Call.poll nowMs maxTransfers := hcall
      rw [show (Mark.ret _ _).jobTransfer = none from rfl, Option.toList_none, List.append_nil]
      cases hquiet with
      | kept => exact h
      | expired _ _ hactive hlate =>
          have hframe := (h.of_active hactive).2
          have hdeadline : m.progress.deadlineMs = d.progress.deadlineMs :=
            (congrArg (fun e : Driver => e.progress.deadlineMs) hframe :)
          rw [hdeadline, hdue] at hlate
          cases hlate
      | started hstarts => cases hstarts

end Driver

/-! ### The calls of a schedule -/

/-- The calls that need an idle driver, or a free one: all are refused while a job is active. -/
def Call.needsIdle : Call → Bool
  | .bind _ | .updateDesiredConfig _ | .startInitialize _ _ | .startApplyConfig _ _
  | .startResetAndReapply _ _ | .startAcquire _ _ _ | .readDeviceStatus | .readDataReady | .sleep
  | .wake | .readInitDriveCurrent _ | .readRegister16 _ | .writeRegister16 _ _ => true
  | .poll _ _ | .end_ | .cancelJob | .takeResult | .invalidateAppliedState _ | .readIntb => false

open Driver

variable {d m m' : Driver} {mark : Mark} {t : DriverTransition} {times : U64 → Prop}
  {transfers : List (Transfer × Reply)}

/-- A refused call leaves the active job alone. -/
theorem Step.refused (h : Step m mark m') (hw : m.WellFormed) (hactive : m.progress.active = true)
    (hcall : mark.call.needsIdle = true) : m' = m ∧ mark.jobTransfer = none := by
  have hbusy {P : Prop} (hidle : m.progress.active = false) : P :=
    absurd (hactive.symm.trans hidle) Bool.noConfusion
  cases h with
  | job => cases hcall
  | direct hdirect =>
      refine ⟨?_, hdirect.jobTransfer_eq_none⟩
      cases hdirect with
      | observed => rfl
      | read _ _ hidle => exact hbusy hidle
      | slept _ hidle => exact hbusy hidle
      | woken _ hidle => exact hbusy hidle
      | wrote _ _ _ hidle => exact hbusy hidle
  | quiet hquiet =>
      refine ⟨?_, rfl⟩
      cases hquiet with
      | kept => rfl
      | bound _ hfree => exact hbusy (hw.unbound hfree).1
      | updated _ hupdate => exact hbusy hupdate.idle
      | started _ hadm => exact hbusy hadm.idle
      | ended | expired | cancelled | taken | invalidated => cases hcall

/-- Observing INTB changes nothing. -/
theorem Step.observed (h : Step m mark m') (hcall : mark.call = .readIntb) :
    m' = m ∧ mark.jobTransfer = none := by
  cases h with
  | job => cases hcall
  | direct hdirect =>
      refine ⟨?_, hdirect.jobTransfer_eq_none⟩
      obtain rfl : _ = Call.readIntb := hcall
      cases hdirect with
      | observed => rfl
      | read hcall => cases hcall
  | quiet hquiet =>
      refine ⟨?_, rfl⟩
      obtain rfl : _ = Call.readIntb := hcall
      cases hquiet with
      | kept => rfl
      | started hstarts => cases hstarts

/-- A call of a schedule: a `poll` at one of these times, an observation of INTB, or a call that is
refused because a job is active. -/
def Scheduled (times : U64 → Prop) (t : DriverTransition) : Prop :=
  (∃ nowMs maxTransfers, t.call = .poll nowMs maxTransfers ∧ times nowMs) ∨ t.call = .readIntb ∨
    t.call.needsIdle = true ∧ t.before.progress.active = true

/-- **One call of a schedule** makes the next transfers of the job, if any. -/
theorem Driver.Proceeds.call (h : Proceeds times d transfers t.before) (hw : t.before.WellFormed)
    (hv : t.Valid Call.exec) (hscheduled : Scheduled times t)
    (htimes : ∀ nowMs, times nowMs → dueOrPast nowMs d.progress.deadlineMs = false) :
    Proceeds times d (transfers ++ (marks t).filterMap Mark.jobTransfer) t.after := by
  have hplain : nestedMarks t = [] := by
    unfold nestedMarks
    split
    · next hcall => rcases hscheduled with ⟨_, _, h, -⟩ | h | ⟨h, -⟩ <;> rw [hcall] at h <;> cases h
    · rfl
  have hpath := (transition_path t hw hv).restrict fun mark hmark => (call_of_mark hplain hmark).1
  -- a call that changes nothing makes no transfer either
  have hidle (hstep : ∀ mark m', Step t.before mark m' → mark.call = t.call →
      m' = t.before ∧ mark.jobTransfer = none) :
      Proceeds times d (transfers ++ (marks t).filterMap Mark.jobTransfer) t.after := by
    have hkept := hpath.history
      (fun past m => m = t.before ∧ past.filterMap Mark.jobTransfer = []) [] ⟨rfl, rfl⟩ fun past m
        mark m' hpast hnext => by
          obtain ⟨rfl, hnone⟩ := hpast
          obtain ⟨hsame, hmark⟩ := hstep mark m' hnext.1 hnext.2
          refine ⟨hsame, ?_⟩
          rw [List.filterMap_append, hnone]
          simp [hmark]
    rw [List.nil_append] at hkept
    rw [hkept.1, hkept.2, List.append_nil]
    exact h
  rcases hscheduled with ⟨nowMs, maxTransfers, hcall, htime⟩ | hcall | ⟨hcall, hactive⟩
  · refine hpath.history (fun past m => Proceeds times d
      (transfers ++ past.filterMap Mark.jobTransfer) m) [] ?_ fun past m mark m' hpast hnext => ?_
    · rw [List.filterMap_nil, List.append_nil]
      exact h
    · rw [filterMap_snoc]
      exact hpast.step hnext.1 (hnext.2.trans hcall) htime (htimes nowMs htime)
  · exact hidle fun mark m' hstep hmark => hstep.observed (hmark.trans hcall)
  · exact hidle fun mark m' hstep hmark => hstep.refused hw hactive (by rw [hmark]; exact hcall)

/-- A schedule makes the transfers of the job, one after another. -/
theorem proceeds_of_schedule {u : Driver} {ts : List DriverTransition} (hw : d.WellFormed)
    (h : DriverRun d ts u) (hscheduled : ∀ t ∈ ts, Scheduled times t)
    (htimes : ∀ nowMs, times nowMs → dueOrPast nowMs d.progress.deadlineMs = false) :
    Proceeds times d (jobTransfers ts) u := by
  induction h with
  | nil => exact Proceeds.refl d
  | @snoc ts t m m' hrun hlast ih =>
      obtain ⟨rfl, hv, rfl⟩ := hlast
      have hpast := ih fun t ht => hscheduled t (List.mem_append_left _ ht)
      have hcall := hpast.call (run_wellFormed hw hrun) hv
        (hscheduled t (List.mem_append_right _ (List.mem_singleton_self t))) htimes
      have hconcat := jobTransfers_concat [] ts t
      simp only [List.nil_append] at hconcat
      rw [hconcat]
      exact hcall

/-! ### Two schedules -/

/-- The result without its completion time. -/
def OperationResult.untimed (result : OperationResult) : OperationResult :=
  { result with
    completedUptimeMs := 0
    sampleBatch := { result.sampleBatch with completedUptimeMs := 0 } }

/-- The completion time is only copied into a batch. -/
theorem buildAcquisition_untimed (p : Driver) (nowMs : U64) :
    { p.buildAcquisition nowMs with completedUptimeMs := 0 } = p.buildAcquisition 0 := by
  have hfold (indices : List (Fin 4)) (batch : SampleBatch) :
      { indices.foldl p.addSample batch with completedUptimeMs := 0 } =
        indices.foldl p.addSample { batch with completedUptimeMs := 0 } := by
    induction indices generalizing batch with
    | nil => rfl
    | cons index rest ih =>
        rw [List.foldl_cons, List.foldl_cons, ih]
        congr 1
        unfold addSample
        dsimp only
        split <;> rfl
  exact hfold _ _

/-- The completion time is all a result knows of its schedule. -/
theorem terminalResult_untimed (p : Driver) (outcome : TerminalOutcome) (status : Status)
    (nowMs : U64) :
    (p.terminalResult outcome status nowMs).untimed = p.terminalResult outcome status 0 := by
  have hbatch := buildAcquisition_untimed p nowMs
  unfold terminalResult OperationResult.untimed
  dsimp only
  cases hkind : (p.progress.kind == .acquire && outcome == .success) with
  | true =>
      rw [if_pos rfl, if_pos rfl, hbatch]
  | false =>
      rw [if_neg (by simp), if_neg (by simp)]

/-- The two states differ at most in the results, the newest of which differ in the completion time
only. -/
structure SameButTime (d u u' : Driver) : Prop where
  /-- Trust, fault, statistics, revision and everything else agree. -/
  same : u' = { u with results := u'.results }
  result : ∃ result result', u.queue = d.queue ++ [result] ∧ u'.queue = d.queue ++ [result'] ∧
    result'.untimed = result.untimed

/-- What concludes a job at two times. -/
theorem sameButTime_of_concluded {p : Driver} {verdict : Verdict} (hframe : p.frame = d.frame)
    (hslot : d.resultCount.toNat < resultCapacity) (nowMs nowMs' : U64) :
    SameButTime d (concluded nowMs (p, some verdict)) (concluded nowMs' (p, some verdict)) where
  same := rfl
  result := by
    have hcount : p.resultCount = d.resultCount := (congrArg resultCount hframe :)
    have hqueue : p.queue = d.queue := (congrArg queue hframe :)
    refine ⟨p.terminalResult verdict.1 verdict.2 nowMs, p.terminalResult verdict.1 verdict.2 nowMs',
      ?_, ?_, ?_⟩
    · rw [← hqueue]
      exact finishJob_queue verdict.1 verdict.2 (hcount ▸ hslot)
    · rw [← hqueue]
      exact finishJob_queue verdict.1 verdict.2 (hcount ▸ hslot)
    · rw [terminalResult_untimed, terminalResult_untimed]

/-- What two schedules make of one job: the replies decide which transfers are made and how the job
ends. -/
theorem Driver.Proceeds.unique {us us' : List (Transfer × Reply)} {left left' : List Reply}
    {u u' : Driver} (hactive : d.progress.active = true) (h : Proceeds times d us u)
    (h' : Proceeds times d us' u') (hend : u.progress.active = false)
    (hend' : u'.progress.active = false)
    (hreplies : us.map Prod.snd ++ left = us'.map Prod.snd ++ left') :
    us = us' ∧ ∃ p verdict nowMs nowMs', p.frame = d.frame ∧ times nowMs ∧ times nowMs' ∧
      u = concluded nowMs (p, some verdict) ∧ u' = concluded nowMs' (p, some verdict) := by
  -- the job has ended, so that the runs of its program are complete
  have hcomplete {us : List (Transfer × Reply)} {u : Driver} (h : Proceeds times d us u)
      (hend : u.progress.active = false) : ∃ p verdict nowMs,
        (remainder us.length d).Yields us (p, some verdict) ∧ p.frame = d.frame ∧ times nowMs ∧
          u = concluded nowMs (p, some verdict) := by
    obtain ⟨⟨p, verdict⟩, nowMs, hy, hframe, htime, rfl⟩ := h
    cases verdict with
    | none =>
        have hkept : p.progress.active = d.progress.active :=
          (congrArg (fun e : Driver => e.progress.active) hframe :)
        exact absurd (hend.symm.trans (hkept.trans hactive)) Bool.noConfusion
    | some verdict => exact ⟨p, verdict, nowMs, hy, hframe, htime (Option.some_ne_none _), rfl⟩
  obtain ⟨p, verdict, nowMs, hy, hframe, htime, rfl⟩ := hcomplete h hend
  obtain ⟨p', verdict', nowMs', hy', -, htime', rfl⟩ := hcomplete h' hend'
  -- both are runs of the same program once the shorter budget is raised
  have hlong := remainder_ended hy us'.length
  have hlong' := remainder_ended hy' us.length
  rw [Nat.add_comm] at hlong'
  obtain ⟨hus, hsame, -⟩ := Yields.unique hlong hlong' hreplies
  obtain ⟨rfl, hverdict⟩ := Prod.mk.inj hsame
  obtain rfl := Option.some.inj hverdict
  exact ⟨hus, p, verdict, nowMs, nowMs', hframe, htime, htime', rfl, rfl⟩

/-! ### Portions -/

/-- A job that is still running has used its budget and has transfers left. -/
theorem drive_unfinished {stage : Stage} {nowMs : U64} {timeoutMs : U32} {budget : ℕ}
    {events : List Event} {out : Driver × Status} (h : d.Running stage) (hvalid : d.config.Valid)
    (hy : (drive nowMs timeoutMs budget d).Yields events out)
    (hactive : out.1.progress.active = true) :
    events.length = budget ∧ events.length <
      d.progress.maximumTransfers.toNat - d.progress.completedTransfers.toNat := by
  have hleft := h.transfersLeft.2
  induction budget generalizing d stage events with
  | zero =>
      obtain ⟨rfl, -⟩ := hy
      exact ⟨rfl, Nat.sub_pos_of_lt hleft⟩
  | succ budget ih =>
      simp only [drive, h.here, yields_call] at hy
      obtain ⟨reply, rest, rfl, hy⟩ := hy
      cases hv : d.verdict stage reply with
      | none =>
          rw [resume_of_none hv] at hy
          obtain ⟨next, hnext⟩ := h.settled hvalid hv
          have hrest := ih hnext (by rw [settled_config]; exact hvalid) hy hnext.transfersLeft.2
          rw [settled_maximumTransfers, settled_completedTransfers, h.completed_succ] at hrest
          rw [List.length_cons]
          exact ⟨by omega, by omega⟩
      | some verdict =>
          rw [resume_of_some hv] at hy
          obtain ⟨-, rfl⟩ := hy
          cases hactive

/-- Every exchange of a `poll` is a transfer of the job. -/
theorem length_transfers_of_poll {nowMs : U64} {maxTransfers : U8} (hw : t.before.WellFormed)
    (hv : t.Valid Call.exec) (hcall : t.call = .poll nowMs maxTransfers) :
    ((marks t).filterMap Mark.jobTransfer).length = t.events.length := by
  have hplain : nestedMarks t = [] := by rw [nestedMarks, hcall]
  have hpath := (transition_path t hw hv).restrict fun mark hmark => (call_of_mark hplain hmark).1
  have hlength := hpath.history
    (fun past _ => (past.filterMap Mark.jobTransfer).length = (past.flatMap Mark.events).length) []
    rfl fun past m mark m' hpast hnext => by
      have hmark : mark.jobTransfer.toList.length = mark.events.length := by
        obtain ⟨hstep, hmark⟩ := hnext
        rw [hcall] at hmark
        cases hstep with
        | job => rw [jobTransfer_stage]; rfl
        | direct hdirect =>
            obtain rfl : _ = Call.poll nowMs maxTransfers := hmark
            cases hdirect with
            | observed hcall => rcases hcall with h | h <;> cases h
            | read hcall => cases hcall
        | quiet => rfl
      have hsnoc := congrArg List.length (filterMap_snoc [] past mark)
      simp only [List.nil_append, List.length_append] at hsnoc
      rw [hsnoc, hpast, hmark, List.flatMap_append, List.flatMap_singleton, List.length_append]
  rw [List.nil_append] at hlength
  have hevents := timeline_events [t]
  rw [timeline, List.flatMap_singleton, exchange_cons, exchange_nil, List.append_nil] at hevents
  rw [hlength, hevents]

/-- The transfers fit into this budget, and a job that goes on has used it up. -/
def Exhausts (budget : ℕ) (ts : List DriverTransition) (u : Driver) : Prop :=
  (jobTransfers ts).length ≤ budget ∧
    (u.progress.active = true → (jobTransfers ts).length = budget)

/-- Without a job a `poll` makes no transfer and changes nothing. -/
theorem poll_of_no_job {nowMs : U64} {maxTransfers : U8} (hw : t.before.WellFormed)
    (hv : t.Valid Call.exec) (hcall : t.call = .poll nowMs maxTransfers)
    (hidle : t.before.progress.active = false) : jobTransfers [t] = [] ∧ t.after = t.before := by
  obtain ⟨status, -, hpoll⟩ := poll_valid hv hcall
  rw [poll_of_idle hidle] at hpoll
  have hlength := length_transfers_of_poll hw hv hcall
  rw [hpoll.1, List.length_nil] at hlength
  refine ⟨?_, (Prod.mk.inj hpoll.2).1⟩
  rw [jobTransfers, timeline, List.flatMap_singleton]
  exact List.length_eq_zero_iff.mp hlength

/-- One `poll` before the deadline, with as many milliseconds left as it may make transfers. -/
theorem exhausts_poll {nowMs : U64} {maxTransfers : U8} (hw : t.before.WellFormed)
    (hv : t.Valid Call.exec) (hcall : t.call = .poll nowMs maxTransfers)
    (hdue : dueOrPast nowMs t.before.progress.deadlineMs = false)
    (htime : maxTransfers.toNat ≤ (t.before.progress.deadlineMs - nowMs).toNat) :
    Exhausts maxTransfers.toNat [t] t.after := by
  have hlength : (jobTransfers [t]).length = t.events.length := by
    rw [jobTransfers, timeline, List.flatMap_singleton]
    exact length_transfers_of_poll hw hv hcall
  cases hactive : t.before.progress.active with
  | false =>
      obtain ⟨hnone, hafter⟩ := poll_of_no_job hw hv hcall hactive
      rw [Exhausts, hnone, hafter, hactive]
      exact ⟨Nat.zero_le _, Bool.noConfusion⟩
  | true =>
      rw [Exhausts, hlength]
      obtain ⟨status, -, hpoll⟩ := poll_valid hv hcall
      obtain ⟨stage, hrun⟩ := hw.running hactive
      have hvalid := hw.validProfile hrun.bound
      by_cases hmax : maxTransfers = 0
      · rw [hmax, poll_zero hactive hdue] at hpoll
        rw [hpoll.1, hmax]
        exact ⟨le_refl 0, fun _ => rfl⟩
      · have hbudget := hrun.transferBudget_toNat nowMs maxTransfers
        rw [poll_eq_drive hrun hvalid hdue hmax] at hpoll
        have hle := (drive_events hrun hvalid hpoll).1
        refine ⟨by omega, fun hafter => ?_⟩
        -- the budget is not cut short: neither by the time nor by the transfers left
        obtain ⟨hused, hleft⟩ := drive_unfinished hrun hvalid hpoll hafter
        omega

/-- A job that has been `poll`ed transfer by transfer. -/
theorem exhausts_singles {nowMs : U64} {u : Driver} {ts : List DriverTransition}
    (hw : d.WellFormed) (h : DriverRun d ts u)
    (hcalls : ∀ t ∈ ts, t.call = .poll nowMs 1)
    (hdue : dueOrPast nowMs d.progress.deadlineMs = false) : Exhausts ts.length ts u := by
  induction h with
  | nil => exact ⟨le_refl 0, fun _ => rfl⟩
  | @snoc ts t m m' hrun hlast ih =>
      obtain ⟨rfl, hv, rfl⟩ := hlast
      have hcalls' : ∀ t ∈ ts, t.call = .poll nowMs 1 :=
        fun t ht => hcalls t (List.mem_append_left _ ht)
      have hcall := hcalls t (List.mem_append_right _ (List.mem_singleton_self t))
      have hbefore := run_wellFormed hw hrun
      obtain ⟨hle, hused⟩ := ih hcalls'
      have hsplit : jobTransfers (ts ++ [t]) = jobTransfers ts ++ jobTransfers [t] := by
        rw [jobTransfers, timeline, List.flatMap_append, List.filterMap_append]
        rfl
      rw [Exhausts, hsplit, List.length_append, List.length_append, List.length_singleton]
      cases hactive : t.before.progress.active with
      | false =>
          obtain ⟨hnone, hafter⟩ := poll_of_no_job hbefore hv hcall hactive
          rw [hnone, hafter, hactive]
          exact ⟨Nat.add_le_add hle (Nat.zero_le 1), Bool.noConfusion⟩
      | true =>
          -- the job of `t.before` is the one the run started with
          have hproceeds : Proceeds (· = nowMs) d (jobTransfers ts) t.before :=
            proceeds_of_schedule hw hrun (fun t ht => Or.inl ⟨nowMs, 1, hcalls' t ht, rfl⟩)
              (by rintro _ rfl; exact hdue)
          have hframe := (hproceeds.of_active hactive).2
          have hdeadline : t.before.progress.deadlineMs = d.progress.deadlineMs :=
            (congrArg (fun e : Driver => e.progress.deadlineMs) hframe :)
          have hdue' : dueOrPast nowMs t.before.progress.deadlineMs = false := by
            rw [hdeadline]
            exact hdue
          have hone := exhausts_poll hbefore hv hcall hdue' (timeLeft_pos hdue')
          have hunit : (1 : U8).toNat = 1 := rfl
          rw [Exhausts, hunit] at hone
          refine ⟨Nat.add_le_add hle hone.1, fun hafter => ?_⟩
          rw [hused hactive, hone.2 hafter]

/-- Two ways of making at most `budget` transfers at one time, fed from the same replies, do the
same. -/
theorem same_of_exhausts {nowMs : U64} {budget : ℕ} {ts ts' : List DriverTransition}
    {u u' : Driver} {left left' : List Reply} (hactive : d.progress.active = true)
    (h : Proceeds (· = nowMs) d (jobTransfers ts) u)
    (h' : Proceeds (· = nowMs) d (jobTransfers ts') u') (hbudget : Exhausts budget ts u)
    (hbudget' : Exhausts budget ts' u')
    (hreplies : (jobTransfers ts).map Prod.snd ++ left = (jobTransfers ts').map Prod.snd ++ left') :
    jobTransfers ts = jobTransfers ts' ∧ u = u' := by
  -- either way the budget leads to the same place in the job's program
  have hprogram {ts : List DriverTransition} {u : Driver}
      (h : Proceeds (· = nowMs) d (jobTransfers ts) u) (hbudget : Exhausts budget ts u) :
      ∃ end_, (remainder budget d).Yields (jobTransfers ts) end_ ∧ u = concluded nowMs end_ := by
    obtain ⟨⟨p, verdict⟩, now, hy, hframe, htime, rfl⟩ := h
    cases verdict with
    | none =>
        have hkept : p.progress.active = d.progress.active :=
          (congrArg (fun e : Driver => e.progress.active) hframe :)
        have hlength := hbudget.2 (hkept.trans hactive)
        exact ⟨(p, none), by rw [← hlength]; exact hy, rfl⟩
    | some verdict =>
        obtain rfl := htime (Option.some_ne_none _)
        obtain ⟨more, rfl⟩ := Nat.exists_eq_add_of_le hbudget.1
        exact ⟨(p, some verdict), remainder_ended hy more, rfl⟩
  obtain ⟨end_, hy, rfl⟩ := hprogram h hbudget
  obtain ⟨end', hy', rfl⟩ := hprogram h' hbudget'
  obtain ⟨hsame, rfl, -⟩ := Yields.unique hy hy' hreplies
  exact ⟨hsame, rfl⟩

/-! ### Independence of the schedule -/

/-- The run is a schedule that drives the active job of `d` to its end: it polls before the
deadline only, with any budgets, and otherwise observes INTB or is refused. -/
structure Drives (d : Driver) (ts : List DriverTransition) (u : Driver) : Prop where
  run : DriverRun d ts u
  scheduled : ∀ t ∈ ts, Scheduled (fun nowMs => dueOrPast nowMs d.progress.deadlineMs = false) t
  ended : u.progress.active = false

/-- **Independence of the poll schedule.** Two schedules that drive the active job of a reachable
driver to its end, fed from the same transport outcomes, make the same transfers and leave the same
state and the same result, up to the completion time. One `poll` with a budget of `n` transfers does
what `n` polls of one transfer each do, as long as `n` milliseconds are left. -/
theorem poll_schedule_independence {d : Driver} (hd : Reachable d)
    (hactive : d.progress.active = true) :
    (∀ ts u ts' u' left left', Drives d ts u → Drives d ts' u' →
      (jobTransfers ts).map Prod.snd ++ left = (jobTransfers ts').map Prod.snd ++ left' →
        jobTransfers ts = jobTransfers ts' ∧ SameButTime d u u') ∧
    (∀ nowMs (n : U8) ts u ts' u' left left', dueOrPast nowMs d.progress.deadlineMs = false →
      n.toNat ≤ (d.progress.deadlineMs - nowMs).toNat →
      DriverRun d ts u → ts.map Transition.call = [.poll nowMs n] →
      DriverRun d ts' u' → ts'.map Transition.call = List.replicate n.toNat (.poll nowMs 1) →
      (jobTransfers ts).map Prod.snd ++ left = (jobTransfers ts').map Prod.snd ++ left' →
        jobTransfers ts = jobTransfers ts' ∧ u = u') := by
  have hw := hd.wellFormed
  obtain ⟨stage, hrun⟩ := hw.running hactive
  constructor
  · intro ts u ts' u' left left' h h' hreplies
    -- either schedule proceeds transfer by transfer, and the outcomes fix every transfer
    have hp := proceeds_of_schedule hw h.run h.scheduled fun _ hdue => hdue
    have hp' := proceeds_of_schedule hw h'.run h'.scheduled fun _ hdue => hdue
    obtain ⟨hsame, p, verdict, nowMs, nowMs', hframe, -, -, rfl, rfl⟩ :=
      hp.unique hactive hp' h.ended h'.ended hreplies
    exact ⟨hsame, sameButTime_of_concluded hframe hrun.slot nowMs nowMs'⟩
  · intro nowMs n ts u ts' u' left left' hdue htime h hcalls h' hcalls' hreplies
    -- the `n` calls poll for one transfer each
    have hsingles : ∀ t ∈ ts', t.call = .poll nowMs 1 := fun t ht => by
      have hmem := List.mem_map_of_mem (f := Transition.call) ht
      rw [hcalls'] at hmem
      exact List.eq_of_mem_replicate hmem
    have hlength : ts'.length = n.toNat := by
      have hmap := congrArg List.length hcalls'
      rwa [List.length_map, List.length_replicate] at hmap
    obtain ⟨t, rfl, hcall⟩ := List.map_eq_singleton_iff.mp hcalls
    obtain ⟨rfl, hv, hlast⟩ := Run.first h
    obtain rfl := hlast.of_nil
    have htimes : ∀ now, now = nowMs → dueOrPast now t.before.progress.deadlineMs = false := by
      rintro _ rfl
      exact hdue
    -- both proceed at the one time `nowMs`, and both use up `n` transfers or end the job
    have hp : Proceeds (· = nowMs) t.before (jobTransfers [t]) t.after :=
      proceeds_of_schedule hw h (fun t' ht => Or.inl ⟨nowMs, n, by
        rw [List.mem_singleton.mp ht, hcall], rfl⟩) htimes
    have hp' : Proceeds (· = nowMs) t.before (jobTransfers ts') u' :=
      proceeds_of_schedule hw h' (fun t' ht => Or.inl ⟨nowMs, 1, hsingles t' ht, rfl⟩) htimes
    have hall' := exhausts_singles hw h' hsingles hdue
    rw [hlength] at hall'
    exact same_of_exhausts hactive hp hp' (exhausts_poll hw hv hcall hdue htime) hall' hreplies

/-- A schedule in portions, with an empty poll and a refused call in between. -/
def benchPortions : List (Call × List Reply) :=
  [(.poll 10 0, []), (.poll 20 1, [replied 0x54 0x49]), (.readDeviceStatus, []),
    (.poll 30 4, [failedWith .i2cTimeout])]

/-- The same job at once. -/
def benchAtOnce : List (Call × List Reply) :=
  [(.poll 500 9, [replied 0x54 0x49, failedWith .i2cTimeout])]

/-- The two schedules make the same transfers and end alike, at different times. -/
theorem poll_schedule_independence_portions : ∃ ts u ts' u',
    execute benchAdmitted benchPortions = some (ts, u) ∧
      execute benchAdmitted benchAtOnce = some (ts', u') ∧ (jobTransfers ts).length = 2 ∧ u ≠ u' ∧
      jobTransfers ts = jobTransfers ts' ∧ SameButTime benchAdmitted u u' := by
  have hrun : (execute benchAdmitted benchPortions).map (fun run =>
      (run.1.map (fun t => (t.call, t.before.progress.active)), run.2.progress.active,
        (jobTransfers run.1).length)) =
      some ([(.poll 10 0, true), (.poll 20 1, true), (.readDeviceStatus, true),
        (.poll 30 4, true)], false, 2) := by decide +kernel
  have hrun' : (execute benchAdmitted benchAtOnce).map (fun run =>
      (run.1.map Transition.call, run.2.progress.active)) = some ([.poll 500 9], false) := by
    decide +kernel
  have hends : (execute benchAdmitted benchPortions).map Prod.snd ≠
      (execute benchAdmitted benchAtOnce).map Prod.snd := by decide +kernel
  have hreplies : (execute benchAdmitted benchPortions).map
      (fun run => (jobTransfers run.1).map Prod.snd) =
      (execute benchAdmitted benchAtOnce).map (fun run => (jobTransfers run.1).map Prod.snd) := by
    decide +kernel
  obtain ⟨⟨ts, u⟩, hts, hall⟩ := Option.map_eq_some_iff.mp hrun
  obtain ⟨⟨ts', u'⟩, hts', hall'⟩ := Option.map_eq_some_iff.mp hrun'
  rw [hts, hts'] at hends hreplies
  simp only [Prod.mk.injEq] at hall hall'
  obtain ⟨hcalls, hended, hlength⟩ := hall
  obtain ⟨hcalls', hended'⟩ := hall'
  have hdrives : Drives benchAdmitted ts u :=
    { run := run_of_execute hts
      scheduled := by
        intro t ht
        have hmem := List.mem_map_of_mem (f := fun t : DriverTransition =>
          (t.call, t.before.progress.active)) ht
        rw [hcalls] at hmem
        simp only [List.mem_cons, Prod.mk.injEq, List.not_mem_nil, or_false] at hmem
        rcases hmem with ⟨h, -⟩ | ⟨h, -⟩ | ⟨h, hbusy⟩ | ⟨h, -⟩
        · exact Or.inl ⟨10, 0, h, by decide +kernel⟩
        · exact Or.inl ⟨20, 1, h, by decide +kernel⟩
        · exact Or.inr (Or.inr ⟨by rw [h]; rfl, hbusy⟩)
        · exact Or.inl ⟨30, 4, h, by decide +kernel⟩
      ended := hended }
  have hdrives' : Drives benchAdmitted ts' u' :=
    { run := run_of_execute hts'
      scheduled := by
        intro t ht
        have hmem := List.mem_map_of_mem (f := Transition.call) ht
        rw [hcalls', List.mem_singleton] at hmem
        exact Or.inl ⟨500, 9, hmem, by decide +kernel⟩
      ended := hended' }
  obtain ⟨hsame, halike⟩ := (poll_schedule_independence (reachable_reachedBy _)
    (by decide +kernel : benchAdmitted.progress.active = true)).1 ts u ts' u' [] [] hdrives hdrives'
    (congrArg (· ++ []) (Option.some.inj hreplies))
  exact ⟨ts, u, ts', u', hts, hts', hlength, fun h => hends (congrArg some h), hsame, halike⟩

end Ldc1614
