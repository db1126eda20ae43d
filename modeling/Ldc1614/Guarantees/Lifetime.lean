import Ldc1614.Guarantees.Delivery

/-! # The rule of a job's life

How a property of the active job is carried from its admission to its terminal result. A `JobRule`
says what one transfer, an interruption and the delivery of an earlier result do to the property;
the theorems lift it over every step, every call and every whole job of a run, whatever the owner
calls in between. -/

namespace Ldc1614

open Cmd Interaction Driver

/-! ### The rule -/

/-- `Active past d` is kept by the active job of `d` behind its transfers `past`, and `Ended` holds
of all the transfers of a job, its result and the state that queued it. -/
structure JobRule (Active : List (Transfer × Reply) → Driver → Prop)
    (Ended : List (Transfer × Reply) → OperationResult → Driver → Prop) : Prop where
  goesOn : ∀ {past : List (Transfer × Reply)} {d : Driver} {stage : Stage} {reply : Reply},
    Active past d → d.WellFormed → d.Running stage → d.verdict stage reply = none →
      Active (past ++ [(stage.transfer d.config, reply)]) (d.settled stage reply)
  ends : ∀ {past : List (Transfer × Reply)} {d : Driver} {stage : Stage} {reply : Reply}
      {outcome : TerminalOutcome} {status : Status} (nowMs : U64),
    Active past d → d.WellFormed → d.Running stage → d.Ending stage reply outcome status →
      Ended (past ++ [(stage.transfer d.config, reply)])
        ((d.settled stage reply).terminalResult outcome status nowMs)
        ((d.settled stage reply).finishJob outcome status nowMs).1
  interrupted : ∀ {past : List (Transfer × Reply)} {d : Driver} {stage : Stage}
      {outcome : TerminalOutcome} {cause : Status} (nowMs : U64),
    Active past d → d.Running stage → outcome ≠ .success →
      Ended past ((d.recordInterruption cause).terminalResult outcome cause nowMs)
        ((d.recordInterruption cause).finishJob outcome cause nowMs).1
  delivered : ∀ {past : List (Transfer × Reply)} {d : Driver}
      (hhead : d.resultHead.toNat < resultCapacity),
    Active past d → Active past (d.delivered hhead)

/-- The calls during which a job may end; an invalidation ends one through `cancelJob`. -/
def Call.concludes : Call → Bool
  | .poll _ _ | .cancelJob => true
  | _ => false

/-- The state in which a call queued the terminal result of the job it ended:
`invalidateAppliedState` does so in its nested cancellation. -/
def queuedAt (t : DriverTransition) : Driver :=
  match t.call with
  | .invalidateAppliedState _ => t.before.cancelJob.1
  | _ => t.after

variable {Active : List (Transfer × Reply) → Driver → Prop}
  {Ended : List (Transfer × Reply) → OperationResult → Driver → Prop}
  {past : List (Transfer × Reply)} {d d' : Driver} {labels : List Mark} {mark : Mark}
  {t : DriverTransition}

/-! ### Every step of the job -/

/-- **What a step of an active job does**: the job goes on, or it ends and its result is queued. -/
theorem JobRule.step (rule : JobRule Active Ended) (hactive : d.progress.active = true)
    (hp : Active past d) (hw : d.WellFormed) (h : Step d mark d') (hkept : mark.rebinds = false) :
    (d'.progress.active = true ∧ Active (past ++ mark.jobTransfer.toList) d' ∧
      (mark.call.concludes = true → d'.queue = d.queue)) ∨
    (mark.call.concludes = true ∧ d'.progress.active = false ∧ ∃ result,
      d'.queue = d.queue ++ [result] ∧ Ended (past ++ mark.jobTransfer.toList) result d') := by
  have hbusy {P : Prop} (hidle : d.progress.active = false) : P :=
    absurd (hactive.symm.trans hidle) Bool.noConfusion
  cases h with
  | @job stage nowMs maxTransfers timeoutMs reply hrun hdue =>
      rw [jobTransfer_stage]
      cases hv : d.verdict stage reply with
      | none =>
          rw [resume_driver_of_none hv]
          exact Or.inl ⟨settled_active.trans hactive, rule.goesOn hp hw hrun hv,
            fun _ => (congrArg Driver.queue (settled_frame d stage reply) :)⟩
      | some verdict =>
          obtain ⟨outcome, status⟩ := verdict
          rw [resume_driver_of_some hv]
          have hslot : (d.settled stage reply).resultCount.toNat < resultCapacity := by
            rw [settled_resultCount]
            exact hrun.slot
          refine Or.inr ⟨rfl, rfl, _, ?_, rule.ends nowMs hp hw hrun (ending_of_verdict hv)⟩
          rw [finishJob_queue outcome status hslot]
          exact congrArg (· ++ _) (congrArg Driver.queue (settled_frame d stage reply) :)
  | direct hdirect =>
      rw [hdirect.jobTransfer_eq_none, Option.toList_none, List.append_nil]
      cases hdirect with
      | observed hcall =>
          refine Or.inl ⟨hactive, hp, ?_⟩
          rcases hcall with rfl | rfl
          · intro hconcludes
            cases hconcludes
          · intro hconcludes
            cases hconcludes
      | read _ _ hidle => exact hbusy hidle
      | slept _ hidle => exact hbusy hidle
      | woken _ hidle => exact hbusy hidle
      | wrote _ _ _ hidle => exact hbusy hidle
  | quiet hquiet =>
      -- a return transfers nothing
      simp only [Mark.jobTransfer, Option.toList_none, List.append_nil]
      have hinterrupted {outcome : TerminalOutcome} {cause : Status} {nowMs : U64}
          (hfailed : outcome ≠ .success) :
          ∃ result, ((d.recordInterruption cause).finishJob outcome cause nowMs).1.queue =
              d.queue ++ [result] ∧
            Ended past result
              ((d.recordInterruption cause).finishJob outcome cause nowMs).1 := by
        obtain ⟨stage, hrun⟩ := hw.running hactive
        have hcount : (d.recordInterruption cause).resultCount = d.resultCount :=
          (congrArg resultCount (recordInterruption_frame cause) :)
        refine ⟨_, ?_, rule.interrupted nowMs hp hrun hfailed⟩
        rw [finishJob_queue outcome cause (hcount ▸ hrun.slot)]
        exact congrArg (· ++ _) (congrArg Driver.queue (recordInterruption_frame cause) :)
      cases hquiet with
      | kept => exact Or.inl ⟨hactive, hp, fun _ => rfl⟩
      | bound => cases hkept
      | ended => cases hkept
      | updated config hu => exact hbusy hu.idle
      | started hstarts hadm => exact hbusy hadm.idle
      | expired => exact Or.inr ⟨rfl, rfl, hinterrupted TerminalOutcome.noConfusion⟩
      | cancelled => exact Or.inr ⟨rfl, rfl, hinterrupted TerminalOutcome.noConfusion⟩
      | taken hpos hhead =>
          refine Or.inl ⟨hactive, rule.delivered hhead hp, ?_⟩
          intro hconcludes
          cases hconcludes
      | invalidated reason hidle => exact hbusy hidle

/-- Without an active job, polling and cancelling do nothing. -/
theorem Step.eq_of_idle (h : Step d mark d') (hidle : d.progress.active = false)
    (hconcludes : mark.call.concludes = true) : d' = d ∧ mark.jobTransfer = none := by
  have hbusy {P : Prop} (hactive : d.progress.active = true) : P :=
    absurd (hactive.symm.trans hidle) Bool.noConfusion
  cases h with
  | job hrun => exact hbusy hrun.active
  | @direct _ call event hdirect =>
      refine ⟨?_, hdirect.jobTransfer_eq_none⟩
      cases hdirect with
      | observed => rfl
      | read hcall =>
          cases call with
          | poll => cases hcall
          | cancelJob => cases hcall
          | _ => cases hconcludes
      | _ => cases hconcludes
  | quiet hquiet =>
      refine ⟨?_, rfl⟩
      cases hquiet with
      | kept => rfl
      | started hstarts => cases hstarts <;> cases hconcludes
      | expired _ _ hactive => exact hbusy hactive
      | cancelled hactive => exact hbusy hactive
      | _ => cases hconcludes

/-- Polling or cancelling a job: it goes on, or has ended. -/
theorem JobRule.concluding (rule : JobRule Active Ended) (hactive : d.progress.active = true)
    (hp : Active past d) (hw : d.WellFormed) (h : Path Step d labels d')
    (hlabels : ∀ mark ∈ labels, mark.call.concludes = true) :
    (d'.progress.active = true ∧ Active (past ++ labels.filterMap Mark.jobTransfer) d' ∧
        d'.queue = d.queue) ∨
      d'.progress.active = false ∧ ∃ result, d'.queue = d.queue ++ [result] ∧
        Ended (past ++ labels.filterMap Mark.jobTransfer) result d' := by
  induction h with
  | nil =>
      rw [List.filterMap_nil, List.append_nil]
      exact Or.inl ⟨hactive, hp, rfl⟩
  | @snoc labels mark m m' hpath hstep ih =>
      have hm := hpath.invariant hw fun _ _ _ hw hstep => hstep.wellFormed hw
      have hconcludes := hlabels mark (List.mem_append_right _ (List.mem_singleton_self _))
      rw [filterMap_snoc]
      rcases ih fun mark hmark => hlabels mark (List.mem_append_left _ hmark) with
        ⟨hon, hpast, hqueue⟩ | ⟨hidle, result, hqueue, hended⟩
      · have hkept : mark.rebinds = false := by
          cases mark with
          | bus => rfl
          | ret call output => cases call <;> first | rfl | cases hconcludes
        rcases rule.step hon hpast hm hstep hkept with
          ⟨hon', hpast', hsame⟩ | ⟨-, hidle, result, hadded, hended⟩
        · exact Or.inl ⟨hon', hpast', (hsame hconcludes).trans hqueue⟩
        · exact Or.inr ⟨hidle, result, hadded.trans (by rw [hqueue]), hended⟩
      · -- the job has ended before this step
        obtain ⟨rfl, hnone⟩ := hstep.eq_of_idle hidle hconcludes
        rw [hnone, Option.toList_none, List.append_nil]
        exact Or.inr ⟨hidle, result, hqueue, hended⟩

/-- No other call ends a job. -/
theorem JobRule.undisturbed (rule : JobRule Active Ended) (hactive : d.progress.active = true)
    (hp : Active past d) (hw : d.WellFormed) (h : Path Step d labels d')
    (hlabels : ∀ mark ∈ labels, mark.call.concludes = false ∧ mark.rebinds = false) :
    d'.progress.active = true ∧ Active (past ++ labels.filterMap Mark.jobTransfer) d' := by
  induction h with
  | nil =>
      rw [List.filterMap_nil, List.append_nil]
      exact ⟨hactive, hp⟩
  | @snoc labels mark m m' hpath hstep ih =>
      have hm := hpath.invariant hw fun _ _ _ hw hstep => hstep.wellFormed hw
      obtain ⟨hconcludes, hkept⟩ :=
        hlabels mark (List.mem_append_right _ (List.mem_singleton_self _))
      obtain ⟨hon, hpast⟩ := ih fun mark hmark => hlabels mark (List.mem_append_left _ hmark)
      rw [filterMap_snoc]
      rcases rule.step hon hpast hm hstep hkept with ⟨hon', hpast', -⟩ | ⟨hended, -⟩
      · exact ⟨hon', hpast'⟩
      · exact absurd (hconcludes.symm.trans hended) Bool.noConfusion

/-! ### Every call of the job -/

/-- A call that begins or ends a binding leaves no job and no result. -/
theorem mailbox_of_rebinds (hw : t.before.WellFormed) (hv : t.Valid Call.exec)
    (hrebinds : t.call.rebinds t.output = true) : t.after.mailbox = ⟨none, []⟩ := by
  obtain ⟨m, -, hlast⟩ := Path.last (transition_path t hw hv)
  exact hlast.clears hrebinds

/-- An invalidation of an active job: its nested cancellation ends the job. -/
theorem JobRule.invalidate {reason : Status} (rule : JobRule Active Ended)
    (hactive : t.before.progress.active = true) (hp : Active past t.before)
    (hw : t.before.WellFormed) (hv : t.Valid Call.exec)
    (hcall : t.call = .invalidateAppliedState reason) :
    (marks t).filterMap Mark.jobTransfer = [] ∧ t.after.progress.active = false ∧ ∃ result,
      t.after.queue = t.before.queue ++ [result] ∧ Ended past result (queuedAt t) := by
  -- the call cancels the job first, by a step of its own
  have hcancelled : Step t.before (.ret .cancelJob (.status .ok)) t.before.cancelJob.1 := by
    have hstep := Step.quiet (Driver.Quiet.cancelled hactive)
    rw [Driver.cancelJob, if_neg (by simp [hactive])]
    exact hstep
  have hidle : t.before.cancelJob.1.progress.active = false := by
    rw [Driver.cancelJob, if_neg (by simp [hactive])]
    rfl
  -- then it revokes the trust, which no longer concerns the job
  have hafter : t.after = t.before.cancelJob.1.invalidated reason := by
    rw [Transition.Valid, hcall] at hv
    obtain ⟨-, hend⟩ := hv
    rw [(Prod.mk.inj hend).1, Driver.invalidateAppliedState, if_pos hactive]
    rfl
  have hnone : (marks t).filterMap Mark.jobTransfer = [] := by
    rw [marks, nestedMarks, hcall, events_eq_nil hw hv (by rw [hcall]; rfl)]
    simp [Mark.jobTransfer, hactive]
  have hqueued : queuedAt t = t.before.cancelJob.1 := by
    rw [queuedAt, hcall]
  rcases rule.step hactive hp hw hcancelled rfl with ⟨hon, -⟩ | ⟨-, -, result, hqueue, hended⟩
  · exact absurd (hon.symm.trans hidle) Bool.noConfusion
  · refine ⟨hnone, ?_, result, ?_, ?_⟩
    · rw [hafter]
      exact hidle
    · rw [hafter]
      exact hqueue
    · rw [hqueued]
      simpa [Mark.jobTransfer] using hended

/-- **What a call does with an active job**: the job goes on, or it ends and its result joins the
queue; a binding that ends takes both away. -/
theorem JobRule.call (rule : JobRule Active Ended) (hactive : t.before.progress.active = true)
    (hp : Active past t.before) (hw : t.before.WellFormed) (hv : t.Valid Call.exec) :
    (t.after.progress.active = true ∧
        Active (past ++ (marks t).filterMap Mark.jobTransfer) t.after) ∨
      t.after.progress.active = false ∧ (t.after.queue = [] ∨ ∃ result,
        t.after.queue = t.before.queue ++ [result] ∧
        Ended (past ++ (marks t).filterMap Mark.jobTransfer) result (queuedAt t)) := by
  have hpath := transition_path t hw hv
  -- an invalidation cancels the job in the middle of its call
  by_cases hinvalidates : ∃ reason, t.call = .invalidateAppliedState reason
  · obtain ⟨reason, hcall⟩ := hinvalidates
    obtain ⟨hnone, hidle, hended⟩ := rule.invalidate hactive hp hw hv hcall
    rw [hnone, List.append_nil]
    exact Or.inr ⟨hidle, Or.inr hended⟩
  have hplain : nestedMarks t = [] := by
    unfold nestedMarks
    split
    · next reason hcall => exact absurd ⟨reason, hcall⟩ hinvalidates
    · rfl
  have hqueued : queuedAt t = t.after := by
    unfold queuedAt
    split
    · next reason hcall => exact absurd ⟨reason, hcall⟩ hinvalidates
    · rfl
  cases hconcludes : t.call.concludes with
  -- a poll or a cancellation
  | true =>
      rcases rule.concluding hactive hp hw hpath fun mark hmark => by
        rw [(call_of_mark hplain hmark).1]
        exact hconcludes with ⟨hon, hpast, -⟩ | ⟨hidle, result, hended⟩
      · exact Or.inl ⟨hon, hpast⟩
      · rw [hqueued]
        exact Or.inr ⟨hidle, Or.inr ⟨result, hended⟩⟩
  | false =>
      cases hrebinds : t.call.rebinds t.output with
      -- a binding that is made or dropped
      | true =>
          have hmailbox := mailbox_of_rebinds hw hv hrebinds
          have hqueue : t.after.queue = [] := congrArg Mailbox.queue hmailbox
          have hjob : t.after.mailbox.job = none := congrArg Mailbox.job hmailbox
          refine Or.inr ⟨?_, Or.inl hqueue⟩
          cases hafter : t.after.progress.active with
          | false => rfl
          | true =>
              rw [Driver.mailbox, if_pos hafter] at hjob
              cases hjob
      | false =>
          refine Or.inl (rule.undisturbed hactive hp hw hpath fun mark hmark => ?_)
          obtain ⟨hcall, hown⟩ := call_of_mark hplain hmark
          refine ⟨by rw [hcall]; exact hconcludes, ?_⟩
          cases hmark' : mark.rebinds with
          | false => rfl
          | true => exact absurd (hrebinds.symm.trans (hown hmark')) Bool.noConfusion

/-- A job that stays active during these calls has made their transfers. -/
theorem JobRule.calls {u : Driver} {ts : List DriverTransition} (rule : JobRule Active Ended)
    (hactive : d.progress.active = true) (hp : Active past d) (hw : d.WellFormed)
    (h : DriverRun d ts u) (hstays : ∀ t ∈ ts, t.after.progress.active = true) :
    u.progress.active = true ∧ Active (past ++ jobTransfers ts) u := by
  induction h with
  | nil =>
      rw [jobTransfers, timeline, List.flatMap_nil, List.filterMap_nil, List.append_nil]
      exact ⟨hactive, hp⟩
  | @snoc ts t m m' hrun hlast ih =>
      obtain ⟨rfl, hv, rfl⟩ := hlast
      obtain ⟨hon, hpast⟩ := ih fun t ht => hstays t (List.mem_append_left _ ht)
      rw [jobTransfers_concat]
      rcases rule.call hon hpast (run_wellFormed hw hrun) hv with hon' | ⟨hidle, -⟩
      · exact hon'
      · have hlast := hstays t (List.mem_append_right _ (List.mem_singleton_self _))
        exact absurd (hlast.symm.trans hidle) Bool.noConfusion

/-! ### The whole job -/

/-- What a start call admitted, in the state it left. -/
theorem admitted_of_start (hw : t.before.WellFormed) (hv : t.Valid Call.exec)
    (hadmitted : (account t).admitted ≠ none) :
    ∃ kind channels operationId deadlineMs maximumTransfers start,
      t.before.Starts t.call kind channels operationId deadlineMs maximumTransfers ∧
      t.before.Admissible operationId ∧ t.output = .status scheduled ∧ t.after =
        t.before.admitted kind channels operationId deadlineMs maximumTransfers start := by
  have hpath := transition_path t hw hv
  rw [marks, bare_of_effect hw hv (Or.inl hadmitted)] at hpath
  obtain ⟨m, hfirst, hlast⟩ := Path.last hpath
  obtain rfl := hfirst.of_nil
  generalize t.after = after at hlast ⊢
  cases hlast with
  | quiet hquiet =>
      revert hadmitted
      show t.call.admission t.before.configRevision t.output ≠ none → _
      generalize t.call = call at hquiet ⊢
      generalize t.output = output at hquiet ⊢
      intro hadmitted
      cases hquiet with
      | kept heffect => exact absurd (Call.admission_of_kept heffect) hadmitted
      | started hstarts hadmissible =>
          exact ⟨_, _, _, _, _, _, hstarts, hadmissible, rfl, rfl⟩
      | _ => exact absurd rfl hadmitted

/-- **The life of a job**: what holds of it at its admission is carried to its result. -/
theorem JobRule.life {u : Driver} {ts : List DriverTransition} (rule : JobRule Active Ended)
    (h : DriverRun Driver.initial ts u) (job : JobLife ts) (hp : Active [] job.start.after) :
    Ended (jobTransfers (job.mid ++ [job.last])) job.result (queuedAt job.last) := by
  obtain ⟨hbefore, hstart, hmid, hlast, -⟩ := job.around h
  have hw := run_wellFormed wellFormed_initial hbefore
  have hstarted : job.start.after.WellFormed :=
    run_wellFormed hw (Path.single ⟨rfl, hstart, rfl⟩)
  have hactive : job.start.after.progress.active = true := by
    obtain ⟨kind, channels, operationId, deadlineMs, maximumTransfers, start, -, -, -, hafter⟩ :=
      admitted_of_start hw hstart job.admitted
    rw [hafter]
    rfl
  obtain ⟨hon, hpast⟩ := rule.calls hactive hp hstarted hmid job.active
  have hfinished := job.finished
  rw [account] at hfinished
  have hended := rule.call hon hpast (run_wellFormed hstarted hmid) hlast
  rw [List.nil_append, ← List.nil_append (jobTransfers job.mid), ← jobTransfers_concat,
    List.nil_append] at hended
  rcases hended with ⟨hon, -⟩ | ⟨hidle, hempty | ⟨result, hqueue, hended⟩⟩
  · rw [hon, Bool.not_true, Bool.and_false] at hfinished
    cases hfinished
  · rw [hempty] at hfinished
    split at hfinished <;> cases hfinished
  · rw [if_pos (by simp [hon, hidle]), hqueue, List.getLast?_concat] at hfinished
    obtain heq : result = job.result := Option.some.inj hfinished
    rw [← heq]
    exact hended

/-! ### Jobs of a computed run -/

/-- The call at position `first` admits a job that `count` calls keep active and the next one
ends. -/
def livesAt (ts : List DriverTransition) (first count : ℕ) : Bool :=
  (ts[first]?.any fun t => (account t).admitted.isSome) &&
    ((ts.drop (first + 1)).take count).all (fun t => t.after.progress.active) &&
    (ts[first + 1 + count]?.any fun t => (account t).finished.isSome)

/-- Such a job has a life. -/
theorem exists_job {ts : List DriverTransition} {first count : ℕ}
    (h : livesAt ts first count = true) : ∃ job : JobLife ts, ts[first]? = some job.start ∧
      ts[first + 1 + count]? = some job.last ∧
      job.mid ++ [job.last] = (ts.drop (first + 1)).take (count + 1) := by
  unfold livesAt at h
  rw [Bool.and_eq_true, Bool.and_eq_true] at h
  obtain ⟨⟨hadmitted, hactive⟩, hfinished⟩ := h
  obtain ⟨start, hstart, hadmitted⟩ := (Option.any_eq_true _ _).mp hadmitted
  obtain ⟨last, hlast, hfinished⟩ := (Option.any_eq_true _ _).mp hfinished
  obtain ⟨result, hresult⟩ := Option.isSome_iff_exists.mp hfinished
  have hnth : (ts.drop (first + 1))[count]? = some last := by
    rw [List.getElem?_drop]
    exact hlast
  have hmid : (ts.drop (first + 1)).take (count + 1) =
      (ts.drop (first + 1)).take count ++ [last] := by
    rw [List.take_add_one, hnth, Option.toList_some]
  have hrest : ts.drop (first + 1) = (ts.drop (first + 1)).take count ++
      last :: ts.drop (first + 1 + count + 1) := by
    obtain ⟨hlt, hget⟩ := List.getElem?_eq_some_iff.mp hlast
    have hdrop : ts.drop (first + 1 + count) = (ts.drop (first + 1)).drop count :=
      List.drop_drop.symm
    rw [← hget, List.getElem_cons_drop, hdrop, List.take_append_drop]
  have hcalls : ts = ts.take first ++ start :: ((ts.drop (first + 1)).take count ++
      last :: ts.drop (first + 1 + count + 1)) := by
    obtain ⟨hlt, hget⟩ := List.getElem?_eq_some_iff.mp hstart
    rw [← hrest, ← hget, List.getElem_cons_drop, List.take_append_drop]
  refine ⟨
    { past := ts.take first
      start := start
      mid := (ts.drop (first + 1)).take count
      last := last
      later := ts.drop (first + 1 + count + 1)
      result := result
      calls := hcalls
      admitted := Option.isSome_iff_ne_none.mp hadmitted
      active := List.all_eq_true.mp hactive
      finished := hresult }, hstart, hlast, hmid.symm⟩

end Ldc1614
