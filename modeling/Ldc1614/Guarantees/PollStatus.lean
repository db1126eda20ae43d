import Ldc1614.Driver.Evaluate

/-! # What poll returns

The status `poll` returns tells the fate of the job, except that the codes of the transport share
their type with those of the driver: a callback that returns `IN_PROGRESS` fails the job, and `poll`
takes that failure for a job that goes on and returns `OK`. -/

namespace Ldc1614

open Interaction Interaction.Program

/-- The status that a `poll` returned agrees with the fate of the job. -/
structure Agrees (t : DriverTransition) : Prop where
  /-- `OK` means that the job has ended in this call with success. -/
  ok : t.output.toStatus.isOk = true ↔
    ∃ result, t.after.queue = t.before.queue ++ [result] ∧ result.outcome = .success
  /-- `IN_PROGRESS` means that the job is still active. -/
  inProgress : t.output.toStatus.inProgress = true ↔ t.after.progress.active = true
  /-- Any other status is that of the result just queued. -/
  otherwise : t.output.toStatus.isOk = false → t.output.toStatus.inProgress = false →
    t.after.progress.active = false ∧ ∃ result, t.after.queue = t.before.queue ++ [result] ∧
      result.status = t.output.toStatus ∧ (result.outcome = .failed ∨ result.outcome = .timedOut)

namespace Driver

variable {d : Driver} {stage : Stage} {reply : Reply} {nowMs : U64} {timeoutMs : U32} {budget : ℕ}
  {events : List Event} {out : Driver × Status}

/-- Success is no control code. -/
theorem not_inProgress_of_isOk {status : Status} (h : status.isOk = true) :
    status.inProgress = false := by
  rw [Status.isOk, beq_iff_eq] at h
  rw [Status.inProgress, h]
  rfl

/-- A job ends with success behind a successful transfer, or fails with a status that is no success
and carries `IN_PROGRESS` only when the transport said so. -/
theorem verdict_cases {outcome : TerminalOutcome} {status : Status}
    (hv : d.verdict stage reply = some (outcome, status)) :
    outcome = .success ∧ status = .ok ∧ reply.status.inProgress = false ∨
      outcome = .failed ∧ status.isOk = false ∧ status.inProgress = reply.status.inProgress := by
  by_cases hok : reply.status.isOk = true
  · cases stage with
    | identity index =>
        -- a wrong identity is a failure of the driver's own
        obtain ⟨-, rfl, rfl⟩ : _ ∧ outcome = .failed ∧ status = _ := by
          simpa [verdict, hok, Prod.ext_iff, eq_comm] using hv
        exact Or.inr ⟨rfl, rfl, (not_inProgress_of_isOk hok).symm⟩
    | profile applyStep =>
        obtain ⟨-, rfl, rfl⟩ : _ ∧ outcome = .success ∧ status = .ok := by
          simpa [verdict, hok, Prod.ext_iff, eq_comm] using hv
        exact Or.inl ⟨rfl, rfl, not_inProgress_of_isOk hok⟩
    | statusAfter =>
        obtain ⟨rfl, rfl⟩ : outcome = .success ∧ status = .ok := by
          simpa [verdict, hok, Prod.ext_iff, eq_comm] using hv
        exact Or.inl ⟨rfl, rfl, not_inProgress_of_isOk hok⟩
    | _ => simp [verdict, hok] at hv
  · unfold verdict at hv
    rw [if_pos (by simpa using hok)] at hv
    obtain ⟨rfl, rfl⟩ := Prod.mk.inj (Option.some.inj hv)
    exact Or.inr ⟨rfl, by simpa using hok, rfl⟩

/-- The exchanges of a `poll` include a callback that returned `IN_PROGRESS`. -/
def Stalls (events : List Event) : Prop := ∃ event ∈ events, event.2.status.inProgress = true

/-- **How the transfers of one `poll` end.** Either the job goes on, or it has ended: with success,
or with a failure that carries `IN_PROGRESS` exactly when a callback did. -/
theorem drive_fate (h : d.Running stage) (hvalid : d.config.Valid)
    (hy : (drive nowMs timeoutMs budget d).Yields events out) :
    (out.1.progress.active = true ∧ out.1.queue = d.queue ∧ out.2 = pollInProgress ∧
      ¬ Stalls events) ∨
    ∃ result, out.1.progress.active = false ∧ out.1.queue = d.queue ++ [result] ∧
      out.2 = pollStatus result.status ∧
      (result.outcome = .success ∧ result.status = .ok ∧ ¬ Stalls events ∨
        result.outcome = .failed ∧ result.status.isOk = false ∧
          (result.status.inProgress = true ↔ Stalls events)) := by
  -- the job is at some stage before every transfer
  induction budget generalizing d stage events with
  | zero =>
      obtain ⟨rfl, rfl⟩ := hy
      exact Or.inl ⟨h.active, rfl, rfl, fun ⟨_, hevent, _⟩ => by cases hevent⟩
  | succ budget ih =>
      simp only [drive, h.here, yields_call] at hy
      obtain ⟨reply, rest, rfl, hy⟩ := hy
      have hcons (request : Request) : Stalls ((request, reply) :: rest) ↔
          reply.status.inProgress = true ∨ Stalls rest := by
        simp [Stalls]
      cases hv : d.verdict stage reply with
      | none =>
          rw [resume_of_none hv] at hy
          obtain ⟨next, hnext⟩ := h.settled hvalid hv
          have hqueue : (d.settled stage reply).queue = d.queue :=
            (congrArg queue (settled_frame d stage reply) :)
          rw [hcons, not_inProgress_of_isOk (isOk_of_verdict hv), ← hqueue]
          simp only [Bool.false_eq_true, false_or]
          exact ih hnext (by rw [settled_config]; exact hvalid) hy
      | some verdict =>
          obtain ⟨outcome, status⟩ := verdict
          rw [resume_of_some hv] at hy
          obtain ⟨rfl, rfl⟩ := hy
          have hslot : (d.settled stage reply).resultCount.toNat < resultCapacity := by
            rw [settled_resultCount]
            exact h.slot
          have hqueue : ((d.settled stage reply).finishJob outcome status nowMs).1.queue =
              (d.settled stage reply).queue ++
                [(d.settled stage reply).terminalResult outcome status nowMs] :=
            finishJob_queue outcome status hslot
          have hsame : (d.settled stage reply).queue = d.queue :=
            (congrArg queue (settled_frame d stage reply) :)
          rw [hsame] at hqueue
          refine Or.inr ⟨_, rfl, hqueue, ?_, ?_⟩
          · rcases verdict_cases hv with ⟨rfl, rfl, -⟩ | ⟨rfl, -, -⟩
            · rfl
            · rfl
          · rw [hcons]
            -- what a callback returned is the status the job ends with
            rcases verdict_cases hv with ⟨rfl, rfl, hcode⟩ | ⟨rfl, hfailed, hcode⟩
            · refine Or.inl ⟨rfl, rfl, ?_⟩
              rw [hcode]
              rintro (hcode | ⟨_, hevent, _⟩)
              · cases hcode
              · cases hevent
            · refine Or.inr ⟨rfl, hfailed, ?_⟩
              show status.inProgress = true ↔ _
              rw [hcode]
              exact ⟨Or.inl, fun hor => hor.elim id fun ⟨_, hevent, _⟩ => by cases hevent⟩

end Driver

open Driver

/-! ### The call -/

variable {t : DriverTransition} {nowMs : U64} {maxTransfers : U8}

/-- How a `poll` of an active job ends. -/
theorem poll_fate (hw : t.before.WellFormed) (hactive : t.before.progress.active = true)
    (hv : t.Valid Call.exec) (hcall : t.call = .poll nowMs maxTransfers) :
    (t.after.progress.active = true ∧ t.after.queue = t.before.queue ∧
      t.output.toStatus = pollInProgress ∧ ¬ Stalls t.events) ∨
    ∃ result, t.after.progress.active = false ∧ t.after.queue = t.before.queue ++ [result] ∧
      t.output.toStatus = pollStatus result.status ∧
      (result.outcome = .success ∧ result.status = .ok ∧ ¬ Stalls t.events ∨
        (result.outcome = .failed ∨ result.outcome = .timedOut) ∧ result.status.isOk = false ∧
          (result.status.inProgress = true ↔ Stalls t.events)) := by
  have hnone : ¬ Stalls [] := fun ⟨_, hevent, _⟩ => by cases hevent
  obtain ⟨stage, hrun⟩ := hw.running hactive
  obtain ⟨status, houtput, hpoll⟩ := poll_valid hv hcall
  have hstatus : t.output.toStatus = status := by rw [houtput]; rfl
  rw [hstatus]
  cases hdue : dueOrPast nowMs t.before.progress.deadlineMs with
  -- at or past the deadline no callback is made
  | true =>
      rw [poll_of_due hactive hdue] at hpoll
      obtain ⟨hevents, hend⟩ := hpoll
      have hafter : t.after = ((t.before.recordInterruption deadlineExpired).finishJob .timedOut
          deadlineExpired nowMs).1 := congrArg Prod.fst hend
      have hreturned : status = deadlineExpired := congrArg Prod.snd hend
      have hframe : (t.before.recordInterruption deadlineExpired).frame = t.before.frame :=
        recordInterruption_frame _
      have hcount : (t.before.recordInterruption deadlineExpired).resultCount =
          t.before.resultCount := (congrArg resultCount hframe :)
      have hsame : (t.before.recordInterruption deadlineExpired).queue = t.before.queue :=
        (congrArg queue hframe :)
      have hqueue : ((t.before.recordInterruption deadlineExpired).finishJob .timedOut
          deadlineExpired nowMs).1.queue =
            (t.before.recordInterruption deadlineExpired).queue ++
              [(t.before.recordInterruption deadlineExpired).terminalResult .timedOut
                deadlineExpired nowMs] :=
        finishJob_queue .timedOut deadlineExpired (hcount ▸ hrun.slot)
      rw [← hafter, hsame] at hqueue
      refine Or.inr ⟨_, by rw [hafter]; rfl, hqueue, hreturned, Or.inr ⟨Or.inr rfl, rfl, ?_⟩⟩
      rw [hevents]
      exact ⟨fun hcode => (by cases hcode), fun hstalls => absurd hstalls hnone⟩
  | false =>
      -- before it, a budget of zero changes nothing
      by_cases hmax : maxTransfers = 0
      · rw [hmax, poll_zero hactive hdue] at hpoll
        obtain ⟨hevents, hend⟩ := hpoll
        obtain ⟨hafter, rfl⟩ := Prod.mk.inj hend
        rw [hafter, hevents]
        exact Or.inl ⟨hactive, rfl, rfl, hnone⟩
      · have hvalid := hw.validProfile hrun.bound
        rw [poll_eq_drive hrun hvalid hdue hmax] at hpoll
        rcases drive_fate hrun hvalid hpoll with hon | ⟨result, hidle, hqueue, hreturn, hfate⟩
        · exact Or.inl hon
        · refine Or.inr ⟨result, hidle, hqueue, hreturn, hfate.imp id ?_⟩
          exact fun ⟨houtcome, hrest⟩ => ⟨Or.inl houtcome, hrest⟩

/-- **A `poll` of an active job agrees with its fate exactly when no callback returned
`IN_PROGRESS`.** -/
theorem poll_agrees_iff (hd : Reachable t.before) (hactive : t.before.progress.active = true)
    (hv : t.Valid Call.exec) (hcall : t.call = .poll nowMs maxTransfers) :
    Agrees t ↔ ∀ event ∈ t.events, event.2.status.inProgress = false := by
  have hstalls : (∀ event ∈ t.events, event.2.status.inProgress = false) ↔ ¬ Stalls t.events := by
    simp [Stalls]
  rw [hstalls]
  rcases poll_fate hd.wellFormed hactive hv hcall with
    ⟨hon, hqueue, hstatus, hnone⟩ | ⟨result, hidle, hqueue, hstatus, hfate⟩
  · refine ⟨fun _ => hnone, fun _ => ⟨?_, ?_, ?_⟩⟩
    · rw [hstatus]
      refine ⟨fun hok => (by cases hok), fun ⟨result, hgrown, _⟩ => ?_⟩
      simpa using congrArg List.length (hgrown.symm.trans hqueue)
    · rw [hstatus, hon]
      exact ⟨fun _ => rfl, fun _ => rfl⟩
    · rw [hstatus]
      exact fun _ hcode => by cases hcode
  -- the job has ended, and `result` is the only result it can have queued
  have hlast {result' : OperationResult} (h : t.after.queue = t.before.queue ++ [result']) :
      result' = result := by
    simpa using h.symm.trans hqueue
  rcases hfate with ⟨hsuccess, hok, hnone⟩ | ⟨hfailed, hnot, hcode⟩
  · have hreturned : t.output.toStatus = .ok := by rw [hstatus, hok]; rfl
    refine ⟨fun _ => hnone, fun _ => ⟨?_, ?_, ?_⟩⟩
    · rw [hreturned]
      exact ⟨fun _ => ⟨result, hqueue, hsuccess⟩, fun _ => rfl⟩
    · rw [hreturned, hidle]
      exact ⟨fun hcode => (by cases hcode), fun hcode => (by cases hcode)⟩
    · rw [hreturned]
      exact fun hnot => by cases hnot
  · have hno (h : ∃ result', t.after.queue = t.before.queue ++ [result'] ∧
        result'.outcome = .success) : False := by
      obtain ⟨result', hqueue', hsuccess⟩ := h
      rw [hlast hqueue'] at hsuccess
      rcases hfailed with h | h <;> rw [hsuccess] at h <;> cases h
    by_cases hstall : Stalls t.events
    · -- the failure is taken for a job that goes on
      have hreturned : t.output.toStatus.isOk = true := by
        rw [hstatus, pollStatus, hnot, hcode.mpr hstall]
        rfl
      exact ⟨fun hagrees => absurd (hagrees.ok.mp hreturned) hno, fun h => absurd hstall h⟩
    · have hcontrol : result.status.inProgress = false := by
        rw [← Bool.not_eq_true]
        exact fun h => hstall (hcode.mp h)
      have hreturned : t.output.toStatus = result.status := by
        rw [hstatus, pollStatus, hnot, hcontrol]
        rfl
      refine ⟨fun _ => hstall, fun _ => ⟨?_, ?_, fun _ _ => ⟨hidle, result, hqueue, ?_, hfailed⟩⟩⟩
      · rw [hreturned, hnot]
        exact ⟨fun h => (by cases h), fun h => absurd h hno⟩
      · rw [hreturned, hcontrol, hidle]
      · exact hreturned.symm

/-- The first callback of a job returns `IN_PROGRESS`: the job has failed, and `poll` returns
`OK`. -/
theorem poll_takes_failure_for_success : ¬ ∀ (t : DriverTransition) (nowMs : U64) (maxTransfers : U8),
    Reachable t.before → t.before.progress.active = true → t.Valid Call.exec →
      t.call = .poll nowMs maxTransfers → Agrees t := by
  intro hclaim
  have hrun : (execute benchAdmitted [(.poll 10 5, [failedWith .inProgress])]).map
      (fun run => (run.1.map (fun t => (t.before.progress.active, t.output, t.before.queue.length)),
        run.2.queue.map OperationResult.outcome)) =
      some ([(true, .status .ok, 0)], [.failed]) := by decide +kernel
  obtain ⟨t, ht, hd, hv, hcall⟩ := execute_admitted (.poll 10 5)
    [failedWith .inProgress] (by decide +kernel)
  rw [ht] at hrun
  simp only [Option.map_some, List.map_cons, List.map_nil, Option.some.injEq, Prod.mk.injEq,
    List.cons.injEq, and_true] at hrun
  obtain ⟨⟨hactive, houtput, hempty⟩, houtcomes⟩ := hrun
  have hagrees := hclaim t 10 5 hd hactive hv hcall
  obtain ⟨result, hqueue, hsuccess⟩ := hagrees.ok.mp (by rw [houtput]; rfl)
  rw [hqueue, List.length_eq_zero_iff.mp hempty] at houtcomes
  simp only [List.nil_append, List.map_cons, List.map_nil, List.cons.injEq, and_true] at houtcomes
  rw [hsuccess] at houtcomes
  cases houtcomes

/-- A `poll` whose second callback times out agrees with its fate. -/
theorem poll_agrees_iff_timeout : ∃ t : DriverTransition,
    t.call = .poll 10 5 ∧ t.output.toStatus.code = .i2cTimeout ∧ Agrees t := by
  have hrun : (execute benchAdmitted [(.poll 10 5, [replied 0x54 0x49, failedWith .i2cTimeout])]).map
      (fun run => run.1.map (fun t => (t.before.progress.active, t.output.toStatus.code,
        t.events.map fun event => event.2.status.inProgress))) =
      some [(true, .i2cTimeout, [false, false])] := by decide +kernel
  obtain ⟨t, ht, hd, hv, hcall⟩ := execute_admitted (.poll 10 5)
    [replied 0x54 0x49, failedWith .i2cTimeout] (by decide +kernel)
  rw [ht] at hrun
  simp only [Option.map_some, List.map_cons, List.map_nil, Option.some.injEq, Prod.mk.injEq,
    List.cons.injEq, and_true] at hrun
  obtain ⟨hactive, hcode, hcodes⟩ := hrun
  refine ⟨t, hcall, hcode, (poll_agrees_iff hd hactive hv hcall).mpr fun event hevent => ?_⟩
  have hmem := List.mem_map_of_mem (f := fun event : Event => event.2.status.inProgress) hevent
  rw [hcodes] at hmem
  simpa using hmem

end Ldc1614
