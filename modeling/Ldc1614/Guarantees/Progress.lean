import Ldc1614.Guarantees.Deadline
import Ldc1614.Guarantees.TransferPlan
import Ldc1614.Interaction.History

/-! # Every job ends

A poll with a budget either ends the active job or makes a transfer of it, and a job has a fixed
number of transfers. So an owner that keeps polling sees every job end, whatever the transport
answers, at whatever times it polls, and whatever else it calls in between. -/

namespace Ldc1614

open Cmd Interaction Driver

/-! ### Polls that drive a job -/

/-- A poll with a budget. -/
def Call.drives : Call → Bool
  | .poll _ maxTransfers => maxTransfers != 0
  | _ => false

section Drives

variable {d u : Driver} {t : DriverTransition} {ts : List DriverTransition}

/-- A poll with a budget that does not end the job makes a transfer. -/
theorem transfer_of_drives (hw : t.before.WellFormed) (hv : t.Valid Call.exec)
    (hactive : t.before.progress.active = true) (hstays : t.after.progress.active = true)
    (hdrives : t.call.drives = true) : 0 < ((marks t).filterMap Mark.jobTransfer).length := by
  obtain ⟨nowMs, maxTransfers, hcall⟩ : ∃ nowMs maxTransfers, t.call = .poll nowMs maxTransfers := by
    cases hcall : t.call with
    | poll nowMs maxTransfers => exact ⟨nowMs, maxTransfers, rfl⟩
    | _ => simp [hcall, Call.drives] at hdrives
  have hmax : maxTransfers ≠ 0 := by
    simpa [hcall, Call.drives] using hdrives
  obtain ⟨status, -, hpoll⟩ := poll_valid hv hcall
  obtain ⟨stage, hrun⟩ := hw.running hactive
  -- past the deadline the poll would have ended the job
  have hdue : dueOrPast nowMs t.before.progress.deadlineMs = false := by
    by_contra hdue
    rw [Bool.not_eq_false] at hdue
    rw [poll_of_due hactive hdue] at hpoll
    obtain ⟨-, hafter⟩ := hpoll
    have hidle := congrArg (fun p : Driver × Status => p.1.progress.active) hafter
    simp only [finishJob_progress] at hidle
    exact absurd (hstays.symm.trans hidle) (by decide)
  rw [poll_eq_drive hrun (hw.validProfile hrun.bound) hdue hmax] at hpoll
  obtain ⟨-, hpos, htimeouts⟩ := drive_events hrun (hw.validProfile hrun.bound) hpoll
  have hbudget : 0 < (t.before.transferBudget nowMs maxTransfers).toNat := by
    have hne := hrun.transferBudget_ne_zero hdue hmax
    rw [Ne, ← BitVec.toNat_inj] at hne
    exact Nat.pos_of_ne_zero hne
  -- none of the callbacks observes INTB, so all of them are the job's
  have hcarried := congrArg List.length (carried_of_poll hw hv hcall)
  have hall : t.events.filter (fun event => !event.1.observes) = t.events := by
    refine List.filter_eq_self.mpr fun event hevent => ?_
    have htimeout := htimeouts event hevent
    cases hrequest : event.1 with
    | intbAsserted => simp [hrequest, Request.timeoutMs] at htimeout
    | _ => rfl
  rw [carried, hall, List.length_map, List.length_map] at hcarried
  rw [← hcarried]
  exact hpos hbudget

/-- The job of `entry` is under way behind these transfers. -/
structure UnderWay (entry : Driver) (past : List (Transfer × Reply)) (d : Driver) : Prop where
  ticket : d.progress.ticket = entry.progress.ticket
  counted : d.progress.completedTransfers.toNat =
    entry.progress.completedTransfers.toNat + past.length

/-- **Being under way is a rule of jobs**: every transfer is counted. -/
theorem underWay_rule (entry : Driver) : JobRule (UnderWay entry) fun _ _ _ => True where
  goesOn {past d stage reply} hp _ hrun _ := by
    refine ⟨(settled_ticket d stage reply).trans hp.ticket, ?_⟩
    have hlt := hrun.lt_length
    rw [← hrun.maximum] at hlt
    have hbyte := d.progress.maximumTransfers.isLt
    have hadd : (d.progress.completedTransfers + 1).toNat =
        d.progress.completedTransfers.toNat + 1 := by
      rw [BitVec.toNat_add]
      exact Nat.mod_eq_of_lt (by simp; omega)
    rw [settled_completedTransfers, hadd, hp.counted, List.length_append, List.length_singleton]
    omega
  ends _ _ _ _ _ := trivial
  interrupted _ _ _ _ := trivial
  delivered _ hp := ⟨hp.ticket, hp.counted⟩

/-- The job of a state is under way in it. -/
theorem UnderWay.refl (d : Driver) : UnderWay d [] d := ⟨rfl, rfl⟩

/-- **While a job stays active, every poll with a budget makes one of its transfers.** -/
theorem drives_le_transfers (hw : d.WellFormed) (hactive : d.progress.active = true)
    (h : DriverRun d ts u) (hstays : ∀ t ∈ ts, t.after.progress.active = true) :
    ts.countP (fun t => t.call.drives) ≤ (jobTransfers ts).length := by
  induction h with
  | nil => simp
  | @snoc ts t m m' hrun hlast ih =>
      obtain ⟨rfl, hv, rfl⟩ := hlast
      have hearlier : ∀ s ∈ ts, s.after.progress.active = true := fun s hs =>
        hstays s (List.mem_append_left _ hs)
      have hcount := ih hearlier
      have hon := ((underWay_rule d).calls hactive (.refl d) hw hrun hearlier).1
      have htransfers := jobTransfers_concat [] ts t
      rw [List.nil_append, List.nil_append] at htransfers
      rw [htransfers, List.length_append, List.countP_append, List.countP_singleton]
      split
      · next hdrives =>
          have hpos := transfer_of_drives (run_wellFormed hw hrun) hv hon (hstays t (by simp))
            hdrives
          omega
      · omega

end Drives

/-! ### The end of a job -/

/-- No job has more than 26 transfers. -/
theorem Driver.Running.maximum_le {d : Driver} {stage : Stage} (h : d.Running stage) :
    d.progress.maximumTransfers.toNat ≤ 26 := by
  rw [h.maximum]
  by_cases hkind : d.progress.kind = .acquire
  · have hchannels : (maskChannels d.progress.requestedChannels).length ≤ 4 :=
      List.length_filter_le _ _
    rw [Driver.script, Ldc1614.script, if_pos hkind, acquisition]
    simp only [List.length_append, List.length_cons, List.length_nil, List.length_flatMap,
      List.map_const', List.sum_replicate_nat]
    omega
  · rw [Driver.script, length_script _ _ hkind]
    have hpreamble := length_preamble_le d.progress.kind
    have hprofile := profileLength_le d.config
    omega

/-- Among that many polls with a budget there is a call that leaves the job inactive. -/
theorem exists_vacating {d u : Driver} {ts : List DriverTransition} (hw : d.WellFormed)
    (hactive : d.progress.active = true) (h : DriverRun d ts u)
    (hpolls : d.progress.maximumTransfers.toNat ≤ d.progress.completedTransfers.toNat +
      ts.countP (fun t => t.call.drives)) :
    ∃ before t after, ts = before ++ t :: after ∧
      (∀ earlier ∈ before, earlier.after.progress.active = true) ∧
      t.before.progress.active = true ∧ t.after.progress.active = false ∧
      t.before.progress.admission = d.progress.admission := by
  -- the job does not stay active, or it would have made more transfers than it has
  have hends : ¬ ∀ t ∈ ts, t.after.progress.active = true := by
    intro hstays
    obtain ⟨hon, hway⟩ := (underWay_rule d).calls hactive (.refl d) hw h hstays
    obtain ⟨stage', hrun'⟩ := (run_wellFormed hw h).running hon
    have hlt := hrun'.lt_length
    have hmaximum : u.progress.maximumTransfers = d.progress.maximumTransfers :=
      (congrArg JobProgress.maximumTransfers hway.ticket :)
    have hcount := drives_le_transfers hw hactive h hstays
    have hcounted := hway.counted
    rw [← hrun'.maximum, hmaximum] at hlt
    rw [List.nil_append] at hcounted
    omega
  obtain ⟨before, t, after, rfl, hbefore, hafter⟩ := exists_first hends
  obtain ⟨hfront, -, -⟩ := Run.around h
  obtain ⟨hon, hway⟩ := (underWay_rule d).calls hactive (.refl d) hw hfront hbefore
  exact ⟨before, t, after, rfl, hbefore, hon, by simpa using hafter,
    (congrArg JobProgress.admission hway.ticket :)⟩

/-- A call within the binding that leaves the job inactive queues its result. -/
theorem finished_of_vacating {t : DriverTransition} (hw : t.before.WellFormed)
    (hv : t.Valid Call.exec) (hkept : t.call.rebinds t.output = false)
    (hbefore : t.before.progress.active = true) (hafter : t.after.progress.active = false) :
    ∃ result, (account t).finished = some result ∧
      result.admission = t.before.progress.admission := by
  have hmove := transition_move hw hv hkept
  have hfinished : (account t).finished.isSome = true := by
    rw [hmove.finished_isSome, vacated_iff, hbefore, hafter]
    rfl
  obtain ⟨result, hresult⟩ := Option.isSome_iff_exists.mp hfinished
  have hticket := hmove.ticket_eq hresult
  rw [mailbox, if_pos hbefore] at hticket
  exact ⟨result, hresult, (Option.some.inj hticket).symm⟩

/-- **Every job ends.** Take a reachable driver with an active job and any run from there within its
binding, against any transport, with any calls between the polls and polls at any times. Once the
run has polled with a budget as often as the job has transfers left, at most 26 times, it has ended
the job and queued its result. -/
theorem job_ends {d u : Driver} {ts : List DriverTransition} (hd : Reachable d)
    (hactive : d.progress.active = true) (h : DriverRun d ts u)
    (hkept : ∀ t ∈ ts, t.call.rebinds t.output = false)
    (hpolls : d.progress.maximumTransfers.toNat ≤ d.progress.completedTransfers.toNat +
      ts.countP (fun t => t.call.drives)) :
    d.progress.maximumTransfers.toNat ≤ 26 ∧
      ∃ t ∈ ts, ∃ result, (account t).finished = some result ∧
        result.admission = d.progress.admission := by
  have hw := hd.wellFormed
  obtain ⟨stage, hrun⟩ := hw.running hactive
  refine ⟨hrun.maximum_le, ?_⟩
  obtain ⟨before, t, after, rfl, -, hon, hafter, hticket⟩ := exists_vacating hw hactive h hpolls
  obtain ⟨hfront, hv, -⟩ := Run.around h
  obtain ⟨result, hresult, hadmission⟩ := finished_of_vacating (run_wellFormed hw hfront) hv
    (hkept t (by simp)) hon hafter
  exact ⟨t, by simp, result, hresult, hadmission.trans hticket⟩

/-- Fifteen polls of one transfer each, with another call between them. -/
def benchPolls : List (Call × List Reply) :=
  (.poll 10 1, [replied 0x54 0x49]) :: (.poll 20 1, [replied 0x30 0x55]) :: (.takeResult, []) ::
    List.replicate 13 (.poll 30 1, [replied 0 0])

/-- The admitted initialization of the bench has ended behind them. -/
theorem job_ends_bench : ∃ ts u, DriverRun benchAdmitted ts u ∧ ∃ t ∈ ts, ∃ result,
    (account t).finished = some result ∧ result.operationId = 7 := by
  have hstate : benchAdmitted.progress.active = true ∧ benchAdmitted.progress.operationId = 7 ∧
      benchAdmitted.progress.maximumTransfers = 15 := by decide +kernel
  obtain ⟨hactive, hid, hmaximum⟩ := hstate
  have hrun : (execute benchAdmitted benchPolls).any (fun out =>
      out.1.all (fun t => !t.call.rebinds t.output) &&
        out.1.countP (fun t => t.call.drives) = 15) = true := by decide +kernel
  obtain ⟨⟨ts, u⟩, hexecute, hcalls⟩ := (Option.any_eq_true _ _).mp hrun
  rw [Bool.and_eq_true, decide_eq_true_iff] at hcalls
  obtain ⟨hkept, hcount⟩ := hcalls
  have hpath := run_of_execute hexecute
  have hreach : Reachable benchAdmitted := reachable_reachedBy _
  obtain ⟨-, t, ht, result, hresult, hticket⟩ := job_ends hreach hactive hpath
    (fun t ht => by simpa using List.all_eq_true.mp hkept t ht)
    (by rw [hcount, hmaximum]; exact Nat.le_add_left _ _)
  exact ⟨ts, u, hpath, t, ht, result, hresult,
    (congrArg Ticket.operationId hticket).trans hid⟩

end Ldc1614
