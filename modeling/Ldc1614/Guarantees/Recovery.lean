import Ldc1614.Guarantees.Evidence
import Ldc1614.Guarantees.Healthy
import Ldc1614.Guarantees.Progress
import Ldc1614.Guarantees.Trust

/-! # Recovery

Whatever went wrong before: from the moment the device is healthy, one replay whose owner polls it
in time and leaves it alone ends in success, with the profile in the registers, asleep, and the
driver says so without a fault. -/

namespace Ldc1614

open Cmd Interaction Driver

/-- A call that does not end the job with this deadline from outside: it is not polled at or past
the deadline, not cancelled, and the binding goes on. -/
def Call.spares (deadlineMs : U64) : Call → Bool
  | .poll nowMs _ => !dueOrPast nowMs deadlineMs
  | .cancelJob | .invalidateAppliedState _ | .end_ => false
  | _ => true

section Spared

variable {address : U8} {origin dev dev₀ : FakeLdc1614Device} {s u : Driver} {t : DriverTransition}
  {ts : List DriverTransition} {ticks : List Tick} {deadlineMs : U64}

/-- A bound driver refuses to be bound again. -/
theorem rebinds_of_spares (hv : t.Valid Call.exec) (hbound : t.before.bound = true)
    (hspares : t.call.spares deadlineMs = true) : t.call.rebinds t.output = false := by
  obtain ⟨d, call, events, output, d'⟩ := t
  change (call.exec d).Yields events (d', output) at hv
  cases call with
  | bind config =>
      obtain ⟨rfl, hend⟩ := hv
      have hrefused : (d.bind config).2.isOk = false := by
        rw [Driver.bind, if_pos hbound]
        rfl
      rw [(Prod.mk.inj hend).2]
      exact hrefused
  | end_ => cases hspares
  | _ => rfl

/-- A step that neither begins nor ends a binding keeps it. -/
theorem Step.keeps_bound {d d' : Driver} {mark : Mark} (h : Step d mark d')
    (hkept : mark.rebinds = false) : d'.bound = d.bound := by
  have hframe {e : Driver} (h : e.frame = d.frame) : e.bound = d.bound :=
    (congrArg Driver.bound h :)
  have hinterrupted (cause : Status) := hframe (recordInterruption_frame (d := d) cause)
  cases h with
  | @job stage _ _ _ reply hrun hdue =>
      have hsettled := hframe (settled_frame d stage reply)
      cases hv : d.verdict stage reply with
      | none =>
          rw [resume_driver_of_none hv]
          exact hsettled
      | some verdict =>
          rw [resume_driver_of_some hv]
          exact hsettled
  | direct hdirect => exact hframe hdirect.frame_eq
  | quiet hquiet =>
      cases hquiet with
      | bound => cases hkept
      | ended => cases hkept
      | expired => exact hinterrupted deadlineExpired
      | cancelled => exact hinterrupted operationCancelled
      | _ => rfl

/-- A spared run stays within its binding. -/
theorem bound_of_spares {d : Driver} (hw : d.WellFormed) (hbound : d.bound = true)
    (h : DriverRun d ts u) (hspares : ∀ t ∈ ts, t.call.spares deadlineMs = true) :
    u.bound = true ∧ ∀ t ∈ ts, t.call.rebinds t.output = false := by
  induction h with
  | nil => exact ⟨hbound, by simp⟩
  | @snoc past t m _ hrun hlast ih =>
      obtain ⟨rfl, hv, rfl⟩ := hlast
      obtain ⟨hbefore, hkept⟩ := ih fun t ht => hspares t (List.mem_append_left _ ht)
      have hlastKept := rebinds_of_spares hv hbefore (hspares t (by simp))
      have hwbefore := run_wellFormed hw hrun
      have hmarks : ∀ mark ∈ marks t, mark.rebinds = false := by
        intro mark hmark
        have htimeline : mark ∈ timeline [t] :=
          List.mem_flatMap.mpr ⟨t, List.mem_singleton_self t, hmark⟩
        exact rebinds_of_kept (by simpa using hlastKept) mark htimeline
      refine ⟨?_, fun t' ht' => ?_⟩
      · have hpath := (transition_path t hwbefore hv).restrict hmarks
        exact hpath.invariant (I := fun d => d.bound = true) hbefore
          fun _ _ _ hm hstep => (hstep.1.keeps_bound hstep.2).trans hm
      · rcases List.mem_append.mp ht' with hearly | hend
        · exact hkept t' hearly
        · rwa [List.mem_singleton.mp hend]

/-- A spared job queues its result in the state the call leaves. -/
theorem queuedAt_of_spares (hspares : t.call.spares deadlineMs = true) : queuedAt t = t.after := by
  unfold queuedAt
  split
  · next reason hcall =>
      rw [hcall] at hspares
      cases hspares
  · rfl

/-- A spared job on a healthy device ends with success. -/
theorem Joint.success (hs : Reachable s) (h : Joint address s dev₀ ts ticks u dev)
    (hpassed : ∀ event ∈ exchange ts, ¬ Event.Fails event) (ht : t ∈ ts)
    {result : OperationResult} (hfinished : (account t).finished = some result)
    (hspares : t.call.spares result.finalProgress.deadlineMs = true) :
    result.outcome = .success := by
  rcases h.outcome hs hpassed ht hfinished with
    hsuccess | ⟨-, hcall | ⟨reason, hcall⟩⟩ | ⟨-, nowMs, maxTransfers, hcall, hdue⟩
  · exact hsuccess
  · rw [hcall] at hspares
    cases hspares
  · rw [hcall] at hspares
    cases hspares
  · have hpoll : Call.spares result.finalProgress.deadlineMs (.poll nowMs maxTransfers) =
        !dueOrPast nowMs result.finalProgress.deadlineMs := rfl
    rw [hcall, hpoll, hdue] at hspares
    exact Bool.noConfusion hspares

/-- A driver that mirrors the registers of the device goes on to do so. -/
theorem Alongside.mirrors (h : Alongside s dev₀ ts ticks u dev) (hw : s.WellFormed)
    (hm : Mirrors s dev₀.reg)
    (hcredible : ∀ tick ∈ ticks, ∀ failure ∈ tick.forced, failure.Credible) :
    Mirrors u dev.reg := by
  have hdev := DeviceLife.registers h.life hcredible
  rw [h.marks] at hdev
  exact hm.path hw (run_path hw h.run) hdev

/-- The device keeps its identity, whatever addresses the driver is bound to. -/
theorem Alongside.identified (h : Alongside s dev₀ ts ticks u dev) (hw : s.WellFormed)
    (hdevice : Identified address dev₀) : Identified address dev := by
  have hpath := run_path hw h.run
  rw [← h.marks] at hpath
  have key : u.WellFormed ∧ Identified address dev := by
    refine (hpath.stutter.both h.life).invariant
      (I := fun m => m.1.WellFormed ∧ Identified address m.2) ⟨hw, hdevice⟩ ?_
    rintro m tick m' ⟨hw, hdevice⟩ ⟨hstep, hdev⟩
    exact hdevice.step hw hstep hdev
  exact key.2

/-- A run next to a device splits wherever its calls do. -/
theorem Alongside.split {us : List DriverTransition} {d : Driver}
    (h : Alongside d dev₀ (ts ++ us) ticks u dev) :
    ∃ s dev' front back, ticks = front ++ back ∧ Alongside d dev₀ ts front s dev' ∧
      Alongside s dev' us back u dev := by
  obtain ⟨s, hrun, hrest⟩ := h.run.split
  have hmarks : ticks.filterMap Tick.mark = timeline ts ++ timeline us := by
    rw [h.marks, timeline, timeline, timeline, List.flatMap_append]
  obtain ⟨front, back, rfl, hfront, hback⟩ := List.filterMap_eq_append_iff.mp hmarks
  obtain ⟨dev', hlife, hlater⟩ := h.life.split
  exact ⟨s, dev', front, back, rfl, ⟨hrun, hlife, hfront⟩, ⟨hrest, hlater, hback⟩⟩

theorem Joint.split {us : List DriverTransition} {d : Driver}
    (h : Joint address d dev₀ (ts ++ us) ticks u dev) :
    ∃ s dev' front back, ticks = front ++ back ∧ Joint address d dev₀ ts front s dev' ∧
      Joint address s dev' us back u dev := by
  obtain ⟨s, dev', front, back, hticks, hfront, hback⟩ := h.toAlongside.split
  exact ⟨s, dev', front, back, hticks,
    ⟨hfront, fun t ht => h.bound t (List.mem_append_left _ ht)⟩,
    ⟨hback, fun t ht => h.bound t (List.mem_append_right _ ht)⟩⟩

/-- A run that admits a job and spares it binds to no other address. -/
theorem Alongside.joint {later : List DriverTransition} {start : DriverTransition}
    {ticket : Ticket} (hs : Reachable s) (h : Alongside s dev₀ (start :: later) ticks u dev)
    (hadmitted : (account start).admitted = some ticket)
    (hspares : ∀ t ∈ later, t.call.spares deadlineMs = true) :
    Joint address s dev₀ (start :: later) ticks u dev := by
  refine ⟨h, ?_⟩
  obtain ⟨rfl, hv, hlater⟩ := Run.first h.run
  have hw := hs.wellFormed
  have hne : (account start).admitted ≠ none := by
    rw [hadmitted]
    exact Option.some_ne_none _
  obtain ⟨kind, channels, operationId, deadline, maximumTransfers, point, hstarts, hadm, -,
    hafter⟩ := admitted_of_start hw hv hne
  have hwstart := run_wellFormed hw (Path.single ⟨rfl, hv, rfl⟩)
  have hbound : start.after.bound = true := by
    rw [hafter]
    exact hadm.bound
  obtain ⟨-, hkept⟩ := bound_of_spares hwstart hbound hlater hspares
  intro t ht
  rcases List.mem_cons.mp ht with rfl | ht
  · generalize t.call = call at hstarts ⊢
    cases hstarts <;> rfl
  · have hrefused := hkept t ht
    generalize t.call = call at hrefused ⊢
    cases call with
    | bind config =>
        have hfailed : t.output.toStatus.isOk = false := hrefused
        show (!t.output.toStatus.isOk || _) = true
        rw [hfailed]
        rfl
    | _ => rfl

/-- **A spared job on a healthy device succeeds**, of whatever kind, once it has been polled often
enough. -/
theorem Joint.exists_success {later : List DriverTransition} {start : DriverTransition}
    {after : List Tick} {ticket : Ticket} (hs : Reachable s) (ha : Attached address s dev₀)
    (h : Joint address s dev₀ (start :: later) after u dev)
    (hhealthy : ∀ tick ∈ after, tick.forced = none)
    (hadmitted : (account start).admitted = some ticket)
    (hspares : ∀ t ∈ later, t.call.spares ticket.deadlineMs = true)
    (hpolls : start.after.progress.maximumTransfers.toNat ≤
      later.countP (fun t => t.call.drives)) :
    ∃ mid last rest result, later = mid ++ last :: rest ∧
      (∀ t ∈ mid, t.after.progress.active = true) ∧ (account last).finished = some result ∧
      result.admission = ticket ∧ result.outcome = .success ∧ queuedAt last = last.after := by
  obtain ⟨rfl, hv, hlater⟩ := Run.first h.run
  have hw := hs.wellFormed
  have hne : (account start).admitted ≠ none := by
    rw [hadmitted]
    exact Option.some_ne_none _
  -- the ticket of the admitted job is the one it carries
  obtain ⟨kind, channels, operationId, deadlineMs, maximumTransfers, point, hstarts, hadm, houtput,
    hafter⟩ := admitted_of_start hw hv hne
  have hactive : start.after.progress.active = true := by
    rw [hafter]
    rfl
  have hticket : start.after.progress.admission = ticket := by
    have hcall : (account start).admitted =
        some ⟨operationId, kind, deadlineMs, channels, start.before.configRevision⟩ := by
      rw [account]
      dsimp only
      rw [houtput]
      exact hstarts.admission
    rw [hafter]
    exact Option.some.inj (hcall.symm.trans hadmitted)
  have hwstart := run_wellFormed hw (Path.single ⟨rfl, hv, rfl⟩)
  -- the polls run out of transfers, so one of the calls ends the job
  obtain ⟨mid, last, rest, rfl, hmid, hon, hoff, hkept⟩ :=
    exists_vacating hwstart hactive hlater (hpolls.trans (Nat.le_add_left _ _))
  obtain ⟨hfront, hlast, -⟩ := Run.around hlater
  have hwlast := run_wellFormed hwstart hfront
  have hspared := hspares last (by simp)
  obtain ⟨stage, hrunning⟩ := hwlast.running hon
  obtain ⟨result, hresult, hadmission⟩ := finished_of_vacating hwlast hlast
    (rebinds_of_spares hlast hrunning.bound hspared) hon hoff
  have hticket' : result.admission = ticket := (hadmission.trans hkept).trans hticket
  have hdeadline : result.finalProgress.deadlineMs = ticket.deadlineMs :=
    (congrArg Ticket.deadlineMs hticket' :)
  -- nothing but the device could fail it, and the device does not
  have hsuccess := h.success hs (h.passed ha hhealthy) (t := last) (by simp) hresult
    (hdeadline ▸ hspared)
  exact ⟨mid, last, rest, result, rfl, hmid, hresult, hticket', hsuccess,
    queuedAt_of_spares hspared⟩

/-- **A replay on a healthy device applies the profile**: behind the call that ends it, the
registers of the device hold the profile, asleep, and the driver says so without a fault. -/
theorem Joint.recovers {past later : List DriverTransition} {start : DriverTransition}
    {after : List Tick} {ticket : Ticket} (hpast : DriverRun Driver.initial past s)
    (hm : Mirrors s dev₀.reg) (ha : Attached address s dev₀)
    (h : Joint address s dev₀ (start :: later) after u dev)
    (hhealthy : ∀ tick ∈ after, tick.forced = none)
    (hadmitted : (account start).admitted = some ticket) (hreplay : ticket.kind ≠ .acquire)
    (hspares : ∀ t ∈ later, t.call.spares ticket.deadlineMs = true)
    (hpolls : start.after.progress.maximumTransfers.toNat ≤
      later.countP (fun t => t.call.drives)) :
    ∃ mid last rest result, later = mid ++ last :: rest ∧
      (account last).finished = some result ∧ result.admission = ticket ∧
      result.outcome = .success ∧ last.after.appliedState = .appliedSleeping ∧
      last.after.configFault.valid = false ∧
      ∃ front back dev', after = front ++ back ∧
        Joint address s dev₀ (start :: (mid ++ [last])) front last.after dev' ∧
        Holds last.after.config true dev'.reg := by
  obtain ⟨mid, last, rest, result, rfl, hmid, hresult, hticket, hsuccess, hqueued⟩ :=
    h.exists_success ⟨past, hpast⟩ ha hhealthy hadmitted hspares hpolls
  -- the replay has applied the profile
  have hne : (account start).admitted ≠ none := by
    rw [hadmitted]
    exact Option.some_ne_none _
  let job : JobLife (past ++ start :: (mid ++ last :: rest)) :=
    ⟨past, start, mid, last, rest, result, rfl, hne, hmid, hresult⟩
  have hrun := hpast.append h.run
  obtain ⟨hbefore, hv, -⟩ := Run.around hrun
  have hevidence := (progressing_rule start.after).life hrun job
    (progressing_of_admitted (run_wellFormed wellFormed_initial hbefore) hv hne)
  have hkind : result.kind = ticket.kind := (congrArg Ticket.kind hticket :)
  obtain ⟨hstate, hfault⟩ := hevidence.replayed hsuccess (hkind ▸ hreplay)
  change (queuedAt last).appliedState = _ at hstate
  change (queuedAt last).configFault = _ at hfault
  rw [hqueued] at hstate hfault
  -- and the device that took its writes holds it
  have hcalls : start :: (mid ++ last :: rest) = (start :: (mid ++ [last])) ++ rest := by simp
  rw [hcalls] at h
  obtain ⟨d, dev', front, back, rfl, hfront, -⟩ := h.split
  have hends : DriverRun s ((start :: mid) ++ [last]) d := hfront.run
  obtain ⟨-, -, rfl⟩ := Run.last hends
  have hmirrors : Mirrors last.after dev'.reg := by
    refine hfront.mirrors ha.wellFormed hm fun tick htick failure hfailure => ?_
    rw [hhealthy tick (List.mem_append_left _ htick)] at hfailure
    cases hfailure
  refine ⟨mid, last, rest, result, rfl, hresult, hticket, hsuccess, hstate, ?_, front, back, dev',
    rfl, hfront, hmirrors.trusted true ?_⟩
  · rw [hfault]
  · rw [hstate]
    rfl

/-- **Recovery.** Take any run from construction on next to a device, with bindings to any addresses
and any failures forced on any transfers, as long as a missing acknowledge means that the write was
not committed, and let the driver be left unbound or bound to the device. From then on let no failure
be forced. If a start call admits a replay, and the owner polls it with a budget as often as it has
transfers, never at or past its deadline, without cancelling or invalidating it or ending the
binding, then one of these calls ends the job in success, whatever else is called and whenever the
device converts; behind that call the profile is `APPLIED_SLEEPING`, there is no fault, and the
registers of the device hold the profile, asleep. -/
theorem recovery {past later : List DriverTransition} {start : DriverTransition}
    {before after : List Tick} {ticket : Ticket} (horigin : Identified address origin)
    (hpast : Alongside Driver.initial origin past before s dev₀)
    (hcredible : ∀ tick ∈ before, ∀ failure ∈ tick.forced, failure.Credible)
    (haddressed : s.bound = true → s.config.i2cAddress.raw = address)
    (h : Alongside s dev₀ (start :: later) after u dev)
    (hhealthy : ∀ tick ∈ after, tick.forced = none)
    (hadmitted : (account start).admitted = some ticket) (hreplay : ticket.kind ≠ .acquire)
    (hspares : ∀ t ∈ later, t.call.spares ticket.deadlineMs = true)
    (hpolls : start.after.progress.maximumTransfers.toNat ≤
      later.countP (fun t => t.call.drives)) :
    ∃ mid last rest result, later = mid ++ last :: rest ∧
      (account last).finished = some result ∧ result.admission = ticket ∧
      result.outcome = .success ∧ last.after.appliedState = .appliedSleeping ∧
      last.after.configFault.valid = false ∧
      ∃ front back dev', after = front ++ back ∧
        Alongside s dev₀ (start :: (mid ++ [last])) front last.after dev' ∧
        Holds last.after.config true dev'.reg := by
  have hattached : Attached address s dev₀ :=
    { wellFormed := run_wellFormed wellFormed_initial hpast.run
      addressed := haddressed
      identified := hpast.identified wellFormed_initial horigin }
  have hm := hpast.mirrors wellFormed_initial (mirrors_of_unknown rfl rfl _) hcredible
  have hjoint : Joint address s dev₀ (start :: later) after u dev :=
    h.joint ⟨past, hpast.run⟩ hadmitted hspares
  obtain ⟨mid, last, rest, result, hlater, hresult, hticket, hsuccess, hstate, hfault, front, back,
    dev', hticks, hfront, hholds⟩ :=
    hjoint.recovers hpast.run hm hattached hhealthy hadmitted hreplay hspares hpolls
  exact ⟨mid, last, rest, result, hlater, hresult, hticket, hsuccess, hstate, hfault, front, back,
    dev', hticks, hfront.toAlongside, hholds⟩

end Spared

/-- The bench profile for a device at the other address. -/
def benchElsewhere : Config := { benchProfile with i2cAddress := .addrVdd }

/-- Behind a binding to the other address, an initialization whose second profile write is committed
by the device but not confirmed. -/
def benchUnconfirmed : List (Call × List Reply) :=
  [(.bind benchElsewhere, []), (.startInitialize 3 1000, []),
    (.poll 5 1, [{ status := .error .i2cNackAddr "unexpected fake address" 0x2B }]), (.end_, []),
    (.bind benchProfile, []), (.startInitialize 7 1000, []),
    (.poll 10 4, [replied 0x54 0x49, replied 0x30 0x55, replied 0 0, failedWith .i2cTimeout])]

/-- A reset and replay behind it, polled for one transfer at a time, with a refused binding. -/
def benchReapply : List (Call × List Reply) :=
  [(.startResetAndReapply 8 2000, []), (.bind benchElsewhere, []), (.poll 20 1, [replied 0 0]),
    (.takeResult, []), (.poll 30 1, [replied 0x54 0x49]), (.poll 40 1, [replied 0x30 0x55])] ++
    List.replicate 13 (.poll 50 1, [replied 0 0])

/-- The tick of a mark: an exchange that failed with an acknowledge was forced to, with its write
committed. -/
def Mark.committedTick : Mark → Tick
  | .bus call event =>
      .exchange call event
        (if h : event.2.status.isOk = false then
          if event.2.status.code = .i2cNackAddr then none else some ⟨event.2.status, true, h⟩
        else none)
  | .ret call output => .ret call output

/-- These ticks leave the marks they are of. -/
theorem mark_committedTick (labels : List Mark) :
    (labels.map Mark.committedTick).filterMap Tick.mark = labels := by
  induction labels with
  | nil => rfl
  | cons mark labels ih =>
      have hmark : mark.committedTick.mark = some mark := by
        cases mark <;> rfl
      rw [List.map_cons, List.filterMap_cons, hmark, ih]

/-- The device next to a replay, with a conversion in the middle. -/
def benchRecoveryTicks (ts : List DriverTransition) : List Tick :=
  ((timeline ts).take 9).map Mark.committedTick ++
    .conversion { ch := 0, raw28 := 0x1234567, statusErrors := 0x0400 } ::
      ((timeline ts).drop 9).map Mark.committedTick

/-- A replay of the bench, with what it admits and how it is polled. -/
def reapplies (start : DriverTransition) (later : List DriverTransition) : Bool :=
  (start :: later).all (fun t => t.call.bindsTo 0x2A t.output) &&
    start.after.progress.maximumTransfers == 16 &&
    (account start).admitted.any (fun ticket =>
      ticket.kind == .resetAndReapply && ticket.deadlineMs == 2000) &&
    later.all (fun t => t.call.spares 2000) && later.countP (fun t => t.call.drives) == 16

/-- The profile that was left dirty is applied again. -/
theorem recovery_retry : ∃ ts u last dev, DriverRun (runOf benchUnconfirmed).2 ts u ∧
    (runOf benchUnconfirmed).2.appliedState = .dirty ∧ last ∈ ts ∧
    last.after.appliedState = .appliedSleeping ∧ last.after.configFault.valid = false ∧
    Holds last.after.config true dev := by
  have hstate : (runOf benchUnconfirmed).2.appliedState = .dirty := by decide +kernel
  have hearly : ((timeline (runOf benchUnconfirmed).1).map Mark.committedTick).all (fun tick =>
      tick.forced.all fun failure => failure.status.code != .i2cNackAddr) = true := by
    decide +kernel
  have haddress : (runOf benchUnconfirmed).2.config.i2cAddress.raw = 0x2A := by decide +kernel
  have hretry : (execute (runOf benchUnconfirmed).2 benchReapply).any (fun out =>
      out.1.head?.any (fun start => reapplies start out.1.tail) &&
      (benchRecoveryTicks out.1).all (fun tick => tick.forced.isNone) &&
      ((FakeLdc1614Device.constructed 0x2A).follow
        ((timeline (runOf benchUnconfirmed).1).map Mark.committedTick)).any fun dev =>
          (dev.follow (benchRecoveryTicks out.1)).isSome) = true := by decide +kernel
  obtain ⟨⟨ts, u⟩, hexecute, hfacts⟩ := (Option.any_eq_true _ _).mp hretry
  rw [Bool.and_eq_true, Bool.and_eq_true] at hfacts
  obtain ⟨⟨hstart, hhealthy⟩, hdevices⟩ := hfacts
  obtain ⟨start, hhead, hreapplies⟩ := (Option.any_eq_true _ _).mp hstart
  obtain ⟨later, rfl⟩ := List.head?_eq_some_iff.mp hhead
  obtain ⟨dev₀, hbefore, hafter⟩ := (Option.any_eq_true _ _).mp hdevices
  obtain ⟨dev, hafter⟩ := Option.isSome_iff_exists.mp hafter
  simp only [reapplies, List.tail_cons, Bool.and_eq_true, beq_iff_eq] at hreapplies
  obtain ⟨⟨⟨⟨-, hmaximum⟩, hadmits⟩, hspares⟩, hcount⟩ := hreapplies
  obtain ⟨ticket, hadmitted, hticket⟩ := (Option.any_eq_true _ _).mp hadmits
  rw [Bool.and_eq_true, beq_iff_eq, beq_iff_eq] at hticket
  obtain ⟨hkind, hdeadline⟩ := hticket
  have hmarks : (benchRecoveryTicks (start :: later)).filterMap Tick.mark =
      timeline (start :: later) := by
    rw [benchRecoveryTicks, List.filterMap_append, List.filterMap_cons, mark_committedTick]
    show _ ++ (((timeline (start :: later)).drop 9).map Mark.committedTick).filterMap Tick.mark = _
    rw [mark_committedTick, List.take_append_drop]
  have hpast : Alongside Driver.initial (.constructed 0x2A) (runOf benchUnconfirmed).1
      ((timeline (runOf benchUnconfirmed).1).map Mark.committedTick) (runOf benchUnconfirmed).2 dev₀ :=
    ⟨run_runOf benchUnconfirmed, deviceLife_of_follow hbefore, mark_committedTick _⟩
  have hcredible : ∀ tick ∈ (timeline (runOf benchUnconfirmed).1).map Mark.committedTick,
      ∀ failure ∈ tick.forced, failure.Credible := by
    intro tick htick failure hfailure _
    have hcode := List.all_eq_true.mp hearly tick htick
    rw [Option.all_eq_true] at hcode
    simpa using hcode failure hfailure
  have hreplay : ticket.kind ≠ .acquire := by
    rw [hkind]
    decide
  obtain ⟨mid, last, rest, result, hlater, -, -, -, hsleeping, hfault, -, -, dev', -, -, hholds⟩ :=
    recovery (identified_constructed 0x2A) hpast hcredible (fun _ => haddress)
      ⟨run_of_execute hexecute, deviceLife_of_follow hafter, hmarks⟩
      (fun tick htick => Option.isNone_iff_eq_none.mp (List.all_eq_true.mp hhealthy tick htick))
      hadmitted hreplay (hdeadline ▸ List.all_eq_true.mp hspares)
      (by rw [hmaximum, hcount]; decide)
  exact ⟨start :: later, u, last, dev'.reg, run_of_execute hexecute, hstate, by simp [hlater],
    hsleeping, hfault, hholds⟩

end Ldc1614
