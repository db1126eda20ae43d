import Ldc1614.Driver.Steps

/-! # Every run is a path of steps

Each public operation decomposes into the steps of `Steps.lean`, so that a run of operations against
any transport is a path over its timeline, and the invariant holds of every reachable state. -/

namespace Ldc1614

open Cmd Interaction Interaction.Program

/-! ### Every call is made of steps -/

namespace Driver

variable {d d' : Driver} {stage : Stage} {call : Call} {output : Output} {events : List Event}

/-- `bind` is refused, or binds. -/
theorem quiet_bind (config : Config) :
    d.Quiet (.bind config) (.status (d.bind config).2) (d.bind config).1 := by
  unfold Driver.bind
  dsimp only
  split
  · exact .kept rfl
  · next hfree =>
      split
      · next hinvalid =>
          have hrefused : (validateConfig config).isOk = false := by simpa using hinvalid
          exact .kept hrefused
      · next hvalid => exact .bound config (by simpa using hfree) (by simpa using hvalid)

/-- `updateDesiredConfig` is refused, or installs the profile. -/
theorem quiet_updateDesiredConfig (config : Config) :
    d.Quiet (.updateDesiredConfig config) (.status (d.updateDesiredConfig config).2)
      (d.updateDesiredConfig config).1 := by
  unfold updateDesiredConfig
  dsimp only
  split
  · exact .kept rfl
  next hbound =>
  split
  · exact .kept rfl
  next hidle =>
  split
  · exact .kept rfl
  next hasleep =>
  split
  · next hinvalid =>
      have hrefused : (validateConfig config).isOk = false := by simpa using hinvalid
      exact .kept hrefused
  next hvalid =>
  split
  · exact .kept rfl
  next hsame =>
  split
  · exact .kept rfl
  next hrevision =>
  simp only [Bool.or_eq_true, decide_eq_true_eq, not_or, ne_eq, not_not] at hsame
  obtain ⟨⟨⟨⟨hwrite, hread⟩, huser⟩, haddress⟩, hvariant⟩ := hsame
  exact .updated config ⟨by simpa using hbound, by simpa using hidle, hasleep, by simpa using hvalid,
    hwrite, hread, huser, haddress, hvariant, hrevision⟩

/-- Admission is one step or none. -/
theorem quiet_startJob {kind : JobKind} {channels : ChannelMask} {operationId deadlineMs : U64}
    {maximumTransfers : U8}
    (hstarts : d.bound = true →
      d.Starts call kind channels operationId deadlineMs maximumTransfers)
    (hkind : startingPoint kind ≠ none)
    (hrefused : ∀ status : Status, status.inProgress = false →
      call.effective (.status status) = false) :
    d.Quiet call (.status (d.startJob kind channels operationId deadlineMs maximumTransfers).2)
      (d.startJob kind channels operationId deadlineMs maximumTransfers).1 := by
  unfold startJob
  split
  · exact .kept (hrefused _ rfl)
  next hbound =>
  split
  · exact .kept (hrefused _ rfl)
  next hnamed =>
  split
  · exact .kept (hrefused _ rfl)
  next hfresh =>
  split
  · exact .kept (hrefused _ rfl)
  next hidle =>
  split
  · exact .kept (hrefused _ rfl)
  next hslot =>
  have hbound' : d.bound = true := by simpa using hbound
  split
  · next start hstart =>
      exact .started (hstarts hbound') ⟨hbound', by simpa using hidle, hnamed, by simpa using hfresh,
        by simpa [reserveResultSlot] using hslot⟩ hstart
  · next hnone => exact absurd hnone hkind

/-- `startApplyConfig` is refused, or admits its job. -/
theorem quiet_startApplyConfig (operationId deadlineMs : U64) :
    d.Quiet (.startApplyConfig operationId deadlineMs)
      (.status (d.startApplyConfig operationId deadlineMs).2)
      (d.startApplyConfig operationId deadlineMs).1 := by
  unfold startApplyConfig
  split
  · exact .kept rfl
  · next hknown =>
      refine quiet_startJob (fun hbound => .applyConfig _ _ fun hunknown => hknown ?_)
        (by decide) fun _ h => h
      simp [hbound, hunknown]

/-- `startAcquire` is refused, or admits its job. -/
theorem quiet_startAcquire (channels : ChannelMask) (operationId deadlineMs : U64) :
    d.Quiet (.startAcquire channels operationId deadlineMs)
      (.status (d.startAcquire channels operationId deadlineMs).2)
      (d.startAcquire channels operationId deadlineMs).1 := by
  unfold startAcquire
  split
  · exact .kept rfl
  split
  · exact .kept rfl
  next hactive =>
  split
  · exact .kept rfl
  next hmask =>
  simp only [Bool.or_eq_true, not_or, ChannelMask.empty, beq_iff_eq, bne_iff_ne, ne_eq,
    not_not] at hmask hactive
  exact quiet_startJob (fun _ => .acquire _ _ _ hactive hmask.1 hmask.2) (by decide) fun _ h => h

/-- `cancelJob` finds no job, or ends it. -/
theorem quiet_cancelJob : d.Quiet .cancelJob (.status d.cancelJob.2) d.cancelJob.1 := by
  unfold cancelJob
  split
  · exact .kept rfl
  · next hactive => exact .cancelled (by simpa using hactive)

/-- Delivery is one step or none, and the head of the ring is within its bounds. -/
theorem quiet_takeResult (hhead : d.resultHead.toNat < resultCapacity) :
    ∃ out d', d.takeResult = .done (d', out) ∧ d.Quiet .takeResult (.result out.1 out.2) d' := by
  by_cases hzero : d.resultCount = 0
  · exact ⟨_, _, takeResult_of_zero hzero, .kept rfl⟩
  · exact ⟨_, _, takeResult_of_ne_zero hzero hhead, .taken hzero hhead⟩

/-- The transfers of one `poll` are job steps. -/
theorem drive_path {nowMs : U64} {maxTransfers : U8} {timeoutMs : U32} {budget : ℕ} {status : Status}
    (h : d.Running stage) (hvalid : d.config.Valid)
    (hdue : dueOrPast nowMs d.progress.deadlineMs = false)
    (hy : (drive nowMs timeoutMs budget d).Yields events (d', status)) :
    Path Step d (events.map (.bus (.poll nowMs maxTransfers))) d' := by
  induction budget generalizing d stage events with
  | zero =>
      obtain ⟨rfl, hend⟩ := hy
      cases hend
      exact .nil
  | succ budget ih =>
      simp only [drive, h.here, yields_call] at hy
      obtain ⟨reply, rest, rfl, hy⟩ := hy
      have hstep : Step d (.bus (.poll nowMs maxTransfers)
          ((stage.transfer d.config).request d.config timeoutMs, reply))
          (d.resume stage reply nowMs).driver := .job h hdue
      rw [List.map_cons, ← List.singleton_append]
      refine (Path.single hstep).append ?_
      cases hv : d.verdict stage reply with
      | none =>
          rw [resume_of_none hv] at hy
          rw [resume_driver_of_none hv]
          obtain ⟨next, hnext⟩ := h.settled hvalid hv
          refine ih hnext ?_ ?_ hy
          · rw [settled_config]
            exact hvalid
          · rw [settled_deadlineMs]
            exact hdue
      | some verdict =>
          rw [resume_of_some hv] at hy
          rw [resume_driver_of_some hv]
          obtain ⟨rfl, hend⟩ := hy
          cases hend
          exact .nil

/-- The program of a call outside a job: exchanges that are steps, then a return without effect. -/
inductive Exchanges (call : Call) : Driver → Bus (Driver × Output) → Prop
  | done {d : Driver} {output : Output} (h : call.effective output = false) :
      Exchanges call d (.done (d, output))
  | call {d : Driver} {request : Request} {next : Reply → Bus (Driver × Output)}
      {after : Reply → Driver} (h : ∀ reply, d.Direct call (request, reply) (after reply))
      (hnext : ∀ reply, Exchanges call (after reply) (next reply)) :
      Exchanges call d (.call request next)

/-- Such a program is a path of steps. -/
theorem Exchanges.path {program : Bus (Driver × Output)} (h : Exchanges call d program)
    (hy : program.Yields events (d', output)) :
    Path Step d (events.map (Mark.bus call) ++ [.ret call output]) d' := by
  induction h generalizing events with
  | done hkept =>
      obtain ⟨rfl, hend⟩ := hy
      cases hend
      exact .single (.quiet (.kept hkept))
  | call hdirect _ ih =>
      obtain ⟨reply, rest, rfl, hy⟩ := hy
      exact (Path.single (.direct (hdirect reply))).append (ih reply hy)

/-- A register read outside a job, and what the call makes of it. -/
theorem exchanges_read {reg : U8} {output : Reply → Output} (hw : d.WellFormed)
    (hcall : readsRegister call = true) (hbound : d.bound = true)
    (hidle : d.progress.active = false) (hvalid : isValidRegisterAddress reg = true)
    (havailable : d.available reg) (hkept : ∀ reply, call.effective (output reply) = false)
    {k : Driver × Status × U16 → Bus (Driver × Output)}
    (hk : ∀ reply, k (d.tracked reply.status, reply.status,
      if reply.status.isOk then reply.word else 0) = .done (d.tracked reply.status, output reply)) :
    Exchanges call d (d.readRegister reg d.config.i2cTimeoutMs >>= k) := by
  rw [readRegister_eq (hw.validProfile hbound).i2cWriteRead]
  refine .call (fun reply => .read hcall hbound hidle hvalid havailable) fun reply => ?_
  change Exchanges call _ (k _)
  rw [hk]
  exact .done (hkept reply)

/-- STATUS is a register of every variant. -/
theorem available_status : d.available regStatus := fun h => absurd h.2 (by decide)

/-- `readDeviceStatus` reads STATUS at most. -/
theorem exchanges_readDeviceStatus (hw : d.WellFormed) :
    Exchanges .readDeviceStatus d (Call.exec .readDeviceStatus d) := by
  simp only [Call.exec, readDeviceStatus]
  split
  · exact .done rfl
  next hbound =>
  split
  · exact .done rfl
  next hidle =>
  rw [Program.bind_assoc]
  exact exchanges_read hw rfl (by simpa using hbound) (by simpa using hidle) (by decide)
    available_status (fun _ => rfl) (fun _ => rfl)

/-- The fallback of `readDataReady` reads STATUS. -/
theorem exchanges_readDataReadyStatus (hw : d.WellFormed) (hbound : d.bound = true)
    (hidle : d.progress.active = false) :
    Exchanges .readDataReady d (d.readDataReadyStatus >>= fun p =>
      .done (p.1, .dataReady p.2.1 p.2.2.1 p.2.2.2)) := by
  rw [readDataReadyStatus, readDeviceStatus, if_neg (by simp [hbound]), if_neg (by simp [hidle]),
    Program.bind_assoc, Program.bind_assoc]
  exact exchanges_read hw rfl hbound hidle (by decide) available_status (fun _ => rfl)
    (fun _ => rfl)

/-- `readDataReady` observes INTB at most, and else reads STATUS. -/
theorem exchanges_readDataReady (hw : d.WellFormed) :
    Exchanges .readDataReady d (Call.exec .readDataReady d) := by
  simp only [Call.exec, readDataReady]
  split
  · exact .done rfl
  next hbound =>
  split
  · exact .done rfl
  split
  · exact .done rfl
  next hidle =>
  split
  · exact .done rfl
  have hbound' : d.bound = true := by simpa using hbound
  have hstatus := exchanges_readDataReadyStatus hw hbound' (by simpa using hidle)
  split
  · next callback hcallback =>
      split
      · exact hstatus
      · refine .call (fun reply => .observed (Or.inr rfl) hbound' hcallback) fun reply => ?_
        dsimp only
        split
        · exact .done rfl
        split
        · exact .done rfl
        · exact hstatus
  · exact hstatus

/-- A diagnostic read reads its register at most. -/
theorem exchanges_readRegister16 (hw : d.WellFormed) (reg : U8)
    (hcall : readsRegister call = true) (hkept : ∀ output, call.effective output = false)
    (out : Driver × Status × U16 → Output) :
    Exchanges call d (d.readRegister16 reg >>= fun p => .done (p.1, out p)) := by
  unfold readRegister16
  split
  · exact .done (hkept _)
  next hbound =>
  split
  · exact .done (hkept _)
  next hidle =>
  split
  · exact .done (hkept _)
  next hvalid =>
  split
  · exact .done (hkept _)
  next havailable =>
  exact exchanges_read hw hcall (by simpa using hbound) (by simpa using hidle)
    (by simpa using hvalid) (by simpa [available] using havailable) (fun _ => hkept _)
    (fun _ => rfl)

/-- `readInitDriveCurrent` reads the drive current register of its channel at most. -/
theorem exchanges_readInitDriveCurrent (hw : d.WellFormed) (channel : Channel) :
    Exchanges (.readInitDriveCurrent channel) d (Call.exec (.readInitDriveCurrent channel) d) := by
  simp only [Call.exec, readInitDriveCurrent]
  split
  · exact .done rfl
  split
  · exact .done rfl
  rw [Program.bind_assoc]
  exact exchanges_readRegister16 hw _ rfl (fun _ => rfl) fun p => .code p.2.1
    (if p.2.1.isOk then ((p.2.2 &&& maskInitIdrive) >>> bitInitIdrive).setWidth 8 else 0)

/-- `readIntb` observes INTB at most. -/
theorem exchanges_readIntb : Exchanges .readIntb d (Call.exec .readIntb d) := by
  simp only [Call.exec, readIntb]
  split
  · exact .done rfl
  next hbound =>
  split
  · exact .done rfl
  · next callback hcallback =>
      split
      · exact .done rfl
      · exact .call (fun reply => .observed (Or.inl rfl) (by simpa using hbound) hcallback)
          fun reply => .done rfl

/-- A register write outside a job. -/
theorem exchanges_write {reg : U8} {value : U16} {after : Status → Driver × Status}
    (hw : d.WellFormed) (hbound : d.bound = true) (hkept : ∀ output, call.effective output = false)
    (hdirect : ∀ reply, d.Direct call (d.directRequest (.write reg value), reply)
      (after reply.status).1)
    {k : Driver × Status → Bus (Driver × Output)}
    (hk : ∀ status, k (d.tracked status, status) =
      .done ((after status).1, .status (after status).2)) :
    Exchanges call d (d.writeRegister reg value d.config.i2cTimeoutMs >>= k) := by
  rw [writeRegister_eq (hw.validProfile hbound).i2cWrite]
  refine .call hdirect fun reply => ?_
  change Exchanges call _ (k _)
  rw [hk]
  exact .done (hkept _)

/-- `sleep` writes CONFIG at most. -/
theorem exchanges_sleep (hw : d.WellFormed) : Exchanges .sleep d (Call.exec .sleep d) := by
  simp only [Call.exec, sleep, switchSleep]
  split
  · exact .done rfl
  next hbound =>
  split
  · exact .done rfl
  next hidle =>
  split
  · exact .done rfl
  split
  · exact .done rfl
  next hstate =>
  rw [Program.bind_assoc]
  exact exchanges_write hw (by simpa using hbound) (fun _ => rfl)
    (fun reply => .slept (by simpa using hbound) (by simpa using hidle) (by simpa using hstate))
    (fun _ => rfl)

/-- `wake` writes CONFIG at most. -/
theorem exchanges_wake (hw : d.WellFormed) : Exchanges .wake d (Call.exec .wake d) := by
  simp only [Call.exec, wake, switchSleep]
  split
  · exact .done rfl
  next hbound =>
  split
  · exact .done rfl
  next hidle =>
  split
  · exact .done rfl
  split
  · exact .done rfl
  next hstate =>
  rw [Program.bind_assoc]
  exact exchanges_write hw (by simpa using hbound) (fun _ => rfl)
    (fun reply => .woken (by simpa using hbound) (by simpa using hidle) (by simpa using hstate))
    (fun _ => rfl)

/-- A diagnostic write writes its register at most. -/
theorem exchanges_writeRegister16 (hw : d.WellFormed) (reg : U8) (value : U16) :
    Exchanges (.writeRegister16 reg value) d (Call.exec (.writeRegister16 reg value) d) := by
  simp only [Call.exec, writeRegister16]
  split
  · exact .done rfl
  next hbound =>
  split
  · exact .done rfl
  next hidle =>
  split
  · exact .done rfl
  next hvalid =>
  split
  · exact .done rfl
  next havailable =>
  rw [Program.bind_assoc]
  exact exchanges_write hw (by simpa using hbound) (fun _ => rfl)
    (fun reply => .wrote reg value (by simpa using hbound) (by simpa using hidle)
      (by simpa using hvalid) (by simpa [available] using havailable))
    (fun _ => rfl)

/-- `poll` is a quiet step, or the transfers of a running job. -/
theorem poll_path {nowMs : U64} {maxTransfers : U8} {status : Status} (hw : d.WellFormed)
    (hy : (d.poll nowMs maxTransfers).Yields events (d', status)) :
    Path Step d (events.map (.bus (.poll nowMs maxTransfers)) ++
      [.ret (.poll nowMs maxTransfers) (.status status)]) d' := by
  cases hactive : d.progress.active with
  | false =>
      rw [poll_of_idle hactive] at hy
      obtain ⟨rfl, hend⟩ := hy
      cases hend
      exact .single (.quiet (.kept rfl))
  | true =>
      obtain ⟨stage, hrun⟩ := hw.running hactive
      cases hdue : dueOrPast nowMs d.progress.deadlineMs with
      | true =>
          rw [poll_of_due hactive hdue] at hy
          obtain ⟨rfl, hend⟩ := hy
          cases hend
          exact .single (.quiet (.expired nowMs maxTransfers hactive hdue))
      | false =>
          by_cases hmax : maxTransfers = 0
          · rw [hmax, poll_zero hactive hdue] at hy
            obtain ⟨rfl, hend⟩ := hy
            cases hend
            exact .single (.quiet (.kept rfl))
          · rw [poll_eq_drive hrun (hw.validProfile hrun.bound) hdue hmax] at hy
            exact (drive_path hrun (hw.validProfile hrun.bound) hdue hy).snoc (.quiet (.kept rfl))

end Driver

/-! ### Runs are paths of steps -/

/-- A call without the bus is one step. -/
theorem silent_path {d d' : Driver} {call : Call} {output : Output} {events : List Event}
    {step : Driver × Status} (h : d.Quiet call (.status step.2) step.1)
    (hy : (silent step).Yields events (d', output)) :
    Path Step d (events.map (.bus call) ++ [.ret call output]) d' := by
  obtain ⟨rfl, hend⟩ := hy
  cases hend
  exact .single (.quiet h)

/-- The steps of an invalidation: the nested cancellation, then the invalidation itself. -/
theorem invalidate_path (d : Driver) (reason : Status) :
    Path Step d ((if d.progress.active then [Mark.ret .cancelJob (.status .ok)] else []) ++
      [.ret (.invalidateAppliedState reason) .nothing]) (d.invalidateAppliedState reason) := by
  by_cases hactive : d.progress.active = true
  · rw [if_pos hactive]
    have hnested : (d.invalidateAppliedState reason) = d.cancelJob.1.invalidated reason := by
      rw [Driver.invalidateAppliedState, if_pos hactive]
      rfl
    have hcancel : d.cancelJob.1 = ((d.recordInterruption Driver.operationCancelled).finishJob
        .cancelled Driver.operationCancelled 0).1 := by
      rw [Driver.cancelJob, if_neg (by simp [hactive])]
    rw [hnested, hcancel]
    exact (Path.single (.quiet (.cancelled hactive))).snoc (.quiet (.invalidated reason rfl))
  · rw [if_neg hactive]
    have hplain : (d.invalidateAppliedState reason) = d.invalidated reason := by
      rw [Driver.invalidateAppliedState, if_neg hactive]
      rfl
    rw [hplain]
    exact .single (.quiet (.invalidated reason (by simpa using hactive)))

/-- **Every executed call is a path of steps** over its marks. -/
theorem transition_path (t : DriverTransition) (hw : t.before.WellFormed) (hv : t.Valid Call.exec) :
    Path Step t.before (marks t) t.after := by
  obtain ⟨d, call, events, output, d'⟩ := t
  change (call.exec d).Yields events (d', output) at hv
  change d.WellFormed at hw
  cases call with
  -- calls without the bus end in a single step
  | bind config => exact silent_path (Driver.quiet_bind config) hv
  | end_ =>
      obtain ⟨rfl, hend⟩ := hv
      cases hend
      exact .single (.quiet .ended)
  | updateDesiredConfig config => exact silent_path (Driver.quiet_updateDesiredConfig config) hv
  | startInitialize operationId deadlineMs =>
      exact silent_path (Driver.quiet_startJob (fun _ => .initialise operationId deadlineMs)
        (by decide) fun _ h => h) hv
  | startApplyConfig operationId deadlineMs =>
      exact silent_path (Driver.quiet_startApplyConfig operationId deadlineMs) hv
  | startResetAndReapply operationId deadlineMs =>
      exact silent_path (Driver.quiet_startJob (fun _ => .resetAndReapply operationId deadlineMs)
        (by decide) fun _ h => h) hv
  | startAcquire channels operationId deadlineMs =>
      exact silent_path (Driver.quiet_startAcquire channels operationId deadlineMs) hv
  -- a poll is a step for every transfer, and one for its return
  | poll nowMs maxTransfers =>
      obtain ⟨first, ⟨e, status⟩, rest, rfl, hpoll, hrest⟩ := yields_bind.mp hv
      obtain ⟨rfl, hend⟩ := hrest
      cases hend
      rw [List.append_nil]
      exact Driver.poll_path hw hpoll
  | cancelJob => exact silent_path Driver.quiet_cancelJob hv
  -- taking a result reads the ring at its head, which is within it
  | takeResult =>
      obtain ⟨out, e, htake, hquiet⟩ := Driver.quiet_takeResult hw.head
      rw [Call.exec, htake] at hv
      obtain ⟨rfl, hend⟩ := hv
      cases hend
      exact .single (.quiet hquiet)
  -- an invalidation cancels an active job first
  | invalidateAppliedState reason =>
      obtain ⟨rfl, hend⟩ := hv
      cases hend
      have hpath := invalidate_path d reason
      rwa [← List.append_nil (if d.progress.active then _ else _)] at hpath
  | readDeviceStatus => exact (Driver.exchanges_readDeviceStatus hw).path hv
  | readDataReady => exact (Driver.exchanges_readDataReady hw).path hv
  | sleep => exact (Driver.exchanges_sleep hw).path hv
  | wake => exact (Driver.exchanges_wake hw).path hv
  | readInitDriveCurrent channel => exact (Driver.exchanges_readInitDriveCurrent hw channel).path hv
  | readRegister16 reg =>
      exact (Driver.exchanges_readRegister16 hw reg rfl (fun _ => rfl) fun p =>
        .word p.2.1 p.2.2).path hv
  | writeRegister16 reg value => exact (Driver.exchanges_writeRegister16 hw reg value).path hv
  | readIntb => exact Driver.exchanges_readIntb.path hv

/-- **Every run is a path of steps** over its timeline. -/
theorem run_path {s d : Driver} {ts : List DriverTransition} (hs : s.WellFormed)
    (h : DriverRun s ts d) : Path Step s (timeline ts) d :=
  Run.path hs (fun _ _ _ hw hstep => hstep.wellFormed hw) transition_path h

/-- A run keeps the invariant. -/
theorem run_wellFormed {s d : Driver} {ts : List DriverTransition} (hs : s.WellFormed)
    (h : DriverRun s ts d) : d.WellFormed :=
  (run_path hs h).invariant hs fun _ _ _ hw hstep => hstep.wellFormed hw

/-- Every reachable state is well formed. -/
theorem Reachable.wellFormed {d : Driver} (h : Reachable d) : d.WellFormed := by
  obtain ⟨ts, hrun⟩ := h
  exact run_wellFormed Driver.wellFormed_initial hrun

/-! ### Bindings -/

/-- `WithinBinding s ts u`: a successful `bind` left `s`, and the run `ts` leads from there to `u`
without ending the binding. -/
structure WithinBinding (s : Driver) (ts : List DriverTransition) (u : Driver) : Prop where
  binding : ∃ past t config, DriverRun Driver.initial (past ++ [t]) s ∧ t.call = .bind config ∧
    t.output.toStatus.isOk = true
  run : DriverRun s ts u
  kept : ∀ t ∈ ts, t.call.rebinds t.output = false

/-- A call of `poll` ran its program and returned its status. -/
theorem poll_valid {t : DriverTransition} {nowMs : U64} {maxTransfers : U8}
    (hv : t.Valid Call.exec) (hcall : t.call = .poll nowMs maxTransfers) :
    ∃ status, t.output = .status status ∧
      (t.before.poll nowMs maxTransfers).Yields t.events (t.after, status) := by
  obtain ⟨d, call, events, output, d'⟩ := t
  obtain rfl : call = .poll nowMs maxTransfers := hcall
  obtain ⟨first, ⟨e, status⟩, last, hevents, hpoll, hlast⟩ := yields_bind.mp hv
  obtain ⟨rfl, hend⟩ := hlast
  obtain ⟨rfl, rfl⟩ := Prod.mk.inj hend
  obtain rfl : events = first := hevents.trans (List.append_nil first)
  exact ⟨status, rfl, hpoll⟩

/-- A successful `bind` validated its profile and left it installed. -/
theorem bind_valid {t : DriverTransition} {config : Config} (hv : t.Valid Call.exec)
    (hcall : t.call = .bind config) (hok : t.output.toStatus.isOk = true) :
    t.before.bound = false ∧ (validateConfig config).isOk = true ∧
      t.after = t.before.boundTo config := by
  obtain ⟨d, call, events, output, d'⟩ := t
  obtain rfl : call = .bind config := hcall
  obtain ⟨-, hend⟩ : events = [] ∧ (d', output) = ((d.bind config).1, .status (d.bind config).2) :=
    hv
  obtain ⟨rfl, rfl⟩ := Prod.mk.inj hend
  show d.bound = false ∧ (validateConfig config).isOk = true ∧
    (d.bind config).1 = d.boundTo config
  change (d.bind config).2.isOk = true at hok
  unfold Driver.bind at hok ⊢
  dsimp only at hok ⊢
  split at hok
  · cases hok
  next hfree =>
  split at hok
  · next hinvalid =>
      rw [Bool.not_eq_true'] at hinvalid
      exact absurd (hinvalid.symm.trans hok) Bool.noConfusion
  next hvalid =>
  rw [Bool.not_eq_true', Bool.not_eq_false] at hvalid
  exact ⟨by simpa using hfree, hvalid, by rw [if_neg hfree, if_neg (by simp [hvalid])]⟩

/-- A binding starts in the state `bind` establishes. -/
theorem WithinBinding.start {s u : Driver} {ts : List DriverTransition}
    (h : WithinBinding s ts u) : ∃ d config, Reachable d ∧ (validateConfig config).isOk = true ∧
      s = d.boundTo config := by
  obtain ⟨past, t, config, hrun, hcall, hok⟩ := h.binding
  obtain ⟨hbefore, hvalid, rfl⟩ := Run.last hrun
  obtain ⟨-, hconfig, hafter⟩ := bind_valid hvalid hcall hok
  exact ⟨t.before, config, ⟨past, hbefore⟩, hconfig, hafter⟩

/-- A binding starts in a well-formed driver. -/
theorem WithinBinding.wellFormed {s u : Driver} {ts : List DriverTransition}
    (h : WithinBinding s ts u) : s.WellFormed := by
  obtain ⟨past, t, config, hrun, -, -⟩ := h.binding
  exact run_wellFormed Driver.wellFormed_initial hrun

/-! ### The states a run passes through -/

/-- The states a driver passes through from construction on, also in the middle of a call. -/
def Visited (d : Driver) : Prop := ∃ labels, Path Step Driver.initial labels d

/-- Every state on the way is well formed. -/
theorem Visited.wellFormed {d : Driver} (h : Visited d) : d.WellFormed := by
  obtain ⟨labels, hpath⟩ := h
  exact hpath.invariant Driver.wellFormed_initial fun _ _ _ hw hstep => hstep.wellFormed hw

/-- What calls lead to is visited. -/
theorem Reachable.visited {d : Driver} (h : Reachable d) : Visited d := by
  obtain ⟨ts, hrun⟩ := h
  exact ⟨_, run_path Driver.wellFormed_initial hrun⟩

/-- What the bus does to the driver, and a cancellation: profile, binding and revision stay. -/
theorem Step.keeps_binding {d d' : Driver} {mark : Mark} (h : Step d mark d')
    (hmark : (∃ call event, mark = .bus call event) ∨ ∃ output, mark = .ret .cancelJob output) :
    d'.config = d.config ∧ d'.bound = d.bound ∧ d'.configRevision = d.configRevision := by
  have hframe {e : Driver} (h : e.frame = d.frame) :
      e.config = d.config ∧ e.bound = d.bound ∧ e.configRevision = d.configRevision :=
    ⟨(congrArg Driver.config h :), (congrArg Driver.bound h :),
      (congrArg Driver.configRevision h :)⟩
  cases h with
  | @job stage nowMs _ _ reply hrun hdue =>
      cases hv : d.verdict stage reply with
      | none =>
          rw [Driver.resume_driver_of_none hv]
          exact hframe (Driver.settled_frame d stage reply)
      | some verdict =>
          rw [Driver.resume_driver_of_some hv]
          exact hframe (e := d.settled stage reply) (Driver.settled_frame d stage reply)
  | direct hdirect => exact hframe hdirect.frame_eq
  | quiet hquiet =>
      rcases hmark with ⟨_, _, hmark⟩ | ⟨_, hmark⟩
      · cases hmark
      cases hmark
      cases hquiet with
      | kept => exact ⟨rfl, rfl, rfl⟩
      | started hstarts => cases hstarts
      | cancelled =>
          exact hframe (e := d.recordInterruption Driver.operationCancelled)
            (Driver.recordInterruption_frame _)

/-- **Around an exchange of a run**: the visited states before and after it, in the binding the call
was made in. -/
theorem event_step {ts us : List DriverTransition} {t : DriverTransition} {u : Driver}
    {pre post : List Event} {event : Event}
    (h : DriverRun Driver.initial (ts ++ t :: us) u) (hevents : t.events = pre ++ event :: post) :
    ∃ m m', Path Step Driver.initial
        (timeline ts ++ (nestedMarks t ++ pre.map (.bus t.call))) m ∧
      Step m (.bus t.call event) m' ∧ m.config = t.before.config ∧ m.bound = t.before.bound ∧
      m.configRevision = t.before.configRevision := by
  obtain ⟨hbefore, hvalid, -⟩ := Run.around h
  have hpath := run_path Driver.wellFormed_initial hbefore
  have hw := run_wellFormed Driver.wellFormed_initial hbefore
  have hcall := transition_path t hw hvalid
  have hmarks : marks t = (nestedMarks t ++ pre.map (Mark.bus t.call)) ++
      Mark.bus t.call event :: (post.map (Mark.bus t.call) ++ [.ret t.call t.output]) := by
    simp [marks, hevents]
  rw [hmarks] at hcall
  obtain ⟨m, m', hfirst, hstep, -⟩ := Path.around hcall
  have hkept : m.config = t.before.config ∧ m.bound = t.before.bound ∧
      m.configRevision = t.before.configRevision := by
    have hlabels : ∀ mark ∈ nestedMarks t ++ pre.map (Mark.bus t.call),
        (∃ call event, mark = Mark.bus call event) ∨
          ∃ output, mark = Mark.ret .cancelJob output := by
      intro mark hmark
      rcases List.mem_append.mp hmark with hmark | hmark
      · refine Or.inr ⟨.status .ok, ?_⟩
        unfold nestedMarks at hmark
        split at hmark
        · split at hmark
          · exact List.mem_singleton.mp hmark
          · cases hmark
        · cases hmark
      · obtain ⟨event, -, rfl⟩ := List.mem_map.mp hmark
        exact Or.inl ⟨_, _, rfl⟩
    generalize nestedMarks t ++ pre.map (Mark.bus t.call) = labels at hfirst hlabels
    clear hstep
    induction hfirst with
    | nil => exact ⟨rfl, rfl, rfl⟩
    | snoc _ hstep ih =>
        have hprev := ih fun mark hmark => hlabels mark (by simp [hmark])
        have hlast := hstep.keeps_binding (hlabels _ (by simp))
        exact ⟨hlast.1.trans hprev.1, hlast.2.1.trans hprev.2.1, hlast.2.2.trans hprev.2.2⟩
  exact ⟨m, m', hpath.append hfirst, hstep, hkept⟩

end Ldc1614
