import Ldc1614.Driver.Records

/-! # The steps of a run

A run of public operations, taken apart into its smallest steps: one exchange with a callback, or
the return of a call. Each kind of step is listed once, with its guard and the state it leads to
(`Quiet`, `Direct` and the transfers of a job), and `run_path` decomposes every run into such steps.
Every invariant of the driver is proved by one case analysis over them. -/

namespace Ldc1614

open Cmd Interaction Interaction.Program

/-! ### The timeline of a run -/

/-- One entry of the timeline: an exchange with a callback during a call, or the return of a
call. -/
inductive Mark where
  | bus (call : Call) (event : Event)
  | ret (call : Call) (output : Output)
  deriving DecidableEq, Repr

/-- The exchanges of a mark: one or none. -/
def Mark.events : Mark → List Event
  | .bus _ event => [event]
  | .ret _ _ => []

/-- The nested call of `invalidateAppliedState` that cancels an active job. -/
def nestedMarks (t : DriverTransition) : List Mark :=
  match t.call with
  | .invalidateAppliedState _ =>
      if t.before.progress.active then [.ret .cancelJob (.status .ok)] else []
  | _ => []

/-- The marks of one executed call. -/
def marks (t : DriverTransition) : List Mark :=
  nestedMarks t ++ t.events.map (.bus t.call) ++ [.ret t.call t.output]

/-- The timeline of a run. -/
def timeline (ts : List DriverTransition) : List Mark := ts.flatMap marks

/-- The exchanges of the timeline are those of the run. -/
theorem timeline_events (ts : List DriverTransition) :
    (timeline ts).flatMap Mark.events = exchange ts := by
  have hmarks (t : DriverTransition) : (marks t).flatMap Mark.events = t.events := by
    have hnested : (nestedMarks t).flatMap Mark.events = [] := by
      unfold nestedMarks
      split
      · split <;> rfl
      · rfl
    have hbus : (t.events.map (Mark.bus t.call)).flatMap Mark.events = t.events := by
      induction t.events with
      | nil => rfl
      | cons event events ih => simp [Mark.events, ih]
    simp [marks, hnested, hbus, Mark.events]
  induction ts with
  | nil => rfl
  | cons t ts ih =>
      rw [timeline, List.flatMap_cons, List.flatMap_append, hmarks, exchange_cons]
      exact congrArg _ ih

/-- The register transfer an active job made, with the reply. Only `poll` advances a job. -/
def Mark.jobTransfer : Mark → Option (Transfer × Reply)
  | .bus (.poll _ _) (request, reply) => request.transfer.map (·, reply)
  | _ => none

/-- The exchange of a stage is the transfer of that stage. -/
theorem jobTransfer_stage (stage : Stage) (config : Config) (nowMs : U64) (maxTransfers : U8)
    (timeoutMs : U32) (reply : Reply) :
    (Mark.bus (.poll nowMs maxTransfers)
      ((stage.transfer config).request config timeoutMs, reply)).jobTransfer =
      some (stage.transfer config, reply) := by
  show ((stage.transfer config).request config timeoutMs).transfer.map (·, reply) = _
  rw [transfer_request]
  rfl

/-- The job transfers among the marks of a path. -/
theorem filterMap_snoc (past : List (Transfer × Reply)) (labels : List Mark) (mark : Mark) :
    past ++ (labels ++ [mark]).filterMap Mark.jobTransfer =
      past ++ labels.filterMap Mark.jobTransfer ++ mark.jobTransfer.toList := by
  rw [List.filterMap_append, ← List.append_assoc]
  cases hmark : mark.jobTransfer with
  | none => simp [hmark]
  | some e => simp [hmark]

/-- The transfers that jobs made during these calls. -/
def jobTransfers (ts : List DriverTransition) : List (Transfer × Reply) :=
  (timeline ts).filterMap Mark.jobTransfer

/-- One more call adds its transfers at the end. -/
theorem jobTransfers_concat (past : List (Transfer × Reply)) (ts : List DriverTransition)
    (t : DriverTransition) :
    past ++ jobTransfers (ts ++ [t]) =
      past ++ jobTransfers ts ++ (marks t).filterMap Mark.jobTransfer := by
  rw [jobTransfers, timeline, List.flatMap_append, List.filterMap_append, List.flatMap_singleton,
    ← List.append_assoc]
  rfl

/-! ### Steps without the bus -/

/-- The status a call returned. -/
def Output.toStatus : Output → Status
  | .nothing => .ok
  | .status returned | .result returned _ | .deviceStatus returned _ | .dataReady returned _ _
  | .code returned _ | .word returned _ | .intb returned _ => returned

/-- The call took effect: a binding, an update, an admission, a delivery or an invalidation. -/
def Call.effective : Call → Output → Bool
  | .bind _, output | .updateDesiredConfig _, output | .takeResult, output => output.toStatus.isOk
  | .startInitialize _ _, output | .startApplyConfig _ _, output
  | .startResetAndReapply _ _, output | .startAcquire _ _ _, output => output.toStatus.inProgress
  | .end_, _ | .invalidateAppliedState _, _ => true
  | _, _ => false

/-- The call begins or ends a binding. -/
def Call.rebinds : Call → Output → Bool
  | .bind _, output => output.toStatus.isOk
  | .end_, _ => true
  | _, _ => false

/-- A call without effect does not touch the binding. -/
theorem Call.rebinds_of_kept {call : Call} {output : Output} (h : call.effective output = false) :
    call.rebinds output = false := by
  cases call with
  | bind => exact h
  | end_ => cases h
  | _ => rfl

/-- The call makes exchanges with a callback. -/
def Call.usesBus : Call → Bool
  | .poll _ _ | .readDeviceStatus | .readDataReady | .sleep | .wake | .readInitDriveCurrent _
  | .readRegister16 _ | .writeRegister16 _ _ | .readIntb => true
  | _ => false

/-- The call of a mark. -/
def Mark.call : Mark → Call
  | .bus call _ => call
  | .ret call _ => call

/-- The mark begins or ends a binding. -/
def Mark.rebinds : Mark → Bool
  | .ret call output => call.rebinds output
  | .bus _ _ => false

/-- The marks of a call without a nested one are all its own. -/
theorem call_of_mark {t : DriverTransition} {mark : Mark} (hplain : nestedMarks t = [])
    (hmark : mark ∈ marks t) :
    mark.call = t.call ∧ (mark.rebinds = true → t.call.rebinds t.output = true) := by
  rw [marks, hplain, List.nil_append] at hmark
  rcases List.mem_append.mp hmark with hmark | hmark
  · obtain ⟨event, -, rfl⟩ := List.mem_map.mp hmark
    exact ⟨rfl, Bool.noConfusion⟩
  · obtain rfl := List.mem_singleton.mp hmark
    exact ⟨rfl, id⟩

/-- The marks of a call: a nested cancellation, its exchanges and its return. -/
theorem mem_marks {t : DriverTransition} {mark : Mark} (hmark : mark ∈ marks t) :
    mark = .ret .cancelJob (.status .ok) ∨ (∃ event, mark = .bus t.call event) ∨
      mark = .ret t.call t.output := by
  rcases List.mem_append.mp hmark with hbefore | hlast
  · rcases List.mem_append.mp hbefore with hnested | hbus
    · unfold nestedMarks at hnested
      split at hnested
      · split at hnested
        · exact Or.inl (List.mem_singleton.mp hnested)
        · cases hnested
      · cases hnested
    · obtain ⟨event, -, rfl⟩ := List.mem_map.mp hbus
      exact Or.inr (Or.inl ⟨event, rfl⟩)
  · exact Or.inr (Or.inr (List.mem_singleton.mp hlast))

/-- Within a binding no mark begins or ends one. -/
theorem rebinds_of_kept {ts : List DriverTransition}
    (hkept : ∀ t ∈ ts, t.call.rebinds t.output = false) :
    ∀ mark ∈ timeline ts, mark.rebinds = false := by
  intro mark hmark
  obtain ⟨t, ht, hmark⟩ := List.mem_flatMap.mp hmark
  rcases List.mem_append.mp hmark with hbefore | hlast
  · rcases List.mem_append.mp hbefore with hnested | hbus
    · unfold nestedMarks at hnested
      split at hnested
      · split at hnested
        · obtain rfl := List.mem_singleton.mp hnested
          rfl
        · cases hnested
      · cases hnested
    · obtain ⟨event, -, rfl⟩ := List.mem_map.mp hbus
      rfl
  · obtain rfl := List.mem_singleton.mp hlast
    exact hkept t ht

/-- "The operation has been admitted." -/
def scheduled : Status := .error .inProgress "Operation scheduled"

namespace Driver

/-- What a start call asks for: the kind, the requested channels, the id, the deadline and the
number of transfers. The guards are those the call checks itself. -/
inductive Starts (d : Driver) : Call → JobKind → ChannelMask → U64 → U64 → U8 → Prop
  | initialise (operationId deadlineMs : U64) :
      Starts d (.startInitialize operationId deadlineMs) .initialise {} operationId deadlineMs
        (2 + configurationTransferCount d.configuredChannelCount)
  | applyConfig (operationId deadlineMs : U64) (h : d.appliedState ≠ .unknown) :
      Starts d (.startApplyConfig operationId deadlineMs) .applyConfig {} operationId deadlineMs
        (configurationTransferCount d.configuredChannelCount)
  | resetAndReapply (operationId deadlineMs : U64) :
      Starts d (.startResetAndReapply operationId deadlineMs) .resetAndReapply {} operationId
        deadlineMs (3 + configurationTransferCount d.configuredChannelCount)
  | acquire (channels : ChannelMask) (operationId deadlineMs : U64)
      (hactive : d.appliedState = .appliedActive) (hne : channels.bits ≠ 0)
      (hsub : channels.bits &&& ~~~d.config.channels.bits = 0) :
      Starts d (.startAcquire channels operationId deadlineMs) .acquire channels operationId
        deadlineMs (2 + 2 * popcount channels)

/-- The guards of `_startJob`. -/
structure Admissible (d : Driver) (operationId : U64) : Prop where
  bound : d.bound = true
  idle : d.progress.active = false
  named : operationId ≠ 0
  fresh : d.operationIdInUse operationId = false
  slot : d.resultCount.toNat < resultCapacity

/-- The guards of `updateDesiredConfig`. -/
structure Updatable (d : Driver) (config : Config) : Prop where
  bound : d.bound = true
  idle : d.progress.active = false
  asleep : d.appliedState ≠ .appliedActive
  valid : (validateConfig config).isOk = true
  i2cWrite : config.i2cWrite = d.config.i2cWrite
  i2cWriteRead : config.i2cWriteRead = d.config.i2cWriteRead
  i2cUser : config.i2cUser = d.config.i2cUser
  i2cAddress : config.i2cAddress = d.config.i2cAddress
  variant : config.variant = d.config.variant
  revision : d.configRevision ≠ BitVec.allOnes 32

/-- The state behind a delivered result. -/
def delivered (d : Driver) (h : d.resultHead.toNat < resultCapacity) : Driver :=
  { d with
    results := d.results.set d.resultHead.toNat {} h
    resultHead := BitVec.ofNat 8 ((d.resultHead.toNat + 1) % resultCapacity)
    resultCount := d.resultCount - 1 }

/-- The state an invalidation leaves when no job is active. -/
def invalidated (d : Driver) (reason : Status) : Driver :=
  { d with
    appliedState := .unknown
    configFault :=
      { valid := true
        cause := if reason.isOk then .error .configDirty "Applied configuration invalidated"
          else reason } }

/-- A call returns; the step it takes without the bus, if any, happens there. -/
inductive Quiet (d : Driver) : Call → Output → Driver → Prop
  /-- Nothing changes: the call was refused, had nothing to do, or has done its work on the bus. -/
  | kept {call output} (h : call.effective output = false) : Quiet d call output d
  | bound (config : Config) (hfree : d.bound = false)
      (hvalid : (validateConfig config).isOk = true) :
      Quiet d (.bind config) (.status .ok) (d.boundTo config)
  | ended : Quiet d .end_ .nothing d.end_
  | updated (config : Config) (h : d.Updatable config) :
      Quiet d (.updateDesiredConfig config) (.status .ok) (d.retain config)
  | started {call kind channels operationId deadlineMs maximumTransfers start}
      (hstarts : d.Starts call kind channels operationId deadlineMs maximumTransfers)
      (h : d.Admissible operationId) (hstart : startingPoint kind = some start) :
      Quiet d call (.status scheduled)
        (d.admitted kind channels operationId deadlineMs maximumTransfers start)
  | expired (nowMs : U64) (maxTransfers : U8) (hactive : d.progress.active = true)
      (hdue : dueOrPast nowMs d.progress.deadlineMs = true) :
      Quiet d (.poll nowMs maxTransfers) (.status deadlineExpired)
        ((d.recordInterruption deadlineExpired).finishJob .timedOut deadlineExpired nowMs).1
  | cancelled (hactive : d.progress.active = true) :
      Quiet d .cancelJob (.status .ok)
        ((d.recordInterruption operationCancelled).finishJob .cancelled operationCancelled 0).1
  | taken (hpos : d.resultCount ≠ 0) (hhead : d.resultHead.toNat < resultCapacity) :
      Quiet d .takeResult (.result .ok d.results[d.resultHead.toNat]) (d.delivered hhead)
  | invalidated (reason : Status) (hidle : d.progress.active = false) :
      Quiet d (.invalidateAppliedState reason) .nothing (d.invalidated reason)

/-! ### Exchanges outside a job -/

/-- The calls that read one register. -/
def readsRegister : Call → Bool
  | .readDeviceStatus | .readDataReady | .readInitDriveCurrent _ | .readRegister16 _ => true
  | _ => false

/-- A register the bound variant has. -/
def available (d : Driver) (reg : U8) : Prop :=
  ¬ (d.config.variant = .ldc1612 ∧ isLdc1614OnlyRegister reg = true)

/-- The request for a transfer outside a job. -/
def directRequest (d : Driver) (transfer : Transfer) : Request :=
  transfer.request d.config d.config.i2cTimeoutMs

/-- An exchange outside a job, with everything the call does behind it. -/
inductive Direct (d : Driver) : Call → Event → Driver → Prop
  | observed {call callback reply} (hcall : call = .readIntb ∨ call = .readDataReady)
      (hbound : d.bound = true) (hcallback : d.config.intbAsserted = some callback) :
      Direct d call (.intbAsserted callback d.config.intbUser, reply) d
  | read {call reg reply} (hcall : readsRegister call = true) (hbound : d.bound = true)
      (hidle : d.progress.active = false) (hvalid : isValidRegisterAddress reg = true)
      (havailable : d.available reg) :
      Direct d call (d.directRequest (.read reg), reply) (d.tracked reply.status)
  | slept {reply} (hbound : d.bound = true) (hidle : d.progress.active = false)
      (hstate : d.appliedState = .appliedActive) :
      Direct d .sleep
        (d.directRequest (.write regConfig (buildConfigRegister d.config true)), reply)
        ((d.tracked reply.status).configWritten .appliedSleeping reply.status).1
  | woken {reply} (hbound : d.bound = true) (hidle : d.progress.active = false)
      (hstate : d.appliedState = .appliedSleeping) :
      Direct d .wake
        (d.directRequest (.write regConfig (buildConfigRegister d.config false)), reply)
        ((d.tracked reply.status).configWritten .appliedActive reply.status).1
  | wrote (reg : U8) (value : U16) {reply} (hbound : d.bound = true)
      (hidle : d.progress.active = false) (hvalid : isConfigurationRegister reg = true)
      (havailable : d.available reg) :
      Direct d (.writeRegister16 reg value) (d.directRequest (.write reg value), reply)
        ((d.tracked reply.status).diagnosticWritten reg reply.status).1

end Driver

/-- One step of a run. -/
inductive Step : Driver → Mark → Driver → Prop
  /-- One transfer of the active job. -/
  | job {d : Driver} {stage : Stage} {nowMs : U64} {maxTransfers : U8} {timeoutMs : U32}
      {reply : Reply} (h : d.Running stage)
      (hdue : Driver.dueOrPast nowMs d.progress.deadlineMs = false) :
      Step d
        (.bus (.poll nowMs maxTransfers) ((stage.transfer d.config).request d.config timeoutMs, reply))
        (d.resume stage reply nowMs).driver
  | direct {d d' : Driver} {call : Call} {event : Event} (h : d.Direct call event d') :
      Step d (.bus call event) d'
  | quiet {d d' : Driver} {call : Call} {output : Output} (h : d.Quiet call output d') :
      Step d (.ret call output) d'

/-- Outside a job no exchange is a job's. -/
theorem Driver.Direct.jobTransfer_eq_none {d d' : Driver} {call : Call} {event : Event}
    (h : d.Direct call event d') : (Mark.bus call event).jobTransfer = none := by
  cases h with
  | observed hcall =>
      rcases hcall with rfl | rfl
      · rfl
      · rfl
  | read hcall =>
      cases call with
      | poll => cases hcall
      | _ => rfl
  | _ => rfl

/-- Exchanges happen during the calls that make them. -/
theorem Step.usesBus {d d' : Driver} {call : Call} {event : Event}
    (h : Step d (.bus call event) d') : call.usesBus = true := by
  cases h with
  | job => rfl
  | direct hdirect =>
      cases hdirect with
      | observed hcall => rcases hcall with rfl | rfl <;> rfl
      | read hcall => cases call <;> first | rfl | cases hcall
      | _ => rfl

/-! ### Every step keeps the invariant -/

namespace Driver

variable {d d' : Driver} {stage : Stage} {reply : Reply} {nowMs : U64}

/-- Finishing a running job leaves a well-formed idle driver. The job may have been settled first,
as long as its frame is kept and no replay is left under way. -/
theorem WellFormed.finished (hw : d.WellFormed) (h : d.Running stage) (e : Driver)
    (hframe : e.frame = d.frame) (hstate : e.appliedState ≠ .applying)
    (outcome : TerminalOutcome) (status : Status) (nowMs : U64) :
    (e.finishJob outcome status nowMs).1.WellFormed := by
  have hconfig : e.config = d.config := (congrArg config hframe :)
  have hbound : e.bound = d.bound := (congrArg Driver.bound hframe :)
  have hhead : e.resultHead = d.resultHead := (congrArg resultHead hframe :)
  have hcount : e.resultCount = d.resultCount := (congrArg resultCount hframe :)
  have hslot : e.resultCount.toNat < resultCapacity := hcount ▸ h.slot
  exact
    { head := by rw [finishJob_resultHead, hhead]; exact hw.head
      count := by rw [finishJob_resultCount outcome status hslot]; exact hslot
      valid := by rw [finishJob_bound, finishJob_config, hbound, hconfig]; exact hw.valid
      unbound := fun hfree => by
        rw [finishJob_bound, hbound, h.bound] at hfree
        cases hfree
      idle := fun _ => ⟨rfl, hstate⟩
      running := fun hactive => by cases hactive }

/-- A transfer of a running job keeps the invariant. -/
theorem WellFormed.resume (hw : d.WellFormed) (h : d.Running stage) (reply : Reply) (nowMs : U64) :
    (d.resume stage reply nowMs).driver.WellFormed := by
  have hvalid := hw.validProfile h.bound
  cases hv : d.verdict stage reply with
  | none =>
      rw [resume_driver_of_none hv]
      obtain ⟨next, hnext⟩ := h.settled hvalid hv
      exact
        { head := by rw [settled_resultHead]; exact hw.head
          count := by rw [settled_resultCount]; exact hw.count
          valid := by rw [settled_bound, settled_config]; exact hw.valid
          unbound := fun hfree => by
            rw [settled_bound, h.bound] at hfree
            cases hfree
          idle := fun hidle => by
            rw [settled_active, h.active] at hidle
            cases hidle
          running := fun _ => ⟨next, hnext⟩ }
  | some verdict =>
      rw [resume_driver_of_some hv]
      exact hw.finished h _ (settled_frame d stage reply)
        (h.settled_not_applying (by rw [hv]; exact Option.some_ne_none _)) _ _ _

/-- Recording an interruption keeps the frame. -/
theorem recordInterruption_frame (cause : Status) : (d.recordInterruption cause).frame = d.frame := by
  unfold recordInterruption
  split <;> rfl

/-- The active job is a replay that has confirmed a write. -/
def interrupted (d : Driver) : Bool :=
  d.progress.kind ≠ .acquire && hasEffect d.progress.effects .partialWrite

/-- An interrupted profile is dirty, unless its identity is unknown. -/
theorem recordInterruption_appliedState (cause : Status) :
    (d.recordInterruption cause).appliedState =
      if d.interrupted ∧ d.appliedState ≠ .unknown then .dirty else d.appliedState := by
  unfold recordInterruption
  cases hi : d.interrupted with
  | true =>
      rw [interrupted] at hi
      rw [if_pos hi]
      simp [recordConfigFault]
  | false =>
      rw [interrupted] at hi
      rw [if_neg (by rw [hi]; decide), if_neg (by simp)]

/-- The fault of an interruption names the last confirmed write. -/
theorem recordInterruption_configFault (cause : Status) :
    (d.recordInterruption cause).configFault =
      if d.interrupted then
        { valid := true, cause := cause, job := d.progress.kind, phase := d.lastWritePhase,
          registerAddress := d.lastWriteRegister, channel := d.lastWriteChannel,
          effects := d.progress.effects }
      else d.configFault := by
  unfold recordInterruption
  cases hi : d.interrupted with
  | true =>
      rw [interrupted] at hi
      rw [if_pos hi]
      rfl
  | false =>
      rw [interrupted] at hi
      rw [if_neg (by rw [hi]; decide)]
      rfl

/-- An interruption is no transfer. -/
theorem recordInterruption_progress (cause : Status) :
    (d.recordInterruption cause).progress = d.progress := by
  unfold recordInterruption
  split <;> rfl

/-- Interrupting a running job does not leave its replay under way. -/
theorem Running.recordInterruption_not_applying (h : d.Running stage) (cause : Status) :
    (d.recordInterruption cause).appliedState ≠ .applying := by
  rw [recordInterruption_appliedState]
  split
  · exact AppliedConfigState.noConfusion
  · next hkept =>
      refine fun happlying => hkept ⟨?_, by rw [happlying]; exact AppliedConfigState.noConfusion⟩
      have hkind : d.progress.kind ≠ .acquire := fun hkind => by
        have hacquire := isAcquire_of_script (List.mem_of_getElem? h.scripted)
        rw [decide_eq_true hkind] at hacquire
        have hactive := (Stage.trusts_of_isAcquire hacquire).mp h.trusted
        exact absurd (hactive.symm.trans happlying) AppliedConfigState.noConfusion
      simp [interrupted, hkind, h.confirmed happlying]

/-- A change of an idle bound driver that keeps the profile, the queue and the absence of job data. -/
theorem WellFormed.idle_change (hw : d.WellFormed) (hbound : d.bound = true)
    (hidle : d.progress.active = false) (hframe : d'.frame = d.frame)
    (hclear : d'.clearActiveJob = d') (hstate : d'.appliedState ≠ .applying) : d'.WellFormed := by
  have hconfig : d'.config = d.config := (congrArg config hframe :)
  have hbound' : d'.bound = d.bound := (congrArg Driver.bound hframe :)
  have hhead : d'.resultHead = d.resultHead := (congrArg resultHead hframe :)
  have hcount : d'.resultCount = d.resultCount := (congrArg resultCount hframe :)
  have hactive : d'.progress.active = d.progress.active :=
    (congrArg (JobProgress.active ∘ progress) hframe :)
  exact
    { head := by rw [hhead]; exact hw.head
      count := by rw [hcount]; exact hw.count
      valid := by rw [hbound', hconfig]; exact hw.valid
      unbound := fun hfree => by rw [hbound', hbound] at hfree; cases hfree
      idle := fun _ => ⟨hclear, hstate⟩
      running := fun hrunning => by rw [hactive, hidle] at hrunning; cases hrunning }

/-- A driver is constructed well formed. -/
theorem wellFormed_initial : Driver.initial.WellFormed where
  head := by decide
  count := by decide
  valid hbound := by cases hbound
  unbound _ := ⟨rfl, rfl, rfl⟩
  idle _ := ⟨rfl, AppliedConfigState.noConfusion⟩
  running hactive := by cases hactive

/-- The first stage of a job kind. -/
def firstStage : JobKind → Stage
  | .acquire => .statusBefore
  | kind => (preamble kind).headD (.profile 0)

/-- A script begins with the first stage of its kind. -/
theorem script_first (config : Config) (kind : JobKind) (mask : ChannelMask) :
    (Ldc1614.script config kind mask)[0]? = some (firstStage kind) := by
  have hreplay : (replay config)[0]? = some (.profile 0) :=
    replay_eq_some.mpr ⟨by have := profileLength_pos config; omega, rfl⟩
  cases kind with
  | none => exact hreplay
  | applyConfig => exact hreplay
  | _ => rfl

/-- The number of transfers a start call asks for is the length of the script. -/
theorem Starts.length {call : Call} {kind : JobKind} {channels : ChannelMask}
    {operationId deadlineMs : U64} {maximumTransfers : U8} (hvalid : d.config.Valid)
    (h : d.Starts call kind channels operationId deadlineMs maximumTransfers) :
    maximumTransfers.toNat = (Ldc1614.script d.config kind channels).length := by
  have hcount : ∀ channelCount : Fin 5,
      (2 + configurationTransferCount channelCount).toNat =
        2 + (configurationTransferCount channelCount).toNat ∧
      (3 + configurationTransferCount channelCount).toNat =
        3 + (configurationTransferCount channelCount).toNat := by decide
  cases h with
  | initialise =>
      rw [length_script _ _ (by decide)]
      exact (hcount _).1
  | applyConfig =>
      rw [length_script _ _ (by decide)]
      exact (Nat.zero_add _).symm
  | resetAndReapply =>
      rw [length_script _ _ (by decide)]
      exact (hcount _).2
  | acquire _ _ _ _ _ hsub =>
      rw [Ldc1614.script, if_pos rfl]
      exact length_acquisition
        (mask_lt_of_and_not (fun i hi => getLsbD_of_and_not hsub i hi) hvalid.implemented)

/-- An admitted job is at the first stage of its script. -/
theorem Starts.running {call : Call} {kind : JobKind} {channels : ChannelMask}
    {operationId deadlineMs : U64} {maximumTransfers : U8} {start : JobPhase × U8}
    (hw : d.WellFormed) (h : d.Starts call kind channels operationId deadlineMs maximumTransfers)
    (hadm : d.Admissible operationId) (hstart : startingPoint kind = some start) :
    (d.admitted kind channels operationId deadlineMs maximumTransfers start).Running
      (firstStage kind) where
  active := rfl
  bound := hadm.bound
  slot := hadm.slot
  named := hadm.named
  revision := rfl
  kind := by cases h <;> exact JobKind.noConfusion
  requested := by
    intro hkind
    cases h with
    | acquire _ _ _ _ hne hsub => exact ⟨hne, hsub⟩
    | _ => cases hkind
  maximum := by
    have hlength := h.length (hw.validProfile hadm.bound)
    exact hlength
  scripted := script_first d.config kind channels
  -- only APPLY_CONFIG opens with a write of the profile, that of the sleep word
  shown := by
    cases h with
    | applyConfig =>
        cases hstart
        change _ = ((Stage.writeAt d.config 0).phase, (Stage.writeAt d.config 0).reg,
          (Stage.writeAt d.config 0).channel)
        rw [writeAt_zero]
        rfl
    | _ => cases hstart; rfl
  here := by
    cases h with
    | acquire =>
        cases hstart
        rfl
    | initialise => exact script_first d.config .initialise {}
    | applyConfig => exact script_first d.config .applyConfig {}
    | resetAndReapply => exact script_first d.config .resetAndReapply {}
  step _ := rfl
  -- the guards of the source: an acquisition needs APPLIED_ACTIVE, APPLY_CONFIG a known state
  trusted := by
    have hidle := (hw.idle hadm.idle).2
    cases h with
    | acquire _ _ _ hactive => exact hactive
    | applyConfig _ _ hknown => exact Stage.trusts_profile_zero.mpr ⟨hknown, hidle⟩
    | _ => exact hidle
  confirmed happlying := absurd happlying (hw.idle hadm.idle).2

/-- Delivering a result does not touch the active job. -/
theorem Running.delivered (h : d.Running stage) (hpos : d.resultCount ≠ 0)
    (hhead : d.resultHead.toNat < resultCapacity) : (d.delivered hhead).Running stage where
  active := h.active
  bound := h.bound
  slot := by
    have hslot := h.slot
    have hcount : 0 < d.resultCount.toNat :=
      Nat.pos_of_ne_zero fun hzero => hpos (BitVec.eq_of_toNat_eq hzero)
    have hsub : (d.resultCount - 1).toNat = d.resultCount.toNat - 1 :=
      BitVec.toNat_sub_of_le (BitVec.le_def.mpr hcount)
    exact lt_of_eq_of_lt hsub (by omega)
  named := h.named
  revision := h.revision
  kind := h.kind
  requested := h.requested
  maximum := h.maximum
  scripted := h.scripted
  here := h.here
  shown := h.shown
  step := h.step
  trusted := h.trusted
  confirmed := h.confirmed

/-- With no result queued there is nothing to deliver. -/
theorem takeResult_of_zero (h : d.resultCount = 0) :
    d.takeResult = .done (d, .error .resultNotReady "No terminal result available", {}) := by
  unfold takeResult
  rw [if_pos h]
  rfl

/-- A delivery hands out the result in the head slot. -/
theorem takeResult_of_ne_zero (h : d.resultCount ≠ 0) (hhead : d.resultHead.toNat < resultCapacity) :
    d.takeResult = .done (d.delivered hhead, .ok, d.results[d.resultHead.toNat]) := by
  unfold takeResult
  rw [if_neg h, dif_pos hhead]
  rfl

/-- A delivery removes the oldest result from the queue. -/
theorem queue_delivered (hw : d.WellFormed) (hpos : d.resultCount ≠ 0)
    (hhead : d.resultHead.toNat < resultCapacity) :
    d.queue = d.results[d.resultHead.toNat] :: (d.delivered hhead).queue := by
  have hcount : 0 < d.resultCount.toNat :=
    Nat.pos_of_ne_zero fun hzero => hpos (BitVec.eq_of_toNat_eq hzero)
  have hsub : (d.resultCount - 1).toNat = d.resultCount.toNat - 1 :=
    BitVec.toNat_sub_of_le (BitVec.le_def.mpr hcount)
  have hnext : (BitVec.ofNat 8 ((d.resultHead.toNat + 1) % resultCapacity)).toNat =
      (d.resultHead.toNat + 1) % resultCapacity := by
    have hlt := Nat.mod_lt (d.resultHead.toNat + 1) (by decide : 0 < resultCapacity)
    rw [BitVec.toNat_ofNat]
    exact Nat.mod_eq_of_lt (lt_trans hlt (by decide))
  show _ = _ :: Ring.toList (d.results.set d.resultHead.toNat {} hhead)
    (BitVec.ofNat 8 ((d.resultHead.toNat + 1) % resultCapacity)).toNat (d.resultCount - 1).toNat
  rw [hsub, hnext]
  exact Ring.toList_pop d.results hhead hcount hw.count {}

/-- Returning from a call keeps the invariant. -/
theorem WellFormed.quiet {call : Call} {output : Output} (hw : d.WellFormed)
    (h : d.Quiet call output d') : d'.WellFormed := by
  cases h with
  | kept => exact hw
  | bound config hfree hvalid =>
      exact
        { head := Nat.two_pos
          count := Nat.zero_le _
          valid := fun _ => hvalid
          unbound := fun hfree => by cases hfree
          idle := fun _ => ⟨rfl, AppliedConfigState.noConfusion⟩
          running := fun hactive => by cases hactive }
  | ended =>
      exact
        { head := Nat.two_pos
          count := Nat.zero_le _
          valid := fun hbound => by cases hbound
          unbound := fun _ => ⟨rfl, rfl, rfl⟩
          idle := fun _ => ⟨rfl, AppliedConfigState.noConfusion⟩
          running := fun hactive => by cases hactive }
  | updated config hu =>
      have hidle := hw.idle hu.idle
      exact
        { head := hw.head
          count := hw.count
          valid := fun _ => hu.valid
          unbound := fun hfree => absurd (hfree.symm.trans hu.bound) Bool.noConfusion
          idle := fun _ => by
            refine ⟨(congrArg (retain · config) hidle.1 :), ?_⟩
            simp only [retain]
            -- what was trusted is dirty now, what was unknown stays unknown
            split
            · exact AppliedConfigState.noConfusion
            · exact hidle.2
          running := fun hactive => absurd (hactive.symm.trans hu.idle) Bool.noConfusion }
  | started hstarts hadm hstart =>
      exact
        { head := hw.head
          count := hw.count
          valid := hw.valid
          unbound := fun hfree => absurd (hfree.symm.trans hadm.bound) Bool.noConfusion
          idle := fun hidle => by cases hidle
          running := fun _ => ⟨_, hstarts.running hw hadm hstart⟩ }
  -- an interruption records its cause before the job is finished
  | expired nowMs maxTransfers hactive hdue =>
      obtain ⟨stage, hrun⟩ := hw.running hactive
      exact hw.finished hrun _ (recordInterruption_frame _)
        (hrun.recordInterruption_not_applying _) _ _ _
  | cancelled hactive =>
      obtain ⟨stage, hrun⟩ := hw.running hactive
      exact hw.finished hrun _ (recordInterruption_frame _)
        (hrun.recordInterruption_not_applying _) _ _ _
  -- the ring moves on; a job under way does not look at it
  | taken hpos hhead =>
      have hcount : (d.resultCount - 1).toNat ≤ resultCapacity := by
        have hle := hw.count
        have hcount : 0 < d.resultCount.toNat :=
          Nat.pos_of_ne_zero fun hzero => hpos (BitVec.eq_of_toNat_eq hzero)
        have hsub : (d.resultCount - 1).toNat = d.resultCount.toNat - 1 :=
          BitVec.toNat_sub_of_le (BitVec.le_def.mpr hcount)
        omega
      exact
        { head := by
            have hlt := Nat.mod_lt (d.resultHead.toNat + 1) (by decide : 0 < resultCapacity)
            exact lt_of_le_of_lt (Nat.mod_le _ _) hlt
          count := hcount
          valid := hw.valid
          unbound := fun hfree => absurd (hw.unbound hfree).2.2 hpos
          idle := fun hidle =>
            ⟨(congrArg (fun e : Driver => { e with
                results := (d.delivered hhead).results
                resultHead := (d.delivered hhead).resultHead
                resultCount := (d.delivered hhead).resultCount }) (hw.idle hidle).1 :),
              (hw.idle hidle).2⟩
          running := fun hactive =>
            let ⟨stage, hrun⟩ := hw.running hactive
            ⟨stage, hrun.delivered hpos hhead⟩ }
  | invalidated reason hidle =>
      exact
        { head := hw.head
          count := hw.count
          valid := hw.valid
          unbound := fun hfree => ⟨hidle, rfl, (hw.unbound hfree).2.2⟩
          idle := fun _ =>
            ⟨(congrArg (Driver.invalidated · reason) (hw.idle hidle).1 :),
              AppliedConfigState.noConfusion⟩
          running := fun hactive => absurd (hactive.symm.trans hidle) Bool.noConfusion }

/-- Behind the CONFIG write of `sleep` and `wake`, by its outcome. -/
theorem configWritten_eq (trust : AppliedConfigState) (status : Status) :
    (d.configWritten trust status).1 = { d with
      appliedState :=
        if status.isOk then trust
        else if transferFailureMayHaveReachedDevice status then .dirty else d.appliedState
      configFault :=
        if status.isOk then d.configFault
        else if transferFailureMayHaveReachedDevice status then
          { valid := true, cause := status, job := d.progress.kind, phase := .writeFinalConfig,
            registerAddress := regConfig, effects := effectFlag .indeterminateWrite }
        else d.configFault } := by
  unfold configWritten
  cases hok : status.isOk with
  | true => rfl
  | false =>
      cases hreached : transferFailureMayHaveReachedDevice status with
      | true => rfl
      | false => rfl

/-- Behind a diagnostic write, by its outcome. -/
theorem diagnosticWritten_eq (reg : U8) (status : Status) :
    (d.diagnosticWritten reg status).1 =
      if status.isOk || transferFailureMayHaveReachedDevice status then
        ({ d with
          appliedState :=
            if reg = regResetDev ∨ d.appliedState = AppliedConfigState.unknown then .unknown
            else .dirty }).recordConfigFault
          (if status.isOk then
            .error .configDirty "Diagnostic write invalidated applied state" else status)
          (configurationPhaseForRegister reg) reg (configurationChannelForRegister reg)
          (if status.isOk then effectFlag .partialWrite else effectFlag .indeterminateWrite)
      else d := by
  unfold diagnosticWritten
  cases hok : status.isOk with
  | true => rfl
  | false =>
      cases hreached : transferFailureMayHaveReachedDevice status with
      | true => rfl
      | false => rfl

/-- An exchange outside a job keeps the frame. -/
theorem Direct.frame_eq {call : Call} {event : Event} (h : d.Direct call event d') :
    d'.frame = d.frame := by
  cases h with
  | observed => rfl
  | read => rfl
  | slept => rw [configWritten_eq]; rfl
  | woken => rw [configWritten_eq]; rfl
  | wrote =>
      rw [diagnosticWritten_eq]
      split <;> rfl

/-- The absence of job data does not depend on the fields outside the job. -/
theorem clearActiveJob_change (h : d.clearActiveJob = d) (stats : TransportStats)
    (state : AppliedConfigState) (fault : ConfigFault) :
    ({ d with transportStats := stats, appliedState := state, configFault := fault }).clearActiveJob =
      { d with transportStats := stats, appliedState := state, configFault := fault } :=
  (congrArg (fun e : Driver =>
    { e with transportStats := stats, appliedState := state, configFault := fault }) h :)

/-- An exchange outside a job keeps the invariant. -/
theorem WellFormed.direct {call : Call} {event : Event} (hw : d.WellFormed)
    (h : d.Direct call event d') : d'.WellFormed := by
  have hswitch (trust : AppliedConfigState) (status : Status) (htrust : trust ≠ .applying)
      (hstate : d.appliedState ≠ .applying) :
      ((d.tracked status).configWritten trust status).1.appliedState ≠ .applying := by
    rw [configWritten_eq]
    dsimp only
    split
    · exact htrust
    · split
      · exact AppliedConfigState.noConfusion
      · exact hstate
  cases h with
  | observed => exact hw
  | read hcall hbound hidle hvalid havailable =>
      have hclear := hw.idle hidle
      exact hw.idle_change hbound hidle rfl (clearActiveJob_change hclear.1 _ _ _) hclear.2
  | slept hbound hidle hstate =>
      have hclear := hw.idle hidle
      refine hw.idle_change hbound hidle ?_ ?_ (hswitch _ _ AppliedConfigState.noConfusion hclear.2)
      · rw [configWritten_eq]
        rfl
      · rw [configWritten_eq]
        exact clearActiveJob_change hclear.1 _ _ _
  | woken hbound hidle hstate =>
      have hclear := hw.idle hidle
      refine hw.idle_change hbound hidle ?_ ?_ (hswitch _ _ AppliedConfigState.noConfusion hclear.2)
      · rw [configWritten_eq]
        rfl
      · rw [configWritten_eq]
        exact clearActiveJob_change hclear.1 _ _ _
  | wrote reg value hbound hidle hvalid havailable =>
      have hclear := hw.idle hidle
      rw [diagnosticWritten_eq]
      split
      · refine hw.idle_change hbound hidle rfl (clearActiveJob_change hclear.1 _ _ _) ?_
        simp only [recordConfigFault]
        split <;> exact AppliedConfigState.noConfusion
      · exact hw.idle_change hbound hidle rfl (clearActiveJob_change hclear.1 _ _ _) hclear.2

end Driver

/-- **Every step keeps the invariant.** -/
theorem Step.wellFormed {d d' : Driver} {mark : Mark} (hw : d.WellFormed) (h : Step d mark d') :
    d'.WellFormed := by
  cases h with
  | job hrun hdue => exact hw.resume hrun _ _
  | direct hdirect => exact hw.direct hdirect
  | quiet hquiet => exact hw.quiet hquiet

end Ldc1614
