import Ldc1614.Device.Refinement
import Ldc1614.Guarantees.Lifetime
import Ldc1614.Guarantees.RegisterSafety

/-! # Runs on a healthy device

A device that answers at the configured address and fails no transfer. The driver never overwrites
its identity, so every transfer succeeds and every identity check passes, however the device
converts in between: no job fails, and none but an interrupted one falls short of success. -/

namespace Ldc1614

open Cmd Interaction Driver

/-! ### Why a job ends -/

/-- An exchange that makes a job fail: the transfer failed, or an identity register holds another
word. -/
def Event.Fails (event : Event) : Prop :=
  event.2.status.isOk = false ∨
    ∃ index : Fin 2, event.1.transfer = some (.read (identitySteps.get index).reg) ∧
      event.2.word ≠ (identitySteps.get index).expected

/-- Why a job has ended with this result, at this mark. -/
inductive Cause (mark : Mark) (result : OperationResult) : Prop
  | success (h : result.outcome = .success)
  | failed (h : result.outcome = .failed) (event : Event) (hevent : event ∈ mark.events)
      (hfails : event.Fails)
  | timedOut (h : result.outcome = .timedOut) (nowMs : U64) (maxTransfers : U8) (output : Output)
      (hmark : mark = .ret (.poll nowMs maxTransfers) output)
      (hdue : dueOrPast nowMs result.finalProgress.deadlineMs = true)
  | cancelled (h : result.outcome = .cancelled) (output : Output)
      (hmark : mark = .ret .cancelJob output)

section Cause

variable {d d' : Driver} {stage : Stage} {reply : Reply} {mark : Mark} {outcome : TerminalOutcome}
  {status : Status}

/-- A transfer that ends a job completes it, or makes it fail. -/
theorem fails_of_ending {timeoutMs : U32} (h : Ending d stage reply outcome status) :
    outcome = .success ∨ outcome = .failed ∧
      Event.Fails ((stage.transfer d.config).request d.config timeoutMs, reply) := by
  cases h with
  | failed hfailed => exact Or.inr ⟨rfl, Or.inl hfailed⟩
  | @mismatched index _ hok hword =>
      refine Or.inr ⟨rfl, Or.inr ⟨index, ?_, hword⟩⟩
      rw [transfer_request]
      rfl
  | replayed => exact Or.inl rfl
  | acquired => exact Or.inl rfl

/-- The result of a job that ended between its transfers. -/
theorem interrupted_queue {outcome : TerminalOutcome} {cause : Status} {nowMs : U64}
    (hw : d.WellFormed) (hactive : d.progress.active = true) :
    ∃ result : OperationResult, result.outcome = outcome ∧
      result.finalProgress.deadlineMs = d.progress.deadlineMs ∧
      ((d.recordInterruption cause).finishJob outcome cause nowMs).1.queue =
        d.queue ++ [result] := by
  obtain ⟨stage, hrun⟩ := hw.running hactive
  have hframe := recordInterruption_frame (d := d) cause
  have hcount : (d.recordInterruption cause).resultCount = d.resultCount :=
    (congrArg resultCount hframe :)
  have hqueue : (d.recordInterruption cause).queue = d.queue :=
    (congrArg Driver.queue hframe :)
  refine ⟨(d.recordInterruption cause).terminalResult outcome cause nowMs, rfl, ?_, ?_⟩
  · show (d.recordInterruption cause).progress.deadlineMs = _
    rw [recordInterruption_progress]
  · rw [finishJob_queue outcome cause (hcount ▸ hrun.slot), hqueue]

/-- **Every result that joins the queue has its cause.** -/
theorem Step.queue_cause (hw : d.WellFormed) (h : Step d mark d') : ∀ result ∈ d'.queue,
    result ∈ d.queue ∨ Cause mark result := by
  intro result hresult
  -- a result joins the queue where a job is finished: at its own transfer, or interrupted
  cases h with
  | @job stage nowMs maxTransfers timeoutMs reply hrun hdue =>
      have hqueue : (d.settled stage reply).queue = d.queue :=
        (congrArg Driver.queue (settled_frame d stage reply) :)
      cases hv : d.verdict stage reply with
      | none =>
          rw [resume_driver_of_none hv, hqueue] at hresult
          exact Or.inl hresult
      | some verdict =>
          obtain ⟨outcome, status⟩ := verdict
          have hslot : (d.settled stage reply).resultCount.toNat < resultCapacity := by
            rw [settled_resultCount]
            exact hrun.slot
          rw [resume_driver_of_some hv, finishJob_queue outcome status hslot, hqueue] at hresult
          rcases List.mem_append.mp hresult with hold | hnew
          · exact Or.inl hold
          · obtain rfl := List.mem_singleton.mp hnew
            rcases fails_of_ending (ending_of_verdict hv) with hsuccess | ⟨hfailed, hfails⟩
            · exact Or.inr (.success hsuccess)
            · exact Or.inr (.failed hfailed _ (List.mem_singleton_self _) hfails)
  | direct hdirect =>
      have hqueue : d'.queue = d.queue := (congrArg Driver.queue hdirect.frame_eq :)
      rw [hqueue] at hresult
      exact Or.inl hresult
  | quiet hquiet =>
      cases hquiet with
      -- a new binding and the end of one empty the queue
      | bound => cases hresult
      | ended => cases hresult
      | expired nowMs maxTransfers hactive hdue =>
          obtain ⟨ended, houtcome, hdeadline, hqueue⟩ := interrupted_queue hw hactive
          rw [hqueue] at hresult
          refine (List.mem_append.mp hresult).imp_right fun hnew => ?_
          obtain rfl := List.mem_singleton.mp hnew
          exact .timedOut houtcome nowMs maxTransfers _ rfl (hdeadline ▸ hdue)
      | cancelled hactive =>
          obtain ⟨ended, houtcome, -, hqueue⟩ := interrupted_queue hw hactive
          rw [hqueue] at hresult
          refine (List.mem_append.mp hresult).imp_right fun hnew => ?_
          obtain rfl := List.mem_singleton.mp hnew
          exact .cancelled houtcome _ rfl
      -- a result that is taken leaves the queue, none joins it
      | taken hpos hhead =>
          refine Or.inl ?_
          rw [queue_delivered hw hpos hhead]
          exact List.mem_cons_of_mem _ hresult
      | _ => exact Or.inl hresult

/-- Along a path, every new result has the cause of one of its marks. -/
theorem queue_cause_of_path {labels : List Mark} (hw : d.WellFormed) (h : Path Step d labels d') :
    ∀ result ∈ d'.queue, result ∈ d.queue ∨ ∃ mark ∈ labels, Cause mark result := by
  have key : (∀ result ∈ d'.queue, result ∈ d.queue ∨ ∃ mark ∈ labels, Cause mark result) ∧
      d'.WellFormed := by
    refine h.history (fun past m => (∀ result ∈ m.queue, result ∈ d.queue ∨
      ∃ mark ∈ past, Cause mark result) ∧ m.WellFormed) [] ⟨fun _ => Or.inl, hw⟩ ?_
    intro past m mark m' hm hstep
    refine ⟨fun result hresult => ?_, hstep.wellFormed hm.2⟩
    rcases hstep.queue_cause hm.2 result hresult with hold | hcause
    · refine (hm.1 result hold).imp_right fun ⟨mark', hmark', hcause⟩ => ?_
      exact ⟨mark', List.mem_append_left _ hmark', hcause⟩
    · exact Or.inr ⟨mark, List.mem_append_right _ (List.mem_singleton_self _), hcause⟩
  exact key.1

/-- The result a call finishes is new. -/
theorem finished_is_new {t : DriverTransition} {result : OperationResult} (hvisited : Visited t.before)
    (hv : t.Valid Call.exec) (hfinished : (account t).finished = some result) :
    result ∈ t.after.queue ∧ result ∉ t.before.queue := by
  have hw := hvisited.wellFormed
  have hmem : result ∈ t.after.queue := by
    rw [account] at hfinished
    dsimp only at hfinished
    split at hfinished
    · exact List.mem_of_getLast? hfinished
    · cases hfinished
  have hkept : t.call.rebinds t.output = false := by
    by_contra hrebinds
    rw [Bool.not_eq_false] at hrebinds
    have hqueue : t.after.queue = [] := congrArg Mailbox.queue (mailbox_of_rebinds hw hv hrebinds)
    rw [hqueue] at hmem
    cases hmem
  refine ⟨hmem, fun hold => ?_⟩
  -- the id of the job is not among those of the queue
  have hjob := (transition_move hw hv hkept).ticket_eq hfinished
  have hids := hvisited.idsDistinct.1
  rw [Mailbox.outstanding, hjob, Option.toList_some, List.singleton_append, List.map_cons,
    List.nodup_cons] at hids
  exact hids.1 (List.mem_map.mpr ⟨_, List.mem_map_of_mem hold, rfl⟩)

end Cause

/-! ### The device -/

/-- The device answers at this address and identifies itself. -/
structure Identified (address : U8) (dev : FakeLdc1614Device) : Prop where
  accepts : dev.acceptedAddress = address
  manufacturer : dev.reg regManufacturerId = manufacturerIdValue
  device : dev.reg regDeviceId = deviceIdValue

section Device

variable {address reg : U8} {value : U16} {dev dev' : FakeLdc1614Device}

/-- A device is constructed with its identity. -/
theorem identified_constructed (address : U8) : Identified address (.constructed address) :=
  ⟨rfl, rfl, rfl⟩

/-- A device with the same registers. -/
theorem Identified.same (h : Identified address dev)
    (haddress : dev'.acceptedAddress = dev.acceptedAddress) (hreg : dev'.reg = dev.reg) :
    Identified address dev' :=
  ⟨haddress.trans h.accepts, by rw [hreg]; exact h.manufacturer, by rw [hreg]; exact h.device⟩

/-- A write to a writable register leaves the identity alone; a reset restores it. -/
theorem Identified.applyWrite (h : Identified address dev)
    (hwritable : reg ∈ writableRegisters) (value : U16) :
    Identified address (dev.applyWrite reg value) := by
  obtain ⟨-, -, hmanufacturer, hdevice⟩ := writable_excludes reg hwritable
  have hstored : Identified address { dev with reg := Function.update dev.reg reg value } := by
    refine ⟨h.accepts, ?_, ?_⟩
    · show Function.update dev.reg reg value regManufacturerId = _
      rw [Function.update_of_ne hmanufacturer.symm]
      exact h.manufacturer
    · show Function.update dev.reg reg value regDeviceId = _
      rw [Function.update_of_ne hdevice.symm]
      exact h.device
  unfold FakeLdc1614Device.applyWrite
  split
  · exact ⟨h.accepts, rfl, rfl⟩
  · split
    · split
      · exact hstored.same rfl rfl
      · exact hstored
    · split
      · exact h.same rfl rfl
      · exact h

/-- A read leaves the registers alone, completed or not. -/
theorem Identified.latched (h : Identified address dev) (reg : U8) :
    Identified address (dev.readValue reg).1 :=
  h.same (dev.readValue_latches reg).acceptedAddress (dev.readValue_reg reg)

/-- What a completed read consumes is no register. -/
theorem Identified.consumed (h : Identified address dev) (reg : U8) :
    Identified address (dev.applyReadSideEffects reg) :=
  h.same (dev.applyReadSideEffects_frame reg).1 (dev.applyReadSideEffects_frame reg).2

/-- A conversion leaves the registers alone. -/
theorem Identified.inject (h : Identified address dev) (conversion : Conversion) :
    Identified address (dev.injectConversion conversion) := by
  obtain ⟨haddress, hreg, -, -⟩ := dev.injectConversion_frame conversion
  exact h.same haddress hreg

/-- The identity registers hold their words. -/
theorem Identified.word (h : Identified address dev) (index : Fin 2) :
    dev.reg (identitySteps.get index).reg = (identitySteps.get index).expected := by
  have hindex : index = 0 ∨ index = 1 := by omega
  rcases hindex with rfl | rfl
  · exact h.manufacturer
  · exact h.device

/-- Reading an identity register returns its word. -/
theorem readValue_identity (dev : FakeLdc1614Device) (index : Fin 2) :
    (dev.readValue (identitySteps.get index).reg).2 = dev.reg (identitySteps.get index).reg := by
  have hplain : ∀ index : Fin 2, (identitySteps.get index).reg ≠ regStatus ∧
      FakeLdc1614Device.dataMsbChannel (identitySteps.get index).reg = none ∧
      FakeLdc1614Device.dataLsbChannel (identitySteps.get index).reg = none ∧
      (identitySteps.get index).reg < 128 := by decide
  obtain ⟨hstatus, hmsb, hlsb, hmapped⟩ := hplain index
  simp only [FakeLdc1614Device.readValue, hstatus, hmsb, hlsb, hmapped, if_false, if_true]

/-- No permitted request overwrites the identity, whatever address it is for. -/
theorem Identified.kept {config : Config} {request : Request} {reply : Reply}
    {forced : Option ForcedFailure} (h : Identified address dev)
    (hpermitted : request.Permitted config)
    (hserve : dev.serve request forced = (dev', reply)) : Identified address dev' := by
  cases request with
  | i2cWrite callback target data timeoutMs user =>
      obtain ⟨-, -, -, reg, high, low, rfl, -, hwritable⟩ := hpermitted
      cases forced with
      | none =>
          rw [FakeLdc1614Device.serve, FakeLdc1614Device.write] at hserve
          split at hserve
          · obtain ⟨rfl, -⟩ := Prod.mk.inj hserve
            exact h
          · obtain ⟨rfl, -⟩ := Prod.mk.inj hserve
            exact h.applyWrite hwritable _
      | some failure =>
          rw [FakeLdc1614Device.serve, FakeLdc1614Device.write] at hserve
          split at hserve
          · obtain ⟨rfl, -⟩ := Prod.mk.inj hserve
            exact h
          · obtain ⟨rfl, -⟩ := Prod.mk.inj hserve
            split
            · exact h.applyWrite hwritable _
            · exact h
  | i2cWriteRead callback target data rxLength timeoutMs user =>
      obtain ⟨-, -, -, rfl, reg, rfl, -⟩ := hpermitted
      rw [FakeLdc1614Device.serve, FakeLdc1614Device.writeRead, if_neg (not_not.mpr rfl)] at hserve
      split at hserve
      · obtain ⟨rfl, -⟩ := Prod.mk.inj hserve
        exact h
      · cases forced with
        | none =>
            obtain ⟨rfl, -⟩ := Prod.mk.inj hserve
            exact (h.latched reg).consumed reg
        | some failure =>
            obtain ⟨rfl, -⟩ := Prod.mk.inj hserve
            exact h.latched reg
  | intbAsserted callback user =>
      obtain ⟨rfl, -⟩ := Prod.mk.inj hserve
      exact h

/-- **Every permitted request for the device is served**: unless a failure is forced the transfer
succeeds and an identity register returns its word. -/
theorem Identified.serve {config : Config} {request : Request} {reply : Reply}
    (h : Identified address dev) (haddress : config.i2cAddress.raw = address)
    (hpermitted : request.Permitted config)
    (hserve : dev.serve request none = (dev', reply)) : ¬ Event.Fails (request, reply) := by
  cases request with
  | i2cWrite callback target data timeoutMs user =>
      obtain ⟨-, htarget, -, reg, high, low, rfl, -⟩ := hpermitted
      have haccepts : target = dev.acceptedAddress := (htarget.trans haddress).trans h.accepts.symm
      rw [FakeLdc1614Device.serve, FakeLdc1614Device.write, if_neg (not_not.mpr haccepts)] at hserve
      obtain ⟨-, rfl⟩ := Prod.mk.inj hserve
      rintro (hfailed | ⟨index, hread, -⟩)
      · cases hfailed
      · cases hread
  | i2cWriteRead callback target data rxLength timeoutMs user =>
      obtain ⟨-, htarget, -, rfl, reg, rfl, -⟩ := hpermitted
      have haccepts : target = dev.acceptedAddress := (htarget.trans haddress).trans h.accepts.symm
      rw [FakeLdc1614Device.serve, FakeLdc1614Device.writeRead, if_neg (not_not.mpr rfl),
        if_neg (not_not.mpr haccepts)] at hserve
      obtain ⟨-, hreply⟩ := Prod.mk.inj hserve
      have hvalue : reply.word = (dev.readValue reg).2 := by
        rw [← hreply]
        exact word_bytes _
      rintro (hfailed | ⟨index, hread, hword⟩)
      · rw [← hreply] at hfailed
        cases hfailed
      · -- the word read is the one the device holds
        have hreg : reg = (identitySteps.get index).reg :=
          Transfer.read.inj (Option.some.inj hread)
        rw [hreg, readValue_identity, h.word] at hvalue
        exact hword hvalue
  | intbAsserted callback user =>
      obtain ⟨-, rfl⟩ := Prod.mk.inj hserve
      rintro (hfailed | ⟨index, hread, -⟩)
      · cases hfailed
      · cases hread

end Device

/-! ### The driver next to the device -/

/-- The driver, as far as it is bound, addresses a device that identifies itself. -/
structure Attached (address : U8) (d : Driver) (dev : FakeLdc1614Device) : Prop where
  wellFormed : d.WellFormed
  addressed : d.bound = true → d.config.i2cAddress.raw = address
  identified : Identified address dev

/-- A bind that succeeds is to this address. -/
def Call.bindsTo (address : U8) : Call → Output → Bool
  | .bind config, output => !output.toStatus.isOk || config.i2cAddress.raw == address
  | _, _ => true

/-- Only the return of a call binds. -/
def Mark.bindsTo (address : U8) : Mark → Bool
  | .ret call output => call.bindsTo address output
  | .bus _ _ => true

/-- The marks of a call bind to no other address than the call. -/
theorem bindsTo_of_mark {address : U8} {t : DriverTransition} {mark : Mark}
    (h : t.call.bindsTo address t.output = true) (hmark : mark ∈ marks t) :
    mark.bindsTo address = true := by
  rcases mem_marks hmark with rfl | ⟨event, rfl⟩ | rfl
  · rfl
  · rfl
  · exact h

/-- A run from `d` on next to a life of the device from `dev` on. -/
structure Alongside (d : Driver) (dev : FakeLdc1614Device) (ts : List DriverTransition)
    (ticks : List Tick) (d' : Driver) (dev' : FakeLdc1614Device) : Prop where
  run : DriverRun d ts d'
  life : DeviceLife dev ticks dev'
  marks : ticks.filterMap Tick.mark = timeline ts

/-- The run binds to this address only. -/
structure Joint (address : U8) (d : Driver) (dev : FakeLdc1614Device) (ts : List DriverTransition)
    (ticks : List Tick) (d' : Driver) (dev' : FakeLdc1614Device) : Prop
    extends Alongside d dev ts ticks d' dev' where
  bound : ∀ t ∈ ts, t.call.bindsTo address t.output = true

section Joint

variable {address : U8} {s d d' u : Driver} {dev dev' dev₀ : FakeLdc1614Device} {mark : Mark}
  {tick : Tick} {ticks : List Tick} {ts : List DriverTransition}

/-- The address of a binding does not change. -/
theorem Step.addressed (h : Step d mark d') (hbinds : mark.bindsTo address = true)
    (haddressed : d.bound = true → d.config.i2cAddress.raw = address) :
    d'.bound = true → d'.config.i2cAddress.raw = address := by
  have hkept {e : Driver} (hframe : e.frame = d.frame) :
      e.bound = true → e.config.i2cAddress.raw = address := by
    have hbound : e.bound = d.bound := (congrArg Driver.bound hframe :)
    have hconfig : e.config = d.config := (congrArg Driver.config hframe :)
    rwa [hbound, hconfig]
  -- the address is part of the frame, which only a binding or an update of the profile changes
  cases h with
  | @job stage nowMs _ _ reply hrun hdue =>
      have hsettled := hkept (settled_frame d stage reply)
      cases hv : d.verdict stage reply with
      | none =>
          rw [resume_driver_of_none hv]
          exact hsettled
      | some verdict =>
          obtain ⟨outcome, status⟩ := verdict
          rw [resume_driver_of_some hv]
          exact hsettled
  | direct hdirect => exact hkept hdirect.frame_eq
  | quiet hquiet =>
      cases hquiet with
      | bound config hfree hvalid => exact fun _ => eq_of_beq hbinds
      | ended => exact fun hbound => Bool.noConfusion hbound
      -- an update that is accepted keeps the address
      | updated config h =>
          intro hbound
          show config.i2cAddress.raw = address
          rw [h.i2cAddress]
          exact haddressed hbound
      | expired =>
          have hinterrupted := hkept (recordInterruption_frame (d := d) deadlineExpired)
          exact hinterrupted
      | cancelled =>
          have hinterrupted := hkept (recordInterruption_frame (d := d) operationCancelled)
          exact hinterrupted
      | _ => exact haddressed

/-- **One tick of the device** under a driver attached to it: they stay attached, and no exchange
fails unless it is forced to. -/
theorem Attached.step (ha : Attached address d dev) (hstep : Stutters Step Tick.mark d tick d')
    (hdev : DeviceTick dev tick dev') (hbinds : ∀ mark ∈ tick.mark, mark.bindsTo address = true) :
    Attached address d' dev' ∧
      (tick.forced = none → ∀ mark ∈ tick.mark, ∀ event ∈ mark.events, ¬ event.Fails) := by
  rcases hstep with ⟨mark, hmark, hstep⟩ | ⟨hmark, rfl⟩
  · have hw := hstep.wellFormed ha.wellFormed
    have haddressed := hstep.addressed (hbinds mark hmark) ha.addressed
    cases hdev with
    | @exchange call request reply forced _ hserve =>
        obtain rfl := Option.some.inj hmark
        obtain ⟨hbound, hpermitted⟩ := hstep.permitted ha.wellFormed
        have hidentified := ha.identified.kept hpermitted hserve
        refine ⟨⟨hw, haddressed, hidentified⟩, fun hforced mark hmark event hevent => ?_⟩
        obtain rfl : forced = none := hforced
        obtain rfl := Option.some.inj hmark
        obtain rfl := List.mem_singleton.mp hevent
        exact ha.identified.serve (ha.addressed hbound) hpermitted hserve
    | ret =>
        refine ⟨⟨hw, haddressed, ha.identified⟩, fun _ mark hmark event hevent => ?_⟩
        obtain rfl := Option.some.inj hmark
        cases hevent
    | conversion => cases hmark
  · cases hdev with
    | exchange => cases hmark
    | ret => cases hmark
    | conversion conversion =>
        refine ⟨⟨ha.wellFormed, ha.addressed, ha.identified.inject conversion⟩, ?_⟩
        intro _ mark hmark
        cases hmark

/-- A device keeps its identity, whatever address the driver is bound to. -/
theorem Identified.step (hdevice : Identified address dev) (hw : d.WellFormed)
    (hstep : Stutters Step Tick.mark d tick d') (hdev : DeviceTick dev tick dev') :
    d'.WellFormed ∧ Identified address dev' := by
  rcases hstep with ⟨mark, hmark, hstep⟩ | ⟨hmark, rfl⟩
  · have hw' := hstep.wellFormed hw
    cases hdev with
    | exchange hserve =>
        obtain rfl := Option.some.inj hmark
        exact ⟨hw', hdevice.kept (hstep.permitted hw).2 hserve⟩
    | ret => exact ⟨hw', hdevice⟩
    | conversion => cases hmark
  · cases hdev with
    | exchange => cases hmark
    | ret => cases hmark
    | conversion conversion => exact ⟨hw, hdevice.inject conversion⟩

/-- **Driver and device stay attached**, and no exchange fails unless it is forced to. -/
theorem Joint.attached (h : Joint address s dev₀ ts ticks u dev) (ha : Attached address s dev₀) :
    Attached address u dev ∧ ∀ tick ∈ ticks, tick.forced = none →
      ∀ mark ∈ tick.mark, ∀ event ∈ mark.events, ¬ event.Fails := by
  have hpath := run_path ha.wellFormed h.run
  rw [← h.marks] at hpath
  have hbinds : ∀ tick ∈ ticks, ∀ mark ∈ tick.mark, mark.bindsTo address = true := by
    intro tick htick mark hmark
    have hmem : mark ∈ timeline ts := by
      rw [← h.marks]
      exact List.mem_filterMap.mpr ⟨tick, htick, hmark⟩
    obtain ⟨t, ht, hmem⟩ := List.mem_flatMap.mp hmem
    exact bindsTo_of_mark (h.bound t ht) hmem
  refine ((hpath.stutter.both h.life).restrict hbinds).history
    (fun past (m : Driver × FakeLdc1614Device) => Attached address m.1 m.2 ∧
      ∀ tick ∈ past, tick.forced = none →
        ∀ mark ∈ tick.mark, ∀ event ∈ mark.events, ¬ event.Fails) [] ⟨ha, by simp⟩ ?_
  rintro past m tick m' ⟨ha, hpast⟩ ⟨⟨hstep, hdev⟩, hbinds⟩
  obtain ⟨ha', hnew⟩ := ha.step hstep hdev hbinds
  refine ⟨ha', fun tick' htick' => ?_⟩
  rcases List.mem_append.mp htick' with hold | hlast
  · exact hpast tick' hold
  · rwa [List.mem_singleton.mp hlast]

/-- **No exchange with a healthy device fails.** -/
theorem Joint.passed (h : Joint address s dev₀ ts ticks u dev) (ha : Attached address s dev₀)
    (hhealthy : ∀ tick ∈ ticks, tick.forced = none) : ∀ event ∈ exchange ts, ¬ Event.Fails event := by
  intro event hevent
  rw [← timeline_events, ← h.marks] at hevent
  obtain ⟨mark, hmark, hevent⟩ := List.mem_flatMap.mp hevent
  obtain ⟨tick, htick, hmark⟩ := List.mem_filterMap.mp hmark
  exact (h.attached ha).2 tick htick (hhealthy tick htick) mark hmark event hevent

/-- How a job ends on a healthy device. -/
theorem Joint.outcome (hs : Reachable s) (h : Joint address s dev₀ ts ticks u dev)
    (hpassed : ∀ event ∈ exchange ts, ¬ Event.Fails event) {t : DriverTransition} (ht : t ∈ ts)
    {result : OperationResult} (hfinished : (account t).finished = some result) :
    result.outcome = .success ∨
    result.outcome = .cancelled ∧
      (t.call = .cancelJob ∨ ∃ reason, t.call = .invalidateAppliedState reason) ∨
    result.outcome = .timedOut ∧ ∃ nowMs maxTransfers, t.call = .poll nowMs maxTransfers ∧
      dueOrPast nowMs result.finalProgress.deadlineMs = true := by
  have hrun := h.run
  obtain ⟨past, later, rfl⟩ := List.append_of_mem ht
  obtain ⟨hpast, hv, -⟩ := Run.around hrun
  have hw := run_wellFormed hs.wellFormed hpast
  obtain ⟨labels, hlabels⟩ := hs.visited
  have hvisited : Visited t.before := ⟨_, hlabels.append (run_path hs.wellFormed hpast)⟩
  obtain ⟨hmem, hnew⟩ := finished_is_new hvisited hv hfinished
  obtain ⟨mark, hmark, hcause⟩ :=
    (queue_cause_of_path hw (transition_path t hw hv) result hmem).resolve_left hnew
  -- the cause of the result is one of the marks of its call
  cases hcause with
  | success hsuccess => exact Or.inl hsuccess
  | failed _ event hevent hfails =>
      -- a failed transfer is an event of the run, and all of them passed
      refine absurd hfails (hpassed event ?_)
      rw [← timeline_events]
      refine List.mem_flatMap.mpr ⟨mark, ?_, hevent⟩
      exact List.mem_flatMap.mpr ⟨t, ht, hmark⟩
  | timedOut houtcome nowMs maxTransfers output heq hdue =>
      refine Or.inr (Or.inr ⟨houtcome, nowMs, maxTransfers, ?_, hdue⟩)
      rw [heq] at hmark
      rcases mem_marks hmark with hcancel | ⟨event, hbus⟩ | hret
      · cases hcancel
      · cases hbus
      · exact (Mark.ret.inj hret).1.symm
  | cancelled houtcome output heq =>
      refine Or.inr (Or.inl ⟨houtcome, ?_⟩)
      rw [heq] at hmark
      rcases List.mem_append.mp hmark with hbefore | hlast
      · rcases List.mem_append.mp hbefore with hnested | hbus
        · unfold nestedMarks at hnested
          split at hnested
          · next reason hcall => exact Or.inr ⟨reason, hcall⟩
          · cases hnested
        · obtain ⟨event, -, hbus⟩ := List.mem_map.mp hbus
          cases hbus
      · exact Or.inl (Mark.ret.inj (List.mem_singleton.mp hlast)).1.symm

/-- **A healthy device fails no job.** Take any reachable driver attached to a device that identifies
itself, any run from there that binds to its address only, and any life of the device under the run
in which no failure is forced, with conversions wherever they fall. Every exchange succeeds; and
every job that ends succeeds, unless it is cancelled by `cancelJob` or an invalidation, or polled at
or past its deadline. -/
theorem healthy_jobs_succeed (hs : Reachable s) (ha : Attached address s dev₀)
    (h : Joint address s dev₀ ts ticks u dev) (hhealthy : ∀ tick ∈ ticks, tick.forced = none) :
    (∀ event ∈ exchange ts, event.2.status.isOk = true) ∧
    ∀ t ∈ ts, ∀ result, (account t).finished = some result →
      result.outcome = .success ∨
      result.outcome = .cancelled ∧
        (t.call = .cancelJob ∨ ∃ reason, t.call = .invalidateAppliedState reason) ∨
      result.outcome = .timedOut ∧ ∃ nowMs maxTransfers, t.call = .poll nowMs maxTransfers ∧
        dueOrPast nowMs result.finalProgress.deadlineMs = true := by
  have hpassed := h.passed ha hhealthy
  refine ⟨fun event hevent => ?_, fun t ht result hfinished => h.outcome hs hpassed ht hfinished⟩
  by_contra hfailed
  rw [Bool.not_eq_true] at hfailed
  exact hpassed event hevent (Or.inl hfailed)

end Joint

/-- An initialization in two polls, and an apply that is polled too late. -/
def benchHealthy : List (Call × List Reply) :=
  [(.bind benchProfile, []), (.startInitialize 7 1000, []),
    (.poll 10 5, replied 0x54 0x49 :: replied 0x30 0x55 :: List.replicate 3 (replied 0 0)),
    (.poll 20 10, List.replicate 10 (replied 0 0)), (.startApplyConfig 8 30, []), (.poll 40 1, [])]

/-- A device next to them, with a conversion in the middle of the initialization. -/
def benchHealthyTicks : List Tick :=
  let ticks := (timeline (runOf benchHealthy).1).map Mark.tick
  ticks.take 4 ++ .conversion { ch := 0, raw28 := 0x1234567, dataErrors := 0x1000 } :: ticks.drop 4

/-- The initialization succeeds, the apply is timed out. -/
theorem healthy_jobs_succeed_bench :
    (∀ event ∈ exchange (runOf benchHealthy).1, event.2.status.isOk = true) ∧
    (runOf benchHealthy).1.filterMap (fun t => (account t).finished.map OperationResult.outcome) =
      [.success, .timedOut] := by
  have hfollow : ((FakeLdc1614Device.constructed 0x2A).follow benchHealthyTicks).isSome = true := by
    decide +kernel
  obtain ⟨dev, hfollow⟩ := Option.isSome_iff_exists.mp hfollow
  have hbound : (runOf benchHealthy).1.all (fun t => t.call.bindsTo 0x2A t.output) = true := by
    decide +kernel
  have hhealthy : benchHealthyTicks.all (fun tick => tick.forced.isNone) = true := by decide +kernel
  have hjoint : Joint 0x2A Driver.initial (.constructed 0x2A) (runOf benchHealthy).1
      benchHealthyTicks (runOf benchHealthy).2 dev :=
    { run := run_runOf benchHealthy
      life := deviceLife_of_follow hfollow
      marks := by decide +kernel
      bound := List.all_eq_true.mp hbound }
  have hattached : Attached 0x2A Driver.initial (.constructed 0x2A) :=
    ⟨wellFormed_initial, fun hbound => Bool.noConfusion hbound, identified_constructed 0x2A⟩
  have hall := healthy_jobs_succeed ⟨[], .nil⟩ hattached hjoint fun tick htick =>
    Option.isNone_iff_eq_none.mp (List.all_eq_true.mp hhealthy tick htick)
  exact ⟨hall.1, by decide +kernel⟩

end Ldc1614
