import Ldc1614.Guarantees.Accounting

/-! # Refused and failed calls

A call that is refused changes nothing and clears what it would have written; a direct read that
fails on the bus is only counted, and so is a direct write whose address was not acknowledged. -/

namespace Ldc1614

open Interaction Interaction.Program

/-- Every output argument holds its cleared value. -/
def Output.Cleared : Output → Prop
  | .nothing | .status _ => True
  | .result _ out => out = {}
  | .deviceStatus _ out => out = {}
  | .dataReady _ ready observedStatus => ready = false ∧ observedStatus = {}
  | .code _ out => out = 0
  | .word _ out => out = 0
  | .intb _ asserted => asserted = false

namespace Driver

variable {d : Driver}

/-! ### Outputs of calls that did not succeed -/

/-- A status that comes with an output which it clears unless it is `OK`. -/
def ClearsOnFailure {α : Type} (cleared : α) (out : Driver × Status × α) : Prop :=
  out.2.1.isOk = false → out.2.2 = cleared

/-- A failed read returns zero. -/
theorem readRegister_clears (reg : U8) (timeoutMs : U32) :
    (d.readRegister reg timeoutMs).Always (ClearsOnFailure 0) := by
  unfold readRegister
  cases d.config.i2cWriteRead with
  | none => exact trivial
  | some callback =>
      intro reply hfailed
      exact if_neg (by simp [hfailed])

/-- A failed `readDeviceStatus` returns a blank status. -/
theorem readDeviceStatus_clears : d.readDeviceStatus.Always (ClearsOnFailure {}) := by
  unfold readDeviceStatus
  refine .ite (fun _ => rfl) (.ite (fun _ => rfl) ?_)
  refine Always.bind (readRegister_clears _ _) fun out _ hfailed => ?_
  exact if_neg (by simpa using hfailed)

/-- A failed `readDataReady` returns not ready and a blank status. -/
theorem readDataReady_clears :
    d.readDataReady.Always fun out => out.2.1.isOk = false → out.2.2 = (false, {}) := by
  have hstatus : d.readDataReadyStatus.Always fun out =>
      out.2.1.isOk = false → out.2.2 = (false, {}) := by
    refine Always.bind readDeviceStatus_clears fun out hcleared hfailed => ?_
    have hout : out.2.1.isOk = false := hfailed
    exact Prod.ext (by simp [hout]) (hcleared hfailed)
  unfold readDataReady
  refine .ite (fun _ => rfl) (.ite (fun _ => rfl) (.ite (fun _ => rfl) (.ite (fun _ => rfl) ?_)))
  cases d.config.intbAsserted with
  | none => exact hstatus
  | some callback =>
      exact .ite hstatus fun reply => .ite (fun _ => rfl) (.ite (fun _ => rfl) hstatus)

/-- A failed `readRegister16` returns zero. -/
theorem readRegister16_clears (reg : U8) : (d.readRegister16 reg).Always (ClearsOnFailure 0) := by
  unfold readRegister16
  exact .ite (fun _ => rfl) (.ite (fun _ => rfl) (.ite (fun _ => rfl) (.ite (fun _ => rfl)
    (readRegister_clears _ _))))

/-- A failed `readInitDriveCurrent` returns zero. -/
theorem readInitDriveCurrent_clears (channel : Channel) :
    (d.readInitDriveCurrent channel).Always (ClearsOnFailure 0) := by
  unfold readInitDriveCurrent
  refine .ite (fun _ => rfl) (.ite (fun _ => rfl) ?_)
  refine Always.bind (readRegister16_clears _) fun out _ hfailed => ?_
  exact if_neg (by simpa using hfailed)

/-- A failed `takeResult` returns a blank result. -/
theorem takeResult_clears : d.takeResult.Always (ClearsOnFailure {}) := by
  unfold takeResult
  refine .ite (fun _ => rfl) ?_
  split
  · exact fun hfailed => by cases hfailed
  · exact trivial

/-- **An output is meaningful only behind `OK`.** Every call but `readIntb` clears its outputs
otherwise. -/
theorem exec_clears (call : Call) (hcall : call ≠ .readIntb) :
    (call.exec d).Always fun end_ => end_.2.toStatus.isOk = false → end_.2.Cleared := by
  cases call with
  | takeResult => exact Always.bind takeResult_clears fun _ hcleared => hcleared
  | readDeviceStatus => exact Always.bind readDeviceStatus_clears fun _ hcleared => hcleared
  | readDataReady =>
      refine Always.bind readDataReady_clears fun out hcleared hfailed => ?_
      exact Prod.mk.inj (hcleared hfailed)
  | readInitDriveCurrent channel =>
      exact Always.bind (readInitDriveCurrent_clears channel) fun _ hcleared => hcleared
  | readRegister16 reg => exact Always.bind (readRegister16_clears reg) fun _ hcleared => hcleared
  | readIntb => exact absurd rfl hcall
  | poll | sleep | wake | writeRegister16 =>
      exact Always.bind (Always.of_forall (fun _ => trivial) _) fun _ _ _ => trivial
  | _ => exact fun _ => trivial

/-- Without a look at INTB `readIntb` clears its output as well. -/
theorem readIntb_clears {d' : Driver} {output : Output}
    (hy : (Call.exec .readIntb d).Yields [] (d', output)) : output.Cleared := by
  simp only [Call.exec, readIntb] at hy
  split at hy
  · obtain ⟨-, hend⟩ := hy
    rw [(Prod.mk.inj hend).2]
    rfl
  split at hy
  · obtain ⟨-, hend⟩ := hy
    rw [(Prod.mk.inj hend).2]
    rfl
  split at hy
  · obtain ⟨-, hend⟩ := hy
    rw [(Prod.mk.inj hend).2]
    rfl
  · obtain ⟨reply, rest, hevents, -⟩ := hy
    cases hevents

/-! ### Writes that were not acknowledged -/

/-- Only the transport statistics may have changed. -/
def OnlyCounted (d d' : Driver) : Prop := d' = { d with transportStats := d'.transportStats }

/-- Nothing but the counters has changed where nothing has. -/
theorem OnlyCounted.refl (d : Driver) : d.OnlyCounted d := rfl

/-- An unacknowledged address ends in a state in which only the statistics may have changed. -/
def CountsOnNack (d : Driver) (out : Driver × Status) : Prop :=
  out.2.code = .i2cNackAddr → d.OnlyCounted out.1

/-- A write whose address was not acknowledged cannot have reached the device. -/
theorem not_reached {status : Status} (h : status.code = .i2cNackAddr) :
    status.isOk = false ∧ transferFailureMayHaveReachedDevice status = false := by
  rw [Status.isOk, transferFailureMayHaveReachedDevice, h]
  exact ⟨rfl, rfl⟩

/-- A write by itself only counts its transfer. -/
theorem writeRegister_counts (reg : U8) (value : U16) (timeoutMs : U32) :
    (d.writeRegister reg value timeoutMs).Always fun out => d.OnlyCounted out.1 := by
  unfold writeRegister
  cases d.config.i2cWrite with
  | none => exact trivial
  | some callback => exact fun _ => rfl

/-- `sleep` and `wake` only count a transfer that was not acknowledged. -/
theorem switchSleep_counts (sleeping : Bool) (target source : AppliedConfigState) :
    (d.switchSleep sleeping target source).Always d.CountsOnNack := by
  unfold switchSleep
  refine .ite (fun _ => .refl d) (.ite (fun _ => .refl d) (.ite (fun _ => .refl d)
    (.ite (fun _ => .refl d) ?_)))
  refine Always.bind (writeRegister_counts _ _ _) fun out hcounted hnack => ?_
  unfold configWritten at hnack ⊢
  by_cases hok : out.2.isOk = true
  · rw [if_neg (by simp [hok])] at hnack
    cases hnack
  · rw [if_pos (by simpa using hok)] at hnack ⊢
    dsimp only
    rw [(not_reached hnack).2]
    exact hcounted

/-- `writeRegister16` only counts a transfer that was not acknowledged. -/
theorem writeRegister16_counts (reg : U8) (value : U16) :
    (d.writeRegister16 reg value).Always d.CountsOnNack := by
  unfold writeRegister16
  refine .ite (fun _ => .refl d) (.ite (fun _ => .refl d) (.ite (fun _ => .refl d)
    (.ite (fun _ => .refl d) ?_)))
  refine Always.bind (writeRegister_counts _ _ _) fun out hcounted hnack => ?_
  have hstatus : out.2.code = .i2cNackAddr := hnack
  unfold diagnosticWritten
  simp only [(not_reached hstatus).1, (not_reached hstatus).2, Bool.or_self, Bool.false_eq_true,
    if_false]
  exact hcounted

end Driver

/-! ### Every call -/

open Driver

variable {d d' : Driver} {mark : Mark} {t : DriverTransition}

/-- A call that fails without the transport, and is not an expired `poll`, has done nothing. -/
theorem Step.refuses (h : Step d mark d')
    (hevents : ∀ event ∈ mark.events, event.1.observes = true)
    (hreturn : ∀ call output, mark = .ret call output → output.toStatus.isOk = false ∧
      output.toStatus.inProgress = false ∧ (∀ nowMs maxTransfers, call = .poll nowMs maxTransfers →
        d.progress.active = true → dueOrPast nowMs d.progress.deadlineMs = false)) : d' = d := by
  cases h with
  | job =>
      have hfalse := hevents _ (List.mem_singleton_self _)
      rw [observes_request] at hfalse
      cases hfalse
  | direct hdirect =>
      have hobserved := hevents _ (List.mem_singleton_self _)
      cases hdirect with
      | observed => rfl
      | read | slept | woken | wrote =>
          rw [directRequest, observes_request] at hobserved
          cases hobserved
  | quiet hquiet =>
      obtain ⟨hfailed, hended, hdue⟩ := hreturn _ _ rfl
      cases hquiet with
      | kept => rfl
      | bound | ended | updated | cancelled | taken | invalidated => cases hfailed
      | started => cases hended
      | expired nowMs maxTransfers hactive hlate =>
          exact absurd (hlate.symm.trans (hdue nowMs maxTransfers rfl hactive)) Bool.noConfusion

/-- A direct read is counted and changes nothing else. -/
theorem Step.reads (h : Step d mark d') (hcall : readsRegister mark.call = true) :
    d.OnlyCounted d' := by
  cases h with
  | job => cases hcall
  | direct hdirect =>
      cases hdirect with
      | observed => rfl
      | read => rfl
      | slept | woken | wrote => cases hcall
  | quiet hquiet =>
      cases hquiet with
      | kept => rfl
      | started hstarts => cases hstarts <;> cases hcall
      | _ => cases hcall

/-- The call is a `poll` of an active job past its deadline. -/
def Expires (t : DriverTransition) : Prop :=
  ∃ nowMs maxTransfers, t.call = .poll nowMs maxTransfers ∧ t.before.progress.active = true ∧
    dueOrPast nowMs t.before.progress.deadlineMs = true

/-- Direct reads only count, whether they succeed or fail. -/
theorem reads_only_count (hw : t.before.WellFormed) (hv : t.Valid Call.exec)
    (hcall : readsRegister t.call = true) : t.before.OnlyCounted t.after := by
  have hplain : nestedMarks t = [] := by
    unfold nestedMarks
    split
    · next hinvalidate =>
        rw [hinvalidate] at hcall
        cases hcall
    · rfl
  have hpath := (transition_path t hw hv).restrict fun mark hmark => (call_of_mark hplain hmark).1
  refine hpath.invariant (.refl t.before) fun m mark m' hpast hstep => ?_
  have hnext : m.OnlyCounted m' := hstep.1.reads (by rw [hstep.2]; exact hcall)
  unfold OnlyCounted at hpast hnext ⊢
  rw [hnext, hpast]

/-- A call that fails without the transport, and is not an expired `poll`, changes nothing. -/
theorem refused_unchanged (hw : t.before.WellFormed) (hv : t.Valid Call.exec)
    (hfailed : t.output.toStatus.isOk = false) (hended : t.output.toStatus.inProgress = false)
    (hsilent : statuses t.events = []) (hdue : ¬ Expires t) : t.after = t.before := by
  have hplain : nestedMarks t = [] := by
    unfold nestedMarks
    split
    · next reason hcall =>
        -- an invalidation reports no failure
        rw [Transition.Valid, hcall] at hv
        rw [(Prod.mk.inj hv.2).2] at hfailed
        cases hfailed
    · rfl
  have hobserved : ∀ event ∈ t.events, event.1.observes = true := by
    intro event hevent
    by_contra hnot
    have hmem : event ∈ t.events.filter fun event => !event.1.observes :=
      List.mem_filter.mpr ⟨hevent, by simpa using hnot⟩
    rw [List.map_eq_nil_iff.mp hsilent] at hmem
    cases hmem
  have hmarks : ∀ mark ∈ marks t, (∀ event ∈ mark.events, event.1.observes = true) ∧
      ∀ call output, mark = .ret call output → call = t.call ∧ output = t.output := by
    intro mark hmark
    rw [marks, hplain, List.nil_append] at hmark
    rcases List.mem_append.mp hmark with hbus | hlast
    · obtain ⟨event, hevent, rfl⟩ := List.mem_map.mp hbus
      refine ⟨fun e he => ?_, fun _ _ hret => by cases hret⟩
      rw [List.mem_singleton.mp he]
      exact hobserved event hevent
    · obtain rfl := List.mem_singleton.mp hlast
      refine ⟨fun e he => (by cases he), fun call output hret => ?_⟩
      cases hret
      exact ⟨rfl, rfl⟩
  have hpath := (transition_path t hw hv).restrict hmarks
  refine hpath.invariant (I := fun m => m = t.before) rfl fun m mark m' hpast hstep => ?_
  obtain rfl := hpast
  refine hstep.1.refuses hstep.2.1 fun call output hret => ?_
  obtain ⟨rfl, rfl⟩ := hstep.2.2 call output hret
  refine ⟨hfailed, hended, fun nowMs maxTransfers hcall hactive => ?_⟩
  by_contra hlate
  exact hdue ⟨nowMs, maxTransfers, hcall, hactive, by simpa using hlate⟩

/-- **Refused and failed calls are atomic.** A call of a reachable driver that fails without a
transport callback, and is not an expired `poll`, leaves every field as it was and clears its outputs,
but for the level that a failed INTB observer has written itself. A direct read that fails on the bus
clears its outputs and is only counted, and a direct write whose address was not acknowledged is only
counted. -/
theorem failed_calls_atomic (hd : Reachable t.before) (hv : t.Valid Call.exec) :
    (t.output.toStatus.isOk = false → t.output.toStatus.inProgress = false →
      statuses t.events = [] → ¬ Expires t → t.after = t.before ∧
        ((t.call = .readIntb → t.events = []) → t.output.Cleared)) ∧
    (readsRegister t.call = true → statuses t.events ≠ [] → t.output.toStatus.isOk = false →
      t.before.OnlyCounted t.after ∧ t.output.Cleared) ∧
    ((t.call = .sleep ∨ t.call = .wake ∨ ∃ reg value, t.call = .writeRegister16 reg value) →
      t.output.toStatus.code = .i2cNackAddr → t.before.OnlyCounted t.after) := by
  have hw := hd.wellFormed
  refine ⟨fun hfailed hended hsilent hdue => ⟨refused_unchanged hw hv hfailed hended hsilent hdue,
    fun hobserver => ?_⟩, fun hcall _ hfailed => ⟨reads_only_count hw hv hcall, ?_⟩,
    fun hcall hnack => ?_⟩
  · by_cases hintb : t.call = .readIntb
    · rw [Transition.Valid, hintb, hobserver hintb] at hv
      exact readIntb_clears hv
    · exact (exec_clears t.call hintb).yields hv hfailed
  · have hintb : t.call ≠ .readIntb := fun h => by rw [h] at hcall; cases hcall
    exact (exec_clears t.call hintb).yields hv hfailed
  · have hwrites {p : Bus (Driver × Status)} (hp : p.Always t.before.CountsOnNack)
        (hy : (p >>= fun out => pure (out.1, Output.status out.2)).Yields t.events
          (t.after, t.output)) : t.before.OnlyCounted t.after := by
      have hall : (p >>= fun out => pure (out.1, Output.status out.2)).Always fun end_ =>
          end_.2.toStatus.code = .i2cNackAddr → t.before.OnlyCounted end_.1 :=
        Always.bind hp fun _ hout => hout
      exact hall.yields hy hnack
    rw [Transition.Valid] at hv
    rcases hcall with hcall | hcall | ⟨reg, value, hcall⟩
    · rw [hcall] at hv
      exact hwrites (switchSleep_counts _ _ _) hv
    · rw [hcall] at hv
      exact hwrites (switchSleep_counts _ _ _) hv
    · rw [hcall] at hv
      exact hwrites (writeRegister16_counts reg value) hv

/-- A bench on which a read times out, an acquisition is refused and a write is not acknowledged. -/
def benchRefusals : List (Call × List Reply) :=
  [(.readRegister16 0x7F, [failedWith .i2cTimeout]), (.startAcquire ⟨1⟩ 7 1000, []),
    (.writeRegister16 0x1A 0x1601, [failedWith .i2cNackAddr])]

/-- The three calls leave the bench as it was, but for the two callbacks counted. -/
theorem failed_calls_atomic_bench : ∃ read start write u,
    execute (reachedBy [(.bind benchProfile, [])]) benchRefusals = some ([read, start, write], u) ∧
      read.before.OnlyCounted read.after ∧ start.after = start.before ∧
      write.before.OnlyCounted write.after ∧ u.transportStats.totalFailures = 2 := by
  have hcalls : (execute (reachedBy [(.bind benchProfile, [])]) benchRefusals).map
      (fun run => (run.1.map (fun t => (t.call, t.output.toStatus.code,
        (statuses t.events).length)), run.2.transportStats.totalFailures)) =
      some ([(.readRegister16 0x7F, .i2cTimeout, 1), (.startAcquire ⟨1⟩ 7 1000, .configDirty, 0),
        (.writeRegister16 0x1A 0x1601, .i2cNackAddr, 1)], 2) := by decide +kernel
  obtain ⟨⟨ts, u⟩, hrun, hall⟩ := Option.map_eq_some_iff.mp hcalls
  obtain ⟨hall, hcount⟩ := Prod.mk.inj hall
  obtain ⟨read, start, write, rfl⟩ :=
    List.length_eq_three.mp ((List.length_map _).symm.trans (congrArg List.length hall))
  simp only [List.map_cons, List.map_nil, List.cons.injEq, Prod.mk.injEq, and_true] at hall
  obtain ⟨⟨hread, hreadCode, hreadOne⟩, ⟨hstart, hstartCode, hstartNone⟩, hwrite, hwriteCode, -⟩ :=
    hall
  have hreach (before : List DriverTransition) {t : DriverTransition}
      {after : List DriverTransition} (hsplit : [read, start, write] = before ++ t :: after) :
      Reachable t.before ∧ t.Valid Call.exec := by
    have hpath := run_of_execute hrun
    rw [hsplit] at hpath
    obtain ⟨hbefore, hvalid, -⟩ := Run.around hpath
    obtain ⟨past, hpast⟩ := reachable_reachedBy [(.bind benchProfile, [])]
    exact ⟨⟨past ++ before, hpast.append hbefore⟩, hvalid⟩
  obtain ⟨hd₁, hv₁⟩ := hreach [] rfl
  obtain ⟨hd₂, hv₂⟩ := hreach [read] rfl
  obtain ⟨hd₃, hv₃⟩ := hreach [read, start] rfl
  refine ⟨read, start, write, u, hrun, ?_, ?_, ?_, hcount⟩
  · refine ((failed_calls_atomic hd₁ hv₁).2.1 (by rw [hread]; rfl) ?_ ?_).1
    · exact fun hnone => by rw [hnone] at hreadOne; cases hreadOne
    · rw [Status.isOk, hreadCode]
      rfl
  · refine ((failed_calls_atomic hd₂ hv₂).1 ?_ ?_ (List.length_eq_zero_iff.mp hstartNone) ?_).1
    · rw [Status.isOk, hstartCode]
      rfl
    · rw [Status.inProgress, hstartCode]
      rfl
    · rintro ⟨nowMs, maxTransfers, hpoll, -⟩
      rw [hstart] at hpoll
      cases hpoll
  · exact (failed_calls_atomic hd₃ hv₃).2.2 (Or.inr (Or.inr ⟨_, _, hwrite⟩)) hwriteCode

end Ldc1614
