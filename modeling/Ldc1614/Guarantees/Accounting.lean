import Ldc1614.Driver.Evaluate
import Ldc1614.Interaction.Counter

/-! # The bus budget and its counters

Which public operations touch the bus, and how often: the bookkeeping operations never do, the direct
reads and writes at most once and only between jobs. Over a whole binding the transport statistics
count every callback exactly, until a counter saturates. -/

namespace Ldc1614

open Interaction Interaction.Program Interaction.Counter

/-! ### Who touches the bus -/

/-- The INTB observer is not a transport callback. -/
def Request.observes : Request → Bool
  | .intbAsserted _ _ => true
  | .i2cWrite _ _ _ _ _ | .i2cWriteRead _ _ _ _ _ _ => false

/-- A transfer is not an observation. -/
@[simp] theorem observes_request (transfer : Transfer) (config : Config) (timeoutMs : U32) :
    (transfer.request config timeoutMs).observes = false := by
  cases transfer <;> rfl

/-- The operations that never invoke a transport callback. -/
def Call.busSilent : Call → Bool
  | .bind _ | .end_ | .updateDesiredConfig _ | .startInitialize _ _ | .startApplyConfig _ _
  | .startResetAndReapply _ _ | .startAcquire _ _ _ | .cancelJob | .takeResult
  | .invalidateAppliedState _ | .readIntb => true
  | _ => false

/-- The operations of one transfer. -/
def Call.oneTransfer : Call → Bool
  | .readDeviceStatus | .readDataReady | .sleep | .wake | .readInitDriveCurrent _
  | .readRegister16 _ | .writeRegister16 _ _ => true
  | _ => false

namespace Driver

variable {α : Type} {d : Driver}

/-- The program makes at most `n` transfers, only while no job of `d` is active and with the
configured timeout. -/
abbrev Frugal (d : Driver) (n : ℕ) (p : Bus α) : Prop :=
  Program.Spends Request.observes
    (fun request => d.progress.active = false ∧ request.timeoutMs = some d.config.i2cTimeoutMs) n p

/-- Outside a job a read is one transfer. -/
theorem frugal_readRegister (hidle : d.progress.active = false) (reg : U8) :
    d.Frugal 1 (d.readRegister reg d.config.i2cTimeoutMs) := by
  unfold readRegister
  cases d.config.i2cWriteRead with
  | none => exact .trap
  | some callback => exact .spend ⟨hidle, rfl⟩ fun _ => .done

/-- Outside a job a write is one transfer. -/
theorem frugal_writeRegister (hidle : d.progress.active = false) (reg : U8) (value : U16) :
    d.Frugal 1 (d.writeRegister reg value d.config.i2cTimeoutMs) := by
  unfold writeRegister
  cases d.config.i2cWrite with
  | none => exact .trap
  | some callback => exact .spend ⟨hidle, rfl⟩ fun _ => .done

/-- A guard that refuses while a job is active. -/
theorem frugal_unless_active {p q : Bus α} {n : ℕ} (hp : d.Frugal n p)
    (hq : d.progress.active = false → d.Frugal n q) :
    d.Frugal n (if d.progress.active = true then p else q) := by
  by_cases hactive : d.progress.active = true
  · rw [if_pos hactive]
    exact hp
  · rw [if_neg hactive]
    exact hq (by simpa using hactive)

/-- `readDeviceStatus` makes at most one transfer. -/
theorem frugal_readDeviceStatus : d.Frugal 1 d.readDeviceStatus := by
  unfold readDeviceStatus
  exact .ite .done (frugal_unless_active .done fun hidle =>
    (frugal_readRegister hidle _).map fun out =>
      (out.1, out.2.1, if out.2.1.isOk then decodeDeviceStatus out.2.2 else {}))

/-- `readDataReady` makes at most one transfer. -/
theorem frugal_readDataReady : d.Frugal 1 d.readDataReady := by
  have hstatus : d.Frugal 1 d.readDataReadyStatus :=
    frugal_readDeviceStatus.map fun out => (out.1, out.2.1, out.2.1.isOk && out.2.2.dataReady, out.2.2)
  unfold readDataReady
  refine .ite .done (.ite .done (.ite .done (.ite .done ?_)))
  cases d.config.intbAsserted with
  | none => exact hstatus
  | some callback =>
      exact .ite hstatus (.free rfl fun reply => .ite .done (.ite .done hstatus))

/-- `readRegister16` makes at most one transfer. -/
theorem frugal_readRegister16 (reg : U8) : d.Frugal 1 (d.readRegister16 reg) := by
  unfold readRegister16
  exact .ite .done (frugal_unless_active .done fun hidle =>
    .ite .done (.ite .done (frugal_readRegister hidle reg)))

/-- `readInitDriveCurrent` makes at most one transfer. -/
theorem frugal_readInitDriveCurrent (channel : Channel) :
    d.Frugal 1 (d.readInitDriveCurrent channel) := by
  unfold readInitDriveCurrent
  exact .ite .done (.ite .done ((frugal_readRegister16 _).map fun out =>
    (out.1, out.2.1, if out.2.1.isOk then ((out.2.2 &&& Cmd.maskInitIdrive) >>>
      Cmd.bitInitIdrive).setWidth 8 else 0)))

/-- `sleep` and `wake` make at most one transfer. -/
theorem frugal_switchSleep (sleeping : Bool) (target source : AppliedConfigState) :
    d.Frugal 1 (d.switchSleep sleeping target source) := by
  unfold switchSleep
  exact .ite .done (frugal_unless_active .done fun hidle => .ite .done (.ite .done
    ((frugal_writeRegister hidle _ _).map fun out => out.1.configWritten target out.2)))

/-- `writeRegister16` makes at most one transfer. -/
theorem frugal_writeRegister16 (reg : U8) (value : U16) :
    d.Frugal 1 (d.writeRegister16 reg value) := by
  unfold writeRegister16
  exact .ite .done (frugal_unless_active .done fun hidle => .ite .done (.ite .done
    ((frugal_writeRegister hidle reg value).map fun out => out.1.diagnosticWritten reg out.2)))

/-- A delivery makes no request. -/
theorem frugal_takeResult : d.Frugal 0 d.takeResult := by
  unfold takeResult
  refine .ite .done ?_
  split
  · exact .done
  · exact .trap

/-- The bookkeeping operations make no transfer. -/
theorem frugal_busSilent {call : Call} (h : call.busSilent = true) : d.Frugal 0 (call.exec d) := by
  cases call with
  | takeResult => exact frugal_takeResult.map fun out => (out.1, Output.result out.2.1 out.2.2)
  | readIntb =>
      have hintb : d.Frugal 0 d.readIntb := by
        unfold readIntb
        refine .ite .done ?_
        cases d.config.intbAsserted with
        | none => exact .done
        | some callback => exact .ite .done (.free rfl fun _ => .done)
      exact hintb.map fun out => (d, Output.intb out.1 out.2)
  | bind | end_ | updateDesiredConfig | startInitialize | startApplyConfig | startResetAndReapply
  | startAcquire | cancelJob | invalidateAppliedState => exact .done
  | _ => cases h

/-- The direct reads and writes make at most one transfer. -/
theorem frugal_oneTransfer {call : Call} (h : call.oneTransfer = true) :
    d.Frugal 1 (call.exec d) := by
  cases call with
  | readDeviceStatus =>
      exact frugal_readDeviceStatus.map fun out => (out.1, Output.deviceStatus out.2.1 out.2.2)
  | readDataReady =>
      exact frugal_readDataReady.map fun out => (out.1, Output.dataReady out.2.1 out.2.2.1 out.2.2.2)
  | sleep => exact (frugal_switchSleep _ _ _).map fun out => (out.1, Output.status out.2)
  | wake => exact (frugal_switchSleep _ _ _).map fun out => (out.1, Output.status out.2)
  | readInitDriveCurrent channel =>
      exact (frugal_readInitDriveCurrent channel).map fun out => (out.1, Output.code out.2.1 out.2.2)
  | readRegister16 reg =>
      exact (frugal_readRegister16 reg).map fun out => (out.1, Output.word out.2.1 out.2.2)
  | writeRegister16 reg value =>
      exact (frugal_writeRegister16 reg value).map fun out => (out.1, Output.status out.2)
  | _ => cases h

end Driver

/-! ### What the statistics count -/

/-- What the transport callbacks among these exchanges returned. -/
def statuses (events : List Event) : List Status :=
  (events.filter fun event => !event.1.observes).map fun event => event.2.status

/-- The statuses of events in two parts. -/
theorem statuses_append (events more : List Event) :
    statuses (events ++ more) = statuses events ++ statuses more := by
  simp [statuses]

/-- The statistics count these statuses, each counter up to its largest value, and show the last. -/
structure Counted (returned : List Status) (stats : TransportStats) : Prop where
  attempts : Counts stats.totalAttempts returned.length
  success : Counts stats.totalSuccess (returned.countP Status.isOk)
  failures : Counts stats.totalFailures (returned.length - returned.countP Status.isOk)
  last : ∀ status, returned.getLast? = some status → stats.lastStatus = status

variable {d d' : Driver} {mark : Mark} {returned : List Status}

/-- Cleared statistics have counted nothing. -/
theorem counted_nil : Counted [] {} where
  attempts := counts_zero
  success := counts_zero
  failures := counts_zero
  last := fun _ h => by cases h

/-- One more callback is counted. -/
theorem Counted.tracked (h : Counted returned d.transportStats) (status : Status) :
    Counted (returned ++ [status]) (d.tracked status).transportStats := by
  have hlength : (returned ++ [status]).length = returned.length + 1 := by simp
  have hle := List.countP_le_length (p := Status.isOk) (l := returned)
  refine ⟨hlength ▸ h.attempts.increment, ?_, ?_, ?_⟩
  · cases hok : status.isOk with
    | true =>
        simp only [List.countP_append, List.countP_singleton, Driver.tracked, hok, if_true]
        exact h.success.increment
    | false =>
        simp only [List.countP_append, List.countP_singleton, Driver.tracked, hok,
          Bool.false_eq_true, if_false, Nat.add_zero]
        exact h.success
  · cases hok : status.isOk with
    | true =>
        simp only [hlength, List.countP_append, List.countP_singleton, Driver.tracked, hok, if_true,
          Nat.add_sub_add_right]
        exact h.failures
    | false =>
        simp only [hlength, List.countP_append, List.countP_singleton, Driver.tracked, hok,
          Bool.false_eq_true, if_false, Nat.add_zero, Nat.succ_sub hle]
        exact h.failures.increment
  · intro last hlast
    rw [List.getLast?_concat] at hlast
    exact Option.some.inj hlast

/-- Bookkeeping behind a callback leaves the statistics alone. -/
theorem recordInterruption_transportStats (cause : Status) :
    (d.recordInterruption cause).transportStats = d.transportStats := by
  unfold Driver.recordInterruption
  split <;> rfl

/-- **Every step counts** the callback it invoked, if any. -/
theorem Step.counted (h : Step d mark d') (hkept : mark.rebinds = false)
    (hcounted : Counted returned d.transportStats) :
    Counted (returned ++ statuses mark.events) d'.transportStats := by
  -- a transfer has one status, and a step without the bus none
  have htransfer (transfer : Transfer) (config : Config) (timeoutMs : U32) (reply : Reply) :
      statuses [(transfer.request config timeoutMs, reply)] = [reply.status] := by
    cases transfer <;> rfl
  have hsame {e : Driver} (he : e.transportStats = d.transportStats) :
      Counted (returned ++ []) e.transportStats := by
    rw [List.append_nil, he]
    exact hcounted
  cases h with
  | @job stage _ _ _ reply =>
      show Counted (returned ++ statuses [_]) _
      rw [htransfer]
      have hstats := hcounted.tracked reply.status
      cases hv : d.verdict stage reply with
      | none =>
          rw [Driver.resume_driver_of_none hv, Driver.settled_transportStats]
          exact hstats
      | some verdict =>
          rw [Driver.resume_driver_of_some hv, Driver.finishJob_transportStats,
            Driver.settled_transportStats]
          exact hstats
  | direct hdirect =>
      cases hdirect with
      | observed => exact hsame rfl
      | read => exact hcounted.tracked _
      | slept =>
          rw [Driver.configWritten_eq]
          exact hcounted.tracked _
      | woken =>
          rw [Driver.configWritten_eq]
          exact hcounted.tracked _
      | wrote =>
          rw [Driver.diagnosticWritten_eq]
          split <;> exact hcounted.tracked _
  | quiet hquiet =>
      cases hquiet with
      | bound | ended => cases hkept
      | expired => exact hsame (recordInterruption_transportStats _)
      | cancelled => exact hsame (recordInterruption_transportStats _)
      | _ => exact hsame rfl

/-- **Bus budget and counters.** Whatever the state, the bookkeeping operations invoke no transport
callback, and the direct reads and writes at most one, only between jobs and with the configured
timeout. Since a successful `bind`, the statistics have counted every callback, in counters that
saturate, and show what the last one returned. -/
theorem bus_budget :
    (∀ t : DriverTransition, t.Valid Call.exec →
      (t.call.busSilent = true → statuses t.events = []) ∧
      (t.call.oneTransfer = true → (statuses t.events).length ≤ 1 ∧
        ∀ event ∈ t.events, event.1.observes = false → t.before.progress.active = false ∧
          event.1.timeoutMs = some t.before.config.i2cTimeoutMs)) ∧
    (∀ s ts u, WithinBinding s ts u → Counted (statuses (exchange ts)) u.transportStats) := by
  constructor
  · intro t hv
    constructor
    · intro hsilent
      have hnone := (Driver.frugal_busSilent hsilent).yields hv
      rw [statuses, List.length_eq_zero_iff.mp (Nat.le_zero.mp hnone.1), List.map_nil]
    · intro hone
      have hbudget := (Driver.frugal_oneTransfer hone).yields hv
      rw [statuses, List.length_map]
      exact hbudget
  · intro s ts u h
    obtain ⟨_, config, -, -, rfl⟩ := h.start
    have hpath := (run_path h.wellFormed h.run).restrict (rebinds_of_kept h.kept)
    rw [← timeline_events]
    refine hpath.history (fun past m => Counted (statuses (past.flatMap Mark.events)) m.transportStats)
      [] ?_ ?_
    · exact counted_nil
    · intro past m mark m' hpast hstep
      rw [List.flatMap_append, List.flatMap_singleton, statuses_append]
      exact hstep.1.counted hstep.2 hpast

/-- A bench binding with a direct read, a refused one and a job whose second transfer fails. -/
def benchTraffic : List (Call × List Reply) :=
  [(.readDeviceStatus, [replied 0 0]), (.startInitialize 7 1000, []), (.readRegister16 0x7E, []),
    (.poll 10 5, [replied 0x54 0x49, failedWith .i2cTimeout])]

/-- Three callbacks have been counted, two of which succeeded; the direct read made one of them. -/
theorem bus_budget_traffic :
    (runBound benchProfile benchTraffic).1.map (fun t => (statuses t.events).length) = [1, 0, 0, 2] ∧
      Counted (statuses (exchange (runBound benchProfile benchTraffic).1))
        (runBound benchProfile benchTraffic).2.transportStats ∧
      ∀ t ∈ (runBound benchProfile benchTraffic).1, t.call.oneTransfer = true →
        (statuses t.events).length ≤ 1 := by
  have hbinding : WithinBinding (Driver.initial.boundTo benchProfile)
      (runBound benchProfile benchTraffic).1 (runBound benchProfile benchTraffic).2 :=
    withinBinding_runBound (by decide +kernel) (by decide +kernel) (by decide +kernel)
  refine ⟨by decide +kernel, bus_budget.2 _ _ _ hbinding, fun t ht hone => ?_⟩
  obtain ⟨before, after, hsplit⟩ := List.append_of_mem ht
  have hrun := hbinding.run
  rw [hsplit] at hrun
  exact ((bus_budget.1 t (Run.around hrun).2.1).2 hone).1

end Ldc1614
