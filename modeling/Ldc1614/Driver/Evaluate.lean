import Ldc1614.Driver.Runs

/-! # Evaluating runs

A run of public operations against given replies can be computed: `execute` makes the calls one
after another, each against its own replies, and what it returns is a run. -/

namespace Ldc1614

open Interaction

/-- Make the calls one after another, each against exactly the replies it is given. -/
def execute : Driver → List (Call × List Reply) → Option (List DriverTransition × Driver)
  | d, [] => some ([], d)
  | d, (call, replies) :: rest =>
      match (call.exec d).run replies with
      | some (events, (d', output), []) =>
          (execute d' rest).map fun (ts, u) => (⟨d, call, events, output, d'⟩ :: ts, u)
      | _ => none

/-- What the evaluator returns is a run. -/
theorem run_of_execute {d u : Driver} {calls : List (Call × List Reply)}
    {ts : List DriverTransition} (h : execute d calls = some (ts, u)) : DriverRun d ts u := by
  induction calls generalizing d ts with
  | nil =>
      cases h
      exact .nil
  | cons entry rest ih =>
      obtain ⟨call, replies⟩ := entry
      simp only [execute] at h
      split at h
      · next events d' output hrun =>
          obtain ⟨⟨us, v⟩, hrest, hend⟩ := Option.map_eq_some_iff.mp h
          cases hend
          have hfirst : DriverRun d [⟨d, call, events, output, d'⟩] d' :=
            .single ⟨rfl, Program.yields_of_run hrun, rfl⟩
          exact hfirst.append (ih hrest)
      · cases h

/-- Make the calls from construction on. -/
def runFromStart (calls : List (Call × List Reply)) : Option Driver :=
  (execute Driver.initial calls).map Prod.snd

/-- What the evaluator reaches is reachable. -/
theorem reachable_of_runFromStart {d : Driver} {calls : List (Call × List Reply)}
    (h : runFromStart calls = some d) : Reachable d := by
  obtain ⟨⟨ts, u⟩, hrun, rfl⟩ := Option.map_eq_some_iff.mp h
  exact ⟨ts, run_of_execute hrun⟩

/-- The state the calls lead to from construction on. -/
def reachedBy (calls : List (Call × List Reply)) : Driver :=
  (runFromStart calls).getD Driver.initial

/-- It is reachable, whether the calls can be made or not. -/
theorem reachable_reachedBy (calls : List (Call × List Reply)) : Reachable (reachedBy calls) := by
  unfold reachedBy
  cases h : runFromStart calls with
  | none => exact ⟨[], .nil⟩
  | some d => exact reachable_of_runFromStart h

/-- The run of these calls from construction on. -/
def runOf (calls : List (Call × List Reply)) : List DriverTransition × Driver :=
  (execute Driver.initial calls).getD ([], Driver.initial)

/-- It is one, whether the calls can be made or not. -/
theorem run_runOf (calls : List (Call × List Reply)) :
    DriverRun Driver.initial (runOf calls).1 (runOf calls).2 := by
  unfold runOf
  cases h : execute Driver.initial calls with
  | none => exact .nil
  | some run => exact run_of_execute h

/-- The transitions and the final state of calls made right behind a first `bind`. -/
def runBound (config : Config) (calls : List (Call × List Reply)) :
    List DriverTransition × Driver :=
  (execute (Driver.initial.boundTo config) calls).getD ([], Driver.initial)

/-- They are a run within that binding. -/
theorem withinBinding_runBound {config : Config} {calls : List (Call × List Reply)}
    (hvalid : (validateConfig config).isOk = true)
    (hrun : (execute (Driver.initial.boundTo config) calls).isSome = true)
    (hkept : (runBound config calls).1.all (fun t => !t.call.rebinds t.output) = true) :
    WithinBinding (Driver.initial.boundTo config) (runBound config calls).1
      (runBound config calls).2 where
  binding := by
    have hbind : Driver.initial.bind config = (Driver.initial.boundTo config, .ok) := by
      rw [Driver.bind, if_neg (by decide)]
      simp only [hvalid, Bool.not_true, Bool.false_eq_true, if_false]
    refine ⟨[], ⟨Driver.initial, .bind config, [], .status .ok, Driver.initial.boundTo config⟩,
      config, Path.single ⟨rfl, ?_, rfl⟩, rfl, rfl⟩
    show (silent (Driver.initial.bind config)).Yields [] _
    rw [hbind]
    exact ⟨rfl, rfl⟩
  run := by
    obtain ⟨result, hresult⟩ := Option.isSome_iff_exists.mp hrun
    rw [runBound, hresult, Option.getD_some]
    exact run_of_execute hresult
  kept := by
    intro t ht
    have ht' := List.all_eq_true.mp hkept t ht
    simpa using ht'

/-! ### A profile to run -/

/-- A transfer that succeeded, with the word it read. -/
def replied (high low : U8) : Reply := { status := .ok, rxHigh := high, rxLow := low }

/-- A callback that returned this error. -/
def failedWith (code : Err) : Reply := { status := .error code "transfer failed" }

/-- The channel profile of the bench. -/
def benchChannel : ChannelConfig :=
  { rcount := 0xFFFF
    settleCount := 0x0400
    finDivider := 1
    frefDivider := 2
    driveCurrentCode := ⟨10⟩
    expectedSensorMinHz := 100000
    expectedSensorMaxHz := 900000 }

/-- A two-channel LDC1612 that scans both channels on its internal clock. -/
def benchProfile : Config :=
  { i2cWrite := some ⟨1⟩
    i2cWriteRead := some ⟨2⟩
    i2cTimeoutMs := 50
    i2cAddress := .addrGnd
    variant := .ldc1612
    channels := ⟨0x03⟩
    channel := Vector.replicate 4 benchChannel
    referenceClock := { source := .internal, frequencyHz := 40000000 }
    mode := .multiChannelSequential
    rrSequence := .ch0Ch1
    deglitch := .bw1Mhz }

/-- A bench whose initialization has been admitted. -/
def benchAdmitted : Driver := reachedBy [(.bind benchProfile, []), (.startInitialize 7 1000, [])]

/-- One call on the admitted bench. -/
theorem execute_admitted (call : Call) (replies : List Reply)
    (h : (execute benchAdmitted [(call, replies)]).isSome = true) :
    ∃ t, execute benchAdmitted [(call, replies)] = some ([t], t.after) ∧ Reachable t.before ∧
      t.Valid Call.exec ∧ t.call = call := by
  obtain ⟨⟨ts, u⟩, hrun⟩ := Option.isSome_iff_exists.mp h
  have hpath := run_of_execute hrun
  simp only [execute] at hrun
  split at hrun
  · next events d' output hcall =>
      obtain ⟨rfl, rfl⟩ := Prod.mk.inj (Option.some.inj hrun)
      have hreach : Reachable benchAdmitted := reachable_reachedBy _
      exact ⟨_, by simp only [execute, hcall, Option.map_some], hreach,
        (Run.first hpath).2.1, rfl⟩
  · cases hrun

/-- The bench profile passes validation. -/
example : (validateConfig benchProfile).isOk = true := by decide +kernel

end Ldc1614
