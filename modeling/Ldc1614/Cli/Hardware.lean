import Ldc1614.Cli.Commit
import Ldc1614.Guarantees.Trust

/-! # The copy and the hardware

What the command line shows as committed and applied is in the registers of the device, whatever is
typed, whatever its sessions do and whatever the transport answers. -/

namespace Ldc1614.CommandLine.Staging

open Interaction

variable {s u : Staging} {defaults again : Config} {argv : Argv}

/-! ### What a command line asks of the driver -/

/-- The driver is as it was, or has made one call without the bus. It keeps the binding, or makes or
drops it. -/
def Asks (d d' : Driver) : Prop :=
  d' = d ∨ ∃ call output, d.Quiet call output d' ∧
    (call.rebinds output = true ∨ d'.bound = d.bound)

/-- A commit asks for an update at most. -/
theorem commit_asks (s : Staging) : Asks s.device s.commit.1.device := by
  rcases commit_cases s with hsame | ⟨haccepted, hdevice, -⟩
  · rw [hsame]
    exact Or.inl rfl
  · have hquiet := Driver.quiet_updateDesiredConfig (d := s.device) s.stagedConfig
    rw [hdevice] at hquiet
    rw [haccepted]
    exact Or.inr ⟨_, _, hquiet, Or.inr rfl⟩

/-- `bind` asks for a binding at most. -/
theorem bind_asks (s : Staging) (argv : Argv) (defaults again : Config) :
    Asks s.device (s.handleBind argv defaults again).1.device := by
  unfold handleBind
  dsimp only
  split
  · exact Or.inl rfl
  · rcases bind_cases s.device defaults with ⟨hok, hdevice⟩ | ⟨hok, -⟩
    · rw [hok, hdevice]
      exact Or.inl rfl
    · have hquiet := Driver.quiet_bind (d := s.device) defaults
      split
      · exact Or.inr ⟨_, _, hquiet, Or.inl hok⟩
      · exact Or.inr ⟨_, _, hquiet, Or.inl hok⟩

/-- `end` asks for the end of the binding at most. -/
theorem end_asks (s : Staging) (argv : Argv) : Asks s.device (s.handleEnd argv).1.device := by
  unfold handleEnd
  split
  · exact Or.inl rfl
  · exact Or.inr ⟨_, _, .ended, Or.inl rfl⟩

/-- A command line asks for no more than one of these. -/
theorem processCommand_asks (s : Staging) (working : Bool) (defaults again : Config) (argv : Argv) :
    Asks s.device (s.processCommand working defaults again argv).1.device := by
  have hensured := ensure_device s defaults
  have hkept {d : Driver} (h : d = s.device) : Asks s.device d := Or.inl h
  refine processCommand_cases (P := fun result => Asks s.device result.1.device)
    (fun _ => hkept rfl) (fun _ => hkept hensured) ?_ ?_ (fun _ => bind_asks s argv defaults again)
    (fun _ => end_asks s argv)
  · intro id setting _
    exact hkept (handleSetting_device s id setting argv defaults)
  · intro _
    refine handleProfile_cases (P := fun result => Asks s.device result.1.device)
      (fun _ => hkept rfl) (fun _ => hkept hensured) (hkept hensured) (hkept hensured) ?_
    have hasks := commit_asks (s.ensureStagedProfile defaults)
    rw [hensured] at hasks
    exact hasks

/-! ### Next to the registers -/

/-- What an event may leave in the registers of the device: a call of the driver what its exchanges
leave, a command line what was there, unless it makes or drops the binding. -/
def Event.Serves : Event → Staging → Staging → Registers → Registers → Prop
  | .device t, _, _, dev, dev' => DeviceRun dev (marks t) dev'
  | .command _ _ _ _ _, s, u, dev, dev' =>
      u.device.bound = s.device.bound → SameConfiguration dev dev'

/-- One step of the command line and of the device. -/
structure Deployed (m : Staging × Registers) (event : Event) (m' : Staging × Registers) : Prop where
  step : Step m.1 event m'.1
  serves : event.Serves m.1 m'.1 m.2 m'.2

/-- What a command line asks for keeps the mirror. -/
theorem mirrors_of_asks {d d' : Driver} {dev dev' : Registers} (hm : Mirrors d dev)
    (hw : d.WellFormed) (h : Asks d d') (hdev : d'.bound = d.bound → SameConfiguration dev dev') :
    Mirrors d' dev' := by
  rcases h with rfl | ⟨call, output, hquiet, hbinding⟩
  · exact hm.same hw (hdev rfl) rfl rfl rfl rfl
  · refine hm.quiet hw hquiet ?_
    rcases hbinding with hrebinds | hbound
    · exact .rebound hrebinds
    · exact .idle (hdev hbound)

/-- Every step keeps the mirror. -/
theorem mirrors_of_deployed {m m' : Staging × Registers} {event : Event}
    (hm : Mirrors m.1.device m.2) (hw : m.1.device.WellFormed) (h : Deployed m event m') :
    Mirrors m'.1.device m'.2 := by
  obtain ⟨s, dev⟩ := m
  obtain ⟨u, dev'⟩ := m'
  obtain ⟨hstep, hserves⟩ := h
  cases hstep with
  | command working defaults again argv =>
      -- nothing goes over the bus
      exact mirrors_of_asks hm hw (processCommand_asks s working defaults again argv) hserves
  | device t hv hbefore hcall =>
      have hpath := transition_path t (hbefore ▸ hw) hv
      rw [hbefore] at hpath
      exact hm.path hw hpath hserves

/-- **What is shown is what is there.** The command line starts before its copy is made, on a driver
that claims nothing and does nothing: one just constructed, or one that `setup` has bound directly.
Whenever the copy is not marked as edited and the driver says that its profile is applied, the
registers of the device hold the copy. -/
theorem clean_copy_held {s u : Staging} {events : List Event} {dev dev' : Registers}
    (hs : Reachable s.device) (hunknown : s.device.appliedState = .unknown)
    (hidle : s.device.progress.active = false) (hfresh : s.stagedInitialized = false)
    (hdirty : s.stagedDirty = false) (h : Path Deployed (s, dev) events (u, dev'))
    (hmade : u.stagedInitialized = true) (hclean : u.stagedDirty = false) :
    (u.device.appliedState = .appliedSleeping → Holds u.stagedConfig true dev') ∧
      (u.device.appliedState = .appliedActive → Holds u.stagedConfig false dev') := by
  have hstart : s.Aligned ∧ Mirrors s.device dev :=
    ⟨aligned_of_fresh hs.wellFormed hfresh hdirty, mirrors_of_unknown hunknown hidle dev⟩
  obtain ⟨haligned, hmirrors⟩ : u.Aligned ∧ Mirrors u.device dev' := by
    refine h.invariant (I := fun m => m.1.Aligned ∧ Mirrors m.1.device m.2) hstart ?_
    rintro m event m' ⟨ha, hm⟩ hstep
    exact ⟨ha.step hstep.step, mirrors_of_deployed hm ha.sound hstep⟩
  -- an unbound driver claims nothing
  have hcopy (hknown : u.device.appliedState ≠ .unknown) : u.stagedConfig = u.device.config := by
    refine haligned.clean hmade hclean ?_
    by_contra hfree
    exact hknown (haligned.sound.unbound (Bool.not_eq_true _ ▸ hfree)).2.1
  constructor
  · intro hasleep
    rw [hcopy (by rw [hasleep]; exact AppliedConfigState.noConfusion)]
    exact hmirrors.trusted true (by rw [hasleep]; rfl)
  · intro hawake
    rw [hcopy (by rw [hawake]; exact AppliedConfigState.noConfusion)]
    exact hmirrors.trusted false (by rw [hawake]; rfl)

/-! ### A bench -/

/-- Make driver calls on behalf of sessions. -/
def served (s : Staging) (calls : List (Call × List Reply)) : Staging :=
  { s with device := ((execute s.device calls).map Prod.snd).getD s.device }

/-- They are steps next to a device that takes the writes. -/
theorem path_served (s : Staging) (calls : List (Call × List Reply)) (dev : Registers)
    (h : ((execute s.device calls).map fun run => run.1.all fun t => !t.call.setsProfile) =
      some true) : ∃ events dev', Path Deployed (s, dev) events (s.served calls, dev') := by
  obtain ⟨⟨ts, d⟩, hresult, hall⟩ := Option.map_eq_some_iff.mp h
  have hserved : s.served calls = { s with device := d } := by
    rw [served, hresult]
    rfl
  have hrun := run_of_execute hresult
  rw [hserved]
  clear hserved hresult h
  induction ts using List.reverseRecOn generalizing d with
  | nil =>
      obtain rfl := Path.of_nil hrun
      exact ⟨[], dev, .nil⟩
  | append_singleton past t ih =>
      rw [List.all_append, Bool.and_eq_true] at hall
      obtain ⟨hbefore, hv, rfl⟩ := Run.last hrun
      obtain ⟨events, dev', hpath⟩ := ih t.before hall.1 hbefore
      have hcall : t.call.setsProfile = false := by simpa using hall.2
      exact ⟨_, _, hpath.snoc ⟨.device _ t hv rfl hcall, deviceRun_foldl dev' (marks t)⟩⟩

/-- A command line of an idle command line is a step. -/
theorem path_command (s : Staging) (dev : Registers) (defaults again : Config) (argv : Argv) :
    ∃ events, Path Deployed (s, dev) events
      ((s.processCommand false defaults again argv).1, dev) :=
  ⟨_, .single ⟨.command s false defaults again argv, fun _ => .refl dev⟩⟩

/-- The replies to the writes of a replay. -/
def benchWrites : List Reply := List.replicate 13 (replied 0 0)

/-- The command line behind the `bind` of `setup`. -/
def benchSetup : Staging := { device := reachedBy [(.bind benchProfile, [])] }

def benchStarted : Staging :=
  benchSetup.served [(.startInitialize 7 1000, []),
    (.poll 10 15, replied 0x54 0x49 :: replied 0x30 0x55 :: benchWrites)]

def benchSet : Staging := (benchStarted.processCommand false {} {} ["deglitch", "3"]).1

def benchCommitted : Staging :=
  (benchSet.processCommand false {} {} ["profile", "commit", "confirm"]).1

def benchApplied : Staging :=
  benchCommitted.served
    [(.takeResult, []), (.startApplyConfig 8 2000, []), (.poll 20 13, benchWrites)]

/-- A setting that has been committed and applied is in the registers. -/
theorem clean_copy_held_bench : ∃ events dev', Path Deployed (benchSetup, resetRegisters) events
      (benchApplied, dev') ∧ benchApplied.stagedConfig = { benchProfile with deglitch := .bw3Mhz } ∧
    Holds benchApplied.stagedConfig true dev' := by
  obtain ⟨events₁, dev₁, h₁⟩ := path_served benchSetup
    [(.startInitialize 7 1000, []),
      (.poll 10 15, replied 0x54 0x49 :: replied 0x30 0x55 :: benchWrites)] resetRegisters
    (by decide +kernel)
  obtain ⟨events₂, h₂⟩ := path_command benchStarted dev₁ {} {} ["deglitch", "3"]
  obtain ⟨events₃, h₃⟩ := path_command benchSet dev₁ {} {} ["profile", "commit", "confirm"]
  obtain ⟨events₄, dev₄, h₄⟩ := path_served benchCommitted
    [(.takeResult, []), (.startApplyConfig 8 2000, []), (.poll 20 13, benchWrites)] dev₁
    (by decide +kernel)
  have hpath := ((h₁.append h₂).append h₃).append h₄
  have hreach : Reachable benchSetup.device := reachable_reachedBy [(.bind benchProfile, [])]
  refine ⟨_, _, hpath, by decide +kernel, ?_⟩
  exact (clean_copy_held hreach (by decide +kernel) (by decide +kernel) rfl rfl
    hpath (by decide +kernel) (by decide +kernel)).1 (by decide +kernel)

end Ldc1614.CommandLine.Staging
