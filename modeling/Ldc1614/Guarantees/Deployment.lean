import Ldc1614.Guarantees.RegisterSafety
import Ldc1614.Guarantees.Trust
import Ldc1614.Transport.Wire

/-! # The driver on an ESP32

The driver whose callbacks are those of the transport, over ESP-IDF and the wire, with the
application that opens, recovers and reconfigures the bus whenever it likes. What the driver believes
of the device does not rest on what a callback is free to report: it follows from what ESP-IDF does. -/

namespace Ldc1614.Esp32I2c

open Interaction

/-- The call of the transport behind a callback. -/
def callbackCall : Request → TransportCall
  | .i2cWrite _ address data timeoutMs _ => .write address data timeoutMs
  | .i2cWriteRead _ address txData rxLength timeoutMs _ =>
      .writeRead address txData rxLength timeoutMs
  | .intbAsserted _ _ => .intbAsserted

/-- What a callback returns to the driver. -/
def TransportOutput.reply (output : TransportOutput) : Reply :=
  { status := output.status
    rxHigh := output.rx.getD 0 0
    rxLow := output.rx.getD 1 0
    asserted := output.asserted }

/-! ### Deployments -/

/-- One event of a deployment. -/
inductive DeploymentTick where
  /-- A callback of the driver, served by the transport. -/
  | callback (call : Call) (event : Event) (t : TransportTransition)
  /-- A call of the driver returned. -/
  | ret (call : Call) (output : Output)
  /-- A call of the transport by the application. -/
  | owner (t : TransportTransition)

namespace DeploymentTick

/-- The mark on the timeline of the driver. -/
def mark : DeploymentTick → Option Mark
  | callback call event _ => some (.bus call event)
  | ret call output => some (.ret call output)
  | owner _ => none

/-- The call of the transport. -/
def transition : DeploymentTick → Option TransportTransition
  | callback _ _ t => some t
  | ret _ _ => none
  | owner t => some t

/-- The callbacks of the driver are passed on as they are, and the application writes to the device
through the driver only. -/
def Proper : DeploymentTick → Prop
  | callback _ event t => t.call = callbackCall event.1 ∧ event.2 = t.output.reply
  | ret _ _ => True
  | owner t => t.call.sends = none

end DeploymentTick

/-- A run of the driver from construction on, over a run of the transport from a context that was
never opened, over ESP-IDF and the registers of the device at the address of the context. -/
structure Deployment (address : U8) (intb : ℤ) (dev₀ : Registers) (ts : List DriverTransition)
    (ticks : List DeploymentTick) (d : Driver) (c : Context) (w : EspState × Registers) : Prop where
  driver : DriverRun Driver.initial ts d
  transport : TransportRun { address := address, intb := intb }
    (ticks.filterMap DeploymentTick.transition) c
  wire : Path (Wire address).Step ({}, dev₀)
    (exchange (ticks.filterMap DeploymentTick.transition)) w
  marks : ticks.filterMap DeploymentTick.mark = timeline ts
  proper : ∀ tick ∈ ticks, tick.Proper

section Deployment

variable {address : U8} {intb : ℤ} {dev₀ : Registers} {ts : List DriverTransition}
  {ticks : List DeploymentTick} {tick : DeploymentTick} {origin c : Context} {d d' : Driver}
  {w w' : EspState × Registers} {t : TransportTransition} {call : Call} {event : Event}

/-- The transport keeps its contract in a deployment, and is next to the device. -/
theorem Deployment.calls (h : Deployment address intb dev₀ ts ticks d c w) :
    Path (WireCall { address := address, intb := intb }) ({}, dev₀)
      (ticks.filterMap DeploymentTick.transition) w := by
  have hcall (call : TransportCall) (c : Context) (w : EspState × Registers) (_ : True)
      (howns : Owns { address := address, intb := intb } c w.1) :
      (call.exec c).Meets (Wire address) (fun w => Permits call c w.1) w fun out w' =>
        Owns { address := address, intb := intb } out.1 w'.1 ∧ True := by
    refine ((call.exec_meets howns).along fun w request reply w' hwire => hwire.1).imp ?_
    exact fun out w' hout => ⟨hout.1, trivial⟩
  exact (Run.beside hcall (owns_fresh address intb) (fun _ _ => trivial) h.transport h.wire).1

/-- A callback that the transport serves is a step of the device. -/
theorem deviceStep_of_callback {config : Config} (hpermitted : event.1.Permitted config)
    (h : WireCall origin w t w') (hcall : t.call = callbackCall event.1)
    (hreply : event.2 = t.output.reply) : DeviceStep w.2 (.bus call event) w'.2 := by
  obtain ⟨request, reply⟩ := event
  obtain rfl : reply = t.output.reply := hreply
  cases request with
  | i2cWrite callback target data timeoutMs user =>
      obtain ⟨-, -, -, reg, high, low, rfl, -⟩ := hpermitted
      exact .transfer rfl (leaves_of_call h hcall)
  | i2cWriteRead callback target txData rxLength timeoutMs user =>
      obtain ⟨-, -, -, -, reg, rfl, -⟩ := hpermitted
      exact .transfer rfl (.read (same_of_call h (by rw [hcall]; rfl)))
  | intbAsserted callback user =>
      exact .observe rfl (same_of_call h (by rw [hcall]; rfl))

/-- **Every tick keeps the mirror.** -/
theorem mirrors_of_tick (hm : Mirrors d w.2) (hw : d.WellFormed)
    (hstep : Stutters Step DeploymentTick.mark d tick d')
    (hwire : Stutters (WireCall origin) DeploymentTick.transition w tick w')
    (hproper : tick.Proper) : Mirrors d' w'.2 := by
  cases tick with
  | callback call event t =>
      obtain ⟨mark, hmark, hstep⟩ | ⟨hmark, -⟩ := hstep
      · obtain rfl := Option.some.inj hmark
        obtain ⟨t', ht, hcall⟩ | ⟨ht, -⟩ := hwire
        · obtain rfl := Option.some.inj ht
          have hdev : DeviceStep w.2 (.bus call event) w'.2 :=
            deviceStep_of_callback (hstep.permitted hw).2 hcall hproper.1 hproper.2
          exact hm.step hw hstep hdev
        · cases ht
      · cases hmark
  | ret call output =>
      obtain ⟨mark, hmark, hstep⟩ | ⟨hmark, -⟩ := hstep
      · obtain rfl := Option.some.inj hmark
        obtain ⟨t', ht, -⟩ | ⟨-, rfl⟩ := hwire
        · cases ht
        · exact hm.step hw hstep (.idle (.refl _))
      · cases hmark
  | owner t =>
      obtain ⟨mark, hmark, -⟩ | ⟨-, rfl⟩ := hstep
      · cases hmark
      · obtain ⟨t', ht, hcall⟩ | ⟨ht, -⟩ := hwire
        · obtain rfl := Option.some.inj ht
          exact hm.same hw (same_of_call hcall hproper) rfl rfl rfl rfl
        · cases ht

/-- The driver of a deployment mirrors the device. -/
theorem Deployment.mirrors (h : Deployment address intb dev₀ ts ticks d c w) : Mirrors d w.2 := by
  have hdriver := run_path Driver.wellFormed_initial h.driver
  rw [← h.marks] at hdriver
  have hpath := (hdriver.stutter.both h.calls.stutter).restrict h.proper
  have hinvariant : d.WellFormed ∧ Mirrors d w.2 := by
    refine hpath.invariant
      (I := fun m : Driver × EspState × Registers => m.1.WellFormed ∧ Mirrors m.1 m.2.2)
      ⟨Driver.wellFormed_initial, mirrors_of_unknown rfl rfl _⟩ ?_
    rintro m tick m' ⟨hw, hm⟩ ⟨⟨hstep, hwire⟩, hproper⟩
    refine ⟨?_, mirrors_of_tick hm hw hstep hwire hproper⟩
    obtain ⟨mark, -, hstep⟩ | ⟨-, hsame⟩ := hstep
    · exact hstep.wellFormed hw
    · rw [hsame]
      exact hw
  exact hinvariant.2

/-- **Trust is sound over the wire.** In every deployment, whatever ESP-IDF answers and whatever
becomes of the transmissions that fail, however the application opens, closes, recovers and
reconfigures the bus and searches it in between: when the applied state is `APPLIED_SLEEPING`, the
registers of the device hold the profile asleep, and when it is `APPLIED_ACTIVE`, they hold it
awake. -/
theorem trust_sound_deployed (h : Deployment address intb dev₀ ts ticks d c w) :
    (d.appliedState = .appliedSleeping → Holds d.config true w.2) ∧
      (d.appliedState = .appliedActive → Holds d.config false w.2) := by
  refine ⟨fun hstate => h.mirrors.trusted true ?_, fun hstate => h.mirrors.trusted false ?_⟩
  · rw [hstate]
    rfl
  · rw [hstate]
    rfl

end Deployment

/-! ### A bench -/

/-- The ticks of a timeline whose callbacks these calls of the transport serve. -/
def attend : List Mark → List TransportTransition → List DeploymentTick
  | .bus call event :: marks, t :: us => .callback call event t :: attend marks us
  | .ret call output :: marks, us => .ret call output :: attend marks us
  | _, _ => []

/-- These calls of the transport serve the callbacks of the timeline. -/
def attends : List Mark → List TransportTransition → Bool
  | .bus _ event :: marks, t :: us =>
      t.call == callbackCall event.1 && event.2 == t.output.reply && attends marks us
  | .ret _ _ :: marks, us => attends marks us
  | [], [] => true
  | _, _ => false

/-- The ticks are those of both. -/
theorem attend_spec {marks : List Mark} {us : List TransportTransition}
    (h : attends marks us = true) : (attend marks us).filterMap DeploymentTick.mark = marks ∧
      (attend marks us).filterMap DeploymentTick.transition = us ∧
      ∀ tick ∈ attend marks us, tick.Proper := by
  induction marks generalizing us with
  | nil =>
      cases us with
      | nil => exact ⟨rfl, rfl, fun tick htick => by cases htick⟩
      | cons => cases h
  | cons mark marks ih =>
      cases mark with
      | bus call event =>
          cases us with
          | nil => cases h
          | cons t us =>
              simp only [attends, Bool.and_eq_true, beq_iff_eq] at h
              obtain ⟨⟨hcall, hreply⟩, hrest⟩ := h
              obtain ⟨hmarks, htransitions, hproper⟩ := ih hrest
              refine ⟨congrArg (Mark.bus call event :: ·) hmarks,
                congrArg (t :: ·) htransitions, fun tick htick => ?_⟩
              rcases List.mem_cons.mp htick with rfl | htick
              · exact ⟨hcall, hreply⟩
              · exact hproper tick htick
      | ret call output =>
          obtain ⟨hmarks, htransitions, hproper⟩ := ih (show attends marks us = true from h)
          refine ⟨congrArg (Mark.ret call output :: ·) hmarks, htransitions, fun tick htick => ?_⟩
          rcases List.mem_cons.mp htick with rfl | htick
          · exact trivial
          · exact hproper tick htick

/-- The ticks of the application alone. -/
theorem owner_spec (us : List TransportTransition) :
    (us.map DeploymentTick.owner).filterMap DeploymentTick.mark = [] ∧
      (us.map DeploymentTick.owner).filterMap DeploymentTick.transition = us := by
  induction us with
  | nil => exact ⟨rfl, rfl⟩
  | cons t us ih => exact ⟨ih.1, congrArg (t :: ·) ih.2⟩

/-- The ticks of a bench: the first calls are those of the application, and the others serve the
driver. -/
def benchTicks (owned : ℕ) (ts : List DriverTransition) (us : List TransportTransition) :
    List DeploymentTick :=
  (us.take owned).map .owner ++ attend (timeline ts) (us.drop owned)

/-- The calls of a bench are those a deployment may make. -/
def deploys (owned : ℕ) (ts : List DriverTransition) (us : List TransportTransition) : Bool :=
  (us.take owned).all (fun t => t.call.sends == none) && attends (timeline ts) (us.drop owned)

/-- The ticks of a bench are those of both. -/
theorem benchTicks_spec {owned : ℕ} {ts : List DriverTransition} {us : List TransportTransition}
    (h : deploys owned ts us = true) :
    (benchTicks owned ts us).filterMap DeploymentTick.mark = timeline ts ∧
      (benchTicks owned ts us).filterMap DeploymentTick.transition = us ∧
      ∀ tick ∈ benchTicks owned ts us, tick.Proper := by
  simp only [deploys, Bool.and_eq_true, List.all_eq_true, beq_iff_eq] at h
  obtain ⟨hsends, hattends⟩ := h
  obtain ⟨hmarks, htransitions, hproper⟩ := attend_spec hattends
  obtain ⟨hnone, howners⟩ := owner_spec (us.take owned)
  refine ⟨?_, ?_, fun tick htick => ?_⟩
  · rw [benchTicks, List.filterMap_append, hnone, List.nil_append, hmarks]
  · rw [benchTicks, List.filterMap_append, howners, htransitions, List.take_append_drop]
  · rcases List.mem_append.mp htick with howned | hserved
    · obtain ⟨t, ht, rfl⟩ := List.mem_map.mp howned
      exact hsends t ht
    · exact hproper tick hserved

/-- An initialization that fails in its second profile write. -/
def benchLost : List (Call × List Reply) :=
  [(.bind benchProfile, []), (.startInitialize 7 1000, []),
    (.poll 10 4, [replied 0x54 0x49, replied 0x30 0x55, replied 0 0,
      { status := mapTransactionErr espErrInvalidState "I2C write failed" }])]

/-- Another one behind it, and a wake. -/
def benchRetried : List (Call × List Reply) :=
  benchLost ++ [(.takeResult, []), (.startInitialize 8 2000, []),
    (.poll 20 15, replied 0x54 0x49 :: replied 0x30 0x55 :: List.replicate 13 (replied 0 0)),
    (.wake, [replied 0 0])]

/-- The bus is opened at the second attempt, and an address is searched. -/
def benchOpened : TransportScript :=
  [(.open_ benchBus, [{ handle := 1 }, { err := espErrNoMem }, {}]),
    (.open_ benchBus, [{ handle := 1 }, { handle := 2 }]),
    (.readRegisterAt 0x2B 0x7E 50, [{ handle := 3 }, { err := espErrInvalidState }])]

/-- Behind some calls of the application those that serve the driver, answered by ESP-IDF as the
driver was told. -/
def benchServed (owned : TransportScript) (ts : List DriverTransition) : TransportScript :=
  owned ++ (exchange ts).map fun event =>
    (callbackCall event.1,
      [{ err := event.2.status.detail, rx := [event.2.rxHigh, event.2.rxLow] }])

/-- What the bench leaves of ESP-IDF and the device. -/
def benchWire (ts : List DriverTransition) : Option (EspState × Registers) :=
  (exchange (played {} (benchServed benchOpened ts)).1).foldlM (wireAfter 0x2A) ({}, resetRegisters)

/-- The bench is a deployment. -/
theorem deployment_of_bench {ts : List DriverTransition} {d : Driver} {w : EspState × Registers}
    (hdriver : DriverRun Driver.initial ts d)
    (hdeploys : deploys 3 ts (played {} (benchServed benchOpened ts)).1 = true)
    (hwire : benchWire ts = some w) :
    Deployment 0x2A gpioNumNc resetRegisters ts
      (benchTicks 3 ts (played {} (benchServed benchOpened ts)).1) d
      (played {} (benchServed benchOpened ts)).2 w := by
  obtain ⟨hmarks, hcalls, hproper⟩ := benchTicks_spec hdeploys
  refine ⟨hdriver, ?_, ?_, hmarks, hproper⟩
  · rw [hcalls]
    exact run_played {} (benchServed benchOpened ts)
  · rw [hcalls]
    exact path_of_foldlM (fun _ _ _ => wire_of_after) hwire

/-- The bench ends in a trusted profile. -/
theorem trust_sound_deployed_awake : ∃ ts ticks d c w,
    Deployment 0x2A gpioNumNc resetRegisters ts ticks d c w ∧ d.appliedState = .appliedActive ∧
      Holds d.config false w.2 := by
  have hbench : (execute Driver.initial benchRetried).any (fun out =>
      out.2.appliedState == .appliedActive &&
      deploys 3 out.1 (played {} (benchServed benchOpened out.1)).1 &&
      (benchWire out.1).isSome) = true := by decide +kernel
  obtain ⟨⟨ts, d⟩, hexecute, hfacts⟩ := (Option.any_eq_true _ _).mp hbench
  simp only [Bool.and_eq_true, beq_iff_eq] at hfacts
  obtain ⟨⟨hstate, hdeploys⟩, hwire⟩ := hfacts
  obtain ⟨w, hwire⟩ := Option.isSome_iff_exists.mp hwire
  have hdeployment := deployment_of_bench (run_of_execute hexecute) hdeploys hwire
  exact ⟨ts, _, d, _, w, hdeployment, hstate, (trust_sound_deployed hdeployment).2 hstate⟩

end Ldc1614.Esp32I2c
