import Ldc1614.Guarantees.Deployment
import Ldc1614.Guarantees.Recovery

/-! # Recovery over the wire

The driver over the transport over ESP-IDF, next to the behavioural device. Whatever has failed
before: once ESP-IDF fails no call any more, the application recovers the bus, and one replay brings
driver and device back together. -/

namespace Ldc1614.Esp32I2c

open Cmd Interaction

/-! ### Handles and addresses -/

/-- No two devices have the same handle. -/
def Distinct (e : EspState) : Prop :=
  e.devices.Pairwise fun slot slot' => slot.device ≠ slot'.device

/-- A handle is of one address. -/
theorem Distinct.at_unique {e : EspState} {device : Handle} {address address' : U8} (h : Distinct e)
    (hat : At e device address) (hat' : At e device address') : address = address' := by
  obtain ⟨slot, hslot, hdevice, rfl⟩ := hat
  obtain ⟨slot', hslot', hdevice', rfl⟩ := hat'
  by_contra hne
  have hslots : slot ≠ slot' := fun hsame => hne (hsame ▸ rfl)
  have hsymmetric : Std.Symm fun slot slot' : Slot => slot.device ≠ slot'.device :=
    ⟨fun _ _ hne => hne.symm⟩
  exact List.Pairwise.forall h hslot hslot' hslots (hdevice.trans hdevice'.symm)

/-- ESP-IDF keeps handles distinct. -/
theorem Distinct.answers {mayFail : Prop} {e e' : EspState} {request : EspRequest}
    {reply : EspReply} (h : Distinct e) (hanswers : EspIdf mayFail e request reply e') :
    Distinct e' := by
  cases hanswers with
  | deviceAdded _ hfresh =>
      exact List.pairwise_cons.mpr ⟨fun slot hslot => (hfresh slot hslot).symm, h⟩
  | deviceRemoved => exact List.Pairwise.filter _ h
  | _ => exact h

/-- The handles of a sound context are distinct. -/
theorem Context.Sound.distinct {c : Context} (h : c.Sound) : Distinct c.owned := by
  unfold Distinct
  cases hbus : c.bus with
  | none => simp [owned, slots, hbus]
  | some bus =>
      cases hdiscovery : c.discoveryDevice with
      | none => cases hdevice : c.device <;> simp [owned, slots, hbus, hdiscovery, hdevice]
      | some other =>
          have hapart := h.apart other hdiscovery
          cases hdevice : c.device with
          | none => simp [owned, slots, hbus, hdiscovery, hdevice]
          | some device =>
              have hne : other ≠ device := fun hsame => hapart (hsame ▸ hdevice)
              simp [owned, slots, hbus, hdiscovery, hdevice, hne]

/-! ### The behavioural device on the wire -/

/-- The handle of the device a request transfers with. -/
def EspRequest.handle : EspRequest → Option Handle
  | .transmit device _ _ | .transmitReceive device _ _ _ => some device
  | _ => none

/-- What a call of ESP-IDF that does not fail does with the device at this address. -/
inductive Live (address : U8) (e : EspState) (dev : FakeLdc1614Device) :
    EspRequest → EspReply → FakeLdc1614Device → Prop
  | written {device data timeoutMs reply} (hat : At e device address) :
      Live address e dev (.transmit device data timeoutMs) reply (dev.write address data none).1
  | read {device txData rxLength timeoutMs reply} (hat : At e device address)
      (hrx : reply.rx = [(dev.writeRead address txData rxLength none).2.rxHigh,
        (dev.writeRead address txData rxLength none).2.rxLow]) :
      Live address e dev (.transmitReceive device txData rxLength timeoutMs) reply
        (dev.writeRead address txData rxLength none).1
  /-- The pin is at the level of INTB, which is active low. -/
  | level {pin reply} (hlevel : (reply.level == 0) = dev.intbAsserted) :
      Live address e dev (.getLevel pin) reply dev
  | elsewhere {request reply device} (hdevice : request.handle = some device)
      (hother : ¬ At e device address) : Live address e dev request reply dev
  | managed {request reply} (hmanages : request.transfers = false) :
      Live address e dev request reply dev

/-- The device behind these conversions. -/
def converted (dev : FakeLdc1614Device) (conversions : List Conversion) : FakeLdc1614Device :=
  conversions.foldl FakeLdc1614Device.injectConversion dev

/-- ESP-IDF that fails no call, and the behavioural device at this address, which converts at any
time. -/
def LiveWire (address : U8) : Environment (EspState × FakeLdc1614Device) EspRequest EspReply :=
  fun w request reply w' => EspIdf False w.1 request reply w'.1 ∧
    ∃ conversions, Live address w.1 (converted w.2 conversions) request reply w'.2

/-- A call on an attached context, next to the device at its address. -/
abbrev LiveCall (origin : Context) : EspState × FakeLdc1614Device → TransportTransition →
    EspState × FakeLdc1614Device → Prop :=
  Beside (LiveWire origin.address) (fun call c w => Permits call c w.1) TransportCall.exec
    (fun c w => Owns origin c w.1 ∧ c.Attached)
    fun call _ out => call.Sensible origin.address origin.intb → out.2.status.isOk = true

section Live

variable {address : U8} {origin c : Context} {w w' : EspState × FakeLdc1614Device}
  {dev dev' : FakeLdc1614Device} {t : TransportTransition} {events : List (EspRequest × EspReply)}
  {event : Event}

/-- Conversions are part of the life of the device. -/
theorem deviceLife_converted (conversions : List Conversion) (dev : FakeLdc1614Device) :
    DeviceLife dev (conversions.map Tick.conversion) (converted dev conversions) := by
  induction conversions generalizing dev with
  | nil => exact .nil
  | cons conversion conversions ih =>
      have hfirst : DeviceLife dev [.conversion conversion] (dev.injectConversion conversion) :=
        .single (.conversion conversion)
      exact hfirst.append (ih _)

/-- Further conversions. -/
theorem converted_append (dev : FakeLdc1614Device) (conversions more : List Conversion) :
    converted (converted dev conversions) more = converted dev (conversions ++ more) := by
  simp [converted]

/-- The device stays at its address. -/
theorem acceptedAddress_converted (conversions : List Conversion) (dev : FakeLdc1614Device) :
    (converted dev conversions).acceptedAddress = dev.acceptedAddress := by
  induction conversions generalizing dev with
  | nil => rfl
  | cons conversion conversions ih =>
      have hframe := dev.injectConversion_frame conversion
      exact (ih (dev.injectConversion conversion)).trans hframe.1

/-- A call that is about another address leaves the device alone. -/
theorem converted_of_call {call : TransportCall} (howns : Owns origin c w.1)
    (h : Path ((LiveWire address).Kept fun w => Permits call c w.1) w events w')
    (hother : call.target ≠ some address) : ∃ conversions, w'.2 = converted w.2 conversions := by
  have key : Distinct w'.1 ∧ ∃ conversions, w'.2 = converted w.2 conversions := by
    refine h.invariant
      (I := fun m => Distinct m.1 ∧ ∃ conversions, m.2 = converted w.2 conversions)
      ⟨howns.state ▸ howns.sound.distinct, [], rfl⟩ ?_
    rintro m ⟨request, reply⟩ m' ⟨hdistinct, conversions, hm⟩ ⟨hpermits, hanswers, more, hlive⟩
    refine ⟨hdistinct.answers hanswers, conversions ++ more, ?_⟩
    rw [hm, converted_append] at hlive
    -- its transfers go to another address
    have hnever {device : Handle} (hreaches : Reaches call c m.1 device)
        (hat : At m.1 device address) : False := by
      obtain ⟨slot, hslot, hdevice, htarget, -⟩ := hreaches
      have hsame := hdistinct.at_unique ⟨slot, hslot, hdevice, rfl⟩ hat
      rw [hsame] at htarget
      exact hother htarget
    generalize converted w.2 (conversions ++ more) = dev at hlive ⊢
    generalize m'.2 = dev' at hlive ⊢
    cases hlive with
    | written hat => exact (hnever hpermits.2.2 hat).elim
    | read hat => exact (hnever hpermits.2.2.2 hat).elim
    | _ => rfl
  exact key.2

/-- A single request of a call. -/
theorem live_of_single {request : EspRequest} {reply : EspReply} (h : LiveCall origin w t w')
    (hevents : t.events = [(request, reply)]) :
    Permits t.call t.before w.1 request ∧ EspIdf False w.1 request reply w'.1 ∧
      ∃ conversions, Live origin.address w.1 (converted w.2 conversions) request reply w'.2 := by
  have hkept := h.kept
  rw [hevents] at hkept
  exact hkept.of_single

/-- A transfer of a call about the address of the device goes there. -/
theorem at_of_reaches {call : TransportCall} {e : EspState} {device : Handle}
    (hreaches : Reaches call c e device) (htarget : call.target = some address) :
    At e device address := by
  obtain ⟨slot, hslot, hdevice, haddress, -⟩ := hreaches
  exact ⟨slot, hslot, hdevice, Option.some.inj (haddress.symm.trans htarget)⟩

/-- **A write callback** is served by the device. -/
theorem serve_of_write {callback : Callback} {target reg high low : U8} {timeoutMs : U32}
    {user : Ldc1614.Context} (h : LiveCall origin w t w')
    (hcall : t.call = .write target [reg, high, low] timeoutMs) (htarget : target = origin.address)
    (haccepts : w.2.acceptedAddress = origin.address) :
    ∃ conversions, (converted w.2 conversions).serve
      (.i2cWrite callback target [reg, high, low] timeoutMs user) none =
        (w'.2, t.output.reply) := by
  have hv := h.valid
  have hok := h.output
  rw [Transition.Valid, hcall] at hv
  rw [hcall] at hok
  obtain ⟨first, out, rest, hevents, hwrite, rfl, hend⟩ := Program.yields_bind.mp hv
  have hstatus : t.output = { status := out.2 } := congrArg Prod.snd hend
  rcases yields_write hwrite with ⟨-, hfailed⟩ | ⟨device, reply, rfl, -, hreport⟩
  · have hserved := hok ⟨htarget, List.cons_ne_nil _ _⟩
    rw [hstatus, hfailed] at hserved
    cases hserved
  · obtain ⟨hpermits, hanswers, conversions, hlive⟩ := live_of_single h hevents
    obtain ⟨-, hgood | hnever⟩ := hanswers.transfer rfl
    · have hat := at_of_reaches hpermits.2.2 (by rw [hcall, htarget]; rfl)
      refine ⟨conversions, ?_⟩
      have haccepted := (acceptedAddress_converted conversions w.2).trans haccepts
      rw [hstatus, hreport, mapTransactionErr_ok hgood, htarget]
      generalize converted w.2 conversions = dev at hlive haccepted ⊢
      generalize w'.2 = dev' at hlive ⊢
      cases hlive with
      | written _ =>
          refine Prod.ext rfl ?_
          show (dev.write origin.address [reg, high, low] none).2 = _
          rw [FakeLdc1614Device.write, if_neg (not_not.mpr haccepted.symm)]
          rfl
      | elsewhere hdevice hother =>
          obtain rfl := Option.some.inj hdevice
          exact absurd hat hother
      | managed hmanages => cases hmanages
    · exact hnever.elim

/-- **A read callback** is served by the device. -/
theorem serve_of_writeRead {callback : Callback} {target reg : U8} {timeoutMs : U32}
    {user : Ldc1614.Context} (h : LiveCall origin w t w')
    (hcall : t.call = .writeRead target [reg] 2 timeoutMs) (htarget : target = origin.address)
    (haccepts : w.2.acceptedAddress = origin.address) :
    ∃ conversions, (converted w.2 conversions).serve
      (.i2cWriteRead callback target [reg] 2 timeoutMs user) none = (w'.2, t.output.reply) := by
  have hv := h.valid
  have hok := h.output
  rw [Transition.Valid, hcall] at hv
  rw [hcall] at hok
  obtain ⟨first, out, rest, hevents, hread, rfl, hend⟩ := Program.yields_bind.mp hv
  have hstatus : t.output = { status := out.2.1, rx := out.2.2 } := congrArg Prod.snd hend
  rcases yields_writeRead hread with ⟨-, hfailed⟩ | ⟨device, reply, rfl, hreport⟩
  · have hserved := hok ⟨htarget, List.cons_ne_nil _ _, by decide⟩
    rw [hstatus, hfailed] at hserved
    cases hserved
  · obtain ⟨hpermits, hanswers, conversions, hlive⟩ := live_of_single h hevents
    obtain ⟨-, hgood | hnever⟩ := hanswers.transfer rfl
    · have hat := at_of_reaches hpermits.2.2.2 (by rw [hcall, htarget]; rfl)
      refine ⟨conversions, ?_⟩
      have haccepted := (acceptedAddress_converted conversions w.2).trans haccepts
      rw [hstatus, hreport, mapTransactionErr_ok hgood, htarget]
      generalize converted w.2 conversions = dev at hlive haccepted ⊢
      generalize w'.2 = dev' at hlive ⊢
      cases hlive with
      | read _ hrx =>
          refine Prod.ext rfl ?_
          show (dev.writeRead origin.address [reg] 2 none).2 = _
          rw [hrx, FakeLdc1614Device.writeRead, if_neg (by decide),
            if_neg (not_not.mpr haccepted.symm)]
          rfl
      | elsewhere hdevice hother =>
          obtain rfl := Option.some.inj hdevice
          exact absurd hat hother
      | managed hmanages => cases hmanages
    · exact hnever.elim

/-- **A level callback** reads INTB of the device. -/
theorem serve_of_intbAsserted {callback : Callback} {user : Ldc1614.Context}
    (h : LiveCall origin w t w') (hcall : t.call = .intbAsserted) (hpin : origin.intb ≠ gpioNumNc) :
    ∃ conversions, (converted w.2 conversions).serve (.intbAsserted callback user) none =
      (w'.2, t.output.reply) := by
  have hv := h.valid
  have hintb := h.before.1.intb
  rw [Transition.Valid, hcall] at hv
  obtain ⟨first, out, rest, hevents, hlevel, rfl, hend⟩ := Program.yields_bind.mp hv
  obtain ⟨reply, rfl, rfl⟩ := yields_intbAsserted (by rw [hintb]; exact hpin) hlevel
  have houtput : t.output = { status := .ok, asserted := reply.level == 0 } :=
    congrArg Prod.snd hend
  obtain ⟨-, -, conversions, hlive⟩ := live_of_single h hevents
  refine ⟨conversions, ?_⟩
  rw [houtput]
  generalize converted w.2 conversions = dev at hlive ⊢
  generalize w'.2 = dev' at hlive ⊢
  cases hlive with
  | level hasserted =>
      rw [hasserted]
      rfl
  | elsewhere hdevice => cases hdevice
  | managed hmanages => cases hmanages

/-- **Every callback is served by the device.** -/
theorem serve_of_callback {config : Config} (h : LiveCall origin w t w')
    (hpermitted : event.1.Permitted config) (haddress : config.i2cAddress.raw = origin.address)
    (hcall : t.call = callbackCall event.1) (hreply : event.2 = t.output.reply)
    (hpin : callbackCall event.1 = .intbAsserted → origin.intb ≠ gpioNumNc)
    (haccepts : w.2.acceptedAddress = origin.address) :
    ∃ conversions, (converted w.2 conversions).serve event.1 none = (w'.2, event.2) := by
  obtain ⟨request, reply⟩ := event
  obtain rfl : reply = t.output.reply := hreply
  cases request with
  | i2cWrite callback target data timeoutMs user =>
      obtain ⟨-, htarget, -, reg, high, low, rfl, -⟩ := hpermitted
      exact serve_of_write h hcall (htarget.trans haddress) haccepts
  | i2cWriteRead callback target txData rxLength timeoutMs user =>
      obtain ⟨-, htarget, -, rfl, reg, rfl, -⟩ := hpermitted
      exact serve_of_writeRead h hcall (htarget.trans haddress) haccepts
  | intbAsserted callback user => exact serve_of_intbAsserted h hcall (hpin rfl)

end Live

/-! ### Service -/

/-- INTB is only observed where it has a pin, and what the application calls leaves the device alone
and the bus open. -/
def DeploymentTick.Spares (address : U8) (intb : ℤ) : DeploymentTick → Prop
  | callback _ event _ => callbackCall event.1 = .intbAsserted → intb ≠ gpioNumNc
  | ret _ _ => True
  | owner t => t.call ≠ .close ∧ t.call.target ≠ some address

/-- A run of the driver on from `s`, over a run of the transport on from `c`, over ESP-IDF that
fails no call and the behavioural device. -/
structure Service (address : U8) (intb : ℤ) (s : Driver) (c : Context)
    (w : EspState × FakeLdc1614Device) (ts : List DriverTransition) (ticks : List DeploymentTick)
    (u : Driver) (c' : Context) (w' : EspState × FakeLdc1614Device) : Prop where
  driver : DriverRun s ts u
  transport : TransportRun c (ticks.filterMap DeploymentTick.transition) c'
  wire : Path (LiveWire address).Step w (exchange (ticks.filterMap DeploymentTick.transition)) w'
  marks : ticks.filterMap DeploymentTick.mark = timeline ts
  proper : ∀ tick ∈ ticks, tick.Proper
  spares : ∀ tick ∈ ticks, tick.Spares address intb
  bound : ∀ t ∈ ts, t.call.bindsTo address t.output = true

section Service

variable {address : U8} {intb : ℤ} {origin c c' : Context} {s u d d' : Driver}
  {w w' : EspState × FakeLdc1614Device} {ts : List DriverTransition} {ticks : List DeploymentTick}
  {tick : DeploymentTick}

/-- No call of a service closes the bus. -/
theorem not_closes (hproper : tick.Proper) (hspares : tick.Spares address intb)
    {t : TransportTransition} (ht : tick.transition = some t) : t.call ≠ .close := by
  cases tick with
  | callback call event t' =>
      obtain rfl := Option.some.inj ht
      rw [hproper.1]
      obtain ⟨request, reply⟩ := event
      cases request <;> exact TransportCall.noConfusion
  | ret => cases ht
  | owner t' =>
      obtain rfl := Option.some.inj ht
      exact hspares.1

/-- The transport stays attached, and every call goes as specified. -/
theorem Service.calls (h : Service origin.address origin.intb s c w ts ticks u c' w')
    (howns : Owns origin c w.1) (hattached : c.Attached) :
    Path (LiveCall origin) w (ticks.filterMap DeploymentTick.transition) w' := by
  have hcall (call : TransportCall) (c : Context) (w : EspState × FakeLdc1614Device)
      (hcall : call ≠ .close) (hc : Owns origin c w.1 ∧ c.Attached) :
      (call.exec c).Meets (LiveWire origin.address) (fun w => Permits call c w.1) w
        fun out w' => (Owns origin out.1 w'.1 ∧ out.1.Attached) ∧
          (call.Sensible origin.address origin.intb → out.2.status.isOk = true) :=
    (TransportCall.exec_attached hcall hc).along fun w request reply w' hlive => hlive.1
  refine (Run.beside hcall ⟨howns, hattached⟩ (fun t ht => ?_) h.transport h.wire).1
  obtain ⟨tick, htick, htransition⟩ := List.mem_filterMap.mp ht
  exact not_closes (h.proper tick htick) (h.spares tick htick) htransition

/-- A driver stays attached to a device that converts. -/
theorem attached_converted {dev : FakeLdc1614Device} (ha : Attached address d dev)
    (conversions : List Conversion) : Attached address d (converted dev conversions) := by
  induction conversions generalizing dev with
  | nil => exact ha
  | cons conversion conversions ih =>
      exact ih ⟨ha.wellFormed, ha.addressed, ha.identified.inject conversion⟩

/-- **Every tick is a part of the life of the device**, in which no failure is forced. -/
theorem life_of_tick (ha : Attached origin.address d w.2)
    (hstep : Stutters Step DeploymentTick.mark d tick d')
    (hlive : Stutters (LiveCall origin) DeploymentTick.transition w tick w')
    (hproper : tick.Proper) (hspares : tick.Spares origin.address origin.intb)
    (hbinds : ∀ mark ∈ tick.mark, mark.bindsTo origin.address = true) :
    Attached origin.address d' w'.2 ∧ ∃ life, DeviceLife w.2 life w'.2 ∧
      life.filterMap Tick.mark = tick.mark.toList ∧ ∀ tick ∈ life, tick.forced = none := by
  have hsilent (conversions : List Conversion) :
      (conversions.map Tick.conversion).filterMap Tick.mark = [] ∧
        ∀ tick ∈ conversions.map Tick.conversion, tick.forced = none := by
    refine ⟨List.filterMap_eq_nil_iff.mpr fun tick htick => ?_, fun tick htick => ?_⟩
    · obtain ⟨conversion, -, rfl⟩ := List.mem_map.mp htick
      rfl
    · obtain ⟨conversion, -, rfl⟩ := List.mem_map.mp htick
      rfl
  cases tick with
  -- the device may convert, and then serves the exchange
  | callback call event t =>
      obtain ⟨mark, hmark, hstep⟩ | ⟨hmark, -⟩ := hstep
      · obtain rfl := Option.some.inj hmark
        obtain ⟨t', ht, hcall⟩ | ⟨ht, -⟩ := hlive
        · obtain rfl := Option.some.inj ht
          obtain ⟨hbound, hpermitted⟩ := hstep.permitted ha.wellFormed
          obtain ⟨conversions, hserve⟩ := serve_of_callback hcall hpermitted
            (ha.addressed hbound) hproper.1 hproper.2 hspares ha.identified.accepts
          have hexchange :
              DeviceTick (converted w.2 conversions) (.exchange call event none) w'.2 :=
            .exchange hserve
          obtain ⟨hnone, hunforced⟩ := hsilent conversions
          refine ⟨((attached_converted ha conversions).step (Or.inl ⟨_, rfl, hstep⟩) hexchange
            hbinds).1, conversions.map Tick.conversion ++ [.exchange call event none],
            (deviceLife_converted conversions w.2).append (.single hexchange), ?_, ?_⟩
          · rw [List.filterMap_append, hnone]
            rfl
          · intro tick htick
            rcases List.mem_append.mp htick with hearly | hlast
            · exact hunforced tick hearly
            · obtain rfl := List.mem_singleton.mp hlast
              rfl
        · cases ht
      · cases hmark
  -- a return does not reach the device
  | ret call output =>
      obtain ⟨mark, hmark, hstep⟩ | ⟨hmark, -⟩ := hstep
      · obtain rfl := Option.some.inj hmark
        obtain ⟨t', ht, -⟩ | ⟨-, rfl⟩ := hlive
        · cases ht
        · have hret : DeviceTick w'.2 (.ret call output) w'.2 := .ret
          refine ⟨(ha.step (Or.inl ⟨_, rfl, hstep⟩) hret hbinds).1, [.ret call output],
            .single hret, rfl, fun tick htick => ?_⟩
          obtain rfl := List.mem_singleton.mp htick
          rfl
      · cases hmark
  -- what the application calls makes the device convert at most
  | owner t =>
      obtain ⟨mark, hmark, -⟩ | ⟨-, rfl⟩ := hstep
      · cases hmark
      · obtain ⟨t', ht, hcall⟩ | ⟨ht, -⟩ := hlive
        · obtain rfl := Option.some.inj ht
          obtain ⟨conversions, hdev⟩ := converted_of_call hcall.before.1 hcall.kept hspares.2
          rw [hdev]
          exact ⟨attached_converted ha conversions, conversions.map Tick.conversion,
            deviceLife_converted conversions w.2, hsilent conversions⟩
        · cases ht

/-- **A service is a run next to a healthy device.** -/
theorem Service.joint (origin : Context)
    (h : Service origin.address origin.intb s c w ts ticks u c' w')
    (howns : Owns origin c w.1) (hattached : c.Attached)
    (ha : Attached origin.address s w.2) :
    ∃ life, Joint origin.address s w.2 ts life u w'.2 ∧ ∀ tick ∈ life, tick.forced = none := by
  have hdriver := run_path ha.wellFormed h.driver
  rw [← h.marks] at hdriver
  have hbinds : ∀ tick ∈ ticks, ∀ mark ∈ tick.mark, mark.bindsTo origin.address = true := by
    intro tick htick mark hmark
    have hmem : mark ∈ timeline ts := by
      rw [← h.marks]
      exact List.mem_filterMap.mpr ⟨tick, htick, hmark⟩
    obtain ⟨t, ht, hmem⟩ := List.mem_flatMap.mp hmem
    exact bindsTo_of_mark (h.bound t ht) hmem
  have hall : ∀ tick ∈ ticks, tick.Proper ∧ tick.Spares origin.address origin.intb ∧
      ∀ mark ∈ tick.mark, mark.bindsTo origin.address = true :=
    fun tick htick => ⟨h.proper tick htick, h.spares tick htick, hbinds tick htick⟩
  -- the driver and the transport stutter at each other's ticks
  have hpath := (hdriver.stutter.both (h.calls howns hattached).stutter).restrict hall
  -- one tick of the deployment is a piece of the life of the device, with the same marks
  have key : Attached origin.address u w'.2 ∧ ∃ life, DeviceLife w.2 life w'.2 ∧
      life.filterMap Tick.mark = ticks.filterMap DeploymentTick.mark ∧
      ∀ tick ∈ life, tick.forced = none := by
    refine hpath.history
      (fun past (m : Driver × EspState × FakeLdc1614Device) =>
        Attached origin.address m.1 m.2.2 ∧ ∃ life, DeviceLife w.2 life m.2.2 ∧
          life.filterMap Tick.mark = past.filterMap DeploymentTick.mark ∧
          ∀ tick ∈ life, tick.forced = none) [] ⟨ha, [], .nil, rfl, by simp⟩ ?_
    -- the life lived so far is the history of the run
    rintro past m tick m' ⟨ha, life, hlife, hmarks, hunforced⟩
      ⟨⟨hstep, hlive⟩, hproper, hspares, hbinds⟩
    obtain ⟨ha', more, hmore, hmark, hmoreUnforced⟩ :=
      life_of_tick ha hstep hlive hproper hspares hbinds
    refine ⟨ha', life ++ more, hlife.append hmore, ?_, fun tick htick => ?_⟩
    · rw [List.filterMap_append, List.filterMap_append, hmarks, hmark]
      cases hnone : tick.mark <;> simp [hnone]
    · exact (List.mem_append.mp htick).elim (hunforced tick) (hmoreUnforced tick)
  obtain ⟨-, life, hlife, hmarks, hunforced⟩ := key
  exact ⟨life, ⟨⟨h.driver, hlife, hmarks.trans h.marks⟩, h.bound⟩, hunforced⟩

/-- A service splits wherever the calls of the driver do. -/
theorem Service.split {us : List DriverTransition}
    (h : Service address intb s c w (ts ++ us) ticks u c' w') :
    ∃ d c₂ w₂ front back, ticks = front ++ back ∧
      Service address intb s c w ts front d c₂ w₂ ∧
      Service address intb d c₂ w₂ us back u c' w' := by
  obtain ⟨d, hrun, hrest⟩ := h.driver.split
  have hmarks : ticks.filterMap DeploymentTick.mark = timeline ts ++ timeline us := by
    rw [h.marks, timeline, timeline, timeline, List.flatMap_append]
  obtain ⟨front, back, rfl, hfront, hback⟩ := List.filterMap_eq_append_iff.mp hmarks
  have htransport := h.transport
  have hwire := h.wire
  rw [List.filterMap_append] at htransport hwire
  rw [exchange_append] at hwire
  obtain ⟨c₂, hcalls, hcalls'⟩ := htransport.split
  obtain ⟨w₂, hpath, hpath'⟩ := hwire.split
  exact ⟨d, c₂, w₂, front, back, rfl,
    ⟨hrun, hcalls, hpath, hfront, fun tick ht => h.proper tick (List.mem_append_left _ ht),
      fun tick ht => h.spares tick (List.mem_append_left _ ht),
      fun t ht => h.bound t (List.mem_append_left _ ht)⟩,
    ⟨hrest, hcalls', hpath', hback, fun tick ht => h.proper tick (List.mem_append_right _ ht),
      fun tick ht => h.spares tick (List.mem_append_right _ ht),
      fun t ht => h.bound t (List.mem_append_right _ ht)⟩⟩

/-- Conversions leave the registers alone. -/
theorem converted_reg (conversions : List Conversion) (dev : FakeLdc1614Device) :
    (converted dev conversions).reg = dev.reg := by
  induction conversions generalizing dev with
  | nil => rfl
  | cons conversion conversions ih =>
      have hframe := dev.injectConversion_frame conversion
      exact (ih (dev.injectConversion conversion)).trans hframe.2.1

/-- **Recovery over the wire.** Take any deployment with any failures of ESP-IDF, in which the bus
was configured once and which leaves the driver unbound or bound to the device, and let ESP-IDF fail
no call from then on. The application recovers the bus; from there on it leaves the bus open and the
device alone, binds that succeed are to the device, and INTB is only observed where it has a pin. If
a start call of the driver admits a replay, and the owner polls it with a budget as often as it has
transfers, never at or past its deadline, without cancelling or invalidating it or ending the
binding, then `recover` succeeds and one of these calls ends the job in success, whatever else is
called and whenever the device converts; behind that call the profile is `APPLIED_SLEEPING`, there is
no fault, and the registers of the device hold it, asleep. -/
theorem recovery_deployed {past middle later : List DriverTransition} {start : DriverTransition}
    {recovering : TransportTransition} {before after : List DeploymentTick} {ticket : Ticket}
    {dev₀ : Registers} {dev : FakeLdc1614Device} {w₀ : EspState × Registers} {c₀ : Context}
    (hpast : Deployment address intb dev₀ past before s c₀ w₀)
    (hconfigured : c₀.hasBusConfig = true) (hregisters : dev.reg = w₀.2)
    (hdevice : Identified address dev)
    (haddressed : s.bound = true → s.config.i2cAddress.raw = address)
    (hrecovering : TransportRun c₀ [recovering] c) (hrecover : recovering.call = .recover)
    (hwire : Path (LiveWire address).Step (w₀.1, dev) recovering.events w)
    (h : Service address intb s c w (middle ++ start :: later) after u c' w')
    (hadmitted : (account start).admitted = some ticket) (hreplay : ticket.kind ≠ .acquire)
    (hspares : ∀ t ∈ later, t.call.spares ticket.deadlineMs = true)
    (hpolls : start.after.progress.maximumTransfers.toNat ≤
      later.countP (fun t => t.call.drives)) :
    recovering.output.status.isOk = true ∧
      ∃ mid last rest result front back c₂ w₂, later = mid ++ last :: rest ∧
        (account last).finished = some result ∧ result.admission = ticket ∧
        result.outcome = .success ∧ last.after.appliedState = .appliedSleeping ∧
        last.after.configFault.valid = false ∧ after = front ++ back ∧
        Service address intb s c w (middle ++ start :: (mid ++ [last])) front last.after c₂ w₂ ∧
        Holds last.after.config true w₂.2.reg := by
  let origin : Context := { address := address, intb := intb }
  -- the bus is recovered, and the device has only converted meanwhile
  have howns : Owns origin c₀ w₀.1 := owns_of_run hpast.transport (espIdf_of_wire hpast.wire)
  obtain ⟨rfl, hv, hnil⟩ := Run.first hrecovering
  obtain rfl := hnil.of_nil
  rw [Transition.Valid, hrecover] at hv
  have hmeets : (TransportCall.recover.exec recovering.before).Meets (LiveWire address)
      (fun w => Permits .recover recovering.before w.1) (w₀.1, dev) _ :=
    (recover_attaches howns hconfigured).along fun w request reply w' hlive => hlive.1
  obtain ⟨hkept, howns', hok, hattached, -, -⟩ := hmeets.yields hv hwire
  have hconverted := converted_of_call howns hkept fun htarget => by cases htarget
  obtain ⟨conversions, hdev⟩ := hconverted
  have hdev : w.2 = converted dev conversions := hdev
  have hw : s.WellFormed := run_wellFormed Driver.wellFormed_initial hpast.driver
  have ha : Attached address s w.2 := by
    rw [hdev]
    exact attached_converted ⟨hw, haddressed, hdevice⟩ conversions
  have hm : Mirrors s w.2.reg := by
    rw [hdev, converted_reg, hregisters]
    exact hpast.mirrors
  -- from there on driver and device are next to each other
  obtain ⟨life, hjoint, hunforced⟩ := Service.joint origin h howns' hattached ha
  obtain ⟨d, dev', early, late, rfl, hearly, hlate⟩ := hjoint.split
  have hhealthy : ∀ tick ∈ late, tick.forced = none :=
    fun tick htick => hunforced tick (List.mem_append_right _ htick)
  have hm' : Mirrors d dev'.reg := by
    refine hearly.mirrors hw hm fun tick htick failure hfailure => ?_
    rw [hunforced tick (List.mem_append_left _ htick)] at hfailure
    cases hfailure
  obtain ⟨mid, last, rest, result, rfl, hresult, hticket, hsuccess, hstate, hfault, -⟩ :=
    hlate.recovers (hpast.driver.append hearly.run) hm' (hearly.attached ha).1 hhealthy hadmitted
      hreplay hspares hpolls
  -- and the device at the end of the job holds what the driver claims
  have hcalls : middle ++ start :: (mid ++ last :: rest) =
      (middle ++ start :: (mid ++ [last])) ++ rest := by simp
  rw [hcalls] at h
  obtain ⟨d', c₂, w₂, front, back, rfl, hfront, -⟩ := h.split
  have hends : DriverRun s ((middle ++ start :: mid) ++ [last]) d' := by
    have hrun := hfront.driver
    rwa [List.append_assoc, List.cons_append]
  obtain ⟨-, -, rfl⟩ := Run.last hends
  obtain ⟨life', hjoint', hunforced'⟩ := Service.joint origin hfront howns' hattached ha
  have hmirrors : Mirrors last.after w₂.2.reg := by
    refine hjoint'.mirrors hw hm fun tick htick failure hfailure => ?_
    rw [hunforced' tick htick] at hfailure
    cases hfailure
  refine ⟨hok, mid, last, rest, result, front, back, c₂, w₂, rfl, hresult, hticket, hsuccess,
    hstate, hfault, rfl, hfront, hmirrors.trusted true ?_⟩
  rw [hstate]
  rfl

end Service

/-! ### A bench -/

instance (address : U8) (intb : ℤ) : (tick : DeploymentTick) → Decidable (tick.Spares address intb)
  | .callback _ event _ =>
      inferInstanceAs (Decidable (callbackCall event.1 = .intbAsserted → intb ≠ gpioNumNc))
  | .ret _ _ => inferInstanceAs (Decidable True)
  | .owner t => inferInstanceAs (Decidable (t.call ≠ .close ∧ t.call.target ≠ some address))

/-- The handle is of a device at this address. -/
def isAt (address : U8) (e : EspState) (device : Handle) : Bool :=
  e.devices.any fun slot => slot.device == device && slot.config.deviceAddress == address

theorem at_of_isAt {address : U8} {e : EspState} {device : Handle}
    (h : isAt address e device = true) : At e device address := by
  simp only [isAt, List.any_eq_true, Bool.and_eq_true, beq_iff_eq] at h
  exact h

/-- ESP-IDF behind this reply, which was good, and the device that gave it. -/
def liveAfter (address : U8) (w : EspState × FakeLdc1614Device) (event : EspRequest × EspReply) :
    Option (EspState × FakeLdc1614Device) :=
  if event.2.err ≠ espOk then none
  else
    match event.1 with
    | .transmit device data _ =>
        if isAt address w.1 device then
          (w.1.after event).map fun e => (e, (w.2.write address data none).1)
        else none
    | .transmitReceive device txData rxLength _ =>
        let (dev, reply) := w.2.writeRead address txData rxLength none
        if isAt address w.1 device && event.2.rx == [reply.rxHigh, reply.rxLow] then
          (w.1.after event).map fun e => (e, dev)
        else none
    | .getLevel _ =>
        if (event.2.level == 0) = w.2.intbAsserted then (w.1.after event).map fun e => (e, w.2)
        else none
    | _ => (w.1.after event).map fun e => (e, w.2)

/-- That device is one of those on the wire. -/
theorem live_of_after {address : U8} {w w' : EspState × FakeLdc1614Device}
    {event : EspRequest × EspReply} (h : liveAfter address w event = some w') :
    (LiveWire address).Step w event w' := by
  obtain ⟨request, reply⟩ := event
  obtain ⟨hok, hafter⟩ := Option.ite_none_left_eq_some.mp h
  have hesp {dev : FakeLdc1614Device}
      (hlive : Live address w.1 w.2 request reply dev)
      (hmap : (w.1.after (request, reply)).map (fun e => (e, dev)) = some w') :
      (LiveWire address).Step w (request, reply) w' := by
    obtain ⟨e, he, rfl⟩ := Option.map_eq_some_iff.mp hmap
    exact ⟨espIdf_of_after (fun hfailed => hok hfailed) he, [], hlive⟩
  cases request with
  | transmit device data timeoutMs =>
      obtain ⟨hat, hmap⟩ := Option.ite_none_right_eq_some.mp hafter
      exact hesp (.written (at_of_isAt hat)) hmap
  | transmitReceive device txData rxLength timeoutMs =>
      obtain ⟨hread, hmap⟩ := Option.ite_none_right_eq_some.mp hafter
      rw [Bool.and_eq_true, beq_iff_eq] at hread
      exact hesp (.read (at_of_isAt hread.1) hread.2) hmap
  | getLevel pin =>
      obtain ⟨hlevel, hmap⟩ := Option.ite_none_right_eq_some.mp hafter
      exact hesp (.level hlevel) hmap
  | _ => exact hesp (.managed rfl) hafter

/-- The bus of the bench is recovered. -/
def benchRecover : TransportScript := [(.recover, [{}, {}, {}, { handle := 5 }, { handle := 6 }])]

/-- The transport that the bench leaves. -/
def benchContext : Context := (played {} (benchServed benchOpened (runOf benchLost).1)).2

/-- A device that holds the registers the bench leaves. -/
def benchDevice (reg : Registers) : FakeLdc1614Device := { acceptedAddress := 0x2A, reg := reg }

/-- Behind the recovery the frequency is changed, and the driver is served. -/
def benchAgain (ts : List DriverTransition) : List TransportTransition × Context :=
  played (played benchContext benchRecover).2
    (benchServed [(.setFrequency 100000, [{}, { handle := 7 }])] ts)

/-- The calls behind the recovery are those of a service that replays the profile. -/
def serves (ts : List DriverTransition) (w : EspState × FakeLdc1614Device) : Bool :=
  deploys 1 ts (benchAgain ts).1 &&
    (benchTicks 1 ts (benchAgain ts).1).all (fun tick => decide (tick.Spares 0x2A gpioNumNc)) &&
    ts.head?.any (fun start => reapplies start ts.tail) &&
    ((exchange (benchAgain ts).1).foldlM (liveAfter 0x2A) w).isSome

/-- What `serves` has checked. -/
theorem service_of_bench {s u : Driver} {ts : List DriverTransition}
    {w : EspState × FakeLdc1614Device} (hrun : DriverRun s ts u) (h : serves ts w = true) :
    ∃ start later w', ts = start :: later ∧ reapplies start later = true ∧
      Service 0x2A gpioNumNc s (played benchContext benchRecover).2 w (start :: later)
        (benchTicks 1 (start :: later) (benchAgain (start :: later)).1) u
        (benchAgain (start :: later)).2 w' := by
  simp only [serves, Bool.and_eq_true] at h
  obtain ⟨⟨⟨hdeploys, hspares⟩, hstart⟩, hwire⟩ := h
  obtain ⟨start, hhead, hreapplies⟩ := (Option.any_eq_true _ _).mp hstart
  obtain ⟨later, rfl⟩ := List.head?_eq_some_iff.mp hhead
  obtain ⟨w', hwire⟩ := Option.isSome_iff_exists.mp hwire
  obtain ⟨hmarks, hcalls, hproper⟩ := benchTicks_spec hdeploys
  have hbound := hreapplies
  simp only [reapplies, List.tail_cons, Bool.and_eq_true] at hbound
  refine ⟨start, later, w', rfl, hreapplies, hrun, ?_, ?_, hmarks, hproper, fun tick htick => ?_,
    List.all_eq_true.mp hbound.1.1.1.1⟩
  · rw [hcalls]
    exact run_played _ _
  · rw [hcalls]
    exact path_of_foldlM (fun _ _ _ => live_of_after) hwire
  · exact of_decide_eq_true (List.all_eq_true.mp hspares tick htick)

/-- The bench is left dirty, and applies the profile again behind the recovery of its bus. -/
theorem recovery_deployed_bench : ∃ start later ticks u c w c' w' last dev,
    (runOf benchLost).2.appliedState = .dirty ∧
    Service 0x2A gpioNumNc (runOf benchLost).2 c w (start :: later) ticks u c' w' ∧
    last ∈ later ∧ last.after.appliedState = .appliedSleeping ∧
    last.after.configFault.valid = false ∧ Holds last.after.config true dev := by
  have hbench : (runOf benchLost).2.appliedState = .dirty ∧
      deploys 3 (runOf benchLost).1 (played {} (benchServed benchOpened (runOf benchLost).1)).1 =
        true ∧
      benchContext.hasBusConfig = true ∧
      (played benchContext benchRecover).1.map (·.call) = [.recover] ∧
      (runOf benchLost).2.config.i2cAddress.raw = 0x2A := by decide +kernel
  obtain ⟨hdirty, hdeploys, hconfigured, hrecover, haddress⟩ := hbench
  obtain ⟨recovering, hrecovering, hcall⟩ := List.map_eq_singleton_iff.mp hrecover
  have hafter : (benchWire (runOf benchLost).1).any (fun w₀ =>
      w₀.2 regManufacturerId == manufacturerIdValue && w₀.2 regDeviceId == deviceIdValue &&
      ((exchange (played benchContext benchRecover).1).foldlM (liveAfter 0x2A)
        (w₀.1, benchDevice w₀.2)).any fun w =>
          (execute (runOf benchLost).2 benchReapply).any fun out => serves out.1 w) = true := by
    decide +kernel
  obtain ⟨w₀, hpast, hafter⟩ := (Option.any_eq_true _ _).mp hafter
  simp only [Bool.and_eq_true, beq_iff_eq] at hafter
  obtain ⟨⟨hmanufacturer, hdevice⟩, hafter⟩ := hafter
  obtain ⟨w, hwire, hafter⟩ := (Option.any_eq_true _ _).mp hafter
  obtain ⟨⟨ts, u⟩, hexecute, hserves⟩ := (Option.any_eq_true _ _).mp hafter
  obtain ⟨start, later, w', rfl, hreapplies, hservice⟩ :=
    service_of_bench (run_of_execute hexecute) hserves
  simp only [reapplies, Bool.and_eq_true, beq_iff_eq] at hreapplies
  obtain ⟨⟨⟨⟨-, hmaximum⟩, hadmits⟩, hspares⟩, hcount⟩ := hreapplies
  obtain ⟨ticket, hadmitted, hticket⟩ := (Option.any_eq_true _ _).mp hadmits
  rw [Bool.and_eq_true, beq_iff_eq, beq_iff_eq] at hticket
  obtain ⟨hkind, hdeadline⟩ := hticket
  have hreplay : ticket.kind ≠ .acquire := by
    rw [hkind]
    decide
  have hrun : TransportRun benchContext [recovering] (played benchContext benchRecover).2 := by
    rw [← hrecovering]
    exact run_played _ _
  have hrecovered : Path (LiveWire 0x2A).Step (w₀.1, benchDevice w₀.2) recovering.events w := by
    have hpath : Path (LiveWire 0x2A).Step _ _ w :=
      path_of_foldlM (fun _ _ _ => live_of_after) hwire
    rw [hrecovering] at hpath
    simpa [exchange] using hpath
  have hservice' : Service 0x2A gpioNumNc _ _ w ([] ++ start :: later) _ u _ w' := hservice
  obtain ⟨-, mid, last, rest, -, -, -, -, dev, hlater, -, -, -, hsleeping, hfault, -, -, hholds⟩ :=
    recovery_deployed (deployment_of_bench (run_runOf benchLost) hdeploys hpast) hconfigured
      (rfl : (benchDevice w₀.2).reg = w₀.2) ⟨rfl, hmanufacturer, hdevice⟩ (fun _ => haddress) hrun
      hcall hrecovered hservice' hadmitted hreplay (hdeadline ▸ List.all_eq_true.mp hspares)
      (by rw [hmaximum, hcount]; decide)
  exact ⟨start, later, _, u, _, w, _, w', last, dev.2.reg, hdirty, hservice, by simp [hlater],
    hsleeping, hfault, hholds⟩

end Ldc1614.Esp32I2c
