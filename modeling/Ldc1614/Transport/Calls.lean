import Ldc1614.Transport.Ownership

/-! # The calls of the transport

What each call may end in, whatever ESP-IDF answers, and from it what a whole run does: the context
owns all handles there are, and every call uses ESP-IDF as its contract says. -/

namespace Ldc1614.Esp32I2c

open Interaction

namespace Context

section Configuration

variable {mayFail : Prop} {call : TransportCall} {before c c' : Context} {bus : Handle}
  {requestedHz : U32}

/-- **Reopening** attaches a closed context that has been configured. -/
theorem Sound.reopen (h : c.Sound) :
    c.reopen.Meets (EspIdf mayFail) (Permits call before) c.owned fun out e' =>
      Owns c out.1 e' ∧ (c.isOpen = true → out.1 = c) ∧
        (out.2.isOk = true ∧ out.1.Attached ∧ out.1.discoveryDevice = none ∧
            out.1.busConfig = c.busConfig ∨
          out.2.isOk = false ∧ (c.isOpen = false → c.hasBusConfig = true → mayFail)) := by
  unfold Context.reopen
  refine .ite (fun hopen => ?_) fun _ => .ite (fun hnone => ?_) fun _ => ?_
  · refine ⟨⟨rfl, h, rfl, rfl⟩, fun _ => rfl, Or.inr ⟨rfl, fun hclosed => ?_⟩⟩
    simp [hopen] at hclosed
  · refine ⟨⟨rfl, h, rfl, rfl⟩, fun _ => rfl, Or.inr ⟨rfl, fun _ hhas => ?_⟩⟩
    simp [hhas] at hnone
  · refine (h.open_ c.busConfig).imp fun out e' hout => ?_
    obtain ⟨howns, hkept, hok | ⟨hfailed, hmay⟩⟩ := hout
    · exact ⟨howns, hkept, Or.inl hok⟩
    · exact ⟨howns, hkept,
        Or.inr ⟨hfailed, fun hclosed hhas => hmay hclosed (h.configured hhas)⟩⟩

/-- The handles of a sound context are consistent. -/
theorem Sound.consistent (h : c.Sound) :
    ((c.device.isSome || c.discoveryDevice.isSome) && c.bus.isNone) = false := by
  have hdevice := h.device
  have hdiscovery := h.discovery
  cases hbus : c.bus with
  | none =>
      simp only [hbus, Option.isSome_none, Bool.false_eq_true, imp_false, Bool.not_eq_true]
        at hdevice hdiscovery
      simp [hdevice, hdiscovery]
  | some bus => simp

/-- **Recovering** attaches a context that has been configured, whatever it holds. -/
theorem Sound.recover (h : c.Sound) :
    c.recover.Meets (EspIdf mayFail) (Permits call before) c.owned fun out e' =>
      Owns c out.1 e' ∧
        (out.2.isOk = true ∧ out.1.Attached ∧ out.1.discoveryDevice = none ∧
            out.1.busConfig = c.busConfig ∨
          out.2.isOk = false ∧ (c.hasBusConfig = true → mayFail)) := by
  unfold Context.recover
  refine .ite (fun hnone => ?_) fun hhas => ?_
  · refine ⟨⟨rfl, h, rfl, rfl⟩, Or.inr ⟨rfl, fun hhas => ?_⟩⟩
    simp [hhas] at hnone
  rw [if_neg (by simp [h.consistent])]
  refine h.close.bind fun out e' hout => ?_
  obtain ⟨closed, status⟩ := out
  obtain ⟨howns, ⟨hbusConfig, hhasBusConfig⟩, ⟨hok, hclosed⟩ | ⟨hmay, hfailed⟩⟩ := hout
  · dsimp only at howns hbusConfig hhasBusConfig hok hclosed ⊢
    rw [if_neg (by simp [hok]), howns.state]
    refine howns.sound.reopen.bind fun out e'' hout => ?_
    obtain ⟨opened, status⟩ := out
    obtain ⟨howns', -, ⟨hok, hattached, hnone, hbusConfig'⟩ | ⟨hfailed, hmay⟩⟩ := hout
    · dsimp only at hok hbusConfig' ⊢
      rw [if_neg (by simp [hok])]
      exact ⟨howns.trans howns', Or.inl ⟨rfl, hattached, hnone, hbusConfig'.trans hbusConfig⟩⟩
    · dsimp only at hfailed ⊢
      rw [if_pos (by simp [hfailed])]
      refine ⟨howns.trans howns', Or.inr ⟨hfailed, fun hhas => hmay hclosed ?_⟩⟩
      rw [hhasBusConfig, hhas]
  · dsimp only at hfailed ⊢
    rw [if_pos (by simp [hfailed])]
    exact ⟨howns, Or.inr ⟨hfailed, fun _ => hmay⟩⟩

/-- A device at the frequency of the configuration makes the context whole again. -/
theorem Sound.withDevice (h : c.Sound) (hbus : c.bus = some bus)
    (hdiscovery : c.discoveryDevice = none)
    (hvalid : validFrequency requestedHz = true) (device : Handle) :
    { c with
      device := some device
      busConfig := { c.busConfig with frequencyHz := requestedHz } }.Sound where
  configured hhas :=
    have hconfig := h.configured hhas
    ⟨hconfig.sda, hconfig.scl, hvalid, hconfig.address⟩
  opened := h.opened
  device _ := by simp [hbus]
  discovery := h.discovery
  apart other hsome := by simp [hdiscovery] at hsome

/-- **Replacing** the device leaves it at the new frequency or at the old one, or away. -/
theorem Sound.replaceDevice (h : c.Sound) (hbus : c.bus = some bus)
    (hdiscovery : c.discoveryDevice = none) (hvalid : validFrequency requestedHz = true) :
    (c.replaceDevice bus requestedHz).Meets (EspIdf mayFail) (Permits call before) c.owned
      fun out e' => Owns c out.1 e' ∧
        (out.2.isOk = true ∧ out.1.Attached ∨ mayFail) := by
  have hconfig := h.configured (h.opened (by simp [hbus]))
  unfold Context.replaceDevice
  refine (h.removeDevice _).bind fun out e' hout => ?_
  obtain ⟨removed, status⟩ := out
  obtain ⟨rfl, ⟨hok, hremoved⟩ | ⟨hmay, hfailed, rfl⟩⟩ := hout
  · dsimp only at hok hremoved ⊢
    rw [if_neg (by simp [hok])]
    subst hremoved
    simp only [esp, Program.call_bind, Program.done_bind, Program.pure_eq_done]
    refine ⟨⟨by simp [owned, hbus], hconfig.address, hvalid⟩, fun reply e' hanswers => ?_⟩
    beta_reduce
    rcases hanswers.addDevice with ⟨hok, -, rfl⟩ | ⟨hmay, hfailed, rfl⟩
    · rw [if_pos (by simp [hok])]
      refine ⟨⟨?_, h.withDevice hbus hdiscovery hvalid reply.handle, rfl, rfl⟩,
        Or.inl ⟨by simp [hok], ⟨by simp [hbus], rfl⟩⟩⟩
      simp [owned, slots, hbus, hdiscovery]
    · rw [if_neg (by simp [hfailed])]
      refine ⟨⟨by simp [owned, hbus], hconfig.address, hconfig.frequency⟩,
        fun rollback e' hanswers => ?_⟩
      beta_reduce
      rcases hanswers.addDevice with ⟨hok, -, rfl⟩ | ⟨-, hfailed', rfl⟩
      · rw [if_neg (by simp [hok])]
        refine ⟨⟨?_, h.withDevice hbus hdiscovery hconfig.frequency rollback.handle, rfl, rfl⟩,
          Or.inr hmay⟩
        simp [owned, slots, hbus, hdiscovery]
      · rw [if_pos (by simp [hfailed'])]
        exact ⟨⟨rfl, h.withoutDevice, rfl, rfl⟩, Or.inr hmay⟩
  · dsimp only at hfailed ⊢
    rw [if_pos (by simp [hfailed])]
    exact ⟨⟨rfl, h, rfl, rfl⟩, Or.inr hmay⟩

/-- **Changing the frequency** fails on an attached context only for an invalid one, or because ESP-IDF
fails. -/
theorem Sound.setFrequency (h : c.Sound) (requestedHz : U32) :
    (c.setFrequency requestedHz).Meets (EspIdf mayFail) (Permits call before) c.owned
      fun out e' => Owns c out.1 e' ∧
        Serves mayFail (validFrequency requestedHz = true) c out.1 out.2 := by
  unfold Context.setFrequency
  split
  · next hnone =>
      exact ⟨⟨rfl, h, rfl, rfl⟩, .refused fun hattached => by simpa [hnone] using hattached.bus⟩
  · next bus hbus =>
      refine .ite (fun hdetached => ?_) fun _ => .ite (fun hinvalid => ?_) fun hvalid =>
        .ite (fun _ => ?_) fun _ => ?_
      · refine ⟨⟨rfl, h, rfl, rfl⟩, .refused fun hattached => ?_⟩
        have hdevice := Option.isNone_eq_false_iff.mpr hattached.device
        simp [hdevice, h.opened hattached.bus] at hdetached
      · exact ⟨⟨rfl, h, rfl, rfl⟩, .refused fun _ hvalid => by simp [hvalid] at hinvalid⟩
      · exact ⟨⟨rfl, h, rfl, rfl⟩, fun hattached => Or.inl hattached, fun _ _ => Or.inl rfl⟩
      rw [Bool.not_eq_false] at hvalid
      refine (h.removeDiscovery _).bind fun out e' hout => ?_
      obtain ⟨undiscovered, status⟩ := out
      obtain ⟨rfl, ⟨hok, hundiscovered⟩ | ⟨hmay, hfailed, rfl⟩⟩ := hout
      · have hsound := h.undiscovered hundiscovered
        dsimp only at hok ⊢
        rw [if_neg (by simp [hok])]
        obtain ⟨address, rfl⟩ := hundiscovered
        refine (hsound.replaceDevice hbus rfl hvalid).imp fun out e' hout => ?_
        obtain ⟨howns, ⟨hok, hattached⟩ | hmay⟩ := hout
        · exact ⟨⟨howns.state, howns.sound, howns.address, howns.intb⟩,
            fun _ => Or.inl hattached, fun _ _ => Or.inl hok⟩
        · exact ⟨⟨howns.state, howns.sound, howns.address, howns.intb⟩,
            fun _ => Or.inr hmay, fun _ _ => Or.inr hmay⟩
      · dsimp only at hfailed ⊢
        rw [if_pos (by simp [hfailed])]
        exact ⟨⟨rfl, h, rfl, rfl⟩, fun _ => Or.inr hmay, fun _ _ => Or.inr hmay⟩

end Configuration

end Context

/-! ### Transfers -/

/-- Counting a transfer takes and gives back nothing. -/
theorem Owns.recorded {origin c : Context} {e : EspState} (h : Owns origin c e)
    (kind : TransferKind) (status : Status) : Owns origin (c.recordTransfer kind status) e :=
  ⟨h.state, ⟨h.sound.configured, h.sound.opened, h.sound.device, h.sound.discovery, h.sound.apart⟩,
    h.address, h.intb⟩

namespace Context

section Transfers

variable {mayFail : Prop} {call : TransportCall} {before c : Context} {e : EspState}
  {bus device : Handle} {address registerAddress : U8} {timeoutMs : U32}

/-- The device of the context is at its address. -/
theorem Sound.reaches (h : c.Sound) (hdevice : c.device = some device)
    (htarget : call.target = some c.address) : Reaches call c c.owned device := by
  obtain ⟨bus, hbus⟩ := Option.isSome_iff_exists.mp (h.device (by rw [hdevice]; rfl))
  refine ⟨⟨device, bus, makeDeviceConfig c.address c.busConfig.frequencyHz⟩, ?_, rfl, htarget, rfl⟩
  simp [owned, slots, hbus, hdevice]

/-- A callback that goes on has the device of the context, at its address. -/
theorem validate_eq_ok (hvalidate : c.validate address = .ok device) :
    c.device = some device ∧ address = c.address := by
  unfold Context.validate at hvalidate
  split at hvalidate
  · cases hvalidate
  · next other hdevice =>
      split at hvalidate
      · cases hvalidate
      · next hsame =>
          obtain rfl : other = device := by simpa using hvalidate
          exact ⟨hdevice, not_not.mp hsame⟩

/-- On an attached context the callbacks go on at its address. -/
theorem exists_validate (h : c.Attached) : ∃ device, c.validate c.address = .ok device := by
  obtain ⟨device, hdevice⟩ := Option.isSome_iff_exists.mp h.device
  exact ⟨device, by simp [Context.validate, hdevice]⟩

/-- A transfer that was counted serves, if the reply was good. -/
theorem Serves.recorded {sensible : Prop} {err : EspErr} (h : err = espOk ∨ mayFail) (c : Context)
    (kind : TransferKind) (message : String) :
    Serves mayFail sensible c (c.recordTransfer kind (mapTransactionErr err message))
      (mapTransactionErr err message) where
  attached hattached := Or.inl ⟨hattached.bus, hattached.device⟩
  succeeds _ _ := by simpa using h

/-- **Writing** transmits to the device of the context, or not at all. -/
theorem Sound.write (h : c.Sound) (data : List U8) :
    (c.write address data timeoutMs).Meets (EspIdf mayFail)
      (Permits (.write address data timeoutMs) c) c.owned fun out e' =>
        Owns c out.1 e' ∧ Serves mayFail (address = c.address ∧ data ≠ []) c out.1 out.2 := by
  have howns : Owns c c c.owned := ⟨rfl, h, rfl, rfl⟩
  unfold Context.write
  split
  · next status hvalidate =>
      refine ⟨howns, .refused fun hattached hsensible => ?_⟩
      obtain ⟨device, hok⟩ := exists_validate hattached
      rw [hsensible.1, hok] at hvalidate
      cases hvalidate
  · next device hvalidate =>
      obtain ⟨hdevice, haddress⟩ := validate_eq_ok hvalidate
      refine .ite (fun hempty => ⟨howns, .refused fun _ hsensible => hsensible.2 hempty⟩)
        fun hdata => ?_
      simp only [esp, Program.call_bind, Program.done_bind, Program.pure_eq_done]
      refine ⟨⟨rfl, hdata, h.reaches hdevice (congrArg some haddress)⟩, fun reply e' hanswers => ?_⟩
      obtain ⟨rfl, hok⟩ := hanswers.transfer rfl
      simp only [Program.meets_done]
      exact ⟨howns.recorded _ _, .recorded hok c _ _⟩

/-- **Reading** does so too. -/
theorem Sound.writeRead (h : c.Sound) (txData : List U8) (rxLength : ℕ) :
    (c.writeRead address txData rxLength timeoutMs).Meets (EspIdf mayFail)
      (Permits (.writeRead address txData rxLength timeoutMs) c) c.owned fun out e' =>
        Owns c out.1 e' ∧
          Serves mayFail (address = c.address ∧ txData ≠ [] ∧ rxLength ≠ 0) c out.1 out.2.1 := by
  have howns : Owns c c c.owned := ⟨rfl, h, rfl, rfl⟩
  unfold Context.writeRead
  split
  · next status hvalidate =>
      refine ⟨howns, .refused fun hattached hsensible => ?_⟩
      obtain ⟨device, hok⟩ := exists_validate hattached
      rw [hsensible.1, hok] at hvalidate
      cases hvalidate
  · next device hvalidate =>
      obtain ⟨hdevice, haddress⟩ := validate_eq_ok hvalidate
      refine .ite (fun hempty => ⟨howns, .refused fun _ hsensible => ?_⟩) fun hbuffers => ?_
      · exact hempty.elim hsensible.2.1 hsensible.2.2
      rw [not_or] at hbuffers
      simp only [esp, Program.call_bind, Program.done_bind, Program.pure_eq_done]
      refine ⟨⟨rfl, hbuffers.1, hbuffers.2, h.reaches hdevice (congrArg some haddress)⟩,
        fun reply e' hanswers => ?_⟩
      obtain ⟨rfl, hok⟩ := hanswers.transfer rfl
      simp only [Program.meets_done]
      exact ⟨howns.recorded _ _, .recorded hok c _ _⟩

/-- **The level** is read of the pin of the context, if it has one. -/
theorem intbAsserted_meets :
    c.intbAsserted.Meets (EspIdf mayFail) (Permits call c) e fun out e' =>
      e' = e ∧ (c.intb ≠ gpioNumNc → out.1.isOk = true) := by
  unfold Context.intbAsserted
  refine .ite (fun hnone => ⟨rfl, fun hpin => absurd hnone hpin⟩) fun hpin => ?_
  simp only [esp, Program.call_bind, Program.done_bind, Program.pure_eq_done]
  exact ⟨⟨hpin, rfl⟩, fun reply e' hanswers => ⟨(hanswers.transfer rfl).1, fun _ => rfl⟩⟩

/-- A discovery device that is kept is for this address. -/
theorem Sound.removeStale (h : c.Sound) :
    (c.removeStale address).Meets (EspIdf mayFail) (Permits call before) c.owned fun out e' =>
      Owns c out.1 e' ∧ SameBusConfig c out.1 ∧ out.1.bus = c.bus ∧ out.1.device = c.device ∧
        (out.2.isOk = true ∧
            (out.1.discoveryDevice.isSome = true → out.1.discoveryAddress = address) ∨
          mayFail ∧ out.2.isOk = false) := by
  unfold Context.removeStale
  refine .ite (fun _ => ?_) fun hkept => ?_
  · refine (h.removeDiscovery _).imp fun out e' hout => ?_
    obtain ⟨c', status⟩ := out
    obtain ⟨rfl, ⟨hok, hundiscovered⟩ | ⟨hmay, hfailed, rfl⟩⟩ := hout
    · have hsound := h.undiscovered hundiscovered
      obtain ⟨address', rfl⟩ := hundiscovered
      exact ⟨⟨rfl, hsound, rfl, rfl⟩, ⟨rfl, rfl⟩, rfl, rfl,
        Or.inl ⟨hok, fun hsome => Bool.noConfusion hsome⟩⟩
    · exact ⟨⟨rfl, h, rfl, rfl⟩, ⟨rfl, rfl⟩, rfl, rfl, Or.inr ⟨hmay, hfailed⟩⟩
  · refine ⟨⟨rfl, h, rfl, rfl⟩, ⟨rfl, rfl⟩, rfl, rfl, Or.inl ⟨rfl, fun hsome => ?_⟩⟩
    dsimp only at hsome
    simpa [hsome] using hkept

/-- A new discovery device, apart from the other, makes the context own one more. -/
theorem Sound.discovered (h : c.Sound) (hbus : c.bus = some bus) (hnone : c.discoveryDevice = none)
    (hfresh : ∀ slot ∈ c.owned.devices, slot.device ≠ device) :
    ({ c with discoveryDevice := some device, discoveryAddress := address } : Context).Sound where
  configured := h.configured
  opened := h.opened
  device := h.device
  discovery _ := by simp [hbus]
  apart other hother hdevice := by
    obtain rfl : device = other := by simpa using hother
    refine hfresh ⟨device, bus, makeDeviceConfig c.address c.busConfig.frequencyHz⟩ ?_ rfl
    have hdevice' : c.device = some device := hdevice
    simp [owned, slots, hbus, hnone, hdevice']

/-- The handle for a discovery is of a device at the address that is asked for. -/
theorem Sound.discoveryHandle (h : c.Sound) (hbus : c.bus = some bus)
    (hvalid : ValidAddress address) :
    (c.discoveryHandle bus address).Meets (EspIdf mayFail) (Permits call before) c.owned
      fun out e' => Owns c out.1 e' ∧ out.1.bus = c.bus ∧ out.1.device = c.device ∧
        ((∃ device, out.2 = .ok device ∧ ∃ slot ∈ e'.devices, slot.device = device ∧
            slot.config.deviceAddress = address ∧
            slot.config.sclSpeedHz = c.busConfig.frequencyHz) ∨
          mayFail ∧ ∃ status, out.2 = .error status) := by
  have hconfig := h.configured (h.opened (by simp [hbus]))
  unfold Context.discoveryHandle
  refine h.removeStale.bind fun out e' hout => ?_
  obtain ⟨c', status⟩ := out
  obtain ⟨howns, ⟨hbusConfig, -⟩, hbus', hdevice, ⟨hok, hkept⟩ | ⟨hmay, hfailed⟩⟩ := hout
  · dsimp only at howns hbusConfig hbus' hdevice hok hkept ⊢
    rw [if_neg (by simp [hok])]
    obtain rfl := howns.state
    have hfrequency := congrArg BusConfig.frequencyHz hbusConfig
    split
    · next other hother =>
        refine ⟨howns, hbus', hdevice, Or.inl ⟨other, rfl,
          ⟨other, bus, makeDeviceConfig c'.discoveryAddress c'.busConfig.frequencyHz⟩, ?_, rfl,
          hkept (by simp [hother]), hfrequency⟩⟩
        simp [owned, slots, hbus', hbus, hother]
    · next hnone =>
        rw [hbus] at hbus'
        simp only [esp, Program.call_bind, Program.done_bind, Program.pure_eq_done]
        refine ⟨⟨by simp [owned, hbus'], hvalid, hbusConfig ▸ hconfig.frequency⟩,
          fun reply e' hanswers => ?_⟩
        beta_reduce
        rcases hanswers.addDevice with ⟨hok, hfresh, rfl⟩ | ⟨hmay, hfailed, rfl⟩
        · rw [if_neg (by simp [hok])]
          refine ⟨⟨by simp [owned, slots, hbus', hnone], howns.sound.discovered hbus' hnone hfresh,
            howns.address, howns.intb⟩, hbus'.trans hbus.symm, hdevice, Or.inl ⟨reply.handle, rfl,
            _, List.mem_cons_self, rfl, rfl, hfrequency⟩⟩
        · rw [if_pos (by simp [hfailed])]
          exact ⟨howns, hbus'.trans hbus.symm, hdevice, Or.inr ⟨hmay, _, rfl⟩⟩
  · dsimp only at hfailed ⊢
    rw [if_pos (by simp [hfailed])]
    exact ⟨howns, hbus', hdevice, Or.inr ⟨hmay, _, rfl⟩⟩

/-- The read of a discovery goes through a handle at the address that is asked for. -/
theorem discoveryRead_meets (howns : Owns before c e)
    (hreaches : Reaches (.readRegisterAt address registerAddress timeoutMs) before e device) :
    (c.discoveryRead device registerAddress timeoutMs).Meets (EspIdf mayFail)
      (Permits (.readRegisterAt address registerAddress timeoutMs) before) e
      fun out e' => Owns before out.1 e' ∧ out.1.bus = c.bus ∧ out.1.device = c.device ∧
        (out.2.1.isOk = true ∨ mayFail) := by
  unfold Context.discoveryRead
  simp only [esp, Program.call_bind, Program.done_bind, Program.pure_eq_done]
  refine ⟨⟨rfl, List.cons_ne_nil _ _, by decide, hreaches⟩, fun reply e' hanswers => ?_⟩
  obtain ⟨rfl, hok⟩ := hanswers.transfer rfl
  refine .ite (fun _ => ?_) fun _ => ?_
  · simp only [Program.meets_done]
    exact ⟨howns.recorded _ _, rfl, rfl, by simpa using hok⟩
  · simp only [Program.meets_done]
    exact ⟨howns.recorded _ _, rfl, rfl, Or.inl rfl⟩

/-- **Discovery** reads a register of the device at the address that is asked for, or of none. -/
theorem Sound.readRegisterAt (h : c.Sound) :
    (c.readRegisterAt address registerAddress timeoutMs).Meets (EspIdf mayFail)
      (Permits (.readRegisterAt address registerAddress timeoutMs) c) c.owned fun out e' =>
        Owns c out.1 e' ∧ Serves mayFail (ValidAddress address) c out.1 out.2.1 := by
  have howns : Owns c c c.owned := ⟨rfl, h, rfl, rfl⟩
  -- a read through any of the two handles keeps the bus and the device
  have hserves {c' : Context} {status : Status} (hbus : c'.bus = c.bus)
      (hdevice : c'.device = c.device)
      (hok : status.isOk = true ∨ mayFail) : Serves mayFail (ValidAddress address) c c' status :=
    ⟨fun hattached => Or.inl ⟨hbus ▸ hattached.bus, hdevice ▸ hattached.device⟩, fun _ _ => hok⟩
  unfold Context.readRegisterAt
  split
  · next bus device hbus hdevice =>
      refine .ite (fun hinvalid => ⟨howns, .refused fun _ hsensible => ?_⟩) fun hvalid =>
        .ite (fun hsame => ?_) fun _ => ?_
      · have hhas := h.opened (by simp [hbus])
        simp only [hhas, Bool.not_true, Bool.false_or, Bool.or_eq_true, decide_eq_true_eq] at hinvalid
        exact hinvalid.elim (BitVec.not_lt.mpr hsensible.1) (BitVec.not_lt.mpr hsensible.2)
      · refine (discoveryRead_meets howns (h.reaches hdevice (congrArg some hsame))).imp ?_
        rintro out e' ⟨howns', hbus', hdevice', hok⟩
        exact ⟨howns', hserves hbus' hdevice' hok⟩
      simp only [Bool.or_eq_true, decide_eq_true_eq, not_or, BitVec.not_lt] at hvalid
      refine (h.discoveryHandle hbus ⟨hvalid.1.2, hvalid.2⟩).bind fun out e' hout => ?_
      obtain ⟨c', handle⟩ := out
      obtain ⟨howns', hbus', hdevice', hhandle | ⟨hmay, status, hfailed⟩⟩ := hout
      · obtain ⟨other, hok, slot, hslot, hother, haddress, hfrequency⟩ := hhandle
        dsimp only at hok howns' hbus' hdevice' ⊢
        rw [hok]
        refine (discoveryRead_meets howns'
          ⟨slot, hslot, hother, congrArg some haddress.symm, hfrequency⟩).imp ?_
        rintro out e' ⟨howns'', hbus'', hdevice'', hok⟩
        exact ⟨howns'', hserves (hbus''.trans hbus') (hdevice''.trans hdevice') hok⟩
      · dsimp only at hfailed howns' hbus' hdevice' ⊢
        rw [hfailed]
        exact ⟨howns', hserves hbus' hdevice' (Or.inr hmay)⟩
  · next hdetached =>
      refine ⟨howns, .refused fun hattached _ => ?_⟩
      obtain ⟨bus, hbus⟩ := Option.isSome_iff_exists.mp hattached.bus
      obtain ⟨device, hdevice⟩ := Option.isSome_iff_exists.mp hattached.device
      exact hdetached bus device hbus hdevice

end Transfers

end Context

/-! ### Runs -/

/-- The call makes sense on an attached context with this address and this pin. -/
def TransportCall.Sensible (address : U8) (intb : ℤ) : TransportCall → Prop
  | .open_ _ | .close | .reopen => False
  | .recover => True
  | .setFrequency requestedHz => validFrequency requestedHz = true
  | .write target data _ => target = address ∧ data ≠ []
  | .writeRead target txData rxLength _ => target = address ∧ txData ≠ [] ∧ rxLength ≠ 0
  | .intbAsserted => intb ≠ gpioNumNc
  | .readRegisterAt target _ _ => ValidAddress target

section Runs

variable {mayFail : Prop} {origin c u v : Context} {e e' : EspState} {call : TransportCall}
  {start : TransportTransition} {ts later : List TransportTransition} {address : U8} {intb : ℤ}

/-- What a call leaves that was not `close`. -/
def CallServes (mayFail : Prop) (call : TransportCall) (c : Context)
    (out : Context × TransportOutput) : Prop :=
  call ≠ .close →
    Context.Serves mayFail (call.Sensible c.address c.intb) c out.1 out.2.status

/-- A call that reports the status of an operation does what the operation does. -/
theorem reporting_meets {program : Esp (Context × Status)} {before : Context}
    {Q : Context × TransportOutput → EspState → Prop}
    (h : program.Meets (EspIdf mayFail) (Permits call before) e
      fun out e' => Q (out.1, { status := out.2 }) e') :
    (reporting program).Meets (EspIdf mayFail) (Permits call before) e Q :=
  h.bind fun _ _ hout => hout

/-- **Every call** keeps the contract, leaves a context that owns all there is, and serves an attached
context. -/
theorem TransportCall.exec_meets (call : TransportCall) (h : Owns origin c e) :
    (call.exec c).Meets (EspIdf mayFail) (Permits call c) e fun out e' =>
      Owns origin out.1 e' ∧ CallServes mayFail call c out := by
  obtain rfl := h.state
  have hsound := h.sound
  cases call with
  | open_ config =>
      refine reporting_meets ((hsound.open_ config).imp fun out e' hout => ?_)
      obtain ⟨howns, hkept, -⟩ := hout
      refine ⟨h.trans howns, fun _ => ⟨fun hattached => Or.inl ?_, fun _ hsensible => hsensible.elim⟩⟩
      rw [hkept hattached.isOpen]
      exact hattached
  | close => exact reporting_meets (hsound.close.imp fun _ _ h' => ⟨h.trans h'.1, (absurd rfl ·)⟩)
  | reopen =>
      refine reporting_meets (hsound.reopen.imp fun out e' hout => ?_)
      obtain ⟨howns, hkept, -⟩ := hout
      refine ⟨h.trans howns, fun _ => ⟨fun hattached => Or.inl ?_, fun _ hsensible => hsensible.elim⟩⟩
      rw [hkept hattached.isOpen]
      exact hattached
  | recover =>
      refine reporting_meets (hsound.recover.imp fun out e' hout => ?_)
      -- a recovery that fails has met a failure of ESP-IDF
      obtain ⟨howns, ⟨hok, hattached, -⟩ | ⟨-, hmay⟩⟩ := hout
      · exact ⟨h.trans howns, fun _ => ⟨fun _ => Or.inl hattached, fun _ _ => Or.inl hok⟩⟩
      · have hfails (hattached : c.Attached) := hmay (hsound.opened hattached.bus)
        exact ⟨h.trans howns, fun _ => ⟨fun hattached => Or.inr (hfails hattached),
          fun hattached _ => Or.inr (hfails hattached)⟩⟩
  | setFrequency requestedHz =>
      exact reporting_meets ((hsound.setFrequency requestedHz).imp fun _ _ h' =>
        ⟨h.trans h'.1, fun _ => h'.2⟩)
  | write address data timeoutMs =>
      exact reporting_meets ((hsound.write data).imp fun _ _ h' => ⟨h.trans h'.1, fun _ => h'.2⟩)
  | writeRead address txData rxLength timeoutMs =>
      exact (hsound.writeRead txData rxLength).bind fun _ _ h' => ⟨h.trans h'.1, fun _ => h'.2⟩
  | intbAsserted =>
      refine Context.intbAsserted_meets.bind fun out e' hout => ?_
      obtain ⟨rfl, hok⟩ := hout
      exact ⟨h, fun _ => ⟨fun hattached => Or.inl hattached, fun _ hpin => Or.inl (hok hpin)⟩⟩
  | readRegisterAt address registerAddress timeoutMs =>
      exact hsound.readRegisterAt.bind fun _ _ h' => ⟨h.trans h'.1, fun _ => h'.2⟩

/-- A context that has not been opened owns nothing. -/
theorem owns_fresh (address : U8) (intb : ℤ) :
    Owns { address := address, intb := intb } { address := address, intb := intb } {} where
  state := rfl
  sound := ⟨fun h => Bool.noConfusion h, fun h => Bool.noConfusion h, fun h => Bool.noConfusion h,
    fun h => Bool.noConfusion h, fun _ h => by cases h⟩
  address := rfl
  intb := rfl

/-- The invariant of a run of the transport. -/
theorem owns_of_run (h : TransportRun { address := address, intb := intb } ts u)
    (henv : Path (EspIdf mayFail).Step {} (exchange ts) e) :
    Owns { address := address, intb := intb } u e :=
  (Run.beside (P := fun _ => True) (fun call _ _ _ howns => call.exec_meets howns)
    (owns_fresh address intb) (fun _ _ => trivial) h henv).2

/-- The calls of a bench, each with the replies of ESP-IDF. -/
abbrev TransportScript := List (TransportCall × List EspReply)

/-- A run of the bench from this context on. -/
def played (context : Context) (calls : TransportScript) : List TransportTransition × Context :=
  (play TransportCall.exec context calls).getD ([], context)

theorem run_played (context : Context) (calls : TransportScript) :
    TransportRun context (played context calls).1 (played context calls).2 := by
  unfold played
  cases h : play TransportCall.exec context calls with
  | none => exact .nil
  | some run => exact run_of_play h

/-- The pins of the bench. -/
def benchBus : BusConfig := { sda := 8, scl := 9 }

/-- The bus is opened and an address is searched in vain, the change of the frequency is rolled
back, and the device is not given back. -/
def benchFaults : TransportScript :=
  [(.open_ benchBus, [{ handle := 1 }, { handle := 2 }]),
    (.readRegisterAt 0x2B 0x7E 50, [{ handle := 3 }, { err := espErrInvalidState }]),
    (.setFrequency 100000, [{}, {}, { err := espErrNoMem }, { handle := 4 }]),
    (.close, [{ err := espErrInvalidState }])]

/-- A call on an attached context that ESP-IDF does not fail. -/
theorem TransportCall.exec_attached (hcall : call ≠ .close) (h : Owns origin c e ∧ c.Attached) :
    (call.exec c).Meets (EspIdf False) (Permits call c) e fun out e' =>
      (Owns origin out.1 e' ∧ out.1.Attached) ∧
        (call.Sensible origin.address origin.intb → out.2.status.isOk = true) := by
  obtain ⟨howns, hattached⟩ := h
  refine (call.exec_meets howns).imp fun out e' hout => ?_
  obtain ⟨howns', hserves⟩ := hout
  have hserves := hserves hcall
  refine ⟨⟨howns', (hserves.attached hattached).elim id False.elim⟩, fun hsensible => ?_⟩
  rw [← howns.address, ← howns.intb] at hsensible
  exact (hserves.succeeds hattached hsensible).elim id False.elim

/-- `recover` of a context that has been configured, when ESP-IDF does not fail. -/
theorem recover_attaches (howns : Owns origin c e) (hconfigured : c.hasBusConfig = true) :
    (TransportCall.recover.exec c).Meets (EspIdf False) (Permits .recover c) e fun out e' =>
      Owns origin out.1 e' ∧ out.2.status.isOk = true ∧ out.1.Attached ∧
        out.1.discoveryDevice = none ∧ out.1.busConfig = c.busConfig := by
  obtain rfl := howns.state
  refine reporting_meets (howns.sound.recover.imp fun out e' hout => ?_)
  obtain ⟨howns', hok | ⟨-, hmay⟩⟩ := hout
  · exact ⟨howns.trans howns', hok⟩
  · exact (hmay hconfigured).elim

/-- **Recovery of the transport.** Whatever ESP-IDF answered before: once it fails no call any more,
`recover` of a context that has been configured succeeds, with the same configuration, and until the
next `close` the context stays attached and every call that makes sense succeeds. -/
theorem recover_restores (h : TransportRun { address := address, intb := intb } ts u)
    (henv : Path (EspIdf True).Step {} (exchange ts) e) (hconfigured : u.hasBusConfig = true)
    (h' : TransportRun u (start :: later) v) (hrecover : start.call = .recover)
    (henv' : Path (EspIdf False).Step e (exchange (start :: later)) e')
    (hkept : ∀ t ∈ later, t.call ≠ .close) :
    start.output.status.isOk = true ∧ start.after.busConfig = u.busConfig ∧
      start.after.discoveryDevice = none ∧ v.Attached ∧
      ∀ t ∈ later, t.call.Sensible address intb → t.output.status.isOk = true := by
  have howns := owns_of_run h henv
  obtain ⟨rfl, hv, hlater⟩ := Run.first h'
  rw [exchange_cons] at henv'
  obtain ⟨m, hfront, hback⟩ := henv'.split
  rw [Transition.Valid, hrecover] at hv
  obtain ⟨-, howns', hok, hattached, hnone, hbusConfig⟩ :=
    (recover_attaches howns hconfigured).yields hv hfront
  have hcall (call : TransportCall) (s : Context) (e : EspState) (hcall : call ≠ .close)
      (hs : Owns { address := address, intb := intb } s e ∧ s.Attached) :=
    TransportCall.exec_attached hcall hs
  have hstart := And.intro howns' hattached
  refine ⟨hok, hbusConfig, hnone, (Run.beside hcall hstart hkept hlater hback).2.2, fun t ht => ?_⟩
  obtain ⟨m, m', hbeside⟩ := Run.keeps hcall hstart hkept hlater hback ht
  exact hbeside.output

/-- The bench recovers, and is used again. -/
def benchService : TransportScript :=
  [(.recover, [{}, {}, { handle := 5 }, { handle := 6 }]),
    (.setFrequency 100000, [{}, { handle := 7 }]),
    (.readRegisterAt 0x2B 0x7E 50, [{ handle := 8 }, { rx := [0x54, 0x49] }]),
    (.write 0x2A [0x1A, 0x28, 0x01] 50, [{}])]

/-- What the bench was left with is attached again. -/
theorem recover_restores_faults : ∃ later v,
    TransportRun (played {} benchFaults).2 later v ∧ 4 = later.length ∧ v.Attached ∧
      v.discoveryDevice = some 8 := by
  have henv : (exchange (played {} benchFaults).1).foldlM EspState.after {} =
      some (played {} benchFaults).2.owned := by decide +kernel
  have hrun := run_played (played {} benchFaults).2 benchService
  have hlength : (played (played {} benchFaults).2 benchService).1.length = 4 := by decide +kernel
  obtain ⟨start, later, hsplit⟩ : ∃ start later,
      (played (played {} benchFaults).2 benchService).1 = start :: later :=
    List.exists_cons_of_length_pos (by rw [hlength]; decide)
  have hrecover : (played (played {} benchFaults).2 benchService).1.head?.map Transition.call =
      some .recover := by decide +kernel
  have hkept : (played (played {} benchFaults).2 benchService).1.tail.all
      (fun t => decide (t.call ≠ .close)) = true := by decide +kernel
  have henv' : ∃ e', (exchange (played (played {} benchFaults).2 benchService).1).foldlM
      (fun e event => if event.2.err = espOk then e.after event else none)
      (played {} benchFaults).2.owned = some e' := Option.isSome_iff_exists.mp (by decide +kernel)
  obtain ⟨e', henv'⟩ := henv'
  have hpath : Path (EspIdf False).Step (played {} benchFaults).2.owned
      (exchange (played (played {} benchFaults).2 benchService).1) e' :=
    path_of_foldlM (fun e event e' h => by
      obtain ⟨hok, hafter⟩ := Option.ite_none_right_eq_some.mp h
      exact espIdf_of_after (fun hfailed => hfailed hok) hafter) henv'
  refine ⟨_, _, hrun, hlength.symm, ?_, by decide +kernel⟩
  rw [hsplit] at hrecover hkept hpath
  rw [hsplit] at hrun
  simp only [List.head?_cons, Option.map_some, Option.some.injEq] at hrecover
  simp only [List.tail_cons, List.all_eq_true, decide_eq_true_eq] at hkept
  have hpast := run_played {} benchFaults
  exact (recover_restores hpast
    (path_of_foldlM (fun _ _ _ => espIdf_of_after fun _ => trivial) henv) (by decide +kernel) hrun
    hrecover hpath hkept).2.2.2.1

end Runs

end Ldc1614.Esp32I2c
