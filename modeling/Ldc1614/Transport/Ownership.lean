import Ldc1614.Interaction.Environment
import Ldc1614.Transport.I2cMasterTransport

/-! # Ownership of the handles

ESP-IDF keeps track of the buses and devices it has handed out. Whatever it answers, the transport
holds exactly these handles: nothing leaks, nothing is given back twice or used afterwards, and a
bus is deleted only without devices on it. -/

namespace Ldc1614.Esp32I2c

open Interaction

/-! ### What ESP-IDF keeps -/

/-- A device that was added to a bus. -/
structure Slot where
  device : Handle
  bus : Handle
  config : DeviceConfig
  deriving DecidableEq, Repr

/-- The buses and the devices that exist. -/
structure EspState where
  buses : List Handle := []
  devices : List Slot := []
  deriving DecidableEq, Repr

/-- The request makes and removes nothing. -/
def EspRequest.transfers : EspRequest → Bool
  | .transmit _ _ _ | .transmitReceive _ _ _ _ | .getLevel _ => true
  | _ => false

/-- What ESP-IDF may answer. A handle it makes is not in use, and a call that fails changes nothing;
calls fail only if they may. -/
inductive EspIdf (mayFail : Prop) : Environment EspState EspRequest EspReply
  | busMade {e config reply} (hok : reply.err = espOk) (hfresh : reply.handle ∉ e.buses) :
      EspIdf mayFail e (.newMasterBus config) reply { e with buses := reply.handle :: e.buses }
  | busDeleted {e bus reply} (hok : reply.err = espOk) :
      EspIdf mayFail e (.delMasterBus bus) reply { e with buses := e.buses.erase bus }
  | deviceAdded {e bus config reply} (hok : reply.err = espOk)
      (hfresh : ∀ slot ∈ e.devices, slot.device ≠ reply.handle) :
      EspIdf mayFail e (.addDevice bus config) reply
        { e with devices := ⟨reply.handle, bus, config⟩ :: e.devices }
  | deviceRemoved {e device reply} (hok : reply.err = espOk) :
      EspIdf mayFail e (.rmDevice device) reply
        { e with devices := e.devices.filter fun slot => slot.device != device }
  | transferred {e request reply} (htransfers : request.transfers = true) (hok : reply.err = espOk) :
      EspIdf mayFail e request reply e
  | refused {e request reply} (hmay : mayFail) (hfailed : reply.err ≠ espOk) :
      EspIdf mayFail e request reply e

/-- The state behind a call of ESP-IDF that may be answered like this. -/
def EspState.after (e : EspState) : EspRequest × EspReply → Option EspState
  | (request, reply) =>
      if reply.err ≠ espOk then some e
      else
        match request with
        | .newMasterBus _ =>
            if reply.handle ∉ e.buses then some { e with buses := reply.handle :: e.buses } else none
        | .delMasterBus bus => some { e with buses := e.buses.erase bus }
        | .addDevice bus config =>
            if e.devices.all (fun slot => slot.device != reply.handle) then
              some { e with devices := ⟨reply.handle, bus, config⟩ :: e.devices }
            else none
        | .rmDevice device =>
            some { e with devices := e.devices.filter fun slot => slot.device != device }
        | .transmit _ _ _ | .transmitReceive _ _ _ _ | .getLevel _ => some e

/-- ESP-IDF may answer so. -/
theorem espIdf_of_after {mayFail : Prop} {e e' : EspState} {event : EspRequest × EspReply}
    (hmay : event.2.err ≠ espOk → mayFail) (h : e.after event = some e') :
    (EspIdf mayFail).Step e event e' := by
  obtain ⟨request, reply⟩ := event
  simp only [EspState.after] at h
  split at h
  · next hfailed =>
      obtain rfl := Option.some.inj h
      exact .refused (hmay hfailed) hfailed
  · next hok =>
      rw [not_not] at hok
      cases request with
      | newMasterBus config =>
          obtain ⟨hfresh, heq⟩ := Option.ite_none_right_eq_some.mp h
          obtain rfl := Option.some.inj heq
          exact .busMade hok hfresh
      | delMasterBus bus =>
          obtain rfl := Option.some.inj h
          exact .busDeleted hok
      | addDevice bus config =>
          obtain ⟨hfresh, heq⟩ := Option.ite_none_right_eq_some.mp h
          obtain rfl := Option.some.inj heq
          exact .deviceAdded hok (by simpa using hfresh)
      | rmDevice device =>
          obtain rfl := Option.some.inj h
          exact .deviceRemoved hok
      | transmit device data timeoutMs =>
          obtain rfl := Option.some.inj h
          exact .transferred rfl hok
      | transmitReceive device txData rxLength timeoutMs =>
          obtain rfl := Option.some.inj h
          exact .transferred rfl hok
      | getLevel pin =>
          obtain rfl := Option.some.inj h
          exact .transferred rfl hok

/-! ### The contract -/

/-- The bus address a call is about. -/
def TransportCall.target : TransportCall → Option U8
  | .write address _ _ | .writeRead address _ _ _ | .readRegisterAt address _ _ => some address
  | _ => none

/-- The bytes a call is to transmit, and for how long. -/
def TransportCall.sends : TransportCall → Option (List U8 × ℤ)
  | .write _ data timeoutMs => some (data, clampTimeoutMs timeoutMs)
  | _ => none

/-- The bytes a call is to transmit before it receives, how many it receives, and for how long. -/
def TransportCall.asks : TransportCall → Option (List U8 × ℕ × ℤ)
  | .writeRead _ txData rxLength timeoutMs => some (txData, rxLength, clampTimeoutMs timeoutMs)
  | .readRegisterAt _ registerAddress timeoutMs =>
      some ([registerAddress], 2, clampTimeoutMs timeoutMs)
  | _ => none

/-- A 7-bit address that is not reserved. -/
def ValidAddress (address : U8) : Prop := 0x08 ≤ address ∧ address ≤ 0x77

/-- The device exists, and is at the address this call is about, at the frequency of the context. -/
def Reaches (call : TransportCall) (context : Context) (e : EspState) (device : Handle) : Prop :=
  ∃ slot ∈ e.devices, slot.device = device ∧ call.target = some slot.config.deviceAddress ∧
    slot.config.sclSpeedHz = context.busConfig.frequencyHz

/-- How ESP-IDF is to be used during a call: a bus is made when there is none, a bus is deleted when
it exists and has no devices, devices are added to an existing bus with a valid address and
frequency and removed when they exist, and the transfers are those the call asks for, with the
device it is about. -/
def Permits (call : TransportCall) (context : Context) : Contract EspState EspRequest
  | e, .newMasterBus _ => e.buses = [] ∧ e.devices = []
  | e, .delMasterBus bus => bus ∈ e.buses ∧ ∀ slot ∈ e.devices, slot.bus ≠ bus
  | e, .addDevice bus config =>
      bus ∈ e.buses ∧ ValidAddress config.deviceAddress ∧ validFrequency config.sclSpeedHz = true
  | e, .rmDevice device => ∃ slot ∈ e.devices, slot.device = device
  | e, .transmit device data timeoutMs =>
      call.sends = some (data, timeoutMs) ∧ data ≠ [] ∧ Reaches call context e device
  | e, .transmitReceive device txData rxLength timeoutMs =>
      call.asks = some (txData, rxLength, timeoutMs) ∧ txData ≠ [] ∧ rxLength ≠ 0 ∧
        Reaches call context e device
  | _, .getLevel pin => pin ≠ gpioNumNc ∧ pin = context.intb

/-! ### What the context owns -/

/-- `open` accepts the bus configuration for a device at this address. -/
structure Configured (config : BusConfig) (address : U8) : Prop where
  sda : config.sda ≠ gpioNumNc
  scl : config.scl ≠ gpioNumNc
  frequency : validFrequency config.frequencyHz = true
  address : ValidAddress address

namespace Context

/-- The devices of the context. -/
def slots (context : Context) : List Slot :=
  context.bus.toList.flatMap fun bus =>
    (context.discoveryDevice.toList.map fun device =>
      ⟨device, bus, makeDeviceConfig context.discoveryAddress context.busConfig.frequencyHz⟩) ++
    context.device.toList.map fun device =>
      ⟨device, bus, makeDeviceConfig context.address context.busConfig.frequencyHz⟩

/-- What exists when the context owns it all. -/
def owned (context : Context) : EspState :=
  { buses := context.bus.toList, devices := context.slots }

/-- The handles of the context fit together. -/
structure Sound (context : Context) : Prop where
  configured : context.hasBusConfig = true → Configured context.busConfig context.address
  opened : context.bus.isSome = true → context.hasBusConfig = true
  device : context.device.isSome = true → context.bus.isSome = true
  discovery : context.discoveryDevice.isSome = true → context.bus.isSome = true
  apart : ∀ device, context.discoveryDevice = some device → context.device ≠ some device

end Context

/-- The context owns all that exists, with the address and the pin of `origin`. -/
structure Owns (origin context : Context) (e : EspState) : Prop where
  state : e = context.owned
  sound : context.Sound
  address : context.address = origin.address
  intb : context.intb = origin.intb

/-- What a call leaves owned, the next one can go on with. -/
theorem Owns.trans {origin middle context : Context} {e e' : EspState} (h : Owns origin middle e)
    (h' : Owns middle context e') : Owns origin context e' :=
  ⟨h'.state, h'.sound, h'.address.trans h.address, h'.intb.trans h.intb⟩

/-- Only a success is reported as one. -/
@[simp] theorem mapEspErr_isOk (error : EspErr) (message : String) :
    (mapEspErr error message).isOk = decide (error = espOk) := by
  unfold mapEspErr
  repeat' split
  all_goals simp_all [Status.isOk, Status.ok, Status.error]

/-- Only a transmission that succeeded is reported as one. -/
@[simp] theorem mapTransactionErr_isOk (error : EspErr) (message : String) :
    (mapTransactionErr error message).isOk = decide (error = espOk) := by
  unfold mapTransactionErr
  split
  · next h => simp [h, Status.isOk, Status.error, espErrInvalidState, espOk]
  · exact mapEspErr_isOk error message

section Replies

variable {mayFail : Prop} {e e' : EspState} {reply : EspReply}

/-- Each call succeeds with its effect, or fails without one. -/
theorem EspIdf.rmDevice {device : Handle} (h : EspIdf mayFail e (.rmDevice device) reply e') :
    reply.err = espOk ∧ e' = { e with devices := e.devices.filter fun slot => slot.device != device } ∨
      mayFail ∧ reply.err ≠ espOk ∧ e' = e := by
  cases h with
  | deviceRemoved hok => exact Or.inl ⟨hok, rfl⟩
  | transferred htransfers => cases htransfers
  | refused hmay hfailed => exact Or.inr ⟨hmay, hfailed, rfl⟩

/-- Deleting a bus removes it, or fails and leaves everything. -/
theorem EspIdf.delMasterBus {bus : Handle} (h : EspIdf mayFail e (.delMasterBus bus) reply e') :
    reply.err = espOk ∧ e' = { e with buses := e.buses.erase bus } ∨
      mayFail ∧ reply.err ≠ espOk ∧ e' = e := by
  cases h with
  | busDeleted hok => exact Or.inl ⟨hok, rfl⟩
  | transferred htransfers => cases htransfers
  | refused hmay hfailed => exact Or.inr ⟨hmay, hfailed, rfl⟩

/-- Creating a bus adds it, or fails and leaves everything. -/
theorem EspIdf.newMasterBus {config : NativeBusConfig}
    (h : EspIdf mayFail e (.newMasterBus config) reply e') :
    reply.err = espOk ∧ e' = { e with buses := reply.handle :: e.buses } ∨
      mayFail ∧ reply.err ≠ espOk ∧ e' = e := by
  cases h with
  | busMade hok => exact Or.inl ⟨hok, rfl⟩
  | transferred htransfers => cases htransfers
  | refused hmay hfailed => exact Or.inr ⟨hmay, hfailed, rfl⟩

/-- Adding a device adds one under a new handle, or fails and leaves everything. -/
theorem EspIdf.addDevice {bus : Handle} {config : DeviceConfig}
    (h : EspIdf mayFail e (.addDevice bus config) reply e') :
    (reply.err = espOk ∧ (∀ slot ∈ e.devices, slot.device ≠ reply.handle) ∧
        e' = { e with devices := ⟨reply.handle, bus, config⟩ :: e.devices }) ∨
      mayFail ∧ reply.err ≠ espOk ∧ e' = e := by
  cases h with
  | deviceAdded hok hfresh => exact Or.inl ⟨hok, hfresh, rfl⟩
  | transferred htransfers => cases htransfers
  | refused hmay hfailed => exact Or.inr ⟨hmay, hfailed, rfl⟩

/-- A transfer leaves all handles alone. -/
theorem EspIdf.transfer {request : EspRequest} (h : EspIdf mayFail e request reply e')
    (htransfers : request.transfers = true) : e' = e ∧ (reply.err = espOk ∨ mayFail) := by
  cases h with
  | transferred _ hok => exact ⟨rfl, Or.inl hok⟩
  | refused hmay => exact ⟨rfl, Or.inr hmay⟩
  | _ => cases htransfers

end Replies

/-! ### Giving handles back -/

namespace Context

variable {mayFail : Prop} {call : TransportCall} {before c c' : Context} {e' : EspState}
  {out : Context × Status}

/-- The context without its discovery device. -/
def Undiscovered (c c' : Context) : Prop :=
  ∃ address, c' = { c with discoveryDevice := none, discoveryAddress := address }

/-- Removing the discovery device keeps the rest sound. -/
theorem Sound.undiscovered (h : c.Sound) (hc : Undiscovered c c') : c'.Sound := by
  obtain ⟨address, rfl⟩ := hc
  exact ⟨h.configured, h.opened, h.device, fun hsome => Bool.noConfusion hsome,
    fun device hsome => by cases hsome⟩

/-- So does removing the device. -/
theorem Sound.withoutDevice (h : c.Sound) : { c with device := none }.Sound :=
  ⟨h.configured, h.opened, fun hsome => Bool.noConfusion hsome, h.discovery,
    fun _ _ hsome => by cases hsome⟩

/-- And deleting a bus without devices. -/
theorem Sound.withoutBus (h : c.Sound) (hdevice : c.device = none)
    (hdiscovery : c.discoveryDevice = none) : { c with bus := none }.Sound :=
  ⟨h.configured, fun hsome => Bool.noConfusion hsome, fun hsome => by simp [hdevice] at hsome,
    fun hsome => by simp [hdiscovery] at hsome, h.apart⟩

/-- What removing the discovery device may end in. -/
theorem Sound.removeDiscovery (h : c.Sound) (message : String) :
    (c.removeDiscovery message).Meets (EspIdf mayFail) (Permits call before) c.owned
      fun out e' => e' = out.1.owned ∧
        (out.2.isOk = true ∧ Undiscovered c out.1 ∨ mayFail ∧ out.2.isOk = false ∧ out.1 = c) := by
  unfold Context.removeDiscovery
  split
  · next hnone =>
      refine ⟨rfl, Or.inl ⟨rfl, c.discoveryAddress, ?_⟩⟩
      rw [← hnone]
  · next device hsome =>
      obtain ⟨bus, hbus⟩ := Option.isSome_iff_exists.mp (h.discovery (by rw [hsome]; rfl))
      have hapart := h.apart device hsome
      simp only [esp, Program.call_bind, Program.done_bind, Program.pure_eq_done]
      refine ⟨⟨⟨device, bus, makeDeviceConfig c.discoveryAddress c.busConfig.frequencyHz⟩,
        by simp [owned, slots, hbus, hsome], rfl⟩, fun reply e' hanswers => ?_⟩
      beta_reduce
      rcases hanswers.rmDevice with ⟨hok, rfl⟩ | ⟨hmay, hfailed, rfl⟩
      · rw [if_neg (by simp [hok])]
        refine ⟨?_, Or.inl ⟨rfl, 0, rfl⟩⟩
        -- the other device, if there is one, has another handle
        cases hdevice : c.device with
        | none => simp [owned, slots, hbus, hsome, hdevice]
        | some other =>
            have hother : other ≠ device := fun hsame => hapart (hsame ▸ hdevice)
            simp [owned, slots, hbus, hsome, hdevice, hother]
      · rw [if_pos (by simp [hfailed])]
        exact ⟨rfl, Or.inr ⟨hmay, by simp [hfailed], rfl⟩⟩

/-- What removing the device may end in. -/
theorem Sound.removeDevice (h : c.Sound) (message : String) :
    (c.removeDevice message).Meets (EspIdf mayFail) (Permits call before) c.owned
      fun out e' => e' = out.1.owned ∧
        (out.2.isOk = true ∧ out.1 = { c with device := none } ∨
          mayFail ∧ out.2.isOk = false ∧ out.1 = c) := by
  unfold Context.removeDevice
  split
  · next hnone =>
      refine ⟨rfl, Or.inl ⟨rfl, ?_⟩⟩
      rw [← hnone]
  · next device hsome =>
      obtain ⟨bus, hbus⟩ := Option.isSome_iff_exists.mp (h.device (by rw [hsome]; rfl))
      simp only [esp, Program.call_bind, Program.done_bind, Program.pure_eq_done]
      refine ⟨⟨⟨device, bus, makeDeviceConfig c.address c.busConfig.frequencyHz⟩,
        by simp [owned, slots, hbus, hsome], rfl⟩, fun reply e' hanswers => ?_⟩
      beta_reduce
      rcases hanswers.rmDevice with ⟨hok, rfl⟩ | ⟨hmay, hfailed, rfl⟩
      · rw [if_neg (by simp [hok])]
        refine ⟨?_, Or.inl ⟨rfl, rfl⟩⟩
        cases hdiscovery : c.discoveryDevice with
        | none => simp [owned, slots, hbus, hsome, hdiscovery]
        | some other =>
            have hother : other ≠ device := fun hsame => h.apart other hdiscovery (hsame ▸ hsome)
            simp [owned, slots, hbus, hsome, hdiscovery, hother]
      · rw [if_pos (by simp [hfailed])]
        exact ⟨rfl, Or.inr ⟨hmay, by simp [hfailed], rfl⟩⟩

/-- What deleting a bus without devices may end in. -/
theorem deleteBus_meets (message : String) (hdevice : c.device = none)
    (hdiscovery : c.discoveryDevice = none) :
    (c.deleteBus message).Meets (EspIdf mayFail) (Permits call before) c.owned
      fun out e' => e' = out.1.owned ∧
        (out.2.isOk = true ∧ out.1 = { c with bus := none } ∨
          mayFail ∧ out.2.isOk = false ∧ out.1 = c) := by
  unfold Context.deleteBus
  split
  · next hnone =>
      refine ⟨rfl, Or.inl ⟨rfl, ?_⟩⟩
      rw [← hnone]
  · next bus hbus =>
      simp only [esp, Program.call_bind, Program.done_bind, Program.pure_eq_done]
      refine ⟨⟨by simp [owned, hbus], by simp [owned, slots, hdevice, hdiscovery]⟩,
        fun reply e' hanswers => ?_⟩
      beta_reduce
      rcases hanswers.delMasterBus with ⟨hok, rfl⟩ | ⟨hmay, hfailed, rfl⟩
      · rw [if_neg (by simp [hok])]
        exact ⟨by simp [owned, slots, hbus, hdevice, hdiscovery], Or.inl ⟨rfl, rfl⟩⟩
      · rw [if_pos (by simp [hfailed])]
        exact ⟨rfl, Or.inr ⟨hmay, by simp [hfailed], rfl⟩⟩

/-- The bus is configured the same. -/
def SameBusConfig (c c' : Context) : Prop :=
  c'.busConfig = c.busConfig ∧ c'.hasBusConfig = c.hasBusConfig

/-- **Closing** gives all handles back, or stops with those that are left. -/
theorem Sound.close (h : c.Sound) :
    c.close.Meets (EspIdf mayFail) (Permits call before) c.owned fun out e' =>
      Owns c out.1 e' ∧ SameBusConfig c out.1 ∧
        (out.2.isOk = true ∧ out.1.isOpen = false ∨ mayFail ∧ out.2.isOk = false) := by
  unfold Context.close
  refine (h.removeDiscovery _).bind fun out e' hout => ?_
  obtain ⟨c₁, status⟩ := out
  obtain ⟨rfl, ⟨hok, hc₁⟩ | ⟨hmay, hfailed, rfl⟩⟩ := hout
  · have h₁ := h.undiscovered hc₁
    dsimp only at hok ⊢
    rw [if_neg (by simp [hok])]
    refine (h₁.removeDevice _).bind fun out e' hout => ?_
    obtain ⟨c₂, status⟩ := out
    obtain ⟨rfl, ⟨hok, hc₂⟩ | ⟨hmay, hfailed, rfl⟩⟩ := hout
    · dsimp only at hok hc₂ ⊢
      rw [if_neg (by simp [hok])]
      obtain ⟨address, rfl⟩ := hc₁
      subst hc₂
      refine (deleteBus_meets _ rfl rfl).imp fun out e' hout => ?_
      obtain ⟨he, ⟨hok, hc₃⟩ | ⟨hmay, hfailed, hc₃⟩⟩ := hout
      · rw [he, hc₃]
        exact ⟨⟨rfl, h₁.withoutDevice.withoutBus rfl rfl, rfl, rfl⟩, ⟨rfl, rfl⟩,
          Or.inl ⟨hok, rfl⟩⟩
      · rw [he, hc₃]
        exact ⟨⟨rfl, h₁.withoutDevice, rfl, rfl⟩, ⟨rfl, rfl⟩, Or.inr ⟨hmay, hfailed⟩⟩
    · dsimp only at hfailed ⊢
      rw [if_pos (by simp [hfailed])]
      obtain ⟨address, rfl⟩ := hc₁
      exact ⟨⟨rfl, h₁, rfl, rfl⟩, ⟨rfl, rfl⟩, Or.inr ⟨hmay, hfailed⟩⟩
  · dsimp only at hfailed ⊢
    rw [if_pos (by simp [hfailed])]
    exact ⟨⟨rfl, h, rfl, rfl⟩, ⟨rfl, rfl⟩, Or.inr ⟨hmay, hfailed⟩⟩

/-! ### Taking handles -/

/-- A closed context owns nothing. -/
theorem owned_of_closed (hclosed : c.isOpen = false) : c.owned = {} := by
  simp only [isOpen, Bool.or_eq_false_iff, Option.isSome_eq_false_iff, Option.isNone_iff_eq_none]
    at hclosed
  simp [owned, slots, hclosed.1.1]

/-- These are the checks of `open`. -/
theorem configured_iff {config : BusConfig} {address : U8} :
    Configured config address ↔ ¬ (config.sda = gpioNumNc ∨ config.scl = gpioNumNc ∨
      validFrequency config.frequencyHz = false ∨ address < 0x08 ∨ 0x77 < address) := by
  simp only [not_or, Bool.not_eq_false, BitVec.not_lt]
  constructor
  · rintro ⟨hsda, hscl, hfrequency, hlow, hhigh⟩
    exact ⟨hsda, hscl, hfrequency, hlow, hhigh⟩
  · rintro ⟨hsda, hscl, hfrequency, hlow, hhigh⟩
    exact ⟨hsda, hscl, hfrequency, hlow, hhigh⟩

/-- The bus and the device are open. -/
structure Attached (context : Context) : Prop where
  bus : context.bus.isSome = true
  device : context.device.isSome = true

/-- What was attached stays attached, and a call that makes sense on it succeeds, unless ESP-IDF
fails. -/
structure Serves (mayFail : Prop) (sensible : Prop) (c c' : Context) (status : Status) : Prop where
  attached : c.Attached → c'.Attached ∨ mayFail
  succeeds : c.Attached → sensible → status.isOk = true ∨ mayFail

/-- A call that is refused serves as long as it makes no sense. -/
theorem Serves.refused {sensible : Prop} {status : Status} (h : c.Attached → ¬ sensible) :
    Serves mayFail sensible c c status :=
  ⟨fun hattached => Or.inl hattached, fun hattached hsensible => absurd hsensible (h hattached)⟩

/-- An attached context is open. -/
theorem Attached.isOpen (h : c.Attached) : c.isOpen = true := by
  simp [Context.isOpen, h.bus]

/-- **Opening** takes a bus and a device, or fails with nothing but perhaps the bus. -/
theorem Sound.open_ (h : c.Sound) (config : BusConfig) :
    (c.open_ config).Meets (EspIdf mayFail) (Permits call before) c.owned fun out e' =>
      Owns c out.1 e' ∧ (c.isOpen = true → out.1 = c) ∧
        (out.2.isOk = true ∧ out.1.Attached ∧ out.1.discoveryDevice = none ∧
            out.1.busConfig = config ∨
          out.2.isOk = false ∧
            (c.isOpen = false → Configured config c.address → mayFail)) := by
  unfold Context.open_
  refine .ite (fun hopen => ?_) fun hclosed => ?_
  · refine ⟨⟨rfl, h, rfl, rfl⟩, fun _ => rfl, Or.inr ⟨rfl, fun hclosed => ?_⟩⟩
    rw [hopen] at hclosed
    cases hclosed
  have hkept {c' : Context} (hopen : c.isOpen = true) : c' = c := absurd hopen hclosed
  rw [Bool.not_eq_true] at hclosed
  refine .ite (fun hinvalid => ?_) fun hvalid => ?_
  · exact ⟨⟨rfl, h, rfl, rfl⟩, hkept,
      Or.inr ⟨rfl, fun _ hconfig => absurd hinvalid (configured_iff.mp hconfig)⟩⟩
  have hconfig : Configured config c.address := configured_iff.mpr hvalid
  rw [owned_of_closed hclosed]
  simp only [isOpen, Bool.or_eq_false_iff, Option.isSome_eq_false_iff, Option.isNone_iff_eq_none]
    at hclosed
  obtain ⟨⟨hbus, hdevice⟩, hdiscovery⟩ := hclosed
  -- whatever handles it gets, the context is sound from here on
  have hsound {c' : Context} (hbusConfig : c'.busConfig = config) (haddress : c'.address = c.address)
      (hhas : c'.hasBusConfig = true) (hnone : c'.discoveryDevice = none)
      (hattached : c'.device.isSome = true → c'.bus.isSome = true) : c'.Sound :=
    ⟨fun _ => hbusConfig ▸ haddress ▸ hconfig, fun _ => hhas, hattached,
      fun hsome => by simp [hnone] at hsome, fun device hsome => by simp [hnone] at hsome⟩
  simp only [esp, Program.call_bind, Program.done_bind, Program.pure_eq_done]
  refine ⟨⟨rfl, rfl⟩, fun reply e' hanswers => ?_⟩
  beta_reduce
  rcases hanswers.newMasterBus with ⟨hok, rfl⟩ | ⟨hmay, hfailed, rfl⟩
  · rw [if_neg (by simp [hok])]
    refine ⟨⟨List.mem_singleton_self _, hconfig.address, hconfig.frequency⟩,
      fun added e' hanswers => ?_⟩
    beta_reduce
    rcases hanswers.addDevice with ⟨hok, -, rfl⟩ | ⟨hmay, hfailed, rfl⟩
    · rw [if_neg (by simp [hok])]
      refine ⟨⟨?_, hsound rfl rfl rfl hdiscovery fun _ => rfl, rfl, rfl⟩, hkept,
        Or.inl ⟨rfl, ⟨rfl, rfl⟩, hdiscovery, rfl⟩⟩
      simp [owned, slots, hdiscovery]
    · rw [if_pos (by simp [hfailed])]
      refine ⟨⟨List.mem_singleton_self _, fun slot hslot => by cases hslot⟩,
        fun rollback e' hanswers => ?_⟩
      beta_reduce
      rcases hanswers.delMasterBus with ⟨hok, rfl⟩ | ⟨hmay, hfailed', rfl⟩
      · rw [if_neg (by simp [hok])]
        refine ⟨⟨?_, hsound rfl rfl rfl hdiscovery fun hsome => ?_, rfl, rfl⟩, hkept,
          Or.inr ⟨by simp [hfailed], fun _ _ => hmay⟩⟩
        · simp [owned, slots, hbus]
        · simp [hdevice] at hsome
      · rw [if_pos hfailed']
        refine ⟨⟨?_, hsound rfl rfl rfl hdiscovery fun _ => rfl, rfl, rfl⟩, hkept,
          Or.inr ⟨by simp [hfailed'], fun _ _ => hmay⟩⟩
        simp [owned, slots, hdiscovery, hdevice]
  · rw [if_pos (by simp [hfailed])]
    refine ⟨⟨?_, hsound rfl rfl rfl hdiscovery fun hsome => ?_, rfl, rfl⟩, hkept,
      Or.inr ⟨by simp [hfailed], fun _ _ => hmay⟩⟩
    · simp [owned, slots, hbus]
    · simp [hdevice] at hsome

end Context

end Ldc1614.Esp32I2c
