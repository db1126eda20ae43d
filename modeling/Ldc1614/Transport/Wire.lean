import Ldc1614.Device.Registers
import Ldc1614.Transport.Calls

/-! # The device on the wire

ESP-IDF next to the registers of the device at one address: what a transmission may leave in them,
and from it what a call of the transport does. Whatever a transfer reports, a call never reports a
missing address acknowledge, so that a status of the transport never promises more than ESP-IDF
knows. -/

namespace Ldc1614.Esp32I2c

open Interaction

/-- The handle is of a device at this address. -/
def At (e : EspState) (device : Handle) (address : U8) : Prop :=
  ∃ slot ∈ e.devices, slot.device = device ∧ slot.config.deviceAddress = address

/-- The request transmits bytes and receives none. -/
def EspRequest.transmits : EspRequest → Bool
  | .transmit _ _ _ => true
  | _ => false

/-- What a call of ESP-IDF may leave in the registers of the device at this address. -/
inductive OnWire (address : U8) (e : EspState) (dev : Registers) :
    EspRequest → EspReply → Registers → Prop
  /-- A register write has been stored, perhaps also one that failed. -/
  | stored {device reg} {high low : U8} {timeoutMs reply dev'} (hat : At e device address)
      (h : SameConfiguration
        (dev.applyWrite reg ((high.setWidth 16 <<< 8) ||| low.setWidth 16)) dev') :
      OnWire address e dev (.transmit device [reg, high, low] timeoutMs) reply dev'
  /-- A transmission that failed may have stored nothing. -/
  | lost {device data timeoutMs reply dev'} (hfailed : reply.err ≠ espOk)
      (h : SameConfiguration dev dev') :
      OnWire address e dev (.transmit device data timeoutMs) reply dev'
  /-- A transmission to another address stores nothing. -/
  | elsewhere {device data timeoutMs reply other dev'} (hat : At e device other)
      (hother : ¬ At e device address) (h : SameConfiguration dev dev') :
      OnWire address e dev (.transmit device data timeoutMs) reply dev'
  /-- What is stored through a handle of no device, or by other than three bytes, is not known. -/
  | unknown {device data timeoutMs reply dev'}
      (h : (∀ other, ¬ At e device other) ∨ ∀ reg high low, data ≠ [reg, high, low]) :
      OnWire address e dev (.transmit device data timeoutMs) reply dev'
  | quiet {request reply dev'} (hquiet : request.transmits = false)
      (h : SameConfiguration dev dev') : OnWire address e dev request reply dev'

/-- ESP-IDF and the registers of the device at this address. -/
def Wire (address : U8) : Environment (EspState × Registers) EspRequest EspReply :=
  fun w request reply w' =>
    EspIdf True w.1 request reply w'.1 ∧ OnWire address w.1 w.2 request reply w'.2

/-- What is next to the device is ESP-IDF. -/
theorem espIdf_of_wire {address : U8} {w w' : EspState × Registers}
    {events : List (EspRequest × EspReply)} (h : Path (Wire address).Step w events w') :
    Path (EspIdf True).Step w.1 events w'.1 := by
  induction h with
  | nil => exact .nil
  | snoc _ hstep ih => exact ih.snoc hstep.1

/-- ESP-IDF behind this reply, and a device that stores what is transmitted to it. -/
def wireAfter (address : U8) (w : EspState × Registers) (event : EspRequest × EspReply) :
    Option (EspState × Registers) :=
  match event.1 with
  | .transmit device [reg, high, low] _ =>
      if w.1.devices.any (fun slot => slot.device == device && slot.config.deviceAddress == address)
      then (w.1.after event).map fun e =>
        (e, w.2.applyWrite reg ((high.setWidth 16 <<< 8) ||| low.setWidth 16))
      else none
  | .transmit _ _ _ => none
  | _ => (w.1.after event).map fun e => (e, w.2)

/-- That device is one of those the wire allows. -/
theorem wire_of_after {address : U8} {w w' : EspState × Registers} {event : EspRequest × EspReply}
    (h : wireAfter address w event = some w') : (Wire address).Step w event w' := by
  have hquiet (hnone : event.1.transmits = false)
      (hafter : (w.1.after event).map (fun e => (e, w.2)) = some w') :
      (Wire address).Step w event w' := by
    obtain ⟨e, he, rfl⟩ := Option.map_eq_some_iff.mp hafter
    exact ⟨espIdf_of_after (fun _ => trivial) he, .quiet hnone (.refl _)⟩
  obtain ⟨request, reply⟩ := event
  unfold wireAfter at h
  dsimp only at h
  split at h
  · next device reg high low timeoutMs =>
      obtain ⟨hat, hafter⟩ := Option.ite_none_right_eq_some.mp h
      obtain ⟨e, he, rfl⟩ := Option.map_eq_some_iff.mp hafter
      simp only [List.any_eq_true, Bool.and_eq_true, beq_iff_eq] at hat
      exact ⟨espIdf_of_after (fun _ => trivial) he, .stored hat (.refl _)⟩
  · cases h
  · next hother =>
      refine hquiet ?_ h
      cases request with
      | transmit device data timeoutMs => exact absurd rfl (hother device data timeoutMs)
      | _ => rfl

section Statuses

variable {error : EspErr} {message : String}

/-- No code of ESP-IDF is taken for a missing address acknowledge. -/
theorem mapEspErr_ne_nack : (mapEspErr error message).code ≠ .i2cNackAddr := by
  unfold mapEspErr
  repeat' split
  all_goals simp [Status.ok, Status.error]

theorem mapTransactionErr_ne_nack : (mapTransactionErr error message).code ≠ .i2cNackAddr := by
  unfold mapTransactionErr
  split
  · simp [Status.error]
  · exact mapEspErr_ne_nack

/-- What has succeeded is reported as such. -/
theorem mapTransactionErr_ok (hok : error = espOk) : mapTransactionErr error message = .ok := by
  subst hok
  rfl

end Statuses

section Calls

variable {address : U8} {origin c : Context} {w w' : EspState × Registers}
  {t : TransportTransition} {events : List (EspRequest × EspReply)}

/-- A callback that is refused has failed. -/
theorem validate_eq_error {target : U8} {status : Status} (h : c.validate target = .error status) :
    status.isOk = false := by
  unfold Context.validate at h
  split at h
  · obtain rfl := Except.error.inj h
    rfl
  · split at h
    · obtain rfl := Except.error.inj h
      rfl
    · cases h

/-- A write callback that transmits does so once, to the device of the context, and reports what it
was told. -/
theorem yields_write {target : U8} {data : List U8} {timeoutMs : U32} {out : Context × Status}
    (h : (c.write target data timeoutMs).Yields events out) :
    events = [] ∧ out.2.isOk = false ∨
      ∃ device reply, events = [(.transmit device data (clampTimeoutMs timeoutMs), reply)] ∧
        target = c.address ∧ out.2 = mapTransactionErr reply.err "I2C write failed" := by
  unfold Context.write at h
  split at h
  · next status hvalidate =>
      obtain ⟨rfl, rfl⟩ := h
      exact Or.inl ⟨rfl, validate_eq_error hvalidate⟩
  · next device hvalidate =>
      split at h
      · obtain ⟨rfl, rfl⟩ := h
        exact Or.inl ⟨rfl, rfl⟩
      · obtain ⟨reply, rest, rfl, rfl, rfl⟩ := h
        exact Or.inr ⟨device, reply, rfl, (Context.validate_eq_ok hvalidate).2, rfl⟩

/-- So does a read callback. -/
theorem yields_writeRead {target : U8} {txData : List U8} {rxLength : ℕ} {timeoutMs : U32}
    {out : Context × Status × List U8}
    (h : (c.writeRead target txData rxLength timeoutMs).Yields events out) :
    events = [] ∧ out.2.1.isOk = false ∨
      ∃ device reply, events =
          [(.transmitReceive device txData rxLength (clampTimeoutMs timeoutMs), reply)] ∧
        out.2 = (mapTransactionErr reply.err "I2C write-read failed", reply.rx) := by
  unfold Context.writeRead at h
  split at h
  · next status hvalidate =>
      obtain ⟨rfl, rfl⟩ := h
      exact Or.inl ⟨rfl, validate_eq_error hvalidate⟩
  · next device hvalidate =>
      split at h
      · obtain ⟨rfl, rfl⟩ := h
        exact Or.inl ⟨rfl, rfl⟩
      · obtain ⟨reply, rest, rfl, rfl, rfl⟩ := h
        exact Or.inr ⟨device, reply, rfl, rfl⟩

/-- A callback that has a pin reads its level. -/
theorem yields_intbAsserted {out : Status × Bool} (hpin : c.intb ≠ gpioNumNc)
    (h : c.intbAsserted.Yields events out) :
    ∃ reply, events = [(.getLevel c.intb, reply)] ∧ out = (.ok, reply.level == 0) := by
  rw [Context.intbAsserted, if_neg hpin] at h
  obtain ⟨reply, rest, rfl, rfl, rfl⟩ := h
  exact ⟨reply, rfl, rfl⟩

/-- Requests that transmit nothing leave the device alone. -/
theorem same_of_quiet {permits : Contract (EspState × Registers) EspRequest}
    (hquiet : ∀ w request, permits w request → request.transmits = false)
    (h : Path ((Wire address).Kept permits) w events w') : SameConfiguration w.2 w'.2 := by
  induction h with
  | nil => exact .refl _
  | @snoc _ event _ _ _ hstep ih =>
      obtain ⟨request, reply⟩ := event
      obtain ⟨hpermits, -, heffect⟩ := hstep
      have hnone := hquiet _ _ hpermits
      cases heffect with
      | quiet _ h => exact ih.trans h
      | _ => cases hnone

/-- A call of the transport next to the device at its address. -/
abbrev WireCall (origin : Context) : EspState × Registers → TransportTransition →
    EspState × Registers → Prop :=
  Beside (Wire origin.address) (fun call c w => Permits call c w.1) TransportCall.exec
    (fun c w => Owns origin c w.1) fun _ _ _ => True

/-- A call that is to send nothing leaves the device alone. -/
theorem same_of_call (h : WireCall origin w t w') (hnone : t.call.sends = none) :
    SameConfiguration w.2 w'.2 := by
  refine same_of_quiet (fun w request hpermits => ?_) h.kept
  cases request with
  | transmit =>
      have hsends := hpermits.1
      rw [hnone] at hsends
      cases hsends
  | _ => rfl

/-- **A write callback is a transfer to the device**: a confirmed write was stored there, one that
failed may have been. -/
theorem leaves_of_call {target reg high low : U8} {timeoutMs : U32} (h : WireCall origin w t w')
    (hcall : t.call = .write target [reg, high, low] timeoutMs) :
    Leaves w.2 (.write reg ((high.setWidth 16 <<< 8) ||| low.setWidth 16)) t.output.status w'.2 := by
  have hv := h.valid
  have hkept := h.kept
  rw [Transition.Valid, hcall] at hv
  obtain ⟨first, out, rest, hevents, hwrite, hend⟩ := Program.yields_bind.mp hv
  obtain ⟨rfl, hout⟩ := hend
  have hstatus : t.output.status = out.2 := congrArg (fun out => out.2.status) hout
  rw [hevents, List.append_nil, hcall] at hkept
  rw [hstatus]
  rcases yields_write hwrite with ⟨rfl, hfailed⟩ | ⟨device, reply, rfl, htarget, hreport⟩
  · obtain rfl := hkept.of_nil
    exact .lost hfailed (.refl _)
  · obtain ⟨hpermits, -, heffect⟩ := hkept.of_single
    obtain ⟨-, -, slot, hslot, hdevice, haddress, -⟩ := hpermits
    -- the device that the context holds is at its address
    have hat : At w.1 device origin.address := by
      refine ⟨slot, hslot, hdevice, ?_⟩
      rw [← h.before.address, ← htarget]
      exact (Option.some.inj haddress).symm
    rw [hreport]
    cases heffect with
    | stored _ hsame => exact .stored mapTransactionErr_ne_nack hsame
    | lost hfailed hsame => exact .lost (by simp [hfailed]) hsame
    | elsewhere _ hother => exact absurd hat hother
    | unknown hunknown =>
        rcases hunknown with hnone | hlength
        · exact absurd hat (hnone _)
        · exact absurd rfl (hlength reg high low)
    | quiet hquiet => cases hquiet

end Calls

end Ldc1614.Esp32I2c
