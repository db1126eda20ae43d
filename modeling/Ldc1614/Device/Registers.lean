import Ldc1614.Driver.Steps

/-! # The device as a register file

What the bus does to the configuration registers of the device, whatever the device answers: a
confirmed write is stored, a write that was not acknowledged changes nothing, and any other failed
write may or may not have been stored. Configuration bits change in no other way, but for the
read-only INIT_IDRIVE codes. -/

namespace Ldc1614

open Cmd Interaction

/-! ### Registers -/

/-- The words of the registers. -/
abbrev Registers := U8 → U16

/-- The registers behind a reset. -/
def resetRegisters : Registers := fun reg =>
  if reg = regManufacturerId then manufacturerIdValue
  else if reg = regDeviceId then deviceIdValue
  else if reg = regConfig then configDefault
  else if reg = regMuxConfig then muxConfigDefault
  else if reg = regErrorConfig then errorConfigDefault
  else if regRcount0 ≤ reg && reg ≤ regRcount3 then rcountDefault
  else 0

/-- The registers behind a write that took effect. -/
def Registers.applyWrite (dev : Registers) (reg : U8) (value : U16) : Registers :=
  if reg = regResetDev ∧ value &&& maskResetDev ≠ 0 then resetRegisters
  else Function.update dev reg value

/-- The bits of a register that only writes change. -/
def persistentBits (reg : U8) : U16 :=
  if regDriveCurrent0 ≤ reg && reg ≤ regDriveCurrent3 then ~~~maskInitIdrive else 0xFFFF

/-- Two register files hold the same configuration. -/
def SameConfiguration (dev dev' : Registers) : Prop :=
  ∀ reg, isConfigurationRegister reg = true →
    dev' reg &&& persistentBits reg = dev reg &&& persistentBits reg

/-- A register holds the word of a replay write. -/
def Registers.Written (dev : Registers) (write : ConfigWrite) : Prop :=
  dev write.reg &&& persistentBits write.reg = write.value &&& persistentBits write.reg

/-! ### What a transfer leaves -/

/-- What a transfer with this status may leave in the registers. -/
inductive Leaves (dev : Registers) : Transfer → Status → Registers → Prop
  | read {reg status dev'} (h : SameConfiguration dev dev') : Leaves dev (.read reg) status dev'
  /-- The write took effect; without an acknowledge it cannot have. -/
  | stored {reg value status dev'} (hreached : status.code ≠ .i2cNackAddr)
      (h : SameConfiguration (dev.applyWrite reg value) dev') :
      Leaves dev (.write reg value) status dev'
  /-- The write did not take effect; a confirmed one always does. -/
  | lost {reg value status dev'} (hfailed : status.isOk = false) (h : SameConfiguration dev dev') :
      Leaves dev (.write reg value) status dev'

/-- One step of the device along the timeline of a run. What a new binding addresses may be another
device. -/
inductive DeviceStep (dev : Registers) : Mark → Registers → Prop
  | transfer {call request transfer reply dev'} (hrequest : request.transfer = some transfer)
      (h : Leaves dev transfer reply.status dev') : DeviceStep dev (.bus call (request, reply)) dev'
  | observe {call request reply dev'} (hrequest : request.transfer = none)
      (h : SameConfiguration dev dev') : DeviceStep dev (.bus call (request, reply)) dev'
  | idle {call output dev'} (h : SameConfiguration dev dev') : DeviceStep dev (.ret call output) dev'
  | rebound {mark dev'} (h : mark.rebinds = true) : DeviceStep dev mark dev'

/-- The device along a timeline. -/
abbrev DeviceRun : Registers → List Mark → Registers → Prop := Path DeviceStep

section Registers

variable {dev dev' dev'' : Registers} {reg target : U8} {value : U16}

/-- Registers hold their own configuration. -/
theorem SameConfiguration.refl (dev : Registers) : SameConfiguration dev dev := fun _ _ => rfl

/-- Two changes that keep the configuration keep it together. -/
theorem SameConfiguration.trans (h : SameConfiguration dev dev')
    (h' : SameConfiguration dev' dev'') : SameConfiguration dev dev'' := by
  intro reg hreg
  rw [h' reg hreg, h reg hreg]

/-- A plain write stores its value and touches no other register. -/
theorem applyWrite_of_ne (h : target ≠ regResetDev) (value : U16) :
    dev.applyWrite target value = Function.update dev target value := by
  rw [Registers.applyWrite, if_neg fun hreset => h hreset.1]

/-- Behind a plain write, its register holds the value. -/
theorem SameConfiguration.stored (h : SameConfiguration (dev.applyWrite target value) dev')
    (hreset : target ≠ regResetDev) (hconfig : isConfigurationRegister target = true) :
    dev' target &&& persistentBits target = value &&& persistentBits target := by
  rw [h target hconfig, applyWrite_of_ne hreset, Function.update_self]

/-- Behind a plain write, every other register holds what it held. -/
theorem SameConfiguration.untouched (h : SameConfiguration (dev.applyWrite target value) dev')
    (hreset : target ≠ regResetDev) (hconfig : isConfigurationRegister reg = true)
    (hne : reg ≠ target) :
    dev' reg &&& persistentBits reg = dev reg &&& persistentBits reg := by
  rw [h reg hconfig, applyWrite_of_ne hreset, Function.update_of_ne hne]

/-- A write that reported success took effect. -/
theorem Leaves.of_isOk {status : Status} (h : Leaves dev (.write reg value) status dev')
    (hok : status.isOk = true) : SameConfiguration (dev.applyWrite reg value) dev' := by
  cases h with
  | stored _ h => exact h
  | lost hfailed => exact absurd (hok.symm.trans hfailed) Bool.noConfusion

/-- A write that was not acknowledged did not. -/
theorem Leaves.of_not_reached {status : Status} (h : Leaves dev (.write reg value) status dev')
    (hnack : transferFailureMayHaveReachedDevice status = false) : SameConfiguration dev dev' := by
  cases h with
  | stored hreached =>
      rw [transferFailureMayHaveReachedDevice, bne_eq_false_iff_eq] at hnack
      exact absurd hnack hreached
  | lost _ h => exact h

/-- A read changes no configuration. -/
theorem Leaves.of_read {status : Status} (h : Leaves dev (.read reg) status dev') :
    SameConfiguration dev dev' := by
  cases h with
  | read h => exact h

/-- A device that stores every write that may have reached it, at this mark. -/
def Registers.after (dev : Registers) : Mark → Registers
  | .bus _ (request, reply) =>
      match request.transfer with
      | some (.write reg value) =>
          if transferFailureMayHaveReachedDevice reply.status then dev.applyWrite reg value else dev
      | _ => dev
  | .ret _ _ => dev

/-- That device is one of those the steps allow. -/
theorem deviceStep_after (dev : Registers) (mark : Mark) : DeviceStep dev mark (dev.after mark) := by
  cases mark with
  | ret call output => exact .idle (.refl dev)
  | bus call event =>
      obtain ⟨request, reply⟩ := event
      unfold Registers.after
      dsimp only
      split
      · next reg value hrequest =>
          refine .transfer hrequest ?_
          split
          · next hreached =>
              rw [transferFailureMayHaveReachedDevice, bne_iff_ne] at hreached
              exact .stored hreached (.refl _)
          · next hlost =>
              rw [transferFailureMayHaveReachedDevice, bne_iff_ne, not_not] at hlost
              refine .lost ?_ (.refl dev)
              rw [Status.isOk, hlost]
              rfl
      · next hother =>
          cases hrequest : request.transfer with
          | none => exact .observe hrequest (.refl dev)
          | some transfer =>
              cases transfer with
              | read reg => exact .transfer hrequest (.read (.refl dev))
              | write reg value => exact absurd hrequest (hother reg value)

/-- Every timeline has a device. -/
theorem deviceRun_foldl (dev : Registers) (labels : List Mark) :
    DeviceRun dev labels (labels.foldl Registers.after dev) := by
  induction labels using List.reverseRecOn with
  | nil => exact .nil
  | append_singleton labels mark ih =>
      rw [List.foldl_append, List.foldl_cons, List.foldl_nil]
      exact ih.snoc (deviceStep_after _ mark)

end Registers

end Ldc1614
