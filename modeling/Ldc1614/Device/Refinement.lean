import Ldc1614.Device.Timeline

/-! # The behavioural device refines the register file

Seen from the configuration registers alone, the life of the behavioural device is a run of the
register file: what its conversions, its latches and its status do, the register file does not see. -/

namespace Ldc1614

open Cmd Driver Interaction

/-- A forced failure that reports a missing acknowledge has not committed its write. -/
def ForcedFailure.Credible (failure : ForcedFailure) : Prop :=
  failure.commitWriteBeforeFailure = true → failure.status.code ≠ .i2cNackAddr

/-- The failure forced on an exchange, if any. -/
def Tick.forced : Tick → Option ForcedFailure
  | .exchange _ _ forced => forced
  | _ => none

namespace FakeLdc1614Device

variable {dev dev' : FakeLdc1614Device} {tick : Tick}

/-- The writable registers are mapped. -/
theorem lt_of_configuration : ∀ reg, isConfigurationRegister reg = true → reg < 128 := by
  decide

/-- A write leaves the configuration that the register file says. -/
theorem applyWrite_registers (dev : FakeLdc1614Device) (reg : U8) (value : U16) :
    SameConfiguration (dev.reg.applyWrite reg value) (dev.applyWrite reg value).reg := by
  unfold applyWrite Registers.applyWrite
  by_cases hreset : reg = regResetDev ∧ value &&& maskResetDev ≠ 0
  · rw [if_pos hreset, if_pos (by simpa using hreset)]
    exact .refl resetRegisters
  · rw [if_neg hreset, if_neg (by simpa using hreset)]
    dsimp only
    by_cases hmapped : reg < 128
    · rw [if_pos hmapped]
      split
      · exact .refl _
      · exact .refl _
    · -- an unmapped register is not one of the configuration
      rw [if_neg hmapped]
      intro target htarget
      have hother : target ≠ reg := fun h => hmapped (h ▸ lt_of_configuration target htarget)
      rw [Function.update_of_ne hother]
      split
      · rfl
      · rfl

/-- A read leaves the registers alone. -/
theorem readValue_reg (dev : FakeLdc1614Device) (reg : U8) : (dev.readValue reg).1.reg = dev.reg := by
  unfold readValue
  repeat' split
  all_goals rfl

/-- So do its side effects, and the address. -/
theorem applyReadSideEffects_frame (dev : FakeLdc1614Device) (reg : U8) :
    (dev.applyReadSideEffects reg).acceptedAddress = dev.acceptedAddress ∧
      (dev.applyReadSideEffects reg).reg = dev.reg := by
  unfold applyReadSideEffects
  dsimp only
  repeat' split
  all_goals exact ⟨rfl, rfl⟩

/-- A write callback is a write to the register file. -/
theorem write_leaves {address : U8} {reg high low : U8} {forced : Option ForcedFailure} {reply : Reply}
    (hcredible : ∀ failure ∈ forced, failure.Credible)
    (h : dev.write address [reg, high, low] forced = (dev', reply)) :
    Leaves dev.reg (.write reg ((high.setWidth 16 <<< 8) ||| low.setWidth 16)) reply.status
      dev'.reg := by
  have happlied := dev.applyWrite_registers reg ((high.setWidth 16 <<< 8) ||| low.setWidth 16)
  by_cases haddress : address = dev.acceptedAddress
  · cases forced with
    | none =>
        rw [write, if_neg (not_not.mpr haddress)] at h
        obtain ⟨rfl, rfl⟩ := Prod.mk.inj h
        exact .stored (fun hcode => Err.noConfusion hcode) happlied
    | some failure =>
        rw [write, if_neg (not_not.mpr haddress)] at h
        obtain ⟨rfl, rfl⟩ := Prod.mk.inj h
        cases hcommit : failure.commitWriteBeforeFailure with
        | true => exact .stored (hcredible failure rfl hcommit) happlied
        | false => exact .lost failure.failed (.refl _)
  · simp only [write, ne_eq, haddress, not_false_iff, if_true] at h
    obtain ⟨rfl, rfl⟩ := Prod.mk.inj h
    exact .lost rfl (.refl _)

/-- A read callback leaves the registers alone. -/
theorem writeRead_reg {address : U8} {txData : List U8} {rxLength : ℕ}
    {forced : Option ForcedFailure} {reply : Reply}
    (h : dev.writeRead address txData rxLength forced = (dev', reply)) : dev'.reg = dev.reg := by
  unfold writeRead at h
  split at h
  · next reg =>
      split at h
      · obtain ⟨rfl, -⟩ := Prod.mk.inj h
        rfl
      · split at h
        · obtain ⟨rfl, -⟩ := Prod.mk.inj h
          rfl
        · cases forced with
          | none =>
              rw [← (Prod.mk.inj h).1]
              exact (applyReadSideEffects_frame _ reg).2.trans (dev.readValue_reg reg)
          | some failure =>
              rw [← (Prod.mk.inj h).1]
              exact dev.readValue_reg reg
  · obtain ⟨rfl, -⟩ := Prod.mk.inj h
    rfl

/-- A malformed write is refused. -/
theorem write_malformed {address : U8} {data : List U8} {forced : Option ForcedFailure}
    {reply : Reply} (hdata : ∀ reg high low, data ≠ [reg, high, low])
    (h : dev.write address data forced = (dev', reply)) : dev' = dev := by
  unfold write at h
  split at h
  · exact absurd rfl (hdata _ _ _)
  · exact (Prod.mk.inj h).1.symm

/-- **An exchange is a step of the register file.** -/
theorem serve_step {call : Call} {request : Request} {reply : Reply} {forced : Option ForcedFailure}
    (hcredible : ∀ failure ∈ forced, failure.Credible)
    (h : dev.serve request forced = (dev', reply)) :
    DeviceStep dev.reg (.bus call (request, reply)) dev'.reg := by
  cases request with
  | i2cWrite callback address data timeoutMs user =>
      by_cases hdata : ∃ reg high low, data = [reg, high, low]
      · obtain ⟨reg, high, low, rfl⟩ := hdata
        exact .transfer rfl (write_leaves hcredible h)
      · have hshape : ∀ reg high low, data ≠ [reg, high, low] := fun reg high low heq =>
          hdata ⟨reg, high, low, heq⟩
        rw [write_malformed hshape h]
        refine .observe ?_ (.refl _)
        unfold Request.transfer
        split
        · next heq =>
            cases heq
            exact absurd rfl (hshape _ _ _)
        · next heq => cases heq
        · rfl
  | i2cWriteRead callback address txData rxLength timeoutMs user =>
      rw [writeRead_reg h]
      generalize hrequest : Request.i2cWriteRead callback address txData rxLength timeoutMs user =
        request
      cases htransfer : request.transfer with
      | none => exact .observe htransfer (.refl _)
      | some transfer =>
          have hread : ∃ reg, transfer = .read reg := by
            subst hrequest
            unfold Request.transfer at htransfer
            split at htransfer
            · next heq => cases heq
            · exact ⟨_, (Option.some.inj htransfer).symm⟩
            · cases htransfer
          obtain ⟨reg, rfl⟩ := hread
          exact .transfer htransfer (.read (.refl _))
  | intbAsserted callback user =>
      obtain ⟨rfl, -⟩ := Prod.mk.inj h
      exact .observe rfl (.refl _)

end FakeLdc1614Device

section Life

variable {dev dev' : FakeLdc1614Device} {tick : Tick} {ticks : List Tick}

/-- What happens to the device is a step of the register file, or leaves it alone. -/
theorem DeviceTick.registers (h : DeviceTick dev tick dev')
    (hcredible : ∀ failure ∈ tick.forced, failure.Credible) :
    Path DeviceStep dev.reg tick.mark.toList dev'.reg := by
  cases h with
  | exchange hserve => exact .single (FakeLdc1614Device.serve_step hcredible hserve)
  | ret => exact .single (.idle (.refl _))
  | conversion conversion =>
      obtain ⟨-, hreg, -, -⟩ := dev.injectConversion_frame conversion
      rw [hreg]
      exact .nil

/-- **Refinement.** A life of the device is a run of its register file. -/
theorem DeviceLife.registers (h : DeviceLife dev ticks dev')
    (hcredible : ∀ tick ∈ ticks, ∀ failure ∈ tick.forced, failure.Credible) :
    DeviceRun dev.reg (ticks.filterMap Tick.mark) dev'.reg := by
  induction h with
  | nil => exact .nil
  | @snoc ticks tick m m' _ hstep ih =>
      have hpast := ih fun t ht => hcredible t (List.mem_append_left _ ht)
      have hlast := DeviceTick.registers hstep (hcredible tick (by simp))
      have hmark : [tick].filterMap Tick.mark = tick.mark.toList := by
        cases tick <;> rfl
      rw [List.filterMap_append, hmark]
      exact hpast.append hlast

end Life

end Ldc1614
