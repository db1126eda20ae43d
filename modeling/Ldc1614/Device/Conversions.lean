import Mathlib.Logic.Function.Basic
import Ldc1614.Device.Registers
import Ldc1614.Driver.Quality

/-! # The device with its conversions

The behavioural device `FakeLdc1614Device` of the tests: a register file together with what a flat
one misses, the conversion data and their destructive reads. Reading DATAx_MSB latches the matching
LSB word, consumes the unread flag of the channel and may clear its error evidence; reading STATUS
returns a snapshot and clears it; entering sleep mode and a reset clear everything. Conversions
arrive at any time, and any transfer may be forced to fail. -/

namespace Ldc1614

open Arithmetic Cmd Driver Interaction

/-! ### The state of the device -/

/-- The bits of STATUS that are silicon errors. -/
def statusErrorMask : U16 :=
  maskStatusErrUr ||| maskStatusErrOr ||| maskStatusErrWd ||| maskStatusErrAhe |||
    maskStatusErrAle ||| maskStatusErrZc

/-- The error bits of a DATAx_MSB word. -/
def dataErrorMask : U16 := maskDataErrUr ||| maskDataErrOr ||| maskDataErrWd ||| maskDataErrAe

/-- The fields of the device. -/
structure FakeLdc1614Device where
  acceptedAddress : U8 := 0x2A
  reg : Registers := fun _ => 0
  liveMsb : Fin 4 → U16 := fun _ => 0
  liveLsb : Fin 4 → U16 := fun _ => 0
  shadowMsb : Fin 4 → U16 := fun _ => 0
  shadowLsb : Fin 4 → U16 := fun _ => 0
  shadowValid : Fin 4 → Bool := fun _ => false
  unreadMask : U8 := 0
  stickyStatusErrors : U16 := 0
  errorChannel : U8 := 0
  dataReadyLatched : Bool := false
  intbAsserted : Bool := false

/-- One conversion, as `injectConversion` is told about it. -/
structure Conversion where
  ch : U8
  raw28 : U32
  dataErrors : U16 := 0
  statusErrors : U16 := 0
  deriving DecidableEq, Repr

/-- A failure forced on one transfer; a write may have been committed before it. -/
structure ForcedFailure where
  status : Status
  commitWriteBeforeFailure : Bool := false
  failed : status.isOk = false

namespace FakeLdc1614Device

/-! ### Conversions -/

/-- Forget all conversion data and evidence. -/
def clearConversionEvidence (dev : FakeLdc1614Device) : FakeLdc1614Device :=
  { dev with
    liveMsb := fun _ => 0
    liveLsb := fun _ => 0
    shadowMsb := fun _ => 0
    shadowLsb := fun _ => 0
    shadowValid := fun _ => false
    unreadMask := 0
    stickyStatusErrors := 0
    errorChannel := 0
    dataReadyLatched := false
    intbAsserted := false }

/-- All registers go to their reset values, and the conversion data are forgotten. -/
def resetDevice (dev : FakeLdc1614Device) : FakeLdc1614Device :=
  { dev with reg := resetRegisters }.clearConversionEvidence

/-- A device behind its construction, at this address. -/
def constructed (address : U8) : FakeLdc1614Device :=
  { acceptedAddress := address : FakeLdc1614Device }.resetDevice

/-- The channel whose conversion raises DRDY: the active one, or the last of the scan. -/
def lastConversionChannel (dev : FakeLdc1614Device) : U8 :=
  let mux := dev.reg regMuxConfig
  if (mux &&& maskMuxAutoscanEn) == 0 then
    ((dev.reg regConfig &&& maskCfgActiveChan) >>> bitCfgActiveChan).setWidth 8
  else
    let sequence : U8 := ((mux &&& maskMuxRrSequence) >>> bitMuxRrSequence).setWidth 8
    if sequence = 1 then 2 else if sequence = 2 then 3 else 1

/-- The STATUS part of a conversion: the first event since the last one that cleared it is kept. -/
def recordStatus (dev : FakeLdc1614Device) (conversion : Conversion) : FakeLdc1614Device :=
  let drdyRouted := (dev.reg regErrorConfig &&& maskErrcfgDrdy2int) != 0
  if dev.stickyStatusErrors = 0 && !dev.dataReadyLatched then
    let sticky := conversion.statusErrors &&& statusErrorMask
    let latched := drdyRouted && conversion.ch == dev.lastConversionChannel
    { dev with
      stickyStatusErrors := sticky
      dataReadyLatched := latched
      errorChannel := if sticky != 0 || latched then conversion.ch else dev.errorChannel }
  else dev

/-- INTB follows the latched events unless CONFIG disables it. -/
def raiseIntb (dev : FakeLdc1614Device) : FakeLdc1614Device :=
  let intbDisabled := (dev.reg regConfig &&& maskCfgIntbDis) != 0
  if !intbDisabled && (dev.dataReadyLatched || dev.stickyStatusErrors != 0) then
    { dev with intbAsserted := true }
  else dev

/-- A conversion completes. -/
def injectConversion (dev : FakeLdc1614Device) (conversion : Conversion) : FakeLdc1614Device :=
  if h : conversion.ch.toNat < 4 then
    let ch : Fin 4 := ⟨conversion.ch.toNat, h⟩
    let raw28 := conversion.raw28 &&& 0x0FFFFFFF
    let dev :=
      { dev with
        liveMsb := Function.update dev.liveMsb ch
          (((raw28 >>> 16) &&& 0x0FFF).setWidth 16 ||| (conversion.dataErrors &&& dataErrorMask))
        liveLsb := Function.update dev.liveLsb ch ((raw28 &&& 0xFFFF).setWidth 16)
        unreadMask := dev.unreadMask ||| indexBit ch }
    (dev.recordStatus conversion).raiseIntb
  else dev

/-- The STATUS part of a conversion touches nothing else. -/
theorem recordStatus_frame (dev : FakeLdc1614Device) (conversion : Conversion) :
    ∃ sticky channel latched asserted, (dev.recordStatus conversion).raiseIntb =
      { dev with
        stickyStatusErrors := sticky
        errorChannel := channel
        dataReadyLatched := latched
        intbAsserted := asserted } := by
  have hrecord : ∃ sticky channel latched, dev.recordStatus conversion =
      { dev with
        stickyStatusErrors := sticky
        errorChannel := channel
        dataReadyLatched := latched } := by
    unfold recordStatus
    dsimp only
    split <;> exact ⟨_, _, _, rfl⟩
  have hraise (e : FakeLdc1614Device) :
      ∃ asserted, e.raiseIntb = { e with intbAsserted := asserted } := by
    unfold raiseIntb
    dsimp only
    split <;> exact ⟨_, rfl⟩
  obtain ⟨sticky, channel, latched, hrecord⟩ := hrecord
  rw [hrecord]
  obtain ⟨asserted, hraise⟩ := hraise _
  exact ⟨sticky, channel, latched, asserted, hraise⟩

/-- A conversion touches neither the registers nor the latched words. -/
theorem injectConversion_frame (dev : FakeLdc1614Device) (conversion : Conversion) :
    (dev.injectConversion conversion).acceptedAddress = dev.acceptedAddress ∧
      (dev.injectConversion conversion).reg = dev.reg ∧
      (dev.injectConversion conversion).shadowLsb = dev.shadowLsb ∧
      (dev.injectConversion conversion).shadowValid = dev.shadowValid := by
  unfold injectConversion
  split
  · obtain ⟨sticky, channel, latched, asserted, hrecord⟩ := recordStatus_frame _ conversion
    rw [hrecord]
    exact ⟨rfl, rfl, rfl, rfl⟩
  · exact ⟨rfl, rfl, rfl, rfl⟩

/-! ### Reads -/

/-- The unread flag of a channel in STATUS. -/
def unreadStatusBit (ch : Fin 4) : U16 := 1#16 <<< (3 - ch.val)

/-- The STATUS word. -/
def statusValue (dev : FakeLdc1614Device) : U16 :=
  let value := dev.stickyStatusErrors
  let value := if dev.stickyStatusErrors != 0 || dev.dataReadyLatched then
    value ||| (dev.errorChannel.setWidth 16 <<< bitStatusErrChan) else value
  let value := setBits value dev.dataReadyLatched maskStatusDrdy
  (List.finRange 4).foldl (fun value ch =>
    setBits value ((dev.unreadMask &&& indexBit ch) != 0) (unreadStatusBit ch)) value

/-- The channel whose MSB word a register holds. -/
def dataMsbChannel (targetReg : U8) : Option (Fin 4) :=
  (List.finRange 4).find? fun ch => targetReg == regDataMsb (channelAt ch).raw

/-- The channel whose LSB word a register holds. -/
def dataLsbChannel (targetReg : U8) : Option (Fin 4) :=
  (List.finRange 4).find? fun ch => targetReg == regDataLsb (channelAt ch).raw

/-- The word of a register. Reading an MSB word latches both words of its channel. -/
def readValue (dev : FakeLdc1614Device) (targetReg : U8) : FakeLdc1614Device × U16 :=
  if targetReg = regStatus then (dev, dev.statusValue)
  else
    match dataMsbChannel targetReg with
    | some ch =>
        ({ dev with
          shadowMsb := Function.update dev.shadowMsb ch (dev.liveMsb ch)
          shadowLsb := Function.update dev.shadowLsb ch (dev.liveLsb ch)
          shadowValid := Function.update dev.shadowValid ch true }, dev.liveMsb ch)
    | none =>
        match dataLsbChannel targetReg with
        | some ch => (dev, if dev.shadowValid ch then dev.shadowLsb ch else 0)
        | none => (dev, if targetReg < 128 then dev.reg targetReg else 0)

/-- What a completed read clears. -/
def applyReadSideEffects (dev : FakeLdc1614Device) (targetReg : U8) : FakeLdc1614Device :=
  if targetReg = regStatus then
    { dev with
      stickyStatusErrors := 0
      errorChannel := 0
      dataReadyLatched := false
      unreadMask := 0
      intbAsserted := false }
  else
    match dataMsbChannel targetReg with
    | none => dev
    | some ch =>
        let dev :=
          { dev with
            unreadMask := dev.unreadMask &&& ~~~indexBit ch
            liveMsb := Function.update dev.liveMsb ch (dev.liveMsb ch &&& ~~~dataErrorMask) }
        if (dev.stickyStatusErrors != 0 || dev.dataReadyLatched) &&
            dev.errorChannel == (channelAt ch).raw then
          { dev with
            stickyStatusErrors := 0
            errorChannel := 0
            dataReadyLatched := false
            intbAsserted := false }
        else dev

/-! ### Writes -/

/-- A write takes effect. -/
def applyWrite (dev : FakeLdc1614Device) (targetReg : U8) (value : U16) : FakeLdc1614Device :=
  if targetReg = regResetDev && (value &&& maskResetDev) != 0 then dev.resetDevice
  else
    let dev := if targetReg < 128 then { dev with reg := Function.update dev.reg targetReg value }
      else dev
    if targetReg = regConfig && (value &&& maskCfgSleepModeEn) != 0 then dev.clearConversionEvidence
    else dev

/-! ### The callbacks -/

/-- `i2cWrite`, with the failure forced on this transfer, if any. -/
def write (dev : FakeLdc1614Device) (address : U8) (data : List U8)
    (forced : Option ForcedFailure) : FakeLdc1614Device × Reply :=
  match data with
  | [targetReg, high, low] =>
      let value : U16 := (high.setWidth 16 <<< 8) ||| low.setWidth 16
      if address ≠ dev.acceptedAddress then
        (dev, { status := .error .i2cNackAddr "unexpected fake address" address.toNat })
      else
        match forced with
        | none => (dev.applyWrite targetReg value, { status := .ok })
        | some failure =>
            (if failure.commitWriteBeforeFailure then dev.applyWrite targetReg value else dev,
              { status := failure.status })
  | _ => (dev, { status := .error .invalidParam "invalid fake write" })

/-- `i2cWriteRead`, with the failure forced on this transfer, if any. -/
def writeRead (dev : FakeLdc1614Device) (address : U8) (txData : List U8) (rxLength : ℕ)
    (forced : Option ForcedFailure) : FakeLdc1614Device × Reply :=
  match txData with
  | [targetReg] =>
      if rxLength ≠ 2 then (dev, { status := .error .invalidParam "invalid fake read" })
      else if address ≠ dev.acceptedAddress then
        (dev, { status := .error .i2cNackAddr "unexpected fake address" address.toNat })
      else
        let (dev, value) := dev.readValue targetReg
        match forced with
        | none =>
            (dev.applyReadSideEffects targetReg,
              { status := .ok
                rxHigh := ((value >>> 8) &&& 0xFF).setWidth 8
                rxLow := (value &&& 0xFF).setWidth 8 })
        | some failure => (dev, { status := failure.status })
  | _ => (dev, { status := .error .invalidParam "invalid fake read" })

/-- `intbAsserted`. -/
def readIntb (dev : FakeLdc1614Device) : FakeLdc1614Device × Reply :=
  (dev, { status := .ok, asserted := dev.intbAsserted })

/-- The device behind the callbacks of the driver. -/
def serve (dev : FakeLdc1614Device) (request : Request) (forced : Option ForcedFailure) :
    FakeLdc1614Device × Reply :=
  match request with
  | .i2cWrite _ address data _ _ => dev.write address data forced
  | .i2cWriteRead _ address txData rxLength _ _ => dev.writeRead address txData rxLength forced
  | .intbAsserted _ _ => dev.readIntb

end FakeLdc1614Device

end Ldc1614
