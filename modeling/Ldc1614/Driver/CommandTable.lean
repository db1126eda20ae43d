import Mathlib.Data.Int.Notation
import Mathlib.Tactic.Common

/-! # Register addresses and bit definitions

The constants of `CommandTable.h` that the driver and its test fixture use: register addresses,
bit masks, shifts and limits of the LDC1612/LDC1614. -/

namespace Ldc1614

/-- `uint8_t`. -/
abbrev U8 := BitVec 8

/-- `uint16_t`. -/
abbrev U16 := BitVec 16

/-- `uint32_t`. -/
abbrev U32 := BitVec 32

/-- `uint64_t`. -/
abbrev U64 := BitVec 64

namespace Cmd

/-! ### Register addresses -/

def regData0Msb : U8 := 0x00
def regData0Lsb : U8 := 0x01
def regData2Msb : U8 := 0x04
def regData3Lsb : U8 := 0x07
def regRcount0 : U8 := 0x08
def regRcount2 : U8 := 0x0A
def regRcount3 : U8 := 0x0B
def regOffset0 : U8 := 0x0C
def regOffset2 : U8 := 0x0E
def regOffset3 : U8 := 0x0F
def regSettlecount0 : U8 := 0x10
def regSettlecount2 : U8 := 0x12
def regSettlecount3 : U8 := 0x13
def regClockDividers0 : U8 := 0x14
def regClockDividers2 : U8 := 0x16
def regClockDividers3 : U8 := 0x17
def regStatus : U8 := 0x18
def regErrorConfig : U8 := 0x19
def regConfig : U8 := 0x1A
def regMuxConfig : U8 := 0x1B
def regResetDev : U8 := 0x1C
def regDriveCurrent0 : U8 := 0x1E
def regDriveCurrent2 : U8 := 0x20
def regDriveCurrent3 : U8 := 0x21
def regManufacturerId : U8 := 0x7E
def regDeviceId : U8 := 0x7F

/-! ### Reset and identity values -/

def rcountDefault : U16 := 0x0080
def errorConfigDefault : U16 := 0x0000
def configDefault : U16 := 0x2801
def muxConfigDefault : U16 := 0x020F
def manufacturerIdValue : U16 := 0x5449
def deviceIdValue : U16 := 0x3055

/-! ### DATAx_MSB, CLOCK_DIVIDERSx and STATUS fields -/

def maskDataErrUr : U16 := 0x8000
def maskDataErrOr : U16 := 0x4000
def maskDataErrWd : U16 := 0x2000
def maskDataErrAe : U16 := 0x1000
def maskDataMsbData : U16 := 0x0FFF

def maskFrefDivider : U16 := 0x03FF
def bitFinDivider : ℕ := 12

def maskStatusErrChan : U16 := 0xC000
def maskStatusErrUr : U16 := 0x2000
def maskStatusErrOr : U16 := 0x1000
def maskStatusErrWd : U16 := 0x0800
def maskStatusErrAhe : U16 := 0x0400
def maskStatusErrAle : U16 := 0x0200
def maskStatusErrZc : U16 := 0x0100
def maskStatusDrdy : U16 := 0x0040
def maskStatusUnreadconv0 : U16 := 0x0008
def maskStatusUnreadconv1 : U16 := 0x0004
def maskStatusUnreadconv2 : U16 := 0x0002
def maskStatusUnreadconv3 : U16 := 0x0001
def bitStatusErrChan : ℕ := 14

/-! ### ERROR_CONFIG fields -/

def maskErrcfgUrErr2out : U16 := 0x8000
def maskErrcfgOrErr2out : U16 := 0x4000
def maskErrcfgWdErr2out : U16 := 0x2000
def maskErrcfgAhErr2out : U16 := 0x1000
def maskErrcfgAlErr2out : U16 := 0x0800
def maskErrcfgUrErr2int : U16 := 0x0080
def maskErrcfgOrErr2int : U16 := 0x0040
def maskErrcfgWdErr2int : U16 := 0x0020
def maskErrcfgAhErr2int : U16 := 0x0010
def maskErrcfgAlErr2int : U16 := 0x0008
def maskErrcfgZcErr2int : U16 := 0x0004
def maskErrcfgDrdy2int : U16 := 0x0001
def maskErrcfgAllowed : U16 :=
  maskErrcfgUrErr2out ||| maskErrcfgOrErr2out ||| maskErrcfgWdErr2out ||| maskErrcfgAhErr2out |||
    maskErrcfgAlErr2out ||| maskErrcfgUrErr2int ||| maskErrcfgOrErr2int ||| maskErrcfgWdErr2int |||
    maskErrcfgAhErr2int ||| maskErrcfgAlErr2int ||| maskErrcfgZcErr2int ||| maskErrcfgDrdy2int

/-! ### CONFIG, MUX_CONFIG, RESET_DEV and DRIVE_CURRENTx fields -/

def maskCfgActiveChan : U16 := 0xC000
def maskCfgSleepModeEn : U16 := 0x2000
def maskCfgRpOverrideEn : U16 := 0x1000
def maskCfgSensorActivateSel : U16 := 0x0800
def maskCfgAutoAmpDis : U16 := 0x0400
def maskCfgRefClkSrc : U16 := 0x0200
def maskCfgIntbDis : U16 := 0x0080
def maskCfgHighCurrentDrv : U16 := 0x0040
def bitCfgActiveChan : ℕ := 14
def configReservedValue : U16 := 0x0001

def maskMuxAutoscanEn : U16 := 0x8000
def maskMuxRrSequence : U16 := 0x6000
def maskMuxDeglitch : U16 := 0x0007
def bitMuxRrSequence : ℕ := 13
def muxConfigReservedValue : U16 := 0x0208

def maskResetDev : U16 := 0x8000

def maskInitIdrive : U16 := 0x07C0
def bitIdrive : ℕ := 11
def bitInitIdrive : ℕ := 6

/-! ### Limits -/

def rcountMin : U16 := 0x0005
def conversionRcountMin : U16 := 0x0009
def conversionSettleMin : U16 := 0x0004
def finDividerMin : U8 := 1
def finDividerMax : U8 := 15
def frefDividerMin : U16 := 1
def frefDividerMax : U16 := 0x03FF
def idriveMax : U8 := 31
def maxChannels : U8 := 4

/-! ### Per-channel registers -/

def regDataMsb (ch : U8) : U8 := regData0Msb + ch * 2
def regDataLsb (ch : U8) : U8 := regData0Lsb + ch * 2
def regRcount (ch : U8) : U8 := regRcount0 + ch
def regOffset (ch : U8) : U8 := regOffset0 + ch
def regSettleCount (ch : U8) : U8 := regSettlecount0 + ch
def regClockDividers (ch : U8) : U8 := regClockDividers0 + ch
def regDriveCurrent (ch : U8) : U8 := regDriveCurrent0 + ch

end Cmd

/-! ### Classes of register addresses -/

open Cmd

/-- A register the device maps. -/
def isValidRegisterAddress (reg : U8) : Bool :=
  reg ≤ regResetDev || (regDriveCurrent0 ≤ reg && reg ≤ regDriveCurrent3) ||
    reg == regManufacturerId || reg == regDeviceId

/-- A register the device lets the host write. -/
def isConfigurationRegister (reg : U8) : Bool :=
  (regRcount0 ≤ reg && reg ≤ regClockDividers3) || reg == regErrorConfig || reg == regConfig ||
    reg == regMuxConfig || reg == regResetDev ||
    (regDriveCurrent0 ≤ reg && reg ≤ regDriveCurrent3)

/-- A register of channel 2 or 3, which the LDC1612 does not have. -/
def isLdc1614OnlyRegister (reg : U8) : Bool :=
  (regData2Msb ≤ reg && reg ≤ regData3Lsb) || (regRcount2 ≤ reg && reg ≤ regRcount3) ||
    (regOffset2 ≤ reg && reg ≤ regOffset3) || (regSettlecount2 ≤ reg && reg ≤ regSettlecount3) ||
    (regClockDividers2 ≤ reg && reg ≤ regClockDividers3) ||
    (regDriveCurrent2 ≤ reg && reg ≤ regDriveCurrent3)

/-- Every writable register is mapped. -/
theorem isValidRegisterAddress_of_configuration :
    ∀ reg, isConfigurationRegister reg = true → isValidRegisterAddress reg = true := by
  decide

end Ldc1614
