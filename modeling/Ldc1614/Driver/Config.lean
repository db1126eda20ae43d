import Ldc1614.Driver.CommandTable

/-! # Statuses and profiles

The types of `Status.h` and `Config.h`: the status every fallible operation returns, and the
complete desired device profile with the injected transport callbacks. Enumerations that the
application fills in are kept as their underlying byte, since C++ lets every byte in; the
enumerators are constants of the type. -/

namespace Ldc1614

/-! ### Statuses -/

/-- Error codes returned by fallible public operations. -/
inductive Err where
  | ok
  | notBound
  | invalidConfig
  | invalidParam
  | busy
  | inProgress
  | resultNotReady
  | resultQueueFull
  | duplicateOperationId
  | deviceNotFound
  | conversionNotReady
  | timeout
  | cancelled
  | configDirty
  | i2cError
  | i2cNackAddr
  | i2cNackData
  | i2cTimeout
  | i2cBus
  /-- A byte past the last enumerator, which a transport callback may still return. -/
  | other (beyond : Fin 237)
  deriving DecidableEq, Repr

/-- Status returned by all fallible operations. -/
structure Status where
  code : Err := .ok
  detail : ℤ := 0
  msg : String := ""
  deriving DecidableEq, Repr

namespace Status

/-- The canonical successful status. -/
def ok : Status := ⟨.ok, 0, "OK"⟩

/-- A non-success status. -/
def error (err : Err) (message : String) (detailCode : ℤ := 0) : Status :=
  ⟨err, detailCode, message⟩

/-- The code is `OK`. -/
def isOk (status : Status) : Bool := status.code == .ok

/-- The code is `IN_PROGRESS`. -/
def inProgress (status : Status) : Bool := status.code == .inProgress

/-- `OK` is a success. -/
@[simp] theorem isOk_ok : ok.isOk = true := rfl

/-- An error is a success only if its code says so. -/
@[simp] theorem isOk_error (err : Err) (message : String) (detailCode : ℤ) :
    (error err message detailCode).isOk = (err == .ok) := rfl

/-- An error carries its code. -/
@[simp] theorem code_error (err : Err) (message : String) (detailCode : ℤ) :
    (error err message detailCode).code = err := rfl

/-- `OK` carries the code of success. -/
@[simp] theorem code_ok : ok.code = .ok := rfl

end Status

/-- A failed transfer may have reached the device unless the address was not acknowledged. -/
def transferFailureMayHaveReachedDevice (status : Status) : Bool :=
  status.code != .i2cNackAddr

/-! ### Enumerations of the profile -/

/-- Supported 7-bit I2C addresses. -/
structure I2cAddress where
  raw : U8
  deriving DecidableEq, Repr

def I2cAddress.unspecified : I2cAddress := ⟨0⟩
def I2cAddress.addrGnd : I2cAddress := ⟨0x2A⟩
def I2cAddress.addrVdd : I2cAddress := ⟨0x2B⟩

/-- Application-supplied silicon variant. -/
structure DeviceVariant where
  raw : U8
  deriving DecidableEq, Repr

def DeviceVariant.unspecified : DeviceVariant := ⟨0⟩
def DeviceVariant.ldc1612 : DeviceVariant := ⟨1⟩
def DeviceVariant.ldc1614 : DeviceVariant := ⟨2⟩

/-- Physical conversion channel. -/
structure Channel where
  raw : U8
  deriving DecidableEq, Repr

def Channel.ch0 : Channel := ⟨0⟩
def Channel.ch1 : Channel := ⟨1⟩
def Channel.ch2 : Channel := ⟨2⟩
def Channel.ch3 : Channel := ⟨3⟩
def Channel.none : Channel := ⟨0xFF⟩

/-- Reference-clock source. -/
structure RefClkSrc where
  raw : U8
  deriving DecidableEq, Repr

def RefClkSrc.unspecified : RefClkSrc := ⟨0⟩
def RefClkSrc.internal : RefClkSrc := ⟨1⟩
def RefClkSrc.externalClock : RefClkSrc := ⟨2⟩

/-- Sensor-activation current policy. -/
structure SensorActivation where
  raw : U8
  deriving DecidableEq, Repr

def SensorActivation.fullCurrent : SensorActivation := ⟨0⟩
def SensorActivation.lowPower : SensorActivation := ⟨1⟩

/-- Input deglitch-filter bandwidth encoding. -/
structure Deglitch where
  raw : U8
  deriving DecidableEq, Repr

def Deglitch.unspecified : Deglitch := ⟨0⟩
def Deglitch.bw1Mhz : Deglitch := ⟨1⟩
def Deglitch.bw3Mhz : Deglitch := ⟨4⟩
def Deglitch.bw10Mhz : Deglitch := ⟨5⟩
def Deglitch.bw33Mhz : Deglitch := ⟨7⟩

/-- Device conversion mode. -/
structure OperatingMode where
  raw : U8
  deriving DecidableEq, Repr

def OperatingMode.unspecified : OperatingMode := ⟨0⟩
def OperatingMode.singleChannel : OperatingMode := ⟨1⟩
def OperatingMode.multiChannelSequential : OperatingMode := ⟨2⟩

/-- Hardware round-robin sequence. -/
structure RRSequence where
  raw : U8
  deriving DecidableEq, Repr

def RRSequence.ch0Ch1 : RRSequence := ⟨0⟩
def RRSequence.ch0Ch1Ch2 : RRSequence := ⟨1⟩
def RRSequence.ch0Ch1Ch2Ch3 : RRSequence := ⟨2⟩
def RRSequence.unspecified : RRSequence := ⟨0xFF⟩

/-! ### Channel masks -/

/-- One bit per physical channel. -/
structure ChannelMask where
  bits : U8 := 0
  deriving DecidableEq, Repr

/-- No channel bit is set. -/
def ChannelMask.empty (mask : ChannelMask) : Bool := mask.bits == 0

/-- The channel is valid and selected. -/
def ChannelMask.contains (mask : ChannelMask) (channel : Channel) : Bool :=
  channel.raw < 4 && (mask.bits &&& (1#8 <<< channel.raw.toNat)) != 0

/-- One-hot channel mask, empty for a channel that does not exist. -/
def channelBit (channel : Channel) : ChannelMask :=
  if channel.raw < 4 then ⟨1#8 <<< channel.raw.toNat⟩ else {}

/-- Mask of the channels the variant implements. -/
def validChannelMask (variant : DeviceVariant) : ChannelMask :=
  if variant = .ldc1612 then ⟨0x03⟩ else if variant = .ldc1614 then ⟨0x0F⟩ else {}

/-! ### The profile -/

/-- The address of a callback function; a null pointer is `none` where one is expected. -/
structure Callback where
  address : ℕ
  deriving DecidableEq, Repr

/-- A `void*` context handed back to the callbacks unchanged; `0` is the null pointer. -/
abbrev Context := ℕ

/-- Reference-clock facts supplied by the application. -/
structure ReferenceClock where
  source : RefClkSrc := .unspecified
  frequencyHz : U32 := 0
  tolerancePpm : U32 := 0
  deriving DecidableEq, Repr

/-- Error-routing policy. -/
structure ErrorReporting where
  dataUnderRange : Bool := false
  dataOverRange : Bool := false
  dataWatchdog : Bool := false
  dataAmplitudeHigh : Bool := false
  dataAmplitudeLow : Bool := false
  statusUnderRange : Bool := false
  statusOverRange : Bool := false
  statusWatchdog : Bool := false
  statusAmplitudeHigh : Bool := false
  statusAmplitudeLow : Bool := false
  statusZeroCount : Bool := false
  dataReady : Bool := false
  deriving DecidableEq, Repr

/-- Five-bit IDRIVE code; `0xFF` is the unspecified sentinel. -/
structure DriveCurrentCode where
  value : U8 := 0xFF
  deriving DecidableEq, Repr

/-- Per-channel electrical and conversion profile. -/
structure ChannelConfig where
  rcount : U16 := 0
  settleCount : U16 := 0
  finDivider : U8 := 0
  frefDivider : U16 := 0
  offset : U16 := 0
  driveCurrentCode : DriveCurrentCode := {}
  expectedSensorMinHz : U32 := 0
  expectedSensorMaxHz : U32 := 0
  deriving DecidableEq, Repr

/-- Complete desired device configuration and transport injection. -/
structure Config where
  i2cWrite : Option Callback := none
  i2cWriteRead : Option Callback := none
  i2cUser : Context := 0
  i2cTimeoutMs : U32 := 0
  i2cAddress : I2cAddress := .unspecified
  intbAsserted : Option Callback := none
  intbUser : Context := 0
  variant : DeviceVariant := .unspecified
  channels : ChannelMask := {}
  channel : Vector ChannelConfig 4 := Vector.replicate 4 {}
  referenceClock : ReferenceClock := {}
  mode : OperatingMode := .unspecified
  activeChannel : Channel := .none
  rrSequence : RRSequence := .unspecified
  deglitch : Deglitch := .unspecified
  sensorActivation : SensorActivation := .lowPower
  rpOverrideEnabled : Bool := true
  autoAmplitudeCorrectionEnabled : Bool := false
  highCurrentDriveEnabled : Bool := false
  intbDisabled : Bool := true
  errorReporting : ErrorReporting := {}
  deriving DecidableEq, Repr

/-! ### Helpers on channels and masks -/

/-- The channel is one of the four physical ones. -/
def isConcreteChannel (channel : Channel) : Bool := channel.raw < Cmd.maxChannels

/-- Number of channels of a variant: 0, 2 or 4. The bound is carried by the type, so that every
index below the count is an index into the four channel slots. -/
def channelCountFor (variant : DeviceVariant) : Fin 5 :=
  if variant = .ldc1612 then 2 else if variant = .ldc1614 then 4 else 0

/-- The indices `0 .. channelCount - 1`, as indices into the four channel slots. -/
def channelIndices (channelCount : Fin 5) : List (Fin 4) :=
  (List.finRange 4).filter fun index => index.val < channelCount.val

/-- Store an element in a slot of a fixed array. -/
def store {α : Type} {n : ℕ} (slots : Vector α n) (index : Fin n) (a : α) : Vector α n :=
  slots.set index a

/-- The bit of a channel slot in a mask byte. -/
def indexBit (index : Fin 4) : U8 := 1#8 <<< index.val

/-- The loop of `popcount`: eight shifts empty a byte. -/
def popcountLoop : ℕ → U8 → U8 → U8
  | 0, count, _ => count
  | turns + 1, count, bits =>
      if bits = 0 then count else popcountLoop turns (count + (bits &&& 1)) (bits >>> 1)

/-- Number of selected channels. -/
def popcount (mask : ChannelMask) : U8 := popcountLoop 8 0 mask.bits

/-- The next selected channel behind `after`, in increasing order; `NONE` when there is none. -/
def nextChannel (mask : ChannelMask) (after : Channel) : Channel :=
  let start : U8 := if after = .none then 0 else after.raw + 1
  match (List.finRange 4).find? fun index =>
      start.toNat ≤ index.val && (mask.bits &&& indexBit index) != 0 with
  | some index => ⟨BitVec.ofNat 8 index.val⟩
  | none => .none

/-- The channels of a round-robin sequence. -/
def sequenceMask (sequence : RRSequence) : ChannelMask :=
  if sequence = .ch0Ch1 then ⟨0x03⟩
  else if sequence = .ch0Ch1Ch2 then ⟨0x07⟩
  else if sequence = .ch0Ch1Ch2Ch3 then ⟨0x0F⟩
  else {}

end Ldc1614
