import Ldc1614.Driver.Config
import Ldc1614.Interaction.Machine

/-! # The ESP32 transport

The transport behind the callbacks of the diagnostics on ESP32 targets: `esp32_i2c`, over the I2C
master driver of ESP-IDF. It owns three handles, of the bus, of the device and of a temporary
discovery device, and maps the error codes of ESP-IDF to statuses. The calls of ESP-IDF are requests
to an environment. -/

namespace Ldc1614.Esp32I2c

open Interaction

/-! ### ESP-IDF -/

/-- `esp_err_t`. -/
abbrev EspErr := ℤ

def espOk : EspErr := 0
def espErrNoMem : EspErr := 0x101
def espErrInvalidArg : EspErr := 0x102
def espErrInvalidState : EspErr := 0x103
def espErrNotFound : EspErr := 0x105
def espErrTimeout : EspErr := 0x107
def espErrInvalidResponse : EspErr := 0x108

/-- `GPIO_NUM_NC`. -/
def gpioNumNc : ℤ := -1

/-- A handle of the I2C master driver. -/
abbrev Handle := ℕ

/-- `i2c_master_bus_config_t`, as far as it is filled in. -/
structure NativeBusConfig where
  port : ℕ
  sda : ℤ
  scl : ℤ
  glitchIgnoreCnt : ℕ
  enableInternalPullup : Bool
  deriving DecidableEq, Repr

/-- `i2c_device_config_t`, as far as it is filled in. -/
structure DeviceConfig where
  devAddrLength : ℕ
  deviceAddress : U8
  sclSpeedHz : U32
  deriving DecidableEq, Repr

/-- The calls of ESP-IDF. -/
inductive EspRequest where
  /-- `i2c_new_master_bus`. -/
  | newMasterBus (config : NativeBusConfig)
  /-- `i2c_del_master_bus`. -/
  | delMasterBus (bus : Handle)
  /-- `i2c_master_bus_add_device`. -/
  | addDevice (bus : Handle) (config : DeviceConfig)
  /-- `i2c_master_bus_rm_device`. -/
  | rmDevice (device : Handle)
  /-- `i2c_master_transmit`. -/
  | transmit (device : Handle) (data : List U8) (timeoutMs : ℤ)
  /-- `i2c_master_transmit_receive`. -/
  | transmitReceive (device : Handle) (txData : List U8) (rxLength : ℕ) (timeoutMs : ℤ)
  /-- `gpio_get_level`. -/
  | getLevel (pin : ℤ)
  deriving DecidableEq, Repr

/-- What a call of ESP-IDF returns: its code, the handle it made, the bytes it received and the
level it read. -/
structure EspReply where
  err : EspErr := espOk
  handle : Handle := 0
  rx : List U8 := []
  level : ℤ := 0
  deriving DecidableEq, Repr

/-- Programs that call ESP-IDF. -/
abbrev Esp := Program EspRequest EspReply

/-- One call of ESP-IDF. -/
def esp (request : EspRequest) : Esp EspReply := .call request .done

/-! ### The context -/

structure BusConfig where
  port : ℕ := 0
  sda : ℤ := gpioNumNc
  scl : ℤ := gpioNumNc
  frequencyHz : U32 := 400000
  enableInternalPullups : Bool := true
  deriving DecidableEq, Repr

structure TransferStats where
  writes : U32 := 0
  writeReads : U32 := 0
  discoveries : U32 := 0
  failures : U32 := 0
  lastStatus : Status := .ok
  deriving DecidableEq, Repr

/-- The context of the transport; a null handle is `none`. -/
structure Context where
  bus : Option Handle := none
  device : Option Handle := none
  discoveryDevice : Option Handle := none
  busConfig : BusConfig := {}
  address : U8 := 0x2A
  discoveryAddress : U8 := 0
  intb : ℤ := gpioNumNc
  hasBusConfig : Bool := false
  transferStats : TransferStats := {}
  deriving DecidableEq, Repr

/-! ### Helpers -/

def minI2cFrequencyHz : U32 := 10000
def maxI2cFrequencyHz : U32 := 400000

/-- A timeout as an `int`. -/
def clampTimeoutMs (timeoutMs : U32) : ℤ :=
  let maximum : U32 := 0x7FFFFFFF
  ((if maximum < timeoutMs then maximum else timeoutMs).toNat : ℤ)

/-- The status of an ESP-IDF code. -/
def mapEspErr (error : EspErr) (context : String) : Status :=
  if error = espOk then .ok
  else if error = espErrTimeout then .error .i2cTimeout context error
  else if error = espErrInvalidResponse then .error .i2cError context error
  else if error = espErrInvalidArg then .error .invalidParam context error
  else if error = espErrInvalidState then .error .i2cBus context error
  else if error = espErrNoMem ∨ error = espErrNotFound then .error .i2cBus context error
  else .error .i2cError context error

/-- The status of the code of a transaction: an invalid state may be a plain NACK, and is not
reported as a failed bus. -/
def mapTransactionErr (error : EspErr) (context : String) : Status :=
  if error = espErrInvalidState then .error .i2cError context error
  else mapEspErr error context

def makeDeviceConfig (address : U8) (frequencyHz : U32) : DeviceConfig :=
  { devAddrLength := 7, deviceAddress := address, sclSpeedHz := frequencyHz }

def nativeBusConfig (config : BusConfig) : NativeBusConfig :=
  { port := config.port
    sda := config.sda
    scl := config.scl
    glitchIgnoreCnt := 7
    enableInternalPullup := config.enableInternalPullups }

def validFrequency (frequencyHz : U32) : Bool :=
  minI2cFrequencyHz ≤ frequencyHz && frequencyHz ≤ maxI2cFrequencyHz

inductive TransferKind where
  | write
  | writeRead
  | discovery
  deriving DecidableEq, Repr

/-- One more, up to the largest value. -/
def saturatingSucc (counter : U32) : U32 :=
  if counter < BitVec.allOnes 32 then counter + 1 else counter

namespace Context

/-- The handle for a callback with this address, or why there is none. -/
def validate (context : Context) (address : U8) : Except Status Handle :=
  match context.device with
  | none => .error (.error .i2cBus "I2C device is not configured")
  | some device =>
      if address ≠ context.address then
        .error (.error .invalidParam "Unexpected I2C address" address.toNat)
      else .ok device

/-- Count a transfer of this kind. -/
def recordTransfer (context : Context) (kind : TransferKind) (status : Status) : Context :=
  let stats := context.transferStats
  let stats :=
    match kind with
    | .write => { stats with writes := saturatingSucc stats.writes }
    | .writeRead => { stats with writeReads := saturatingSucc stats.writeReads }
    | .discovery => { stats with discoveries := saturatingSucc stats.discoveries }
  let stats := if !status.isOk then { stats with failures := saturatingSucc stats.failures } else stats
  { context with transferStats := { stats with lastStatus := status } }

/-- Remove the discovery device, if there is one. A failed removal keeps the handle. -/
def removeDiscovery (context : Context) (message : String) : Esp (Context × Status) :=
  match context.discoveryDevice with
  | none => return (context, .ok)
  | some device => do
      let reply ← esp (.rmDevice device)
      let status := mapEspErr reply.err message
      if !status.isOk then return (context, status)
      else return ({ context with discoveryDevice := none, discoveryAddress := 0 }, .ok)

/-- Remove the device, if there is one. A failed removal keeps the handle. -/
def removeDevice (context : Context) (message : String) : Esp (Context × Status) :=
  match context.device with
  | none => return (context, .ok)
  | some device => do
      let reply ← esp (.rmDevice device)
      let status := mapEspErr reply.err message
      if !status.isOk then return (context, status)
      else return ({ context with device := none }, .ok)

/-- Delete the bus, if there is one. A failed deletion keeps the handle. -/
def deleteBus (context : Context) (message : String) : Esp (Context × Status) :=
  match context.bus with
  | none => return (context, .ok)
  | some bus => do
      let reply ← esp (.delMasterBus bus)
      let status := mapEspErr reply.err message
      if !status.isOk then return (context, status)
      else return ({ context with bus := none }, .ok)

/-- Some handle is held. -/
def isOpen (context : Context) : Bool :=
  context.bus.isSome || context.device.isSome || context.discoveryDevice.isSome

/-! ### The operations -/

/-- `open`. -/
def open_ (context : Context) (config : BusConfig) : Esp (Context × Status) :=
  if context.isOpen then return (context, .error .i2cBus "I2C context is already open")
  else if config.sda = gpioNumNc ∨ config.scl = gpioNumNc ∨ validFrequency config.frequencyHz = false ∨
      context.address < 0x08 ∨ 0x77 < context.address then
    return (context, .error .invalidConfig "I2C bus configuration is invalid")
  else do
    let context := { context with busConfig := config, hasBusConfig := true }
    let reply ← esp (.newMasterBus (nativeBusConfig config))
    let status := mapEspErr reply.err "I2C bus init failed"
    if !status.isOk then return (context, status)
    else
      let bus := reply.handle
      let reply ← esp (.addDevice bus (makeDeviceConfig context.address config.frequencyHz))
      let status := mapEspErr reply.err "I2C device add failed"
      if !status.isOk then
        let rollback ← esp (.delMasterBus bus)
        if rollback.err ≠ espOk then
          -- the bus could not be deleted again: its handle is kept for `close`
          return ({ context with bus := some bus },
            mapEspErr rollback.err "I2C bus rollback failed")
        else return (context, status)
      else return ({ context with bus := some bus, device := some reply.handle }, .ok)

/-- `close`, which stops at the first handle that is not given back. -/
def close (context : Context) : Esp (Context × Status) := do
  let (context, status) ← context.removeDiscovery "I2C discovery device removal failed"
  if !status.isOk then return (context, status)
  else
    let (context, status) ← context.removeDevice "I2C device removal failed"
    if !status.isOk then return (context, status)
    else context.deleteBus "I2C bus deletion failed"

/-- `reopen`. -/
def reopen (context : Context) : Esp (Context × Status) :=
  if context.isOpen then return (context, .error .i2cBus "I2C context is still open")
  else if !context.hasBusConfig then
    return (context, .error .invalidConfig "I2C bus configuration unavailable")
  else context.open_ context.busConfig

/-- `recover`. -/
def recover (context : Context) : Esp (Context × Status) :=
  if !context.hasBusConfig then
    return (context, .error .invalidConfig "I2C bus configuration unavailable")
  else if (context.device.isSome || context.discoveryDevice.isSome) && context.bus.isNone then
    return (context, .error .i2cBus "I2C context handles are inconsistent")
  else do
    let (context, status) ← context.close
    if !status.isOk then return (context, status)
    else
      let (context, status) ← context.reopen
      if !status.isOk then return (context, status)
      else return (context, .ok)

/-- `frequencyHz`. -/
def frequencyHz (context : Context) : U32 :=
  if context.hasBusConfig then context.busConfig.frequencyHz else 0

/-- Replace the device, at another frequency; when that fails, at the old one. -/
def replaceDevice (context : Context) (bus : Handle) (requestedHz : U32) :
    Esp (Context × Status) := do
  let previousHz := context.busConfig.frequencyHz
  let (context, status) ← context.removeDevice "I2C device removal for frequency change failed"
  if !status.isOk then return (context, status)
  else
    let reply ← esp (.addDevice bus (makeDeviceConfig context.address requestedHz))
    let status := mapEspErr reply.err "I2C device add for frequency change failed"
    if status.isOk then
      return ({ context with
        device := some reply.handle
        busConfig := { context.busConfig with frequencyHz := requestedHz } }, status)
    else
      let rollback ← esp (.addDevice bus (makeDeviceConfig context.address previousHz))
      let rollbackStatus := mapEspErr rollback.err "I2C frequency rollback failed"
      if !rollbackStatus.isOk then return (context, rollbackStatus)
      else return ({ context with device := some rollback.handle }, status)

/-- `setFrequency`. -/
def setFrequency (context : Context) (requestedHz : U32) : Esp (Context × Status) :=
  match context.bus with
  | none => return (context, .error .i2cBus "I2C context is not open")
  | some bus =>
      if context.device.isNone || !context.hasBusConfig then
        return (context, .error .i2cBus "I2C context is not open")
      else if validFrequency requestedHz = false then
        return (context, .error .invalidParam "I2C frequency must be 10 kHz to 400 kHz"
          (requestedHz.toInt))
      else if requestedHz = context.busConfig.frequencyHz then return (context, .ok)
      else do
        let (context, status) ← context.removeDiscovery
          "I2C discovery device removal for frequency change failed"
        if !status.isOk then return (context, status)
        else context.replaceDevice bus requestedHz

/-- `write`, the callback. -/
def write (context : Context) (address : U8) (data : List U8) (timeoutMs : U32) :
    Esp (Context × Status) :=
  match context.validate address with
  | .error status => return (context, status)
  | .ok device =>
      if data = [] then return (context, .error .invalidParam "Invalid I2C write buffer")
      else do
        let reply ← esp (.transmit device data (clampTimeoutMs timeoutMs))
        let status := mapTransactionErr reply.err "I2C write failed"
        return (context.recordTransfer .write status, status)

/-- `writeRead`, the callback, with the bytes it leaves in the receive buffer. -/
def writeRead (context : Context) (address : U8) (txData : List U8) (rxLength : ℕ)
    (timeoutMs : U32) : Esp (Context × Status × List U8) :=
  match context.validate address with
  | .error status => return (context, status, [])
  | .ok device =>
      if txData = [] ∨ rxLength = 0 then
        return (context, .error .invalidParam "Invalid I2C write-read buffer", [])
      else do
        let reply ← esp (.transmitReceive device txData rxLength (clampTimeoutMs timeoutMs))
        let status := mapTransactionErr reply.err "I2C write-read failed"
        return (context.recordTransfer .writeRead status, status, reply.rx)

/-- `intbAsserted`, the callback. -/
def intbAsserted (context : Context) : Esp (Status × Bool) :=
  if context.intb = gpioNumNc then
    return (.error .invalidConfig "INTB pin not configured", false)
  else do
    let reply ← esp (.getLevel context.intb)
    return (.ok, reply.level == 0)

/-- Remove a discovery device for another address. -/
def removeStale (context : Context) (address : U8) : Esp (Context × Status) :=
  if context.discoveryDevice.isSome && context.discoveryAddress != address then
    context.removeDiscovery "I2C stale discovery device removal failed"
  else return (context, .ok)

/-- The discovery device for this address, which is added unless there is one. -/
def discoveryHandle (context : Context) (bus : Handle) (address : U8) :
    Esp (Context × Except Status Handle) := do
  let (context, status) ← context.removeStale address
  if !status.isOk then return (context, .error status)
  else
    match context.discoveryDevice with
    | some device => return (context, .ok device)
    | none =>
        let reply ← esp (.addDevice bus (makeDeviceConfig address context.busConfig.frequencyHz))
        let status := mapEspErr reply.err "I2C discovery device add failed"
        if !status.isOk then return (context, .error status)
        else
          return ({ context with
            discoveryDevice := some reply.handle
            discoveryAddress := address }, .ok reply.handle)

/-- The read of a register through this handle. -/
def discoveryRead (context : Context) (device : Handle) (registerAddress : U8) (timeoutMs : U32) :
    Esp (Context × Status × U16) := do
  let reply ← esp (.transmitReceive device [registerAddress] 2 (clampTimeoutMs timeoutMs))
  let status := mapTransactionErr reply.err "I2C discovery register read failed"
  let context := context.recordTransfer .discovery status
  if !status.isOk then return (context, status, 0)
  else
    return (context, .ok,
      ((reply.rx.getD 0 0).setWidth 16 <<< 8) ||| (reply.rx.getD 1 0).setWidth 16)

/-- `readRegisterAt`. -/
def readRegisterAt (context : Context) (address registerAddress : U8) (timeoutMs : U32) :
    Esp (Context × Status × U16) :=
  match context.bus, context.device with
  | some bus, some device =>
      if !context.hasBusConfig || address < 0x08 || 0x77 < address then
        return (context, .error .i2cBus "I2C discovery context is invalid", 0)
      else if address = context.address then
        context.discoveryRead device registerAddress timeoutMs
      else do
        let (context, handle) ← context.discoveryHandle bus address
        match handle with
        | .error status => return (context, status, 0)
        | .ok handle => context.discoveryRead handle registerAddress timeoutMs
  | _, _ => return (context, .error .i2cBus "I2C discovery context is invalid", 0)

end Context

/-! ### Calls -/

/-- The calls of the transport. -/
inductive TransportCall where
  | open_ (config : BusConfig)
  | close
  | reopen
  | recover
  | setFrequency (requestedHz : U32)
  | write (address : U8) (data : List U8) (timeoutMs : U32)
  | writeRead (address : U8) (txData : List U8) (rxLength : ℕ) (timeoutMs : U32)
  | intbAsserted
  | readRegisterAt (address registerAddress : U8) (timeoutMs : U32)
  deriving DecidableEq, Repr

/-- What a call of the transport returns. -/
structure TransportOutput where
  status : Status
  rx : List U8 := []
  asserted : Bool := false
  value : U16 := 0
  deriving DecidableEq, Repr

/-- A status as output. -/
def reporting (program : Esp (Context × Status)) : Esp (Context × TransportOutput) := do
  let (context, status) ← program
  return (context, { status := status })

/-- Execute a call. -/
def TransportCall.exec (call : TransportCall) (context : Context) :
    Esp (Context × TransportOutput) :=
  match call with
  | .open_ config => reporting (context.open_ config)
  | .close => reporting context.close
  | .reopen => reporting context.reopen
  | .recover => reporting context.recover
  | .setFrequency requestedHz => reporting (context.setFrequency requestedHz)
  | .write address data timeoutMs => reporting (context.write address data timeoutMs)
  | .writeRead address txData rxLength timeoutMs => do
      let (context, status, rx) ← context.writeRead address txData rxLength timeoutMs
      return (context, { status := status, rx := rx })
  | .intbAsserted => do
      let (status, asserted) ← context.intbAsserted
      return (context, { status := status, asserted := asserted })
  | .readRegisterAt address registerAddress timeoutMs => do
      let (context, status, value) ← context.readRegisterAt address registerAddress timeoutMs
      return (context, { status := status, value := value })

/-- One executed call of the transport. -/
abbrev TransportTransition :=
  Transition Context TransportCall TransportOutput EspRequest EspReply

/-- A run of the transport. -/
abbrev TransportRun := Run TransportCall.exec

end Ldc1614.Esp32I2c
