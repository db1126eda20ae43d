import Mathlib.Tactic.Common

/-! # The commands of the diagnostic command line

One row a command: its name, its aliases and its synopsis. Dispatch and usage key off this table. -/

namespace Ldc1614.CommandLine

/-- The commands. -/
inductive CommandId where
  | help | version | color | verbose | bus
  | bind | end_ | init | apply | resetReapply | sleep | wake | cancel | job | result | invalidate
  | busRecover | busFreq
  | read | last | watch | sampleRate | ready | status | statusRaw | intb | initDrive
  | cfg | profile | addr | variant | mode | refclk | deglitch | activation | timeout | rp | autoamp
  | highCurrent | intbConfig | errors | error | rcount | settle | finDiv | frefDiv | offset | drive
  | sensorBounds
  | probe | discover | dump | verify | reg | wreg | decode | freq | timing | driveUa
  | driver | state | diag | xfer | selftest | stress | stressMix | stressId | stressReset
  | stressBusFreq | soak | sd | unknown
  deriving DecidableEq, Repr

/-- A row of the table. What only the help prints is left out. -/
structure CommandSpec where
  id : CommandId
  name : String
  aliases : String
  synopsis : String
  deriving DecidableEq, Repr

/-- `COMMAND_SPECS`. -/
def commandSpecs : List CommandSpec :=
  [
    ⟨.help, "help", "?", "help / ? [command]"⟩,
    ⟨.version, "version", "ver", "version / ver"⟩,
    ⟨.color, "color", "", "color [on|off]"⟩,
    ⟨.verbose, "verbose", "", "verbose [0|1]"⟩,
    ⟨.bus, "bus", "i2c", "bus / i2c"⟩,
    ⟨.bind, "bind", "", "bind"⟩,
    ⟨.end_, "end", "", "end"⟩,
    ⟨.init, "init", "", "init [deadline_ms]"⟩,
    ⟨.apply, "apply", "", "apply [deadline_ms]"⟩,
    ⟨.resetReapply, "resetreapply", "", "resetreapply [ms] confirm"⟩,
    ⟨.sleep, "sleep", "", "sleep"⟩,
    ⟨.wake, "wake", "", "wake"⟩,
    ⟨.cancel, "cancel", "stop", "cancel / stop"⟩,
    ⟨.job, "job", "progress", "job / progress"⟩,
    ⟨.result, "result", "", "result"⟩,
    ⟨.invalidate, "invalidate", "", "invalidate confirm"⟩,
    ⟨.busRecover, "busrecover", "", "busrecover confirm"⟩,
    ⟨.busFreq, "busfreq", "i2cfreq", "busfreq / i2cfreq [hz confirm]"⟩,
    ⟨.read, "read", "acquire", "read / acquire [mask]"⟩,
    ⟨.last, "last", "", "last [channel]"⟩,
    ⟨.watch, "watch", "", "watch <mask> <count> [ms]"⟩,
    ⟨.sampleRate, "samplerate", "", "samplerate <channel> <count>"⟩,
    ⟨.ready, "ready", "drdy", "ready / drdy"⟩,
    ⟨.status, "status", "", "status"⟩,
    ⟨.statusRaw, "status_raw", "", "status_raw"⟩,
    ⟨.intb, "intb", "", "intb"⟩,
    ⟨.initDrive, "initdrive", "", "initdrive <channel>"⟩,
    ⟨.cfg, "cfg", "settings", "cfg / settings"⟩,
    ⟨.profile, "profile", "",
      "profile show|reset|discard\nprofile validate\nprofile commit confirm"⟩,
    ⟨.addr, "addr", "", "addr"⟩,
    ⟨.variant, "variant", "", "variant"⟩,
    ⟨.mode, "mode", "", "mode <single ch|seq count>"⟩,
    ⟨.refclk, "refclk", "", "refclk <src> <hz> <ppm>"⟩,
    ⟨.deglitch, "deglitch", "", "deglitch <1|3|10|33>"⟩,
    ⟨.activation, "activation", "", "activation <full|low>"⟩,
    ⟨.timeout, "timeout", "", "timeout <ms>"⟩,
    ⟨.rp, "rp", "", "rp <0|1>"⟩,
    ⟨.autoamp, "autoamp", "", "autoamp <0|1>"⟩,
    ⟨.highCurrent, "highcurrent", "", "highcurrent <0|1>"⟩,
    ⟨.intbConfig, "intbconfig", "", "intbconfig <0|1>"⟩,
    ⟨.errors, "errors", "", "errors [show|all|none]"⟩,
    ⟨.error, "error", "", "error <field> <0|1>"⟩,
    ⟨.rcount, "rcount", "", "rcount <ch> <value>"⟩,
    ⟨.settle, "settle", "", "settle <ch> <value>"⟩,
    ⟨.finDiv, "findiv", "", "findiv <ch> <value>"⟩,
    ⟨.frefDiv, "frefdiv", "", "frefdiv <ch> <value>"⟩,
    ⟨.offset, "offset", "", "offset <ch> <value>"⟩,
    ⟨.drive, "drive", "", "drive <ch> <code>"⟩,
    ⟨.sensorBounds, "sensorbounds", "", "sensorbounds <ch> <lo> <hi>"⟩,
    ⟨.probe, "probe", "id", "probe / id"⟩,
    ⟨.discover, "discover", "scan", "discover / scan"⟩,
    ⟨.dump, "dump", "", "dump config\ndump all confirm"⟩,
    ⟨.verify, "verify", "", "verify"⟩,
    ⟨.reg, "reg", "rreg", "reg / rreg <addr> [confirm]"⟩,
    ⟨.wreg, "wreg", "", "wreg <addr> <value> confirm"⟩,
    ⟨.decode, "decode", "", "decode status <raw16>\ndecode data <msb> <lsb>"⟩,
    ⟨.freq, "freq", "", "freq <channel> <raw28>\nfreq <desired|staged> <channel> <raw28>"⟩,
    ⟨.timing, "timing", "", "timing [mask]\ntiming <desired|staged> [mask]"⟩,
    ⟨.driveUa, "driveua", "", "driveua <code>"⟩,
    ⟨.driver, "drv", "health", "drv / health"⟩,
    ⟨.state, "state", "", "state"⟩,
    ⟨.diag, "diag", "", "diag"⟩,
    ⟨.xfer, "xfer", "", "xfer stats|reset\nxfer assert <write> <write_read> <discover> <total>"⟩,
    ⟨.selftest, "selftest", "", "selftest"⟩,
    ⟨.stress, "stress", "", "stress <count> [mask]"⟩,
    ⟨.stressMix, "stress_mix", "", "stress_mix <n> [mask] confirm"⟩,
    ⟨.stressId, "stress_id", "", "stress_id <count>"⟩,
    ⟨.stressReset, "stress_reset", "", "stress_reset <count> confirm"⟩,
    ⟨.stressBusFreq, "stress_busfreq", "", "stress_busfreq <count> confirm"⟩,
    ⟨.soak, "soak", "", "soak <seconds> [mask]"⟩,
    ⟨.sd, "sd", "", "sd status|assert|release confirm"⟩
  ]

/-- The row of a command. -/
def commandSpec (id : CommandId) : Option CommandSpec :=
  commandSpecs.find? fun spec => spec.id == id

/-- The loop of `aliasMatches` over what is left of the aliases. -/
def aliasLoop (token : List Char) : ℕ → List Char → Bool
  | 0, _ => false
  | fuel + 1, cursor =>
      if cursor = [] then false
      else
        let cursor := cursor.dropWhile (· == ' ')
        if cursor.takeWhile (· != ' ') = token then true
        else aliasLoop token fuel (cursor.dropWhile (· != ' '))

/-- The token is one of the aliases. -/
def aliasMatches (aliases token : String) : Bool :=
  if aliases = "" then false
  else aliasLoop token.toList (aliases.toList.length + 1) aliases.toList

/-- The command of a token. -/
def resolveCommand (token : String) : CommandId :=
  match commandSpecs.find? fun spec => spec.name == token || aliasMatches spec.aliases token with
  | some spec => spec.id
  | none => .unknown

end Ldc1614.CommandLine
