import Ldc1614.Cli.CommandSpecs
import Ldc1614.Cli.Line
import Ldc1614.Driver.Steps

/-! # The staged profile

Settings of the command line edit a staged copy of the profile. Only `profile commit confirm` hands
the copy to the driver, and `bind` and `end` are the only other commands that change what the driver
holds. Values that are only printed are left out. -/

namespace Ldc1614

/-- Every error is routed. -/
def ErrorReporting.all : ErrorReporting :=
  ⟨true, true, true, true, true, true, true, true, true, true, true, true⟩

end Ldc1614

namespace Ldc1614.CommandLine

open Cmd

/-- The arguments of a command, its name first. -/
abbrev Argv := List String

def isConfirmed (text : String) : Bool := text == "confirm"

/-! ### Settings -/

/-- What a setting does to the copy. -/
inductive Setting where
  | usage
  /-- The channel or the sequence is not available. -/
  | unavailable (text : String)
  /-- The setting is only shown. -/
  | shown
  | changed (config : Config)
  deriving DecidableEq, Repr

def channelUnavailable (channel : ℕ) : String :=
  "channel " ++ toString channel ++ " is unavailable on LDC1612"

def parseBit (text : String) : Option Bool :=
  if text == "0" then some false else if text == "1" then some true else none

/-- The channels and the sequence of `mode seq`. -/
def sequenceOf (count : ℕ) : Option (ChannelMask × RRSequence) :=
  if count = 2 then some (⟨0x03⟩, .ch0Ch1)
  else if count = 3 then some (⟨0x07⟩, .ch0Ch1Ch2)
  else if count = 4 then some (⟨0x0F⟩, .ch0Ch1Ch2Ch3)
  else none

def modeSetting (argv : Argv) (staged : Config) : Setting :=
  match argv with
  | [_, mode, number] =>
      if mode == "single" then
        match parseUnsigned number 3 with
        | none => .usage
        | some channel =>
            -- checked against the copy, whatever the driver is bound to
            if staged.variant = .ldc1612 ∧ 2 ≤ channel then
              .unavailable (channelUnavailable channel)
            else
              let channel : Channel := ⟨BitVec.ofNat 8 channel⟩
              .changed { staged with
                mode := .singleChannel, channels := channelBit channel, activeChannel := channel
                rrSequence := .unspecified }
      else if mode == "seq" then
        match (parseUnsigned number 4).bind fun count => (sequenceOf count).map (count, ·) with
        | none => .usage
        | some (count, channels, sequence) =>
            if staged.variant = .ldc1612 ∧ count ≠ 2 then
              .unavailable "LDC1612 sequential mode supports exactly 2 channels"
            else .changed { staged with
              mode := .multiChannelSequential, activeChannel := .none, channels := channels
              rrSequence := sequence }
      else .usage
  | _ => .usage

def refclkSetting (argv : Argv) (staged : Config) : Setting :=
  match argv with
  | [_, source, hz, ppm] =>
      match parseUnsigned hz (2 ^ 32 - 1), parseUnsigned ppm 999999 with
      | some frequency, some tolerance =>
          if (source ≠ "internal" ∧ source ≠ "external") ∨ frequency = 0 then .usage
          else .changed { staged with
            referenceClock :=
              { source := if source = "internal" then .internal else .externalClock
                frequencyHz := BitVec.ofNat 32 frequency
                tolerancePpm := BitVec.ofNat 32 tolerance } }
      | _, _ => .usage
  | _ => .usage

/-- The bandwidth of a number of MHz. -/
def bandwidthOf (text : String) : Option Deglitch :=
  if text == "1" then some .bw1Mhz
  else if text == "3" then some .bw3Mhz
  else if text == "10" then some .bw10Mhz
  else if text == "33" then some .bw33Mhz
  else none

def deglitchSetting (argv : Argv) (staged : Config) : Setting :=
  match argv with
  | [_, mhz] =>
      match bandwidthOf mhz with
      | some deglitch => .changed { staged with deglitch := deglitch }
      | none => .usage
  | _ => .usage

def activationSetting (argv : Argv) (staged : Config) : Setting :=
  match argv with
  | [_, level] =>
      if level == "full" then .changed { staged with sensorActivation := .fullCurrent }
      else if level == "low" then .changed { staged with sensorActivation := .lowPower }
      else .usage
  | _ => .usage

def timeoutSetting (argv : Argv) (staged : Config) : Setting :=
  match argv with
  | [_, ms] =>
      match parseUnsigned ms (2 ^ 32 - 1) with
      | some value =>
          if value = 0 then .usage
          else .changed { staged with i2cTimeoutMs := BitVec.ofNat 32 value }
      | none => .usage
  | _ => .usage

/-- A setting of one bit. -/
def bitSetting (update : Bool → Config → Config) (argv : Argv) (staged : Config) : Setting :=
  match argv with
  | [_, bit] =>
      match parseBit bit with
      | some enabled => .changed (update enabled staged)
      | none => .usage
  | _ => .usage

def errorsSetting (argv : Argv) (staged : Config) : Setting :=
  match argv with
  | [_] => .shown
  | [_, action] =>
      if action == "show" then .shown
      else if action == "all" then .changed { staged with errorReporting := .all }
      else if action == "none" then .changed { staged with errorReporting := {} }
      else .usage
  | _ => .usage

/-- Set one error route by its name. -/
def setRoute (route : String) (enabled : Bool) (e : ErrorReporting) : Option ErrorReporting :=
  if route == "data-under" then some { e with dataUnderRange := enabled }
  else if route == "data-over" then some { e with dataOverRange := enabled }
  else if route == "data-watchdog" then some { e with dataWatchdog := enabled }
  else if route == "data-amplitude-high" then some { e with dataAmplitudeHigh := enabled }
  else if route == "data-amplitude-low" then some { e with dataAmplitudeLow := enabled }
  else if route == "status-under" then some { e with statusUnderRange := enabled }
  else if route == "status-over" then some { e with statusOverRange := enabled }
  else if route == "status-watchdog" then some { e with statusWatchdog := enabled }
  else if route == "status-amplitude-high" then some { e with statusAmplitudeHigh := enabled }
  else if route == "status-amplitude-low" then some { e with statusAmplitudeLow := enabled }
  else if route == "status-zero-count" then some { e with statusZeroCount := enabled }
  else if route == "data-ready" then some { e with dataReady := enabled }
  else none

def errorSetting (argv : Argv) (staged : Config) : Setting :=
  match argv with
  | [_, route, bit] =>
      match (parseBit bit).bind fun enabled => setRoute route enabled staged.errorReporting with
      | some reporting => .changed { staged with errorReporting := reporting }
      | none => .usage
  | _ => .usage

/-- The channel of a channel setting, or why it cannot be set. -/
def settingChannel (text : String) (staged : Config) : Except Setting (Fin 4) :=
  match parseUnsigned text 3 with
  | none => .error .usage
  | some channel =>
      if staged.variant = .ldc1612 ∧ 2 ≤ channel then
        .error (.unavailable (channelUnavailable channel))
      else if h : channel < 4 then .ok ⟨channel, h⟩
      else .error .usage

/-- The copy with one channel changed. -/
def withChannel (staged : Config) (index : Fin 4) (f : ChannelConfig → ChannelConfig) : Config :=
  { staged with channel := staged.channel.set index (f (staged.channel.get index)) }

/-- A setting of one number of a channel, within its bounds. -/
def channelSetting (minimum maximum : ℕ) (update : ℕ → ChannelConfig → ChannelConfig) (argv : Argv)
    (staged : Config) : Setting :=
  match argv with
  | [_, channel, number] =>
      match settingChannel channel staged with
      | .error refusal => refusal
      | .ok index =>
          match parseUnsigned number maximum with
          | some value =>
              if value < minimum then .usage else .changed (withChannel staged index (update value))
          | none => .usage
  | _ => .usage

def sensorBoundsSetting (argv : Argv) (staged : Config) : Setting :=
  match argv with
  | [_, channel, low, high] =>
      match settingChannel channel staged with
      | .error refusal => refusal
      | .ok index =>
          match parseUnsigned low (2 ^ 32 - 1), parseUnsigned high (2 ^ 32 - 1) with
          | some minimum, some maximum =>
              .changed (withChannel staged index fun channel =>
                { channel with
                  expectedSensorMinHz := BitVec.ofNat 32 minimum
                  expectedSensorMaxHz := BitVec.ofNat 32 maximum })
          | _, _ => .usage
  | _ => .usage

/-- The setting of a command. -/
def settingOf (id : CommandId) : Option (Argv → Config → Setting) :=
  match id with
  | .mode => some modeSetting
  | .refclk => some refclkSetting
  | .deglitch => some deglitchSetting
  | .activation => some activationSetting
  | .timeout => some timeoutSetting
  | .rp => some (bitSetting fun enabled config => { config with rpOverrideEnabled := enabled })
  | .autoamp => some (bitSetting fun enabled config =>
      { config with autoAmplitudeCorrectionEnabled := enabled })
  | .highCurrent => some (bitSetting fun enabled config =>
      { config with highCurrentDriveEnabled := enabled })
  | .intbConfig => some (bitSetting fun enabled config => { config with intbDisabled := !enabled })
  | .errors => some errorsSetting
  | .error => some errorSetting
  | .rcount => some (channelSetting rcountMin.toNat (2 ^ 16 - 1) fun value channel =>
      { channel with rcount := BitVec.ofNat 16 value })
  | .settle => some (channelSetting 0 (2 ^ 16 - 1) fun value channel =>
      { channel with settleCount := BitVec.ofNat 16 value })
  | .finDiv => some (channelSetting 1 15 fun value channel =>
      { channel with finDivider := BitVec.ofNat 8 value })
  | .frefDiv => some (channelSetting 1 1023 fun value channel =>
      { channel with frefDivider := BitVec.ofNat 16 value })
  | .offset => some (channelSetting 0 (2 ^ 16 - 1) fun value channel =>
      { channel with offset := BitVec.ofNat 16 value })
  | .drive => some (channelSetting 0 31 fun value channel =>
      { channel with driveCurrentCode := ⟨BitVec.ofNat 8 value⟩ })
  | .sensorBounds => some sensorBoundsSetting
  | _ => none

/-! ### The copy -/

/-- The fields of the command line that hold the copy, and the driver it is for. -/
structure Staging where
  device : Driver
  stagedConfig : Config := {}
  stagedInitialized : Bool := false
  stagedDirty : Bool := false
  deriving DecidableEq, Repr

/-- What a command line reports. -/
inductive Answer where
  | usage (synopsis : String)
  | error (text : String)
  | status (status : Status)
  /-- `markStagedChanged`. -/
  | staged
  /-- "profile_commit". -/
  | profileCommit (outcome : String) (status : Status)
  /-- Everything else. -/
  | done
  deriving DecidableEq, Repr

/-- `defaults` with the identity of the binding from `config`. -/
def withIdentity (config defaults : Config) : Config :=
  { defaults with
    i2cWrite := config.i2cWrite, i2cWriteRead := config.i2cWriteRead, i2cUser := config.i2cUser
    i2cAddress := config.i2cAddress, variant := config.variant
    intbAsserted := config.intbAsserted, intbUser := config.intbUser }

namespace Staging

variable (s : Staging)

/-- The copy is made anew. `defaults` is what the platform answers when it is asked. -/
def discardStagedProfile (defaults : Config) : Staging :=
  { s with
    stagedConfig := if s.device.bound then s.device.config else defaults
    stagedInitialized := true
    stagedDirty := false }

def ensureStagedProfile (defaults : Config) : Staging :=
  if s.stagedInitialized then s else s.discardStagedProfile defaults

def resetStagedProfile (defaults : Config) : Staging :=
  { s with
    -- the binding is never a setting
    stagedConfig := if s.device.bound then withIdentity s.device.config defaults else defaults
    stagedInitialized := true
    stagedDirty := true }

/-! ### Commands -/

/-- The text of `usage` for a setting. -/
def settingUsage (id : CommandId) : String :=
  match commandSpec id with
  | some spec => spec.synopsis
  | none => "setting"

/-- Edit the copy. -/
def handleSetting (id : CommandId) (setting : Argv → Config → Setting) (argv : Argv)
    (defaults : Config) : Staging × Answer :=
  let s := s.ensureStagedProfile defaults
  match setting argv s.stagedConfig with
  | .usage => (s, .usage (settingUsage id))
  | .unavailable text => (s, .error text)
  | .shown => (s, .done)
  | .changed config => ({ s with stagedConfig := config, stagedDirty := true }, .staged)

/-- `profile commit confirm`. The command line has no work of its own here. -/
def commit : Staging × Answer :=
  if !s.device.bound then (s, .status (.error .notBound "Bind before profile commit"))
  else if s.device.progress.active then (s, .status (.error .busy "CLI work active"))
  else if s.device.appliedState ≠ .appliedSleeping then
    (s, .status (.error .busy
      "Profile commit requires verified sleeping hardware; run sleep first"))
  else
    let validation := validateConfig s.stagedConfig
    -- a copy that has not been edited is validated, but not handed over
    if validation.isOk && s.stagedDirty then
      let updated := s.device.updateDesiredConfig s.stagedConfig
      ({ s with device := updated.1, stagedDirty := !updated.2.isOk },
        .profileCommit (if updated.2.isOk then "COMMITTED" else "REJECTED") updated.2)
    else (s, .profileCommit (if validation.isOk then "UNCHANGED" else "REJECTED") validation)

def profileUsage : String := "profile show|reset|discard\nprofile validate\nprofile commit confirm"

/-- `defaults` and `again` are what the platform answers when it is asked once and a second time. -/
def handleProfile (argv : Argv) (defaults again : Config) : Staging × Answer :=
  match argv with
  | [_, action] =>
      let s := s.ensureStagedProfile defaults
      if action == "show" then (s, .done)
      else if action == "reset" then (s.resetStagedProfile again, .done)
      else if action == "discard" then (s.discardStagedProfile again, .done)
      else if action == "validate" then (s, .status (validateConfig s.stagedConfig))
      else (s, .usage profileUsage)
  | [_, action, confirmation] =>
      let s := s.ensureStagedProfile defaults
      if action == "commit" && isConfirmed confirmation then s.commit
      else (s, .usage profileUsage)
  | _ => (s, .usage profileUsage)

def handleBind (argv : Argv) (defaults again : Config) : Staging × Answer :=
  if argv.length ≠ 1 then (s, .usage "bind")
  else
    let bound := s.device.bind defaults
    let s := { s with device := bound.1 }
    (if bound.2.isOk then s.discardStagedProfile again else s, .status bound.2)

def handleEnd (argv : Argv) : Staging × Answer :=
  if argv.length ≠ 1 then (s, .usage "end")
  else ({ s with device := s.device.end_, stagedInitialized := false, stagedDirty := false }, .done)

/-- A command that shows the copy. -/
def handleShow (id : CommandId) (argv : Argv) (defaults : Config) : Staging × Answer :=
  if argv.length ≠ 1 then (s, .usage (settingUsage id)) else (s.ensureStagedProfile defaults, .done)

/-- The channel of `freq`, as far as a bound driver has it. -/
def freqChannel (text : String) : Bool :=
  match parseUnsigned text 3 with
  -- checked against the driver, also where the copy is meant
  | some channel => !(s.device.bound && s.device.config.variant = .ldc1612 && 2 ≤ channel)
  | none => false

/-- The arguments of `freq`. -/
def freqAccepts (argv : Argv) : Bool :=
  match argv with
  | [_, channel, raw] => s.freqChannel channel && (parseUnsigned raw 0x0FFFFFFF).isSome
  | [_, profile, channel, raw] =>
      (profile == "desired" || profile == "staged") && s.freqChannel channel &&
        (parseUnsigned raw 0x0FFFFFFF).isSome
  | _ => false

def handleFreq (argv : Argv) (defaults : Config) : Staging × Answer :=
  if s.freqAccepts argv then (s.ensureStagedProfile defaults, .done)
  else (s, .usage (settingUsage .freq))

def commandAllowedWhileBusy (id : CommandId) : Bool :=
  id == .help || id == .version || id == .color || id == .verbose || id == .bus || id == .diag ||
    id == .job || id == .driver || id == .state || id == .result || id == .last || id == .cancel

/-- A line that `parseLine` has accepted. `working` says that the command line has a job or session of
its own. What other commands do to the driver is not done here. -/
def processCommand (working : Bool) (defaults again : Config) (argv : Argv) : Staging × Answer :=
  let id := resolveCommand (argv.headD "")
  if id = .unknown then (s, .error ("unknown command '" ++ argv.headD "" ++ "'; type help"))
  else if (working || s.device.progress.active) && !commandAllowedWhileBusy id then
    (s, .status (.error .busy "CLI work active; use job or cancel"))
  else
    match settingOf id with
    | some setting => s.handleSetting id setting argv defaults
    | none =>
        match id with
        | .profile => s.handleProfile argv defaults again
        | .bind => s.handleBind argv defaults again
        | .end_ => s.handleEnd argv
        | .cfg | .addr | .variant => s.handleShow id argv defaults
        | .freq => s.handleFreq argv defaults
        -- the copy is made before the arguments are read
        | .timing => (s.ensureStagedProfile defaults, .done)
        | _ => (s, .done)

/-! ### The identity of the binding -/

/-- Two profiles are for the same binding. The driver compares the first five on an update; the INTB
callback and its context are part of the binding, but not compared. -/
structure SameBinding (config config' : Config) : Prop where
  i2cWrite : config.i2cWrite = config'.i2cWrite
  i2cWriteRead : config.i2cWriteRead = config'.i2cWriteRead
  i2cUser : config.i2cUser = config'.i2cUser
  i2cAddress : config.i2cAddress = config'.i2cAddress
  variant : config.variant = config'.variant
  intbAsserted : config.intbAsserted = config'.intbAsserted
  intbUser : config.intbUser = config'.intbUser

/-- A profile is for its own binding. -/
theorem SameBinding.refl (config : Config) : SameBinding config config :=
  ⟨rfl, rfl, rfl, rfl, rfl, rfl, rfl⟩

/-- Profiles for the binding of a third one are for the same binding. -/
theorem SameBinding.trans {a b c : Config} (h : SameBinding a b) (h' : SameBinding b c) :
    SameBinding a c :=
  ⟨h.i2cWrite.trans h'.i2cWrite, h.i2cWriteRead.trans h'.i2cWriteRead,
    h.i2cUser.trans h'.i2cUser, h.i2cAddress.trans h'.i2cAddress, h.variant.trans h'.variant,
    h.intbAsserted.trans h'.intbAsserted, h.intbUser.trans h'.intbUser⟩

/-- The setting leaves the binding alone. -/
def Keeps (setting : Argv → Config → Setting) : Prop :=
  ∀ argv staged config, setting argv staged = .changed config → SameBinding config staged

/-- `mode` sets the mode, the channels and their sequence only. -/
theorem keeps_mode : Keeps modeSetting := by
  intro argv staged config h
  unfold modeSetting at h
  split at h
  · split at h
    · split at h
      · cases h
      · split at h
        · cases h
        · cases h
          exact ⟨rfl, rfl, rfl, rfl, rfl, rfl, rfl⟩
    · split at h
      · split at h
        · cases h
        · split at h
          · cases h
          · cases h
            exact ⟨rfl, rfl, rfl, rfl, rfl, rfl, rfl⟩
      · cases h
  · cases h

/-- `refclk` sets the reference clock only. -/
theorem keeps_refclk : Keeps refclkSetting := by
  intro argv staged config h
  unfold refclkSetting at h
  split at h
  · split at h
    · split at h
      · cases h
      · cases h
        exact ⟨rfl, rfl, rfl, rfl, rfl, rfl, rfl⟩
    · cases h
  · cases h

/-- `deglitch` sets the filter bandwidth only. -/
theorem keeps_deglitch : Keeps deglitchSetting := by
  intro argv staged config h
  unfold deglitchSetting at h
  split at h
  · split at h
    · cases h
      exact ⟨rfl, rfl, rfl, rfl, rfl, rfl, rfl⟩
    · cases h
  · cases h

/-- `activation` sets the sensor current only. -/
theorem keeps_activation : Keeps activationSetting := by
  intro argv staged config h
  unfold activationSetting at h
  split at h
  · split at h
    · cases h
      exact ⟨rfl, rfl, rfl, rfl, rfl, rfl, rfl⟩
    · split at h
      · cases h
        exact ⟨rfl, rfl, rfl, rfl, rfl, rfl, rfl⟩
      · cases h
  · cases h

/-- `timeout` sets the timeout of a transfer only. -/
theorem keeps_timeout : Keeps timeoutSetting := by
  intro argv staged config h
  unfold timeoutSetting at h
  split at h
  · split at h
    · split at h
      · cases h
      · cases h
        exact ⟨rfl, rfl, rfl, rfl, rfl, rfl, rfl⟩
    · cases h
  · cases h

/-- A setting of one bit keeps what its update keeps. -/
theorem keeps_bit {update : Bool → Config → Config}
    (hupdate : ∀ enabled staged, SameBinding (update enabled staged) staged) :
    Keeps (bitSetting update) := by
  intro argv staged config h
  unfold bitSetting at h
  split at h
  · split at h
    · cases h
      exact hupdate _ staged
    · cases h
  · cases h

/-- `errors` sets all error routes or none. -/
theorem keeps_errors : Keeps errorsSetting := by
  intro argv staged config h
  unfold errorsSetting at h
  split at h
  · cases h
  · split at h
    · cases h
    · split at h
      · cases h
        exact ⟨rfl, rfl, rfl, rfl, rfl, rfl, rfl⟩
      · split at h
        · cases h
          exact ⟨rfl, rfl, rfl, rfl, rfl, rfl, rfl⟩
        · cases h
  · cases h

/-- `error` sets one error route only. -/
theorem keeps_error : Keeps errorSetting := by
  intro argv staged config h
  unfold errorSetting at h
  split at h
  · split at h
    · cases h
      exact ⟨rfl, rfl, rfl, rfl, rfl, rfl, rfl⟩
    · cases h
  · cases h

/-- The refusal of a channel changes nothing. -/
theorem settingChannel_refuses {text : String} {staged config : Config} {refusal : Setting}
    (h : settingChannel text staged = .error refusal) : refusal ≠ .changed config := by
  unfold settingChannel at h
  split at h
  · cases h
    exact Setting.noConfusion
  · split at h
    · cases h
      exact Setting.noConfusion
    · split at h
      · cases h
      · cases h
        exact Setting.noConfusion

/-- A setting of a channel changes that channel only. -/
theorem keeps_channel (minimum maximum : ℕ) (update : ℕ → ChannelConfig → ChannelConfig) :
    Keeps (channelSetting minimum maximum update) := by
  intro argv staged config h
  unfold channelSetting at h
  split at h
  · split at h
    · next hrefused => exact absurd h (settingChannel_refuses hrefused)
    · split at h
      · split at h
        · cases h
        · cases h
          exact ⟨rfl, rfl, rfl, rfl, rfl, rfl, rfl⟩
      · cases h
  · cases h

/-- `sensorbounds` sets the expected frequencies of a channel only. -/
theorem keeps_sensorBounds : Keeps sensorBoundsSetting := by
  intro argv staged config h
  unfold sensorBoundsSetting at h
  split at h
  · split at h
    · next hrefused => exact absurd h (settingChannel_refuses hrefused)
    · split at h
      · cases h
        exact ⟨rfl, rfl, rfl, rfl, rfl, rfl, rfl⟩
      · cases h
  · cases h

/-- No setting touches the binding. -/
theorem settingOf_keeps {id : CommandId} {setting : Argv → Config → Setting}
    (h : settingOf id = some setting) : Keeps setting := by
  cases id with
  | mode => exact Option.some.inj h ▸ keeps_mode
  | refclk => exact Option.some.inj h ▸ keeps_refclk
  | deglitch => exact Option.some.inj h ▸ keeps_deglitch
  | activation => exact Option.some.inj h ▸ keeps_activation
  | timeout => exact Option.some.inj h ▸ keeps_timeout
  | rp | autoamp | highCurrent | intbConfig =>
      exact Option.some.inj h ▸ keeps_bit fun _ _ => ⟨rfl, rfl, rfl, rfl, rfl, rfl, rfl⟩
  | errors => exact Option.some.inj h ▸ keeps_errors
  | error => exact Option.some.inj h ▸ keeps_error
  | rcount | settle | finDiv | frefDiv | offset | drive =>
      exact Option.some.inj h ▸ keeps_channel _ _ _
  | sensorBounds => exact Option.some.inj h ▸ keeps_sensorBounds
  | _ => cases h

end Staging

end Ldc1614.CommandLine
