import Ldc1614.Arithmetic.Fields
import Ldc1614.Driver.Acceptance

/-! # Register words and their decoder

The settings of a profile that the hardware sees, and the words `buildConfigRegister`,
`buildMuxConfigRegister`, `encodeErrorReporting` and the channel writes pack them into: every field
reads back from its word, and the reserved bits are what the datasheet asks for. -/

namespace Ldc1614

open Arithmetic Cmd

/-! ### The settings -/

/-- The settings of one channel slot. -/
structure ChannelSettings where
  rcount : U16
  settleCount : U16
  finDivider : U8
  frefDivider : U16
  offset : U16
  driveCurrentCode : DriveCurrentCode
  deriving DecidableEq, Repr

/-- Every setting of a profile that the hardware sees. -/
structure Settings where
  mode : OperatingMode
  channels : ChannelMask
  activeChannel : Channel
  rrSequence : RRSequence
  deglitch : Deglitch
  source : RefClkSrc
  sensorActivation : SensorActivation
  rpOverrideEnabled : Bool
  autoAmplitudeCorrectionEnabled : Bool
  highCurrentDriveEnabled : Bool
  intbDisabled : Bool
  errorReporting : ErrorReporting
  channel : List ChannelSettings
  deriving DecidableEq, Repr

/-- The settings of a channel slot of the profile. -/
def ChannelConfig.settings (channel : ChannelConfig) : ChannelSettings :=
  ⟨channel.rcount, channel.settleCount, channel.finDivider, channel.frefDivider, channel.offset,
    channel.driveCurrentCode⟩

/-- The settings of the profile. -/
def Config.settings (config : Config) : Settings where
  mode := config.mode
  channels := config.channels
  activeChannel := config.activeChannel
  rrSequence := config.rrSequence
  deglitch := config.deglitch
  source := config.referenceClock.source
  sensorActivation := config.sensorActivation
  rpOverrideEnabled := config.rpOverrideEnabled
  autoAmplitudeCorrectionEnabled := config.autoAmplitudeCorrectionEnabled
  highCurrentDriveEnabled := config.highCurrentDriveEnabled
  intbDisabled := config.intbDisabled
  errorReporting := config.errorReporting
  channel := (channelIndices (channelCountFor config.variant)).map fun index =>
    (config.channel.get index).settings

/-! ### The decoder -/

/-- The routing policy an ERROR_CONFIG word selects. -/
def decodeErrorReporting (word : U16) : ErrorReporting where
  dataUnderRange := Fields.has word maskErrcfgUrErr2out
  dataOverRange := Fields.has word maskErrcfgOrErr2out
  dataWatchdog := Fields.has word maskErrcfgWdErr2out
  dataAmplitudeHigh := Fields.has word maskErrcfgAhErr2out
  dataAmplitudeLow := Fields.has word maskErrcfgAlErr2out
  statusUnderRange := Fields.has word maskErrcfgUrErr2int
  statusOverRange := Fields.has word maskErrcfgOrErr2int
  statusWatchdog := Fields.has word maskErrcfgWdErr2int
  statusAmplitudeHigh := Fields.has word maskErrcfgAhErr2int
  statusAmplitudeLow := Fields.has word maskErrcfgAlErr2int
  statusZeroCount := Fields.has word maskErrcfgZcErr2int
  dataReady := Fields.has word maskErrcfgDrdy2int

/-- The settings of a channel slot, from its five registers. -/
def decodeChannel (image : U8 → U16) (index : Fin 4) : ChannelSettings :=
  let ch : U8 := BitVec.ofNat 8 index.val
  ⟨image (regRcount ch), image (regSettleCount ch),
    (image (regClockDividers ch) >>> bitFinDivider).setWidth 8,
    image (regClockDividers ch) &&& maskFrefDivider, image (regOffset ch),
    ⟨(image (regDriveCurrent ch) >>> bitIdrive).setWidth 8⟩⟩

/-- The settings a register image selects for so many channels. -/
def decodeImage (channelCount : Fin 5) (image : U8 → U16) : Settings :=
  let cfg := image regConfig
  let mux := image regMuxConfig
  let sequential := Fields.has mux maskMuxAutoscanEn
  let active : Channel :=
    if sequential then .none else ⟨((cfg &&& maskCfgActiveChan) >>> bitCfgActiveChan).setWidth 8⟩
  let sequence : RRSequence :=
    if sequential then ⟨((mux &&& maskMuxRrSequence) >>> bitMuxRrSequence).setWidth 8⟩
    else .unspecified
  { mode := if sequential then .multiChannelSequential else .singleChannel
    channels := if sequential then sequenceMask sequence else channelBit active
    activeChannel := active
    rrSequence := sequence
    deglitch := ⟨(mux &&& maskMuxDeglitch).setWidth 8⟩
    source := if Fields.has cfg maskCfgRefClkSrc then .externalClock else .internal
    sensorActivation := if Fields.has cfg maskCfgSensorActivateSel then .lowPower else .fullCurrent
    rpOverrideEnabled := Fields.has cfg maskCfgRpOverrideEn
    autoAmplitudeCorrectionEnabled := !Fields.has cfg maskCfgAutoAmpDis
    highCurrentDriveEnabled := Fields.has cfg maskCfgHighCurrentDrv
    intbDisabled := Fields.has cfg maskCfgIntbDis
    errorReporting := decodeErrorReporting (image regErrorConfig)
    channel := (channelIndices channelCount).map (decodeChannel image) }

/-! ### The CONFIG word -/

section ConfigWord

variable (config : Config) (sleeping : Bool)

/-- The flags of CONFIG, with what sets them. -/
def configFlags : List (Bool × U16) :=
  [(sleeping, maskCfgSleepModeEn), (config.rpOverrideEnabled, maskCfgRpOverrideEn),
    (config.sensorActivation = .lowPower, maskCfgSensorActivateSel),
    (!config.autoAmplitudeCorrectionEnabled, maskCfgAutoAmpDis),
    (config.referenceClock.source = .externalClock, maskCfgRefClkSrc),
    (config.intbDisabled, maskCfgIntbDis), (config.highCurrentDriveEnabled, maskCfgHighCurrentDrv)]

/-- CONFIG before its flags: the reserved bits and the active channel. -/
def configBase : U16 :=
  Fields.set configReservedValue (isConcreteChannel config.activeChannel)
    ((config.activeChannel.raw.setWidth 16 <<< bitCfgActiveChan) &&& maskCfgActiveChan)

/-- CONFIG is its base with the flags set. -/
theorem buildConfigRegister_eq :
    buildConfigRegister config sleeping =
      Fields.setAll (configBase config) (configFlags config sleeping) := rfl

/-- The masks of the flags. -/
def configMasks : List U16 :=
  [maskCfgSleepModeEn, maskCfgRpOverrideEn, maskCfgSensorActivateSel, maskCfgAutoAmpDis,
    maskCfgRefClkSrc, maskCfgIntbDis, maskCfgHighCurrentDrv]

/-- The flags of CONFIG stand under its masks. -/
theorem configFlags_masks : (configFlags config sleeping).map Prod.snd = configMasks := rfl

/-- Outside the active channel and the flags, CONFIG holds its reserved bits. -/
theorem configBase_and (other : U16) (h : maskCfgActiveChan &&& other = 0) :
    configBase config &&& other = configReservedValue &&& other :=
  Fields.set_and_of_disjoint (Fields.masked_disjoint _ h)

/-- Every flag of CONFIG reads back as what set it. -/
theorem config_has {condition : Bool} {mask : U16}
    (hmem : (condition, mask) ∈ configFlags config sleeping) :
    Fields.has (buildConfigRegister config sleeping) mask = condition := by
  have hmask : mask ∈ (configFlags config sleeping).map Prod.snd := List.mem_map_of_mem hmem
  rw [configFlags_masks] at hmask
  have hall : (configMasks.all fun mask =>
      maskCfgActiveChan &&& mask == 0 && configReservedValue &&& mask == 0 && mask != 0) = true := by
    decide
  have hfacts := List.all_eq_true.mp hall mask hmask
  simp only [Bool.and_eq_true, beq_iff_eq, bne_iff_ne] at hfacts
  obtain ⟨⟨hactive, hreserved⟩, hne⟩ := hfacts
  rw [buildConfigRegister_eq]
  refine Fields.has_setAll hmem ?_ ((configBase_and config mask hactive).trans hreserved) hne
  rw [configFlags_masks]
  decide

/-- Away from the flags, CONFIG is what it was before them. -/
theorem config_and (other : U16)
    (h : (configMasks.all fun mask => mask &&& other == 0) = true) :
    buildConfigRegister config sleeping &&& other = configBase config &&& other := by
  rw [buildConfigRegister_eq]
  refine Fields.setAll_and_of_disjoint fun mask hmask => ?_
  rw [configFlags_masks] at hmask
  exact beq_iff_eq.mp (List.all_eq_true.mp h mask hmask)

/-- The reserved bits of CONFIG. -/
theorem config_reserved :
    buildConfigRegister config sleeping &&& 0x003F = 0x0001 ∧
      buildConfigRegister config sleeping &&& 0x0100 = 0 := by
  constructor
  · rw [config_and config sleeping 0x003F (by decide),
      configBase_and config 0x003F (by decide)]
    decide
  · rw [config_and config sleeping 0x0100 (by decide),
      configBase_and config 0x0100 (by decide)]
    decide

/-- The channel number of a concrete channel reads back from its field. -/
theorem activeField_roundtrip : ∀ raw : U8, raw < maxChannels →
    ((((raw.setWidth 16 <<< bitCfgActiveChan) &&& maskCfgActiveChan : U16) >>>
      bitCfgActiveChan).setWidth 8 : U8) = raw := by
  decide +kernel

/-- The active channel reads back from CONFIG. -/
theorem config_active (h : isConcreteChannel config.activeChannel = true) :
    (⟨((buildConfigRegister config sleeping &&& maskCfgActiveChan) >>> bitCfgActiveChan).setWidth
      8⟩ : Channel) = config.activeChannel := by
  have hfield := activeField_roundtrip config.activeChannel.raw (of_decide_eq_true h)
  have hself : ((config.activeChannel.raw.setWidth 16 <<< bitCfgActiveChan) &&& maskCfgActiveChan) &&&
      maskCfgActiveChan =
        (config.activeChannel.raw.setWidth 16 <<< bitCfgActiveChan) &&& maskCfgActiveChan := by
    rw [BitVec.and_assoc, BitVec.and_self]
  rw [config_and config sleeping maskCfgActiveChan (by decide), configBase,
    Fields.set_and_self (by decide) hself, if_pos h, hfield]

/-- Waking writes the word of the replay with only the sleep bit cleared. -/
theorem config_awake :
    buildConfigRegister config false =
      buildConfigRegister config true &&& ~~~maskCfgSleepModeEn := by
  have hasleep : Fields.setAll (configBase config ||| maskCfgSleepModeEn)
      (configFlags config true).tail = Fields.setAll (configBase config)
        (configFlags config true).tail ||| maskCfgSleepModeEn := Fields.setAll_or
  have hclear : buildConfigRegister config false &&& maskCfgSleepModeEn = 0 := by
    have hflag : (false, maskCfgSleepModeEn) ∈ configFlags config false := List.mem_cons_self
    have hhas := config_has config false hflag
    simpa only [Fields.has, bne_eq_false_iff_eq] using hhas
  have hword : buildConfigRegister config true =
      buildConfigRegister config false ||| maskCfgSleepModeEn := hasleep
  rw [hword, Fields.or_and_not hclear]

end ConfigWord

/-! ### The MUX_CONFIG word -/

section MuxWord

variable (config : Config)

/-- MUX_CONFIG before the deglitch field. -/
def muxBase : U16 :=
  Fields.set (Fields.set muxConfigReservedValue (config.mode = .multiChannelSequential)
      maskMuxAutoscanEn)
    (config.mode = .multiChannelSequential)
    ((config.rrSequence.raw.setWidth 16 <<< bitMuxRrSequence) &&& maskMuxRrSequence)

/-- MUX_CONFIG is its base with the bandwidth field. -/
theorem buildMuxConfigRegister_eq : buildMuxConfigRegister config =
    muxBase config ||| (config.deglitch.raw.setWidth 16 &&& maskMuxDeglitch) := rfl

/-- Outside the deglitch field, MUX_CONFIG is what it was before it. -/
theorem mux_and (other : U16) (h : maskMuxDeglitch &&& other = 0) :
    buildMuxConfigRegister config &&& other = muxBase config &&& other :=
  Fields.or_and_of_disjoint (Fields.masked_disjoint _ h)

/-- The scan flag reads back as the mode. -/
theorem mux_has_autoscan : Fields.has (buildMuxConfigRegister config) maskMuxAutoscanEn =
    decide (config.mode = .multiChannelSequential) := by
  refine Fields.has_of_and (by decide) ?_
  have hrest : maskMuxRrSequence &&& maskMuxAutoscanEn = 0 := by decide
  rw [mux_and config _ (by decide), muxBase,
    Fields.set_and_of_disjoint (Fields.masked_disjoint _ hrest),
    Fields.set_and_self (by decide) BitVec.and_self]

/-- The reserved bits of MUX_CONFIG. -/
theorem mux_reserved : buildMuxConfigRegister config &&& 0x1FF8 = 0x0208 := by
  have hsequence : maskMuxRrSequence &&& 0x1FF8 = 0 := by decide
  have hscan : maskMuxAutoscanEn &&& 0x1FF8 = 0 := by decide
  rw [mux_and config _ (by decide), muxBase,
    Fields.set_and_of_disjoint (Fields.masked_disjoint _ hsequence),
    Fields.set_and_of_disjoint hscan]
  decide

/-- The number of a sequence that selects channels reads back from its field. -/
theorem sequenceField_roundtrip : ∀ raw : U8, (sequenceMask ⟨raw⟩).bits ≠ 0 →
    ((((raw.setWidth 16 <<< bitMuxRrSequence) &&& maskMuxRrSequence : U16) >>>
      bitMuxRrSequence).setWidth 8 : U8) = raw := by
  decide +kernel

/-- A valid deglitch code reads back from its field. -/
theorem deglitchField_roundtrip : ∀ raw : U8, isValidDeglitch ⟨raw⟩ = true →
    ((raw.setWidth 16 &&& maskMuxDeglitch : U16).setWidth 8 : U8) = raw := by
  decide +kernel

/-- The sequence reads back from MUX_CONFIG. -/
theorem mux_sequence (hmode : config.mode = .multiChannelSequential)
    (h : (sequenceMask config.rrSequence).bits ≠ 0) :
    (⟨((buildMuxConfigRegister config &&& maskMuxRrSequence) >>> bitMuxRrSequence).setWidth 8⟩ :
      RRSequence) = config.rrSequence := by
  have hfield := sequenceField_roundtrip config.rrSequence.raw h
  have hself : ((config.rrSequence.raw.setWidth 16 <<< bitMuxRrSequence) &&& maskMuxRrSequence) &&&
      maskMuxRrSequence =
        (config.rrSequence.raw.setWidth 16 <<< bitMuxRrSequence) &&& maskMuxRrSequence := by
    rw [BitVec.and_assoc, BitVec.and_self]
  have hclear : Fields.set muxConfigReservedValue (config.mode = .multiChannelSequential)
      maskMuxAutoscanEn &&& maskMuxRrSequence = 0 := by
    rw [Fields.set_and_of_disjoint (by decide)]
    decide
  rw [mux_and config _ (by decide), muxBase, Fields.set_and_self hclear hself,
    if_pos (decide_eq_true hmode), hfield]

/-- The deglitch code reads back from MUX_CONFIG. -/
theorem mux_deglitch (h : isValidDeglitch config.deglitch = true) :
    (⟨(buildMuxConfigRegister config &&& maskMuxDeglitch).setWidth 8⟩ : Deglitch) =
      config.deglitch := by
  have hfield := deglitchField_roundtrip config.deglitch.raw h
  have hsequence : maskMuxRrSequence &&& maskMuxDeglitch = 0 := by decide
  have hscan : maskMuxAutoscanEn &&& maskMuxDeglitch = 0 := by decide
  have hclear : muxBase config &&& maskMuxDeglitch = 0 := by
    rw [muxBase, Fields.set_and_of_disjoint (Fields.masked_disjoint _ hsequence),
      Fields.set_and_of_disjoint hscan]
    decide
  have hzero (field : U16) : (0 : U16) ||| field = field := by simp
  rw [buildMuxConfigRegister_eq, BitVec.and_or_distrib_right, hclear, BitVec.and_assoc,
    BitVec.and_self, hzero, hfield]

end MuxWord

/-! ### The ERROR_CONFIG word -/

/-- The flags of ERROR_CONFIG, with what sets them. -/
def errorFlags (reporting : ErrorReporting) : List (Bool × U16) :=
  [(reporting.dataUnderRange, maskErrcfgUrErr2out), (reporting.dataOverRange, maskErrcfgOrErr2out),
    (reporting.dataWatchdog, maskErrcfgWdErr2out), (reporting.dataAmplitudeHigh, maskErrcfgAhErr2out),
    (reporting.dataAmplitudeLow, maskErrcfgAlErr2out),
    (reporting.statusUnderRange, maskErrcfgUrErr2int),
    (reporting.statusOverRange, maskErrcfgOrErr2int),
    (reporting.statusWatchdog, maskErrcfgWdErr2int),
    (reporting.statusAmplitudeHigh, maskErrcfgAhErr2int),
    (reporting.statusAmplitudeLow, maskErrcfgAlErr2int),
    (reporting.statusZeroCount, maskErrcfgZcErr2int), (reporting.dataReady, maskErrcfgDrdy2int)]

/-- The masks of the flags. -/
def errorMasks : List U16 :=
  [maskErrcfgUrErr2out, maskErrcfgOrErr2out, maskErrcfgWdErr2out, maskErrcfgAhErr2out,
    maskErrcfgAlErr2out, maskErrcfgUrErr2int, maskErrcfgOrErr2int, maskErrcfgWdErr2int,
    maskErrcfgAhErr2int, maskErrcfgAlErr2int, maskErrcfgZcErr2int, maskErrcfgDrdy2int]

section ErrorWord

variable (reporting : ErrorReporting)

/-- ERROR_CONFIG is the routes set in an empty word. -/
theorem encodeErrorReporting_eq :
    encodeErrorReporting reporting = Fields.setAll 0 (errorFlags reporting) := rfl

/-- The routes of ERROR_CONFIG stand under its masks. -/
theorem errorFlags_masks : (errorFlags reporting).map Prod.snd = errorMasks := rfl

/-- Every routing flag reads back as what set it. -/
theorem error_has {condition : Bool} {mask : U16} (hmem : (condition, mask) ∈ errorFlags reporting) :
    Fields.has (encodeErrorReporting reporting) mask = condition := by
  have hmask : mask ∈ (errorFlags reporting).map Prod.snd := List.mem_map_of_mem hmem
  rw [errorFlags_masks] at hmask
  have hall : (errorMasks.all fun mask => mask != 0) = true := by decide
  rw [encodeErrorReporting_eq]
  have hnonzero := bne_iff_ne.mp (List.all_eq_true.mp hall mask hmask)
  refine Fields.has_setAll hmem ?_ (BitVec.zero_and) hnonzero
  rw [errorFlags_masks]
  decide

/-- The routing policy reads back from ERROR_CONFIG. -/
theorem decode_encodeErrorReporting :
    decodeErrorReporting (encodeErrorReporting reporting) = reporting := by
  unfold decodeErrorReporting
  cases hreporting : reporting
  congr 1
  all_goals
    rw [← hreporting]
    refine error_has reporting ?_
    simp [errorFlags, hreporting]

/-- ERROR_CONFIG sets no bit the device does not support. -/
theorem error_reserved : encodeErrorReporting reporting &&& ~~~maskErrcfgAllowed = 0 := by
  have hall : (errorMasks.all fun mask => mask &&& ~~~maskErrcfgAllowed == 0) = true := by decide
  rw [encodeErrorReporting_eq, Fields.setAll_and_of_disjoint fun mask hmask => ?_]
  · exact BitVec.zero_and
  · rw [errorFlags_masks] at hmask
    exact beq_iff_eq.mp (List.all_eq_true.mp hall mask hmask)

end ErrorWord

/-! ### The channel words -/

/-- The code of an encodable drive current reads back from its register. -/
theorem driveWord_roundtrip : ∀ code : U8, code ≤ idriveMax →
    (((code.setWidth 16 <<< bitIdrive : U16) >>> bitIdrive).setWidth 8 : U8) = code := by
  decide +kernel

/-- A drive-current word has no bit below the code. -/
theorem driveWord_reserved : ∀ code : U8, (code.setWidth 16 <<< bitIdrive : U16) &&& 0x07FF = 0 := by
  decide +kernel

/-- The shifted sensor divider alone. -/
theorem finField_facts : ∀ fin : U8,
    (fin.setWidth 16 <<< bitFinDivider : U16) &&& maskFrefDivider = 0 ∧
      (fin.setWidth 16 <<< bitFinDivider : U16) &&& 0x0C00 = 0 ∧
      (fin ≤ finDividerMax →
        (((fin.setWidth 16 <<< bitFinDivider : U16) >>> bitFinDivider).setWidth 8 : U8) = fin) := by
  decide +kernel

/-- The clock-divider word. -/
def dividerWord (fin : U8) (fref : U16) : U16 :=
  (fin.setWidth 16 <<< bitFinDivider) ||| (fref &&& maskFrefDivider)

section DividerWord

variable (fin : U8) (fref : U16)

/-- The reference divider reads back from the clock-divider word. -/
theorem dividerWord_fref (h : fref.toNat ≤ 1023) : dividerWord fin fref &&& maskFrefDivider = fref := by
  have hmask : maskFrefDivider.toNat = 2 ^ 10 - 1 := by decide
  have hkeep : fref &&& maskFrefDivider = fref := by
    apply BitVec.eq_of_toNat_eq
    rw [BitVec.toNat_and, hmask, Nat.and_two_pow_sub_one_eq_mod, Nat.mod_eq_of_lt (by omega)]
  have hzero (field : U16) : (0 : U16) ||| field = field := by simp
  rw [dividerWord, BitVec.and_or_distrib_right, (finField_facts fin).1, BitVec.and_assoc,
    BitVec.and_self, hkeep, hzero]

/-- The sensor divider reads back from the clock-divider word. -/
theorem dividerWord_fin (h : fin ≤ finDividerMax) :
    ((dividerWord fin fref >>> bitFinDivider).setWidth 8 : U8) = fin := by
  have hmask : maskFrefDivider.toNat = 2 ^ 10 - 1 := by decide
  have hlow : (fref &&& maskFrefDivider) >>> bitFinDivider = 0 := by
    apply BitVec.eq_of_toNat_eq
    rw [BitVec.toNat_ushiftRight, BitVec.toNat_and, hmask, Nat.and_two_pow_sub_one_eq_mod,
      Nat.shiftRight_eq_div_pow]
    exact Nat.div_eq_of_lt (Nat.lt_trans (Nat.mod_lt _ (by decide)) (by decide))
  have hzero (field : U16) : field ||| (0 : U16) = field := by simp
  rw [dividerWord, BitVec.ushiftRight_or_distrib, hlow, hzero]
  exact (finField_facts fin).2.2 h

/-- The bits between the dividers stay clear. -/
theorem dividerWord_reserved : dividerWord fin fref &&& 0x0C00 = 0 := by
  have hdisjoint : maskFrefDivider &&& 0x0C00 = 0 := by decide
  rw [dividerWord, Fields.or_and_of_disjoint (Fields.masked_disjoint fref hdisjoint)]
  exact (finField_facts fin).2.1

end DividerWord

/-! ### The whole image -/

/-- The words of an image are those the profile encodes to. -/
structure Config.Encoded (config : Config) (image : U8 → U16) : Prop where
  sleeping : image regConfig = buildConfigRegister config true
  muxConfig : image regMuxConfig = buildMuxConfigRegister config
  errorConfig : image regErrorConfig = encodeErrorReporting config.errorReporting
  channel : ∀ index : Fin 4, index.val < (channelCountFor config.variant).val → ∀ field < 5,
    image (channelWriteAt config index field).reg = (channelWriteAt config index field).value

/-- The settings of a channel slot read back from its registers. -/
theorem Config.Encoded.decodeChannel {config : Config} {image : U8 → U16}
    (h : config.Encoded image) {index : Fin 4}
    (hindex : index.val < (channelCountFor config.variant).val)
    (hencodable : (config.channel.get index).Encodable) :
    decodeChannel image index = (config.channel.get index).settings := by
  have hrcount := h.channel index hindex 0 (by decide)
  have hsettle := h.channel index hindex 1 (by decide)
  have hdividers := h.channel index hindex 2 (by decide)
  have hoffset := h.channel index hindex 3 (by decide)
  have hdrive := h.channel index hindex 4 (by decide)
  simp only [channelWriteAt] at hrcount hsettle hdividers hoffset hdrive
  have hfin := dividerWord_fin (config.channel.get index).finDivider
    (config.channel.get index).frefDivider (BitVec.le_def.mpr hencodable.finMax)
  have hfref := dividerWord_fref (config.channel.get index).finDivider
    (config.channel.get index).frefDivider hencodable.frefMax
  have hcode := driveWord_roundtrip (config.channel.get index).driveCurrentCode.value
    (BitVec.le_def.mpr hencodable.driveCurrent)
  unfold dividerWord at hfin hfref
  unfold Ldc1614.decodeChannel ChannelConfig.settings
  dsimp only
  rw [hrcount, hsettle, hdividers, hoffset, hdrive, hfin, hfref, hcode]

/-- The settings of an accepted profile read back from its words. -/
theorem Config.Encoded.decodeImage {config : Config} {image : U8 → U16} (h : config.Encoded image)
    (hstructural : config.Structural) :
    decodeImage (channelCountFor config.variant) image = config.settings := by
  have hflag {condition : Bool} {mask : U16}
      (hmem : (condition, mask) ∈ configFlags config true) :=
    config_has config true hmem
  have hchannels : (channelIndices (channelCountFor config.variant)).map
      (Ldc1614.decodeChannel image) = (channelIndices (channelCountFor config.variant)).map
        fun index => (config.channel.get index).settings :=
    List.map_congr_left fun index hmem =>
      h.decodeChannel (mem_channelIndices.mp hmem)
        (hstructural.encodable index (mem_channelIndices.mp hmem))
  have hactivation : (if decide (config.sensorActivation = .lowPower) then
      SensorActivation.lowPower else .fullCurrent) = config.sensorActivation := by
    rcases hstructural.activation with heq | heq <;> rw [heq] <;> rfl
  have hsource : (if decide (config.referenceClock.source = .externalClock) then
      RefClkSrc.externalClock else .internal) = config.referenceClock.source := by
    rcases hstructural.source with heq | heq <;> rw [heq] <;> rfl
  unfold Ldc1614.decodeImage Config.settings
  dsimp only
  rw [h.sleeping, h.muxConfig, h.errorConfig, hchannels, mux_has_autoscan,
    mux_deglitch config hstructural.deglitch, decode_encodeErrorReporting,
    hflag (.tail _ (.tail _ (.tail _ (.tail _ (.head _))))), hsource,
    hflag (.tail _ (.tail _ (.head _))), hactivation, hflag (.tail _ (.head _)),
    hflag (.tail _ (.tail _ (.tail _ (.head _)))), Bool.not_not,
    hflag (.tail _ (.tail _ (.tail _ (.tail _ (.tail _ (.tail _ (.head _))))))),
    hflag (.tail _ (.tail _ (.tail _ (.tail _ (.tail _ (.head _))))))]
  rcases hstructural.mode with hmode | hmode
  · obtain ⟨hconcrete, hmask, hsequence⟩ := hstructural.single hmode
    have hscan : decide (config.mode = .multiChannelSequential) = false := by
      rw [hmode]
      rfl
    rw [hscan, if_neg Bool.false_ne_true, if_neg Bool.false_ne_true, if_neg Bool.false_ne_true,
      if_neg Bool.false_ne_true, config_active config true hconcrete, ← hmask, ← hmode, ← hsequence]
  · obtain ⟨hactive, hmask⟩ := hstructural.sequential hmode
    have hscan : decide (config.mode = .multiChannelSequential) = true := decide_eq_true hmode
    have hselects : (sequenceMask config.rrSequence).bits ≠ 0 := hmask ▸ hstructural.nonempty
    rw [hscan, if_pos rfl, if_pos rfl, if_pos rfl, if_pos rfl, mux_sequence config hmode hselects,
      hmask, ← hmode, ← hactive]

end Ldc1614
