import Mathlib.Data.List.Nodup
import Ldc1614.Driver.Acceptance
import Ldc1614.Driver.Encoding
import Ldc1614.Driver.Evaluate
import Ldc1614.Guarantees.Trust

/-! # The register image of a profile

What a profile writes into the registers: which registers, which reserved bits, and that the words
determine every setting the hardware sees. Replay, expected register, diagnostic write and wake are
four views of one image. -/

namespace Ldc1614

open Arithmetic Cmd Interaction

/-! ### The image -/

/-- The writes of the replay, in order. -/
def profileImage (config : Config) : List ConfigWrite :=
  (List.range (profileLength config)).map fun step => Stage.writeAt config (BitVec.ofNat 8 step)

/-- The reserved bits of a register have the values the datasheet asks for. -/
structure ReservedClean (reg : U8) (value : U16) : Prop where
  config : reg = regConfig → value &&& 0x003F = 0x0001 ∧ value &&& 0x0100 = 0
  muxConfig : reg = regMuxConfig → value &&& 0x1FF8 = 0x0208
  clockDividers : regClockDividers0 ≤ reg → reg ≤ regClockDividers3 → value &&& 0x0C00 = 0
  errorConfig : reg = regErrorConfig → value &&& ~~~maskErrcfgAllowed = 0
  driveCurrent : regDriveCurrent0 ≤ reg → reg ≤ regDriveCurrent3 → value &&& 0x07FF = 0

/-- The image as it crosses the bus: register and word of each write. -/
def Config.words (config : Config) : List (U8 × U16) :=
  (profileImage config).map fun write => (write.reg, write.value)

/-- The word an image puts into a register. -/
def wordAt (words : List (U8 × U16)) (reg : U8) : U16 :=
  ((words.find? fun word => word.1 == reg).map Prod.snd).getD 0

/-- The variant an image is for: only an LDC1614 has the registers of channel 2. -/
def imageVariant (words : List (U8 × U16)) : DeviceVariant :=
  if words.any fun word => word.1 == regRcount 2 then .ldc1614 else .ldc1612

/-- The settings an image selects. -/
def decode (words : List (U8 × U16)) : Settings :=
  decodeImage (channelCountFor (imageVariant words)) (wordAt words)

/-- The diagnostic write reaches the transport. -/
def Driver.AdmitsWrite (d : Driver) (reg : U8) (value : U16) : Prop :=
  ∃ request next, d.writeRegister16 reg value = .call request next

/-! ### The writes of the image -/

section Writes

variable {config : Config} {write : ConfigWrite} {reg : U8}

/-- The forms of a replay write. -/
inductive ProfileWrite (config : Config) : ConfigWrite → Prop
  | config : ProfileWrite config
      { valid := true, reg := regConfig, value := buildConfigRegister config true,
        phase := .forceSleep }
  | channel (index : Fin 4) (field : ℕ) (hindex : index.val < (channelCountFor config.variant).val)
      (hfield : field < 5) : ProfileWrite config (channelWriteAt config index field)
  | errorConfig : ProfileWrite config
      { valid := true, reg := regErrorConfig, value := encodeErrorReporting config.errorReporting,
        phase := .writeErrorConfig }
  | muxConfig : ProfileWrite config
      { valid := true, reg := regMuxConfig, value := buildMuxConfigRegister config,
        phase := .writeMuxConfig }

theorem ProfileWrite.valid (h : ProfileWrite config write) : write.valid = true := by
  cases h with
  | channel index field => exact channelWriteAt_valid config index field
  | _ => rfl

/-- A replay step behind the first. -/
theorem writeAt_of_pos {n : ℕ} (h : n < profileLength config) (hpos : n ≠ 0) :
    Stage.writeAt config (BitVec.ofNat 8 n) =
      if hchannel : n - 1 < (channelCountFor config.variant).val * 5 then
        channelWriteAt config ⟨(n - 1) / 5, by omega⟩ ((n - 1) % 5)
      else if n - 1 - (channelCountFor config.variant).val * 5 = 0 then
        { valid := true, reg := regErrorConfig,
          value := encodeErrorReporting config.errorReporting, phase := .writeErrorConfig }
      else
        { valid := true, reg := regMuxConfig, value := buildMuxConfigRegister config,
          phase := .writeMuxConfig } := by
  have hnat := toNat_ofNat_profile h
  have hwithin : ¬ configurationTransferCount (channelCountFor config.variant) ≤
      BitVec.ofNat 8 n := fun hle =>
    absurd (BitVec.le_def.mp hle) (by rw [hnat]; exact Nat.not_le.mpr h)
  have hzero : BitVec.ofNat 8 n ≠ 0 := fun heq => hpos (by rw [← hnat, heq]; rfl)
  unfold Stage.writeAt configWriteAt
  rw [if_neg hwithin, if_neg hzero]
  simp only [hnat]

/-- The image consists of exactly the writes of these forms. -/
theorem mem_profileImage : write ∈ profileImage config ↔ ProfileWrite config write := by
  have hlength : profileLength config = 3 + 5 * (channelCountFor config.variant).val :=
    configurationTransferCount_toNat _
  have hat (n : ℕ) (h : n < profileLength config) :
      Stage.writeAt config (BitVec.ofNat 8 n) ∈ profileImage config :=
    List.mem_map_of_mem (List.mem_range.mpr h)
  constructor
  · intro hmem
    -- the writes are numbered: CONFIG, five for each channel, ERROR_CONFIG and MUX_CONFIG
    obtain ⟨n, hn, rfl⟩ := List.mem_map.mp hmem
    have hlt := List.mem_range.mp hn
    by_cases hzero : n = 0
    · rw [hzero]
      exact writeAt_zero config ▸ .config
    · rw [writeAt_of_pos hlt hzero]
      split
      · next hchannel =>
          exact .channel _ _ (Nat.div_lt_of_lt_mul (by omega)) (Nat.mod_lt _ (by decide))
      · split
        · exact .errorConfig
        · exact .muxConfig
  · intro hwrite
    -- each form has its number, which determines the channel and the field
    cases hwrite with
    | config =>
        rw [← writeAt_zero config]
        exact hat 0 (by omega)
    | channel index field hindex hfield =>
        have hlt : 1 + index.val * 5 + field < profileLength config := by omega
        have hmem := hat _ hlt
        have hquotient : (1 + index.val * 5 + field - 1) / 5 = index.val := by omega
        have hremainder : (1 + index.val * 5 + field - 1) % 5 = field := by omega
        rw [writeAt_of_pos hlt (by omega), dif_pos (by omega)] at hmem
        simpa only [hquotient, hremainder] using hmem
    | errorConfig =>
        have hlt : 1 + (channelCountFor config.variant).val * 5 < profileLength config := by omega
        have hmem := hat _ hlt
        rwa [writeAt_of_pos hlt (by omega), dif_neg (by omega), if_pos (by omega)] at hmem
    | muxConfig =>
        have hlt : 2 + (channelCountFor config.variant).val * 5 < profileLength config := by omega
        have hmem := hat _ hlt
        rwa [writeAt_of_pos hlt (by omega), dif_neg (by omega), if_neg (by omega)] at hmem

/-- No register occurs twice in the image. -/
theorem profileImage_nodup (config : Config) :
    ((profileImage config).map ConfigWrite.reg).Nodup := by
  rw [profileImage, List.map_map]
  refine List.Nodup.map_on ?_ List.nodup_range
  intro m hm n hn heq
  have hlm := List.mem_range.mp hm
  have hln := List.mem_range.mp hn
  have hm := toNat_ofNat_profile hlm
  have hn := toNat_ofNat_profile hln
  have hsame := replay_injective (by omega) (by omega) heq
  rw [← hm, ← hn, hsame]

/-- The registers of the image are those of the variant that can be written, but for RESET_DEV. -/
theorem profileImage_registers (hvariant : config.variant = .ldc1612 ∨ config.variant = .ldc1614) :
    reg ∈ (profileImage config).map ConfigWrite.reg ↔
      isConfigurationRegister reg = true ∧
        (config.variant = .ldc1612 → isLdc1614OnlyRegister reg = false) ∧ reg ≠ regResetDev := by
  have hlayout : (profileImage config).map ConfigWrite.reg =
      (List.range (configurationTransferCount (channelCountFor config.variant)).toNat).map
        fun n => (configWriteAt {} (channelCountFor config.variant) (BitVec.ofNat 8 n)).reg := by
    rw [profileImage, List.map_map]
    exact List.map_congr_left fun n _ => (configWriteAt_layout config {} _ _).1
  rw [hlayout]
  rcases hvariant with hvariant | hvariant
  · rw [hvariant]
    revert reg
    decide +kernel
  · rw [hvariant]
    revert reg
    decide +kernel

/-- Two writes of the image to one register are the same write. -/
theorem profileImage_injective {other : ConfigWrite} (hwrite : write ∈ profileImage config)
    (hother : other ∈ profileImage config) (h : write.reg = other.reg) : write = other := by
  obtain ⟨m, hm, rfl⟩ := List.mem_map.mp hwrite
  obtain ⟨n, hn, rfl⟩ := List.mem_map.mp hother
  have hlm := List.mem_range.mp hm
  have hln := List.mem_range.mp hn
  have hnatm := toNat_ofNat_profile hlm
  have hnatn := toNat_ofNat_profile hln
  rw [replay_injective (by omega) (by omega) h]

/-- The expected register of an accepted profile is the write of the image to it. -/
theorem expected_of_mem (h : (validateConfig config).isOk = true)
    (hmem : write ∈ profileImage config) :
    expectedConfigurationRegister config write.reg =
      ⟨.ok, write.value, configurationComparisonMask write.reg⟩ := by
  have hvalid := (mem_profileImage.mp hmem).valid
  have hsteps : ((List.range (configurationTransferCount (channelCountFor config.variant)).toNat).map
      (BitVec.ofNat 8)).map (configWriteAt config (channelCountFor config.variant)) =
        profileImage config := List.map_map
  have hpassed : ¬ (!(validateConfig config).isOk) = true := by simp [h]
  unfold expectedConfigurationRegister
  dsimp only
  rw [if_neg hpassed, hsteps]
  cases hfound : (profileImage config).find? fun entry => entry.valid && entry.reg == write.reg with
  | none =>
      have hnone := List.find?_eq_none.mp hfound write hmem
      simp [hvalid] at hnone
  | some entry =>
      have hmatch := List.find?_some hfound
      rw [Bool.and_eq_true, beq_iff_eq] at hmatch
      rw [profileImage_injective (List.mem_of_find?_eq_some hfound) hmem hmatch.2]

/-- Registers outside the image are not part of the profile. -/
theorem expected_isOk_iff (h : (validateConfig config).isOk = true) :
    (expectedConfigurationRegister config reg).status.isOk = true ↔
      reg ∈ (profileImage config).map ConfigWrite.reg := by
  constructor
  · intro hok
    obtain ⟨applyStep, hlt, hreg, -, -⟩ := expected_eq hok
    refine List.mem_map.mpr ⟨Stage.writeAt config applyStep, ?_, hreg⟩
    refine List.mem_map.mpr ⟨applyStep.toNat, List.mem_range.mpr hlt, ?_⟩
    rw [BitVec.ofNat_toNat, BitVec.setWidth_eq]
  · intro hmem
    obtain ⟨write, hwrite, rfl⟩ := List.mem_map.mp hmem
    rw [expected_of_mem h hwrite]
    rfl

/-- What a channel write touches does not depend on the profile. -/
theorem channelWriteAt_reg (config : Config) (index : Fin 4) (field : ℕ) :
    (channelWriteAt config index field).reg = (channelWriteAt {} index field).reg := by
  unfold channelWriteAt
  split <;> rfl

/-- Where the channel writes go: only the third is to a clock divider, only the last to a drive
current. -/
theorem channelWriteAt_facts : ∀ (index : Fin 4) (field : Fin 5),
    let reg := (channelWriteAt {} index field.val).reg
    reg ≠ regConfig ∧ reg ≠ regMuxConfig ∧ reg ≠ regErrorConfig ∧
      (regClockDividers0 ≤ reg → reg ≤ regClockDividers3 → field.val = 2) ∧
      (regDriveCurrent0 ≤ reg → reg ≤ regDriveCurrent3 → field.val = 4) := by
  decide +kernel

/-- Every write of the image keeps the reserved bits. -/
theorem ProfileWrite.reservedClean (h : ProfileWrite config write) :
    ReservedClean write.reg write.value := by
  cases h with
  | config =>
      dsimp only
      exact ⟨fun _ => config_reserved config true, fun h => absurd h (by decide),
        fun _ h => absurd h (by decide), fun h => absurd h (by decide),
        fun h => absurd h (by decide)⟩
  | channel index field hindex hfield =>
      have hfacts := channelWriteAt_facts index ⟨field, hfield⟩
      dsimp only at hfacts
      rw [← channelWriteAt_reg config] at hfacts
      obtain ⟨hconfig, hmux, herror, hdividers, hdrive⟩ := hfacts
      refine ⟨fun h => absurd h hconfig, fun h => absurd h hmux, fun hlo hhi => ?_,
        fun h => absurd h herror, fun hlo hhi => ?_⟩
      · obtain rfl := hdividers hlo hhi
        exact dividerWord_reserved _ _
      · obtain rfl := hdrive hlo hhi
        exact driveWord_reserved _
  | errorConfig =>
      dsimp only
      exact ⟨fun h => absurd h (by decide), fun h => absurd h (by decide),
        fun _ h => absurd h (by decide), fun _ => error_reserved _,
        fun h => absurd h (by decide)⟩
  | muxConfig =>
      dsimp only
      exact ⟨fun h => absurd h (by decide), fun _ => mux_reserved config,
        fun _ h => absurd h (by decide), fun h => absurd h (by decide),
        fun h => absurd h (by decide)⟩

/-- Of every register a profile owns, the readback compares some bit. -/
theorem comparisonMask_ne_zero : ∀ reg : U8, isConfigurationRegister reg = true →
    reg ≠ regResetDev → configurationComparisonMask reg ≠ 0 := by
  decide +kernel

end Writes

/-! ### The decoder -/

section Decoder

variable {config : Config} {write : ConfigWrite}

/-- The image puts the word of a write into its register. -/
theorem wordAt_of_mem (hmem : write ∈ profileImage config) :
    wordAt config.words write.reg = write.value := by
  have hword : (write.reg, write.value) ∈ config.words :=
    List.mem_map_of_mem (f := fun write => (write.reg, write.value)) hmem
  unfold wordAt
  cases hfound : config.words.find? fun word => word.1 == write.reg with
  | none =>
      have hnone := List.find?_eq_none.mp hfound _ hword
      simp at hnone
  | some word =>
      obtain ⟨other, hother, rfl⟩ := List.mem_map.mp (List.mem_of_find?_eq_some hfound)
      have hreg : (other.reg == write.reg) = true := List.find?_some
        (p := fun word : U8 × U16 => word.1 == write.reg) hfound
      rw [profileImage_injective hother hmem (beq_iff_eq.mp hreg)]
      rfl

/-- The image holds the words the profile encodes to. -/
theorem words_encoded (config : Config) : config.Encoded (wordAt config.words) where
  sleeping := wordAt_of_mem (mem_profileImage.mpr .config)
  muxConfig := wordAt_of_mem (mem_profileImage.mpr .muxConfig)
  errorConfig := wordAt_of_mem (mem_profileImage.mpr .errorConfig)
  channel index hindex field hfield :=
    wordAt_of_mem (mem_profileImage.mpr (.channel index field hindex hfield))

/-- The registers of an image tell which variant it is for. -/
theorem words_variant (hvariant : config.variant = .ldc1612 ∨ config.variant = .ldc1614) :
    imageVariant config.words = config.variant := by
  have hany : (config.words.any fun word => word.1 == regRcount 2) = true ↔
      regRcount 2 ∈ (profileImage config).map ConfigWrite.reg := by
    simp [Config.words]
  have hregisters : regRcount 2 ∈ (profileImage config).map ConfigWrite.reg ↔ _ :=
    profileImage_registers hvariant
  rw [← hany] at hregisters
  unfold imageVariant
  rcases hvariant with hvariant | hvariant
  · rw [if_neg fun hmem => ?_, hvariant]
    exact absurd ((hregisters.mp hmem).2.1 hvariant) (by decide)
  · rw [if_pos (hregisters.mpr ⟨by decide, fun h => ?_, by decide⟩), hvariant]
    exact absurd (hvariant.symm.trans h) (by decide)

/-- Decoding the image gives the settings back. -/
theorem decode_words (h : config.Structural) : decode config.words = config.settings := by
  unfold decode
  rw [words_variant h.variant]
  exact (words_encoded config).decodeImage h

end Decoder

/-! ### The driver -/

section Driver

variable {d : Driver} {reg : U8} {value : U16}

/-- A bound, idle driver admits the diagnostic write of exactly the writable registers of its
variant. -/
theorem admitsWrite_iff (hbound : d.bound = true) (hidle : d.progress.active = false)
    (hwrite : d.config.i2cWrite.isSome = true) :
    d.AdmitsWrite reg value ↔ isConfigurationRegister reg = true ∧
      (d.config.variant = .ldc1612 → isLdc1614OnlyRegister reg = false) := by
  unfold Driver.AdmitsWrite Driver.writeRegister16
  rw [if_neg (by simp [hbound]), if_neg (by simp [hidle])]
  by_cases hwritable : isConfigurationRegister reg = true
  · rw [if_neg (by simp [hwritable])]
    by_cases hmissing : (d.config.variant = .ldc1612 && isLdc1614OnlyRegister reg) = true
    · rw [if_pos hmissing]
      rw [Bool.and_eq_true, decide_eq_true_eq] at hmissing
      refine iff_of_false (fun ⟨request, next, hcall⟩ => by cases hcall) fun ⟨_, himplied⟩ => ?_
      rw [himplied hmissing.1] at hmissing
      exact Bool.false_ne_true hmissing.2
    · rw [if_neg hmissing, Driver.writeRegister_eq hwrite]
      rw [Bool.and_eq_true, decide_eq_true_eq, not_and, Bool.not_eq_true] at hmissing
      exact iff_of_true ⟨_, _, rfl⟩ ⟨hwritable, hmissing⟩
  · rw [if_pos (by simp [hwritable])]
    exact iff_of_false (fun ⟨request, next, hcall⟩ => by cases hcall) fun h => hwritable h.1

/-- Waking writes the CONFIG word of the image with the sleep bit cleared. -/
theorem wake_writes (hbound : d.bound = true) (hidle : d.progress.active = false)
    (hstate : d.appliedState = .appliedSleeping) (hwrite : d.config.i2cWrite.isSome = true) :
    ∃ callback next, d.config.i2cWrite = some callback ∧
      d.wake = .call (Driver.writeRequest d.config callback regConfig
        (wordAt d.config.words regConfig &&& ~~~maskCfgSleepModeEn) d.config.i2cTimeoutMs) next := by
  obtain ⟨callback, hcallback⟩ := Option.isSome_iff_exists.mp hwrite
  have hword : wordAt d.config.words regConfig = buildConfigRegister d.config true :=
    (words_encoded d.config).sleeping
  unfold Driver.wake Driver.switchSleep
  rw [if_neg (by simp [hbound]), if_neg (by simp [hidle]), if_neg (by simp [hstate]),
    if_neg (by simp [hstate]), hword, ← config_awake]
  unfold Driver.writeRegister
  rw [hcallback]
  exact ⟨callback, _, rfl, rfl⟩

end Driver

/-- **The register image is a faithful encoding.** The replay of an accepted profile writes pairwise
distinct registers: exactly those, but for RESET_DEV, whose diagnostic write a bound and idle driver
of the profile admits, which are exactly those with an expected register; that one has the written
word and compares some bit. Every written word has its reserved bits, waking writes the CONFIG word
with only the sleep bit cleared, and the settings read back from the image. -/
theorem register_image_faithful (config : Config) (h : (validateConfig config).isOk = true) :
    ((profileImage config).map ConfigWrite.reg).Nodup ∧
    (∀ write ∈ profileImage config, write.valid = true) ∧
    (∀ reg value (d : Driver), d.config = config → d.bound = true → d.progress.active = false →
      (reg ∈ (profileImage config).map ConfigWrite.reg ↔
        d.AdmitsWrite reg value ∧ reg ≠ regResetDev)) ∧
    (∀ reg, reg ∈ (profileImage config).map ConfigWrite.reg ↔
      (expectedConfigurationRegister config reg).status.isOk = true) ∧
    (∀ write ∈ profileImage config,
      (expectedConfigurationRegister config write.reg).expectedValue = write.value ∧
        (expectedConfigurationRegister config write.reg).comparisonMask ≠ 0) ∧
    (∀ write ∈ profileImage config, ReservedClean write.reg write.value) ∧
    (∀ d : Driver, d.config = config → d.bound = true → d.progress.active = false →
      d.appliedState = .appliedSleeping → ∃ callback next, config.i2cWrite = some callback ∧
        d.wake = .call (Driver.writeRequest config callback regConfig
          (wordAt config.words regConfig &&& ~~~maskCfgSleepModeEn) config.i2cTimeoutMs) next) ∧
    decode config.words = config.settings := by
  obtain ⟨hstructural, -⟩ := accepted_of_validateConfig h
  have hregisters (reg : U8) : reg ∈ (profileImage config).map ConfigWrite.reg ↔ _ :=
    profileImage_registers hstructural.variant
  refine ⟨profileImage_nodup config, fun write hmem => ?_, ?_, fun reg => (expected_isOk_iff h).symm,
    fun write hmem => ?_, fun write hmem => (mem_profileImage.mp hmem).reservedClean, ?_,
    decode_words hstructural⟩
  · exact (mem_profileImage.mp hmem).valid
  · rintro reg value d rfl hbound hidle
    rw [hregisters, admitsWrite_iff hbound hidle hstructural.i2cWrite]
    exact (and_assoc).symm
  · obtain ⟨hwritable, -, hreset⟩ :=
      (hregisters write.reg).mp (List.mem_map_of_mem (f := ConfigWrite.reg) hmem)
    rw [expected_of_mem h hmem]
    exact ⟨rfl, comparisonMask_ne_zero write.reg hwritable hreset⟩
  · rintro d rfl hbound hidle hstate
    exact wake_writes hbound hidle hstate hstructural.i2cWrite

/-- The bench profile reads back from its image. -/
theorem register_image_faithful_bench : decode benchProfile.words = benchProfile.settings :=
  (register_image_faithful benchProfile (by decide +kernel)).2.2.2.2.2.2.2

end Ldc1614
