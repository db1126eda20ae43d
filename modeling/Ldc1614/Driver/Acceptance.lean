import Ldc1614.Driver.Widths
import Ldc1614.Arithmetic.Rounding

/-! # What validation accepts

The acceptance of `validateConfig` in numbers: the structural checks, field by field, and for each
selected channel the comparisons with the two ends of the clock envelope. -/

namespace Ldc1614

open Arithmetic Cmd

/-! ### The conditions -/

/-- Register ranges every channel slot of the variant has to meet. -/
structure ChannelConfig.Encodable (channel : ChannelConfig) : Prop where
  rcount : 5 ≤ channel.rcount.toNat
  finPos : 1 ≤ channel.finDivider.toNat
  finMax : channel.finDivider.toNat ≤ 15
  frefPos : 1 ≤ channel.frefDivider.toNat
  frefMax : channel.frefDivider.toNat ≤ 1023
  driveCurrent : channel.driveCurrentCode.value.toNat ≤ 31

/-- What a channel that is to convert has to meet besides. -/
structure ChannelConfig.Convertible (channel : ChannelConfig) : Prop where
  rcount : 9 ≤ channel.rcount.toNat
  settleCount : 4 ≤ channel.settleCount.toNat
  sensorMin : 1000 ≤ channel.expectedSensorMinHz.toNat
  sensorMax : channel.expectedSensorMaxHz.toNat ≤ 10000000
  ordered : channel.expectedSensorMinHz.toNat ≤ channel.expectedSensorMaxHz.toNat
  divided : 8750000 ≤ channel.expectedSensorMaxHz.toNat → 2 ≤ channel.finDivider.toNat

/-- The channel slot is selected by the profile. -/
def Config.Selects (config : Config) (index : Fin 4) : Prop :=
  config.channels.bits &&& indexBit index ≠ 0

instance (config : Config) (index : Fin 4) : Decidable (config.Selects index) :=
  inferInstanceAs (Decidable (_ ≠ _))

/-- The structural checks of `validateConfig`: all but those that relate a selected channel to the
deglitch filter or the clock. -/
structure Config.Structural (config : Config) : Prop where
  i2cWrite : config.i2cWrite.isSome = true
  i2cWriteRead : config.i2cWriteRead.isSome = true
  timeout : config.i2cTimeoutMs ≠ 0
  address : config.i2cAddress = .addrGnd ∨ config.i2cAddress = .addrVdd
  variant : config.variant = .ldc1612 ∨ config.variant = .ldc1614
  nonempty : config.channels.bits ≠ 0
  implemented : config.channels.bits &&& ~~~(validChannelMask config.variant).bits = 0
  source : config.referenceClock.source = .internal ∨ config.referenceClock.source = .externalClock
  internal : config.referenceClock.source = .internal →
    35000000 ≤ config.referenceClock.frequencyHz.toNat ∧
      config.referenceClock.frequencyHz.toNat ≤ 55000000
  external : config.referenceClock.source = .externalClock →
    2000000 ≤ config.referenceClock.frequencyHz.toNat ∧
      config.referenceClock.frequencyHz.toNat ≤ 40000000
  tolerance : config.referenceClock.tolerancePpm.toNat ≤ 999999
  envelope : config.referenceClock.source = .externalClock →
    2000000 ≤ (referenceClockBoundsHz config).1.toNat ∧
      (referenceClockBoundsHz config).2.toNat ≤ 40000000
  deglitch : isValidDeglitch config.deglitch = true
  activation : config.sensorActivation = .fullCurrent ∨ config.sensorActivation = .lowPower
  mode : config.mode = .singleChannel ∨ config.mode = .multiChannelSequential
  single : config.mode = .singleChannel →
    isConcreteChannel config.activeChannel = true ∧
      config.channels = channelBit config.activeChannel ∧ config.rrSequence = .unspecified
  sequential : config.mode = .multiChannelSequential →
    config.activeChannel = .none ∧ sequenceMask config.rrSequence = config.channels
  highCurrent : config.highCurrentDriveEnabled = true →
    config.mode = .singleChannel ∧ config.activeChannel = .ch0
  encodable : ∀ index : Fin 4, index.val < (channelCountFor config.variant).val →
    (config.channel.get index).Encodable
  convertible : ∀ index, config.Selects index → (config.channel.get index).Convertible

/-- The comparisons of a selected channel with the two ends of the clock envelope. -/
structure ChannelConfig.Clocked (channel : ChannelConfig) (limit clockMin clockMax : ℕ) : Prop where
  reference : clockMax ≤ limit * channel.frefDivider.toNat
  conversion : clockMax * channel.finDivider.toNat ≤
    (channel.rcount.toNat * 16 + 4) * channel.expectedSensorMinHz.toNat * channel.frefDivider.toNat
  offset : channel.offset.toNat * clockMax * channel.finDivider.toNat <
    channel.expectedSensorMinHz.toNat * 65536 * channel.frefDivider.toNat
  input : channel.expectedSensorMaxHz.toNat * 4 * channel.frefDivider.toNat <
    clockMin * channel.finDivider.toNat

/-- A selected channel keeps clear of the deglitch filter and of the clock envelope. -/
structure Config.Margins (config : Config) (index : Fin 4) : Prop where
  deglitch : (config.channel.get index).expectedSensorMaxHz.toNat <
    (deglitchBandwidthHz config.deglitch).toNat
  clocked : (config.channel.get index).Clocked (frefLimitHz config)
    (referenceClockBoundsHz config).1.toNat (referenceClockBoundsHz config).2.toNat

/-! ### One channel -/

/-- A check either fails with its status or is passed. -/
theorem failed_or_passed {c : Prop} [Decidable c] {failure : Status} {rest : Option (Option Status)}
    {result : Option Status} (h : (if c then some (some failure) else rest) = some result) :
    (c ∧ result = some failure) ∨ (¬ c ∧ rest = some result) := by
  by_cases hc : c
  · rw [if_pos hc] at h
    exact Or.inl ⟨hc, (Option.some.inj h).symm⟩
  · rw [if_neg hc] at h
    exact Or.inr ⟨hc, h⟩

/-- The clock comparisons pass exactly on a clocked channel. -/
theorem exactValidateMargins_eq_none {config : Config} {clockMin clockMax : ℕ} {index : Fin 4}
    {result : Option Status} (hpos : 1 ≤ (config.channel.get index).frefDivider.toNat)
    (hmin : (config.channel.get index).frefDivider.toNat ≤ clockMin)
    (h : exactValidateMargins config clockMin clockMax index = some result) :
    result = none ↔
      (config.channel.get index).Clocked (frefLimitHz config) clockMin clockMax := by
  unfold exactValidateMargins at h
  generalize config.channel.get index = channel at hpos hmin h ⊢
  obtain ⟨frefMin, hfrefMin, h⟩ := Option.bind_eq_some_iff.mp h
  obtain ⟨frefMax, hfrefMax, h⟩ := Option.bind_eq_some_iff.mp h
  have hlimit : frefMax ≤ frefLimitHz config ↔
      clockMax ≤ frefLimitHz config * channel.frefDivider.toNat := by
    rw [value_ceilDivide hfrefMax, if_neg (by omega)]
    exact Rounding.ceil_le_iff hpos
  have hnonzero : frefMin ≠ 0 := by
    rw [Exact.value_div hfrefMin]
    exact Nat.ne_of_gt (Nat.div_pos hmin hpos)
  -- the reference clock, divided
  rcases failed_or_passed h with ⟨hfails, rfl⟩ | ⟨hreference, h⟩
  · refine ⟨fun hnone => (by cases hnone), fun hclocked => ?_⟩
    rcases hfails with hzero | hfails
    · exact absurd hzero hnonzero
    · exact absurd (hlimit.mpr hclocked.reference) (by omega)
  -- the sensor period within the conversion
  obtain ⟨cycles, hcycles, h⟩ := Option.bind_eq_some_iff.mp h
  obtain ⟨whole, hwhole, h⟩ := Option.bind_eq_some_iff.mp h
  obtain ⟨sensed, hsensed, h⟩ := Option.bind_eq_some_iff.mp h
  obtain ⟨window, hwindow, h⟩ := Option.bind_eq_some_iff.mp h
  obtain ⟨period, hperiod, h⟩ := Option.bind_eq_some_iff.mp h
  have hwindowValue : window = (channel.rcount.toNat * 16 + 4) *
      channel.expectedSensorMinHz.toNat * channel.frefDivider.toNat := by
    rw [Exact.value_mul hwindow, Exact.value_mul hsensed, Exact.value_add hwhole,
      Exact.value_mul hcycles]
  have hperiodValue := Exact.value_mul hperiod
  rcases failed_or_passed h with ⟨hfails, rfl⟩ | ⟨hconversion, h⟩
  · refine ⟨fun hnone => (by cases hnone), fun hclocked => ?_⟩
    have := hclocked.conversion
    omega
  -- the offset below the slowest sensor
  obtain ⟨masked, hmasked, h⟩ := Option.bind_eq_some_iff.mp h
  obtain ⟨hidden, hhidden, h⟩ := Option.bind_eq_some_iff.mp h
  obtain ⟨scaled, hscaled, h⟩ := Option.bind_eq_some_iff.mp h
  obtain ⟨least, hleast, h⟩ := Option.bind_eq_some_iff.mp h
  have hhiddenValue : hidden = channel.offset.toNat * clockMax * channel.finDivider.toNat := by
    rw [Exact.value_mul hhidden, Exact.value_mul hmasked]
  have hleastValue : least =
      channel.expectedSensorMinHz.toNat * 65536 * channel.frefDivider.toNat := by
    rw [Exact.value_mul hleast, Exact.value_mul hscaled]
  rcases failed_or_passed h with ⟨hfails, rfl⟩ | ⟨hoffset, h⟩
  · refine ⟨fun hnone => (by cases hnone), fun hclocked => ?_⟩
    have := hclocked.offset
    omega
  -- the fastest sensor below a quarter of the clock
  obtain ⟨fourfold, hfourfold, h⟩ := Option.bind_eq_some_iff.mp h
  obtain ⟨input, hinput, h⟩ := Option.bind_eq_some_iff.mp h
  obtain ⟨quarter, hquarter, h⟩ := Option.bind_eq_some_iff.mp h
  have hinputValue : input =
      channel.expectedSensorMaxHz.toNat * 4 * channel.frefDivider.toNat := by
    rw [Exact.value_mul hinput, Exact.value_mul hfourfold]
  have hquarterValue := Exact.value_mul hquarter
  rcases failed_or_passed h with ⟨hfails, rfl⟩ | ⟨hbelow, h⟩
  · refine ⟨fun hnone => (by cases hnone), fun hclocked => ?_⟩
    have := hclocked.input
    omega
  · refine ⟨fun _ => ⟨hlimit.mp ?_, ?_, ?_, ?_⟩, fun _ => (Option.some.inj h).symm⟩
    · omega
    · omega
    · omega
    · omega

/-- The register checks pass exactly on an encodable slot. -/
theorem encodable_iff {channel : ChannelConfig} :
    ¬ (channel.rcount < rcountMin || channel.finDivider < finDividerMin ||
      finDividerMax < channel.finDivider || channel.frefDivider < frefDividerMin ||
      frefDividerMax < channel.frefDivider ||
      idriveMax < channel.driveCurrentCode.value) = true ↔ channel.Encodable := by
  simp only [Bool.or_eq_true, decide_eq_true_eq, not_or, BitVec.not_lt, BitVec.le_def]
  constructor
  · rintro ⟨⟨⟨⟨⟨hrcount, hfinPos⟩, hfinMax⟩, hfrefPos⟩, hfrefMax⟩, hdrive⟩
    exact ⟨hrcount, hfinPos, hfinMax, hfrefPos, hfrefMax, hdrive⟩
  · intro h
    exact ⟨⟨⟨⟨⟨h.rcount, h.finPos⟩, h.finMax⟩, h.frefPos⟩, h.frefMax⟩, h.driveCurrent⟩

/-- The checks of a selected channel on its own fields pass exactly on a convertible one. -/
theorem convertible_iff {channel : ChannelConfig} :
    (¬ (channel.rcount < conversionRcountMin || channel.settleCount < conversionSettleMin) = true ∧
      ¬ (channel.expectedSensorMinHz < sensorFrequencyMinHz ||
        sensorFrequencyMaxHz < channel.expectedSensorMaxHz ||
        channel.expectedSensorMaxHz < channel.expectedSensorMinHz) = true ∧
      ¬ (8750000 ≤ channel.expectedSensorMaxHz && channel.finDivider < 2) = true) ↔
      channel.Convertible := by
  simp only [Bool.or_eq_true, Bool.and_eq_true, decide_eq_true_eq, not_or, not_and,
    BitVec.not_lt, BitVec.le_def]
  constructor
  · rintro ⟨⟨hrcount, hsettle⟩, ⟨⟨hmin, hmax⟩, hordered⟩, hdivided⟩
    exact ⟨hrcount, hsettle, hmin, hmax, hordered, hdivided⟩
  · intro h
    exact ⟨⟨h.rcount, h.settleCount⟩, ⟨⟨h.sensorMin, h.sensorMax⟩, h.ordered⟩, h.divided⟩

/-- A channel passes its checks exactly if it is encodable and, when selected, convertible and
clear of the deglitch filter and the clock. -/
theorem validateChannel_eq_none {config : Config} {clockMin clockMax : U64} {bandwidth : U32}
    {index : Fin 4} (hslow : 2000000 ≤ clockMin.toNat) (hmin : clockMin.toNat ≤ 2 ^ 32)
    (hmax : clockMax.toNat ≤ 55000000) :
    validateChannel config clockMin clockMax bandwidth index = none ↔
      (config.channel.get index).Encodable ∧
        (config.Selects index → (config.channel.get index).Convertible ∧
          (config.channel.get index).expectedSensorMaxHz.toNat < bandwidth.toNat ∧
          (config.channel.get index).Clocked (frefLimitHz config) clockMin.toNat
            clockMax.toNat) := by
  have h : exactValidateChannel config clockMin.toNat clockMax.toNat bandwidth index =
      some (validateChannel config clockMin clockMax bandwidth index) :=
    exactValidateChannel_eq hmin hmax
  generalize validateChannel config clockMin clockMax bandwidth index = result at h ⊢
  unfold exactValidateChannel at h
  rw [exactIndexBit_eq, Option.bind_eq_bind, Option.bind_some] at h
  -- the register limits are checked for every channel
  rcases failed_or_passed h with ⟨hfails, rfl⟩ | ⟨hregisters, h⟩
  · exact ⟨fun hnone => (by cases hnone), fun ⟨hencodable, _⟩ =>
      absurd hfails (encodable_iff.mpr hencodable)⟩
  have hencodable := encodable_iff.mp hregisters
  -- everything else is checked for the selected channels only
  by_cases hselects : config.Selects index
  · have hbit : ¬ (config.channels.bits.toNat &&& (indexBit index).toNat = 0) := by
      rw [← BitVec.toNat_and, toNat_eq_zero_iff]
      exact hselects
    rw [if_neg hbit] at h
    rcases failed_or_passed h with ⟨hfails, rfl⟩ | ⟨hcounts, h⟩
    · exact ⟨fun hnone => (by cases hnone), fun ⟨_, hrest⟩ =>
        absurd hfails (convertible_iff.mpr (hrest hselects).1).1⟩
    rcases failed_or_passed h with ⟨hfails, rfl⟩ | ⟨hsensor, h⟩
    · exact ⟨fun hnone => (by cases hnone), fun ⟨_, hrest⟩ =>
        absurd hfails (convertible_iff.mpr (hrest hselects).1).2.1⟩
    rcases failed_or_passed h with ⟨hfails, rfl⟩ | ⟨hdeglitch, h⟩
    · refine ⟨fun hnone => (by cases hnone), fun ⟨_, hrest⟩ => ?_⟩
      exact absurd (BitVec.le_def.mp hfails) (Nat.not_le.mpr (hrest hselects).2.1)
    rcases failed_or_passed h with ⟨hfails, rfl⟩ | ⟨hdivided, h⟩
    · exact ⟨fun hnone => (by cases hnone), fun ⟨_, hrest⟩ =>
        absurd hfails (convertible_iff.mpr (hrest hselects).1).2.2⟩
    have hconvertible := convertible_iff.mp ⟨hcounts, hsensor, hdivided⟩
    rw [BitVec.le_def, Nat.not_le] at hdeglitch
    have hfref := hencodable.frefMax
    rw [exactValidateMargins_eq_none hencodable.frefPos (by omega) h]
    exact ⟨fun hclocked => ⟨hencodable, fun _ => ⟨hconvertible, hdeglitch, hclocked⟩⟩,
      fun ⟨_, hrest⟩ => (hrest hselects).2.2⟩
  · have hbit : config.channels.bits.toNat &&& (indexBit index).toNat = 0 := by
      rw [← BitVec.toNat_and, toNat_eq_zero_iff]
      exact not_not.mp hselects
    rw [if_pos hbit] at h
    exact ⟨fun _ => ⟨hencodable, fun hsel => absurd hsel hselects⟩,
      fun _ => (Option.some.inj h).symm⟩

/-- The failure a check reports, or one of the checks behind it does. -/
theorem failure_of_check {c : Prop} [Decidable c] {reported failure : Status}
    {rest : Option Status} (hreported : reported.isOk = false)
    (hrest : rest = some failure → failure.isOk = false)
    (h : (if c then some reported else rest) = some failure) : failure.isOk = false := by
  by_cases hc : c
  · rw [if_pos hc] at h
    exact Option.some.inj h ▸ hreported
  · rw [if_neg hc] at h
    exact hrest h

/-- A channel check never fails with `OK`. -/
theorem validateChannel_failure {config : Config} {clockMin clockMax : U64} {bandwidth : U32}
    {index : Fin 4} {failure : Status}
    (h : validateChannel config clockMin clockMax bandwidth index = some failure) :
    failure.isOk = false := by
  unfold validateChannel at h
  revert h
  refine failure_of_check rfl fun h => ?_
  by_cases hselected : (config.channels.bits &&& indexBit index) == 0
  · rw [if_pos hselected] at h
    cases h
  rw [if_neg hselected] at h
  revert h
  refine failure_of_check rfl (failure_of_check rfl (failure_of_check rfl (failure_of_check rfl
    (failure_of_check rfl (failure_of_check rfl (failure_of_check rfl
      (failure_of_check rfl ?_)))))))
  exact fun h => by cases h

/-! ### The whole profile -/

/-- The channel loop passes exactly if every channel does. -/
theorem channels_isOk_iff {body : Fin 4 → Option Status} {indices : List (Fin 4)}
    (hfailure : ∀ index failure, body index = some failure → failure.isOk = false) :
    (match indices.findSome? body with
      | some failure => failure
      | none => Status.ok).isOk = true ↔ ∀ index ∈ indices, body index = none := by
  cases h : indices.findSome? body with
  | none => exact iff_of_true rfl (List.findSome?_eq_none_iff.mp h)
  | some failure =>
      obtain ⟨index, hmem, hindex⟩ := List.exists_of_findSome?_eq_some h
      refine iff_of_false (by simp [hfailure index failure hindex]) fun hall => ?_
      rw [hall index hmem] at hindex
      cases hindex

/-- A channel slot is visited by the loop exactly if the variant has it. -/
theorem mem_channelIndices {channelCount : Fin 5} {index : Fin 4} :
    index ∈ channelIndices channelCount ↔ index.val < channelCount.val := by
  simp [channelIndices]

/-- A selected slot is one the variant has. -/
theorem Config.Selects.implemented {config : Config} {index : Fin 4} (h : config.Selects index)
    (hmask : config.channels.bits &&& ~~~(validChannelMask config.variant).bits = 0)
    (hvariant : config.variant = .ldc1612 ∨ config.variant = .ldc1614) :
    index.val < (channelCountFor config.variant).val := by
  unfold Config.Selects at h
  revert h hmask
  generalize config.channels.bits = bits
  rcases hvariant with hvariant | hvariant <;> rw [hvariant] <;> revert bits index <;>
    decide +kernel

/-- Over the envelopes validation admits, the channel checks compare unwrapped values. -/
theorem clockBounds_le {config : Config}
    (htolerance : config.referenceClock.tolerancePpm.toNat ≤ 999999)
    (henvelope : config.referenceClock.source ≠ .internal →
      2000000 ≤ (referenceClockBoundsHz config).1.toNat ∧
        (referenceClockBoundsHz config).2.toNat ≤ 40000000) :
    2000000 ≤ (referenceClockBoundsHz config).1.toNat ∧
      (referenceClockBoundsHz config).1.toNat ≤ 2 ^ 32 ∧
      (referenceClockBoundsHz config).2.toNat ≤ 55000000 := by
  by_cases hsource : config.referenceClock.source = .internal
  · unfold referenceClockBoundsHz
    rw [if_pos hsource]
    decide
  · obtain ⟨hslow, hfast⟩ := henvelope hsource
    exact ⟨hslow, referenceClockBoundsHz_fst_le htolerance, by omega⟩

/-- The envelope of a structurally sound profile. -/
theorem Config.Structural.clockBounds {config : Config} (h : config.Structural) :
    2000000 ≤ (referenceClockBoundsHz config).1.toNat ∧
      (referenceClockBoundsHz config).1.toNat ≤ 2 ^ 32 ∧
      (referenceClockBoundsHz config).2.toNat ≤ 55000000 :=
  clockBounds_le h.tolerance fun hne => h.envelope (h.source.resolve_left hne)

/-- The channel loop of an otherwise admitted profile. -/
theorem channels_pass_iff {config : Config}
    (hvariant : config.variant = .ldc1612 ∨ config.variant = .ldc1614)
    (hmask : config.channels.bits &&& ~~~(validChannelMask config.variant).bits = 0)
    (htolerance : config.referenceClock.tolerancePpm.toNat ≤ 999999)
    (henvelope : config.referenceClock.source ≠ .internal →
      2000000 ≤ (referenceClockBoundsHz config).1.toNat ∧
        (referenceClockBoundsHz config).2.toNat ≤ 40000000) :
    (match (channelIndices (channelCountFor config.variant)).findSome?
        (validateChannel config (referenceClockBoundsHz config).1 (referenceClockBoundsHz config).2
          (deglitchBandwidthHz config.deglitch)) with
      | some failure => failure
      | none => Status.ok).isOk = true ↔
    (∀ index : Fin 4, index.val < (channelCountFor config.variant).val →
        (config.channel.get index).Encodable) ∧
      (∀ index, config.Selects index → (config.channel.get index).Convertible) ∧
      ∀ index, config.Selects index → config.Margins index := by
  obtain ⟨hslow, hmin, hmax⟩ := clockBounds_le htolerance henvelope
  rw [channels_isOk_iff fun index failure => validateChannel_failure]
  constructor
  · intro hall
    have hone (index : Fin 4) (hindex : index.val < (channelCountFor config.variant).val) :=
      (validateChannel_eq_none hslow hmin hmax).mp (hall index (mem_channelIndices.mpr hindex))
    refine ⟨fun index hindex => (hone index hindex).1, fun index hselects => ?_,
      fun index hselects => ?_⟩
    · exact ((hone index (hselects.implemented hmask hvariant)).2 hselects).1
    · have hrest := ((hone index (hselects.implemented hmask hvariant)).2 hselects).2
      exact ⟨hrest.1, hrest.2⟩
  · rintro ⟨hencodable, hconvertible, hmargins⟩ index hmem
    refine (validateChannel_eq_none hslow hmin hmax).mpr
      ⟨hencodable index (mem_channelIndices.mp hmem), fun hselects => ?_⟩
    exact ⟨hconvertible index hselects, (hmargins index hselects).deglitch,
      (hmargins index hselects).clocked⟩

/-- What an accepted profile satisfies. -/
theorem accepted_of_validateConfig {config : Config} (h : (validateConfig config).isOk = true) :
    config.Structural ∧ ∀ index, config.Selects index → config.Margins index := by
  unfold validateConfig at h
  dsimp only at h
  -- an accepted profile has passed every check, in the order of the source
  obtain ⟨hcallbacks, h⟩ := passed_of_isOk rfl h
  obtain ⟨htimeout, h⟩ := passed_of_isOk rfl h
  obtain ⟨haddress, h⟩ := passed_of_isOk rfl h
  obtain ⟨hvariant, h⟩ := passed_of_isOk rfl h
  obtain ⟨hmask, h⟩ := passed_of_isOk rfl h
  obtain ⟨hsource, h⟩ := passed_of_isOk rfl h
  obtain ⟨hinternal, h⟩ := passed_of_isOk rfl h
  obtain ⟨hexternal, h⟩ := passed_of_isOk rfl h
  obtain ⟨htolerance, h⟩ := passed_of_isOk rfl h
  obtain ⟨henvelope, h⟩ := passed_of_isOk rfl h
  obtain ⟨hdeglitch, h⟩ := passed_of_isOk rfl h
  obtain ⟨hactivation, h⟩ := passed_of_isOk rfl h
  obtain ⟨hsingle, h⟩ := passed_of_isOk rfl h
  obtain ⟨hsequential, h⟩ := passed_of_isOk rfl h
  obtain ⟨hmode, h⟩ := passed_of_isOk rfl h
  obtain ⟨hhigh, h⟩ := passed_of_isOk rfl h
  -- each check that was passed is a field of the structure
  simp only [Bool.or_eq_true, not_or, Option.isNone_iff_eq_none, ← ne_eq,
    ← Option.isSome_iff_ne_none] at hcallbacks
  simp only [Bool.or_eq_true, not_or, ChannelMask.empty, beq_iff_eq, bne_iff_ne, ne_eq,
    not_not] at hmask
  simp only [beq_iff_eq] at htimeout hvariant
  simp only [Bool.and_eq_true, decide_eq_true_eq, ne_eq, not_and, not_not] at haddress hsource
  simp only [Bool.and_eq_true, decide_eq_true_eq, ne_eq, not_and, not_not] at hactivation hmode
  simp only [Bool.and_eq_true, Bool.or_eq_true, decide_eq_true_eq, not_and, not_or,
    BitVec.lt_def, Nat.not_lt] at hinternal hexternal henvelope htolerance
  simp only [Bool.and_eq_true, Bool.or_eq_true, decide_eq_true_eq, not_and, not_or, bne_iff_ne,
    ne_eq, not_not, Bool.not_eq_true', Bool.not_eq_false] at hsingle hsequential hhigh hdeglitch
  have hexternalNe : RefClkSrc.externalClock ≠ .internal := by decide
  have hvariant' : config.variant = .ldc1612 ∨ config.variant = .ldc1614 :=
    channelCountFor_ne_zero fun hzero => hvariant (by rw [hzero]; rfl)
  obtain ⟨hencodable, hconvertible, hmargins⟩ :=
    (channels_pass_iff hvariant' hmask.2 htolerance henvelope).mp h
  refine ⟨?_, hmargins⟩
  exact
    { i2cWrite := hcallbacks.1
      i2cWriteRead := hcallbacks.2
      timeout := htimeout
      address := Decidable.or_iff_not_imp_left.mpr haddress
      variant := hvariant'
      nonempty := hmask.1
      implemented := hmask.2
      source := Decidable.or_iff_not_imp_left.mpr hsource
      internal := hinternal
      external := fun hext => hexternal (hext ▸ hexternalNe)
      tolerance := htolerance
      envelope := fun hext => henvelope (hext ▸ hexternalNe)
      deglitch := hdeglitch
      activation := Decidable.or_iff_not_imp_left.mpr hactivation
      mode := Decidable.or_iff_not_imp_left.mpr hmode
      single := fun hmode => ⟨(hsingle hmode).1.1.1, congrArg ChannelMask.mk (hsingle hmode).1.2,
        (hsingle hmode).2⟩
      sequential := fun hmode => ⟨(hsequential hmode).1.1,
        congrArg ChannelMask.mk (hsequential hmode).1.2⟩
      highCurrent := hhigh
      encodable := hencodable
      convertible := hconvertible }

/-- A check passes if its condition does not hold and the checks behind it pass. -/
theorem isOk_of_passed {failing : Prop} [Decidable failing] {failure rest : Status}
    (hpassed : ¬ failing) (hrest : rest.isOk = true) :
    (if failing then failure else rest).isOk = true := by
  rw [if_neg hpassed]
  exact hrest

/-- The one-hot mask of a concrete channel contains it. -/
theorem contains_channelBit {channel : Channel} (h : isConcreteChannel channel = true) :
    (channelBit channel).contains channel = true := by
  obtain ⟨raw⟩ := channel
  revert raw
  decide +kernel

/-- A variant that is named has channels. -/
theorem channelCountFor_val_ne_zero {variant : DeviceVariant}
    (h : variant = .ldc1612 ∨ variant = .ldc1614) : (channelCountFor variant).val ≠ 0 := by
  rcases h with rfl | rfl
  · decide
  · decide

/-- A profile that passes the structural checks and keeps the margins is accepted. -/
theorem validateConfig_of_accepted {config : Config} (h : config.Structural)
    (hmargins : ∀ index, config.Selects index → config.Margins index) :
    (validateConfig config).isOk = true := by
  have hexternal : config.referenceClock.source ≠ .internal →
      config.referenceClock.source = .externalClock := fun hne => h.source.resolve_left hne
  have henvelope : config.referenceClock.source ≠ .internal →
      2000000 ≤ (referenceClockBoundsHz config).1.toNat ∧
        (referenceClockBoundsHz config).2.toNat ≤ 40000000 := fun hne => h.envelope (hexternal hne)
  unfold validateConfig
  dsimp only
  -- every check is passed, in the order of the source
  refine isOk_of_passed ?_ ?_
  · simp only [Bool.or_eq_true, not_or, Option.isNone_iff_eq_none, ← ne_eq,
      ← Option.isSome_iff_ne_none]
    exact ⟨h.i2cWrite, h.i2cWriteRead⟩
  refine isOk_of_passed (by simpa only [beq_iff_eq] using h.timeout) ?_
  refine isOk_of_passed (by rcases h.address with ha | ha <;> simp [ha]) ?_
  refine isOk_of_passed (by simpa using channelCountFor_val_ne_zero h.variant) ?_
  refine isOk_of_passed ?_ ?_
  · simp only [Bool.or_eq_true, not_or, ChannelMask.empty, beq_iff_eq, bne_iff_ne, ne_eq, not_not]
    exact ⟨h.nonempty, h.implemented⟩
  refine isOk_of_passed (by rcases h.source with hs | hs <;> simp [hs]) ?_
  refine isOk_of_passed ?_ ?_
  · simp only [Bool.and_eq_true, Bool.or_eq_true, decide_eq_true_eq, not_and, not_or,
      BitVec.lt_def, Nat.not_lt]
    exact h.internal
  refine isOk_of_passed ?_ ?_
  · simp only [Bool.and_eq_true, Bool.or_eq_true, decide_eq_true_eq, not_and, not_or,
      BitVec.lt_def, Nat.not_lt]
    exact fun hne => h.external (hexternal hne)
  refine isOk_of_passed (BitVec.not_lt.mpr (BitVec.le_def.mpr h.tolerance)) ?_
  refine isOk_of_passed ?_ ?_
  · simp only [Bool.and_eq_true, Bool.or_eq_true, decide_eq_true_eq, not_and, not_or,
      BitVec.lt_def, Nat.not_lt]
    exact henvelope
  refine isOk_of_passed (by simp [h.deglitch]) ?_
  refine isOk_of_passed (by rcases h.activation with ha | ha <;> simp [ha]) ?_
  refine isOk_of_passed ?_ ?_
  · simp only [Bool.and_eq_true, Bool.or_eq_true, decide_eq_true_eq, not_and, not_or, bne_iff_ne,
      ne_eq, not_not, Bool.not_eq_true', Bool.not_eq_false]
    -- single-channel mode: one concrete channel, and no sequence
    intro hmode
    obtain ⟨hconcrete, hchannels, hsequence⟩ := h.single hmode
    rw [hchannels]
    exact ⟨⟨⟨hconcrete, contains_channelBit hconcrete⟩, rfl⟩, hsequence⟩
  refine isOk_of_passed ?_ ?_
  · simp only [Bool.and_eq_true, Bool.or_eq_true, decide_eq_true_eq, not_and, not_or, bne_iff_ne,
      ne_eq, not_not]
    -- sequential mode: the channels are those of the sequence
    intro hmode
    obtain ⟨hnone, hsequence⟩ := h.sequential hmode
    rw [hsequence]
    exact ⟨⟨hnone, rfl⟩, h.implemented⟩
  refine isOk_of_passed (by rcases h.mode with hm | hm <;> simp [hm]) ?_
  refine isOk_of_passed ?_ ?_
  · simp only [Bool.and_eq_true, Bool.or_eq_true, decide_eq_true_eq, not_and, not_or, ne_eq,
      not_not]
    exact h.highCurrent
  exact (channels_pass_iff h.variant h.implemented h.tolerance henvelope).mpr
    ⟨h.encodable, h.convertible, hmargins⟩

/-- Validation accepts exactly the structurally sound profiles that keep the margins. -/
theorem validateConfig_isOk_iff {config : Config} :
    (validateConfig config).isOk = true ↔
      config.Structural ∧ ∀ index, config.Selects index → config.Margins index :=
  ⟨accepted_of_validateConfig, fun h => validateConfig_of_accepted h.1 h.2⟩

end Ldc1614
