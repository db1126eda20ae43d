import Ldc1614.Driver.Acceptance
import Ldc1614.Driver.Evaluate
import Mathlib.Tactic.Linarith
import Mathlib.Tactic.Positivity
import Mathlib.Data.Rat.Floor

/-! # Validation over the tolerance envelope

What the physical rules ask of every reference clock of the declared envelope and every sensor
frequency of the declared range, and that `validateConfig`, which compares integers at single
corners, decides exactly that. -/

namespace Ldc1614

open Arithmetic

/-! ### The physical rules -/

/-- Slowest reference clock of the declared envelope. -/
def Config.clockLow (config : Config) : ℚ :=
  if config.referenceClock.source = .internal then 35000000
  else config.referenceClock.frequencyHz.toNat *
    (1 - config.referenceClock.tolerancePpm.toNat / 10 ^ 6)

/-- Fastest reference clock of the declared envelope. -/
def Config.clockHigh (config : Config) : ℚ :=
  if config.referenceClock.source = .internal then 55000000
  else config.referenceClock.frequencyHz.toNat *
    (1 + config.referenceClock.tolerancePpm.toNat / 10 ^ 6)

/-- The declared envelope of the reference clock. -/
def Config.clockEnvelope (config : Config) : Set ℚ := Set.Icc config.clockLow config.clockHigh

/-- The envelope widened to whole hertz. -/
def Config.wholeEnvelope (config : Config) : Set ℚ :=
  Set.Icc (⌊config.clockLow⌋₊ : ℚ) ⌈config.clockHigh⌉₊

/-- The declared range of sensor frequencies. -/
def ChannelConfig.sensorRange (channel : ChannelConfig) : Set ℚ :=
  Set.Icc (channel.expectedSensorMinHz.toNat : ℚ) channel.expectedSensorMaxHz.toNat

/-- The rules a channel has to meet at a reference clock `f` and a sensor frequency `s`. -/
structure Config.Meets (config : Config) (index : Fin 4) (f s : ℚ) : Prop where
  /-- The divided reference is at most the limit of the mode. -/
  reference : f / (config.channel.get index).frefDivider.toNat ≤ frefLimitHz config
  /-- The divided sensor frequency is below a quarter of the divided reference. -/
  input : s / (config.channel.get index).finDivider.toNat <
    f / (config.channel.get index).frefDivider.toNat / 4
  /-- The conversion covers a full divided sensor period. -/
  conversion : (config.channel.get index).finDivider.toNat / s ≤
    (16 * (config.channel.get index).rcount.toNat + 4) /
      (f / (config.channel.get index).frefDivider.toNat)
  /-- The offset leaves the sensor visible. -/
  offset : ((config.channel.get index).offset.toNat : ℚ) / 65536 <
    s / (config.channel.get index).finDivider.toNat /
      (f / (config.channel.get index).frefDivider.toNat)
  /-- The sensor is below the deglitch bandwidth. -/
  deglitch : s < (deglitchBandwidthHz config.deglitch).toNat

/-! ### The envelope in whole hertz -/

section WholeHertz

variable {config : Config}

/-- The lower bound of the driver is that of the envelope in whole hertz. -/
theorem clockLow_floor (h : config.referenceClock.tolerancePpm.toNat ≤ 999999) :
    ⌊config.clockLow⌋₊ = (referenceClockBoundsHz config).1.toNat := by
  unfold Config.clockLow
  by_cases hsource : config.referenceClock.source = .internal
  · unfold referenceClockBoundsHz
    rw [if_pos hsource, if_pos hsource]
    exact Nat.floor_natCast 35000000
  · rw [if_neg hsource, (referenceClockBoundsHz_toNat h hsource).1]
    generalize config.referenceClock.frequencyHz.toNat = clock
    generalize config.referenceClock.tolerancePpm.toNat = ppm at h ⊢
    have hquotient : (clock : ℚ) * (1 - ppm / 10 ^ 6) =
        ((clock * (1000000 - ppm) : ℕ) : ℚ) / (1000000 : ℕ) := by
      have hle : ppm ≤ 1000000 := by omega
      push_cast [Nat.cast_sub hle]
      ring
    rw [hquotient, Nat.floor_div_eq_div]

/-- The upper bound of the driver is that of the envelope in whole hertz. -/
theorem clockHigh_ceil (h : config.referenceClock.tolerancePpm.toNat ≤ 999999) :
    ⌈config.clockHigh⌉₊ = (referenceClockBoundsHz config).2.toNat := by
  unfold Config.clockHigh
  by_cases hsource : config.referenceClock.source = .internal
  · unfold referenceClockBoundsHz
    rw [if_pos hsource, if_pos hsource]
    exact Nat.ceil_natCast 55000000
  · rw [if_neg hsource, (referenceClockBoundsHz_toNat h hsource).2]
    generalize config.referenceClock.frequencyHz.toNat = clock
    generalize config.referenceClock.tolerancePpm.toNat = ppm
    have hquotient : (clock : ℚ) * (1 + ppm / 10 ^ 6) =
        ((clock * (1000000 + ppm) : ℕ) : ℚ) / (1000000 : ℕ) := by
      push_cast
      ring
    rw [hquotient, Rounding.ceil_div (by decide)]

/-- No clock of the envelope is negative. -/
theorem clockLow_nonneg (h : config.referenceClock.tolerancePpm.toNat ≤ 999999) :
    0 ≤ config.clockLow := by
  unfold Config.clockLow
  split
  · norm_num
  · have hppm : (config.referenceClock.tolerancePpm.toNat : ℚ) ≤ 999999 := by exact_mod_cast h
    exact mul_nonneg (Nat.cast_nonneg _) (by linarith)

/-- The declared envelope is an interval. -/
theorem clockLow_le_clockHigh : config.clockLow ≤ config.clockHigh := by
  unfold Config.clockLow Config.clockHigh
  split
  · norm_num
  · have hnonneg : (0 : ℚ) ≤ config.referenceClock.tolerancePpm.toNat / 10 ^ 6 := by positivity
    exact mul_le_mul_of_nonneg_left (by linarith) (Nat.cast_nonneg _)

/-- The declared envelope lies within the whole-hertz one. -/
theorem clockEnvelope_subset (h : config.referenceClock.tolerancePpm.toNat ≤ 999999) :
    config.clockEnvelope ⊆ config.wholeEnvelope :=
  Set.Icc_subset_Icc (Nat.floor_le (clockLow_nonneg h)) (Nat.le_ceil _)

end WholeHertz

/-! ### Cross multiplication -/

section Cross

variable {f s limit cycles offset fin fref : ℚ}

/-- The input rule without its divisions. -/
theorem input_iff (hfin : 0 < fin) (hfref : 0 < fref) :
    s / fin < f / fref / 4 ↔ s * 4 * fref < f * fin := by
  rw [div_div, div_lt_div_iff₀ hfin (by positivity), mul_assoc, mul_comm fref]

/-- The conversion rule without its divisions. -/
theorem conversion_iff (hs : 0 < s) (hf : 0 < f) (hfref : 0 < fref) :
    fin / s ≤ cycles / (f / fref) ↔ f * fin ≤ cycles * s * fref := by
  rw [div_le_div_iff₀ hs (by positivity), ← mul_div_assoc, div_le_iff₀ hfref, mul_comm fin]

/-- The offset rule without its divisions. -/
theorem offset_iff (hf : 0 < f) (hfin : 0 < fin) (hfref : 0 < fref) :
    offset / 65536 < s / fin / (f / fref) ↔ offset * f * fin < s * 65536 * fref := by
  rw [div_div, div_lt_div_iff₀ (by norm_num) (by positivity), ← mul_div_assoc, ← mul_div_assoc,
    div_lt_iff₀ hfref]
  constructor
  · intro h
    linarith
  · intro h
    linarith

end Cross

/-! ### The corners -/

section Corners

variable {config : Config} {index : Fin 4}

/-- Positive quantities of a selected channel, as rationals. -/
structure Config.Positive (config : Config) (index : Fin 4) : Prop where
  low : 0 < ((referenceClockBoundsHz config).1.toNat : ℚ)
  ordered : ((referenceClockBoundsHz config).1.toNat : ℚ) ≤ (referenceClockBoundsHz config).2.toNat
  sensor : 0 < ((config.channel.get index).expectedSensorMinHz.toNat : ℚ)
  range : ((config.channel.get index).expectedSensorMinHz.toNat : ℚ) ≤
    (config.channel.get index).expectedSensorMaxHz.toNat
  fin : 0 < ((config.channel.get index).finDivider.toNat : ℚ)
  fref : 0 < ((config.channel.get index).frefDivider.toNat : ℚ)

/-- A selected channel of a structurally valid profile has positive dividers and frequencies. -/
theorem Config.Structural.positive (h : config.Structural) (hselects : config.Selects index) :
    config.Positive index := by
  have hchannel := h.convertible index hselects
  have hslot := h.encodable index (hselects.implemented h.implemented h.variant)
  obtain ⟨hslow, -, -⟩ := h.clockBounds
  have hmin := hchannel.sensorMin
  refine ⟨?_, ?_, ?_, Nat.cast_le.mpr hchannel.ordered, Nat.cast_pos.mpr hslot.finPos,
    Nat.cast_pos.mpr hslot.frefPos⟩
  · exact Nat.cast_pos.mpr (by omega)
  · rw [← clockLow_floor h.tolerance, ← clockHigh_ceil h.tolerance]
    calc (⌊config.clockLow⌋₊ : ℚ) ≤ config.clockLow := Nat.floor_le (clockLow_nonneg h.tolerance)
      _ ≤ config.clockHigh := clockLow_le_clockHigh
      _ ≤ ⌈config.clockHigh⌉₊ := Nat.le_ceil _
  · exact Nat.cast_pos.mpr (by omega)

/-- The rules hold all over the whole-hertz envelope exactly if they hold at its corners. -/
theorem meets_throughout_iff (h : config.Structural) (hselects : config.Selects index) :
    (∀ f ∈ config.wholeEnvelope, ∀ s ∈ (config.channel.get index).sensorRange,
      config.Meets index f s) ↔ config.Margins index := by
  obtain ⟨hlow, hordered, hsensor, hrange, hfin, hfref⟩ := h.positive hselects
  unfold Config.wholeEnvelope ChannelConfig.sensorRange
  rw [clockLow_floor h.tolerance, clockHigh_ceil h.tolerance]
  have hhigh := hlow.trans_le hordered
  constructor
  · intro hall
    -- a fast clock at the slowest sensor, and a slow clock at the fastest one
    have hfast := hall _ ⟨hordered, le_rfl⟩ _ ⟨le_rfl, hrange⟩
    have hslow := hall _ ⟨le_rfl, hordered⟩ _ ⟨hrange, le_rfl⟩
    have hreference := (div_le_iff₀ hfref).mp hfast.reference
    have hconversion := (conversion_iff hsensor hhigh hfref).mp hfast.conversion
    have hoffset := (offset_iff hhigh hfin hfref).mp hfast.offset
    have hinput := (input_iff hfin hfref).mp hslow.input
    have hdeglitch := hslow.deglitch
    refine ⟨by exact_mod_cast hdeglitch, ⟨by exact_mod_cast hreference, ?_,
      by exact_mod_cast hoffset, by exact_mod_cast hinput⟩⟩
    rw [mul_comm _ 16]
    exact_mod_cast hconversion
  · rintro ⟨hdeglitch, hclocked⟩ f ⟨hlf, hfh⟩ s ⟨hls, hsh⟩
    -- each rule is monotone in the clock and in the sensor, one way or the other
    have hf : 0 < f := hlow.trans_le hlf
    have hs : 0 < s := hsensor.trans_le hls
    have hreference : ((referenceClockBoundsHz config).2.toNat : ℚ) ≤
        frefLimitHz config * (config.channel.get index).frefDivider.toNat := by
      exact_mod_cast hclocked.reference
    have hconversion : ((referenceClockBoundsHz config).2.toNat : ℚ) *
        (config.channel.get index).finDivider.toNat ≤
          (16 * (config.channel.get index).rcount.toNat + 4) *
            (config.channel.get index).expectedSensorMinHz.toNat *
            (config.channel.get index).frefDivider.toNat := by
      rw [mul_comm 16]
      exact_mod_cast hclocked.conversion
    have hoffset : ((config.channel.get index).offset.toNat : ℚ) *
        (referenceClockBoundsHz config).2.toNat * (config.channel.get index).finDivider.toNat <
          (config.channel.get index).expectedSensorMinHz.toNat * 65536 *
            (config.channel.get index).frefDivider.toNat := by
      exact_mod_cast hclocked.offset
    have hinput : ((config.channel.get index).expectedSensorMaxHz.toNat : ℚ) * 4 *
        (config.channel.get index).frefDivider.toNat <
          (referenceClockBoundsHz config).1.toNat * (config.channel.get index).finDivider.toNat := by
      exact_mod_cast hclocked.input
    have hdeglitch : ((config.channel.get index).expectedSensorMaxHz.toNat : ℚ) <
        (deglitchBandwidthHz config.deglitch).toNat := by
      exact_mod_cast hdeglitch
    exact
      { reference := (div_le_iff₀ hfref).mpr (hfh.trans hreference)
        input := (input_iff hfin hfref).mpr <| calc
          _ ≤ _ := mul_le_mul_of_nonneg_right (mul_le_mul_of_nonneg_right hsh (by norm_num)) hfref.le
          _ < _ := hinput
          _ ≤ _ := mul_le_mul_of_nonneg_right hlf hfin.le
        conversion := (conversion_iff hs hf hfref).mpr <| calc
          _ ≤ _ := mul_le_mul_of_nonneg_right hfh hfin.le
          _ ≤ _ := hconversion
          _ ≤ _ := mul_le_mul_of_nonneg_right
            (mul_le_mul_of_nonneg_left hls (by positivity)) hfref.le
        offset := (offset_iff hf hfin hfref).mpr <| calc
          _ ≤ _ := mul_le_mul_of_nonneg_right
            (mul_le_mul_of_nonneg_left hfh (Nat.cast_nonneg _)) hfin.le
          _ < _ := hoffset
          _ ≤ _ := mul_le_mul_of_nonneg_right (mul_le_mul_of_nonneg_right hls (by norm_num)) hfref.le
        deglitch := hsh.trans_lt hdeglitch }

end Corners

/-- **Validation is sound and exact over the tolerance envelope.** On an accepted profile every
selected channel meets the rules at every reference clock of the declared envelope and every sensor
frequency of the declared range; and a profile is accepted exactly if it passes the structural
checks and meets the rules all over the envelope in whole hertz. -/
theorem validation_exact (config : Config) :
    ((validateConfig config).isOk = true → ∀ index, config.Selects index →
      ∀ f ∈ config.clockEnvelope, ∀ s ∈ (config.channel.get index).sensorRange,
        config.Meets index f s) ∧
    ((validateConfig config).isOk = true ↔
      config.Structural ∧ ∀ index, config.Selects index →
        ∀ f ∈ config.wholeEnvelope, ∀ s ∈ (config.channel.get index).sensorRange,
          config.Meets index f s) := by
  have hexact : (validateConfig config).isOk = true ↔
      config.Structural ∧ ∀ index, config.Selects index →
        ∀ f ∈ config.wholeEnvelope, ∀ s ∈ (config.channel.get index).sensorRange,
          config.Meets index f s := by
    rw [validateConfig_isOk_iff]
    exact and_congr_right fun hstructural =>
      forall₂_congr fun index hselects => (meets_throughout_iff hstructural hselects).symm
  refine ⟨fun haccepted index hselects f hf s hs => ?_, hexact⟩
  obtain ⟨hstructural, hmeets⟩ := hexact.mp haccepted
  exact hmeets index hselects f (clockEnvelope_subset hstructural.tolerance hf) s hs

/-- The first bench channel meets the rules at the fastest clock and its slowest sensor. -/
theorem validation_exact_bench : benchProfile.Meets 0 55000000 100000 := by
  refine (validation_exact benchProfile).1 (by decide +kernel) 0 (by decide) 55000000 ?_ 100000 ?_
  · have hsource : benchProfile.referenceClock.source = .internal := rfl
    unfold Config.clockEnvelope Config.clockLow Config.clockHigh
    rw [if_pos hsource, if_pos hsource]
    norm_num
  · have hmin : (benchProfile.channel.get 0).expectedSensorMinHz.toNat = 100000 := by decide
    have hmax : (benchProfile.channel.get 0).expectedSensorMaxHz.toNat = 900000 := by decide
    unfold ChannelConfig.sensorRange
    rw [hmin, hmax]
    norm_num

end Ldc1614
