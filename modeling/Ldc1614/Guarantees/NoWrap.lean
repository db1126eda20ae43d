import Ldc1614.Driver.ReachedWidths
import Ldc1614.Driver.Evaluate

/-! # The configuration helpers do not wrap

For every profile whatsoever, valid or not, the pure helpers compute in unwrapped values: each has
the value that unbounded arithmetic gives, step by step. -/

namespace Ldc1614

/-- The slowest clock of an accepted profile, and the channel references divided from it, are not
zero. -/
theorem accepted_references_ne_zero {config : Config} (h : (validateConfig config).isOk = true) :
    (referenceClockBoundsHz config).1 ≠ 0 ∧
      ∀ index : Fin 4, index.val < (channelCountFor config.variant).val →
        (referenceClockBoundsHz config).1 /
          (config.channel.get index).frefDivider.setWidth 64 ≠ 0 := by
  obtain ⟨hstructural, -⟩ := accepted_of_validateConfig h
  obtain ⟨hslow, -, -⟩ := hstructural.clockBounds
  constructor
  · refine fun hzero => ?_
    have hnat := toNat_eq_zero_iff.mpr hzero
    omega
  · intro index hindex
    have hslot := hstructural.encodable index hindex
    have hmax := hslot.frefMax
    refine fun hzero => ?_
    have hnat := toNat_eq_zero_iff.mpr hzero
    rw [BitVec.toNat_udiv, ← widened (config.channel.get index).frefDivider (by decide)] at hnat
    exact absurd hnat (Nat.ne_of_gt (Nat.div_pos (by omega) hslot.frefPos))

/-- **No arithmetic in the configuration helpers wraps.** For every profile, channel mask and
register, validation, the frame-timing estimate and the expected register, with the encoders under
it, have exactly the values of their counterparts in checked unbounded arithmetic: no difference
underflows, no sum, product or shift leaves its width, nothing divides by zero, no cast or mask
drops a bit. Behind a successful validation neither the slowest clock nor a channel reference is
zero, so that the branches that guard against it are never taken. -/
theorem helpers_do_not_wrap (config : Config) (channels : ChannelMask) (reg : U8) :
    exactValidateConfig config = some (validateConfig config) ∧
    exactEstimateFrameTiming config channels = some (estimateFrameTiming config channels).exact ∧
    exactExpectedConfigurationRegister config reg =
      some (expectedConfigurationRegister config reg).exact ∧
    ((validateConfig config).isOk = true →
      (referenceClockBoundsHz config).1 ≠ 0 ∧
        ∀ index : Fin 4, index.val < (channelCountFor config.variant).val →
          (referenceClockBoundsHz config).1 /
            (config.channel.get index).frefDivider.setWidth 64 ≠ 0) :=
  ⟨exactValidateConfig_eq config, exactEstimateFrameTiming_eq config channels,
    exactExpectedConfigurationRegister_eq config reg, accepted_references_ne_zero⟩

/-- The bench profile divides a clock that is not zero. -/
theorem helpers_do_not_wrap_bench :
    (referenceClockBoundsHz benchProfile).1 ≠ 0 :=
  ((helpers_do_not_wrap benchProfile ⟨0x01⟩ Cmd.regConfig).2.2.2 (by decide +kernel)).1

end Ldc1614
