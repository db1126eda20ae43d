import Ldc1614.Driver.Profile

/-! # Frame timing

The pure estimate of wake, settling and conversion time: `estimateFrameTiming` of `LDC1614.cpp`. -/

namespace Ldc1614

def microsPerSecond : U64 := 1000000
def nanosPerSecond : U64 := 1000000000
def wakeDelayCycles : U64 := 16384
def channelSwitchBaseNs : U64 := 692
def channelSwitchCycles : U64 := 5

/-- Conservative fixed-unit timing estimates. -/
structure FrameTiming where
  wakeAndSettleUs : U64 := 0
  conversionUs : U64 := 0
  sequentialFrameUs : U64 := 0
  acquisitionTransfers : U8 := 0
  deriving DecidableEq, Repr

/-- What `estimateFrameTiming` returns and stores into its output argument. -/
structure FrameEstimate where
  status : Status
  timing : FrameTiming := {}
  deriving DecidableEq, Repr

/-- The channels whose conversions are timed: the whole sequence, or the requested subset. -/
def timingChannels (config : Config) (channels : ChannelMask) : ChannelMask :=
  if config.mode = .multiChannelSequential then config.channels else channels

/-- The body of the per-channel loop of `estimateFrameTiming`, on the timing and the switch total so
far; an estimate that is returned early is an error. -/
def addChannelTiming (config : Config) (clockMin : U64) (mask : ChannelMask)
    (total : FrameTiming × U64) (index : Fin 4) : Except FrameEstimate (FrameTiming × U64) :=
  if (mask.bits &&& indexBit index) == 0 then .ok total
  else
    let channel := config.channel.get index
    let timing := total.1
    let fref := clockMin / channel.frefDivider.setWidth 64
    if fref == 0 then
      .error ⟨.error .invalidConfig "Channel minimum reference clock is zero" index.val, timing⟩
    else
      let settleCycles : U64 :=
        if channel.settleCount ≤ 1 then 32 else channel.settleCount.setWidth 64 * 16
      let conversionCycles : U64 := channel.rcount.setWidth 64 * 16 + 4
      let switchNs := channelSwitchBaseNs + ceilDivide (channelSwitchCycles * nanosPerSecond) fref
      .ok ({ timing with
              wakeAndSettleUs :=
                timing.wakeAndSettleUs + ceilDivide (settleCycles * microsPerSecond) fref
              conversionUs :=
                timing.conversionUs + ceilDivide (conversionCycles * microsPerSecond) fref },
            total.2 + ceilDivide switchNs 1000)

/-- Estimate wake/settle, conversion and total frame time of a profile. -/
def estimateFrameTiming (config : Config) (channels : ChannelMask) : FrameEstimate :=
  let validation := validateConfig config
  if !validation.isOk then { status := validation }
  else if channels.empty || (channels.bits &&& ~~~config.channels.bits) != 0 then
    { status := .error .invalidParam "Timing mask must be configured and nonzero" }
  else
    let clockMin := (referenceClockBoundsHz config).1
    if clockMin == 0 then
      { status := .error .invalidConfig "Reference clock minimum is zero" }
    else
      -- The wake delay is clocked from the internal oscillator whatever the reference source.
      let wakeClockMin := internalClockMinHz.setWidth 64
      let start : FrameTiming :=
        { wakeAndSettleUs := ceilDivide (wakeDelayCycles * microsPerSecond) wakeClockMin }
      match (channelIndices (channelCountFor config.variant)).foldlM
          (addChannelTiming config clockMin (timingChannels config channels)) (start, 0) with
      | .error early => early
      | .ok (timing, switchTotalUs) =>
          { status := .ok
            timing :=
              { timing with
                sequentialFrameUs := timing.wakeAndSettleUs + timing.conversionUs + switchTotalUs
                acquisitionTransfers := 2 + 2 * popcount channels } }

end Ldc1614
