import Ldc1614.Driver.Acceptance

/-! # The estimate and the encoders in exact arithmetic

The helpers that are reached only on an accepted profile, statement by statement in exact
arithmetic: `estimateFrameTiming`, and the register encoders under `expectedConfigurationRegister`.
What validation accepted is what keeps their steps in range. -/

namespace Ldc1614

open Arithmetic Cmd

/-! ### The exact estimate -/

/-- The totals of the per-channel loop. -/
structure ExactTotals where
  wakeAndSettleUs : ℕ
  conversionUs : ℕ
  switchTotalUs : ℕ

/-- What `estimateFrameTiming` returns and stores, in unbounded integers. -/
structure ExactEstimate where
  status : Status
  wakeAndSettleUs : ℕ := 0
  conversionUs : ℕ := 0
  sequentialFrameUs : ℕ := 0
  acquisitionTransfers : ℕ := 0

/-- The settling cycles of a channel. -/
def exactSettleCycles (channel : ChannelConfig) : Option ℕ :=
  if channel.settleCount ≤ 1 then some 32 else Exact.mul 64 channel.settleCount.toNat 16

/-- The body of the per-channel loop of `estimateFrameTiming`. -/
def exactAddChannelTiming (config : Config) (clockMin : ℕ) (mask : ChannelMask)
    (total : ExactTotals) (index : Fin 4) : Option (Except ExactEstimate ExactTotals) := do
  let bit ← Exact.shiftLeft 8 1 index.val
  if mask.bits.toNat &&& bit = 0 then some (.ok total)
  else
    let channel := config.channel.get index
    let fref ← Exact.div clockMin channel.frefDivider.toNat
    if fref = 0 then
      some (.error
        { status := .error .invalidConfig "Channel minimum reference clock is zero" index.val
          wakeAndSettleUs := total.wakeAndSettleUs
          conversionUs := total.conversionUs })
    else
      let settleCycles ← exactSettleCycles channel
      let settleMicros ← Exact.mul 64 settleCycles microsPerSecond.toNat
      let settleUs ← exactCeilDivide settleMicros fref
      let wakeAndSettleUs ← Exact.add 64 total.wakeAndSettleUs settleUs
      let conversionCycles ← Exact.mul 64 channel.rcount.toNat 16
      let conversionCycles ← Exact.add 64 conversionCycles 4
      let conversionMicros ← Exact.mul 64 conversionCycles microsPerSecond.toNat
      let channelUs ← exactCeilDivide conversionMicros fref
      let conversionUs ← Exact.add 64 total.conversionUs channelUs
      let switchNanos ← Exact.mul 64 channelSwitchCycles.toNat nanosPerSecond.toNat
      let cyclesNs ← exactCeilDivide switchNanos fref
      let switchNs ← Exact.add 64 channelSwitchBaseNs.toNat cyclesNs
      let switchUs ← exactCeilDivide switchNs 1000
      let switchTotalUs ← Exact.add 64 total.switchTotalUs switchUs
      some (.ok ⟨wakeAndSettleUs, conversionUs, switchTotalUs⟩)

/-- The per-channel loop of `estimateFrameTiming`, which an early return leaves. -/
def exactTimingLoop (body : ExactTotals → Fin 4 → Option (Except ExactEstimate ExactTotals)) :
    List (Fin 4) → ExactTotals → Option (Except ExactEstimate ExactTotals)
  | [], total => some (.ok total)
  | index :: rest, total =>
      body total index >>= fun
        | .error early => some (.error early)
        | .ok total => exactTimingLoop body rest total

/-- The loop of `popcount`. -/
def exactPopcountLoop : ℕ → ℕ → ℕ → Option ℕ
  | 0, count, _ => some count
  | turns + 1, count, bits =>
      if bits = 0 then some count
      else Exact.add 8 count (bits &&& 1) >>= fun count => exactPopcountLoop turns count (bits / 2)

/-- `estimateFrameTiming`. -/
def exactEstimateFrameTiming (config : Config) (channels : ChannelMask) : Option ExactEstimate := do
  let validation ← exactValidateConfig config
  if !validation.isOk then some { status := validation }
  else if channels.empty || (channels.bits &&& ~~~config.channels.bits) != 0 then
    some { status := .error .invalidParam "Timing mask must be configured and nonzero" }
  else
    let (clockMin, _) ← exactReferenceClockBoundsHz config
    if clockMin = 0 then
      some { status := .error .invalidConfig "Reference clock minimum is zero" }
    else
      let wakeMicros ← Exact.mul 64 wakeDelayCycles.toNat microsPerSecond.toNat
      let wakeUs ← exactCeilDivide wakeMicros internalClockMinHz.toNat
      match ← exactTimingLoop
          (exactAddChannelTiming config clockMin (timingChannels config channels))
          (channelIndices (channelCountFor config.variant)) ⟨wakeUs, 0, 0⟩ with
      | .error early => some early
      | .ok total =>
          let sampled ← Exact.add 64 total.wakeAndSettleUs total.conversionUs
          let frame ← Exact.add 64 sampled total.switchTotalUs
          let selected ← exactPopcountLoop 8 0 channels.bits.toNat
          let data ← Exact.mul 8 2 selected
          let transfers ← Exact.add 8 2 data
          some
            { status := .ok
              wakeAndSettleUs := total.wakeAndSettleUs
              conversionUs := total.conversionUs
              sequentialFrameUs := frame
              acquisitionTransfers := transfers }

/-! ### The exact encoders -/

/-- `value` with the bits of `mask` set when `condition` holds. -/
def exactSetBits (value : ℕ) (condition : Bool) (mask : ℕ) : ℕ :=
  if condition then value ||| mask else value

/-- `buildConfigRegister`. -/
def exactBuildConfigRegister (config : Config) (sleeping : Bool) : Option ℕ := do
  let value := configReservedValue.toNat
  let value ←
    if isConcreteChannel config.activeChannel then do
      let shifted ← Exact.shiftLeft 16 config.activeChannel.raw.toNat bitCfgActiveChan
      let field ← Exact.keep shifted maskCfgActiveChan.toNat
      some (value ||| field)
    else some value
  let value := exactSetBits value sleeping maskCfgSleepModeEn.toNat
  let value := exactSetBits value config.rpOverrideEnabled maskCfgRpOverrideEn.toNat
  let value := exactSetBits value (config.sensorActivation = .lowPower)
    maskCfgSensorActivateSel.toNat
  let value := exactSetBits value (!config.autoAmplitudeCorrectionEnabled) maskCfgAutoAmpDis.toNat
  let value := exactSetBits value (config.referenceClock.source = .externalClock)
    maskCfgRefClkSrc.toNat
  let value := exactSetBits value config.intbDisabled maskCfgIntbDis.toNat
  some (exactSetBits value config.highCurrentDriveEnabled maskCfgHighCurrentDrv.toNat)

/-- `buildMuxConfigRegister`. -/
def exactBuildMuxConfigRegister (config : Config) : Option ℕ := do
  let value := muxConfigReservedValue.toNat
  let value ←
    if config.mode = .multiChannelSequential then do
      let shifted ← Exact.shiftLeft 16 config.rrSequence.raw.toNat bitMuxRrSequence
      let field ← Exact.keep shifted maskMuxRrSequence.toNat
      some (value ||| maskMuxAutoscanEn.toNat ||| field)
    else some value
  let field ← Exact.keep config.deglitch.raw.toNat maskMuxDeglitch.toNat
  some (value ||| field)

/-- `encodeErrorReporting`. -/
def exactEncodeErrorReporting (reporting : ErrorReporting) : ℕ :=
  let value := exactSetBits 0 reporting.dataUnderRange maskErrcfgUrErr2out.toNat
  let value := exactSetBits value reporting.dataOverRange maskErrcfgOrErr2out.toNat
  let value := exactSetBits value reporting.dataWatchdog maskErrcfgWdErr2out.toNat
  let value := exactSetBits value reporting.dataAmplitudeHigh maskErrcfgAhErr2out.toNat
  let value := exactSetBits value reporting.dataAmplitudeLow maskErrcfgAlErr2out.toNat
  let value := exactSetBits value reporting.statusUnderRange maskErrcfgUrErr2int.toNat
  let value := exactSetBits value reporting.statusOverRange maskErrcfgOrErr2int.toNat
  let value := exactSetBits value reporting.statusWatchdog maskErrcfgWdErr2int.toNat
  let value := exactSetBits value reporting.statusAmplitudeHigh maskErrcfgAhErr2int.toNat
  let value := exactSetBits value reporting.statusAmplitudeLow maskErrcfgAlErr2int.toNat
  let value := exactSetBits value reporting.statusZeroCount maskErrcfgZcErr2int.toNat
  exactSetBits value reporting.dataReady maskErrcfgDrdy2int.toNat

/-- A step of the replay, in unbounded integers. -/
structure ExactWrite where
  valid : Bool := false
  reg : ℕ := 0
  value : ℕ := 0

/-- The five per-channel writes of the replay. -/
def exactChannelWriteAt (config : Config) (index : Fin 4) (field : ℕ) : Option ExactWrite :=
  let channel := config.channel.get index
  match field with
  | 0 => do
      let reg ← Exact.add 8 regRcount0.toNat index.val
      some ⟨true, reg, channel.rcount.toNat⟩
  | 1 => do
      let reg ← Exact.add 8 regSettlecount0.toNat index.val
      some ⟨true, reg, channel.settleCount.toNat⟩
  | 2 => do
      let reg ← Exact.add 8 regClockDividers0.toNat index.val
      let fin ← Exact.shiftLeft 16 channel.finDivider.toNat bitFinDivider
      let fref ← Exact.keep channel.frefDivider.toNat maskFrefDivider.toNat
      some ⟨true, reg, fin ||| fref⟩
  | 3 => do
      let reg ← Exact.add 8 regOffset0.toNat index.val
      some ⟨true, reg, channel.offset.toNat⟩
  | _ => do
      let reg ← Exact.add 8 regDriveCurrent0.toNat index.val
      let drive ← Exact.shiftLeft 16 channel.driveCurrentCode.value.toNat bitIdrive
      some ⟨true, reg, drive⟩

/-- `configurationTransferCount`. -/
def exactConfigurationTransferCount (channelCount : ℕ) : Option ℕ := do
  let perChannel ← Exact.mul 8 channelCount 5
  let writes ← Exact.add 8 1 perChannel
  Exact.add 8 writes 2

/-- `configWriteAt`. -/
def exactConfigWriteAt (config : Config) (channelCount : Fin 5) (step : ℕ) :
    Option ExactWrite := do
  let total ← exactConfigurationTransferCount channelCount.val
  if total ≤ step then some {}
  else if step = 0 then
    let value ← exactBuildConfigRegister config true
    some ⟨true, regConfig.toNat, value⟩
  else
    let perChannelStep ← Exact.sub step 1
    let perChannelCount ← Exact.mul 8 channelCount.val 5
    if h : perChannelStep < channelCount.val * 5 then
      exactChannelWriteAt config ⟨perChannelStep / 5, by omega⟩ (perChannelStep % 5)
    else
      let globalStep ← Exact.sub perChannelStep perChannelCount
      if globalStep = 0 then
        some ⟨true, regErrorConfig.toNat, exactEncodeErrorReporting config.errorReporting⟩
      else
        let value ← exactBuildMuxConfigRegister config
        some ⟨true, regMuxConfig.toNat, value⟩

/-- The first replay step that writes a register. -/
def exactFindWrite (write : ℕ → Option ExactWrite) (reg : ℕ) : List ℕ → Option (Option ExactWrite)
  | [] => some none
  | step :: rest =>
      write step >>= fun entry =>
        if entry.valid ∧ entry.reg = reg then some (some entry) else exactFindWrite write reg rest

/-- What `expectedConfigurationRegister` returns and stores, in unbounded integers. -/
structure ExactExpected where
  status : Status
  expectedValue : ℕ := 0
  comparisonMask : ℕ := 0

/-- `expectedConfigurationRegister`. -/
def exactExpectedConfigurationRegister (config : Config) (reg : U8) : Option ExactExpected := do
  let validation ← exactValidateConfig config
  if !validation.isOk then some { status := validation }
  else
    let channelCount := channelCountFor config.variant
    let total ← exactConfigurationTransferCount channelCount.val
    match ← exactFindWrite (exactConfigWriteAt config channelCount) reg.toNat
        (List.range total) with
    | some entry => some ⟨.ok, entry.value, (configurationComparisonMask reg).toNat⟩
    | none =>
        some
          { status := .error .invalidParam
              "Register is not part of selected configuration profile" reg.toNat }

/-! ### Agreement of the estimate -/

/-- The totals of the fixed-width loop. -/
def exactTotals (total : FrameTiming × U64) : ExactTotals :=
  ⟨total.1.wakeAndSettleUs.toNat, total.1.conversionUs.toNat, total.2.toNat⟩

/-- The estimate of the fixed-width code. -/
def FrameEstimate.exact (estimate : FrameEstimate) : ExactEstimate :=
  ⟨estimate.status, estimate.timing.wakeAndSettleUs.toNat, estimate.timing.conversionUs.toNat,
    estimate.timing.sequentialFrameUs.toNat, estimate.timing.acquisitionTransfers.toNat⟩

/-- Rounding a quotient up never exceeds the numerator. -/
theorem ceilDivide_le {numerator denominator : U64} (hpos : denominator ≠ 0)
    (h : numerator.toNat + denominator.toNat < 2 ^ 64) :
    (ceilDivide numerator denominator).toNat ≤ numerator.toNat := by
  have hnat : denominator.toNat ≠ 0 := fun hzero => hpos (toNat_eq_zero_iff.mp hzero)
  rw [value_ceilDivide (exactCeilDivide_eq h), if_neg hnat,
    Rounding.ceil_le_iff (Nat.pos_of_ne_zero hnat)]
  exact Nat.le_mul_of_pos_right _ (Nat.pos_of_ne_zero hnat)

/-- One pass of the fixed-width loop. -/
def exactPass : Except FrameEstimate (FrameTiming × U64) → Except ExactEstimate ExactTotals
  | .error early => .error early.exact
  | .ok total => .ok (exactTotals total)

/-- The totals stay below a limit, and the rest of the estimate is still unset. -/
structure TotalsWithin (limit : ℕ) (total : FrameTiming × U64) : Prop where
  frame : total.1.sequentialFrameUs = 0
  transfers : total.1.acquisitionTransfers = 0
  wake : total.1.wakeAndSettleUs.toNat ≤ limit
  conversion : total.1.conversionUs.toNat ≤ limit
  switch : total.2.toNat ≤ limit

/-- The settling cycles fit, whatever the count. -/
theorem exactSettleCycles_eq (channel : ChannelConfig) :
    exactSettleCycles channel =
        some (if channel.settleCount ≤ 1 then (32 : U64)
          else channel.settleCount.setWidth 64 * 16).toNat ∧
      (if channel.settleCount ≤ 1 then (32 : U64)
        else channel.settleCount.setWidth 64 * 16).toNat ≤ 65535 * 16 := by
  have hsettle : channel.settleCount.toNat ≤ 65535 := Nat.le_of_lt_succ channel.settleCount.isLt
  have hsixteen : (16 : U64).toNat ≤ 16 := by decide
  unfold exactSettleCycles
  rw [widened channel.settleCount (by decide)] at hsettle ⊢
  by_cases hfew : channel.settleCount ≤ 1
  · rw [if_pos hfew, if_pos hfew]
    exact ⟨rfl, by decide⟩
  · rw [if_neg hfew, if_neg hfew]
    exact Exact.mul_of_le hsettle hsixteen (by decide)

/-- One pass of the timing loop computes in unwrapped values and adds at most `2 ^ 50` to a total. -/
theorem exactAddChannelTiming_eq {config : Config} {clockMin : U64} {mask : ChannelMask}
    {total : FrameTiming × U64} {index : Fin 4} {limit : ℕ}
    (hpos : 1 ≤ (config.channel.get index).frefDivider.toNat) (hclock : clockMin.toNat ≤ 2 ^ 32)
    (hlimit : limit ≤ 2 ^ 60) (htotal : TotalsWithin limit total) :
    exactAddChannelTiming config clockMin.toNat mask (exactTotals total) index =
        some (exactPass (addChannelTiming config clockMin mask total index)) ∧
      ∀ next, addChannelTiming config clockMin mask total index = .ok next →
        TotalsWithin (limit + 2 ^ 50) next := by
  obtain ⟨hframe, htransfers, hwake, hconversion, hswitch⟩ := htotal
  unfold exactAddChannelTiming addChannelTiming
  rw [exactIndexBit_eq, Option.bind_eq_bind, Option.bind_some]
  by_cases hskip : (mask.bits &&& indexBit index) == 0
  · have hbits : mask.bits.toNat &&& (indexBit index).toNat = 0 := by
      rw [← BitVec.toNat_and, toNat_eq_zero_iff]
      exact beq_iff_eq.mp hskip
    rw [if_pos hbits, if_pos hskip]
    refine ⟨rfl, fun next hnext => ?_⟩
    cases hnext
    exact ⟨hframe, htransfers, by omega, by omega, by omega⟩
  have hbits : ¬ (mask.bits.toNat &&& (indexBit index).toNat = 0) := by
    rw [← BitVec.toNat_and, toNat_eq_zero_iff]
    exact fun hzero => hskip (beq_iff_eq.mpr hzero)
  rw [if_neg hbits, if_neg hskip]
  dsimp only
  generalize config.channel.get index = channel at hpos ⊢
  have hrcount : channel.rcount.toNat ≤ 65535 := Nat.le_of_lt_succ channel.rcount.isLt
  rw [widened channel.frefDivider (by decide)] at hpos ⊢
  rw [widened channel.rcount (by decide)] at hrcount ⊢
  generalize (channel.frefDivider.setWidth 64 : U64) = divider at hpos ⊢
  generalize (channel.rcount.setWidth 64 : U64) = rcount at hrcount ⊢
  have hdivider : divider ≠ 0 := by
    rintro rfl
    exact absurd hpos (by decide)
  have hfrefLe : (clockMin / divider).toNat ≤ 2 ^ 32 := by
    rw [BitVec.toNat_udiv]
    exact Nat.le_trans (Nat.div_le_self _ _) hclock
  rw [Exact.div_toNat hdivider, Option.bind_some]
  generalize clockMin / divider = fref at hfrefLe ⊢
  by_cases hzero : fref == 0
  · have hnat : fref.toNat = 0 := toNat_eq_zero_iff.mpr (beq_iff_eq.mp hzero)
    rw [if_pos hnat, if_pos hzero]
    refine ⟨?_, fun next hnext => by cases hnext⟩
    simp [exactPass, FrameEstimate.exact, exactTotals, hframe, htransfers]
  have hfref : fref ≠ 0 := fun heq => hzero (beq_iff_eq.mpr heq)
  rw [if_neg fun hnat => hfref (toNat_eq_zero_iff.mp hnat), if_neg hzero]
  have hsixteen : (16 : U64).toNat ≤ 16 := by decide
  have hfour : (4 : U64).toNat ≤ 4 := by decide
  -- The settling time of one channel.
  obtain ⟨hcycles, hcyclesLe⟩ := exactSettleCycles_eq channel
  generalize (if channel.settleCount ≤ 1 then (32 : U64) else channel.settleCount.setWidth 64 * 16) =
    cycles at hcycles hcyclesLe ⊢
  have hmicro : microsPerSecond.toNat ≤ 1000000 := by decide
  have hnano : nanosPerSecond.toNat ≤ 1000000000 := by decide
  have hswitchCycles : channelSwitchCycles.toNat ≤ 5 := by decide
  have hbase : channelSwitchBaseNs.toNat ≤ 692 := by decide
  obtain ⟨hsettleMicros, hsettleMicrosLe⟩ := Exact.mul_of_le hcyclesLe hmicro (by decide)
  have hsettleUsLe := Nat.le_trans (ceilDivide_le hfref (by omega)) hsettleMicrosLe
  obtain ⟨hwakeSum, hwakeLe⟩ := Exact.add_of_le hwake hsettleUsLe (by omega)
  -- Its conversion time.
  obtain ⟨hcounts, hcountsLe⟩ := Exact.mul_of_le hrcount hsixteen (by decide)
  obtain ⟨hwhole, hwholeLe⟩ := Exact.add_of_le hcountsLe hfour (by decide)
  obtain ⟨hmicros, hmicrosLe⟩ := Exact.mul_of_le hwholeLe hmicro (by decide)
  have hchannelUsLe := Nat.le_trans (ceilDivide_le hfref (by omega)) hmicrosLe
  obtain ⟨hconversionSum, hconversionLe⟩ := Exact.add_of_le hconversion hchannelUsLe (by omega)
  -- The switch to it.
  obtain ⟨hnanos, hnanosLe⟩ := Exact.mul_of_le hswitchCycles hnano (by decide)
  have hcyclesNsLe := Nat.le_trans (ceilDivide_le hfref (by omega)) hnanosLe
  obtain ⟨hswitchNs, hswitchNsLe⟩ := Exact.add_of_le hbase hcyclesNsLe (by decide)
  have hthousand : (1000 : U64) ≠ 0 := by decide
  have hthousandNat : (1000 : U64).toNat = 1000 := by decide
  have hrange : (channelSwitchBaseNs + ceilDivide (channelSwitchCycles * nanosPerSecond) fref).toNat +
      (1000 : U64).toNat < 2 ^ 64 := by omega
  have hswitchUsLe := Nat.le_trans (ceilDivide_le hthousand hrange) hswitchNsLe
  have hswitchUs := exactCeilDivide_eq hrange
  rw [hthousandNat] at hswitchUs
  obtain ⟨hswitchSum, hswitchLe⟩ := Exact.add_of_le hswitch hswitchUsLe (by omega)
  constructor
  · refine Exact.bind_eq_some hcycles ?_
    refine Exact.bind_eq_some hsettleMicros ?_
    refine Exact.bind_eq_some (exactCeilDivide_eq (by omega)) ?_
    refine Exact.bind_eq_some hwakeSum ?_
    refine Exact.bind_eq_some hcounts ?_
    refine Exact.bind_eq_some hwhole ?_
    refine Exact.bind_eq_some hmicros ?_
    refine Exact.bind_eq_some (exactCeilDivide_eq (by omega)) ?_
    refine Exact.bind_eq_some hconversionSum ?_
    refine Exact.bind_eq_some hnanos ?_
    refine Exact.bind_eq_some (exactCeilDivide_eq (by omega)) ?_
    refine Exact.bind_eq_some hswitchNs ?_
    refine Exact.bind_eq_some hswitchUs ?_
    exact Exact.bind_eq_some hswitchSum rfl
  · intro next hnext
    obtain rfl := Except.ok.inj hnext
    refine ⟨hframe, htransfers, Nat.le_trans hwakeLe ?_, Nat.le_trans hconversionLe ?_,
      Nat.le_trans hswitchLe ?_⟩
    · omega
    · omega
    · omega

/-- The timing loop computes in unwrapped values. -/
theorem exactTimingLoop_eq {config : Config} {clockMin : U64} {mask : ChannelMask}
    {indices : List (Fin 4)} (hclock : clockMin.toNat ≤ 2 ^ 32)
    (hpos : ∀ index ∈ indices, 1 ≤ (config.channel.get index).frefDivider.toNat)
    {total : FrameTiming × U64} {limit : ℕ} (hlimit : limit + indices.length * 2 ^ 50 ≤ 2 ^ 60)
    (htotal : TotalsWithin limit total) :
    exactTimingLoop (exactAddChannelTiming config clockMin.toNat mask) indices (exactTotals total) =
        some (exactPass (indices.foldlM (addChannelTiming config clockMin mask) total)) ∧
      ∀ last, indices.foldlM (addChannelTiming config clockMin mask) total = .ok last →
        TotalsWithin (limit + indices.length * 2 ^ 50) last := by
  induction indices generalizing total limit with
  | nil =>
      refine ⟨rfl, fun last hlast => ?_⟩
      obtain rfl := Except.ok.inj hlast
      simpa using htotal
  | cons index rest ih =>
      rw [List.length_cons, Nat.add_mul] at hlimit
      obtain ⟨hstep, hnext⟩ : _ ∧ ∀ next, addChannelTiming config clockMin mask total index =
          .ok next → _ := exactAddChannelTiming_eq (hpos index List.mem_cons_self) hclock
        (by omega) htotal
      unfold exactTimingLoop
      rw [hstep, Option.bind_eq_bind, Option.bind_some, List.foldlM_cons]
      cases hpass : addChannelTiming config clockMin mask total index with
      | error early => exact ⟨rfl, fun last hlast => by cases hlast⟩
      | ok next =>
          obtain ⟨hloop, hlast⟩ := ih (fun i hi => hpos i (List.mem_cons_of_mem _ hi))
            (by omega) (hnext next hpass)
          refine ⟨hloop, fun last hend => ?_⟩
          have hcount : limit + 2 ^ 50 + rest.length * 2 ^ 50 =
              limit + (index :: rest).length * 2 ^ 50 := by
            rw [List.length_cons, Nat.add_mul]
            omega
          exact hcount ▸ hlast last hend

/-- The loop of `popcount` counts at most one for each turn, in a byte. -/
theorem exactPopcountLoop_eq (turns : ℕ) (count bits : U8) (h : count.toNat + turns < 2 ^ 8) :
    exactPopcountLoop turns count.toNat bits.toNat = some (popcountLoop turns count bits).toNat ∧
      (popcountLoop turns count bits).toNat ≤ count.toNat + turns := by
  induction turns generalizing count bits with
  | zero => exact ⟨rfl, Nat.le_refl _⟩
  | succ turns ih =>
      unfold exactPopcountLoop popcountLoop
      by_cases hzero : bits = 0
      · rw [if_pos (toNat_eq_zero_iff.mpr hzero), if_pos hzero]
        exact ⟨rfl, Nat.le_add_right _ _⟩
      · rw [if_neg fun hnat => hzero (toNat_eq_zero_iff.mp hnat), if_neg hzero]
        have hbit : (bits &&& 1).toNat ≤ 1 := by
          rw [BitVec.toNat_and]
          exact Nat.and_le_right
        have hhalf : (bits >>> 1).toNat = bits.toNat / 2 := by
          rw [BitVec.toNat_ushiftRight, Nat.shiftRight_eq_div_pow, Nat.pow_one]
        obtain ⟨hsum, hsumLe⟩ := Exact.add_of_le (Nat.le_refl count.toNat) hbit (by omega)
        obtain ⟨hloop, hle⟩ := ih (count + (bits &&& 1)) (bits >>> 1) (by omega)
        rw [hhalf] at hloop
        exact ⟨Exact.bind_eq_some hsum hloop, by omega⟩

/-- At most four channels are timed. -/
theorem length_channelIndices_le (channelCount : Fin 5) :
    (channelIndices channelCount).length ≤ 4 :=
  List.length_filter_le _ _

/-- The estimate of any profile and mask computes in unwrapped values throughout. -/
theorem exactEstimateFrameTiming_eq (config : Config) (channels : ChannelMask) :
    exactEstimateFrameTiming config channels = some (estimateFrameTiming config channels).exact := by
  unfold exactEstimateFrameTiming estimateFrameTiming
  rw [exactValidateConfig_eq, Option.bind_eq_bind, Option.bind_some]
  dsimp only
  by_cases hvalid : (validateConfig config).isOk = true
  swap
  · rw [Bool.not_eq_true] at hvalid
    rw [hvalid]
    rfl
  obtain ⟨hstructural, -⟩ := accepted_of_validateConfig hvalid
  rw [hvalid]
  have hpassed : ¬ ((!true) = true) := by decide
  rw [if_neg hpassed, if_neg hpassed]
  -- both computations take the same early returns
  by_cases hmask : channels.empty || (channels.bits &&& ~~~config.channels.bits) != 0
  · rw [if_pos hmask, if_pos hmask]
    rfl
  rw [if_neg hmask, if_neg hmask]
  refine Exact.bind_eq_some (exactReferenceClockBoundsHz_eq hstructural.tolerance) ?_
  dsimp only
  have hclock := referenceClockBoundsHz_fst_le hstructural.tolerance
  generalize (referenceClockBoundsHz config).1 = clockMin at hclock ⊢
  by_cases hzero : clockMin == 0
  · have hnat : clockMin.toNat = 0 := toNat_eq_zero_iff.mpr (beq_iff_eq.mp hzero)
    rw [if_pos hnat, if_pos hzero]
    rfl
  rw [if_neg fun hnat => hzero (beq_iff_eq.mpr (toNat_eq_zero_iff.mp hnat)), if_neg hzero]
  -- the wake delay starts the totals
  have hfloor : (internalClockMinHz.setWidth 64 : U64).toNat = internalClockMinHz.toNat := by decide
  have hwakeUs : exactCeilDivide (wakeDelayCycles * microsPerSecond).toNat
      (internalClockMinHz.setWidth 64 : U64).toNat = some (ceilDivide
        (wakeDelayCycles * microsPerSecond) (internalClockMinHz.setWidth 64)).toNat :=
    exactCeilDivide_eq (by decide)
  rw [hfloor] at hwakeUs
  refine Exact.bind_eq_some (Exact.mul_toNat (by decide)) ?_
  refine Exact.bind_eq_some hwakeUs ?_
  -- the loop keeps the totals far below the width, from whatever channel on
  have hpos : ∀ index ∈ channelIndices (channelCountFor config.variant),
      1 ≤ (config.channel.get index).frefDivider.toNat := fun index hindex =>
    (hstructural.encodable index (mem_channelIndices.mp hindex)).frefPos
  have hlength := length_channelIndices_le (channelCountFor config.variant)
  have hstart : TotalsWithin (2 ^ 32)
      ({ wakeAndSettleUs := ceilDivide (wakeDelayCycles * microsPerSecond)
          (internalClockMinHz.setWidth 64) }, 0) :=
    ⟨rfl, rfl, by decide, by decide, by decide⟩
  obtain ⟨hloop, hlast⟩ : _ ∧ ∀ last, (channelIndices (channelCountFor config.variant)).foldlM
      (addChannelTiming config clockMin (timingChannels config channels)) _ = .ok last → _ :=
    exactTimingLoop_eq hclock hpos (by omega) hstart
  refine Exact.bind_eq_some hloop ?_
  cases hfold : (channelIndices (channelCountFor config.variant)).foldlM
      (addChannelTiming config clockMin (timingChannels config channels))
      ({ wakeAndSettleUs := ceilDivide (wakeDelayCycles * microsPerSecond)
          (internalClockMinHz.setWidth 64) }, 0) with
  | error early => rfl
  | ok total =>
      obtain ⟨timing, switchTotalUs⟩ := total
      obtain ⟨-, -, hwake, hconversion, hswitch⟩ := hlast _ hfold
      obtain ⟨hsampled, hsampledLe⟩ := Exact.add_of_le hwake hconversion (by omega)
      obtain ⟨hframe, -⟩ := Exact.add_of_le hsampledLe hswitch (by omega)
      obtain ⟨hselected, hselectedLe⟩ := exactPopcountLoop_eq 8 0 channels.bits (by decide)
      have hzeroNat : (0 : U8).toNat = 0 := by decide
      have htwo : (2 : U8).toNat ≤ 2 := by decide
      have htwoNat : (2 : U8).toNat = 2 := by decide
      rw [hzeroNat] at hselected hselectedLe
      obtain ⟨hdata, hdataLe⟩ := Exact.mul_of_le htwo hselectedLe (by decide)
      obtain ⟨htransfers, -⟩ := Exact.add_of_le htwo hdataLe (by decide)
      rw [htwoNat] at hdata htransfers
      refine Exact.bind_eq_some hsampled ?_
      refine Exact.bind_eq_some hframe ?_
      refine Exact.bind_eq_some hselected ?_
      refine Exact.bind_eq_some hdata ?_
      exact Exact.bind_eq_some htransfers rfl

/-! ### Agreement of the encoders -/

/-- Setting bits on a condition loses none. -/
theorem toNat_setBits (value : U16) (condition : Bool) (mask : U16) :
    (setBits value condition mask).toNat = exactSetBits value.toNat condition mask.toNat := by
  unfold setBits exactSetBits
  split
  · exact BitVec.toNat_or ..
  · rfl

/-- The channel number of a concrete channel fits its field. -/
theorem activeField_fits : ∀ raw : U8, raw < maxChannels →
    (raw.setWidth 16 : U16).toNat * 2 ^ bitCfgActiveChan < 2 ^ 16 ∧
      (raw.setWidth 16 <<< bitCfgActiveChan) &&& maskCfgActiveChan =
        (raw.setWidth 16 : U16) <<< bitCfgActiveChan := by
  decide +kernel

/-- The number of a sequence that selects channels fits its field. -/
theorem sequenceField_fits : ∀ raw : U8, (sequenceMask ⟨raw⟩).bits ≠ 0 →
    (raw.setWidth 16 : U16).toNat * 2 ^ bitMuxRrSequence < 2 ^ 16 ∧
      (raw.setWidth 16 <<< bitMuxRrSequence) &&& maskMuxRrSequence =
        (raw.setWidth 16 : U16) <<< bitMuxRrSequence := by
  decide +kernel

/-- A valid deglitch code fits its field. -/
theorem deglitchField_fits : ∀ raw : U8, isValidDeglitch ⟨raw⟩ = true →
    (raw.setWidth 16 : U16) &&& maskMuxDeglitch = raw.setWidth 16 := by
  decide +kernel

/-- The CONFIG word of any profile loses no bit. -/
theorem exactBuildConfigRegister_eq (config : Config) (sleeping : Bool) :
    exactBuildConfigRegister config sleeping = some (buildConfigRegister config sleeping).toNat := by
  unfold exactBuildConfigRegister buildConfigRegister
  simp only [toNat_setBits]
  by_cases hconcrete : isConcreteChannel config.activeChannel = true
  · obtain ⟨hshift, hkeep⟩ := activeField_fits config.activeChannel.raw (of_decide_eq_true hconcrete)
    have hwide : (config.activeChannel.raw.setWidth 16 : U16).toNat =
        config.activeChannel.raw.toNat := BitVec.toNat_setWidth_of_le (by decide)
    have hset (value mask : ℕ) : exactSetBits value (isConcreteChannel config.activeChannel) mask =
        value ||| mask := if_pos hconcrete
    rw [if_pos hconcrete, ← hwide, hset]
    refine Exact.bind_eq_some (Exact.shiftLeft_toNat hshift) ?_
    exact Exact.bind_eq_some (Exact.keep_toNat hkeep) rfl
  · have hset (value mask : ℕ) : exactSetBits value (isConcreteChannel config.activeChannel) mask =
        value := if_neg hconcrete
    rw [if_neg hconcrete, hset]
    rfl

/-- The MUX_CONFIG word of an accepted profile loses no bit. -/
theorem exactBuildMuxConfigRegister_eq {config : Config} (h : config.Structural) :
    exactBuildMuxConfigRegister config = some (buildMuxConfigRegister config).toNat := by
  have hwide (raw : U8) : (raw.setWidth 16 : U16).toNat = raw.toNat :=
    BitVec.toNat_setWidth_of_le (by decide)
  unfold exactBuildMuxConfigRegister buildMuxConfigRegister
  simp only [BitVec.toNat_or, toNat_setBits]
  rw [← hwide config.deglitch.raw]
  have hdeglitch := deglitchField_fits config.deglitch.raw h.deglitch
  by_cases hmode : config.mode = .multiChannelSequential
  · have hbits : (sequenceMask ⟨config.rrSequence.raw⟩).bits ≠ 0 := by
      show (sequenceMask config.rrSequence).bits ≠ 0
      rw [(h.sequential hmode).2]
      exact h.nonempty
    obtain ⟨hshift, hkeep⟩ := sequenceField_fits config.rrSequence.raw hbits
    have hset (value mask : ℕ) :
        exactSetBits value (decide (config.mode = .multiChannelSequential)) mask = value ||| mask :=
      if_pos (decide_eq_true hmode)
    rw [if_pos hmode, ← hwide config.rrSequence.raw, hset, hset]
    refine Exact.bind_eq_some (Exact.shiftLeft_toNat hshift) ?_
    refine Exact.bind_eq_some (Exact.keep_toNat hkeep) ?_
    refine Exact.bind_eq_some rfl ?_
    exact Exact.bind_eq_some (Exact.keep_toNat hdeglitch) rfl
  · have hset (value mask : ℕ) :
        exactSetBits value (decide (config.mode = .multiChannelSequential)) mask = value :=
      if_neg fun hyes => hmode (of_decide_eq_true hyes)
    rw [if_neg hmode, hset, hset]
    refine Exact.bind_eq_some rfl ?_
    exact Exact.bind_eq_some (Exact.keep_toNat hdeglitch) rfl

/-- The routes fit their word. -/
theorem exactEncodeErrorReporting_eq (reporting : ErrorReporting) :
    exactEncodeErrorReporting reporting = (encodeErrorReporting reporting).toNat := by
  unfold exactEncodeErrorReporting encodeErrorReporting
  simp only [toNat_setBits]
  rfl

/-- A replay step of the fixed-width code. -/
def ConfigWrite.exact (write : ConfigWrite) : ExactWrite :=
  ⟨write.valid, write.reg.toNat, write.value.toNat⟩

/-- The address of a per-channel register does not wrap. -/
theorem channelRegister_fits {base : U8} (hbase : base.toNat ≤ 127) (index : Fin 4) :
    Exact.add 8 base.toNat index.val = some (base + BitVec.ofNat 8 index.val).toNat := by
  have hindex : (BitVec.ofNat 8 index.val).toNat = index.val := by
    rw [BitVec.toNat_ofNat, Nat.mod_eq_of_lt (by omega)]
  have hsum := Exact.add_of_le hbase (Nat.le_of_eq hindex) (by omega)
  rw [hindex] at hsum
  exact hsum.1

/-- The divider word of an encodable channel keeps both dividers. -/
theorem frefField_fits {fref : U16} (h : fref.toNat ≤ 1023) : fref &&& maskFrefDivider = fref := by
  apply BitVec.eq_of_toNat_eq
  have hmask : maskFrefDivider.toNat = 2 ^ 10 - 1 := by decide
  rw [BitVec.toNat_and, hmask, Nat.and_two_pow_sub_one_eq_mod, Nat.mod_eq_of_lt (by omega)]

/-- The writes of an encodable channel lose no bit. -/
theorem exactChannelWriteAt_eq {config : Config} {index : Fin 4}
    (h : (config.channel.get index).Encodable) (field : ℕ) :
    exactChannelWriteAt config index field = some (channelWriteAt config index field).exact := by
  have hfin : ((config.channel.get index).finDivider.setWidth 16 : U16).toNat =
      (config.channel.get index).finDivider.toNat := BitVec.toNat_setWidth_of_le (by decide)
  have hdrive : ((config.channel.get index).driveCurrentCode.value.setWidth 16 : U16).toNat =
      (config.channel.get index).driveCurrentCode.value.toNat :=
    BitVec.toNat_setWidth_of_le (by decide)
  have hfinMax := h.finMax
  have hdriveMax := h.driveCurrent
  unfold exactChannelWriteAt channelWriteAt
  match field with
  | 0 => exact Exact.bind_eq_some (channelRegister_fits (by decide) index) rfl
  | 1 => exact Exact.bind_eq_some (channelRegister_fits (by decide) index) rfl
  | 2 =>
      refine Exact.bind_eq_some (channelRegister_fits (by decide) index) ?_
      rw [← hfin]
      refine Exact.bind_eq_some (Exact.shiftLeft_toNat ?_) ?_
      · rw [hfin]
        unfold bitFinDivider
        omega
      refine Exact.bind_eq_some (Exact.keep_toNat (frefField_fits h.frefMax)) ?_
      rw [← BitVec.toNat_or]
      rfl
  | 3 => exact Exact.bind_eq_some (channelRegister_fits (by decide) index) rfl
  | _ + 4 =>
      refine Exact.bind_eq_some (channelRegister_fits (by decide) index) ?_
      rw [← hdrive]
      refine Exact.bind_eq_some (Exact.shiftLeft_toNat ?_) rfl
      rw [hdrive]
      unfold bitIdrive
      omega

/-- The length of the replay fits its byte. -/
theorem exactConfigurationTransferCount_eq : ∀ channelCount : Fin 5,
    exactConfigurationTransferCount channelCount.val =
      some (configurationTransferCount channelCount).toNat := by
  decide

/-- Every replay step of an accepted profile loses no bit. -/
theorem exactConfigWriteAt_eq {config : Config} (h : config.Structural) (step : U8) :
    exactConfigWriteAt config (channelCountFor config.variant) step.toNat =
      some (configWriteAt config (channelCountFor config.variant) step).exact := by
  have hencodable := h.encodable
  generalize channelCountFor config.variant = channelCount at hencodable ⊢
  unfold exactConfigWriteAt configWriteAt
  refine Exact.bind_eq_some (exactConfigurationTransferCount_eq channelCount) ?_
  dsimp only
  by_cases hpast : configurationTransferCount channelCount ≤ step
  · rw [if_pos (BitVec.le_def.mp hpast), if_pos hpast]
    rfl
  rw [if_neg fun hle => hpast (BitVec.le_def.mpr hle), if_neg hpast]
  by_cases hzero : step = 0
  · rw [if_pos (toNat_eq_zero_iff.mpr hzero), if_pos hzero]
    exact Exact.bind_eq_some (exactBuildConfigRegister_eq config true) rfl
  have hnat : step.toNat ≠ 0 := fun heq => hzero (toNat_eq_zero_iff.mp heq)
  rw [if_neg hnat, if_neg hzero]
  have hone : Exact.sub step.toNat 1 = some (step.toNat - 1) := if_pos (by omega)
  have hcount : Exact.mul 8 channelCount.val 5 = some (channelCount.val * 5) :=
    if_pos (by omega)
  refine Exact.bind_eq_some hone ?_
  refine Exact.bind_eq_some hcount ?_
  by_cases hchannel : step.toNat - 1 < channelCount.val * 5
  · rw [dif_pos hchannel, dif_pos hchannel]
    exact exactChannelWriteAt_eq (hencodable _ (Nat.div_lt_of_lt_mul (by omega))) _
  have hglobal : Exact.sub (step.toNat - 1) (channelCount.val * 5) =
      some (step.toNat - 1 - channelCount.val * 5) := if_pos (by omega)
  rw [dif_neg hchannel, dif_neg hchannel]
  refine Exact.bind_eq_some hglobal ?_
  by_cases hfirst : step.toNat - 1 - channelCount.val * 5 = 0
  · rw [if_pos hfirst, if_pos hfirst, exactEncodeErrorReporting_eq]
    rfl
  · rw [if_neg hfirst, if_neg hfirst]
    exact Exact.bind_eq_some (exactBuildMuxConfigRegister_eq h) rfl

/-- The search finds the same replay step. -/
theorem exactFindWrite_eq {write : ℕ → Option ExactWrite} {body : U8 → ConfigWrite} (reg : U8)
    {steps : List ℕ} (h : ∀ step ∈ steps, write step = some (body (BitVec.ofNat 8 step)).exact) :
    exactFindWrite write reg.toNat steps =
      some ((((steps.map (BitVec.ofNat 8)).map body).find?
        fun entry => entry.valid && entry.reg == reg).map ConfigWrite.exact) := by
  induction steps with
  | nil => rfl
  | cons step rest ih =>
      unfold exactFindWrite
      refine Exact.bind_eq_some (h step List.mem_cons_self) ?_
      rw [List.map_cons, List.map_cons, List.find?_cons]
      generalize body (BitVec.ofNat 8 step) = entry
      have hiff : (entry.exact.valid = true ∧ entry.exact.reg = reg.toNat) ↔
          (entry.valid && entry.reg == reg) = true := by
        rw [Bool.and_eq_true, beq_iff_eq]
        exact and_congr_right fun _ => BitVec.toNat_inj
      by_cases hfound : (entry.valid && entry.reg == reg) = true
      · rw [if_pos (hiff.mpr hfound), hfound]
        rfl
      · rw [if_neg fun hyes => hfound (hiff.mp hyes), Bool.eq_false_of_not_eq_true hfound]
        exact ih fun other hother => h other (List.mem_cons_of_mem _ hother)

/-- The expected register of the fixed-width code. -/
def ExpectedRegister.exact (expected : ExpectedRegister) : ExactExpected :=
  ⟨expected.status, expected.expectedValue.toNat, expected.comparisonMask.toNat⟩

/-- The expected register of any profile computes in unwrapped values throughout. -/
theorem exactExpectedConfigurationRegister_eq (config : Config) (reg : U8) :
    exactExpectedConfigurationRegister config reg =
      some (expectedConfigurationRegister config reg).exact := by
  unfold exactExpectedConfigurationRegister expectedConfigurationRegister
  rw [exactValidateConfig_eq, Option.bind_eq_bind, Option.bind_some]
  dsimp only
  by_cases hvalid : (validateConfig config).isOk = true
  swap
  · rw [Bool.not_eq_true] at hvalid
    rw [hvalid]
    rfl
  obtain ⟨hstructural, -⟩ := accepted_of_validateConfig hvalid
  rw [hvalid]
  have hpassed : ¬ ((!true) = true) := by decide
  rw [if_neg hpassed, if_neg hpassed]
  refine Exact.bind_eq_some (exactConfigurationTransferCount_eq _) ?_
  have hwrite : ∀ step ∈ List.range
      (configurationTransferCount (channelCountFor config.variant)).toNat,
      exactConfigWriteAt config (channelCountFor config.variant) step =
        some (configWriteAt config (channelCountFor config.variant) (BitVec.ofNat 8 step)).exact := by
    intro step hstep
    have hbyte := (configurationTransferCount (channelCountFor config.variant)).isLt
    have hstepNat : (BitVec.ofNat 8 step).toNat = step := by
      rw [BitVec.toNat_ofNat]
      exact Nat.mod_eq_of_lt (Nat.lt_trans (List.mem_range.mp hstep) hbyte)
    have heq := exactConfigWriteAt_eq hstructural (BitVec.ofNat 8 step)
    rwa [hstepNat] at heq
  refine Exact.bind_eq_some (exactFindWrite_eq reg hwrite) ?_
  generalize ((((List.range (configurationTransferCount (channelCountFor config.variant)).toNat).map
    (BitVec.ofNat 8)).map (configWriteAt config (channelCountFor config.variant))).find?
      fun entry => entry.valid && entry.reg == reg) = found
  cases found with
  | none => rfl
  | some entry => rfl

end Ldc1614
