import Ldc1614.Driver.Acceptance
import Ldc1614.Driver.Quality

/-! # The published batch

What `_buildAcquisition` publishes, as a function of the words an acquisition has read: the flags of
each sample, the samples, and the masks. -/

namespace Ldc1614

open Arithmetic Cmd Driver

/-! ### What the words say -/

/-- The words of an acquisition: STATUS before and after, and the two words of each channel. -/
structure AcquiredWords where
  before : U16
  after : U16
  msb : Fin 4 → U16
  lsb : Fin 4 → U16

namespace AcquiredWords

variable (w : AcquiredWords) (index : Fin 4)

/-- The conversion code of a channel. -/
def code : ℕ := conversionCode (w.msb index) (w.lsb index)

/-- The flags of a channel's sample. -/
def flags : SampleQualityFlag → Bool
  | .fresh => unreadIn w.before index
  | .stale => !unreadIn w.before index
  | .underRange => (w.msb index).getLsbD 15 || unreadIn w.before index && w.code index = 0 ||
      statusBlames w.before index maskStatusErrUr
  | .overRange => (w.msb index).getLsbD 14 || unreadIn w.before index && w.code index = 2 ^ 28 - 1 ||
      statusBlames w.before index maskStatusErrOr
  | .watchdog => (w.msb index).getLsbD 13 || statusBlames w.before index maskStatusErrWd
  | .amplitudeSuspect => (w.msb index).getLsbD 12 || statusBlames w.before index maskStatusErrAhe ||
      statusBlames w.before index maskStatusErrAle
  | .zeroCount => statusBlames w.before index maskStatusErrZc
  | .dataLost => unreadIn w.after index
  | .configUnknown => false

/-- A range, watchdog, amplitude or zero-count flag is set. -/
def faulty : Bool :=
  w.flags index .underRange || w.flags index .overRange || w.flags index .watchdog ||
    w.flags index .amplitudeSuspect || w.flags index .zeroCount

end AcquiredWords

/-- A batch as an acquisition of these channels with these words publishes it. -/
structure Publishes (w : AcquiredWords) (mask : ChannelMask) (batch : SampleBatch) : Prop where
  selected : batch.selectedChannels = mask
  statusBefore : batch.statusBefore = decodeDeviceStatus w.before
  statusAfter : batch.statusAfter = decodeDeviceStatus w.after
  fresh : batch.freshChannels =
    maskOf fun index => mask.bits.getLsbD index.val && unreadIn w.before index
  overrun : batch.overrunChannels =
    maskOf fun index => mask.bits.getLsbD index.val && unreadIn w.after index
  valid : batch.validChannels =
    maskOf fun index =>
      mask.bits.getLsbD index.val && (unreadIn w.before index && !w.faulty index)
  error : batch.errorChannels =
    maskOf fun index => mask.bits.getLsbD index.val && w.faulty index
  raw : ∀ index ∈ maskChannels mask, (batch.channel.get index).rawDataMsb = w.msb index ∧
    (batch.channel.get index).rawDataLsb = w.lsb index ∧
    (batch.channel.get index).rawCount28.toNat = w.code index
  quality : ∀ index ∈ maskChannels mask, ∀ flag,
    hasSampleQuality (batch.channel.get index).quality flag = w.flags index flag
  other : ∀ index ∉ maskChannels mask, batch.channel.get index = {}

/-! ### One sample -/

section Sample

variable {d : Driver} {w : AcquiredWords} {index : Fin 4} {raw : U16}
  {quality : SampleQualityFlags}

/-- The flag a STATUS word adds to the sample of the channel it names. -/
def blamedFor (raw : U16) (index : Fin 4) : SampleQualityFlag → Bool
  | .underRange => statusBlames raw index maskStatusErrUr
  | .overRange => statusBlames raw index maskStatusErrOr
  | .watchdog => statusBlames raw index maskStatusErrWd
  | .amplitudeSuspect =>
      statusBlames raw index maskStatusErrAhe || statusBlames raw index maskStatusErrAle
  | .zeroCount => statusBlames raw index maskStatusErrZc
  | _ => false

/-- The attribution of a STATUS word. -/
theorem attributed_quality (flag : SampleQualityFlag) :
    hasSampleQuality (if (decodeDeviceStatus raw).hasError &&
        (decodeDeviceStatus raw).errorChannel = ⟨BitVec.ofNat 8 index.val⟩ then
      attributeStatusErrors (decodeDeviceStatus raw) quality else quality) flag =
      (hasSampleQuality quality flag || blamedFor raw index flag) := by
  obtain ⟨herror, hattribute, -⟩ := decodeDeviceStatus_errors raw
  cases hany : (statusBits raw).hasError with
  | false =>
      -- without an error bit nobody is blamed
      have hnone : Fields.has raw maskStatusErrUr = false ∧ Fields.has raw maskStatusErrOr = false ∧
          Fields.has raw maskStatusErrWd = false ∧ Fields.has raw maskStatusErrAhe = false ∧
          Fields.has raw maskStatusErrAle = false ∧ Fields.has raw maskStatusErrZc = false := by
        simpa [DeviceStatus.hasError, statusBits, and_assoc] using hany
      obtain ⟨hur, hor, hwd, hahe, hale, hzc⟩ := hnone
      have hblamed : blamedFor raw index flag = false := by
        cases flag <;> simp [blamedFor, statusBlames, *]
      rw [herror, hany, Bool.false_and, if_neg Bool.false_ne_true, hblamed, Bool.or_false]
  | true =>
      rw [herror, hany, Bool.true_and]
      by_cases hchannel : (raw >>> bitStatusErrChan).toNat = index.val
      · have hnamed := (decodeDeviceStatus_channel raw hany index).mpr hchannel
        rw [if_pos (decide_eq_true hnamed), hattribute]
        unfold attributeStatusErrors statusBits
        simp only [hasSampleQuality_setBits, hasSampleQuality_flag]
        cases flag <;> simp [blamedFor, statusBlames, hchannel]
      · have hnamed := mt (decodeDeviceStatus_channel raw hany index).mp hchannel
        have hblames (mask : U16) : statusBlames raw index mask = false := by
          rw [statusBlames, decide_eq_false hchannel, Bool.and_false]
        have hblamed : blamedFor raw index flag = false := by
          cases flag <;> simp only [blamedFor, hblames, Bool.or_false]
        rw [if_neg (by simp [hnamed]), hblamed, Bool.or_false]

/-- The freshness part of the classification: a stale sample keeps the range flags that the silicon
reported only. -/
theorem freshness_quality (msb lsb : U16) (fresh : Bool) (flag : SampleQualityFlag) :
    hasSampleQuality
      (if fresh then (decodeChannelSample msb lsb).quality ||| sampleQualityFlag .fresh
      else
        let quality := (decodeChannelSample msb lsb).quality ||| sampleQualityFlag .stale
        let quality := if (msb &&& maskDataErrUr) == 0 then
          quality &&& ~~~sampleQualityFlag .underRange else quality
        if (msb &&& maskDataErrOr) == 0 then
          quality &&& ~~~sampleQualityFlag .overRange else quality) flag =
      match flag with
      | .fresh => fresh
      | .stale => !fresh
      | .underRange => msb.getLsbD 15 || fresh && conversionCode msb lsb = 0
      | .overRange => msb.getLsbD 14 || fresh && conversionCode msb lsb = 2 ^ 28 - 1
      | .watchdog => msb.getLsbD 13
      | .amplitudeSuspect => msb.getLsbD 12
      | _ => false := by
  cases fresh with
  | true =>
      rw [if_pos rfl, hasSampleQuality_or, decodeChannelSample_quality, hasSampleQuality_flag]
      cases flag <;> simp
  | false =>
      have hbit (i : ℕ) : ((msb &&& (1#16 <<< i)) == 0) = !msb.getLsbD i := by
        rw [← Fields.has_bit, Fields.has, bne, Bool.not_not]
      have hur : ((msb &&& maskDataErrUr) == 0) = !msb.getLsbD 15 := hbit 15
      have hor : ((msb &&& maskDataErrOr) == 0) = !msb.getLsbD 14 := hbit 14
      rw [if_neg Bool.false_ne_true]
      dsimp only
      rw [hur, hor]
      cases hunder : msb.getLsbD 15 <;> cases hover : msb.getLsbD 14 <;>
        simp only [Bool.not_true, Bool.not_false, Bool.false_eq_true, if_true, if_false,
          hasSampleQuality_and_not, hasSampleQuality_or, hasSampleQuality_flag,
          decodeChannelSample_quality, hunder, hover] <;>
        cases flag <;> simp

/-- **The classification of a sample**, flag by flag. -/
theorem classifySample_quality {fresh overrun : ChannelMask}
    (hstatus : d.scratchStatusBefore = decodeDeviceStatus w.before)
    (hsample : d.scratchSamples.get index = decodeChannelSample (w.msb index) (w.lsb index))
    (hfresh : fresh.bits.getLsbD index.val = unreadIn w.before index)
    (hoverrun : overrun.bits.getLsbD index.val = unreadIn w.after index)
    (flag : SampleQualityFlag) :
    hasSampleQuality (d.classifySample fresh overrun index).quality flag = w.flags index flag := by
  unfold classifySample
  dsimp only
  rw [hsample, hstatus, indexBit_and, indexBit_and, hfresh, hoverrun, hasSampleQuality_setBits,
    attributed_quality, hasSampleQuality_flag]
  have hmsb : (decodeChannelSample (w.msb index) (w.lsb index)).rawDataMsb = w.msb index := rfl
  have hfreshness := freshness_quality (w.msb index) (w.lsb index) (unreadIn w.before index) flag
  dsimp only at hfreshness
  rw [hmsb, hfreshness]
  cases flag <;>
    simp only [AcquiredWords.flags, AcquiredWords.code, blamedFor, Bool.or_assoc, Bool.or_false,
      reduceCtorEq, decide_false, decide_true, Bool.and_false, Bool.and_true, Bool.false_or] <;>
    rfl

/-- The flags that make a sample invalid, or an error. -/
theorem quality_and_flags (quality : SampleQualityFlags) :
    ((quality &&& Driver.errorFlags) != 0) = (hasSampleQuality quality .underRange ||
      hasSampleQuality quality .overRange || hasSampleQuality quality .watchdog ||
      hasSampleQuality quality .amplitudeSuspect || hasSampleQuality quality .zeroCount) ∧
    ((quality &&& Driver.invalidFlags) == 0) =
      (!hasSampleQuality quality .stale && !((quality &&& Driver.errorFlags) != 0)) := by
  have herror : Driver.errorFlags = sampleQualityFlag .underRange ||| sampleQualityFlag .overRange |||
      sampleQualityFlag .watchdog ||| sampleQualityFlag .amplitudeSuspect |||
      sampleQualityFlag .zeroCount := by decide
  have hinvalid : Driver.invalidFlags = sampleQualityFlag .stale ||| Driver.errorFlags := by decide
  constructor
  · rw [herror]
    show Fields.has quality _ = _
    simp only [Fields.has_mask_or]
    rfl
  · have hjoined : ((quality &&& Driver.invalidFlags) != 0) =
        (hasSampleQuality quality .stale || (quality &&& Driver.errorFlags) != 0) := by
      rw [hinvalid]
      exact Fields.has_mask_or _ _
    rw [← Bool.not_or, ← hjoined, bne, Bool.not_not]

end Sample

/-! ### The loop -/

theorem get_store {α : Type} {n : ℕ} (slots : Vector α n) (index other : Fin n) (a : α) :
    (store slots index a).get other = if index = other then a else slots.get other := by
  show (slots.set index.val a)[other.val] = if index = other then a else slots[other.val]
  rw [Vector.getElem_set]
  exact if_congr Fin.ext_iff.symm rfl rfl

/-- What the loop of `_buildAcquisition` makes of a batch on its way through these channels. -/
structure Collected (d : Driver) (indices : List (Fin 4)) (batch result : SampleBatch) :
    Prop where
  selected : result.selectedChannels = batch.selectedChannels
  fresh : result.freshChannels = batch.freshChannels
  overrun : result.overrunChannels = batch.overrunChannels
  statusBefore : result.statusBefore = batch.statusBefore
  statusAfter : result.statusAfter = batch.statusAfter
  sample : ∀ index ∈ indices, index ∈ maskChannels batch.selectedChannels →
    result.channel.get index = d.classifySample batch.freshChannels batch.overrunChannels index
  kept : ∀ index, ¬ (index ∈ indices ∧ index ∈ maskChannels batch.selectedChannels) →
    result.channel.get index = batch.channel.get index
  valid : ∀ i, result.validChannels.bits.getLsbD i = true ↔
    batch.validChannels.bits.getLsbD i = true ∨ ∃ index ∈ indices, index.val = i ∧
      index ∈ maskChannels batch.selectedChannels ∧
      ((d.classifySample batch.freshChannels batch.overrunChannels index).quality &&&
        Driver.invalidFlags) == 0
  error : ∀ i, result.errorChannels.bits.getLsbD i = true ↔
    batch.errorChannels.bits.getLsbD i = true ∨ ∃ index ∈ indices, index.val = i ∧
      index ∈ maskChannels batch.selectedChannels ∧
      ((d.classifySample batch.freshChannels batch.overrunChannels index).quality &&&
        Driver.errorFlags) != 0

/-- One turn. -/
theorem addSample_collected (d : Driver) (batch : SampleBatch) (index : Fin 4) :
    Collected d [index] batch (d.addSample batch index) := by
  have hmem : ∀ other, other ∈ [index] ↔ index = other := fun other => by
    rw [List.mem_singleton]
    exact eq_comm
  by_cases hselected : index ∈ maskChannels batch.selectedChannels
  · have hbit := mem_maskChannels.mp hselected
    -- a selected channel is stored, and its bits are added
    have hresult : d.addSample batch index =
        let sample := d.classifySample batch.freshChannels batch.overrunChannels index
        { batch with
          validChannels :=
            if (sample.quality &&& Driver.invalidFlags) == 0 then
              ⟨batch.validChannels.bits ||| indexBit index⟩
            else batch.validChannels
          errorChannels :=
            if (sample.quality &&& Driver.errorFlags) != 0 then
              ⟨batch.errorChannels.bits ||| indexBit index⟩
            else batch.errorChannels
          channel := store batch.channel index sample } := by
      rw [addSample, if_neg]
      rw [← indexBit_and] at hbit
      simpa using hbit
    rw [hresult]
    have hbits (bits : U8) (condition : Bool) (i : ℕ) :
        (if condition then (⟨bits ||| indexBit index⟩ : ChannelMask) else ⟨bits⟩).bits.getLsbD i =
          true ↔ bits.getLsbD i = true ∨ index.val = i ∧ condition = true := by
      cases condition with
      | true =>
          rw [if_pos rfl, getLsbD_or_indexBit, Bool.or_eq_true, decide_eq_true_eq]
          exact or_congr_right (and_iff_left rfl).symm
      | false => simp
    refine ⟨rfl, rfl, rfl, rfl, rfl, fun other hother _ => ?_, fun other hother => ?_, fun i => ?_,
      fun i => ?_⟩
    · obtain rfl := (hmem other).mp hother
      rw [get_store, if_pos rfl]
    · rw [get_store, if_neg]
      rintro rfl
      exact hother ⟨List.mem_singleton_self _, hselected⟩
    · simp only [hmem, exists_eq_left', hselected, true_and]
      exact hbits batch.validChannels.bits _ i
    · simp only [hmem, exists_eq_left', hselected, true_and]
      exact hbits batch.errorChannels.bits _ i
  -- another one is passed over
  · have hresult : d.addSample batch index = batch := by
      rw [addSample, if_pos]
      rw [mem_maskChannels, ← indexBit_and] at hselected
      simpa using hselected
    rw [hresult]
    refine ⟨rfl, rfl, rfl, rfl, rfl, fun other hother hmask => ?_, fun _ _ => rfl, fun i => ?_,
      fun i => ?_⟩
    · obtain rfl := (hmem other).mp hother
      exact absurd hmask hselected
    · simp [hselected]
    · simp [hselected]

/-- Channels after channels. -/
theorem Collected.append {d : Driver} {some more : List (Fin 4)}
    {batch between result : SampleBatch}
    (hfirst : Collected d some batch between) (hrest : Collected d more between result) :
    Collected d (some ++ more) batch result := by
  have hsplit {P : Fin 4 → Prop} : (∃ index ∈ some ++ more, P index) ↔
      (∃ index ∈ some, P index) ∨ ∃ index ∈ more, P index := by
    simp only [List.mem_append, or_and_right, exists_or]
  refine ⟨hrest.selected.trans hfirst.selected, hrest.fresh.trans hfirst.fresh,
    hrest.overrun.trans hfirst.overrun, hrest.statusBefore.trans hfirst.statusBefore,
    hrest.statusAfter.trans hfirst.statusAfter, fun index hindex hmask => ?_,
    fun index hother => ?_, fun i => ?_, fun i => ?_⟩
  · by_cases hmore : index ∈ more
    · rw [hrest.sample index hmore (hfirst.selected ▸ hmask), hfirst.fresh, hfirst.overrun]
    · have hsome := (List.mem_append.mp hindex).resolve_right hmore
      rw [hrest.kept index fun h => hmore h.1, hfirst.sample index hsome hmask]
  · rw [hrest.kept, hfirst.kept]
    · exact fun h => hother ⟨List.mem_append_left _ h.1, h.2⟩
    · rw [hfirst.selected]
      exact fun h => hother ⟨List.mem_append_right _ h.1, h.2⟩
  · rw [hrest.valid, hfirst.valid, hfirst.selected, hfirst.fresh, hfirst.overrun, hsplit, or_assoc]
  · rw [hrest.error, hfirst.error, hfirst.selected, hfirst.fresh, hfirst.overrun, hsplit, or_assoc]

/-- **The loop**: every selected channel on its way is classified. -/
theorem foldl_addSample (d : Driver) (indices : List (Fin 4)) (batch : SampleBatch) :
    Collected d indices batch (indices.foldl d.addSample batch) := by
  induction indices generalizing batch with
  | nil =>
      exact ⟨rfl, rfl, rfl, rfl, rfl, fun _ h => (by cases h), fun _ _ => rfl, fun _ => (by simp),
        fun _ => (by simp)⟩
  | cons index rest ih => exact (addSample_collected d batch index).append (ih _)

/-- The channels of a mask that STATUS reports unread. -/
theorem unread_and (raw : U16) (mask : ChannelMask) :
    (⟨(decodeDeviceStatus raw).unreadChannels.bits &&& mask.bits⟩ : ChannelMask) =
      maskOf fun index => mask.bits.getLsbD index.val && unreadIn raw index := by
  refine eq_maskOf fun i => ?_
  rw [(decodeDeviceStatus_errors raw).2.2, BitVec.getLsbD_and, Bool.and_eq_true, statusBits,
    getLsbD_maskOf]
  simp only [Bool.and_eq_true]
  constructor
  · rintro ⟨⟨index, rfl, hunread⟩, hmask⟩
    exact ⟨index, rfl, hmask, hunread⟩
  · rintro ⟨index, rfl, hmask, hunread⟩
    exact ⟨⟨index, rfl, hunread⟩, hmask⟩

/-- A channel of a submask of the configured ones is a channel of the device. -/
theorem mem_channelIndices_of_submask {config : Config} {mask : ChannelMask} {index : Fin 4}
    (hsub : mask.bits &&& ~~~config.channels.bits = 0)
    (himplemented : config.channels.bits &&& ~~~(validChannelMask config.variant).bits = 0)
    (hvariant : config.variant = .ldc1612 ∨ config.variant = .ldc1614)
    (hindex : index ∈ maskChannels mask) : index ∈ channelIndices (channelCountFor config.variant) := by
  have hbit := getLsbD_of_and_not hsub _ (mem_maskChannels.mp hindex)
  rw [← indexBit_and, bne_iff_ne] at hbit
  have hselects : config.Selects index := hbit
  exact mem_channelIndices.mpr (hselects.implemented himplemented hvariant)

/-- **The published batch is a function of the words**, if the scratch data holds what they decode
to. -/
theorem buildAcquisition_publishes {d : Driver} {w : AcquiredWords} (completedUptimeMs : U64)
    (hbefore : d.scratchStatusBefore = decodeDeviceStatus w.before)
    (hafter : d.scratchStatusAfter = decodeDeviceStatus w.after)
    (hsamples : ∀ index ∈ maskChannels d.progress.requestedChannels,
      d.scratchSamples.get index = decodeChannelSample (w.msb index) (w.lsb index))
    (hconfigured : ∀ index ∈ maskChannels d.progress.requestedChannels,
      index ∈ channelIndices d.configuredChannelCount) :
    Publishes w d.progress.requestedChannels (d.buildAcquisition completedUptimeMs) := by
  have hloop := foldl_addSample d (channelIndices d.configuredChannelCount)
    { selectedChannels := d.progress.requestedChannels
      statusBefore := d.scratchStatusBefore
      statusAfter := d.scratchStatusAfter
      completedUptimeMs := completedUptimeMs
      configRevision := d.configRevision
      freshChannels :=
        ⟨d.scratchStatusBefore.unreadChannels.bits &&& d.progress.requestedChannels.bits⟩
      overrunChannels :=
        ⟨d.scratchStatusAfter.unreadChannels.bits &&& d.progress.requestedChannels.bits⟩ }
  rw [hbefore, hafter, unread_and, unread_and] at hloop
  have hbuilt : d.buildAcquisition completedUptimeMs =
      (channelIndices d.configuredChannelCount).foldl d.addSample _ := rfl
  rw [hbefore, hafter, unread_and, unread_and] at hbuilt
  rw [hbuilt]
  generalize (channelIndices d.configuredChannelCount).foldl d.addSample _ = batch at hloop
  obtain ⟨hselected, hfresh, hoverrun, hstatusBefore, hstatusAfter, hsample, hkept, hvalid,
    herror⟩ := hloop
  dsimp only at hselected hfresh hoverrun hstatusBefore hstatusAfter hsample hkept hvalid herror
  -- the flags of a selected sample
  have hquality : ∀ index ∈ maskChannels d.progress.requestedChannels, ∀ flag,
      hasSampleQuality (d.classifySample
        (maskOf fun index => d.progress.requestedChannels.bits.getLsbD index.val &&
          unreadIn w.before index)
        (maskOf fun index => d.progress.requestedChannels.bits.getLsbD index.val &&
          unreadIn w.after index) index).quality flag = w.flags index flag := by
    intro index hindex flag
    have hbit := mem_maskChannels.mp hindex
    refine classifySample_quality hbefore (hsamples index hindex) ?_ ?_ flag
    · rw [maskOf_bit, hbit, Bool.true_and]
    · rw [maskOf_bit, hbit, Bool.true_and]
  have hpublished : ∀ index ∈ maskChannels d.progress.requestedChannels,
      batch.channel.get index = d.classifySample
        (maskOf fun index => d.progress.requestedChannels.bits.getLsbD index.val &&
          unreadIn w.before index)
        (maskOf fun index => d.progress.requestedChannels.bits.getLsbD index.val &&
          unreadIn w.after index) index := by
    exact fun index hindex => hsample index (hconfigured index hindex) hindex
  have hzero (i : ℕ) : ({} : ChannelMask).bits.getLsbD i = false := BitVec.getLsbD_zero
  exact
    { selected := hselected
      statusBefore := hstatusBefore
      statusAfter := hstatusAfter
      fresh := hfresh
      overrun := hoverrun
      valid := by
        refine eq_maskOf fun i => ?_
        rw [hvalid, hzero]
        constructor
        · rintro (h | ⟨index, -, rfl, hmask, hflags⟩)
          · cases h
          · refine ⟨index, rfl, ?_⟩
            rw [(quality_and_flags _).2, (quality_and_flags _).1] at hflags
            simp only [hquality index hmask] at hflags
            rw [mem_maskChannels.mp hmask]
            simpa [AcquiredWords.faulty, AcquiredWords.flags] using hflags
        · rintro ⟨index, rfl, h⟩
          rw [Bool.and_eq_true, ← mem_maskChannels] at h
          refine Or.inr ⟨index, hconfigured index h.1, rfl, h.1, ?_⟩
          rw [(quality_and_flags _).2, (quality_and_flags _).1]
          simp only [hquality index h.1]
          simpa [AcquiredWords.faulty, AcquiredWords.flags] using h.2
      error := by
        refine eq_maskOf fun i => ?_
        rw [herror, hzero]
        constructor
        · rintro (h | ⟨index, -, rfl, hmask, hflags⟩)
          · cases h
          · refine ⟨index, rfl, ?_⟩
            rw [(quality_and_flags _).1] at hflags
            simp only [hquality index hmask] at hflags
            rw [Bool.and_eq_true]
            exact ⟨mem_maskChannels.mp hmask, hflags⟩
        · rintro ⟨index, rfl, h⟩
          rw [Bool.and_eq_true, ← mem_maskChannels] at h
          refine Or.inr ⟨index, hconfigured index h.1, rfl, h.1, ?_⟩
          rw [(quality_and_flags _).1, hquality index h.1, hquality index h.1, hquality index h.1,
            hquality index h.1, hquality index h.1]
          exact h.2
      raw := fun index hindex => by
        rw [hpublished index hindex]
        unfold classifySample
        rw [hsamples index hindex]
        exact ⟨rfl, rfl, decodeChannelSample_rawCount28 _ _⟩
      quality := fun index hindex flag => by
        rw [hpublished index hindex, hquality index hindex]
      other := fun index hindex => by
        rw [hkept index fun h => hindex h.2]
        show (Vector.replicate 4 ({} : ChannelSample))[index.val] = {}
        rw [Vector.getElem_replicate] }

end Ldc1614
