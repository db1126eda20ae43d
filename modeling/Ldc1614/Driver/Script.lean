import Mathlib.Tactic.IntervalCases
import Ldc1614.Arithmetic.Fields
import Ldc1614.Driver.Operations

/-! # The script of a job

What a job does to the bus is fixed when it is admitted: a list of `Stage`s, one register transfer
each. This file states the scripts of the four job kinds in closed form, independently of how the
driver steps through them, and the facts about register transfers and channel masks that following a
script needs. -/

namespace Ldc1614

open Cmd

/-! ### Register transfers -/

/-- One register transfer. -/
inductive Transfer where
  | read (reg : U8)
  | write (reg : U8) (value : U16)
  deriving DecidableEq, Repr

namespace Transfer

/-- The addressed register. -/
def reg : Transfer → U8
  | read reg => reg
  | write reg _ => reg

/-- The transfer writes. -/
def isWrite : Transfer → Bool
  | read _ => false
  | write _ _ => true

/-- The callback invocation that carries the transfer. A profile without the callback gets a dummy
address here; the driver never invokes that one. -/
def request (config : Config) (timeoutMs : U32) : Transfer → Request
  | read reg => Driver.readRequest config (config.i2cWriteRead.getD ⟨0⟩) reg timeoutMs
  | write reg value => Driver.writeRequest config (config.i2cWrite.getD ⟨0⟩) reg value timeoutMs

end Transfer

/-- The register transfer a callback invocation carries, if it carries one. -/
def Request.transfer : Request → Option Transfer
  | .i2cWrite _ _ [reg, high, low] _ _ =>
      some (.write reg ((high.setWidth 16 <<< 8) ||| low.setWidth 16))
  | .i2cWriteRead _ _ [reg] _ _ _ => some (.read reg)
  | _ => none

/-- The timeout passed with a callback invocation. -/
def Request.timeoutMs : Request → Option U32
  | .i2cWrite _ _ _ timeoutMs _ => some timeoutMs
  | .i2cWriteRead _ _ _ _ timeoutMs _ => some timeoutMs
  | .intbAsserted _ _ => none

/-- The two bytes of a word recombine to the word. -/
theorem word_bytes (value : U16) :
    (((((value >>> 8) &&& 0xFF).setWidth 8 : U8).setWidth 16 <<< 8) |||
      ((value &&& 0xFF).setWidth 8 : U8).setWidth 16 : U16) = value := by
  ext i hi
  interval_cases i <;> simp

/-- A request is for its transfer. -/
@[simp] theorem transfer_request (transfer : Transfer) (config : Config) (timeoutMs : U32) :
    (transfer.request config timeoutMs).transfer = some transfer := by
  cases transfer with
  | read reg => rfl
  | write reg value =>
      simp only [Transfer.request, Driver.writeRequest, Request.transfer, word_bytes]

/-- A request carries its timeout. -/
@[simp] theorem timeoutMs_request (transfer : Transfer) (config : Config) (timeoutMs : U32) :
    (transfer.request config timeoutMs).timeoutMs = some timeoutMs := by
  cases transfer <;> rfl

/-! ### Stages -/

/-- One transfer of a job, by its purpose. -/
inductive Stage where
  /-- The RESET_DEV write. -/
  | reset
  /-- One of the two identity reads. -/
  | identity (index : Fin 2)
  /-- One write of the profile replay. -/
  | profile (applyStep : U8)
  /-- The opening STATUS read. -/
  | statusBefore
  /-- A DATAx_MSB read. -/
  | dataMsb (index : Fin 4)
  /-- A DATAx_LSB read. -/
  | dataLsb (index : Fin 4)
  /-- The closing STATUS read. -/
  | statusAfter
  deriving DecidableEq, Repr

/-- A channel slot as a channel. -/
def channelAt (index : Fin 4) : Channel := ⟨BitVec.ofNat 8 index.val⟩

/-- The channel at an index has that number. -/
@[simp] theorem channelAt_toNat (index : Fin 4) : (channelAt index).raw.toNat = index.val := by
  revert index
  decide

namespace Stage

/-- The profile write of a replay step. -/
abbrev writeAt (config : Config) (applyStep : U8) : ConfigWrite :=
  configWriteAt config (channelCountFor config.variant) applyStep

/-- The phase, register and channel the progress shows during the transfer. -/
def position (config : Config) : Stage → JobPhase × U8 × Channel
  | reset => (.softwareReset, regResetDev, .none)
  | identity index =>
      ((Driver.identitySteps.get index).phase, (Driver.identitySteps.get index).reg, .none)
  | profile applyStep =>
      let write := writeAt config applyStep
      (write.phase, write.reg, write.channel)
  | statusBefore => (.readStatusBefore, regStatus, .none)
  | dataMsb index => (.readDataMsb, regDataMsb (channelAt index).raw, channelAt index)
  | dataLsb index => (.readDataLsb, regDataLsb (channelAt index).raw, channelAt index)
  | statusAfter => (.readStatusAfter, regStatus, .none)

/-- The register transfer of the stage. -/
def transfer (config : Config) : Stage → Transfer
  | reset => .write regResetDev maskResetDev
  | profile applyStep =>
      let write := writeAt config applyStep
      .write write.reg write.value
  | stage => .read (stage.position config).2.1

/-- The stage writes a register. -/
def isWrite : Stage → Bool
  | reset | profile _ => true
  | _ => false

end Stage

/-! ### Channel masks -/

/-- The selected channel slots, in increasing order. -/
def maskChannels (mask : ChannelMask) : List (Fin 4) :=
  (List.finRange 4).filter fun index => (mask.bits &&& indexBit index) != 0

/-- Testing a mask for the bit of a channel reads that bit. -/
theorem indexBit_and (bits : U8) (index : Fin 4) :
    ((bits &&& indexBit index) != 0) = bits.getLsbD index.val :=
  Arithmetic.Fields.has_bit bits index.val

/-- The bit of a channel is its only one. -/
theorem getLsbD_indexBit (index : Fin 4) (i : ℕ) :
    (indexBit index).getLsbD i = decide (index.val = i) := by
  rw [indexBit, ← BitVec.twoPow_eq, BitVec.getLsbD_twoPow, decide_eq_true (by omega),
    Bool.true_and]

/-- The channel bit that a slot adds to a mask. -/
theorem getLsbD_or_indexBit (bits : U8) (index : Fin 4) (i : ℕ) :
    (bits ||| indexBit index).getLsbD i = (bits.getLsbD i || decide (index.val = i)) := by
  rw [BitVec.getLsbD_or, getLsbD_indexBit]

/-- A channel slot is selected when its bit is set. -/
theorem mem_maskChannels {mask : ChannelMask} {index : Fin 4} :
    index ∈ maskChannels mask ↔ mask.bits.getLsbD index.val = true := by
  rw [maskChannels, List.mem_filter, indexBit_and]
  exact and_iff_right (List.mem_finRange index)

/-- A mask without bits outside another is a submask of it. -/
theorem getLsbD_of_and_not {a b : U8} (h : a &&& ~~~b = 0) (i : ℕ) (ha : a.getLsbD i = true) :
    b.getLsbD i = true := by
  have hi : i < 8 := BitVec.lt_of_getLsbD ha
  have := congrArg (BitVec.getLsbD · i) h
  simpa [ha, hi] using this

/-- A mask of implemented channels is one of sixteen. -/
theorem mask_lt_of_and_not {a b : U8} {variant : DeviceVariant}
    (h : ∀ i, a.getLsbD i = true → b.getLsbD i = true)
    (hb : b &&& ~~~(validChannelMask variant).bits = 0) : a < 16 := by
  have hvalid : ∀ i, (validChannelMask variant).bits.getLsbD i = true → i < 4 := by
    intro i hi
    have hlt : (validChannelMask variant).bits.toNat < 2 ^ 4 := by
      unfold validChannelMask
      split_ifs <;> decide
    by_contra hge
    rw [BitVec.getLsbD, Nat.testBit_lt_two_pow (lt_of_lt_of_le hlt
      (Nat.pow_le_pow_right (by decide) (by omega)))] at hi
    exact absurd hi (by decide)
  refine BitVec.lt_def.mpr (Nat.lt_of_not_le fun hge => ?_)
  obtain ⟨i, hi, hbit⟩ := Nat.exists_ge_and_testBit_of_ge_two_pow (n := 4) hge
  have := hvalid i (getLsbD_of_and_not hb i (h i hbit))
  omega

/-! ### Scripts -/

/-- The first identity check reads MANUFACTURER_ID. -/
abbrev manufacturerCheck : Fin 2 := 0

/-- The second identity check reads DEVICE_ID. -/
abbrev deviceCheck : Fin 2 := 1

/-- What precedes the profile writes of a replay. -/
def preamble : JobKind → List Stage
  | .initialise => [.identity manufacturerCheck, .identity deviceCheck]
  | .resetAndReapply => [.reset, .identity manufacturerCheck, .identity deviceCheck]
  | _ => []

/-- Number of profile writes. -/
def profileLength (config : Config) : ℕ :=
  (configurationTransferCount (channelCountFor config.variant)).toNat

/-- The profile writes, in order. -/
def replay (config : Config) : List Stage :=
  (List.range (profileLength config)).map fun step => .profile (BitVec.ofNat 8 step)

/-- The reads of an acquisition. -/
def acquisition (mask : ChannelMask) : List Stage :=
  .statusBefore :: (maskChannels mask).flatMap (fun index => [.dataMsb index, .dataLsb index]) ++
    [.statusAfter]

/-- The transfers of a job, in order. -/
def script (config : Config) (kind : JobKind) (mask : ChannelMask) : List Stage :=
  if kind = .acquire then acquisition mask else preamble kind ++ replay config

/-! ### The length of a script -/

/-- A replay writes three registers and five for each channel. -/
theorem configurationTransferCount_toNat (channelCount : Fin 5) :
    (configurationTransferCount channelCount).toNat = 3 + 5 * channelCount.val := by
  revert channelCount
  decide

/-- A replay has at most 23 writes. -/
theorem profileLength_le (config : Config) : profileLength config ≤ 23 := by
  rw [profileLength, configurationTransferCount_toNat]
  omega

/-- A replay has at least three writes. -/
theorem profileLength_pos (config : Config) : 3 ≤ profileLength config := by
  rw [profileLength, configurationTransferCount_toNat]
  omega

/-- The stages of a replay are its writes. -/
@[simp] theorem length_replay (config : Config) : (replay config).length = profileLength config := by
  simp [replay]

/-- The job step at which the replay starts is the length of what precedes it. -/
theorem applyOffset_eq (kind : JobKind) :
    Driver.applyOffset kind (kind = .resetAndReapply) = (preamble kind).length := by
  cases kind <;> rfl

/-- At most three transfers stand in front of a replay. -/
theorem length_preamble_le (kind : JobKind) : (preamble kind).length ≤ 3 := by
  cases kind <;> decide

/-- A per-channel write is a write. -/
@[simp] theorem channelWriteAt_valid (config : Config) (index : Fin 4) (field : ℕ) :
    (channelWriteAt config index field).valid = true := by
  unfold channelWriteAt
  split <;> rfl

/-- A replay write is valid exactly within the profile. -/
theorem writeAt_valid (config : Config) (applyStep : U8) :
    (Stage.writeAt config applyStep).valid = decide (applyStep.toNat < profileLength config) := by
  rw [profileLength, Stage.writeAt, configWriteAt]
  by_cases h : configurationTransferCount (channelCountFor config.variant) ≤ applyStep
  · rw [if_pos h]
    exact (decide_eq_false (Nat.not_lt.mpr (BitVec.le_def.mp h))).symm
  · rw [if_neg h, decide_eq_true (BitVec.lt_def.mp (BitVec.not_le.mp h))]
    split
    · rfl
    · dsimp only
      split_ifs <;> simp

/-- The replay is not empty, so a job never ends inside what precedes it. -/
theorem length_script (config : Config) {kind : JobKind} (mask : ChannelMask)
    (hkind : kind ≠ .acquire) :
    (script config kind mask).length = (preamble kind).length + profileLength config := by
  rw [script, if_neg hkind, List.length_append, length_replay]

/-! ### The registers of a replay -/

/-- The first replay write puts the device to sleep. -/
theorem writeAt_zero (config : Config) : Stage.writeAt config 0 =
    { valid := true, reg := regConfig, value := buildConfigRegister config true,
      phase := .forceSleep } := by
  have hpos : ¬ configurationTransferCount (channelCountFor config.variant) ≤ 0 := fun hle => by
    have := profileLength_pos config
    have : profileLength config ≤ 0 := BitVec.le_def.mp hle
    omega
  rw [Stage.writeAt, configWriteAt, if_neg hpos, if_pos rfl]

/-- Where a replay writes and what it shows does not depend on the values of the profile. -/
theorem configWriteAt_layout (config config' : Config) (channelCount : Fin 5) (step : U8) :
    (configWriteAt config channelCount step).reg = (configWriteAt config' channelCount step).reg ∧
      (configWriteAt config channelCount step).phase =
        (configWriteAt config' channelCount step).phase := by
  unfold configWriteAt
  dsimp only
  split
  · exact ⟨rfl, rfl⟩
  split
  · exact ⟨rfl, rfl⟩
  split
  · unfold channelWriteAt
    split <;> exact ⟨rfl, rfl⟩
  split <;> exact ⟨rfl, rfl⟩

/-- A step of a replay fits into its counter. -/
theorem toNat_ofNat_profile {config : Config} {n : ℕ} (h : n < profileLength config) :
    (BitVec.ofNat 8 n).toNat = n := by
  have hle := profileLength_le config
  rw [BitVec.toNat_ofNat, Nat.mod_eq_of_lt (by omega)]

/-- Where a replay writes and what it shows, over all variants and steps. -/
structure Laid (channelCount : Fin 5) (write : ConfigWrite) : Prop where
  writable : isConfigurationRegister write.reg = true
  common : channelCount = 2 → isLdc1614OnlyRegister write.reg = false
  notReset : write.reg ≠ regResetDev
  notMsb : write.phase ≠ .readDataMsb
  notLsb : write.phase ≠ .readDataLsb

/-- Every write of a replay is laid out so. -/
theorem replay_layout {config : Config} {applyStep : U8}
    (h : applyStep.toNat < profileLength config) :
    Laid (channelCountFor config.variant) (Stage.writeAt config applyStep) := by
  have hall : ∀ (channelCount : Fin 5) (step : Fin 23),
      step.val < (configurationTransferCount channelCount).toNat →
      let write := configWriteAt {} channelCount (BitVec.ofNat 8 step.val)
      isConfigurationRegister write.reg = true ∧
      (channelCount = 2 → isLdc1614OnlyRegister write.reg = false) ∧ write.reg ≠ regResetDev ∧
      write.phase ≠ .readDataMsb ∧ write.phase ≠ .readDataLsb := by
    decide +kernel
  have hlt : applyStep.toNat < 23 := lt_of_lt_of_le h (profileLength_le config)
  have hfact := hall (channelCountFor config.variant) ⟨applyStep.toNat, hlt⟩ h
  simp only [BitVec.ofNat_toNat, BitVec.setWidth_eq] at hfact
  rw [(configWriteAt_layout {} config _ _).1, (configWriteAt_layout {} config _ _).2] at hfact
  obtain ⟨hwritable, hcommon, hreset, hmsb, hlsb⟩ := hfact
  exact ⟨hwritable, hcommon, hreset, hmsb, hlsb⟩

/-- No register is written twice in a replay. -/
theorem replay_injective {config : Config} {m n : U8} (hm : m.toNat < profileLength config)
    (hn : n.toNat < profileLength config)
    (h : (Stage.writeAt config m).reg = (Stage.writeAt config n).reg) : m = n := by
  have hall : ∀ (channelCount : Fin 5) (i j : Fin 23),
      i.val < (configurationTransferCount channelCount).toNat →
      j.val < (configurationTransferCount channelCount).toNat →
      (configWriteAt {} channelCount (BitVec.ofNat 8 i.val)).reg =
        (configWriteAt {} channelCount (BitVec.ofNat 8 j.val)).reg → i = j := by
    decide +kernel
  have hlt {k : U8} (hk : k.toNat < profileLength config) : k.toNat < 23 :=
    lt_of_lt_of_le hk (profileLength_le config)
  have hfact := hall (channelCountFor config.variant) ⟨m.toNat, hlt hm⟩ ⟨n.toNat, hlt hn⟩ hm hn
  simp only [BitVec.ofNat_toNat, BitVec.setWidth_eq] at hfact
  rw [(configWriteAt_layout {} config _ m).1, (configWriteAt_layout {} config _ n).1] at hfact
  have hval : m.toNat = n.toNat := congrArg (fun i : Fin 23 => i.val) (hfact h)
  exact BitVec.eq_of_toNat_eq hval

/-! ### The transfers of the stages -/

/-- Only an identity check reads an identity register. -/
theorem stage_of_identity {config : Config} {stage : Stage} {index : Fin 2}
    (h : stage.transfer config = .read (Driver.identitySteps.get index).reg) :
    stage = .identity index := by
  have hidentity : ∀ i j : Fin 2, (Driver.identitySteps.get i).reg =
      (Driver.identitySteps.get j).reg → i = j := by decide
  have hstatus : ∀ i : Fin 2, regStatus ≠ (Driver.identitySteps.get i).reg := by decide
  have hdata : ∀ (i : Fin 2) (j : Fin 4),
      regDataMsb (channelAt j).raw ≠ (Driver.identitySteps.get i).reg ∧
      regDataLsb (channelAt j).raw ≠ (Driver.identitySteps.get i).reg := by decide
  cases stage with
  | reset => cases h
  | profile applyStep => cases h
  | identity other => exact congrArg _ (hidentity other index (Transfer.read.inj h))
  | statusBefore => exact absurd (Transfer.read.inj h) (hstatus index)
  | statusAfter => exact absurd (Transfer.read.inj h) (hstatus index)
  | dataMsb channel => exact absurd (Transfer.read.inj h) (hdata index channel).1
  | dataLsb channel => exact absurd (Transfer.read.inj h) (hdata index channel).2

/-- The stages that write. -/
theorem stage_of_write {config : Config} {stage : Stage} {reg : U8} {value : U16}
    (h : stage.transfer config = .write reg value) :
    (stage = .reset ∧ reg = regResetDev ∧ value = maskResetDev) ∨
    ∃ applyStep, stage = .profile applyStep ∧ reg = (Stage.writeAt config applyStep).reg ∧
      value = (Stage.writeAt config applyStep).value := by
  cases stage with
  | reset =>
      cases h
      exact Or.inl ⟨rfl, rfl, rfl⟩
  | profile applyStep =>
      cases h
      exact Or.inr ⟨applyStep, rfl, rfl, rfl⟩
  | _ => cases h

/-- A stage writes when its transfer does. -/
@[simp] theorem isWrite_transfer (config : Config) (stage : Stage) :
    (stage.transfer config).isWrite = stage.isWrite := by
  cases stage <;> rfl

/-! ### The order of a replay -/

/-- The stages before a replay, by their position. -/
theorem preamble_eq_some {kind : JobKind} {stage : Stage} {step : ℕ}
    (h : (preamble kind)[step]? = some stage) :
    (kind = .resetAndReapply ∧ step = 0 ∧ stage = .reset) ∨
    ∃ index : Fin 2, (preamble kind).length ≠ 0 ∧
      step = (preamble kind).length - 2 + index.val ∧ stage = .identity index := by
  cases kind with
  | initialise =>
      match step, h with
      | 0, h => exact Or.inr ⟨0, by decide, rfl, (Option.some.inj h).symm⟩
      | 1, h => exact Or.inr ⟨1, by decide, rfl, (Option.some.inj h).symm⟩
  | resetAndReapply =>
      match step, h with
      | 0, h => exact Or.inl ⟨rfl, rfl, (Option.some.inj h).symm⟩
      | 1, h => exact Or.inr ⟨0, by decide, rfl, (Option.some.inj h).symm⟩
      | 2, h => exact Or.inr ⟨1, by decide, rfl, (Option.some.inj h).symm⟩
  | none => simp [preamble] at h
  | applyConfig => simp [preamble] at h
  | acquire => simp [preamble] at h

/-- The writes of a replay, by their position. -/
theorem replay_eq_some {config : Config} {stage : Stage} {step : ℕ} :
    (replay config)[step]? = some stage ↔
      step < profileLength config ∧ stage = .profile (BitVec.ofNat 8 step) := by
  rw [replay, List.getElem?_map]
  rcases Nat.lt_or_ge step (profileLength config) with hlt | hge
  · rw [List.getElem?_range hlt]
    exact ⟨fun h => ⟨hlt, (Option.some.inj h).symm⟩, fun h => congrArg some h.2.symm⟩
  · rw [List.getElem?_eq_none (by simpa using hge)]
    exact ⟨fun h => absurd h (by simp), fun h => absurd h.1 (by omega)⟩

/-- The stage behind a stage of a replay. -/
inductive Follows : Stage → Stage → Prop
  | afterReset : Follows .reset (.identity manufacturerCheck)
  | afterManufacturer : Follows (.identity manufacturerCheck) (.identity deviceCheck)
  | afterDevice : Follows (.identity deviceCheck) (.profile 0)
  | afterWrite (applyStep : U8) (h : applyStep + 1 ≠ 0) :
      Follows (.profile applyStep) (.profile (applyStep + 1))

/-- Two stages of a replay job, one behind the other, follow each other. -/
theorem follows_of_script {config : Config} {kind : JobKind} {mask : ChannelMask} {n : ℕ}
    {stage next : Stage} (hkind : kind ≠ .acquire) (h : (script config kind mask)[n]? = some stage)
    (hnext : (script config kind mask)[n + 1]? = some next) : Follows stage next := by
  rw [script, if_neg hkind] at h hnext
  have hwrite (m : ℕ) (hm : m < profileLength config) :
      (replay config)[m]? = some (.profile (BitVec.ofNat 8 m)) := replay_eq_some.mpr ⟨hm, rfl⟩
  have hfirst := hwrite 0 (by have := profileLength_pos config; omega)
  rcases Nat.lt_or_ge n (preamble kind).length with hlt | hge
  · rw [List.getElem?_append_left hlt] at h
    cases kind with
    | initialise =>
        match n, hlt with
        | 0, _ => cases h; cases hnext; exact .afterManufacturer
        | 1, _ => cases h; obtain rfl := Option.some.inj (hfirst.symm.trans hnext); exact .afterDevice
    | resetAndReapply =>
        match n, hlt with
        | 0, _ => cases h; cases hnext; exact .afterReset
        | 1, _ => cases h; cases hnext; exact .afterManufacturer
        | 2, _ => cases h; obtain rfl := Option.some.inj (hfirst.symm.trans hnext); exact .afterDevice
    | _ => exact absurd hlt (by simp [preamble])
  · rw [List.getElem?_append_right hge] at h
    rw [List.getElem?_append_right (by omega),
      show n + 1 - (preamble kind).length = n - (preamble kind).length + 1 by omega] at hnext
    obtain ⟨-, rfl⟩ := replay_eq_some.mp h
    obtain ⟨hlast, rfl⟩ := replay_eq_some.mp hnext
    have hsucc : BitVec.ofNat 8 (n - (preamble kind).length + 1) =
        BitVec.ofNat 8 (n - (preamble kind).length) + 1 := by
      rw [BitVec.ofNat_add]
      rfl
    rw [hsucc]
    refine .afterWrite _ fun hzero => ?_
    rw [← hsucc] at hzero
    have hle := profileLength_le config
    have hnat : (n - (preamble kind).length + 1) % 256 = 0 := congrArg BitVec.toNat hzero
    omega

/-! ### The order of an acquisition -/

/-- The stage that reads a channel, or the closing STATUS read when there is none. -/
def channelStage (channel : Channel) : Stage :=
  if h : channel.raw.toNat < 4 then .dataMsb ⟨channel.raw.toNat, h⟩ else .statusAfter

/-- The channel at an index is a channel. -/
theorem channelAt_ne_none (index : Fin 4) : channelAt index ≠ Channel.none := by
  revert index
  decide

/-- The stage of a channel reads its upper word. -/
@[simp] theorem channelStage_channelAt (index : Fin 4) :
    channelStage (channelAt index) = .dataMsb index := by
  have hlt : (channelAt index).raw.toNat < 4 := by
    rw [channelAt_toNat]
    exact index.isLt
  rw [channelStage, dif_pos hlt]
  exact congrArg _ (Fin.ext (channelAt_toNat index))

/-- Without a channel left STATUS is read again. -/
@[simp] theorem channelStage_none : channelStage Channel.none = .statusAfter := by
  decide

/-- The stage behind a stage of an acquisition, as the driver finds it. -/
def nextRead (mask : ChannelMask) : Stage → Option Stage
  | .statusBefore => some (channelStage (nextChannel mask .none))
  | .dataMsb index => some (.dataLsb index)
  | .dataLsb index => some (channelStage (nextChannel mask (channelAt index)))
  | _ => none

/-- The channel search ends at a channel slot or at no channel. -/
theorem nextChannel_cases (mask : ChannelMask) (after : Channel) :
    (∃ index, nextChannel mask after = channelAt index) ∨ nextChannel mask after = .none := by
  rw [nextChannel]
  split
  · exact Or.inl ⟨_, rfl⟩
  · exact Or.inr rfl

/-- A mask byte below 16 is one of the sixteen. -/
theorem ChannelMask.eq_ofNat {mask : ChannelMask} (h : mask.bits < 16) :
    ∃ n : Fin 16, mask = ⟨BitVec.ofNat 8 n.val⟩ :=
  ⟨⟨mask.bits.toNat, BitVec.lt_def.mp h⟩, by simp⟩

/-- The channel search walks through the acquisition in order. -/
theorem nextRead_acquisition {mask : ChannelMask} (hmask : mask.bits < 16) {k : ℕ} {stage : Stage}
    (h : (acquisition mask)[k]? = some stage) :
    nextRead mask stage = (acquisition mask)[k + 1]? := by
  have hall : ∀ n : Fin 16, (acquisition ⟨BitVec.ofNat 8 n.val⟩).length ≤ 10 ∧ ∀ k : Fin 10,
      ((acquisition ⟨BitVec.ofNat 8 n.val⟩)[k.val]?).bind (nextRead ⟨BitVec.ofNat 8 n.val⟩) =
      (acquisition ⟨BitVec.ofNat 8 n.val⟩)[k.val + 1]? := by decide +kernel
  obtain ⟨n, rfl⟩ := ChannelMask.eq_ofNat hmask
  have hk : k < 10 := lt_of_lt_of_le (List.getElem?_eq_some_iff.mp h).1 (hall n).1
  have hstep := (hall n).2 ⟨k, hk⟩
  rwa [h] at hstep

/-- An acquisition reads STATUS twice and two words of each selected channel. -/
theorem length_acquisition {mask : ChannelMask} (hmask : mask.bits < 16) :
    (2 + 2 * popcount mask).toNat = (acquisition mask).length := by
  have hall : ∀ n : Fin 16, (2 + 2 * popcount ⟨BitVec.ofNat 8 n.val⟩).toNat =
      (acquisition ⟨BitVec.ofNat 8 n.val⟩).length := by decide +kernel
  obtain ⟨n, rfl⟩ := ChannelMask.eq_ofNat hmask
  exact hall n

/-- The stages of an acquisition. -/
theorem mem_acquisition {mask : ChannelMask} {stage : Stage} :
    stage ∈ acquisition mask ↔ stage = .statusBefore ∨ stage = .statusAfter ∨
      ∃ index ∈ maskChannels mask, stage = .dataMsb index ∨ stage = .dataLsb index := by
  simp only [acquisition, List.mem_append, List.mem_cons, List.mem_flatMap, List.not_mem_nil,
    or_false]
  exact or_assoc.trans (or_congr_right or_comm)

/-! ### Trust at a stage -/

/-- The stage reads a channel or the status. -/
def Stage.isAcquire : Stage → Bool
  | .statusBefore | .dataMsb _ | .dataLsb _ | .statusAfter => true
  | _ => false

/-- The stages of an acquisition are the acquiring ones. -/
theorem isAcquire_of_script {config : Config} {kind : JobKind} {mask : ChannelMask}
    {stage : Stage} (h : stage ∈ script config kind mask) :
    stage.isAcquire = decide (kind = .acquire) := by
  by_cases hkind : kind = .acquire
  · rw [script, if_pos hkind] at h
    rw [decide_eq_true hkind]
    rcases mem_acquisition.mp h with rfl | rfl | ⟨index, -, rfl | rfl⟩ <;> rfl
  · rw [script, if_neg hkind] at h
    rw [decide_eq_false hkind]
    rcases List.mem_append.mp h with h | h
    · obtain ⟨n, hn⟩ := List.getElem?_of_mem h
      rcases preamble_eq_some hn with ⟨-, -, rfl⟩ | ⟨index, -, -, rfl⟩ <;> rfl
    · obtain ⟨n, hn⟩ := List.getElem?_of_mem h
      obtain ⟨-, rfl⟩ := replay_eq_some.mp hn
      rfl

/-- The applied states a job may find at a stage. -/
def Stage.Trusts : Stage → AppliedConfigState → Prop
  | .reset, state => state ≠ .applying
  | .identity _, state => state ≠ .applying
  | .profile applyStep, state =>
      if applyStep = 0 then state ≠ .unknown ∧ state ≠ .applying else state = .applying
  | _, state => state = .appliedActive

/-- The first write of a replay wants an established identity. -/
theorem Stage.trusts_profile_zero {state : AppliedConfigState} :
    (Stage.profile 0).Trusts state ↔ state ≠ .unknown ∧ state ≠ .applying := by
  simp [Stage.Trusts]

/-- An acquisition wants the applied profile, awake. -/
theorem Stage.trusts_of_isAcquire {stage : Stage} {state : AppliedConfigState}
    (h : stage.isAcquire = true) : stage.Trusts state ↔ state = .appliedActive := by
  cases stage <;> first | exact Iff.rfl | cases h

end Ldc1614
