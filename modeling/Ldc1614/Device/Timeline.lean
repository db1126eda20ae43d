import Mathlib.Data.Fintype.Basic
import Mathlib.Tactic.FinCases
import Mathlib.Tactic.IntervalCases
import Ldc1614.Device.Conversions
import Ldc1614.Interaction.History

/-! # The life of the device

What happens to the behavioural device, in order: its exchanges with the driver, and conversions at
any time between them. The evidence the device keeps is a function of that history: a channel is
unread if it has converted since its flag was last consumed, and its live words are those of its
last conversion since they were last cleared. -/

namespace Ldc1614

open Arithmetic Cmd Driver Interaction

/-! ### Ticks -/

/-- One event in the life of the device. -/
inductive Tick where
  /-- An exchange during a call, with the failure forced on it, if any. -/
  | exchange (call : Call) (event : Event) (forced : Option ForcedFailure)
  /-- A call returned. -/
  | ret (call : Call) (output : Output)
  /-- A conversion completed. -/
  | conversion (conversion : Conversion)

/-- The mark of a tick on the timeline of the driver: conversions leave none. -/
def Tick.mark : Tick → Option Mark
  | .exchange call event _ => some (.bus call event)
  | .ret call output => some (.ret call output)
  | .conversion _ => none

/-- One step of the device. -/
inductive DeviceTick (dev : FakeLdc1614Device) : Tick → FakeLdc1614Device → Prop
  | exchange {call request reply forced dev'} (h : dev.serve request forced = (dev', reply)) :
      DeviceTick dev (.exchange call (request, reply) forced) dev'
  | ret {call output} : DeviceTick dev (.ret call output) dev
  | conversion (conversion : Conversion) :
      DeviceTick dev (.conversion conversion) (dev.injectConversion conversion)

/-- The life of the device along these ticks. -/
abbrev DeviceLife : FakeLdc1614Device → List Tick → FakeLdc1614Device → Prop := Path DeviceTick

namespace Tick

/-- The register write that took effect in a device at this address. -/
def stored (address : U8) : Tick → Option (U8 × U16)
  | .exchange _ (.i2cWrite _ target [reg, high, low] _ _, _) forced =>
      if target = address && forced.all (·.commitWriteBeforeFailure) then
        some (reg, (high.setWidth 16 <<< 8) ||| low.setWidth 16)
      else none
  | _ => none

/-- The register a read of a device at this address has completed. -/
def completed (address : U8) : Tick → Option U8
  | .exchange _ (.i2cWriteRead _ target [reg] rxLength _ _, _) none =>
      if target = address && rxLength = 2 then some reg else none
  | _ => none

end Tick

/-- The channel has converted. -/
def Converts (c : Fin 4) (tick : Tick) : Prop :=
  ∃ conversion, tick = .conversion conversion ∧ conversion.ch.toNat = c.val

/-- The write enters sleep mode or resets the device. -/
def ClearingWrite (reg : U8) (value : U16) : Prop :=
  reg = regResetDev ∧ value &&& maskResetDev ≠ 0 ∨ reg = regConfig ∧ value &&& maskCfgSleepModeEn ≠ 0

/-- Sleep mode was entered, or the device reset: all words and flags are cleared. -/
def Clears (address : U8) (tick : Tick) : Prop :=
  ∃ reg value, tick.stored address = some (reg, value) ∧ ClearingWrite reg value

/-- The unread flag of the channel was cleared. -/
def Consumes (address : U8) (c : Fin 4) (tick : Tick) : Prop :=
  Clears address tick ∨ tick.completed address = some regStatus ∨
    tick.completed address = some (regDataMsb (channelAt c).raw)

/-- The channel has converted and was not consumed since. -/
def Unread (address : U8) (c : Fin 4) : List Tick → Prop :=
  Since (fun _ => Converts c) (Consumes address c)

/-- The conversion is the last one of its channel, and the words were not cleared since. -/
def LastConversion (address : U8) (c : Fin 4) (conversion : Conversion) : List Tick → Prop :=
  Since (fun _ tick => tick = .conversion conversion ∧ conversion.ch.toNat = c.val)
    fun tick => Converts c tick ∨ Clears address tick

/-- The code the channel holds: that of its last conversion, or zero when there was none since its
words were cleared. -/
def HoldsCode (address : U8) (c : Fin 4) (past : List Tick) (code : ℕ) : Prop :=
  (∃ conversion, LastConversion address c conversion past ∧
      code = conversion.raw28.toNat % 2 ^ 28) ∨
    ¬ Since (fun _ => Converts c) (Clears address) past ∧ code = 0

/-- The last conversion of the channel carried this DATA error, and it was not read since. -/
def DataError (address : U8) (c : Fin 4) (i : ℕ) : List Tick → Prop :=
  Since (fun _ tick => ∃ conversion, tick = .conversion conversion ∧
      conversion.ch.toNat = c.val ∧ conversion.dataErrors.getLsbD i = true)
    fun tick => Converts c tick ∨ Clears address tick ∨
      tick.completed address = some (regDataMsb (channelAt c).raw)

/-- The channel had a conversion with this STATUS error since STATUS was last cleared. -/
def StatusError (address : U8) (c : Fin 4) (i : ℕ) : List Tick → Prop :=
  Since (fun _ tick => ∃ conversion, tick = .conversion conversion ∧
      conversion.ch.toNat = c.val ∧ conversion.statusErrors.getLsbD i = true)
    fun tick => Clears address tick ∨ tick.completed address = some regStatus

/-- The words of a channel are those the history says: the code, and the four error bits above. -/
structure HoldsWords (address : U8) (c : Fin 4) (past : List Tick) (msb lsb : U16) : Prop where
  code : HoldsCode address c past (conversionCode msb lsb)
  errors : ∀ i, 12 ≤ i → i < 16 → (msb.getLsbD i = true ↔ DataError address c i past)

/-- The recorded STATUS errors are errors of the channel they name. -/
structure Records (address : U8) (past : List Tick) (sticky : U16) (channel : U8) : Prop where
  errors : sticky &&& ~~~statusErrorMask = 0
  blamed : ∀ i, sticky.getLsbD i = true →
    ∃ c : Fin 4, channel.toNat = c.val ∧ StatusError address c i past

/-! ### What the device shows -/

section Evidence

variable {address : U8} {past : List Tick} {tick : Tick} {dev dev' : FakeLdc1614Device} {c : Fin 4}

/-- The bits of a conditional mask. -/
theorem getLsbD_setBits (value mask : U16) (condition : Bool) (i : ℕ) :
    (setBits value condition mask).getLsbD i =
      (value.getLsbD i || condition && mask.getLsbD i) := by
  unfold setBits
  cases condition with
  | false => simp
  | true => simp

/-- The recorded errors have error bits only. -/
theorem getLsbD_sticky (h : dev.stickyStatusErrors &&& ~~~statusErrorMask = 0) {i : ℕ}
    (hmask : statusErrorMask.getLsbD i = false) : dev.stickyStatusErrors.getLsbD i = false := by
  by_cases hword : i < 16
  · have hbit := congrArg (fun word : U16 => word.getLsbD i) h
    have hzero : (0 : U16).getLsbD i = false := BitVec.getLsbD_zero
    simpa only [BitVec.getLsbD_and, BitVec.getLsbD_not, hmask, hword, decide_true, Bool.not_false,
      Bool.and_true, hzero] using hbit
  · exact BitVec.getLsbD_of_ge _ _ (not_lt.mp hword)

/-- The unread bits are apart from DRDY, from the errors and from each other. -/
theorem unreadStatusBit_apart (c : Fin 4) : maskStatusDrdy.getLsbD (3 - c.val) = false ∧
    statusErrorMask.getLsbD (3 - c.val) = false ∧
      ∀ ch, (FakeLdc1614Device.unreadStatusBit ch).getLsbD (3 - c.val) = decide (ch = c) := by
  revert c
  decide

/-- The unread bits of STATUS are the unread flags, as long as only errors are recorded. -/
theorem unreadIn_statusValue (h : dev.stickyStatusErrors &&& ~~~statusErrorMask = 0) (c : Fin 4) :
    unreadIn dev.statusValue c = dev.unreadMask.getLsbD c.val := by
  obtain ⟨hdrdy, herrors, hflag⟩ := unreadStatusBit_apart c
  have hsticky := getLsbD_sticky h herrors
  have hchannel : (dev.errorChannel.setWidth 16 <<< bitStatusErrChan : U16).getLsbD (3 - c.val) =
      false := by
    rw [BitVec.getLsbD_shiftLeft]
    simp [bitStatusErrChan, show 3 - c.val < 14 by omega]
  -- the error part of the word does not reach the unread bits
  have hbase : (if dev.stickyStatusErrors != 0 || dev.dataReadyLatched then
      dev.stickyStatusErrors ||| (dev.errorChannel.setWidth 16 <<< bitStatusErrChan)
      else dev.stickyStatusErrors).getLsbD (3 - c.val) = false := by
    split
    · rw [BitVec.getLsbD_or, hsticky, hchannel, Bool.or_false]
    · exact hsticky
  have hchannels : List.finRange 4 = [0, 1, 2, 3] := rfl
  rw [unreadIn, FakeLdc1614Device.statusValue, hchannels]
  simp only [List.foldl_cons, List.foldl_nil, getLsbD_setBits, hbase, hdrdy, hflag, indexBit_and,
    Bool.and_false, Bool.or_false, Bool.false_or]
  fin_cases c <;> simp

/-- The upper byte of STATUS: the recorded errors, and the channel they are of. -/
theorem getLsbD_statusValue {i : ℕ} (hlow : 8 ≤ i) (hhigh : i < 16) :
    dev.statusValue.getLsbD i = (dev.stickyStatusErrors.getLsbD i ||
      (dev.stickyStatusErrors != 0 || dev.dataReadyLatched) && decide (14 ≤ i) &&
        dev.errorChannel.getLsbD (i - 14)) := by
  have hbelow : maskStatusDrdy.getLsbD i = false ∧
      ∀ ch, (FakeLdc1614Device.unreadStatusBit ch).getLsbD i = false := by
    interval_cases i <;> decide
  obtain ⟨hdrdy, hunread⟩ := hbelow
  have hchannels : List.finRange 4 = [0, 1, 2, 3] := rfl
  rw [FakeLdc1614Device.statusValue, hchannels]
  simp only [List.foldl_cons, List.foldl_nil, getLsbD_setBits, hdrdy, hunread, Bool.and_false,
    Bool.or_false]
  have hshift : (!decide (i < 14)) = decide (14 ≤ i) := by
    rw [← decide_not, decide_eq_decide]
    exact not_lt
  cases hevent : dev.stickyStatusErrors != 0 || dev.dataReadyLatched with
  | false => simp
  | true => simp [bitStatusErrChan, hhigh, hshift]

end Evidence

/-! ### What an exchange does -/

namespace FakeLdc1614Device

variable {dev dev' : FakeLdc1614Device}

/-- Two devices hold the same live words, unread flags and recorded errors. -/
structure SameEvidence (dev dev' : FakeLdc1614Device) : Prop where
  acceptedAddress : dev'.acceptedAddress = dev.acceptedAddress
  liveMsb : dev'.liveMsb = dev.liveMsb
  liveLsb : dev'.liveLsb = dev.liveLsb
  unreadMask : dev'.unreadMask = dev.unreadMask
  stickyStatusErrors : dev'.stickyStatusErrors = dev.stickyStatusErrors
  errorChannel : dev'.errorChannel = dev.errorChannel

/-- Reading a register changes nothing but the latched words. -/
theorem readValue_latches (dev : FakeLdc1614Device) (targetReg : U8) :
    SameEvidence dev (dev.readValue targetReg).1 := by
  unfold readValue
  split
  · exact ⟨rfl, rfl, rfl, rfl, rfl, rfl⟩
  · split
    · exact ⟨rfl, rfl, rfl, rfl, rfl, rfl⟩
    · split
      · exact ⟨rfl, rfl, rfl, rfl, rfl, rfl⟩
      · exact ⟨rfl, rfl, rfl, rfl, rfl, rfl⟩

/-- What an exchange does: a write that takes effect is applied, a read that completes has its side
effects, and everything else keeps the evidence. -/
inductive Served (dev dev' : FakeLdc1614Device) (reply : Reply) (stored : Option (U8 × U16))
    (completed : Option U8) : Prop
  | write (reg : U8) (value : U16) (hstored : stored = some (reg, value)) (hread : completed = none)
      (hdev : dev' = dev.applyWrite reg value)
  | read (reg : U8) (hstored : stored = none) (hread : completed = some reg)
      (hdev : dev' = (dev.readValue reg).1.applyReadSideEffects reg)
      (hword : reply.word = (dev.readValue reg).2)
  | none (hstored : stored = none) (hread : completed = none) (hdev : SameEvidence dev dev')

theorem SameEvidence.refl (dev : FakeLdc1614Device) : SameEvidence dev dev :=
  ⟨rfl, rfl, rfl, rfl, rfl, rfl⟩

/-- A write callback. -/
theorem served_write {call : Call} {callback : Callback} {address : U8} {data : List U8}
    {timeoutMs : U32} {user : Context} {reply : Reply} {forced : Option ForcedFailure}
    (h : dev.write address data forced = (dev', reply)) :
    Served dev dev' reply
      ((Tick.exchange call (.i2cWrite callback address data timeoutMs user, reply) forced).stored
        dev.acceptedAddress) none := by
  unfold write at h
  split at h
  · next reg high low =>
      dsimp only [Tick.stored]
      by_cases haddress : address = dev.acceptedAddress
      · rw [if_neg (not_not.mpr haddress)] at h
        cases forced with
        | none =>
            obtain ⟨rfl, rfl⟩ := Prod.mk.inj h
            exact .write reg _ (by simp [haddress]) rfl rfl
        | some failure =>
            obtain ⟨rfl, rfl⟩ := Prod.mk.inj h
            cases hcommit : failure.commitWriteBeforeFailure with
            | true => exact .write reg _ (by simp [haddress, hcommit]) rfl rfl
            | false => exact .none (by simp [hcommit]) rfl (.refl dev)
      · rw [if_pos haddress] at h
        obtain ⟨rfl, rfl⟩ := Prod.mk.inj h
        exact .none (by simp [haddress]) rfl (.refl dev)
  · next hshape =>
      obtain ⟨rfl, rfl⟩ := Prod.mk.inj h
      refine .none ?_ rfl (.refl dev)
      unfold Tick.stored
      split
      · next heq =>
          cases heq
          exact absurd rfl (hshape _ _ _)
      · rfl

/-- A read callback. -/
theorem served_writeRead {call : Call} {callback : Callback} {address : U8} {txData : List U8}
    {rxLength : ℕ} {timeoutMs : U32} {user : Context} {reply : Reply}
    {forced : Option ForcedFailure}
    (h : dev.writeRead address txData rxLength forced = (dev', reply)) :
    Served dev dev' reply none
      ((Tick.exchange call (.i2cWriteRead callback address txData rxLength timeoutMs user, reply)
        forced).completed dev.acceptedAddress) := by
  unfold writeRead at h
  split at h
  · next reg =>
      by_cases hlength : rxLength = 2
      · rw [if_neg (not_not.mpr hlength)] at h
        by_cases haddress : address = dev.acceptedAddress
        · rw [if_neg (not_not.mpr haddress)] at h
          cases forced with
          | none =>
              obtain ⟨rfl, rfl⟩ := Prod.mk.inj h
              exact .read reg rfl (by simp [Tick.completed, hlength, haddress]) rfl (word_bytes _)
          | some failure =>
              obtain ⟨rfl, rfl⟩ := Prod.mk.inj h
              exact .none rfl rfl (readValue_latches dev reg)
        · rw [if_pos haddress] at h
          obtain ⟨rfl, rfl⟩ := Prod.mk.inj h
          refine .none rfl ?_ (.refl dev)
          cases forced <;> simp [Tick.completed, haddress]
      · rw [if_pos hlength] at h
        obtain ⟨rfl, rfl⟩ := Prod.mk.inj h
        refine .none rfl ?_ (.refl dev)
        cases forced <;> simp [Tick.completed, hlength]
  · next hshape =>
      obtain ⟨rfl, rfl⟩ := Prod.mk.inj h
      refine .none rfl ?_ (.refl dev)
      unfold Tick.completed
      split
      · next heq =>
          cases heq
          exact absurd rfl (hshape _)
      · rfl

/-- **Every exchange does one of the three.** -/
theorem serve_served (call : Call) {request : Request} {reply : Reply}
    {forced : Option ForcedFailure} (h : dev.serve request forced = (dev', reply)) :
    Served dev dev' reply ((Tick.exchange call (request, reply) forced).stored dev.acceptedAddress)
      ((Tick.exchange call (request, reply) forced).completed dev.acceptedAddress) := by
  cases request with
  | i2cWrite callback address data timeoutMs user => exact served_write h
  | i2cWriteRead callback address txData rxLength timeoutMs user => exact served_writeRead h
  | intbAsserted callback user =>
      obtain ⟨rfl, rfl⟩ := Prod.mk.inj h
      exact .none rfl rfl (.refl dev)

end FakeLdc1614Device

/-! ### The evidence is a function of the history -/

/-- What a device behind this history shows. -/
structure Evidenced (address : U8) (past : List Tick) (dev : FakeLdc1614Device) : Prop where
  accepts : dev.acceptedAddress = address
  unread : ∀ c : Fin 4, dev.unreadMask.getLsbD c.val = true ↔ Unread address c past
  words : ∀ c, HoldsWords address c past (dev.liveMsb c) (dev.liveLsb c)
  records : Records address past dev.stickyStatusErrors dev.errorChannel

section Codes

/-- The code has the low twelve bits of the MSB word. -/
theorem conversionCode_congr {msb msb' : U16} (h : msb.setWidth 12 = msb'.setWidth 12)
    (lsb : U16) : conversionCode msb lsb = conversionCode msb' lsb := by
  have hlow := congrArg (fun word : BitVec 12 => word.toNat) h
  simp only [BitVec.toNat_setWidth] at hlow
  rw [conversionCode, conversionCode, show 4096 = 2 ^ 12 from rfl, hlow]

/-- The error bits of an MSB word are not part of the code. -/
theorem conversionCode_and_not (msb lsb : U16) :
    conversionCode (msb &&& ~~~dataErrorMask) lsb = conversionCode msb lsb := by
  have hmask : (~~~dataErrorMask).setWidth 12 = BitVec.allOnes 12 := rfl
  refine conversionCode_congr ?_ lsb
  rw [BitVec.setWidth_and, hmask, BitVec.and_allOnes]

/-- The code of the words a conversion leaves is the code it was given. -/
theorem conversionCode_of_raw28 (raw28 : U32) (dataErrors : U16) :
    conversionCode
        ((((raw28 &&& 0x0FFFFFFF) >>> 16) &&& 0x0FFF).setWidth 16 ||| (dataErrors &&& dataErrorMask))
        (((raw28 &&& 0x0FFFFFFF) &&& 0xFFFF).setWidth 16) =
      raw28.toNat % 2 ^ 28 := by
  have herrors (high : U16) :
      (high ||| (dataErrors &&& dataErrorMask)).setWidth 12 = high.setWidth 12 := by
    have hmask : dataErrorMask.setWidth 12 = 0#12 := rfl
    rw [BitVec.setWidth_or, BitVec.setWidth_and, hmask, BitVec.and_zero, BitVec.or_zero]
  have hmasks : (0x0FFFFFFF : U32).toNat = 2 ^ 28 - 1 ∧ (0x0FFF : U32).toNat = 2 ^ 12 - 1 ∧
      (0xFFFF : U32).toNat = 2 ^ 16 - 1 := ⟨rfl, rfl, rfl⟩
  obtain ⟨hraw, hhigh, hlow⟩ := hmasks
  rw [conversionCode_congr (herrors _), conversionCode]
  simp only [BitVec.toNat_setWidth, BitVec.toNat_and, BitVec.toNat_ushiftRight, hraw, hhigh, hlow,
    Nat.and_two_pow_sub_one_eq_mod, Nat.shiftRight_eq_div_pow]
  omega

end Codes

section Histories

variable {address : U8} {past : List Tick} {tick : Tick} {c : Fin 4} {msb lsb sticky : U16}
  {channel : U8} {conversion : Conversion}

/-- A conversion converts its channel. -/
theorem converts_conversion : Converts c (.conversion conversion) ↔ conversion.ch.toNat = c.val := by
  constructor
  · rintro ⟨other, h, hch⟩
    obtain rfl := Tick.conversion.inj h
    exact hch
  · exact fun hch => ⟨conversion, rfl, hch⟩

/-- An exchange is no conversion. -/
theorem not_converts_exchange {call : Call} {event : Event} {forced : Option ForcedFailure}
    (c : Fin 4) : ¬ Converts c (.exchange call event forced) := by
  rintro ⟨conversion, h, -⟩
  exact nomatch h

/-- A write is no conversion. -/
theorem not_converts_of_stored {reg : U8} {value : U16} (h : tick.stored address = some (reg, value)) :
    ¬ Converts c tick := by
  rintro ⟨conversion, rfl, -⟩
  exact nomatch h

/-- A conversion consumes nothing. -/
theorem not_consumes_conversion (c : Fin 4) : ¬ Consumes address c (.conversion conversion) := by
  rintro (⟨reg, value, h, -⟩ | h | h)
  · exact nomatch h
  · exact nomatch h
  · exact nomatch h

/-- A channel that does not convert stays unread unless it is consumed. -/
theorem unread_snoc (h : ¬ Converts c tick) :
    Unread address c (past ++ [tick]) ↔ Unread address c past ∧ ¬ Consumes address c tick := by
  rw [Unread, since_snoc]
  exact or_iff_right h

/-- A data error stays exactly if its channel does not convert and is not read or cleared. -/
theorem dataError_snoc (hconverts : ¬ Converts c tick) {i : ℕ} :
    DataError address c i (past ++ [tick]) ↔ DataError address c i past ∧
      ¬ (Clears address tick ∨ tick.completed address = some (regDataMsb (channelAt c).raw)) := by
  rw [DataError, since_snoc, or_iff_right, not_or, and_iff_right hconverts]
  rintro ⟨conversion, rfl, hch, -⟩
  exact hconverts ⟨conversion, rfl, hch⟩

/-- The words of a channel that converts. -/
theorem holdsWords_of_conversion (hch : conversion.ch.toNat = c.val)
    (hcode : conversionCode msb lsb = conversion.raw28.toNat % 2 ^ 28)
    (herrors : ∀ i, 12 ≤ i → i < 16 → msb.getLsbD i = conversion.dataErrors.getLsbD i) :
    HoldsWords address c (past ++ [.conversion conversion]) msb lsb where
  code := by
    rw [hcode]
    exact Or.inl ⟨conversion, .now ⟨rfl, hch⟩, rfl⟩
  errors i hlow hhigh := by
    rw [herrors i hlow hhigh, DataError, since_snoc]
    constructor
    · exact fun h => Or.inl ⟨conversion, rfl, hch, h⟩
    · rintro (⟨other, h, -, herror⟩ | ⟨-, h⟩)
      · obtain rfl := Tick.conversion.inj h
        exact herror
      · exact absurd (Or.inl (converts_conversion.mpr hch)) h

/-- Clearing the words leaves zeros. -/
theorem holdsWords_of_clears (h : Clears address tick) :
    HoldsWords address c (past ++ [tick]) 0 0 := by
  have hconverts : ¬ Converts c tick := by
    obtain ⟨reg, value, hstored, -⟩ := h
    exact not_converts_of_stored hstored
  refine ⟨Or.inr ⟨fun hsince => ?_, by simp [conversionCode]⟩, fun i _ _ => ?_⟩
  · rcases since_snoc.mp hsince with hnow | ⟨-, hkept⟩
    · exact hconverts hnow
    · exact hkept h
  · have hzero : (0 : U16).getLsbD i = false := BitVec.getLsbD_zero
    rw [hzero, dataError_snoc hconverts]
    exact ⟨fun hset => Bool.noConfusion hset, fun herror => absurd (Or.inl h) herror.2⟩

/-- A tick that neither converts nor clears keeps the code. -/
theorem HoldsCode.snoc {code : ℕ} (h : HoldsCode address c past code)
    (hconverts : ¬ Converts c tick) (hclears : ¬ Clears address tick) :
    HoldsCode address c (past ++ [tick]) code := by
  rcases h with ⟨conversion, hlast, hcode⟩ | ⟨hnone, hcode⟩
  · exact Or.inl ⟨conversion, hlast.snoc (not_or.mpr ⟨hconverts, hclears⟩), hcode⟩
  · refine Or.inr ⟨fun hsince => ?_, hcode⟩
    rcases since_snoc.mp hsince with hnow | ⟨hbefore, -⟩
    · exact hconverts hnow
    · exact hnone hbefore

/-- Anything else keeps the words. -/
theorem HoldsWords.snoc (h : HoldsWords address c past msb lsb) (hconverts : ¬ Converts c tick)
    (hclears : ¬ Clears address tick)
    (hread : tick.completed address ≠ some (regDataMsb (channelAt c).raw)) :
    HoldsWords address c (past ++ [tick]) msb lsb where
  code := h.code.snoc hconverts hclears
  errors i hlow hhigh := by
    rw [h.errors i hlow hhigh, dataError_snoc hconverts, not_or]
    exact (and_iff_left ⟨hclears, hread⟩).symm

/-- The error bits of an MSB word. -/
theorem getLsbD_dataErrorMask {i : ℕ} (hhigh : i < 16) :
    dataErrorMask.getLsbD i = decide (12 ≤ i) := by
  interval_cases i <;> rfl

/-- Reading the MSB word consumes its error bits. -/
theorem HoldsWords.consumed (h : HoldsWords address c past msb lsb) (hconverts : ¬ Converts c tick)
    (hclears : ¬ Clears address tick)
    (hread : tick.completed address = some (regDataMsb (channelAt c).raw)) :
    HoldsWords address c (past ++ [tick]) (msb &&& ~~~dataErrorMask) lsb where
  code := by
    rw [conversionCode_and_not]
    exact h.code.snoc hconverts hclears
  errors i hlow hhigh := by
    rw [BitVec.getLsbD_and, BitVec.getLsbD_not, getLsbD_dataErrorMask hhigh, dataError_snoc hconverts]
    simp [hlow, hread]

/-- Nothing is recorded. -/
theorem records_zero : Records address past 0 channel where
  errors := BitVec.zero_and
  blamed i h := by
    have hzero : (0 : U16).getLsbD i = false := BitVec.getLsbD_zero
    exact nomatch hzero.symm.trans h

/-- What is recorded stays unless it is cleared. -/
theorem Records.snoc (h : Records address past sticky channel) (hclears : ¬ Clears address tick)
    (hread : tick.completed address ≠ some regStatus) :
    Records address (past ++ [tick]) sticky channel where
  errors := h.errors
  blamed i hbit := by
    obtain ⟨c, hchannel, herror⟩ := h.blamed i hbit
    exact ⟨c, hchannel, herror.snoc (not_or.mpr ⟨hclears, hread⟩)⟩

/-- What a conversion records. -/
theorem records_of_conversion (hch : conversion.ch.toNat = c.val)
    (hchannel : conversion.statusErrors &&& statusErrorMask ≠ 0 → channel = conversion.ch) :
    Records address (past ++ [.conversion conversion])
      (conversion.statusErrors &&& statusErrorMask) channel where
  errors := by
    rw [BitVec.and_assoc, BitVec.and_not_self]
    exact BitVec.and_zero
  blamed i hbit := by
    have hnonzero : conversion.statusErrors &&& statusErrorMask ≠ 0 := by
      intro hzero
      have hfalse : (0 : U16).getLsbD i = false := BitVec.getLsbD_zero
      rw [hzero, hfalse] at hbit
      exact nomatch hbit
    rw [BitVec.getLsbD_and, Bool.and_eq_true] at hbit
    exact ⟨c, hchannel hnonzero ▸ hch, .now ⟨conversion, rfl, hch, hbit.1⟩⟩

end Histories

section Steps

variable {address : U8} {past : List Tick} {tick : Tick} {dev dev' : FakeLdc1614Device}

/-- The latched words are not part of the evidence. -/
theorem Evidenced.latched (he : Evidenced address past dev) (hdev : dev.SameEvidence dev') :
    Evidenced address past dev' where
  accepts := hdev.acceptedAddress.trans he.accepts
  unread c := by
    rw [hdev.unreadMask]
    exact he.unread c
  words c := by
    rw [hdev.liveMsb, hdev.liveLsb]
    exact he.words c
  records := by
    rw [hdev.stickyStatusErrors, hdev.errorChannel]
    exact he.records

/-- A tick that converts and consumes nothing keeps what the device shows. -/
theorem Evidenced.kept (he : Evidenced address past dev) (hdev : dev.SameEvidence dev')
    (hconverts : ∀ c, ¬ Converts c tick) (hconsumes : ∀ c, ¬ Consumes address c tick) :
    Evidenced address (past ++ [tick]) dev' where
  accepts := (he.latched hdev).accepts
  unread c := by
    rw [(he.latched hdev).unread c, unread_snoc (hconverts c)]
    exact (and_iff_left (hconsumes c)).symm
  words c := ((he.latched hdev).words c).snoc (hconverts c) (fun h => hconsumes c (Or.inl h))
    fun h => hconsumes c (Or.inr (Or.inr h))
  records := (he.latched hdev).records.snoc (fun h => hconsumes 0 (Or.inl h))
    fun h => hconsumes 0 (Or.inr (Or.inl h))

/-- A write that clears nothing keeps what the device shows. -/
theorem applyWrite_kept (dev : FakeLdc1614Device) {reg : U8} {value : U16}
    (h : ¬ ClearingWrite reg value) : dev.SameEvidence (dev.applyWrite reg value) := by
  have hreset : ¬ (reg = regResetDev && (value &&& maskResetDev) != 0) = true := by
    intro hreset
    rw [Bool.and_eq_true, decide_eq_true_iff, bne_iff_ne] at hreset
    exact h (Or.inl hreset)
  have hsleep : ¬ (reg = regConfig && (value &&& maskCfgSleepModeEn) != 0) = true := by
    intro hsleep
    rw [Bool.and_eq_true, decide_eq_true_iff, bne_iff_ne] at hsleep
    exact h (Or.inr hsleep)
  unfold FakeLdc1614Device.applyWrite
  rw [if_neg hreset, if_neg hsleep]
  split
  · exact ⟨rfl, rfl, rfl, rfl, rfl, rfl⟩
  · exact .refl dev

/-- A device behind a clearing write. -/
theorem applyWrite_cleared (dev : FakeLdc1614Device) {reg : U8} {value : U16}
    (h : ClearingWrite reg value) :
    (dev.applyWrite reg value).acceptedAddress = dev.acceptedAddress ∧
      (dev.applyWrite reg value).liveMsb = (fun _ => 0) ∧
      (dev.applyWrite reg value).liveLsb = (fun _ => 0) ∧
      (dev.applyWrite reg value).unreadMask = 0 ∧
      (dev.applyWrite reg value).stickyStatusErrors = 0 := by
  unfold FakeLdc1614Device.applyWrite
  by_cases hreset : (reg = regResetDev && (value &&& maskResetDev) != 0) = true
  · rw [if_pos hreset]
    exact ⟨rfl, rfl, rfl, rfl, rfl⟩
  · have hsleep : (reg = regConfig && (value &&& maskCfgSleepModeEn) != 0) = true := by
      rw [Bool.and_eq_true, decide_eq_true_iff, bne_iff_ne] at hreset ⊢
      exact h.resolve_left hreset
    rw [if_neg hreset, if_pos hsleep]
    split
    · exact ⟨rfl, rfl, rfl, rfl, rfl⟩
    · exact ⟨rfl, rfl, rfl, rfl, rfl⟩

/-- A write that takes effect. -/
theorem Evidenced.write (he : Evidenced address past dev) {reg : U8} {value : U16}
    (hstored : tick.stored address = some (reg, value)) (hread : tick.completed address = none) :
    Evidenced address (past ++ [tick]) (dev.applyWrite reg value) := by
  have hconverts (c : Fin 4) : ¬ Converts c tick := not_converts_of_stored hstored
  by_cases hclearing : ClearingWrite reg value
  · have hclears : Clears address tick := ⟨reg, value, hstored, hclearing⟩
    obtain ⟨haccepts, hmsb, hlsb, hunread, hsticky⟩ := applyWrite_cleared dev hclearing
    refine ⟨haccepts.trans he.accepts, fun c => ?_, fun c => ?_, ?_⟩
    · have hzero : (0 : U8).getLsbD c.val = false := BitVec.getLsbD_zero
      rw [hunread, hzero, unread_snoc (hconverts c)]
      exact ⟨fun hset => Bool.noConfusion hset, fun h => absurd (Or.inl hclears) h.2⟩
    · rw [hmsb, hlsb]
      exact holdsWords_of_clears hclears
    · rw [hsticky]
      exact records_zero
  · refine he.kept (applyWrite_kept dev hclearing) hconverts fun c hconsumes => ?_
    rcases hconsumes with ⟨reg', value', hstored', hclears⟩ | hstatus | hmsb
    · obtain ⟨rfl, rfl⟩ := Prod.mk.inj (Option.some.inj (hstored.symm.trans hstored'))
      exact hclearing hclears
    · exact absurd (hread.symm.trans hstatus) (Option.some_ne_none _).symm
    · exact absurd (hread.symm.trans hmsb) (Option.some_ne_none _).symm

/-- The channel behind a MSB register. -/
theorem dataMsbChannel_eq_some {reg : U8} {ch : Fin 4} :
    FakeLdc1614Device.dataMsbChannel reg = some ch ↔ reg = regDataMsb (channelAt ch).raw := by
  constructor
  · intro h
    simpa using List.find?_some h
  · rintro rfl
    revert ch
    decide

/-- STATUS is no MSB register. -/
theorem regStatus_ne_regDataMsb (c : Fin 4) : regStatus ≠ regDataMsb (channelAt c).raw := by
  revert c
  decide

/-- The MSB registers are distinct. -/
theorem regDataMsb_inj {c ch : Fin 4} :
    regDataMsb (channelAt c).raw = regDataMsb (channelAt ch).raw ↔ c = ch := by
  revert c ch
  decide

/-- A read of STATUS. -/
theorem Evidenced.readStatus (he : Evidenced address past dev) (hclears : ¬ Clears address tick)
    (hread : tick.completed address = some regStatus) (hconverts : ∀ c, ¬ Converts c tick) :
    Evidenced address (past ++ [tick]) (dev.applyReadSideEffects regStatus) := by
  have hdev : dev.applyReadSideEffects regStatus =
      { dev with
        stickyStatusErrors := 0
        errorChannel := 0
        dataReadyLatched := false
        unreadMask := 0
        intbAsserted := false } := if_pos rfl
  rw [hdev]
  refine ⟨he.accepts, fun c => ?_, fun c => ?_, records_zero⟩
  · have hzero : (0 : U8).getLsbD c.val = false := BitVec.getLsbD_zero
    show (0 : U8).getLsbD c.val = true ↔ _
    rw [hzero, unread_snoc (hconverts c)]
    exact ⟨fun hset => Bool.noConfusion hset, fun h => absurd (Or.inr (Or.inl hread)) h.2⟩
  · refine (he.words c).snoc (hconverts c) hclears ?_
    rw [hread]
    exact fun h => regStatus_ne_regDataMsb c (Option.some.inj h)

/-- What a completed read of an MSB word clears. -/
theorem applyReadSideEffects_msb (dev : FakeLdc1614Device) (ch : Fin 4) {dev' : FakeLdc1614Device}
    (h : dev.applyReadSideEffects (regDataMsb (channelAt ch).raw) = dev') :
    dev'.acceptedAddress = dev.acceptedAddress ∧
      dev'.unreadMask = dev.unreadMask &&& ~~~indexBit ch ∧
      dev'.liveMsb = Function.update dev.liveMsb ch (dev.liveMsb ch &&& ~~~dataErrorMask) ∧
      dev'.liveLsb = dev.liveLsb ∧
      (dev'.stickyStatusErrors = dev.stickyStatusErrors ∧ dev'.errorChannel = dev.errorChannel ∨
        dev'.stickyStatusErrors = 0) := by
  unfold FakeLdc1614Device.applyReadSideEffects at h
  rw [if_neg (regStatus_ne_regDataMsb ch).symm, dataMsbChannel_eq_some.mpr rfl] at h
  dsimp only at h
  split at h
  · subst h
    exact ⟨rfl, rfl, rfl, rfl, Or.inr rfl⟩
  · subst h
    exact ⟨rfl, rfl, rfl, rfl, Or.inl ⟨rfl, rfl⟩⟩

/-- A read of an MSB word consumes its channel. -/
theorem Evidenced.readMsb (he : Evidenced address past dev) {ch : Fin 4}
    (hclears : ¬ Clears address tick)
    (hread : tick.completed address = some (regDataMsb (channelAt ch).raw))
    (hconverts : ∀ c, ¬ Converts c tick) :
    Evidenced address (past ++ [tick])
      (dev.applyReadSideEffects (regDataMsb (channelAt ch).raw)) := by
  have hstatus : tick.completed address ≠ some regStatus := by
    rw [hread]
    exact fun h => regStatus_ne_regDataMsb ch (Option.some.inj h).symm
  have hmsb (c : Fin 4) : tick.completed address = some (regDataMsb (channelAt c).raw) ↔
      ch = c := by
    rw [hread, Option.some_inj, regDataMsb_inj]
  have hconsumes (c : Fin 4) : Consumes address c tick ↔ ch = c := by
    rw [Consumes, hmsb c, or_iff_right hclears, or_iff_right hstatus]
  obtain ⟨haccepts, hunread, hlive, hlsb, hsticky⟩ := applyReadSideEffects_msb dev ch rfl
  refine ⟨haccepts.trans he.accepts, fun c => ?_, fun c => ?_, ?_⟩
  · rw [hunread, unread_snoc (hconverts c), hconsumes c, ← he.unread c, BitVec.getLsbD_and,
      BitVec.getLsbD_not, getLsbD_indexBit]
    have hbyte : c.val < 8 := by omega
    simp [hbyte, Fin.ext_iff]
  · rw [hlive, hlsb]
    by_cases hsame : c = ch
    · subst hsame
      rw [Function.update_self]
      exact (he.words c).consumed (hconverts c) hclears hread
    · rw [Function.update_of_ne hsame]
      exact (he.words c).snoc (hconverts c) hclears fun h => hsame ((hmsb c).mp h).symm
  · rcases hsticky with ⟨hkept, hchannel⟩ | hzero
    · rw [hkept, hchannel]
      exact he.records.snoc hclears hstatus
    · rw [hzero]
      exact records_zero

/-- A read that completes. -/
theorem Evidenced.read (he : Evidenced address past dev) {reg : U8}
    (hstored : tick.stored address = none) (hread : tick.completed address = some reg)
    (hconverts : ∀ c, ¬ Converts c tick) :
    Evidenced address (past ++ [tick]) (dev.applyReadSideEffects reg) := by
  have hclears : ¬ Clears address tick := by
    rintro ⟨reg, value, hwritten, -⟩
    exact nomatch hstored.symm.trans hwritten
  by_cases hstatus : reg = regStatus
  · subst hstatus
    exact he.readStatus hclears hread hconverts
  · cases hmsb : FakeLdc1614Device.dataMsbChannel reg with
    | some ch =>
        obtain rfl := dataMsbChannel_eq_some.mp hmsb
        exact he.readMsb hclears hread hconverts
    | none =>
        have hdev : dev.applyReadSideEffects reg = dev := by
          rw [FakeLdc1614Device.applyReadSideEffects, if_neg hstatus, hmsb]
        rw [hdev]
        refine he.kept (.refl dev) hconverts fun c hconsumes => ?_
        rcases hconsumes with h | h | h
        · exact hclears h
        · exact hstatus (Option.some.inj (hread.symm.trans h))
        · obtain rfl := Option.some.inj (hread.symm.trans h)
          rw [dataMsbChannel_eq_some.mpr rfl] at hmsb
          exact Option.some_ne_none c hmsb

/-- The STATUS part of a conversion records its errors under its channel, or nothing. -/
theorem recordStatus_errors (dev : FakeLdc1614Device) (conversion : Conversion)
    {dev' : FakeLdc1614Device} (h : (dev.recordStatus conversion).raiseIntb = dev') :
    dev'.acceptedAddress = dev.acceptedAddress ∧ dev'.liveMsb = dev.liveMsb ∧
      dev'.liveLsb = dev.liveLsb ∧ dev'.unreadMask = dev.unreadMask ∧
      (dev'.stickyStatusErrors = dev.stickyStatusErrors ∧ dev'.errorChannel = dev.errorChannel ∨
        dev'.stickyStatusErrors = conversion.statusErrors &&& statusErrorMask ∧
          (conversion.statusErrors &&& statusErrorMask ≠ 0 →
            dev'.errorChannel = conversion.ch)) := by
  have hraise (e : FakeLdc1614Device) : e.SameEvidence e.raiseIntb := by
    unfold FakeLdc1614Device.raiseIntb
    dsimp only
    split
    · exact ⟨rfl, rfl, rfl, rfl, rfl, rfl⟩
    · exact .refl e
  obtain ⟨haddress, hmsb, hlsb, hunread, hsticky, hchannel⟩ := hraise (dev.recordStatus conversion)
  rw [← h, haddress, hmsb, hlsb, hunread, hsticky, hchannel]
  unfold FakeLdc1614Device.recordStatus
  dsimp only
  split
  · refine ⟨rfl, rfl, rfl, rfl, Or.inr ⟨rfl, fun hnonzero => if_pos ?_⟩⟩
    rw [Bool.or_eq_true, bne_iff_ne]
    exact Or.inl hnonzero
  · exact ⟨rfl, rfl, rfl, rfl, Or.inl ⟨rfl, rfl⟩⟩

/-- The error bits of the MSB word of a conversion are its DATA errors. -/
theorem getLsbD_liveMsb (raw28 : U32) (dataErrors : U16) {i : ℕ} (hlow : 12 ≤ i) (hhigh : i < 16) :
    ((((raw28 &&& 0x0FFFFFFF) >>> 16) &&& 0x0FFF).setWidth 16 |||
      (dataErrors &&& dataErrorMask)).getLsbD i = dataErrors.getLsbD i := by
  have hmask : (0x0FFF : U32).getLsbD i = false := by
    interval_cases i <;> rfl
  rw [BitVec.getLsbD_or, BitVec.getLsbD_setWidth, BitVec.getLsbD_and, BitVec.getLsbD_and,
    getLsbD_dataErrorMask hhigh, hmask]
  simp [hlow]

/-- A conversion. -/
theorem Evidenced.inject (he : Evidenced address past dev) (conversion : Conversion) :
    Evidenced address (past ++ [.conversion conversion]) (dev.injectConversion conversion) := by
  have hconsumes (c : Fin 4) : ¬ Consumes address c (.conversion conversion) :=
    not_consumes_conversion c
  have hclears : ¬ Clears address (.conversion conversion) := fun h => hconsumes 0 (Or.inl h)
  by_cases hlt : conversion.ch.toNat < 4
  · generalize hdev : dev.injectConversion conversion = dev'
    rw [FakeLdc1614Device.injectConversion, dif_pos hlt] at hdev
    obtain ⟨haddress, hmsb, hlsb, hunread, hsticky⟩ := recordStatus_errors _ conversion hdev
    refine ⟨haddress.trans he.accepts, fun c => ?_, fun c => ?_, ?_⟩
    · rw [hunread, getLsbD_or_indexBit, Bool.or_eq_true, he.unread c, decide_eq_true_iff]
      unfold Unread
      rw [since_snoc, converts_conversion, and_iff_left (hconsumes c)]
      exact or_comm
    · rw [hmsb, hlsb]
      dsimp only
      by_cases hsame : c = ⟨conversion.ch.toNat, hlt⟩
      · subst hsame
        rw [Function.update_self, Function.update_self]
        exact holdsWords_of_conversion rfl (conversionCode_of_raw28 _ _) fun _ =>
          getLsbD_liveMsb _ _
      · rw [Function.update_of_ne hsame, Function.update_of_ne hsame]
        refine (he.words c).snoc (fun hconverts => hsame ?_) hclears
          fun h => hconsumes c (Or.inr (Or.inr h))
        exact Fin.ext (converts_conversion.mp hconverts).symm
    · rcases hsticky with ⟨hkept, hchannel⟩ | ⟨hrecorded, hchannel⟩
      · rw [hkept, hchannel]
        exact he.records.snoc hclears fun h => hconsumes 0 (Or.inr (Or.inl h))
      · rw [hrecorded]
        exact records_of_conversion (c := ⟨conversion.ch.toNat, hlt⟩) rfl hchannel
  · have hdev : dev.injectConversion conversion = dev := dif_neg hlt
    rw [hdev]
    refine he.kept (.refl dev) (fun c => ?_) hconsumes
    rw [converts_conversion]
    omega

/-- What happens to the device keeps its evidence the history's. -/
theorem Evidenced.step (he : Evidenced address past dev) (h : DeviceTick dev tick dev') :
    Evidenced address (past ++ [tick]) dev' := by
  cases h with
  | ret =>
      refine he.kept (.refl dev) (fun c => ?_) fun c => ?_
      · rintro ⟨conversion, h, -⟩
        exact nomatch h
      · rintro (⟨reg, value, h, -⟩ | h | h)
        · exact nomatch h
        · exact nomatch h
        · exact nomatch h
  | conversion conversion => exact he.inject conversion
  | @exchange call _ _ _ _ hserve =>
      have hserved := FakeLdc1614Device.serve_served call hserve
      rw [he.accepts] at hserved
      cases hserved with
      | write reg value hstored hread hdev =>
          rw [hdev]
          exact he.write hstored hread
      | read reg hstored hread hdev _ =>
          rw [hdev]
          exact (he.latched (dev.readValue_latches reg)).read hstored hread not_converts_exchange
      | none hstored hread hdev =>
          refine he.kept hdev not_converts_exchange fun c hconsumes => ?_
          rcases hconsumes with ⟨reg, value, h, -⟩ | h | h
          · exact nomatch hstored.symm.trans h
          · exact nomatch hread.symm.trans h
          · exact absurd (hread.symm.trans h) (Option.some_ne_none _).symm

/-- A device behind its construction has no history. -/
theorem evidenced_constructed (address : U8) : Evidenced address [] (.constructed address) := by
  have hzero (i : ℕ) : (0 : U8).getLsbD i = false := BitVec.getLsbD_zero
  refine ⟨rfl, fun c => ?_, fun c => ⟨?_, fun i _ _ => ?_⟩, records_zero⟩
  · show (0 : U8).getLsbD c.val = true ↔ _
    rw [hzero]
    exact ⟨fun hset => Bool.noConfusion hset, fun h => absurd h not_since_nil⟩
  · exact Or.inr ⟨not_since_nil, by simp [conversionCode, FakeLdc1614Device.constructed,
      FakeLdc1614Device.resetDevice, FakeLdc1614Device.clearConversionEvidence]⟩
  · have hword : (0 : U16).getLsbD i = false := BitVec.getLsbD_zero
    show (0 : U16).getLsbD i = true ↔ _
    rw [hword]
    exact ⟨fun hset => Bool.noConfusion hset, fun h => absurd h not_since_nil⟩

/-- With an error recorded, STATUS names the channel of the record. -/
theorem statusValue_channel (h : dev.stickyStatusErrors &&& ~~~statusErrorMask = 0)
    (herror : dev.stickyStatusErrors ≠ 0) (hchannel : dev.errorChannel.toNat < 4) :
    (dev.statusValue >>> bitStatusErrChan).toNat = dev.errorChannel.toNat := by
  have hevent : (dev.stickyStatusErrors != 0 || dev.dataReadyLatched) = true := by
    rw [bne_iff_ne.mpr herror, Bool.true_or]
  have hword : dev.statusValue >>> bitStatusErrChan = dev.errorChannel.setWidth 16 := by
    refine BitVec.eq_of_getLsbD_eq fun j hj => ?_
    rw [BitVec.getLsbD_ushiftRight, BitVec.getLsbD_setWidth, decide_eq_true hj, Bool.true_and]
    by_cases hlow : j < 2
    · have hmask : statusErrorMask.getLsbD (14 + j) = false := by
        interval_cases j <;> rfl
      rw [bitStatusErrChan, getLsbD_statusValue (by omega) (by omega), getLsbD_sticky h hmask,
        hevent]
      simp
    · -- neither the word nor the number of the channel has such a bit
      have hpower : 2 ^ 2 ≤ 2 ^ j := Nat.pow_le_pow_right (by decide) (not_lt.mp hlow)
      rw [bitStatusErrChan, BitVec.getLsbD_of_ge _ _ (by omega)]
      exact (Nat.testBit_lt_two_pow (by omega)).symm
  rw [hword, BitVec.toNat_setWidth]
  omega

/-- A STATUS word blames a channel only for an error of one of its conversions. -/
theorem Records.blames (h : Records address past dev.stickyStatusErrors dev.errorChannel)
    {c : Fin 4} {i : ℕ} (hlow : 8 ≤ i) (hhigh : i < 14)
    (hblames : statusBlames dev.statusValue c (1#16 <<< i) = true) :
    StatusError address c i past := by
  rw [statusBlames, Fields.has_bit, Bool.and_eq_true, decide_eq_true_iff] at hblames
  obtain ⟨hbit, hnamed⟩ := hblames
  have hbelow : ¬ 14 ≤ i := by omega
  rw [getLsbD_statusValue hlow (by omega), decide_eq_false hbelow, Bool.and_false, Bool.false_and,
    Bool.or_false] at hbit
  obtain ⟨ch, hchannel, herror⟩ := h.blamed i hbit
  have hnonzero : dev.stickyStatusErrors ≠ 0 := by
    intro hzero
    have hfalse : (0 : U16).getLsbD i = false := BitVec.getLsbD_zero
    rw [hzero, hfalse] at hbit
    exact nomatch hbit
  rw [statusValue_channel h.errors hnonzero (hchannel ▸ ch.isLt), hchannel] at hnamed
  exact Fin.ext hnamed ▸ herror

end Steps

/-! ### Evaluating a life -/

/-- The tick of a mark, with no failure forced. -/
def Mark.tick : Mark → Tick
  | .bus call event => .exchange call event none
  | .ret call output => .ret call output

/-- The device behind these ticks, if it answers as they say. -/
def FakeLdc1614Device.follow : FakeLdc1614Device → List Tick → Option FakeLdc1614Device
  | dev, [] => some dev
  | dev, .exchange _ (request, reply) forced :: ticks =>
      if (dev.serve request forced).2 = reply then (dev.serve request forced).1.follow ticks
      else none
  | dev, .ret _ _ :: ticks => dev.follow ticks
  | dev, .conversion conversion :: ticks => (dev.injectConversion conversion).follow ticks

/-- What the evaluator follows is a life of the device. -/
theorem deviceLife_of_follow {ticks : List Tick} {dev dev' : FakeLdc1614Device}
    (h : dev.follow ticks = some dev') : DeviceLife dev ticks dev' := by
  induction ticks generalizing dev with
  | nil =>
      obtain rfl := Option.some.inj h
      exact .nil
  | cons tick ticks ih =>
      cases tick with
      | ret => exact (Path.single .ret).append (ih h)
      | conversion conversion => exact (Path.single (.conversion conversion)).append (ih h)
      | exchange call event forced =>
          obtain ⟨request, reply⟩ := event
          rw [FakeLdc1614Device.follow] at h
          split at h
          · next hreply => exact (Path.single (.exchange (Prod.ext rfl hreply))).append (ih h)
          · exact nomatch h

end Ldc1614
