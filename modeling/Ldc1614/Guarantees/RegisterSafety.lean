import Ldc1614.Driver.Evaluate

/-! # Register space and index safety

Where the driver can reach: only the callbacks of a validated profile while it is bound, only
registers the bound variant maps, only writable ones for writes; and no call, in any reachable state
and against any transport, indexes past an array, calls a null callback or divides by zero.

The registers are listed channel by channel, as a data sheet does; the guards of the driver compare
address ranges, and are shown to decide these lists. -/

namespace Ldc1614

open Cmd Interaction

/-! ### The register map -/

/-- The registers of a channel that hold its settings. -/
def channelSettings (ch : U8) : List U8 :=
  [regRcount ch, regOffset ch, regSettleCount ch, regClockDividers ch, regDriveCurrent ch]

/-- All registers of a channel. -/
def channelRegisters (ch : U8) : List U8 := regDataMsb ch :: regDataLsb ch :: channelSettings ch

/-- The registers a host may write. -/
def writableRegisters : List U8 :=
  [0, 1, 2, 3].flatMap channelSettings ++ [regErrorConfig, regConfig, regMuxConfig, regResetDev]

/-- The registers of the family. -/
def mappedRegisters : List U8 :=
  [0, 1, 2, 3].flatMap channelRegisters ++
    [regStatus, regErrorConfig, regConfig, regMuxConfig, regResetDev, regManufacturerId,
      regDeviceId]

/-- The registers that only a four-channel device has. -/
def upperRegisters : List U8 := [2, 3].flatMap channelRegisters

/-- **The guards of the driver decide the map.** -/
theorem guards_decide : ∀ reg,
    (isValidRegisterAddress reg = true ↔ reg ∈ mappedRegisters) ∧
      (isConfigurationRegister reg = true ↔ reg ∈ writableRegisters) ∧
      (isLdc1614OnlyRegister reg = true ↔ reg ∈ upperRegisters) := by
  decide

/-! ### Permitted requests -/

/-- The register exists in the variant of the profile. -/
def Config.has (config : Config) (reg : U8) : Prop :=
  reg ∈ mappedRegisters ∧ (config.variant = .ldc1612 → reg ∉ upperRegisters)

/-- The guards of the driver decide which registers exist. -/
theorem has_of_guards {config : Config} {reg : U8} (hvalid : isValidRegisterAddress reg = true)
    (hupper : config.variant = .ldc1612 → isLdc1614OnlyRegister reg = false) : config.has reg := by
  obtain ⟨hmapped, -, honly⟩ := guards_decide reg
  refine ⟨hmapped.mp hvalid, fun hvariant hmem => ?_⟩
  exact Bool.false_ne_true ((hupper hvariant).symm.trans (honly.mpr hmem))

/-- The request goes through a callback of the profile, with its address and context, and a
register transfer stays within the registers of the variant; a write stays within the writable
ones. -/
def Request.Permitted (config : Config) : Request → Prop
  | .i2cWrite callback address data _ user =>
      config.i2cWrite = some callback ∧ address = config.i2cAddress.raw ∧ user = config.i2cUser ∧
        ∃ reg high low, data = [reg, high, low] ∧ config.has reg ∧ reg ∈ writableRegisters
  | .i2cWriteRead callback address txData rxLength _ user =>
      config.i2cWriteRead = some callback ∧ address = config.i2cAddress.raw ∧
        user = config.i2cUser ∧ rxLength = 2 ∧ ∃ reg, txData = [reg] ∧ config.has reg
  | .intbAsserted callback user => config.intbAsserted = some callback ∧ user = config.intbUser

/-- A writable register is never a DATA, STATUS or identity register. -/
theorem writable_excludes : ∀ reg ∈ writableRegisters,
    regData3Lsb < reg ∧ reg ≠ regStatus ∧ reg ≠ regManufacturerId ∧ reg ≠ regDeviceId := by
  decide

/-- The register a transfer addresses is allowed to it. -/
def Transfer.Allowed (config : Config) : Transfer → Prop
  | .read reg => config.has reg
  | .write reg _ => config.has reg ∧ reg ∈ writableRegisters

/-- The guards of the driver allow a write. -/
theorem Transfer.allowed_of_guards {config : Config} {reg : U8} {value : U16}
    (hwritable : isConfigurationRegister reg = true)
    (hupper : config.variant = .ldc1612 → isLdc1614OnlyRegister reg = false) :
    (Transfer.write reg value).Allowed config :=
  ⟨has_of_guards (isValidRegisterAddress_of_configuration _ hwritable) hupper,
    (guards_decide reg).2.1.mp hwritable⟩

theorem Transfer.Allowed.permitted {config : Config} {transfer : Transfer} {timeoutMs : U32}
    (h : transfer.Allowed config) (hvalid : config.Valid) :
    (transfer.request config timeoutMs).Permitted config := by
  obtain ⟨write, hwrite⟩ := Option.isSome_iff_exists.mp hvalid.i2cWrite
  obtain ⟨read, hread⟩ := Option.isSome_iff_exists.mp hvalid.i2cWriteRead
  cases transfer with
  | read reg => exact ⟨by rw [hread, Option.getD_some], rfl, rfl, rfl, reg, rfl, h⟩
  | write reg value =>
      exact ⟨by rw [hwrite, Option.getD_some], rfl, rfl, reg, _, _, rfl, h.1, h.2⟩

/-! ### The transfers of a job -/

/-- The registers of a replay are writable ones of the variant. -/
theorem writeAt_allowed {config : Config} {applyStep : U8}
    (h : applyStep.toNat < profileLength config) :
    (Transfer.write (Stage.writeAt config applyStep).reg
      (Stage.writeAt config applyStep).value).Allowed config := by
  obtain ⟨hwritable, honly, -, -, -⟩ := replay_layout h
  refine Transfer.allowed_of_guards hwritable fun hvariant => honly ?_
  rw [channelCountFor, if_pos hvariant]

/-- A requested channel of a two-channel device is one of its two. -/
theorem data_allowed {config : Config} {mask : ChannelMask} {index : Fin 4} (hvalid : config.Valid)
    (hsub : mask.bits &&& ~~~config.channels.bits = 0) (h : index ∈ maskChannels mask) :
    config.has (regDataMsb (channelAt index).raw) ∧
      config.has (regDataLsb (channelAt index).raw) := by
  have hdata : ∀ index : Fin 4, regDataMsb (channelAt index).raw ∈ mappedRegisters ∧
      regDataLsb (channelAt index).raw ∈ mappedRegisters ∧
      ((0x03 : U8).getLsbD index.val = true →
        regDataMsb (channelAt index).raw ∉ upperRegisters ∧
        regDataLsb (channelAt index).raw ∉ upperRegisters) := by decide
  have hbit := getLsbD_of_and_not hvalid.implemented _
    (getLsbD_of_and_not hsub _ (mem_maskChannels.mp h))
  obtain ⟨hmsb, hlsb, honly⟩ := hdata index
  refine ⟨⟨hmsb, fun hvariant => ?_⟩, ⟨hlsb, fun hvariant => ?_⟩⟩
  · rw [validChannelMask, if_pos hvariant] at hbit
    exact (honly hbit).1
  · rw [validChannelMask, if_pos hvariant] at hbit
    exact (honly hbit).2

/-- A register of the whole family. -/
theorem has_common {config : Config} {reg : U8} (hmapped : reg ∈ mappedRegisters)
    (hcommon : reg ∉ upperRegisters) : config.has reg := ⟨hmapped, fun _ => hcommon⟩

namespace Driver

variable {d d' : Driver} {stage : Stage}

/-- Every transfer of a job is allowed. -/
theorem Running.transfer_allowed (h : d.Running stage) (hvalid : d.config.Valid) :
    (stage.transfer d.config).Allowed d.config := by
  have hidentity : ∀ index : Fin 2, (identitySteps.get index).reg ∈ mappedRegisters ∧
      (identitySteps.get index).reg ∉ upperRegisters := by decide
  have hstatus : d.config.has regStatus := has_common (by decide) (by decide)
  have hreset : d.config.has regResetDev := has_common (by decide) (by decide)
  have hmem := List.mem_of_getElem? h.scripted
  rw [script, Ldc1614.script] at hmem
  split at hmem
  · next hkind =>
      have hsub := (h.requested hkind).2
      rcases mem_acquisition.mp hmem with rfl | rfl | ⟨index, hindex, rfl | rfl⟩
      · exact hstatus
      · exact hstatus
      · exact (data_allowed hvalid hsub hindex).1
      · exact (data_allowed hvalid hsub hindex).2
  · rcases List.mem_append.mp hmem with hmem | hmem
    · obtain ⟨n, hn⟩ := List.getElem?_of_mem hmem
      rcases preamble_eq_some hn with ⟨-, -, rfl⟩ | ⟨index, -, -, rfl⟩
      · exact ⟨hreset, by decide⟩
      · exact has_common (hidentity index).1 (hidentity index).2
    · obtain ⟨n, hn⟩ := List.getElem?_of_mem hmem
      obtain ⟨hlt, rfl⟩ := replay_eq_some.mp hn
      exact writeAt_allowed (by rw [toNat_ofNat_profile hlt]; exact hlt)

/-- The channel field is a requested channel whenever the job is about to read one. -/
theorem Running.jobChannel_requested (h : d.Running stage)
    (hphase : d.progress.phase = .readDataMsb ∨ d.progress.phase = .readDataLsb) :
    ∃ index ∈ maskChannels d.progress.requestedChannels, d.jobChannel = channelAt index := by
  have hshown : (stage.position d.config).1 = d.progress.phase := congrArg Prod.fst h.shown.symm
  have hmem := List.mem_of_getElem? h.scripted
  have hhere := h.here
  rw [script, Ldc1614.script] at hmem
  rw [Driver.stage] at hhere
  split at hmem
  · next hkind =>
      rw [if_pos hkind] at hhere
      rcases acquireStage_eq_some.mp hhere with ⟨hp, rfl⟩ | ⟨index, hp, hch, rfl⟩ |
        ⟨index, hp, hch, rfl⟩ | ⟨hp, rfl⟩
      · rw [hp] at hphase
        rcases hphase with hphase | hphase <;> cases hphase
      · rcases mem_acquisition.mp hmem with hs | hs | ⟨_, hindex, hs | hs⟩ <;> cases hs
        exact ⟨index, hindex, hch⟩
      · rcases mem_acquisition.mp hmem with hs | hs | ⟨_, hindex, hs | hs⟩ <;> cases hs
        exact ⟨index, hindex, hch⟩
      · rw [hp] at hphase
        rcases hphase with hphase | hphase <;> cases hphase
  · exfalso
    rw [← hshown] at hphase
    rcases List.mem_append.mp hmem with hmem | hmem
    · obtain ⟨n, hn⟩ := List.getElem?_of_mem hmem
      rcases preamble_eq_some hn with ⟨-, -, rfl⟩ | ⟨index, -, -, rfl⟩
      · rcases hphase with hphase | hphase <;> cases hphase
      · have hidentity : ∀ index : Fin 2, (identitySteps.get index).phase ≠ .readDataMsb ∧
            (identitySteps.get index).phase ≠ .readDataLsb := by decide
        exact hphase.elim (hidentity index).1 (hidentity index).2
    · obtain ⟨n, hn⟩ := List.getElem?_of_mem hmem
      obtain ⟨hlt, rfl⟩ := replay_eq_some.mp hn
      have hlaid := replay_layout (by rw [toNat_ofNat_profile hlt]; exact hlt)
      exact hphase.elim hlaid.notMsb hlaid.notLsb

end Driver

/-- Every exchange outside a job is permitted. -/
theorem Driver.Direct.permitted {d d' : Driver} {call : Call} {event : Event}
    (h : d.Direct call event d') (hvalid : d.config.Valid) : event.1.Permitted d.config := by
  have hupper {reg : U8} (havailable : d.available reg) (hvariant : d.config.variant = .ldc1612) :
      isLdc1614OnlyRegister reg = false :=
    Bool.eq_false_iff.mpr fun honly => havailable ⟨hvariant, honly⟩
  have hconfig : (Transfer.write regConfig (buildConfigRegister d.config true)).Allowed d.config ∧
      (Transfer.write regConfig (buildConfigRegister d.config false)).Allowed d.config :=
    ⟨⟨has_common (by decide) (by decide), by decide⟩, has_common (by decide) (by decide), by decide⟩
  cases h with
  | observed hcall hbound hcallback => exact ⟨hcallback, rfl⟩
  | read hcall hbound hidle hreg havailable =>
      have hread : (Transfer.read _).Allowed d.config := has_of_guards hreg (hupper havailable)
      exact hread.permitted hvalid
  | slept => exact hconfig.1.permitted hvalid
  | woken => exact hconfig.2.permitted hvalid
  | wrote reg value hbound hidle hreg havailable =>
      have hwrite : (Transfer.write reg value).Allowed d.config :=
        Transfer.allowed_of_guards hreg (hupper havailable)
      exact hwrite.permitted hvalid

/-- Every exchange is made by a bound driver and permitted by its profile. -/
theorem Step.permitted {d d' : Driver} {call : Call} {event : Event} (hw : d.WellFormed)
    (h : Step d (.bus call event) d') : d.bound = true ∧ event.1.Permitted d.config := by
  cases h with
  | job hrun hdue =>
      have hvalid := hw.validProfile hrun.bound
      exact ⟨hrun.bound, (hrun.transfer_allowed hvalid).permitted hvalid⟩
  | direct hdirect =>
      have hbound : d.bound = true := by cases hdirect <;> assumption
      exact ⟨hbound, hdirect.permitted (hw.validProfile hbound)⟩

/-- Exchanges outside a job trap nowhere. -/
theorem Driver.Exchanges.safe {d : Driver} {call : Call} {program : Bus (Driver × Output)}
    (h : Driver.Exchanges call d program) : program.Safe := by
  induction h with
  | done => exact trivial
  | call _ _ ih => exact ih

/-- No call of a well-formed driver traps. -/
theorem Driver.WellFormed.exec_safe {d : Driver} (hw : d.WellFormed) (call : Call) :
    (call.exec d).Safe := by
  have hthen {α : Type} {p : Bus α} {f : α → Driver × Output} (hp : p.Safe) :
      (p >>= fun a => .done (f a)).Safe := hp.bind fun _ _ _ => trivial
  cases call with
  | poll nowMs maxTransfers => exact hthen (hw.poll_safe nowMs maxTransfers)
  | takeResult =>
      obtain ⟨out, d', htake, -⟩ := Driver.quiet_takeResult hw.head
      rw [Call.exec, htake]
      exact trivial
  | readDeviceStatus => exact (Driver.exchanges_readDeviceStatus hw).safe
  | readDataReady => exact (Driver.exchanges_readDataReady hw).safe
  | sleep => exact (Driver.exchanges_sleep hw).safe
  | wake => exact (Driver.exchanges_wake hw).safe
  | readInitDriveCurrent channel => exact (Driver.exchanges_readInitDriveCurrent hw channel).safe
  | readRegister16 reg =>
      have hexchanges : Driver.Exchanges (.readRegister16 reg) d (Call.exec (.readRegister16 reg) d) :=
        Driver.exchanges_readRegister16 hw reg rfl (fun _ => rfl) fun p => .word p.2.1 p.2.2
      exact hexchanges.safe
  | writeRegister16 reg value => exact (Driver.exchanges_writeRegister16 hw reg value).safe
  | readIntb => exact Driver.exchanges_readIntb.safe
  | _ => exact trivial

/-- **Register space and index safety.** In every reachable state every call runs to its end against
every transport: no index is out of bounds, no null callback is called. Every exchange of every run
is made by a bound driver, through a callback of its validated profile, with a register the variant
maps; a write addresses a writable register, which is never a DATA, STATUS or identity register.
And in every state on the way, also between the transfers of one `poll`, the channel field is a
requested channel whenever a DATA read is next. -/
theorem register_and_index_safety :
    (∀ d, Reachable d → ∀ call : Call, (call.exec d).Safe ∧
      ∀ replies : ℕ → Reply, ∃ events result, (call.exec d).Yields events result ∧
        events.map Prod.snd = (List.range events.length).map replies) ∧
    (∀ ts u, DriverRun Driver.initial ts u → ∀ t ∈ ts, ∀ event ∈ t.events,
      t.before.bound = true ∧ (validateConfig t.before.config).isOk = true ∧
      event.1.Permitted t.before.config) ∧
    (∀ reg ∈ writableRegisters,
      regData3Lsb < reg ∧ reg ≠ regStatus ∧ reg ≠ regManufacturerId ∧ reg ≠ regDeviceId) ∧
    (∀ d, Visited d → d.progress.phase = .readDataMsb ∨ d.progress.phase = .readDataLsb →
      ∃ index ∈ maskChannels d.progress.requestedChannels, d.jobChannel = channelAt index) := by
  refine ⟨fun d h call => ?_, fun ts u h t ht event hevent => ?_, writable_excludes,
    fun d h hphase => ?_⟩
  · have hsafe := h.wellFormed.exec_safe call
    exact ⟨hsafe, hsafe.exists_yields⟩
  · obtain ⟨before, after, rfl⟩ := List.append_of_mem ht
    obtain ⟨pre, post, hevents⟩ := List.append_of_mem hevent
    obtain ⟨m, m', hpath, hstep, hconfig, hbound, -⟩ := event_step h hevents
    have hw := Visited.wellFormed ⟨_, hpath⟩
    obtain ⟨hmbound, hpermitted⟩ := hstep.permitted hw
    have hvalid := hw.valid hmbound
    rw [hconfig] at hpermitted hvalid
    exact ⟨hbound ▸ hmbound, hvalid, hpermitted⟩
  · have hw := h.wellFormed
    by_cases hactive : d.progress.active = true
    · obtain ⟨stage, hrun⟩ := hw.running hactive
      exact hrun.jobChannel_requested hphase
    · have hclear := (hw.idle (by simpa using hactive)).1
      have hidle : JobPhase.none = d.progress.phase :=
        (congrArg (fun e : Driver => e.progress.phase) hclear :)
      rw [← hidle] at hphase
      rcases hphase with hphase | hphase <;> cases hphase

/-- A bench run on a two-channel device that stops in the middle of an acquisition of channel 1. -/
def benchDataRead : List (Call × List Reply) :=
  [(.bind benchProfile, []), (.startInitialize 7 1000, []),
    (.poll 10 15, replied 0x54 0x49 :: replied 0x30 0x55 :: List.replicate 13 (replied 0 0)),
    (.wake, [replied 0 0]), (.startAcquire ⟨0x02⟩ 8 1000, []),
    (.poll 20 2, [replied 0x00 0x04, replied 0x01 0x23])]

/-- All 18 exchanges of the bench are permitted, its channel field is the requested channel, and the
poll that goes on from there ends whatever it reads. -/
theorem register_and_index_safety_bench :
    (exchange (runOf benchDataRead).1).length = 18 ∧
    (∀ t ∈ (runOf benchDataRead).1, ∀ event ∈ t.events, event.1.Permitted benchProfile) ∧
    (runOf benchDataRead).2.progress.phase = .readDataLsb ∧
    (∃ index ∈ maskChannels ⟨0x02⟩, (runOf benchDataRead).2.jobChannel = channelAt index) ∧
    ∀ replies : ℕ → Reply, ∃ events result,
      (Call.exec (.poll 30 4) (runOf benchDataRead).2).Yields events result ∧
        events.map Prod.snd = (List.range events.length).map replies := by
  obtain ⟨hends, hpermitted, -, hchannel⟩ := register_and_index_safety
  have hrun := run_runOf benchDataRead
  have hreach : Reachable (runOf benchDataRead).2 := ⟨_, hrun⟩
  have hprofile : (runOf benchDataRead).1.all (fun t =>
      t.events.isEmpty || decide (t.before.config = benchProfile)) = true := by decide +kernel
  have hphase : (runOf benchDataRead).2.progress.phase = .readDataLsb := by decide +kernel
  have hmask : (runOf benchDataRead).2.progress.requestedChannels = ⟨0x02⟩ := by decide +kernel
  refine ⟨by decide +kernel, fun t ht event hevent => ?_, hphase, ?_, ?_⟩
  · have hconfig := List.all_eq_true.mp hprofile t ht
    cases hevents : t.events with
    | nil =>
        rw [hevents] at hevent
        cases hevent
    | cons first rest =>
        rw [hevents, List.isEmpty_cons, Bool.false_or, decide_eq_true_eq] at hconfig
        rw [← hconfig]
        exact (hpermitted _ _ hrun t ht event hevent).2.2
  · rw [← hmask]
    exact hchannel _ hreach.visited (Or.inr hphase)
  · exact (hends _ hreach (.poll 30 4)).2

end Ldc1614
