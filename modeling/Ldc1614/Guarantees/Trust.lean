import Mathlib.Tactic.SplitIfs
import Ldc1614.Device.Registers
import Ldc1614.Driver.Evaluate

/-! # Trust in the applied profile

When the driver says that the profile is applied, the registers of the device hold it, whatever the
transport answered and whatever its failed writes did. `Mirrors` is the invariant behind it: a
trusted profile is in the registers, and so are the writes a replay under way has confirmed. A replay
writes no register twice, so that confirmed writes stay. -/

namespace Ldc1614

open Cmd Interaction Driver

/-! ### Profiles in registers -/

/-- The registers hold the profile, in sleep mode or not: every persistent register reads back as
`expectedConfigurationRegister` says. -/
structure Holds (config : Config) (sleeping : Bool) (dev : Registers) : Prop where
  expected : ∀ reg, (expectedConfigurationRegister config reg).status.isOk = true →
    dev reg &&& (expectedConfigurationRegister config reg).comparisonMask =
      (expectedConfigurationRegister config reg).expectedValue &&&
        (expectedConfigurationRegister config reg).comparisonMask
  sleepBit : (dev regConfig &&& maskCfgSleepModeEn) =
    if sleeping then maskCfgSleepModeEn else 0

/-- What the applied state claims about the device: nothing, or the profile with sleep mode on or
off. -/
def AppliedConfigState.claim : AppliedConfigState → Option Bool
  | .appliedSleeping => some true
  | .appliedActive => some false
  | _ => none

section Profile

variable {config : Config} {sleeping : Bool} {dev dev' : Registers} {reg : U8}

/-- A register of the profile is that of exactly one replay write. -/
theorem expected_eq (h : (expectedConfigurationRegister config reg).status.isOk = true) :
    ∃ applyStep : U8, applyStep.toNat < profileLength config ∧
      (Stage.writeAt config applyStep).reg = reg ∧
      (expectedConfigurationRegister config reg).expectedValue =
        (Stage.writeAt config applyStep).value ∧
      (expectedConfigurationRegister config reg).comparisonMask =
        configurationComparisonMask reg := by
  unfold expectedConfigurationRegister at h ⊢
  dsimp only at h ⊢
  split at h
  · next hinvalid =>
      rw [Bool.not_eq_true'] at hinvalid
      exact absurd (hinvalid.symm.trans h) Bool.noConfusion
  next hvalid =>
  rw [if_neg hvalid]
  split at h
  · next write hfind =>
      have hmatch := List.find?_some hfind
      obtain ⟨step, hstep, hwrite⟩ := List.mem_map.mp (List.mem_of_find?_eq_some hfind)
      obtain ⟨n, hn, rfl⟩ := List.mem_map.mp hstep
      have hlt : n < profileLength config := List.mem_range.mp hn
      rw [Bool.and_eq_true, beq_iff_eq] at hmatch
      subst hwrite
      exact ⟨BitVec.ofNat 8 n, by rw [toNat_ofNat_profile hlt]; exact hlt, hmatch.2, rfl, rfl⟩
  · cases h

/-- Only bits that writes own are compared. -/
theorem comparisonMask_persistent (reg : U8) :
    configurationComparisonMask reg &&& persistentBits reg = configurationComparisonMask reg := by
  revert reg
  decide +kernel

/-- Words that agree on the persistent bits agree on the compared ones. -/
theorem compared_of_persistent {a b : U16}
    (h : a &&& persistentBits reg = b &&& persistentBits reg) :
    a &&& configurationComparisonMask reg = b &&& configurationComparisonMask reg := by
  rw [← comparisonMask_persistent reg, BitVec.and_comm (configurationComparisonMask reg),
    ← BitVec.and_assoc, ← BitVec.and_assoc, h]

/-- CONFIG has no bits of its own. -/
theorem persistentBits_config : persistentBits regConfig = BitVec.allOnes 16 := by decide

/-- A register of the profile can be written, and is not RESET_DEV. -/
theorem writable_of_expected (h : (expectedConfigurationRegister config reg).status.isOk = true) :
    isConfigurationRegister reg = true ∧ reg ≠ regResetDev := by
  obtain ⟨applyStep, hlt, rfl, -, -⟩ := expected_eq h
  exact ⟨(replay_layout hlt).writable, (replay_layout hlt).notReset⟩

/-- The same configuration holds the same profile. -/
theorem Holds.same (h : Holds config sleeping dev) (hsame : SameConfiguration dev dev') :
    Holds config sleeping dev' where
  expected reg hreg := by
    obtain ⟨applyStep, hlt, -, -, hmask⟩ := expected_eq hreg
    rw [← h.expected reg hreg, hmask]
    exact compared_of_persistent (hsame reg (writable_of_expected hreg).1)
  sleepBit := by
    have hconfig := hsame regConfig (by decide)
    rw [persistentBits_config, BitVec.and_allOnes, BitVec.and_allOnes] at hconfig
    rw [hconfig]
    exact h.sleepBit

/-! ### Sleep mode -/

/-- A conditional mask and another one. -/
theorem setBits_and (value mask other : U16) (condition : Bool) :
    setBits value condition mask &&& other =
      setBits (value &&& other) condition (mask &&& other) := by
  unfold setBits
  cases condition with
  | false => rfl
  | true =>
      rw [if_pos rfl, if_pos rfl]
      exact BitVec.and_or_distrib_right

@[simp] theorem setBits_zero (value : U16) (condition : Bool) : setBits value condition 0 = value := by
  cases condition with
  | false => rfl
  | true => exact BitVec.or_zero

/-- The sleep bit of CONFIG is the one asked for. -/
theorem buildConfigRegister_sleep (config : Config) (sleeping : Bool) :
    buildConfigRegister config sleeping &&& maskCfgSleepModeEn =
      if sleeping then maskCfgSleepModeEn else 0 := by
  have hchannel (word : U16) : word &&& maskCfgActiveChan &&& maskCfgSleepModeEn = 0 := by
    have hdisjoint : maskCfgActiveChan &&& maskCfgSleepModeEn = 0 := by decide
    rw [BitVec.and_assoc, hdisjoint]
    exact BitVec.and_zero
  -- no other field reaches the bit
  have hfields : configReservedValue &&& maskCfgSleepModeEn = 0 ∧
      maskCfgRpOverrideEn &&& maskCfgSleepModeEn = 0 ∧
      maskCfgSensorActivateSel &&& maskCfgSleepModeEn = 0 ∧
      maskCfgAutoAmpDis &&& maskCfgSleepModeEn = 0 ∧
      maskCfgRefClkSrc &&& maskCfgSleepModeEn = 0 ∧ maskCfgIntbDis &&& maskCfgSleepModeEn = 0 ∧
      maskCfgHighCurrentDrv &&& maskCfgSleepModeEn = 0 ∧
      maskCfgSleepModeEn &&& maskCfgSleepModeEn = maskCfgSleepModeEn := by decide
  obtain ⟨hreserved, hrp, hactivate, hamp, hclock, hintb, hdrive, hself⟩ := hfields
  simp only [buildConfigRegister, setBits_and, hchannel, hreserved, hrp, hactivate, hamp, hclock,
    hintb, hdrive, hself, setBits_zero]
  cases sleeping with
  | false => rfl
  | true => exact BitVec.zero_or

/-- The other bits of CONFIG do not depend on it. -/
theorem buildConfigRegister_awake (config : Config) (sleeping : Bool) :
    buildConfigRegister config sleeping &&& ~~~maskCfgSleepModeEn =
      buildConfigRegister config true &&& ~~~maskCfgSleepModeEn := by
  have hself : maskCfgSleepModeEn &&& ~~~maskCfgSleepModeEn = 0 := by decide
  simp only [buildConfigRegister, setBits_and, hself, setBits_zero]

/-- Among the replay writes only the first one is to CONFIG. -/
theorem writeAt_config {applyStep : U8} (h : applyStep.toNat < profileLength config)
    (hconfig : (Stage.writeAt config applyStep).reg = regConfig) :
    (Stage.writeAt config applyStep).value = buildConfigRegister config true := by
  have hzero : (0 : U8).toNat < profileLength config := by
    have := profileLength_pos config
    show 0 < _
    omega
  have hfirst : (Stage.writeAt config applyStep).reg = (Stage.writeAt config 0).reg := by
    rw [hconfig, writeAt_zero]
  obtain rfl := replay_injective h hzero hfirst
  rw [writeAt_zero]

/-- A CONFIG write switches sleep mode of a profile. -/
theorem Holds.switch (h : Holds config sleeping dev) (target : Bool)
    (hsame : SameConfiguration
      (dev.applyWrite regConfig (buildConfigRegister config target)) dev') :
    Holds config target dev' where
  expected reg hreg := by
    obtain ⟨applyStep, hlt, hwrite, hvalue, hmask⟩ := expected_eq hreg
    by_cases hconfig : reg = regConfig
    · subst hconfig
      have hstored := compared_of_persistent (hsame.stored (by decide) (by decide))
      have hcompared : configurationComparisonMask regConfig = ~~~maskCfgSleepModeEn := by decide
      rw [hmask, hstored, hvalue, writeAt_config hlt hwrite, hcompared]
      exact buildConfigRegister_awake config target
    · rw [← h.expected reg hreg, hmask]
      exact compared_of_persistent
        (hsame.untouched (by decide) (writable_of_expected hreg).1 hconfig)
  sleepBit := by
    have hstored := hsame.stored (by decide) (by decide)
    rw [persistentBits_config, BitVec.and_allOnes, BitVec.and_allOnes] at hstored
    rw [hstored]
    exact buildConfigRegister_sleep config target

/-- A complete replay leaves the profile in the registers, asleep. -/
theorem Holds.of_replay (h : ∀ applyStep : U8, applyStep.toNat < profileLength config →
      dev.Written (Stage.writeAt config applyStep)) : Holds config true dev where
  expected reg hreg := by
    obtain ⟨applyStep, hlt, rfl, hvalue, hmask⟩ := expected_eq hreg
    rw [hvalue, hmask]
    exact compared_of_persistent (h applyStep hlt)
  sleepBit := by
    have hfirst := h 0 (by
      have := profileLength_pos config
      show 0 < _
      omega)
    rw [Registers.Written, writeAt_zero] at hfirst
    dsimp only at hfirst
    rw [persistentBits_config, BitVec.and_allOnes, BitVec.and_allOnes] at hfirst
    rw [hfirst]
    exact buildConfigRegister_sleep config true

end Profile

/-! ### The device under a run -/

/-- What the driver knows about the device: the profile it trusts is in the registers, and so are
the writes a replay under way has confirmed. -/
structure Mirrors (d : Driver) (dev : Registers) : Prop where
  trusted : ∀ sleeping, d.appliedState.claim = some sleeping → Holds d.config sleeping dev
  replayed : ∀ applyStep : U8, d.progress.active = true → d.stage = some (.profile applyStep) →
    ∀ earlier : U8, earlier < applyStep → dev.Written (Stage.writeAt d.config earlier)

section Steps

variable {d d' : Driver} {dev dev' : Registers} {stage : Stage} {reply : Reply} {nowMs : U64}
  {mark : Mark}

/-- An idle driver that claims nothing new of an unchanged device. -/
theorem Mirrors.idle (hm : Mirrors d dev) (hsame : SameConfiguration dev dev')
    (hconfig : d'.config = d.config) (hidle : d'.progress.active = false)
    (hclaim : d'.appliedState.claim = none ∨ d'.appliedState = d.appliedState) :
    Mirrors d' dev' where
  trusted sleeping hsleeping := by
    rcases hclaim with hnone | hkept
    · rw [hnone] at hsleeping
      cases hsleeping
    · rw [hconfig]
      rw [hkept] at hsleeping
      exact (hm.trusted sleeping hsleeping).same hsame
  replayed _ hactive := absurd (hactive.symm.trans hidle) Bool.noConfusion

/-- Whatever leaves the profile, the trust and the job alone keeps the mirror. -/
theorem Mirrors.same (hm : Mirrors d dev) (hw : d.WellFormed) (hsame : SameConfiguration dev dev')
    (hconfig : d'.config = d.config) (hstate : d'.appliedState = d.appliedState)
    (hactive : d'.progress.active = d.progress.active) (hstage : d'.stage = d.stage) :
    Mirrors d' dev' where
  trusted sleeping hclaim := by
    rw [hconfig]
    rw [hstate] at hclaim
    exact (hm.trusted sleeping hclaim).same hsame
  replayed applyStep hrunning hhere earlier hlt := by
    rw [hactive] at hrunning
    rw [hstage] at hhere
    rw [hconfig]
    obtain ⟨stage, hrun⟩ := hw.running hrunning
    obtain rfl : stage = .profile applyStep := Option.some.inj (hrun.here.symm.trans hhere)
    have hearlier : earlier.toNat < profileLength d.config :=
      lt_trans (BitVec.lt_def.mp hlt) hrun.profile_lt
    exact (hsame _ (replay_layout hearlier).writable).trans
      (hm.replayed applyStep hrunning hhere earlier hlt)

/-- A replay write of a running job is written to a plain register. -/
theorem Driver.Running.profile_plain {applyStep : U8} (h : d.Running (.profile applyStep)) :
    (Stage.writeAt d.config applyStep).reg ≠ regResetDev ∧
      isConfigurationRegister (Stage.writeAt d.config applyStep).reg = true :=
  ⟨(replay_layout h.profile_lt).notReset, (replay_layout h.profile_lt).writable⟩

/-- Behind a confirmed replay write, it and all earlier ones are in the registers. -/
theorem Mirrors.written {applyStep : U8} (hm : Mirrors d dev) (hrun : d.Running (.profile applyStep))
    (hsame : SameConfiguration (dev.applyWrite (Stage.writeAt d.config applyStep).reg
      (Stage.writeAt d.config applyStep).value) dev') :
    ∀ earlier : U8, earlier.toNat ≤ applyStep.toNat →
      dev'.Written (Stage.writeAt d.config earlier) := by
  obtain ⟨hreset, hconfig⟩ := hrun.profile_plain
  intro earlier hle
  rcases Nat.lt_or_eq_of_le hle with hlt | heq
  · -- no register is written twice
    have hearlier : earlier.toNat < profileLength d.config := lt_trans hlt hrun.profile_lt
    have hne : (Stage.writeAt d.config earlier).reg ≠ (Stage.writeAt d.config applyStep).reg := by
      intro hreg
      obtain rfl := replay_injective hearlier hrun.profile_lt hreg
      exact absurd hlt (lt_irrefl _)
    have hbefore := hm.replayed applyStep hrun.active hrun.here earlier (BitVec.lt_def.mpr hlt)
    exact (hsame.untouched hreset (replay_layout hearlier).writable hne).trans hbefore
  · obtain rfl := BitVec.eq_of_toNat_eq heq
    exact hsame.stored hreset hconfig

/-- The next stage of a replay, if it is a profile write. -/
theorem Driver.Running.next_profile {applyStep : U8} {next : Stage} (h : d.Running stage)
    (hnext : (d.settled stage reply).Running next) (hprofile : next = .profile applyStep) :
    applyStep = 0 ∨ ∃ earlier, stage = .profile earlier ∧ applyStep = earlier + 1 ∧
      applyStep.toNat = earlier.toNat + 1 := by
  have hkind : d.progress.kind ≠ .acquire := by
    have hacquire := hnext.isAcquire
    rw [hprofile, settled_kind] at hacquire
    intro hkind
    rw [decide_eq_true hkind] at hacquire
    cases hacquire
  have hfollows := h.follows hnext hkind
  rw [hprofile] at hfollows
  cases hfollows with
  | afterDevice => exact Or.inl rfl
  | afterWrite earlier hwrap =>
      refine Or.inr ⟨earlier, rfl, rfl, ?_⟩
      have hone : (1 : U8).toNat = 1 := rfl
      rw [BitVec.toNat_add, hone]
      refine Nat.mod_eq_of_lt ?_
      by_contra hge
      refine hwrap (BitVec.eq_of_toNat_eq ?_)
      have hlt := earlier.isLt
      rw [BitVec.toNat_add, hone]
      show _ = 0
      omega

/-- A failed write that is not recorded has not reached the device. -/
theorem not_reached_of_not_recorded (h : d.mustRecord reply.status = false) :
    transferFailureMayHaveReachedDevice reply.status = false := by
  rw [mustRecord, Bool.or_eq_false_iff] at h
  exact h.1

/-- What the driver claims behind a transfer is so. -/
theorem Mirrors.claim_behind (hm : Mirrors d dev) (hrun : d.Running stage)
    (h : Leaves dev (stage.transfer d.config) reply.status dev') (sleeping : Bool)
    (hclaim : (d.trustAfter stage reply).claim = some sleeping) : Holds d.config sleeping dev' := by
  have hkept (hsame : SameConfiguration dev dev') (hstate : d.trustAfter stage reply = d.appliedState) :
      Holds d.config sleeping dev' := by
    rw [hstate] at hclaim
    exact (hm.trusted sleeping hclaim).same hsame
  cases stage with
  | reset =>
      rw [trustAfter] at hclaim hkept
      split at hclaim
      · cases hclaim
      next hlost =>
      rw [if_neg hlost] at hkept
      rw [Bool.not_eq_true, Bool.or_eq_false_iff] at hlost
      exact hkept (h.of_not_reached (not_reached_of_not_recorded hlost.2)) rfl
  | profile applyStep =>
      rw [trustAfter] at hclaim hkept
      split at hclaim
      · next hok =>
          split at hclaim
          · next hlast =>
              -- the replay is complete
              cases hclaim
              refine Holds.of_replay fun earlier hlt => ?_
              refine hm.written hrun (h.of_isOk hok) earlier ?_
              have hsucc : (applyStep + 1).toNat ≤ applyStep.toNat + 1 := by
                rw [BitVec.toNat_add]
                exact Nat.mod_le _ _
              omega
          · cases hclaim
      · next hfailed =>
          rw [if_neg hfailed] at hkept
          split at hclaim
          · cases hclaim
          next hlost =>
          rw [if_neg hlost] at hkept
          rw [Bool.not_eq_true] at hlost
          exact hkept (h.of_not_reached (not_reached_of_not_recorded hlost)) rfl
  | identity index =>
      rw [trustAfter] at hclaim hkept
      split at hclaim
      · cases hclaim
      next hpassed =>
      rw [if_neg hpassed] at hkept
      split at hclaim
      · cases hclaim
      next hknown =>
      rw [if_neg hknown] at hkept
      exact hkept h.of_read rfl
  | _ => exact hkept h.of_read rfl

/-- A transfer of a running job keeps the mirror. -/
theorem Mirrors.job (hm : Mirrors d dev) (hw : d.WellFormed) (hrun : d.Running stage)
    (h : Leaves dev (stage.transfer d.config) reply.status dev') :
    Mirrors (d.resume stage reply nowMs).driver dev' where
  trusted := by
    have hconfig : (d.resume stage reply nowMs).driver.config = d.config := by
      cases hv : d.verdict stage reply with
      | none => rw [resume_driver_of_none hv, settled_config]
      | some verdict => rw [resume_driver_of_some hv, finishJob_config, settled_config]
    rw [resume_appliedState, hconfig]
    exact hm.claim_behind hrun h
  replayed applyStep hactive hstage earlier hlt := by
    cases hv : d.verdict stage reply with
    | some verdict =>
        rw [resume_driver_of_some hv] at hactive
        cases hactive
    | none =>
        rw [resume_driver_of_none hv] at hstage ⊢
        obtain ⟨next, hnext⟩ := hrun.settled (hw.validProfile hrun.bound) hv
        obtain rfl : next = .profile applyStep := Option.some.inj (hnext.here.symm.trans hstage)
        rw [settled_config]
        rcases hrun.next_profile hnext rfl with rfl | ⟨last, rfl, -, hsucc⟩
        · exact absurd (BitVec.lt_def.mp hlt) (Nat.not_lt_zero _)
        · have hnat := BitVec.lt_def.mp hlt
          exact hm.written hrun (h.of_isOk (isOk_of_verdict hv)) earlier (by omega)

/-- An exchange outside a job keeps the mirror. -/
theorem Mirrors.direct {call : Call} {event : Event} (hm : Mirrors d dev) (hw : d.WellFormed)
    (h : d.Direct call event d') (hdev : DeviceStep dev (.bus call event) dev') : Mirrors d' dev' := by
  have hleaves {transfer : Transfer} {reply : Reply}
      (hdev : DeviceStep dev (.bus call (d.directRequest transfer, reply)) dev') :
      Leaves dev transfer reply.status dev' := by
    cases hdev with
    | transfer hrequest h =>
        rw [directRequest, transfer_request] at hrequest
        obtain rfl := Option.some.inj hrequest
        exact h
    | observe hrequest =>
        rw [directRequest, transfer_request] at hrequest
        cases hrequest
    | rebound hrebinds => cases hrebinds
  -- behind the CONFIG write of `sleep` and `wake`
  have hswitch {reply : Reply} {sleeping target : Bool} {source trust : AppliedConfigState}
      (hidle : d.progress.active = false) (hsource : d.appliedState = source)
      (hfrom : source.claim = some sleeping) (hto : trust.claim = some target)
      (h : Leaves dev (.write regConfig (buildConfigRegister d.config target)) reply.status dev') :
      Mirrors ((d.tracked reply.status).configWritten trust reply.status).1 dev' := by
    rw [configWritten_eq]
    refine
      { trusted := fun claimed hclaim => ?_
        replayed := fun _ hactive => absurd (hactive.symm.trans hidle) Bool.noConfusion }
    have hheld := hm.trusted sleeping (by rw [hsource, hfrom])
    dsimp only at hclaim
    split at hclaim
    · next hok =>
        obtain rfl := Option.some.inj (hto.symm.trans hclaim)
        exact hheld.switch target (h.of_isOk hok)
    · split at hclaim
      · cases hclaim
      · next hlost =>
          rw [Bool.not_eq_true] at hlost
          exact (hm.trusted claimed hclaim).same (h.of_not_reached hlost)
  cases h with
  | observed =>
      have hsame : SameConfiguration dev dev' := by
        cases hdev with
        | transfer hrequest => cases hrequest
        | observe _ h => exact h
        | rebound hrebinds => cases hrebinds
      exact hm.same hw hsame rfl rfl rfl rfl
  | read _ _ hidle => exact hm.idle (hleaves hdev).of_read rfl hidle (Or.inr rfl)
  | slept _ hidle hstate => exact hswitch hidle hstate rfl rfl (hleaves hdev)
  | woken _ hidle hstate => exact hswitch hidle hstate rfl rfl (hleaves hdev)
  | wrote reg value _ hidle =>
      rw [diagnosticWritten_eq]
      split
      · refine
          { trusted := fun sleeping hclaim => ?_
            replayed := fun _ hactive => absurd (hactive.symm.trans hidle) Bool.noConfusion }
        simp only [recordConfigFault] at hclaim
        split at hclaim <;> cases hclaim
      · next hlost =>
          rw [Bool.not_eq_true, Bool.or_eq_false_iff] at hlost
          exact hm.idle ((hleaves hdev).of_not_reached hlost.2) rfl hidle (Or.inr rfl)

/-- Ending a job between its transfers keeps the mirror. -/
theorem Mirrors.interrupted {outcome : TerminalOutcome} {cause : Status} (hm : Mirrors d dev)
    (hsame : SameConfiguration dev dev') :
    Mirrors ((d.recordInterruption cause).finishJob outcome cause nowMs).1 dev' := by
  have hconfig : ((d.recordInterruption cause).finishJob outcome cause nowMs).1.config = d.config :=
    (congrArg Driver.config (recordInterruption_frame cause) :)
  have hstate : ((d.recordInterruption cause).finishJob outcome cause nowMs).1.appliedState = _ :=
    recordInterruption_appliedState cause
  refine hm.idle hsame hconfig rfl ?_
  rw [hstate]
  split
  · exact Or.inl rfl
  · exact Or.inr rfl

/-- Returning from a call keeps the mirror. -/
theorem Mirrors.quiet {call : Call} {output : Output} (hm : Mirrors d dev) (hw : d.WellFormed)
    (h : d.Quiet call output d') (hdev : DeviceStep dev (.ret call output) dev') :
    Mirrors d' dev' := by
  have hsame (hkept : call.rebinds output = false) : SameConfiguration dev dev' := by
    cases hdev with
    | idle h => exact h
    | rebound hrebinds => exact absurd (hkept.symm.trans hrebinds) Bool.noConfusion
  -- without a claim there is nothing to hold
  have hnothing {e : Driver} (hclaim : e.appliedState.claim = none)
      (hidle : e.progress.active = false) : Mirrors e dev' :=
    { trusted := fun sleeping hsome => by
        rw [hclaim] at hsome
        cases hsome
      replayed := fun _ hactive => absurd (hactive.symm.trans hidle) Bool.noConfusion }
  cases h with
  | kept heffect => exact hm.same hw (hsame (Call.rebinds_of_kept heffect)) rfl rfl rfl rfl
  | bound => exact hnothing rfl rfl
  | ended => exact hnothing rfl rfl
  | updated config hu =>
      refine hnothing ?_ hu.idle
      simp only [retain]
      split
      · rfl
      · next hunknown =>
          rw [not_not] at hunknown
          rw [hunknown]
          rfl
  | @started _ kind channels operationId deadlineMs maximumTransfers start hstarts hadm hstart =>
      have hkept : call.rebinds (.status scheduled) = false := by cases hstarts <;> rfl
      refine
        { trusted := fun sleeping hclaim => (hm.trusted sleeping hclaim).same (hsame hkept)
          replayed := fun applyStep _ hstage earlier hlt => ?_ }
      -- a job starts before its first replay write
      have hfirst := (hstarts.running hw hadm hstart).here
      obtain rfl : applyStep = 0 := by
        have heq : firstStage kind = .profile applyStep :=
          Option.some.inj (hfirst.symm.trans hstage)
        cases hstarts <;> cases heq
        rfl
      exact absurd (BitVec.lt_def.mp hlt) (Nat.not_lt_zero _)
  | expired => exact hm.interrupted (hsame rfl)
  | cancelled => exact hm.interrupted (hsame rfl)
  | taken hpos hhead => exact hm.same hw (hsame rfl) rfl rfl rfl rfl
  | invalidated reason hidle => exact hnothing rfl hidle

/-- **Every step keeps the mirror**, whatever the device does with it. -/
theorem Mirrors.step (hm : Mirrors d dev) (hw : d.WellFormed) (h : Step d mark d')
    (hdev : DeviceStep dev mark dev') : Mirrors d' dev' := by
  cases h with
  | job hrun hdue =>
      refine hm.job hw hrun ?_
      cases hdev with
      | transfer hrequest h =>
          rw [transfer_request] at hrequest
          obtain rfl := Option.some.inj hrequest
          exact h
      | observe hrequest =>
          rw [transfer_request] at hrequest
          cases hrequest
      | rebound hrebinds => cases hrebinds
  | direct hdirect => exact hm.direct hw hdirect hdev
  | quiet hquiet => exact hm.quiet hw hquiet hdev

/-- Along every path, next to every device. -/
theorem Mirrors.path {labels : List Mark} (hm : Mirrors d dev) (hw : d.WellFormed)
    (h : Path Step d labels d') (hdev : DeviceRun dev labels dev') : Mirrors d' dev' := by
  have key : d'.WellFormed ∧ Mirrors d' dev' := by
    refine (h.both hdev).invariant (I := fun m => m.1.WellFormed ∧ Mirrors m.1 m.2) ⟨hw, hm⟩ ?_
    rintro m mark m' ⟨hw, hm⟩ ⟨hstep, hdevice⟩
    exact ⟨hstep.wellFormed hw, hm.step hw hstep hdevice⟩
  exact key.2

/-- A driver that claims nothing and does nothing mirrors every device. -/
theorem mirrors_of_unknown (hstate : d.appliedState = .unknown)
    (hidle : d.progress.active = false) (dev : Registers) : Mirrors d dev where
  trusted sleeping hclaim := by
    rw [hstate] at hclaim
    cases hclaim
  replayed _ hactive := absurd (hactive.symm.trans hidle) Bool.noConfusion

end Steps

/-! ### Trust is sound -/

/-- **Trust in the applied profile is sound.** After every run of public operations, against every
transport and next to every device: when the applied state is `APPLIED_SLEEPING`, the registers hold
the profile asleep, and when it is `APPLIED_ACTIVE`, they hold it awake. -/
theorem trust_sound {ts : List DriverTransition} {d : Driver} {dev₀ dev : Registers}
    (h : DriverRun Driver.initial ts d) (hdev : DeviceRun dev₀ (timeline ts) dev) :
    (d.appliedState = .appliedSleeping → Holds d.config true dev) ∧
      (d.appliedState = .appliedActive → Holds d.config false dev) := by
  have hm := (mirrors_of_unknown (d := Driver.initial) rfl rfl dev₀).path wellFormed_initial
    (run_path wellFormed_initial h) hdev
  constructor
  · intro hasleep
    exact hm.trusted true (by rw [hasleep]; rfl)
  · intro hawake
    exact hm.trusted false (by rw [hawake]; rfl)

/-- A bench run: a replay behind a confirmed identity, and a wake. -/
def benchWake : List (Call × List Reply) :=
  [(.bind benchProfile, []), (.startInitialize 7 1000, []),
    (.poll 10 15, replied 0x54 0x49 :: replied 0x30 0x55 :: List.replicate 13 (replied 0 0)),
    (.wake, [replied 0 0])]

/-- Behind the bench run a device that took the writes holds the profile, awake. -/
theorem trust_sound_awake : ∃ ts d dev, DriverRun Driver.initial ts d ∧
    DeviceRun resetRegisters (timeline ts) dev ∧ d.appliedState = .appliedActive ∧
    Holds d.config false dev := by
  have hstate : (runFromStart benchWake).map Driver.appliedState = some .appliedActive := by
    decide +kernel
  obtain ⟨d, hd, hactive⟩ := Option.map_eq_some_iff.mp hstate
  obtain ⟨ts, hrun⟩ := reachable_of_runFromStart hd
  have hdev := deviceRun_foldl resetRegisters (timeline ts)
  exact ⟨ts, d, _, hrun, hdev, hactive, (trust_sound hrun hdev).2 hactive⟩

end Ldc1614
