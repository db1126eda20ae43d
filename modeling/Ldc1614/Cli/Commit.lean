import Ldc1614.Cli.StagedProfile
import Ldc1614.Driver.Evaluate

/-! # Committing the staged profile

The command line and the driver take turns, in any order. Whatever has been edited, bound or reset
in between, the staged copy is for the binding the driver has, so that a commit is decided by the
profile alone. -/

namespace Ldc1614

open Interaction

/-! ### The driver between commands -/

/-- The call may change the profile the driver holds, or its binding. -/
def Call.setsProfile : Call → Bool
  | .bind _ | .end_ | .updateDesiredConfig _ => true
  | _ => false

variable {d d' : Driver} {mark : Mark} {t : DriverTransition}

/-- A step of another call keeps the profile and the binding. -/
theorem Step.keeps_profile (h : Step d mark d') (hcall : mark.call.setsProfile = false) :
    d'.config = d.config ∧ d'.bound = d.bound := by
  have hframe {e : Driver} (h : e.frame = d.frame) : e.config = d.config ∧ e.bound = d.bound :=
    ⟨(congrArg Driver.config h :), (congrArg Driver.bound h :)⟩
  cases h with
  | @job stage _ _ _ reply hrun hdue =>
      cases hv : d.verdict stage reply with
      | none =>
          rw [Driver.resume_driver_of_none hv]
          exact hframe (Driver.settled_frame d stage reply)
      | some verdict =>
          rw [Driver.resume_driver_of_some hv]
          exact hframe (e := d.settled stage reply) (Driver.settled_frame d stage reply)
  | direct hdirect => exact hframe hdirect.frame_eq
  | quiet hquiet =>
      cases hquiet with
      | bound => cases hcall
      | ended => cases hcall
      | updated => cases hcall
      | expired =>
          exact hframe (e := d.recordInterruption Driver.deadlineExpired)
            (Driver.recordInterruption_frame _)
      | cancelled =>
          exact hframe (e := d.recordInterruption Driver.operationCancelled)
            (Driver.recordInterruption_frame _)
      | _ => exact ⟨rfl, rfl⟩

/-- A call that does not set the profile keeps it. -/
theorem transition_keeps_profile (hw : t.before.WellFormed) (hv : t.Valid Call.exec)
    (hcall : t.call.setsProfile = false) :
    t.after.config = t.before.config ∧ t.after.bound = t.before.bound := by
  have hlabels : ∀ mark ∈ marks t, mark.call.setsProfile = false := by
    intro mark hmark
    rcases mem_marks hmark with rfl | ⟨event, rfl⟩ | rfl
    · rfl
    · exact hcall
    · exact hcall
  have hpath := (transition_path t hw hv).restrict hlabels
  refine hpath.invariant
    (I := fun d => d.config = t.before.config ∧ d.bound = t.before.bound) ⟨rfl, rfl⟩ ?_
  rintro m mark m' ⟨hconfig, hbound⟩ ⟨hstep, hcall⟩
  obtain ⟨hconfig', hbound'⟩ := hstep.keeps_profile hcall
  exact ⟨hconfig'.trans hconfig, hbound'.trans hbound⟩

end Ldc1614

namespace Ldc1614.CommandLine

open Interaction

namespace Staging

/-! ### Runs -/

/-- What happens in a run: a command line with its answer, or a call of the driver. -/
inductive Event where
  | command (working : Bool) (defaults again : Config) (argv : Argv) (answer : Answer)
  | device (t : DriverTransition)

/-- One command line, or a call of the driver for another command, a session or the service pass. -/
inductive Step : Staging → Event → Staging → Prop
  | command (s : Staging) (working : Bool) (defaults again : Config) (argv : Argv) :
      Step s (.command working defaults again argv
        (s.processCommand working defaults again argv).2)
        (s.processCommand working defaults again argv).1
  | device (s : Staging) (t : DriverTransition) (hv : t.Valid Call.exec)
      (hbefore : t.before = s.device) (hcall : t.call.setsProfile = false) :
      Step s (.device t) { s with device := t.after }

/-- The copy, once made, is for the binding of the driver, and its profile until it is edited. -/
structure Aligned (s : Staging) : Prop where
  sound : s.device.WellFormed
  binding : s.stagedInitialized = true → s.device.bound = true →
    SameBinding s.stagedConfig s.device.config
  clean : s.stagedInitialized = true → s.stagedDirty = false → s.device.bound = true →
    s.stagedConfig = s.device.config
  made : s.stagedDirty = true → s.stagedInitialized = true

variable {s u : Staging} {defaults again : Config} {argv : Argv}

/-! ### What a command line comes to -/

/-- Making the copy leaves the driver alone. -/
theorem ensure_device (s : Staging) (defaults : Config) :
    (s.ensureStagedProfile defaults).device = s.device := by
  unfold ensureStagedProfile
  split <;> rfl

/-- A setting leaves the driver alone. -/
theorem handleSetting_device (s : Staging) (id : CommandId) (setting : Argv → Config → Setting)
    (argv : Argv) (defaults : Config) :
    (s.handleSetting id setting argv defaults).1.device = s.device := by
  have hensured := ensure_device s defaults
  unfold handleSetting
  dsimp only
  split <;> exact hensured

/-- What `profile` comes to. -/
theorem handleProfile_cases {P : Staging × Answer → Prop} (hsame : ∀ answer, P (s, answer))
    (hensured : ∀ answer, P (s.ensureStagedProfile defaults, answer))
    (hreset : P ((s.ensureStagedProfile defaults).resetStagedProfile again, .done))
    (hdiscard : P ((s.ensureStagedProfile defaults).discardStagedProfile again, .done))
    (hcommit : P (s.ensureStagedProfile defaults).commit) :
    P (s.handleProfile argv defaults again) := by
  unfold handleProfile
  split
  · dsimp only
    split
    · exact hensured _
    · split
      · exact hreset
      · split
        · exact hdiscard
        · split <;> exact hensured _
  · dsimp only
    split
    · exact hcommit
    · exact hensured _
  · exact hsame _

/-- What a command line comes to: its handler, or at most a copy that has been made. -/
theorem processCommand_cases {P : Staging × Answer → Prop} {working : Bool}
    (hsame : ∀ answer, P (s, answer))
    (hensured : ∀ answer, P (s.ensureStagedProfile defaults, answer))
    (hsetting : ∀ id setting, settingOf id = some setting →
      P (s.handleSetting id setting argv defaults))
    (hprofile : resolveCommand (argv.headD "") = .profile → P (s.handleProfile argv defaults again))
    (hbind : resolveCommand (argv.headD "") = .bind → P (s.handleBind argv defaults again))
    (hend : resolveCommand (argv.headD "") = .end_ → P (s.handleEnd argv)) :
    P (s.processCommand working defaults again argv) := by
  unfold Staging.processCommand
  dsimp only
  split
  · exact hsame _
  · split
    · exact hsame _
    · split
      · next setting hfound => exact hsetting _ _ hfound
      · split
        · next hid => exact hprofile hid
        · next hid => exact hbind hid
        · next hid => exact hend hid
        -- the commands that only make the copy
        all_goals first
          | exact hsame _
          | exact hensured _
          | (unfold handleShow; split; exacts [hsame _, hensured _])
          | (unfold handleFreq; split; exacts [hensured _, hsame _])

/-! ### The copy and the binding -/

/-- Before a copy is made there is nothing to be aligned. -/
theorem aligned_of_fresh (hw : s.device.WellFormed) (hfresh : s.stagedInitialized = false)
    (hclean : s.stagedDirty = false) : s.Aligned where
  sound := hw
  binding hmade := absurd hmade (by rw [hfresh]; exact Bool.false_ne_true)
  clean hmade := absurd hmade (by rw [hfresh]; exact Bool.false_ne_true)
  made hdirty := absurd hdirty (by rw [hclean]; exact Bool.false_ne_true)

/-- A copy of a bound driver is its profile. -/
theorem Aligned.discard (h : s.Aligned) (defaults : Config) :
    (s.discardStagedProfile defaults).Aligned where
  sound := h.sound
  binding := by
    intro _ hbound
    have hbound : s.device.bound = true := hbound
    simp only [discardStagedProfile, hbound, if_true]
    exact .refl _
  clean := by
    intro _ _ hbound
    have hbound : s.device.bound = true := hbound
    simp only [discardStagedProfile, hbound, if_true]
  made := fun _ => rfl

/-- A copy that is made when it is needed is made anew, or was there. -/
theorem Aligned.ensure (h : s.Aligned) (defaults : Config) :
    (s.ensureStagedProfile defaults).Aligned := by
  unfold ensureStagedProfile
  split
  · exact h
  · exact h.discard defaults

/-- The defaults take over the binding of the driver. -/
theorem Aligned.reset (h : s.Aligned) (defaults : Config) :
    (s.resetStagedProfile defaults).Aligned where
  sound := h.sound
  binding := by
    intro _ hbound
    have hbound : s.device.bound = true := hbound
    simp only [resetStagedProfile, hbound, if_true]
    exact ⟨rfl, rfl, rfl, rfl, rfl, rfl, rfl⟩
  clean := fun _ hdirty => Bool.noConfusion hdirty
  made := fun _ => rfl

/-- Behind it there is a copy. -/
theorem ensure_initialized (s : Staging) (defaults : Config) :
    (s.ensureStagedProfile defaults).stagedInitialized = true := by
  unfold ensureStagedProfile
  split
  · assumption
  · rfl

/-- A setting that leaves the binding alone marks the copy as edited. -/
theorem Aligned.setting (h : s.Aligned) {id : CommandId} {setting : Argv → Config → Setting}
    (hkeeps : Keeps setting) (argv : Argv) (defaults : Config) :
    (s.handleSetting id setting argv defaults).1.Aligned := by
  have hensured := h.ensure defaults
  unfold handleSetting
  dsimp only
  split
  · exact hensured
  · exact hensured
  · exact hensured
  · next config hchanged =>
      refine ⟨hensured.sound, fun hmade hbound => ?_, fun _ hdirty => Bool.noConfusion hdirty,
        fun _ => ensure_initialized s defaults⟩
      exact (hkeeps _ _ _ hchanged).trans (hensured.binding hmade hbound)

/-- A binding is refused and changes nothing, or is made. -/
theorem bind_cases (d : Driver) (config : Config) :
    (d.bind config).2.isOk = false ∧ (d.bind config).1 = d ∨
      (d.bind config).2.isOk = true ∧ (d.bind config).1 = d.boundTo config := by
  unfold Driver.bind
  dsimp only
  split
  · exact Or.inl ⟨rfl, rfl⟩
  · split
    · next hinvalid => exact Or.inl ⟨by simpa using hinvalid, rfl⟩
    · exact Or.inr ⟨rfl, rfl⟩

/-- An update is refused and changes nothing, or installs its profile. -/
theorem update_cases (d : Driver) (config : Config) :
    (d.updateDesiredConfig config).2.isOk = false ∧ (d.updateDesiredConfig config).1 = d ∨
      (d.updateDesiredConfig config).2.isOk = true ∧
        (d.updateDesiredConfig config).1 = d.retain config := by
  unfold Driver.updateDesiredConfig
  dsimp only
  split
  · exact Or.inl ⟨rfl, rfl⟩
  · split
    · exact Or.inl ⟨rfl, rfl⟩
    · split
      · exact Or.inl ⟨rfl, rfl⟩
      · split
        · next hinvalid => exact Or.inl ⟨by simpa using hinvalid, rfl⟩
        · split
          · exact Or.inl ⟨rfl, rfl⟩
          · split
            · exact Or.inl ⟨rfl, rfl⟩
            · exact Or.inr ⟨rfl, rfl⟩

/-- A refused commit changes nothing. An accepted one installs the copy. -/
theorem commit_cases (s : Staging) :
    s.commit.1 = s ∨ s.commit.1 = { s with
      device := s.device.retain s.stagedConfig, stagedDirty := false } ∧
      (s.device.updateDesiredConfig s.stagedConfig).1 = s.device.retain s.stagedConfig ∧
      s.commit.2 = .profileCommit "COMMITTED"
        (s.device.updateDesiredConfig s.stagedConfig).2 := by
  unfold commit
  dsimp only
  split
  · exact Or.inl rfl
  · split
    · exact Or.inl rfl
    · split
      · exact Or.inl rfl
      · split
        · next hready =>
            obtain ⟨-, hdirty⟩ := Bool.and_eq_true_iff.mp hready
            rcases update_cases s.device s.stagedConfig with ⟨hok, hdevice⟩ | ⟨hok, hdevice⟩
            · refine Or.inl ?_
              rw [hdevice, hok, Bool.not_false, ← hdirty]
            · refine Or.inr ⟨?_, hdevice, ?_⟩
              · rw [hdevice, hok, Bool.not_true]
              · rw [hok, if_pos rfl]
        · exact Or.inl rfl

/-- An accepted commit makes the copy the profile of the driver. -/
theorem Aligned.commit (h : s.Aligned) : s.commit.1.Aligned := by
  rcases commit_cases s with hsame | ⟨haccepted, hdevice, -⟩
  · rw [hsame]
    exact h
  · have hupdated := h.sound.quiet (Driver.quiet_updateDesiredConfig (d := s.device) s.stagedConfig)
    rw [hdevice] at hupdated
    rw [haccepted]
    -- the driver now has the copy itself
    exact ⟨hupdated, fun _ _ => .refl _, fun _ _ _ => rfl, fun hdirty => Bool.noConfusion hdirty⟩

/-- Every action of `profile` keeps the copy aligned. -/
theorem Aligned.profile (h : s.Aligned) (argv : Argv) (defaults again : Config) :
    (s.handleProfile argv defaults again).1.Aligned := by
  have hensured := h.ensure defaults
  exact handleProfile_cases (P := fun result => result.1.Aligned) (fun _ => h) (fun _ => hensured)
    (hensured.reset again) (hensured.discard again) hensured.commit

/-- A binding that succeeds makes the copy anew. -/
theorem Aligned.bind (h : s.Aligned) (argv : Argv) (defaults again : Config) :
    (s.handleBind argv defaults again).1.Aligned := by
  unfold handleBind
  dsimp only
  split
  · exact h
  · rcases bind_cases s.device defaults with ⟨hok, hdevice⟩ | ⟨hok, hdevice⟩
    · rw [hok, hdevice]
      exact h
    · have hbound := h.sound.quiet (Driver.quiet_bind (d := s.device) defaults)
      rw [hdevice] at hbound
      rw [hok, hdevice]
      exact ⟨hbound, fun _ _ => .refl _, fun _ _ _ => rfl, fun _ => rfl⟩

/-- `end` drops the copy. -/
theorem Aligned.ended (h : s.Aligned) (argv : Argv) : (s.handleEnd argv).1.Aligned := by
  unfold handleEnd
  split
  · exact h
  · refine ⟨h.sound.quiet .ended, fun hmade => ?_, fun hmade => ?_, fun hdirty => ?_⟩
    · cases hmade
    · cases hmade
    · cases hdirty

/-- Every command line keeps the copy aligned. -/
theorem Aligned.processCommand (h : s.Aligned) (working : Bool) (defaults again : Config)
    (argv : Argv) : (s.processCommand working defaults again argv).1.Aligned :=
  processCommand_cases (P := fun result => result.1.Aligned) (fun _ => h)
    (fun _ => h.ensure defaults)
    (fun _ _ hsetting => h.setting (settingOf_keeps hsetting) argv defaults)
    (fun _ => h.profile argv defaults again) (fun _ => h.bind argv defaults again)
    (fun _ => h.ended argv)

/-- Every step does: calls of the driver leave the profile and the binding alone. -/
theorem Aligned.step {event : Event} (h : s.Aligned) (hstep : Step s event u) : u.Aligned := by
  cases hstep with
  | command working defaults again argv => exact h.processCommand working defaults again argv
  | device t hv hbefore hcall =>
      obtain ⟨hconfig, hbound⟩ := transition_keeps_profile (hbefore ▸ h.sound) hv hcall
      rw [hbefore] at hconfig hbound
      have hpath := transition_path t (hbefore ▸ h.sound) hv
      refine ⟨?_, fun hmade hfree => ?_, fun hmade hclean hfree => ?_, h.made⟩
      · exact hpath.invariant (hbefore ▸ h.sound) fun _ _ _ hw hstep => hstep.wellFormed hw
      · show SameBinding s.stagedConfig t.after.config
        rw [hconfig]
        exact h.binding hmade (hbound.symm.trans hfree)
      · show s.stagedConfig = t.after.config
        rw [hconfig]
        exact h.clean hmade hclean (hbound.symm.trans hfree)

/-! ### What decides a commit -/

/-- An update of a sleeping driver that keeps its binding is decided by the profile and by the
revision. -/
theorem update_decided {d : Driver} {config : Config} (hbound : d.bound = true)
    (hidle : d.progress.active = false) (hasleep : d.appliedState = .appliedSleeping)
    (hvalid : (validateConfig config).isOk = true) (hbinding : SameBinding config d.config) :
    d.updateDesiredConfig config =
      if d.configRevision = BitVec.allOnes 32 then
        (d, .error .invalidConfig "Config revision exhausted")
      else (d.retain config, .ok) := by
  simp [Driver.updateDesiredConfig, hbound, hidle, hasleep, hvalid, hbinding.i2cWrite,
    hbinding.i2cWriteRead, hbinding.i2cUser, hbinding.i2cAddress, hbinding.variant]

/-- What a commit of an edited copy to a sleeping driver comes to. -/
def committed (s : Staging) : Staging × Answer :=
  if (validateConfig s.stagedConfig).isOk then
    if s.device.configRevision = BitVec.allOnes 32 then
      (s, .profileCommit "REJECTED" (.error .invalidConfig "Config revision exhausted"))
    else
      ({ s with device := s.device.retain s.stagedConfig, stagedDirty := false },
        .profileCommit "COMMITTED" .ok)
  else (s, .profileCommit "REJECTED" (validateConfig s.stagedConfig))

/-- A commit of an edited copy for the binding of a sleeping driver is decided. -/
theorem commit_decided (hbound : s.device.bound = true) (hidle : s.device.progress.active = false)
    (hasleep : s.device.appliedState = .appliedSleeping) (hdirty : s.stagedDirty = true)
    (hbinding : SameBinding s.stagedConfig s.device.config) : s.commit = s.committed := by
  unfold commit committed
  cases hvalid : (validateConfig s.stagedConfig).isOk with
  | false => simp [hbound, hidle, hasleep, hvalid]
  | true =>
      have hupdate := update_decided hbound hidle hasleep hvalid hbinding
      by_cases hlast : s.device.configRevision = BitVec.allOnes 32
      · have hsame : ({ s with stagedDirty := true } : Staging) = s := by rw [← hdirty]
        have hrefused : (!(Err.invalidConfig == Err.ok)) = true := rfl
        rw [if_pos hlast] at hupdate ⊢
        simp [hbound, hidle, hasleep, hvalid, hdirty, hupdate, hrefused, hsame]
      · rw [if_neg hlast] at hupdate ⊢
        simp [hbound, hidle, hasleep, hvalid, hdirty, hupdate]

/-- The command line hands the commit on. -/
theorem processCommand_commit {name : String} (hname : resolveCommand name = .profile)
    (hidle : s.device.progress.active = false) (hmade : s.stagedInitialized = true) :
    s.processCommand false defaults again [name, "commit", "confirm"] = s.commit := by
  have hensured : s.ensureStagedProfile defaults = s := by
    rw [ensureStagedProfile, if_pos hmade]
  have hconfirmed : ("commit" == "commit" && isConfirmed "confirm") = true := by decide
  have hcommit : s.handleProfile [name, "commit", "confirm"] defaults again = s.commit := by
    simp only [handleProfile, hensured, hconfirmed, if_true]
  rw [← hcommit]
  simp [Staging.processCommand, hname, hidle, settingOf]

/-- Of the other commands only an accepted commit changes the driver. -/
theorem device_kept {working : Bool} (hbind : resolveCommand (argv.headD "") ≠ .bind)
    (hend : resolveCommand (argv.headD "") ≠ .end_)
    (hcommit : ∀ status,
      (s.processCommand working defaults again argv).2 ≠ .profileCommit "COMMITTED" status) :
    (s.processCommand working defaults again argv).1.device = s.device := by
  have hensured := ensure_device s defaults
  revert hcommit
  refine processCommand_cases (P := fun result =>
    (∀ status, result.2 ≠ .profileCommit "COMMITTED" status) → result.1.device = s.device)
    (fun _ _ => rfl) (fun _ _ => hensured) ?_ ?_ (fun hid => absurd hid hbind)
    (fun hid => absurd hid hend)
  · intro id setting _ _
    exact handleSetting_device s id setting argv defaults
  · intro _
    refine handleProfile_cases (P := fun result =>
      (∀ status, result.2 ≠ .profileCommit "COMMITTED" status) → result.1.device = s.device)
      (fun _ _ => rfl) (fun _ _ => hensured) (fun _ => hensured) (fun _ => hensured) ?_
    intro hcommit
    rcases commit_cases (s.ensureStagedProfile defaults) with hsame | ⟨-, -, hanswer⟩
    · rw [hsame]
      exact hensured
    · exact absurd hanswer (hcommit _)

/-- **A commit installs what was staged.** In whatever order copies have been edited, reset and
discarded, the driver bound, ended and called: the copy is for the binding the driver has; the
commit of an edited copy to a sleeping driver is decided by the profile and by the revision; and
behind no other command than `bind`, `end` and an accepted commit is the driver any different. -/
theorem staged_profile_commits {events : List Event} (hs : Reachable s.device)
    (hfresh : s.stagedInitialized = false) (hclean : s.stagedDirty = false)
    (h : Path Step s events u) :
    (u.stagedInitialized = true → u.device.bound = true →
        SameBinding u.stagedConfig u.device.config) ∧
      (∀ name defaults again, resolveCommand name = .profile → u.device.bound = true →
        u.device.progress.active = false → u.device.appliedState = .appliedSleeping →
        u.stagedDirty = true →
        u.processCommand false defaults again [name, "commit", "confirm"] = u.committed) ∧
      ∀ working defaults again argv, resolveCommand (argv.headD "") ≠ .bind →
        resolveCommand (argv.headD "") ≠ .end_ →
        (∀ status, (u.processCommand working defaults again argv).2 ≠
          .profileCommit "COMMITTED" status) →
        (u.processCommand working defaults again argv).1.device = u.device := by
  have hstart := aligned_of_fresh hs.wellFormed hfresh hclean
  have haligned : u.Aligned := h.invariant hstart fun _ _ _ hm hstep => hm.step hstep
  refine ⟨haligned.binding, ?_, ?_⟩
  · intro name defaults again hname hbound hidle hasleep hdirty
    have hmade := haligned.made hdirty
    rw [← commit_decided hbound hidle hasleep hdirty (haligned.binding hmade hbound)]
    exact processCommand_commit hname hidle hmade
  · intro working defaults again argv hbind hend hcommit
    exact device_kept hbind hend hcommit

/-- A bench whose profile is on the device, asleep. -/
def benchAsleep : Driver :=
  reachedBy [(.bind benchProfile, []), (.startInitialize 7 1000, []),
    (.poll 10 15, replied 0x54 0x49 :: replied 0x30 0x55 :: List.replicate 13 (replied 0 0))]

/-- The command line on it, behind one setting. -/
def benchEdited : Staging :=
  (processCommand { device := benchAsleep } false benchProfile benchProfile ["deglitch", "3"]).1

/-- The setting reaches the driver with the commit. -/
theorem staged_profile_commits_bench : ∃ s events, Path Step s events benchEdited ∧
    (benchEdited.processCommand false {} {} ["profile", "commit", "confirm"]).2 =
      .profileCommit "COMMITTED" .ok ∧
    (benchEdited.processCommand false {} {} ["profile", "commit", "confirm"]).1.device =
      benchAsleep.retain { benchProfile with deglitch := .bw3Mhz } := by
  have hreach : Reachable benchAsleep := reachable_reachedBy _
  have hpath : Path Step { device := benchAsleep } _ benchEdited := Path.single (.command _ _ _ _ _)
  obtain ⟨-, hcommit, -⟩ :=
    staged_profile_commits (s := { device := benchAsleep }) hreach rfl rfl hpath
  have hdecided := hcommit "profile" {} {} (by decide +kernel) (by decide +kernel)
    (by decide +kernel) (by decide +kernel) (by decide +kernel)
  refine ⟨_, _, hpath, ?_, ?_⟩
  · rw [hdecided]
    decide +kernel
  · rw [hdecided]
    decide +kernel

end Staging

end Ldc1614.CommandLine
