import Ldc1614.Guarantees.Lifetime
import Ldc1614.Guarantees.Trust
import Ldc1614.Interaction.Journal

/-! # Configuration revisions

Within one binding the profiles installed form a journal with strictly increasing revisions, whose
last entry is the driver's profile. An active job keeps both the profile and its ticket, so that the
revision a result carries names one profile; for a successful acquisition it is the profile that was
in the registers at every transfer of the job. -/

namespace Ldc1614

open Cmd Interaction Driver

/-! ### The journal of installed profiles -/

/-- The profile a call installed, with its revision. -/
def installed (t : DriverTransition) : Option (ℕ × Config) :=
  match t.call with
  | .updateDesiredConfig config =>
      if t.output.toStatus.isOk then some (t.after.configRevision.toNat, config) else none
  | _ => none

/-- The profiles installed in a binding, in order: the one it was bound with, then those of its
updates. -/
def installs (bound : Config) (ts : List DriverTransition) : List (ℕ × Config) :=
  (1, bound) :: ts.filterMap installed

/-! ### What changes the profile -/

section Profile

variable {d d' : Driver} {mark : Mark} {labels : List Mark} {t : DriverTransition}

/-- Within a binding only an update changes the profile or its revision. -/
theorem Step.profile (h : Step d mark d') (hkept : mark.rebinds = false) :
    (d'.config = d.config ∧ d'.configRevision = d.configRevision) ∨
    ∃ config, mark.call = .updateDesiredConfig config ∧ d.Updatable config := by
  have hframe {e : Driver} (h : e.frame = d.frame) :
      e.config = d.config ∧ e.configRevision = d.configRevision :=
    ⟨(congrArg Driver.config h :), (congrArg Driver.configRevision h :)⟩
  cases h with
  | @job stage _ _ _ reply hrun hdue =>
      cases hv : d.verdict stage reply with
      | none =>
          rw [resume_driver_of_none hv]
          exact Or.inl (hframe (settled_frame d stage reply))
      | some verdict =>
          rw [resume_driver_of_some hv]
          exact Or.inl (hframe (e := d.settled stage reply) (settled_frame d stage reply))
  | direct hdirect => exact Or.inl (hframe hdirect.frame_eq)
  | quiet hquiet =>
      cases hquiet with
      | bound => cases hkept
      | ended => cases hkept
      | updated config hu => exact Or.inr ⟨config, rfl, hu⟩
      | expired =>
          exact Or.inl (hframe (e := d.recordInterruption deadlineExpired)
            (recordInterruption_frame _))
      | cancelled =>
          exact Or.inl (hframe (e := d.recordInterruption operationCancelled)
            (recordInterruption_frame _))
      | _ => exact Or.inl ⟨rfl, rfl⟩

/-- An update call: it is accepted and installs its profile, or nothing happens. -/
theorem update_outcome {config : Config} (hv : t.Valid Call.exec)
    (hcall : t.call = .updateDesiredConfig config) :
    (t.output.toStatus.isOk = true ∧ t.before.Updatable config ∧ t.after = t.before.retain config) ∨
    (t.output.toStatus.isOk = false ∧ t.after = t.before) := by
  rw [Transition.Valid, hcall] at hv
  obtain ⟨-, hend⟩ := hv
  obtain ⟨hafter, houtput⟩ := Prod.mk.inj hend
  have hquiet := Driver.quiet_updateDesiredConfig (d := t.before) config
  rw [← hafter, ← houtput] at hquiet
  generalize t.output = output at hquiet ⊢
  generalize t.after = after at hquiet ⊢
  cases hquiet with
  | kept heffect => exact Or.inr ⟨heffect, rfl⟩
  | updated _ hu => exact Or.inl ⟨rfl, hu, rfl⟩
  | started hstarts => cases hstarts

/-- Within a binding a call installs a profile under the next revision, or changes neither. -/
theorem transition_installs (hw : t.before.WellFormed) (hv : t.Valid Call.exec)
    (hkept : t.call.rebinds t.output = false) :
    (installed t = none ∧ t.after.config = t.before.config ∧
      t.after.configRevision = t.before.configRevision) ∨
    ∃ config, installed t = some (t.after.configRevision.toNat, config) ∧ t.before.Updatable config ∧
      t.after = t.before.retain config := by
  by_cases hupdate : ∃ config, t.call = .updateDesiredConfig config
  · obtain ⟨config, hcall⟩ := hupdate
    rcases update_outcome hv hcall with ⟨hok, hu, hafter⟩ | ⟨hrefused, hafter⟩
    · refine Or.inr ⟨config, ?_, hu, hafter⟩
      rw [installed, hcall]
      exact if_pos hok
    · refine Or.inl ⟨?_, by rw [hafter], by rw [hafter]⟩
      rw [installed, hcall]
      exact if_neg (by simp [hrefused])
  · have hnone : installed t = none := by
      unfold installed
      split
      · next config hcall => exact absurd ⟨config, hcall⟩ hupdate
      · rfl
    refine Or.inl ⟨hnone, ?_⟩
    -- no mark of the call is an update
    have hlabels : ∀ mark ∈ marks t, mark.rebinds = false ∧
        ∀ config, mark.call ≠ .updateDesiredConfig config := by
      intro mark hmark
      rcases List.mem_append.mp hmark with hbefore | hlast
      · refine ⟨(before_return t mark hbefore).1, ?_⟩
        rcases List.mem_append.mp hbefore with hnested | hbus
        · unfold nestedMarks at hnested
          split at hnested
          · split at hnested
            · obtain rfl := List.mem_singleton.mp hnested
              exact fun config => Call.noConfusion
            · cases hnested
          · cases hnested
        · obtain ⟨event, -, rfl⟩ := List.mem_map.mp hbus
          exact fun config hcall => hupdate ⟨config, hcall⟩
      · obtain rfl := List.mem_singleton.mp hlast
        exact ⟨hkept, fun config hcall => hupdate ⟨config, hcall⟩⟩
    have hpath := transition_path t hw hv
    generalize marks t = labels at hlabels hpath
    generalize t.after = after at hpath ⊢
    induction hpath with
    | nil => exact ⟨rfl, rfl⟩
    | snoc _ hstep ih =>
        have hprev := ih fun mark hmark => hlabels mark (List.mem_append_left _ hmark)
        obtain ⟨hkept, hother⟩ := hlabels _ (List.mem_append_right _ (List.mem_singleton_self _))
        rcases hstep.profile hkept with ⟨hconfig, hrevision⟩ | ⟨config, hcall, -⟩
        · exact ⟨hconfig.trans hprev.1, hrevision.trans hprev.2⟩
        · exact absurd hcall (hother config)

/-- The revision behind an update is the next number. -/
theorem Driver.Updatable.revision_succ {config : Config} (h : d.Updatable config) :
    (d.retain config).configRevision.toNat = d.configRevision.toNat + 1 := by
  have hone : (1 : U32).toNat = 1 := rfl
  have hlt : d.configRevision.toNat + 1 < 2 ^ 32 := by
    have hbound := d.configRevision.isLt
    by_contra hge
    refine h.revision (BitVec.eq_of_toNat_eq ?_)
    rw [BitVec.toNat_allOnes]
    omega
  show (d.configRevision + 1).toNat = _
  rw [BitVec.toNat_add, hone]
  exact Nat.mod_eq_of_lt hlt

end Profile

/-- **The profiles of a binding are a journal**, whose current entry is the driver's profile. -/
theorem journal_of_run {s u : Driver} {ts : List DriverTransition} (hw : s.WellFormed)
    (hfirst : s.configRevision = 1) (h : DriverRun s ts u)
    (hkept : ∀ t ∈ ts, t.call.rebinds t.output = false) :
    Journal (installs s.config ts) (u.configRevision.toNat, u.config) := by
  induction h with
  | nil =>
      rw [hfirst]
      exact Journal.single _
  | @snoc ts t m m' hrun hlast ih =>
      obtain ⟨rfl, hv, rfl⟩ := hlast
      have hjournal := ih fun t ht => hkept t (List.mem_append_left _ ht)
      have hinstalls : installs s.config (ts ++ [t]) =
          installs s.config ts ++ (installed t).toList := by
        rw [installs, List.filterMap_append, ← List.cons_append]
        cases hnew : installed t <;> simp [hnew, installs]
      rw [hinstalls]
      rcases transition_installs (run_wellFormed hw hrun) hv
        (hkept t (List.mem_append_right _ (List.mem_singleton_self _))) with
        ⟨hnone, hconfig, hrevision⟩ | ⟨config, hsome, hu, hafter⟩
      · rw [hnone, hconfig, hrevision, Option.toList_none, List.append_nil]
        exact hjournal
      · have hgrows : t.before.configRevision.toNat < t.after.configRevision.toNat := by
          rw [hafter, hu.revision_succ]
          exact Nat.lt_succ_self _
        have hnew : t.after.config = config := by
          rw [hafter]
          rfl
        rw [hsome, Option.toList_some, hnew]
        exact hjournal.push hgrows

/-! ### A job keeps its ticket and the profile -/

section Job

variable {d d' : Driver} {mark : Mark} {labels : List Mark} {t : DriverTransition}

theorem job_isSome (d : Driver) : d.mailbox.job.isSome = d.progress.active := by
  unfold mailbox
  cases d.progress.active <;> rfl

/-- What an active driver still carries of an earlier state: the job and the profile. -/
structure Carries (d d' : Driver) : Prop where
  active : d.progress.active = true
  job : d'.mailbox.job = d.mailbox.job
  config : d'.config = d.config
  revision : d'.configRevision = d.configRevision

/-- A step without an admission that ends active began active, with the same job and profile. -/
theorem Step.carries (hw : d.WellFormed) (h : Step d mark d')
    (hnone : ∀ revision, mark.admission revision = none) (hactive : d'.progress.active = true) :
    Carries d d' := by
  cases hrebinds : mark.rebinds with
  | true =>
      have hempty : d'.mailbox.job.isSome = false := by
        rw [h.clears hrebinds]
        rfl
      rw [job_isSome] at hempty
      exact absurd (hactive.symm.trans hempty) Bool.noConfusion
  | false =>
      obtain ⟨finished, hmove⟩ := h.move hw hrebinds
      have hsome : d'.mailbox.job.isSome = true := by
        rw [job_isSome]
        exact hactive
      have hjob := hmove.job_eq (hnone _) hsome
      have hrunning : d.progress.active = true := by
        rw [← job_isSome, ← hjob]
        exact hsome
      rcases h.profile hrebinds with ⟨hconfig, hrevision⟩ | ⟨config, -, hu⟩
      · exact ⟨hrunning, hjob, hconfig, hrevision⟩
      · exact absurd (hrunning.symm.trans hu.idle) Bool.noConfusion

/-- A path without an admission that ends active began active, with the same job and profile. -/
theorem path_carries (hw : d.WellFormed) (h : Path Step d labels d')
    (hnone : ∀ mark ∈ labels, ∀ revision, mark.admission revision = none)
    (hactive : d'.progress.active = true) : Carries d d' := by
  induction h with
  | nil => exact ⟨hactive, rfl, rfl, rfl⟩
  | snoc hpath hstep ih =>
      have hm := hpath.invariant hw fun _ _ _ hw hstep => hstep.wellFormed hw
      have hlast := hstep.carries hm
        (hnone _ (List.mem_append_right _ (List.mem_singleton_self _))) hactive
      have hpast := ih (fun mark hmark => hnone mark (List.mem_append_left _ hmark)) hlast.active
      exact ⟨hpast.active, hlast.job.trans hpast.job, hlast.config.trans hpast.config,
        hlast.revision.trans hpast.revision⟩

/-- A call made while a job is active admits none. -/
theorem no_admission_of_active (hw : t.before.WellFormed) (hv : t.Valid Call.exec)
    (hactive : t.before.progress.active = true) :
    ∀ mark ∈ marks t, ∀ revision, mark.admission revision = none := by
  intro mark hmark revision
  rcases List.mem_append.mp hmark with hbefore | hlast
  · exact (before_return t mark hbefore).2.2 revision
  · obtain rfl := List.mem_singleton.mp hlast
    by_contra hsome
    have hadmitted : (account t).admitted ≠ none := fun h => hsome (Call.admission_eq_none h)
    have hpath := transition_path t hw hv
    rw [marks, bare_of_effect hw hv (Or.inl hadmitted)] at hpath
    obtain ⟨m, hfirst, hstep⟩ := hpath.last
    obtain rfl := hfirst.of_nil
    generalize t.after = after at hstep
    cases hstep with
    | quiet hquiet =>
        rw [Mark.admission] at hsome
        generalize t.call = call at hquiet hsome
        generalize t.output = output at hquiet hsome
        cases hquiet with
        | kept heffect => exact hsome (Call.admission_of_kept heffect)
        | started _ hadm => exact absurd (hactive.symm.trans hadm.idle) Bool.noConfusion
        | _ => exact hsome rfl

/-- A transfer of a job is made while the job is running. -/
theorem Step.running_of_transfer (h : Step d mark d') (htransfer : mark.jobTransfer ≠ none) :
    ∃ stage, d.Running stage := by
  cases h with
  | job hrun => exact ⟨_, hrun⟩
  | direct hdirect => exact absurd hdirect.jobTransfer_eq_none htransfer
  | quiet => exact absurd rfl htransfer

/-- Calls that leave the job active, from an active driver. -/
theorem run_no_admission {u : Driver} {ts : List DriverTransition} (hw : d.WellFormed)
    (h : DriverRun d ts u) (hactive : d.progress.active = true)
    (hall : ∀ t ∈ ts, t.after.progress.active = true) :
    u.progress.active = true ∧
      ∀ mark ∈ timeline ts, ∀ revision, mark.admission revision = none := by
  induction h with
  | nil =>
      refine ⟨hactive, fun mark hmark => ?_⟩
      cases hmark
  | @snoc ts t m m' hrun hlast ih =>
      obtain ⟨rfl, hv, rfl⟩ := hlast
      obtain ⟨hbefore, hnone⟩ := ih fun t ht => hall t (List.mem_append_left _ ht)
      refine ⟨hall t (List.mem_append_right _ (List.mem_singleton_self _)), ?_⟩
      intro mark hmark
      rw [timeline, List.flatMap_append, List.flatMap_singleton] at hmark
      rcases List.mem_append.mp hmark with hpast | hnow
      · exact hnone mark hpast
      · exact no_admission_of_active (run_wellFormed hw hrun) hv hbefore mark hnow

end Job

/-! ### The stamps of a result -/

/-- A result and its parts carry one revision. -/
structure OperationResult.Stamped (result : OperationResult) : Prop where
  progress : result.finalProgress.configRevision = result.configRevision
  batch : result.kind = .acquire → result.outcome = .success →
    result.hasSampleBatch = true ∧ result.sampleBatch.configRevision = result.configRevision

/-- Assembling a batch stamps it with the driver's revision. -/
theorem buildAcquisition_configRevision (d : Driver) (completedUptimeMs : U64) :
    (d.buildAcquisition completedUptimeMs).configRevision = d.configRevision := by
  have hfold (indices : List (Fin 4)) (batch : SampleBatch) :
      (indices.foldl d.addSample batch).configRevision = batch.configRevision := by
    induction indices generalizing batch with
    | nil => rfl
    | cons index rest ih =>
        rw [List.foldl_cons, ih, addSample]
        dsimp only
        split
        · rfl
        · rfl
  exact hfold _ _

/-- A terminal result is stamped with the revision its job was admitted at. -/
theorem terminalResult_stamped {m e : Driver} {stage : Stage} {outcome : TerminalOutcome}
    {status : Status} {nowMs : U64} (hrun : m.Running stage) (hframe : e.frame = m.frame) :
    (e.terminalResult outcome status nowMs).Stamped where
  progress := rfl
  batch hkind hsuccess := by
    have hrevision : e.progress.configRevision = e.configRevision := by
      have hprogress : e.progress.configRevision = m.progress.configRevision :=
        (congrArg (fun e : Driver => e.progress.configRevision) hframe :)
      have hdriver : e.configRevision = m.configRevision := (congrArg Driver.configRevision hframe :)
      rw [hprogress, hdriver]
      exact hrun.revision
    have hsucceeded : (e.progress.kind == .acquire && outcome == .success) = true := by
      have hkind' : e.progress.kind = .acquire := hkind
      have hsuccess' : outcome = .success := hsuccess
      rw [hkind', hsuccess']
      rfl
    unfold terminalResult
    dsimp only
    rw [hsucceeded, if_pos rfl, buildAcquisition_configRevision]
    exact ⟨rfl, hrevision.symm⟩

/-! ### The revision of a published batch -/

/-- The revision of an acquisition names the profile that was in the hardware. The device starts as
`dev₀` when the binding does. -/
structure Published (bound : Config) (dev₀ : Registers) {ts : List DriverTransition}
    (job : JobLife ts) (profile : Config) : Prop where
  /-- Exactly one profile was ever installed under the revision. -/
  named : (installs bound ts).filter
      (fun entry => decide (entry.1 = job.result.configRevision.toNat)) =
    [(job.result.configRevision.toNat, profile)]
  /-- The result, its progress and its batch carry the one revision. -/
  progress : job.result.finalProgress.configRevision = job.result.configRevision
  batch : job.result.hasSampleBatch = true ∧
    job.result.sampleBatch.configRevision = job.result.configRevision
  /-- The profile is the desired one before, between and behind the calls of the job. -/
  desired : job.start.before.config = profile ∧
    ∀ t ∈ job.start :: (job.mid ++ [job.last]), t.after.config = profile
  /-- At every transfer of the job the registers hold the profile, with sleep off. -/
  hardware : ∀ labels mark rest dev,
    timeline (job.mid ++ [job.last]) = labels ++ mark :: rest → mark.jobTransfer ≠ none →
    DeviceRun dev₀ (timeline (job.past ++ [job.start]) ++ labels) dev → Holds profile false dev

section Binding

variable {s u : Driver} {ts : List DriverTransition} {dev₀ : Registers}

/-- Around a job of a binding: the states are well formed, and no call of the job admits. -/
theorem JobLife.quiet (job : JobLife ts) (hs : s.WellFormed) (h : DriverRun s ts u)
    (hkept : ∀ t ∈ ts, t.call.rebinds t.output = false) :
    job.start.after.WellFormed ∧ job.last.before.WellFormed ∧
      job.start.after.progress.active = true ∧ job.last.before.progress.active = true ∧
      ∀ mark ∈ timeline (job.mid ++ [job.last]), ∀ revision, mark.admission revision = none := by
  obtain ⟨hbefore, hstart, hmid, hlast, -⟩ := job.around h
  have hw := run_wellFormed hs hbefore
  have hstarted : job.start.after.WellFormed := run_wellFormed hw (Path.single ⟨rfl, hstart, rfl⟩)
  have hmoves := transition_move hw hstart (hkept _ (job.mem List.mem_cons_self))
  have hactive : job.start.after.progress.active = true := by
    obtain ⟨ticket, hticket⟩ := Option.ne_none_iff_exists'.mp job.admitted
    rw [← job_isSome, hmoves.accepted hticket]
    rfl
  obtain ⟨hend, hnone⟩ := run_no_admission hstarted hmid hactive job.active
  have hw' := run_wellFormed hstarted hmid
  refine ⟨hstarted, hw', hactive, hend, ?_⟩
  intro mark hmark
  rw [timeline, List.flatMap_append, List.flatMap_singleton] at hmark
  rcases List.mem_append.mp hmark with hpast | hnow
  · exact hnone mark hpast
  · exact no_admission_of_active hw' hlast hend mark hnow

/-- The states of a job between two of its marks, and the profile and trust in them. -/
theorem JobLife.carries (job : JobLife ts) (hs : s.WellFormed) (h : DriverRun s ts u)
    (hkept : ∀ t ∈ ts, t.call.rebinds t.output = false) :
    Carries job.start.after job.last.before ∧
      ∀ labels mark rest, timeline (job.mid ++ [job.last]) = labels ++ mark :: rest →
        mark.jobTransfer ≠ none → ∃ m stage, Path Step job.start.after labels m ∧
          m.Running stage ∧ Carries job.start.after m := by
  obtain ⟨hbefore, hstart, hmid, hlast, -⟩ := job.around h
  obtain ⟨hw, -, -, hend, hnone⟩ := job.quiet hs h hkept
  have hcalls := run_path hw (Run.snoc hmid hlast)
  constructor
  · refine path_carries hw (run_path hw hmid) (fun mark hmark => hnone mark ?_) hend
    rw [timeline, List.flatMap_append]
    exact List.mem_append_left _ hmark
  · intro labels mark rest hsplit htransfer
    rw [hsplit] at hcalls hnone
    obtain ⟨m, m', hpath, hstep, -⟩ := Path.around hcalls
    obtain ⟨stage, hrun⟩ := hstep.running_of_transfer htransfer
    exact ⟨m, stage, hpath, hrun,
      path_carries hw hpath (fun mark hmark => hnone mark (List.mem_append_left _ hmark)) hrun.active⟩

/-- The revision of a result is the driver's throughout its job. -/
theorem JobLife.revision (job : JobLife ts) (hs : s.WellFormed) (h : DriverRun s ts u)
    (hkept : ∀ t ∈ ts, t.call.rebinds t.output = false) :
    job.last.before.mailbox.job = some job.result.admission ∧
      job.result.configRevision = job.last.before.configRevision := by
  obtain ⟨-, hw, -, hend, -⟩ := job.quiet hs h hkept
  obtain ⟨-, -, -, hlast, -⟩ := job.around h
  have hmoves := transition_move hw hlast
    (hkept _ (job.mem (List.mem_cons_of_mem _ (by simp))))
  have hticket := hmoves.ticket_eq job.finished
  obtain ⟨stage, hrun⟩ := hw.running hend
  have hprogress : job.last.before.progress.admission = job.result.admission := by
    unfold mailbox at hticket
    rw [if_pos hend] at hticket
    exact Option.some.inj hticket
  have hrevision : job.last.before.progress.configRevision = job.result.configRevision :=
    congrArg Ticket.configRevision hprogress
  exact ⟨hticket, hrevision.symm.trans hrun.revision⟩

/-- The run up to the end of a job. -/
theorem JobLife.upto (job : JobLife ts) (h : DriverRun s ts u) :
    DriverRun s (job.past ++ job.start :: (job.mid ++ [job.last])) job.last.after := by
  obtain ⟨hbefore, hstart, hmid, hlast, -⟩ := job.around h
  have hcalls := (Run.snoc hbefore hstart).append (Run.snoc hmid hlast)
  rwa [List.append_assoc, List.singleton_append] at hcalls

/-- The profile of a job is in the journal of its binding. -/
theorem JobLife.installed (job : JobLife ts) (hs : s.WellFormed) (hfirst : s.configRevision = 1)
    (h : DriverRun s ts u) (hkept : ∀ t ∈ ts, t.call.rebinds t.output = false) :
    (job.last.before.configRevision.toNat, job.last.before.config) ∈ installs s.config ts := by
  obtain ⟨hbefore, hstart, hmid, -, -⟩ := job.around h
  have hrun := (Run.snoc hbefore hstart).append hmid
  have hcalls : ts = job.past ++ [job.start] ++ job.mid ++ (job.last :: job.later) := by
    have hts := job.calls
    simpa using hts
  have hfront : ∀ t ∈ job.past ++ [job.start] ++ job.mid, t ∈ ts := by
    intro t ht
    rw [hcalls]
    exact List.mem_append_left _ ht
  have hjournal := journal_of_run hs hfirst hrun fun t ht => hkept t (hfront t ht)
  have hinstalls : installs s.config ts = installs s.config (job.past ++ [job.start] ++ job.mid) ++
      (job.last :: job.later).filterMap Ldc1614.installed := by
    have hsplit := congrArg (installs s.config) hcalls
    rw [hsplit, installs, List.filterMap_append, ← List.cons_append]
    rfl
  rw [hinstalls]
  exact List.mem_append_left _ hjournal.mem

/-- A call around which a job is active keeps the profile. -/
theorem config_of_active {t : DriverTransition} (hw : t.before.WellFormed)
    (hv : t.Valid Call.exec) (hkept : t.call.rebinds t.output = false)
    (hactive : t.before.progress.active = true ∨ t.after.progress.active = true) :
    t.after.config = t.before.config := by
  rcases transition_installs hw hv hkept with ⟨-, hconfig, -⟩ | ⟨config, -, hu, hafter⟩
  · exact hconfig
  · -- an update needs an idle driver and leaves it idle
    have hidle : t.after.progress.active = false := by
      rw [hafter]
      exact hu.idle
    rcases hactive with hbefore | hbehind
    · exact absurd (hbefore.symm.trans hu.idle) Bool.noConfusion
    · exact absurd (hbehind.symm.trans hidle) Bool.noConfusion

/-- Calls that leave a job active keep the profile. -/
theorem run_config {d : Driver} {calls : List DriverTransition} (hw : d.WellFormed)
    (h : DriverRun d calls u) (hkept : ∀ t ∈ calls, t.call.rebinds t.output = false)
    (hactive : ∀ t ∈ calls, t.after.progress.active = true) :
    u.config = d.config ∧ ∀ t ∈ calls, t.after.config = d.config := by
  induction h with
  | nil => exact ⟨rfl, fun t ht => by cases ht⟩
  | @snoc calls t m m' hrun hlast ih =>
      obtain ⟨rfl, hv, rfl⟩ := hlast
      obtain ⟨hbefore, hall⟩ := ih (fun t ht => hkept t (List.mem_append_left _ ht))
        fun t ht => hactive t (List.mem_append_left _ ht)
      have ht : t ∈ calls ++ [t] := List.mem_append_right _ (List.mem_singleton_self _)
      have hconfig := config_of_active (run_wellFormed hw hrun) hv (hkept t ht)
        (Or.inr (hactive t ht))
      refine ⟨hconfig.trans hbefore, fun t' ht' => ?_⟩
      rcases List.mem_append.mp ht' with ht' | ht'
      · exact hall t' ht'
      · obtain rfl := List.mem_singleton.mp ht'
        exact hconfig.trans hbefore

/-- The profile is the same before, between and behind the calls of a job. -/
theorem JobLife.desired (job : JobLife ts) (hs : s.WellFormed) (h : DriverRun s ts u)
    (hkept : ∀ t ∈ ts, t.call.rebinds t.output = false) :
    job.start.before.config = job.last.before.config ∧
      ∀ t ∈ job.start :: (job.mid ++ [job.last]), t.after.config = job.last.before.config := by
  obtain ⟨hbefore, hstart, hmid, hlast, -⟩ := job.around h
  obtain ⟨hw, hw', hactive, hend, -⟩ := job.quiet hs h hkept
  have hfirst := config_of_active (run_wellFormed hs hbefore) hstart
    (hkept _ (job.mem List.mem_cons_self)) (Or.inr hactive)
  have hfinal := config_of_active hw' hlast
    (hkept _ (job.mem (List.mem_cons_of_mem _ (by simp)))) (Or.inl hend)
  obtain ⟨hconst, hall⟩ := run_config hw hmid
    (fun t ht => hkept t (job.mem (List.mem_cons_of_mem _ (List.mem_append_left _ ht)))) job.active
  refine ⟨(hconst.trans hfirst).symm, fun t ht => ?_⟩
  rcases List.mem_cons.mp ht with rfl | ht
  · exact hconst.symm
  · rcases List.mem_append.mp ht with ht | ht
    · exact (hall t ht).trans hconst.symm
    · obtain rfl := List.mem_singleton.mp ht
      exact hfinal

/-- At every transfer of an acquisition the registers hold the profile. -/
theorem JobLife.hardware (job : JobLife ts) (hs : s.WellFormed) (h : DriverRun s ts u)
    (hkept : ∀ t ∈ ts, t.call.rebinds t.output = false) (hm : Mirrors s dev₀)
    (hkind : job.result.kind = .acquire) (labels : List Mark) (mark : Mark) (rest : List Mark)
    (dev : Registers) (hsplit : timeline (job.mid ++ [job.last]) = labels ++ mark :: rest)
    (htransfer : mark.jobTransfer ≠ none)
    (hdev : DeviceRun dev₀ (timeline (job.past ++ [job.start]) ++ labels) dev) :
    Holds job.last.before.config false dev := by
  obtain ⟨hbefore, hstart, -, -, -⟩ := job.around h
  obtain ⟨hcarries, hall⟩ := job.carries hs h hkept
  obtain ⟨m, stage, hpath, hrun, hcarried⟩ := hall labels mark rest hsplit htransfer
  have hmirrors := hm.path hs ((run_path hs (Run.snoc hbefore hstart)).append hpath) hdev
  -- the job under way is the acquisition
  have hjob : m.mailbox.job = some job.result.admission := by
    rw [hcarried.job, ← hcarries.job]
    exact (job.revision hs h hkept).1
  have hacquire : m.progress.kind = .acquire := by
    unfold mailbox at hjob
    rw [if_pos hrun.active] at hjob
    have hkind' := congrArg Ticket.kind (Option.some.inj hjob)
    exact hkind'.trans hkind
  have htrusted := hrun.trusted
  rw [Stage.trusts_of_isAcquire (by rw [hrun.isAcquire, hacquire]; rfl)] at htrusted
  have hholds := hmirrors.trusted false (by rw [htrusted]; rfl)
  rwa [hcarried.config, ← hcarries.config] at hholds

end Binding

/-- **A published revision names the profile that was in the hardware.** Within one binding, against
every transport and next to every device: revisions strictly increase with every successful update
and never wrap, and the revision of a successful acquisition is that of exactly one profile, which
was desired during the whole job and held by the registers at each of its transfers. -/
theorem revision_names_profile {s u : Driver} {ts : List DriverTransition}
    (h : WithinBinding s ts u) :
    (installs s.config ts).Pairwise (fun a b => a.1 < b.1) ∧
      (∀ t ∈ ts, ∀ config, t.call = .updateDesiredConfig config →
        (t.output.toStatus.isOk = true → t.after.config = config ∧
          t.after.configRevision.toNat = t.before.configRevision.toNat + 1) ∧
        (t.before.configRevision = BitVec.allOnes 32 →
          t.output.toStatus.isOk = false ∧ t.after = t.before)) ∧
      ∀ (dev₀ : Registers) (job : JobLife ts), job.result.kind = .acquire →
        job.result.outcome = .success → ∃ profile, Published s.config dev₀ job profile := by
  have hs := h.wellFormed
  obtain ⟨past, bind, _, hpast, -, -⟩ := h.binding
  obtain ⟨d, config, -, -, hstart⟩ := h.start
  have hfirst : s.configRevision = 1 := by
    rw [hstart]
    rfl
  refine ⟨(journal_of_run hs hfirst h.run h.kept).sorted, ?_, ?_⟩
  · intro t ht config hcall
    obtain ⟨before, after, rfl⟩ := List.append_of_mem ht
    obtain ⟨-, hvalid, -⟩ := Run.around h.run
    rcases update_outcome hvalid hcall with ⟨hok, hu, hafter⟩ | ⟨hrefused, hafter⟩
    · rw [hafter]
      exact ⟨fun _ => ⟨rfl, hu.revision_succ⟩, fun hlast => absurd hlast hu.revision⟩
    · exact ⟨fun hok => absurd (hok.symm.trans hrefused) Bool.noConfusion,
        fun _ => ⟨hrefused, hafter⟩⟩
  · intro dev₀ job hkind hsuccess
    obtain ⟨hbefore, hstarted, hmid, hlast, hlater⟩ := job.around h.run
    have hm : Mirrors s dev₀ := by
      rw [hstart]
      exact mirrors_of_unknown rfl rfl dev₀
    have hmem := job.installed hs hfirst h.run h.kept
    have hsorted := (journal_of_run hs hfirst h.run h.kept).sorted
    obtain ⟨-, hrevision⟩ := job.revision hs h.run h.kept
    obtain ⟨hprogress, hbatch⟩ : job.result.Stamped := by
      have hvisited : Visited job.last.after :=
        ⟨_, run_path wellFormed_initial (hpast.append (job.upto h.run))⟩
      refine hvisited.forall_queue (fun m stage e outcome status nowMs hrun hframe =>
        terminalResult_stamped hrun hframe) job.result ?_
      have hfinished := job.finished
      rw [account] at hfinished
      split at hfinished
      · exact List.mem_of_getLast? hfinished
      · cases hfinished
    refine ⟨job.last.before.config,
      { named := ?_
        progress := hprogress
        batch := hbatch hkind hsuccess
        desired := job.desired hs h.run h.kept
        hardware := job.hardware hs h.run h.kept hm hkind }⟩
    rw [hrevision]
    exact filter_key hsorted hmem

/-- The second profile of the bench. -/
def benchUpdated : Config := { benchProfile with deglitch := .bw3Mhz }

/-- A bench binding: a replay, an update that is applied, a wake and an acquisition of both
channels. -/
def benchAcquisition : List (Call × List Reply) :=
  [(.startInitialize 7 1000, []),
    (.poll 10 15, replied 0x54 0x49 :: replied 0x30 0x55 :: List.replicate 13 (replied 0 0)),
    (.takeResult, []), (.updateDesiredConfig benchUpdated, []), (.startApplyConfig 8 1000, []),
    (.poll 20 13, List.replicate 13 (replied 0 0)), (.wake, [replied 0 0]),
    (.startAcquire ⟨0x03⟩ 9 1000, []), (.poll 30 6, List.replicate 6 (replied 0 0x0F))]

/-- The batch of the bench acquisition names the second of the two profiles of its binding. -/
theorem revision_names_profile_bench : ∃ s ts u, WithinBinding s ts u ∧
    installs s.config ts = [(1, benchProfile), (2, benchUpdated)] ∧
    ∃ job : JobLife ts, job.result.kind = .acquire ∧ job.result.outcome = .success ∧
      job.result.sampleBatch.configRevision = 2 ∧
      Published s.config resetRegisters job benchUpdated := by
  have hbinding : WithinBinding (Driver.initial.boundTo benchProfile)
      (runBound benchProfile benchAcquisition).1 (runBound benchProfile benchAcquisition).2 :=
    withinBinding_runBound (by decide +kernel) (by decide +kernel) (by decide +kernel)
  have hinstalls : installs benchProfile (runBound benchProfile benchAcquisition).1 =
      [(1, benchProfile), (2, benchUpdated)] := by decide +kernel
  have hlives : livesAt (runBound benchProfile benchAcquisition).1 7 0 = true := by decide +kernel
  have hresult : (runBound benchProfile benchAcquisition).1[8]?.bind (fun t =>
      (account t).finished.map fun result =>
        (result.kind, result.outcome, result.configRevision)) = some (.acquire, .success, 2) := by
    decide +kernel
  obtain ⟨job, -, hlast, -⟩ := exists_job hlives
  rw [hlast, Option.bind_some, job.finished, Option.map_some, Option.some_inj, Prod.mk.injEq,
    Prod.mk.injEq] at hresult
  obtain ⟨hkind, hsuccess, hrevision⟩ := hresult
  obtain ⟨profile, hpublished⟩ :=
    (revision_names_profile hbinding).2.2 resetRegisters job hkind hsuccess
  -- the second entry is the only one under revision 2
  have hnamed := hpublished.named
  rw [hrevision] at hnamed
  obtain rfl : benchUpdated = profile := by
    have hconfig : (Driver.initial.boundTo benchProfile).config = benchProfile := rfl
    rw [hconfig, hinstalls] at hnamed
    have hlist : [((2 : ℕ), benchUpdated)] = [(2, profile)] := hnamed
    exact (Prod.mk.inj (List.cons.inj hlist).1).2
  exact ⟨_, _, _, hbinding, hinstalls, job, hkind, hsuccess,
    hpublished.batch.2.trans hrevision, hpublished⟩

end Ldc1614
