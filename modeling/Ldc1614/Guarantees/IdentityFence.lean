import Ldc1614.Driver.Evaluate
import Ldc1614.Interaction.History

/-! # The identity fence

The driver keeps no identity flag; it encodes the identity in the applied state. This file says what
that encoding means: outside `UNKNOWN`, some job has read both identity registers with their words,
and nothing that revokes the identity has happened since. The history is the timeline of the run. -/

namespace Ldc1614

open Cmd Interaction

/-! ### Marks that establish and revoke the identity -/

/-- The call starts a job. -/
def Call.isStart : Call → Bool
  | .startInitialize _ _ | .startApplyConfig _ _ | .startResetAndReapply _ _
  | .startAcquire _ _ _ => true
  | _ => false

/-- A job was admitted. -/
def Admits (mark : Mark) : Prop :=
  ∃ call output, mark = .ret call output ∧ call.isStart = true ∧
    output.toStatus.inProgress = true

/-- A job's identity read returned OK with its word. -/
def Confirms (index : Fin 2) (mark : Mark) : Prop :=
  ∃ reply, mark.jobTransfer = some (.read (Driver.identitySteps.get index).reg, reply) ∧
    (Driver.identitySteps.get index).Matches reply

/-- A job's identity read failed or returned another value. -/
def Disproves (mark : Mark) : Prop :=
  ∃ index reply, mark.jobTransfer = some (.read (Driver.identitySteps.get index).reg, reply) ∧
    ¬ (Driver.identitySteps.get index).Matches reply

/-- A RESET_DEV write, by whichever call, that succeeded or may have reached the device. -/
def Resets (mark : Mark) : Prop :=
  ∃ call request reply value, mark = .bus call (request, reply) ∧
    request.transfer = some (.write regResetDev value) ∧
    (reply.status.isOk = true ∨ transferFailureMayHaveReachedDevice reply.status = true)

/-- A successful bind, an end or an invalidation. -/
def Discards (mark : Mark) : Prop :=
  ∃ call output, mark = .ret call output ∧
    ((∃ config, call = .bind config ∧ output.toStatus.isOk = true) ∨ call = .end_ ∨
      ∃ reason, call = .invalidateAppliedState reason)

/-- The mark revokes the identity. -/
def Revokes (mark : Mark) : Prop := Discards mark ∨ Disproves mark ∨ Resets mark

/-- The job under way has read MANUFACTURER_ID with its word: no job was admitted since. -/
def ManufacturerSeen : List Mark → Prop := Since (fun _ mark => Confirms manufacturerCheck mark) Admits

/-- A job read MANUFACTURER_ID and then DEVICE_ID with their words, and nothing has revoked the
identity since the DEVICE_ID read. -/
def Established : List Mark → Prop :=
  Since (fun past mark => ManufacturerSeen past ∧ Confirms deviceCheck mark) Revokes

/-! ### The marks of the steps -/

namespace Driver

variable {d d' : Driver} {stage : Stage} {reply : Reply} {nowMs : U64} {timeoutMs : U32}
  {call : Call} {output : Output} {past : List Mark}

/-- A job's transfer that revokes the identity leaves the state unknown. -/
theorem trustAfter_of_revokes {maxTransfers : U8}
    (h : Revokes (.bus (.poll nowMs maxTransfers)
      ((stage.transfer d.config).request d.config timeoutMs, reply)))
    (hrun : d.Running stage) : d.trustAfter stage reply = .unknown := by
  rcases h with ⟨_, _, hmark, -⟩ | ⟨index, _, hread, hmatch⟩ |
    ⟨_, _, _, value, hmark, hwrite, hreached⟩
  · cases hmark
  · rw [jobTransfer_stage] at hread
    obtain ⟨htransfer, rfl⟩ := Prod.mk.inj (Option.some.inj hread)
    obtain rfl := stage_of_identity htransfer
    rw [trustAfter, if_pos]
    by_contra hpassed
    simp only [Bool.or_eq_true, Bool.not_eq_true', decide_eq_true_eq, not_or, not_not,
      Bool.not_eq_false] at hpassed
    exact hmatch hpassed
  · cases hmark
    rw [transfer_request] at hwrite
    rcases stage_of_write (Option.some.inj hwrite) with ⟨rfl, -, -⟩ | ⟨applyStep, rfl, hreg, -⟩
    · rw [trustAfter, if_pos]
      rcases hreached with hok | hmay
      · rw [hok, Bool.true_or]
      · rw [mustRecord, hmay, Bool.true_or, Bool.or_true]
    · -- a profile never writes RESET_DEV
      exact absurd hreg.symm (replay_layout hrun.profile_lt).notReset

/-- A job's transfer leaves `UNKNOWN` only with the second identity check. -/
theorem confirms_of_trustAfter {maxTransfers : U8} (hrun : d.Running stage)
    (hstate : d.appliedState = .unknown) (h : d.trustAfter stage reply ≠ .unknown) :
    stage = .identity deviceCheck ∧ Confirms deviceCheck (.bus (.poll nowMs maxTransfers)
      ((stage.transfer d.config).request d.config timeoutMs, reply)) := by
  have htrusted := hrun.trusted
  rw [hstate] at htrusted
  cases stage with
  | identity index =>
      rw [trustAfter] at h
      split at h
      · exact absurd rfl h
      · next hpassed =>
          simp only [Bool.or_eq_true, Bool.not_eq_true', decide_eq_true_eq, not_or, not_not,
            Bool.not_eq_false] at hpassed
          split at h
          · next hlifted =>
              obtain rfl := hlifted.1
              exact ⟨rfl, reply, jobTransfer_stage .., hpassed⟩
          · exact absurd hstate h
  | reset =>
      rw [trustAfter, hstate, ite_self] at h
      exact absurd rfl h
  | profile applyStep =>
      rw [Stage.Trusts] at htrusted
      split at htrusted
      · exact absurd rfl htrusted.1
      · cases htrusted
  | _ => cases htrusted

/-- A return that neither binds, ends nor invalidates keeps the identity. -/
theorem not_revokes_ret (h : ¬ Discards (.ret call output)) : ¬ Revokes (.ret call output) := by
  rintro (hdiscard | ⟨_, _, hread, -⟩ | ⟨_, _, _, _, hmark, -⟩)
  · exact h hdiscard
  · cases hread
  · cases hmark

/-- What a refused call returns discards nothing. -/
theorem not_discards_of_kept (h : call.effective output = false) :
    ¬ Discards (.ret call output) := by
  rintro ⟨_, _, hmark, hcall⟩
  cases hmark
  rcases hcall with ⟨_, rfl, hok⟩ | rfl | ⟨_, rfl⟩
  · exact absurd (h.symm.trans hok) Bool.noConfusion
  · cases h
  · cases h

/-- What a refused call returns admits nothing. -/
theorem not_admits_of_kept (h : call.effective output = false) : ¬ Admits (.ret call output) := by
  rintro ⟨_, _, hmark, hstart, hin⟩
  cases hmark
  cases call with
  | startInitialize => exact absurd (h.symm.trans hin) Bool.noConfusion
  | startApplyConfig => exact absurd (h.symm.trans hin) Bool.noConfusion
  | startResetAndReapply => exact absurd (h.symm.trans hin) Bool.noConfusion
  | startAcquire => exact absurd (h.symm.trans hin) Bool.noConfusion
  | _ => cases hstart

/-- Exchanges admit nothing. -/
theorem not_admits_bus {event : Event} : ¬ Admits (.bus call event) := by
  rintro ⟨_, _, hmark, -⟩
  cases hmark

/-- Outside a job only a RESET_DEV write revokes the identity. -/
theorem Direct.resets_of_revokes {event : Event} (h : d.Direct call event d')
    (hrevokes : Revokes (.bus call event)) : Resets (.bus call event) := by
  rcases hrevokes with ⟨_, _, hmark, -⟩ | ⟨_, _, hread, -⟩ | hresets
  · cases hmark
  · rw [h.jobTransfer_eq_none] at hread
    cases hread
  · exact hresets

/-- A write to another register resets nothing. -/
theorem not_resets_write {reg : U8} {value : U16} (h : reg ≠ regResetDev) :
    ¬ Resets (.bus call (d.directRequest (.write reg value), reply)) := by
  rintro ⟨_, _, _, _, hmark, hwrite, -⟩
  cases hmark
  rw [directRequest, transfer_request] at hwrite
  exact h (Transfer.write.inj (Option.some.inj hwrite)).1

/-- An exchange outside a job that leaves a state other than `UNKNOWN` found one and reset
nothing. -/
theorem Direct.known {event : Event} (h : d.Direct call event d')
    (hstate : d'.appliedState ≠ .unknown) :
    d.appliedState ≠ .unknown ∧ ¬ Resets (.bus call event) := by
  cases h with
  | observed =>
      refine ⟨hstate, ?_⟩
      rintro ⟨_, _, _, _, hmark, hwrite, -⟩
      cases hmark
      cases hwrite
  | read =>
      refine ⟨hstate, ?_⟩
      rintro ⟨_, _, _, _, hmark, hwrite, -⟩
      cases hmark
      rw [directRequest, transfer_request] at hwrite
      cases hwrite
  | slept hbound hidle hactive =>
      refine ⟨?_, not_resets_write (by decide)⟩
      rw [hactive]
      exact AppliedConfigState.noConfusion
  | woken hbound hidle hsleeping =>
      refine ⟨?_, not_resets_write (by decide)⟩
      rw [hsleeping]
      exact AppliedConfigState.noConfusion
  | @wrote reg value reply =>
      rw [diagnosticWritten_eq] at hstate
      split at hstate
      · next hreached =>
          simp only [recordConfigFault] at hstate
          split at hstate
          · exact absurd rfl hstate
          · next hother =>
              obtain ⟨hreg, hknown⟩ := not_or.mp hother
              exact ⟨hknown, not_resets_write hreg⟩
      · next hreached =>
          refine ⟨hstate, ?_⟩
          rintro ⟨_, _, _, _, hmark, -, hmay⟩
          cases hmark
          exact hreached (by simpa using hmay)

/-- An exchange outside a job does not move a job. -/
theorem Direct.keeps_job {event : Event} (h : d.Direct call event d') :
    d' = d ∨ d'.progress.active = false := by
  cases h with
  | observed => exact Or.inl rfl
  | read hcall hbound hidle => exact Or.inr hidle
  | slept hbound hidle =>
      rw [configWritten_eq]
      exact Or.inr hidle
  | woken hbound hidle =>
      rw [configWritten_eq]
      exact Or.inr hidle
  | wrote reg value hbound hidle =>
      rw [diagnosticWritten_eq]
      split
      · exact Or.inr hidle
      · exact Or.inr hidle

/-- A return that leaves a state other than `UNKNOWN` found one and discarded nothing. -/
theorem Quiet.known (h : d.Quiet call output d') (hstate : d'.appliedState ≠ .unknown) :
    d.appliedState ≠ .unknown ∧ ¬ Discards (.ret call output) := by
  have hother {call : Call} {output : Output} (hbind : ∀ config, call ≠ .bind config)
      (hend : call ≠ .end_) (hinvalidate : ∀ reason, call ≠ .invalidateAppliedState reason) :
      ¬ Discards (.ret call output) := by
    rintro ⟨_, _, hmark, hcall⟩
    cases hmark
    rcases hcall with ⟨config, hcall, -⟩ | hcall | ⟨reason, hcall⟩
    · exact hbind config hcall
    · exact hend hcall
    · exact hinvalidate reason hcall
  have hinterrupted {cause : Status} (h : (d.recordInterruption cause).appliedState ≠ .unknown) :
      d.appliedState ≠ .unknown := by
    intro hunknown
    rw [recordInterruption_appliedState, if_neg (fun hboth => hboth.2 hunknown)] at h
    exact h hunknown
  cases h with
  | kept hkept => exact ⟨hstate, not_discards_of_kept hkept⟩
  | bound => exact absurd rfl hstate
  | ended => exact absurd rfl hstate
  | invalidated => exact absurd rfl hstate
  | updated config hu =>
      refine ⟨fun hunknown => hstate ?_, hother (by simp) (by simp) (by simp)⟩
      rw [retain, if_neg (not_not.mpr hunknown)]
      exact hunknown
  | started hstarts =>
      refine ⟨hstate, ?_⟩
      cases hstarts <;> exact hother (by simp) (by simp) (by simp)
  | expired => exact ⟨hinterrupted hstate, hother (by simp) (by simp) (by simp)⟩
  | cancelled => exact ⟨hinterrupted hstate, hother (by simp) (by simp) (by simp)⟩
  | taken => exact ⟨hstate, hother (by simp) (by simp) (by simp)⟩

end Driver

/-! ### The invariant -/

open Driver

/-- What the driver's state says about the history. -/
structure Fence (past : List Mark) (d : Driver) : Prop where
  established : d.appliedState ≠ .unknown → Established past
  /-- A job about to read DEVICE_ID has read MANUFACTURER_ID. -/
  manufacturer : d.progress.active = true → d.stage = some (.identity deviceCheck) →
    ManufacturerSeen past

theorem fence_initial : Fence [] Driver.initial where
  established h := absurd rfl h
  manufacturer h := by cases h

/-- A transfer of a job keeps the fence. -/
theorem Fence.job {past : List Mark} {d : Driver} {stage : Stage} {nowMs : U64} {maxTransfers : U8}
    {timeoutMs : U32} {reply : Reply} (hf : Fence past d) (hw : d.WellFormed)
    (hrun : d.Running stage) :
    Fence (past ++ [.bus (.poll nowMs maxTransfers)
      ((stage.transfer d.config).request d.config timeoutMs, reply)])
      (d.resume stage reply nowMs).driver where
  established h := by
    rw [resume_appliedState] at h
    by_cases hstate : d.appliedState = .unknown
    · obtain ⟨rfl, hconfirms⟩ := confirms_of_trustAfter hrun hstate h
      exact Since.now ⟨hf.manufacturer hrun.active hrun.here, hconfirms⟩
    · exact (hf.established hstate).snoc fun hrevokes => h (trustAfter_of_revokes hrevokes hrun)
  manufacturer hactive hstage := by
    cases hv : d.verdict stage reply with
    | some verdict =>
        rw [resume_driver_of_some hv] at hactive
        cases hactive
    | none =>
        rw [resume_driver_of_none hv] at hstage
        obtain ⟨next, hnext⟩ := hrun.settled (hw.validProfile hrun.bound) hv
        obtain rfl : next = .identity deviceCheck := Option.some.inj (hnext.here.symm.trans hstage)
        have hkind : d.progress.kind ≠ .acquire := by
          intro hkind
          have hacquire := isAcquire_of_script (List.mem_of_getElem? hnext.scripted)
          rw [settled_kind, decide_eq_true hkind] at hacquire
          cases hacquire
        have hfollows := hrun.follows hnext hkind
        generalize hone : Stage.identity deviceCheck = one at hfollows
        cases hfollows with
        | afterManufacturer =>
            have hok := isOk_of_verdict hv
            exact Since.now ⟨reply, jobTransfer_stage .., hok, (verdict_identity hok).mp hv⟩
        | afterReset => exact absurd (Stage.identity.inj hone) (by decide)
        | afterDevice => cases hone
        | afterWrite => cases hone

/-- An exchange outside a job keeps the fence. -/
theorem Fence.direct {past : List Mark} {d d' : Driver} {call : Call} {event : Event}
    (hf : Fence past d) (h : d.Direct call event d') : Fence (past ++ [.bus call event]) d' where
  established hstate := by
    obtain ⟨hknown, hresets⟩ := h.known hstate
    exact (hf.established hknown).snoc fun hrevokes => hresets (h.resets_of_revokes hrevokes)
  manufacturer hactive hstage := by
    rcases h.keeps_job with rfl | hidle
    · exact (hf.manufacturer hactive hstage).snoc not_admits_bus
    · exact absurd (hidle.symm.trans hactive) Bool.noConfusion

/-- A return keeps the fence. -/
theorem Fence.quiet {past : List Mark} {d d' : Driver} {call : Call} {output : Output}
    (hf : Fence past d) (hw : d.WellFormed) (h : d.Quiet call output d') :
    Fence (past ++ [.ret call output]) d' where
  established hstate := by
    obtain ⟨hknown, hdiscards⟩ := h.known hstate
    exact (hf.established hknown).snoc (not_revokes_ret hdiscards)
  manufacturer hactive hstage := by
    cases h with
    | kept hkept => exact (hf.manufacturer hactive hstage).snoc (not_admits_of_kept hkept)
    | bound => cases hactive
    | ended => cases hactive
    | updated config hu => exact absurd (hu.idle.symm.trans hactive) Bool.noConfusion
    | started hstarts hadm hstart =>
        have hfirst := (hstarts.running hw hadm hstart).here
        have hone := Option.some.inj (hfirst.symm.trans hstage)
        cases hstarts with
        | initialise => exact absurd (Stage.identity.inj hone) (by decide)
        | _ => cases hone
    | expired => cases hactive
    | cancelled => cases hactive
    | taken hpos hhead =>
        refine (hf.manufacturer hactive hstage).snoc ?_
        rintro ⟨_, _, hmark, hstart, -⟩
        cases hmark
        cases hstart
    | invalidated reason hidle => exact absurd (hidle.symm.trans hactive) Bool.noConfusion

/-- Every step keeps the fence. -/
theorem Fence.step {past : List Mark} {d d' : Driver} {mark : Mark} (hf : Fence past d)
    (hw : d.WellFormed) (h : Step d mark d') : Fence (past ++ [mark]) d' := by
  cases h with
  | job hrun hdue => exact hf.job hw hrun
  | direct hdirect => exact hf.direct hdirect
  | quiet hquiet => exact hf.quiet hw hquiet

/-- **The fence stands in every state a run passes through.** -/
theorem fence_of_path {past : List Mark} {d : Driver} (h : Path Step Driver.initial past d) :
    Fence past d := by
  have key : Fence past d ∧ d.WellFormed := by
    refine h.history (fun past d => Fence past d ∧ d.WellFormed) []
      ⟨fence_initial, wellFormed_initial⟩ ?_
    intro past m mark m' hm hstep
    exact ⟨hm.1.step hm.2 hstep, hstep.wellFormed hm.2⟩
  exact key.1

/-! ### The writes behind the fence -/

/-- A profile write of a job, or the CONFIG write of `sleep` or `wake`. -/
def Fenced (call : Call) (event : Event) : Prop :=
  ∃ reg value, event.1.transfer = some (.write reg value) ∧
    ((∃ nowMs maxTransfers, call = .poll nowMs maxTransfers ∧ reg ≠ regResetDev) ∨
      call = .sleep ∨ call = .wake)

/-- A fenced write is made outside `UNKNOWN`. -/
theorem Step.known_of_fenced {d d' : Driver} {call : Call} {event : Event}
    (h : Step d (.bus call event) d') (hfenced : Fenced call event) : d.appliedState ≠ .unknown := by
  obtain ⟨reg, value, hwrite, hcall⟩ := hfenced
  cases h with
  | job hrun hdue =>
      rw [transfer_request] at hwrite
      rcases hcall with ⟨_, _, -, hreg⟩ | hcall | hcall
      · rcases stage_of_write (Option.some.inj hwrite) with ⟨-, hreset, -⟩ | ⟨applyStep, rfl, -, -⟩
        · exact absurd hreset hreg
        · -- a profile write needs a trusted identity, or follows one that had it
          have htrusted := hrun.trusted
          rw [Stage.Trusts] at htrusted
          split at htrusted
          · exact htrusted.1
          · rw [htrusted]
            exact AppliedConfigState.noConfusion
      · cases hcall
      · cases hcall
  | direct hdirect =>
      cases hdirect with
      | observed => cases hwrite
      | read hread =>
          rw [directRequest, transfer_request] at hwrite
          cases hwrite
      | slept hbound hidle hstate =>
          rw [hstate]
          exact AppliedConfigState.noConfusion
      | woken hbound hidle hstate =>
          rw [hstate]
          exact AppliedConfigState.noConfusion
      | wrote => rcases hcall with ⟨_, _, hcall, -⟩ | hcall | hcall <;> cases hcall

/-- A raw write and a profile update keep the state unknown. -/
theorem keeps_unknown {t : DriverTransition} (hw : t.before.WellFormed) (hv : t.Valid Call.exec)
    (hcall : (∃ reg value, t.call = .writeRegister16 reg value) ∨
      ∃ config, t.call = .updateDesiredConfig config)
    (hunknown : t.before.appliedState = .unknown) : t.after.appliedState = .unknown := by
  have hkey : ∀ mark m m', (∃ event, mark = .bus t.call event) ∨
      (∃ output, mark = Mark.ret t.call output) → m.appliedState = .unknown → Step m mark m' →
      m'.appliedState = .unknown := by
    intro mark m m' hmark hm hstep
    by_contra hknown
    cases hstep with
    | job hrun =>
        rcases hmark with ⟨_, hmark⟩ | ⟨_, hmark⟩
        · injection hmark with hpoll
          rcases hcall with ⟨_, _, hother⟩ | ⟨_, hother⟩ <;> rw [hother] at hpoll <;> cases hpoll
        · cases hmark
    | direct hdirect => exact (hdirect.known hknown).1 hm
    | quiet hquiet => exact (hquiet.known hknown).1 hm
  have hpath := transition_path t hw hv
  have hnested : nestedMarks t = [] := by
    rcases hcall with ⟨_, _, hcall⟩ | ⟨_, hcall⟩ <;> rw [nestedMarks, hcall]
  have hlabels : ∀ mark ∈ marks t, (∃ event, mark = .bus t.call event) ∨
      ∃ output, mark = Mark.ret t.call output := by
    intro mark hmark
    rw [marks, hnested, List.nil_append] at hmark
    rcases List.mem_append.mp hmark with hmark | hmark
    · obtain ⟨event, -, rfl⟩ := List.mem_map.mp hmark
      exact Or.inl ⟨event, rfl⟩
    · exact Or.inr ⟨t.output, List.mem_singleton.mp hmark⟩
  generalize marks t = labels at hpath hlabels
  generalize t.after = after at hpath ⊢
  induction hpath with
  | nil => exact hunknown
  | snoc _ hstep ih =>
      exact hkey _ _ _ (hlabels _ (by simp))
        (ih fun mark hmark => hlabels mark (List.mem_append_left _ hmark)) hstep

/-- **Identity fence.** Whatever the transport does: before every profile write of a job and every
CONFIG write of `sleep` or `wake`, a job has read both identity registers with their words, and
since then there was no bind, end or invalidation, no job's identity read that failed or returned
another value, and no RESET_DEV write that succeeded or may have reached the device. The applied
state says so whenever it is not `UNKNOWN`, and neither raw writes nor profile updates lift it out
of `UNKNOWN`. -/
theorem identity_fence :
    (∀ ts t us u pre event post, DriverRun Driver.initial (ts ++ t :: us) u →
      t.events = pre ++ event :: post → Fenced t.call event →
      Established (timeline ts ++ (nestedMarks t ++ pre.map (Mark.bus t.call)))) ∧
    (∀ ts d, DriverRun Driver.initial ts d → d.appliedState ≠ .unknown →
      Established (timeline ts)) ∧
    (∀ ts t us u, DriverRun Driver.initial (ts ++ t :: us) u →
      ((∃ reg value, t.call = .writeRegister16 reg value) ∨
        ∃ config, t.call = .updateDesiredConfig config) →
      t.before.appliedState = .unknown → t.after.appliedState = .unknown) := by
  refine ⟨?_, ?_, ?_⟩
  · intro ts t us u pre event post h hevents hfenced
    obtain ⟨m, m', hpath, hstep, -⟩ := event_step h hevents
    exact (fence_of_path hpath).established (hstep.known_of_fenced hfenced)
  · intro ts d h hknown
    exact (fence_of_path (run_path wellFormed_initial h)).established hknown
  · intro ts t us u h hcall hunknown
    obtain ⟨hbefore, hvalid, -⟩ := Run.around h
    exact keeps_unknown (run_wellFormed wellFormed_initial hbefore) hvalid hcall hunknown

/-- A bench run: a replay, an invalidation, and a raw write behind it. -/
def benchFence : List (Call × List Reply) :=
  [(.bind benchProfile, []), (.startInitialize 7 1000, []),
    (.poll 10 15, replied 0x54 0x49 :: replied 0x30 0x55 :: List.replicate 13 (replied 0 0)),
    (.invalidateAppliedState (.error .timeout "suspended"), []),
    (.writeRegister16 regMuxConfig 0x020F, [replied 0 0])]

/-- The first profile write of the bench stands behind both identity reads; behind the replay the
state says that the identity is established; and the raw write behind the invalidation leaves the
state unknown. -/
theorem identity_fence_bench : ∃ bind start replay invalidation write u,
    DriverRun Driver.initial [bind, start, replay, invalidation, write] u ∧
    (∃ pre event post, replay.events = pre ++ event :: post ∧ pre.length = 2 ∧
      event.1.transfer = some (.write regConfig 0x3C81) ∧
      Established (timeline [bind, start] ++
        (nestedMarks replay ++ pre.map (Mark.bus replay.call)))) ∧
    replay.after.appliedState = .appliedSleeping ∧ Established (timeline [bind, start, replay]) ∧
    write.before.appliedState = .unknown ∧ write.after.appliedState = .unknown := by
  have hrun := run_runOf benchFence
  have hlength : (runOf benchFence).1.length = 5 := by decide +kernel
  have hreplay : (runOf benchFence).1[2]?.map (fun t => (t.call, t.after.appliedState,
      t.events.length, (t.events[2]?.bind fun event => event.1.transfer))) =
      some (.poll 10 15, .appliedSleeping, 15, some (.write regConfig 0x3C81)) := by
    decide +kernel
  have hwrite : (runOf benchFence).1[4]?.map (fun t => (t.call, t.before.appliedState)) =
      some (.writeRegister16 regMuxConfig 0x020F, .unknown) := by decide +kernel
  generalize (runOf benchFence).1 = ts at hrun hlength hreplay hwrite
  obtain ⟨bind, rest, rfl⟩ := List.exists_of_length_succ _ hlength
  obtain ⟨start, rest, rfl⟩ := List.exists_of_length_succ _ (Nat.succ.inj hlength)
  obtain ⟨replay, invalidation, write, rfl⟩ :=
    List.length_eq_three.mp (Nat.succ.inj (Nat.succ.inj hlength))
  obtain ⟨hcall, hsleeping, hevents, htransfer⟩ : replay.call = .poll 10 15 ∧
      replay.after.appliedState = .appliedSleeping ∧ replay.events.length = 15 ∧
      (replay.events[2]?.bind fun event => event.1.transfer) =
        some (.write regConfig 0x3C81) := by simpa using hreplay
  obtain ⟨hraw, hunknown⟩ : write.call = .writeRegister16 regMuxConfig 0x020F ∧
      write.before.appliedState = .unknown := by simpa using hwrite
  obtain ⟨hfence, hstate, hlift⟩ := identity_fence
  refine ⟨bind, start, replay, invalidation, write, _, hrun, ?_, hsleeping, ?_, hunknown, ?_⟩
  · obtain ⟨event, hevent, hprofile⟩ := Option.bind_eq_some_iff.mp htransfer
    obtain ⟨hlt, rfl⟩ := List.getElem?_eq_some_iff.mp hevent
    have hsplit : replay.events =
        replay.events.take 2 ++ replay.events[2] :: replay.events.drop 3 := by
      rw [← List.drop_eq_getElem_cons hlt, List.take_append_drop]
    refine ⟨_, _, _, hsplit, by rw [List.length_take, hevents]; rfl, hprofile, ?_⟩
    exact hfence [bind, start] replay [invalidation, write] _ _ _ _ hrun hsplit
      ⟨regConfig, 0x3C81, hprofile, Or.inl ⟨10, 15, hcall, by decide⟩⟩
  · have hsplit : DriverRun Driver.initial ([bind, start] ++ replay :: [invalidation, write]) _ :=
      hrun
    obtain ⟨hbefore, hvalid, -⟩ := Run.around hsplit
    refine hstate [bind, start, replay] replay.after (Run.snoc hbefore hvalid) ?_
    rw [hsleeping]
    exact AppliedConfigState.noConfusion
  · exact hlift [bind, start, replay, invalidation] write [] _ hrun (Or.inl ⟨_, _, hraw⟩) hunknown

end Ldc1614
