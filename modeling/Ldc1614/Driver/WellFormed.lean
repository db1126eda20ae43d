import Ldc1614.Driver.Settled

/-! # Well-formed states

The invariant of the driver: the result ring is within its bounds, a bound driver holds a validated
profile, an idle driver carries no job data, and an active job is at a definite stage of its script
with a result slot in reserve. -/

namespace Ldc1614

open Cmd Interaction

namespace Driver

variable {d d' : Driver} {stage : Stage} {reply : Reply} {nowMs : U64}

/-! ### Running jobs -/

/-- The transfers of the active job, in order. -/
def script (d : Driver) : List Stage :=
  Ldc1614.script d.config d.progress.kind d.progress.requestedChannels

/-- The active job is at this stage of its script. -/
structure Running (d : Driver) (stage : Stage) : Prop where
  active : d.progress.active = true
  bound : d.bound = true
  /-- A result slot is kept free for the job. -/
  slot : d.resultCount.toNat < resultCapacity
  named : d.progress.operationId ≠ 0
  revision : d.progress.configRevision = d.configRevision
  kind : d.progress.kind ≠ .none
  requested : d.progress.kind = .acquire → d.progress.requestedChannels.bits ≠ 0 ∧
    d.progress.requestedChannels.bits &&& ~~~d.config.channels.bits = 0
  maximum : d.progress.maximumTransfers.toNat = d.script.length
  scripted : d.script[d.progress.completedTransfers.toNat]? = some stage
  here : d.stage = some stage
  /-- The progress shows the transfer the job makes next. -/
  shown : d.shows stage
  step : d.progress.kind ≠ .acquire → d.jobStep = d.progress.completedTransfers
  trusted : stage.Trusts d.appliedState
  /-- A replay under way has confirmed a write. -/
  confirmed : d.appliedState = .applying → hasEffect d.progress.effects .partialWrite = true

/-- The invariant of the driver. -/
structure WellFormed (d : Driver) : Prop where
  head : d.resultHead.toNat < resultCapacity
  count : d.resultCount.toNat ≤ resultCapacity
  valid : d.bound = true → (validateConfig d.config).isOk = true
  unbound : d.bound = false → d.progress.active = false ∧ d.appliedState = .unknown ∧
    d.resultCount = 0
  idle : d.progress.active = false → d.clearActiveJob = d ∧ d.appliedState ≠ .applying
  running : d.progress.active = true → ∃ stage, d.Running stage

/-- A bound driver has a valid profile. -/
theorem WellFormed.validProfile (h : d.WellFormed) (hbound : d.bound = true) : d.config.Valid :=
  valid_of_validateConfig (h.valid hbound)

/-- A valid profile has both transfer callbacks. -/
theorem wired_of_valid (h : d.config.Valid) : d.Wired := ⟨h.i2cWrite, h.i2cWriteRead⟩

/-! ### A job that goes on -/

/-- The requested channels are among the four. -/
theorem Running.requested_lt (h : d.Running stage) (hvalid : d.config.Valid)
    (hkind : d.progress.kind = .acquire) : d.progress.requestedChannels.bits < 16 :=
  mask_lt_of_and_not (fun i hi => getLsbD_of_and_not (h.requested hkind).2 i hi)
    hvalid.implemented

/-- A job is never behind the end of its script. -/
theorem Running.lt_length (h : d.Running stage) :
    d.progress.completedTransfers.toNat < d.script.length :=
  (List.getElem?_eq_some_iff.mp h.scripted).1

/-- The stages of an acquisition are those that read channels and STATUS. -/
theorem Running.isAcquire (h : d.Running stage) :
    stage.isAcquire = decide (d.progress.kind = .acquire) :=
  isAcquire_of_script (List.mem_of_getElem? h.scripted)

/-- A script fits into the transfer counter. -/
theorem Running.length_le (h : d.Running stage) : d.script.length ≤ 255 := by
  rw [← h.maximum]
  have := d.progress.maximumTransfers.isLt
  omega

/-- A transfer keeps the script of its job. -/
@[simp] theorem settled_script : (d.settled stage reply).script = d.script := by
  simp [script]

/-- A job that goes on has a next stage. -/
theorem Running.exists_next (h : d.Running stage) (hvalid : d.config.Valid)
    (hv : d.verdict stage reply = none) :
    ∃ next, d.script[d.progress.completedTransfers.toNat + 1]? = some next := by
  have hok := isOk_of_verdict hv
  have hs := h.scripted
  by_cases hkind : d.progress.kind = .acquire
  · rw [script, hkind, Ldc1614.script, if_pos rfl] at hs ⊢
    rw [← nextRead_acquisition (h.requested_lt hvalid hkind) hs]
    rcases mem_acquisition.mp (List.mem_of_getElem? hs) with rfl | rfl | ⟨index, -, rfl | rfl⟩
    · exact ⟨_, rfl⟩
    · simp [verdict, hok] at hv
    · exact ⟨_, rfl⟩
    · exact ⟨_, rfl⟩
  · refine ⟨_, List.getElem?_eq_getElem ?_⟩
    rw [script, length_script d.config _ hkind]
    rw [script, Ldc1614.script, if_neg hkind] at hs
    rcases Nat.lt_or_ge d.progress.completedTransfers.toNat (preamble d.progress.kind).length with
      hlt | hge
    · have := profileLength_pos d.config
      omega
    · rw [List.getElem?_append_right hge] at hs
      obtain ⟨hlt, rfl⟩ := replay_eq_some.mp hs
      have hlast := (verdict_profile hok).mp hv
      rw [BitVec.toNat_add, BitVec.toNat_ofNat] at hlast
      have := profileLength_le d.config
      have : (1 : U8).toNat = 1 := rfl
      omega

/-- The transfer counter does not wrap. -/
theorem Running.completed_succ (h : d.Running stage) :
    (d.progress.completedTransfers + 1).toNat = d.progress.completedTransfers.toNat + 1 := by
  have hlt := h.lt_length
  have hlen := h.length_le
  have hone : (1 : U8).toNat = 1 := rfl
  rw [BitVec.toNat_add, hone]
  exact Nat.mod_eq_of_lt (by omega)

/-- A profile write of a running job is one of its profile. -/
theorem Running.profile_lt {applyStep : U8} (h : d.Running (.profile applyStep)) :
    applyStep.toNat < profileLength d.config := by
  have hmem := List.mem_of_getElem? h.scripted
  rw [script, Ldc1614.script] at hmem
  split at hmem
  · rcases mem_acquisition.mp hmem with hs | hs | ⟨_, -, hs | hs⟩ <;> cases hs
  · rcases List.mem_append.mp hmem with hmem | hmem
    · obtain ⟨n, hn⟩ := List.getElem?_of_mem hmem
      rcases preamble_eq_some hn with ⟨-, -, hs⟩ | ⟨_, -, -, hs⟩ <;> cases hs
    · obtain ⟨n, hn⟩ := List.getElem?_of_mem hmem
      obtain ⟨hlt, hs⟩ := replay_eq_some.mp hn
      cases hs
      rw [toNat_ofNat_profile hlt]
      exact hlt

/-- **A job that goes on is at its next stage**, with the trust that stage needs. -/
theorem Running.settled (h : d.Running stage) (hvalid : d.config.Valid)
    (hv : d.verdict stage reply = none) : ∃ next, (d.settled stage reply).Running next := by
  obtain ⟨next, hnext⟩ := h.exists_next hvalid hv
  have hok := isOk_of_verdict hv
  have hlen := h.length_le
  have hlt := (List.getElem?_eq_some_iff.mp hnext).1
  have hcount := h.completed_succ
  have hscript : (d.settled stage reply).script[
      (d.settled stage reply).progress.completedTransfers.toNat]? = some next := by
    rw [settled_script, settled_completedTransfers, hcount, hnext]
  obtain ⟨hhere, hshown, hstep, htrusted, hconfirmed⟩ :
      (d.settled stage reply).stage = some next ∧
      (d.settled stage reply).shows next ∧
      (d.progress.kind ≠ .acquire →
        (d.settled stage reply).jobStep = d.progress.completedTransfers + 1) ∧
      next.Trusts (d.settled stage reply).appliedState ∧
      ((d.settled stage reply).appliedState = .applying →
        hasEffect (d.settled stage reply).progress.effects .partialWrite = true) := by
    -- an acquisition is placed by its phase and channel, a replay by its step
    by_cases hkind : d.progress.kind = .acquire
    · have hs := h.scripted
      have hacquire := isAcquire_of_script (List.mem_of_getElem? hs)
      have hacquire' := isAcquire_of_script (List.mem_of_getElem? hnext)
      rw [decide_eq_true hkind] at hacquire hacquire'
      have hactive := (Stage.trusts_of_isAcquire hacquire).mp h.trusted
      have hstate : (d.settled stage reply).appliedState = d.appliedState :=
        settled_appliedState_of_isAcquire hacquire
      have hhere := h.here
      rw [Driver.stage, if_pos hkind] at hhere
      rw [script, hkind, Ldc1614.script, if_pos rfl] at hs hnext
      rw [← nextRead_acquisition (h.requested_lt hvalid hkind) hs] at hnext
      refine ⟨?_, settled_shows_read hhere hok hnext, fun hne => absurd hkind hne, ?_, ?_⟩
      · rw [Driver.stage, settled_kind, if_pos hkind]
        exact settled_acquireStage hhere hok hnext
      · rw [Stage.trusts_of_isAcquire hacquire', hstate, hactive]
      · rw [hstate, hactive]
        exact AppliedConfigState.noConfusion
    · have hfollows := follows_of_script hkind h.scripted hnext
      have hstep := settled_jobStep hv hfollows
      rw [h.step hkind] at hstep
      obtain ⟨htrusted, hconfirmed⟩ := settled_trusted hv hfollows h.trusted
      refine ⟨?_, settled_shows_write hv hfollows, fun _ => hstep, htrusted, hconfirmed⟩
      rw [Driver.stage, settled_kind, if_neg hkind, settled_config, hstep, hcount]
      rwa [script, Ldc1614.script, if_neg hkind] at hnext
  exact ⟨next,
    { active := by rw [settled_active]; exact h.active
      bound := by rw [settled_bound]; exact h.bound
      slot := by rw [settled_resultCount]; exact h.slot
      named := by rw [settled_operationId]; exact h.named
      revision := by rw [settled_jobRevision, settled_configRevision]; exact h.revision
      kind := by rw [settled_kind]; exact h.kind
      requested := by
        rw [settled_kind, settled_requestedChannels, settled_config]
        exact h.requested
      maximum := by rw [settled_maximumTransfers, settled_script]; exact h.maximum
      scripted := hscript
      here := hhere
      shown := hshown
      step := by rw [settled_kind, settled_completedTransfers]; exact hstep
      trusted := htrusted
      confirmed := hconfirmed }⟩

/-- The stages of a replay follow one another. -/
theorem Running.follows {next : Stage} (h : d.Running stage)
    (hnext : (d.settled stage reply).Running next) (hkind : d.progress.kind ≠ .acquire) :
    Follows stage next := by
  have hscripted := hnext.scripted
  rw [settled_script, settled_completedTransfers, h.completed_succ] at hscripted
  exact follows_of_script hkind h.scripted hscripted

/-- A failed profile write during a replay under way is recorded. -/
theorem Running.mustRecord (h : d.Running stage) (happlying : d.appliedState = .applying)
    (status : Status) : d.mustRecord status = true := by
  rw [Driver.mustRecord, h.confirmed happlying, Bool.or_true]

/-- A job that ends does not leave a replay under way. -/
theorem Running.settled_not_applying (h : d.Running stage)
    (hv : d.verdict stage reply ≠ none) : (d.settled stage reply).appliedState ≠ .applying := by
  have hfault (trust : AppliedConfigState) (phase : JobPhase) (reg : U8) (channel : Channel)
      (htrust : trust ≠ .applying) : ((d.attempt stage reply).countTransfer.writeFault trust phase
        reg channel reply.status).appliedState ≠ .applying := by
    rw [writeFault_appliedState]
    split
    · exact htrust
    · next hrecord => exact fun happlying => hrecord (h.mustRecord happlying reply.status)
  cases hok : reply.status.isOk with
  | false =>
      simp only [Driver.settled, hok, Bool.not_false, if_true]
      cases stage with
      | reset => exact hfault _ _ _ _ AppliedConfigState.noConfusion
      | profile applyStep => exact hfault _ _ _ _ AppliedConfigState.noConfusion
      | identity index => exact AppliedConfigState.noConfusion
      | _ =>
          refine fun happlying => ?_
          have hactive := (Stage.trusts_of_isAcquire rfl).mp h.trusted
          exact absurd (hactive.symm.trans happlying) AppliedConfigState.noConfusion
  | true =>
      rw [settled_of_isOk hok]
      cases stage with
      | reset => exact absurd (by simp [verdict, hok]) hv
      | identity index =>
          have hword := mt (verdict_identity hok).mpr hv
          simp only [passedAt, ne_eq, hword, not_false_eq_true, if_true]
          exact AppliedConfigState.noConfusion
      | profile applyStep =>
          have hlast := mt (verdict_profile hok).mpr hv
          rw [← settled_of_isOk hok, settled_profile_last hok hv]
          exact AppliedConfigState.noConfusion
      | _ =>
          refine fun happlying => ?_
          have hactive := (Stage.trusts_of_isAcquire rfl).mp h.trusted
          exact absurd (hactive.symm.trans happlying) AppliedConfigState.noConfusion

end Driver

end Ldc1614
