import Ldc1614.Driver.Gathered
import Ldc1614.Driver.Plan
import Ldc1614.Guarantees.Accounting
import Ldc1614.Guarantees.Lifetime

/-! # Jobs follow their plan

Every job makes the transfers of its plan, in order and without gaps, until it ends, and its
progress says at any time where in the plan it is and which channels it has read. -/

namespace Ldc1614

open Cmd Interaction Driver

/-! ### The callbacks of a job -/

/-- The transport callbacks among these exchanges: the register transfer each carried and the
reply. -/
def carried (events : List Event) : List (Option Transfer × Reply) :=
  (events.filter fun event => !event.1.observes).map fun event => (event.1.transfer, event.2)

@[simp] theorem carried_append (events more : List Event) :
    carried (events ++ more) = carried events ++ carried more := by
  rw [carried, List.filter_append, List.map_append]
  rfl

section Callbacks

variable {d u : Driver} {t : DriverTransition} {ts : List DriverTransition}

/-- The steps of `poll`s invoke the transport for the transfers of their job only. -/
theorem carried_of_path {d' : Driver} {labels : List Mark} (h : Path Step d labels d')
    (hpolls : ∀ mark ∈ labels, ∃ nowMs maxTransfers, mark.call = .poll nowMs maxTransfers) :
    carried (labels.flatMap Mark.events) =
      (labels.filterMap Mark.jobTransfer).map fun e => (some e.1, e.2) := by
  refine (h.restrict hpolls).history (fun past _ => carried (past.flatMap Mark.events) =
    (past.filterMap Mark.jobTransfer).map fun e => (some e.1, e.2)) [] rfl
    fun past m mark m' hpast hnext => ?_
  have hmark : carried mark.events = mark.jobTransfer.toList.map fun e => (some e.1, e.2) := by
    obtain ⟨hstep, nowMs, maxTransfers, hcall⟩ := hnext
    cases hstep with
    | job =>
        rw [jobTransfer_stage, Mark.events]
        simp [carried]
    | direct hdirect =>
        obtain rfl : _ = Call.poll nowMs maxTransfers := hcall
        cases hdirect with
        | observed hcall => rcases hcall with h | h <;> cases h
        | read hcall => cases hcall
    | quiet => rfl
  have hsnoc := filterMap_snoc [] past mark
  rw [List.nil_append, List.nil_append] at hsnoc
  rw [hsnoc, List.map_append, ← hpast, ← hmark, List.flatMap_append, List.flatMap_singleton,
    carried_append]

/-- A `poll` invokes the transport for the transfers of its job only. -/
theorem carried_of_poll {nowMs : U64} {maxTransfers : U8} (hw : t.before.WellFormed)
    (hv : t.Valid Call.exec) (hcall : t.call = .poll nowMs maxTransfers) :
    carried t.events = ((marks t).filterMap Mark.jobTransfer).map fun e => (some e.1, e.2) := by
  have hplain : nestedMarks t = [] := by rw [nestedMarks, hcall]
  have hcarried := carried_of_path (transition_path t hw hv) fun mark hmark =>
    ⟨nowMs, maxTransfers, (call_of_mark hplain hmark).1.trans hcall⟩
  have hevents := timeline_events [t]
  rw [timeline, List.flatMap_singleton, exchange_cons, exchange_nil, List.append_nil] at hevents
  rw [← hcarried, hevents]

/-- Besides `poll` no call touches the bus while a job is active. -/
theorem carried_of_other (hv : t.Valid Call.exec) (hactive : t.before.progress.active = true)
    (hcall : ∀ nowMs maxTransfers, t.call ≠ .poll nowMs maxTransfers) : carried t.events = [] := by
  have hobserved : ∀ event ∈ t.events, event.1.observes = true := by
    intro event hevent
    by_contra hnot
    rw [Bool.not_eq_true] at hnot
    cases hsilent : t.call.busSilent with
    | true =>
        have hnone := ((frugal_busSilent hsilent).yields hv).1
        have hmem : event ∈ t.events.filter fun event => !event.1.observes :=
          List.mem_filter.mpr ⟨hevent, by rw [hnot]; rfl⟩
        exact absurd (List.length_pos_of_mem hmem) (by omega)
    | false =>
        have hone : t.call.oneTransfer = true := by
          cases h : t.call with
          | poll nowMs maxTransfers => exact absurd h (hcall nowMs maxTransfers)
          | _ => first | rfl | (rw [h] at hsilent; cases hsilent)
        have hidle := (((frugal_oneTransfer hone).yields hv).2 event hevent hnot).1
        exact absurd (hactive.symm.trans hidle) Bool.noConfusion
  rw [carried, List.filter_eq_nil_iff.mpr fun event hevent => by simp [hobserved event hevent]]
  rfl

/-- A nested cancellation makes no exchange. -/
theorem not_bus_of_nested (t : DriverTransition) {call : Call} {event : Event} :
    Mark.bus call event ∉ nestedMarks t := by
  intro hmark
  unfold nestedMarks at hmark
  split at hmark
  · split at hmark
    · cases List.mem_singleton.mp hmark
    · exact List.not_mem_nil hmark
  · exact List.not_mem_nil hmark

/-- While a job is active, a call invokes the transport for the transfers of the job only. -/
theorem carried_of_active (hw : t.before.WellFormed) (hv : t.Valid Call.exec)
    (hactive : t.before.progress.active = true) :
    carried t.events = ((marks t).filterMap Mark.jobTransfer).map fun e => (some e.1, e.2) := by
  by_cases hpoll : ∃ nowMs maxTransfers, t.call = .poll nowMs maxTransfers
  · obtain ⟨nowMs, maxTransfers, hcall⟩ := hpoll
    exact carried_of_poll hw hv hcall
  · rw [not_exists] at hpoll
    have hcall (nowMs : U64) (maxTransfers : U8) : t.call ≠ .poll nowMs maxTransfers :=
      fun h => hpoll nowMs ⟨maxTransfers, h⟩
    rw [carried_of_other hv hactive hcall]
    have hnone : (marks t).filterMap Mark.jobTransfer = [] := by
      refine List.filterMap_eq_nil_iff.mpr fun mark hmark => ?_
      cases mark with
      | ret => rfl
      | bus call event =>
          have hown : call = t.call := by
            rw [marks, List.append_assoc, List.mem_append, List.mem_append] at hmark
            rcases hmark with hnested | hbus | hret
            · exact absurd hnested (not_bus_of_nested t)
            · obtain ⟨event', -, heq⟩ := List.mem_map.mp hbus
              exact (Mark.bus.inj heq).1.symm
            · cases List.mem_singleton.mp hret
          rw [hown]
          unfold Mark.jobTransfer
          split
          · next h => exact absurd (Mark.bus.inj h).1 (hcall _ _)
          · rfl
    rw [hnone]
    rfl

/-- As long as a job is active before every call, the transport carries its transfers only. -/
theorem carried_of_job (hw : d.WellFormed) (h : DriverRun d ts u)
    (hactive : ∀ t ∈ ts, t.before.progress.active = true) :
    carried (exchange ts) = (jobTransfers ts).map fun e => (some e.1, e.2) := by
  induction h with
  | nil => rfl
  | @snoc ts t m m' hrun hlast ih =>
      obtain ⟨rfl, hv, rfl⟩ := hlast
      have hpast := ih fun t ht => hactive t (List.mem_append_left _ ht)
      have hlast := carried_of_active (run_wellFormed hw hrun) hv
        (hactive t (List.mem_append_right _ (List.mem_singleton_self _)))
      have hsnoc := jobTransfers_concat [] ts t
      rw [List.nil_append, List.nil_append] at hsnoc
      rw [exchange_append, carried_append, hpast, hsnoc, List.map_append, ← hlast, exchange_cons,
        exchange_nil, List.append_nil]

/-- A job that is active behind every call of a run is active before every call. -/
theorem active_before (h : DriverRun d ts u) (hd : d.progress.active = true)
    (hactive : ∀ t ∈ ts, t.after.progress.active = true) :
    u.progress.active = true ∧ ∀ t ∈ ts, t.before.progress.active = true := by
  induction h with
  | nil => exact ⟨hd, fun _ ht => by cases ht⟩
  | @snoc ts t m m' hrun hlast ih =>
      obtain ⟨rfl, hv, rfl⟩ := hlast
      obtain ⟨hon, hall⟩ := ih fun t ht => hactive t (List.mem_append_left _ ht)
      refine ⟨hactive t (List.mem_append_right _ (List.mem_singleton_self _)), fun t' ht => ?_⟩
      rcases List.mem_append.mp ht with ht | ht
      · exact hall t' ht
      · rw [List.mem_singleton.mp ht]
        exact hon

end Callbacks

/-! ### Where a job stands -/

/-- The mask is that of the channels whose LSB word was read. -/
def ChannelsRead (mask : ChannelMask) (transfers : List (Transfer × Reply)) : Prop :=
  ∀ i, mask.bits.getLsbD i = true ↔ ∃ index : Fin 4, index.val = i ∧
    ∃ e ∈ transfers, e.1 = .read (regDataLsb (channelAt index).raw) ∧ e.2.status.isOk = true

/-- The active job has made these transfers since it was admitted in the state `entry`. -/
structure Following (entry : Driver) (past : List (Transfer × Reply)) (d : Driver) : Prop where
  config : d.config = entry.config
  script : d.script = entry.script
  counted : d.progress.completedTransfers.toNat = past.length
  made : past.map Prod.fst = (entry.script.take past.length).map (Stage.transfer entry.config)
  passed : ∀ e ∈ past, e.2.status.isOk = true
  synced : d.scratchCompleted = d.progress.completedChannels
  completed : ChannelsRead d.progress.completedChannels past

/-- These are the transfers of a whole job, admitted in the state `entry`. -/
structure Followed (entry : Driver) (transfers : List (Transfer × Reply)) (result : OperationResult)
    (d : Driver) : Prop where
  made : transfers.map Prod.fst =
    (entry.script.take transfers.length).map (Stage.transfer entry.config)
  within : transfers.length ≤ entry.script.length
  success : result.outcome = .success ↔
    transfers.length = entry.script.length ∧ ∀ e ∈ transfers, e.2.status.isOk = true
  counted : result.finalProgress.completedTransfers.toNat = transfers.length
  maximum : result.finalProgress.maximumTransfers.toNat = entry.script.length
  completed : ChannelsRead result.finalProgress.completedChannels transfers

section Transfer

variable {entry d : Driver} {past : List (Transfer × Reply)} {stage : Stage} {reply : Reply}
  {nowMs : U64}

/-- Only the second word of a channel is read from its LSB register. -/
theorem stage_of_dataLsb {config : Config} {index : Fin 4}
    (h : stage.transfer config = .read (regDataLsb (channelAt index).raw)) :
    stage = .dataLsb index := by
  have hregs : ∀ i j : Fin 4, regDataLsb (channelAt i).raw ≠ regDataMsb (channelAt j).raw ∧
      (regDataLsb (channelAt i).raw = regDataLsb (channelAt j).raw → i = j) ∧
      regDataLsb (channelAt i).raw ≠ regStatus ∧
      ∀ k : Fin 2, regDataLsb (channelAt i).raw ≠ (identitySteps.get k).reg := by decide
  cases stage with
  | reset => cases h
  | profile applyStep => cases h
  | identity k => exact absurd (Transfer.read.inj h).symm ((hregs index 0).2.2.2 k)
  | statusBefore => exact absurd (Transfer.read.inj h).symm (hregs index 0).2.2.1
  | statusAfter => exact absurd (Transfer.read.inj h).symm (hregs index 0).2.2.1
  | dataMsb j => exact absurd (Transfer.read.inj h).symm (hregs index j).1
  | dataLsb j => rw [(hregs index j).2.1 (Transfer.read.inj h).symm]

/-- One transfer more. -/
theorem channelsRead_snoc {mask : ChannelMask} {e : Transfer × Reply} {index : Fin 4}
    (h : ChannelsRead mask past) (hread : e.1 = .read (regDataLsb (channelAt index).raw))
    (hok : e.2.status.isOk = true) :
    ChannelsRead ⟨mask.bits ||| indexBit index⟩ (past ++ [e]) := by
  intro i
  rw [getLsbD_or_indexBit, Bool.or_eq_true, decide_eq_true_eq, h i]
  constructor
  · rintro (⟨j, hj, e', hmem, hread', hok'⟩ | hindex)
    · exact ⟨j, hj, e', List.mem_append_left _ hmem, hread', hok'⟩
    · exact ⟨index, hindex, e, List.mem_append_right _ (List.mem_singleton_self _), hread, hok⟩
  · rintro ⟨j, hj, e', hmem, hread', hok'⟩
    rcases List.mem_append.mp hmem with hmem | hmem
    · exact Or.inl ⟨j, hj, e', hmem, hread', hok'⟩
    · obtain rfl := List.mem_singleton.mp hmem
      have hstage : (Stage.dataLsb index).transfer {} = .read (regDataLsb (channelAt j).raw) :=
        hread.symm.trans hread'
      cases stage_of_dataLsb hstage
      exact Or.inr hj

/-- A transfer that reads no LSB word leaves the mask. -/
theorem channelsRead_keep {mask : ChannelMask} {e : Transfer × Reply} (h : ChannelsRead mask past)
    (hother : ∀ index, e.1 = .read (regDataLsb (channelAt index).raw) → e.2.status.isOk = false) :
    ChannelsRead mask (past ++ [e]) := by
  intro i
  rw [h i]
  constructor
  · rintro ⟨j, hj, e', hmem, hread, hok⟩
    exact ⟨j, hj, e', List.mem_append_left _ hmem, hread, hok⟩
  · rintro ⟨j, hj, e', hmem, hread, hok⟩
    rcases List.mem_append.mp hmem with hmem | hmem
    · exact ⟨j, hj, e', hmem, hread, hok⟩
    · obtain rfl := List.mem_singleton.mp hmem
      rw [hother j hread] at hok
      cases hok

/-- The channels behind a transfer. -/
theorem Following.completed_snoc (hp : Following entry past d) :
    (d.settled stage reply).scratchCompleted =
        (d.settled stage reply).progress.completedChannels ∧
      ChannelsRead (d.settled stage reply).progress.completedChannels
        (past ++ [(stage.transfer d.config, reply)]) := by
  have hgathered := settled_gathered d stage reply
  have hcompleted : (d.settled stage reply).scratchCompleted = _ :=
    congrArg Gathered.completed hgathered
  have hshown : (d.settled stage reply).progress.completedChannels = _ :=
    congrArg Gathered.shown hgathered
  rw [hcompleted, hshown]
  by_cases hok : reply.status.isOk = true
  · rw [if_pos hok]
    by_cases hlsb : ∃ index, stage = .dataLsb index
    · obtain ⟨index, rfl⟩ := hlsb
      have hbits : d.scratchCompleted = d.progress.completedChannels := hp.synced
      refine ⟨rfl, ?_⟩
      show ChannelsRead ⟨d.scratchCompleted.bits ||| indexBit index⟩ _
      rw [hbits]
      exact channelsRead_snoc hp.completed rfl hok
    · have hsame : (d.gathered.add stage reply.word).completed = d.scratchCompleted ∧
          (d.gathered.add stage reply.word).shown = d.progress.completedChannels := by
        cases stage with
        | dataLsb index => exact absurd ⟨index, rfl⟩ hlsb
        | _ => exact ⟨rfl, rfl⟩
      rw [hsame.1, hsame.2]
      exact ⟨hp.synced, channelsRead_keep hp.completed fun index hread =>
        absurd ⟨index, stage_of_dataLsb hread⟩ hlsb⟩
  · rw [if_neg hok]
    rw [Bool.not_eq_true] at hok
    exact ⟨hp.synced, channelsRead_keep hp.completed fun _ _ => hok⟩

/-- A running job is within its script. -/
theorem Following.lt_length (hp : Following entry past d) (hrun : d.Running stage) :
    past.length < entry.script.length := by
  rw [← hp.counted, ← hp.script]
  exact hrun.lt_length

/-- The transfer of a running job is the next of its script. -/
theorem Following.made_snoc (hp : Following entry past d) (hrun : d.Running stage) :
    (past ++ [(stage.transfer d.config, reply)]).map Prod.fst =
      (entry.script.take (past ++ [(stage.transfer d.config, reply)]).length).map
        (Stage.transfer entry.config) := by
  have hscripted := hrun.scripted
  rw [hp.script, hp.counted] at hscripted
  rw [List.length_append, List.length_singleton, List.take_add_one, hscripted, List.map_append,
    List.map_append, hp.made, hp.config]
  rfl

/-- A job that goes on keeps following its script. -/
theorem Following.settled (hp : Following entry past d) (hrun : d.Running stage)
    (hv : d.verdict stage reply = none) :
    Following entry (past ++ [(stage.transfer d.config, reply)]) (d.settled stage reply) where
  config := settled_config.trans hp.config
  script := settled_script.trans hp.script
  counted := by
    rw [settled_completedTransfers, hrun.completed_succ, hp.counted, List.length_append,
      List.length_singleton]
  made := hp.made_snoc hrun
  passed e he := by
    rcases List.mem_append.mp he with he | he
    · exact hp.passed e he
    · rw [List.mem_singleton.mp he]
      exact isOk_of_verdict hv
  synced := hp.completed_snoc.1
  completed := hp.completed_snoc.2

/-- A job succeeds with the last transfer of its script. -/
theorem Driver.Running.last_of_success {status : Status} (hrun : d.Running stage)
    (hvalid : d.config.Valid) (h : Ending d stage reply .success status) :
    d.progress.completedTransfers.toNat + 1 = d.script.length := by
  have hlt := hrun.lt_length
  have hscripted := hrun.scripted
  have hacquire := hrun.isAcquire
  cases h with
  | @replayed applyStep reply hok hlast =>
      have hkind : d.progress.kind ≠ .acquire := of_decide_eq_false hacquire.symm
      have hlength := profileLength_le d.config
      have hbound := hrun.profile_lt
      rw [Driver.script, length_script d.config _ hkind] at hlt ⊢
      rw [Driver.script, Ldc1614.script, if_neg hkind] at hscripted
      rcases Nat.lt_or_ge d.progress.completedTransfers.toNat
        (preamble d.progress.kind).length with hpre | hpost
      · rw [List.getElem?_append_left hpre] at hscripted
        rcases preamble_eq_some hscripted with ⟨-, -, hstage⟩ | ⟨index, -, -, hstage⟩
        · cases hstage
        · cases hstage
      · rw [List.getElem?_append_right hpost] at hscripted
        obtain ⟨hindex, hstage⟩ := replay_eq_some.mp hscripted
        have hstep := congrArg BitVec.toNat (Stage.profile.inj hstage)
        rw [toNat_ofNat_profile hindex] at hstep
        have hsucc : (applyStep + 1).toNat = applyStep.toNat + 1 := by
          have hone : (1 : U8).toNat = 1 := rfl
          rw [BitVec.toNat_add, hone]
          exact Nat.mod_eq_of_lt (by omega)
        omega
  | acquired hok =>
      have hkind : d.progress.kind = .acquire := of_decide_eq_true hacquire.symm
      have hmask := hrun.requested_lt hvalid hkind
      rw [Driver.script, Ldc1614.script, if_pos hkind] at hscripted hlt ⊢
      have hnext := nextRead_acquisition hmask hscripted
      have hnone : (acquisition d.progress.requestedChannels)[
          d.progress.completedTransfers.toNat + 1]? = none := hnext.symm
      rw [List.getElem?_eq_none_iff] at hnone
      omega

/-- An identity check is never the last transfer. -/
theorem Driver.Running.not_last_of_identity {index : Fin 2} (hrun : d.Running (.identity index)) :
    d.progress.completedTransfers.toNat + 1 < d.script.length := by
  have hscripted := hrun.scripted
  have hkind : d.progress.kind ≠ .acquire := of_decide_eq_false hrun.isAcquire.symm
  have hprofile := profileLength_pos d.config
  rw [Driver.script, Ldc1614.script, if_neg hkind] at hscripted
  rw [Driver.script, length_script d.config _ hkind]
  rcases Nat.lt_or_ge d.progress.completedTransfers.toNat
    (preamble d.progress.kind).length with hpre | hpost
  · omega
  · rw [List.getElem?_append_right hpost] at hscripted
    obtain ⟨-, hstage⟩ := replay_eq_some.mp hscripted
    cases hstage

/-- A job that a transfer ends has followed its script. -/
theorem Following.concluded {outcome : TerminalOutcome} {status : Status}
    (hp : Following entry past d) (hrun : d.Running stage) (hvalid : d.config.Valid)
    (h : Ending d stage reply outcome status) :
    Followed entry (past ++ [(stage.transfer d.config, reply)])
      ((d.settled stage reply).terminalResult outcome status nowMs)
      ((d.settled stage reply).finishJob outcome status nowMs).1 where
  made := hp.made_snoc hrun
  within := by
    rw [List.length_append, List.length_singleton]
    exact hp.lt_length hrun
  success := by
    show outcome = .success ↔ _
    rw [List.length_append, List.length_singleton, ← hp.script, ← hp.counted]
    constructor
    -- success comes at the last transfer only, and every transfer before it passed
    · rintro rfl
      refine ⟨hrun.last_of_success hvalid h, fun e he => ?_⟩
      rcases List.mem_append.mp he with he | he
      · exact hp.passed e he
      · rw [List.mem_singleton.mp he]
        cases h with
        | replayed hok => exact hok
        | acquired hok => exact hok
    -- the last transfer that passes ends the job with success; an identity read is never last
    · rintro ⟨hlast, hall⟩
      have hok := hall _ (List.mem_append_right _ (List.mem_singleton_self _))
      cases h with
      | failed hfailed => exact absurd (hfailed.symm.trans hok) Bool.noConfusion
      | mismatched => exact absurd hlast (Nat.ne_of_lt hrun.not_last_of_identity)
      | replayed => rfl
      | acquired => rfl
  counted := by
    show (d.settled stage reply).progress.completedTransfers.toNat = _
    rw [settled_completedTransfers, hrun.completed_succ, hp.counted, List.length_append,
      List.length_singleton]
  maximum := by
    show (d.settled stage reply).progress.maximumTransfers.toNat = _
    rw [settled_maximumTransfers, hrun.maximum, hp.script]
  completed := hp.completed_snoc.2

/-- An interruption is not a transfer. -/
theorem Following.interrupted {outcome : TerminalOutcome} {cause : Status}
    (hp : Following entry past d) (hrun : d.Running stage) (hfailed : outcome ≠ .success) :
    Followed entry past ((d.recordInterruption cause).terminalResult outcome cause nowMs)
      ((d.recordInterruption cause).finishJob outcome cause nowMs).1 := by
  have hlt := hp.lt_length hrun
  have hprogress := recordInterruption_progress (d := d) cause
  refine ⟨hp.made, hlt.le, ?_, ?_, ?_, ?_⟩
  · exact iff_of_false hfailed fun h => absurd h.1 (Nat.ne_of_lt hlt)
  · show (d.recordInterruption cause).progress.completedTransfers.toNat = _
    rw [hprogress]
    exact hp.counted
  · show (d.recordInterruption cause).progress.maximumTransfers.toNat = _
    rw [hprogress, hrun.maximum, hp.script]
  · show ChannelsRead (d.recordInterruption cause).progress.completedChannels past
    rw [hprogress]
    exact hp.completed

/-- **Following the script is a rule of jobs.** -/
theorem following_rule (entry : Driver) : JobRule (Following entry) (Followed entry) where
  goesOn hp _ hrun hv := hp.settled hrun hv
  ends _ hp hw hrun hending := hp.concluded hrun (hw.validProfile hrun.bound) hending
  interrupted _ hp hrun hfailed := hp.interrupted hrun hfailed
  delivered _ hp :=
    { config := hp.config
      script := hp.script
      counted := hp.counted
      made := hp.made
      passed := hp.passed
      synced := hp.synced
      completed := hp.completed }

end Transfer

/-! ### Plans -/

/-- The progress names this entry as the next. -/
def JobProgress.Names (progress : JobProgress) (entry : PlanEntry) : Prop :=
  progress.phase = entry.phase ∧ progress.registerAddress = entry.transfer.reg ∧
    progress.channel = entry.channel

/-- These callbacks are the first ones of the plan, and the progress accounts for them. -/
structure AlongPlan (plan : List PlanEntry) (callbacks : List (Option Transfer × Reply))
    (progress : JobProgress) : Prop where
  within : callbacks.length ≤ plan.length
  made : callbacks.map Prod.fst =
    (plan.take callbacks.length).map fun entry => some entry.transfer
  maximum : progress.maximumTransfers.toNat = plan.length
  counted : progress.completedTransfers.toNat = callbacks.length
  /-- The completed channels are those whose LSB read succeeded. -/
  completed : ∀ i, progress.completedChannels.bits.getLsbD i = true ↔ ∃ index : Fin 4,
    index.val = i ∧ ∃ c ∈ callbacks, c.1 = some (.read (regDataLsb (channelAt index).raw)) ∧
      c.2.status.isOk = true

section Plans

variable {entry d : Driver} {transfers : List (Transfer × Reply)} {plan : List PlanEntry}
  {t : DriverTransition}

/-- The script of an admitted job follows the plan of its start call. -/
theorem plan_of_start (hw : t.before.WellFormed) (hv : t.Valid Call.exec)
    (hadmitted : (account t).admitted ≠ none) :
    t.after.script.map (Stage.entry t.after.config) = t.call.plan t.before.config := by
  obtain ⟨kind, channels, operationId, deadlineMs, maximumTransfers, start, hstarts, hadmissible,
    -, hafter⟩ := admitted_of_start hw hv hadmitted
  have hvariant := (hw.validProfile hadmissible.bound).variant
  have hidentity (index : Fin 2) : Stage.entry t.before.config (.identity index) =
      { transfer := .read (identitySteps.get index).reg, phase := (identitySteps.get index).phase } :=
    rfl
  have hscript : t.after.script = Ldc1614.script t.before.config kind channels ∧
      t.after.config = t.before.config := by
    rw [hafter]
    exact ⟨rfl, rfl⟩
  rw [hscript.1, hscript.2]
  generalize t.call = call at hstarts
  cases hstarts with
  | initialise | applyConfig | resetAndReapply =>
      simp only [Ldc1614.script, reduceCtorEq, if_false, List.map_append, replay_entries hvariant]
      rfl
  | acquire => exact acquisition_entries t.before.config _

/-- An admitted job starts at the beginning of its script. -/
theorem following_of_admitted (hw : t.before.WellFormed) (hv : t.Valid Call.exec)
    (hadmitted : (account t).admitted ≠ none) :
    t.after.progress.active = true ∧ Following t.after [] t.after := by
  obtain ⟨kind, channels, operationId, deadlineMs, maximumTransfers, start, -, -, -, hafter⟩ :=
    admitted_of_start hw hv hadmitted
  rw [hafter]
  refine ⟨rfl, rfl, rfl, rfl, rfl, fun e he => (by cases he), rfl, fun i => ?_⟩
  refine iff_of_false ?_ (by rintro ⟨index, -, e, he, -⟩; cases he)
  show ¬ (0#8).getLsbD i = true
  simp

/-- What an admitted `startAcquire` records. -/
theorem acquire_of_start {mask : ChannelMask} {operationId deadlineMs : U64}
    (hw : t.before.WellFormed) (hv : t.Valid Call.exec) (hadmitted : (account t).admitted ≠ none)
    (hcall : t.call = .startAcquire mask operationId deadlineMs) :
    t.after.progress.kind = .acquire ∧ t.after.progress.requestedChannels = mask ∧
      t.after.progress.maximumTransfers = 2 + 2 * popcount mask := by
  obtain ⟨kind, channels, operationId, deadlineMs, maximumTransfers, start, hstarts, -, -, hafter⟩ :=
    admitted_of_start hw hv hadmitted
  rw [hafter]
  rw [hcall] at hstarts
  cases hstarts
  exact ⟨rfl, rfl, rfl⟩

/-- From its admission to its result a job invokes the transport for its transfers only. -/
theorem carried_of_life {ts : List DriverTransition} {u : Driver}
    (h : DriverRun Driver.initial ts u) (job : JobLife ts) :
    carried (exchange (job.mid ++ [job.last])) =
      (jobTransfers (job.mid ++ [job.last])).map fun e => (some e.1, e.2) := by
  obtain ⟨hbefore, hstart, hmid, hlast, -⟩ := job.around h
  have hw := run_wellFormed wellFormed_initial hbefore
  have hstarted : job.start.after.WellFormed :=
    run_wellFormed hw (Path.single ⟨rfl, hstart, rfl⟩)
  have hactive := (following_of_admitted hw hstart job.admitted).1
  obtain ⟨hon, hall⟩ := active_before hmid hactive job.active
  refine carried_of_job hstarted (Run.snoc hmid hlast) fun t ht => ?_
  rcases List.mem_append.mp ht with ht | ht
  · exact hall t ht
  · rw [List.mem_singleton.mp ht]
    exact hon

/-- What a script makes of a job, as its plan has it. -/
theorem alongPlan_of_made {progress : JobProgress}
    (hplan : entry.script.map (Stage.entry entry.config) = plan)
    (hwithin : transfers.length ≤ entry.script.length)
    (hmade : transfers.map Prod.fst =
      (entry.script.take transfers.length).map (Stage.transfer entry.config))
    (hmaximum : progress.maximumTransfers.toNat = entry.script.length)
    (hcounted : progress.completedTransfers.toNat = transfers.length)
    (hcompleted : ChannelsRead progress.completedChannels transfers) :
    AlongPlan plan (transfers.map fun e => (some e.1, e.2)) progress := by
  have hlength : plan.length = entry.script.length := by rw [← hplan, List.length_map]
  refine ⟨?_, ?_, hmaximum.trans hlength.symm, ?_, fun i => ?_⟩
  · rw [List.length_map, hlength]
    exact hwithin
  · have hsome := congrArg (List.map some) hmade
    rw [List.map_map] at hsome
    rw [List.map_map, List.length_map, ← hplan, ← List.map_take, List.map_map]
    refine Eq.trans hsome ?_
    rw [List.map_map]
    rfl
  · rw [List.length_map]
    exact hcounted
  · rw [hcompleted i]
    constructor
    · rintro ⟨index, hindex, e, hmem, hread, hok⟩
      exact ⟨index, hindex, (some e.1, e.2), List.mem_map_of_mem hmem, congrArg some hread, hok⟩
    · rintro ⟨index, hindex, c, hmem, hread, hok⟩
      obtain ⟨e, he, rfl⟩ := List.mem_map.mp hmem
      exact ⟨index, hindex, e, he, Option.some.inj hread, hok⟩

/-- An active job is along its plan, and its progress names the next entry. -/
theorem Following.alongPlan (hp : Following entry transfers d) (hw : d.WellFormed)
    (hactive : d.progress.active = true)
    (hplan : entry.script.map (Stage.entry entry.config) = plan) :
    AlongPlan plan (transfers.map fun e => (some e.1, e.2)) d.progress ∧
      ∃ next, plan[transfers.length]? = some next ∧ d.progress.Names next := by
  obtain ⟨stage, hrun⟩ := hw.running hactive
  have hscripted := hrun.scripted
  rw [hp.script, hp.counted] at hscripted
  refine ⟨alongPlan_of_made hplan ?_ hp.made ?_ hp.counted hp.completed, stage.entry entry.config,
    ?_, ?_⟩
  · exact (List.getElem?_eq_some_iff.mp hscripted).1.le
  · rw [hrun.maximum, hp.script]
  · rw [← hplan, List.getElem?_map, hscripted]
    rfl
  · have hshown := hrun.shown
    rw [shows, hp.config] at hshown
    obtain ⟨hphase, hrest⟩ := Prod.mk.inj hshown
    obtain ⟨hreg, hchannel⟩ := Prod.mk.inj hrest
    exact ⟨hphase, hreg.trans (Stage.transfer_reg _ _).symm, hchannel⟩

end Plans

/-- **Every job follows its transfer plan.** From the admission of a job to its result the transport
carries a prefix of the plan of its start call, each entry once and in order; it carries all of the
plan, successfully, exactly if the job succeeds, and the final progress accounts for the transfers
and for the channels read. While a job is active, between calls and in the middle of a `poll`, the
progress does the same and names the next entry of the plan. -/
theorem transfer_plan :
    (∀ ts u (job : JobLife ts), DriverRun Driver.initial ts u →
      let plan := job.start.call.plan job.start.before.config
      let callbacks := carried (exchange (job.mid ++ [job.last]))
      AlongPlan plan callbacks job.result.finalProgress ∧
        (job.result.outcome = .success ↔
          callbacks.length = plan.length ∧ ∀ c ∈ callbacks, c.2.status.isOk = true)) ∧
    (∀ past start mid u labels d, DriverRun Driver.initial (past ++ start :: mid) u →
      (account start).admitted ≠ none → (∀ t ∈ mid, t.after.progress.active = true) →
      Path Step u labels d →
      (∀ mark ∈ labels, ∃ nowMs maxTransfers event, mark = .bus (.poll nowMs maxTransfers) event) →
      d.progress.active = true →
      let plan := start.call.plan start.before.config
      let callbacks := carried (exchange mid ++ labels.flatMap Mark.events)
      AlongPlan plan callbacks d.progress ∧
        ∃ next, plan[callbacks.length]? = some next ∧ d.progress.Names next) := by
  constructor
  · intro ts u job h
    obtain ⟨hbefore, hstart, hmid, hlast, -⟩ := job.around h
    have hw := run_wellFormed wellFormed_initial hbefore
    have hstarted : job.start.after.WellFormed :=
      run_wellFormed hw (Path.single ⟨rfl, hstart, rfl⟩)
    -- from its first stage on, the job follows the script of its kind
    obtain ⟨hactive, hfirst⟩ := following_of_admitted hw hstart job.admitted
    have hfollowed := (following_rule job.start.after).life h job hfirst
    have hplan := plan_of_start hw hstart job.admitted
    dsimp only
    rw [carried_of_life h job]
    refine ⟨alongPlan_of_made hplan hfollowed.within hfollowed.made hfollowed.maximum
      hfollowed.counted hfollowed.completed, ?_⟩
    rw [hfollowed.success, ← hplan, List.length_map, List.length_map]
    refine and_congr_right fun _ => ⟨fun hall c hc => ?_, fun hall e he => ?_⟩
    · obtain ⟨e, he, rfl⟩ := List.mem_map.mp hc
      exact hall e he
    · exact hall (some e.1, e.2) (List.mem_map_of_mem (f := fun e => (some e.1, e.2)) he)
  -- in the middle of a job: over its calls, and then over the marks of the poll under way
  · intro past start mid u labels d h hadmitted hmids hpath hpolls hactive
    obtain ⟨hbefore, hstart, hmid⟩ := Run.around h
    have hw := run_wellFormed wellFormed_initial hbefore
    have hstarted : start.after.WellFormed := run_wellFormed hw (Path.single ⟨rfl, hstart, rfl⟩)
    have hbound := run_wellFormed hstarted hmid
    obtain ⟨hactive₀, hfirst⟩ := following_of_admitted hw hstart hadmitted
    obtain ⟨hon, hmiddle⟩ := (following_rule start.after).calls hactive₀ hfirst hstarted hmid hmids
    rw [List.nil_append] at hmiddle
    have hnow : Following start.after (jobTransfers mid ++ labels.filterMap Mark.jobTransfer) d := by
      rcases (following_rule start.after).concluding hon hmiddle hbound hpath fun mark hmark => by
        obtain ⟨nowMs, maxTransfers, event, rfl⟩ := hpolls mark hmark
        rfl with ⟨-, hnow, -⟩ | ⟨hidle, -⟩
      · exact hnow
      · exact absurd (hactive.symm.trans hidle) Bool.noConfusion
    have hcarried : carried (exchange mid ++ labels.flatMap Mark.events) =
        (jobTransfers mid ++ labels.filterMap Mark.jobTransfer).map fun e => (some e.1, e.2) := by
      rw [carried_append, carried_of_job hstarted hmid (active_before hmid hactive₀ hmids).2,
        carried_of_path hpath fun mark hmark => ?_, List.map_append]
      obtain ⟨nowMs, maxTransfers, event, rfl⟩ := hpolls mark hmark
      exact ⟨nowMs, maxTransfers, rfl⟩
    have hwd : d.WellFormed := hpath.invariant hbound fun _ _ _ hw hstep => hstep.wellFormed hw
    obtain ⟨halong, next, hnext, hnames⟩ :=
      hnow.alongPlan hwd hactive (plan_of_start hw hstart hadmitted)
    dsimp only
    rw [hcarried]
    exact ⟨halong, next, by rw [List.length_map]; exact hnext, hnames⟩

/-- An initialization whose last write times out. -/
def benchLastWrite : List (Call × List Reply) :=
  [(.bind benchProfile, []), (.startInitialize 7 1000, []),
    (.poll 10 3, [replied 0x54 0x49, replied 0x30 0x55, replied 0 0]),
    (.poll 20 12, List.replicate 11 (replied 0 0) ++ [failedWith .i2cTimeout])]

/-- A job may make all the transfers of its plan and fail with the last of them. -/
theorem transfer_plan_last_failed : ¬ ∀ ts u (job : JobLife ts), DriverRun Driver.initial ts u →
    ((carried (exchange (job.mid ++ [job.last]))).map Prod.fst =
      (job.start.call.plan job.start.before.config).map (fun entry => some entry.transfer) ↔
        job.result.outcome = .success) := by
  intro hclaim
  have hplan : some ((carried (exchange (((runOf benchLastWrite).1.drop 2).take 2))).map Prod.fst) =
      (runOf benchLastWrite).1[1]?.map fun t =>
        (t.call.plan t.before.config).map fun entry => some entry.transfer := by decide +kernel
  have houtcome : (runOf benchLastWrite).1[3]?.bind (fun t =>
      (account t).finished.map OperationResult.outcome) = some .failed := by decide +kernel
  obtain ⟨job, hstart, hlast, hcalls⟩ :=
    exists_job (show livesAt (runOf benchLastWrite).1 1 1 = true by decide +kernel)
  rw [hstart, Option.map_some, ← hcalls] at hplan
  rw [hlast, Option.bind_some, job.finished, Option.map_some] at houtcome
  have hsuccess := (hclaim _ _ job (run_runOf _)).mp (Option.some.inj hplan)
  exact absurd (hsuccess.symm.trans (Option.some.inj houtcome)) (by decide)

/-- The failed initialization has made the fifteen transfers of its plan; three transfers into it
the progress named the fourth entry. -/
theorem transfer_plan_bench :
    (∃ job : JobLife (runOf benchLastWrite).1, job.result.outcome ≠ .success ∧
      job.result.finalProgress.completedTransfers = 15) ∧
    ∃ next, (initializePlan benchProfile)[3]? = some next ∧
      (runOf (benchLastWrite.take 3)).2.progress.Names next := by
  constructor
  · have hfailed : ((runOf benchLastWrite).1.drop 2).take 2 |> fun ts =>
        (carried (exchange ts)).length = 15 ∧
          ¬ ∀ c ∈ carried (exchange ts), c.2.status.isOk = true := by decide +kernel
    obtain ⟨job, -, -, hcalls⟩ :=
      exists_job (show livesAt (runOf benchLastWrite).1 1 1 = true by decide +kernel)
    obtain ⟨halong, hsuccess⟩ := transfer_plan.1 _ _ job (run_runOf _)
    dsimp only at hfailed
    rw [← hcalls] at hfailed
    refine ⟨job, fun h => hfailed.2 (hsuccess.mp h).2, ?_⟩
    exact BitVec.eq_of_toNat_eq (halong.counted.trans hfailed.1)
  · have hlength : (runOf (benchLastWrite.take 3)).1.length = 3 := by decide +kernel
    obtain ⟨bind, start, poll, hts⟩ := List.length_eq_three.mp hlength
    have hrun := run_runOf (benchLastWrite.take 3)
    have hfacts : (runOf (benchLastWrite.take 3)).1.map (fun t =>
        (t.call.plan t.before.config, (account t).admitted.isSome, t.after.progress.active,
          (carried t.events).length)) =
        [([], false, false, 0), (initializePlan benchProfile, true, true, 0), ([], false, true, 3)] := by
      decide +kernel
    have hend : (runOf (benchLastWrite.take 3)).2.progress.active = true := by decide +kernel
    rw [hts] at hrun hfacts
    simp only [List.map_cons, List.map_nil, List.cons.injEq, Prod.mk.injEq, and_true] at hfacts
    obtain ⟨-, ⟨hplan, hadmitted, -, -⟩, -, -, hactive, hcount⟩ := hfacts
    obtain ⟨-, next, hnext, hnames⟩ := transfer_plan.2 [bind] start [poll] _ [] _ hrun
      (Option.isSome_iff_ne_none.mp hadmitted)
      (fun t ht => by rw [List.mem_singleton.mp ht]; exact hactive) .nil
      (fun mark hmark => by cases hmark) hend
    rw [hplan, exchange_cons, exchange_nil, List.flatMap_nil, List.append_nil, List.append_nil,
      hcount] at hnext
    exact ⟨next, hnext, hnames⟩

end Ldc1614
