import Ldc1614.Driver.Evaluate
import Ldc1614.Interaction.Mailbox

/-! # Delivery of results

Within one binding the driver is a mailbox: an admitted job occupies the one job slot until it ends,
and its terminal result then waits in the two-slot ring until `takeResult` hands it out. This file
reads the mailbox off the driver, shows that every step is a move of it, and carries over its
accounts: no result is lost, duplicated, reordered or altered. -/

namespace Ldc1614

open Cmd Interaction

/-! ### Tickets -/

/-- What a job is admitted with. -/
structure Ticket where
  operationId : U64
  kind : JobKind
  deadlineMs : U64
  requestedChannels : ChannelMask
  configRevision : U32
  deriving DecidableEq, Repr

/-- The ticket a progress snapshot carries. -/
def JobProgress.admission (progress : JobProgress) : Ticket :=
  { operationId := progress.operationId
    kind := progress.kind
    deadlineMs := progress.deadlineMs
    requestedChannels := progress.requestedChannels
    configRevision := progress.configRevision }

/-- The ticket a terminal result carries, in its own fields where it has them. -/
def OperationResult.admission (result : OperationResult) : Ticket :=
  { operationId := result.operationId
    kind := result.kind
    deadlineMs := result.finalProgress.deadlineMs
    requestedChannels := result.finalProgress.requestedChannels
    configRevision := result.configRevision }

/-- The ticket of a start call that returned `IN_PROGRESS`, at this configuration revision. -/
def Call.admission (revision : U32) (call : Call) (output : Output) : Option Ticket :=
  if output.toStatus.inProgress then
    match call with
    | .startInitialize operationId deadlineMs =>
        some ⟨operationId, .initialise, deadlineMs, {}, revision⟩
    | .startApplyConfig operationId deadlineMs =>
        some ⟨operationId, .applyConfig, deadlineMs, {}, revision⟩
    | .startResetAndReapply operationId deadlineMs =>
        some ⟨operationId, .resetAndReapply, deadlineMs, {}, revision⟩
    | .startAcquire channels operationId deadlineMs =>
        some ⟨operationId, .acquire, deadlineMs, channels, revision⟩
    | _ => none
  else none

/-- The result a `takeResult` call handed out. -/
def Call.handedOut : Call → Output → Option OperationResult
  | .takeResult, .result status out => if status.isOk then some out else none
  | _, _ => none

/-- What a call that took no effect admits and hands out. -/
theorem Call.admission_of_kept {revision : U32} {call : Call} {output : Output}
    (h : call.effective output = false) : call.admission revision output = none := by
  unfold Call.admission
  split
  · next hin =>
      cases call with
      | startInitialize => exact absurd (h.symm.trans hin) Bool.noConfusion
      | startApplyConfig => exact absurd (h.symm.trans hin) Bool.noConfusion
      | startResetAndReapply => exact absurd (h.symm.trans hin) Bool.noConfusion
      | startAcquire => exact absurd (h.symm.trans hin) Bool.noConfusion
      | _ => rfl
  · rfl

/-- A call without effect hands nothing out. -/
theorem Call.handedOut_of_kept {call : Call} {output : Output}
    (h : call.effective output = false) : call.handedOut output = none := by
  cases call with
  | takeResult =>
      cases output with
      | result status out =>
          have hok : status.isOk = false := h
          simp [Call.handedOut, hok]
      | _ => rfl
  | _ => rfl

/-! ### The mailbox of a driver -/

namespace Driver

variable {d d' : Driver} {stage : Stage} {call : Call} {output : Output}

/-- The job slot and the queue of the driver. -/
def mailbox (d : Driver) : Mailbox Ticket OperationResult :=
  { job := if d.progress.active then some d.progress.admission else none
    queue := d.queue }

/-- The moves of the driver's mailbox. -/
abbrev Move := Mailbox.Move OperationResult.admission

/-- What the frame of the state keeps is the mailbox. -/
theorem mailbox_of_frame (h : d'.frame = d.frame) : d'.mailbox = d.mailbox :=
  (congrArg mailbox h :)

/-- Finishing the job in the slot is a move, also when it has been settled or interrupted first. -/
theorem move_finishJob {e : Driver} {nowMs : U64} (h : d.Running stage) (hframe : e.frame = d.frame)
    (outcome : TerminalOutcome) (status : Status) :
    Move d.mailbox { finished := some (e.terminalResult outcome status nowMs) }
      (e.finishJob outcome status nowMs).1.mailbox := by
  have hcount : e.resultCount = d.resultCount := (congrArg resultCount hframe :)
  have hqueue : e.queue = d.queue := (congrArg queue hframe :)
  have hadmission : e.progress.admission = d.progress.admission :=
    (congrArg (fun e : Driver => e.progress.admission) hframe :)
  have hjob : d.mailbox.job = some (e.terminalResult outcome status nowMs).admission := by
    show (if d.progress.active then some d.progress.admission else none) = _
    rw [if_pos h.active, ← hadmission]
    rfl
  have hmailbox : (e.finishJob outcome status nowMs).1.mailbox =
      ⟨none, d.mailbox.queue ++ [e.terminalResult outcome status nowMs]⟩ := by
    show Mailbox.mk _ (e.finishJob outcome status nowMs).1.queue = _
    rw [finishJob_queue outcome status (hcount ▸ h.slot), hqueue]
    rfl
  rw [hmailbox]
  exact .finish _ hjob

/-- A transfer of a job moves the mailbox only when the job ends. -/
theorem Running.move (h : d.Running stage) (reply : Reply) (nowMs : U64) :
    ∃ finished, Move d.mailbox ⟨none, finished, none⟩ (d.resume stage reply nowMs).driver.mailbox := by
  cases hv : d.verdict stage reply with
  | none =>
      refine ⟨none, ?_⟩
      rw [resume_driver_of_none hv, mailbox_of_frame (settled_frame d stage reply)]
      exact .idle _
  | some verdict =>
      rw [resume_driver_of_some hv]
      exact ⟨_, move_finishJob h (settled_frame d stage reply) _ _⟩

/-- The ticket of an admitted start call. -/
theorem Starts.admission {kind : JobKind} {channels : ChannelMask} {operationId deadlineMs : U64}
    {maximumTransfers : U8}
    (h : d.Starts call kind channels operationId deadlineMs maximumTransfers) :
    call.admission d.configRevision (.status scheduled) =
      some ⟨operationId, kind, deadlineMs, channels, d.configRevision⟩ := by
  cases h <;> rfl

/-- An admission is a move. -/
theorem Starts.move {kind : JobKind} {channels : ChannelMask} {operationId deadlineMs : U64}
    {maximumTransfers : U8} {start : JobPhase × U8} (hidle : d.progress.active = false)
    (h : d.Starts call kind channels operationId deadlineMs maximumTransfers) :
    Move d.mailbox { admitted := call.admission d.configRevision (.status scheduled) }
      (d.admitted kind channels operationId deadlineMs maximumTransfers start).mailbox := by
  have hempty : d.mailbox.job = none := if_neg (by simp [hidle])
  rw [h.admission]
  exact .accept _ hempty

/-- A delivery hands out the oldest result. -/
theorem move_delivered (hw : d.WellFormed) (hpos : d.resultCount ≠ 0)
    (hhead : d.resultHead.toNat < resultCapacity) :
    Move d.mailbox { handed := some d.results[d.resultHead.toNat] } (d.delivered hhead).mailbox := by
  exact .hand _ _ (queue_delivered hw hpos hhead)

end Driver

/-! ### Every step is a move -/

/-- What a mark admits. -/
def Mark.admission (revision : U32) : Mark → Option Ticket
  | .ret call output => call.admission revision output
  | .bus _ _ => none

/-- What a mark hands out. -/
def Mark.handedOut : Mark → Option OperationResult
  | .ret call output => call.handedOut output
  | .bus _ _ => none

open Driver

/-- **Every step within a binding is a move of the mailbox.** -/
theorem Step.move {d d' : Driver} {mark : Mark} (hw : d.WellFormed) (h : Step d mark d')
    (hkept : mark.rebinds = false) :
    ∃ finished, Move d.mailbox ⟨mark.admission d.configRevision, finished, mark.handedOut⟩
      d'.mailbox := by
  cases h with
  | job hrun hdue => exact hrun.move _ _
  | direct hdirect =>
      rw [mailbox_of_frame hdirect.frame_eq]
      exact ⟨none, .idle _⟩
  | @quiet _ call output hquiet =>
      cases hquiet with
      | kept heffect =>
          simp only [Mark.admission, Mark.handedOut, Call.admission_of_kept heffect,
            Call.handedOut_of_kept heffect]
          exact ⟨none, .idle _⟩
      | bound => cases hkept
      | ended => cases hkept
      | updated config hu => exact ⟨none, .idle _⟩
      | started hstarts hadm hstart =>
          refine ⟨none, ?_⟩
          have hhanded : call.handedOut (.status scheduled) = none := by cases hstarts <;> rfl
          simp only [Mark.admission, Mark.handedOut, hhanded]
          exact hstarts.move hadm.idle
      | expired nowMs maxTransfers hactive hdue =>
          obtain ⟨stage, hrun⟩ := hw.running hactive
          exact ⟨_, move_finishJob hrun (recordInterruption_frame _) _ _⟩
      | cancelled hactive =>
          obtain ⟨stage, hrun⟩ := hw.running hactive
          exact ⟨_, move_finishJob hrun (recordInterruption_frame _) _ _⟩
      | taken hpos hhead => exact ⟨none, move_delivered hw hpos hhead⟩
      | invalidated reason hidle => exact ⟨none, .idle _⟩

/-- A step that begins or ends a binding empties the mailbox. -/
theorem Step.clears {d d' : Driver} {mark : Mark} (h : Step d mark d')
    (hrebinds : mark.rebinds = true) : d'.mailbox = ⟨none, []⟩ := by
  cases h with
  | job => cases hrebinds
  | direct => cases hrebinds
  | @quiet _ call output hquiet =>
      cases hquiet with
      | kept heffect =>
          exact absurd ((Call.rebinds_of_kept heffect).symm.trans hrebinds) Bool.noConfusion
      | bound => rfl
      | ended => rfl
      | started hstarts => cases hstarts <;> cases hrebinds
      | _ => cases hrebinds

/-- **What a step does to the queue**: no result appears but the terminal one of the active job. -/
theorem Step.queue {d d' : Driver} {mark : Mark} (hw : d.WellFormed) (h : Step d mark d') :
    (∀ result ∈ d'.queue, result ∈ d.queue) ∨
    ∃ (stage : Stage) (e : Driver) (outcome : TerminalOutcome) (status : Status) (nowMs : U64),
      d.Running stage ∧ e.frame = d.frame ∧
        d'.queue = d.queue ++ [e.terminalResult outcome status nowMs] := by
  have hfinished {stage : Stage} {e : Driver} {outcome : TerminalOutcome} {status : Status}
      {nowMs : U64} (hrun : d.Running stage) (hframe : e.frame = d.frame) :
      (e.finishJob outcome status nowMs).1.queue =
        d.queue ++ [e.terminalResult outcome status nowMs] := by
    have hcount : e.resultCount = d.resultCount := (congrArg resultCount hframe :)
    have hqueue : e.queue = d.queue := (congrArg Driver.queue hframe :)
    rw [finishJob_queue outcome status (hcount ▸ hrun.slot), hqueue]
  have hsame (hqueue : d'.queue = d.queue) : ∀ result ∈ d'.queue, result ∈ d.queue := by
    intro result hresult
    rwa [hqueue] at hresult
  -- a result is queued where a job is finished: the frame of the driver is still the old one
  cases h with
  | @job stage nowMs _ _ reply hrun hdue =>
      cases hv : d.verdict stage reply with
      | none =>
          rw [resume_driver_of_none hv] at hsame ⊢
          exact Or.inl (hsame (congrArg Driver.queue (settled_frame d stage reply) :))
      | some verdict =>
          rw [resume_driver_of_some hv]
          exact Or.inr ⟨stage, _, _, _, _, hrun, settled_frame d stage reply,
            hfinished hrun (settled_frame d stage reply)⟩
  | direct hdirect => exact Or.inl (hsame (congrArg Driver.queue hdirect.frame_eq :))
  | quiet hquiet =>
      cases hquiet with
      | bound => exact Or.inl fun result hresult => by cases hresult
      | ended => exact Or.inl fun result hresult => by cases hresult
      | expired nowMs maxTransfers hactive hdue =>
          obtain ⟨stage, hrun⟩ := hw.running hactive
          exact Or.inr ⟨stage, _, _, _, _, hrun, recordInterruption_frame _,
            hfinished hrun (recordInterruption_frame _)⟩
      | cancelled hactive =>
          obtain ⟨stage, hrun⟩ := hw.running hactive
          exact Or.inr ⟨stage, _, _, _, _, hrun, recordInterruption_frame _,
            hfinished hrun (recordInterruption_frame _)⟩
      -- taking a result leaves the rest of the queue
      | taken hpos hhead =>
          refine Or.inl fun result hresult => ?_
          rw [queue_delivered hw hpos hhead]
          exact List.mem_cons_of_mem _ hresult
      | _ => exact Or.inl (hsame rfl)

/-- What holds of every terminal result holds of every queued one. -/
theorem Visited.forall_queue {d : Driver} {P : OperationResult → Prop} (h : Visited d)
    (hnew : ∀ (m : Driver) (stage : Stage) (e : Driver) (outcome : TerminalOutcome)
      (status : Status) (nowMs : U64), m.Running stage → e.frame = m.frame →
      P (e.terminalResult outcome status nowMs)) : ∀ result ∈ d.queue, P result := by
  obtain ⟨labels, hpath⟩ := h
  have key : d.WellFormed ∧ ∀ result ∈ d.queue, P result := by
    refine hpath.invariant (I := fun d => d.WellFormed ∧ ∀ result ∈ d.queue, P result) ?_ ?_
    · exact ⟨wellFormed_initial, fun result hresult => by cases hresult⟩
    · rintro m mark m' ⟨hw, hall⟩ hstep
      refine ⟨hstep.wellFormed hw, ?_⟩
      rcases hstep.queue hw with hsub | ⟨stage, e, outcome, status, nowMs, hrun, hframe, hqueue⟩
      · exact fun result hresult => hall result (hsub result hresult)
      · rw [hqueue]
        intro result hresult
        rcases List.mem_append.mp hresult with hresult | hresult
        · exact hall result hresult
        · obtain rfl := List.mem_singleton.mp hresult
          exact hnew m stage e outcome status nowMs hrun hframe
  exact key.2

/-- A fresh id is not among those of the queue. -/
theorem Driver.Admissible.not_mem {d : Driver} {operationId : U64} (h : d.Admissible operationId) :
    operationId ∉ (d.mailbox.outstanding OperationResult.admission).map Ticket.operationId := by
  have hempty : d.mailbox.job = none := if_neg (by simp [h.idle])
  have hunused := h.fresh
  rw [operationIdInUse, Bool.or_eq_false_iff] at hunused
  intro hmem
  rw [Mailbox.outstanding, hempty, Option.toList_none, List.nil_append, List.map_map] at hmem
  obtain ⟨result, hresult, hid⟩ := List.mem_map.mp hmem
  have hdiffers := List.any_eq_false.mp hunused.2 result hresult
  exact hdiffers (beq_iff_eq.mpr hid)

/-- An admitted ticket carries a new id. -/
theorem Step.fresh {d d' : Driver} {mark : Mark} {ticket : Ticket} (h : Step d mark d')
    (hadmits : mark.admission d.configRevision = some ticket) :
    ticket.operationId ≠ 0 ∧
      ticket.operationId ∉ (d.mailbox.outstanding OperationResult.admission).map
        Ticket.operationId := by
  cases h with
  | job => cases hadmits
  | direct => cases hadmits
  | @quiet _ call output hquiet =>
      cases hquiet with
      | kept heffect =>
          rw [Mark.admission, Call.admission_of_kept heffect] at hadmits
          cases hadmits
      | @started _ kind channels operationId deadlineMs maximumTransfers start hstarts hadm hstart =>
          obtain rfl := Option.some.inj (hstarts.admission.symm.trans hadmits)
          exact ⟨hadm.named, hadm.not_mem⟩
      | _ => cases hadmits

/-! ### The operation ids -/

/-- The ids of the active job and of the queued results are nonzero and pairwise distinct. -/
def Driver.IdsDistinct (d : Driver) : Prop :=
  ((d.mailbox.outstanding OperationResult.admission).map Ticket.operationId).Nodup ∧
    ∀ ticket ∈ d.mailbox.outstanding OperationResult.admission, ticket.operationId ≠ 0

/-- Every step keeps the ids apart. -/
theorem Step.idsDistinct {d d' : Driver} {mark : Mark} (hw : d.WellFormed) (h : Step d mark d')
    (hids : d.IdsDistinct) : d'.IdsDistinct := by
  cases hrebinds : mark.rebinds with
  | true =>
      rw [IdsDistinct, h.clears hrebinds]
      exact ⟨List.nodup_nil, by simp [Mailbox.outstanding]⟩
  | false =>
      obtain ⟨finished, hmove⟩ := h.move hw hrebinds
      exact ⟨hmove.nodup Ticket.operationId (fun t ht => (h.fresh ht).2) hids.1,
        hmove.forall_outstanding (fun t ht => (h.fresh ht).1) hids.2⟩

/-- The ids in use are distinct in every state on the way. -/
theorem Visited.idsDistinct {d : Driver} (h : Visited d) : d.IdsDistinct := by
  obtain ⟨labels, hpath⟩ := h
  have key : d.WellFormed ∧ d.IdsDistinct := by
    refine hpath.invariant (I := fun d => d.WellFormed ∧ d.IdsDistinct) ?_ ?_
    · exact ⟨wellFormed_initial, List.nodup_nil, fun ticket hticket => by cases hticket⟩
    · intro m mark m' hm hstep
      exact ⟨hstep.wellFormed hm.1, hstep.idsDistinct hm.1 hm.2⟩
  exact key.2

/-! ### Every call is a move -/

/-- What an executed call admits, finishes and hands out. The result it finishes is the one that
joined the queue when the job left the active state. -/
def account (t : DriverTransition) : Ledger Ticket OperationResult where
  admitted := t.call.admission t.before.configRevision t.output
  finished :=
    if t.before.progress.active && !t.after.progress.active then t.after.queue.getLast? else none
  handed := t.call.handedOut t.output

/-- Exchanges and a nested cancellation may end the job, and do nothing else to the mailbox. -/
theorem path_move {d d' : Driver} {labels : List Mark} (h : Path Step d labels d')
    (hw : d.WellFormed) (hlabels : ∀ mark ∈ labels, mark.rebinds = false ∧ mark.handedOut = none ∧
      ∀ revision, mark.admission revision = none) :
    ∃ finished, Move d.mailbox ⟨none, finished, none⟩ d'.mailbox := by
  have key : d'.WellFormed ∧ ∃ finished, Move d.mailbox ⟨none, finished, none⟩ d'.mailbox := by
    induction h with
    | nil => exact ⟨hw, none, .idle _⟩
    | snoc _ hstep ih =>
        obtain ⟨hm, first, hfirst⟩ := ih fun mark hmark =>
          hlabels mark (List.mem_append_left _ hmark)
        obtain ⟨hrebinds, hhanded, hadmits⟩ :=
          hlabels _ (List.mem_append_right _ (List.mem_singleton_self _))
        obtain ⟨second, hsecond⟩ := hstep.move hm hrebinds
        rw [hhanded, hadmits] at hsecond
        exact ⟨hstep.wellFormed hm, _, hfirst.trans hsecond (Or.inr ⟨rfl, rfl⟩)⟩
  exact key.2

/-- What precedes the return of a call admits nothing, hands nothing out and keeps the binding. -/
theorem before_return (t : DriverTransition) :
    ∀ mark ∈ nestedMarks t ++ t.events.map (Mark.bus t.call),
      mark.rebinds = false ∧ mark.handedOut = none ∧
        ∀ revision, mark.admission revision = none := by
  intro mark hmark
  rcases List.mem_append.mp hmark with hmark | hmark
  · unfold nestedMarks at hmark
    split at hmark
    · split at hmark
      · obtain rfl := List.mem_singleton.mp hmark
        exact ⟨rfl, rfl, fun _ => rfl⟩
      · cases hmark
    · cases hmark
  · obtain ⟨event, -, rfl⟩ := List.mem_map.mp hmark
    exact ⟨rfl, rfl, fun _ => rfl⟩

/-- Whether a call admits does not depend on the revision. -/
theorem Call.admission_eq_none {revision revision' : U32} {call : Call} {output : Output}
    (h : call.admission revision output = none) : call.admission revision' output = none := by
  unfold Call.admission at h ⊢
  split at h
  · next hin =>
      rw [if_pos hin]
      cases call <;> first | rfl | cases h
  · next hin => rw [if_neg hin]

/-- A mailbox is vacated when the job leaves the active state. -/
theorem vacated_iff (t : DriverTransition) :
    (t.before.mailbox.job.isSome && t.after.mailbox.job.isNone) =
      (t.before.progress.active && !t.after.progress.active) := by
  unfold mailbox
  cases t.before.progress.active <;> cases t.after.progress.active <;> rfl

/-- The calls that only return make no exchange. -/
theorem events_eq_nil {t : DriverTransition} (hw : t.before.WellFormed) (hv : t.Valid Call.exec)
    (hcall : t.call.usesBus = false) : t.events = [] := by
  have hpath := transition_path t hw hv
  rw [List.eq_nil_iff_forall_not_mem]
  intro event hevent
  obtain ⟨pre, post, hsplit⟩ := List.append_of_mem hevent
  have hmarks : marks t = (nestedMarks t ++ pre.map (Mark.bus t.call)) ++
      Mark.bus t.call event :: (post.map (Mark.bus t.call) ++ [.ret t.call t.output]) := by
    simp [marks, hsplit]
  rw [hmarks] at hpath
  obtain ⟨m, m', -, hstep, -⟩ := hpath.around
  exact absurd (hcall.symm.trans hstep.usesBus) Bool.noConfusion

/-- What admits or hands out is not nested and makes no exchange. -/
theorem bare_of_effect {t : DriverTransition} (hw : t.before.WellFormed) (hv : t.Valid Call.exec)
    (h : (account t).admitted ≠ none ∨ (account t).handed ≠ none) :
    nestedMarks t ++ t.events.map (Mark.bus t.call) = [] := by
  have hcall : t.call.usesBus = false ∧ nestedMarks t = [] := by
    unfold nestedMarks
    cases hc : t.call with
    | startInitialize => exact ⟨rfl, rfl⟩
    | startApplyConfig => exact ⟨rfl, rfl⟩
    | startResetAndReapply => exact ⟨rfl, rfl⟩
    | startAcquire => exact ⟨rfl, rfl⟩
    | takeResult => exact ⟨rfl, rfl⟩
    | _ =>
        refine absurd h ?_
        simp [account, hc, Call.admission, Call.handedOut]
  rw [hcall.2, events_eq_nil hw hv hcall.1]
  rfl

/-- **Every call within a binding is a move of the mailbox.** -/
theorem transition_move {t : DriverTransition} (hw : t.before.WellFormed) (hv : t.Valid Call.exec)
    (hkept : t.call.rebinds t.output = false) :
    Move t.before.mailbox (account t) t.after.mailbox := by
  have hpath := transition_path t hw hv
  have hwhole : ∃ finished, Move t.before.mailbox
      ⟨(account t).admitted, finished, (account t).handed⟩ t.after.mailbox := by
    by_cases heffect : (account t).admitted ≠ none ∨ (account t).handed ≠ none
    · -- nothing precedes the return
      rw [marks, bare_of_effect hw hv heffect] at hpath
      obtain ⟨m, hfirst, hlast⟩ := Path.last hpath
      obtain rfl := hfirst.of_nil
      exact hlast.move hw hkept
    · obtain ⟨hadmitted, hhanded⟩ := not_or.mp heffect
      rw [not_not] at hadmitted hhanded
      obtain ⟨m, hfirst, hlast⟩ := Path.last hpath
      obtain ⟨first, hmove⟩ := path_move hfirst hw (before_return t)
      have hm : m.WellFormed := hfirst.invariant hw fun _ _ _ hw hstep => hstep.wellFormed hw
      obtain ⟨second, hmove'⟩ := hlast.move hm hkept
      have hnone : Mark.admission m.configRevision (.ret t.call t.output) = none :=
        Call.admission_eq_none hadmitted
      have hnone' : Mark.handedOut (.ret t.call t.output) = none := hhanded
      rw [hnone, hnone'] at hmove'
      rw [hadmitted, hhanded]
      exact ⟨_, hmove.trans hmove' (Or.inr ⟨rfl, rfl⟩)⟩
  obtain ⟨finished, hmove⟩ := hwhole
  have hread := hmove.finished_eq
  rw [vacated_iff] at hread
  obtain rfl : finished = (account t).finished := hread
  exact hmove

/-! ### The life of a job -/

/-- The life of a job within a run: `start` admits it, it is active throughout `mid`, and `last`
ends it with `result`. -/
structure JobLife (ts : List DriverTransition) where
  past : List DriverTransition
  start : DriverTransition
  mid : List DriverTransition
  last : DriverTransition
  later : List DriverTransition
  result : OperationResult
  calls : ts = past ++ start :: (mid ++ last :: later)
  admitted : (account start).admitted ≠ none
  active : ∀ t ∈ mid, t.after.progress.active = true
  finished : (account last).finished = some result

/-- The calls of a job are calls of the run. -/
theorem JobLife.mem {ts : List DriverTransition} (job : JobLife ts) {t : DriverTransition}
    (ht : t ∈ job.start :: (job.mid ++ [job.last])) : t ∈ ts := by
  rw [job.calls]
  have hall : job.past ++ job.start :: (job.mid ++ job.last :: job.later) =
      job.past ++ (job.start :: (job.mid ++ [job.last])) ++ job.later := by simp
  rw [hall]
  exact List.mem_append_left _ (List.mem_append_right _ ht)

/-- The pieces of the run around a job. -/
theorem JobLife.around {s u : Driver} {ts : List DriverTransition} (job : JobLife ts)
    (h : DriverRun s ts u) :
    DriverRun s job.past job.start.before ∧ job.start.Valid Call.exec ∧
      DriverRun job.start.after job.mid job.last.before ∧ job.last.Valid Call.exec ∧
      DriverRun job.last.after job.later u := by
  rw [job.calls] at h
  obtain ⟨hbefore, hstart, hrest⟩ := Run.around h
  obtain ⟨hmid, hlast, hlater⟩ := Run.around hrest
  exact ⟨hbefore, hstart, hmid, hlast, hlater⟩

/-! ### Taking a result -/

/-- An empty queue has nothing to hand out. -/
theorem takeResult_of_nil {d : Driver} (hw : d.WellFormed) (h : d.queue = []) :
    d.takeResult = .done (d, .error .resultNotReady "No terminal result available", {}) := by
  by_cases hzero : d.resultCount = 0
  · exact takeResult_of_zero hzero
  · rw [queue_delivered hw hzero hw.head] at h
    cases h

/-- The oldest result of the queue is handed out, and leaves it. -/
theorem takeResult_of_cons {d : Driver} {result : OperationResult} {rest : List OperationResult}
    (hw : d.WellFormed) (h : d.queue = result :: rest) :
    ∃ d', d.takeResult = .done (d', .ok, result) ∧ d'.queue = rest := by
  by_cases hzero : d.resultCount = 0
  · have hlength : d.queue.length = d.resultCount.toNat := Ring.length_toList (by decide) _ _ _
    rw [h, hzero] at hlength
    cases hlength
  · rw [queue_delivered hw hzero hw.head] at h
    obtain ⟨rfl, rfl⟩ := List.cons.inj h
    exact ⟨_, takeResult_of_ne_zero hzero hw.head, rfl⟩

/-- A `takeResult` hands out the head of the queue, if there is one. -/
theorem handed_of_takeResult {t : DriverTransition} (hw : t.before.WellFormed)
    (hv : t.Valid Call.exec) (hcall : t.call = .takeResult) :
    (account t).handed = t.before.queue.head? := by
  obtain ⟨d, call, events, output, d'⟩ := t
  obtain rfl : call = .takeResult := hcall
  change (Call.takeResult.exec d).Yields events (d', output) at hv
  show Call.takeResult.handedOut output = d.queue.head?
  cases hqueue : d.queue with
  | nil =>
      rw [Call.exec, takeResult_of_nil hw hqueue] at hv
      obtain ⟨-, hend⟩ := hv
      rw [(Prod.mk.inj hend).2]
      rfl
  | cons result rest =>
      obtain ⟨e, htake, -⟩ := takeResult_of_cons hw hqueue
      rw [Call.exec, htake] at hv
      obtain ⟨-, hend⟩ := hv
      rw [(Prod.mk.inj hend).2]
      rfl

/-! ### The accounts of a binding -/

/-- A run within a binding is a path of moves. -/
theorem run_moves {s u : Driver} {ts : List DriverTransition} (hw : s.WellFormed)
    (h : DriverRun s ts u) (hkept : ∀ t ∈ ts, t.call.rebinds t.output = false) :
    Path Move s.mailbox (ts.map account) u.mailbox := by
  induction h with
  | nil => exact .nil
  | snoc hrun hlast ih =>
      obtain ⟨rfl, hv, rfl⟩ := hlast
      have hpast := ih fun t ht => hkept t (List.mem_append_left _ ht)
      have hmove := transition_move (run_wellFormed hw hrun) hv
        (hkept _ (List.mem_append_right _ (List.mem_singleton_self _)))
      rw [List.map_append, List.map_singleton]
      exact hpast.snoc hmove

/-- **Exactly-once, in-order delivery.** Within one binding, against every transport: the results
handed out, followed by those still queued, are the terminal results in the order in which the jobs
ended; each job that was admitted has one terminal result with its ticket, or is still active. Every
call conserves the queue: it appends the terminal result of the job it ends, or removes the oldest
result by handing it out, and every `takeResult` hands out the oldest one there is. In every state on
the way a slot is free for the active job, and the operation ids are nonzero and distinct; and
`takeResult` reports `RESULT_NOT_READY` if and only if the queue is empty, and else hands out its
head and leaves its tail. -/
theorem results_delivered_once {s u : Driver} {ts : List DriverTransition}
    (h : WithinBinding s ts u) :
    ts.filterMap (fun t => (account t).handed) ++ u.queue =
        ts.filterMap (fun t => (account t).finished) ∧
      ts.filterMap (fun t => (account t).admitted) =
        (ts.filterMap (fun t => (account t).finished)).map OperationResult.admission ++
          u.mailbox.job.toList ∧
      (∀ t ∈ ts,
        t.before.queue ++ (account t).finished.toList =
          (account t).handed.toList ++ t.after.queue ∧
        (account t).finished.isSome =
          (t.before.progress.active && !t.after.progress.active) ∧
        (t.call = .takeResult → (account t).handed = t.before.queue.head?)) ∧
      ∀ d, Visited d → d.IdsDistinct ∧ d.queue.length = d.resultCount.toNat ∧
        d.resultCount.toNat ≤ resultCapacity ∧
        (d.progress.active = true → d.resultCount.toNat < resultCapacity) ∧
        (d.queue = [] →
          d.takeResult = .done (d, .error .resultNotReady "No terminal result available", {})) ∧
        ∀ result rest, d.queue = result :: rest →
          ∃ d', d.takeResult = .done (d', .ok, result) ∧ d'.queue = rest := by
  have hw := h.wellFormed
  have hempty : s.mailbox = ⟨none, []⟩ := by
    obtain ⟨d, config, -, -, rfl⟩ := h.start
    rfl
  -- the run moves an abstract mailbox, which keeps the accounts
  have hpath := run_moves hw h.run h.kept
  rw [hempty] at hpath
  obtain ⟨hrecords, htickets⟩ := Mailbox.accounts hpath
  simp only [List.filterMap_map] at hrecords htickets
  refine ⟨hrecords, htickets, ?_, ?_⟩
  · intro t ht
    obtain ⟨before, after, rfl⟩ := List.append_of_mem ht
    obtain ⟨hbefore, hvalid, -⟩ := Run.around h.run
    have hwbefore := run_wellFormed hw hbefore
    have hmove := transition_move hwbefore hvalid (h.kept t ht)
    exact ⟨hmove.conserves, hmove.finished_isSome.trans (vacated_iff t),
      handed_of_takeResult hwbefore hvalid⟩
  · intro d hd
    refine ⟨hd.idsDistinct, Ring.length_toList (by decide) _ _ _, hd.wellFormed.count, ?_,
      takeResult_of_nil hd.wellFormed, fun result rest => takeResult_of_cons hd.wellFormed⟩
    intro hactive
    obtain ⟨stage, hrun⟩ := hd.wellFormed.running hactive
    exact hrun.slot

/-- A bench binding: one job is cancelled and its result taken, a second one is under way, and there
is nothing more to take. -/
def benchDelivery : List (Call × List Reply) :=
  [(.startInitialize 7 1000, []), (.cancelJob, []), (.startResetAndReapply 7 1000, []),
    (.takeResult, []), (.startResetAndReapply 8 1000, []), (.takeResult, [])]

/-- The id of a queued result is refused; the result of the first job is handed out, cancelled, and
the second job waits for its own. -/
theorem results_delivered_once_cancelled :
    (runBound benchProfile benchDelivery).1.filterMap (fun t => (account t).handed) ++
        (runBound benchProfile benchDelivery).2.queue =
      (runBound benchProfile benchDelivery).1.filterMap (fun t => (account t).finished) ∧
    ((runBound benchProfile benchDelivery).1.filterMap (fun t => (account t).admitted)).map
      Ticket.operationId = [7, 8] ∧
    ((runBound benchProfile benchDelivery).1.filterMap (fun t => (account t).handed)).map
      (fun result => (result.operationId, result.outcome)) = [(7, .cancelled)] ∧
    (runBound benchProfile benchDelivery).2.takeResult =
      .done ((runBound benchProfile benchDelivery).2,
        .error .resultNotReady "No terminal result available", {}) := by
  have hbinding : WithinBinding (Driver.initial.boundTo benchProfile)
      (runBound benchProfile benchDelivery).1 (runBound benchProfile benchDelivery).2 :=
    withinBinding_runBound (by decide +kernel) (by decide +kernel) (by decide +kernel)
  obtain ⟨hdelivered, -, -, hvisited⟩ := results_delivered_once hbinding
  obtain ⟨past, t, config, hpast, -, -⟩ := hbinding.binding
  have hreach : Reachable (runBound benchProfile benchDelivery).2 :=
    ⟨_, hpast.append hbinding.run⟩
  obtain ⟨-, -, -, -, hempty, -⟩ := hvisited _ hreach.visited
  exact ⟨hdelivered, by decide +kernel, by decide +kernel, hempty (by decide +kernel)⟩

end Ldc1614
