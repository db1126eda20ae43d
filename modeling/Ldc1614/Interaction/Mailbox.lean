import Mathlib.Data.List.Perm.Basic
import Mathlib.Data.List.Nodup
import Ldc1614.Interaction.Machine

/-! # A job slot with a result queue

A server takes one job at a time. An admitted job occupies the slot until it finishes; its record
then joins a queue, from which the records are handed out in order. `Move` lists what can happen,
and every path of moves keeps two accounts: the records finished are the records handed out followed
by the queue, and the tickets admitted are those of the records finished followed by the slot. -/

namespace Interaction

universe u v

/-- The job slot and the queue of finished records, oldest first. -/
structure Mailbox (Ticket : Type u) (Record : Type v) where
  job : Option Ticket
  queue : List Record

/-- What one move admits, finishes and hands out. -/
structure Ledger (Ticket : Type u) (Record : Type v) where
  admitted : Option Ticket := none
  finished : Option Record := none
  handed : Option Record := none

namespace Mailbox

variable {Ticket : Type u} {Record : Type v} {ticket : Record → Ticket}
  {b m b' : Mailbox Ticket Record} {ledger : Ledger Ticket Record}

/-- The moves of a mailbox. -/
inductive Move (ticket : Record → Ticket) :
    Mailbox Ticket Record → Ledger Ticket Record → Mailbox Ticket Record → Prop
  | idle (b : Mailbox Ticket Record) : Move ticket b {} b
  | accept {b : Mailbox Ticket Record} (t : Ticket) (h : b.job = none) :
      Move ticket b { admitted := some t } ⟨some t, b.queue⟩
  | finish {b : Mailbox Ticket Record} (r : Record) (h : b.job = some (ticket r)) :
      Move ticket b { finished := some r } ⟨none, b.queue ++ [r]⟩
  | hand {b : Mailbox Ticket Record} (r : Record) (rest : List Record) (h : b.queue = r :: rest) :
      Move ticket b { handed := some r } ⟨b.job, rest⟩

/-- Two moves make one when at most one of them does anything. The first may finish a job, the
second may not meet it again. -/
theorem Move.trans {first second : Option Record} {admitted : Option Ticket}
    {handed : Option Record} (h : Move ticket b ⟨none, first, none⟩ m)
    (h' : Move ticket m ⟨admitted, second, handed⟩ b')
    (hone : first = none ∨ admitted = none ∧ handed = none) :
    Move ticket b ⟨admitted, first.or second, handed⟩ b' := by
  cases h with
  | idle => exact h'
  | finish r hjob =>
      obtain ⟨rfl, rfl⟩ := hone.resolve_left (Option.some_ne_none r)
      cases h' with
      | idle => exact .finish r hjob
      | finish r' hempty => cases hempty

/-- Without an admission the slot keeps its ticket or is vacated. -/
theorem Move.job_eq (h : Move ticket b ledger b') (hnone : ledger.admitted = none)
    (hjob : b'.job.isSome = true) : b'.job = b.job := by
  cases h with
  | idle => rfl
  | accept t hempty => cases hnone
  | finish r hticket => cases hjob
  | hand r rest hqueue => rfl

/-- An admitted ticket occupies the slot. -/
theorem Move.accepted {t : Ticket} (h : Move ticket b ledger b') (hsome : ledger.admitted = some t) :
    b'.job = some t := by
  cases h with
  | accept t' hempty => exact hsome
  | _ => cases hsome

/-- A finished record carries the ticket of the slot. -/
theorem Move.ticket_eq {r : Record} (h : Move ticket b ledger b') (hsome : ledger.finished = some r) :
    b.job = some (ticket r) := by
  cases h with
  | finish r' hticket =>
      obtain rfl := Option.some.inj hsome
      exact hticket
  | _ => cases hsome

/-- What a move finishes is read off the mailboxes around it: the newest record, when the slot has
been vacated. -/
theorem Move.finished_eq (h : Move ticket b ledger b') :
    ledger.finished =
      if b.job.isSome && b'.job.isNone then b'.queue.getLast? else none := by
  cases h with
  | idle => cases b.job <;> rfl
  | accept t hjob => simp
  | finish r hjob => simp [hjob]
  | hand r rest hqueue => cases b.job <;> rfl

/-- **Conservation.** What is queued and what joins the queue is handed out or stays queued. -/
theorem Move.conserves (h : Move ticket b ledger b') :
    b.queue ++ ledger.finished.toList = ledger.handed.toList ++ b'.queue := by
  cases h with
  | idle => simp
  | accept t hjob => simp
  | finish r hjob => simp
  | hand r rest hqueue => simp [hqueue]

/-- A record is finished exactly when the slot is vacated. -/
theorem Move.finished_isSome (h : Move ticket b ledger b') :
    ledger.finished.isSome = (b.job.isSome && b'.job.isNone) := by
  cases h with
  | idle => cases b.job <;> rfl
  | accept t hjob => simp
  | finish r hjob => simp [hjob]
  | hand r rest hqueue => cases b.job <;> rfl

/-- The tickets that are out: the job in the slot and the records in the queue. -/
def outstanding (ticket : Record → Ticket) (b : Mailbox Ticket Record) : List Ticket :=
  b.job.toList ++ b.queue.map ticket

/-- A move that admits only fresh tickets, apart by `key`, keeps the outstanding ones apart. -/
theorem Move.nodup {Key : Type*} (key : Ticket → Key) (h : Move ticket b ledger b')
    (hfresh : ∀ t, ledger.admitted = some t → key t ∉ (b.outstanding ticket).map key)
    (hb : ((b.outstanding ticket).map key).Nodup) : ((b'.outstanding ticket).map key).Nodup := by
  cases h with
  | idle => exact hb
  | accept t hjob =>
      have hnew := hfresh t rfl
      simp only [outstanding, hjob, Option.toList_none, List.nil_append] at hb hnew
      exact List.nodup_cons.mpr ⟨hnew, hb⟩
  | finish r hjob =>
      have hperm : List.Perm (Mailbox.outstanding ticket ⟨none, b.queue ++ [r]⟩)
          (b.outstanding ticket) := by
        simp only [outstanding, hjob, Option.toList_none, Option.toList_some, List.nil_append,
          List.map_append, List.map_singleton, List.singleton_append]
        exact List.perm_append_singleton _ _
      exact (hperm.map key).nodup_iff.mpr hb
  | hand r rest hqueue =>
      refine hb.sublist (List.Sublist.map key ?_)
      simp only [outstanding, hqueue, List.map_cons]
      exact (List.sublist_cons_self _ _).append_left _

/-- What holds of the key of every outstanding ticket still does behind a move that admits only such
tickets. -/
theorem Move.forall_outstanding {P : Ticket → Prop} (h : Move ticket b ledger b')
    (hnew : ∀ t, ledger.admitted = some t → P t) (hb : ∀ t ∈ b.outstanding ticket, P t) :
    ∀ t ∈ b'.outstanding ticket, P t := by
  cases h with
  | idle => exact hb
  | accept t hjob =>
      intro t' ht'
      rcases List.mem_cons.mp ht' with rfl | ht'
      · exact hnew t' rfl
      · exact hb t' (List.mem_append_right _ ht')
  | finish r hjob =>
      intro t' ht'
      refine hb t' ?_
      simpa [outstanding, hjob, or_comm] using ht'
  | hand r rest hqueue =>
      intro t' ht'
      refine hb t' ?_
      rcases List.mem_append.mp ht' with ht' | ht'
      · exact List.mem_append_left _ ht'
      · refine List.mem_append_right _ ?_
        rw [hqueue, List.map_cons]
        exact List.mem_cons_of_mem _ ht'

/-- **The accounts of a path of moves** from an empty mailbox: every finished record is handed out
once and in order, or still queued; every admitted ticket has its record, or is still in the slot. -/
theorem accounts {ledgers : List (Ledger Ticket Record)}
    (h : Path (Move ticket) ⟨none, []⟩ ledgers b) :
    ledgers.filterMap Ledger.handed ++ b.queue = ledgers.filterMap Ledger.finished ∧
      ledgers.filterMap Ledger.admitted =
        (ledgers.filterMap Ledger.finished).map ticket ++ b.job.toList := by
  induction h with
  | nil => exact ⟨rfl, rfl⟩
  | snoc _ hmove ih =>
      obtain ⟨hrecords, htickets⟩ := ih
      simp only [List.filterMap_append, ← hrecords, htickets]
      cases hmove with
      | idle => simp
      | accept t hjob => simp [hjob]
      | finish r hjob => simp [hjob]
      | hand r rest hqueue => simp [hqueue]

end Mailbox

end Interaction
