import Mathlib.Tactic.Common

/-! # Programs that call an environment

A `Program` is a finite tree of calls to an environment: at each `call` the environment picks a
reply and the program continues with it. A program may also `trap`, which stands for behaviour the
modelled language leaves undefined. What a program does is the relation `Yields`: a list of
request/reply pairs together with the value it ends in. `Safe` says that no choice of replies
reaches a trap, and `Related` that two programs make the same calls and end in related values
whatever the replies are. -/

namespace Interaction

universe u v w

/-- A terminating program that calls its environment: it is finished, or trapped, or has issued a
request and continues with the reply. -/
inductive Program (Req : Type u) (Rep : Type v) (α : Type w) : Type (max u v w) where
  /-- Finished with a value. -/
  | done (value : α) : Program Req Rep α
  /-- Behaviour the modelled language leaves undefined. -/
  | trap : Program Req Rep α
  /-- A request to the environment and the continuation for each reply. -/
  | call (request : Req) (next : Rep → Program Req Rep α) : Program Req Rep α

namespace Program

variable {Req : Type u} {Rep : Type v} {α β γ : Type w}

/-- Run `p`, then `f` on the value it ends in. -/
protected def bind : Program Req Rep α → (α → Program Req Rep β) → Program Req Rep β
  | done a, f => f a
  | trap, _ => trap
  | call request next, f => call request fun reply => (next reply).bind f

instance : Monad (Program Req Rep) where
  pure := done
  bind := Program.bind

/-- `pure` ends at once. -/
@[simp] theorem pure_eq_done (a : α) : (pure a : Program Req Rep α) = done a := rfl

/-- A program that has ended hands its value on. -/
@[simp] theorem done_bind (a : α) (f : α → Program Req Rep β) : (done a >>= f) = f a := rfl

/-- A trap is the end of the sequence. -/
@[simp] theorem trap_bind (f : α → Program Req Rep β) :
    ((trap : Program Req Rep α) >>= f) = trap := rfl

/-- A sequence begins with the first request of its first program. -/
@[simp] theorem call_bind (request : Req) (next : Rep → Program Req Rep α)
    (f : α → Program Req Rep β) :
    (call request next >>= f) = call request fun reply => next reply >>= f := rfl

/-- Sequencing is associative. -/
theorem bind_assoc (p : Program Req Rep α) (f : α → Program Req Rep β)
    (g : β → Program Req Rep γ) : p >>= f >>= g = p >>= fun a => f a >>= g := by
  induction p with
  | done a => rfl
  | trap => rfl
  | call request next ih => exact congrArg (call request) (funext ih)

/-! ### Executions -/

/-- `p.Yields events a`: some run of `p` exchanges exactly `events` and ends in `a`. A trapped run
ends in nothing. -/
def Yields : Program Req Rep α → List (Req × Rep) → α → Prop
  | done a, events, b => events = [] ∧ b = a
  | trap, _, _ => False
  | call request next, events, b =>
      ∃ reply rest, events = (request, reply) :: rest ∧ (next reply).Yields rest b

/-- A program that has ended yields its value without an exchange. -/
@[simp] theorem yields_done {a b : α} {events : List (Req × Rep)} :
    (done a : Program Req Rep α).Yields events b ↔ events = [] ∧ b = a := Iff.rfl

/-- A trap yields nothing. -/
@[simp] theorem yields_trap {a : α} {events : List (Req × Rep)} :
    (trap : Program Req Rep α).Yields events a ↔ False := Iff.rfl

/-- A request yields what comes behind its reply. -/
@[simp] theorem yields_call {request : Req} {next : Rep → Program Req Rep α} {a : α}
    {events : List (Req × Rep)} :
    (call request next).Yields events a ↔
      ∃ reply rest, events = (request, reply) :: rest ∧ (next reply).Yields rest a := Iff.rfl

/-- A run of `p >>= f` is a run of `p` followed by a run of `f` on its value. -/
theorem yields_bind {p : Program Req Rep α} {f : α → Program Req Rep β} {b : β}
    {events : List (Req × Rep)} :
    (p >>= f).Yields events b ↔
      ∃ first a rest, events = first ++ rest ∧ p.Yields first a ∧ (f a).Yields rest b := by
  induction p generalizing events with
  | done a =>
      rw [done_bind]
      constructor
      · intro h
        exact ⟨[], a, events, rfl, ⟨rfl, rfl⟩, h⟩
      · rintro ⟨first, _, rest, rfl, ⟨rfl, rfl⟩, h⟩
        exact h
  | trap =>
      rw [trap_bind]
      constructor
      · intro h
        exact h.elim
      · rintro ⟨_, _, _, _, h, _⟩
        exact h
  | call request next ih =>
      rw [call_bind, yields_call]
      constructor
      · rintro ⟨reply, rest, rfl, h⟩
        obtain ⟨first, a, last, rfl, hp, hf⟩ := (ih reply).mp h
        exact ⟨(request, reply) :: first, a, last, rfl, ⟨reply, first, rfl, hp⟩, hf⟩
      · rintro ⟨_, a, last, rfl, ⟨reply, first, rfl, hp⟩, hf⟩
        exact ⟨reply, first ++ last, rfl, (ih reply).mpr ⟨first, a, last, rfl, hp, hf⟩⟩

/-- The replies determine the run: two runs of one program fed from the same replies make the same
exchange, end in the same value and leave the same replies over. -/
theorem Yields.unique {p : Program Req Rep α} {events events' : List (Req × Rep)} {a a' : α}
    {left left' : List Rep} (h : p.Yields events a) (h' : p.Yields events' a')
    (same : events.map Prod.snd ++ left = events'.map Prod.snd ++ left') :
    events = events' ∧ a = a' ∧ left = left' := by
  induction p generalizing events events' with
  | done _ =>
      obtain ⟨rfl, rfl⟩ := h
      obtain ⟨rfl, rfl⟩ := h'
      exact ⟨rfl, rfl, same⟩
  | trap => exact h.elim
  | call request next ih =>
      obtain ⟨reply, rest, rfl, h⟩ := h
      obtain ⟨reply', rest', rfl, h'⟩ := h'
      simp only [List.map_cons, List.cons_append, List.cons.injEq] at same
      obtain ⟨rfl, same⟩ := same
      obtain ⟨rfl, rfl, rfl⟩ := ih reply h h' same
      exact ⟨rfl, rfl, rfl⟩

/-! ### Evaluation on given replies -/

/-- Run `p` on a list of replies: the exchange, the value and the replies left over, or nothing
when the list is too short or the run traps. -/
def run : Program Req Rep α → List Rep → Option (List (Req × Rep) × α × List Rep)
  | done a, replies => some ([], a, replies)
  | trap, _ => none
  | call _ _, [] => none
  | call request next, reply :: replies =>
      ((next reply).run replies).map fun (events, a, left) => ((request, reply) :: events, a, left)

/-- What the evaluator returns is an execution. -/
theorem yields_of_run {p : Program Req Rep α} {replies left : List Rep}
    {events : List (Req × Rep)} {a : α} (h : p.run replies = some (events, a, left)) :
    p.Yields events a := by
  induction p generalizing replies events with
  | done b =>
      simp only [run, Option.some.injEq, Prod.mk.injEq] at h
      exact ⟨h.1.symm, h.2.1.symm⟩
  | trap => simp [run] at h
  | call request next ih =>
      cases replies with
      | nil => simp [run] at h
      | cons reply replies =>
          simp only [run, Option.map_eq_some_iff, Prod.mk.injEq, Prod.exists] at h
          obtain ⟨rest, b, more, hrun, rfl, rfl, rfl⟩ := h
          exact ⟨reply, rest, rfl, ih reply hrun⟩

/-! ### Freedom from traps -/

/-- No sequence of replies makes the program trap. -/
def Safe : Program Req Rep α → Prop
  | done _ => True
  | trap => False
  | call _ next => ∀ reply, (next reply).Safe

/-- A program that has ended traps no more. -/
@[simp] theorem safe_done (a : α) : (done a : Program Req Rep α).Safe := trivial

/-- A request is safe when what follows is, whatever the reply. -/
@[simp] theorem safe_call {request : Req} {next : Rep → Program Req Rep α} :
    (call request next).Safe ↔ ∀ reply, (next reply).Safe := Iff.rfl

/-- Sequencing is safe when the first program is, and the second is on every value it ends in. -/
theorem Safe.bind {p : Program Req Rep α} {f : α → Program Req Rep β} (hp : p.Safe)
    (hf : ∀ events a, p.Yields events a → (f a).Safe) : (p >>= f).Safe := by
  induction p with
  | done a => exact hf [] a ⟨rfl, rfl⟩
  | trap => exact hp.elim
  | call request next ih =>
      intro reply
      exact ih reply (hp reply) fun events a h =>
        hf ((request, reply) :: events) a ⟨reply, events, rfl, h⟩

/-- A safe program reaches a value against every stream of replies. -/
theorem Safe.exists_yields {p : Program Req Rep α} (hp : p.Safe) (replies : ℕ → Rep) :
    ∃ events a, p.Yields events a ∧
      events.map Prod.snd = (List.range events.length).map replies := by
  induction p generalizing replies with
  | done a => exact ⟨[], a, ⟨rfl, rfl⟩, rfl⟩
  | trap => exact hp.elim
  | call request next ih =>
      obtain ⟨events, a, h, hmap⟩ := ih (replies 0) (hp _) fun n => replies (n + 1)
      refine ⟨(request, replies 0) :: events, a, ⟨_, events, rfl, h⟩, ?_⟩
      simp [List.range_succ_eq_map, hmap, Function.comp_def]

/-! ### What holds of every end -/

/-- Whatever the replies, the value the program ends in satisfies `Q`. -/
def Always (Q : α → Prop) : Program Req Rep α → Prop
  | done a => Q a
  | trap => True
  | call _ next => ∀ reply, (next reply).Always Q

section Always

variable {Q : α → Prop} {R : β → Prop}

/-- What holds of every value holds of every end. -/
theorem Always.of_forall (h : ∀ a, Q a) (p : Program Req Rep α) : p.Always Q := by
  induction p with
  | done a => exact h a
  | trap => exact trivial
  | call request next ih => exact ih

/-- A choice between such programs. -/
theorem Always.ite {condition : Prop} [Decidable condition] {p q : Program Req Rep α}
    (h : p.Always Q) (h' : q.Always Q) : (if condition then p else q).Always Q := by
  by_cases hc : condition
  · rw [if_pos hc]
    exact h
  · rw [if_neg hc]
    exact h'

/-- What holds of the second program's ends, given what holds of the first's. -/
theorem Always.bind {p : Program Req Rep α} {f : α → Program Req Rep β} (h : p.Always Q)
    (hf : ∀ a, Q a → (f a).Always R) : (p >>= f).Always R := by
  induction p with
  | done a => exact hf a h
  | trap => exact trivial
  | call request next ih => exact fun reply => ih reply (h reply)

/-- A run ends in such a value. -/
theorem Always.yields {p : Program Req Rep α} (h : p.Always Q) {events : List (Req × Rep)} {a : α}
    (hy : p.Yields events a) : Q a := by
  induction p generalizing events with
  | done b =>
      obtain ⟨-, rfl⟩ := hy
      exact h
  | trap => exact hy.elim
  | call request next ih =>
      obtain ⟨reply, rest, -, hy⟩ := hy
      exact ih reply (h reply) hy

end Always

/-! ### Programs on a budget -/

/-- `p.Spends free ok n`: besides free requests no run of `p` makes more than `n` requests, and these
are all `ok`. -/
inductive Spends (free : Req → Bool) (ok : Req → Prop) : ℕ → Program Req Rep α → Prop
  | done {n a} : Spends free ok n (done a)
  | trap {n} : Spends free ok n trap
  | free {n request next} (h : free request = true) (hnext : ∀ reply, Spends free ok n (next reply)) :
      Spends free ok n (call request next)
  | spend {n request next} (h : ok request) (hnext : ∀ reply, Spends free ok n (next reply)) :
      Spends free ok (n + 1) (call request next)

section Spends

variable {free : Req → Bool} {ok : Req → Prop} {n : ℕ}

/-- A choice between programs on the same budget. -/
theorem Spends.ite {condition : Prop} [Decidable condition] {p q : Program Req Rep α}
    (h : Spends free ok n p) (h' : Spends free ok n q) :
    Spends free ok n (if condition then p else q) := by
  by_cases hc : condition
  · rw [if_pos hc]
    exact h
  · rw [if_neg hc]
    exact h'

/-- A program followed by one without requests. -/
theorem Spends.map {p : Program Req Rep α} (h : Spends free ok n p) (f : α → β) :
    Spends free ok n (p >>= fun a => Program.done (f a)) := by
  induction h with
  | done => exact .done
  | trap => exact .trap
  | free hfree _ ih => exact .free hfree ih
  | spend hok _ ih => exact .spend hok ih

/-- A run of a program keeps to its budget. -/
theorem Spends.yields {p : Program Req Rep α} (h : Spends free ok n p) {events : List (Req × Rep)}
    {a : α} (hy : p.Yields events a) :
    (events.filter fun event => !free event.1).length ≤ n ∧
      ∀ event ∈ events, free event.1 = false → ok event.1 := by
  induction h generalizing events with
  | done =>
      obtain ⟨rfl, -⟩ := hy
      exact ⟨Nat.zero_le _, fun _ hevent => by cases hevent⟩
  | trap => exact hy.elim
  | free hfree _ ih =>
      obtain ⟨reply, rest, rfl, hy⟩ := hy
      obtain ⟨hle, hall⟩ := ih reply hy
      refine ⟨?_, fun event hevent hspent => ?_⟩
      · rw [List.filter_cons_of_neg (by simp [hfree])]
        exact hle
      · rcases List.mem_cons.mp hevent with rfl | hevent
        · exact absurd (hfree.symm.trans hspent) Bool.noConfusion
        · exact hall event hevent hspent
  | spend hok _ ih =>
      obtain ⟨reply, rest, rfl, hy⟩ := hy
      obtain ⟨hle, hall⟩ := ih reply hy
      refine ⟨?_, fun event hevent hspent => ?_⟩
      · rw [List.filter_cons]
        split
        · exact Nat.succ_le_succ hle
        · exact Nat.le_succ_of_le hle
      · rcases List.mem_cons.mp hevent with rfl | hevent
        · exact hok
        · exact hall event hevent hspent

end Spends

/-! ### Programs that behave alike -/

/-- `Related R p q`: `p` and `q` make the same calls and, for the same replies, end in values
related by `R`. -/
inductive Related {α' : Type w} (R : α → α' → Prop) :
    Program Req Rep α → Program Req Rep α' → Prop
  | done {a b} : R a b → Related R (done a) (done b)
  | trap : Related R trap trap
  | call {request next next'} : (∀ reply, Related R (next reply) (next' reply)) →
      Related R (call request next) (call request next')

/-- A program is related to itself. -/
theorem Related.refl (p : Program Req Rep α) : Related Eq p p := by
  induction p with
  | done a => exact .done rfl
  | trap => exact .trap
  | call request next ih => exact .call ih

/-- Related programs followed by related continuations are related. -/
theorem Related.bind {α' β' : Type w} {R : α → α' → Prop} {S : β → β' → Prop}
    {p : Program Req Rep α} {q : Program Req Rep α'} {f : α → Program Req Rep β}
    {g : α' → Program Req Rep β'} (h : Related R p q)
    (hfg : ∀ a b, R a b → Related S (f a) (g b)) : Related S (p >>= f) (q >>= g) := by
  induction h with
  | done hab => exact hfg _ _ hab
  | trap => exact .trap
  | call _ ih => exact .call ih

/-- A choice between related programs. -/
theorem Related.ite {α' : Type w} {R : α → α' → Prop} {condition : Prop} [Decidable condition]
    {p p' : Program Req Rep α} {q q' : Program Req Rep α'} (h : Related R p q)
    (h' : Related R p' q') :
    Related R (if condition then p else p') (if condition then q else q') := by
  by_cases hc : condition
  · rw [if_pos hc, if_pos hc]
    exact h
  · rw [if_neg hc, if_neg hc]
    exact h'

/-- A run of a program is matched by a run of any related one, with the same exchange. -/
theorem Related.yields {α' : Type w} {R : α → α' → Prop} {p : Program Req Rep α}
    {q : Program Req Rep α'} (h : Related R p q) {events : List (Req × Rep)} {a : α}
    (hp : p.Yields events a) : ∃ b, q.Yields events b ∧ R a b := by
  induction h generalizing events with
  | done hab =>
      obtain ⟨rfl, rfl⟩ := hp
      exact ⟨_, ⟨rfl, rfl⟩, hab⟩
  | trap => exact hp.elim
  | call _ ih =>
      obtain ⟨reply, rest, rfl, hp⟩ := hp
      obtain ⟨b, hq, hab⟩ := ih reply hp
      exact ⟨b, ⟨reply, rest, rfl, hq⟩, hab⟩

end Program

end Interaction
