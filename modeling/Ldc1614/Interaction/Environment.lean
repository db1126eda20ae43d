import Ldc1614.Interaction.Machine

/-! # Programs against an environment with a contract

An environment keeps a state of its own and answers each request by a reply and a next state; a
contract says which requests it permits in a state. `Meets` is the weakest precondition of a program
against both: every request is permitted whatever the earlier answers were, and the program ends in
the postcondition. The rules follow the program, and `Run.meets` carries an invariant of a machine
and its environment over whole runs. -/

namespace Interaction

/-- What an environment may answer: in a state, to a request, a reply and a next state. -/
abbrev Environment (Env Req Rep : Type) := Env → Req → Rep → Env → Prop

/-- Which requests are permitted in a state of the environment. -/
abbrev Contract (Env Req : Type) := Env → Req → Prop

/-- One exchange with the environment. -/
def Environment.Step {Env Req Rep : Type} (answers : Environment Env Req Rep) (e : Env)
    (event : Req × Rep) (e' : Env) : Prop :=
  answers e event.1 event.2 e'

/-- One exchange with the environment that keeps the contract. -/
def Environment.Kept {Env Req Rep : Type} (answers : Environment Env Req Rep)
    (permits : Contract Env Req) (e : Env) (event : Req × Rep) (e' : Env) : Prop :=
  permits e event.1 ∧ answers e event.1 event.2 e'

namespace Program

variable {Env Req Rep α β : Type} {answers : Environment Env Req Rep} {permits : Contract Env Req}

/-- Against the environment in the state `e` every request is permitted, and the program ends in
`Q`. -/
def Meets (answers : Environment Env Req Rep) (permits : Contract Env Req) :
    Program Req Rep α → Env → (α → Env → Prop) → Prop
  | done a, e, Q => Q a e
  | trap, _, _ => False
  | call request next, e, Q =>
      permits e request ∧
        ∀ reply e', answers e request reply e' → (next reply).Meets answers permits e' Q

section Rules

variable {Q Q' : α → Env → Prop} {R : β → Env → Prop} {e e' : Env} {p : Program Req Rep α}

/-- A program that has ended meets what its value does. -/
@[simp] theorem meets_done {a : α} :
    (done a : Program Req Rep α).Meets answers permits e Q ↔ Q a e := Iff.rfl

/-- A request is permitted, and met whatever the environment answers. -/
@[simp] theorem meets_call {request : Req} {next : Rep → Program Req Rep α} :
    (call request next).Meets answers permits e Q ↔ permits e request ∧
      ∀ reply e', answers e request reply e' → (next reply).Meets answers permits e' Q := Iff.rfl

/-- **Consequence.** -/
theorem Meets.imp (h : p.Meets answers permits e Q) (hQ : ∀ a e', Q a e' → Q' a e') :
    p.Meets answers permits e Q' := by
  induction p generalizing e with
  | done a => exact hQ a e h
  | trap => exact h
  | call request next ih =>
      obtain ⟨hpermits, hnext⟩ := h
      exact ⟨hpermits, fun reply e' hanswers => ih reply (hnext reply e' hanswers)⟩

/-- **Sequencing.** -/
theorem Meets.bind {f : α → Program Req Rep β} (h : p.Meets answers permits e Q)
    (hf : ∀ a e', Q a e' → (f a).Meets answers permits e' R) :
    (p >>= f).Meets answers permits e R := by
  induction p generalizing e with
  | done a => exact hf a e h
  | trap => exact h.elim
  | call request next ih =>
      obtain ⟨hpermits, hnext⟩ := h
      exact ⟨hpermits, fun reply e' hanswers => ih reply (hnext reply e' hanswers)⟩

/-- **Choice.** -/
theorem Meets.ite {condition : Prop} [Decidable condition] {q : Program Req Rep α}
    (h : condition → p.Meets answers permits e Q) (h' : ¬ condition → q.Meets answers permits e Q) :
    (if condition then p else q).Meets answers permits e Q := by
  by_cases hc : condition
  · rw [if_pos hc]
    exact h hc
  · rw [if_neg hc]
    exact h' hc

/-- **Adequacy.** In an execution next to the environment every exchange keeps the contract, and the
end satisfies the postcondition. -/
theorem Meets.yields {events : List (Req × Rep)} {a : α} (h : p.Meets answers permits e Q)
    (hy : p.Yields events a) (henv : Path answers.Step e events e') :
    Path (answers.Kept permits) e events e' ∧ Q a e' := by
  induction p generalizing e events with
  | done b =>
      obtain ⟨rfl, rfl⟩ := hy
      obtain rfl := henv.of_nil
      exact ⟨.nil, h⟩
  | trap => exact hy.elim
  | call request next ih =>
      obtain ⟨reply, rest, rfl, hy⟩ := hy
      obtain ⟨hpermits, hnext⟩ := h
      have hsplit : Path answers.Step e ([] ++ (request, reply) :: rest) e' := henv
      obtain ⟨m, m', hfront, hstep, hback⟩ := hsplit.around
      obtain rfl := hfront.of_nil
      obtain ⟨hkept, hend⟩ := ih reply (hnext reply m' hstep) hy hback
      have hfirst : Path (answers.Kept permits) e [(request, reply)] m' := .single ⟨hpermits, hstep⟩
      exact ⟨hfirst.append hkept, hend⟩

/-- **Finer environments.** A program meets the same against an environment that answers no more, seen
through a view of its states. -/
theorem Meets.along {Env' : Type} {answers' : Environment Env' Req Rep} {view : Env' → Env}
    {r : Env'} (hview : ∀ r request reply r', answers' r request reply r' →
      answers (view r) request reply (view r'))
    (h : p.Meets answers permits (view r) Q) :
    p.Meets answers' (fun r => permits (view r)) r fun a r' => Q a (view r') := by
  induction p generalizing r with
  | done a => exact h
  | trap => exact h
  | call request next ih =>
      obtain ⟨hpermits, hnext⟩ := h
      refine ⟨hpermits, fun reply r' hanswers => ih reply (hnext reply (view r') ?_)⟩
      exact hview r request reply r' hanswers

end Rules

end Program

/-! ### Machines in an environment -/

section Machine

variable {State Call Out Req Rep Env : Type} {answers : Environment Env Req Rep}
  {permits : Call → State → Contract Env Req} {exec : Call → State → Program Req Rep (State × Out)}
  {I : State → Env → Prop} {Q : Call → State → State × Out → Prop} {P : Call → Prop} {s u : State}
  {e e' : Env} {t : Transition State Call Out Req Rep}
  {ts us : List (Transition State Call Out Req Rep)}

/-- A call that was executed in its environment as specified: it kept its contract, led from states
related by `I` to such states, and satisfies its postcondition. -/
structure Beside (answers : Environment Env Req Rep) (permits : Call → State → Contract Env Req)
    (exec : Call → State → Program Req Rep (State × Out)) (I : State → Env → Prop)
    (Q : Call → State → State × Out → Prop) (e : Env) (t : Transition State Call Out Req Rep)
    (e' : Env) : Prop where
  valid : t.Valid exec
  before : I t.before e
  kept : Path (answers.Kept (permits t.call t.before)) e t.events e'
  after : I t.after e'
  output : Q t.call t.before (t.after, t.output)

/-- **A machine in its environment.** When every call with `P`, from states related by `I`, keeps its
contract and ends in such states, so do all calls of a run, one after another. -/
theorem Run.beside
    (hcall : ∀ call s e, P call → I s e →
      (exec call s).Meets answers (permits call s) e fun out e' => I out.1 e' ∧ Q call s out)
    (hI : I s e) (hP : ∀ t ∈ ts, P t.call) (h : Run exec s ts u)
    (henv : Path answers.Step e (exchange ts) e') :
    Path (Beside answers permits exec I Q) e ts e' ∧ I u e' := by
  induction h generalizing e' with
  | nil =>
      obtain rfl := henv.of_nil
      exact ⟨.nil, hI⟩
  | snoc _ hstep ih =>
      obtain ⟨rfl, hv, rfl⟩ := hstep
      rw [exchange_append, exchange_cons, exchange_nil, List.append_nil] at henv
      obtain ⟨middle, hfront, hlast⟩ := henv.split
      obtain ⟨hpast, hmiddle⟩ := ih (fun t ht => hP t (List.mem_append_left _ ht)) hfront
      have hP := hP _ (List.mem_append_right _ (List.mem_singleton_self _))
      obtain ⟨hkept, hend, hout⟩ := (hcall _ _ middle hP hmiddle).yields hv hlast
      exact ⟨hpast.snoc ⟨hv, hmiddle, hkept, hend, hout⟩, hend⟩

/-- Every call of such a run was executed as specified. -/
theorem Run.keeps
    (hcall : ∀ call s e, P call → I s e →
      (exec call s).Meets answers (permits call s) e fun out e' => I out.1 e' ∧ Q call s out)
    (hI : I s e) (hP : ∀ t ∈ ts, P t.call) (h : Run exec s ts u)
    (henv : Path answers.Step e (exchange ts) e') (ht : t ∈ ts) :
    ∃ m m', Beside answers permits exec I Q m t m' := by
  obtain ⟨front, back, rfl⟩ := List.append_of_mem ht
  obtain ⟨m, m', -, hbeside, -⟩ := (Run.beside hcall hI hP h henv).1.around
  exact ⟨m, m', hbeside⟩

end Machine

/-! ### Evaluation -/

section Evaluation

variable {State Call Out Req Rep : Type} {exec : Call → State → Program Req Rep (State × Out)}

/-- Make the calls one after another, each against exactly the replies it is given. -/
def play (exec : Call → State → Program Req Rep (State × Out)) :
    State → List (Call × List Rep) → Option (List (Transition State Call Out Req Rep) × State)
  | s, [] => some ([], s)
  | s, (call, replies) :: rest =>
      match (exec call s).run replies with
      | some (events, (s', output), []) =>
          (play exec s' rest).map fun (ts, u) => (⟨s, call, events, output, s'⟩ :: ts, u)
      | _ => none

/-- What is played is a run. -/
theorem run_of_play {s u : State} {calls : List (Call × List Rep)}
    {ts : List (Transition State Call Out Req Rep)} (h : play exec s calls = some (ts, u)) :
    Run exec s ts u := by
  induction calls generalizing s ts with
  | nil =>
      obtain ⟨rfl, rfl⟩ := Prod.mk.inj (Option.some.inj h)
      exact .nil
  | cons entry rest ih =>
      obtain ⟨call, replies⟩ := entry
      simp only [play] at h
      split at h
      · next events s' output hrun =>
          obtain ⟨⟨us, v⟩, hrest, hend⟩ := Option.map_eq_some_iff.mp h
          obtain ⟨rfl, rfl⟩ := Prod.mk.inj hend
          have hfirst : Run exec s [⟨s, call, events, output, s'⟩] s' :=
            .single ⟨rfl, Program.yields_of_run hrun, rfl⟩
          exact hfirst.append (ih hrest)
      · cases h

/-- A step relation that a partial function computes has a path along all labels it goes through. -/
theorem path_of_foldlM {Env Label : Type} {step : Env → Label → Env → Prop}
    {f : Env → Label → Option Env} (hstep : ∀ e label e', f e label = some e' → step e label e')
    {e e' : Env} {labels : List Label} (h : labels.foldlM f e = some e') :
    Path step e labels e' := by
  induction labels generalizing e with
  | nil =>
      obtain rfl := Option.some.inj h
      exact .nil
  | cons label rest ih =>
      rw [List.foldlM_cons] at h
      obtain ⟨middle, hfirst, hrest⟩ := Option.bind_eq_some_iff.mp h
      have hlabel : Path step e [label] middle := .single (hstep e label middle hfirst)
      exact hlabel.append (ih hrest)

end Evaluation

end Interaction
