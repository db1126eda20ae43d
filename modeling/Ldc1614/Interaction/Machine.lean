import Mathlib.Data.List.Forall2
import Mathlib.Data.List.Induction
import Ldc1614.Interaction.Program

/-! # Runs of a machine, and the paths below them

A machine executes one call at a time, each as a `Program`. A `Transition` records one executed
call with the states around it, and a `Run` is a `Path` of transitions. Below the calls lies a
finer labelled step relation whose paths show the states in the middle of a call; `Run.path` turns
a run into a path over the marks of its transitions, so that an invariant proved of every step
holds of every state a run reaches. -/

namespace Interaction

/-! ### Paths of a labelled step relation -/

section Path

universe u

variable {State Label : Type u}

/-- `Path step s labels t`: steps with exactly these labels lead from `s` to `t`. -/
inductive Path (step : State → Label → State → Prop) (s : State) : List Label → State → Prop
  | nil : Path step s [] s
  | snoc {labels label t t'} : Path step s labels t → step t label t' →
      Path step s (labels ++ [label]) t'

variable {step : State → Label → State → Prop} {s t t' : State} {labels labels' : List Label}
  {label : Label}

/-- A single step is a path. -/
theorem Path.single (h : step s label t) : Path step s [label] t :=
  Path.snoc (Path.nil (s := s)) h

/-- Paths compose. -/
theorem Path.append (h : Path step s labels t) (h' : Path step t labels' t') :
    Path step s (labels ++ labels') t' := by
  induction h' with
  | nil => simpa using h
  | snoc _ hs ih => simpa using ih.snoc hs

/-- A path over no labels goes nowhere. -/
theorem Path.of_nil (h : Path step s [] t) : s = t := by
  generalize hl : ([] : List Label) = none at h
  cases h with
  | nil => rfl
  | snoc => simp at hl

/-- The last step of a path over `labels ++ [label]`. -/
theorem Path.last (h : Path step s (labels ++ [label]) t') :
    ∃ t, Path step s labels t ∧ step t label t' := by
  generalize hl : labels ++ [label] = all at h
  cases h with
  | nil => simp at hl
  | snoc hpath hstep =>
      obtain ⟨rfl, h⟩ := List.append_inj' hl rfl
      obtain rfl : label = _ := by simpa using h
      exact ⟨_, hpath, hstep⟩

/-- A path over one label is a step. -/
theorem Path.of_single (h : Path step s [label] t) : step s label t := by
  have hlast : Path step s ([] ++ [label]) t := h
  obtain ⟨m, hnil, hstep⟩ := hlast.last
  obtain rfl := hnil.of_nil
  exact hstep

/-- A path splits wherever its labels do. -/
theorem Path.split (h : Path step s (labels ++ labels') t') :
    ∃ t, Path step s labels t ∧ Path step t labels' t' := by
  induction labels' using List.reverseRecOn generalizing t' with
  | nil => exact ⟨t', by simpa using h, .nil⟩
  | append_singleton front last ih =>
      rw [← List.append_assoc] at h
      obtain ⟨m, hfront, hlast⟩ := h.last
      obtain ⟨t, h₁, h₂⟩ := ih hfront
      exact ⟨t, h₁, h₂.snoc hlast⟩

/-- Around every step of a path: the path up to it, the step itself and the path after it. -/
theorem Path.around (h : Path step s (labels ++ label :: labels') t') :
    ∃ m m', Path step s labels m ∧ step m label m' ∧ Path step m' labels' t' := by
  rw [← List.singleton_append, ← List.append_assoc] at h
  obtain ⟨m', hfront, hback⟩ := h.split
  obtain ⟨m, hpath, hstep⟩ := hfront.last
  exact ⟨m, m', hpath, hstep, hback⟩

/-- **Induction over histories.** A relation between the labels so far and the current state that
every step extends holds along every path. -/
theorem Path.history (P : List Label → State → Prop) (before : List Label) (start : P before s)
    (extend : ∀ past m label m', P past m → step m label m' → P (past ++ [label]) m')
    (h : Path step s labels t) : P (before ++ labels) t := by
  induction h with
  | nil => simpa using start
  | snoc _ hs ih =>
      rw [← List.append_assoc]
      exact extend _ _ _ _ ih hs

/-- A state predicate that every step preserves holds along every path. -/
theorem Path.invariant {I : State → Prop} (start : I s)
    (preserve : ∀ m label m', I m → step m label m' → I m') (h : Path step s labels t) : I t :=
  h.history (fun _ m => I m) [] start fun _ m label m' => preserve m label m'

/-- The steps of a path may use what is known of all its labels. -/
theorem Path.restrict {Q : Label → Prop} (h : Path step s labels t) (hall : ∀ l ∈ labels, Q l) :
    Path (fun m label m' => step m label m' ∧ Q label) s labels t := by
  induction h with
  | nil => exact .nil
  | snoc _ hstep ih =>
      have hpast := ih fun l hl => hall l (List.mem_append_left _ hl)
      exact hpast.snoc ⟨hstep, hall _ (List.mem_append_right _ (List.mem_singleton_self _))⟩

/-- Two relations stepping over the same labels step together. -/
theorem Path.both {State' : Type u} {step' : State' → Label → State' → Prop} {r r' : State'}
    (h : Path step s labels t) (h' : Path step' r labels r') :
    Path (fun m label m' => step m.1 label m'.1 ∧ step' m.2 label m'.2) (s, r) labels (t, r') := by
  induction h generalizing r' with
  | nil =>
      obtain rfl := h'.of_nil
      exact .nil
  | snoc _ hstep ih =>
      obtain ⟨m, hpath, hlast⟩ := h'.last
      exact (ih hpath).snoc ⟨hstep, hlast⟩

/-- A step over a tick that may show no label: then the state stays. -/
def Stutters {Tick : Type u} (step : State → Label → State → Prop) (shows : Tick → Option Label)
    (m : State) (tick : Tick) (m' : State) : Prop :=
  (∃ label, shows tick = some label ∧ step m label m') ∨ shows tick = none ∧ m' = m

/-- A path over the labels that ticks show is a path over the ticks. -/
theorem Path.stutter {Tick : Type u} {shows : Tick → Option Label} {ticks : List Tick}
    (h : Path step s (ticks.filterMap shows) t) : Path (Stutters step shows) s ticks t := by
  induction ticks using List.reverseRecOn generalizing t with
  | nil =>
      obtain rfl := h.of_nil
      exact .nil
  | append_singleton ticks tick ih =>
      rw [List.filterMap_append] at h
      cases hshows : shows tick with
      | none =>
          simp only [List.filterMap_cons, hshows, List.filterMap_nil, List.append_nil] at h
          exact (ih h).snoc (Or.inr ⟨hshows, rfl⟩)
      | some label =>
          simp only [List.filterMap_cons, hshows, List.filterMap_nil] at h
          obtain ⟨m, hpath, hlast⟩ := h.last
          exact (ih hpath).snoc (Or.inl ⟨label, hshows, hlast⟩)

end Path

/-! ### Runs of calls -/

section Run

variable {State Call Out Req Rep : Type}

/-- One executed call: the states around it, what it exchanged with the environment and what it
returned. -/
structure Transition (State Call Out Req Rep : Type) where
  /-- The state the call was made in. -/
  before : State
  /-- The call with its arguments. -/
  call : Call
  /-- The requests made during the call, each with its reply. -/
  events : List (Req × Rep)
  /-- What the call returned. -/
  output : Out
  /-- The state the call left. -/
  after : State

variable {exec : Call → State → Program Req Rep (State × Out)}

/-- The transition is an execution of its call. -/
def Transition.Valid (exec : Call → State → Program Req Rep (State × Out))
    (t : Transition State Call Out Req Rep) : Prop :=
  (exec t.call t.before).Yields t.events (t.after, t.output)

/-- The transition leads from `s` to `u`. -/
def Executes (exec : Call → State → Program Req Rep (State × Out)) (s : State)
    (t : Transition State Call Out Req Rep) (u : State) : Prop :=
  t.before = s ∧ t.Valid exec ∧ t.after = u

/-- `Run exec s transitions u`: executing the recorded calls one after another from `s` ends in
`u`. -/
abbrev Run (exec : Call → State → Program Req Rep (State × Out)) :
    State → List (Transition State Call Out Req Rep) → State → Prop :=
  Path (Executes exec)

/-- The exchange of a whole run with the environment. -/
def exchange (ts : List (Transition State Call Out Req Rep)) : List (Req × Rep) :=
  ts.flatMap Transition.events

/-- No calls, no exchange. -/
@[simp] theorem exchange_nil :
    exchange ([] : List (Transition State Call Out Req Rep)) = [] := rfl

/-- The exchange of a run in two parts. -/
@[simp] theorem exchange_append (ts us : List (Transition State Call Out Req Rep)) :
    exchange (ts ++ us) = exchange ts ++ exchange us := by
  simp [exchange]

/-- The first call makes the first part of the exchange. -/
@[simp] theorem exchange_cons (t : Transition State Call Out Req Rep)
    (ts : List (Transition State Call Out Req Rep)) :
    exchange (t :: ts) = t.events ++ exchange ts := by
  simp [exchange]

variable {ts us : List (Transition State Call Out Req Rep)} {s u : State}
  {t : Transition State Call Out Req Rep}

/-- A valid transition extends a run that ends where it starts. -/
theorem Run.snoc (h : Run exec s ts t.before) (hv : t.Valid exec) :
    Run exec s (ts ++ [t]) t.after :=
  Path.snoc h ⟨rfl, hv, rfl⟩

/-- Around every transition of a run: the run up to it, the transition itself and the rest. -/
theorem Run.around (h : Run exec s (ts ++ t :: us) u) :
    Run exec s ts t.before ∧ t.Valid exec ∧ Run exec t.after us u := by
  obtain ⟨_, _, h₁, ⟨rfl, hv, rfl⟩, h₂⟩ := Path.around h
  exact ⟨h₁, hv, h₂⟩

/-- The first transition of a run starts where the run does. -/
theorem Run.first (h : Run exec s (t :: us) u) :
    s = t.before ∧ t.Valid exec ∧ Run exec t.after us u := by
  have hsplit : Run exec s ([] ++ t :: us) u := h
  obtain ⟨hnone, hv, hrest⟩ := Run.around hsplit
  exact ⟨hnone.of_nil, hv, hrest⟩

/-- The last transition of a run ends where the run does. -/
theorem Run.last (h : Run exec s (ts ++ [t]) u) :
    Run exec s ts t.before ∧ t.Valid exec ∧ t.after = u := by
  obtain ⟨h₁, hv, h₂⟩ := Run.around h
  exact ⟨h₁, hv, h₂.of_nil⟩

/-- **A run is a path.** When every valid transition from a state satisfying `I` decomposes into
steps with its own marks, and the steps preserve `I`, a run is a path over the marks of its
transitions. -/
theorem Run.path {Mark : Type} {step : State → Mark → State → Prop} {I : State → Prop}
    {marks : Transition State Call Out Req Rep → List Mark} (start : I s)
    (preserve : ∀ m mark m', I m → step m mark m' → I m')
    (decompose : ∀ t, I t.before → t.Valid exec → Path step t.before (marks t) t.after)
    (h : Run exec s ts u) : Path step s (ts.flatMap marks) u := by
  have key : Path step s (ts.flatMap marks) u ∧ I u := by
    refine h.history (fun past m => Path step s (past.flatMap marks) m ∧ I m) []
      ⟨.nil, start⟩ ?_
    rintro past _ t _ ⟨hpath, hI⟩ ⟨rfl, hv, rfl⟩
    have hlast := decompose t hI hv
    rw [List.flatMap_append, List.flatMap_singleton]
    exact ⟨hpath.append hlast, hlast.invariant hI preserve⟩
  exact key.1

/-! ### Two machines side by side -/

/-- Two executed calls that look alike from outside: the same call, exchange and output. -/
def Transition.SameObservation (t t' : Transition State Call Out Req Rep) : Prop :=
  t.call = t'.call ∧ t.events = t'.events ∧ t.output = t'.output

/-- **Bisimulation.** When the programs of every call are related from related states satisfying `I`,
a run from one of two such states is matched from the other: the same calls, exchanges and outputs,
in related states before and after every call. -/
theorem Run.related {R : State → State → Prop} {I : State → Prop}
    (hkept : ∀ t : Transition State Call Out Req Rep, I t.before → t.Valid exec → I t.after)
    (hexec : ∀ call s s', I s → I s' → R s s' → Program.Related
      (fun a b : State × Out => R a.1 b.1 ∧ a.2 = b.2) (exec call s) (exec call s'))
    {s' : State} (hI : I s) (hI' : I s') (hs : R s s') (h : Run exec s ts u) :
    ∃ ts' u', Run exec s' ts' u' ∧ R u u' ∧
      List.Forall₂ (fun t t' => t.SameObservation t' ∧ R t.before t'.before ∧ R t.after t'.after)
        ts ts' := by
  have key : ∃ ts' u', Run exec s' ts' u' ∧ I u ∧ I u' ∧ R u u' ∧
      List.Forall₂ (fun t t' => t.SameObservation t' ∧ R t.before t'.before ∧ R t.after t'.after)
        ts ts' := by
    refine h.history (fun past m => ∃ ts' u', Run exec s' ts' u' ∧ I m ∧ I u' ∧ R m u' ∧
      List.Forall₂ (fun t t' => t.SameObservation t' ∧ R t.before t'.before ∧ R t.after t'.after)
        past ts') [] ⟨[], s', .nil, hI, hI', hs, .nil⟩ ?_
    rintro past _ t _ ⟨ts', m', hrun, hI, hI', hm, hall⟩ ⟨rfl, hv, rfl⟩
    obtain ⟨⟨u', o⟩, hv', hu, ho⟩ := (hexec t.call t.before m' hI hI' hm).yields hv
    let t' : Transition State Call Out Req Rep := ⟨m', t.call, t.events, o, u'⟩
    exact ⟨ts' ++ [t'], u', Run.snoc (t := t') hrun hv', hkept t hI hv, hkept t' hI' hv', hu,
      List.rel_append hall (.cons ⟨⟨rfl, rfl, ho⟩, hm, hu⟩ .nil)⟩
  obtain ⟨ts', u', hrun, -, -, hu, hall⟩ := key
  exact ⟨ts', u', hrun, hu, hall⟩

/-- The replies of a run, in order. -/
def replies (ts : List (Transition State Call Out Req Rep)) : List Rep :=
  (exchange ts).map Prod.snd

/-- Runs that look alike from outside make the same calls and receive the same replies. -/
theorem observed_same {ts' : List (Transition State Call Out Req Rep)}
    (h : List.Forall₂ Transition.SameObservation ts ts') :
    ts.map Transition.call = ts'.map Transition.call ∧ replies ts = replies ts' := by
  induction h with
  | nil => exact ⟨rfl, rfl⟩
  | cons hsame _ ih =>
      obtain ⟨hcall, hevents, -⟩ := hsame
      simp only [replies, List.map_cons, exchange_cons, List.map_append] at ih ⊢
      rw [hcall, hevents, ih.1, ih.2]
      exact ⟨rfl, rfl⟩

/-- The calls and the replies determine a run: two runs that make the same calls and are fed from the
same replies are the same. -/
theorem Run.unique {ts' : List (Transition State Call Out Req Rep)} {u' : State}
    {left left' : List Rep} (h : Run exec s ts u) (h' : Run exec s ts' u')
    (hcalls : ts.map Transition.call = ts'.map Transition.call)
    (hreplies : replies ts ++ left = replies ts' ++ left') : ts = ts' ∧ u = u' := by
  induction ts generalizing s ts' with
  | nil =>
      obtain rfl : ts' = [] := by simpa using hcalls.symm
      exact ⟨rfl, h.of_nil.symm.trans h'.of_nil⟩
  | cons t ts ih =>
      cases ts' with
      | nil => simp at hcalls
      | cons t' ts' =>
          obtain ⟨hcall, hothers⟩ := List.cons.inj hcalls
          obtain ⟨hstart, hv, hrest⟩ := Run.first h
          obtain ⟨hstart', hv', hrest'⟩ := Run.first h'
          have hbefore : t.before = t'.before := hstart.symm.trans hstart'
          rw [Transition.Valid, ← hcall, ← hbefore] at hv'
          simp only [replies, exchange_cons, List.map_append, List.append_assoc] at hreplies
          obtain ⟨hevents, hend, hleft⟩ := Program.Yields.unique hv hv' hreplies
          obtain ⟨hafter, houtput⟩ := Prod.mk.inj hend
          obtain ⟨before, call, events, output, after⟩ := t
          obtain ⟨before', call', events', output', after'⟩ := t'
          dsimp only at hcall hbefore hevents hafter houtput
          subst hcall hbefore hevents hafter houtput
          obtain ⟨rfl, rfl⟩ := ih hrest hrest' hothers hleft
          exact ⟨rfl, rfl⟩

end Run

end Interaction
