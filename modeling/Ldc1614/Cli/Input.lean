import Ldc1614.Cli.Line
import Mathlib.Data.List.Infix

/-! # The input of the command line

`readCliInput` of the bring-up example reads a few characters a pass into a line that it edits in
place. What it hands on is compared with the whole text that has been typed, cut into lines: the cut
knows nothing of passes, of the order of arrival or of the buffer.

A NUL can be typed like any other character. It takes room in the buffer and can be erased, but the
function that is handed the buffer reads a C string: the command ends in front of the first NUL. -/

namespace Ldc1614.CommandLine

/-! ### The pass -/

def inputCharactersPerLoop : ℕ := 32

/-- The characters that fit into `inputBuffer` in front of its terminator. -/
def inputCapacity : ℕ := 127

def isErase (c : Char) : Bool := c == '\x08' || c == '\x7F'

def isEnd (c : Char) : Bool := c == '\n' || c == '\r'

/-- The static variables of `readCliInput`: the buffer as far as it is filled, and the overflow. -/
structure Editor where
  input : List Char := []
  overflow : Bool := false
  deriving DecidableEq, Repr

/-- What the end of a line hands on: a command, or the complaint "input too long". -/
inductive Entry where
  | command (line : List Char)
  | tooLong
  deriving DecidableEq, Repr

/-- What a C function sees of a buffer: the text in front of its first NUL. -/
def cString (buffer : List Char) : List Char := buffer.takeWhile (· != '\x00')

/-- One character of the loop. -/
def Editor.feed (e : Editor) (c : Char) : Editor × Option Entry :=
  if isErase c then
    (if !e.overflow && !e.input.isEmpty then { e with input := e.input.dropLast } else e, none)
  else if isEnd c then
    if e.overflow then ({}, some .tooLong)
    else if e.input.isEmpty then (e, none)
    else ({ e with input := [] }, some (.command (cString e.input)))
  else if e.overflow then (e, none)
  else if e.input.length < inputCapacity then ({ e with input := e.input ++ [c] }, none)
  else ({ input := [], overflow := true }, none)

/-- What a pass leaves: the editor, the characters it has not read and the entry it handed on. -/
structure Pass where
  editor : Editor
  serial : List Char
  entry : Option Entry
  deriving DecidableEq, Repr

/-- The loop of `readCliInput`. At the end of a line it returns. -/
def readLoop : ℕ → Editor → List Char → Pass
  | 0, e, serial => ⟨e, serial, none⟩
  | _ + 1, e, [] => ⟨e, [], none⟩
  | fuel + 1, e, c :: serial =>
      match e.feed c with
      | (e', some entry) => ⟨e', serial, some entry⟩
      | (e', none) => readLoop fuel e' serial

/-- One pass over the characters that are available. -/
def readCliInput (e : Editor) (serial : List Char) : Pass :=
  readLoop inputCharactersPerLoop e serial

/-- What a number of passes leaves: the editor, the characters not read and all entries handed
on. -/
structure Reading where
  editor : Editor
  serial : List Char
  handed : List Entry
  deriving DecidableEq, Repr

/-- One pass after the other, each with the characters that arrived since the one before. -/
def passes : Editor → List Char → List (List Char) → Reading
  | e, serial, [] => ⟨e, serial, []⟩
  | e, serial, arrived :: rest =>
      let pass := readCliInput e (serial ++ arrived)
      let later := passes pass.editor pass.serial rest
      { later with handed := pass.entry.toList ++ later.handed }

/-! ### The text -/

/-- The text that is left of a line when every erasure takes the character before it. -/
def typed (line : List Char) : List Char :=
  line.foldl (fun text c => if isErase c then text.dropLast else text ++ [c]) []

/-- At some point of the line there was more text than fits. -/
def overflows (line : List Char) : Bool :=
  line.inits.any fun front => inputCapacity < (typed front).length

/-- What a line stands for. An empty one stands for nothing; a text that is left is a command as far
as its first NUL, so that a NUL alone is a command of no characters. -/
def entryOf (line : List Char) : Option Entry :=
  if overflows line then some .tooLong
  else if (typed line).isEmpty then none
  else some (.command (cString (typed line)))

/-- What the complete lines of a text stand for. -/
def entries (text : List Char) : List Entry := ((text.splitOnP isEnd).dropLast).filterMap entryOf

/-- The text behind one more character. -/
theorem typed_concat (line : List Char) (c : Char) :
    typed (line ++ [c]) = if isErase c then (typed line).dropLast else typed line ++ [c] := by
  simp [typed, List.foldl_append]

/-! ### Lines without a NUL -/

/-- What is left of a line has been typed. -/
theorem mem_of_mem_typed {line : List Char} {c : Char} (h : c ∈ typed line) : c ∈ line := by
  induction line using List.reverseRecOn with
  | nil => exact h
  | append_singleton line last ih =>
      have hfront (hc : c ∈ typed line) : c ∈ line ++ [last] := List.mem_append_left _ (ih hc)
      rw [typed_concat] at h
      split at h
      · exact hfront (List.mem_of_mem_dropLast h)
      · rcases List.mem_append.mp h with hc | hc
        · exact hfront hc
        · exact List.mem_append_right _ hc

/-- A buffer without a NUL is seen as a whole. -/
theorem cString_eq_self {buffer : List Char} (h : '\x00' ∉ buffer) : cString buffer = buffer := by
  refine List.takeWhile_eq_self_iff.mpr fun c hc => ?_
  have hne : c ≠ '\x00' := fun hnul => h (hnul ▸ hc)
  simpa using hne

/-- Where no NUL was typed, the command is all the text that is left. -/
theorem entryOf_plain {line : List Char} (h : '\x00' ∉ line) :
    entryOf line =
      if overflows line then some .tooLong
      else if (typed line).isEmpty then none
      else some (.command (typed line)) := by
  rw [entryOf, cString_eq_self fun hnul => h (mem_of_mem_typed hnul)]

/-! ### The editor within a line -/

/-- The editor behind the characters of an unfinished line. -/
def editorAfter (line : List Char) : Editor :=
  if overflows line then ⟨[], true⟩ else ⟨typed line, false⟩

/-- A longer line overflows where the shorter one did or where it ends. -/
theorem overflows_concat (line : List Char) (c : Char) :
    overflows (line ++ [c]) =
      (overflows line || decide (inputCapacity < (typed (line ++ [c])).length)) := by
  rw [Bool.eq_iff_iff]
  simp only [overflows, List.any_eq_true, List.mem_inits, decide_eq_true_eq, Bool.or_eq_true]
  constructor
  · rintro ⟨front, hfront, hlong⟩
    rcases List.prefix_concat_iff.mp hfront with rfl | hfront
    · exact Or.inr hlong
    · exact Or.inl ⟨front, hfront, hlong⟩
  · rintro (⟨front, hfront, hlong⟩ | hlong)
    · exact ⟨front, hfront.trans (List.prefix_append _ _), hlong⟩
    · exact ⟨line ++ [c], List.prefix_rfl, hlong⟩

/-- Without an overflow the text fits. -/
theorem typed_fits {line : List Char} (h : overflows line = false) :
    (typed line).length ≤ inputCapacity := by
  by_contra hlong
  have htrue : overflows line = true := by
    simp only [overflows, List.any_eq_true, List.mem_inits, decide_eq_true_eq]
    exact ⟨line, List.prefix_rfl, Nat.lt_of_not_le hlong⟩
  rw [h] at htrue
  cases htrue

/-- A character within a line. -/
theorem feed_within (line : List Char) {c : Char} (hc : isEnd c = false) :
    (editorAfter line).feed c = (editorAfter (line ++ [c]), none) := by
  cases hover : overflows line with
  | true =>
      -- nothing counts any more before the end of the line
      simp [editorAfter, Editor.feed, overflows_concat, hover, hc]
  | false =>
      have hfits := typed_fits hover
      by_cases herase : isErase c = true
      · have hshort : ¬ inputCapacity < (typed line).length - 1 := by omega
        cases htyped : typed line with
        | nil =>
            simp [editorAfter, Editor.feed, overflows_concat, typed_concat, hover, herase, htyped]
        | cons first rest =>
            rw [htyped] at hshort
            have hshort : ¬ inputCapacity < rest.length := by simpa using hshort
            simp [editorAfter, Editor.feed, overflows_concat, typed_concat, hover, herase, htyped,
              hshort]
      · by_cases hroom : (typed line).length < inputCapacity
        · have hnot : ¬ inputCapacity < (typed line).length + 1 := by omega
          simp [editorAfter, Editor.feed, overflows_concat, typed_concat, hover, herase, hc, hroom,
            hnot]
        · have hfull : inputCapacity < (typed line).length + 1 := by omega
          simp [editorAfter, Editor.feed, overflows_concat, typed_concat, hover, herase, hc, hroom,
            hfull]

/-- No character ends a line and erases. -/
theorem isErase_of_isEnd {c : Char} (hc : isEnd c = true) : isErase c = false := by
  simp only [isEnd, Bool.or_eq_true, beq_iff_eq] at hc
  rcases hc with rfl | rfl <;> decide

/-- The end of a line. -/
theorem feed_end (line : List Char) {c : Char} (hc : isEnd c = true) :
    (editorAfter line).feed c = ({}, entryOf line) := by
  have herase := isErase_of_isEnd hc
  cases hover : overflows line with
  | true => simp [editorAfter, Editor.feed, entryOf, hover, hc, herase]
  | false =>
      cases htyped : typed line with
      | nil => simp [editorAfter, Editor.feed, entryOf, hover, hc, herase, htyped]
      | cons first rest => simp [editorAfter, Editor.feed, entryOf, hover, hc, herase, htyped]

/-! ### All characters -/

/-- Feed a text, and collect the entries. -/
def feedAll : Editor → List Char → Editor × List Entry
  | e, [] => (e, [])
  | e, c :: text =>
      let later := feedAll (e.feed c).1 text
      (later.1, (e.feed c).2.toList ++ later.2)

/-- A text can be fed in two parts. -/
theorem feedAll_append (e : Editor) (front back : List Char) :
    feedAll e (front ++ back) =
      ((feedAll (feedAll e front).1 back).1,
        (feedAll e front).2 ++ (feedAll (feedAll e front).1 back).2) := by
  induction front generalizing e with
  | nil => rfl
  | cons c front ih => simp [feedAll, ih]

/-- Fed in the middle of a line, a text hands on what its lines stand for. -/
theorem feedAll_line (text line : List Char) (hline : ∀ c ∈ line, isEnd c = false) :
    (feedAll (editorAfter line) text).2 = entries (line ++ text) := by
  induction text generalizing line with
  | nil =>
      have hsingle : line.splitOnP isEnd = [line] :=
        List.splitOnP_eq_singleton hline
      simp [feedAll, entries, hsingle]
  | cons c text ih =>
      cases hc : isEnd c with
      | true =>
          have hsplit := List.splitOnP_append_cons_of_forall_mem hline c hc text
          have hnil : (editorAfter [] : Editor) = {} := rfl
          have hrest := ih [] (by simp)
          rw [hnil, List.nil_append] at hrest
          rw [feedAll, feed_end line hc]
          show (entryOf line).toList ++ (feedAll {} text).2 = _
          rw [hrest, entries, entries, hsplit,
            List.dropLast_cons_of_ne_nil (List.splitOnP_ne_nil isEnd text), List.filterMap_cons]
          cases entryOf line <;> rfl
      | false =>
          have hlonger : ∀ x ∈ line ++ [c], isEnd x = false := by
            intro x hx
            rcases List.mem_append.mp hx with hx | hx
            · exact hline x hx
            · rw [List.mem_singleton.mp hx]
              exact hc
          have hrest := ih (line ++ [c]) hlonger
          rw [feedAll, feed_within line hc]
          show [] ++ (feedAll (editorAfter (line ++ [c])) text).2 = _
          rw [List.nil_append, hrest, List.append_assoc, List.singleton_append]

/-! ### Passes -/

/-- A pass reads a front of what is available, and hands on what that stands for. -/
theorem readLoop_spec (fuel : ℕ) (e : Editor) (serial : List Char) :
    ∃ front, serial = front ++ (readLoop fuel e serial).serial ∧
      feedAll e front =
        ((readLoop fuel e serial).editor, (readLoop fuel e serial).entry.toList) := by
  induction fuel generalizing e serial with
  | zero => exact ⟨[], rfl, rfl⟩
  | succ fuel ih =>
      cases serial with
      | nil => exact ⟨[], rfl, rfl⟩
      | cons c serial =>
          rcases hfeed : e.feed c with ⟨e', _ | entry⟩
          · obtain ⟨front, hserial, hfront⟩ := ih e' serial
            refine ⟨c :: front, ?_, ?_⟩
            · simp only [readLoop, hfeed, List.cons_append]
              rw [← hserial]
            · simp [feedAll, readLoop, hfeed, hfront]
          · refine ⟨[c], ?_, ?_⟩
            · simp [readLoop, hfeed]
            · simp [feedAll, readLoop, hfeed]

/-- Where characters are available, a pass reads one. -/
theorem readLoop_shorter (fuel : ℕ) (e : Editor) (serial : List Char) :
    (readLoop (fuel + 1) e serial).serial.length ≤ serial.length - 1 := by
  cases serial with
  | nil => exact Nat.le_refl _
  | cons c serial =>
      rw [readLoop]
      split
      · exact Nat.le_refl _
      · next e' hfeed =>
          obtain ⟨front, hserial, -⟩ := readLoop_spec fuel e' serial
          have hlength := congrArg List.length hserial
          rw [List.length_append] at hlength
          show _ ≤ serial.length
          omega

/-- A pass over characters that are available reads one. -/
theorem readCliInput_shorter (e : Editor) (serial : List Char) :
    (readCliInput e serial).serial.length ≤ serial.length - 1 := readLoop_shorter 31 e serial

/-- Any number of passes reads a front of what has arrived, in order. -/
theorem passes_spec (arrivals : List (List Char)) (e : Editor) (serial : List Char) :
    ∃ front, serial ++ arrivals.flatten = front ++ (passes e serial arrivals).serial ∧
      feedAll e front = ((passes e serial arrivals).editor, (passes e serial arrivals).handed) := by
  induction arrivals generalizing e serial with
  | nil => exact ⟨[], by simp [passes], rfl⟩
  | cons arrived rest ih =>
      obtain ⟨front, hfront, hfed⟩ := readLoop_spec inputCharactersPerLoop e (serial ++ arrived)
      obtain ⟨back, hback, hfed'⟩ := ih (readCliInput e (serial ++ arrived)).editor
        (readCliInput e (serial ++ arrived)).serial
      refine ⟨front ++ back, ?_, ?_⟩
      · calc serial ++ (arrived :: rest).flatten = (serial ++ arrived) ++ rest.flatten := by simp
          _ = front ++ (readCliInput e (serial ++ arrived)).serial ++ rest.flatten :=
            congrArg (· ++ rest.flatten) hfront
          _ = front ++ back ++ (passes e serial (arrived :: rest)).serial := by
            rw [List.append_assoc, hback, List.append_assoc]
            rfl
      · rw [feedAll_append, hfed]
        refine Prod.ext ?_ ?_
        · exact (congrArg Prod.fst hfed' :)
        · exact congrArg ((readCliInput e (serial ++ arrived)).entry.toList ++ ·)
            (congrArg Prod.snd hfed')

/-- Later passes go on with what the first ones have left. -/
theorem passes_append (arrivals more : List (List Char)) (e : Editor) (serial : List Char) :
    (passes e serial (arrivals ++ more)).serial =
      (passes (passes e serial arrivals).editor (passes e serial arrivals).serial more).serial := by
  induction arrivals generalizing e serial with
  | nil => rfl
  | cons arrived rest ih =>
      rw [List.cons_append, passes, passes]
      exact ih _ _

/-- When nothing more arrives, as many passes as there are characters left read them all. -/
theorem passes_quiet (n : ℕ) (e : Editor) (serial : List Char) (h : serial.length ≤ n) :
    (passes e serial (List.replicate n [])).serial = [] := by
  induction n generalizing e serial with
  | zero => exact List.length_eq_zero_iff.mp (Nat.le_zero.mp h)
  | succ n ih =>
      rw [List.replicate_succ, passes]
      rw [List.append_nil]
      have hshorter := readCliInput_shorter e serial
      exact ih _ _ (by omega)

/-- No entry of a text is longer than the buffer. -/
theorem length_of_entries {text line : List Char} (h : Entry.command line ∈ entries text) :
    line.length ≤ maxLineLength := by
  obtain ⟨whole, -, hentry⟩ := List.mem_filterMap.mp h
  unfold entryOf at hentry
  split at hentry
  · cases hentry
  · next hover =>
      split at hentry
      · cases hentry
      · cases hentry
        have hfits := typed_fits (by simpa using hover)
        exact (List.takeWhile_sublist _).length_le.trans hfits

/-- **Commands are what has been typed.** However the characters arrive between the passes: the
passes read them in order, and have handed on exactly what the complete lines among those read stand
for; as many further passes as there are characters hand on everything; and no command is too long
for `parseLine`. A line stands for the text that is left of it in front of the first NUL, and where
no NUL was typed for all of that text. -/
theorem commands_as_typed (arrivals : List (List Char)) :
    (∃ front, arrivals.flatten = front ++ (passes {} [] arrivals).serial ∧
      (passes {} [] arrivals).handed = entries front) ∧
    (∀ n, arrivals.flatten.length ≤ n →
      (passes {} [] (arrivals ++ List.replicate n [])).handed = entries arrivals.flatten) ∧
    (∀ line, Entry.command line ∈ (passes {} [] arrivals).handed →
      line.length ≤ maxLineLength) ∧
    ∀ line, '\x00' ∉ line → entryOf line =
      if overflows line then some .tooLong
      else if (typed line).isEmpty then none
      else some (.command (typed line)) := by
  have hread : ∀ arrivals : List (List Char),
      ∃ front, arrivals.flatten = front ++ (passes {} [] arrivals).serial ∧
        (passes {} [] arrivals).handed = entries front := by
    intro arrivals
    obtain ⟨front, hfront, hfed⟩ := passes_spec arrivals {} []
    refine ⟨front, hfront, ?_⟩
    have hline : (feedAll {} front).2 = entries ([] ++ front) :=
      feedAll_line front [] fun c hc => by cases hc
    rw [hfed] at hline
    exact hline
  refine ⟨hread arrivals, ?_, ?_, fun line => entryOf_plain⟩
  · intro n hn
    obtain ⟨front, hfront, hhanded⟩ := hread (arrivals ++ List.replicate n [])
    -- what the first passes have not read is no more than what arrived
    obtain ⟨first, hfirst, -⟩ := hread arrivals
    have hleft : (passes {} [] arrivals).serial.length ≤ n := by
      have hlength := congrArg List.length hfirst
      rw [List.length_append] at hlength
      omega
    rw [passes_append, passes_quiet n _ _ hleft, List.append_nil, List.flatten_append,
      List.flatten_replicate_nil, List.append_nil] at hfront
    rw [hhanded, hfront]
  · intro line hline
    obtain ⟨front, -, hhanded⟩ := hread arrivals
    rw [hhanded] at hline
    exact length_of_entries hline

/-- A NUL within a line ends the command. -/
example : entries "end\x00xyz\n\x00\r".toList = [.command "end".toList, .command []] := by decide

end Ldc1614.CommandLine
