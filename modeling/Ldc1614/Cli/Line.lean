import Mathlib.Data.List.TakeWhile
import Mathlib.Data.Nat.Digits.Defs
import Mathlib.Tactic.Common
import Mathlib.Tactic.Ring

/-! # Command lines

How the command line reads its input: `parseLine`, which splits a line into tokens, and
`parseUnsigned`, which reads a number off a token. A C string is the list of its characters up to
the terminator. The grammar of a line is stated apart from the parser, as what it is to spell a list
of tokens. -/

namespace Ldc1614.CommandLine

/-! ### Tokens -/

def maxTokens : ℕ := 8
def maxLineLength : ℕ := 127

/-- The character separates tokens. -/
def isBlank (c : Char) : Bool := c == ' ' || c == '\t'

/-- The character may stand in a token. -/
def isPrintable (c : Char) : Bool := 0x21 ≤ c.toNat && c.toNat ≤ 0x7E

def inputTooLong : String := "input exceeds 127 bytes"
def tooManyArguments : String := "too many arguments (maximum 8)"
def nonPrintable : String := "input contains a non-printable character"

/-- The characters of a token, and what stands behind the blank that ends it. -/
def scanToken : List Char → Except String (List Char × List Char)
  | [] => .ok ([], [])
  | c :: rest =>
      if isBlank c then .ok ([], rest)
      else if isPrintable c = false then .error nonPrintable
      else
        match scanToken rest with
        | .error text => .error text
        | .ok (token, rest) => .ok (c :: token, rest)

/-- The loop of `parseLine` over what is left of the line, behind the tokens it has found. -/
def scanLine : ℕ → List Char → List String → Except String (List String)
  | 0, _, argv => .ok argv
  | fuel + 1, cursor, argv =>
      match cursor.dropWhile isBlank with
      | [] => .ok argv
      | c :: rest =>
          if maxTokens ≤ argv.length then .error tooManyArguments
          else if isPrintable c = false then .error nonPrintable
          else
            match scanToken (c :: rest) with
            | .error text => .error text
            | .ok (token, rest) => scanLine fuel rest (argv ++ [String.ofList token])

/-- Split a line into tokens. A line without any fails silently, every other failure is logged. -/
def parseLine (input : List Char) : Except (Option String) (List String) :=
  if maxLineLength < input.length then .error (some inputTooLong)
  else
    match scanLine (input.length + 1) input [] with
    | .error text => .error (some text)
    | .ok [] => .error none
    | .ok argv => .ok argv

/-! ### The grammar of a line -/

/-- A token: it has characters, and all of them are printable. -/
def IsToken (token : List Char) : Prop := token ≠ [] ∧ ∀ c ∈ token, isPrintable c = true

/-- Nothing, or a blank first. -/
def Separated (rest : List Char) : Prop := ∀ c ∈ rest.head?, isBlank c = true

/-- The characters spell the tokens, with blanks around and between them. -/
inductive Spells : List Char → List String → Prop
  | blanks {gap} (hgap : ∀ c ∈ gap, isBlank c = true) : Spells gap []
  | token {gap token rest argv} (hgap : ∀ c ∈ gap, isBlank c = true) (htoken : IsToken token)
      (hrest : Separated rest) (h : Spells rest argv) :
      Spells (gap ++ token ++ rest) (String.ofList token :: argv)

/-- No blank is printable. -/
theorem not_isBlank {c : Char} (h : isPrintable c = true) : isBlank c = false := by
  by_contra hblank
  simp only [Bool.not_eq_false, isBlank, Bool.or_eq_true, beq_iff_eq] at hblank
  rcases hblank with rfl | rfl <;> exact absurd h (by decide)

/-- A token is scanned up to the blank behind it. -/
theorem scanToken_append {token rest : List Char} (htoken : ∀ c ∈ token, isPrintable c = true)
    (hrest : Separated rest) : scanToken (token ++ rest) = .ok (token, rest.tail) := by
  induction token with
  | nil =>
      cases rest with
      | nil => rfl
      | cons c rest =>
          have hblank : isBlank c = true := hrest c rfl
          simp [scanToken, hblank]
  | cons c token ih =>
      have hprintable := htoken c List.mem_cons_self
      have hscan := ih fun d hd => htoken d (List.mem_cons_of_mem c hd)
      simp [scanToken, not_isBlank hprintable, hprintable, hscan]

/-- What is scanned is a token and what stands behind it. -/
theorem of_scanToken {cursor token rest : List Char} (h : scanToken cursor = .ok (token, rest)) :
    (∀ c ∈ token, isPrintable c = true) ∧
      ∃ behind, cursor = token ++ behind ∧ Separated behind ∧ behind.tail = rest := by
  induction cursor generalizing token with
  | nil =>
      obtain ⟨rfl, rfl⟩ := Prod.mk.inj (Except.ok.inj h)
      exact ⟨by simp, [], rfl, by simp [Separated], rfl⟩
  | cons c cursor ih =>
      unfold scanToken at h
      split at h
      · next hblank =>
          obtain ⟨rfl, rfl⟩ := Prod.mk.inj (Except.ok.inj h)
          exact ⟨by simp, c :: cursor, rfl, by simpa [Separated] using hblank, rfl⟩
      · split at h
        · cases h
        · next hprintable =>
            rw [Bool.not_eq_false] at hprintable
            split at h
            · cases h
            · next tail behind hscan =>
                obtain ⟨rfl, rfl⟩ := Prod.mk.inj (Except.ok.inj h)
                obtain ⟨htail, behind', hcursor, hsep, hrest⟩ := ih hscan
                refine ⟨?_, behind', by rw [hcursor]; rfl, hsep, hrest⟩
                intro d hd
                rcases List.mem_cons.mp hd with rfl | hd
                · exact hprintable
                · exact htail d hd

/-- A blank in front changes nothing. -/
theorem Spells.cons {c : Char} {text : List Char} {argv : List String} (hblank : isBlank c = true)
    (h : Spells text argv) : Spells (c :: text) argv := by
  have hgap {gap : List Char} (h : ∀ d ∈ gap, isBlank d = true) :
      ∀ d ∈ c :: gap, isBlank d = true := by
    intro d hd
    rcases List.mem_cons.mp hd with rfl | hd
    · exact hblank
    · exact h d hd
  cases h with
  | blanks h => exact .blanks (hgap h)
  | @token gap token rest _ h htoken hrest htail =>
      have hspells := Spells.token (hgap h) htoken hrest htail
      simpa using hspells

/-- Nor do several. -/
theorem Spells.of_dropWhile {text : List Char} {argv : List String}
    (h : Spells (text.dropWhile isBlank) argv) : Spells text argv := by
  induction text with
  | nil => exact h
  | cons c text ih =>
      by_cases hblank : isBlank c = true
      · rw [List.dropWhile_cons_of_pos hblank] at h
        exact (ih h).cons hblank
      · rwa [List.dropWhile_cons_of_neg hblank] at h

/-- The loop passes over the blank behind a token. -/
theorem scanLine_tail {fuel : ℕ} {rest : List Char} (argv : List String) (hrest : Separated rest) :
    scanLine (fuel + 1) rest.tail argv = scanLine (fuel + 1) rest argv := by
  cases rest with
  | nil => rfl
  | cons c rest =>
      have hblank : isBlank c = true := hrest c rfl
      simp only [List.tail_cons, scanLine, List.dropWhile_cons_of_pos hblank]

/-- **What the loop accepts is spelled by the line.** -/
theorem of_scanLine {fuel : ℕ} {cursor : List Char} {argv out : List String}
    (hfuel : cursor.length < fuel) (hargv : argv.length ≤ maxTokens)
    (h : scanLine fuel cursor argv = .ok out) :
    ∃ more, out = argv ++ more ∧ out.length ≤ maxTokens ∧ Spells cursor more := by
  induction fuel generalizing cursor argv with
  | zero => omega
  | succ fuel ih =>
      unfold scanLine at h
      split at h
      · next hnil =>
          obtain rfl := Except.ok.inj h
          refine ⟨[], by simp, hargv, .of_dropWhile ?_⟩
          rw [hnil]
          exact .blanks (by simp)
      · next c rest hcursor =>
          split at h
          · cases h
          · next hroom =>
              split at h
              · cases h
              · next hprintable =>
                  rw [Bool.not_eq_false] at hprintable
                  split at h
                  · cases h
                  · next token behind hscan =>
                      obtain ⟨htoken, left, hleft, hsep, rfl⟩ := of_scanToken hscan
                      -- the first character is none that ends a token
                      have hne : token ≠ [] := by
                        rintro rfl
                        rw [List.nil_append] at hleft
                        subst hleft
                        have hblank := hsep c rfl
                        rw [not_isBlank hprintable] at hblank
                        cases hblank
                      have hshort : left.tail.length < fuel := by
                        have hdrop := List.length_dropWhile_le isBlank cursor
                        rw [hcursor, hleft, List.length_append] at hdrop
                        have hpos := List.length_pos_iff.mpr hne
                        rw [List.length_tail]
                        omega
                      have hnext : (argv ++ [String.ofList token]).length ≤ maxTokens := by
                        rw [List.length_append, List.length_singleton]
                        omega
                      obtain ⟨more, rfl, hlength, hmore⟩ := ih hshort hnext h
                      have hrest : Spells left more := by
                        cases left with
                        | nil => exact hmore
                        | cons b left => exact hmore.cons (hsep b rfl)
                      refine ⟨String.ofList token :: more, by simp, hlength, .of_dropWhile ?_⟩
                      rw [hcursor, hleft]
                      have hgap : ∀ c ∈ ([] : List Char), isBlank c = true := by simp
                      exact Spells.token hgap ⟨hne, htoken⟩ hsep hrest

/-- **What spells few enough tokens is accepted.** -/
theorem scanLine_of_spells {fuel : ℕ} {cursor : List Char} {argv more : List String}
    (h : Spells cursor more) (hfuel : cursor.length < fuel)
    (hroom : argv.length + more.length ≤ maxTokens) :
    scanLine fuel cursor argv = .ok (argv ++ more) := by
  induction h generalizing fuel argv with
  | @blanks gap hgap =>
      obtain ⟨fuel, rfl⟩ := Nat.exists_eq_add_of_lt hfuel
      have hnil : gap.dropWhile isBlank = [] := List.dropWhile_eq_nil_iff.mpr hgap
      simp [scanLine, hnil]
  | @token gap token rest more hgap htoken hsep _ ih =>
      obtain ⟨fuel, rfl⟩ : ∃ n, fuel = n + 1 := ⟨fuel - 1, by omega⟩
      obtain ⟨c, token, rfl⟩ := List.exists_cons_of_ne_nil htoken.1
      have hprintable := htoken.2 c List.mem_cons_self
      have hcursor : (gap ++ (c :: token) ++ rest).dropWhile isBlank = c :: (token ++ rest) := by
        rw [List.append_assoc, List.dropWhile_append_of_pos hgap]
        exact List.dropWhile_cons_of_neg (by simp [not_isBlank hprintable])
      have hscan : scanToken (c :: (token ++ rest)) = .ok (c :: token, rest.tail) :=
        scanToken_append htoken.2 hsep
      have hlength : rest.length < fuel := by
        simp only [List.length_append, List.length_cons] at hfuel
        omega
      obtain ⟨fuel, rfl⟩ : ∃ n, fuel = n + 1 := ⟨fuel - 1, by omega⟩
      have hnext : (argv ++ [String.ofList (c :: token)]).length + more.length ≤ maxTokens := by
        rw [List.length_cons] at hroom
        rw [List.length_append, List.length_singleton]
        omega
      have htail := ih hlength hnext
      have hroom' : ¬ maxTokens ≤ argv.length := by
        rw [List.length_cons] at hroom
        omega
      rw [scanLine, hcursor]
      simp only [hroom', if_false, hprintable, hscan, scanLine_tail _ hsep, htail]
      simp

/-- **Lines are read exactly.** A line is accepted with these tokens if and only if it is short
enough, spells them, and has at least one and at most eight. -/
theorem parseLine_exact (input : List Char) (argv : List String) :
    parseLine input = .ok argv ↔
      input.length ≤ maxLineLength ∧ argv ≠ [] ∧ argv.length ≤ maxTokens ∧ Spells input argv := by
  constructor
  · intro h
    unfold parseLine at h
    split at h
    · cases h
    · next hlength =>
        split at h
        · cases h
        · cases h
        · next tokens hne hscan =>
            obtain rfl := Except.ok.inj h
            obtain ⟨more, rfl, hcount, hspells⟩ := of_scanLine (Nat.lt_succ_self _) (by simp) hscan
            exact ⟨Nat.le_of_not_lt hlength, fun hnil => hne hnil, hcount, hspells⟩
  · rintro ⟨hlength, hne, hcount, hspells⟩
    have hscan : scanLine (input.length + 1) input [] = .ok argv :=
      scanLine_of_spells hspells (Nat.lt_succ_self _) (by simpa using hcount)
    obtain ⟨first, argv, rfl⟩ := List.exists_cons_of_ne_nil hne
    rw [parseLine, if_neg (Nat.not_lt.mpr hlength), hscan]

/-! ### Numbers -/

/-- The value of a digit in this base, which is at most 16. -/
def digitValue (base : ℕ) (c : Char) : Option ℕ :=
  let value :=
    if '0' ≤ c ∧ c ≤ '9' then some (c.toNat - '0'.toNat)
    else if 'a' ≤ c ∧ c ≤ 'f' then some (c.toNat - 'a'.toNat + 10)
    else if 'A' ≤ c ∧ c ≤ 'F' then some (c.toNat - 'A'.toNat + 10)
    else none
  value.filter fun digit => digit < base

/-- The number that the digits in front spell behind `value`, and what stands behind them. -/
def scanDigits (base : ℕ) : ℕ → List Char → ℕ × List Char
  | value, [] => (value, [])
  | value, c :: rest =>
      match digitValue base c with
      | some digit => scanDigits base (base * value + digit) rest
      | none => (value, c :: rest)

/-- The character is white space to the C library. -/
def isSpace (c : Char) : Bool := c == ' ' || (0x09 ≤ c.toNat && c.toNat ≤ 0x0D)

/-- The prefix that base 16 allows, if a digit stands behind it. -/
def skipHexPrefix : List Char → List Char
  | '0' :: x :: c :: rest =>
      if (x = 'x' ∨ x = 'X') ∧ (digitValue 16 c).isSome then c :: rest else '0' :: x :: c :: rest
  | text => text

/-- `ULLONG_MAX`. -/
def ullongMax : ℕ := 2 ^ 64 - 1

/-- What `strtoull` returns: the number, what stands behind it, and whether `errno` is `ERANGE`. -/
structure Parsed where
  value : ℕ
  rest : List Char
  erange : Bool := false

/-- `strtoull`, in base 10 or 16. Where there is no number, all of the text stands behind it. -/
def strtoull (text : List Char) (base : ℕ) : Parsed :=
  let body := text.dropWhile isSpace
  let negative := body.head? == some '-'
  let body := if body.head? = some '-' ∨ body.head? = some '+' then body.tail else body
  let body := if base = 16 then skipHexPrefix body else body
  let scanned := scanDigits base 0 body
  if scanned.2.length = body.length then { value := 0, rest := text }
  else if ullongMax < scanned.1 then { value := ullongMax, rest := scanned.2, erange := true }
  else if negative then { value := (2 ^ 64 - scanned.1) % 2 ^ 64, rest := scanned.2 }
  else { value := scanned.1, rest := scanned.2 }

/-- The text starts with the prefix of base 16. -/
def hexPrefixed : List Char → Bool
  | '0' :: x :: _ => x == 'x' || x == 'X'
  | _ => false

/-- The number a token spells, in base 10 or with a prefix in base 16. -/
def parseUnsigned (text : String) (maximum : ℕ) : Option ℕ :=
  let chars := text.toList
  if chars = [] ∨ chars.head? = some '+' ∨ chars.head? = some '-' then none
  else if hexPrefixed chars ∧ chars.length = 2 then none
  else
    let parsed := strtoull chars (if hexPrefixed chars then 16 else 10)
    if parsed.erange ∨ parsed.rest.length = chars.length ∨ parsed.rest ≠ [] ∨
        maximum < parsed.value then none
    else some parsed.value

/-! ### The grammar of a number -/

/-- The characters are digits in this base, at least one, of this value. -/
def Numeral (base : ℕ) (chars : List Char) (value : ℕ) : Prop :=
  chars ≠ [] ∧ ∃ digits : List ℕ, chars.map (digitValue base) = digits.map some ∧
    value = Nat.ofDigits base digits.reverse

/-- The characters spell this number: in decimal, or in hexadecimal with its prefix. -/
def SpellsNumber (chars : List Char) (value : ℕ) : Prop :=
  Numeral 10 chars value ∨
    ∃ x digits, chars = '0' :: x :: digits ∧ (x = 'x' ∨ x = 'X') ∧ Numeral 16 digits value

section Numbers

variable {base value : ℕ} {chars : List Char}

/-- Digits are scanned to the end. -/
theorem scanDigits_of_digits {digits : List ℕ} (h : chars.map (digitValue base) = digits.map some) :
    scanDigits base value chars =
      (base ^ digits.length * value + Nat.ofDigits base digits.reverse, []) := by
  induction chars generalizing digits value with
  | nil =>
      obtain rfl := List.map_eq_nil_iff.mp h.symm
      simp [scanDigits]
  | cons c chars ih =>
      obtain ⟨digit, digits, rfl, hdigit, hdigits⟩ := List.map_eq_cons_iff.mp h.symm
      have htail : scanDigits base (base * value + digit) chars = _ := ih hdigits.symm
      rw [scanDigits, ← hdigit]
      simp only [htail, List.reverse_cons, Nat.ofDigits_append, List.length_reverse,
        Nat.ofDigits_singleton, List.length_cons, Prod.mk.injEq, and_true]
      ring

/-- What is scanned to the end are digits. -/
theorem of_scanDigits {number : ℕ} (h : scanDigits base value chars = (number, [])) :
    ∃ digits : List ℕ, chars.map (digitValue base) = digits.map some := by
  induction chars generalizing value with
  | nil => exact ⟨[], rfl⟩
  | cons c chars ih =>
      unfold scanDigits at h
      split at h
      · next digit hdigit =>
          obtain ⟨digits, hdigits⟩ := ih h
          exact ⟨digit :: digits, by rw [List.map_cons, List.map_cons, hdigit, hdigits]⟩
      · cases h

/-- **Digits and only digits are scanned to the end.** -/
theorem scanDigits_iff {number : ℕ} (hne : chars ≠ []) :
    scanDigits base 0 chars = (number, []) ↔ Numeral base chars number := by
  constructor
  · intro h
    obtain ⟨digits, hdigits⟩ := of_scanDigits h
    rw [scanDigits_of_digits hdigits, Prod.mk.injEq, Nat.mul_zero, Nat.zero_add] at h
    exact ⟨hne, digits, hdigits, h.1.symm⟩
  · rintro ⟨-, digits, hdigits, rfl⟩
    rw [scanDigits_of_digits hdigits, Nat.mul_zero, Nat.zero_add]

/-- White space is not printable. -/
theorem dropWhile_isSpace (h : ∀ c ∈ chars, isPrintable c = true) :
    chars.dropWhile isSpace = chars := by
  cases chars with
  | nil => rfl
  | cons c chars =>
      refine List.dropWhile_cons_of_neg fun hspace => ?_
      have hprintable := h c List.mem_cons_self
      simp only [isSpace, Bool.or_eq_true, beq_iff_eq, Bool.and_eq_true, decide_eq_true_eq]
        at hspace
      simp only [isPrintable, Bool.and_eq_true, decide_eq_true_eq] at hprintable
      rcases hspace with rfl | hspace
      · exact absurd hprintable.1 (by decide)
      · omega

/-- The part of a text that `strtoull` reads as digits. -/
def numberBody (base : ℕ) (chars : List Char) : List Char :=
  if base = 16 then skipHexPrefix chars else chars

/-- `strtoull` on a token without a sign is accepted exactly where its digits end with it and the
number is not too large. -/
theorem strtoull_accepts {maximum number : ℕ} (hprintable : ∀ c ∈ chars, isPrintable c = true)
    (hsign : chars.head? ≠ some '+' ∧ chars.head? ≠ some '-') (hmaximum : maximum ≤ ullongMax) :
    (¬ ((strtoull chars base).erange = true ∨ (strtoull chars base).rest.length = chars.length ∨
          (strtoull chars base).rest ≠ [] ∨ maximum < (strtoull chars base).value) ∧
        (strtoull chars base).value = number) ↔
      chars ≠ [] ∧ numberBody base chars ≠ [] ∧
        scanDigits base 0 (numberBody base chars) = (number, []) ∧ number ≤ maximum := by
  have hbody : chars.dropWhile isSpace = chars := dropWhile_isSpace hprintable
  have heq : strtoull chars base =
      (let scanned := scanDigits base 0 (numberBody base chars)
        if scanned.2.length = (numberBody base chars).length then { value := 0, rest := chars }
        else if ullongMax < scanned.1 then
          { value := ullongMax, rest := scanned.2, erange := true }
        else { value := scanned.1, rest := scanned.2 }) := by
    simp only [strtoull, hbody, hsign.1, hsign.2, or_self, if_false, numberBody]
    have hplain : (chars.head? == some '-') = false := by simpa using hsign.2
    simp only [hplain, Bool.false_eq_true, if_false]
    rfl
  rw [heq]
  obtain ⟨scanned, left⟩ := scanDigits base 0 (numberBody base chars)
  dsimp only
  split
  · next hnone =>
      -- no digits at all
      constructor
      · rintro ⟨haccepted, -⟩
        exact (haccepted (Or.inr (Or.inl rfl))).elim
      · rintro ⟨-, hne, hscan, -⟩
        obtain ⟨-, rfl⟩ := Prod.mk.inj hscan
        exact (hne (List.length_eq_zero_iff.mp hnone.symm)).elim
  · next hsome =>
      split
      · next hlarge =>
          constructor
          · rintro ⟨haccepted, -⟩
            exact (haccepted (Or.inl rfl)).elim
          · rintro ⟨-, -, hscan, hbound⟩
            obtain ⟨rfl, -⟩ := Prod.mk.inj hscan
            omega
      · next hsmall =>
          constructor
          · rintro ⟨haccepted, rfl⟩
            simp only [not_or, not_not, Nat.not_lt] at haccepted
            obtain ⟨-, hlength, rfl, hbound⟩ := haccepted
            refine ⟨fun hnil => hlength (by rw [hnil]), fun hnil => hsome (by rw [hnil]), rfl,
              hbound⟩
          · rintro ⟨hne, -, hscan, hbound⟩
            obtain ⟨rfl, rfl⟩ := Prod.mk.inj hscan
            have hlength : ¬ 0 = chars.length := by
              have hpos := List.length_pos_iff.mpr hne
              omega
            simp [hlength, hbound]

/-- The digits behind the prefix are what is read in base 16, if there are any. -/
theorem numberBody_hex {x c : Char} {rest : List Char} (hx : x = 'x' ∨ x = 'X') :
    numberBody 16 ('0' :: x :: c :: rest) =
      if (digitValue 16 c).isSome then c :: rest else '0' :: x :: c :: rest := by
  simp [numberBody, skipHexPrefix, hx]

/-- The prefix itself is no number. -/
theorem scanDigits_prefix {x : Char} {rest : List Char} (hx : x = 'x' ∨ x = 'X') :
    scanDigits 16 0 ('0' :: x :: rest) = (0, x :: rest) := by
  have hzero : digitValue 16 '0' = some 0 := by decide
  have hnone : digitValue 16 x = none := by
    rcases hx with rfl | rfl <;> decide
  simp [scanDigits, hzero, hnone]

/-- A numeral starts with a digit. -/
theorem Numeral.head {c : Char} (h : Numeral base (c :: chars) value) :
    (digitValue base c).isSome = true := by
  obtain ⟨-, digits, hdigits, -⟩ := h
  obtain ⟨digit, _, -, hdigit, -⟩ := List.map_eq_cons_iff.mp hdigits.symm
  rw [← hdigit]
  rfl

/-- A hexadecimal prefix is a zero and an x. -/
theorem hexPrefixed_iff :
    hexPrefixed chars = true ↔
      ∃ x digits, chars = '0' :: x :: digits ∧ (x = 'x' ∨ x = 'X') := by
  constructor
  · intro h
    unfold hexPrefixed at h
    split at h
    · next x digits => exact ⟨x, digits, rfl, by simpa using h⟩
    · cases h
  · rintro ⟨x, digits, rfl, hx⟩
    simpa [hexPrefixed] using hx

/-- A decimal numeral has no prefix. -/
theorem not_numeral_prefix {x : Char} {digits : List Char} (hx : x = 'x' ∨ x = 'X') :
    ¬ Numeral 10 ('0' :: x :: digits) value := by
  rintro ⟨-, values, hvalues, -⟩
  obtain ⟨_, _, rfl, -, hrest⟩ := List.map_eq_cons_iff.mp hvalues.symm
  obtain ⟨_, _, -, hdigit, -⟩ := List.map_eq_cons_iff.mp hrest
  have hnone : digitValue 10 x = none := by
    rcases hx with rfl | rfl <;> decide
  rw [hnone] at hdigit
  cases hdigit

/-- **Numbers are read exactly.** A token is accepted with this number if and only if it spells it,
in decimal or with a prefix in hexadecimal, and the number is not above the maximum. -/
theorem parseUnsigned_exact (text : String) (maximum number : ℕ)
    (hprintable : ∀ c ∈ text.toList, isPrintable c = true) (hmaximum : maximum ≤ ullongMax) :
    parseUnsigned text maximum = some number ↔
      number ≤ maximum ∧ SpellsNumber text.toList number := by
  unfold parseUnsigned
  generalize text.toList = chars at *
  dsimp only
  split
  · next hnone =>
      -- nothing, or a sign
      constructor
      · intro h
        cases h
      · rintro ⟨-, hnumber⟩
        have hhead : ∀ c ∈ chars.head?, c ≠ '+' ∧ c ≠ '-' := by
          intro c hc
          obtain ⟨rest, rfl⟩ := List.head?_eq_some_iff.mp hc
          rcases hnumber with hdecimal | ⟨x, digits, heq, -⟩
          · have hdigit := hdecimal.head
            constructor <;> rintro rfl <;> exact absurd hdigit (by decide)
          · obtain ⟨rfl, -⟩ := List.cons.inj heq
            decide
        rcases hnone with rfl | hplus | hminus
        · rcases hnumber with ⟨hne, -⟩ | ⟨x, digits, heq, -⟩
          · exact (hne rfl).elim
          · cases heq
        · exact ((hhead '+' hplus).1 rfl).elim
        · exact ((hhead '-' hminus).2 rfl).elim
  · next hsome =>
      simp only [not_or] at hsome
      obtain ⟨hne, hsign⟩ := hsome
      by_cases hhex : hexPrefixed chars = true
      · obtain ⟨x, digits, rfl, hx⟩ := hexPrefixed_iff.mp hhex
        have hdecimal : ¬ Numeral 10 ('0' :: x :: digits) number := not_numeral_prefix hx
        cases digits with
        | nil =>
            have hnot : ¬ SpellsNumber ['0', x] number := by
              rintro (h | ⟨y, digits, heq, -, hdigits⟩)
              · exact hdecimal h
              · obtain ⟨-, rfl⟩ : x = y ∧ digits = [] := by simpa using heq
                exact hdigits.1 rfl
            simp [hhex, hnot]
        | cons c rest =>
            have hspells : SpellsNumber ('0' :: x :: c :: rest) number ↔
                Numeral 16 (c :: rest) number := by
              constructor
              · rintro (h | ⟨y, digits, heq, -, hdigits⟩)
                · exact (hdecimal h).elim
                · obtain ⟨-, rfl⟩ : x = y ∧ c :: rest = digits := by simpa using heq
                  exact hdigits
              · exact fun h => Or.inr ⟨x, c :: rest, rfl, hx, h⟩
            rw [if_neg (by simp), if_pos hhex, Option.ite_none_left_eq_some, Option.some.injEq,
              strtoull_accepts hprintable hsign hmaximum, numberBody_hex hx, hspells]
            by_cases hdigit : (digitValue 16 c).isSome = true
            · rw [if_pos hdigit, scanDigits_iff (List.cons_ne_nil _ _)]
              simp [and_comm]
            · have hnot : ¬ Numeral 16 (c :: rest) number := fun h => hdigit h.head
              rw [if_neg hdigit, scanDigits_prefix hx]
              simp [hnot]
      · have hspells : SpellsNumber chars number ↔ Numeral 10 chars number := by
          constructor
          · rintro (h | ⟨x, digits, rfl, hx, -⟩)
            · exact h
            · exact (hhex (hexPrefixed_iff.mpr ⟨x, digits, rfl, hx⟩)).elim
          · exact Or.inl
        have hbody : numberBody 10 chars = chars := rfl
        rw [if_neg (fun h => hhex h.1), if_neg hhex, Option.ite_none_left_eq_some,
          Option.some.injEq, strtoull_accepts hprintable hsign hmaximum, hbody, scanDigits_iff hne,
          hspells]
        simp [hne, and_comm]

/-- An upper-case hexadecimal number within its bound. -/
theorem parseUnsigned_exact_hex : parseUnsigned "0x2A" 255 = some 42 :=
  (parseUnsigned_exact "0x2A" 255 42 (List.all_eq_true.mp (by decide)) (by decide)).mpr
    ⟨by decide, Or.inr ⟨'x', ['2', 'A'], by decide, Or.inl rfl, by decide, [2, 10], by decide,
      by decide⟩⟩

end Numbers

end Ldc1614.CommandLine
