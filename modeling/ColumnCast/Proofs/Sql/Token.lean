import ColumnCast.Proofs.Text
import ColumnCast.Sql
import Mathlib.Tactic.Ring

/-!
# `ColumnCast.Proofs.Sql.Token`: SQL text as tokens

A scanner for the lexical rules of the dialect that the expressions are
written in: string literals between single quotes, names between double
quotes, a mark inside written twice, letters of plain words all alike.
It takes one character at a time, and what it remembers is its `Mode`.

* `Scans.append`: a text is scanned on its own, if what follows it
  cannot belong to its last token.
* `scans_quoteLiteral`, `scans_quoteIdent`: quoted text is one token,
  and that token holds the text.
-/

set_option autoImplicit false

namespace ColumnCast.Sql

/-- A token. -/
inductive Token
  /-- A keyword or a plain name, in small letters. -/
  | word (letters : List Char)
  /-- A quoted name. -/
  | name (text : String)
  /-- A string literal. -/
  | literal (text : String)
  | number (value : Nat)
  | symbol (c : Char)
  deriving DecidableEq

/-! ### The scanner -/

/-- May a plain word begin with the character? -/
def isWordStart (c : Char) : Bool := c.isAlpha || c == '_' || 128 ≤ c.toNat

/-- May a plain word go on with the character? -/
def isWordPart (c : Char) : Bool := isWordStart c || c.isDigit || c == '$'

/-- A quotation mark. -/
inductive Mark
  | single
  | double
  deriving DecidableEq

namespace Mark

def char : Mark → Char
  | single => '\''
  | double => '"'

/-- The token of what stands between two marks, given in reverse. -/
def token (mark : Mark) (taken : List Char) : Token :=
  match mark with
  | single => .literal (String.ofList taken.reverse)
  | double => .name (String.ofList taken.reverse)

end Mark

/-- What the scanner is in the middle of. Characters taken are kept in reverse. -/
inductive Mode
  | between
  | word (taken : List Char)
  | number (value : Nat)
  | quoted (mark : Mark) (taken : List Char)
  /-- Behind a mark that ends a quotation, unless a second one follows it. -/
  | ended (mark : Mark) (taken : List Char)
  deriving DecidableEq

namespace Mode

/-- What is complete when the text ends; none in the middle of a quotation. -/
def finish? : Mode → Option (List Token)
  | between => some []
  | word taken => some [.word taken.reverse]
  | number value => some [.number value]
  | quoted _ _ => none
  | ended mark taken => some [mark.token taken]

/-- The tokens and the mode after a character at which no token is open. -/
def start (c : Char) : List Token × Mode :=
  if c.isWhitespace then ([], between)
  else if c = '\'' then ([], quoted .single [])
  else if c = '"' then ([], quoted .double [])
  else if isWordStart c then ([], word [c.toLower])
  else if c.isDigit then ([], number (c.toNat - '0'.toNat))
  else ([.symbol c], between)

/-- Completes `token` and starts anew. -/
def restart (token : Token) (c : Char) : List Token × Mode :=
  (token :: (start c).1, (start c).2)

/-- The tokens that a character completes, and the mode it leads to. -/
def step : Mode → Char → List Token × Mode
  | between, c => start c
  | word taken, c =>
    if isWordPart c then ([], word (c.toLower :: taken)) else restart (.word taken.reverse) c
  | number value, c =>
    if c.isDigit then ([], number (10 * value + (c.toNat - '0'.toNat)))
    else restart (.number value) c
  | quoted mark taken, c =>
    if c = mark.char then ([], ended mark taken) else ([], quoted mark (c :: taken))
  | ended mark taken, c =>
    if c = mark.char then ([], quoted mark (c :: taken)) else restart (mark.token taken) c

/-- The tokens that a text completes, and the mode it leads to. -/
def run (mode : Mode) : List Char → List Token × Mode
  | [] => ([], mode)
  | c :: rest =>
    let first := mode.step c
    let more := run first.2 rest
    (first.1 ++ more.1, more.2)

theorem run_append (mode : Mode) (u v : List Char) :
    run mode (u ++ v)
      = ((run mode u).1 ++ (run (run mode u).2 v).1, (run (run mode u).2 v).2) := by
  induction u generalizing mode with
  | nil => rfl
  | cons c u ih =>
      rw [List.cons_append, run, run, ih]
      dsimp only
      rw [List.append_assoc]

/-- The scanner does not go on with the open token at this character. -/
def StopsAt (c : Char) : Prop := isWordPart c = false ∧ c ≠ '\'' ∧ c ≠ '"'

instance (c : Char) : Decidable (StopsAt c) := inferInstanceAs (Decidable (_ ∧ _))

/-- At such a character the open token is complete. -/
theorem step_of_stopsAt {mode : Mode} {done : List Token} (finished : mode.finish? = some done)
    {c : Char} (stops : StopsAt c) : mode.step c = (done ++ (start c).1, (start c).2) := by
  obtain ⟨notPart, notSingle, notDouble⟩ := stops
  have notDigit : c.isDigit = false := by
    unfold isWordPart at notPart
    simp only [Bool.or_eq_false_iff] at notPart
    exact notPart.1.2
  cases mode with
  | quoted mark taken => exact absurd finished (by simp [finish?])
  | between =>
      obtain rfl := Option.some.inj finished
      rfl
  | word taken =>
      obtain rfl := Option.some.inj finished
      simp [step, notPart, restart]
  | number value =>
      obtain rfl := Option.some.inj finished
      simp [step, notDigit, restart]
  | ended mark taken =>
      obtain rfl := Option.some.inj finished
      cases mark with
      | single => simp [step, Mark.char, notSingle, restart]
      | double => simp [step, Mark.char, notDouble, restart]

end Mode

/-- The tokens of a text; none if a quotation has no end. -/
def tokens? (text : List Char) : Option (List Token) :=
  (Mode.run .between text).2.finish?.map ((Mode.run .between text).1 ++ ·)

/-! ### Texts one after the other -/

/-- The text is scanned to the tokens. -/
def Scans (text : List Char) (ts : List Token) : Prop := tokens? text = some ts

/-- The text is scanned to the tokens, and no token is open at its end. -/
def Closed (text : List Char) (ts : List Token) : Prop :=
  Mode.run .between text = (ts, .between)

/-- No token goes on with the first character of the text. -/
def Breaks : List Char → Prop
  | [] => True
  | c :: _ => Mode.StopsAt c

instance (text : List Char) (ts : List Token) : Decidable (Scans text ts) :=
  inferInstanceAs (Decidable (_ = _))

instance (text : List Char) (ts : List Token) : Decidable (Closed text ts) :=
  inferInstanceAs (Decidable (_ = _))

instance : (text : List Char) → Decidable (Breaks text)
  | [] => inferInstanceAs (Decidable True)
  | c :: _ => inferInstanceAs (Decidable (Mode.StopsAt c))

section Append

variable {u v : List Char} {ts us : List Token}

theorem Closed.scans (h : Closed u ts) : Scans u ts := by
  unfold Scans tokens?
  rw [h]
  simp [Mode.finish?]

/-- Behind a text with no open token the scanner starts anew. -/
theorem Closed.append (first : Closed u ts) (second : Scans v us) : Scans (u ++ v) (ts ++ us) := by
  unfold Scans tokens? at *
  rw [Mode.run_append, first]
  obtain ⟨done, finished, rfl⟩ := Option.map_eq_some_iff.mp second
  simp [finished]

/-- A text whose last token does not go on is scanned on its own. -/
theorem Scans.append (first : Scans u ts) (second : Scans v us) (breaks : Breaks v) :
    Scans (u ++ v) (ts ++ us) := by
  unfold Scans tokens? at *
  obtain ⟨done, finished, rfl⟩ := Option.map_eq_some_iff.mp first
  obtain ⟨done', finished', rfl⟩ := Option.map_eq_some_iff.mp second
  rw [Mode.run_append]
  cases v with
  | nil =>
      obtain rfl : done' = [] := by simpa [Mode.run, Mode.finish?] using finished'.symm
      simp [Mode.run, finished]
  | cons c v =>
      rw [Mode.run, Mode.step_of_stopsAt finished breaks]
      simp only [Mode.run, Mode.step] at finished'
      simp [Mode.run, Mode.step, finished', List.append_assoc]

/-- Two texts with a fixed one between them. -/
theorem Scans.between {middle : List Char} {ms : List Token} (first : Scans u ts)
    (closed : Closed middle ms) (breaks : middle ≠ [] ∧ Breaks middle) (second : Scans v us) :
    Scans (u ++ (middle ++ v)) (ts ++ (ms ++ us)) := by
  obtain ⟨c, more, rfl⟩ := List.exists_cons_of_ne_nil breaks.1
  exact first.append (closed.append second) breaks.2

end Append

/-! ### Quoted text -/

/-- Characters between two marks are taken one by one, a doubled mark as one. -/
theorem run_doubled (mark : Mark) (taken text rest : List Char) :
    Mode.run (.quoted mark taken) (doubled mark.char text ++ rest)
      = Mode.run (.quoted mark (text.reverse ++ taken)) rest := by
  induction text generalizing taken with
  | nil => rfl
  | cons c text ih =>
      have more : (c :: text).reverse ++ taken = text.reverse ++ (c :: taken) := by simp
      rw [doubled, more]
      split
      · rename_i isMark
        subst isMark
        rw [List.cons_append, List.cons_append, Mode.run, Mode.run]
        simp only [Mode.step, if_true, List.nil_append, ih]
      · rename_i other
        rw [List.cons_append, Mode.run]
        simp only [Mode.step, other, if_false, List.nil_append, ih]

theorem scans_quoted (mark : Mark) (text : String) :
    Scans (quoted mark.char text).toList
      [match mark with | .single => .literal text | .double => .name text] := by
  have opening : Mode.start mark.char = ([], .quoted mark []) := by cases mark <;> rfl
  unfold Scans tokens? quoted
  rw [String.toList_ofList, Mode.run]
  simp only [Mode.step, opening, run_doubled, Mode.run, if_true, List.append_nil]
  cases mark <;> simp [Mode.finish?, Mark.token]

/-- **A string literal is one token that holds its text.** -/
theorem scans_quoteLiteral (text : String) : Scans (quoteLiteral text).toList [.literal text] :=
  scans_quoted .single text

/-- **A quoted name is one token that holds the name.** -/
theorem scans_quoteIdent (name : String) : Scans (quoteIdent name).toList [.name name] :=
  scans_quoted .double name

/-! ### Numbers -/

theorem start_of_isDigit {c : Char} (h : c.isDigit = true) :
    Mode.start c = ([], .number (c.toNat - 48)) := by
  have bounds := Text.isDigit_iff.mp h
  have differs : ∀ d : Char, d.isDigit = false → c ≠ d := by
    rintro d other rfl
    rw [h] at other
    exact absurd other (by simp)
  have notBlank : c.isWhitespace = false := by
    simp [Char.isWhitespace, differs ' ' rfl, differs '\t' rfl, differs '\r' rfl, differs '\n' rfl]
  have notWord : isWordStart c = false := by
    have alpha : c.isAlpha = false := by
      rw [Bool.eq_false_iff, ne_eq, Text.isAlpha_iff]
      omega
    have small : ¬ 128 ≤ c.toNat := by omega
    simp [isWordStart, alpha, differs '_' rfl, small]
  unfold Mode.start
  simp only [notBlank, differs '\'' rfl, differs '"' rfl, notWord, h, Bool.false_eq_true, if_false,
    if_true]
  rfl

/-- Digits are taken one by one. -/
theorem run_digits (value : Nat) {digits : List Char} (h : Text.AreDigits digits) :
    Mode.run (.number value) digits
      = ([], .number (10 ^ digits.length * value + Text.digitsValue digits)) := by
  induction digits generalizing value with
  | nil => simp [Mode.run, Text.digitsValue]
  | cons c digits ih =>
      have isDigit := h c List.mem_cons_self
      have next : 10 ^ (digits.length + 1) * value
            + (10 ^ digits.length * (c.toNat - 48) + Text.digitsValue digits)
          = 10 ^ digits.length * (10 * value + (c.toNat - 48)) + Text.digitsValue digits := by
        ring
      rw [Mode.run]
      simp only [Mode.step, isDigit, if_true, List.nil_append]
      rw [ih _ fun d mem => h d (List.mem_cons_of_mem _ mem), Text.digitsValue_cons,
        List.length_cons, next]
      rfl

/-- A number is one token. -/
theorem scans_toString (n : Nat) : Scans (toString n).toList [.number n] := by
  have digits := Text.areDigits_toString n
  have value := Text.digitsValue_toString n
  obtain ⟨c, rest, eq⟩ := List.exists_cons_of_ne_nil (Text.toString_ne_nil n)
  rw [eq] at digits value
  unfold Scans tokens?
  rw [eq, Mode.run]
  simp only [Mode.step, start_of_isDigit (digits c List.mem_cons_self), List.nil_append]
  rw [run_digits _ fun d mem => digits d (List.mem_cons_of_mem _ mem), ← Text.digitsValue_cons,
    value]
  rfl

end ColumnCast.Sql
