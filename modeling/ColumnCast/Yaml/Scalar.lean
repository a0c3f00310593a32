import ColumnCast.Yaml.Place

/-!
# `ColumnCast.Yaml.Scalar`: scalars and how they are written

A scalar is a text in one of several styles. The three readers here take a
place where a scalar begins and answer its text and the place behind it:
`readPlain?` for bare words, `readQuoted?` for quotes of either kind, and
`readBlock?` for the indented lines under `|` or `>`.

Bare and quoted text folds: a single line break counts as a space, and of
several the first is dropped.
-/

set_option autoImplicit false

namespace ColumnCast.Yaml

/-- How a scalar is written. -/
inductive Style
  | plain
  | quoted
  | literal
  | folded
  deriving DecidableEq, Repr

/-! ### Gaps between words -/

/-- Blanks and line breaks between two words. -/
structure Gap where
  /-- The blanks before the first line break, the last one first. -/
  blanks : List Char := []
  /-- The line breaks, the last one first. -/
  breaks : List Char := []
  /-- Has a line ended? -/
  broken : Bool := false

namespace Gap

/-- Reads on to the next word. After a line break no tab may stand left of `tabLimit`. -/
def read? (tabLimit line column : Nat) (gap : Gap) : List Char → Option (Gap × Place)
  | [] => some (gap, ⟨[], line, column⟩)
  | c :: rest =>
    if isBreak c then
      read? tabLimit (line + 1) 0 { gap with breaks := c :: gap.breaks, broken := true } rest
    else if isBlank c then
      if !gap.broken then
        read? tabLimit line (column + 1) { gap with blanks := c :: gap.blanks } rest
      else if c = '\t' ∧ column < tabLimit then none
      else read? tabLimit line (column + 1) gap rest
    else some (gap, ⟨c :: rest, line, column⟩)

/-- The gap that begins at a place. -/
def readAt? (tabLimit : Nat) (gap : Gap) (p : Place) : Option (Gap × Place) :=
  gap.read? tabLimit p.line p.column p.rest

/-- What a gap stands for: its blanks, or its line breaks folded. -/
def folded (gap : Gap) : List Char :=
  if !gap.broken then gap.blanks.reverse
  else
    match gap.breaks.reverse with
    | ['\n'] => [' ']
    | '\n' :: more => more
    | breaks => breaks

end Gap

/-! ### Bare words -/

/-- The characters that have a meaning within brackets. -/
def isFlowMark (c : Char) : Bool := ",[]\x7b\x7d".toList.contains c

/-- Does the text begin with what no colon may stand before within brackets? -/
def refusesColon (text : List Char) : Bool :=
  text.head?.any fun c => isFlowMark c || c == '?'

/-- The word that stands first, up to a blank, to a colon that ends a key or, within
brackets, to a mark of theirs. -/
def plainWord? (inFlow : Bool) : List Char → Option (List Char)
  | [] => some []
  | c :: rest =>
    if isBlank c || isBreak c then some []
    else if inFlow && c == ':' && refusesColon rest then none
    else if (c == ':' && endsWord rest) || (inFlow && isFlowMark c) then some []
    else (plainWord? inFlow rest).map (c :: ·)

/-- A bare scalar that has been read. -/
structure PlainText where
  text : List Char
  place : Place
  /-- Has a line ended since the last word? -/
  broken : Bool

/-- Reads further words of a bare scalar, with the gap before them. Outside brackets every line
of it is indented by `indent` at least. -/
def readPlainWords? (inFlow : Bool) (indent : Nat) (gap : Gap) :
    (rounds : Nat) → Place → Option PlainText
  | 0, _ => none
  | rounds + 1, p =>
    if p.atDocumentEdge || p.rest.head? == some '#' then some ⟨[], p, gap.broken⟩
    else do
      let word ← plainWord? inFlow p.rest
      let p := p.skip word.length
      -- A gap that no word follows is no part of the scalar.
      if word.isEmpty then return ⟨[], p, gap.broken⟩
      let text := gap.folded ++ word
      if p.rest.isEmpty || !endsWord p.rest then return ⟨text, p, false⟩
      let (gap, p) ← Gap.readAt? indent {} p
      if !inFlow && p.column < indent then return ⟨text, p, gap.broken⟩
      let more ← readPlainWords? inFlow indent gap rounds p
      return { more with text := text ++ more.text }

/-- The bare scalar at a place. -/
def readPlain? (inFlow : Bool) (indent : Nat) (p : Place) : Option PlainText :=
  readPlainWords? inFlow indent {} (p.rest.length + 1) p

/-! ### Quoted text -/

/-- The character of an escape without a number. -/
def namedEscape? : Char → Option Char
  | '0' => some '\x00'
  | 'a' => some '\x07'
  | 'b' => some '\x08'
  | 't' | '\t' => some '\t'
  | 'n' => some '\n'
  | 'v' => some '\x0B'
  | 'f' => some '\x0C'
  | 'r' => some '\r'
  | 'e' => some '\x1B'
  | ' ' => some ' '
  | '"' => some '"'
  | '/' => some '/'
  | '\\' => some '\\'
  | 'N' => some nextLine
  | '_' => some '\u00A0'
  | 'L' => some '\u2028'
  | 'P' => some '\u2029'
  | _ => none

/-- How many hexadecimal digits follow in an escape with a number. -/
def escapeDigits? : Char → Option Nat
  | 'x' => some 2
  | 'u' => some 4
  | 'U' => some 8
  | _ => none

/-- The value of a hexadecimal digit. -/
def hexDigit? (c : Char) : Option Nat :=
  if c.isDigit then some (c.toNat - '0'.toNat)
  else if 'a' ≤ c ∧ c ≤ 'f' then some (c.toNat - 'a'.toNat + 10)
  else if 'A' ≤ c ∧ c ≤ 'F' then some (c.toNat - 'A'.toNat + 10)
  else none

/-- The number of hexadecimal digits. -/
def hexNumber? (digits : List Char) : Option Nat :=
  digits.foldlM (fun number c => (hexDigit? c).map (16 * number + ·)) 0

/-- The character of a number, if there is one. -/
def charOfNumber? (number : Nat) : Option Char :=
  if number.isValidChar then some (Char.ofNat number) else none

/-- The character of an escape, from behind its backslash, and how many characters the
escape takes from there. -/
def readEscape? (text : List Char) : Option (Char × Nat) :=
  match text with
  | [] => none
  | c :: rest =>
    match namedEscape? c with
    | some named => some (named, 1)
    | none => do
      let count ← escapeDigits? c
      if rest.length < count then none
      else return (← charOfNumber? (← hexNumber? (rest.take count)), count + 1)

/-- Reads the rest of a quoted scalar, from behind its opening quote mark. -/
def readQuotedFrom? (mark : Char) : (rounds : Nat) → Place → Option (List Char × Place)
  | 0, _ => none
  | rounds + 1, p =>
    let onward (text : List Char) (p : Place) : Option (List Char × Place) :=
      (readQuotedFrom? mark rounds p).map fun (more, p) => (text ++ more, p)
    if p.atDocumentEdge then none
    else
      match p.rest with
      | [] => none
      | c :: rest =>
        if c = mark then
          -- In single quotes, two marks in a row are one character.
          if mark = '\'' ∧ rest.head? = some mark then onward [mark] (p.skip 2)
          else some ([], p.skip 1)
        else if mark = '"' ∧ c = '\\' then
          if rest.head?.any isBreak then do
            let (gap, p) ← Gap.readAt? 0 { broken := true } (p.skip 1).skipBreak
            onward gap.breaks.reverse p
          else do
            let (escaped, length) ← readEscape? rest
            onward [escaped] (p.skip (length + 1))
        else if isBlank c || isBreak c then do
          let (gap, p) ← Gap.readAt? 0 {} p
          onward gap.folded p
        else
          let word := p.rest.takeWhile fun d => d != mark && d != '\\' && !isBlank d && !isBreak d
          let word := if word.isEmpty then [c] else word
          onward word (p.skip word.length)

/-- The quoted scalar at a place, where its quote mark stands. -/
def readQuoted? (mark : Char) (p : Place) : Option (List Char × Place) :=
  readQuotedFrom? mark (p.rest.length + 1) (p.skip 1)

/-! ### Blocks -/

/-- What becomes of the line breaks at the end of a block. -/
inductive Chomping
  | strip
  | clip
  | keep
  deriving DecidableEq, Repr

/-- The chomping that a sign asks for. -/
def chomping? (text : List Char) : Option Chomping :=
  match text with
  | '+' :: _ => some .keep
  | '-' :: _ => some .strip
  | _ => none

/-- The indentation that a digit asks for; a zero is refused. -/
def indentation? (text : List Char) : Option (Option Nat) :=
  match text with
  | c :: _ =>
    if c = '0' then none
    else if c.isDigit then some (some (c.toNat - '0'.toNat))
    else some none
  | [] => some none

/-- Chomping and indentation of a block, in either order, and the place behind them. -/
def readBlockHeader? (p : Place) : Option (Chomping × Option Nat × Place) :=
  match chomping? p.rest with
  | some chomping => do
    let indentation ← indentation? (p.rest.drop 1)
    return (chomping, indentation, p.skip (1 + indentation.toList.length))
  | none => do
    match ← indentation? p.rest with
    | none => return (.clip, none, p)
    | some indentation =>
      match chomping? (p.rest.drop 1) with
      | some chomping => return (chomping, some indentation, p.skip 2)
      | none => return (.clip, some indentation, p.skip 1)

/-- The line breaks before a line with text, and how far the lines were indented. -/
structure BlockGap where
  /-- The line breaks, the last one first. -/
  breaks : List Char := []
  deepest : Nat := 0

/-- Reads empty lines and the indentation of the next line, up to `indent` if it is known.
No tab may stand in the indentation. -/
def BlockGap.read? (indent : Option Nat) (line column : Nat) (gap : BlockGap) :
    List Char → Option (BlockGap × Place)
  | [] => some ({ gap with deepest := max gap.deepest column }, ⟨[], line, column⟩)
  | c :: rest =>
    let gap := { gap with deepest := max gap.deepest column }
    let inIndentation := indent.all fun indent => column < indent
    if c = ' ' ∧ inIndentation then gap.read? indent line (column + 1) rest
    else if c = '\t' ∧ inIndentation then none
    else if isBreak c then
      BlockGap.read? indent (line + 1) 0 { gap with breaks := c :: gap.breaks } rest
    else some (gap, ⟨c :: rest, line, column⟩)

/-- The text of a block as far as it has been read. -/
structure BlockText where
  text : List Char
  /-- The break of the last line; none before the first line and at the end. -/
  lineBreak : Option Char
  /-- The breaks of the empty lines after it. -/
  breaks : List Char
  /-- Did the last line begin with a blank? -/
  blankLine : Bool

namespace BlockText

/-- The breaks between the last line and the next. In a folded block one break between lines
without leading blanks is a space, and the first of several is dropped. -/
def between (block : BlockText) (folded nextBlank : Bool) : List Char :=
  if folded && block.lineBreak == some '\n' && !block.blankLine && !nextBlank then
    if block.breaks.isEmpty then [' '] else block.breaks
  else block.lineBreak.toList ++ block.breaks

/-- The text with as many breaks at its end as the chomping leaves. -/
def chomped (block : BlockText) : Chomping → List Char
  | .strip => block.text
  | .clip => block.text ++ block.lineBreak.toList
  | .keep => block.text ++ block.lineBreak.toList ++ block.breaks

/-- Reads the lines of a block that are indented by exactly `indent`, or more. -/
def readLines? (folded : Bool) (indent : Nat) (block : BlockText) :
    (rounds : Nat) → Place → Option (BlockText × Place)
  | 0, _ => none
  | rounds + 1, p =>
    match p.rest with
    | [] => some (block, p)
    | c :: _ =>
      if p.column = indent then do
        let line := p.rest.takeWhile fun c => !isBreak c
        let p := p.skip line.length
        let text := block.text ++ block.between folded (isBlank c) ++ line
        match p.rest with
        | [] => return (⟨text, none, [], isBlank c⟩, p)
        | lineBreak :: _ =>
          let p := p.skipBreak
          let (gap, p) ← BlockGap.read? (some indent) p.line p.column {} p.rest
          readLines? folded indent ⟨text, some lineBreak, gap.breaks.reverse, isBlank c⟩ rounds p
      else some (block, p)

end BlockText

/-- The block scalar at a place, where its mark stands. `base` is the least indentation that
its lines can have here. -/
def readBlock? (folded : Bool) (base : Nat) (p : Place) : Option (List Char × Place) := do
  let (chomping, indentation, p) ← readBlockHeader? (p.skip 1)
  let p ← p.finishLine?
  let given := indentation.map fun more => (base - 1) + more
  let (gap, p) ← BlockGap.read? given p.line p.column {} p.rest
  let indent := given.getD (max gap.deepest (max base 1))
  let (block, p) ←
    BlockText.readLines? folded indent ⟨[], none, gap.breaks.reverse, false⟩ (p.rest.length + 1) p
  return (block.chomped chomping, p)

end ColumnCast.Yaml
