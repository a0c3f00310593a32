/-!
# `ColumnCast.Yaml.Place`: characters and places in a YAML text

A `Place` is the text still to be read, with the line and column it begins
at. Steps over characters keep line and column; `Place.skipBreak` goes to
the next line. A text is read only if all its characters are allowed, and
after its line breaks have been made alike: of the breaks only the line
and paragraph separators stay what they are.
-/

set_option autoImplicit false

namespace ColumnCast.Yaml

/-! ### Characters -/

/-- May the character stand in a text? -/
def isAllowed (c : Char) : Bool :=
  let n := c.toNat
  n == 0x09 || n == 0x0A || n == 0x0D || (0x20 ≤ n && n ≤ 0x7E) || n == 0x85
    || (0xA0 ≤ n && n ≤ 0xD7FF) || (0xE000 ≤ n && n ≤ 0xFFFD) || 0x10000 ≤ n

/-- A next-line character. -/
def nextLine : Char := '\u0085'

/-- The text with a line feed for each line break but the separators. -/
def normalizeBreaks : List Char → List Char
  | [] => []
  | '\r' :: '\n' :: rest => '\n' :: normalizeBreaks rest
  | c :: rest => (if c = '\r' ∨ c = nextLine then '\n' else c) :: normalizeBreaks rest

/-- Does a line end here? -/
def isBreak (c : Char) : Bool := c == '\n' || c == '\u2028' || c == '\u2029'

/-- A space or a tab. -/
def isBlank (c : Char) : Bool := c == ' ' || c == '\t'

/-- A letter, digit, hyphen or underscore. -/
def isWordChar (c : Char) : Bool := c.isAlphanum || c == '_' || c == '-'

/-- Does the text end, or begin with a blank or a line break? -/
def endsWord (text : List Char) : Bool :=
  match text with
  | [] => true
  | c :: _ => isBlank c || isBreak c

/-- Does the text end, or begin with a line break? -/
def endsLine (text : List Char) : Bool :=
  match text with
  | [] => true
  | c :: _ => isBreak c

/-! ### Places -/

/-- What is still to be read, and where it begins. -/
structure Place where
  rest : List Char
  line : Nat
  column : Nat

namespace Place

/-- The place `count` characters on, all of one line. -/
def skip (p : Place) (count : Nat) : Place :=
  { p with rest := p.rest.drop count, column := p.column + count }

/-- The place behind all characters that stand first and have a property. -/
def skipWhile (p : Place) (has : Char → Bool) : Place := p.skip (p.rest.takeWhile has).length

/-- The place behind the line break that stands first. -/
def skipBreak (p : Place) : Place := ⟨p.rest.drop 1, p.line + 1, 0⟩

/-- The place behind a comment, if one stands here: the end of the line. -/
def skipComment (p : Place) : Place :=
  match p.rest with
  | '#' :: _ => p.skipWhile fun c => !isBreak c
  | _ => p

/-- The place behind the rest of a line on which nothing more than a comment may stand. -/
def finishLine? (p : Place) : Option Place :=
  let p := (p.skipWhile isBlank).skipComment
  match p.rest with
  | [] => some p
  | c :: _ => if isBreak c then some p.skipBreak else none

/-- Does the text begin with the word, at the start of a line and as a word of its own? -/
def hasIndicator (p : Place) (word : String) : Bool :=
  p.column == 0 && word.toList.isPrefixOf p.rest && endsWord (p.rest.drop word.length)

/-- What begins a document. -/
def documentStart : String := "---"

/-- What ends a document. -/
def documentEnd : String := "..."

/-- Does a document begin or end here? -/
def atDocumentEdge (p : Place) : Bool := p.hasIndicator documentStart || p.hasIndicator documentEnd

end Place

end ColumnCast.Yaml
