import ColumnCast.Text
import ColumnCast.Yaml.Scalar

/-!
# `ColumnCast.Yaml.Token`: from characters to tokens

Indentation becomes tokens: `blockSequenceStart` and `blockMappingStart`
where a line goes in, `blockEnd` where one comes back. A key is known to
be one only when its colon is reached, and the tokens that say so belong
before it. So each level of brackets keeps the place where a key may have
begun, and `Scanner.insertKey` puts the tokens there. A key without a
question mark is one line long and at most 1024 characters.
-/

set_option autoImplicit false

namespace ColumnCast.Yaml

/-- A tag as it is written. -/
structure TagName where
  /-- Names what the suffix belongs to; empty for a tag in full. -/
  handle : List Char
  suffix : List Char
  deriving DecidableEq, Repr

/-- The parts of a YAML text. -/
inductive Token
  | versionDirective (major minor : Nat)
  | tagDirective (handle replacement : List Char)
  | documentStart
  | documentEnd
  | blockSequenceStart
  | blockMappingStart
  | blockEnd
  | blockEntry
  | flowSequenceStart
  | flowSequenceEnd
  | flowMappingStart
  | flowMappingEnd
  | flowEntry
  | key
  | value
  | alias (name : List Char)
  | anchor (name : List Char)
  | tag (name : TagName)
  | scalar (text : List Char) (style : Style)
  deriving DecidableEq, Repr

/-! ### Anchors, tags and directives -/

/-- The name after `&` or `*`. -/
def readAnchorName? (p : Place) : Option (List Char × Place) :=
  let name := p.rest.takeWhile isWordChar
  let p := p.skip name.length
  let ends := endsWord p.rest || p.rest.head?.any fun c => "?:,]\x7d%@\x60".toList.contains c
  if name.isEmpty || !ends then none else some (name, p)

/-- Reads a tag handle: `!`, a name and another `!`. With the second missing it is the
beginning of something else. -/
def readTagHandle (p : Place) : List Char × Place :=
  match p.rest with
  | '!' :: rest =>
    let name := rest.takeWhile isWordChar
    let closing := ((rest.drop name.length).take 1).filter (· == '!')
    let handle := '!' :: (name ++ closing)
    (handle, p.skip handle.length)
  | _ => ([], p)

/-- Is this a handle that has both its marks? -/
def isFullHandle (handle : List Char) : Bool :=
  2 ≤ handle.length && handle.getLast? == some '!'

/-- How many bytes a character has in UTF-8 that begins with this byte. -/
def byteCount? (first : Nat) : Option Nat :=
  if first < 0x80 then some 1
  else if first / 0x20 = 0b110 then some 2
  else if first / 0x10 = 0b1110 then some 3
  else if first / 0x08 = 0b11110 then some 4
  else none

/-- A byte written as a percent sign and two hexadecimal digits. -/
def readEscapedByte? (text : List Char) : Option (Nat × List Char) :=
  match text with
  | '%' :: a :: b :: rest => do return (← hexNumber? [a, b], rest)
  | _ => none

/-- The bytes after the first of a character. -/
def readTrailingBytes? : (count number : Nat) → List Char → Option (Nat × List Char)
  | 0, number, text => some (number, text)
  | count + 1, number, text => do
    let (byte, text) ← readEscapedByte? text
    if byte / 0x40 = 0b10 then readTrailingBytes? count (0x40 * number + byte % 0x40) text
    else none

/-- A character written as the escaped bytes of its UTF-8 form. -/
def readEscapedChar? (text : List Char) : Option (Char × List Char) := do
  let (first, text) ← readEscapedByte? text
  let count ← byteCount? first
  let lead := if count = 1 then first else first % Nat.pow 2 (7 - count)
  let (number, text) ← readTrailingBytes? (count - 1) lead text
  return (Char.ofNat number, text)

/-- May the character stand in a tag? Brackets and commas only between `<` and `>`. -/
def isTagChar (verbatim : Bool) (c : Char) : Bool :=
  isWordChar c || ";/?:@&=+$.%!~*'()".toList.contains c || (verbatim && ",[]".toList.contains c)

/-- Reads the characters of a tag. -/
def readTagChars? (verbatim : Bool) (text : List Char) :
    (rounds : Nat) → List Char → Option (List Char × List Char)
  | 0, _ => none
  | rounds + 1, rest =>
    match rest with
    | '%' :: _ => do
      let (c, rest) ← readEscapedChar? rest
      readTagChars? verbatim (text ++ [c]) rounds rest
    | c :: more =>
      if isTagChar verbatim c then readTagChars? verbatim (text ++ [c]) rounds more
      else some (text, rest)
    | [] => some (text, rest)

/-- Reads a tag, or a part of one, at a place. -/
def readTagText? (verbatim : Bool) (p : Place) : Option (List Char × Place) := do
  let (text, rest) ← readTagChars? verbatim [] (p.rest.length + 1) p.rest
  return (text, p.skip (p.rest.length - rest.length))

/-- The tag at a place, where its `!` stands. -/
def readTagName? (p : Place) : Option (TagName × Place) :=
  if p.rest.drop 1 |>.head? |>.any (· == '<') then do
    let (suffix, p) ← readTagText? true (p.skip 2)
    if suffix.isEmpty || p.rest.head? != some '>' then none else return (⟨[], suffix⟩, p.skip 1)
  else do
    let (handle, p) := readTagHandle p
    let (suffix, p) ← readTagText? false p
    if isFullHandle handle then
      if suffix.isEmpty then none else return (⟨handle, suffix⟩, p)
    else
      let suffix := handle.drop 1 ++ suffix
      if suffix.isEmpty then return (⟨[], ['!']⟩, p) else return (⟨['!'], suffix⟩, p)

/-- A number of up to nine digits. -/
def readVersionNumber? (p : Place) : Option (Nat × Place) :=
  let digits := p.rest.takeWhile Char.isDigit
  if digits.isEmpty || 9 < digits.length then none
  else some (Text.digitsValue digits, p.skip digits.length)

/-- The directive at a place, where its percent sign stands. -/
def readDirective? (p : Place) : Option (Token × Place) := do
  let p := p.skip 1
  let name := p.rest.takeWhile isWordChar
  let p := p.skip name.length
  if !endsWord p.rest then none
  else if name = "YAML".toList then
    let (major, p) ← readVersionNumber? (p.skipWhile isBlank)
    if p.rest.head? != some '.' then none
    else
      let (minor, p) ← readVersionNumber? (p.skip 1)
      return (.versionDirective major minor, ← p.finishLine?)
  else if name = "TAG".toList then
    let (handle, p) := readTagHandle (p.skipWhile isBlank)
    let blank := p.rest.head?.any isBlank
    if !blank || !(handle = ['!'] || isFullHandle handle) then none
    else
      let (replacement, p) ← readTagText? true (p.skipWhile isBlank)
      if replacement.isEmpty || !endsWord p.rest then none
      else return (.tagDirective handle replacement, ← p.finishLine?)
  else none

/-! ### The scanner -/

/-- Where a key may have begun. -/
structure PossibleKey where
  /-- How many tokens come before it. -/
  before : Nat
  line : Nat
  column : Nat
  /-- Can nothing but a key stand there? -/
  required : Bool

/-- A text of which a part has become tokens. -/
structure Scanner where
  place : Place
  /-- The tokens, the last one first. -/
  tokens : List Token := []
  count : Nat := 0
  /-- The indentations of the open blocks, the innermost first. -/
  indents : List Nat := []
  /-- May a key begin here? -/
  keyAllowed : Bool := true
  key : Option PossibleKey := none
  /-- The possible keys outside each open bracket, the innermost first. -/
  outerKeys : List (Option PossibleKey) := []

namespace Scanner

/-- Stands the place within brackets? -/
def inFlow (s : Scanner) : Bool := !s.outerKeys.isEmpty

/-- The scanner with one more token. -/
def add (s : Scanner) (token : Token) : Scanner :=
  { s with tokens := token :: s.tokens, count := s.count + 1 }

/-- The scanner with tokens put in before the last ones, so that `before` come before them. -/
def insert (s : Scanner) (before : Nat) (tokens : List Token) : Scanner :=
  let (later, earlier) := s.tokens.splitAt (s.count - before)
  { s with
    tokens := later ++ tokens.reverse ++ earlier
    count := s.count + tokens.length }

/-- Takes a token of `length` characters that stands at the place. -/
def take (s : Scanner) (token : Token) (length : Nat) : Scanner :=
  { s.add token with place := s.place.skip length }

/-- Forgets the possible key; none if it had to be one. -/
def dropKey? (s : Scanner) : Option Scanner :=
  if s.key.any PossibleKey.required then none else some { s with key := none }

/-- Notes that a key may begin here. -/
def saveKey? (s : Scanner) : Option Scanner :=
  if s.keyAllowed then do
    -- What stands at the indentation of a block is a key of it, or nothing that fits.
    let required := !s.inFlow && s.indents.head? == some s.place.column
    let s ← s.dropKey?
    return { s with key := some ⟨s.count, s.place.line, s.place.column, required⟩ }
  else some s

/-- How long a key may be. -/
def maxKeyLength : Nat := 1024

/-- Is a possible key still one at this place? -/
def isFresh (p : Place) (key : PossibleKey) : Bool :=
  key.line = p.line && p.column ≤ key.column + maxKeyLength

/-- Forgets all possible keys that ended too long ago; none if one of them had to be one. -/
def dropStaleKeys? (s : Scanner) : Option Scanner :=
  let isStale (key : PossibleKey) : Bool := !isFresh s.place key
  if (s.key :: s.outerKeys).any fun key => key.any fun key => isStale key && key.required then
    none
  else
    let fresh (key : Option PossibleKey) := key.filter (isFresh s.place)
    some { s with key := fresh s.key, outerKeys := s.outerKeys.map fresh }

/-- Is the column deeper than the innermost block? -/
def isDeeper (s : Scanner) (column : Nat) : Bool := s.indents.head?.all (· < column)

/-- Opens a block at a column if that is deeper than the innermost one. -/
def openBlock (s : Scanner) (start : Token) : Scanner :=
  if s.inFlow || !s.isDeeper s.place.column then s
  else { s.add start with indents := s.place.column :: s.indents }

/-- Closes the blocks for which `closes` holds, from the innermost on. -/
def closeBlocks (s : Scanner) (closes : Nat → Bool) : Scanner :=
  if s.inFlow then s
  else
    let closed := s.indents.takeWhile closes
    { s with
      tokens := List.replicate closed.length .blockEnd ++ s.tokens
      count := s.count + closed.length
      indents := s.indents.drop closed.length }

/-- Makes the possible key a key: its token is put before it, and a mapping opened there if
it is deeper than the innermost block. -/
def insertKey (s : Scanner) (key : PossibleKey) : Scanner :=
  if !s.inFlow && s.isDeeper key.column then
    { s.insert key.before [.blockMappingStart, .key] with indents := key.column :: s.indents }
  else s.insert key.before [.key]

/-- Goes on to the next token, over blanks, comments and line breaks. Tabs count as blanks
where no key may begin. -/
def skipToToken (s : Scanner) : (rounds : Nat) → Scanner
  | 0 => s
  | rounds + 1 =>
    let p := s.place
    let p := if p.column = 0 ∧ p.rest.head? = some '\ufeff' then p.skip 1 else p
    let p := p.skipWhile fun c => c == ' ' || ((s.inFlow || !s.keyAllowed) && c == '\t')
    let p := p.skipComment
    match p.rest with
    | c :: _ =>
      if isBreak c then
        skipToToken { s with place := p.skipBreak, keyAllowed := s.keyAllowed || !s.inFlow } rounds
      else { s with place := p }
    | [] => { s with place := p }

/-! ### One token -/

/-- Takes a token at the start of a line that no block goes on over. -/
def takeEdge? (s : Scanner) (token : Token) (p : Place) : Option Scanner := do
  let s ← (s.closeBlocks fun _ => true).dropKey?
  return { s.add token with place := p, keyAllowed := false }

/-- Opens brackets. -/
def openFlow? (s : Scanner) (token : Token) : Option Scanner := do
  let s ← s.saveKey?
  return { s.take token 1 with
    key := none, outerKeys := s.key :: s.outerKeys, keyAllowed := true }

/-- Closes brackets. -/
def closeFlow? (s : Scanner) (token : Token) : Option Scanner := do
  let s ← s.dropKey?
  let s := { s.take token 1 with keyAllowed := false }
  match s.outerKeys with
  | key :: outerKeys => return { s with key := key, outerKeys := outerKeys }
  | [] => return s

/-- Takes the comma between two entries in brackets. -/
def takeFlowEntry? (s : Scanner) : Option Scanner := do
  return { (← s.dropKey?).take .flowEntry 1 with keyAllowed := true }

/-- Takes the hyphen before an item of a list. -/
def takeBlockEntry? (s : Scanner) : Option Scanner := do
  if !s.inFlow && !s.keyAllowed then none
  else
    let s ← (s.openBlock .blockSequenceStart).dropKey?
    return { s.take .blockEntry 1 with keyAllowed := true }

/-- Takes the question mark before a key. -/
def takeKey? (s : Scanner) : Option Scanner := do
  if !s.inFlow && !s.keyAllowed then none
  else
    let s ← (s.openBlock .blockMappingStart).dropKey?
    return { s.take .key 1 with keyAllowed := !s.inFlow }

/-- Takes the colon after a key. -/
def takeValue? (s : Scanner) : Option Scanner :=
  match s.key with
  | some key => some { (s.insertKey key).take .value 1 with key := none, keyAllowed := false }
  | none =>
    -- The key was written behind a question mark, or is missing.
    if !s.inFlow && !s.keyAllowed then none
    else some { (s.openBlock .blockMappingStart).take .value 1 with keyAllowed := !s.inFlow }

/-- Takes a token with which a key may begin. -/
def takeNode? (s : Scanner) (read? : Place → Option (Token × Place)) : Option Scanner := do
  let s ← s.saveKey?
  let (token, p) ← read? s.place
  return { s.add token with place := p, keyAllowed := false }

/-- Takes an anchor or an alias. -/
def takeNamed? (s : Scanner) (token : List Char → Token) : Option Scanner :=
  s.takeNode? fun p => (readAnchorName? (p.skip 1)).map fun (name, p) => (token name, p)

/-- Takes a tag. It ends at a blank or, within brackets, at a comma. -/
def takeTag? (s : Scanner) : Option Scanner :=
  s.takeNode? fun p => do
    let (name, p) ← readTagName? p
    if endsWord p.rest || (s.inFlow && p.rest.head? == some ',') then return (.tag name, p)
    else none

/-- Takes a quoted scalar. -/
def takeQuoted? (s : Scanner) (mark : Char) : Option Scanner :=
  s.takeNode? fun p => (readQuoted? mark p).map fun (text, p) => (.scalar text .quoted, p)

/-- The least indentation of what belongs to the innermost block. -/
def inner (s : Scanner) : Nat :=
  match s.indents with
  | [] => 0
  | indent :: _ => indent + 1

/-- Takes a block scalar. -/
def takeBlock? (s : Scanner) (folded : Bool) : Option Scanner := do
  let s ← s.dropKey?
  let (text, p) ← readBlock? folded s.inner s.place
  return { s.add (.scalar text (if folded then .folded else .literal)) with
    place := p, keyAllowed := true }

/-- Takes a bare scalar. -/
def takePlain? (s : Scanner) : Option Scanner := do
  let s ← s.saveKey?
  let read ← readPlain? s.inFlow s.inner s.place
  return { s.add (.scalar read.text .plain) with place := read.place, keyAllowed := read.broken }

/-- Can a bare scalar begin with these characters? -/
def beginsPlain (inFlow : Bool) (c : Char) (rest : List Char) : Bool :=
  if c = '-' then !rest.head?.any isBlank
  else if c = '?' ∨ c = ':' then !inFlow && !endsWord rest
  else !",[]\x7b\x7d#&*!|>'\"%@\x60".toList.contains c && !isBlank c && !isBreak c

/-- Takes the token that begins with these characters. -/
def takeNext? (s : Scanner) (c : Char) (rest : List Char) : Option Scanner :=
  let p := s.place
  let alone := endsWord rest
  if p.column = 0 ∧ c = '%' then do
    let s ← (s.closeBlocks fun _ => true).dropKey?
    let (token, p) ← readDirective? p
    return { s.add token with place := p, keyAllowed := false }
  else if p.hasIndicator Place.documentStart then s.takeEdge? .documentStart (p.skip 3)
  else if p.hasIndicator Place.documentEnd then s.takeEdge? .documentEnd (p.skip 3)
  else
    match c with
    | '[' => s.openFlow? .flowSequenceStart
    | '\x7b' => s.openFlow? .flowMappingStart
    | ']' => s.closeFlow? .flowSequenceEnd
    | '\x7d' => s.closeFlow? .flowMappingEnd
    | ',' => s.takeFlowEntry?
    | '*' => s.takeNamed? .alias
    | '&' => s.takeNamed? .anchor
    | '!' => s.takeTag?
    | '\'' => s.takeQuoted? c
    | '"' => s.takeQuoted? c
    | c =>
      if c = '-' ∧ alone then s.takeBlockEntry?
      else if c = '?' ∧ (s.inFlow ∨ alone) then s.takeKey?
      else if c = ':' ∧ (s.inFlow ∨ alone) then s.takeValue?
      else if c = '|' ∧ !s.inFlow then s.takeBlock? false
      else if c = '>' ∧ !s.inFlow then s.takeBlock? true
      else if beginsPlain s.inFlow c rest then s.takePlain?
      else none

/-- Reads all tokens. At the end every block is closed. -/
def finish? (s : Scanner) : (rounds : Nat) → Option (List Token)
  | 0 => none
  | rounds + 1 => do
    let s := s.skipToToken (s.place.rest.length + 1)
    let s ← s.dropStaleKeys?
    -- A token further left than a block ends the block.
    let s := s.closeBlocks fun indent => s.place.column < indent
    match s.place.rest with
    | [] =>
      let s ← (s.closeBlocks fun _ => true).dropKey?
      return s.tokens.reverse
    | c :: rest => (← s.takeNext? c rest).finish? rounds

end Scanner

/-- The tokens of a text. -/
def Token.ofChars? (text : List Char) : Option (List Token) :=
  if text.all isAllowed then
    let text := normalizeBreaks text
    Scanner.finish? { place := ⟨text, 0, 0⟩ } (text.length + 1)
  else none

end ColumnCast.Yaml
