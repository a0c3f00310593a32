import ColumnCast.Regex.Size

/-!
# `ColumnCast.Regex.Reader`: regular expressions from text

The grammar of recognizers: alternation, concatenation, `?`, `*`, `+` and
counted repetition, groups with names and flags, bracketed classes with
nesting and set operations, and escapes. There are no back references
and no look-around. `Regex.ofChars?` answers none for a text outside the
grammar. `Regex.read?` refuses besides what is nested deeper than 250
levels or would make an automaton of more than ten mebibytes.

The reader is a machine over the text with a stack of open groups, and a
second one with a stack of open brackets. Both take at least one
character a round, so the length of the text bounds their rounds.
-/

set_option autoImplicit false

namespace ColumnCast.Regex

/-! ### Flags and blanks -/

/-- How the text that follows is to be read. -/
structure Flags where
  caseless : Bool := false
  multiLine : Bool := false
  dotAll : Bool := false
  unicode : Bool := true
  /-- Blanks and comments between the parts of an expression mean nothing. -/
  spaced : Bool := false
  crlf : Bool := false
  deriving DecidableEq

/-- The text behind blanks and comments; a comment runs from `#` to the end of its line. -/
def skipSpace (inComment : Bool) : List Char → List Char
  | [] => []
  | c :: rest =>
    if inComment then skipSpace (c != '\n') rest
    else if Text.isBlank c then skipSpace false rest
    else if c = '#' then skipSpace true rest
    else c :: rest

namespace Flags

/-- The text from the next character that counts. -/
def skip (flags : Flags) (text : List Char) : List Char :=
  if flags.spaced then skipSpace false text else text

/-- The flags with one switched. -/
def switch (flags : Flags) (letter : Char) (on : Bool) : Flags :=
  match letter with
  | 'i' => { flags with caseless := on }
  | 'm' => { flags with multiLine := on }
  | 's' => { flags with dotAll := on }
  | 'u' => { flags with unicode := on }
  | 'x' => { flags with spaced := on }
  | 'R' => { flags with crlf := on }
  | _ => flags

/-- The set with the letters of the other case, where case means nothing. -/
def foldSet (flags : Flags) (set : CharSet) : CharSet :=
  if flags.caseless then (if flags.unicode then .folded set else .asciiFolded set) else set

/-- The set, unless characters beyond ASCII are in it that must not be. -/
def admit? (flags : Flags) (set : CharSet) : Option CharSet :=
  if !flags.unicode && set.contains '\u0080' then none else some set

/-- What a character that stands for itself matches. -/
def literal? (flags : Flags) (c : Char) : Option Regex :=
  if !flags.caseless then some (one (.single c))
  else if flags.unicode || c.toNat < 128 then some (one (flags.foldSet (.single c)))
  else none

/-- What a point matches. -/
def dot? (flags : Flags) : Option Regex :=
  if !flags.unicode then none
  else if flags.dotAll then some (one .any)
  else if flags.crlf then some (one (.complement (.ofRanges [('\n', '\n'), ('\r', '\r')])))
  else some (one (.complement (.single '\n')))

/-- What a caret tests. -/
def caret (flags : Flags) : Look :=
  if flags.multiLine then (if flags.crlf then .anyLineStart else .lineStart) else .textStart

/-- What a dollar sign tests. -/
def dollar (flags : Flags) : Look :=
  if flags.multiLine then (if flags.crlf then .anyLineEnd else .lineEnd) else .textEnd

end Flags

/-! ### Escapes -/

/-- What a backslash and what follows it stand for. -/
inductive Escape
  /-- One character; `byte` if it was written as two hexadecimal digits. -/
  | char (c : Char) (byte : Bool)
  | set (s : CharSet)
  | look (test : Look)

/-- Is the character a hexadecimal digit? -/
def isHexDigit (c : Char) : Bool :=
  c.isDigit || ('a' ≤ c && c ≤ 'f') || ('A' ≤ c && c ≤ 'F')

/-- The character of a code in hexadecimal digits. -/
def charOfHex? (digits : List Char) : Option Char :=
  let code := Unicode.hexValue digits
  if code.isValidChar then some (Char.ofNat code) else none

/-- Exactly `count` hexadecimal digits, put behind those in `found`. -/
def readHexDigits (flags : Flags) (found : List Char) :
    (count : Nat) → List Char → Option (List Char × List Char)
  | 0, text => some (found, text)
  | count + 1, text =>
    match flags.skip text with
    | [] => none
    | c :: rest =>
      if isHexDigit c then readHexDigits flags (found ++ [c]) count rest else none

/-- The characters before the closing brace, without those that count for nothing. -/
def readBraced (flags : Flags) : (rounds : Nat) → List Char → Option (List Char × List Char)
  | 0, _ => none
  | rounds + 1, text =>
    match flags.skip text with
    | [] => none
    | '\x7d' :: rest => some ([], rest)
    | c :: rest => (readBraced flags rounds rest).map fun (more, rest) => (c :: more, rest)

/-- The code of a character in hexadecimal: in braces, or in exactly `count` digits. -/
def readHex? (flags : Flags) (count : Nat) (text : List Char) : Option (Escape × List Char) :=
  match flags.skip text with
  | [] => none
  | '\x7b' :: rest => do
    let (digits, rest) ← readBraced flags rest.length.succ rest
    if digits.isEmpty || !digits.all isHexDigit then none
    else return (.char (← charOfHex? digits) false, rest)
  | text => do
    let (digits, rest) ← readHexDigits flags [] count text
    return (.char (← charOfHex? digits) (count == 2), rest)

/-- Splits a property and its value at the first mark between them. -/
def splitValue? (name : List Char) : Option (List Char × List Char) :=
  let beforeMark := fun (mark : List Char) =>
    (List.range name.length).find? fun i => mark.isPrefixOf (name.drop i)
  match beforeMark ['!', '='], beforeMark [':'], beforeMark ['='] with
  | some i, _, _ => some (name.take i, name.drop (i + 2))
  | none, some i, _ => some (name.take i, name.drop (i + 1))
  | none, none, some i => some (name.take i, name.drop (i + 1))
  | none, none, none => none

/-- The set of a property named by one letter or in braces. -/
def readProperty? (flags : Flags) (negated : Bool) (text : List Char) :
    Option (Escape × List Char) := do
  let (set, rest) ← match flags.skip text with
    | [] => none
    | '\x7b' :: rest => do
      let (name, rest) ← readBraced flags rest.length.succ rest
      let set ← match splitValue? name with
        | some (property, value) => CharSet.valued? property value
        | none => CharSet.named? name
      some (set, rest)
    | c :: rest => do
      if c = '\\' then none
      else some (← CharSet.named? [c], rest)
  if flags.unicode then some (.set (.negatedIf negated (flags.foldSet set)), rest) else none

/-- The edges of words by name. -/
def namedEdge? (name : List Char) (ascii : Bool) : Option Look :=
  if name = "start".toList then some (.wordStart ascii)
  else if name = "end".toList then some (.wordEnd ascii)
  else if name = "start-half".toList then some (.afterNoWord ascii)
  else if name = "end-half".toList then some (.beforeNoWord ascii)
  else none

/-- A word's edge, with the name in braces that may follow. Braces that begin with neither a
letter nor a hyphen are left to be read as a count. -/
def readEdge? (flags : Flags) (text : List Char) : Option (Escape × List Char) :=
  let ascii := !flags.unicode
  let isNameChar := fun (c : Char) => c.isAlpha || c == '-'
  match text with
  | '\x7b' :: rest =>
    match flags.skip rest with
    | [] => none
    | c :: _ =>
      if isNameChar c then do
        let (name, rest) ← readBraced flags rest.length.succ rest
        return (.look (← namedEdge? name ascii), rest)
      else some (.look (.wordEdge ascii), text)
  | _ => some (.look (.wordEdge ascii), text)

/-- The set of a letter such as `d`, large for the complement. -/
def letterSet? (flags : Flags) (c : Char) : Option CharSet :=
  let pick := fun (wide ascii : CharSet) => if flags.unicode then wide else ascii
  match c.toLower with
  | 'd' => some (.negatedIf c.isUpper (pick .digit .asciiDigit))
  | 's' => some (.negatedIf c.isUpper (pick .blank .asciiBlank))
  | 'w' => some (.negatedIf c.isUpper (pick .word .asciiWord))
  | _ => none

/-- The control character of a letter. -/
def control? (c : Char) : Option Char :=
  match c with
  | 'a' => some '\x07'
  | 'f' => some '\x0c'
  | 't' => some '\t'
  | 'n' => some '\n'
  | 'r' => some '\r'
  | 'v' => some '\x0b'
  | _ => none

/-- Reads what follows a backslash. -/
def readEscape? (flags : Flags) (text : List Char) : Option (Escape × List Char) :=
  match text with
  | [] => none
  | 'x' :: rest => readHex? flags 2 rest
  | 'u' :: rest => readHex? flags 4 rest
  | 'U' :: rest => readHex? flags 8 rest
  | 'p' :: rest => readProperty? flags false rest
  | 'P' :: rest => readProperty? flags true rest
  | 'A' :: rest => some (.look .textStart, rest)
  | 'z' :: rest => some (.look .textEnd, rest)
  | 'b' :: rest => readEdge? flags rest
  | 'B' :: rest => some (.look (.noWordEdge (!flags.unicode)), rest)
  | '<' :: rest => some (.look (.wordStart (!flags.unicode)), rest)
  | '>' :: rest => some (.look (.wordEnd (!flags.unicode)), rest)
  | c :: rest =>
    match letterSet? flags c, control? c with
    | some set, _ => some (.set set, rest)
    | none, some control => some (.char control false, rest)
    | none, none =>
      if c.toNat < 128 && !c.isAlphanum then some (.char c false, rest) else none

/-! ### Bracketed classes -/

/-- A set operation between the parts of a class. -/
inductive SetOp
  | inter
  | difference
  | symmetricDifference

/-- The set that an operation makes of two. -/
def SetOp.apply : SetOp → CharSet → CharSet → CharSet
  | inter, a, b => .inter a b
  | difference, a, b => .inter a (.complement b)
  | symmetricDifference, a, b => .symmetricDifference a b

/-- An open bracket: the members so far, and the operation they are the right side of. -/
structure OpenClass where
  negated : Bool
  members : List CharSet
  pending : Option (SetOp × CharSet) := none

namespace OpenClass

/-- The set so far, with the pending operation done. -/
def current (frame : OpenClass) (flags : Flags) : CharSet :=
  match frame.pending with
  | none => .unions frame.members
  | some (op, left) => op.apply (flags.foldSet left) (flags.foldSet (.unions frame.members))

/-- The set of the whole bracket. -/
def close (frame : OpenClass) (flags : Flags) : CharSet :=
  .negatedIf frame.negated (flags.foldSet (frame.current flags))

/-- The bracket with one more member. -/
def add (frame : OpenClass) (set : CharSet) : OpenClass :=
  { frame with members := set :: frame.members }

/-- The bracket after an operator: what stands before it becomes the left side. -/
def operate (frame : OpenClass) (flags : Flags) (op : SetOp) : OpenClass :=
  { frame with members := [], pending := some (op, frame.current flags) }

end OpenClass

/-- Takes the hyphens that stand first in a class; they stand for themselves. -/
def leadingHyphens (flags : Flags) (frame : OpenClass) :
    (rounds : Nat) → List Char → OpenClass × List Char
  | 0, text => (frame, text)
  | rounds + 1, text =>
    match text with
    | '-' :: rest => leadingHyphens flags (frame.add (.single '-')) rounds (flags.skip rest)
    | _ => (frame, text)

/-- Reads the beginning of a class, behind its bracket and a caret. A closing bracket that
stands first stands for itself. -/
def openMembers? (flags : Flags) (negated : Bool) (text : List Char) :
    Option (OpenClass × List Char) :=
  let (frame, text) := leadingHyphens flags ⟨negated, [], none⟩ text.length text
  match text with
  | [] => none
  | ']' :: rest =>
    if frame.members.isEmpty then
      let rest := flags.skip rest
      if rest.isEmpty then none else some (frame.add (.single ']'), rest)
    else some (frame, text)
  | _ => some (frame, text)

/-- Reads the beginning of a class, behind its bracket. -/
def openClass? (flags : Flags) (text : List Char) : Option (OpenClass × List Char) :=
  match flags.skip text with
  | '^' :: rest => openMembers? flags true (flags.skip rest)
  | text => openMembers? flags false text

/-- The set of a named ASCII class, from its name on. -/
def asciiClassName? (negated : Bool) (text : List Char) : Option (CharSet × List Char) :=
  let name := text.takeWhile (· != ':')
  match text.drop name.length with
  | ':' :: ']' :: rest =>
    (CharSet.asciiClass? (String.ofList name)).map fun set => (.negatedIf negated set, rest)
  | _ => none

/-- The set of a named ASCII class, behind its opening bracket. -/
def readAsciiClass? (text : List Char) : Option (CharSet × List Char) :=
  match text with
  | ':' :: '^' :: rest => asciiClassName? true rest
  | ':' :: rest => asciiClassName? false rest
  | _ => none

/-- One item of a class: a character or an escape. -/
def readClassItem? (flags : Flags) (text : List Char) : Option (Escape × List Char) :=
  match text with
  | [] => none
  | '\\' :: rest => readEscape? flags rest
  | c :: rest => some (.char c false, rest)

/-- An item as a character, where one is needed. -/
def itemChar? (flags : Flags) : Escape → Option Char
  | .char c _ => if flags.unicode || c.toNat < 128 then some c else none
  | _ => none

/-- An item as a set. -/
def itemSet? (flags : Flags) (item : Escape) : Option CharSet :=
  match item with
  | .set s => some s
  | .char _ _ => (itemChar? flags item).map .single
  | .look _ => none

/-- Reads an item, or a range between two. -/
def readClassRange? (flags : Flags) (text : List Char) : Option (CharSet × List Char) := do
  let (first, rest) ← readClassItem? flags text
  match flags.skip rest with
  | [] => none
  | '-' :: behind =>
    match flags.skip behind with
    | [] => none
    | c :: more =>
      if c = ']' ∨ c = '-' then return (← itemSet? flags first, '-' :: behind)
      else do
        let (last, rest) ← readClassItem? flags (c :: more)
        let low ← itemChar? flags first
        let high ← itemChar? flags last
        if low ≤ high then return (.range low high, rest) else none
  | rest => return (← itemSet? flags first, rest)

/-- Reads a class to its closing bracket. -/
def readClass? (flags : Flags) (frame : OpenClass) (outer : List OpenClass) :
    (rounds : Nat) → List Char → Option (CharSet × List Char)
  | 0, _ => none
  | rounds + 1, text =>
    match flags.skip text with
    | [] => none
    | '[' :: rest =>
      match readAsciiClass? rest with
      | some (set, rest) => readClass? flags (frame.add set) outer rounds rest
      | none =>
        match openClass? flags rest with
        | some (inner, rest) => readClass? flags inner (frame :: outer) rounds rest
        | none => none
    | ']' :: rest =>
      match outer with
      | [] => some (frame.close flags, rest)
      | parent :: outer => readClass? flags (parent.add (frame.close flags)) outer rounds rest
    | '&' :: '&' :: rest => readClass? flags (frame.operate flags .inter) outer rounds rest
    | '-' :: '-' :: rest => readClass? flags (frame.operate flags .difference) outer rounds rest
    | '~' :: '~' :: rest =>
      readClass? flags (frame.operate flags .symmetricDifference) outer rounds rest
    | text =>
      match readClassRange? flags text with
      | some (set, rest) => readClass? flags (frame.add set) outer rounds rest
      | none => none

/-! ### Repetition -/

/-- A number with any blanks around it; none for no digits or beyond 32 bits. The second
component is the text behind it. -/
def readCount (flags : Flags) (text : List Char) : Option Nat × List Char :=
  let text := text.dropWhile Text.isBlank
  let rec digits (found : List Char) : (rounds : Nat) → List Char → List Char × List Char
    | 0, text => (found, text)
    | rounds + 1, text =>
      match text with
      | c :: rest =>
        if c.isDigit then digits (found ++ [c]) rounds (flags.skip rest) else (found, text)
      | [] => (found, [])
  let (found, rest) := digits [] text.length text
  let number := Text.digitsValue found
  (if found.isEmpty || number ≥ 4294967296 then none else some number, rest.dropWhile Text.isBlank)

/-- The upper bound of a counted repetition and its closing brace. -/
def readMost? (flags : Flags) (least : Nat) (text : List Char) :
    Option ((Nat × Option Nat) × List Char) := do
  let (most, rest) := readCount flags text
  let most ← most
  match rest with
  | '\x7d' :: rest => if least ≤ most then return ((least, some most), rest) else none
  | _ => none

/-- The bounds of a counted repetition, behind its opening brace. -/
def readBounds? (flags : Flags) (text : List Char) :
    Option ((Nat × Option Nat) × List Char) := do
  let (least, rest) := readCount flags (flags.skip text)
  let least ← least
  match rest with
  | ',' :: rest =>
    match flags.skip rest with
    | '\x7d' :: rest => return ((least, none), rest)
    | rest => readMost? flags least rest
  | '\x7d' :: rest => return ((least, some least), rest)
  | _ => none

/-- The text behind the question mark that makes a repetition reluctant. Which of several
matches is found does not matter here. -/
def skipReluctant (text : List Char) : List Char :=
  match text with
  | '?' :: rest => rest
  | _ => text

/-- The same behind a counted repetition, where the question mark may stand apart. -/
def skipReluctantApart (flags : Flags) (text : List Char) : List Char :=
  match flags.skip text with
  | '?' :: rest => rest
  | _ => text

/-! ### Groups -/

/-- What stands behind the opening of a group. -/
inductive GroupOpening
  /-- Flags for the rest of the enclosing group. -/
  | switch (flags : Flags)
  /-- A group that begins with these flags. -/
  | group (flags : Flags) (name : Option (List Char))

/-- The flags after the letters of a group, up to the colon or parenthesis that ends them. -/
def readFlags? (flags : Flags) (seen : List Char) (on afterHyphen : Bool) :
    List Char → Option (Flags × List Char)
  | [] => none
  | c :: rest =>
    if c = ':' ∨ c = ')' then if afterHyphen then none else some (flags, c :: rest)
    else if seen.contains c then none
    else if c = '-' then readFlags? flags (c :: seen) false true rest
    else if "imsUuRx".toList.contains c then
      readFlags? (flags.switch c on) (c :: seen) on false rest
    else none

/-- May the character stand in the name of a group? -/
def isGroupNameChar (first : Bool) (c : Char) : Bool :=
  c == '_' || (if first then Unicode.isAlphabetic c
    else c == '.' || c == '[' || c == ']' || Unicode.isAlphanumeric c)

/-- The name of a group, up to its closing mark. -/
def readGroupName? (text : List Char) : Option (List Char × List Char) :=
  let name := text.takeWhile (· != '>')
  match text.drop name.length, name with
  | '>' :: rest, first :: more =>
    if isGroupNameChar true first && more.all (isGroupNameChar false) then some (name, rest)
    else none
  | _, _ => none

/-- Reads the name of a group, which no other group may have. -/
def openNamed? (flags : Flags) (names : List (List Char)) (text : List Char) :
    Option (GroupOpening × List Char) := do
  let (name, rest) ← readGroupName? text
  if names.contains name then none else return (.group flags (some name), rest)

/-- Reads the flags of a group without a name, or flags that stand alone. -/
def openFlagged? (flags : Flags) (text : List Char) : Option (GroupOpening × List Char) := do
  let (inner, behind) ← readFlags? flags [] true false text
  match behind with
  | ':' :: body => return (.group inner none, body)
  | ')' :: body => if body.head? == some ')' then none else return (.switch inner, body)
  | _ => none

/-- Reads what stands behind an opening parenthesis, up to the body of the group. -/
def readOpening? (flags : Flags) (names : List (List Char)) (text : List Char) :
    Option (GroupOpening × List Char) :=
  match flags.skip text with
  | '?' :: 'P' :: '<' :: rest => openNamed? flags names rest
  | '?' :: '<' :: rest => openNamed? flags names rest
  | '?' :: rest => openFlagged? flags rest
  | text => some (.group flags none, text)

/-! ### The machine -/

/-- An expression with the depth to which groups, repetitions, concatenations and
alternations are nested in it. -/
structure Nested where
  regex : Regex
  depth : Nat := 0

namespace Nested

/-- Several expressions put together by `combine`; a single one stays what it is. -/
def join (combine : List Regex → Regex) (parts : List Nested) : Nested :=
  let depth := (parts.map depth).foldl max 0
  ⟨combine (parts.map regex), if parts.length ≤ 1 then depth else depth + 1⟩

/-- The depth that an expression may have. -/
def depthLimit : Nat := 250

end Nested

/-- A part of a concatenation. -/
inductive Piece
  | regex (part : Nested)
  /-- A change of flags, which nothing can repeat. -/
  | switch

/-- The expression of a part. -/
def Piece.toNested : Piece → Nested
  | regex part => part
  | switch => ⟨.empty, 0⟩

/-- An open group: the branches read, latest first, and the parts of the branch being read. -/
structure OpenGroup where
  flags : Flags
  branches : List Nested := []
  parts : List Piece := []

namespace OpenGroup

/-- The branch being read. -/
def branch (group : OpenGroup) : Nested :=
  Nested.join seqs (group.parts.reverse.map Piece.toNested)

/-- The expression of the group. -/
def close (group : OpenGroup) : Nested :=
  Nested.join alts (group.branch :: group.branches).reverse

/-- The group with one more part. -/
def add (group : OpenGroup) (part : Nested) : OpenGroup :=
  { group with parts := .regex part :: group.parts }

/-- The group with a closed group as one more part. -/
def addGroup (group inner : OpenGroup) : OpenGroup :=
  group.add ⟨inner.close.regex, inner.close.depth + 1⟩

/-- The group with its latest part repeated. -/
def repeatLast? (group : OpenGroup) (least : Nat) (most : Option Nat) : Option OpenGroup :=
  match group.parts with
  | .regex ⟨r, depth⟩ :: parts =>
    some { group with parts := .regex ⟨.rep r least most, depth + 1⟩ :: parts }
  | _ => none

end OpenGroup

/-- The part that an escape outside a class stands for. -/
def escapePart? (flags : Flags) : Escape → Option Regex
  | .char c byte =>
    if byte && !flags.unicode && c.toNat ≥ 128 then none else flags.literal? c
  | .set s => (flags.admit? s).map one
  | .look test => some (look test)

/-- Reads a single part: a class, an escape, a point, an anchor or a character. A class is
nested of its own. -/
def readPart? (flags : Flags) (c : Char) (rest : List Char) : Option (Nested × List Char) :=
  match c with
  | '[' => do
    let (frame, rest) ← openClass? flags rest
    let (set, rest) ← readClass? flags frame [] rest.length.succ rest
    return (⟨one (← flags.admit? set), 2⟩, rest)
  | '\\' => do
    let (escape, rest) ← readEscape? flags rest
    return (⟨← escapePart? flags escape, 0⟩, rest)
  | '.' => flags.dot?.map (⟨·, 0⟩, rest)
  | '^' => some (⟨look flags.caret, 0⟩, rest)
  | '$' => some (⟨look flags.dollar, 0⟩, rest)
  | c => (flags.literal? c).map (⟨·, 0⟩, rest)

/-- Reads an expression to the end of the text. -/
def readAll? (group : OpenGroup) (outer : List OpenGroup) (names : List (List Char)) :
    (rounds : Nat) → List Char → Option Nested
  | 0, _ => none
  | rounds + 1, text =>
    match group.flags.skip text with
    | [] => if outer.isEmpty then some group.close else none
    | '(' :: rest =>
      match readOpening? group.flags names rest with
      | some (.switch flags, rest) =>
        readAll? { group with flags := flags, parts := .switch :: group.parts } outer names
          rounds rest
      | some (.group flags name, rest) =>
        readAll? ⟨flags, [], []⟩ (group :: outer) (name.toList ++ names) rounds rest
      | none => none
    | ')' :: rest =>
      match outer with
      | [] => none
      | parent :: outer => readAll? (parent.addGroup group) outer names rounds rest
    | '|' :: rest =>
      readAll? { group with branches := group.branch :: group.branches, parts := [] } outer names
        rounds rest
    | '?' :: rest => do
      readAll? (← group.repeatLast? 0 (some 1)) outer names rounds (skipReluctant rest)
    | '*' :: rest => do
      readAll? (← group.repeatLast? 0 none) outer names rounds (skipReluctant rest)
    | '+' :: rest => do
      readAll? (← group.repeatLast? 1 none) outer names rounds (skipReluctant rest)
    | '\x7b' :: rest => do
      let ((least, most), rest) ← readBounds? group.flags rest
      readAll? (← group.repeatLast? least most) outer names rounds
        (skipReluctantApart group.flags rest)
    | c :: rest =>
      match readPart? group.flags c rest with
      | some (part, rest) => readAll? (group.add part) outer names rounds rest
      | none => none

theorem readAll?_end {group : OpenGroup} (plain : group.flags = {}) {names : List (List Char)}
    {rounds : Nat} : readAll? group [] names (rounds + 1) [] = some group.close := by
  rw [readAll?, plain]
  rfl

/-- The regular expression that the characters write. -/
def ofChars? (text : List Char) : Option Nested :=
  readAll? ⟨{}, [], []⟩ [] [] text.length.succ text

/-- Is the expression neither nested too deep nor too large? -/
def Nested.isWithinLimits (part : Nested) : Bool :=
  part.depth ≤ depthLimit && part.regex.isSmall

/-- The regular expression that the characters write, if it is within the limits. -/
def limitedOfChars? (text : List Char) : Option Regex :=
  ((ofChars? text).filter Nested.isWithinLimits).map Nested.regex

/-- The regular expression that a text writes, if it is within the limits. -/
def read? (text : String) : Option Regex := limitedOfChars? text.toList

end ColumnCast.Regex
