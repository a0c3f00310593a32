import ColumnCast.Regex.CharSet

/-!
# `ColumnCast.Regex`: regular expressions and what they match

A `Regex` is matched at a `Cursor`, a place between two characters of a
text: it can look at what stands on both sides, so the tests for a line's
end or a word's edge are expressions like any other. `Regex.ends` is the
list of all places where a match from a given place can end, each place
once; there is no backtracking, and the time is polynomial in the text.

`Regex.isMatch` asks whether the expression matches some part of a text.
-/

set_option autoImplicit false

namespace ColumnCast

/-- A test of the place between two characters. -/
inductive Regex.Look
  | textStart
  | textEnd
  /-- After a line feed, or at the start of the text. -/
  | lineStart
  | lineEnd
  /-- Like `lineStart`, with a carriage return as a line break of its own or with its line
  feed. -/
  | anyLineStart
  | anyLineEnd
  /-- Between a word character and another; `ascii` words are made of ASCII alone. -/
  | wordEdge (ascii : Bool)
  | noWordEdge (ascii : Bool)
  | wordStart (ascii : Bool)
  | wordEnd (ascii : Bool)
  /-- No word character before. -/
  | afterNoWord (ascii : Bool)
  /-- No word character behind. -/
  | beforeNoWord (ascii : Bool)
  deriving DecidableEq, Repr

/-- A regular expression. -/
inductive Regex
  | empty
  | one (set : Regex.CharSet)
  | look (test : Regex.Look)
  | seq (first second : Regex)
  | alt (left right : Regex)
  /-- From `least` up to `most` matches in a row, without end if `most` is none. -/
  | rep (body : Regex) (least : Nat) (most : Option Nat)

namespace Regex

/-! ### Places in a text -/

/-- A place in a text: how far from the start, the character before, and the text behind. -/
structure Cursor where
  position : Nat
  before : Option Char
  rest : List Char
  deriving DecidableEq, Repr

namespace Cursor

/-- The place before the first character. -/
def start (text : List Char) : Cursor := ⟨0, none, text⟩

/-- The places from this one to the end of the text. -/
def onward (position : Nat) (before : Option Char) : List Char → List Cursor
  | [] => [⟨position, before, []⟩]
  | c :: rest => ⟨position, before, c :: rest⟩ :: onward (position + 1) (some c) rest

/-- All places of a text. -/
def all (text : List Char) : List Cursor := onward 0 none text

/-- Puts `c` in front unless its position is there already. -/
def insert (c : Cursor) (cs : List Cursor) : List Cursor :=
  if cs.any fun d => d.position == c.position then cs else c :: cs

/-- The places, each position once. -/
def distinct (cs : List Cursor) : List Cursor := cs.foldr insert []

end Cursor

/-! ### Tests -/

/-- Is the character part of a word? -/
def isWordChar (ascii : Bool) (c : Option Char) : Bool :=
  match c with
  | none => false
  | some c => if ascii then CharSet.asciiWord.contains c else Unicode.isWord c

/-- Does the test hold between the two characters? -/
def Look.holds (test : Look) (before behind : Option Char) : Bool :=
  match test with
  | textStart => before.isNone
  | textEnd => behind.isNone
  | lineStart => before.isNone || before == some '\n'
  | lineEnd => behind.isNone || behind == some '\n'
  | anyLineStart =>
    before.isNone || before == some '\n' || (before == some '\r' && behind != some '\n')
  | anyLineEnd =>
    behind.isNone || behind == some '\r' || (behind == some '\n' && before != some '\r')
  | wordEdge ascii => isWordChar ascii before != isWordChar ascii behind
  | noWordEdge ascii => isWordChar ascii before == isWordChar ascii behind
  | wordStart ascii => !isWordChar ascii before && isWordChar ascii behind
  | wordEnd ascii => isWordChar ascii before && !isWordChar ascii behind
  | afterNoWord ascii => !isWordChar ascii before
  | beforeNoWord ascii => !isWordChar ascii behind

/-! ### Matching -/

/-- Where `count` steps in a row lead. -/
def repeatStep (step : List Cursor → List Cursor) : (count : Nat) → List Cursor → List Cursor
  | 0, cs => cs
  | count + 1, cs => if cs.isEmpty then [] else repeatStep step count (step cs)

/-- Where up to `count` further steps from the newest of the places `seen` lead, along with
`seen`. -/
def spread (step : List Cursor → List Cursor) :
    (count : Nat) → (seen newest : List Cursor) → List Cursor
  | 0, seen, _ => seen
  | count + 1, seen, newest =>
    if newest.isEmpty then seen
    else
      let fresh := (step newest).filter fun c => !seen.any fun d => d.position == c.position
      spread step count (seen ++ fresh) fresh

/-- The places where a match from this place can end. A loop without end needs no more
rounds than there are places ahead, for a round that reaches no new place adds nothing. -/
def ends : Regex → Cursor → List Cursor
  | empty, c => [c]
  | one set, c =>
    match c.rest with
    | [] => []
    | x :: rest => if set.contains x then [⟨c.position + 1, some x, rest⟩] else []
  | look test, c => if test.holds c.before c.rest.head? then [c] else []
  | seq first second, c => Cursor.distinct ((first.ends c).flatMap second.ends)
  | alt left right, c => Cursor.distinct (left.ends c ++ right.ends c)
  | rep body least most, c =>
    let step := fun cs => Cursor.distinct (cs.flatMap body.ends)
    let reached := repeatStep step least [c]
    let rounds := match most with
      | some most => min (most - least) (c.rest.length + 1)
      | none => c.rest.length + 1
    spread step rounds reached reached

/-- Does the expression match some part of the text? -/
def isMatch (r : Regex) (text : String) : Bool :=
  (Cursor.all text.toList).any fun c => !(r.ends c).isEmpty

/-! ### Building expressions -/

/-- The expressions one after another. -/
def seqs : List Regex → Regex
  | [] => empty
  | [r] => r
  | r :: rest => seq r (seqs rest)

/-- Any one of the expressions. -/
def alts : List Regex → Regex
  | [] => empty
  | [r] => r
  | r :: rest => alt r (alts rest)

end Regex

end ColumnCast
