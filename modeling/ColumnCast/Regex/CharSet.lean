import ColumnCast.Unicode.Folding
import ColumnCast.Unicode.Property
import ColumnCast.Unicode.Script
import ColumnCast.Text

/-!
# `ColumnCast.Regex.CharSet`: sets of characters

What one position of a regular expression matches: ranges, Unicode
tables and what the set operations make of them. `contains` decides
membership.
-/

set_option autoImplicit false

namespace ColumnCast.Regex

/-- A set of characters. -/
inductive CharSet
  | none
  | range (low high : Char)
  | table (ranges : Unicode.Ranges)
  /-- The Unicode property `White_Space`. -/
  | blank
  /-- The decimal digits of all scripts. -/
  | digit
  /-- The characters that words are made of. -/
  | word
  | union (a b : CharSet)
  | inter (a b : CharSet)
  | complement (a : CharSet)
  /-- The members of `a` and all letters alike to one but for case. -/
  | folded (a : CharSet)
  /-- The members of `a` and the ASCII letters alike to one but for case. -/
  | asciiFolded (a : CharSet)

namespace CharSet

/-- The ASCII letter of the other case; another character stays itself. -/
def swapCase (c : Char) : Char :=
  if c.isUpper then c.toLower else if c.isLower then c.toUpper else c

/-- Is the character in the set? -/
def contains : CharSet → Char → Bool
  | none, _ => false
  | range low high, c => low ≤ c && c ≤ high
  | table ranges, c => ranges.contains c
  | blank, c => Text.isBlank c
  | digit, c => Unicode.isDigit c
  | word, c => Unicode.isWord c
  | union a b, c => a.contains c || b.contains c
  | inter a b, c => a.contains c && b.contains c
  | complement a, c => !a.contains c
  | folded a, c => (Unicode.variants c).any fun v => a.contains v
  | asciiFolded a, c => a.contains c || a.contains (swapCase c)

/-- The set of one character. -/
def single (c : Char) : CharSet := range c c

/-- Every character. -/
def any : CharSet := complement none

/-- The members of either set but not of both. -/
def symmetricDifference (a b : CharSet) : CharSet :=
  union (inter a (complement b)) (inter (complement a) b)

/-- The union of sets. -/
def unions (sets : List CharSet) : CharSet := sets.foldr union none

/-- The union of ranges. -/
def ofRanges (ranges : List (Char × Char)) : CharSet :=
  unions (ranges.map fun (low, high) => range low high)

/-- The set or its complement. -/
def negatedIf (negated : Bool) (a : CharSet) : CharSet := if negated then complement a else a

/-! ### Named sets -/

/-- The ASCII digits. -/
def asciiDigit : CharSet := range '0' '9'

/-- The ASCII letters. -/
def asciiLetter : CharSet := ofRanges [('A', 'Z'), ('a', 'z')]

/-- The ASCII letters, digits and the underscore. -/
def asciiWord : CharSet := ofRanges [('0', '9'), ('A', 'Z'), ('_', '_'), ('a', 'z')]

/-- The ASCII blanks, line breaks and page breaks among them. -/
def asciiBlank : CharSet := ofRanges [('\t', '\r'), (' ', ' ')]

/-- The ASCII set of a name such as `alpha`. -/
def asciiClass? (name : String) : Option CharSet :=
  match name with
  | "alnum" => some (union asciiDigit asciiLetter)
  | "alpha" => some asciiLetter
  | "ascii" => some (range '\x00' '\x7f')
  | "blank" => some (ofRanges [('\t', '\t'), (' ', ' ')])
  | "cntrl" => some (ofRanges [('\x00', '\x1f'), ('\x7f', '\x7f')])
  | "digit" => some asciiDigit
  | "graph" => some (range '!' '~')
  | "lower" => some (range 'a' 'z')
  | "print" => some (range ' ' '~')
  | "punct" => some (ofRanges [('!', '/'), (':', '@'), ('[', '\x60'), ('\x7b', '~')])
  | "space" => some asciiBlank
  | "upper" => some (range 'A' 'Z')
  | "word" => some asciiWord
  | "xdigit" => some (ofRanges [('0', '9'), ('A', 'F'), ('a', 'f')])
  | _ => Option.none

/-- The union of tables. -/
def tables (sets : List Unicode.Ranges) : CharSet := unions (sets.map table)

/-- All assigned characters. -/
def assigned : CharSet := tables (Unicode.categories.map Prod.snd)

/-- The general category of a folded name. -/
def category? (name : String) : Option CharSet :=
  match name with
  | "any" => some any
  | "assigned" => some assigned
  | "ascii" => some (range '\x00' '\x7f')
  | "cn" | "unassigned" => some (complement assigned)
  | "c" | "other" =>
    some (union (complement assigned) (tables (["cc", "cf", "co"].map Unicode.category)))
  | _ =>
    match Unicode.categories.find? fun entry => entry.1.contains name with
    | some (_, ranges) => some (table ranges)
    | Option.none =>
      match Unicode.categoryGroups.find? fun entry => entry.1.contains name with
      | some (_, members) => some (tables (members.map Unicode.category))
      | Option.none => Option.none

/-- The script of a folded name. -/
def script? (name : String) : Option CharSet :=
  (Unicode.scripts.find? fun entry => entry.1.contains name).map fun entry => table entry.2

/-- The binary property of a folded name. -/
def property? (name : String) : Option CharSet :=
  (Unicode.property? name).map fun p => inter (tables p.sets) (complement (table p.without))

/-- A property name as it is compared: ASCII only, letters small, no blanks, underscores or
hyphens, and no `is` in front. -/
def foldedName (name : List Char) : String :=
  let isNamed := (name.take 2).map Char.toLower == ['i', 's']
  let letters := (if isNamed then name.drop 2 else name).filter fun c =>
    c.toNat < 128 && c != ' ' && c != '_' && c != '-'
  let folded := String.ofList (letters.map Char.toLower)
  if isNamed && folded == "c" then "isc" else folded

/-- The set of a name: a property, a category or a script. Where a category goes by the
name of a property, the category is meant. -/
def named? (name : List Char) : Option CharSet :=
  let name := foldedName name
  let properties :=
    if name == "cf" || name == "sc" || name == "lc" then Option.none else property? name
  properties <|> category? name <|> script? name

/-- The set of a property with a value. -/
def valued? (name value : List Char) : Option CharSet :=
  match foldedName name with
  | "gc" | "generalcategory" => category? (foldedName value)
  | "sc" | "script" | "scx" | "scriptextensions" => script? (foldedName value)
  | _ => Option.none

end CharSet

end ColumnCast.Regex
