import ColumnCast.Text
import ColumnCast.Yaml.Node

/-!
# `ColumnCast.Yaml.ScalarText`: the plainest text for a scalar

A string is written bare where that reads back as the same string, else
in single quotes, and with escapes in double quotes if it holds a
character that cannot be printed. What would be read as a number, a truth
value or nothing is quoted. Text of several lines becomes a literal block.
-/

set_option autoImplicit false

namespace ColumnCast.Yaml

/-! ### Words that are no strings -/

/-- The words for truth values. -/
def truthWords : List String := ["true", "True", "TRUE", "false", "False", "FALSE"]

/-- The words for numbers that are infinite or none. -/
def oddNumberWords : List String :=
  [".inf", ".Inf", ".INF", "+.inf", "+.Inf", "+.INF", "-.inf", "-.Inf", "-.INF", ".nan", ".NaN",
    ".NAN"]

/-- The text without one sign of the given ones. -/
def dropSign (signs : List Char) (text : List Char) : List Char :=
  match text with
  | c :: rest => if signs.contains c then rest else text
  | [] => []

/-- Is this one digit or more? -/
def isDigits (text : List Char) : Bool := !text.isEmpty && text.all Char.isDigit

/-- Are these the digits of a word of 128 bits, in base 16, 8 or 2 by their beginning? -/
def isBasedNumber (text : List Char) : Bool :=
  match text with
  | '-' :: '0' :: rest =>
    (countOfWord? ('0' :: rest)).any (· ≤ Nat.pow 2 127)
  | _ => (countOfWord? text).any (· < Nat.pow 2 128)

/-- What a float stays below: halfway from the greatest one to the next power of two. -/
def floatBound : Nat := Nat.pow 2 1024 - Nat.pow 2 970

/-- Is `digits * 10 ^ exponent` within the floats? -/
def isFloatSized (digits : List Char) (exponent : Int) : Bool :=
  let significant := digits.dropWhile (· == '0')
  let magnitude : Int := significant.length + exponent
  if significant.isEmpty || magnitude < 300 then true
  else if 320 < magnitude then false
  else
    Text.digitsValue significant * Nat.pow 10 exponent.toNat
      < floatBound * Nat.pow 10 (-exponent).toNat

/-- The number after the `e` of a float, if there is one. -/
def exponentOf? (text : List Char) : Option Int :=
  match text with
  | [] => some 0
  | c :: rest =>
    let digits := dropSign ['+', '-'] rest
    if (c = 'e' ∨ c = 'E') ∧ isDigits digits then
      let number : Int := Text.digitsValue digits
      some (if rest.head? = some '-' then -number else number)
    else none

/-- Is this the text of a float: digits with at most one point among them, a sign before or
not, and an exponent or not? -/
def isFloat (text : List Char) : Bool :=
  let unsigned := dropSign ['+', '-'] text
  let whole := unsigned.takeWhile Char.isDigit
  let rest := unsigned.dropWhile Char.isDigit
  let (fraction, rest) :=
    match rest with
    | '.' :: rest => (rest.takeWhile Char.isDigit, rest.dropWhile Char.isDigit)
    | _ => ([], rest)
  if whole.isEmpty && fraction.isEmpty then false
  else
    match exponentOf? rest with
    | some exponent => isFloatSized (whole ++ fraction) (exponent - fraction.length)
    | none => false

/-- Are these several digits behind a zero? Such a word is no number, but looks like one. -/
def isZeroLed (text : List Char) : Bool :=
  match dropSign ['+', '-'] text with
  | '0' :: rest => isDigits rest
  | _ => false

/-- Would the bare word be read as something other than a string? -/
def isReserved (text : String) : Bool :=
  text.isEmpty || nullWords.contains text || truthWords.contains text
    || oddNumberWords.contains text || isZeroLed text.toList || isBasedNumber text.toList
    || isFloat text.toList

/-! ### What the characters of a string allow -/

/-- Does a line end here, in any notation? -/
def isAnyBreak (c : Char) : Bool := isBreak c || c == '\r' || c == nextLine

/-- Can the character be written as it is? -/
def isPrintable (c : Char) : Bool :=
  c == '\n' || (' ' ≤ c && c ≤ '~') || ('\u00A0' ≤ c && c ≠ '\ufeff' && c ≤ '\ufffd')
    || '\uffff' < c

/-- Does one character with the first property stand right before one with the second? -/
def hasAdjacent (first second : Char → Bool) (text : List Char) : Bool :=
  (text.zip (text.drop 1)).any fun (a, b) => first a && second b

/-- Does the text end, or begin with a blank or a line break of any notation? -/
def endsAnyWord (text : List Char) : Bool :=
  match text with
  | [] => true
  | c :: _ => isBlank c || isAnyBreak c

/-- Stands there a colon before a blank, or a number sign after one? -/
def hasInnerMark : List Char → Bool
  | [] => false
  | c :: rest =>
    (c == ':' && endsAnyWord rest) || ((isBlank c || isAnyBreak c) && rest.head? == some '#')
      || hasInnerMark rest

/-- Would the first characters mean something in front of a bare word? -/
def beginsWithMark (text : List Char) : Bool :=
  match text with
  | [] => false
  | c :: rest =>
    "#,[]\x7b\x7d&*!|>'\"%@\x60".toList.contains c
      || ("?:-".toList.contains c && endsAnyWord rest)
      || "---".toList.isPrefixOf text || "...".toList.isPrefixOf text

/-- Can the string stand between quotes without escapes, or in a block? -/
def isQuotable (text : List Char) : Bool :=
  text.all isPrintable && !hasAdjacent (· == ' ') isAnyBreak text

/-- Can the string stand between single quotes? -/
def allowsSingle (text : List Char) : Bool :=
  isQuotable text && !hasAdjacent isAnyBreak (· == ' ') text

/-- Can the string stand as it is? -/
def allowsPlain (text : List Char) : Bool :=
  allowsSingle text && !text.any isAnyBreak && text.head? != some ' '
    && text.getLast? != some ' ' && !beginsWithMark text && !hasInnerMark text

/-- Can the string stand in a literal block? -/
def allowsLiteral (text : List Char) : Bool := isQuotable text && text.getLast? != some ' '

/-! ### Writing -/

/-- Blanks before a line. -/
def indentation (width : Nat) : List Char := List.replicate width ' '

/-- The lines of a text, each line that is not empty behind an indentation. `atStart` says
that nothing of the current line is written yet. -/
def indented (width : Nat) (atStart : Bool) : List Char → List Char
  | [] => []
  | c :: rest =>
    if isAnyBreak c then c :: indented width true rest
    else (if atStart then indentation width else []) ++ c :: indented width false rest

/-- A string in single quotes. Lines after the first are indented. -/
def singleQuoted (width : Nat) (text : List Char) : List Char :=
  let doubled := text.flatMap fun c => if c = '\'' then ['\'', '\''] else [c]
  '\'' :: indented width false (doubled ++ ['\''])

/-- A number in hexadecimal digits, padded with zeros to `width`. -/
def hexPadded (width number : Nat) : List Char :=
  let digits := (Nat.toDigits 16 number).map Char.toUpper
  List.replicate (width - digits.length) '0' ++ digits

/-- The character between double quotes. -/
def escapedChar (c : Char) : List Char :=
  let named (letter : Char) := ['\\', letter]
  match c with
  | '\x00' => named '0'
  | '\x07' => named 'a'
  | '\x08' => named 'b'
  | '\t' => named 't'
  | '\n' => named 'n'
  | '\x0B' => named 'v'
  | '\x0C' => named 'f'
  | '\r' => named 'r'
  | '\x1B' => named 'e'
  | '"' => named '"'
  | '\\' => named '\\'
  | '\u0085' => named 'N'
  | '\u2028' => named 'L'
  | '\u2029' => named 'P'
  | c =>
    if isPrintable c then [c]
    else if c.toNat ≤ 0xFF then '\\' :: 'x' :: hexPadded 2 c.toNat
    else if c.toNat ≤ 0xFFFF then '\\' :: 'u' :: hexPadded 4 c.toNat
    else '\\' :: 'U' :: hexPadded 8 c.toNat

/-- A string in double quotes. -/
def doubleQuoted (text : List Char) : List Char := '"' :: (text.flatMap escapedChar ++ ['"'])

/-- How many blanks an indentation takes. -/
def indentStep : Nat := 2

/-- The head of a literal block: its indentation if the text does not show it, and whether
the breaks at its end are none or several. -/
def literalHeader (text : List Char) : List Char :=
  let hint :=
    if text.head?.any fun c => c == ' ' || isAnyBreak c then (toString indentStep).toList else []
  let chomping :=
    match text.reverse with
    | last :: before =>
      if !isAnyBreak last then ['-']
      else if before.head?.all isAnyBreak then ['+']
      else []
    | [] => ['-']
  '|' :: (hint ++ chomping)

/-- A string as a literal block. -/
def literalBlock (width : Nat) (text : List Char) : List Char :=
  literalHeader text ++ '\n' :: indented width true text

/-- The text of a string; lines after its first are indented by `width`. -/
def scalarText (width : Nat) (string : String) : List Char :=
  let text := string.toList
  if text.contains '\n' then
    if allowsLiteral text then literalBlock width text else doubleQuoted text
  else if !isReserved string && allowsPlain text then text
  else if allowsSingle text then singleQuoted width text
  else doubleQuoted text

/-- The text with its last line ended. -/
def endLine (text : List Char) : List Char :=
  if text.getLast?.any isAnyBreak then text else text ++ ['\n']

/-- How many bytes the name of a field may have to stand before its colon. -/
def maxSimpleKey : Nat := 128

/-- Can the name of a field stand before its colon without more? -/
def isSimpleKey (string : String) : Bool :=
  !string.toList.any isAnyBreak && string.utf8ByteSize ≤ maxSimpleKey

end ColumnCast.Yaml
