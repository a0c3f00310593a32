import ColumnCast.Regex.Reader
import ColumnCast.Text

/-!
# `ColumnCast.Log`: messages on the way

The log filter is a list of directives, each with a level and perhaps the
beginning of the names of the modules that it is for. Of the directives
for a module the one with the longest name decides. A filter can also hold
an expression that a message must match.
-/

set_option autoImplicit false

namespace ColumnCast.Log

/-- How much a message matters; the lower the more. -/
inductive Level
  | error
  | warn
  | info
  | debug
  | trace
  deriving DecidableEq, Repr

/-- The place of a level, from the one that matters most. -/
def Level.rank : Level → Nat
  | error => 1
  | warn => 2
  | info => 3
  | debug => 4
  | trace => 5

/-- The name of a level. -/
def Level.name : Level → String
  | error => "ERROR"
  | warn => "WARN"
  | info => "INFO"
  | debug => "DEBUG"
  | trace => "TRACE"

/-- A message of a module. -/
structure Entry where
  level : Level
  module : String
  message : String

/-- The lines of a message: its level, five characters wide, its module and its text. Lines
after the first are indented. -/
def Entry.line (entry : Entry) : String :=
  let level := entry.level.name
  let indented := entry.message.toList.flatMap fun c =>
    if c = '\n' then '\n' :: List.replicate 4 ' ' else [c]
  "[" ++ level ++ String.ofList (List.replicate (5 - level.length) ' ') ++ " " ++ entry.module
    ++ "] " ++ String.ofList indented ++ "\n"

/-- A part of a filter: up to which rank messages pass, by the beginning of the module name. -/
structure Directive where
  module : String
  rank : Nat
  deriving DecidableEq, Repr

/-- Which messages pass. -/
structure Filter where
  directives : List Directive := []
  /-- What the text of a message must match. -/
  pattern : Option Regex := none
  /-- What is wrong with the text of the filter. -/
  faults : List String := []

/-- The rank that a word names. -/
def rank? (word : String) : Option Nat :=
  match String.ofList (word.toList.map Char.toLower) with
  | "off" => some 0
  | "error" => some Level.error.rank
  | "warn" => some Level.warn.rank
  | "info" => some Level.info.rank
  | "debug" => some Level.debug.rank
  | "trace" => some Level.trace.rank
  | _ => none

namespace Filter

/-- The filter that lets errors pass. -/
def errorsOnly : List Directive := [⟨"", Level.error.rank⟩]

/-- Puts a directive into a list; one with the same module gives way. -/
def insert (directives : List Directive) (directive : Directive) : List Directive :=
  if directives.any fun other => other.module == directive.module then
    directives.map fun other => if other.module = directive.module then directive else other
  else directives ++ [directive]

/-- What is said of a part that is no directive. -/
def invalid (part : String) : String := "invalid logging spec '" ++ part ++ "'"

/-- The directive of a part such as `module=level`, `module` or `level`. -/
def directiveOf (part : String) : Except String Directive :=
  match (Text.splitOn '=' part.toList).map String.ofList with
  | [word] =>
    match rank? word with
    | some rank => .ok ⟨"", rank⟩
    | none => .ok ⟨word, Level.trace.rank⟩
  | [module, level] =>
    let level := Text.trim level
    if level.isEmpty then .ok ⟨module, Level.trace.rank⟩
    else
      match rank? level with
      | some rank => .ok ⟨module, rank⟩
      | none => .error (invalid level)
  | _ => .error (invalid part)

/-- Adds what a part of a filter text says. -/
def addPart (filter : Filter) (part : String) : Filter :=
  if part.isEmpty then filter
  else
    match directiveOf part with
    | .ok directive => { filter with directives := insert filter.directives directive }
    | .error fault => { filter with faults := filter.faults ++ [fault] }

/-- The filter of directives with commas between. Without any, errors pass. -/
def ofDirectives (text : List Char) : Filter :=
  let parts := (Text.splitOn ',' text).map fun part => Text.trim (String.ofList part)
  let filter := parts.foldl addPart {}
  if filter.directives.isEmpty then { filter with directives := errorsOnly } else filter

/-- The filter that a text writes: directives, and perhaps an expression after a slash. -/
def ofText (text : String) : Filter :=
  match Text.splitOn '/' text.toList with
  | [directives] => ofDirectives directives
  | [directives, pattern] =>
    { ofDirectives directives with pattern := Regex.limitedOfChars? pattern }
  | _ => { directives := errorsOnly, faults := [invalid text ++ " (too many '/'s)"] }

/-- Does the message pass? Of the directives for its module the last of the longest decides. -/
def passes (filter : Filter) (entry : Entry) : Bool :=
  let fitting := filter.directives.filter fun directive =>
    directive.module.toList.isPrefixOf entry.module.toList
  let longest := fitting.foldl
    (fun best directive =>
      match best with
      | some (other : Directive) =>
        if other.module.utf8ByteSize ≤ directive.module.utf8ByteSize then some directive else best
      | none => some directive)
    none
  longest.any (fun directive => entry.level.rank ≤ directive.rank)
    && filter.pattern.all fun pattern => pattern.isMatch entry.message

/-- The lines that warn of faults in the filter. -/
def warnings (filter : Filter) : String :=
  String.join (filter.faults.map fun fault => "warning: " ++ fault ++ ", ignoring it\n")

end Filter

end ColumnCast.Log
