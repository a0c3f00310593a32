import ColumnCast.Csv.Delimiter
import ColumnCast.Decimal.Text

/-!
# `ColumnCast.Cli.Arguments`: what the command line asks for

`Command.ofArguments?` reads the arguments of the program. An option is
given once, by its long name or by its letter, with its value behind it or
attached; what begins with a hyphen is never the value of the option
before it, but for the hyphen alone.
-/

set_option autoImplicit false

namespace ColumnCast.Cli

/-- What the program is to do. -/
inductive Command
  | compile (plan : String) (catalog : Option String) (statement : Bool)
  | exportText (plan : String)
  | preview (plan input : String) (rows : Nat) (delimiter : Option UInt8)
      (encoding catalog : Option String)
  | types
  | catalog (catalog : Option String)
  | version
  | help
  deriving DecidableEq, Repr

/-- What an option of a command takes. -/
inductive Argument
  /-- No value. -/
  | flag
  /-- A path, which is not empty. -/
  | path
  /-- A number. -/
  | count
  | delimiter
  | text
  deriving DecidableEq, Repr

/-- An option of a command. -/
structure Flag where
  name : String
  letter : Option Char := none
  argument : Argument

/-- What numbers stay below: two to the 64th power. -/
def countBound : Nat := 18446744073709551616

/-- Is this a value that the option takes? -/
def Argument.accepts (argument : Argument) (value : String) : Bool :=
  match argument with
  | flag => false
  | path => !value.isEmpty
  | count => (Decimal.readCount? value.toList).any (· < countBound)
  | delimiter => (Csv.Delimiter.ofText value).isOk
  | text => true

/-- Options with their values; a flag has an empty value. -/
abbrev Values := List (String × String)

/-- Options that have been read, or the wish for help. -/
inductive Reading
  | values (found : Values)
  | help

/-- The letter that asks for help. -/
def helpLetter : Char := 'h'

/-- The name of the option that asks for help. -/
def helpName : String := "help"

/-- Adds an option with its value, if it takes the value and has none yet. -/
def addValue? (found : Values) (option : Flag) (value : String) : Option Values :=
  if (found.lookup option.name).isSome || !option.argument.accepts value then none
  else some (found ++ [(option.name, value)])

/-- Reads options of a command. -/
def readOptions? (options : List Flag) (found : Values) : List String → Option Reading
  | [] => some (.values found)
  | argument :: rest =>
    match argument.toList with
    | ['-', '-'] => if rest.isEmpty then some (.values found) else none
    | '-' :: '-' :: long =>
      let name := long.takeWhile (· != '=')
      let attached := long.drop (name.length + 1)
      let name := String.ofList name
      let hasValue := name.length < long.length
      if name = helpName then if hasValue then none else some .help
      else
        match options.find? fun option => option.name == name with
        | none => none
        | some option =>
          if option.argument = .flag then
            if hasValue || (found.lookup option.name).isSome then none
            else readOptions? options (found ++ [(option.name, "")]) rest
          else if hasValue then do
            readOptions? options (← addValue? found option (String.ofList attached)) rest
          else
            match rest with
            | value :: rest =>
              if value.startsWith "-" && value != "-" then none
              else do readOptions? options (← addValue? found option value) rest
            | [] => none
    | '-' :: letter :: attached =>
      if letter = helpLetter then some .help
      else
        match options.find? fun option => option.letter == some letter with
        | none => none
        | some option =>
          match attached, rest with
          | '=' :: value, rest => do
            readOptions? options (← addValue? found option (String.ofList value)) rest
          | c :: value, rest => do
            readOptions? options (← addValue? found option (String.ofList (c :: value))) rest
          | [], value :: rest =>
            if value.startsWith "-" && value != "-" then none
            else do readOptions? options (← addValue? found option value) rest
          | [], [] => none
    | _ => none

/-! ### The commands -/

/-- The option for a plan. -/
def planOption : Flag := { name := "plan", letter := some 'p', argument := .path }

/-- The option for a catalog. -/
def catalogOption : Flag := { name := "catalog", argument := .path }

/-- The option for whole statements. -/
def statementOption : Flag := { name := "statement", argument := .flag }

/-- The option for the input. -/
def inputOption : Flag := { name := "input", letter := some 'i', argument := .path }

/-- The option for the number of rows. -/
def rowsOption : Flag := { name := "rows", argument := .count }

/-- The option for the delimiter. -/
def delimiterOption : Flag := { name := "delimiter", argument := .delimiter }

/-- The option for the encoding. -/
def encodingOption : Flag := { name := "input-encoding", argument := .text }

/-- The number of rows that are shown where none is given. -/
def defaultRows : Nat := 10

/-- The value of an option. -/
def Values.get? (values : Values) (option : Flag) : Option String := values.lookup option.name

namespace Command

/-- The command of options that are complete. -/
def withOptions? (options : List Flag) (arguments : List String)
    (make? : Values → Option Command) : Option Command := do
  match ← readOptions? options [] arguments with
  | .help => return .help
  | .values values => make? values

/-- The commands and how their options are read. -/
def ofName? (name : String) (arguments : List String) : Option Command :=
  match name with
  | "compile" =>
    withOptions? [planOption, catalogOption, statementOption] arguments fun values => do
      return .compile (← values.get? planOption) (values.get? catalogOption)
        (values.get? statementOption).isSome
  | "format" =>
    withOptions? [planOption] arguments fun values => do
      return .exportText (← values.get? planOption)
  | "preview" =>
    withOptions?
      [planOption, inputOption, rowsOption, delimiterOption, encodingOption, catalogOption]
      arguments fun values => do
        let rows := (values.get? rowsOption).bind fun rows => Decimal.readCount? rows.toList
        let delimiter := (values.get? delimiterOption).bind fun delimiter =>
          (Csv.Delimiter.ofText delimiter).toOption
        return .preview (← values.get? planOption) (← values.get? inputOption)
          (rows.getD defaultRows) delimiter (values.get? encodingOption)
          (values.get? catalogOption)
  | "types" => withOptions? [] arguments fun _ => some .types
  | "catalog" =>
    withOptions? [catalogOption] arguments fun values =>
      some (.catalog (values.get? catalogOption))
  | _ => none

/-- The names of the commands. -/
def names : List String := ["compile", "format", "preview", "types", "catalog", "help"]

/-- The command that the arguments ask for; none if they ask for nothing that there is. -/
def ofArguments? (arguments : List String) : Option Command :=
  match arguments with
  | [] => none
  | ["help"] => some .help
  | ["help", name] => if names.contains name then some .help else none
  | name :: rest =>
    match name.toList with
    | '-' :: '-' :: long =>
      if String.ofList long = "version" then some .version
      else if String.ofList long = helpName then some .help
      else none
    | '-' :: letter :: _ =>
      if letter = 'V' then some .version
      else if letter = helpLetter then some .help
      else none
    | _ => ofName? name rest

end Command

end ColumnCast.Cli
