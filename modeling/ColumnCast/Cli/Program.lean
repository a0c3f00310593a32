import ColumnCast.Catalog.Builtin
import ColumnCast.Catalog.Yaml
import ColumnCast.Cli.Arguments
import ColumnCast.Csv
import ColumnCast.Encoding.Registry
import ColumnCast.Log
import ColumnCast.Plan.Yaml
import ColumnCast.Table
import ColumnCast.Text.Quoted

/-!
# `ColumnCast.Cli.Program`: the commands

What the program does is a function of its arguments, its log filter and
the files it reads. Where files come from is left to a `Host`, in any
monad; everything else is decided here: what is printed, what is logged,
which of several faults is reported and with which exit code.
-/

set_option autoImplicit false

namespace ColumnCast.Cli

/-! ### Files -/

/-- Why a file cannot be read. -/
inductive FileFault
  | notFound
  | isDirectory
  | notDirectory
  | nameTooLong
  | nulInName
  | notUtf8
  | other (message : String)
  deriving DecidableEq, Repr

/-- The wording of a fault. -/
def FileFault.message : FileFault → String
  | notFound => "No such file or directory (os error 2)"
  | isDirectory => "Is a directory (os error 21)"
  | notDirectory => "Not a directory (os error 20)"
  | nameTooLong => "File name too long (os error 36)"
  | nulInName => "file name contained an unexpected NUL byte"
  | notUtf8 => "stream did not contain valid UTF-8"
  | other message => message

/-- Where the bytes of files and of standard input come from. -/
structure Host (m : Type → Type) where
  read : String → m (Except FileFault (List UInt8))
  input : m (List UInt8)

/-! ### Runs -/

/-- A run that logs, and may end with a failure. -/
abbrev Run (m : Type → Type) (α : Type) := ExceptT String (StateT (List Log.Entry) m) α

/-- The modules that log, by what they are about. -/
inductive Topic
  | program
  | plan
  | catalog
  | compiler
  | preview

/-- The name under which a module logs. -/
def Topic.module : Topic → String
  | program => "csv_coerce"
  | plan => "csv_coerce::plan"
  | catalog => "csv_coerce::catalog"
  | compiler => "csv_coerce::compiler"
  | preview => "csv_coerce::preview"

variable {m : Type → Type} [Monad m]

/-- Logs a message. -/
def log (level : Log.Level) (topic : Topic) (message : String) : Run m Unit :=
  modify fun entries => entries ++ [⟨level, topic.module, message⟩]

/-- Goes on with a value, or fails with the wording of an error. -/
def orFail {ε α : Type} (wording : ε → String) (result : Except ε α) : Run m α :=
  match result with
  | .ok value => return value
  | .error e => throw (wording e)

/-- The context of an error, and the error. -/
def within (context message : String) : String := context ++ ": " ++ message

/-- The text of a file. -/
def readText (host : Host m) (context path : String) : Run m String := do
  let bytes ← orFail (fun fault => within context fault.message) (← (host.read path : m _))
  match String.fromUTF8? (ByteArray.mk bytes.toArray) with
  | some text => return text
  | none => throw (within context FileFault.notUtf8.message)

/-- A number of things, in words. -/
def counted (count : Nat) (noun : String) : String := toString count ++ " " ++ noun ++ "(s)"

/-- The plan in a file. -/
def loadPlan (host : Host m) (path : String) : Run m Plan := do
  let text ← readText host ("Reading import plan " ++ Text.shownPath path) path
  let plan ← orFail
    (fun e : PlanError => within ("Loading plan " ++ Text.shownPath path) e.message)
    (Plan.ofYaml text)
  log .debug .plan
    ("Loaded import plan " ++ Text.shownPath path ++ " (" ++ counted plan.columns.length "column"
      ++ ")")
  return plan

/-- The catalog in a file. -/
def loadCatalog (host : Host m) (path : String) : Run m Catalog := do
  let text ← readText host ("Reading format catalog " ++ Text.shownPath path) path
  let catalog ← orFail
    (fun e : CastError => within ("Parsing format catalog " ++ Text.shownPath path) e.message)
    (Catalog.ofYaml text)
  log .debug .catalog
    ("Loaded format catalog " ++ Text.shownPath path ++ " with "
      ++ counted catalog.dates.length "date format")
  return catalog

/-- The catalog that a plan names, from the directory of the plan, or the built-in one. -/
def catalogOfPlan (host : Host m) (directory : String) (plan : Plan) : Run m Catalog :=
  match plan.catalog with
  | some path => loadCatalog host (Path.join directory path)
  | none => return .builtin

/-- The catalog that is given, or else that of the plan. -/
def chooseCatalog (host : Host m) (given : Option String) (planPath : String) (plan : Plan) :
    Run m Catalog :=
  match given with
  | some path => loadCatalog host path
  | none => catalogOfPlan host (Path.directory planPath) plan

/-! ### Compiling -/

/-- The end of a statement. -/
def statementEnd : String := ";\n"

/-- What is logged of a compiled column. -/
def compiledMessage (column : CompiledColumn) : String :=
  "Compiled " ++ column.type.name ++ " cast for " ++ column.source ++ " ("
    ++ counted column.expression.render.utf8ByteSize "byte" ++ ")"

/-- Prints the expressions of a plan, or its statement. -/
def compile (host : Host m) (planPath : String) (catalogPath : Option String)
    (statement : Bool) : Run m String := do
  let plan ← loadPlan host planPath
  let catalog ← chooseCatalog host catalogPath planPath plan
  log .debug .program ("Date formats available: " ++ Text.shownNames catalog.ids)
  let (columns, refusal) := Plan.compileUntil (plan.compileColumn catalog) plan.columns
  columns.forM fun column => log .debug .compiler (compiledMessage column)
  match refusal with
  | some e => throw (within ("Compiling import plan " ++ Text.shownPath planPath) e.message)
  | none =>
    log .info .program
      ("Compiled " ++ counted columns.length "column" ++ " from " ++ Text.shownPath planPath)
    if statement then return plan.insertStatement columns ++ statementEnd
    else
      return String.join (columns.map fun column =>
        column.outputName ++ ": " ++ column.expression.render ++ "\n")

/-- Prints the query that shows the typed columns as text. -/
def exportPlan (host : Host m) (planPath : String) : Run m String := do
  let plan ← loadPlan host planPath
  log .info .program ("Rendered export projection for " ++ counted plan.columns.length "column")
  return plan.exportStatement ++ statementEnd

/-! ### Previews -/

/-- The encoding of a label, or UTF-8. -/
def chooseEncoding (label : Option String) : Except String Encoding :=
  match label with
  | none => .ok .utf8
  | some label =>
    match Encoding.ofLabel? label with
    | some encoding => .ok encoding
    | none => .error ("Unknown encoding '" ++ label ++ "'")

/-- The texts of fields. -/
def decodeFields (encoding : Encoding) (fields : List Csv.Field) : Except String (List String) :=
  match fields.mapM encoding.decode? with
  | some texts => .ok texts
  | none => .error ("Failed to decode text with encoding " ++ encoding.name)

/-- The bytes of an input. A directory is found, and cannot be read. -/
def readInput (host : Host m) (path : String) : Run m (List UInt8) := do
  if Path.isDash path then return ← (host.input : m _)
  else
    orFail
      (fun
        | .isDirectory => FileFault.isDirectory.message
        | fault => within ("Opening input file " ++ Text.shownPath path) fault.message)
      (← (host.read path : m _))

/-- The positions of the columns of a plan among the headers. -/
def positions (input : String) (headers : List String) (columns : List ColumnPlan) :
    Except String (List Nat) :=
  columns.mapM fun column =>
    match headers.idxOf? column.name with
    | some position => .ok position
    | none => .error ("Column '" ++ column.name ++ "' not found in " ++ Text.shownPath input)

/-- The line of the first record below the headers. -/
def firstRow : Nat := 2

/-- One row of a preview. -/
def previewRow (catalog : Catalog) (columns : List (CastRequest × Nat)) (encoding : Encoding)
    (table : Csv.Table) (number : Nat) (record : List Csv.Field) : Except String (List String) := do
  let fields ← (table.row record).mapError fun _ =>
    within ("Reading row " ++ toString number) "CSV error"
  let texts ← decodeFields encoding fields
  (CastRequest.previewRow catalog columns texts).mapError CastError.message

/-- Prints the first rows of an input as the typed columns would hold them. -/
def preview (host : Host m) (planPath input : String) (rows : Nat) (delimiter : Option UInt8)
    (encoding catalogPath : Option String) : Run m String := do
  let plan ← loadPlan host planPath
  let catalog ← chooseCatalog host catalogPath planPath plan
  let requests ← orFail PlanError.message plan.requests
  let encoding ← orFail id (chooseEncoding encoding)
  let bytes ← readInput host input
  let table := Csv.Table.ofBytes (delimiter.getD (Csv.Delimiter.ofPath input)) bytes
  let headers ← orFail id (decodeFields encoding table.headers)
  let columns := requests.zip (← orFail id (positions input headers plan.columns))
  let shown ← orFail id
    ((table.records.take rows).zipIdx firstRow |>.mapM fun (record, number) =>
      previewRow catalog columns encoding table number record)
  log .info .preview
    ("Previewed " ++ counted shown.length "row" ++ " from " ++ Text.shownPath input)
  return Table.render (plan.columns.map ColumnPlan.outputName) shown

/-! ### The program -/

/-- Prints the semantic types and their categories. -/
def typesText : String :=
  String.join (SemanticType.all.map fun type => type.name ++ "\t" ++ type.category.name ++ "\n")

/-- Prints a catalog. -/
def showCatalog (host : Host m) (path : Option String) : Run m String :=
  match path with
  | some path => do return (← loadCatalog host path).toYaml
  | none => return Catalog.builtin.toYaml

/-- The name and version of the program. -/
def versionText : String := "csv-coerce 0.1.0\n"

/-- What the program can be asked for. -/
def helpText : String :=
  "Usage: csv-coerce <compile|format|preview|types|catalog> [options]\n"

/-- Carries out a command. -/
def Command.run (host : Host m) : Command → Run m String
  | .compile plan given statement => Cli.compile host plan given statement
  | .exportText plan => exportPlan host plan
  | .preview plan input rows delimiter encoding given =>
    Cli.preview host plan input rows delimiter encoding given
  | .types => return typesText
  | .catalog path => showCatalog host path
  | .version => return versionText
  | .help => return helpText

/-- What a run leaves behind. -/
structure Outcome where
  code : UInt8
  stdout : String
  stderr : String

/-- The filter of the log: what is asked for, or the messages of the program itself. -/
def chooseFilter (asked : Option String) : Log.Filter :=
  match asked with
  | some text => Log.Filter.ofText text
  | none => { directives := [⟨Topic.program.module, Log.Level.info.rank⟩] }

/-- Runs the program. -/
def run (host : Host m) (logFilter : Option String) (arguments : List String) : m Outcome := do
  let filter := chooseFilter logFilter
  match Command.ofArguments? arguments with
  | none => return ⟨2, "", filter.warnings ++ helpText⟩
  | some command =>
    let (result, entries) ← ((command.run host).run).run []
    let logged := filter.warnings ++ String.join ((entries.filter filter.passes).map Log.Entry.line)
    match result with
    | .ok stdout => return ⟨0, stdout, logged⟩
    | .error message => return ⟨1, "", logged ++ "error: " ++ message ++ "\n"⟩

end ColumnCast.Cli
