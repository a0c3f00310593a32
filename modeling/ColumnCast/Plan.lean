import ColumnCast.Cast
import ColumnCast.Document
import ColumnCast.Export

/-!
# `ColumnCast.Plan`: plans of an import

A plan lists the columns of one raw table with the types they are cast to.
`Plan.ofDocument` reads it, and refuses a plan without columns and one in
which two columns come out under one name. What a plan compiles to are SQL
statements: `Plan.selectStatement`, `Plan.insertStatement` and, for the
way back, `Plan.exportStatement`.
-/

set_option autoImplicit false

namespace ColumnCast

/-- One column of an import. -/
structure ColumnPlan where
  name : String
  /-- The name of a semantic type; what it names is looked up when the plan is compiled. -/
  typeName : String
  rename : Option String := none
  limit : Option UInt32 := none
  dateFormat : Option String := none
  options : List String := []
  deriving DecidableEq, Repr

namespace ColumnPlan

/-- The name under which the column comes out. -/
def outputName (column : ColumnPlan) : String := column.rename.getD column.name

/-- The request that casts the column. -/
def request (column : ColumnPlan) (defaultDateFormat : String) : Except CastError CastRequest :=
  (CastRequest.ofName column.typeName (Sql.quoteIdent column.name)).map fun request =>
    { request with
      limit := column.limit
      dateFormat := some (column.dateFormat.getD defaultDateFormat)
      options := column.options }

/-- The column in a document. -/
def ofDocument? {ν : Type} [Document ν] (document : ν) : Option ColumnPlan := do
  let field ← Document.fields?
    ["name", "datatype", "name_mapping", "limit", "date_format", "options"] document
  let perhaps {α : Type} (read? : ν → Option α) (name : String) : Option (Option α) := do
    return (← Document.ifPresent? (Document.optional? read?) (field name)).join
  let options ← Document.ifPresent? (Document.listOf? Document.text?) (field "options")
  return {
    name := ← Document.text? (← field "name")
    typeName := ← Document.text? (← field "datatype")
    rename := ← perhaps Document.text? "name_mapping"
    limit := ← perhaps Document.word? "limit"
    dateFormat := ← perhaps Document.text? "date_format"
    options := options.getD [] }

end ColumnPlan

/-- Why a plan is refused. -/
inductive PlanError
  /-- The text is no plan: bad YAML, or a part of the wrong shape. -/
  | unreadable
  | noColumns
  | repeatedOutput (name : String)
  /-- A column has no request. -/
  | column (name : String) (cause : CastError)
  /-- The request of a column cannot be carried out. -/
  | compiling (name : String) (cause : CastError)
  deriving DecidableEq, Repr

namespace PlanError

/-- The wording of a refusal. -/
def message : PlanError → String
  | unreadable => "Parsing import plan YAML"
  | noColumns => "Import plan must list at least one column"
  | repeatedOutput name =>
    "Output column '" ++ name ++ "' appears more than once in the import plan"
  | column name cause => "Column '" ++ name ++ "': " ++ cause.message
  | compiling name cause => "Compiling column '" ++ name ++ "': " ++ cause.message

/-- The refused request behind a refused plan. -/
def cause? : PlanError → Option CastError
  | column _ cause | compiling _ cause => some cause
  | _ => none

end PlanError

/-- The plan of an import. -/
structure Plan where
  /-- The raw table or a query in parentheses, as SQL text. -/
  source : String
  /-- The typed table, as SQL text. -/
  target : Option String := none
  dateFormat : String := CastRequest.defaultDateFormat
  /-- The path of a catalog file. -/
  catalog : Option String := none
  columns : List ColumnPlan
  deriving DecidableEq, Repr

/-- A column and the expression it is cast by. -/
structure CompiledColumn where
  name : String
  outputName : String
  type : SemanticType
  source : String
  expression : Sql.Expr

namespace Plan

/-! ### Reading -/

/-- The plan in a document of the right shape. -/
def fromShape? {ν : Type} [Document ν] (document : ν) : Option Plan := do
  let field ← Document.fields? ["source", "target", "date_format", "catalog", "columns"] document
  let perhaps (name : String) : Option (Option String) := do
    return (← Document.ifPresent? (Document.optional? Document.text?) (field name)).join
  let dateFormat ← Document.ifPresent? Document.text? (field "date_format")
  return {
    source := ← Document.text? (← field "source")
    target := ← perhaps "target"
    dateFormat := dateFormat.getD CastRequest.defaultDateFormat
    catalog := ← perhaps "catalog"
    columns := ← Document.listOf? ColumnPlan.ofDocument? (← field "columns") }

/-- The first name in the list that comes again after it. -/
def firstRepeated? : List String → Option String
  | [] => none
  | name :: rest => if rest.contains name then some name else firstRepeated? rest

/-- The plan, if its columns are as they must be. -/
def check (plan : Plan) : Except PlanError Plan :=
  if plan.columns.isEmpty then .error .noColumns
  else
    match firstRepeated? (plan.columns.map ColumnPlan.outputName) with
    | some name => .error (.repeatedOutput name)
    | none => .ok plan

/-- The plan in a document. -/
def ofDocument {ν : Type} [Document ν] (document : ν) : Except PlanError Plan :=
  match fromShape? document with
  | some plan => plan.check
  | none => .error .unreadable

/-! ### Compiling -/

/-- The requests of all columns. -/
def requests (plan : Plan) : Except PlanError (List CastRequest) :=
  plan.columns.mapM fun column =>
    (column.request plan.dateFormat).mapError (.column column.name)

/-- A column compiled. -/
def compileColumn (plan : Plan) (catalog : Catalog) (column : ColumnPlan) :
    Except PlanError CompiledColumn := do
  let request ← (column.request plan.dateFormat).mapError (.column column.name)
  let expression ← (request.compile catalog).mapError (.compiling column.name)
  return ⟨column.name, column.outputName, request.type, request.source, expression⟩

/-- The columns compiled in order, up to the first that is refused, and its refusal. -/
def compileUntil (compile : ColumnPlan → Except PlanError CompiledColumn) :
    List ColumnPlan → List CompiledColumn × Option PlanError
  | [] => ([], none)
  | column :: rest =>
    match compile column with
    | .ok compiled =>
      let (more, refusal) := compileUntil compile rest
      (compiled :: more, refusal)
    | .error e => ([], some e)

/-- All columns compiled. -/
def compile (plan : Plan) (catalog : Catalog) : Except PlanError (List CompiledColumn) :=
  match compileUntil (plan.compileColumn catalog) plan.columns with
  | (compiled, none) => .ok compiled
  | (_, some e) => .error e

/-! ### Statements -/

/-- A query with a line for each expression and the name it gets. -/
def query (projection : List (String × String)) (table : String) : String :=
  let line (expression name : String) := "  " ++ expression ++ " AS " ++ Sql.quoteIdent name
  "SELECT\n" ++ ",\n".intercalate (projection.map fun (expression, name) => line expression name)
    ++ "\nFROM " ++ table

/-- The query that casts the columns. -/
def selectStatement (plan : Plan) (compiled : List CompiledColumn) : String :=
  query (compiled.map fun column => (column.expression.render, column.outputName)) plan.source

/-- The insertion of the cast columns into the target, or the query alone without one. -/
def insertStatement (plan : Plan) (compiled : List CompiledColumn) : String :=
  let select := plan.selectStatement compiled
  match plan.target with
  | some target =>
    let names := compiled.map fun column => Sql.quoteIdent column.outputName
    "INSERT INTO " ++ target ++ " (" ++ ", ".intercalate names ++ ")\n" ++ select
  | none => select

/-- The query that shows the typed columns as text. -/
def exportStatement (plan : Plan) : String :=
  query
    (plan.columns.map fun column =>
      (Export.named column.outputName column.typeName, column.outputName))
    (plan.target.getD plan.source)

end Plan

end ColumnCast
