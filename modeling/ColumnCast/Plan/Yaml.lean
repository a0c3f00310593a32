import ColumnCast.Json
import ColumnCast.Plan
import ColumnCast.Yaml.Node

/-!
# `ColumnCast.Plan.Yaml`: plans in files and messages

A plan is read from YAML text. In a message it is a record in which
fields that say nothing are left out.
-/

set_option autoImplicit false

namespace ColumnCast

/-- The plan that a YAML text holds. -/
def Plan.ofYaml (text : String) : Except PlanError Plan :=
  match Yaml.Root.ofText? text with
  | some root => Plan.ofDocument root
  | none => .error .unreadable

/-- A field of a message, left out if there is nothing to say. -/
def optionalField (name : String) (content : Option String) : List (String × Json) :=
  content.toList.map fun content => (name, .text content)

/-- The message for a column. -/
def ColumnPlan.toJson (column : ColumnPlan) : Json :=
  .record
    ([("name", .text column.name), ("datatype", .text column.typeName)]
      ++ optionalField "name_mapping" column.rename
      ++ column.limit.toList.map (fun limit => ("limit", .integer limit.toNat))
      ++ optionalField "date_format" column.dateFormat
      ++ (if column.options.isEmpty then []
          else [("options", .list (column.options.map Json.text))]))

/-- The message for a plan. -/
def Plan.toJson (plan : Plan) : Json :=
  .record
    ([("source", .text plan.source)] ++ optionalField "target" plan.target
      ++ [("date_format", .text plan.dateFormat)] ++ optionalField "catalog" plan.catalog
      ++ [("columns", .list (plan.columns.map ColumnPlan.toJson))])

end ColumnCast
