import Mathlib.Data.List.Dedup
import Mathlib.Tactic.Common

/-!
# Single-block SELECT statements

The syntax of one SELECT block over joined tables (`Select`), the text it is written as (`render`),
and its standard meaning over the contents of the tables (`Select.eval`): the rows of the first
table are joined with the others, the condition keeps the rows it is true of, the rows are grouped
by the grouping columns, and every group gives one output row. A block that neither groups nor
aggregates gives one output row for every row.

What a named scalar function, aggregate or comparison computes is the parameter `Functions`;
comparisons are three-valued, and a join or a condition keeps a row only on `some true`. Column
references are written as the table has them. Groups and rows come in the order of the tables.
-/

namespace SchemaPilot.Library.Sql

/-! ### Values and tables -/

/-- A value of a table or a result; `other` is any value but the first four kinds, by the text
`str` gives it. -/
inductive Cell where
  | null
  | bool (value : Bool)
  | int (value : Int)
  | text (value : String)
  | other (text : String)
deriving DecidableEq

/-- `str` of a value. -/
def Cell.toStr : Cell → String
  | null => "None"
  | bool true => "True"
  | bool false => "False"
  | int value => toString value
  | text value => value
  | other value => value

structure Table where
  columns : List String
  rows : List (List Cell)

/-- The tables of a database by their qualified names. -/
abbrev Catalog := String → Option Table

abbrev Record := List (String × Cell)

/-- The rows a joined row is made of, by the aliases of their tables. -/
abbrev Scope := List (String × Record)

/-- The result of a query: the output column names and the rows. -/
structure Result where
  columns : List String
  rows : List (List Cell)
deriving DecidableEq

/-- What the scalar functions, the aggregates and the comparisons compute. -/
structure Functions where
  scalar : String → Cell → Cell
  aggregate : String → List Cell → Cell
  compare : String → Cell → Cell → Option Bool

/-! ### Syntax -/

/-- A column, qualified by a table alias or bare. -/
structure ColumnRef where
  table : Option String
  column : String
deriving DecidableEq

inductive Scalar where
  | column (ref : ColumnRef)
  | literal (value : Cell)
  | call (function : String) (argument : Scalar)
deriving DecidableEq

inductive Condition where
  | compare (operator : String) (left right : Scalar)
  | and (left right : Condition)
  | or (left right : Condition)
  | not (condition : Condition)

inductive ItemExpr where
  | scalar (expression : Scalar)
  | countStar
  | aggregate (function : String) (argument : Scalar)
deriving DecidableEq

/-- An output column with its optional alias. -/
structure Item where
  expression : ItemExpr
  label : Option String
deriving DecidableEq

/-- A table of a schema with its optional alias. -/
structure TableRef where
  schema : String
  table : String
  label : Option String
deriving DecidableEq

inductive JoinKind where
  | inner
  | left
  | right
  | full
deriving DecidableEq

/-- A join on the equality of two columns. -/
structure Join where
  kind : JoinKind
  table : TableRef
  left : ColumnRef
  right : ColumnRef
deriving DecidableEq

/-- A SELECT block. -/
structure Select where
  items : List Item
  source : TableRef
  joins : List Join
  condition : Option Condition
  groupBy : List ColumnRef

def Scalar.refs : Scalar → List ColumnRef
  | column ref => [ref]
  | literal _ => []
  | call _ argument => argument.refs

def Condition.refs : Condition → List ColumnRef
  | compare _ left right => left.refs ++ right.refs
  | and left right => left.refs ++ right.refs
  | or left right => left.refs ++ right.refs
  | not condition => condition.refs

/-- The columns an output expression refers to. -/
def ItemExpr.refs : ItemExpr → List ColumnRef
  | scalar expression => expression.refs
  | countStar => []
  | aggregate _ argument => argument.refs

def Select.refs (select : Select) : List ColumnRef :=
  (select.items.flatMap fun item ↦ item.expression.refs) ++
    (select.joins.flatMap fun join ↦ [join.left, join.right]) ++
    ((select.condition.map Condition.refs).getD []) ++ select.groupBy

/-! ### Text -/

def ColumnRef.render (ref : ColumnRef) : String :=
  match ref.table with
  | some table => table ++ "." ++ ref.column
  | none => ref.column

/-- A literal as text, the quotes of a string doubled. -/
def renderLiteral : Cell → String
  | .null => "null"
  | .bool true => "true"
  | .bool false => "false"
  | .int value => toString value
  | .text value =>
    "'" ++ String.ofList (value.toList.flatMap fun c ↦ if c = '\'' then ['\'', '\''] else [c]) ++ "'"
  | .other value => value

def Scalar.render : Scalar → String
  | column ref => ref.render
  | literal value => renderLiteral value
  | call function argument => function ++ "(" ++ argument.render ++ ")"

def Condition.render : Condition → String
  | compare operator left right => left.render ++ " " ++ operator ++ " " ++ right.render
  | and left right => "(" ++ left.render ++ " and " ++ right.render ++ ")"
  | or left right => "(" ++ left.render ++ " or " ++ right.render ++ ")"
  | not condition => "(not " ++ condition.render ++ ")"

def ItemExpr.render : ItemExpr → String
  | scalar expression => expression.render
  | countStar => "count(*)"
  | aggregate function argument => function ++ "(" ++ argument.render ++ ")"

/-- ` as alias`, nothing without an alias. -/
def renderAlias : Option String → String
  | some label => " as " ++ label
  | none => ""

def Item.render (item : Item) : String := item.expression.render ++ renderAlias item.label

def TableRef.render (ref : TableRef) : String :=
  ref.schema ++ "." ++ ref.table ++ renderAlias ref.label

def JoinKind.words : JoinKind → String
  | inner => "inner join"
  | left => "left join"
  | right => "right join"
  | full => "full outer join"

def Join.render (join : Join) : String :=
  join.kind.words ++ " " ++ join.table.render ++ " on " ++ join.left.render ++ " = " ++
    join.right.render

/-- A SELECT block as text. -/
def Select.render (select : Select) : String :=
  "select " ++ String.intercalate ", " (select.items.map Item.render) ++
    " from " ++ select.source.render ++
    String.join (select.joins.map fun join ↦ " " ++ join.render) ++
    (match select.condition with
      | some condition => " where " ++ condition.render
      | none => "") ++
    (if select.groupBy = [] then ""
      else " group by " ++ String.intercalate ", " (select.groupBy.map ColumnRef.render))

/-! ### Meaning -/

/-- The name a table goes by in the rest of the block. -/
def TableRef.name (ref : TableRef) : String := ref.label.getD ref.table

def TableRef.qualified (ref : TableRef) : String := ref.schema ++ "." ++ ref.table

def Table.records (table : Table) : List Record := table.rows.map table.columns.zip

/-- The record an outer join fills a missing side with. -/
def Table.nullRecord (table : Table) : Record := table.columns.map fun column ↦ (column, .null)

/-- The contents of a referenced table; a table the catalog lacks has none. -/
def Catalog.table (catalog : Catalog) (ref : TableRef) : Table :=
  (catalog ref.qualified).getD ⟨[], []⟩

/-- The value of a column in a joined row. -/
def ColumnRef.eval (ref : ColumnRef) (scope : Scope) : Cell :=
  match ref.table with
  | some table => ((scope.lookup table).bind fun record ↦ record.lookup ref.column).getD .null
  | none => (scope.findSome? fun entry ↦ entry.2.lookup ref.column).getD .null

section Meaning

variable (functions : Functions)

/-- The value of a scalar expression in a joined row. -/
def Scalar.eval (scope : Scope) : Scalar → Cell
  | column ref => ref.eval scope
  | literal value => value
  | call function argument => functions.scalar function (argument.eval scope)

/-- The truth value of a condition in a joined row. -/
def Condition.eval (scope : Scope) : Condition → Option Bool
  | compare operator left right =>
    functions.compare operator (left.eval functions scope) (right.eval functions scope)
  | and left right =>
    match left.eval scope, right.eval scope with
    | some false, _ => some false
    | _, some false => some false
    | some true, some true => some true
    | _, _ => none
  | or left right =>
    match left.eval scope, right.eval scope with
    | some true, _ => some true
    | _, some true => some true
    | some false, some false => some false
    | _, _ => none
  | not condition => (condition.eval scope).map Bool.not

/-- The joined rows that pair a row with the records of one more table. -/
def Join.matching (join : Join) (records : List Record) (scope : Scope) : List Scope :=
  (records.map fun record ↦ scope ++ [(join.table.name, record)]).filter fun joined ↦
    functions.compare "=" (join.left.eval joined) (join.right.eval joined) = some true

/-- The records of one more table that pair with no row; they survive a right and a full join. -/
def Join.unmatched (join : Join) (records : List Record) (scopes : List Scope) : List Scope :=
  (records.filter fun record ↦ scopes.all fun scope ↦
    (join.matching functions [record] scope).isEmpty).map fun record ↦
      [(join.table.name, record)]

/-- One join over the rows joined so far. -/
def Join.eval (catalog : Catalog) (scopes : List Scope) (join : Join) : List Scope :=
  let table := catalog.table join.table
  let inner := scopes.flatMap (join.matching functions table.records)
  let outer := scopes.flatMap fun scope ↦
    if (join.matching functions table.records scope).isEmpty then
      [scope ++ [(join.table.name, table.nullRecord)]]
    else join.matching functions table.records scope
  match join.kind with
  | .inner => inner
  | .left => outer
  | .right => inner ++ join.unmatched functions table.records scopes
  | .full => outer ++ join.unmatched functions table.records scopes

/-- The joined rows of a block that its condition keeps. -/
def Select.scopes (select : Select) (catalog : Catalog) : List Scope :=
  let source := (catalog.table select.source).records.map fun record ↦
    [(select.source.name, record)]
  let joined := select.joins.foldl (Join.eval functions catalog) source
  match select.condition with
  | some condition => joined.filter fun scope ↦ condition.eval functions scope = some true
  | none => joined

/-- The value of an output column over a group of joined rows. -/
def ItemExpr.eval (group : List Scope) : ItemExpr → Cell
  | scalar expression => (group.head?.map fun scope ↦ expression.eval functions scope).getD .null
  | countStar => .int group.length
  | aggregate function argument =>
    let values := (group.map fun scope ↦ argument.eval functions scope).filter (· ≠ .null)
    if function = "count" then .int values.length else functions.aggregate function values

end Meaning

/-- The output column computes over a whole group. -/
def ItemExpr.isAggregate : ItemExpr → Bool
  | scalar _ => false
  | countStar => true
  | aggregate _ _ => true

/-- The values of the grouping columns in a joined row. -/
def Select.key (select : Select) (scope : Scope) : List Cell :=
  select.groupBy.map fun ref ↦ ref.eval scope

/-- The groups of a block: one for each row without grouping and aggregates, a single one for
aggregates alone, else the rows that agree on the grouping columns. -/
def Select.groups (functions : Functions) (select : Select) (catalog : Catalog) :
    List (List Scope) :=
  let scopes := select.scopes functions catalog
  if select.groupBy = [] then
    if select.items.any fun item ↦ item.expression.isAggregate then [scopes]
    else scopes.map fun scope ↦ [scope]
  else (scopes.map select.key).dedup.map fun key ↦ scopes.filter fun scope ↦ select.key scope = key

/-- The name of an output column: its alias, else the name of its column, else its text. -/
def Item.outputName (item : Item) : String :=
  match item.label, item.expression with
  | some label, _ => label
  | none, .scalar (.column ref) => ref.column
  | none, expression => expression.render

/-- The meaning of a SELECT block over the contents of the tables. -/
def Select.eval (functions : Functions) (select : Select) (catalog : Catalog) : Result where
  columns := select.items.map Item.outputName
  rows := (select.groups functions catalog).map fun group ↦
    select.items.map fun item ↦ item.expression.eval functions group

def Select.tables (select : Select) : List TableRef := select.source :: select.joins.map Join.table

end SchemaPilot.Library.Sql
