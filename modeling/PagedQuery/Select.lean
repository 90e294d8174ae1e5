/-
# The query around a script

A script becomes a derived table, and the operations of a request the clauses around it:

    SELECT items FROM (script) AS V_SRC WHERE … GROUP BY … HAVING … ORDER BY … LIMIT …

In mode `scriptOnly` the text is the script.  In mode `plain` it is the whole query without its
page, and the script where there is nothing to put around it.  In mode `paginated` it is the whole
query with its page, if the dialect has a clause for that.  In mode `countOnly` it is the query
that counts the rows of `plain`.
-/

import PagedQuery.Request
import PagedQuery.Script.Splice

namespace PagedQuery

/-- Which text is wanted of a script and a request. -/
inductive RenderMode
  | scriptOnly
  | plain
  | paginated
  | countOnly
deriving DecidableEq

namespace Dialect

/-- The alias of the script as a derived table. -/
def sourceAlias : String :=
  "V_SRC"

/-- The alias of the query whose rows are counted. -/
def countAlias : String :=
  "V_T"

/-- An aggregate function applied to a column; `*` is not quoted. -/
def aggregateExpression (d : Dialect) (f : AggregateFunction) (column : String) : List Char :=
  f.apply (if column = "*" then ['*'] else d.quoteIdentifier column.toList)

/-- A column, or an aggregate of it. -/
def columnExpression (d : Dialect) (aggregate : Option AggregateFunction) (column : String) :
    List Char :=
  match aggregate with
  | some f => d.aggregateExpression f column
  | none => d.quoteIdentifier column.toList

/-- An expression under an alias. -/
def aliased (d : Dialect) (expression : List Char) (name : String) : List Char :=
  expression ++ (" AS ".toList ++ d.quoteIdentifier name.toList)

/-- An output column taken as it is. -/
def selectorItem (d : Dialect) (s : Selector) : Except Failure (List Char) :=
  if s.column = "*" then
    if s.label.isSome then .error (.render "selector '*' cannot take an alias") else .ok ['*']
  else
    match s.label with
    | some name => .ok (d.aliased (d.quoteIdentifier s.column.toList) name)
    | none => .ok (d.quoteIdentifier s.column.toList)

/-- An output column computed by an aggregate function. -/
def aggregateItem (d : Dialect) (a : Aggregate) : List Char :=
  d.aliased (d.aggregateExpression a.function a.column) a.outputName

/-- The output columns: the selected ones, the group columns that are not selected,
the aggregates; `*` when there is none. -/
def selectItems (d : Dialect) (r : Request) : Except Failure (List (List Char)) := do
  let selected ← r.selectors.mapM d.selectorItem
  let groups := r.groups.filter fun g => !r.selectors.any fun s => s.column == g.column
  let items := selected ++ groups.map (fun g => d.quoteIdentifier g.column.toList) ++
    r.aggregates.map d.aggregateItem
  .ok (if items.isEmpty then [['*']] else items)

/-- The failure of a filter with the wrong number of values. -/
def arityFailure (f : Filter) (found : Nat) : Failure :=
  match f.comparison.arity? with
  | some expected =>
    .render <|
      "filter " ++ f.comparison.title ++ " on '" ++ f.column ++ "' expects " ++
        Decimal.numeral expected ++ " value(s), got " ++ Decimal.numeral found
  | none =>
    .render <|
      "filter " ++ f.comparison.title ++ " on '" ++ f.column ++ "' needs at least one value"

/-- A comparison of an expression with values, if their number fits. -/
def comparisonText? (expression : List Char) (c : Comparison) (values : List (List Char)) :
    Option (List Char) :=
  let head := expression ++ ' ' :: c.sql.toList
  match c.arity?, values with
  | some 0, [] => some head
  | some 1, [value] => some (head ++ ' ' :: value)
  | some 2, [low, high] => some (head ++ ' ' :: (low ++ (" AND ".toList ++ high)))
  | none, value :: others =>
    some (head ++ (" (".toList ++ (Text.joinWith ", " (value :: others) ++ [')'])))
  | _, _ => none

/-- A condition.  Its values are rendered before they are counted. -/
def condition (d : Dialect) (f : Filter) : Except Failure (List Char) := do
  let values ← f.values.mapM fun v => Literal.render d v.valueType v.value.toList
  match comparisonText? (d.columnExpression f.aggregate f.column) f.comparison values with
  | some text => .ok text
  | none => .error (arityFailure f values.length)

/-- A clause of conditions, nothing when there are none. -/
def conditionClause (d : Dialect) (keyword : String) (filters : List Filter) :
    Except Failure (List Char) :=
  if filters.isEmpty then .ok []
  else do
    let conditions ← filters.mapM d.condition
    .ok (keyword.toList ++ Text.joinWith " AND " conditions)

/-- A clause of expressions, nothing when there are none. -/
def listClause (keyword : String) (items : List (List Char)) : List Char :=
  if items.isEmpty then [] else keyword.toList ++ Text.joinWith ", " items

/-- What rows are sorted by, with the direction. -/
def sortItem (d : Dialect) (o : SortKey) : List Char :=
  d.columnExpression o.aggregate o.column ++ ' ' :: o.direction.name.toList

/-- The clause that asks for a page. -/
def pageClause (d : Dialect) (p : PageInfo) : List Char :=
  let size := Decimal.digits p.pageSize.toNat
  let offset := Decimal.digits p.offset
  match d.pagination with
  | .limitOffset => " LIMIT ".toList ++ (size ++ (" OFFSET ".toList ++ offset))
  | .offsetFetch =>
    " OFFSET ".toList ++ (offset ++ (" ROWS FETCH NEXT ".toList ++ (size ++ " ROWS ONLY".toList)))
  | .none => []

/-- The script as a derived table. -/
def derivedTable (d : Dialect) (source : List Char) : List Char :=
  '(' :: (source ++ ((if d.aliasAs then ") AS " else ") ").toList ++ sourceAlias.toList))

/-- The query around a script, with a page clause if it is paged. -/
def select (d : Dialect) (r : Request) (source : List Char) (isPaged : Bool) :
    Except Failure (List Char) :=
  if !r.hasOperations && !isPaged then .ok source
  else do
    let items ← d.selectItems r
    let whereClause ← d.conditionClause " WHERE " (r.filters.filter fun f => f.aggregate.isNone)
    let groupClause := listClause " GROUP BY " (r.groups.map fun g =>
      d.quoteIdentifier g.column.toList)
    let havingClause ← d.conditionClause " HAVING " (r.filters.filter fun f => f.aggregate.isSome)
    let orderClause := listClause " ORDER BY " (r.orders.map d.sortItem)
    let query := "SELECT ".toList ++ Text.joinWith ", " items ++ " FROM ".toList ++
      d.derivedTable source ++ whereClause ++ groupClause ++ havingClause ++ orderClause
    if isPaged then
      r.pageInfo.validate
      .ok (query ++ d.pageClause r.pageInfo)
    else .ok query

/-- The query that counts the rows of a query. -/
def countQuery (query : List Char) : List Char :=
  "SELECT COUNT(*) FROM (".toList ++ (query ++ (") ".toList ++ countAlias.toList))

/-- The text of a script and a request, as characters. -/
def renderChars (d : Dialect) (s : QueryScript) (r : Request) (mode : RenderMode) :
    Except Failure (List Char) := do
  let source ← s.splice d
  match mode with
  | .scriptOnly => .ok source
  | .plain => d.select r source false
  | .paginated => d.select r source d.supportsPaging
  | .countOnly => (d.select r source false).map countQuery

/-- The SQL text of a script and a request. -/
def render (d : Dialect) (s : QueryScript) (r : Request) (mode : RenderMode) :
    Except Failure String :=
  (d.renderChars s r mode).map String.ofList

end Dialect

end PagedQuery
