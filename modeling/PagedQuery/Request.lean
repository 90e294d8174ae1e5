/-
# Requests

The logical operations applied on top of a script: which columns to return, what
to aggregate, which rows to keep, how to group and sort them, and which page.
-/

import PagedQuery.PageInfo
import PagedQuery.ValueType

namespace PagedQuery

/-- A typed value that a filter compares with. -/
structure Operand where
  value : String
  valueType : ValueType
deriving DecidableEq

/-- An aggregate function. -/
inductive AggregateFunction
  | sum
  | avg
  | max
  | min
  | count
  | countDistinct
deriving DecidableEq

namespace AggregateFunction

/-- All functions. -/
def all : List AggregateFunction :=
  [sum, avg, max, min, count, countDistinct]

/-- The name of a function in documents. -/
def name : AggregateFunction → String
  | sum => "SUM"
  | avg => "AVG"
  | max => "MAX"
  | min => "MIN"
  | count => "COUNT"
  | countDistinct => "COUNT_DISTINCT"

/-- What stands before and in the parentheses of a function, up to its operand. -/
def opening : AggregateFunction → String
  | sum => "SUM("
  | avg => "AVG("
  | max => "MAX("
  | min => "MIN("
  | count => "COUNT("
  | countDistinct => "COUNT(DISTINCT "

/-- A function applied to an operand. -/
def apply (f : AggregateFunction) (operand : List Char) : List Char :=
  f.opening.toList ++ (operand ++ [')'])

end AggregateFunction

/-- How a filter compares. -/
inductive Comparison
  | equals
  | notEquals
  | greaterThan
  | greaterThanOrEqual
  | lessThan
  | lessThanOrEqual
  | isIn
  | isNotIn
  | like
  | notLike
  | isNull
  | isNotNull
  | between
deriving DecidableEq

namespace Comparison

/-- All comparisons. -/
def all : List Comparison :=
  [equals, notEquals, greaterThan, greaterThanOrEqual, lessThan, lessThanOrEqual, isIn, isNotIn,
   like, notLike, isNull, isNotNull, between]

/-- The name of a comparison in documents. -/
def name : Comparison → String
  | equals => "EQUALS"
  | notEquals => "NOT_EQUALS"
  | greaterThan => "GREATER_THAN"
  | greaterThanOrEqual => "GREATER_THAN_OR_EQUAL"
  | lessThan => "LESS_THAN"
  | lessThanOrEqual => "LESS_THAN_OR_EQUAL"
  | isIn => "IN"
  | isNotIn => "NOT_IN"
  | like => "LIKE"
  | notLike => "NOT_LIKE"
  | isNull => "IS_NULL"
  | isNotNull => "IS_NOT_NULL"
  | between => "BETWEEN"

/-- The name of a comparison in messages. -/
def title : Comparison → String
  | equals => "Equals"
  | notEquals => "NotEquals"
  | greaterThan => "GreaterThan"
  | greaterThanOrEqual => "GreaterThanOrEqual"
  | lessThan => "LessThan"
  | lessThanOrEqual => "LessThanOrEqual"
  | isIn => "In"
  | isNotIn => "NotIn"
  | like => "Like"
  | notLike => "NotLike"
  | isNull => "IsNull"
  | isNotNull => "IsNotNull"
  | between => "Between"

/-- The operator that stands after the column. -/
def sql : Comparison → String
  | equals => "="
  | notEquals => "<>"
  | greaterThan => ">"
  | greaterThanOrEqual => ">="
  | lessThan => "<"
  | lessThanOrEqual => "<="
  | isIn => "IN"
  | isNotIn => "NOT IN"
  | like => "LIKE"
  | notLike => "NOT LIKE"
  | isNull => "IS NULL"
  | isNotNull => "IS NOT NULL"
  | between => "BETWEEN"

/-- The number of values a comparison takes; `none` for one or more. -/
def arity? : Comparison → Option Nat
  | isIn | isNotIn => none
  | isNull | isNotNull => some 0
  | between => some 2
  | _ => some 1

end Comparison

/-- An output column taken as it is. -/
structure Selector where
  column : String
  label : Option String
deriving DecidableEq

/-- An output column computed by an aggregate function; `*` stands for whole rows. -/
structure Aggregate where
  column : String
  function : AggregateFunction
  label : Option String
deriving DecidableEq

/-- The name of an aggregate's output column: its label, or the function applied to
the column. -/
def Aggregate.outputName (a : Aggregate) : String :=
  a.label.getD (String.ofList (a.function.apply a.column.toList))

/-- A condition on the rows, or on the groups if it is about an aggregate. -/
structure Filter where
  column : String
  comparison : Comparison
  values : List Operand
  aggregate : Option AggregateFunction
deriving DecidableEq

/-- A column that rows are grouped by. -/
structure GroupKey where
  column : String
deriving DecidableEq

/-- The direction of a sort. -/
inductive SortDirection
  | ascending
  | descending
deriving DecidableEq

/-- The word for a direction. -/
def SortDirection.name : SortDirection → String
  | ascending => "ASC"
  | descending => "DESC"

/-- A column, or an aggregate of it, that rows are sorted by. -/
structure SortKey where
  column : String
  direction : SortDirection
  aggregate : Option AggregateFunction
deriving DecidableEq

/-- The operations of one execution. -/
structure Request where
  selectors : List Selector
  aggregates : List Aggregate
  filters : List Filter
  groups : List GroupKey
  orders : List SortKey
  pageInfo : PageInfo
  /-- Whether the rows are fetched in full and aggregated outside the source. -/
  localAggregate : Bool
deriving DecidableEq

namespace Request

/-- The request for a page of the script itself. -/
def ofPage (page : PageInfo) : Request :=
  ⟨[], [], [], [], [], page, false⟩

/-- Whether anything has to be rendered around the script. -/
def hasOperations (r : Request) : Bool :=
  !(r.selectors.isEmpty && r.aggregates.isEmpty && r.filters.isEmpty && r.groups.isEmpty &&
    r.orders.isEmpty)

end Request

end PagedQuery
