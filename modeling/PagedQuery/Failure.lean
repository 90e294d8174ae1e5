/-
# Failures

Why an operation failed, and the one text that each cause is shown with.

Most causes stand for a stage at which things go wrong: reaching the source (`connection`),
writing the SQL of a script or a request (`render`), having the source run it (`execution`, with
the SQL), reading the rows into a table (`materialization`).  A page that does not exist is an
`invalidParameter`.  Aggregation outside the source fails with `aggregation`, or with
`aggregatorMissing` where nobody does it.  The rest belong to what surrounds a query: a
`configuration` that is not valid, a file (`io`) or a JSON text (`serialization`) that cannot be
read.
-/

namespace PagedQuery

/-- The cause of a failure. -/
inductive Failure
  | connection (message : String)
  | render (message : String)
  | execution (sql message : String)
  | materialization (message : String)
  | invalidParameter (message : String)
  | aggregatorMissing
  | aggregation (message : String)
  | configuration (message : String)
  | io (message : String)
  | serialization (message : String)
deriving DecidableEq

namespace Failure

/-- The text a failure is shown with. -/
def text : Failure → String
  | connection m => "Connection error: " ++ m
  | render m => "Render error: " ++ m
  | execution sql m => "Execution error: " ++ m ++ " (sql: " ++ sql ++ ")"
  | materialization m => "Materialization error: " ++ m
  | invalidParameter m => "Invalid parameter: " ++ m
  | aggregatorMissing => "Local aggregation requested but no local aggregator is configured"
  | aggregation m => "Local aggregation error: " ++ m
  | configuration m => "Configuration error: " ++ m
  | io m => "I/O error: " ++ m
  | serialization m => "Serialization error: " ++ m

/-- Whether a failure was raised while rendering. -/
def isRender : Failure → Bool
  | render _ => true
  | _ => false

/-- The failure of a cursor, said as one of reading a table. -/
def asMaterialization : Failure → Failure
  | materialization m => materialization m
  | other => materialization other.text

end Failure

end PagedQuery
