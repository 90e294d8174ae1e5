/-
# What an aggregator is handed

A request that is aggregated locally either fails before the aggregator comes in, or it
is answered with what the aggregator gives for one table.  Both are said of all
aggregators at once (`FailsBeforehand`, `HandsOver`), so that they are statements about
the execution alone, and one of them always holds (`failsBeforehand_or_handsOver`).

The table holds the rows that the cursor of the script's query gave, in order and as they
were given, up to the cap of the configuration.  It is complete if and only if there are
no more rows than the cap (`handsOver_capped`), and nothing in it says which of the two it
is (`exists_handsOver_shortened`).
-/

import PagedQuery.Proofs.Adapter.Frame
import PagedQuery.Proofs.Rehearsal.Answers
import PagedQuery.Proofs.Source.Reading

namespace PagedQuery
namespace Adapter

variable {σ : Type}

/-- The adapter with an aggregator.  What is handed over must not depend on it, so it is exchanged
for any other. -/
def withAggregator (a : Adapter σ) (aggregate : Aggregator σ) : Adapter σ :=
  { a with aggregator := some aggregate }

/-- Whether an execution is answered, whatever the aggregator, with what it gives for one
table in a session. -/
def HandsOver (a : Adapter σ) (script : QueryScript) (request : Request) (session : Session σ)
    (table : Table) (called : Session σ) : Prop :=
  ∀ aggregate : Aggregator σ, (a.withAggregator aggregate).execute script (request, session) =
    Action.onSecond (Session.onWorld (aggregate none request [table])) (request, called)

/-- Whether an execution fails, whatever the aggregator.  One failure and one state are asked for,
so the aggregator cannot have been called. -/
def FailsBeforehand (a : Adapter σ) (script : QueryScript) (request : Request)
    (session : Session σ) : Prop :=
  ∃ e after, ∀ aggregate : Aggregator σ,
    (a.withAggregator aggregate).execute script (request, session) = (.error e, (request, after))

/-- The table for the aggregator: the script's rows up to the cap, with the declared types, under
the script's key, and with its SQL. -/
def handed (a : Adapter σ) (script : QueryScript) (request : Request) :
    Action (Session σ) Table := do
  let sql ← .ofExcept (a.resolution.dialect.render script request .scriptOnly)
  let table ← a.runQuery sql
  return ((table.withDeclaredTypes script.declaredType?).withName script.key).withScript sql

variable {a : Adapter σ} {script : QueryScript} {request : Request} {session called : Session σ}
  {table : Table}

/-- A local execution is the table for the aggregator, and then the aggregator. -/
theorem execute_withAggregator (locally : request.localAggregate = true)
    (aggregate : Aggregator σ) :
    (a.withAggregator aggregate).execute script (request, session) =
      Action.onSecond (a.handed script request >>= fun table =>
        Session.onWorld (aggregate none request [table])) (request, session) := by
  have split : (a.withAggregator aggregate).executeLocally script request =
      a.handed script request >>= fun table =>
        Session.onWorld (aggregate none request [table]) := by
    simp only [handed, bind_assoc, pure_bind]
    rfl
  rw [execute, if_pos locally, split]

/-- If a table can be made for the aggregator, the execution hands it over. -/
theorem handsOver_of_handed (locally : request.localAggregate = true)
    (gave : a.handed script request session = (.ok table, called)) :
    a.HandsOver script request session table called := by
  intro aggregate
  rw [execute_withAggregator locally, Action.onSecond, Action.bind_apply, gave]
  rfl

/-- If none can be made, the execution fails before the aggregator comes in, whichever it is. -/
theorem failsBeforehand_of_handed (locally : request.localAggregate = true) {e : Failure}
    (failed : a.handed script request session = (.error e, called)) :
    a.FailsBeforehand script request session := by
  refine ⟨e, called, fun aggregate => ?_⟩
  rw [execute_withAggregator locally, Action.onSecond, Action.bind_apply, failed]

/-- What is handed over is the table for the aggregator: an aggregator that gives back what
it is handed can tell. -/
theorem handsOver_iff (locally : request.localAggregate = true) :
    a.HandsOver script request session table called ↔
      a.handed script request session = (.ok table, called) := by
  refine ⟨fun handsOver => ?_, handsOver_of_handed locally⟩
  have answer := handsOver fun _ _ tables => .give (tables.headD table)
  rw [execute_withAggregator locally, Action.onSecond, Action.bind_apply] at answer
  rcases gave : a.handed script request session with ⟨e | other, after⟩
  · rw [gave] at answer
    cases (Prod.mk.inj answer).1
  · rw [gave] at answer
    obtain ⟨same, kept⟩ := Prod.mk.inj answer
    obtain rfl : other = table := Except.ok.inj same
    obtain rfl : after = called := (Prod.mk.inj kept).2
    rfl

/-- A local execution fails beforehand or hands a table over. -/
theorem failsBeforehand_or_handsOver (locally : request.localAggregate = true) :
    a.FailsBeforehand script request session ∨
      ∃ table called, a.HandsOver script request session table called := by
  rcases gave : a.handed script request session with ⟨e | table, called⟩
  · exact .inl (failsBeforehand_of_handed locally gave)
  · exact .inr ⟨table, called, handsOver_of_handed locally gave⟩

/-- The table that is handed over is the result of the script alone, with its declared types, and
named after the key of the script. -/
theorem handed_eq_ok_iff :
    a.handed script request session = (.ok table, called) ↔
      ∃ sql read, a.resolution.dialect.render script request .scriptOnly = .ok sql ∧
        a.runQuery sql session = (.ok read, called) ∧
        table = ((read.withDeclaredTypes script.declaredType?).withName script.key).withScript
          sql := by
  simp only [handed, Action.bind_eq_ok_iff, Action.ofExcept_eq_ok_iff, Action.pure_apply,
    Prod.mk.injEq, Except.ok.injEq]
  constructor
  · rintro ⟨sql, _, ⟨rendered, rfl⟩, read, _, ran, rfl, rfl⟩
    exact ⟨sql, read, rendered, ran, rfl⟩
  · rintro ⟨sql, read, rendered, ran, rfl⟩
    exact ⟨sql, session, ⟨rendered, rfl⟩, read, called, ran, rfl, rfl⟩

/-- **An aggregator is handed the rows up to the cap.**  A local execution fails beforehand or
hands a table over.  The table that is handed over has the rows that the cursor offered for
the script's query gave, in order and unchanged, and the cursor had no more unless there are
as many as the cap; if all that it has are `rows`, the table has the first of them up to the
cap, which are all of them if and only if there are no more than the cap.  From a source that
answers the query with rows a table is handed over if the first rows up to the cap fit the
columns. -/
theorem handsOver_capped (a : Adapter σ) (script : QueryScript) (request : Request)
    (session : Session σ) (locally : request.localAggregate = true) :
    (a.FailsBeforehand script request session ∨
      ∃ table called, a.HandsOver script request session table called) ∧
    (∀ table called, a.HandsOver script request session table called →
      ∃ sql known asked cursor start stop,
        a.resolution.dialect.render script request .scriptOnly = .ok sql ∧
        a.capabilities session = (.ok known, asked) ∧
        a.source.Offers asked.world sql none cursor start ∧
        cursor.ReadsUpTo a.config.effectiveRowCap.toNat start table.rows stop ∧
        table.name = some script.key ∧ table.script = some sql ∧
        ∀ rows, cursor.GivesAll start rows →
          table.rows = rows.take a.config.effectiveRowCap.toNat ∧
          (table.rows = rows ↔ rows.length ≤ a.config.effectiveRowCap.toNat)) ∧
    ∀ sql ready known canMove columns rows,
      a.resolution.dialect.render script request .scriptOnly = .ok sql →
      a.capabilities.EndsIn session (.ok known) (fun s => ready s.world) →
      a.source.Answers ready canMove sql columns rows →
      (∀ row ∈ rows.take a.config.effectiveRowCap.toNat, row.length = columns.length) →
        ∃ table called, a.HandsOver script request session table called ∧
          table.rows = rows.take a.config.effectiveRowCap.toNat := by
  refine ⟨failsBeforehand_or_handsOver locally, fun table called handsOver => ?_, ?_⟩
  -- What is handed over comes from one run of the query, and that run from one cursor.
  · obtain ⟨sql, read, rendered, ran, rfl⟩ :=
      handed_eq_ok_iff.1 ((handsOver_iff locally).1 handsOver)
    obtain ⟨known, asked, answered, executed, -⟩ := runQuery_eq_ok_iff.1 ran
    obtain ⟨cursor, start, stop, offers, reads, -⟩ := Pager.exists_offers_of_execute executed
    refine ⟨sql, known, asked, cursor, start, stop, rendered, answered, offers, reads, rfl, rfl,
      fun rows given => ?_⟩
    have first : read.rows = rows.take a.config.effectiveRowCap.toNat := reads.eq_take given
    -- If the first rows up to the cap are all rows, there are no more than the cap, by their
    -- number.
    refine ⟨first, fun same => ?_, fun few => first.trans (List.take_of_length_le few)⟩
    have length := congrArg List.length (first.symm.trans same)
    rw [List.length_take] at length
    omega
  -- Conversely a source that answers is read up to the cap, and nothing between the reading and
  -- the aggregator can fail.
  · intro sql ready known canMove columns rows rendered asked answers fits
    obtain ⟨session', answered, here⟩ := asked
    obtain ⟨world, executed, -⟩ := Source.Answers.execute
      (p := a.pagerWith known) answers a.config.effectiveRowCap.toNat fits here
    have ran : a.runQuery sql session = (.ok _, { session' with world }) :=
      runQuery_eq_ok_iff.2 ⟨known, session', answered, executed, rfl⟩
    have gave := handed_eq_ok_iff.2 ⟨sql, _, rendered, ran, rfl⟩
    exact ⟨_, _, handsOver_of_handed locally gave, rfl⟩

/-- An adapter over a rehearsed source of numbered rows. -/
def counting (rowCap : Option UInt64) (count : Nat) : Adapter Rehearsal.Stage :=
  ⟨{ AdapterConfig.ofDriver ⟨"generic", none, none, false⟩ with rowCap },
    (Rehearsal.Script.counted count false).source, none⟩

/-- A request for an aggregator. -/
def localRequest : Request :=
  { Request.ofPage .first with localAggregate := true }

/-- The script of the example has a text. -/
theorem render_localRequest (rowCap : Option UInt64) (count : Nat) :
    (counting rowCap count).resolution.dialect.render (.ofText "SELECT 1") localRequest .scriptOnly =
      .ok "SELECT 1" := by
  have rendered : (DriverInfo.resolve ⟨"generic", none, none, false⟩).dialect.render
      (.ofText "SELECT 1") localRequest .scriptOnly = .ok "SELECT 1" :=
    ok_of_toOption (by decide +kernel)
  exact rendered

/-- Without a cap all of seven rows are handed over. -/
theorem handsOver_capped_seven :
    localRequest.localAggregate = true ∧
    ∃ table called,
      (counting none 7).HandsOver (.ofText "SELECT 1") localRequest (.start .empty) table called ∧
      table.rows = (Rehearsal.PreparedRows.counted 7 false).all := by
  obtain ⟨-, -, hands⟩ := handsOver_capped (counting none 7) (.ofText "SELECT 1") localRequest
    (.start .empty) rfl
  obtain ⟨table, called, handsOver, rows⟩ := hands "SELECT 1" (fun _ => True) _ _ _ _
    (render_localRequest none 7) ⟨_, rfl, trivial⟩
    (Rehearsal.Script.counted_answers 7 false "SELECT 1") fun _ inside =>
      Rehearsal.PreparedRows.length_of_mem_counted (List.mem_of_mem_take inside)
  exact ⟨rfl, table, called, handsOver, rows.trans (by decide +kernel)⟩

/-- With a cap of two the first two of three rows are handed over, and nothing fails. -/
theorem exists_handsOver_shortened :
    let rows := Rehearsal.PreparedRows.counted 3 false
    (counting (some 2) 3).config.validate = .ok () ∧
    (counting (some 2) 3).resolution.dialect.render (.ofText "SELECT 1") localRequest .scriptOnly =
      .ok "SELECT 1" ∧
    (counting (some 2) 3).source.Answers (fun _ => True) false "SELECT 1" rows.columns rows.all ∧
    ∃ table called,
      (counting (some 2) 3).HandsOver (.ofText "SELECT 1") localRequest (.start .empty) table
        called ∧
      table.rows = rows.all.take 2 ∧ table.rows ≠ rows.all := by
  intro rows
  refine ⟨ok_of_toOption (by decide +kernel), render_localRequest _ _,
    Rehearsal.Script.counted_answers 3 false _, ?_⟩
  -- The rows of the table that is handed over, computed.
  have read : (((counting (some 2) 3).handed (.ofText "SELECT 1") localRequest
      (.start .empty)).1.toOption.map Table.rows) = some (rows.all.take 2) := by decide +kernel
  obtain ⟨table, called, gave, first⟩ := Action.exists_ok_of_toOption_map read
  refine ⟨table, called, handsOver_of_handed rfl gave, first, ?_⟩
  rw [first]
  decide +kernel

end Adapter
end PagedQuery
