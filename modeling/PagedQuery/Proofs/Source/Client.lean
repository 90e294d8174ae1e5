/-
# The client of a query

A driver calls its client as often as it likes, each time with a cursor, makes of the client's
answers what it wants, and ends the query with a result of its own.  The client holds one
computation on a cursor, and takes it out before it runs it.  So the first call runs the
computation on its cursor and is answered with its failure, or that all is well; every other call
finds nothing to run and is answered that all is well.

What the computation gave is put aside until the query has ended, and it counts only if the query
ended well.  Reading the first cursor and declining the others is the same
(`QueryRun.collect_eq_converse`), so this is what comes of a query with any driver
(`Connection.withCursor_any_driver`).  Since a driver is a tree of the answers it may be given,
the proof is an induction on the driver for the calls after the first (`converse_of_spent`) and a
look at the first one.
-/

import PagedQuery.Source.Basic

namespace PagedQuery

variable {σ α : Type}

/-- What a client holds between the calls of its driver.  The computation is there to be run once:
it is taken when it is run. -/
structure Client (σ α : Type) where
  /-- The computation, until it is run. -/
  computation : Option (Cursor σ → Action σ α)
  /-- The value that the computation gave. -/
  output : Option α

/-- What comes of one call of a client. -/
structure Client.Reply (σ α : Type) where
  /-- What the driver is told. -/
  answer : Except Failure Unit
  client : Client σ α
  state : σ
  /-- What the computation ended with, if it was run in this call. -/
  ran : Option (Except Failure α)

/-- One call of a client: what it was made with, and what the computation ended with if it was run.
It is the record the statements are about. -/
structure Offering (σ α : Type) where
  cursor : Cursor σ
  state : σ
  ran : Option (Except Failure α)

/-- What a driver and its client have done when the query has ended. -/
structure Conversation (σ α : Type) where
  /-- The calls of the client, in order. -/
  offerings : List (Offering σ α)
  /-- The result of the query. -/
  outcome : Except Failure Unit
  client : Client σ α
  state : σ

namespace Client

/-- A client whose computation is still to be run. -/
def start (read : Cursor σ → Action σ α) : Client σ α :=
  ⟨some read, none⟩

/-- A call of a client with a cursor.  A client that has been called before takes the cursor and
does nothing with it. -/
def serve (client : Client σ α) (cursor : Cursor σ) (s : σ) : Reply σ α :=
  match client.computation with
  | none => ⟨.ok (), client, s, none⟩
  | some read =>
    match read cursor s with
    | (.ok a, s) => ⟨.ok (), ⟨none, some a⟩, s, some (.ok a)⟩
    | (.error e, s) => ⟨.error e, ⟨none, client.output⟩, s, some (.error e)⟩

end Client

/-- A driver's run with a client that is called with every cursor the driver offers.  The driver
hears each answer and may go on as it likes. -/
def QueryRun.converse : QueryRun σ → Client σ α → Conversation σ α
  | finish result s, client => ⟨[], result, client, s⟩
  | offer cursor s resume, client =>
    let reply := client.serve cursor s
    let rest := (resume reply.answer reply.state).converse reply.client
    { rest with offerings := ⟨cursor, s, reply.ran⟩ :: rest.offerings }

namespace Conversation

/-- What the computation ended with, each time it was run. -/
def runs (talk : Conversation σ α) : List (Except Failure α) :=
  talk.offerings.filterMap Offering.ran

/-- What the client makes of the end of a query: the driver's failure comes first, and without a
value there is no success. -/
def result (talk : Conversation σ α) (sql : String) : Except Failure α :=
  match talk.outcome, talk.client.output with
  | .error e, _ => .error e
  | .ok (), some a => .ok a
  | .ok (), none => .error (Connection.noCursor sql)

end Conversation

namespace QueryRun

variable {client : Client σ α}

/-- A client without a computation leaves every cursor alone and is content, however often it is
called. -/
theorem converse_of_spent (run : QueryRun σ) (spent : client.computation = none) :
    (∀ offering ∈ (run.converse client).offerings, offering.ran = none) ∧
      (run.converse client).outcome = run.decline.1 ∧ (run.converse client).client = client ∧
      (run.converse client).state = run.decline.2 := by
  induction run with
  | finish result s => exact ⟨fun _ inside => absurd inside List.not_mem_nil, rfl, rfl, rfl⟩
  | offer cursor s resume ih =>
    have served : client.serve cursor s = ⟨.ok (), client, s, none⟩ := by
      rw [Client.serve, spent]
    rw [converse, served]
    obtain ⟨later, ended⟩ := ih (.ok ()) s
    exact ⟨List.forall_mem_cons.2 ⟨rfl, later⟩, ended⟩

/-- In the first call the computation is run on the cursor of the call, and it is gone then. -/
theorem serve_start (read : Cursor σ → Action σ α) (cursor : Cursor σ) (s : σ) :
    (Client.start read).serve cursor s =
      ⟨(read cursor s).1.map fun _ => (), ⟨none, (read cursor s).1.toOption⟩, (read cursor s).2,
        some (read cursor s).1⟩ := by
  simp only [Client.serve, Client.start]
  rcases read cursor s with ⟨_ | a, s'⟩ <;> rfl

/-- With a client whose computation is still to be run, a driver that offers a cursor goes on as
with one that declines all others. -/
theorem converse_start_offer (read : Cursor σ → Action σ α) (cursor : Cursor σ) (s : σ)
    (resume : Except Failure Unit → σ → QueryRun σ) :
    let talk := (offer cursor s resume).converse (.start read)
    let rest := (resume ((read cursor s).1.map fun _ => ()) (read cursor s).2).decline
    talk.outcome = rest.1 ∧ talk.client = ⟨none, (read cursor s).1.toOption⟩ ∧
      talk.state = rest.2 ∧
      ∃ later, talk.offerings = ⟨cursor, s, some (read cursor s).1⟩ :: later ∧
        ∀ offering ∈ later, offering.ran = none := by
  have spent : (⟨none, (read cursor s).1.toOption⟩ : Client σ α).computation = none := rfl
  rw [converse, serve_start]
  obtain ⟨later, ended, kept, stays⟩ :=
    converse_of_spent (resume ((read cursor s).1.map fun _ => ()) (read cursor s).2) spent
  exact ⟨ended, kept, stays, _, rfl, later⟩

/-- **The computation is run on the first cursor only**: call by call, the first one runs it and
every other one runs nothing. -/
theorem ran_converse_start (read : Cursor σ → Action σ α) (run : QueryRun σ) (i : Nat)
    (offering : Offering σ α)
    (called : (run.converse (.start read)).offerings[i]? = some offering) :
    offering.ran = if i = 0 then some (read offering.cursor offering.state).1 else none := by
  cases run with
  | finish result s => cases called
  | offer cursor s resume =>
    obtain ⟨-, -, -, later, calls, declined⟩ := converse_start_offer read cursor s resume
    rw [calls] at called
    cases i with
    | zero =>
      obtain rfl := Option.some.inj called
      rfl
    | succ i => exact declined offering (List.mem_of_getElem? called)

/-- With a driver that offers a cursor the one run is that on the first. -/
theorem runs_converse_start_offer (read : Cursor σ → Action σ α) (cursor : Cursor σ) (s : σ)
    (resume : Except Failure Unit → σ → QueryRun σ) :
    ((offer cursor s resume).converse (.start read)).runs = [(read cursor s).1] := by
  obtain ⟨-, -, -, later, calls, declined⟩ := converse_start_offer read cursor s resume
  rw [Conversation.runs, calls, List.filterMap_cons, List.filterMap_eq_nil_iff.2 declined]

/-- The computation is run at most once. -/
theorem length_runs_converse_start (read : Cursor σ → Action σ α) (run : QueryRun σ) :
    (run.converse (.start read)).runs.length ≤ 1 := by
  cases run with
  | finish result s => exact Nat.zero_le 1
  | offer cursor s resume => exact Nat.le_of_eq (congrArg List.length (runs_converse_start_offer ..))

/-- The client has a value exactly if a run of the computation gave it. -/
theorem output_converse_start (read : Cursor σ → Action σ α) (run : QueryRun σ) (a : α) :
    (run.converse (.start read)).client.output = some a ↔
      .ok a ∈ (run.converse (.start read)).runs := by
  cases run with
  | finish result s => simp [converse, Client.start, Conversation.runs]
  | offer cursor s resume =>
    obtain ⟨-, kept, -⟩ := converse_start_offer read cursor s resume
    rw [kept, runs_converse_start_offer]
    rcases (read cursor s).1 with e | b <;> simp [Except.toOption, eq_comm]

/-- Reading the first cursor and declining the others is what the client does. -/
theorem collect_eq_converse (read : Cursor σ → Action σ α) (run : QueryRun σ) :
    run.collect read =
      ((run.converse (.start read)).outcome.map fun _ => (run.converse (.start read)).client.output,
        (run.converse (.start read)).state) := by
  cases run with
  | finish result s => rfl
  | offer cursor s resume =>
    obtain ⟨ended, kept, stays, -⟩ := converse_start_offer read cursor s resume
    rw [collect, ended, kept, stays]
    rcases read cursor s with ⟨e | a, s'⟩ <;> rfl

end QueryRun

namespace Connection

/-- A query ends as the client of its driver makes of it. -/
theorem withCursor_eq_result (c : Connection σ) (sql : String) (fetchSize : Option Nat)
    (read : Cursor σ → Action σ α) (s : σ) :
    c.withCursor sql fetchSize read s =
      (((c.query sql fetchSize s).converse (.start read)).result sql,
        ((c.query sql fetchSize s).converse (.start read)).state) := by
  rw [withCursor, QueryRun.collect_eq_converse, Conversation.result]
  rcases ((c.query sql fetchSize s).converse (.start read)) with ⟨_, _ | _, ⟨_, _ | a⟩, _⟩ <;> rfl

/-- **A query is safe with any driver.**  However often the driver calls its client, and whatever
it makes of the answers, the computation is run at most once and on the first cursor only.  The
query has a value exactly if the driver ended well and the computation was run and gave it; the
driver's failure is the failure of the query; and where the driver ended well and no run of the
computation gave a value, the query fails with its SQL. -/
theorem withCursor_any_driver (c : Connection σ) (sql : String) (fetchSize : Option Nat)
    (read : Cursor σ → Action σ α) (s : σ) :
    let talk := (c.query sql fetchSize s).converse (.start read)
    let result := (c.withCursor sql fetchSize read s).1
    c.withCursor sql fetchSize read s = (talk.result sql, talk.state) ∧
      talk.runs.length ≤ 1 ∧
      (∀ i offering, talk.offerings[i]? = some offering →
        offering.ran = if i = 0 then some (read offering.cursor offering.state).1 else none) ∧
      (∀ a, result = .ok a ↔ talk.outcome = .ok () ∧ .ok a ∈ talk.runs) ∧
      (∀ e, talk.outcome = .error e → result = .error e) ∧
      (talk.outcome = .ok () → (∀ a, .ok a ∉ talk.runs) →
        result = .error (.execution sql "driver did not produce a result cursor")) := by
  intro talk result
  have ended := withCursor_eq_result c sql fetchSize read s
  have made : result = talk.result sql := congrArg Prod.fst ended
  -- The client keeps the value of the one run it has made, and no other.
  have gave := QueryRun.output_converse_start read (c.query sql fetchSize s)
  refine ⟨ended, QueryRun.length_runs_converse_start read _,
    QueryRun.ran_converse_start read _, fun a => ?_, fun e failed => ?_, fun well none => ?_⟩
  -- The result by the outcome of the driver and by what the client has kept.
  · rw [made, ← gave a, Conversation.result]
    change _ ↔ _ ∧ talk.client.output = some a
    rcases talk.outcome with e | _ <;> rcases talk.client.output with _ | b <;> simp
  · rw [made, Conversation.result, failed]
  · have empty : talk.client.output = Option.none :=
      Option.eq_none_iff_forall_ne_some.2 fun a some => none a ((gave a).1 some)
    rw [made, Conversation.result, well, empty]
    rfl

/-- A driver offers two cursors and makes nothing of a failure: the computation is run once, and
there is no value. -/
example (cursor : Cursor Unit) (e : Failure) :
    let run : QueryRun Unit := .offer cursor () fun _ s => .offer cursor s fun _ => .finish (.ok ())
    let talk := run.converse (.start fun _ => (.fail e : Action Unit Nat))
    talk.offerings.length = 2 ∧ talk.runs = [.error e] ∧
      talk.result "SELECT 1" = .error (Connection.noCursor "SELECT 1") :=
  ⟨rfl, rfl, rfl⟩

end Connection
end PagedQuery
