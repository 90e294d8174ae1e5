/-
# Watching a source

A source can be watched: whatever is asked of its driver is put down besides the state of the
world.  What is done with a cursor is a part of its query and not put down.

Watching changes nothing (`Action.Watches`): the results are the same, and so is the state of the
world.  On top of that it is said what is put down.  Reading a cursor puts down nothing
(`Cursor.materialize_watched`, `Cursor.skipRows_watched`); a query on a connection of its own puts
down one visit, or nothing but a refusal (`Action.Visits`); and reading metadata on a connection
of its own puts down a segment (`Source.withConnection_watches`).

The watched program is the program itself, run on a source that writes down what it is asked.  It
is not a second program with the calls written into it, so what is shown of the calls cannot be
missed by it.
-/

import PagedQuery.Pager
import PagedQuery.Proofs.Action
import PagedQuery.Proofs.Source.Calls

namespace PagedQuery

variable {σ α β : Type}

/-- The calls put down so far, and the state of the world. -/
abbrev Watched (σ : Type) : Type :=
  List Call × σ

/-- A step on the world that is put down as a call, whether it fails or not. -/
def Action.noted (call : Call) (x : Action σ α) : Action (Watched σ) α := fun s =>
  let (result, world) := x s.2
  (result, (s.1 ++ [call], world))

/-- A cursor in a world that is watched. -/
def Cursor.watched (c : Cursor σ) : Cursor (Watched σ) where
  columns := c.columns
  nextRow := .onSecond c.nextRow
  skipRow := .onSecond c.skipRow
  positionAt position := .onSecond (c.positionAt position)

/-- A run in a world that is watched. -/
def QueryRun.watched : QueryRun σ → List Call → QueryRun (Watched σ)
  | finish result s, calls => .finish result (calls, s)
  | offer c s resume, calls =>
    .offer c.watched (calls, s) fun answer s => (resume answer s.2).watched s.1

/-- A connection with its number, in a world that is watched.  Every call of it is put down with the
number. -/
def Connection.watched (c : Connection σ) (n : Nat) : Connection (Watched σ) where
  query sql fetchSize s := (c.query sql fetchSize s.2).watched (s.1 ++ [.query n sql])
  currentCatalog := .noted (.metadata n) c.currentCatalog
  catalogs := .noted (.metadata n) c.catalogs
  tables catalog := .noted (.metadata n) (c.tables catalog)
  columns catalog table := .noted (.metadata n) (c.columns catalog table)
  importedKeys catalog table := .noted (.metadata n) (c.importedKeys catalog table)
  close s := (s.1 ++ [.released n], c.close s.2)

/-- A source in a world that is watched. -/
def Source.watched (source : Source σ) : Source (Watched σ) where
  connect s :=
    match source.connect s.2 with
    | (.ok c, world) =>
      (.ok (c.watched (Call.openings s.1)), (s.1 ++ [.opened (Call.openings s.1)], world))
    | (.error e, world) => (.error e, (s.1 ++ [.refused], world))
  capabilities s :=
    let (known, world) := source.capabilities s.2
    (known, (s.1 ++ [.capabilities], world))

namespace Cursor

variable {c : Cursor σ}

/-- Reading rows of a watched cursor is reading them, in the world alone. -/
theorem readOnto_watched (cap : Nat) (done : List Row) :
    c.watched.readOnto cap done = .onSecond (c.readOnto cap done) := by
  induction cap generalizing done with
  | zero => rfl
  | succ cap ih =>
    rw [readOnto, readOnto, Action.onSecond_bind, Action.onSecond_mapFailure]
    refine congrArg _ (funext fun row? => ?_)
    cases row? with
    | none => rfl
    | some row => exact ih (row :: done)

/-- So is reading a table. -/
theorem materialize_watched (cap : Nat) :
    c.watched.materialize cap = .onSecond (c.materialize cap) := by
  rw [materialize, materialize, readRows, readRows, readOnto_watched]
  simp only [Action.onSecond_bind]
  rfl

/-- So is passing over rows. -/
theorem skipRows_watched (count : Nat) :
    c.watched.skipRows count = .onSecond (c.skipRows count) := by
  induction count with
  | zero => rfl
  | succ count ih =>
    rw [skipRows, skipRows, Action.onSecond_bind]
    refine congrArg _ (funext fun more => ?_)
    cases more with
    | false => rfl
    | true => exact ih

end Cursor

namespace QueryRun

/-- Declining every cursor a driver offers puts down nothing. -/
theorem decline_watched (run : QueryRun σ) (calls : List Call) :
    (run.watched calls).decline = (run.decline.1, (calls, run.decline.2)) := by
  induction run with
  | finish result s => rfl
  | offer c s resume ih => exact ih (.ok ()) s

/-- Neither does reading the first one, if the reading itself does not. -/
theorem collect_watched {read : Cursor σ → Action σ α}
    {readWatched : Cursor (Watched σ) → Action (Watched σ) α}
    (same : ∀ c, readWatched c.watched = .onSecond (read c)) (run : QueryRun σ)
    (calls : List Call) :
    (run.watched calls).collect readWatched =
      ((run.collect read).1, (calls, (run.collect read).2)) := by
  cases run with
  | finish result s => rfl
  | offer c s resume =>
    rw [watched, collect, collect, same, Action.onSecond]
    dsimp only
    rcases read c s with ⟨_ | a, s'⟩ <;> simp only [decline_watched]

end QueryRun

/-- A query on a watched connection is the query, put down as one call. -/
theorem Connection.withCursor_watched {read : Cursor σ → Action σ α}
    {readWatched : Cursor (Watched σ) → Action (Watched σ) α}
    (same : ∀ c, readWatched c.watched = .onSecond (read c)) (c : Connection σ) (n : Nat)
    (sql : String) (fetchSize : Option Nat) :
    (c.watched n).withCursor sql fetchSize readWatched =
      .noted (.query n sql) (c.withCursor sql fetchSize read) := by
  funext ⟨calls, world⟩
  have run := QueryRun.collect_watched same (c.query sql fetchSize world)
    (calls ++ [.query n sql])
  simp only [withCursor, watched, run, Action.noted]
  rcases (c.query sql fetchSize world).collect read with ⟨_ | _ | a, s⟩ <;> rfl

/-- What is put down for work with a connection: the connection is opened for it and released
after it, or refused. -/
theorem Source.withConnection_watched (source : Source σ)
    (use : Connection (Watched σ) → Action (Watched σ) α) (calls : List Call) (world : σ) :
    source.watched.withConnection use (calls, world) =
      match source.connect world with
      | (.error e, world) => (.error e, (calls ++ [.refused], world))
      | (.ok c, world) =>
        let n := Call.openings calls
        let (result, s) := use (c.watched n) (calls ++ [.opened n], world)
        (result, (s.1 ++ [.released n], c.close s.2)) := by
  simp only [withConnection, watched]
  rcases source.connect world with ⟨e | c, world'⟩ <;> rfl

/-- Whether an action does in a world that is watched what another does in the world, in one
visit to the source for a query; where the connection is refused, it fails. -/
def Action.Visits (sql : String) (y : Action (Watched σ) α) (x : Action σ α) : Prop :=
  ∀ calls world, ∃ own, y (calls, world) = ((x world).1, (calls ++ own, (x world).2)) ∧
    Call.IsAttempt (Call.openings calls) sql own ∧
    (own = [.refused] → ∃ e, (x world).1 = .error e)

/-- A query on a connection of its own is a visit. -/
theorem Source.withConnection_visits {source : Source σ} {read : Cursor σ → Action σ α}
    {readWatched : Cursor (Watched σ) → Action (Watched σ) α}
    (same : ∀ c, readWatched c.watched = .onSecond (read c)) (sql : String)
    (fetchSize : Option Nat) :
    Action.Visits sql
      (source.watched.withConnection fun c => c.withCursor sql fetchSize readWatched)
      (source.withConnection fun c => c.withCursor sql fetchSize read) := by
  intro calls world
  rw [withConnection_watched, withConnection]
  rcases source.connect world with ⟨e | c, world'⟩
  · exact ⟨[.refused], rfl, .inl rfl, fun _ => ⟨e, rfl⟩⟩
  · refine ⟨Call.visit (Call.openings calls) sql, ?_, .inr rfl, fun refused => by cases refused⟩
    simp only [Connection.withCursor_watched same, Action.noted, Call.visit, List.append_assoc,
      List.cons_append, List.nil_append]

/-- A state besides which calls are put down. -/
class Watching (S : Type) (T : outParam Type) where
  /-- The calls put down so far. -/
  calls : S → List Call
  /-- Whether it is known what the driver can do. -/
  asked : S → Bool
  /-- The state without the calls. -/
  plain : S → T

/-- In a world nothing is known of the driver, so that asking it is never in place. -/
instance : Watching (Watched σ) σ :=
  ⟨Prod.fst, fun _ => false, Prod.snd⟩

section Watching

variable {S T : Type} [Watching S T] {R : S → S → Prop}

open Watching

/-- Whether an action does to a state that is watched what another does to the state alone, and
ends in a state that it may come to. -/
def Action.Watches (R : S → S → Prop) (y : Action S α) (x : Action T α) : Prop :=
  ∀ s, (y s).1 = (x (plain s)).1 ∧ plain (y s).2 = (x (plain s)).2 ∧ R s (y s).2

/-- Whether a state comes of another by work that keeps to itself: its calls are a segment behind
those before. -/
def Watching.Disciplined (s s' : S) : Prop :=
  ∃ own, calls s' = calls s ++ own ∧ Call.IsSegment (asked s) (calls s) own (asked s')

/-- Whether a state comes of another by calls of a class. -/
def Watching.Adds (P : Call → Prop) (s s' : S) : Prop :=
  ∃ own, calls s' = calls s ++ own ∧ ∀ call ∈ own, P call

/-- No work keeps to itself, and so does work after work. -/
instance : IsPreorder S Watching.Disciplined where
  refl s := ⟨[], (List.append_nil _).symm, .nil⟩
  trans := by
    rintro s s' s'' ⟨own, same, segment⟩ ⟨own', same', segment'⟩
    refine ⟨own ++ own', by rw [same', same, List.append_assoc], segment.append ?_⟩
    rw [← same]
    exact segment'

/-- Calls of a class after calls of it are of the class. -/
instance (P : Call → Prop) : IsPreorder S (Watching.Adds P) where
  refl s := ⟨[], (List.append_nil _).symm, fun _ inside => absurd inside List.not_mem_nil⟩
  trans := by
    rintro s s' s'' ⟨own, same, all⟩ ⟨own', same', all'⟩
    refine ⟨own ++ own', by rw [same', same, List.append_assoc], fun call inside => ?_⟩
    exact (List.mem_append.1 inside).elim (all call) (all' call)

namespace Action.Watches

variable {x : Action T α} {y : Action S α} {f : α → Action T β} {g : α → Action S β}

/-- A value is given without a call. -/
theorem give [Std.Refl R] (a : α) : Watches R (.give a) (.give a : Action T α) :=
  fun s => ⟨rfl, rfl, Std.Refl.refl s⟩

/-- A failure is one without a call. -/
theorem fail [Std.Refl R] (e : Failure) : Watches R (.fail e) (.fail e : Action T α) :=
  fun s => ⟨rfl, rfl, Std.Refl.refl s⟩

/-- So is a result that was known before. -/
theorem ofExcept [Std.Refl R] (r : Except Failure α) :
    Watches R (.ofExcept r) (.ofExcept r : Action T α) :=
  fun s => ⟨rfl, rfl, Std.Refl.refl s⟩

/-- Actions that are watched one after the other are watched, if what they may come to is
transitive.  The second one is only looked at where the first gave a value. -/
theorem bind [IsTrans S R] (h : Watches R y x) (next : ∀ a, Watches R (g a) (f a)) :
    Watches R (y >>= g) (x >>= f) := by
  intro s
  obtain ⟨result, world, related⟩ := h s
  rw [bind_apply, bind_apply]
  rcases run : y s with ⟨_ | a, s'⟩ <;> rw [run] at result world related <;>
    rcases plainRun : x (plain s) with ⟨_ | b, t⟩ <;> rw [plainRun] at result world
  · exact ⟨congrArg _ (Except.error.inj result), world, related⟩
  · cases result
  · cases result
  · obtain rfl := Except.ok.inj result
    obtain rfl := world
    obtain ⟨result', world', related'⟩ := next a s'
    exact ⟨result', world', IsTrans.trans s s' _ related related'⟩

end Action.Watches

end Watching

open Watching (Adds Disciplined)

/-- A question about metadata is put down as one. -/
theorem Action.noted_watches (n : Nat) (x : Action σ α) :
    Watches (Adds (· = .metadata n)) (.noted (.metadata n) x) x :=
  fun _ => ⟨rfl, rfl, [.metadata n], rfl, fun _ inside => List.mem_singleton.1 inside⟩

/-- A step on the world of which nothing is put down. -/
theorem Action.onSecond_watches (x : Action σ α) :
    Watches Disciplined (.onSecond x : Action (Watched σ) α) x :=
  fun _ => ⟨rfl, rfl, [], (List.append_nil _).symm, .nil⟩

/-- A visit keeps to itself. -/
theorem Action.Visits.watches {sql : String} {y : Action (Watched σ) α} {x : Action σ α}
    (h : Visits sql y x) : Watches Disciplined y x := by
  rintro ⟨calls, world⟩
  obtain ⟨own, run, attempt, -⟩ := h calls world
  rw [run]
  exact ⟨rfl, rfl, own, rfl, .attempt attempt⟩

/-- Metadata is read on a connection opened for it. -/
theorem Source.withConnection_watches {source : Source σ} {use : Connection σ → Action σ α}
    {useWatched : Connection (Watched σ) → Action (Watched σ) α}
    (reads : ∀ c n, Action.Watches (Adds (· = .metadata n)) (useWatched (c.watched n)) (use c)) :
    Action.Watches Disciplined (source.watched.withConnection useWatched)
      (source.withConnection use) := by
  rintro ⟨calls, world⟩
  rw [withConnection_watched]
  change _ = (source.withConnection use world).1 ∧ _ = (source.withConnection use world).2 ∧ _
  rw [withConnection]
  rcases source.connect world with ⟨e | c, world'⟩
  -- Nothing was opened, and nothing is to be released.
  · exact ⟨rfl, rfl, [.refused], rfl, .single rfl rfl⟩
  · let n := Call.openings calls
    obtain ⟨result, plain, own, calls_eq, all⟩ := reads c n (calls ++ [.opened n], world')
    have about : ∀ call ∈ own, call.use? = some n := fun call inside => by
      rw [all call inside]
      rfl
    -- Only metadata was asked for on the connection.
    have never : own.countP (Call.isQueryOn n) = 0 := List.countP_eq_zero.2 fun call inside => by
      rw [all call inside]
      exact Bool.false_ne_true
    refine ⟨result, congrArg c.close plain, .opened n :: own ++ [.released n], ?_,
      .connection about (Nat.le_trans (Nat.le_of_eq never) (Nat.zero_le 1))⟩
    change (useWatched (c.watched n) (calls ++ [.opened n], world')).2.1 ++ [.released n] =
      calls ++ (.opened n :: own ++ [.released n])
    have put : (useWatched (c.watched n) (calls ++ [.opened n], world')).2.1 =
        (calls ++ [.opened n]) ++ own := calls_eq
    rw [put, List.append_assoc, List.append_assoc]
    rfl

end PagedQuery
