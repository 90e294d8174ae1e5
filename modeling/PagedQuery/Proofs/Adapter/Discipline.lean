/-
# What an adapter asks of its driver

An adapter is used for one operation after another, on a source that may answer as it likes and
fail anywhere.  What the driver can do is asked once in all, or never.  A connection is asked for
once for every query, and once for the metadata that an operation is about; on a connection there
is one query, or none.  An operation uses its own connections only, an operation that cannot be
answered asks for none, and a total is counted after its page was read (`run_disciplined`).

What is asked is seen by watching the source (`Source.watched`).  The proof goes up through the
layers of an execution.  A query on a connection of its own is one visit (`Pager.execute_visits`
and its neighbours).  Pieces of work that keep to themselves can be chained, since segments that
follow one another are a segment; so the calls of one operation are a segment (`perform_watches`),
and by induction on the operations so are those of a whole run (`run_watches`).  What a segment
excludes is said once, of segments, and not of operations.
-/

import PagedQuery.Proofs.Adapter.Frame
import PagedQuery.Proofs.Source.Watch

namespace PagedQuery

variable {σ α : Type}

open Watching (Disciplined)

namespace Pager

/-- A pager over a source that is watched. -/
def watched (p : Pager σ) : Pager (Watched σ) :=
  ⟨p.source.watched, p.capabilities, p.maxFetchSize⟩

variable {p : Pager σ}

/-- A full query is one visit: its cursor is only read while the connection is open. -/
theorem execute_visits (sql : String) (cap : Nat) :
    Action.Visits sql (p.watched.execute sql cap) (p.execute sql cap) :=
  Source.withConnection_visits (fun _ => Cursor.materialize_watched cap) sql none

/-- Moving a cursor is a part of its query, in both ways of doing it, and nothing is put down for
it. -/
theorem moveTo_watched (sql : String) (position : Nat) (c : Cursor σ) :
    p.watched.moveTo sql position c.watched = .onSecond (p.moveTo sql position c) := by
  rw [moveTo, moveTo]
  split
  · rfl
  · cases positioned : p.capabilities.absolutePositioning with
    | false =>
      rw [if_neg (by simp [watched, positioned]), if_neg (by simp)]
      exact Cursor.skipRows_watched position
    | true =>
      rw [if_pos (by simp [watched, positioned]), if_pos rfl]
      exact (Action.onSecond_mapFailure ..).symm

/-- A page that exists is cut out of a cursor in one visit.  A page that does not is refused before
a connection is asked for, which is why this does not hold of all pages. -/
theorem executePage_visits {page : PageInfo} (valid : page.IsValid) (sql : String) :
    Action.Visits sql (p.watched.executePage sql page) (p.executePage sql page) := by
  have checked := page.validate_eq_ok_iff.2 valid
  simp only [executePage, checked]
  refine Source.withConnection_visits (fun c => ?_) sql _
  rw [Action.onSecond_bind, moveTo_watched]
  exact congrArg _ (funext fun _ => Cursor.materialize_watched _)

/-- Counting rows is one visit, whether or not the answer has a row and the row can be read. -/
theorem count_visits (sql : String) :
    Action.Visits sql (p.watched.count sql) (p.count sql) := by
  refine Source.withConnection_visits (fun c => ?_) sql none
  rw [Action.onSecond_bind]
  refine congrArg _ (funext fun row? => ?_)
  cases row? <;> rfl

/-- A page is read in one visit, unless it is to be cut out of a cursor and does not exist. -/
theorem readPage_visits {page : PageInfo} {strategy : PagingStrategy}
    (reached : strategy = .emulated → page.IsValid) (sql : String) :
    Action.Visits sql (p.watched.readPage strategy sql page) (p.readPage strategy sql page) := by
  cases strategy with
  | native => exact execute_visits sql _
  | emulated => exact executePage_visits (reached rfl) sql

/-- Noting a total asks for one visit at most: none if no total is wanted, or if there is no query
for it. -/
theorem noteTotal_watches (countSql : Option String) (page : PageInfo) :
    Action.Watches Disciplined (p.watched.noteTotal countSql page) (p.noteTotal countSql page) := by
  unfold noteTotal
  split
  · cases countSql with
    | none => exact .fail _
    | some text => exact (count_visits text).watches.bind fun _ => .give _
  · exact .give _

/-- Reading a page and then noting its total keeps to itself. -/
theorem readNoted_watches {page : PageInfo} {strategy : PagingStrategy}
    (reached : strategy = .emulated → page.IsValid) (sql : String) (countSql : Option String) :
    Action.Watches Disciplined (p.watched.readNoted strategy sql countSql page)
      (p.readNoted strategy sql countSql page) :=
  (readPage_visits reached sql).watches.bind fun _ =>
    (noteTotal_watches countSql page).bind fun _ => .give _

/-- A total is counted after its page was read.  The calls are those of one attempt to read, or of a
visit that succeeded and one attempt to count behind it. -/
theorem readNoted_calls {page : PageInfo} {strategy : PagingStrategy}
    (reached : strategy = .emulated → page.IsValid) (sql : String) (countSql : Option String)
    (calls : List Call) (world : σ) :
    ∃ own, (p.watched.readNoted strategy sql countSql page (calls, world)).2.1 = calls ++ own ∧
      (Call.IsAttempt (Call.openings calls) sql own ∨
        ∃ read world' text count, page.countTotal = true ∧ countSql = some text ∧
          p.watched.readPage strategy sql page (calls, world) =
            (.ok read, (calls ++ Call.visit (Call.openings calls) sql, world')) ∧
          Call.IsAttempt (Call.openings calls + 1) text count ∧
          own = Call.visit (Call.openings calls) sql ++ count) := by
  obtain ⟨own, run, attempt, refused⟩ := readPage_visits (p := p) reached sql calls world
  rw [readNoted, Action.bind_apply, run]
  rcases reads : p.readPage strategy sql page world with ⟨e | read, world'⟩
  · exact ⟨own, rfl, .inl attempt⟩
  -- If the page was read, its attempt was a whole visit: one that only got a refusal has no
  -- table.
  rcases attempt with rfl | rfl
  · obtain ⟨e, failed⟩ := refused rfl
    rw [reads] at failed
    cases failed
  dsimp only
  rw [Action.bind_apply, noteTotal.eq_def]
  by_cases wanted : page.countTotal = true
  · rw [if_pos wanted]
    cases countSql with
    | none => exact ⟨_, rfl, .inl (.inr rfl)⟩
    | some text =>
      dsimp only
      obtain ⟨count, counted, attempt, -⟩ := count_visits (p := p) text
        (calls ++ Call.visit (Call.openings calls) sql) world'
      rw [Call.openings_append, Call.openings_visit] at attempt
      refine ⟨Call.visit (Call.openings calls) sql ++ count, ?_,
        .inr ⟨read, world', text, count, wanted, rfl, rfl, attempt, rfl⟩⟩
      rw [Action.bind_apply, counted]
      rcases p.count text world' with ⟨e | total, world''⟩ <;> exact List.append_assoc ..
  · rw [if_neg wanted]
    exact ⟨_, rfl, .inl (.inr rfl)⟩

end Pager

namespace Source

variable {source : Source σ}

/-- Listing the catalogs is one piece of metadata. -/
theorem listCatalogs_watches :
    Action.Watches Disciplined source.watched.listCatalogs source.listCatalogs := by
  refine withConnection_watches fun c n =>
    (Action.noted_watches n c.currentCatalog).bind fun current? => ?_
  split
  · exact .give _
  · exact (Action.noted_watches n c.catalogs).bind fun _ => .give _

/-- Listing the tables of a catalog is one piece of metadata. -/
theorem listTables_watches (catalog : String) :
    Action.Watches Disciplined (source.watched.listTables catalog) (source.listTables catalog) :=
  withConnection_watches fun c n =>
    (Action.noted_watches n (c.tables catalog)).bind fun _ => .give _

/-- Listing the columns of a table is one piece of metadata as well, the keys included. -/
theorem listColumns_watches (catalog table : String) :
    Action.Watches Disciplined (source.watched.listColumns catalog table)
      (source.listColumns catalog table) :=
  withConnection_watches fun c n =>
    (Action.noted_watches n (c.importedKeys catalog table)).bind fun _ =>
      (Action.noted_watches n (c.columns catalog table)).bind fun _ => .give _

end Source

/-- In a session it is known what the driver can do once it has been asked. -/
instance : Watching (Session (Watched σ)) (Session σ) where
  calls s := s.world.1
  asked s := s.capabilities.isSome
  plain s := ⟨s.capabilities, s.world.2⟩

/-- What keeps to itself in the world does so in a session, which has nothing more to put down. -/
theorem Session.onWorld_watches {y : Action (Watched σ) α} {x : Action σ α}
    (h : Action.Watches Disciplined y x) :
    Action.Watches Disciplined (Session.onWorld y) (Session.onWorld x) := by
  intro s
  obtain ⟨result, world, own, same, segment⟩ := h s.world
  refine ⟨result, ?_, own, same, segment.ofUnasked⟩
  exact congrArg (Session.mk s.capabilities) world

namespace Adapter

/-- An adapter whose source is watched.  Its aggregator is no part of the source. -/
def watched (a : Adapter σ) : Adapter (Watched σ) where
  config := a.config
  source := a.source.watched
  aggregator := a.aggregator.map fun aggregate name request tables =>
    .onSecond (aggregate name request tables)

variable {a : Adapter σ}

/-- Asking what the driver can do is put down the first time only; the session remembers the
answer. -/
theorem capabilities_watches :
    Action.Watches Disciplined a.watched.capabilities a.capabilities := by
  rintro ⟨known?, calls, world⟩
  cases known? with
  | some known => exact ⟨rfl, rfl, [], (List.append_nil _).symm, .nil⟩
  | none => exact ⟨rfl, rfl, [.capabilities], rfl, .single rfl rfl⟩

/-- A query is what the driver can do, if it was not asked yet, and one visit. -/
theorem runQuery_watches (sql : String) :
    Action.Watches Disciplined (a.watched.runQuery sql) (a.runQuery sql) := by
  rw [runQuery_eq, runQuery_eq]
  exact capabilities_watches.bind fun known =>
    Session.onWorld_watches (Pager.execute_visits (p := a.pagerWith known) sql _).watches

/-- A request on the source keeps to itself.  Its texts are rendered first, from what does not
depend on the source, so that watching the source gives the same texts. -/
theorem readSource_watches (script : QueryScript) (request : Request) :
    Action.Watches Disciplined (a.watched.readSource script request)
      (a.readSource script request) := by
  rw [readSource_eq, readSource_eq]
  rcases texts : a.sourceTexts script request with e | ⟨sql, strategy, countSql⟩
  · have same : a.watched.sourceTexts script request = .error e := texts
    rw [same]
    exact .fail e
  · have same : a.watched.sourceTexts script request = .ok (sql, strategy, countSql) := texts
    have valid := (sourceTexts_eq_ok_iff.1 texts).1
    rw [same]
    refine capabilities_watches.bind fun known => Session.onWorld_watches ?_
    exact (Pager.readNoted_watches (p := a.pagerWith known) (fun _ => valid) sql countSql).bind
      fun (read, page) => .give _

/-- A request that is aggregated locally keeps to itself: the aggregator sees the world below the
calls and can put nothing down. -/
theorem executeLocally_watches (script : QueryScript) (request : Request) :
    Action.Watches Disciplined (a.watched.executeLocally script request)
      (a.executeLocally script request) := by
  cases present : a.aggregator with
  | none =>
    simp only [executeLocally, watched, present, Option.map_none]
    exact .fail _
  | some aggregate =>
    simp only [executeLocally, watched, present, Option.map_some]
    exact (Action.Watches.ofExcept _).bind fun sql => (runQuery_watches sql).bind fun _ =>
      Session.onWorld_watches (Action.onSecond_watches _)

/-- What can be asked of an adapter.  Each of them is one call from outside, with as many
connections as it takes. -/
inductive Operation
  | execute (script : QueryScript) (request : Request)
  | executeSql (sql : String)
  | testConnection
  | listCatalogs
  | listTables (catalog : String)
  | listColumns (catalog table : String)

/-- What an operation gives: a table and, if a request was answered, the request after it.  What
else there is, names or columns, is of no matter here. -/
inductive Reply
  | answer (table : Table) (request : Request)
  | table (table : Table)
  | done
  | names (names : List String)
  | columns (columns : List Column)

/-- Does one operation. -/
def perform (a : Adapter σ) : Operation → Action (Session σ) Reply
  | .execute script request => fun session =>
    match a.execute script (request, session) with
    | (.ok table, (request, session)) => (.ok (.answer table request), session)
    | (.error e, (_, session)) => (.error e, session)
  | .executeSql sql => do return .table (← a.executeSql sql)
  | .testConnection => do
    a.testConnection
    return .done
  | .listCatalogs => do return .names (← a.listCatalogs)
  | .listTables catalog => do return .names (← a.listTables catalog)
  | .listColumns catalog table => do return .columns (← a.listColumns catalog table)

/-- Does operations one after another, whether they fail or not.  A failure ends its operation and
no other. -/
def run (a : Adapter σ) (operations : List Operation) (session : Session σ) : Session σ :=
  operations.foldl (fun session operation => (a.perform operation session).2) session

/-- Answering a request in a session, in one action instead of one on the request and the session:
whoever asks keeps the request, and gets the one after it with the answer. -/
theorem perform_execute (script : QueryScript) (request : Request) :
    a.perform (.execute script request) =
      if request.localAggregate then do
        return .answer (← a.executeLocally script request) request
      else do
        let (table, page) ← a.readSource script request
        return .answer table { request with pageInfo := page } := by
  funext session
  rw [perform]
  dsimp only
  by_cases locally : request.localAggregate = true
  · rw [execute, if_pos locally, if_pos locally, Action.bind_apply, Action.onSecond]
    dsimp only
    rcases a.executeLocally script request session with ⟨e | table, session'⟩ <;> rfl
  · rw [execute_of_onSource (Bool.eq_false_iff.2 locally), if_neg locally, Action.bind_apply]
    rcases a.readSource script request session with ⟨e | ⟨table, page⟩, session'⟩ <;> rfl

/-- Whatever an operation asks of the driver, it keeps to itself. -/
theorem perform_watches (operation : Operation) :
    Action.Watches Disciplined (a.watched.perform operation) (a.perform operation) := by
  cases operation with
  | execute script request =>
    rw [perform_execute, perform_execute]
    -- Both ways to answer a request are rewritten for the watched adapter first: it takes the
    -- same one, since a request does not depend on who watches.
    split
    · exact (executeLocally_watches script request).bind fun _ => .give _
    · exact (readSource_watches script request).bind fun (table, page) => .give _
  | executeSql sql => exact ((runQuery_watches sql).bind fun _ => .give _).bind fun _ => .give _
  | testConnection =>
    refine (Session.onWorld_watches ?_).bind fun _ => .give _
    exact Source.withConnection_watches fun _ _ => .give ()
  | listCatalogs =>
    exact (Session.onWorld_watches Source.listCatalogs_watches).bind fun _ => .give _
  | listTables catalog =>
    exact (Session.onWorld_watches (Source.listTables_watches catalog)).bind fun _ => .give _
  | listColumns catalog table =>
    exact (Session.onWorld_watches (Source.listColumns_watches catalog table)).bind fun _ => .give _

/-- Operations one after another keep to themselves as well. -/
theorem run_watches (operations : List Operation) (s : Session (Watched σ)) :
    Watching.plain (a.watched.run operations s) = a.run operations (Watching.plain s) ∧
      Disciplined s (a.watched.run operations s) := by
  induction operations generalizing s with
  | nil => exact ⟨rfl, refl_of Disciplined s⟩
  | cons operation operations ih =>
    obtain ⟨-, plain, step⟩ := perform_watches (a := a) operation s
    -- The run goes on from the session that the watched operation ended in, which is the one of
    -- the plain operation beside its calls.
    obtain ⟨plain', steps⟩ := ih (a.watched.perform operation s).2
    rw [plain] at plain'
    exact ⟨plain', trans_of Disciplined step steps⟩

/-- Whether an operation cannot be answered whatever the source does: its page does not exist,
a text it needs cannot be rendered, or there is no aggregator for it. -/
def Operation.IsUnanswerable (a : Adapter σ) : Operation → Prop
  | .execute script request =>
    if request.localAggregate then
      a.aggregator = none ∨
        ∃ e, a.resolution.dialect.render script request .scriptOnly = .error e
    else
      ¬ request.pageInfo.IsValid ∨
        (∃ e, a.resolution.dialect.render script request a.strategy.mode = .error e) ∨
        (request.pageInfo.countTotal = true ∧
          ∃ e, a.resolution.dialect.render script request .countOnly = .error e)
  | _ => False

/-- Watching the source does not make an operation answerable. -/
theorem Operation.isUnanswerable_watched {operation : Operation}
    (h : operation.IsUnanswerable a) : operation.IsUnanswerable a.watched := by
  cases operation with
  | execute script request =>
    by_cases locally : request.localAggregate = true
    · rw [IsUnanswerable, if_pos locally] at h ⊢
      exact h.imp_left fun missing => by rw [watched, missing, Option.map_none]
    · rw [IsUnanswerable, if_neg locally] at h ⊢
      exact h
  | _ => exact h.elim

/-- A request on the source that has no texts cannot be answered. -/
theorem isUnanswerable_of_sourceTexts_error {script : QueryScript} {request : Request}
    (onSource : request.localAggregate = false) {e : Failure}
    (failed : a.sourceTexts script request = .error e) :
    (Operation.execute script request).IsUnanswerable a := by
  rw [Operation.IsUnanswerable, if_neg (by simp [onSource])]
  -- If none of the three reasons holds, all texts exist, against the failure.
  by_contra answerable
  obtain ⟨valid, rendered, counting⟩ := by simpa only [not_or, not_not] using answerable
  cases page : a.resolution.dialect.render script request a.strategy.mode with
  | error e => exact rendered ⟨e, page⟩
  | ok sql =>
    have texts {countSql : Option String} := @sourceTexts_eq_ok_iff _ a script request sql countSql
      a.strategy
    by_cases wanted : request.pageInfo.countTotal = true
    · cases count : a.resolution.dialect.render script request .countOnly with
      | error e => exact counting ⟨wanted, e, count⟩
      | ok text =>
        have known := texts.2 ⟨valid, rfl, page, by rw [if_pos wanted]; exact ⟨text, count, rfl⟩⟩
        cases failed.symm.trans known
    · have known := texts.2 ⟨valid, rfl, page, by rw [if_neg wanted]⟩
      cases failed.symm.trans known

/-- An operation that cannot be answered fails before anything is asked of the driver. -/
theorem perform_of_isUnanswerable {operation : Operation} (h : operation.IsUnanswerable a)
    (session : Session σ) : ∃ e, a.perform operation session = (.error e, session) := by
  cases operation with
  | execute script request =>
    rw [perform_execute]
    by_cases locally : request.localAggregate = true
    · rw [if_pos locally, executeLocally]
      rw [Operation.IsUnanswerable, if_pos locally] at h
      rcases h with missing | ⟨e, unrendered⟩
      · rw [missing]
        exact ⟨_, rfl⟩
      · cases a.aggregator with
        | none => exact ⟨_, rfl⟩
        | some aggregate =>
          rw [unrendered]
          exact ⟨e, rfl⟩
    -- On the source all texts come before the first call, so it is enough that there are none:
    -- each of the three reasons contradicts one of the texts.
    · rw [if_neg locally, readSource_eq]
      rw [Operation.IsUnanswerable, if_neg locally] at h
      rcases texts : a.sourceTexts script request with e | ⟨sql, strategy, countSql⟩
      · exact ⟨e, rfl⟩
      · obtain ⟨valid, -, rendered, counting⟩ := sourceTexts_eq_ok_iff.1 texts
        rcases h with invalid | ⟨e, unrendered⟩ | ⟨wanted, e, unrendered⟩
        · exact absurd valid invalid
        · cases rendered.symm.trans unrendered
        · rw [if_pos wanted] at counting
          obtain ⟨text, counted, -⟩ := counting
          cases counted.symm.trans unrendered
  | _ => exact h.elim

/-- What is asked in a session to know what the driver can do: nothing if it is known. -/
def asking (s : Session σ) : List Call :=
  if s.capabilities.isSome then [] else [.capabilities]

/-- What the driver can do is always known in the end, and what was asked for it is what `asking`
says. -/
theorem exists_capabilities (s : Session (Watched σ)) : ∃ known asked,
    a.watched.capabilities s = (.ok known, asked) ∧ asked.world.1 = s.world.1 ++ asking s := by
  obtain ⟨known?, calls, world⟩ := s
  cases known? with
  | some known => exact ⟨known, _, rfl, (List.append_nil _).symm⟩
  | none => exact ⟨_, _, rfl, rfl⟩

/-- The calls of a request on the source: an attempt to read its page and, only if the page was
read in this very session, an attempt to count. -/
inductive SourceCalls (a : Adapter σ) (script : QueryScript) (request : Request)
    (s : Session (Watched σ)) : List Call → Prop
  | nothing (unanswerable : (Operation.execute script request).IsUnanswerable a) :
    SourceCalls a script request s []
  | page {page : List Call} {sql : String}
    (rendered : a.resolution.dialect.render script request a.strategy.mode = .ok sql)
    (attempt : Call.IsAttempt (Call.openings s.world.1) sql page) :
    SourceCalls a script request s (asking s ++ page)
  | pageAndCount {known : Capabilities} {asked : Session (Watched σ)} {read : Table} {world : σ}
    {sql countSql : String} {count : List Call}
    (rendered : a.resolution.dialect.render script request a.strategy.mode = .ok sql)
    (asks : a.watched.capabilities s = (.ok known, asked))
    (reads : (a.watched.pagerWith known).readPage a.strategy sql request.pageInfo asked.world =
      (.ok read, (asked.world.1 ++ Call.visit (Call.openings s.world.1) sql, world)))
    (wanted : request.pageInfo.countTotal = true)
    (renderedCount : a.resolution.dialect.render script request .countOnly = .ok countSql)
    (attempt : Call.IsAttempt (Call.openings s.world.1 + 1) countSql count) :
    SourceCalls a script request s
      (asking s ++ (Call.visit (Call.openings s.world.1) sql ++ count))

/-- A request on the source counts after its page was read. -/
theorem perform_execute_calls (script : QueryScript) {request : Request}
    (onSource : request.localAggregate = false) (s : Session (Watched σ)) :
    ∃ own, (a.watched.perform (.execute script request) s).2.world.1 = s.world.1 ++ own ∧
      a.SourceCalls script request s own := by
  rcases texts : a.sourceTexts script request with e | ⟨sql, strategy, countSql⟩
  · have unanswerable := isUnanswerable_of_sourceTexts_error onSource texts
    obtain ⟨e, failed⟩ :=
      perform_of_isUnanswerable (Operation.isUnanswerable_watched unanswerable) s
    exact ⟨[], by rw [failed, List.append_nil], .nothing unanswerable⟩
  obtain ⟨valid, rfl, rendered, counting⟩ := sourceTexts_eq_ok_iff.1 texts
  -- From here on the request has its texts.  The question for the capabilities opens no
  -- connection, so the pager's calls are numbered as if it had not been asked.
  obtain ⟨known, asked, asks, first⟩ := exists_capabilities (a := a) s
  have openings : Call.openings asked.world.1 = Call.openings s.world.1 := by
    rw [first, Call.openings_append, asking]
    split <;> rfl
  have reached : a.strategy = .emulated → request.pageInfo.IsValid := fun _ => valid
  obtain ⟨own, put, shape⟩ := Pager.readNoted_calls (p := a.pagerWith known) reached sql countSql
    asked.world.1 asked.world.2
  rw [openings] at shape
  refine ⟨asking s ++ own, ?_, ?_⟩
  · have same : a.watched.sourceTexts script request = .ok (sql, a.strategy, countSql) := texts
    have pager : a.watched.pagerWith known = (a.pagerWith known).watched := rfl
    rw [← List.append_assoc, ← first, ← put, perform_execute, if_neg (by simp [onSource]),
      readSource_eq, same, Action.bind_apply, Action.bind_apply, Action.ofExcept]
    dsimp only
    rw [Action.bind_apply, asks]
    dsimp only
    rw [Session.onWorld.eq_def, pager]
    dsimp only
    rw [Action.bind_apply]
    rcases (a.pagerWith known).watched.readNoted a.strategy sql countSql request.pageInfo
      asked.world with ⟨e | ⟨read, page⟩, put, world⟩ <;> rfl
  -- The calls of the pager: an attempt to read the page alone, or a visit for the page and an
  -- attempt to count behind it.
  · rcases shape with attempt | ⟨read, world, text, count, wanted, rfl, reads, attempt, rfl⟩
    · exact .page rendered attempt
    · rw [if_pos wanted] at counting
      obtain ⟨_, renderedCount, same⟩ := counting
      obtain rfl := Option.some.inj same
      exact .pageAndCount rendered asks reads wanted renderedCount attempt

/-- **An adapter asks its driver only for what it needs.**  Do operations one after another,
from a session in which nothing was asked, and then one more, against a source that may fail
anywhere.  Watching the source changes nothing.  In all, what the driver can do is asked at
most once, and no connection is opened twice or runs more than one query.  Of the calls of the
last operation, queries and questions about metadata go to connections that it has opened
itself and not yet released; there are none if it cannot be answered; and a request on the
source counts only after its page was read without a failure. -/
theorem run_disciplined (a : Adapter σ) (world : σ) (operations : List Operation)
    (next : Operation) :
    let before := a.watched.run operations (.start ([], world))
    let ended := a.watched.perform next before
    (Watching.plain before = a.run operations (.start world) ∧
      ended.1 = (a.perform next (a.run operations (.start world))).1 ∧
      Watching.plain ended.2 = (a.perform next (a.run operations (.start world))).2) ∧
    ∃ own, Watching.calls ended.2 = Watching.calls before ++ own ∧
      (Watching.calls ended.2).count .capabilities ≤ 1 ∧
      (∀ n, (Watching.calls ended.2).count (.opened n) ≤ 1 ∧
        (Watching.calls ended.2).countP (Call.isQueryOn n) ≤ 1) ∧
      (∀ earlier call later n, own = earlier ++ call :: later → call.use? = some n →
        .opened n ∈ earlier ∧ .released n ∉ earlier) ∧
      (next.IsUnanswerable a → (∃ e, ended.1 = .error e) ∧ own = []) ∧
      (∀ script request, next = .execute script request → request.localAggregate = false →
        a.SourceCalls script request before own) := by
  intro before ended
  obtain ⟨same, run⟩ := run_watches (a := a) operations (.start ([], world))
  obtain ⟨result, plain, own, added, segment⟩ := perform_watches (a := a) next before
  have start : Watching.plain (Session.start (([], world) : Watched σ)) = .start world := rfl
  rw [start] at same
  rw [same] at result plain
  -- The discipline of the run and that of the last operation together say what is true of all
  -- calls; `segment` alone speaks of the last operation's.
  obtain ⟨all, allCalls, whole⟩ := trans_of Disciplined run ⟨own, added, segment⟩
  obtain rfl : Watching.calls ended.2 = all := allCalls
  refine ⟨⟨same, result, plain⟩, own, added, ?_, fun n => ⟨whole.opensOnce n, whole.queriesOnce n⟩,
    segment.uses, ?_, ?_⟩
  · have asks : (Watching.calls ended.2).count .capabilities + 0 =
        (Watching.asked ended.2).toNat := whole.asks
    have once := Bool.toNat_le (Watching.asked ended.2)
    omega
  -- An operation that cannot be answered leaves the session as it was, and with it the calls.
  · intro unanswerable
    obtain ⟨e, failed⟩ := perform_of_isUnanswerable (Operation.isUnanswerable_watched unanswerable)
      before
    have still : Watching.calls ended.2 = Watching.calls before :=
      congrArg (fun out => Watching.calls out.2) failed
    exact ⟨⟨e, congrArg Prod.fst failed⟩, List.append_right_eq_self.1 (added.symm.trans still)⟩
  · rintro script request rfl onSource
    obtain ⟨own', added', calls⟩ := perform_execute_calls (a := a) script onSource before
    have eq : own' = own := List.append_cancel_left (added'.symm.trans added)
    exact eq ▸ calls

/-- Metadata, a counted page that is cut out of its cursor, and a query as it stands. -/
example :
    let rows := Rehearsal.PreparedRows.counted 7 true
    let adapter : Adapter Rehearsal.Stage :=
      ⟨.ofDriver ⟨"generic", none, none, false⟩,
        (Rehearsal.Script.withCount rows (.integer 7)).source, none⟩
    let page := Request.ofPage (.request 3 3 true)
    (adapter.watched.run [.listTables "main", .execute (.ofText "SELECT 1") page,
        .executeSql "SELECT 2"] (.start ([], .empty))).world.1 =
      [.opened 0, .metadata 0, .released 0, .capabilities,
       .opened 1, .query 1 "SELECT 1", .released 1,
       .opened 2, .query 2 "SELECT COUNT(*) FROM (SELECT 1) V_T", .released 2,
       .opened 3, .query 3 "SELECT 2", .released 3] := by decide +kernel

end Adapter

end PagedQuery
