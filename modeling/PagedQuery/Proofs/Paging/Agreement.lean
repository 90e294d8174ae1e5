/-
# Native and emulated pages agree

A request is answered on the source in one of two ways, depending on the dialect: the query asks
for the page, or the page is cut out of the query without one.  Where the source does what the
text asks of it, both give the same answer (`execute_agree`): the page's window of the rows, and
the total if it is wanted.

What is asked of the source is `PagingStrategy.served`: all rows, or those that the page clause
asks for.  That the source gives what it is asked for is a hypothesis of the theorem,
`Adapter.Serves`, and speaks of what is sent to it: the text, a cursor for the text, and the
answer to the count query.  The offset and the size are those read off the printed text, so a
dialect that prints another page than it is asked for would not satisfy the statement.

The two ways meet in `execute_endsIn`, which says for either strategy what a request ends in.
-/

import PagedQuery.Adapter
import PagedQuery.Proofs.Paging.Clause
import PagedQuery.Proofs.Paging.Emulated

namespace PagedQuery

/-- The page with the total, if it is wanted. -/
def PageInfo.counted (p : PageInfo) (count : Nat) : PageInfo :=
  if p.countTotal then { p with total := some (UInt64.ofNat count) } else p

/-- The rows that a query gives which is read with a strategy: all of them, or those that its page
clause asks for.  This is all that the two strategies ask of a source. -/
def PagingStrategy.served (page : PageInfo) (rows : List Row) : PagingStrategy → List Row
  | native => (rows.drop page.offset).take page.pageSize.toNat
  | emulated => rows

/-- The text that is asked for with a strategy: with the page in it or without. -/
def PagingStrategy.mode : PagingStrategy → RenderMode
  | native => .paginated
  | emulated => .plain

namespace Pager

variable {σ : Type} {p : Pager σ} {ready : σ → Prop} {sql : String} {columns : List ColumnMeta}
  {rows : List Row} {page : PageInfo}

/-- Reads the rows of a page. -/
def readPage (p : Pager σ) (strategy : PagingStrategy) (sql : String) (page : PageInfo) :
    Action σ Table :=
  match strategy with
  | .native => p.execute sql page.pageSize.toNat
  | .emulated => p.executePage sql page

/-- Both strategies read the window of the rows.  The one is given nothing else, and the other cuts
it out. -/
theorem readPage_endsIn (strategy : PagingStrategy)
    (answers : p.source.Answers ready p.capabilities.absolutePositioning sql columns
      (strategy.served page rows))
    (valid : page.IsValid) (fits : ∀ row ∈ page.window rows, row.length = columns.length)
    (few : rows.length < UInt64.size) {s : σ} (hs : ready s) :
    (p.readPage strategy sql page).EndsIn s (.ok (pageTable columns page rows)) ready := by
  cases strategy with
  | native =>
    have served : (PagingStrategy.native.served page rows).take page.pageSize.toNat =
        page.window rows := by
      rw [PagingStrategy.served, List.take_take, Nat.min_self, page.take_drop_offset few]
    rw [pageTable, ← served]
    exact answers.execute page.pageSize.toNat (by rwa [served]) hs
  | emulated => exact executePage_endsIn answers valid fits few hs

/-- A page is read with its total. -/
theorem fetchPage_endsIn {strategy : PagingStrategy} {countSql : Option String} {table : Table}
    {count : Nat} {s : σ} (reads : (p.readPage strategy sql page).EndsIn s (.ok table) ready)
    (counts : page.countTotal = true →
      ∃ text, countSql = some text ∧ p.source.Counts ready text count) :
    (p.fetchPage strategy sql countSql).EndsIn (page, s)
      (.ok (table.withPageInfo (page.counted count)))
      fun st => st.1 = page.counted count ∧ ready st.2 := by
  -- Three steps: the page is asked for, read, and noted with its total.
  have asked : Action.EndsIn (fun st : PageInfo × σ => (.ok st.1, st)) (page, s) (.ok page)
      fun st => st = (page, s) := ⟨_, rfl, rfl⟩
  have read : (Action.onSecond (match strategy with
      | .native => p.execute sql page.pageSize.toNat
      | .emulated => p.executePage sql page)).EndsIn (page, s) (.ok table)
      fun st => st.1 = page ∧ ready st.2 := by
    cases strategy with
    | native => exact reads.onSecond page
    | emulated => exact reads.onSecond page
  rw [fetchPage]
  refine asked.bind ?_
  rintro _ rfl
  refine read.bind ?_
  rintro ⟨page', s'⟩ ⟨same, hs'⟩
  obtain rfl : page' = page := same
  by_cases wanted : page'.countTotal = true
  · obtain ⟨text, rfl, counted⟩ := counts wanted
    obtain ⟨total, isCount, gives⟩ := counted.count
    have noted : page'.counted count = { page' with total := some total } := by
      rw [PageInfo.counted, if_pos wanted, ← isCount, UInt64.ofNat_toNat]
    rw [noted, if_pos wanted]
    refine ((gives s' hs').onSecond page').bind ?_
    rintro ⟨_, s''⟩ ⟨-, hs''⟩
    exact ⟨_, rfl, rfl, hs''⟩
  · rw [PageInfo.counted, if_neg wanted, if_neg wanted]
    exact ⟨_, rfl, rfl, hs'⟩

end Pager

namespace Adapter

variable {σ : Type} {a : Adapter σ} {script : QueryScript} {request : Request}
  {columns : List ColumnMeta} {rows : List Row}

/-- Whether, in a session, the source of an adapter answers a text with rows and, if the
total is wanted, the count query of the request with a count. -/
def Serves (a : Adapter σ) (session : Session σ) (script : QueryScript) (request : Request)
    (sql : String) (columns : List ColumnMeta) (rows : List Row) (count : Nat) : Prop :=
  ∃ ready known, a.capabilities.EndsIn session (.ok known) (fun s => ready s.world) ∧
    a.source.Answers ready known.absolutePositioning sql columns rows ∧
    (request.pageInfo.countTotal = true →
      ∀ countSql, a.resolution.dialect.render script request .countOnly = .ok countSql →
        a.source.Counts ready countSql count)

/-- The strategy of an adapter. -/
def strategy (a : Adapter σ) : PagingStrategy :=
  if a.resolution.dialect.supportsPaging then .native else .emulated

/-- What a request on the source is answered with: the window of the rows, the page with its total,
and the SQL of the page. -/
def answer (columns : List ColumnMeta) (rows : List Row) (page : PageInfo) (sql : String) : Table :=
  ((Pager.pageTable columns page rows).withPageInfo (page.counted rows.length)).withScript sql

/-- The texts of a request whose page exists: the one for the page first, then the one for the
total. -/
theorem sourceTexts_eq (valid : request.pageInfo.IsValid) :
    a.sourceTexts script request = do
      let sql ← a.resolution.dialect.render script request a.strategy.mode
      let countSql ←
        if request.pageInfo.countTotal then
          (a.resolution.dialect.render script request .countOnly).map some
        else .ok none
      return (sql, a.strategy, countSql) := by
  have checked : request.pageInfo.validate = .ok () := request.pageInfo.validate_eq_ok_iff.2 valid
  rw [sourceTexts, checked, strategy]
  cases a.resolution.dialect.supportsPaging <;> rfl

section Texts

variable {sql countSql : String} {e : Failure}

/-- A request that can be rendered both ways has its texts. -/
theorem sourceTexts_of_ok (valid : request.pageInfo.IsValid)
    (rendered : a.resolution.dialect.render script request a.strategy.mode = .ok sql)
    (counting : a.resolution.dialect.render script request .countOnly = .ok countSql) :
    a.sourceTexts script request =
      .ok (sql, a.strategy, if request.pageInfo.countTotal then some countSql else none) := by
  rw [sourceTexts_eq valid, rendered, counting]
  cases request.pageInfo.countTotal <;> rfl

/-- A request that cannot be rendered for its page has none, whether its total is wanted or not. -/
theorem sourceTexts_of_error (valid : request.pageInfo.IsValid)
    (refused : a.resolution.dialect.render script request a.strategy.mode = .error e) :
    a.sourceTexts script request = .error e := by
  rw [sourceTexts_eq valid, refused]
  rfl

end Texts

/-- Reads the page of a request, and the page as it is noted in the request then. -/
def readSource (a : Adapter σ) (script : QueryScript) (request : Request) :
    Action (Session σ) (Table × PageInfo) := do
  let (sql, strategy, countSql) ← .ofExcept (a.sourceTexts script request)
  let pager ← a.pager
  Session.onWorld fun world =>
    match pager.fetchPage strategy sql countSql (request.pageInfo, world) with
    | (.ok table, (page, world)) => (.ok (table.withScript sql, page), world)
    | (.error e, (_, world)) => (.error e, world)

/-- A request on the source is its reading, and the page that was noted on the way.  After a failure
the request is the one that was given. -/
theorem execute_of_onSource (onSource : request.localAggregate = false) (session : Session σ) :
    a.execute script (request, session) =
      match a.readSource script request session with
      | (.ok (table, page), session) => (.ok table, ({ request with pageInfo := page }, session))
      | (.error e, session) => (.error e, (request, session)) := by
  have here : ¬ request.localAggregate = true := by simp [onSource]
  rw [execute, if_neg here]
  rfl

/-- A request that cannot be rendered is refused before the source is touched.  The state is the one
that was given, not just one like it. -/
theorem execute_of_render_error (onSource : request.localAggregate = false)
    (valid : request.pageInfo.IsValid) {e : Failure}
    (refused : a.resolution.dialect.render script request a.strategy.mode = .error e)
    (session : Session σ) :
    a.execute script (request, session) = (.error e, (request, session)) := by
  rw [execute_of_onSource onSource, readSource, sourceTexts_of_error valid refused]
  rfl

/-- A request on the source is answered with the window of the rows. -/
theorem execute_endsIn (onSource : request.localAggregate = false)
    (valid : request.pageInfo.IsValid)
    (fits : ∀ row ∈ request.pageInfo.window rows, row.length = columns.length)
    (few : rows.length < UInt64.size) {sql countSql : String}
    (rendered : a.resolution.dialect.render script request a.strategy.mode = .ok sql)
    (counting : a.resolution.dialect.render script request .countOnly = .ok countSql)
    {session : Session σ}
    (serves : a.Serves session script request sql columns
      (a.strategy.served request.pageInfo rows) rows.length) :
    (a.execute script).EndsIn (request, session)
      (.ok (answer columns rows request.pageInfo sql))
      fun st => st.1 = { request with pageInfo := request.pageInfo.counted rows.length } := by
  obtain ⟨ready, known, ⟨session', asked, here⟩, answers, counts⟩ := serves
  -- The page first, by either strategy, then the total; what is left is the way from the request
  -- to the fetch and back.
  have reads := Pager.readPage_endsIn
    (p := (Pager.ofSource a.source known).withMaxFetchSize a.config.maxFetchSize.toNat)
    a.strategy answers valid fits few here
  have counts' : request.pageInfo.countTotal = true →
      ∃ text, (if request.pageInfo.countTotal then some countSql else none) = some text ∧
        a.source.Counts ready text rows.length :=
    fun wanted => ⟨countSql, if_pos wanted, counts wanted countSql counting⟩
  obtain ⟨⟨page, world⟩, fetched, noted, -⟩ := Pager.fetchPage_endsIn reads counts'
  obtain rfl : page = request.pageInfo.counted rows.length := noted
  have pager : a.pager session =
      (.ok ((Pager.ofSource a.source known).withMaxFetchSize a.config.maxFetchSize.toNat),
        session') := by
    rw [Adapter.pager, Action.bind_apply, asked]
    rfl
  have read : a.readSource script request session =
      (.ok (answer columns rows request.pageInfo sql, request.pageInfo.counted rows.length),
        { session' with world }) := by
    rw [readSource, sourceTexts_of_ok valid rendered counting, Action.bind_apply, Action.ofExcept]
    simp only [Action.bind_apply, pager, Session.onWorld, fetched, answer]
  refine ⟨({ request with pageInfo := request.pageInfo.counted rows.length },
    { session' with world }), ?_, rfl⟩
  rw [execute_of_onSource onSource, read]

/-- **Native and emulated pages agree.**  Take two adapters whose dialects write everything
but pages alike, one with a page clause and one without, and a page that exists.  If the
source without answers the plain text with rows, and the source with answers the
paginated text with the rows that its clause asks for, then both answer alike: with the
window of the rows, and with their number where the total is wanted.  What one of them
refuses to render the other one refuses as well. -/
theorem execute_agree {σ τ : Type} {a : Adapter σ} {b : Adapter τ} {script : QueryScript}
    {request : Request} {columns : List ColumnMeta} {rows : List Row}
    (agrees : a.resolution.dialect.AgreesButPage b.resolution.dialect)
    (unpaged : a.resolution.dialect.supportsPaging = false)
    (paged : b.resolution.dialect.supportsPaging = true)
    (onSource : request.localAggregate = false) (valid : request.pageInfo.IsValid)
    (fits : ∀ row ∈ request.pageInfo.window rows, row.length = columns.length)
    (few : rows.length < UInt64.size) {s : Session σ} {t : Session τ}
    (plain : ∀ sql, a.resolution.dialect.render script request .plain = .ok sql →
      a.Serves s script request sql columns rows rows.length)
    (paginated : ∀ sql offset size,
      b.resolution.dialect.render script request .paginated = .ok sql →
      b.resolution.dialect.printedPage? sql = some (offset, size) →
        b.Serves t script request sql columns ((rows.drop offset).take size) rows.length) :
    (∀ e, a.resolution.dialect.render script request .plain = .error e →
      a.execute script (request, s) = (.error e, (request, s)) ∧
        b.execute script (request, t) = (.error e, (request, t))) ∧
    (∀ sql, a.resolution.dialect.render script request .plain = .ok sql →
      (∃ sql' page, b.resolution.dialect.render script request .paginated = .ok sql' ∧
        b.resolution.dialect.printedPage? sql' = some page) ∧
      ∃ table table' page,
        (a.execute script).EndsIn (request, s) (.ok table)
          (fun st => st.1 = { request with pageInfo := page }) ∧
        (b.execute script).EndsIn (request, t) (.ok table')
          (fun st => st.1 = { request with pageInfo := page }) ∧
        table.columns = table'.columns ∧ table.rows = table'.rows ∧
        table.pageInfo = some page ∧ table'.pageInfo = some page ∧
        table.rows = request.pageInfo.window rows ∧
        table.rows.length = min request.pageInfo.pageSize.toNat
          (rows.length - (request.pageInfo.pageNo.toNat - 1) * request.pageInfo.pageSize.toNat) ∧
        page = { request.pageInfo with total := page.total } ∧
        (request.pageInfo.countTotal = true →
          page.total.map UInt64.toNat = some rows.length)) := by
  have emulated : a.strategy = .emulated := by simp [strategy, unpaged]
  have native : b.strategy = .native := by simp [strategy, paged]
  constructor
  -- Neither dialect has a text, and an adapter without a text asks its source nothing.
  · intro e refused
    have refused' := agrees.render_paginated_of_error paged valid refused
    constructor
    · exact execute_of_render_error onSource valid (by rw [emulated]; exact refused) s
    · exact execute_of_render_error onSource valid (by rw [native]; exact refused') t
  · intro sql rendered
    obtain ⟨query, rendered'⟩ := agrees.render_paginated_of_ok paged valid rendered
    obtain ⟨countSql, counting⟩ := Dialect.exists_render_countOnly rendered
    have counting' := agrees.render_countOnly_eq.trans counting
    -- The clause of the second query is one that asks for the page, so its source is bound by
    -- `paginated` to give the page's rows.
    have printed := Dialect.printedPage?_pageClause paged query request.pageInfo
    have serves : a.Serves s script request sql columns
        (a.strategy.served request.pageInfo rows) rows.length := by
      rw [emulated]
      exact plain sql rendered
    have serves' : b.Serves t script request
        (String.ofList (query ++ b.resolution.dialect.pageClause request.pageInfo)) columns
        (b.strategy.served request.pageInfo rows) rows.length := by
      rw [native]
      exact paginated _ _ _ rendered' printed
    refine ⟨⟨_, _, rendered', printed⟩, answer columns rows request.pageInfo sql,
      answer columns rows request.pageInfo _, request.pageInfo.counted rows.length,
      execute_endsIn onSource valid fits few (by rw [emulated]; exact rendered) counting serves,
      execute_endsIn onSource valid fits few (by rw [native]; exact rendered') counting' serves',
      rfl, rfl, rfl, rfl, rfl, request.pageInfo.length_window rows, ?_, ?_⟩
    · rw [PageInfo.counted]
      split <;> rfl
    -- The number of rows fits 64 bits, so the total is the number itself.
    · intro wanted
      rw [PageInfo.counted, if_pos wanted]
      show some (UInt64.ofNat rows.length).toNat = some rows.length
      rw [UInt64.toNat_ofNat', Nat.mod_eq_of_lt few]

/-- The hypotheses are satisfiable, for a script without operations: of seven numbered
rows both sources give the last one as the third page of three, and seven as the total. -/
theorem execute_agree_seven :
    let driver supportsPaging : DriverInfo := ⟨"generic", none, none, supportsPaging⟩
    let adapter supportsPaging rows : Adapter Rehearsal.Stage :=
      ⟨.ofDriver (driver supportsPaging),
        (Rehearsal.Script.withCount rows (.integer 7)).source, none⟩
    let request := Request.ofPage (.request 3 3 true)
    let all := Rehearsal.PreparedRows.counted 7 true
    let last := { all with rows := [Rehearsal.PreparedRows.numberedRow 7], numbered := 0 }
    ∃ table table' page,
      ((adapter false all).execute (.ofText "SELECT 1") (request, .start .empty)).1 = .ok table ∧
      ((adapter true last).execute (.ofText "SELECT 1") (request, .start .empty)).1 = .ok table' ∧
      table.rows = table'.rows ∧ table.rows = [Rehearsal.PreparedRows.numberedRow 7] ∧
      table'.pageInfo = some page ∧ page.total.map UInt64.toNat = some 7 := by
  intro driver adapter request all last
  have plain : (driver false).resolve.dialect.render (.ofText "SELECT 1") request .plain =
      .ok "SELECT 1" := ok_of_toOption (by decide +kernel)
  have paginated : (driver true).resolve.dialect.render (.ofText "SELECT 1") request .paginated =
      .ok "SELECT * FROM (SELECT 1) AS V_SRC LIMIT 3 OFFSET 6" :=
    ok_of_toOption (by decide +kernel)
  have counting : ∀ supportsPaging, (driver supportsPaging).resolve.dialect.render
      (.ofText "SELECT 1") request .countOnly = .ok "SELECT COUNT(*) FROM (SELECT 1) V_T" :=
    fun supportsPaging => by cases supportsPaging <;> exact ok_of_toOption (by decide +kernel)
  -- A source that is asked to count says seven, whatever the query is; any other query gets the
  -- rows that were prepared.
  have serves : ∀ supportsPaging rows sql,
      Rehearsal.isWithin "COUNT(".toList sql.toList = false →
      rows.failure = none → rows.positionFailure = none →
      (adapter supportsPaging rows).Serves (.start .empty) (.ofText "SELECT 1") request sql
        rows.columns rows.all 7 := by
    intro supportsPaging rows sql other readable placed
    refine ⟨fun _ => True, ⟨rows.movable⟩, ⟨_, rfl, trivial⟩,
      Rehearsal.Script.withCount_answers other readable placed, fun _ countSql rendered => ?_⟩
    obtain rfl := Except.ok.inj (rendered.symm.trans (counting supportsPaging))
    have isTotal : (Cell.integer 7).asCount? = some 7 := by decide +kernel
    exact Rehearsal.Script.withCount_counts (by decide +kernel) isTotal
  have agree := @execute_agree _ _ (adapter false all) (adapter true last) (.ofText "SELECT 1")
    request all.columns all.all ⟨"generic", .generic, .limitOffset, by decide +kernel⟩
    (by decide +kernel) (by decide +kernel) rfl (by decide)
    (fun _ inside => Rehearsal.PreparedRows.length_of_mem_counted
      (request.pageInfo.mem_of_mem_window inside))
    (by decide +kernel) (.start .empty) (.start .empty)
    (fun sql rendered => by
      obtain rfl := Except.ok.inj (rendered.symm.trans plain)
      exact serves false all "SELECT 1" (by decide +kernel) rfl rfl)
    (fun sql offset size rendered printed => by
      obtain rfl := Except.ok.inj (rendered.symm.trans paginated)
      have page : (driver true).resolve.dialect.printedPage?
          "SELECT * FROM (SELECT 1) AS V_SRC LIMIT 3 OFFSET 6" = some (6, 3) := by decide +kernel
      obtain ⟨rfl, rfl⟩ := Prod.mk.inj (Option.some.inj (printed.symm.trans page))
      exact serves true last _ (by decide +kernel) rfl rfl)
  obtain ⟨-, table, table', page, ⟨s, first, -⟩, ⟨s', second, -⟩, -, same, -, noted, window, -, -,
    total⟩ := agree.2 _ plain
  exact ⟨table, table', page, by rw [first], by rw [second], same,
    window.trans (by decide +kernel), noted, total rfl⟩

end Adapter

end PagedQuery
