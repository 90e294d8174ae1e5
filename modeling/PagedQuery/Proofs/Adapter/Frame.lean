/-
# What an execution leaves behind

An execution has its caller's request in hand, and what becomes of the request depends on the end
alone.  After a failure, wherever it was raised, the request is as it was.  After a success on the
source it has the total that was counted, if one is wanted, and the table carries the page of the
request, as it is then, and the SQL it was read with.  After a success of the aggregator the
request is as it was, and the table is the aggregator's.

A page that was read before its count failed leaves nothing behind either.  The functions of the
pager write the total into the page as they go; here the same is done on a copy of the page
(`Pager.noteTotal`, `Pager.readNoted`), and the copy takes the place of the page only at the end
(`Pager.fetchPage_apply`).  Each function then has one lemma that says when it succeeds and with
what (`readNoted_eq_ok_iff`, `readSource_eq_ok_iff`, `execute_onSource_eq_ok_iff`), and
`execute_frame` is read off them.
-/

import PagedQuery.Proofs.Paging.Agreement

namespace PagedQuery

namespace Pager

variable {σ : Type} {p : Pager σ} {strategy : PagingStrategy} {sql : String}
  {countSql : Option String} {page page' : PageInfo} {table : Table} {s s' : σ}

/-- Reads the total of a page if it is wanted; the page as it is noted then.  The page that is given
is left alone, so that a failure has nothing to undo. -/
def noteTotal (p : Pager σ) (countSql : Option String) (page : PageInfo) : Action σ PageInfo :=
  if page.countTotal then
    match countSql with
    | none => .fail (.invalidParameter "total requested without a count query")
    | some text => do return { page with total := some (← p.count text) }
  else .give page

/-- Reads a page and then its total; the page as it is noted then comes with the table.  The order
is the one that the calls of a driver show. -/
def readNoted (p : Pager σ) (strategy : PagingStrategy) (sql : String) (countSql : Option String)
    (page : PageInfo) : Action σ (Table × PageInfo) := do
  let read ← p.readPage strategy sql page
  let noted ← p.noteTotal countSql page
  return (read.withPageInfo noted, noted)

/-- A fetch changes its caller's page only after the page and the total were read.  From here on
nothing has to be said about the caller's page in between. -/
theorem fetchPage_apply :
    p.fetchPage strategy sql countSql (page, s) =
      match p.readNoted strategy sql countSql page s with
      | (.ok (table, noted), s) => (.ok table, (noted, s))
      | (.error e, s) => (.error e, (page, s)) := by
  -- Both strategies read a page and differ in nothing behind it, so the strategy is gone after
  -- this step.
  have reads : p.fetchPage strategy sql countSql (page, s) =
      ((do
        let read ← .onSecond (p.readPage strategy sql page)
        if page.countTotal then
          match countSql with
          | none => .fail (.invalidParameter "total requested without a count query")
          | some text => do
            let total ← .onSecond (p.count text)
            fun s => (.ok (read.withPageInfo { page with total := some total }),
              ({ page with total := some total }, s.2))
        else return read.withPageInfo page) : Action (PageInfo × σ) Table) (page, s) := by
    cases strategy <;> rfl
  rw [reads, Action.onSecond_bind_apply, readNoted, Action.bind_apply]
  rcases p.readPage strategy sql page s with ⟨_ | read, mid⟩
  · rfl
  dsimp only
  rw [Action.bind_apply, noteTotal.eq_def]
  by_cases wanted : page.countTotal = true
  · rw [if_pos wanted, if_pos wanted]
    cases countSql with
    | none => rfl
    | some text =>
      refine (Action.onSecond_bind_apply _ _ page mid).trans ?_
      dsimp only
      rw [Action.bind_apply]
      rcases p.count text mid with ⟨_ | total, last⟩ <;> rfl
  · rw [if_neg wanted, if_neg wanted]
    rfl

/-- A total is noted as its query gives it, if it is wanted. -/
theorem noteTotal_eq_ok_iff :
    p.noteTotal countSql page s = (.ok page', s') ↔
      (page.countTotal = true ∧ ∃ text total, countSql = some text ∧
        p.count text s = (.ok total, s') ∧ page' = { page with total := some total }) ∨
      (page.countTotal = false ∧ page' = page ∧ s' = s) := by
  rw [noteTotal.eq_def]
  cases wanted : page.countTotal with
  | false => simp [Action.give, eq_comm]
  | true =>
    cases countSql with
    | none => simp [Action.fail]
    | some text =>
      rw [if_pos rfl]
      dsimp only
      rw [Action.bind_eq_ok_iff]
      simp [Action.pure_apply, eq_comm]

/-- A page is read if its rows are and its total is noted. -/
theorem readNoted_eq_ok_iff :
    p.readNoted strategy sql countSql page s = (.ok (table, page'), s') ↔
      ∃ read mid, p.readPage strategy sql page s = (.ok read, mid) ∧
        p.noteTotal countSql page mid = (.ok page', s') ∧ table = read.withPageInfo page' := by
  simp only [readNoted, Action.bind_eq_ok_iff, Action.pure_apply]
  constructor
  · rintro ⟨read, mid, reads, noted, last, notes, same⟩
    obtain ⟨⟨rfl, rfl⟩, rfl⟩ : (_ ∧ _) ∧ _ := by simpa using same
    exact ⟨read, mid, reads, notes, rfl⟩
  · rintro ⟨read, mid, reads, notes, rfl⟩
    exact ⟨read, mid, reads, page', s', notes, rfl⟩

end Pager

/-- What is done in the world of a session leaves what the session knows of the driver.  So the
driver is asked by nothing but `capabilities`. -/
theorem Session.onWorld_eq_ok_iff {σ α : Type} {x : Action σ α} {s s' : Session σ} {b : α} :
    onWorld x s = (.ok b, s') ↔
      x s.world = (.ok b, s'.world) ∧ s'.capabilities = s.capabilities := by
  unfold onWorld
  rcases x s.world with ⟨result, world⟩
  cases s'
  simp only [Prod.mk.injEq, Session.mk.injEq, and_assoc]
  refine and_congr_right fun _ => ?_
  rw [and_comm, eq_comm (a := world), eq_comm (a := s.capabilities)]

namespace Adapter

variable {σ : Type} {a : Adapter σ} {script : QueryScript} {request : Request}
  {sql : String} {countSql : Option String} {table : Table} {session : Session σ}
  {after : Request × Session σ}

/-- The pager of an adapter whose driver can do what is known of it.  Naming it keeps the fetch size
out of the statements. -/
def pagerWith (a : Adapter σ) (known : Capabilities) : Pager σ :=
  (Pager.ofSource a.source known).withMaxFetchSize a.config.maxFetchSize.toNat

/-- A query as a chain of two actions: what the driver can do decides on the pager, and the pager
runs the query. -/
theorem runQuery_eq (sql : String) : a.runQuery sql = (do
    let known ← a.capabilities
    Session.onWorld ((a.pagerWith known).execute sql a.config.effectiveRowCap.toNat)) := by
  rw [runQuery, pager, bind_assoc]
  rfl

/-- A query is run with a pager of what the driver can do.  It reads up to the row cap, as for every
query without a page. -/
theorem runQuery_eq_ok_iff {after : Session σ} :
    a.runQuery sql session = (.ok table, after) ↔
      ∃ known asked, a.capabilities session = (.ok known, asked) ∧
        (a.pagerWith known).execute sql a.config.effectiveRowCap.toNat asked.world =
          (.ok table, after.world) ∧
        after.capabilities = asked.capabilities := by
  simp only [runQuery_eq, Action.bind_eq_ok_iff, Session.onWorld_eq_ok_iff]

/-- The texts of a request are the page's SQL and, if the total is wanted, the SQL that
counts; a page that does not exist has none. -/
theorem sourceTexts_eq_ok_iff {strategy : PagingStrategy} :
    a.sourceTexts script request = .ok (sql, strategy, countSql) ↔
      request.pageInfo.IsValid ∧ strategy = a.strategy ∧
        a.resolution.dialect.render script request a.strategy.mode = .ok sql ∧
        if request.pageInfo.countTotal then
          ∃ text, a.resolution.dialect.render script request .countOnly = .ok text ∧
            countSql = some text
        else countSql = none := by
  by_cases valid : request.pageInfo.IsValid
  -- Two texts that are given are the ones asked for; this is all that is left in every case.
  · have texts (text : String) (count : Option String) :
        Except.ok (ε := Failure) (text, a.strategy, count) = .ok (sql, strategy, countSql) ↔
          strategy = a.strategy ∧ text = sql ∧ countSql = count := by
      simp only [Except.ok.injEq, Prod.mk.injEq, eq_comm, and_left_comm]
    rw [sourceTexts_eq valid]
    cases a.resolution.dialect.render script request a.strategy.mode with
    | error e => simp [bind, Except.bind]
    | ok text =>
      cases request.pageInfo.countTotal with
      | true =>
        cases a.resolution.dialect.render script request .countOnly with
        | error e => simp [bind, Except.bind, Except.map]
        | ok count =>
          refine (texts text (some count)).trans ?_
          simp [valid]
      | false =>
        refine (texts text none).trans ?_
        simp [valid]
  · cases checked : request.pageInfo.validate with
    | ok _ => exact absurd (request.pageInfo.validate_eq_ok_iff.1 checked) valid
    | error e => simp [sourceTexts, checked, valid, bind, Except.bind]

/-- The page of a request is read, and noted in a copy of it. -/
theorem readSource_eq : a.readSource script request = (do
    let texts ← .ofExcept (a.sourceTexts script request)
    let known ← a.capabilities
    Session.onWorld do
      let answer ← (a.pagerWith known).readNoted texts.2.1 texts.1 texts.2.2 request.pageInfo
      return (answer.1.withScript texts.1, answer.2)) := by
  rw [readSource]
  refine congrArg _ (funext fun texts => ?_)
  obtain ⟨sql, strategy, countSql⟩ := texts
  dsimp only
  rw [pager, bind_assoc]
  refine congrArg _ (funext fun known => ?_)
  rw [pure_bind, pagerWith]
  -- What pager it is does not matter any more.
  generalize (Pager.ofSource a.source known).withMaxFetchSize a.config.maxFetchSize.toNat = p
  refine congrArg Session.onWorld (funext fun world => ?_)
  rw [Pager.fetchPage_apply, Action.bind_apply]
  rcases p.readNoted strategy sql countSql request.pageInfo world with
    ⟨e | ⟨read, page⟩, world⟩ <;> rfl

/-- A request is read on the source if each of its steps succeeds, in this order: the texts, the
capabilities, the page, the total. -/
theorem readSource_eq_ok_iff {page : PageInfo} {session' : Session σ} :
    a.readSource script request session = (.ok (table, page), session') ↔
      ∃ sql countSql known asked read world,
        a.sourceTexts script request = .ok (sql, a.strategy, countSql) ∧
        a.capabilities session = (.ok known, asked) ∧
        (a.pagerWith known).readPage a.strategy sql request.pageInfo asked.world =
          (.ok read, world) ∧
        (a.pagerWith known).noteTotal countSql request.pageInfo world =
          (.ok page, session'.world) ∧
        session'.capabilities = asked.capabilities ∧
        table = (read.withPageInfo page).withScript sql := by
  rw [readSource_eq]
  constructor
  · intro run
    -- One bind after another is taken apart, in the order of the statement.
    obtain ⟨⟨sql, strategy, countSql⟩, _, rendered, rest⟩ := Action.bind_eq_ok_iff.1 run
    obtain ⟨texts, rfl⟩ := Action.ofExcept_eq_ok_iff.1 rendered
    obtain ⟨known, asked, answered, rest⟩ := Action.bind_eq_ok_iff.1 rest
    obtain ⟨fetch, kept⟩ := Session.onWorld_eq_ok_iff.1 rest
    obtain ⟨⟨_, _⟩, _, ended, gave⟩ := Action.bind_eq_ok_iff.1 fetch
    obtain ⟨⟨rfl, rfl⟩, rfl⟩ : (_ ∧ _) ∧ _ := by simpa [Action.pure_apply] using gave
    obtain ⟨read, world, reads, notes, rfl⟩ := Pager.readNoted_eq_ok_iff.1 ended
    obtain rfl := (sourceTexts_eq_ok_iff.1 texts).2.1
    exact ⟨sql, countSql, known, asked, read, world, texts, answered, reads, notes, kept, rfl⟩
  · rintro ⟨sql, countSql, known, asked, read, world, texts, answered, reads, notes, kept, rfl⟩
    refine Action.bind_eq_ok_iff.2 ⟨_, _, Action.ofExcept_eq_ok_iff.2 ⟨texts, rfl⟩, ?_⟩
    refine Action.bind_eq_ok_iff.2 ⟨known, asked, answered, ?_⟩
    refine Session.onWorld_eq_ok_iff.2 ⟨?_, kept⟩
    refine Action.bind_eq_ok_iff.2 ⟨(read.withPageInfo page, page), session'.world, ?_, rfl⟩
    exact Pager.readNoted_eq_ok_iff.2 ⟨read, world, reads, notes, rfl⟩

/-- A request is answered on the source if its page is read and noted; only then the caller's page
is the one noted.  All else of the request is the caller's. -/
theorem execute_onSource_eq_ok_iff (onSource : request.localAggregate = false) :
    a.execute script (request, session) = (.ok table, after) ↔
      ∃ page, a.readSource script request session = (.ok (table, page), after.2) ∧
        after.1 = { request with pageInfo := page } := by
  rw [execute_of_onSource onSource]
  rcases a.readSource script request session with ⟨_ | ⟨read, page⟩, session'⟩
  · simp
  · obtain ⟨request', session''⟩ := after
    simp only [Prod.mk.injEq, Except.ok.injEq]
    grind

/-- A request is answered locally if the script's result is fetched and the aggregator
gives a table for it. -/
theorem execute_locally_eq_ok_iff (locally : request.localAggregate = true) :
    a.execute script (request, session) = (.ok table, after) ↔
      after.1 = request ∧ ∃ aggregate sql fetched mid,
        a.aggregator = some aggregate ∧
        a.resolution.dialect.render script request .scriptOnly = .ok sql ∧
        a.runQuery sql session = (.ok fetched, mid) ∧
        aggregate none request [((fetched.withDeclaredTypes script.declaredType?).withName
          script.key).withScript sql] mid.world = (.ok table, after.2.world) ∧
        after.2.capabilities = mid.capabilities := by
  -- A local execution works on the session alone, so the request is the caller's.
  have locallyRun : a.execute script (request, session) = (.ok table, after) ↔
      after.1 = request ∧ a.executeLocally script request session = (.ok table, after.2) := by
    rw [execute, if_pos locally, Action.onSecond]
    rcases a.executeLocally script request session with ⟨result, session'⟩
    obtain ⟨request', session''⟩ := after
    simp only [Prod.mk.injEq]
    grind
  rw [locallyRun, executeLocally]
  refine and_congr_right fun _ => ?_
  cases a.aggregator with
  | none => simp [Action.fail]
  | some aggregate =>
    simp only [Action.bind_eq_ok_iff, Action.ofExcept_eq_ok_iff, Session.onWorld_eq_ok_iff]
    constructor
    · rintro ⟨sql, _, ⟨rendered, rfl⟩, fetched, mid, ran, gave, kept⟩
      exact ⟨aggregate, sql, fetched, mid, rfl, rendered, ran, gave, kept⟩
    · rintro ⟨_, sql, fetched, mid, same, rendered, ran, gave, kept⟩
      obtain rfl := Option.some.inj same
      exact ⟨sql, _, ⟨rendered, rfl⟩, fetched, mid, ran, gave, kept⟩

/-- A failure leaves the request as it was.  It does not matter which of the two ways the request
went, nor how far. -/
theorem request_eq_of_execute_error {e : Failure}
    (failed : a.execute script (request, session) = (.error e, after)) : after.1 = request := by
  cases locally : request.localAggregate with
  | false =>
    rw [execute_of_onSource locally] at failed
    rcases run : a.readSource script request session with ⟨_ | ⟨read, page⟩, session'⟩
    · rw [run] at failed
      obtain rfl := (Prod.mk.inj failed).2
      rfl
    · rw [run] at failed
      simp at failed
  | true =>
    have kept := congrArg (fun ended => ended.2.1) failed
    rw [execute, if_pos locally] at kept
    exact kept.symm

/-- **An execution changes its caller's request at its end or not at all.**  If it fails,
wherever that is, the request is as it was before.  If it succeeds on the source, the
request has the total that the count query gave after the page was read, if it is wanted,
and is as it was otherwise; the table is the one read, with the page of the request and
with the SQL of the page.  If it succeeds locally, the request is as it was and the table
is what the aggregator gave for the script's result. -/
theorem execute_frame (a : Adapter σ) (script : QueryScript) (request : Request)
    (session : Session σ) :
    (∀ e after, a.execute script (request, session) = (.error e, after) → after.1 = request) ∧
    (request.localAggregate = false → ∀ table after,
      a.execute script (request, session) = (.ok table, after) →
        after.1 = { request with
          pageInfo := { request.pageInfo with total := after.1.pageInfo.total } } ∧
        table.pageInfo = some after.1.pageInfo ∧
        ∃ sql known asked read world,
          a.resolution.dialect.render script request a.strategy.mode = .ok sql ∧
          table.script = some sql ∧
          a.capabilities session = (.ok known, asked) ∧
          (a.pagerWith known).readPage a.strategy sql request.pageInfo asked.world =
            (.ok read, world) ∧
          table = (read.withPageInfo after.1.pageInfo).withScript sql ∧
          (request.pageInfo.countTotal = true → ∃ countSql total,
            a.resolution.dialect.render script request .countOnly = .ok countSql ∧
            (a.pagerWith known).count countSql world = (.ok total, after.2.world) ∧
            after.1.pageInfo.total = some total) ∧
          (request.pageInfo.countTotal = false →
            after.1.pageInfo.total = request.pageInfo.total ∧ after.2.world = world)) ∧
    (request.localAggregate = true → ∀ table after,
      a.execute script (request, session) = (.ok table, after) →
        after.1 = request ∧ ∃ aggregate sql fetched mid,
          a.aggregator = some aggregate ∧
          a.resolution.dialect.render script request .scriptOnly = .ok sql ∧
          a.runQuery sql session = (.ok fetched, mid) ∧
          aggregate none request [((fetched.withDeclaredTypes script.declaredType?).withName
            script.key).withScript sql] mid.world = (.ok table, after.2.world)) := by
  refine ⟨fun e after failed => request_eq_of_execute_error failed,
    fun onSource table after run => ?_, fun locally table after run => ?_⟩
  -- On the source: the request is as it was but for the page that was read, and that page is the
  -- one asked for with what `noteTotal` put into it.
  · obtain ⟨page, answered, same⟩ := (execute_onSource_eq_ok_iff onSource).1 run
    obtain ⟨sql, countSql, known, asked, read, world, texts, capable, reads, notes, -, rfl⟩ :=
      readSource_eq_ok_iff.1 answered
    obtain ⟨-, -, rendered, counting⟩ := sourceTexts_eq_ok_iff.1 texts
    obtain rfl : after.1.pageInfo = page := by rw [same]
    -- The total is counted if and only if it is wanted.
    rcases Pager.noteTotal_eq_ok_iff.1 notes with
      ⟨wanted, text, total, rfl, counted, noted⟩ | ⟨unwanted, noted, world_eq⟩
    · rw [if_pos wanted] at counting
      obtain ⟨_, rendered', same_text⟩ := counting
      obtain rfl := Option.some.inj same_text
      refine ⟨by rw [same, noted], rfl, sql, known, asked, read, world, rendered, rfl, capable,
        reads, rfl, fun _ => ⟨text, total, rendered', counted, by rw [noted]⟩, fun unwanted => ?_⟩
      simp [wanted] at unwanted
    · refine ⟨by rw [same, noted], rfl, sql, known, asked, read, world, rendered, rfl, capable,
        reads, rfl, fun wanted => ?_, fun _ => ⟨by rw [noted], world_eq⟩⟩
      simp [wanted] at unwanted
  · obtain ⟨same, aggregate, sql, fetched, mid, present, rendered, ran, gave, -⟩ :=
      (execute_locally_eq_ok_iff locally).1 run
    exact ⟨same, aggregate, sql, fetched, mid, present, rendered, ran, gave⟩

/-- An execution that succeeds on the source, for a script without operations: of seven
numbered rows the third page of three is asked for, and the request has the total then. -/
theorem execute_frame_seven :
    let rows := Rehearsal.PreparedRows.counted 7 true
    let adapter : Adapter Rehearsal.Stage :=
      ⟨.ofDriver ⟨"generic", none, none, false⟩,
        (Rehearsal.Script.withCount rows (.integer 7)).source, none⟩
    let request := Request.ofPage (.request 3 3 true)
    ∃ table after, adapter.execute (.ofText "SELECT 1") (request, .start .empty) =
        (.ok table, after) ∧
      after.1 = { request with pageInfo := { request.pageInfo with total := some 7 } } ∧
      table.pageInfo = some after.1.pageInfo ∧ table.rows.length = 1 := by
  intro rows adapter request
  have answered : ((adapter.execute (.ofText "SELECT 1") (request, .start .empty)).1.toOption.map
      fun table => table.rows.length) = some 1 := by decide +kernel
  have total : (adapter.execute (.ofText "SELECT 1") (request, .start .empty)).2.1.pageInfo.total =
      some 7 := by decide +kernel
  -- The run itself is too large to be compared as a whole, so only the number of its rows and its
  -- total are computed; the rest is read off the theorem.
  rcases run : adapter.execute (.ofText "SELECT 1") (request, .start .empty) with
    ⟨_ | table, after⟩
  · simp [run, Except.toOption] at answered
  · obtain ⟨noted, page, -⟩ := (execute_frame adapter (.ofText "SELECT 1") request
      (.start .empty)).2.1 rfl table after run
    rw [run] at answered total
    rw [total] at noted
    exact ⟨table, after, rfl, noted, page, Option.some.inj answered⟩

end Adapter
end PagedQuery
