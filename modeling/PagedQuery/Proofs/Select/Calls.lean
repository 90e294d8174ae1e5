/-
# Aggregates of whole rows

An aggregate function is applied in three places of a query: by an aggregate in the select list,
by a filter on an aggregate in `HAVING`, and by a sort by an aggregate in `ORDER BY`.  In each of
them `*` stands for whole rows.

Only counting whole rows has a meaning, but no place looks at the function: a request is refused
alike whichever functions it has, and a function of `*` that is not refused stands in the text as
it was asked for (`Dialect.render_any_function`, `Dialect.exists_sum_of_rows`).

The first half compares two requests, one of which has other functions, and two results that fail
with one failure or not at all (`FailsAlike`).  It goes through the query clause by clause; that
the texts differ does not matter to it.  The second half finds the text of a function in the query
that is built.
-/

import PagedQuery.Proofs.Select.Conditions

namespace PagedQuery

/-! ### Results that fail alike -/

/-- Whether two results fail alike: with one failure, or both not at all.  What they give if they do
not fail may differ. -/
def FailsAlike {α β : Type} (x : Except Failure α) (y : Except Failure β) : Prop :=
  ∀ e, x = .error e ↔ y = .error e

namespace FailsAlike

variable {α β γ δ : Type} {x : Except Failure α} {y : Except Failure β}

/-- A result fails as it does. -/
theorem refl (x : Except Failure α) : FailsAlike x x :=
  fun _ => Iff.rfl

/-- Two results that do not fail fail alike. -/
theorem ok (a : α) (b : β) : FailsAlike (.ok a) (.ok b) :=
  fun _ => iff_of_false (fun h => nomatch h) fun h => nomatch h

/-- Two results that fail with one failure fail alike. -/
theorem error (e : Failure) :
    FailsAlike (.error e : Except Failure α) (.error e : Except Failure β) :=
  fun _ => by rw [Except.error.injEq, Except.error.injEq]

/-- Steps that fail alike, followed by steps that do, fail alike. -/
theorem bind {f : α → Except Failure γ} {g : β → Except Failure δ} (first : FailsAlike x y)
    (next : ∀ a b, x = .ok a → y = .ok b → FailsAlike (f a) (g b)) :
    FailsAlike (x >>= f) (y >>= g) := by
  cases x with
  | error e =>
    obtain rfl := (first e).1 rfl
    exact .error e
  | ok a =>
    cases y with
    | error e => cases (first e).2 rfl
    | ok b => exact next a b rfl rfl

/-- Results that go on from one value. -/
theorem bind_same {f : α → Except Failure γ} {g : α → Except Failure δ}
    (next : ∀ a, FailsAlike (f a) (g a)) : FailsAlike (x >>= f) (x >>= g) :=
  (refl x).bind fun a _ gave gave' => Except.ok.inj (gave.symm.trans gave') ▸ next a

/-- Nothing can fail in changing a result. -/
theorem map {f : α → γ} {g : β → δ} (h : FailsAlike x y) : FailsAlike (x.map f) (y.map g) :=
  fun e => exceptMap_eq_error_iff.trans ((h e).trans exceptMap_eq_error_iff.symm)

/-- Lists fail alike if their members do, since the first failure is the one that counts. -/
theorem mapM {f : β → Except Failure γ} {g : α → Except Failure δ} {change : α → β}
    (each : ∀ a, FailsAlike (f (change a)) (g a)) (as : List α) :
    FailsAlike ((as.map change).mapM f) (as.mapM g) := by
  induction as with
  | nil => exact ok [] []
  | cons a as ih =>
    rw [List.map_cons, List.mapM_cons, List.mapM_cons]
    exact (each a).bind fun _ _ _ _ => ih.bind fun _ _ _ _ => ok _ _

end FailsAlike

/-! ### Other functions in the same places -/

/-- The filter with another function. -/
def Filter.mapFunction (φ : AggregateFunction → AggregateFunction) (f : Filter) : Filter :=
  { f with aggregate := f.aggregate.map φ }

/-- The request with other functions.  Everything else stays, also which filters are about
groups. -/
def Request.mapFunctions (φ : AggregateFunction → AggregateFunction) (r : Request) : Request :=
  { r with
    aggregates := r.aggregates.map fun a => { a with function := φ a.function }
    filters := r.filters.map (Filter.mapFunction φ)
    orders := r.orders.map fun o => { o with aggregate := o.aggregate.map φ } }

/-- Whether a request applies a function to a column, or to whole rows under the name `*`. -/
def Request.Applies (r : Request) (f : AggregateFunction) (column : String) : Prop :=
  (∃ a ∈ r.aggregates, a.function = f ∧ a.column = column) ∨
  (∃ c ∈ r.filters, c.aggregate = some f ∧ c.column = column) ∨
  ∃ o ∈ r.orders, o.aggregate = some f ∧ o.column = column

namespace Dialect

section Refused

variable (d : Dialect) (φ : AggregateFunction → AggregateFunction)

/-- Whether values can be compared with does not depend on what is compared. -/
theorem isSome_comparisonText? (expression expression' : List Char) (c : Comparison)
    (values : List (List Char)) :
    (comparisonText? expression c values).isSome =
      (comparisonText? expression' c values).isSome := by
  unfold comparisonText?
  split <;> rfl

/-- A condition is refused for its values alone. -/
theorem condition_mapFunction (f : Filter) :
    FailsAlike (d.condition (f.mapFunction φ)) (d.condition f) := by
  -- The two conditions compare different expressions with the same values.
  refine .bind_same fun values => ?_
  have alike := isSome_comparisonText? (d.columnExpression (f.aggregate.map φ) f.column)
    (d.columnExpression f.aggregate f.column) f.comparison values
  dsimp only [Filter.mapFunction]
  cases written : comparisonText? (d.columnExpression f.aggregate f.column) f.comparison
      values with
  | none =>
    rw [written, Option.isSome_none, Option.isSome_eq_false_iff,
      Option.isNone_iff_eq_none] at alike
    rw [alike]
    exact .refl _
  | some text =>
    rw [written, Option.isSome_some] at alike
    obtain ⟨text', written'⟩ := Option.isSome_iff_exists.1 alike
    rw [written']
    exact .ok text' text

/-- A clause of conditions is refused for one of them, or not at all. -/
theorem conditionClause_mapFunction (keyword : String) (filters : List Filter) :
    FailsAlike (d.conditionClause keyword (filters.map (Filter.mapFunction φ)))
      (d.conditionClause keyword filters) := by
  unfold conditionClause
  rw [List.isEmpty_map]
  split
  · exact .ok [] []
  · exact (FailsAlike.mapM (d.condition_mapFunction φ) filters).bind fun _ _ _ _ => .ok _ _

/-- A query is refused alike with other functions.  Filters stay on the side they are on, because
whether one is on an aggregate does not depend on its function. -/
theorem query_mapFunctions (r : Request) (source : List Char) :
    FailsAlike (d.query (r.mapFunctions φ) source) (d.query r source) := by
  have kept (isKept : Option AggregateFunction → Bool)
      (same : ∀ f, isKept (f.map φ) = isKept f) :
      (r.mapFunctions φ).filters.filter (fun f => isKept f.aggregate) =
        (r.filters.filter fun f => isKept f.aggregate).map (Filter.mapFunction φ) := by
    have isKept' : (fun f : Filter => isKept f.aggregate) ∘ Filter.mapFunction φ =
        fun f => isKept f.aggregate := funext fun f => same f.aggregate
    rw [Request.mapFunctions, List.filter_map, isKept']
  have selected : FailsAlike (d.selectItems (r.mapFunctions φ)) (d.selectItems r) :=
    .bind_same fun _ => .ok _ _
  rw [query, query, kept Option.isNone fun _ => Option.isNone_map,
    kept Option.isSome fun _ => Option.isSome_map]
  exact selected.bind fun _ _ _ _ => (d.conditionClause_mapFunction φ _ _).bind fun _ _ _ _ =>
    (d.conditionClause_mapFunction φ _ _).bind fun _ _ _ _ => .ok _ _

/-- Other functions are no fewer operations. -/
theorem hasOperations_mapFunctions (r : Request) :
    (r.mapFunctions φ).hasOperations = r.hasOperations := by
  simp [Request.hasOperations, Request.mapFunctions]

/-- With a page or without one, a selection is refused alike. -/
theorem select_mapFunctions (r : Request) (source : List Char) (isPaged : Bool) :
    FailsAlike (d.select (r.mapFunctions φ) source isPaged) (d.select r source isPaged) := by
  cases isPaged with
  | true =>
    rw [select_paged_eq, select_paged_eq]
    exact (d.query_mapFunctions φ r source).bind fun _ _ _ _ => .bind_same fun _ => .ok _ _
  | false =>
    rw [select_unpaged, select_unpaged, hasOperations_mapFunctions]
    split
    · exact d.query_mapFunctions φ r source
    · exact .ok _ _

/-- **No text is refused for the functions of a request.**  It is shown by exchanging them for any
others. -/
theorem render_mapFunctions (s : QueryScript) (r : Request) (mode : RenderMode) :
    FailsAlike (d.render s (r.mapFunctions φ) mode) (d.render s r mode) := by
  refine .map (.bind_same fun source => ?_)
  cases mode with
  | scriptOnly => exact .ok source source
  | plain => exact d.select_mapFunctions φ r source false
  | paginated => exact d.select_mapFunctions φ r source d.supportsPaging
  | countOnly => exact (d.select_mapFunctions φ r source false).map

end Refused

/-! ### Where functions stand -/

section Written

variable {d : Dialect} {s : QueryScript} {r : Request} {f : AggregateFunction} {column : String}

/-- What is related to a member of a list is in the other one. -/
theorem exists_mem_of_forall₂ {α β : Type} {R : α → β → Prop} {as : List α} {bs : List β}
    (each : List.Forall₂ R as bs) {a : α} (inside : a ∈ as) : ∃ b ∈ bs, R a b := by
  induction each with
  | nil => exact absurd inside List.not_mem_nil
  | cons first _ ih =>
    rcases List.mem_cons.1 inside with rfl | inside
    · exact ⟨_, List.mem_cons_self, first⟩
    · obtain ⟨b, there, related⟩ := ih inside
      exact ⟨b, List.mem_cons_of_mem _ there, related⟩

/-- Joined texts are parts of the whole. -/
theorem infix_joinWith (separator : String) {part : List Char} {parts : List (List Char)}
    (inside : part ∈ parts) : part <:+: Text.joinWith separator parts := by
  induction parts with
  | nil => exact absurd inside List.not_mem_nil
  | cons first others ih =>
    cases others with
    | nil =>
      obtain rfl := List.mem_singleton.1 inside
      exact ⟨[], [], by simp [Text.joinWith]⟩
    | cons second others =>
      rw [Text.joinWith, List.intercalate_cons_cons]
      rcases List.mem_cons.1 inside with rfl | inside
      · rw [List.append_assoc]
        exact (List.prefix_append ..).isInfix
      · exact (ih inside).trans (List.suffix_append ..).isInfix

/-- A condition stands in its clause. -/
theorem infix_conjunction (keyword : String) {condition : List Char}
    {conditions : List (List Char)} (inside : condition ∈ conditions) :
    condition <:+: conjunction keyword conditions := by
  cases conditions with
  | nil => exact absurd inside List.not_mem_nil
  | cons first others => exact (infix_joinWith _ inside).trans (List.suffix_append ..).isInfix

/-- An item stands in its clause. -/
theorem infix_listClause (keyword : String) {item : List Char} {items : List (List Char)}
    (inside : item ∈ items) : item <:+: listClause keyword items := by
  rw [listClause, if_neg fun empty => List.ne_nil_of_mem inside (List.isEmpty_iff.1 empty)]
  exact (infix_joinWith _ inside).trans (List.suffix_append ..).isInfix

/-- A comparison begins with what is compared. -/
theorem prefix_of_writes {expression text : List Char} {c : Comparison}
    {values : List (List Char)} (written : c.Writes expression values text) :
    expression <+: text := by
  cases written with
  | none => exact List.prefix_append ..
  | one | two | some => exact (List.prefix_append ..).trans (List.prefix_append ..)

/-- Each aggregate has its item in the select list. -/
theorem mem_items_of_mem_aggregates {items : List (List Char)}
    (selected : d.selectItems r = .ok items) {a : Aggregate} (inside : a ∈ r.aggregates) :
    d.aggregateItem a ∈ items := by
  obtain ⟨named, -, whole⟩ := exceptBind_eq_ok_iff.1 selected
  have listed := List.mem_map_of_mem (f := d.aggregateItem) inside
  obtain rfl := Except.ok.inj whole
  split
  · next none =>
    rw [List.isEmpty_iff, List.append_eq_nil_iff] at none
    rw [none.2] at listed
    exact absurd listed List.not_mem_nil
  · exact List.mem_append_right _ listed

/-- A request that applies a function has operations, so a query is built for it. -/
theorem hasOperations_of_applies (applies : r.Applies f column) : r.hasOperations = true := by
  by_contra none
  simp only [Request.hasOperations, Bool.not_eq_true', Bool.not_eq_false, Bool.and_eq_true,
    List.isEmpty_iff] at none
  obtain ⟨⟨⟨⟨-, aggregates⟩, filters⟩, -⟩, orders⟩ := none
  rcases applies with ⟨a, inside, -⟩ | ⟨c, inside, -⟩ | ⟨o, inside, -⟩
  · exact List.ne_nil_of_mem inside aggregates
  · exact List.ne_nil_of_mem inside filters
  · exact List.ne_nil_of_mem inside orders

/-- What a request applies stands before its script or behind it. -/
theorem exists_around_of_isQuery {source text : List Char} (query : r.IsQuery d source text) :
    ∃ before behind, text = before ++ source ++ behind ∧ ∀ f column, r.Applies f column →
      d.aggregateExpression f column <:+: before ∨ d.aggregateExpression f column <:+: behind := by
  obtain ⟨items, wheres, havings, selected, -, onGroups, rfl⟩ := query
  -- The select list stands before the script and all other clauses behind it.
  refine ⟨"SELECT ".toList ++ Text.joinWith ", " items ++ " FROM ".toList ++ ['('],
    (if d.aliasAs then ") AS " else ") ").toList ++ sourceAlias.toList ++
      conjunction " WHERE " wheres ++
      listClause " GROUP BY " (r.groups.map fun g => d.quoteIdentifier g.column.toList) ++
      conjunction " HAVING " havings ++ listClause " ORDER BY " (r.orders.map d.sortItem),
    ?whole, ?placed⟩
  case whole =>
    simp only [derivedTable, List.append_assoc, List.cons_append, List.nil_append]
  case placed =>
    -- A function is applied by an aggregate, by a condition on groups or by a sort key, and each
    -- of these is written in its own clause.
    rintro f column (⟨a, inside, rfl, rfl⟩ | ⟨c, inside, about, rfl⟩ | ⟨o, inside, about, rfl⟩)
    · have expression : d.aggregateExpression a.function a.column <:+: d.aggregateItem a :=
        (List.prefix_append ..).isInfix
      have item := infix_joinWith ", " (mem_items_of_mem_aggregates selected inside)
      refine .inl ((expression.trans item).trans ?_)
      exact ((List.infix_append ..).trans (List.prefix_append ..).isInfix)
    · obtain ⟨condition, there, values, -, written⟩ := exists_mem_of_forall₂ onGroups
        (List.mem_filter.2 ⟨inside, by rw [about]; rfl⟩)
      rw [about] at written
      have clause := infix_conjunction " HAVING " there
      refine .inr (((prefix_of_writes written).isInfix.trans clause).trans ?_)
      exact List.infix_append ..
    · have expression : d.aggregateExpression f o.column <:+: d.sortItem o := by
        rw [sortItem, about]
        exact (List.prefix_append ..).isInfix
      have clause := infix_listClause " ORDER BY "
        (List.mem_map_of_mem (f := d.sortItem) inside)
      exact .inr ((expression.trans clause).trans (List.suffix_append ..).isInfix)

end Written

/-- **No function is a reason to refuse.**  Whatever text is asked for, it is refused alike for
all requests that differ in their aggregate functions alone.  Where the plain text is not
refused, every function that is applied to whole rows, be it `COUNT` or not, stands in it before
the script or behind it, with `*` in its parentheses. -/
theorem render_any_function (d : Dialect) (s : QueryScript) (r : Request) :
    (∀ φ mode, FailsAlike (d.render s (r.mapFunctions φ) mode) (d.render s r mode)) ∧
    ∀ sql, d.render s r .plain = .ok sql → ∃ source before behind,
      d.render s r .scriptOnly = .ok source ∧ sql.toList = before ++ source.toList ++ behind ∧
      ∀ f, r.Applies f "*" → f.apply ['*'] <:+: before ∨ f.apply ['*'] <:+: behind := by
  refine ⟨fun φ mode => d.render_mapFunctions φ s r mode, fun sql rendered => ?_⟩
  cases spliced : s.splice d with
  | error e =>
    rw [render_of_splice_error spliced] at rendered
    cases rendered
  | ok source =>
    rw [render_plain spliced, select_unpaged] at rendered
    -- Without operations no function is applied and the text is the script.
    cases operations : r.hasOperations with
    | false =>
      rw [operations, if_neg Bool.false_ne_true] at rendered
      obtain rfl := Except.ok.inj rendered
      refine ⟨_, [], [], render_scriptOnly spliced, by simp, fun f applies => ?_⟩
      exact absurd (hasOperations_of_applies applies) (by simp [operations])
    | true =>
      rw [operations, if_pos rfl] at rendered
      obtain ⟨text, built, rfl⟩ := exceptMap_eq_ok_iff.1 rendered
      obtain ⟨before, behind, whole, placed⟩ := exists_around_of_isQuery (query_eq_ok_iff.1 built)
      refine ⟨_, before, behind, render_scriptOnly spliced, ?_, fun f => placed f "*"⟩
      rw [String.toList_ofList, String.toList_ofList, whole]

/-- The sum of whole rows selected, their maximum in a condition, and rows sorted by how many
different ones there are. -/
theorem render_any_function_sum :
    let d := Product.sqlite.dialect
    let r := { Request.ofPage .first with
      aggregates := [⟨"*", .sum, some "s"⟩]
      filters := [⟨"*", .greaterThan, [⟨"1", .numeric⟩], some .max⟩]
      orders := [⟨"*", .descending, some .countDistinct⟩] }
    let sql := "SELECT SUM(*) AS \"s\" FROM (T) AS V_SRC HAVING MAX(*) > 1" ++
      " ORDER BY COUNT(DISTINCT *) DESC"
    d.render (.ofText "T") r .plain = .ok sql ∧ ∃ source before behind,
      d.render (.ofText "T") r .scriptOnly = .ok source ∧
      sql.toList = before ++ source.toList ++ behind ∧
      ∀ call ∈ ["SUM(*)", "MAX(*)", "COUNT(DISTINCT *)"],
        call.toList <:+: before ∨ call.toList <:+: behind := by
  intro d r sql
  have rendered : d.render (.ofText "T") r .plain = .ok sql := ok_of_toOption (by decide +kernel)
  obtain ⟨source, before, behind, script, whole, placed⟩ :=
    (render_any_function d (.ofText "T") r).2 sql rendered
  refine ⟨rendered, source, before, behind, script, whole, ?_⟩
  simp only [List.forall_mem_cons]
  exact ⟨placed .sum (.inl ⟨_, List.mem_cons_self, rfl, rfl⟩),
    placed .max (.inr (.inl ⟨_, List.mem_cons_self, rfl, rfl⟩)),
    placed .countDistinct (.inr (.inr ⟨_, List.mem_cons_self, rfl, rfl⟩)),
    fun _ mem => absurd mem List.not_mem_nil⟩

/-- Whole rows are summed up where they can only be counted. -/
theorem exists_sum_of_rows :
    let d := Product.sqlite.dialect
    let r := { Request.ofPage .first with aggregates := [⟨"*", .sum, none⟩] }
    r.Applies .sum "*" ∧ d.render (.ofText "T") r .plain =
      .ok "SELECT SUM(*) AS \"SUM(*)\" FROM (T) AS V_SRC" :=
  ⟨.inl ⟨_, List.mem_cons_self, rfl, rfl⟩, ok_of_toOption (by decide +kernel)⟩

end Dialect

end PagedQuery
