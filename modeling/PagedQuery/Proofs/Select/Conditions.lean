/-
# The conditions of a query

A filter compares a column, or an aggregate of it, with values:

| comparison | values | condition |
| --- | --- | --- |
| `=`, `<>`, `>`, `>=`, `<`, `<=`, `LIKE`, `NOT LIKE` | one | `column = value` |
| `IN`, `NOT IN` | one or more | `column IN (value, value)` |
| `IS NULL`, `IS NOT NULL` | none | `column IS NULL` |
| `BETWEEN` | two | `column BETWEEN low AND high` |

A query can be built exactly if every filter has as many values as its comparison takes, all
of them have a text, and no `*` is given an alias.  The filters on columns are then the
conditions after `WHERE`, those on aggregates the conditions after `HAVING`, all of them and
in their order (`query_eq_ok_iff`, `render_plain_iff`).  Nothing is refused for any other
reason, and every refusal is a failure of rendering.
-/

import PagedQuery.Proofs.Action
import PagedQuery.Proofs.Select.Modes

namespace PagedQuery

/-! ### Comparisons -/

namespace Comparison

/-- Whether a comparison takes a number of values.  A list takes any number but none. -/
def Takes (c : Comparison) (n : Nat) : Prop :=
  match c with
  | equals | notEquals | greaterThan | greaterThanOrEqual | lessThan | lessThanOrEqual | like
  | notLike => n = 1
  | isNull | isNotNull => n = 0
  | between => n = 2
  | isIn | isNotIn => 1 ≤ n

/-- What comparing an expression with values is written as.  There is one constructor for each
number of values a comparison may take, so the text says how many there were. -/
inductive Writes (expression : List Char) : Comparison → List (List Char) → List Char → Prop
  /-- Without a value the operator stands last. -/
  | none {c : Comparison} (listed : c ∈ [isNull, isNotNull]) :
      Writes expression c [] (expression ++ ' ' :: c.sql.toList)
  /-- A single value stands behind the operator. -/
  | one {c : Comparison} (value : List Char)
      (listed : c ∈ [equals, notEquals, greaterThan, greaterThanOrEqual, lessThan,
        lessThanOrEqual, like, notLike]) :
      Writes expression c [value] (expression ++ ' ' :: c.sql.toList ++ ' ' :: value)
  /-- Bounds stand with `AND` between them. -/
  | two (low high : List Char) :
      Writes expression between [low, high]
        (expression ++ ' ' :: between.sql.toList ++ ' ' :: (low ++ (" AND ".toList ++ high)))
  /-- Several values stand in parentheses. -/
  | some {c : Comparison} (value : List Char) (others : List (List Char))
      (listed : c ∈ [isIn, isNotIn]) :
      Writes expression c (value :: others)
        (expression ++ ' ' :: c.sql.toList ++
          (" (".toList ++ (Text.joinWith ", " (value :: others) ++ [')'])))

/-- The comparisons with nothing. -/
theorem arity?_eq_zero_iff {c : Comparison} : c.arity? = some 0 ↔ c ∈ [isNull, isNotNull] := by
  cases c <;> decide

/-- The comparisons with one value. -/
theorem arity?_eq_one_iff {c : Comparison} :
    c.arity? = some 1 ↔ c ∈ [equals, notEquals, greaterThan, greaterThanOrEqual, lessThan,
      lessThanOrEqual, like, notLike] := by
  cases c <;> decide

/-- The comparison with two values. -/
theorem arity?_eq_two_iff {c : Comparison} : c.arity? = some 2 ↔ c = between := by
  cases c <;> decide

/-- The comparisons with a list of values. -/
theorem arity?_eq_none_iff {c : Comparison} : c.arity? = Option.none ↔ c ∈ [isIn, isNotIn] := by
  cases c <;> decide

/-- A comparison with values can be written if it takes their number. -/
theorem exists_writes_iff {c : Comparison} {values : List (List Char)} (expression : List Char) :
    (∃ text, c.Writes expression values text) ↔ c.Takes values.length := by
  constructor
  -- A text that was written shows how many values there are.
  · rintro ⟨text, written⟩
    cases written with
    | none listed => cases c <;> simp_all [Takes]
    | one value listed => cases c <;> simp_all [Takes]
    | two low high => rfl
    | some value others listed => cases c <;> simp_all [Takes]
  · intro taken
    cases c with
    | isNull | isNotNull =>
      obtain rfl := List.length_eq_zero_iff.1 taken
      exact ⟨_, .none (by decide)⟩
    | between =>
      obtain ⟨low, high, rfl⟩ := List.length_eq_two.1 taken
      exact ⟨_, .two low high⟩
    | isIn | isNotIn =>
      obtain ⟨value, others, rfl⟩ := List.exists_cons_of_length_pos taken
      exact ⟨_, .some value others (by decide)⟩
    | _ =>
      obtain ⟨value, rfl⟩ := List.length_eq_one_iff.1 taken
      exact ⟨_, .one value (by decide)⟩

end Comparison

/-! ### What can be rendered -/

section Specification

variable (d : Dialect)

/-- Whether a text is the condition of a filter: what `Writes` says of the column or its aggregate
and of the texts of the values. -/
def Filter.IsCondition (f : Filter) (text : List Char) : Prop :=
  ∃ values,
    List.Forall₂ (fun v value => Literal.render d v.valueType v.value.toList = .ok value)
      f.values values ∧
    f.comparison.Writes (d.columnExpression f.aggregate f.column) values text

/-- Whether a filter has a condition: all its values have a text, and there are as many as
its comparison takes. -/
def Filter.IsRenderable (f : Filter) : Prop :=
  (∀ v ∈ f.values, ∃ value, Literal.render d v.valueType v.value.toList = .ok value) ∧
    f.comparison.Takes f.values.length

/-- Whether a query can be built for a request. -/
def Request.IsRenderable (r : Request) : Prop :=
  (∀ s ∈ r.selectors, s.column = "*" → s.label = none) ∧ ∀ f ∈ r.filters, f.IsRenderable d

/-- The clause of some conditions, nothing where there are none. -/
def Dialect.conjunction (keyword : String) : List (List Char) → List Char
  | [] => []
  | condition :: others => keyword.toList ++ Text.joinWith " AND " (condition :: others)

/-- Whether a text is the query of a request around a script.  It says for every clause what stands
in it and in which order, and leaves out the clauses that have nothing in them. -/
def Request.IsQuery (r : Request) (source text : List Char) : Prop :=
  ∃ items wheres havings,
    d.selectItems r = .ok items ∧
    List.Forall₂ (Filter.IsCondition d) (r.filters.filter fun f => f.aggregate.isNone) wheres ∧
    List.Forall₂ (Filter.IsCondition d) (r.filters.filter fun f => f.aggregate.isSome) havings ∧
    text = "SELECT ".toList ++ Text.joinWith ", " items ++ " FROM ".toList ++
      d.derivedTable source ++ Dialect.conjunction " WHERE " wheres ++
      Dialect.listClause " GROUP BY " (r.groups.map fun g => d.quoteIdentifier g.column.toList) ++
      Dialect.conjunction " HAVING " havings ++
      Dialect.listClause " ORDER BY " (r.orders.map d.sortItem)

end Specification

/-! ### What is built -/

namespace Dialect

section Built

variable {d : Dialect} {expression text source : List Char} {c : Comparison}
variable {values : List (List Char)} {f : Filter} {r : Request}

/-- What is written for a comparison is what `Writes` says, for the number of values that is there.
If the number does not fit, nothing is written. -/
theorem comparisonText?_eq_some_iff :
    comparisonText? expression c values = some text ↔ c.Writes expression values text := by
  constructor
  · intro h
    unfold comparisonText? at h
    -- The cases of the definition are the ways to write a comparison, by the number of values it
    -- takes and the number that is there.
    split at h
    · next zero =>
      obtain rfl := Option.some.inj h
      exact .none (Comparison.arity?_eq_zero_iff.1 zero)
    · next value one =>
      obtain rfl := Option.some.inj h
      exact .one value (Comparison.arity?_eq_one_iff.1 one)
    · next low high two =>
      obtain rfl := Option.some.inj h
      obtain rfl := Comparison.arity?_eq_two_iff.1 two
      exact .two low high
    · next value others many =>
      obtain rfl := Option.some.inj h
      exact .some value others (Comparison.arity?_eq_none_iff.1 many)
    · cases h
  · intro h
    unfold comparisonText?
    cases h with
    | none listed => simp only [Comparison.arity?_eq_zero_iff.2 listed]
    | one value listed => simp only [Comparison.arity?_eq_one_iff.2 listed]
    | two low high => rfl
    | some value others listed => simp only [Comparison.arity?_eq_none_iff.2 listed]

/-- A condition is built from the texts of its values. -/
theorem condition_eq_ok_iff : d.condition f = .ok text ↔ f.IsCondition d text := by
  rw [condition, exceptBind_eq_ok_iff]
  refine exists_congr fun values => and_congr mapM_eq_ok_iff_forall₂ ?_
  rw [← comparisonText?_eq_some_iff]
  cases comparisonText? (d.columnExpression f.aggregate f.column) f.comparison values with
  | none => simp
  | some text => simp

/-- A filter has a condition exactly if its values have texts and are as many as its comparison
takes; the number is looked at after the texts. -/
theorem exists_condition_iff : (∃ text, d.condition f = .ok text) ↔ f.IsRenderable d := by
  simp only [condition_eq_ok_iff, Filter.IsCondition, Filter.IsRenderable,
    ← exists_mapM_eq_ok_iff, mapM_eq_ok_iff_forall₂]
  constructor
  · rintro ⟨text, values, each, written⟩
    have number := (Comparison.exists_writes_iff _).1 ⟨text, written⟩
    rw [← each.length_eq] at number
    exact ⟨⟨values, each⟩, number⟩
  · rintro ⟨⟨values, each⟩, number⟩
    rw [each.length_eq] at number
    obtain ⟨text, written⟩ := (Comparison.exists_writes_iff _).2 number
    exact ⟨text, values, each, written⟩

/-- Conditions are built one by one, in their order. -/
theorem conditions_eq_ok_iff {filters : List Filter} {conditions : List (List Char)} :
    filters.mapM d.condition = .ok conditions ↔
      List.Forall₂ (Filter.IsCondition d) filters conditions := by
  have each : (fun f text => d.condition f = .ok text) = Filter.IsCondition d := by
    funext f text
    exact propext condition_eq_ok_iff
  rw [mapM_eq_ok_iff_forall₂, each]

/-- A clause is its conditions behind a keyword, or nothing where there are none. -/
theorem conditionClause_eq_ok_iff {keyword : String} {filters : List Filter} :
    d.conditionClause keyword filters = .ok text ↔
      ∃ conditions, List.Forall₂ (Filter.IsCondition d) filters conditions ∧
        text = conjunction keyword conditions := by
  -- A list without filters is dealt with by itself, since its clause has no keyword either.
  cases filters with
  | nil =>
    constructor
    · intro h
      obtain rfl := Except.ok.inj h
      exact ⟨[], .nil, rfl⟩
    · rintro ⟨conditions, each, rfl⟩
      cases each
      rfl
  | cons f others =>
    rw [conditionClause, List.isEmpty_cons, if_neg Bool.false_ne_true, exceptBind_eq_ok_iff]
    refine exists_congr fun conditions => ?_
    rw [conditions_eq_ok_iff]
    refine and_congr_right fun each => ?_
    cases each with
    | cons first rest => exact ⟨fun h => (Except.ok.inj h).symm, fun h => congrArg _ h.symm⟩

/-- A clause can be built exactly if each of its filters has a condition. -/
theorem exists_conditionClause_iff (d : Dialect) (keyword : String) (filters : List Filter) :
    (∃ text, d.conditionClause keyword filters = .ok text) ↔
      ∀ f ∈ filters, f.IsRenderable d := by
  simp only [conditionClause_eq_ok_iff, ← conditions_eq_ok_iff, ← exists_condition_iff,
    ← exists_mapM_eq_ok_iff]
  constructor
  · rintro ⟨_, conditions, each, -⟩
    exact ⟨conditions, each⟩
  · rintro ⟨conditions, each⟩
    exact ⟨_, conditions, each, rfl⟩

/-- A selector has an item unless it gives `*` an alias. -/
theorem exists_selectorItem_iff (d : Dialect) (s : Selector) :
    (∃ text, d.selectorItem s = .ok text) ↔ (s.column = "*" → s.label = none) := by
  unfold selectorItem
  split
  · next star =>
    cases s.label with
    | none => simp [star]
    | some name => simp [star]
  · next named =>
    cases s.label with
    | none => simp [named]
    | some name => simp [named]

/-- So has a select list, since groups and aggregates always have theirs. -/
theorem exists_selectItems_iff (d : Dialect) (r : Request) :
    (∃ items, d.selectItems r = .ok items) ↔
      ∀ s ∈ r.selectors, s.column = "*" → s.label = none := by
  simp only [← exists_selectorItem_iff d, ← exists_mapM_eq_ok_iff, selectItems,
    exceptBind_eq_ok_iff]
  constructor
  · rintro ⟨_, selected, each, -⟩
    exact ⟨selected, each⟩
  · rintro ⟨selected, each⟩
    exact ⟨_, selected, each, rfl⟩

/-- The query of a request has all its items and all its conditions, and nothing else. -/
theorem query_eq_ok_iff : d.query r source = .ok text ↔ r.IsQuery d source text := by
  simp only [query, exceptBind_eq_ok_iff, conditionClause_eq_ok_iff, Request.IsQuery]
  constructor
  · rintro ⟨items, selected, _, ⟨wheres, onRows, rfl⟩, _, ⟨havings, onGroups, rfl⟩, whole⟩
    exact ⟨items, wheres, havings, selected, onRows, onGroups, (Except.ok.inj whole).symm⟩
  · rintro ⟨items, wheres, havings, selected, onRows, onGroups, rfl⟩
    exact ⟨items, selected, _, ⟨wheres, onRows, rfl⟩, _, ⟨havings, onGroups, rfl⟩, rfl⟩

/-- A query can be built exactly if its select list can and every filter has a condition, on
whichever side it stands. -/
theorem exists_query_iff (d : Dialect) (r : Request) (source : List Char) :
    (∃ text, d.query r source = .ok text) ↔ r.IsRenderable d := by
  -- A filter is a condition on rows or on groups, by whether it has a function.
  have split : (∀ f ∈ r.filters, f.IsRenderable d) ↔
      (∀ f ∈ r.filters.filter fun f => f.aggregate.isNone, f.IsRenderable d) ∧
        ∀ f ∈ r.filters.filter fun f => f.aggregate.isSome, f.IsRenderable d := by
    constructor
    · intro all
      exact ⟨fun f mem => all f (List.mem_of_mem_filter mem),
        fun f mem => all f (List.mem_of_mem_filter mem)⟩
    · rintro ⟨onRows, onGroups⟩ f mem
      cases about : f.aggregate with
      | none => exact onRows f (List.mem_filter.2 ⟨mem, by rw [about]; rfl⟩)
      | some g => exact onGroups f (List.mem_filter.2 ⟨mem, by rw [about]; rfl⟩)
  rw [Request.IsRenderable, split, ← exists_selectItems_iff d,
    ← exists_conditionClause_iff d " WHERE ", ← exists_conditionClause_iff d " HAVING "]
  simp only [query, exceptBind_eq_ok_iff]
  constructor
  · rintro ⟨_, items, selected, wheres, onRows, havings, onGroups, -⟩
    exact ⟨⟨items, selected⟩, ⟨wheres, onRows⟩, havings, onGroups⟩
  · rintro ⟨⟨items, selected⟩, ⟨wheres, onRows⟩, havings, onGroups⟩
    exact ⟨_, items, selected, wheres, onRows, havings, onGroups, rfl⟩

end Built

end Dialect

/-! ### What is refused -/

/-- Whether a result fails in rendering, if it fails.  It is closed under what rendering is built
of, so a query needs no look at the failures of its parts. -/
def FailsInRender {α : Type} (x : Except Failure α) : Prop :=
  ∀ e, x = .error e → e.isRender = true

namespace FailsInRender

variable {α β : Type} {x : Except Failure α}

/-- What does not fail does not fail in another way. -/
theorem ok (a : α) : FailsInRender (.ok a) := by
  rintro e h
  cases h

/-- A failure of rendering is one. -/
theorem render (m : String) : FailsInRender (.error (.render m) : Except Failure α) := by
  rintro e h
  cases h
  rfl

/-- Steps that fail in rendering come to no other failure, one after the other. -/
theorem bind {f : α → Except Failure β} (first : FailsInRender x)
    (next : ∀ a, FailsInRender (f a)) : FailsInRender (x >>= f) := by
  intro e h
  rcases exceptBind_eq_error_iff.1 h with h | ⟨a, -, h⟩
  · exact first e h
  · exact next a e h

/-- Changing a result leaves its failure. -/
theorem map {g : α → β} (h : FailsInRender x) : FailsInRender (x.map g) :=
  fun e refused => h e (exceptMap_eq_error_iff.1 refused)

/-- The failure of a list is that of a member. -/
theorem mapM {f : β → Except Failure α} (each : ∀ b, FailsInRender (f b)) (bs : List β) :
    FailsInRender (bs.mapM f) := by
  intro e h
  obtain ⟨b, -, refused⟩ := exists_error_of_mapM h
  exact each b e refused

end FailsInRender

section Refused

variable (d : Dialect)

/-- A value is refused in rendering only, whatever its type. -/
theorem Literal.failsInRender (valueType : ValueType) (value : List Char) :
    FailsInRender (Literal.render d valueType value) := by
  cases valueType with
  | string | boolean | fragment | identifier => exact .ok _
  | numeric =>
    unfold Literal.render
    dsimp only
    split
    · exact .ok _
    · exact .render _
  | date =>
    unfold Literal.render
    dsimp only
    split
    · exact .ok _
    · exact .render _
  | keyword | snippet => exact .render _

/-- A failure that names its variable is of the same kind. -/
theorem ScriptVariable.isRender_blame (v : ScriptVariable) (e : Failure) :
    (v.blame e).isRender = e.isRender := by
  cases e with
  | render m => rfl
  | _ => rfl

/-- A variable fails for its values, under its name, or because it has none. -/
theorem ScriptVariable.failsInRender (v : ScriptVariable) : FailsInRender (v.render d) := by
  unfold ScriptVariable.render
  split
  · exact .render _
  split
  · exact .ok _
  split
  · exact .ok _
  · next e refused =>
    rintro _ ⟨⟩
    rw [v.isRender_blame]
    exact FailsInRender.mapM (fun value => Literal.failsInRender d _ _) _ e refused

/-- A script fails for a variable, for a name without one, or because it is empty. -/
theorem QueryScript.failsInRender (s : QueryScript) : FailsInRender (s.splice d) := by
  have token : ∀ t, FailsInRender (s.spliceToken d t) := by
    intro t
    unfold QueryScript.spliceToken
    split
    · split
      · exact ScriptVariable.failsInRender d _
      · exact .render _
    · exact .ok _
  refine (FailsInRender.mapM (fun t => (token t).map) _).bind fun pieces => ?_
  dsimp only
  split
  · exact .render _
  · exact .ok _

/-- A condition fails for its values or for their number. -/
theorem Filter.failsInRender (f : Filter) : FailsInRender (d.condition f) := by
  refine (FailsInRender.mapM (fun v => Literal.failsInRender d _ _) _).bind fun values => ?_
  split
  · exact .ok _
  · unfold Dialect.arityFailure
    split
    · exact .render _
    · exact .render _

/-- A query fails for an alias of `*` or for a condition. -/
theorem Request.failsInRender (r : Request) (source : List Char) :
    FailsInRender (d.query r source) := by
  have selector : ∀ s, FailsInRender (d.selectorItem s) := by
    intro s
    unfold Dialect.selectorItem
    split
    · split
      · exact .render _
      · exact .ok _
    · split
      · exact .ok _
      · exact .ok _
  have clause : ∀ keyword filters, FailsInRender (d.conditionClause keyword filters) := by
    intro keyword filters
    unfold Dialect.conditionClause
    split
    · exact .ok _
    · exact (FailsInRender.mapM (Filter.failsInRender d) _).bind fun conditions => .ok _
  have items : FailsInRender (d.selectItems r) :=
    (FailsInRender.mapM selector _).bind fun selected => .ok _
  exact items.bind fun items => (clause _ _).bind fun wheres => (clause _ _).bind fun havings =>
    .ok _

end Refused

namespace Dialect

/-- **When the plain text exists, and what it is.**  The script has to have a text; if there are
operations, then also every filter, and no `*` may have an alias.  The text is then the query that
`IsQuery` describes, around the script's own text.  All other requests are refused in rendering. -/
theorem render_plain_iff (d : Dialect) (s : QueryScript) (r : Request) :
    ((∃ sql, d.render s r .plain = .ok sql) ↔
      (∃ source, d.render s r .scriptOnly = .ok source) ∧
        (r.hasOperations = true → r.IsRenderable d)) ∧
    (∀ sql, d.render s r .plain = .ok sql → r.hasOperations = true →
      ∃ source, d.render s r .scriptOnly = .ok source ∧
        r.IsQuery d source.toList sql.toList) ∧
    FailsInRender (d.render s r .plain) := by
  cases spliced : s.splice d with
  | error e =>
    rw [render_of_splice_error spliced, render_of_splice_error spliced]
    refine ⟨by simp, by simp, ?_⟩
    rintro _ ⟨⟩
    exact s.failsInRender d e spliced
  | ok source =>
    rw [render_plain spliced, render_scriptOnly spliced, select_unpaged]
    cases operations : r.hasOperations with
    | false => exact ⟨by simp [Except.map], by simp, .ok _⟩
    -- The query is built around the script's text, so it is the script that may fail first.
    | true =>
      rw [if_pos rfl]
      refine ⟨?_, ?_, (r.failsInRender d source).map⟩
      · rw [← exists_query_iff d r source]
        simp only [exceptMap_eq_ok_iff]
        constructor
        · rintro ⟨_, text, built, -⟩
          exact ⟨⟨_, rfl⟩, fun _ => ⟨text, built⟩⟩
        · rintro ⟨-, built⟩
          obtain ⟨text, built⟩ := built trivial
          exact ⟨_, text, built, rfl⟩
      · intro sql rendered _
        obtain ⟨text, built, rfl⟩ := exceptMap_eq_ok_iff.1 rendered
        refine ⟨_, rfl, ?_⟩
        rw [String.toList_ofList, String.toList_ofList]
        exact query_eq_ok_iff.1 built

/-- Conditions on columns and on aggregates are told apart; a comparison without its value
is refused. -/
example :
    let d := Product.sqlite.dialect
    let ask (filters : List Filter) :=
      d.render (.ofText "T") { Request.ofPage .first with filters } .plain
    (ask [⟨"n", .between, [⟨"1", .numeric⟩, ⟨"5", .numeric⟩], none⟩,
        ⟨"*", .greaterThan, [⟨"2", .numeric⟩], some .count⟩,
        ⟨"m", .isNull, [], none⟩]).toOption =
      some ("SELECT * FROM (T) AS V_SRC WHERE \"n\" BETWEEN 1 AND 5 AND \"m\" IS NULL" ++
        " HAVING COUNT(*) > 2") ∧
    (ask [⟨"m", .isNull, [⟨"1", .numeric⟩], none⟩]).toOption = none := by
  decide +kernel

end Dialect

end PagedQuery
