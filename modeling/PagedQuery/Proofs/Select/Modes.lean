/-
# The four texts of a request

A script and a request have four texts.  All of them come from the plain one: the text of the
script alone is the plain text if the request has no operations, the text that counts is a query
around it, and the paginated text is it again, or a query with one page clause behind it where the
dialect has such clauses.  What the plain text is refused for, the others around it are refused
for as well.

The page is looked at last, and only where it is asked for with a clause; no other text depends on
it (`render_modes`).  So a count and a page are about the rows of one query, and what a page adds
to it is the clause that `PageInfo.IsAskedBy` spells out.
-/

import PagedQuery.Dialect.Product
import PagedQuery.Proofs.Paging.Clause

namespace PagedQuery

/-- The clauses that ask for a page: the size of the page and the number of rows before it,
or the largest word where that number is larger. -/
inductive PageInfo.IsAskedBy (p : PageInfo) : Pagination → String → Prop
  /-- The size first, then the rows before the page. -/
  | limitOffset : p.IsAskedBy .limitOffset
      (" LIMIT " ++ Decimal.numeral p.pageSize.toNat ++ " OFFSET " ++
        Decimal.numeral (min ((p.pageNo.toNat - 1) * p.pageSize.toNat) (UInt64.size - 1)))
  /-- The rows before the page first, then the size. -/
  | offsetFetch : p.IsAskedBy .offsetFetch
      (" OFFSET " ++
        Decimal.numeral (min ((p.pageNo.toNat - 1) * p.pageSize.toNat) (UInt64.size - 1)) ++
        " ROWS FETCH NEXT " ++ Decimal.numeral p.pageSize.toNat ++ " ROWS ONLY")

namespace Dialect

/-- The query that a page clause is put behind: the plain text, or a query around the script
where the request has no operations. -/
def pagedQuery (d : Dialect) (r : Request) (plain : String) : String :=
  if r.hasOperations then plain
  else "SELECT * FROM (" ++ plain ++ (if d.aliasAs then ") AS V_SRC" else ") V_SRC")

variable {d : Dialect} {s : QueryScript} {r : Request} {source : List Char}

/-- The clause that is written is one that asks for the page, in the numerals of its numbers. -/
theorem isAskedBy_pageClause (paged : d.supportsPaging = true) (p : PageInfo) :
    p.IsAskedBy d.pagination (String.ofList (d.pageClause p)) := by
  have offset : p.offset = min ((p.pageNo.toNat - 1) * p.pageSize.toNat) (UInt64.size - 1) := rfl
  unfold pageClause
  cases style : d.pagination with
  | limitOffset =>
    have clause := PageInfo.IsAskedBy.limitOffset (p := p)
    rw [← offset] at clause
    simpa only [String.ofList_append, String.ofList_toList, Decimal.numeral, String.append_assoc]
      using clause
  | offsetFetch =>
    have clause := PageInfo.IsAskedBy.offsetFetch (p := p)
    rw [← offset] at clause
    simpa only [String.ofList_append, String.ofList_toList, Decimal.numeral, String.append_assoc]
      using clause
  | none => simp [supportsPaging, style] at paged

/-- The text of the script alone is the script with its variables. -/
theorem render_scriptOnly (spliced : s.splice d = .ok source) :
    d.render s r .scriptOnly = .ok (String.ofList source) := by
  rw [render, renderChars, spliced]
  rfl

/-- The query that counts, as a text. -/
theorem ofList_countQuery (query : List Char) :
    String.ofList (countQuery query) =
      "SELECT COUNT(*) FROM (" ++ String.ofList query ++ ") V_T" := by
  have closing : String.ofList (") ".toList ++ countAlias.toList) = ") V_T" := by decide
  show String.ofList
    ("SELECT COUNT(*) FROM (".toList ++ (query ++ (") ".toList ++ countAlias.toList))) = _
  rw [String.ofList_append, String.ofList_toList, String.ofList_append, closing]
  exact (String.append_assoc ..).symm

/-- Counting is asked of the plain text. -/
theorem render_countOnly_eq_map (d : Dialect) (s : QueryScript) (r : Request) :
    d.render s r .countOnly = (d.render s r .plain).map
      fun sql => "SELECT COUNT(*) FROM (" ++ sql ++ ") V_T" := by
  cases spliced : s.splice d with
  | error e =>
    rw [render_of_splice_error spliced, render_of_splice_error spliced]
    rfl
  | ok source =>
    rw [render_countOnly spliced, render_plain spliced]
    cases d.select r source false with
    | error e => rfl
    | ok query => exact congrArg _ (ofList_countQuery query)

/-- No text but the paginated one depends on the page, or on where rows are aggregated. -/
theorem render_of_page (page : PageInfo) (isLocal : Bool) {mode : RenderMode}
    (unpaged : mode ≠ .paginated) :
    d.render s { r with pageInfo := page, localAggregate := isLocal } mode = d.render s r mode := by
  -- No part of the query reads the page or asks where rows are aggregated.
  have query : ∀ source,
      d.query { r with pageInfo := page, localAggregate := isLocal } source = d.query r source :=
    fun source => rfl
  have plain : ∀ source,
      d.select { r with pageInfo := page, localAggregate := isLocal } source false =
        d.select r source false := by
    intro source
    rw [select_unpaged, select_unpaged, query]
    rfl
  cases spliced : s.splice d with
  | error e => rw [render_of_splice_error spliced, render_of_splice_error spliced]
  | ok source =>
    cases mode with
    | scriptOnly => rw [render_scriptOnly spliced, render_scriptOnly spliced]
    | plain => rw [render_plain spliced, render_plain spliced, plain]
    | paginated => exact absurd rfl unpaged
    | countOnly => rw [render_countOnly spliced, render_countOnly spliced, plain]

/-- Without operations nothing is built around the script. -/
theorem render_plain_of_no_operations (none : r.hasOperations = false) :
    d.render s r .plain = d.render s r .scriptOnly := by
  cases spliced : s.splice d with
  | error e => rw [render_of_splice_error spliced, render_of_splice_error spliced]
  | ok source =>
    rw [render_plain spliced, render_scriptOnly spliced, select_unpaged, none]
    rfl

/-- Without a clause for pages the page is not asked for in the text. -/
theorem render_paginated_of_not_supportsPaging (unpaged : d.supportsPaging = false) :
    d.render s r .paginated = d.render s r .plain := by
  cases spliced : s.splice d with
  | error e => rw [render_of_splice_error spliced, render_of_splice_error spliced]
  | ok source => rw [render_paginated spliced, render_plain spliced, unpaged]

/-- The query around a script. -/
theorem ofList_derivedTable (none : r.hasOperations = false) (source : List Char) :
    String.ofList ("SELECT * FROM ".toList ++ d.derivedTable source) =
      d.pagedQuery r (String.ofList source) := by
  have opening : String.ofList ("SELECT * FROM ".toList ++ ['(']) = "SELECT * FROM (" := by decide
  have parts : "SELECT * FROM ".toList ++ d.derivedTable source =
      "SELECT * FROM ".toList ++ ['('] ++
        (source ++ ((if d.aliasAs then ") AS " else ") ").toList ++ sourceAlias.toList)) := by
    rw [derivedTable, List.append_assoc, List.singleton_append]
  have closing : String.ofList ((if d.aliasAs then ") AS " else ") ").toList ++
      sourceAlias.toList) = if d.aliasAs then ") AS V_SRC" else ") V_SRC" := by
    cases d.aliasAs <;> decide
  rw [parts, String.ofList_append, opening, String.ofList_append, closing, pagedQuery, none,
    if_neg Bool.false_ne_true]
  exact (String.append_assoc ..).symm

/-- A page is looked at after all else, and asked for behind all else. -/
theorem render_paginated_of_supportsPaging (paged : d.supportsPaging = true) :
    d.render s r .paginated = d.render s r .plain >>= fun sql => r.pageInfo.validate >>= fun _ =>
      .ok (d.pagedQuery r sql ++ String.ofList (d.pageClause r.pageInfo)) := by
  cases spliced : s.splice d with
  | error e =>
    rw [render_of_splice_error spliced, render_of_splice_error spliced]
    rfl
  | ok source =>
    rw [render_paginated spliced, render_plain spliced, paged, select_paged_eq, select_unpaged]
    have behind : ∀ query, String.ofList (query ++ d.pageClause r.pageInfo) =
        String.ofList query ++ String.ofList (d.pageClause r.pageInfo) :=
      fun query => String.ofList_append
    -- Without operations the plain text is the script, and the query is built for the page alone.
    cases operations : r.hasOperations with
    | true =>
      have same : ∀ sql, d.pagedQuery r sql = sql := fun sql => by rw [pagedQuery, operations]; rfl
      rw [if_pos rfl]
      cases d.query r source with
      | error e => rfl
      | ok query =>
        cases r.pageInfo.validate with
        | error e => rfl
        | ok _ => exact congrArg _ ((behind query).trans (by rw [same]))
    | false =>
      rw [d.query_of_no_operations operations]
      cases r.pageInfo.validate with
      | error e => rfl
      | ok _ => exact congrArg _ ((behind _).trans (by rw [ofList_derivedTable operations]))

/-- **The texts of a request fit together.**  The count is asked of the plain text.  Only the
paginated text depends on the page, and it is the plain text where the dialect has no clause
for pages.  Where it has one, what is refused of the plain text is refused alike, then a page
that does not exist, and all else is asked for with one clause behind the query. -/
theorem render_modes (d : Dialect) (s : QueryScript) (r : Request) :
    (d.render s r .countOnly = (d.render s r .plain).map
      fun sql => "SELECT COUNT(*) FROM (" ++ sql ++ ") V_T") ∧
    (∀ page isLocal mode, mode ≠ .paginated →
      d.render s { r with pageInfo := page, localAggregate := isLocal } mode =
        d.render s r mode) ∧
    (r.hasOperations = false → d.render s r .plain = d.render s r .scriptOnly) ∧
    (d.supportsPaging = false → d.render s r .paginated = d.render s r .plain) ∧
    (d.supportsPaging = true →
      (∀ e, d.render s r .plain = .error e → d.render s r .paginated = .error e) ∧
      ∀ sql, d.render s r .plain = .ok sql →
        (¬ r.pageInfo.IsValid → ∃ m, d.render s r .paginated = .error (.invalidParameter m)) ∧
        (r.pageInfo.IsValid → ∃ clause, r.pageInfo.IsAskedBy d.pagination clause ∧
          d.render s r .paginated = .ok (d.pagedQuery r sql ++ clause))) := by
  refine ⟨render_countOnly_eq_map d s r, fun page isLocal mode unpaged => render_of_page page
    isLocal unpaged, render_plain_of_no_operations, render_paginated_of_not_supportsPaging,
    fun paged => ?_⟩
  -- What remains is about a dialect with a page clause, and all of it is in this one equation.
  have paginated := render_paginated_of_supportsPaging (s := s) (r := r) paged
  refine ⟨fun e refused => ?_, fun sql plain => ⟨fun invalid => ?_, fun valid => ?_⟩⟩
  · rw [paginated, refused]
    rfl
  · obtain ⟨m, refused⟩ := PageInfo.validate_of_not_isValid invalid
    rw [paginated, plain]
    exact ⟨m, by simp [refused, bind, Except.bind]⟩
  · have checked : r.pageInfo.validate = .ok () := r.pageInfo.validate_eq_ok_iff.2 valid
    rw [paginated, plain]
    refine ⟨_, isAskedBy_pageClause paged r.pageInfo, ?_⟩
    simp [checked, bind, Except.bind]

/-- A page clause is put behind a query, also where the plain text is the script itself. -/
example :
    let d := Product.db2.dialect
    let r := Request.ofPage (.request 2 5 false)
    (d.render (.ofText "SELECT 1;") r .plain).toOption = some "SELECT 1" ∧
      (d.render (.ofText "SELECT 1;") r .paginated).toOption =
        some "SELECT * FROM (SELECT 1) AS V_SRC OFFSET 5 ROWS FETCH NEXT 5 ROWS ONLY" := by
  decide +kernel

end Dialect

end PagedQuery
