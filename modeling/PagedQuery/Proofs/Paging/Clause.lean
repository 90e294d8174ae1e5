/-
# The texts of a page

A dialect with a page clause asks for a page at the end of the query; its offset and its size can
be read there (`printedPage?_pageClause`), whatever stands before.  The text is read from its end
because nothing is known of its beginning: a script may hold a page clause of its own.  A dialect
without one asks for the query alone.

Dialects that write everything but pages alike have one `query`.  So they refuse the same scripts
and requests, also where one of them leaves a script without operations as it is and the other one
builds a query around it to hang the clause on (`render_paginated_of_ok`,
`render_paginated_of_error`).
-/

import PagedQuery.Select

namespace PagedQuery

namespace Text

/-- What stands before a word, in a text that is read from its end.  There is nothing if the text
does not end with the word. -/
def beforeWord? (word : String) (backward : List Char) : Option (List Char) :=
  if word.toList.reverse.isPrefixOf backward then some (backward.drop word.toList.length) else none

/-- The number a text ends with and what stands before it, both read from its end. -/
def beforeNumber (backward : List Char) : Nat × List Char :=
  (Decimal.ofDigits (backward.takeWhile Char.isDigit).reverse, backward.dropWhile Char.isDigit)

/-- A word that a text ends with is taken off. -/
theorem beforeWord?_append (word : String) (rest : List Char) :
    beforeWord? word (word.toList.reverse ++ rest) = some rest := by
  have starts : word.toList.reverse.isPrefixOf (word.toList.reverse ++ rest) = true :=
    List.isPrefixOf_iff_prefix.2 (List.prefix_append ..)
  rw [beforeWord?, if_pos starts, ← List.length_reverse, List.drop_left]

/-- A number is read back up to the blank that the word before it ends with. -/
theorem beforeNumber_digits (n : Nat) {word : String} (rest : List Char)
    (blank : word.toList.reverse.head? = some ' ') :
    beforeNumber ((Decimal.digits n).reverse ++ (word.toList.reverse ++ rest)) =
      (n, word.toList.reverse ++ rest) := by
  obtain ⟨others, word'⟩ := List.head?_eq_some_iff.1 blank
  have digits : ∀ c ∈ (Decimal.digits n).reverse, c.isDigit = true :=
    fun c hc => Decimal.isDigit_of_mem_digits n c (List.mem_reverse.1 hc)
  have stops : ¬ (' ').isDigit = true := by decide
  rw [beforeNumber, List.takeWhile_append_of_pos digits, List.dropWhile_append_of_pos digits,
    word', List.cons_append, List.takeWhile_cons_of_neg stops, List.dropWhile_cons_of_neg stops,
    List.append_nil, List.reverse_reverse, Decimal.ofDigits_digits]

end Text

/-- The offset and the size in the page clause that a text ends with.  The text is read
from its end. -/
def Pagination.printed? (style : Pagination) (backward : List Char) : Option (Nat × Nat) :=
  match style with
  | .limitOffset => do
    let (offset, rest) := Text.beforeNumber backward
    let (size, rest) := Text.beforeNumber (← Text.beforeWord? " OFFSET " rest)
    let _ ← Text.beforeWord? " LIMIT " rest
    return (offset, size)
  | .offsetFetch => do
    let (size, rest) := Text.beforeNumber (← Text.beforeWord? " ROWS ONLY" backward)
    let (offset, rest) := Text.beforeNumber (← Text.beforeWord? " ROWS FETCH NEXT " rest)
    let _ ← Text.beforeWord? " OFFSET " rest
    return (offset, size)
  | .none => Option.none

namespace Dialect

/-- The offset and the size in the page clause that a text ends with.  A dialect without a page
clause prints none. -/
def printedPage? (d : Dialect) (sql : String) : Option (Nat × Nat) :=
  d.pagination.printed? sql.toList.reverse

/-- The clause of a page is read where it was written.  It is read from the end of the text,
backwards, so the query before it may be any text, also one that ends like a clause. -/
theorem printedPage?_pageClause {d : Dialect} (paged : d.supportsPaging = true) (query : List Char)
    (p : PageInfo) :
    d.printedPage? (String.ofList (query ++ d.pageClause p)) =
      some (p.offset, p.pageSize.toNat) := by
  rw [printedPage?, String.toList_ofList, pageClause]
  cases style : d.pagination with
  | limitOffset =>
    simp only [List.reverse_append, List.append_assoc, Pagination.printed?]
    rw [Text.beforeNumber_digits p.offset _ (by decide)]
    simp only [Text.beforeWord?_append, Option.bind_eq_bind, Option.bind_some]
    rw [Text.beforeNumber_digits p.pageSize.toNat _ (by decide)]
    simp only [Text.beforeWord?_append, Option.bind_some]
    rfl
  -- The same with the two numbers the other way round.
  | offsetFetch =>
    simp only [List.reverse_append, List.append_assoc, Pagination.printed?]
    simp only [Text.beforeWord?_append, Option.bind_eq_bind, Option.bind_some]
    rw [Text.beforeNumber_digits p.pageSize.toNat _ (by decide)]
    simp only [Text.beforeWord?_append, Option.bind_some]
    rw [Text.beforeNumber_digits p.offset _ (by decide)]
    simp only [Text.beforeWord?_append, Option.bind_some]
    rfl
  | none => simp [supportsPaging, style] at paged

/-- The query around a script, without a page. -/
def query (d : Dialect) (r : Request) (source : List Char) : Except Failure (List Char) := do
  let items ← d.selectItems r
  let whereClause ← d.conditionClause " WHERE " (r.filters.filter fun f => f.aggregate.isNone)
  let groupClause := listClause " GROUP BY " (r.groups.map fun g =>
    d.quoteIdentifier g.column.toList)
  let havingClause ← d.conditionClause " HAVING " (r.filters.filter fun f => f.aggregate.isSome)
  let orderClause := listClause " ORDER BY " (r.orders.map d.sortItem)
  .ok ("SELECT ".toList ++ Text.joinWith ", " items ++ " FROM ".toList ++ d.derivedTable source ++
    whereClause ++ groupClause ++ havingClause ++ orderClause)

/-- Without a page a query is built only where there is something to build. -/
theorem select_unpaged (d : Dialect) (r : Request) (source : List Char) :
    d.select r source false = if r.hasOperations then d.query r source else .ok source := by
  cases operations : r.hasOperations with
  | true => simp [select, query, operations]
  | false => simp [select, operations]

/-- A query is built before its page is looked at. -/
theorem select_paged_eq (d : Dialect) (r : Request) (source : List Char) :
    d.select r source true = d.query r source >>= fun query =>
      r.pageInfo.validate >>= fun _ => .ok (query ++ d.pageClause r.pageInfo) := by
  simp only [select, query, Bool.not_true, Bool.and_false, Bool.false_eq_true, if_false, if_true]
  cases d.selectItems r with
  | error e => rfl
  | ok items =>
    cases d.conditionClause " WHERE " (r.filters.filter fun f => f.aggregate.isNone) with
    | error e => rfl
    | ok whereClause =>
      cases d.conditionClause " HAVING " (r.filters.filter fun f => f.aggregate.isSome) with
      | error e => rfl
      | ok havingClause => rfl

/-- A page that exists is asked for at the end of the query. -/
theorem select_paged (d : Dialect) {r : Request} (valid : r.pageInfo.IsValid)
    (source : List Char) :
    d.select r source true = (d.query r source).map (· ++ d.pageClause r.pageInfo) := by
  have checked : r.pageInfo.validate = .ok () := r.pageInfo.validate_eq_ok_iff.2 valid
  rw [select_paged_eq, checked]
  cases d.query r source with
  | error e => rfl
  | ok query => rfl

/-- Nothing is refused of a request without operations. -/
theorem query_of_no_operations (d : Dialect) {r : Request} (none : r.hasOperations = false)
    (source : List Char) :
    d.query r source = .ok ("SELECT * FROM ".toList ++ d.derivedTable source) := by
  simp only [Request.hasOperations, Bool.not_eq_false', Bool.and_eq_true,
    List.isEmpty_iff] at none
  obtain ⟨⟨⟨⟨selectors, aggregates⟩, filters⟩, groups⟩, orders⟩ := none
  simp only [query, selectItems, selectors, aggregates, filters, groups, orders]
  simp [conditionClause, listClause, Text.joinWith, bind, Except.bind, pure, Except.pure]

/-- Whether two dialects write everything but pages alike.  Their names do not matter, since no text
shows them. -/
def AgreesButPage (d e : Dialect) : Prop :=
  ∃ name product pagination, e = { d with name, product, pagination }

section Render

variable {d e : Dialect} {s : QueryScript} {r : Request} {source : List Char} {f : Failure}

/-- The query does not depend on how pages are written. -/
theorem AgreesButPage.query_eq (agrees : d.AgreesButPage e) (source : List Char) :
    e.query r source = d.query r source := by
  obtain ⟨name, product, pagination, rfl⟩ := agrees
  rfl

/-- Neither does the script with its variables filled in. -/
theorem AgreesButPage.splice_eq (agrees : d.AgreesButPage e) : s.splice e = s.splice d := by
  obtain ⟨name, product, pagination, rfl⟩ := agrees
  rfl

/-- A script whose variables cannot be filled in is refused in every mode. -/
theorem render_of_splice_error (spliced : s.splice d = .error f) (mode : RenderMode) :
    d.render s r mode = .error f := by
  rw [render, renderChars, spliced]
  rfl

/-- The plain text is the selection without a page. -/
theorem render_plain (spliced : s.splice d = .ok source) :
    d.render s r .plain = (d.select r source false).map String.ofList := by
  rw [render, renderChars, spliced]
  rfl

/-- The text of a page has its clause only if the dialect has one. -/
theorem render_paginated (spliced : s.splice d = .ok source) :
    d.render s r .paginated = (d.select r source d.supportsPaging).map String.ofList := by
  rw [render, renderChars, spliced]
  rfl

/-- What is counted is the selection without a page. -/
theorem render_countOnly (spliced : s.splice d = .ok source) :
    d.render s r .countOnly =
      ((d.select r source false).map countQuery).map String.ofList := by
  rw [render, renderChars, spliced]
  rfl

/-- What is asked for without a page can be counted. -/
theorem exists_render_countOnly {sql : String} (plain : d.render s r .plain = .ok sql) :
    ∃ countSql, d.render s r .countOnly = .ok countSql := by
  cases spliced : s.splice d with
  | error f => exact absurd ((render_of_splice_error spliced _).symm.trans plain) (by simp)
  | ok source =>
    rw [render_plain spliced] at plain
    rw [render_countOnly spliced]
    cases selected : d.select r source false with
    | error f => rw [selected] at plain; exact absurd plain (by simp [Except.map])
    | ok query => exact ⟨_, rfl⟩

/-- Dialects that write everything but pages alike count with one query. -/
theorem AgreesButPage.render_countOnly_eq (agrees : d.AgreesButPage e) :
    e.render s r .countOnly = d.render s r .countOnly := by
  obtain ⟨name, product, pagination, rfl⟩ := agrees
  rfl

/-- With a page that exists, the query is built around every script. -/
theorem AgreesButPage.render_paginated_eq (agrees : d.AgreesButPage e)
    (paged : e.supportsPaging = true) (valid : r.pageInfo.IsValid)
    (spliced : s.splice d = .ok source) :
    e.render s r .paginated =
      ((d.query r source).map (· ++ e.pageClause r.pageInfo)).map String.ofList := by
  rw [render_paginated (agrees.splice_eq.trans spliced), paged, select_paged e valid,
    agrees.query_eq]

/-- What is asked for without a page can be asked for with one. -/
theorem AgreesButPage.render_paginated_of_ok (agrees : d.AgreesButPage e)
    (paged : e.supportsPaging = true) (valid : r.pageInfo.IsValid) {sql : String}
    (plain : d.render s r .plain = .ok sql) :
    ∃ query, e.render s r .paginated = .ok (String.ofList (query ++ e.pageClause r.pageInfo)) := by
  cases spliced : s.splice d with
  | error f => exact absurd ((render_of_splice_error spliced _).symm.trans plain) (by simp)
  | ok source =>
    suffices asked : ∃ query, d.query r source = .ok query by
      obtain ⟨query, asked⟩ := asked
      exact ⟨query, by rw [agrees.render_paginated_eq paged valid spliced, asked]; rfl⟩
    cases operations : r.hasOperations with
    | false => exact ⟨_, d.query_of_no_operations operations source⟩
    | true =>
      rw [render_plain spliced, select_unpaged, operations, if_pos rfl] at plain
      cases asked : d.query r source with
      | error f => rw [asked] at plain; exact absurd plain (by simp [Except.map])
      | ok query => exact ⟨query, rfl⟩

/-- What is refused without a page is refused with one. -/
theorem AgreesButPage.render_paginated_of_error (agrees : d.AgreesButPage e)
    (paged : e.supportsPaging = true) (valid : r.pageInfo.IsValid)
    (plain : d.render s r .plain = .error f) : e.render s r .paginated = .error f := by
  cases spliced : s.splice d with
  | error g =>
    rw [render_of_splice_error spliced] at plain
    rw [render_of_splice_error (agrees.splice_eq.trans spliced), plain]
  | ok source =>
    rw [render_plain spliced, select_unpaged] at plain
    cases operations : r.hasOperations with
    | false => rw [operations] at plain; exact absurd plain (by simp [Except.map])
    | true =>
      rw [operations, if_pos rfl] at plain
      rw [agrees.render_paginated_eq paged valid spliced]
      cases asked : d.query r source with
      | error g => rwa [asked] at plain
      | ok query => rw [asked] at plain; exact absurd plain (by simp [Except.map])

end Render

end Dialect

end PagedQuery
