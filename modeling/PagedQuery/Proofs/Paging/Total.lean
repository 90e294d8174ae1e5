/-
# Totals

A total is what the first cell of a count query's answer counts as.  What a cell denotes does not
depend on how counts are read (`Cell.Denotes`).  An integer denotes itself if it is not negative,
a real its exact value if that is a natural number, and a text the number it is a numeral of,
behind a plus or nothing and without the blanks around it; other cells denote nothing.

A cell counts as the number it denotes, up to the largest count.  Beyond that an integer and a
numeral count as nothing, but a real counts as the largest count, which it does not denote
(`asCount?_eq_some_iff`, `asCount?_beyond`).  With this exception, totals are never invented
(`Adapter.total_denoted`): wherever a total is found, some cell that the source gave for the count
query stands behind it.  `Source.GivesFirst` is what ties the two together.
-/

import PagedQuery.Proofs.Adapter.Frame
import PagedQuery.Proofs.Decimal.Padded
import PagedQuery.Proofs.Decimal.Value
import PagedQuery.Proofs.Source.Reading

namespace PagedQuery

namespace Cell

open Decimal

/-- Whether a cell denotes a natural number.  It does not depend on what counts are for: there is no
bound, and nothing is rounded. -/
inductive Denotes : Cell → Nat → Prop
  | integer {i : Int64} {n : Nat} (same : i.toInt = n) : Denotes (integer i) n
  | real {x : Binary64} {n : Nat} (same : x.value? = some (n : ℚ)) : Denotes (real x) n
  | text {s : String} {n width : Nat} {sign : List Char} (signed : sign = [] ∨ sign = ['+'])
      (numeral : Text.trim s.toList = sign ++ Timestamp.padded width n) : Denotes (text s) n

/-- Whether a cell is a real that denotes a number beyond the largest count. -/
def IsBeyondCounts (cell : Cell) : Prop :=
  ∃ x m, cell = real x ∧ UInt64.size ≤ m ∧ cell.Denotes m

/-- Whether a cell counts as a number: it denotes the number, or the number is the largest count
and the cell is a real beyond it. -/
def CountsAs (cell : Cell) (n : UInt64) : Prop :=
  cell.Denotes n.toNat ∨ n.toNat = UInt64.size - 1 ∧ cell.IsBeyondCounts

/-- What a text denotes is what it is read as, whatever the bound.  The bound is the reader's and
not the numeral's: a text may denote a number that is too large for a count. -/
theorem denotes_text_iff {s : String} {n : Nat} :
    Denotes (text s) n ↔ ∀ bound, n < bound → readNat? bound (Text.trim s.toList) = some n := by
  constructor
  · rintro ⟨⟩
    next width sign signed numeral =>
    exact fun bound small => readNat?_eq_some_iff.2 ⟨small, sign, width, signed, numeral⟩
  · intro read
    obtain ⟨-, sign, width, signed, numeral⟩ :=
      readNat?_eq_some_iff.1 (read (n + 1) (Nat.lt_succ_self n))
    exact .text signed numeral

/-- A cell denotes one number at most.  So where a total does not denote what was counted, it is not
by a choice between two readings. -/
theorem Denotes.unique {cell : Cell} {m n : Nat} (h : cell.Denotes m) (h' : cell.Denotes n) :
    m = n := by
  cases h with
  | integer same =>
    cases h' with
    | integer same' => exact Int.ofNat_inj.1 (same.symm.trans same')
  | real same =>
    cases h' with
    | real same' => exact Nat.cast_injective (Option.some.inj (same.symm.trans same'))
  | text signed numeral =>
    have read := denotes_text_iff.1 (.text signed numeral) (m + n + 1) (by omega)
    rw [denotes_text_iff.1 h' (m + n + 1) (by omega)] at read
    exact (Option.some.inj read).symm

/-- A number that fits a word is one word only. -/
theorem ofNat_eq_iff {k : Nat} {n : UInt64} (small : k < UInt64.size) :
    UInt64.ofNat k = n ↔ k = n.toNat := by
  rw [← UInt64.toNat_inj, UInt64.toNat_ofNat_of_lt' small]

/-- An integer counts as what it denotes; every one that is not negative fits. -/
theorem asCount?_integer_iff {i : Int64} {n : UInt64} :
    (integer i).asCount? = some n ↔ (integer i).Denotes n.toNat := by
  have bound : i.toInt < 2 ^ 63 := i.toInt_lt
  rw [asCount?]
  constructor
  · intro counted
    split at counted
    -- A number that is not negative fits 64 bits without a sign, with room to spare.
    · next nonneg =>
      have fits : i.toInt.toNat < UInt64.size := by
        rw [UInt64.size]
        omega
      have same := (ofNat_eq_iff fits).1 (Option.some.inj counted)
      exact .integer (by omega)
    · cases counted
  · rintro ⟨same⟩
    have nonneg : 0 ≤ i.toInt := by omega
    have natural : i.toInt.toNat = n.toNat := by omega
    rw [if_pos nonneg, natural, UInt64.ofNat_toNat]

/-- A text counts as what it denotes, if that fits. -/
theorem asCount?_text_iff {s : String} {n : UInt64} :
    (text s).asCount? = some n ↔ (text s).Denotes n.toNat := by
  rw [asCount?, Option.map_eq_some_iff]
  constructor
  · rintro ⟨m, read, counted⟩
    obtain ⟨fits, sign, width, signed, numeral⟩ := readNat?_eq_some_iff.1 read
    obtain rfl := (ofNat_eq_iff fits).1 counted
    exact .text signed numeral
  · intro denoted
    exact ⟨n.toNat, denotes_text_iff.1 denoted _ n.toNat_lt, UInt64.ofNat_toNat⟩

/-- A real counts as the largest count if it is too large for one. -/
theorem asCount?_real_iff {x : Binary64} {n : UInt64} :
    (real x).asCount? = some n ↔
      ∃ m, (real x).Denotes m ∧ min m (UInt64.size - 1) = n.toNat := by
  have fits (m : Nat) : min m (UInt64.size - 1) < UInt64.size := by
    rw [UInt64.size]
    omega
  rw [asCount?, Option.map_eq_some_iff]
  constructor
  · rintro ⟨m, natural, counted⟩
    exact ⟨m, .real (Binary64.toNat?_eq_some_iff.1 natural), (ofNat_eq_iff (fits m)).1 counted⟩
  · rintro ⟨m, denoted, counted⟩
    cases denoted with
    | real same =>
      exact ⟨m, Binary64.toNat?_eq_some_iff.2 same, (ofNat_eq_iff (fits m)).2 counted⟩

/-- The exception is one of reals only.  For every other cell to count as a number is to denote
it. -/
theorem countsAs_iff_of_ne_real {cell : Cell} {n : UInt64} (other : ∀ x, cell ≠ real x) :
    cell.CountsAs n ↔ cell.Denotes n.toNat :=
  or_iff_left fun ⟨_, x, _, same, _⟩ => other x same

/-- **What a cell counts as.**  The integers, the texts and the reals that denote a number count as
it; a real that denotes a number beyond all counts is the one cell that counts as a number it does
not denote. -/
theorem asCount?_eq_some_iff {cell : Cell} {n : UInt64} :
    cell.asCount? = some n ↔ cell.CountsAs n := by
  cases cell with
  | integer i => rw [asCount?_integer_iff, countsAs_iff_of_ne_real (by simp)]
  | text s => rw [asCount?_text_iff, countsAs_iff_of_ne_real (by simp)]
  | real x =>
    have small : n.toNat < UInt64.size := n.toNat_lt
    rw [asCount?_real_iff]
    constructor
    · rintro ⟨m, denoted, counted⟩
      -- A real is cut at the largest count; below it, it is exact, and at it, either exact or
      -- beyond.
      rcases Nat.lt_or_ge m UInt64.size with fits | beyond
      · rw [Nat.min_eq_left (Nat.le_sub_one_of_lt fits)] at counted
        exact .inl (counted ▸ denoted)
      · exact .inr ⟨by omega, x, m, rfl, beyond, denoted⟩
    · rintro (denoted | ⟨largest, y, m, -, beyond, denoted⟩)
      · exact ⟨n.toNat, denoted, by omega⟩
      · exact ⟨m, denoted, by omega⟩
  | null | boolean _ | timestamp _ | blob _ =>
    rw [countsAs_iff_of_ne_real (by simp)]
    exact ⟨fun counted => (nomatch counted), fun denoted => (nomatch denoted)⟩

/-- A cell that counts as a number denotes it, unless it is a real beyond the largest count. -/
theorem CountsAs.denotes_iff {cell : Cell} {n : UInt64} (counts : cell.CountsAs n) :
    cell.Denotes n.toNat ↔ ¬ cell.IsBeyondCounts := by
  constructor
  · rintro denoted ⟨x, m, -, beyond, denoted'⟩
    have small : n.toNat < UInt64.size := n.toNat_lt
    rw [denoted.unique denoted'] at small
    exact absurd beyond (Nat.not_le.2 small)
  · exact fun within => counts.resolve_right fun ⟨_, beyond⟩ => within beyond

/-- The first real beyond the largest count counts as that and denotes another number. -/
theorem asCount?_beyond :
    let cell : Cell := .real (.finite false ⟨1 <<< 52, 1086, by decide⟩)
    cell.asCount? = some 18446744073709551615 ∧ cell.Denotes 18446744073709551616 ∧
      ¬ cell.Denotes 18446744073709551615 := by
  intro cell
  have denoted : cell.Denotes 18446744073709551616 :=
    .real (Binary64.toNat?_eq_some_iff.1 (by decide +kernel))
  refine ⟨by decide +kernel, denoted, fun other => ?_⟩
  exact absurd (denoted.unique other) (by decide)

end Cell

variable {σ : Type}

/-- Whether a cell is the first one that a source gives for a query.  The cursor and the rest of the
row do not matter. -/
def Source.GivesFirst (source : Source σ) (s : σ) (sql : String) (cell : Cell) : Prop :=
  ∃ cursor start others stop, source.Offers s sql none cursor start ∧
    cursor.nextRow start = (.ok (some (cell :: others)), stop)

/-- A row counts as what its first cell does, and a row without cells counts as nothing. -/
theorem Pager.countOfRow_eq_ok_iff {sql : String} {row : List Cell} {n : UInt64} :
    countOfRow sql row = .ok n ↔ ∃ cell others, row = cell :: others ∧ cell.CountsAs n := by
  have counts : countOfRow sql row = .ok n ↔ row.head?.bind Cell.asCount? = some n := by
    rw [countOfRow]
    cases row.head?.bind Cell.asCount? <;> simp
  rw [counts]
  cases row with
  | nil => simp
  | cons cell others => simp [Cell.asCount?_eq_some_iff]

/-- A count is what the first cell of the answer counts as.  The cell comes from a cursor that the
source offered for the query; there is no count without one. -/
theorem Pager.exists_givesFirst_of_count {p : Pager σ} {sql : String} {s s' : σ} {total : UInt64}
    (counted : p.count sql s = (.ok total, s')) :
    ∃ cell, p.source.GivesFirst s sql cell ∧ cell.CountsAs total := by
  obtain ⟨c, opened, mid, connected, used, -⟩ := Source.withConnection_eq_ok_iff.1 counted
  obtain ⟨cursor, start, resume, stop, asked, read, -⟩ := Connection.withCursor_eq_ok_iff.1 used
  obtain ⟨row, past, first, judged⟩ := Action.bind_eq_ok_iff.1 read
  cases row with
  | none => cases judged
  | some row =>
    obtain ⟨counted, -⟩ := Action.ofExcept_eq_ok_iff.1 judged
    obtain ⟨cell, others, rfl, counts⟩ := countOfRow_eq_ok_iff.1 counted
    exact ⟨cell, ⟨cursor, start, others, past, ⟨c, opened, resume, connected, asked⟩, first⟩, counts⟩

namespace Adapter

variable {a : Adapter σ} {script : QueryScript} {request : Request} {session : Session σ}
  {table : Table} {after : Request × Session σ}

/-- A total that is wanted was counted after its page was read. -/
theorem exists_givesFirst_of_execute (onSource : request.localAggregate = false)
    (wanted : request.pageInfo.countTotal = true)
    (run : a.execute script (request, session) = (.ok table, after)) :
    ∃ known asked sql read world countSql cell total,
      a.capabilities session = (.ok known, asked) ∧
      (a.pagerWith known).readPage a.strategy sql request.pageInfo asked.world =
        (.ok read, world) ∧
      a.resolution.dialect.render script request .countOnly = .ok countSql ∧
      a.source.GivesFirst world countSql cell ∧
      after.1.pageInfo.total = some total ∧ cell.CountsAs total := by
  obtain ⟨page, answered, same⟩ := (execute_onSource_eq_ok_iff onSource).1 run
  obtain ⟨sql, countSql, known, asked, read, world, texts, capable, reads, notes, -, -⟩ :=
    readSource_eq_ok_iff.1 answered
  obtain ⟨-, -, -, counting⟩ := sourceTexts_eq_ok_iff.1 texts
  -- A total was counted, since it is wanted.
  rcases Pager.noteTotal_eq_ok_iff.1 notes with ⟨-, text, total, rfl, counted, noted⟩ | ⟨unwanted, -⟩
  · rw [if_pos wanted] at counting
    obtain ⟨_, rendered, same_text⟩ := counting
    obtain rfl := Option.some.inj same_text
    obtain ⟨cell, given, counts⟩ := Pager.exists_givesFirst_of_count counted
    exact ⟨known, asked, sql, read, world, text, cell, total, capable, reads, rendered, given,
      by rw [same, noted], counts⟩
  · rw [wanted] at unwanted
    cases unwanted

/-- A total that is not wanted stays as it is. -/
theorem total_of_execute_uncounted
    (uncounted : request.localAggregate = true ∨ request.pageInfo.countTotal = false)
    (run : a.execute script (request, session) = (.ok table, after)) :
    after.1.pageInfo.total = request.pageInfo.total := by
  cases locally : request.localAggregate with
  | true =>
    obtain ⟨same, -⟩ := (execute_locally_eq_ok_iff locally).1 run
    rw [same]
  | false =>
    have unwanted : request.pageInfo.countTotal = false := by simpa [locally] using uncounted
    obtain ⟨page, answered, same⟩ := (execute_onSource_eq_ok_iff locally).1 run
    obtain ⟨sql, countSql, known, asked, read, world, -, -, -, notes, -⟩ :=
      readSource_eq_ok_iff.1 answered
    rcases Pager.noteTotal_eq_ok_iff.1 notes with ⟨wanted, -⟩ | ⟨-, noted, -⟩
    · rw [unwanted] at wanted
      cases wanted
    · rw [same, noted]

/-- **Totals are never invented.**  A cell that counts as a number denotes it, unless it is a
real beyond the largest count, which counts as the largest.  A count is what the first cell of
its query's answer counts as, and so is the total of a request that was answered on the source,
if it is wanted; any other request keeps the total it had. -/
theorem total_denoted (cell : Cell) (n : UInt64) (p : Pager σ) (a : Adapter σ)
    (script : QueryScript) (request : Request) :
    (cell.asCount? = some n ↔ cell.CountsAs n) ∧
    (cell.asCount? = some n → (cell.Denotes n.toNat ↔ ¬ cell.IsBeyondCounts)) ∧
    (∀ sql s total s', p.count sql s = (.ok total, s') →
      ∃ cell, p.source.GivesFirst s sql cell ∧ cell.CountsAs total) ∧
    (∀ session table after, a.execute script (request, session) = (.ok table, after) →
      (request.localAggregate = false → request.pageInfo.countTotal = true →
        ∃ known asked sql read world countSql cell total,
          a.capabilities session = (.ok known, asked) ∧
          (a.pagerWith known).readPage a.strategy sql request.pageInfo asked.world =
            (.ok read, world) ∧
          a.resolution.dialect.render script request .countOnly = .ok countSql ∧
          a.source.GivesFirst world countSql cell ∧
          after.1.pageInfo.total = some total ∧ cell.CountsAs total) ∧
      (request.localAggregate = true ∨ request.pageInfo.countTotal = false →
        after.1.pageInfo.total = request.pageInfo.total)) := by
  refine ⟨Cell.asCount?_eq_some_iff, fun counted => ?_, fun sql s total s' counted => ?_,
    fun session table after run => ⟨fun onSource wanted => ?_, fun uncounted => ?_⟩⟩
  · exact (Cell.asCount?_eq_some_iff.1 counted).denotes_iff
  · exact Pager.exists_givesFirst_of_count counted
  · exact exists_givesFirst_of_execute onSource wanted run
  · exact total_of_execute_uncounted uncounted run

/-- A count that is a padded numeral behind a plus, between blanks. -/
theorem total_denoted_seven :
    let rows := Rehearsal.PreparedRows.counted 7 true
    let adapter : Adapter Rehearsal.Stage :=
      ⟨.ofDriver ⟨"generic", none, none, false⟩,
        (Rehearsal.Script.withCount rows (.text " +007 ")).source, none⟩
    let request := Request.ofPage (.request 3 3 true)
    (Cell.text " +007 ").Denotes 7 ∧
      ∃ table after world countSql cell,
        adapter.execute (.ofText "SELECT 1") (request, .start .empty) = (.ok table, after) ∧
        adapter.source.GivesFirst world countSql cell ∧
        after.1.pageInfo.total = some 7 ∧ cell.CountsAs 7 := by
  intro rows adapter request
  have parts := total_denoted (.text " +007 ") 7 (Pager.ofSource adapter.source ⟨true⟩) adapter
    (.ofText "SELECT 1") request
  have counted : (Cell.text " +007 ").asCount? = some 7 := by decide +kernel
  refine ⟨(parts.2.1 counted).2 fun ⟨_, _, other, _⟩ => (nomatch other), ?_⟩
  have answered : (adapter.execute (.ofText "SELECT 1") (request, .start .empty)).1.toOption.isSome =
      true := by decide +kernel
  have seven : (adapter.execute (.ofText "SELECT 1") (request, .start .empty)).2.1.pageInfo.total =
      some 7 := by decide +kernel
  -- The execution is computed for its total alone; where the total comes from is read off the
  -- theorem.
  rcases run : adapter.execute (.ofText "SELECT 1") (request, .start .empty) with
    ⟨_ | table, after⟩
  · simp [run, Except.toOption] at answered
  · obtain ⟨known, asked, sql, read, world, countSql, cell, total, -, -, -, given, noted, counts⟩ :=
      (parts.2.2.2 _ table after run).1 rfl rfl
    rw [run] at seven
    obtain rfl : total = 7 := Option.some.inj (noted.symm.trans seven)
    exact ⟨table, after, world, countSql, cell, rfl, given, seven, counts⟩

end Adapter
end PagedQuery
