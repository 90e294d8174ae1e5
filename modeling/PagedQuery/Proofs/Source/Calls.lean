/-
# The calls of a driver

What a driver is asked for is put down as a list of calls: what it can do, a connection, which is
opened or refused, SQL and anything else on a connection, and its release.  Each connection has a
number: how many were opened before it.  So a connection is told by its calls alone, and the
number of the next one can be counted off the list.

What is put down for a piece of work that keeps to itself is a segment (`IsSegment`), and segments
that follow one another are a segment (`IsSegment.append`).  The clauses of a segment are chosen
so that this holds: the numbers of a segment lie between the connections opened before it and
those opened by its end, so two segments never speak of one connection.
-/

import Mathlib.Data.List.Basic

namespace PagedQuery

/-- A call of a driver.  Reading a cursor is no call of its own; it happens within the query. -/
inductive Call
  /-- The driver is asked what it can do. -/
  | capabilities
  /-- A connection is asked for and refused. -/
  | refused
  /-- A connection is opened. -/
  | opened (connection : Nat)
  /-- SQL is run on a connection. -/
  | query (connection : Nat) (sql : String)
  /-- Anything else is read on a connection. -/
  | metadata (connection : Nat)
  /-- A connection is released. -/
  | released (connection : Nat)
deriving DecidableEq

namespace Call

/-- The connection that a call is about. -/
def connection? : Call → Option Nat
  | capabilities | refused => none
  | opened n | query n _ | metadata n | released n => some n

/-- The connection that a call needs to be open.  Opening it and releasing it are not uses. -/
def use? : Call → Option Nat
  | query n _ | metadata n => some n
  | _ => none

/-- Whether a call opens a connection. -/
def isOpening : Call → Bool
  | opened _ => true
  | _ => false

/-- Whether a call runs SQL on a connection. -/
def isQueryOn (n : Nat) : Call → Bool
  | query m _ => m == n
  | _ => false

/-- The number of connections opened by calls, which is the number of the next one.  So a connection
is known by a number that no other one has. -/
def openings (calls : List Call) : Nat :=
  calls.countP isOpening

/-- A call that needs a connection is about it. -/
theorem connection?_of_use? {call : Call} {n : Nat} (h : call.use? = some n) :
    call.connection? = some n := by
  cases call <;> simp_all [use?, connection?]

/-- The calls of a query on a connection of its own, when one could be opened. -/
def visit (n : Nat) (sql : String) : List Call :=
  [opened n, query n sql, released n]

/-- Whether calls are those of a query on a connection of its own, or of one that was
refused its connection. -/
def IsAttempt (n : Nat) (sql : String) (calls : List Call) : Prop :=
  calls = [refused] ∨ calls = visit n sql

/-- Connections that are opened later are opened too. -/
theorem openings_append (calls later : List Call) :
    openings (calls ++ later) = openings calls + openings later :=
  List.countP_append ..

/-- A visit opens one connection. -/
theorem openings_visit (n : Nat) (sql : String) : openings (visit n sql) = 1 :=
  rfl

/-- Whether calls that follow others are those of work that keeps to itself: it asks what the
driver can do only if that is not known, uses only the connections it has opened and not yet
released, and runs SQL at most once on each. -/
structure IsSegment (asked : Bool) (before own : List Call) (asked' : Bool) : Prop where
  /-- What the driver can do is asked once, and not again when it is known. -/
  asks : own.count capabilities + asked.toNat = asked'.toNat
  /-- Only connections of the segment's own are spoken of. -/
  numbered : ∀ call ∈ own, ∀ n, call.connection? = some n →
    openings before ≤ n ∧ n < openings (before ++ own)
  /-- A number is given once. -/
  opensOnce : ∀ n, own.count (opened n) ≤ 1
  /-- SQL is run once on a connection at most. -/
  queriesOnce : ∀ n, own.countP (isQueryOn n) ≤ 1
  /-- A connection is used between its opening and its release. -/
  uses : ∀ earlier call later n, own = earlier ++ call :: later → call.use? = some n →
    opened n ∈ earlier ∧ released n ∉ earlier

namespace IsSegment

variable {asked asked' asked'' : Bool} {before own own' : List Call}

/-- No calls keep to themselves. -/
theorem nil : IsSegment asked before [] asked where
  asks := by simp
  numbered _ inside := absurd inside List.not_mem_nil
  opensOnce _ := by simp
  queriesOnce _ := by simp
  uses _ _ _ _ split := by simp at split

/-- Work that asks nothing about the driver keeps to itself whatever is known of it. -/
theorem ofUnasked (h : IsSegment false before own false) : IsSegment asked before own asked where
  asks := by
    have : own.count capabilities + 0 = 0 := h.asks
    omega
  numbered := h.numbered
  opensOnce := h.opensOnce
  queriesOnce := h.queriesOnce
  uses := h.uses

/-- Connections of earlier work are not those of later work. -/
theorem apart (h : IsSegment asked before own asked')
    (h' : IsSegment asked' (before ++ own) own' asked'') {call call' : Call} {n : Nat}
    (first : call ∈ own) (about : call.connection? = some n) (second : call' ∈ own')
    (about' : call'.connection? = some n) : False := by
  have below := (h.numbered call first n about).2
  have above := (h'.numbered call' second n about').1
  omega

/-- What happens at most once on a connection in each of two works happens at most once. -/
theorem countP_append_le_one (h : IsSegment asked before own asked')
    (h' : IsSegment asked' (before ++ own) own' asked'') {p : Call → Bool} {n : Nat}
    (about : ∀ call, p call = true → call.connection? = some n) (once : own.countP p ≤ 1)
    (once' : own'.countP p ≤ 1) : (own ++ own').countP p ≤ 1 := by
  rw [List.countP_append]
  rcases Nat.eq_zero_or_pos (own.countP p) with never | happens
  · omega
  rcases Nat.eq_zero_or_pos (own'.countP p) with never | again
  · omega
  obtain ⟨call, first, holds⟩ := List.countP_pos_iff.1 happens
  obtain ⟨call', second, holds'⟩ := List.countP_pos_iff.1 again
  exact (apart h h' first (about call holds) second (about call' holds')).elim

/-- Work after work. -/
theorem append (h : IsSegment asked before own asked')
    (h' : IsSegment asked' (before ++ own) own' asked'') :
    IsSegment asked before (own ++ own') asked'' where
  asks := by
    rw [List.count_append]
    have := h.asks
    have := h'.asks
    omega
  -- The later work numbers its connections behind those of the earlier one.
  numbered call inside n about := by
    rw [← List.append_assoc]
    have grows := openings_append before own
    have grows' := openings_append (before ++ own) own'
    rcases List.mem_append.1 inside with first | second
    · have := h.numbered call first n about
      omega
    · have := h'.numbered call second n about
      omega
  -- What can happen once to a connection happens in one of the two works, since they have none in
  -- common.
  opensOnce n := by
    refine countP_append_le_one h h' (n := n) (fun call same => ?_) (h.opensOnce n) (h'.opensOnce n)
    rw [eq_of_beq same]
    rfl
  queriesOnce n := by
    refine countP_append_le_one h h' (n := n) (fun call runs => ?_) (h.queriesOnce n)
      (h'.queriesOnce n)
    cases call with
    | query m sql => exact congrArg some (eq_of_beq runs)
    | _ => cases runs
  uses earlier call later n split needs := by
    have about := connection?_of_use? needs
    rcases List.append_eq_append_iff.1 split with ⟨rest, rfl, same⟩ | ⟨rest, rfl, same⟩
    · -- the call is one of the later work
      obtain ⟨opens, holds⟩ := h'.uses rest call later n same needs
      refine ⟨List.mem_append_right _ opens, fun released => ?_⟩
      rcases List.mem_append.1 released with first | second
      · exact apart h h' first rfl (same ▸ List.mem_append_right _ (List.mem_cons_self ..)) about
      · exact holds second
    -- The call is one of the earlier work; the earlier work does not end with it, since the later
    -- one starts with a connection of its own.
    · cases rest with
      | nil =>
        obtain ⟨opens, -⟩ := h'.uses [] call later n same.symm needs
        exact absurd opens List.not_mem_nil
      | cons first rest =>
        obtain ⟨rfl, -⟩ := List.cons.inj same
        exact h.uses earlier call rest n rfl needs

/-- A call about no connection. -/
theorem single {call : Call} (free : call.connection? = none)
    (asks : [call].count Call.capabilities + asked.toNat = asked'.toNat) :
    IsSegment asked before [call] asked' where
  asks := asks
  numbered other inside n about := by
    obtain rfl := List.mem_singleton.1 inside
    rw [free] at about
    cases about
  opensOnce n := by
    rw [List.count_singleton]
    split <;> omega
  queriesOnce n := by
    rw [List.countP_singleton]
    split <;> omega
  uses earlier other later n split needs := by
    have inside : other ∈ [call] := split ▸ by simp
    obtain rfl := List.mem_singleton.1 inside
    rw [connection?_of_use? needs] at free
    cases free

section Connection

variable {used : List Call} {n : Nat}

/-- All that is put down between the opening and the release is about the one connection. -/
theorem connection?_of_mem (about : ∀ call ∈ used, call.use? = some n) {call : Call}
    (inside : call ∈ opened n :: used ++ [released n]) : call.connection? = some n := by
  rcases List.mem_append.1 inside with first | last
  · rcases List.mem_cons.1 first with rfl | inner
    · rfl
    · exact connection?_of_use? (about call inner)
  · obtain rfl := List.mem_singleton.1 last
    rfl

/-- Work on a connection opened for it, that runs SQL at most once. -/
theorem connection (about : ∀ call ∈ used, call.use? = some (openings before))
    (once : used.countP (isQueryOn (openings before)) ≤ 1) :
    IsSegment asked before (opened (openings before) :: used ++ [released (openings before)])
      asked where
  -- Nothing in between asks what the driver can do.
  asks := by
    have never : Call.capabilities ∉
        opened (openings before) :: used ++ [released (openings before)] := fun inside => by
      cases connection?_of_mem about inside
    rw [List.count_eq_zero.2 never, Nat.zero_add]
  numbered call inside n on := by
    obtain rfl := Option.some.inj ((connection?_of_mem about inside).symm.trans on)
    refine ⟨Nat.le_refl _, ?_⟩
    rw [openings_append, List.cons_append, openings, openings, List.countP_cons_of_pos rfl]
    omega
  opensOnce n := by
    have never : opened n ∉ used := fun inside => by cases about _ inside
    have release : [released (openings before)].count (opened n) = 0 := by simp
    rw [List.cons_append, List.count_cons, List.count_append, List.count_eq_zero.2 never, release]
    split <;> omega
  -- Opening and releasing are no queries.
  queriesOnce n := by
    have ends : (opened (openings before) :: used ++ [released (openings before)]).countP
        (isQueryOn n) = used.countP (isQueryOn n) := by
      simp [isQueryOn, List.countP_append]
    rw [ends]
    by_cases same : n = openings before
    · rw [same]
      exact once
    · have never : used.countP (isQueryOn n) = 0 := List.countP_eq_zero.2 fun call inside runs => by
        have on := about call inside
        cases call with
        | query m sql =>
          exact same ((eq_of_beq runs).symm.trans (Option.some.inj on))
        | _ => cases runs
      omega
  -- Every call in between stands behind the opening, so all there is to show is that the release
  -- does not come before it.
  uses earlier call later n split needs := by
    have inside : call ∈ opened (openings before) :: used ++ [released (openings before)] :=
      split ▸ by simp
    obtain rfl := Option.some.inj
      ((connection?_of_mem about inside).symm.trans (connection?_of_use? needs))
    cases earlier with
    | nil =>
      obtain ⟨rfl, -⟩ := List.cons.inj split
      cases needs
    | cons first rest =>
      obtain ⟨rfl, others⟩ := List.cons.inj split
      have others : used ++ [released (openings before)] = rest ++ call :: later := others
      refine ⟨List.mem_cons_self .., fun gone => ?_⟩
      have gone : released (openings before) ∈ rest := by simpa using gone
      rcases List.append_eq_append_iff.1 others with ⟨between, rfl, last⟩ | ⟨between, rfl, -⟩
      · -- nothing comes after the release, so the call is the release itself
        have only : call ∈ [released (openings before)] := last ▸ by simp
        obtain rfl := List.mem_singleton.1 only
        cases needs
      · cases about _ (List.mem_append_left _ gone)

/-- A query on a connection of its own keeps to itself. -/
theorem attempt {sql : String} (h : IsAttempt (openings before) sql own) :
    IsSegment asked before own asked := by
  rcases h with rfl | rfl
  · exact .single rfl (by simp)
  · have about : ∀ call ∈ [query (openings before) sql], call.use? = some (openings before) := by
      simp [use?]
    exact .connection about List.countP_le_length

end Connection

end IsSegment

end Call

end PagedQuery
