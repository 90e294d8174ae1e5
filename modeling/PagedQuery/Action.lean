/-
# Actions

A step on a state that gives a value or fails.  The state after it is known in both cases: what
was done before a failure stays done.  That is why the state stands outside `Except`: a query that
fails has still opened and released its connection.
-/

import PagedQuery.Failure

namespace PagedQuery

/-- A step on a state: what it gives, or why it fails, and the state after it. -/
def Action (σ α : Type) : Type :=
  σ → Except Failure α × σ

namespace Action

variable {σ τ α β : Type}

/-- Gives a value and leaves the state alone. -/
def give (a : α) : Action σ α :=
  fun s => (.ok a, s)

/-- Fails and leaves the state alone. -/
def fail (e : Failure) : Action σ α :=
  fun s => (.error e, s)

/-- One step, then the next if the first gave a value. -/
def andThen (x : Action σ α) (f : α → Action σ β) : Action σ β := fun s =>
  match x s with
  | (.ok a, s) => f a s
  | (.error e, s) => (.error e, s)

/-- Steps are done one after another until one fails. -/
instance : Monad (Action σ) where
  pure := give
  bind := andThen

/-- A result that does not depend on the state. -/
def ofExcept (r : Except Failure α) : Action σ α :=
  fun s => (r, s)

/-- The same step with its failures told in another way. -/
def mapFailure (f : Failure → Failure) (x : Action σ α) : Action σ α := fun s =>
  match x s with
  | (.ok a, s) => (.ok a, s)
  | (.error e, s) => (.error (f e), s)

/-- A step on the second part of a state. -/
def onSecond (x : Action σ α) : Action (τ × σ) α := fun s =>
  let (result, second) := x s.2
  (result, (s.1, second))

/-- Both outcomes of a step before another, so that a proof about a run looks at one step at a
time. -/
theorem bind_apply (x : Action σ α) (f : α → Action σ β) (s : σ) :
    (x >>= f) s = match x s with
      | (.ok a, s) => f a s
      | (.error e, s) => (.error e, s) := rfl

/-- A value alone does nothing to the state. -/
theorem pure_apply (a : α) (s : σ) : (pure a : Action σ α) s = (.ok a, s) := rfl

end Action

end PagedQuery
