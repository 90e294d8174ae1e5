/-
# How actions end

`x.EndsIn s result post` says what an action does from one state: it ends with
`result`, in a state of the class `post`.  Statements of this form are put
together along the action: after a value the next action goes on from the class
(`EndsIn.bind`), after a failure nothing else happens (`EndsIn.bind_error`), and a
list of actions gives the list of their values (`EndsIn.mapM`).

Results that depend on no state come first: what a chain or a list of them gives
(`exceptBind_eq_ok_iff`, `mapM_eq_ok_iff`), and where its failure comes from
(`exceptBind_eq_error_iff`, `exists_error_of_mapM`).
-/

import Mathlib.Data.List.Forall2
import PagedQuery.Action

namespace PagedQuery

/-- What a result is when it is known to have a value. -/
theorem ok_of_toOption {ε α : Type} {r : Except ε α} {a : α} (h : r.toOption = some a) :
    r = .ok a := by
  cases r with
  | ok b => exact congrArg _ (Option.some.inj h)
  | error e => exact absurd h (by simp [Except.toOption])

section Results

variable {α β ε : Type} {x : Except ε α} {f : α → Except ε β} {e : ε}

/-- A result goes on from the value of another one. -/
theorem exceptBind_eq_ok_iff {b : β} : (x >>= f) = .ok b ↔ ∃ a, x = .ok a ∧ f a = .ok b := by
  cases x with
  | error e => simp [bind, Except.bind]
  | ok a => simp [bind, Except.bind]

/-- A chain of two results fails where the first one fails, or where it has a value and the second
one fails on it; so a failure can be followed back to the step that raised it. -/
theorem exceptBind_eq_error_iff :
    (x >>= f) = .error e ↔ x = .error e ∨ ∃ a, x = .ok a ∧ f a = .error e := by
  cases x with
  | error e => simp [bind, Except.bind]
  | ok a => simp [bind, Except.bind]

/-- Changing a value does not make one: the result under the change had a value before. -/
theorem exceptMap_eq_ok_iff {g : α → β} {b : β} : x.map g = .ok b ↔ ∃ a, x = .ok a ∧ g a = b := by
  cases x with
  | error e => simp [Except.map]
  | ok a => simp [Except.map]

/-- Changing a value leaves a failure as it is. -/
theorem exceptMap_eq_error_iff {g : α → β} : x.map g = .error e ↔ x = .error e := by
  cases x with
  | error e => simp [Except.map]
  | ok a => simp [Except.map]

/-- A list of results that are all values is the list of these values. -/
theorem mapM_eq_ok_iff {xs : List α} {ys : List β} :
    xs.mapM f = .ok ys ↔ xs.map f = ys.map .ok := by
  induction xs generalizing ys with
  | nil =>
    rw [List.mapM_nil, List.map_nil, eq_comm (a := []), List.map_eq_nil_iff, eq_comm (a := ys)]
    exact ⟨fun h => Except.ok.inj h, congrArg _⟩
  | cons x xs ih =>
    rw [List.mapM_cons, exceptBind_eq_ok_iff, List.map_cons]
    constructor
    · rintro ⟨y, first, h⟩
      obtain ⟨others, rest, whole⟩ := exceptBind_eq_ok_iff.1 h
      obtain rfl := Except.ok.inj whole
      rw [first, ih.1 rest, List.map_cons]
    · intro h
      obtain ⟨y, others, rfl, first, rest⟩ := List.map_eq_cons_iff.1 h.symm
      exact ⟨y, first.symm, exceptBind_eq_ok_iff.2 ⟨others, ih.2 rest.symm, rfl⟩⟩

/-- A list of results that are all values, each with what gave it. -/
theorem mapM_eq_ok_iff_forall₂ {xs : List α} {ys : List β} :
    xs.mapM f = .ok ys ↔ List.Forall₂ (fun x y => f x = .ok y) xs ys := by
  rw [mapM_eq_ok_iff, ← List.forall₂_eq_eq_eq, List.forall₂_map_left_iff,
    List.forall₂_map_right_iff]

/-- A list of results gives values if each of them gives one. -/
theorem exists_mapM_eq_ok_iff {xs : List α} :
    (∃ ys, xs.mapM f = .ok ys) ↔ ∀ x ∈ xs, ∃ y, f x = .ok y := by
  induction xs with
  | nil => exact ⟨fun _ x mem => absurd mem List.not_mem_nil, fun _ => ⟨[], rfl⟩⟩
  | cons x xs ih =>
    rw [List.forall_mem_cons, ← ih, List.mapM_cons]
    constructor
    · rintro ⟨ys, h⟩
      obtain ⟨y, first, h⟩ := exceptBind_eq_ok_iff.1 h
      obtain ⟨others, rest, -⟩ := exceptBind_eq_ok_iff.1 h
      exact ⟨⟨y, first⟩, others, rest⟩
    · rintro ⟨⟨y, first⟩, others, rest⟩
      exact ⟨y :: others, exceptBind_eq_ok_iff.2
        ⟨y, first, exceptBind_eq_ok_iff.2 ⟨others, rest, rfl⟩⟩⟩

/-- A list of results fails as one of them. -/
theorem exists_error_of_mapM {xs : List α} (h : xs.mapM f = .error e) :
    ∃ x ∈ xs, f x = .error e := by
  induction xs with
  | nil => exact absurd h (by simp [pure, Except.pure])
  | cons x xs ih =>
    rw [List.mapM_cons, exceptBind_eq_error_iff] at h
    rcases h with first | ⟨y, -, h⟩
    · exact ⟨x, List.mem_cons_self .., first⟩
    rcases exceptBind_eq_error_iff.1 h with others | ⟨ys, -, h⟩
    · obtain ⟨z, mem, refused⟩ := ih others
      exact ⟨z, List.mem_cons_of_mem _ mem, refused⟩
    · exact absurd h (by simp [pure, Except.pure])

end Results

/-- What is done to a list is what is done to its members. -/
theorem mapM_congr {α β ε : Type} {f g : α → Except ε β} {xs : List α}
    (h : ∀ x ∈ xs, f x = g x) : xs.mapM f = xs.mapM g := by
  induction xs with
  | nil => rfl
  | cons x xs ih =>
    rw [List.mapM_cons, List.mapM_cons, h x (List.mem_cons_self ..),
      ih fun y hy => h y (List.mem_cons_of_mem _ hy)]

/-- A list of results that are known one by one is known as a whole. -/
theorem mapM_eq_ok {α β ε : Type} {f : α → Except ε β} {g : α → β} {xs : List α}
    (h : ∀ x ∈ xs, f x = .ok (g x)) : xs.mapM f = .ok (xs.map g) := by
  rw [mapM_eq_ok_iff, List.map_map]
  exact List.map_congr_left h

namespace Action

variable {σ τ α β : Type}

instance : LawfulMonad (Action σ) :=
  LawfulMonad.mk' (Action σ)
    (fun x => by
      funext s
      change (x >>= pure) s = x s
      rw [bind_apply]
      rcases x s with ⟨_ | _, _⟩ <;> rfl)
    (fun _ _ => rfl)
    (fun x f g => by
      funext s
      simp only [bind_apply]
      rcases x s with ⟨_ | _, _⟩ <;> rfl)

/-- Whether an action ends with a result, in a state of a class.  The state itself is mostly known
to nobody but the source, so what is said of it is what the next action needs. -/
def EndsIn (x : Action σ α) (s : σ) (result : Except Failure α) (post : σ → Prop) : Prop :=
  ∃ s', x s = (result, s') ∧ post s'

namespace EndsIn

variable {x : Action σ α} {f : α → Action σ β} {s : σ} {a : α} {e : Failure}
variable {mid post : σ → Prop}

/-- The result is the only one the action can end with from the state. -/
theorem fst_eq {result : Except Failure α} (h : x.EndsIn s result post) : (x s).1 = result := by
  obtain ⟨s', run, -⟩ := h
  rw [run]

/-- An end in a class of states is one in every larger class. -/
theorem mono {result : Except Failure α} (h : x.EndsIn s result mid)
    (weaker : ∀ s', mid s' → post s') : x.EndsIn s result post := by
  obtain ⟨s', run, hs'⟩ := h
  exact ⟨s', run, weaker s' hs'⟩

/-- After a value the next action goes on. -/
theorem bind {result : Except Failure β} (h : x.EndsIn s (.ok a) mid)
    (next : ∀ s', mid s' → (f a).EndsIn s' result post) : (x >>= f).EndsIn s result post := by
  obtain ⟨s', run, hs'⟩ := h
  obtain ⟨s'', run', hs''⟩ := next s' hs'
  refine ⟨s'', ?_, hs''⟩
  rw [bind_apply, run]
  exact run'

/-- After a failure nothing else happens. -/
theorem bind_error (h : x.EndsIn s (.error e) post) : (x >>= f).EndsIn s (.error e) post := by
  obtain ⟨s', run, hs'⟩ := h
  refine ⟨s', ?_, hs'⟩
  rw [bind_apply, run]

/-- A value is not touched by what is done to failures. -/
theorem mapFailure {g : Failure → Failure} (h : x.EndsIn s (.ok a) post) :
    (x.mapFailure g).EndsIn s (.ok a) post := by
  obtain ⟨s', run, hs'⟩ := h
  refine ⟨s', ?_, hs'⟩
  rw [Action.mapFailure, run]

/-- Actions on a list, each of which gives its value and keeps the class. -/
theorem mapM {γ : Type} {g : γ → Action σ α} {value : γ → α} {xs : List γ} (hs : post s)
    (each : ∀ x ∈ xs, ∀ s, post s → (g x).EndsIn s (.ok (value x)) post) :
    (xs.mapM g).EndsIn s (.ok (xs.map value)) post := by
  induction xs generalizing s with
  | nil => exact ⟨s, rfl, hs⟩
  | cons x xs ih =>
    rw [List.mapM_cons]
    refine (each x (List.mem_cons_self ..) s hs).bind fun s' hs' => ?_
    refine (ih hs' fun y hy => each y (List.mem_cons_of_mem _ hy)).bind fun s'' hs'' => ?_
    exact ⟨s'', rfl, hs''⟩

/-- An action on the second part of a state leaves the first part alone. -/
theorem onSecond {result : Except Failure α} (h : x.EndsIn s result post) (t : τ) :
    (Action.onSecond x).EndsIn (t, s) result fun st => st.1 = t ∧ post st.2 := by
  obtain ⟨s', run, hs'⟩ := h
  refine ⟨(t, s'), ?_, rfl, hs'⟩
  rw [Action.onSecond, run]

end EndsIn

/-- An action on the second part of a state, then another one. -/
theorem onSecond_bind_apply (x : Action σ α) (f : α → Action (τ × σ) β) (t : τ) (s : σ) :
    (onSecond x >>= f) (t, s) = match x s with
      | (.ok a, s) => f a (t, s)
      | (.error e, s) => (.error e, (t, s)) := by
  rw [bind_apply, onSecond]
  rcases x s with ⟨_ | a, s'⟩ <;> rfl

/-- Actions on one part of a state can be chained there, or brought to the whole state and chained
then. -/
theorem onSecond_bind (x : Action σ α) (f : α → Action σ β) :
    (onSecond (x >>= f) : Action (τ × σ) β) = onSecond x >>= fun a => onSecond (f a) := by
  funext ⟨t, s⟩
  rw [onSecond_bind_apply, onSecond, bind_apply]
  rcases x s with ⟨_ | a, s'⟩ <;> rfl

/-- It does not matter either on which side a failure is told in other words. -/
theorem onSecond_mapFailure (f : Failure → Failure) (x : Action σ α) :
    (onSecond (x.mapFailure f) : Action (τ × σ) α) = (onSecond x).mapFailure f := by
  funext ⟨t, s⟩
  rw [onSecond, Action.mapFailure, Action.mapFailure, onSecond]
  dsimp only
  rcases x s with ⟨_ | a, s'⟩ <;> rfl

/-- The failure of an action is that of all that was to follow it. -/
theorem fst_bind_eq_error {x : Action σ α} {f : α → Action σ β} {s : σ} {e : Failure}
    (failed : (x s).1 = .error e) : ((x >>= f) s).1 = .error e := by
  rw [bind_apply]
  rcases run : x s with ⟨result, s'⟩
  obtain rfl : result = .error e := by rwa [run] at failed
  rfl

/-- Two actions give a value if the first gives one and the second goes on from it. -/
theorem bind_eq_ok_iff {x : Action σ α} {f : α → Action σ β} {s s' : σ} {b : β} :
    (x >>= f) s = (.ok b, s') ↔ ∃ a mid, x s = (.ok a, mid) ∧ f a mid = (.ok b, s') := by
  rw [bind_apply]
  rcases x s with ⟨_ | a, mid⟩ <;> simp [and_assoc]

/-- A result that depends on no state leaves the state as it was. -/
theorem ofExcept_eq_ok_iff {r : Except Failure α} {s s' : σ} {a : α} :
    ofExcept r s = (.ok a, s') ↔ r = .ok a ∧ s' = s := by
  rw [ofExcept, Prod.mk.injEq]
  exact and_congr_right fun _ => eq_comm

/-- An action whose value is known in part gives one. -/
theorem exists_ok_of_toOption_map {x : Action σ α} {f : α → β} {s : σ} {b : β}
    (h : (x s).1.toOption.map f = some b) : ∃ a s', x s = (.ok a, s') ∧ f a = b := by
  rcases gave : x s with ⟨e | a, s'⟩
  · rw [gave] at h
    cases h
  · rw [gave] at h
    exact ⟨a, s', rfl, Option.some.inj h⟩

/-- Telling failures in another way changes no value. -/
theorem mapFailure_eq_ok_iff {f : Failure → Failure} {x : Action σ α} {s s' : σ} {a : α} :
    x.mapFailure f s = (.ok a, s') ↔ x s = (.ok a, s') := by
  rw [mapFailure]
  rcases x s with ⟨_ | b, mid⟩ <;> simp

/-- Giving a value ends with it, in the state it starts from. -/
theorem give_endsIn {post : σ → Prop} {s : σ} (a : α) (hs : post s) :
    (give a).EndsIn s (.ok a) post :=
  ⟨s, rfl, hs⟩

/-- The same holds of any result that depends on no state. -/
theorem ofExcept_endsIn {post : σ → Prop} {s : σ} (r : Except Failure α) (hs : post s) :
    (ofExcept r).EndsIn s r post :=
  ⟨s, rfl, hs⟩

end Action
end PagedQuery
