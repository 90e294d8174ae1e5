/-
# Variables merged by their names

Variables are added one by one to others, each of which has another name.  A variable whose name
is among them leaves the names as they are, and the variable of its name gets the new values
behind its own.  A variable of a new name is put behind the others, and nothing else changes.

So merging keeps the names in the order they are seen first (`pairwise_mergeVariables`), and under
each name the first variable of it with the values of all (`find?_mergeVariables`).  Both are
proved by induction from the end of the list, since the last variable is the one that is added
last.  Names are not repeated in what was merged, so a merged list is determined by what is found
under each name: variables of different names stay as they are (`mergeVariables_eq_self`), and
merging in parts is the same as merging at once (`mergeVariables_append`).
-/

import PagedQuery.CommandLine.Variable
import Mathlib.Data.List.Basic
import Mathlib.Data.List.Induction
import Mathlib.Data.List.Nodup

namespace PagedQuery
namespace CommandLine

variable {v m : ScriptVariable} {vs ws : List ScriptVariable} {name : String}

/-- The variables of a name, in order. -/
def named (name : String) (vs : List ScriptVariable) : List ScriptVariable :=
  vs.filter fun v => v.name == name

/-- The first variable of a name, with the values of all variables of that name.  It says what
merging should give, without going through the variables one by one. -/
def gathered? (name : String) (vs : List ScriptVariable) : Option ScriptVariable :=
  (vs.find? fun v => v.name == name).map fun first =>
    { first with values := (named name vs).flatMap ScriptVariable.values }

/-! ### One more variable -/

/-- A variable of a new name is put behind the others. -/
theorem addVariable_of_notMem (fresh : v.name ∉ vs.map ScriptVariable.name) :
    addVariable v vs = vs ++ [v] := by
  induction vs with
  | nil => rfl
  | cons w vs ih =>
    rw [List.map_cons, List.mem_cons, not_or] at fresh
    rw [addVariable, if_neg (Ne.symm fresh.1), ih fresh.2, List.cons_append]

/-- A name that has been seen is not seen again. -/
theorem map_name_addVariable_of_mem (seen : v.name ∈ vs.map ScriptVariable.name) :
    (addVariable v vs).map ScriptVariable.name = vs.map ScriptVariable.name := by
  induction vs with
  | nil => exact absurd seen List.not_mem_nil
  | cons w vs ih =>
    rw [addVariable]
    split
    · rfl
    · next other =>
      rw [List.map_cons, List.mem_cons] at seen
      rw [List.map_cons, List.map_cons, ih (seen.resolve_left fun same => other same.symm)]

/-- A new name comes behind the others. -/
theorem map_name_addVariable_of_notMem (fresh : v.name ∉ vs.map ScriptVariable.name) :
    (addVariable v vs).map ScriptVariable.name = vs.map ScriptVariable.name ++ [v.name] := by
  rw [addVariable_of_notMem fresh, List.map_append, List.map_singleton]

/-- What is found under the name of the new variable, and under any other. -/
theorem find?_addVariable (v : ScriptVariable) (vs : List ScriptVariable) (name : String) :
    (addVariable v vs).find? (fun w => w.name == name) =
      if v.name = name then
        some (((vs.find? fun w => w.name == name).map fun w =>
          { w with values := w.values ++ v.values }).getD v)
      else vs.find? fun w => w.name == name := by
  -- On the variables that are there, as `addVariable` goes: it stops at the first of the name.
  induction vs with
  | nil => by_cases same : v.name = name <;> simp [addVariable, same]
  | cons w vs ih =>
    rw [addVariable]
    by_cases first : w.name = v.name
    · rw [if_pos first]
      by_cases same : v.name = name <;> simp [first, same]
    · rw [if_neg first, List.find?_cons, List.find?_cons, ih]
      by_cases same : w.name = name
      -- The new variable's name is not the one looked for, so the rest of the list does not
      -- matter.
      · have other : v.name ≠ name := fun h => first (same.trans h.symm)
        simp [same, other]
      · rw [beq_eq_false_iff_ne.2 same]

/-! ### All variables -/

/-- The last variable is added to what the others are merged to; this is the step of the inductions
below. -/
theorem mergeVariables_concat (vs : List ScriptVariable) (v : ScriptVariable) :
    mergeVariables (vs ++ [v]) = addVariable v (mergeVariables vs) :=
  List.foldl_append

/-- Merging neither loses a name nor makes one up. -/
theorem mem_map_name_mergeVariables :
    name ∈ (mergeVariables vs).map ScriptVariable.name ↔ name ∈ vs.map ScriptVariable.name := by
  induction vs using List.reverseRecOn with
  | nil => rfl
  | append_singleton vs v ih =>
    rw [mergeVariables_concat, List.map_append, List.map_singleton, List.mem_append,
      List.mem_singleton, ← ih]
    by_cases seen : v.name ∈ (mergeVariables vs).map ScriptVariable.name
    · rw [map_name_addVariable_of_mem seen, or_iff_left_of_imp fun same => same ▸ seen]
    · rw [map_name_addVariable_of_notMem seen, List.mem_append, List.mem_singleton]

/-- **Names are merged in the order they are seen first.** A name that is repeated does not move. -/
theorem pairwise_mergeVariables (vs : List ScriptVariable) :
    ((mergeVariables vs).map ScriptVariable.name).Pairwise fun a b =>
      (vs.map ScriptVariable.name).idxOf a < (vs.map ScriptVariable.name).idxOf b := by
  induction vs using List.reverseRecOn with
  | nil => exact .nil
  | append_singleton vs v ih =>
    -- A name that has been seen keeps its place when a variable comes behind.
    have stays {a : String} (seen : a ∈ (mergeVariables vs).map ScriptVariable.name) :
        ((vs ++ [v]).map ScriptVariable.name).idxOf a = (vs.map ScriptVariable.name).idxOf a := by
      rw [List.map_append, List.idxOf_append_of_mem (mem_map_name_mergeVariables.1 seen)]
    have before := ih.imp_of_mem fun ha hb h => (stays ha).symm ▸ (stays hb).symm ▸ h
    rw [mergeVariables_concat]
    by_cases seen : v.name ∈ (mergeVariables vs).map ScriptVariable.name
    · rw [map_name_addVariable_of_mem seen]
      exact before
    · rw [map_name_addVariable_of_notMem seen, List.pairwise_append]
      refine ⟨before, List.pairwise_singleton .., fun a ha b hb => ?_⟩
      obtain rfl := List.mem_singleton.1 hb
      rw [stays ha, List.map_append, List.idxOf_append_of_notMem
        (fun h => seen (mem_map_name_mergeVariables.2 h))]
      have place := List.idxOf_lt_length_of_mem (mem_map_name_mergeVariables.1 ha)
      exact Nat.lt_of_lt_of_le place (Nat.le_add_right ..)

/-- No name is repeated, since each stands before those that are seen later. -/
theorem nodup_mergeVariables (vs : List ScriptVariable) :
    ((mergeVariables vs).map ScriptVariable.name).Nodup :=
  (pairwise_mergeVariables vs).imp fun {a b} before same => by
    rw [same] at before
    exact Nat.lt_irrefl _ before

/-- **Under a name stands what is gathered under it.**  Together with the order of the names this is
all there is to know of merged variables. -/
theorem find?_mergeVariables (name : String) (vs : List ScriptVariable) :
    (mergeVariables vs).find? (fun v => v.name == name) = gathered? name vs := by
  induction vs using List.reverseRecOn with
  | nil => rfl
  | append_singleton vs v ih =>
    rw [mergeVariables_concat, find?_addVariable, ih, gathered?, gathered?, named, named,
      List.find?_append, List.filter_append, List.flatMap_append]
    by_cases same : v.name = name
    · subst same
      cases first : vs.find? fun w => w.name == v.name with
      | none =>
        have unseen : vs.filter (fun w => w.name == v.name) = [] :=
          List.filter_eq_nil_iff.2 (List.find?_eq_none.1 first)
        simp [unseen]
      | some w => simp
    · simp [same]

/-- Variables of different names stay as they are. -/
theorem mergeVariables_eq_self (distinct : (vs.map ScriptVariable.name).Nodup) :
    mergeVariables vs = vs := by
  induction vs using List.reverseRecOn with
  | nil => rfl
  | append_singleton vs v ih =>
    rw [List.map_append, List.map_singleton, List.nodup_append] at distinct
    obtain ⟨others, -, apart⟩ := distinct
    have fresh : v.name ∉ vs.map ScriptVariable.name := fun seen =>
      apart _ seen _ (List.mem_singleton_self _) rfl
    rw [mergeVariables_concat, ih others, addVariable_of_notMem fresh]

/-- Merging what is merged changes nothing. -/
theorem mergeVariables_mergeVariables (vs : List ScriptVariable) :
    mergeVariables (mergeVariables vs) = mergeVariables vs :=
  mergeVariables_eq_self (nodup_mergeVariables vs)

/-- Merging in parts is merging at once. -/
theorem mergeVariables_append (vs more : List ScriptVariable) :
    mergeVariables (mergeVariables vs ++ more) = mergeVariables (vs ++ more) := by
  have parts (ws : List ScriptVariable) : mergeVariables (ws ++ more) =
      more.foldl (fun merged v => addVariable v merged) (mergeVariables ws) := List.foldl_append
  rw [parts, parts, mergeVariables_mergeVariables]

/-- Among variables of different names each is found under its own. -/
theorem find?_eq_some_iff_mem (distinct : (vs.map ScriptVariable.name).Nodup) :
    vs.find? (fun w => w.name == name) = some v ↔ v ∈ vs ∧ v.name = name := by
  constructor
  · intro found
    exact ⟨List.mem_of_find?_eq_some found, by simpa using List.find?_some found⟩
  · rintro ⟨inside, rfl⟩
    cases found : vs.find? fun w => w.name == v.name with
    | none => exact absurd (List.find?_eq_none.1 found v inside) (by simp)
    | some w =>
      have same : w.name = v.name := by simpa using List.find?_some found
      rw [List.inj_on_of_nodup_map distinct (List.mem_of_find?_eq_some found) inside same]

/-- The merged variables are what is gathered under their names; no name is repeated, so being in
the list and being found in it are the same. -/
theorem mem_mergeVariables_iff_gathered? :
    m ∈ mergeVariables vs ↔ gathered? m.name vs = some m := by
  rw [← find?_mergeVariables, find?_eq_some_iff_mem (nodup_mergeVariables vs)]
  simp

/-- A merged variable has the type of the first of its name and the values of all. -/
theorem mem_mergeVariables_iff :
    m ∈ mergeVariables vs ↔ ∃ first, vs.find? (fun v => v.name == m.name) = some first ∧
      m.valueType = first.valueType ∧
      m.values = (named m.name vs).flatMap ScriptVariable.values := by
  rw [mem_mergeVariables_iff_gathered?, gathered?, Option.map_eq_some_iff]
  refine exists_congr fun first => and_congr_right fun found => ?_
  have same : first.name = m.name := by simpa using List.find?_some found
  constructor
  · exact fun whole => ⟨(congrArg ScriptVariable.valueType whole).symm,
      (congrArg ScriptVariable.values whole).symm⟩
  · rintro ⟨type, values⟩
    rw [same, ← type]
    exact congrArg (ScriptVariable.mk m.name m.valueType) values.symm

/-! ### Merged variables in a script -/

/-- Variables that are added to a script one by one stand behind those it has. -/
theorem vars_foldl_addVariable (s : QueryScript) (vs : List ScriptVariable) :
    (vs.foldl QueryScript.addVariable s).vars = s.vars ++ vs := by
  induction vs generalizing s with
  | nil => rw [List.append_nil]; rfl
  | cons v vs ih => rw [List.foldl_cons, ih, QueryScript.addVariable, List.append_assoc]; rfl

/-- Variables are found in the script before those that are added to it. -/
theorem findVariable?_foldl_addVariable (s : QueryScript) (vs : List ScriptVariable)
    (name : String) : (vs.foldl QueryScript.addVariable s).findVariable? name =
      (s.findVariable? name).or (vs.find? fun v => v.name == name) := by
  rw [QueryScript.findVariable?, vars_foldl_addVariable, List.find?_append]
  rfl

/-- **Merging keeps every value and makes all of them reachable.** The names of merged variables are
different and stand in the order they are seen first; each variable has the type of the first one of
its name and the values of all of that name, in order.  Merging again changes nothing, and merging
in parts is merging at once.  In a script to which the merged variables are added, each is found
under its name, unless the script had a variable of the name before.  The part about `m` is the
whole of it: since the names are different, it says what the merged variables are, and the others
follow from it and from the order. -/
theorem mergeVariables_gathers (vs : List ScriptVariable) :
    ((mergeVariables vs).map ScriptVariable.name).Nodup ∧
    ((mergeVariables vs).map ScriptVariable.name).Pairwise (fun a b =>
      (vs.map ScriptVariable.name).idxOf a < (vs.map ScriptVariable.name).idxOf b) ∧
    (∀ name, name ∈ (mergeVariables vs).map ScriptVariable.name ↔
      name ∈ vs.map ScriptVariable.name) ∧
    (∀ m, m ∈ mergeVariables vs ↔ ∃ first,
      vs.find? (fun v => v.name == m.name) = some first ∧ m.valueType = first.valueType ∧
        m.values = (vs.filter fun v => v.name == m.name).flatMap ScriptVariable.values) ∧
    mergeVariables (mergeVariables vs) = mergeVariables vs ∧
    (∀ more, mergeVariables (vs ++ more) = mergeVariables (mergeVariables vs ++ more)) ∧
    ∀ (s : QueryScript) (name : String) (m : ScriptVariable),
      ((mergeVariables vs).foldl QueryScript.addVariable s).findVariable? name = some m ↔
        s.findVariable? name = some m ∨
        s.findVariable? name = none ∧ m ∈ mergeVariables vs ∧ m.name = name := by
  refine ⟨nodup_mergeVariables vs, pairwise_mergeVariables vs,
    fun name => mem_map_name_mergeVariables, fun m => mem_mergeVariables_iff,
    mergeVariables_mergeVariables vs, fun more => (mergeVariables_append vs more).symm,
    fun s name m => ?_⟩
  rw [findVariable?_foldl_addVariable, Option.or_eq_some_iff,
    find?_eq_some_iff_mem (nodup_mergeVariables vs)]

/-- Numbers written one by one, and a word between them. -/
example : mergeVariables [⟨"ids", .numeric, ["1"]⟩, ⟨"who", .string, ["x"]⟩,
      ⟨"ids", .numeric, ["2"]⟩] =
    [⟨"ids", .numeric, ["1", "2"]⟩, ⟨"who", .string, ["x"]⟩] := by decide

end CommandLine
end PagedQuery
