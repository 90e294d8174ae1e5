/-
# What the key of a script tells

The key of a script is the checksum of its parts, written one after another with a mark before all
but the first: `1F` before the text and before a value, `1E` before a variable.  Nothing but the
marks tells where a part ends.  The source ends before the first `1F` and so has to be without
that mark; the text ends before the first `1E` and has to be without the other one; the name of a
variable with its type and each value end before the next mark of either kind, and have to be
without both (`QueryScript.IsDelimited`).

A name runs into the type behind it, and they are told apart because the name of no type ends with
that of another (`ValueType.eq_of_suffix`).  Of scripts whose parts are without these marks the
bytes tell the source, the text and the variables (`keyBytes_eq_iff`).  The proof undoes the
writing from the left, each part by `append_inj_of_stops`.

A part with a mark in it passes for several parts: all variables of a script can be had in the
text of another one (`exists_keyBytes_eq`), or a variable in its source (`exists_key_collision`).
What is said is said of the bytes and not of the checksum, which cannot be injective.
-/

import PagedQuery.Proofs.Script.Cut
import PagedQuery.Script.Basic

namespace PagedQuery

/-- The name of a type does not end with that of another type. -/
theorem ValueType.eq_of_suffix {t t' : ValueType} (h : t.name.toList <:+ t'.name.toList) :
    t = t' := by
  revert h
  cases t <;> cases t' <;> decide

/-- A name and the type behind it are told apart. -/
theorem ValueType.append_name_inj {a b : List Char} {t t' : ValueType}
    (h : a ++ t.name.toList = b ++ t'.name.toList) : a = b ∧ t = t' := by
  have first : t.name.toList <:+ b ++ t'.name.toList := ⟨a, h⟩
  obtain rfl : t = t' := by
    rcases List.suffix_or_suffix_of_suffix first (List.suffix_append b _) with ends | ends
    · exact eq_of_suffix ends
    · exact (eq_of_suffix ends).symm
  exact ⟨List.append_cancel_right h, rfl⟩

/-- Whether a text has neither of the marks in it.  The marks are control characters that no one
types. -/
def IsUnmarked (text : String) : Prop :=
  '\x1e' ∉ text.toList ∧ '\x1f' ∉ text.toList

instance (text : String) : Decidable (IsUnmarked text) :=
  inferInstanceAs (Decidable (_ ∧ _))

/-- The names of types hold letters alone. -/
theorem ValueType.isUnmarked_name (t : ValueType) : IsUnmarked t.name := by
  cases t <;> decide

/-- Whether neither the name nor a value of a variable has a mark in it. -/
structure ScriptVariable.IsUnmarked (v : ScriptVariable) : Prop where
  /-- The name ends before a mark. -/
  name : PagedQuery.IsUnmarked v.name
  /-- So does each value. -/
  values : ∀ value ∈ v.values, PagedQuery.IsUnmarked value

instance (v : ScriptVariable) : Decidable v.IsUnmarked :=
  decidable_of_iff (IsUnmarked v.name ∧ ∀ value ∈ v.values, IsUnmarked value)
    ⟨fun h => ⟨h.1, h.2⟩, fun h => ⟨h.name, h.values⟩⟩

namespace QueryScript

/-- The bytes of a text tell the text. -/
theorem utf8_injective : Function.Injective utf8 := by
  intro s t h
  have bytes : s.toList.utf8Encode = t.toList.utf8Encode := congrArg List.toByteArray h
  rw [String.utf8Encode_toList, String.utf8Encode_toList] at bytes
  exact String.toByteArray_inj.1 bytes

/-- The characters of a variable in the key of its script, without the mark before it. -/
def variableText (v : ScriptVariable) : List Char :=
  (v.name.toList ++ v.valueType.name.toList) ++
    (v.values.map String.toList).flatMap ('\x1f' :: ·)

/-- The characters that a script's key is the checksum of.  The schema is not among them. -/
def keyText (s : QueryScript) : List Char :=
  s.sourceId.toList ++ '\x1f' :: (s.script.toList ++ (s.vars.map variableText).flatMap ('\x1e' :: ·))

/-- The bytes of a text are those of its characters, one after another. -/
theorem utf8_ofList (cs : List Char) : utf8 (.ofList cs) = cs.flatMap String.utf8EncodeChar := by
  rw [utf8, String.toList_ofList]

/-- The bytes of a key are those of one text, so it is enough to tell texts apart. -/
theorem keyBytes_eq_utf8 (s : QueryScript) : s.keyBytes = utf8 (.ofList s.keyText) := by
  have first : String.utf8EncodeChar '\x1e' = [0x1E] := by decide
  have second : String.utf8EncodeChar '\x1f' = [0x1F] := by decide
  have ofVariable (v : ScriptVariable) :
      variableBytes v = ('\x1e' :: variableText v).flatMap String.utf8EncodeChar := by
    simp [variableBytes, variableText, utf8, first, second, List.flatMap_map, List.flatMap_assoc]
  have ofVariables : s.vars.flatMap variableBytes =
      ((s.vars.map variableText).flatMap ('\x1e' :: ·)).flatMap String.utf8EncodeChar := by
    rw [List.flatMap_assoc, List.flatMap_map]
    exact congrArg (s.vars.flatMap ·) (funext ofVariable)
  rw [keyBytes, ofVariables, utf8_ofList, keyText]
  simp only [utf8, List.flatMap_append, List.flatMap_cons, second, List.singleton_append]

/-- The bytes tell the characters. -/
theorem keyBytes_eq_keyBytes_iff {s t : QueryScript} :
    s.keyBytes = t.keyBytes ↔ s.keyText = t.keyText := by
  rw [keyBytes_eq_utf8, keyBytes_eq_utf8, utf8_injective.eq_iff, String.ofList_inj]

section Marks

variable {mark : Char} {a b r r' : List Char} {xs ys : List (List Char)}

/-- Nothing, or texts with a mark before each, stop a run without the mark. -/
theorem stops_marked (xs : List (List Char)) :
    (xs.flatMap (mark :: ·)).head?.any (· != mark) = false := by
  cases xs with
  | nil => rfl
  | cons x xs => simp

/-- A run without a mark ends where the mark stands, or at the end. -/
theorem append_inj_of_stops (ha : mark ∉ a) (hb : mark ∉ b)
    (hr : r.head?.any (· != mark) = false) (hr' : r'.head?.any (· != mark) = false)
    (h : a ++ r = b ++ r') : a = b ∧ r = r' := by
  have apart {cs : List Char} (absent : mark ∉ cs) : ∀ c ∈ cs, (c != mark) = true :=
    fun c hc => bne_iff_ne.2 fun same => absent (same ▸ hc)
  obtain ⟨first, left⟩ := Token.span_append_eq_iff.2 ⟨apart ha, hr⟩
  obtain ⟨first', left'⟩ := Token.span_append_eq_iff.2 ⟨apart hb, hr'⟩
  rw [h] at first left
  exact ⟨first.trans first'.symm, left.trans left'.symm⟩

/-- Texts without a mark are told from one another by the mark before each. -/
theorem marked_inj (hx : ∀ x ∈ xs, mark ∉ x) (hy : ∀ y ∈ ys, mark ∉ y)
    (h : xs.flatMap (mark :: ·) = ys.flatMap (mark :: ·)) : xs = ys := by
  induction xs generalizing ys with
  | nil =>
    cases ys with
    | nil => rfl
    | cons y ys => exact absurd h (by simp)
  | cons x xs ih =>
    cases ys with
    | nil => exact absurd h (by simp)
    | cons y ys =>
      rw [List.forall_mem_cons] at hx hy
      rw [List.flatMap_cons, List.flatMap_cons, List.cons_append, List.cons_append] at h
      obtain ⟨rfl, rest⟩ := append_inj_of_stops hx.1 hy.1 (stops_marked xs) (stops_marked ys)
        (List.cons.inj h).2
      rw [ih hx.2 hy.2 rest]

end Marks

/-- Whether no part of a script has the mark in it that it ends before.  The last part, the values
of the last variable, ends with the text. -/
structure IsDelimited (s : QueryScript) : Prop where
  /-- The source ends before the text. -/
  sourceId : '\x1f' ∉ s.sourceId.toList
  /-- The text ends before the first variable. -/
  script : '\x1e' ∉ s.script.toList
  /-- Each variable ends before the next one. -/
  vars : ∀ v ∈ s.vars, v.IsUnmarked

instance (s : QueryScript) : Decidable s.IsDelimited :=
  decidable_of_iff
    ('\x1f' ∉ s.sourceId.toList ∧ '\x1e' ∉ s.script.toList ∧ ∀ v ∈ s.vars, v.IsUnmarked)
    ⟨fun h => ⟨h.1, h.2.1, h.2.2⟩, fun h => ⟨h.sourceId, h.script, h.vars⟩⟩

/-- The mark before a variable is in none of the parts of an unmarked one. -/
theorem not_mem_variableText {v : ScriptVariable} (h : v.IsUnmarked) :
    '\x1e' ∉ variableText v := by
  intro inside
  rw [variableText, List.mem_append, List.mem_append, List.mem_flatMap] at inside
  rcases inside with (inside | inside) | ⟨text, mem, inside⟩
  · exact h.name.1 inside
  · exact v.valueType.isUnmarked_name.1 inside
  · obtain ⟨value, hvalue, rfl⟩ := List.mem_map.1 mem
    rcases List.mem_cons.1 inside with same | inside
    · exact absurd same (by decide)
    · exact (h.values value hvalue).1 inside

/-- The characters of a variable tell the variable. -/
theorem variableText_inj {v w : ScriptVariable} (hv : v.IsUnmarked) (hw : w.IsUnmarked)
    (h : variableText v = variableText w) : v = w := by
  have head {u : ScriptVariable} (hu : u.IsUnmarked) :
      '\x1f' ∉ u.name.toList ++ u.valueType.name.toList := fun inside =>
    (List.mem_append.1 inside).elim hu.name.2 u.valueType.isUnmarked_name.2
  have each {u : ScriptVariable} (hu : u.IsUnmarked) :
      ∀ text ∈ u.values.map String.toList, '\x1f' ∉ text :=
    List.forall_mem_map.2 fun value hvalue => (hu.values value hvalue).2
  obtain ⟨heads, tails⟩ := append_inj_of_stops (head hv) (head hw) (stops_marked _)
    (stops_marked _) h
  obtain ⟨sameName, sameType⟩ := ValueType.append_name_inj heads
  have sameValues := marked_inj (each hv) (each hw) tails
  rw [List.map_inj_right fun _ _ => String.toList_inj.1] at sameValues
  rw [ScriptVariable.mk.injEq]
  exact ⟨String.toList_inj.1 sameName, sameType, sameValues⟩

/-- Variables are told one by one, in their order. -/
theorem map_variableText_inj {vs ws : List ScriptVariable} (hv : ∀ v ∈ vs, v.IsUnmarked)
    (hw : ∀ w ∈ ws, w.IsUnmarked) (h : vs.map variableText = ws.map variableText) : vs = ws := by
  induction vs generalizing ws with
  | nil => exact (List.map_eq_nil_iff.1 h.symm).symm
  | cons v vs ih =>
    obtain ⟨w, ws, rfl, first, others⟩ := List.map_eq_cons_iff.1 h.symm
    rw [List.forall_mem_cons] at hv hw
    rw [variableText_inj hv.1 hw.1 first.symm, ih hv.2 hw.2 others.symm]

/-- **The bytes of a key tell the parts of a script**, if no part of it has the mark in it that
it ends before. -/
theorem keyBytes_eq_iff {s t : QueryScript} (hs : s.IsDelimited) (ht : t.IsDelimited) :
    s.keyBytes = t.keyBytes ↔
      s.sourceId = t.sourceId ∧ s.script = t.script ∧ s.vars = t.vars := by
  constructor
  · intro h
    have texts := keyBytes_eq_keyBytes_iff.1 h
    obtain ⟨sources, behind⟩ := append_inj_of_stops hs.sourceId ht.sourceId rfl rfl texts
    obtain ⟨scripts, others⟩ := append_inj_of_stops hs.script ht.script (stops_marked _)
      (stops_marked _) (List.cons.inj behind).2
    have each {u : QueryScript} (hu : u.IsDelimited) :
        ∀ text ∈ u.vars.map variableText, '\x1e' ∉ text :=
      List.forall_mem_map.2 fun v hv => not_mem_variableText (hu.vars v hv)
    have same := marked_inj (each hs) (each ht) others
    exact ⟨String.toList_inj.1 sources, String.toList_inj.1 scripts,
      map_variableText_inj hs.vars ht.vars same⟩
  · rintro ⟨sources, scripts, vars⟩
    rw [keyBytes, keyBytes, sources, scripts, vars]

/-- Two values of one variable are told apart. -/
theorem keyBytes_eq_iff_one_two :
    let filtered (value : String) : QueryScript :=
      ⟨"src", "SELECT * FROM t WHERE a = $a$", [⟨"a", .numeric, [value]⟩], none⟩
    (filtered "1").IsDelimited ∧ (filtered "2").IsDelimited ∧
      (filtered "1").keyBytes ≠ (filtered "2").keyBytes := by
  intro filtered
  have one : (filtered "1").IsDelimited := by decide
  have two : (filtered "2").IsDelimited := by decide
  refine ⟨one, two, fun same => ?_⟩
  have sameVars := ((keyBytes_eq_iff one two).1 same).2.2
  exact absurd sameVars (by decide)

/-- Every script shares its bytes with one that has all of its variables in its text. -/
theorem exists_keyBytes_eq (s : QueryScript) :
    ∃ t : QueryScript, t.sourceId = s.sourceId ∧ t.vars = [] ∧ t.keyBytes = s.keyBytes := by
  refine ⟨{ s with
    script := .ofList (s.script.toList ++ (s.vars.map variableText).flatMap ('\x1e' :: ·))
    vars := [] }, rfl, rfl, keyBytes_eq_keyBytes_iff.2 ?_⟩
  simp [keyText]

/-- A source with a variable in it passes for another source and the variable. -/
theorem exists_key_collision :
    let s : QueryScript := ⟨"a\x1f\x1enSTRING", "", [], none⟩
    let t : QueryScript := ⟨"a", "", [⟨"n", .string, [""]⟩], none⟩
    s.keyBytes = t.keyBytes ∧ s.key = t.key ∧ s.sourceId ≠ t.sourceId ∧ s.vars ≠ t.vars := by
  intro s t
  have same : s.keyBytes = t.keyBytes := by decide +kernel
  refine ⟨same, ?_, by decide, by decide⟩
  rw [key, key, same]

end QueryScript
end PagedQuery
