/-
# The types of merged values

Every value on a command line is given with a type, and values of one name are merged into one
variable, which has one type: that of the first.

| first type of the name | text of a value, whatever type it was given with |
| --- | --- |
| `string`, `identifier` | in quotes |
| `numeric`, `date` | the number, the timestamp; or the variable is refused |
| `boolean` | `TRUE` or `FALSE` |
| `fragment` | the value itself |
| `keyword`, `snippet` | the variable is refused |

So a value has the text of its own type if the first type gives it the same text, and else it has
another one (`rendersAsGiven_iff`).  Behind a fragment all values of the name are raw SQL, those
given as strings, too (`string_behind_fragment`); behind any other type none is.
-/

import PagedQuery.Dialect.Product
import PagedQuery.Proofs.CommandLine.Merge
import PagedQuery.Proofs.CommandLine.Notation
import PagedQuery.Proofs.Script.Value

namespace PagedQuery

/-! ### The text of a variable -/

namespace ScriptVariable

variable {d : Dialect} {v : ScriptVariable} {text : List Char}

/-- The texts of the values of a variable, all under the variable's one type. -/
def literals (d : Dialect) (v : ScriptVariable) : Except Failure (List (List Char)) :=
  v.values.mapM fun value => Literal.render d v.valueType value.toList

/-- A variable with values has a text exactly if its type can be written and each of its values has
a text under it. -/
theorem render_eq_ok_iff (some_value : v.values ≠ []) :
    v.render d = .ok text ↔ v.valueType ≠ .keyword ∧ v.valueType ≠ .snippet ∧
      ∃ texts, v.literals d = .ok texts ∧ text = Text.joinWith ", " texts := by
  have nonempty : ¬ v.values.isEmpty = true := fun empty => some_value (List.isEmpty_iff.1 empty)
  rw [← and_assoc, ← not_or, ScriptVariable.render]
  by_cases refused : v.valueType = .keyword ∨ v.valueType = .snippet
  · simp [refused]
  · rw [if_neg refused, if_neg nonempty, literals]
    cases v.values.mapM fun value => Literal.render d v.valueType value.toList with
    | error e => simp
    | ok texts =>
      refine ⟨fun h => ⟨refused, texts, rfl, (Except.ok.inj h).symm⟩, ?_⟩
      rintro ⟨-, _, same, rfl⟩
      rw [Except.ok.inj same]

/-- A type that gives every value a text gives a variable with values all of them, with commas in
between.  Such a type is neither of the two that are refused. -/
theorem render_eq_of_forall (some_value : v.values ≠ []) {f : List Char → List Char}
    (each : ∀ value, Literal.render d v.valueType value = .ok (f value)) :
    v.render d = .ok (Text.joinWith ", " (v.values.map fun value => f value.toList)) := by
  have written : ∀ refused, Literal.render d refused [] ≠ .ok (f []) → v.valueType ≠ refused := by
    rintro refused none rfl
    exact none (each [])
  have texts : v.literals d = .ok (v.values.map fun value => f value.toList) :=
    mapM_eq_ok fun value _ => each value.toList
  exact (render_eq_ok_iff some_value).2
    ⟨written .keyword (by simp [Literal.render]), written .snippet (by simp [Literal.render]), _,
      texts, rfl⟩

end ScriptVariable

namespace CommandLine

variable {d : Dialect} {v m : ScriptVariable} {vs ws : List ScriptVariable}
variable {texts : List (List Char)}

/-- Whether a text is that of the one value of a variable under a type. -/
def IsTextUnder (d : Dialect) (t : ValueType) (v : ScriptVariable) (text : List Char) : Prop :=
  ∃ value, v.values = [value] ∧ Literal.render d t value.toList = .ok text

/-- Whether merged variables are rendered, if they are, as the texts of their values, each under
the type it was given with. -/
def RendersAsGiven (d : Dialect) (vs : List ScriptVariable) : Prop :=
  ∀ m ∈ mergeVariables vs, ∀ text, m.render d = .ok text →
    ∃ texts, m.literals d = .ok texts ∧ text = Text.joinWith ", " texts ∧
      List.Forall₂ (fun v literal => IsTextUnder d v.valueType v literal) (named m.name vs) texts

/-! ### One value for each argument -/

/-- An argument gives one value. -/
theorem Denotes.exists_value {argument : String} (denotes : Denotes argument v) :
    ∃ value, v.values = [value] := by
  cases denotes <;> exact ⟨_, rfl⟩

/-- So does each of the arguments that were read. -/
theorem exists_value_of_mem {args : List String} (read : args.mapM readVariable = .ok vs) :
    ∀ v ∈ vs, ∃ value, v.values = [value] := by
  intro v inside
  have denotes := mapM_eq_ok_iff.1 read
  obtain ⟨argument, -, denotes⟩ := List.mem_map.1 (denotes ▸ List.mem_map_of_mem inside)
  exact (readVariable_eq_ok_iff.1 denotes).exists_value

/-- What relates the values of variables with one value each relates the variables. -/
theorem forall₂_flatMap_values {R : String → List Char → Prop}
    (single : ∀ v ∈ vs, ∃ value, v.values = [value]) :
    List.Forall₂ R (vs.flatMap ScriptVariable.values) texts ↔
      List.Forall₂ (fun v text => ∃ value, v.values = [value] ∧ R value text) vs texts := by
  induction vs generalizing texts with
  | nil => rw [List.flatMap_nil, List.forall₂_nil_left_iff, List.forall₂_nil_left_iff]
  | cons v vs ih =>
    rw [List.forall_mem_cons] at single
    obtain ⟨⟨value, one⟩, single⟩ := single
    rw [List.flatMap_cons, one, List.singleton_append]
    cases texts with
    | nil => exact ⟨nofun, nofun⟩
    | cons text texts => simp [ih single, one]

/-- **The values of a merged variable are rendered under the type of the first.**  Which arguments
they came from shows in their order alone. -/
theorem literals_eq_ok_iff_of_mem (single : ∀ v ∈ vs, ∃ value, v.values = [value])
    (merged : m ∈ mergeVariables vs) :
    m.literals d = .ok texts ↔
      List.Forall₂ (fun v text => IsTextUnder d m.valueType v text) (named m.name vs) texts := by
  obtain ⟨-, -, -, values⟩ := mem_mergeVariables_iff.1 merged
  rw [ScriptVariable.literals, mapM_eq_ok_iff_forall₂, values, forall₂_flatMap_values]
  · rfl
  · exact fun v inside => single v (List.mem_of_mem_filter inside)

/-- A merged variable has a value. -/
theorem values_ne_nil_of_mem (single : ∀ v ∈ vs, ∃ value, v.values = [value])
    (merged : m ∈ mergeVariables vs) : m.values ≠ [] := by
  obtain ⟨first, found, -, values⟩ := mem_mergeVariables_iff.1 merged
  obtain ⟨value, one⟩ := single first (List.mem_of_find?_eq_some found)
  have inside : first ∈ named m.name vs :=
    List.mem_filter.2 ⟨List.mem_of_find?_eq_some found, by simpa using List.find?_some found⟩
  rw [values]
  exact List.ne_nil_of_mem (List.mem_flatMap.2 ⟨first, inside, one ▸ List.mem_singleton_self value⟩)

/-! ### Two types for one value -/

/-- Texts under one type are those under the types of the variables themselves if each variable's
type gives it the same text. -/
theorem forall₂_isTextUnder_iff {t : ValueType}
    (under : List.Forall₂ (fun v text => IsTextUnder d t v text) vs texts) :
    List.Forall₂ (fun v text => IsTextUnder d v.valueType v text) vs texts ↔
      ∀ v ∈ vs, ∀ value ∈ v.values,
        Literal.render d v.valueType value.toList = Literal.render d t value.toList := by
  induction under with
  | nil => simp
  | @cons v text vs texts head _ ih =>
    obtain ⟨value, one, rendered⟩ := head
    rw [List.forall₂_cons, List.forall_mem_cons, ih, one, List.forall_mem_singleton, rendered]
    simp [IsTextUnder, one]

/-- **When values are rendered under the types they were given with.**  Each value must have the
same text under both types; a variable that is refused is not rendered at all, so nothing is
asked of it. -/
theorem rendersAsGiven_iff_same (single : ∀ v ∈ vs, ∃ value, v.values = [value]) :
    RendersAsGiven d vs ↔ ∀ m ∈ mergeVariables vs, (∃ e, m.render d = .error e) ∨
      ∀ v ∈ named m.name vs, ∀ value ∈ v.values,
        Literal.render d v.valueType value.toList = Literal.render d m.valueType value.toList := by
  refine forall₂_congr fun m merged => ?_
  cases rendered : m.render d with
  | error e => simp
  | ok text =>
    obtain ⟨-, -, texts, composed, joined⟩ :=
      (ScriptVariable.render_eq_ok_iff (values_ne_nil_of_mem single merged)).1 rendered
    have under := (literals_eq_ok_iff_of_mem single merged).1 composed
    rw [← forall₂_isTextUnder_iff under]
    simp [composed, joined]

/-! ### Types that are kept whatever the values are -/

/-- The names and the types of variables, which is what is left of them if the values are not looked
at. -/
def declared (vs : List ScriptVariable) : List (String × ValueType) :=
  vs.map fun v => (v.name, v.valueType)

/-- The first variable of a name declares the type of the merged one. -/
theorem lookup_declared (name : String) (vs : List ScriptVariable) :
    (declared vs).lookup name =
      (vs.find? fun v => v.name == name).map ScriptVariable.valueType := by
  induction vs with
  | nil => rfl
  | cons v vs ih =>
    rw [declared, List.map_cons, List.lookup_cons, List.find?_cons, ← declared, ih,
      BEq.comm (a := name)]
    cases v.name == name <;> rfl

/-- A merged variable has the type that is declared first under its name. -/
theorem lookup_declared_of_mem (merged : m ∈ mergeVariables vs) :
    (declared vs).lookup m.name = some m.valueType := by
  obtain ⟨first, found, type, -⟩ := mem_mergeVariables_iff.1 merged
  rw [lookup_declared, found, type]
  rfl

/-- Lists with the same names and types are merged to variables of the same types, whatever their
values are. -/
theorem valueType_eq_of_declared {n : ScriptVariable} (same : declared ws = declared vs)
    (merged : m ∈ mergeVariables vs) (merged' : n ∈ mergeVariables ws) (name : n.name = m.name) :
    n.valueType = m.valueType := by
  have first := lookup_declared_of_mem merged'
  rw [same, name, lookup_declared_of_mem merged] at first
  exact (Option.some.inj first).symm

/-- A value whose text under a type is not its text under any other.  The blank before the digit is
dropped from the text of a number alone. -/
def sample : ValueType → String
  | .numeric => " 1"
  | .boolean => "true"
  | .date => "2024-01-31"
  | _ => "a"

/-- On one dialect the sample of a type has a text, and under no other type the same one; so a
single value is enough to tell two types apart. -/
theorem render_sample {t : ValueType} (spliced : t ≠ .keyword ∧ t ≠ .snippet) :
    (∃ text, Literal.render Product.sqlite.dialect t (sample t).toList = .ok text) ∧
      ∀ u, Literal.render Product.sqlite.dialect u (sample t).toList =
        Literal.render Product.sqlite.dialect t (sample t).toList → u = t := by
  have each : ∀ t ∈ ValueType.all, t ≠ .keyword ∧ t ≠ .snippet →
      (Literal.render Product.sqlite.dialect t (sample t).toList).toOption.isSome ∧
      ∀ u ∈ ValueType.all, (Literal.render Product.sqlite.dialect u (sample t).toList).toOption =
        (Literal.render Product.sqlite.dialect t (sample t).toList).toOption → u = t := by
    decide +kernel
  obtain ⟨rendered, apart⟩ := each t t.mem_all spliced
  obtain ⟨text, rendered⟩ := Option.isSome_iff_exists.1 rendered
  exact ⟨⟨text, ok_of_toOption rendered⟩, fun u same => apart u u.mem_all (congrArg _ same)⟩

/-- The variables with another value, the same for all of them. -/
def withValue (value : String) (vs : List ScriptVariable) : List ScriptVariable :=
  vs.map fun v => { v with values := [value] }

/-- Names and types do not depend on the values. -/
theorem declared_withValue (value : String) (vs : List ScriptVariable) :
    declared (withValue value vs) = declared vs := by
  rw [declared, withValue, List.map_map]
  rfl

/-- With another value for all of them, variables still have one value each. -/
theorem exists_value_of_mem_withValue (value : String) (vs : List ScriptVariable) :
    ∀ v ∈ withValue value vs, ∃ value, v.values = [value] :=
  List.forall_mem_map.2 fun _ _ => ⟨value, rfl⟩

/-- Another value can be given with every argument. -/
theorem Denotes.exists_argument {argument : String} (denotes : Denotes argument v)
    (value : String) : ∃ other, Denotes other { v with values := [value] } := by
  cases denotes with
  | typed named type unmarked => exact ⟨_, .typed named type unmarked⟩
  -- A string is written with its type, since the new value may look like one that has a type.
  | untyped named =>
    have type : ValueType.ofWord? "string".toList = some .string := by decide
    exact ⟨_, .typed named type (by decide)⟩

/-- The other value can be given on a command line as well, so that what is said of all values is
said of values that arguments can give. -/
theorem exists_args_withValue {args : List String} (read : args.mapM readVariable = .ok vs)
    (value : String) : ∃ others : List String,
      others.mapM readVariable = .ok (withValue value vs) := by
  rw [mapM_eq_ok_iff_forall₂] at read
  induction read with
  | nil => exact ⟨[], rfl⟩
  | cons head _ ih =>
    obtain ⟨others, ih⟩ := ih
    obtain ⟨other, denotes⟩ := (readVariable_eq_ok_iff.1 head).exists_argument value
    rw [mapM_eq_ok_iff_forall₂] at ih
    exact ⟨other :: others, mapM_eq_ok_iff_forall₂.2 (.cons denotes.readVariable ih)⟩

/-- Variables that all have one value are merged to variables of that value alone. -/
theorem eq_of_mem_values {value other : String} (merged : m ∈ mergeVariables (withValue value vs))
    (inside : other ∈ m.values) : other = value := by
  obtain ⟨-, -, -, values⟩ := mem_mergeVariables_iff.1 merged
  rw [values] at inside
  obtain ⟨w, given, inside⟩ := List.mem_flatMap.1 inside
  obtain ⟨v, -, rfl⟩ := List.mem_map.1 (List.mem_of_mem_filter given)
  exact List.mem_singleton.1 inside

/-- Variables that all have a value which has a text under the first type are merged to variables
with a text: one value that can be written can be written any number of times. -/
theorem exists_render_of_withValue {value : String} {text : List Char}
    (spliced : m.valueType ≠ .keyword ∧ m.valueType ≠ .snippet) (some_value : m.values ≠ [])
    (merged : m ∈ mergeVariables (withValue value vs))
    (rendered : Literal.render d m.valueType value.toList = .ok text) :
    ∃ whole, m.render d = .ok whole := by
  have composed : m.literals d = .ok (m.values.map fun _ => text) :=
    mapM_eq_ok fun other inside => by rw [eq_of_mem_values merged inside, rendered]
  exact ⟨_, (ScriptVariable.render_eq_ok_iff some_value).2
    ⟨spliced.1, spliced.2, _, composed, rfl⟩⟩

/-- Whether values of one name are given with one type, unless the first is refused.  It does not
depend on the values. -/
def OneType (vs : List ScriptVariable) : Prop :=
  ∀ m ∈ mergeVariables vs, m.valueType ≠ .keyword ∧ m.valueType ≠ .snippet →
    ∀ v ∈ named m.name vs, v.valueType = m.valueType

/-- The name of every variable is that of a merged one. -/
theorem exists_merged {v : ScriptVariable} (inside : v ∈ vs) :
    ∃ m ∈ mergeVariables vs, m.name = v.name :=
  List.mem_map.1 (mem_map_name_mergeVariables.2 (List.mem_map_of_mem inside))

/-- Whether one type is given for each name shows in the names and types alone. -/
theorem oneType_iff : OneType vs ↔ ∀ entry ∈ declared vs, ∀ t ∈ (declared vs).lookup entry.1,
    t ≠ .keyword ∧ t ≠ .snippet → entry.2 = t := by
  constructor
  · intro one entry declares t first
    obtain ⟨v, inside, rfl⟩ := List.mem_map.1 declares
    obtain ⟨m, merged, same⟩ := exists_merged inside
    rw [← same, lookup_declared_of_mem merged, Option.mem_some_iff] at first
    subst first
    exact fun spliced => one m merged spliced v (List.mem_filter.2 ⟨inside, by simp [same]⟩)
  · intro one m merged spliced v given
    obtain ⟨inside, same⟩ := List.mem_filter.1 given
    have first := lookup_declared_of_mem merged
    rw [← beq_iff_eq.1 same] at first
    exact one _ (List.mem_map_of_mem inside) _ first spliced

/-- Rendered as given, samples of the first type of a name tell it from any other. -/
theorem valueType_eq_of_rendersAsGiven (merged : m ∈ mergeVariables vs)
    (spliced : m.valueType ≠ .keyword ∧ m.valueType ≠ .snippet)
    (given : RendersAsGiven Product.sqlite.dialect (withValue (sample m.valueType) vs)) :
    ∀ v ∈ named m.name vs, v.valueType = m.valueType := by
  intro v inside
  obtain ⟨⟨text, rendered⟩, apart⟩ := render_sample spliced
  have single := exists_value_of_mem_withValue (sample m.valueType) vs
  obtain ⟨inside, same⟩ := List.mem_filter.1 inside
  have inside : { v with values := [sample m.valueType] } ∈ withValue (sample m.valueType) vs :=
    List.mem_map_of_mem inside
  obtain ⟨n, merged', name⟩ := exists_merged inside
  have type : n.valueType = m.valueType := valueType_eq_of_declared (declared_withValue ..)
    merged merged' (name.trans (beq_iff_eq.1 same))
  -- The merged variable is not refused, since its values all have a text under the first type.
  obtain ⟨whole, accepted⟩ := exists_render_of_withValue (type ▸ spliced)
    (values_ne_nil_of_mem single merged') merged' (by rw [type, rendered])
  rcases (rendersAsGiven_iff_same single).1 given n merged' with ⟨e, refused⟩ | agrees
  · rw [accepted] at refused
    cases refused
  · have agrees := agrees _ (List.mem_filter.2 ⟨inside, by simp [name]⟩) _
      (List.mem_singleton_self _)
    rw [type] at agrees
    exact apart _ agrees

/-- **Which types are kept whatever the values are.**  If two types are given for a name, the sample
of one of them shows the difference. -/
theorem forall_rendersAsGiven_iff {args : List String} (read : args.mapM readVariable = .ok vs) :
    (∀ (d : Dialect) (others : List String) (ws : List ScriptVariable),
      others.mapM readVariable = .ok ws → declared ws = declared vs → RendersAsGiven d ws) ↔
    OneType vs := by
  constructor
  · intro kept m merged spliced
    obtain ⟨others, read⟩ := exists_args_withValue read (sample m.valueType)
    exact valueType_eq_of_rendersAsGiven merged spliced
      (kept Product.sqlite.dialect others _ read (declared_withValue ..))
  · intro one d others ws read same
    have one : OneType ws := by rwa [oneType_iff, same, ← oneType_iff]
    refine (rendersAsGiven_iff_same (exists_value_of_mem read)).2 fun m merged => ?_
    by_cases refused : m.valueType = .keyword ∨ m.valueType = .snippet
    · refine .inl ?_
      rw [ScriptVariable.render, if_pos refused]
      exact ⟨_, rfl⟩
    · exact .inr fun v given value _ => by rw [one m merged (not_or.1 refused) v given]

/-- **Every value is rendered under the type that was given first.**  A merged variable has the
first type of its name.  Its text, if it is not refused, is made of the texts of all values of
the name under that type; behind a fragment these are the values as they were written, whatever
type they were given with.  Behind any other type no value is spliced as it is: the values of an
identifier are quoted, and where the quotes are such that a script can be cut at them the text is
made of literal tokens, as it is for every other type in every dialect.  So values
are rendered under the types they were given with exactly if, wherever a variable is not refused,
both types give them the same text; and for all values that can be given with the same names and
types, exactly if one type is given for each name. -/
theorem rendersAsGiven_iff {args : List String} (read : args.mapM readVariable = .ok vs) :
    (∀ d, RendersAsGiven d vs ↔ ∀ m ∈ mergeVariables vs, (∃ e, m.render d = .error e) ∨
      ∀ v ∈ named m.name vs, ∀ value ∈ v.values,
        Literal.render d v.valueType value.toList = Literal.render d m.valueType value.toList) ∧
    ((∀ (d : Dialect) (others : List String) (ws : List ScriptVariable),
      others.mapM readVariable = .ok ws → declared ws = declared vs → RendersAsGiven d ws) ↔
      OneType vs) ∧
    ∀ m ∈ mergeVariables vs,
      (∃ first, vs.find? (fun v => v.name == m.name) = some first ∧
        m.valueType = first.valueType) ∧
      ∀ d, (∀ text, m.render d = .ok text ↔ m.valueType ≠ .keyword ∧ m.valueType ≠ .snippet ∧
          ∃ texts, text = Text.joinWith ", " texts ∧
            List.Forall₂ (IsTextUnder d m.valueType) (named m.name vs) texts) ∧
        (m.valueType = .fragment → m.render d =
          .ok (Text.joinWith ", " (m.values.map String.toList))) ∧
        (m.valueType = .identifier → m.render d =
          .ok (Text.joinWith ", " (m.values.map fun value => d.quoteIdentifier value.toList))) ∧
        (m.valueType ≠ .fragment →
          (m.valueType = .identifier →
            d.quoteEnd = d.quoteStart ∧ (d.quoteStart = '"' ∨ d.quoteStart = '\x60')) →
          ∀ text, m.render d = .ok text → Token.IsValue d.backslashEscapes text) := by
  have single := exists_value_of_mem read
  refine ⟨fun d => rendersAsGiven_iff_same single, forall_rendersAsGiven_iff read,
    fun m merged => ⟨?_, fun d => ⟨fun text => ?_, fun raw => ?_, fun quoted => ?_, ?_⟩⟩⟩
  · obtain ⟨first, found, type, -⟩ := mem_mergeVariables_iff.1 merged
    exact ⟨first, found, type⟩
  · rw [ScriptVariable.render_eq_ok_iff (values_ne_nil_of_mem single merged)]
    simp only [literals_eq_ok_iff_of_mem single merged, and_comm]
  -- A fragment's literals are its values, an identifier's are its values in quotes; neither is ever
  -- refused.
  · exact ScriptVariable.render_eq_of_forall (f := id) (values_ne_nil_of_mem single merged)
      fun _ => by rw [raw]; rfl
  · exact ScriptVariable.render_eq_of_forall (f := d.quoteIdentifier)
      (values_ne_nil_of_mem single merged) fun _ => by rw [quoted]; rfl
  · exact fun typed quotes text => ScriptVariable.isValue_render quotes typed

/-- `rendersAsGiven_iff` at a list of two numbers and a word. -/
theorem rendersAsGiven_iff_list :
    ["ids=numeric:1", "ids=numeric:2", "who=x"].mapM readVariable =
        .ok [⟨"ids", .numeric, ["1"]⟩, ⟨"ids", .numeric, ["2"]⟩, ⟨"who", .string, ["x"]⟩] ∧
      OneType [⟨"ids", .numeric, ["1"]⟩, ⟨"ids", .numeric, ["2"]⟩, ⟨"who", .string, ["x"]⟩] ∧
      RendersAsGiven Product.sqlite.dialect
        [⟨"ids", .numeric, ["1"]⟩, ⟨"ids", .numeric, ["2"]⟩, ⟨"who", .string, ["x"]⟩] ∧
      ScriptVariable.render Product.sqlite.dialect ⟨"ids", .numeric, ["1", "2"]⟩ =
        .ok "1, 2".toList := by
  have read : ["ids=numeric:1", "ids=numeric:2", "who=x"].mapM readVariable =
      .ok [⟨"ids", .numeric, ["1"]⟩, ⟨"ids", .numeric, ["2"]⟩, ⟨"who", .string, ["x"]⟩] :=
    ok_of_toOption (by decide +kernel)
  have one : OneType
      [⟨"ids", .numeric, ["1"]⟩, ⟨"ids", .numeric, ["2"]⟩, ⟨"who", .string, ["x"]⟩] := by
    rw [OneType]
    decide
  obtain ⟨-, kept, -⟩ := rendersAsGiven_iff read
  exact ⟨read, one, kept.2 one _ _ _ read rfl, ok_of_toOption (by decide +kernel)⟩

/-- A value given as a string behind a fragment becomes SQL as it is. -/
theorem string_behind_fragment :
    ["f=fragment:1", "f=string:x"].mapM readVariable =
        .ok [⟨"f", .fragment, ["1"]⟩, ⟨"f", .string, ["x"]⟩] ∧
      mergeVariables [⟨"f", .fragment, ["1"]⟩, ⟨"f", .string, ["x"]⟩] =
        [⟨"f", .fragment, ["1", "x"]⟩] ∧
      ScriptVariable.render Product.sqlite.dialect ⟨"f", .fragment, ["1", "x"]⟩ =
        .ok "1, x".toList ∧
      Literal.render Product.sqlite.dialect .string "x".toList = .ok "'x'".toList ∧
      ¬ RendersAsGiven Product.sqlite.dialect
        [⟨"f", .fragment, ["1"]⟩, ⟨"f", .string, ["x"]⟩] := by
  have raw : ScriptVariable.render Product.sqlite.dialect ⟨"f", .fragment, ["1", "x"]⟩ =
      .ok "1, x".toList := ok_of_toOption (by decide +kernel)
  have quoted : Literal.render Product.sqlite.dialect .string "x".toList = .ok "'x'".toList :=
    ok_of_toOption (by decide +kernel)
  refine ⟨ok_of_toOption (by decide +kernel), by decide, raw, quoted, fun given => ?_⟩
  have single : ∀ v ∈ [(⟨"f", .fragment, ["1"]⟩ : ScriptVariable), ⟨"f", .string, ["x"]⟩],
      ∃ value, v.values = [value] := by simp
  -- The merged variable is rendered, so both types would have to give `x` the same text.
  rcases (rendersAsGiven_iff_same single).1 given ⟨"f", .fragment, ["1", "x"]⟩ (by decide) with
    ⟨e, refused⟩ | same
  · rw [raw] at refused
    cases refused
  · have same := same ⟨"f", .string, ["x"]⟩ (by decide) "x" (by decide)
    rw [quoted] at same
    exact absurd (Except.ok.inj same) (by decide)

end CommandLine
end PagedQuery
