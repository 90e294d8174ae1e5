/-
# What a script refers to

The variables of a script are looked up by the names in its placeholders, and for nothing else.
Two scripts of one text that find the same variable under each of these names have the same texts,
and are refused alike (`render_congr`).

So several changes make no difference.  A variable that no placeholder names is never looked up
and may be put in or left out.  A name in a quoted run or a comment is part of a token of another
kind and names nothing.  Variables behind those of a script that can be rendered are not found,
since the first of a name is.

Each token is replaced once: the text of a script is what is written in place of its tokens, one
after another, and a value is written as it is, whatever it looks like (`splice_eq_ok_iff`).
`IsOnePass` says so without the functions that do it, as a relation between the tokens and their
texts.  `render_of_references` puts this together.
-/

import Mathlib.Data.List.Forall2
import PagedQuery.Proofs.Paging.Clause
import PagedQuery.Proofs.Script.Wrap

namespace PagedQuery

/-- Members that are not kept are left out behind one that is. -/
theorem upToLast_append {α : Type} {isKept : α → Bool} {kept dropped : List α}
    (none : ∀ x ∈ dropped, isKept x = false) (last : ∀ x ∈ kept.getLast?, isKept x = true) :
    upToLast isKept (kept ++ dropped) = kept := by
  have behind : ∀ x ∈ dropped.reverse, (!isKept x) = true := fun x hx => by
    rw [none x (List.mem_reverse.1 hx), Bool.not_false]
  rw [upToLast, List.reverse_append, List.dropWhile_append_of_pos behind]
  change upToLast isKept kept = kept
  rw [upToLast_eq_rdropWhile, List.rdropWhile_eq_self_iff]
  intro nonempty
  simp [last _ (List.getLast?_eq_getLast_of_ne_nil nonempty)]

namespace QueryScript

variable {s s' : QueryScript} {d : Dialect} {r : Request}

/-- The names that a script looks variables up by.  A name in a comment or a quoted run is not
one. -/
def References (s : QueryScript) (d : Dialect) (name : String) : Prop :=
  .placeholder name.toList ∈ s.tokens d

/-- Whether a text stands in place of a token: for a placeholder that of the first variable
with its name, for any other token its own. -/
inductive StandsFor (s : QueryScript) (d : Dialect) : Token → List Char → Prop
  /-- A placeholder is replaced by the text of the first variable with its name. -/
  | value {name : List Char} {v : ScriptVariable} {text : List Char}
      (found : s.findVariable? (String.ofList name) = some v) (rendered : v.render d = .ok text) :
      StandsFor s d (.placeholder name) text
  /-- Any other token stands for itself. -/
  | own {t : Token} (fixed : t.isPlaceholder = false) : StandsFor s d t t.text

/-- Whether a text is written in one pass over the tokens of a script: they are replaced one
by one, without the filler behind the last other token, and blanks in front are left out. -/
def IsOnePass (s : QueryScript) (d : Dialect) (sql : List Char) : Prop :=
  ∃ kept filler texts, s.tokens d = kept ++ filler ∧ (∀ t ∈ filler, t.IsFiller) ∧
    (∀ t ∈ kept.getLast?, ¬ t.IsFiller) ∧ List.Forall₂ (s.StandsFor d) kept texts ∧
    sql = Text.trimStart texts.flatten ∧ sql ≠ []

/-! ### One pass -/

/-- What is written in place of a token is what stands for it. -/
theorem spliceToken_eq_ok_iff {t : Token} {text : List Char} :
    s.spliceToken d t = .ok text ↔ s.StandsFor d t text := by
  constructor
  · intro spliced
    cases t with
    | placeholder name =>
      simp only [spliceToken] at spliced
      split at spliced
      · next v found => exact .value found spliced
      · simp at spliced
    | _ =>
      obtain rfl := Except.ok.inj spliced
      exact .own rfl
  · rintro (⟨found, rendered⟩ | ⟨fixed⟩)
    · rw [spliceToken, found]
      exact rendered
    · exact spliceToken_of_not_isPlaceholder fixed

/-- A placeholder is always significant, so none is among what is left out. -/
theorem isPlaceholder_eq_false_of_not_isSignificant {t : Token} (h : t.isSignificant = false) :
    t.isPlaceholder = false := by
  cases t with
  | placeholder _ => exact Bool.noConfusion h
  | _ => rfl

/-- A script can be spliced if all of its tokens can be replaced and something is left. -/
theorem splice_eq_ok_iff_pieceText {sql : List Char} :
    s.splice d = .ok sql ↔
      (∀ t ∈ s.tokens d, s.spliceToken d t = .ok (s.pieceText d t)) ∧
        sql = Text.trimStart (s.textOf d (upToLast Token.isSignificant (s.tokens d))) ∧
        sql ≠ [] := by
  constructor
  · intro spliced
    obtain ⟨text, each⟩ := splice_eq spliced
    refine ⟨each, text, fun empty => ?_⟩
    obtain ⟨pieces, -, spliced⟩ := exceptBind_eq_ok_iff.1 spliced
    dsimp only at spliced
    split at spliced
    · cases spliced
    · next nonempty =>
      obtain rfl := Except.ok.inj spliced
      exact nonempty (List.isEmpty_iff.2 empty)
  · rintro ⟨each, rfl, nonempty⟩
    have pieces : s.splicePieces d = .ok ((s.tokens d).map fun t => (t, s.pieceText d t)) :=
      mapM_eq_ok fun t ht => by rw [each t ht]; rfl
    -- Pieces are kept up to the last one that is no filler, and whether one is filler is said by
    -- its token alone.
    have kept : (upToLast (fun piece : Token × List Char => piece.1.isSignificant)
        ((s.tokens d).map fun t => (t, s.pieceText d t))).flatMap (·.2) =
          s.textOf d (upToLast Token.isSignificant (s.tokens d)) := by
      rw [upToLast_map, List.flatMap_map]
      rfl
    rw [splice, pieces]
    simp only [bind, Except.bind, kept, List.isEmpty_iff, nonempty, if_false]

/-- **The text of a script is written in one pass** over its tokens.  What stands in place of a
placeholder is not looked at again. -/
theorem splice_eq_ok_iff {sql : List Char} : s.splice d = .ok sql ↔ s.IsOnePass d sql := by
  rw [splice_eq_ok_iff_pieceText]
  constructor
  · rintro ⟨each, rfl, nonempty⟩
    have whole : upToLast Token.isSignificant (s.tokens d) ++
        (s.tokens d).rtakeWhile (fun t => !t.isSignificant) = s.tokens d := by
      rw [upToLast_eq_rdropWhile, List.rdropWhile_append_rtakeWhile]
    refine ⟨upToLast Token.isSignificant (s.tokens d), _,
      (upToLast Token.isSignificant (s.tokens d)).map (s.pieceText d), whole.symm, ?_, ?_, ?_, ?_,
      nonempty⟩
    · intro t ht
      rw [← Token.isSignificant_eq_false_iff]
      simpa using List.mem_rtakeWhile_imp ht
    · intro t ht filler
      rw [← Token.isSignificant_eq_false_iff, isSignificant_of_getLast?_upToLast ht] at filler
      exact Bool.noConfusion filler
    · rw [List.forall₂_map_right_iff, List.forall₂_same]
      exact fun t ht => spliceToken_eq_ok_iff.1 (each t (whole ▸ List.mem_append_left _ ht))
    · rw [← List.flatMap_def]
      rfl
  · rintro ⟨kept, filler, texts, whole, isFiller, last, stand, rfl, nonempty⟩
    have insignificant : ∀ t ∈ filler, t.isSignificant = false := fun t ht =>
      Token.isSignificant_eq_false_iff.2 (isFiller t ht)
    have cut : upToLast Token.isSignificant (s.tokens d) = kept := by
      rw [whole]
      refine upToLast_append insignificant fun t ht => ?_
      rw [← Bool.not_eq_false, Token.isSignificant_eq_false_iff]
      exact last t ht
    obtain rfl : kept.map (s.pieceText d) = texts := by
      rw [← List.forall₂_eq_eq_eq, List.forall₂_map_left_iff]
      refine stand.imp fun t text stands => ?_
      rw [pieceText, spliceToken_eq_ok_iff.2 stands]
    rw [List.forall₂_map_right_iff, List.forall₂_same] at stand
    refine ⟨fun t ht => ?_, ?_, nonempty⟩
    · rw [whole, List.mem_append] at ht
      rcases ht with ht | ht
      · exact spliceToken_eq_ok_iff.2 (stand t ht)
      -- The filler that is left out has no placeholder, so nothing in it can fail.
      · have fixed := isPlaceholder_eq_false_of_not_isSignificant (insignificant t ht)
        rw [pieceText_of_not_isPlaceholder fixed, spliceToken_of_not_isPlaceholder fixed]
    · rw [cut, textOf, List.flatMap_def]

/-! ### Equal references -/

/-- Scripts of one text that find the same variables under the names in it are spliced
alike. -/
theorem splice_congr (script : s'.script = s.script)
    (same : ∀ name, s.References d name → s'.findVariable? name = s.findVariable? name) :
    s'.splice d = s.splice d := by
  have tokens : s'.tokens d = s.tokens d := by rw [QueryScript.tokens, script]; rfl
  have pieces : s'.splicePieces d = s.splicePieces d := by
    rw [splicePieces, splicePieces, tokens]
    refine mapM_congr fun t ht => ?_
    cases t with
    | placeholder name =>
      have found := same (String.ofList name) (by rwa [References, String.toList_ofList])
      rw [spliceToken, spliceToken, found]
    | _ => rfl
  rw [splice, splice, pieces]

/-- Such scripts are rendered alike in every mode, for every request. -/
theorem render_congr (script : s'.script = s.script)
    (same : ∀ name, s.References d name → s'.findVariable? name = s.findVariable? name)
    (mode : RenderMode) : d.render s' r mode = d.render s r mode := by
  rw [Dialect.render, Dialect.render, Dialect.renderChars, Dialect.renderChars,
    splice_congr script same]

/-- What is rendered is spliced. -/
theorem exists_splice_of_render {mode : RenderMode} {sql : String}
    (rendered : d.render s r mode = .ok sql) : ∃ source, s.splice d = .ok source := by
  cases spliced : s.splice d with
  | ok source => exact ⟨source, rfl⟩
  | error e =>
    rw [Dialect.render_of_splice_error spliced] at rendered
    cases rendered

/-- A script that can be spliced has a variable for each of its references. -/
theorem isSome_findVariable?_of_splice {source : List Char} (spliced : s.splice d = .ok source)
    {name : String} (referenced : s.References d name) : (s.findVariable? name).isSome := by
  have stands := spliceToken_eq_ok_iff.1 ((splice_eq_ok_iff_pieceText.1 spliced).1 _ referenced)
  generalize s.pieceText d (.placeholder name.toList) = text at stands
  cases stands with
  | value found _ =>
    rw [String.ofList_toList] at found
    rw [found, Option.isSome_some]
  | own fixed => exact Bool.noConfusion fixed

/-- **A script depends on its references alone.**  Scripts of one text with the same first
variable for every name in a placeholder have the same texts, and are refused for the same
reason.  What is written is the text of the script's tokens in one pass, so no value is looked
at again; a variable that no placeholder names changes nothing, and neither do variables
behind those of a script that is rendered. -/
theorem render_of_references (d : Dialect) (s : QueryScript) (r : Request) :
    (∀ (s' : QueryScript) mode, s'.script = s.script →
      (∀ name, s.References d name → s'.findVariable? name = s.findVariable? name) →
      d.render s' r mode = d.render s r mode) ∧
    (∀ sql, d.render s r .scriptOnly = .ok sql ↔ s.IsOnePass d sql.toList) ∧
    (∀ before v after mode, s.vars = before ++ v :: after → ¬ s.References d v.name →
      d.render { s with vars := before ++ after } r mode = d.render s r mode) ∧
    (∀ more mode sql, d.render s r mode = .ok sql →
      d.render { s with vars := s.vars ++ more } r mode = .ok sql) := by
  refine ⟨fun s' mode script same => render_congr script same mode, fun sql => ?_, ?_, ?_⟩
  · have script : d.render s r .scriptOnly = (s.splice d).map String.ofList := by
      rw [Dialect.render, Dialect.renderChars]
      cases s.splice d <;> rfl
    rw [script, exceptMap_eq_ok_iff, ← splice_eq_ok_iff]
    constructor
    · rintro ⟨source, spliced, rfl⟩
      rwa [String.toList_ofList]
    · exact fun spliced => ⟨_, spliced, String.ofList_toList⟩
  · intro before v after mode vars unreferenced
    refine render_congr ?_ (fun name referenced => ?_) mode
    · rfl
    have other : (v.name == name) = false :=
      beq_eq_false_iff_ne.2 fun same => unreferenced (same ▸ referenced)
    simp only [findVariable?, vars, List.find?_append, List.find?_cons, other]
  · intro more mode sql rendered
    obtain ⟨source, spliced⟩ := exists_splice_of_render rendered
    rw [← rendered]
    refine render_congr ?_ (fun name referenced => ?_) mode
    · rfl
    -- Every reference of a script that is spliced finds a variable before the new ones.
    have found := isSome_findVariable?_of_splice spliced referenced
    rw [findVariable?] at found ⊢
    rw [List.find?_append, Option.or_of_isSome found, findVariable?]

/-- A value that looks like a placeholder is written as it is, and so is a quoted run. -/
example :
    let a : ScriptVariable := ⟨"a", .fragment, ["$b$"]⟩
    let b : ScriptVariable := ⟨"b", .numeric, ["7"]⟩
    ((QueryScript.mk "" "SELECT $a$, '$b$'" [a, b] none).splice Product.sqlite.dialect).toOption =
      some "SELECT $b$, '$b$'".toList := by
  decide +kernel

end QueryScript
end PagedQuery
