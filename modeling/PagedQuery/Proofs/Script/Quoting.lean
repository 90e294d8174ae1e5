/-
# Quoted texts in a script

A dialect writes a string in single quotes and an identifier in quotes of its own, with the quotes
inside written twice.  Tokens know three quotes, whatever the dialect.  So a string is the first
token of a text that starts with it, unless its closing quote follows (`quoteString_delimited`),
and so is an identifier in double quotes or in backquotes (`quoteIdentifier_delimited_iff`).  An
identifier in brackets is not: its first token is the bracket alone.

A string ends where it was meant to end, and it is read as the value it was written for
(`readBody?_eq_some_iff`), so no value can leave its quotes.  An identifier that is one token is
copied into a query as it stands.  In brackets it is read like the rest of the script: a `$name$`
in it is a placeholder, a quote in it opens a run (`bracketed_placeholder_filled`).
-/

import PagedQuery.Dialect.Registry
import PagedQuery.Proofs.Script.Seam

namespace PagedQuery

namespace Token

variable {escapes : Bool} {t : Token} {rest : List Char}

/-- The first token of a text and what follows it, if there is a text.  It is one step of cutting a
script into tokens. -/
def first? (escapes : Bool) : List Char → Option (Token × List Char)
  | [] => none
  | c :: cs => some (next escapes c cs)

/-- A token is cut off if it is the first one and leaves what follows it. -/
theorem isCut_iff_first? :
    t.IsCut escapes rest ↔ first? escapes (t.text ++ rest) = some (t, rest) := by
  cases whole : t.text ++ rest with
  | nil => simp [IsCut, whole, tokens, first?]
  | cons c cs => rw [isCut_iff_next whole, first?, Option.some.injEq]

/-- A quoted run that is closed takes in its own quote and nothing else. -/
theorem IsLiteral.isCut_quoted_iff {quote : Char} {run : List Char}
    (h : (Token.quoted (quote :: run)).IsLiteral escapes) :
    (Token.quoted (quote :: run)).IsCut escapes rest ↔ rest.head? ≠ some quote := by
  rw [h.isCut_iff]
  cases rest with
  | nil => simp [takesIn]
  | cons c cs =>
    rw [takesIn, List.head?_cons, List.head?_cons, Option.any_some, beq_eq_false_iff_ne]
    exact not_congr eq_comm

end Token

/-! ### Strings -/

namespace Dialect

variable {d : Dialect} {value body : List Char}

/-- Reads what stands between the quotes of a string, from left to right: a quote written
twice is one quote and, where backslashes escape, a backslash written twice is one
backslash.  Neither of them may stand alone. -/
def readBody? (escapes : Bool) : List Char → Option (List Char)
  | [] => some []
  | c :: cs =>
    if c = '\'' ∨ escapes = true ∧ c = '\\' then
      match cs with
      | [] => none
      | e :: es => if e = c then (readBody? escapes es).map (c :: ·) else none
    else (readBody? escapes cs).map (c :: ·)

/-- A character that is not doubled is read as itself. -/
theorem readBody?_cons {escapes : Bool} {c : Char}
    (once : ¬ (c = '\'' ∨ escapes = true ∧ c = '\\')) (cs : List Char) :
    readBody? escapes (c :: cs) = (readBody? escapes cs).map (c :: ·) := by
  cases cs <;> simp [readBody?, once]

/-- A string doubles the characters that its reader wants twice, and no others. -/
theorem doublesInString_iff (d : Dialect) (c : Char) :
    d.doublesInString c = true ↔ c = '\'' ∨ d.backslashEscapes = true ∧ c = '\\' := by
  simp [doublesInString]

/-- Characters are doubled one by one. -/
theorem doubling_cons (isDoubled : Char → Bool) (c : Char) (cs : List Char) :
    doubling isDoubled (c :: cs) =
      (if isDoubled c then [c, c] else [c]) ++ doubling isDoubled cs :=
  rfl

/-- The body of a string is read as the value it was written for, and as that one alone.  Reading
takes two characters for one exactly where writing puts two for one, so one direction follows the
reader and the other one the value. -/
theorem readBody?_eq_some_iff :
    readBody? d.backslashEscapes body = some value ↔ body = doubling d.doublesInString value := by
  constructor
  · intro h
    fun_induction readBody? d.backslashEscapes body generalizing value with
    | case1 =>
      obtain rfl := Option.some.inj h
      rfl
    | case2 c twice => simp at h
    | case3 c es twice ih =>
      obtain ⟨others, read, rfl⟩ := Option.map_eq_some_iff.1 h
      rw [doubling_cons, if_pos ((d.doublesInString_iff c).2 twice), ih read]
      rfl
    | case4 c twice e es ne => simp at h
    | case5 c cs once ih =>
      obtain ⟨others, read, rfl⟩ := Option.map_eq_some_iff.1 h
      rw [doubling_cons, if_neg (mt (d.doublesInString_iff c).1 once), ih read]
      rfl
  · rintro rfl
    induction value with
    | nil => rfl
    | cons c cs ih =>
      rw [doubling_cons]
      by_cases twice : c = '\'' ∨ d.backslashEscapes = true ∧ c = '\\'
      · rw [if_pos ((d.doublesInString_iff c).2 twice)]
        simp [readBody?, twice, ih]
      · rw [if_neg (mt (d.doublesInString_iff c).1 twice), List.singleton_append,
          readBody?_cons twice, ih]
        rfl

/-- Different values have different strings. -/
theorem quoteString_injective (d : Dialect) : Function.Injective d.quoteString := by
  intro v w same
  have bodies : doubling d.doublesInString v = doubling d.doublesInString w :=
    List.append_cancel_right (List.cons.inj same).2
  have read : readBody? d.backslashEscapes (doubling d.doublesInString v) = some w :=
    readBody?_eq_some_iff.2 bodies
  rw [readBody?_eq_some_iff.2 rfl] at read
  exact Option.some.inj read

/-- **A string ends where it was meant to end.**  Whatever quotes and backslashes a value has,
its string is the first token of every text that starts with it and does not go on with a
single quote, and what follows is cut into tokens on its own.  Its body is read as the value,
and no other value has this string. -/
theorem quoteString_delimited (d : Dialect) (value rest : List Char) :
    (Token.first? d.backslashEscapes (d.quoteString value ++ rest) =
        some (.quoted (d.quoteString value), rest) ↔ rest.head? ≠ some '\'') ∧
    (Token.tokens d.backslashEscapes (d.quoteString value ++ rest) =
        .quoted (d.quoteString value) :: Token.tokens d.backslashEscapes rest ↔
      rest.head? ≠ some '\'') ∧
    (∃ body, d.quoteString value = '\'' :: (body ++ ['\'']) ∧
      readBody? d.backslashEscapes body = some value) ∧
    ∀ other, d.quoteString other = d.quoteString value → other = value := by
  have cut : (Token.quoted (d.quoteString value)).IsCut d.backslashEscapes rest ↔
      rest.head? ≠ some '\'' := (d.isLiteral_quoteString value).isCut_quoted_iff
  refine ⟨Token.isCut_iff_first?.symm.trans cut, cut, ?_, fun other same => ?_⟩
  · exact ⟨doubling d.doublesInString value, rfl, readBody?_eq_some_iff.2 rfl⟩
  · exact d.quoteString_injective same

/-- A value that ends with a backslash stays in its string, because the backslash is written
twice where it escapes. -/
example :
    let d := Product.mySql.dialect
    d.quoteString ['a', '\\'] = "'a\\\\'".toList ∧
      Token.first? d.backslashEscapes "'a\\\\' OR 1".toList =
        some (.quoted "'a\\\\'".toList, " OR 1".toList) := by
  decide +kernel

end Dialect

/-! ### Identifiers -/

namespace Dialect

/-- Whether a dialect is that of its product but for its name and the letter case.  There
is no such rule for the generic product. -/
def IsOfProduct (d : Dialect) : Prop :=
  d.product = .generic ∨ d = { d.product.dialect with name := d.name, casing := d.casing }

/-- The letter case is not part of what a product prescribes. -/
theorem IsOfProduct.withCasing {d : Dialect} (h : d.IsOfProduct) (casing : Casing) :
    { d with casing := casing }.IsOfProduct := by
  rcases h with generic | known
  · exact .inl generic
  · exact .inr (congrArg (fun e : Dialect => { e with casing := casing }) known)

/-- The quotes of every product but SQL Server are quotes that tokens know. -/
theorem IsOfProduct.quotes {d : Dialect} (h : d.IsOfProduct) (known : d.product ≠ .generic)
    (other : d.product ≠ .msSql) :
    d.quoteEnd = d.quoteStart ∧ (d.quoteStart = '"' ∨ d.quoteStart = '\x60') := by
  have same := h.resolve_left known
  rw [same]
  show d.product.dialect.quoteEnd = d.product.dialect.quoteStart ∧
    (d.product.dialect.quoteStart = '"' ∨ d.product.dialect.quoteStart = '\x60')
  cases product : d.product with
  | msSql => exact absurd product other
  | _ => decide

/-- SQL Server's identifiers start with a bracket. -/
theorem IsOfProduct.quoteStart_of_msSql {d : Dialect} (h : d.IsOfProduct)
    (msSql : d.product = .msSql) : d.quoteStart = '[' := by
  rcases h with generic | same
  · rw [msSql] at generic
    exact Product.noConfusion generic
  · rw [same, msSql]
    rfl

end Dialect

/-- The dialect of a product is one of it. -/
theorem Product.isOfProduct_dialect (p : Product) : p.dialect.IsOfProduct := by
  cases p <;> exact .inr rfl

/-- The dialect made up for an unknown driver is of no known product, whatever quote it takes from
the driver. -/
theorem product_genericDialect (driver : DriverInfo) :
    (genericDialect driver).product = .generic := by
  simp only [genericDialect]
  split <;> split <;> rfl

/-- The dialects of all registered tags are those of their products. -/
theorem isOfProduct_of_lookupDialect? {tag : String} {driver : DriverInfo} {d : Dialect}
    (h : lookupDialect? tag driver = some d) : d.IsOfProduct := by
  obtain ⟨make, found, rfl⟩ := Option.map_eq_some_iff.1 h
  obtain ⟨before, after, split, -⟩ := List.lookup_eq_some_iff.1 found
  have all : ∀ entry ∈ registry, (entry.2 driver).IsOfProduct := by
    simp only [registry, List.forall_mem_cons]
    refine ⟨?_, ?_, .inl (product_genericDialect driver), ?_, ?_, ?_, ?_, ?_, ?_, ?_, ?_, ?_, ?_, ?_⟩
    all_goals first | exact .inr rfl | exact fun _ mem => absurd mem List.not_mem_nil
  have mem : (String.ofList (normalizeIdentity tag.toList), make) ∈ registry := by
    rw [split]
    exact List.mem_append_right _ (List.mem_cons_self ..)
  exact all _ mem

namespace DriverInfo

/-- The dialect of a driver is that of its product. -/
theorem isOfProduct_resolve (driver : DriverInfo) : driver.resolve.dialect.IsOfProduct := by
  -- By the identity, whatever warnings have been collected.
  have identity : ∀ warnings, (driver.resolveIdentity warnings).dialect.IsOfProduct := by
    intro warnings
    unfold resolveIdentity
    split
    · next d source found =>
      refine Dialect.IsOfProduct.withCasing ?_ .unchanged
      unfold identified? at found
      split at found
      · next known =>
        obtain ⟨rfl, -⟩ := Prod.mk.inj (Option.some.inj found)
        exact isOfProduct_of_lookupDialect? known
      · obtain ⟨p, -, same⟩ := Option.map_eq_some_iff.1 found
        obtain ⟨rfl, -⟩ := Prod.mk.inj same
        exact p.isOfProduct_dialect
    · exact .inl (product_genericDialect driver)
  unfold resolve
  split
  · exact identity []
  · next tag _ =>
    split
    · next d known => exact (isOfProduct_of_lookupDialect? known).withCasing .unchanged
    · exact identity [.unregistered tag]

/-- **An identifier is one token** in the dialect of every product that is known, except SQL
Server.  There the opening bracket is a token of its own, and what is inside the brackets is
cut into tokens like the rest of the script.  Everywhere else, wherever a token of a script
starts with an identifier that its closing quote does not follow, that token is the
identifier, and it is copied as it stands. -/
theorem quoteIdentifier_delimited_iff (driver : DriverInfo)
    (known : driver.resolve.dialect.product ≠ .generic) (identifier rest : List Char) :
    let d := driver.resolve.dialect
    let quoted := d.quoteIdentifier identifier
    (Token.first? d.backslashEscapes (quoted ++ rest) = some (.quoted quoted, rest) ↔
      d.product ≠ .msSql ∧ rest.head? ≠ some d.quoteEnd) ∧
    (d.product = .msSql → Token.tokens d.backslashEscapes (quoted ++ rest) =
      .plain '[' :: Token.tokens d.backslashEscapes (quoted.tail ++ rest)) ∧
    (d.product ≠ .msSql → rest.head? ≠ some d.quoteEnd →
      ∀ (s : QueryScript) (ts us : List Token), s.tokens d = ts ++ us →
        us.flatMap Token.text = quoted ++ rest →
        us = .quoted quoted :: Token.tokens d.backslashEscapes rest ∧
          s.spliceToken d (.quoted quoted) = .ok quoted) := by
  intro d quoted
  have ofProduct : d.IsOfProduct := driver.isOfProduct_resolve
  -- The quotes of every known product but this one are quotes to a script too.
  have cut : d.product ≠ .msSql →
      ((Token.quoted quoted).IsCut d.backslashEscapes rest ↔ rest.head? ≠ some d.quoteEnd) := by
    intro other
    have quotes := ofProduct.quotes known other
    rw [quotes.1]
    exact (d.isLiteral_quoteIdentifier quotes identifier).isCut_quoted_iff
  have brackets : d.product = .msSql →
      quoted ++ rest = '[' :: (quoted.tail ++ rest) := by
    intro msSql
    have opening : d.quoteStart = '[' := ofProduct.quoteStart_of_msSql msSql
    show d.quoteStart :: _ = _
    rw [opening]
    rfl
  refine ⟨?_, fun msSql => ?_, fun other apart s ts us split whole => ?_⟩
  · by_cases msSql : d.product = .msSql
    · rw [brackets msSql]
      simp [Token.first?, Token.next, msSql]
    · rw [← cut msSql]
      have first : (Token.quoted quoted).IsCut d.backslashEscapes rest ↔
          Token.first? d.backslashEscapes (quoted ++ rest) = some (.quoted quoted, rest) :=
        Token.isCut_iff_first?
      simpa [msSql] using first.symm
  · rw [brackets msSql, Token.tokens_cons]
    rfl
  -- The tokens from the identifier on are what the text from there on is cut into by itself.
  · have own : Token.tokens d.backslashEscapes ((ts ++ us).flatMap Token.text) = ts ++ us := by
      rw [← split, QueryScript.tokens, Token.flatMap_text_tokens]
    have tokens : Token.tokens d.backslashEscapes (us.flatMap Token.text) = us :=
      Token.tokens_flatMap_of_append own
    rw [whole] at tokens
    exact ⟨tokens.symm.trans ((cut other).2 apart), rfl⟩

/-- The hypotheses are satisfiable: in backquotes a placeholder, a quote and the start of a
comment are part of the identifier. -/
theorem quoteIdentifier_delimited_backquotes :
    let d := (DriverInfo.ofIdentity "mysql").resolve.dialect
    d.product ≠ .generic ∧
      Token.first? d.backslashEscapes "\x60$n$\x60\x60'--\x60 FROM t".toList =
        some (.quoted (d.quoteIdentifier "$n$\x60'--".toList), " FROM t".toList) := by
  have known : (DriverInfo.ofIdentity "mysql").resolve.dialect.product ≠ .generic := by
    decide +kernel
  refine ⟨known, ?_⟩
  have first := (quoteIdentifier_delimited_iff (.ofIdentity "mysql") known
    "$n$\x60'--".toList " FROM t".toList).1
  exact first.2 ⟨by decide +kernel, by decide +kernel⟩

/-- In brackets a placeholder is filled like anywhere else in the script. -/
theorem bracketed_placeholder_filled :
    let d := (DriverInfo.ofIdentity "mssql").resolve.dialect
    let s := (QueryScript.ofText "SELECT [$n$] FROM t").addVariable ⟨"n", .numeric, ["7"]⟩
    d.product ≠ .generic ∧ d.quoteIdentifier "$n$".toList = "[$n$]".toList ∧
      " FROM t".toList.head? ≠ some d.quoteEnd ∧
      Token.first? d.backslashEscapes "[$n$] FROM t".toList ≠
        some (.quoted "[$n$]".toList, " FROM t".toList) ∧
      (d.render s (.ofPage .first) .scriptOnly).toOption = some "SELECT [7] FROM t" := by
  decide +kernel

end DriverInfo

end PagedQuery
