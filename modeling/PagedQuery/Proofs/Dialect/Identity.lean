/-
# Configurations and the identities of their drivers

A configuration is accepted by three rules, and what a driver is resolved to is looked for in its
names.  The two do not ask the same of a driver.  A driver whose identity is not blank is
accepted, and resolved by its names.  One whose identity is blank is accepted if it names a
dialect; and if that name is not blank, it is resolved by it.  But the rule only asks whether a
dialect is named, and the search passes over a blank name: with a blank identity and a blank
dialect a configuration is accepted, and its source has the generic dialect for lack of a name.

This is the only way in which an accepted configuration leaves its source without a name
(`AdapterConfig.accepted_identity_iff`, `AdapterConfig.exists_accepted_nameless`).  The quotes
that are accepted are those that the generic dialect takes whole
(`isQuotedWith_genericDialect_iff`).
-/

import PagedQuery.Adapter
import PagedQuery.Codec.Config
import PagedQuery.Proofs.Action
import PagedQuery.Proofs.Dialect.Order

namespace PagedQuery

/-! ### Drivers without a name -/

namespace DriverInfo

/-- Whether a driver has a name that can be looked up: an identity that is not blank, or a
dialect that is not. -/
def HasName (driver : DriverInfo) : Prop :=
  Text.isAllBlank driver.dbType.toList = false ∨
    ∃ tag ∈ driver.sqlDialect, Text.isAllBlank tag.toList = false

/-- Whether a driver gets the generic dialect although nothing but blanks was looked for and
not found. -/
def LacksIdentity (driver : DriverInfo) : Prop :=
  driver.resolve.source = .fallback ∧
    ∀ w ∈ driver.resolve.warnings, Text.isAllBlank w.requested.toList = true

variable {driver : DriverInfo}

/-- A driver without a name has the generic dialect with its own quotes and paging. -/
theorem finds_fallback_of_not_hasName (nameless : ¬ driver.HasName) :
    driver.Finds .fallback (genericDialect driver) := by
  obtain ⟨blank, unnamed⟩ := not_or.1 nameless
  have blank : Text.isAllBlank driver.dbType.toList = true := eq_true_of_ne_false blank
  refine .fallback ?_ (not_isRegistered_of_isAllBlank blank)
    (Product.ofIdentity?_of_isAllBlank blank)
  rintro ⟨tag, named, solid, -⟩
  exact unnamed ⟨tag, named, solid⟩

/-- A fallback is warned of, behind the dialect that was named and is not registered, if there is
one. -/
theorem warningsOf_fallback (driver : DriverInfo) : driver.warningsOf .fallback =
    (if driver.NamesUnregistered then [.unregistered (driver.sqlDialect.getD "")] else []) ++
      [.unknownIdentity driver.dbType] := by
  rw [warningsOf, if_pos rfl]

/-- **The generic dialect stands in for a name exactly where there is none.**  An identity that is
only unknown gets the generic dialect as well, but has a name to be told in the warning. -/
theorem lacksIdentity_iff : driver.LacksIdentity ↔ ¬ driver.HasName := by
  obtain ⟨source, d, finds⟩ := driver.exists_finds
  rw [LacksIdentity, finds.resolve_eq]
  constructor
  -- A name that led to nothing is told of in a warning, which is blank only if the name is.
  · rintro ⟨rfl, blank⟩ (solid | ⟨tag, named, solid⟩)
    · have asked := blank (.unknownIdentity driver.dbType)
        (by rw [warningsOf_fallback]; exact List.mem_append_right _ List.mem_cons_self)
      exact Bool.false_ne_true (solid.symm.trans asked)
    · have unregistered : ¬ IsRegistered tag := fun registered =>
        ResolutionSource.noConfusion (finds.eq_override_iff.2 ⟨tag, named, solid, registered⟩)
      have asked := blank (.unregistered (driver.sqlDialect.getD "")) (by
        rw [warningsOf_fallback, if_pos ⟨tag, named, solid, unregistered⟩]
        exact List.mem_append_left _ List.mem_cons_self)
      obtain rfl : driver.sqlDialect.getD "" = tag := by rw [Option.mem_def.1 named]; rfl
      exact Bool.false_ne_true (solid.symm.trans asked)
  · intro nameless
    have fallback := finds.resolve_eq.symm.trans (finds_fallback_of_not_hasName nameless).resolve_eq
    obtain rfl : source = .fallback := congrArg Resolution.source fallback
    refine ⟨rfl, ?_⟩
    have silent : ¬ driver.NamesUnregistered := by
      rintro ⟨tag, named, solid, -⟩
      exact nameless (.inr ⟨tag, named, solid⟩)
    rw [warningsOf_fallback, if_neg silent]
    simp only [List.nil_append, List.mem_singleton, forall_eq]
    exact eq_true_of_ne_false (not_or.1 nameless).1

end DriverInfo

/-! ### Quotes that are taken whole -/

/-- Whether a dialect quotes identifiers with a text, of which the first character opens and
the last one closes, and there is no other. -/
def Dialect.IsQuotedWith (d : Dialect) (quotes : List Char) : Prop :=
  quotes = [d.quoteStart] ∧ d.quoteEnd = d.quoteStart ∨ quotes = [d.quoteStart, d.quoteEnd]

/-- The generic dialect opens with the first character of its driver's quote and closes with the
second, or with the first again; what comes behind these is left out. -/
theorem quoteStart_genericDialect {driver : DriverInfo} {opening : Char} {others : List Char}
    (given : driver.identifierQuote.map String.toList = some (opening :: others)) :
    (genericDialect driver).quoteStart = opening ∧
      (genericDialect driver).quoteEnd = others.head?.getD opening := by
  simp only [genericDialect, given]
  cases others with
  | nil => split <;> exact ⟨rfl, rfl⟩
  | cons closing rest => split <;> exact ⟨rfl, rfl⟩

/-- The generic dialect takes one or two characters whole, and nothing else. -/
theorem isQuotedWith_genericDialect_iff {driver : DriverInfo} {quote : String}
    (given : driver.identifierQuote = some quote) :
    (genericDialect driver).IsQuotedWith quote.toList ↔ AdapterConfig.isQuote quote = true := by
  have chars : driver.identifierQuote.map String.toList = some quote.toList := by rw [given]; rfl
  rw [AdapterConfig.isQuote, ← String.length_toList, Bool.or_eq_true, beq_iff_eq, beq_iff_eq]
  constructor
  · rintro (⟨one, -⟩ | two)
    · exact .inl (congrArg List.length one)
    · exact .inr (congrArg List.length two)
  · rintro (one | two)
    · obtain ⟨both, single⟩ := List.length_eq_one_iff.1 one
      obtain ⟨opens, closes⟩ := quoteStart_genericDialect (chars.trans (congrArg some single))
      exact .inl ⟨by rw [single, opens], closes.trans opens.symm⟩
    · obtain ⟨opening, closing, pair⟩ := List.length_eq_two.1 two
      obtain ⟨opens, closes⟩ := quoteStart_genericDialect (chars.trans (congrArg some pair))
      exact .inr (by rw [pair, opens, closes]; rfl)

/-! ### Accepted configurations -/

namespace AdapterConfig

/-- The ways in which a configuration is accepted: it is checked, it is read from a text, or
an adapter is made with it. -/
inductive IsAccepted (c : AdapterConfig) : Prop
  | checked (h : c.validate = .ok ())
  | read {text : String} (h : ofText text = .ok c)
  | adapted {σ : Type} {source : Source σ} {aggregator : Option (Aggregator σ)} {a : Adapter σ}
      (h : Adapter.ofConfig c source aggregator = .ok a)

variable {c : AdapterConfig}

/-- The three rules.  They are tried in this order, but all of them have to hold, so the order
matters to the failure alone. -/
theorem validate_eq_ok_iff : c.validate = .ok () ↔
    (Text.isAllBlank c.driver.dbType.toList = false ∨ c.driver.sqlDialect.isSome = true) ∧
      c.maxFetchSize ≠ 0 ∧ ∀ quote ∈ c.driver.identifierQuote, isQuote quote = true := by
  unfold validate
  by_cases unnamed : Text.isAllBlank c.driver.dbType.toList && c.driver.sqlDialect.isNone
  · rw [if_pos unnamed]
    have refused : ¬ (Text.isAllBlank c.driver.dbType.toList = false ∨
        c.driver.sqlDialect.isSome = true) := by
      simpa [Option.isSome_eq_false_iff] using unnamed
    exact iff_of_false (fun h => nomatch h) fun rules => refused rules.1
  -- From here on the first rule holds.
  · have named : Text.isAllBlank c.driver.dbType.toList = false ∨
        c.driver.sqlDialect.isSome = true := by
      rwa [Bool.and_eq_true, not_and_or, Bool.not_eq_true, Option.isNone_iff_eq_none,
        ← ne_eq, ← Option.isSome_iff_ne_none] at unnamed
    rw [if_neg unnamed, and_iff_right named]
    by_cases unfetched : c.maxFetchSize = 0
    · rw [if_pos unfetched]
      exact iff_of_false (fun h => nomatch h) fun rules => rules.1 unfetched
    · rw [if_neg unfetched, and_iff_right unfetched]
      cases c.driver.identifierQuote with
      | none => simp [pure, Except.pure]
      | some quote =>
        cases fits : isQuote quote with
        | true => simp [fits, pure, Except.pure]
        | false => simp [fits]

/-- A configuration that is read from a text was checked while it was read. -/
theorem validate_of_ofText {text : String} (h : ofText text = .ok c) : c.validate = .ok () := by
  unfold ofText at h
  split at h
  · cases h
  · obtain ⟨⟨⟩, checked, same⟩ := exceptBind_eq_ok_iff.1 h
    obtain rfl := Except.ok.inj same
    exact checked

/-- However a configuration is accepted, the same rules are checked. -/
theorem isAccepted_iff : c.IsAccepted ↔ c.validate = .ok () := by
  constructor
  · rintro (checked | read | adapted)
    · exact checked
    · exact validate_of_ofText read
    · obtain ⟨⟨⟩, checked, -⟩ := exceptBind_eq_ok_iff.1 adapted
      exact checked
  · exact .checked

/-- **An accepted configuration lacks an identity only behind a blank dialect.**  A configuration
is accepted if its driver has an identity that is not blank or names any dialect, rows are
fetched, and the generic dialect takes the quotes whole.  The driver then gets the generic
dialect for lack of an identity exactly where the identity and the dialect are both blank. -/
theorem accepted_identity_iff (c : AdapterConfig) :
    (c.IsAccepted ↔
      (Text.isAllBlank c.driver.dbType.toList = false ∨ c.driver.sqlDialect.isSome = true) ∧
        c.maxFetchSize ≠ 0 ∧
        ∀ quote ∈ c.driver.identifierQuote, (genericDialect c.driver).IsQuotedWith quote.toList) ∧
    (c.IsAccepted → (c.driver.LacksIdentity ↔ Text.isAllBlank c.driver.dbType.toList = true ∧
      ∃ tag ∈ c.driver.sqlDialect, Text.isAllBlank tag.toList = true)) := by
  have rules := isAccepted_iff.trans (validate_eq_ok_iff (c := c))
  refine ⟨?rules, fun accepted => ?identity⟩
  case rules =>
    -- Quotes that the check takes are those that the generic dialect takes whole.
    rw [rules]
    refine and_congr_right' (and_congr_right' (forall₂_congr fun quote present => ?_))
    exact (isQuotedWith_genericDialect_iff present).symm
  case identity =>
    have named := (rules.1 accepted).1
    rw [DriverInfo.lacksIdentity_iff]
    constructor
    -- No identity to find the dialect by means that it is blank; then the first rule leaves a
    -- dialect that is named, and it must be blank as well.
    · intro nameless
      obtain ⟨blank, unnamed⟩ := not_or.1 nameless
      have blank : Text.isAllBlank c.driver.dbType.toList = true := eq_true_of_ne_false blank
      obtain ⟨tag, present⟩ := Option.isSome_iff_exists.1
        (named.resolve_left fun solid => Bool.false_ne_true (solid.symm.trans blank))
      exact ⟨blank, tag, present, eq_true_of_ne_false fun solid => unnamed ⟨tag, present, solid⟩⟩
    · rintro ⟨blank, tag, present, blankTag⟩ (solid | ⟨other, named, solid⟩)
      · exact Bool.false_ne_true (solid.symm.trans blank)
      · obtain rfl := Option.some.inj (present.symm.trans named)
        exact Bool.false_ne_true (solid.symm.trans blankTag)

/-- A driver that is not known and names a blank dialect has an identity, and the generic
dialect takes both of its quotes. -/
theorem accepted_identity_iff_acme :
    let c := ofDriver ⟨"acme", some " ", some "[]", true⟩
    c.IsAccepted ∧ ¬ c.driver.LacksIdentity ∧ (genericDialect c.driver).IsQuotedWith ['[', ']'] := by
  intro c
  obtain ⟨rules, identity⟩ := accepted_identity_iff c
  have accepted : c.IsAccepted := .checked (ok_of_toOption (by decide +kernel))
  refine ⟨accepted, fun lacks => ?_, (rules.1 accepted).2.2 "[]" rfl⟩
  exact absurd ((identity accepted).1 lacks).1 (by decide)

/-- A configuration without an identity is accepted behind a blank dialect, and nothing is left
to look for. -/
theorem exists_accepted_nameless :
    let c := ofDriver ⟨"", some " ", none, false⟩
    c.IsAccepted ∧ ¬ c.driver.HasName ∧ c.driver.LacksIdentity ∧
      c.driver.resolve = ⟨Product.generic.dialect, .fallback, [.unknownIdentity ""]⟩ := by
  intro c
  have nameless : ¬ c.driver.HasName := by
    rintro (solid | ⟨tag, named, solid⟩)
    · exact absurd solid (by decide)
    · obtain rfl := Option.some.inj named
      exact absurd solid (by decide)
  exact ⟨.checked (ok_of_toOption (by decide +kernel)), nameless,
    DriverInfo.lacksIdentity_iff.2 nameless, by decide +kernel⟩

end AdapterConfig

end PagedQuery
