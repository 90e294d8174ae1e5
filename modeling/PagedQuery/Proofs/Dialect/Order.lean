/-
# The order a dialect is looked for in

`DriverInfo.Finds` says where the dialect of a driver is found, as a relation beside the function
that finds it.  A dialect that the driver names comes first, if it is registered.  Else it is the
dialect that is registered under the driver's identity, or that of the product of which the
identity is an alias, or the generic one if there is none of these.

Every driver finds exactly one dialect (`DriverInfo.exists_finds`), and it is what the driver is
resolved to (`DriverInfo.Finds.resolve_eq`).  Names count in their normal form alone, and the
quotes and the paging of a driver for the generic dialect alone, because the registered dialects
are constants but for that one (`lookupDialect?_cases`).  The tags and the aliases are two tables;
they agree where both know an identity (`dialect_eq_of_lookupDialect?`).  `resolve_in_order` puts
this together.
-/

import Mathlib.Data.List.Basic
import PagedQuery.Proofs.Dialect.Sharing
import PagedQuery.Proofs.Script.Quoting

namespace PagedQuery

/-- Whether a tag is registered, however it is written: letter case, blanks, hyphens and underscores
do not count. -/
def IsRegistered (tag : String) : Prop :=
  String.ofList (normalizeIdentity tag.toList) ∈ registeredTags

instance (tag : String) : Decidable (IsRegistered tag) :=
  inferInstanceAs (Decidable (_ ∈ registeredTags))

namespace DriverInfo

/-- Whether a driver names a dialect that is registered.  A blank name is no name. -/
def NamesRegistered (driver : DriverInfo) : Prop :=
  ∃ tag ∈ driver.sqlDialect, Text.isAllBlank tag.toList = false ∧ IsRegistered tag

/-- Whether a driver names a dialect that is not registered.  This is not the opposite of naming a
registered one, since a driver may name none. -/
def NamesUnregistered (driver : DriverInfo) : Prop :=
  ∃ tag ∈ driver.sqlDialect, Text.isAllBlank tag.toList = false ∧ ¬ IsRegistered tag

instance (driver : DriverInfo) : Decidable driver.NamesUnregistered :=
  inferInstanceAs (Decidable (∃ tag ∈ driver.sqlDialect, _))

/-- The normal form of the dialect a driver names, empty if it names none. -/
def overrideForm (driver : DriverInfo) : List Char :=
  normalizeIdentity (driver.sqlDialect.getD "").toList

/-- Where the dialect of a driver is found.  Each constructor says what was looked for before in
vain, so at most one of them applies. -/
inductive Finds (driver : DriverInfo) : ResolutionSource → Dialect → Prop
  | override {tag : String} {d : Dialect} (named : driver.sqlDialect = some tag)
      (known : lookupDialect? tag driver = some d) : Finds driver .override d
  | registry {d : Dialect} (unnamed : ¬ driver.NamesRegistered)
      (known : lookupDialect? driver.dbType driver = some d) : Finds driver .registry d
  | product {p : Product} (unnamed : ¬ driver.NamesRegistered)
      (unregistered : ¬ IsRegistered driver.dbType)
      (known : Product.ofIdentity? driver.dbType = some p) : Finds driver .product p.dialect
  | fallback (unnamed : ¬ driver.NamesRegistered) (unregistered : ¬ IsRegistered driver.dbType)
      (unknown : Product.ofIdentity? driver.dbType = none) :
      Finds driver .fallback (genericDialect driver)

end DriverInfo

/-! ### The registered dialects -/

/-- A dialect is found under a tag exactly if the tag is registered; the driver decides what it is,
and not whether there is one. -/
theorem isSome_lookupDialect?_iff {tag : String} (driver : DriverInfo) :
    (lookupDialect? tag driver).isSome ↔ IsRegistered tag := by
  rw [lookupDialect?, Option.isSome_map, Option.isSome_iff_ne_none, ne_eq,
    List.lookup_eq_none_iff, IsRegistered, registeredTags, List.mem_map]
  simp only [bne_iff_ne, ne_eq, not_forall, not_not]
  constructor
  · rintro ⟨entry, mem, same⟩
    exact ⟨entry, mem, same.symm⟩
  · rintro ⟨entry, mem, same⟩
    exact ⟨entry, mem, same.symm⟩

/-- The same, said of a tag that is not registered. -/
theorem lookupDialect?_eq_none_iff {tag : String} {driver : DriverInfo} :
    lookupDialect? tag driver = none ↔ ¬ IsRegistered tag := by
  rw [← isSome_lookupDialect?_iff driver, Option.not_isSome_iff_eq_none]

/-- Nothing is left of a blank name in its normal form. -/
theorem normalizeIdentity_of_isAllBlank {identity : List Char}
    (h : Text.isAllBlank identity = true) : normalizeIdentity identity = [] := by
  rw [normalizeIdentity, List.filter_eq_nil_iff.2, List.flatMap_nil]
  intro c hc
  simp [List.all_eq_true.1 h c hc]

/-- A name of blanks alone is not registered. -/
theorem not_isRegistered_of_isAllBlank {tag : String} (h : Text.isAllBlank tag.toList = true) :
    ¬ IsRegistered tag := by
  rw [IsRegistered, normalizeIdentity_of_isAllBlank h]
  decide

/-- No product goes by blanks alone. -/
theorem Product.ofIdentity?_of_isAllBlank {identity : String}
    (h : Text.isAllBlank identity.toList = true) : Product.ofIdentity? identity = none := by
  rw [Product.ofIdentity?, normalizeIdentity_of_isAllBlank h]
  decide

/-- A registered tag is not blank. -/
theorem isAllBlank_eq_false_of_isRegistered {tag : String} (h : IsRegistered tag) :
    Text.isAllBlank tag.toList = false :=
  Bool.eq_false_iff.2 fun blank => not_isRegistered_of_isAllBlank blank h

/-- What is registered under a tag is the generic dialect of the driver, or a dialect of a
known product that does not depend on the driver. -/
theorem lookupDialect?_cases (tag : String) :
    (∀ driver, lookupDialect? tag driver = none) ∨
    (∀ driver, lookupDialect? tag driver = some (genericDialect driver)) ∨
    ∃ d, d.product ≠ .generic ∧ ∀ driver, lookupDialect? tag driver = some d := by
  -- Of the tags only the third, `generic`, looks at the driver.
  have all : ∀ entry ∈ registry, entry.2 = genericDialect ∨
      ∃ d : Dialect, d.product ≠ .generic ∧ entry.2 = fun _ => d := by
    simp only [registry, List.forall_mem_cons]
    refine ⟨?_, ?_, .inl trivial, ?_, ?_, ?_, ?_, ?_, ?_, ?_, ?_, ?_, ?_, ?_⟩
    all_goals first
      | exact .inr ⟨_, by decide, rfl⟩
      | exact fun _ mem => absurd mem List.not_mem_nil
  simp only [lookupDialect?]
  cases found : registry.lookup (String.ofList (normalizeIdentity tag.toList)) with
  | none => exact .inl fun _ => rfl
  | some make =>
    rcases all _ (Resolver.mem_of_lookup found) with same | ⟨d, known, same⟩
    · obtain rfl : make = genericDialect := same
      exact .inr (.inl fun _ => rfl)
    · obtain rfl : make = fun _ => d := same
      exact .inr (.inr ⟨d, known, fun _ => rfl⟩)

/-- A dialect of a known product is registered for every driver. -/
theorem lookupDialect?_of_not_generic {tag : String} {driver : DriverInfo} {d : Dialect}
    (found : lookupDialect? tag driver = some d) (known : d.product ≠ .generic)
    (driver' : DriverInfo) : lookupDialect? tag driver' = some d := by
  rcases lookupDialect?_cases tag with none | other | ⟨e, -, same⟩
  · rw [none] at found
    cases found
  · obtain rfl := Option.some.inj ((other driver).symm.trans found)
    exact absurd (product_genericDialect driver) known
  · rw [same, ← same driver, found]

/-- Only one dialect is registered for the generic product, and it is made for the driver that
asks. -/
theorem eq_genericDialect_of_lookupDialect? {tag : String} {driver : DriverInfo} {d : Dialect}
    (found : lookupDialect? tag driver = some d) (generic : d.product = .generic) :
    d = genericDialect driver := by
  rcases lookupDialect?_cases tag with none | other | ⟨e, known, same⟩
  · rw [none] at found
    cases found
  · exact Option.some.inj (found.symm.trans (other driver))
  · obtain rfl := Option.some.inj ((same driver).symm.trans found)
    exact absurd generic known

/-- Tags with one normal form have one dialect registered, for drivers with one generic
dialect. -/
theorem lookupDialect?_congr {tag tag' : String} {driver driver' : DriverInfo}
    (form : normalizeIdentity tag'.toList = normalizeIdentity tag.toList)
    (generic : genericDialect driver' = genericDialect driver) :
    lookupDialect? tag' driver' = lookupDialect? tag driver := by
  have same : lookupDialect? tag' driver' = lookupDialect? tag driver' := by
    rw [lookupDialect?, lookupDialect?, form]
  rw [same]
  rcases lookupDialect?_cases tag with none | other | ⟨d, -, known⟩
  · rw [none, none]
  · rw [other, other, generic]
  · rw [known, known]

/-- The dialect of a product says which product it is of. -/
theorem Product.product_dialect (p : Product) : p.dialect.product = p := by
  cases p <;> rfl

/-- The generic product goes by no identity. -/
theorem Product.ne_generic_of_ofIdentity? {identity : String} {p : Product}
    (h : Product.ofIdentity? identity = some p) : p ≠ .generic := by
  rintro rfl
  exact absurd (List.find?_some h) (by simp [Product.identities])

/-- The generic dialect has pages if its driver is said to have them. -/
theorem supportsPaging_genericDialect (driver : DriverInfo) :
    (genericDialect driver).supportsPaging = driver.supportsPaging := by
  simp only [genericDialect]
  split
  · next paged =>
    rw [paged]
    rfl
  · next unpaged =>
    rw [Bool.eq_false_iff.2 unpaged]
    split <;> rfl

/-- A generic dialect depends on the quotes and the paging of its driver alone. -/
theorem genericDialect_congr {driver driver' : DriverInfo}
    (quotes : driver'.identifierQuote = driver.identifierQuote)
    (paging : driver'.supportsPaging = driver.supportsPaging) :
    genericDialect driver' = genericDialect driver := by
  rw [genericDialect, genericDialect, quotes, paging]

/-- **The tags and the aliases agree**: an identity that both know has one dialect, but for
the name it is registered under. -/
theorem dialect_eq_of_lookupDialect? {identity : String} {driver : DriverInfo} {d : Dialect}
    {p : Product} (registered : lookupDialect? identity driver = some d)
    (known : Product.ofIdentity? identity = some p) :
    { d with name := p.dialect.name } = p.dialect := by
  -- A tag is either no alias of the product at all, or registered with its dialect.
  have all : ∀ entry ∈ registry, entry.1 ∈ p.identities →
      { entry.2 driver with name := p.dialect.name } = p.dialect := by
    simp only [registry, List.forall_mem_cons]
    refine ⟨?_, ?_, ?_, ?_, ?_, ?_, ?_, ?_, ?_, ?_, ?_, ?_, ?_, ?_⟩
    all_goals cases p
    all_goals first
      | exact fun _ => rfl
      | exact fun mem => absurd mem (by decide)
      | exact fun _ mem => absurd mem List.not_mem_nil
  obtain ⟨make, found, rfl⟩ := Option.map_eq_some_iff.1 registered
  refine all _ (Resolver.mem_of_lookup found) ?_
  simpa using List.find?_some known

namespace DriverInfo

variable {driver driver' : DriverInfo} {source : ResolutionSource} {d : Dialect}

/-! ### Where a dialect is found -/

/-- A driver names a dialect if its name for it is not blank. -/
theorem override?_eq_some_iff {tag : String} : driver.override? = some tag ↔
    driver.sqlDialect = some tag ∧ Text.isAllBlank tag.toList = false := by
  rw [override?, Option.filter_eq_some_iff, Bool.not_eq_true']

/-- A driver names a registered dialect if its name is registered, blank or not. -/
theorem namesRegistered_iff :
    driver.NamesRegistered ↔ IsRegistered (driver.sqlDialect.getD "") := by
  cases named : driver.sqlDialect with
  | none =>
    have blank : ¬ IsRegistered "" := not_isRegistered_of_isAllBlank rfl
    simp [NamesRegistered, named, blank]
  | some tag =>
    simp only [NamesRegistered, named, Option.mem_some_iff, exists_eq_left', Option.getD_some,
      and_iff_right_iff_imp]
    exact isAllBlank_eq_false_of_isRegistered

/-- A dialect is found by its own name exactly if it is registered under it; a blank name is
registered nowhere, so that it need not be excluded here. -/
theorem finds_override_iff :
    driver.Finds .override d ↔ lookupDialect? (driver.sqlDialect.getD "") driver = some d := by
  constructor
  · rintro ⟨named, known⟩
    rwa [named, Option.getD_some]
  · intro known
    cases named : driver.sqlDialect with
    | none =>
      rw [named, Option.getD_none,
        lookupDialect?_eq_none_iff.2 (not_isRegistered_of_isAllBlank rfl)] at known
      cases known
    | some tag => exact .override named (by rwa [named, Option.getD_some] at known)

/-- Every driver finds a dialect. -/
theorem exists_finds (driver : DriverInfo) : ∃ source d, driver.Finds source d := by
  by_cases named : driver.NamesRegistered
  · rw [namesRegistered_iff, ← isSome_lookupDialect?_iff driver] at named
    obtain ⟨d, known⟩ := Option.isSome_iff_exists.1 named
    exact ⟨_, d, finds_override_iff.2 known⟩
  by_cases registered : IsRegistered driver.dbType
  · obtain ⟨d, known⟩ := Option.isSome_iff_exists.1
      ((isSome_lookupDialect?_iff driver).2 registered)
    exact ⟨_, d, .registry named known⟩
  cases known : Product.ofIdentity? driver.dbType with
  | some p => exact ⟨_, _, .product named registered known⟩
  | none => exact ⟨_, _, .fallback named registered known⟩

/-- What is found is found by its own name exactly if the driver names a registered one, since this
place is looked at before all others. -/
theorem Finds.eq_override_iff (h : driver.Finds source d) :
    source = .override ↔ driver.NamesRegistered := by
  constructor
  · rintro rfl
    rw [namesRegistered_iff, ← isSome_lookupDialect?_iff driver,
      finds_override_iff.1 h, Option.isSome_some]
  · intro named
    cases h with
    | override => rfl
    | registry unnamed | product unnamed | fallback unnamed => exact absurd named unnamed

/-- **Names count in their normal form.**  Drivers whose identities and named dialects have the same
normal form find the same dialect in the same place, if their own quotes and paging make the same
generic one. -/
theorem Finds.congr (h : driver.Finds source d)
    (override : driver'.overrideForm = driver.overrideForm)
    (identity : normalizeIdentity driver'.dbType.toList = normalizeIdentity driver.dbType.toList)
    (generic : genericDialect driver' = genericDialect driver) : driver'.Finds source d := by
  -- Each of the three tables is asked with the normal form alone.
  have named : driver'.NamesRegistered ↔ driver.NamesRegistered := by
    rw [namesRegistered_iff, namesRegistered_iff, IsRegistered, IsRegistered]
    exact iff_of_eq (congrArg (String.ofList · ∈ registeredTags) override)
  have registered : IsRegistered driver'.dbType ↔ IsRegistered driver.dbType := by
    rw [IsRegistered, IsRegistered, identity]
  have known : Product.ofIdentity? driver'.dbType = Product.ofIdentity? driver.dbType := by
    rw [Product.ofIdentity?, Product.ofIdentity?, identity]
  -- The place is the same in all cases: what was missing before it is missing for the other
  -- driver too.
  cases h with
  | override tag found =>
    refine finds_override_iff.2 ?_
    rw [lookupDialect?_congr override generic]
    exact finds_override_iff.1 (.override tag found)
  | registry unnamed found =>
    refine .registry (mt named.1 unnamed) ?_
    rwa [lookupDialect?_congr identity generic]
  | product unnamed unregistered goesBy =>
    exact .product (mt named.1 unnamed) (mt registered.1 unregistered) (known.trans goesBy)
  | fallback unnamed unregistered unknown =>
    rw [← generic]
    exact .fallback (mt named.1 unnamed) (mt registered.1 unregistered) (known.trans unknown)

/-- **The quotes and the paging of a driver count for the generic dialect alone.**  All others are
constants. -/
theorem Finds.of_not_generic (h : driver.Finds source d) (known : d.product ≠ .generic)
    (quotes : Option String) (paging : Bool) :
    { driver with identifierQuote := quotes, supportsPaging := paging }.Finds source d := by
  cases h with
  | override named found => exact .override named (lookupDialect?_of_not_generic found known _)
  | registry unnamed found => exact .registry unnamed (lookupDialect?_of_not_generic found known _)
  | product unnamed unregistered goesBy => exact .product unnamed unregistered goesBy
  | fallback => exact absurd (product_genericDialect driver) known

/-- Where the generic dialect is found, it is the driver's own. -/
theorem Finds.eq_genericDialect (h : driver.Finds source d) (generic : d.product = .generic) :
    d = genericDialect driver := by
  cases h with
  | override _ found => exact eq_genericDialect_of_lookupDialect? found generic
  | registry _ found => exact eq_genericDialect_of_lookupDialect? found generic
  | product _ _ goesBy =>
    rw [Product.product_dialect] at generic
    exact absurd generic (Product.ne_generic_of_ofIdentity? goesBy)
  | fallback => rfl

/-! ### What is found -/

/-- What a driver is warned of if its dialect is found there. -/
def warningsOf (driver : DriverInfo) (source : ResolutionSource) : List ResolutionWarning :=
  (if driver.NamesUnregistered then [.unregistered (driver.sqlDialect.getD "")] else []) ++
    if source = .fallback then [.unknownIdentity driver.dbType] else []

/-- A driver that names no registered dialect is told apart by its identity. -/
theorem resolve_of_not_namesRegistered (unnamed : ¬ driver.NamesRegistered) :
    driver.resolve = driver.resolveIdentity
      (if driver.NamesUnregistered then [.unregistered (driver.sqlDialect.getD "")] else []) := by
  rw [resolve]
  cases named : driver.override? with
  | none =>
    have silent : ¬ driver.NamesUnregistered := by
      rintro ⟨tag, named', solid, -⟩
      rw [override?_eq_some_iff.2 ⟨named', solid⟩] at named
      cases named
    simp only [if_neg silent]
  | some tag =>
    obtain ⟨named, solid⟩ := override?_eq_some_iff.1 named
    have unregistered : ¬ IsRegistered tag := fun registered =>
      unnamed ⟨tag, named, solid, registered⟩
    have warned : driver.NamesUnregistered := ⟨tag, named, solid, unregistered⟩
    simp only [lookupDialect?_eq_none_iff.2 unregistered, if_pos warned, named, Option.getD_some]

/-- **What is found is what a driver is resolved to**, in the letter case it is written in and
with the warnings of what was not found before it. -/
theorem Finds.resolve_eq (h : driver.Finds source d) :
    driver.resolve = ⟨{ d with casing := .unchanged }, source, driver.warningsOf source⟩ := by
  rw [warningsOf]
  cases h with
  | @override tag _ named known =>
    have registered : IsRegistered tag :=
      (isSome_lookupDialect?_iff driver).1 (Option.isSome_of_mem known)
    -- A registered tag is not blank, so the driver's name for its dialect is not passed over.
    have solid := isAllBlank_eq_false_of_isRegistered registered
    have silent : ¬ driver.NamesUnregistered := by
      rintro ⟨tag', named', -, unregistered⟩
      obtain rfl : tag = tag' := Option.some.inj (named.symm.trans named')
      exact unregistered registered
    rw [resolve, override?_eq_some_iff.2 ⟨named, solid⟩, if_neg silent]
    simp only [known]
    rfl
  | registry unnamed known =>
    rw [resolve_of_not_namesRegistered unnamed, resolveIdentity, identified?, known]
    simp
  | product unnamed unregistered goesBy =>
    rw [resolve_of_not_namesRegistered unnamed, resolveIdentity, identified?,
      lookupDialect?_eq_none_iff.2 unregistered, goesBy]
    simp
  | fallback unnamed unregistered unknown =>
    rw [resolve_of_not_namesRegistered unnamed, resolveIdentity, identified?,
      lookupDialect?_eq_none_iff.2 unregistered, unknown]
    simp

/-- **A dialect is looked for in order**, in the name a driver gives it, the tags, the aliases and
the driver's own description.  The dialect found keeps the case of identifiers; there is a warning
for a name that is not registered and one for the fallback.  Two drivers get the same dialect from
the same place if their names agree in normal form and so do their quotes and paging, and the quotes
and paging alone do not matter unless the dialect is the generic one.  Where an identity is both a
tag and an alias, both lead to one dialect, but for the name it goes by. -/
theorem resolve_in_order (driver : DriverInfo) :
    (∃ d, driver.Finds driver.resolve.source d ∧
      driver.resolve.dialect = { d with casing := .unchanged }) ∧
    driver.resolve.dialect.casing = .unchanged ∧
    driver.resolve.warnings.length = (if driver.NamesUnregistered then 1 else 0) +
      (if driver.resolve.source = .fallback then 1 else 0) ∧
    (driver.resolve.source = .override ↔ driver.NamesRegistered) ∧
    (∀ driver' : DriverInfo, driver'.overrideForm = driver.overrideForm →
      normalizeIdentity driver'.dbType.toList = normalizeIdentity driver.dbType.toList →
      driver'.identifierQuote = driver.identifierQuote →
      driver'.supportsPaging = driver.supportsPaging →
      driver'.resolve.dialect = driver.resolve.dialect ∧
        driver'.resolve.source = driver.resolve.source) ∧
    (driver.resolve.dialect.product ≠ .generic → ∀ quotes paging,
      { driver with identifierQuote := quotes, supportsPaging := paging }.resolve =
        driver.resolve) ∧
    (driver.resolve.dialect.product = .generic →
      driver.resolve.dialect.supportsPaging = driver.supportsPaging) ∧
    ∀ identity d p, lookupDialect? identity driver = some d →
      Product.ofIdentity? identity = some p → { d with name := p.dialect.name } = p.dialect := by
  -- Everything is read off the place where the dialect was found; that there is one, and only
  -- one, is all that is needed of the search.
  obtain ⟨source, d, finds⟩ := driver.exists_finds
  rw [finds.resolve_eq]
  refine ⟨⟨d, finds, rfl⟩, rfl, ?_, ?_, ?_, ?_, ?_, ?_⟩
  · simp only [warningsOf, List.length_append, apply_ite List.length, List.length_singleton,
      List.length_nil]
  · exact finds.eq_override_iff
  · intro driver' override identity quotes paging
    rw [(finds.congr override identity (genericDialect_congr quotes paging)).resolve_eq]
    exact ⟨rfl, rfl⟩
  · intro known quotes paging
    rw [(finds.of_not_generic known quotes paging).resolve_eq]
    rfl
  · intro generic
    obtain rfl := finds.eq_genericDialect generic
    exact supportsPaging_genericDialect driver
  · exact fun identity d p registered known => dialect_eq_of_lookupDialect? registered known

/-- A dialect that is not registered and an identity that is not known are two warnings, and a
blank dialect is none. -/
example :
    (DriverInfo.mk "acme" (some "nosuch") none true).resolve.warnings.length = 2 ∧
      (DriverInfo.mk "Maria_DB" (some " ") none true).resolve.warnings = [] := by
  decide +kernel

end DriverInfo
end PagedQuery
