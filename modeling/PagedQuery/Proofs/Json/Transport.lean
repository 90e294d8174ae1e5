/-
# Records on their way

A record is written as a value, and something arrives of it that it is read from again.  The value
may be handed over as it is, or as one whose objects are maps, which sorts their members by name
(`Json.sorted`); and either may be handed over as a text, of which arrives what the text is read
as (`Json.reread`).

Each of these ways is a transport (`IsTransport`): the scalars of a record stay as they are, an
array keeps its items in order, and an object whose members have different names keeps them in
some order.  Nothing more is needed to read the fields of a record (`IsTransport.slots?_object`),
so a record arrives if its fields do, and whether a field does is decided by its kind alone
(`Carries`).  Reals are left out of a transport: a text may change them, and the statements that
are about reals name the way (`exists_transport_of_mem_textArrivals`).

Transports can be put one after the other (`IsTransport.comp`), which settles the sorted text
without a proof of its own.
-/

import PagedQuery.Json.Record
import PagedQuery.Proofs.Json.Reread

namespace PagedQuery
namespace Json

/-! ### Members in another order -/

/-- Among members of different names a name is looked up as the value it stands with. -/
theorem lookup_eq_some_iff_mem {members : List (String × Json)}
    (distinct : (members.map Prod.fst).Nodup) {name : String} {value : Json} :
    members.lookup name = some value ↔ (name, value) ∈ members := by
  induction members with
  | nil => simp
  | cons member members ih =>
    obtain ⟨other, kept⟩ := member
    rw [List.map_cons, List.nodup_cons] at distinct
    by_cases same : name = other
    · subst same
      have absent : (name, value) ∉ members := fun inside =>
        distinct.1 (List.mem_map.2 ⟨_, inside, rfl⟩)
      simp [absent, eq_comm]
    · have first : (name == other) = false := beq_eq_false_iff_ne.2 same
      simp [List.lookup_cons, first, same, ih distinct.2]

/-- The order of members of different names does not matter to looking one up. -/
theorem lookup_eq_of_perm {members arrived : List (String × Json)}
    (distinct : (members.map Prod.fst).Nodup) (same : arrived.Perm members) (name : String) :
    arrived.lookup name = members.lookup name := by
  have still_distinct : (arrived.map Prod.fst).Nodup := (same.map _).nodup_iff.2 distinct
  refine Option.ext fun value => ?_
  rw [lookup_eq_some_iff_mem still_distinct, lookup_eq_some_iff_mem distinct, same.mem_iff]

/-- Converting the values changes what is found under a name and nothing else. -/
theorem lookup_map (convert : Json → Json) (members : List (String × Json)) (name : String) :
    (members.map fun member => (member.1, convert member.2)).lookup name =
      (members.lookup name).map convert := by
  induction members with
  | nil => rfl
  | cons member members ih =>
    rw [List.map_cons, List.lookup_cons, List.lookup_cons, ih]
    split <;> rfl

/-- Members of different names repeat none. -/
theorem repeats_of_nodup {members : List (String × Json)}
    (distinct : (members.map Prod.fst).Nodup) (names : List String) :
    repeats names members = false := by
  refine List.any_eq_false.2 fun name _ => ?_
  have once := List.nodup_iff_count.1 distinct name
  rw [List.count, List.countP_map] at once
  simp only [decide_eq_true_eq, Nat.not_le]
  exact Nat.lt_succ_of_le once

/-! ### Ways -/

/-- A way that keeps all that a record is read from.  Nothing is said of reals, which a text may
change, nor of objects in which a name repeats. -/
structure IsTransport (way : Json → Json) : Prop where
  /-- Missing values stay missing. -/
  null : way .null = .null
  boolean (b : Bool) : way (.boolean b) = .boolean b
  /-- Integers of a 64-bit word, signed or not. -/
  integer {i : Int} : Int64.minValue.toInt ≤ i → i < UInt64.size → way (.integer i) = .integer i
  text (s : String) : way (.text s) = .text s
  /-- The items keep their order. -/
  array (items : List Json) : way (.array items) = .array (items.map way)
  /-- Members may arrive in another order, but all of them and under their names. -/
  object (members : List (String × Json)) : (members.map Prod.fst).Nodup →
    ∃ arrived, way (.object members) = .object arrived ∧
      arrived.Perm (members.map fun member => (member.1, way member.2))

/-- What is handed over as it is arrives as it is. -/
theorem isTransport_id : IsTransport id where
  null := rfl
  boolean _ := rfl
  integer _ _ := rfl
  text _ := rfl
  array items := by rw [List.map_id]; rfl
  object members _ := ⟨members, rfl, by simp⟩

/-- Members are reread one by one, under their names. -/
theorem rereadMembers_eq_map (members : List (String × Json)) :
    rereadMembers members = members.map fun member => (member.1, member.2.reread) := by
  induction members with
  | nil => rfl
  | cons member members ih => rw [rereadMembers, ih, List.map_cons]

/-- A text is a transport. -/
theorem isTransport_reread : IsTransport reread where
  null := rfl
  boolean _ := rfl
  integer lower upper := NumberToken.value_ofInt lower upper
  text _ := rfl
  array items := by rw [reread, rereadItems_eq_map]
  object members _ := ⟨_, by rw [reread], by rw [rereadMembers_eq_map]⟩

/-- A member of a new name is put somewhere among the others. -/
theorem insertMember_perm {name : String} {done : List (String × Json)}
    (fresh : name ∉ done.map Prod.fst) (value : Json) :
    (insertMember name value done).Perm ((name, value) :: done) := by
  induction done with
  | nil => rfl
  | cons member done ih =>
    obtain ⟨other, kept⟩ := member
    rw [List.map_cons, List.mem_cons, not_or] at fresh
    rw [insertMember, if_neg fresh.1]
    split
    · rfl
    · exact ((ih fresh.2).cons _).trans (.swap _ _ _)

/-- Sorting members of different names loses none of them.  The induction is over the members that
are still to be placed, so the statement speaks of those placed before as well. -/
theorem sortedMembers_perm {done members : List (String × Json)}
    (distinct : ((members ++ done).map Prod.fst).Nodup) :
    (sortedMembers done members).Perm
      ((members.map fun member => (member.1, member.2.sorted)) ++ done) := by
  induction members generalizing done with
  | nil => rw [sortedMembers]; rfl
  | cons member members ih =>
    obtain ⟨name, value⟩ := member
    rw [List.cons_append, List.map_cons, List.nodup_cons] at distinct
    have fresh : name ∉ done.map Prod.fst := fun inside =>
      distinct.1 (by rw [List.map_append]; exact List.mem_append_right _ inside)
    have placed := insertMember_perm fresh value.sorted
    -- The member moves from the front of the list to its place among those already sorted.
    have moved : (members ++ insertMember name value.sorted done).Perm
        ((name, value.sorted) :: (members ++ done)) :=
      (placed.append_left members).trans List.perm_middle
    have still_distinct := (moved.map Prod.fst).nodup_iff.2 (List.nodup_cons.2 distinct)
    rw [sortedMembers, List.map_cons, List.cons_append]
    exact (ih still_distinct).trans ((placed.append_left _).trans List.perm_middle)

/-- The items of an array keep their order; only the objects inside them are sorted. -/
theorem sortedItems_eq_map (items : List Json) : sortedItems items = items.map sorted := by
  induction items with
  | nil => rfl
  | cons item items ih => rw [sortedItems, ih, List.map_cons]

/-- Sorting the members of objects is a transport. -/
theorem isTransport_sorted : IsTransport sorted where
  null := rfl
  boolean _ := rfl
  integer _ _ := rfl
  text _ := rfl
  array items := by rw [sorted, sortedItems_eq_map]
  object members distinct := by
    have moved := @sortedMembers_perm [] members (by rwa [List.append_nil])
    rw [List.append_nil] at moved
    exact ⟨_, by rw [sorted], moved⟩

namespace IsTransport

variable {way further : Json → Json}

/-- Two ways one after the other are a way. -/
theorem comp (first : IsTransport way) (second : IsTransport further) :
    IsTransport (further ∘ way) where
  null := by rw [Function.comp_apply, first.null, second.null]
  boolean b := by rw [Function.comp_apply, first.boolean, second.boolean]
  integer lower upper := by
    rw [Function.comp_apply, first.integer lower upper, second.integer lower upper]
  text s := by rw [Function.comp_apply, first.text, second.text]
  array items := by rw [Function.comp_apply, first.array, second.array, List.map_map]
  object members distinct := by
    -- The second way needs different names as well, which the first one keeps.
    obtain ⟨halfway, there, same⟩ := first.object members distinct
    have names : (halfway.map Prod.fst).Perm (members.map Prod.fst) := by
      have := same.map Prod.fst
      rwa [List.map_map] at this
    obtain ⟨arrived, here, last⟩ := second.object halfway (names.nodup_iff.2 distinct)
    have := same.map fun member => (member.1, further member.2)
    rw [List.map_map] at this
    exact ⟨arrived, by rw [Function.comp_apply, there, here], last.trans this⟩

/-- **A field arrives where its name was written.** The order of the members is not looked at, so it
may change. -/
theorem slots?_object (transport : IsTransport way) (names : List String)
    {members : List (String × Json)} (distinct : (members.map Prod.fst).Nodup) :
    (way (.object members)).slots? names = some fun name =>
      (members.lookup name).elim .absent fun value => .given (way value) := by
  obtain ⟨arrived, there, same⟩ := transport.object members distinct
  have still_distinct : (members.map fun member => (member.1, way member.2)).map Prod.fst =
      members.map Prod.fst := by rw [List.map_map]; rfl
  rw [← still_distinct] at distinct
  rw [there, slots?, repeats_of_nodup ((same.map _).nodup_iff.2 distinct), if_neg (by simp)]
  refine congrArg some (funext fun name => ?_)
  rw [lookup_eq_of_perm distinct same, lookup_map]
  cases members.lookup name <;> rfl

/-- The items of an array are read one by one. -/
theorem list?_array {α β : Type} (transport : IsTransport way) (encode : α → Json)
    (decode : Json → Option β) (xs : List α) :
    list? decode (way (.array (xs.map encode))) = xs.mapM fun x => decode (way (encode x)) := by
  rw [transport.array, list?]
  induction xs with
  | nil => rfl
  | cons x xs ih => simp only [List.map_cons, List.mapM_cons, ih]

end IsTransport

/-- A list comes back if and only if each of its items does. -/
theorem mapM_eq_some_self_iff {α : Type} {f : α → Option α} {xs : List α} :
    xs.mapM f = some xs ↔ ∀ x ∈ xs, f x = some x := by
  induction xs with
  | nil => simp
  | cons x xs ih =>
    rw [List.forall_mem_cons, ← ih, List.mapM_cons]
    cases f x with
    | none => simp
    | some y => cases xs.mapM f <;> simp

/-- What arrives of a value that is handed over as it is, or as one whose objects are maps. -/
def valueArrivals (j : Json) : List (Option Json) :=
  [some j, some j.sorted]

/-- What arrives of a value that is handed over as the text of either. -/
def textArrivals (j : Json) : List (Option Json) :=
  [read? (print j), read? (print j.sorted)]

/-- All that can arrive of a value: itself or its text, each with the members as they are written or
sorted by name. -/
def arrivals (j : Json) : List (Option Json) :=
  j.valueArrivals ++ j.textArrivals

/-- Handed over as a value, reals arrive as they are. -/
theorem exists_transport_of_mem_valueArrivals {j : Json} {arrived : Option Json}
    (inside : arrived ∈ j.valueArrivals) :
    ∃ way, IsTransport way ∧ (∀ x, way (.real x) = .real x) ∧ arrived = some (way j) := by
  simp only [valueArrivals, List.mem_cons, List.not_mem_nil, or_false] at inside
  rcases inside with rfl | rfl
  · exact ⟨id, isTransport_id, fun _ => rfl, rfl⟩
  · exact ⟨sorted, isTransport_sorted, fun _ => rfl, rfl⟩

/-- Handed over as a text, a real arrives as what its text is read as. -/
theorem exists_transport_of_mem_textArrivals {j : Json} {arrived : Option Json}
    (inside : arrived ∈ j.textArrivals) :
    ∃ way, IsTransport way ∧ (∀ x, way (.real x) = rereadReal x) ∧ arrived = some (way j) := by
  simp only [textArrivals, read?_print, List.mem_cons, List.not_mem_nil, or_false] at inside
  rcases inside with rfl | rfl
  · exact ⟨reread, isTransport_reread, fun _ => rfl, rfl⟩
  · exact ⟨reread ∘ sorted, isTransport_sorted.comp isTransport_reread, fun _ => rfl, rfl⟩

/-- Whichever way is taken, it is a transport. -/
theorem exists_transport_of_mem_arrivals {j : Json} {arrived : Option Json}
    (inside : arrived ∈ j.arrivals) : ∃ way, IsTransport way ∧ arrived = some (way j) := by
  rcases List.mem_append.1 inside with value | text
  · obtain ⟨way, transport, -, there⟩ := exists_transport_of_mem_valueArrivals value
    exact ⟨way, transport, there⟩
  · obtain ⟨way, transport, -, there⟩ := exists_transport_of_mem_textArrivals text
    exact ⟨way, transport, there⟩

/-! ### Fields -/

/-- Whether every value of a kind is read from what arrives of it.  It is stated for a kind, so the
fields of a record are put together from their types. -/
def Carries {α : Type} (way : Json → Json) (encode : α → Json) (decode : Json → Option α) : Prop :=
  ∀ a, decode (way (encode a)) = some a

namespace Carries

variable {α : Type} {way : Json → Json} {encode : α → Json} {decode : Json → Option α}

/-- A string arrives as it is. -/
theorem text (transport : IsTransport way) : Carries way .text text? := fun s => by
  rw [transport.text, text?]

/-- A truth value arrives as it is. -/
theorem boolean (transport : IsTransport way) : Carries way .boolean boolean? := fun b => by
  rw [transport.boolean, boolean?]

/-- A word arrives as an integer, since it is within the range that a text keeps. -/
theorem word (transport : IsTransport way) : Carries way .word word? := fun n => by
  have small : (n.toNat : Int) < UInt64.size := Int.ofNat_lt.2 n.toNat_lt
  have least : Int64.minValue.toInt ≤ 0 := by decide
  rw [Json.word, transport.integer (by omega) small, word?, if_pos ⟨by omega, small⟩]
  simp

/-- A character arrives as a string of one character. -/
theorem char (transport : IsTransport way) :
    Carries way (fun c => .text (String.singleton c)) char? := fun c => by
  rw [transport.text, char?]
  simp

/-- A member of an enumeration arrives under its name. -/
theorem named (transport : IsTransport way) {name : α → String} {ofName? : String → Option α}
    (named : ∀ a, ofName? (name a) = some a) :
    Carries way (fun a => .text (name a)) (named? ofName?) := fun a => by
  rw [transport.text, named?, named]

/-- A byte arrives as an integer. -/
theorem byte (transport : IsTransport way) :
    Carries way (fun b : UInt8 => .integer b.toNat) byte? := fun b => by
  have small : (b.toNat : Int) < UInt8.size := Int.ofNat_lt.2 b.toNat_lt
  have least : Int64.minValue.toInt ≤ 0 := by decide
  have within : (UInt8.size : Int) ≤ UInt64.size := by decide
  rw [transport.integer (by omega) (by omega), byte?, if_pos ⟨by omega, small⟩]
  simp

/-- A list arrives if its items do. -/
theorem list (transport : IsTransport way) (item : Carries way encode decode) :
    Carries way (fun xs => .array (xs.map encode)) (list? decode) := fun xs => by
  rw [transport.list?_array]
  exact mapM_eq_some_self_iff.2 fun x _ => item x

/-- What may be missing arrives if a value that is there is not taken for `null`. -/
theorem nullable (transport : IsTransport way) (value : Carries way encode decode)
    (strict : decode .null = none) :
    Carries way (nullable encode) (nullable? decode) := fun
  | none => by rw [Json.nullable, transport.null, nullable?]
  | some a => by
    have arrives := value a
    rw [Json.nullable, nullable?, arrives, Option.map_some]
    intro missing
    rw [missing, strict] at arrives
    cases arrives

/-- A field that must be there is read as soon as its kind is carried. -/
theorem required (field : Carries way encode decode) (a : α) :
    (Slot.given (way (encode a))).required decode = some a :=
  field a

/-- A field that has a default is read from what arrives and not from the default. -/
theorem defaulted (field : Carries way encode decode) (default a : α) :
    (Slot.given (way (encode a))).defaulted default decode = some a :=
  field a

/-- What is left out when it is missing arrives as missing. -/
theorem optional (value : Carries way encode decode) (strict : decode .null = none)
    (a? : Option α) :
    ((a?.map encode).elim .absent fun written => Slot.given (way written)).optional decode =
      some a? := by
  cases a? with
  | none => rfl
  | some a =>
    have arrives := value a
    rw [Option.map_some, Option.elim_some, Slot.optional, arrives, Option.map_some]
    intro missing
    rw [missing, strict] at arrives
    cases arrives

/-- What every way carries is read from whatever arrives. -/
theorem bind_of_mem_arrivals (carries : ∀ {way}, IsTransport way → Carries way encode decode)
    (a : α) : ∀ arrived ∈ (encode a).arrivals, arrived.bind decode = some a := by
  intro arrived inside
  obtain ⟨way, transport, rfl⟩ := exists_transport_of_mem_arrivals inside
  exact carries transport a

end Carries

/-! ### Members that may be left out -/

/-- What may be left out adds at most its own name to those of a record. -/
theorem optionalMember_sublist (name : String) (value : Option String) :
    ((optionalMember name value).map Prod.fst).Sublist [name] := by
  cases value with
  | none => exact List.nil_sublist _
  | some value => exact List.Sublist.refl _

/-- What may be left out is found under its own name, and only if it was not left out. -/
theorem lookup_optionalMember (name other : String) (value : Option String) :
    (optionalMember name value).lookup other =
      if other = name then value.map .text else none := by
  cases value with
  | none => simp [optionalMember]
  | some value =>
    by_cases same : other = name
    · simp [optionalMember, same]
    · simp [optionalMember, same, List.lookup_cons, beq_eq_false_iff_ne.2 same]

end Json
end PagedQuery
