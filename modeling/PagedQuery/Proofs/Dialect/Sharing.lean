/-
# Callers that share a resolver

Any number of callers use one resolver at once.  A call takes one step or two: a look-up, which
hands out the object that is kept or makes a new one; and if it made one, a step that keeps it, or
hands out the object that another caller has kept meanwhile.  Between the steps of one caller the
others go through theirs, and the resolver may be cleared.  A step that its caller cannot take
changes nothing.  `Traffic.step_lookup_keep` is the bridge to a resolver with one caller: the two
steps of an idle caller, with no one in between, are a call of `Resolver.resolve`, and they leave
the caller idle with its object in the history.  So every caller can complete its call, and
statements about completed calls are not about none.

`Traffic` is the resolver, the callers between their steps and the history of what was handed out;
`Traffic.Sound` is what every step keeps (`Sound.step`), also a clear between the two steps of a
caller: the object of a waiting caller is older than the clear, but no one else has it.  What the
callers can tell is read off this (`run_transparent`).
-/

import Mathlib.Data.List.Dedup
import PagedQuery.Dialect.Resolver

namespace PagedQuery
namespace Resolver

/-- One step of one caller, or of none.  A clear is no caller's step; it may come at any time. -/
inductive Step
  | lookup (caller : Nat) (driver : DriverInfo)
  | keep (caller : Nat)
  | clear

/-- What a step may leave in the history.  A step that only makes an object leaves nothing, since
nobody has seen the object yet. -/
inductive Event
  /-- A caller was handed an object for its driver. -/
  | completed (caller : Nat) (driver : DriverInfo) (object : SharedResolution)
  | cleared
deriving DecidableEq

/-- The object an event hands out, with its driver. -/
def Event.handed? : Event → Option (DriverInfo × SharedResolution)
  | completed _ driver object => some (driver, object)
  | cleared => none

/-- What was handed out since the resolver was last cleared, last one first.  A waiting caller's
object is not in it before it is handed out. -/
def sinceClear : List Event → List (DriverInfo × SharedResolution)
  | [] => []
  | .cleared :: _ => []
  | .completed _ driver object :: earlier => (driver, object) :: sinceClear earlier

/-- A resolver with its callers. -/
structure Traffic where
  resolver : Resolver
  /-- The callers between their steps, with their drivers and the new objects. -/
  waiting : List (Nat × DriverInfo × SharedResolution)
  /-- What has happened, last one first. -/
  history : List Event

namespace Traffic

/-- A resolver that keeps nothing, before the first call. -/
def start : Traffic :=
  ⟨.empty, [], []⟩

/-- A caller is done. -/
def complete (t : Traffic) (caller : Nat) (driver : DriverInfo) (object : SharedResolution) :
    Traffic :=
  { t with history := .completed caller driver object :: t.history }

/-- What a step does.  One that its caller cannot take does nothing: a caller that waits with a new
object looks nothing up, and one that does not wait has nothing to keep. -/
def step (t : Traffic) : Step → Traffic
  | .lookup caller driver =>
    if (t.waiting.lookup caller).isSome then t
    else match t.resolver.lookup driver with
      | (.found object, r) => { t with resolver := r }.complete caller driver object
      | (.computed object, r) =>
        { t with resolver := r, waiting := (caller, driver, object) :: t.waiting }
  | .keep caller =>
    match t.waiting.lookup caller with
    | none => t
    | some (driver, object) =>
      let (handed, r) := t.resolver.keep driver object
      { t with resolver := r, waiting := t.waiting.filter (·.1 != caller) }.complete
        caller driver handed
  | .clear => { t with resolver := t.resolver.clear, history := .cleared :: t.history }

/-- The steps of all callers in the order they happen. -/
def run (steps : List Step) : Traffic :=
  steps.foldl step start

/-- Every object that exists, with the driver it was made for: those that are kept, those that a
caller waits with, and those that were handed out. -/
def objects (t : Traffic) : List (DriverInfo × SharedResolution) :=
  t.resolver.kept ++ (t.waiting.map (·.2) ++ t.history.filterMap Event.handed?)

end Traffic

/-- Whether no object was handed out for a driver that had another one since the
resolver was last cleared. -/
def Steady : List Event → Prop
  | [] => True
  | .cleared :: earlier => Steady earlier
  | .completed _ driver object :: earlier =>
    (∀ other, (driver, other) ∈ sinceClear earlier → other = object) ∧ Steady earlier

/-- What holds of a resolver with its callers at any time.  The last two parts speak of the history,
because what is kept says nothing about what was handed out before a clear. -/
structure Traffic.Sound (t : Traffic) : Prop where
  /-- A driver has one object at most. -/
  nodup : (t.resolver.kept.map Prod.fst).Nodup
  /-- An object has the value that its driver is resolved to. -/
  value : ∀ entry ∈ t.objects, entry.2.resolution = entry.1.resolve
  /-- The next number is not in use. -/
  fresh : ∀ entry ∈ t.objects, entry.2.identity < t.resolver.nextIdentity
  /-- A number belongs to one driver. -/
  owner : ∀ entry ∈ t.objects, ∀ other ∈ t.objects,
    entry.2.identity = other.2.identity → entry.1 = other.1
  /-- What is kept is what was handed out since the last clear. -/
  kept : ∀ entry, entry ∈ t.resolver.kept ↔ entry ∈ sinceClear t.history
  steady : Steady t.history

/-- What is found under a key is an entry. -/
theorem mem_of_lookup {α β : Type} [BEq α] [LawfulBEq α] {entries : List (α × β)} {key : α}
    {value : β} (h : entries.lookup key = some value) : (key, value) ∈ entries := by
  obtain ⟨before, after, split, -⟩ := List.lookup_eq_some_iff.1 h
  rw [split]
  exact List.mem_append_right _ (List.mem_cons_self ..)

/-- What is found for a driver is kept for it. -/
theorem mem_of_find? {r : Resolver} {driver : DriverInfo} {object : SharedResolution}
    (h : r.find? driver = some object) : (driver, object) ∈ r.kept :=
  mem_of_lookup h

/-- Nothing is kept for a driver for which nothing is found. -/
theorem not_mem_of_find? {r : Resolver} {driver : DriverInfo} (h : r.find? driver = none)
    (object : SharedResolution) : (driver, object) ∉ r.kept := fun mem => by
  have other := List.lookup_eq_none_iff.1 h _ mem
  simp at other

/-- A look-up hands out the kept object and changes nothing. -/
theorem lookup_of_find?_eq_some {r : Resolver} {driver : DriverInfo} {object : SharedResolution}
    (h : r.find? driver = some object) : r.lookup driver = (.found object, r) := by
  simp only [lookup, h]

/-- A look-up that finds nothing makes an object with the next number, and does not keep it yet. -/
theorem lookup_of_find?_eq_none {r : Resolver} {driver : DriverInfo} (h : r.find? driver = none) :
    r.lookup driver = (.computed ⟨r.nextIdentity, driver.resolve⟩,
      { r with nextIdentity := r.nextIdentity + 1 }) := by
  simp only [lookup, h]

/-- An object that comes too late is given up for the one that is kept. -/
theorem keep_of_find?_eq_some {r : Resolver} {driver : DriverInfo} (object : SharedResolution)
    {other : SharedResolution} (h : r.find? driver = some other) :
    r.keep driver object = (other, r) := by
  simp only [keep, h]

/-- Where none is kept, the new object is. -/
theorem keep_of_find?_eq_none {r : Resolver} {driver : DriverInfo} (object : SharedResolution)
    (h : r.find? driver = none) :
    r.keep driver object = (object, { r with kept := (driver, object) :: r.kept }) := by
  simp only [keep, h]

namespace Traffic

/-- An object exists in one of three places: it is kept, its caller waits with it, or it was handed
out.  The case splits of the steps below follow these places. -/
theorem mem_objects {t : Traffic} {entry : DriverInfo × SharedResolution} :
    entry ∈ t.objects ↔ entry ∈ t.resolver.kept ∨ (∃ caller, (caller, entry) ∈ t.waiting) ∨
      ∃ event ∈ t.history, event.handed? = some entry := by
  simp [objects]

namespace Sound

variable {t : Traffic}

/-- Before the first call there are no objects. -/
theorem start : Traffic.start.Sound where
  nodup := List.nodup_nil
  value _ h := absurd h List.not_mem_nil
  fresh _ h := absurd h List.not_mem_nil
  owner _ h := absurd h List.not_mem_nil
  kept _ := Iff.rfl
  steady := trivial

/-- A step that makes no object keeps what holds of the objects. -/
theorem of_subset {t' : Traffic} (h : t.Sound) (subset : ∀ entry ∈ t'.objects, entry ∈ t.objects)
    (next : t'.resolver.nextIdentity = t.resolver.nextIdentity)
    (nodup : (t'.resolver.kept.map Prod.fst).Nodup)
    (kept : ∀ entry, entry ∈ t'.resolver.kept ↔ entry ∈ sinceClear t'.history)
    (steady : Steady t'.history) : t'.Sound where
  nodup := nodup
  value entry mem := h.value entry (subset entry mem)
  fresh entry mem := next ▸ h.fresh entry (subset entry mem)
  owner entry mem other mem' := h.owner entry (subset entry mem) other (subset other mem')
  kept := kept
  steady := steady

/-- A driver has one kept object. -/
theorem eq_of_mem_kept (h : t.Sound) {driver : DriverInfo} {object other : SharedResolution}
    (mem : (driver, object) ∈ t.resolver.kept) (mem' : (driver, other) ∈ t.resolver.kept) :
    other = object :=
  congrArg Prod.snd (List.inj_on_of_nodup_map h.nodup mem' mem rfl)

/-- A caller is handed the kept object. -/
theorem complete (h : t.Sound) (caller : Nat) {driver : DriverInfo} {object : SharedResolution}
    (mem : (driver, object) ∈ t.resolver.kept) : (t.complete caller driver object).Sound := by
  refine h.of_subset (fun entry hentry => ?_) rfl h.nodup (fun entry => ?_)
    ⟨fun other hother => h.eq_of_mem_kept mem ((h.kept _).2 hother), h.steady⟩
  · rcases mem_objects.1 hentry with kept | waiting | ⟨event, hevent, handed⟩
    · exact mem_objects.2 (.inl kept)
    · exact mem_objects.2 (.inr (.inl waiting))
    · rcases List.mem_cons.1 hevent with rfl | hevent
      · obtain rfl : (driver, object) = entry := Option.some.inj handed
        exact mem_objects.2 (.inl mem)
      · exact mem_objects.2 (.inr (.inr ⟨event, hevent, handed⟩))
  · show entry ∈ t.resolver.kept ↔ entry ∈ (driver, object) :: sinceClear t.history
    rw [List.mem_cons, ← h.kept entry]
    exact ⟨.inr, fun or => or.elim (fun same => same ▸ mem) id⟩

/-- A waiting caller is forgotten. -/
theorem forget (h : t.Sound) (isKept : Nat × DriverInfo × SharedResolution → Bool) :
    { t with waiting := t.waiting.filter isKept }.Sound := by
  refine h.of_subset (fun entry hentry => ?_) rfl h.nodup h.kept h.steady
  rcases mem_objects.1 hentry with kept | ⟨caller, waiting⟩ | handed
  · exact mem_objects.2 (.inl kept)
  · exact mem_objects.2 (.inr (.inl ⟨caller, List.mem_of_mem_filter waiting⟩))
  · exact mem_objects.2 (.inr (.inr handed))

/-- A look-up that finds nothing makes an object under a new number. -/
theorem compute (h : t.Sound) (caller : Nat) (driver : DriverInfo) :
    Traffic.Sound ⟨{ t.resolver with nextIdentity := t.resolver.nextIdentity + 1 },
      (caller, driver, ⟨t.resolver.nextIdentity, driver.resolve⟩) :: t.waiting, t.history⟩ := by
  set t' : Traffic := ⟨{ t.resolver with nextIdentity := t.resolver.nextIdentity + 1 },
    (caller, driver, ⟨t.resolver.nextIdentity, driver.resolve⟩) :: t.waiting, t.history⟩
  -- The new object is the only one that was not there, so every claim about objects is split into
  -- the new one and the old ones.
  have cases_of : ∀ entry ∈ t'.objects,
      entry = (driver, ⟨t.resolver.nextIdentity, driver.resolve⟩) ∨ entry ∈ t.objects := by
    intro entry hentry
    rcases mem_objects.1 hentry with kept | ⟨other, waiting⟩ | handed
    · exact .inr (mem_objects.2 (.inl kept))
    · rcases List.mem_cons.1 waiting with same | waiting
      · exact .inl (Prod.mk.inj same).2
      · exact .inr (mem_objects.2 (.inr (.inl ⟨other, waiting⟩)))
    · exact .inr (mem_objects.2 (.inr (.inr handed)))
  refine ⟨h.nodup, fun entry hentry => ?_, fun entry hentry => ?_, ?_, h.kept, h.steady⟩
  · rcases cases_of entry hentry with rfl | old
    · rfl
    · exact h.value entry old
  · rcases cases_of entry hentry with rfl | old
    · exact Nat.lt_succ_self _
    · exact Nat.lt_succ_of_lt (h.fresh entry old)
  -- Two objects of one number: both new, or both old; the new number is above all old ones.
  · intro entry hentry other hother same
    rcases cases_of entry hentry with rfl | old <;> rcases cases_of other hother with rfl | old'
    · rfl
    · exact absurd same (Nat.ne_of_gt (h.fresh other old'))
    · exact absurd same (Nat.ne_of_lt (h.fresh entry old))
    · exact h.owner entry old other old' same

/-- The object of a waiting caller is kept where none is, and handed out. -/
theorem insert (h : t.Sound) (caller : Nat) {driver : DriverInfo} {object : SharedResolution}
    (none : t.resolver.find? driver = none) (mem : (driver, object) ∈ t.objects) :
    Traffic.Sound ⟨{ t.resolver with kept := (driver, object) :: t.resolver.kept }, t.waiting,
      .completed caller driver object :: t.history⟩ := by
  refine h.of_subset (fun entry hentry => ?_) rfl ?_ (fun entry => ?_) ⟨?_, h.steady⟩
  -- No object is new to the traffic; it only changes hands.
  · rcases mem_objects.1 hentry with kept | waiting | ⟨event, hevent, handed⟩
    · rcases List.mem_cons.1 kept with rfl | kept
      · exact mem
      · exact mem_objects.2 (.inl kept)
    · exact mem_objects.2 (.inr (.inl waiting))
    · rcases List.mem_cons.1 hevent with rfl | hevent
      · obtain rfl : (driver, object) = entry := Option.some.inj handed
        exact mem
      · exact mem_objects.2 (.inr (.inr ⟨event, hevent, handed⟩))
  · refine List.nodup_cons.2 ⟨fun hdriver => ?_, h.nodup⟩
    obtain ⟨⟨other, object'⟩, hkept, rfl⟩ := List.mem_map.1 hdriver
    exact not_mem_of_find? none object' hkept
  · show entry ∈ (driver, object) :: t.resolver.kept ↔
      entry ∈ (driver, object) :: sinceClear t.history
    rw [List.mem_cons, List.mem_cons, h.kept entry]
  -- Nothing was handed out for the driver since the last clear, since it would be kept.
  · exact fun other hother => absurd ((h.kept _).2 hother) (not_mem_of_find? none other)

/-- Nothing is kept any more, and no object changes. -/
theorem clear (h : t.Sound) :
    Traffic.Sound ⟨t.resolver.clear, t.waiting, .cleared :: t.history⟩ := by
  refine h.of_subset (fun entry hentry => ?_) rfl List.nodup_nil (fun _ => Iff.rfl) h.steady
  rcases mem_objects.1 hentry with kept | waiting | ⟨event, hevent, handed⟩
  · exact absurd kept List.not_mem_nil
  · exact mem_objects.2 (.inr (.inl waiting))
  · rcases List.mem_cons.1 hevent with rfl | hevent
    · simp [Event.handed?] at handed
    · exact mem_objects.2 (.inr (.inr ⟨event, hevent, handed⟩))

/-- **One step**, of any caller or of none, keeps what holds at any time. -/
theorem step (h : t.Sound) (s : Step) : (t.step s).Sound := by
  cases s with
  | lookup caller driver =>
    cases waits : (t.waiting.lookup caller).isSome with
    | true => simpa only [Traffic.step, waits, if_true] using h
    | false =>
      cases found : t.resolver.find? driver with
      | some object =>
        simpa only [Traffic.step, waits, lookup_of_find?_eq_some found, reduceIte,
          reduceCtorEq] using
          h.complete caller (mem_of_find? found)
      | none =>
        simpa only [Traffic.step, waits, lookup_of_find?_eq_none found, reduceIte,
          reduceCtorEq] using
          h.compute caller driver
  | keep caller =>
    cases waits : t.waiting.lookup caller with
    | none => simpa only [Traffic.step, waits] using h
    | some made =>
      obtain ⟨driver, object⟩ := made
      cases found : t.resolver.find? driver with
      | some other =>
        simpa only [Traffic.step, waits, keep_of_find?_eq_some object found] using
          (h.forget _).complete caller (mem_of_find? found)
      | none =>
        have mem : (driver, object) ∈ t.objects :=
          -- The object a caller waits with is one of those that the invariant speaks of.
          mem_objects.2 (.inr (.inl ⟨caller, mem_of_lookup waits⟩))
        simpa only [Traffic.step, Traffic.complete, waits, keep_of_find?_eq_none object found] using
          (h.insert caller found mem).forget _
  | clear => exact h.clear

/-- What holds at any time holds after any steps. -/
theorem foldl (h : t.Sound) (steps : List Step) : (steps.foldl Traffic.step t).Sound := by
  induction steps generalizing t with
  | nil => exact h
  | cons s steps ih => exact ih (h.step s)

end Sound

/-- What holds at any time holds after any steps from the start. -/
theorem sound_run (steps : List Step) : (run steps).Sound :=
  Sound.start.foldl steps

/-- A completed call is one of the objects. -/
theorem mem_objects_of_completed {t : Traffic} {caller : Nat} {driver : DriverInfo}
    {object : SharedResolution} (h : .completed caller driver object ∈ t.history) :
    (driver, object) ∈ t.objects :=
  mem_objects.2 (.inr (.inr ⟨_, h, rfl⟩))

/-- The drivers that are kept are those of the calls since the last clear. -/
theorem Sound.count_eq {t : Traffic} (h : t.Sound) :
    t.resolver.count = ((sinceClear t.history).map Prod.fst).dedup.length := by
  have same : (t.resolver.kept.map Prod.fst).Perm ((sinceClear t.history).map Prod.fst).dedup := by
    refine (List.perm_ext_iff_of_nodup h.nodup (List.nodup_dedup _)).2 fun driver => ?_
    simp only [List.mem_dedup, List.mem_map, h.kept]
  calc t.resolver.count = (t.resolver.kept.map Prod.fst).length := (List.length_map ..).symm
    _ = ((sinceClear t.history).map Prod.fst).dedup.length := same.length_eq

/-- An idle caller that goes through its steps with no one in between resolves its driver: it gets
what `Resolver.resolve` gives, the resolver is the one after it, and no one else notices.  The steps
of the traffic are the halves of this call. -/
theorem step_lookup_keep (t : Traffic) (caller : Nat) (driver : DriverInfo)
    (idle : ∀ made, (caller, made) ∉ t.waiting) :
    (t.step (.lookup caller driver)).step (.keep caller) =
      { t with
        resolver := (t.resolver.resolve driver).2
        history := .completed caller driver (t.resolver.resolve driver).1 :: t.history } := by
  have waits : t.waiting.lookup caller = none :=
    List.lookup_eq_none_iff.2 fun other mem => by
      have ne : caller ≠ other.1 := fun same => idle other.2 (same ▸ mem)
      simpa using ne
  cases found : t.resolver.find? driver with
  -- Found at once, so nobody waits and the second step does nothing.
  | some object =>
    simp [Traffic.step, complete, resolve, waits, lookup_of_find?_eq_some found]
  | none =>
    -- Nobody else waits under the caller's name, so taking it off the list leaves the others.
    have others : t.waiting.filter (·.1 != caller) = t.waiting :=
      List.filter_eq_self.2 fun other mem => by
        have ne : other.1 ≠ caller := fun same => idle other.2 (same ▸ mem)
        simpa using ne
    have found' : find? { t.resolver with nextIdentity := t.resolver.nextIdentity + 1 } driver =
      none := found
    simp [Traffic.step, complete, resolve, waits, others, lookup_of_find?_eq_none found,
      keep_of_find?_eq_none _ found']

end Traffic

/-- Between two calls for one driver that were handed different objects lies a clear. -/
theorem Steady.eq_of_split {caller caller' : Nat} {driver : DriverInfo}
    {object other : SharedResolution} {between older : List Event} (newer : List Event)
    (h : Steady (newer ++ .completed caller driver object ::
      (between ++ .completed caller' driver other :: older)))
    (kept : .cleared ∉ between) : other = object := by
  -- What came later is dropped first; then the calls in between are gone through, none of which
  -- is a clear.
  induction newer with
  | cons event newer ih =>
    cases event with
    | cleared => exact ih h
    | completed => exact ih h.2
  | nil =>
    refine h.1 other ?_
    clear h
    induction between with
    | nil => exact List.mem_cons_self ..
    | cons event between ih =>
      have rest := ih fun mem => kept (List.mem_cons_of_mem _ mem)
      cases event with
      | cleared => exact absurd (List.mem_cons_self ..) kept
      | completed => exact List.mem_cons_of_mem _ rest

/-- **Callers that share a resolver** cannot tell it from none, whatever steps they take in whatever
order and whenever it is cleared.  Each object that was handed out has the value its driver is
resolved to.  At any time a driver has one kept object at most, with that value.  Calls for one
driver get one object unless a clear lies between them, calls for different drivers never get the
same one, and as many objects are kept as drivers were resolved since the last clear.  Calls do
complete: see `Traffic.step_lookup_keep`. -/
theorem run_transparent (steps : List Step) :
    (∀ caller driver object, .completed caller driver object ∈ (Traffic.run steps).history →
      object.resolution = driver.resolve) ∧
    ((Traffic.run steps).resolver.kept.map Prod.fst).Nodup ∧
    (∀ entry ∈ (Traffic.run steps).resolver.kept, entry.2.resolution = entry.1.resolve) ∧
    (∀ newer between older caller caller' driver object other,
      (Traffic.run steps).history = newer ++ .completed caller driver object ::
        (between ++ .completed caller' driver other :: older) →
      .cleared ∉ between → other = object) ∧
    (∀ caller caller' driver driver' object other,
      .completed caller driver object ∈ (Traffic.run steps).history →
      .completed caller' driver' other ∈ (Traffic.run steps).history →
      driver ≠ driver' → object.identity ≠ other.identity) ∧
    (Traffic.run steps).resolver.count =
      ((sinceClear (Traffic.run steps).history).map Prod.fst).dedup.length := by
  -- All six parts are read off the invariant of a run.
  have h := Traffic.sound_run steps
  refine ⟨?_, h.nodup, ?_, ?_, ?_, h.count_eq⟩
  · intro caller driver object done
    exact h.value _ (Traffic.mem_objects_of_completed done)
  · intro entry kept
    exact h.value entry (Traffic.mem_objects.2 (.inl kept))
  · intro newer between older caller caller' driver object other split kept
    exact Steady.eq_of_split newer (split ▸ h.steady) kept
  · intro caller caller' driver driver' object other done done' ne same
    exact ne (h.owner _ (Traffic.mem_objects_of_completed done)
      _ (Traffic.mem_objects_of_completed done') same)

/-- An object made before a clear is kept after it, where no other one is. -/
example : (Traffic.run [.lookup 0 (.ofIdentity "db2"), .clear, .keep 0]).resolver.count = 1 := by
  decide +kernel

end Resolver
end PagedQuery
