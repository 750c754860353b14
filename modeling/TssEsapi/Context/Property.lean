import TssEsapi.Context.Execute

/-!
# The property cache

`get_tpm_property` answers from `cached_tpm_properties` when it can.  Otherwise it asks the TPM
for a batch of four properties starting at the tag, without sessions, stores every entry of the
answer, later entries overwriting earlier ones, and answers from the cache again.

The cache never loses a tag, but an entry is not frozen: a batch fetched for another tag
overwrites it with whatever value that batch reports, so an entry keeps its value over a run
only while the TPM reports no other value for it.
-/

namespace TssEsapi

/-- The value the last entry for `tag` in `props` carries. -/
def lastReported (props : List TaggedProperty) (tag : PropertyTag) : Option UInt32 :=
  (props.reverse.find? (·.property == tag)).map (·.value)

/-- The entry `lastReported` picks is one of the answer's entries for the tag. -/
theorem lastReported_mem {props : List TaggedProperty} {tag : PropertyTag} {value : UInt32}
    (reported : lastReported props tag = some value) :
    ∃ entry ∈ props, entry.property = tag ∧ entry.value = value := by
  obtain ⟨entry, found, rfl⟩ := Option.map_eq_some'.mp reported
  exact ⟨entry, List.mem_reverse.mp (List.mem_of_find?_eq_some found),
    by simpa using List.find?_some found, rfl⟩

/-- Every entry the TPM reports for `tag`, in any answer to a capability query, carries
`value`. -/
def Tpm.ReportsOnly (tpm : Tpm) (tag : PropertyTag) (value : UInt32) : Prop :=
  ∀ calls props moreData, tpm.getCapability calls = .ok (.tpmProperties props, moreData) →
    ∀ taggedProperty ∈ props, taggedProperty.property = tag → taggedProperty.value = value

namespace Context

/-- The `for` loop of `get_tpm_property`: `insert` each returned entry into the cache, in
order. -/
def insertAll (cache : PropertyTag → Option UInt32) (props : List TaggedProperty) :
    PropertyTag → Option UInt32 :=
  props.foldl (fun cache taggedProperty tag =>
    if tag = taggedProperty.property then some taggedProperty.value else cache tag) cache

/-- After the loop, a tag holds the value of its last returned entry, or its old value. -/
theorem insertAll_apply (cache : PropertyTag → Option UInt32) (props : List TaggedProperty)
    (tag : PropertyTag) :
    insertAll cache props tag = (lastReported props tag).or (cache tag) := by
  induction props using List.reverseRecOn with
  | nil => simp [insertAll, lastReported]
  | append_singleton props entry ih =>
    simp only [insertAll, List.foldl_append, List.foldl_cons, List.foldl_nil] at ih ⊢
    by_cases hit : tag = entry.property
    · simp [lastReported, hit]
    · simp only [hit, if_false, ih]
      simp [lastReported, Ne.symm hit]

/-- The loop never removes a tag from the cache. -/
theorem insertAll_isSome {cache : PropertyTag → Option UInt32} {tag : PropertyTag}
    (cached : (cache tag).isSome) (props : List TaggedProperty) :
    (insertAll cache props tag).isSome := by
  rw [insertAll_apply]
  cases lastReported props tag <;> simp [cached]

theorem insertAll_eq (cache : PropertyTag → Option UInt32) (props : List TaggedProperty) :
    insertAll cache props = fun tag => (lastReported props tag).or (cache tag) :=
  funext (insertAll_apply cache props)

section Native

variable (tpm : Tpm)

/-- `get_tpm_property`. -/
def getTpmProperty (property : PropertyTag) : ContextM (Except Error (Option UInt32)) := do
  if let some val := (← get).cachedTpmProperties property then
    return .ok (some val)
  match ← executeWithoutSession (getCapability tpm .tpmProperties property.value 4) with
  | .error e => return .error e
  | .ok (capabs, _) =>
    match capabs with
    | .tpmProperties props =>
      modify fun self =>
        { self with cachedTpmProperties := insertAll self.cachedTpmProperties props }
      return .ok ((← get).cachedTpmProperties property)
    | _ => return .error (.wrapperError .wrongValueFromTpm)

/-- The query `get_tpm_property` issues for `property`: four TPM properties from the tag on,
with no session. -/
def propertyQuery (property : PropertyTag) : EsysCall :=
  .getCapability .tpmProperties property.value 4 (none, none, none)

variable {self : Context} {property : PropertyTag}

theorem getTpmProperty_run_of_cached {val : UInt32}
    (hit : self.cachedTpmProperties property = some val) :
    (getTpmProperty tpm property).run self = some (.ok (some val), self) := by
  simp [getTpmProperty, hit]

/-- The outcome of a query the TPM answered with `answer`. -/
def afterQuery (self : Context) (property : PropertyTag) :
    Except Error (CapabilityData × Bool) → Option (Except Error (Option UInt32) × Context)
  | .error e => some (.error e, self)
  | .ok (.tpmProperties props, _) =>
    let cache := fun tag => (lastReported props tag).or (self.cachedTpmProperties tag)
    some (.ok (cache property), { self with cachedTpmProperties := cache })
  | .ok (.other _, _) => some (.error (.wrapperError .wrongValueFromTpm), self)

theorem getTpmProperty_run_of_uncached (miss : self.cachedTpmProperties property = none)
    (open_ : self.esysContext.isSome) :
    let queried := self.issue (propertyQuery property)
    (getTpmProperty tpm property).run self =
      afterQuery queried property (tpm.getCapability queried.esysCalls) := by
  have queriedOpen :
      ({ self with sessions := (none, none, none) } : Context).esysContext.isSome := open_
  simp only [getTpmProperty, StateT.run_bind, StateT.run_get, Option.bind_eq_bind, Option.pure_def,
    Option.some_bind, StateT.run_pure, miss, executeWithoutSession, executeWithSessions_run,
    runScoped, getCapability_run tpm _ _ _ queriedOpen, Option.map_some', issue_esysCalls,
    propertyQuery, insertAll_eq]
  split
  next answer => simp only [answer]; rfl
  next capabs _ answer => simp only [answer]; cases capabs <;> rfl

/-- `get_tpm_property` is a cache-through lookup: a cached tag is answered from the cache and
nothing changes; otherwise exactly one query is issued, with no session, its answer decides the
result and the new cache, and the session slots end as they were. -/
theorem getTpmProperty_cache_through (open_ : self.esysContext.isSome) :
    (getTpmProperty tpm property).run self =
      match self.cachedTpmProperties property with
      | some val => some (.ok (some val), self)
      | none =>
        afterQuery (self.issue (propertyQuery property)) property
          (tpm.getCapability (self.issue (propertyQuery property)).esysCalls) := by
  cases cached : self.cachedTpmProperties property with
  | some val => exact getTpmProperty_run_of_cached tpm cached
  | none => exact getTpmProperty_run_of_uncached tpm cached open_

theorem getTpmProperty_cache_through_accepting :
    initial.esysContext.isSome ∧
      (getTpmProperty Tpm.accepting ⟨0x100⟩).run initial =
        afterQuery (initial.issue (propertyQuery ⟨0x100⟩)) ⟨0x100⟩
          (Tpm.accepting.getCapability (initial.issue (propertyQuery ⟨0x100⟩)).esysCalls) :=
  ⟨rfl, @getTpmProperty_cache_through Tpm.accepting initial ⟨0x100⟩ rfl⟩

/-- A lookup that returned `Ok(result)` left the cache's entry for the tag at `result`: the
value it answered, or no entry at all. -/
theorem getTpmProperty_returned_cached (open_ : self.esysContext.isSome) {result : Option UInt32}
    {after : Context} (returned : (getTpmProperty tpm property).run self = some (.ok result, after)) :
    after.cachedTpmProperties property = result ∧ after.esysContext.isSome := by
  cases cached : self.cachedTpmProperties property with
  | some val =>
    rw [getTpmProperty_run_of_cached tpm cached] at returned
    obtain ⟨rfl, rfl⟩ : some val = result ∧ self = after := by simpa using returned
    exact ⟨cached, open_⟩
  | none =>
    rw [getTpmProperty_run_of_uncached tpm cached open_] at returned
    generalize tpm.getCapability _ = answer at returned
    rcases answer with _ | ⟨_ | _, _⟩ <;> simp only [afterQuery, Option.some.injEq, Prod.mk.injEq,
      reduceCtorEq, Except.ok.injEq, false_and] at returned
    obtain ⟨found, rfl⟩ := returned
    exact ⟨found, open_⟩

section Consistent

variable {tag : PropertyTag} {v : UInt32}

/-- Whatever the TPM answers, a query keeps a cached entry whose value the TPM reports
consistently, and the native context. -/
theorem afterQuery_keeps_entry (consistent : tpm.ReportsOnly tag v)
    (hit : self.cachedTpmProperties tag = some v) (open_ : self.esysContext.isSome)
    (calls : List EsysCall) :
    ∃ res after, afterQuery self property (tpm.getCapability calls) = some (res, after) ∧
      after.cachedTpmProperties tag = some v ∧ after.esysContext.isSome := by
  rcases answer : tpm.getCapability calls with _ | ⟨props | _, moreData⟩
  · exact ⟨_, _, rfl, hit, open_⟩
  · refine ⟨_, _, rfl, ?_, open_⟩
    show (lastReported props tag).or _ = _
    cases reported : lastReported props tag with
    | none => exact hit
    | some w =>
      obtain ⟨entry, mem, prop, rfl⟩ := lastReported_mem reported
      exact congrArg some (consistent calls props moreData answer entry mem prop)
  · exact ⟨_, _, rfl, hit, open_⟩

/-- One lookup, of any tag, keeps such an entry and the native context. -/
theorem getTpmProperty_keeps_entry (lookedUp : PropertyTag) (consistent : tpm.ReportsOnly tag v)
    (hit : self.cachedTpmProperties tag = some v) (open_ : self.esysContext.isSome) :
    ∃ res after, (getTpmProperty tpm lookedUp).run self = some (res, after) ∧
      after.cachedTpmProperties tag = some v ∧ after.esysContext.isSome := by
  cases cached : self.cachedTpmProperties lookedUp with
  | some val => exact ⟨_, _, getTpmProperty_run_of_cached tpm cached, hit, open_⟩
  | none =>
    rw [getTpmProperty_run_of_uncached tpm cached open_]
    exact @afterQuery_keeps_entry tpm (self.issue (propertyQuery lookedUp)) lookedUp tag v
      consistent hit open_ _

/-- A run of lookups keeps such an entry and the native context. -/
theorem mapM_getTpmProperty_keeps_entry (consistent : tpm.ReportsOnly tag v)
    (tags : List PropertyTag) (hit : self.cachedTpmProperties tag = some v)
    (open_ : self.esysContext.isSome) :
    ∃ results after, (tags.mapM (getTpmProperty tpm)).run self = some (results, after) ∧
      after.cachedTpmProperties tag = some v ∧ after.esysContext.isSome := by
  induction tags generalizing self with
  | nil => exact ⟨[], _, rfl, hit, open_⟩
  | cons lookedUp tags ih =>
    obtain ⟨res, next, ran, hitNext, openNext⟩ :=
      getTpmProperty_keeps_entry tpm lookedUp consistent hit open_
    obtain ⟨results, after, rest, hitAfter, openAfter⟩ := ih hitNext openNext
    refine ⟨res :: results, after, ?_, hitAfter, openAfter⟩
    simp only [List.mapM_cons, StateT.run_bind, ran, rest, Option.bind_eq_bind, Option.some_bind,
      StateT.run_pure, Option.pure_def]

end Consistent

end Native

/-- A TPM that reports `TPM_PT_FAMILY_INDICATOR` as `3` in every batch. -/
def steadyTpm : Tpm :=
  { Tpm.accepting with getCapability := fun _ => .ok (.tpmProperties [⟨⟨0x100⟩, 3⟩], false) }

/-- A TPM whose batches report, for each tag asked for, how many native calls it has answered,
as the values of variable properties such as `TPM_PT_HR_LOADED` move between queries. -/
def countingTpm : Tpm :=
  { Tpm.accepting with
    getCapability := fun calls =>
      match calls.getLast? with
      | some (.getCapability _ property propertyCount _) =>
        .ok (.tpmProperties ((List.range propertyCount.toNat).map fun offset =>
          ⟨⟨property + offset.toUInt32⟩, calls.length.toUInt32⟩), false)
      | _ => .ok (.tpmProperties [], false) }

/-- `0x201` is cached as `1`; the batch fetched for `0x200` reports it as `2`, overwrites the
entry, and the next lookup of `0x201` answers `2` from the cache. -/
theorem getTpmProperty_overwritten_by_batch :
    ((([⟨0x201⟩, ⟨0x200⟩, ⟨0x201⟩] : List PropertyTag).mapM (getTpmProperty countingTpm)).run
        initial).map (fun (results, after) => (results, after.esysCalls)) =
      some ([.ok (some 1), .ok (some 2), .ok (some 2)],
        [propertyQuery ⟨0x201⟩, propertyQuery ⟨0x200⟩]) :=
  rfl

/-- A lookup right after one that returned `Ok(result)`: the first left the cache's entry at
`result`, so after `Ok(Some(v))` the second answers `v` from the cache and changes nothing, and
after `Ok(None)` it issues the same query again, exactly once, and answers whatever that query's
answer gives. -/
theorem getTpmProperty_lookup_twice (tpm : Tpm) {self : Context} {property : PropertyTag}
    (open_ : self.esysContext.isSome) {result : Option UInt32}
    {mid : Context} (first : (getTpmProperty tpm property).run self = some (.ok result, mid)) :
    mid.cachedTpmProperties property = result ∧
      (getTpmProperty tpm property).run mid =
        match result with
        | some value => some (.ok (some value), mid)
        | none =>
          afterQuery (mid.issue (propertyQuery property)) property
            (tpm.getCapability (mid.issue (propertyQuery property)).esysCalls) := by
  obtain ⟨cached, midOpen⟩ := getTpmProperty_returned_cached tpm open_ first
  refine ⟨cached, ?_⟩
  cases result with
  | some value => exact getTpmProperty_run_of_cached tpm cached
  | none => exact getTpmProperty_run_of_uncached tpm cached midOpen

/-- A fresh context after a lookup of `TPM_PT_VENDOR_STRING_4` (`0x109`), which `Tpm.accepting`
answers with no property. -/
def vendorStringQueried : Context :=
  { initial.issue (propertyQuery ⟨0x109⟩) with
    cachedTpmProperties := insertAll initial.cachedTpmProperties [] }

theorem getTpmProperty_lookup_twice_vendorString :
    initial.esysContext.isSome ∧
      (getTpmProperty Tpm.accepting ⟨0x109⟩).run initial = some (.ok none, vendorStringQueried) ∧
      vendorStringQueried.cachedTpmProperties ⟨0x109⟩ = none ∧
      (getTpmProperty Tpm.accepting ⟨0x109⟩).run vendorStringQueried =
        afterQuery (vendorStringQueried.issue (propertyQuery ⟨0x109⟩)) ⟨0x109⟩
          (Tpm.accepting.getCapability
            (vendorStringQueried.issue (propertyQuery ⟨0x109⟩)).esysCalls) :=
  ⟨rfl, rfl, @getTpmProperty_lookup_twice Tpm.accepting initial ⟨0x109⟩ rfl none _ rfl⟩

/-- Two lookups in a row of a tag the TPM does not report: both return `Ok(None)`, and the
second issues the capability query again. -/
theorem getTpmProperty_requeries_unreported_tag :
    ((([⟨0x109⟩, ⟨0x109⟩] : List PropertyTag).mapM (getTpmProperty Tpm.accepting)).run
        initial).map (fun (results, after) => (results, after.esysCalls)) =
      some ([.ok none, .ok none], [propertyQuery ⟨0x109⟩, propertyQuery ⟨0x109⟩]) :=
  rfl

end Context

end TssEsapi
