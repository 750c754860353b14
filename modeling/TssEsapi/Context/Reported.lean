import TssEsapi.Context.Lifecycle

/-!
# The cache holds only what the TPM reported

`get_tpm_property` fills its cache from nothing but the answer to its own capability query, and
no other method writes the cache.  So over every run, every value in the cache is one that a
capability answer earlier in the run reported for that tag, and `get_tpm_property` never answers
a value the TPM did not report.
-/

namespace TssEsapi

/-- A capability query among the calls `calls` was answered with an entry reporting `value` for
`property`. -/
def Tpm.Reported (tpm : Tpm) (calls : List EsysCall) (property : PropertyTag) (value : UInt32) :
    Prop :=
  ∃ issued capability first count sessions props moreData,
    issued ++ [.getCapability capability first count sessions] <+: calls ∧
    tpm.getCapability (issued ++ [.getCapability capability first count sessions]) =
      .ok (.tpmProperties props, moreData) ∧
    ⟨property, value⟩ ∈ props

/-- A report stays in the log as calls are added. -/
theorem Tpm.Reported.append {tpm : Tpm} {calls : List EsysCall} {property : PropertyTag}
    {value : UInt32} (reported : tpm.Reported calls property value) (more : List EsysCall) :
    tpm.Reported (calls ++ more) property value := by
  obtain ⟨issued, capability, first, count, sessions, props, moreData, before, answer, entry⟩ :=
    reported
  exact ⟨issued, capability, first, count, sessions, props, moreData,
    before.trans (List.prefix_append _ _), answer, entry⟩

namespace Context

/-- Every value in the cache was reported by the TPM in the calls issued so far. -/
def CacheReported (tpm : Tpm) (self : Context) : Prop :=
  ∀ property value, self.cachedTpmProperties property = some value →
    tpm.Reported self.esysCalls property value

section Native

variable (tpm : Tpm) {self : Context}

/-- A change that keeps the cache and only adds calls keeps every value reported. -/
theorem CacheReported.of_extends {after : Context} (holds : CacheReported tpm self)
    (cache : after.cachedTpmProperties = self.cachedTpmProperties)
    (more : List EsysCall) (calls : after.esysCalls = self.esysCalls ++ more) :
    CacheReported tpm after := by
  intro property value cached
  rw [calls]
  exact (holds property value (cache ▸ cached)).append more

/-- Native calls and writes of the handle manager keep every value reported. -/
theorem cacheReported_callInvariant : CallInvariant (CacheReported tpm) :=
  ⟨fun _ call holds => holds.of_extends tpm rfl [call] rfl, fun _ _ holds => holds⟩

theorem setSessions_reported (sessionHandles : SessionTriple) :
    Hoare (CacheReported tpm) (CacheReported tpm) (setSessions sessionHandles) :=
  Hoare.of_modify fun _ holds => holds

theorem clearSessions_reported : Hoare (CacheReported tpm) (CacheReported tpm) clearSessions :=
  Hoare.of_modify fun _ holds => holds

theorem executeWithSessions_reported {T : Type} (sessionHandles : SessionTriple) {f : ContextM T}
    (body : Hoare (CacheReported tpm) (CacheReported tpm) f) :
    Hoare (CacheReported tpm) (CacheReported tpm) (executeWithSessions sessionHandles f) :=
  Hoare.of_get.bind fun _ => (setSessions_reported tpm _).bind fun _ => body.bind fun _ =>
    (setSessions_reported tpm _).bind fun _ => Hoare.of_pure _

/-- A lookup that misses the cache queries the TPM, so it returns only on a context that still
owns its native context. -/
theorem open_of_getTpmProperty_run {property : PropertyTag}
    {res : Except Error (Option UInt32)} {after : Context}
    (miss : self.cachedTpmProperties property = none)
    (ran : (getTpmProperty tpm property).run self = some (res, after)) :
    self.esysContext.isSome := by
  cases owned : self.esysContext with
  | some => rfl
  | none =>
    simp [getTpmProperty, miss, executeWithoutSession, executeWithSessions_run, runScoped,
      getCapability, esysCall_run_eq, owned] at ran

/-- A lookup stores only the entries of the answer to its own query. -/
theorem getTpmProperty_reported (property : PropertyTag) :
    Hoare (CacheReported tpm) (CacheReported tpm) (getTpmProperty tpm property) := by
  intro self res after holds ran
  cases hit : self.cachedTpmProperties property with
  | some value =>
    rw [getTpmProperty_run_of_cached tpm hit] at ran
    cases ran
    exact holds
  | none =>
    rw [getTpmProperty_run_of_uncached tpm hit (open_of_getTpmProperty_run tpm hit ran)] at ran
    unfold afterQuery at ran
    split at ran
    · cases ran
      exact holds.of_extends tpm rfl _ rfl
    · next props moreData answered =>
      cases ran
      intro tag value cached
      cases reported : lastReported props tag with
      | none =>
        simp only [reported, Option.none_or, issue_cachedTpmProperties] at cached
        exact (holds tag value cached).append _
      | some reportedValue =>
        simp only [reported, Option.or_some, Option.some.injEq] at cached
        obtain ⟨⟨_, _⟩, mem, rfl, rfl⟩ := lastReported_mem (cached ▸ reported)
        exact ⟨self.esysCalls, .tpmProperties, property.value, 4, (none, none, none), props,
          moreData, List.prefix_refl _, answered, mem⟩
    · cases ran
      exact holds.of_extends tpm rfl _ rfl

mutual

/-- Every method call keeps every cached value reported. -/
theorem Op.run_reported :
    ∀ op : Op, Hoare (CacheReported tpm) (CacheReported tpm) (op.run tpm)
  | .setSessions _ => (setSessions_reported tpm _).bind fun _ => Hoare.of_pure _
  | .clearSessions => (clearSessions_reported tpm).bind fun _ => Hoare.of_pure _
  | .getTpmProperty _ => (getTpmProperty_reported tpm _).map _
  | .getCapability _ _ _ => ((cacheReported_callInvariant tpm).hoare_getCapability tpm _ _ _).map _
  | .startAuthSession _ _ _ =>
    ((cacheReported_callInvariant tpm).hoare_startAuthSession tpm _ _ _).map _
  | .trSessSetAttributes _ _ _ =>
    (cacheReported_callInvariant tpm).hoare_trSessSetAttributes tpm _ _ _
  | .flushContext _ => (cacheReported_callInvariant tpm).hoare_release _ _ _
  | .trClose _ => (cacheReported_callInvariant tpm).hoare_release _ _ _
  | .trFromTpmPublic _ => ((cacheReported_callInvariant tpm).hoare_trFromTpmPublic tpm _).map _
  | .executeWithSessions _ body => executeWithSessions_reported tpm _ (Op.runList_reported body _)
  | .executeWithNullauthSession body =>
    (cacheReported_callInvariant tpm).hoare_executeWithNullauthSession tpm id fun _ =>
      executeWithSessions_reported tpm _ (Op.runList_reported body _)
  | .executeWithTemporaryObject object body =>
    @executeWithTemporaryObject_hoare _ tpm _ Unit object (fun _ => Op.runList tpm body (.ok ()))
      (fun _ => (cacheReported_callInvariant tpm).hoare_release _ _ _) (Op.runList_reported body _)

/-- Every run of method calls keeps every cached value reported. -/
theorem Op.runList_reported : ∀ (ops : List Op) (outcome : Except Error Unit),
    Hoare (CacheReported tpm) (CacheReported tpm) (Op.runList tpm ops outcome)
  | [], _ => Hoare.of_pure _
  | op :: ops, _ => (Op.run_reported op).bind fun outcome => Op.runList_reported ops outcome

end

/-- After any run of method calls from `Context::new`, a `get_tpm_property` returns, and a value
it answers is one that a capability answer of the TPM, among the calls issued so far, reported
for the tag: the cache never makes a value up. -/
theorem getTpmProperty_answers_reported {ctx : Context} (built : Context.new tpm = .ok ctx)
    (ops : List Op) (property : PropertyTag) :
    ∃ outcome running result after,
      (Op.runList tpm ops (.ok ())).run ctx = some (outcome, running) ∧
      (getTpmProperty tpm property).run running = some (result, after) ∧
      ∀ value, result = .ok (some value) → tpm.Reported after.esysCalls property value := by
  obtain rfl := eq_initial_of_new built
  obtain ⟨outcome, running, ran, frame⟩ := Op.runList_inFrame tpm ops (.ok ()) initial rfl
  have open_ : running.esysContext.isSome := frame.esysContext ▸ rfl
  obtain ⟨result, after, looked, -⟩ := getTpmProperty_inFrame tpm property running open_
  have holds : CacheReported tpm running :=
    Op.runList_reported tpm ops _ initial outcome running (fun _ _ cached => nomatch cached) ran
  refine ⟨outcome, running, result, after, ran, looked, fun value answered => ?_⟩
  subst answered
  exact getTpmProperty_reported tpm property running _ after holds looked property value
    (getTpmProperty_returned_cached tpm open_ looked).1

end Native

/-- A TPM that reports `TPM_PT_FAMILY_INDICATOR` as `"2.0"` in every answer. -/
def familyTpm : Tpm :=
  { Tpm.accepting with
    getCapability := fun _ => .ok (.tpmProperties [⟨⟨0x100⟩, 0x322E3000⟩], false) }

theorem getTpmProperty_answers_reported_sampleOps :
    Context.new familyTpm = .ok initial ∧
      ∃ outcome running result after,
        (Op.runList familyTpm sampleOps (.ok ())).run initial = some (outcome, running) ∧
        (getTpmProperty familyTpm ⟨0x100⟩).run running = some (result, after) ∧
        ∀ value, result = .ok (some value) →
          familyTpm.Reported after.esysCalls ⟨0x100⟩ value :=
  ⟨rfl, @getTpmProperty_answers_reported familyTpm initial rfl sampleOps ⟨0x100⟩⟩

end Context

end TssEsapi
