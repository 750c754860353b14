import TssEsapi.Context.Drop
import TssEsapi.Context.Property

/-!
# The life of a context

A context owns its native context from `Context::new` until `drop`.  No method but `drop`
writes `esys_context`, so every `mut_context` on the way finds it, and `drop` takes it only
after the last release of its sweep.  Likewise only `get_tpm_property` writes the property
cache, and only by inserting, so a tag once cached stays cached.

`Frame` is what a method may change, and `InFrame` says of one computation that from every
context that owns a native context it runs to its end, without a panic, within the frame.  Each
monad operation and each method gets one lemma, and `Op.run` strings method calls together, the
scoped helpers running further calls inside them.
-/

namespace TssEsapi

namespace Context

/-- What a method may change about the context: it keeps the native context, and every tag of
the property cache stays in the cache. -/
structure Frame (before after : Context) : Prop where
  esysContext : after.esysContext = before.esysContext
  cached : ∀ tag, (before.cachedTpmProperties tag).isSome → (after.cachedTpmProperties tag).isSome

theorem Frame.refl (self : Context) : Frame self self :=
  ⟨rfl, fun _ cached => cached⟩

theorem Frame.trans {self mid after : Context} (first : Frame self mid) (rest : Frame mid after) :
    Frame self after :=
  ⟨rest.esysContext.trans first.esysContext, fun tag cached => rest.cached tag (first.cached tag cached)⟩

/-- A write that touches neither the native context nor the cache stays in the frame. -/
theorem Frame.of_eq {self after : Context} (esysContext : after.esysContext = self.esysContext)
    (cache : after.cachedTpmProperties = self.cachedTpmProperties) : Frame self after :=
  ⟨esysContext, fun _ cached => cache ▸ cached⟩

/-- The computation runs to its end, without a panic, from every context that owns a native
context, and stays in the frame. -/
def InFrame {α : Type} (m : ContextM α) : Prop :=
  ∀ self, self.esysContext.isSome → ∃ res after, m.run self = some (res, after) ∧ Frame self after

namespace InFrame

variable {α β : Type}

theorem of_pure (a : α) : InFrame (pure a : ContextM α) :=
  fun self _ => ⟨a, self, rfl, .refl self⟩

theorem of_get : InFrame (get : ContextM Context) :=
  fun self _ => ⟨self, self, rfl, .refl self⟩

theorem of_modify {f : Context → Context} (keeps : ∀ self, Frame self (f self)) :
    InFrame (modify f : ContextM Unit) :=
  fun self _ => ⟨(), f self, rfl, keeps self⟩

theorem bind {m : ContextM α} {f : α → ContextM β} (first : InFrame m)
    (rest : ∀ a, InFrame (f a)) : InFrame (m >>= f) := by
  intro self open_
  obtain ⟨res, mid, ran, midFrame⟩ := first self open_
  obtain ⟨res', after, ran', afterFrame⟩ := rest res mid (midFrame.esysContext ▸ open_)
  exact ⟨res', after, by simp [ran, ran'], midFrame.trans afterFrame⟩

theorem map {m : ContextM α} (f : α → β) (keeps : InFrame m) : InFrame (f <$> m) := by
  rw [← bind_pure_comp]
  exact keeps.bind fun a => of_pure (f a)

/-- A loop of computations that each stay in the frame stays in the frame. -/
theorem mapM {f : α → ContextM β} (each : ∀ a, InFrame (f a)) :
    ∀ as : List α, InFrame (as.mapM f)
  | [] => of_pure []
  | a :: as => by
    rw [List.mapM_cons]
    exact (each a).bind fun b => (mapM each as).bind fun bs => of_pure (b :: bs)

end InFrame

/-- Every run of the computation that returns, from a context satisfying `pre`, ends in a
context satisfying `post`.  A panic is no run, so this says nothing of termination, which
`InFrame` gives. -/
def Hoare {α : Type} (pre post : Context → Prop) (m : ContextM α) : Prop :=
  ∀ self res after, pre self → m.run self = some (res, after) → post after

namespace Hoare

variable {α β : Type} {pre mid post : Context → Prop}

theorem of_pure (a : α) : Hoare pre pre (pure a : ContextM α) := by
  rintro self res after holds ⟨⟩
  exact holds

theorem of_get : Hoare pre pre (get : ContextM Context) := by
  rintro self res after holds ⟨⟩
  exact holds

theorem of_modify {f : Context → Context} (step : ∀ self, pre self → post (f self)) :
    Hoare pre post (modify f : ContextM Unit) := by
  rintro self res after holds ⟨⟩
  exact step self holds

theorem bind {m : ContextM α} {f : α → ContextM β} (first : Hoare pre mid m)
    (rest : ∀ a, Hoare mid post (f a)) : Hoare pre post (m >>= f) := by
  intro self res after holds ran
  obtain ⟨⟨a, between⟩, firstRan, restRan⟩ := Option.bind_eq_some.mp ran
  exact rest a between res after (first self a between holds firstRan) restRan

theorem map {m : ContextM α} (f : α → β) (keeps : Hoare pre post m) :
    Hoare pre post (f <$> m) := by
  rw [← bind_pure_comp]
  exact keeps.bind fun a => of_pure (f a)

theorem of_mutContext : Hoare pre pre mutContext := by
  intro self res after holds ran
  cases owned : self.esysContext <;> simp [StateT.run, mutContext, owned] at ran
  exact ran ▸ holds

end Hoare

/-- A native call ends in the context that issued it, when it returns. -/
theorem esysCall_hoare {α : Type} {pre post : Context → Prop} (call : EsysCall)
    (answer : List EsysCall → α) (step : ∀ self, pre self → post (self.issue call)) :
    Hoare pre post (esysCall call answer) :=
  Hoare.of_mutContext.bind fun _ => (Hoare.of_modify step).bind fun _ =>
    Hoare.of_get.bind fun _ => Hoare.of_pure _

section Native

variable {inv : Context → Prop} (tpm : Tpm)

/-- The fresh session's helper keeps what its calls and its scope keep, on every path. -/
theorem executeWithNullauthSession_hoare {E T : Type} (ofError : Error → E)
    {f : ContextM (Except E T)}
    (started : Hoare inv inv (startAuthSession tpm .hmac .aes128Cfb .sha256))
    (attributed : ∀ session attributes mask,
      Hoare inv inv (trSessSetAttributes tpm session attributes mask))
    (flushed : ∀ handle, Hoare inv inv (flushContext tpm handle))
    (scope : ∀ sessionHandles, Hoare inv inv (executeWithSessions sessionHandles f)) :
    Hoare inv inv (executeWithNullauthSession tpm ofError f) := by
  refine started.bind fun started => ?_
  rcases started with _ | _ | authSession
  · exact Hoare.of_pure _
  · exact Hoare.of_pure _
  · refine (attributed _ _ _).bind fun attributed => ?_
    rcases attributed with _ | ⟨⟩
    · exact Hoare.of_pure _
    · refine (scope _).bind fun _ => (flushed _).bind fun flushed => ?_
      rcases flushed with _ | ⟨⟩ <;> exact Hoare.of_pure _

/-- The flush after a temporary object's closure keeps what the closure established. -/
theorem executeWithTemporaryObject_hoare {pre : Context → Prop} {T : Type} (object : ObjectHandle)
    {f : ObjectHandle → ContextM (Except Error T)}
    (flushed : ∀ handle, Hoare inv inv (flushContext tpm handle))
    (body : Hoare pre inv (f object)) :
    Hoare pre inv (executeWithTemporaryObject tpm object f) := by
  refine body.bind fun _ => (flushed _).bind fun flushed => ?_
  rcases flushed with _ | ⟨⟩ <;> exact Hoare.of_pure _

end Native

/-- A property that every native call and every write of the handle manager keep.  The commands
do nothing else, so each of them keeps it, whatever the TPM answers. -/
structure CallInvariant (inv : Context → Prop) : Prop where
  issue : ∀ self call, inv self → inv (self.issue call)
  handleManager : ∀ (self : Context) (handleManager : HandleManager), inv self →
    inv { self with handleManager }

namespace CallInvariant

variable {inv : Context → Prop} (keeps : CallInvariant inv) (tpm : Tpm)
include keeps

theorem hoare_esysCall {α : Type} (call : EsysCall) (answer : List EsysCall → α) :
    Hoare inv inv (esysCall call answer) :=
  esysCall_hoare call answer fun self => keeps.issue self call

theorem hoare_getCapability (capability : CapabilityType) (property propertyCount : UInt32) :
    Hoare inv inv (getCapability tpm capability property propertyCount) :=
  Hoare.of_get.bind fun _ => keeps.hoare_esysCall _ _

theorem hoare_startAuthSession (sessionType : SessionType) (symmetric : SymmetricDefinition)
    (authHash : HashingAlgorithm) :
    Hoare inv inv (startAuthSession tpm sessionType symmetric authHash) := by
  refine Hoare.of_get.bind fun _ => (keeps.hoare_esysCall _ _).bind fun started => ?_
  rcases started with _ | _ | handle
  · exact Hoare.of_pure _
  · exact Hoare.of_pure _
  · refine Hoare.of_get.bind fun self => ?_
    cases self.handleManager.addHandle handle .flush with
    | error => exact Hoare.of_pure _
    | ok =>
      refine (Hoare.of_modify ?_).bind fun _ => Hoare.of_pure _
      exact fun self holds => keeps.handleManager self _ holds

theorem hoare_trSessSetAttributes (session : AuthSession) (attributes mask : UInt8) :
    Hoare inv inv (trSessSetAttributes tpm session attributes mask) :=
  keeps.hoare_esysCall _ _

theorem hoare_release (call : EsysCall) (answer : List EsysCall → Except Error Unit)
    (handle : ObjectHandle) : Hoare inv inv (release call answer handle) := by
  refine (keeps.hoare_esysCall call answer).bind fun outcome =>
    (Hoare.of_modify fun self holds => ?_).bind fun _ => Hoare.of_pure _
  rcases outcome with _ | ⟨⟩
  · exact holds
  · exact keeps.handleManager self _ holds

theorem hoare_trFromTpmPublic (tpmHandle : TpmHandle) :
    Hoare inv inv (trFromTpmPublic tpm tpmHandle) := by
  refine Hoare.of_get.bind fun _ => (keeps.hoare_esysCall _ _).bind fun made => ?_
  rcases made with _ | handle
  · exact Hoare.of_pure _
  · refine Hoare.of_get.bind fun self => ?_
    cases self.handleManager.addHandle handle
        (if tpmHandle.mayBeFlushed then .flush else .close) with
    | error => exact Hoare.of_pure _
    | ok =>
      refine (Hoare.of_modify ?_).bind fun _ => Hoare.of_pure _
      exact fun self holds => keeps.handleManager self _ holds

/-- The fresh session's helper keeps what its scope keeps, on every path. -/
theorem hoare_executeWithNullauthSession {E T : Type} (ofError : Error → E)
    {f : ContextM (Except E T)}
    (scope : ∀ sessionHandles, Hoare inv inv (executeWithSessions sessionHandles f)) :
    Hoare inv inv (executeWithNullauthSession tpm ofError f) :=
  executeWithNullauthSession_hoare tpm ofError (keeps.hoare_startAuthSession tpm _ _ _)
    (fun _ _ _ => keeps.hoare_trSessSetAttributes tpm _ _ _) (fun _ => keeps.hoare_release _ _ _)
    scope

end CallInvariant

/-- A lookup keeps what its scoped query and any write of the cache keep. -/
theorem getTpmProperty_hoare {inv : Context → Prop} (tpm : Tpm) (property : PropertyTag)
    (query :
      Hoare inv inv (executeWithoutSession (getCapability tpm .tpmProperties property.value 4)))
    (cache : ∀ (self : Context) cachedTpmProperties, inv self →
      inv { self with cachedTpmProperties }) :
    Hoare inv inv (getTpmProperty tpm property) := by
  refine Hoare.of_get.bind fun _ => ?_
  split
  · exact Hoare.of_pure _
  · dsimp only
    refine (Hoare.of_pure ()).bind fun _ => query.bind fun answer => ?_
    rcases answer with _ | ⟨props | _, _⟩
    · exact Hoare.of_pure _
    · refine (Hoare.of_modify ?_).bind fun _ => Hoare.of_get.bind fun _ => Hoare.of_pure _
      exact fun self holds => cache self _ holds
    · exact Hoare.of_pure _

open InFrame

variable {T : Type}

theorem setSessions_inFrame (sessionHandles : SessionTriple) :
    InFrame (setSessions sessionHandles) :=
  of_modify fun _ => .of_eq rfl rfl

theorem clearSessions_inFrame : InFrame clearSessions :=
  of_modify fun _ => .of_eq rfl rfl

theorem executeWithSessions_inFrame (sessionHandles : SessionTriple) {f : ContextM T}
    (body : InFrame f) : InFrame (executeWithSessions sessionHandles f) :=
  of_get.bind fun _ => (setSessions_inFrame _).bind fun _ => body.bind fun _ =>
    (setSessions_inFrame _).bind fun _ => of_pure _

section Native

variable (tpm : Tpm)

theorem esysCall_inFrame {α : Type} (call : EsysCall) (answer : List EsysCall → α) :
    InFrame (esysCall call answer) :=
  fun _ open_ => ⟨_, _, esysCall_run call answer open_, .of_eq rfl rfl⟩

theorem getCapability_inFrame (capability : CapabilityType) (property propertyCount : UInt32) :
    InFrame (getCapability tpm capability property propertyCount) :=
  of_get.bind fun _ => esysCall_inFrame _ _

theorem startAuthSession_inFrame (sessionType : SessionType) (symmetric : SymmetricDefinition)
    (authHash : HashingAlgorithm) :
    InFrame (startAuthSession tpm sessionType symmetric authHash) := by
  refine of_get.bind fun _ => (esysCall_inFrame _ _).bind fun started => ?_
  rcases started with _ | _ | handle
  · exact of_pure _
  · exact of_pure _
  · refine of_get.bind fun self => ?_
    cases self.handleManager.addHandle handle .flush with
    | error => exact of_pure _
    | ok =>
      refine (of_modify ?_).bind fun _ => of_pure _
      exact fun _ => .of_eq rfl rfl

theorem trSessSetAttributes_inFrame (session : AuthSession) (attributes mask : UInt8) :
    InFrame (trSessSetAttributes tpm session attributes mask) :=
  esysCall_inFrame _ _

theorem release_inFrame (call : EsysCall) (answer : List EsysCall → Except Error Unit)
    (handle : ObjectHandle) : InFrame (release call answer handle) :=
  (esysCall_inFrame call answer).bind fun _ =>
    (of_modify fun self => .of_eq (self.afterRelease_esysContext handle _)
      (self.afterRelease_cachedTpmProperties handle _)).bind fun _ => of_pure _

theorem trFromTpmPublic_inFrame (tpmHandle : TpmHandle) :
    InFrame (trFromTpmPublic tpm tpmHandle) := by
  refine of_get.bind fun _ => (esysCall_inFrame _ _).bind fun made => ?_
  rcases made with _ | handle
  · exact of_pure _
  · refine of_get.bind fun self => ?_
    cases self.handleManager.addHandle handle
        (if tpmHandle.mayBeFlushed then .flush else .close) with
    | error => exact of_pure _
    | ok =>
      refine (of_modify ?_).bind fun _ => of_pure _
      exact fun _ => .of_eq rfl rfl

theorem getTpmProperty_inFrame (property : PropertyTag) :
    InFrame (getTpmProperty tpm property) := by
  refine of_get.bind fun self => ?_
  split
  · exact of_pure _
  · dsimp only
    refine (of_pure ()).bind fun _ =>
      (executeWithSessions_inFrame _ (getCapability_inFrame tpm _ _ _)).bind fun answer => ?_
    rcases answer with _ | ⟨props | _, _⟩
    · exact of_pure _
    · refine (of_modify ?_).bind fun _ => of_get.bind fun _ => of_pure _
      exact fun _ => ⟨rfl, fun _ cached => insertAll_isSome cached props⟩
    · exact of_pure _

theorem executeWithNullauthSession_inFrame {E : Type} (ofError : Error → E)
    {f : ContextM (Except E T)} (body : InFrame f) :
    InFrame (executeWithNullauthSession tpm ofError f) := by
  refine (startAuthSession_inFrame tpm _ _ _).bind fun started => ?_
  rcases started with _ | _ | authSession
  · exact of_pure _
  · exact of_pure _
  · refine (trSessSetAttributes_inFrame tpm _ _ _).bind fun attributed => ?_
    rcases attributed with _ | ⟨⟩
    · exact of_pure _
    · refine (executeWithSessions_inFrame _ body).bind fun _ =>
        (release_inFrame _ _ _).bind fun flushed => ?_
      rcases flushed with _ | ⟨⟩ <;> exact of_pure _

theorem executeWithTemporaryObject_inFrame (object : ObjectHandle)
    {f : ObjectHandle → ContextM (Except Error T)} (body : InFrame (f object)) :
    InFrame (executeWithTemporaryObject tpm object f) := by
  refine body.bind fun _ => (release_inFrame _ _ _).bind fun flushed => ?_
  rcases flushed with _ | ⟨⟩ <;> exact of_pure _

end Native

/-- A method call on a context.  The scoped helpers carry the calls their closure makes. -/
inductive Op
  | setSessions (sessionHandles : SessionTriple)
  | clearSessions
  | getTpmProperty (property : PropertyTag)
  | getCapability (capability : CapabilityType) (property propertyCount : UInt32)
  | startAuthSession (sessionType : SessionType) (symmetric : SymmetricDefinition)
      (authHash : HashingAlgorithm)
  | trSessSetAttributes (session : AuthSession) (attributes mask : UInt8)
  | flushContext (handle : ObjectHandle)
  | trClose (handle : ObjectHandle)
  | trFromTpmPublic (tpmHandle : TpmHandle)
  | executeWithSessions (sessionHandles : SessionTriple) (body : List Op)
  | executeWithNullauthSession (body : List Op)
  | executeWithTemporaryObject (object : ObjectHandle) (body : List Op)

section Native

variable (tpm : Tpm)

mutual

/-- The call, with its result forgotten but for its error. -/
def Op.run : Op → ContextM (Except Error Unit)
  | .setSessions sessionHandles => do Context.setSessions sessionHandles; return .ok ()
  | .clearSessions => do Context.clearSessions; return .ok ()
  | .getTpmProperty property => Except.map (fun _ => ()) <$> Context.getTpmProperty tpm property
  | .getCapability capability property propertyCount =>
    Except.map (fun _ => ()) <$> Context.getCapability tpm capability property propertyCount
  | .startAuthSession sessionType symmetric authHash =>
    Except.map (fun _ => ()) <$> Context.startAuthSession tpm sessionType symmetric authHash
  | .trSessSetAttributes session attributes mask =>
    Context.trSessSetAttributes tpm session attributes mask
  | .flushContext handle => Context.flushContext tpm handle
  | .trClose handle => Context.trClose tpm handle
  | .trFromTpmPublic tpmHandle =>
    Except.map (fun _ => ()) <$> Context.trFromTpmPublic tpm tpmHandle
  | .executeWithSessions sessionHandles body =>
    Context.executeWithSessions sessionHandles (Op.runList body (.ok ()))
  | .executeWithNullauthSession body =>
    Context.executeWithNullauthSession tpm id (Op.runList body (.ok ()))
  | .executeWithTemporaryObject object body =>
    Context.executeWithTemporaryObject tpm object fun _ => Op.runList body (.ok ())

/-- The calls in order, from the outcome `outcome`; the result is the last call's. -/
def Op.runList : List Op → Except Error Unit → ContextM (Except Error Unit)
  | [], outcome => pure outcome
  | op :: ops, _ => do Op.runList ops (← Op.run op)

end

mutual

/-- Every method call stays in the frame. -/
theorem Op.run_inFrame : ∀ op : Op, InFrame (op.run tpm)
  | .setSessions _ => (setSessions_inFrame _).bind fun _ => of_pure _
  | .clearSessions => clearSessions_inFrame.bind fun _ => of_pure _
  | .getTpmProperty _ => (getTpmProperty_inFrame tpm _).map _
  | .getCapability _ _ _ => (getCapability_inFrame tpm _ _ _).map _
  | .startAuthSession _ _ _ => (startAuthSession_inFrame tpm _ _ _).map _
  | .trSessSetAttributes _ _ _ => trSessSetAttributes_inFrame tpm _ _ _
  | .flushContext _ => release_inFrame _ _ _
  | .trClose _ => release_inFrame _ _ _
  | .trFromTpmPublic _ => (trFromTpmPublic_inFrame tpm _).map _
  | .executeWithSessions _ body => executeWithSessions_inFrame _ (Op.runList_inFrame body _)
  | .executeWithNullauthSession body =>
    executeWithNullauthSession_inFrame tpm id (Op.runList_inFrame body _)
  | .executeWithTemporaryObject object body =>
    @executeWithTemporaryObject_inFrame Unit tpm object (fun _ => Op.runList tpm body (.ok ()))
      (Op.runList_inFrame body _)

/-- Every run of method calls stays in the frame. -/
theorem Op.runList_inFrame : ∀ (ops : List Op) (outcome : Except Error Unit),
    InFrame (Op.runList tpm ops outcome)
  | [], _ => of_pure _
  | op :: ops, _ => (Op.run_inFrame op).bind fun outcome => Op.runList_inFrame ops outcome

end

/-- A context built by `Context::new` owns its native context through any run of method calls
and through the whole sweep of `drop`, so that no `mut_context` and no `unwrap` panics; `drop`
lets it go only after its last release, and then calls `Esys_Finalize` and nothing else. -/
theorem esysContext_owned_until_drop {ctx : Context} (built : Context.new tpm = .ok ctx)
    (ops : List Op) :
    ∃ outcome running swept,
      (Op.runList tpm ops (.ok ())).run ctx = some (outcome, running) ∧
      running.esysContext.isSome ∧
      (releaseHandles tpm).run running = some ((), swept) ∧
      swept.esysContext.isSome ∧
      (drop tpm).run running = some ((), { swept with esysContext := none }.issue .finalize) := by
  obtain rfl := eq_initial_of_new built
  obtain ⟨outcome, running, ran, frame⟩ := Op.runList_inFrame tpm ops (.ok ()) initial rfl
  have open_ : running.esysContext.isSome := frame.esysContext ▸ rfl
  obtain ⟨swept, swept_ran, kept, -, -⟩ := releaseHandles_run tpm open_
  exact ⟨outcome, running, swept, ran, open_, swept_ran, kept ▸ open_,
    drop_run tpm swept_ran (kept ▸ open_)⟩

/-- Once a lookup of `property` has returned `Ok(Some(v))`, the tag stays cached through any run
of lookups, so a lookup of `property` then answers `Ok(Some(w))` for its cached value `w` and
changes nothing: it issues no query.  The value `w` is `v` when the TPM reports no other value
for `property`; otherwise a batch fetched for another tag may have overwritten it. -/
theorem getTpmProperty_stays_cached {self : Context} {property : PropertyTag}
    (tags : List PropertyTag) {v : UInt32} {cached : Context} (open_ : self.esysContext.isSome)
    (returned : (getTpmProperty tpm property).run self = some (.ok (some v), cached)) :
    ∃ results after w, (tags.mapM (getTpmProperty tpm)).run cached = some (results, after) ∧
      after.cachedTpmProperties property = some w ∧
      (getTpmProperty tpm property).run after = some (.ok (some w), after) ∧
      (tpm.ReportsOnly property v → w = v) := by
  obtain ⟨hit, cachedOpen⟩ := getTpmProperty_returned_cached tpm open_ returned
  obtain ⟨results, after, ran, frame⟩ :=
    InFrame.mapM (getTpmProperty_inFrame tpm) tags cached cachedOpen
  obtain ⟨w, hitAfter⟩ := Option.isSome_iff_exists.mp (frame.cached property (hit ▸ rfl))
  refine ⟨results, after, w, ran, hitAfter, getTpmProperty_run_of_cached tpm hitAfter,
    fun consistent => ?_⟩
  obtain ⟨_, _, ranConsistent, hitConsistent, -⟩ :=
    mapM_getTpmProperty_keeps_entry tpm consistent tags hit cachedOpen
  obtain ⟨-, rfl⟩ := Prod.mk.inj (Option.some.inj (ran.symm.trans ranConsistent))
  exact Option.some.inj (hitAfter.symm.trans hitConsistent)

theorem getTpmProperty_stays_cached_steady :
    initial.esysContext.isSome ∧
      (getTpmProperty steadyTpm ⟨0x100⟩).run initial =
        some (.ok (some 3), { initial.issue (propertyQuery ⟨0x100⟩) with
          cachedTpmProperties := insertAll initial.cachedTpmProperties [⟨⟨0x100⟩, 3⟩] }) ∧
      ∃ results after w, (([⟨0x200⟩, ⟨0x100⟩] : List PropertyTag).mapM
          (getTpmProperty steadyTpm)).run
          { initial.issue (propertyQuery ⟨0x100⟩) with
            cachedTpmProperties := insertAll initial.cachedTpmProperties [⟨⟨0x100⟩, 3⟩] } =
            some (results, after) ∧
        after.cachedTpmProperties ⟨0x100⟩ = some w ∧
        (getTpmProperty steadyTpm ⟨0x100⟩).run after = some (.ok (some w), after) ∧
        (steadyTpm.ReportsOnly ⟨0x100⟩ 3 → w = 3) :=
  ⟨rfl, rfl,
    @getTpmProperty_stays_cached steadyTpm initial ⟨0x100⟩ [⟨0x200⟩, ⟨0x100⟩] 3 _ rfl rfl⟩

/-- A tag in the cache stays there through any run of method calls, so a later
`get_tpm_property` of it answers from the cache, changes nothing and issues no query. -/
theorem cached_tag_answered_after_any_run {self : Context} {tag : PropertyTag}
    (open_ : self.esysContext.isSome) (cached : (self.cachedTpmProperties tag).isSome)
    (ops : List Op) :
    ∃ outcome running value, (Op.runList tpm ops (.ok ())).run self = some (outcome, running) ∧
      running.cachedTpmProperties tag = some value ∧
      (getTpmProperty tpm tag).run running = some (.ok (some value), running) := by
  obtain ⟨outcome, running, ran, frame⟩ := Op.runList_inFrame tpm ops (.ok ()) self open_
  obtain ⟨value, hit⟩ := Option.isSome_iff_exists.mp (frame.cached tag cached)
  exact ⟨outcome, running, value, ran, hit, getTpmProperty_run_of_cached tpm hit⟩

end Native

/-- Read a property, then use a fresh session to make a persistent key known. -/
def sampleOps : List Op :=
  [.getTpmProperty ⟨0x100⟩,
    .executeWithNullauthSession [.trFromTpmPublic (.persistent 0x81000001)]]

theorem esysContext_owned_until_drop_sampleOps :
    Context.new Tpm.accepting = .ok initial ∧
      ∃ outcome running swept,
        (Op.runList Tpm.accepting sampleOps (.ok ())).run initial = some (outcome, running) ∧
        running.esysContext.isSome ∧
        (releaseHandles Tpm.accepting).run running = some ((), swept) ∧
        swept.esysContext.isSome ∧
        (drop Tpm.accepting).run running =
          some ((), { swept with esysContext := none }.issue .finalize) :=
  ⟨rfl, @esysContext_owned_until_drop Tpm.accepting initial rfl sampleOps⟩

/-- A context whose cache holds `TPM_PT_FAMILY_INDICATOR`. -/
def familyCached : Context :=
  { initial with cachedTpmProperties := fun tag => if tag = ⟨0x100⟩ then some 0x322E3000 else none }

theorem cached_tag_answered_after_any_run_sampleOps :
    familyCached.esysContext.isSome ∧ (familyCached.cachedTpmProperties ⟨0x100⟩).isSome ∧
      ∃ outcome running value,
        (Op.runList steadyTpm sampleOps (.ok ())).run familyCached = some (outcome, running) ∧
        running.cachedTpmProperties ⟨0x100⟩ = some value ∧
        (getTpmProperty steadyTpm ⟨0x100⟩).run running = some (.ok (some value), running) :=
  ⟨rfl, rfl,
    @cached_tag_answered_after_any_run steadyTpm familyCached ⟨0x100⟩ rfl rfl sampleOps⟩

end Context

end TssEsapi
