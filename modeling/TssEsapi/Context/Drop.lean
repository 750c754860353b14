import TssEsapi.Context.Basic

/-!
# Dropping a context

`drop` sweeps the handle manager: it flushes every handle registered to be flushed, then closes
every handle registered to be closed, logging each failed release and going on, and last takes
the native context out of the `Context` and hands it to `Esys_Finalize`.  The handles to close
are read only after the flushes; since a handle is registered with one action only, the
flushes leave that list as it was.

Which releases fail is up to the TPM.  `failedReleases` names them, and the sweep leaves in the
handle manager exactly the entries of those handles.
-/

namespace TssEsapi

/-- The call that releases `handle` with `action`. -/
def releaseCall : HandleDropAction → ObjectHandle → EsysCall
  | .flush => .flushContext
  | .close => .trClose

@[simp] theorem releaseCall_flush : releaseCall .flush = .flushContext := rfl

@[simp] theorem releaseCall_close : releaseCall .close = .trClose := rfl

/-- The TPM's answer to a release with `action`. -/
def Tpm.answerRelease (tpm : Tpm) : HandleDropAction → List EsysCall → Except Error Unit
  | .flush => tpm.flushContext
  | .close => tpm.trClose

/-- The handles among `handles` whose release with `action` the TPM refuses, when the releases
are issued in order after the calls `calls`. -/
def failedReleases (tpm : Tpm) (action : HandleDropAction) (calls : List EsysCall) :
    List ObjectHandle → List ObjectHandle
  | [] => []
  | handle :: handles =>
    let issued := calls ++ [releaseCall action handle]
    match tpm.answerRelease action issued with
    | .ok () => failedReleases tpm action issued handles
    | .error _ => handle :: failedReleases tpm action issued handles

theorem failedReleases_subset (tpm : Tpm) (action : HandleDropAction) (calls : List EsysCall)
    (handles : List ObjectHandle) : failedReleases tpm action calls handles ⊆ handles := by
  induction handles generalizing calls with
  | nil => exact List.nil_subset _
  | cons handle handles ih =>
    simp only [failedReleases]
    split
    · exact (ih _).trans (List.subset_cons_self _ _)
    · exact List.cons_subset_cons _ (ih _)

theorem not_mem_failedReleases {tpm : Tpm} {action : HandleDropAction} {calls : List EsysCall}
    {handle : ObjectHandle} {handles : List ObjectHandle} (absent : handle ∉ handles) :
    handle ∉ failedReleases tpm action calls handles :=
  fun failed => absent (failedReleases_subset _ _ _ _ failed)

namespace Context

/-- The handles whose release `drop` fails: the flushes the TPM refuses, then the closes it
refuses. -/
def dropFailures (tpm : Tpm) (self : Context) : List ObjectHandle :=
  failedReleases tpm .flush self.esysCalls self.handleManager.handlesToFlush ++
    failedReleases tpm .close
      (self.esysCalls ++ self.handleManager.handlesToFlush.map EsysCall.flushContext)
      self.handleManager.handlesToClose

section Native

variable (tpm : Tpm)

/-- The `for` loops of `drop`: release each handle in turn.  A failed release is only logged,
and the loop goes on. -/
def releaseEach (releaseOne : ObjectHandle → ContextM (Except Error Unit)) :
    List ObjectHandle → ContextM Unit
  | [] => pure ()
  | handle :: handles => do
    let _ ← releaseOne handle
    releaseEach releaseOne handles

/-- The sweep of `drop`, before the native context is finalized: flush the handles to flush,
then close the handles to close, as the handle manager lists them after the flushes. -/
def releaseHandles : ContextM Unit := do
  releaseEach (flushContext tpm) (← get).handleManager.handlesToFlush
  releaseEach (trClose tpm) (← get).handleManager.handlesToClose

/-- `Drop for Context`: the sweep, then `Esys_Finalize` on the native context, which `take`
moves out of the `Context`; the `unwrap` panics if it was already gone.  The
`has_open_handles` check between the two only logs. -/
def drop : ContextM Unit := do
  releaseHandles tpm
  let esysContext ← modifyGet fun self => (self.esysContext, { self with esysContext := none })
  match esysContext with
  | none => failure
  | some _ => modify (·.issue .finalize)

/-- The release `drop` makes of a handle registered with `action`. -/
def releaseWith : HandleDropAction → ObjectHandle → ContextM (Except Error Unit)
  | .flush => flushContext tpm
  | .close => trClose tpm

variable {self : Context}

theorem releaseWith_run (action : HandleDropAction) (handle : ObjectHandle)
    (open_ : self.esysContext.isSome) :
    (releaseWith tpm action handle).run self =
      some (tpm.answerRelease action (self.esysCalls ++ [releaseCall action handle]),
        (self.issue (releaseCall action handle)).afterRelease handle
          (tpm.answerRelease action (self.esysCalls ++ [releaseCall action handle]))) := by
  cases action <;> exact release_run _ _ _ open_

/-- A release loop over distinct handles issues one release per handle, in order, keeps the
native context, and removes from the handle manager exactly the handles whose release
succeeded. -/
theorem releaseEach_run (action : HandleDropAction) {handles : List ObjectHandle}
    (distinct : handles.Nodup) (open_ : self.esysContext.isSome) :
    ∃ after, (releaseEach (releaseWith tpm action) handles).run self = some ((), after) ∧
      after.esysContext = self.esysContext ∧
      after.esysCalls = self.esysCalls ++ handles.map (releaseCall action) ∧
      after.handleManager.openHandles = self.handleManager.openHandles.filter fun entry =>
        entry.1 ∉ handles ∨ entry.1 ∈ failedReleases tpm action self.esysCalls handles := by
  induction handles generalizing self with
  | nil => exact ⟨self, rfl, rfl, by simp, by simp⟩
  | cons handle handles ih =>
    obtain ⟨notLater, distinct⟩ := List.nodup_cons.mp distinct
    simp only [releaseEach, StateT.run_bind, releaseWith_run tpm action handle open_,
      Option.bind_eq_bind, Option.some_bind]
    obtain ⟨after, ran, kept, calls, registry⟩ :=
      @ih ((self.issue (releaseCall action handle)).afterRelease handle
        (tpm.answerRelease action (self.esysCalls ++ [releaseCall action handle]))) distinct
        (by simpa using open_)
    refine ⟨after, ran, by simp [kept], by simp [calls], ?_⟩
    rw [registry]
    simp only [failedReleases]
    have outcomes (outcome : Except Error Unit) : outcome = .ok () ∨ ∃ e, outcome = .error e := by
      cases outcome <;> simp
    obtain answered | ⟨_, answered⟩ :=
      outcomes (tpm.answerRelease action (self.esysCalls ++ [releaseCall action handle]))
    · simp only [answered, afterRelease, HandleManager.openHandles_removeHandle,
        List.filter_filter, issue_handleManager, issue_esysCalls]
      refine List.filter_congr fun entry _ => ?_
      by_cases same : entry.1 = handle
      · simp [same, notLater, not_mem_failedReleases notLater]
      · simp [same]
    · simp only [answered, afterRelease, issue_handleManager, issue_esysCalls]
      refine List.filter_congr fun entry _ => ?_
      by_cases same : entry.1 = handle <;> simp [same, notLater]

/-- The sweep of an open context issues one flush per handle to flush, then one close per
handle to close, keeps the native context, and leaves registered exactly the handles it failed
to release. -/
theorem releaseHandles_run (open_ : self.esysContext.isSome) :
    ∃ swept, (releaseHandles tpm).run self = some ((), swept) ∧
      swept.esysContext = self.esysContext ∧
      swept.esysCalls = self.esysCalls ++
        self.handleManager.handlesToFlush.map EsysCall.flushContext ++
        self.handleManager.handlesToClose.map EsysCall.trClose ∧
      swept.handleManager.openHandles =
        self.handleManager.openHandles.filter (·.1 ∈ dropFailures tpm self) := by
  let registry := self.handleManager
  obtain ⟨flushed, flushRan, flushKept, flushCalls, flushRegistry⟩ :=
    releaseEach_run tpm .flush registry.handlesToFlush_nodup open_
  have closes : flushed.handleManager.handlesToClose = registry.handlesToClose :=
    HandleManager.handlesToClose_eq_of_keeps flushRegistry fun handle closing => by
      have notFlushed : handle ∉ registry.handlesToFlush := fun flushing =>
        registry.not_mem_handlesToClose_of_mem_handlesToFlush flushing
          ((registry.mem_handlesToClose handle).mpr closing)
      simp [notFlushed]
  obtain ⟨swept, closeRan, closeKept, closeCalls, closeRegistry⟩ :=
    @releaseEach_run tpm flushed .close flushed.handleManager.handlesToClose
      (closes ▸ registry.handlesToClose_nodup) (flushKept ▸ open_)
  refine ⟨swept, ?_, closeKept.trans flushKept, ?_, ?_⟩
  · have flushRan : (releaseEach (flushContext tpm) registry.handlesToFlush).run self =
        some ((), flushed) := flushRan
    have closeRan : (releaseEach (trClose tpm) flushed.handleManager.handlesToClose).run flushed =
        some ((), swept) := closeRan
    simp only [releaseHandles, StateT.run_bind, StateT.run_get, Option.pure_def,
      Option.bind_eq_bind, Option.some_bind, flushRan, closeRan]
  · simp [closeCalls, flushCalls, closes, registry]
  · rw [closeRegistry, flushRegistry, List.filter_filter, closes, flushCalls]
    refine List.filter_congr fun entry registered => ?_
    rcases registry.mem_handlesToFlush_or_mem_handlesToClose registered with flushing | closing
    · have notClosing := registry.not_mem_handlesToClose_of_mem_handlesToFlush flushing
      simp [dropFailures, registry, flushing, notClosing, not_mem_failedReleases notClosing]
    · have notFlushing : entry.1 ∉ registry.handlesToFlush := fun flushing =>
        registry.not_mem_handlesToClose_of_mem_handlesToFlush flushing closing
      simp [dropFailures, registry, closing, notFlushing, not_mem_failedReleases notFlushing]

/-- After the sweep the handle manager has open handles exactly when some release failed. -/
theorem hasOpenHandles_iff_dropFailures {swept : Context}
    (registry : swept.handleManager.openHandles =
      self.handleManager.openHandles.filter (·.1 ∈ dropFailures tpm self)) :
    swept.handleManager.hasOpenHandles ↔ dropFailures tpm self ≠ [] := by
  rw [HandleManager.hasOpenHandles_iff, registry, Ne, Ne, List.filter_eq_nil_iff]
  constructor
  · exact fun kept none => kept fun entry _ => by simp [none]
  · intro failed all
    obtain ⟨handle, mem⟩ := List.exists_mem_of_ne_nil _ failed
    rcases List.mem_append.mp mem with flushFailed | closeFailed
    · exact all _ ((self.handleManager.mem_handlesToFlush handle).mp
        (failedReleases_subset _ _ _ _ flushFailed)) (by simpa using mem)
    · exact all _ ((self.handleManager.mem_handlesToClose handle).mp
        (failedReleases_subset _ _ _ _ closeFailed)) (by simpa using mem)

/-- After the sweep, `drop` takes the native context out and finalizes it. -/
theorem drop_run {swept : Context} (ran : (releaseHandles tpm).run self = some ((), swept))
    (open_ : swept.esysContext.isSome) :
    (drop tpm).run self = some ((), { swept with esysContext := none }.issue .finalize) := by
  obtain ⟨esysContext, owned⟩ := Option.isSome_iff_exists.mp open_
  simp [drop, ran, owned, StateT.run_modifyGet, StateT.run_modify]

/-- What `drop` does to the context `self`, `swept` being the context after its sweep. -/
structure DropSweep (tpm : Tpm) (self swept : Context) : Prop where
  /-- No handle is to be flushed twice, nor closed twice. -/
  flushes_nodup : self.handleManager.handlesToFlush.Nodup
  closes_nodup : self.handleManager.handlesToClose.Nodup
  /-- The sweep runs to its end, whatever the releases return. -/
  ran : (releaseHandles tpm).run self = some ((), swept)
  /-- It flushes each handle to flush, then closes each handle to close. -/
  calls : swept.esysCalls = self.esysCalls ++
    self.handleManager.handlesToFlush.map EsysCall.flushContext ++
    self.handleManager.handlesToClose.map EsysCall.trClose
  /-- The handles left registered are those whose release failed. -/
  registry : swept.handleManager.openHandles =
    self.handleManager.openHandles.filter (·.1 ∈ dropFailures tpm self)
  hasOpenHandles_iff : swept.handleManager.hasOpenHandles ↔ dropFailures tpm self ≠ []
  /-- Last, `Esys_Finalize` is called once, on the native context taken out of the context. -/
  dropped : (drop tpm).run self = some ((), { swept with esysContext := none }.issue .finalize)

/-- `drop` on an open context sweeps every handle, best effort, then finalizes once. -/
theorem drop_sweeps_every_handle (open_ : self.esysContext.isSome) :
    ∃ swept, DropSweep tpm self swept := by
  obtain ⟨swept, ran, kept, calls, registry⟩ := releaseHandles_run tpm open_
  exact ⟨swept, self.handleManager.handlesToFlush_nodup, self.handleManager.handlesToClose_nodup,
    ran, calls, registry, hasOpenHandles_iff_dropFailures tpm registry,
    drop_run tpm ran (kept ▸ open_)⟩

end Native

/-- The registry of the teardown scenario: handle 7 to flush and handle 9 to close. -/
def flushSevenCloseNine : Context :=
  { initial with handleManager := ⟨[(⟨7⟩, .flush), (⟨9⟩, .close)], by decide⟩ }

theorem drop_sweeps_every_handle_flushSevenCloseNine :
    flushSevenCloseNine.esysContext.isSome ∧
      ∃ swept, DropSweep Tpm.accepting flushSevenCloseNine swept :=
  ⟨rfl, drop_sweeps_every_handle Tpm.accepting rfl⟩

end Context

end TssEsapi
