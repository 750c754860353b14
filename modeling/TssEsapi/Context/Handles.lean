import Mathlib.Data.List.Nodup

/-!
# Handles, errors and the handle manager

The handle manager lives in `context/handle_manager.rs`, the submodule `context.rs` declares
with `mod handle_manager`.  `Context` uses it through `handles_to_flush`, `handles_to_close` and
`has_open_handles` in `drop`, and the command wrappers of `context/` register and deregister
handles with it.  It is modelled from the spec's description: a registry of open handles with
the action that releases each, in which a handle appears at most once.  The registry carries
that invariant as a field.

`TpmHandle`, of the module `handles`, is modelled from the spec by the kind of resource a handle
of the module names, which decides how `tr_from_tpm_public` registers it.
-/

namespace TssEsapi

/-- `ObjectHandle`: an `ESYS_TR` handle. -/
structure ObjectHandle where
  value : UInt32
  deriving DecidableEq, Repr, Inhabited

/-- Modelled from the spec: `TpmHandle`, a handle of the module, by the kind of resource it
names.  A transient object (a primary key, a loaded blob) or a session is volatile; a persistent
key or an NV index is a persistent or external resource. -/
inductive TpmHandle
  | transient (value : UInt32)
  | session (value : UInt32)
  | persistent (value : UInt32)
  | nvIndex (value : UInt32)
  deriving DecidableEq, Repr

/-- Modelled from the spec: `TpmHandle::may_be_flushed`.  "Volatile objects (primary keys, loaded
blobs, sessions) must be flushed"; persistent and external handles are closed. -/
def TpmHandle.mayBeFlushed : TpmHandle → Bool
  | .transient _ => true
  | .session _ => true
  | .persistent _ => false
  | .nvIndex _ => false

/-- The kinds of `WrapperErrorKind` the modelled functions raise. -/
inductive WrapperErrorKind
  | wrongValueFromTpm
  | missingAuthSession
  | inconsistentParams
  deriving DecidableEq, Repr

/-- `Error`: a response code from the TSS stack, or a local error of the wrapper. -/
inductive Error
  | tssError (responseCode : UInt32)
  | wrapperError (kind : WrapperErrorKind)
  deriving DecidableEq, Repr

/-- `HandleDropAction`: how an open handle is released when the context is dropped. -/
inductive HandleDropAction
  | flush
  | close
  deriving DecidableEq, Repr

/-- Modelled from the spec: `HandleManager`, "a process-local registry mapping native handle
identifiers to a disposition"; "a handle identifier appears at most once in the registry while
open; once released it is removed, not merely marked". -/
structure HandleManager where
  openHandles : List (ObjectHandle × HandleDropAction)
  nodup : (openHandles.map Prod.fst).Nodup

namespace HandleManager

/-- Modelled from the spec: the empty registry of a new context. -/
def new : HandleManager :=
  ⟨[], List.nodup_nil⟩

/-- Modelled from the spec: `add_handle(handle, disposition)` "fails ... if the handle is
already registered with a different disposition; re-registering with the same disposition is
idempotent". -/
def addHandle (self : HandleManager) (handle : ObjectHandle)
    (handleDropAction : HandleDropAction) : Except Error HandleManager :=
  if registered : handle ∈ self.openHandles.map Prod.fst then
    if (handle, handleDropAction) ∈ self.openHandles then .ok self
    else .error (.wrapperError .inconsistentParams)
  else .ok ⟨(handle, handleDropAction) :: self.openHandles, self.nodup.cons registered⟩

/-- Modelled from the spec: `remove_handle(handle)` "removes the entry. No-op (not an error) if
the handle is not present". -/
def removeHandle (self : HandleManager) (handle : ObjectHandle) : HandleManager :=
  ⟨self.openHandles.filter (·.1 != handle),
    self.nodup.sublist ((List.filter_sublist _).map Prod.fst)⟩

/-- Modelled from the spec: `handles_to_flush()`, the handles registered for flushing. -/
def handlesToFlush (self : HandleManager) : List ObjectHandle :=
  (self.openHandles.filter (·.2 == .flush)).map Prod.fst

/-- Modelled from the spec: `handles_to_close()`, the handles registered for closing. -/
def handlesToClose (self : HandleManager) : List ObjectHandle :=
  (self.openHandles.filter (·.2 == .close)).map Prod.fst

/-- Modelled from the spec: `has_open_handles()`, whether the registry is non-empty. -/
def hasOpenHandles (self : HandleManager) : Bool :=
  !self.openHandles.isEmpty

@[simp]
theorem openHandles_removeHandle (self : HandleManager) (handle : ObjectHandle) :
    (self.removeHandle handle).openHandles = self.openHandles.filter (·.1 != handle) :=
  rfl

/-- An accepted registration adds the entry, or finds it there already. -/
theorem openHandles_addHandle_subset {self registered : HandleManager} {handle : ObjectHandle}
    {action : HandleDropAction} (added : self.addHandle handle action = .ok registered) :
    registered.openHandles ⊆ (handle, action) :: self.openHandles := by
  unfold addHandle at added
  split_ifs at added
  · cases added
    exact List.subset_cons_self _ _
  · cases added
    exact List.Subset.refl _

/-- A handle not registered yet is registered in front. -/
theorem addHandle_of_not_mem (self : HandleManager) {handle : ObjectHandle}
    (action : HandleDropAction) (fresh : handle ∉ self.openHandles.map Prod.fst) :
    self.addHandle handle action =
      .ok ⟨(handle, action) :: self.openHandles, self.nodup.cons fresh⟩ :=
  dif_neg fresh

theorem hasOpenHandles_iff (self : HandleManager) :
    self.hasOpenHandles ↔ self.openHandles ≠ [] := by
  simp [hasOpenHandles]

/-- A handle is registered with one action only. -/
theorem action_unique (self : HandleManager) {handle : ObjectHandle}
    {first second : HandleDropAction} (hasFirst : (handle, first) ∈ self.openHandles)
    (hasSecond : (handle, second) ∈ self.openHandles) : first = second :=
  congrArg Prod.snd (List.inj_on_of_nodup_map self.nodup hasFirst hasSecond rfl)

theorem mem_handlesToFlush (self : HandleManager) (handle : ObjectHandle) :
    handle ∈ self.handlesToFlush ↔ (handle, .flush) ∈ self.openHandles := by
  simp [handlesToFlush]

theorem mem_handlesToClose (self : HandleManager) (handle : ObjectHandle) :
    handle ∈ self.handlesToClose ↔ (handle, .close) ∈ self.openHandles := by
  simp [handlesToClose]

theorem handlesToFlush_nodup (self : HandleManager) : self.handlesToFlush.Nodup :=
  self.nodup.sublist ((List.filter_sublist _).map Prod.fst)

theorem handlesToClose_nodup (self : HandleManager) : self.handlesToClose.Nodup :=
  self.nodup.sublist ((List.filter_sublist _).map Prod.fst)

/-- No handle is both to be flushed and to be closed. -/
theorem not_mem_handlesToClose_of_mem_handlesToFlush (self : HandleManager)
    {handle : ObjectHandle} (flushing : handle ∈ self.handlesToFlush) :
    handle ∉ self.handlesToClose := fun closing =>
  nomatch self.action_unique ((self.mem_handlesToFlush handle).mp flushing)
    ((self.mem_handlesToClose handle).mp closing)

/-- Every registered handle is either to be flushed or to be closed. -/
theorem mem_handlesToFlush_or_mem_handlesToClose (self : HandleManager)
    {entry : ObjectHandle × HandleDropAction} (registered : entry ∈ self.openHandles) :
    entry.1 ∈ self.handlesToFlush ∨ entry.1 ∈ self.handlesToClose := by
  obtain ⟨handle, _ | _⟩ := entry
  · exact .inl ((self.mem_handlesToFlush handle).mpr registered)
  · exact .inr ((self.mem_handlesToClose handle).mpr registered)

/-- A registry cut down by `keep` still lists every handle to close, if `keep` keeps every
entry registered to be closed. -/
theorem handlesToClose_eq_of_keeps {self other : HandleManager}
    {keep : ObjectHandle × HandleDropAction → Bool}
    (filtered : other.openHandles = self.openHandles.filter keep)
    (keeps : ∀ handle, (handle, .close) ∈ self.openHandles → keep (handle, .close)) :
    other.handlesToClose = self.handlesToClose := by
  simp only [handlesToClose, filtered, List.filter_filter]
  congr 1
  refine List.filter_congr fun ⟨handle, action⟩ registered => ?_
  cases action
  · simp
  · simp [keeps handle registered]

end HandleManager

end TssEsapi
