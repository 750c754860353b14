import TssEsapi.Context.Lifecycle

/-!
# The handle manager against the native side

The handle manager is the context's account of the local references (`ESYS_TR` handles) the
native side holds for it, each with the release that is due.  `Tpm.holdings` is the native
side's own account, read off the calls issued and the TPM's answers with the spec's two release
disciplines: a flush makes the module forget a volatile resource entirely and drops the
reference, while a close "releases only the local transient reference", so a volatile resource
behind a closed reference stays loaded.

Over every run from `Context::new`, whatever the TPM answers, every handle `drop` will flush is a
live reference with a volatile resource loaded behind it, and every handle it will close is a
live reference to a resource that is not volatile.  If moreover the native layer never hands
out a handle it still holds, the handle manager's entries are exactly the live references, and
after `drop` a volatile resource stays loaded exactly when `drop` failed to flush it, which it
logs, or when the context had closed its reference rather than flushed it.

The registry results come from one argument: `Tpm.Accounting rel` says that a relation `rel`
between the handle manager's entries and the native side's references survives each change a
method makes to them, and then every method and every run of methods keep it.
-/

namespace TssEsapi

/-- A local reference the native side holds: its handle, and whether a volatile resource of the
module is behind it. -/
abbrev Reference := ObjectHandle × Bool

/-- What the native side holds for the context: the live local references, and the volatile
resources loaded in the module, each by the handle that named it. -/
structure Holdings where
  references : List Reference
  loaded : List ObjectHandle

namespace Holdings

/-- A new reference `handle`, with a volatile resource loaded behind it when `volatile`. -/
def hold (holdings : Holdings) (handle : ObjectHandle) (volatile : Bool) : Holdings :=
  ⟨(handle, volatile) :: holdings.references,
    if volatile then handle :: holdings.loaded else holdings.loaded⟩

/-- A release of `handle` that succeeded.  Either discipline drops the reference; a flush also
makes the module forget the resource behind it, a close leaves it loaded. -/
def release (holdings : Holdings) (handle : ObjectHandle) : HandleDropAction → Holdings
  | .flush =>
    ⟨holdings.references.filter (·.1 != handle), holdings.loaded.filter (· != handle)⟩
  | .close => ⟨holdings.references.filter (·.1 != handle), holdings.loaded⟩

/-- The handles the holdings go by. -/
def handles (holdings : Holdings) : List ObjectHandle :=
  holdings.references.map Prod.fst ++ holdings.loaded

variable (holdings : Holdings) (handle : ObjectHandle)

@[simp] theorem hold_references (volatile : Bool) :
    (holdings.hold handle volatile).references = (handle, volatile) :: holdings.references := rfl

@[simp] theorem release_references (discipline : HandleDropAction) :
    (holdings.release handle discipline).references =
      holdings.references.filter (·.1 != handle) := by
  cases discipline <;> rfl

@[simp] theorem release_flush_loaded :
    (holdings.release handle .flush).loaded = holdings.loaded.filter (· != handle) := rfl

@[simp] theorem release_close_loaded : (holdings.release handle .close).loaded = holdings.loaded :=
  rfl

theorem handles_hold_subset (volatile : Bool) :
    (holdings.hold handle volatile).handles ⊆ handle :: holdings.handles := by
  cases volatile
  · simp [handles, hold, List.subset_def]
  · simp [handles, hold, List.subset_def]
    tauto

theorem handles_release_subset (discipline : HandleDropAction) :
    (holdings.release handle discipline).handles ⊆ holdings.handles := by
  have unloads : (holdings.release handle discipline).loaded ⊆ holdings.loaded := by
    cases discipline
    · exact List.filter_subset' _
    · exact List.Subset.refl _
  intro other held
  rcases List.mem_append.mp held with referenced | loaded
  · rw [release_references] at referenced
    exact List.mem_append_left _ (List.map_subset _ (List.filter_subset' _) referenced)
  · exact List.mem_append_right _ (unloads loaded)

/-- Every volatile reference has its resource loaded. -/
def Backed : Prop :=
  ∀ handle, (handle, true) ∈ holdings.references → handle ∈ holdings.loaded

/-- No loaded resource goes by the handle of a reference to a resource that is not volatile. -/
def Unaliased : Prop :=
  ∀ handle ∈ holdings.loaded, (handle, false) ∉ holdings.references

variable {holdings}

theorem Backed.hold (backed : holdings.Backed) (volatile : Bool) :
    (holdings.hold handle volatile).Backed := by
  intro other held
  rcases List.mem_cons.mp held with same | older
  · cases same
    exact List.mem_cons_self _ _
  · cases volatile
    · exact backed other older
    · exact List.mem_cons_of_mem _ (backed other older)

theorem Backed.release (backed : holdings.Backed) (discipline : HandleDropAction) :
    (holdings.release handle discipline).Backed := by
  intro other held
  rw [release_references, List.mem_filter] at held
  cases discipline
  · exact List.mem_filter.mpr ⟨backed other held.1, held.2⟩
  · exact backed other held.1

/-- A reference that goes by a new handle keeps the holdings unaliased. -/
theorem Unaliased.hold (unaliased : holdings.Unaliased) (unused : handle ∉ holdings.handles)
    (volatile : Bool) : (holdings.hold handle volatile).Unaliased := by
  intro other loaded held
  rcases List.mem_cons.mp held with same | older
  · cases same
    exact unused (List.mem_append_right _ loaded)
  · have wasLoaded : other ∈ holdings.loaded := by
      cases volatile
      · exact loaded
      · rcases List.mem_cons.mp loaded with rfl | before
        · exact absurd (List.mem_append_left _ (List.mem_map_of_mem Prod.fst older)) unused
        · exact before
    exact unaliased other wasLoaded older

theorem Unaliased.release (unaliased : holdings.Unaliased) (discipline : HandleDropAction) :
    (holdings.release handle discipline).Unaliased := by
  intro other loaded held
  rw [release_references] at held
  have wasLoaded : other ∈ holdings.loaded := by
    cases discipline
    · exact List.mem_of_mem_filter loaded
    · exact loaded
  exact unaliased other wasLoaded (List.mem_of_mem_filter held)

end Holdings

namespace HandleManager

/-- The registry's entries read as references: an entry to be flushed stands for a reference
with a volatile resource behind it. -/
def references (self : HandleManager) : List Reference :=
  self.openHandles.map fun entry => (entry.1, entry.2 == .flush)

variable (self : HandleManager) {handle : ObjectHandle}

theorem references_map_fst : self.references.map Prod.fst = self.openHandles.map Prod.fst := by
  simp [references]

@[simp] theorem references_removeHandle :
    (self.removeHandle handle).references = self.references.filter (·.1 != handle) := by
  simp [references, List.filter_map, Function.comp_def]

theorem references_addHandle_subset {registered : HandleManager} {action : HandleDropAction}
    (added : self.addHandle handle action = .ok registered) :
    registered.references ⊆ (handle, action == .flush) :: self.references :=
  List.map_subset _ (openHandles_addHandle_subset added)

theorem mem_references_true :
    (handle, true) ∈ self.references ↔ handle ∈ self.handlesToFlush := by
  rw [mem_handlesToFlush, references, List.mem_map]
  constructor
  · rintro ⟨⟨_, _ | _⟩, registered, ⟨⟩⟩
    exact registered
  · exact fun registered => ⟨_, registered, rfl⟩

theorem mem_references_false :
    (handle, false) ∈ self.references ↔ handle ∈ self.handlesToClose := by
  rw [mem_handlesToClose, references, List.mem_map]
  constructor
  · rintro ⟨⟨_, _ | _⟩, registered, ⟨⟩⟩
    exact registered
  · exact fun registered => ⟨_, registered, rfl⟩

end HandleManager

namespace Tpm

variable (tpm : Tpm)

/-- The reference `call` hands out, answered after `calls` (the call itself last): a started
session, loaded in the module, or a handle made known from a handle of the module, with a
volatile resource behind it when the module's handle names a volatile object, which by the spec
are the handles that may be flushed. -/
def opened (calls : List EsysCall) : EsysCall → Option Reference
  | .startAuthSession .. =>
    match tpm.startAuthSession calls with
    | .ok (some handle) => some (handle, true)
    | _ => none
  | .trFromTpmPublic tpmHandle _ =>
    match tpm.trFromTpmPublic calls with
    | .ok handle => some (handle, tpmHandle.mayBeFlushed)
    | .error _ => none
  | _ => none

/-- The reference `call` releases, answered after `calls`, with its discipline: a flush or a
close that succeeded. -/
def released (calls : List EsysCall) : EsysCall → Option (ObjectHandle × HandleDropAction)
  | .flushContext handle =>
    match tpm.flushContext calls with
    | .ok () => some (handle, .flush)
    | .error _ => none
  | .trClose handle =>
    match tpm.trClose calls with
    | .ok () => some (handle, .close)
    | .error _ => none
  | _ => none

/-- The holdings after `call`, answered after `calls`, when the native side held `holdings`
before it. -/
def holdingsAfter (calls : List EsysCall) (holdings : Holdings) (call : EsysCall) : Holdings :=
  match tpm.opened calls call, tpm.released calls call with
  | some (handle, volatile), _ => holdings.hold handle volatile
  | none, some (handle, discipline) => holdings.release handle discipline
  | none, none => holdings

/-- The holdings after the calls `calls`, issued after the calls `issued` had left `holdings`. -/
def holdingsFrom (issued : List EsysCall) (holdings : Holdings) : List EsysCall → Holdings
  | [] => holdings
  | call :: calls =>
    holdingsFrom (issued ++ [call]) (tpm.holdingsAfter (issued ++ [call]) holdings call) calls

/-- What the native side holds for the context after the calls `calls`. -/
def holdings (calls : List EsysCall) : Holdings :=
  tpm.holdingsFrom [] ⟨[], []⟩ calls

variable {tpm} {calls : List EsysCall} {holdings : Holdings} {call : EsysCall}

theorem holdingsAfter_of_opened {handle : ObjectHandle} {volatile : Bool}
    (opens : tpm.opened calls call = some (handle, volatile)) :
    tpm.holdingsAfter calls holdings call = holdings.hold handle volatile := by
  simp [holdingsAfter, opens]

theorem holdingsAfter_of_released {handle : ObjectHandle} {discipline : HandleDropAction}
    (opens : tpm.opened calls call = none)
    (releases : tpm.released calls call = some (handle, discipline)) :
    tpm.holdingsAfter calls holdings call = holdings.release handle discipline := by
  simp [holdingsAfter, opens, releases]

theorem holdingsAfter_of_quiet (opens : tpm.opened calls call = none)
    (releases : tpm.released calls call = none) :
    tpm.holdingsAfter calls holdings call = holdings := by
  simp [holdingsAfter, opens, releases]

variable (tpm)

/-- What a call can do to the holdings: hold the reference it opened, release one, or nothing. -/
theorem holdingsAfter_cases (calls : List EsysCall) (holdings : Holdings) (call : EsysCall) :
    (∃ handle volatile, tpm.opened calls call = some (handle, volatile) ∧
      tpm.holdingsAfter calls holdings call = holdings.hold handle volatile) ∨
    (∃ handle discipline,
      tpm.holdingsAfter calls holdings call = holdings.release handle discipline) ∨
    tpm.holdingsAfter calls holdings call = holdings := by
  unfold holdingsAfter
  split
  · exact .inl ⟨_, _, ‹_›, rfl⟩
  · exact .inr (.inl ⟨_, _, rfl⟩)
  · exact .inr (.inr rfl)

theorem holdingsFrom_append (issued : List EsysCall) (holdings : Holdings)
    (calls : List EsysCall) (call : EsysCall) :
    tpm.holdingsFrom issued holdings (calls ++ [call]) =
      tpm.holdingsAfter (issued ++ calls ++ [call]) (tpm.holdingsFrom issued holdings calls)
        call := by
  induction calls generalizing issued holdings with
  | nil => simp [holdingsFrom]
  | cons first calls ih => simp [holdingsFrom, ih]

/-- The holdings after one more call. -/
theorem holdings_append_singleton (calls : List EsysCall) (call : EsysCall) :
    tpm.holdings (calls ++ [call]) =
      tpm.holdingsAfter (calls ++ [call]) (tpm.holdings calls) call :=
  tpm.holdingsFrom_append [] ⟨[], []⟩ calls call

/-- Whatever the TPM answers, every volatile reference has its resource loaded. -/
theorem holdings_backed (calls : List EsysCall) : (tpm.holdings calls).Backed := by
  induction calls using List.reverseRecOn with
  | nil => exact fun _ held => nomatch held
  | append_singleton calls call ih =>
    rw [holdings_append_singleton]
    rcases tpm.holdingsAfter_cases (calls ++ [call]) (tpm.holdings calls) call with
      ⟨handle, volatile, -, after⟩ | ⟨handle, discipline, after⟩ | after <;> rw [after]
    · exact ih.hold handle volatile
    · exact ih.release handle discipline
    · exact ih

/-- The native layer never hands out a handle the holdings still go by. -/
def Fresh : Prop :=
  ∀ calls call handle volatile, tpm.opened (calls ++ [call]) call = some (handle, volatile) →
    handle ∉ (tpm.holdings calls).handles

/-- With fresh handles, no loaded resource goes by the handle of a reference to a resource that
is not volatile. -/
theorem holdings_unaliased (fresh : tpm.Fresh) (calls : List EsysCall) :
    (tpm.holdings calls).Unaliased := by
  induction calls using List.reverseRecOn with
  | nil => exact fun _ loaded => nomatch loaded
  | append_singleton calls call ih =>
    rw [holdings_append_singleton]
    rcases tpm.holdingsAfter_cases (calls ++ [call]) (tpm.holdings calls) call with
      ⟨handle, volatile, opens, after⟩ | ⟨handle, discipline, after⟩ | after <;> rw [after]
    · exact ih.hold handle (fresh calls call handle volatile opens) volatile
    · exact ih.release handle discipline
    · exact ih

/-- A loop of flushes over distinct handles unloads exactly the resources whose flush
succeeded. -/
theorem loaded_flushes (calls : List EsysCall) {flushes : List ObjectHandle}
    (distinct : flushes.Nodup) :
    (tpm.holdings (calls ++ flushes.map EsysCall.flushContext)).loaded =
      (tpm.holdings calls).loaded.filter fun handle =>
        handle ∉ flushes ∨ handle ∈ failedReleases tpm .flush calls flushes := by
  induction flushes generalizing calls with
  | nil => simp
  | cons flushed flushes ih =>
    obtain ⟨notLater, distinct⟩ := List.nodup_cons.mp distinct
    rw [List.map_cons, ← List.singleton_append, ← List.append_assoc, ih _ distinct,
      holdings_append_singleton]
    cases answered : tpm.flushContext (calls ++ [.flushContext flushed]) with
    | ok =>
      rw [@holdingsAfter_of_released tpm _ _ (.flushContext flushed) flushed .flush rfl
        (by simp only [released, answered]), Holdings.release_flush_loaded, List.filter_filter]
      simp only [failedReleases, releaseCall_flush, answerRelease, answered]
      refine List.filter_congr fun handle _ => ?_
      by_cases same : handle = flushed
      · simp [same, notLater, not_mem_failedReleases notLater]
      · simp [same]
    | error =>
      rw [@holdingsAfter_of_quiet tpm _ _ (.flushContext flushed) rfl
        (by simp only [released, answered])]
      simp only [failedReleases, releaseCall_flush, answerRelease, answered]
      refine List.filter_congr fun handle _ => ?_
      by_cases same : handle = flushed <;> simp [same, notLater]

/-- Closes unload nothing. -/
theorem loaded_closes (calls : List EsysCall) (closes : List ObjectHandle) :
    (tpm.holdings (calls ++ closes.map EsysCall.trClose)).loaded = (tpm.holdings calls).loaded := by
  induction closes generalizing calls with
  | nil => simp
  | cons closed closes ih =>
    rw [List.map_cons, ← List.singleton_append, ← List.append_assoc, ih,
      holdings_append_singleton]
    cases answered : tpm.trClose (calls ++ [.trClose closed]) with
    | ok => rw [@holdingsAfter_of_released tpm _ _ (.trClose closed) closed .close rfl
        (by simp only [released, answered]), Holdings.release_close_loaded]
    | error => rw [@holdingsAfter_of_quiet tpm _ _ (.trClose closed) rfl
        (by simp only [released, answered])]

/-- The sweep of `drop` and the finalize after it unload exactly the resources whose flush
succeeded. -/
theorem loaded_swept (calls : List EsysCall) {flushes : List ObjectHandle}
    (distinct : flushes.Nodup) (closes : List ObjectHandle) :
    (tpm.holdings (calls ++ flushes.map EsysCall.flushContext ++ closes.map EsysCall.trClose ++
        [.finalize])).loaded =
      (tpm.holdings calls).loaded.filter fun handle =>
        handle ∉ flushes ∨ handle ∈ failedReleases tpm .flush calls flushes := by
  rw [holdings_append_singleton, @holdingsAfter_of_quiet tpm _ _ .finalize rfl rfl, loaded_closes,
    loaded_flushes _ _ distinct]

/-- The relation `rel` between the handle manager's entries and the native side's references
survives each change a method makes: a reference the native side hands out, which the handle
manager registers with an action that expects its volatility, or refuses, and a release on both
sides. -/
structure Accounting (rel : List Reference → List Reference → Prop) : Prop where
  added : ∀ {calls : List EsysCall} {call : EsysCall} {manager registered : HandleManager}
    {handle : ObjectHandle} {action : HandleDropAction},
    tpm.opened (calls ++ [call]) call = some (handle, action == .flush) →
    rel manager.references (tpm.holdings calls).references →
    manager.addHandle handle action = .ok registered →
    rel registered.references ((handle, action == .flush) :: (tpm.holdings calls).references)
  refused : ∀ {calls : List EsysCall} {call : EsysCall} {manager : HandleManager}
    {handle : ObjectHandle} {action : HandleDropAction} {e : Error},
    tpm.opened (calls ++ [call]) call = some (handle, action == .flush) →
    rel manager.references (tpm.holdings calls).references →
    manager.addHandle handle action = .error e →
    rel manager.references ((handle, action == .flush) :: (tpm.holdings calls).references)
  released : ∀ {registry references : List Reference} (handle : ObjectHandle),
    rel registry references →
      rel (registry.filter (·.1 != handle)) (references.filter (·.1 != handle))

/-- For every TPM, the handle manager lists only live references. -/
theorem accounting_subset : tpm.Accounting (· ⊆ ·) where
  added _ tracked added :=
    (HandleManager.references_addHandle_subset _ added).trans (List.cons_subset_cons _ tracked)
  refused _ tracked _ := List.subset_cons_of_subset _ tracked
  released _ tracked := List.filter_subset _ tracked

/-- With fresh handles, a handle the native side hands out is not in a handle manager that lists
exactly the live references. -/
theorem unregistered_of_fresh (fresh : tpm.Fresh) {calls : List EsysCall} {call : EsysCall}
    {manager : HandleManager} {handle : ObjectHandle} {volatile : Bool}
    (opens : tpm.opened (calls ++ [call]) call = some (handle, volatile))
    (synced : manager.references = (tpm.holdings calls).references) :
    handle ∉ manager.openHandles.map Prod.fst := fun registered =>
  fresh _ _ _ _ opens (List.mem_append_left _
    (synced ▸ HandleManager.references_map_fst _ ▸ registered))

/-- With fresh handles, the handle manager lists exactly the live references. -/
theorem accounting_eq (fresh : tpm.Fresh) : tpm.Accounting (· = ·) where
  added opens synced added := by
    rw [HandleManager.addHandle_of_not_mem _ _
      (tpm.unregistered_of_fresh fresh opens synced)] at added
    cases added
    exact congrArg _ synced
  refused opens synced refused := by
    rw [HandleManager.addHandle_of_not_mem _ _
      (tpm.unregistered_of_fresh fresh opens synced)] at refused
    cases refused
  released handle synced := synced ▸ rfl

/-- A TPM that accepts every call and numbers each handle it hands out by the count of calls
issued, answering `TPM_RC_OBJECT_MEMORY` once that count no longer fits a handle. -/
def numbering : Tpm :=
  { Tpm.accepting with
    startAuthSession := fun calls =>
      if fits : calls.length < UInt32.size then .ok (some ⟨UInt32.ofNatCore calls.length fits⟩)
      else .error (.tssError 0x902)
    trFromTpmPublic := fun calls =>
      if fits : calls.length < UInt32.size then .ok ⟨UInt32.ofNatCore calls.length fits⟩
      else .error (.tssError 0x902) }

theorem numbering_opened {handle : ObjectHandle} {volatile : Bool}
    (opens : numbering.opened calls call = some (handle, volatile)) :
    handle.value.toNat = calls.length := by
  cases call
  case startAuthSession =>
    simp only [opened, numbering] at opens
    split_ifs at opens
    cases opens
    rfl
  case trFromTpmPublic =>
    simp only [opened, numbering] at opens
    split_ifs at opens
    cases opens
    rfl
  all_goals cases opens

/-- The handles the numbering TPM's holdings go by are numbered no higher than the count of
calls. -/
theorem numbering_holdings (calls : List EsysCall) :
    ∀ handle ∈ (numbering.holdings calls).handles, handle.value.toNat ≤ calls.length := by
  induction calls using List.reverseRecOn with
  | nil => exact fun _ held => nomatch held
  | append_singleton calls call ih =>
    intro handle held
    have grown : calls.length ≤ (calls ++ [call]).length := by simp
    rw [holdings_append_singleton] at held
    rcases numbering.holdingsAfter_cases (calls ++ [call]) (numbering.holdings calls) call with
      ⟨opened, volatile, opens, after⟩ | ⟨released, discipline, after⟩ | after <;>
      rw [after] at held
    · rcases List.mem_cons.mp (Holdings.handles_hold_subset _ _ _ held) with rfl | older
      · exact (numbering_opened opens).le
      · exact (ih handle older).trans grown
    · exact (ih handle (Holdings.handles_release_subset _ _ _ held)).trans grown
    · exact (ih handle held).trans grown

theorem numbering_fresh : numbering.Fresh := by
  intro calls call handle volatile opens held
  have older := numbering_holdings calls handle held
  rw [numbering_opened opens, List.length_append, List.length_singleton] at older
  omega

end Tpm

namespace Context

/-- The handle manager's entries, read as references, stand in `rel` to the native side's live
references. -/
def Accounts (tpm : Tpm) (rel : List Reference → List Reference → Prop) (self : Context) :
    Prop :=
  rel self.handleManager.references (tpm.holdings self.esysCalls).references

section Native

variable (tpm : Tpm) {rel : List Reference → List Reference → Prop} {self : Context}

theorem accounts_issue (call : EsysCall) :
    Accounts tpm rel (self.issue call) ↔
      rel self.handleManager.references
        (tpm.holdingsAfter (self.esysCalls ++ [call]) (tpm.holdings self.esysCalls)
          call).references := by
  simp [Accounts, Tpm.holdings_append_singleton]

/-- The account after a call that opens and releases nothing. -/
theorem accounts_issue_of_quiet {call : EsysCall}
    (opens : tpm.opened (self.issue call).esysCalls call = none)
    (releases : tpm.released (self.issue call).esysCalls call = none)
    (holds : Accounts tpm rel self) : Accounts tpm rel (self.issue call) := by
  rw [issue_esysCalls] at opens releases
  rw [accounts_issue, Tpm.holdingsAfter_of_quiet opens releases]
  exact holds

/-- A call that opens and releases nothing keeps the account. -/
theorem esysCall_accounts {α : Type} (call : EsysCall) (answer : List EsysCall → α)
    (quiet : ∀ calls, tpm.opened calls call = none ∧ tpm.released calls call = none) :
    Hoare (Accounts tpm rel) (Accounts tpm rel) (esysCall call answer) :=
  esysCall_hoare call answer fun _ holds =>
    accounts_issue_of_quiet tpm (quiet _).1 (quiet _).2 holds

theorem setSessions_accounts (sessionHandles : SessionTriple) :
    Hoare (Accounts tpm rel) (Accounts tpm rel) (setSessions sessionHandles) :=
  Hoare.of_modify fun _ holds => holds

theorem clearSessions_accounts : Hoare (Accounts tpm rel) (Accounts tpm rel) clearSessions :=
  Hoare.of_modify fun _ holds => holds

theorem executeWithSessions_accounts {T : Type} (sessionHandles : SessionTriple) {f : ContextM T}
    (body : Hoare (Accounts tpm rel) (Accounts tpm rel) f) :
    Hoare (Accounts tpm rel) (Accounts tpm rel) (executeWithSessions sessionHandles f) :=
  Hoare.of_get.bind fun _ => (setSessions_accounts tpm _).bind fun _ => body.bind fun _ =>
    (setSessions_accounts tpm _).bind fun _ => Hoare.of_pure _

theorem getCapability_accounts (capability : CapabilityType) (property propertyCount : UInt32) :
    Hoare (Accounts tpm rel) (Accounts tpm rel)
      (getCapability tpm capability property propertyCount) :=
  Hoare.of_get.bind fun _ => esysCall_accounts tpm _ _ fun _ => ⟨rfl, rfl⟩

theorem trSessSetAttributes_accounts (session : AuthSession) (attributes mask : UInt8) :
    Hoare (Accounts tpm rel) (Accounts tpm rel) (trSessSetAttributes tpm session attributes mask) :=
  esysCall_accounts tpm _ _ fun _ => ⟨rfl, rfl⟩

theorem getTpmProperty_accounts (property : PropertyTag) :
    Hoare (Accounts tpm rel) (Accounts tpm rel) (getTpmProperty tpm property) :=
  getTpmProperty_hoare tpm property
    (executeWithSessions_accounts tpm _ (getCapability_accounts tpm _ _ _)) fun _ _ holds => holds

section Accounting

variable {tpm} (accounting : tpm.Accounting rel)
include accounting

/-- A call that opened a reference keeps the account, whether the handle manager then registers
it, with an action that expects its volatility, or refuses it. -/
theorem accounts_of_opened {call : EsysCall} {handle : ObjectHandle} {action : HandleDropAction}
    (opens : tpm.opened (self.issue call).esysCalls call = some (handle, action == .flush))
    (holds : Accounts tpm rel self) :
    (∀ e, self.handleManager.addHandle handle action = .error e →
      Accounts tpm rel (self.issue call)) ∧
    (∀ registered, self.handleManager.addHandle handle action = .ok registered →
      Accounts tpm rel { self.issue call with handleManager := registered }) := by
  rw [issue_esysCalls] at opens
  refine ⟨fun _ refused => ?_, fun registered added => ?_⟩
  · rw [accounts_issue, Tpm.holdingsAfter_of_opened opens]
    exact accounting.refused opens holds refused
  · show rel registered.references (tpm.holdings (self.esysCalls ++ [call])).references
    rw [Tpm.holdings_append_singleton, Tpm.holdingsAfter_of_opened opens]
    exact accounting.added opens holds added

theorem startAuthSession_accounts (sessionType : SessionType) (symmetric : SymmetricDefinition)
    (authHash : HashingAlgorithm) :
    Hoare (Accounts tpm rel) (Accounts tpm rel)
      (startAuthSession tpm sessionType symmetric authHash) := by
  intro self res after holds ran
  rw [startAuthSession, StateT.run_bind, StateT.run_get, pure_bind] at ran
  have ran := run_of_esysCall_bind ran
  split at ran
  next answered =>
    cases ran
    exact accounts_issue_of_quiet tpm (by simp only [Tpm.opened, answered]) rfl holds
  next answered =>
    cases ran
    exact accounts_issue_of_quiet tpm (by simp only [Tpm.opened, answered]) rfl holds
  next handle answered =>
    rw [StateT.run_bind, StateT.run_get, pure_bind] at ran
    split at ran
    next refused =>
      cases ran
      exact (accounts_of_opened accounting (by simp only [Tpm.opened, answered, beq_self_eq_true])
        holds).1 _ refused
    next added =>
      rw [StateT.run_bind, StateT.run_modify, pure_bind] at ran
      cases ran
      exact (accounts_of_opened accounting (by simp only [Tpm.opened, answered, beq_self_eq_true])
        holds).2 _ added

theorem trFromTpmPublic_accounts (tpmHandle : TpmHandle) :
    Hoare (Accounts tpm rel) (Accounts tpm rel) (trFromTpmPublic tpm tpmHandle) := by
  intro self res after holds ran
  rw [trFromTpmPublic, StateT.run_bind, StateT.run_get, pure_bind] at ran
  have ran := run_of_esysCall_bind ran
  split at ran
  next answered =>
    cases ran
    exact accounts_issue_of_quiet tpm (by simp only [Tpm.opened, answered]) rfl holds
  next handle answered =>
    have opens : tpm.opened (self.issue (.trFromTpmPublic tpmHandle self.sessions)).esysCalls
        (.trFromTpmPublic tpmHandle self.sessions) = some (handle,
          (if tpmHandle.mayBeFlushed then HandleDropAction.flush else .close) == .flush) := by
      simp only [Tpm.opened, answered]
      cases tpmHandle.mayBeFlushed <;> rfl
    rw [StateT.run_bind, StateT.run_get, pure_bind] at ran
    split at ran
    next refused =>
      cases ran
      exact (accounts_of_opened accounting opens holds).1 _ refused
    next added =>
      rw [StateT.run_bind, StateT.run_modify, pure_bind] at ran
      cases ran
      exact (accounts_of_opened accounting opens holds).2 _ added

/-- A release of `handle` by `discipline` keeps the account, whether it succeeds or fails. -/
theorem release_accounts (call : EsysCall) (answer : List EsysCall → Except Error Unit)
    (handle : ObjectHandle) (discipline : HandleDropAction)
    (opensNothing : ∀ calls, tpm.opened calls call = none)
    (releases : ∀ calls, tpm.released calls call =
      match answer calls with
      | .ok () => some (handle, discipline)
      | .error _ => none) :
    Hoare (Accounts tpm rel) (Accounts tpm rel) (release call answer handle) := by
  intro self res after holds ran
  rw [release] at ran
  have ran := run_of_esysCall_bind ran
  rw [StateT.run_bind, StateT.run_modify, pure_bind] at ran
  cases ran
  have releasesNow := releases (self.issue call).esysCalls
  cases answered : answer (self.issue call).esysCalls with
  | error =>
    exact accounts_issue_of_quiet tpm (opensNothing _) (by simp only [releasesNow, answered]) holds
  | ok =>
    rw [answered] at releasesNow
    simp only [issue_esysCalls] at releasesNow
    show rel (self.handleManager.removeHandle handle).references
      (tpm.holdings (self.esysCalls ++ [call])).references
    rw [Tpm.holdings_append_singleton, Tpm.holdingsAfter_of_released (opensNothing _) releasesNow,
      HandleManager.references_removeHandle, Holdings.release_references]
    exact accounting.released handle holds

theorem flushContext_accounts (handle : ObjectHandle) :
    Hoare (Accounts tpm rel) (Accounts tpm rel) (flushContext tpm handle) :=
  release_accounts accounting _ _ _ .flush (fun _ => rfl) fun _ => rfl

theorem trClose_accounts (handle : ObjectHandle) :
    Hoare (Accounts tpm rel) (Accounts tpm rel) (trClose tpm handle) :=
  release_accounts accounting _ _ _ .close (fun _ => rfl) fun _ => rfl

theorem executeWithNullauthSession_accounts {E T : Type} (ofError : Error → E)
    {f : ContextM (Except E T)} (body : Hoare (Accounts tpm rel) (Accounts tpm rel) f) :
    Hoare (Accounts tpm rel) (Accounts tpm rel) (executeWithNullauthSession tpm ofError f) :=
  executeWithNullauthSession_hoare tpm ofError (startAuthSession_accounts accounting _ _ _)
    (fun _ _ _ => trSessSetAttributes_accounts tpm _ _ _) (flushContext_accounts accounting)
    fun _ => executeWithSessions_accounts tpm _ body

end Accounting

mutual

/-- Every method call keeps the account. -/
theorem Op.run_accounts (accounting : tpm.Accounting rel) :
    ∀ op : Op, Hoare (Accounts tpm rel) (Accounts tpm rel) (op.run tpm)
  | .setSessions _ => (setSessions_accounts tpm _).bind fun _ => Hoare.of_pure _
  | .clearSessions => (clearSessions_accounts tpm).bind fun _ => Hoare.of_pure _
  | .getTpmProperty _ => (getTpmProperty_accounts tpm _).map _
  | .getCapability _ _ _ => (getCapability_accounts tpm _ _ _).map _
  | .startAuthSession _ _ _ => (startAuthSession_accounts accounting _ _ _).map _
  | .trSessSetAttributes _ _ _ => trSessSetAttributes_accounts tpm _ _ _
  | .flushContext _ => flushContext_accounts accounting _
  | .trClose _ => trClose_accounts accounting _
  | .trFromTpmPublic _ => (trFromTpmPublic_accounts accounting _).map _
  | .executeWithSessions _ body =>
    executeWithSessions_accounts tpm _ (Op.runList_accounts accounting body _)
  | .executeWithNullauthSession body =>
    executeWithNullauthSession_accounts accounting id (Op.runList_accounts accounting body _)
  | .executeWithTemporaryObject object body =>
    @executeWithTemporaryObject_hoare _ tpm _ Unit object (fun _ => Op.runList tpm body (.ok ()))
      (flushContext_accounts accounting) (Op.runList_accounts accounting body _)

/-- Every run of method calls keeps the account. -/
theorem Op.runList_accounts (accounting : tpm.Accounting rel) :
    ∀ (ops : List Op) (outcome : Except Error Unit),
    Hoare (Accounts tpm rel) (Accounts tpm rel) (Op.runList tpm ops outcome)
  | [], _ => Hoare.of_pure _
  | op :: ops, _ => (Op.run_accounts accounting op).bind fun outcome =>
    Op.runList_accounts accounting ops outcome

end

/-- A handle `drop` flushes is among its failures exactly when its flush failed. -/
theorem mem_dropFailures_of_flush {handle : ObjectHandle}
    (flushing : handle ∈ self.handleManager.handlesToFlush) :
    handle ∈ dropFailures tpm self ↔
      handle ∈ failedReleases tpm .flush self.esysCalls self.handleManager.handlesToFlush := by
  have notClosing := self.handleManager.not_mem_handlesToClose_of_mem_handlesToFlush flushing
  simp [dropFailures, not_mem_failedReleases notClosing]

end Native

/-- A session started, then closed rather than flushed. -/
def closeSession : List Op :=
  [.startAuthSession .hmac .aes128Cfb .sha256, .trClose ⟨1⟩]

/-- The numbering TPM starts the session as handle `1`.  The close lets the handle manager drop
it, so `drop` has nothing to flush and fails nothing, and the session stays loaded. -/
example :
    ((do
      let _ ← Op.runList Tpm.numbering closeSession (.ok ())
      let failures := dropFailures Tpm.numbering (← get)
      drop Tpm.numbering
      return failures : ContextM (List ObjectHandle)).run initial).map
      (fun (failures, dropped) => (failures, (Tpm.numbering.holdings dropped.esysCalls).loaded)) =
      some ([], [⟨1⟩]) :=
  rfl

end Context

end TssEsapi
