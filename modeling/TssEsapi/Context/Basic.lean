import TssEsapi.Context.Handles

/-!
# The context and its native calls

`Context` (`context.rs`) owns the native ESYS context, three session slots, the handle manager
and a cache of TPM properties.  Its methods run in `ContextM`: `&mut self` is state passing,
and a panic is `none`.  The one panic of `context.rs` is the `unwrap` of `mut_context` once
`drop` has taken the native context.

The command wrappers that issue native calls (`get_capability`, `start_auth_session`,
`flush_context`, `tr_from_tpm_public`, ...) live in the other files of `context/`, not in
`context.rs`.  They are modelled from the spec's uniform
contract of the native call boundary: a command passes the native context, through
`mut_context`, with the session slots where it takes sessions and its parameters; the TPM
answers; a command that creates a handle registers it, and a release deregisters its handle once
it succeeded.  The TPM is the parameter `Tpm`, whose answer to a call may depend on every call
issued before, so a statement over every `Tpm` covers every pattern of answers.  `esysCalls`
records the calls issued: it is the model's view of the native side, not a field of the Rust
structure.
-/

namespace TssEsapi

/-- `AuthSession`: the password session, or a started HMAC or policy session. -/
inductive AuthSession
  | password
  | hmacSession (handle : ObjectHandle)
  | policySession (handle : ObjectHandle)
  deriving DecidableEq, Repr

/-- `ObjectHandle::from(SessionHandle::from(session))`; the password session is
`ESYS_TR_PASSWORD`. -/
def AuthSession.handle : AuthSession → ObjectHandle
  | .password => ⟨0x0FF⟩
  | .hmacSession handle => handle
  | .policySession handle => handle

/-- The three session slots, in protocol order. -/
abbrev SessionTriple := Option AuthSession × Option AuthSession × Option AuthSession

/-- `SessionType`. -/
inductive SessionType
  | hmac
  | policy
  | trial
  deriving DecidableEq, Repr

/-- `AuthSession::create` for the handle the TPM returned. -/
def AuthSession.create : SessionType → ObjectHandle → AuthSession
  | .hmac, handle => .hmacSession handle
  | .policy, handle => .policySession handle
  | .trial, handle => .policySession handle

/-- `SymmetricDefinition`, in the `TPM2_ALG_*` encoding of its algorithm and mode. -/
structure SymmetricDefinition where
  algorithm : UInt16
  keyBits : UInt16
  mode : UInt16
  deriving DecidableEq, Repr

/-- `SymmetricDefinition::AES_128_CFB`. -/
def SymmetricDefinition.aes128Cfb : SymmetricDefinition :=
  ⟨0x0006, 128, 0x0043⟩

/-- `HashingAlgorithm`, by its `TPM2_ALG_*` identifier. -/
structure HashingAlgorithm where
  algorithm : UInt16
  deriving DecidableEq, Repr

/-- `HashingAlgorithm::Sha256`. -/
def HashingAlgorithm.sha256 : HashingAlgorithm :=
  ⟨0x000B⟩

/-- `PropertyTag`, by its `TPM2_PT` value (`property.into()`). -/
structure PropertyTag where
  value : UInt32
  deriving DecidableEq, Repr

/-- `TaggedProperty`: a property and its value. -/
structure TaggedProperty where
  property : PropertyTag
  value : UInt32
  deriving DecidableEq, Repr

/-- `CapabilityType`. -/
inductive CapabilityType
  | algorithms
  | handles
  | command
  | ppCommands
  | auditCommands
  | assignedPcr
  | tpmProperties
  | pcrProperties
  | eccCurves
  | authPolicies
  | act
  deriving DecidableEq, Repr

/-- `CapabilityData`.  The tagged TPM properties keep their payload; `get_tpm_property` only
tells the other variants apart from them, so they keep their capability alone. -/
inductive CapabilityData
  | tpmProperties (props : List TaggedProperty)
  | other (capability : CapabilityType)
  deriving DecidableEq, Repr

/-- A native call with the arguments the model keeps. -/
inductive EsysCall
  | getCapability (capability : CapabilityType) (property propertyCount : UInt32)
      (sessions : SessionTriple)
  | startAuthSession (sessionType : SessionType) (symmetric : SymmetricDefinition)
      (authHash : HashingAlgorithm) (sessions : SessionTriple)
  | trSessSetAttributes (session : AuthSession) (attributes mask : UInt8)
  | flushContext (handle : ObjectHandle)
  | trClose (handle : ObjectHandle)
  | trFromTpmPublic (tpmHandle : TpmHandle) (sessions : SessionTriple)
  | finalize
  deriving DecidableEq, Repr

/-- The TPM behind the native layer.  Each field answers one kind of call and is given every
call issued so far, the call it answers last. -/
structure Tpm where
  newContext : Except Error Unit
  getCapability : List EsysCall → Except Error (CapabilityData × Bool)
  startAuthSession : List EsysCall → Except Error (Option ObjectHandle)
  trSessSetAttributes : List EsysCall → Except Error Unit
  flushContext : List EsysCall → Except Error Unit
  trClose : List EsysCall → Except Error Unit
  trFromTpmPublic : List EsysCall → Except Error ObjectHandle

/-- A TPM that accepts every call: it starts sessions as `0x02000000`, makes
`0x40000001` known to the context and reports no property. -/
def Tpm.accepting : Tpm where
  newContext := .ok ()
  getCapability _ := .ok (.tpmProperties [], false)
  startAuthSession _ := .ok (some ⟨0x02000000⟩)
  trSessSetAttributes _ := .ok ()
  flushContext _ := .ok ()
  trClose _ := .ok ()
  trFromTpmPublic _ := .ok ⟨0x40000001⟩

/-- The native `ESYS_CONTEXT`; the model tracks only whether the context still owns it. -/
structure EsysContext
  deriving DecidableEq, Repr

/-- `Context`, with `esysCalls` recording the native calls issued through it. -/
structure Context where
  esysContext : Option EsysContext
  sessions : SessionTriple
  handleManager : HandleManager
  cachedTpmProperties : PropertyTag → Option UInt32
  esysCalls : List EsysCall

/-- A method of `Context`: state passing, with `none` for a panic. -/
abbrev ContextM := StateT Context Option

namespace Context

/-- The context `Context::new` builds: it owns the new native context, and its session slots,
handle manager and cache are empty. -/
def initial : Context :=
  { esysContext := some {}, sessions := (none, none, none), handleManager := .new,
    cachedTpmProperties := fun _ => none, esysCalls := [] }

/-- `Context::new`: the TCTI loader and `Esys_Initialize`, answered together by
`tpm.newContext`, then the initial context. -/
def new (tpm : Tpm) : Except Error Context := do
  tpm.newContext
  return initial

theorem eq_initial_of_new {tpm : Tpm} {ctx : Context} (built : Context.new tpm = .ok ctx) :
    ctx = initial := by
  cases created : tpm.newContext <;> simp [Context.new, created] at built
  exact built.symm

/-- `set_sessions`. -/
def setSessions (sessionHandles : SessionTriple) : ContextM Unit :=
  modify fun self => { self with sessions := sessionHandles }

/-- `clear_sessions`. -/
def clearSessions : ContextM Unit :=
  modify fun self => { self with sessions := (none, none, none) }

/-- `SessionHandle::from(session).into()`: the slot's session handle, `ESYS_TR_NONE` for an
empty slot. -/
def sessionHandle : Option AuthSession → ObjectHandle
  | none => ⟨0xFFF⟩
  | some session => session.handle

/-- The `optional_session_*` accessors: the handle of the session in `slot`. -/
def optionalSession (slot : SessionTriple → Option AuthSession) (self : Context) : ObjectHandle :=
  sessionHandle (slot self.sessions)

/-- `optional_session_1`. -/
def optionalSession1 : Context → ObjectHandle := optionalSession (·.1)

/-- `optional_session_2`. -/
def optionalSession2 : Context → ObjectHandle := optionalSession (·.2.1)

/-- `optional_session_3`. -/
def optionalSession3 : Context → ObjectHandle := optionalSession (·.2.2)

/-- The `required_session_*` accessors: the handle of the session in `slot`, or
`MissingAuthSession` for an empty slot. -/
def requiredSession (slot : SessionTriple → Option AuthSession) (self : Context) :
    Except Error ObjectHandle :=
  match slot self.sessions with
  | some session => .ok session.handle
  | none => .error (.wrapperError .missingAuthSession)

/-- `required_session_1`. -/
def requiredSession1 : Context → Except Error ObjectHandle := requiredSession (·.1)

/-- `required_session_2`. -/
def requiredSession2 : Context → Except Error ObjectHandle := requiredSession (·.2.1)

/-- A required session is the optional one when its slot is filled, and `MissingAuthSession`
otherwise. -/
theorem requiredSession_eq (slot : SessionTriple → Option AuthSession) (self : Context) :
    requiredSession slot self =
      if (slot self.sessions).isSome then .ok (optionalSession slot self)
      else .error (.wrapperError .missingAuthSession) := by
  cases filled : slot self.sessions <;> simp [requiredSession, optionalSession, sessionHandle, filled]

/-- `mut_context`: the native context, or the panic of its `unwrap` once it was taken. -/
def mutContext : ContextM EsysContext :=
  fun self => self.esysContext.map fun esysContext => (esysContext, self)

/-- The context after issuing `call`. -/
def issue (self : Context) (call : EsysCall) : Context :=
  { self with esysCalls := self.esysCalls ++ [call] }

@[simp] theorem issue_esysContext (self : Context) (call : EsysCall) :
    (self.issue call).esysContext = self.esysContext := rfl

@[simp] theorem issue_sessions (self : Context) (call : EsysCall) :
    (self.issue call).sessions = self.sessions := rfl

@[simp] theorem issue_handleManager (self : Context) (call : EsysCall) :
    (self.issue call).handleManager = self.handleManager := rfl

@[simp] theorem issue_cachedTpmProperties (self : Context) (call : EsysCall) :
    (self.issue call).cachedTpmProperties = self.cachedTpmProperties := rfl

@[simp] theorem issue_esysCalls (self : Context) (call : EsysCall) :
    (self.issue call).esysCalls = self.esysCalls ++ [call] := rfl

/-- The context after a release of `handle` answered `outcome`: the handle leaves the handle
manager when the release succeeded. -/
def afterRelease (self : Context) (handle : ObjectHandle) : Except Error Unit → Context
  | .ok () => { self with handleManager := self.handleManager.removeHandle handle }
  | .error _ => self

@[simp] theorem afterRelease_esysContext (self : Context) (handle : ObjectHandle)
    (outcome : Except Error Unit) :
    (self.afterRelease handle outcome).esysContext = self.esysContext := by
  cases outcome <;> rfl

@[simp] theorem afterRelease_cachedTpmProperties (self : Context) (handle : ObjectHandle)
    (outcome : Except Error Unit) :
    (self.afterRelease handle outcome).cachedTpmProperties = self.cachedTpmProperties := by
  cases outcome <;> rfl

@[simp] theorem afterRelease_esysCalls (self : Context) (handle : ObjectHandle)
    (outcome : Except Error Unit) :
    (self.afterRelease handle outcome).esysCalls = self.esysCalls := by
  cases outcome <;> rfl

@[simp] theorem afterRelease_sessions (self : Context) (handle : ObjectHandle)
    (outcome : Except Error Unit) :
    (self.afterRelease handle outcome).sessions = self.sessions := by
  cases outcome <;> rfl

theorem afterRelease_handleManager (self : Context) (handle : ObjectHandle)
    (outcome : Except Error Unit) :
    (self.afterRelease handle outcome).handleManager =
      match outcome with
      | .ok () => self.handleManager.removeHandle handle
      | .error _ => self.handleManager := by
  cases outcome <;> rfl

section Native

variable (tpm : Tpm)

/-- The native call boundary: `mut_context` hands the native context to `call`, which the TPM
answers. -/
def esysCall {α : Type} (call : EsysCall) (answer : List EsysCall → α) : ContextM α := do
  let _ ← mutContext
  modify (·.issue call)
  return answer (← get).esysCalls

/-- Modelled from the spec: `get_capability(capability, property, property_count)`, issued
with the session slots. -/
def getCapability (capability : CapabilityType) (property propertyCount : UInt32) :
    ContextM (Except Error (CapabilityData × Bool)) := do
  esysCall (.getCapability capability property propertyCount (← get).sessions) tpm.getCapability

/-- Modelled from the spec: `start_auth_session`; a session the TPM starts is registered to be
flushed, and the "no session" handle gives `None`. -/
def startAuthSession (sessionType : SessionType) (symmetric : SymmetricDefinition)
    (authHash : HashingAlgorithm) : ContextM (Except Error (Option AuthSession)) := do
  match ← esysCall (.startAuthSession sessionType symmetric authHash (← get).sessions)
      tpm.startAuthSession with
  | .error e => return .error e
  | .ok none => return .ok none
  | .ok (some handle) =>
    match (← get).handleManager.addHandle handle .flush with
    | .error e => return .error e
    | .ok handleManager =>
      modify fun self => { self with handleManager }
      return .ok (some (AuthSession.create sessionType handle))

/-- Modelled from the spec: `tr_sess_set_attributes(session, attributes, mask)`. -/
def trSessSetAttributes (session : AuthSession) (attributes mask : UInt8) :
    ContextM (Except Error Unit) :=
  esysCall (.trSessSetAttributes session attributes mask) tpm.trSessSetAttributes

/-- Modelled from the spec: a release of `handle` by `call`, after which "`remove_handle` is
called once an explicit flush/close succeeds". -/
def release (call : EsysCall) (answer : List EsysCall → Except Error Unit)
    (handle : ObjectHandle) : ContextM (Except Error Unit) := do
  let outcome ← esysCall call answer
  modify (·.afterRelease handle outcome)
  return outcome

/-- Modelled from the spec: `flush_context(handle)`. -/
def flushContext (handle : ObjectHandle) : ContextM (Except Error Unit) :=
  release (.flushContext handle) tpm.flushContext handle

/-- Modelled from the spec: `tr_close(handle)`. -/
def trClose (handle : ObjectHandle) : ContextM (Except Error Unit) :=
  release (.trClose handle) tpm.trClose handle

/-- Modelled from the spec: `tr_from_tpm_public(tpm_handle)`; the new handle is registered "under
the correct disposition", to be flushed when `tpm_handle` may be flushed and to be closed
otherwise. -/
def trFromTpmPublic (tpmHandle : TpmHandle) : ContextM (Except Error ObjectHandle) := do
  match ← esysCall (.trFromTpmPublic tpmHandle (← get).sessions) tpm.trFromTpmPublic with
  | .error e => return .error e
  | .ok handle =>
    match (← get).handleManager.addHandle handle
        (if tpmHandle.mayBeFlushed then .flush else .close) with
    | .error e => return .error e
    | .ok handleManager =>
      modify fun self => { self with handleManager }
      return .ok handle

/-! ## Runs on an open context -/

variable {self : Context}

theorem esysCall_run {α : Type} (call : EsysCall) (answer : List EsysCall → α)
    (open_ : self.esysContext.isSome) :
    (esysCall call answer).run self = some (answer (self.issue call).esysCalls, self.issue call) := by
  obtain ⟨esysContext, owned⟩ := Option.isSome_iff_exists.mp open_
  simp [esysCall, mutContext, owned, StateT.run, bind, StateT.bind, get, getThe,
    MonadStateOf.get, StateT.get, modify, modifyGet, MonadStateOf.modifyGet, StateT.modifyGet,
    pure, StateT.pure]

theorem esysCall_run_of_closed {α : Type} (call : EsysCall) (answer : List EsysCall → α)
    (closed : self.esysContext = none) : (esysCall call answer).run self = none := by
  simp [esysCall, mutContext, closed, StateT.run, bind, StateT.bind]

/-- A native call runs only on a context that still owns its native context. -/
theorem esysCall_run_eq {α : Type} (call : EsysCall) (answer : List EsysCall → α) :
    (esysCall call answer).run self =
      self.esysContext.map fun _ => (answer (self.issue call).esysCalls, self.issue call) := by
  cases owned : self.esysContext with
  | none => exact esysCall_run_of_closed call answer owned
  | some => simp [esysCall_run call answer (Option.isSome_iff_exists.mpr ⟨_, owned⟩), owned]

/-- What a run that starts with a native call does, on the context after the call. -/
theorem run_of_esysCall_bind {α β : Type} {call : EsysCall} {answer : List EsysCall → α}
    {k : α → ContextM β} {res : β} {after : Context}
    (ran : (esysCall call answer >>= k).run self = some (res, after)) :
    (k (answer (self.issue call).esysCalls)).run (self.issue call) = some (res, after) := by
  simp only [StateT.run_bind, esysCall_run_eq, Option.bind_eq_bind] at ran
  obtain ⟨_, mapped, ran⟩ := Option.bind_eq_some.mp ran
  obtain ⟨_, -, rfl⟩ := Option.map_eq_some'.mp mapped
  exact ran

theorem release_run (call : EsysCall) (answer : List EsysCall → Except Error Unit)
    (handle : ObjectHandle) (open_ : self.esysContext.isSome) :
    (release call answer handle).run self =
      some (answer (self.issue call).esysCalls,
        (self.issue call).afterRelease handle (answer (self.issue call).esysCalls)) := by
  simp [release, esysCall_run call answer open_]

theorem getCapability_run (capability : CapabilityType) (property propertyCount : UInt32)
    (open_ : self.esysContext.isSome) :
    (getCapability tpm capability property propertyCount).run self =
      let call := EsysCall.getCapability capability property propertyCount self.sessions
      some (tpm.getCapability (self.issue call).esysCalls, self.issue call) := by
  simp [getCapability, esysCall_run _ _ open_]

end Native

end Context

end TssEsapi
