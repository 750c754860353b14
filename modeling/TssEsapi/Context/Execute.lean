import TssEsapi.Context.Basic

/-!
# Scoped execution

`execute_with_sessions` runs a closure with other session slots and puts the old ones back
afterwards; `execute_with_nullauth_session` runs a closure in a fresh HMAC session and flushes
the session after it; `execute_with_temporary_object` flushes an object after a closure used
it.  A closure is any `ContextM` computation: it may change any part of the context, issue
native calls, fail, panic, and nest further scoped calls.
-/

namespace TssEsapi

namespace Context

variable {T : Type}

/-- `execute_with_sessions`. -/
def executeWithSessions (sessionHandles : SessionTriple) (f : ContextM T) : ContextM T := do
  let oldses := (← get).sessions
  setSessions sessionHandles
  let res ← f
  setSessions oldses
  return res

/-- `execute_with_session`. -/
def executeWithSession (sessionHandle : Option AuthSession) (f : ContextM T) : ContextM T :=
  executeWithSessions (sessionHandle, none, none) f

/-- `execute_without_session`. -/
def executeWithoutSession (f : ContextM T) : ContextM T :=
  executeWithSessions (none, none, none) f

/-- The run of a closure on `self` with the slots `inner`, ending with the slots of `self`. -/
def runScoped (f : ContextM T) (self : Context) (inner : SessionTriple) : Option (T × Context) :=
  (f.run { self with sessions := inner }).map fun (res, after) =>
    (res, { after with sessions := self.sessions })

theorem executeWithSessions_run (sessionHandles : SessionTriple) (f : ContextM T)
    (self : Context) :
    (executeWithSessions sessionHandles f).run self = runScoped f self sessionHandles := by
  simp only [executeWithSessions, setSessions, StateT.run_bind, StateT.run_get,
    StateT.run_modify, StateT.run_pure, pure_bind, runScoped]
  cases f.run { self with sessions := sessionHandles } <;> rfl

/-- Scoped session execution runs the closure once, on the context with the given slots,
returns its result, and ends in the state the closure left with the slots it found put back;
`execute_with_session` and `execute_without_session` are the cases `(session, None, None)` and
`(None, None, None)`. -/
theorem executeWithSessions_restores (sessionHandles : SessionTriple)
    (sessionHandle : Option AuthSession) (f : ContextM T) (self : Context) :
    (executeWithSessions sessionHandles f).run self = runScoped f self sessionHandles ∧
      (executeWithSession sessionHandle f).run self =
        runScoped f self (sessionHandle, none, none) ∧
      (executeWithoutSession f).run self = runScoped f self (none, none, none) :=
  ⟨executeWithSessions_run _ f self, executeWithSessions_run _ f self,
    executeWithSessions_run _ f self⟩

section Native

variable (tpm : Tpm)

/-- The attributes and mask `SessionAttributesBuilder::new().with_decrypt(true)
.with_encrypt(true).build()` returns: `TPMA_SESSION_DECRYPT` and `TPMA_SESSION_ENCRYPT`. -/
def nullauthSessionAttributes : UInt8 × UInt8 :=
  (0x60, 0x60)

/-- `execute_with_nullauth_session`; `ofError` is `E::from`. -/
def executeWithNullauthSession {E : Type} (ofError : Error → E) (f : ContextM (Except E T)) :
    ContextM (Except E T) := do
  match ← startAuthSession tpm .hmac .aes128Cfb .sha256 with
  | .error e => return .error (ofError e)
  | .ok none => return .error (ofError (.wrapperError .wrongValueFromTpm))
  | .ok (some authSession) =>
    let (sessionAttributes, sessionAttributesMask) := nullauthSessionAttributes
    match ← trSessSetAttributes tpm authSession sessionAttributes sessionAttributesMask with
    | .error e => return .error (ofError e)
    | .ok () =>
      let res ← executeWithSession (some authSession) f
      match ← flushContext tpm authSession.handle with
      | .error e => return .error (ofError e)
      | .ok () => return res

/-- `execute_with_temporary_object`. -/
def executeWithTemporaryObject (object : ObjectHandle)
    (f : ObjectHandle → ContextM (Except Error T)) : ContextM (Except Error T) := do
  let res ← f object
  match ← flushContext tpm object with
  | .error e => return .error e
  | .ok () => return res

/-- The result of a closure followed by a flush: the flush's error if it failed, the closure's
result otherwise. -/
def afterFlush {E : Type} (ofError : Error → E) (res : Except E T) :
    Except Error Unit → Except E T
  | .error e => .error (ofError e)
  | .ok () => res

/-- `execute_with_temporary_object` runs the closure once, then flushes the object once,
whatever the closure returned, and returns the flush's error if the flush failed and the
closure's result otherwise. -/
theorem executeWithTemporaryObject_run (object : ObjectHandle)
    (f : ObjectHandle → ContextM (Except Error T)) {self after : Context}
    {res : Except Error T} (ran : (f object).run self = some (res, after))
    (open_ : after.esysContext.isSome) :
    let flushed := tpm.flushContext (after.issue (.flushContext object)).esysCalls
    (executeWithTemporaryObject tpm object f).run self =
      some (afterFlush id res flushed,
        (after.issue (.flushContext object)).afterRelease object flushed) := by
  simp only [executeWithTemporaryObject, flushContext, StateT.run_bind, ran,
    release_run _ _ _ open_, Option.bind_eq_bind, Option.some_bind, issue_esysCalls]
  cases tpm.flushContext (after.esysCalls ++ [.flushContext object]) <;> rfl

theorem executeWithTemporaryObject_run_accepting :
    ((executeWithTemporaryObject Tpm.accepting ⟨0x80000001⟩ fun _ => pure (.ok 5)).run
        initial).map Prod.fst =
      some (afterFlush id (.ok 5) (.ok ())) := by
  rw [@executeWithTemporaryObject_run Nat Tpm.accepting ⟨0x80000001⟩ (fun _ => pure (.ok 5))
    initial _ _ rfl rfl]
  rfl

/-- Once the session is started and its attributes are set, `execute_with_nullauth_session`
runs the closure once with the session in the first slot, then flushes the session once,
whatever the closure returned, and returns the closure's result, or the flush's error when the
flush failed. -/
theorem executeWithNullauthSession_run {E : Type} (ofError : Error → E)
    (f : ContextM (Except E T)) {self opened ready after : Context} {authSession : AuthSession}
    {res : Except E T}
    (started : (startAuthSession tpm .hmac .aes128Cfb .sha256).run self =
      some (.ok (some authSession), opened))
    (attributed : (trSessSetAttributes tpm authSession 0x60 0x60).run opened =
      some (.ok (), ready))
    (ran : f.run { ready with sessions := (some authSession, none, none) } = some (res, after))
    (open_ : after.esysContext.isSome) :
    let restored := { after with sessions := ready.sessions }
    let flushed := tpm.flushContext (restored.issue (.flushContext authSession.handle)).esysCalls
    (executeWithNullauthSession tpm ofError f).run self =
      some (afterFlush ofError res flushed,
        (restored.issue (.flushContext authSession.handle)).afterRelease authSession.handle
          flushed) := by
  have restoredOpen : ({ after with sessions := ready.sessions } : Context).esysContext.isSome :=
    open_
  simp only [executeWithNullauthSession, nullauthSessionAttributes, executeWithSession,
    flushContext, StateT.run_bind, started, attributed, executeWithSessions_run, runScoped, ran,
    Option.map_some', release_run _ _ _ restoredOpen, Option.bind_eq_bind, Option.some_bind,
    issue_esysCalls]
  cases tpm.flushContext (after.esysCalls ++ [.flushContext authSession.handle]) <;> rfl

theorem executeWithNullauthSession_run_accepting :
    ((executeWithNullauthSession Tpm.accepting id (pure (.ok ()))).run initial).map Prod.fst =
      some (afterFlush id (.ok ()) (.ok ())) := by
  rw [@executeWithNullauthSession_run Unit Tpm.accepting Error id (pure (.ok ())) initial
    _ _ _ _ _ rfl rfl rfl rfl]
  rfl

/-- The TPM that refuses session attributes. -/
def attributesRefusingTpm : Tpm :=
  { Tpm.accepting with trSessSetAttributes := fun _ => .error (.tssError 0x098E) }

/-- When setting the attributes fails, the helper returns that error at once: the session it
started is never flushed and stays in the handle manager. -/
theorem executeWithNullauthSession_leaks_on_attributes :
    ((executeWithNullauthSession attributesRefusingTpm id (pure (.ok ()))).run initial).map
        (fun (res, after) => (res, after.esysCalls, after.handleManager.openHandles)) =
      some (.error (.tssError 0x098E),
        [.startAuthSession .hmac .aes128Cfb .sha256 (none, none, none),
          .trSessSetAttributes (.hmacSession ⟨0x02000000⟩) 0x60 0x60],
        [(⟨0x02000000⟩, .flush)]) :=
  rfl

/-- The TPM that refuses to flush. -/
def flushRefusingTpm : Tpm :=
  { Tpm.accepting with flushContext := fun _ => .error (.tssError 0x098B) }

/-- The closure returns `Ok(7)`, the closing flush fails, and the helper returns the flush's
error. -/
theorem executeWithNullauthSession_flush_error_wins :
    ((executeWithNullauthSession flushRefusingTpm id (pure (.ok 7 : Except Error Nat))).run
        initial).map Prod.fst = some (.error (.tssError 0x098B)) :=
  rfl

end Native

end Context

end TssEsapi
