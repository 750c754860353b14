import TssEsapi.Context.Lifecycle

/-!
# Session slots over a run

Only `set_sessions` and `clear_sessions` write the session slots.  `execute_with_sessions`
puts back the slots it found on every path, whatever its closure did, and so do the methods
built on it: `execute_with_session`, `execute_without_session`, `get_tpm_property` and
`execute_with_nullauth_session`, including the early returns of the last.
`execute_with_temporary_object` does not scope the slots: its closure runs on the caller's
slots and what it sets stays set.

`Op.sessionsAfter` reads the slots a run leaves off the calls alone, with no TPM, and every run
of the methods agrees with it, whatever the TPM answers.
-/

namespace TssEsapi

namespace Context

/-- The context's session slots are `slots`. -/
def SlotsAre (slots : SessionTriple) (self : Context) : Prop :=
  self.sessions = slots

mutual

/-- The slots a call leaves, from the slots `slots`: a closure's calls count only inside
`execute_with_temporary_object`. -/
def Op.sessionsAfter : Op → SessionTriple → SessionTriple
  | .setSessions sessionHandles, _ => sessionHandles
  | .clearSessions, _ => (none, none, none)
  | .executeWithTemporaryObject _ body, slots => Op.sessionsAfterList body slots
  | _, slots => slots

/-- The slots the calls leave, in order, from the slots `slots`. -/
def Op.sessionsAfterList : List Op → SessionTriple → SessionTriple
  | [], slots => slots
  | op :: ops, slots => Op.sessionsAfterList ops (op.sessionsAfter slots)

end

variable {T : Type} {slots : SessionTriple}

/-- No native call and no write of the handle manager touches the slots. -/
theorem slotsAre_callInvariant (slots : SessionTriple) : CallInvariant (SlotsAre slots) :=
  ⟨fun _ _ kept => kept, fun _ _ kept => kept⟩

theorem setSessions_slots (sessionHandles : SessionTriple) :
    Hoare (SlotsAre slots) (SlotsAre sessionHandles) (setSessions sessionHandles) :=
  Hoare.of_modify fun _ _ => rfl

theorem clearSessions_slots : Hoare (SlotsAre slots) (SlotsAre (none, none, none)) clearSessions :=
  Hoare.of_modify fun _ _ => rfl

/-- The scope puts the slots back whatever the closure does. -/
theorem executeWithSessions_slots (sessionHandles : SessionTriple) (f : ContextM T) :
    Hoare (SlotsAre slots) (SlotsAre slots) (executeWithSessions sessionHandles f) := by
  intro self res after kept ran
  simp only [executeWithSessions_run, runScoped, Option.map_eq_some', Prod.mk.injEq,
    Prod.exists] at ran
  obtain ⟨_, _, _, _, rfl⟩ := ran
  exact kept

section Native

variable (tpm : Tpm)

mutual

/-- Every call leaves the slots `Op.sessionsAfter` reads off it. -/
theorem Op.run_slots : ∀ (op : Op) (slots : SessionTriple),
    Hoare (SlotsAre slots) (SlotsAre (op.sessionsAfter slots)) (op.run tpm)
  | .setSessions sessionHandles, _ =>
    (setSessions_slots sessionHandles).bind fun _ => Hoare.of_pure _
  | .clearSessions, _ => clearSessions_slots.bind fun _ => Hoare.of_pure _
  | .getTpmProperty _, _ =>
    (getTpmProperty_hoare tpm _ (executeWithSessions_slots _ _) fun _ _ kept => kept).map _
  | .getCapability _ _ _, slots =>
    ((slotsAre_callInvariant slots).hoare_getCapability tpm _ _ _).map _
  | .startAuthSession _ _ _, slots =>
    ((slotsAre_callInvariant slots).hoare_startAuthSession tpm _ _ _).map _
  | .trSessSetAttributes _ _ _, slots =>
    (slotsAre_callInvariant slots).hoare_trSessSetAttributes tpm _ _ _
  | .flushContext _, slots => (slotsAre_callInvariant slots).hoare_release _ _ _
  | .trClose _, slots => (slotsAre_callInvariant slots).hoare_release _ _ _
  | .trFromTpmPublic _, slots => ((slotsAre_callInvariant slots).hoare_trFromTpmPublic tpm _).map _
  | .executeWithSessions _ _, _ => executeWithSessions_slots _ _
  | .executeWithNullauthSession _, slots =>
    (slotsAre_callInvariant slots).hoare_executeWithNullauthSession tpm id fun _ =>
      executeWithSessions_slots _ _
  | .executeWithTemporaryObject object body, slots =>
    @executeWithTemporaryObject_hoare _ tpm (SlotsAre slots) Unit object
      (fun _ => Op.runList tpm body (.ok ()))
      (fun _ => (slotsAre_callInvariant _).hoare_release _ _ _) (Op.runList_slots body _ slots)

/-- Every run of calls leaves the slots `Op.sessionsAfterList` reads off it. -/
theorem Op.runList_slots :
    ∀ (ops : List Op) (outcome : Except Error Unit) (slots : SessionTriple),
    Hoare (SlotsAre slots) (SlotsAre (Op.sessionsAfterList ops slots)) (Op.runList tpm ops outcome)
  | [], _, _ => Hoare.of_pure _
  | op :: ops, _, slots =>
    (Op.run_slots op slots).bind fun outcome => Op.runList_slots ops outcome _

end

/-- From a context that owns its native context, every run of method calls returns, and leaves
the session slots that its `set_sessions` and `clear_sessions` calls set outside any session
scope, those inside the closures of `execute_with_temporary_object` included, whatever the TPM
answers. -/
theorem slots_after_any_run {self : Context} (open_ : self.esysContext.isSome) (ops : List Op) :
    ∃ outcome after, (Op.runList tpm ops (.ok ())).run self = some (outcome, after) ∧
      after.sessions = Op.sessionsAfterList ops self.sessions := by
  obtain ⟨outcome, after, ran, -⟩ := Op.runList_inFrame tpm ops (.ok ()) self open_
  exact ⟨outcome, after, ran, Op.runList_slots tpm ops (.ok ()) _ self outcome after rfl ran⟩

end Native

/-- A scope that clears the slots, a fresh session whose closure clears them, then a temporary
object whose closure sets the password session. -/
def scopesThenTemporary : List Op :=
  [.executeWithSessions (some .password, none, none) [.clearSessions],
    .executeWithNullauthSession [.clearSessions],
    .executeWithTemporaryObject ⟨0x80000001⟩ [.setSessions (some .password, none, none)]]

theorem slots_after_any_run_scopesThenTemporary :
    initial.esysContext.isSome ∧
      ∃ outcome after,
        (Op.runList Tpm.accepting scopesThenTemporary (.ok ())).run initial =
          some (outcome, after) ∧
        after.sessions = Op.sessionsAfterList scopesThenTemporary initial.sessions :=
  ⟨rfl, @slots_after_any_run Tpm.accepting initial rfl scopesThenTemporary⟩

example : Op.sessionsAfterList scopesThenTemporary (none, none, none) =
    (some .password, none, none) :=
  rfl

end Context

end TssEsapi
