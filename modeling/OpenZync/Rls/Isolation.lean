import OpenZync.Library.Execution
import OpenZync.Rls.Session

/-!
# Settings that follow the blocks

What a session may rely on: a relation between the blocks it is inside of, the
context it remembers and the settings in force.  An `Isolation` collects what
such a relation has to satisfy for every operation to keep it, with the
conditions under which the two delicate ones do: leaving a bypass block and
rolling a savepoint back.
-/

namespace OpenZync.Rls

open OpenZync.Library
open RlsAsyncSession

/-- A relation that the operations on a session keep. -/
structure Isolation where
  Holds : List Block → RlsContext → Settings → Prop
  /-- Whether the bypass may be remembered with this value. -/
  Allowed : Bool → Prop
  /-- When a bypass block inside these blocks may be left. -/
  Leaves : List Block → RlsContext → Prop
  /-- When a savepoint taken under the first context may be rolled back under
  the second. -/
  Restores : RlsContext → RlsContext → Prop
  allowed_false : Allowed false
  bound : ∀ {blocks context}, Allowed context.bypassRls →
    Holds blocks context context.asParams
  unbound : ∀ {blocks context}, context.isEmpty = true → Holds blocks context .unset
  nested : ∀ {blocks context settings remembered},
    Holds (.savepoint remembered :: blocks) context settings ↔ Holds blocks context settings
  entered : ∀ {blocks context settings}, Holds blocks context settings →
    Holds (.bypass :: blocks) context (settings.setBypass "true".toList)
  left : ∀ {blocks context settings}, Leaves blocks context →
    Holds (.bypass :: blocks) context settings →
    Holds blocks context (settings.setBypass "false".toList)
  restored : ∀ {blocks remembered context settings}, Restores remembered context →
    Holds blocks remembered settings → Holds blocks context settings

namespace Isolation

variable (isolation : Isolation)

/-- The relation held at every open savepoint when it was taken.  The
savepoints of the transaction are those of the innermost savepoint blocks. -/
def HeldAt : List Settings → List Block → Prop
  | [], _ => True
  | _ :: _, [] => False
  | saved :: outer, .bypass :: blocks => HeldAt (saved :: outer) blocks
  | saved :: outer, .savepoint remembered :: blocks =>
      isolation.Holds blocks remembered saved ∧ HeldAt outer blocks

structure Invariant (session : RlsAsyncSession) : Prop where
  allowed : isolation.Allowed session.rlsContext.bypassRls
  visible : session.current.aborted = false →
    isolation.Holds session.blocks session.rlsContext session.current.settings
  savepoints : isolation.HeldAt session.current.savepoints session.blocks

/-- The conditions on an operation, in the state it is performed in. -/
def Guard (session : RlsAsyncSession) : RlsOperation → Prop
  | .setBypassRls enabled _ => isolation.Allowed enabled
  | .leaveBypass _ _ _ =>
      match session.blocks with
      | .bypass :: outer => isolation.Leaves outer session.rlsContext
      | _ => True
  | .releaseNested fails =>
      match session.current.savepoints, session.blocks with
      | _ :: _, .savepoint remembered :: _ =>
          session.current.aborted = true ∨ fails = true →
            isolation.Restores remembered session.rlsContext
      | _, _ => True
  | .rollbackNested =>
      match session.current.savepoints, session.blocks with
      | _ :: _, .savepoint remembered :: _ =>
          isolation.Restores remembered session.rlsContext
      | _, _ => True
  | _ => True

variable {isolation}

theorem heldAt_nil (blocks : List Block) : isolation.HeldAt [] blocks := by
  rw [HeldAt]
  exact trivial

theorem heldAt_bypass {saved : List Settings} {blocks : List Block} :
    isolation.HeldAt saved (.bypass :: blocks) ↔ isolation.HeldAt saved blocks := by
  cases saved with
  | nil => exact ⟨fun _ => heldAt_nil _, fun _ => heldAt_nil _⟩
  | cons saved outer => rw [HeldAt]

theorem Invariant.aborted {session : RlsAsyncSession} (invariant : isolation.Invariant session) :
    isolation.Invariant
      { session with transaction := some session.current.abort } :=
  { allowed := invariant.allowed
    visible := fun running => absurd running (by simp [current, LocalTransaction.abort])
    savepoints := invariant.savepoints }

end Isolation

namespace RlsAsyncSession

variable {session : RlsAsyncSession}

/-- `execute` either aborts the transaction or changes the settings. -/
theorem execute_cases (change : Settings → Settings) (fails : Bool)
    (session : RlsAsyncSession) :
    execute change fails session = .error .rejected
        { session with transaction := some session.current.abort } ∨
      session.current.aborted = false ∧ execute change fails session = .ok ()
        { session with
          transaction := some { session.current with
            settings := change session.current.settings } } := by
  rcases session.current.execute_cases change fails with rejected | ⟨running, executed⟩
  · exact .inl (by rw [execute, rejected])
  · exact .inr ⟨running, by rw [execute, executed]⟩

theorem after_ok {program : SessionM Unit} {result : RlsAsyncSession}
    (returned : program session = .ok () result) : session.after program = result := by
  rw [after, EStateM.run, returned]

theorem after_error {program : SessionM Unit} {error : SQLAlchemyError}
    {result : RlsAsyncSession} (raised : program session = .error error result) :
    session.after program = result := by
  rw [after, EStateM.run, raised]

theorem after_tryCatch_error {program : SessionM Unit} {handler : SQLAlchemyError → SessionM Unit}
    {error : SQLAlchemyError} {result : RlsAsyncSession}
    (raised : program session = .error error result) :
    session.after (tryCatch program handler) = result.after (handler error) := by
  simp only [after, EStateM.run, tryCatch, tryCatchThe, MonadExceptOf.tryCatch,
    EStateM.tryCatch, raised]
  rfl

theorem after_tryCatch_ok {program : SessionM Unit} {handler : SQLAlchemyError → SessionM Unit}
    {result : RlsAsyncSession} (returned : program session = .ok () result) :
    session.after (tryCatch program handler) = result := by
  simp only [after, EStateM.run, tryCatch, tryCatchThe, MonadExceptOf.tryCatch,
    EStateM.tryCatch, returned]

theorem after_swallowed (program next : SessionM Unit) :
    session.after (tryCatch program (fun _ => pure ()) >>= fun _ => next) =
      (session.after program).after next := by
  simp only [after, EStateM.run, bind, EStateM.bind, tryCatch, tryCatchThe,
    MonadExceptOf.tryCatch, EStateM.tryCatch]
  cases program session with
  | ok value result => rfl
  | error error result => rfl

theorem after_ignored (program : SessionM Unit) :
    session.after (tryCatch program fun _ => pure ()) = session.after program := by
  cases outcome : program session with
  | ok value result => rw [after_tryCatch_ok outcome, after_ok outcome]
  | error error result =>
      rw [after_tryCatch_error outcome, after_error outcome]
      rfl

theorem rebind_run (fails : Bool) (session : RlsAsyncSession) :
    rebindRlsContext fails session =
      if session.rlsContext.isEmpty then .ok () session
      else execute (fun _ => session.rlsContext.asParams) fails session := by
  have current : (get : SessionM RlsAsyncSession) session = .ok session session := rfl
  simp only [rebindRlsContext, bind, EStateM.bind, current]
  split
  · rfl
  · rfl

theorem applyContext_run (context : RlsContext) (fails : Bool) (session : RlsAsyncSession) :
    applyContext context fails session =
      match execute (fun _ => context.asParams) fails session with
      | .ok _ result => .ok () { result with rlsContext := context }
      | .error error result => .error error result := by
  simp only [applyContext, bind, EStateM.bind]
  cases execute (fun _ => context.asParams) fails session with
  | ok value result => rfl
  | error error result => rfl

theorem after_commit (rebindFails : Bool) (session : RlsAsyncSession) :
    session.after (commit rebindFails) =
      { session with transaction := none }.after (rebindRlsContext rebindFails) := rfl

theorem after_rollback (rebindFails : Bool) (session : RlsAsyncSession) :
    session.after (rollback rebindFails) =
      if session.transaction.isSome then
        { session with transaction := none }.after (rebindRlsContext rebindFails)
      else { session with transaction := none } := by
  cases session with
  | mk context transaction blocks =>
      cases transaction with
      | none => rfl
      | some transaction => rfl

theorem current_endNested {finish : LocalTransaction Settings → LocalTransaction Settings}
    {outer : List Block} (unset : finish (.start .unset) = .start .unset) :
    (session.endNested finish outer).current = finish session.current := by
  cases session with
  | mk context transaction blocks =>
      cases transaction with
      | none => exact unset.symm
      | some transaction => rfl

/-- A re-bind touches neither the remembered context nor the blocks. -/
theorem after_rebind_frame (fails : Bool) (session : RlsAsyncSession) :
    (session.after (rebindRlsContext fails)).rlsContext = session.rlsContext ∧
      (session.after (rebindRlsContext fails)).blocks = session.blocks := by
  have run := rebind_run fails session
  split at run
  · rw [after_ok run]
    exact ⟨rfl, rfl⟩
  · rcases execute_cases (fun _ => session.rlsContext.asParams) fails session with
      raised | ⟨_, returned⟩
    · rw [after_error (run.trans raised)]
      exact ⟨rfl, rfl⟩
    · rw [after_ok (run.trans returned)]
      exact ⟨rfl, rfl⟩

theorem after_rollback_frame (rebindFails : Bool) (session : RlsAsyncSession) :
    (session.after (rollback rebindFails)).rlsContext = session.rlsContext ∧
      (session.after (rollback rebindFails)).blocks = session.blocks := by
  rw [after_rollback]
  split
  · exact after_rebind_frame rebindFails { session with transaction := none }
  · exact ⟨rfl, rfl⟩

end RlsAsyncSession

namespace Isolation

variable {isolation : Isolation} {session : RlsAsyncSession}

/-- A statement keeps the relation if the settings it leaves satisfy it. -/
theorem Invariant.execute (invariant : isolation.Invariant session)
    {change : Settings → Settings} (fails : Bool)
    (holds : session.current.aborted = false →
      isolation.Holds session.blocks session.rlsContext (change session.current.settings)) :
    isolation.Invariant (session.after (RlsAsyncSession.execute change fails)) := by
  rcases execute_cases change fails session with raised | ⟨running, returned⟩
  · rw [after_error raised]
    exact invariant.aborted
  · rw [after_ok returned]
    exact
      { allowed := invariant.allowed
        visible := fun _ => holds running
        savepoints := invariant.savepoints }

theorem Invariant.applyContext (invariant : isolation.Invariant session)
    (context : RlsContext) (allowed : isolation.Allowed context.bypassRls) (fails : Bool) :
    isolation.Invariant (session.after (Rls.applyContext context fails)) := by
  rcases execute_cases (fun _ => context.asParams) fails session with
    raised | ⟨running, returned⟩
  · have run := applyContext_run context fails session
    rw [raised] at run
    rw [after_error run]
    exact invariant.aborted
  · have run := applyContext_run context fails session
    rw [returned] at run
    rw [after_ok run]
    exact
      { allowed := allowed
        visible := fun _ => isolation.bound allowed
        savepoints := invariant.savepoints }

theorem invariant_of_empty (ended : session.transaction = none)
    (empty : session.rlsContext.isEmpty = true)
    (allowed : isolation.Allowed session.rlsContext.bypassRls) :
    isolation.Invariant session := by
  have fresh : session.current = .start .unset := by
    rw [current, ended]
    rfl
  refine ⟨allowed, fun _ => ?_, ?_⟩
  · rw [fresh]
    exact isolation.unbound empty
  · rw [fresh]
    exact heldAt_nil _

/-- The re-bind that follows the end of a transaction restores the relation. -/
theorem invariant_after_rebind (fails : Bool) (ended : session.transaction = none)
    (allowed : isolation.Allowed session.rlsContext.bypassRls) :
    isolation.Invariant (session.after (rebindRlsContext fails)) := by
  have run := rebind_run fails session
  by_cases empty : session.rlsContext.isEmpty = true
  · rw [if_pos empty] at run
    rw [after_ok run]
    exact invariant_of_empty ended empty allowed
  · rw [if_neg empty] at run
    have fresh : session.current = .start .unset := by
      rw [current, ended]
      rfl
    rcases execute_cases (fun _ => session.rlsContext.asParams) fails session with
      raised | ⟨_, returned⟩
    · rw [after_error (run.trans raised), fresh]
      refine ⟨allowed, fun running => ?_, heldAt_nil _⟩
      cases running
    · rw [after_ok (run.trans returned), fresh]
      exact ⟨allowed, fun _ => isolation.bound allowed, heldAt_nil _⟩

theorem invariant_after_commit (rebindFails : Bool)
    (allowed : isolation.Allowed session.rlsContext.bypassRls) :
    isolation.Invariant (session.after (commit rebindFails)) := by
  rw [after_commit]
  exact invariant_after_rebind rebindFails rfl allowed

theorem invariant_after_rollback (rebindFails : Bool)
    (progress : session.transaction.isSome = true)
    (allowed : isolation.Allowed session.rlsContext.bypassRls) :
    isolation.Invariant (session.after (rollback rebindFails)) := by
  rw [after_rollback, if_pos progress]
  exact invariant_after_rebind rebindFails rfl allowed

theorem Invariant.rollback (invariant : isolation.Invariant session) (rebindFails : Bool) :
    isolation.Invariant (session.after (RlsAsyncSession.rollback rebindFails)) := by
  by_cases progress : session.transaction.isSome = true
  · exact invariant_after_rollback rebindFails progress invariant.allowed
  · have unchanged : { session with transaction := none } = session := by
      cases session with
      | mk context transaction blocks =>
          cases transaction with
          | none => rfl
          | some transaction => exact absurd rfl progress
    rw [after_rollback, if_neg progress, unchanged]
    exact invariant

theorem invariant_after_release (rebindFails : Bool) :
    isolation.Invariant (session.after (releaseTenantContext rebindFails)) := by
  have dropped : session.after (releaseTenantContext rebindFails) =
      { session with rlsContext := {} }.after (rollback rebindFails) := by
    rw [releaseTenantContext, after_ignored]
    rfl
  rw [dropped]
  by_cases progress : session.transaction.isSome = true
  · exact invariant_after_rollback rebindFails progress isolation.allowed_false
  · rw [after_rollback, if_neg progress]
    exact invariant_of_empty rfl rfl isolation.allowed_false

theorem Invariant.enterBypass (invariant : isolation.Invariant session) (fails : Bool) :
    isolation.Invariant (session.entering .bypass (Rls.enterBypass fails)) := by
  rcases execute_cases (Settings.setBypass "true".toList) fails session with
    raised | ⟨running, returned⟩
  · rw [entering, EStateM.run, Rls.enterBypass, raised]
    exact invariant.aborted
  · rw [entering, EStateM.run, Rls.enterBypass, returned]
    exact
      { allowed := invariant.allowed
        visible := fun _ => isolation.entered (invariant.visible running)
        savepoints := heldAt_bypass.mpr invariant.savepoints }

theorem Invariant.resetBypass (invariant : isolation.Invariant session) {outer : List Block}
    (inside : session.blocks = .bypass :: outer)
    (leaves : isolation.Leaves outer session.rlsContext) (fails : Bool) :
    isolation.Invariant
      { session.after (RlsAsyncSession.execute (Settings.setBypass "false".toList) fails) with
        blocks := outer } := by
  have held : isolation.HeldAt session.current.savepoints outer := by
    apply heldAt_bypass.mp
    rw [← inside]
    exact invariant.savepoints
  rcases execute_cases (Settings.setBypass "false".toList) fails session with
    raised | ⟨running, returned⟩
  · rw [after_error raised]
    refine ⟨invariant.allowed, fun running => ?_, held⟩
    cases running
  · rw [after_ok returned]
    refine ⟨invariant.allowed, fun _ => ?_, held⟩
    have holds := invariant.visible running
    rw [inside] at holds
    exact isolation.left leaves holds

theorem Invariant.leaveBypass (invariant : isolation.Invariant session) {outer : List Block}
    (inside : session.blocks = .bypass :: outer)
    (leaves : isolation.Leaves outer session.rlsContext)
    (resetFails rebindFails reassertFails : Bool) :
    isolation.Invariant
      { session.after (Rls.leaveBypass resetFails rebindFails reassertFails) with
        blocks := outer } := by
  have reset := invariant.resetBypass inside leaves resetFails
  cases outcome : RlsAsyncSession.execute (Settings.setBypass "false".toList) resetFails
      session with
  | ok value result =>
      rw [after_ok outcome] at reset
      rw [Rls.leaveBypass, after_tryCatch_ok outcome]
      exact reset
  | error error failed =>
      have left : failed = { session with transaction := some session.current.abort } := by
        rcases execute_cases (Settings.setBypass "false".toList) resetFails session with
          raised | ⟨_, returned⟩
        · rw [raised] at outcome
          cases outcome
          rfl
        · rw [returned] at outcome
          cases outcome
      subst left
      rw [Rls.leaveBypass, after_tryCatch_error outcome, after_swallowed, after_ignored]
      have frame := after_rollback_frame rebindFails
        { session with transaction := some session.current.abort }
      apply Invariant.resetBypass
      · exact invariant_after_rollback rebindFails rfl invariant.allowed
      · rw [frame.2]
        exact inside
      · rw [frame.1]
        exact leaves

theorem Invariant.beginNested (invariant : isolation.Invariant session) (fails : Bool) :
    isolation.Invariant
      (session.entering (.savepoint session.rlsContext) (Rls.beginNested fails)) := by
  rw [entering, EStateM.run, Rls.beginNested, LocalTransaction.savepoint]
  by_cases rejected : (session.current.aborted || fails) = true
  · rw [if_pos rejected]
    exact invariant.aborted
  · rw [if_neg rejected]
    have running : session.current.aborted = false := by
      simp only [Bool.or_eq_true, not_or, Bool.not_eq_true] at rejected
      exact rejected.1
    have holds := invariant.visible running
    exact
      { allowed := invariant.allowed
        visible := fun _ => isolation.nested.mpr holds
        savepoints := ⟨holds, invariant.savepoints⟩ }

/-- Rolling a savepoint back brings the settings back that were in force when
it was taken, and the context must still fit them. -/
theorem Invariant.rollbackNested (invariant : isolation.Invariant session)
    {remembered : RlsContext} {outer : List Block}
    (inside : session.blocks = .savepoint remembered :: outer)
    (restores : session.current.savepoints ≠ [] →
      isolation.Restores remembered session.rlsContext) :
    isolation.Invariant (session.endNested LocalTransaction.rollbackTo outer) := by
  have rolled : (session.endNested LocalTransaction.rollbackTo outer).current =
      session.current.rollbackTo := current_endNested rfl
  have held := invariant.savepoints
  have holds := invariant.visible
  rw [inside] at held holds
  cases saved : session.current.savepoints with
  | nil =>
      have same : session.current.rollbackTo = session.current := by
        rw [LocalTransaction.rollbackTo, saved]
      refine ⟨invariant.allowed, fun running => ?_, ?_⟩
      · rw [rolled, same] at running ⊢
        exact isolation.nested.mp (holds running)
      · rw [rolled, same, saved]
        exact heldAt_nil _
  | cons settings rest =>
      rw [saved] at held
      have back : session.current.rollbackTo =
          { settings := settings
            aborted := false
            savepoints := rest } := by
        rw [LocalTransaction.rollbackTo, saved]
      refine ⟨invariant.allowed, fun _ => ?_, ?_⟩
      · rw [rolled, back]
        exact isolation.restored (restores (by simp [saved])) held.1
      · rw [rolled, back]
        exact held.2

theorem Invariant.releaseNested (invariant : isolation.Invariant session)
    {remembered : RlsContext} {outer : List Block}
    (inside : session.blocks = .savepoint remembered :: outer) (fails : Bool)
    (restores : session.current.savepoints ≠ [] →
      session.current.aborted = true ∨ fails = true →
      isolation.Restores remembered session.rlsContext) :
    isolation.Invariant (session.endNested (LocalTransaction.release fails) outer) := by
  have unset : (LocalTransaction.start Settings.unset).release fails = .start .unset := by
    cases fails <;> rfl
  have released : (session.endNested (LocalTransaction.release fails) outer).current =
      session.current.release fails := current_endNested unset
  by_cases rejected : (session.current.aborted || fails) = true
  · have rolled := invariant.rollbackNested inside fun taken =>
      restores taken (by simpa using rejected)
    have same : session.current.release fails = session.current.rollbackTo := by
      rw [LocalTransaction.release, if_pos rejected]
    have current : (session.endNested LocalTransaction.rollbackTo outer).current =
        session.current.rollbackTo := current_endNested rfl
    refine ⟨rolled.allowed, ?_, ?_⟩
    · rw [released, same, ← current]
      exact rolled.visible
    · rw [released, same, ← current]
      exact rolled.savepoints
  · have kept : session.current.release fails =
        { session.current with savepoints := session.current.savepoints.tail } := by
      rw [LocalTransaction.release, if_neg rejected]
    have held := invariant.savepoints
    have holds := invariant.visible
    rw [inside] at held holds
    refine ⟨invariant.allowed, fun running => ?_, ?_⟩
    · rw [released, kept] at running ⊢
      exact isolation.nested.mp (holds running)
    · rw [released, kept]
      cases saved : session.current.savepoints with
      | nil => exact heldAt_nil _
      | cons settings rest =>
          rw [saved] at held
          exact held.2

theorem Invariant.perform (invariant : isolation.Invariant session) {operation : RlsOperation}
    (guard : isolation.Guard session operation) :
    isolation.Invariant (session.perform operation) := by
  cases operation with
  | initContext orgId fails =>
      exact invariant.applyContext { orgId := Text.strip (orgId.getD []) }
        isolation.allowed_false fails
  | setTenantContext orgId fails =>
      exact invariant.applyContext { session.rlsContext with orgId := orgId }
        invariant.allowed fails
  | setBypassRls enabled fails =>
      exact invariant.applyContext { session.rlsContext with bypassRls := enabled } guard fails
  | setLookupCode code fails =>
      exact invariant.applyContext { session.rlsContext with lookupCode := code }
        invariant.allowed fails
  | releaseTenantContext rebindFails => exact invariant_after_release rebindFails
  | statement fails => exact invariant.execute fails invariant.visible
  | commit rebindFails => exact invariant_after_commit rebindFails invariant.allowed
  | rollback rebindFails => exact invariant.rollback rebindFails
  | enterBypass fails => exact invariant.enterBypass fails
  | beginNested fails => exact invariant.beginNested fails
  | leaveBypass resetFails rebindFails reassertFails =>
      rw [RlsAsyncSession.perform]
      split
      · rename_i outer inside
        rw [Guard, inside] at guard
        exact invariant.leaveBypass inside guard resetFails rebindFails reassertFails
      · exact invariant
  | releaseNested fails =>
      rw [RlsAsyncSession.perform]
      split
      · rename_i remembered outer inside
        apply invariant.releaseNested inside
        intro taken
        cases saved : session.current.savepoints with
        | nil => exact absurd saved taken
        | cons settings rest =>
            rw [Guard, inside, saved] at guard
            exact guard
      · exact invariant
  | rollbackNested =>
      rw [RlsAsyncSession.perform]
      split
      · rename_i remembered outer inside
        apply invariant.rollbackNested inside
        intro taken
        cases saved : session.current.savepoints with
        | nil => exact absurd saved taken
        | cons settings rest =>
            rw [Guard, inside, saved] at guard
            exact guard
      · exact invariant

theorem invariant_opened : isolation.Invariant RlsAsyncSession.opened :=
  invariant_of_empty rfl rfl isolation.allowed_false

theorem holds_of_run {operations : List RlsOperation}
    (run : GuardedRun RlsAsyncSession.perform isolation.Guard .opened operations session)
    {settings : Settings} (visible : session.visible = some settings) :
    isolation.Holds session.blocks session.rlsContext settings := by
  have invariant : isolation.Invariant session :=
    run.invariant isolation.Invariant invariant_opened fun kept guard => kept.perform guard
  rw [RlsAsyncSession.visible] at visible
  split at visible
  · cases visible
  · rename_i running
    cases visible
    exact invariant.visible (by simpa using running)

end Isolation

end OpenZync.Rls
