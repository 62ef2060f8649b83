import OpenZync.Rls.Isolation

/-!
# The remembered context and the effective one

The session keeps a copy of the settings it bound.  Two operations change the
settings and leave the copy alone: the end of a bypass block, which switches
the bypass off even where the context has it on, and the rollback of a
savepoint, which undoes every binding made inside it.  Without them the copy is
what every statement outside the bypass blocks sees.

On a session that never remembers the bypass, a statement outside every
`rls_bypass` block runs with the policies enabled.
-/

namespace OpenZync.Rls

open OpenZync.Library
open RlsAsyncSession

/-- The settings are those of the context, unset counting as empty or false. -/
structure Agrees (context : RlsContext) (settings : Settings) : Prop where
  orgId : settings.orgId = context.orgId
  bypassRls : settings.bypassRls = "true".toList ↔ context.bypassRls = true
  lookupCode : settings.lookupCode = context.lookupCode

/-- Every statement executed now outside all bypass blocks sees the remembered
context. -/
def Effective (session : RlsAsyncSession) : Prop :=
  insideBypass session.blocks = false →
    ∀ settings, session.visible = some settings → Agrees session.rlsContext settings

/-- The bypass of the context may be hidden only inside a bypass block. -/
def contextIsolation : Isolation :=
  { Holds := fun blocks context settings =>
      settings.orgId = context.orgId ∧ settings.lookupCode = context.lookupCode ∧
        (insideBypass blocks = false →
          (settings.bypassRls = "true".toList ↔ context.bypassRls = true))
    Allowed := fun _ => True
    Leaves := fun outer context => insideBypass outer = false → context.bypassRls = false
    Restores := fun remembered context => remembered = context
    allowed_false := trivial
    bound := by
      intro blocks context _
      refine ⟨rfl, rfl, fun _ => ?_⟩
      cases enabled : context.bypassRls <;> simp [RlsContext.asParams, enabled]
    unbound := by
      intro blocks context empty
      simp only [RlsContext.isEmpty, Bool.and_eq_true, List.isEmpty_iff, Bool.not_eq_true'] at empty
      obtain ⟨⟨noOrg, disabled⟩, noCode⟩ := empty
      simp [Settings.unset, noOrg, disabled, noCode]
    nested := by
      intro blocks context settings remembered
      simp [insideBypass]
    entered := by
      rintro blocks context settings ⟨org, code, _⟩
      refine ⟨org, code, fun outside => ?_⟩
      simp [insideBypass] at outside
    left := by
      rintro blocks context settings leaves ⟨org, code, _⟩
      refine ⟨org, code, fun outside => ?_⟩
      simp [Settings.setBypass, leaves outside]
    restored := by
      rintro blocks remembered context settings rfl holds
      exact holds }

/-- The conditions on the two operations that change the settings and leave
the copy alone: the outermost bypass block is left with the bypass not
remembered, and a savepoint that is still open is undone under the context it
was taken with. -/
def KeepsContext (session : RlsAsyncSession) : RlsOperation → Prop
  | .leaveBypass _ _ _ =>
      insideBypass session.blocks.tail = false → session.rlsContext.bypassRls = false
  | .releaseNested fails =>
      session.current.savepoints ≠ [] →
        session.current.aborted = true ∨ fails = true →
          session.blocks.head? = some (.savepoint session.rlsContext)
  | .rollbackNested =>
      session.current.savepoints ≠ [] →
        session.blocks.head? = some (.savepoint session.rlsContext)
  | _ => True

instance (session : RlsAsyncSession) :
    ∀ operation, Decidable (KeepsContext session operation)
  | .leaveBypass _ _ _ => inferInstanceAs (Decidable (_ → _))
  | .releaseNested _ => inferInstanceAs (Decidable (_ → _ → _))
  | .rollbackNested => inferInstanceAs (Decidable (_ → _))
  | .initContext _ _ => .isTrue trivial
  | .setTenantContext _ _ => .isTrue trivial
  | .setBypassRls _ _ => .isTrue trivial
  | .setLookupCode _ _ => .isTrue trivial
  | .releaseTenantContext _ => .isTrue trivial
  | .statement _ => .isTrue trivial
  | .commit _ => .isTrue trivial
  | .rollback _ => .isTrue trivial
  | .enterBypass _ => .isTrue trivial
  | .beginNested _ => .isTrue trivial

theorem contextIsolation_guard {session : RlsAsyncSession} {operation : RlsOperation}
    (keeps : KeepsContext session operation) : contextIsolation.Guard session operation := by
  cases operation with
  | leaveBypass resetFails rebindFails reassertFails =>
      rw [Isolation.Guard]
      split
      · rename_i outer inside
        rw [KeepsContext, inside] at keeps
        exact keeps
      · exact trivial
  | releaseNested fails =>
      rw [Isolation.Guard]
      split
      · rename_i settings rest remembered outer saved inside
        intro undone
        rw [KeepsContext, saved, inside] at keeps
        have same : remembered = session.rlsContext := by
          simpa using keeps (by simp) undone
        exact same
      · exact trivial
  | rollbackNested =>
      rw [Isolation.Guard]
      split
      · rename_i settings rest remembered outer saved inside
        rw [KeepsContext, saved, inside] at keeps
        have same : remembered = session.rlsContext := by
          simpa using keeps (by simp)
        exact same
      · exact trivial
  | _ => exact trivial

/-- In every run whose steps meet the conditions, every statement outside the
bypass blocks sees the remembered context. -/
theorem remembered_context_effective {operations : List RlsOperation}
    {session : RlsAsyncSession}
    (run : GuardedRun perform KeepsContext .opened operations session) :
    Effective session := by
  intro outside settings visible
  obtain ⟨org, code, bypass⟩ :=
    Isolation.holds_of_run (run.mono contextIsolation_guard) visible
  exact ⟨org, bypass outside, code⟩

/-- A superadmin session that commits midway, with a savepoint rolled back
before anything is bound in it. -/
def superadminRequest : List RlsOperation :=
  [.setTenantContext "platform".toList false, .setBypassRls true false, .beginNested false,
    .statement true, .rollbackNested, .commit false, .statement false]

theorem superadmin_request_effective :
    Effective (superadminRequest.foldl perform .opened) :=
  remembered_context_effective (.of_allowedAlong (by decide))

/-- A lookup under `rls_bypass` takes the bypass from a superadmin session, and
a savepoint that is rolled back takes the tenant bound inside it. -/
theorem remembered_context_not_effective :
    ¬ Effective ([.setTenantContext "platform".toList false, .setBypassRls true false,
        .enterBypass false, .statement false, .leaveBypass false false false].foldl
          perform .opened) ∧
      ¬ Effective ([.initContext (some "acme".toList) false, .beginNested false,
        .setTenantContext "globex".toList false, .rollbackNested].foldl perform .opened) := by
  constructor
  · intro effective
    have agrees := effective (by decide)
      { orgId := "platform".toList, bypassRls := "false".toList, lookupCode := [] } (by decide)
    exact absurd (agrees.bypassRls.mpr (by decide)) (by decide)
  · intro effective
    have agrees := effective (by decide)
      { orgId := "acme".toList, bypassRls := "false".toList, lookupCode := [] } (by decide)
    exact absurd agrees.orgId (by decide)

/-- Outside every bypass block the bypass is off, whatever else is bound. -/
def bypassIsolation : Isolation :=
  { Holds := fun blocks _ settings =>
      insideBypass blocks = false → settings.bypassRls ≠ "true".toList
    Allowed := fun enabled => enabled = false
    Leaves := fun _ _ => True
    Restores := fun _ _ => True
    allowed_false := rfl
    bound := by
      intro blocks context disabled _
      simp [RlsContext.asParams, disabled]
    unbound := by
      intro blocks context _ _
      simp [Settings.unset]
    nested := by
      intro blocks context settings remembered
      simp [insideBypass]
    entered := by
      intro blocks context settings _ outside
      simp [insideBypass] at outside
    left := by
      intro blocks context settings _ _ _
      simp [Settings.setBypass]
    restored := by
      intro blocks remembered context settings _ holds
      exact holds }

/-- Whether the operation is one of those reserved for superadmin sessions. -/
def RlsOperation.bindsBypass : RlsOperation → Bool
  | .setBypassRls _ _ => true
  | _ => false

theorem bypassIsolation_guard {session : RlsAsyncSession} {operation : RlsOperation}
    (ordinary : operation.bindsBypass = false) : bypassIsolation.Guard session operation := by
  cases operation with
  | setBypassRls enabled fails => cases ordinary
  | leaveBypass resetFails rebindFails reassertFails =>
      rw [Isolation.Guard]
      split
      · exact trivial
      · exact trivial
  | releaseNested fails =>
      rw [Isolation.Guard]
      split
      · exact fun _ => trivial
      · exact trivial
  | rollbackNested =>
      rw [Isolation.Guard]
      split
      · exact trivial
      · exact trivial
  | _ => exact trivial

theorem allowedAlong_of_ordinary {session : RlsAsyncSession} {operations : List RlsOperation}
    (ordinary : ∀ operation ∈ operations, operation.bindsBypass = false) :
    AllowedAlong perform bypassIsolation.Guard session operations := by
  induction operations generalizing session with
  | nil => exact trivial
  | cons operation operations induction =>
      refine ⟨bypassIsolation_guard (ordinary operation (by simp)), ?_⟩
      apply induction
      intro later member
      exact ordinary later (by simp [member])

/-- After any operations on a session that is not a superadmin's, a statement
executed outside all bypass blocks runs with `app.bypass_rls` not `'true'`. -/
theorem bypass_off_outside_blocks (operations : List RlsOperation)
    (ordinary : ∀ operation ∈ operations, operation.bindsBypass = false)
    (outside : insideBypass (operations.foldl perform .opened).blocks = false)
    (settings : Settings)
    (visible : (operations.foldl perform .opened).visible = some settings) :
    settings.bypassRls ≠ "true".toList := by
  have run : GuardedRun perform bypassIsolation.Guard .opened operations
      (operations.foldl perform .opened) :=
    GuardedRun.of_allowedAlong (allowedAlong_of_ordinary ordinary)
  exact Isolation.holds_of_run run visible outside

/-- A login whose lookup fails inside the bypass block, in a savepoint: the
reset is rejected, the transaction rolled back and the tenant bound again. -/
def failedLookup : List RlsOperation :=
  [.initContext (some "acme".toList) false, .beginNested false, .enterBypass false,
    .statement true, .leaveBypass false false false, .rollbackNested, .statement false]

theorem bypass_off_after_failed_lookup :
    (failedLookup.foldl perform .opened).visible =
        some { orgId := "acme".toList, bypassRls := "false".toList, lookupCode := [] } ∧
      "false".toList ≠ "true".toList :=
  ⟨by decide, bypass_off_outside_blocks failedLookup (by decide) (by decide)
    { orgId := "acme".toList, bypassRls := "false".toList, lookupCode := [] } (by decide)⟩

end OpenZync.Rls
