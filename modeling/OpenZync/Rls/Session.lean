import OpenZync.Library.Savepoints
import OpenZync.Text

/-!
# Sessions with a row-level-security context

An `RlsAsyncSession` with the context it remembers, the transaction it has
open and the blocks the program is inside of.  Every statement that the
helpers of `core/rls.py` issue may fail, which aborts the transaction; the
outcome is an argument of the operation, so a sequence of operations covers
every pattern of failures and of exceptions that the caller handles or not.
-/

namespace OpenZync.Rls

open OpenZync.Library

/-- The three settings the policies read, unset being empty. -/
structure Settings where
  orgId : Text
  bypassRls : Text
  lookupCode : Text
deriving DecidableEq

/-- What a new transaction starts with. -/
def Settings.unset : Settings :=
  { orgId := []
    bypassRls := []
    lookupCode := [] }

/-- `set_config('app.bypass_rls', value, true)`. -/
def Settings.setBypass (value : Text) (settings : Settings) : Settings :=
  { settings with bypassRls := value }

/-- The isolation context a session is bound to. -/
structure RlsContext where
  orgId : Text := []
  bypassRls : Bool := false
  lookupCode : Text := []
deriving DecidableEq

namespace RlsContext

def isEmpty (context : RlsContext) : Bool :=
  context.orgId.isEmpty && !context.bypassRls && context.lookupCode.isEmpty

def asParams (context : RlsContext) : Settings :=
  { orgId := context.orgId
    bypassRls := if context.bypassRls then "true".toList else "false".toList
    lookupCode := context.lookupCode }

end RlsContext

/-- A block the program is inside of: `async with rls_bypass(db)` or
`async with db.begin_nested()`, with the context that was remembered when the
savepoint was taken. -/
inductive Block where
  | bypass
  | savepoint (remembered : RlsContext)
deriving DecidableEq

structure RlsAsyncSession where
  rlsContext : RlsContext
  /-- The transaction in progress, if one has begun. -/
  transaction : Option (LocalTransaction Settings)
  /-- Innermost first. -/
  blocks : List Block

/-- What SQLAlchemy raises for a statement the database rejects. -/
inductive SQLAlchemyError where
  | rejected

/-- Code that runs on a session; an exception leaves the session as it is. -/
abbrev SessionM := EStateM SQLAlchemyError RlsAsyncSession

namespace RlsAsyncSession

/-- A session as the factory opens it. -/
def opened : RlsAsyncSession :=
  { rlsContext := {}
    transaction := none
    blocks := [] }

/-- The transaction the next statement runs in, which begins with it if none
is in progress. -/
def current (session : RlsAsyncSession) : LocalTransaction Settings :=
  session.transaction.getD (.start .unset)

/-- The settings a statement executed now runs with; an aborted transaction
rejects it. -/
def visible (session : RlsAsyncSession) : Option Settings :=
  if session.current.aborted then none else some session.current.settings

/-- `db.execute` of a statement that changes the settings. -/
def execute (change : Settings → Settings) (fails : Bool) : SessionM Unit :=
  fun session =>
    match session.current.execute change fails with
    | .ok transaction => .ok () { session with transaction := some transaction }
    | .error transaction => .error .rejected { session with transaction := some transaction }

def rebindRlsContext (fails : Bool) : SessionM Unit := do
  let session ← get
  let context := session.rlsContext
  if context.isEmpty then
    return
  execute (fun _ => context.asParams) fails

def commit (rebindFails : Bool) : SessionM Unit := do
  modify fun session => { session with transaction := none }
  rebindRlsContext rebindFails

def rollback (rebindFails : Bool) : SessionM Unit := do
  let session ← get
  let hadTransaction := session.transaction.isSome
  modify fun session => { session with transaction := none }
  if hadTransaction then
    rebindRlsContext rebindFails

end RlsAsyncSession

open RlsAsyncSession

def applyContext (context : RlsContext) (fails : Bool) : SessionM Unit := do
  execute (fun _ => context.asParams) fails
  modify fun session => { session with rlsContext := context }

def setTenantContext (orgId : Text) (fails : Bool) : SessionM Unit := do
  let session ← get
  applyContext { session.rlsContext with orgId := orgId } fails

def setBypassRls (enabled : Bool) (fails : Bool) : SessionM Unit := do
  let session ← get
  applyContext { session.rlsContext with bypassRls := enabled } fails

def setLookupCode (code : Text) (fails : Bool) : SessionM Unit := do
  let session ← get
  applyContext { session.rlsContext with lookupCode := code } fails

def initContext (orgId : Option Text) (fails : Bool) : SessionM Unit :=
  applyContext { orgId := Text.strip (orgId.getD []) } fails

def releaseTenantContext (rebindFails : Bool) : SessionM Unit :=
  tryCatch
    (do
      modify fun session => { session with rlsContext := {} }
      rollback rebindFails)
    fun _ => pure ()

/-- The part of `rls_bypass` before its `yield`. -/
def enterBypass (fails : Bool) : SessionM Unit :=
  execute (Settings.setBypass "true".toList) fails

/-- The `finally` part of `rls_bypass`, which every way out of the block
runs. -/
def leaveBypass (resetFails rebindFails reassertFails : Bool) : SessionM Unit :=
  tryCatch (execute (Settings.setBypass "false".toList) resetFails) fun _ => do
    tryCatch (rollback rebindFails) fun _ => pure ()
    tryCatch (execute (Settings.setBypass "false".toList) reassertFails) fun _ => pure ()

/-- `db.begin_nested()`. -/
def beginNested (fails : Bool) : SessionM Unit :=
  fun session =>
    match session.current.savepoint fails with
    | .ok transaction => .ok () { session with transaction := some transaction }
    | .error transaction => .error .rejected { session with transaction := some transaction }

/-- Operations on a session.  The flags say which of the statements an
operation issues fails for a reason of its own. -/
inductive RlsOperation where
  | initContext (orgId : Option Text) (fails : Bool)
  | setTenantContext (orgId : Text) (fails : Bool)
  | setBypassRls (enabled fails : Bool)
  | setLookupCode (code : Text) (fails : Bool)
  | releaseTenantContext (rebindFails : Bool)
  /-- A statement of the application. -/
  | statement (fails : Bool)
  | commit (rebindFails : Bool)
  | rollback (rebindFails : Bool)
  | enterBypass (fails : Bool)
  | leaveBypass (resetFails rebindFails reassertFails : Bool)
  | beginNested (fails : Bool)
  /-- The savepoint block is left normally. -/
  | releaseNested (fails : Bool)
  /-- The savepoint block is left by an exception. -/
  | rollbackNested
deriving DecidableEq

namespace RlsAsyncSession

/-- The session after an operation, whether it returned or raised. -/
def after (program : SessionM Unit) (session : RlsAsyncSession) : RlsAsyncSession :=
  match program.run session with
  | .ok _ session => session
  | .error _ session => session

/-- Enter a block when its first statement succeeds. -/
def entering (block : Block) (program : SessionM Unit) (session : RlsAsyncSession) :
    RlsAsyncSession :=
  match program.run session with
  | .ok _ session => { session with blocks := block :: session.blocks }
  | .error _ session => session

/-- Leave a savepoint block; the savepoint has ended already if the whole
transaction has. -/
def endNested (finish : LocalTransaction Settings → LocalTransaction Settings)
    (outer : List Block) (session : RlsAsyncSession) : RlsAsyncSession :=
  { session with
    transaction := session.transaction.map finish
    blocks := outer }

/-- Blocks are properly nested: only the innermost one can be left. -/
def perform (session : RlsAsyncSession) : RlsOperation → RlsAsyncSession
  | .initContext orgId fails => session.after (Rls.initContext orgId fails)
  | .setTenantContext orgId fails => session.after (Rls.setTenantContext orgId fails)
  | .setBypassRls enabled fails => session.after (Rls.setBypassRls enabled fails)
  | .setLookupCode code fails => session.after (Rls.setLookupCode code fails)
  | .releaseTenantContext rebindFails => session.after (Rls.releaseTenantContext rebindFails)
  | .statement fails => session.after (execute id fails)
  | .commit rebindFails => session.after (RlsAsyncSession.commit rebindFails)
  | .rollback rebindFails => session.after (RlsAsyncSession.rollback rebindFails)
  | .enterBypass fails => session.entering .bypass (Rls.enterBypass fails)
  | .leaveBypass resetFails rebindFails reassertFails =>
      match session.blocks with
      | .bypass :: outer =>
          { session.after (Rls.leaveBypass resetFails rebindFails reassertFails) with
            blocks := outer }
      | _ => session
  | .beginNested fails =>
      session.entering (.savepoint session.rlsContext) (Rls.beginNested fails)
  | .releaseNested fails =>
      match session.blocks with
      | .savepoint _ :: outer => session.endNested (LocalTransaction.release fails) outer
      | _ => session
  | .rollbackNested =>
      match session.blocks with
      | .savepoint _ :: outer => session.endNested LocalTransaction.rollbackTo outer
      | _ => session

end RlsAsyncSession

/-- Whether a statement runs inside some `rls_bypass` block. -/
def insideBypass (blocks : List Block) : Bool :=
  blocks.contains .bypass

end OpenZync.Rls
