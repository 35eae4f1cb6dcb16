import HonoWarden.Mfa.Step

/-!
# The TOTP factor without a session

Model of the factor requests of `src/repositories/totp-repository.ts`, which ask for no session:
each is one statement on `user_totp`, and an expectation the caller leaves out is not asked for.
The routes use the requests of `Mfa/Repository.lean`; these remain exported beside them.
-/

namespace HonoWarden

open Relational

/-- The optional `AND column = ?`. -/
def Expected (expected : Option String) (stored : Option String) : Prop :=
  ∀ value ∈ expected, stored = some value

instance (expected stored : Option String) : Decidable (Expected expected stored) :=
  inferInstanceAs (Decidable (∀ value ∈ expected, _))

/-- `upsertPendingTotpSetup`. -/
def upsertPendingTotpSetup (userId encryptedSecret : String) (now : Timestamp) (db : Db) :
    Db × Except Failure Unit :=
  let row : UserTotp := { userId, encryptedSecret, updatedAt := now }
  execute
    ((Db.userTotpIn.upsertTriggering (fun _ _ => some row)
      (fun t _ => if t.enabled = false then some row else none) (fun _ => [])
      invalidateSessionMfaOnTotpChange).referencing fun db => ∃ u ∈ db.users.rows, u.id = userId)
    (fun _ => .ok ()) db

/-- `EnableTotpSetupInput`. -/
structure EnableTotpSetupInput where
  userId : String
  verifiedAt : Timestamp
  expectedEncryptedSecret : Option String := none
  deriving DecidableEq, Repr

/-- `enableTotpSetup`, which draws `generation`. -/
def enableTotpSetup (input : EnableTotpSetupInput) (generation : String) (db : Db) :
    Db × Except Failure Bool :=
  execute
    (Db.userTotpIn.updateTriggering
      (fun _ _ t => t.userId = input.userId ∧ t.enabled = false ∧
        Expected input.expectedEncryptedSecret (some t.encryptedSecret))
      (fun _ t =>
        { t with
          enabled := true
          verifiedAt := some input.verifiedAt
          updatedAt := input.verifiedAt
          credentialGeneration := some generation })
      (fun _ => []) invalidateSessionMfaOnTotpChange)
    (fun result => .ok (1 ≤ result.metaChanges)) db

/-- `disableTotpSetup`. -/
def disableTotpSetup (userId : String) (expectedCredentialGeneration : Option String) (db : Db) :
    Db × Except Failure Bool :=
  execute
    (Db.userTotpIn.deleteTriggering
      (fun db _ t => t.userId = userId ∧ t.enabled = true ∧
        Expected expectedCredentialGeneration t.credentialGeneration ∧
        LastEnrolledOwnerCanRemoveTotp db t)
      (fun _ => []) invalidateSessionMfaOnTotpDelete)
    (fun result => .ok (1 ≤ result.metaChanges)) db

/-- `PendingTotpChangeInput`. -/
structure PendingTotpChangeInput where
  userId : String
  encryptedSecret : String
  now : Timestamp
  expectedCredentialGeneration : Option String := none
  deriving DecidableEq, Repr

/-- `startPendingTotpChange`. -/
def startPendingTotpChange (input : PendingTotpChangeInput) (db : Db) : Db × Except Failure Bool :=
  execute
    (Db.userTotpIn.update
      (fun _ _ t => t.userId = input.userId ∧ t.enabled = true ∧
        Expected input.expectedCredentialGeneration t.credentialGeneration)
      fun _ t =>
        { t with
          pendingEncryptedSecret := some input.encryptedSecret
          pendingCreatedAt := some input.now
          updatedAt := input.now })
    (fun result => .ok (result.metaChanges = 1)) db

/-- `PromoteTotpChangeInput`. -/
structure PromoteTotpChangeInput where
  userId : String
  acceptedStep : Int
  verifiedAt : Timestamp
  expectedCredentialGeneration : Option String := none
  expectedPendingEncryptedSecret : Option String := none
  deriving DecidableEq, Repr

/-- `promotePendingTotpChange`, which draws `generation`. -/
def promotePendingTotpChange (input : PromoteTotpChangeInput) (generation : String) (db : Db) :
    Db × Except Failure Bool :=
  execute
    (Db.userTotpIn.updateTriggering
      (fun _ _ t => t.userId = input.userId ∧ t.enabled = true ∧
        t.pendingEncryptedSecret ≠ none ∧
        Expected input.expectedCredentialGeneration t.credentialGeneration ∧
        Expected input.expectedPendingEncryptedSecret t.pendingEncryptedSecret)
      (fun _ t =>
        { t with
          encryptedSecret := t.pendingEncryptedSecret.getD t.encryptedSecret
          verifiedAt := some input.verifiedAt
          lastAcceptedStep := some input.acceptedStep
          credentialGeneration := some generation
          pendingEncryptedSecret := none
          pendingCreatedAt := none
          updatedAt := input.verifiedAt })
      (fun _ => []) invalidateSessionMfaOnTotpChange)
    (fun result => .ok (1 ≤ result.metaChanges)) db

/-- `AcceptTotpStepInput`. -/
structure AcceptTotpStepInput where
  userId : String
  acceptedStep : Int
  now : Timestamp
  expectedCredentialGeneration : Option String := none
  deriving DecidableEq, Repr

/-- `recordAcceptedTotpStep`. -/
def recordAcceptedTotpStep (input : AcceptTotpStepInput) (db : Db) : Db × Except Failure Bool :=
  execute
    (Db.userTotpIn.update
      (fun _ _ t => t.userId = input.userId ∧
        (∀ step, t.lastAcceptedStep = some step → step < input.acceptedStep) ∧
        ∀ generation ∈ input.expectedCredentialGeneration, t.enabled = true ∧
          t.verifiedAt ≠ none ∧ t.credentialGeneration = some generation)
      fun _ => UserTotp.acceptStep input.acceptedStep input.now)
    (fun result => .ok (result.metaChanges = 1)) db

end HonoWarden
