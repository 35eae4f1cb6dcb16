import HonoWarden.Session.Refresh

/-!
# The TOTP factor of a session

Model of `src/repositories/mfa-session-repository.ts` with the triggers of migration 0027 and
`lastEnrolledOwnerCanRemoveTotpSql` (`src/repositories/totp-repository.ts`).

A session family proves the factor by writing the factor's credential generation into its device
row (`sessionProofStatement`). Every change of the factor clears the proofs of the account by a
trigger, so the statement that renews a proof stands after the change in the same batch, and is
gated by `changes() = 1`, which the writes of a trigger do not enter.
-/

namespace HonoWarden

open Relational

/-- `TotpStepUpInput`. -/
structure TotpStepUpInput extends MfaSessionActor, TotpSessionVerification where
  now : Timestamp
  deriving DecidableEq, Repr

/-- `TotpChangeStartInput`. -/
structure TotpChangeStartInput extends TotpStepUpInput where
  encryptedSecret : String
  deriving DecidableEq, Repr

/-- `TotpSetupStartInput`. -/
structure TotpSetupStartInput extends MfaSessionActor where
  encryptedSecret : String
  now : Timestamp
  deriving DecidableEq, Repr

/-- `TotpEnrollmentInput`. -/
structure TotpEnrollmentInput extends MfaSessionActor where
  expectedEncryptedSecret : String
  acceptedStep : Int
  verifiedAt : Timestamp
  deriving DecidableEq, Repr

/-- `TotpPromotionInput`. -/
structure TotpPromotionInput extends MfaSessionActor where
  expectedCredentialGeneration : String
  expectedPendingEncryptedSecret : String
  acceptedStep : Int
  verifiedAt : Timestamp
  deriving DecidableEq, Repr

/-- `TotpDisableInput`. -/
structure TotpDisableInput extends MfaSessionActor where
  expectedCredentialGeneration : String
  now : Timestamp
  auditId : String
  requestId : String
  deriving DecidableEq, Repr

/-! ## Predicates -/

/-- The device the actor's session family holds, not revoked. -/
def MfaSessionActor.Holds (actor : MfaSessionActor) (d : Device) : Prop :=
  d.identifier = actor.deviceIdentifier ∧ d.sessionId = some actor.sessionId ∧ d.revokedAt = none

instance (actor : MfaSessionActor) : DecidablePred actor.Holds := fun _ =>
  inferInstanceAs (Decidable (_ ∧ _))

/-- `activeSessionSql`, in front of the account `userId` of the factor it is correlated with. -/
def MfaSessionActor.ActiveSession (actor : MfaSessionActor) (db : Db) (userId : String) : Prop :=
  ∃ d ∈ db.devices.rows, (∃ u ∈ db.users.rows, u.id = d.userId ∧ u.disabledAt = none) ∧
    d.userId = userId ∧ actor.Holds d

instance (actor : MfaSessionActor) (db : Db) (userId : String) :
    Decidable (actor.ActiveSession db userId) :=
  inferInstanceAs (Decidable (∃ d ∈ db.devices.rows, _ ∧ _))

/-- A factor in force: enabled, verified, with a credential generation. -/
def UserTotp.Enrolled (t : UserTotp) : Prop :=
  t.enabled = true ∧ t.verifiedAt ≠ none ∧ t.credentialGeneration ≠ none

instance : DecidablePred UserTotp.Enrolled := fun _ => inferInstanceAs (Decidable (_ ∧ _))

/-- `lastEnrolledOwnerCanRemoveTotpSql`: no enabled organization that requires TOTP loses its last
enrolled Owner with this factor. -/
def LastEnrolledOwnerCanRemoveTotp (db : Db) (t : UserTotp) : Prop :=
  ¬ ∃ currentOwner ∈ db.organizationUsers.rows,
    (∃ o ∈ db.organizations.rows, o.id = currentOwner.organizationId ∧ o.enabled = true ∧
      ∃ p ∈ db.organizationPolicies.rows, p.organizationId = o.id ∧ p.enabled = true) ∧
    currentOwner.userId = some t.userId ∧ currentOwner.status = 2 ∧ currentOwner.type = 0 ∧
    ¬ ∃ survivor ∈ db.organizationUsers.rows,
      (∃ u ∈ db.users.rows, survivor.userId = some u.id ∧ u.disabledAt = none) ∧
      (∃ factor ∈ db.userTotp.rows, survivor.userId = some factor.userId ∧ factor.Enrolled) ∧
      survivor.organizationId = currentOwner.organizationId ∧ survivor.status = 2 ∧
      survivor.type = 0 ∧ survivor.userId ≠ currentOwner.userId

instance (db : Db) : DecidablePred (LastEnrolledOwnerCanRemoveTotp db) := fun _ =>
  inferInstanceAs (Decidable (¬ ∃ m ∈ db.organizationUsers.rows, _ ∧ _))

/-- `findSessionTotpAssurance`. -/
def findSessionTotpAssurance (db : Db) (actor : MfaSessionActor) : Bool :=
  ∃ d ∈ db.devices.rows, (∃ u ∈ db.users.rows, u.id = d.userId ∧ u.disabledAt = none) ∧
    ∃ ut ∈ db.userTotp.rows, ut.userId = d.userId ∧ d.userId = actor.userId ∧ actor.Holds d ∧
      ut.Enrolled ∧ d.mfaTotpCredentialGeneration = ut.credentialGeneration ∧
      d.mfaVerifiedAt ≠ none

/-! ## Triggers of migration 0027 -/

/-- The proof columns of a device without a proof. -/
def Device.clearMfa (d : Device) : Device :=
  { d with mfaTotpCredentialGeneration := none, mfaVerifiedAt := none }

/-- `invalidate_session_mfa_on_totp_change`, after an UPDATE that names `enabled` or
`credential_generation`. -/
def invalidateSessionMfaOnTotpChange (images : List (UserTotp × UserTotp)) : Db → Db × Nat :=
  Db.devicesIn.nestedUpdate
    (fun d => ∃ image ∈ images, (image.2.enabled ≠ true ∨
      image.2.credentialGeneration ≠ image.1.credentialGeneration) ∧ d.userId = image.2.userId)
    Device.clearMfa

/-- `invalidate_session_mfa_on_totp_delete`. -/
def invalidateSessionMfaOnTotpDelete (deleted : List UserTotp) : Db → Db × Nat :=
  Db.devicesIn.nestedUpdate (fun d => ∃ old ∈ deleted, d.userId = old.userId) Device.clearMfa

/-! ## Statements -/

/-- A device with the proof of `generation`. -/
def Device.prove (generation : String) (verifiedAt : Timestamp) (d : Device) : Device :=
  { d with mfaTotpCredentialGeneration := some generation, mfaVerifiedAt := some verifiedAt }

/-- `sessionProofStatement`. -/
def sessionProofStatement (actor : MfaSessionActor) (generation : String)
    (verifiedAt : Timestamp) : Statement Db :=
  Db.devicesIn.update
    (fun db changes d => changes = 1 ∧ d.userId = actor.userId ∧ actor.Holds d ∧
      ∃ ut ∈ db.userTotp.rows, ut.userId = d.userId ∧ ut.enabled = true ∧ ut.verifiedAt ≠ none ∧
        ut.credentialGeneration = some generation)
    fun _ => Device.prove generation verifiedAt

/-- The factor a step-up may consume a step of. -/
def TotpStepUpInput.Factor (input : TotpStepUpInput) (db : Db) (t : UserTotp) : Prop :=
  t.userId = input.userId ∧ t.enabled = true ∧ t.verifiedAt ≠ none ∧
    t.credentialGeneration = some input.credentialGeneration ∧
    (∀ step, t.lastAcceptedStep = some step → step < input.acceptedStep) ∧
    input.toMfaSessionActor.ActiveSession db t.userId

instance (input : TotpStepUpInput) (db : Db) : DecidablePred (input.Factor db) := fun _ =>
  inferInstanceAs (Decidable (_ ∧ _))

/-- `consumeStepStatement`. -/
def consumeStepStatement (input : TotpStepUpInput) : Statement Db :=
  Db.userTotpIn.update (fun db _ => input.Factor db)
    fun _ => UserTotp.acceptStep input.acceptedStep input.now

/-- `completedProofBatch`. -/
def completedProofBatch (expectedCount : Nat) (results : List StatementResult) :
    Except String Bool :=
  if results.length ≠ expectedCount then
    .error "TOTP session proof batch returned an invalid result count."
  else
    let proofChanges := (results.getLast?.map StatementResult.metaChanges).getD 0
    if 1 < proofChanges then .error "TOTP session proof batch updated multiple families."
    else .ok (proofChanges = 1)

/-! ## Requests -/

/-- `consumeTotpSessionStepUp`. -/
def consumeTotpSessionStepUp (input : TotpStepUpInput) (db : Db) : Db × Except Failure Bool :=
  if isValidTotpSessionVerification input.toTotpSessionVerification then
    commit [consumeStepStatement input,
      sessionProofStatement input.toMfaSessionActor input.credentialGeneration input.now]
      (completedProofBatch 2) db
  else (db, .ok false)

/-- The row a setup inserts. -/
def TotpSetupStartInput.row (input : TotpSetupStartInput) : UserTotp where
  userId := input.userId
  encryptedSecret := input.encryptedSecret
  updatedAt := input.now

/-- The pending factor of an earlier setup, started again. -/
def TotpSetupStartInput.restart (input : TotpSetupStartInput) (t : UserTotp) : UserTotp :=
  { t with
    encryptedSecret := input.encryptedSecret
    verifiedAt := none
    lastAcceptedStep := none
    credentialGeneration := none
    pendingEncryptedSecret := none
    pendingCreatedAt := none
    updatedAt := input.now }

def upsertPendingSetup (input : TotpSetupStartInput) : Statement Db :=
  Db.userTotpIn.upsertTriggering
    (fun db _ =>
      if input.toMfaSessionActor.ActiveSession db input.userId then some input.row else none)
    (fun t _ => if t.enabled = false then some (input.restart t) else none)
    (fun t => [[.text t.userId]]) invalidateSessionMfaOnTotpChange

/-- `createPendingTotpSetupForSession`. -/
def createPendingTotpSetupForSession (input : TotpSetupStartInput) (db : Db) :
    Db × Except Failure Bool :=
  execute (upsertPendingSetup input) (fun result => .ok (result.rows.length = 1)) db

/-- The second statement of a change start, which stores the secret to be promoted. -/
def storePendingSecret (input : TotpChangeStartInput) : Statement Db :=
  Db.userTotpIn.update
    (fun db changes t => changes = 1 ∧ t.userId = input.userId ∧ t.enabled = true ∧
      t.credentialGeneration = some input.credentialGeneration ∧
      input.toMfaSessionActor.ActiveSession db t.userId)
    fun _ t =>
      { t with
        pendingEncryptedSecret := some input.encryptedSecret
        pendingCreatedAt := some input.now
        updatedAt := input.now }

/-- `startPendingTotpChangeForSession`. -/
def startPendingTotpChangeForSession (input : TotpChangeStartInput) (db : Db) :
    Db × Except Failure Bool :=
  if isValidTotpSessionVerification input.toTotpSessionVerification then
    commit [consumeStepStatement input.toTotpStepUpInput, storePendingSecret input,
      sessionProofStatement input.toMfaSessionActor input.credentialGeneration input.now]
      (completedProofBatch 3) db
  else (db, .ok false)

/-- The pending factor an enrolment may enable. -/
def TotpEnrollmentInput.Factor (input : TotpEnrollmentInput) (db : Db) (t : UserTotp) : Prop :=
  t.userId = input.userId ∧ t.enabled = false ∧
    t.encryptedSecret = input.expectedEncryptedSecret ∧
    (∀ step, t.lastAcceptedStep = some step → step < input.acceptedStep) ∧
    input.toMfaSessionActor.ActiveSession db t.userId

instance (input : TotpEnrollmentInput) (db : Db) : DecidablePred (input.Factor db) := fun _ =>
  inferInstanceAs (Decidable (_ ∧ _))

/-- The factor as the enrolment leaves it. -/
def TotpEnrollmentInput.enable (input : TotpEnrollmentInput) (generation : String)
    (t : UserTotp) : UserTotp :=
  { t with
    enabled := true
    verifiedAt := some input.verifiedAt
    lastAcceptedStep := some input.acceptedStep
    credentialGeneration := some generation
    updatedAt := input.verifiedAt }

/-- `enableTotpSetupForSession`, which draws `generation`. -/
def enableTotpSetupForSession (input : TotpEnrollmentInput) (generation : String) (db : Db) :
    Db × Except Failure Bool :=
  if isValidTotpSessionVerification ⟨generation, input.acceptedStep⟩ then
    commit [Db.userTotpIn.updateTriggering (fun db _ => input.Factor db)
        (fun _ => input.enable generation) (fun _ => []) invalidateSessionMfaOnTotpChange,
      sessionProofStatement input.toMfaSessionActor generation input.verifiedAt]
      (completedProofBatch 2) db
  else (db, .ok false)

/-- The factor whose pending secret a promotion may put in force. -/
def TotpPromotionInput.Factor (input : TotpPromotionInput) (db : Db) (t : UserTotp) : Prop :=
  t.userId = input.userId ∧ t.enabled = true ∧ t.verifiedAt ≠ none ∧
    t.credentialGeneration = some input.expectedCredentialGeneration ∧
    t.pendingEncryptedSecret = some input.expectedPendingEncryptedSecret ∧
    input.toMfaSessionActor.ActiveSession db t.userId

instance (input : TotpPromotionInput) (db : Db) : DecidablePred (input.Factor db) := fun _ =>
  inferInstanceAs (Decidable (_ ∧ _))

/-- The factor as the promotion leaves it; `encrypted_secret` is NOT NULL, and the statement only
meets factors with a pending secret. -/
def TotpPromotionInput.promote (input : TotpPromotionInput) (generation : String)
    (t : UserTotp) : UserTotp :=
  { t with
    encryptedSecret := t.pendingEncryptedSecret.getD t.encryptedSecret
    verifiedAt := some input.verifiedAt
    lastAcceptedStep := some input.acceptedStep
    credentialGeneration := some generation
    pendingEncryptedSecret := none
    pendingCreatedAt := none
    updatedAt := input.verifiedAt }

/-- `promotePendingTotpChangeForSession`, which draws `generation`. -/
def promotePendingTotpChangeForSession (input : TotpPromotionInput) (generation : String)
    (db : Db) : Db × Except Failure Bool :=
  if isValidTotpSessionVerification ⟨input.expectedCredentialGeneration, input.acceptedStep⟩ then
    commit [Db.userTotpIn.updateTriggering (fun db _ => input.Factor db)
        (fun _ => input.promote generation) (fun _ => []) invalidateSessionMfaOnTotpChange,
      sessionProofStatement input.toMfaSessionActor generation input.verifiedAt]
      (completedProofBatch 2) db
  else (db, .ok false)

/-- The factor a disable request may delete. -/
def TotpDisableInput.Factor (input : TotpDisableInput) (db : Db) (t : UserTotp) : Prop :=
  t.userId = input.userId ∧ t.enabled = true ∧
    t.credentialGeneration = some input.expectedCredentialGeneration ∧
    input.toMfaSessionActor.ActiveSession db t.userId ∧ LastEnrolledOwnerCanRemoveTotp db t

instance (input : TotpDisableInput) (db : Db) : DecidablePred (input.Factor db) := fun _ =>
  inferInstanceAs (Decidable (_ ∧ _))

/-- The audit event a disable request must leave. -/
def TotpDisableInput.auditEvent (input : TotpDisableInput) : AuditEventRow where
  id := input.auditId
  name := "totp.disable"
  outcome := "success"
  requestId := input.requestId
  occurredAt := input.now
  actorUserId := some input.userId
  actorDeviceIdentifier := some input.deviceIdentifier
  targetType := some "account"
  targetId := some input.userId
  contextJson := some [("enabled", .boolean false)]

/-- The account after its factor was deleted. -/
def User.touch (now : Timestamp) (u : User) : User :=
  { u with revisionDate := now, updatedAt := now }

def deleteFactor (input : TotpDisableInput) : Statement Db :=
  Db.userTotpIn.deleteTriggering (fun db _ => input.Factor db) (fun t => [[.text t.userId]])
    invalidateSessionMfaOnTotpDelete

def touchDisabledAccount (input : TotpDisableInput) : Statement Db :=
  Db.usersIn.update (fun _ changes u => u.id = input.userId ∧ u.disabledAt = none ∧ changes = 1)
    fun _ => User.touch input.now

def insertDisableAudit (input : TotpDisableInput) : Statement Db :=
  Db.auditEventsIn.insertSelect (fun _ changes => if changes = 1 then [input.auditEvent] else [])
    fun _ => []

def interpretDisableBatch : List StatementResult → Except String Bool
  | [deleted, _, audit] =>
    if deleted.rows.length = 1 ∧ audit.metaChanges ≠ 1 then
      .error "TOTP disable batch did not record its required audit event."
    else .ok (deleted.rows.length = 1)
  | _ => .error "TOTP disable batch returned an invalid result count."

/-- `disableTotpSetupForSession`. -/
def disableTotpSetupForSession (input : TotpDisableInput) (db : Db) : Db × Except Failure Bool :=
  commit [deleteFactor input, touchDisabledAccount input, insertDisableAudit input]
    interpretDisableBatch db

end HonoWarden
