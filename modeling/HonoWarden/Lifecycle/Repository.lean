import HonoWarden.Organization.Membership

/-!
# Deleting an account

Model of the deletion part of `src/repositories/account-lifecycle-repository.ts`. A deletion is
begun (`recoverable`: the account is disabled and its sessions end), and then recovered, or taken
through `purge_ready` and `purging_r2` to `tombstoned`.

Every batch writes its first row under a guard that repeats the last-Owner query
(`HasLastConfirmedOwnerMembership`); the later statements ask for what that row now says: the
disabled generation, or the purge operation the batch has drawn (`AccountPurgeInput.Sealed`).
-/

namespace HonoWarden

open Relational

/-- `lastConfirmedOwnerMembershipSql`: a membership that leaves its organization without a usable
Owner when the account `userId` goes. -/
def LastConfirmedOwnerMembership (db : Db) (userId : String) (currentOwner : OrganizationUser) :
    Prop :=
  currentOwner.userId = some userId ∧ currentOwner.status = 2 ∧ currentOwner.type = 0 ∧
    ¬ ∃ other ∈ db.organizationUsers.rows, other.HasAccount db ∧
      other.organizationId = currentOwner.organizationId ∧ other.status = 2 ∧ other.type = 0 ∧
      other.userId ≠ none ∧ other.userId ≠ some userId ∧
      OrganizationTotpEnrollmentAllows db currentOwner.organizationId other.userId

instance (db : Db) (userId : String) : DecidablePred (LastConfirmedOwnerMembership db userId) :=
  fun _ => inferInstanceAs (Decidable (_ ∧ _))

/-- `EXISTS (lastConfirmedOwnerMembershipSql)`. -/
def HasLastConfirmedOwnerMembership (db : Db) (userId : String) : Prop :=
  ∃ m ∈ db.organizationUsers.rows, LastConfirmedOwnerMembership db userId m

instance (db : Db) (userId : String) : Decidable (HasLastConfirmedOwnerMembership db userId) :=
  inferInstanceAs (Decidable (∃ m ∈ db.organizationUsers.rows, _))

/-- `users_invalidate_stale_user_key_id` (migration 0022), after an UPDATE that names
`user_key`. -/
def invalidateStaleUserKeyId (images : List (User × User)) : Db → Db × Nat :=
  Db.usersIn.nestedUpdate
    (fun u => ∃ image ∈ images, image.2.userKey ≠ image.1.userKey ∧
      image.2.userKeyId = image.1.userKeyId ∧ image.1.userKeyId ≠ none ∧ u.id = image.2.id)
    fun u => { u with userKeyId := none }

/-- A pending or approved request, superseded. -/
def AuthRequest.supersede (now : Timestamp) (a : AuthRequest) : AuthRequest :=
  { a with
    status := .superseded
    requestApproved := some false
    encryptedResponseKey := none
    updatedAt := now }

/-- A device, revoked. -/
def Device.revoke (now : Timestamp) (d : Device) : Device :=
  { d with revokedAt := some now, updatedAt := now }

/-! ## Beginning -/

/-- `BeginRecoverableAccountDeletionInput`. -/
structure BeginRecoverableAccountDeletionInput where
  userId : String
  expectedMasterPasswordHash : String
  expectedSecurityStamp : String
  expectedRevisionDate : Timestamp
  tokenDigest : Option String
  lifecycleGeneration : String
  nextSecurityStamp : String
  now : Timestamp
  recoverUntil : Timestamp
  auditEventId : String
  auditEvent : AuditEvent
  deriving DecidableEq, Repr

/-- `BeginRecoverableAccountDeletionResult`. -/
inductive BeginRecoverableAccountDeletionResult where
  | recoverable (lifecycleGeneration : String) (recoverUntil : Timestamp)
      (revokedDeviceCount revokedRefreshTokenCount invalidatedAuthRequestCount : Nat)
  | lastOwner
  | conflict
  deriving DecidableEq, Repr

namespace BeginRecoverableAccountDeletionInput

variable (input : BeginRecoverableAccountDeletionInput)

/-- The lifecycle token a deletion by mail needs. -/
def Token (t : AccountLifecycleToken) : Prop :=
  t.userId = input.userId ∧ t.purpose = .accountDelete ∧ some t.tokenDigest = input.tokenDigest ∧
    t.credentialGeneration = input.expectedSecurityStamp ∧ t.deliveryState = .accepted ∧
    input.now < t.expiresAt ∧ t.Active

instance : DecidablePred input.Token := fun _ => inferInstanceAs (Decidable (_ ∧ _))

/-- The account the request may disable. -/
def Account (db : Db) (u : User) : Prop :=
  u.id = input.userId ∧ u.disabledAt = none ∧
    u.masterPasswordHash = input.expectedMasterPasswordHash ∧
    u.securityStamp = input.expectedSecurityStamp ∧
    u.revisionDate = input.expectedRevisionDate ∧
    (¬ ∃ d ∈ db.accountDeletions.rows, d.userId = u.id ∧ d.state ≠ .recovered) ∧
    ¬ HasLastConfirmedOwnerMembership db input.userId ∧
    (input.tokenDigest = none ∨ ∃ t ∈ db.accountLifecycleTokens.rows, input.Token t)

instance (db : Db) : DecidablePred (input.Account db) := fun _ =>
  inferInstanceAs (Decidable (_ ∧ _))

/-- The account in its disabled generation. -/
def disable (u : User) : User :=
  { u with
    disabledAt := some input.now
    securityStamp := input.nextSecurityStamp
    revisionDate := input.now
    updatedAt := input.now }

/-- `disabledGenerationGuard`. -/
def Disabled (db : Db) : Prop :=
  ∃ u ∈ db.users.rows, u.id = input.userId ∧ u.disabledAt = some input.now ∧
    u.securityStamp = input.nextSecurityStamp ∧ u.revisionDate = input.now

instance (db : Db) : Decidable (input.Disabled db) :=
  inferInstanceAs (Decidable (∃ u ∈ db.users.rows, _))

/-- The deletion as it begins. -/
def deletion : AccountDeletion where
  userId := input.userId
  lifecycleGeneration := input.lifecycleGeneration
  state := .recoverable
  requestedAt := input.now
  recoverUntil := input.recoverUntil
  updatedAt := input.now

/-- A recovered deletion can begin again. -/
def restart (d excluded : AccountDeletion) : Option AccountDeletion :=
  if d.state = .recovered then some { excluded with userId := d.userId } else none

/-- The token of the request is consumed, every other one superseded. -/
def settleToken (t : AccountLifecycleToken) : AccountLifecycleToken :=
  if t.purpose = .accountDelete ∧ some t.tokenDigest = input.tokenDigest then
    { t with consumedAt := some input.now, updatedAt := input.now }
  else { t with supersededAt := some input.now, updatedAt := input.now }

def disableAccount : Statement Db :=
  Db.usersIn.updateReturning (fun db _ => input.Account db) (fun _ => input.disable)
    fun u => [[.text u.id]]

def insertDeletion : Statement Db :=
  (Db.accountDeletionsIn.upsertRow
    (fun db _ => if input.Disabled db then some input.deletion else none) restart
    fun _ => []).checked (input.now < input.recoverUntil)

/-- The batch of `beginRecoverableAccountDeletion`. -/
def batch : List (Statement Db) :=
  [select fun db => [[.integer
      (db.organizationUsers.rows.countP (LastConfirmedOwnerMembership db input.userId))]],
    input.disableAccount,
    input.insertDeletion,
    Db.accountLifecycleTokensIn.update
      (fun db _ t => t.userId = input.userId ∧ t.Active ∧ input.Disabled db)
      fun _ => input.settleToken,
    Db.devicesIn.update
      (fun db _ d => d.userId = input.userId ∧ d.revokedAt = none ∧ input.Disabled db)
      fun _ => Device.revoke input.now,
    Db.refreshTokensIn.update
      (fun db _ t => t.userId = input.userId ∧ t.revokedAt = none ∧ input.Disabled db)
      fun _ => RefreshToken.revoke input.now,
    Db.authRequestsIn.update
      (fun db _ a => a.userId = some input.userId ∧
        (a.status = .pending ∨ a.status = .approved) ∧ input.Disabled db)
      fun _ => AuthRequest.supersede input.now,
    auditStatement input.auditEvent input.auditEventId fun db _ => input.Disabled db]

/-- The reading of the batch. -/
def interpret : List StatementResult → Except String BeginRecoverableAccountDeletionResult
  | [owner, users, deletion, token, device, refresh, authRequest, audit] =>
    match users.rows with
    | [] =>
      if ∃ result ∈ [deletion, token, device, refresh, authRequest, audit],
          result.metaChanges ≠ 0 then
        .error "account deletion guard invariant was violated"
      else if ∃ count ∈ owner.rows.head?.bind List.head?, count ≠ .integer 0 then .ok .lastOwner
      else .ok .conflict
    | rows =>
      if rows ≠ [[.text input.userId]] ∨ deletion.metaChanges ≠ 1 ∨ audit.metaChanges ≠ 1 then
        .error "account deletion did not enter recoverable state"
      else .ok (.recoverable input.lifecycleGeneration input.recoverUntil device.metaChanges
        refresh.metaChanges authRequest.metaChanges)
  | _ => .error "account deletion batch returned an invalid count"

end BeginRecoverableAccountDeletionInput

/-- `beginRecoverableAccountDeletion`. -/
def beginRecoverableAccountDeletion (input : BeginRecoverableAccountDeletionInput) (db : Db) :
    Db × Except Failure BeginRecoverableAccountDeletionResult :=
  commit input.batch input.interpret db

/-! ## Recovery -/

/-- The input of `recoverAccountDeletion`. -/
structure RecoverAccountDeletionInput where
  userId : String
  lifecycleGeneration : String
  expectedDisabledSecurityStamp : String
  now : Timestamp
  nextSecurityStamp : String
  auditEventId : String
  auditEvent : AuditEvent
  deriving DecidableEq, Repr

/-- The results of `recoverAccountDeletion`. -/
inductive RecoverAccountDeletionResult where
  | recovered
  | conflict
  deriving DecidableEq, Repr

namespace RecoverAccountDeletionInput

variable (input : RecoverAccountDeletionInput)

/-- The deletion that may still be recovered. -/
def Recoverable (d : AccountDeletion) : Prop :=
  d.userId = input.userId ∧ d.lifecycleGeneration = input.lifecycleGeneration ∧
    d.state = .recoverable ∧ input.now < d.recoverUntil

instance : DecidablePred input.Recoverable := fun _ => inferInstanceAs (Decidable (_ ∧ _))

/-- The account the recovery may enable. -/
def Account (db : Db) (u : User) : Prop :=
  u.id = input.userId ∧ u.disabledAt ≠ none ∧
    u.securityStamp = input.expectedDisabledSecurityStamp ∧
    ∃ d ∈ db.accountDeletions.rows, input.Recoverable d

instance (db : Db) : DecidablePred (input.Account db) := fun _ =>
  inferInstanceAs (Decidable (_ ∧ _))

/-- The account, enabled again. -/
def enable (u : User) : User :=
  { u with
    disabledAt := none
    securityStamp := input.nextSecurityStamp
    revisionDate := input.now
    updatedAt := input.now }

/-- `recoveredGuard`. -/
def Recovered (db : Db) : Prop :=
  ∃ u ∈ db.users.rows, u.id = input.userId ∧ u.disabledAt = none ∧
    u.securityStamp = input.nextSecurityStamp ∧ u.revisionDate = input.now

instance (db : Db) : Decidable (input.Recovered db) :=
  inferInstanceAs (Decidable (∃ u ∈ db.users.rows, _))

/-- The batch of `recoverAccountDeletion`. -/
def batch : List (Statement Db) :=
  [Db.usersIn.updateReturning (fun db _ => input.Account db) (fun _ => input.enable)
      fun u => [[.text u.id]],
    Db.accountDeletionsIn.update (fun db _ d => input.Recoverable d ∧ input.Recovered db)
      fun _ d =>
        { d with state := .recovered, recoveredAt := some input.now, updatedAt := input.now },
    auditStatement input.auditEvent input.auditEventId fun db _ => input.Recovered db]

/-- The reading of the batch. -/
def interpret : List StatementResult → Except String RecoverAccountDeletionResult
  | [users, deletion, audit] =>
    match users.rows with
    | [] =>
      if deletion.metaChanges ≠ 0 ∨ audit.metaChanges ≠ 0 then
        .error "account recovery guard invariant was violated"
      else .ok .conflict
    | rows =>
      if rows ≠ [[.text input.userId]] ∨ deletion.metaChanges ≠ 1 ∨ audit.metaChanges ≠ 1 then
        .error "account recovery did not commit once"
      else .ok .recovered
  | _ => .error "account recovery batch returned an invalid count"

end RecoverAccountDeletionInput

/-- `recoverAccountDeletion`. -/
def recoverAccountDeletion (input : RecoverAccountDeletionInput) (db : Db) :
    Db × Except Failure RecoverAccountDeletionResult :=
  commit input.batch input.interpret db

/-! ## Purging -/

/-- What the purge steps know of a deletion. -/
structure AccountPurgeTarget where
  userId : String
  lifecycleGeneration : String
  now : Timestamp
  deriving DecidableEq, Repr

/-- The deletion in this generation, in a state that `state` admits. -/
def AccountPurgeTarget.Deletion (input : AccountPurgeTarget) (state : AccountDeletionState → Prop)
    (d : AccountDeletion) : Prop :=
  d.userId = input.userId ∧ d.lifecycleGeneration = input.lifecycleGeneration ∧ state d.state

instance (input : AccountPurgeTarget) (state : AccountDeletionState → Prop)
    [DecidablePred state] : DecidablePred (input.Deletion state) := fun _ =>
  inferInstanceAs (Decidable (_ ∧ _))

/-- An attachment of a cipher that is the account's own. -/
def PersonalAttachment (db : Db) (userId : String) (a : CipherAttachment) : Prop :=
  ∃ c ∈ db.ciphers.rows, c.id = a.cipherId ∧ c.userId = userId ∧ c.organizationId = none

instance (db : Db) (userId : String) : DecidablePred (PersonalAttachment db userId) := fun _ =>
  inferInstanceAs (Decidable (∃ c ∈ db.ciphers.rows, _))

/-- The number of personal attachments. -/
def personalAttachmentCount (db : Db) (userId : String) : Nat :=
  db.cipherAttachments.rows.countP (PersonalAttachment db userId)

/-- The account of a deletion is disabled. -/
def AccountDisabled (db : Db) (userId : String) : Prop :=
  ∃ u ∈ db.users.rows, u.id = userId ∧ u.disabledAt ≠ none

instance (db : Db) (userId : String) : Decidable (AccountDisabled db userId) :=
  inferInstanceAs (Decidable (∃ u ∈ db.users.rows, _))

/-- `markAccountPurgeReady`; whether the deletion is `purge_ready`. -/
def markAccountPurgeReady (input : AccountPurgeTarget) (expectedPersonalAttachmentCount : Nat)
    (db : Db) : Db × Except Failure Bool :=
  execute
    (Db.accountDeletionsIn.update
      (fun db _ d => input.Deletion (· = .recoverable) d ∧ d.recoverUntil ≤ input.now ∧
        AccountDisabled db d.userId ∧ ¬ HasLastConfirmedOwnerMembership db input.userId ∧
        expectedPersonalAttachmentCount = personalAttachmentCount db d.userId)
      fun _ d =>
        { d with
          state := .purgeReady
          personalR2ExpectedCount := expectedPersonalAttachmentCount
          personalR2DeletedCount := 0
          lastErrorCode := none
          updatedAt := input.now })
    (fun result => .ok (result.metaChanges = 1)) db

/-- The result of a purge start. -/
inductive StartAccountPurgeResult where
  | purgingR2 (objectKeys : List String) (deletedCount expectedCount : Nat)
  | conflict
  deriving DecidableEq, Repr

def accountPurgeR2BatchSize : Nat := 1000

/-- `Number.MAX_SAFE_INTEGER`. -/
def maxSafeInteger : Nat := 2 ^ 53 - 1

/-- A deletion that is ready to be purged, or being purged. -/
def AccountDeletionState.Purging (state : AccountDeletionState) : Prop :=
  state = .purgeReady ∨ state = .purgingR2

instance : DecidablePred AccountDeletionState.Purging := fun _ =>
  inferInstanceAs (Decidable (_ ∨ _))

/-- The object keys of the next batch to delete. -/
def purgeObjectKeys (input : AccountPurgeTarget) (db : Db) : List String :=
  let attachments := db.cipherAttachments.rows.filter fun a =>
    PersonalAttachment db input.userId a ∧
      ∃ d ∈ db.accountDeletions.rows, input.Deletion AccountDeletionState.Purging d
  let offset := ((db.accountDeletions.rows.filter fun d =>
    input.Deletion (fun _ => True) d).head?.map fun d =>
      if d.state = .purgingR2 then d.personalR2DeletedCount else 0).getD 0
  (((attachments.map CipherAttachment.objectKey).mergeSort fun a b => a ≤ b).drop offset).take
    accountPurgeR2BatchSize

/-- The reading of a purge start. -/
def interpretPurgeStart : List StatementResult → Except String StartAccountPurgeResult
  | [objects, progress] =>
    match progress.rows with
    | [[.integer deleted, .integer expected]] =>
      if progress.metaChanges ≠ 1 ∨ maxSafeInteger < deleted ∨ maxSafeInteger < expected then
        .ok .conflict
      else if accountPurgeR2BatchSize < objects.rows.length then
        .error "account purge object inventory is invalid"
      else .ok (.purgingR2 (objects.rows.filterMap fun
        | [.text objectKey] => some objectKey
        | _ => none) deleted.toNat expected.toNat)
    | _ => .ok .conflict
  | _ => .error "account purge start batch returned an invalid count"

/-- `startAccountPurge`. -/
def startAccountPurge (input : AccountPurgeTarget) (db : Db) :
    Db × Except Failure StartAccountPurgeResult :=
  commit
    [select fun db => (purgeObjectKeys input db).map fun objectKey => [.text objectKey],
     Db.accountDeletionsIn.updateReturning
      (fun db _ d => input.Deletion AccountDeletionState.Purging d ∧
        AccountDisabled db d.userId ∧ ¬ HasLastConfirmedOwnerMembership db input.userId ∧
        d.personalR2ExpectedCount = personalAttachmentCount db d.userId)
      (fun _ d =>
        { d with
          state := .purgingR2
          purgeStartedAt := some (d.purgeStartedAt.getD input.now)
          personalR2DeletedCount := if d.state = .purgeReady then 0 else d.personalR2DeletedCount
          lastErrorCode := none
          updatedAt := input.now })
      fun d => [[.integer d.personalR2DeletedCount, .integer d.personalR2ExpectedCount]]]
    interpretPurgeStart db

/-- `/^[a-z0-9_]{1,64}$/u`. -/
def isPurgeErrorCode (code : String) : Bool :=
  1 ≤ code.length ∧ code.length ≤ 64 ∧
    code.toList.all fun c => c.isLower ∨ c.isDigit ∨ c = '_'

/-- `recordAccountPurgeProgress`; whether the deletion was updated. -/
def recordAccountPurgeProgress (input : AccountPurgeTarget) (deletedCount : Int)
    (errorCode : Option String) (db : Db) : Db × Except Failure Bool :=
  if maxSafeInteger < deletedCount ∨ deletedCount < 0 ∨
      ∃ code ∈ errorCode, isPurgeErrorCode code = false then
    (db, .error (.thrown "account purge progress is invalid"))
  else
    execute
      (Db.accountDeletionsIn.update
        (fun _ _ d => input.Deletion (· = .purgingR2) d ∧
          deletedCount ≤ d.personalR2ExpectedCount ∧ d.personalR2DeletedCount ≤ deletedCount)
        fun _ d =>
          { d with
            personalR2DeletedCount := deletedCount.toNat
            lastErrorCode := errorCode
            updatedAt := input.now })
      (fun result => .ok (result.metaChanges = 1)) db

/-- The input of `finalizeAccountPurge`. -/
structure AccountPurgeInput extends AccountPurgeTarget where
  tombstoneEmail : String
  tombstoneMasterPasswordHash : String
  nextSecurityStamp : String
  auditEventId : String
  auditEvent : AuditEvent
  deriving DecidableEq, Repr

/-- ON DELETE CASCADE of `cipher_attachments` and `collection_ciphers`. -/
def cascadeCipherDelete (deleted : List Cipher) (db : Db) : Db × Nat :=
  let attachments :=
    Db.cipherAttachmentsIn.nestedDelete (fun a => ∃ c ∈ deleted, a.cipherId = c.id) db
  let mappings := Db.collectionCiphersIn.nestedDelete (fun m => ∃ c ∈ deleted, m.cipherId = c.id)
    attachments.1
  (mappings.1, attachments.2 + mappings.2)

/-- ON DELETE SET NULL of `ciphers.folder_id`. -/
def clearFolder (deleted : List Folder) : Db → Db × Nat :=
  Db.ciphersIn.nestedUpdate (fun c => ∃ f ∈ deleted, c.folderId = some f.id)
    fun c => { c with folderId := none }

/-- ON DELETE CASCADE of `refresh_tokens.device_id`, and what that deletion sets NULL. -/
def cascadeDeviceDelete (deleted : List Device) (db : Db) : Db × Nat :=
  let tokens := db.refreshTokens.rows.filter fun t => ∃ d ∈ deleted, t.deviceId = d.id
  let cascade := Db.refreshTokensIn.nestedDelete (fun t => ∃ d ∈ deleted, t.deviceId = d.id) db
  let cleared := clearRotatedFrom tokens cascade.1
  (cleared.1, cascade.2 + cleared.2)

namespace AccountPurgeInput

variable (input : AccountPurgeInput)

/-- The deletion the batch may seal. -/
def Sealable (db : Db) (d : AccountDeletion) : Prop :=
  input.Deletion (· = .purgingR2) d ∧ d.personalR2DeletedCount = d.personalR2ExpectedCount ∧
    ¬ HasLastConfirmedOwnerMembership db input.userId ∧
    d.personalR2ExpectedCount = personalAttachmentCount db d.userId

instance (db : Db) : DecidablePred (input.Sealable db) := fun _ =>
  inferInstanceAs (Decidable (_ ∧ _))

/-- `sealedGuard`. -/
def Sealed (db : Db) : Prop :=
  ∃ d ∈ db.accountDeletions.rows, input.Deletion (· = .purgingR2) d ∧
    d.personalR2DeletedCount = d.personalR2ExpectedCount ∧
    d.purgeOperationId = some input.auditEventId

instance (db : Db) : Decidable (input.Sealed db) :=
  inferInstanceAs (Decidable (∃ d ∈ db.accountDeletions.rows, _))

/-- `tombstonedGuard`. -/
def Tombstoned (db : Db) : Prop :=
  ∃ d ∈ db.accountDeletions.rows, input.Deletion (· = .tombstoned) d ∧
    d.tombstonedAt = some input.now

instance (db : Db) : Decidable (input.Tombstoned db) :=
  inferInstanceAs (Decidable (∃ d ∈ db.accountDeletions.rows, _))

/-- What is left of the account. -/
def tombstone (u : User) : User :=
  { u with
    email := input.tombstoneEmail
    emailNormalized := input.tombstoneEmail
    emailVerifiedAt := none
    displayName := none
    masterPasswordHash := input.tombstoneMasterPasswordHash
    userKey := none
    publicKey := none
    privateKey := none
    equivalentDomains := "[]"
    excludedGlobalEquivalentDomains := "[]"
    securityStamp := input.nextSecurityStamp
    revisionDate := input.now
    loginFailedCount := 0
    loginFailedAt := none
    loginLockedUntil := none
    updatedAt := input.now }

/-- The purge operation is written into the deletion. -/
def sealDeletion : Statement Db :=
  Db.accountDeletionsIn.updateReturning (fun db _ => input.Sealable db)
    (fun _ d => { d with purgeOperationId := some input.auditEventId, updatedAt := input.now })
    fun d => [[.integer d.personalR2ExpectedCount]]

/-- The vault of the account: the folders of the organization's ciphers, and the personal ciphers
with their attachments and folders. -/
def purgeVault : List (Statement Db) :=
  [Db.ciphersIn.update
      (fun db _ c => c.userId = input.userId ∧ c.organizationId ≠ none ∧ input.Sealed db)
      fun _ c => { c with folderId := none },
    Db.cipherAttachmentsIn.delete
      (fun db _ a => PersonalAttachment db input.userId a ∧ input.Sealed db),
    Db.ciphersIn.deleteTriggering
      (fun db _ c => c.userId = input.userId ∧ c.organizationId = none ∧ input.Sealed db)
      (fun _ => []) cascadeCipherDelete,
    Db.foldersIn.deleteTriggering (fun db _ f => f.userId = input.userId ∧ input.Sealed db)
      (fun _ => []) clearFolder]

/-- The sessions and credentials of the account, its TOTP factor the last of them. -/
def purgeCredentials : List (Statement Db) :=
  [Db.refreshTokensIn.deleteTriggering (fun db _ t => t.userId = input.userId ∧ input.Sealed db)
      (fun _ => []) clearRotatedFrom,
    Db.devicesIn.deleteTriggering (fun db _ d => d.userId = input.userId ∧ input.Sealed db)
      (fun _ => []) cascadeDeviceDelete,
    Db.authRequestsIn.delete (fun db _ a => a.userId = some input.userId ∧ input.Sealed db),
    Db.accountLifecycleTokensIn.delete (fun db _ t => t.userId = input.userId ∧ input.Sealed db),
    Db.wrapperHistoryIn.delete (fun db _ w => w.userId = input.userId ∧ input.Sealed db),
    Db.totpChallengesIn.delete (fun db _ t => t.userId = input.userId ∧ input.Sealed db)]

/-- The TOTP factor of the account. -/
def purgeFactor : Statement Db :=
  Db.userTotpIn.deleteTriggering (fun db _ t => t.userId = input.userId ∧ input.Sealed db)
    (fun _ => []) invalidateSessionMfaOnTotpDelete

/-- The account in its organizations. -/
def purgeMemberships : List (Statement Db) :=
  [Db.organizationGroupUsersIn.delete
      (fun db _ g => (∃ m ∈ db.organizationUsers.rows, m.userId = some input.userId ∧
        g.organizationUserId = m.id) ∧ input.Sealed db),
    Db.organizationUsersIn.update (fun db _ m => m.userId = some input.userId ∧ input.Sealed db)
      fun _ m =>
        { m with
          email := input.tombstoneEmail
          orgKey := none
          permissions := none
          updatedAt := input.now }]

/-- The account itself, and the end of the deletion. -/
def finish : List (Statement Db) :=
  [Db.usersIn.updateTriggering
      (fun db _ u => u.id = input.userId ∧ u.disabledAt ≠ none ∧ input.Sealed db)
      (fun _ => input.tombstone) (fun u => [[.text u.id]]) invalidateStaleUserKeyId,
    Db.accountDeletionsIn.update
      (fun _ _ d => input.Deletion (· = .purgingR2) d ∧ d.updatedAt = input.now)
      fun _ d =>
        { d with state := .tombstoned, tombstonedAt := some input.now, updatedAt := input.now },
    auditStatement input.auditEvent input.auditEventId fun db _ => input.Tombstoned db]

/-- The batch of `finalizeAccountPurge`. -/
def batch : List (Statement Db) :=
  input.sealDeletion :: input.purgeVault ++ input.purgeCredentials ++ input.purgeFactor ::
    input.purgeMemberships ++ input.finish

/-- The reading of the batch; whether the account is tombstoned. -/
def interpret (results : List StatementResult) : Except String Bool :=
  let changes (i : Nat) := (results[i]?.map StatementResult.metaChanges).getD 0
  let rows (i : Nat) := (results[i]?.map StatementResult.rows).getD []
  if changes 0 = 0 then
    if ∃ result ∈ results.drop 1, result.metaChanges ≠ 0 then
      .error "account purge finalization guard invariant was violated"
    else .ok false
  else
    match rows 0 with
    | [[.integer expected]] =>
      if maxSafeInteger < expected ∨ changes 2 ≠ expected ∨ rows 14 ≠ [[.text input.userId]] ∨
          changes 15 ≠ 1 ∨ changes 16 ≠ 1 then
        .error "account purge finalization did not commit once"
      else .ok true
    | _ => .error "account purge finalization did not commit once"

end AccountPurgeInput

/-- `finalizeAccountPurge`. -/
def finalizeAccountPurge (input : AccountPurgeInput) (db : Db) : Db × Except Failure Bool :=
  commit input.batch input.interpret db

end HonoWarden
