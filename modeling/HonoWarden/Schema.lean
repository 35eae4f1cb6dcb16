import HonoWarden.Relational.Tally

/-!
# The D1 schema

The tables of `migrations/` that the modelled repositories read or write, one row structure for
each table, with its primary key and UNIQUE constraints as the `Keyed` instance. A nullable column
is an `Option`, a 0/1 column a `Bool`, a column with a CHECK list an enumeration.

Timestamps are the canonical `Date.toISOString` texts of the source. All have the same length, so
the text order SQL uses is the order of the instants, and `Timestamp` counts milliseconds.
Columns that no modelled statement reads or writes are left out.
-/

namespace HonoWarden

open Relational

/-- An instant, in milliseconds; `<` is the text order of `toISOString`. -/
abbrev Timestamp := Nat

/-- `users`. -/
structure User where
  id : String
  email : String := ""
  emailNormalized : String := ""
  emailVerifiedAt : Option Timestamp := none
  displayName : Option String := none
  kdfAlgorithm : String := "pbkdf2-sha256"
  kdfIterations : Int := 600000
  kdfMemory : Option Int := none
  kdfParallelism : Option Int := none
  masterPasswordHash : String := ""
  userKey : Option String := none
  userKeyId : Option String := none
  publicKey : Option String := none
  privateKey : Option String := none
  equivalentDomains : String := "[]"
  excludedGlobalEquivalentDomains : String := "[]"
  loginFailedCount : Nat := 0
  loginFailedAt : Option Timestamp := none
  loginLockedUntil : Option Timestamp := none
  securityStamp : String := ""
  revisionDate : Timestamp := 0
  disabledAt : Option Timestamp := none
  updatedAt : Timestamp := 0
  deriving DecidableEq, Repr

/-- `devices` (migrations 0001, 0005, 0023 and 0027). -/
structure Device where
  id : String
  userId : String
  identifier : String
  name : Option String := none
  type : Option Int := none
  lastSeenAt : Option Timestamp := none
  revokedAt : Option Timestamp := none
  updatedAt : Timestamp := 0
  encryptedUserKey : Option String := none
  encryptedPublicKey : Option String := none
  encryptedPrivateKey : Option String := none
  sessionId : Option String := none
  mfaTotpCredentialGeneration : Option String := none
  mfaVerifiedAt : Option Timestamp := none
  deriving DecidableEq, Repr

/-- `refresh_tokens` (migrations 0001 and 0023). -/
structure RefreshToken where
  id : String
  userId : String
  deviceId : String
  tokenHash : String
  rotatedFromTokenId : Option String := none
  expiresAt : Timestamp
  revokedAt : Option Timestamp := none
  sessionId : Option String := none
  deriving DecidableEq, Repr

/-- `user_totp` (migration 0027 adds the credential generation). -/
structure UserTotp where
  userId : String
  encryptedSecret : String
  enabled : Bool := false
  verifiedAt : Option Timestamp := none
  lastAcceptedStep : Option Int := none
  credentialGeneration : Option String := none
  pendingEncryptedSecret : Option String := none
  pendingCreatedAt : Option Timestamp := none
  updatedAt : Timestamp := 0
  deriving DecidableEq, Repr

/-- `auth_requests.status`. -/
inductive AuthRequestStatus where
  | pending
  | approved
  | denied
  | consumed
  | expired
  | superseded
  deriving DecidableEq, Repr

/-- `auth_requests` (migrations 0012 and 0013). -/
structure AuthRequest where
  id : String
  userId : Option String
  emailHash : String := ""
  requestType : Nat := 0
  requestDeviceIdentifier : String
  requestDeviceType : Int := 0
  requestPublicKey : String := ""
  accessCodeHash : String := ""
  status : AuthRequestStatus := .pending
  requestApproved : Option Bool := none
  approvingDeviceIdentifier : Option String := none
  encryptedResponseKey : Option String := none
  createdAt : Timestamp := 0
  responseAt : Option Timestamp := none
  consumedAt : Option Timestamp := none
  expiresAt : Timestamp := 0
  retentionDeleteAfter : Timestamp := 0
  updatedAt : Timestamp := 0
  deriving DecidableEq, Repr

/-- `organizations`. -/
structure Organization where
  id : String
  name : String := ""
  billingEmail : Option String := none
  planType : Int := 0
  publicKey : Option String := none
  privateKey : Option String := none
  enabled : Bool := true
  useTotp : Bool := true
  revisionDate : Timestamp := 0
  createdAt : Timestamp := 0
  updatedAt : Timestamp := 0
  deriving DecidableEq, Repr

/-- `organization_users` (migrations 0014, 0024 and 0029). -/
structure OrganizationUser where
  id : String
  organizationId : String
  userId : Option String := none
  email : String
  orgKey : Option String := none
  status : Int := 0
  type : Int := 2
  permissions : Option String := none
  inviteTokenHash : Option String := none
  inviteExpiresAt : Option Timestamp := none
  lastMembershipMutationId : Option String := none
  updatedAt : Timestamp := 0
  deriving DecidableEq, Repr

/-- `organization_policies`; the CHECK on `type` admits required TOTP only. -/
structure OrganizationPolicy where
  id : String
  organizationId : String
  enabled : Bool := false
  revisionDate : Timestamp := 0
  updatedAt : Timestamp := 0
  lastMutationId : Option String := none
  deriving DecidableEq, Repr

/-- A value in the JSON object of an audit event's context. -/
inductive AuditContextValue where
  | null
  | boolean (b : Bool)
  | number (n : Int)
  | text (s : String)
  | instant (t : Timestamp)
  deriving DecidableEq, Repr

/-- `AuditEvent` (`src/domain/audit.ts`); the context as the members of the object. -/
structure AuditEvent where
  schemaVersion : Nat := 1
  name : String
  outcome : String
  requestId : String
  occurredAt : Timestamp
  actorUserId : Option String := none
  actorDeviceIdentifier : Option String := none
  targetType : Option String := none
  targetId : Option String := none
  contextJson : Option (List (String × AuditContextValue)) := none
  deriving DecidableEq, Repr

/-- `audit_events`: an event under its id. -/
structure AuditEventRow extends AuditEvent where
  id : String
  deriving DecidableEq, Repr

/-- `collections`. -/
structure Collection where
  id : String
  organizationId : String
  encryptedName : String := ""
  externalId : Option String := none
  type : Int := 0
  revisionDate : Timestamp := 0
  deriving DecidableEq, Repr

/-- `collection_users`. -/
structure CollectionUser where
  collectionId : String
  organizationUserId : String
  readOnly : Bool := false
  hidePasswords : Bool := false
  manage : Bool := false
  deriving DecidableEq, Repr

/-- `collection_ciphers`. -/
structure CollectionCipher where
  collectionId : String
  cipherId : String
  deriving DecidableEq, Repr

/-- `organization_groups` (migration 0025). -/
structure OrganizationGroup where
  id : String
  organizationId : String
  name : String := ""
  revisionDate : Timestamp := 0
  lastMutationId : String := ""
  updatedAt : Timestamp := 0
  deriving DecidableEq, Repr

/-- `collection_groups`. -/
structure CollectionGroup where
  collectionId : String
  organizationId : String
  groupId : String
  readOnly : Bool := false
  hidePasswords : Bool := false
  manage : Bool := false
  deriving DecidableEq, Repr

/-- `organization_group_users`. -/
structure OrganizationGroupUser where
  groupId : String
  organizationId : String
  organizationUserId : String
  deriving DecidableEq, Repr

/-- `folders`. -/
structure Folder where
  id : String
  userId : String
  encryptedName : String
  revisionDate : Timestamp := 0
  deletedAt : Option Timestamp := none
  updatedAt : Timestamp := 0
  deriving DecidableEq, Repr

/-- `ciphers` (migrations 0001 and 0014). -/
structure Cipher where
  id : String
  userId : String
  folderId : Option String := none
  type : Int := 1
  favorite : Bool := false
  encryptedJson : String
  revisionDate : Timestamp := 0
  createdAt : Timestamp := 0
  deletedAt : Option Timestamp := none
  updatedAt : Timestamp := 0
  organizationId : Option String := none
  cipherKey : Option String := none
  deriving DecidableEq, Repr

/-- `cipher_attachments`. -/
structure CipherAttachment where
  id : String
  userId : String
  cipherId : String
  objectKey : String
  fileName : String
  attachmentKey : String
  size : Nat := 0
  contentType : Option String := none
  revisionDate : Timestamp := 0
  createdAt : Timestamp := 0
  updatedAt : Timestamp := 0
  deriving DecidableEq, Repr

/-- `account_lifecycle_tokens.purpose`. -/
inductive AccountLifecycleTokenPurpose where
  | emailChange
  | emailVerify
  | accountDelete
  deriving DecidableEq, Repr

/-- `account_lifecycle_tokens.delivery_state`. -/
inductive DeliveryState where
  | pending
  | accepted
  | failed
  deriving DecidableEq, Repr

/-- `account_lifecycle_tokens`. -/
structure AccountLifecycleToken where
  id : String
  userId : String
  purpose : AccountLifecycleTokenPurpose
  tokenDigest : String
  targetEmailNormalized : Option String := none
  credentialGeneration : String
  deliveryState : DeliveryState := .pending
  expiresAt : Timestamp
  consumedAt : Option Timestamp := none
  supersededAt : Option Timestamp := none
  updatedAt : Timestamp := 0
  deriving DecidableEq, Repr

/-- A token that was neither consumed nor superseded. -/
def AccountLifecycleToken.Active (t : AccountLifecycleToken) : Prop :=
  t.consumedAt = none ∧ t.supersededAt = none

instance : DecidablePred AccountLifecycleToken.Active := fun _ =>
  inferInstanceAs (Decidable (_ ∧ _))

/-- `account_deletions.state`. -/
inductive AccountDeletionState where
  | recoverable
  | purgeReady
  | purgingR2
  | tombstoned
  | recovered
  deriving DecidableEq, Repr

/-- `account_deletions`. -/
structure AccountDeletion where
  userId : String
  lifecycleGeneration : String
  state : AccountDeletionState
  requestedAt : Timestamp
  recoverUntil : Timestamp
  purgeStartedAt : Option Timestamp := none
  purgeOperationId : Option String := none
  tombstonedAt : Option Timestamp := none
  recoveredAt : Option Timestamp := none
  personalR2ExpectedCount : Nat := 0
  personalR2DeletedCount : Nat := 0
  lastErrorCode : Option String := none
  updatedAt : Timestamp := 0
  deriving DecidableEq, Repr

/-- `user_key_rotation_wrapper_history.wrapper_kind`. -/
inductive WrapperKind where
  | userKey
  | privateKey
  deriving DecidableEq, Repr

/-- `user_key_rotation_wrapper_history`. -/
structure WrapperHistory where
  userId : String
  wrapperKind : WrapperKind
  wrapperSha256 : String
  recordedAt : Timestamp := 0
  deriving DecidableEq, Repr

/-- `totp_challenges`. -/
structure TotpChallenge where
  id : String
  userId : String
  deriving DecidableEq, Repr

/-- `webauthn_credentials`: the keys of a passkey. -/
structure WebauthnCredential where
  id : String
  userId : String
  encryptedUserKey : Option String := none
  encryptedPublicKey : Option String := none
  encryptedPrivateKey : Option String := none
  deriving DecidableEq, Repr

/-- `personal_api_keys`. -/
structure PersonalApiKey where
  userId : String
  secretVerifier : String := ""
  deriving DecidableEq, Repr

/-- `emergency_access`: the key a grantor has wrapped for a grantee. -/
structure EmergencyAccess where
  id : String
  grantorUserId : String
  granteeUserId : Option String := none
  keyEncrypted : Option String := none
  deriving DecidableEq, Repr

/-- `sends`: the key of a Send. -/
structure Send where
  id : String
  ownerUserId : String
  encryptedKey : String
  deriving DecidableEq, Repr

/-! ## Keys -/

instance : Keyed User String where
  key := User.id
  alternate a b := a.emailNormalized = b.emailNormalized
  alternate_symm h := h.symm
  decKey _ _ := inferInstance
  decAlternate a b := inferInstanceAs (Decidable (a.emailNormalized = b.emailNormalized))

instance : Keyed Device String where
  key := Device.id
  alternate a b := a.userId = b.userId ∧ a.identifier = b.identifier
  alternate_symm h := ⟨h.1.symm, h.2.symm⟩
  decKey _ _ := inferInstance
  decAlternate a b :=
    inferInstanceAs (Decidable (a.userId = b.userId ∧ a.identifier = b.identifier))

instance : Keyed RefreshToken String where
  key := RefreshToken.id
  alternate a b := a.tokenHash = b.tokenHash
  alternate_symm h := h.symm
  decKey _ _ := inferInstance
  decAlternate a b := inferInstanceAs (Decidable (a.tokenHash = b.tokenHash))

instance : Keyed UserTotp String := .primary UserTotp.userId

/-- Two pending requests of one account for one device (`idx_auth_requests_single_pending`). -/
def AuthRequest.PendingTwice (a b : AuthRequest) : Prop :=
  (a.status = .pending ∧ b.status = .pending) ∧ a.userId ≠ none ∧ a.userId = b.userId ∧
    a.requestDeviceIdentifier = b.requestDeviceIdentifier

instance (a b : AuthRequest) : Decidable (a.PendingTwice b) :=
  inferInstanceAs (Decidable (_ ∧ _))

instance : Keyed AuthRequest String where
  key := AuthRequest.id
  alternate := AuthRequest.PendingTwice
  alternate_symm h := ⟨h.1.symm, h.2.2.1 ▸ h.2.1, h.2.2.1.symm, h.2.2.2.symm⟩
  decKey _ _ := inferInstance
  decAlternate _ _ := inferInstance

instance : Keyed Organization String := .primary Organization.id

instance : Keyed OrganizationUser String where
  key := OrganizationUser.id
  alternate a b := a.organizationId = b.organizationId ∧ a.email = b.email
  alternate_symm h := ⟨h.1.symm, h.2.symm⟩
  decKey _ _ := inferInstance
  decAlternate a b :=
    inferInstanceAs (Decidable (a.organizationId = b.organizationId ∧ a.email = b.email))

/-- An upsert of a policy resolves its conflict on `(organization_id, type)`, so that constraint
stands as the key and the id as the further one. -/
instance : Keyed OrganizationPolicy String where
  key := OrganizationPolicy.organizationId
  alternate a b := a.id = b.id
  alternate_symm h := h.symm
  decKey _ _ := inferInstance
  decAlternate a b := inferInstanceAs (Decidable (a.id = b.id))

instance : Keyed AuditEventRow String := .primary AuditEventRow.id

instance : Keyed Collection String := .primary Collection.id

instance : Keyed CollectionUser (String × String) :=
  .primary fun g => (g.collectionId, g.organizationUserId)

instance : Keyed CollectionCipher (String × String) :=
  .primary fun g => (g.collectionId, g.cipherId)

instance : Keyed OrganizationGroup String := .primary OrganizationGroup.id

instance : Keyed CollectionGroup (String × String) :=
  .primary fun g => (g.groupId, g.collectionId)

instance : Keyed OrganizationGroupUser (String × String) :=
  .primary fun g => (g.groupId, g.organizationUserId)

instance : Keyed Folder String := .primary Folder.id

instance : Keyed Cipher String := .primary Cipher.id

instance : Keyed CipherAttachment String where
  key := CipherAttachment.id
  alternate a b := a.objectKey = b.objectKey
  alternate_symm h := h.symm
  decKey _ _ := inferInstance
  decAlternate a b := inferInstanceAs (Decidable (a.objectKey = b.objectKey))

/-- One active token of a purpose for an account. -/
instance : Keyed AccountLifecycleToken String where
  key := AccountLifecycleToken.id
  alternate a b := a.tokenDigest = b.tokenDigest ∨
    (a.userId = b.userId ∧ a.purpose = b.purpose) ∧ a.Active ∧ b.Active
  alternate_symm h := h.imp Eq.symm fun h => ⟨⟨h.1.1.symm, h.1.2.symm⟩, h.2.symm⟩
  decKey _ _ := inferInstance
  decAlternate a b := inferInstanceAs (Decidable (a.tokenDigest = b.tokenDigest ∨
    (a.userId = b.userId ∧ a.purpose = b.purpose) ∧ a.Active ∧ b.Active))

instance : Keyed AccountDeletion String where
  key := AccountDeletion.userId
  alternate a b := a.lifecycleGeneration = b.lifecycleGeneration
  alternate_symm h := h.symm
  decKey _ _ := inferInstance
  decAlternate a b := inferInstanceAs (Decidable (a.lifecycleGeneration = b.lifecycleGeneration))

instance : Keyed WrapperHistory (String × String) :=
  .primary fun w => (w.userId, w.wrapperSha256)

instance : Keyed TotpChallenge String := .primary TotpChallenge.id

instance : Keyed WebauthnCredential String := .primary WebauthnCredential.id

instance : Keyed PersonalApiKey String := .primary PersonalApiKey.userId

instance : Keyed EmergencyAccess String := .primary EmergencyAccess.id

instance : Keyed Send String := .primary Send.id

/-- The database. -/
structure Db where
  users : Table User := ∅
  devices : Table Device := ∅
  refreshTokens : Table RefreshToken := ∅
  userTotp : Table UserTotp := ∅
  authRequests : Table AuthRequest := ∅
  organizations : Table Organization := ∅
  organizationUsers : Table OrganizationUser := ∅
  organizationPolicies : Table OrganizationPolicy := ∅
  auditEvents : Table AuditEventRow := ∅
  collections : Table Collection := ∅
  collectionUsers : Table CollectionUser := ∅
  organizationGroupUsers : Table OrganizationGroupUser := ∅
  folders : Table Folder := ∅
  ciphers : Table Cipher := ∅
  cipherAttachments : Table CipherAttachment := ∅
  accountLifecycleTokens : Table AccountLifecycleToken := ∅
  accountDeletions : Table AccountDeletion := ∅
  wrapperHistory : Table WrapperHistory := ∅
  totpChallenges : Table TotpChallenge := ∅
  collectionCiphers : Table CollectionCipher := ∅
  organizationGroups : Table OrganizationGroup := ∅
  collectionGroups : Table CollectionGroup := ∅
  webauthnCredentials : Table WebauthnCredential := ∅
  personalApiKeys : Table PersonalApiKey := ∅
  emergencyAccess : Table EmergencyAccess := ∅
  sends : Table Send := ∅
  deriving DecidableEq

namespace Db

abbrev usersIn : TableIn Db User where
  name := "users"
  get := Db.users
  put db t := { db with users := t }
  get_put _ _ := rfl
  put_get _ := rfl

abbrev devicesIn : TableIn Db Device where
  name := "devices"
  get := Db.devices
  put db t := { db with devices := t }
  get_put _ _ := rfl
  put_get _ := rfl

abbrev refreshTokensIn : TableIn Db RefreshToken where
  name := "refresh_tokens"
  get := Db.refreshTokens
  put db t := { db with refreshTokens := t }
  get_put _ _ := rfl
  put_get _ := rfl

abbrev userTotpIn : TableIn Db UserTotp where
  name := "user_totp"
  get := Db.userTotp
  put db t := { db with userTotp := t }
  get_put _ _ := rfl
  put_get _ := rfl

abbrev authRequestsIn : TableIn Db AuthRequest where
  name := "auth_requests"
  get := Db.authRequests
  put db t := { db with authRequests := t }
  get_put _ _ := rfl
  put_get _ := rfl

abbrev organizationsIn : TableIn Db Organization where
  name := "organizations"
  get := Db.organizations
  put db t := { db with organizations := t }
  get_put _ _ := rfl
  put_get _ := rfl

abbrev organizationUsersIn : TableIn Db OrganizationUser where
  name := "organization_users"
  get := Db.organizationUsers
  put db t := { db with organizationUsers := t }
  get_put _ _ := rfl
  put_get _ := rfl

abbrev organizationPoliciesIn : TableIn Db OrganizationPolicy where
  name := "organization_policies"
  get := Db.organizationPolicies
  put db t := { db with organizationPolicies := t }
  get_put _ _ := rfl
  put_get _ := rfl

abbrev auditEventsIn : TableIn Db AuditEventRow where
  name := "audit_events"
  get := Db.auditEvents
  put db t := { db with auditEvents := t }
  get_put _ _ := rfl
  put_get _ := rfl

abbrev collectionsIn : TableIn Db Collection where
  name := "collections"
  get := Db.collections
  put db t := { db with collections := t }
  get_put _ _ := rfl
  put_get _ := rfl

abbrev collectionUsersIn : TableIn Db CollectionUser where
  name := "collection_users"
  get := Db.collectionUsers
  put db t := { db with collectionUsers := t }
  get_put _ _ := rfl
  put_get _ := rfl

abbrev organizationGroupUsersIn : TableIn Db OrganizationGroupUser where
  name := "organization_group_users"
  get := Db.organizationGroupUsers
  put db t := { db with organizationGroupUsers := t }
  get_put _ _ := rfl
  put_get _ := rfl

abbrev foldersIn : TableIn Db Folder where
  name := "folders"
  get := Db.folders
  put db t := { db with folders := t }
  get_put _ _ := rfl
  put_get _ := rfl

abbrev ciphersIn : TableIn Db Cipher where
  name := "ciphers"
  get := Db.ciphers
  put db t := { db with ciphers := t }
  get_put _ _ := rfl
  put_get _ := rfl

abbrev cipherAttachmentsIn : TableIn Db CipherAttachment where
  name := "cipher_attachments"
  get := Db.cipherAttachments
  put db t := { db with cipherAttachments := t }
  get_put _ _ := rfl
  put_get _ := rfl

abbrev accountLifecycleTokensIn : TableIn Db AccountLifecycleToken where
  name := "account_lifecycle_tokens"
  get := Db.accountLifecycleTokens
  put db t := { db with accountLifecycleTokens := t }
  get_put _ _ := rfl
  put_get _ := rfl

abbrev accountDeletionsIn : TableIn Db AccountDeletion where
  name := "account_deletions"
  get := Db.accountDeletions
  put db t := { db with accountDeletions := t }
  get_put _ _ := rfl
  put_get _ := rfl

abbrev wrapperHistoryIn : TableIn Db WrapperHistory where
  name := "user_key_rotation_wrapper_history"
  get := Db.wrapperHistory
  put db t := { db with wrapperHistory := t }
  get_put _ _ := rfl
  put_get _ := rfl

abbrev totpChallengesIn : TableIn Db TotpChallenge where
  name := "totp_challenges"
  get := Db.totpChallenges
  put db t := { db with totpChallenges := t }
  get_put _ _ := rfl
  put_get _ := rfl

abbrev collectionCiphersIn : TableIn Db CollectionCipher where
  name := "collection_ciphers"
  get := Db.collectionCiphers
  put db t := { db with collectionCiphers := t }
  get_put _ _ := rfl
  put_get _ := rfl

abbrev organizationGroupsIn : TableIn Db OrganizationGroup where
  name := "organization_groups"
  get := Db.organizationGroups
  put db t := { db with organizationGroups := t }
  get_put _ _ := rfl
  put_get _ := rfl

abbrev collectionGroupsIn : TableIn Db CollectionGroup where
  name := "collection_groups"
  get := Db.collectionGroups
  put db t := { db with collectionGroups := t }
  get_put _ _ := rfl
  put_get _ := rfl

abbrev webauthnCredentialsIn : TableIn Db WebauthnCredential where
  name := "webauthn_credentials"
  get := Db.webauthnCredentials
  put db t := { db with webauthnCredentials := t }
  get_put _ _ := rfl
  put_get _ := rfl

abbrev personalApiKeysIn : TableIn Db PersonalApiKey where
  name := "personal_api_keys"
  get := Db.personalApiKeys
  put db t := { db with personalApiKeys := t }
  get_put _ _ := rfl
  put_get _ := rfl

abbrev emergencyAccessIn : TableIn Db EmergencyAccess where
  name := "emergency_access"
  get := Db.emergencyAccess
  put db t := { db with emergencyAccess := t }
  get_put _ _ := rfl
  put_get _ := rfl

abbrev sendsIn : TableIn Db Send where
  name := "sends"
  get := Db.sends
  put db t := { db with sends := t }
  get_put _ _ := rfl
  put_get _ := rfl

end Db

end HonoWarden
