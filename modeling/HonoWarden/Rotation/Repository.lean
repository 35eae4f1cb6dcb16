import HonoWarden.Credential.Repository
import HonoWarden.Rotation.Snapshot

/-!
# Committing a rotation

Model of the writing half of `src/repositories/user-key-rotation-repository.ts` with the eleven
statements of `user-key-rotation-sql.ts`, and of `rotateUserKeyGeneration`.

The first statement writes the account when its row is as the summary had it, when no row of the
vault differs from its manifest (`HoldsManifest`), and when neither new wrapper is recorded; the
other ten ask for the generation it leaves. The results are read after the batch has committed, and
a result that is not one of a whole rotation is thrown.

A manifest is the text `JSON.stringify` writes and `json_each` reads back; here it is the list.
-/

namespace HonoWarden

open Relational

/-! ## Manifests -/

/-- An element of `currentFolders`. -/
structure FolderEntry where
  id : String
  name : String
  revisionDate : Timestamp
  deriving DecidableEq, Repr

/-- An element of `currentCiphers`. -/
structure CipherEntry where
  id : String
  folderId : Option String
  type : Int
  favorite : Bool
  encryptedJson : String
  revisionDate : Timestamp
  deriving DecidableEq, Repr

/-- An element of `currentAttachments`. -/
structure AttachmentEntry where
  id : String
  cipherId : String
  objectKey : String
  fileName : String
  attachmentKey : String
  size : Nat
  contentType : Option String
  revisionDate : Timestamp
  deriving DecidableEq, Repr

/-- An element of `currentTrustedDevices`. -/
structure DeviceEntry where
  id : String
  identifier : String
  revokedAt : Option Timestamp
  encryptedUserKey : Option String
  encryptedPublicKey : Option String
  encryptedPrivateKey : Option String
  deriving DecidableEq, Repr

/-- An element of `nextCiphers`. -/
structure NextCipher where
  id : String
  encryptedJson : String
  deriving DecidableEq, Repr

/-- An element of `nextAttachments`. -/
structure NextAttachment where
  id : String
  fileName : String
  attachmentKey : String
  deriving DecidableEq, Repr

def Folder.entry (f : Folder) : FolderEntry := ⟨f.id, f.encryptedName, f.revisionDate⟩

def Cipher.entry (c : Cipher) : CipherEntry :=
  ⟨c.id, c.folderId, c.type, c.favorite, c.encryptedJson, c.revisionDate⟩

def CipherAttachment.entry (a : CipherAttachment) : AttachmentEntry :=
  ⟨a.id, a.cipherId, a.objectKey, a.fileName, a.attachmentKey, a.size, a.contentType,
    a.revisionDate⟩

def Device.entry (d : Device) : DeviceEntry :=
  ⟨d.id, d.identifier, d.revokedAt, d.encryptedUserKey, d.encryptedPublicKey,
    d.encryptedPrivateKey⟩

/-- `RotationManifests`. -/
structure RotationManifests where
  currentFolders : List FolderEntry
  currentCiphers : List CipherEntry
  currentAttachments : List AttachmentEntry
  currentTrustedDevices : List DeviceEntry
  nextFolders : List UserKeyRotationFolder
  nextCiphers : List NextCipher
  nextAttachments : List NextAttachment
  nextTrustedDevices : List UserKeyRotationTrustedDevice
  deriving DecidableEq, Repr

/-- The elements of `nextCiphers`. -/
def UserKeyRotationRequest.nextCiphers (request : UserKeyRotationRequest) : List NextCipher :=
  request.ciphers.map fun c => ⟨c.id, c.encryptedJson⟩

/-- The elements of `nextAttachments`. -/
def UserKeyRotationRequest.nextAttachments (request : UserKeyRotationRequest) :
    List NextAttachment :=
  request.ciphers.flatMap fun c => c.attachments.map fun a => ⟨a.id, a.fileName, a.attachmentKey⟩

/-- The manifests `buildRotationManifests` serializes. -/
def rotationManifests (snapshot : UserKeyRotationSnapshot) (request : UserKeyRotationRequest)
    (trustedDevices : List UserKeyRotationTrustedDevice) : RotationManifests where
  currentFolders := snapshot.folders.map Folder.entry
  currentCiphers := snapshot.ciphers.map Cipher.entry
  currentAttachments := snapshot.attachments.map CipherAttachment.entry
  currentTrustedDevices :=
    (snapshot.trustedDevices ++ snapshot.revokedDeviceKeys).map Device.entry
  nextFolders := request.folders
  nextCiphers := request.nextCiphers
  nextAttachments := request.nextAttachments
  nextTrustedDevices := trustedDevices

section Texts

variable (C : Codec)

def Json.nullable (text : Option String) : Json := text.elim .null .string

def FolderEntry.json (e : FolderEntry) : Json :=
  .object [("id", .string e.id), ("name", .string e.name),
    ("revisionDate", .string (C.toISOString e.revisionDate))]

def CipherEntry.json (e : CipherEntry) : Json :=
  .object [("id", .string e.id), ("folderId", .nullable e.folderId), ("type", .number e.type),
    ("favorite", .bool e.favorite), ("encryptedJson", .string e.encryptedJson),
    ("revisionDate", .string (C.toISOString e.revisionDate))]

def AttachmentEntry.json (e : AttachmentEntry) : Json :=
  .object [("id", .string e.id), ("cipherId", .string e.cipherId),
    ("objectKey", .string e.objectKey), ("fileName", .string e.fileName),
    ("attachmentKey", .string e.attachmentKey), ("size", .number e.size),
    ("contentType", .nullable e.contentType),
    ("revisionDate", .string (C.toISOString e.revisionDate))]

def DeviceEntry.json (e : DeviceEntry) : Json :=
  .object [("id", .string e.id), ("identifier", .string e.identifier),
    ("revokedAt", .nullable (e.revokedAt.map fun time => C.toISOString time)),
    ("encryptedUserKey", .nullable e.encryptedUserKey),
    ("encryptedPublicKey", .nullable e.encryptedPublicKey),
    ("encryptedPrivateKey", .nullable e.encryptedPrivateKey)]

def UserKeyRotationFolder.json (e : UserKeyRotationFolder) : Json :=
  .object [("id", .string e.id), ("name", .string e.name)]

def NextCipher.json (e : NextCipher) : Json :=
  .object [("id", .string e.id), ("encryptedJson", .string e.encryptedJson)]

def NextAttachment.json (e : NextAttachment) : Json :=
  .object [("id", .string e.id), ("fileName", .string e.fileName),
    ("attachmentKey", .string e.attachmentKey)]

def UserKeyRotationTrustedDevice.json (e : UserKeyRotationTrustedDevice) : Json :=
  .object [("id", .string e.id), ("encryptedPublicKey", .string e.encryptedPublicKey),
    ("encryptedUserKey", .string e.encryptedUserKey)]

/-- `serializeManifest`, of each. -/
def RotationManifests.texts (m : RotationManifests) : List String :=
  [m.currentFolders.map (FolderEntry.json C), m.currentCiphers.map (CipherEntry.json C),
    m.currentAttachments.map (AttachmentEntry.json C),
    m.currentTrustedDevices.map (DeviceEntry.json C),
    m.nextFolders.map UserKeyRotationFolder.json, m.nextCiphers.map NextCipher.json,
    m.nextAttachments.map NextAttachment.json,
    m.nextTrustedDevices.map UserKeyRotationTrustedDevice.json].map fun items =>
      C.jsonStringify (.array items)

/-- `buildRotationManifests`: every manifest is short enough to be bound. -/
def buildRotationManifests (snapshot : UserKeyRotationSnapshot) (request : UserKeyRotationRequest)
    (trustedDevices : List UserKeyRotationTrustedDevice) : Option RotationManifests :=
  let manifests := rotationManifests snapshot request trustedDevices
  if ∀ text ∈ manifests.texts C,
      jsLength text ≤ userKeyRotationRepositoryPolicy.maxManifestValueLength ∧
        jsLength text ≤ userKeyRotationRepositoryPolicy.maxBoundValueLength then
    some manifests
  else none

end Texts

/-! ## Statements -/

section Statements

variable (input : RotateUserKeyGenerationInput) (snapshot : RotationSnapshot)
  (manifests : RotationManifests)

namespace RotateUserKeyGenerationInput

/-- The ten later statements ask for the generation the first one writes. -/
def Committed (db : Db) : Prop :=
  AtGeneration input.userId input.nextSecurityStamp input.nextRevisionDate db

instance : DecidablePred input.Committed := fun _ =>
  inferInstanceAs (Decidable (AtGeneration _ _ _ _))

/-- The event asks for an account that is not disabled, too. -/
def CommittedEnabled (db : Db) : Prop :=
  ∃ u ∈ db.users.rows, u.id = input.userId ∧ u.disabledAt = none ∧
    u.securityStamp = input.nextSecurityStamp ∧ u.revisionDate = input.nextRevisionDate

instance : DecidablePred input.CommittedEnabled := fun db =>
  inferInstanceAs (Decidable (∃ u ∈ db.users.rows, _))

/-- The account with its next keys. -/
def rotate (u : User) : User :=
  { u with
    masterPasswordHash := input.request.nextMasterKeyAuthenticationHash
    userKey := some input.request.nextUserKey
    privateKey := some input.request.wrappedPrivateKey
    securityStamp := input.nextSecurityStamp
    revisionDate := input.nextRevisionDate
    updatedAt := input.nextRevisionDate
    userKeyId := input.request.newUserKeyId }

/-- A folder with its next name. -/
def rotateFolder (item : UserKeyRotationFolder) (f : Folder) : Folder :=
  { f with
    encryptedName := item.name
    revisionDate := input.nextRevisionDate
    updatedAt := input.nextRevisionDate }

/-- A cipher with its next text. -/
def rotateCipher (item : NextCipher) (c : Cipher) : Cipher :=
  { c with
    encryptedJson := item.encryptedJson
    revisionDate := input.nextRevisionDate
    updatedAt := input.nextRevisionDate }

/-- An attachment with its next name and key. -/
def rotateAttachment (item : NextAttachment) (a : CipherAttachment) : CipherAttachment :=
  { a with
    fileName := item.fileName
    attachmentKey := item.attachmentKey
    revisionDate := input.nextRevisionDate
    updatedAt := input.nextRevisionDate }

/-- A device with its next keys; its private key is wrapped by the device and stays. -/
def rotateDevice (item : UserKeyRotationTrustedDevice) (d : Device) : Device :=
  { d with
    encryptedPublicKey := some item.encryptedPublicKey
    encryptedUserKey := some item.encryptedUserKey
    updatedAt := input.nextRevisionDate }

/-- A device without keys. -/
def clearDevice (d : Device) : Device :=
  { d with
    encryptedUserKey := none
    encryptedPublicKey := none
    encryptedPrivateKey := none
    updatedAt := input.nextRevisionDate }

end RotateUserKeyGenerationInput

/-- The vault is as the manifests say. -/
def VaultUnchanged (db : Db) (userId : String) : Prop :=
  HoldsManifest (fun f => f.deletedAt = none) Folder.entry FolderEntry.id
      (personalFolders db userId) manifests.currentFolders ∧
    HoldsManifest (fun c => c.deletedAt = none ∧ c.cipherKey = none) Cipher.entry CipherEntry.id
      (personalCiphers db userId) manifests.currentCiphers ∧
    HoldsManifest (fun a => a.contentType ≠ none) CipherAttachment.entry AttachmentEntry.id
      (personalAttachments db userId) manifests.currentAttachments ∧
    HoldsManifest (fun _ => True) Device.entry DeviceEntry.id (keyedDevices db userId)
      manifests.currentTrustedDevices

instance (db : Db) (userId : String) : Decidable (VaultUnchanged manifests db userId) :=
  inferInstanceAs (Decidable (_ ∧ _))

/-- The WHERE of `updateUserGenerationSql`. -/
def RotatableAccount (db : Db) (u : User) : Prop :=
  u.id = input.userId ∧ u.disabledAt = none ∧
    u.masterPasswordHash = input.request.oldMasterKeyAuthenticationHash ∧
    u.emailNormalized = snapshot.summary.user.emailNormalized ∧
    u.kdfAlgorithm = snapshot.summary.user.kdfAlgorithm ∧
    u.kdfIterations = snapshot.summary.user.kdfIterations ∧
    u.kdfMemory = snapshot.summary.user.kdfMemory ∧
    u.kdfParallelism = snapshot.summary.user.kdfParallelism ∧
    (u.userKey ≠ none ∧ u.userKey = snapshot.summary.user.userKey) ∧
    (u.publicKey ≠ none ∧ u.publicKey = snapshot.summary.user.publicKey) ∧
    (u.privateKey ≠ none ∧ u.privateKey = snapshot.summary.user.privateKey) ∧
    u.securityStamp = input.expectedSecurityStamp ∧
    u.revisionDate = input.expectedRevisionDate ∧ VaultUnchanged manifests db u.id ∧
    ¬ WrapperRecorded db u.id snapshot.fingerprints.nextUserKey ∧
    ¬ WrapperRecorded db u.id snapshot.fingerprints.nextPrivateKey

instance (db : Db) : DecidablePred (RotatableAccount input snapshot manifests db) := fun _ =>
  inferInstanceAs (Decidable (_ ∧ _))

/-- `updateUserGenerationSql`. -/
def updateUserGeneration : Statement Db :=
  Db.usersIn.updateTriggering (fun db _ => RotatableAccount input snapshot manifests db)
    (fun _ => input.rotate) (fun u => [[.text u.id]]) invalidateStaleUserKeyId

/-- The wrappers of the history. -/
def WrapperFingerprints.wrappers (f : WrapperFingerprints) : List CredentialWrapper :=
  [⟨.userKey, f.currentUserKey⟩, ⟨.privateKey, f.currentPrivateKey⟩, ⟨.userKey, f.nextUserKey⟩,
    ⟨.privateKey, f.nextPrivateKey⟩]

def recordRotation : Statement Db :=
  insertCredentialWrapperHistory snapshot.fingerprints.wrappers input.userId input.nextRevisionDate
    input.nextSecurityStamp input.nextRevisionDate

/-- `updateFoldersSql`. -/
def updateFolders : Statement Db :=
  Db.foldersIn.update
    (fun db _ f => (f.userId = input.userId ∧ f.deletedAt = none ∧
      f.id ∈ manifests.nextFolders.map UserKeyRotationFolder.id) ∧ input.Committed db)
    fun _ => rewriteFrom Folder.id UserKeyRotationFolder.id input.rotateFolder
      manifests.nextFolders

/-- `updateCiphersSql`. -/
def updateCiphers : Statement Db :=
  Db.ciphersIn.update
    (fun db _ c => (c.userId = input.userId ∧ c.organizationId = none ∧ c.deletedAt = none ∧
      c.id ∈ manifests.nextCiphers.map NextCipher.id) ∧ input.Committed db)
    fun _ => rewriteFrom Cipher.id NextCipher.id input.rotateCipher manifests.nextCiphers

/-- `updateAttachmentsSql`. -/
def updateAttachments : Statement Db :=
  Db.cipherAttachmentsIn.update
    (fun db _ a => (a.userId = input.userId ∧ a.contentType ≠ none ∧
      a.id ∈ manifests.nextAttachments.map NextAttachment.id) ∧ input.Committed db)
    fun _ => rewriteFrom CipherAttachment.id NextAttachment.id input.rotateAttachment
      manifests.nextAttachments

/-- `updateTrustedDevicesSql`. -/
def updateTrustedDevices : Statement Db :=
  Db.devicesIn.update
    (fun db _ d => (d.userId = input.userId ∧ d.revokedAt = none ∧ d.Complete ∧
      d.id ∈ manifests.nextTrustedDevices.map UserKeyRotationTrustedDevice.id) ∧
      input.Committed db)
    fun _ => rewriteFrom Device.id UserKeyRotationTrustedDevice.id input.rotateDevice
      manifests.nextTrustedDevices

/-- `clearRevokedDeviceKeysSql`. -/
def clearRevokedDeviceKeys : Statement Db :=
  Db.devicesIn.update
    (fun db _ d => (d.userId = input.userId ∧ d.revokedAt ≠ none ∧ d.Keyed) ∧ input.Committed db)
    fun _ => input.clearDevice

/-- `insertAuditEventSql`. -/
def insertAuditEvent : Statement Db :=
  auditStatement input.auditEvent input.auditEventId fun db _ => input.CommittedEnabled db

/-- `buildMutationStatements`. -/
def mutationStatements : List (Statement Db) :=
  [updateUserGeneration input snapshot manifests, recordRotation input snapshot,
    updateFolders input manifests, updateCiphers input manifests, updateAttachments input manifests,
    updateTrustedDevices input manifests, clearRevokedDeviceKeys input] ++
    (endSessions input.userId input.nextRevisionDate input.Committed ++ [insertAuditEvent input])

/-- The texts that are bound, beside the manifests. -/
def boundTexts : List String :=
  let user := snapshot.summary.user
  [input.request.nextMasterKeyAuthenticationHash, input.request.nextUserKey,
    input.request.wrappedPrivateKey, input.nextSecurityStamp, input.request.newUserKeyId.getD "",
    input.userId, input.request.oldMasterKeyAuthenticationHash, user.emailNormalized,
    user.kdfAlgorithm, user.userKey.getD "", user.publicKey.getD "", user.privateKey.getD "",
    input.expectedSecurityStamp, snapshot.fingerprints.nextUserKey,
    snapshot.fingerprints.nextPrivateKey, input.auditEventId, input.auditEvent.name,
    input.auditEvent.outcome, input.auditEvent.requestId]

/-! ## Results -/

/-- The history says that it recorded the new wrappers, and of the current ones those that were not
recorded when they were read. -/
def RotationRecorded (wrapper : StatementResult) : Prop :=
  wrapper.metaChanges = 4 - snapshot.currentHistoryCount ∧
    wrapper.rows.length = 4 - snapshot.currentHistoryCount ∧
    (wrapper.rows.map wrapperSha256).Nodup ∧
    (∀ row ∈ wrapper.rows,
      (wrapperKind row = some "user_key" ∨ wrapperKind row = some "private_key") ∧
      ∃ sha256 ∈ snapshot.fingerprints.values, wrapperSha256 row = some sha256) ∧
    some snapshot.fingerprints.nextUserKey ∈ wrapper.rows.map wrapperSha256 ∧
    some snapshot.fingerprints.nextPrivateKey ∈ wrapper.rows.map wrapperSha256

instance : DecidablePred (RotationRecorded snapshot) := fun _ =>
  inferInstanceAs (Decidable (_ ∧ _))

/-- `interpretMutationResults`. -/
def interpretMutationResults :
    List StatementResult → Except String RotateUserKeyGenerationResult
  | [user, wrapper, folder, cipher, attachment, trustedDevice, revokedDeviceKey, device, refresh,
      authRequest, audit] =>
    if user.rows = [] then
      if ∃ result ∈ [wrapper, folder, cipher, attachment, trustedDevice, revokedDeviceKey, device,
          refresh, authRequest, audit], result.metaChanges ≠ 0 then
        .error "user key rotation guard invariant was violated"
      else .ok .conflict
    else if user.rows ≠ [[.text input.userId]] ∨ user.metaChanges ≠ 1 ∨
        ¬ RotationRecorded snapshot wrapper ∨
        folder.metaChanges ≠ input.request.folders.length ∨
        cipher.metaChanges ≠ input.request.ciphers.length ∨
        attachment.metaChanges ≠
          (input.request.ciphers.map fun cipher => cipher.attachments.length).sum ∨
        trustedDevice.metaChanges ≠ input.request.trustedDevices.length ∨
        revokedDeviceKey.metaChanges ≠ snapshot.summary.revokedDeviceKeyCount ∨
        audit.metaChanges ≠ 1 then
      .error "user key rotation batch did not commit one exact generation"
    else .ok (.rotated folder.metaChanges cipher.metaChanges attachment.metaChanges
      trustedDevice.metaChanges device.metaChanges refresh.metaChanges authRequest.metaChanges)
  | _ => .error "user key rotation batch returned an invalid result count"

/-- `validateRotationInput` does not throw. -/
def ValidRotationInput : Prop :=
  input.userId ≠ "" ∧ input.expectedSecurityStamp ≠ "" ∧ input.nextSecurityStamp ≠ "" ∧
    input.auditEventId ≠ "" ∧ input.nextSecurityStamp ≠ input.expectedSecurityStamp ∧
    input.expectedRevisionDate < input.nextRevisionDate ∧
    input.auditEvent.name = "account.keys.rotate" ∧ input.auditEvent.outcome = "success" ∧
    input.auditEvent.occurredAt = input.nextRevisionDate ∧
    input.auditEvent.actorUserId = some input.userId ∧
    input.auditEvent.targetType = some "account" ∧ input.auditEvent.targetId = some input.userId

instance : Decidable (ValidRotationInput input) := inferInstanceAs (Decidable (_ ∧ _))

end Statements

/-- `rotateUserKeyGeneration`: `reads` is what the snapshot queries see, `db` what the batch does. -/
def rotateUserKeyGeneration (C : Codec) (fingerprint : String → String)
    (input : RotateUserKeyGenerationInput) (reads : SnapshotReads) (db : Db) :
    Db × Except Failure RotateUserKeyGenerationResult :=
  if ¬ ValidRotationInput input then
    (db, .error (.thrown "user key rotation input generation is invalid"))
  else if userKeyRotationRepositoryPolicy.snapshotQueries +
      userKeyRotationRepositoryPolicy.mutationStatements >
        userKeyRotationRepositoryPolicy.maxQueriesPerInvocation then
    (db, .ok (.overBudget .queryCount))
  else
    match readUserKeyRotationSnapshot C fingerprint input reads with
    | .error message => (db, .error (.thrown message))
    | .ok (.refused result) => (db, .ok result)
    | .ok (.ready snapshot) =>
      let request := input.request.toUserKeyRotationRequest
      match validateSnapshotAgainstRequest C input.userId snapshot.toUserKeyRotationSnapshot
          request with
      | .conflict => (db, .ok .conflict)
      | .storedCipherInvalid => (db, .ok (.unsupportedState .storedCipherInvalid))
      | .valid trustedDevices =>
        match buildRotationManifests C snapshot.toUserKeyRotationSnapshot request
            trustedDevices with
        | none => (db, .ok (.overBudget .manifestBytes))
        | some manifests =>
          if ExceedsBoundLength (boundTexts input snapshot) then
            (db, .error (.thrown statementBudgetMessage))
          else commit (mutationStatements input snapshot manifests)
            (interpretMutationResults input snapshot) db

end HonoWarden
