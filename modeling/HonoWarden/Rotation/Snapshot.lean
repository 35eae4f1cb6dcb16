import HonoWarden.Credential.Generation
import HonoWarden.Relational.Manifest
import HonoWarden.Rotation.Validation

/-!
# The snapshot of a rotation

Model of the reading half of `src/repositories/user-key-rotation-repository.ts` with the six snapshot
queries of `user-key-rotation-sql.ts`, and of `matchesUserKeyRotationCredentialGeneration`
(`src/domain/user-key-rotation.ts`).

The queries are six calls, and anything may be written between two of them: `SnapshotReads` has a
database for each. `ORDER BY` orders manifests whose order nothing depends on, and is left out.

* `personalFolders`, `personalCiphers`, `personalAttachments`, `keyedDevices`: the rows of an
  account that hold ciphertext of its user key; `vaultAt` is all of them;
* `FolderEntry`, `CipherEntry`, `AttachmentEntry`, `DeviceEntry`: what a manifest says of a row.

Results:
* **`readUserKeyRotationSnapshot_ready`**: what a snapshot that is read has been checked for.
-/

namespace HonoWarden

open Relational

/-! ## The rows of the account -/

/-- The device holds a key. -/
def Device.Keyed (d : Device) : Prop :=
  d.encryptedUserKey ≠ none ∨ d.encryptedPublicKey ≠ none ∨ d.encryptedPrivateKey ≠ none

instance : DecidablePred Device.Keyed := fun _ => inferInstanceAs (Decidable (_ ∨ _))

/-- The device holds all three keys. -/
def Device.Complete (d : Device) : Prop :=
  d.encryptedUserKey ≠ none ∧ d.encryptedPublicKey ≠ none ∧ d.encryptedPrivateKey ≠ none

instance : DecidablePred Device.Complete := fun _ => inferInstanceAs (Decidable (_ ∧ _))

theorem Device.Complete.keyed {d : Device} (h : d.Complete) : d.Keyed := Or.inl h.1

/-- The cipher is a personal one of the account. -/
def Cipher.PersonalOf (userId : String) (c : Cipher) : Prop :=
  c.userId = userId ∧ c.organizationId = none

instance (userId : String) : DecidablePred (Cipher.PersonalOf userId) := fun _ =>
  inferInstanceAs (Decidable (_ ∧ _))

/-- The attachment is one of a personal cipher of the account. -/
def CipherAttachment.PersonalOf (db : Db) (userId : String) (a : CipherAttachment) : Prop :=
  a.userId = userId ∧ ∃ c ∈ db.ciphers.rows, c.id = a.cipherId ∧ c.userId = a.userId ∧
    c.organizationId = none

instance (db : Db) (userId : String) : DecidablePred (CipherAttachment.PersonalOf db userId) :=
  fun _ => inferInstanceAs (Decidable (_ ∧ _))

section Rows

variable (db : Db) (userId : String)

def personalFolders : List Folder := db.folders.rows.filter fun f => f.userId = userId

def personalCiphers : List Cipher := db.ciphers.rows.filter (Cipher.PersonalOf userId)

def personalAttachments : List CipherAttachment :=
  db.cipherAttachments.rows.filter (CipherAttachment.PersonalOf db userId)

def keyedDevices : List Device := db.devices.rows.filter fun d => d.userId = userId ∧ d.Keyed

/-! ## Queries -/

/-- `snapshotFoldersSql`. -/
def snapshotFolders : List Folder :=
  db.folders.rows.filter fun f => f.userId = userId ∧ f.deletedAt = none

/-- `snapshotAttachmentsSql`. -/
def snapshotAttachments : List CipherAttachment :=
  db.cipherAttachments.rows.filter fun a => a.userId = userId ∧
    (∃ c ∈ db.ciphers.rows, c.id = a.cipherId ∧ c.userId = a.userId ∧ c.organizationId = none ∧
      c.deletedAt = none) ∧ a.contentType ≠ none

/-- `snapshotTrustedDevicesSql`. -/
def snapshotTrustedDevices : List Device :=
  db.devices.rows.filter fun d => d.userId = userId ∧
    (d.revokedAt = none ∧ d.Complete ∨ d.revokedAt ≠ none ∧ d.Keyed)

/-- `snapshotWrapperHistorySql`. -/
def snapshotWrapperHistory (digests : List String) : List WrapperHistory :=
  db.wrapperHistory.rows.filter fun w => w.userId = userId ∧ w.wrapperSha256 ∈ digests

end Rows

/-- `SnapshotSummaryRow`: the account, and what it has. -/
structure SnapshotSummaryRow where
  user : User
  activeFolderCount : Nat
  deletedFolderCount : Nat
  folderBytes : Nat
  activeCipherCount : Nat
  deletedCipherCount : Nat
  personalCipherKeyCount : Nat
  cipherBytes : Nat
  uploadedAttachmentCount : Nat
  pendingAttachmentCount : Nat
  attachmentBytes : Nat
  trustedDeviceCount : Nat
  incompleteTrustedDeviceCount : Nat
  revokedDeviceKeyCount : Nat
  trustedDeviceBytes : Nat
  deriving DecidableEq, Repr

/-- `length(COALESCE(text, ''))`. -/
def coalescedLength (text : Option String) : Nat := (text.getD "").length

/-- `snapshotSummarySql`. -/
def snapshotSummary (C : Codec) (db : Db) (userId : String) : Option SnapshotSummaryRow :=
  (db.users.rows.find? fun u => u.id = userId).map fun user =>
    let folders := personalFolders db userId
    let ciphers := personalCiphers db userId
    let attachments := personalAttachments db userId
    let devices := db.devices.rows.filter fun d => d.userId = userId
    { user
      activeFolderCount := folders.countP fun f => f.deletedAt = none
      deletedFolderCount := folders.countP fun f => f.deletedAt ≠ none
      folderBytes := (folders.map fun f =>
        f.encryptedName.length + (C.toISOString f.revisionDate).length).sum
      activeCipherCount := ciphers.countP fun c => c.deletedAt = none
      deletedCipherCount := ciphers.countP fun c => c.deletedAt ≠ none
      personalCipherKeyCount := ciphers.countP fun c => c.cipherKey ≠ none
      cipherBytes := (ciphers.map fun c =>
        c.encryptedJson.length + (C.toISOString c.revisionDate).length).sum
      uploadedAttachmentCount := attachments.countP fun a => a.contentType ≠ none
      pendingAttachmentCount := attachments.countP fun a => a.contentType = none
      attachmentBytes := (attachments.map fun a =>
        a.objectKey.length + a.fileName.length + a.attachmentKey.length +
          coalescedLength a.contentType + (C.toISOString a.revisionDate).length).sum
      trustedDeviceCount := devices.countP fun d => d.revokedAt = none ∧ d.Complete
      incompleteTrustedDeviceCount :=
        devices.countP fun d => d.revokedAt = none ∧ d.Keyed ∧ ¬ d.Complete
      revokedDeviceKeyCount := devices.countP fun d => d.revokedAt ≠ none ∧ d.Keyed
      trustedDeviceBytes := ((devices.filter fun d => d.Keyed).map fun d =>
        coalescedLength d.encryptedUserKey + coalescedLength d.encryptedPublicKey +
          coalescedLength d.encryptedPrivateKey).sum }

/-! ## Budgets -/

/-- `userKeyRotationPolicy`, as far as the number of items goes. -/
structure UserKeyRotationItemPolicy where
  foldersMax : Nat := 1000
  ciphersMax : Nat := 1000
  trustedDevicesMax : Nat := 100

def userKeyRotationItemPolicy : UserKeyRotationItemPolicy := {}

/-- `userKeyRotationRepositoryPolicy`. -/
structure UserKeyRotationRepositoryPolicy where
  snapshotQueries : Nat := 6
  mutationStatements : Nat := 11
  maxQueriesPerInvocation : Nat := 50
  maxBoundValueLength : Nat := 2000000
  maxManifestValueLength : Nat := 1800000
  maxSnapshotFolderBytes : Nat := 1000000
  maxSnapshotCipherBytes : Nat := 1800000
  maxSnapshotAttachmentBytes : Nat := 1800000
  maxSnapshotTrustedDeviceBytes : Nat := 1000000
  maxSnapshotTotalBytes : Nat := 5000000

def userKeyRotationRepositoryPolicy : UserKeyRotationRepositoryPolicy := {}

/-- `UnsupportedSnapshotReason`. -/
inductive UnsupportedSnapshotReason where
  | accountDisabled
  | accountKeysIncomplete
  | deletedFolders
  | deletedCiphers
  | pendingAttachments
  | partialTrustedDeviceKeys
  | personalCipherKeyColumn
  | storedCipherInvalid
  deriving DecidableEq, Repr

/-- `OverBudgetReason`. -/
inductive OverBudgetReason where
  | snapshotCount
  | snapshotBytes
  | manifestBytes
  | queryCount
  deriving DecidableEq, Repr

namespace SnapshotSummaryRow

variable (summary : SnapshotSummaryRow)

/-- `unsupportedSummaryReason`. -/
def unsupportedReason : Option UnsupportedSnapshotReason :=
  if summary.user.disabledAt ≠ none then some .accountDisabled
  else if summary.deletedFolderCount > 0 then some .deletedFolders
  else if summary.deletedCipherCount > 0 then some .deletedCiphers
  else if summary.pendingAttachmentCount > 0 then some .pendingAttachments
  else if summary.incompleteTrustedDeviceCount > 0 then some .partialTrustedDeviceKeys
  else if summary.personalCipherKeyCount > 0 then some .personalCipherKeyColumn
  else none

/-- `snapshotCountOverBudget`. -/
def CountOverBudget : Prop :=
  summary.activeFolderCount > userKeyRotationItemPolicy.foldersMax ∨
    summary.activeCipherCount > userKeyRotationItemPolicy.ciphersMax ∨
    summary.trustedDeviceCount + summary.revokedDeviceKeyCount >
      userKeyRotationItemPolicy.trustedDevicesMax ∨
    summary.uploadedAttachmentCount >
      userKeyRotationItemPolicy.ciphersMax * attachmentsPerCipherMax

instance : Decidable summary.CountOverBudget := inferInstanceAs (Decidable (_ ∨ _))

/-- `snapshotBytesOverBudget`. -/
def BytesOverBudget : Prop :=
  summary.folderBytes > userKeyRotationRepositoryPolicy.maxSnapshotFolderBytes ∨
    summary.cipherBytes > userKeyRotationRepositoryPolicy.maxSnapshotCipherBytes ∨
    summary.attachmentBytes > userKeyRotationRepositoryPolicy.maxSnapshotAttachmentBytes ∨
    summary.trustedDeviceBytes > userKeyRotationRepositoryPolicy.maxSnapshotTrustedDeviceBytes ∨
    summary.folderBytes + summary.cipherBytes + summary.attachmentBytes +
      summary.trustedDeviceBytes > userKeyRotationRepositoryPolicy.maxSnapshotTotalBytes

instance : Decidable summary.BytesOverBudget := inferInstanceAs (Decidable (_ ∨ _))

/-- `assertSnapshotSummary` does not throw. -/
def WellFormed : Prop :=
  summary.user.id ≠ "" ∧ summary.user.emailNormalized ≠ "" ∧ summary.user.kdfAlgorithm ≠ "" ∧
    0 ≤ summary.user.kdfIterations ∧ isSafeInteger summary.user.kdfIterations = true ∧
    ∀ count ∈ [summary.activeFolderCount, summary.deletedFolderCount, summary.activeCipherCount,
      summary.deletedCipherCount, summary.personalCipherKeyCount, summary.uploadedAttachmentCount,
      summary.pendingAttachmentCount, summary.trustedDeviceCount,
      summary.incompleteTrustedDeviceCount, summary.revokedDeviceKeyCount, summary.folderBytes,
      summary.cipherBytes, summary.attachmentBytes, summary.trustedDeviceBytes],
      count ≤ maxSafeInteger

instance : Decidable summary.WellFormed := inferInstanceAs (Decidable (_ ∧ _))

end SnapshotSummaryRow

/-! ## The request -/

/-- `UserKeyRotationRequest`, with what it says of the account's credentials. -/
structure UserKeyRotationCredentialRequest extends UserKeyRotationRequest where
  newUserKeyId : Option String := none
  oldMasterKeyAuthenticationHash : String
  nextMasterKeyAuthenticationHash : String
  /-- `credentialMetadata.salt`. -/
  salt : String
  /-- `credentialMetadata.kdf`. -/
  kdf : AccountCredentialKdf
  /-- `accountKeys.publicKey`. -/
  publicKey : String
  deriving DecidableEq, Repr

/-- `RotateUserKeyGenerationInput`. -/
structure RotateUserKeyGenerationInput where
  userId : String
  expectedSecurityStamp : String
  expectedRevisionDate : Timestamp
  nextSecurityStamp : String
  nextRevisionDate : Timestamp
  request : UserKeyRotationCredentialRequest
  auditEventId : String
  auditEvent : AuditEvent
  deriving DecidableEq, Repr

/-- `RotateUserKeyGenerationResult`, as far as the database tells it. -/
inductive RotateUserKeyGenerationResult where
  | rotated (rotatedFolderCount rotatedCipherCount rotatedAttachmentCount rotatedTrustedDeviceCount
      revokedDeviceCount revokedRefreshTokenCount invalidatedAuthRequestCount : Nat)
  | notFound
  | unsupportedState (reason : UnsupportedSnapshotReason)
  | overBudget (reason : OverBudgetReason)
  | replayedGeneration
  | conflict
  deriving DecidableEq, Repr

/-- `accountKeyPolicy`, whose two lengths are the same. -/
def accountKeyMaxLength : Nat := 32768

/-- `accountCredentialPolicy.wrappedUserKeyMaxLength`. -/
def wrappedUserKeyMaxLength : Nat := 16384

/-- `parseOpaqueString`, of a stored text. -/
def parseStoredText (maxLength : Nat) (text : Option String) : Option String :=
  text.bind fun text => parseOpaqueString maxLength (.string text)

/-- `classifyAccountKeyState`, where it is `complete`: the public key and the wrapped private
key. -/
def completeAccountKeys (u : User) : Option (String × String) :=
  (parseStoredText accountKeyMaxLength u.publicKey).bind fun publicKey =>
    (parseStoredText accountKeyMaxLength u.privateKey).map fun privateKey => (publicKey, privateKey)

/-- `wrappersFormFreshGeneration`; `constantTimeEqual` compares texts. -/
def WrappersFormFreshGeneration (current rotated : String × String) : Prop :=
  current.1 ≠ current.2 ∧ rotated.1 ≠ rotated.2 ∧
    ∀ value ∈ [rotated.1, rotated.2], ∀ oldValue ∈ [current.1, current.2], value ≠ oldValue

instance (current rotated : String × String) :
    Decidable (WrappersFormFreshGeneration current rotated) :=
  inferInstanceAs (Decidable (_ ∧ _))

/-- `matchesUserKeyRotationCredentialGeneration`. -/
def matchesUserKeyRotationCredentialGeneration (request : UserKeyRotationCredentialRequest)
    (u : User) : Bool :=
  match accountCredentialKdfFromStoredGeneration u, completeAccountKeys u,
    parseStoredText wrappedUserKeyMaxLength u.userKey with
  | some storedKdf, some keys, some currentUserKey =>
    (∀ id ∈ request.newUserKeyId, id = "" ∨ some id ≠ u.userKeyId) ∧
      request.salt = u.emailNormalized ∧ request.kdf = storedKdf ∧ request.publicKey = keys.1 ∧
      WrappersFormFreshGeneration (currentUserKey, keys.2)
        (request.nextUserKey, request.wrappedPrivateKey)
  | _, _, _ => false

/-- `WrapperFingerprints`. -/
structure WrapperFingerprints where
  currentUserKey : String
  currentPrivateKey : String
  nextUserKey : String
  nextPrivateKey : String
  deriving DecidableEq, Repr

/-- `wrapperFingerprintValues`. -/
def WrapperFingerprints.values (f : WrapperFingerprints) : List String :=
  [f.currentUserKey, f.nextUserKey, f.currentPrivateKey, f.nextPrivateKey]

/-- The fingerprints of the keys of the account and of the request. -/
def wrapperFingerprints (fingerprint : String → String) (u : User)
    (request : UserKeyRotationRequest) : WrapperFingerprints where
  currentUserKey := fingerprint (u.userKey.getD "")
  currentPrivateKey := fingerprint (u.privateKey.getD "")
  nextUserKey := fingerprint request.nextUserKey
  nextPrivateKey := fingerprint request.wrappedPrivateKey

/-! ## Reading -/

/-- What each of the queries sees. -/
structure SnapshotReads where
  summary : Db
  wrapperHistory : Db
  folders : Db
  ciphers : Db
  attachments : Db
  trustedDevices : Db

/-- `UserKeyRotationSnapshot`. -/
structure RotationSnapshot extends UserKeyRotationSnapshot where
  summary : SnapshotSummaryRow
  fingerprints : WrapperFingerprints
  currentHistoryCount : Nat
  deriving DecidableEq, Repr

/-- `SnapshotReadResult`. -/
inductive SnapshotReadResult where
  | ready (snapshot : RotationSnapshot)
  | refused (result : RotateUserKeyGenerationResult)
  deriving DecidableEq, Repr

/-- A bound value is longer than D1 takes. -/
def ExceedsBoundLength (values : List String) : Prop :=
  ∃ value ∈ values, userKeyRotationRepositoryPolicy.maxBoundValueLength < jsLength value

instance (values : List String) : Decidable (ExceedsBoundLength values) :=
  inferInstanceAs (Decidable (∃ value ∈ values, _))

/-- What `prepareChecked` throws. -/
def statementBudgetMessage : String := "user key rotation D1 statement exceeds its budget"

/-- Neither absent nor empty. -/
def Stored (text : Option String) : Prop := text ≠ none ∧ text ≠ some ""

instance (text : Option String) : Decidable (Stored text) := inferInstanceAs (Decidable (_ ∧ _))

section Reading

variable (C : Codec) (fingerprint : String → String) (input : RotateUserKeyGenerationInput)

/-- The request has as many items as the account. -/
def RequestedCounts (summary : SnapshotSummaryRow) : Prop :=
  summary.activeFolderCount = input.request.folders.length ∧
    summary.activeCipherCount = input.request.ciphers.length ∧
    summary.uploadedAttachmentCount =
      (input.request.ciphers.map fun cipher => cipher.attachments.length).sum ∧
    summary.trustedDeviceCount = input.request.trustedDevices.length

instance : DecidablePred (RequestedCounts input) := fun _ => inferInstanceAs (Decidable (_ ∧ _))

/-- The account is in the generation the request has seen. -/
def ExpectedGeneration (u : User) : Prop :=
  u.id = input.userId ∧ u.securityStamp = input.expectedSecurityStamp ∧
    u.revisionDate = input.expectedRevisionDate ∧
    u.masterPasswordHash = input.request.oldMasterKeyAuthenticationHash

instance : DecidablePred (ExpectedGeneration input) := fun _ => inferInstanceAs (Decidable (_ ∧ _))

/-- The rows of the snapshot. -/
def readRows (reads : SnapshotReads) (summary : SnapshotSummaryRow) : UserKeyRotationSnapshot where
  userKey := summary.user.userKey
  privateKey := summary.user.privateKey
  folders := snapshotFolders reads.folders input.userId
  ciphers := snapshotCiphers reads.ciphers input.userId
  attachments := snapshotAttachments reads.attachments input.userId
  trustedDevices :=
    (snapshotTrustedDevices reads.trustedDevices input.userId).filter fun d => d.revokedAt = none
  revokedDeviceKeys :=
    (snapshotTrustedDevices reads.trustedDevices input.userId).filter fun d => d.revokedAt ≠ none

/-- The rows are as many as the summary has counted. -/
def SnapshotCounts (summary : SnapshotSummaryRow) (rows : UserKeyRotationSnapshot) : Prop :=
  rows.folders.length = summary.activeFolderCount ∧
    rows.ciphers.length = summary.activeCipherCount ∧
    rows.attachments.length = summary.uploadedAttachmentCount ∧
    rows.trustedDevices.length = summary.trustedDeviceCount ∧
    rows.revokedDeviceKeys.length = summary.revokedDeviceKeyCount

instance (summary : SnapshotSummaryRow) (rows : UserKeyRotationSnapshot) :
    Decidable (SnapshotCounts summary rows) :=
  inferInstanceAs (Decidable (_ ∧ _))

/-- The second half of `readUserKeyRotationSnapshot`: the history of the wrappers, and the rows. -/
def readHistoryAndRows (reads : SnapshotReads) (summary : SnapshotSummaryRow) :
    Except String SnapshotReadResult :=
  let fingerprints := wrapperFingerprints fingerprint summary.user
    input.request.toUserKeyRotationRequest
  if ¬ fingerprints.values.Nodup then .ok (.refused .replayedGeneration)
  else if ExceedsBoundLength fingerprints.values then .error statementBudgetMessage
  else
    let digests := (snapshotWrapperHistory reads.wrapperHistory input.userId
      fingerprints.values).map WrapperHistory.wrapperSha256
    if ¬ digests.Nodup ∨ ∃ digest ∈ digests, digest ∉ fingerprints.values then
      .error "user key rotation wrapper history was inconsistent"
    else if fingerprints.nextUserKey ∈ digests ∨ fingerprints.nextPrivateKey ∈ digests then
      .ok (.refused .replayedGeneration)
    else
      let rows := readRows input reads summary
      if ¬ SnapshotCounts summary rows then .ok (.refused .conflict)
      else .ok (.ready
        { rows with
          summary
          fingerprints
          currentHistoryCount := digests.countP fun digest =>
            digest = fingerprints.currentUserKey ∨ digest = fingerprints.currentPrivateKey })

/-- `readUserKeyRotationSnapshot`. -/
def readUserKeyRotationSnapshot (reads : SnapshotReads) : Except String SnapshotReadResult :=
  if ExceedsBoundLength [input.userId] then .error statementBudgetMessage
  else
    match snapshotSummary C reads.summary input.userId with
    | none => .ok (.refused .notFound)
    | some summary =>
      if ¬ summary.WellFormed then .error "user key rotation snapshot summary is invalid"
      else
        match summary.unsupportedReason with
        | some reason => .ok (.refused (.unsupportedState reason))
        | none =>
          if summary.CountOverBudget then .ok (.refused (.overBudget .snapshotCount))
          else if summary.BytesOverBudget then .ok (.refused (.overBudget .snapshotBytes))
          else if ¬ RequestedCounts input summary then .ok (.refused .conflict)
          else if ¬ ExpectedGeneration input summary.user then .ok (.refused .conflict)
          else if ¬ (Stored summary.user.userKey ∧ Stored summary.user.publicKey ∧
              Stored summary.user.privateKey) then
            .ok (.refused (.unsupportedState .accountKeysIncomplete))
          else if input.request.nextMasterKeyAuthenticationHash =
                summary.user.masterPasswordHash ∨
              ¬ matchesUserKeyRotationCredentialGeneration input.request summary.user then
            .ok (.refused .conflict)
          else readHistoryAndRows fingerprint input reads summary

end Reading

/-! ## What a snapshot has been checked for -/

/-- The snapshot is one of `reads`, and has passed every check of the reading. -/
structure SnapshotRead (C : Codec) (fingerprint : String → String)
    (input : RotateUserKeyGenerationInput) (reads : SnapshotReads) (snapshot : RotationSnapshot) :
    Prop where
  summary : snapshotSummary C reads.summary input.userId = some snapshot.summary
  requested : RequestedCounts input snapshot.summary
  generation : ExpectedGeneration input snapshot.summary.user
  userKey : Stored snapshot.summary.user.userKey
  privateKey : Stored snapshot.summary.user.privateKey
  credentials : matchesUserKeyRotationCredentialGeneration input.request snapshot.summary.user
  fingerprints : snapshot.fingerprints = wrapperFingerprints fingerprint snapshot.summary.user
    input.request.toUserKeyRotationRequest
  distinct : snapshot.fingerprints.values.Nodup
  history : snapshot.currentHistoryCount =
    ((snapshotWrapperHistory reads.wrapperHistory input.userId snapshot.fingerprints.values).map
      WrapperHistory.wrapperSha256).countP fun digest =>
        digest = snapshot.fingerprints.currentUserKey ∨
          digest = snapshot.fingerprints.currentPrivateKey
  rows : snapshot.toUserKeyRotationSnapshot = readRows input reads snapshot.summary
  counts : SnapshotCounts snapshot.summary snapshot.toUserKeyRotationSnapshot

section Ready

variable {C : Codec} {fingerprint : String → String} {input : RotateUserKeyGenerationInput}
  {reads : SnapshotReads} {snapshot : RotationSnapshot}

/-- **What a snapshot that is read has been checked for.** -/
theorem readUserKeyRotationSnapshot_ready
    (h : readUserKeyRotationSnapshot C fingerprint input reads = .ok (.ready snapshot)) :
    SnapshotRead C fingerprint input reads snapshot := by
  unfold readUserKeyRotationSnapshot at h
  rw [if_neg fun hbound => by rw [if_pos hbound] at h; cases h] at h
  split at h
  · cases h
  rename_i summary hsummary
  rw [if_neg fun hformed => by rw [if_pos hformed] at h; cases h] at h
  split at h
  · cases h
  split_ifs at h with _ _ hrequested hgeneration hkeys hcredentials
  any_goals cases h
  unfold readHistoryAndRows at h
  dsimp only at h
  split_ifs at h with hdistinct _ _ _ hcounts
  any_goals cases h
  obtain ⟨-, hmatches⟩ := not_or.mp hcredentials
  simp only [not_not] at hrequested hgeneration hkeys hmatches hdistinct hcounts
  exact
    { summary := hsummary
      requested := hrequested
      generation := hgeneration
      userKey := hkeys.1
      privateKey := hkeys.2.2
      credentials := hmatches
      fingerprints := rfl
      distinct := hdistinct
      history := rfl
      rows := rfl
      counts := hcounts }

/-- The request has as many items as the snapshot. -/
theorem SnapshotRead.sameCounts (h : SnapshotRead C fingerprint input reads snapshot) :
    SameCounts snapshot.toUserKeyRotationSnapshot input.request.toUserKeyRotationRequest := by
  obtain ⟨hfolders, hciphers, hattachments, hdevices⟩ := h.requested
  obtain ⟨hfolders', hciphers', hattachments', hdevices', -⟩ := h.counts
  refine ⟨hfolders'.trans hfolders, hciphers'.trans hciphers, ?_, hdevices'.trans hdevices⟩
  rw [hattachments', hattachments, UserKeyRotationRequest.requestedAttachments,
    List.length_flatMap]
  simp only [List.length_map]

end Ready

end HonoWarden
