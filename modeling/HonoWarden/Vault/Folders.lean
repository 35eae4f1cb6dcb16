import HonoWarden.Vault.Ciphers

/-!
# Folders and attachments

Models of `src/repositories/folder-repository.ts` and of the writes of
`src/repositories/attachment-repository.ts`. Each write is one statement.

A folder is deleted softly: its row stays, with `deleted_at` set. An attachment is allocated first,
without a content type, and uploaded later; only an allocation asks about the cipher.
-/

namespace HonoWarden

open Relational

/-! ## Folders -/

/-- `FolderRecord` and `FolderWriteInput`. -/
structure FolderRecord where
  id : String
  userId : String
  name : String
  revisionDate : Timestamp
  deriving DecidableEq, Repr

/-- `FolderUpdateInput`. -/
structure FolderUpdateInput extends FolderRecord where
  expectedRevisionDate : Timestamp
  deriving DecidableEq, Repr

/-- `FolderDeleteInput`. -/
structure FolderDeleteInput where
  id : String
  userId : String
  revisionDate : Timestamp
  deriving DecidableEq, Repr

/-- `FolderUpdateResult`. -/
inductive FolderUpdateResult where
  | updated (folder : FolderRecord)
  | notFound
  | conflict (currentRevisionDate : Timestamp)
  deriving DecidableEq, Repr

/-- `folderFromRow`. -/
def folderFromRow (f : Folder) : FolderRecord where
  id := f.id
  userId := f.userId
  name := f.encryptedName
  revisionDate := f.revisionDate

/-- The folder of the account under an id, not deleted. -/
def Folder.Active (f : Folder) (id userId : String) : Prop :=
  f.id = id ∧ f.userId = userId ∧ f.deletedAt = none

instance (id userId : String) : DecidablePred fun f : Folder => f.Active id userId := fun _ =>
  inferInstanceAs (Decidable (_ ∧ _))

/-- `listFoldersByUser`. -/
def listFoldersByUser (db : Db) (userId : String) : List FolderRecord :=
  ((db.folders.rows.filter fun f => f.userId = userId ∧ f.deletedAt = none).mergeSort fun a b =>
    a.revisionDate < b.revisionDate ∨ a.revisionDate = b.revisionDate ∧ a.id ≤ b.id).map
      folderFromRow

/-- `folderBelongsToUser`. -/
def folderBelongsToUser (db : Db) (folderId userId : String) : Bool :=
  ∃ f ∈ db.folders.rows, f.Active folderId userId

/-- `findActiveFolderRevision`. -/
def findActiveFolderRevision (db : Db) (id userId : String) : Option Timestamp :=
  (db.folders.rows.find? fun f => f.Active id userId).map Folder.revisionDate

/-- The row a record becomes. -/
def FolderRecord.row (input : FolderRecord) : Folder where
  id := input.id
  userId := input.userId
  encryptedName := input.name
  revisionDate := input.revisionDate
  updatedAt := input.revisionDate

/-- `createFolder`. -/
def createFolder (input : FolderRecord) (db : Db) : Db × Except Failure FolderRecord :=
  execute (Db.foldersIn.insertReferencing (fun _ _ => [input.row]) fun db f =>
    ∃ u ∈ db.users.rows, u.id = f.userId) (fun _ => .ok input) db

namespace FolderUpdateInput

variable (input : FolderUpdateInput)

/-- The WHERE of `updateFolder`. -/
def Hit (f : Folder) : Prop :=
  f.Active input.id input.userId ∧ f.revisionDate = input.expectedRevisionDate

instance : DecidablePred input.Hit := fun _ => inferInstanceAs (Decidable (_ ∧ _))

/-- The SET of `updateFolder`. -/
def apply (f : Folder) : Folder :=
  { f with
    encryptedName := input.name, revisionDate := input.revisionDate,
    updatedAt := input.revisionDate }

/-- The answer of `updateFolder` to an attempt, in the state the second query meets. -/
def answer (changes : Nat) (db : Db) : FolderUpdateResult :=
  if changes ≠ 1 then
    match findActiveFolderRevision db input.id input.userId with
    | none => .notFound
    | some currentRevisionDate => .conflict currentRevisionDate
  else .updated input.toFolderRecord

end FolderUpdateInput

/-- The statement of `updateFolder`: how many rows it wrote. -/
def attemptUpdateFolder (input : FolderUpdateInput) (db : Db) : Db × Except Failure Nat :=
  execute (Db.foldersIn.update (fun _ _ => input.Hit) fun _ => input.apply)
    (fun result => .ok result.metaChanges) db

/-- The statement takes place. -/
theorem attemptUpdateFolder_eq (input : FolderUpdateInput) (db : Db) :
    ∃ T : Table Folder,
      attemptUpdateFolder input db =
        ({ db with folders := T }, .ok (db.folders.rows.countP fun f => input.Hit f)) ∧
      T.rows = updateWhere input.Hit input.apply db.folders.rows := by
  have hkeeps : KeepsKeys input.apply := fun f => ⟨rfl, fun _ hf => hf⟩
  obtain ⟨T, r, hrun, hT, hc, hm, -⟩ := TableIn.updateReturning_total (s := db) Db.foldersIn
    (fun _ _ => input.Hit) (fun _ => input.apply) 0 (fun _ => []) hkeeps
  refine ⟨T, ?_, hT⟩
  simp only [attemptUpdateFolder, execute, TableIn.update, hrun, hm, hc]

/-- `updateFolder`. -/
def updateFolder (input : FolderUpdateInput) (db : Db) : Db × Except Failure FolderUpdateResult :=
  let attempt := attemptUpdateFolder input db
  (attempt.1, attempt.2.map fun changes => input.answer changes attempt.1)

/-- The SET of `deleteFolder`. -/
def FolderDeleteInput.apply (input : FolderDeleteInput) (f : Folder) : Folder :=
  { f with
    deletedAt := some input.revisionDate, revisionDate := input.revisionDate,
    updatedAt := input.revisionDate }

/-- `deleteFolder`; whether the folder is deleted. The ciphers in it are left as they are. -/
def deleteFolder (input : FolderDeleteInput) (db : Db) : Db × Except Failure Bool :=
  execute (Db.foldersIn.update (fun _ _ f => f.Active input.id input.userId) fun _ => input.apply)
    (fun result => .ok (result.metaChanges = 1)) db

/-! ## Attachments -/

/-- The columns of `cipher_attachments` an allocation writes. -/
structure CipherAttachmentCreateInput where
  id : String
  userId : String
  cipherId : String
  objectKey : String
  fileName : String
  attachmentKey : String
  size : Nat
  contentType : Option String
  revisionDate : Timestamp
  createdAt : Timestamp
  updatedAt : Timestamp
  deriving DecidableEq, Repr

/-- `CipherAttachmentLookupInput`. -/
structure CipherAttachmentLookupInput where
  id : String
  cipherId : String
  userId : String
  deriving DecidableEq, Repr

/-- `PendingCipherAttachmentCreateResult`. -/
inductive PendingCipherAttachmentCreateResult where
  | created (attachment : CipherAttachmentCreateInput)
  | quotaExceeded
  | notFound
  deriving DecidableEq, Repr

/-- The foreign keys of `cipher_attachments`. -/
def CipherAttachment.Refers (db : Db) (a : CipherAttachment) : Prop :=
  (∃ u ∈ db.users.rows, u.id = a.userId) ∧ ∃ c ∈ db.ciphers.rows, c.id = a.cipherId

instance (db : Db) : DecidablePred (CipherAttachment.Refers db) := fun _ =>
  inferInstanceAs (Decidable (_ ∧ _))

/-- The storage of an account that is in use or promised. -/
def attachmentStorage (db : Db) (userId : String) (expiredBefore : Timestamp)
    (counts : CipherAttachment → Prop) [DecidablePred counts] : Nat :=
  ((db.cipherAttachments.rows.filter fun a => a.userId = userId ∧ counts a ∧
    (a.contentType ≠ none ∨ expiredBefore < a.updatedAt)).map CipherAttachment.size).sum

namespace CipherAttachmentCreateInput

variable (input : CipherAttachmentCreateInput)

def row : CipherAttachment where
  id := input.id
  userId := input.userId
  cipherId := input.cipherId
  objectKey := input.objectKey
  fileName := input.fileName
  attachmentKey := input.attachmentKey
  size := input.size
  contentType := input.contentType
  revisionDate := input.revisionDate
  createdAt := input.createdAt
  updatedAt := input.updatedAt

/-- The cipher an attachment may be added to. -/
def HasCipher (db : Db) : Prop :=
  ∃ c ∈ db.ciphers.rows, c.Personal input.cipherId input.userId ∧ c.deletedAt = none

instance (db : Db) : Decidable (input.HasCipher db) :=
  inferInstanceAs (Decidable (∃ c ∈ db.ciphers.rows, _))

end CipherAttachmentCreateInput

/-- `createCipherAttachment`. -/
def createCipherAttachment (input : CipherAttachmentCreateInput) (db : Db) :
    Db × Except Failure (Option CipherAttachmentCreateInput) :=
  execute (Db.cipherAttachmentsIn.insertReferencing
    (fun db _ => if input.HasCipher db then [input.row] else []) CipherAttachment.Refers)
    (fun result => .ok (if result.metaChanges = 1 then some input else none)) db

/-- `createPendingCipherAttachment`. -/
def createPendingCipherAttachment (input : CipherAttachmentCreateInput)
    (maxStorageBytes : Nat) (expiredBefore : Timestamp) (db : Db) :
    Db × Except Failure PendingCipherAttachmentCreateResult :=
  let call := execute (Db.cipherAttachmentsIn.insertReferencing
    (fun db _ =>
      if input.HasCipher db ∧ input.size + attachmentStorage db input.userId expiredBefore
          (fun _ => True) ≤ maxStorageBytes then [input.row]
      else [])
    CipherAttachment.Refers) (fun result => .ok result.metaChanges) db
  (call.1, call.2.map fun changes =>
    if changes ≠ 1 then if input.HasCipher call.1 then .quotaExceeded else .notFound
    else .created input)

namespace CipherAttachmentLookupInput

variable (input : CipherAttachmentLookupInput)

/-- The attachment under its id, cipher and account. -/
def Named (a : CipherAttachment) : Prop :=
  a.id = input.id ∧ a.cipherId = input.cipherId ∧ a.userId = input.userId

instance : DecidablePred input.Named := fun _ => inferInstanceAs (Decidable (_ ∧ _))

end CipherAttachmentLookupInput

/-- `markCipherAttachmentUploaded`; whether an attachment is uploaded. -/
def markCipherAttachmentUploaded (input : CipherAttachmentLookupInput) (contentType : String)
    (revisionDate updatedAt : Timestamp) (db : Db) : Db × Except Failure Bool :=
  execute (Db.cipherAttachmentsIn.update (fun _ _ a => input.Named a ∧ a.contentType = none)
    fun _ a =>
      { a with
        contentType := some contentType, revisionDate := revisionDate, updatedAt := updatedAt })
    (fun result => .ok (result.metaChanges = 1)) db

/-- `reserveCipherAttachmentUpload`; whether the storage is reserved. -/
def reserveCipherAttachmentUpload (input : CipherAttachmentLookupInput) (size : Nat)
    (expiredBefore : Timestamp) (maxStorageBytes : Nat) (updatedAt : Timestamp) (db : Db) :
    Db × Except Failure Bool :=
  execute (Db.cipherAttachmentsIn.update
    (fun db _ a => input.Named a ∧ a.contentType = none ∧ expiredBefore < a.updatedAt ∧
      size + attachmentStorage db input.userId expiredBefore (fun b => b.id ≠ input.id) ≤
        maxStorageBytes)
    fun _ a => { a with updatedAt := updatedAt })
    (fun result => .ok (result.metaChanges = 1)) db

/-- `deleteCipherAttachment`; whether the attachment is deleted. -/
def deleteCipherAttachment (input : CipherAttachmentLookupInput) (db : Db) :
    Db × Except Failure Bool :=
  execute (Db.cipherAttachmentsIn.delete fun _ _ => input.Named)
    (fun result => .ok (result.metaChanges = 1)) db

end HonoWarden
