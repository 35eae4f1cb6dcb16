import HonoWarden.Vault.OrganizationCiphers

/-!
# Writing ciphers

Model of the writes of `src/repositories/cipher-repository.ts`: those of personal ciphers, one by
one and in bulk, and the two that put a cipher into an organization.

A write of one personal cipher is a single statement. `updateCipher` compares the revision the
client has seen and, where it hits nothing, reads why in a second query; as for organization
ciphers, `attemptUpdateCipher` is the statement alone. Bulk writes run in chunks, all in one batch.

`createOrganizationCipher` and `sharePersonalCipherWithOrganization` are batches of two statements:
the cipher, under the condition that the actor may write every one of the collections named, and
then its mappings, under the condition that the statement before wrote one row.
-/

namespace HonoWarden

open Relational

/-! ## Inputs and answers -/

/-- `CipherUpdateInput`. -/
structure CipherUpdateInput extends CipherRecord where
  expectedRevisionDate : Timestamp
  deriving DecidableEq, Repr

/-- `CipherDeleteInput`. -/
structure CipherDeleteInput where
  id : String
  userId : String
  deletedAt : Timestamp
  deriving DecidableEq, Repr

/-- `CipherRestoreInput` and `CipherPermanentDeleteInput`. -/
structure CipherRestoreInput where
  id : String
  userId : String
  revisionDate : Timestamp
  deriving DecidableEq, Repr

/-- `CipherBulkMutationInput`. -/
structure CipherBulkMutationInput where
  ids : List String
  userId : String
  revisionDate : Timestamp
  deriving DecidableEq, Repr

/-- `CipherBulkMoveInput`. -/
structure CipherBulkMoveInput extends CipherBulkMutationInput where
  folderId : Option String
  deriving DecidableEq, Repr

/-- `OrganizationCipherWriteInput`. -/
structure OrganizationCipherWriteInput extends OrganizationAccessContext where
  id : String
  organizationId : String
  collectionIds : List String
  type : Int
  favorite : Bool
  encryptedJson : String
  cipherKey : Option String
  now : Timestamp
  deriving DecidableEq, Repr

/-- `OrganizationCipherShareInput`. -/
structure OrganizationCipherShareInput extends OrganizationCipherWriteInput where
  expectedRevisionDate : Timestamp
  deriving DecidableEq, Repr

/-- `CipherUpdateResult`. -/
inductive CipherUpdateResult where
  | updated (cipher : CipherRecord)
  | notFound
  | conflict (currentRevisionDate : Timestamp)
  deriving DecidableEq, Repr

/-- `OrganizationCipherShareResult`. -/
inductive OrganizationCipherShareResult where
  | shared
  | notFound
  | conflict (currentRevisionDate : Timestamp)
  deriving DecidableEq, Repr

/-! ## Conditions -/

/-- The foreign keys of `ciphers`. -/
def Cipher.Refers (db : Db) (c : Cipher) : Prop :=
  (∃ u ∈ db.users.rows, u.id = c.userId) ∧
    (∀ id ∈ c.folderId, ∃ f ∈ db.folders.rows, f.id = id) ∧
    ∀ id ∈ c.organizationId, ∃ o ∈ db.organizations.rows, o.id = id

instance (db : Db) : DecidablePred (Cipher.Refers db) := fun _ =>
  inferInstanceAs (Decidable (_ ∧ _ ∧ _))

/-- The foreign keys of `collection_ciphers`. -/
def CollectionCipher.Refers (db : Db) (m : CollectionCipher) : Prop :=
  (∃ c ∈ db.collections.rows, c.id = m.collectionId) ∧ ∃ c ∈ db.ciphers.rows, c.id = m.cipherId

instance (db : Db) : DecidablePred (CollectionCipher.Refers db) := fun _ =>
  inferInstanceAs (Decidable (_ ∧ _))

/-- The personal cipher of the account under an id. -/
def Cipher.Personal (c : Cipher) (id userId : String) : Prop :=
  c.id = id ∧ c.userId = userId ∧ c.organizationId = none

instance (id userId : String) : DecidablePred fun c : Cipher => c.Personal id userId := fun _ =>
  inferInstanceAs (Decidable (_ ∧ _))

/-- The personal ciphers of the account under one of the ids. -/
def Cipher.PersonalAmong (c : Cipher) (ids : List String) (userId : String) : Prop :=
  c.id ∈ ids ∧ c.userId = userId ∧ c.organizationId = none

instance (ids : List String) (userId : String) :
    DecidablePred fun c : Cipher => c.PersonalAmong ids userId := fun _ =>
  inferInstanceAs (Decidable (_ ∧ _))

/-- `findActiveCipherRevision`, which is `findActivePersonalCipherRevision`. -/
def findActiveCipherRevision (db : Db) (id userId : String) : Option Timestamp :=
  (db.ciphers.rows.find? fun c => c.Personal id userId ∧ c.deletedAt = none).map
    Cipher.revisionDate

/-- `findActiveCipherCreatedAt`. -/
def findActiveCipherCreatedAt (db : Db) (id userId : String) : Option Timestamp :=
  (db.ciphers.rows.find? fun c => c.Personal id userId ∧ c.deletedAt = none).map Cipher.createdAt

/-! ## Personal ciphers, one by one -/

/-- The row a record becomes. -/
def CipherRecord.row (input : CipherRecord) : Cipher where
  id := input.id
  userId := input.userId
  folderId := input.folderId
  type := input.type
  favorite := input.favorite
  encryptedJson := input.encryptedJson
  revisionDate := input.revisionDate
  createdAt := input.createdAt
  updatedAt := input.revisionDate

/-- `createCipher`. -/
def createCipher (input : CipherRecord) (db : Db) : Db × Except Failure CipherRecord :=
  execute (Db.ciphersIn.insertReferencing (fun _ _ => [input.row]) Cipher.Refers)
    (fun _ => .ok input) db

namespace CipherUpdateInput

variable (input : CipherUpdateInput)

/-- The WHERE of `updateCipher`. -/
def Hit (c : Cipher) : Prop :=
  c.Personal input.id input.userId ∧ c.deletedAt = none ∧
    c.revisionDate = input.expectedRevisionDate

instance : DecidablePred input.Hit := fun _ => inferInstanceAs (Decidable (_ ∧ _))

/-- The SET of `updateCipher`. -/
def apply (c : Cipher) : Cipher :=
  { c with
    folderId := input.folderId, type := input.type, favorite := input.favorite,
    encryptedJson := input.encryptedJson, revisionDate := input.revisionDate,
    updatedAt := input.revisionDate }

end CipherUpdateInput

/-- The statement of `updateCipher`: how many rows it wrote. -/
def attemptUpdateCipher (input : CipherUpdateInput) (db : Db) : Db × Except Failure Nat :=
  execute (Db.ciphersIn.updateReferencing (fun _ _ => input.Hit) (fun _ => input.apply)
    Cipher.Refers) (fun result => .ok result.metaChanges) db

/-- The statement takes place, unless the folder it names does not exist. -/
theorem attemptUpdateCipher_cases (input : CipherUpdateInput) (db : Db) :
    (attemptUpdateCipher input db = (db, .error (.constraint .foreignKey)) ∧
      ∃ c ∈ db.ciphers.rows, input.Hit c ∧ ¬ (input.apply c).Refers db) ∨
    ∃ T : Table Cipher,
      attemptUpdateCipher input db =
        ({ db with ciphers := T }, .ok (db.ciphers.rows.countP fun c => input.Hit c)) ∧
      T.rows = updateWhere input.Hit input.apply db.ciphers.rows := by
  have hkeeps : KeepsKeys input.apply := fun c => ⟨rfl, fun _ hc => hc⟩
  rcases @TableIn.updateReferencing_cases Db Cipher String _ Db.ciphersIn db (fun _ _ => input.Hit)
    _ (fun _ => input.apply) Cipher.Refers _ 0 hkeeps with
    ⟨herror, c, hc, hhit, hdangling⟩ | ⟨-, T, r, hrun, hT, hc, hm⟩
  · left
    exact ⟨by simp only [attemptUpdateCipher, execute, herror], c, hc, hhit, hdangling⟩
  · right
    refine ⟨T, ?_, hT⟩
    simp only [attemptUpdateCipher, execute, hrun, hm, hc]

/-- The answer of `updateCipher` to an attempt, in the state the second query meets. -/
def CipherUpdateInput.answer (input : CipherUpdateInput) (existingCreatedAt : Option Timestamp)
    (changes : Nat) (db : Db) : CipherUpdateResult :=
  if changes ≠ 1 then
    match findActiveCipherRevision db input.id input.userId with
    | none => .notFound
    | some currentRevisionDate => .conflict currentRevisionDate
  else
    .updated { input.toCipherRecord with
      createdAt := existingCreatedAt.getD input.createdAt, deletedAt := none }

/-- `updateCipher`. -/
def updateCipher (input : CipherUpdateInput) (db : Db) : Db × Except Failure CipherUpdateResult :=
  let attempt := attemptUpdateCipher input db
  (attempt.1, attempt.2.map fun changes =>
    input.answer (findActiveCipherCreatedAt db input.id input.userId) changes attempt.1)

/-- `softDeleteCipher`; whether the cipher is deleted. -/
def softDeleteCipher (input : CipherDeleteInput) (db : Db) : Db × Except Failure Bool :=
  execute (Db.ciphersIn.update
    (fun _ _ c => c.Personal input.id input.userId ∧ c.deletedAt = none) fun _ c =>
      { c with
        deletedAt := some input.deletedAt, revisionDate := input.deletedAt,
        updatedAt := input.deletedAt })
    (fun result => .ok (result.metaChanges = 1)) db

/-- `restoreCipher`; whether the cipher is restored. Its folder stays what it was. -/
def restoreCipher (input : CipherRestoreInput) (db : Db) : Db × Except Failure Bool :=
  execute (Db.ciphersIn.update
    (fun _ _ c => c.Personal input.id input.userId ∧ c.deletedAt ≠ none) fun _ c =>
      { c with
        deletedAt := none, revisionDate := input.revisionDate, updatedAt := input.revisionDate })
    (fun result => .ok (result.metaChanges = 1)) db

/-- `permanentlyDeleteCipher`; whether the cipher is deleted. -/
def permanentlyDeleteCipher (input : CipherRestoreInput) (db : Db) : Db × Except Failure Bool :=
  (Db.ciphersIn.callDelete (fun _ c => c.Personal input.id input.userId) cascadeCipherDelete db).map
    id (Except.map fun rows => rows ≠ [])

/-! ## Personal ciphers in bulk -/

/-- `cipherBulkMutationChunkSize`. -/
def cipherBulkMutationChunkSize : Nat := 90

/-- `chunkCipherIds`. -/
def chunkCipherIds (ids : List String) : List (List String) :=
  if ids = [] then []
  else ids.take cipherBulkMutationChunkSize ::
    chunkCipherIds (ids.drop cipherBulkMutationChunkSize)
termination_by ids.length
decreasing_by
  rename_i hne
  have hpos : 0 < ids.length := List.length_pos_iff.mpr hne
  rw [List.length_drop, cipherBulkMutationChunkSize]
  omega

/-- `runCipherMutationBatch`. -/
def runCipherMutationBatch (statements : List (Statement Db)) (db : Db) :
    Db × Except Failure Nat :=
  commit statements (fun results => .ok (results.map StatementResult.metaChanges).sum) db

namespace CipherBulkMutationInput

variable (input : CipherBulkMutationInput)

def trash (ids : List String) : Statement Db :=
  Db.ciphersIn.update
    (fun _ _ c => c.PersonalAmong ids input.userId ∧ c.deletedAt = none) fun _ c =>
      { c with
        deletedAt := some input.revisionDate, revisionDate := input.revisionDate,
        updatedAt := input.revisionDate }

/-- The SELECT of a restoration: the ids it is about to restore. -/
def trashed (ids : List String) : Statement Db :=
  select fun db => (db.ciphers.rows.filter fun c =>
    c.PersonalAmong ids input.userId ∧ c.deletedAt ≠ none).map fun c => [.text c.id]

def restore (ids : List String) : Statement Db :=
  Db.ciphersIn.update
    (fun _ _ c => c.PersonalAmong ids input.userId ∧ c.deletedAt ≠ none) fun _ c =>
      { c with
        deletedAt := none, revisionDate := input.revisionDate, updatedAt := input.revisionDate }

def delete (ids : List String) : Statement Db :=
  Db.ciphersIn.deleteTriggering (fun _ _ c => c.PersonalAmong ids input.userId) (fun _ => [])
    cascadeCipherDelete

/-- The ids the SELECTs of a restoration returned, which stand at every second place. -/
def restoredIds : List StatementResult → List String
  | selected :: _ :: rest =>
    (selected.rows.filterMap fun row =>
      match row with
      | [.text id] => some id
      | _ => none) ++ restoredIds rest
  | _ => []

end CipherBulkMutationInput

/-- The statement of a move. -/
def CipherBulkMoveInput.move (input : CipherBulkMoveInput) (ids : List String) : Statement Db :=
  Db.ciphersIn.updateReferencing
    (fun _ _ c => c.PersonalAmong ids input.userId ∧ c.deletedAt = none)
    (fun _ c =>
      { c with
        folderId := input.folderId, revisionDate := input.revisionDate,
        updatedAt := input.revisionDate })
    Cipher.Refers

/-- `bulkMoveCiphers`. -/
def bulkMoveCiphers (input : CipherBulkMoveInput) : Db → Db × Except Failure Nat :=
  runCipherMutationBatch ((chunkCipherIds input.ids).map input.move)

/-- `bulkSoftDeleteCiphers`. -/
def bulkSoftDeleteCiphers (input : CipherBulkMutationInput) : Db → Db × Except Failure Nat :=
  runCipherMutationBatch ((chunkCipherIds input.ids).map input.trash)

/-- `bulkRestoreCiphers`. -/
def bulkRestoreCiphers (input : CipherBulkMutationInput) (db : Db) :
    Db × Except Failure (List String) :=
  commit ((chunkCipherIds input.ids).flatMap fun ids => [input.trashed ids, input.restore ids])
    (fun results => .ok (CipherBulkMutationInput.restoredIds results)) db

/-- `bulkPermanentlyDeleteCiphers`. -/
def bulkPermanentlyDeleteCiphers (input : CipherBulkMutationInput) : Db → Db × Except Failure Nat :=
  runCipherMutationBatch ((chunkCipherIds input.ids).map input.delete)

/-! ## Into an organization -/

/-- `managedOrganizationCollectionsSql`: the collections named that the actor may write. -/
def managedOrganizationCollections (db : Db) (context : OrganizationAccessContext)
    (organizationId : String) (collectionIds : List String) : List Collection :=
  db.collections.rows.filter fun collection =>
    (∃ a ∈ accessibleOrganizationCollections db context, a.collectionId = collection.id ∧
      a.organizationId = collection.organizationId ∧ a.readOnly = false) ∧
    collection.organizationId = organizationId ∧ collection.id ∈ collectionIds

/-- `hasUniqueCollectionIds`. -/
def HasUniqueCollectionIds (collectionIds : List String) : Prop :=
  collectionIds ≠ [] ∧ collectionIds.length ≤ 100 ∧ (∀ id ∈ collectionIds, id ≠ "") ∧
    collectionIds.Nodup

instance : DecidablePred HasUniqueCollectionIds := fun _ => inferInstanceAs (Decidable (_ ∧ _))

namespace OrganizationCipherWriteInput

variable (input : OrganizationCipherWriteInput)

/-- `assertOrganizationCipherInput` passes. -/
def Valid : Prop :=
  input.id ≠ "" ∧ input.userId ≠ "" ∧ input.organizationId ≠ "" ∧
    ¬ CipherKeyRefused input.cipherKey ∧ HasUniqueCollectionIds input.collectionIds

instance : Decidable input.Valid := inferInstanceAs (Decidable (_ ∧ _))

/-- The collections named that the actor may write. -/
def managed (db : Db) : List Collection :=
  managedOrganizationCollections db input.toOrganizationAccessContext input.organizationId
    input.collectionIds

/-- Every collection named may be written. -/
def Managed (db : Db) : Prop := (input.managed db).length = input.collectionIds.length

instance (db : Db) : Decidable (input.Managed db) := inferInstanceAs (Decidable (_ = _))

def row : Cipher where
  id := input.id
  userId := input.userId
  folderId := none
  type := input.type
  favorite := input.favorite
  encryptedJson := input.encryptedJson
  revisionDate := input.now
  createdAt := input.now
  updatedAt := input.now
  organizationId := some input.organizationId
  cipherKey := input.cipherKey

/-- `transitioned_cipher`. -/
def Transitioned (db : Db) : Prop :=
  ∃ c ∈ db.ciphers.rows, c.id = input.id ∧ c.userId = input.userId ∧
    c.organizationId = some input.organizationId ∧ c.revisionDate = input.now ∧
    c.updatedAt = input.now

instance (db : Db) : Decidable (input.Transitioned db) :=
  inferInstanceAs (Decidable (∃ c ∈ db.ciphers.rows, _))

/-- The cipher of `createOrganizationCipher`. -/
def insertCipher : Statement Db :=
  Db.ciphersIn.insertReferencing (fun db _ => if input.Managed db then [input.row] else [])
    Cipher.Refers

/-- The mappings of the cipher. -/
def insertMappings : Statement Db :=
  Db.collectionCiphersIn.insertReferencing
    (fun db changes =>
      if input.Transitioned db ∧ changes = 1 then
        (input.managed db).map fun collection => ⟨collection.id, input.id⟩
      else [])
    CollectionCipher.Refers

/-- `assertOrganizationCipherBatch`. -/
def interpretCreate (results : List StatementResult) : Except String Unit :=
  if results.length ≠ 2 ∨ results[0]?.map StatementResult.metaChanges ≠ some 1 ∨
      results[1]?.map StatementResult.metaChanges ≠ some input.collectionIds.length then
    .error "Organization cipher batch did not fully apply."
  else .ok ()

end OrganizationCipherWriteInput

/-- `createOrganizationCipher`. -/
def createOrganizationCipher (input : OrganizationCipherWriteInput) (db : Db) :
    Db × Except Failure Unit :=
  if input.Valid then
    commit [input.insertCipher, input.insertMappings] input.interpretCreate db
  else (db, .error (.thrown "Organization cipher input is invalid."))

namespace OrganizationCipherShareInput

variable (input : OrganizationCipherShareInput)

/-- The WHERE of the share. -/
def Hit (db : Db) (c : Cipher) : Prop :=
  c.Personal input.id input.userId ∧ c.deletedAt = none ∧
    c.revisionDate = input.expectedRevisionDate ∧
    (∀ m ∈ db.collectionCiphers.rows, m.cipherId ≠ c.id) ∧
    (∀ attachment ∈ db.cipherAttachments.rows, attachment.cipherId ≠ c.id) ∧ input.Managed db

instance (db : Db) : DecidablePred (input.Hit db) := fun _ => inferInstanceAs (Decidable (_ ∧ _))

/-- The SET of the share. -/
def apply (c : Cipher) : Cipher :=
  { c with
    folderId := none, type := input.type, favorite := input.favorite,
    encryptedJson := input.encryptedJson, revisionDate := input.now, updatedAt := input.now,
    organizationId := some input.organizationId, cipherKey := input.cipherKey }

/-- The cipher of `sharePersonalCipherWithOrganization`. -/
def shareCipher : Statement Db :=
  Db.ciphersIn.updateReferencing (fun db _ => input.Hit db) (fun _ => input.apply) Cipher.Refers

/-- The reading of the batch: whether the cipher is shared. -/
def interpret (results : List StatementResult) : Except String Bool :=
  let changes (i : Nat) := (results[i]?.map StatementResult.metaChanges).getD 0
  if changes 0 = 1 ∧ changes 1 = input.collectionIds.length then .ok true
  else if changes 0 ≠ 0 ∨ changes 1 ≠ 0 then
    .error "Organization cipher batch did not fully apply."
  else .ok false

/-- The answer, in the state the second query meets. -/
def answer (shared : Bool) (db : Db) : OrganizationCipherShareResult :=
  if shared then .shared
  else
    match findActiveCipherRevision db input.id input.userId with
    | none => .notFound
    | some currentRevisionDate =>
      if currentRevisionDate ≠ input.expectedRevisionDate then .conflict currentRevisionDate
      else .notFound

end OrganizationCipherShareInput

/-- `sharePersonalCipherWithOrganization`. -/
def sharePersonalCipherWithOrganization (input : OrganizationCipherShareInput) (db : Db) :
    Db × Except Failure OrganizationCipherShareResult :=
  if input.Valid then
    let call := commit [input.shareCipher, input.insertMappings] input.interpret db
    (call.1, call.2.map fun shared => input.answer shared call.1)
  else (db, .error (.thrown "Organization cipher input is invalid."))

end HonoWarden
