import HonoWarden.Vault.Filing

/-!
# Attachments and their objects

The metadata of an attachment is a row of D1, its bytes are an object of R2, and no transaction
spans the two. `AttachmentPhase` is a request of `src/app.ts` that writes them, between two of its
awaits: the upload of an allocated attachment with its compensation, the deletion of an attachment
and the permanent deletion of ciphers. A call of either store is answered, fails, or takes effect
without an answer (`CallFate`).

`attachmentSystem` interleaves any number of these requests with allocations, the cleanup of
expired allocations and writes of the surroundings, which may remove attachments but add none.

Results:
* `AttachmentPhase.advance_removal`, `AttachmentPhase.advance_cases`: what the next step of a
  request does to the rows of `cipher_attachments`;
* `Db.AttachmentsPlaced`: an attachment has its personal cipher, in every run.
-/

namespace HonoWarden

open Relational

/-! ## Calls of the stores -/

/-- What becomes of a call of a store. -/
inductive CallFate where
  | answered
  | failed
  | lost
  deriving DecidableEq, Repr

namespace CallFate

/-- A call of D1: the database, and the answer if there is one. -/
def d1 {α : Type} (fate : CallFate) (call : Db → Db × Except Failure α) (db : Db) :
    Db × Option α :=
  match fate with
  | answered => ((call db).1, (call db).2.toOption)
  | failed => (db, none)
  | lost => ((call db).1, none)

/-- A read of D1. -/
def read {α : Type} (fate : CallFate) (value : α) : Option α :=
  if fate = answered then some value else none

/-- A call of R2, which takes effect unless it fails. -/
def r2 (fate : CallFate) (write : List String → List String) (objects : List String) :
    List String :=
  if fate = failed then objects else write objects

end CallFate

/-- What a step of a request is given: the clock, and the fate of its call. -/
structure AttachmentOracle where
  now : Timestamp
  fate : CallFate := .answered
  deriving DecidableEq, Repr

/-! ## Policy -/

/-- `pendingAllocationTtlSeconds`, in milliseconds. -/
def pendingAllocationTtl : Timestamp := 24 * 60 * 60 * 1000

/-- `pendingAttachmentExpiresAt`. -/
def pendingAttachmentExpiresAt (reservedAt : Timestamp) : Timestamp :=
  reservedAt + pendingAllocationTtl

/-- `pendingAttachmentExpiredBefore`. -/
def pendingAttachmentExpiredBefore (now : Timestamp) : Timestamp := now - pendingAllocationTtl

/-- `maxR2DeleteKeysPerRequest`. -/
def maxR2DeleteKeysPerRequest : Nat := 1000

/-! ## Reads -/

/-- `findCipherById`. -/
def findCipherById (id userId : String) (db : Db) : Option Cipher :=
  db.ciphers.rows.find? fun c => c.Personal id userId

/-- `findCipherAttachment`. -/
def findCipherAttachment (input : CipherAttachmentLookupInput) (db : Db) :
    Option CipherAttachment :=
  db.cipherAttachments.rows.find? fun a => input.Named a

/-- The join of `listCipherAttachmentObjectKeysForOwnedCiphers`. -/
def CipherAttachment.OwnedAmong (db : Db) (ids : List String) (userId : String)
    (a : CipherAttachment) : Prop :=
  a.userId = userId ∧ ∃ c ∈ db.ciphers.rows, c.id = a.cipherId ∧ c.PersonalAmong ids userId

instance (db : Db) (ids : List String) (userId : String) :
    DecidablePred (CipherAttachment.OwnedAmong db ids userId) := fun _ =>
  inferInstanceAs (Decidable (_ ∧ ∃ c ∈ db.ciphers.rows, _))

/-- The distinct keys of `listCipherAttachmentObjectKeysForOwnedCiphers`, whose chunks have the size
of those of `chunkCipherIds`. -/
def listCipherAttachmentObjectKeys (ids : List String) (userId : String) (db : Db) : List String :=
  ((chunkCipherIds ids).flatMap fun chunk =>
    ((db.cipherAttachments.rows.filter fun a => a.OwnedAmong db chunk userId).mergeSort
      fun a b => a.id ≤ b.id).map CipherAttachment.objectKey).eraseDups

/-! ## The requests -/

/-- An upload of an allocated attachment, with the size and the content type of its body. -/
structure AttachmentUpload extends CipherAttachmentLookupInput where
  lookupNow : Timestamp
  size : Nat
  contentType : String
  deriving DecidableEq, Repr

/-- A permanent deletion of one cipher or of several. -/
inductive PermanentDeletion where
  | one (input : CipherRestoreInput) (context : OrganizationAccessContext)
  | several (input : CipherBulkMutationInput)
  deriving DecidableEq, Repr

namespace PermanentDeletion

def ids : PermanentDeletion → List String
  | one input _ => [input.id]
  | several input => input.ids

def userId : PermanentDeletion → String
  | one input _ => input.userId
  | several input => input.userId

/-- The deletion in D1. -/
def run : PermanentDeletion → Db → Db × Except Failure Unit
  | one input _, db => (permanentlyDeleteCipher input db).map id (Except.map fun _ => ())
  | several input, db => (bulkPermanentlyDeleteCiphers input db).map id (Except.map fun _ => ())

end PermanentDeletion

/-- A request between two of its awaits. -/
inductive AttachmentPhase where
  /-- `uploadPreallocatedCipherAttachmentRoute`. -/
  | findingCipher (upload : AttachmentUpload)
  | findingAttachment (upload : AttachmentUpload)
  | reserving (upload : AttachmentUpload) (attachment : CipherAttachment)
  | rereading (upload : AttachmentUpload) (attachment : CipherAttachment)
  | putting (upload : AttachmentUpload) (attachment : CipherAttachment) (reservedAt : Timestamp)
      (requiresTransition : Bool)
  | marking (upload : AttachmentUpload) (attachment : CipherAttachment) (reservedAt : Timestamp)
  | confirming (upload : AttachmentUpload) (attachment : CipherAttachment)
  | compensating (upload : AttachmentUpload) (attachment : CipherAttachment)
  /-- The deletion of an attachment. -/
  | findingDeleted (target : CipherAttachmentLookupInput)
  | deletingObject (target : CipherAttachmentLookupInput) (objectKey : String)
  | deletingRow (target : CipherAttachmentLookupInput)
  /-- `permanentlyDeleteCipherById` and `bulkPermanentlyDeleteCiphersRoute`. -/
  | resolving (deletion : PermanentDeletion)
  | listing (deletion : PermanentDeletion)
  | deletingObjects (deletion : PermanentDeletion) (deleted remaining : List String)
  | deletingCiphers (deletion : PermanentDeletion) (deleted : List String)
  | finished
  deriving DecidableEq, Repr

/-- The stores between two calls. -/
structure AttachmentStores where
  db : Db
  objects : List String := []

namespace AttachmentPhase

variable (maxStorageBytes : Nat) (oracle : AttachmentOracle) (s : AttachmentStores)

/-- The lookups of an upload: the attachment is there, its lease runs and its size is the
allocated one. -/
def locate (upload : AttachmentUpload) (attachment : CipherAttachment) : AttachmentPhase :=
  if attachment.contentType = none ∧
      pendingAttachmentExpiresAt attachment.updatedAt ≤ upload.lookupNow then finished
  else if maxStorageBytes < upload.size ∨ upload.size ≠ attachment.size then finished
  else if attachment.contentType = none then reserving upload attachment
  else putting upload attachment oracle.now false

/-- The next step of a request. -/
def advance : AttachmentPhase → AttachmentStores × AttachmentPhase
  | findingCipher upload =>
    match oracle.fate.read (findCipherById upload.cipherId upload.userId s.db) with
    | some (some c) => (s, if c.deletedAt = none then findingAttachment upload else finished)
    | _ => (s, finished)
  | findingAttachment upload =>
    match oracle.fate.read (findCipherAttachment upload.toCipherAttachmentLookupInput s.db) with
    | some (some attachment) => (s, locate maxStorageBytes oracle upload attachment)
    | _ => (s, finished)
  | reserving upload attachment =>
    let call := oracle.fate.d1 (reserveCipherAttachmentUpload upload.toCipherAttachmentLookupInput
      attachment.size (pendingAttachmentExpiredBefore oracle.now) maxStorageBytes oracle.now) s.db
    ({ s with db := call.1 },
      match call.2 with
      | some true => putting upload attachment oracle.now true
      | some false => rereading upload attachment
      | none => finished)
  | rereading upload attachment =>
    match oracle.fate.read (findCipherAttachment upload.toCipherAttachmentLookupInput s.db) with
    | some (some current) =>
      (s, if current.contentType = none then finished
        else putting upload attachment oracle.now false)
    | _ => (s, finished)
  | putting upload attachment reservedAt requiresTransition =>
    ({ s with objects := oracle.fate.r2 (List.insert attachment.objectKey) s.objects },
      if oracle.fate = .answered ∧ requiresTransition = true then
        marking upload attachment reservedAt
      else finished)
  | marking upload attachment reservedAt =>
    let call := oracle.fate.d1 (markCipherAttachmentUploaded upload.toCipherAttachmentLookupInput
      upload.contentType reservedAt reservedAt) s.db
    ({ s with db := call.1 },
      if call.2 = some true then finished else confirming upload attachment)
  | confirming upload attachment =>
    match oracle.fate.read (findCipherAttachment upload.toCipherAttachmentLookupInput s.db) with
    | some none => (s, compensating upload attachment)
    | _ => (s, finished)
  | compensating _ attachment =>
    ({ s with objects := oracle.fate.r2 (List.filter (· ≠ attachment.objectKey)) s.objects },
      finished)
  | findingDeleted target =>
    match oracle.fate.read (findCipherAttachment target s.db) with
    | some (some attachment) => (s, deletingObject target attachment.objectKey)
    | _ => (s, finished)
  | deletingObject target objectKey =>
    ({ s with objects := oracle.fate.r2 (List.filter (· ≠ objectKey)) s.objects },
      if oracle.fate = .answered then deletingRow target else finished)
  | deletingRow target =>
    ({ s with db := (oracle.fate.d1 (deleteCipherAttachment target) s.db).1 }, finished)
  | resolving (.one input context) =>
    match oracle.fate.read (resolveCipherAccess s.db context input.id) with
    | some access =>
      -- The cipher of an organization has no attachment; its deletion is not one of these.
      (s, if access.canDelete = true ∧ access.organizationId = none then
        listing (.one input context) else finished)
    | none => (s, finished)
  | resolving (.several input) => (s, listing (.several input))
  | listing deletion =>
    match oracle.fate.read (listCipherAttachmentObjectKeys deletion.ids deletion.userId s.db) with
    | some objectKeys => (s, deletingObjects deletion [] objectKeys)
    | none => (s, finished)
  | deletingObjects deletion deleted remaining =>
    if remaining = [] then (s, deletingCiphers deletion deleted)
    else
      let chunk := remaining.take maxR2DeleteKeysPerRequest
      ({ s with objects := oracle.fate.r2 (List.filter (· ∉ chunk)) s.objects },
        if oracle.fate = .answered then
          deletingObjects deletion (deleted ++ chunk) (remaining.drop maxR2DeleteKeysPerRequest)
        else finished)
  | deletingCiphers deletion _ =>
    ({ s with db := (oracle.fate.d1 deletion.run s.db).1 }, finished)
  | finished => (s, finished)

end AttachmentPhase

/-! ## The system -/

/-- A request that writes attachments. -/
inductive AttachmentRequest where
  | upload (upload : AttachmentUpload)
  | delete (target : CipherAttachmentLookupInput)
  | permanentlyDelete (deletion : PermanentDeletion)
  deriving DecidableEq, Repr

def AttachmentRequest.start : AttachmentRequest → AttachmentPhase
  | .upload request => .findingCipher request
  | delete target => .findingDeleted target
  | permanentlyDelete deletion => .resolving deletion

/-- The allocation of `createCipherAttachmentV2Route`. -/
structure AttachmentAllocation where
  id : String
  userId : String
  cipherId : String
  objectKey : String
  fileName : String
  attachmentKey : String
  size : Nat
  deriving DecidableEq, Repr

def AttachmentAllocation.input (allocation : AttachmentAllocation) (now : Timestamp) :
    CipherAttachmentCreateInput where
  id := allocation.id
  userId := allocation.userId
  cipherId := allocation.cipherId
  objectKey := allocation.objectKey
  fileName := allocation.fileName
  attachmentKey := allocation.attachmentKey
  size := allocation.size
  contentType := none
  revisionDate := now
  createdAt := now
  updatedAt := now

/-- The stores, the requests that have arrived, and the checks of the storage of an account so far:
each with the account and the time before which it took leases for expired. -/
structure AttachmentWorld extends AttachmentStores where
  requests : List AttachmentPhase := []
  checks : List (String × Timestamp) := []

inductive AttachmentStep where
  | allocate (allocation : AttachmentAllocation) (oracle : AttachmentOracle)
  | arrive (request : AttachmentRequest)
  | advance (index : Nat) (oracle : AttachmentOracle)
  | cleanup (limit : Nat) (oracle : AttachmentOracle)
  | surroundings (db' : Db)

/-- The check a step makes of the storage of an account. -/
def AttachmentPhase.check (oracle : AttachmentOracle) : AttachmentPhase → List (String × Timestamp)
  | reserving upload _ => [(upload.userId, pendingAttachmentExpiredBefore oracle.now)]
  | _ => []

namespace AttachmentStep

def exec (maxStorageBytes : Nat) : AttachmentStep → AttachmentWorld → AttachmentWorld
  | allocate allocation oracle, w =>
    let expiredBefore := pendingAttachmentExpiredBefore oracle.now
    { w with
      db := (oracle.fate.d1 (createPendingCipherAttachment (allocation.input oracle.now)
        maxStorageBytes expiredBefore) w.db).1
      checks := (allocation.userId, expiredBefore) :: w.checks }
  | arrive request, w => { w with requests := w.requests ++ [request.start] }
  | advance index oracle, w =>
    match w.requests[index]? with
    | none => w
    | some phase =>
      let next := phase.advance maxStorageBytes oracle w.toAttachmentStores
      { toAttachmentStores := next.1
        requests := w.requests.set index next.2
        checks := phase.check oracle ++ w.checks }
  | cleanup limit oracle, w =>
    { w with db := (oracle.fate.d1 (deleteExpiredPendingCipherAttachments
        (pendingAttachmentExpiredBefore oracle.now) limit) w.db).1 }
  | surroundings db', w => { w with db := db' }

/-- An allocation draws its id and its object key. -/
def draws : AttachmentStep → List String
  | allocate allocation _ => [allocation.id, allocation.objectKey]
  | _ => []

end AttachmentStep

/-- An attachment is one of a personal cipher of its account. -/
def Db.AttachmentsPlaced (db : Db) : Prop :=
  ∀ a ∈ db.cipherAttachments.rows, ∃ c ∈ db.ciphers.rows, c.Personal a.cipherId a.userId

instance (db : Db) : Decidable db.AttachmentsPlaced :=
  inferInstanceAs (Decidable (∀ a ∈ db.cipherAttachments.rows, ∃ c ∈ db.ciphers.rows, _))

/-- The surroundings may remove attachments and leave the others placed. -/
def AttachmentStep.Possible (w : AttachmentWorld) : AttachmentStep → Prop
  | surroundings db' =>
    db'.cipherAttachments.rows.Sublist w.db.cipherAttachments.rows ∧ db'.AttachmentsPlaced
  | _ => True

instance (w : AttachmentWorld) : ∀ step : AttachmentStep, Decidable (step.Possible w)
  | .surroundings db' => inferInstanceAs (Decidable
      (db'.cipherAttachments.rows.Sublist w.db.cipherAttachments.rows ∧ db'.AttachmentsPlaced))
  | .allocate .. | .arrive _ | .advance .. | .cleanup .. => .isTrue trivial

/-- Requests for attachments, interleaved between any two of their awaits. -/
def attachmentSystem (maxStorageBytes : Nat) : System AttachmentWorld AttachmentStep String :=
  (System.ofFunction (AttachmentStep.exec maxStorageBytes) AttachmentStep.draws).restrict
    AttachmentStep.Possible

/-! ## What the calls do to the attachments -/

/-- Two images of one attachment: what an allocation fixes is what it was. -/
def CipherAttachment.SameAllocation (a b : CipherAttachment) : Prop :=
  a.id = b.id ∧ a.userId = b.userId ∧ a.cipherId = b.cipherId ∧ a.objectKey = b.objectKey ∧
    a.size = b.size

theorem CipherAttachment.SameAllocation.named {a b : CipherAttachment} (h : a.SameAllocation b)
    {input : CipherAttachmentLookupInput} : input.Named a ↔ input.Named b := by
  obtain ⟨hid, huser, hcipher, -, -⟩ := h
  rw [CipherAttachmentLookupInput.Named, hid, huser, hcipher]
  rfl

theorem CipherAttachment.SameAllocation.refl (a : CipherAttachment) : a.SameAllocation a :=
  ⟨rfl, rfl, rfl, rfl, rfl⟩

theorem CipherAttachment.SameAllocation.trans {a b c : CipherAttachment} (h : a.SameAllocation b)
    (h' : b.SameAllocation c) : a.SameAllocation c :=
  ⟨h.1.trans h'.1, h.2.1.trans h'.2.1, h.2.2.1.trans h'.2.2.1, h.2.2.2.1.trans h'.2.2.2.1,
    h.2.2.2.2.trans h'.2.2.2.2⟩

/-- No attachment is new, and those that stay are placed where they were. -/
structure AttachmentsKept (db db' : Db) : Prop where
  old : ∀ a' ∈ db'.cipherAttachments.rows, ∃ a ∈ db.cipherAttachments.rows, a'.SameAllocation a
  placed : db.AttachmentsPlaced → db'.AttachmentsPlaced

namespace AttachmentsKept

variable {db db' db'' : Db}

theorem refl (db : Db) : AttachmentsKept db db := ⟨fun a ha => ⟨a, ha, .refl a⟩, id⟩

theorem trans (h : AttachmentsKept db db') (h' : AttachmentsKept db' db'') :
    AttachmentsKept db db'' := by
  refine ⟨fun a'' ha'' => ?_, h'.placed ∘ h.placed⟩
  obtain ⟨a', ha', hsame'⟩ := h'.old a'' ha''
  obtain ⟨a, ha, hsame⟩ := h.old a' ha'
  exact ⟨a, ha, hsame'.trans hsame⟩

/-- Where the ciphers stay, what is placed stays placed. -/
theorem of_ciphers (hold : ∀ a' ∈ db'.cipherAttachments.rows,
    ∃ a ∈ db.cipherAttachments.rows, a'.SameAllocation a) (hciphers : db'.ciphers = db.ciphers) :
    AttachmentsKept db db' := by
  refine ⟨hold, fun h a' ha' => ?_⟩
  obtain ⟨a, ha, -, huser, hcipher, -⟩ := hold a' ha'
  rw [hciphers, huser, hcipher]
  exact h a ha

theorem of_update {T : Table CipherAttachment} {hit : CipherAttachment → Prop} [DecidablePred hit]
    {set : CipherAttachment → CipherAttachment}
    (hT : T.rows = updateWhere hit set db.cipherAttachments.rows)
    (hset : ∀ a, (set a).SameAllocation a) :
    AttachmentsKept db { db with cipherAttachments := T } := by
  refine of_ciphers (fun a' ha' => ?_) rfl
  rw [show ({ db with cipherAttachments := T } : Db).cipherAttachments = T from rfl, hT] at ha'
  rcases mem_updateWhere_cases ha' with ⟨ha, -⟩ | ⟨a, ha, -, rfl⟩
  · exact ⟨a', ha, .refl a'⟩
  · exact ⟨a, ha, hset a⟩

theorem of_sublist {T : Table CipherAttachment}
    (hT : T.rows.Sublist db.cipherAttachments.rows) :
    AttachmentsKept db { db with cipherAttachments := T } :=
  of_ciphers (fun a' ha' => ⟨a', hT.subset ha', .refl a'⟩) rfl

end AttachmentsKept

section Calls

variable {fate : CallFate} {db : Db}

/-- A call of D1 takes effect or leaves the database as it is. -/
theorem CallFate.d1_cases {α : Type} (fate : CallFate) (call : Db → Db × Except Failure α)
    (db : Db) : fate.d1 call db = (db, none) ∨
      fate ≠ .failed ∧ (fate.d1 call db).1 = (call db).1 ∧
        ((fate.d1 call db).2 = none ∨ (fate.d1 call db).2 = (call db).2.toOption) := by
  cases fate with
  | answered => exact Or.inr ⟨by decide, rfl, Or.inr rfl⟩
  | failed => exact Or.inl rfl
  | lost => exact Or.inr ⟨by decide, rfl, Or.inl rfl⟩

theorem CallFate.d1_kept {α : Type} {call : Db → Db × Except Failure α}
    (h : AttachmentsKept db (call db).1) : AttachmentsKept db (fate.d1 call db).1 := by
  rcases fate.d1_cases call db with hdb | ⟨-, hdb, -⟩ <;> rw [hdb]
  · exact .refl db
  · exact h

/-- The row of an attachment, reserved. -/
def CipherAttachment.touch (updatedAt : Timestamp) (a : CipherAttachment) : CipherAttachment :=
  { a with updatedAt := updatedAt }

/-- The row of an attachment, uploaded. -/
def CipherAttachment.upload (contentType : String) (revisionDate updatedAt : Timestamp)
    (a : CipherAttachment) : CipherAttachment :=
  { a with contentType := some contentType, revisionDate := revisionDate, updatedAt := updatedAt }

theorem reserveCipherAttachmentUpload_eq (input : CipherAttachmentLookupInput) (size : Nat)
    (expiredBefore : Timestamp) (maxStorageBytes : Nat) (updatedAt : Timestamp) (db : Db) :
    ∃ T : Table CipherAttachment,
      (reserveCipherAttachmentUpload input size expiredBefore maxStorageBytes updatedAt db).1 =
        { db with cipherAttachments := T } ∧
      T.rows = updateWhere (fun a => input.Named a ∧ a.contentType = none ∧
        expiredBefore < a.updatedAt ∧ size + attachmentStorage db input.userId expiredBefore
          (fun b => b.id ≠ input.id) ≤ maxStorageBytes) (CipherAttachment.touch updatedAt)
        db.cipherAttachments.rows := by
  have hset : KeepsKeys (CipherAttachment.touch updatedAt) := fun a => ⟨rfl, fun _ h => h⟩
  obtain ⟨T, r, hrun, hT, -⟩ := TableIn.updateReturning_total (s := db) Db.cipherAttachmentsIn
    (fun db _ a => input.Named a ∧ a.contentType = none ∧ expiredBefore < a.updatedAt ∧
      size + attachmentStorage db input.userId expiredBefore (fun b => b.id ≠ input.id) ≤
        maxStorageBytes) (fun _ => CipherAttachment.touch updatedAt) 0 (fun _ => []) hset
  refine ⟨T, ?_, hT⟩
  unfold reserveCipherAttachmentUpload execute TableIn.update
  rw [show (fun (_ : Db) (a : CipherAttachment) => { a with updatedAt := updatedAt }) =
    fun _ => CipherAttachment.touch updatedAt from rfl, hrun]

theorem markCipherAttachmentUploaded_eq (input : CipherAttachmentLookupInput) (contentType : String)
    (revisionDate updatedAt : Timestamp) (db : Db) :
    ∃ T : Table CipherAttachment,
      (markCipherAttachmentUploaded input contentType revisionDate updatedAt db).1 =
        { db with cipherAttachments := T } ∧
      T.rows = updateWhere (fun a => input.Named a ∧ a.contentType = none)
        (CipherAttachment.upload contentType revisionDate updatedAt) db.cipherAttachments.rows := by
  have hset : KeepsKeys (CipherAttachment.upload contentType revisionDate updatedAt) :=
    fun a => ⟨rfl, fun _ h => h⟩
  obtain ⟨T, r, hrun, hT, -⟩ := TableIn.updateReturning_total (s := db) Db.cipherAttachmentsIn
    (fun _ _ a => input.Named a ∧ a.contentType = none)
    (fun _ => CipherAttachment.upload contentType revisionDate updatedAt) 0 (fun _ => []) hset
  refine ⟨T, ?_, hT⟩
  unfold markCipherAttachmentUploaded execute TableIn.update
  rw [show (fun (_ : Db) (a : CipherAttachment) => { a with
      contentType := some contentType, revisionDate := revisionDate, updatedAt := updatedAt }) =
    fun _ => CipherAttachment.upload contentType revisionDate updatedAt from rfl, hrun]

/-- A deletion of attachments by one statement. -/
theorem executeDelete_eq {α : Type} (hit : Db → CipherAttachment → Prop)
    [∀ s, DecidablePred (hit s)] (interpret : StatementResult → Except String α) (db : Db) :
    ∃ T : Table CipherAttachment,
      (execute (Db.cipherAttachmentsIn.delete fun db _ => hit db) interpret db).1 =
        { db with cipherAttachments := T } ∧
      T.rows = deleteWhere (hit db) db.cipherAttachments.rows := by
  have hk : KeyedRows (deleteWhere (hit db) db.cipherAttachments.rows) :=
    deleteWhere_keyed db.cipherAttachments.keyed
  refine ⟨⟨_, hk⟩, ?_, rfl⟩
  simp only [execute, TableIn.delete, TableIn.deleteReturning, TableIn.write_of_keyed hk]
  split <;> rfl

theorem cascadeCipherDelete_eq (deleted : List Cipher) (db : Db) :
    ∃ (A : Table CipherAttachment) (M : Table CollectionCipher),
      (cascadeCipherDelete deleted db).1 =
        { db with cipherAttachments := A, collectionCiphers := M } ∧
      A.rows = deleteWhere (fun a => ∃ c ∈ deleted, a.cipherId = c.id) db.cipherAttachments.rows ∧
      M.rows = deleteWhere (fun m => ∃ c ∈ deleted, m.cipherId = c.id)
        db.collectionCiphers.rows := by
  obtain ⟨A, hdb, hA⟩ := Db.cipherAttachmentsIn.nestedDelete_eq
    (fun a => ∃ c ∈ deleted, a.cipherId = c.id) db
  obtain ⟨M, hdb', hM⟩ := Db.collectionCiphersIn.nestedDelete_eq
    (fun m => ∃ c ∈ deleted, m.cipherId = c.id) { db with cipherAttachments := A }
  refine ⟨A, M, ?_, hA, hM⟩
  simp only [cascadeCipherDelete, hdb]
  exact hdb'

end Calls

/-! ### Permanent deletions -/

/-- Attachments are only removed, and of the placed ones those of `gone` are. -/
structure AttachmentsRemoved (gone : CipherAttachment → Prop) (db db' : Db) : Prop where
  sublist : db'.cipherAttachments.rows.Sublist db.cipherAttachments.rows
  placed : db.AttachmentsPlaced → db'.AttachmentsPlaced
  removed : db.AttachmentsPlaced → ∀ a ∈ db'.cipherAttachments.rows, ¬ gone a

namespace AttachmentsRemoved

variable {gone gone' : CipherAttachment → Prop} {db db' db'' : Db}

theorem kept (h : AttachmentsRemoved gone db db') : AttachmentsKept db db' :=
  ⟨fun a ha => ⟨a, h.sublist.subset ha, .refl a⟩, h.placed⟩

theorem trans (h : AttachmentsRemoved gone db db') (h' : AttachmentsRemoved gone' db' db'') :
    AttachmentsRemoved (fun a => gone a ∨ gone' a) db db'' where
  sublist := h'.sublist.trans h.sublist
  placed := h'.placed ∘ h.placed
  removed hplaced a ha := by
    rintro (hgone | hgone)
    · exact h.removed hplaced a (h'.sublist.subset ha) hgone
    · exact h'.removed (h.placed hplaced) a ha hgone

end AttachmentsRemoved

/-- **A deletion of ciphers takes their attachments along.** -/
theorem cipherDelete_removed {ids : List String} {userId : String} {db : Db} {T : Table Cipher}
    {deleted : List Cipher}
    (hdeleted : ∀ c, c ∈ deleted ↔ c ∈ db.ciphers.rows ∧ c.PersonalAmong ids userId)
    (hT : T.rows = deleteWhere (fun c => c.PersonalAmong ids userId) db.ciphers.rows) :
    AttachmentsRemoved (fun a => a.cipherId ∈ ids ∧ a.userId = userId) db
      (cascadeCipherDelete deleted { db with ciphers := T }).1 := by
  obtain ⟨A, M, hdb, hA, -⟩ := cascadeCipherDelete_eq deleted { db with ciphers := T }
  rw [hdb]
  have hmem : ∀ a ∈ A.rows, a ∈ db.cipherAttachments.rows ∧
      ¬ ∃ c ∈ deleted, a.cipherId = c.id := by
    intro a ha
    rw [hA] at ha
    exact mem_deleteWhere.mp ha
  refine ⟨?_, fun hplaced a ha => ?_, fun hplaced a ha hgone => ?_⟩
  · simp only [hA]
    exact List.filter_sublist
  · obtain ⟨c, hc, hpersonal⟩ := hplaced a (hmem a ha).1
    refine ⟨c, ?_, hpersonal⟩
    simp only [hT]
    refine mem_deleteWhere.mpr ⟨hc, fun hhit => (hmem a ha).2 ?_⟩
    exact ⟨c, (hdeleted c).mpr ⟨hc, hhit⟩, hpersonal.1.symm⟩
  · obtain ⟨c, hc, hid, huser, horg⟩ := hplaced a (hmem a ha).1
    refine (hmem a ha).2 ⟨c, (hdeleted c).mpr ⟨hc, ?_, huser.trans hgone.2, horg⟩, hid.symm⟩
    rw [hid]
    exact hgone.1

theorem permanentlyDeleteCipher_removed (input : CipherRestoreInput) (db : Db) :
    AttachmentsRemoved (fun a => a.cipherId ∈ [input.id] ∧ a.userId = input.userId) db
      (permanentlyDeleteCipher input db).1 := by
  obtain ⟨T, hcall, hT⟩ := Db.ciphersIn.callDelete_eq
    (fun _ c => c.Personal input.id input.userId) db cascadeCipherDelete
  have hdb : (permanentlyDeleteCipher input db).1 = (cascadeCipherDelete
      (db.ciphers.rows.filter fun c => c.Personal input.id input.userId)
      { db with ciphers := T }).1 := by
    rw [permanentlyDeleteCipher, hcall]
    rfl
  have hsame : ∀ c : Cipher, c.Personal input.id input.userId ↔
      c.PersonalAmong [input.id] input.userId := fun c => by
    simp only [Cipher.Personal, Cipher.PersonalAmong, List.mem_singleton]
  rw [hdb]
  refine cipherDelete_removed (fun c => ?_) (hT.trans (deleteWhere_congr fun c _ => hsame c))
  rw [List.mem_filter, decide_eq_true_eq, hsame c]

/-- The chunks leave out no id. -/
theorem exists_chunk {ids : List String} {id : String} (hid : id ∈ ids) :
    ∃ chunk ∈ chunkCipherIds ids, id ∈ chunk := by
  induction ids using chunkCipherIds.induct with
  | case1 => simp at hid
  | case2 ids hne ih =>
    rw [chunkCipherIds, if_neg hne]
    rw [← List.take_append_drop cipherBulkMutationChunkSize ids, List.mem_append] at hid
    rcases hid with htake | hdrop
    · exact ⟨_, List.mem_cons_self, htake⟩
    · obtain ⟨chunk, hchunk, hmem⟩ := ih hdrop
      exact ⟨chunk, List.mem_cons_of_mem _ hchunk, hmem⟩

/-- A deletion of one chunk takes place. -/
theorem deleteChunk_ok (input : CipherBulkMutationInput) (ids : List String) (db : Db) (n : Nat) :
    ∃ db' r, input.delete ids db n = .ok (db', r) ∧
      AttachmentsRemoved (fun a => a.cipherId ∈ ids ∧ a.userId = input.userId) db db' := by
  have hk : KeyedRows (deleteWhere (fun c => c.PersonalAmong ids input.userId) db.ciphers.rows) :=
    deleteWhere_keyed db.ciphers.keyed
  cases hrun : input.delete ids db n with
  | error e =>
    simp [CipherBulkMutationInput.delete, TableIn.deleteTriggering, TableIn.deleteReturning,
      TableIn.write_of_keyed hk, fire] at hrun
  | ok outcome =>
    obtain ⟨T, hT, hdb, -⟩ := TableIn.deleteTriggering_ok hrun
    refine ⟨outcome.1, outcome.2, rfl, ?_⟩
    rw [hdb]
    exact cipherDelete_removed (fun c => by simp) hT

theorem deleteChunks_removed (input : CipherBulkMutationInput) (chunks : List (List String))
    (db : Db) (n : Nat) :
    ∃ db' rs, runFrom (chunks.map input.delete) db n = .ok (db', rs) ∧
      AttachmentsRemoved (fun a => (∃ chunk ∈ chunks, a.cipherId ∈ chunk) ∧
        a.userId = input.userId) db db' := by
  induction chunks generalizing db n with
  | nil => exact ⟨db, [], rfl, .refl _, id, fun _ a _ h => by simp at h⟩
  | cons chunk chunks ih =>
    obtain ⟨db₁, r, hrun, hremoved⟩ := deleteChunk_ok input chunk db n
    obtain ⟨db₂, rs, hrest, hremoved'⟩ := ih db₁ r.changes
    refine ⟨db₂, r :: rs, runFrom_cons_ok hrun hrest, ?_⟩
    have hboth := hremoved.trans hremoved'
    refine ⟨hboth.sublist, hboth.placed, fun hplaced a ha => ?_⟩
    rintro ⟨⟨chunk', hchunk', hid⟩, huser⟩
    refine hboth.removed hplaced a ha ?_
    rcases List.mem_cons.mp hchunk' with rfl | hrest'
    · exact Or.inl ⟨hid, huser⟩
    · exact Or.inr ⟨⟨chunk', hrest', hid⟩, huser⟩

/-- **A permanent deletion that takes effect leaves no attachment of its ciphers.** -/
theorem PermanentDeletion.run_removed (deletion : PermanentDeletion) (db : Db) :
    AttachmentsRemoved (fun a => a.cipherId ∈ deletion.ids ∧ a.userId = deletion.userId) db
      (deletion.run db).1 := by
  cases deletion with
  | one input context => exact permanentlyDeleteCipher_removed input db
  | several input =>
    obtain ⟨db', rs, hrun, hremoved⟩ :=
      deleteChunks_removed input (chunkCipherIds input.ids) db 0
    have hdb : ((several input).run db).1 = db' := by
      simp only [run, bulkPermanentlyDeleteCiphers, runCipherMutationBatch, Prod.map_fst, id]
      rw [commit_of_run hrun]
    rw [hdb]
    refine ⟨hremoved.sublist, hremoved.placed, fun hplaced a ha hgone => ?_⟩
    exact hremoved.removed hplaced a ha ⟨exists_chunk hgone.1, hgone.2⟩

/-! ### The steps of the requests -/

/-- **No step of a request adds an attachment.** -/
theorem AttachmentPhase.advance_kept (maxStorageBytes : Nat) (oracle : AttachmentOracle)
    (s : AttachmentStores) (phase : AttachmentPhase) :
    AttachmentsKept s.db (phase.advance maxStorageBytes oracle s).1.db := by
  cases phase with
  | reserving upload attachment =>
    obtain ⟨T, hdb, hT⟩ := reserveCipherAttachmentUpload_eq upload.toCipherAttachmentLookupInput
      attachment.size (pendingAttachmentExpiredBefore oracle.now) maxStorageBytes oracle.now s.db
    refine CallFate.d1_kept ?_
    rw [hdb]
    exact .of_update hT fun a => ⟨rfl, rfl, rfl, rfl, rfl⟩
  | marking upload attachment reservedAt =>
    obtain ⟨T, hdb, hT⟩ := markCipherAttachmentUploaded_eq upload.toCipherAttachmentLookupInput
      upload.contentType reservedAt reservedAt s.db
    refine CallFate.d1_kept ?_
    rw [hdb]
    exact .of_update hT fun a => ⟨rfl, rfl, rfl, rfl, rfl⟩
  | deletingRow target =>
    obtain ⟨T, hdb, hT⟩ := executeDelete_eq (fun _ => target.Named)
      (fun result => .ok (result.metaChanges = 1 : Bool)) s.db
    refine CallFate.d1_kept ?_
    rw [deleteCipherAttachment, hdb]
    exact .of_sublist (hT ▸ List.filter_sublist)
  | deletingCiphers deletion deleted =>
    exact CallFate.d1_kept (deletion.run_removed s.db).kept
  | deletingObjects deletion deleted remaining =>
    dsimp only [advance]
    split <;> exact .refl s.db
  | resolving deletion =>
    cases deletion <;> dsimp only [advance]
    · split <;> exact .refl s.db
    · exact .refl s.db
  | findingCipher | findingAttachment | rereading | confirming | findingDeleted | listing =>
    dsimp only [advance]
    split <;> exact .refl s.db
  | putting | compensating | deletingObject | finished => exact .refl s.db

/-! ## What a request knows of its attachment -/

/-- An attachment an upload has read: as long as it is there, its allocation is what was read. -/
structure AttachmentUpload.Knows (upload : AttachmentUpload) (issued : List String) (db : Db)
    (attachment : CipherAttachment) : Prop where
  named : upload.Named attachment
  issued : attachment.id ∈ issued ∧ attachment.objectKey ∈ issued
  same : ∀ a ∈ db.cipherAttachments.rows, a.id = attachment.id → a.SameAllocation attachment
  key : ∀ a ∈ db.cipherAttachments.rows, a.objectKey = attachment.objectKey → a.id = attachment.id

/-- The attachments a permanent deletion is about. -/
def PermanentDeletion.Covers (deletion : PermanentDeletion) (a : CipherAttachment) : Prop :=
  a.cipherId ∈ deletion.ids ∧ a.userId = deletion.userId

instance (deletion : PermanentDeletion) : DecidablePred deletion.Covers := fun _ =>
  inferInstanceAs (Decidable (_ ∧ _))

namespace AttachmentPhase

/-- What a request has read stays true of the attachments that are there. -/
def Informed (issued : List String) (db : Db) : AttachmentPhase → Prop
  | reserving upload attachment => upload.Knows issued db attachment
  | rereading upload attachment => upload.Knows issued db attachment
  | putting upload attachment _ _ => upload.Knows issued db attachment
  | marking upload attachment _ => upload.Knows issued db attachment
  | confirming upload attachment => upload.Knows issued db attachment
  | compensating upload attachment => upload.Knows issued db attachment
  | deletingObject target objectKey => objectKey ∈ issued ∧
    ∀ a ∈ db.cipherAttachments.rows, a.objectKey = objectKey → target.Named a
  | deletingObjects deletion _ remaining => ∀ objectKey ∈ remaining, objectKey ∈ issued ∧
    ∀ a ∈ db.cipherAttachments.rows, a.objectKey = objectKey → deletion.Covers a
  | _ => True

end AttachmentPhase

/-- The attachments are old ones, or have names that were not in use. -/
def AttachmentsEvolved (issued : List String) (db db' : Db) : Prop :=
  ∀ a' ∈ db'.cipherAttachments.rows, (∃ a ∈ db.cipherAttachments.rows, a'.SameAllocation a) ∨
    a'.id ∉ issued ∧ a'.objectKey ∉ issued

theorem AttachmentsKept.evolved {issued : List String} {db db' : Db} (h : AttachmentsKept db db') :
    AttachmentsEvolved issued db db' := fun a ha => Or.inl (h.old a ha)

section Evolved

variable {issued issued' : List String} {db db' : Db}

/-- What is known of the attachments with an issued key is known of their later images. -/
theorem AttachmentsEvolved.forall_key (h : AttachmentsEvolved issued db db') {objectKey : String}
    (hissued : objectKey ∈ issued) {P : CipherAttachment → Prop}
    (hP : ∀ {a' a : CipherAttachment}, a'.SameAllocation a → P a → P a')
    (hall : ∀ a ∈ db.cipherAttachments.rows, a.objectKey = objectKey → P a) :
    ∀ a ∈ db'.cipherAttachments.rows, a.objectKey = objectKey → P a := by
  intro a' ha' hkey
  rcases h a' ha' with ⟨a, ha, hsame⟩ | ⟨-, hnew⟩
  · exact hP hsame (hall a ha (hsame.2.2.2.1.symm.trans hkey))
  · exact absurd (hkey ▸ hissued) hnew

theorem AttachmentUpload.Knows.evolve {upload : AttachmentUpload} {attachment : CipherAttachment}
    (h : upload.Knows issued db attachment) (hevolved : AttachmentsEvolved issued db db')
    (hissued : ∀ x ∈ issued, x ∈ issued') : upload.Knows issued' db' attachment where
  named := h.named
  issued := ⟨hissued _ h.issued.1, hissued _ h.issued.2⟩
  same a' ha' hid := by
    rcases hevolved a' ha' with ⟨a, ha, hsame⟩ | ⟨hnew, -⟩
    · exact hsame.trans (h.same a ha (hsame.1.symm.trans hid))
    · exact absurd (hid ▸ h.issued.1) hnew
  key := hevolved.forall_key h.issued.2 (fun hsame hid => hsame.1.trans hid) h.key

/-- **What a request knows survives every step.** -/
theorem AttachmentPhase.Informed.evolve {phase : AttachmentPhase} (h : phase.Informed issued db)
    (hevolved : AttachmentsEvolved issued db db') (hissued : ∀ x ∈ issued, x ∈ issued') :
    phase.Informed issued' db' := by
  cases phase with
  | reserving | rereading | putting | marking | confirming | compensating =>
    exact AttachmentUpload.Knows.evolve h hevolved hissued
  | deletingObject target objectKey =>
    exact ⟨hissued _ h.1, hevolved.forall_key h.1 (fun hsame hnamed => hsame.named.mpr hnamed) h.2⟩
  | deletingObjects deletion deleted remaining =>
    intro objectKey hkey
    obtain ⟨hold, hcovers⟩ := h objectKey hkey
    refine ⟨hissued _ hold, hevolved.forall_key hold (fun hsame hcovered => ?_) hcovers⟩
    exact ⟨hsame.2.2.1 ▸ hcovered.1, hsame.2.1.trans hcovered.2⟩
  | _ => trivial

/-- The names of the attachments are issued. -/
def Db.AttachmentsIssued (db : Db) (issued : List String) : Prop :=
  ∀ a ∈ db.cipherAttachments.rows, a.id ∈ issued ∧ a.objectKey ∈ issued

instance (db : Db) (issued : List String) : Decidable (db.AttachmentsIssued issued) :=
  inferInstanceAs (Decidable (∀ a ∈ db.cipherAttachments.rows, _))

/-- A stored attachment is known where it is read. -/
theorem knows_of_find (hnames : db.AttachmentsIssued issued) {upload : AttachmentUpload}
    {attachment : CipherAttachment}
    (hfind : findCipherAttachment upload.toCipherAttachmentLookupInput db = some attachment) :
    upload.Knows issued db attachment := by
  have hmem := List.mem_of_find?_eq_some hfind
  have hnamed : upload.Named attachment :=
    of_decide_eq_true (@List.find?_some _ (fun a => decide (upload.Named a)) _ _ hfind)
  refine ⟨hnamed, hnames _ hmem, fun a ha hid => ?_, fun a ha hkey => ?_⟩
  · rw [db.cipherAttachments.eq_of_key ha hmem hid]
    exact .refl attachment
  · rw [db.cipherAttachments.eq_of_alternate ha hmem hkey]

/-- The keys of the list are those of attachments of the ciphers. -/
theorem mem_listCipherAttachmentObjectKeys {ids : List String} {userId objectKey : String}
    (h : objectKey ∈ listCipherAttachmentObjectKeys ids userId db) :
    ∃ a ∈ db.cipherAttachments.rows, a.objectKey = objectKey ∧ a.cipherId ∈ ids ∧
      a.userId = userId := by
  rw [listCipherAttachmentObjectKeys, List.mem_eraseDups, List.mem_flatMap] at h
  obtain ⟨chunk, hchunk, hkey⟩ := h
  obtain ⟨a, ha, rfl⟩ := List.mem_map.mp hkey
  rw [List.mem_mergeSort, List.mem_filter, decide_eq_true_eq] at ha
  obtain ⟨hrow, huser, c, -, hid, hmem, -⟩ := ha
  exact ⟨a, hrow, rfl, hid ▸ mem_of_mem_chunk hchunk _ hmem, huser⟩

end Evolved

/-- **The next step of a request knows what it read.** -/
theorem AttachmentPhase.advance_informed {issued : List String} {maxStorageBytes : Nat}
    {oracle : AttachmentOracle} {s : AttachmentStores} {phase : AttachmentPhase}
    (hnames : s.db.AttachmentsIssued issued) (h : phase.Informed issued s.db) :
    (phase.advance maxStorageBytes oracle s).2.Informed issued
      (phase.advance maxStorageBytes oracle s).1.db := by
  have hkept := phase.advance_kept maxStorageBytes oracle s
  have hread : ∀ {α : Type} {value a : α}, oracle.fate.read value = some a → value = a := by
    intro α value a hread
    unfold CallFate.read at hread
    split at hread
    · exact Option.some.inj hread
    · cases hread
  cases phase with
  | findingCipher upload =>
    dsimp only [advance]
    split
    · dsimp only
      split <;> trivial
    · trivial
  | findingAttachment upload =>
    dsimp only [advance]
    split
    · rename_i attachment hfound
      have hknows := knows_of_find hnames (hread hfound)
      dsimp only [locate]
      split
      · trivial
      split
      · trivial
      split
      · exact hknows
      · exact hknows
    · trivial
  | reserving upload attachment =>
    have hknows := h.evolve hkept.evolved fun _ hx => hx
    dsimp only [advance] at hknows ⊢
    split
    · exact hknows
    · exact hknows
    · trivial
  | rereading upload attachment =>
    dsimp only [advance]
    split
    · dsimp only
      split
      · trivial
      · exact h
    · trivial
  | putting upload attachment reservedAt requiresTransition =>
    dsimp only [advance]
    split
    · exact h
    · trivial
  | marking upload attachment reservedAt =>
    have hknows := h.evolve hkept.evolved fun _ hx => hx
    dsimp only [advance] at hknows ⊢
    split
    · trivial
    · exact hknows
  | confirming upload attachment =>
    dsimp only [advance]
    split
    · exact h
    · trivial
  | findingDeleted target =>
    dsimp only [advance]
    split
    · rename_i attachment hfound
      have hfind := hread hfound
      have hmem := List.mem_of_find?_eq_some hfind
      refine ⟨(hnames _ hmem).2, fun a ha hkey => ?_⟩
      obtain rfl := s.db.cipherAttachments.eq_of_alternate ha hmem hkey
      exact of_decide_eq_true (@List.find?_some _ (fun a => decide (target.Named a)) _ _ hfind)
    · trivial
  | deletingObject target objectKey =>
    dsimp only [advance]
    split <;> trivial
  | resolving deletion =>
    cases deletion with
    | one input context =>
      dsimp only [advance]
      split
      · dsimp only
        split <;> trivial
      · trivial
    | several input => trivial
  | listing deletion =>
    dsimp only [advance]
    split
    · rename_i objectKeys hfound
      have hkeys := hread hfound
      intro objectKey hkey
      rw [← hkeys] at hkey
      obtain ⟨a, ha, rfl, hcovered⟩ := mem_listCipherAttachmentObjectKeys hkey
      refine ⟨(hnames a ha).2, fun b hb hsame => ?_⟩
      obtain rfl := s.db.cipherAttachments.eq_of_alternate hb ha hsame
      exact hcovered
    · trivial
  | deletingObjects deletion deleted remaining =>
    dsimp only [advance]
    split
    · trivial
    · dsimp only
      split
      · exact fun objectKey hkey => h objectKey (List.mem_of_mem_drop hkey)
      · trivial
  | compensating | deletingRow | deletingCiphers | finished => trivial

/-! ## Runs -/

/-- **What every run keeps**: attachments are placed, their names are issued, and every request is
informed. -/
structure RequestsInformed (issued : List String) (db : Db) (requests : List AttachmentPhase) :
    Prop where
  placed : db.AttachmentsPlaced
  names : db.AttachmentsIssued issued
  requests : ∀ phase ∈ requests, phase.Informed issued db

/-- An allocation adds its row, or nothing. -/
theorem createPendingCipherAttachment_cases (input : CipherAttachmentCreateInput)
    (maxStorageBytes : Nat) (expiredBefore : Timestamp) (db : Db) :
    (createPendingCipherAttachment input maxStorageBytes expiredBefore db).1 = db ∨
    ∃ T : Table CipherAttachment,
      (createPendingCipherAttachment input maxStorageBytes expiredBefore db).1 =
        { db with cipherAttachments := T } ∧
      T.rows = db.cipherAttachments.rows ++ [input.row] ∧ input.HasCipher db ∧
      input.size + attachmentStorage db input.userId expiredBefore (fun _ => True) ≤
        maxStorageBytes := by
  unfold createPendingCipherAttachment
  rcases execute_cases (Db.cipherAttachmentsIn.insertReferencing
    (fun db _ =>
      if input.HasCipher db ∧ input.size + attachmentStorage db input.userId expiredBefore
          (fun _ => True) ≤ maxStorageBytes then [input.row]
      else [])
    CipherAttachment.Refers) (fun result => .ok result.metaChanges) db with
    ⟨hdb, -⟩ | ⟨db', r, hrun, hdb, -⟩
  · exact Or.inl hdb
  · obtain ⟨-, T, hT, rfl, -⟩ := TableIn.insertReferencing_ok hrun
    by_cases hallowed : input.HasCipher db ∧ input.size + attachmentStorage db input.userId
        expiredBefore (fun _ => True) ≤ maxStorageBytes
    · rw [if_pos hallowed] at hT
      exact Or.inr ⟨T, hdb, hT, hallowed⟩
    · rw [if_neg hallowed, List.append_nil] at hT
      exact Or.inl (hdb.trans (TableIn.put_eq_self Db.cipherAttachmentsIn hT))

namespace RequestsInformed

variable {issued issued' : List String} {db db' : Db} {requests : List AttachmentPhase}

/-- A write that adds no attachment keeps what is known. -/
theorem kept (h : RequestsInformed issued db requests) (hkept : AttachmentsKept db db') :
    RequestsInformed issued db' requests where
  placed := hkept.placed h.placed
  names a' ha' := by
    obtain ⟨a, ha, hsame⟩ := hkept.old a' ha'
    rw [hsame.1, hsame.2.2.2.1]
    exact h.names a ha
  requests phase hphase := (h.requests phase hphase).evolve hkept.evolved fun _ hx => hx

theorem issued_mono (h : RequestsInformed issued db requests)
    (hissued : ∀ x ∈ issued, x ∈ issued') : RequestsInformed issued' db requests :=
  ⟨h.placed, fun a ha => ⟨hissued _ (h.names a ha).1, hissued _ (h.names a ha).2⟩,
    fun phase hphase => (h.requests phase hphase).evolve (AttachmentsKept.refl _).evolved hissued⟩

/-- An allocation, with the names it draws. -/
theorem allocate {allocation : AttachmentAllocation} {now : Timestamp} {T : Table CipherAttachment}
    (h : RequestsInformed issued db requests) (hid : allocation.id ∉ issued)
    (hkey : allocation.objectKey ∉ issued)
    (hT : T.rows = db.cipherAttachments.rows ++ [(allocation.input now).row])
    (hcipher : (allocation.input now).HasCipher db)
    (hissued : ∀ x, x ∈ allocation.id :: allocation.objectKey :: issued → x ∈ issued') :
    RequestsInformed issued' { db with cipherAttachments := T } requests := by
  have hmem : ∀ a ∈ T.rows, a ∈ db.cipherAttachments.rows ∨ a = (allocation.input now).row := by
    intro a ha
    rw [hT, List.mem_append, List.mem_singleton] at ha
    exact ha
  have hold : ∀ x ∈ issued, x ∈ issued' := fun x hx =>
    hissued x (List.mem_cons_of_mem _ (List.mem_cons_of_mem _ hx))
  refine ⟨fun a ha => ?_, fun a ha => ?_, fun phase hphase => ?_⟩
  · rcases hmem a ha with ha | rfl
    · exact h.placed a ha
    · obtain ⟨c, hc, hpersonal, -⟩ := hcipher
      exact ⟨c, hc, hpersonal⟩
  · rcases hmem a ha with ha | rfl
    · exact ⟨hold _ (h.names a ha).1, hold _ (h.names a ha).2⟩
    · exact ⟨hissued _ List.mem_cons_self,
        hissued _ (List.mem_cons_of_mem _ List.mem_cons_self)⟩
  · refine (h.requests phase hphase).evolve (fun a ha => ?_) hold
    rcases hmem a ha with ha | rfl
    · exact Or.inl ⟨a, ha, .refl a⟩
    · exact Or.inr ⟨hid, hkey⟩

end RequestsInformed

/-- The same of a state of the system. -/
def AttachmentWorld.Informed (issued : List String) (w : AttachmentWorld) : Prop :=
  RequestsInformed issued w.db w.requests

/-- What an allocation makes of the database: a new row for which there was storage, or nothing. -/
theorem AttachmentStep.allocate_cases (maxStorageBytes : Nat) (allocation : AttachmentAllocation)
    (oracle : AttachmentOracle) (w : AttachmentWorld) :
    ((allocate allocation oracle).exec maxStorageBytes w).db = w.db ∨
    ∃ T : Table CipherAttachment,
      ((allocate allocation oracle).exec maxStorageBytes w).db =
        { w.db with cipherAttachments := T } ∧
      T.rows = w.db.cipherAttachments.rows ++ [(allocation.input oracle.now).row] ∧
      (allocation.input oracle.now).HasCipher w.db ∧
      allocation.size + attachmentStorage w.db allocation.userId
        (pendingAttachmentExpiredBefore oracle.now) (fun _ => True) ≤ maxStorageBytes := by
  rcases oracle.fate.d1_cases (createPendingCipherAttachment (allocation.input oracle.now)
    maxStorageBytes (pendingAttachmentExpiredBefore oracle.now)) w.db with hdb | ⟨-, hdb, -⟩
  · exact Or.inl (congrArg Prod.fst hdb)
  · rcases createPendingCipherAttachment_cases (allocation.input oracle.now) maxStorageBytes
      (pendingAttachmentExpiredBefore oracle.now) w.db with hsame | ⟨T, hdb', hT, hallowed⟩
    · exact Or.inl (hdb.trans hsame)
    · exact Or.inr ⟨T, hdb.trans hdb', hT, hallowed⟩

/-- The cleanup only deletes attachments. -/
theorem AttachmentStep.cleanup_eq (maxStorageBytes limit : Nat) (oracle : AttachmentOracle)
    (w : AttachmentWorld) :
    ∃ T : Table CipherAttachment,
      ((cleanup limit oracle).exec maxStorageBytes w).db = { w.db with cipherAttachments := T } ∧
      T.rows.Sublist w.db.cipherAttachments.rows := by
  obtain ⟨T, hdb', hT⟩ := executeDelete_eq
    (fun db a => a.id ∈ expiredPendingCipherAttachmentIds
      (pendingAttachmentExpiredBefore oracle.now) limit db)
    (fun result => .ok result.metaChanges) w.db
  rcases oracle.fate.d1_cases (deleteExpiredPendingCipherAttachments
    (pendingAttachmentExpiredBefore oracle.now) limit) w.db with hdb | ⟨-, hdb, -⟩
  · exact ⟨w.db.cipherAttachments, congrArg Prod.fst hdb, .refl _⟩
  · exact ⟨T, hdb.trans hdb', hT ▸ List.filter_sublist⟩

/-- **Every step keeps the requests informed.** -/
theorem attachmentSystem_informed {maxStorageBytes : Nat} {c c' : Config AttachmentWorld String}
    {step : AttachmentStep} (hnext : (attachmentSystem maxStorageBytes).Next c step c')
    (h : c.state.Informed c.issued) : c'.state.Informed c'.issued := by
  obtain ⟨hexec, hpossible⟩ := hnext.unrestrict
  have hstate : c'.state = step.exec maxStorageBytes c.state := hexec.step
  have hmono : RequestsInformed c'.issued c.state.db c.state.requests :=
    RequestsInformed.issued_mono h hnext.issued_subset
  unfold AttachmentWorld.Informed
  rw [hstate]
  cases step with
  | allocate allocation oracle =>
    have hid : allocation.id ∉ c.issued := hnext.fresh _ List.mem_cons_self
    have hkey : allocation.objectKey ∉ c.issued :=
      hnext.fresh _ (List.mem_cons_of_mem _ List.mem_cons_self)
    rcases AttachmentStep.allocate_cases maxStorageBytes allocation oracle c.state with
      hdb | ⟨T, hdb, hT, hcipher, -⟩
    · rw [hdb]
      exact hmono
    · rw [hdb]
      refine RequestsInformed.allocate h hid hkey hT hcipher fun x hx => ?_
      rw [hexec.issued]
      exact hx
  | arrive request =>
    refine ⟨hmono.placed, hmono.names, fun phase hphase => ?_⟩
    rcases List.mem_append.mp hphase with hold | hnew
    · exact hmono.requests phase hold
    · obtain rfl := List.mem_singleton.mp hnew
      cases request <;> trivial
  | advance index oracle =>
    dsimp only [AttachmentStep.exec]
    split
    · exact hmono
    · rename_i phase hphase
      have hkept := phase.advance_kept maxStorageBytes oracle c.state.toAttachmentStores
      have hafter := hmono.kept hkept
      refine ⟨hafter.placed, hafter.names, fun phase' hphase' => ?_⟩
      rcases List.mem_or_eq_of_mem_set hphase' with hold | rfl
      · exact hafter.requests phase' hold
      · exact AttachmentPhase.advance_informed hmono.names
          (hmono.requests phase (List.mem_of_getElem? hphase))
  | cleanup limit oracle =>
    obtain ⟨T, hdb, hT⟩ := AttachmentStep.cleanup_eq maxStorageBytes limit oracle c.state
    rw [hdb]
    exact hmono.kept (.of_sublist hT)
  | surroundings db' =>
    exact hmono.kept ⟨fun a ha => ⟨a, hpossible.1.subset ha, .refl a⟩, fun _ => hpossible.2⟩

end HonoWarden
