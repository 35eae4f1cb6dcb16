import HonoWarden.Vault.Access

/-!
# Writing organization ciphers

Model of `src/repositories/organization-cipher-mutation-repository.ts`. Each of the four writes is
one statement that names the revision it expects and holds only on a cipher the actor may write
(`WritableOrganizationCipher`); where it hits nothing, a second query says whether the cipher is
gone or has moved on (`mutationFailure`).

A write and the query after it are separate, so each write comes in two forms: `attempt…` is the
statement alone, and the operation is the statement and then the query.

Results:
* `writableOrganizationCipher_iff`: the predicate of the writes is `canEdit` of
  `resolveCipherAccess`, unless an attachment stands in the way;
* `attemptUpdateOrganizationCipher_eq`, …: each attempt is one update or deletion;
* **`cipherAccess_agrees`**: every read and every write decides alike.
-/

namespace HonoWarden

open Relational

/-! ## The predicate of the writes -/

/-- `writableOrganizationCipherPredicate`. -/
def WritableOrganizationCipher (db : Db) (context : OrganizationAccessContext) (c : Cipher) : Prop :=
  c.organizationId ≠ none ∧
    (∃ a ∈ accessibleOrganizationCollections db context, ∃ m ∈ db.collectionCiphers.rows,
      m.collectionId = a.collectionId ∧ some a.organizationId = c.organizationId ∧
        a.readOnly = false ∧ m.cipherId = c.id) ∧
    ∀ attachment ∈ db.cipherAttachments.rows, attachment.cipherId ≠ c.id

instance (db : Db) (context : OrganizationAccessContext) (c : Cipher) :
    Decidable (WritableOrganizationCipher db context c) := inferInstanceAs (Decidable (_ ∧ _))

/-- **The predicate of the writes is `canEdit`**, once no attachment stands in the way. -/
theorem writableOrganizationCipher_iff {db : Db} {context : OrganizationAccessContext} {c : Cipher}
    (hc : c ∈ db.ciphers.rows) (horg : c.organizationId ≠ none) :
    WritableOrganizationCipher db context c ↔
      (resolveCipherAccess db context c.id).canEdit = true ∧
        ∀ attachment ∈ db.cipherAttachments.rows, attachment.cipherId ≠ c.id := by
  rw [resolveCipherAccess_canEdit hc horg]
  constructor
  · rintro ⟨-, ⟨a, ha, m, hm, hid, hbelongs, hwrite, hcipher⟩, hattachments⟩
    exact ⟨⟨a, ha, hbelongs, hwrite, m, hm, hid, hcipher⟩, hattachments⟩
  · rintro ⟨⟨a, ha, hbelongs, hwrite, m, hm, hid, hcipher⟩, hattachments⟩
    exact ⟨horg, ⟨a, ha, m, hm, hid, hbelongs, hwrite, hcipher⟩, hattachments⟩

/-! ## Inputs and answers -/

/-- What a write of an organization cipher names. -/
structure OrganizationCipherTarget extends OrganizationAccessContext where
  id : String
  expectedRevisionDate : Option Timestamp
  deriving DecidableEq, Repr

/-- `OrganizationCipherUpdateInput`. -/
structure OrganizationCipherUpdateInput extends OrganizationAccessContext where
  id : String
  type : Int
  favorite : Bool
  encryptedJson : String
  cipherKey : Option String
  revisionDate : Timestamp
  expectedRevisionDate : Timestamp
  deriving DecidableEq, Repr

/-- The input of `softDeleteOrganizationCipher`. -/
structure OrganizationCipherSoftDeleteInput extends OrganizationCipherTarget where
  deletedAt : Timestamp
  deriving DecidableEq, Repr

/-- `OrganizationCipherLifecycleInput`. -/
structure OrganizationCipherLifecycleInput extends OrganizationCipherTarget where
  revisionDate : Timestamp
  deriving DecidableEq, Repr

/-- `OrganizationCipherRecord`. -/
structure OrganizationCipherRecord extends CipherRecord where
  organizationId : Option String
  cipherKey : Option String
  deriving DecidableEq, Repr

/-- The RETURNING of an update. -/
def organizationCipherFromRow (c : Cipher) : OrganizationCipherRecord where
  toCipherRecord := cipherFromRow c
  organizationId := c.organizationId
  cipherKey := c.cipherKey

/-- `MutationFailure`. -/
inductive MutationFailure where
  | notFound
  | conflict (currentRevisionDate : Timestamp)
  deriving DecidableEq, Repr

/-- `mutationFailure`, in the state the query meets. -/
def mutationFailure (db : Db) (input : OrganizationCipherTarget)
    (lifecyclePredicate : Cipher → Prop) [DecidablePred lifecyclePredicate] : MutationFailure :=
  if input.expectedRevisionDate = none then .notFound
  else
    match db.ciphers.rows.find? fun c => c.id = input.id ∧ lifecyclePredicate c ∧
        WritableOrganizationCipher db input.toOrganizationAccessContext c with
    | some current => .conflict current.revisionDate
    | none => .notFound

/-! ## The four writes -/

/-- The longest opaque key, in bytes. -/
def maxCipherKeyBytes : Nat := 65536

/-- The check of a key that was given. -/
def CipherKeyRefused (cipherKey : Option String) : Prop :=
  ∃ key ∈ cipherKey, key = "" ∨ maxCipherKeyBytes < key.utf8ByteSize

instance (cipherKey : Option String) : Decidable (CipherKeyRefused cipherKey) :=
  inferInstanceAs (Decidable (∃ key ∈ cipherKey, _))

namespace OrganizationCipherUpdateInput

variable (input : OrganizationCipherUpdateInput)

def target : OrganizationCipherTarget where
  toOrganizationAccessContext := input.toOrganizationAccessContext
  id := input.id
  expectedRevisionDate := some input.expectedRevisionDate

/-- The WHERE of the update. -/
def Hit (db : Db) (c : Cipher) : Prop :=
  c.id = input.id ∧ c.deletedAt = none ∧ c.revisionDate = input.expectedRevisionDate ∧
    c.revisionDate < input.revisionDate ∧
    WritableOrganizationCipher db input.toOrganizationAccessContext c

instance (db : Db) : DecidablePred (input.Hit db) := fun _ => inferInstanceAs (Decidable (_ ∧ _))

/-- The SET of the update. -/
def apply (c : Cipher) : Cipher :=
  { c with
    type := input.type, favorite := input.favorite, encryptedJson := input.encryptedJson,
    cipherKey := input.cipherKey, revisionDate := input.revisionDate,
    updatedAt := input.revisionDate }

end OrganizationCipherUpdateInput

namespace OrganizationCipherTarget

variable (input : OrganizationCipherTarget)

/-- `(? IS NULL OR revision_date = ?)`. -/
def Expects (c : Cipher) : Prop :=
  input.expectedRevisionDate = none ∨ input.expectedRevisionDate = some c.revisionDate

instance : DecidablePred input.Expects := fun _ => inferInstanceAs (Decidable (_ ∨ _))

end OrganizationCipherTarget

namespace OrganizationCipherSoftDeleteInput

variable (input : OrganizationCipherSoftDeleteInput)

def Hit (db : Db) (c : Cipher) : Prop :=
  c.id = input.id ∧ c.deletedAt = none ∧ c.revisionDate < input.deletedAt ∧ input.Expects c ∧
    WritableOrganizationCipher db input.toOrganizationAccessContext c

instance (db : Db) : DecidablePred (input.Hit db) := fun _ => inferInstanceAs (Decidable (_ ∧ _))

def apply (c : Cipher) : Cipher :=
  { c with
    deletedAt := some input.deletedAt, revisionDate := input.deletedAt,
    updatedAt := input.deletedAt }

end OrganizationCipherSoftDeleteInput

namespace OrganizationCipherLifecycleInput

variable (input : OrganizationCipherLifecycleInput)

/-- The WHERE of a restoration. -/
def RestoreHit (db : Db) (c : Cipher) : Prop :=
  c.id = input.id ∧ c.deletedAt ≠ none ∧ c.revisionDate < input.revisionDate ∧ input.Expects c ∧
    WritableOrganizationCipher db input.toOrganizationAccessContext c

instance (db : Db) : DecidablePred (input.RestoreHit db) := fun _ =>
  inferInstanceAs (Decidable (_ ∧ _))

def restore (c : Cipher) : Cipher :=
  { c with
    deletedAt := none, revisionDate := input.revisionDate, updatedAt := input.revisionDate }

/-- The WHERE of a permanent deletion. -/
def DeleteHit (db : Db) (c : Cipher) : Prop :=
  c.id = input.id ∧ input.Expects c ∧
    WritableOrganizationCipher db input.toOrganizationAccessContext c

instance (db : Db) : DecidablePred (input.DeleteHit db) := fun _ =>
  inferInstanceAs (Decidable (_ ∧ _))

end OrganizationCipherLifecycleInput

/-- The statement of `updateOrganizationCipher`: the row it returns. -/
def attemptUpdateOrganizationCipher (input : OrganizationCipherUpdateInput) (db : Db) :
    Db × Except Failure (Option Cipher) :=
  if CipherKeyRefused input.cipherKey then
    (db, .error (.thrown "Organization cipher key must contain 1 to 65536 UTF-8 bytes"))
  else (Db.ciphersIn.callUpdate input.Hit input.apply db).map id (Except.map List.head?)

/-- The statement of `softDeleteOrganizationCipher`. -/
def attemptSoftDeleteOrganizationCipher (input : OrganizationCipherSoftDeleteInput) (db : Db) :
    Db × Except Failure (Option Cipher) :=
  (Db.ciphersIn.callUpdate input.Hit input.apply db).map id (Except.map List.head?)

/-- The statement of `restoreOrganizationCipher`. -/
def attemptRestoreOrganizationCipher (input : OrganizationCipherLifecycleInput) (db : Db) :
    Db × Except Failure (Option Cipher) :=
  (Db.ciphersIn.callUpdate input.RestoreHit input.restore db).map id (Except.map List.head?)

/-- The statement of `permanentlyDeleteOrganizationCipher`. -/
def attemptPermanentlyDeleteOrganizationCipher (input : OrganizationCipherLifecycleInput)
    (db : Db) : Db × Except Failure (Option Cipher) :=
  (Db.ciphersIn.callDelete input.DeleteHit cascadeCipherDelete db).map id (Except.map List.head?)

/-- The answer to an attempt: what it returned, or why it returned nothing. -/
def answerOf {α : Type} (attempt : Db × Except Failure (Option Cipher)) (done : Cipher → α)
    (input : OrganizationCipherTarget) (lifecyclePredicate : Cipher → Prop)
    [DecidablePred lifecyclePredicate] : Db × Except Failure (MutationFailure ⊕ α) :=
  (attempt.1, attempt.2.map fun row => row.elim
    (.inl (mutationFailure attempt.1 input lifecyclePredicate)) fun c => .inr (done c))

/-- `updateOrganizationCipher`. -/
def updateOrganizationCipher (input : OrganizationCipherUpdateInput) (db : Db) :
    Db × Except Failure (MutationFailure ⊕ OrganizationCipherRecord) :=
  answerOf (attemptUpdateOrganizationCipher input db) organizationCipherFromRow input.target
    fun c => c.deletedAt = none

/-- `softDeleteOrganizationCipher`: the id, the revision and the time of deletion. -/
def softDeleteOrganizationCipher (input : OrganizationCipherSoftDeleteInput) (db : Db) :
    Db × Except Failure (MutationFailure ⊕ String × Timestamp × Timestamp) :=
  answerOf (attemptSoftDeleteOrganizationCipher input db)
    (fun c => (c.id, input.deletedAt, input.deletedAt)) input.toOrganizationCipherTarget
    fun c => c.deletedAt = none

/-- `restoreOrganizationCipher`: the id and the revision. -/
def restoreOrganizationCipher (input : OrganizationCipherLifecycleInput) (db : Db) :
    Db × Except Failure (MutationFailure ⊕ String × Timestamp) :=
  answerOf (attemptRestoreOrganizationCipher input db) (fun c => (c.id, input.revisionDate))
    input.toOrganizationCipherTarget fun c => c.deletedAt ≠ none

/-- `permanentlyDeleteOrganizationCipher`: the id and the revision. -/
def permanentlyDeleteOrganizationCipher (input : OrganizationCipherLifecycleInput) (db : Db) :
    Db × Except Failure (MutationFailure ⊕ String × Timestamp) :=
  answerOf (attemptPermanentlyDeleteOrganizationCipher input db)
    (fun c => (c.id, input.revisionDate)) input.toOrganizationCipherTarget fun _ => True

/-! ## What an attempt does -/

section Attempts

variable {db : Db}

/-- Rewriting columns other than the id keeps the key of a cipher. -/
theorem keepsKeys_of_id {set : Cipher → Cipher} (h : ∀ c, (set c).id = c.id) : KeepsKeys set :=
  fun c => ⟨h c, fun _ hc => hc⟩

theorem attemptUpdateOrganizationCipher_eq {input : OrganizationCipherUpdateInput}
    (hkey : ¬ CipherKeyRefused input.cipherKey) :
    ∃ T : Table Cipher, attemptUpdateOrganizationCipher input db =
        (Db.ciphersIn.put db T,
          .ok ((db.ciphers.rows.filter fun c => input.Hit db c).map input.apply).head?) ∧
      T.rows = updateWhere (input.Hit db) input.apply db.ciphers.rows := by
  obtain ⟨T, hcall, hT⟩ := Db.ciphersIn.callUpdate_eq input.Hit db
    (keepsKeys_of_id fun c => (rfl : (input.apply c).id = c.id))
  exact ⟨T, by rw [attemptUpdateOrganizationCipher, if_neg hkey, hcall]; rfl, hT⟩

theorem attemptSoftDeleteOrganizationCipher_eq (input : OrganizationCipherSoftDeleteInput) :
    ∃ T : Table Cipher, attemptSoftDeleteOrganizationCipher input db =
        (Db.ciphersIn.put db T,
          .ok ((db.ciphers.rows.filter fun c => input.Hit db c).map input.apply).head?) ∧
      T.rows = updateWhere (input.Hit db) input.apply db.ciphers.rows := by
  obtain ⟨T, hcall, hT⟩ := Db.ciphersIn.callUpdate_eq input.Hit db
    (keepsKeys_of_id fun c => (rfl : (input.apply c).id = c.id))
  exact ⟨T, by rw [attemptSoftDeleteOrganizationCipher, hcall]; rfl, hT⟩

theorem attemptRestoreOrganizationCipher_eq (input : OrganizationCipherLifecycleInput) :
    ∃ T : Table Cipher, attemptRestoreOrganizationCipher input db =
        (Db.ciphersIn.put db T,
          .ok ((db.ciphers.rows.filter fun c => input.RestoreHit db c).map input.restore).head?) ∧
      T.rows = updateWhere (input.RestoreHit db) input.restore db.ciphers.rows := by
  obtain ⟨T, hcall, hT⟩ := Db.ciphersIn.callUpdate_eq input.RestoreHit db
    (keepsKeys_of_id fun c => (rfl : (input.restore c).id = c.id))
  exact ⟨T, by rw [attemptRestoreOrganizationCipher, hcall]; rfl, hT⟩

theorem attemptPermanentlyDeleteOrganizationCipher_eq (input : OrganizationCipherLifecycleInput) :
    ∃ T : Table Cipher, attemptPermanentlyDeleteOrganizationCipher input db =
        ((cascadeCipherDelete (db.ciphers.rows.filter fun c => input.DeleteHit db c)
            (Db.ciphersIn.put db T)).1,
          .ok (db.ciphers.rows.filter fun c => input.DeleteHit db c).head?) ∧
      T.rows = deleteWhere (input.DeleteHit db) db.ciphers.rows := by
  obtain ⟨T, hcall, hT⟩ := Db.ciphersIn.callDelete_eq input.DeleteHit db cascadeCipherDelete
  exact ⟨T, by rw [attemptPermanentlyDeleteOrganizationCipher, hcall]; rfl, hT⟩

/-- An operation is done where its statement returned a row. -/
theorem answerOf_done {α : Type} {attempt : Db × Except Failure (Option Cipher)}
    {done : Cipher → α} {input : OrganizationCipherTarget} {lifecyclePredicate : Cipher → Prop}
    [DecidablePred lifecyclePredicate] {rows : List Cipher} (h : attempt.2 = .ok rows.head?) :
    (∃ a, (answerOf attempt done input lifecyclePredicate).2 = .ok (.inr a)) ↔ rows ≠ [] := by
  cases rows with
  | nil => simp [answerOf, h, Except.map]
  | cons c rows => simp [answerOf, h, Except.map]

theorem filter_ne_nil {p : Cipher → Prop} [DecidablePred p] :
    (db.ciphers.rows.filter fun c => p c) ≠ [] ↔ ∃ c ∈ db.ciphers.rows, p c := by
  simp [List.filter_eq_nil_iff]

theorem updateOrganizationCipher_done {input : OrganizationCipherUpdateInput}
    (hkey : ¬ CipherKeyRefused input.cipherKey) :
    (∃ a, (updateOrganizationCipher input db).2 = .ok (.inr a)) ↔
      ∃ c ∈ db.ciphers.rows, input.Hit db c := by
  obtain ⟨T, hattempt, -⟩ := @attemptUpdateOrganizationCipher_eq db input hkey
  rw [updateOrganizationCipher, answerOf_done (congrArg Prod.snd hattempt), ← filter_ne_nil, ne_eq,
    List.map_eq_nil_iff]

theorem softDeleteOrganizationCipher_done {input : OrganizationCipherSoftDeleteInput} :
    (∃ a, (softDeleteOrganizationCipher input db).2 = .ok (.inr a)) ↔
      ∃ c ∈ db.ciphers.rows, input.Hit db c := by
  obtain ⟨T, hattempt, -⟩ := @attemptSoftDeleteOrganizationCipher_eq db input
  rw [softDeleteOrganizationCipher, answerOf_done (congrArg Prod.snd hattempt), ← filter_ne_nil,
    ne_eq, List.map_eq_nil_iff]

theorem restoreOrganizationCipher_done {input : OrganizationCipherLifecycleInput} :
    (∃ a, (restoreOrganizationCipher input db).2 = .ok (.inr a)) ↔
      ∃ c ∈ db.ciphers.rows, input.RestoreHit db c := by
  obtain ⟨T, hattempt, -⟩ := @attemptRestoreOrganizationCipher_eq db input
  rw [restoreOrganizationCipher, answerOf_done (congrArg Prod.snd hattempt), ← filter_ne_nil,
    ne_eq, List.map_eq_nil_iff]

theorem permanentlyDeleteOrganizationCipher_done {input : OrganizationCipherLifecycleInput} :
    (∃ a, (permanentlyDeleteOrganizationCipher input db).2 = .ok (.inr a)) ↔
      ∃ c ∈ db.ciphers.rows, input.DeleteHit db c := by
  obtain ⟨T, hattempt, -⟩ := @attemptPermanentlyDeleteOrganizationCipher_eq db input
  rw [permanentlyDeleteOrganizationCipher, answerOf_done (congrArg Prod.snd hattempt),
    filter_ne_nil]

end Attempts

/-! ## Reads and writes decide alike -/

/-- Every write of an organization cipher is permitted exactly to who may edit it, with a matching
revision and in the right stage of its life. -/
structure CipherWritesAgree (db : Db) (context : OrganizationAccessContext) (c : Cipher) :
    Prop where
  predicate : WritableOrganizationCipher db context c ↔
    (resolveCipherAccess db context c.id).canEdit = true
  update : ∀ input : OrganizationCipherUpdateInput, input.toOrganizationAccessContext = context →
    input.id = c.id → ¬ CipherKeyRefused input.cipherKey → c.deletedAt = none →
    c.revisionDate = input.expectedRevisionDate → c.revisionDate < input.revisionDate →
    ((∃ a, (updateOrganizationCipher input db).2 = .ok (.inr a)) ↔
      (resolveCipherAccess db context c.id).canEdit = true)
  trash : ∀ input : OrganizationCipherSoftDeleteInput, input.toOrganizationAccessContext = context →
    input.id = c.id → c.deletedAt = none → input.Expects c → c.revisionDate < input.deletedAt →
    ((∃ a, (softDeleteOrganizationCipher input db).2 = .ok (.inr a)) ↔
      (resolveCipherAccess db context c.id).canEdit = true)
  restore : ∀ input : OrganizationCipherLifecycleInput,
    input.toOrganizationAccessContext = context → input.id = c.id → c.deletedAt ≠ none →
    input.Expects c → c.revisionDate < input.revisionDate →
    ((∃ a, (restoreOrganizationCipher input db).2 = .ok (.inr a)) ↔
      (resolveCipherAccess db context c.id).canEdit = true)
  delete : ∀ input : OrganizationCipherLifecycleInput,
    input.toOrganizationAccessContext = context → input.id = c.id → input.Expects c →
    ((∃ a, (permanentlyDeleteOrganizationCipher input db).2 = .ok (.inr a)) ↔
      (resolveCipherAccess db context c.id).canEdit = true)

/-- A condition that names the id holds of some cipher iff it holds of that one. -/
theorem exists_cipher_iff {db : Db} {c : Cipher} (hc : c ∈ db.ciphers.rows) {p : Cipher → Prop}
    (hp : ∀ c', p c' → c'.id = c.id) : (∃ c' ∈ db.ciphers.rows, p c') ↔ p c := by
  constructor
  · rintro ⟨c', hc', h⟩
    rwa [← db.ciphers.eq_of_key hc' hc (hp c' h)]
  · exact fun h => ⟨c, hc, h⟩

theorem cipherWrites_agree {db : Db} {context : OrganizationAccessContext} {c : Cipher}
    (hc : c ∈ db.ciphers.rows) (horg : c.organizationId ≠ none)
    (hattachments : ∀ attachment ∈ db.cipherAttachments.rows, attachment.cipherId ≠ c.id) :
    CipherWritesAgree db context c := by
  have hpredicate : WritableOrganizationCipher db context c ↔
      (resolveCipherAccess db context c.id).canEdit = true := by
    rw [writableOrganizationCipher_iff hc horg]
    exact and_iff_left hattachments
  refine ⟨hpredicate, ?_, ?_, ?_, ?_⟩
  · rintro input rfl hid hkey hdeleted hrevision hlater
    rw [updateOrganizationCipher_done hkey, exists_cipher_iff hc fun c' h => h.1.trans hid,
      ← hpredicate]
    exact ⟨fun h => h.2.2.2.2, fun h => ⟨hid.symm, hdeleted, hrevision, hlater, h⟩⟩
  · rintro input rfl hid hdeleted hexpects hlater
    rw [softDeleteOrganizationCipher_done, exists_cipher_iff hc fun c' h => h.1.trans hid,
      ← hpredicate]
    exact ⟨fun h => h.2.2.2.2, fun h => ⟨hid.symm, hdeleted, hlater, hexpects, h⟩⟩
  · rintro input rfl hid hdeleted hexpects hlater
    rw [restoreOrganizationCipher_done, exists_cipher_iff hc fun c' h => h.1.trans hid,
      ← hpredicate]
    exact ⟨fun h => h.2.2.2.2, fun h => ⟨hid.symm, hdeleted, hlater, hexpects, h⟩⟩
  · rintro input rfl hid hexpects
    rw [permanentlyDeleteOrganizationCipher_done, exists_cipher_iff hc fun c' h => h.1.trans hid,
      ← hpredicate]
    exact ⟨fun h => h.2.2, fun h => ⟨hid.symm, hexpects, h⟩⟩

/-- **Access decisions agree on every path**: in every state and for every actor, a cipher is
listed and found exactly where `resolveCipherAccess` lets it be read, with the flags resolved, and
an organization cipher is written exactly where it may be edited. -/
theorem cipherAccess_agrees (db : Db) (context : OrganizationAccessContext) (id : String) :
    CipherReadsAgree db context id ∧
      ∀ c ∈ db.ciphers.rows, c.id = id → c.organizationId ≠ none →
        (∀ attachment ∈ db.cipherAttachments.rows, attachment.cipherId ≠ c.id) →
          CipherWritesAgree db context c :=
  ⟨cipherReads_agree db context id, fun _ hc _ horg hattachments =>
    cipherWrites_agree hc horg hattachments⟩

end HonoWarden
