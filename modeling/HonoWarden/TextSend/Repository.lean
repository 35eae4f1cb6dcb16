import HonoWarden.Relational.Lookup
import HonoWarden.Relational.Run
import HonoWarden.Schema

/-!
# Text Sends

Model of `src/repositories/text-send-repository.ts` with the table of migration 0018.

Every write of a Send but its creation is one UPDATE that returns the row it wrote (`writeSend`): it
finds the Send by its id, or by the verifier of its capability, under a condition, and computes the
new row from the old one. The CHECKs of the table are `TextSendRow.Checked`.

Results:
* **`writeSend_outcome`**: a write either does to one row what it says, or nothing.
-/

namespace HonoWarden

open Relational

/-! ## The table -/

/-- `sends.type`. -/
inductive SendType where
  | text
  | file
  deriving DecidableEq, Repr

/-- `sends.auth_type`: 1 asks for a password, 2 does not. -/
inductive SendAuthType where
  | password
  | unprotected
  deriving DecidableEq, Repr

/-- `sends.lifecycle_state`. -/
inductive SendLifecycleState where
  | pendingUpload
  | active
  | disabled
  | expired
  | quarantined
  | deleted
  deriving DecidableEq, Repr

/-- `TextSendRow`, a row of `sends`. -/
structure TextSendRow where
  id : String
  ownerUserId : String
  type : SendType := .text
  authType : SendAuthType
  lifecycleState : SendLifecycleState
  capabilityEnvelope : String
  capabilityEnvelopeKeyId : String
  capabilityVerifier : String
  capabilityVerifierKeyId : String
  accessGeneration : Nat
  encryptedName : String
  encryptedNotes : Option String
  encryptedKey : String
  encryptedText : Option String
  textHidden : Bool
  passwordVerifier : Option String
  passwordKeyId : Option String
  maxAccessCount : Option Nat
  accessCount : Nat
  disabled : Bool
  hideEmail : Bool
  expirationAt : Option Timestamp
  deletionAt : Timestamp
  revisionDate : Timestamp
  createdAt : Timestamp
  updatedAt : Timestamp
  deletedAt : Option Timestamp := none
  quarantinedAt : Option Timestamp := none
  lastAccessedAt : Option Timestamp := none
  deriving DecidableEq, Repr

instance : Keyed TextSendRow String where
  key := TextSendRow.id
  alternate a b := a.capabilityVerifier = b.capabilityVerifier
  alternate_symm h := h.symm
  decKey _ _ := inferInstance
  decAlternate a b := inferInstanceAs (Decidable (a.capabilityVerifier = b.capabilityVerifier))

/-- `length(…) = 64 AND … NOT GLOB '*[^0-9a-f]*'`. -/
def HexDigest (text : String) : Prop :=
  text.length = 64 ∧ ∀ c ∈ text.toList, ('0' ≤ c ∧ c ≤ '9') ∨ ('a' ≤ c ∧ c ≤ 'f')

instance : DecidablePred HexDigest := fun text =>
  decidable_of_iff (text.length = 64 ∧ text.toList.all (fun c =>
    decide (('0' ≤ c ∧ c ≤ '9') ∨ ('a' ≤ c ∧ c ≤ 'f'))) = true)
    (by simp only [HexDigest, List.all_eq_true, decide_eq_true_eq])

/-- The CHECKs of `sends`. -/
structure TextSendRow.Checked (r : TextSendRow) : Prop where
  capability : HexDigest r.capabilityVerifier
  generation : 1 ≤ r.accessGeneration
  verifier : ∀ v ∈ r.passwordVerifier, HexDigest v
  maximum : ∀ m ∈ r.maxAccessCount, 1 ≤ m ∧ r.accessCount ≤ m
  text : r.type = .text → r.encryptedText ≠ none
  expiration : ∀ t ∈ r.expirationAt, t ≤ r.deletionAt
  password : (r.authType = .password ∧ r.passwordVerifier ≠ none ∧ r.passwordKeyId ≠ none) ∨
    (r.authType = .unprotected ∧ r.passwordVerifier = none ∧ r.passwordKeyId = none)
  deleted : r.lifecycleState = .deleted → r.deletedAt ≠ none
  quarantined : r.lifecycleState = .quarantined → r.quarantinedAt ≠ none

attribute [mk_iff] TextSendRow.Checked

instance : DecidablePred TextSendRow.Checked := fun r =>
  decidable_of_iff' _ (TextSendRow.checked_iff r)

/-- The tables of the repository. -/
structure TextSendDb where
  users : Table User := ∅
  auditEvents : Table AuditEventRow := ∅
  sends : Table TextSendRow := ∅
  deriving DecidableEq

namespace TextSendDb

abbrev auditEventsIn : TableIn TextSendDb AuditEventRow where
  name := "audit_events"
  get db := db.auditEvents
  put db t := { db with auditEvents := t }
  get_put _ _ := rfl
  put_get _ := rfl

abbrev sendsIn : TableIn TextSendDb TextSendRow where
  name := "sends"
  get db := db.sends
  put db t := { db with sends := t }
  get_put _ _ := rfl
  put_get _ := rfl

/-- What a statement wrote passes the CHECKs. -/
def NewChecked (db db' : TextSendDb) : Prop :=
  ∀ r ∈ db'.sends.rows, r ∈ db.sends.rows ∨ r.Checked

instance (db db' : TextSendDb) : Decidable (db.NewChecked db') :=
  inferInstanceAs (Decidable (∀ r ∈ db'.sends.rows, _))

end TextSendDb

/-! ## Creation -/

/-- `CreateTextSendInput`. -/
structure CreateTextSendInput extends TextSendRow where
  auditEventId : String
  requestId : String
  deriving DecidableEq, Repr

namespace CreateTextSendInput

variable (input : CreateTextSendInput)

def auditEvent : AuditEventRow where
  id := input.auditEventId
  name := "send.text.create"
  outcome := "success"
  requestId := input.requestId
  occurredAt := input.createdAt
  actorUserId := some input.ownerUserId
  targetType := some "send"
  targetId := some input.id
  contextJson := some [("type", .text "text")]

/-- The batch of `createTextSend`. -/
def batch : List (Statement TextSendDb) :=
  [((TextSendDb.sendsIn.insertSelect (fun _ _ => [input.toTextSendRow])
      fun r => [[.text r.id]]).referencing
        fun db => ∃ u ∈ db.users.rows, u.id = input.ownerUserId).ensuring TextSendDb.NewChecked,
    TextSendDb.auditEventsIn.insertSelect fun _ _ => [input.auditEvent]]

/-- The reading of the batch; the row returned is the row inserted. -/
def interpret (results : List StatementResult) : Except String TextSendRow :=
  match results with
  | [send, audit] =>
    if send.metaChanges ≠ 1 ∨ audit.metaChanges ≠ 1 ∨ send.rows = [] then
      .error "Text Send create batch did not fully apply."
    else .ok input.toTextSendRow
  | _ => .error "Text Send create batch did not fully apply."

end CreateTextSendInput

/-- `createTextSend`. -/
def createTextSend (input : CreateTextSendInput) (db : TextSendDb) :
    TextSendDb × Except Failure TextSendRow :=
  commit input.batch input.interpret db

/-! ## Writes of one Send -/

/-- `UPDATE sends SET … WHERE … RETURNING …`, of which the first row is taken: the row as it was
written. -/
def writeSend (hit : TextSendRow → Prop) [DecidablePred hit] (set : TextSendRow → TextSendRow)
    (db : TextSendDb) : TextSendDb × Except Failure (Option TextSendRow) :=
  let call := execute ((TextSendDb.sendsIn.updateReturning (fun _ _ => hit) (fun _ => set)
      fun r => [[.text r.id]]).ensuring TextSendDb.NewChecked)
    (fun result => .ok result.rows.head?) db
  (call.1, call.2.map fun row =>
    match row with
    | some [.text id] => TextSendDb.sendsIn.row call.1 id
    | _ => none)

/-- A write that takes hold: `r` is found and becomes `set r`. -/
structure SendWritten (r r' : TextSendRow) (db db' : TextSendDb) : Prop where
  found : r ∈ db.sends.rows
  rows : db'.sends.rows = updateWhere (fun a => a.id = r.id) (fun _ => r') db.sends.rows
  checked : r' ∈ db.sends.rows ∨ r'.Checked
  others : db' = { db with sends := db'.sends }

/-- **A write does what it says to one row, or nothing.** -/
theorem writeSend_outcome {hit : TextSendRow → Prop} [DecidablePred hit]
    {set : TextSendRow → TextSendRow} {db : TextSendDb}
    (hone : ∀ a ∈ db.sends.rows, ∀ b ∈ db.sends.rows, hit a → hit b → a.id = b.id) :
    (∃ r, hit r ∧ (writeSend hit set db).2 = .ok (some (set r)) ∧
      SendWritten r (set r) db (writeSend hit set db).1) ∨
    ((∀ r, (writeSend hit set db).2 ≠ .ok (some r)) ∧ (writeSend hit set db).1 = db) := by
  unfold writeSend
  dsimp only
  rcases execute_cases _ _ db with ⟨hsame, e, he⟩ | ⟨db', r, hrun, hdb, hresult⟩
  · refine Or.inr ⟨fun r h => ?_, hsame⟩
    rw [he] at h
    cases h
  · rw [hresult, hdb]
    obtain ⟨hst, hchecked⟩ := Statement.ensuring_ok hrun
    obtain ⟨T, hT, rfl, -, -, hrows⟩ := TableIn.updateReturning_ok hst
    rw [hrows]
    by_cases hex : ∃ a ∈ db.sends.rows, hit a
    · obtain ⟨a, ha, hhit⟩ := hex
      have honly : ∀ b ∈ db.sends.rows, hit b ↔ b.id = a.id := fun b hb =>
        ⟨fun h => hone b hb a ha h hhit, fun h => by rwa [db.sends.eq_of_key hb ha h]⟩
      have hwritten : T.rows =
          updateWhere (fun b => b.id = a.id) (fun _ => set a) db.sends.rows := by
        refine hT.trans (updateWhere_only (fun b hb => (honly b hb).symm) fun b hb h => ?_).symm
        exact db.sends.eq_of_key hb ha h
      have hmem : set a ∈ T.rows := by
        rw [hwritten]
        exact mem_updateWhere_of_hit ha rfl
      have hfilter : (db.sends.rows.filter fun b => hit b) = [a] := by
        rw [List.filter_congr fun b hb => decide_eq_decide.mpr (honly b hb)]
        exact db.sends.filter_eq_singleton a.id (fun _ h => h) ha rfl
      have hrow : TextSendDb.sendsIn.row (TextSendDb.sendsIn.put db T) (set a).id =
          some (set a) := (rowOf_eq_some_iff T.keyed).mpr ⟨hmem, rfl⟩
      refine Or.inl ⟨a, hhit, ?_, ha, hwritten, hchecked _ hmem, rfl⟩
      change Except.ok _ = _
      rw [hfilter]
      exact congrArg Except.ok hrow
    · have hnone : ∀ a ∈ db.sends.rows, ¬ hit a := fun a ha h => hex ⟨a, ha, h⟩
      have hfilter : (db.sends.rows.filter fun b => hit b) = [] :=
        List.filter_eq_nil_iff.mpr fun a ha => by simpa using hnone a ha
      refine Or.inr ⟨fun r h => ?_, TableIn.put_eq_self _ (hT.trans (updateWhere_eq_self hnone))⟩
      rw [hfilter] at h
      cases h

/-- The states in which an owner may write. -/
def TextSendRow.Writable (r : TextSendRow) : Prop :=
  r.type = .text ∧ r.deletedAt = none ∧ r.quarantinedAt = none ∧
    (r.lifecycleState = .active ∨ r.lifecycleState = .disabled ∨ r.lifecycleState = .expired)

instance : DecidablePred TextSendRow.Writable := fun _ => inferInstanceAs (Decidable (_ ∧ _))

/-- `UpdateTextSendInput`. -/
structure UpdateTextSendInput where
  id : String
  ownerUserId : String
  expectedRevisionDate : Timestamp
  encryptedName : String
  encryptedNotes : Option String
  encryptedKey : String
  encryptedText : String
  textHidden : Bool
  authType : SendAuthType
  passwordVerifier : Option String
  passwordKeyId : Option String
  maxAccessCount : Option Nat
  disabled : Bool
  hideEmail : Bool
  expirationAt : Option Timestamp
  deletionAt : Timestamp
  nextRevisionDate : Timestamp
  deriving DecidableEq, Repr

namespace UpdateTextSendInput

variable (input : UpdateTextSendInput)

def Hit (r : TextSendRow) : Prop :=
  r.id = input.id ∧ r.ownerUserId = input.ownerUserId ∧
    r.revisionDate = input.expectedRevisionDate ∧ r.Writable ∧
    (∀ m ∈ r.maxAccessCount, r.accessCount ≤ m) ∧
    (∀ m ∈ input.maxAccessCount, r.accessCount ≤ m) ∧ r.revisionDate < input.nextRevisionDate

instance : DecidablePred input.Hit := fun _ => inferInstanceAs (Decidable (_ ∧ _))

def set (r : TextSendRow) : TextSendRow :=
  { r with
    encryptedName := input.encryptedName
    encryptedNotes := input.encryptedNotes
    encryptedKey := input.encryptedKey
    encryptedText := some input.encryptedText
    textHidden := input.textHidden
    authType := input.authType
    passwordVerifier := input.passwordVerifier
    passwordKeyId := input.passwordKeyId
    maxAccessCount := input.maxAccessCount
    disabled := input.disabled
    hideEmail := input.hideEmail
    expirationAt := input.expirationAt
    deletionAt := input.deletionAt
    lifecycleState := if input.disabled then .disabled else .active
    accessGeneration := r.accessGeneration + 1
    revisionDate := input.nextRevisionDate
    updatedAt := input.nextRevisionDate }

end UpdateTextSendInput

/-- `updateTextSend`; `none` is `'conflict'`. -/
def updateTextSend (input : UpdateTextSendInput) (db : TextSendDb) :
    TextSendDb × Except Failure (Option TextSendRow) :=
  writeSend input.Hit input.set db

/-- `OwnerMutationInput`. -/
structure OwnerMutationInput where
  id : String
  ownerUserId : String
  now : Timestamp
  deriving DecidableEq, Repr

/-- The Send has no password. -/
def TextSendRow.Unprotected (r : TextSendRow) : Prop :=
  r.authType = .unprotected ∧ r.passwordVerifier = none ∧ r.passwordKeyId = none

instance : DecidablePred TextSendRow.Unprotected := fun _ => inferInstanceAs (Decidable (_ ∧ _))

namespace OwnerMutationInput

variable (input : OwnerMutationInput)

/-- The condition of `removeTextSendAuth`. -/
def Removes (r : TextSendRow) : Prop :=
  r.id = input.id ∧ r.ownerUserId = input.ownerUserId ∧ r.Writable ∧
    (r.Unprotected ∨ r.revisionDate < input.now)

instance : DecidablePred input.Removes := fun _ => inferInstanceAs (Decidable (_ ∧ _))

def removeAuth (r : TextSendRow) : TextSendRow :=
  { r with
    authType := .unprotected
    passwordVerifier := none
    passwordKeyId := none
    accessGeneration := if r.Unprotected then r.accessGeneration else r.accessGeneration + 1
    revisionDate := if r.Unprotected then r.revisionDate else input.now
    updatedAt := if r.Unprotected then r.updatedAt else input.now }

/-- The condition of `deleteTextSend`. -/
def Deletes (r : TextSendRow) : Prop :=
  r.id = input.id ∧ r.ownerUserId = input.ownerUserId ∧ r.type = .text ∧
    ((r.deletedAt ≠ none ∧ r.lifecycleState = .deleted ∧ r.disabled = true) ∨
      (r.deletedAt = none ∧ r.revisionDate < input.now))

instance : DecidablePred input.Deletes := fun _ => inferInstanceAs (Decidable (_ ∧ _))

def delete (r : TextSendRow) : TextSendRow :=
  { r with
    lifecycleState := if r.deletedAt = none then .deleted else r.lifecycleState
    disabled := if r.deletedAt = none then true else r.disabled
    deletedAt := if r.deletedAt = none then some input.now else r.deletedAt
    accessGeneration :=
      if r.deletedAt = none then r.accessGeneration + 1 else r.accessGeneration
    revisionDate := if r.deletedAt = none then input.now else r.revisionDate
    updatedAt := if r.deletedAt = none then input.now else r.updatedAt }

end OwnerMutationInput

/-- `removeTextSendAuth`; `none` is `'not_found'`. -/
def removeTextSendAuth (input : OwnerMutationInput) (db : TextSendDb) :
    TextSendDb × Except Failure (Option TextSendRow) :=
  writeSend input.Removes input.removeAuth db

/-- `deleteTextSend`; `none` is `'not_found'`, and of the row its caller sees the id only. -/
def deleteTextSend (input : OwnerMutationInput) (db : TextSendDb) :
    TextSendDb × Except Failure (Option TextSendRow) :=
  writeSend input.Deletes input.delete db

/-- The input of `consumeTextSendAccess`. -/
structure ConsumeTextSendAccessInput where
  capabilityVerifier : String
  accessGeneration : Nat
  now : Timestamp
  deriving DecidableEq, Repr

namespace ConsumeTextSendAccessInput

variable (input : ConsumeTextSendAccessInput)

def Hit (r : TextSendRow) : Prop :=
  r.capabilityVerifier = input.capabilityVerifier ∧ r.accessGeneration = input.accessGeneration ∧
    r.type = .text ∧ r.lifecycleState = .active ∧ r.disabled = false ∧ r.deletedAt = none ∧
    r.quarantinedAt = none ∧ input.now < r.deletionAt ∧ (∀ t ∈ r.expirationAt, input.now < t) ∧
    ∀ m ∈ r.maxAccessCount, r.accessCount < m

instance : DecidablePred input.Hit := fun _ => inferInstanceAs (Decidable (_ ∧ _))

def set (r : TextSendRow) : TextSendRow :=
  { r with
    accessCount := r.accessCount + 1
    lastAccessedAt := some input.now
    updatedAt := input.now }

end ConsumeTextSendAccessInput

/-- `consumeTextSendAccess`; `none` is `'unavailable'`. -/
def consumeTextSendAccess (input : ConsumeTextSendAccessInput) (db : TextSendDb) :
    TextSendDb × Except Failure (Option TextSendRow) :=
  writeSend input.Hit input.set db

end HonoWarden
