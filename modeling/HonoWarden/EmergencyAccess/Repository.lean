import HonoWarden.Organization.Invitations
import HonoWarden.Relational.RowWrites
import HonoWarden.Relational.Run

/-!
# Emergency access contacts

Model of `src/repositories/emergency-access-repository.ts` with the table of migration 0021.

Every write is one statement about one contact, found by its id under a condition. With a success
event it runs in a batch, and the event is inserted where `changes()` is 1; without one it runs
alone. Accepting moves a contact from the UNIQUE index of invited addresses to that of grantees, so
that index can refuse it; only the insertion reads a refusal as a conflict.

Results:
* **`writeContact_outcome`**, **`insertInvitedEmergencyAccess_outcome`**,
  **`deleteEmergencyAccess_outcome`**: a write does to one contact what it says and leaves its event,
  or changes nothing.
-/

namespace HonoWarden

open Relational

/-! ## The table -/

/-- `EmergencyAccessType`: 0 views the vault, 1 takes it over. -/
inductive EmergencyAccessType where
  | view
  | takeover
  deriving DecidableEq, Repr

/-- `emergencyAccessStatus`. -/
inductive EmergencyAccessStatus where
  | invited
  | accepted
  | confirmed
  | recoveryInitiated
  | recoveryApproved
  deriving DecidableEq, Repr

/-- A row of `emergency_access`. -/
structure EmergencyAccessContact where
  id : String
  grantorUserId : String
  granteeUserId : Option String := none
  emailNormalized : Option String := none
  type : EmergencyAccessType
  status : EmergencyAccessStatus
  waitTimeDays : Int
  inviteTokenHash : Option String := none
  inviteExpiresAt : Option Timestamp := none
  keyEncrypted : Option String := none
  keyGeneration : Option Int := none
  recoveryInitiatedAt : Option Timestamp := none
  lastNotificationAt : Option Timestamp := none
  createdAt : Timestamp
  revisionDate : Timestamp
  updatedAt : Timestamp
  deriving DecidableEq, Repr

namespace EmergencyAccessContact

/-- Two contacts of one grantor for one invited address (`idx_emergency_access_grantor_email_invited`)
or for one grantee (`idx_emergency_access_grantor_grantee`). -/
def Twice (a b : EmergencyAccessContact) : Prop :=
  a.grantorUserId = b.grantorUserId ∧
    ((a.status = .invited ∧ b.status = .invited ∧ a.emailNormalized ≠ none ∧
        a.emailNormalized = b.emailNormalized) ∨
      (a.granteeUserId ≠ none ∧ a.granteeUserId = b.granteeUserId))

instance (a b : EmergencyAccessContact) : Decidable (a.Twice b) :=
  inferInstanceAs (Decidable (_ ∧ _))

theorem Twice.symm {a b : EmergencyAccessContact} (h : a.Twice b) : b.Twice a := by
  obtain ⟨hgrantor, ⟨ha, hb, hsome, hsame⟩ | ⟨hsome, hsame⟩⟩ := h
  · exact ⟨hgrantor.symm, Or.inl ⟨hb, ha, hsame ▸ hsome, hsame.symm⟩⟩
  · exact ⟨hgrantor.symm, Or.inr ⟨hsame ▸ hsome, hsame.symm⟩⟩

/-- `LIKE 'hmac-sha256:v1:%'`, which does not tell capital letters from small ones. -/
def LikeVerifier (hash : String) : Prop :=
  "hmac-sha256:v1:".toList <+: hash.toList.map Char.toLower

instance : DecidablePred LikeVerifier := fun _ => inferInstanceAs (Decidable (_ <+: _))

/-- The CHECK of the columns that go with each status. -/
def Shaped (c : EmergencyAccessContact) : Prop :=
  match c.status with
  | .invited => c.emailNormalized ≠ none ∧ c.granteeUserId = none ∧ c.inviteTokenHash ≠ none ∧
      c.inviteExpiresAt ≠ none ∧ c.keyEncrypted = none ∧ c.keyGeneration = none ∧
      c.recoveryInitiatedAt = none
  | .accepted => c.emailNormalized = none ∧ c.granteeUserId ≠ none ∧ c.inviteTokenHash = none ∧
      c.inviteExpiresAt = none ∧ c.keyEncrypted = none ∧ c.keyGeneration = none ∧
      c.recoveryInitiatedAt = none
  | .confirmed => c.emailNormalized = none ∧ c.granteeUserId ≠ none ∧ c.inviteTokenHash = none ∧
      c.inviteExpiresAt = none ∧ c.keyEncrypted ≠ none ∧ c.keyGeneration ≠ none ∧
      c.recoveryInitiatedAt = none
  | .recoveryInitiated | .recoveryApproved => c.emailNormalized = none ∧ c.granteeUserId ≠ none ∧
      c.inviteTokenHash = none ∧ c.inviteExpiresAt = none ∧ c.keyEncrypted ≠ none ∧
      c.keyGeneration ≠ none ∧ c.recoveryInitiatedAt ≠ none

instance : DecidablePred Shaped := fun c => by
  unfold Shaped
  cases c.status <;> exact inferInstanceAs (Decidable (_ ∧ _))

/-- The CHECKs of the table. -/
structure Checked (c : EmergencyAccessContact) : Prop where
  waitTime : 1 ≤ c.waitTimeDays ∧ c.waitTimeDays ≤ 90
  tokenHash : ∀ hash ∈ c.inviteTokenHash, LikeVerifier hash
  generation : ∀ generation ∈ c.keyGeneration, 1 ≤ generation
  another : c.granteeUserId ≠ some c.grantorUserId
  shaped : c.Shaped

attribute [mk_iff] Checked

instance : DecidablePred Checked := fun c => decidable_of_iff' _ (checked_iff c)

/-- An account a contact refers to. -/
def Names (c : EmergencyAccessContact) (userId : String) : Prop :=
  c.grantorUserId = userId ∨ c.granteeUserId = some userId

instance (c : EmergencyAccessContact) : DecidablePred c.Names := fun _ =>
  inferInstanceAs (Decidable (_ ∨ _))

end EmergencyAccessContact

instance emergencyAccessContactKeyed : Keyed EmergencyAccessContact String where
  key := EmergencyAccessContact.id
  alternate := EmergencyAccessContact.Twice
  alternate_symm := EmergencyAccessContact.Twice.symm
  decKey _ _ := inferInstance
  decAlternate _ _ := inferInstance

/-- The tables of the repository. -/
structure EmergencyAccessDb where
  users : Table User := ∅
  auditEvents : Table AuditEventRow := ∅
  contacts : Table EmergencyAccessContact := ∅
  deriving DecidableEq

namespace EmergencyAccessDb

abbrev usersIn : TableIn EmergencyAccessDb User where
  name := "users"
  get db := db.users
  put db t := { db with users := t }
  get_put _ _ := rfl
  put_get _ := rfl

abbrev auditEventsIn : TableIn EmergencyAccessDb AuditEventRow where
  name := "audit_events"
  get db := db.auditEvents
  put db t := { db with auditEvents := t }
  get_put _ _ := rfl
  put_get _ := rfl

abbrev contactsIn : TableIn EmergencyAccessDb EmergencyAccessContact where
  name := "emergency_access"
  get db := db.contacts
  put db t := { db with contacts := t }
  get_put _ _ := rfl
  put_get _ := rfl

/-- What a statement wrote passes the CHECKs. -/
def NewChecked (db db' : EmergencyAccessDb) : Prop :=
  ∀ c ∈ db'.contacts.rows, c ∈ db.contacts.rows ∨ c.Checked

instance (db db' : EmergencyAccessDb) : Decidable (db.NewChecked db') :=
  inferInstanceAs (Decidable (∀ c ∈ db'.contacts.rows, _))

/-- What a statement wrote refers to accounts that exist. -/
def NewReferences (db db' : EmergencyAccessDb) : Prop :=
  ∀ c ∈ db'.contacts.rows, c ∈ db.contacts.rows ∨
    ((∃ u ∈ db.users.rows, u.id = c.grantorUserId) ∧
      ∀ grantee ∈ c.granteeUserId, ∃ u ∈ db.users.rows, u.id = grantee)

instance (db db' : EmergencyAccessDb) : Decidable (db.NewReferences db') :=
  inferInstanceAs (Decidable (∀ c ∈ db'.contacts.rows, _))

end EmergencyAccessDb

/-! ## Mutations and their events -/

/-- `EmergencyAccessRow`: the columns of `contactProjection`. -/
structure EmergencyAccessRow where
  id : String
  grantorUserId : String
  granteeUserId : Option String
  emailNormalized : Option String
  type : EmergencyAccessType
  status : EmergencyAccessStatus
  waitTimeDays : Int
  createdAt : Timestamp
  revisionDate : Timestamp
  updatedAt : Timestamp
  keyGeneration : Option Int
  deriving DecidableEq, Repr

/-- `contactProjection`. -/
def EmergencyAccessContact.projection (c : EmergencyAccessContact) : EmergencyAccessRow where
  id := c.id
  grantorUserId := c.grantorUserId
  granteeUserId := c.granteeUserId
  emailNormalized := c.emailNormalized
  type := c.type
  status := c.status
  waitTimeDays := c.waitTimeDays
  createdAt := c.createdAt
  revisionDate := c.revisionDate
  updatedAt := c.updatedAt
  keyGeneration := c.keyGeneration

/-- `runAuditedEmergencyAccessMutation`. -/
def runAuditedEmergencyAccessMutation (mutation : Statement EmergencyAccessDb)
    (event : AuditEventRow) (db : EmergencyAccessDb) :
    EmergencyAccessDb × Except Failure StatementResult :=
  commit [mutation, EmergencyAccessDb.auditEventsIn.auditWhenChanged event]
    (fun results =>
      match results.head? with
      | some result => .ok result
      | none => .error "Emergency Access mutation batch returned no result.") db

/-- The mutation with its success event, or alone. -/
def runEmergencyAccessMutation (mutation : Statement EmergencyAccessDb)
    (successAuditEvent : Option AuditEventRow) (db : EmergencyAccessDb) :
    EmergencyAccessDb × Except Failure StatementResult :=
  match successAuditEvent with
  | some event => runAuditedEmergencyAccessMutation mutation event db
  | none => execute mutation .ok db

/-- `result.results[0]`, where one row was changed: the row as it was written. -/
def writtenContact (db' : EmergencyAccessDb) (result : StatementResult) :
    Option EmergencyAccessRow :=
  if result.metaChanges ≠ 1 then none
  else
    match result.rows.head? with
    | some [.text id] => (EmergencyAccessDb.contactsIn.row db' id).map
        EmergencyAccessContact.projection
    | _ => none

/-- `UPDATE emergency_access SET … WHERE … RETURNING …`. -/
def updateContact (hit : EmergencyAccessContact → Prop) [DecidablePred hit]
    (set : EmergencyAccessContact → EmergencyAccessContact) : Statement EmergencyAccessDb :=
  ((EmergencyAccessDb.contactsIn.updateReturning (fun _ _ => hit) (fun _ => set)
    fun c => [[.text c.id]]).requiring .check EmergencyAccessDb.NewChecked).requiring .foreignKey
      EmergencyAccessDb.NewReferences

/-- An UPDATE as a call; `none` is `'not_found'`. -/
def writeContact (hit : EmergencyAccessContact → Prop) [DecidablePred hit]
    (set : EmergencyAccessContact → EmergencyAccessContact)
    (successAuditEvent : Option AuditEventRow) (db : EmergencyAccessDb) :
    EmergencyAccessDb × Except Failure (Option EmergencyAccessRow) :=
  let call := runEmergencyAccessMutation (updateContact hit set) successAuditEvent db
  (call.1, call.2.map (writtenContact call.1))

/-! ## The calls -/

/-- `InsertInvitedEmergencyAccessInput`. -/
structure InsertInvitedEmergencyAccessInput where
  id : String
  grantorUserId : String
  emailNormalized : String
  type : EmergencyAccessType
  waitTimeDays : Int
  inviteTokenHash : String
  inviteExpiresAt : Timestamp
  createdAt : Timestamp
  deriving DecidableEq, Repr

namespace InsertInvitedEmergencyAccessInput

variable (input : InsertInvitedEmergencyAccessInput)

def row : EmergencyAccessContact where
  id := input.id
  grantorUserId := input.grantorUserId
  emailNormalized := some input.emailNormalized
  type := input.type
  status := .invited
  waitTimeDays := input.waitTimeDays
  inviteTokenHash := some input.inviteTokenHash
  inviteExpiresAt := some input.inviteExpiresAt
  createdAt := input.createdAt
  revisionDate := input.createdAt
  updatedAt := input.createdAt

/-- The grantor has a contact for the address already: an invitation there, or a grantee whose
account has it. -/
def Existing (db : EmergencyAccessDb) : Prop :=
  ∃ existing ∈ db.contacts.rows, existing.grantorUserId = input.grantorUserId ∧
    (existing.emailNormalized = some input.emailNormalized ∨
      ∃ u ∈ db.users.rows, u.emailNormalized = input.emailNormalized ∧
        existing.granteeUserId = some u.id)

instance (db : EmergencyAccessDb) : Decidable (input.Existing db) :=
  inferInstanceAs (Decidable (∃ existing ∈ db.contacts.rows, _))

def new (db : EmergencyAccessDb) : Option EmergencyAccessContact :=
  if input.Existing db then none else some input.row

/-- The INSERT. A row that breaks a CHECK is refused as such, also where it is a duplicate. -/
def statement : Statement EmergencyAccessDb := fun db n =>
  if input.Existing db ∨ input.row.Checked then
    (EmergencyAccessDb.contactsIn.insertSelect (fun db _ => (input.new db).toList)
      fun c => [[.text c.id]]).requiring .foreignKey EmergencyAccessDb.NewReferences db n
  else .error .check

end InsertInvitedEmergencyAccessInput

/-- `insertInvitedEmergencyAccess`; `none` is `'conflict'`. -/
def insertInvitedEmergencyAccess (input : InsertInvitedEmergencyAccessInput)
    (successAuditEvent : Option AuditEventRow) (db : EmergencyAccessDb) :
    EmergencyAccessDb × Except Failure (Option EmergencyAccessRow) :=
  let call := runEmergencyAccessMutation input.statement successAuditEvent db
  (call.1,
    match call.2 with
    | .ok result => .ok (writtenContact call.1 result)
    | .error (.constraint (.unique _)) => .ok none
    | .error e => .error e)

/-- `AcceptInvitedEmergencyAccessInput`. -/
structure AcceptInvitedEmergencyAccessInput where
  id : String
  granteeUserId : String
  emailNormalized : String
  inviteTokenHash : String
  now : Timestamp
  deriving DecidableEq, Repr

namespace AcceptInvitedEmergencyAccessInput

variable (input : AcceptInvitedEmergencyAccessInput)

def Hit (c : EmergencyAccessContact) : Prop :=
  c.id = input.id ∧ c.status = .invited ∧ c.emailNormalized = some input.emailNormalized ∧
    c.inviteTokenHash = some input.inviteTokenHash ∧
    (∃ expires ∈ c.inviteExpiresAt, input.now < expires) ∧ c.grantorUserId ≠ input.granteeUserId

instance : DecidablePred input.Hit := fun _ => inferInstanceAs (Decidable (_ ∧ _))

def accept (c : EmergencyAccessContact) : EmergencyAccessContact :=
  { c with
    status := .accepted
    granteeUserId := some input.granteeUserId
    emailNormalized := none
    inviteTokenHash := none
    inviteExpiresAt := none
    revisionDate := input.now
    updatedAt := input.now }

end AcceptInvitedEmergencyAccessInput

/-- `acceptInvitedEmergencyAccess`. -/
def acceptInvitedEmergencyAccess (input : AcceptInvitedEmergencyAccessInput)
    (successAuditEvent : Option AuditEventRow) (db : EmergencyAccessDb) :
    EmergencyAccessDb × Except Failure (Option EmergencyAccessRow) :=
  writeContact input.Hit input.accept successAuditEvent db

/-- `ConfirmAcceptedEmergencyAccessInput`. -/
structure ConfirmAcceptedEmergencyAccessInput where
  id : String
  grantorUserId : String
  keyEncrypted : String
  keyGeneration : Int
  now : Timestamp
  deriving DecidableEq, Repr

namespace ConfirmAcceptedEmergencyAccessInput

variable (input : ConfirmAcceptedEmergencyAccessInput)

def Hit (c : EmergencyAccessContact) : Prop :=
  c.id = input.id ∧ c.grantorUserId = input.grantorUserId ∧ c.status = .accepted ∧
    c.granteeUserId ≠ none ∧ c.keyEncrypted = none

instance : DecidablePred input.Hit := fun _ => inferInstanceAs (Decidable (_ ∧ _))

def confirm (c : EmergencyAccessContact) : EmergencyAccessContact :=
  { c with
    status := .confirmed
    keyEncrypted := some input.keyEncrypted
    keyGeneration := some input.keyGeneration
    revisionDate := input.now
    updatedAt := input.now }

end ConfirmAcceptedEmergencyAccessInput

/-- `confirmAcceptedEmergencyAccess`. -/
def confirmAcceptedEmergencyAccess (input : ConfirmAcceptedEmergencyAccessInput)
    (successAuditEvent : Option AuditEventRow) (db : EmergencyAccessDb) :
    EmergencyAccessDb × Except Failure (Option EmergencyAccessRow) :=
  writeContact input.Hit input.confirm successAuditEvent db

/-- `ReinviteEmergencyAccessInput`. -/
structure ReinviteEmergencyAccessInput where
  id : String
  grantorUserId : String
  inviteTokenHash : String
  inviteExpiresAt : Timestamp
  now : Timestamp
  deriving DecidableEq, Repr

namespace ReinviteEmergencyAccessInput

variable (input : ReinviteEmergencyAccessInput)

def Hit (c : EmergencyAccessContact) : Prop :=
  c.id = input.id ∧ c.grantorUserId = input.grantorUserId ∧ c.status = .invited

instance : DecidablePred input.Hit := fun _ => inferInstanceAs (Decidable (_ ∧ _))

def reinvite (c : EmergencyAccessContact) : EmergencyAccessContact :=
  { c with
    inviteTokenHash := some input.inviteTokenHash
    inviteExpiresAt := some input.inviteExpiresAt
    revisionDate := input.now
    updatedAt := input.now }

end ReinviteEmergencyAccessInput

/-- `reinviteEmergencyAccess`. -/
def reinviteEmergencyAccess (input : ReinviteEmergencyAccessInput)
    (successAuditEvent : Option AuditEventRow) (db : EmergencyAccessDb) :
    EmergencyAccessDb × Except Failure (Option EmergencyAccessRow) :=
  writeContact input.Hit input.reinvite successAuditEvent db

/-- `UpdateEmergencyAccessInput`. -/
structure UpdateEmergencyAccessInput where
  id : String
  grantorUserId : String
  type : EmergencyAccessType
  waitTimeDays : Int
  keyEncrypted : Option String
  now : Timestamp
  deriving DecidableEq, Repr

namespace UpdateEmergencyAccessInput

variable (input : UpdateEmergencyAccessInput)

def Hit (c : EmergencyAccessContact) : Prop :=
  c.id = input.id ∧ c.grantorUserId = input.grantorUserId ∧
    (c.status = .invited ∨ c.status = .accepted ∨ c.status = .confirmed) ∧
    c.recoveryInitiatedAt = none

instance : DecidablePred input.Hit := fun _ => inferInstanceAs (Decidable (_ ∧ _))

def update (c : EmergencyAccessContact) : EmergencyAccessContact :=
  { c with
    type := input.type
    waitTimeDays := input.waitTimeDays
    keyEncrypted :=
      if input.keyEncrypted ≠ none ∧ c.status = .confirmed then input.keyEncrypted
      else c.keyEncrypted
    revisionDate := input.now
    updatedAt := input.now }

end UpdateEmergencyAccessInput

/-- `updateEmergencyAccess`. -/
def updateEmergencyAccess (input : UpdateEmergencyAccessInput)
    (successAuditEvent : Option AuditEventRow) (db : EmergencyAccessDb) :
    EmergencyAccessDb × Except Failure (Option EmergencyAccessRow) :=
  writeContact input.Hit input.update successAuditEvent db

/-- The side of a contact that withdraws. -/
inductive EmergencyAccessRole where
  | grantor
  | grantee
  deriving DecidableEq, Repr

/-- `DeleteEmergencyAccessInput`. -/
structure DeleteEmergencyAccessInput where
  id : String
  actorUserId : String
  role : EmergencyAccessRole
  deriving DecidableEq, Repr

namespace DeleteEmergencyAccessInput

variable (input : DeleteEmergencyAccessInput)

/-- `actorColumn`. -/
def actorColumn (c : EmergencyAccessContact) : Option String :=
  match input.role with
  | .grantor => some c.grantorUserId
  | .grantee => c.granteeUserId

def Hit (c : EmergencyAccessContact) : Prop :=
  c.id = input.id ∧ input.actorColumn c = some input.actorUserId

instance : DecidablePred input.Hit := fun _ => inferInstanceAs (Decidable (_ ∧ _))

end DeleteEmergencyAccessInput

/-- `deleteEmergencyAccess`: whether a contact was deleted. -/
def deleteEmergencyAccess (input : DeleteEmergencyAccessInput)
    (successAuditEvent : Option AuditEventRow) (db : EmergencyAccessDb) :
    EmergencyAccessDb × Except Failure Bool :=
  let call := runEmergencyAccessMutation
    (EmergencyAccessDb.contactsIn.delete fun _ _ => input.Hit) successAuditEvent db
  (call.1, call.2.map fun result => decide (result.metaChanges = 1))

/-! ## Reading -/

/-- `ORDER BY created_at ASC, id ASC`. -/
def listedBefore (a b : EmergencyAccessContact) : Bool :=
  a.createdAt < b.createdAt ∨ a.createdAt = b.createdAt ∧ a.id ≤ b.id

/-- `listTrustedEmergencyAccess`: a contact without an address is shown with that of its grantee. -/
def listTrustedEmergencyAccess (grantorUserId : String) (db : EmergencyAccessDb) :
    List EmergencyAccessRow :=
  ((db.contacts.rows.filter fun c => c.grantorUserId = grantorUserId).mergeSort listedBefore).map
    fun c => { c.projection with
      emailNormalized := c.emailNormalized.or (c.granteeUserId.bind fun grantee =>
        (EmergencyAccessDb.usersIn.row db grantee).map User.emailNormalized) }

/-- `listGrantedEmergencyAccess`. -/
def listGrantedEmergencyAccess (granteeUserId : String) (db : EmergencyAccessDb) :
    List EmergencyAccessRow :=
  ((db.contacts.rows.filter fun c => c.granteeUserId = some granteeUserId).mergeSort
    listedBefore).map EmergencyAccessContact.projection

/-- `findEmergencyAccessContact`. -/
def findEmergencyAccessContact (id : String) (db : EmergencyAccessDb) :
    Option EmergencyAccessRow :=
  (EmergencyAccessDb.contactsIn.row db id).map EmergencyAccessContact.projection

/-! ## What a mutation does -/

/-- A mutation wrote the contact `id`, which is `v` now, and left its event. -/
structure ContactWritten (id : String) (v : Option EmergencyAccessContact)
    (event : Option AuditEventRow) (db db' : EmergencyAccessDb) : Prop where
  row : EmergencyAccessDb.contactsIn.row db' =
    Function.update (EmergencyAccessDb.contactsIn.row db) id v
  audit : db'.auditEvents.rows = db.auditEvents.rows ++ event.toList
  users : db'.users = db.users

section Outcomes

variable {event : Option AuditEventRow} {db : EmergencyAccessDb} {id : String}

/-- A mutation is refused, or takes place; the event goes with a changed row. -/
theorem runEmergencyAccessMutation_cases (mutation : Statement EmergencyAccessDb)
    (event : Option AuditEventRow) (db : EmergencyAccessDb) :
    ((runEmergencyAccessMutation mutation event db).1 = db ∧
      ∃ e, (runEmergencyAccessMutation mutation event db).2 = .error e) ∨
    ∃ db₁ r, mutation db 0 = .ok (db₁, r) ∧
      (runEmergencyAccessMutation mutation event db).2 = .ok r ∧
      (r.changes = 0 → (runEmergencyAccessMutation mutation event db).1 = db₁) ∧
      (r.changes = 1 → ∃ A : Table AuditEventRow, A.rows = db₁.auditEvents.rows ++ event.toList ∧
        (runEmergencyAccessMutation mutation event db).1 = { db₁ with auditEvents := A }) := by
  cases event with
  | none =>
    rcases execute_cases mutation .ok db with ⟨hsame, e, he⟩ | ⟨db₁, r, hrun, hdb, hresult⟩
    · exact Or.inl ⟨hsame, _, he⟩
    · refine Or.inr ⟨db₁, r, hrun, hresult, fun _ => hdb, fun _ => ⟨db₁.auditEvents, ?_, hdb⟩⟩
      rw [Option.toList_none, List.append_nil]
  | some event =>
    simp only [runEmergencyAccessMutation, runAuditedEmergencyAccessMutation]
    rcases commit_cases [mutation, EmergencyAccessDb.auditEventsIn.auditWhenChanged event]
      (fun results =>
        match results.head? with
        | some result => .ok result
        | none => .error "Emergency Access mutation batch returned no result.") db with
      ⟨hsame, e, he⟩ | ⟨db₂, rs, hrun, hdb, hresult⟩
    · exact Or.inl ⟨hsame, _, he⟩
    · obtain ⟨db₁, r, rs', hmutation, hrest, rfl⟩ := runFrom_cons hrun
      obtain ⟨db₃, r', rs'', haudit, hnil, rfl⟩ := runFrom_cons hrest
      obtain ⟨rfl, rfl⟩ := runFrom_nil hnil
      refine Or.inr ⟨db₁, r, hmutation, hresult, fun hzero => ?_, fun hone => ?_⟩
      · rw [hzero] at haudit
        rw [hdb, (TableIn.auditWhenChanged_zero haudit).1]
      · rw [hone] at haudit
        obtain ⟨⟨A, hA, hput⟩, -⟩ := TableIn.auditWhenChanged_one haudit
        exact ⟨A, hA, hdb.trans hput⟩

/-- A mutation of one contact, from what its statement does. -/
theorem contactWritten_of_statement {v : Option EmergencyAccessContact}
    {db₁ db' : EmergencyAccessDb} {A : Table AuditEventRow}
    (hwritten : EmergencyAccessDb.contactsIn.RowWritten id v db db₁)
    (hA : A.rows = db₁.auditEvents.rows ++ event.toList)
    (hdb : db' = { db₁ with auditEvents := A }) : ContactWritten id v event db db' := by
  obtain ⟨hrow, T, rfl⟩ := hwritten
  subst hdb
  exact ⟨hrow, hA, rfl⟩

/-- The row a mutation reports is the one it wrote. -/
theorem writtenContact_eq {db' : EmergencyAccessDb} {r : StatementResult}
    {c : EmergencyAccessContact} (h : ContactWritten id (some c) event db db')
    (hone : r.metaChanges = 1) (hid : c.id = id) (hrows : r.rows = [[.text c.id]]) :
    writtenContact db' r = some c.projection := by
  have hrow : EmergencyAccessDb.contactsIn.row db' c.id = some c := by
    rw [h.row, hid, Function.update_self]
  simp only [writtenContact, hone, ne_eq, not_true_eq_false, if_false, hrows, List.head?_cons]
  exact congrArg _ hrow

theorem writtenContact_none {db' : EmergencyAccessDb} {r : StatementResult}
    (hzero : r.metaChanges = 0) : writtenContact db' r = none := by
  rw [writtenContact, if_pos (by omega)]

/-- **An UPDATE of one contact does to it what it says, or nothing.** -/
theorem writeContact_outcome (event : Option AuditEventRow) (db : EmergencyAccessDb)
    {hit : EmergencyAccessContact → Prop} [DecidablePred hit]
    {set : EmergencyAccessContact → EmergencyAccessContact} (hkey : ∀ c, hit c → c.id = id)
    (hset : ∀ c, (set c).id = c.id) :
    (∃ c, EmergencyAccessDb.contactsIn.row db id = some c ∧ hit c ∧
      (writeContact hit set event db).2 = .ok (some (set c).projection) ∧
      ContactWritten id (some (set c)) event db (writeContact hit set event db).1 ∧
      (set c ∈ db.contacts.rows ∨ (set c).Checked)) ∨
    ((∀ row, (writeContact hit set event db).2 ≠ .ok (some row)) ∧
      (writeContact hit set event db).1 = db) := by
  unfold writeContact
  dsimp only
  rcases runEmergencyAccessMutation_cases (updateContact hit set) event db with
    ⟨hsame, e, he⟩ | ⟨db₁, r, hrun, hresult, hidle, hevent⟩
  · refine Or.inr ⟨fun row h => ?_, hsame⟩
    rw [he] at h
    cases h
  · obtain ⟨hchecked, -⟩ := Statement.requiring_ok hrun
    obtain ⟨hupdate, hnew⟩ := Statement.requiring_ok hchecked
    rw [hresult]
    rcases TableIn.updateReturning_row hupdate hkey hset with
      ⟨c, hrow, hhit, hwritten, hone, hmeta, hrows⟩ | ⟨-, rfl, hzero, hmeta, -⟩
    · obtain ⟨A, hA, hdb⟩ := hevent hone
      have hcontact := contactWritten_of_statement hwritten hA hdb
      have hid : (set c).id = id := (hset c).trans (hkey c hhit)
      refine Or.inl ⟨c, hrow, hhit, ?_, hcontact, hnew _ (hwritten.mem.mpr (Or.inl rfl))⟩
      exact congrArg Except.ok (writtenContact_eq hcontact hmeta hid hrows)
    · refine Or.inr ⟨fun row h => ?_, hidle hzero⟩
      have hnone := Except.ok.inj h
      rw [writtenContact_none hmeta] at hnone
      cases hnone

/-- **An insertion writes the new contact, or nothing.** -/
theorem insertInvitedEmergencyAccess_outcome (input : InsertInvitedEmergencyAccessInput)
    (event : Option AuditEventRow) (db : EmergencyAccessDb) :
    (¬ input.Existing db ∧ input.row.Checked ∧
      EmergencyAccessDb.contactsIn.row db input.id = none ∧
      (insertInvitedEmergencyAccess input event db).2 = .ok (some input.row.projection) ∧
      ContactWritten input.id (some input.row) event db
        (insertInvitedEmergencyAccess input event db).1) ∨
    ((∀ row, (insertInvitedEmergencyAccess input event db).2 ≠ .ok (some row)) ∧
      (insertInvitedEmergencyAccess input event db).1 = db) := by
  unfold insertInvitedEmergencyAccess
  dsimp only
  rcases runEmergencyAccessMutation_cases input.statement event db with
    ⟨hsame, e, he⟩ | ⟨db₁, r, hrun, hresult, hidle, hevent⟩
  · refine Or.inr ⟨fun row h => ?_, hsame⟩
    rw [he] at h
    rcases e with (_ | _ | _ | _ | _) | _ <;> cases h
  · unfold InsertInvitedEmergencyAccessInput.statement at hrun
    split at hrun
    swap
    · cases hrun
    rename_i hguard
    obtain ⟨hinsert, -⟩ := Statement.requiring_ok hrun
    rw [hresult]
    rcases TableIn.insertSelect_cases (fun db _ => input.new db) hinsert with
      ⟨c, hnew, habsent, hwritten, hone, hmeta, hrows, -⟩ | ⟨-, rfl, hzero, hmeta, -⟩
    · unfold InsertInvitedEmergencyAccessInput.new at hnew
      split at hnew
      · cases hnew
      rename_i hfree
      obtain rfl := Option.some.inj hnew
      obtain ⟨A, hA, hdb⟩ := hevent hone
      have hcontact := contactWritten_of_statement hwritten hA hdb
      exact Or.inl ⟨hfree, hguard.resolve_left hfree, habsent,
        congrArg Except.ok (writtenContact_eq hcontact hmeta rfl hrows), hcontact⟩
    · refine Or.inr ⟨fun row h => ?_, hidle hzero⟩
      have hnone := Except.ok.inj h
      rw [writtenContact_none hmeta] at hnone
      cases hnone

/-- **A deletion takes the contact of a side, or nothing.** -/
theorem deleteEmergencyAccess_outcome (input : DeleteEmergencyAccessInput)
    (event : Option AuditEventRow) (db : EmergencyAccessDb) :
    (∃ c, EmergencyAccessDb.contactsIn.row db input.id = some c ∧ input.Hit c ∧
      (deleteEmergencyAccess input event db).2 = .ok true ∧
      ContactWritten input.id none event db (deleteEmergencyAccess input event db).1) ∨
    ((deleteEmergencyAccess input event db).2 ≠ .ok true ∧
      (deleteEmergencyAccess input event db).1 = db) := by
  unfold deleteEmergencyAccess
  dsimp only
  rcases runEmergencyAccessMutation_cases
    (EmergencyAccessDb.contactsIn.delete fun _ _ => input.Hit) event db with
    ⟨hsame, e, he⟩ | ⟨db₁, r, hrun, hresult, hidle, hevent⟩
  · refine Or.inr ⟨fun h => ?_, hsame⟩
    rw [he] at h
    cases h
  · rw [hresult]
    rcases TableIn.deleteReturning_row hrun (fun c hc => hc.1) with
      ⟨c, hrow, hhit, hwritten, hone, hmeta, -⟩ | ⟨-, rfl, hzero, hmeta, -⟩
    · obtain ⟨A, hA, hdb⟩ := hevent hone
      refine Or.inl ⟨c, hrow, hhit, ?_, contactWritten_of_statement hwritten hA hdb⟩
      exact congrArg Except.ok (decide_eq_true hmeta)
    · refine Or.inr ⟨fun h => ?_, hidle hzero⟩
      have htrue : decide (r.metaChanges = 1) = true := Except.ok.inj h
      rw [hmeta] at htrue
      cases htrue

end Outcomes

end HonoWarden
