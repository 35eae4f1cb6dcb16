import HonoWarden.Organization.Access
import HonoWarden.Relational.Lookup
import HonoWarden.Relational.Run

/-!
# The first account

Model of `createInitialAccount` (`src/initial-setup.ts`) with the receipt of migration 0033, and of
the two other ways an account comes to be: `createInvitedAccount`
(`src/invited-account-registration.ts`) and `createBootstrapUser`
(`src/repositories/user-repository.ts`).

The receipt is a table of one row that nothing deletes. `createInitialAccount` takes it with an
`INSERT OR IGNORE` that asks for an empty `users`; the account and its event follow from the receipt
under the id this call has drawn, and an assertion aborts the batch when the receipt is there and
one of them is not.

Results:
* **`createInitialAccount_outcome`**: a call creates receipt, account and event in a database
  without accounts, or changes nothing;
* `initialSetupOnce_next`: what one step of a run keeps;
* **`initialAccount_once`**: in every run, whatever else is written, at most one call succeeds.
-/

namespace HonoWarden

open Relational

/-- `initial_setup_receipt`; the CHECK leaves `1` as the only `singleton`. -/
structure InitialSetupReceipt where
  userId : String
  consumedAt : Timestamp
  deriving DecidableEq, Repr

instance : Keyed InitialSetupReceipt Unit := .primary fun _ => ()

/-- The database, with the receipt. -/
structure SetupDb extends Db where
  initialSetupReceipt : Table InitialSetupReceipt := ∅
  deriving DecidableEq

namespace SetupDb

abbrev usersIn : TableIn SetupDb User where
  name := "users"
  get db := db.users
  put db t := { db with users := t }
  get_put _ _ := rfl
  put_get _ := rfl

abbrev auditEventsIn : TableIn SetupDb AuditEventRow where
  name := "audit_events"
  get db := db.auditEvents
  put db t := { db with auditEvents := t }
  get_put _ _ := rfl
  put_get _ := rfl

abbrev receiptIn : TableIn SetupDb InitialSetupReceipt where
  name := "initial_setup_receipt"
  get db := db.initialSetupReceipt
  put db t := { db with initialSetupReceipt := t }
  get_put _ _ := rfl
  put_get _ := rfl

end SetupDb

/-! ## Accounts -/

/-- `AccountRegistrationFields`. -/
structure AccountRegistrationFields where
  email : String
  displayName : Option String
  masterPasswordHash : String
  userKey : String
  publicKey : String
  privateKey : String
  deriving DecidableEq, Repr

/-- The row of a registration; `updated_at` is the default of the column. -/
def AccountRegistrationFields.user (input : AccountRegistrationFields) (id securityStamp : String)
    (now : Timestamp) : User where
  id := id
  email := input.email
  emailNormalized := input.email
  displayName := input.displayName
  kdfAlgorithm := "pbkdf2-sha256"
  kdfIterations := 600000
  kdfMemory := none
  kdfParallelism := none
  masterPasswordHash := input.masterPasswordHash
  userKey := some input.userKey
  publicKey := some input.publicKey
  privateKey := some input.privateKey
  securityStamp := securityStamp
  revisionDate := now
  updatedAt := now

/-! ## `createInitialAccount` -/

/-- The input of `createInitialAccount`, with the id and the stamp it draws. -/
structure CreateInitialAccountInput extends AccountRegistrationFields where
  now : Timestamp
  requestId : String
  userId : String
  stamp : String
  deriving DecidableEq, Repr

namespace CreateInitialAccountInput

variable (input : CreateInitialAccountInput)

def receipt : InitialSetupReceipt where
  userId := input.userId
  consumedAt := input.now

def account : User := input.user input.userId input.stamp input.now

def auditEvent : AuditEventRow where
  id := input.userId
  name := "admin.initial_setup"
  outcome := "success"
  requestId := input.requestId
  occurredAt := input.now
  targetType := some "account"
  targetId := some input.userId
  contextJson := some []

/-- The receipt names the account of this call. -/
def Received (db : SetupDb) : Prop :=
  ∃ r ∈ db.initialSetupReceipt.rows, r.userId = input.userId

instance (db : SetupDb) : Decidable (input.Received db) :=
  inferInstanceAs (Decidable (∃ r ∈ db.initialSetupReceipt.rows, _))

/-- The batch of `createInitialAccount`. -/
def batch : List (Statement SetupDb) :=
  [SetupDb.receiptIn.insertOrIgnore fun db _ => if db.users.rows = [] then [input.receipt] else [],
    SetupDb.usersIn.insertSelect fun db _ => if input.Received db then [input.account] else [],
    SetupDb.auditEventsIn.insertSelect fun db _ =>
      if input.Received db then [input.auditEvent] else [],
    assertThat fun db _ => ¬ (input.Received db ∧
      ((¬ ∃ u ∈ db.users.rows, u.id = input.userId) ∨
        ¬ ∃ e ∈ db.auditEvents.rows, e.id = input.userId ∧ e.name = "admin.initial_setup")),
    select fun db => (db.users.rows.filter fun u => u.id = input.userId).map fun u => [.text u.id]]

/-- The reading of the batch: whether the account is there. -/
def interpret (results : List StatementResult) : Except String Bool :=
  if results.length ≠ 5 then .error "Initial setup could not be confirmed."
  else .ok ((results[4]?.bind fun r => r.rows.head?) = some [.text input.userId])

end CreateInitialAccountInput

/-- `createInitialAccount`. -/
def createInitialAccount (input : CreateInitialAccountInput) (db : SetupDb) :
    SetupDb × Except Failure Bool :=
  commit input.batch input.interpret db

/-! ## `createInvitedAccount` -/

/-- The input of `createInvitedAccount`, with the ids it draws; `inviteTokenHash` is what
`buildOrganizationMembershipInviteTokenHash` makes of the token. -/
structure CreateInvitedAccountInput extends AccountRegistrationFields where
  organizationId : String
  membershipId : String
  inviteTokenHash : String
  now : Timestamp
  requestId : String
  userId : String
  securityStamp : String
  auditId : String
  deriving DecidableEq, Repr

namespace CreateInvitedAccountInput

variable (input : CreateInvitedAccountInput)

/-- The invitation stands. -/
def Invited (db : Db) : Prop :=
  ∃ invitation ∈ db.organizationUsers.rows, OrganizationEnabled db invitation.organizationId ∧
    invitation.id = input.membershipId ∧ invitation.organizationId = input.organizationId ∧
    invitation.email = input.email ∧ invitation.status = 0 ∧ invitation.userId = none ∧
    invitation.inviteTokenHash = some input.inviteTokenHash ∧
    ∃ expiresAt ∈ invitation.inviteExpiresAt, input.now < expiresAt

instance (db : Db) : Decidable (input.Invited db) :=
  inferInstanceAs (Decidable (∃ invitation ∈ db.organizationUsers.rows, _))

/-- The account of this call is there. -/
def Created (db : SetupDb) : Prop := ∃ u ∈ db.users.rows, u.id = input.userId

instance (db : SetupDb) : Decidable (input.Created db) :=
  inferInstanceAs (Decidable (∃ u ∈ db.users.rows, _))

def auditEvent : AuditEventRow where
  id := input.auditId
  name := "organization.member.registration"
  outcome := "success"
  requestId := input.requestId
  occurredAt := input.now
  actorUserId := some input.userId
  targetType := some "organization_user"
  targetId := some input.membershipId
  contextJson := some [("organizationId", .text input.organizationId)]

/-- The batch of `createInvitedAccount`. -/
def batch : List (Statement SetupDb) :=
  [SetupDb.usersIn.insertOrIgnore
      (fun db _ => if input.Invited db.toDb then
          [input.user input.userId input.securityStamp input.now]
        else [])
      fun u => [[.text u.id]],
    SetupDb.auditEventsIn.insertSelect fun db _ =>
      if input.Created db then [input.auditEvent] else [],
    assertThat fun db _ => ¬ (input.Created db ∧ ¬ ∃ e ∈ db.auditEvents.rows,
      e.id = input.auditId ∧ e.name = "organization.member.registration")]

/-- The reading of the batch. -/
def interpret (results : List StatementResult) : Except String Bool :=
  match results with
  | [insertion, audit, _] =>
    .ok (insertion.rows.head? = some [.text input.userId] ∧ audit.metaChanges = 1)
  | _ => .error "Invited account registration batch was not confirmed."

end CreateInvitedAccountInput

/-- `createInvitedAccount`. -/
def createInvitedAccount (input : CreateInvitedAccountInput) (db : SetupDb) :
    SetupDb × Except Failure Bool :=
  commit input.batch input.interpret db

/-! ## `createBootstrapUser` -/

/-- `BootstrapUserRecord`. -/
structure BootstrapUserRecord where
  id : String
  email : String
  emailNormalized : String
  displayName : Option String
  masterPasswordHash : String
  userKey : Option String
  publicKey : Option String
  privateKey : Option String
  securityStamp : String
  revisionDate : Timestamp
  deriving DecidableEq, Repr

/-- The row the record becomes. -/
def BootstrapUserRecord.user (record : BootstrapUserRecord) : User where
  id := record.id
  email := record.email
  emailNormalized := record.emailNormalized
  displayName := record.displayName
  kdfAlgorithm := "pbkdf2-sha256"
  kdfIterations := 600000
  kdfMemory := none
  kdfParallelism := none
  masterPasswordHash := record.masterPasswordHash
  userKey := record.userKey
  publicKey := record.publicKey
  privateKey := record.privateKey
  securityStamp := record.securityStamp
  revisionDate := record.revisionDate
  updatedAt := record.revisionDate

/-- `CreateBootstrapUserResult`. -/
inductive CreateBootstrapUserResult where
  | created (userId : String)
  | duplicate
  deriving DecidableEq, Repr

/-- `createBootstrapUser`. -/
def createBootstrapUser (record : BootstrapUserRecord) (db : SetupDb) :
    SetupDb × Except Failure CreateBootstrapUserResult :=
  execute (SetupDb.usersIn.insertOrIgnore fun _ _ => [record.user])
    (fun r => .ok (if r.metaChanges = 0 then .duplicate else .created record.id)) db

/-! ## What a call does -/

/-- The call turned `db` into `db'` by taking the receipt and creating the account and its event, in
a database without accounts, and wrote nothing else. -/
structure InitialAccountCreated (input : CreateInitialAccountInput) (db db' : SetupDb) : Prop where
  empty : db.users.rows = []
  unreceived : db.initialSetupReceipt.rows = []
  receipt : db'.initialSetupReceipt.rows = [input.receipt]
  account : db'.users.rows = [input.account]
  audit : db'.auditEvents.rows = db.auditEvents.rows ++ [input.auditEvent]
  others : db' =
    { db with
      initialSetupReceipt := db'.initialSetupReceipt
      users := db'.users
      auditEvents := db'.auditEvents }

/-- The id drawn is the id of no account and in no receipt. -/
def SetupDb.Unused (db : SetupDb) (userId : String) : Prop :=
  (∀ u ∈ db.users.rows, u.id ≠ userId) ∧ ∀ r ∈ db.initialSetupReceipt.rows, r.userId ≠ userId

instance SetupDb.decidableUnused (db : SetupDb) (userId : String) : Decidable (db.Unused userId) :=
  inferInstanceAs (Decidable (_ ∧ _))

section Outcome

variable {input : CreateInitialAccountInput} {db : SetupDb}

/-- The receipt is taken if there are no accounts and no receipt. -/
theorem CreateInitialAccountInput.takes_receipt (hempty : db.users.rows = [])
    (hunreceived : db.initialSetupReceipt.rows = []) :
    (if db.users.rows = [] then [input.receipt] else []).foldl insertUnlessConflict
      db.initialSetupReceipt.rows = [input.receipt] := by
  rw [if_pos hempty, hunreceived]
  rfl

/-- Otherwise the table stays as it is. -/
theorem CreateInitialAccountInput.leaves_receipt
    (h : ¬ (db.users.rows = [] ∧ db.initialSetupReceipt.rows = [])) :
    (if db.users.rows = [] then [input.receipt] else []).foldl insertUnlessConflict
      db.initialSetupReceipt.rows = db.initialSetupReceipt.rows := by
  by_cases hempty : db.users.rows = []
  · rw [if_pos hempty]
    obtain ⟨r, hr⟩ := List.exists_mem_of_ne_nil _ fun hnil => h ⟨hempty, hnil⟩
    exact if_pos ⟨r, hr, Or.inl rfl⟩
  · rw [if_neg hempty]
    rfl

/-- What a batch that took the receipt has done. -/
theorem createInitialAccount_created {db' : SetupDb} {rs : List StatementResult}
    (hempty : db.users.rows = []) (hunreceived : db.initialSetupReceipt.rows = [])
    (hrun : runBatch input.batch db = .ok (db', rs)) :
    InitialAccountCreated input db db' ∧ input.interpret rs = .ok true := by
  obtain ⟨db₁, r₁, _, hst₁, hrest₁, rfl⟩ := runFrom_cons hrun
  obtain ⟨db₂, r₂, _, hst₂, hrest₂, rfl⟩ := runFrom_cons hrest₁
  obtain ⟨db₃, r₃, _, hst₃, hrest₃, rfl⟩ := runFrom_cons hrest₂
  obtain ⟨db₄, r₄, _, hst₄, hrest₄, rfl⟩ := runFrom_cons hrest₃
  obtain ⟨db₅, r₅, _, hst₅, hrest₅, rfl⟩ := runFrom_cons hrest₄
  obtain ⟨rfl, rfl⟩ := runFrom_nil hrest₅
  obtain ⟨R, hR, rfl, -⟩ := TableIn.insertOrIgnore_ok hst₁
  have hreceipt : R.rows = [input.receipt] :=
    hR.trans (CreateInitialAccountInput.takes_receipt hempty hunreceived)
  have hreceived : ∃ r ∈ R.rows, r.userId = input.userId := by
    rw [hreceipt]
    exact ⟨_, List.mem_cons_self, rfl⟩
  obtain ⟨U, hU, rfl, -⟩ := TableIn.insertSelect_ok hst₂
  have haccount : U.rows = [input.account] := by
    refine hU.trans ?_
    rw [show (SetupDb.usersIn.get _).rows = [] from hempty]
    exact if_pos hreceived
  obtain ⟨E, hE, rfl, -⟩ := TableIn.insertSelect_ok hst₃
  obtain ⟨-, rfl, -⟩ := assertThat_ok hst₄
  simp only [select, Except.ok.injEq, Prod.mk.injEq] at hst₅
  obtain ⟨rfl, rfl⟩ := hst₅
  refine ⟨⟨hempty, hunreceived, hreceipt, haccount, ?_, rfl⟩, ?_⟩
  · exact hE.trans (congrArg _ (if_pos hreceived))
  · unfold CreateInitialAccountInput.interpret
    rw [if_neg (by simp)]
    refine congrArg Except.ok (decide_eq_true ?_)
    change ((U.rows.filter fun u => u.id = input.userId).map
      fun u => [Value.text u.id]).head? = some [.text input.userId]
    rw [haccount]
    simp [CreateInitialAccountInput.account, AccountRegistrationFields.user]

/-- A call that does not take the receipt does nothing. -/
theorem createInitialAccount_idle (hunused : db.Unused input.userId)
    (h : ¬ (db.users.rows = [] ∧ db.initialSetupReceipt.rows = [])) :
    runBatch input.batch db = .ok (db, [{}, {}, {}, { rows := [[.integer 1]] }, {}]) := by
  have hreceived : ¬ input.Received db := by
    rintro ⟨r, hr, hid⟩
    exact hunused.2 r hr hid
  have hread : (db.users.rows.filter fun u => u.id = input.userId) = [] :=
    List.filter_eq_nil_iff.mpr fun u hu => by simpa using hunused.1 u hu
  refine runFrom_cons_ok (TableIn.insertOrIgnore_idle _
    (CreateInitialAccountInput.leaves_receipt h)) ?_
  refine runFrom_cons_ok (TableIn.insertSelect_idle _ (if_neg hreceived)) ?_
  refine runFrom_cons_ok (TableIn.insertSelect_idle _ (if_neg hreceived)) ?_
  refine runFrom_cons_ok (if_pos fun h => hreceived h.1) ?_
  simp only [runFrom, select, hread, List.map_nil]

/-- **A call creates the account, or changes nothing.** -/
theorem createInitialAccount_outcome (input : CreateInitialAccountInput)
    (hunused : db.Unused input.userId) :
    ((createInitialAccount input db).2 = .ok true ∧
      InitialAccountCreated input db (createInitialAccount input db).1) ∨
    ((createInitialAccount input db).2 ≠ .ok true ∧ (createInitialAccount input db).1 = db) := by
  unfold createInitialAccount
  by_cases h : db.users.rows = [] ∧ db.initialSetupReceipt.rows = []
  · rcases commit_cases input.batch input.interpret db with
      ⟨hsame, e, he⟩ | ⟨db', rs, hrun, hdb, hresult⟩
    · refine Or.inr ⟨fun hok => ?_, hsame⟩
      rw [he] at hok
      cases hok
    · obtain ⟨hcreated, hread⟩ := createInitialAccount_created h.1 h.2 hrun
      rw [hdb, hresult, hread]
      exact Or.inl ⟨rfl, hcreated⟩
  · rw [commit_of_run (createInitialAccount_idle hunused h)]
    refine Or.inr ⟨fun hok => ?_, rfl⟩
    cases hok

end Outcome

/-! ## Runs -/

/-- A step: one of the three ways an account is created, or a write of the other tables, which may
also delete accounts. -/
inductive SetupStep where
  | initial (input : CreateInitialAccountInput)
  | invited (input : CreateInvitedAccountInput)
  | bootstrap (record : BootstrapUserRecord)
  | surroundings (write : Db → Db)

/-- The database, and the calls of `createInitialAccount` that returned `true`, the last one
first. -/
structure SetupState where
  db : SetupDb := {}
  created : List CreateInitialAccountInput := []

namespace SetupStep

def exec : SetupStep → SetupState → SetupState
  | initial input, s =>
    let out := createInitialAccount input s.db
    { db := out.1
      created := if out.2 = .ok true then input :: s.created else s.created }
  | invited input, s => { s with db := (createInvitedAccount input s.db).1 }
  | bootstrap record, s => { s with db := (createBootstrapUser record s.db).1 }
  | surroundings write, s => { s with db := { s.db with toDb := write s.db.toDb } }

def draws : SetupStep → List String
  | initial input => [input.userId, input.stamp]
  | invited input => [input.userId, input.securityStamp, input.auditId]
  | bootstrap record => [record.id, record.securityStamp]
  | surroundings _ => []

/-- What is drawn is not in use. -/
def Draws (s : SetupState) : SetupStep → Prop
  | initial input => s.db.Unused input.userId
  | _ => True

instance (s : SetupState) : ∀ l, Decidable (Draws s l)
  | initial input => inferInstanceAs (Decidable (s.db.Unused input.userId))
  | invited _ => inferInstanceAs (Decidable True)
  | bootstrap _ => inferInstanceAs (Decidable True)
  | surroundings _ => inferInstanceAs (Decidable True)

end SetupStep

def setupSystem : System SetupState SetupStep String :=
  (System.ofFunction SetupStep.exec SetupStep.draws).restrict SetupStep.Draws

/-- What every run keeps: once a call has succeeded the receipt is there. -/
structure InitialSetupOnce (s : SetupState) : Prop where
  once : s.created.length ≤ 1
  receipt : s.created ≠ [] → s.db.initialSetupReceipt.rows ≠ []

section Once

variable {c c' : Config SetupState String} {l : SetupStep}

/-- The receipts are the same. -/
def SameReceipt (db db' : SetupDb) : Prop := db'.initialSetupReceipt = db.initialSetupReceipt

theorem SameReceipt.trans {db db' db'' : SetupDb} (h : SameReceipt db db')
    (h' : SameReceipt db' db'') : SameReceipt db db'' := Eq.trans h' h

theorem insertOrIgnore_sameReceipt {new : SetupDb → Nat → List User}
    {returning : User → List (List Value)} :
    (SetupDb.usersIn.insertOrIgnore new returning).Within SameReceipt := by
  intro s s' n r h
  obtain ⟨T, -, rfl, -⟩ := TableIn.insertOrIgnore_ok h
  rfl

theorem createInvitedAccount_sameReceipt (input : CreateInvitedAccountInput) (db : SetupDb) :
    SameReceipt db (createInvitedAccount input db).1 := by
  refine commit_within (R := SameReceipt) (fun _ => rfl) SameReceipt.trans fun st hst => ?_
  rcases List.mem_cons.mp hst with rfl | hst
  · exact insertOrIgnore_sameReceipt
  rcases List.mem_cons.mp hst with rfl | hst
  · exact TableIn.insertSelect_within fun _ _ => rfl
  · obtain rfl := List.mem_singleton.mp hst
    exact assertThat_within (R := SameReceipt) fun _ => rfl

theorem createBootstrapUser_sameReceipt (record : BootstrapUserRecord) (db : SetupDb) :
    SameReceipt db (createBootstrapUser record db).1 :=
  execute_within (R := SameReceipt) (fun _ => rfl) insertOrIgnore_sameReceipt

/-- A step that leaves the receipt and the successes. -/
theorem InitialSetupOnce.kept {s s' : SetupState} (h : InitialSetupOnce s)
    (hreceipt : SameReceipt s.db s'.db) (hcreated : s'.created = s.created) :
    InitialSetupOnce s' := by
  refine ⟨hcreated ▸ h.once, fun hne => ?_⟩
  rw [show s'.db.initialSetupReceipt = s.db.initialSetupReceipt from hreceipt]
  exact h.receipt (hcreated ▸ hne)

/-- **One step.** -/
theorem initialSetupOnce_next (hnext : setupSystem.Next c l c') (h : InitialSetupOnce c.state) :
    InitialSetupOnce c'.state := by
  have hstate : c'.state = l.exec c.state := hnext.step.1
  rw [hstate]
  cases l with
  | surroundings write => exact h.kept rfl rfl
  | invited input => exact h.kept (createInvitedAccount_sameReceipt input _) rfl
  | bootstrap record => exact h.kept (createBootstrapUser_sameReceipt record _) rfl
  | initial input =>
    have hunused : c.state.db.Unused input.userId := hnext.step.2
    dsimp only [SetupStep.exec]
    rcases createInitialAccount_outcome input hunused with ⟨hok, hcreated⟩ | ⟨hfailed, hsame⟩
    · have hnone : c.state.created = [] := by
        by_contra hne
        exact h.receipt hne hcreated.unreceived
      rw [if_pos hok, hnone]
      refine ⟨Nat.le_refl 1, fun _ => ?_⟩
      rw [hcreated.receipt]
      exact List.cons_ne_nil _ _
    · rw [if_neg hfailed, hsame]
      exact h.kept rfl rfl

end Once

/-- **One shot in every run.** Whatever accounts are created or deleted on the way, at most one call
of `createInitialAccount` succeeds, and the next one creates receipt, account and event in a
database without accounts, or changes nothing. -/
theorem initialAccount_once {c c' : Config SetupState String} {steps : List SetupStep}
    (hnone : c.state.created = []) (hrun : Run setupSystem c steps c') :
    c'.state.created.length ≤ 1 ∧
    ∀ input : CreateInitialAccountInput, c'.state.db.Unused input.userId →
      ((createInitialAccount input c'.state.db).2 = .ok true ∧
        InitialAccountCreated input c'.state.db (createInitialAccount input c'.state.db).1) ∨
      ((createInitialAccount input c'.state.db).2 ≠ .ok true ∧
        (createInitialAccount input c'.state.db).1 = c'.state.db) := by
  have honce : InitialSetupOnce c'.state := by
    refine hrun.invariant (I := fun c => InitialSetupOnce c.state) ⟨?_, fun hne => ?_⟩
      initialSetupOnce_next
    · rw [hnone]
      exact Nat.zero_le 1
    · exact absurd hnone hne
  exact ⟨honce.once, fun input hunused => createInitialAccount_outcome input hunused⟩

/-- The registration of the account `id`. -/
def firstAccount (id : String) : CreateInitialAccountInput where
  email := id
  displayName := none
  masterPasswordHash := "h"
  userKey := "k"
  publicKey := "p"
  privateKey := "q"
  now := 1
  requestId := "r"
  userId := id
  stamp := "s" ++ id

/-- Two calls; then every account is deleted, and a third call comes. -/
def setupSteps : List SetupStep :=
  [.initial (firstAccount "a"), .initial (firstAccount "b"),
    .surroundings fun db => { db with users := ∅ }, .initial (firstAccount "c")]

def setupEnd : Config SetupState String :=
  (replay SetupStep.exec SetupStep.draws { state := {} } setupSteps).get (by decide +kernel)

theorem initialAccount_once_deleted :
    setupEnd.state.created = [firstAccount "a"] ∧ setupEnd.state.db.users.rows = [] ∧
      setupEnd.state.created.length ≤ 1 := by
  have hrun : Run setupSystem { state := {} } setupSteps setupEnd :=
    replay_restrict (Option.some_get _).symm (by decide +kernel)
  exact ⟨by decide +kernel, by decide +kernel, (initialAccount_once rfl hrun).1⟩

end HonoWarden
