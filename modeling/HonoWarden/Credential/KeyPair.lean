import HonoWarden.Credential.Repository

/-!
# The first key pair of an account

Model of `initializeAccountKeyPair` (`src/repositories/credential-repository.ts`) and of
`insertInitializedAccountWrapperHistorySql`. An account that has a user key and no key pair gets
one; its stamp stays, so its sessions do.

The event comes first in this batch and repeats the whole guard, since the statement after it makes
the guard false. The history comes last and asks for the row that statement leaves (`Initialized`).

Results:
* **`initializeAccountKeyPair_atomic`**: the key pair is stored with both wrappers recorded and one
  event, or nothing happens; the checks after the batch never throw.
-/

namespace HonoWarden

open Relational

/-- `InitializeAccountKeyPairInput`. -/
structure InitializeAccountKeyPairInput where
  userId : String
  expectedUserKey : String
  expectedSecurityStamp : String
  expectedRevisionDate : Timestamp
  publicKey : String
  wrappedPrivateKey : String
  nextRevisionDate : Timestamp
  auditEventId : String
  auditEvent : AuditEvent
  deriving DecidableEq, Repr

/-- `InitializeAccountKeyPairResult`. -/
inductive InitializeAccountKeyPairResult where
  | initialized
  | conflict
  deriving DecidableEq, Repr

/-- `length(trim(text)) > 0`. -/
def NonBlank (text : String) : Prop := ∃ c ∈ text.toList, c ≠ ' '

instance (text : String) : Decidable (NonBlank text) :=
  List.decidableBEx (fun c => c ≠ ' ') text.toList

namespace InitializeAccountKeyPairInput

variable (fingerprint : String → String) (input : InitializeAccountKeyPairInput)

/-- `wrapperHistoryEntries`. -/
def entries : List CredentialWrapper :=
  [⟨.userKey, fingerprint input.expectedUserKey⟩,
    ⟨.privateKey, fingerprint input.wrappedPrivateKey⟩]

/-- The account that may get the key pair. -/
def Account (db : Db) (u : User) : Prop :=
  u.id = input.userId ∧ u.disabledAt = none ∧ (∀ key ∈ u.userKey, NonBlank key) ∧
    u.userKey = some input.expectedUserKey ∧ u.publicKey = none ∧ u.privateKey = none ∧
    ¬ WrapperRecorded db input.userId (fingerprint input.wrappedPrivateKey) ∧
    u.securityStamp = input.expectedSecurityStamp ∧ u.revisionDate = input.expectedRevisionDate

instance (db : Db) : DecidablePred (input.Account fingerprint db) := fun _ =>
  inferInstanceAs (Decidable (_ ∧ _))

/-- The account with its key pair. -/
def store (u : User) : User :=
  { u with
    publicKey := some input.publicKey
    privateKey := some input.wrappedPrivateKey
    revisionDate := input.nextRevisionDate
    updatedAt := input.nextRevisionDate }

/-- The account has this key pair since this revision. -/
def Initialized (db : Db) : Prop :=
  ∃ u ∈ db.users.rows, u.id = input.userId ∧ u.userKey = some input.expectedUserKey ∧
    u.publicKey = some input.publicKey ∧ u.privateKey = some input.wrappedPrivateKey ∧
    u.securityStamp = input.expectedSecurityStamp ∧ u.revisionDate = input.nextRevisionDate

instance : DecidablePred input.Initialized := fun db =>
  inferInstanceAs (Decidable (∃ u ∈ db.users.rows, _))

def audit : Statement Db :=
  auditStatement input.auditEvent input.auditEventId fun db _ =>
    ∃ u ∈ db.users.rows, input.Account fingerprint db u

def userStatement : Statement Db :=
  Db.usersIn.updateReturning (fun db _ => input.Account fingerprint db) (fun _ => input.store)
    fun u => [[.text u.id]]

/-- `insertInitializedAccountWrapperHistorySql`. -/
def historyStatement : Statement Db :=
  recordWrappers input.Initialized (input.entries fingerprint) input.userId input.nextRevisionDate

/-- The rows say that the private key was recorded, and nothing that is not among the entries. -/
def HistoryCommitted (wrapper : StatementResult) : Prop :=
  1 ≤ wrapper.metaChanges ∧ wrapper.metaChanges ≤ (input.entries fingerprint).length ∧
    wrapper.rows.length = wrapper.metaChanges ∧
    (∃ row ∈ wrapper.rows, wrapperKind row = some "private_key" ∧
      wrapperSha256 row = some (fingerprint input.wrappedPrivateKey)) ∧
    ∀ row ∈ wrapper.rows, ∃ entry ∈ input.entries fingerprint,
      wrapperKind row = some entry.kind.text ∧ wrapperSha256 row = some entry.sha256

instance : DecidablePred (input.HistoryCommitted fingerprint) := fun _ =>
  inferInstanceAs (Decidable (_ ∧ _))

/-- The reading of the batch. -/
def interpret : List StatementResult → Except String InitializeAccountKeyPairResult
  | [audit, user, wrapper] =>
    if user.rows = [] then
      if audit.metaChanges ≠ 0 ∨ wrapper.metaChanges ≠ 0 ∨ wrapper.rows ≠ [] then
        .error "account key initialization guard invariant was violated"
      else .ok .conflict
    else if user.rows ≠ [[.text input.userId]] ∨ audit.metaChanges ≠ 1 ∨
        ¬ input.HistoryCommitted fingerprint wrapper then
      .error "account key initialization did not commit one generation"
    else .ok .initialized
  | _ => .error "account key initialization batch returned an invalid result count"

/-- The batch. -/
def batch : List (Statement Db) :=
  [input.audit fingerprint, input.userStatement fingerprint, input.historyStatement fingerprint]

end InitializeAccountKeyPairInput

/-- `initializeAccountKeyPair`. -/
def initializeAccountKeyPair (fingerprint : String → String)
    (input : InitializeAccountKeyPairInput) (db : Db) :
    Db × Except Failure InitializeAccountKeyPairResult :=
  if fingerprint input.expectedUserKey = fingerprint input.wrappedPrivateKey then
    (db, .ok .conflict)
  else commit (input.batch fingerprint) (input.interpret fingerprint) db

/-! ## What the batch has done -/

/-- The account has its key pair: both wrappers are recorded, one event tells of it, and nothing
else has changed. -/
structure KeyPairStored (fingerprint : String → String) (input : InitializeAccountKeyPairInput)
    (u : User) (db db' : Db) : Prop where
  users : Db.usersIn.row db' =
    Function.update (Db.usersIn.row db) input.userId (some (input.store u))
  wrappers : WrappersAdded input.userId input.nextRevisionDate (input.entries fingerprint) db db'
  audit : db'.auditEvents.rows =
    db.auditEvents.rows ++ [{ input.auditEvent with id := input.auditEventId }]
  others : db' = { db with
    users := db'.users
    wrapperHistory := db'.wrapperHistory
    auditEvents := db'.auditEvents }

section KeyPair

variable {fingerprint : String → String} {input : InitializeAccountKeyPairInput} {db db' : Db}
  {n : Nat} {r : StatementResult}

namespace InitializeAccountKeyPairInput

theorem entries_nodup
    (hdistinct : fingerprint input.expectedUserKey ≠ fingerprint input.wrappedPrivateKey) :
    ((input.entries fingerprint).map CredentialWrapper.sha256).Nodup := by
  simpa [entries] using hdistinct

/-- A recorded private key passes the check of the results. -/
theorem historyCommitted_of_new
    (hnew : ¬ WrapperRecorded db input.userId (fingerprint input.wrappedPrivateKey))
    (hcount : r.metaChanges = (unrecorded db input.userId (input.entries fingerprint)).length)
    (hrows : r.rows = (unrecorded db input.userId (input.entries fingerprint)).map
      CredentialWrapper.returned) : input.HistoryCommitted fingerprint r := by
  have hmem : (⟨.privateKey, fingerprint input.wrappedPrivateKey⟩ : CredentialWrapper) ∈
      unrecorded db input.userId (input.entries fingerprint) :=
    List.mem_filter.mpr ⟨by simp [entries], decide_eq_true hnew⟩
  refine ⟨?_, ?_, ?_, ⟨CredentialWrapper.returned ⟨.privateKey, fingerprint input.wrappedPrivateKey⟩,
    ?_, rfl, rfl⟩, fun row hrow => ?_⟩
  · rw [hcount]
    exact List.length_pos_of_mem hmem
  · rw [hcount]
    exact List.length_filter_le _ _
  · rw [hrows, hcount, List.length_map]
  · rw [hrows]
    exact List.mem_map_of_mem hmem
  · rw [hrows] at hrow
    obtain ⟨w, hw, rfl⟩ := List.mem_map.mp hrow
    exact ⟨w, (List.mem_filter.mp hw).1, rfl, rfl⟩

/-- Where the key pair is already there, its wrappers are recorded already. -/
theorem historyStatement_idle
    (hsettled : input.Initialized db →
      ∀ w ∈ input.entries fingerprint, WrapperRecorded db input.userId w.sha256)
    (hdistinct : fingerprint input.expectedUserKey ≠ fingerprint input.wrappedPrivateKey)
    (h : input.historyStatement fingerprint db n = .ok (db', r)) :
    db' = db ∧ r.metaChanges = 0 ∧ r.rows = [] := by
  by_cases hat : input.Initialized db
  · obtain ⟨hadded, hothers, hcount, hrows⟩ := recordWrappers_ok hat (entries_nodup hdistinct) h
    have hnone : unrecorded db input.userId (input.entries fingerprint) = [] :=
      List.filter_eq_nil_iff.mpr fun w hw => by simpa using hsettled hat w hw
    rw [WrappersAdded, hnone, List.map_nil, List.append_nil] at hadded
    refine ⟨?_, by rw [hcount, hnone, List.length_nil], by rw [hrows, hnone, List.map_nil]⟩
    rw [hothers]
    exact Db.wrapperHistoryIn.put_eq_self hadded
  · obtain ⟨rfl, rfl⟩ := Prod.mk.inj (Except.ok.inj ((recordWrappers_gated _ _ hat).symm.trans h))
    exact ⟨rfl, rfl, rfl⟩

end InitializeAccountKeyPairInput

/-- **The first key pair is stored as a whole, or not at all.** -/
theorem initializeAccountKeyPair_atomic
    (hsettled : input.Initialized db →
      ∀ w ∈ input.entries fingerprint, WrapperRecorded db input.userId w.sha256) :
    (∃ e, initializeAccountKeyPair fingerprint input db = (db, .error (.constraint e))) ∨
    (initializeAccountKeyPair fingerprint input db = (db, .ok .conflict) ∧
      ∀ u, Db.usersIn.row db input.userId = some u → ¬ (input.Account fingerprint db u ∧
        fingerprint input.expectedUserKey ≠ fingerprint input.wrappedPrivateKey)) ∨
    ∃ u db', Db.usersIn.row db input.userId = some u ∧ input.Account fingerprint db u ∧
      fingerprint input.expectedUserKey ≠ fingerprint input.wrappedPrivateKey ∧
      KeyPairStored fingerprint input u db db' ∧
      initializeAccountKeyPair fingerprint input db = (db', .ok .initialized) := by
  unfold initializeAccountKeyPair
  split
  · rename_i hsame
    exact Or.inr (Or.inl ⟨rfl, fun _ _ h => h.2 hsame⟩)
  rename_i hdistinct
  rcases commit_cases (input.batch fingerprint) (input.interpret fingerprint) db with
    ⟨hdb, e, he⟩ | ⟨db', results, hrun, hdb, hread⟩
  · exact Or.inl ⟨e, Prod.ext hdb he⟩
  right
  obtain ⟨db₁, audit, _, haudit, hrest, rfl⟩ := runFrom_cons hrun
  obtain ⟨db₂, user, _, huser, hlast, rfl⟩ := runFrom_cons hrest
  obtain ⟨db₃, wrapper, _, hwrapper, hnil, rfl⟩ := runFrom_cons hlast
  obtain ⟨rfl, rfl⟩ := runFrom_nil hnil
  by_cases hex : ∃ u ∈ db.users.rows, input.Account fingerprint db u
  · right
    obtain ⟨haudited, hothers, hone⟩ := auditStatement_ok hex haudit
    obtain ⟨E, rfl⟩ : ∃ E, db₁ = { db with auditEvents := E } := ⟨_, hothers⟩
    rcases TableIn.updateReturning_row huser (fun u hu => hu.1) (fun _ => rfl) with
      ⟨u, hrow, hhit, hwritten, -, -, hrows⟩ | ⟨hnone, -⟩
    swap
    · obtain ⟨u, hu, hhit⟩ := hex
      exact absurd hhit (hnone u (TableIn.row_eq_some_iff.mpr ⟨hu, hhit.1⟩))
    obtain ⟨T, rfl⟩ := hwritten.others
    have hat : input.Initialized (Db.usersIn.put { db with auditEvents := E } T) :=
      ⟨_, (TableIn.row_eq_some_iff.mp hwritten.self).1, hhit.1, hhit.2.2.2.1, rfl, rfl,
        hhit.2.2.2.2.2.2.2.1, rfl⟩
    obtain ⟨hadded, hothers', hcount, hreturned⟩ :=
      recordWrappers_ok hat (InitializeAccountKeyPairInput.entries_nodup hdistinct) hwrapper
    obtain ⟨W, rfl⟩ : ∃ W, db' = { db with auditEvents := E, users := T, wrapperHistory := W } :=
      ⟨_, hothers'⟩
    have hresult : input.interpret fingerprint [audit, user, wrapper] = .ok .initialized := by
      dsimp only [InitializeAccountKeyPairInput.interpret]
      rw [hrows, if_neg (List.cons_ne_nil _ _), if_neg]
      rintro (h | h | h)
      · exact h (by rw [← hhit.1]; rfl)
      · exact h hone
      · exact h (InitializeAccountKeyPairInput.historyCommitted_of_new hhit.2.2.2.2.2.2.1 hcount
          hreturned)
    refine ⟨u, { db with users := T, wrapperHistory := W, auditEvents := E }, hrow, hhit, hdistinct,
      ⟨hwritten.row, hadded, haudited, rfl⟩, Prod.ext hdb ?_⟩
    rw [hread, hresult]
    rfl
  · left
    have hidle : (auditStatement input.auditEvent input.auditEventId fun db _ =>
        ∃ u ∈ db.users.rows, input.Account fingerprint db u) db 0 = .ok (db, {}) :=
      @auditStatement_gated input.auditEvent input.auditEventId _ _
        (fun db => ∃ u ∈ db.users.rows, input.Account fingerprint db u) (fun _ _ h => h) db 0 hex
    obtain ⟨rfl, rfl⟩ := Prod.mk.inj (Except.ok.inj (hidle.symm.trans haudit))
    rcases TableIn.updateReturning_row huser (fun u hu => hu.1) (fun _ => rfl) with
      ⟨u, hrow, hhit, -⟩ | ⟨hnone, rfl, -, -, hrows⟩
    · exact absurd ⟨u, (TableIn.row_eq_some_iff.mp hrow).1, hhit⟩ hex
    obtain ⟨rfl, hzero, hempty⟩ :=
      InitializeAccountKeyPairInput.historyStatement_idle hsettled hdistinct hwrapper
    have hresult : input.interpret fingerprint [{}, user, wrapper] = .ok .conflict := by
      dsimp only [InitializeAccountKeyPairInput.interpret]
      rw [if_pos hrows, if_neg]
      rintro (h | h | h)
      · exact h rfl
      · exact h hzero
      · exact h hempty
    refine ⟨Prod.ext hdb ?_, fun u hu h => hnone u hu h.1⟩
    rw [hread, hresult]
    rfl

end KeyPair

/-! ### One account -/

/-- An account with a user key and no key pair. -/
def keylessDb : Db where
  users := Table.singleton
    { id := "owner", userKey := some "2.user-key", securityStamp := "stamp", revisionDate := 4 }

def firstKeyPair : InitializeAccountKeyPairInput where
  userId := "owner"
  expectedUserKey := "2.user-key"
  expectedSecurityStamp := "stamp"
  expectedRevisionDate := 4
  publicKey := "public"
  wrappedPrivateKey := "2.private-key"
  nextRevisionDate := 9
  auditEventId := "event"
  auditEvent :=
    { name := "account.keys.initialize", outcome := "success", requestId := "request"
      occurredAt := 9 }

theorem initializeAccountKeyPair_atomic_firstKeyPair : ∃ u db',
    Db.usersIn.row keylessDb "owner" = some u ∧
      KeyPairStored (fun text => text) firstKeyPair u keylessDb db' ∧
      initializeAccountKeyPair (fun text => text) firstKeyPair keylessDb =
        (db', .ok .initialized) := by
  have hresult : (initializeAccountKeyPair (fun text => text) firstKeyPair keylessDb).2 =
      .ok .initialized := by
    decide +kernel
  rcases @initializeAccountKeyPair_atomic (fun text => text) firstKeyPair keylessDb
    (fun h => absurd h (by decide +kernel)) with
    ⟨e, he⟩ | ⟨hconflict, -⟩ | ⟨u, db', hrow, -, -, hstored, hrun⟩
  · rw [he] at hresult
    cases hresult
  · rw [hconflict] at hresult
    cases hresult
  · exact ⟨u, db', hrow, hstored, hrun⟩

end HonoWarden
