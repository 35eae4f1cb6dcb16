import HonoWarden.Credential.Generation

/-!
# Changing the credentials of an account

Model of `changeAccountKdf`, `changeAccountMasterPassword` and `rotateAccountSecurityStamp`
(`src/repositories/credential-repository.ts`). They share `commitCredentialGenerationMutation`: a
batch of the account's row, the history of its wrappers, the end of its sessions and the event, and
a reading of the results that throws when they are not those of one generation. By then the batch
has committed.

`fingerprint` is `fingerprintCredentialWrapper`. The triggers that count the accounts of each KDF
are in `KdfPopulation`.

Results:
* **`credentialMutation_atomic`**: a change of credentials takes place as a whole, or not at all, and
  its reading never throws.
-/

namespace HonoWarden

open Relational

/-! ## One generation -/

/-- `RotateAccountSecurityStampInput`. -/
structure RotateAccountSecurityStampInput where
  userId : String
  expectedMasterPasswordHash : String
  expectedSecurityStamp : String
  expectedRevisionDate : Timestamp
  nextSecurityStamp : String
  nextRevisionDate : Timestamp
  auditEventId : String
  auditEvent : AuditEvent
  deriving DecidableEq, Repr

/-- `ChangeAccountMasterPasswordInput`. -/
structure ChangeAccountMasterPasswordInput extends RotateAccountSecurityStampInput where
  expectedEmailNormalized : String
  expectedKdfAlgorithm : String
  expectedKdfIterations : Int
  expectedKdfMemory : Option Int
  expectedKdfParallelism : Option Int
  expectedUserKey : Option String
  expectedPrivateKey : Option String
  nextMasterPasswordHash : String
  nextUserKey : String
  deriving DecidableEq, Repr

/-- `ChangeAccountKdfInput`. -/
structure ChangeAccountKdfInput extends ChangeAccountMasterPasswordInput where
  nextKdfAlgorithm : String
  nextKdfIterations : Int
  nextKdfMemory : Option Int
  nextKdfParallelism : Option Int
  deriving DecidableEq, Repr

/-- `CredentialGenerationMutationResult`, as far as the database tells it. -/
structure CredentialGenerationMutationResult where
  revokedDeviceCount : Nat
  revokedRefreshTokenCount : Nat
  invalidatedAuthRequestCount : Nat
  deriving DecidableEq, Repr

/-- `CredentialWrapperHistoryMutation`: what its statement records, the new wrapper among it. -/
structure CredentialWrapperHistoryMutation where
  entries : List CredentialWrapper
  nextWrapperSha256 : String
  deriving DecidableEq, Repr

/-- `wrapperSha256` of a returned row. -/
def wrapperSha256 : List Value → Option String
  | [_, .text sha256] => some sha256
  | _ => none

/-- `wrapperKind` of a returned row. -/
def wrapperKind : List Value → Option String
  | [.text kind, _] => some kind
  | _ => none

theorem map_wrapperSha256_returned (wrappers : List CredentialWrapper) :
    (wrappers.map CredentialWrapper.returned).map wrapperSha256 =
      (wrappers.map CredentialWrapper.sha256).map some := by
  rw [List.map_map, List.map_map]
  rfl

theorem wrapperKind_returned (w : CredentialWrapper) :
    wrapperKind w.returned = some "user_key" ∨ wrapperKind w.returned = some "private_key" := by
  cases hkind : w.kind <;> simp [CredentialWrapper.returned, wrapperKind, WrapperKind.text, hkind]

/-- `credentialWrapperHistoryCommitted`. -/
def credentialWrapperHistoryCommitted :
    Option CredentialWrapperHistoryMutation → Option StatementResult → Prop
  | none, result => result = none
  | some _, none => False
  | some mutation, some result =>
    1 ≤ result.metaChanges ∧ result.rows.length = result.metaChanges ∧
      (result.rows.map wrapperSha256).Nodup ∧
      (∀ row ∈ result.rows,
        (wrapperKind row = some "user_key" ∨ wrapperKind row = some "private_key") ∧
        ∃ entry ∈ mutation.entries, wrapperSha256 row = some entry.sha256) ∧
      some mutation.nextWrapperSha256 ∈ result.rows.map wrapperSha256

instance : ∀ mutation result, Decidable (credentialWrapperHistoryCommitted mutation result)
  | none, _ => inferInstanceAs (Decidable (_ = none))
  | some _, none => inferInstanceAs (Decidable False)
  | some _, some _ => inferInstanceAs (Decidable (_ ∧ _))

namespace RotateAccountSecurityStampInput

variable (input : RotateAccountSecurityStampInput)

/-- The later statements of the batch ask for the generation the first one writes. -/
def Committed (db : Db) : Prop :=
  AtGeneration input.userId input.nextSecurityStamp input.nextRevisionDate db

instance : DecidablePred input.Committed := fun _ =>
  inferInstanceAs (Decidable (AtGeneration _ _ _ _))

/-- The event asks for an account that is not disabled, too. -/
def CommittedEnabled (db : Db) : Prop :=
  ∃ u ∈ db.users.rows, u.id = input.userId ∧ u.disabledAt = none ∧
    u.securityStamp = input.nextSecurityStamp ∧ u.revisionDate = input.nextRevisionDate

instance : DecidablePred input.CommittedEnabled := fun db =>
  inferInstanceAs (Decidable (∃ u ∈ db.users.rows, _))

theorem CommittedEnabled.of_users {input : RotateAccountSecurityStampInput} {db db' : Db}
    (h : input.CommittedEnabled db) (husers : db'.users = db.users) :
    input.CommittedEnabled db' := by
  unfold CommittedEnabled
  rwa [husers]

/-- The statement of a `CredentialWrapperHistoryMutation`. -/
def historyStatement (mutation : CredentialWrapperHistoryMutation) : Statement Db :=
  insertCredentialWrapperHistory mutation.entries input.userId input.nextRevisionDate
    input.nextSecurityStamp input.nextRevisionDate

def audit : Statement Db :=
  auditStatement input.auditEvent input.auditEventId fun db _ => input.CommittedEnabled db

/-- The batch of `commitCredentialGenerationMutation`. -/
def batch (userStatement : Statement Db) (history : Option CredentialWrapperHistoryMutation) :
    List (Statement Db) :=
  userStatement :: ((history.map input.historyStatement).toList ++
    (endSessions input.userId input.nextRevisionDate input.Committed ++ [input.audit]))

/-- The reading of `commitCredentialGenerationMutation`, with the result of the history apart. -/
def interpretGeneration (history : Option CredentialWrapperHistoryMutation)
    (user : StatementResult) (wrapper : Option StatementResult) :
    List StatementResult → Except String (Option CredentialGenerationMutationResult)
  | [device, refresh, authRequest, audit] =>
    if user.rows = [] then
      if ∃ result ∈ wrapper.toList ++ [device, refresh, authRequest, audit],
          result.metaChanges ≠ 0 then
        .error "credential rotation guard invariant was violated"
      else .ok none
    else if user.rows ≠ [[.text input.userId]] ∨
        ¬ credentialWrapperHistoryCommitted history wrapper ∨ audit.metaChanges ≠ 1 then
      .error "credential rotation batch did not commit one generation"
    else .ok (some
      { revokedDeviceCount := device.metaChanges
        revokedRefreshTokenCount := refresh.metaChanges
        invalidatedAuthRequestCount := authRequest.metaChanges })
  | _ => .error "credential rotation batch returned an invalid result count"

/-- The reading of the batch. -/
def interpret (history : Option CredentialWrapperHistoryMutation) :
    List StatementResult → Except String (Option CredentialGenerationMutationResult)
  | [] => .error "credential rotation batch returned an invalid result count"
  | user :: downstream =>
    match history with
    | none => input.interpretGeneration history user none downstream
    | some _ => input.interpretGeneration history user downstream.head? downstream.tail

/-- `commitCredentialGenerationMutation`. -/
def commitCredentialGenerationMutation (userStatement : Statement Db)
    (history : Option CredentialWrapperHistoryMutation) (db : Db) :
    Db × Except Failure (Option CredentialGenerationMutationResult) :=
  commit (input.batch userStatement history) (input.interpret history) db

/-- The account the stamp may be rotated of. -/
def Expected (u : User) : Prop :=
  u.id = input.userId ∧ u.disabledAt = none ∧
    u.masterPasswordHash = input.expectedMasterPasswordHash ∧
    u.securityStamp = input.expectedSecurityStamp ∧ u.revisionDate = input.expectedRevisionDate

instance : DecidablePred input.Expected := fun _ => inferInstanceAs (Decidable (_ ∧ _))

/-- The account with its new stamp. -/
def rotate (u : User) : User :=
  { u with
    securityStamp := input.nextSecurityStamp
    revisionDate := input.nextRevisionDate
    updatedAt := input.nextRevisionDate }

end RotateAccountSecurityStampInput

/-- `rotateAccountSecurityStamp`. -/
def rotateAccountSecurityStamp (input : RotateAccountSecurityStampInput) (db : Db) :
    Db × Except Failure (Option CredentialGenerationMutationResult) :=
  input.commitCredentialGenerationMutation
    (Db.usersIn.updateReturning (fun _ _ => input.Expected) (fun _ => input.rotate)
      fun u => [[.text u.id]]) none db

namespace ChangeAccountMasterPasswordInput

variable (fingerprint : String → String) (input : ChangeAccountMasterPasswordInput)

/-- The wrappers the account has, as the request has seen them. -/
def currentEntries : List CredentialWrapper :=
  (input.expectedUserKey.map fun key => ⟨.userKey, fingerprint key⟩).toList ++
    (input.expectedPrivateKey.map fun key => ⟨.privateKey, fingerprint key⟩).toList

/-- `prepareCredentialWrapperHistoryMutation`. -/
def prepareCredentialWrapperHistoryMutation : Option CredentialWrapperHistoryMutation :=
  if input.expectedUserKey = none ∧ input.expectedPrivateKey ≠ none then none
  else
    let current := (input.currentEntries fingerprint).map CredentialWrapper.sha256
    let nextWrapperSha256 := fingerprint input.nextUserKey
    if ¬ current.Nodup ∨ nextWrapperSha256 ∈ current then none
    else some
      { entries := input.currentEntries fingerprint ++ [⟨.userKey, nextWrapperSha256⟩]
        nextWrapperSha256 }

/-- The account in the generation the request has seen. -/
def ExpectedCredentials (u : User) : Prop :=
  u.id = input.userId ∧ u.disabledAt = none ∧
    u.masterPasswordHash = input.expectedMasterPasswordHash ∧
    u.emailNormalized = input.expectedEmailNormalized ∧
    u.kdfAlgorithm = input.expectedKdfAlgorithm ∧ u.kdfIterations = input.expectedKdfIterations ∧
    u.kdfMemory = input.expectedKdfMemory ∧ u.kdfParallelism = input.expectedKdfParallelism ∧
    u.securityStamp = input.expectedSecurityStamp ∧ u.revisionDate = input.expectedRevisionDate ∧
    u.userKey = input.expectedUserKey ∧ u.privateKey = input.expectedPrivateKey

instance : DecidablePred input.ExpectedCredentials := fun _ =>
  inferInstanceAs (Decidable (_ ∧ _))

/-- The account the request may change: it never had the new wrapper. -/
def Account (db : Db) (u : User) : Prop :=
  input.ExpectedCredentials u ∧ ¬ WrapperRecorded db u.id (fingerprint input.nextUserKey)

instance (db : Db) : DecidablePred (input.Account fingerprint db) := fun _ =>
  inferInstanceAs (Decidable (_ ∧ _))

/-- The account with its new password. -/
def change (u : User) : User :=
  { u with
    masterPasswordHash := input.nextMasterPasswordHash
    userKey := some input.nextUserKey
    securityStamp := input.nextSecurityStamp
    revisionDate := input.nextRevisionDate
    updatedAt := input.nextRevisionDate }

/-- The UPDATE of the account under the guard the two changes share. -/
def userStatement (set : User → User) : Statement Db :=
  Db.usersIn.updateTriggering (fun db _ => input.Account fingerprint db) (fun _ => set)
    (fun u => [[.text u.id]]) invalidateStaleUserKeyId

/-- A change of the account under that guard. -/
def changeGeneration (set : User → User) (db : Db) :
    Db × Except Failure (Option CredentialGenerationMutationResult) :=
  match input.prepareCredentialWrapperHistoryMutation fingerprint with
  | none => (db, .ok none)
  | some history =>
    input.commitCredentialGenerationMutation (input.userStatement fingerprint set) history db

end ChangeAccountMasterPasswordInput

/-- `changeAccountMasterPassword`. -/
def changeAccountMasterPassword (fingerprint : String → String)
    (input : ChangeAccountMasterPasswordInput) (db : Db) :
    Db × Except Failure (Option CredentialGenerationMutationResult) :=
  input.changeGeneration fingerprint input.change db

/-- The account with its new KDF. -/
def ChangeAccountKdfInput.changeKdf (input : ChangeAccountKdfInput) (u : User) : User :=
  { input.change u with
    kdfAlgorithm := input.nextKdfAlgorithm
    kdfIterations := input.nextKdfIterations
    kdfMemory := input.nextKdfMemory
    kdfParallelism := input.nextKdfParallelism }

/-- `changeAccountKdf`. -/
def changeAccountKdf (fingerprint : String → String) (input : ChangeAccountKdfInput) (db : Db) :
    Db × Except Failure (Option CredentialGenerationMutationResult) :=
  input.changeGeneration fingerprint input.changeKdf db

/-! ## What a batch has done -/

/-- How the first statement of a batch writes the account `userId`: where the account is as
`expected`. -/
def WritesAccount (st : Statement Db) (userId : String) (expected : Db → User → Prop)
    (set : User → User) : Prop :=
  ∀ db n db' r, st db n = .ok (db', r) →
    (∃ u, Db.usersIn.row db userId = some u ∧ expected db u ∧
      Db.usersIn.RowWritten userId (some (u.settled (set u))) db db' ∧
      r.rows = [[.text userId]]) ∨
    ((∀ u, Db.usersIn.row db userId = some u → ¬ expected db u) ∧ db' = db ∧ r.rows = [])

/-- The account has gone on to the row `next`: its old and new wrappers are recorded, its sessions
have ended, one event tells of it, and nothing else has changed. -/
structure GenerationCommitted (input : RotateAccountSecurityStampInput) (next : User)
    (wrappers : List CredentialWrapper) (db db' : Db) : Prop where
  users : Db.usersIn.row db' = Function.update (Db.usersIn.row db) input.userId (some next)
  wrappers : WrappersAdded input.userId input.nextRevisionDate wrappers db db'
  sessions : SessionsEnded input.userId input.nextRevisionDate db db'
  audit : db'.auditEvents.rows =
    db.auditEvents.rows ++ [{ input.auditEvent with id := input.auditEventId }]
  others : db' = { db with
    users := db'.users
    wrapperHistory := db'.wrapperHistory
    devices := db'.devices
    refreshTokens := db'.refreshTokens
    authRequests := db'.authRequests
    auditEvents := db'.auditEvents }

/-- What the caller is told of the sessions that were open. -/
def mutationResult (userId : String) (db : Db) : CredentialGenerationMutationResult where
  revokedDeviceCount := (openSessions userId db).1
  revokedRefreshTokenCount := (openSessions userId db).2.1
  invalidatedAuthRequestCount := (openSessions userId db).2.2

namespace CredentialWrapperHistoryMutation

/-- The wrappers differ, and the new one is among them. -/
structure Distinct (mutation : CredentialWrapperHistoryMutation) : Prop where
  nodup : (mutation.entries.map CredentialWrapper.sha256).Nodup
  next : mutation.nextWrapperSha256 ∈ mutation.entries.map CredentialWrapper.sha256

/-- **The record of a new wrapper passes the check of the results.** -/
theorem committed {mutation : CredentialWrapperHistoryMutation} (hdistinct : mutation.Distinct)
    {userId : String} {db : Db} {r : StatementResult}
    (hnew : ¬ WrapperRecorded db userId mutation.nextWrapperSha256)
    (hcount : r.metaChanges = (unrecorded db userId mutation.entries).length)
    (hrows : r.rows = (unrecorded db userId mutation.entries).map CredentialWrapper.returned) :
    credentialWrapperHistoryCommitted mutation r := by
  have hsha : r.rows.map wrapperSha256 =
      ((unrecorded db userId mutation.entries).map CredentialWrapper.sha256).map some := by
    rw [hrows, map_wrapperSha256_returned]
  obtain ⟨w, hw, hnext⟩ := List.mem_map.mp hdistinct.next
  have hmem : w ∈ unrecorded db userId mutation.entries :=
    List.mem_filter.mpr ⟨hw, decide_eq_true (hnext ▸ hnew)⟩
  refine ⟨?_, ?_, ?_, ?_, ?_⟩
  · rw [hcount]
    exact List.length_pos_of_mem hmem
  · rw [hrows, hcount, List.length_map]
  · rw [hsha]
    refine List.Nodup.map (Option.some_injective _) (hdistinct.nodup.sublist ?_)
    exact List.filter_sublist.map _
  · intro row hrow
    rw [hrows] at hrow
    obtain ⟨v, hv, rfl⟩ := List.mem_map.mp hrow
    exact ⟨wrapperKind_returned v, v, (List.mem_filter.mp hv).1, rfl⟩
  · rw [hsha]
    exact List.mem_map_of_mem (hnext ▸ List.mem_map_of_mem hmem)

end CredentialWrapperHistoryMutation

namespace RotateAccountSecurityStampInput

variable {input : RotateAccountSecurityStampInput}
  {history : Option CredentialWrapperHistoryMutation} {db db' : Db} {n : Nat}
  {rest : List (Statement Db)} {results : List StatementResult}

/-- The optional statement of the history, in the generation that was written. -/
theorem historyStatement_ok (hdistinct : ∀ mutation ∈ history, mutation.Distinct)
    (hnew : ∀ mutation ∈ history, ¬ WrapperRecorded db input.userId mutation.nextWrapperSha256)
    (hcommitted : input.Committed db)
    (h : runFrom ((history.map input.historyStatement).toList ++ rest) db n = .ok (db', results)) :
    ∃ (recorded : Db) (wrapper : Option StatementResult) (m : Nat) (later : List StatementResult),
      WrappersAdded input.userId input.nextRevisionDate
        (history.elim [] CredentialWrapperHistoryMutation.entries) db recorded ∧
      recorded = { db with wrapperHistory := recorded.wrapperHistory } ∧
      runFrom rest recorded m = .ok (db', later) ∧ results = wrapper.toList ++ later ∧
      wrapper.isSome = history.isSome ∧ credentialWrapperHistoryCommitted history wrapper := by
  cases history with
  | none =>
    exact ⟨db, none, n, results, by simp [WrappersAdded, unrecorded], rfl, h, rfl, rfl, rfl⟩
  | some mutation =>
    obtain ⟨recorded, wrapper, later, hwrapper, hrest, rfl⟩ := runFrom_cons h
    obtain ⟨hadded, hothers, hcount, hrows⟩ := insertCredentialWrapperHistory_ok hcommitted
      (hdistinct mutation rfl).nodup hwrapper
    exact ⟨recorded, wrapper, _, later, hadded, hothers, hrest, rfl, rfl,
      CredentialWrapperHistoryMutation.committed (hdistinct mutation rfl) (hnew mutation rfl)
        hcount hrows⟩

theorem interpret_cons {user : StatementResult} {wrapper : Option StatementResult}
    {later : List StatementResult} (hsome : wrapper.isSome = history.isSome) :
    input.interpret history (user :: (wrapper.toList ++ later)) =
      input.interpretGeneration history user wrapper later := by
  cases history <;> cases wrapper
  · rfl
  · cases hsome
  · cases hsome
  · rfl

/-- The account as the first statement leaves it. -/
def Opens (input : RotateAccountSecurityStampInput) (expected : Db → User → Prop)
    (set : User → User) : Prop :=
  ∀ db u, expected db u → u.id = input.userId ∧ (set u).id = u.id ∧ (set u).disabledAt = none ∧
    (set u).securityStamp = input.nextSecurityStamp ∧
    (set u).revisionDate = input.nextRevisionDate

variable {userStatement : Statement Db} {expected : Db → User → Prop} {set : User → User}

/-- Without its account the batch does nothing. -/
theorem runFrom_downstream (hfresh : ¬ input.Committed db) {m : Nat}
    (h : runFrom ((history.map input.historyStatement).toList ++
      (endSessions input.userId input.nextRevisionDate input.Committed ++ [input.audit])) db m =
        .ok (db', results)) :
    db' = db ∧ ∃ wrapper : Option StatementResult, wrapper.isSome = history.isSome ∧
      (∀ r ∈ wrapper, r.metaChanges = 0) ∧ results = wrapper.toList ++ List.replicate 4 ({} : StatementResult) := by
  rw [runFrom_gated hfresh] at h
  · obtain ⟨rfl, rfl⟩ := Prod.mk.inj (Except.ok.inj h)
    refine ⟨rfl, history.map fun _ => {}, by simp, ?_, ?_⟩
    · rintro r hr
      obtain ⟨_, -, rfl⟩ := Option.map_eq_some_iff.mp hr
      rfl
    · cases history <;> rfl
  · intro st hst
    rcases List.mem_append.mp hst with hst | hst
    · obtain ⟨mutation, -, rfl⟩ := Option.map_eq_some_iff.mp (Option.mem_toList.mp hst)
      exact insertCredentialWrapperHistory_gated
    · rcases List.mem_append.mp hst with hst | hst
      · exact endSessions_gated st hst
      · obtain rfl := List.mem_singleton.mp hst
        exact auditStatement_gated fun _ _ ⟨u, hu, hid, _, hstamp, hrevision⟩ =>
          ⟨u, hu, hid, hstamp, hrevision⟩

/-- **A credential batch commits one generation, or nothing**: it is refused by a constraint, or the
account is not the expected one, or everything is as the next generation has it, and then its
results pass the checks. -/
theorem commitCredentialGenerationMutation_atomic (input : RotateAccountSecurityStampInput)
    (history : Option CredentialWrapperHistoryMutation) (db : Db)
    (hwrites : WritesAccount userStatement input.userId expected set)
    (hopens : input.Opens expected set) (hdistinct : ∀ mutation ∈ history, mutation.Distinct)
    (hnew : ∀ mutation ∈ history, ∀ u, expected db u →
      ¬ WrapperRecorded db input.userId mutation.nextWrapperSha256)
    (hfresh : ¬ input.Committed db) :
    (∃ e, input.commitCredentialGenerationMutation userStatement history db =
      (db, .error (.constraint e))) ∨
    (input.commitCredentialGenerationMutation userStatement history db = (db, .ok none) ∧
      ∀ u, Db.usersIn.row db input.userId = some u → ¬ expected db u) ∨
    ∃ u db', Db.usersIn.row db input.userId = some u ∧ expected db u ∧
      GenerationCommitted input (u.settled (set u))
        (history.elim [] CredentialWrapperHistoryMutation.entries) db db' ∧
      input.commitCredentialGenerationMutation userStatement history db =
        (db', .ok (some (mutationResult input.userId db))) := by
  unfold commitCredentialGenerationMutation
  rcases commit_cases (input.batch userStatement history) (input.interpret history) db with
    ⟨hdb, e, he⟩ | ⟨db', results, hrun, hdb, hread⟩
  · exact Or.inl ⟨e, Prod.ext hdb he⟩
  right
  obtain ⟨db₁, user, _, huser, hrest, rfl⟩ := runFrom_cons hrun
  rcases hwrites _ _ _ _ huser with ⟨u, hrow, hexpected, hwritten, hrows⟩ | ⟨hnone, rfl, hrows⟩
  · right
    obtain ⟨T, hT⟩ := hwritten.others
    obtain ⟨hid, hkept, henabled, hstamp, hrevision⟩ := hopens db u hexpected
    have hmem : u.settled (set u) ∈ db₁.users.rows :=
      (TableIn.row_eq_some_iff.mp hwritten.self).1
    have hcommitted : input.CommittedEnabled db₁ :=
      ⟨_, hmem, by rw [User.settled_id, hkept, hid], by rw [User.settled_disabledAt, henabled],
        by rw [User.settled_securityStamp, hstamp], by rw [User.settled_revisionDate, hrevision]⟩
    have hopen : ∀ db₂ : Db, db₂.users = db₁.users → input.Committed db₂ := by
      rintro db₂ h₂
      obtain ⟨v, hv, hvid, -, hvstamp, hvrevision⟩ := hcommitted
      exact ⟨v, h₂ ▸ hv, hvid, hvstamp, hvrevision⟩
    obtain ⟨recorded, wrapper, _, later, hadded, hrecorded, hlater, rfl, hsome, hpasses⟩ :=
      historyStatement_ok hdistinct (fun mutation hmutation => by
        rw [hT]
        exact hnew mutation hmutation u hexpected) (hopen _ rfl) hrest
    have husers : recorded.users = db₁.users := by rw [hrecorded]
    obtain ⟨ended, device, refresh, authRequest, last, hended, hothers, hlast, rfl, hcounts⟩ :=
      endSessions_ok (fun db₂ h₂ => hopen db₂ (h₂.trans husers)) hlater
    obtain ⟨db₂, audit, _, haudit, hnil, rfl⟩ := runFrom_cons hlast
    obtain ⟨rfl, rfl⟩ := runFrom_nil hnil
    obtain ⟨haudited, haudit', hone⟩ := auditStatement_ok
      (hcommitted.of_users ((by rw [hothers] : ended.users = recorded.users).trans husers)) haudit
    obtain ⟨W, rfl⟩ : ∃ W, recorded = { db₁ with wrapperHistory := W } := ⟨_, hrecorded⟩
    obtain ⟨D, R, A, rfl⟩ : ∃ D R A, ended =
        { db₁ with wrapperHistory := W, devices := D, refreshTokens := R, authRequests := A } :=
      ⟨_, _, _, hothers⟩
    obtain ⟨E, rfl⟩ : ∃ E, db' = { db₁ with
        wrapperHistory := W, devices := D, refreshTokens := R, authRequests := A
        auditEvents := E } := ⟨_, haudit'⟩
    obtain rfl := hT
    refine ⟨u, { db with
        users := T, wrapperHistory := W, devices := D, refreshTokens := R, authRequests := A
        auditEvents := E }, hrow, hexpected, ⟨hwritten.row, hadded, ⟨hended.devices, hended.refreshTokens,
      hended.authRequests⟩, haudited, rfl⟩, Prod.ext hdb ?_⟩
    rw [hread, interpret_cons hsome]
    have hresult : input.interpretGeneration history user wrapper
        [device, refresh, authRequest, audit] = .ok (some (mutationResult input.userId db)) := by
      dsimp only [interpretGeneration]
      rw [if_neg (by rw [hrows]; exact List.cons_ne_nil _ _), if_neg]
      · obtain ⟨hdevice, hrefresh, hrequest⟩ :
            device.metaChanges = (openSessions input.userId db).1 ∧
            refresh.metaChanges = (openSessions input.userId db).2.1 ∧
            authRequest.metaChanges = (openSessions input.userId db).2.2 :=
          ⟨congrArg Prod.fst hcounts, congrArg (·.2.1) hcounts, congrArg (·.2.2) hcounts⟩
        rw [hdevice, hrefresh, hrequest, mutationResult]
      · rintro (h | h | h)
        · exact h hrows
        · exact h hpasses
        · exact h hone
    rw [hresult]
    rfl
  · left
    obtain ⟨rfl, wrapper, hsome, hzero, rfl⟩ := runFrom_downstream hfresh hrest
    refine ⟨Prod.ext hdb ?_, hnone⟩
    rw [hread, interpret_cons hsome]
    have hresult : input.interpretGeneration history user wrapper [{}, {}, {}, {}] = .ok none := by
      dsimp only [interpretGeneration]
      rw [if_pos hrows, if_neg]
      simpa using hzero
    rw [show List.replicate 4 ({} : StatementResult) = [{}, {}, {}, {}] from rfl, hresult]
    rfl

end RotateAccountSecurityStampInput

/-! ## The three changes -/

/-- A change of credentials. -/
inductive CredentialMutation where
  | stamp (input : RotateAccountSecurityStampInput)
  | password (input : ChangeAccountMasterPasswordInput)
  | kdf (input : ChangeAccountKdfInput)
  deriving DecidableEq, Repr

namespace CredentialMutation

/-- What every change brings with it. -/
def input : CredentialMutation → RotateAccountSecurityStampInput
  | stamp input => input
  | password input => input.toRotateAccountSecurityStampInput
  | kdf input => input.toRotateAccountSecurityStampInput

/-- The account as the change writes it. -/
def set : CredentialMutation → User → User
  | stamp input => input.rotate
  | password input => input.change
  | kdf input => input.changeKdf

variable (fingerprint : String → String)

def run : CredentialMutation → Db → Db × Except Failure (Option CredentialGenerationMutationResult)
  | stamp input => rotateAccountSecurityStamp input
  | password input => changeAccountMasterPassword fingerprint input
  | kdf input => changeAccountKdf fingerprint input

/-- The account the change is for, and in the generation its request has seen. -/
def Expected : CredentialMutation → Db → User → Prop
  | stamp input, _, u => input.Expected u
  | password input, db, u =>
    input.Account fingerprint db u ∧
      input.prepareCredentialWrapperHistoryMutation fingerprint ≠ none
  | kdf input, db, u =>
    input.Account fingerprint db u ∧
      input.prepareCredentialWrapperHistoryMutation fingerprint ≠ none

/-- The wrappers the change records. -/
def wrappers : CredentialMutation → List CredentialWrapper
  | stamp _ => []
  | password input => input.currentEntries fingerprint ++ [⟨.userKey, fingerprint input.nextUserKey⟩]
  | kdf input => input.currentEntries fingerprint ++ [⟨.userKey, fingerprint input.nextUserKey⟩]

end CredentialMutation

theorem rotateAccountSecurityStamp_writes (input : RotateAccountSecurityStampInput) :
    WritesAccount (Db.usersIn.updateReturning (fun _ _ => input.Expected) (fun _ => input.rotate)
      fun u => [[.text u.id]]) input.userId (fun _ => input.Expected) input.rotate := by
  intro db n db' r h
  rcases TableIn.updateReturning_row h (fun u hu => hu.1) (fun _ => rfl) with
    ⟨u, hrow, hhit, hwritten, -, -, hrows⟩ | ⟨hnone, hself, -, -, hrows⟩
  · have hsettled : u.settled (input.rotate u) = input.rotate u := if_neg fun hstale => hstale.1 rfl
    exact Or.inl ⟨u, hrow, hhit, by rwa [hsettled], hrows.trans (by rw [← hhit.1]; rfl)⟩
  · exact Or.inr ⟨hnone, hself, hrows⟩

namespace ChangeAccountMasterPasswordInput

variable {fingerprint : String → String} {input : ChangeAccountMasterPasswordInput}
  {set : User → User}

theorem userStatement_writes (fingerprint : String → String)
    (input : ChangeAccountMasterPasswordInput) (hset : ∀ u, (set u).id = u.id) :
    WritesAccount (input.userStatement fingerprint set) input.userId (input.Account fingerprint)
      set := by
  intro db n db' r h
  rcases updateUser_row h (fun u hu => hu.1.1) hset with
    ⟨u, hrow, hhit, hwritten, hrows, -⟩ | ⟨hnone, hself, -, hrows⟩
  · exact Or.inl ⟨u, hrow, hhit, hwritten, hrows.trans (by rw [hset, hhit.1.1])⟩
  · exact Or.inr ⟨hnone, hself, hrows⟩

/-- What is prepared: the wrappers of the account and a new one. -/
theorem prepareCredentialWrapperHistoryMutation_eq_some {history : CredentialWrapperHistoryMutation}
    (h : input.prepareCredentialWrapperHistoryMutation fingerprint = some history) :
    history.entries = input.currentEntries fingerprint ++
        [⟨.userKey, fingerprint input.nextUserKey⟩] ∧
      history.nextWrapperSha256 = fingerprint input.nextUserKey ∧ history.Distinct := by
  unfold prepareCredentialWrapperHistoryMutation at h
  dsimp only at h
  split_ifs at h with hkeys hsame
  obtain rfl := Option.some.inj h
  obtain ⟨hnodup, hnext⟩ := not_or.mp hsame
  refine ⟨rfl, rfl, ?_, ?_⟩
  · rw [List.map_append, List.map_singleton]
    exact (not_not.mp hnodup).append (List.nodup_singleton _) (by simpa using hnext)
  · simp

/-- **A change under the shared guard is atomic.** -/
theorem changeGeneration_atomic {db : Db} (hopens : ∀ u, u.disabledAt = none →
      (set u).id = u.id ∧ (set u).disabledAt = none ∧
      (set u).securityStamp = input.nextSecurityStamp ∧
      (set u).revisionDate = input.nextRevisionDate) (hset : ∀ u, (set u).id = u.id)
    (hfresh : ¬ input.Committed db) :
    (∃ e, input.changeGeneration fingerprint set db = (db, .error (.constraint e))) ∨
    (input.changeGeneration fingerprint set db = (db, .ok none) ∧
      ∀ u, Db.usersIn.row db input.userId = some u → ¬ (input.Account fingerprint db u ∧
        input.prepareCredentialWrapperHistoryMutation fingerprint ≠ none)) ∨
    ∃ u db', Db.usersIn.row db input.userId = some u ∧ (input.Account fingerprint db u ∧
        input.prepareCredentialWrapperHistoryMutation fingerprint ≠ none) ∧
      GenerationCommitted input.toRotateAccountSecurityStampInput (u.settled (set u))
        (input.currentEntries fingerprint ++ [⟨.userKey, fingerprint input.nextUserKey⟩]) db db' ∧
      input.changeGeneration fingerprint set db =
        (db', .ok (some (mutationResult input.userId db))) := by
  unfold changeGeneration
  cases hhistory : input.prepareCredentialWrapperHistoryMutation fingerprint with
  | none => exact Or.inr (Or.inl ⟨rfl, fun _ _ h => h.2 rfl⟩)
  | some history =>
    obtain ⟨hentries, hnext, hdistinct⟩ :=
      prepareCredentialWrapperHistoryMutation_eq_some hhistory
    have hatomic := RotateAccountSecurityStampInput.commitCredentialGenerationMutation_atomic
      input.toRotateAccountSecurityStampInput history db
      (userStatement_writes fingerprint input hset)
      (fun _ u hu => ⟨hu.1.1, hopens u hu.1.2.1⟩)
      (by rintro _ ⟨⟩; exact hdistinct)
      (by
        rintro _ ⟨⟩ u hu
        rw [hnext, ← hu.1.1]
        exact hu.2) hfresh
    rcases hatomic with herror | ⟨hnone, hmiss⟩ | ⟨u, db', hrow, hexpected, hdone, hok⟩
    · exact Or.inl herror
    · exact Or.inr (Or.inl ⟨hnone, fun u hu h => hmiss u hu h.1⟩)
    · exact Or.inr (Or.inr ⟨u, db', hrow, ⟨hexpected, Option.some_ne_none _⟩,
        by simpa only [Option.elim, hentries] using hdone, hok⟩)

end ChangeAccountMasterPasswordInput

/-- An account that is signed in on one device. -/
def signedInDb : Db where
  users := Table.singleton
    { id := "owner", emailNormalized := "one@example.com", masterPasswordHash := "hash"
      userKey := some "2.user-key", privateKey := some "2.private-key", securityStamp := "stamp"
      revisionDate := 4 }
  devices := Table.singleton { id := "device", userId := "owner", identifier := "laptop" }
  refreshTokens := Table.singleton
    { id := "token", userId := "owner", deviceId := "device", tokenHash := "token-hash"
      expiresAt := 100 }

/-- Its next password. -/
def nextPassword : ChangeAccountMasterPasswordInput where
  userId := "owner"
  expectedMasterPasswordHash := "hash"
  expectedSecurityStamp := "stamp"
  expectedRevisionDate := 4
  nextSecurityStamp := "next-stamp"
  nextRevisionDate := 9
  auditEventId := "event"
  auditEvent :=
    { name := "account.password.change", outcome := "success", requestId := "request"
      occurredAt := 9 }
  expectedEmailNormalized := "one@example.com"
  expectedKdfAlgorithm := "pbkdf2-sha256"
  expectedKdfIterations := 600000
  expectedKdfMemory := none
  expectedKdfParallelism := none
  expectedUserKey := some "2.user-key"
  expectedPrivateKey := some "2.private-key"
  nextMasterPasswordHash := "next-hash"
  nextUserKey := "2.next-user-key"

end HonoWarden
