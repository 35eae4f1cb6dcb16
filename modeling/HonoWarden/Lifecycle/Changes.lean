import HonoWarden.Credential.Generation
import HonoWarden.Lifecycle.PurgeRun

/-!
# Changes of address and deletions are whole

`changeAccountEmail` and `beginRecoverableAccountDeletion` write the account first, and every later
statement asks for the generation it leaves. Both readings throw where the results are not those
of one generation; by then the batch has committed.

* `EmailChanged`, `DeletionBegun`: what a batch has written;
* `ChangeAccountEmailInput.batch_cases`, `BeginRecoverableAccountDeletionInput.batch_cases`: a batch
  writes all of it, or nothing.

Results:
* **`changeAccountEmail_atomic`**, **`beginRecoverableAccountDeletion_atomic`**: neither reading ever
  throws, and success is reported exactly when the change has been written.
-/

namespace HonoWarden

open Relational

/-! ## The address -/

namespace ChangeAccountEmailInput

variable (input : ChangeAccountEmailInput)

/-- The token, consumed. -/
def consume (t : AccountLifecycleToken) : AccountLifecycleToken :=
  { t with consumedAt := some input.nextRevisionDate, updatedAt := input.nextRevisionDate }

/-- A membership with the new address. -/
def readdress (m : OrganizationUser) : OrganizationUser :=
  { m with email := input.nextEmail, updatedAt := input.nextRevisionDate }

end ChangeAccountEmailInput

/-- The account has its new address: its wrappers are recorded, the token is consumed, the
memberships have taken over the address, the sessions have ended, one event tells of it, and nothing
else has changed. -/
structure EmailChanged (fingerprint : String → String) (input : ChangeAccountEmailInput) (u : User)
    (db db' : Db) : Prop where
  users : Db.usersIn.row db' =
    Function.update (Db.usersIn.row db) input.userId (some (u.settled (input.change u)))
  wrappers : WrappersAdded input.userId input.nextRevisionDate (input.wrappers fingerprint) db db'
  tokens : db'.accountLifecycleTokens.rows =
    updateWhere input.Token input.consume db.accountLifecycleTokens.rows
  memberships : db'.organizationUsers.rows =
    updateWhere (fun m => m.userId = some input.userId) input.readdress db.organizationUsers.rows
  sessions : SessionsEnded input.userId input.nextRevisionDate db db'
  audit : db'.auditEvents.rows =
    db.auditEvents.rows ++ [{ input.auditEvent with id := input.auditEventId }]
  others : db' = { db with
    users := db'.users
    wrapperHistory := db'.wrapperHistory
    accountLifecycleTokens := db'.accountLifecycleTokens
    organizationUsers := db'.organizationUsers
    devices := db'.devices
    refreshTokens := db'.refreshTokens
    authRequests := db'.authRequests
    auditEvents := db'.auditEvents }

namespace ChangeAccountEmailInput

variable {fingerprint : String → String} {input : ChangeAccountEmailInput} {db db' : Db}
  {results : List StatementResult}

theorem wrappers_nodup (hne : fingerprint input.expectedUserKey ≠ fingerprint input.nextUserKey) :
    ((input.wrappers fingerprint).map CredentialWrapper.sha256).Nodup := by
  simpa [wrappers] using hne

/-- The record of the wrappers passes the check of the results. -/
theorem wrappersRecorded {wrapper : StatementResult}
    (hne : fingerprint input.expectedUserKey ≠ fingerprint input.nextUserKey)
    (hnew : ¬ WrapperRecorded db input.userId (fingerprint input.nextUserKey))
    (hcount : wrapper.metaChanges =
      (unrecorded db input.userId (input.wrappers fingerprint)).length)
    (hrows : wrapper.rows =
      (unrecorded db input.userId (input.wrappers fingerprint)).map CredentialWrapper.returned) :
    input.WrappersRecorded fingerprint wrapper := by
  have hold : unrecorded db input.userId (input.wrappers fingerprint) =
      (if WrapperRecorded db input.userId (fingerprint input.expectedUserKey) then []
        else [⟨.userKey, fingerprint input.expectedUserKey⟩]) ++
      [⟨.userKey, fingerprint input.nextUserKey⟩] := by
    by_cases h : WrapperRecorded db input.userId (fingerprint input.expectedUserKey) <;>
      simp [unrecorded, wrappers, h, hnew]
  unfold WrappersRecorded
  rw [hcount, hrows, hold]
  by_cases h : WrapperRecorded db input.userId (fingerprint input.expectedUserKey)
  · simp [h, CredentialWrapper.returned, WrapperKind.text]
  · simp [h, CredentialWrapper.returned, WrapperKind.text, hne]

theorem Committed.atGeneration {input : ChangeAccountEmailInput} {db : Db}
    (h : input.Committed db) :
    AtGeneration input.userId input.nextSecurityStamp input.nextRevisionDate db := by
  obtain ⟨u, hu, hid, -, hstamp, hrevision⟩ := h
  exact ⟨u, hu, hid, hstamp, hrevision⟩

/-- The statements after the account's do nothing without the next generation. -/
theorem batch_gated (fingerprint : String → String) (input : ChangeAccountEmailInput) :
    ∀ st ∈ (input.batch fingerprint).tail,
      st.Gated (AtGeneration input.userId input.nextSecurityStamp input.nextRevisionDate) := by
  intro st hst
  simp only [batch, List.tail_cons, List.mem_cons, List.not_mem_nil, or_false] at hst
  rcases hst with rfl | rfl | rfl | rfl | rfl | rfl | rfl
  · exact insertCredentialWrapperHistory_gated
  · exact TableIn.update_gated fun _ _ _ h => Committed.atGeneration h.2
  · exact TableIn.update_gated fun _ _ _ h => Committed.atGeneration h.2
  · exact TableIn.update_gated fun _ _ _ h => Committed.atGeneration h.2.2
  · exact TableIn.update_gated fun _ _ _ h => Committed.atGeneration h.2.2
  · exact TableIn.update_gated fun _ _ _ h => Committed.atGeneration h.2.2
  · exact auditStatement_gated fun _ _ h => Committed.atGeneration h

/-- How many memberships take over the address. -/
def membershipCount (input : ChangeAccountEmailInput) (db : Db) : Nat :=
  db.organizationUsers.rows.countP fun m => m.userId = some input.userId

/-- What the client reads when the address has changed. -/
def changedResult (input : ChangeAccountEmailInput) (db : Db) : ChangeAccountEmailResult :=
  .changed (openSessions input.userId db).1 (openSessions input.userId db).2.1
    (openSessions input.userId db).2.2 (input.membershipCount db)

/-- The tokens a change consumes have one digest. -/
theorem countP_token (h : ∃ t ∈ db.accountLifecycleTokens.rows, input.Token t) :
    db.accountLifecycleTokens.rows.countP (fun t => input.Token t) = 1 := by
  refine (countP_eq_one_iff_of_unique db.accountLifecycleTokens.keyed ?_).mpr h
  intro a _ b _ ha hb
  exact Or.inr (Or.inl (ha.2.2.1.trans hb.2.2.1.symm))

/-- **The batch writes all of the change, or nothing.** -/
theorem batch_cases
    (hne : fingerprint input.expectedUserKey ≠ fingerprint input.nextUserKey)
    (hfresh : ¬ AtGeneration input.userId input.nextSecurityStamp input.nextRevisionDate db)
    (h : runBatch (input.batch fingerprint) db = .ok (db', results)) :
    (∃ u, Db.usersIn.row db input.userId = some u ∧ input.Account fingerprint db u ∧
      EmailChanged fingerprint input u db db' ∧
      input.interpret fingerprint results = .ok (input.changedResult db)) ∨
    ((∀ u, Db.usersIn.row db input.userId = some u → ¬ input.Account fingerprint db u) ∧
      db' = db ∧ input.interpret fingerprint results = .ok .conflict) := by
  obtain ⟨db₁, user, _, huser, hrest, rfl⟩ := runFrom_cons h
  rcases updateUser_row huser (fun u hu => hu.1.1) (fun _ => rfl) with
    ⟨u, hrow, hhit, hwritten, hrows, -⟩ | ⟨hnone, rfl, -, hrows⟩
  swap
  · right
    have hgated := runFrom_gated (n := user.changes) hfresh (batch_gated fingerprint input)
    obtain ⟨rfl, rfl⟩ := Prod.mk.inj (Except.ok.inj (hgated.symm.trans hrest))
    refine ⟨hnone, rfl, ?_⟩
    change input.interpret fingerprint [user, {}, {}, {}, {}, {}, {}, {}] = .ok .conflict
    simp only [interpret, hrows]
    rw [if_neg (by simp)]
  left
  obtain ⟨hexpected, htaken, hmember, hnew, htoken⟩ := id hhit
  obtain ⟨U, rfl⟩ := hwritten.others
  have hcommitted : ∀ db₂ : Db, db₂.users = U → input.Committed db₂ := by
    rintro db₂ rfl
    exact ⟨_, (TableIn.row_eq_some_iff.mp hwritten.self).1,
      (User.settled_id _ _).trans hexpected.1, User.settled_emailNormalized _ _,
      User.settled_securityStamp _ _, User.settled_revisionDate _ _⟩
  obtain ⟨db₂, wrapper, _, hwrapper, hrest, rfl⟩ := runFrom_cons hrest
  obtain ⟨hadded, hothers, hwrapperCount, hrecorded⟩ := insertCredentialWrapperHistory_ok
    (hcommitted _ rfl).atGeneration (wrappers_nodup hne) hwrapper
  obtain ⟨W, rfl⟩ : ∃ W, db₂ = { db with users := U, wrapperHistory := W } := ⟨_, hothers⟩
  obtain ⟨_, token, _, htokens, hrest, rfl⟩ := runFrom_cons hrest
  obtain ⟨T, hT, rfl, htokenCount⟩ :=
    TableIn.update_when (fun _ => and_iff_left (hcommitted _ rfl)) htokens
  obtain ⟨_, membership, _, hmemberships, hrest, rfl⟩ := runFrom_cons hrest
  obtain ⟨M, hM, rfl, hmembershipCount⟩ :=
    TableIn.update_when (fun _ => and_iff_left (hcommitted _ rfl)) hmemberships
  obtain ⟨ended, device, refresh, authRequest, last, hended, hothers, hlast, rfl, hsessions⟩ :=
    endSessions_ok (fun db₂ h₂ => hcommitted db₂ h₂) hrest
  obtain ⟨_, audit, _, haudit, hnil, rfl⟩ := runFrom_cons hlast
  obtain ⟨rfl, rfl⟩ := runFrom_nil hnil
  have husers : ended.users = U := by rw [hothers]
  obtain ⟨haudited, haudit', hone⟩ := auditStatement_ok (hcommitted ended husers) haudit
  obtain ⟨D, R, A, rfl⟩ : ∃ D R A, ended = { db with
      users := U, wrapperHistory := W, accountLifecycleTokens := T, organizationUsers := M
      devices := D, refreshTokens := R, authRequests := A } := ⟨_, _, _, hothers⟩
  obtain ⟨E, rfl⟩ : ∃ E, db' = { db with
      users := U, wrapperHistory := W, accountLifecycleTokens := T, organizationUsers := M
      devices := D, refreshTokens := R, authRequests := A, auditEvents := E } := ⟨_, haudit'⟩
  refine ⟨u, hrow, hhit, ⟨hwritten.row, hadded, hT, hM,
    ⟨hended.devices, hended.refreshTokens, hended.authRequests⟩, haudited, rfl⟩, ?_⟩
  have hrecordedOk : input.WrappersRecorded fingerprint wrapper :=
    @wrappersRecorded fingerprint input db wrapper hne hnew hwrapperCount hrecorded
  have htokenOne : token.metaChanges = 1 := htokenCount.trans (countP_token htoken)
  obtain ⟨hdevice, hrefresh, hrequest⟩ : device.metaChanges = (openSessions input.userId db).1 ∧
      refresh.metaChanges = (openSessions input.userId db).2.1 ∧
      authRequest.metaChanges = (openSessions input.userId db).2.2 :=
    ⟨congrArg Prod.fst hsessions, congrArg (·.2.1) hsessions, congrArg (·.2.2) hsessions⟩
  have hid : user.rows = [[.text input.userId]] := by
    rw [hrows, ← hexpected.1]
    rfl
  simp only [interpret, hid]
  rw [if_neg, hdevice, hrefresh, hrequest, hmembershipCount]
  · rfl
  · rintro (h | h | h | h)
    · exact h rfl
    · exact h hrecordedOk
    · exact h htokenOne
    · exact h hone

end ChangeAccountEmailInput

/-- **A change of address is whole.** It is refused by a constraint, or the account is not the one
the request has seen, or its next wrapper is the current one, and nothing happens; otherwise all of
it is written, and the caller is told how many sessions and memberships it has written. -/
theorem changeAccountEmail_atomic (fingerprint : String → String) (input : ChangeAccountEmailInput)
    (db : Db)
    (hfresh : ¬ AtGeneration input.userId input.nextSecurityStamp input.nextRevisionDate db) :
    (∃ e, changeAccountEmail fingerprint input db = (db, .error (.constraint e))) ∨
    (changeAccountEmail fingerprint input db = (db, .ok .conflict) ∧
      ∀ u, Db.usersIn.row db input.userId = some u →
        ¬ (input.Account fingerprint db u ∧
          fingerprint input.expectedUserKey ≠ fingerprint input.nextUserKey)) ∨
    ∃ u db', Db.usersIn.row db input.userId = some u ∧
      (input.Account fingerprint db u ∧
        fingerprint input.expectedUserKey ≠ fingerprint input.nextUserKey) ∧
      EmailChanged fingerprint input u db db' ∧
      changeAccountEmail fingerprint input db = (db', .ok (input.changedResult db)) := by
  by_cases hne : fingerprint input.expectedUserKey = fingerprint input.nextUserKey
  · exact Or.inr (Or.inl ⟨if_pos hne, fun _ _ h => h.2 hne⟩)
  have hcall : changeAccountEmail fingerprint input db =
      commit (input.batch fingerprint) (input.interpret fingerprint) db := if_neg hne
  rw [hcall]
  rcases commit_cases (input.batch fingerprint) (input.interpret fingerprint) db with
    ⟨hdb, e, he⟩ | ⟨db', results, hrun, hdb, hread⟩
  · exact Or.inl ⟨e, Prod.ext hdb he⟩
  rcases ChangeAccountEmailInput.batch_cases hne hfresh hrun with
    ⟨u, hrow, haccount, hchanged, hresult⟩ | ⟨hnone, rfl, hresult⟩
  · rw [hresult] at hread
    exact Or.inr (Or.inr ⟨u, db', hrow, ⟨haccount, hne⟩, hchanged, Prod.ext hdb hread⟩)
  · rw [hresult] at hread
    exact Or.inr (Or.inl ⟨Prod.ext hdb hread, fun u hu h => hnone u hu h.1⟩)

/-! ### A new address -/

/-- An account with a key pair and a mail on its way to its next address. -/
def movingDb : Db where
  users := Table.singleton
    { id := "owner", email := "old@x.y", emailNormalized := "old@x.y", masterPasswordHash := "hash"
      userKey := some "key", securityStamp := "stamp", revisionDate := 4 }
  accountLifecycleTokens := Table.singleton
    { id := "token", userId := "owner", purpose := .emailChange, tokenDigest := "digest"
      targetEmailNormalized := some "new@x.y", credentialGeneration := "stamp"
      deliveryState := .accepted, expiresAt := 20 }
  devices := Table.singleton { id := "device", userId := "owner", identifier := "laptop" }

def nextAddress : ChangeAccountEmailInput where
  userId := "owner"
  expectedEmailNormalized := "old@x.y"
  expectedMasterPasswordHash := "hash"
  expectedUserKey := "key"
  expectedSecurityStamp := "stamp"
  expectedRevisionDate := 4
  tokenDigest := "digest"
  tokenCredentialGeneration := "stamp"
  nextEmail := "new@x.y"
  nextEmailNormalized := "new@x.y"
  nextMasterPasswordHash := "next-hash"
  nextUserKey := "next-key"
  nextSecurityStamp := "next-stamp"
  nextRevisionDate := 9
  auditEventId := "event"
  auditEvent :=
    { name := "account.email.change", outcome := "success", requestId := "request", occurredAt := 9 }

theorem changeAccountEmail_atomic_nextAddress : ∃ u db',
    Db.usersIn.row movingDb "owner" = some u ∧
      EmailChanged (fun text => text) nextAddress u movingDb db' ∧
      changeAccountEmail (fun text => text) nextAddress movingDb =
        (db', .ok (.changed 1 0 0 0)) := by
  have hresult : (changeAccountEmail (fun text => text) nextAddress movingDb).2 =
      .ok (.changed 1 0 0 0) := by
    decide +kernel
  rcases changeAccountEmail_atomic (fun text => text) nextAddress movingDb (by decide +kernel) with
    ⟨e, he⟩ | ⟨hnone, -⟩ | ⟨u, db', hrow, -, hchanged, hrun⟩
  · rw [he] at hresult
    cases hresult
  · rw [hnone] at hresult
    cases hresult
  · refine ⟨u, db', hrow, hchanged, ?_⟩
    rw [hrun] at hresult ⊢
    rw [Except.ok.inj hresult]

/-! ## The deletion -/

/-- The account is disabled: its deletion can be recovered, its tokens are settled, its sessions
have ended, one event tells of it, and nothing else has changed. -/
structure DeletionBegun (input : BeginRecoverableAccountDeletionInput) (u : User) (db db' : Db) :
    Prop where
  users : Db.usersIn.row db' =
    Function.update (Db.usersIn.row db) input.userId (some (input.disable u))
  deletion : Db.accountDeletionsIn.row db' =
    Function.update (Db.accountDeletionsIn.row db) input.userId (some input.deletion)
  tokens : db'.accountLifecycleTokens.rows =
    updateWhere (fun t => t.userId = input.userId ∧ t.Active) input.settleToken
      db.accountLifecycleTokens.rows
  sessions : SessionsEnded input.userId input.now db db'
  audit : db'.auditEvents.rows =
    db.auditEvents.rows ++ [{ input.auditEvent with id := input.auditEventId }]
  others : db' = { db with
    users := db'.users
    accountDeletions := db'.accountDeletions
    accountLifecycleTokens := db'.accountLifecycleTokens
    devices := db'.devices
    refreshTokens := db'.refreshTokens
    authRequests := db'.authRequests
    auditEvents := db'.auditEvents }

namespace BeginRecoverableAccountDeletionInput

variable {input : BeginRecoverableAccountDeletionInput} {db db' : Db} {n : Nat}
  {r : StatementResult} {results : List StatementResult}

/-- An upsert that nothing selects writes nothing. -/
theorem insertDeletion_gated (input : BeginRecoverableAccountDeletionInput) :
    input.insertDeletion.Gated input.Disabled := by
  intro db n hguard
  have hnone : (Db.accountDeletionsIn.upsertRow
      (fun db _ => if input.Disabled db then some input.deletion else none) restart
      fun _ => []) db n = .ok (db, {}) := by
    simp only [TableIn.upsertRow, if_neg hguard]
  simp only [insertDeletion, Statement.checked, hnone]
  rfl

/-- The deletion of a disabled account begins, if none is under way. -/
theorem insertDeletion_begun (hdisabled : input.Disabled db)
    (hnone : ∀ d ∈ db.accountDeletions.rows, d.userId = input.userId → d.state = .recovered)
    (h : input.insertDeletion db n = .ok (db', r)) :
    input.now < input.recoverUntil ∧ r.metaChanges = 1 ∧
      Db.accountDeletionsIn.RowWritten input.userId (some input.deletion) db db' := by
  obtain ⟨hupsert, hcheck⟩ := Statement.checked_ok h
  obtain ⟨hwritten, hchanges, hmeta⟩ := TableIn.upsertRow_written (if_pos hdisabled)
    (fun old hold hkey => by
      have huser : old.userId = input.userId := hkey
      rw [restart, if_pos (hnone old hold huser), huser]
      rfl) hupsert
  exact ⟨hcheck (by omega), hmeta.trans hchanges, hwritten⟩

/-- The statements after the account's do nothing without the disabled generation. -/
theorem batch_gated (input : BeginRecoverableAccountDeletionInput) :
    ∀ st ∈ input.batch.drop 2, st.Gated input.Disabled := by
  intro st hst
  simp only [batch, List.drop_succ_cons, List.drop_zero, List.mem_cons, List.not_mem_nil,
    or_false] at hst
  rcases hst with rfl | rfl | rfl | rfl | rfl | rfl
  · exact insertDeletion_gated input
  · exact TableIn.update_gated fun _ _ _ h => h.2.2
  · exact TableIn.update_gated fun _ _ _ h => h.2.2
  · exact TableIn.update_gated fun _ _ _ h => h.2.2
  · exact TableIn.update_gated fun _ _ _ h => h.2.2
  · exact auditStatement_gated fun _ _ h => h

/-- What the client reads when the deletion has begun. -/
def begunResult (input : BeginRecoverableAccountDeletionInput) (db : Db) :
    BeginRecoverableAccountDeletionResult :=
  .recoverable input.lifecycleGeneration input.recoverUntil (openSessions input.userId db).1
    (openSessions input.userId db).2.1 (openSessions input.userId db).2.2

/-- What the client reads when it has not. -/
def refusedResult (input : BeginRecoverableAccountDeletionInput) (db : Db) :
    BeginRecoverableAccountDeletionResult :=
  if HasLastConfirmedOwnerMembership db input.userId then .lastOwner else .conflict

theorem hasLastConfirmedOwnerMembership_iff (db : Db) (userId : String) :
    db.organizationUsers.rows.countP (fun m => LastConfirmedOwnerMembership db userId m) ≠ 0 ↔
      HasLastConfirmedOwnerMembership db userId := by
  rw [← Nat.pos_iff_ne_zero, countP_pos_iff_exists]
  rfl

/-- **The batch begins all of the deletion, or does nothing.** -/
theorem batch_cases (hfresh : ¬ input.Disabled db)
    (h : runBatch input.batch db = .ok (db', results)) :
    (∃ u, Db.usersIn.row db input.userId = some u ∧ input.Account db u ∧
      input.now < input.recoverUntil ∧ DeletionBegun input u db db' ∧
      input.interpret results = .ok (input.begunResult db)) ∨
    ((∀ u, Db.usersIn.row db input.userId = some u → ¬ input.Account db u) ∧ db' = db ∧
      input.interpret results = .ok (input.refusedResult db)) := by
  obtain ⟨_, owner, _, howner, hrun, rfl⟩ := runFrom_cons h
  simp only [select, Except.ok.injEq, Prod.mk.injEq] at howner
  obtain ⟨rfl, rfl⟩ := howner
  obtain ⟨db₁, user, _, huser, hrest, rfl⟩ := runFrom_cons hrun
  rcases TableIn.updateReturning_row huser (fun u hu => hu.1) (fun _ => rfl) with
    ⟨u, hrow, hhit, hwritten, -, -, hrows⟩ | ⟨hnone, rfl, -, -, hrows⟩
  swap
  · right
    have hgated := runFrom_gated (n := user.changes) hfresh (batch_gated input)
    obtain ⟨rfl, rfl⟩ := Prod.mk.inj (Except.ok.inj (hgated.symm.trans hrest))
    refine ⟨hnone, rfl, ?_⟩
    change input.interpret [_, user, {}, {}, {}, {}, {}, {}] = _
    simp only [interpret, hrows]
    rw [if_neg (by simp), refusedResult]
    by_cases hlast : HasLastConfirmedOwnerMembership db₁ input.userId
    · have hcount := (hasLastConfirmedOwnerMembership_iff db₁ input.userId).mpr hlast
      rw [if_pos hlast, if_pos]
      simpa using hcount
    · have hcount := mt (hasLastConfirmedOwnerMembership_iff db₁ input.userId).mp hlast
      rw [if_neg hlast, if_neg]
      simpa using hcount
  left
  obtain ⟨hid, -, -, -, -, hdeletions, -⟩ := id hhit
  obtain ⟨U, rfl⟩ := hwritten.others
  have hdisabled : ∀ db₂ : Db, db₂.users = U → input.Disabled db₂ := by
    rintro db₂ rfl
    exact ⟨_, (TableIn.row_eq_some_iff.mp hwritten.self).1, hid, rfl, rfl, rfl⟩
  obtain ⟨db₂, deletion, _, hdeletion, hrest, rfl⟩ := runFrom_cons hrest
  obtain ⟨hlater, hdeletionOne, hbegun⟩ := insertDeletion_begun (hdisabled _ rfl)
    (fun d hd huser => by
      by_contra hstate
      exact hdeletions ⟨d, hd, huser.trans hid.symm, hstate⟩) hdeletion
  obtain ⟨L, rfl⟩ := hbegun.others
  obtain ⟨_, token, _, htokens, hrest, rfl⟩ := runFrom_cons hrest
  obtain ⟨T, hT, rfl, -⟩ := TableIn.update_when
    (p := fun t => t.userId = input.userId ∧ t.Active)
    (fun t => ⟨fun hh => ⟨hh.1, hh.2.1⟩, fun hh => ⟨hh.1, hh.2, hdisabled _ rfl⟩⟩) htokens
  obtain ⟨ended, device, refresh, authRequest, last, hended, hothers, hlast, rfl, hsessions⟩ :=
    endSessions_ok (fun db₂ h₂ => hdisabled db₂ h₂) hrest
  obtain ⟨_, audit, _, haudit, hnil, rfl⟩ := runFrom_cons hlast
  obtain ⟨rfl, rfl⟩ := runFrom_nil hnil
  have husers : ended.users = U := by rw [hothers]
  obtain ⟨haudited, haudit', hone⟩ := auditStatement_ok (hdisabled ended husers) haudit
  obtain ⟨D, R, A, rfl⟩ : ∃ D R A, ended = { db with
      users := U, accountDeletions := L, accountLifecycleTokens := T
      devices := D, refreshTokens := R, authRequests := A } := ⟨_, _, _, hothers⟩
  obtain ⟨E, rfl⟩ : ∃ E, db' = { db with
      users := U, accountDeletions := L, accountLifecycleTokens := T
      devices := D, refreshTokens := R, authRequests := A, auditEvents := E } := ⟨_, haudit'⟩
  refine ⟨u, hrow, hhit, hlater, ⟨hwritten.row, hbegun.row, hT,
    ⟨hended.devices, hended.refreshTokens, hended.authRequests⟩, haudited, rfl⟩, ?_⟩
  obtain ⟨hdevice, hrefresh, hrequest⟩ : device.metaChanges = (openSessions input.userId db).1 ∧
      refresh.metaChanges = (openSessions input.userId db).2.1 ∧
      authRequest.metaChanges = (openSessions input.userId db).2.2 :=
    ⟨congrArg Prod.fst hsessions, congrArg (·.2.1) hsessions, congrArg (·.2.2) hsessions⟩
  have hself : user.rows = [[.text input.userId]] := by
    rw [hrows, ← hid]
    rfl
  simp only [interpret, hself]
  rw [if_neg, hdevice, hrefresh, hrequest]
  · rfl
  · rintro (h | h | h)
    · exact h rfl
    · exact h hdeletionOne
    · exact h hone

end BeginRecoverableAccountDeletionInput

/-- **A deletion begins as a whole.** It is refused by a constraint, or the account may not be
deleted and nothing happens; otherwise all of it is written, and the caller is told how many
sessions have ended. -/
theorem beginRecoverableAccountDeletion_atomic (input : BeginRecoverableAccountDeletionInput)
    (db : Db) (hfresh : ¬ input.Disabled db) :
    (∃ e, beginRecoverableAccountDeletion input db = (db, .error (.constraint e))) ∨
    (beginRecoverableAccountDeletion input db = (db, .ok (input.refusedResult db)) ∧
      ∀ u, Db.usersIn.row db input.userId = some u → ¬ input.Account db u) ∨
    ∃ u db', Db.usersIn.row db input.userId = some u ∧ input.Account db u ∧
      input.now < input.recoverUntil ∧ DeletionBegun input u db db' ∧
      beginRecoverableAccountDeletion input db = (db', .ok (input.begunResult db)) := by
  unfold beginRecoverableAccountDeletion
  rcases commit_cases input.batch input.interpret db with
    ⟨hdb, e, he⟩ | ⟨db', results, hrun, hdb, hread⟩
  · exact Or.inl ⟨e, Prod.ext hdb he⟩
  rcases BeginRecoverableAccountDeletionInput.batch_cases hfresh hrun with
    ⟨u, hrow, haccount, hlater, hbegun, hresult⟩ | ⟨hnone, rfl, hresult⟩
  · rw [hresult] at hread
    exact Or.inr (Or.inr ⟨u, db', hrow, haccount, hlater, hbegun, Prod.ext hdb hread⟩)
  · rw [hresult] at hread
    exact Or.inr (Or.inl ⟨Prod.ext hdb hread, hnone⟩)

/-! ### An account that goes -/

def leaving : BeginRecoverableAccountDeletionInput where
  userId := "owner"
  expectedMasterPasswordHash := "hash"
  expectedSecurityStamp := "stamp"
  expectedRevisionDate := 4
  tokenDigest := none
  lifecycleGeneration := "generation"
  nextSecurityStamp := "next-stamp"
  now := 9
  recoverUntil := 30
  auditEventId := "event"
  auditEvent :=
    { name := "account.delete", outcome := "success", requestId := "request", occurredAt := 9 }

theorem beginRecoverableAccountDeletion_atomic_leaving : ∃ u db',
    Db.usersIn.row movingDb "owner" = some u ∧ DeletionBegun leaving u movingDb db' ∧
      beginRecoverableAccountDeletion leaving movingDb =
        (db', .ok (.recoverable "generation" 30 1 0 0)) := by
  have hresult : (beginRecoverableAccountDeletion leaving movingDb).2 =
      .ok (.recoverable "generation" 30 1 0 0) := by
    decide +kernel
  rcases beginRecoverableAccountDeletion_atomic leaving movingDb (by decide +kernel) with
    ⟨e, he⟩ | ⟨hnone, -⟩ | ⟨u, db', hrow, -, -, hbegun, hrun⟩
  · rw [he] at hresult
    cases hresult
  · rw [hnone] at hresult
    cases hresult
  · refine ⟨u, db', hrow, hbegun, ?_⟩
    rw [hrun] at hresult ⊢
    rw [Except.ok.inj hresult]

end HonoWarden
