import HonoWarden.Lifecycle.Email
import HonoWarden.Relational.Gated

/-!
# Generations of an account's credentials

What the batches that change an account's credentials have in common. The first statement compares
the account's row with the generation the request has seen and writes the next one; the later
statements ask for the generation it leaves (`AtGeneration`). Among them are the three that end
every session of the account (`endSessions`), and the record of its wrapped keys.

* `User.settled`: the row an UPDATE of `user_key` leaves, after the trigger of migration 0022;
* `SessionsEnded`, `WrappersAdded`: what these statements have done to their tables.

Results:
* **`updateUser_row`**: what an UPDATE of `user_key` does to the one account it names;
* **`endSessions_ok`**: every device, refresh token and open login request of the account is ended;
* **`recordWrappers_ok`**: the wrappers that were not recorded yet are recorded.
-/

namespace HonoWarden

open Relational

/-! ## The account -/

/-- The key id of the old row names a user key that the new row does not have. -/
def User.StaleKeyId (old new : User) : Prop :=
  new.userKey ≠ old.userKey ∧ new.userKeyId = old.userKeyId ∧ old.userKeyId ≠ none

instance (old new : User) : Decidable (old.StaleKeyId new) := inferInstanceAs (Decidable (_ ∧ _))

/-- The row an UPDATE of `user_key` leaves: a stale key id goes. -/
def User.settled (old new : User) : User :=
  if old.StaleKeyId new then { new with userKeyId := none } else new

@[simp] theorem User.settled_id (old new : User) : (old.settled new).id = new.id := by
  unfold settled
  split <;> rfl

@[simp] theorem User.settled_emailNormalized (old new : User) :
    (old.settled new).emailNormalized = new.emailNormalized := by
  unfold settled
  split <;> rfl

@[simp] theorem User.settled_securityStamp (old new : User) :
    (old.settled new).securityStamp = new.securityStamp := by
  unfold settled
  split <;> rfl

@[simp] theorem User.settled_revisionDate (old new : User) :
    (old.settled new).revisionDate = new.revisionDate := by
  unfold settled
  split <;> rfl

@[simp] theorem User.settled_userKey (old new : User) :
    (old.settled new).userKey = new.userKey := by
  unfold settled
  split <;> rfl

@[simp] theorem User.settled_privateKey (old new : User) :
    (old.settled new).privateKey = new.privateKey := by
  unfold settled
  split <;> rfl

@[simp] theorem User.settled_disabledAt (old new : User) :
    (old.settled new).disabledAt = new.disabledAt := by
  unfold settled
  split <;> rfl

/-- The trigger after the UPDATE of one account. -/
theorem invalidateStaleUserKeyId_one (old new : User) (db : Db)
    (hrow : Db.usersIn.row db new.id = some new) :
    Db.usersIn.RowWritten new.id (some (old.settled new)) db
        (invalidateStaleUserKeyId [(old, new)] db).1 ∧
      (invalidateStaleUserKeyId [(old, new)] db).2 = if old.StaleKeyId new then 1 else 0 := by
  obtain ⟨T, r, h, -⟩ := TableIn.updateReturning_total (s := db) Db.usersIn
    (fun _ _ u => ∃ image ∈ [(old, new)], image.2.userKey ≠ image.1.userKey ∧
      image.2.userKeyId = image.1.userKeyId ∧ image.1.userKeyId ≠ none ∧ u.id = image.2.id)
    (fun _ u => { u with userKeyId := none }) 0 (fun _ => []) fun _ => ⟨rfl, fun _ h => h⟩
  have hcall : invalidateStaleUserKeyId [(old, new)] db = (Db.usersIn.put db T, r.metaChanges) := by
    unfold invalidateStaleUserKeyId TableIn.nestedUpdate TableIn.update
    rw [h]
  have hhit (u : User) : (∃ image ∈ [(old, new)], image.2.userKey ≠ image.1.userKey ∧
      image.2.userKeyId = image.1.userKeyId ∧ image.1.userKeyId ≠ none ∧ u.id = image.2.id) ↔
      old.StaleKeyId new ∧ u.id = new.id := by
    simp [User.StaleKeyId, and_assoc]
  rw [hcall]
  rcases TableIn.updateReturning_row h (fun u hu => ((hhit u).mp hu).2) (fun _ => rfl) with
    ⟨u, hu, hstale, hwritten, -, hone, -⟩ | ⟨hnone, hself, -, hzero, -⟩
  · obtain rfl := Option.some.inj (hu.symm.trans hrow)
    have hstale := ((hhit u).mp hstale).1
    rw [hone, if_pos hstale, User.settled, if_pos hstale]
    exact ⟨hwritten, rfl⟩
  · have hfresh : ¬ old.StaleKeyId new := fun hstale => hnone new hrow ((hhit new).mpr ⟨hstale, rfl⟩)
    rw [hzero, if_neg hfresh, User.settled, if_neg hfresh]
    refine ⟨⟨?_, T, rfl⟩, rfl⟩
    rw [show Db.usersIn.put db T = db from hself, ← hrow, Function.update_eq_self]

section Update

variable {hit : Db → Nat → User → Prop} [∀ db n, DecidablePred (hit db n)] {set : User → User}
  {returning : User → List (List Value)} {userId : String} {db db' : Db} {n : Nat}
  {r : StatementResult}

/-- **What an UPDATE of `user_key` does to the account it names.** -/
theorem updateUser_row
    (h : Db.usersIn.updateTriggering hit (fun _ => set) returning invalidateStaleUserKeyId db n =
      .ok (db', r))
    (hkey : ∀ u, hit db n u → u.id = userId) (hset : ∀ u, (set u).id = u.id) :
    (∃ u, Db.usersIn.row db userId = some u ∧ hit db n u ∧
      Db.usersIn.RowWritten userId (some (u.settled (set u))) db db' ∧
      r.rows = returning (set u) ∧
      r.metaChanges = 1 + if u.StaleKeyId (set u) then 1 else 0) ∨
    ((∀ u, Db.usersIn.row db userId = some u → ¬ hit db n u) ∧ db' = db ∧ r.metaChanges = 0 ∧
      r.rows = []) := by
  obtain ⟨db₁, r₁, h₁, rfl, -, hmeta, hrows⟩ := fire_ok h
  rcases TableIn.updateReturning_row h₁ hkey hset with
    ⟨u, hrow, hhit, hwritten, -, hone, hrows₁⟩ | ⟨hnone, rfl, -, hzero, hrows₁⟩
  · obtain ⟨hu, hid⟩ := TableIn.row_eq_some_iff.mp hrow
    have himages : (db.users.rows.filter fun a => hit db n a).map (fun a => (a, set a)) =
        [(u, set u)] := by
      rw [db.users.filter_eq_singleton userId hkey hu hhit]
      rfl
    have hid' : (set u).id = userId := (hset u).trans hid
    obtain ⟨htrigger, hcount⟩ :=
      invalidateStaleUserKeyId_one u (set u) db₁ (by rw [hid', hwritten.self])
    rw [hid'] at htrigger
    refine Or.inl ⟨u, hrow, hhit, ?_, hrows.trans hrows₁, ?_⟩
    · rw [show (Db.usersIn.get db).rows = db.users.rows from rfl, himages]
      exact hwritten.trans (fun _ _ _ => rfl) htrigger
    · rw [hmeta, hone, show (Db.usersIn.get db).rows = db.users.rows from rfl, himages, hcount]
  · have himages : (db₁.users.rows.filter fun a => hit db₁ n a).map (fun a => (a, set a)) = [] := by
      rw [List.filter_eq_nil_iff.mpr fun u hu => ?_, List.map_nil]
      simpa using fun hh => hnone u (TableIn.row_eq_some_iff.mpr ⟨hu, hkey u hh⟩) hh
    have htrigger : invalidateStaleUserKeyId
        (((Db.usersIn.get db₁).rows.filter fun a => hit db₁ n a).map fun a => (a, set a)) db₁ =
          (db₁, 0) := by
      rw [show (Db.usersIn.get db₁).rows = db₁.users.rows from rfl, himages]
      exact Db.usersIn.nestedUpdate_idle (by simp)
    refine Or.inr ⟨hnone, congrArg Prod.fst htrigger, ?_, hrows.trans hrows₁⟩
    rw [hmeta, hzero]
    exact congrArg (0 + ·) (congrArg Prod.snd htrigger)

end Update

/-- `EXISTS (SELECT 1 FROM users WHERE id = ? AND security_stamp = ? AND revision_date = ?)`. -/
def AtGeneration (userId securityStamp : String) (revisionDate : Timestamp) (db : Db) : Prop :=
  ∃ u ∈ db.users.rows, u.id = userId ∧ u.securityStamp = securityStamp ∧
    u.revisionDate = revisionDate

instance (userId securityStamp : String) (revisionDate : Timestamp) :
    DecidablePred (AtGeneration userId securityStamp revisionDate) := fun db =>
  inferInstanceAs (Decidable (∃ u ∈ db.users.rows, _))

/-! ## Sessions -/

/-- `revokeDevicesSql`. -/
def revokeDevices (userId : String) (now : Timestamp) (guard : Db → Prop) [DecidablePred guard] :
    Statement Db :=
  Db.devicesIn.update (fun db _ d => d.userId = userId ∧ d.revokedAt = none ∧ guard db)
    fun _ => Device.revoke now

/-- `revokeRefreshTokensSql`. -/
def revokeRefreshTokens (userId : String) (now : Timestamp) (guard : Db → Prop)
    [DecidablePred guard] : Statement Db :=
  Db.refreshTokensIn.update (fun db _ t => t.userId = userId ∧ t.revokedAt = none ∧ guard db)
    fun _ => RefreshToken.revoke now

/-- `invalidateAuthRequestsSql`. -/
def invalidateAuthRequests (userId : String) (now : Timestamp) (guard : Db → Prop)
    [DecidablePred guard] : Statement Db :=
  Db.authRequestsIn.update
    (fun db _ a => a.userId = some userId ∧ (a.status = .pending ∨ a.status = .approved) ∧ guard db)
    fun _ => AuthRequest.supersede now

/-- The statements that end the sessions of an account. -/
def endSessions (userId : String) (now : Timestamp) (guard : Db → Prop) [DecidablePred guard] :
    List (Statement Db) :=
  [revokeDevices userId now guard, revokeRefreshTokens userId now guard,
    invalidateAuthRequests userId now guard]

/-- Every session of the account has ended. -/
structure SessionsEnded (userId : String) (now : Timestamp) (db db' : Db) : Prop where
  devices : db'.devices.rows = updateWhere (fun d => d.userId = userId ∧ d.revokedAt = none)
    (Device.revoke now) db.devices.rows
  refreshTokens : db'.refreshTokens.rows =
    updateWhere (fun t => t.userId = userId ∧ t.revokedAt = none) (RefreshToken.revoke now)
      db.refreshTokens.rows
  authRequests : db'.authRequests.rows =
    updateWhere (fun a => a.userId = some userId ∧ (a.status = .pending ∨ a.status = .approved))
      (AuthRequest.supersede now) db.authRequests.rows

/-- How many rows the end of the sessions writes: of the devices, the refresh tokens and the login
requests. -/
def openSessions (userId : String) (db : Db) : Nat × Nat × Nat :=
  (db.devices.rows.countP fun d => d.userId = userId ∧ d.revokedAt = none,
    db.refreshTokens.rows.countP fun t => t.userId = userId ∧ t.revokedAt = none,
    db.authRequests.rows.countP fun a =>
      a.userId = some userId ∧ (a.status = .pending ∨ a.status = .approved))

section Sessions

variable {userId : String} {now : Timestamp} {guard : Db → Prop} [DecidablePred guard]
  {db db' : Db} {n : Nat} {rest : List (Statement Db)} {results : List StatementResult}

theorem endSessions_gated : ∀ st ∈ endSessions userId now guard, st.Gated guard := by
  intro st hst
  simp only [endSessions, List.mem_cons, List.not_mem_nil, or_false] at hst
  rcases hst with rfl | rfl | rfl <;> exact TableIn.update_gated fun _ _ _ h => h.2.2

/-- **Every session of the account ends**, whatever comes after in the batch. -/
theorem endSessions_ok (hguard : ∀ db₁ : Db, db₁.users = db.users → guard db₁)
    (h : runFrom (endSessions userId now guard ++ rest) db n = .ok (db', results)) :
    ∃ (ended : Db) (device refresh authRequest : StatementResult) (later : List StatementResult),
      SessionsEnded userId now db ended ∧
      ended = { db with
        devices := ended.devices
        refreshTokens := ended.refreshTokens
        authRequests := ended.authRequests } ∧
      runFrom rest ended authRequest.changes = .ok (db', later) ∧
      results = device :: refresh :: authRequest :: later ∧
      (device.metaChanges, refresh.metaChanges, authRequest.metaChanges) =
        openSessions userId db := by
  obtain ⟨_, device, _, hdevice, h, rfl⟩ := runFrom_cons h
  obtain ⟨D, hD, rfl, hdeviceCount⟩ := TableIn.update_when
    (p := fun d => d.userId = userId ∧ d.revokedAt = none)
    (fun d => ⟨fun hh => ⟨hh.1, hh.2.1⟩, fun hh => ⟨hh.1, hh.2, hguard _ rfl⟩⟩) hdevice
  obtain ⟨_, refresh, _, hrefresh, h, rfl⟩ := runFrom_cons h
  obtain ⟨R, hR, rfl, hrefreshCount⟩ := TableIn.update_when
    (p := fun t => t.userId = userId ∧ t.revokedAt = none)
    (fun t => ⟨fun hh => ⟨hh.1, hh.2.1⟩, fun hh => ⟨hh.1, hh.2, hguard _ rfl⟩⟩) hrefresh
  obtain ⟨_, authRequest, later, hrequest, h, rfl⟩ := runFrom_cons h
  obtain ⟨A, hA, rfl, hrequestCount⟩ := TableIn.update_when
    (p := fun a => a.userId = some userId ∧ (a.status = .pending ∨ a.status = .approved))
    (fun a => ⟨fun hh => ⟨hh.1, hh.2.1⟩, fun hh => ⟨hh.1, hh.2, hguard _ rfl⟩⟩) hrequest
  exact ⟨_, device, refresh, authRequest, later, ⟨hD, hR, hA⟩, rfl, h, rfl,
    Prod.ext hdeviceCount (Prod.ext hrefreshCount hrequestCount)⟩

end Sessions

/-! ## Wrappers -/

/-- The account has had a wrapper with this fingerprint. -/
def WrapperRecorded (db : Db) (userId sha256 : String) : Prop :=
  ∃ w ∈ db.wrapperHistory.rows, w.userId = userId ∧ w.wrapperSha256 = sha256

instance (db : Db) (userId : String) : DecidablePred (WrapperRecorded db userId) := fun _ =>
  inferInstanceAs (Decidable (∃ w ∈ db.wrapperHistory.rows, _))

/-- The wrappers that are not recorded for the account yet. -/
def unrecorded (db : Db) (userId : String) (wrappers : List CredentialWrapper) :
    List CredentialWrapper :=
  wrappers.filter fun w => ¬ WrapperRecorded db userId w.sha256

/-- What `RETURNING` says of a wrapper. -/
def CredentialWrapper.returned (w : CredentialWrapper) : List Value :=
  [.text w.kind.text, .text w.sha256]

/-- The wrappers stand in the history of the account. -/
def WrappersAdded (userId : String) (now : Timestamp) (wrappers : List CredentialWrapper)
    (db db' : Db) : Prop :=
  db'.wrapperHistory.rows = db.wrapperHistory.rows ++
    (unrecorded db userId wrappers).map (CredentialWrapper.row userId now)

/-- The wrappers are recorded behind a guard. -/
def recordWrappers (guard : Db → Prop) [DecidablePred guard] (wrappers : List CredentialWrapper)
    (userId : String) (now : Timestamp) : Statement Db :=
  Db.wrapperHistoryIn.insertOrIgnore
    (fun db _ => if guard db then wrappers.map (CredentialWrapper.row userId now) else [])
    fun w => [[.text w.wrapperKind.text, .text w.wrapperSha256]]

section Wrappers

variable {guard : Db → Prop} [DecidablePred guard] {wrappers : List CredentialWrapper}
  {userId securityStamp : String} {now revisionDate : Timestamp} {db db' : Db} {n : Nat}
  {r : StatementResult}

theorem recordWrappers_gated : (recordWrappers guard wrappers userId now).Gated guard :=
  TableIn.insertOrIgnore_gated fun _ _ hguard => if_neg hguard

theorem insertCredentialWrapperHistory_gated :
    (insertCredentialWrapperHistory wrappers userId now securityStamp revisionDate).Gated
      (AtGeneration userId securityStamp revisionDate) :=
  @recordWrappers_gated (AtGeneration userId securityStamp revisionDate) _ _ _ _

theorem keyedRows_wrappers (hnodup : (wrappers.map CredentialWrapper.sha256).Nodup) :
    KeyedRows (wrappers.map (CredentialWrapper.row userId now)) := by
  refine List.pairwise_map.mpr ((List.pairwise_map.mp hnodup).imp fun hne hc => ?_)
  exact hc.elim (fun hkey => hne (Prod.mk.inj hkey).2) id

/-- **The wrappers that were not recorded yet are recorded.** -/
theorem recordWrappers_ok (hguard : guard db)
    (hnodup : (wrappers.map CredentialWrapper.sha256).Nodup)
    (h : recordWrappers guard wrappers userId now db n = .ok (db', r)) :
    WrappersAdded userId now wrappers db db' ∧
      db' = { db with wrapperHistory := db'.wrapperHistory } ∧
      r.metaChanges = (unrecorded db userId wrappers).length ∧
      r.rows = (unrecorded db userId wrappers).map CredentialWrapper.returned := by
  obtain ⟨T, added, hadded, hT, rfl, hcount, hrows⟩ :=
    TableIn.insertOrIgnore_new (if_pos hguard) (keyedRows_wrappers hnodup) h
  have hnew : added = (unrecorded db userId wrappers).map (CredentialWrapper.row userId now) := by
    rw [hadded, List.filter_map, unrecorded]
    refine congrArg _ (List.filter_congr fun w _ => decide_eq_decide.mpr ?_)
    refine ⟨fun h ⟨v, hv, hid, hsha⟩ => h v hv (Or.inl (Prod.ext hid hsha)), fun h v hv hc => ?_⟩
    exact hc.elim (fun hkey => h ⟨v, hv, (Prod.mk.inj hkey).1, (Prod.mk.inj hkey).2⟩) id
  refine ⟨hT.trans (by rw [hnew]), rfl, ?_, ?_⟩
  · rw [hcount, hnew, List.length_map]
  · rw [hrows, hnew, List.flatMap_map]
    exact List.map_eq_flatMap.symm

theorem insertCredentialWrapperHistory_ok (hat : AtGeneration userId securityStamp revisionDate db)
    (hnodup : (wrappers.map CredentialWrapper.sha256).Nodup)
    (h : insertCredentialWrapperHistory wrappers userId now securityStamp revisionDate db n =
      .ok (db', r)) :
    WrappersAdded userId now wrappers db db' ∧
      db' = { db with wrapperHistory := db'.wrapperHistory } ∧
      r.metaChanges = (unrecorded db userId wrappers).length ∧
      r.rows = (unrecorded db userId wrappers).map CredentialWrapper.returned :=
  @recordWrappers_ok (AtGeneration userId securityStamp revisionDate) _ _ _ _ _ _ _ _ hat hnodup h

end Wrappers

/-! ## The event -/

theorem auditStatement_gated {event : AuditEvent} {id : String} {condition : Db → Nat → Prop}
    [∀ db n, Decidable (condition db n)] {guard : Db → Prop}
    (h : ∀ db n, condition db n → guard db) : (auditStatement event id condition).Gated guard :=
  TableIn.insertSelect_gated fun _ _ hguard => if_neg fun hc => hguard (h _ _ hc)

/-- The event is written. -/
theorem auditStatement_ok {event : AuditEvent} {id : String} {condition : Db → Nat → Prop}
    [∀ db n, Decidable (condition db n)] {db db' : Db} {n : Nat} {r : StatementResult}
    (hcondition : condition db n) (h : auditStatement event id condition db n = .ok (db', r)) :
    db'.auditEvents.rows = db.auditEvents.rows ++ [{ event with id := id }] ∧
      db' = { db with auditEvents := db'.auditEvents } ∧ r.metaChanges = 1 := by
  obtain ⟨T, hT, rfl, hc, hm⟩ := TableIn.insertSelect_ok h
  rw [if_pos hcondition] at hT hc
  exact ⟨hT, rfl, hm.trans hc⟩

end HonoWarden
