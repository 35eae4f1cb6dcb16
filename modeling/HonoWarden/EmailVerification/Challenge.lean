import HonoWarden.Organization.Membership
import HonoWarden.Relational.Lookup
import HonoWarden.Relational.Run

/-!
# Verifying an address by a protocol challenge

Model of `src/repositories/email-verification-repository.ts` with the table of migration 0031.

A session has one challenge at a time: creating another one replaces the row, its consumption mark
included. Consuming a challenge is a batch of five statements. The write of the account and the
audit event are each gated by `changes() = 1` and by the mark the first statement has left, and two
assertions abort the batch when the mark is there and the write is not.

Results:
* **`consumeEmailVerificationChallenge_outcome`**: a call verifies the account, or changes nothing;
* `findEmailVerificationChallenge_consumable`: a challenge that is found can be consumed;
* **`emailVerification_single_use`**: in every run, with any writes of the other tables in between,
  no challenge id and no nonce is consumed twice, and each is consumed before its expiry by the
  actor it was issued to.
-/

namespace HonoWarden

open Relational

/-- `EmailVerificationActor`: a session of an account, its address and its security stamp. -/
structure EmailVerificationActor where
  userId : String
  sessionId : String
  deviceIdentifier : String
  emailNormalized : String
  securityStamp : String
  deriving DecidableEq, Repr

/-- A row of `email_verification_challenges`. -/
structure EmailVerificationChallenge extends EmailVerificationActor where
  id : String
  audience : String
  nonceDigest : String
  createdAt : Timestamp
  expiresAt : Timestamp
  consumedAt : Option Timestamp := none
  verificationMutationId : Option String := none
  deriving DecidableEq, Repr

/-- An upsert of a challenge resolves its conflict on `(user_id, session_id)`, so that constraint
stands as the key and the id as the further one. -/
instance : Keyed EmailVerificationChallenge (String × String) where
  key k := (k.userId, k.sessionId)
  alternate a b := a.id = b.id
  alternate_symm h := h.symm
  decKey _ _ := inferInstance
  decAlternate a b := inferInstanceAs (Decidable (a.id = b.id))

/-- The database, with the challenges. -/
structure EmailVerificationDb extends Db where
  emailVerificationChallenges : Table EmailVerificationChallenge := ∅
  deriving DecidableEq

namespace EmailVerificationDb

abbrev usersIn : TableIn EmailVerificationDb User where
  name := "users"
  get db := db.users
  put db t := { db with users := t }
  get_put _ _ := rfl
  put_get _ := rfl

abbrev auditEventsIn : TableIn EmailVerificationDb AuditEventRow where
  name := "audit_events"
  get db := db.auditEvents
  put db t := { db with auditEvents := t }
  get_put _ _ := rfl
  put_get _ := rfl

abbrev challengesIn : TableIn EmailVerificationDb EmailVerificationChallenge where
  name := "email_verification_challenges"
  get db := db.emailVerificationChallenges
  put db t := { db with emailVerificationChallenges := t }
  get_put _ _ := rfl
  put_get _ := rfl

end EmailVerificationDb

namespace EmailVerificationActor

variable (actor : EmailVerificationActor)

/-- The account of the actor, with its address and stamp. -/
def Account (u : User) : Prop :=
  u.id = actor.userId ∧ u.emailNormalized = actor.emailNormalized ∧
    u.securityStamp = actor.securityStamp ∧ u.disabledAt = none

instance : DecidablePred actor.Account := fun _ => inferInstanceAs (Decidable (_ ∧ _))

/-- The device of the session, not revoked. -/
def Session (d : Device) : Prop :=
  d.userId = actor.userId ∧ d.identifier = actor.deviceIdentifier ∧
    d.sessionId = some actor.sessionId ∧ d.revokedAt = none

instance : DecidablePred actor.Session := fun _ => inferInstanceAs (Decidable (_ ∧ _))

/-- `activeFamilySql`. -/
def Active (db : Db) : Prop :=
  (∃ u ∈ db.users.rows, actor.Account u) ∧ ∃ d ∈ db.devices.rows, actor.Session d

instance (db : Db) : Decidable (actor.Active db) :=
  inferInstanceAs (Decidable ((∃ u ∈ db.users.rows, _) ∧ ∃ d ∈ db.devices.rows, _))

end EmailVerificationActor

/-- The input of `createEmailVerificationChallengeRecord`. -/
structure CreateEmailVerificationChallengeInput where
  actor : EmailVerificationActor
  audience : String
  now : Timestamp
  id : String
  nonceDigest : String
  expiresAt : Timestamp
  deriving DecidableEq, Repr

/-- The row the creation writes; every selected column is one the condition compares. -/
def CreateEmailVerificationChallengeInput.row (input : CreateEmailVerificationChallengeInput) :
    EmailVerificationChallenge where
  toEmailVerificationActor := input.actor
  id := input.id
  audience := input.audience
  nonceDigest := input.nonceDigest
  createdAt := input.now
  expiresAt := input.expiresAt

/-- `createEmailVerificationChallengeRecord`: whether a challenge was created. -/
def createEmailVerificationChallengeRecord (input : CreateEmailVerificationChallengeInput)
    (db : EmailVerificationDb) : EmailVerificationDb × Except Failure Bool :=
  execute ((EmailVerificationDb.challengesIn.upsertRow
      (fun db _ => if input.actor.Active db.toDb then some input.row else none)
      (fun _ excluded => some excluded) fun k => [[.text k.id]]).checked
        (input.nonceDigest.length = 43))
    (fun r => .ok (r.rows.length = 1)) db

/-- The input of `findEmailVerificationChallenge`. -/
structure FindEmailVerificationChallengeInput where
  actor : EmailVerificationActor
  audience : String
  now : Timestamp
  id : String
  deriving DecidableEq, Repr

/-- The condition on the challenge, but for its nonce. -/
def FindEmailVerificationChallengeInput.Finds (input : FindEmailVerificationChallengeInput)
    (db : Db) (k : EmailVerificationChallenge) : Prop :=
  k.id = input.id ∧ k.toEmailVerificationActor = input.actor ∧ k.audience = input.audience ∧
    k.consumedAt = none ∧ input.now < k.expiresAt ∧ k.Active db

instance (input : FindEmailVerificationChallengeInput) (db : Db) :
    DecidablePred (input.Finds db) := fun _ => inferInstanceAs (Decidable (_ ∧ _))

def findEmailVerificationChallenge (input : FindEmailVerificationChallengeInput)
    (db : EmailVerificationDb) : Option EmailVerificationChallenge :=
  db.emailVerificationChallenges.rows.find? fun k => input.Finds db.toDb k

/-- The input of `consumeEmailVerificationChallenge`. -/
structure ConsumeEmailVerificationChallengeInput extends FindEmailVerificationChallengeInput where
  nonceDigest : String
  mutationId : String
  requestId : String
  deriving DecidableEq, Repr

namespace ConsumeEmailVerificationChallengeInput

variable (input : ConsumeEmailVerificationChallengeInput)

def Consumes (db : Db) (k : EmailVerificationChallenge) : Prop :=
  input.Finds db k ∧ k.nonceDigest = input.nonceDigest

instance (db : Db) : DecidablePred (input.Consumes db) := fun _ =>
  inferInstanceAs (Decidable (_ ∧ _))

/-- `marker`. -/
def Marked (db : EmailVerificationDb) : Prop :=
  ∃ k ∈ db.emailVerificationChallenges.rows,
    k.id = input.id ∧ k.verificationMutationId = some input.mutationId

instance (db : EmailVerificationDb) : Decidable (input.Marked db) :=
  inferInstanceAs (Decidable (∃ k ∈ db.emailVerificationChallenges.rows, _))

def consume (k : EmailVerificationChallenge) : EmailVerificationChallenge :=
  { k with consumedAt := some input.now, verificationMutationId := some input.mutationId }

def verify (u : User) : User :=
  { u with
    emailVerifiedAt := some (u.emailVerifiedAt.getD input.now)
    updatedAt := input.now
    revisionDate := max u.revisionDate input.now + 1 }

def auditEvent : AuditEventRow where
  id := input.mutationId
  name := "account.email.verify"
  outcome := "success"
  requestId := input.requestId
  occurredAt := input.now
  actorUserId := some input.actor.userId
  actorDeviceIdentifier := some input.actor.deviceIdentifier
  targetType := some "account"
  targetId := some input.actor.userId
  contextJson := some
    [("method", .text "evp"), ("protocol", .text "draft-hardt-email-verification-02")]

/-- The batch of `consumeEmailVerificationChallenge`. -/
def batch : List (Statement EmailVerificationDb) :=
  [(EmailVerificationDb.challengesIn.updateReturning (fun db _ k => input.Consumes db.toDb k)
      (fun _ => input.consume) fun k => [[.text k.id]]).checked (input.mutationId.length = 36),
    EmailVerificationDb.usersIn.update
      (fun db changes u => changes = 1 ∧ input.actor.Account u ∧ input.Marked db ∧
        ∃ d ∈ db.devices.rows, input.actor.Session d)
      fun _ => input.verify,
    assertThat fun db changes => ¬ (input.Marked db ∧ changes ≠ 1),
    EmailVerificationDb.auditEventsIn.insertSelect fun db changes =>
      if changes = 1 ∧ input.Marked db then [input.auditEvent] else [],
    assertThat fun db _ => ¬ (input.Marked db ∧ ∀ e ∈ db.auditEvents.rows, e.id ≠ input.mutationId)]

/-- The reading of the batch. -/
def interpret (results : List StatementResult) : Except String Bool :=
  if results.length ≠ 5 then .error "Email verification batch returned an invalid result count."
  else .ok ((results.head?.map fun r => r.rows.length) = some 1)

end ConsumeEmailVerificationChallengeInput

/-- `consumeEmailVerificationChallenge`: whether the challenge was consumed. -/
def consumeEmailVerificationChallenge (input : ConsumeEmailVerificationChallengeInput)
    (db : EmailVerificationDb) : EmailVerificationDb × Except Failure Bool :=
  commit input.batch ConsumeEmailVerificationChallengeInput.interpret db

/-- The challenges the cleanup picks: of those that expired before `before`, the first hundred. -/
def expiredEmailVerificationChallenges (before : Timestamp) (db : EmailVerificationDb) :
    List String :=
  (((db.emailVerificationChallenges.rows.filter fun k => k.expiresAt < before).mergeSort
    fun a b => a.expiresAt ≤ b.expiresAt).take 100).map EmailVerificationChallenge.id

/-- `cleanupExpiredEmailVerificationChallenges`. -/
def cleanupExpiredEmailVerificationChallenges (now : Timestamp) (db : EmailVerificationDb) :
    EmailVerificationDb × Except Failure Unit :=
  execute (EmailVerificationDb.challengesIn.delete fun db _ k =>
    k.id ∈ expiredEmailVerificationChallenges (now - 24 * 60 * 60 * 1000) db) (fun _ => .ok ()) db

/-! ## What a call does -/

/-- The call turned `db` into `db'` by consuming its challenge, verifying the account and leaving
its event, and nothing else. -/
structure EmailVerified (input : ConsumeEmailVerificationChallengeInput)
    (db db' : EmailVerificationDb) : Prop where
  challenge : ∃ k ∈ db.emailVerificationChallenges.rows, input.Consumes db.toDb k ∧
    db'.emailVerificationChallenges.rows = updateWhere (fun j => j.id = k.id)
      (fun _ => input.consume k) db.emailVerificationChallenges.rows
  account : ∃ u ∈ db.users.rows, input.actor.Account u ∧
    u.revisionDate < (input.verify u).revisionDate ∧ (input.verify u).emailVerifiedAt ≠ none ∧
    db'.users.rows = updateWhere (fun v => v.id = u.id) (fun _ => input.verify u) db.users.rows
  audit : db'.auditEvents.rows = db.auditEvents.rows ++ [input.auditEvent]
  others : db' =
    { db with
      users := db'.users
      auditEvents := db'.auditEvents
      emailVerificationChallenges := db'.emailVerificationChallenges }

section Consumption

variable {input : ConsumeEmailVerificationChallengeInput} {db : EmailVerificationDb}

/-- The id names one challenge. -/
theorem ConsumeEmailVerificationChallengeInput.consumes_unique {k j : EmailVerificationChallenge}
    (hk : k ∈ db.emailVerificationChallenges.rows) (hj : j ∈ db.emailVerificationChallenges.rows)
    (h : input.Consumes db.toDb k) (h' : j.id = input.id) : j = k :=
  db.emailVerificationChallenges.eq_of_alternate hj hk (h'.trans h.1.1.symm)

/-- The actor names one account. -/
theorem EmailVerificationActor.account_unique {actor : EmailVerificationActor} {users : Table User}
    {u v : User} (hu : u ∈ users.rows) (hv : v ∈ users.rows) (h : actor.Account u)
    (h' : v.id = actor.userId) : v = u :=
  users.eq_of_key hv hu (h'.trans h.1.symm)

/-- Nothing matches and no mark is there: every statement is idle. -/
theorem consumeEmailVerificationChallenge_idle
    (hnone : ∀ k ∈ db.emailVerificationChallenges.rows, ¬ input.Consumes db.toDb k)
    (hmark : ¬ input.Marked db) :
    runBatch input.batch db = .ok (db, [{}, {}, { rows := [[.integer 1]] }, {},
      { rows := [[.integer 1]] }]) := by
  have hmiss : EmailVerificationDb.challengesIn.updateReturning
      (fun db _ k => input.Consumes db.toDb k) (fun _ => input.consume)
        (fun k => [[.text k.id]]) db 0 = .ok (db, {}) := TableIn.updateReturning_idle _ hnone
  have hconsume : ((EmailVerificationDb.challengesIn.updateReturning
      (fun db _ k => input.Consumes db.toDb k) (fun _ => input.consume)
        fun k => [[.text k.id]]).checked (input.mutationId.length = 36)) db 0 = .ok (db, {}) := by
    unfold Statement.checked
    rw [hmiss]
    exact if_pos fun h => absurd h (Nat.lt_irrefl 0)
  have haccount : ∀ u ∈ db.users.rows, ¬ ((0 : Nat) = 1 ∧ input.actor.Account u ∧
      input.Marked db ∧ ∃ d ∈ db.devices.rows, input.actor.Session d) :=
    fun u _ h => absurd h.1 (by decide)
  refine runFrom_cons_ok hconsume (runFrom_cons_ok (TableIn.update_idle _ haccount) ?_)
  have hassert : assertThat (fun db changes => ¬ (input.Marked db ∧ changes ≠ 1)) db 0 =
      .ok (db, { changes := 0, rows := [[.integer 1]] }) := if_pos fun h => hmark h.1
  refine runFrom_cons_ok hassert ?_
  refine runFrom_cons_ok (TableIn.insertSelect_idle _ (if_neg fun h => hmark h.2)) ?_
  exact runFrom_cons_ok (if_pos fun h => hmark h.1) rfl

/-- A mark without a write of the account aborts the batch. -/
theorem consumeEmailVerificationChallenge_marked
    (hnone : ∀ k ∈ db.emailVerificationChallenges.rows, ¬ input.Consumes db.toDb k)
    (hmark : input.Marked db) : ∀ s rs, runBatch input.batch db ≠ .ok (s, rs) := by
  intro s rs hrun
  obtain ⟨s₁, consume, rs₁, hst₁, hrun₁, rfl⟩ := runFrom_cons hrun
  obtain ⟨s₂, account, rs₂, hst₂, hrun₂, rfl⟩ := runFrom_cons hrun₁
  obtain ⟨s₃, asserted, rs₃, hst₃, -, rfl⟩ := runFrom_cons hrun₂
  obtain ⟨T, hT, rfl, hchanges, -⟩ := TableIn.updateReturning_ok (Statement.checked_ok hst₁).1
  have hrows : T.rows = db.emailVerificationChallenges.rows := hT.trans (updateWhere_eq_self hnone)
  have hzero : consume.changes = 0 := by
    rw [hchanges]
    exact List.countP_eq_zero.mpr fun k hk => by simpa using hnone k hk
  obtain ⟨U, hU, rfl, hcount, -⟩ := TableIn.update_ok hst₂
  rw [hzero] at hcount
  have haccount : account.changes = 0 := by
    rw [hcount]
    exact List.countP_eq_zero.mpr fun u _ => by simp
  refine (assertThat_ok hst₃).1 ⟨?_, by rw [haccount]; decide⟩
  obtain ⟨k, hk, hid⟩ := hmark
  exact ⟨k, hrows ▸ hk, hid⟩

/-- A consumed challenge bears the mark, whatever else the batch has written. -/
theorem consumed_marked {k : EmailVerificationChallenge} {T : Table EmailVerificationChallenge}
    (hk : k ∈ db.emailVerificationChallenges.rows) (hconsumes : input.Consumes db.toDb k)
    (hT : T.rows = updateWhere (fun j => input.Consumes db.toDb j) input.consume
      db.emailVerificationChallenges.rows) (users : Table User) (events : Table AuditEventRow) :
    input.Marked
      { db with users := users, auditEvents := events, emailVerificationChallenges := T } := by
  refine ⟨input.consume k, ?_, hconsumes.1.1, rfl⟩
  change _ ∈ T.rows
  rw [hT]
  exact mem_updateWhere_of_hit hk hconsumes

/-- The family of a consumed challenge names one account. -/
theorem consumed_account {k : EmailVerificationChallenge} (hconsumes : input.Consumes db.toDb k)
    {mark : Prop} [Decidable mark] (hmark : mark) :
    (∃ u ∈ db.users.rows, input.actor.Account u) ∧
      (∃ d ∈ db.devices.rows, input.actor.Session d) ∧
      db.users.rows.countP (fun u => (1 : Nat) = 1 ∧ input.actor.Account u ∧ mark ∧
        ∃ d ∈ db.devices.rows, input.actor.Session d) = 1 := by
  have hactive := hconsumes.1.2.2.2.2.2
  rw [hconsumes.1.2.1] at hactive
  obtain ⟨⟨u, hu, haccount⟩, hsession⟩ := hactive
  refine ⟨⟨u, hu, haccount⟩, hsession, ?_⟩
  exact (db.users.countP_eq_one_iff input.actor.userId fun v h => h.2.1.1).mpr
    ⟨u, hu, rfl, haccount, hmark, hsession⟩

/-- **A batch that consumes its challenge and commits has verified the account.** -/
theorem consumeEmailVerificationChallenge_batch {k : EmailVerificationChallenge}
    (hk : k ∈ db.emailVerificationChallenges.rows) (hconsumes : input.Consumes db.toDb k)
    {s : EmailVerificationDb} {rs : List StatementResult}
    (hrun : runBatch input.batch db = .ok (s, rs)) :
    ConsumeEmailVerificationChallengeInput.interpret rs = .ok true ∧ EmailVerified input db s := by
  obtain ⟨s₁, consume, rs₁, hst₁, hrun₁, rfl⟩ := runFrom_cons hrun
  obtain ⟨s₂, account, rs₂, hst₂, hrun₂, rfl⟩ := runFrom_cons hrun₁
  obtain ⟨s₃, asserted, rs₃, hst₃, hrun₃, rfl⟩ := runFrom_cons hrun₂
  obtain ⟨s₄, audit, rs₄, hst₄, hrun₄, rfl⟩ := runFrom_cons hrun₃
  obtain ⟨s₅, audited, rs₅, hst₅, hrun₅, rfl⟩ := runFrom_cons hrun₄
  obtain ⟨rfl, rfl⟩ := runFrom_nil hrun₅
  -- The challenge is the one row that is consumed, and bears the mark afterwards.
  obtain ⟨T, hT, rfl, hchanges, -, hreturned⟩ :=
    TableIn.updateReturning_ok (Statement.checked_ok hst₁).1
  have hone : consume.changes = 1 := by
    rw [hchanges]
    exact (countP_eq_one_iff_of_unique db.emailVerificationChallenges.keyed
      fun a _ b _ ha hb => Or.inr (ha.1.1.trans hb.1.1.symm)).mpr ⟨k, hk, hconsumes⟩
  have hmark := consumed_marked hk hconsumes hT
  have hrows : T.rows = updateWhere (fun j => j.id = k.id) (fun _ => input.consume k)
      db.emailVerificationChallenges.rows := by
    rw [hT]
    refine List.map_congr_left fun j hj => ?_
    by_cases hid : j.id = k.id
    · obtain rfl := input.consumes_unique hk hj hconsumes (hid.trans hconsumes.1.1)
      rw [if_pos hconsumes, if_pos rfl]
    · rw [if_neg fun h => hid (h.1.1.trans hconsumes.1.1.symm), if_neg hid]
  -- Its family names one account, which is written.
  obtain ⟨⟨u, hu, haccount⟩, hsession, hcount⟩ :=
    consumed_account hconsumes (hmark db.users db.auditEvents)
  obtain ⟨U, hU, rfl, hwritten, -⟩ := TableIn.update_ok hst₂
  rw [hone] at hwritten hU
  have hwrittenOne : account.changes = 1 := hwritten.trans hcount
  have hUrows : U.rows = updateWhere (fun v => v.id = u.id) (fun _ => input.verify u)
      db.users.rows := by
    rw [hU]
    refine List.map_congr_left fun v hv => ?_
    by_cases hid : v.id = u.id
    · obtain rfl := EmailVerificationActor.account_unique hu hv haccount (hid.trans haccount.1)
      rw [if_pos ⟨rfl, haccount, hmark _ _, hsession⟩, if_pos rfl]
    · rw [if_neg fun h => hid (h.2.1.1.trans haccount.1.symm), if_neg hid]
  -- The event is left.
  obtain ⟨-, rfl, hasserted⟩ := assertThat_ok hst₃
  obtain ⟨A, hA, rfl, -, -⟩ := TableIn.insertSelect_ok hst₄
  rw [hasserted, hwrittenOne, if_pos ⟨rfl, hmark _ _⟩] at hA
  obtain ⟨-, rfl, -⟩ := assertThat_ok hst₅
  refine ⟨?_, ⟨k, hk, hconsumes, hrows⟩, ⟨u, hu, haccount, ?_, Option.some_ne_none _, hUrows⟩,
    hA, rfl⟩
  · have hselected : (db.emailVerificationChallenges.rows.filter
        fun k => input.Consumes db.toDb k).length = 1 := by
      rw [← List.countP_eq_length_filter, ← hchanges, hone]
    obtain ⟨j, hj⟩ := List.length_eq_one_iff.mp hselected
    have hlength : consume.rows.length = 1 := by
      rw [hreturned]
      change (List.flatMap _ (List.filter _ db.emailVerificationChallenges.rows)).length = 1
      rw [hj]
      rfl
    simp [ConsumeEmailVerificationChallengeInput.interpret, hlength]
  · exact Nat.lt_succ_of_le (Nat.le_max_left _ _)

/-- A batch that consumes its challenge commits, under a new mutation id. -/
theorem consumeEmailVerificationChallenge_commits {k : EmailVerificationChallenge}
    (hk : k ∈ db.emailVerificationChallenges.rows) (hconsumes : input.Consumes db.toDb k)
    (hlength : input.mutationId.length = 36)
    (hfresh : ∀ e ∈ db.auditEvents.rows, e.id ≠ input.mutationId) :
    ∃ s rs, runBatch input.batch db = .ok (s, rs) := by
  obtain ⟨T, consume, hst₁, hT, hchanges, -⟩ := TableIn.updateReturning_total
    EmailVerificationDb.challengesIn (s := db) (fun db _ k => input.Consumes db.toDb k)
    (fun _ => input.consume) 0 (fun k => [[.text k.id]]) fun _ => ⟨rfl, fun _ h => h⟩
  have hone : consume.changes = 1 := by
    rw [hchanges]
    exact (countP_eq_one_iff_of_unique db.emailVerificationChallenges.keyed
      fun a _ b _ ha hb => Or.inr (ha.1.1.trans hb.1.1.symm)).mpr ⟨k, hk, hconsumes⟩
  have hmark := consumed_marked hk hconsumes hT
  obtain ⟨-, -, hcount⟩ := consumed_account hconsumes (hmark db.users db.auditEvents)
  obtain ⟨U, account, hst₂, -, hwritten, -⟩ := TableIn.updateReturning_total
    EmailVerificationDb.usersIn (s := { db with emailVerificationChallenges := T })
    (fun db changes u => changes = 1 ∧ input.actor.Account u ∧ input.Marked db ∧
      ∃ d ∈ db.devices.rows, input.actor.Session d)
    (fun _ => input.verify) consume.changes (fun _ => []) fun _ => ⟨rfl, fun _ h => h⟩
  rw [hone] at hwritten
  have hwrittenOne : account.changes = 1 := hwritten.trans hcount
  have hkeyed : KeyedRows (db.auditEvents.rows ++ [input.auditEvent]) :=
    append_keyed_iff.mpr ⟨db.auditEvents.keyed, fun e he hconflict =>
      hconflict.elim (hfresh e he) False.elim⟩
  have hchecked : ((EmailVerificationDb.challengesIn.updateReturning
      (fun db _ k => input.Consumes db.toDb k) (fun _ => input.consume)
        fun k => [[.text k.id]]).checked (input.mutationId.length = 36)) db 0 =
      .ok ({ db with emailVerificationChallenges := T }, consume) := by
    unfold Statement.checked
    rw [hst₁]
    exact if_pos fun _ => hlength
  let written : EmailVerificationDb := { db with users := U, emailVerificationChallenges := T }
  have hassert : assertThat (fun db changes => ¬ (input.Marked db ∧ changes ≠ 1)) written
      account.changes = .ok (written, { changes := account.changes, rows := [[.integer 1]] }) :=
    if_pos fun h => h.2 hwrittenOne
  have hinsert : EmailVerificationDb.auditEventsIn.insertSelect (fun db changes =>
      if changes = 1 ∧ input.Marked db then [input.auditEvent] else [])
      (fun _ => []) written account.changes =
      .ok ({ written with auditEvents := ⟨_, hkeyed⟩ }, { changes := 1, metaChanges := 1 }) :=
    TableIn.insertSelect_row _ (if_pos ⟨hwrittenOne, hmark U db.auditEvents⟩) hkeyed
  have haudited : assertThat (fun db _ => ¬ (input.Marked db ∧
      ∀ e ∈ db.auditEvents.rows, e.id ≠ input.mutationId))
      { written with auditEvents := ⟨_, hkeyed⟩ } 1 = .ok ({ written with
        auditEvents := ⟨_, hkeyed⟩ }, { changes := 1, rows := [[.integer 1]] }) := by
    refine if_pos fun h => ?_
    exact h.2 input.auditEvent (List.mem_append_right _ List.mem_cons_self) rfl
  exact ⟨_, _, runFrom_cons_ok hchecked (runFrom_cons_ok hst₂ (runFrom_cons_ok hassert
    (runFrom_cons_ok hinsert (runFrom_cons_ok haudited rfl))))⟩

/-- **A consumption verifies the account, or changes nothing.** -/
theorem consumeEmailVerificationChallenge_outcome (input : ConsumeEmailVerificationChallengeInput)
    (db : EmailVerificationDb) :
    ((consumeEmailVerificationChallenge input db).2 = .ok true ∧
      EmailVerified input db (consumeEmailVerificationChallenge input db).1) ∨
    ((consumeEmailVerificationChallenge input db).2 ≠ .ok true ∧
      (consumeEmailVerificationChallenge input db).1 = db) := by
  unfold consumeEmailVerificationChallenge
  rcases commit_cases input.batch ConsumeEmailVerificationChallengeInput.interpret db with
    ⟨hsame, e, he⟩ | ⟨s, rs, hrun, hs, hresult⟩
  · refine Or.inr ⟨fun h => ?_, hsame⟩
    rw [he] at h
    cases h
  · by_cases hexists : ∃ k ∈ db.emailVerificationChallenges.rows, input.Consumes db.toDb k
    · obtain ⟨k, hk, hconsumes⟩ := hexists
      obtain ⟨hread, hverified⟩ := consumeEmailVerificationChallenge_batch hk hconsumes hrun
      rw [hs, hresult, hread]
      exact Or.inl ⟨rfl, hverified⟩
    · push Not at hexists
      by_cases hmark : input.Marked db
      · exact absurd hrun (consumeEmailVerificationChallenge_marked hexists hmark s rs)
      · rw [consumeEmailVerificationChallenge_idle hexists hmark, Except.ok.injEq,
          Prod.mk.injEq] at hrun
        obtain ⟨rfl, rfl⟩ := hrun
        rw [hs, hresult]
        refine Or.inr ⟨fun h => ?_, rfl⟩
        rw [mapError_eq_ok] at h
        simp [ConsumeEmailVerificationChallengeInput.interpret] at h

/-- **A challenge that is found can be consumed**, with its nonce and a new mutation id. -/
theorem findEmailVerificationChallenge_consumable {k : EmailVerificationChallenge}
    (hfound : findEmailVerificationChallenge input.toFindEmailVerificationChallengeInput db =
      some k) (hnonce : input.nonceDigest = k.nonceDigest) (hlength : input.mutationId.length = 36)
    (hfresh : ∀ e ∈ db.auditEvents.rows, e.id ≠ input.mutationId) :
    (consumeEmailVerificationChallenge input db).2 = .ok true := by
  have hk := List.mem_of_find?_eq_some hfound
  have hconsumes : input.Consumes db.toDb k :=
    ⟨by simpa using List.find?_some hfound, hnonce.symm⟩
  obtain ⟨s, rs, hrun⟩ := consumeEmailVerificationChallenge_commits hk hconsumes hlength hfresh
  rw [consumeEmailVerificationChallenge, commit_of_run hrun,
    (consumeEmailVerificationChallenge_batch hk hconsumes hrun).1]
  rfl

end Consumption


/-! ## Creation -/

/-- The rows after the upsert of a challenge: the new one in place of that of its session. -/
theorem mem_upsert_challenge {rows : List EmailVerificationChallenge}
    {new k : EmailVerificationChallenge}
    (hk : k ∈ (upsert (fun _ excluded => some excluded) rows new).1) :
    k = new ∨ k ∈ rows ∧ Keyed.key k ≠ Keyed.key new := by
  rcases upsert_cases (fun _ excluded => some excluded) rows new with
    ⟨habsent, hrows⟩ | ⟨old, -, -, ⟨hnone, -⟩ | ⟨row, hsome, hrows⟩⟩
  · rw [hrows, List.mem_append, List.mem_singleton] at hk
    exact hk.symm.imp id fun h => ⟨h, habsent k h⟩
  · cases hnone
  · obtain rfl := Option.some.inj hsome
    rw [hrows] at hk
    exact (mem_upsert_update hk).symm

theorem upsert_challenge_length {rows : List EmailVerificationChallenge}
    {new : EmailVerificationChallenge} :
    (upsert (fun _ excluded => some excluded) rows new).2.length = 1 := by
  rcases upsert_cases (fun _ excluded => some excluded) rows new with
    ⟨-, hrows⟩ | ⟨old, -, -, ⟨hnone, -⟩ | ⟨row, -, hrows⟩⟩
  · rw [hrows]
    rfl
  · cases hnone
  · rw [hrows]
    rfl

/-- **A creation replaces the challenge of its session, or changes nothing.** -/
theorem createEmailVerificationChallengeRecord_outcome
    (input : CreateEmailVerificationChallengeInput) (db : EmailVerificationDb) :
    ((createEmailVerificationChallengeRecord input db).2 = .ok true ∧
      input.actor.Active db.toDb ∧ ∃ T : Table EmailVerificationChallenge,
        (createEmailVerificationChallengeRecord input db).1 =
          { db with emailVerificationChallenges := T } ∧
        ∀ k ∈ T.rows, k = input.row ∨
          k ∈ db.emailVerificationChallenges.rows ∧ Keyed.key k ≠ Keyed.key input.row) ∨
    ((createEmailVerificationChallengeRecord input db).2 ≠ .ok true ∧
      (createEmailVerificationChallengeRecord input db).1 = db) := by
  unfold createEmailVerificationChallengeRecord
  rcases execute_cases _ _ db with ⟨hsame, e, he⟩ | ⟨s, r, hrun, hdb, hresult⟩
  · refine Or.inr ⟨fun h => ?_, hsame⟩
    rw [he] at h
    cases h
  · rw [hdb, hresult]
    have hupsert := (Statement.checked_ok hrun).1
    by_cases hactive : input.actor.Active db.toDb
    · obtain ⟨T, hT, rfl, -, -, hrows⟩ := TableIn.upsertRow_some (if_pos hactive) hupsert
      refine Or.inl ⟨?_, hactive, T, rfl, fun k hk => ?_⟩
      · have hone : (upsert (fun _ excluded => some excluded)
            db.emailVerificationChallenges.rows input.row).2.length = 1 := upsert_challenge_length
        obtain ⟨row, hrow⟩ := List.length_eq_one_iff.mp hone
        have hlength : r.rows.length = 1 := by
          rw [hrows]
          change (List.flatMap _ (upsert _ db.emailVerificationChallenges.rows input.row).2).length
            = 1
          rw [hrow]
          rfl
        simp [hlength, Except.mapError]
      · rw [hT] at hk
        exact mem_upsert_challenge hk
    · simp only [TableIn.upsertRow, if_neg hactive, Except.ok.injEq, Prod.mk.injEq] at hupsert
      obtain ⟨rfl, rfl⟩ := hupsert
      refine Or.inr ⟨fun h => ?_, rfl⟩
      cases h

/-! ## Runs -/

/-- A call on the challenges, or a write of the other tables: of sessions, addresses, stamps,
accounts. -/
inductive ChallengeStep where
  | create (input : CreateEmailVerificationChallengeInput)
  | consume (input : ConsumeEmailVerificationChallengeInput)
  | cleanup (now : Timestamp)
  | surroundings (write : Db → Db)

/-- The database, the challenges as they were issued, and the consumptions that succeeded. -/
structure ChallengeState where
  db : EmailVerificationDb := {}
  issuances : List EmailVerificationChallenge := []
  consumptions : List ConsumeEmailVerificationChallengeInput := []

namespace ChallengeStep

/-- A deleted account takes its challenges along (`ON DELETE CASCADE`). -/
def cascade (db : EmailVerificationDb) : EmailVerificationDb :=
  (EmailVerificationDb.challengesIn.nestedDelete
    (fun k => ¬ ∃ u ∈ db.users.rows, u.id = k.userId) db).1

def exec : ChallengeStep → ChallengeState → ChallengeState
  | create input, s =>
    let out := createEmailVerificationChallengeRecord input s.db
    { s with
      db := out.1
      issuances := if out.2 = .ok true then input.row :: s.issuances else s.issuances }
  | consume input, s =>
    let out := consumeEmailVerificationChallenge input s.db
    { s with
      db := out.1
      consumptions := if out.2 = .ok true then input :: s.consumptions else s.consumptions }
  | cleanup now, s => { s with db := (cleanupExpiredEmailVerificationChallenges now s.db).1 }
  | surroundings write, s => { s with db := cascade { s.db with toDb := write s.db.toDb } }

/-- A new challenge has a new id and a new nonce. -/
def draws : ChallengeStep → List String
  | create input => [input.id, input.nonceDigest]
  | _ => []

end ChallengeStep

def emailVerification : System ChallengeState ChallengeStep String :=
  .ofFunction ChallengeStep.exec ChallengeStep.draws

/-- The challenge as it was issued. -/
def EmailVerificationChallenge.issued (k : EmailVerificationChallenge) :
    EmailVerificationChallenge :=
  { k with consumedAt := none, verificationMutationId := none }

/-- What a step makes of the challenges: each row is a new one, or was there and stays consumed. -/
def ChallengesKept (new : List EmailVerificationChallenge)
    (rows rows' : List EmailVerificationChallenge) : Prop :=
  ∀ k' ∈ rows', k' ∈ new ∨
    ∃ k ∈ rows, k'.issued = k.issued ∧ (k.consumedAt ≠ none → k'.consumedAt ≠ none)

theorem ChallengesKept.of_subset {new rows rows' : List EmailVerificationChallenge}
    (h : ∀ k ∈ rows', k ∈ rows) : ChallengesKept new rows rows' :=
  fun k hk => Or.inr ⟨k, h k hk, rfl, id⟩

section Steps

variable {db : EmailVerificationDb}

/-- A creation keeps the other challenges, and its own if it is new. -/
theorem create_challengesKept (input : CreateEmailVerificationChallengeInput) :
    ChallengesKept
      (if (createEmailVerificationChallengeRecord input db).2 = .ok true then [input.row] else [])
      db.emailVerificationChallenges.rows
      (createEmailVerificationChallengeRecord input db).1.emailVerificationChallenges.rows := by
  rcases createEmailVerificationChallengeRecord_outcome input db with
    ⟨hok, -, T, hT, hrows⟩ | ⟨hfailed, hsame⟩
  · rw [if_pos hok, hT]
    intro k hk
    rcases hrows k hk with rfl | ⟨h, -⟩
    · exact Or.inl List.mem_cons_self
    · exact Or.inr ⟨k, h, rfl, id⟩
  · rw [hsame]
    exact .of_subset fun _ h => h

theorem consume_challengesKept (input : ConsumeEmailVerificationChallengeInput) :
    ChallengesKept [] db.emailVerificationChallenges.rows
      (consumeEmailVerificationChallenge input db).1.emailVerificationChallenges.rows := by
  rcases consumeEmailVerificationChallenge_outcome input db with ⟨-, h⟩ | ⟨-, hsame⟩
  · obtain ⟨k, hk, hconsumes, hT⟩ := h.challenge
    rw [hT]
    intro k' hk'
    rcases mem_updateWhere_cases hk' with ⟨hk', -⟩ | ⟨j, hj, hid, rfl⟩
    · exact Or.inr ⟨k', hk', rfl, id⟩
    · obtain rfl := input.consumes_unique hk hj hconsumes (hid.trans hconsumes.1.1)
      exact Or.inr ⟨j, hj, rfl, fun _ => Option.some_ne_none _⟩
  · rw [hsame]
    exact .of_subset fun _ h => h

theorem cleanup_challengesKept (now : Timestamp) :
    ChallengesKept [] db.emailVerificationChallenges.rows
      (cleanupExpiredEmailVerificationChallenges now db).1.emailVerificationChallenges.rows := by
  unfold cleanupExpiredEmailVerificationChallenges
  rcases execute_cases _ _ db with ⟨hsame, -⟩ | ⟨s, r, hrun, hdb, -⟩
  · rw [hsame]
    exact .of_subset fun _ h => h
  · rw [hdb]
    obtain ⟨T, hT, rfl, -⟩ := TableIn.delete_ok hrun
    refine .of_subset fun k hk => ?_
    change k ∈ T.rows at hk
    rw [hT] at hk
    exact (mem_deleteWhere.mp hk).1

theorem cascade_challengesKept :
    ChallengesKept [] db.emailVerificationChallenges.rows
      (ChallengeStep.cascade db).emailVerificationChallenges.rows := by
  obtain ⟨T, hs, hT⟩ := TableIn.nestedDelete_eq EmailVerificationDb.challengesIn
    (fun k => ¬ ∃ u ∈ db.users.rows, u.id = k.userId) db
  refine .of_subset fun k hk => ?_
  unfold ChallengeStep.cascade at hk
  rw [hs] at hk
  change k ∈ T.rows at hk
  rw [hT] at hk
  exact (mem_deleteWhere.mp hk).1

end Steps

/-- The challenges a step issues. -/
def ChallengeStep.issues : ChallengeStep → EmailVerificationDb → List EmailVerificationChallenge
  | create input, db =>
    if (createEmailVerificationChallengeRecord input db).2 = .ok true then [input.row] else []
  | _, _ => []

/-- **Every step keeps the challenges.** -/
theorem ChallengeStep.exec_challengesKept (l : ChallengeStep) (s : ChallengeState) :
    ChallengesKept (l.issues s.db) s.db.emailVerificationChallenges.rows
      (l.exec s).db.emailVerificationChallenges.rows := by
  cases l with
  | create input => exact create_challengesKept input
  | consume input => exact consume_challengesKept input
  | cleanup now => exact cleanup_challengesKept now
  | surroundings write =>
    exact @cascade_challengesKept { s.db with toDb := write s.db.toDb }

theorem ChallengeStep.exec_issuances (l : ChallengeStep) (s : ChallengeState) :
    (l.exec s).issuances = l.issues s.db ++ s.issuances := by
  cases l with
  | create input =>
    dsimp only [exec, issues]
    split <;> rfl
  | consume input => rfl
  | cleanup now => rfl
  | surroundings write => rfl

/-- A step issues what it draws. -/
theorem ChallengeStep.mem_issues {l : ChallengeStep} {db : EmailVerificationDb}
    {k : EmailVerificationChallenge} (h : k ∈ l.issues db) :
    k.issued = k ∧ l.draws = [k.id, k.nonceDigest] := by
  cases l with
  | create input =>
    dsimp only [issues] at h
    split at h
    · obtain rfl := List.mem_singleton.mp h
      exact ⟨rfl, rfl⟩
    · cases h
  | consume input => cases h
  | cleanup now => cases h
  | surroundings write => cases h

/-- The consumption is of a challenge issued to the same actor, for the same audience, under the
same nonce, and not expired. -/
def ConsumeEmailVerificationChallengeInput.Consumed
    (input : ConsumeEmailVerificationChallengeInput) (k : EmailVerificationChallenge) : Prop :=
  k.id = input.id ∧ k.nonceDigest = input.nonceDigest ∧ k.toEmailVerificationActor = input.actor ∧
    k.audience = input.audience ∧ input.now < k.expiresAt

/-- What every run keeps. -/
structure ChallengesSafe (c : Config ChallengeState String) : Prop where
  /-- Ids and nonces come from the draws, and no two challenges share a nonce. -/
  drawn : ∀ k ∈ c.state.db.emailVerificationChallenges.rows,
    k.id ∈ c.issued ∧ k.nonceDigest ∈ c.issued
  nonces : ∀ a ∈ c.state.db.emailVerificationChallenges.rows,
    ∀ b ∈ c.state.db.emailVerificationChallenges.rows, a.nonceDigest = b.nonceDigest → a = b
  issued : ∀ k ∈ c.state.db.emailVerificationChallenges.rows, k.issued ∈ c.state.issuances
  consumed : ∀ input ∈ c.state.consumptions, ∃ k ∈ c.state.issuances, input.Consumed k
  ids_nodup : (c.state.consumptions.map fun input => input.id).Nodup
  nonces_nodup : (c.state.consumptions.map fun input => input.nonceDigest).Nodup
  /-- What was consumed is not to be had again. -/
  spent : ∀ input ∈ c.state.consumptions, (input.id ∈ c.issued ∧ input.nonceDigest ∈ c.issued) ∧
    ∀ k ∈ c.state.db.emailVerificationChallenges.rows,
      k.id = input.id ∨ k.nonceDigest = input.nonceDigest → k.consumedAt ≠ none

section Safety

variable {c c' : Config ChallengeState String} {l : ChallengeStep}

/-- A row of the next state, by the row it comes from. -/
theorem ChallengesSafe.next_row (hnext : emailVerification.Next c l c')
    {k' : EmailVerificationChallenge}
    (hk' : k' ∈ c'.state.db.emailVerificationChallenges.rows) :
    (k' ∈ l.issues c.state.db ∧ k'.id ∉ c.issued ∧ k'.nonceDigest ∉ c.issued) ∨
      ∃ k ∈ c.state.db.emailVerificationChallenges.rows, k'.issued = k.issued ∧
        (k.consumedAt ≠ none → k'.consumedAt ≠ none) := by
  have hstate : c'.state = l.exec c.state := hnext.step
  rw [hstate] at hk'
  refine (l.exec_challengesKept c.state k' hk').imp_left fun hissued => ?_
  have hdraws : emailVerification.draws l = [k'.id, k'.nonceDigest] :=
    (ChallengeStep.mem_issues hissued).2
  have hfresh := hnext.fresh
  rw [hdraws] at hfresh
  exact ⟨hissued, hfresh _ List.mem_cons_self,
    hfresh _ (List.mem_cons_of_mem _ List.mem_cons_self)⟩

theorem EmailVerificationChallenge.issued_id {k j : EmailVerificationChallenge}
    (h : k.issued = j.issued) : k.id = j.id := by
  have hid := congrArg EmailVerificationChallenge.id h
  exact hid

theorem EmailVerificationChallenge.issued_nonceDigest {k j : EmailVerificationChallenge}
    (h : k.issued = j.issued) : k.nonceDigest = j.nonceDigest := by
  have hnonce := congrArg EmailVerificationChallenge.nonceDigest h
  exact hnonce

/-- What was consumed stays spent. -/
theorem ChallengesSafe.spent_next (h : ChallengesSafe c) (hnext : emailVerification.Next c l c')
    {input : ConsumeEmailVerificationChallengeInput} (hinput : input ∈ c.state.consumptions) :
    (input.id ∈ c'.issued ∧ input.nonceDigest ∈ c'.issued) ∧
      ∀ k ∈ c'.state.db.emailVerificationChallenges.rows,
        k.id = input.id ∨ k.nonceDigest = input.nonceDigest → k.consumedAt ≠ none := by
  obtain ⟨⟨hid, hnonce⟩, hspent⟩ := h.spent input hinput
  refine ⟨⟨hnext.issued_subset _ hid, hnext.issued_subset _ hnonce⟩, fun k' hk' hsame => ?_⟩
  rcases ChallengesSafe.next_row hnext hk' with ⟨-, hfresh, hfresh'⟩ | ⟨k, hk, hissued, hkeep⟩
  · rcases hsame with hsame | hsame
    · exact absurd (hsame ▸ hid) hfresh
    · exact absurd (hsame ▸ hnonce) hfresh'
  · refine hkeep (hspent k hk ?_)
    rw [← EmailVerificationChallenge.issued_id hissued,
      ← EmailVerificationChallenge.issued_nonceDigest hissued]
    exact hsame

/-- **A consumption that succeeds** is of a challenge that was issued to its actor and not consumed
before, and that stays spent. -/
theorem ChallengesSafe.consumed_now (h : ChallengesSafe c)
    {input : ConsumeEmailVerificationChallengeInput}
    (hok : (consumeEmailVerificationChallenge input c.state.db).2 = .ok true) :
    (∃ k ∈ c.state.issuances, input.Consumed k) ∧
      (input.id ∈ c.issued ∧ input.nonceDigest ∈ c.issued) ∧
      (∀ other ∈ c.state.consumptions,
        other.id ≠ input.id ∧ other.nonceDigest ≠ input.nonceDigest) ∧
      ∀ k ∈ (consumeEmailVerificationChallenge input
          c.state.db).1.emailVerificationChallenges.rows,
        k.id = input.id ∨ k.nonceDigest = input.nonceDigest → k.consumedAt ≠ none := by
  obtain ⟨-, hverified⟩ := (consumeEmailVerificationChallenge_outcome input
    c.state.db).resolve_right fun hfailed => hfailed.1 hok
  obtain ⟨k, hk, hconsumes, hT⟩ := hverified.challenge
  have hid : k.id = input.id := hconsumes.1.1
  have hnonce : k.nonceDigest = input.nonceDigest := hconsumes.2
  have hunconsumed : k.consumedAt = none := hconsumes.1.2.2.2.1
  refine ⟨⟨k.issued, h.issued k hk, hid, hnonce, hconsumes.1.2.1, hconsumes.1.2.2.1,
    hconsumes.1.2.2.2.2.1⟩, hid ▸ hnonce ▸ h.drawn k hk, fun other hother => ?_, ?_⟩
  · have hspent := (h.spent other hother).2 k hk
    refine ⟨fun hsame => ?_, fun hsame => ?_⟩
    · exact hspent (Or.inl (hid.trans hsame.symm)) hunconsumed
    · exact hspent (Or.inr (hnonce.trans hsame.symm)) hunconsumed
  · rw [hT]
    intro j' hj' hsame
    rcases mem_updateWhere_cases hj' with ⟨hj, hmiss⟩ | ⟨j, -, -, rfl⟩
    · rcases hsame with hsame | hsame
      · exact absurd (hsame.trans hid.symm) hmiss
      · exact absurd (congrArg _ (h.nonces j' hj k hk (hsame.trans hnonce.symm))) hmiss
    · exact Option.some_ne_none _

/-- The consumptions after a step. -/
theorem ChallengeStep.consumptions_cases (l : ChallengeStep) (s : ChallengeState) :
    (l.exec s).consumptions = s.consumptions ∨
      ∃ input, l = .consume input ∧ (consumeEmailVerificationChallenge input s.db).2 = .ok true ∧
        (l.exec s).consumptions = input :: s.consumptions := by
  cases l with
  | consume input =>
    dsimp only [exec]
    split
    · rename_i hok
      exact Or.inr ⟨input, rfl, hok, rfl⟩
    · exact Or.inl rfl
  | create input => exact Or.inl rfl
  | cleanup now => exact Or.inl rfl
  | surroundings write => exact Or.inl rfl

/-- **One step.** -/
theorem challengesSafe_next (hnext : emailVerification.Next c l c') (h : ChallengesSafe c) :
    ChallengesSafe c' := by
  have hstate : c'.state = l.exec c.state := hnext.step
  have hissuances : c'.state.issuances = l.issues c.state.db ++ c.state.issuances := by
    rw [hstate, l.exec_issuances]
  have hold : ∀ k ∈ c.state.issuances, k ∈ c'.state.issuances := fun k hk => by
    rw [hissuances]
    exact List.mem_append_right _ hk
  have hrow : ∀ {k'}, k' ∈ c'.state.db.emailVerificationChallenges.rows → _ :=
    fun hk' => ChallengesSafe.next_row hnext hk'
  constructor
  case drawn =>
    intro k' hk'
    rcases hrow hk' with ⟨hissued, -⟩ | ⟨k, hk, hissued, -⟩
    · have hdrawn := hnext.drawn_mem
      rw [show emailVerification.draws l = [k'.id, k'.nonceDigest] from
        (ChallengeStep.mem_issues hissued).2] at hdrawn
      exact ⟨hdrawn _ List.mem_cons_self, hdrawn _ (List.mem_cons_of_mem _ List.mem_cons_self)⟩
    · rw [EmailVerificationChallenge.issued_id hissued,
        EmailVerificationChallenge.issued_nonceDigest hissued]
      exact ⟨hnext.issued_subset _ (h.drawn k hk).1, hnext.issued_subset _ (h.drawn k hk).2⟩
  case nonces =>
    intro a ha b hb hsame
    refine c'.state.db.emailVerificationChallenges.eq_of_alternate ha hb ?_
    rcases hrow ha with ⟨hia, -, hfa⟩ | ⟨ka, hka, hissueda, -⟩ <;>
    rcases hrow hb with ⟨hib, -, hfb⟩ | ⟨kb, hkb, hissuedb, -⟩
    · have hdraws := (ChallengeStep.mem_issues hia).2.symm.trans (ChallengeStep.mem_issues hib).2
      exact (List.cons.inj hdraws).1
    · rw [hsame, EmailVerificationChallenge.issued_nonceDigest hissuedb] at hfa
      exact absurd (h.drawn kb hkb).2 hfa
    · rw [← hsame, EmailVerificationChallenge.issued_nonceDigest hissueda] at hfb
      exact absurd (h.drawn ka hka).2 hfb
    · have hnonce : ka.nonceDigest = kb.nonceDigest := by
        rw [← EmailVerificationChallenge.issued_nonceDigest hissueda, hsame,
          EmailVerificationChallenge.issued_nonceDigest hissuedb]
      obtain rfl := h.nonces ka hka kb hkb hnonce
      exact EmailVerificationChallenge.issued_id (hissueda.trans hissuedb.symm)
  case issued =>
    intro k' hk'
    rcases hrow hk' with ⟨hissued, -⟩ | ⟨k, hk, hissued, -⟩
    · rw [(ChallengeStep.mem_issues hissued).1, hissuances]
      exact List.mem_append_left _ hissued
    · rw [hissued]
      exact hold _ (h.issued k hk)
  all_goals
    rcases l.consumptions_cases c.state with hsame | ⟨input, rfl, hok, hnew⟩
  case consumed.inl =>
    intro other hother
    rw [hstate, hsame] at hother
    obtain ⟨k, hk, hconsumed⟩ := h.consumed other hother
    exact ⟨k, hold k hk, hconsumed⟩
  case consumed.inr =>
    intro other hother
    rw [hstate, hnew] at hother
    rcases List.mem_cons.mp hother with rfl | hother
    · obtain ⟨k, hk, hconsumed⟩ := (h.consumed_now hok).1
      exact ⟨k, hold k hk, hconsumed⟩
    · obtain ⟨k, hk, hconsumed⟩ := h.consumed other hother
      exact ⟨k, hold k hk, hconsumed⟩
  case ids_nodup.inl =>
    rw [hstate, hsame]
    exact h.ids_nodup
  case ids_nodup.inr =>
    rw [hstate, hnew, List.map_cons, List.nodup_cons]
    refine ⟨fun hmem => ?_, h.ids_nodup⟩
    obtain ⟨other, hother, hid⟩ := List.mem_map.mp hmem
    exact ((h.consumed_now hok).2.2.1 other hother).1 hid
  case nonces_nodup.inl =>
    rw [hstate, hsame]
    exact h.nonces_nodup
  case nonces_nodup.inr =>
    rw [hstate, hnew, List.map_cons, List.nodup_cons]
    refine ⟨fun hmem => ?_, h.nonces_nodup⟩
    obtain ⟨other, hother, hnonce⟩ := List.mem_map.mp hmem
    exact ((h.consumed_now hok).2.2.1 other hother).2 hnonce
  case spent.inl =>
    intro other hother
    rw [hstate, hsame] at hother
    exact h.spent_next hnext hother
  case spent.inr =>
    intro other hother
    rw [hstate, hnew] at hother
    rcases List.mem_cons.mp hother with rfl | hother
    · obtain ⟨-, ⟨hid, hnonce⟩, -, hspent⟩ := h.consumed_now hok
      refine ⟨⟨hnext.issued_subset _ hid, hnext.issued_subset _ hnonce⟩, ?_⟩
      rw [hstate]
      exact hspent
    · exact h.spent_next hnext hother

end Safety

/-- **Single use and atomicity in every run.** From a database without challenges, whatever is
written to the other tables on the way: no id and no nonce is consumed twice, every consumption is
of a challenge issued to the same actor for the same audience and not expired, and the next call
verifies the account of an actor whose session is active, or changes nothing. -/
theorem emailVerification_single_use {c c' : Config ChallengeState String}
    {steps : List ChallengeStep} (hempty : c.state.db.emailVerificationChallenges.rows = [])
    (hnone : c.state.consumptions = []) (hrun : Run emailVerification c steps c') :
    (c'.state.consumptions.map fun input => input.id).Nodup ∧
    (c'.state.consumptions.map fun input => input.nonceDigest).Nodup ∧
    (∀ input ∈ c'.state.consumptions, ∃ k ∈ c'.state.issuances, input.Consumed k) ∧
    ∀ input : ConsumeEmailVerificationChallengeInput,
      ((consumeEmailVerificationChallenge input c'.state.db).2 = .ok true ∧
        input.actor.Active c'.state.db.toDb ∧
        EmailVerified input c'.state.db (consumeEmailVerificationChallenge input c'.state.db).1) ∨
      ((consumeEmailVerificationChallenge input c'.state.db).2 ≠ .ok true ∧
        (consumeEmailVerificationChallenge input c'.state.db).1 = c'.state.db) := by
  have hsafe : ChallengesSafe c' := by
    refine hrun.invariant ?_ challengesSafe_next
    constructor <;> simp [hempty, hnone]
  refine ⟨hsafe.ids_nodup, hsafe.nonces_nodup, hsafe.consumed, fun input => ?_⟩
  refine (consumeEmailVerificationChallenge_outcome input c'.state.db).imp_left fun h => ?_
  obtain ⟨hok, hverified⟩ := h
  obtain ⟨k, -, hconsumes, -⟩ := hverified.challenge
  have hactive := hconsumes.1.2.2.2.2.2
  rw [hconsumes.1.2.1] at hactive
  exact ⟨hok, hactive, hverified⟩


def verifyingActor : EmailVerificationActor where
  userId := "u"
  sessionId := "s"
  deviceIdentifier := "d"
  emailNormalized := "e"
  securityStamp := "g"

def challengeConsumption : ConsumeEmailVerificationChallengeInput where
  actor := verifyingActor
  audience := "o"
  now := 5
  id := "c"
  nonceDigest := "nnnnnnnnnnnnnnnnnnnnnnnnnnnnnnnnnnnnnnnnnnn"
  mutationId := "mmmmmmmmmmmmmmmmmmmmmmmmmmmmmmmmmmmm"
  requestId := "r"

/-- A challenge is created and consumed twice, and its session revoked. -/
def challengeSteps : List ChallengeStep :=
  [.create
    { actor := verifyingActor, audience := "o", now := 1, id := "c"
      nonceDigest := challengeConsumption.nonceDigest, expiresAt := 9 },
    .consume challengeConsumption,
    .consume { challengeConsumption with mutationId := "MMMMMMMMMMMMMMMMMMMMMMMMMMMMMMMMMMMM" },
    .surroundings fun db => { db with devices := ∅ }]

def challengeStart : Config ChallengeState String where
  state :=
    { db :=
        { users := .singleton { id := "u", emailNormalized := "e", securityStamp := "g" }
          devices := .singleton
            { id := "i", userId := "u", identifier := "d", sessionId := some "s" } } }

def challengeEnd : Config ChallengeState String :=
  (replay ChallengeStep.exec ChallengeStep.draws challengeStart challengeSteps).get
    (by decide +kernel)

theorem emailVerification_single_use_twice :
    challengeEnd.state.consumptions = [challengeConsumption] ∧
      (challengeEnd.state.consumptions.map fun input => input.id).Nodup := by
  have hrun : Run emailVerification challengeStart challengeSteps challengeEnd :=
    replay_run (Option.some_get _).symm
  exact ⟨by decide +kernel, (emailVerification_single_use rfl rfl hrun).1⟩


end HonoWarden
