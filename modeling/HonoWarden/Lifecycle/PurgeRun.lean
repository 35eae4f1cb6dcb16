import HonoWarden.Lifecycle.Purge

/-!
# Deletions and purge runs, interleaved

`PurgePhase` is one call of `purgeRecoverableAccount` (`src/account-lifecycle-purge.ts`), one step
for each of its awaits: start the purge in D1, delete a page of R2 objects, record the progress,
finalize. A call that stops between two steps simply takes no further one.

`lifecycleSystem` interleaves any number of these calls with the beginning, the recovery and the
preparation of deletions, and with other requests, which write every table as they like except the
deletions and the disabling of accounts.

The second half says for each function what it does to the deletions and to the disabling of
accounts:

* `beginRecoverableAccountDeletion_effect`, `recoverAccountDeletion_effect`: a begun deletion
  disables its account, and a recovery enables only the account of the deletion it recovers;
* `startAccountPurge_effect`: the page a run is handed, and what its deletion was prepared for;
* `recordAccountPurgeProgress_effect`, `finalizeAccountPurge_effect`: progress, seal and end.
-/

namespace HonoWarden

open Relational

/-! ## A purge run -/

/-- The input of `purgeRecoverableAccount`. -/
structure PurgeRequest extends AccountPurgeTarget where
  confirmedLifecycleGeneration : String
  requestId : String
  deriving DecidableEq, Repr

/-- The answer of `purgeRecoverableAccount`. -/
inductive PurgeOutcome where
  | tombstoned (deletedObjectCount : Nat)
  | purgingR2 (deletedObjectCount remainingObjectCount : Nat)
  | conflict
  | thrown
  deriving DecidableEq, Repr

/-- A purge run between two of its awaits. -/
inductive PurgePhase where
  | arrived (request : PurgeRequest)
  | deleting (request : PurgeRequest) (objectKeys : List String) (deletedCount expectedCount : Nat)
  | failing (request : PurgeRequest) (deletedCount : Nat)
  | recording (request : PurgeRequest) (remaining : Bool) (deletedCount expectedCount : Nat)
  | finalizing (request : PurgeRequest) (deletedCount expectedCount : Nat)
  | conflicted (request : PurgeRequest) (deletedCount : Nat)
  | done (request : PurgeRequest) (outcome : PurgeOutcome)
  deriving DecidableEq, Repr

/-- What a step of a run is given: whether R2 deletes the objects, and what Web Crypto answers. -/
structure PurgeOracle where
  r2 : Bool := true
  tombstoneDigest : String := ""
  tombstonePassword : String := ""
  nextSecurityStamp : String := ""
  auditEventId : String
  deriving DecidableEq, Repr

/-- The input of the finalization. -/
def PurgeRequest.finalizeInput (request : PurgeRequest) (deletedCount : Nat)
    (oracle : PurgeOracle) : AccountPurgeInput where
  userId := request.userId
  lifecycleGeneration := request.lifecycleGeneration
  now := request.now
  tombstoneEmail := "deleted+" ++ String.ofList (oracle.tombstoneDigest.toList.take 32) ++ "@invalid"
  tombstoneMasterPasswordHash := "tombstone:" ++ oracle.tombstonePassword
  nextSecurityStamp := oracle.nextSecurityStamp
  auditEventId := oracle.auditEventId
  auditEvent :=
    { name := "account.deletion.purge"
      outcome := "success"
      requestId := request.requestId
      occurredAt := request.now
      targetType := some "account"
      targetId := some request.userId
      contextJson := some [("personalR2DeletedCount", .number deletedCount),
        ("lifecycleGeneration", .text request.lifecycleGeneration),
        ("organizationDataRetained", .boolean true), ("opaqueTombstoneRetained", .boolean true)] }

/-- The next step of a run: the database, the phase, and the objects R2 has deleted. -/
def PurgePhase.advance (oracle : PurgeOracle) (db : Db) : PurgePhase → Db × PurgePhase × List String
  | .arrived request =>
    if request.lifecycleGeneration = "" ∨
        request.confirmedLifecycleGeneration ≠ request.lifecycleGeneration then
      (db, .done request .thrown, [])
    else
      let started := startAccountPurge request.toAccountPurgeTarget db
      match started.2 with
      | .ok (.purgingR2 objectKeys deletedCount expectedCount) =>
        (started.1, .deleting request objectKeys deletedCount expectedCount, [])
      | .ok .conflict => (started.1, .done request .conflict, [])
      | .error _ => (started.1, .done request .thrown, [])
  | .deleting request objectKeys deletedCount expectedCount =>
    if objectKeys = [] then (db, .recording request false deletedCount expectedCount, [])
    else if oracle.r2 then
      (db, .recording request true (deletedCount + objectKeys.length) expectedCount, objectKeys)
    else (db, .failing request deletedCount, [])
  | .failing request deletedCount =>
    ((recordAccountPurgeProgress request.toAccountPurgeTarget deletedCount
      (some "r2_delete_failed") db).1, .done request .thrown, [])
  | .recording request remaining deletedCount expectedCount =>
    let progress := recordAccountPurgeProgress request.toAccountPurgeTarget deletedCount none db
    match progress.2 with
    | .ok true =>
      if deletedCount < expectedCount then
        if remaining then
          (progress.1, .done request (.purgingR2 deletedCount (expectedCount - deletedCount)), [])
        else (progress.1, .done request .thrown, [])
      else if deletedCount ≠ expectedCount then (progress.1, .done request .thrown, [])
      else (progress.1, .finalizing request deletedCount expectedCount, [])
    | _ => (progress.1, .done request .thrown, [])
  | .finalizing request deletedCount expectedCount =>
    let finalized := finalizeAccountPurge (request.finalizeInput deletedCount oracle) db
    match finalized.2 with
    | .ok true => (finalized.1, .done request (.tombstoned expectedCount), [])
    | .ok false => (finalized.1, .conflicted request deletedCount, [])
    | .error _ => (finalized.1, .done request .thrown, [])
  | .conflicted request deletedCount =>
    ((recordAccountPurgeProgress request.toAccountPurgeTarget deletedCount
      (some "d1_finalize_conflict") db).1, .done request .conflict, [])
  | .done request outcome => (db, .done request outcome, [])

/-! ## The system -/

/-- The object keys of an account's personal attachments. -/
def personalObjectKeys (db : Db) (userId : String) : List String :=
  (db.cipherAttachments.rows.filter fun a => PersonalAttachment db userId a).map
    CipherAttachment.objectKey

/-- The database, the purge runs, the objects R2 has deleted, and for each deletion that is being
purged the objects its account had when that began. -/
structure LifecycleState where
  db : Db := {}
  runs : List PurgePhase := []
  deletedObjects : List String := []
  inventory : String → List String := fun _ => []

/-- A request to the lifecycle of an account, or the next step of a purge run. -/
inductive LifecycleOp where
  | beginRecoverableAccountDeletion (input : BeginRecoverableAccountDeletionInput)
  | recoverAccountDeletion (input : RecoverAccountDeletionInput)
  | markAccountPurgeReady (input : AccountPurgeTarget) (expectedPersonalAttachmentCount : Nat)
  | purge (request : PurgeRequest)
  | advance (run : Nat) (oracle : PurgeOracle)

/-- The request of a run. -/
def PurgePhase.request : PurgePhase → PurgeRequest
  | .arrived request => request
  | .deleting request _ _ _ => request
  | .failing request _ => request
  | .recording request _ _ _ => request
  | .finalizing request _ _ => request
  | .conflicted request _ => request
  | .done request _ => request

/-- The purge of the deletion began between the two states. -/
def AccountPurgeTarget.Begins (target : AccountPurgeTarget) (db db' : Db) : Prop :=
  (∃ d ∈ db.accountDeletions.rows, target.Deletion (· = .purgeReady) d) ∧
    ∃ d ∈ db'.accountDeletions.rows, target.Deletion (· = .purgingR2) d

instance (target : AccountPurgeTarget) (db db' : Db) : Decidable (target.Begins db db') :=
  inferInstanceAs (Decidable (_ ∧ _))

namespace LifecycleOp

/-- One step. -/
def exec : LifecycleOp → LifecycleState → LifecycleState
  | .beginRecoverableAccountDeletion input, s =>
    { s with db := (HonoWarden.beginRecoverableAccountDeletion input s.db).1 }
  | .recoverAccountDeletion input, s =>
    { s with db := (HonoWarden.recoverAccountDeletion input s.db).1 }
  | .markAccountPurgeReady input expectedCount, s =>
    { s with db := (HonoWarden.markAccountPurgeReady input expectedCount s.db).1 }
  | .purge request, s => { s with runs := s.runs ++ [.arrived request] }
  | .advance run oracle, s =>
    match s.runs[run]? with
    | none => s
    | some phase =>
      let next := phase.advance oracle s.db
      { db := next.1
        runs := s.runs.set run next.2.1
        deletedObjects := s.deletedObjects ++ next.2.2
        inventory :=
          if phase.request.Begins s.db next.1 then
            Function.update s.inventory phase.request.lifecycleGeneration
              (personalObjectKeys s.db phase.request.userId)
          else s.inventory }

/-- A deletion draws its generation, a finalization the id of its purge operation. -/
def draws : LifecycleOp → List String
  | .beginRecoverableAccountDeletion input => [input.lifecycleGeneration]
  | .advance _ oracle => [oracle.auditEventId]
  | _ => []

end LifecycleOp

/-- The deletions are as they were, and no account is enabled. -/
def KeepsDeletions (db db' : Db) : Prop :=
  db'.accountDeletions = db.accountDeletions ∧
    ∀ u ∈ db.users.rows, ∃ u' ∈ db'.users.rows, u'.id = u.id ∧ u'.disabledAt = u.disabledAt

instance (db db' : Db) : Decidable (KeepsDeletions db db') := inferInstanceAs (Decidable (_ ∧ _))

/-- Other requests keep the deletions, and know nothing of the purge runs. -/
def keepDeletions (s s' : LifecycleState) : LifecycleState :=
  if KeepsDeletions s.db s'.db then { s with db := s'.db } else s

/-- The lifecycle of accounts, in its surroundings. -/
def lifecycleSystem : System LifecycleState (Move LifecycleOp LifecycleState) String :=
  .within LifecycleOp.exec LifecycleOp.draws keepDeletions

/-! ## What the functions do to the deletions -/

/-- Every account that was disabled still is. -/
def KeepsDisabled (db db' : Db) : Prop :=
  ∀ userId, AccountDisabled db userId → AccountDisabled db' userId

theorem KeepsDisabled.refl (db : Db) : KeepsDisabled db db := fun _ h => h

theorem KeepsDisabled.trans {db db' db'' : Db} (h : KeepsDisabled db db')
    (h' : KeepsDisabled db' db'') : KeepsDisabled db db'' :=
  fun userId hdisabled => h' userId (h userId hdisabled)

theorem KeepsDisabled.of_users {db db' : Db} (h : db'.users = db.users) : KeepsDisabled db db' := by
  intro userId hdisabled
  unfold AccountDisabled at hdisabled ⊢
  rwa [h]

/-- An update of accounts that keeps their ids and enables none. -/
theorem KeepsDisabled.of_update {db : Db} {U : Table User} {hit : User → Prop} [DecidablePred hit]
    {set : User → User} (hU : U.rows = updateWhere hit set db.users.rows)
    (hset : ∀ u, (set u).id = u.id ∧ (u.disabledAt ≠ none → (set u).disabledAt ≠ none)) :
    KeepsDisabled db { db with users := U } := by
  rintro userId ⟨u, hu, hid, hdisabled⟩
  by_cases hh : hit u
  · refine ⟨set u, ?_, (hset u).1.trans hid, (hset u).2 hdisabled⟩
    rw [hU]
    exact mem_updateWhere_of_hit hu hh
  · refine ⟨u, ?_, hid, hdisabled⟩
    rw [hU]
    exact mem_updateWhere_of_not_hit hu hh

/-- Neither the deletions nor the accounts change. -/
def LifecycleFrame (db db' : Db) : Prop :=
  db'.accountDeletions = db.accountDeletions ∧ db'.users = db.users

theorem LifecycleFrame.refl (db : Db) : LifecycleFrame db db := ⟨rfl, rfl⟩

theorem LifecycleFrame.trans {db db' db'' : Db} (h : LifecycleFrame db db')
    (h' : LifecycleFrame db' db'') : LifecycleFrame db db'' :=
  ⟨h'.1.trans h.1, h'.2.trans h.2⟩

section Begin

variable (input : BeginRecoverableAccountDeletionInput) {db db' : Db}

theorem beginRest_frame : ∀ st ∈ input.batch.drop 3, st.Within LifecycleFrame := by
  intro st hst
  simp only [BeginRecoverableAccountDeletionInput.batch, List.drop_succ_cons, List.drop_zero,
    List.mem_cons, List.not_mem_nil, or_false] at hst
  rcases hst with rfl | rfl | rfl | rfl | rfl
  all_goals first
    | exact TableIn.update_within fun _ _ => ⟨rfl, rfl⟩
    | exact TableIn.insertSelect_within fun _ _ => ⟨rfl, rfl⟩

/-- A row under the deletions of a begun deletion is an old one or the new one. -/
theorem insertDeletion_ok {n : Nat} {r : StatementResult}
    (h : input.insertDeletion db n = .ok (db', r)) :
    ∃ D : Table AccountDeletion, db' = { db with accountDeletions := D } ∧
      ∀ d' ∈ D.rows, d' ∈ db.accountDeletions.rows ∨ d' = input.deletion ∧ input.Disabled db := by
  obtain ⟨hupsert, -⟩ := Statement.checked_ok h
  by_cases hdisabled : input.Disabled db
  · obtain ⟨D, hD, rfl, -⟩ := TableIn.upsertRow_some (if_pos hdisabled) hupsert
    refine ⟨D, rfl, fun d' hd' => ?_⟩
    rcases upsert_cases BeginRecoverableAccountDeletionInput.restart
        db.accountDeletions.rows input.deletion with
      ⟨-, hupsert⟩ | ⟨old, hold, hkey, ⟨-, hupsert⟩ | ⟨row, hrow, hupsert⟩⟩
    · rw [hD, hupsert] at hd'
      rcases List.mem_append.mp hd' with hmem | hmem
      · exact Or.inl hmem
      · exact Or.inr ⟨List.mem_singleton.mp hmem, hdisabled⟩
    · rw [hD, hupsert] at hd'
      exact Or.inl hd'
    · rw [hD, hupsert] at hd'
      rcases mem_updateWhere_cases hd' with ⟨hmem, -⟩ | ⟨_, -, -, rfl⟩
      · exact Or.inl hmem
      · refine Or.inr ⟨?_, hdisabled⟩
        unfold BeginRecoverableAccountDeletionInput.restart at hrow
        split at hrow
        · rw [← Option.some.inj hrow]
          have huser : old.userId = input.userId := hkey
          rw [huser]
          rfl
        · cases hrow
  · obtain ⟨rfl, -⟩ := TableIn.upsertRow_none (if_neg hdisabled) hupsert
    exact ⟨_, rfl, fun d' hd' => Or.inl hd'⟩

/-- **A begun deletion disables its account.** -/
theorem beginRecoverableAccountDeletion_effect (db : Db) :
    KeepsDisabled db (beginRecoverableAccountDeletion input db).1 ∧
    ∀ d' ∈ (beginRecoverableAccountDeletion input db).1.accountDeletions.rows,
      d' ∈ db.accountDeletions.rows ∨ d' = input.deletion ∧
        AccountDisabled (beginRecoverableAccountDeletion input db).1 input.userId := by
  unfold beginRecoverableAccountDeletion
  rcases commit_cases input.batch input.interpret db with ⟨hdb, -⟩ | ⟨db', rs, hrun, hdb, -⟩
  · rw [hdb]
    exact ⟨.refl db, fun d hd => Or.inl hd⟩
  rw [hdb]
  obtain ⟨db₁, r₁, rs₁, hselect, hrest₁, -⟩ := runFrom_cons hrun
  obtain ⟨db₂, r₂, rs₂, hdisable, hrest₂, -⟩ := runFrom_cons hrest₁
  obtain ⟨db₃, r₃, rs₃, hinsert, hrest₃, -⟩ := runFrom_cons hrest₂
  have hframe : LifecycleFrame db₃ db' :=
    runFrom_within .refl .trans (beginRest_frame input) hrest₃
  simp only [select, Except.ok.injEq, Prod.mk.injEq] at hselect
  obtain ⟨rfl, -⟩ := hselect
  obtain ⟨U, hU, rfl, -⟩ := TableIn.updateReturning_ok hdisable
  obtain ⟨D, rfl, hD⟩ := insertDeletion_ok input hinsert
  refine ⟨?_, fun d' hd' => ?_⟩
  · have hkeeps : KeepsDisabled db { db with users := U } :=
      .of_update hU fun _ => ⟨rfl, fun _ => Option.some_ne_none _⟩
    exact hkeeps.trans (.of_users hframe.2)
  · rw [hframe.1] at hd'
    rcases hD d' hd' with hold | ⟨rfl, u, hu, hid, hdisabled, -⟩
    · exact Or.inl hold
    · refine Or.inr ⟨rfl, u, ?_, hid, ?_⟩
      · rw [hframe.2]
        exact hu
      · rw [hdisabled]
        exact Option.some_ne_none _

end Begin

section Recover

variable (input : RecoverAccountDeletionInput)

/-- The deletion, recovered. -/
def RecoverAccountDeletionInput.settle (d : AccountDeletion) : AccountDeletion :=
  { d with state := .recovered, recoveredAt := some input.now, updatedAt := input.now }

/-- **A recovery enables the account of the deletion it recovers**, and no other. -/
theorem recoverAccountDeletion_effect (db : Db) :
    ∀ d' ∈ (recoverAccountDeletion input db).1.accountDeletions.rows,
      (∃ d ∈ db.accountDeletions.rows, input.Recoverable d ∧ d' = input.settle d) ∨
      (d' ∈ db.accountDeletions.rows ∧ (AccountDisabled db d'.userId →
        AccountDisabled (recoverAccountDeletion input db).1 d'.userId)) := by
  unfold recoverAccountDeletion
  rcases commit_cases input.batch input.interpret db with ⟨hdb, -⟩ | ⟨db', rs, hrun, hdb, -⟩
  · rw [hdb]
    exact fun d hd => Or.inr ⟨hd, id⟩
  rw [hdb]
  obtain ⟨db₁, r₁, rs₁, husers, hrest₁, -⟩ := runFrom_cons hrun
  obtain ⟨db₂, r₂, rs₂, hdeletion, hrest₂, -⟩ := runFrom_cons hrest₁
  obtain ⟨db₃, r₃, rs₃, haudit, hnil, -⟩ := runFrom_cons hrest₂
  obtain ⟨rfl, -⟩ := runFrom_nil hnil
  obtain ⟨U, hU, rfl, -⟩ := TableIn.updateReturning_ok husers
  obtain ⟨D, hD, rfl, -⟩ := TableIn.update_ok hdeletion
  obtain ⟨A, -, rfl, -⟩ := TableIn.insertSelect_ok haudit
  intro d' hd'
  rw [hD] at hd'
  rcases mem_updateWhere_cases hd' with ⟨hmem, hmiss⟩ | ⟨d, hd, hhit, rfl⟩
  · refine Or.inr ⟨hmem, ?_⟩
    rintro ⟨u, hu, hid, hdisabled⟩
    refine ⟨u, ?_, hid, hdisabled⟩
    simp only at hU ⊢
    rw [hU]
    refine mem_updateWhere_of_not_hit hu fun haccount => hmiss ?_
    -- the account was enabled, so its deletion was recoverable and is recovered
    obtain ⟨huid, -, -, d, hd, hrecoverable⟩ := id haccount
    have hsame : d = d' := db.accountDeletions.eq_of_key hd hmem
      (hrecoverable.1.trans (huid.symm.trans hid))
    refine ⟨hsame ▸ hrecoverable, input.enable u, ?_, huid, rfl, rfl, rfl⟩
    rw [hU]
    exact mem_updateWhere.mpr ⟨u, hu, (if_pos haccount).symm⟩
  · exact Or.inl ⟨d, hd, hhit.1, rfl⟩

end Recover

section Purge

variable (target : AccountPurgeTarget)

/-- The deletion, ready to be purged. -/
def AccountPurgeTarget.prepare (expectedCount : Nat) (d : AccountDeletion) : AccountDeletion :=
  { d with
    state := .purgeReady
    personalR2ExpectedCount := expectedCount
    personalR2DeletedCount := 0
    lastErrorCode := none
    updatedAt := target.now }

/-- The deletion, being purged. -/
def AccountPurgeTarget.start (d : AccountDeletion) : AccountDeletion :=
  { d with
    state := .purgingR2
    purgeStartedAt := some (d.purgeStartedAt.getD target.now)
    personalR2DeletedCount := if d.state = .purgeReady then 0 else d.personalR2DeletedCount
    lastErrorCode := none
    updatedAt := target.now }

/-- The deletion, with its progress. -/
def AccountPurgeTarget.progress (deletedCount : Nat) (errorCode : Option String)
    (d : AccountDeletion) : AccountDeletion :=
  { d with
    personalR2DeletedCount := deletedCount
    lastErrorCode := errorCode
    updatedAt := target.now }

theorem markAccountPurgeReady_effect (expectedCount : Nat) (db : Db) :
    ∃ D : Table AccountDeletion,
      (markAccountPurgeReady target expectedCount db).1 = { db with accountDeletions := D } ∧
      ∀ d' ∈ D.rows, d' ∈ db.accountDeletions.rows ∨ ∃ d ∈ db.accountDeletions.rows,
        target.Deletion (· = .recoverable) d ∧ d.recoverUntil ≤ target.now ∧
        d' = target.prepare expectedCount d := by
  unfold markAccountPurgeReady
  rcases execute_cases _ _ db with ⟨hdb, -⟩ | ⟨db', r, hrun, hdb, -⟩
  · exact ⟨db.accountDeletions, hdb, fun d hd => Or.inl hd⟩
  obtain ⟨D, hD, rfl, -⟩ := TableIn.update_ok hrun
  refine ⟨D, hdb, fun d' hd' => ?_⟩
  rw [hD] at hd'
  rcases mem_updateWhere_cases hd' with ⟨hmem, -⟩ | ⟨d, hd, hhit, rfl⟩
  · exact Or.inl hmem
  · exact Or.inr ⟨d, hd, hhit.1, hhit.2.1, rfl⟩

/-- A deletion whose purge may start: its inventory is what it was prepared for. -/
def AccountPurgeTarget.Startable (db : Db) (d : AccountDeletion) : Prop :=
  target.Deletion AccountDeletionState.Purging d ∧ AccountDisabled db d.userId ∧
    ¬ HasLastConfirmedOwnerMembership db target.userId ∧
    d.personalR2ExpectedCount = personalAttachmentCount db d.userId

instance (db : Db) : DecidablePred (target.Startable db) := fun _ =>
  inferInstanceAs (Decidable (_ ∧ _))

/-- **A purge that starts hands out the page behind the progress of its deletion.** -/
theorem startAccountPurge_effect (db : Db) :
    ∃ D : Table AccountDeletion,
      (startAccountPurge target db).1 = { db with accountDeletions := D } ∧
      D.rows = updateWhere (target.Startable db) target.start db.accountDeletions.rows ∧
      ∀ objectKeys deletedCount expectedCount,
        (startAccountPurge target db).2 = .ok (.purgingR2 objectKeys deletedCount expectedCount) →
        ∃ d ∈ db.accountDeletions.rows, target.Startable db d ∧
          objectKeys = purgeObjectKeys target db ∧
          deletedCount = (target.start d).personalR2DeletedCount ∧
          expectedCount = d.personalR2ExpectedCount := by
  obtain ⟨D, r, hupdate, hD, -, -, hrows⟩ := Db.accountDeletionsIn.updateReturning_total
    (fun db _ d => target.Startable db d) (fun _ => target.start) (s := db) 0
    (fun d => [[.integer d.personalR2DeletedCount, .integer d.personalR2ExpectedCount]])
    fun _ => ⟨rfl, fun _ h => h⟩
  have hrun : runBatch
      [select fun db => (purgeObjectKeys target db).map fun objectKey => [Value.text objectKey],
        Db.accountDeletionsIn.updateReturning (fun db _ d => target.Startable db d)
          (fun _ => target.start)
          fun d => [[.integer d.personalR2DeletedCount, .integer d.personalR2ExpectedCount]]] db =
      .ok ({ db with accountDeletions := D },
        [{ changes := 0, rows := (purgeObjectKeys target db).map fun key => [.text key] }, r]) :=
    runFrom_cons_ok rfl (runFrom_cons_ok hupdate rfl)
  have hcall : startAccountPurge target db = ({ db with accountDeletions := D },
      (interpretPurgeStart [{ changes := 0, rows := (purgeObjectKeys target db).map fun key =>
        [.text key] }, r]).mapError .thrown) := commit_of_run hrun
  refine ⟨D, congrArg Prod.fst hcall, hD, fun objectKeys deletedCount expectedCount hout => ?_⟩
  rw [hcall] at hout
  have hread := mapError_eq_ok.mp hout
  by_cases hfound : ∃ d ∈ db.accountDeletions.rows, target.Startable db d
  · obtain ⟨d, hd, hstartable⟩ := hfound
    rw [db.accountDeletions.filter_eq_singleton target.userId (fun _ hh => hh.1.1) hd
      hstartable] at hrows
    refine ⟨d, hd, hstartable, ?_⟩
    simp only [interpretPurgeStart, hrows, List.flatMap_cons, List.flatMap_nil, List.append_nil]
      at hread
    split at hread
    · cases hread
    split at hread
    · cases hread
    simp only [Except.ok.injEq, StartAccountPurgeResult.purgingR2.injEq] at hread
    obtain ⟨hkeys, hdeleted, hexpected⟩ := hread
    refine ⟨?_, hdeleted.symm, hexpected.symm⟩
    rw [← hkeys, List.filterMap_map]
    simp
  · have hnone : db.accountDeletions.rows.filter (fun d => target.Startable db d) = [] :=
      List.filter_eq_nil_iff.mpr fun d hd => by simpa using fun hh => hfound ⟨d, hd, hh⟩
    rw [hnone] at hrows
    simp only [interpretPurgeStart, hrows, List.flatMap_nil] at hread
    cases hread

/-- A record writes the progress of a deletion that is being purged, or nothing. -/
theorem recordAccountPurgeProgress_effect (deletedCount : Nat) (errorCode : Option String)
    (db : Db) :
    ∃ D : Table AccountDeletion,
      (recordAccountPurgeProgress target deletedCount errorCode db).1 =
        { db with accountDeletions := D } ∧
      ∀ d' ∈ D.rows, d' ∈ db.accountDeletions.rows ∨ ∃ d ∈ db.accountDeletions.rows,
        target.Deletion (· = .purgingR2) d ∧ d.personalR2DeletedCount ≤ deletedCount ∧
        deletedCount ≤ d.personalR2ExpectedCount ∧ deletedCount ≤ maxSafeInteger ∧
        d' = target.progress deletedCount errorCode d := by
  unfold recordAccountPurgeProgress
  split
  · exact ⟨db.accountDeletions, rfl, fun d hd => Or.inl hd⟩
  rename_i hvalid
  rcases execute_cases _ _ db with ⟨hdb, -⟩ | ⟨db', r, hrun, hdb, -⟩
  · exact ⟨db.accountDeletions, hdb, fun d hd => Or.inl hd⟩
  obtain ⟨D, hD, rfl, -⟩ := TableIn.update_ok hrun
  refine ⟨D, hdb, fun d' hd' => ?_⟩
  rw [hD] at hd'
  rcases mem_updateWhere_cases hd' with ⟨hmem, -⟩ | ⟨d, hd, hhit, rfl⟩
  · exact Or.inl hmem
  · push Not at hvalid
    obtain ⟨hpurging, hle, hge⟩ := hhit
    exact Or.inr ⟨d, hd, hpurging, by omega, by omega, by omega, by simp [AccountPurgeTarget.progress]⟩

/-- The deletion, with the purge operation of the request. -/
def AccountPurgeInput.seal (input : AccountPurgeInput) (d : AccountDeletion) : AccountDeletion :=
  { d with purgeOperationId := some input.auditEventId, updatedAt := input.now }

theorem purgeTail_frame (input : AccountPurgeInput) {db db' : Db} {n : Nat}
    {rs : List StatementResult} (h : runFrom input.body db n = .ok (db', rs)) :
    LifecycleFrame db db' := by
  have hstep : PurgeStep db db' := runFrom_within .refl .trans (purgeBody_purge input) h
  exact ⟨hstep.deletions, hstep.users⟩

/-- **A finalization seals a deletion, buries one of its timestamp, and enables no account.** -/
theorem finalizeAccountPurge_effect (input : AccountPurgeInput) (db : Db) :
    KeepsDisabled db (finalizeAccountPurge input db).1 ∧
    ∀ d' ∈ (finalizeAccountPurge input db).1.accountDeletions.rows,
      ∃ d ∈ db.accountDeletions.rows, ∃ d₁,
        (d₁ = d ∨ input.Sealable db d ∧ d₁ = input.seal d) ∧
        (d' = d₁ ∨ input.Deletion (· = .purgingR2) d₁ ∧ d' = input.bury d₁) := by
  unfold finalizeAccountPurge
  rcases commit_cases input.batch input.interpret db with ⟨hdb, -⟩ | ⟨db', rs, hrun, hdb, -⟩
  · rw [hdb]
    exact ⟨.refl db, fun d hd => ⟨d, hd, d, Or.inl rfl, Or.inl rfl⟩⟩
  rw [hdb]
  obtain ⟨db₁, r₁, rs₁, hseal, hrest, -⟩ := runFrom_cons hrun
  obtain ⟨db₂, n₂, rsBody, rsEnd, hbody, hend, -⟩ :=
    @runFrom_append _ input.finish input.body _ _ _ _ hrest
  obtain ⟨D, hD, rfl, -⟩ := TableIn.updateReturning_ok hseal
  have hframe := purgeTail_frame input hbody
  obtain ⟨db₃, r₃, rs₃, huser, hrest₃, -⟩ := runFrom_cons hend
  obtain ⟨db₄, r₄, rs₄, hdeletion, hrest₄, -⟩ := runFrom_cons hrest₃
  obtain ⟨db₅, r₅, rs₅, haudit, hnil, -⟩ := runFrom_cons hrest₄
  obtain ⟨rfl, -⟩ := runFrom_nil hnil
  obtain ⟨U, hU, rfl, -⟩ := TableIn.updateTriggering_ok huser
  obtain ⟨U', hdb', hU'⟩ := invalidateStaleUserKeyId_eq
    (((Db.usersIn.get db₂).rows.filter fun u => u.id = input.userId ∧ u.disabledAt ≠ none ∧
      input.Sealed db₂).map fun a => (a, input.tombstone a)) { db₂ with users := U }
  have hdb'' : (invalidateStaleUserKeyId (((Db.usersIn.get db₂).rows.filter fun u =>
      u.id = input.userId ∧ u.disabledAt ≠ none ∧ input.Sealed db₂).map fun a =>
        (a, input.tombstone a)) (Db.usersIn.put db₂ U)).1 = { db₂ with users := U' } := hdb'
  rw [hdb''] at hdeletion
  obtain ⟨D', hD', rfl, -⟩ := TableIn.update_ok hdeletion
  obtain ⟨A, -, rfl, -⟩ := TableIn.insertSelect_ok haudit
  refine ⟨?_, fun d' hd' => ?_⟩
  · have hkeeps : KeepsDisabled db₂ { db₂ with users := U } :=
      .of_update hU fun _ => ⟨rfl, id⟩
    have hkeeps' : KeepsDisabled { db₂ with users := U } { db₂ with users := U' } := by
      rintro userId ⟨u, hu, hid, hdisabled⟩
      rcases hU' u hu with hmem | hmem
      · exact ⟨u, hmem, hid, hdisabled⟩
      · exact ⟨_, hmem, hid, hdisabled⟩
    have htail : KeepsDisabled db db₂ := .of_users hframe.2
    exact (htail.trans hkeeps).trans hkeeps'
  · rw [hD'] at hd'
    have hrows : db₂.accountDeletions.rows =
        updateWhere (input.Sealable db) input.seal db.accountDeletions.rows := by
      rw [hframe.1]
      exact hD
    have hback : ∀ d₁ ∈ db₂.accountDeletions.rows, ∃ d ∈ db.accountDeletions.rows,
        d₁ = d ∨ input.Sealable db d ∧ d₁ = input.seal d := by
      intro d₁ hd₁
      rw [hrows] at hd₁
      rcases mem_updateWhere_cases hd₁ with ⟨hmem, -⟩ | ⟨d, hd, hhit, rfl⟩
      · exact ⟨d₁, hmem, Or.inl rfl⟩
      · exact ⟨d, hd, Or.inr ⟨hhit, rfl⟩⟩
    rcases mem_updateWhere_cases hd' with ⟨hmem, -⟩ | ⟨d₁, hd₁, hhit, rfl⟩
    · obtain ⟨d, hd, hsealed⟩ := hback d' hmem
      exact ⟨d, hd, d', hsealed, Or.inl rfl⟩
    · obtain ⟨d, hd, hsealed⟩ := hback d₁ hd₁
      exact ⟨d, hd, d₁, hsealed, Or.inr ⟨hhit.1, rfl⟩⟩

end Purge

end HonoWarden
