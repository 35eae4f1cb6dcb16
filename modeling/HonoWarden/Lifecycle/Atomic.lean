import HonoWarden.Lifecycle.System

/-!
# The purge of an account is all or nothing, under its condition

`PurgeAtomic` is what the last batch of a purge should do: leave the database as it was unless it
reports the account tombstoned, and purge the account when it does. `PurgeSettled` is when it does
so: there is a deletion to seal, or no deletion of the generation carries the timestamp of the
request (`AccountPurgeInput.Touched`). A purge run writes that timestamp itself, when it starts and
when it records its progress, so the condition fails as soon as the inventory of the account
changes between the record and the finalization, as the retention of pending attachments
(`deleteExpiredPendingCipherAttachments`) makes it do.

**Headline**: `accountPurge_atomic`; `purge_afterRetention` is the run that breaks it.
-/

namespace HonoWarden

open Relational

/-! ## Retention of pending attachments -/

/-- The ids the retention DELETE selects: the pending attachments that were touched longest ago. -/
def expiredPendingCipherAttachmentIds (expiredBefore : Timestamp) (limit : Nat) (db : Db) :
    List String :=
  (((db.cipherAttachments.rows.filter fun a =>
    a.contentType = none ∧ a.updatedAt ≤ expiredBefore).mergeSort fun a b =>
      a.updatedAt < b.updatedAt ∨ a.updatedAt = b.updatedAt ∧ a.id ≤ b.id).take limit).map
    CipherAttachment.id

/-- `deleteExpiredPendingCipherAttachments`. -/
def deleteExpiredPendingCipherAttachments (expiredBefore : Timestamp) (limit : Nat) (db : Db) :
    Db × Except Failure Nat :=
  execute
    (Db.cipherAttachmentsIn.delete fun db _ a =>
      a.id ∈ expiredPendingCipherAttachmentIds expiredBefore limit db)
    (fun result => .ok result.metaChanges) db

/-! ## The property and its condition -/

/-- All or nothing: what a finalization that does not report `tombstoned` leaves, and what one that
does has done. -/
structure PurgeAtomic (input : AccountPurgeInput) (db : Db) : Prop where
  unchanged : (finalizeAccountPurge input db).2 ≠ .ok true → (finalizeAccountPurge input db).1 = db
  purged : (finalizeAccountPurge input db).2 = .ok true →
    AccountPurged input db (finalizeAccountPurge input db).1
  tombstoned : ∀ d' ∈ (finalizeAccountPurge input db).1.accountDeletions.rows,
    d'.state = .tombstoned → d' ∈ db.accountDeletions.rows ∨
      AccountPurged input db (finalizeAccountPurge input db).1

/-- There is a deletion to seal, or none that the unsealed statement takes for its own. -/
def PurgeSettled (input : AccountPurgeInput) (db : Db) : Prop :=
  (∃ d ∈ db.accountDeletions.rows, input.Sealable db d) ∨ ¬ input.Touched db

instance (input : AccountPurgeInput) (db : Db) : Decidable (PurgeSettled input db) :=
  inferInstanceAs (Decidable (_ ∨ _))

/-- The ids the finalization draws name nothing yet. -/
structure AccountPurgeInput.Fresh (input : AccountPurgeInput)
    (c : Config LifecycleState String) : Prop where
  operation : input.auditEventId ∉ c.issued
  audit : ∀ e ∈ c.state.db.auditEvents.rows, e.id ≠ input.auditEventId

section Ledger

variable {issued : List String} {s : LifecycleState} {input : AccountPurgeInput}

/-- A drawn purge operation stands in no deletion. -/
theorem DeletionLedger.notOperated (h : DeletionLedger issued s)
    (hfresh : input.auditEventId ∉ issued) : ¬ input.Operated s.db := by
  rintro ⟨d, hd, hid⟩
  exact hfresh (h.operation d hd _ hid)

/-- **Under its condition a finalization is all or nothing.** -/
theorem PurgeSettled.atomic (hsettled : PurgeSettled input s.db) (h : DeletionLedger issued s)
    (hfresh : input.auditEventId ∉ issued) : PurgeAtomic input s.db := by
  have hunchanged : (finalizeAccountPurge input s.db).1 = s.db →
      (finalizeAccountPurge input s.db).2 ≠ .ok true → PurgeAtomic input s.db := by
    intro hdb hout
    refine ⟨fun _ => hdb, fun htrue => absurd htrue hout, fun d' hd' _ => Or.inl ?_⟩
    rw [hdb] at hd'
    exact hd'
  by_cases hsealable : ∃ d ∈ s.db.accountDeletions.rows, input.Sealable s.db d
  · have hdisabled : AccountDisabled s.db input.userId := by
      obtain ⟨d, hd, hpurging, -⟩ := hsealable
      rw [← hpurging.1]
      exact h.disabled d hd (Or.inr (Or.inr hpurging.2.2))
    rcases finalizeAccountPurge_sealed hsealable hdisabled h.safe with
      ⟨hdb, hout⟩ | ⟨hout, hpurged⟩
    · exact hunchanged hdb hout
    · exact ⟨fun hne => absurd hout hne, fun _ => hpurged, fun _ _ _ => Or.inr hpurged⟩
  · have huntouched : ¬ input.Touched s.db := hsettled.resolve_left hsealable
    push Not at hsealable
    have hcall := finalizeAccountPurge_untouched hsealable (h.notOperated hfresh) huntouched
    exact hunchanged (congrArg Prod.fst hcall) (by rw [hcall]; simp)

/-- Outside its condition a finalization tombstones what it has not purged. -/
theorem PurgeAtomic.settled (hatomic : PurgeAtomic input s.db) (h : DeletionLedger issued s)
    (hfresh : input.auditEventId ∉ issued)
    (haudit : ∀ e ∈ s.db.auditEvents.rows, e.id ≠ input.auditEventId) :
    PurgeSettled input s.db := by
  by_contra hsettled
  unfold PurgeSettled at hsettled
  push Not at hsettled
  obtain ⟨hsealable, htouched⟩ := hsettled
  obtain ⟨hchanged, hout⟩ :=
    finalizeAccountPurge_touched hsealable (h.notOperated hfresh) htouched haudit
  exact hchanged (hatomic.unchanged hout)

end Ledger

/-! ## The runs -/

/-- In this state a finalization is all or nothing exactly under its condition, and a step whose
finalization meets it makes a deletion `tombstoned` only by purging its account. -/
structure PurgesAtomically (c : Config LifecycleState String) : Prop where
  finalization : ∀ input : AccountPurgeInput, input.Fresh c →
    (PurgeAtomic input c.state.db ↔ PurgeSettled input c.state.db)
  tombstoned : ∀ op c', lifecycleSystem.Next c (.request op) c' →
    (∀ input, op.Finalizes c.state input → PurgeSettled input c.state.db) →
    ∀ d' ∈ c'.state.db.accountDeletions.rows, d'.state = .tombstoned →
      d' ∈ c.state.db.accountDeletions.rows ∨
      ∃ input, op.Finalizes c.state input ∧ AccountPurged input c.state.db c'.state.db

/-- A finalization is the batch of its input. -/
theorem LifecycleOp.Finalizes.exec_db {op : LifecycleOp} {s : LifecycleState}
    {input : AccountPurgeInput} (h : op.Finalizes s input) :
    (op.exec s).db = (finalizeAccountPurge input s.db).1 := by
  obtain ⟨run, oracle, request, n, e, rfl, hrun, rfl⟩ := h
  simp only [LifecycleOp.exec, hrun, PurgePhase.advance]
  split <;> rfl

/-- **The purge of an account is all or nothing, exactly under its condition.** -/
theorem accountPurge_atomic {c : Config LifecycleState String}
    {moves : List (Move LifecycleOp LifecycleState)}
    (h : Run lifecycleSystem lifecycleStart moves c) : PurgesAtomically c := by
  have hledger := lifecycle_reachable_ledger h
  refine ⟨fun input hfresh => ⟨fun hatomic => ?_, fun hsettled => ?_⟩, ?_⟩
  · exact hatomic.settled hledger hfresh.operation hfresh.audit
  · exact hsettled.atomic hledger hfresh.operation
  intro op c' hnext hsettled d' hd' hstate
  obtain ⟨hexec, hdrawn, -⟩ := hnext
  rw [hexec] at hd' ⊢
  simp only [Move.exec] at hd' ⊢
  rcases op.exec_deletions c.state d' hd' with ⟨d, hd, hmove⟩ | ⟨input, rfl, rfl, -⟩
  · cases hmove with
    | kept => exact Or.inl hd
    | buried input d₁ hop hsealed hpurging =>
      have hfresh : input.auditEventId ∉ c.issued := by
        obtain ⟨run, oracle, request, n, e, rfl, -, rfl⟩ := hop
        exact hdrawn _ (List.mem_singleton_self _)
      have hatomic := (hsettled input hop).atomic hledger hfresh
      rw [hop.exec_db] at hd' ⊢
      rcases hatomic.tombstoned _ hd' hstate with hold | hpurged
      · exact Or.inl hold
      · exact Or.inr ⟨input, hop, hpurged⟩
    | recovered input hop hrec => cases hstate
    | prepared target n hop hrec hdue => cases hstate
    | started run oracle request hop hrun hstartable => cases hstate
    | progressed run oracle phase n code hop hrun hrecorded hpurging =>
      have hpurging' : d.state = .purgingR2 := hpurging.2.2
      rw [AccountPurgeTarget.progress, hpurging'] at hstate
      cases hstate
    | sealed input hop hsealable =>
      have hpurging' : d.state = .purgingR2 := hsealable.1.2.2
      rw [AccountPurgeInput.seal, hpurging'] at hstate
      cases hstate
  · cases hstate

/-- The account with one cipher, whose only attachment is pending. -/
def pendingAttachment : Db where
  users := oneAccount
  ciphers := ⟨[{ id := "c", userId := "u", encryptedJson := "" }], by decide⟩
  cipherAttachments :=
    ⟨[{ id := "a", userId := "u", cipherId := "c", objectKey := "k", fileName := "",
        attachmentKey := "" }], by decide⟩

/-- The account is deleted, and its purge is up to the deletion of its objects. -/
def purgeMoves (db : Db) (attachments : Nat) : List (Move LifecycleOp LifecycleState) :=
  [.surroundings fun s => { s with db := db },
    .request (.beginRecoverableAccountDeletion
      { userId := "u", expectedMasterPasswordHash := "hash", expectedSecurityStamp := "stamp",
        expectedRevisionDate := 0, tokenDigest := none, lifecycleGeneration := "g",
        nextSecurityStamp := "disabled", now := 1, recoverUntil := 10, auditEventId := "a1",
        auditEvent := { name := "", outcome := "", requestId := "", occurredAt := 1 } }),
    .request (.markAccountPurgeReady ⟨"u", "g", 20⟩ attachments),
    .request (.purge
      { userId := "u", lifecycleGeneration := "g", now := 30, confirmedLifecycleGeneration := "g",
        requestId := "r" }),
    .request (.advance 0 { auditEventId := "o1" }),
    .request (.advance 0 { auditEventId := "o2" })]

/-- The input of the finalization of that run. -/
def purgeFinalization (attachments : Nat) : AccountPurgeInput :=
  PurgeRequest.finalizeInput
    { userId := "u", lifecycleGeneration := "g", now := 30, confirmedLifecycleGeneration := "g",
      requestId := "r" } attachments { auditEventId := "o4" }

def purgeEnd : Config LifecycleState String :=
  (replay (Move.exec LifecycleOp.exec keepDeletions) (Move.draws LifecycleOp.draws) lifecycleStart
    (purgeMoves pendingAttachment 1 ++ [.request (.advance 0 { auditEventId := "o3" })])).get
    (by decide)

theorem accountPurge_atomic_purged :
    (purgeFinalization 1).Fresh purgeEnd ∧
      (finalizeAccountPurge (purgeFinalization 1) purgeEnd.state.db).2 = .ok true ∧
      PurgesAtomically purgeEnd :=
  ⟨⟨by decide +kernel, by decide +kernel⟩, by decide +kernel, accountPurge_atomic (replay_run (Option.some_get _).symm)⟩

/-- Between the deletion of its object and the record, the pending attachment expires. -/
def retentionMoves : List (Move LifecycleOp LifecycleState) :=
  purgeMoves pendingAttachment 1 ++
    [.surroundings fun s =>
        { s with db := (deleteExpiredPendingCipherAttachments 25 100 s.db).1 },
      .request (.advance 0 { auditEventId := "o3" })]

def retentionEnd : Config LifecycleState String :=
  (replay (Move.exec LifecycleOp.exec keepDeletions) (Move.draws LifecycleOp.draws) lifecycleStart
    retentionMoves).get (by decide +kernel)

/-- **Retention between the record and the finalization of a purge leaves a tombstone over an
account that is all there.** -/
theorem purge_afterRetention :
    ¬ ∀ moves c, Run lifecycleSystem lifecycleStart moves c →
      ∀ input : AccountPurgeInput, input.Fresh c → PurgeAtomic input c.state.db := by
  intro hclaim
  have hrun : Run lifecycleSystem lifecycleStart retentionMoves retentionEnd :=
    replay_run (Option.some_get _).symm
  have hatomic := hclaim _ _ hrun (purgeFinalization 1) ⟨by decide +kernel, by decide +kernel⟩
  have hthrown : (finalizeAccountPurge (purgeFinalization 1) retentionEnd.state.db).2 ≠ .ok true :=
    by decide +kernel
  have htombstone : ((finalizeAccountPurge (purgeFinalization 1)
      retentionEnd.state.db).1.accountDeletions.rows.map AccountDeletion.state,
      retentionEnd.state.db.accountDeletions.rows.map AccountDeletion.state) =
      ([.tombstoned], [.purgingR2]) := by decide +kernel
  rw [hatomic.unchanged hthrown] at htombstone
  exact absurd (congrArg Prod.fst htombstone) (by decide +kernel)

end HonoWarden
