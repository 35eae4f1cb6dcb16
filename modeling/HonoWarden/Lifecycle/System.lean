import HonoWarden.Lifecycle.PurgeRun

/-!
# The life of a deletion

`AccountDeletion.Move` is the state machine of one deletion: what a single step of
`lifecycleSystem` can make of a stored row, with the guard under which it does. The functions of
`Lifecycle/Repository.lean` and the purge runs refine it.

* `AccountDeletion.Move.active`, `AccountDeletion.Move.counts`: a deletion that is over stays over,
  and progress moves forward within what was prepared;
* **`LifecycleOp.exec_deletions`**: every step follows the machine, or begins a deletion;
* **`lifecycle_reachable_ledger`**: what every reachable state keeps (`DeletionLedger`).
-/

namespace HonoWarden

open Relational

/-! ## The moves of a deletion -/

/-- The progress a run writes in its next step. -/
def PurgePhase.recorded : PurgePhase → Option Nat
  | .failing _ deletedCount => some deletedCount
  | .recording _ _ deletedCount _ => some deletedCount
  | .conflicted _ deletedCount => some deletedCount
  | _ => none

/-- The step is the finalization of `input`. -/
def LifecycleOp.Finalizes (op : LifecycleOp) (s : LifecycleState) (input : AccountPurgeInput) :
    Prop :=
  ∃ run oracle request deletedCount expectedCount, op = .advance run oracle ∧
    s.runs[run]? = some (.finalizing request deletedCount expectedCount) ∧
    input = request.finalizeInput deletedCount oracle

/-- What one step makes of a stored deletion. -/
inductive AccountDeletion.Move (op : LifecycleOp) (s : LifecycleState) (d : AccountDeletion) :
    AccountDeletion → Prop where
  | kept : d.Move op s d
  | recovered (input : RecoverAccountDeletionInput) (hop : op = .recoverAccountDeletion input)
      (h : input.Recoverable d) : d.Move op s (input.settle d)
  | prepared (target : AccountPurgeTarget) (expectedCount : Nat)
      (hop : op = .markAccountPurgeReady target expectedCount)
      (h : target.Deletion (· = .recoverable) d) (hdue : d.recoverUntil ≤ target.now) :
      d.Move op s (target.prepare expectedCount d)
  | started (run : Nat) (oracle : PurgeOracle) (request : PurgeRequest)
      (hop : op = .advance run oracle) (hrun : s.runs[run]? = some (.arrived request))
      (h : request.Startable s.db d) : d.Move op s (request.start d)
  | progressed (run : Nat) (oracle : PurgeOracle) (phase : PurgePhase) (deletedCount : Nat)
      (errorCode : Option String) (hop : op = .advance run oracle)
      (hrun : s.runs[run]? = some phase) (hrecorded : phase.recorded = some deletedCount)
      (h : phase.request.Deletion (· = .purgingR2) d)
      (hforward : d.personalR2DeletedCount ≤ deletedCount)
      (hexpected : deletedCount ≤ d.personalR2ExpectedCount)
      (hsafe : deletedCount ≤ maxSafeInteger) :
      d.Move op s (phase.request.progress deletedCount errorCode d)
  | sealed (input : AccountPurgeInput) (hop : op.Finalizes s input)
      (h : input.Sealable s.db d) : d.Move op s (input.seal d)
  | buried (input : AccountPurgeInput) (d₁ : AccountDeletion) (hop : op.Finalizes s input)
      (hsealed : d₁ = d ∨ input.Sealable s.db d ∧ d₁ = input.seal d)
      (h : input.Deletion (· = .purgingR2) d₁) : d.Move op s (input.bury d₁)

/-- Every deletion of `D'` is a move of one of `D`, or the begun one. -/
def DeletionsMove (op : LifecycleOp) (s s' : LifecycleState) : Prop :=
  ∀ d' ∈ s'.db.accountDeletions.rows, (∃ d ∈ s.db.accountDeletions.rows, d.Move op s d') ∨
    ∃ input, op = .beginRecoverableAccountDeletion input ∧ d' = input.deletion ∧
      AccountDisabled s'.db input.userId

/-- The database after the next step of a run: untouched, or what one call made of it. -/
theorem PurgePhase.advance_db (phase : PurgePhase) (oracle : PurgeOracle) (db : Db) :
    (phase.advance oracle db).1 = db ∨
    (∃ request, phase = .arrived request ∧ (phase.advance oracle db).1 =
      (startAccountPurge request.toAccountPurgeTarget db).1) ∨
    (∃ deletedCount errorCode, phase.recorded = some deletedCount ∧
      (phase.advance oracle db).1 = (recordAccountPurgeProgress
        phase.request.toAccountPurgeTarget deletedCount errorCode db).1) ∨
    ∃ request deletedCount expectedCount,
      phase = .finalizing request deletedCount expectedCount ∧ (phase.advance oracle db).1 =
        (finalizeAccountPurge (request.finalizeInput deletedCount oracle) db).1 := by
  cases phase with
  | arrived request =>
    simp only [PurgePhase.advance]
    split
    · exact Or.inl rfl
    · refine Or.inr (Or.inl ⟨request, rfl, ?_⟩)
      split <;> rfl
  | deleting request objectKeys deletedCount expectedCount =>
    left
    simp only [PurgePhase.advance]
    repeat' split
    all_goals rfl
  | failing request deletedCount => exact Or.inr (Or.inr (Or.inl ⟨_, _, rfl, rfl⟩))
  | recording request remaining deletedCount expectedCount =>
    refine Or.inr (Or.inr (Or.inl ⟨deletedCount, none, rfl, ?_⟩))
    simp only [PurgePhase.advance, PurgePhase.request]
    repeat' split
    all_goals rfl
  | finalizing request deletedCount expectedCount =>
    refine Or.inr (Or.inr (Or.inr ⟨request, deletedCount, expectedCount, rfl, ?_⟩))
    simp only [PurgePhase.advance]
    split <;> rfl
  | conflicted request deletedCount => exact Or.inr (Or.inr (Or.inl ⟨_, _, rfl, rfl⟩))
  | done request outcome => exact Or.inl rfl

/-- **A step of a run moves the deletions.** -/
theorem advance_deletions {run : Nat} {oracle : PurgeOracle} {s : LifecycleState}
    {phase : PurgePhase} (hrun : s.runs[run]? = some phase) :
    ∀ d' ∈ (phase.advance oracle s.db).1.accountDeletions.rows,
      ∃ d ∈ s.db.accountDeletions.rows, d.Move (.advance run oracle) s d' := by
  intro d' hd'
  rcases phase.advance_db oracle s.db with hdb | ⟨request, rfl, hdb⟩ |
    ⟨deletedCount, errorCode, hrecorded, hdb⟩ | ⟨request, n, e, rfl, hdb⟩
  · rw [hdb] at hd'
    exact ⟨d', hd', .kept⟩
  · obtain ⟨D, hstart, hD, -⟩ := startAccountPurge_effect request.toAccountPurgeTarget s.db
    rw [hdb, hstart] at hd'
    simp only at hd'
    rw [hD] at hd'
    rcases mem_updateWhere_cases hd' with ⟨hmem, -⟩ | ⟨d, hd, hhit, rfl⟩
    · exact ⟨d', hmem, .kept⟩
    · exact ⟨d, hd, .started run oracle request rfl hrun hhit⟩
  · obtain ⟨D, hrecord, hD⟩ := recordAccountPurgeProgress_effect
      phase.request.toAccountPurgeTarget deletedCount errorCode s.db
    rw [hdb, hrecord] at hd'
    rcases hD d' hd' with hmem | ⟨d, hd, hpurging, hforward, hexpected, hsafe, rfl⟩
    · exact ⟨d', hmem, .kept⟩
    · exact ⟨d, hd, .progressed run oracle phase deletedCount errorCode rfl hrun hrecorded hpurging
        hforward hexpected hsafe⟩
  · have hop : (LifecycleOp.advance run oracle).Finalizes s (request.finalizeInput n oracle) :=
      ⟨run, oracle, request, n, e, rfl, hrun, rfl⟩
    rw [hdb] at hd'
    obtain ⟨d, hd, d₁, hsealed, hburied⟩ := (finalizeAccountPurge_effect _ s.db).2 d' hd'
    refine ⟨d, hd, ?_⟩
    rcases hburied with rfl | ⟨hpurging, rfl⟩
    · rcases hsealed with rfl | ⟨hsealable, rfl⟩
      · exact .kept
      · exact .sealed _ hop hsealable
    · exact .buried _ d₁ hop hsealed hpurging

/-- **Every step moves the deletions, or begins one.** -/
theorem LifecycleOp.exec_deletions (op : LifecycleOp) (s : LifecycleState) :
    DeletionsMove op s (op.exec s) := by
  intro d' hd'
  cases op with
  | beginRecoverableAccountDeletion input =>
    rcases (beginRecoverableAccountDeletion_effect input s.db).2 d' hd' with
      hmem | ⟨rfl, hdisabled⟩
    · exact Or.inl ⟨d', hmem, .kept⟩
    · exact Or.inr ⟨input, rfl, rfl, hdisabled⟩
  | recoverAccountDeletion input =>
    left
    rcases recoverAccountDeletion_effect input s.db d' hd' with ⟨d, hd, hrec, rfl⟩ | ⟨hmem, -⟩
    · exact ⟨d, hd, .recovered input rfl hrec⟩
    · exact ⟨d', hmem, .kept⟩
  | markAccountPurgeReady target expectedCount =>
    left
    obtain ⟨D, hdb, hD⟩ := markAccountPurgeReady_effect target expectedCount s.db
    simp only [LifecycleOp.exec, hdb] at hd'
    rcases hD d' hd' with hmem | ⟨d, hd, hrecoverable, hdue, rfl⟩
    · exact ⟨d', hmem, .kept⟩
    · exact ⟨d, hd, .prepared target expectedCount rfl hrecoverable hdue⟩
  | purge request => exact Or.inl ⟨d', hd', .kept⟩
  | advance run oracle =>
    left
    simp only [LifecycleOp.exec] at hd'
    cases hrun : s.runs[run]? with
    | none =>
      rw [hrun] at hd'
      exact ⟨d', hd', .kept⟩
    | some phase =>
      rw [hrun] at hd'
      exact advance_deletions hrun d' hd'

theorem startAccountPurge_disabled (target : AccountPurgeTarget) (db : Db) :
    KeepsDisabled db (startAccountPurge target db).1 := by
  obtain ⟨D, hdb, -⟩ := startAccountPurge_effect target db
  rw [hdb]
  exact .of_users rfl

theorem recordAccountPurgeProgress_disabled (target : AccountPurgeTarget) (deletedCount : Int)
    (errorCode : Option String) (db : Db) :
    KeepsDisabled db (recordAccountPurgeProgress target deletedCount errorCode db).1 := by
  unfold recordAccountPurgeProgress
  split
  · exact .refl db
  · exact execute_within .refl (TableIn.update_within fun _ _ => .of_users rfl)

theorem PurgePhase.advance_disabled (phase : PurgePhase) (oracle : PurgeOracle) (db : Db) :
    KeepsDisabled db (phase.advance oracle db).1 := by
  rcases phase.advance_db oracle db with hdb | ⟨request, -, hdb⟩ | ⟨n, code, -, hdb⟩ |
    ⟨request, n, e, -, hdb⟩ <;> rw [hdb]
  · exact .refl db
  · exact startAccountPurge_disabled _ _
  · exact recordAccountPurgeProgress_disabled _ _ _ _
  · exact (finalizeAccountPurge_effect _ db).1

/-- Only a recovery enables an account. -/
theorem LifecycleOp.exec_disabled (op : LifecycleOp) (s : LifecycleState)
    (hop : ∀ input, op ≠ .recoverAccountDeletion input) : KeepsDisabled s.db (op.exec s).db := by
  cases op with
  | beginRecoverableAccountDeletion input =>
    exact (beginRecoverableAccountDeletion_effect input s.db).1
  | recoverAccountDeletion input => exact absurd rfl (hop input)
  | markAccountPurgeReady target expectedCount =>
    obtain ⟨D, hdb, -⟩ := markAccountPurgeReady_effect target expectedCount s.db
    simp only [LifecycleOp.exec, hdb]
    exact .of_users rfl
  | purge request => exact .refl s.db
  | advance run oracle =>
    simp only [LifecycleOp.exec]
    split
    · exact .refl s.db
    · exact PurgePhase.advance_disabled _ oracle s.db

/-! ## What a reachable state keeps -/

/-- A deletion that is neither over nor recovered. -/
def AccountDeletionState.Active (state : AccountDeletionState) : Prop :=
  state = .recoverable ∨ state.Purging

/-- What every reachable state keeps, against the names drawn so far. -/
structure DeletionLedger (issued : List String) (s : LifecycleState) : Prop where
  disabled : ∀ d ∈ s.db.accountDeletions.rows, d.state.Active → AccountDisabled s.db d.userId
  counted : ∀ d ∈ s.db.accountDeletions.rows, d.personalR2DeletedCount ≤ d.personalR2ExpectedCount
  safe : ∀ d ∈ s.db.accountDeletions.rows, d.personalR2DeletedCount ≤ maxSafeInteger
  unstarted : ∀ d ∈ s.db.accountDeletions.rows, d.state = .recoverable ∨ d.state = .purgeReady →
    d.personalR2DeletedCount = 0
  generation : ∀ d ∈ s.db.accountDeletions.rows, d.lifecycleGeneration ∈ issued
  operation : ∀ d ∈ s.db.accountDeletions.rows, ∀ id, d.purgeOperationId = some id → id ∈ issued

namespace AccountDeletion.Move

variable {op : LifecycleOp} {s : LifecycleState} {d d' : AccountDeletion}

theorem frame (h : d.Move op s d') : d'.userId = d.userId ∧
    d'.lifecycleGeneration = d.lifecycleGeneration ∧ d'.recoverUntil = d.recoverUntil := by
  cases h with
  | buried input d₁ hop hsealed h => rcases hsealed with rfl | ⟨-, rfl⟩ <;> exact ⟨rfl, rfl, rfl⟩
  | _ => exact ⟨rfl, rfl, rfl⟩

/-- A deletion that is over stays over. -/
theorem active (h : d.Move op s d') (hactive : d'.state.Active) : d.state.Active := by
  cases h with
  | kept => exact hactive
  | recovered input hop h => simp [RecoverAccountDeletionInput.settle,
      AccountDeletionState.Active, AccountDeletionState.Purging] at hactive
  | prepared target expectedCount hop h hdue => exact Or.inl h.2.2
  | started run oracle request hop hrun h => exact Or.inr h.1.2.2
  | progressed run oracle phase n code hop hrun hrec h => exact Or.inr (Or.inr h.2.2)
  | sealed input hop h => exact Or.inr (Or.inr h.1.2.2)
  | buried input d₁ hop hsealed h => simp [AccountPurgeInput.bury, AccountDeletionState.Active,
      AccountDeletionState.Purging] at hactive

/-- The progress of a deletion stays within what it was prepared for, and moves forward. -/
theorem counts (h : d.Move op s d') (hcounted : d.personalR2DeletedCount ≤ d.personalR2ExpectedCount)
    (hsafe : d.personalR2DeletedCount ≤ maxSafeInteger)
    (hunstarted : d.state = .recoverable ∨ d.state = .purgeReady → d.personalR2DeletedCount = 0) :
    d.personalR2DeletedCount ≤ d'.personalR2DeletedCount ∧
      d'.personalR2DeletedCount ≤ d'.personalR2ExpectedCount ∧
      d'.personalR2DeletedCount ≤ maxSafeInteger ∧
      (d'.state = .recoverable ∨ d'.state = .purgeReady → d'.personalR2DeletedCount = 0) := by
  cases h with
  | kept => exact ⟨le_rfl, hcounted, hsafe, hunstarted⟩
  | recovered input hop h => exact ⟨le_rfl, hcounted, hsafe, fun hstate => by
      simp [RecoverAccountDeletionInput.settle] at hstate⟩
  | prepared target expectedCount hop h hdue =>
    exact ⟨(hunstarted (Or.inl h.2.2)).le, Nat.zero_le _, Nat.zero_le _, fun _ => rfl⟩
  | started run oracle request hop hrun h =>
    have hzero : (request.start d).personalR2DeletedCount = d.personalR2DeletedCount := by
      simp only [AccountPurgeTarget.start]
      split
      · rename_i hready
        exact (hunstarted (Or.inr hready)).symm
      · rfl
    rw [hzero]
    exact ⟨le_rfl, hcounted, hsafe, fun hstate => by simp [AccountPurgeTarget.start] at hstate⟩
  | progressed run oracle phase n code hop hrun hrec h hforward hexpected hle =>
    refine ⟨hforward, hexpected, hle, fun hstate => ?_⟩
    have hpurging : d.state = .purgingR2 := h.2.2
    simp [AccountPurgeTarget.progress, hpurging] at hstate
  | sealed input hop h => exact ⟨le_rfl, hcounted, hsafe, hunstarted⟩
  | buried input d₁ hop hsealed h =>
    have hcounts : d₁.personalR2DeletedCount = d.personalR2DeletedCount ∧
        d₁.personalR2ExpectedCount = d.personalR2ExpectedCount := by
      rcases hsealed with rfl | ⟨-, rfl⟩ <;> exact ⟨rfl, rfl⟩
    refine ⟨hcounts.1.ge, ?_, ?_, fun hstate => by simp [AccountPurgeInput.bury] at hstate⟩
    · exact hcounts.1.trans_le (hcounted.trans hcounts.2.ge)
    · exact hcounts.1.trans_le hsafe

/-- A purge operation is an old one, or drawn in this step. -/
theorem operation (h : d.Move op s d') {id : String} (hid : d'.purgeOperationId = some id) :
    d.purgeOperationId = some id ∨ id ∈ op.draws := by
  have hseal : ∀ input, op.Finalizes s input → input.auditEventId ∈ op.draws := by
    rintro input ⟨run, oracle, request, n, e, rfl, -, rfl⟩
    exact List.mem_singleton_self _
  cases h with
  | sealed input hop h =>
    obtain rfl : input.auditEventId = id := Option.some.inj hid
    exact Or.inr (hseal input hop)
  | buried input d₁ hop hsealed h =>
    rcases hsealed with rfl | ⟨-, rfl⟩
    · exact Or.inl hid
    · obtain rfl : input.auditEventId = id := Option.some.inj hid
      exact Or.inr (hseal input hop)
  | _ => exact Or.inl hid

end AccountDeletion.Move

/-- The account of an active deletion is disabled after every step. -/
theorem DeletionLedger.exec_disabled {issued : List String} {s : LifecycleState}
    (h : DeletionLedger issued s) (op : LifecycleOp) :
    ∀ d' ∈ (op.exec s).db.accountDeletions.rows, d'.state.Active →
      AccountDisabled (op.exec s).db d'.userId := by
  intro d' hd' hactive
  rcases op.exec_deletions s d' hd' with ⟨d, hd, hmove⟩ | ⟨input, rfl, rfl, hdisabled⟩
  · have hdisabled : AccountDisabled s.db d'.userId := by
      rw [hmove.frame.1]
      exact h.disabled d hd (hmove.active hactive)
    by_cases hrecover : ∃ input, op = .recoverAccountDeletion input
    · obtain ⟨input, rfl⟩ := hrecover
      rcases recoverAccountDeletion_effect input s.db d' hd' with ⟨d, -, -, rfl⟩ | ⟨-, hkept⟩
      · simp [RecoverAccountDeletionInput.settle, AccountDeletionState.Active,
          AccountDeletionState.Purging] at hactive
      · exact hkept hdisabled
    · push Not at hrecover
      exact op.exec_disabled s hrecover _ hdisabled
  · exact hdisabled

/-- **A step keeps the ledger.** -/
theorem DeletionLedger.exec {issued : List String} {s : LifecycleState}
    (h : DeletionLedger issued s) (op : LifecycleOp) :
    DeletionLedger (op.draws ++ issued) (op.exec s) := by
  have hcounts : ∀ d' ∈ (op.exec s).db.accountDeletions.rows,
      d'.personalR2DeletedCount ≤ d'.personalR2ExpectedCount ∧
      d'.personalR2DeletedCount ≤ maxSafeInteger ∧
      (d'.state = .recoverable ∨ d'.state = .purgeReady → d'.personalR2DeletedCount = 0) := by
    intro d' hd'
    rcases op.exec_deletions s d' hd' with ⟨d, hd, hmove⟩ | ⟨input, -, rfl, -⟩
    · exact (hmove.counts (h.counted d hd) (h.safe d hd) (h.unstarted d hd)).2
    · exact ⟨le_rfl, Nat.zero_le _, fun _ => rfl⟩
  refine ⟨h.exec_disabled op, fun d' hd' => (hcounts d' hd').1, fun d' hd' => (hcounts d' hd').2.1,
    fun d' hd' => (hcounts d' hd').2.2, fun d' hd' => ?_, fun d' hd' id hid => ?_⟩
  · rcases op.exec_deletions s d' hd' with ⟨d, hd, hmove⟩ | ⟨input, rfl, rfl, -⟩
    · rw [hmove.frame.2.1]
      exact List.mem_append_right _ (h.generation d hd)
    · exact List.mem_append_left _ (List.mem_singleton_self _)
  · rcases op.exec_deletions s d' hd' with ⟨d, hd, hmove⟩ | ⟨input, rfl, rfl, -⟩
    · rcases hmove.operation hid with hold | hdrawn
      · exact List.mem_append_right _ (h.operation d hd id hold)
      · exact List.mem_append_left _ hdrawn
    · cases hid

theorem lifecycleSystem_ledger {c c' : Config LifecycleState String}
    {move : Move LifecycleOp LifecycleState} (hnext : lifecycleSystem.Next c move c')
    (h : DeletionLedger c.issued c.state) : DeletionLedger c'.issued c'.state := by
  obtain ⟨hexec, -, hissued⟩ := hnext
  rw [hexec, hissued]
  cases move with
  | request op => exact h.exec op
  | surroundings write =>
    simp only [Move.exec, keepDeletions]
    split
    · rename_i hkeep
      obtain ⟨hdeletions, husers⟩ := hkeep
      refine ⟨?_, ?_, ?_, ?_, ?_, ?_⟩ <;> simp only [hdeletions]
      · intro d hd hactive
        obtain ⟨u, hu, hid, hdisabled⟩ := h.disabled d hd hactive
        obtain ⟨u', hu', hid', hdisabled'⟩ := husers u hu
        exact ⟨u', hu', hid'.trans hid, hdisabled' ▸ hdisabled⟩
      · exact h.counted
      · exact h.safe
      · exact h.unstarted
      · exact h.generation
      · exact h.operation
    · exact h

/-- Where the run starts. -/
def lifecycleStart : Config LifecycleState String := { state := {} }

/-- The ledger holds in every reachable state. -/
theorem lifecycle_reachable_ledger {c : Config LifecycleState String}
    {moves : List (Move LifecycleOp LifecycleState)}
    (h : Run lifecycleSystem lifecycleStart moves c) : DeletionLedger c.issued c.state := by
  refine h.invariant (I := fun c => DeletionLedger c.issued c.state) ?_ lifecycleSystem_ledger
  refine ⟨?_, ?_, ?_, ?_, ?_, ?_⟩ <;> simp [lifecycleStart]

end HonoWarden
