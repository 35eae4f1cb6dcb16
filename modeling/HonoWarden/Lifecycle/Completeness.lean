import HonoWarden.Lifecycle.Atomic

/-!
# A purge that reports `tombstoned` is complete, under its condition

What a deletion promises from its beginning to its tombstone (`LifecycleSafe`): it is recovered
only before its cutoff and prepared only at or after it, its states follow one order, its progress
never moves back or past what was prepared, and when a purge run reports `tombstoned` every object
of the inventory was deleted and no row of the account's own is left (`PurgeCompleted`).

The progress is an offset into the sorted object keys, which stay in the table until the end. The
ledger says that the keys before the offset of a deletion, and before the offset of every run on
its way, have been deleted (`PurgePhase.Backed`).

The batch never names the API keys and the passkeys of the account, and an offset means nothing
once the account gains an attachment; `PurgeCondition` rules out both.

**Headline**: `accountDeletion_complete`; `purge_keepsPasskey` is the run that breaks it.
-/

namespace HonoWarden

open Relational

/-! ## Pages of a sorted inventory -/

/-- The inventory in the order of the pages. -/
def sortedKeys (keys : List String) : List String := keys.mergeSort fun a b => a ≤ b

theorem sortedKeys_perm (keys : List String) : (sortedKeys keys).Perm keys :=
  List.mergeSort_perm _ _

/-- Two inventories of the same size, one in the other, are paged alike. -/
theorem sortedKeys_eq {keys keys' : List String} (hnodup : keys'.Nodup)
    (hsub : keys' ⊆ keys) (hlen : keys.length ≤ keys'.length) :
    sortedKeys keys' = sortedKeys keys := by
  have hperm : keys'.Perm keys :=
    (hnodup.subperm hsub).perm_of_length_le hlen
  have hpairs : ∀ l : List String, (sortedKeys l).Pairwise fun a b => a ≤ b := by
    intro l
    have htrans : ∀ a b c : String, decide (a ≤ b) = true → decide (b ≤ c) = true →
        decide (a ≤ c) = true := by
      intro a b c hab hbc
      simp only [decide_eq_true_eq] at hab hbc ⊢
      exact hab.trans hbc
    have htotal : ∀ a b : String, (decide (a ≤ b) || decide (b ≤ a)) = true := by
      intro a b
      simpa using le_total a b
    refine (List.pairwise_mergeSort htrans htotal l).imp ?_
    · intro a b h
      simpa using h
  exact ((sortedKeys_perm keys').trans (hperm.trans (sortedKeys_perm keys).symm)).eq_of_pairwise
    (fun a b _ _ hab hba => le_antisymm hab hba) (hpairs _) (hpairs _)

/-- The page at an offset. -/
def pageAt (keys : List String) (offset : Nat) : List String :=
  ((sortedKeys keys).drop offset).take accountPurgeR2BatchSize

/-- The keys before an offset and the page at it are the keys before the next offset. -/
theorem take_page {keys : List String} {offset : Nat} {key : String}
    (h : key ∈ (sortedKeys keys).take (offset + (pageAt keys offset).length)) :
    key ∈ (sortedKeys keys).take offset ∨ key ∈ pageAt keys offset := by
  rw [List.take_add] at h
  rcases List.mem_append.mp h with hold | hnew
  · exact Or.inl hold
  · refine Or.inr ?_
    unfold pageAt
    rw [pageAt, List.length_take] at hnew
    exact List.take_subset_take_left _ (min_le_left _ _) hnew

/-! ## Personal attachments and the factors no batch names -/

/-- No account gains a personal attachment. -/
def PersonalShrinks (db db' : Db) : Prop :=
  ∀ userId, ∀ a ∈ db'.cipherAttachments.rows, PersonalAttachment db' userId a →
    a ∈ db.cipherAttachments.rows ∧ PersonalAttachment db userId a

theorem PersonalShrinks.refl (db : Db) : PersonalShrinks db db := fun _ _ ha hp => ⟨ha, hp⟩

theorem PersonalShrinks.trans {db db' db'' : Db} (h : PersonalShrinks db db')
    (h' : PersonalShrinks db' db'') : PersonalShrinks db db'' := by
  intro userId a ha hp
  obtain ⟨ha', hp'⟩ := h' userId a ha hp
  exact h userId a ha' hp'

theorem PersonalShrinks.of_tables {db db' : Db} (hciphers : db'.ciphers = db.ciphers)
    (hattachments : db'.cipherAttachments = db.cipherAttachments) : PersonalShrinks db db' := by
  intro userId a ha hp
  unfold PersonalAttachment at hp ⊢
  rw [hciphers] at hp
  rw [hattachments] at ha
  exact ⟨ha, hp⟩

theorem PurgeStep.shrinks {db db' : Db} (h : PurgeStep db db') : PersonalShrinks db db' := by
  rintro userId a ha ⟨c', hc', hid, huser, hnone⟩
  refine ⟨h.attachments a ha, ?_⟩
  obtain ⟨c, hc, rfl | rfl⟩ := h.ciphers c' hc'
  · exact ⟨c', hc, hid, huser, hnone⟩
  · exact ⟨c, hc, hid, huser, hnone⟩

/-- The keys of an account's personal attachments only become fewer. -/
theorem PersonalShrinks.objectKeys {db db' : Db} (h : PersonalShrinks db db') (userId : String) :
    personalObjectKeys db' userId ⊆ personalObjectKeys db userId := by
  intro key hkey
  obtain ⟨a, ha, rfl⟩ := List.mem_map.mp hkey
  obtain ⟨hmem, hpersonal⟩ := List.mem_filter.mp ha
  obtain ⟨hmem', hpersonal'⟩ := h userId a hmem (by simpa using hpersonal)
  exact List.mem_map.mpr ⟨a, List.mem_filter.mpr ⟨hmem', by simpa using hpersonal'⟩, rfl⟩

/-- An object key names one attachment. -/
theorem personalObjectKeys_nodup (db : Db) (userId : String) :
    (personalObjectKeys db userId).Nodup := by
  refine List.Nodup.map_on ?_ (db.cipherAttachments.nodup.filter _)
  intro a ha b hb hkey
  exact db.cipherAttachments.eq_of_alternate (List.mem_filter.mp ha).1 (List.mem_filter.mp hb).1 hkey

theorem personalObjectKeys_length (db : Db) (userId : String) :
    (personalObjectKeys db userId).length = personalAttachmentCount db userId := by
  rw [personalObjectKeys, List.length_map, personalAttachmentCount, List.countP_eq_length_filter]

/-- The API keys and the passkeys are as they were. -/
def FactorFrame (db db' : Db) : Prop :=
  db'.personalApiKeys = db.personalApiKeys ∧ db'.webauthnCredentials = db.webauthnCredentials

theorem FactorFrame.refl (db : Db) : FactorFrame db db := ⟨rfl, rfl⟩

theorem FactorFrame.trans {db db' db'' : Db} (h : FactorFrame db db')
    (h' : FactorFrame db' db'') : FactorFrame db db'' :=
  ⟨h'.1.trans h.1, h'.2.trans h.2⟩

/-- **A finalization only removes rows of the vault, and no API key or passkey.** -/
theorem finalizeAccountPurge_frame (input : AccountPurgeInput) (db : Db) :
    PersonalShrinks db (finalizeAccountPurge input db).1 ∧
      FactorFrame db (finalizeAccountPurge input db).1 := by
  have hall : ∀ st ∈ input.batch,
      st.Within fun db db' => PersonalShrinks db db' ∧ FactorFrame db db' := by
    have hbody : ∀ st ∈ input.body,
        st.Within fun db db' => PersonalShrinks db db' ∧ FactorFrame db db' := by
      intro st hst db db' n r h
      have hstep := purgeBody_purge input st hst db db' n r h
      exact ⟨hstep.shrinks, hstep.apiKeys, hstep.passkeys⟩
    intro st hst
    have hst' : st ∈ input.sealDeletion :: (input.body ++ input.finish) := hst
    simp only [List.mem_cons, List.mem_append, AccountPurgeInput.finish, List.not_mem_nil,
      or_false] at hst'
    rcases hst' with rfl | hst' | rfl | rfl | rfl
    · exact TableIn.updateReturning_within fun _ _ => ⟨.of_tables rfl rfl, rfl, rfl⟩
    · exact hbody st hst'
    · refine TableIn.updateTriggering_within (fun _ _ => ⟨.of_tables rfl rfl, rfl, rfl⟩)
        (fun h h' => ⟨h.1.trans h'.1, h.2.trans h'.2⟩) fun images db => ?_
      obtain ⟨U, hdb, -⟩ := invalidateStaleUserKeyId_eq images db
      rw [hdb]
      exact ⟨.of_tables rfl rfl, rfl, rfl⟩
    · exact TableIn.update_within fun _ _ => ⟨.of_tables rfl rfl, rfl, rfl⟩
    · exact TableIn.insertSelect_within fun _ _ => ⟨.of_tables rfl rfl, rfl, rfl⟩
  exact commit_within (R := fun db db' => PersonalShrinks db db' ∧ FactorFrame db db')
    (fun db => ⟨.refl db, .refl db⟩) (fun h h' => ⟨h.1.trans h'.1, h.2.trans h'.2⟩) hall

theorem beginRecoverableAccountDeletion_shrinks (input : BeginRecoverableAccountDeletionInput)
    (db : Db) : PersonalShrinks db (beginRecoverableAccountDeletion input db).1 := by
  refine commit_within .refl .trans fun st hst => ?_
  simp only [BeginRecoverableAccountDeletionInput.batch, List.mem_cons, List.not_mem_nil,
    or_false] at hst
  rcases hst with rfl | rfl | rfl | hst
  · exact select_within .refl
  · exact TableIn.updateReturning_within fun _ _ => .of_tables rfl rfl
  · intro db db' n r h
    obtain ⟨D, rfl, -⟩ := insertDeletion_ok input h
    exact .of_tables rfl rfl
  · rcases hst with rfl | rfl | rfl | rfl | rfl
    all_goals first
      | exact TableIn.update_within fun _ _ => .of_tables rfl rfl
      | exact TableIn.insertSelect_within fun _ _ => .of_tables rfl rfl

theorem recoverAccountDeletion_shrinks (input : RecoverAccountDeletionInput) (db : Db) :
    PersonalShrinks db (recoverAccountDeletion input db).1 := by
  refine commit_within .refl .trans fun st hst => ?_
  simp only [RecoverAccountDeletionInput.batch, List.mem_cons, List.not_mem_nil, or_false] at hst
  rcases hst with rfl | rfl | rfl
  · exact TableIn.updateReturning_within fun _ _ => .of_tables rfl rfl
  · exact TableIn.update_within fun _ _ => .of_tables rfl rfl
  · exact TableIn.insertSelect_within fun _ _ => .of_tables rfl rfl

theorem PurgePhase.advance_shrinks (phase : PurgePhase) (oracle : PurgeOracle) (db : Db) :
    PersonalShrinks db (phase.advance oracle db).1 := by
  rcases phase.advance_db oracle db with hdb | ⟨request, -, hdb⟩ | ⟨n, code, -, hdb⟩ |
    ⟨request, n, e, -, hdb⟩ <;> rw [hdb]
  · exact .refl db
  · obtain ⟨D, hstart, -⟩ := startAccountPurge_effect request.toAccountPurgeTarget db
    rw [hstart]
    exact .of_tables rfl rfl
  · obtain ⟨D, hrecord, -⟩ :=
      recordAccountPurgeProgress_effect phase.request.toAccountPurgeTarget n code db
    rw [hrecord]
    exact .of_tables rfl rfl
  · exact (finalizeAccountPurge_frame _ db).1

/-- No step of the lifecycle gives an account a personal attachment. -/
theorem LifecycleOp.exec_shrinks (op : LifecycleOp) (s : LifecycleState) :
    PersonalShrinks s.db (op.exec s).db := by
  cases op with
  | beginRecoverableAccountDeletion input =>
    exact beginRecoverableAccountDeletion_shrinks input s.db
  | recoverAccountDeletion input => exact recoverAccountDeletion_shrinks input s.db
  | markAccountPurgeReady target expectedCount =>
    obtain ⟨D, hdb, -⟩ := markAccountPurgeReady_effect target expectedCount s.db
    simp only [LifecycleOp.exec, hdb]
    exact .of_tables rfl rfl
  | purge request => exact .refl s.db
  | advance run oracle =>
    simp only [LifecycleOp.exec]
    split
    · exact .refl s.db
    · exact PurgePhase.advance_shrinks _ oracle s.db

/-! ## The ledger of objects -/

/-- The objects before an offset of the inventory have been deleted. -/
def LifecycleState.Deleted (s : LifecycleState) (generation : String) (offset : Nat) : Prop :=
  ∀ key ∈ (sortedKeys (s.inventory generation)).take offset, key ∈ s.deletedObjects

/-- The inventory of a deletion that is being purged. -/
structure AccountDeletion.Inventoried (s : LifecycleState) (d : AccountDeletion) : Prop where
  size : (s.inventory d.lifecycleGeneration).length = d.personalR2ExpectedCount
  holds : personalObjectKeys s.db d.userId ⊆ s.inventory d.lifecycleGeneration
  deleted : s.Deleted d.lifecycleGeneration d.personalR2DeletedCount

/-- The offset up to which a run counts the objects as deleted. -/
def PurgePhase.covered : PurgePhase → Option Nat
  | .deleting _ _ deletedCount _ => some deletedCount
  | .failing _ deletedCount => some deletedCount
  | .recording _ _ deletedCount _ => some deletedCount
  | .finalizing _ deletedCount _ => some deletedCount
  | .conflicted _ deletedCount => some deletedCount
  | _ => none

/-- A deletion of this generation is past its preparation. -/
def PurgeBegun (s : LifecycleState) (generation : String) : Prop :=
  ∀ d ∈ s.db.accountDeletions.rows, d.lifecycleGeneration = generation →
    d.state = .purgingR2 ∨ d.state = .tombstoned

/-- What a run on its way stands on. -/
structure PurgePhase.Backed (s : LifecycleState) (phase : PurgePhase) (offset : Nat) : Prop where
  begun : PurgeBegun s phase.request.lifecycleGeneration
  deleted : s.Deleted phase.request.lifecycleGeneration offset
  page : ∀ request objectKeys expectedCount,
    phase = .deleting request objectKeys offset expectedCount →
    objectKeys = pageAt (s.inventory phase.request.lifecycleGeneration) offset

/-- What every state keeps when no account gains an attachment while it is purged. -/
structure ObjectLedger (issued : List String) (s : LifecycleState) : Prop where
  base : DeletionLedger issued s
  inventoried : ∀ d ∈ s.db.accountDeletions.rows, d.state = .purgingR2 → d.Inventoried s
  issued : ∀ phase ∈ s.runs, ∀ offset, phase.covered = some offset →
    phase.request.lifecycleGeneration ∈ issued
  backed : ∀ phase ∈ s.runs, ∀ offset, phase.covered = some offset → phase.Backed s offset

theorem PurgePhase.recorded_covered {phase : PurgePhase} {n : Nat} (h : phase.recorded = some n) :
    phase.covered = some n := by
  cases phase <;> first | exact h | cases h

section Exec

variable {issued : List String} {s : LifecycleState} {op : LifecycleOp}

/-- The inventory of a generation is taken once, when its purge begins. -/
theorem LifecycleOp.exec_inventory (op : LifecycleOp) {generation : String}
    (hbegun : PurgeBegun s generation) :
    (op.exec s).inventory generation = s.inventory generation := by
  cases op with
  | advance run oracle =>
    simp only [LifecycleOp.exec]
    split
    · rfl
    · rename_i phase hrun
      simp only
      split
      · rename_i hbegins
        refine Function.update_of_ne ?_ _ _
        rintro rfl
        obtain ⟨⟨d, hd, -, hgeneration, hready⟩, -⟩ := hbegins
        rcases hbegun d hd hgeneration with hstate | hstate <;> rw [hready] at hstate <;> cases hstate
      · rfl
  | _ => rfl

theorem LifecycleOp.exec_deletedObjects (op : LifecycleOp) (s : LifecycleState) :
    s.deletedObjects ⊆ (op.exec s).deletedObjects := by
  cases op with
  | advance run oracle =>
    simp only [LifecycleOp.exec]
    split
    · exact fun _ h => h
    · exact fun _ h => List.mem_append_left _ h
  | _ => exact fun _ h => h

theorem LifecycleState.Deleted.exec {generation : String} {offset : Nat}
    (h : s.Deleted generation offset) (hbegun : PurgeBegun s generation) :
    (op.exec s).Deleted generation offset := by
  intro key hkey
  rw [op.exec_inventory hbegun] at hkey
  exact op.exec_deletedObjects s (h key hkey)

/-- A generation names one deletion. -/
theorem purgeBegun_of_mem {d : AccountDeletion} (hd : d ∈ s.db.accountDeletions.rows)
    (hstate : d.state = .purgingR2 ∨ d.state = .tombstoned) :
    PurgeBegun s d.lifecycleGeneration := by
  intro d' hd' hgeneration
  rwa [s.db.accountDeletions.eq_of_alternate hd' hd hgeneration]

/-- A purge that has begun goes on, or is over. -/
theorem AccountDeletion.Move.begun {d d' : AccountDeletion} (h : d.Move op s d')
    (hstate : d.state = .purgingR2 ∨ d.state = .tombstoned) :
    d'.state = .purgingR2 ∨ d'.state = .tombstoned := by
  cases h with
  | kept => exact hstate
  | recovered input hop h => exact absurd h.2.2.1 (by rcases hstate with h | h <;> simp [h])
  | prepared target n hop h hdue => exact absurd h.2.2 (by rcases hstate with h | h <;> simp [h])
  | started run oracle request hop hrun h => exact Or.inl rfl
  | progressed run oracle phase n code hop hrun hrec h => exact hstate
  | sealed input hop h => exact hstate
  | buried input d₁ hop hsealed h => exact Or.inr rfl

theorem PurgeBegun.exec {generation : String} (h : PurgeBegun s generation)
    (hissued : generation ∈ issued) (hfresh : ∀ x ∈ op.draws, x ∉ issued) :
    PurgeBegun (op.exec s) generation := by
  intro d' hd' hgeneration
  rcases op.exec_deletions s d' hd' with ⟨d, hd, hmove⟩ | ⟨input, rfl, rfl, -⟩
  · exact hmove.begun (h d hd (hmove.frame.2.1.symm.trans hgeneration))
  · have hsame : input.lifecycleGeneration = generation := hgeneration
    exact absurd (hsame ▸ hissued) (hfresh _ (List.mem_singleton_self _))

/-- A deletion that keeps its progress keeps its inventory. -/
theorem AccountDeletion.Inventoried.exec {d d' : AccountDeletion} (h : d.Inventoried s)
    (hbegun : PurgeBegun s d.lifecycleGeneration)
    (hgeneration : d'.lifecycleGeneration = d.lifecycleGeneration) (huser : d'.userId = d.userId)
    (hexpected : d'.personalR2ExpectedCount = d.personalR2ExpectedCount)
    (hdeleted : s.Deleted d.lifecycleGeneration d'.personalR2DeletedCount) :
    d'.Inventoried (op.exec s) := by
  refine ⟨?_, ?_, ?_⟩ <;> rw [hgeneration]
  · rw [op.exec_inventory hbegun, hexpected]
    exact h.size
  · rw [op.exec_inventory hbegun, huser]
    exact fun key hkey => h.holds ((op.exec_shrinks s).objectKeys d.userId hkey)
  · exact hdeleted.exec hbegun

/-- **The inventory of a purge that starts**: it is taken now, or it is still the one the account
had when its purge began. -/
theorem started_inventoried {run : Nat} {oracle : PurgeOracle} {request : PurgeRequest}
    {d : AccountDeletion} (hrun : s.runs[run]? = some (.arrived request))
    (hd : d ∈ s.db.accountDeletions.rows) (hstartable : request.Startable s.db d)
    (hstarted : request.start d ∈
      ((LifecycleOp.advance run oracle).exec s).db.accountDeletions.rows)
    (hinventoried : d.state = .purgingR2 → d.Inventoried s) :
    (request.start d).Inventoried ((LifecycleOp.advance run oracle).exec s) ∧
      sortedKeys (personalObjectKeys s.db request.userId) = sortedKeys
        (((LifecycleOp.advance run oracle).exec s).inventory request.lifecycleGeneration) := by
  obtain ⟨⟨huser, hgeneration, hready | hpurging⟩, -, -, hcount⟩ := hstartable
  · have hbegins : (PurgePhase.arrived request).request.Begins s.db
        ((PurgePhase.arrived request).advance oracle s.db).1 := by
      refine ⟨⟨d, hd, huser, hgeneration, hready⟩, request.start d, ?_, huser, hgeneration, rfl⟩
      simp only [LifecycleOp.exec, hrun] at hstarted
      exact hstarted
    have hinventory : ((LifecycleOp.advance run oracle).exec s).inventory
        request.lifecycleGeneration = personalObjectKeys s.db request.userId := by
      simp only [LifecycleOp.exec, hrun]
      rw [if_pos hbegins]
      exact Function.update_self _ _ _
    have hgeneration' : (request.start d).lifecycleGeneration = request.lifecycleGeneration :=
      hgeneration
    refine ⟨⟨?_, ?_, ?_⟩, by rw [hinventory]⟩
    · rw [hgeneration', hinventory, personalObjectKeys_length, ← huser]
      exact hcount.symm
    · rw [hgeneration', hinventory, ← huser]
      exact (LifecycleOp.exec_shrinks _ s).objectKeys d.userId
    · intro key hkey
      have hzero : (request.start d).personalR2DeletedCount = 0 := if_pos hready
      simp [hzero] at hkey
  · have hledger := hinventoried hpurging
    have hbegun := purgeBegun_of_mem hd (Or.inl hpurging)
    have hprogress : (request.start d).personalR2DeletedCount = d.personalR2DeletedCount := by
      refine if_neg ?_
      rw [hpurging]
      exact AccountDeletionState.noConfusion
    refine ⟨hledger.exec hbegun rfl rfl rfl (hprogress ▸ hledger.deleted), ?_⟩
    rw [← hgeneration, LifecycleOp.exec_inventory _ hbegun, ← huser]
    refine sortedKeys_eq (personalObjectKeys_nodup _ _) hledger.holds ?_
    rw [personalObjectKeys_length, hledger.size, hcount]

/-- The page a run is handed is the page of the inventory. -/
theorem purgeObjectKeys_eq {target : AccountPurgeTarget} {d : AccountDeletion} {db : Db}
    (hd : d ∈ db.accountDeletions.rows) (hstartable : target.Startable db d) :
    purgeObjectKeys target db = ((sortedKeys (personalObjectKeys db target.userId)).drop
      (if d.state = .purgingR2 then d.personalR2DeletedCount else 0)).take
        accountPurgeR2BatchSize := by
  have hpurging : target.Deletion AccountDeletionState.Purging d := hstartable.1
  have hrow : db.accountDeletions.rows.filter (fun d => target.Deletion (fun _ => True) d) = [d] :=
    db.accountDeletions.filter_eq_singleton target.userId (fun _ hh => hh.1) hd
      ⟨hpurging.1, hpurging.2.1, trivial⟩
  have hattachments : db.cipherAttachments.rows.filter (fun a =>
      PersonalAttachment db target.userId a ∧ ∃ d ∈ db.accountDeletions.rows,
        target.Deletion AccountDeletionState.Purging d) =
      db.cipherAttachments.rows.filter fun a => PersonalAttachment db target.userId a :=
    List.filter_congr fun a _ => by
      have hexists : ∃ d ∈ db.accountDeletions.rows,
        target.Deletion AccountDeletionState.Purging d := ⟨d, hd, hpurging⟩
      simp [hexists]
  simp only [purgeObjectKeys, hrow, hattachments, List.head?_cons, Option.map_some,
    Option.getD_some]
  rfl

end Exec

/-- A run that goes on was handed a page, or keeps its offset, or has deleted its page. -/
theorem PurgePhase.advance_covered {phase : PurgePhase} {oracle : PurgeOracle} {db : Db} {n : Nat}
    (h : (phase.advance oracle db).2.1.covered = some n) :
    (∃ request objectKeys expectedCount, phase = .arrived request ∧
      (phase.advance oracle db).2.1 = .deleting request objectKeys n expectedCount ∧
      (phase.advance oracle db).1 = (startAccountPurge request.toAccountPurgeTarget db).1 ∧
      (startAccountPurge request.toAccountPurgeTarget db).2 =
        .ok (.purgingR2 objectKeys n expectedCount)) ∨
    ((phase.advance oracle db).2.1.request = phase.request ∧
      (∀ request objectKeys expectedCount,
        (phase.advance oracle db).2.1 ≠ .deleting request objectKeys n expectedCount) ∧
      (phase.covered = some n ∨ ∃ request objectKeys m expectedCount,
        phase = .deleting request objectKeys m expectedCount ∧ n = m + objectKeys.length ∧
        (phase.advance oracle db).2.2 = objectKeys)) := by
  cases phase with
  | arrived request =>
    left
    by_cases hvalid : request.lifecycleGeneration = "" ∨
        request.confirmedLifecycleGeneration ≠ request.lifecycleGeneration
    · simp only [PurgePhase.advance, if_pos hvalid] at h
      cases h
    · simp only [PurgePhase.advance, if_neg hvalid] at h ⊢
      split at h
      · rename_i objectKeys deletedCount expectedCount hstart
        obtain rfl : deletedCount = n := Option.some.inj h
        exact ⟨request, objectKeys, expectedCount, rfl, rfl, rfl, hstart⟩
      · cases h
      · cases h
  | deleting request objectKeys deletedCount expectedCount =>
    right
    simp only [PurgePhase.advance] at h ⊢
    split at h
    · rename_i hnil
      simp only [if_pos hnil]
      exact ⟨rfl, fun _ _ _ => PurgePhase.noConfusion, Or.inl h⟩
    · rename_i hkeys
      split at h
      · rename_i hr2
        simp only [if_neg hkeys, if_pos hr2]
        exact ⟨rfl, fun _ _ _ => PurgePhase.noConfusion, Or.inr ⟨request, objectKeys,
          deletedCount, expectedCount, rfl, (Option.some.inj h).symm, rfl⟩⟩
      · rename_i hr2
        simp only [if_neg hkeys, if_neg hr2]
        exact ⟨rfl, fun _ _ _ => PurgePhase.noConfusion, Or.inl h⟩
  | failing request deletedCount => cases h
  | recording request remaining deletedCount expectedCount =>
    right
    simp only [PurgePhase.advance] at h ⊢
    repeat' split at h
    all_goals first
      | cases h
        done
      | simp_all [PurgePhase.covered, PurgePhase.request]
  | finalizing request deletedCount expectedCount =>
    right
    simp only [PurgePhase.advance] at h ⊢
    split at h
    · cases h
    · simp_all [PurgePhase.covered, PurgePhase.request]
    · cases h
  | conflicted request deletedCount => cases h
  | done request outcome => cases h

/-- A run after a step was there before, or has just arrived, or took the step. -/
theorem LifecycleOp.exec_runs {op : LifecycleOp} {s : LifecycleState} {phase : PurgePhase}
    (h : phase ∈ (op.exec s).runs) :
    phase ∈ s.runs ∨ phase.covered = none ∨ ∃ run oracle old, op = .advance run oracle ∧
      s.runs[run]? = some old ∧ phase = (old.advance oracle s.db).2.1 := by
  cases op with
  | purge request =>
    rcases List.mem_append.mp h with hold | hnew
    · exact Or.inl hold
    · rw [List.mem_singleton.mp hnew]
      exact Or.inr (Or.inl rfl)
  | advance run oracle =>
    simp only [LifecycleOp.exec] at h
    cases hrun : s.runs[run]? with
    | none =>
      rw [hrun] at h
      exact Or.inl h
    | some old =>
      rw [hrun] at h
      rcases List.mem_or_eq_of_mem_set h with hold | hnew
      · exact Or.inl hold
      · exact Or.inr (Or.inr ⟨run, oracle, old, rfl, hrun, hnew⟩)
  | _ => exact Or.inl h

namespace ObjectLedger

variable {issued : List String} {s : LifecycleState} {op : LifecycleOp}

theorem exec_inventoried (h : ObjectLedger issued s) (op : LifecycleOp) :
    ∀ d' ∈ (op.exec s).db.accountDeletions.rows, d'.state = .purgingR2 →
      d'.Inventoried (op.exec s) := by
  intro d' hd' hstate
  rcases op.exec_deletions s d' hd' with ⟨d, hd, hmove⟩ | ⟨input, -, rfl, -⟩
  · have hkeep : d.state = .purgingR2 → PurgeBegun s d.lifecycleGeneration := fun hpurging =>
      purgeBegun_of_mem hd (Or.inl hpurging)
    cases hmove with
    | kept =>
      have hledger := h.inventoried d' hd hstate
      exact hledger.exec (hkeep hstate) rfl rfl rfl hledger.deleted
    | recovered input hop hrec => cases hstate
    | prepared target n hop hrec hdue => cases hstate
    | started run oracle request hop hrun hstartable =>
      subst hop
      exact (started_inventoried hrun hd hstartable hd' (h.inventoried d hd)).1
    | progressed run oracle phase n code hop hrun hrecorded hpurging =>
      have hbacked := h.backed phase (List.mem_of_getElem? hrun) n
        (PurgePhase.recorded_covered hrecorded)
      have hpurging' : d.state = .purgingR2 := hpurging.2.2
      refine (h.inventoried d hd hpurging').exec (hkeep hpurging') rfl rfl rfl ?_
      rw [hpurging.2.1]
      exact hbacked.deleted
    | sealed input hop hsealable =>
      have hpurging : d.state = .purgingR2 := hsealable.1.2.2
      have hledger := h.inventoried d hd hpurging
      exact hledger.exec (hkeep hpurging) rfl rfl rfl hledger.deleted
    | buried input d₁ hop hsealed hpurging => cases hstate
  · cases hstate

/-- The page a run is handed stands on the inventory of its deletion. -/
theorem arrived_backed (h : ObjectLedger issued s) {run : Nat} {oracle : PurgeOracle}
    {request : PurgeRequest} {objectKeys : List String} {n expectedCount : Nat}
    (hrun : s.runs[run]? = some (.arrived request))
    (hdb : ((PurgePhase.arrived request).advance oracle s.db).1 =
      (startAccountPurge request.toAccountPurgeTarget s.db).1)
    (hstart : (startAccountPurge request.toAccountPurgeTarget s.db).2 =
      .ok (.purgingR2 objectKeys n expectedCount)) :
    request.lifecycleGeneration ∈ issued ∧
      (PurgePhase.deleting request objectKeys n expectedCount).Backed
        ((LifecycleOp.advance run oracle).exec s) n := by
  obtain ⟨D, hstarted, hD, hpage⟩ := startAccountPurge_effect request.toAccountPurgeTarget s.db
  obtain ⟨d, hd, hstartable, hkeys, hn, -⟩ := hpage _ _ _ hstart
  have hgeneration : d.lifecycleGeneration = request.lifecycleGeneration := hstartable.1.2.1
  have hmem : request.start d ∈
      ((LifecycleOp.advance run oracle).exec s).db.accountDeletions.rows := by
    simp only [LifecycleOp.exec, hrun, hdb, hstarted, hD]
    exact mem_updateWhere_of_hit hd hstartable
  obtain ⟨hinventoried, hsorted⟩ :=
    started_inventoried hrun hd hstartable hmem (h.inventoried d hd)
  have hgeneration' : (request.start d).lifecycleGeneration = request.lifecycleGeneration :=
    hgeneration
  refine ⟨hgeneration ▸ h.base.generation d hd, ?_, ?_, ?_⟩
  · rw [PurgePhase.request, ← hgeneration']
    exact purgeBegun_of_mem hmem (Or.inl rfl)
  · rw [PurgePhase.request, ← hgeneration', hn]
    exact hinventoried.deleted
  · intro request' objectKeys' expectedCount' hphase
    simp only [PurgePhase.deleting.injEq] at hphase
    obtain ⟨rfl, rfl, -⟩ := hphase
    rw [PurgePhase.request, pageAt, ← hsorted, hkeys, purgeObjectKeys_eq hd hstartable, hn]
    congr 2
    simp only [AccountPurgeTarget.start]
    rcases hstartable.1.2.2 with hready | hpurging
    · simp [hready]
    · simp [hpurging]

/-- A run that took a step stands on what it did. -/
theorem advance_backed (h : ObjectLedger issued s) {run : Nat} {oracle : PurgeOracle}
    {phase : PurgePhase} {n : Nat} (hrun : s.runs[run]? = some phase)
    (hcovered : (phase.advance oracle s.db).2.1.covered = some n) :
    (phase.advance oracle s.db).2.1.request.lifecycleGeneration ∈ issued ∧
      (phase.advance oracle s.db).2.1.Backed ((LifecycleOp.advance run oracle).exec s) n := by
  rcases PurgePhase.advance_covered hcovered with
    ⟨request, objectKeys, expectedCount, rfl, hnew, hdb, hstart⟩ | ⟨hrequest, hpage, hoffset⟩
  · rw [hnew]
    exact h.arrived_backed hrun hdb hstart
  have hmem := List.mem_of_getElem? hrun
  obtain ⟨m, hm⟩ : ∃ m, phase.covered = some m := by
    rcases hoffset with hsame | ⟨request, objectKeys, m, e, rfl, -, -⟩
    · exact ⟨n, hsame⟩
    · exact ⟨m, rfl⟩
  have hbacked := h.backed phase hmem m hm
  have hissued := h.issued phase hmem m hm
  refine ⟨hrequest ▸ hissued, ?_, ?_, fun request objectKeys e hphase =>
    absurd hphase (hpage request objectKeys e)⟩ <;> rw [hrequest]
  · intro d' hd' hgeneration
    rcases (LifecycleOp.advance run oracle).exec_deletions s d' hd' with
      ⟨d, hd, hmove⟩ | ⟨input, hop, -⟩
    · exact hmove.begun (hbacked.begun d hd (hmove.frame.2.1.symm.trans hgeneration))
    · cases hop
  · rcases hoffset with hsame | ⟨request, objectKeys, m', e, rfl, rfl, hdeleted⟩
    · obtain rfl : m = n := Option.some.inj (hm.symm.trans hsame)
      exact hbacked.deleted.exec hbacked.begun
    · obtain rfl : m' = m := Option.some.inj hm
      have hkeys := hbacked.page request objectKeys e rfl
      intro key hkey
      rw [LifecycleOp.exec_inventory _ hbacked.begun] at hkey
      have hlength : objectKeys.length = (pageAt (s.inventory
          request.lifecycleGeneration) m').length := congrArg List.length hkeys
      rw [hlength] at hkey
      simp only [LifecycleOp.exec, hrun, hdeleted]
      rcases take_page hkey with hold | hnew
      · exact List.mem_append_left _ (hbacked.deleted key hold)
      · exact List.mem_append_right _ (hkeys ▸ hnew)

/-- **A step of the lifecycle keeps the ledger of objects.** -/
theorem exec (h : ObjectLedger issued s) (op : LifecycleOp)
    (hfresh : ∀ x ∈ op.draws, x ∉ issued) : ObjectLedger (op.draws ++ issued) (op.exec s) := by
  have hphase : ∀ phase ∈ (op.exec s).runs, ∀ n, phase.covered = some n →
      phase.request.lifecycleGeneration ∈ issued ∧ phase.Backed (op.exec s) n := by
    intro phase hphase n hn
    rcases LifecycleOp.exec_runs hphase with hold | hnone | ⟨run, oracle, old, rfl, hrun, rfl⟩
    · have hissued := h.issued phase hold n hn
      have hbacked := h.backed phase hold n hn
      refine ⟨hissued, hbacked.begun.exec hissued hfresh, hbacked.deleted.exec hbacked.begun, ?_⟩
      intro request objectKeys e hdeleting
      rw [op.exec_inventory hbacked.begun]
      exact hbacked.page request objectKeys e hdeleting
    · rw [hnone] at hn
      cases hn
    · exact h.advance_backed hrun hn
  exact ⟨h.base.exec op, h.exec_inventoried op,
    fun phase hmem n hn => List.mem_append_right _ (hphase phase hmem n hn).1,
    fun phase hmem n hn => (hphase phase hmem n hn).2⟩

end ObjectLedger

/-! ## The promise and its condition -/

/-- No API key and no passkey of the account. -/
def NoOtherFactors (db : Db) (userId : String) : Prop :=
  (∀ k ∈ db.personalApiKeys.rows, k.userId ≠ userId) ∧
    ∀ w ∈ db.webauthnCredentials.rows, w.userId ≠ userId

instance (db : Db) (userId : String) : Decidable (NoOtherFactors db userId) :=
  inferInstanceAs (Decidable (_ ∧ _))

/-- The request of a run whose next step is the finalization. -/
def PurgePhase.finalizes : PurgePhase → Option PurgeRequest
  | .finalizing request _ _ => some request
  | _ => none

/-- A step that keeps the promise: a finalization for an account without API keys and passkeys, and
a write of the surroundings that gives no attachment to an account that is being purged. -/
def PurgeCondition (s : LifecycleState) : Move LifecycleOp LifecycleState → Prop
  | .request (.advance run _) => ∀ request ∈ s.runs[run]?.bind PurgePhase.finalizes,
      NoOtherFactors s.db request.userId
  | .request _ => True
  | .surroundings write => ∀ d ∈ s.db.accountDeletions.rows, d.state = .purgingR2 →
      personalObjectKeys (keepDeletions s (write s)).db d.userId ⊆ personalObjectKeys s.db d.userId

instance (s : LifecycleState) : DecidablePred (PurgeCondition s)
  | .request (.advance run _) => inferInstanceAs
      (Decidable (∀ request ∈ s.runs[run]?.bind PurgePhase.finalizes,
        NoOtherFactors s.db request.userId))
  | .request (.beginRecoverableAccountDeletion _) => inferInstanceAs (Decidable True)
  | .request (.recoverAccountDeletion _) => inferInstanceAs (Decidable True)
  | .request (.markAccountPurgeReady _ _) => inferInstanceAs (Decidable True)
  | .request (.purge _) => inferInstanceAs (Decidable True)
  | .surroundings write => inferInstanceAs
      (Decidable (∀ d ∈ s.db.accountDeletions.rows, d.state = .purgingR2 →
        personalObjectKeys (keepDeletions s (write s)).db d.userId ⊆
          personalObjectKeys s.db d.userId))

/-- The order of the states of a deletion. -/
inductive AccountDeletionState.Next : AccountDeletionState → AccountDeletionState → Prop where
  | recovered : Next .recoverable .recovered
  | prepared : Next .recoverable .purgeReady
  | started : Next .purgeReady .purgingR2
  | tombstoned : Next .purgingR2 .tombstoned

/-- What a step may make of a deletion. -/
structure DeletionPromise (move : Move LifecycleOp LifecycleState) (d d' : AccountDeletion) :
    Prop where
  user : d'.userId = d.userId
  order : d'.state = d.state ∨ d.state.Next d'.state
  recovered : d.state ≠ .recovered → d'.state = .recovered →
    ∃ input, move = .request (.recoverAccountDeletion input) ∧ input.now < d.recoverUntil
  prepared : d.state ≠ .purgeReady → d'.state = .purgeReady →
    ∃ target n, move = .request (.markAccountPurgeReady target n) ∧ d.recoverUntil ≤ target.now
  progress : d.personalR2DeletedCount ≤ d'.personalR2DeletedCount

/-- A purge that took `s` to `s'` is complete: every object of the inventory is deleted, no row of
the account's own is left, and the ciphers of organizations are. -/
structure PurgeCompleted (request : PurgeRequest) (s s' : LifecycleState) : Prop where
  objects : ∀ key ∈ s.inventory request.lifecycleGeneration, key ∈ s'.deletedObjects
  purged : Purged request.userId s'.db
  attachments : ∀ a ∈ s'.db.cipherAttachments.rows, ¬ PersonalAttachment s.db request.userId a
  factors : NoOtherFactors s'.db request.userId
  organization : ∀ c ∈ s.db.ciphers.rows, c.organizationId ≠ none →
    c ∈ s'.db.ciphers.rows ∨ { c with folderId := none } ∈ s'.db.ciphers.rows

/-- What the deletions promise in a state and for every next step of the system. -/
structure LifecycleSafe (S : System LifecycleState (Move LifecycleOp LifecycleState) String)
    (c : Config LifecycleState String) : Prop where
  counted : ∀ d ∈ c.state.db.accountDeletions.rows,
    d.personalR2DeletedCount ≤ d.personalR2ExpectedCount
  step : ∀ move c', S.Next c move c' → ∀ d ∈ c.state.db.accountDeletions.rows,
    ∀ d' ∈ c'.state.db.accountDeletions.rows, d'.lifecycleGeneration = d.lifecycleGeneration →
    DeletionPromise move d d'
  complete : ∀ run oracle c', S.Next c (.request (.advance run oracle)) c' →
    ∀ request n, c'.state.runs[run]? = some (.done request (.tombstoned n)) →
    c.state.runs[run]? ≠ some (.done request (.tombstoned n)) →
    PurgeCompleted request c.state c'.state

theorem DeletionPromise.refl (move : Move LifecycleOp LifecycleState) (d : AccountDeletion) :
    DeletionPromise move d d :=
  ⟨rfl, Or.inl rfl, fun h h' => absurd h' h, fun h h' => absurd h' h, le_rfl⟩

namespace AccountDeletion.Move

variable {op : LifecycleOp} {s : LifecycleState} {d d' : AccountDeletion}

/-- **A move keeps the promise.** -/
theorem promise (h : d.Move op s d') (hprogress : d.personalR2DeletedCount ≤
    d'.personalR2DeletedCount) : DeletionPromise (.request op) d d' := by
  have huser := h.frame.1
  cases h with
  | kept => exact .refl _ d
  | recovered input hop h =>
    have hstate : d.state = .recoverable := h.2.2.1
    refine ⟨huser, Or.inr ?_, fun _ _ => ⟨input, by rw [hop], h.2.2.2⟩, fun _ h => ?_, hprogress⟩
    · rw [hstate]
      exact .recovered
    · cases h
  | prepared target n hop h hdue =>
    have hstate : d.state = .recoverable := h.2.2
    refine ⟨huser, Or.inr ?_, fun _ h => ?_, fun _ _ => ⟨target, n, by rw [hop], hdue⟩, hprogress⟩
    · rw [hstate]
      exact .prepared
    · cases h
  | started run oracle request hop hrun h =>
    refine ⟨huser, ?_, fun _ h => ?_, fun _ h => ?_, hprogress⟩
    · rcases h.1.2.2 with hready | hpurging
      · rw [hready]
        exact Or.inr .started
      · exact Or.inl hpurging.symm
    · cases h
    · cases h
  | progressed run oracle phase n code hop hrun hrec h =>
    exact ⟨huser, Or.inl rfl, fun h h' => absurd h' h, fun h h' => absurd h' h, hprogress⟩
  | sealed input hop h =>
    exact ⟨huser, Or.inl rfl, fun h h' => absurd h' h, fun h h' => absurd h' h, hprogress⟩
  | buried input d₁ hop hsealed h =>
    have hstate : d.state = .purgingR2 := by
      have hpurging : d₁.state = .purgingR2 := h.2.2
      rcases hsealed with rfl | ⟨-, rfl⟩ <;> exact hpurging
    refine ⟨huser, Or.inr ?_, fun _ h => ?_, fun _ h => ?_, hprogress⟩
    · rw [hstate]
      exact .tombstoned
    · cases h
    · cases h

end AccountDeletion.Move

/-- A run reports `tombstoned` when its finalization does. -/
theorem PurgePhase.advance_tombstoned {phase : PurgePhase} {oracle : PurgeOracle} {db : Db}
    {request : PurgeRequest} {n : Nat}
    (h : (phase.advance oracle db).2.1 = .done request (.tombstoned n)) :
    phase = .done request (.tombstoned n) ∨ ∃ m e, phase = .finalizing request m e ∧
      (finalizeAccountPurge (request.finalizeInput m oracle) db).2 = .ok true := by
  cases phase with
  | done request' outcome => exact Or.inl h
  | finalizing request' m e =>
    simp only [PurgePhase.advance] at h
    split at h
    · rename_i hok
      simp only [PurgePhase.done.injEq] at h
      obtain ⟨rfl, -⟩ := h
      exact Or.inr ⟨m, e, rfl, hok⟩
    · cases h
    · simp at h
  | arrived request' =>
    simp only [PurgePhase.advance] at h
    repeat' split at h
    all_goals simp at h
  | deleting request' objectKeys m e =>
    simp only [PurgePhase.advance] at h
    repeat' split at h
    all_goals simp at h
  | recording request' remaining m e =>
    simp only [PurgePhase.advance] at h
    repeat' split at h
    all_goals simp at h
  | failing request' m => simp [PurgePhase.advance] at h
  | conflicted request' m => simp [PurgePhase.advance] at h

/-- Only a sealed batch is read as a purge. -/
theorem finalizeAccountPurge_ok_sealable {input : AccountPurgeInput} {db : Db}
    (hoperated : ¬ input.Operated db) (hout : (finalizeAccountPurge input db).2 = .ok true) :
    ∃ d ∈ db.accountDeletions.rows, input.Sealable db d := by
  by_contra hsealable
  push Not at hsealable
  unfold finalizeAccountPurge at hout
  rcases commit_cases input.batch input.interpret db with ⟨-, e, he⟩ | ⟨db', rs, hrun, -, hread⟩
  · rw [he] at hout
    cases hout
  rw [hread] at hout
  rw [runBatch_unsealed hsealable hoperated] at hrun
  cases hrest : runFrom (input.finish.drop 1) db 0 with
  | error e =>
    rw [hrest] at hrun
    cases hrun
  | ok out =>
    rw [hrest] at hrun
    obtain rfl : List.replicate 15 ({} : StatementResult) ++ out.2 = rs := congrArg Prod.snd (Except.ok.inj hrun)
    exact interpret_unsealed out.2 (mapError_eq_ok.mp hout)

/-- **A finalization that reports `tombstoned` has completed the purge.** -/
theorem ObjectLedger.completed {issued : List String} {s : LifecycleState} {run : Nat}
    {oracle : PurgeOracle} {request : PurgeRequest} {m e : Nat} (h : ObjectLedger issued s)
    (hfresh : oracle.auditEventId ∉ issued) (hrun : s.runs[run]? = some (.finalizing request m e))
    (hout : (finalizeAccountPurge (request.finalizeInput m oracle) s.db).2 = .ok true)
    (hfactors : NoOtherFactors s.db request.userId) :
    PurgeCompleted request s ((LifecycleOp.advance run oracle).exec s) := by
  have hop : (LifecycleOp.advance run oracle).Finalizes s (request.finalizeInput m oracle) :=
    ⟨run, oracle, request, m, e, rfl, hrun, rfl⟩
  have hoperated := @DeletionLedger.notOperated _ _ (request.finalizeInput m oracle) h.base hfresh
  obtain ⟨d, hd, hsealable⟩ := finalizeAccountPurge_ok_sealable hoperated hout
  have hpurging : d.state = .purgingR2 := hsealable.1.2.2
  have hdisabled : AccountDisabled s.db request.userId := by
    rw [← (show d.userId = request.userId from hsealable.1.1)]
    exact h.base.disabled d hd (Or.inr (Or.inr hpurging))
  have hpurged : AccountPurged (request.finalizeInput m oracle) s.db
      (finalizeAccountPurge (request.finalizeInput m oracle) s.db).1 := by
    rcases finalizeAccountPurge_sealed ⟨d, hd, hsealable⟩ hdisabled h.base.safe with
      ⟨-, hne⟩ | ⟨-, hpurged⟩
    · exact absurd hout hne
    · exact hpurged
  have hframe := (finalizeAccountPurge_frame (request.finalizeInput m oracle) s.db).2
  rw [← hop.exec_db] at hpurged hframe
  refine ⟨?_, hpurged.purged, hpurged.attachments, ?_, hpurged.organization⟩
  · intro key hkey
    have hledger := h.inventoried d hd hpurging
    have hgeneration : d.lifecycleGeneration = request.lifecycleGeneration := hsealable.1.2.1
    refine LifecycleOp.exec_deletedObjects _ s (hledger.deleted key ?_)
    rw [hsealable.2.1, ← hledger.size, ← (sortedKeys_perm _).length_eq, List.take_length]
    rw [hgeneration]
    exact (sortedKeys_perm _).mem_iff.mpr hkey
  · unfold NoOtherFactors
    rw [hframe.1, hframe.2]
    exact hfactors

/-! ## The runs -/

/-- The ledger of objects holds in every state of a run under the condition. -/
theorem lifecycle_reachable_objects {c : Config LifecycleState String}
    {moves : List (Move LifecycleOp LifecycleState)}
    (h : Run (lifecycleSystem.restrict PurgeCondition) lifecycleStart moves c) :
    ObjectLedger c.issued c.state := by
  refine h.invariant (I := fun c => ObjectLedger c.issued c.state) ?_ ?_
  · refine ⟨lifecycle_reachable_ledger .refl, ?_, ?_, ?_⟩ <;> simp [lifecycleStart]
  intro c move c' hnext ih
  obtain ⟨hnext', hcondition⟩ := hnext.unrestrict
  obtain ⟨hexec, hfresh, hissued⟩ := id hnext'
  have hbase := lifecycleSystem_ledger hnext' ih.base
  rw [hexec, hissued] at hbase ⊢
  cases move with
  | request op => exact ih.exec op hfresh
  | surroundings write =>
    simp only [PurgeCondition] at hcondition
    simp only [Move.exec] at hbase ⊢
    have hdeletions : (keepDeletions c.state (write c.state)).db.accountDeletions =
        c.state.db.accountDeletions := by
      unfold keepDeletions
      split
      · rename_i hkeep
        exact hkeep.1
      · rfl
    have hrest : (keepDeletions c.state (write c.state)).runs = c.state.runs ∧
        (keepDeletions c.state (write c.state)).deletedObjects = c.state.deletedObjects ∧
        (keepDeletions c.state (write c.state)).inventory = c.state.inventory := by
      unfold keepDeletions
      split <;> exact ⟨rfl, rfl, rfl⟩
    obtain ⟨hruns, hdeleted, hinventory⟩ := hrest
    have hcovered : ∀ generation offset, c.state.Deleted generation offset →
        (keepDeletions c.state (write c.state)).Deleted generation offset := by
      intro generation offset hold key hkey
      rw [hinventory] at hkey
      rw [hdeleted]
      exact hold key hkey
    refine ⟨hbase, fun d hd hstate => ?_, fun phase hphase n hn => ?_, fun phase hphase n hn => ?_⟩
    · rw [hdeletions] at hd
      have hledger := ih.inventoried d hd hstate
      refine ⟨?_, ?_, hcovered _ _ hledger.deleted⟩ <;> rw [hinventory]
      · exact hledger.size
      · exact fun key hkey => hledger.holds (hcondition d hd hstate hkey)
    · rw [hruns] at hphase
      exact ih.issued phase hphase n hn
    · rw [hruns] at hphase
      have hbacked := ih.backed phase hphase n hn
      refine ⟨?_, hcovered _ _ hbacked.deleted, ?_⟩
      · unfold PurgeBegun
        rw [hdeletions]
        exact hbacked.begun
      · rw [hinventory]
        exact hbacked.page

/-- What a step of the system does to one deletion. -/
theorem lifecycleSystem_promise {c c' : Config LifecycleState String}
    {move : Move LifecycleOp LifecycleState} (hledger : DeletionLedger c.issued c.state)
    (hnext : lifecycleSystem.Next c move c') {d d' : AccountDeletion}
    (hd : d ∈ c.state.db.accountDeletions.rows) (hd' : d' ∈ c'.state.db.accountDeletions.rows)
    (hgeneration : d'.lifecycleGeneration = d.lifecycleGeneration) : DeletionPromise move d d' := by
  obtain ⟨hexec, hfresh, -⟩ := hnext
  rw [hexec] at hd'
  cases move with
  | request op =>
    rcases op.exec_deletions c.state d' hd' with ⟨d₀, hd₀, hmove⟩ | ⟨input, rfl, rfl, -⟩
    · obtain rfl : d₀ = d := c.state.db.accountDeletions.eq_of_alternate hd₀ hd
        (hmove.frame.2.1.symm.trans hgeneration)
      exact hmove.promise (hmove.counts (hledger.counted d₀ hd) (hledger.safe d₀ hd)
        (hledger.unstarted d₀ hd)).1
    · have hissued : input.lifecycleGeneration ∈ c.issued := by
        have hsame : input.lifecycleGeneration = d.lifecycleGeneration := hgeneration
        rw [hsame]
        exact hledger.generation d hd
      exact absurd hissued (hfresh _ (List.mem_singleton_self _))
  | surroundings write =>
    have hold : d' ∈ c.state.db.accountDeletions.rows := by
      simp only [Move.exec, keepDeletions] at hd'
      split at hd'
      · rename_i hkeep
        rwa [hkeep.1] at hd'
      · exact hd'
    rw [c.state.db.accountDeletions.eq_of_alternate hold hd hgeneration]
    exact .refl _ d

/-- **Deletions keep their promises, and a purge that reports `tombstoned` is complete.** -/
theorem accountDeletion_complete {c : Config LifecycleState String}
    {moves : List (Move LifecycleOp LifecycleState)}
    (h : Run (lifecycleSystem.restrict PurgeCondition) lifecycleStart moves c) :
    LifecycleSafe (lifecycleSystem.restrict PurgeCondition) c := by
  have hledger := lifecycle_reachable_objects h
  refine ⟨hledger.base.counted, fun move c' hnext d hd d' hd' hgeneration =>
    lifecycleSystem_promise hledger.base hnext.unrestrict.1 hd hd' hgeneration, ?_⟩
  intro run oracle c' hnext request n hdone hnew
  obtain ⟨⟨hexec, hfresh, -⟩, hcondition⟩ := hnext.unrestrict
  rw [hexec] at hdone ⊢
  simp only [Move.exec] at hdone ⊢
  cases hrun : c.state.runs[run]? with
  | none =>
    simp only [LifecycleOp.exec, hrun] at hdone
    cases hdone
  | some phase =>
    have hlength : run < c.state.runs.length := (List.getElem?_eq_some_iff.mp hrun).1
    simp only [LifecycleOp.exec, hrun, List.getElem?_set_self hlength, Option.some.injEq] at hdone
    rcases PurgePhase.advance_tombstoned hdone with rfl | ⟨m, e, rfl, hout⟩
    · exact absurd hrun hnew
    · refine hledger.completed (hfresh _ (List.mem_singleton_self _)) hrun hout ?_
      exact hcondition request (by simp [hrun, PurgePhase.finalizes])

/-- The purge of the account with one attachment, to its end. -/
def completedMoves : List (Move LifecycleOp LifecycleState) :=
  purgeMoves pendingAttachment 1 ++
    [.request (.advance 0 { auditEventId := "o3" }), .request (.advance 0 { auditEventId := "o4" })]

def completedEnd : Config LifecycleState String :=
  (replay (Move.exec LifecycleOp.exec keepDeletions) (Move.draws LifecycleOp.draws) lifecycleStart
    completedMoves).get (by decide)

theorem accountDeletion_complete_tombstoned :
    completedEnd.state.runs = [.done
        { userId := "u", lifecycleGeneration := "g", now := 30,
          confirmedLifecycleGeneration := "g", requestId := "r" } (.tombstoned 1)] ∧
      completedEnd.state.db.accountDeletions.rows.map AccountDeletion.state = [.tombstoned] ∧
      completedEnd.state.deletedObjects = ["k"] ∧
      LifecycleSafe (lifecycleSystem.restrict PurgeCondition) completedEnd :=
  ⟨by decide +kernel, by decide +kernel, by decide +kernel, accountDeletion_complete
    (replay_restrict (Option.some_get _).symm (by decide +kernel))⟩

/-- The account with a passkey and an empty vault. -/
def passkeyAccount : Db where
  users := oneAccount
  webauthnCredentials := ⟨[{ id := "w", userId := "u" }], by decide⟩

def passkeyMoves : List (Move LifecycleOp LifecycleState) :=
  purgeMoves passkeyAccount 0 ++ [.request (.advance 0 { auditEventId := "o3" })]

def passkeyEnd : Config LifecycleState String :=
  (replay (Move.exec LifecycleOp.exec keepDeletions) (Move.draws LifecycleOp.draws) lifecycleStart
    passkeyMoves).get (by decide)

/-- **The passkey of an account survives its purge.** -/
theorem purge_keepsPasskey :
    ¬ ∀ moves c, Run lifecycleSystem lifecycleStart moves c → LifecycleSafe lifecycleSystem c := by
  intro hclaim
  have hrun : Run lifecycleSystem lifecycleStart passkeyMoves passkeyEnd :=
    replay_run (Option.some_get _).symm
  have hnext : lifecycleSystem.Next passkeyEnd (.request (.advance 0 { auditEventId := "o4" }))
      { state := (LifecycleOp.advance 0 { auditEventId := "o4" }).exec passkeyEnd.state,
        issued := "o4" :: passkeyEnd.issued } :=
    ⟨rfl, by decide +kernel, rfl⟩
  have hcompleted := (hclaim _ _ hrun).complete 0 _ _ hnext
    { userId := "u", lifecycleGeneration := "g", now := 30, confirmedLifecycleGeneration := "g",
      requestId := "r" } 0 (by decide +kernel) (by decide +kernel)
  exact absurd hcompleted.factors (by decide +kernel)

end HonoWarden
