import HonoWarden.Relational.Weight
import HonoWarden.Vault.Attachments

/-!
# The storage of an account

An allocation is a lease on storage: it counts until a day after it was last reserved. An
allocation and a reservation are checked against what is uploaded or leased at that time, and the
completion of an upload is not checked at all.

Results:
* `AttachmentWorld.Within`: what is uploaded or leased, as the latest check counts leases, fits;
* `AttachmentStep.exec_within`: the steps that keep it;
* **`attachment_storage_bounded`**: in every run in which an upload completes while its lease runs,
  what is uploaded fits;
* `attachment_storage_exceeded`: a lease runs out during the write of its object, another attachment
  takes its storage, and both are uploaded.
-/

namespace HonoWarden

open Relational

/-- `getCipherAttachmentStorageUsage`. -/
def getCipherAttachmentStorageUsage (db : Db) (userId : String) : Nat :=
  weightWhere (fun a => a.userId = userId ∧ a.contentType ≠ none) CipherAttachment.size
    db.cipherAttachments.rows

/-- The latest time before which a check of the account took leases for expired. -/
def AttachmentWorld.horizon (w : AttachmentWorld) (userId : String) : Timestamp :=
  ((w.checks.filter fun check => check.1 = userId).map Prod.snd).foldr max 0

/-- What is uploaded or leased fits. -/
def AttachmentWorld.Within (maxStorageBytes : Nat) (w : AttachmentWorld) : Prop :=
  ∀ userId, attachmentStorage w.db userId (w.horizon userId) (fun _ => True) ≤ maxStorageBytes

/-- The next step of the request completes no upload whose lease has run out. -/
def AttachmentPhase.Timely (w : AttachmentWorld) (oracle : AttachmentOracle) :
    AttachmentPhase → Prop
  | marking upload _ _ => oracle.fate = .failed ∨ ∀ a ∈ w.db.cipherAttachments.rows,
      upload.Named a → a.contentType = none → w.horizon a.userId < a.updatedAt
  | _ => True

instance (w : AttachmentWorld) (oracle : AttachmentOracle) :
    ∀ phase : AttachmentPhase, Decidable (phase.Timely w oracle)
  | .marking .. => inferInstanceAs (Decidable (_ ∨ ∀ a ∈ w.db.cipherAttachments.rows, _))
  | .findingCipher _ | .findingAttachment _ | .reserving .. | .rereading .. | .putting ..
  | .confirming .. | .compensating .. | .findingDeleted _ | .deletingObject .. | .deletingRow _
  | .resolving _ | .listing _ | .deletingObjects .. | .deletingCiphers .. | .finished =>
    .isTrue trivial

/-- No upload is completed whose lease has run out. -/
def AttachmentStep.Timely (w : AttachmentWorld) : AttachmentStep → Prop
  | advance index oracle => ∀ phase ∈ w.requests[index]?, phase.Timely w oracle
  | _ => True

instance (w : AttachmentWorld) : ∀ step : AttachmentStep, Decidable (step.Timely w)
  | .advance index _ => inferInstanceAs (Decidable (∀ phase ∈ w.requests[index]?, _))
  | .allocate .. | .arrive _ | .cleanup .. | .surroundings _ => .isTrue trivial

/-! ## Storage -/

section Storage

variable {db : Db} {userId : String} {expiredBefore expiredBefore' : Timestamp}

/-- What a later check counts, an earlier one counted. -/
theorem attachmentStorage_antitone {counts : CipherAttachment → Prop} [DecidablePred counts]
    (h : expiredBefore ≤ expiredBefore') :
    attachmentStorage db userId expiredBefore' counts ≤
      attachmentStorage db userId expiredBefore counts :=
  weightWhere_mono fun _ _ ⟨huser, hcounts, hlive⟩ =>
    ⟨huser, hcounts, hlive.imp_right fun hlater => h.trans_lt hlater⟩

theorem storageUsage_le (db : Db) (userId : String) (expiredBefore : Timestamp) :
    getCipherAttachmentStorageUsage db userId ≤
      attachmentStorage db userId expiredBefore (fun _ => True) :=
  weightWhere_mono fun _ _ h => ⟨h.1, trivial, Or.inl h.2⟩

variable {T : Table CipherAttachment} {hit : CipherAttachment → Prop} [DecidablePred hit]
  {set : CipherAttachment → CipherAttachment} {counts : CipherAttachment → Prop}
  [DecidablePred counts]

/-- An update that makes no attachment count adds no storage. -/
theorem attachmentStorage_update_le (hT : T.rows = updateWhere hit set db.cipherAttachments.rows)
    (hsize : ∀ a, (set a).size = a.size)
    (hset : ∀ a ∈ db.cipherAttachments.rows, hit a → (set a).userId = userId → counts (set a) →
      ((set a).contentType ≠ none ∨ expiredBefore < (set a).updatedAt) →
      a.userId = userId ∧ counts a ∧ (a.contentType ≠ none ∨ expiredBefore < a.updatedAt)) :
    attachmentStorage { db with cipherAttachments := T } userId expiredBefore counts ≤
      attachmentStorage db userId expiredBefore counts := by
  have hrows : attachmentStorage { db with cipherAttachments := T } userId expiredBefore counts =
      weightWhere (fun a => a.userId = userId ∧ counts a ∧
        (a.contentType ≠ none ∨ expiredBefore < a.updatedAt)) CipherAttachment.size T.rows := rfl
  rw [hrows, hT]
  exact weightWhere_updateWhere_le (fun a _ _ => hsize a)
    fun a ha hhit hcounts => hset a ha hhit hcounts.1 hcounts.2.1 hcounts.2.2

/-- One attachment counts with its size, the others without it. -/
theorem attachmentStorage_le_of_id (db : Db) (userId : String) (expiredBefore : Timestamp)
    {id : String} {size : Nat} (hsize : ∀ a ∈ db.cipherAttachments.rows, a.id = id → a.size ≤ size) :
    attachmentStorage db userId expiredBefore (fun _ => True) ≤
      attachmentStorage db userId expiredBefore (fun a => a.id ≠ id) + size := by
  have hsplit : attachmentStorage db userId expiredBefore (fun _ => True) =
      weightWhere (fun a => (a.userId = userId ∧ True ∧
        (a.contentType ≠ none ∨ expiredBefore < a.updatedAt)) ∧ a.id = id) CipherAttachment.size
        db.cipherAttachments.rows +
      weightWhere (fun a => (a.userId = userId ∧ True ∧
        (a.contentType ≠ none ∨ expiredBefore < a.updatedAt)) ∧ ¬ a.id = id) CipherAttachment.size
        db.cipherAttachments.rows := weightWhere_split
  have hone : weightWhere (fun a => (a.userId = userId ∧ True ∧
      (a.contentType ≠ none ∨ expiredBefore < a.updatedAt)) ∧ a.id = id) CipherAttachment.size
      db.cipherAttachments.rows ≤ size :=
    db.cipherAttachments.weightWhere_key_le (fun a h => h.2) fun a ha h => hsize a ha h.2
  have hothers : weightWhere (fun a => (a.userId = userId ∧ True ∧
      (a.contentType ≠ none ∨ expiredBefore < a.updatedAt)) ∧ ¬ a.id = id) CipherAttachment.size
      db.cipherAttachments.rows ≤
      attachmentStorage db userId expiredBefore (fun a => a.id ≠ id) :=
    weightWhere_mono fun a _ h => ⟨h.1.1, h.2, h.1.2.2⟩
  omega

end Storage

/-! ## Steps -/

/-- A step of a request deletes attachments at most, unless it reserves or completes an upload. -/
theorem AttachmentPhase.advance_sublist (maxStorageBytes : Nat) (oracle : AttachmentOracle)
    (s : AttachmentStores) (phase : AttachmentPhase) :
    (phase.advance maxStorageBytes oracle s).1.db.cipherAttachments.rows.Sublist
        s.db.cipherAttachments.rows ∨
      (∃ upload attachment, phase = reserving upload attachment) ∨
      ∃ upload attachment reservedAt, phase = marking upload attachment reservedAt := by
  cases phase with
  | reserving upload attachment => exact Or.inr (Or.inl ⟨upload, attachment, rfl⟩)
  | marking upload attachment reservedAt =>
    exact Or.inr (Or.inr ⟨upload, attachment, reservedAt, rfl⟩)
  | deletingRow target =>
    left
    obtain ⟨T, hdb', hT⟩ := executeDelete_eq (fun _ => target.Named)
      (fun result => .ok (result.metaChanges = 1 : Bool)) s.db
    dsimp only [advance]
    rcases oracle.fate.d1_cases (deleteCipherAttachment target) s.db with hdb | ⟨-, hdb, -⟩
    · rw [hdb]
    · rw [hdb, deleteCipherAttachment, hdb']
      exact hT ▸ List.filter_sublist
  | deletingCiphers deletion deleted =>
    left
    dsimp only [advance]
    rcases oracle.fate.d1_cases deletion.run s.db with hdb | ⟨-, hdb, -⟩
    · rw [hdb]
    · rw [hdb]
      exact (deletion.run_removed s.db).sublist
  | deletingObjects deletion deleted remaining =>
    left
    dsimp only [advance]
    split <;> exact .refl _
  | resolving deletion =>
    left
    cases deletion <;> dsimp only [advance]
    · split <;> exact .refl _
    · exact .refl _
  | findingCipher | findingAttachment | rereading | confirming | findingDeleted | listing =>
    left
    dsimp only [advance]
    split <;> exact .refl _
  | putting | compensating | deletingObject | finished => exact Or.inl (.refl _)

section Steps

variable {maxStorageBytes : Nat} {w : AttachmentWorld} {issued : List String}

theorem horizon_cons (checks : List (String × Timestamp)) (stores : AttachmentStores)
    (requests : List AttachmentPhase) (check : String × Timestamp) (userId : String) :
    AttachmentWorld.horizon ⟨stores, requests, check :: checks⟩ userId =
      if check.1 = userId then max check.2 (AttachmentWorld.horizon ⟨stores, requests, checks⟩ userId)
      else AttachmentWorld.horizon ⟨stores, requests, checks⟩ userId := by
  unfold AttachmentWorld.horizon
  by_cases h : check.1 = userId <;> simp [h]

/-- Fewer attachments fit. -/
theorem AttachmentWorld.Within.sublist {w' : AttachmentWorld} (h : w.Within maxStorageBytes)
    (hrows : w'.db.cipherAttachments.rows.Sublist w.db.cipherAttachments.rows)
    (hchecks : w'.checks = w.checks) : w'.Within maxStorageBytes := by
  intro userId
  have hhorizon : w'.horizon userId = w.horizon userId := by
    unfold AttachmentWorld.horizon
    rw [hchecks]
  rw [hhorizon]
  exact (weightWhere_sublist hrows).trans (h userId)

/-- An allocation that was checked fits. -/
theorem allocate_within {allocation : AttachmentAllocation} {oracle : AttachmentOracle}
    (h : w.Within maxStorageBytes) :
    ((AttachmentStep.allocate allocation oracle).exec maxStorageBytes w).Within
      maxStorageBytes := by
  intro userId
  have hhorizon : ((AttachmentStep.allocate allocation oracle).exec maxStorageBytes w).horizon
      userId = if allocation.userId = userId then
        max (pendingAttachmentExpiredBefore oracle.now) (w.horizon userId) else w.horizon userId :=
    horizon_cons w.checks _ w.requests (allocation.userId, _) userId
  have hlater : w.horizon userId ≤
      ((AttachmentStep.allocate allocation oracle).exec maxStorageBytes w).horizon userId := by
    rw [hhorizon]
    split
    · exact le_max_right _ _
    · exact le_refl _
  rcases AttachmentStep.allocate_cases maxStorageBytes allocation oracle w with
    hdb | ⟨T, hdb, hT, -, hfits⟩
  · rw [hdb]
    exact (attachmentStorage_antitone hlater).trans (h userId)
  · rw [hdb]
    have hsplit : ∀ expiredBefore, attachmentStorage { w.db with cipherAttachments := T } userId
        expiredBefore (fun _ => True) ≤ attachmentStorage w.db userId expiredBefore (fun _ => True) +
          if allocation.userId = userId then allocation.size else 0 := by
      intro expiredBefore
      change weightWhere _ CipherAttachment.size T.rows ≤ _
      rw [hT, weightWhere_append, weightWhere_cons, weightWhere_nil]
      refine Nat.add_le_add_left ?_ _
      by_cases huser : allocation.userId = userId
      · rw [if_pos huser]
        split
        · exact le_refl _
        · exact Nat.zero_le _
      · rw [if_neg huser, if_neg fun hcounts => huser hcounts.1]
    refine (hsplit _).trans ?_
    by_cases huser : allocation.userId = userId
    · subst huser
      rw [if_pos rfl]
      have hcheck : pendingAttachmentExpiredBefore oracle.now ≤
          ((AttachmentStep.allocate allocation oracle).exec maxStorageBytes w).horizon
            allocation.userId := by
        rw [hhorizon, if_pos rfl]
        exact le_max_left _ _
      have hcounted := @attachmentStorage_antitone w.db allocation.userId _ _ (fun _ => True) _
        hcheck
      omega
    · rw [if_neg huser, Nat.add_zero]
      exact (attachmentStorage_antitone hlater).trans (h userId)

/-- A reservation that was checked fits. -/
theorem reserving_within {upload : AttachmentUpload} {attachment : CipherAttachment}
    {oracle : AttachmentOracle} {requests : List AttachmentPhase}
    (h : w.Within maxStorageBytes) (hknows : upload.Knows issued w.db attachment) :
    AttachmentWorld.Within maxStorageBytes
      ⟨((AttachmentPhase.reserving upload attachment).advance maxStorageBytes oracle
        w.toAttachmentStores).1, requests,
        (upload.userId, pendingAttachmentExpiredBefore oracle.now) :: w.checks⟩ := by
  intro userId
  rw [horizon_cons]
  have hcurrent : AttachmentWorld.horizon ⟨((AttachmentPhase.reserving upload attachment).advance
      maxStorageBytes oracle w.toAttachmentStores).1, requests, w.checks⟩ userId =
      w.horizon userId := rfl
  rw [hcurrent]
  have hlater : w.horizon userId ≤ if upload.userId = userId then
      max (pendingAttachmentExpiredBefore oracle.now) (w.horizon userId)
      else w.horizon userId := by
    split
    · exact le_max_right _ _
    · exact le_refl _
  obtain ⟨T, hdb', hT⟩ := reserveCipherAttachmentUpload_eq upload.toCipherAttachmentLookupInput
    attachment.size (pendingAttachmentExpiredBefore oracle.now) maxStorageBytes oracle.now w.db
  dsimp only [AttachmentPhase.advance]
  rcases oracle.fate.d1_cases (reserveCipherAttachmentUpload upload.toCipherAttachmentLookupInput
    attachment.size (pendingAttachmentExpiredBefore oracle.now) maxStorageBytes oracle.now) w.db
    with hdb | ⟨-, hdb, -⟩
  · rw [hdb]
    exact (attachmentStorage_antitone hlater).trans (h userId)
  rw [hdb, hdb']
  by_cases huser : upload.userId = userId
  · subst huser
    rw [if_pos rfl]
    by_cases hreserved : ∃ a ∈ w.db.cipherAttachments.rows, upload.Named a ∧ a.contentType = none ∧
        pendingAttachmentExpiredBefore oracle.now < a.updatedAt ∧
        attachment.size + attachmentStorage w.db upload.userId
          (pendingAttachmentExpiredBefore oracle.now) (fun b => b.id ≠ upload.id) ≤ maxStorageBytes
    · obtain ⟨a, ha, hnamed, -, -, hfits⟩ := hreserved
      -- The others count no more than at the check, and the reserved one has the size it checked.
      have hsize : ∀ b ∈ T.rows, b.id = upload.id → b.size ≤ attachment.size := by
        intro b hb hid
        rw [hT] at hb
        have hknown : ∀ c ∈ w.db.cipherAttachments.rows, c.id = upload.id →
            c.size = attachment.size := fun c hc hcid =>
          (hknows.same c hc (hcid.trans hknows.named.1.symm)).2.2.2.2
        rcases mem_updateWhere_cases hb with ⟨hold, -⟩ | ⟨c, hc, hhit, rfl⟩
        · exact (hknown b hold hid).le
        · exact (hknown c hc hhit.1.1).le
      have hothers := @attachmentStorage_update_le w.db upload.userId
        (max (pendingAttachmentExpiredBefore oracle.now) (w.horizon upload.userId)) T _ _ _
        (fun b => b.id ≠ upload.id) _ hT (fun _ => rfl)
        fun b _ hhit _ hother _ => absurd hhit.1.1 hother
      have hcounted := @attachmentStorage_antitone w.db upload.userId _ _
        (fun b => b.id ≠ upload.id) _
        (le_max_left (pendingAttachmentExpiredBefore oracle.now) (w.horizon upload.userId))
      refine (attachmentStorage_le_of_id _ _ _ hsize).trans ?_
      omega
    · rw [Table.ext (hT.trans (updateWhere_eq_self fun a ha hhit => hreserved ⟨a, ha, hhit⟩))]
      exact (attachmentStorage_antitone (le_max_right _ _)).trans (h _)
  · rw [if_neg huser]
    refine (attachmentStorage_update_le hT (fun _ => rfl) fun a _ hhit hsame => ?_).trans
      (h userId)
    exact absurd (hhit.1.2.2.symm.trans hsame) huser

/-- A completion fits while the lease runs. -/
theorem marking_within {upload : AttachmentUpload} {attachment : CipherAttachment}
    {reservedAt : Timestamp} {oracle : AttachmentOracle} {requests : List AttachmentPhase}
    (h : w.Within maxStorageBytes)
    (htimely : (AttachmentPhase.marking upload attachment reservedAt).Timely w oracle) :
    AttachmentWorld.Within maxStorageBytes
      ⟨((AttachmentPhase.marking upload attachment reservedAt).advance maxStorageBytes oracle
        w.toAttachmentStores).1, requests, w.checks⟩ := by
  intro userId
  have hcurrent : AttachmentWorld.horizon ⟨((AttachmentPhase.marking upload attachment
      reservedAt).advance maxStorageBytes oracle w.toAttachmentStores).1, requests, w.checks⟩
      userId = w.horizon userId := rfl
  rw [hcurrent]
  obtain ⟨T, hdb', hT⟩ := markCipherAttachmentUploaded_eq upload.toCipherAttachmentLookupInput
    upload.contentType reservedAt reservedAt w.db
  dsimp only [AttachmentPhase.advance]
  rcases oracle.fate.d1_cases (markCipherAttachmentUploaded upload.toCipherAttachmentLookupInput
    upload.contentType reservedAt reservedAt) w.db with hdb | ⟨hfate, hdb, -⟩
  · rw [hdb]
    exact h userId
  · rw [hdb, hdb']
    refine (attachmentStorage_update_le hT (fun _ => rfl) fun a ha hhit huser _ _ => ?_).trans
      (h userId)
    have hlive := htimely.resolve_left hfate a ha hhit.1 hhit.2
    have hsame : a.userId = userId := huser
    rw [hsame] at hlive
    exact ⟨hsame, trivial, Or.inr hlive⟩

end Steps

/-- **Every step at which no lease has run out keeps the storage within its bound.** -/
theorem AttachmentStep.exec_within {maxStorageBytes : Nat} {w : AttachmentWorld}
    {issued : List String} {step : AttachmentStep} (h : w.Within maxStorageBytes)
    (hinformed : w.Informed issued) (hpossible : step.Possible w) (htimely : step.Timely w) :
    (step.exec maxStorageBytes w).Within maxStorageBytes := by
  cases step with
  | allocate allocation oracle => exact allocate_within h
  | arrive request => exact h
  | advance index oracle =>
    dsimp only [exec]
    split
    · exact h
    · rename_i phase hphase
      have hmem : phase ∈ w.requests := List.mem_of_getElem? hphase
      have hlease : phase.Timely w oracle := htimely phase hphase
      rcases phase.advance_sublist maxStorageBytes oracle w.toAttachmentStores with
        hsublist | ⟨upload, attachment, rfl⟩ | ⟨upload, attachment, reservedAt, rfl⟩
      · cases phase with
        | reserving upload attachment =>
          exact reserving_within h (hinformed.requests _ hmem)
        | _ => exact h.sublist hsublist rfl
      · exact reserving_within h (hinformed.requests _ hmem)
      · exact marking_within h hlease
  | cleanup limit oracle =>
    obtain ⟨T, hdb, hT⟩ := cleanup_eq maxStorageBytes limit oracle w
    refine h.sublist ?_ rfl
    rw [hdb]
    exact hT
  | surroundings db' => exact h.sublist hpossible.1 rfl

/-- **The storage of an account is bounded** in every run in which uploads complete while their
leases run. -/
theorem attachment_storage_bounded {maxStorageBytes : Nat} {w : AttachmentWorld}
    {issued : List String} (hinformed : w.Informed issued) (hwithin : w.Within maxStorageBytes)
    {steps : List AttachmentStep} {c : Config AttachmentWorld String}
    (h : Run ((attachmentSystem maxStorageBytes).restrict AttachmentStep.Timely)
      { state := w, issued := issued } steps c) (userId : String) :
    getCipherAttachmentStorageUsage c.state.db userId ≤ maxStorageBytes := by
  have hkept : c.state.Informed c.issued ∧ c.state.Within maxStorageBytes :=
    h.invariant (I := fun c => c.state.Informed c.issued ∧ c.state.Within maxStorageBytes)
      ⟨hinformed, hwithin⟩ fun {c step c'} hnext hc => by
        obtain ⟨hstep, htimely⟩ := hnext.unrestrict
        refine ⟨attachmentSystem_informed hstep hc.1, ?_⟩
        obtain ⟨hexec, hpossible⟩ := hstep.unrestrict
        have hstate : c'.state = step.exec maxStorageBytes c.state := hexec.step
        rw [hstate]
        exact AttachmentStep.exec_within hc.2 hc.1 hpossible htimely
  exact (storageUsage_le _ _ _).trans (hkept.2 userId)

/-! ### Two attachments for the storage of one -/

/-- An account with a cipher. -/
def cipherOwner : AttachmentWorld where
  db :=
    { users := .singleton { id := "u" }
      ciphers := ⟨[{ id := "c", userId := "u", type := 1, encryptedJson := "{}" }], by decide⟩ }

theorem cipherOwner_informed : cipherOwner.Informed [] :=
  ⟨by decide, by decide, fun _ h => absurd h List.not_mem_nil⟩

def allocateAt (id : String) (size : Nat) (now : Timestamp) : AttachmentStep :=
  .allocate
    { id := id, userId := "u", cipherId := "c", objectKey := "attachments/" ++ id,
      fileName := "2.f", attachmentKey := "2.k", size := size } { now := now }

/-- An upload arrives, is located and reserves its storage. -/
def reserveAt (index : Nat) (id : String) (size : Nat) (now : Timestamp) : List AttachmentStep :=
  .arrive (.upload
      { id := id, cipherId := "c", userId := "u", lookupNow := now, size := size,
        contentType := "application/octet-stream" }) ::
    List.replicate 3 (.advance index { now := now })

/-- Its object is written, and the upload is completed. -/
def completeAt (index : Nat) (now : Timestamp) : List AttachmentStep :=
  List.replicate 2 (.advance index { now := now })

/-- Two attachments are uploaded, one after the other; the second does not fit. -/
def inTurn : List AttachmentStep :=
  allocateAt "a" 6 90000000 :: reserveAt 0 "a" 6 90000001 ++ completeAt 0 90000002 ++
    [allocateAt "b" 6 90000003]

def inTurnEnd : Config AttachmentWorld String :=
  (replay (AttachmentStep.exec 10) AttachmentStep.draws { state := cipherOwner } inTurn).get
    (by decide +kernel)

theorem attachment_storage_bounded_inTurn :
    inTurnEnd.state.db.cipherAttachments.rows.map CipherAttachment.size = [6] ∧
      getCipherAttachmentStorageUsage inTurnEnd.state.db "u" ≤ 10 :=
  ⟨by decide +kernel,
    attachment_storage_bounded (w := cipherOwner) cipherOwner_informed
      (fun _ => Nat.zero_le 10)
      (Run.restrict_and (replay_restrict (Option.some_get _).symm (by decide +kernel))) "u"⟩

/-- The object of the first attachment takes a day to write, and meanwhile the second is uploaded. -/
def overtaken : List AttachmentStep :=
  allocateAt "a" 6 90000000 :: reserveAt 0 "a" 6 90000001 ++
    allocateAt "b" 6 176400001 :: reserveAt 1 "b" 6 176400002 ++ completeAt 1 176400003 ++
    completeAt 0 176400004

def overtakenEnd : Config AttachmentWorld String :=
  (replay (AttachmentStep.exec 10) AttachmentStep.draws { state := cipherOwner } overtaken).get
    (by decide +kernel)

theorem attachment_storage_exceeded :
    cipherOwner.Informed [] ∧ cipherOwner.Within 10 ∧
      ∃ steps c, Run (attachmentSystem 10) { state := cipherOwner } steps c ∧
        10 < getCipherAttachmentStorageUsage c.state.db "u" :=
  ⟨cipherOwner_informed, fun _ => Nat.zero_le 10, overtaken, overtakenEnd,
    replay_restrict (Option.some_get _).symm (by decide +kernel), by decide +kernel⟩

end HonoWarden
