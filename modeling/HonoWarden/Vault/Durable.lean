import HonoWarden.Vault.Quota

/-!
# Objects of uploaded attachments

An upload writes its object before its row says so, and takes the object back only when the row is
gone. A deletion deletes the objects first and the rows after them, so a deletion that stops in
between leaves rows whose objects are gone.

Results:
* `AttachmentWorld.Backed`: the object of an attachment is there, or a deletion is on its way to
  the row;
* `AttachmentPhase.advance_backed`: a step of a request keeps that, unless a deletion stops;
* **`attachments_durable`**: in every run in which no deletion stops, an uploaded attachment has its
  object whenever no request is in flight;
* `attachment_stranded`: a deletion whose last call fails.
-/

namespace HonoWarden

open Relational

/-- The request has deleted the object of the attachment and will delete its row. -/
def AttachmentPhase.Dooms (a : CipherAttachment) : AttachmentPhase → Prop
  | deletingRow target => target.Named a
  | deletingObjects deletion deleted _ => a.objectKey ∈ deleted ∧ deletion.Covers a
  | deletingCiphers deletion deleted => a.objectKey ∈ deleted ∧ deletion.Covers a
  | _ => False

/-- The object of the attachment is there, or a deletion is on its way to the row. -/
def AttachmentWorld.Backed (w : AttachmentWorld) (a : CipherAttachment) : Prop :=
  a.objectKey ∈ w.objects ∨ ∃ phase ∈ w.requests, phase.Dooms a

/-- What a request relies on: an upload that is about to be completed has its object, and one that
takes its object back has no row. -/
def AttachmentPhase.Relies (w : AttachmentWorld) : AttachmentPhase → Prop
  | marking _ attachment _ => ∀ a ∈ w.db.cipherAttachments.rows, a.id = attachment.id → w.Backed a
  | compensating _ attachment => ∀ a ∈ w.db.cipherAttachments.rows, a.id ≠ attachment.id
  | _ => True

/-- **What the runs keep.** -/
structure AttachmentWorld.Durable (w : AttachmentWorld) : Prop where
  uploaded : ∀ a ∈ w.db.cipherAttachments.rows, a.contentType ≠ none → w.Backed a
  relies : ∀ phase ∈ w.requests, phase.Relies w

/-- The next step of the request stops no deletion between its objects and their rows. -/
def AttachmentPhase.Completes (oracle : AttachmentOracle) : AttachmentPhase → Prop
  | deletingObject _ _ => oracle.fate ≠ .lost
  | deletingRow _ => oracle.fate ≠ .failed
  | deletingObjects _ deleted remaining =>
    remaining = [] ∨ oracle.fate = .answered ∨ oracle.fate = .failed ∧ deleted = []
  | deletingCiphers _ deleted => oracle.fate = .failed → deleted = []
  | _ => True

instance (oracle : AttachmentOracle) : ∀ phase : AttachmentPhase, Decidable (phase.Completes oracle)
  | .deletingObject .. | .deletingRow _ => inferInstanceAs (Decidable (_ ≠ _))
  | .deletingObjects .. => inferInstanceAs (Decidable (_ ∨ _))
  | .deletingCiphers .. => inferInstanceAs (Decidable (_ → _))
  | .findingCipher _ | .findingAttachment _ | .reserving .. | .rereading .. | .putting ..
  | .marking .. | .confirming .. | .compensating .. | .findingDeleted _ | .resolving _
  | .listing _ | .finished => .isTrue trivial

/-- No deletion stops between its objects and their rows. -/
def AttachmentStep.Completes (w : AttachmentWorld) : AttachmentStep → Prop
  | advance index oracle => ∀ phase ∈ w.requests[index]?, phase.Completes oracle
  | _ => True

instance (w : AttachmentWorld) : ∀ step : AttachmentStep, Decidable (step.Completes w)
  | .advance index _ => inferInstanceAs (Decidable (∀ phase ∈ w.requests[index]?, _))
  | .allocate .. | .arrive _ | .cleanup .. | .surroundings _ => .isTrue trivial

/-! ## A step of a request -/

theorem AttachmentPhase.Dooms.same {phase : AttachmentPhase} {a a' : CipherAttachment}
    (h : phase.Dooms a) (hsame : a'.SameAllocation a) : phase.Dooms a' := by
  have hcovers : ∀ {deletion : PermanentDeletion} {deleted : List String},
      a.objectKey ∈ deleted ∧ deletion.Covers a → a'.objectKey ∈ deleted ∧ deletion.Covers a' := by
    rintro deletion deleted ⟨hkey, hcipher, huser⟩
    exact ⟨hsame.2.2.2.1 ▸ hkey, hsame.2.2.1 ▸ hcipher, hsame.2.1.trans huser⟩
  cases phase with
  | deletingRow target => exact hsame.named.mpr h
  | deletingObjects | deletingCiphers => exact hcovers h
  | _ => exact h.elim

section Advance

variable {maxStorageBytes : Nat} {oracle : AttachmentOracle} {issued : List String}
  {w : AttachmentWorld} {phase : AttachmentPhase}

/-- **An object that was there is there, or the request that deleted it dooms the row.** -/
theorem AttachmentPhase.advance_objects (hinformed : phase.Informed issued w.db)
    (hrelies : phase.Relies w) (hcompletes : phase.Completes oracle) {a : CipherAttachment}
    (ha : a ∈ w.db.cipherAttachments.rows) (hkey : a.objectKey ∈ w.objects) :
    a.objectKey ∈ (phase.advance maxStorageBytes oracle w.toAttachmentStores).1.objects ∨
      (phase.advance maxStorageBytes oracle w.toAttachmentStores).2.Dooms a := by
  cases phase with
  | putting upload attachment reservedAt requiresTransition =>
    left
    dsimp only [advance, CallFate.r2]
    split
    · exact hkey
    · exact List.mem_insert_of_mem hkey
  | compensating upload attachment =>
    left
    dsimp only [advance, CallFate.r2]
    split
    · exact hkey
    · refine List.mem_filter.mpr ⟨hkey, decide_eq_true fun hsame => ?_⟩
      exact hrelies a ha (AttachmentUpload.Knows.key hinformed a ha hsame)
  | deletingObject target objectKey =>
    dsimp only [advance, CallFate.r2]
    cases hfate : oracle.fate with
    | failed => exact Or.inl hkey
    | lost => exact absurd hfate hcompletes
    | answered =>
      by_cases hsame : a.objectKey = objectKey
      · exact Or.inr (hinformed.2 a ha hsame)
      · exact Or.inl (List.mem_filter.mpr ⟨hkey, decide_eq_true hsame⟩)
  | deletingObjects deletion deleted remaining =>
    dsimp only [advance, CallFate.r2]
    by_cases hdone : remaining = []
    · rw [if_pos hdone]
      exact Or.inl hkey
    · rw [if_neg hdone]
      cases hfate : oracle.fate with
      | failed => exact Or.inl hkey
      | lost =>
        rw [Completes, hfate] at hcompletes
        simp [hdone] at hcompletes
      | answered =>
        by_cases hchunk : a.objectKey ∈ remaining.take maxR2DeleteKeysPerRequest
        · right
          have hcovers := (hinformed a.objectKey (List.mem_of_mem_take hchunk)).2 a ha rfl
          exact ⟨List.mem_append_right _ hchunk, hcovers⟩
        · exact Or.inl (List.mem_filter.mpr ⟨hkey, decide_eq_true hchunk⟩)
  | resolving deletion =>
    left
    cases deletion <;> dsimp only [advance]
    · split <;> exact hkey
    · exact hkey
  | findingCipher | findingAttachment | rereading | confirming | findingDeleted | listing =>
    left
    dsimp only [advance]
    split <;> exact hkey
  | reserving | marking | deletingRow | deletingCiphers | finished => exact Or.inl hkey

/-- **A row that is doomed stays doomed, or is gone.** -/
theorem AttachmentPhase.advance_dooms (hplaced : w.db.AttachmentsPlaced)
    (hcompletes : phase.Completes oracle) {a : CipherAttachment}
    (ha : a ∈ (phase.advance maxStorageBytes oracle
      w.toAttachmentStores).1.db.cipherAttachments.rows) (hdooms : phase.Dooms a) :
    (phase.advance maxStorageBytes oracle w.toAttachmentStores).2.Dooms a := by
  cases phase with
  | deletingRow target =>
    exfalso
    obtain ⟨T, hdb', hT⟩ := executeDelete_eq (fun _ => target.Named)
      (fun result => .ok (result.metaChanges = 1 : Bool)) w.db
    dsimp only [advance] at ha
    have hdb : (oracle.fate.d1 (deleteCipherAttachment target) w.db).1 =
        { w.db with cipherAttachments := T } := by
      rw [← hdb']
      cases hfate : oracle.fate with
      | failed => exact absurd hfate hcompletes
      | answered | lost => rfl
    rw [hdb] at ha
    have hmem : a ∈ T.rows := ha
    rw [hT] at hmem
    exact (mem_deleteWhere.mp hmem).2 hdooms
  | deletingObjects deletion deleted remaining =>
    dsimp only [advance]
    by_cases hdone : remaining = []
    · rw [if_pos hdone]
      exact hdooms
    · rw [if_neg hdone]
      cases hfate : oracle.fate with
      | answered => exact ⟨List.mem_append_left _ hdooms.1, hdooms.2⟩
      | failed =>
        rw [Completes, hfate] at hcompletes
        have hnone : deleted = [] := by simpa [hdone] using hcompletes
        exact absurd (hnone ▸ hdooms.1) List.not_mem_nil
      | lost =>
        rw [Completes, hfate] at hcompletes
        simp [hdone] at hcompletes
  | deletingCiphers deletion deleted =>
    exfalso
    dsimp only [advance] at ha
    by_cases hfate : oracle.fate = .failed
    · exact absurd (hcompletes hfate ▸ hdooms.1) List.not_mem_nil
    · have hdb : (oracle.fate.d1 deletion.run w.db).1 = (deletion.run w.db).1 := by
        cases h : oracle.fate with
        | failed => exact absurd h hfate
        | answered | lost => rfl
      rw [hdb] at ha
      exact (deletion.run_removed w.db).removed hplaced a ha hdooms.2
  | _ => exact hdooms.elim

/-- A row that is uploaded after a step was so before, or was about to be. -/
theorem AttachmentPhase.advance_uploaded {a' : CipherAttachment}
    (ha' : a' ∈ (phase.advance maxStorageBytes oracle
      w.toAttachmentStores).1.db.cipherAttachments.rows) (huploaded : a'.contentType ≠ none) :
    ∃ a ∈ w.db.cipherAttachments.rows, a'.SameAllocation a ∧
      (a.contentType ≠ none ∨ ∃ upload attachment reservedAt,
        phase = marking upload attachment reservedAt ∧ upload.Named a) := by
  rcases phase.advance_sublist maxStorageBytes oracle w.toAttachmentStores with
    hsublist | ⟨upload, attachment, rfl⟩ | ⟨upload, attachment, reservedAt, rfl⟩
  · exact ⟨a', hsublist.subset ha', .refl a', Or.inl huploaded⟩
  · obtain ⟨T, hdb', hT⟩ := reserveCipherAttachmentUpload_eq upload.toCipherAttachmentLookupInput
      attachment.size (pendingAttachmentExpiredBefore oracle.now) maxStorageBytes oracle.now w.db
    dsimp only [advance] at ha'
    rcases oracle.fate.d1_cases (reserveCipherAttachmentUpload upload.toCipherAttachmentLookupInput
      attachment.size (pendingAttachmentExpiredBefore oracle.now) maxStorageBytes oracle.now) w.db
      with hdb | ⟨-, hdb, -⟩ <;> rw [hdb] at ha'
    · exact ⟨a', ha', .refl a', Or.inl huploaded⟩
    · rw [hdb'] at ha'
      have hmem : a' ∈ T.rows := ha'
      rw [hT] at hmem
      rcases mem_updateWhere_cases hmem with ⟨ha, -⟩ | ⟨a, ha, -, rfl⟩
      · exact ⟨a', ha, .refl a', Or.inl huploaded⟩
      · exact ⟨a, ha, ⟨rfl, rfl, rfl, rfl, rfl⟩, Or.inl huploaded⟩
  · obtain ⟨T, hdb', hT⟩ := markCipherAttachmentUploaded_eq upload.toCipherAttachmentLookupInput
      upload.contentType reservedAt reservedAt w.db
    dsimp only [advance] at ha'
    rcases oracle.fate.d1_cases (markCipherAttachmentUploaded upload.toCipherAttachmentLookupInput
      upload.contentType reservedAt reservedAt) w.db with hdb | ⟨-, hdb, -⟩ <;> rw [hdb] at ha'
    · exact ⟨a', ha', .refl a', Or.inl huploaded⟩
    · rw [hdb'] at ha'
      have hmem : a' ∈ T.rows := ha'
      rw [hT] at hmem
      rcases mem_updateWhere_cases hmem with ⟨ha, -⟩ | ⟨a, ha, hhit, rfl⟩
      · exact ⟨a', ha, .refl a', Or.inl huploaded⟩
      · exact ⟨a, ha, ⟨rfl, rfl, rfl, rfl, rfl⟩,
          Or.inr ⟨upload, attachment, reservedAt, rfl, hhit.1⟩⟩

/-- **A step of a request leaves backed what was backed**, as long as the row is there. -/
theorem AttachmentPhase.advance_backed {index : Nat} (hphase : w.requests[index]? = some phase)
    (hinformed : w.Informed issued) (hrelies : phase.Relies w)
    (hcompletes : phase.Completes oracle) {checks : List (String × Timestamp)}
    {a a' : CipherAttachment} (ha : a ∈ w.db.cipherAttachments.rows)
    (ha' : a' ∈ (phase.advance maxStorageBytes oracle
      w.toAttachmentStores).1.db.cipherAttachments.rows)
    (hsame : a'.SameAllocation a) (hbacked : w.Backed a) :
    AttachmentWorld.Backed
      ⟨(phase.advance maxStorageBytes oracle w.toAttachmentStores).1,
        w.requests.set index (phase.advance maxStorageBytes oracle w.toAttachmentStores).2,
        checks⟩ a' := by
  have hmem : phase ∈ w.requests := List.mem_of_getElem? hphase
  have hindex : index < w.requests.length := (List.getElem?_eq_some_iff.mp hphase).1
  have hnext : (phase.advance maxStorageBytes oracle w.toAttachmentStores).2 ∈
      w.requests.set index (phase.advance maxStorageBytes oracle w.toAttachmentStores).2 :=
    List.mem_set hindex _
  rcases hbacked with hkey | ⟨other, hother, hdooms⟩
  · have hobjects : a.objectKey ∈
        (phase.advance maxStorageBytes oracle w.toAttachmentStores).1.objects ∨
          (phase.advance maxStorageBytes oracle w.toAttachmentStores).2.Dooms a :=
      AttachmentPhase.advance_objects (hinformed.requests phase hmem) hrelies hcompletes ha hkey
    rcases hobjects with hthere | hdoomed
    · exact Or.inl (hsame.2.2.2.1 ▸ hthere)
    · exact Or.inr ⟨_, hnext, hdoomed.same hsame⟩
  · obtain ⟨position, hlt, rfl⟩ := List.mem_iff_getElem.mp hother
    by_cases hposition : position = index
    · subst hposition
      have hother_eq : w.requests[position] = phase := by
        rw [List.getElem?_eq_getElem hlt] at hphase
        exact Option.some.inj hphase
      rw [hother_eq] at hdooms
      exact Or.inr ⟨_, hnext, AttachmentPhase.advance_dooms hinformed.placed hcompletes ha'
        (hdooms.same hsame)⟩
    · refine Or.inr ⟨w.requests[position], ?_, hdooms.same hsame⟩
      have hkept : (w.requests.set index (phase.advance maxStorageBytes oracle
          w.toAttachmentStores).2)[position]? = some w.requests[position] := by
        rw [List.getElem?_set_ne (Ne.symm hposition), List.getElem?_eq_getElem hlt]
      exact List.mem_of_getElem? hkept

end Advance

/-- **The next step of a request relies on what holds**: an object has been written when its upload
is to be completed, and a row that was not found stays away. -/
theorem AttachmentPhase.advance_relies {maxStorageBytes : Nat} {oracle : AttachmentOracle}
    {issued : List String} {w : AttachmentWorld} {phase : AttachmentPhase}
    (hinformed : phase.Informed issued w.db) {requests : List AttachmentPhase}
    {checks : List (String × Timestamp)} :
    (phase.advance maxStorageBytes oracle w.toAttachmentStores).2.Relies
      ⟨(phase.advance maxStorageBytes oracle w.toAttachmentStores).1, requests, checks⟩ := by
  cases phase with
  | findingCipher upload =>
    dsimp only [advance]
    split
    · dsimp only
      split <;> trivial
    · trivial
  | findingAttachment upload =>
    dsimp only [advance]
    split
    · dsimp only [locate]
      split
      · trivial
      split
      · trivial
      split <;> trivial
    · trivial
  | reserving upload attachment =>
    dsimp only [advance]
    split <;> trivial
  | rereading upload attachment =>
    dsimp only [advance]
    split
    · dsimp only
      split <;> trivial
    · trivial
  | putting upload attachment reservedAt requiresTransition =>
    dsimp only [advance]
    split
    · rename_i hanswered
      intro a ha hid
      have hsame := AttachmentUpload.Knows.same hinformed a ha hid
      refine Or.inl ?_
      have hput : oracle.fate.r2 (List.insert attachment.objectKey) w.objects =
          List.insert attachment.objectKey w.objects := by
        rw [hanswered.1]
        rfl
      simp only [hput, hsame.2.2.2.1]
      exact List.mem_insert_self
    · trivial
  | marking upload attachment reservedAt =>
    dsimp only [advance]
    split <;> trivial
  | confirming upload attachment =>
    dsimp only [advance]
    split
    · rename_i hmissing
      intro a ha hid
      have hfind : findCipherAttachment upload.toCipherAttachmentLookupInput w.db = none := by
        unfold CallFate.read at hmissing
        split at hmissing
        · exact Option.some.inj hmissing
        · cases hmissing
      have hnamed : upload.Named a :=
        (AttachmentUpload.Knows.same hinformed a ha hid).named.mpr
          (AttachmentUpload.Knows.named hinformed)
      exact absurd (decide_eq_true hnamed) (List.find?_eq_none.mp hfind a ha)
    · trivial
  | findingDeleted target =>
    dsimp only [advance]
    split <;> trivial
  | deletingObject target objectKey =>
    dsimp only [advance]
    split <;> trivial
  | resolving deletion =>
    cases deletion with
    | one input context =>
      dsimp only [advance]
      split
      · dsimp only
        split <;> trivial
      · trivial
    | several input => trivial
  | listing deletion =>
    dsimp only [advance]
    split <;> trivial
  | deletingObjects deletion deleted remaining =>
    dsimp only [advance]
    split
    · trivial
    · dsimp only
      split <;> trivial
  | compensating | deletingRow | deletingCiphers | finished => trivial

/-! ## Runs -/

namespace AttachmentWorld

variable {w w' : AttachmentWorld}

/-- What another step leaves: the requests stay, and what was backed is backed. -/
theorem Durable.of_backed (h : w.Durable)
    (hold : ∀ a' ∈ w'.db.cipherAttachments.rows, a'.contentType = none ∧
        (∀ phase ∈ w'.requests, ∀ upload attachment reservedAt,
          phase = .marking upload attachment reservedAt ∨ phase = .compensating upload attachment →
            a'.id ≠ attachment.id) ∨
      a' ∈ w.db.cipherAttachments.rows)
    (hbacked : ∀ a, w.Backed a → w'.Backed a)
    (hrequests : ∀ phase ∈ w'.requests, phase ∈ w.requests ∨ ∀ v, phase.Relies v) :
    w'.Durable := by
  refine ⟨fun a' ha' huploaded => ?_, fun phase hphase => ?_⟩
  · rcases hold a' ha' with ⟨hpending, -⟩ | ha
    · exact absurd hpending huploaded
    · exact hbacked a' (h.uploaded a' ha huploaded)
  · rcases hrequests phase hphase with hmem | hall
    · have hrelies := h.relies phase hmem
      cases phase with
      | marking upload attachment reservedAt =>
        intro a' ha' hid
        rcases hold a' ha' with ⟨-, hnew⟩ | ha
        · exact absurd hid (hnew _ hphase upload attachment reservedAt (Or.inl rfl))
        · exact hbacked a' (hrelies a' ha hid)
      | compensating upload attachment =>
        intro a' ha' hid
        rcases hold a' ha' with ⟨-, hnew⟩ | ha
        · exact hnew _ hphase upload attachment 0 (Or.inr rfl) hid
        · exact hrelies a' ha hid
      | _ => trivial
    · exact hall w'

end AttachmentWorld

/-- **Every step at which no deletion stops keeps uploaded attachments backed.** -/
theorem AttachmentStep.exec_durable {maxStorageBytes : Nat} {w : AttachmentWorld}
    {issued : List String} {step : AttachmentStep} (h : w.Durable) (hinformed : w.Informed issued)
    (hpossible : step.Possible w) (hfresh : ∀ x ∈ step.draws, x ∉ issued)
    (hcompletes : step.Completes w) : (step.exec maxStorageBytes w).Durable := by
  cases step with
  | allocate allocation oracle =>
    have hid : allocation.id ∉ issued := hfresh _ List.mem_cons_self
    refine h.of_backed (fun a' ha' => ?_) (fun _ hbacked => hbacked) fun _ hphase => Or.inl hphase
    rcases allocate_cases maxStorageBytes allocation oracle w with hdb | ⟨T, hdb, hT, -⟩ <;>
      rw [hdb] at ha'
    · exact Or.inr ha'
    · have hmem : a' ∈ T.rows := ha'
      rw [hT, List.mem_append, List.mem_singleton] at hmem
      rcases hmem with ha | rfl
      · exact Or.inr ha
      · refine Or.inl ⟨rfl, fun phase hphase upload attachment reservedAt hknows hsame => ?_⟩
        have hissued : attachment.id ∈ issued := by
          have hphase_informed := hinformed.requests phase hphase
          rcases hknows with rfl | rfl
          · exact (AttachmentUpload.Knows.issued hphase_informed).1
          · exact (AttachmentUpload.Knows.issued hphase_informed).1
        have hname : allocation.id = attachment.id := hsame
        exact hid (hname ▸ hissued)
  | arrive request =>
    refine h.of_backed (fun a' ha' => Or.inr ha') (fun a hbacked => ?_) fun phase hphase => ?_
    · refine hbacked.imp_right ?_
      rintro ⟨phase, hphase, hdooms⟩
      exact ⟨phase, List.mem_append_left _ hphase, hdooms⟩
    · rcases List.mem_append.mp hphase with hold | hnew
      · exact Or.inl hold
      · obtain rfl := List.mem_singleton.mp hnew
        exact Or.inr fun _ => by cases request <;> trivial
  | advance index oracle =>
    dsimp only [exec]
    split
    · exact h
    · rename_i phase hphase
      have hmem : phase ∈ w.requests := List.mem_of_getElem? hphase
      have hkept := phase.advance_kept maxStorageBytes oracle w.toAttachmentStores
      have hbacked := @AttachmentPhase.advance_backed maxStorageBytes oracle issued w phase index
        hphase hinformed (h.relies phase hmem) (hcompletes phase hphase)
        (phase.check oracle ++ w.checks)
      refine ⟨fun a' ha' huploaded => ?_, fun phase' hphase' => ?_⟩
      · obtain ⟨a, ha, hsame, hwas⟩ := AttachmentPhase.advance_uploaded ha' huploaded
        refine hbacked ha ha' hsame ?_
        rcases hwas with hwas | ⟨upload, attachment, reservedAt, rfl, hnamed⟩
        · exact h.uploaded a ha hwas
        · have hknows : upload.Named attachment :=
            AttachmentUpload.Knows.named (hinformed.requests _ hmem)
          exact h.relies _ hmem a ha (hnamed.1.trans hknows.1.symm)
      · rcases List.mem_or_eq_of_mem_set hphase' with hold | rfl
        · have hrelies := h.relies phase' hold
          cases phase' with
          | marking upload attachment reservedAt =>
            intro a' ha' hid
            obtain ⟨a, ha, hsame⟩ := hkept.old a' ha'
            exact hbacked ha ha' hsame (hrelies a ha (hsame.1.symm.trans hid))
          | compensating upload attachment =>
            intro a' ha' hid
            obtain ⟨a, ha, hsame⟩ := hkept.old a' ha'
            exact hrelies a ha (hsame.1.symm.trans hid)
          | _ => trivial
        · exact AttachmentPhase.advance_relies (hinformed.requests phase hmem)
  | cleanup limit oracle =>
    obtain ⟨T, hdb, hT⟩ := cleanup_eq maxStorageBytes limit oracle w
    refine h.of_backed (fun a' ha' => Or.inr ?_) (fun _ hbacked => hbacked)
      fun _ hphase => Or.inl hphase
    rw [hdb] at ha'
    exact hT.subset ha'
  | surroundings db' =>
    exact h.of_backed (fun a' ha' => Or.inr (hpossible.1.subset ha')) (fun _ hbacked => hbacked)
      fun _ hphase => Or.inl hphase

/-- **An uploaded attachment has its object whenever no request is in flight**, in every run in
which no deletion stops between its objects and their rows. -/
theorem attachments_durable {maxStorageBytes : Nat} {w : AttachmentWorld} {issued : List String}
    (hinformed : w.Informed issued) (hidle : w.requests = [])
    (hobjects : ∀ a ∈ w.db.cipherAttachments.rows, a.contentType ≠ none →
      a.objectKey ∈ w.objects)
    {steps : List AttachmentStep} {c : Config AttachmentWorld String}
    (h : Run ((attachmentSystem maxStorageBytes).restrict AttachmentStep.Completes)
      { state := w, issued := issued } steps c)
    (hquiet : ∀ phase ∈ c.state.requests, phase = .finished) :
    ∀ a ∈ c.state.db.cipherAttachments.rows, a.contentType ≠ none →
      a.objectKey ∈ c.state.objects := by
  have hstart : w.Durable := by
    refine ⟨fun a ha huploaded => Or.inl (hobjects a ha huploaded), fun phase hphase => ?_⟩
    rw [hidle] at hphase
    exact absurd hphase List.not_mem_nil
  have hkept : c.state.Informed c.issued ∧ c.state.Durable :=
    h.invariant (I := fun c => c.state.Informed c.issued ∧ c.state.Durable) ⟨hinformed, hstart⟩
      fun {c step c'} hnext hc => by
        obtain ⟨hstep, hcompletes⟩ := hnext.unrestrict
        refine ⟨attachmentSystem_informed hstep hc.1, ?_⟩
        obtain ⟨hexec, hpossible⟩ := hstep.unrestrict
        have hstate : c'.state = step.exec maxStorageBytes c.state := hexec.step
        rw [hstate]
        exact AttachmentStep.exec_durable hc.2 hc.1 hpossible hstep.fresh hcompletes
  intro a ha huploaded
  rcases hkept.2.uploaded a ha huploaded with hkey | ⟨phase, hphase, hdooms⟩
  · exact hkey
  · rw [hquiet phase hphase] at hdooms
    exact hdooms.elim

/-! ### One deletion -/

/-- An attachment is uploaded, and its deletion arrives. -/
def uploadedAndDeleted (fate : CallFate) : List AttachmentStep :=
  allocateAt "a" 6 90000000 :: reserveAt 0 "a" 6 90000001 ++ completeAt 0 90000002 ++
    [.arrive (.delete { id := "a", cipherId := "c", userId := "u" }),
      .advance 1 { now := 90000003 }, .advance 1 { now := 90000003 },
      .advance 1 { now := 90000003, fate := fate }]

/-- The deletion reaches the row, though its answer is lost. -/
def deletedEnd : Config AttachmentWorld String :=
  (replay (AttachmentStep.exec 10) AttachmentStep.draws { state := cipherOwner }
    (uploadedAndDeleted .lost ++ allocateAt "b" 6 90000004 :: reserveAt 2 "b" 6 90000005 ++
      completeAt 2 90000006)).get (by decide +kernel)

theorem attachments_durable_deleted :
    (deletedEnd.state.db.cipherAttachments.rows.map fun a => (a.id, a.contentType.isSome)) =
        [("b", true)] ∧
      ∀ a ∈ deletedEnd.state.db.cipherAttachments.rows, a.contentType ≠ none →
        a.objectKey ∈ deletedEnd.state.objects :=
  ⟨by decide +kernel,
    attachments_durable (w := cipherOwner) cipherOwner_informed rfl
      (fun _ ha => absurd ha List.not_mem_nil)
      (Run.restrict_and (replay_restrict (Option.some_get _).symm (by decide +kernel)))
      (by decide +kernel)⟩

/-- The deletion stops before the row. -/
def strandedEnd : Config AttachmentWorld String :=
  (replay (AttachmentStep.exec 10) AttachmentStep.draws { state := cipherOwner }
    (uploadedAndDeleted .failed)).get (by decide +kernel)

theorem attachment_stranded :
    cipherOwner.Informed [] ∧ cipherOwner.db.cipherAttachments.rows = [] ∧
      ∃ steps c, Run (attachmentSystem 10) { state := cipherOwner } steps c ∧
        (∀ phase ∈ c.state.requests, phase = .finished) ∧
        ∃ a ∈ c.state.db.cipherAttachments.rows, a.contentType ≠ none ∧
          a.objectKey ∉ c.state.objects :=
  ⟨cipherOwner_informed, rfl, _, strandedEnd,
    replay_restrict (Option.some_get _).symm (by decide +kernel), by decide +kernel,
    by decide +kernel⟩

end HonoWarden
