import HonoWarden.Vault.Revisions

/-!
# Folders of personal ciphers

A personal cipher names its folder in `folder_id`. The routes ask `folderBelongsToUser` first and
write the reference in a later statement, and `deleteFolder` sets `deleted_at` and leaves the
ciphers alone, so the `ON DELETE SET NULL` of the reference never acts.

`filingSystem` runs the requests in any order: a `check` is remembered once it has passed, and a
request that names a folder is only made after its check.

Results:
* `Db.Filed`: the folder of every personal cipher is an active folder of its account;
* `FilingRequest.run_filed`: a request keeps that, where the folder it names is still active when
  it writes, and a folder that is deleted is empty;
* **`ciphers_filed`**: so does every run of such requests;
* `ciphers_misfiled`: a folder is deleted with a cipher in it.
-/

namespace HonoWarden

open Relational

/-! ## Requests -/

/-- A request that writes ciphers or folders of an account. -/
inductive FilingRequest where
  | createCipher (input : CipherRecord)
  | updateCipher (input : CipherUpdateInput)
  | bulkMoveCiphers (input : CipherBulkMoveInput)
  | softDeleteCipher (input : CipherDeleteInput)
  | bulkSoftDeleteCiphers (input : CipherBulkMutationInput)
  | restoreCipher (input : CipherRestoreInput)
  | bulkRestoreCiphers (input : CipherBulkMutationInput)
  | share (input : OrganizationCipherShareInput)
  | createFolder (input : FolderRecord)
  | updateFolder (input : FolderUpdateInput)
  | deleteFolder (input : FolderDeleteInput)
  deriving DecidableEq, Repr

namespace FilingRequest

def run : FilingRequest → Db → Db
  | createCipher input, db => (HonoWarden.createCipher input db).1
  | updateCipher input, db => (HonoWarden.updateCipher input db).1
  | bulkMoveCiphers input, db => (HonoWarden.bulkMoveCiphers input db).1
  | softDeleteCipher input, db => (HonoWarden.softDeleteCipher input db).1
  | bulkSoftDeleteCiphers input, db => (HonoWarden.bulkSoftDeleteCiphers input db).1
  | restoreCipher input, db => (HonoWarden.restoreCipher input db).1
  | bulkRestoreCiphers input, db => (HonoWarden.bulkRestoreCiphers input db).1
  | share input, db => (sharePersonalCipherWithOrganization input db).1
  | createFolder input, db => (HonoWarden.createFolder input db).1
  | updateFolder input, db => (HonoWarden.updateFolder input db).1
  | deleteFolder input, db => (HonoWarden.deleteFolder input db).1

/-- The folder a request names, and whose it must be. -/
def named : FilingRequest → Option (String × String)
  | createCipher input => input.folderId.map fun id => (id, input.userId)
  | updateCipher input => input.folderId.map fun id => (id, input.userId)
  | bulkMoveCiphers input => input.folderId.map fun id => (id, input.userId)
  | _ => none

/-- The request finds something to write its folder into. -/
def Writes (db : Db) : FilingRequest → Prop
  | createCipher input => input.row.Refers db ∧ ∀ c ∈ db.ciphers.rows, c.id ≠ input.id
  | updateCipher input => ∃ c ∈ db.ciphers.rows, input.Hit c
  | bulkMoveCiphers input =>
    ∃ c ∈ db.ciphers.rows, c.PersonalAmong input.ids input.userId ∧ c.deletedAt = none
  | _ => False

instance (db : Db) : ∀ request : FilingRequest, Decidable (request.Writes db)
  | createCipher _ => inferInstanceAs (Decidable (_ ∧ _))
  | updateCipher _ | bulkMoveCiphers _ => inferInstanceAs (Decidable (∃ c ∈ db.ciphers.rows, _))
  | softDeleteCipher _ | bulkSoftDeleteCiphers _ | restoreCipher _ | bulkRestoreCiphers _
  | share _ | createFolder _ | updateFolder _ | deleteFolder _ => .isFalse id

/-- An active folder is deleted only when it is empty. -/
def DeletesEmpty (db : Db) : FilingRequest → Prop
  | deleteFolder input => folderBelongsToUser db input.id input.userId →
    ∀ c ∈ db.ciphers.rows, c.organizationId = none → c.userId = input.userId →
      c.folderId ≠ some input.id
  | _ => True

instance (db : Db) : ∀ request : FilingRequest, Decidable (request.DeletesEmpty db)
  | deleteFolder input => inferInstanceAs (Decidable (folderBelongsToUser db input.id input.userId →
    ∀ c ∈ db.ciphers.rows, c.organizationId = none → c.userId = input.userId →
      c.folderId ≠ some input.id))
  | createCipher _ | updateCipher _ | bulkMoveCiphers _ | softDeleteCipher _
  | bulkSoftDeleteCiphers _ | restoreCipher _ | bulkRestoreCiphers _ | share _ | createFolder _
  | updateFolder _ => .isTrue trivial

/-- The folder a request writes is still active then, and a folder that is deleted is empty. -/
def Orderly (db : Db) (request : FilingRequest) : Prop :=
  (request.Writes db → ∀ folder ∈ request.named, folderBelongsToUser db folder.1 folder.2) ∧
    request.DeletesEmpty db

instance (db : Db) (request : FilingRequest) : Decidable (request.Orderly db) :=
  inferInstanceAs (Decidable (_ ∧ _))

end FilingRequest

/-! ## The system -/

/-- The database, and the checks that have passed. -/
structure FilingState where
  db : Db
  checked : List (String × String) := []

inductive FilingStep where
  | check (folderId userId : String)
  | request (request : FilingRequest)
  /-- What else writes the database, outside of the ciphers and folders. -/
  | surroundings (write : Db → Db)

namespace FilingStep

def exec : FilingStep → FilingState → FilingState
  | check folderId userId, s =>
    if folderBelongsToUser s.db folderId userId then
      { s with checked := (folderId, userId) :: s.checked }
    else s
  | request r, s =>
    if ∀ folder ∈ r.named, folder ∈ s.checked then { s with db := r.run s.db } else s
  | surroundings write, s =>
    { s with db := { write s.db with ciphers := s.db.ciphers, folders := s.db.folders } }

def Orderly (s : FilingState) : FilingStep → Prop
  | request r => r.Orderly s.db
  | _ => True

instance (s : FilingState) : ∀ step : FilingStep, Decidable (step.Orderly s)
  | request r => inferInstanceAs (Decidable (r.Orderly s.db))
  | check _ _ | surroundings _ => .isTrue trivial

end FilingStep

/-- Checks and requests in any order. -/
def filingSystem : System FilingState FilingStep String :=
  .ofFunction FilingStep.exec fun _ => []

/-! ## The invariant -/

/-- The folder of every personal cipher is an active folder of its account. -/
def Db.Filed (db : Db) : Prop :=
  ∀ c ∈ db.ciphers.rows, c.organizationId = none → ∀ id ∈ c.folderId,
    ∃ f ∈ db.folders.rows, f.Active id c.userId

instance (db : Db) : Decidable db.Filed :=
  inferInstanceAs (Decidable (∀ c ∈ db.ciphers.rows, c.organizationId = none → ∀ id ∈ c.folderId,
    ∃ f ∈ db.folders.rows, f.Active id c.userId))

/-- The folders are what they were, and a personal cipher is in the folder it was in, or in one
that is allowed to its account. -/
structure Refiled (allowed : Option String → String → Prop) (db db' : Db) : Prop where
  folders : db'.folders = db.folders
  ciphers : ∀ c' ∈ db'.ciphers.rows, c'.organizationId = none → allowed c'.folderId c'.userId ∨
    ∃ c ∈ db.ciphers.rows, c.organizationId = none ∧ c.userId = c'.userId ∧
      c.folderId = c'.folderId

namespace Refiled

variable {allowed : Option String → String → Prop} {db db' db'' : Db}

theorem refl (db : Db) : Refiled allowed db db :=
  ⟨rfl, fun c hc hpersonal => .inr ⟨c, hc, hpersonal, rfl, rfl⟩⟩

theorem trans (h : Refiled allowed db db') (h' : Refiled allowed db' db'') :
    Refiled allowed db db'' := by
  refine ⟨h'.folders.trans h.folders, fun c'' hc'' hpersonal => ?_⟩
  rcases h'.ciphers c'' hc'' hpersonal with hallowed | ⟨c', hc', hpersonal', huser, hfolder⟩
  · exact .inl hallowed
  · rw [← huser, ← hfolder]
    exact h.ciphers c' hc' hpersonal'

theorem of_tables (hfolders : db'.folders = db.folders) (hciphers : db'.ciphers = db.ciphers) :
    Refiled allowed db db' := by
  refine ⟨hfolders, fun c hc hpersonal => .inr ⟨c, ?_, hpersonal, rfl, rfl⟩⟩
  rw [hciphers] at hc
  exact hc

/-- An UPDATE of ciphers. -/
theorem updated {T : Table Cipher} {hit : Cipher → Prop} [DecidablePred hit]
    {set : Cipher → Cipher} (hT : T.rows = updateWhere hit set db.ciphers.rows)
    (hset : ∀ c, hit c → (set c).organizationId = none →
      allowed (set c).folderId (set c).userId ∨
        c.organizationId = none ∧ c.userId = (set c).userId ∧ c.folderId = (set c).folderId) :
    Refiled allowed db { db with ciphers := T } := by
  refine ⟨rfl, fun c' hc' hpersonal => ?_⟩
  change c' ∈ T.rows at hc'
  rw [hT] at hc'
  rcases mem_updateWhere_cases hc' with ⟨hc, -⟩ | ⟨c, hc, hhit, rfl⟩
  · exact .inr ⟨c', hc, hpersonal, rfl, rfl⟩
  · exact (hset c hhit hpersonal).imp_right fun h => ⟨c, hc, h⟩

/-- **The ciphers stay filed when the folders allowed to them are active.** -/
theorem filed (h : Refiled allowed db db') (hfiled : db.Filed)
    (hallowed : ∀ folderId userId, allowed folderId userId → ∀ id ∈ folderId,
      ∃ f ∈ db.folders.rows, f.Active id userId) : db'.Filed := by
  intro c' hc' hpersonal id hid
  rw [h.folders]
  rcases h.ciphers c' hc' hpersonal with hnew | ⟨c, hc, hpersonal', huser, hfolder⟩
  · exact hallowed _ _ hnew id hid
  · rw [← huser]
    exact hfiled c hc hpersonal' id (by rw [hfolder]; exact hid)

end Refiled

/-! ## The requests -/

/-- Nothing new is allowed. -/
abbrev Unfiled : Option String → String → Prop := fun _ _ => False

/-- An UPDATE that leaves account, organization and folder as they are. -/
theorem update_refiled {hit : Db → Nat → Cipher → Prop} [∀ s n, DecidablePred (hit s n)]
    {set : Db → Cipher → Cipher} (hset : ∀ s c, (set s c).organizationId = c.organizationId ∧
      (set s c).userId = c.userId ∧ (set s c).folderId = c.folderId) :
    (Db.ciphersIn.update hit set).Within (Refiled Unfiled) := by
  intro s s' n r h
  obtain ⟨T, hT, rfl, -⟩ := TableIn.update_ok h
  refine Refiled.updated hT fun c _ hpersonal => .inr ?_
  obtain ⟨horganization, huser, hfolder⟩ := hset s c
  exact ⟨horganization.symm.trans hpersonal, huser.symm, hfolder.symm⟩

theorem createCipher_refiled (input : CipherRecord) (db : Db) :
    Refiled (fun folderId userId => folderId = input.folderId ∧ userId = input.userId ∧
      (FilingRequest.createCipher input).Writes db) db (createCipher input db).1 := by
  unfold createCipher
  rcases execute_cases (Db.ciphersIn.insertReferencing (fun _ _ => [input.row]) Cipher.Refers)
    (fun _ => .ok input) db with ⟨he, -⟩ | ⟨db', r, hrun, he, -⟩
  · rw [he]
    exact .refl db
  · rw [he]
    obtain ⟨hrefers, T, hT, rfl, -⟩ := TableIn.insertReferencing_ok hrun
    have hkeyed : KeyedRows (db.ciphers.rows ++ [input.row]) := hT ▸ T.keyed
    have hnew : ∀ c ∈ db.ciphers.rows, c.id ≠ input.id := fun c hc heq =>
      (append_keyed_iff.mp hkeyed).2 c hc (.inl heq)
    refine ⟨rfl, fun c' hc' hpersonal => ?_⟩
    change c' ∈ T.rows at hc'
    rw [hT] at hc'
    rcases List.mem_append.mp hc' with hold | hrow
    · exact .inr ⟨c', hold, hpersonal, rfl, rfl⟩
    · rw [List.mem_singleton.mp hrow]
      exact .inl ⟨rfl, rfl, hrefers _ (List.mem_singleton_self _), hnew⟩

theorem updateCipher_refiled (input : CipherUpdateInput) (db : Db) :
    Refiled (fun folderId userId => folderId = input.folderId ∧ userId = input.userId ∧
      (FilingRequest.updateCipher input).Writes db) db (updateCipher input db).1 := by
  change Refiled _ db (attemptUpdateCipher input db).1
  rcases attemptUpdateCipher_cases input db with ⟨hrun, -⟩ | ⟨T, hrun, hT⟩
  · rw [hrun]
    exact .refl db
  · rw [hrun]
    by_cases hwrites : (FilingRequest.updateCipher input).Writes db
    · exact Refiled.updated hT fun c hhit _ => .inl ⟨rfl, hhit.1.2.1, hwrites⟩
    · have hsame : T.rows = db.ciphers.rows :=
        hT.trans (updateWhere_eq_self fun c hc hhit => hwrites ⟨c, hc, hhit⟩)
      exact .of_tables rfl (Table.ext hsame)

/-- The chunks hold the ids. -/
theorem mem_of_mem_chunk {ids : List String} : ∀ {chunk : List String},
    chunk ∈ chunkCipherIds ids → ∀ id ∈ chunk, id ∈ ids := by
  induction ids using chunkCipherIds.induct with
  | case1 =>
    intro chunk hchunk
    simp [chunkCipherIds] at hchunk
  | case2 ids hne ih =>
    intro chunk hchunk id hid
    rw [chunkCipherIds, if_neg hne] at hchunk
    rcases List.mem_cons.mp hchunk with rfl | hrest
    · exact List.mem_of_mem_take hid
    · exact List.mem_of_mem_drop (ih hrest id hid)

theorem bulkMoveCiphers_refiled (input : CipherBulkMoveInput) (db : Db) :
    Refiled (fun folderId userId => folderId = input.folderId ∧ userId = input.userId ∧
      (FilingRequest.bulkMoveCiphers input).Writes db) db (bulkMoveCiphers input db).1 := by
  by_cases hwrites : (FilingRequest.bulkMoveCiphers input).Writes db
  · refine commit_within .refl .trans fun st hst => ?_
    obtain ⟨chunk, -, rfl⟩ := List.mem_map.mp hst
    intro s s' n r h
    obtain ⟨-, T, hT, rfl, -⟩ := TableIn.updateReferencing_ok h
    exact Refiled.updated hT fun c hhit _ => .inl ⟨rfl, hhit.1.2.1, hwrites⟩
  · have hidle : (∀ c ∈ db.ciphers.rows,
        ¬ (c.PersonalAmong input.ids input.userId ∧ c.deletedAt = none)) →
        (bulkMoveCiphers input db).1 = db := by
      refine commit_within (R := fun s s' : Db => (∀ c ∈ s.ciphers.rows,
        ¬ (c.PersonalAmong input.ids input.userId ∧ c.deletedAt = none)) → s' = s)
        (fun _ _ => rfl) ?_ fun st hst => ?_
      · intro s s' s'' h h' hnone
        have hsame := h hnone
        subst hsame
        exact h' hnone
      · obtain ⟨chunk, hchunk, rfl⟩ := List.mem_map.mp hst
        intro s s' n r h hnone
        obtain ⟨-, T, hT, rfl, -⟩ := TableIn.updateReferencing_ok h
        refine TableIn.put_eq_self Db.ciphersIn (hT.trans (updateWhere_eq_self ?_))
        exact fun c hc hhit =>
          hnone c hc ⟨⟨mem_of_mem_chunk hchunk _ hhit.1.1, hhit.1.2⟩, hhit.2⟩
    rw [hidle fun c hc hhit => hwrites ⟨c, hc, hhit⟩]
    exact .refl db

/-- **A cipher that is shared leaves its folder.** -/
theorem share_refiled (input : OrganizationCipherShareInput) (db : Db) :
    Refiled Unfiled db (sharePersonalCipherWithOrganization input db).1 := by
  unfold sharePersonalCipherWithOrganization
  split
  · refine commit_within .refl .trans fun st hst => ?_
    simp only [List.mem_cons, List.not_mem_nil, or_false] at hst
    rcases hst with rfl | rfl
    · intro s s' n r h
      obtain ⟨-, T, hT, rfl, -⟩ := TableIn.updateReferencing_ok h
      refine Refiled.updated hT fun c _ hpersonal => ?_
      cases hpersonal
    · exact TableIn.insertReferencing_within fun s T => .of_tables rfl rfl
  · exact .refl db

theorem bulkSoftDeleteCiphers_refiled (input : CipherBulkMutationInput) (db : Db) :
    Refiled Unfiled db (bulkSoftDeleteCiphers input db).1 := by
  refine commit_within .refl .trans fun st hst => ?_
  obtain ⟨chunk, -, rfl⟩ := List.mem_map.mp hst
  exact update_refiled fun _ _ => ⟨rfl, rfl, rfl⟩

theorem bulkRestoreCiphers_refiled (input : CipherBulkMutationInput) (db : Db) :
    Refiled Unfiled db (bulkRestoreCiphers input db).1 := by
  refine commit_within .refl .trans fun st hst => ?_
  obtain ⟨chunk, -, hst⟩ := List.mem_flatMap.mp hst
  simp only [List.mem_cons, List.not_mem_nil, or_false] at hst
  rcases hst with rfl | rfl
  · exact select_within .refl
  · exact update_refiled fun _ _ => ⟨rfl, rfl, rfl⟩

/-! ### Folders -/

/-- Folders that stay active keep the ciphers filed. -/
theorem Db.Filed.folders {db : Db} (h : db.Filed) {F : Table Folder}
    (hF : ∀ c ∈ db.ciphers.rows, c.organizationId = none → ∀ id ∈ c.folderId,
      ∀ f ∈ db.folders.rows, f.Active id c.userId → ∃ f' ∈ F.rows, f'.Active id c.userId) :
    Db.Filed { db with folders := F } := by
  intro c hc hpersonal id hid
  obtain ⟨f, hf, hactive⟩ := h c hc hpersonal id hid
  exact hF c hc hpersonal id hid f hf hactive

theorem createFolder_filed {input : FolderRecord} {db : Db} (h : db.Filed) :
    (createFolder input db).1.Filed := by
  unfold createFolder
  rcases execute_cases (Db.foldersIn.insertReferencing (fun _ _ => [input.row])
    fun db f => ∃ u ∈ db.users.rows, u.id = f.userId) (fun _ => .ok input) db with
    ⟨he, -⟩ | ⟨db', r, hrun, he, -⟩
  · rw [he]
    exact h
  · rw [he]
    obtain ⟨-, T, hT, rfl, -⟩ := TableIn.insertReferencing_ok hrun
    refine h.folders fun c _ _ id _ f hf hactive => ⟨f, ?_, hactive⟩
    rw [hT]
    exact List.mem_append_left _ hf

theorem updateFolder_filed {input : FolderUpdateInput} {db : Db} (h : db.Filed) :
    (updateFolder input db).1.Filed := by
  change (attemptUpdateFolder input db).1.Filed
  obtain ⟨T, hrun, hT⟩ := attemptUpdateFolder_eq input db
  rw [hrun]
  refine h.folders fun c _ _ id _ f hf hactive => ?_
  rw [hT]
  by_cases hhit : input.Hit f
  · exact ⟨_, mem_updateWhere_of_hit hf hhit, hactive⟩
  · exact ⟨f, mem_updateWhere_of_not_hit hf hhit, hactive⟩

/-- **Deleting an empty folder leaves the other folders active.** -/
theorem deleteFolder_filed {input : FolderDeleteInput} {db : Db} (h : db.Filed)
    (hempty : (FilingRequest.deleteFolder input).DeletesEmpty db) :
    (deleteFolder input db).1.Filed := by
  unfold deleteFolder
  rcases execute_cases (Db.foldersIn.update (fun _ _ f => f.Active input.id input.userId)
    fun _ => input.apply) (fun result => .ok (decide (result.metaChanges = 1))) db with
    ⟨he, -⟩ | ⟨db', r, hrun, he, -⟩
  · rw [he]
    exact h
  · rw [he]
    obtain ⟨T, hT, rfl, -⟩ := TableIn.update_ok hrun
    refine h.folders fun c hc hpersonal id hid f hf hactive => ⟨f, ?_, hactive⟩
    rw [hT]
    refine mem_updateWhere_of_not_hit hf fun hhit => ?_
    have hown : folderBelongsToUser db input.id input.userId = true :=
      decide_eq_true ⟨f, hf, hhit⟩
    have hid' : id = input.id := hactive.1.symm.trans hhit.1
    subst hid'
    exact hempty hown c hc hpersonal (hactive.2.1.symm.trans hhit.2.1) (Option.mem_def.mp hid)

/-- **An orderly request keeps the ciphers filed.** -/
theorem FilingRequest.run_filed {request : FilingRequest} {db : Db} (h : db.Filed)
    (horderly : request.Orderly db) : (request.run db).Filed := by
  have hactive : ∀ {folderId : Option String} {userId : String},
      request.Writes db → request.named = folderId.map (fun id => (id, userId)) →
      ∀ id ∈ folderId, ∃ f ∈ db.folders.rows, f.Active id userId := by
    intro folderId userId hwrites hnamed id hid
    have hbelongs := horderly.1 hwrites (id, userId) (by
      rw [hnamed, Option.mem_def.mp hid]
      rfl)
    exact of_decide_eq_true hbelongs
  have hunfiled : ∀ {db' : Db}, Refiled Unfiled db db' → db'.Filed := fun hr =>
    hr.filed h fun _ _ hfalse => hfalse.elim
  cases request with
  | createCipher input =>
    refine (createCipher_refiled input db).filed h ?_
    rintro folderId userId ⟨rfl, rfl, hwrites⟩
    exact hactive hwrites rfl
  | updateCipher input =>
    refine (updateCipher_refiled input db).filed h ?_
    rintro folderId userId ⟨rfl, rfl, hwrites⟩
    exact hactive hwrites rfl
  | bulkMoveCiphers input =>
    refine (bulkMoveCiphers_refiled input db).filed h ?_
    rintro folderId userId ⟨rfl, rfl, hwrites⟩
    exact hactive hwrites rfl
  | softDeleteCipher input =>
    exact hunfiled (execute_within .refl (update_refiled fun _ _ => ⟨rfl, rfl, rfl⟩))
  | bulkSoftDeleteCiphers input => exact hunfiled (bulkSoftDeleteCiphers_refiled input db)
  | restoreCipher input =>
    exact hunfiled (execute_within .refl (update_refiled fun _ _ => ⟨rfl, rfl, rfl⟩))
  | bulkRestoreCiphers input => exact hunfiled (bulkRestoreCiphers_refiled input db)
  | share input => exact hunfiled (share_refiled input db)
  | createFolder input => exact createFolder_filed h
  | updateFolder input => exact updateFolder_filed h
  | deleteFolder input => exact deleteFolder_filed h horderly.2

/-! ## Runs -/

theorem FilingStep.exec_filed {step : FilingStep} {s : FilingState} (h : s.db.Filed)
    (horderly : step.Orderly s) : (step.exec s).db.Filed := by
  cases step with
  | check folderId userId =>
    dsimp only [exec]
    split <;> exact h
  | request r =>
    dsimp only [exec]
    split
    · exact r.run_filed h horderly
    · exact h
  | surroundings write => exact h

/-- **No folder reference dangles**: from a filed database, in a run whose requests write into
folders that are still active and delete folders that are empty, every personal cipher is in no
folder or in an active folder of its account. -/
theorem ciphers_filed {s : FilingState} {issued : List String} {steps : List FilingStep}
    {c : Config FilingState String} (h : s.db.Filed)
    (hrun : Run (filingSystem.restrict fun s step => step.Orderly s)
      { state := s, issued := issued } steps c) : c.state.db.Filed := by
  refine hrun.invariant (I := fun c => c.state.db.Filed) h fun {c step c'} hnext hfiled => ?_
  have heq : c'.state = step.exec c.state := hnext.step.1
  rw [heq]
  exact FilingStep.exec_filed hfiled hnext.step.2

/-! ### One folder -/

/-- An account with an active folder. -/
def folderOwner : FilingState where
  db :=
    { users := .singleton { id := "u" }
      folders := ⟨[{ id := "f", userId := "u", encryptedName := "2.n" }], by decide⟩ }

/-- The folder is checked, and a cipher is created in it. -/
def fileCipher : List FilingStep :=
  [.check "f" "u",
    .request (.createCipher
      { id := "c", userId := "u", folderId := some "f", type := 1, favorite := false,
        encryptedJson := "{}", revisionDate := 1, createdAt := 1, deletedAt := none })]

def dropFolder : FilingStep := .request (.deleteFolder { id := "f", userId := "u", revisionDate := 3 })

/-- The cipher is moved out before the folder is deleted. -/
def emptiedEnd : Config FilingState String :=
  (replay FilingStep.exec (fun _ => []) { state := folderOwner }
    (fileCipher ++ [.request (.bulkMoveCiphers
      { ids := ["c"], userId := "u", revisionDate := 2, folderId := none }), dropFolder])).get
    (by decide +kernel)

theorem ciphers_filed_emptied :
    emptiedEnd.state.db.folders.rows.map Folder.deletedAt = [some 3] ∧ emptiedEnd.state.db.Filed :=
  ⟨by decide +kernel,
    ciphers_filed (s := folderOwner) (by decide)
      (replay_restrict (Option.some_get _).symm (by decide +kernel))⟩

/-- The folder is deleted with the cipher in it. -/
def misfiledEnd : Config FilingState String :=
  (replay FilingStep.exec (fun _ => []) { state := folderOwner } (fileCipher ++ [dropFolder])).get
    (by decide +kernel)

theorem ciphers_misfiled :
    folderOwner.db.Filed ∧
      ∃ steps c, Run filingSystem { state := folderOwner } steps c ∧ ¬ c.state.db.Filed :=
  ⟨by decide, _, misfiledEnd, replay_run (Option.some_get _).symm, by decide +kernel⟩

end HonoWarden
