import HonoWarden.Vault.Collections

/-!
# The vault as a system

`VaultOp` lists the calls that write the vault: ciphers of accounts and of organizations, folders,
attachments, collections, memberships and groups, and the end of an account purge. A step of
`vaultSystem` is one call, or a write of the surroundings, which are free to write everything but
the tables the vault owns (`Db.confineVault`).

Every call commits at once, so the runs of the system are the interleavings of the requests.

Results:
* `VaultKept`: what a call that leaves the ciphers, their mappings and their attachments alone keeps;
* **`MembershipOp.run_vaultKept`**: requests to memberships and groups are such calls.
-/

namespace HonoWarden

open Relational

/-! ## The calls -/

/-- A call that writes the vault. -/
inductive VaultOp where
  | createCipher (input : CipherRecord)
  | updateCipher (input : CipherUpdateInput)
  | softDeleteCipher (input : CipherDeleteInput)
  | restoreCipher (input : CipherRestoreInput)
  | permanentlyDeleteCipher (input : CipherRestoreInput)
  | bulkMoveCiphers (input : CipherBulkMoveInput)
  | bulkSoftDeleteCiphers (input : CipherBulkMutationInput)
  | bulkRestoreCiphers (input : CipherBulkMutationInput)
  | bulkPermanentlyDeleteCiphers (input : CipherBulkMutationInput)
  | createOrganizationCipher (input : OrganizationCipherWriteInput)
  | sharePersonalCipher (input : OrganizationCipherShareInput)
  | updateOrganizationCipher (input : OrganizationCipherUpdateInput)
  | softDeleteOrganizationCipher (input : OrganizationCipherSoftDeleteInput)
  | restoreOrganizationCipher (input : OrganizationCipherLifecycleInput)
  | permanentlyDeleteOrganizationCipher (input : OrganizationCipherLifecycleInput)
  | createFolder (input : FolderRecord)
  | updateFolder (input : FolderUpdateInput)
  | deleteFolder (input : FolderDeleteInput)
  | createCipherAttachment (input : CipherAttachmentCreateInput)
  | createPendingCipherAttachment (input : CipherAttachmentCreateInput) (maxStorageBytes : Nat)
      (expiredBefore : Timestamp)
  | reserveCipherAttachmentUpload (input : CipherAttachmentLookupInput) (size : Nat)
      (expiredBefore : Timestamp) (maxStorageBytes : Nat) (updatedAt : Timestamp)
  | markCipherAttachmentUploaded (input : CipherAttachmentLookupInput) (contentType : String)
      (revisionDate updatedAt : Timestamp)
  | deleteCipherAttachment (input : CipherAttachmentLookupInput)
  | deleteExpiredPendingCipherAttachments (expiredBefore : Timestamp) (limit : Nat)
  | createCollection (input : OrganizationCollectionWriteInput)
  | updateCollection (input : OrganizationCollectionUpdateInput)
  | deleteCollections (input : OrganizationCollectionsDeleteInput)
  | membership (op : MembershipOp)
  | finalizeAccountPurge (input : AccountPurgeInput)

/-- The database after a call. -/
def VaultOp.run (fingerprint : String → String) : VaultOp → Db → Db
  | createCipher input, db => (HonoWarden.createCipher input db).1
  | updateCipher input, db => (HonoWarden.updateCipher input db).1
  | softDeleteCipher input, db => (HonoWarden.softDeleteCipher input db).1
  | restoreCipher input, db => (HonoWarden.restoreCipher input db).1
  | permanentlyDeleteCipher input, db => (HonoWarden.permanentlyDeleteCipher input db).1
  | bulkMoveCiphers input, db => (HonoWarden.bulkMoveCiphers input db).1
  | bulkSoftDeleteCiphers input, db => (HonoWarden.bulkSoftDeleteCiphers input db).1
  | bulkRestoreCiphers input, db => (HonoWarden.bulkRestoreCiphers input db).1
  | bulkPermanentlyDeleteCiphers input, db =>
    (HonoWarden.bulkPermanentlyDeleteCiphers input db).1
  | createOrganizationCipher input, db => (HonoWarden.createOrganizationCipher input db).1
  | sharePersonalCipher input, db => (sharePersonalCipherWithOrganization input db).1
  | updateOrganizationCipher input, db => (HonoWarden.updateOrganizationCipher input db).1
  | softDeleteOrganizationCipher input, db => (HonoWarden.softDeleteOrganizationCipher input db).1
  | restoreOrganizationCipher input, db => (HonoWarden.restoreOrganizationCipher input db).1
  | permanentlyDeleteOrganizationCipher input, db =>
    (HonoWarden.permanentlyDeleteOrganizationCipher input db).1
  | createFolder input, db => (HonoWarden.createFolder input db).1
  | updateFolder input, db => (HonoWarden.updateFolder input db).1
  | deleteFolder input, db => (HonoWarden.deleteFolder input db).1
  | createCipherAttachment input, db => (HonoWarden.createCipherAttachment input db).1
  | createPendingCipherAttachment input maxStorageBytes expiredBefore, db =>
    (HonoWarden.createPendingCipherAttachment input maxStorageBytes expiredBefore db).1
  | reserveCipherAttachmentUpload input size expiredBefore maxStorageBytes updatedAt, db =>
    (HonoWarden.reserveCipherAttachmentUpload input size expiredBefore maxStorageBytes updatedAt
      db).1
  | markCipherAttachmentUploaded input contentType revisionDate updatedAt, db =>
    (HonoWarden.markCipherAttachmentUploaded input contentType revisionDate updatedAt db).1
  | deleteCipherAttachment input, db => (HonoWarden.deleteCipherAttachment input db).1
  | deleteExpiredPendingCipherAttachments expiredBefore limit, db =>
    (HonoWarden.deleteExpiredPendingCipherAttachments expiredBefore limit db).1
  | createCollection input, db => (createOrganizationCollection input db).1
  | updateCollection input, db => (updateOrganizationCollection input db).1
  | deleteCollections input, db => (deleteOrganizationCollections input db).1
  | membership op, db => op.run fingerprint db
  | finalizeAccountPurge input, db => (HonoWarden.finalizeAccountPurge input db).1

/-- `db'` with the tables of the vault as they were in `db`. -/
def Db.confineVault (db db' : Db) : Db :=
  { db' with
    ciphers := db.ciphers, collectionCiphers := db.collectionCiphers,
    collections := db.collections, cipherAttachments := db.cipherAttachments,
    folders := db.folders }

/-- The vault: its calls in any order, among what its surroundings write. -/
def vaultSystem (fingerprint : String → String) : System Db (Move VaultOp Db) String :=
  .within (VaultOp.run fingerprint) (fun _ => []) Db.confineVault

/-! ## Calls that leave the vault alone -/

/-- The ciphers, their mappings and attachments and the folders are what they were, and no
collection is gone or moved. -/
structure VaultKept (db db' : Db) : Prop where
  ciphers : db'.ciphers = db.ciphers
  collectionCiphers : db'.collectionCiphers = db.collectionCiphers
  cipherAttachments : db'.cipherAttachments = db.cipherAttachments
  folders : db'.folders = db.folders
  collections : ∀ k ∈ db.collections.rows, ∃ k' ∈ db'.collections.rows, k'.id = k.id ∧
    k'.organizationId = k.organizationId

namespace VaultKept

variable {db db' db'' : Db}

theorem refl (db : Db) : VaultKept db db :=
  ⟨rfl, rfl, rfl, rfl, fun k hk => ⟨k, hk, rfl, rfl⟩⟩

theorem trans (h : VaultKept db db') (h' : VaultKept db' db'') : VaultKept db db'' where
  ciphers := h'.ciphers.trans h.ciphers
  collectionCiphers := h'.collectionCiphers.trans h.collectionCiphers
  cipherAttachments := h'.cipherAttachments.trans h.cipherAttachments
  folders := h'.folders.trans h.folders
  collections k hk := by
    obtain ⟨k₁, hk₁, hid₁, horg₁⟩ := h.collections k hk
    obtain ⟨k₂, hk₂, hid₂, horg₂⟩ := h'.collections k₁ hk₁
    exact ⟨k₂, hk₂, hid₂.trans hid₁, horg₂.trans horg₁⟩

theorem of_tables (hciphers : db'.ciphers = db.ciphers)
    (hmappings : db'.collectionCiphers = db.collectionCiphers)
    (hattachments : db'.cipherAttachments = db.cipherAttachments)
    (hfolders : db'.folders = db.folders) (hcollections : db'.collections = db.collections) :
    VaultKept db db' :=
  ⟨hciphers, hmappings, hattachments, hfolders, fun k hk => ⟨k, hcollections ▸ hk, rfl, rfl⟩⟩

/-- Collections that are added, or written without being moved. -/
theorem of_collections {C : Table Collection}
    (hC : ∀ k ∈ db.collections.rows, ∃ k' ∈ C.rows, k'.id = k.id ∧
      k'.organizationId = k.organizationId) : VaultKept db { db with collections := C } :=
  ⟨rfl, rfl, rfl, rfl, hC⟩

end VaultKept

/-- The side writes of a request leave the vault alone. -/
theorem vaultKept_frame : RequestFrame VaultKept where
  refl := .refl
  trans := .trans
  events _ _ := .of_tables rfl rfl rfl rfl rfl
  organizations _ _ := .of_tables rfl rfl rfl rfl rfl
  grants _ _ := .of_tables rfl rfl rfl rfl rfl
  groups _ _ := .of_tables rfl rfl rfl rfl rfl
  links _ _ := .of_tables rfl rfl rfl rfl rfl
  groupGrants _ _ := .of_tables rfl rfl rfl rfl rfl
  polled _ _ _ _ _ _ := .of_tables rfl rfl rfl rfl rfl
  left _ _ _ _ _ := .of_tables rfl rfl rfl rfl rfl

theorem membershipRequest_vaultKept (request : MembershipRequest) (db : Db) :
    VaultKept db (request.run db).1 := by
  cases request with
  | invite input auditIds =>
    exact insertOrganizationMemberInvites_within vaultKept_frame
      (TableIn.insertSelect_within fun _ _ => .of_tables rfl rfl rfl rfl rfl) db
  | mutate mutation mutationId =>
    cases mutation <;>
      exact runMutation_within vaultKept_frame
        (TableIn.update_within fun _ _ => .of_tables rfl rfl rfl rfl rfl) db

/-! ### The other requests -/

theorem createOrganizationFoundation_vaultKept (input : OrganizationFoundationInput) (db : Db) :
    VaultKept db (createOrganizationFoundation input db).1 := by
  rcases createOrganizationFoundation_cases input db with
    hdb | ⟨O, M, C, G, ms, cs, gs, hdb, -, -, -, hC, -⟩
  · rw [hdb]
    exact .refl db
  · rw [hdb]
    refine ⟨rfl, rfl, rfl, rfl, fun k hk => ⟨k, ?_, rfl, rfl⟩⟩
    simp only
    rw [hC]
    exact List.mem_append_left _ hk

theorem changeAccountEmail_vaultKept (fingerprint : String → String)
    (input : ChangeAccountEmailInput) (db : Db) :
    VaultKept db (changeAccountEmail fingerprint input db).1 := by
  unfold changeAccountEmail
  split
  · exact .refl db
  · refine commit_within .refl .trans fun st hst => ?_
    simp only [ChangeAccountEmailInput.batch, List.mem_cons, List.not_mem_nil, or_false] at hst
    rcases hst with rfl | rfl | rfl | rfl | rfl | rfl | rfl | rfl
    · exact TableIn.updateTriggering_within (fun _ _ => .of_tables rfl rfl rfl rfl rfl) .trans
        fun _ s => TableIn.nestedUpdate_within (fun _ _ => .of_tables rfl rfl rfl rfl rfl) .refl s
    · intro s s' n r h
      obtain ⟨W, -, rfl, -⟩ := TableIn.insertOrIgnore_ok h
      exact .of_tables rfl rfl rfl rfl rfl
    all_goals first
      | exact TableIn.update_within fun _ _ => .of_tables rfl rfl rfl rfl rfl
      | exact auditStatement_within vaultKept_frame

/-- **Requests to memberships and groups leave the vault alone.** -/
theorem MembershipOp.run_vaultKept (fingerprint : String → String) (op : MembershipOp) (db : Db) :
    VaultKept db (op.run fingerprint db) := by
  cases op with
  | foundation input => exact createOrganizationFoundation_vaultKept input db
  | membership request => exact membershipRequest_vaultKept request db
  | createGroup input mutationId =>
    exact (MembershipOp.groups_within vaultKept_frame fingerprint db).1 input mutationId
  | updateGroup input mutationId =>
    exact (MembershipOp.groups_within vaultKept_frame fingerprint db).2.1 input mutationId
  | deleteGroup input mutationId =>
    exact (MembershipOp.groups_within vaultKept_frame fingerprint db).2.2.1 input mutationId
  | removeGroupMember input membershipId mutationId =>
    exact (MembershipOp.groups_within vaultKept_frame fingerprint db).2.2.2 input membershipId
      mutationId
  | changeEmail input => exact changeAccountEmail_vaultKept fingerprint input db

end HonoWarden
