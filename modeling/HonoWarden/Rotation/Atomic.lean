import HonoWarden.Rotation.Vault

/-!
# A rotation is whole

Whatever was written between the snapshot and the batch of `rotateUserKeyGeneration`, the batch
changes nothing, or it finds the vault as the snapshot had it and takes all of it to the next
generation.

* `vaultAt`: the vault of an account, as it stands in a database;
* `RotationCommitted`: what the statements of the batch have written;
* `VaultRotated`: the same, row by row.

Results:
* `mutationStatements_miss`, **`mutationStatements_hit`**: the batch writes nothing, or a whole
  rotation;
* **`RotationCommitted.vaultRotated`**: a whole rotation rotates every row of the vault.
-/

namespace HonoWarden

open Relational

section Run

variable {input : RotateUserKeyGenerationInput} {snapshot : RotationSnapshot}
  {manifests : RotationManifests} {db db' : Db} {n : Nat} {results : List StatementResult}

/-! ## What the statements write -/

variable (input) in
/-- The devices after the three statements that write them. -/
def rotateDevices (items : List UserKeyRotationTrustedDevice) (rows : List Device) : List Device :=
  updateWhere (fun d => d.userId = input.userId ∧ d.revokedAt = none)
    (Device.revoke input.nextRevisionDate)
    (updateWhere (fun d => d.userId = input.userId ∧ d.revokedAt ≠ none ∧ d.Keyed) input.clearDevice
      (updateWhere (fun d => d.userId = input.userId ∧ d.revokedAt = none ∧ d.Complete ∧
          d.id ∈ items.map UserKeyRotationTrustedDevice.id)
        (rewriteFrom Device.id UserKeyRotationTrustedDevice.id input.rotateDevice items) rows))

/-- The batch has committed: the account `u` and its rows are in the next generation. -/
structure RotationCommitted (input : RotateUserKeyGenerationInput) (snapshot : RotationSnapshot)
    (manifests : RotationManifests) (u : User) (db db' : Db) : Prop where
  users : Db.usersIn.row db' =
    Function.update (Db.usersIn.row db) input.userId (some (u.settled (input.rotate u)))
  wrappers : WrappersAdded input.userId input.nextRevisionDate snapshot.fingerprints.wrappers db db'
  folders : db'.folders.rows =
    updateWhere (fun f => f.userId = input.userId ∧ f.deletedAt = none ∧
        f.id ∈ manifests.nextFolders.map UserKeyRotationFolder.id)
      (rewriteFrom Folder.id UserKeyRotationFolder.id input.rotateFolder manifests.nextFolders)
      db.folders.rows
  ciphers : db'.ciphers.rows =
    updateWhere (fun c => c.userId = input.userId ∧ c.organizationId = none ∧ c.deletedAt = none ∧
        c.id ∈ manifests.nextCiphers.map NextCipher.id)
      (rewriteFrom Cipher.id NextCipher.id input.rotateCipher manifests.nextCiphers) db.ciphers.rows
  attachments : db'.cipherAttachments.rows =
    updateWhere (fun a => a.userId = input.userId ∧ a.contentType ≠ none ∧
        a.id ∈ manifests.nextAttachments.map NextAttachment.id)
      (rewriteFrom CipherAttachment.id NextAttachment.id input.rotateAttachment
        manifests.nextAttachments) db.cipherAttachments.rows
  devices : db'.devices.rows = rotateDevices input manifests.nextTrustedDevices db.devices.rows
  refreshTokens : db'.refreshTokens.rows =
    updateWhere (fun t => t.userId = input.userId ∧ t.revokedAt = none)
      (RefreshToken.revoke input.nextRevisionDate) db.refreshTokens.rows
  authRequests : db'.authRequests.rows =
    updateWhere (fun a => a.userId = some input.userId ∧
        (a.status = .pending ∨ a.status = .approved))
      (AuthRequest.supersede input.nextRevisionDate) db.authRequests.rows
  audit : db'.auditEvents.rows =
    db.auditEvents.rows ++ [{ input.auditEvent with id := input.auditEventId }]
  others : db' = { db with
    users := db'.users
    wrapperHistory := db'.wrapperHistory
    folders := db'.folders
    ciphers := db'.ciphers
    cipherAttachments := db'.cipherAttachments
    devices := db'.devices
    refreshTokens := db'.refreshTokens
    authRequests := db'.authRequests
    auditEvents := db'.auditEvents }

/-- The numbers the client reads of a batch that has committed. -/
structure RotationCounts (input : RotateUserKeyGenerationInput) (snapshot : RotationSnapshot)
    (manifests : RotationManifests) (u : User) (db : Db)
    (user wrapper folder cipher attachment trustedDevice revokedDeviceKey device refresh authRequest
      audit : StatementResult) :
    Prop where
  rows : user.rows = [[.text input.userId]]
  userChanges : user.metaChanges = 1 + if u.StaleKeyId (input.rotate u) then 1 else 0
  wrapperChanges : wrapper.metaChanges =
    (unrecorded db input.userId snapshot.fingerprints.wrappers).length
  recorded : wrapper.rows =
    (unrecorded db input.userId snapshot.fingerprints.wrappers).map CredentialWrapper.returned
  folderChanges : folder.metaChanges = db.folders.rows.countP fun f => f.userId = input.userId ∧
    f.deletedAt = none ∧ f.id ∈ manifests.nextFolders.map UserKeyRotationFolder.id
  cipherChanges : cipher.metaChanges = db.ciphers.rows.countP fun c => c.userId = input.userId ∧
    c.organizationId = none ∧ c.deletedAt = none ∧
    c.id ∈ manifests.nextCiphers.map NextCipher.id
  attachmentChanges : attachment.metaChanges = db.cipherAttachments.rows.countP fun a =>
    a.userId = input.userId ∧ a.contentType ≠ none ∧
    a.id ∈ manifests.nextAttachments.map NextAttachment.id
  trustedDeviceChanges : trustedDevice.metaChanges = db.devices.rows.countP fun d =>
    d.userId = input.userId ∧ d.revokedAt = none ∧ d.Complete ∧
    d.id ∈ manifests.nextTrustedDevices.map UserKeyRotationTrustedDevice.id
  revokedDeviceKeyChanges : revokedDeviceKey.metaChanges =
    (updateWhere (fun d => d.userId = input.userId ∧ d.revokedAt = none ∧ d.Complete ∧
        d.id ∈ manifests.nextTrustedDevices.map UserKeyRotationTrustedDevice.id)
      (rewriteFrom Device.id UserKeyRotationTrustedDevice.id input.rotateDevice
        manifests.nextTrustedDevices) db.devices.rows).countP fun d =>
      d.userId = input.userId ∧ d.revokedAt ≠ none ∧ d.Keyed
  sessions : (device.metaChanges, refresh.metaChanges, authRequest.metaChanges) =
    openSessions input.userId db
  auditChanges : audit.metaChanges = 1

/-- A device is active after a rotation of its keys iff it was active before. -/
theorem rewriteFrom_rotateDevice_revokedAt (items : List UserKeyRotationTrustedDevice) (d : Device) :
    (rewriteFrom Device.id UserKeyRotationTrustedDevice.id input.rotateDevice items d).revokedAt =
      d.revokedAt := by
  rcases rewriteFrom_cases Device.id UserKeyRotationTrustedDevice.id input.rotateDevice items d
    with h | ⟨item, -, h⟩ <;> rw [h]
  rfl

variable (input) in
/-- The statements on device keys leave the active devices active, and the others not. -/
theorem countP_active (items : List UserKeyRotationTrustedDevice) (rows : List Device) :
    (updateWhere (fun d => d.userId = input.userId ∧ d.revokedAt ≠ none ∧ d.Keyed)
      input.clearDevice
      (updateWhere (fun d => d.userId = input.userId ∧ d.revokedAt = none ∧ d.Complete ∧
          d.id ∈ items.map UserKeyRotationTrustedDevice.id)
        (rewriteFrom Device.id UserKeyRotationTrustedDevice.id input.rotateDevice items)
        rows)).countP (fun d => d.userId = input.userId ∧ d.revokedAt = none) =
      rows.countP fun d => d.userId = input.userId ∧ d.revokedAt = none := by
  refine (countP_updateWhere fun d _ _ => ?_).trans (countP_updateWhere fun d _ _ => ?_)
  · exact Iff.rfl
  · rcases rewriteFrom_cases Device.id UserKeyRotationTrustedDevice.id input.rotateDevice items d
      with h | ⟨item, -, h⟩ <;> rw [h]
    exact Iff.rfl

variable (input snapshot manifests) in
theorem mutationStatements_gated : ∀ st ∈ (mutationStatements input snapshot manifests).tail,
    st.Gated input.Committed := by
  intro st hst
  simp only [mutationStatements, List.cons_append, List.tail_cons, List.mem_cons, List.nil_append,
    List.mem_append, List.not_mem_nil, or_false] at hst
  rcases hst with rfl | rfl | rfl | rfl | rfl | rfl | hst | rfl
  · exact insertCredentialWrapperHistory_gated
  · exact TableIn.update_gated fun _ _ _ h => h.2
  · exact TableIn.update_gated fun _ _ _ h => h.2
  · exact TableIn.update_gated fun _ _ _ h => h.2
  · exact TableIn.update_gated fun _ _ _ h => h.2
  · exact TableIn.update_gated fun _ _ _ h => h.2
  · exact endSessions_gated st hst
  · refine auditStatement_gated fun _ _ henabled => ?_
    obtain ⟨u, hu, hid, -, hstamp, hrevision⟩ := henabled
    exact ⟨u, hu, hid, hstamp, hrevision⟩

/-- The batch without its account. -/
theorem mutationStatements_miss (hfresh : ¬ input.Committed db)
    (hnone : ∀ u, Db.usersIn.row db input.userId = some u →
      ¬ RotatableAccount input snapshot manifests db u)
    (h : runBatch (mutationStatements input snapshot manifests) db = .ok (db', results)) :
    db' = db ∧ interpretMutationResults input snapshot results = .ok .conflict := by
  obtain ⟨db₁, user, _, huser, hrest, rfl⟩ := runFrom_cons h
  rcases updateUser_row huser (fun u hu => hu.1) (fun _ => rfl) with
    ⟨u, hrow, hhit, -⟩ | ⟨-, rfl, -, hrows⟩
  · exact absurd hhit (hnone u hrow)
  have hgated := runFrom_gated (n := user.changes) hfresh
    (mutationStatements_gated input snapshot manifests)
  obtain ⟨rfl, rfl⟩ := Prod.mk.inj (Except.ok.inj (hgated.symm.trans hrest))
  refine ⟨rfl, ?_⟩
  change interpretMutationResults input snapshot
    [user, {}, {}, {}, {}, {}, {}, {}, {}, {}, {}] = .ok .conflict
  dsimp only [interpretMutationResults]
  rw [if_pos hrows, if_neg]
  simp

/-- The batch with its account. -/
theorem mutationStatements_hit {u : User} (hrow : Db.usersIn.row db input.userId = some u)
    (hrotatable : RotatableAccount input snapshot manifests db u)
    (hdistinct : (snapshot.fingerprints.wrappers.map CredentialWrapper.sha256).Nodup)
    (h : runBatch (mutationStatements input snapshot manifests) db = .ok (db', results)) :
    RotationCommitted input snapshot manifests u db db' ∧
      ∃ user wrapper folder cipher attachment trustedDevice revokedDeviceKey device refresh
        authRequest audit : StatementResult,
        results = [user, wrapper, folder, cipher, attachment, trustedDevice, revokedDeviceKey,
          device, refresh, authRequest, audit] ∧
        RotationCounts input snapshot manifests u db user wrapper folder cipher attachment
          trustedDevice revokedDeviceKey device refresh authRequest audit := by
  obtain ⟨db₁, user, _, huser, hrest, rfl⟩ := runFrom_cons h
  rcases updateUser_row huser (fun u hu => hu.1) (fun _ => rfl) with
    ⟨u', hrow', hhit, hwritten, hrows, hmeta⟩ | ⟨hnone, -⟩
  swap
  · exact absurd hrotatable (hnone u hrow)
  obtain rfl := Option.some.inj (hrow'.symm.trans hrow)
  obtain ⟨U, rfl⟩ := hwritten.others
  have hopen : ∀ db₂ : Db, db₂.users = U → input.CommittedEnabled db₂ := by
    rintro db₂ rfl
    exact ⟨_, (TableIn.row_eq_some_iff.mp hwritten.self).1,
      (User.settled_id _ _).trans hrotatable.1,
      (User.settled_disabledAt _ _).trans hrotatable.2.1, User.settled_securityStamp _ _,
      User.settled_revisionDate _ _⟩
  have hcommitted : ∀ db₂ : Db, db₂.users = U → input.Committed db₂ := fun db₂ h₂ =>
    (hopen db₂ h₂).imp fun _ ⟨hu, hid, _, hstamp, hrevision⟩ => ⟨hu, hid, hstamp, hrevision⟩
  obtain ⟨db₂, wrapper, _, hwrapper, hrest, rfl⟩ := runFrom_cons hrest
  obtain ⟨hadded, hothers, hwrapperCount, hrecorded⟩ :=
    insertCredentialWrapperHistory_ok (hcommitted _ rfl) hdistinct hwrapper
  obtain ⟨W, rfl⟩ : ∃ W, db₂ = { db with users := U, wrapperHistory := W } := ⟨_, hothers⟩
  obtain ⟨_, folder, _, hfolder, hrest, rfl⟩ := runFrom_cons hrest
  obtain ⟨F, hF, rfl, hfolderCount⟩ :=
    TableIn.update_when (fun _ => and_iff_left (hcommitted _ rfl)) hfolder
  obtain ⟨_, cipher, _, hcipher, hrest, rfl⟩ := runFrom_cons hrest
  obtain ⟨P, hP, rfl, hcipherCount⟩ :=
    TableIn.update_when (fun _ => and_iff_left (hcommitted _ rfl)) hcipher
  obtain ⟨_, attachment, _, hattachment, hrest, rfl⟩ := runFrom_cons hrest
  obtain ⟨Q, hQ, rfl, hattachmentCount⟩ :=
    TableIn.update_when (fun _ => and_iff_left (hcommitted _ rfl)) hattachment
  obtain ⟨_, trustedDevice, _, htrusted, hrest, rfl⟩ := runFrom_cons hrest
  obtain ⟨D, hD, rfl, htrustedCount⟩ :=
    TableIn.update_when (fun _ => and_iff_left (hcommitted _ rfl)) htrusted
  obtain ⟨_, revokedDeviceKey, _, hcleared, hrest, rfl⟩ := runFrom_cons hrest
  obtain ⟨D', hD', rfl, hclearedCount⟩ :=
    TableIn.update_when (fun _ => and_iff_left (hcommitted _ rfl)) hcleared
  obtain ⟨ended, device, refresh, authRequest, last, hended, hothers, hlast, rfl, hsessions⟩ :=
    endSessions_ok (fun db₂ h₂ => hcommitted db₂ h₂) hrest
  obtain ⟨_, audit, _, haudit, hnil, rfl⟩ := runFrom_cons hlast
  obtain ⟨rfl, rfl⟩ := runFrom_nil hnil
  have husers : ended.users = U := by rw [hothers]
  obtain ⟨haudited, haudit', hone⟩ := auditStatement_ok (hopen ended husers) haudit
  obtain ⟨D'', R, A, rfl⟩ : ∃ D'' R A, ended = { db with
      users := U, wrapperHistory := W, folders := F, ciphers := P, cipherAttachments := Q
      devices := D'', refreshTokens := R, authRequests := A } := ⟨_, _, _, hothers⟩
  obtain ⟨E, rfl⟩ : ∃ E, db' = { db with
      users := U, wrapperHistory := W, folders := F, ciphers := P, cipherAttachments := Q
      devices := D'', refreshTokens := R, authRequests := A, auditEvents := E } := ⟨_, haudit'⟩
  have hdevices : D''.rows = rotateDevices input manifests.nextTrustedDevices db.devices.rows := by
    rw [rotateDevices, ← hD, ← hD']
    exact hended.devices
  refine ⟨⟨hwritten.row, hadded, hF, hP, hQ, hdevices, hended.refreshTokens, hended.authRequests,
    haudited, rfl⟩, user, wrapper, folder, cipher, attachment, trustedDevice, revokedDeviceKey,
    device, refresh, authRequest, audit, rfl, ⟨?_, hmeta, hwrapperCount, hrecorded, hfolderCount,
    hcipherCount, hattachmentCount, htrustedCount, ?_, hsessions.trans ?_, hone⟩⟩
  · rw [hrows, ← hrotatable.1]
    rfl
  · rw [hclearedCount, ← hD]
  · refine Prod.ext ?_ rfl
    have hactive := countP_active input manifests.nextTrustedDevices db.devices.rows
    rw [← hD, ← hD'] at hactive
    exact hactive

end Run

/-! ## Row by row -/

/-- What a rotation makes of a device: an active one is revoked, with its keys for the next
generation if it had keys; a revoked one loses them. -/
structure DeviceRotated (input : RotateUserKeyGenerationInput)
    (trustedDevices : List UserKeyRotationTrustedDevice) (d d' : Device) : Prop where
  other : d.userId ≠ input.userId → d' = d
  trusted : d.userId = input.userId → d.revokedAt = none → d.Keyed →
    ∃ item ∈ trustedDevices, item.id = d.id ∧
      d' = Device.revoke input.nextRevisionDate (input.rotateDevice item d)
  active : d.userId = input.userId → d.revokedAt = none → ¬ d.Keyed →
    d' = Device.revoke input.nextRevisionDate d
  revoked : d.userId = input.userId → d.revokedAt ≠ none →
    d' = if d.Keyed then input.clearDevice d else d

/-- Every row of the vault is in its next generation, and no other row has changed. -/
structure VaultRotated (input : RotateUserKeyGenerationInput)
    (trustedDevices : List UserKeyRotationTrustedDevice) (db db' : Db) : Prop where
  folders : List.Forall₂ (Rewritten (fun f => f.userId = input.userId) Folder.id
      UserKeyRotationFolder.id input.rotateFolder input.request.folders)
    db.folders.rows db'.folders.rows
  ciphers : List.Forall₂ (Rewritten (Cipher.PersonalOf input.userId) Cipher.id NextCipher.id
      input.rotateCipher input.request.nextCiphers) db.ciphers.rows db'.ciphers.rows
  attachments : List.Forall₂ (Rewritten (CipherAttachment.PersonalOf db input.userId)
      CipherAttachment.id NextAttachment.id input.rotateAttachment input.request.nextAttachments)
    db.cipherAttachments.rows db'.cipherAttachments.rows
  devices : List.Forall₂ (DeviceRotated input trustedDevices) db.devices.rows db'.devices.rows

section Rows

variable {C : Codec} {input : RotateUserKeyGenerationInput} {snapshot : RotationSnapshot}
  {trustedDevices : List UserKeyRotationTrustedDevice} {u : User} {db db' : Db}

theorem nextAttachments_ids (request : UserKeyRotationRequest) :
    request.nextAttachments.map NextAttachment.id =
      request.requestedAttachments.map fun a => a.id := by
  simp only [UserKeyRotationRequest.nextAttachments, UserKeyRotationRequest.requestedAttachments,
    List.map_flatMap, List.map_map]
  rfl

theorem nextCiphers_ids (request : UserKeyRotationRequest) :
    request.nextCiphers.map NextCipher.id = request.ciphers.map fun c => c.id := by
  rw [UserKeyRotationRequest.nextCiphers, List.map_map]
  rfl

/-- The request has an item for every row of the vault, and for no other one. -/
structure CoversVault (request : UserKeyRotationRequest)
    (trustedDevices : List UserKeyRotationTrustedDevice) (db : Db) (userId : String) : Prop where
  folders : (request.folders.map UserKeyRotationFolder.id).Perm
    ((personalFolders db userId).map Folder.id)
  ciphers : (request.nextCiphers.map NextCipher.id).Perm
    ((personalCiphers db userId).map Cipher.id)
  attachments : (request.nextAttachments.map NextAttachment.id).Perm
    ((personalAttachments db userId).map CipherAttachment.id)
  devices : (trustedDevices.map UserKeyRotationTrustedDevice.id).Perm
    (((keyedDevices db userId).filter fun d => d.revokedAt = none).map Device.id)

theorem RotatesSnapshot.covers {request : UserKeyRotationRequest}
    (h : RotatesSnapshot C (vaultAt db u) request trustedDevices) :
    CoversVault request trustedDevices db u.id where
  folders := h.folders
  ciphers := by
    rw [nextCiphers_ids]
    exact h.ciphers
  attachments := by
    rw [nextAttachments_ids]
    have hmap := h.attachments.map Prod.snd
    rwa [List.map_map, List.map_map] at hmap
  devices := h.devices

theorem nodup_of_covers {α β : Type} [Relational.Keyed α String] {t : Table α} {p : α → Prop}
    [DecidablePred p] {items : List β} {id : β → String}
    (h : (items.map id).Perm ((t.rows.filter p).map Relational.Keyed.key)) : (items.map id).Nodup :=
  h.nodup_iff.mpr (Table.nodup_keys t p)

/-- The items name a row iff it is one of the part they cover. -/
theorem mem_items_iff {α β : Type} [Relational.Keyed α String] {t : Table α} {p : α → Prop}
    [DecidablePred p] {items : List β} {id : β → String}
    (h : (items.map id).Perm ((t.rows.filter p).map Relational.Keyed.key)) {a : α}
    (ha : a ∈ t.rows) : Relational.Keyed.key a ∈ items.map id ↔ p a := by
  rw [h.mem_iff]
  constructor
  · intro hmem
    obtain ⟨b, hb, hkey⟩ := List.mem_map.mp hmem
    obtain ⟨hb, hp⟩ := List.mem_filter.mp hb
    rw [← t.eq_of_key hb ha hkey]
    exact of_decide_eq_true hp
  · exact fun hp => List.mem_map_of_mem (List.mem_filter.mpr ⟨ha, decide_eq_true hp⟩)

theorem mem_trusted_iff
    (hcovers : CoversVault input.request.toUserKeyRotationRequest trustedDevices db input.userId)
    {d : Device} (hd : d ∈ db.devices.rows) :
    d.id ∈ trustedDevices.map UserKeyRotationTrustedDevice.id ↔
      (d.userId = input.userId ∧ d.Keyed) ∧ d.revokedAt = none := by
  have hperm := hcovers.devices
  rw [keyedDevices, List.filter_filter] at hperm
  rw [hperm.mem_iff, List.mem_map]
  constructor
  · rintro ⟨row, hrow, hid⟩
    obtain ⟨hrow, hp⟩ := List.mem_filter.mp hrow
    obtain rfl := db.devices.eq_of_key hrow hd hid
    simpa [and_comm] using hp
  · rintro ⟨⟨huser, hkeyed⟩, hactive⟩
    exact ⟨d, List.mem_filter.mpr ⟨hd, by simp [huser, hkeyed, hactive]⟩, rfl⟩

/-- **The devices of a vault that the request covers are rotated, row by row.** -/
theorem rotateDevices_rows (hsound : VaultSound db input.userId)
    (hcovers : CoversVault input.request.toUserKeyRotationRequest trustedDevices db input.userId) :
    List.Forall₂ (DeviceRotated input trustedDevices) db.devices.rows
      (rotateDevices input trustedDevices db.devices.rows) := by
  have hnodup : (trustedDevices.map UserKeyRotationTrustedDevice.id).Nodup :=
    hcovers.devices.nodup_iff.mpr
      ((Table.nodup_keys db.devices fun d => d.userId = input.userId ∧ d.Keyed).sublist
        (List.filter_sublist.map _))
  simp only [rotateDevices, updateWhere, List.map_map]
  rw [List.forall₂_map_right_iff, List.forall₂_same]
  intro d hd
  simp only [Function.comp_apply]
  by_cases huser : d.userId = input.userId
  swap
  · simp only [huser, false_and, if_false]
    exact ⟨fun _ => rfl, fun h => absurd h huser, fun h => absurd h huser, fun h => absurd h huser⟩
  by_cases hactive : d.revokedAt = none
  swap
  · have hstays : ¬ (d.userId = input.userId ∧ d.revokedAt = none ∧ d.Complete ∧
        d.id ∈ trustedDevices.map UserKeyRotationTrustedDevice.id) := fun h => hactive h.2.1
    have hended (d' : Device) (h : d'.revokedAt = d.revokedAt) :
        ¬ (d'.userId = input.userId ∧ d'.revokedAt = none) := fun hh => hactive (h ▸ hh.2)
    refine ⟨absurd huser, fun _ h => absurd h hactive, fun _ h => absurd h hactive, fun _ _ => ?_⟩
    rw [if_neg hstays]
    by_cases hkeyed : d.Keyed
    · have hcleared : d.userId = input.userId ∧ d.revokedAt ≠ none ∧ d.Keyed :=
        ⟨huser, hactive, hkeyed⟩
      rw [if_pos hkeyed, if_pos hcleared]
      exact if_neg (hended _ rfl)
    · have hkept : ¬ (d.userId = input.userId ∧ d.revokedAt ≠ none ∧ d.Keyed) :=
        fun h => hkeyed h.2.2
      rw [if_neg hkeyed, if_neg hkept]
      exact if_neg (hended _ rfl)
  have hkept (d' : Device) (h : d'.revokedAt = d.revokedAt) :
      ¬ (d'.userId = input.userId ∧ d'.revokedAt ≠ none ∧ d'.Keyed) :=
    fun hh => hh.2.1 (h.trans hactive)
  by_cases hkeyed : d.Keyed
  · have hcomplete := hsound.devices d (List.mem_filter.mpr ⟨hd, decide_eq_true ⟨huser, hkeyed⟩⟩)
      hactive
    have hmem := (mem_trusted_iff hcovers hd).mpr ⟨⟨huser, hkeyed⟩, hactive⟩
    obtain ⟨item, hitem, hid⟩ := List.mem_map.mp hmem
    have hrotated : d.userId = input.userId ∧ d.revokedAt = none ∧ d.Complete ∧
        d.id ∈ trustedDevices.map UserKeyRotationTrustedDevice.id :=
      ⟨huser, hactive, hcomplete, hmem⟩
    have hrevoked : (input.rotateDevice item d).userId = input.userId ∧
        (input.rotateDevice item d).revokedAt = none := ⟨huser, hactive⟩
    rw [if_pos hrotated, rewriteFrom_of_mem hnodup hitem hid,
      if_neg (hkept (input.rotateDevice item d) rfl), if_pos hrevoked]
    exact ⟨absurd huser, fun _ _ _ => ⟨item, hitem, hid, rfl⟩, fun _ _ h => absurd hkeyed h,
      fun _ h => absurd hactive h⟩
  · have hstays : ¬ (d.userId = input.userId ∧ d.revokedAt = none ∧ d.Complete ∧
        d.id ∈ trustedDevices.map UserKeyRotationTrustedDevice.id) :=
      fun h => hkeyed h.2.2.1.keyed
    have hrevoked : d.userId = input.userId ∧ d.revokedAt = none := ⟨huser, hactive⟩
    rw [if_neg hstays, if_neg (hkept d rfl), if_pos hrevoked]
    exact ⟨absurd huser, fun _ _ h => absurd h hkeyed, fun _ _ _ => rfl,
      fun _ h => absurd hactive h⟩

/-- **A rotation that has committed rotates the vault, row by row.** -/
theorem RotationCommitted.vaultRotated
    (h : RotationCommitted input snapshot (rotationManifests snapshot.toUserKeyRotationSnapshot
      input.request.toUserKeyRotationRequest trustedDevices) u db db')
    (hsound : VaultSound db input.userId)
    (hcovers : CoversVault input.request.toUserKeyRotationRequest trustedDevices db input.userId) :
    VaultRotated input trustedDevices db db' where
  folders := by
    rw [h.folders]
    refine forall₂_rewritten (fun f hf => ⟨And.left, fun hmine => ⟨hmine, ?_, ?_⟩⟩)
      (fun f hf => (mem_items_iff hcovers.folders hf).mpr) (nodup_of_covers hcovers.folders)
    · exact hsound.folders f (List.mem_filter.mpr ⟨hf, decide_eq_true hmine⟩)
    · exact (mem_items_iff hcovers.folders hf).mpr hmine
  ciphers := by
    rw [h.ciphers]
    refine forall₂_rewritten
      (fun c hc => ⟨fun hh => ⟨hh.1, hh.2.1⟩, fun hmine => ⟨hmine.1, hmine.2, ?_, ?_⟩⟩)
      (fun c hc => (mem_items_iff hcovers.ciphers hc).mpr) (nodup_of_covers hcovers.ciphers)
    · exact (hsound.ciphers c (List.mem_filter.mpr ⟨hc, decide_eq_true hmine⟩)).1
    · exact (mem_items_iff hcovers.ciphers hc).mpr hmine
  attachments := by
    rw [h.attachments]
    refine forall₂_rewritten
      (fun a ha => ⟨fun hh => (mem_items_iff hcovers.attachments ha).mp hh.2.2,
        fun hmine => ⟨hmine.1, ?_, ?_⟩⟩)
      (fun a ha => (mem_items_iff hcovers.attachments ha).mpr) (nodup_of_covers hcovers.attachments)
    · exact hsound.attachments a (List.mem_filter.mpr ⟨ha, decide_eq_true hmine⟩)
    · exact (mem_items_iff hcovers.attachments ha).mpr hmine
  devices := by
    rw [h.devices]
    exact rotateDevices_rows hsound hcovers

end Rows

end HonoWarden
