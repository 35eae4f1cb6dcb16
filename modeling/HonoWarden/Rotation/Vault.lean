import HonoWarden.Rotation.Repository
import HonoWarden.Web.Text

/-!
# The vault of an account

A rotation is validated against the rows its snapshot has read, and committed on the rows the
account has by then. The guard of the batch compares the two through their manifests.

* `vaultAt`: the vault of an account, as it stands in a database;
* `SameVault`: two vaults that no manifest tells apart.

Results:
* **`VaultUnchanged.sameVault`**: where the guard holds, the vault is the one the snapshot has read;
* **`RotatesSnapshot.of_sameVault`**: a request that rotates one of them rotates the other.
-/

namespace HonoWarden

open Relational

/-- The vault of the account, as it stands. -/
def vaultAt (db : Db) (u : User) : UserKeyRotationSnapshot where
  userKey := u.userKey
  privateKey := u.privateKey
  folders := personalFolders db u.id
  ciphers := personalCiphers db u.id
  attachments := personalAttachments db u.id
  trustedDevices := (keyedDevices db u.id).filter fun d => d.revokedAt = none
  revokedDeviceKeys := (keyedDevices db u.id).filter fun d => d.revokedAt ≠ none

/-- No manifest tells the vaults apart. -/
structure SameVault (s s' : UserKeyRotationSnapshot) : Prop where
  userKey : s.userKey = s'.userKey
  privateKey : s.privateKey = s'.privateKey
  folders : (s.folders.map Folder.entry).Perm (s'.folders.map Folder.entry)
  ciphers : (s.ciphers.map Cipher.entry).Perm (s'.ciphers.map Cipher.entry)
  attachments : (s.attachments.map CipherAttachment.entry).Perm
    (s'.attachments.map CipherAttachment.entry)
  trustedDevices : (s.trustedDevices.map Device.entry).Perm (s'.trustedDevices.map Device.entry)
  revokedDeviceKeys : (s.revokedDeviceKeys.map Device.entry).Perm
    (s'.revokedDeviceKeys.map Device.entry)

/-- What is read of the entries alone is the same. -/
theorem map_perm_of_entries {α γ δ : Type} {entry : α → γ} {rows rows' : List α}
    (h : (rows.map entry).Perm (rows'.map entry)) (read : γ → δ) {f : α → δ}
    (hf : ∀ a, f a = read (entry a)) : (rows.map f).Perm (rows'.map f) := by
  have hmap (l : List α) : l.map f = (l.map entry).map read := by
    rw [List.map_map]
    exact List.map_congr_left fun a _ => hf a
  rw [hmap, hmap]
  exact h.map read

theorem flatMap_perm_of_entries {α γ δ : Type} {entry : α → γ} {rows rows' : List α}
    (h : (rows.map entry).Perm (rows'.map entry)) (read : γ → List δ) {f : α → List δ}
    (hf : ∀ a, f a = read (entry a)) : (rows.flatMap f).Perm (rows'.flatMap f) := by
  rw [List.flatMap_def, List.flatMap_def]
  exact (map_perm_of_entries h read hf).flatten

/-- A row of one vault is in the other, as far as its entry goes. -/
theorem exists_same_entry {α γ : Type} {entry : α → γ} {rows rows' : List α}
    (h : (rows.map entry).Perm (rows'.map entry)) {a : α} (ha : a ∈ rows) :
    ∃ a' ∈ rows', entry a' = entry a :=
  List.mem_map.mp (h.mem_iff.mp (List.mem_map_of_mem ha))

namespace SameVault

variable {s s' : UserKeyRotationSnapshot}

theorem folderIds (h : SameVault s s') :
    (s.folders.map Folder.id).Perm (s'.folders.map Folder.id) :=
  map_perm_of_entries h.folders FolderEntry.id fun _ => rfl

theorem cipherIds (h : SameVault s s') :
    (s.ciphers.map Cipher.id).Perm (s'.ciphers.map Cipher.id) :=
  map_perm_of_entries h.ciphers CipherEntry.id fun _ => rfl

theorem attachmentIds (h : SameVault s s') :
    (s.attachments.map CipherAttachment.id).Perm (s'.attachments.map CipherAttachment.id) :=
  map_perm_of_entries h.attachments AttachmentEntry.id fun _ => rfl

theorem trustedDeviceIds (h : SameVault s s') :
    (s.trustedDevices.map Device.id).Perm (s'.trustedDevices.map Device.id) :=
  map_perm_of_entries h.trustedDevices DeviceEntry.id fun _ => rfl

theorem deviceIds (h : SameVault s s') :
    ((s.trustedDevices ++ s.revokedDeviceKeys).map Device.id).Perm
      ((s'.trustedDevices ++ s'.revokedDeviceKeys).map Device.id) := by
  rw [List.map_append, List.map_append]
  exact h.trustedDeviceIds.append
    (map_perm_of_entries h.revokedDeviceKeys DeviceEntry.id fun _ => rfl)

theorem uniqueIds (h : SameVault s s') {request : UserKeyRotationRequest}
    (hids : UniqueIds s request) : UniqueIds s' request where
  requestFolders := hids.requestFolders
  requestCiphers := hids.requestCiphers
  requestDevices := hids.requestDevices
  folders := h.folderIds.nodup_iff.mp hids.folders
  ciphers := h.cipherIds.nodup_iff.mp hids.ciphers
  attachments := h.attachmentIds.nodup_iff.mp hids.attachments
  devices := h.deviceIds.nodup_iff.mp hids.devices

end SameVault

/-! ## Ciphertexts -/

/-- A traversal of the entries gives the same results in another order. -/
theorem mapM_perm_of_entries {α β γ : Type} {entry : α → γ} (read : γ → Option β)
    {f : α → Option β} (hf : ∀ a, f a = read (entry a)) {rows rows' : List α}
    (h : (rows.map entry).Perm (rows'.map entry)) {bs : List β} (hbs : rows.mapM f = some bs) :
    ∃ bs', rows'.mapM f = some bs' ∧ bs.Perm bs' := by
  have hforall : List.Forall₂ (fun e b => read e = some b) (rows.map entry) bs := by
    rw [List.forall₂_map_left_iff]
    exact (Web.mapM_eq_some_iff_forall₂.mp hbs).imp fun a b hab => hf a ▸ hab
  obtain ⟨bs', hbs', hperm⟩ := List.perm_comp_forall₂ h.symm hforall
  rw [List.forall₂_map_left_iff] at hbs'
  exact ⟨bs', Web.mapM_eq_some_iff_forall₂.mpr (hbs'.imp fun a b hab => (hf a).trans hab), hperm.symm⟩

section Ciphertexts

variable {C : Codec} {s s' : UserKeyRotationSnapshot}

theorem SameVault.currentCipherValues (h : SameVault s s') {current : List String}
    (hcurrent : currentCipherValues C s = some current) :
    ∃ current', HonoWarden.currentCipherValues C s' = some current' ∧ current.Perm current' := by
  obtain ⟨lists, hlists, rfl⟩ := Option.map_eq_some_iff.mp hcurrent
  obtain ⟨lists', hlists', hperm⟩ := mapM_perm_of_entries
    (fun e : CipherEntry => if e.type = 1 ∨ e.type = 2 then
      readUserKeyRotationCiphertextValues C e.encryptedJson e.type else none)
    (fun _ => rfl) h.ciphers hlists
  exact ⟨lists'.flatten, Option.map_eq_some_iff.mpr ⟨lists', hlists', rfl⟩, hperm.flatten⟩

theorem SameVault.currentValues (h : SameVault s s') {current current' : List String}
    (hperm : current.Perm current') :
    (currentValues s current).Perm (currentValues s' current') := by
  refine List.Perm.filter _ (List.Perm.filterMap _ ?_)
  rw [h.userKey, h.privateKey]
  refine List.Perm.append (List.Perm.append (List.Perm.append (List.Perm.append_left _ ?_) ?_) ?_) ?_
  · exact map_perm_of_entries h.folders (fun e => some e.name) fun _ => rfl
  · exact hperm.map some
  · exact flatMap_perm_of_entries h.attachments
      (fun e => [some e.fileName, some e.attachmentKey]) fun _ => rfl
  · have hdevices : ((s.trustedDevices ++ s.revokedDeviceKeys).map Device.entry).Perm
        ((s'.trustedDevices ++ s'.revokedDeviceKeys).map Device.entry) := by
      rw [List.map_append, List.map_append]
      exact h.trustedDevices.append h.revokedDeviceKeys
    exact flatMap_perm_of_entries hdevices
      (fun e => [e.encryptedUserKey, e.encryptedPublicKey, e.encryptedPrivateKey]) fun _ => rfl

end Ciphertexts

/-! ## Requests -/

/-- What is said of a cipher's row is said of its entry. -/
theorem RotatesCipher.of_entry {C : Codec} {current current' : Cipher}
    {cipher : UserKeyRotationCipher} (h : RotatesCipher C current cipher)
    (hentry : current'.entry = current.entry) : RotatesCipher C current' cipher := by
  obtain ⟨hid, hfolder, htype, hfavorite, hjson, -⟩ := CipherEntry.mk.inj hentry
  refine ⟨h.id.trans hid.symm, h.type.trans htype.symm, h.folderId.trans hfolder.symm,
    h.favorite.trans hfavorite.symm, ?_⟩
  rw [hjson, htype]
  exact h.payload

/-- **A request that rotates a vault rotates one that no manifest tells apart from it.** -/
theorem RotatesSnapshot.of_sameVault {C : Codec} {s s' : UserKeyRotationSnapshot}
    {request : UserKeyRotationRequest} {trustedDevices : List UserKeyRotationTrustedDevice}
    (h : RotatesSnapshot C s request trustedDevices) (hsame : SameVault s s') :
    RotatesSnapshot C s' request trustedDevices where
  ids := hsame.uniqueIds h.ids
  folders := h.folders.trans hsame.folderIds
  ciphers := h.ciphers.trans hsame.cipherIds
  attachments := h.attachments.trans
    (map_perm_of_entries hsame.attachments (fun e => (e.cipherId, e.id)) fun _ => rfl)
  resolved := by
    refine h.resolved.imp fun device resolved ⟨row, hrow, hnamed, hresolved⟩ => ?_
    obtain ⟨row', hrow', hentry⟩ := exists_same_entry hsame.trustedDevices hrow
    obtain ⟨hid, hidentifier, -⟩ := DeviceEntry.mk.inj hentry
    exact ⟨row', hrow', by rwa [hid, hidentifier], by rw [hresolved, hid]⟩
  devices := h.devices.trans hsame.trustedDeviceIds
  cipher := by
    intro cipher hcipher
    obtain ⟨current, hcurrent, hrotates⟩ := h.cipher cipher hcipher
    obtain ⟨current', hcurrent', hentry⟩ := exists_same_entry hsame.ciphers hcurrent
    exact ⟨current', hcurrent', hrotates.of_entry hentry⟩
  fresh := by
    obtain ⟨current, next, hcurrent, hnext, hnodup, hnew⟩ := h.fresh
    obtain ⟨current', hcurrent', hperm⟩ := hsame.currentCipherValues hcurrent
    exact ⟨current', next, hcurrent', hnext, hnodup, fun value hvalue hmem =>
      hnew value hvalue ((hsame.currentValues hperm).mem_iff.mpr hmem)⟩

/-! ## The guard -/

section Guard

theorem Table.nodup_keys {α κ : Type} [Relational.Keyed α κ] (t : Table α) (p : α → Prop)
    [DecidablePred p] : ((t.rows.filter p).map Relational.Keyed.key).Nodup :=
  List.pairwise_map.mpr ((t.keyed.imp fun hc he => hc (Or.inl he)).filter _)

variable {snapshot : UserKeyRotationSnapshot} {request : UserKeyRotationRequest}
  {trustedDevices : List UserKeyRotationTrustedDevice} {db : Db} {u : User}

/-- None of the rows is one that a rotation refuses. -/
structure VaultSound (db : Db) (userId : String) : Prop where
  folders : ∀ f ∈ personalFolders db userId, f.deletedAt = none
  ciphers : ∀ c ∈ personalCiphers db userId, c.deletedAt = none ∧ c.cipherKey = none
  attachments : ∀ a ∈ personalAttachments db userId, a.contentType ≠ none
  devices : ∀ d ∈ keyedDevices db userId, d.revokedAt = none → d.Complete

/-- **Where the guard holds, the vault is the one the snapshot has read.** -/
theorem VaultUnchanged.sameVault
    (h : VaultUnchanged (rotationManifests snapshot request trustedDevices) db u.id)
    (hids : UniqueIds snapshot request) (huserKey : u.userKey = snapshot.userKey)
    (hprivateKey : u.privateKey = snapshot.privateKey)
    (htrusted : ∀ d ∈ snapshot.trustedDevices, d.revokedAt = none ∧ d.Complete)
    (hrevoked : ∀ d ∈ snapshot.revokedDeviceKeys, d.revokedAt ≠ none) :
    SameVault snapshot (vaultAt db u) ∧ VaultSound db u.id := by
  obtain ⟨hfolders, hciphers, hattachments, hdevices⟩ := h
  have hnodup {α γ : Type} {rows : List α} {entry : α → γ} {key : γ → String} {id : α → String}
      (hid : ∀ a, id a = key (entry a)) (hrows : (rows.map id).Nodup) :
      ((rows.map entry).map key).Nodup := by
    rw [List.map_map]
    exact (List.map_congr_left fun a _ => hid a) ▸ hrows
  obtain ⟨hfolderSound, hfolderPerm⟩ := hfolders.perm
    (Table.nodup_keys db.folders fun f => f.userId = u.id) (hnodup (fun _ => rfl) hids.folders)
  obtain ⟨hcipherSound, hcipherPerm⟩ := hciphers.perm
    (Table.nodup_keys db.ciphers (Cipher.PersonalOf u.id)) (hnodup (fun _ => rfl) hids.ciphers)
  obtain ⟨hattachmentSound, hattachmentPerm⟩ := hattachments.perm
    (Table.nodup_keys db.cipherAttachments (CipherAttachment.PersonalOf db u.id))
    (hnodup (fun _ => rfl) hids.attachments)
  obtain ⟨-, hdevicePerm⟩ := hdevices.perm
    (Table.nodup_keys db.devices fun d => d.userId = u.id ∧ d.Keyed)
    (hnodup (fun _ => rfl) hids.devices)
  have hsplit (p : Option Timestamp → Prop) [DecidablePred p] :
      (((keyedDevices db u.id).filter fun d => p d.revokedAt).map Device.entry).Perm
        (((snapshot.trustedDevices ++ snapshot.revokedDeviceKeys).filter fun d =>
          p d.revokedAt).map Device.entry) := by
    have hmap (l : List Device) : (l.filter fun d => p d.revokedAt).map Device.entry =
        (l.map Device.entry).filter fun e => p e.revokedAt := by
      rw [List.filter_map]
      rfl
    rw [hmap, hmap]
    exact hdevicePerm.filter _
  have hnotRevoked : snapshot.revokedDeviceKeys.filter (fun d => d.revokedAt = none) = [] :=
    List.filter_eq_nil_iff.mpr fun d hd => by simpa using hrevoked d hd
  have hnotTrusted : snapshot.trustedDevices.filter (fun d => d.revokedAt ≠ none) = [] :=
    List.filter_eq_nil_iff.mpr fun d hd => by simpa using (htrusted d hd).1
  have htrusted' := hsplit fun revokedAt => revokedAt = none
  rw [List.filter_append, hnotRevoked, List.append_nil,
    List.filter_eq_self.mpr fun d hd => decide_eq_true (htrusted d hd).1] at htrusted'
  have hrevoked' := hsplit fun revokedAt => revokedAt ≠ none
  rw [List.filter_append, hnotTrusted, List.nil_append,
    List.filter_eq_self.mpr fun d hd => decide_eq_true (hrevoked d hd)] at hrevoked'
  refine ⟨⟨huserKey.symm, hprivateKey.symm, hfolderPerm.symm, hcipherPerm.symm,
    hattachmentPerm.symm, htrusted'.symm, hrevoked'.symm⟩,
    ⟨hfolderSound, hcipherSound, hattachmentSound, fun d hd hactive => ?_⟩⟩
  obtain ⟨row, hrow, hentry⟩ :=
    exists_same_entry htrusted' (List.mem_filter.mpr ⟨hd, decide_eq_true hactive⟩)
  obtain ⟨-, -, -, huser, hpublic, hprivate⟩ := DeviceEntry.mk.inj hentry
  obtain ⟨-, hcomplete⟩ := htrusted row hrow
  exact ⟨huser ▸ hcomplete.1, hpublic ▸ hcomplete.2.1, hprivate ▸ hcomplete.2.2⟩

end Guard

end HonoWarden
