import HonoWarden.AuthRequest.Safety

/-!
# The last batch of a purge

What `finalizeAccountPurge` can do. Its first statement seals the deletion with the id of the purge
operation; thirteen statements delete the account's data and one its identity, each under the seal
(`AccountPurgeInput.Sealed`). The statement that makes the deletion `tombstoned` is the exception:
it asks for `updated_at = now`, and `startAccountPurge` and `recordAccountPurgeProgress` have
written that very timestamp in the same purge run.

* `gated_idle`: without the seal the gated statements do nothing;
* `finalizeAccountPurge_sealed`: with it, a batch that commits purges the account and reports it;
* `finalizeAccountPurge_unsealed`: without it, the batch still makes a deletion `tombstoned` that
  was touched at `now`, and then throws.
-/

namespace HonoWarden

open Relational

/-! ## What the gated statements leave -/

/-- Rows of the account go, and nothing else changes but the folder of a cipher. -/
structure PurgeStep (db db' : Db) : Prop where
  deletions : db'.accountDeletions = db.accountDeletions
  users : db'.users = db.users
  ciphers : ∀ c' ∈ db'.ciphers.rows, ∃ c ∈ db.ciphers.rows,
    c' = c ∨ c' = { c with folderId := none }
  organization : ∀ c ∈ db.ciphers.rows, c.organizationId ≠ none →
    c ∈ db'.ciphers.rows ∨ { c with folderId := none } ∈ db'.ciphers.rows
  attachments : ∀ a ∈ db'.cipherAttachments.rows, a ∈ db.cipherAttachments.rows
  folders : ∀ f ∈ db'.folders.rows, f ∈ db.folders.rows
  tokens : ∀ t' ∈ db'.refreshTokens.rows, ∃ t ∈ db.refreshTokens.rows, t'.userId = t.userId
  devices : ∀ d' ∈ db'.devices.rows, ∃ d ∈ db.devices.rows, d'.userId = d.userId
  factors : ∀ t ∈ db'.userTotp.rows, t ∈ db.userTotp.rows
  apiKeys : db'.personalApiKeys = db.personalApiKeys
  passkeys : db'.webauthnCredentials = db.webauthnCredentials

/-- No row of the account's own is left. -/
structure Purged (userId : String) (db : Db) : Prop where
  ciphers : ∀ c ∈ db.ciphers.rows, c.userId = userId → c.organizationId ≠ none
  folders : ∀ f ∈ db.folders.rows, f.userId ≠ userId
  tokens : ∀ t ∈ db.refreshTokens.rows, t.userId ≠ userId
  devices : ∀ d ∈ db.devices.rows, d.userId ≠ userId
  factors : ∀ t ∈ db.userTotp.rows, t.userId ≠ userId

namespace PurgeStep

variable {db db' db'' : Db}

theorem refl (db : Db) : PurgeStep db db :=
  ⟨rfl, rfl, fun c hc => ⟨c, hc, Or.inl rfl⟩, fun _ hc _ => Or.inl hc, fun _ ha => ha,
    fun _ hf => hf, fun t ht => ⟨t, ht, rfl⟩, fun d hd => ⟨d, hd, rfl⟩, fun _ ht => ht, rfl,
    rfl⟩

theorem trans (h : PurgeStep db db') (h' : PurgeStep db' db'') : PurgeStep db db'' where
  deletions := h'.deletions.trans h.deletions
  users := h'.users.trans h.users
  ciphers c'' hc'' := by
    obtain ⟨c', hc', hset'⟩ := h'.ciphers c'' hc''
    obtain ⟨c, hc, hset⟩ := h.ciphers c' hc'
    refine ⟨c, hc, ?_⟩
    rcases hset with rfl | rfl
    · exact hset'
    · exact Or.inr (hset'.elim id id)
  organization c hc horganization := by
    rcases h.organization c hc horganization with hc' | hc'
    · exact h'.organization c hc' horganization
    · exact Or.inr ((h'.organization _ hc' horganization).elim id id)
  attachments a ha := h.attachments a (h'.attachments a ha)
  folders f hf := h.folders f (h'.folders f hf)
  tokens t'' ht'' := by
    obtain ⟨t', ht', huser'⟩ := h'.tokens t'' ht''
    obtain ⟨t, ht, huser⟩ := h.tokens t' ht'
    exact ⟨t, ht, huser'.trans huser⟩
  devices d'' hd'' := by
    obtain ⟨d', hd', huser'⟩ := h'.devices d'' hd''
    obtain ⟨d, hd, huser⟩ := h.devices d' hd'
    exact ⟨d, hd, huser'.trans huser⟩
  factors t ht := h.factors t (h'.factors t ht)
  apiKeys := h'.apiKeys.trans h.apiKeys
  passkeys := h'.passkeys.trans h.passkeys

/-- What is purged stays purged. -/
theorem purged (h : PurgeStep db db') {userId : String} (hpurged : Purged userId db) :
    Purged userId db' where
  ciphers c' hc' huser := by
    obtain ⟨c, hc, rfl | rfl⟩ := h.ciphers c' hc'
    · exact hpurged.ciphers c' hc huser
    · exact hpurged.ciphers c hc huser
  folders f hf := hpurged.folders f (h.folders f hf)
  tokens t' ht' := by
    obtain ⟨t, ht, huser⟩ := h.tokens t' ht'
    rw [huser]
    exact hpurged.tokens t ht
  devices d' hd' := by
    obtain ⟨d, hd, huser⟩ := h.devices d' hd'
    rw [huser]
    exact hpurged.devices d hd
  factors t ht := hpurged.factors t (h.factors t ht)

theorem of_ciphers {C : Table Cipher} (hsub : ∀ c' ∈ C.rows, ∃ c ∈ db.ciphers.rows,
      c' = c ∨ c' = { c with folderId := none })
    (hkept : ∀ c ∈ db.ciphers.rows, c.organizationId ≠ none →
      c ∈ C.rows ∨ { c with folderId := none } ∈ C.rows) :
    PurgeStep db { db with ciphers := C } :=
  { refl db with ciphers := hsub, organization := hkept }

/-- Ciphers may leave their folder. -/
theorem of_folder_updates {C : Table Cipher} {hit : Cipher → Prop} [DecidablePred hit]
    (hC : C.rows = updateWhere hit (fun c => { c with folderId := none }) db.ciphers.rows) :
    PurgeStep db { db with ciphers := C } := by
  refine of_ciphers (fun c' hc' => ?_) fun c hc _ => ?_
  · rw [hC] at hc'
    rcases mem_updateWhere_cases hc' with ⟨hc, -⟩ | ⟨c, hc, -, rfl⟩
    · exact ⟨c', hc, Or.inl rfl⟩
    · exact ⟨c, hc, Or.inr rfl⟩
  · rw [hC]
    by_cases hh : hit c
    · exact Or.inr (mem_updateWhere.mpr ⟨c, hc, (if_pos hh).symm⟩)
    · exact Or.inl (mem_updateWhere_of_not_hit hc hh)

theorem of_attachments {A : Table CipherAttachment}
    (hsub : ∀ a ∈ A.rows, a ∈ db.cipherAttachments.rows) :
    PurgeStep db { db with cipherAttachments := A } :=
  { refl db with attachments := hsub }

theorem of_folders {F : Table Folder} (hsub : ∀ f ∈ F.rows, f ∈ db.folders.rows) :
    PurgeStep db { db with folders := F } :=
  { refl db with folders := hsub }

theorem of_tokens {T : Table RefreshToken}
    (hsub : ∀ t' ∈ T.rows, ∃ t ∈ db.refreshTokens.rows, t'.userId = t.userId) :
    PurgeStep db { db with refreshTokens := T } :=
  { refl db with tokens := hsub }

theorem of_devices {D : Table Device}
    (hsub : ∀ d' ∈ D.rows, ∃ d ∈ db.devices.rows, d'.userId = d.userId) :
    PurgeStep db { db with devices := D } :=
  { refl db with devices := hsub }

theorem of_factors {U : Table UserTotp} (hsub : ∀ t ∈ U.rows, t ∈ db.userTotp.rows) :
    PurgeStep db { db with userTotp := U } :=
  { refl db with factors := hsub }

theorem of_tables (hdeletions : db'.accountDeletions = db.accountDeletions)
    (husers : db'.users = db.users) (hciphers : db'.ciphers = db.ciphers)
    (hattachments : db'.cipherAttachments = db.cipherAttachments)
    (hfolders : db'.folders = db.folders) (htokens : db'.refreshTokens = db.refreshTokens)
    (hdevices : db'.devices = db.devices) (hfactors : db'.userTotp = db.userTotp)
    (hapiKeys : db'.personalApiKeys = db.personalApiKeys)
    (hpasskeys : db'.webauthnCredentials = db.webauthnCredentials) :
    PurgeStep db db' where
  deletions := hdeletions
  users := husers
  ciphers _ hc := ⟨_, hciphers ▸ hc, Or.inl rfl⟩
  organization _ hc _ := Or.inl (hciphers ▸ hc)
  attachments _ ha := hattachments ▸ ha
  folders _ hf := hfolders ▸ hf
  tokens _ ht := ⟨_, htokens ▸ ht, rfl⟩
  devices _ hd := ⟨_, hdevices ▸ hd, rfl⟩
  factors _ ht := hfactors ▸ ht
  apiKeys := hapiKeys
  passkeys := hpasskeys

end PurgeStep

variable {input : AccountPurgeInput} {db db' : Db}

theorem clearRotatedFrom_purge (deleted : List RefreshToken) (db : Db) :
    PurgeStep db (clearRotatedFrom deleted db).1 := by
  obtain ⟨T, hdb, hT⟩ := Db.refreshTokensIn.nestedUpdate_eq
    (fun t => ∃ r ∈ deleted, t.rotatedFromTokenId = some r.id)
    (fun t => { t with rotatedFromTokenId := none }) db
    fun _ => ⟨rfl, fun _ h => h⟩
  rw [clearRotatedFrom, hdb]
  refine .of_tokens fun t' ht' => ?_
  rw [hT] at ht'
  rcases mem_updateWhere_cases ht' with ⟨ht, -⟩ | ⟨t, ht, -, rfl⟩
  · exact ⟨t', ht, rfl⟩
  · exact ⟨t, ht, rfl⟩

theorem clearFolder_purge (deleted : List Folder) (db : Db) :
    PurgeStep db (clearFolder deleted db).1 := by
  obtain ⟨C, hdb, hC⟩ := Db.ciphersIn.nestedUpdate_eq
    (fun c => ∃ f ∈ deleted, c.folderId = some f.id) (fun c => { c with folderId := none }) db
    fun _ => ⟨rfl, fun _ h => h⟩
  rw [clearFolder, hdb]
  exact .of_folder_updates hC

theorem invalidateSessionMfaOnTotpDelete_purge (deleted : List UserTotp) (db : Db) :
    PurgeStep db (invalidateSessionMfaOnTotpDelete deleted db).1 := by
  obtain ⟨D, hdb, hD⟩ := Db.devicesIn.nestedUpdate_eq
    (fun d => ∃ old ∈ deleted, d.userId = old.userId) Device.clearMfa db
    fun _ => ⟨rfl, fun _ h => h⟩
  rw [invalidateSessionMfaOnTotpDelete, hdb]
  refine .of_devices fun d' hd' => ?_
  rw [hD] at hd'
  rcases mem_updateWhere_cases hd' with ⟨hd, -⟩ | ⟨d, hd, -, rfl⟩
  · exact ⟨d', hd, rfl⟩
  · exact ⟨d, hd, rfl⟩

theorem cascadeCipherDelete_purge (deleted : List Cipher) (db : Db) :
    PurgeStep db (cascadeCipherDelete deleted db).1 := by
  obtain ⟨A, hdb, hA⟩ := Db.cipherAttachmentsIn.nestedDelete_eq
    (fun a => ∃ c ∈ deleted, a.cipherId = c.id) db
  have hattachments : PurgeStep db { db with cipherAttachments := A } := by
    refine .of_attachments fun a ha => ?_
    rw [hA] at ha
    exact (mem_deleteWhere.mp ha).1
  simp only [cascadeCipherDelete, hdb]
  exact hattachments.trans (TableIn.nestedDelete_within (R := PurgeStep)
    (fun _ _ => .of_tables rfl rfl rfl rfl rfl rfl rfl rfl rfl rfl) _)

theorem cascadeDeviceDelete_purge (deleted : List Device) (db : Db) :
    PurgeStep db (cascadeDeviceDelete deleted db).1 := by
  obtain ⟨T, hdb, hT⟩ := Db.refreshTokensIn.nestedDelete_eq
    (fun t => ∃ d ∈ deleted, t.deviceId = d.id) db
  have htokens : PurgeStep db { db with refreshTokens := T } := by
    refine .of_tokens fun t ht => ?_
    rw [hT] at ht
    exact ⟨t, (mem_deleteWhere.mp ht).1, rfl⟩
  simp only [cascadeDeviceDelete, hdb]
  exact htokens.trans (clearRotatedFrom_purge _ _)

/-! ## The statements between the seal and the end -/

section Statements

variable (input)

theorem purgeVault_purge : ∀ st ∈ input.purgeVault, st.Within PurgeStep := by
  intro st hst
  simp only [AccountPurgeInput.purgeVault, List.mem_cons, List.not_mem_nil, or_false] at hst
  rcases hst with rfl | rfl | rfl | rfl
  · intro db db' n r h
    obtain ⟨C, hC, rfl, -⟩ := TableIn.update_ok h
    exact .of_folder_updates hC
  · intro db db' n r h
    obtain ⟨A, hA, rfl, -⟩ := TableIn.delete_ok h
    refine .of_attachments fun a ha => ?_
    rw [hA] at ha
    exact (mem_deleteWhere.mp ha).1
  · intro db db' n r h
    obtain ⟨C, hC, rfl, -⟩ := TableIn.deleteTriggering_ok h
    have hdeleted : PurgeStep db { db with ciphers := C } := by
      refine .of_ciphers (fun c hc => ?_) fun c hc horganization => Or.inl ?_
      · rw [hC] at hc
        exact ⟨c, (mem_deleteWhere.mp hc).1, Or.inl rfl⟩
      · rw [hC]
        exact mem_deleteWhere.mpr ⟨hc, fun hh => horganization hh.2.1⟩
    exact hdeleted.trans (cascadeCipherDelete_purge _ _)
  · intro db db' n r h
    obtain ⟨F, hF, rfl, -⟩ := TableIn.deleteTriggering_ok h
    have hdeleted : PurgeStep db { db with folders := F } := by
      refine .of_folders fun f hf => ?_
      rw [hF] at hf
      exact (mem_deleteWhere.mp hf).1
    exact hdeleted.trans (clearFolder_purge _ _)

theorem purgeCredentials_purge : ∀ st ∈ input.purgeCredentials, st.Within PurgeStep := by
  intro st hst
  simp only [AccountPurgeInput.purgeCredentials, List.mem_cons, List.not_mem_nil, or_false] at hst
  rcases hst with rfl | rfl | rfl | rfl | rfl | rfl
  · intro db db' n r h
    obtain ⟨T, hT, rfl, -⟩ := TableIn.deleteTriggering_ok h
    have hdeleted : PurgeStep db { db with refreshTokens := T } := by
      refine .of_tokens fun t ht => ?_
      rw [hT] at ht
      exact ⟨t, (mem_deleteWhere.mp ht).1, rfl⟩
    exact hdeleted.trans (clearRotatedFrom_purge _ _)
  · intro db db' n r h
    obtain ⟨D, hD, rfl, -⟩ := TableIn.deleteTriggering_ok h
    have hdeleted : PurgeStep db { db with devices := D } := by
      refine .of_devices fun d hd => ?_
      rw [hD] at hd
      exact ⟨d, (mem_deleteWhere.mp hd).1, rfl⟩
    exact hdeleted.trans (cascadeDeviceDelete_purge _ _)
  all_goals
    exact TableIn.delete_within fun _ _ => .of_tables rfl rfl rfl rfl rfl rfl rfl rfl rfl rfl

theorem purgeFactor_purge : input.purgeFactor.Within PurgeStep := by
  intro db db' n r h
  obtain ⟨U, hU, rfl, -⟩ := TableIn.deleteTriggering_ok h
  have hdeleted : PurgeStep db { db with userTotp := U } := by
    refine .of_factors fun t ht => ?_
    rw [hU] at ht
    exact (mem_deleteWhere.mp ht).1
  exact hdeleted.trans (invalidateSessionMfaOnTotpDelete_purge _ _)

theorem purgeMemberships_purge : ∀ st ∈ input.purgeMemberships, st.Within PurgeStep := by
  intro st hst
  simp only [AccountPurgeInput.purgeMemberships, List.mem_cons, List.not_mem_nil, or_false] at hst
  rcases hst with rfl | rfl
  · exact TableIn.delete_within fun _ _ => .of_tables rfl rfl rfl rfl rfl rfl rfl rfl rfl rfl
  · exact TableIn.update_within fun _ _ => .of_tables rfl rfl rfl rfl rfl rfl rfl rfl rfl rfl

/-- The statements between the seal and the end of the batch. -/
def AccountPurgeInput.body : List (Statement Db) :=
  input.purgeVault ++ input.purgeCredentials ++ input.purgeFactor :: input.purgeMemberships

theorem purgeBody_purge : ∀ st ∈ input.body, st.Within PurgeStep := by
  intro st hst
  simp only [AccountPurgeInput.body, List.mem_append, List.mem_cons] at hst
  rcases hst with (hst | hst) | rfl | hst
  · exact purgeVault_purge input st hst
  · exact purgeCredentials_purge input st hst
  · exact purgeFactor_purge input
  · exact purgeMemberships_purge input st hst

end Statements

theorem PurgeStep.sealed (h : PurgeStep db db') (hsealed : input.Sealed db) :
    input.Sealed db' := by
  unfold AccountPurgeInput.Sealed at hsealed ⊢
  rwa [h.deletions]

/-- **Under the seal nothing of the account is left.** -/
theorem purgeBody_purged {n : Nat} {rs : List StatementResult} (hsealed : input.Sealed db)
    (h : runFrom input.body db n = .ok (db', rs)) : Purged input.userId db' := by
  -- every statement runs under the seal, and what follows it only removes rows
  have hran : ∀ st ∈ input.body, ∃ db₁ db₂ m r, input.Sealed db₁ ∧ st db₁ m = .ok (db₂, r) ∧
      PurgeStep db₂ db' := by
    intro st hst
    obtain ⟨db₁, db₂, m, r, hbefore, hrun, hafter⟩ :=
      runFrom_mem .refl .trans (purgeBody_purge input) h st hst
    exact ⟨db₁, db₂, m, r, hbefore.sealed hsealed, hrun, hafter⟩
  refine ⟨?_, ?_, ?_, ?_, ?_⟩
  · obtain ⟨db₁, _, m, r, hseal, hrun, hafter⟩ := hran
      (Db.ciphersIn.deleteTriggering
        (fun db _ c => c.userId = input.userId ∧ c.organizationId = none ∧ input.Sealed db)
        (fun _ => []) cascadeCipherDelete) (by
      simp [AccountPurgeInput.body, AccountPurgeInput.purgeVault])
    obtain ⟨C, hC, rfl, -⟩ := TableIn.deleteTriggering_ok hrun
    have hleft : ∀ c ∈ C.rows, c.userId = input.userId → c.organizationId ≠ none := by
      intro c hc huser hnone
      rw [hC] at hc
      exact (mem_deleteWhere.mp hc).2 ⟨huser, hnone, hseal⟩
    intro c' hc' huser
    obtain ⟨c, hc, rfl | rfl⟩ :=
      ((cascadeCipherDelete_purge _ _).trans hafter).ciphers c' hc'
    · exact hleft c' hc huser
    · exact hleft c hc huser
  · obtain ⟨db₁, _, m, r, hseal, hrun, hafter⟩ := hran
      (Db.foldersIn.deleteTriggering (fun db _ f => f.userId = input.userId ∧ input.Sealed db)
        (fun _ => []) clearFolder) (by
      simp [AccountPurgeInput.body, AccountPurgeInput.purgeVault])
    obtain ⟨F, hF, rfl, -⟩ := TableIn.deleteTriggering_ok hrun
    intro f hf huser
    have hmem := ((clearFolder_purge _ _).trans hafter).folders f hf
    rw [hF] at hmem
    exact (mem_deleteWhere.mp hmem).2 ⟨huser, hseal⟩
  · obtain ⟨db₁, _, m, r, hseal, hrun, hafter⟩ := hran
      (Db.refreshTokensIn.deleteTriggering
        (fun db _ t => t.userId = input.userId ∧ input.Sealed db) (fun _ => []) clearRotatedFrom) (by
      simp [AccountPurgeInput.body, AccountPurgeInput.purgeCredentials])
    obtain ⟨T, hT, rfl, -⟩ := TableIn.deleteTriggering_ok hrun
    intro t' ht' huser
    obtain ⟨t, ht, hsame⟩ := ((clearRotatedFrom_purge _ _).trans hafter).tokens t' ht'
    rw [hT] at ht
    exact (mem_deleteWhere.mp ht).2 ⟨hsame.symm.trans huser, hseal⟩
  · obtain ⟨db₁, _, m, r, hseal, hrun, hafter⟩ := hran
      (Db.devicesIn.deleteTriggering
        (fun db _ d => d.userId = input.userId ∧ input.Sealed db) (fun _ => [])
        cascadeDeviceDelete) (by
      simp [AccountPurgeInput.body, AccountPurgeInput.purgeCredentials])
    obtain ⟨D, hD, rfl, -⟩ := TableIn.deleteTriggering_ok hrun
    intro d' hd' huser
    obtain ⟨d, hd, hsame⟩ := ((cascadeDeviceDelete_purge _ _).trans hafter).devices d' hd'
    rw [hD] at hd
    exact (mem_deleteWhere.mp hd).2 ⟨hsame.symm.trans huser, hseal⟩
  · obtain ⟨db₁, _, m, r, hseal, hrun, hafter⟩ := hran input.purgeFactor (by
      simp [AccountPurgeInput.body])
    obtain ⟨U, hU, rfl, -⟩ := TableIn.deleteTriggering_ok hrun
    intro t ht huser
    have hmem := ((invalidateSessionMfaOnTotpDelete_purge _ _).trans hafter).factors t ht
    rw [hU] at hmem
    exact (mem_deleteWhere.mp hmem).2 ⟨huser, hseal⟩

/-- The second statement deletes every personal attachment, and says how many there were. -/
theorem purgeBody_attachments {n : Nat} {rs : List StatementResult} (hsealed : input.Sealed db)
    (h : runFrom input.body db n = .ok (db', rs)) :
    (rs[1]?.map StatementResult.metaChanges).getD 0 =
      personalAttachmentCount db input.userId := by
  obtain ⟨db₁, r₁, rs₁, hfolder, hrest, rfl⟩ := runFrom_cons h
  obtain ⟨db₂, r₂, rs₂, hdelete, -, rfl⟩ := runFrom_cons hrest
  obtain ⟨C, hC, rfl, -⟩ := TableIn.update_ok hfolder
  obtain ⟨A, -, -, hchanges, hmeta⟩ := TableIn.delete_ok hdelete
  simp only [List.getElem?_cons_succ, List.getElem?_cons_zero, Option.map_some, Option.getD_some]
  rw [hmeta, hchanges]
  refine countP_congr_prop fun a _ => ?_
  have hsame : PersonalAttachment { db with ciphers := C } input.userId a ↔
      PersonalAttachment db input.userId a := by
    refine ⟨?_, ?_⟩
    · rintro ⟨c', hc', hid, huser, hnone⟩
      rw [hC] at hc'
      rcases mem_updateWhere_cases hc' with ⟨hc, -⟩ | ⟨c, hc, -, rfl⟩
      · exact ⟨c', hc, hid, huser, hnone⟩
      · exact ⟨c, hc, hid, huser, hnone⟩
    · rintro ⟨c, hc, hid, huser, hnone⟩
      refine ⟨c, ?_, hid, huser, hnone⟩
      rw [hC]
      exact mem_updateWhere_of_not_hit hc fun hh => hh.2.1 hnone
  exact ⟨fun hh => hsame.mp hh.1, fun hh => ⟨hsame.mpr hh, hsealed⟩⟩

/-! ## Without the seal -/

/-- A gated condition hits nothing. -/
theorem gated_none {α : Type} {rows : List α} {p : α → Prop} (hsealed : ¬ input.Sealed db) :
    ∀ a ∈ rows, ¬ (p a ∧ input.Sealed db) :=
  fun _ _ hh => hsealed hh.2

theorem clearRotatedFrom_nil (db : Db) : clearRotatedFrom [] db = (db, 0) :=
  TableIn.nestedUpdate_idle _ (by simp)

theorem clearFolder_nil (db : Db) : clearFolder [] db = (db, 0) :=
  TableIn.nestedUpdate_idle _ (by simp)

theorem invalidateSessionMfaOnTotpDelete_nil (db : Db) :
    invalidateSessionMfaOnTotpDelete [] db = (db, 0) :=
  TableIn.nestedUpdate_idle _ (by simp)

theorem invalidateStaleUserKeyId_nil (db : Db) : invalidateStaleUserKeyId [] db = (db, 0) :=
  TableIn.nestedUpdate_idle _ (by simp)

theorem cascadeCipherDelete_nil (db : Db) : cascadeCipherDelete [] db = (db, 0) := by
  simp only [cascadeCipherDelete]
  rw [TableIn.nestedDelete_idle _ (by simp), TableIn.nestedDelete_idle _ (by simp)]
  rfl

theorem cascadeDeviceDelete_nil (db : Db) : cascadeDeviceDelete [] db = (db, 0) := by
  simp only [cascadeDeviceDelete]
  rw [TableIn.nestedDelete_idle _ (by simp)]
  simp [clearRotatedFrom_nil]

/-- **Without the seal the statements that purge do nothing.** -/
theorem gated_idle (hsealed : ¬ input.Sealed db) :
    ∀ st ∈ input.body, ∀ n, st db n = .ok (db, {}) := by
  intro st hst n
  simp only [AccountPurgeInput.body, AccountPurgeInput.purgeVault,
    AccountPurgeInput.purgeCredentials, AccountPurgeInput.purgeMemberships, List.mem_append,
    List.mem_cons, List.not_mem_nil, or_false] at hst
  rcases hst with ((rfl | rfl | rfl | rfl) | rfl | rfl | rfl | rfl | rfl | rfl) | rfl | rfl | rfl
  · exact TableIn.update_idle _ fun _ _ hh => hsealed hh.2.2
  · exact TableIn.delete_idle _ (gated_none hsealed)
  · exact TableIn.deleteTriggering_idle _ (cascadeCipherDelete_nil db) fun _ _ hh =>
      hsealed hh.2.2
  · exact TableIn.deleteTriggering_idle _ (clearFolder_nil db) (gated_none hsealed)
  · exact TableIn.deleteTriggering_idle _ (clearRotatedFrom_nil db) (gated_none hsealed)
  · exact TableIn.deleteTriggering_idle _ (cascadeDeviceDelete_nil db) (gated_none hsealed)
  · exact TableIn.delete_idle _ (gated_none hsealed)
  · exact TableIn.delete_idle _ (gated_none hsealed)
  · exact TableIn.delete_idle _ (gated_none hsealed)
  · exact TableIn.delete_idle _ (gated_none hsealed)
  · exact TableIn.deleteTriggering_idle _ (invalidateSessionMfaOnTotpDelete_nil db)
      (gated_none hsealed)
  · exact TableIn.delete_idle _ (gated_none hsealed)
  · exact TableIn.update_idle _ (gated_none hsealed)

/-- A deletion of this generation carries the timestamp of the request, so that the unsealed
statement takes it for its own. -/
def AccountPurgeInput.Touched (input : AccountPurgeInput) (db : Db) : Prop :=
  ∃ d ∈ db.accountDeletions.rows, d.userId = input.userId ∧
    d.lifecycleGeneration = input.lifecycleGeneration ∧
    (d.state = .purgingR2 ∧ d.updatedAt = input.now ∨
      d.state = .tombstoned ∧ d.tombstonedAt = some input.now)

instance (input : AccountPurgeInput) (db : Db) : Decidable (input.Touched db) :=
  inferInstanceAs (Decidable (∃ d ∈ db.accountDeletions.rows, _))

/-- The statements before the last two do nothing without a deletion to seal. -/
theorem unsealed_idle (hsealable : ∀ d ∈ db.accountDeletions.rows, ¬ input.Sealable db d)
    (hoperated : ¬ input.Operated db) :
    ∀ st ∈ input.sealDeletion :: (input.body ++ input.finish.take 1), ∀ n,
      st db n = .ok (db, {}) := by
  have hsealed : ¬ input.Sealed db := fun h => hoperated h.operated
  intro st hst n
  rw [List.mem_cons, List.mem_append] at hst
  rcases hst with rfl | hst | hst
  · exact TableIn.updateReturning_idle _ hsealable
  · exact gated_idle hsealed st hst n
  · simp only [AccountPurgeInput.finish, List.take_succ_cons, List.take_zero,
      List.mem_singleton] at hst
    rw [hst]
    exact TableIn.updateTriggering_idle _ (invalidateStaleUserKeyId_nil db) fun _ _ hh =>
      hsealed hh.2.2

theorem runBatch_unsealed (hsealable : ∀ d ∈ db.accountDeletions.rows, ¬ input.Sealable db d)
    (hoperated : ¬ input.Operated db) :
    runBatch input.batch db = (runFrom (input.finish.drop 1) db 0).map fun out =>
      (out.1, List.replicate 15 {} ++ out.2) :=
  runFrom_idle (unsealed_idle hsealable hoperated) (List.cons_ne_nil _ _)

/-- **Without the seal and without a deletion of this timestamp, nothing happens.** -/
theorem finalizeAccountPurge_untouched
    (hsealable : ∀ d ∈ db.accountDeletions.rows, ¬ input.Sealable db d)
    (hoperated : ¬ input.Operated db) (htouched : ¬ input.Touched db) :
    finalizeAccountPurge input db = (db, .ok false) := by
  have hdeletion : ∀ d ∈ db.accountDeletions.rows,
      ¬ (input.Deletion (· = .purgingR2) d ∧ d.updatedAt = input.now) := by
    rintro d hd ⟨⟨huser, hgeneration, hstate⟩, hnow⟩
    exact htouched ⟨d, hd, huser, hgeneration, Or.inl ⟨hstate, hnow⟩⟩
  have htombstoned : ¬ input.Tombstoned db := by
    rintro ⟨d, hd, ⟨huser, hgeneration, hstate⟩, hnow⟩
    exact htouched ⟨d, hd, huser, hgeneration, Or.inr ⟨hstate, hnow⟩⟩
  have hrest : runFrom (input.finish.drop 1) db 0 = .ok (db, [{}, {}]) := by
    simp only [AccountPurgeInput.finish, List.drop_succ_cons, List.drop_zero]
    refine runFrom_cons_ok (TableIn.update_idle _ hdeletion) (runFrom_cons_ok ?_ rfl)
    exact TableIn.insertSelect_idle _ (by simp [htombstoned])
  have hrun : runBatch input.batch db = .ok (db, List.replicate 17 {}) := by
    rw [runBatch_unsealed hsealable hoperated, hrest]
    rfl
  rw [finalizeAccountPurge, commit_of_run hrun]
  rfl

/-- An audit event under a new id is written. -/
theorem auditStatement_total (event : AuditEvent) {id : String} {condition : Db → Nat → Prop}
    [∀ db n, Decidable (condition db n)] {n : Nat} (hcondition : condition db n)
    (hfresh : ∀ e ∈ db.auditEvents.rows, e.id ≠ id) :
    ∃ A : Table AuditEventRow, A.rows = db.auditEvents.rows ++ [{ event with id := id }] ∧
      auditStatement event id condition db n =
        .ok ({ db with auditEvents := A }, { changes := 1, metaChanges := 1, rows := [] }) := by
  have hkeyed : KeyedRows (db.auditEvents.rows ++ [({ event with id := id } : AuditEventRow)]) :=
    append_keyed_iff.mpr ⟨db.auditEvents.keyed, fun e he hconflict =>
      hconflict.elim (hfresh e he) False.elim⟩
  refine ⟨⟨_, hkeyed⟩, rfl, ?_⟩
  simp only [auditStatement, TableIn.insertSelect, if_pos hcondition]
  exact TableIn.write_of_keyed hkeyed

/-- The deletion, tombstoned. -/
def AccountPurgeInput.bury (input : AccountPurgeInput) (d : AccountDeletion) : AccountDeletion :=
  { d with state := .tombstoned, tombstonedAt := some input.now, updatedAt := input.now }

/-- A deletion of this timestamp is tombstoned after the unsealed statement. -/
theorem AccountPurgeInput.Touched.tombstoned (h : input.Touched db) {D : Table AccountDeletion}
    (hD : D.rows = updateWhere
      (fun d => input.Deletion (· = .purgingR2) d ∧ d.updatedAt = input.now) input.bury
      db.accountDeletions.rows) :
    input.Tombstoned { db with accountDeletions := D } := by
  obtain ⟨d, hd, huser, hgeneration, ⟨hstate, hnow⟩ | ⟨hstate, hnow⟩⟩ := h
  · have hmem : input.bury d ∈ D.rows := by
      rw [hD]
      exact mem_updateWhere_of_hit hd ⟨⟨huser, hgeneration, hstate⟩, hnow⟩
    exact ⟨_, hmem, ⟨huser, hgeneration, rfl⟩, rfl⟩
  · have hmem : d ∈ D.rows := by
      rw [hD]
      refine mem_updateWhere_of_not_hit hd fun hh => ?_
      have hpurging : d.state = .purgingR2 := hh.1.2.2
      rw [hstate] at hpurging
      cases hpurging
    exact ⟨d, hmem, ⟨huser, hgeneration, hstate⟩, hnow⟩

/-- A batch that sealed nothing is not read as a purge. -/
theorem interpret_unsealed (results : List StatementResult) :
    input.interpret (List.replicate 15 ({} : StatementResult) ++ results) ≠ .ok true := by
  simp only [AccountPurgeInput.interpret, List.replicate_succ, List.cons_append,
    List.getElem?_cons_zero, Option.map_some, Option.getD_some, if_true]
  split <;> simp

/-- **Without the seal a deletion of this timestamp is tombstoned all the same**: the batch
commits, and the client throws. -/
theorem finalizeAccountPurge_touched
    (hsealable : ∀ d ∈ db.accountDeletions.rows, ¬ input.Sealable db d)
    (hoperated : ¬ input.Operated db) (htouched : input.Touched db)
    (haudit : ∀ e ∈ db.auditEvents.rows, e.id ≠ input.auditEventId) :
    (finalizeAccountPurge input db).1 ≠ db ∧
      (finalizeAccountPurge input db).2 ≠ .ok true := by
  obtain ⟨D, r, hupdate, hD, -⟩ := Db.accountDeletionsIn.updateReturning_total
    (fun _ _ d => input.Deletion (· = .purgingR2) d ∧ d.updatedAt = input.now)
    (fun _ => input.bury) 0 (fun _ => []) fun _ => ⟨rfl, fun _ h => h⟩
  obtain ⟨A, hA, haudited⟩ := @auditStatement_total { db with accountDeletions := D }
    input.auditEvent input.auditEventId (fun db _ => input.Tombstoned db) _ r.changes
    (htouched.tombstoned hD) haudit
  have hrun : runBatch input.batch db =
      .ok ({ db with accountDeletions := D, auditEvents := A },
        List.replicate 15 ({} : StatementResult) ++
          [r, { changes := 1, metaChanges := 1, rows := [] }]) := by
    rw [runBatch_unsealed hsealable hoperated]
    have hrest : runFrom (input.finish.drop 1) db 0 =
        .ok ({ db with accountDeletions := D, auditEvents := A },
          [r, { changes := 1, metaChanges := 1, rows := [] }]) :=
      runFrom_cons_ok hupdate (runFrom_cons_ok haudited rfl)
    rw [hrest]
    rfl
  have hne : ({ db with accountDeletions := D, auditEvents := A } : Db) ≠ db := by
    intro heq
    have hevents : A.rows = db.auditEvents.rows := congrArg (fun db => db.auditEvents.rows) heq
    rw [hA] at hevents
    simpa using congrArg List.length hevents
  rw [finalizeAccountPurge, commit_of_run hrun]
  exact ⟨hne, fun h => interpret_unsealed _ (mapError_eq_ok.mp h)⟩

/-! ## Under the seal -/

/-- The purge of `input` turned `db` into `db'`: it sealed a deletion, and nothing of the account is
left but a tombstone. -/
structure AccountPurged (input : AccountPurgeInput) (db db' : Db) : Prop where
  sealable : ∃ d ∈ db.accountDeletions.rows, input.Sealable db d
  deletion : input.Tombstoned db'
  purged : Purged input.userId db'
  attachments : ∀ a ∈ db'.cipherAttachments.rows, ¬ PersonalAttachment db input.userId a
  organization : ∀ c ∈ db.ciphers.rows, c.organizationId ≠ none →
    c ∈ db'.ciphers.rows ∨ { c with folderId := none } ∈ db'.ciphers.rows
  account : ∃ u ∈ db.users.rows, u.id = input.userId ∧
    (input.tombstone u ∈ db'.users.rows ∨
      { input.tombstone u with userKeyId := none } ∈ db'.users.rows)

/-- The reading of a batch that purged. -/
theorem interpret_sealed {r₀ rU rD rA : StatementResult} {rs : List StatementResult}
    {expected : Nat} (hlen : rs.length = 13) (hsealed : r₀.metaChanges = 1)
    (hexpected : r₀.rows = [[.integer expected]]) (hsafe : expected ≤ maxSafeInteger)
    (hattachments : (rs[1]?.map StatementResult.metaChanges).getD 0 = expected)
    (husers : rU.rows = [[.text input.userId]]) (hdeletion : rD.metaChanges = 1)
    (haudit : rA.metaChanges = 1) :
    input.interpret (r₀ :: (rs ++ [rU, rD, rA])) = .ok true := by
  have hat : ∀ i, (r₀ :: (rs ++ [rU, rD, rA]))[i + 14]? = [rU, rD, rA][i]? := by
    intro i
    rw [List.getElem?_cons_succ, List.getElem?_append_right (by omega), hlen]
    congr 1
  have hbody : (r₀ :: (rs ++ [rU, rD, rA]))[2]? = rs[1]? := by
    rw [List.getElem?_cons_succ, List.getElem?_append_left (by omega)]
  have h14 : (r₀ :: (rs ++ [rU, rD, rA]))[14]? = some rU := hat 0
  have h15 : (r₀ :: (rs ++ [rU, rD, rA]))[15]? = some rD := hat 1
  have h16 : (r₀ :: (rs ++ [rU, rD, rA]))[16]? = some rA := hat 2
  have hsafe' : ¬ ((maxSafeInteger : Int) < expected) := by omega
  simp only [AccountPurgeInput.interpret, hbody, h14, h15, h16, List.getElem?_cons_zero,
    Option.map_some, Option.getD_some, hsealed, hexpected, hattachments, husers, hdeletion, haudit]
  simp [hsafe']

/-- What the seal leaves of the account, after the body of the batch. -/
theorem purgeBody_attachments_gone {n : Nat} {rs : List StatementResult}
    (hsealed : input.Sealed db) (h : runFrom input.body db n = .ok (db', rs)) :
    ∀ a ∈ db'.cipherAttachments.rows, ¬ PersonalAttachment db input.userId a := by
  obtain ⟨db₁, r₁, rs₁, hfolder, hrest, rfl⟩ := runFrom_cons h
  obtain ⟨db₂, r₂, rs₂, hdelete, hafter, rfl⟩ := runFrom_cons hrest
  have hkept : PurgeStep db₂ db' := runFrom_within .refl .trans (fun st hst =>
    purgeBody_purge input st (List.mem_cons_of_mem _ (List.mem_cons_of_mem _ hst))) hafter
  obtain ⟨C, hC, rfl, -⟩ := TableIn.update_ok hfolder
  obtain ⟨A, hA, rfl, -⟩ := TableIn.delete_ok hdelete
  rintro a ha ⟨c, hc, hid, huser, hnone⟩
  have hmem := hkept.attachments a ha
  rw [hA] at hmem
  refine (mem_deleteWhere.mp hmem).2 ⟨⟨c, ?_, hid, huser, hnone⟩, hsealed⟩
  rw [hC]
  exact mem_updateWhere_of_not_hit hc fun hh => hh.2.1 hnone

/-- The seal: one deletion, which now carries the operation and the timestamp. -/
theorem sealDeletion_ok {n : Nat} {r : StatementResult} {d : AccountDeletion}
    (hd : d ∈ db.accountDeletions.rows) (hsealable : input.Sealable db d)
    (h : input.sealDeletion db n = .ok (db', r)) :
    ∃ D : Table AccountDeletion, db' = { db with accountDeletions := D } ∧
      { d with purgeOperationId := some input.auditEventId, updatedAt := input.now } ∈ D.rows ∧
      r.metaChanges = 1 ∧ r.rows = [[.integer d.personalR2ExpectedCount]] := by
  obtain ⟨D, hD, rfl, hchanges, hmeta, hrows⟩ := TableIn.updateReturning_ok h
  have hkey : ∀ d, input.Sealable db d → Keyed.key d = input.userId := fun d hh => hh.1.1
  refine ⟨D, rfl, ?_, ?_, ?_⟩
  · rw [hD]
    exact mem_updateWhere.mpr ⟨d, hd, (if_pos hsealable).symm⟩
  · rw [hmeta, hchanges]
    exact (db.accountDeletions.countP_eq_one_iff input.userId hkey).mpr ⟨d, hd, hsealable⟩
  · rw [hrows, db.accountDeletions.filter_eq_singleton input.userId hkey hd hsealable]
    rfl

/-- The trigger leaves every account as it is, or without its key id. -/
theorem invalidateStaleUserKeyId_eq (images : List (User × User)) (db : Db) :
    ∃ U : Table User, (invalidateStaleUserKeyId images db).1 = { db with users := U } ∧
      ∀ u ∈ db.users.rows, u ∈ U.rows ∨ { u with userKeyId := none } ∈ U.rows := by
  obtain ⟨U, hdb, hU⟩ := Db.usersIn.nestedUpdate_eq
    (fun u => ∃ image ∈ images, image.2.userKey ≠ image.1.userKey ∧
      image.2.userKeyId = image.1.userKeyId ∧ image.1.userKeyId ≠ none ∧ u.id = image.2.id)
    (fun u => { u with userKeyId := none }) db fun _ => ⟨rfl, fun _ h => h⟩
  refine ⟨U, hdb, fun u hu => ?_⟩
  rw [hU]
  by_cases hh : ∃ image ∈ images, image.2.userKey ≠ image.1.userKey ∧
      image.2.userKeyId = image.1.userKeyId ∧ image.1.userKeyId ≠ none ∧ u.id = image.2.id
  · exact Or.inr (mem_updateWhere.mpr ⟨u, hu, (if_pos hh).symm⟩)
  · exact Or.inl (mem_updateWhere_of_not_hit hu hh)

/-- The account becomes a tombstone. -/
theorem tombstoneUser_ok {n : Nat} {r : StatementResult} {u : User} (hu : u ∈ db.users.rows)
    (hid : u.id = input.userId) (hdisabled : u.disabledAt ≠ none) (hsealed : input.Sealed db)
    (h : Db.usersIn.updateTriggering
      (fun db _ u => u.id = input.userId ∧ u.disabledAt ≠ none ∧ input.Sealed db)
      (fun _ => input.tombstone) (fun u => [[.text u.id]]) invalidateStaleUserKeyId db n =
        .ok (db', r)) :
    ∃ U : Table User, db' = { db with users := U } ∧ r.rows = [[.text input.userId]] ∧
      (input.tombstone u ∈ U.rows ∨ { input.tombstone u with userKeyId := none } ∈ U.rows) := by
  obtain ⟨U, hU, rfl, -, hrows⟩ := TableIn.updateTriggering_ok h
  have hmem : input.tombstone u ∈ U.rows := by
    rw [hU]
    exact mem_updateWhere_of_hit hu ⟨hid, hdisabled, hsealed⟩
  obtain ⟨U', hdb, hU'⟩ := invalidateStaleUserKeyId_eq
    ((db.users.rows.filter fun u => u.id = input.userId ∧ u.disabledAt ≠ none ∧
      input.Sealed db).map fun a => (a, input.tombstone a)) { db with users := U }
  refine ⟨U', hdb, ?_, hU' _ hmem⟩
  · rw [hrows, db.users.filter_eq_singleton input.userId (fun _ hh => hh.1) hu
      ⟨hid, hdisabled, hsealed⟩]
    exact congrArg (fun id => [[Value.text id]]) hid

/-- **Under the seal a batch that commits purges the account, and the client says so.** -/
theorem finalizeAccountPurge_sealed
    (hsealable : ∃ d ∈ db.accountDeletions.rows, input.Sealable db d)
    (hdisabled : AccountDisabled db input.userId)
    (hsafe : ∀ d ∈ db.accountDeletions.rows, d.personalR2DeletedCount ≤ maxSafeInteger) :
    ((finalizeAccountPurge input db).1 = db ∧ (finalizeAccountPurge input db).2 ≠ .ok true) ∨
      ((finalizeAccountPurge input db).2 = .ok true ∧
        AccountPurged input db (finalizeAccountPurge input db).1) := by
  rcases commit_cases input.batch input.interpret db with ⟨hdb, e, hout⟩ | ⟨db', rs, hrun, -⟩
  · refine Or.inl ⟨hdb, fun h => ?_⟩
    have hout' : (finalizeAccountPurge input db).2 = .error (.constraint e) := hout
    rw [hout'] at h
    cases h
  right
  obtain ⟨d, hd, hsealed⟩ := hsealable
  obtain ⟨u, hu, huid, hudisabled⟩ := hdisabled
  -- the batch, taken apart: the seal, the body, and the three statements of the end
  obtain ⟨db₁, r₀, rs', hseal, hrest, rfl⟩ := runFrom_cons hrun
  obtain ⟨db₂, n₂, rsBody, rsEnd, hbody, hend, rfl⟩ :=
    @runFrom_append _ input.finish input.body _ _ _ _ hrest
  obtain ⟨D, rfl, hdD, hsealMeta, hsealRows⟩ := sealDeletion_ok hd hsealed hseal
  have hsealed₁ : input.Sealed { db with accountDeletions := D } :=
    ⟨_, hdD, hsealed.1, hsealed.2.1, rfl⟩
  have hstep : PurgeStep { db with accountDeletions := D } db₂ :=
    runFrom_within .refl .trans (purgeBody_purge input) hbody
  have hu₂ : u ∈ db₂.users.rows := by
    rw [hstep.users]
    exact hu
  obtain ⟨db₃, rU, rs₃, huser, hrest₃, rfl⟩ := runFrom_cons hend
  obtain ⟨U, rfl, hrowsU, htomb⟩ :=
    tombstoneUser_ok hu₂ huid hudisabled (hstep.sealed hsealed₁) huser
  obtain ⟨db₄, rD, rs₄, hdeletion, hrest₄, rfl⟩ := runFrom_cons hrest₃
  obtain ⟨D', hD', rfl, hchangesD, hmetaD⟩ := TableIn.update_ok hdeletion
  obtain ⟨db₅, rA, rs₅, haudit, hnil, rfl⟩ := runFrom_cons hrest₄
  obtain ⟨rfl, rfl⟩ := runFrom_nil hnil
  obtain ⟨A, hA, rfl, hchangesA, hmetaA⟩ := TableIn.insertSelect_ok haudit
  have hdD₂ : { d with purgeOperationId := some input.auditEventId, updatedAt := input.now } ∈
      db₂.accountDeletions.rows := by
    rw [hstep.deletions]
    exact hdD
  have hmetaD' : rD.metaChanges = 1 := by
    rw [hmetaD, hchangesD]
    exact (db₂.accountDeletions.countP_eq_one_iff input.userId fun _ hh => hh.1.1).mpr
      ⟨_, hdD₂, hsealed.1, rfl⟩
  have htombstoned : input.Tombstoned { db₂ with users := U, accountDeletions := D' } := by
    have hburied : input.bury { d with
        purgeOperationId := some input.auditEventId, updatedAt := input.now } ∈ D'.rows := by
      rw [hD']
      exact mem_updateWhere.mpr ⟨_, hdD₂, (if_pos ⟨hsealed.1, rfl⟩).symm⟩
    exact ⟨_, hburied, ⟨hsealed.1.1, hsealed.1.2.1, rfl⟩, rfl⟩
  have hmetaA' : rA.metaChanges = 1 := by
    rw [hmetaA, hchangesA, if_pos htombstoned]
    rfl
  have hexpected : d.personalR2ExpectedCount = personalAttachmentCount db input.userId := by
    rw [hsealed.2.2.2, hsealed.1.1]
  have hread : input.interpret (r₀ :: (rsBody ++ [rU, rD, rA])) = .ok true := by
    have hbounded : d.personalR2ExpectedCount ≤ maxSafeInteger := by
      rw [← hsealed.2.1]
      exact hsafe d hd
    refine interpret_sealed (runFrom_length hbody) hsealMeta hsealRows hbounded ?_ hrowsU hmetaD'
      hmetaA'
    · rw [purgeBody_attachments hsealed₁ hbody, hexpected]
      rfl
  have hpurged := purgeBody_purged hsealed₁ hbody
  have hgone := purgeBody_attachments_gone hsealed₁ hbody
  rw [finalizeAccountPurge, commit_of_run hrun]
  refine ⟨mapError_eq_ok.mpr hread, ⟨d, hd, hsealed⟩, htombstoned, ?_, ?_, ?_, u, hu, huid, htomb⟩
  · exact ⟨hpurged.ciphers, hpurged.folders, hpurged.tokens, hpurged.devices, hpurged.factors⟩
  · exact hgone
  · exact hstep.organization

end HonoWarden
