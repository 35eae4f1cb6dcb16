import HonoWarden.Vault.Attachments

/-!
# Where ciphers stand

A cipher belongs to an account, or it belongs to an organization and then stands in collections of
that organization. The schema does not say so: a mapping refers to any collection and any cipher, and
an attachment to any cipher. It is the writes that see to it. Creating and sharing put a cipher and
its mappings into one batch, the second statement under the condition that the first wrote a row; a
deletion of collections asks that no cipher is left without one; an attachment is inserted under
the condition that the cipher is personal, and a cipher is shared under the condition that it has
no attachment.

Results:
* `Db.VaultPlaced`: what holds of ciphers, mappings and attachments together;
* `createOrganizationCipher_placed`, `share_placed`, `deleteOrganizationCollections_placed`: the
  three batches that move ciphers into and out of collections keep it;
* `VaultOp.run_placed`: so does every call;
* **`vault_placed`**: it holds in every state a placed vault can reach;
* **`organizationCiphers_placed`**: organization ciphers stay reachable and personal ones unmapped.
-/

namespace HonoWarden

open Relational

/-! ## The invariant -/

/-- What the columns of an organization cipher are besides. -/
def Cipher.FiledNowhere (c : Cipher) : Prop := c.folderId = none ∧ c.cipherKey ≠ some ""

instance (c : Cipher) : Decidable c.FiledNowhere := inferInstanceAs (Decidable (_ ∧ _))

/-- Ciphers, mappings and attachments are where they belong. -/
structure Db.VaultPlaced (db : Db) : Prop where
  mapped : ∀ c ∈ db.ciphers.rows, c.organizationId ≠ none →
    ∃ m ∈ db.collectionCiphers.rows, m.cipherId = c.id
  mapping : ∀ m ∈ db.collectionCiphers.rows, m.collectionId ≠ "" ∧
    ∃ c ∈ db.ciphers.rows, c.id = m.cipherId ∧ ∃ k ∈ db.collections.rows, k.id = m.collectionId ∧
      c.organizationId = some k.organizationId
  attachments : db.AttachmentsPlaced
  unfiled : ∀ c ∈ db.ciphers.rows, c.organizationId ≠ none → c.FiledNowhere

/-- A call that keeps the vault placed. -/
def Placing (db db' : Db) : Prop := db.VaultPlaced → db'.VaultPlaced

theorem Placing.refl (db : Db) : Placing db db := id

theorem Placing.trans {db db' db'' : Db} (h : Placing db db') (h' : Placing db' db'') :
    Placing db db'' := h' ∘ h

section Placed

variable {db db' : Db}

/-- The invariant reads ciphers, mappings, attachments and the places of the collections. -/
theorem VaultKept.placing (h : VaultKept db db') : Placing db db' := by
  intro hplaced
  refine ⟨?_, ?_, ?_, ?_⟩
  · rw [h.ciphers, h.collectionCiphers]
    exact hplaced.mapped
  · rw [h.ciphers, h.collectionCiphers]
    intro m hm
    obtain ⟨hnamed, c, hc, hid, k, hk, hkid, horganization⟩ := hplaced.mapping m hm
    obtain ⟨k', hk', hkid', horganization'⟩ := h.collections k hk
    exact ⟨hnamed, c, hc, hid, k', hk', hkid'.trans hkid, by rw [horganization, horganization']⟩
  · unfold Db.AttachmentsPlaced
    rw [h.ciphers, h.cipherAttachments]
    exact hplaced.attachments
  · rw [h.ciphers]
    exact hplaced.unfiled

/-- A write that leaves the four tables alone. -/
theorem Placing.of_tables (hciphers : db'.ciphers = db.ciphers)
    (hmappings : db'.collectionCiphers = db.collectionCiphers)
    (hattachments : db'.cipherAttachments = db.cipherAttachments)
    (hcollections : db'.collections = db.collections) : Placing db db' := by
  rintro ⟨hmapped, hmapping, hplaced, hunfiled⟩
  refine ⟨?_, ?_, ?_, ?_⟩
  · rw [hciphers, hmappings]
    exact hmapped
  · rw [hciphers, hmappings, hcollections]
    exact hmapping
  · unfold Db.AttachmentsPlaced
    rw [hciphers, hattachments]
    exact hplaced
  · rw [hciphers]
    exact hunfiled

/-! ## Writes of ciphers -/

/-- An image that stands where the row stands. -/
structure Cipher.StaysPlaced (c c' : Cipher) : Prop where
  id : c'.id = c.id
  userId : c'.userId = c.userId
  organizationId : c'.organizationId = c.organizationId
  unfiled : c.organizationId ≠ none → c.FiledNowhere → c'.FiledNowhere

theorem Cipher.StaysPlaced.refl (c : Cipher) : c.StaysPlaced c := ⟨rfl, rfl, rfl, fun _ h => h⟩

/-- An UPDATE of ciphers that moves none. -/
theorem Placing.updated {T : Table Cipher} {hit : Cipher → Prop} [DecidablePred hit]
    {set : Cipher → Cipher} (hT : T.rows = updateWhere hit set db.ciphers.rows)
    (hset : ∀ c, hit c → c.StaysPlaced (set c)) : Placing db { db with ciphers := T } := by
  have himage : ∀ c ∈ db.ciphers.rows, ∃ c' ∈ T.rows, c.StaysPlaced c' := by
    intro c hc
    rw [hT]
    by_cases hhit : hit c
    · exact ⟨set c, mem_updateWhere_of_hit hc hhit, hset c hhit⟩
    · exact ⟨c, mem_updateWhere_of_not_hit hc hhit, .refl c⟩
  have horigin : ∀ c' ∈ T.rows, ∃ c ∈ db.ciphers.rows, c.StaysPlaced c' := by
    intro c' hc'
    rw [hT] at hc'
    rcases mem_updateWhere_cases hc' with ⟨hc, -⟩ | ⟨c, hc, hhit, rfl⟩
    · exact ⟨c', hc, .refl c'⟩
    · exact ⟨c, hc, hset c hhit⟩
  intro h
  refine ⟨fun c' hc' horg => ?_, fun m hm => ?_, fun a ha => ?_, fun c' hc' horg => ?_⟩
  · obtain ⟨c, hc, hsame⟩ := horigin c' hc'
    rw [hsame.id]
    exact h.mapped c hc (hsame.organizationId ▸ horg)
  · obtain ⟨hnamed, c, hc, hid, k, hk, hkid, horg⟩ := h.mapping m hm
    obtain ⟨c', hc', hsame⟩ := himage c hc
    exact ⟨hnamed, c', hc', hsame.id.trans hid, k, hk, hkid, hsame.organizationId.trans horg⟩
  · obtain ⟨c, hc, hid, huser, horg⟩ := h.attachments a ha
    obtain ⟨c', hc', hsame⟩ := himage c hc
    exact ⟨c', hc', hsame.id.trans hid, hsame.userId.trans huser, hsame.organizationId.trans horg⟩
  · obtain ⟨c, hc, hsame⟩ := horigin c' hc'
    have horg' : c.organizationId ≠ none := hsame.organizationId ▸ horg
    exact hsame.unfiled horg' (h.unfiled c hc horg')

theorem update_placing {hit : Db → Nat → Cipher → Prop} [∀ s n, DecidablePred (hit s n)]
    {set : Db → Cipher → Cipher} (hset : ∀ s n c, hit s n c → c.StaysPlaced (set s c)) :
    (Db.ciphersIn.update hit set).Within Placing := by
  intro s s' n r h
  obtain ⟨T, hT, rfl, -⟩ := TableIn.update_ok h
  exact .updated hT fun c hhit => hset s n c hhit

/-- Ciphers that go take their mappings and attachments along. -/
theorem Placing.deleted {T : Table Cipher} {hit : Cipher → Prop} [DecidablePred hit]
    (hT : T.rows = deleteWhere hit db.ciphers.rows) :
    Placing db (cascadeCipherDelete (db.ciphers.rows.filter fun c => hit c)
      { db with ciphers := T }).1 := by
  obtain ⟨A, M, hdb, hA, hM⟩ := cascadeCipherDelete_eq (db.ciphers.rows.filter fun c => hit c)
    { db with ciphers := T }
  rw [hdb]
  have hmem : ∀ c ∈ db.ciphers.rows, c ∈ T.rows ∨ c ∈ db.ciphers.rows.filter fun c => hit c := by
    intro c hc
    rw [hT]
    by_cases hhit : hit c
    · exact .inr (List.mem_filter.mpr ⟨hc, decide_eq_true hhit⟩)
    · exact .inl (mem_deleteWhere.mpr ⟨hc, hhit⟩)
  intro h
  refine ⟨fun c hc horg => ?_, fun m hm => ?_, fun a ha => ?_, fun c hc horg => ?_⟩
  · simp only [hT] at hc
    obtain ⟨hold, hmiss⟩ := mem_deleteWhere.mp hc
    obtain ⟨m, hm, hid⟩ := h.mapped c hold horg
    refine ⟨m, ?_, hid⟩
    simp only [hM]
    refine mem_deleteWhere.mpr ⟨hm, ?_⟩
    rintro ⟨d, hd, hdid⟩
    obtain ⟨hdold, hdhit⟩ := List.mem_filter.mp hd
    rw [db.ciphers.eq_of_key hold hdold (hid.symm.trans hdid)] at hmiss
    exact hmiss (of_decide_eq_true hdhit)
  · simp only [hM] at hm
    obtain ⟨hmold, hstays⟩ := mem_deleteWhere.mp hm
    obtain ⟨hnamed, c, hc, hid, hcollection⟩ := h.mapping m hmold
    refine ⟨hnamed, c, ?_, hid, hcollection⟩
    exact (hmem c hc).resolve_right fun hdeleted => hstays ⟨c, hdeleted, hid.symm⟩
  · simp only [hA] at ha
    obtain ⟨haold, hstays⟩ := mem_deleteWhere.mp ha
    obtain ⟨c, hc, hpersonal⟩ := h.attachments a haold
    refine ⟨c, ?_, hpersonal⟩
    exact (hmem c hc).resolve_right fun hdeleted => hstays ⟨c, hdeleted, hpersonal.1.symm⟩
  · simp only [hT] at hc
    exact h.unfiled c (mem_deleteWhere.mp hc).1 horg

theorem callDelete_placing {hit : Db → Cipher → Prop} [∀ s, DecidablePred (hit s)] :
    Placing db (Db.ciphersIn.callDelete hit cascadeCipherDelete db).1 := by
  obtain ⟨T, hcall, hT⟩ := Db.ciphersIn.callDelete_eq hit db cascadeCipherDelete
  rw [hcall]
  exact .deleted hT

theorem deleteTriggering_placing {hit : Db → Nat → Cipher → Prop} [∀ s n, DecidablePred (hit s n)]
    {returning : Cipher → List (List Value)} :
    (Db.ciphersIn.deleteTriggering hit returning cascadeCipherDelete).Within Placing := by
  intro s s' n r h
  obtain ⟨T, hT, rfl, -⟩ := TableIn.deleteTriggering_ok h
  exact .deleted hT

theorem callUpdate_placing {hit : Db → Cipher → Prop} [∀ s, DecidablePred (hit s)]
    {set : Cipher → Cipher} (hset : ∀ c, hit db c → c.StaysPlaced (set c)) :
    Placing db (Db.ciphersIn.callUpdate hit set db).1 := by
  unfold TableIn.callUpdate
  split
  · exact .refl db
  · next hrun =>
    obtain ⟨T, hT, rfl, -⟩ := TableIn.update_ok hrun
    exact .updated hT hset

/-- A personal cipher is added. -/
theorem createCipher_placing (input : CipherRecord) (db : Db) :
    Placing db (createCipher input db).1 := by
  unfold createCipher
  rcases execute_cases (Db.ciphersIn.insertReferencing (fun _ _ => [input.row]) Cipher.Refers)
    (fun _ => .ok input) db with ⟨he, -⟩ | ⟨db', r, hrun, he, -⟩
  · rw [he]
    exact .refl db
  · rw [he]
    obtain ⟨-, T, hT, rfl, -⟩ := TableIn.insertReferencing_ok hrun
    have hmem : ∀ c ∈ T.rows, c ∈ db.ciphers.rows ∨ c.organizationId = none := by
      intro c hc
      rw [hT] at hc
      rcases List.mem_append.mp hc with hold | hnew
      · exact .inl hold
      · rw [List.mem_singleton.mp hnew]
        exact .inr rfl
    have hstays : ∀ c ∈ db.ciphers.rows, c ∈ T.rows := by
      intro c hc
      rw [hT]
      exact List.mem_append_left _ hc
    intro h
    refine ⟨fun c hc horg => ?_, fun m hm => ?_, fun a ha => ?_, fun c hc horg => ?_⟩
    · exact h.mapped c ((hmem c hc).resolve_right horg) horg
    · obtain ⟨hnamed, c, hc, hrest⟩ := h.mapping m hm
      exact ⟨hnamed, c, hstays c hc, hrest⟩
    · obtain ⟨c, hc, hpersonal⟩ := h.attachments a ha
      exact ⟨c, hstays c hc, hpersonal⟩
    · exact h.unfiled c ((hmem c hc).resolve_right horg) horg

/-! ## Writes of attachments -/

/-- Attachments go, stay, or are added to personal ciphers. -/
theorem Placing.attachments {A : Table CipherAttachment}
    (hA : ∀ a' ∈ A.rows, (∃ a ∈ db.cipherAttachments.rows, a'.cipherId = a.cipherId ∧
        a'.userId = a.userId) ∨ ∃ c ∈ db.ciphers.rows, c.Personal a'.cipherId a'.userId) :
    Placing db { db with cipherAttachments := A } := by
  intro h
  refine ⟨h.mapped, h.mapping, fun a' ha' => ?_, h.unfiled⟩
  rcases hA a' ha' with ⟨a, ha, hcipher, huser⟩ | hpersonal
  · rw [hcipher, huser]
    exact h.attachments a ha
  · exact hpersonal

theorem attachments_update_placing {hit : Db → Nat → CipherAttachment → Prop}
    [∀ s n, DecidablePred (hit s n)] {set : Db → CipherAttachment → CipherAttachment}
    (hset : ∀ s a, (set s a).cipherId = a.cipherId ∧ (set s a).userId = a.userId) :
    (Db.cipherAttachmentsIn.update hit set).Within Placing := by
  intro s s' n r h
  obtain ⟨A, hA, rfl, -⟩ := TableIn.update_ok h
  refine .attachments fun a' ha' => .inl ?_
  rw [hA] at ha'
  rcases mem_updateWhere_cases ha' with ⟨ha, -⟩ | ⟨a, ha, -, rfl⟩
  · exact ⟨a', ha, rfl, rfl⟩
  · exact ⟨a, ha, hset s a⟩

theorem attachments_delete_placing {hit : Db → Nat → CipherAttachment → Prop}
    [∀ s n, DecidablePred (hit s n)] : (Db.cipherAttachmentsIn.delete hit).Within Placing := by
  intro s s' n r h
  obtain ⟨A, hA, rfl, -⟩ := TableIn.delete_ok h
  refine .attachments fun a ha => .inl ⟨a, ?_, rfl, rfl⟩
  rw [hA] at ha
  exact (mem_deleteWhere.mp ha).1

/-- **An attachment is only added to a personal cipher.** -/
theorem attachments_insert_placing {input : CipherAttachmentCreateInput}
    {new : Db → Nat → List CipherAttachment}
    (hnew : ∀ s n, ∀ a ∈ new s n, a = input.row ∧ input.HasCipher s) :
    (Db.cipherAttachmentsIn.insertReferencing new CipherAttachment.Refers).Within Placing := by
  intro s s' n r h
  obtain ⟨-, A, hA, rfl, -⟩ := TableIn.insertReferencing_ok h
  refine .attachments fun a ha => ?_
  rw [hA] at ha
  rcases List.mem_append.mp ha with hold | hadded
  · exact .inl ⟨a, hold, rfl, rfl⟩
  · obtain ⟨rfl, c, hc, hpersonal, -⟩ := hnew s n a hadded
    exact .inr ⟨c, hc, hpersonal⟩

/-! ## Into an organization -/

/-- **A cipher that enters an organization together with its mappings.** What it replaces had no
mapping and no attachment. -/
theorem Placing.entered {input : OrganizationCipherWriteInput} {row : Cipher} {C : Table Cipher}
    {M : Table CollectionCipher} (hvalid : input.Valid) (hmanaged : input.Managed db)
    (hrow : row ∈ C.rows) (hid : row.id = input.id)
    (horg : row.organizationId = some input.organizationId) (hunfiled : row.FiledNowhere)
    (hC : ∀ c ∈ C.rows, c = row ∨ c ∈ db.ciphers.rows)
    (hstays : ∀ c ∈ db.ciphers.rows, c ∈ C.rows ∨
      (∀ m ∈ db.collectionCiphers.rows, m.cipherId ≠ c.id) ∧
        ∀ a ∈ db.cipherAttachments.rows, a.cipherId ≠ c.id)
    (hM : M.rows = db.collectionCiphers.rows ++
      (input.managed db).map fun k => ⟨k.id, input.id⟩) :
    Placing db { db with ciphers := C, collectionCiphers := M } := by
  have hold : ∀ m ∈ db.collectionCiphers.rows, m ∈ M.rows := by
    intro m hm
    rw [hM]
    exact List.mem_append_left _ hm
  intro h
  refine ⟨fun c hc hcorg => ?_, fun m hm => ?_, fun a ha => ?_, fun c hc hcorg => ?_⟩
  · rcases hC c hc with rfl | hc
    · have hpos : 0 < (input.managed db).length := by
        rw [hmanaged]
        exact List.length_pos_iff.mpr hvalid.2.2.2.2.1
      obtain ⟨k, hk⟩ := List.exists_mem_of_length_pos hpos
      refine ⟨⟨k.id, input.id⟩, ?_, hid.symm⟩
      simp only [hM]
      exact List.mem_append_right _ (List.mem_map.mpr ⟨k, hk, rfl⟩)
    · obtain ⟨m, hm, hmid⟩ := h.mapped c hc hcorg
      exact ⟨m, hold m hm, hmid⟩
  · simp only [hM] at hm
    rcases List.mem_append.mp hm with hm | hnew
    · obtain ⟨hnamed, c, hc, hcid, hcollection⟩ := h.mapping m hm
      refine ⟨hnamed, c, ?_, hcid, hcollection⟩
      exact (hstays c hc).resolve_right fun hfree => hfree.1 m hm hcid.symm
    · obtain ⟨k, hk, rfl⟩ := List.mem_map.mp hnew
      obtain ⟨hcollection, hwritable⟩ := List.mem_filter.mp hk
      obtain ⟨-, hkorg, hknamed⟩ := of_decide_eq_true hwritable
      refine ⟨hvalid.2.2.2.2.2.2.1 _ hknamed, row, hrow, hid, k, hcollection, rfl, ?_⟩
      rw [horg, hkorg]
  · obtain ⟨c, hc, hpersonal⟩ := h.attachments a ha
    refine ⟨c, ?_, hpersonal⟩
    exact (hstays c hc).resolve_right fun hfree => hfree.2 a ha hpersonal.1.symm
  · rcases hC c hc with rfl | hc
    · exact hunfiled
    · exact h.unfiled c hc hcorg

theorem cipherKey_named {cipherKey : Option String} (h : ¬ CipherKeyRefused cipherKey) :
    cipherKey ≠ some "" := by
  rintro rfl
  exact h ⟨"", rfl, .inl rfl⟩

/-- **A cipher is created with its mappings, or not at all.** -/
theorem createOrganizationCipher_placed (input : OrganizationCipherWriteInput) (db : Db) :
    Placing db (createOrganizationCipher input db).1 := by
  unfold createOrganizationCipher
  split
  · next hvalid =>
    rcases commit_cases [input.insertCipher, input.insertMappings] input.interpretCreate db with
      ⟨he, -⟩ | ⟨db', rs, hrun, he, -⟩
    · rw [he]
      exact .refl db
    · rw [he]
      obtain ⟨db₁, r₁, rs₁, hfirst, hrest, -⟩ := runFrom_cons hrun
      obtain ⟨db₂, r₂, rs₂, hsecond, hnil, -⟩ := runFrom_cons hrest
      obtain ⟨rfl, -⟩ := runFrom_nil hnil
      obtain ⟨-, C, hC, rfl, hchanges, -⟩ := TableIn.insertReferencing_ok hfirst
      obtain ⟨-, M, hM, rfl, -⟩ := TableIn.insertReferencing_ok hsecond
      by_cases hmanaged : input.Managed db
      · rw [if_pos hmanaged] at hC hchanges
        have hrow : input.row ∈ C.rows := by
          rw [hC]
          exact List.mem_append_right _ (List.mem_singleton_self _)
        have htransitioned : input.Transitioned (Db.ciphersIn.put db C) :=
          ⟨input.row, hrow, rfl, rfl, rfl, rfl, rfl⟩
        rw [if_pos ⟨htransitioned, hchanges⟩] at hM
        refine .entered hvalid hmanaged hrow rfl rfl ⟨rfl, cipherKey_named hvalid.2.2.2.1⟩
          (fun c hc => ?_) (fun c hc => .inl ?_) hM
        · rw [hC] at hc
          rcases List.mem_append.mp hc with hold | hnew
          · exact .inr hold
          · exact .inl (List.mem_singleton.mp hnew)
        · rw [hC]
          exact List.mem_append_left _ hc
      · rw [if_neg hmanaged] at hC hchanges
        have hnone : ¬ r₁.changes = 1 := by
          rw [hchanges]
          decide
        rw [if_neg fun h => hnone h.2, List.append_nil] at hM
        rw [List.append_nil] at hC
        exact .of_tables (Table.ext hC) (Table.ext hM) rfl rfl
  · exact .refl db

/-- **A cipher is shared with its mappings, or not at all.** -/
theorem share_placed (input : OrganizationCipherShareInput) (db : Db) :
    Placing db (sharePersonalCipherWithOrganization input db).1 := by
  unfold sharePersonalCipherWithOrganization
  split
  · next hvalid =>
    dsimp only
    rcases commit_cases [input.shareCipher, input.insertMappings] input.interpret db with
      ⟨he, -⟩ | ⟨db', rs, hrun, he, -⟩
    · rw [he]
      exact .refl db
    · rw [he]
      obtain ⟨db₁, r₁, rs₁, hfirst, hrest, -⟩ := runFrom_cons hrun
      obtain ⟨db₂, r₂, rs₂, hsecond, hnil, -⟩ := runFrom_cons hrest
      obtain ⟨rfl, -⟩ := runFrom_nil hnil
      obtain ⟨-, C, hC, rfl, hchanges, -⟩ := TableIn.updateReferencing_ok hfirst
      obtain ⟨-, M, hM, rfl, -⟩ := TableIn.insertReferencing_ok hsecond
      by_cases hhit : ∃ c ∈ db.ciphers.rows, input.Hit db c
      · obtain ⟨c, hc, hhit⟩ := hhit
        have honly : ∀ c' ∈ db.ciphers.rows, input.Hit db c' → c' = c := fun c' hc' hhit' =>
          db.ciphers.eq_of_key hc' hc (hhit'.1.1.trans hhit.1.1.symm)
        have hrow : input.apply c ∈ C.rows := by
          rw [hC]
          exact mem_updateWhere_of_hit hc hhit
        have hone : r₁.changes = 1 := by
          rw [hchanges]
          exact (db.ciphers.countP_eq_one_iff input.id fun c' hhit' => hhit'.1.1).mpr ⟨c, hc, hhit⟩
        have htransitioned : input.Transitioned (Db.ciphersIn.put db C) :=
          ⟨input.apply c, hrow, hhit.1.1, hhit.1.2.1, rfl, rfl, rfl⟩
        rw [if_pos ⟨htransitioned, hone⟩] at hM
        refine .entered hvalid hhit.2.2.2.2.2 hrow hhit.1.1 rfl
          ⟨rfl, cipherKey_named hvalid.2.2.2.1⟩ (fun c' hc' => ?_) (fun c' hc' => ?_) hM
        · rw [hC] at hc'
          rcases mem_updateWhere_cases hc' with ⟨hold, -⟩ | ⟨c₀, hc₀, hhit₀, rfl⟩
          · exact .inr hold
          · rw [honly c₀ hc₀ hhit₀]
            exact .inl rfl
        · by_cases hhit' : input.Hit db c'
          · exact .inr ⟨hhit'.2.2.2.1, hhit'.2.2.2.2.1⟩
          · rw [hC]
            exact .inl (mem_updateWhere_of_not_hit hc' hhit')
      · have hnone : ¬ r₁.changes = 1 := by
          rw [hchanges]
          intro hone
          exact hhit (countP_pos_iff_exists.mp (by rw [hone]; exact Nat.one_pos))
        rw [if_neg fun h => hnone h.2, List.append_nil] at hM
        have hsame : C.rows = db.ciphers.rows :=
          hC.trans (updateWhere_eq_self fun c hc hh => hhit ⟨c, hc, hh⟩)
        exact .of_tables (Table.ext hsame) (Table.ext hM) rfl rfl
  · exact .refl db

/-! ## Collections -/

theorem cascadeCollectionDelete_eq (deleted : List Collection) (db : Db) :
    ∃ (U : Table CollectionUser) (M : Table CollectionCipher) (G : Table CollectionGroup),
      (cascadeCollectionDelete deleted db).1 =
        { db with collectionUsers := U, collectionCiphers := M, collectionGroups := G } ∧
      M.rows = deleteWhere (fun m => ∃ c ∈ deleted, m.collectionId = c.id)
        db.collectionCiphers.rows := by
  obtain ⟨U, hdb, -⟩ := Db.collectionUsersIn.nestedDelete_eq
    (fun a => ∃ c ∈ deleted, a.collectionId = c.id) db
  obtain ⟨M, hdb', hM⟩ := Db.collectionCiphersIn.nestedDelete_eq
    (fun m => ∃ c ∈ deleted, m.collectionId = c.id) (Db.collectionUsersIn.put db U)
  obtain ⟨G, hdb'', -⟩ := Db.collectionGroupsIn.nestedDelete_eq
    (fun a => ∃ c ∈ deleted, a.collectionId = c.id ∧ a.organizationId = c.organizationId)
    (Db.collectionCiphersIn.put (Db.collectionUsersIn.put db U) M)
  refine ⟨U, M, G, ?_, hM⟩
  simp only [cascadeCollectionDelete, hdb, hdb', hdb'']

/-- **A deletion of collections leaves every cipher in another one.** -/
theorem deleteOrganizationCollections_placed (input : OrganizationCollectionsDeleteInput)
    (db : Db) : Placing db (deleteOrganizationCollections input db).1 := by
  unfold deleteOrganizationCollections
  split
  · exact .refl db
  · rcases commit_cases [reviseOrganization input.organizationId input.now input.Deletable,
        input.deleteCollections] input.interpret db with ⟨he, -⟩ | ⟨db', rs, hrun, he, -⟩
    · rw [he]
      exact .refl db
    · rw [he]
      obtain ⟨db₁, r₁, rs₁, hfirst, hrest, -⟩ := runFrom_cons hrun
      obtain ⟨db₂, r₂, rs₂, hsecond, hnil, -⟩ := runFrom_cons hrest
      obtain ⟨rfl, -⟩ := runFrom_nil hnil
      obtain ⟨O, -, rfl, hchanges, -⟩ := TableIn.update_ok hfirst
      obtain ⟨K, hK, rfl, -⟩ := TableIn.deleteTriggering_ok hsecond
      have hdeletable : r₁.changes = 1 → input.Deletable db := by
        intro hone
        rw [hchanges] at hone
        obtain ⟨o, -, hhit⟩ := countP_pos_iff_exists.mp (by rw [hone]; exact Nat.one_pos)
        exact hhit.2.2
      obtain ⟨U, M, G, hdb, hM⟩ := cascadeCollectionDelete_eq
        (db.collections.rows.filter fun k => input.Hit (Db.organizationsIn.put db O) r₁.changes k)
        (Db.collectionsIn.put (Db.organizationsIn.put db O) K)
      rw [hdb]
      -- what the DELETE takes is named in the request
      have hgone : ∀ k ∈ db.collections.rows.filter
          (fun k => input.Hit (Db.organizationsIn.put db O) r₁.changes k),
          k ∈ db.collections.rows ∧ k.organizationId = input.organizationId ∧
            k.id ∈ input.collectionIds ∧ r₁.changes = 1 := by
        intro k hk
        obtain ⟨hmem, hhit⟩ := List.mem_filter.mp hk
        have hhit' := of_decide_eq_true hhit
        exact ⟨hmem, hhit'.1, hhit'.2.1, hhit'.2.2.1⟩
      intro h
      refine ⟨fun c hc horg => ?_, fun m hm => ?_, h.attachments, h.unfiled⟩
      · obtain ⟨m, hm, hid⟩ := h.mapped c hc horg
        by_cases hdeleted : ∃ k ∈ db.collections.rows.filter
            (fun k => input.Hit (Db.organizationsIn.put db O) r₁.changes k), m.collectionId = k.id
        · obtain ⟨k, hk, hkid⟩ := hdeleted
          obtain ⟨hkmem, hkorg, hknamed, hone⟩ := hgone k hk
          obtain ⟨-, c', hc', hid', k', hk', hkid', horg'⟩ := h.mapping m hm
          have hsame : c' = c := db.ciphers.eq_of_key hc' hc (hid'.trans hid)
          have hsame' : k' = k := db.collections.eq_of_key hk' hkmem (hkid'.trans hkid)
          rw [hsame, hsame', hkorg] at horg'
          have hsurvives : input.Survives db c := by
            by_contra hnone
            exact (hdeletable hone).2 ⟨m, hm, by rw [hkid]; exact hknamed, c, hc, hid.symm, horg',
              hnone⟩
          obtain ⟨m', hm', hmid', hstays, -⟩ := hsurvives
          refine ⟨m', ?_, hmid'⟩
          simp only [hM]
          refine mem_deleteWhere.mpr ⟨hm', ?_⟩
          rintro ⟨k₀, hk₀, hk₀id⟩
          rw [hk₀id] at hstays
          exact hstays (hgone k₀ hk₀).2.2.1
        · refine ⟨m, ?_, hid⟩
          simp only [hM]
          exact mem_deleteWhere.mpr ⟨hm, hdeleted⟩
      · simp only [hM] at hm
        obtain ⟨hmold, hkept⟩ := mem_deleteWhere.mp hm
        obtain ⟨hnamed, c, hc, hid, k, hk, hkid, horg⟩ := h.mapping m hmold
        refine ⟨hnamed, c, hc, hid, k, ?_, hkid, horg⟩
        change k ∈ K.rows
        rw [hK]
        refine mem_deleteWhere.mpr ⟨hk, fun hhit => hkept ⟨k, ?_, hkid.symm⟩⟩
        exact List.mem_filter.mpr ⟨hk, decide_eq_true hhit⟩

theorem reviseOrganization_kept (organizationId : String) (now : Timestamp)
    (condition : Db → Prop) [DecidablePred condition] :
    (reviseOrganization organizationId now condition).Within VaultKept :=
  TableIn.update_within fun _ _ => .of_tables rfl rfl rfl rfl rfl

theorem createOrganizationCollection_kept (input : OrganizationCollectionWriteInput) (db : Db) :
    VaultKept db (createOrganizationCollection input db).1 := by
  refine commit_within .refl .trans fun st hst => ?_
  simp only [List.mem_cons, List.not_mem_nil, or_false] at hst
  rcases hst with rfl | rfl | rfl
  · exact reviseOrganization_kept _ _ _
  · intro s s' n r h
    obtain ⟨-, K, hK, rfl, -⟩ := TableIn.insertReferencing_ok h
    refine .of_collections fun k hk => ⟨k, ?_, rfl, rfl⟩
    rw [hK]
    exact List.mem_append_left _ hk
  · exact TableIn.insertReferencing_within fun _ _ => .of_tables rfl rfl rfl rfl rfl

theorem updateOrganizationCollection_kept (input : OrganizationCollectionUpdateInput) (db : Db) :
    VaultKept db (updateOrganizationCollection input db).1 := by
  unfold updateOrganizationCollection
  refine commit_within (R := VaultKept) .refl .trans fun st hst => ?_
  simp only [List.mem_cons, List.not_mem_nil, or_false] at hst
  rcases hst with rfl | rfl
  · exact reviseOrganization_kept _ _ _
  · intro s s' n r h
    obtain ⟨K, hK, rfl, -⟩ := TableIn.update_ok h
    refine .of_collections fun k hk => ?_
    rw [hK]
    by_cases hhit : k.id = input.id ∧ k.organizationId = input.organizationId ∧ n = 1 ∧
        input.Owner s
    · exact ⟨_, mem_updateWhere_of_hit hk hhit, rfl, rfl⟩
    · exact ⟨k, mem_updateWhere_of_not_hit hk hhit, rfl, rfl⟩

/-! ## The end of an account purge -/

theorem clearFolder_placing (deleted : List Folder) (db : Db) :
    Placing db (clearFolder deleted db).1 := by
  obtain ⟨C, hdb, hC⟩ := Db.ciphersIn.nestedUpdate_eq
    (fun c => ∃ f ∈ deleted, c.folderId = some f.id) (fun c => { c with folderId := none }) db
    fun _ => ⟨rfl, fun _ h => h⟩
  rw [clearFolder, hdb]
  exact .updated hC fun c _ => ⟨rfl, rfl, rfl, fun _ h => ⟨rfl, h.2⟩⟩

theorem clearRotatedFrom_placing (deleted : List RefreshToken) (db : Db) :
    Placing db (clearRotatedFrom deleted db).1 :=
  TableIn.nestedUpdate_within (fun _ _ => .of_tables rfl rfl rfl rfl) .refl db

theorem purgeVault_placing (input : AccountPurgeInput) :
    ∀ st ∈ input.purgeVault, st.Within Placing := by
  intro st hst
  simp only [AccountPurgeInput.purgeVault, List.mem_cons, List.not_mem_nil, or_false] at hst
  rcases hst with rfl | rfl | rfl | rfl
  · exact update_placing fun _ _ _ _ => ⟨rfl, rfl, rfl, fun _ h => ⟨rfl, h.2⟩⟩
  · exact attachments_delete_placing
  · exact deleteTriggering_placing
  · exact TableIn.deleteTriggering_within (fun _ _ => .of_tables rfl rfl rfl rfl) .trans
      clearFolder_placing

theorem purgeCredentials_placing (input : AccountPurgeInput) :
    ∀ st ∈ input.purgeCredentials, st.Within Placing := by
  intro st hst
  simp only [AccountPurgeInput.purgeCredentials, List.mem_cons, List.not_mem_nil, or_false] at hst
  rcases hst with rfl | rfl | rfl | rfl | rfl | rfl
  · exact TableIn.deleteTriggering_within (fun _ _ => .of_tables rfl rfl rfl rfl) .trans
      clearRotatedFrom_placing
  · refine TableIn.deleteTriggering_within (fun _ _ => .of_tables rfl rfl rfl rfl) .trans ?_
    intro deleted s
    exact (TableIn.nestedDelete_within (R := Placing)
      (fun _ _ => .of_tables rfl rfl rfl rfl) s).trans (clearRotatedFrom_placing _ _)
  all_goals exact TableIn.delete_within fun _ _ => .of_tables rfl rfl rfl rfl

theorem finalizeAccountPurge_placed (input : AccountPurgeInput) (db : Db) :
    Placing db (finalizeAccountPurge input db).1 := by
  refine commit_within .refl .trans fun st hst => ?_
  simp only [AccountPurgeInput.batch, AccountPurgeInput.finish, AccountPurgeInput.purgeMemberships,
    List.cons_append, List.mem_append, List.mem_cons, List.not_mem_nil,
    or_false] at hst
  rcases hst with rfl | ((hst | hst) | rfl | rfl | rfl) | rfl | rfl | rfl
  · exact TableIn.updateReturning_within fun _ _ => .of_tables rfl rfl rfl rfl
  · exact purgeVault_placing input st hst
  · exact purgeCredentials_placing input st hst
  · exact TableIn.deleteTriggering_within (fun _ _ => .of_tables rfl rfl rfl rfl) .trans fun _ =>
      TableIn.nestedUpdate_within (fun _ _ => .of_tables rfl rfl rfl rfl) .refl
  · exact TableIn.delete_within fun _ _ => .of_tables rfl rfl rfl rfl
  · exact TableIn.update_within fun _ _ => .of_tables rfl rfl rfl rfl
  · exact TableIn.updateTriggering_within (fun _ _ => .of_tables rfl rfl rfl rfl) .trans fun _ =>
      TableIn.nestedUpdate_within (fun _ _ => .of_tables rfl rfl rfl rfl) .refl
  · exact TableIn.update_within fun _ _ => .of_tables rfl rfl rfl rfl
  · exact TableIn.insertSelect_within fun _ _ => .of_tables rfl rfl rfl rfl

/-! ## Every call -/

theorem updateOrganizationCipher_placed (input : OrganizationCipherUpdateInput) (db : Db) :
    Placing db (updateOrganizationCipher input db).1 := by
  unfold updateOrganizationCipher answerOf attemptUpdateOrganizationCipher
  split
  · exact .refl db
  · next hkey =>
    exact callUpdate_placing fun c _ =>
      ⟨rfl, rfl, rfl, fun _ h => ⟨h.1, cipherKey_named hkey⟩⟩

theorem bulkMoveCiphers_placed (input : CipherBulkMoveInput) (db : Db) :
    Placing db (bulkMoveCiphers input db).1 := by
  refine commit_within .refl .trans fun st hst => ?_
  obtain ⟨chunk, -, rfl⟩ := List.mem_map.mp hst
  intro s s' n r h
  obtain ⟨-, T, hT, rfl, -⟩ := TableIn.updateReferencing_ok h
  exact .updated hT fun c hhit => ⟨rfl, rfl, rfl, fun horg => absurd hhit.1.2.2 horg⟩

theorem updateCipher_placed (input : CipherUpdateInput) (db : Db) :
    Placing db (updateCipher input db).1 := by
  change Placing db (attemptUpdateCipher input db).1
  rcases attemptUpdateCipher_cases input db with ⟨hrun, -⟩ | ⟨T, hrun, hT⟩
  · rw [hrun]
    exact .refl db
  · rw [hrun]
    exact .updated hT fun c hhit => ⟨rfl, rfl, rfl, fun horg => absurd hhit.1.2.2 horg⟩

/-- **Every call keeps the vault placed.** -/
theorem VaultOp.run_placed (fingerprint : String → String) (op : VaultOp) (db : Db) :
    Placing db (op.run fingerprint db) := by
  -- an UPDATE that writes dates and flags of ciphers
  have hdates : ∀ {c c' : Cipher}, c'.id = c.id → c'.userId = c.userId →
      c'.organizationId = c.organizationId → c'.folderId = c.folderId →
      c'.cipherKey = c.cipherKey → c.StaysPlaced c' := by
    intro c c' hid huser horg hfolder hkey
    refine ⟨hid, huser, horg, fun _ h => ⟨hfolder.trans h.1, ?_⟩⟩
    rw [hkey]
    exact h.2
  cases op with
  | createCipher input => exact createCipher_placing input db
  | updateCipher input => exact updateCipher_placed input db
  | softDeleteCipher input =>
    exact execute_within .refl (update_placing fun _ _ _ _ => hdates rfl rfl rfl rfl rfl)
  | restoreCipher input =>
    exact execute_within .refl (update_placing fun _ _ _ _ => hdates rfl rfl rfl rfl rfl)
  | permanentlyDeleteCipher input => exact callDelete_placing
  | bulkMoveCiphers input => exact bulkMoveCiphers_placed input db
  | bulkSoftDeleteCiphers input =>
    refine commit_within .refl .trans fun st hst => ?_
    obtain ⟨chunk, -, rfl⟩ := List.mem_map.mp hst
    exact update_placing fun _ _ _ _ => hdates rfl rfl rfl rfl rfl
  | bulkRestoreCiphers input =>
    refine commit_within .refl .trans fun st hst => ?_
    obtain ⟨chunk, -, hst⟩ := List.mem_flatMap.mp hst
    simp only [List.mem_cons, List.not_mem_nil, or_false] at hst
    rcases hst with rfl | rfl
    · exact select_within .refl
    · exact update_placing fun _ _ _ _ => hdates rfl rfl rfl rfl rfl
  | bulkPermanentlyDeleteCiphers input =>
    refine commit_within .refl .trans fun st hst => ?_
    obtain ⟨chunk, -, rfl⟩ := List.mem_map.mp hst
    exact deleteTriggering_placing
  | createOrganizationCipher input => exact createOrganizationCipher_placed input db
  | sharePersonalCipher input => exact share_placed input db
  | updateOrganizationCipher input => exact updateOrganizationCipher_placed input db
  | softDeleteOrganizationCipher input =>
    exact callUpdate_placing fun c _ => hdates rfl rfl rfl rfl rfl
  | restoreOrganizationCipher input =>
    exact callUpdate_placing fun c _ => hdates rfl rfl rfl rfl rfl
  | permanentlyDeleteOrganizationCipher input => exact callDelete_placing
  | createFolder input =>
    exact execute_within .refl (TableIn.insertReferencing_within fun _ _ =>
      .of_tables rfl rfl rfl rfl)
  | updateFolder input =>
    change Placing db (attemptUpdateFolder input db).1
    exact execute_within .refl (TableIn.update_within fun _ _ => .of_tables rfl rfl rfl rfl)
  | deleteFolder input =>
    exact execute_within .refl (TableIn.update_within fun _ _ => .of_tables rfl rfl rfl rfl)
  | createCipherAttachment input =>
    refine execute_within .refl (@attachments_insert_placing input _ fun s n a ha => ?_)
    split at ha
    · next hcipher => exact ⟨List.mem_singleton.mp ha, hcipher⟩
    · cases ha
  | createPendingCipherAttachment input maxStorageBytes expiredBefore =>
    dsimp only [run, HonoWarden.createPendingCipherAttachment]
    refine execute_within .refl (@attachments_insert_placing input _ fun s n a ha => ?_)
    split at ha
    · next hroom => exact ⟨List.mem_singleton.mp ha, hroom.1⟩
    · cases ha
  | reserveCipherAttachmentUpload input size expiredBefore maxStorageBytes updatedAt =>
    exact execute_within .refl (attachments_update_placing fun _ _ => ⟨rfl, rfl⟩)
  | markCipherAttachmentUploaded input contentType revisionDate updatedAt =>
    exact execute_within .refl (attachments_update_placing fun _ _ => ⟨rfl, rfl⟩)
  | deleteCipherAttachment input => exact execute_within .refl attachments_delete_placing
  | deleteExpiredPendingCipherAttachments expiredBefore limit =>
    exact execute_within .refl attachments_delete_placing
  | createCollection input => exact (createOrganizationCollection_kept input db).placing
  | updateCollection input => exact (updateOrganizationCollection_kept input db).placing
  | deleteCollections input => exact deleteOrganizationCollections_placed input db
  | membership op => exact (op.run_vaultKept fingerprint db).placing
  | finalizeAccountPurge input => exact finalizeAccountPurge_placed input db

end Placed

/-! ## Runs -/

/-- **The vault stays placed.** -/
theorem vault_placed {fingerprint : String → String} {c c' : Config Db String}
    {moves : List (Move VaultOp Db)} (hrun : Run (vaultSystem fingerprint) c moves c')
    (h : c.state.VaultPlaced) : c'.state.VaultPlaced := by
  refine hrun.invariant (I := fun c => c.state.VaultPlaced) h fun {c move c'} hnext hplaced => ?_
  have heq : c'.state = Move.exec (VaultOp.run fingerprint) Db.confineVault move c.state :=
    hnext.step
  rw [heq]
  cases move with
  | request op => exact op.run_placed fingerprint c.state hplaced
  | surroundings write =>
    have hkept : Placing c.state (c.state.confineVault (write c.state)) :=
      .of_tables rfl rfl rfl rfl
    exact hkept hplaced

/-- What is asked of organization ciphers and personal ones. -/
structure OrganizationCiphersPlaced (db : Db) : Prop where
  mapped : ∀ c ∈ db.ciphers.rows, c.organizationId ≠ none →
    ∃ m ∈ db.collectionCiphers.rows, m.cipherId = c.id
  same : ∀ c ∈ db.ciphers.rows, c.organizationId ≠ none →
    ∀ m ∈ db.collectionCiphers.rows, m.cipherId = c.id →
      ∃ k ∈ db.collections.rows, k.id = m.collectionId ∧ c.organizationId = some k.organizationId
  unattached : ∀ c ∈ db.ciphers.rows, c.organizationId ≠ none →
    ∀ a ∈ db.cipherAttachments.rows, a.cipherId ≠ c.id
  unfiled : ∀ c ∈ db.ciphers.rows, c.organizationId ≠ none → c.folderId = none
  unmapped : ∀ c ∈ db.ciphers.rows, c.organizationId = none →
    ∀ m ∈ db.collectionCiphers.rows, m.cipherId ≠ c.id

theorem Db.VaultPlaced.organizationCiphers {db : Db} (h : db.VaultPlaced) :
    OrganizationCiphersPlaced db := by
  refine ⟨h.mapped, fun c hc _ m hm hid => ?_, fun c hc horg a ha hid => ?_,
    fun c hc horg => (h.unfiled c hc horg).1, fun c hc hnone m hm hid => ?_⟩
  · obtain ⟨-, c', hc', hid', hcollection⟩ := h.mapping m hm
    rw [← db.ciphers.eq_of_key hc' hc (hid'.trans hid)]
    exact hcollection
  · obtain ⟨c', hc', hid', -, hpersonal⟩ := h.attachments a ha
    rw [db.ciphers.eq_of_key hc' hc (hid'.trans hid)] at hpersonal
    exact horg hpersonal
  · obtain ⟨-, c', hc', hid', k, -, -, horg⟩ := h.mapping m hm
    rw [db.ciphers.eq_of_key hc' hc (hid'.trans hid), hnone] at horg
    cases horg

/-- A placed vault answers every read of its ciphers. -/
theorem Db.VaultPlaced.readable {db : Db} (h : db.VaultPlaced) : CiphersReadable db :=
  ⟨fun c hc horg => (h.unfiled c hc horg).2, fun m hm => (h.mapping m hm).1⟩

/-- **Organization ciphers stay reachable and well placed**: in every state the calls can lead a
placed vault to, in any order, every organization cipher stands in collections of its organization,
without attachments and outside of every folder, and no personal cipher stands in a collection. -/
theorem organizationCiphers_placed {fingerprint : String → String} {db : Db}
    {issued : List String} {moves : List (Move VaultOp Db)} {c : Config Db String}
    (h : db.VaultPlaced)
    (hrun : Run (vaultSystem fingerprint) { state := db, issued := issued } moves c) :
    OrganizationCiphersPlaced c.state :=
  (vault_placed hrun h).organizationCiphers

/-! ### A vault -/

instance (db : Db) : Decidable db.VaultPlaced :=
  decidable_of_iff ((∀ c ∈ db.ciphers.rows, c.organizationId ≠ none →
      ∃ m ∈ db.collectionCiphers.rows, m.cipherId = c.id) ∧
    (∀ m ∈ db.collectionCiphers.rows, m.collectionId ≠ "" ∧
      ∃ c ∈ db.ciphers.rows, c.id = m.cipherId ∧ ∃ k ∈ db.collections.rows,
        k.id = m.collectionId ∧ c.organizationId = some k.organizationId) ∧
    db.AttachmentsPlaced ∧
    ∀ c ∈ db.ciphers.rows, c.organizationId ≠ none → c.FiledNowhere)
    ⟨fun h => ⟨h.1, h.2.1, h.2.2.1, h.2.2.2⟩,
      fun h => ⟨h.mapped, h.mapping, h.attachments, h.unfiled⟩⟩

/-- An organization whose Owner has two collections. -/
def sharingVault : Db where
  users := .singleton { id := "u" }
  organizations := .singleton { id := "o" }
  organizationUsers := ⟨[
    { id := "m", organizationId := "o", userId := some "u", email := "a", status := 2, type := 0 }],
    by decide⟩
  collections := ⟨[{ id := "k1", organizationId := "o" }, { id := "k2", organizationId := "o" }],
    by decide⟩
  collectionUsers := ⟨[
    { collectionId := "k1", organizationUserId := "m", manage := true },
    { collectionId := "k2", organizationUserId := "m", manage := true }], by decide⟩

/-- A cipher is created and shared into both collections, and one of them is deleted. -/
def sharingMoves : List (Move VaultOp Db) :=
  [.request (.createCipher
      { id := "c", userId := "u", folderId := none, type := 1, favorite := false,
        encryptedJson := "2.a", revisionDate := 1, createdAt := 1, deletedAt := none }),
    .request (.sharePersonalCipher
      { userId := "u", id := "c", organizationId := "o", collectionIds := ["k1", "k2"], type := 1,
        favorite := false, encryptedJson := "2.b", cipherKey := none, now := 2,
        expectedRevisionDate := 1 }),
    .request (.deleteCollections
      { userId := "u", organizationId := "o", collectionIds := ["k1"], now := 3 })]

def sharedEnd : Config Db String :=
  (replay (Move.exec (VaultOp.run id) Db.confineVault) (Move.draws fun _ => [])
    { state := sharingVault } sharingMoves).get (by decide +kernel)

theorem organizationCiphers_placed_shared :
    sharedEnd.state.collectionCiphers.rows = [⟨"k2", "c"⟩] ∧
      OrganizationCiphersPlaced sharedEnd.state :=
  ⟨by decide +kernel,
    organizationCiphers_placed (by decide : sharingVault.VaultPlaced)
      (replay_run (Option.some_get _).symm :
        Run (vaultSystem id) { state := sharingVault } sharingMoves sharedEnd)⟩

end HonoWarden
