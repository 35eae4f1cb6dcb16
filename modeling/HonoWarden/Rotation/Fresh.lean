import HonoWarden.Rotation.Outcome

/-!
# Nothing is left of the old generation

The texts of the vault that a rotation writes are all texts of its request, and the request has
none that the vault had before. A device's private key is wrapped by a key the device keeps, so a
rotation leaves it.

* `rotatedValues`: the texts a rotation writes.

Results:
* **`AccountRotated.fresh`**: none of them is a text of the vault before.
-/

namespace HonoWarden

open Relational

/-- The texts of a vault that a rotation writes; they are `currentValues` but for the private keys
of the devices. -/
def rotatedValues (snapshot : UserKeyRotationSnapshot) (cipherValues : List String) : List String :=
  ([snapshot.userKey, snapshot.privateKey] ++
    snapshot.folders.map (fun folder => some folder.encryptedName) ++ cipherValues.map some ++
    (snapshot.attachments.flatMap fun attachment =>
      [some attachment.fileName, some attachment.attachmentKey]) ++
    (snapshot.trustedDevices ++ snapshot.revokedDeviceKeys).flatMap fun device =>
      [device.encryptedUserKey, device.encryptedPublicKey]).reduceOption

/-- A traversal whose every step succeeds. -/
theorem exists_mapM_of_forall {α β : Type} {f : α → Option β} {P : β → Prop} {rows : List α}
    (h : ∀ a ∈ rows, ∃ b, f a = some b ∧ P b) :
    ∃ bs, rows.mapM f = some bs ∧ ∀ b ∈ bs, P b := by
  induction rows with
  | nil => exact ⟨[], rfl, by simp⟩
  | cons a rows ih =>
    obtain ⟨b, hb, hP⟩ := h a List.mem_cons_self
    obtain ⟨bs, hbs, hall⟩ := ih fun a' ha' => h a' (List.mem_cons_of_mem _ ha')
    refine ⟨b :: bs, ?_, List.forall_mem_cons.mpr ⟨hP, hall⟩⟩
    rw [List.mapM_cons, hb, hbs]
    rfl

/-- Every step of a traversal that succeeds. -/
theorem exists_of_mapM {α β : Type} {f : α → Option β} {rows : List α} {bs : List β}
    (h : rows.mapM f = some bs) {a : α} (ha : a ∈ rows) : ∃ b ∈ bs, f a = some b :=
  exists_of_forall₂_right (List.Forall₂.flip (Web.mapM_eq_some_iff_forall₂.mp h)) ha

section Fresh

variable {C : Codec} {fingerprint : String → String} {input : RotateUserKeyGenerationInput}
  {trustedDevices : List UserKeyRotationTrustedDevice} {u u' : User} {db db' : Db}

/-- The rows of the next vault are rewritten rows of this one. -/
theorem exists_item {α β : Type} {mine mine' : α → Prop} [DecidablePred mine'] {key : α → String}
    {itemKey : β → String} {write : β → α → α} {items : List β} {rows rows' : List α}
    (h : List.Forall₂ (Rewritten mine key itemKey write items) rows rows')
    (hmine : ∀ a, mine' a → mine a) {b : α} (hb : b ∈ rows'.filter mine') :
    ∃ a ∈ rows, mine a ∧ ∃ item ∈ items, itemKey item = key a ∧ b = write item a := by
  obtain ⟨hb, hp⟩ := List.mem_filter.mp hb
  obtain ⟨a, ha, hrewritten, hother⟩ := exists_of_forall₂_right h hb
  have hmine : mine a := by
    by_contra hnot
    exact hnot (hother hnot ▸ hmine b (of_decide_eq_true hp))
  exact ⟨a, ha, hmine, hrewritten hmine⟩

/-- The keys of the next vault's devices are those of the request. -/
theorem VaultRotated.device (h : VaultRotated input trustedDevices db db') {d' : Device}
    (hd' : d' ∈ keyedDevices db' input.userId) : ∃ item ∈ trustedDevices,
      d'.encryptedUserKey = some item.encryptedUserKey ∧
      d'.encryptedPublicKey = some item.encryptedPublicKey := by
  obtain ⟨hd', hp⟩ := List.mem_filter.mp hd'
  obtain ⟨huser', hkeyed'⟩ := of_decide_eq_true hp
  obtain ⟨d, -, hd⟩ := exists_of_forall₂_right h.devices hd'
  by_cases huser : d.userId = input.userId
  swap
  · exact absurd (hd.other huser ▸ huser') huser
  by_cases hactive : d.revokedAt = none <;> by_cases hkeyed : d.Keyed
  · obtain ⟨item, hitem, -, rfl⟩ := hd.trusted huser hactive hkeyed
    exact ⟨item, hitem, rfl, rfl⟩
  · rw [hd.active huser hactive hkeyed] at hkeyed'
    exact absurd hkeyed' hkeyed
  · rw [hd.revoked huser hactive, if_pos hkeyed] at hkeyed'
    simp [Device.Keyed, RotateUserKeyGenerationInput.clearDevice] at hkeyed'
  · rw [hd.revoked huser hactive, if_neg hkeyed] at hkeyed'
    exact absurd hkeyed' hkeyed

/-- The attachments of the next vault are of personal ciphers of this one. -/
theorem VaultRotated.personalOf (h : VaultRotated input trustedDevices db db')
    {a : CipherAttachment} (ha : a.PersonalOf db' input.userId) : a.PersonalOf db input.userId := by
  obtain ⟨huser, c', hc', hid, hcipher, horganization⟩ := ha
  obtain ⟨c, hc, hrewritten, hother⟩ := exists_of_forall₂_right h.ciphers hc'
  refine ⟨huser, c, hc, ?_⟩
  by_cases hmine : Cipher.PersonalOf input.userId c
  · obtain ⟨item, -, -, rfl⟩ := hrewritten hmine
    exact ⟨hid, hcipher, horganization⟩
  · obtain rfl := hother hmine
    exact ⟨hid, hcipher, horganization⟩

/-- The ciphers of the next vault are those of the request, as far as their texts go. -/
theorem VaultRotated.cipher (h : VaultRotated input trustedDevices db db')
    (hrotates : RotatesSnapshot C (vaultAt db u) input.request.toUserKeyRotationRequest
      trustedDevices) {c' : Cipher} (hc' : c' ∈ personalCiphers db' input.userId) :
    ∃ c ∈ personalCiphers db input.userId, c'.type = c.type ∧ ∃ cipher ∈ input.request.ciphers,
      cipher.type = c.type ∧ c'.encryptedJson = cipher.encryptedJson := by
  obtain ⟨c, hc, hmine, item, hitem, hkey, rfl⟩ := exists_item h.ciphers (fun _ hp => hp) hc'
  obtain ⟨cipher, hcipher, rfl⟩ := List.mem_map.mp hitem
  obtain ⟨current, hcurrent, hrotated⟩ := hrotates.cipher cipher hcipher
  have hsame : current = c := db.ciphers.eq_of_key (List.mem_filter.mp hcurrent).1 hc
    (hrotated.id.symm.trans hkey)
  exact ⟨c, List.mem_filter.mpr ⟨hc, decide_eq_true hmine⟩, rfl, cipher, hcipher,
    hrotated.type.trans (congrArg Cipher.type hsame), rfl⟩

/-- The texts of the next vault's ciphers are texts of the request. -/
theorem VaultRotated.cipherValues (h : VaultRotated input trustedDevices db db')
    (hid : u.id = input.userId) (hid' : u'.id = input.userId)
    (hrotates : RotatesSnapshot C (vaultAt db u) input.request.toUserKeyRotationRequest
      trustedDevices) {current next : List String}
    (hcurrent : currentCipherValues C (vaultAt db u) = some current)
    (hnext : nextCipherValues C input.request.toUserKeyRotationRequest = some next) :
    ∃ values, currentCipherValues C (vaultAt db' u') = some values ∧
      ∀ value ∈ values, value ∈ next := by
  obtain ⟨lists, hlists, rfl⟩ := Option.map_eq_some_iff.mp hnext
  obtain ⟨olds, holds, -⟩ := Option.map_eq_some_iff.mp hcurrent
  have hstep : ∀ c' ∈ (vaultAt db' u').ciphers, ∃ texts,
      (if c'.type = 1 ∨ c'.type = 2 then
        readUserKeyRotationCiphertextValues C c'.encryptedJson c'.type else none) = some texts ∧
      ∀ value ∈ texts, value ∈ lists.flatten := by
    intro c' hc'
    rw [vaultAt, hid'] at hc'
    obtain ⟨c, hc, htype', cipher, hcipher, htype, hjson⟩ := h.cipher hrotates hc'
    have hc : c ∈ (vaultAt db u).ciphers := by rwa [vaultAt, hid]
    obtain ⟨_, -, hold⟩ := exists_of_mapM holds hc
    obtain ⟨texts, htexts, hread⟩ := exists_of_mapM hlists hcipher
    have hkind : c.type = 1 ∨ c.type = 2 := by
      by_contra hkind
      rw [if_neg hkind] at hold
      cases hold
    refine ⟨texts, ?_, fun value hvalue => List.mem_flatten.mpr ⟨texts, htexts, hvalue⟩⟩
    rw [htype', if_pos hkind, hjson, ← htype]
    exact hread
  obtain ⟨values, hvalues, hall⟩ := exists_mapM_of_forall hstep
  refine ⟨values.flatten, Option.map_eq_some_iff.mpr ⟨values, hvalues, rfl⟩, fun value hvalue => ?_⟩
  obtain ⟨texts, htexts, hvalue⟩ := List.mem_flatten.mp hvalue
  exact hall texts htexts value hvalue

/-- Every text a rotation has written is one of its request. -/
theorem VaultRotated.rotatedValues (h : VaultRotated input trustedDevices db db')
    (hid' : u'.id = input.userId) (huserKey : u'.userKey = some input.request.nextUserKey)
    (hprivateKey : u'.privateKey = some input.request.wrappedPrivateKey)
    {values next : List String} (hvalues : ∀ value ∈ values, value ∈ next) :
    ∀ value ∈ HonoWarden.rotatedValues (vaultAt db' u') values,
      value ∈ nextValues input.request.toUserKeyRotationRequest next trustedDevices := by
  intro value hvalue
  simp only [HonoWarden.rotatedValues, vaultAt, hid', List.reduceOption_mem_iff, List.mem_append,
    List.mem_map, List.mem_flatMap, List.mem_cons, List.not_mem_nil, or_false] at hvalue
  simp only [nextValues, List.mem_append, List.mem_map, List.mem_flatMap, List.mem_cons,
    List.not_mem_nil, or_false]
  rcases hvalue with ((((hkey | hkey) | ⟨f, hf, hname⟩) | ⟨text, htext, heq⟩) | ⟨a, ha, htext⟩) |
    ⟨d, hd, htext⟩
  · rw [huserKey] at hkey
    exact Or.inl (Or.inl (Or.inl (Or.inl (Or.inl (Option.some.inj hkey)))))
  · rw [hprivateKey] at hkey
    exact Or.inl (Or.inl (Or.inl (Or.inl (Or.inr (Option.some.inj hkey)))))
  · obtain ⟨_, -, -, item, hitem, -, rfl⟩ := exists_item h.folders (fun _ hp => hp) hf
    exact Or.inl (Or.inl (Or.inl (Or.inr ⟨item, hitem, Option.some.inj hname⟩)))
  · exact Or.inl (Or.inl (Or.inr (Option.some.inj heq ▸ hvalues text htext)))
  · obtain ⟨_, -, -, item, hitem, -, rfl⟩ :=
      exists_item h.attachments (fun _ hp => h.personalOf hp) ha
    obtain ⟨cipher, hcipher, hitem⟩ := List.mem_flatMap.mp hitem
    obtain ⟨attachment, hattachment, rfl⟩ := List.mem_map.mp hitem
    exact Or.inl (Or.inr ⟨cipher, hcipher, attachment, hattachment,
      htext.imp Option.some.inj Option.some.inj⟩)
  · have hd : d ∈ keyedDevices db' input.userId :=
      hd.elim List.mem_of_mem_filter List.mem_of_mem_filter
    obtain ⟨item, hitem, huser, hpublic⟩ := h.device hd
    rw [huser, hpublic] at htext
    exact Or.inr ⟨item, hitem, htext.imp Option.some.inj Option.some.inj⟩

/-- **Nothing a rotation has written was in the vault before.** -/
theorem AccountRotated.fresh (h : AccountRotated fingerprint input u trustedDevices db db')
    (hid : u.id = input.userId)
    (hrotates : RotatesSnapshot C (vaultAt db u) input.request.toUserKeyRotationRequest
      trustedDevices) :
    ∃ current values, currentCipherValues C (vaultAt db u) = some current ∧
      currentCipherValues C (vaultAt db' (u.settled (input.rotate u))) = some values ∧
      ∀ value ∈ rotatedValues (vaultAt db' (u.settled (input.rotate u))) values,
        value ∉ currentValues (vaultAt db u) current := by
  obtain ⟨current, next, hcurrent, hnext, -, hnew⟩ := hrotates.fresh
  have hid' : (u.settled (input.rotate u)).id = input.userId := (User.settled_id _ _).trans hid
  obtain ⟨values, hvalues, hall⟩ := h.vault.cipherValues hid hid' hrotates hcurrent hnext
  refine ⟨current, values, hcurrent, hvalues, fun value hvalue => hnew value ?_⟩
  exact h.vault.rotatedValues hid' (User.settled_userKey _ _) (User.settled_privateKey _ _) hall
    value hvalue

end Fresh

/-- **A rotation that says so has left nothing of the old generation**: of the texts it writes,
none was a text of the vault it has found. -/
theorem rotateUserKeyGeneration_fresh {C : Codec} {fingerprint : String → String}
    {input : RotateUserKeyGenerationInput} {reads : SnapshotReads} {db db' : Db}
    {values : List Json} {f c a t d r q : Nat}
    (hreads : ∀ value ∈ values, C.jsonParse (C.jsonStringify value) = some value)
    (hparsed : parseUserKeyRotationCiphers C values = some input.request.ciphers)
    (hfresh : ¬ input.Committed db)
    (hrotated : rotateUserKeyGeneration C fingerprint input reads db =
      (db', .ok (.rotated f c a t d r q))) :
    ∃ u u' current next, Db.usersIn.row db input.userId = some u ∧
      Db.usersIn.row db' input.userId = some u' ∧
      currentCipherValues C (vaultAt db u) = some current ∧
      currentCipherValues C (vaultAt db' u') = some next ∧
      ∀ value ∈ rotatedValues (vaultAt db' u') next,
        value ∉ currentValues (vaultAt db u) current := by
  have hdb : (rotateUserKeyGeneration C fingerprint input reads db).1 = db' := by rw [hrotated]
  have hout : (rotateUserKeyGeneration C fingerprint input reads db).2 =
      .ok (.rotated f c a t d r q) := by rw [hrotated]
  rcases @rotateUserKeyGeneration_atomic C fingerprint input reads db values hreads hparsed hfresh
    with ⟨-, hnot⟩ | ⟨u, trustedDevices, hrow, -, hgeneration, hrotates, hdone, -⟩
  · exact absurd hout (hnot f c a t d r q)
  rw [hdb] at hdone
  obtain ⟨current, next, hcurrent, hnext, hnew⟩ := hdone.fresh hgeneration.1 hrotates
  refine ⟨u, _, current, next, hrow, ?_, hcurrent, hnext, hnew⟩
  rw [hdone.users, Function.update_self]

theorem rotateUserKeyGeneration_fresh_one : ∃ db', ∃ u u' current next,
    rotateUserKeyGeneration oneNoteCodec (fun text => text) oneRotation oneReads oneVault =
      (db', .ok (.rotated 1 0 0 1 1 1 1)) ∧
      Db.usersIn.row oneVault oneRotation.userId = some u ∧
      Db.usersIn.row db' oneRotation.userId = some u' ∧
      currentCipherValues oneNoteCodec (vaultAt oneVault u) = some current ∧
      currentCipherValues oneNoteCodec (vaultAt db' u') = some next ∧
      ∀ value ∈ rotatedValues (vaultAt db' u') next,
        value ∉ currentValues (vaultAt oneVault u) current := by
  have hpair {p : Db × Except Failure RotateUserKeyGenerationResult} {result} (h : p.2 = result) :
      ∃ db', p = (db', result) := ⟨p.1, Prod.ext rfl h⟩
  obtain ⟨db', hrotated⟩ := hpair oneRotation_rotated
  obtain ⟨u, u', current, next, hfresh⟩ := @rotateUserKeyGeneration_fresh oneNoteCodec
    (fun text => text) oneRotation oneReads oneVault db' [] 1 0 0 1 1 1 1 (by simp) rfl
    (by decide +kernel) hrotated
  exact ⟨db', u, u', current, next, hrotated, hfresh⟩

end HonoWarden
