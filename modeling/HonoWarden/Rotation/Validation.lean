import HonoWarden.Rotation.Leaves

/-!
# Checking a rotation request against the snapshot

Model of `validateSnapshotAgainstRequest`, `validateSnapshotCiphertextGeneration` and
`resolveTrustedDevices` (`user-key-rotation-repository.ts`).

The loops look up every item of the request in the snapshot, so the request may leave items out;
`readUserKeyRotationSnapshot` compares the counts before. A device is named by its id or by its
identifier.

Results:
* `freshFrom_iff`: the scan accepts exactly the lists of new, distinct texts;
* `resolveTrustedDevices_spec`: each requested device is resolved to a device of its own;
* **`validateSnapshotAgainstRequest_rotates`**: a valid request with as many items as the snapshot
  encrypts each of them again and changes nothing else;
* `validateSnapshotAgainstRequest_partial`: with fewer items it can be valid too.
-/

namespace HonoWarden

/-- `UserKeyRotationFolder`. -/
structure UserKeyRotationFolder where
  id : String
  name : String
  deriving DecidableEq, Repr

/-- `UserKeyRotationTrustedDevice`. -/
structure UserKeyRotationTrustedDevice where
  id : String
  encryptedPublicKey : String
  encryptedUserKey : String
  deriving DecidableEq, Repr

/-- `UserKeyRotationRequest`, as far as the snapshot is concerned. -/
structure UserKeyRotationRequest where
  nextUserKey : String
  /-- `accountKeys.wrappedPrivateKey`. -/
  wrappedPrivateKey : String
  folders : List UserKeyRotationFolder := []
  ciphers : List UserKeyRotationCipherRequest := []
  trustedDevices : List UserKeyRotationTrustedDevice := []
  deriving DecidableEq, Repr

/-- `UserKeyRotationSnapshot`; the rows of the account, and from its summary the two keys. -/
structure UserKeyRotationSnapshot where
  userKey : Option String
  privateKey : Option String
  folders : List Folder := []
  ciphers : List Cipher := []
  attachments : List CipherAttachment := []
  trustedDevices : List Device := []
  revokedDeviceKeys : List Device := []
  deriving DecidableEq, Repr

/-- An attachment of the request, with the cipher it is listed under. -/
structure RequestedAttachment extends UserKeyRotationAttachment where
  cipherId : String
  deriving DecidableEq, Repr

def UserKeyRotationRequest.requestedAttachments (request : UserKeyRotationRequest) :
    List RequestedAttachment :=
  request.ciphers.flatMap fun cipher =>
    cipher.attachments.map fun attachment => { attachment with cipherId := cipher.id }

/-! ## Trusted devices -/

/-- The loop of `resolveTrustedDevices`. -/
def resolveTrustedDevicesFrom (current : List Device) :
    List String → List UserKeyRotationTrustedDevice → Option (List UserKeyRotationTrustedDevice)
  | _, [] => some []
  | seenIds, device :: requested =>
    match current.filter fun candidate =>
        candidate.id = device.id ∨ candidate.identifier = device.id with
    | [found] =>
      if found.id ∈ seenIds then none
      else (resolveTrustedDevicesFrom current (found.id :: seenIds) requested).map
        ({ device with id := found.id } :: ·)
    | _ => none

def resolveTrustedDevices (current : List Device) (requested : List UserKeyRotationTrustedDevice) :
    Option (List UserKeyRotationTrustedDevice) :=
  resolveTrustedDevicesFrom current [] requested

/-! ## Fresh ciphertexts -/

/-- What `validateSnapshotCiphertextGeneration` returns. -/
inductive CiphertextGeneration where
  | valid
  | storedInvalid
  | conflict
  deriving DecidableEq, Repr

/-- The last loop of `validateSnapshotCiphertextGeneration`. -/
def freshFrom (oldGeneration : List String) : List String → List String → Bool
  | _, [] => true
  | nextGeneration, value :: values =>
    !oldGeneration.contains value && !nextGeneration.contains value &&
      freshFrom oldGeneration (value :: nextGeneration) values

section Values

variable (C : Codec)

def readUserKeyRotationCiphertextValues (encryptedJson : String) (type : Int) :
    Option (List String) :=
  (parseCipherEncryptedValues C encryptedJson type).map List.reduceOption

def currentCipherValues (snapshot : UserKeyRotationSnapshot) : Option (List String) :=
  (snapshot.ciphers.mapM fun cipher =>
    if cipher.type = 1 ∨ cipher.type = 2 then
      readUserKeyRotationCiphertextValues C cipher.encryptedJson cipher.type
    else none).map List.flatten

def nextCipherValues (request : UserKeyRotationRequest) : Option (List String) :=
  (request.ciphers.mapM fun cipher =>
    readUserKeyRotationCiphertextValues C cipher.encryptedJson cipher.type).map List.flatten

/-- Every ciphertext the account has; an empty text is none. -/
def currentValues (snapshot : UserKeyRotationSnapshot) (cipherValues : List String) :
    List String :=
  ([snapshot.userKey, snapshot.privateKey] ++
    snapshot.folders.map (fun folder => some folder.encryptedName) ++ cipherValues.map some ++
    (snapshot.attachments.flatMap fun attachment =>
      [some attachment.fileName, some attachment.attachmentKey]) ++
    (snapshot.trustedDevices ++ snapshot.revokedDeviceKeys).flatMap fun device =>
      [device.encryptedUserKey, device.encryptedPublicKey, device.encryptedPrivateKey]
  ).reduceOption.filter (· ≠ "")

/-- Every ciphertext of the request. -/
def nextValues (request : UserKeyRotationRequest) (cipherValues : List String)
    (trustedDevices : List UserKeyRotationTrustedDevice) : List String :=
  [request.nextUserKey, request.wrappedPrivateKey] ++
    request.folders.map UserKeyRotationFolder.name ++ cipherValues ++
    (request.ciphers.flatMap fun cipher => cipher.attachments.flatMap fun attachment =>
      [attachment.fileName, attachment.attachmentKey]) ++
    trustedDevices.flatMap fun device => [device.encryptedUserKey, device.encryptedPublicKey]

def validateSnapshotCiphertextGeneration (snapshot : UserKeyRotationSnapshot)
    (request : UserKeyRotationRequest) (trustedDevices : List UserKeyRotationTrustedDevice) :
    CiphertextGeneration :=
  match currentCipherValues C snapshot, nextCipherValues C request with
  | none, _ => .storedInvalid
  | some _, none => .conflict
  | some current, some next =>
    if freshFrom (currentValues snapshot current) [] (nextValues request next trustedDevices) then
      .valid
    else .conflict

end Values

/-! ## The loops -/

section Loops

variable (userId : String) (snapshot : UserKeyRotationSnapshot)

/-- One pass of the folder loop. The revision date of a folder is never empty. -/
def checkFolder (folder : UserKeyRotationFolder) : Bool :=
  (snapshot.folders.find? fun current => current.id = folder.id).any fun current =>
    current.userId = userId ∧ current.encryptedName ≠ folder.name

/-- One pass of the attachment loop. -/
def checkAttachment (attachment : RequestedAttachment) : Bool :=
  (snapshot.attachments.find? fun current => current.id = attachment.id).any fun current =>
    current.userId = userId ∧ current.cipherId = attachment.cipherId ∧
      (snapshot.ciphers.find? fun cipher => cipher.id = attachment.cipherId).map
        Cipher.revisionDate = some attachment.lastKnownRevisionDate ∧
      current.objectKey ≠ "" ∧ current.size ≤ maxSafeInteger ∧
      current.contentType.any (· ≠ "") ∧ current.fileName ≠ attachment.fileName ∧
      current.attachmentKey ≠ attachment.attachmentKey

/-- One pass of the device loop. -/
def checkTrustedDevice (device : UserKeyRotationTrustedDevice) : Bool :=
  (snapshot.trustedDevices.find? fun current => current.id = device.id).any fun current =>
    current.userId = userId ∧ current.encryptedPrivateKey.any (· ≠ "") ∧
      current.encryptedPublicKey ≠ some device.encryptedPublicKey ∧
      current.encryptedUserKey ≠ some device.encryptedUserKey

end Loops

/-- `validateSnapshotAgainstRequest`. -/
inductive SnapshotValidation where
  | valid (trustedDevices : List UserKeyRotationTrustedDevice)
  | conflict
  | storedCipherInvalid
  deriving DecidableEq, Repr

/-- No two rows of the snapshot and no two items of the request have the same id. -/
@[mk_iff]
structure UniqueIds (snapshot : UserKeyRotationSnapshot) (request : UserKeyRotationRequest) :
    Prop where
  requestFolders : (request.folders.map UserKeyRotationFolder.id).Nodup
  requestCiphers : (request.ciphers.map fun cipher => cipher.id).Nodup
  requestDevices : (request.trustedDevices.map UserKeyRotationTrustedDevice.id).Nodup
  folders : (snapshot.folders.map Folder.id).Nodup
  ciphers : (snapshot.ciphers.map Cipher.id).Nodup
  attachments : (snapshot.attachments.map CipherAttachment.id).Nodup
  devices : ((snapshot.trustedDevices ++ snapshot.revokedDeviceKeys).map Device.id).Nodup

instance (snapshot : UserKeyRotationSnapshot) (request : UserKeyRotationRequest) :
    Decidable (UniqueIds snapshot request) :=
  decidable_of_iff' _ (uniqueIds_iff snapshot request)

section Validate

variable (C : Codec) (userId : String)

def validateSnapshotAgainstRequest (snapshot : UserKeyRotationSnapshot)
    (request : UserKeyRotationRequest) : SnapshotValidation :=
  if ¬ UniqueIds snapshot request then .conflict
  else
    match resolveTrustedDevices snapshot.trustedDevices request.trustedDevices with
    | none => .conflict
    | some trustedDevices =>
      if request.folders.all (checkFolder userId snapshot) = false then .conflict
      else
        let folderIds := request.folders.map UserKeyRotationFolder.id
        -- The loop stops at the first cipher that does not pass.
        match request.ciphers.findSome? fun cipher =>
            match checkCipher C userId folderIds snapshot.ciphers cipher.toUserKeyRotationCipher with
            | .passes => none
            | failure => some failure with
        | some .storedCipherInvalid => .storedCipherInvalid
        | some _ => .conflict
        | none =>
          if ¬ (request.requestedAttachments.map fun attachment => attachment.id).Nodup ∨
              request.requestedAttachments.all (checkAttachment userId snapshot) = false ∨
              trustedDevices.all (checkTrustedDevice userId snapshot) = false then .conflict
          else
            match validateSnapshotCiphertextGeneration C snapshot request trustedDevices with
            | .storedInvalid => .storedCipherInvalid
            | .conflict => .conflict
            | .valid => .valid trustedDevices

end Validate

/-! ## What the loops accept -/

/-- **The scan accepts exactly the lists of new, distinct texts.** -/
theorem freshFrom_iff {oldGeneration : List String} (values : List String) :
    ∀ nextGeneration : List String, freshFrom oldGeneration nextGeneration values = true ↔
      (∀ value ∈ values, value ∉ oldGeneration ∧ value ∉ nextGeneration) ∧ values.Nodup := by
  induction values with
  | nil => simp [freshFrom]
  | cons value values ih =>
    intro nextGeneration
    simp only [freshFrom, Bool.and_eq_true, Bool.not_eq_true', List.contains_eq_mem,
      decide_eq_false_iff_not, ih, List.mem_cons, not_or, forall_eq_or_imp, List.nodup_cons]
    constructor
    · rintro ⟨⟨hold, hnext⟩, hfresh, hnodup⟩
      exact ⟨⟨⟨hold, hnext⟩, fun v hv => ⟨(hfresh v hv).1, (hfresh v hv).2.2⟩⟩,
        fun hmem => (hfresh value hmem).2.1 rfl, hnodup⟩
    · rintro ⟨⟨hhead, hfresh⟩, hnotMem, hnodup⟩
      refine ⟨hhead, fun v hv => ⟨(hfresh v hv).1, ?_, (hfresh v hv).2⟩, hnodup⟩
      rintro rfl
      exact hnotMem hv

/-- A device of the request under the id of the row it names. -/
def Resolves (current : List Device) (device resolved : UserKeyRotationTrustedDevice) : Prop :=
  ∃ row ∈ current, (row.id = device.id ∨ row.identifier = device.id) ∧
    resolved = { device with id := row.id }

theorem resolveTrustedDevicesFrom_spec {current : List Device} :
    ∀ {requested resolved : List UserKeyRotationTrustedDevice} {seenIds : List String},
      resolveTrustedDevicesFrom current seenIds requested = some resolved →
      List.Forall₂ (Resolves current) requested resolved ∧
        (resolved.map UserKeyRotationTrustedDevice.id).Nodup ∧
        ∀ device ∈ resolved, device.id ∉ seenIds
  | [], _, _, h => by
    obtain rfl := Option.some.inj h
    exact ⟨.nil, List.nodup_nil, by simp⟩
  | device :: requested, resolved, seenIds, h => by
    unfold resolveTrustedDevicesFrom at h
    split at h
    · next row hrow =>
      split_ifs at h with hseen
      obtain ⟨rest, hrest, rfl⟩ := Option.map_eq_some_iff.mp h
      obtain ⟨hresolves, hnodup, hunseen⟩ := resolveTrustedDevicesFrom_spec hrest
      have hmem : row ∈ current.filter fun candidate =>
          candidate.id = device.id ∨ candidate.identifier = device.id := by
        rw [hrow]
        exact List.mem_singleton_self row
      obtain ⟨hcurrent, hnamed⟩ := List.mem_filter.mp hmem
      refine ⟨.cons ⟨row, hcurrent, of_decide_eq_true hnamed, rfl⟩ hresolves, ?_, ?_⟩
      · rw [List.map_cons, List.nodup_cons]
        refine ⟨fun hid => ?_, hnodup⟩
        obtain ⟨other, hother, heq⟩ := List.mem_map.mp hid
        exact hunseen other hother (heq ▸ List.mem_cons_self)
      · intro other hother
        rcases List.mem_cons.mp hother with rfl | hother
        · exact hseen
        · exact fun hmem => hunseen other hother (List.mem_cons_of_mem _ hmem)
    · cases h

/-- What a resolved device names is a device of the account. -/
theorem exists_of_resolves {current : List Device}
    {requested resolved : List UserKeyRotationTrustedDevice}
    (h : List.Forall₂ (Resolves current) requested resolved) :
    ∀ device ∈ resolved, ∃ row ∈ current, row.id = device.id := by
  induction h with
  | nil =>
    intro device hdevice
    cases hdevice
  | cons hresolves _ ih =>
    intro device hdevice
    rcases List.mem_cons.mp hdevice with rfl | hdevice
    · obtain ⟨row, hrow, -, rfl⟩ := hresolves
      exact ⟨row, hrow, rfl⟩
    · exact ih device hdevice

/-- **Each requested device is resolved to a device of its own.** -/
theorem resolveTrustedDevices_spec {current : List Device}
    {requested resolved : List UserKeyRotationTrustedDevice}
    (h : resolveTrustedDevices current requested = some resolved) :
    List.Forall₂ (Resolves current) requested resolved ∧
      (resolved.map UserKeyRotationTrustedDevice.id).Nodup := by
  obtain ⟨hresolves, hnodup, -⟩ := resolveTrustedDevicesFrom_spec h
  exact ⟨hresolves, hnodup⟩


section Valid

variable {C : Codec} {userId : String} {snapshot : UserKeyRotationSnapshot}
  {request : UserKeyRotationRequest} {trustedDevices : List UserKeyRotationTrustedDevice}

/-- Everything a valid request has passed. -/
theorem validateSnapshotAgainstRequest_eq_valid
    (h : validateSnapshotAgainstRequest C userId snapshot request = .valid trustedDevices) :
    UniqueIds snapshot request ∧
      resolveTrustedDevices snapshot.trustedDevices request.trustedDevices = some trustedDevices ∧
      (∀ folder ∈ request.folders, checkFolder userId snapshot folder = true) ∧
      (∀ cipher ∈ request.ciphers, checkCipher C userId
        (request.folders.map UserKeyRotationFolder.id) snapshot.ciphers
        cipher.toUserKeyRotationCipher = .passes) ∧
      (request.requestedAttachments.map fun attachment => attachment.id).Nodup ∧
      (∀ attachment ∈ request.requestedAttachments,
        checkAttachment userId snapshot attachment = true) ∧
      validateSnapshotCiphertextGeneration C snapshot request trustedDevices = .valid := by
  by_cases hunique : UniqueIds snapshot request
  · rw [validateSnapshotAgainstRequest, if_neg (not_not.mpr hunique)] at h
    split at h
    · cases h
    · next resolved hresolved =>
      by_cases hfolders : request.folders.all (checkFolder userId snapshot) = false
      · rw [if_pos hfolders] at h
        cases h
      · rw [if_neg hfolders] at h
        dsimp only at h
        split at h
        · cases h
        · cases h
        · next hciphers =>
          split_ifs at h with hloops
          split at h
          · cases h
          · cases h
          · next hgeneration =>
            cases h
            simp only [not_or, Classical.not_not, Bool.not_eq_false, List.all_eq_true] at hloops
            refine ⟨hunique, hresolved, List.all_eq_true.mp (eq_true_of_ne_false hfolders),
              fun cipher hcipher => ?_, hloops.1, hloops.2.1, hgeneration⟩
            have hpasses := List.findSome?_eq_none_iff.mp hciphers cipher hcipher
            split at hpasses
            · assumption
            · cases hpasses
  · rw [validateSnapshotAgainstRequest, if_pos hunique] at h
    cases h

theorem validateSnapshotCiphertextGeneration_eq_valid
    (h : validateSnapshotCiphertextGeneration C snapshot request trustedDevices = .valid) :
    ∃ current next, currentCipherValues C snapshot = some current ∧
      nextCipherValues C request = some next ∧
      (nextValues request next trustedDevices).Nodup ∧
      ∀ value ∈ nextValues request next trustedDevices, value ∉ currentValues snapshot current := by
  unfold validateSnapshotCiphertextGeneration at h
  split at h
  · cases h
  · cases h
  · next current next hcurrent hnext =>
    split_ifs at h with hfresh
    obtain ⟨hnew, hnodup⟩ := (freshFrom_iff _ _).mp hfresh
    exact ⟨current, next, hcurrent, hnext, hnodup, fun value hvalue => (hnew value hvalue).1⟩

end Valid

/-! ## Ciphers -/

/-- The request encrypts the row again and changes nothing else, neither in its columns nor in its
payload. -/
structure RotatesCipher (C : Codec) (current : Cipher) (cipher : UserKeyRotationCipher) :
    Prop where
  id : cipher.id = current.id
  type : cipher.type = current.type
  folderId : cipher.folderId = current.folderId
  favorite : cipher.favorite = current.favorite
  payload : ∃ stored ∈ readStored C current.encryptedJson current.type, ∃ value,
    (C.jsonParse cipher.encryptedJson).bind Json.fields? = some value ∧
      cipher.ReadFrom C value ∧
      stored.type = cipher.type ∧ stored.folderId = cipher.folderId ∧
      stored.favorite = cipher.favorite ∧ stored.reprompt = cipher.reprompt ∧
      stored.archivedDate = cipher.archivedDate ∧ stored.metadata = cipher.metadata ∧
      ∃ old new, readCipherLeaves stored.value current.type = some old ∧
        readCipherLeaves value cipher.type = some new ∧ SameLeaves old new

theorem readStored_metadata {C : Codec} {encryptedJson : String} {cipherType : Int}
    {stored : StoredCipher} (h : readStored C encryptedJson cipherType = some stored) :
    buildCipherMetadata C stored.value cipherType = some stored.metadata := by
  simp only [readStored, bind, Option.bind_eq_some_iff] at h
  obtain ⟨value, -, type, -, folderId, -, _, -, favorite, -, reprompt, -, archivedDate, -,
    metadata, hmetadata, _, -, hstored⟩ := h
  cases hstored
  exact hmetadata

/-- **A cipher that matches has the leaves of the stored one**, one for one. -/
theorem StoredCipher.Matches.sameLeaves {C : Codec} {stored : StoredCipher}
    {cipher : UserKeyRotationCipher} {value : Fields} (h : stored.Matches C cipher)
    (htype : cipher.type = 1 ∨ cipher.type = 2)
    (hstored : buildCipherMetadata C stored.value cipher.type = some stored.metadata)
    (hvalue : (C.jsonParse cipher.encryptedJson).bind Json.fields? = some value)
    (hread : cipher.ReadFrom C value) :
    ∃ old new, readCipherLeaves stored.value cipher.type = some old ∧
      readCipherLeaves value cipher.type = some new ∧ SameLeaves old new := by
  obtain ⟨⟨rotated, hrotated, current, hcurrent, hfresh⟩, -, -, -, -, -, hmetadata⟩ := h
  unfold parseCipherEncryptedValues at hrotated
  rw [hvalue] at hrotated
  obtain ⟨new, hnew, rfl⟩ := buildCipherEncryptedValues_leaves hrotated
  obtain ⟨old, hold, rfl⟩ := buildCipherEncryptedValues_leaves hcurrent
  have hsizes := readCipherLeaves_sizes htype hold hstored
  rw [hmetadata] at hsizes
  exact ⟨old, new, hold, hnew, sameLeaves_of_values hsizes
    (readCipherLeaves_sizes htype hnew hread.metadata) (allEncryptedValuesRewrapped_iff.mp hfresh).shape⟩

/-- **A cipher that passes is rotated.** -/
theorem rotatesCipher_of_passes {C : Codec} {userId : String} {folderIds : List String}
    {ciphers : List Cipher} {cipher : UserKeyRotationCipher}
    (h : checkCipher C userId folderIds ciphers cipher = .passes) (hdescribes : cipher.Describes C) :
    ∃ current ∈ ciphers, RotatesCipher C current cipher := by
  unfold checkCipher at h
  split at h
  · cases h
  · next current hcurrent =>
    split_ifs at h with hdiffers
    split at h
    · cases h
    · cases h
    · next hmatches =>
      simp only [not_or, ne_eq, Classical.not_not] at hdiffers
      obtain ⟨-, -, -, hfolder, -, htype, hfavorite, -⟩ := hdiffers
      unfold classifyStoredUserKeyRotationCipherMetadata at hmatches
      split at hmatches
      · cases hmatches
      · next stored hstored =>
        split_ifs at hmatches with hmatch
        obtain ⟨hkind, value, hvalue, hread⟩ := hdescribes
        obtain ⟨old, new, hold, hnew, hsame⟩ :=
          hmatch.sameLeaves hkind (readStored_metadata hstored) hvalue hread
        refine ⟨current, List.mem_of_find?_eq_some hcurrent, ?_⟩
        obtain ⟨-, hstype, hsfolder, hsfavorite, hsreprompt, hsarchived, hsmetadata⟩ := hmatch
        exact
          { id := by simpa [eq_comm] using List.find?_some hcurrent
            type := htype.symm
            folderId := hfolder.symm
            favorite := hfavorite.symm
            payload := ⟨stored, htype ▸ hstored, value, hvalue, hread, hstype, hsfolder,
              hsfavorite, hsreprompt, hsarchived, hsmetadata, old, new, htype ▸ hold, hnew,
              hsame⟩ }


/-! ## The whole request -/

/-- What `readUserKeyRotationSnapshot` compares before it returns the snapshot. -/
structure SameCounts (snapshot : UserKeyRotationSnapshot) (request : UserKeyRotationRequest) :
    Prop where
  folders : snapshot.folders.length = request.folders.length
  ciphers : snapshot.ciphers.length = request.ciphers.length
  attachments : snapshot.attachments.length = request.requestedAttachments.length
  devices : snapshot.trustedDevices.length = request.trustedDevices.length

/-- The request encrypts every item of the snapshot again, each once, and every text of it is
fresh. -/
structure RotatesSnapshot (C : Codec) (snapshot : UserKeyRotationSnapshot)
    (request : UserKeyRotationRequest) (trustedDevices : List UserKeyRotationTrustedDevice) :
    Prop where
  ids : UniqueIds snapshot request
  folders : (request.folders.map UserKeyRotationFolder.id).Perm (snapshot.folders.map Folder.id)
  ciphers : (request.ciphers.map fun cipher => cipher.id).Perm (snapshot.ciphers.map Cipher.id)
  attachments : (request.requestedAttachments.map fun a => (a.cipherId, a.id)).Perm
    (snapshot.attachments.map fun a => (a.cipherId, a.id))
  resolved : List.Forall₂ (Resolves snapshot.trustedDevices) request.trustedDevices trustedDevices
  devices : (trustedDevices.map UserKeyRotationTrustedDevice.id).Perm
    (snapshot.trustedDevices.map Device.id)
  cipher : ∀ cipher ∈ request.ciphers, ∃ current ∈ snapshot.ciphers,
    RotatesCipher C current cipher.toUserKeyRotationCipher
  fresh : ∃ current next, currentCipherValues C snapshot = some current ∧
    nextCipherValues C request = some next ∧ (nextValues request next trustedDevices).Nodup ∧
    ∀ value ∈ nextValues request next trustedDevices, value ∉ currentValues snapshot current

section Counts

/-- Distinct keys that all occur among as many keys are a permutation of them. -/
theorem perm_of_same_count {α β κ : Type} [DecidableEq κ] {items : List α} {rows : List β}
    {key : α → κ} {rowKey : β → κ} (hnodup : (items.map key).Nodup)
    (hfound : ∀ item ∈ items, ∃ row ∈ rows, rowKey row = key item)
    (hcount : rows.length = items.length) : (items.map key).Perm (rows.map rowKey) := by
  have hsubset : items.map key ⊆ rows.map rowKey := by
    intro k hk
    obtain ⟨item, hitem, rfl⟩ := List.mem_map.mp hk
    obtain ⟨row, hrow, heq⟩ := hfound item hitem
    exact List.mem_map.mpr ⟨row, hrow, heq⟩
  refine (List.subperm_of_subset hnodup hsubset).perm_of_length_le ?_
  rw [List.length_map, List.length_map, hcount]

/-- A row that is looked up and checked. -/
theorem exists_of_find?_any {α : Type} {rows : List α} {p q : α → Bool}
    (h : (rows.find? p).any q = true) : ∃ row ∈ rows, p row = true ∧ q row = true := by
  obtain ⟨row, hrow, hq⟩ := (Option.any_eq_true _ _).mp h
  exact ⟨row, List.mem_of_find?_eq_some hrow, List.find?_some hrow, hq⟩

end Counts

/-- **A valid request rotates the snapshot**: the ciphers are as the parser builds them, and the
counts are those of the snapshot. -/
theorem validateSnapshotAgainstRequest_rotates {C : Codec} {userId : String} {values : List Json}
    {snapshot : UserKeyRotationSnapshot} {request : UserKeyRotationRequest}
    {trustedDevices : List UserKeyRotationTrustedDevice}
    (hreads : ∀ value ∈ values, C.jsonParse (C.jsonStringify value) = some value)
    (hparsed : parseUserKeyRotationCiphers C values = some request.ciphers)
    (hcounts : SameCounts snapshot request)
    (hvalid : validateSnapshotAgainstRequest C userId snapshot request = .valid trustedDevices) :
    RotatesSnapshot C snapshot request trustedDevices := by
  obtain ⟨hunique, hresolved, hfolders, hciphers, hattachmentIds, hattachments, hgeneration⟩ :=
    validateSnapshotAgainstRequest_eq_valid hvalid
  obtain ⟨hresolves, hdevices⟩ := resolveTrustedDevices_spec hresolved
  have hrotates : ∀ cipher ∈ request.ciphers, ∃ current ∈ snapshot.ciphers,
      RotatesCipher C current cipher.toUserKeyRotationCipher := fun cipher hcipher =>
    rotatesCipher_of_passes (hciphers cipher hcipher)
      (parseUserKeyRotationCiphers_describes hreads hparsed cipher hcipher)
  refine
    { ids := hunique
      folders := perm_of_same_count hunique.requestFolders (fun folder hfolder => ?_)
        hcounts.folders
      ciphers := perm_of_same_count hunique.requestCiphers (fun cipher hcipher => ?_)
        hcounts.ciphers
      attachments := perm_of_same_count ?_ (fun attachment hattachment => ?_) hcounts.attachments
      resolved := hresolves
      devices := perm_of_same_count hdevices (fun device hdevice => ?_)
        (hcounts.devices.trans hresolves.length_eq)
      cipher := hrotates
      fresh := validateSnapshotCiphertextGeneration_eq_valid hgeneration }
  · obtain ⟨row, hrow, hid, -⟩ := exists_of_find?_any (hfolders folder hfolder)
    exact ⟨row, hrow, of_decide_eq_true hid⟩
  · obtain ⟨current, hcurrent, hrotated⟩ := hrotates cipher hcipher
    exact ⟨current, hcurrent, hrotated.id.symm⟩
  · refine List.Nodup.of_map Prod.snd ?_
    rw [List.map_map]
    exact hattachmentIds
  · obtain ⟨row, hrow, hid, hchecked⟩ := exists_of_find?_any (hattachments attachment hattachment)
    have hcipher := (of_decide_eq_true hchecked).2.1
    exact ⟨row, hrow, Prod.ext hcipher (of_decide_eq_true hid)⟩
  · exact exists_of_resolves hresolves device hdevice


/-! ### One of each -/

section One

def oneOwnerId : String := "33333333-3333-4333-8333-333333333333"

def oneFolderId : String := "11111111-1111-4111-8111-111111111111"

def oneCipherId : String := "22222222-2222-4222-8222-222222222222"

def oneDeviceId : String := "55555555-5555-4555-8555-555555555555"

/-- The payload the note is stored with. -/
def oldNote : Json :=
  .object
    [("type", .number 2), ("name", .string "2.name"), ("folderId", .string oneFolderId),
      ("secureNote", .object [("type", .number 0)])]

/-- The note in the request. -/
def newNote : Json :=
  .object
    [("id", .string oneCipherId), ("encryptedFor", .string oneOwnerId), ("type", .number 2),
      ("name", .string "2.next-name"), ("folderId", .string oneFolderId), ("favorite", .bool false),
      ("reprompt", .number 0), ("lastKnownRevisionDate", .string "1970-01-01T00:00:00.004Z"),
      ("secureNote", .object [("type", .number 0)])]

/-- A codec that knows the two payloads and one instant. -/
def oneNoteCodec : Codec where
  dateParse text := if text = "1970-01-01T00:00:00.004Z" then some 4 else none
  jsonParse text :=
    if text = oldNote.plainText then some oldNote
    else if text = newNote.plainText then some newNote
    else none
  jsonStringify := Json.plainText
  toISOString _ := "1970-01-01T00:00:00.004Z"

def oneSnapshot : UserKeyRotationSnapshot where
  userKey := some "2.user-key"
  privateKey := some "2.private-key"
  folders := [{ id := oneFolderId, userId := oneOwnerId, encryptedName := "2.folder" }]
  ciphers := [
    { id := oneCipherId, userId := oneOwnerId, folderId := oneFolderId, type := 2, revisionDate := 4
      encryptedJson := oldNote.plainText }]
  trustedDevices := [
    { id := oneDeviceId, userId := oneOwnerId, identifier := "laptop"
      encryptedUserKey := some "4.user", encryptedPublicKey := some "2.public"
      encryptedPrivateKey := some "2.private" }]

/-- The note as it is parsed. -/
def oneCipher : UserKeyRotationCipherRequest where
  id := oneCipherId
  encryptedFor := oneOwnerId
  folderId := oneFolderId
  type := 2
  favorite := false
  reprompt := 0
  archivedDate := none
  lastKnownRevisionDate := 4
  metadata := ⟨none, some 0, [], []⟩
  encryptedJson := newNote.plainText
  attachments := []

def oneRequest : UserKeyRotationRequest where
  nextUserKey := "2.next-user-key"
  wrappedPrivateKey := "2.next-private-key"
  folders := [{ id := oneFolderId, name := "2.next-folder" }]
  ciphers := [oneCipher]
  trustedDevices := [
    { id := "laptop", encryptedPublicKey := "2.next-public", encryptedUserKey := "4.next-user" }]

def oneTrustedDevice : UserKeyRotationTrustedDevice where
  id := oneDeviceId
  encryptedPublicKey := "2.next-public"
  encryptedUserKey := "4.next-user"

theorem oneRequest_valid :
    validateSnapshotAgainstRequest oneNoteCodec oneOwnerId oneSnapshot oneRequest =
      .valid [oneTrustedDevice] := by
  decide +kernel

theorem oneRequest_counts : SameCounts oneSnapshot oneRequest where
  folders := rfl
  ciphers := rfl
  attachments := rfl
  devices := rfl

theorem validateSnapshotAgainstRequest_rotates_one :
    RotatesSnapshot oneNoteCodec oneSnapshot oneRequest [oneTrustedDevice] := by
  have hparsed : parseUserKeyRotationCiphers oneNoteCodec [newNote] = some [oneCipher] := by
    decide +kernel
  refine validateSnapshotAgainstRequest_rotates (fun value hvalue => ?_) hparsed
    oneRequest_counts oneRequest_valid
  obtain rfl := List.mem_singleton.mp hvalue
  have hdiffers : newNote.plainText ≠ oldNote.plainText := by decide +kernel
  dsimp only [oneNoteCodec]
  rw [if_neg hdiffers, if_pos rfl]

/-- An account with a folder, and a request that leaves it out. -/
def folderSnapshot : UserKeyRotationSnapshot where
  userKey := some "2.user-key"
  privateKey := some "2.private-key"
  folders := [{ id := oneFolderId, userId := oneOwnerId, encryptedName := "2.folder" }]

/-- **A valid request can leave items out**; the counts are compared elsewhere. -/
theorem validateSnapshotAgainstRequest_partial :
    ¬ ∀ (C : Codec) (userId : String) (values : List Json) (snapshot : UserKeyRotationSnapshot)
      (request : UserKeyRotationRequest) (trustedDevices : List UserKeyRotationTrustedDevice),
      (∀ value ∈ values, C.jsonParse (C.jsonStringify value) = some value) →
      parseUserKeyRotationCiphers C values = some request.ciphers →
      validateSnapshotAgainstRequest C userId snapshot request = .valid trustedDevices →
      RotatesSnapshot C snapshot request trustedDevices := by
  intro h
  have hrotates := h oneNoteCodec oneOwnerId [] folderSnapshot
    { nextUserKey := "2.next-user-key", wrappedPrivateKey := "2.next-private-key" } []
    (by simp) rfl (by decide +kernel)
  exact absurd hrotates.folders (by decide +kernel)

end One

end HonoWarden
