import HonoWarden.Rotation.Input

/-!
# Ciphers of a key rotation

Model of the stored side of `user-key-rotation-cipher.ts`, and of the cipher loop of
`validateSnapshotAgainstRequest` (`user-key-rotation-repository.ts`).

A rotation replaces the ciphertexts of a cipher and leaves everything else. What everything else is
comes from the stored payload itself: `readStored` reads its type, folder, favorite flag, reprompt
flag, archive date and metadata, and `classifyStoredUserKeyRotationCipherMetadata` compares them
with the request. The loop compares the request with the columns of the row as well.

Results:
* `allEncryptedValuesRewrapped_iff`: the scan accepts exactly the lists that replace every
  ciphertext by a fresh one;
* `classify_of_faithful`: a faithful request is classified by the copies in the payload alone.
-/

namespace HonoWarden

open Relational

/-! ## Types -/

structure UserKeyRotationLoginMetadata where
  passwordRevisionDate : Option String
  autofillOnPageLoad : Option Bool
  uriMatches : List (Option Int)
  fido2CreationDates : List (Option String)
  deriving DecidableEq, Repr

structure UserKeyRotationFieldMetadata where
  type : Option Int
  linkedId : Option Int
  deriving DecidableEq, Repr

structure UserKeyRotationCipherMetadata where
  login : Option UserKeyRotationLoginMetadata
  secureNoteType : Option Int
  fields : List UserKeyRotationFieldMetadata
  passwordHistoryDates : List (Option String)
  deriving DecidableEq, Repr

/-- `UserKeyRotationCipher`, without its attachments. -/
structure UserKeyRotationCipher where
  id : String
  encryptedFor : String
  organizationId : Option String := none
  folderId : Option String
  type : Int
  favorite : Bool
  reprompt : Int
  archivedDate : Option String
  lastKnownRevisionDate : Timestamp
  metadata : UserKeyRotationCipherMetadata
  encryptedJson : String
  deriving DecidableEq, Repr

/-- `StoredUserKeyRotationCipherMetadataStatus`. -/
inductive StoredCipherStatus where
  | matches
  | mismatch
  | invalid
  deriving DecidableEq, Repr

/-! ## The fields of a payload -/

def loginFields : List String :=
  ["uris", "username", "password", "passwordRevisionDate", "totp", "autofillOnPageLoad",
    "fido2Credentials"]

def uriFields : List String := ["uri", "match", "uriChecksum"]

def fieldFields : List String := ["type", "name", "value", "linkedId"]

def passwordHistoryFields : List String := ["lastUsedDate", "password"]

def secureNoteFields : List String := ["type"]

def fido2CredentialFields : List String :=
  ["credentialId", "keyType", "keyAlgorithm", "keyCurve", "keyValue", "rpId", "rpName", "counter",
    "userHandle", "userName", "userDisplayName", "discoverable", "creationDate"]

/-- An opaque field of a payload, at the length all of them have. -/
def opaqueField (object : Fields) (name : String) : Option (Option String) :=
  parseOptionalOpaqueField object name userKeyRotationPolicy.cipherOpaqueValueMaxLength

/-! ## Ciphertexts -/

/-- `appendOptionalEncryptedValues`: the values it appends. -/
def optionalEncryptedValues (fields : List String) (object : Fields) :
    Option (List (Option String)) :=
  fields.mapM (opaqueField object)

/-- The values of every object of a list. -/
def encryptedValuesOfEach (fields : List String) (items : List Json) :
    Option (List (Option String)) :=
  (items.mapM fun item : Json =>
    item.fields?.bind (optionalEncryptedValues fields)).map List.flatten

def loginEncryptedValues (value : Fields) : Option (List (Option String)) := do
  let login ← readRequiredObject value "login"
  let own ← optionalEncryptedValues ["username", "password", "totp"] login
  let uris ← readOptionalArray login "uris"
  let uriValues ← encryptedValuesOfEach ["uri", "uriChecksum"] uris
  let credentials ← readOptionalArray login "fido2Credentials"
  let credentialValues ←
    encryptedValuesOfEach (fido2CredentialFields.filter (· != "creationDate")) credentials
  return own ++ uriValues ++ credentialValues

def buildCipherEncryptedValues (value : Fields) (type : Int) : Option (List (Option String)) := do
  let name ←
    parseRequiredOpaqueField value "name" userKeyRotationPolicy.cipherOpaqueValueMaxLength
  let own ← optionalEncryptedValues ["notes", "key"] value
  let loginValues ← if type = 1 then loginEncryptedValues value else some []
  let fields ← readOptionalArray value "fields"
  let fieldValues ← encryptedValuesOfEach ["name", "value"] fields
  let passwordHistory ← readOptionalArray value "passwordHistory"
  let passwordValues ← encryptedValuesOfEach ["password"] passwordHistory
  return own ++ [some name] ++ loginValues ++ fieldValues ++ passwordValues

/-- The scan over both lists; `nextValues` are the new ciphertexts seen so far. -/
def rewrappedFrom (oldValues : List String) :
    List String → List (Option String) → List (Option String) → Bool
  | _, [], [] => true
  | nextValues, none :: current, none :: rotated =>
    rewrappedFrom oldValues nextValues current rotated
  | nextValues, some _ :: current, some nextValue :: rotated =>
    !oldValues.contains nextValue && !nextValues.contains nextValue &&
      rewrappedFrom oldValues (nextValue :: nextValues) current rotated
  | _, _, _ => false

def allEncryptedValuesRewrapped (current rotated : List (Option String)) : Bool :=
  rewrappedFrom current.reduceOption [] current rotated

/-! ## Metadata -/

section Metadata

variable (C : Codec)

def readFieldMetadata (field : Json) : Option UserKeyRotationFieldMetadata := do
  let field ← field.fields?
  return ⟨← parseNullableIntegerField field "type", ← parseNullableIntegerField field "linkedId"⟩

def readLoginMetadata (login : Fields) : Option UserKeyRotationLoginMetadata := do
  let uris ← readOptionalArray login "uris"
  let credentials ← readOptionalArray login "fido2Credentials"
  let passwordRevisionDate ← C.parseNullableDateField login "passwordRevisionDate"
  let autofillOnPageLoad ← parseOptionalBooleanField login "autofillOnPageLoad"
  let uriMatches ← uris.mapM fun uri => uri.fields?.bind (parseNullableIntegerField · "match")
  let fido2CreationDates ← credentials.mapM fun credential =>
    credential.fields?.bind (C.parseNullableDateField · "creationDate")
  return ⟨passwordRevisionDate, autofillOnPageLoad, uriMatches, fido2CreationDates⟩

def buildCipherMetadata (value : Fields) (type : Int) : Option UserKeyRotationCipherMetadata := do
  let fields ← readOptionalArray value "fields"
  let history ← readOptionalArray value "passwordHistory"
  let fieldMetadata ← fields.mapM readFieldMetadata
  let passwordHistoryDates ← history.mapM fun item =>
    item.fields?.bind (C.parseNullableDateField · "lastUsedDate")
  if type = 2 then
    let secureNote ← readRequiredObject value "secureNote"
    let secureNoteType ← parseRequiredIntegerField secureNote "type"
    return ⟨none, some secureNoteType, fieldMetadata, passwordHistoryDates⟩
  else
    let login ← readRequiredObject value "login"
    let loginMetadata ← readLoginMetadata C login
    return ⟨some loginMetadata, none, fieldMetadata, passwordHistoryDates⟩

/-! ## Structure -/

def validateLoginUri (value : Json) : Bool :=
  value.fields?.any fun uri => hasOnlyAliasedFields uri uriFields &&
    (opaqueField uri "uri").isSome && (opaqueField uri "uriChecksum").isSome &&
    (parseNullableIntegerField uri "match").isSome

def validateFido2Credential (value : Json) : Bool :=
  value.fields?.any fun credential => hasOnlyAliasedFields credential fido2CredentialFields &&
    fido2CredentialFields.all fun field =>
      if field = "creationDate" then (C.parseNullableDateField credential field).isSome
      else (opaqueField credential field).isSome

def validateLogin (value : Option Fields) : Bool :=
  value.any fun login => hasOnlyAliasedFields login loginFields &&
    (["username", "password", "totp"].all fun field => (opaqueField login field).isSome) &&
    (C.parseNullableDateField login "passwordRevisionDate").isSome &&
    (parseOptionalBooleanField login "autofillOnPageLoad").isSome &&
    (readOptionalArray login "uris").any (fun uris =>
      uris.length ≤ userKeyRotationPolicy.cipherUrisMax && uris.all validateLoginUri) &&
    (readOptionalArray login "fido2Credentials").any fun credentials =>
      credentials.length ≤ userKeyRotationPolicy.fido2CredentialsMax &&
        credentials.all (validateFido2Credential C)

def validateField (value : Json) : Bool :=
  value.fields?.any fun field => hasOnlyAliasedFields field fieldFields &&
    (parseNullableIntegerField field "type").isSome &&
    (parseNullableIntegerField field "linkedId").isSome &&
    (opaqueField field "name").isSome && (opaqueField field "value").isSome

def validateOptionalFields (value : Fields) : Bool :=
  (readOptionalArray value "fields").any fun fields =>
    fields.length ≤ userKeyRotationPolicy.cipherFieldsMax && fields.all validateField

def validatePasswordHistory (value : Fields) : Bool :=
  (readOptionalArray value "passwordHistory").any fun history =>
    history.length ≤ userKeyRotationPolicy.cipherPasswordHistoryMax && history.all fun item =>
      item.fields?.any fun item => hasOnlyAliasedFields item passwordHistoryFields &&
        (C.parseNullableDateField item "lastUsedDate").isSome &&
        (opaqueField item "password").isSome

def validateCipherStructuredData (value : Fields) (type : Int) : Bool :=
  validateOptionalFields value && validatePasswordHistory C value &&
    allAbsentOrNull value
      ["card", "identity", "sshKey", "bankAccount", "driversLicense", "passport"] &&
    if type = 1 then
      isAbsentOrNull value "secureNote" && validateLogin C (readRequiredObject value "login")
    else
      isAbsentOrNull value "login" && (readRequiredObject value "secureNote").any fun secureNote =>
        hasOnlyAliasedFields secureNote secureNoteFields &&
          (parseRequiredIntegerField secureNote "type").isSome

/-! ## Classification -/

/-- What a stored payload says beside its ciphertexts. -/
structure StoredCipher where
  value : Fields
  type : Int
  folderId : Option String
  favorite : Bool
  reprompt : Int
  archivedDate : Option String
  metadata : UserKeyRotationCipherMetadata

/-- A field that counts as `default` when it is absent. -/
def AliasedValue.orDefault {α : Type} (value : AliasedValue) (default : α)
    (read : Json → Option α) : Option α :=
  match value with
  | absent => some default
  | value => value.required read

/-- The object a stored text holds, if it is short enough to be looked at. -/
def readPayload (encryptedJson : String) : Option Fields :=
  if jsLength encryptedJson > userKeyRotationPolicy.cipherJsonMaxLength then none
  else (C.jsonParse encryptedJson).bind Json.fields?

/-- The first half of `classifyStoredUserKeyRotationCipherMetadata`; `none` is `'invalid'`. -/
def readStored (encryptedJson : String) (cipherType : Int) : Option StoredCipher := do
  let value ← readPayload C encryptedJson
  let type ← parseRequiredIntegerField value "type"
  let folderId ← parseNullableIdField value "folderId"
  guard (isAbsentNullOrEmpty value "organizationId")
  let favorite ← (readAliasedValue value "favorite").orDefault false parseBoolean
  let reprompt ← (readAliasedValue value "reprompt").orDefault 0 parseSafeInteger
  let archivedDate ← C.parseNullableDateField value "archivedDate"
  let metadata ← buildCipherMetadata C value cipherType
  guard (validateCipherStructuredData C value cipherType)
  return { value, type, folderId, favorite, reprompt, archivedDate, metadata }

def parseCipherEncryptedValues (encryptedJson : String) (type : Int) :
    Option (List (Option String)) :=
  ((C.jsonParse encryptedJson).bind Json.fields?).bind (buildCipherEncryptedValues · type)

/-- The second half: the request and the payload say the same, and every ciphertext is fresh. -/
def StoredCipher.Matches (stored : StoredCipher) (cipher : UserKeyRotationCipher) : Prop :=
  (∃ rotated ∈ parseCipherEncryptedValues C cipher.encryptedJson cipher.type,
    ∃ current ∈ buildCipherEncryptedValues stored.value cipher.type,
      allEncryptedValuesRewrapped current rotated) ∧
    stored.type = cipher.type ∧ stored.folderId = cipher.folderId ∧
    stored.favorite = cipher.favorite ∧ stored.reprompt = cipher.reprompt ∧
    stored.archivedDate = cipher.archivedDate ∧ stored.metadata = cipher.metadata

instance (stored : StoredCipher) (cipher : UserKeyRotationCipher) :
    Decidable (stored.Matches C cipher) :=
  inferInstanceAs (Decidable (_ ∧ _))

def classifyStoredUserKeyRotationCipherMetadata (cipher : UserKeyRotationCipher)
    (encryptedJson : String) : StoredCipherStatus :=
  match readStored C encryptedJson cipher.type with
  | none => .invalid
  | some stored => if stored.Matches C cipher then .matches else .mismatch

end Metadata

/-! ## The cipher loop -/

/-- What one pass of the cipher loop of `validateSnapshotAgainstRequest` comes to. -/
inductive CipherCheck where
  | passes
  | conflict
  | storedCipherInvalid
  deriving DecidableEq, Repr

/-- `snapshotCiphersSql`. -/
def snapshotCiphers (db : Db) (userId : String) : List Cipher :=
  db.ciphers.rows.filter fun c => c.userId = userId ∧ c.organizationId = none ∧ c.deletedAt = none

/-- One pass; `folderIds` are the folders the request lists. -/
def checkCipher (C : Codec) (userId : String) (folderIds : List String) (snapshot : List Cipher)
    (cipher : UserKeyRotationCipher) : CipherCheck :=
  match snapshot.find? fun c => c.id = cipher.id with
  | none => .conflict
  | some current =>
    if current.userId ≠ userId ∨ cipher.encryptedFor ≠ userId ∨ cipher.organizationId ≠ none ∨
        current.folderId ≠ cipher.folderId ∨ (∃ id ∈ cipher.folderId, id ∉ folderIds) ∨
        current.type ≠ cipher.type ∨ current.favorite ≠ cipher.favorite ∨
        current.revisionDate ≠ cipher.lastKnownRevisionDate then .conflict
    else
      match classifyStoredUserKeyRotationCipherMetadata C cipher current.encryptedJson with
      | .invalid => .storedCipherInvalid
      | .mismatch => .conflict
      | .matches => .passes

/-! ## Fresh ciphertexts -/

/-- Every ciphertext is replaced by one that is new, and no two by the same. -/
structure Rewrapped (current rotated : List (Option String)) : Prop where
  shape : List.Forall₂ (fun old new : Option String => old.isSome = new.isSome) current rotated
  fresh : ∀ text, some text ∈ rotated → some text ∉ current
  distinct : rotated.reduceOption.Nodup

theorem rewrappedFrom_iff (oldValues : List String) (current : List (Option String)) :
    ∀ (nextValues : List String) (rotated : List (Option String)),
      rewrappedFrom oldValues nextValues current rotated = true ↔
        List.Forall₂ (fun old new : Option String => old.isSome = new.isSome) current rotated ∧
          (∀ text ∈ rotated.reduceOption, text ∉ oldValues ∧ text ∉ nextValues) ∧
          rotated.reduceOption.Nodup := by
  induction current with
  | nil =>
    intro nextValues rotated
    cases rotated with
    | nil => simp [rewrappedFrom, List.reduceOption]
    | cons new rotated => simp [rewrappedFrom]
  | cons old current ih =>
    intro nextValues rotated
    cases rotated with
    | nil => cases old <;> simp [rewrappedFrom]
    | cons new rotated =>
      cases old with
      | none =>
        cases new with
        | none => simp [rewrappedFrom, ih]
        | some text => simp [rewrappedFrom]
      | some old =>
        cases new with
        | none => simp [rewrappedFrom]
        | some text =>
          simp only [rewrappedFrom, Bool.and_eq_true, Bool.not_eq_true', List.contains_eq_mem,
            decide_eq_false_iff_not, ih, List.mem_cons, not_or, List.forall₂_cons,
            Option.isSome_some, List.reduceOption_cons_of_some, List.nodup_cons, forall_eq_or_imp]
          constructor
          · rintro ⟨⟨hold, hnext⟩, hshape, hfresh, hnodup⟩
            exact ⟨⟨trivial, hshape⟩,
              ⟨⟨hold, hnext⟩, fun t ht => ⟨(hfresh t ht).1, (hfresh t ht).2.2⟩⟩,
              fun hmem => (hfresh text hmem).2.1 rfl, hnodup⟩
          · rintro ⟨⟨-, hshape⟩, ⟨hhead, hfresh⟩, hnotMem, hnodup⟩
            refine ⟨hhead, hshape, fun t ht => ⟨(hfresh t ht).1, ?_, (hfresh t ht).2⟩, hnodup⟩
            rintro rfl
            exact hnotMem ht

/-- **The scan accepts exactly the lists of fresh ciphertexts.** -/
theorem allEncryptedValuesRewrapped_iff {current rotated : List (Option String)} :
    allEncryptedValuesRewrapped current rotated = true ↔ Rewrapped current rotated := by
  unfold allEncryptedValuesRewrapped
  rw [rewrappedFrom_iff]
  constructor
  · rintro ⟨hshape, hfresh, hnodup⟩
    refine ⟨hshape, fun text hnew hold => ?_, hnodup⟩
    exact (hfresh text (List.reduceOption_mem_iff.mpr hnew)).1 (List.reduceOption_mem_iff.mpr hold)
  · rintro ⟨hshape, hfresh, hnodup⟩
    refine ⟨hshape, fun text hnew => ⟨fun hold => ?_, List.not_mem_nil⟩, hnodup⟩
    exact hfresh text (List.reduceOption_mem_iff.mp hnew) (List.reduceOption_mem_iff.mp hold)

/-! ## Faithful requests -/

/-- Where the copies in a stored payload come from. -/
theorem readStored_copies {C : Codec} {encryptedJson : String} {cipherType : Int}
    {stored : StoredCipher} (h : readStored C encryptedJson cipherType = some stored) :
    ∃ value, readPayload C encryptedJson = some value ∧
      parseRequiredIntegerField value "type" = some stored.type ∧
      parseNullableIdField value "folderId" = some stored.folderId ∧
      (readAliasedValue value "favorite").orDefault false parseBoolean = some stored.favorite := by
  simp only [readStored, bind, Option.bind_eq_some_iff] at h
  obtain ⟨value, hvalue, type, htype, folderId, hfolder, _, -, favorite, hfavorite, reprompt, -,
    archivedDate, -, metadata, -, _, -, hstored⟩ := h
  cases hstored
  exact ⟨value, hvalue, htype, hfolder, hfavorite⟩

/-- A request for the row `c` that keeps everything but the ciphertexts of its payload. -/
structure UserKeyRotationCipher.Faithful (C : Codec) (c : Cipher) (stored : StoredCipher)
    (cipher : UserKeyRotationCipher) : Prop where
  id : cipher.id = c.id
  encryptedFor : cipher.encryptedFor = c.userId
  organizationId : cipher.organizationId = none
  folderId : cipher.folderId = c.folderId
  type : cipher.type = c.type
  favorite : cipher.favorite = c.favorite
  revision : cipher.lastKnownRevisionDate = c.revisionDate
  reprompt : cipher.reprompt = stored.reprompt
  archivedDate : cipher.archivedDate = stored.archivedDate
  metadata : cipher.metadata = stored.metadata
  ciphertexts : ∃ current rotated, buildCipherEncryptedValues stored.value c.type = some current ∧
    parseCipherEncryptedValues C cipher.encryptedJson c.type = some rotated ∧
    Rewrapped current rotated

/-- The payload says what the columns of its row say. -/
def StoredCipher.Agrees (stored : StoredCipher) (c : Cipher) : Prop :=
  stored.type = c.type ∧ stored.folderId = c.folderId ∧ stored.favorite = c.favorite

instance (stored : StoredCipher) (c : Cipher) : Decidable (stored.Agrees c) :=
  inferInstanceAs (Decidable (_ ∧ _ ∧ _))

section Faithful

variable {C : Codec} {c : Cipher} {stored : StoredCipher} {cipher : UserKeyRotationCipher}

/-- **A faithful request matches exactly when the payload agrees with its row.** -/
theorem classify_of_faithful (hstored : readStored C c.encryptedJson c.type = some stored)
    (h : cipher.Faithful C c stored) :
    classifyStoredUserKeyRotationCipherMetadata C cipher c.encryptedJson = .matches ↔
      stored.Agrees c := by
  have hmatches : stored.Matches C cipher ↔ stored.Agrees c := by
    obtain ⟨current, rotated, hcurrent, hrotated, hrewrapped⟩ := h.ciphertexts
    unfold StoredCipher.Matches StoredCipher.Agrees
    rw [h.type, h.folderId, h.favorite]
    constructor
    · rintro ⟨-, htype, hfolder, hfavorite, -⟩
      exact ⟨htype, hfolder, hfavorite⟩
    · rintro ⟨htype, hfolder, hfavorite⟩
      exact ⟨⟨rotated, hrotated, current, hcurrent, allEncryptedValuesRewrapped_iff.mpr hrewrapped⟩,
        htype, hfolder, hfavorite, h.reprompt.symm, h.archivedDate.symm, h.metadata.symm⟩
  unfold classifyStoredUserKeyRotationCipherMetadata
  rw [h.type, hstored]
  dsimp only
  rw [← hmatches]
  split_ifs with hm <;> simp [hm]

/-- The row an active personal cipher has in the snapshot of its account. -/
theorem find_snapshotCiphers {db : Db} (hc : c ∈ db.ciphers.rows)
    (hpersonal : c.organizationId = none) (hactive : c.deletedAt = none) :
    (snapshotCiphers db c.userId).find? (fun row => row.id = c.id) = some c := by
  have hmem : c ∈ snapshotCiphers db c.userId :=
    List.mem_filter.mpr ⟨hc, by simp [hpersonal, hactive]⟩
  cases hfind : (snapshotCiphers db c.userId).find? fun row => row.id = c.id with
  | none =>
    have hmiss := List.find?_eq_none.mp hfind c hmem
    simp at hmiss
  | some row =>
    have hrow := (List.mem_filter.mp (List.mem_of_find?_eq_some hfind)).1
    have hid : row.id = c.id := by simpa using List.find?_some hfind
    rw [db.ciphers.eq_of_key hrow hc hid]

/-- **The checks of a faithful request pass where the payload agrees.** -/
theorem checkCipher_of_faithful {db : Db} {folderIds : List String} (hc : c ∈ db.ciphers.rows)
    (hpersonal : c.organizationId = none) (hactive : c.deletedAt = none)
    (hstored : readStored C c.encryptedJson c.type = some stored) (h : cipher.Faithful C c stored)
    (hfolders : ∀ id ∈ c.folderId, id ∈ folderIds) (hagrees : stored.Agrees c) :
    checkCipher C c.userId folderIds (snapshotCiphers db c.userId) cipher = .passes := by
  unfold checkCipher
  rw [h.id, find_snapshotCiphers hc hpersonal hactive]
  dsimp only
  rw [if_neg, (classify_of_faithful hstored h).mpr hagrees]
  rw [h.encryptedFor, h.organizationId, h.folderId, h.type, h.favorite, h.revision]
  simpa using hfolders

end Faithful

end HonoWarden
