import HonoWarden.Rotation.Rotatable

/-!
# Ciphers in a rotation request

Model of the request side of `user-key-rotation-cipher.ts`: `parseCipher` with its attachments.

The parser keeps the text of the whole cipher and, beside it, what the rotation compares with the
stored payload. A revision names an instant; one before 1970 names none and is refused here.

Results:
* **`parseCipher_describes`**: what a parsed cipher says of itself is what its text says.
-/

namespace HonoWarden

/-- `UserKeyRotationAttachment`. -/
structure UserKeyRotationAttachment where
  id : String
  fileName : String
  attachmentKey : String
  lastKnownRevisionDate : Timestamp
  deriving DecidableEq, Repr

/-- `UserKeyRotationCipher`, with its attachments. -/
structure UserKeyRotationCipherRequest extends UserKeyRotationCipher where
  attachments : List UserKeyRotationAttachment
  deriving DecidableEq, Repr

def cipherFields : List String :=
  ["id", "encryptedFor", "type", "folderId", "organizationId", "name", "notes", "favorite", "login",
    "secureNote", "card", "identity", "sshKey", "bankAccount", "driversLicense", "passport",
    "fields", "passwordHistory", "attachments", "attachments2", "lastKnownRevisionDate",
    "archivedDate", "reprompt", "key"]

def attachmentFields : List String := ["fileName", "key", "lastKnownRevisionDate"]

/-- `userKeyRotationPolicy.attachmentsPerCipherMax`. -/
def attachmentsPerCipherMax : Nat := 100

section Parsing

variable (C : Codec)

def parseRequiredIdField (object : Fields) (name : String) : Option String :=
  (readAliasedValue object name).required parseId

/-- `parseRequiredDateField`, of a revision. -/
def parseRequiredRevisionField (object : Fields) (name : String) : Option Timestamp :=
  ((readAliasedValue object name).required C.parseIsoDate).bind C.revision

/-- `Object.keys(value).sort()`. -/
def attachmentIds (object : Fields) : List String :=
  (object.map Prod.fst).mergeSort fun a b => a ≤ b

/-- One attachment of `parseAttachments`. -/
def parseAttachment (legacy modern : Fields) (cipherRevisionDate : Timestamp) (id : String) :
    Option UserKeyRotationAttachment := do
  let maxLength := userKeyRotationPolicy.cipherOpaqueValueMaxLength
  let parsedId ← parseId (.string id)
  let legacyFileName ← (legacy.lookup id).bind (parseOpaqueString maxLength)
  let attachment ← (modern.lookup id).bind Json.fields?
  guard (hasOnlyAliasedFields attachment attachmentFields)
  let fileName ← parseRequiredOpaqueField attachment "fileName" maxLength
  let attachmentKey ← parseRequiredOpaqueField attachment "key" maxLength
  let lastKnownRevisionDate ← parseRequiredRevisionField C attachment "lastKnownRevisionDate"
  guard (fileName = legacyFileName ∧ lastKnownRevisionDate = cipherRevisionDate)
  return { id := parsedId, fileName, attachmentKey, lastKnownRevisionDate }

def parseAttachments (value : Fields) (cipherRevisionDate : Timestamp) :
    Option (List UserKeyRotationAttachment) :=
  match readAliasedValue value "attachments", readAliasedValue value "attachments2" with
  | .absent, .absent => some []
  | .present (.object legacy), .present (.object modern) =>
    if legacy.length > attachmentsPerCipherMax ∨ attachmentIds legacy ≠ attachmentIds modern then none
    else (attachmentIds modern).mapM (parseAttachment C legacy modern cipherRevisionDate)
  | _, _ => none

def parseCipher (value : Json) : Option UserKeyRotationCipherRequest := do
  let object ← value.fields?
  guard (hasOnlyAliasedFields object cipherFields)
  guard (jsLength (C.jsonStringify value) ≤ userKeyRotationPolicy.cipherJsonMaxLength)
  let id ← parseRequiredIdField object "id"
  let encryptedFor ← parseRequiredIdField object "encryptedFor"
  let type ← parseRequiredIntegerField object "type"
  let folderId ← parseNullableIdField object "folderId"
  let favorite ← parseRequiredBooleanField object "favorite"
  let lastKnownRevisionDate ← parseRequiredRevisionField C object "lastKnownRevisionDate"
  let archivedDate ← C.parseNullableDateField object "archivedDate"
  let _name ←
    parseRequiredOpaqueField object "name" userKeyRotationPolicy.cipherOpaqueValueMaxLength
  let _notes ← opaqueField object "notes"
  let _key ← opaqueField object "key"
  let reprompt ← parseRequiredIntegerField object "reprompt"
  guard (type = 1 ∨ type = 2)
  guard (isAbsentNullOrEmpty object "organizationId")
  guard (reprompt = 0 ∨ reprompt = 1)
  guard (validateCipherStructuredData C object type)
  let attachments ← parseAttachments C object lastKnownRevisionDate
  let metadata ← buildCipherMetadata C object type
  return {
    id, encryptedFor, folderId, type, favorite, reprompt, archivedDate, lastKnownRevisionDate
    metadata
    encryptedJson := C.jsonStringify value
    attachments }

/-- The loop of `parseUserKeyRotationCiphers`, with the ids seen so far. -/
def parseCiphersFrom (seenCipherIds seenAttachmentIds : List String) :
    List Json → Option (List UserKeyRotationCipherRequest)
  | [] => some []
  | value :: values => do
    let cipher ← parseCipher C value
    guard (cipher.id ∉ seenCipherIds)
    let ids := cipher.attachments.map UserKeyRotationAttachment.id
    guard (ids.Nodup ∧ ∀ id ∈ ids, id ∉ seenAttachmentIds)
    let rest ← parseCiphersFrom (cipher.id :: seenCipherIds) (ids ++ seenAttachmentIds) values
    return cipher :: rest

def parseUserKeyRotationCiphers (values : List Json) :
    Option (List UserKeyRotationCipherRequest) :=
  parseCiphersFrom C [] [] values

end Parsing

/-! ## What a parsed cipher says of itself -/

/-- What the request says of a cipher is read from `value`. -/
structure UserKeyRotationCipher.ReadFrom (C : Codec) (cipher : UserKeyRotationCipher)
    (value : Fields) : Prop where
  type : parseRequiredIntegerField value "type" = some cipher.type
  folderId : parseNullableIdField value "folderId" = some cipher.folderId
  favorite : parseRequiredBooleanField value "favorite" = some cipher.favorite
  reprompt : parseRequiredIntegerField value "reprompt" = some cipher.reprompt
  archivedDate : C.parseNullableDateField value "archivedDate" = some cipher.archivedDate
  metadata : buildCipherMetadata C value cipher.type = some cipher.metadata

/-- The text of a request cipher says what the request says of it. -/
def UserKeyRotationCipher.Describes (C : Codec) (cipher : UserKeyRotationCipher) : Prop :=
  (cipher.type = 1 ∨ cipher.type = 2) ∧ ∃ value,
    (C.jsonParse cipher.encryptedJson).bind Json.fields? = some value ∧ cipher.ReadFrom C value

/-- **A parsed cipher describes its text**, when the text it is written to reads back. -/
theorem parseCipher_describes {C : Codec} {value : Json} {cipher : UserKeyRotationCipherRequest}
    (hreads : C.jsonParse (C.jsonStringify value) = some value)
    (h : parseCipher C value = some cipher) : cipher.Describes C := by
  simp only [parseCipher, bind, Option.bind_eq_some_iff] at h
  obtain ⟨object, hobject, _, -, _, -, id, -, encryptedFor, -, type, htype, folderId, hfolderId,
    favorite, hfavorite, revision, -, archivedDate, harchivedDate, _, -, _, -, _, -, reprompt,
    hreprompt, _, hguard, _, -, _, -, _, -, attachments, -, metadata, hmetadata, hcipher⟩ := h
  cases hcipher
  refine ⟨?_, object, ?_, htype, hfolderId, hfavorite, hreprompt, harchivedDate, hmetadata⟩
  · exact (Option.guard_eq_some' _).mp hguard
  · dsimp only
    rw [hreads]
    exact hobject

/-- Every cipher of a parsed request comes from a value. -/
theorem mem_parseCiphersFrom {C : Codec} {cipher : UserKeyRotationCipherRequest} :
    ∀ {values : List Json} {seenCipherIds seenAttachmentIds : List String}
      {ciphers : List UserKeyRotationCipherRequest},
      parseCiphersFrom C seenCipherIds seenAttachmentIds values = some ciphers →
      cipher ∈ ciphers → ∃ value ∈ values, parseCipher C value = some cipher
  | [], _, _, _, h, hmem => by
    obtain rfl := Option.some.inj h
    cases hmem
  | value :: values, _, _, _, h, hmem => by
    simp only [parseCiphersFrom, bind, Option.bind_eq_some_iff] at h
    obtain ⟨parsed, hparsed, _, -, _, -, rest, hrest, hciphers⟩ := h
    cases hciphers
    rcases List.mem_cons.mp hmem with rfl | hmem
    · exact ⟨value, List.mem_cons_self, hparsed⟩
    · obtain ⟨other, hother, hcipher⟩ := mem_parseCiphersFrom hrest hmem
      exact ⟨other, List.mem_cons_of_mem _ hother, hcipher⟩

/-- **Every cipher of a parsed request describes its text.** -/
theorem parseUserKeyRotationCiphers_describes {C : Codec} {values : List Json}
    {ciphers : List UserKeyRotationCipherRequest}
    (hreads : ∀ value ∈ values, C.jsonParse (C.jsonStringify value) = some value)
    (h : parseUserKeyRotationCiphers C values = some ciphers) :
    ∀ cipher ∈ ciphers, cipher.Describes C := by
  intro cipher hcipher
  obtain ⟨value, hvalue, hparsed⟩ := mem_parseCiphersFrom h hcipher
  exact parseCipher_describes (hreads value hvalue) hparsed

end HonoWarden
