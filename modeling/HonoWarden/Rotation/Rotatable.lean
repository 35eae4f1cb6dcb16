import HonoWarden.Rotation.Cipher

/-!
# Which ciphers can be rotated

The type, folder and favorite flag of a personal cipher are stored twice: in the columns of its row
and in the payload its client sent. The rotation compares a request with both. The routes write
both from one body (`parseCipherCreateRequestBody`, `parseCipherUpdateRequestBody`), but they read
`folderId` and `favorite` under these names alone, where the rotation reads `FolderId` and
`Favorite` as well, and a bulk move writes the column and leaves the payload.

`rotatableSystem` runs the requests of an account on its personal ciphers in any order.

Results:
* `stored_agrees_of_body`: a body that names folder and favorite flag in the usual way says what
  the columns say;
* `CipherCall.exec_agree`: a request whose payloads mirror the columns keeps every row agreeing;
* **`ciphers_rotatable`**: in a run of such requests every faithful request for a cipher matches;
* `cipher_unrotatable`: after one bulk move no rotation accepts the cipher.
-/

namespace HonoWarden

open Relational

/-! ## Bodies -/

/-- What the routes take from a cipher body. -/
structure CipherRequestBody where
  encryptedJson : String
  favorite : Bool
  folderId : Option String
  type : Int
  deriving DecidableEq, Repr

/-- `value.trim()` is empty. -/
def isBlank (text : String) : Bool := text.toList.all isJsSpace

/-- `none` is `undefined`: the value is refused. -/
def parseOptionalId : Option Json → Option (Option String)
  | none | some .null => some none
  | some (.string value) => if isBlank value then none else some (some value)
  | some _ => none

def parseRequiredString : Option Json → Option String
  | some (.string value) => if isBlank value then none else some value
  | _ => none

/-- `payload.type`, which must be 1 or 2. -/
def parseCipherType : Option Json → Option Int
  | some (.number value) => if value = 1 ∨ value = 2 then some value else none
  | _ => none

section Bodies

variable (C : Codec)

def parseCipherCreateRequestBody (body : Json) : Option CipherRequestBody := do
  let payload ← body.fields?
  let type ← parseCipherType (payload.lookup "type")
  let folderId ← parseOptionalId (payload.lookup "folderId")
  return {
    encryptedJson := C.jsonStringify body
    favorite := ((payload.lookup "favorite").bind parseBoolean).getD false
    folderId
    type }

/-- `payload.revisionDate ?? payload.lastKnownRevisionDate`. -/
def namedRevision (payload : Fields) : Option Json :=
  match payload.lookup "revisionDate" with
  | none | some .null => payload.lookup "lastKnownRevisionDate"
  | value => value

def parseCipherUpdateRequestBody (body : Json) : Option (CipherRequestBody × String) := do
  let request ← parseCipherCreateRequestBody C body
  let payload ← body.fields?
  let revisionDate ← parseRequiredString (namedRevision payload)
  return (request, revisionDate)

/-- The revision a text names; a text that is not the canonical one of its instant names none. -/
def Codec.revision (text : String) : Option Timestamp :=
  (C.dateParse text).bind fun time =>
    if C.toISOString time = text ∧ 0 ≤ time then some time.toNat else none

end Bodies

/-! ## Requests -/

/-- A request of an account on its personal ciphers. The routes look up the folder it names before
it writes; here it may write any folder that exists. -/
inductive CipherCall where
  | create (id userId : String) (body : Json) (now : Timestamp)
  | update (id userId : String) (body : Json) (now : Timestamp)
  | move (input : CipherBulkMoveInput)
  | trash (input : CipherDeleteInput)
  | bulkTrash (input : CipherBulkMutationInput)
  | restore (input : CipherRestoreInput)
  | bulkRestore (input : CipherBulkMutationInput)
  /-- What else writes the database, outside of the ciphers. -/
  | surroundings (write : Db → Db)

/-- The record a body becomes. -/
def CipherRequestBody.record (request : CipherRequestBody) (id userId : String) (now : Timestamp) :
    CipherRecord where
  id := id
  userId := userId
  folderId := request.folderId
  type := request.type
  favorite := request.favorite
  encryptedJson := request.encryptedJson
  revisionDate := now
  createdAt := now
  deletedAt := none

namespace CipherCall

variable (C : Codec)

def exec : CipherCall → Db → Db
  | create id userId body now, db =>
    match parseCipherCreateRequestBody C body with
    | none => db
    | some request => (createCipher (request.record id userId now) db).1
  | update id userId body now, db =>
    match parseCipherUpdateRequestBody C body with
    | none => db
    | some (request, revisionDate) =>
      match C.revision revisionDate with
      | none => db
      | some expectedRevisionDate =>
        (updateCipher { request.record id userId now with expectedRevisionDate } db).1
  | move input, db => (bulkMoveCiphers input db).1
  | trash input, db => (softDeleteCipher input db).1
  | bulkTrash input, db => (bulkSoftDeleteCiphers input db).1
  | restore input, db => (restoreCipher input db).1
  | bulkRestore input, db => (bulkRestoreCiphers input db).1
  | surroundings write, db => { write db with ciphers := db.ciphers }

/-- The id of a new cipher is random. -/
def draws : CipherCall → List String
  | create id _ _ _ => [id]
  | _ => []

/-- The payload a request stores. -/
def body? : CipherCall → Option Json
  | create _ _ body _ | update _ _ body _ => some body
  | _ => none

/-- What the request writes as JSON is read back as it was. -/
def ReadsBack (call : CipherCall) : Prop :=
  ∀ body ∈ call.body?, C.jsonParse (C.jsonStringify body) = some body

end CipherCall

/-- The requests of an account on its personal ciphers, in any order. -/
def rotatableSystem (C : Codec) : System Db CipherCall String :=
  .ofFunction (CipherCall.exec C) CipherCall.draws

/-! ## Payloads that mirror their columns -/

/-- The payload names a folder, or sets the favorite flag, under the capitalised name alone. -/
def hidesFiling (payload : Fields) : Bool :=
  (match payload.lookup "folderId", payload.lookup "FolderId" with
    | none, some (.string folderId) => folderId != ""
    | _, _ => false) ||
  match payload.lookup "favorite", payload.lookup "Favorite" with
    | none, some (.bool favorite) => favorite
    | _, _ => false

/-- The payload of the row, where it can be read, says what the columns say. -/
def Cipher.CopiesAgree (C : Codec) (c : Cipher) : Prop :=
  ∀ stored ∈ readStored C c.encryptedJson c.type, stored.Agrees c

instance (C : Codec) (c : Cipher) : Decidable (c.CopiesAgree C) :=
  inferInstanceAs (Decidable (∀ stored ∈ readStored C c.encryptedJson c.type, stored.Agrees c))

section Mirrors

variable {C : Codec} {body : Json} {payload : Fields} {request : CipherRequestBody}

theorem parseCipherCreateRequestBody_eq (h : parseCipherCreateRequestBody C body = some request) :
    ∃ payload, body = .object payload ∧ request.encryptedJson = C.jsonStringify body ∧
      parseCipherType (payload.lookup "type") = some request.type ∧
      parseOptionalId (payload.lookup "folderId") = some request.folderId ∧
      request.favorite = ((payload.lookup "favorite").bind parseBoolean).getD false := by
  simp only [parseCipherCreateRequestBody, bind, Option.bind_eq_some_iff] at h
  obtain ⟨payload, hpayload, type, htype, folderId, hfolder, hrequest⟩ := h
  cases body with
  | object fields =>
    obtain rfl := Option.some.inj hpayload
    cases hrequest
    exact ⟨fields, rfl, rfl, htype, hfolder, rfl⟩
  | _ => cases hpayload

/-- The type has no second reading. -/
theorem type_agrees {read type : Int} (hread : parseRequiredIntegerField payload "type" = some read)
    (htype : parseCipherType (payload.lookup "type") = some type) : read = type := by
  cases hvalue : payload.lookup "type" with
  | none =>
    rw [hvalue] at htype
    cases htype
  | some value =>
    rw [hvalue] at htype
    cases value with
    | number number =>
      unfold parseRequiredIntegerField at hread
      rcases readAliasedValue_of_lookup hvalue with heq | heq
      · rw [heq] at hread
        dsimp only [AliasedValue.required, parseSafeInteger, parseCipherType] at hread htype
        split_ifs at hread htype
        exact (Option.some.inj hread).symm.trans (Option.some.inj htype)
      · rw [heq] at hread
        cases hread
    | _ => cases htype

/-- The folder has a second reading only where it is hidden. -/
theorem folder_agrees {read folderId : Option String}
    (hread : parseNullableIdField payload "folderId" = some read)
    (hfolder : parseOptionalId (payload.lookup "folderId") = some folderId)
    (hhides : hidesFiling payload = false) : read = folderId := by
  cases hvalue : payload.lookup "folderId" with
  | some value =>
    rw [hvalue] at hfolder
    rcases parseNullableIdField_of_lookup hvalue hread with
      ⟨rfl | rfl, rfl⟩ | ⟨id, rfl, rfl⟩
    · exact Option.some.inj hfolder
    · cases hfolder
    · dsimp only [parseOptionalId] at hfolder
      split_ifs at hfolder
      exact Option.some.inj hfolder
  | none =>
    rw [hvalue] at hfolder
    obtain rfl := Option.some.inj hfolder
    have hname : pascalCase "folderId" = "FolderId" := by decide +kernel
    unfold parseNullableIdField readAliasedValue at hread
    rw [hvalue, hname] at hread
    unfold hidesFiling at hhides
    rw [hvalue] at hhides
    cases hcapital : payload.lookup "FolderId" with
    | none =>
      rw [hcapital] at hread
      exact (Option.some.inj hread).symm
    | some value =>
      rw [hcapital] at hread hhides
      cases value with
      | null => exact (Option.some.inj hread).symm
      | string text =>
        have hempty : text = "" := by
          simp only [Bool.or_eq_false_iff, bne_eq_false_iff_eq] at hhides
          exact hhides.1
        subst hempty
        exact (Option.some.inj hread).symm
      | _ => cases hread

/-- The favorite flag has a second reading only where it is hidden. -/
theorem favorite_agrees {read : Bool}
    (hread : (readAliasedValue payload "favorite").orDefault false parseBoolean = some read)
    (hhides : hidesFiling payload = false) :
    read = ((payload.lookup "favorite").bind parseBoolean).getD false := by
  cases hvalue : payload.lookup "favorite" with
  | some value =>
    rcases readAliasedValue_of_lookup hvalue with heq | heq
    · rw [heq] at hread
      change parseBoolean value = some read at hread
      rw [Option.bind_some, hread]
      rfl
    · rw [heq] at hread
      cases hread
  | none =>
    have hname : pascalCase "favorite" = "Favorite" := by decide +kernel
    unfold readAliasedValue at hread
    rw [hvalue, hname] at hread
    unfold hidesFiling at hhides
    rw [hvalue] at hhides
    cases hcapital : payload.lookup "Favorite" with
    | none =>
      rw [hcapital] at hread
      exact (Option.some.inj hread).symm
    | some value =>
      rw [hcapital] at hread hhides
      cases value with
      | bool favorite =>
        obtain rfl := Option.some.inj hread
        exact (Bool.or_eq_false_iff.mp hhides).2
      | _ => cases hread

/-- **A body that hides nothing says what the columns say.** -/
theorem stored_agrees_of_body {stored : StoredCipher}
    (hreads : C.jsonParse (C.jsonStringify body) = some body)
    (hrequest : parseCipherCreateRequestBody C body = some request)
    (hstored : readStored C request.encryptedJson request.type = some stored)
    (hhides : ∀ payload, body = .object payload → hidesFiling payload = false) :
    stored.type = request.type ∧ stored.folderId = request.folderId ∧
      stored.favorite = request.favorite := by
  obtain ⟨payload, rfl, hjson, htype, hfolder, hfavorite⟩ :=
    parseCipherCreateRequestBody_eq hrequest
  obtain ⟨value, hvalue, hstype, hsfolder, hsfavorite⟩ := readStored_copies hstored
  have hpayload : value = payload := by
    rw [hjson, readPayload] at hvalue
    split_ifs at hvalue
    rw [hreads] at hvalue
    exact (Option.some.inj hvalue).symm
  subst hpayload
  have hshows := hhides value rfl
  exact ⟨type_agrees hstype htype, folder_agrees hsfolder hfolder hshows,
    (favorite_agrees hsfavorite hshows).trans hfavorite.symm⟩

end Mirrors

/-! ## Requests that keep the copies agreeing -/

/-- Every personal cipher has the property. -/
def Db.PersonalCiphers (db : Db) (P : Cipher → Prop) : Prop :=
  ∀ c ∈ db.ciphers.rows, c.organizationId = none → P c

instance (db : Db) (P : Cipher → Prop) [DecidablePred P] : Decidable (db.PersonalCiphers P) :=
  inferInstanceAs (Decidable (∀ c ∈ db.ciphers.rows, c.organizationId = none → P c))

/-- The payload of the request hides nothing, unless the rotation cannot read it anyway, and a move
goes where the payloads of the ciphers it moves say they are. -/
def CipherCall.Mirrors (C : Codec) (db : Db) : CipherCall → Prop
  | create _ _ body _ | update _ _ body _ =>
    ∀ request ∈ parseCipherCreateRequestBody C body,
      (readStored C request.encryptedJson request.type).isSome →
        ∀ payload ∈ body.fields?, hidesFiling payload = false
  | move input =>
    ∀ c ∈ db.ciphers.rows, c.PersonalAmong input.ids input.userId → c.deletedAt = none →
      ∀ stored ∈ readStored C c.encryptedJson c.type, stored.folderId = input.folderId
  | _ => True

instance (C : Codec) (db : Db) : ∀ call : CipherCall, Decidable (call.Mirrors C db)
  | .create _ _ body _ | .update _ _ body _ =>
    inferInstanceAs (Decidable (∀ request ∈ parseCipherCreateRequestBody C body,
      (readStored C request.encryptedJson request.type).isSome →
        ∀ payload ∈ body.fields?, hidesFiling payload = false))
  | .move input =>
    inferInstanceAs (Decidable (∀ c ∈ db.ciphers.rows, c.PersonalAmong input.ids input.userId →
      c.deletedAt = none → ∀ stored ∈ readStored C c.encryptedJson c.type,
        stored.folderId = input.folderId))
  | .trash _ | .bulkTrash _ | .restore _ | .bulkRestore _ | .surroundings _ => .isTrue trivial

section Steps

variable {C : Codec} {P : Cipher → Prop} {db : Db}

/-- An UPDATE of ciphers. -/
theorem Db.PersonalCiphers.updated {T : Table Cipher} {hit : Cipher → Prop} [DecidablePred hit]
    {set : Cipher → Cipher} (h : db.PersonalCiphers P)
    (hT : T.rows = updateWhere hit set db.ciphers.rows)
    (hset : ∀ c, hit c → (set c).organizationId = none →
      c.organizationId = none ∧ (P c → P (set c))) :
    Db.PersonalCiphers { db with ciphers := T } P := by
  intro c' hc' hpersonal
  change c' ∈ T.rows at hc'
  rw [hT] at hc'
  rcases mem_updateWhere_cases hc' with ⟨hc, -⟩ | ⟨c, hc, hhit, rfl⟩
  · exact h c' hc hpersonal
  · obtain ⟨hpersonal', hkeep⟩ := hset c hhit hpersonal
    exact hkeep (h c hc hpersonal')

/-- An UPDATE that writes only dates. -/
theorem update_personalCiphers {hit : Db → Nat → Cipher → Prop} [∀ s n, DecidablePred (hit s n)]
    {set : Db → Cipher → Cipher} (hset : ∀ s c, (set s c).organizationId = c.organizationId ∧
      (P c → P (set s c))) :
    (Db.ciphersIn.update hit set).Within
      fun s s' => s.PersonalCiphers P → s'.PersonalCiphers P := by
  intro s s' n r hrun h
  obtain ⟨T, hT, rfl, -⟩ := TableIn.update_ok hrun
  refine h.updated hT fun c _ hpersonal => ?_
  obtain ⟨horganization, hkeep⟩ := hset s c
  exact ⟨horganization.symm.trans hpersonal, hkeep⟩

/-- What a body stores agrees with the columns it fills. -/
theorem CipherCall.Mirrors.agrees {body : Json} {request : CipherRequestBody} {c : Cipher}
    (hreads : C.jsonParse (C.jsonStringify body) = some body)
    (hrequest : parseCipherCreateRequestBody C body = some request)
    (hmirrors : ∀ request ∈ parseCipherCreateRequestBody C body,
      (readStored C request.encryptedJson request.type).isSome →
        ∀ payload ∈ body.fields?, hidesFiling payload = false)
    (hjson : c.encryptedJson = request.encryptedJson) (htype : c.type = request.type)
    (hfolder : c.folderId = request.folderId) (hfavorite : c.favorite = request.favorite) :
    c.CopiesAgree C := by
  intro stored hstored
  rw [hjson, htype, Option.mem_def] at hstored
  have hshows : ∀ payload, body = .object payload → hidesFiling payload = false := by
    rintro payload rfl
    exact hmirrors request hrequest (Option.isSome_of_mem hstored) payload rfl
  obtain ⟨hstype, hsfolder, hsfavorite⟩ := stored_agrees_of_body hreads hrequest hstored hshows
  exact ⟨hstype.trans htype.symm, hsfolder.trans hfolder.symm, hsfavorite.trans hfavorite.symm⟩

theorem createCipher_agree {input : CipherRecord} (h : db.PersonalCiphers P)
    (hrow : P input.row) : (createCipher input db).1.PersonalCiphers P := by
  unfold createCipher
  rcases execute_cases (Db.ciphersIn.insertReferencing (fun _ _ => [input.row]) Cipher.Refers)
    (fun _ => .ok input) db with ⟨he, -⟩ | ⟨db', r, hrun, he, -⟩
  · rw [he]
    exact h
  · rw [he]
    obtain ⟨-, T, hT, rfl, -⟩ := TableIn.insertReferencing_ok hrun
    intro c hc hpersonal
    change c ∈ T.rows at hc
    rw [hT] at hc
    rcases List.mem_append.mp hc with hold | hnew
    · exact h c hold hpersonal
    · rw [List.mem_singleton.mp hnew]
      exact hrow

theorem updateCipher_agree {input : CipherUpdateInput} (h : db.PersonalCiphers P)
    (hset : ∀ c, P (input.apply c)) : (updateCipher input db).1.PersonalCiphers P := by
  change (attemptUpdateCipher input db).1.PersonalCiphers P
  rcases attemptUpdateCipher_cases input db with ⟨hrun, -⟩ | ⟨T, hrun, hT⟩
  · rw [hrun]
    exact h
  · rw [hrun]
    exact h.updated hT fun c hhit _ => ⟨hhit.1.2.2, fun _ => hset c⟩

/-- **A move to where the payloads say the ciphers are.** The chunks run one after the other, and a
row that has been moved still has the payload it had. -/
theorem bulkMoveCiphers_agree {input : CipherBulkMoveInput}
    (h : db.PersonalCiphers (Cipher.CopiesAgree C))
    (hmirrors : (CipherCall.move input).Mirrors C db) :
    (bulkMoveCiphers input db).1.PersonalCiphers (Cipher.CopiesAgree C) := by
  have hboth : (bulkMoveCiphers input db).1.PersonalCiphers fun c => c.CopiesAgree C ∧
      (c.PersonalAmong input.ids input.userId → c.deletedAt = none →
        ∀ stored ∈ readStored C c.encryptedJson c.type, stored.folderId = input.folderId) := by
    refine commit_within (R := fun s s' : Db => s.PersonalCiphers _ → s'.PersonalCiphers _)
      (fun _ h => h) (fun h h' hs => h' (h hs)) (fun st hst => ?_)
      fun c hc hpersonal => ⟨h c hc hpersonal, hmirrors c hc⟩
    obtain ⟨chunk, hchunk, rfl⟩ := List.mem_map.mp hst
    intro s s' n r hrun hs
    obtain ⟨-, T, hT, rfl, -⟩ := TableIn.updateReferencing_ok hrun
    refine hs.updated hT fun c hhit _ => ⟨hhit.1.2.2, fun hc => ?_⟩
    refine ⟨fun stored hstored => ?_, fun _ _ => hc.2 ?_ hhit.2⟩
    · obtain ⟨htype, -, hfavorite⟩ := hc.1 stored hstored
      have hamong : c.PersonalAmong input.ids input.userId :=
        ⟨mem_of_mem_chunk hchunk _ hhit.1.1, hhit.1.2⟩
      exact ⟨htype, hc.2 hamong hhit.2 stored hstored, hfavorite⟩
    · exact ⟨mem_of_mem_chunk hchunk _ hhit.1.1, hhit.1.2⟩
  exact fun c hc hpersonal => (hboth c hc hpersonal).1

theorem bulkSoftDeleteCiphers_agree {input : CipherBulkMutationInput}
    (h : db.PersonalCiphers (Cipher.CopiesAgree C)) :
    (bulkSoftDeleteCiphers input db).1.PersonalCiphers (Cipher.CopiesAgree C) := by
  refine commit_within (R := fun s s' : Db => s.PersonalCiphers _ → s'.PersonalCiphers _)
    (fun _ h => h) (fun h h' hs => h' (h hs)) (fun st hst => ?_) h
  obtain ⟨chunk, -, rfl⟩ := List.mem_map.mp hst
  exact update_personalCiphers fun _ _ => ⟨rfl, id⟩

theorem bulkRestoreCiphers_agree {input : CipherBulkMutationInput}
    (h : db.PersonalCiphers (Cipher.CopiesAgree C)) :
    (bulkRestoreCiphers input db).1.PersonalCiphers (Cipher.CopiesAgree C) := by
  refine commit_within (R := fun s s' : Db => s.PersonalCiphers _ → s'.PersonalCiphers _)
    (fun _ h => h) (fun h h' hs => h' (h hs)) (fun st hst => ?_) h
  obtain ⟨chunk, -, hst⟩ := List.mem_flatMap.mp hst
  simp only [List.mem_cons, List.not_mem_nil, or_false] at hst
  rcases hst with rfl | rfl
  · exact select_within fun _ h => h
  · exact update_personalCiphers fun _ _ => ⟨rfl, id⟩

/-- **A request whose payloads mirror the columns keeps every row agreeing.** -/
theorem CipherCall.exec_agree {call : CipherCall} (h : db.PersonalCiphers (Cipher.CopiesAgree C))
    (hreads : call.ReadsBack C) (hmirrors : call.Mirrors C db) :
    (call.exec C db).PersonalCiphers (Cipher.CopiesAgree C) := by
  cases call with
  | create id userId body now =>
    dsimp only [exec]
    cases hrequest : parseCipherCreateRequestBody C body with
    | none => exact h
    | some request =>
      refine createCipher_agree h ?_
      exact Mirrors.agrees (hreads body rfl) hrequest hmirrors rfl rfl rfl rfl
  | update id userId body now =>
    dsimp only [exec]
    split
    · exact h
    · next request revisionDate hparsed =>
      split
      · exact h
      · simp only [parseCipherUpdateRequestBody, bind, Option.bind_eq_some_iff] at hparsed
        obtain ⟨request', hrequest, payload, -, text, -, hpair⟩ := hparsed
        cases hpair
        refine updateCipher_agree h fun c => ?_
        exact Mirrors.agrees (hreads body rfl) hrequest hmirrors rfl rfl rfl rfl
  | move input => exact bulkMoveCiphers_agree h hmirrors
  | trash input => exact execute_within (R := fun s s' : Db => s.PersonalCiphers _ →
      s'.PersonalCiphers _) (fun _ h => h) (update_personalCiphers fun _ _ => ⟨rfl, id⟩) h
  | bulkTrash input => exact bulkSoftDeleteCiphers_agree h
  | restore input => exact execute_within (R := fun s s' : Db => s.PersonalCiphers _ →
      s'.PersonalCiphers _) (fun _ h => h) (update_personalCiphers fun _ _ => ⟨rfl, id⟩) h
  | bulkRestore input => exact bulkRestoreCiphers_agree h
  | surroundings write => exact h

end Steps

/-! ## Runs -/

/-- Where the rotation can read the payload, every faithful request for the cipher matches it and,
while the cipher is not in the trash, passes the checks of the loop. -/
def Cipher.Rotatable (C : Codec) (db : Db) (c : Cipher) : Prop :=
  ∀ stored ∈ readStored C c.encryptedJson c.type,
    stored.Agrees c ∧ ∀ cipher : UserKeyRotationCipher, cipher.Faithful C c stored →
      classifyStoredUserKeyRotationCipherMetadata C cipher c.encryptedJson = .matches ∧
        (c.deletedAt = none → ∀ folderIds, (∀ id ∈ c.folderId, id ∈ folderIds) →
          checkCipher C c.userId folderIds (snapshotCiphers db c.userId) cipher = .passes)

theorem Cipher.CopiesAgree.rotatable {C : Codec} {db : Db} {c : Cipher} (h : c.CopiesAgree C)
    (hc : c ∈ db.ciphers.rows) (hpersonal : c.organizationId = none) : c.Rotatable C db := by
  intro stored hstored
  have hagrees := h stored hstored
  refine ⟨hagrees, fun cipher hfaithful => ⟨?_, fun hactive folderIds hfolders => ?_⟩⟩
  · exact (classify_of_faithful hstored hfaithful).mpr hagrees
  · exact checkCipher_of_faithful hc hpersonal hactive hstored hfaithful hfolders hagrees

/-- **Every cipher stays rotatable**: in a run whose payloads mirror their columns, every faithful
request for a personal cipher matches and passes. -/
theorem ciphers_rotatable {C : Codec} {db : Db} {issued : List String} {calls : List CipherCall}
    {c : Config Db String} (hreads : ∀ call ∈ calls, call.ReadsBack C)
    (h : db.PersonalCiphers (Cipher.CopiesAgree C))
    (hrun : Run ((rotatableSystem C).restrict fun db call => call.Mirrors C db)
      { state := db, issued := issued } calls c) :
    c.state.PersonalCiphers (Cipher.Rotatable C c.state) := by
  have hagree : (∀ call ∈ calls, call.ReadsBack C) →
      c.state.PersonalCiphers (Cipher.CopiesAgree C) := by
    refine hrun.invariant_trace (I := fun calls c => (∀ call ∈ calls, call.ReadsBack C) →
      c.state.PersonalCiphers (Cipher.CopiesAgree C)) (fun _ => h) ?_
    intro calls c call c' hnext ih hreads
    have heq : c'.state = call.exec C c.state := hnext.step.1
    rw [heq]
    refine CipherCall.exec_agree (ih fun call hcall => ?_) (hreads call ?_) hnext.step.2
    · exact hreads call (List.mem_append_left _ hcall)
    · exact List.mem_append_right _ (List.mem_singleton_self call)
  exact fun row hrow hpersonal => (hagree hreads row hrow hpersonal).rotatable hrow hpersonal

/-! ### A note -/

/-- The payload of a note in the folder `11111111-1111-4111-8111-111111111111`. -/
def notePayload (name : String) : Json :=
  .object
    [("type", .number 2), ("name", .string name),
      ("folderId", .string "11111111-1111-4111-8111-111111111111"),
      ("secureNote", .object [("type", .number 0)])]

def storedPayload : Json := notePayload "2.a"

def freshPayload : Json := notePayload "2.b"

/-- A codec that knows the two payloads. -/
def noteCodec : Codec where
  dateParse _ := none
  jsonParse text :=
    if text = storedPayload.plainText then some storedPayload
    else if text = freshPayload.plainText then some freshPayload
    else none
  jsonStringify := Json.plainText
  toISOString _ := ""

/-- An account with the folder of the note. -/
def noteOwner : Db where
  users := .singleton { id := "u" }
  folders := ⟨[
    { id := "11111111-1111-4111-8111-111111111111", userId := "u", encryptedName := "2.folder" }],
    by decide⟩

/-- The note is created, and moved to a folder. -/
def fileNote (folderId : Option String) : List CipherCall :=
  [.create "c" "u" storedPayload 1,
    .move { ids := ["c"], userId := "u", revisionDate := 2, folderId }]

theorem fileNote_reads {folderId : Option String} {calls : List CipherCall}
    (hcalls : ∀ call ∈ calls, call.body? = none) :
    ∀ call ∈ fileNote folderId ++ calls, call.ReadsBack noteCodec := by
  intro call hcall body hbody
  rcases List.mem_append.mp hcall with hfile | hmem
  · simp only [fileNote, List.mem_cons, List.not_mem_nil, or_false] at hfile
    rcases hfile with rfl | rfl
    · cases hbody
      dsimp only [noteCodec]
      rw [if_pos rfl]
    · cases hbody
  · rw [hcalls call hmem] at hbody
    cases hbody

/-- The row of the note, after a run. -/
def noteRow (c : Config Db String) : Option Cipher := c.state.ciphers.rows.head?

/-- The request that encrypts a row again, with the columns as they are. -/
def reencrypted (c : Cipher) (stored : StoredCipher) : UserKeyRotationCipher where
  id := c.id
  encryptedFor := c.userId
  folderId := c.folderId
  type := c.type
  favorite := c.favorite
  reprompt := stored.reprompt
  archivedDate := stored.archivedDate
  lastKnownRevisionDate := c.revisionDate
  metadata := stored.metadata
  encryptedJson := freshPayload.plainText

theorem reencrypted_faithful {c : Cipher} {stored : StoredCipher} {current rotated}
    (hcurrent : buildCipherEncryptedValues stored.value c.type = some current)
    (hrotated : parseCipherEncryptedValues noteCodec freshPayload.plainText c.type = some rotated)
    (hfresh : allEncryptedValuesRewrapped current rotated = true) :
    (reencrypted c stored).Faithful noteCodec c stored where
  id := rfl
  encryptedFor := rfl
  organizationId := rfl
  folderId := rfl
  type := rfl
  favorite := rfl
  revision := rfl
  reprompt := rfl
  archivedDate := rfl
  metadata := rfl
  ciphertexts :=
    ⟨current, rotated, hcurrent, hrotated, allEncryptedValuesRewrapped_iff.mp hfresh⟩

/-- The note goes to the trash and comes back. -/
def restoreNote : List CipherCall :=
  [.trash { id := "c", userId := "u", deletedAt := 3 },
    .restore { id := "c", userId := "u", revisionDate := 4 }]

/-- It is moved to where it is, before that. -/
def keptEnd : Config Db String :=
  (replay (CipherCall.exec noteCodec) CipherCall.draws { state := noteOwner }
    (fileNote (some "11111111-1111-4111-8111-111111111111") ++ restoreNote)).get
    (by decide +kernel)

def keptRow : Cipher := (noteRow keptEnd).get (by decide +kernel)

def keptStored : StoredCipher :=
  (readStored noteCodec keptRow.encryptedJson keptRow.type).get (by decide +kernel)

theorem ciphers_rotatable_restored :
    classifyStoredUserKeyRotationCipherMetadata noteCodec (reencrypted keptRow keptStored)
        keptRow.encryptedJson = .matches ∧
      checkCipher noteCodec keptRow.userId ["11111111-1111-4111-8111-111111111111"]
        (snapshotCiphers keptEnd.state keptRow.userId) (reencrypted keptRow keptStored) =
          .passes := by
  have hagree : noteOwner.PersonalCiphers (Cipher.CopiesAgree noteCodec) := by decide +kernel
  have hreads : ∀ call ∈ fileNote (some "11111111-1111-4111-8111-111111111111") ++ restoreNote,
      call.ReadsBack noteCodec := fileNote_reads (by simp [restoreNote, CipherCall.body?])
  have hrow : keptRow ∈ keptEnd.state.ciphers.rows := by decide +kernel
  have hrotatable := ciphers_rotatable hreads hagree
    (replay_restrict (Option.some_get _).symm (by decide +kernel)) keptRow hrow (by decide +kernel)
    keptStored (Option.some_get _).symm
  have hfaithful : (reencrypted keptRow keptStored).Faithful noteCodec keptRow keptStored :=
    reencrypted_faithful (Option.some_get (by decide +kernel)).symm
      (Option.some_get (by decide +kernel)).symm (by decide +kernel)
  obtain ⟨hmatches, hpasses⟩ := hrotatable.2 _ hfaithful
  exact ⟨hmatches, hpasses (by decide +kernel) _ (by decide +kernel)⟩

/-- It is moved out of its folder. -/
def movedEnd : Config Db String :=
  (replay (CipherCall.exec noteCodec) CipherCall.draws { state := noteOwner }
    (fileNote none)).get (by decide +kernel)

def movedRow : Cipher := (noteRow movedEnd).get (by decide +kernel)

def movedStored : StoredCipher :=
  (readStored noteCodec movedRow.encryptedJson movedRow.type).get (by decide +kernel)

/-- The payload still names the folder, and no rotation matches it any more. -/
theorem cipher_unrotatable :
    ∃ calls c, (∀ call ∈ calls, call.ReadsBack noteCodec) ∧
      Run (rotatableSystem noteCodec) { state := noteOwner } calls c ∧
      ∃ row ∈ c.state.ciphers.rows, row.organizationId = none ∧
        ∃ stored ∈ readStored noteCodec row.encryptedJson row.type, ∃ cipher,
          cipher.Faithful noteCodec row stored ∧
            classifyStoredUserKeyRotationCipherMetadata noteCodec cipher row.encryptedJson =
              .mismatch ∧
            ∀ folderIds, checkCipher noteCodec "u" folderIds (snapshotCiphers c.state "u") cipher =
              .conflict := by
  refine ⟨fileNote none, movedEnd, ?_, replay_run (Option.some_get _).symm, movedRow,
    by decide +kernel, by decide +kernel, movedStored, (Option.some_get _).symm,
    reencrypted movedRow movedStored, ?_, by decide +kernel, fun folderIds => ?_⟩
  · have hreads : ∀ call ∈ fileNote none ++ [], call.ReadsBack noteCodec :=
      fileNote_reads (by simp)
    exact fun call hcall => hreads call (by simpa using hcall)
  · exact reencrypted_faithful (Option.some_get (by decide +kernel)).symm
      (Option.some_get (by decide +kernel)).symm (by decide +kernel)
  · have hrow : (snapshotCiphers movedEnd.state "u").find?
        (fun c => c.id = (reencrypted movedRow movedStored).id) = some movedRow := by
      decide +kernel
    have hmismatch : classifyStoredUserKeyRotationCipherMetadata noteCodec
        (reencrypted movedRow movedStored) movedRow.encryptedJson = .mismatch := by
      decide +kernel
    unfold checkCipher
    rw [hrow]
    dsimp only
    rw [hmismatch]
    split_ifs <;> rfl

end HonoWarden
