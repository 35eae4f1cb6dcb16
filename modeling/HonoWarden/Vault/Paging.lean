import HonoWarden.Relational.Keyset
import HonoWarden.Vault.Access
import HonoWarden.Vault.Folders
import HonoWarden.Web.Date
import HonoWarden.Web.JsonInteger
import HonoWarden.Web.SignedToken

/-!
# Paging through the vault

Model of `listFoldersByUserPage` (`src/repositories/folder-repository.ts`), of
`listAccessibleCiphersByUserPage` (`src/repositories/cipher-repository.ts`) and of the tokens
`src/app.ts` continues a listing with. A token is no secret: it is the position of the last row of
a page, as JSON in base64url.

`revision_date` holds texts of `toISOString`, which are ordered as their times; the date of a token
is compared as the time it is parsed to.

Results:
* **`decodeContinuationToken_encode`**: a token is decoded to the position it was built from;
* `listAccessibleCiphersByUserPage_eq`, `listFoldersByUserPage_eq`: a page is cut from the listing;
* **`vaultListing_paged`**: following the tokens yields the unpaged listing.
-/

namespace HonoWarden

open Relational Web

/-! ## Tokens -/

/-- `ListResourceType`. -/
inductive ListResourceType where
  | folder
  | cipher
  deriving DecidableEq

def ListResourceType.name : ListResourceType → JsString
  | folder => js "folder"
  | cipher => js "cipher"

/-- `ListCursor`. -/
structure ListCursor where
  revisionDate : JsString
  id : JsString
  deriving DecidableEq

/-- `encodeBase64UrlUtf8`. -/
def encodeBase64UrlUtf8 (value : JsString) : JsString := base64UrlEncode (encodeUtf8 value)

/-- `decodeBase64UrlUtf8`. -/
def decodeBase64UrlUtf8 (value : JsString) : Option JsString :=
  if value = [] ∨ ¬ value.all (fun c => IsUrlUnit c) = true ∨ value.length % 4 = 1 then none
  else (atob (padBase64 (fromUrlAlphabet value))).map decodeText

section Tokens

variable {ν : Type} [JsonNumber ν]

variable (ν) in
/-- The object `buildContinuationToken` writes. -/
def continuationToken (resourceType : ListResourceType) (cursor : ListCursor) : JsonValue ν :=
  .object
    [(js "v", .number (JsonNumber.ofInt 1)), (js "type", .string resourceType.name),
      (js "revisionDate", .string cursor.revisionDate), (js "id", .string cursor.id)]

variable (ν) in
/-- The token of a position. -/
def encodeContinuationToken (resourceType : ListResourceType) (cursor : ListCursor) : JsString :=
  encodeBase64UrlUtf8 (continuationToken ν resourceType cursor).stringify

/-- `isContinuationToken`, and the cursor it finds. -/
def isContinuationToken (dateParse : DateParse) (resourceType : ListResourceType)
    (token : JsonValue ν) : Option ListCursor :=
  if (token.number? (js "v")).bind JsonNumber.integer? = some 1 ∧
      token.string? (js "type") = some resourceType.name then
    (token.string? (js "revisionDate")).bind fun revisionDate =>
      (token.string? (js "id")).bind fun id =>
        if revisionDate ≠ [] ∧ dateParse.parse revisionDate ≠ none ∧ id ≠ [] then
          some { revisionDate, id }
        else none
  else none

variable (ν) in
/-- `decodeContinuationToken`. -/
def decodeContinuationToken (dateParse : DateParse) (value : JsString)
    (resourceType : ListResourceType) : Option ListCursor :=
  (decodeBase64UrlUtf8 value).bind fun decoded =>
    if decoded = [] then none
    else (parseJson (ν := ν) decoded).bind (isContinuationToken dateParse resourceType)

end Tokens

/-! ## Pages -/

/-- `AND (revision_date > ? OR (revision_date = ? AND id > ?))`, where there is a cursor. -/
def afterCursor (dateParse : DateParse) (cursor : Option ListCursor) (revisionDate : Timestamp)
    (id : String) : Bool :=
  cursor.all fun cursor => (dateParse.parse cursor.revisionDate).any fun date =>
    date < (revisionDate : Int) ∨ date = (revisionDate : Int) ∧ toText cursor.id < id

/-- `FolderListPageInput` and `CipherListPageInput`, without the user. -/
structure ListPagination where
  limit : Nat
  cursor : Option ListCursor

/-- `FolderListPage` and `AccessibleCipherListPage`. -/
structure ListPage (β : Type) where
  items : List β
  hasMore : Bool

/-- The page of the rows a query returned. -/
def listPage {β : Type} (limit : Nat) (rows : List β) : ListPage β where
  items := rows.take limit
  hasMore := limit < rows.length

section Repository

variable (dateParse : DateParse) (db : Db)

/-- `listFoldersByUserPage`. -/
def listFoldersByUserPage (userId : String) (input : ListPagination) : ListPage FolderRecord :=
  listPage input.limit
    ((((db.folders.rows.filter fun f => (f.userId = userId ∧ f.deletedAt = none) ∧
        afterCursor dateParse input.cursor f.revisionDate f.id = true).mergeSort fun a b =>
          a.revisionDate < b.revisionDate ∨ a.revisionDate = b.revisionDate ∧ a.id ≤ b.id).take
            (input.limit + 1)).map folderFromRow)

/-- `listAccessibleCiphersByUserPage`. -/
def listAccessibleCiphersByUserPage (context : OrganizationAccessContext)
    (input : ListPagination) : Except String (ListPage AccessibleCipherRecord) :=
  (((sortCiphers (db.ciphers.rows.filter fun c => AccessibleCipher db context c ∧
      afterCursor dateParse input.cursor c.revisionDate c.id = true)).take (input.limit + 1)).mapM fun c =>
        accessibleCipherFromRow (accessibleCipherSelect db context c)).map (listPage input.limit)

end Repository

/-! ## Requests -/

section Requests

variable (ν : Type) [JsonNumber ν] (dateParse : DateParse) (db : Db)

/-- The cursor of a record. -/
def cursorOf (revisionDate : Timestamp) (id : String) : ListCursor where
  revisionDate := toISOString revisionDate
  id := js id

/-- `buildContinuationToken`; `position` is where a record stands in the listing. -/
def buildContinuationToken {β : Type} (resourceType : ListResourceType)
    (position : β → ListCursor) (page : ListPage β) : Option JsString :=
  if page.hasMore = true then
    page.items.getLast?.map fun lastItem => encodeContinuationToken ν resourceType (position lastItem)
  else none

/-- The cursor of `parseListPagination`, of a token that may be absent; `none` is `{ ok: false }`. -/
def parseListCursor (resourceType : ListResourceType) (rawContinuationToken : Option JsString) :
    Option (Option ListCursor) :=
  match rawContinuationToken with
  | none => some none
  | some raw =>
    if raw = [] then some none
    else (decodeContinuationToken ν dateParse raw resourceType).map some

/-- `GET /api/folders`: the page and its token; `none` is an error reply. -/
def getFolders (userId : String) (limit : Nat) (token : Option JsString) :
    Option (Page FolderRecord JsString) :=
  (parseListCursor ν dateParse .folder token).map fun cursor =>
    let page := listFoldersByUserPage dateParse db userId { limit, cursor }
    { items := page.items
      next := buildContinuationToken ν .folder (fun f => cursorOf f.revisionDate f.id) page }

/-- `GET /api/ciphers`. -/
def getCiphers (context : OrganizationAccessContext) (limit : Nat) (token : Option JsString) :
    Option (Page AccessibleCipherRecord JsString) :=
  (parseListCursor ν dateParse .cipher token).bind fun cursor =>
    match listAccessibleCiphersByUserPage dateParse db context { limit, cursor } with
    | .error _ => none
    | .ok page => some
      { items := page.items
        next := buildContinuationToken ν .cipher (fun c => cursorOf c.revisionDate c.id) page }

end Requests

/-! ## The round trip of a token -/

section RoundTrip

variable {ν : Type} [JsonNumber ν] {dateParse : DateParse}

theorem isSafeInteger_one : IsSafeInteger 1 := by decide

theorem continuationToken_faithful (resourceType : ListResourceType) (cursor : ListCursor) :
    (continuationToken ν resourceType cursor).Faithful := by
  have hnames : [js "v", js "type", js "revisionDate", js "id"].Nodup := by decide
  exact ⟨hnames, JsonNumber.exact_ofInt isSafeInteger_one, trivial, trivial, trivial, trivial⟩

theorem decodeBase64UrlUtf8_encode {bytes : List Byte} (hne : bytes ≠ []) :
    decodeBase64UrlUtf8 (base64UrlEncode bytes) = some (decodeText bytes) := by
  have hall : (base64UrlEncode bytes).all (fun c => IsUrlUnit c) = true :=
    List.all_eq_true.mpr fun c hc => decide_eq_true (isUrlUnit_of_mem_base64UrlEncode hc)
  have hmod : (base64UrlEncode bytes).length % 4 ≠ 1 := by
    rw [base64UrlEncode_eq, List.length_map]
    exact toSextets_length_mod bytes
  unfold decodeBase64UrlUtf8
  rw [if_neg (not_or.mpr ⟨mt base64UrlEncode_eq_nil_iff.mp hne,
      not_or.mpr ⟨not_not.mpr hall, hmod⟩⟩),
    atob_padBase64_base64UrlEncode, Option.map_some]

theorem isContinuationToken_token {resourceType : ListResourceType} {cursor : ListCursor}
    (hdate : cursor.revisionDate ≠ [] ∧ dateParse.parse cursor.revisionDate ≠ none)
    (hid : cursor.id ≠ []) :
    isContinuationToken dateParse resourceType (continuationToken ν resourceType cursor) =
      some cursor := by
  have hv : ((continuationToken ν resourceType cursor).number? (js "v")).bind
      JsonNumber.integer? = some 1 := JsonNumber.integer?_ofInt isSafeInteger_one
  have htype : (continuationToken ν resourceType cursor).string? (js "type") =
      some resourceType.name := rfl
  have hrevision : (continuationToken ν resourceType cursor).string? (js "revisionDate") =
      some cursor.revisionDate := rfl
  have hname : (continuationToken ν resourceType cursor).string? (js "id") = some cursor.id := rfl
  unfold isContinuationToken
  rw [if_pos ⟨hv, htype⟩, hrevision, hname, Option.bind_some, Option.bind_some,
    if_pos ⟨hdate.1, hdate.2, hid⟩]

/-- **A token is decoded to the position it was built from.** -/
theorem decodeContinuationToken_encode {resourceType : ListResourceType} {cursor : ListCursor}
    (hdate : cursor.revisionDate ≠ [] ∧ dateParse.parse cursor.revisionDate ≠ none)
    (hid : cursor.id ≠ []) :
    decodeContinuationToken ν dateParse (encodeContinuationToken ν resourceType cursor)
      resourceType = some cursor := by
  have hfaithful := continuationToken_faithful (ν := ν) resourceType cursor
  have hbytes : jsonBytes (continuationToken ν resourceType cursor) ≠ [] := jsonBytes_ne_nil _
  have hparse : parseJson (decodeText (jsonBytes (continuationToken ν resourceType cursor))) =
      some (continuationToken ν resourceType cursor) := parseJson_decodeText hfaithful
  have hdecoded : decodeText (jsonBytes (continuationToken ν resourceType cursor)) ≠ [] := by
    intro h
    rw [h] at hparse
    cases hparse
  have hdecode : decodeBase64UrlUtf8 (encodeContinuationToken ν resourceType cursor) =
      some (decodeText (jsonBytes (continuationToken ν resourceType cursor))) :=
    decodeBase64UrlUtf8_encode hbytes
  unfold decodeContinuationToken
  rw [hdecode, Option.bind_some, if_neg hdecoded, hparse, Option.bind_some,
    isContinuationToken_token hdate hid]

/-- A row a token can name: its date is a date, and its id is not empty. -/
structure Listable (revisionDate : Timestamp) (id : String) : Prop where
  isTime : IsTime revisionDate
  id_ne : id ≠ ""

/-- A request with the token of a row asks for what is behind the row. -/
theorem parseListCursor_encode {resourceType : ListResourceType} {revisionDate : Timestamp}
    {id : String} (h : Listable revisionDate id) :
    parseListCursor ν dateParse resourceType
      (some (encodeContinuationToken ν resourceType (cursorOf revisionDate id))) =
        some (some (cursorOf revisionDate id)) := by
  have hparse := dateParse.parse_toISOString h.isTime
  have hdate : (cursorOf revisionDate id).revisionDate ≠ [] ∧
      dateParse.parse (cursorOf revisionDate id).revisionDate ≠ none := by
    refine ⟨fun hnil => ?_, fun hnone => ?_⟩
    · have hlength : (toISOString revisionDate).length ≠ 0 := by
        unfold toISOString timeText
        simp
      exact hlength (congrArg List.length hnil)
    · rw [cursorOf, hparse] at hnone
      cases hnone
  have hid : (cursorOf revisionDate id).id ≠ [] := by
    intro hnil
    exact h.id_ne (js_injective (hnil.trans rfl))
  have hdecode := @decodeContinuationToken_encode ν _ dateParse resourceType _ hdate hid
  have hne : encodeContinuationToken ν resourceType (cursorOf revisionDate id) ≠ [] := by
    intro hnil
    rw [hnil] at hdecode
    cases hdecode
  unfold parseListCursor
  dsimp only
  rw [if_neg hne, hdecode, Option.map_some]

theorem afterCursor_cursorOf {date : Timestamp} {id : String} (hdate : IsTime date)
    {revisionDate : Timestamp} {id' : String} :
    afterCursor dateParse (some (cursorOf date id)) revisionDate id' =
      decide (date < revisionDate ∨ date = revisionDate ∧ id < id') := by
  unfold afterCursor cursorOf
  rw [Option.all_some, dateParse.parse_toISOString hdate, Option.any_some, toText_js]
  simp only [Nat.cast_lt, Nat.cast_inj]

end RoundTrip


/-! ## Pages of the listing -/

section Listing

/-- Where a row stands in its listing. -/
def listKey (revisionDate : Timestamp) (id : String) : Nat ×ₗ String := toLex (revisionDate, id)

theorem listKey_le {date date' : Timestamp} {id id' : String} :
    listKey date id ≤ listKey date' id' ↔ date < date' ∨ date = date' ∧ id ≤ id' :=
  Prod.Lex.toLex_le_toLex

theorem listKey_lt {date date' : Timestamp} {id id' : String} :
    listKey date id < listKey date' id' ↔ date < date' ∨ date = date' ∧ id < id' :=
  Prod.Lex.toLex_lt_toLex

def cipherKey (c : Cipher) : Nat ×ₗ String := listKey c.revisionDate c.id

def folderKey (f : Folder) : Nat ×ₗ String := listKey f.revisionDate f.id

theorem sortCiphers_eq (ciphers : List Cipher) : sortCiphers ciphers = sortBy cipherKey ciphers := by
  unfold sortCiphers sortBy
  congr 1
  funext a b
  exact decide_eq_decide.mpr listKey_le.symm

theorem sortFolders_eq (folders : List Folder) : (folders.mergeSort fun a b =>
    a.revisionDate < b.revisionDate ∨ a.revisionDate = b.revisionDate ∧ a.id ≤ b.id) =
      sortBy folderKey folders := by
  unfold sortBy
  congr 1
  funext a b
  exact decide_eq_decide.mpr listKey_le.symm

theorem cipherKey_nodup (db : Db) (p : Cipher → Bool) :
    ((db.ciphers.rows.filter p).map cipherKey).Nodup := by
  refine List.pairwise_map.mpr ((db.ciphers.keyed.filter p).imp fun hne heq => hne (Or.inl ?_))
  exact (Prod.ext_iff.mp (toLex.injective heq)).2

theorem folderKey_nodup (db : Db) (p : Folder → Bool) :
    ((db.folders.rows.filter p).map folderKey).Nodup := by
  refine List.pairwise_map.mpr ((db.folders.keyed.filter p).imp fun hne heq => hne (Or.inl ?_))
  exact (Prod.ext_iff.mp (toLex.injective heq)).2

/-- The position a cursor stands for. -/
def ListCursor.Names (dateParse : DateParse) (cursor : Option ListCursor)
    (position : Option (Nat ×ₗ String)) : Prop :=
  ∀ revisionDate id, afterCursor dateParse cursor revisionDate id =
    position.all fun position => position < listKey revisionDate id

theorem names_none {dateParse : DateParse} : ListCursor.Names dateParse none none :=
  fun _ _ => rfl

theorem names_cursorOf {dateParse : DateParse} {date : Timestamp} {id : String}
    (hdate : IsTime date) :
    ListCursor.Names dateParse (some (cursorOf date id)) (some (listKey date id)) := by
  intro revisionDate id'
  rw [afterCursor_cursorOf hdate, Option.all_some]
  exact decide_eq_decide.mpr listKey_lt.symm

variable {dateParse : DateParse} {db : Db} {limit : Nat} {cursor : Option ListCursor}
  {position : Option (Nat ×ₗ String)}

/-- A page of ciphers is cut from the listing, behind the position of the cursor. -/
theorem listAccessibleCiphersByUserPage_eq {context : OrganizationAccessContext}
    (hnames : ListCursor.Names dateParse cursor position) :
    listAccessibleCiphersByUserPage dateParse db context { limit, cursor } =
      (fetchPage (fun c => accessibleCipherFromRow (accessibleCipherSelect db context c)) limit
        (behind cipherKey position (sortCiphers
          (db.ciphers.rows.filter fun c => AccessibleCipher db context c)))).map
            (listPage limit) := by
  have hrows : sortCiphers (db.ciphers.rows.filter fun c => AccessibleCipher db context c ∧
      afterCursor dateParse cursor c.revisionDate c.id = true) =
        behind cipherKey position (sortCiphers
          (db.ciphers.rows.filter fun c => AccessibleCipher db context c)) := by
    unfold behind
    rw [sortCiphers_eq, sortCiphers_eq, ← sortBy_filter (cipherKey_nodup db _), List.filter_filter]
    congr 2
    funext c
    rw [Bool.decide_and, Bool.decide_eq_true, hnames, Bool.and_comm]
    rfl
  unfold listAccessibleCiphersByUserPage fetchPage
  dsimp only
  rw [hrows]

/-- A page of folders is cut from the listing, behind the position of the cursor. -/
theorem listFoldersByUserPage_eq {userId : String}
    (hnames : ListCursor.Names dateParse cursor position) :
    listFoldersByUserPage dateParse db userId { limit, cursor } =
      listPage limit (((behind folderKey position (sortBy folderKey
        (db.folders.rows.filter fun f => f.userId = userId ∧ f.deletedAt = none))).take
          (limit + 1)).map folderFromRow) := by
  have hrows : ((db.folders.rows.filter fun f => (f.userId = userId ∧ f.deletedAt = none) ∧
      afterCursor dateParse cursor f.revisionDate f.id = true).mergeSort fun a b =>
        a.revisionDate < b.revisionDate ∨ a.revisionDate = b.revisionDate ∧ a.id ≤ b.id) =
        behind folderKey position (sortBy folderKey
          (db.folders.rows.filter fun f => f.userId = userId ∧ f.deletedAt = none)) := by
    unfold behind
    rw [sortFolders_eq, ← sortBy_filter (folderKey_nodup db _), List.filter_filter]
    congr 2
    funext f
    rw [Bool.decide_and, Bool.decide_eq_true, hnames, Bool.and_comm]
    rfl
  unfold listFoldersByUserPage
  dsimp only
  rw [hrows]

end Listing


/-! ## Following the tokens -/

section Follow

variable {ν : Type} [JsonNumber ν] {dateParse : DateParse} {db : Db} {limit : Nat}

/-- A request for a page of ciphers is answered with the first of what the cursor leaves. -/
theorem getCiphers_eq {context : OrganizationAccessContext} {token : Option JsString}
    {cursor : Option ListCursor} {position : Option (Nat ×ₗ String)}
    (hparse : parseListCursor ν dateParse .cipher token = some cursor)
    (hnames : ListCursor.Names dateParse cursor position) :
    getCiphers ν dateParse db context limit token =
      servePage (fun c => accessibleCipherFromRow (accessibleCipherSelect db context c))
        (fun c => encodeContinuationToken ν .cipher (cursorOf c.revisionDate c.id)) limit
        (behind cipherKey position (sortCiphers
          (db.ciphers.rows.filter fun c => AccessibleCipher db context c))) := by
  unfold getCiphers servePage
  rw [hparse, Option.bind_some, listAccessibleCiphersByUserPage_eq hnames]
  cases fetchPage (fun c => accessibleCipherFromRow (accessibleCipherSelect db context c)) limit
      (behind cipherKey position (sortCiphers
        (db.ciphers.rows.filter fun c => AccessibleCipher db context c))) with
  | error e => rfl
  | ok found =>
    refine congrArg some (congrArg (Page.mk _) ?_)
    unfold buildContinuationToken listPage
    simp only [decide_eq_true_eq]

/-- A request for a page of folders is answered with the first of what the cursor leaves. -/
theorem getFolders_eq {userId : String} {token : Option JsString} {cursor : Option ListCursor}
    {position : Option (Nat ×ₗ String)}
    (hparse : parseListCursor ν dateParse .folder token = some cursor)
    (hnames : ListCursor.Names dateParse cursor position) :
    getFolders ν dateParse db userId limit token =
      servePage (fun f => (.ok (folderFromRow f) : Except Unit FolderRecord))
        (fun f => encodeContinuationToken ν .folder (cursorOf f.revisionDate f.id)) limit
        (behind folderKey position (sortBy folderKey
          (db.folders.rows.filter fun f => f.userId = userId ∧ f.deletedAt = none))) := by
  unfold getFolders servePage fetchPage
  rw [hparse, Option.map_some, listFoldersByUserPage_eq hnames]
  have hread (rows : List Folder) :
      rows.mapM (fun f => (.ok (folderFromRow f) : Except Unit FolderRecord)) =
        .ok (rows.map folderFromRow) := by
    rw [mapM_eq_ok_iff_forall₂, List.forall₂_map_right_iff]
    exact List.forall₂_same.mpr fun _ _ => rfl
  rw [hread]
  refine congrArg some (congrArg (Page.mk _) ?_)
  unfold buildContinuationToken listPage
  simp only [decide_eq_true_eq]

/-- **Following the tokens yields the unpaged listing.** Whatever the page size, a client that
starts without a token and follows each token it gets gathers exactly the folders of the unpaged
listing, and exactly the ciphers of the unpaged listing with their flags and collections where this
listing can be read, and it comes to no end where it cannot. -/
theorem vaultListing_paged (hlimit : 0 < limit) :
    (∀ userId : String, (∀ f ∈ db.folders.rows, f.userId = userId → Listable f.revisionDate f.id) →
      ∀ items, Followed (getFolders ν dateParse db userId limit) none items ↔
        listFoldersByUser db userId = items) ∧
    ∀ context : OrganizationAccessContext, (∀ c ∈ db.ciphers.rows, AccessibleCipher db context c →
        Listable c.revisionDate c.id) →
      ∀ items, Followed (getCiphers ν dateParse db context limit) none items ↔
        listAccessibleCiphersByUser db context = .ok items := by
  constructor
  · intro userId hlistable items
    have hread : (sortBy folderKey (db.folders.rows.filter fun f =>
        f.userId = userId ∧ f.deletedAt = none)).mapM
          (fun f => (.ok (folderFromRow f) : Except Unit FolderRecord)) =
            .ok (listFoldersByUser db userId) := by
      unfold listFoldersByUser
      rw [sortFolders_eq, mapM_eq_ok_iff_forall₂, List.forall₂_map_right_iff]
      exact List.forall₂_same.mpr fun _ _ => rfl
    rw [followed_iff (pairwise_lt_sortBy (folderKey_nodup db _)) hlimit, hread,
      Except.ok.injEq]
    · rw [getFolders_eq rfl names_none, behind_none]
    · intro f hf b hb
      obtain rfl := Except.ok.inj hb
      obtain ⟨hmem, hown⟩ := List.mem_filter.mp ((sortBy_perm folderKey _).mem_iff.mp hf)
      have hvalid := hlistable f hmem (of_decide_eq_true hown).1
      exact getFolders_eq (parseListCursor_encode hvalid) (names_cursorOf hvalid.isTime)
  · intro context hlistable items
    rw [followed_iff
      (pairwise_lt_sortBy (cipherKey_nodup db fun c => AccessibleCipher db context c)) hlimit]
    · unfold listAccessibleCiphersByUser
      rw [sortCiphers_eq]
    · rw [getCiphers_eq rfl names_none, behind_none, sortCiphers_eq]
    · intro c hc r hr
      obtain ⟨hmem, haccess⟩ := List.mem_filter.mp ((sortBy_perm cipherKey _).mem_iff.mp hc)
      have hvalid := hlistable c hmem (of_decide_eq_true haccess)
      have hrecord := (accessibleCipherFromRow_ok hr).1
      have hdate : r.revisionDate = c.revisionDate := congrArg CipherRecord.revisionDate hrecord
      have hid : r.id = c.id := congrArg CipherRecord.id hrecord
      rw [hdate, hid, getCiphers_eq (parseListCursor_encode hvalid) (names_cursorOf hvalid.isTime),
        sortCiphers_eq]
      rfl

end Follow


/-- Two folders and two ciphers of one user, each pair of one date. -/
def tiedVault : Db where
  folders := ⟨[{ id := "b", userId := "u", encryptedName := "n", revisionDate := 7 },
    { id := "a", userId := "u", encryptedName := "m", revisionDate := 7 }], by decide⟩
  ciphers := ⟨[{ id := "d", userId := "u", encryptedJson := "j", revisionDate := 7 },
    { id := "c", userId := "u", encryptedJson := "k", revisionDate := 7 }], by decide⟩

theorem vaultListing_paged_tied :
    (∃ items : List FolderRecord, items.length = 2 ∧
      Followed (getFolders Int isoParse tiedVault "u" 1) none items) ∧
    ∃ items, Followed (getCiphers Int isoParse tiedVault { userId := "u" } 1) none items := by
  have hfolders : (listFoldersByUser tiedVault "u").length = 2 := by
    unfold listFoldersByUser
    rw [List.length_map, List.length_mergeSort]
    decide
  have hpersonal : ∀ c ∈ tiedVault.ciphers.rows, c.organizationId = none := by decide
  obtain ⟨items, hitems⟩ : ∃ items,
      listAccessibleCiphersByUser tiedVault { userId := "u" } = .ok items := by
    refine mapM_total fun c hc => ⟨_, if_pos (hpersonal c ?_)⟩
    exact List.mem_of_mem_filter (mem_sortCiphers.mp hc)
  refine ⟨⟨_, hfolders, ((@vaultListing_paged Int _ isoParse tiedVault 1 (by decide)).1 "u" ?_ _).mpr rfl⟩,
    ⟨items, ((@vaultListing_paged Int _ isoParse tiedVault 1 (by decide)).2 { userId := "u" } ?_ items).mpr hitems⟩⟩
  · intro folder hfolder _
    rcases List.mem_pair.mp hfolder with rfl | rfl
    · exact ⟨by decide, by decide⟩
    · exact ⟨by decide, by decide⟩
  · intro cipher hcipher _
    rcases List.mem_pair.mp hcipher with rfl | rfl
    · exact ⟨by decide, by decide⟩
    · exact ⟨by decide, by decide⟩

end HonoWarden
