import HonoWarden.Audit.Record
import HonoWarden.Token.Issue
import HonoWarden.Web.TextSize

/-!
# Cursors of the organization audit

Model of `parseOrganizationAuditQuery`, `issueOrganizationAuditCursor` and what they call
(`src/domain/organization-audit.ts`). A cursor is a signed JSON text; whatever throws on the way
back refuses it. Numbers of milliseconds and seconds are integers.

* `queries` are the members of the object, each name once, with the values of each.
* Windows and expiries are compared as texts and as numbers, as the source does.
-/

namespace HonoWarden

open Web

/-! ## The code -/

/-- `OrganizationAuditPosition`. -/
structure OrganizationAuditPosition where
  occurredAt : JsString
  id : JsString
  deriving DecidableEq

/-- `OrganizationAuditQuery`. -/
structure OrganizationAuditQuery where
  fromDate : JsString
  toDate : JsString
  eventName : Option OrganizationAuditEventName
  filterActorUserId : Option JsString
  limit : Int
  cursor : Option OrganizationAuditPosition
  issuedAt : Int
  expiresAt : Int
  deriving DecidableEq

/-- `CursorPayload`, but its constants `v` and `purpose`. -/
structure AuditCursorPayload where
  organizationId : JsString
  actorUserId : JsString
  fromDate : JsString
  toDate : JsString
  eventName : Option OrganizationAuditEventName
  filterActorUserId : Option JsString
  limit : Int
  occurredAt : JsString
  id : JsString
  issuedAt : Int
  expiresAt : Int
  deriving DecidableEq

/-- `isOrganizationAuditCursorSecret`, of a string. -/
def IsCursorSecret (secret : JsString) : Prop := 32 ≤ (encodeUtf8 secret).length

instance : DecidablePred IsCursorSecret := fun _ => inferInstanceAs (Decidable (_ ≤ _))

/-- `validWindow`. -/
def ValidWindow (dateParse : DateParse) (fromDate toDate now : JsString) : Prop :=
  IsCanonicalTimestamp dateParse fromDate ∧ IsCanonicalTimestamp dateParse toDate ∧
    fromDate < toDate ∧
    (∃ t ∈ dateParse.parse toDate, ∃ f ∈ dateParse.parse fromDate, t - f ≤ 31 * 86400000) ∧
    toDate ≤ now

instance (dateParse : DateParse) (fromDate toDate now : JsString) :
    Decidable (ValidWindow dateParse fromDate toDate now) := inferInstanceAs (Decidable (_ ∧ _))

/-- What `validCursorPayload` asks of the fields of a payload. That no date stands at the end of a
second out of the range of dates is an exception in the source; both callers refuse then. -/
def AuditCursorPayload.Valid (dateParse : DateParse) (payload : AuditCursorPayload)
    (nowSeconds : Int) : Prop :=
  IsOrganizationAuditId payload.organizationId ∧ IsOrganizationAuditId payload.actorUserId ∧
    IsCanonicalTimestamp dateParse payload.fromDate ∧
    IsCanonicalTimestamp dateParse payload.toDate ∧
    IsCanonicalTimestamp dateParse payload.occurredAt ∧ IsOrganizationAuditId payload.id ∧
    (∀ id ∈ payload.filterActorUserId, IsOrganizationAuditId id) ∧
    (1 ≤ payload.limit ∧ payload.limit ≤ 100) ∧ IsSafeInteger payload.issuedAt ∧
    IsSafeInteger payload.expiresAt ∧ payload.issuedAt ≤ nowSeconds ∧
    payload.expiresAt = payload.issuedAt + 900 ∧ nowSeconds < payload.expiresAt ∧
    IsTime (nowSeconds * 1000 + 999) ∧
    ValidWindow dateParse payload.fromDate payload.toDate (toISOString (nowSeconds * 1000 + 999)) ∧
    payload.fromDate ≤ payload.occurredAt ∧ payload.occurredAt < payload.toDate

instance AuditCursorPayload.decidableValid (dateParse : DateParse) (payload : AuditCursorPayload)
    (nowSeconds : Int) :
    Decidable (payload.Valid dateParse nowSeconds) := inferInstanceAs (Decidable (_ ∧ _))

section Payloads

variable {ν : Type} [JsonNumber ν]

/-- A string, or `null`. -/
def nullableText : Option JsString → JsonValue ν
  | none => .null
  | some text => .string text

/-- The payload as an object. -/
def AuditCursorPayload.value (payload : AuditCursorPayload) : JsonValue ν :=
  .object
    [(js "v", .number (JsonNumber.ofInt 1)), (js "purpose", .string (js "organization-audit")),
      (js "organizationId", .string payload.organizationId),
      (js "actorUserId", .string payload.actorUserId), (js "from", .string payload.fromDate),
      (js "to", .string payload.toDate),
      (js "eventName", nullableText (payload.eventName.map OrganizationAuditEventName.text)),
      (js "filterActorUserId", nullableText payload.filterActorUserId),
      (js "limit", .number (JsonNumber.ofInt payload.limit)),
      (js "occurredAt", .string payload.occurredAt), (js "id", .string payload.id),
      (js "issuedAt", .number (JsonNumber.ofInt payload.issuedAt)),
      (js "expiresAt", .number (JsonNumber.ofInt payload.expiresAt))]

/-- `cursorKeys`. -/
def cursorKeys : List JsString :=
  [js "v", js "purpose", js "organizationId", js "actorUserId", js "from", js "to", js "eventName",
    js "filterActorUserId", js "limit", js "occurredAt", js "id", js "issuedAt", js "expiresAt"]

/-- `value[name]`, where it is a string or `null`. -/
def nullableText? (value : JsonValue ν) (name : JsString) : Option (Option JsString) :=
  match value.get? name with
  | some .null => some none
  | some (.string text) => some (some text)
  | _ => none

/-- `value[name]`, where it is an integer. -/
def integerField? (value : JsonValue ν) (name : JsString) : Option Int :=
  (value.number? name).bind JsonNumber.integer?

/-- The text of an event name, or none. -/
def readOptionalEventName : Option JsString → Option (Option OrganizationAuditEventName)
  | none => some none
  | some text => (readEventName text).map some

/-- The keys of a payload are `cursorKeys`. -/
def hasCursorKeys : JsonValue ν → Bool
  | .object members =>
    members.length = cursorKeys.length ∧ (members.all fun m => m.1 ∈ cursorKeys) = true
  | _ => false

/-- The fields of a payload with their types. -/
def readCursorFields (value : JsonValue ν) : Option AuditCursorPayload :=
  (value.string? (js "organizationId")).bind fun organizationId =>
    (value.string? (js "actorUserId")).bind fun actorUserId =>
      (value.string? (js "from")).bind fun fromDate =>
        (value.string? (js "to")).bind fun toDate =>
          ((nullableText? value (js "eventName")).bind readOptionalEventName).bind fun eventName =>
            (nullableText? value (js "filterActorUserId")).bind fun filterActorUserId =>
              (integerField? value (js "limit")).bind fun limit =>
                (value.string? (js "occurredAt")).bind fun occurredAt =>
                  (value.string? (js "id")).bind fun id =>
                    (integerField? value (js "issuedAt")).bind fun issuedAt =>
                      (integerField? value (js "expiresAt")).map fun expiresAt =>
                        { organizationId, actorUserId, fromDate, toDate, eventName,
                          filterActorUserId, limit, occurredAt, id, issuedAt, expiresAt }

/-- `validCursorPayload`, and the payload it passes. -/
def readCursorPayload (dateParse : DateParse) (value : JsonValue ν) (nowSeconds : Int) :
    Option AuditCursorPayload :=
  if hasCursorKeys value = true ∧ integerField? value (js "v") = some 1 ∧
      value.string? (js "purpose") = some (js "organization-audit") then
    (readCursorFields value).filter fun payload => payload.Valid dateParse nowSeconds
  else none

/-- `decodeBytes`; whatever throws in it refuses the cursor. -/
def decodeCursorText (value : JsString) : Option (List Byte) :=
  decodeUrl (fun value => atob (padBase64 (fromUrlAlphabet value))) value

variable (ν) in
/-- `verifyCursor`. -/
def verifyCursor (mac : Mac) (dateParse : DateParse) (token secret : JsString) (nowSeconds : Int) :
    Option AuditCursorPayload :=
  if 4096 < token.length ∨ ¬ IsCursorSecret secret then none
  else
    match token.splitOn 46 with
    | [payloadEncoded, signatureEncoded] =>
      if payloadEncoded = [] ∨ signatureEncoded = [] ∨ signatureEncoded.length ≠ 43 then none
      else
        (decodeCursorText signatureEncoded).bind fun signature =>
          (decodeCursorText payloadEncoded).bind fun payloadBytes =>
            if signature.length ≠ 32 ∨
                mac.sign secret (cursorPurpose ++ payloadEncoded) ≠ signature then none
            else
              ((decodeTextFatal payloadBytes).bind (parseJson (ν := ν))).bind fun value =>
                readCursorPayload dateParse value nowSeconds
    | _ => none

/-- The payload of a cursor. -/
def cursorPayload (query : OrganizationAuditQuery) (organizationId actorUserId : JsString)
    (position : OrganizationAuditPosition) : AuditCursorPayload where
  organizationId := organizationId
  actorUserId := actorUserId
  fromDate := query.fromDate
  toDate := query.toDate
  eventName := query.eventName
  filterActorUserId := query.filterActorUserId
  limit := query.limit
  occurredAt := position.occurredAt
  id := position.id
  issuedAt := query.issuedAt
  expiresAt := query.expiresAt

variable (ν) in
/-- A payload and its tag. -/
def cursorToken (mac : Mac) (secret : JsString) (payload : AuditCursorPayload) : JsString :=
  encodeJson (ν := ν) payload.value ++
    46 :: base64UrlEncode (mac.sign secret (cursorPurpose ++ encodeJson (ν := ν) payload.value))

variable (ν) in
/-- `issueOrganizationAuditCursor`; `none` is its exception. -/
def issueOrganizationAuditCursor (mac : Mac) (dateParse : DateParse)
    (query : OrganizationAuditQuery) (organizationId actorUserId : JsString)
    (position : OrganizationAuditPosition) (cursorSecret : JsString) : Option JsString :=
  let payload := cursorPayload query organizationId actorUserId position
  if ¬ IsCursorSecret cursorSecret ∨ ¬ payload.Valid dateParse payload.issuedAt ∨
      4096 < (cursorToken ν mac cursorSecret payload).length then none
  else some (cursorToken ν mac cursorSecret payload)

end Payloads

/-! ### Queries -/

/-- The query of a request: its names with their values. -/
abbrev AuditQueries := List (JsString × List JsString)

/-- `input.operation`. -/
inductive AuditOperation where
  | query
  | exportCsv
  deriving DecidableEq, Repr

/-- The argument `input` of `parseOrganizationAuditQuery`. -/
structure AuditQueryInput where
  operation : AuditOperation
  organizationId : JsString
  actorUserId : JsString
  now : JsString
  cursorSecret : JsString

/-- `allowedKeys`. -/
def AuditOperation.allowedKeys : AuditOperation → List JsString
  | .query => [js "from", js "to", js "eventName", js "actorUserId", js "limit",
      js "continuationToken"]
  | .exportCsv => [js "from", js "to", js "eventName", js "actorUserId"]

/-- `read`. -/
def readAuditQuery (queries : AuditQueries) (key : JsString) : Option JsString :=
  (queries.lookup key).bind List.head?

/-- `parseLimit`. A number above 100 is refused, however it is rounded. -/
def parseAuditLimit (value : JsString) : Option Int :=
  if (value.head?.any fun c => 49 ≤ c ∧ c ≤ 57) = true ∧ value.all (fun c => IsDigit c) = true ∧
      readDecimal value ≤ 100 then some (readDecimal value)
  else none

/-- The names and values that `parseOrganizationAuditQuery` takes. -/
def AuditQueries.Allowed (queries : AuditQueries) (operation : AuditOperation) : Prop :=
  ∀ entry ∈ queries, entry.1 ∈ operation.allowedKeys ∧ entry.2.length = 1 ∧
    ∀ value ∈ entry.2.head?, value ≠ []

instance (queries : AuditQueries) (operation : AuditOperation) :
    Decidable (queries.Allowed operation) := inferInstanceAs (Decidable (∀ _ ∈ queries, _))

/-- `from`, where neither the request nor a cursor has one: seven days before `to`. -/
def defaultFrom (dateParse : DateParse) (toDate : JsString) : JsString :=
  if IsCanonicalTimestamp dateParse toDate then
    ((dateParse.parse toDate).map fun t => toISOString (t - 7 * 86400000)).getD []
  else []

/-- `limit`; `none` is its `null`. -/
def readAuditLimit (queries : AuditQueries) (operation : AuditOperation)
    (token : Option AuditCursorPayload) : Option Int :=
  match operation with
  | .exportCsv => some 1000
  | .query =>
    match readAuditQuery queries (js "limit") with
    | none => some ((token.map AuditCursorPayload.limit).getD 50)
    | some rawLimit => parseAuditLimit rawLimit

/-- `parseOrganizationAuditQuery`, from where the cursor is verified. -/
def buildAuditQuery (dateParse : DateParse) (queries : AuditQueries) (input : AuditQueryInput)
    (nowSeconds : Int) (token : Option AuditCursorPayload) : Option OrganizationAuditQuery :=
  let toDate := ((readAuditQuery queries (js "to")).or (token.map AuditCursorPayload.toDate)).getD
    input.now
  let fromDate := ((readAuditQuery queries (js "from")).or
    (token.map AuditCursorPayload.fromDate)).getD (defaultFrom dateParse toDate)
  let rawEventName := (readAuditQuery queries (js "eventName")).or
    (token.bind fun t => t.eventName.map OrganizationAuditEventName.text)
  let filterActorUserId := (readAuditQuery queries (js "actorUserId")).or
    (token.bind AuditCursorPayload.filterActorUserId)
  (readOptionalEventName rawEventName).bind fun eventName =>
    (readAuditLimit queries input.operation token).bind fun limit =>
      if ¬ ValidWindow dateParse fromDate toDate input.now ∨
          (filterActorUserId.any fun id => ¬ IsOrganizationAuditId id) = true ∨
          (token.any fun t => fromDate ≠ t.fromDate ∨ toDate ≠ t.toDate ∨
            rawEventName ≠ t.eventName.map OrganizationAuditEventName.text ∨
            filterActorUserId ≠ t.filterActorUserId ∨ limit ≠ t.limit) = true then none
      else
        some
          { fromDate, toDate, eventName, filterActorUserId, limit
            cursor := token.map fun t => { occurredAt := t.occurredAt, id := t.id }
            issuedAt := (token.map AuditCursorPayload.issuedAt).getD nowSeconds
            expiresAt := (token.map AuditCursorPayload.expiresAt).getD (nowSeconds + 900) }

/-- `parseOrganizationAuditQuery`; `none` is `{ ok: false }`. -/
def parseOrganizationAuditQuery (ν : Type) [JsonNumber ν] (mac : Mac) (dateParse : DateParse)
    (queries : AuditQueries) (input : AuditQueryInput) : Option OrganizationAuditQuery :=
  if ¬ IsOrganizationAuditId input.organizationId ∨ ¬ IsOrganizationAuditId input.actorUserId ∨
      ¬ IsCanonicalTimestamp dateParse input.now ∨ ¬ queries.Allowed input.operation then none
  else
    (dateParse.parse input.now).bind fun now =>
      match readAuditQuery queries (js "continuationToken") with
      | none => buildAuditQuery dateParse queries input (now / 1000) none
      | some rawToken =>
        (verifyCursor ν mac dateParse rawToken input.cursorSecret (now / 1000)).bind fun token =>
          if token.organizationId ≠ input.organizationId ∨
              token.actorUserId ≠ input.actorUserId then none
          else buildAuditQuery dateParse queries input (now / 1000) (some token)

/-! ## Windows -/

/-- The end of the second of a time is a time of the years 0 to 9999 as well. -/
theorem isFourDigitTime_endOfSecond {n : Int} (h : IsFourDigitTime n) :
    IsFourDigitTime (n / 1000 * 1000 + 999) := by
  unfold IsFourDigitTime at h ⊢
  omega

/-- A window at a time, in milliseconds. -/
theorem validWindow_iff {dateParse : DateParse} {fromDate toDate : JsString} {n : Int}
    (hn : IsFourDigitTime n) : ValidWindow dateParse fromDate toDate (toISOString n) ↔
      ∃ a b, IsFourDigitTime a ∧ IsFourDigitTime b ∧ toISOString a = fromDate ∧
        toISOString b = toDate ∧ a < b ∧ b - a ≤ 31 * 86400000 ∧ b ≤ n := by
  unfold ValidWindow
  rw [isCanonicalTimestamp_iff, isCanonicalTimestamp_iff]
  constructor
  · rintro ⟨⟨a, ha, rfl⟩, ⟨b, hb, rfl⟩, hlt, ⟨t, ht, f, hf, hlength⟩, hle⟩
    rw [dateParse.parse_toISOString hb.isTime] at ht
    rw [dateParse.parse_toISOString ha.isTime] at hf
    cases ht
    cases hf
    exact ⟨a, b, ha, hb, rfl, rfl, (toISOString_lt_iff ha hb).mp hlt, hlength,
      (toISOString_le_iff hb hn).mp hle⟩
  · rintro ⟨a, b, ha, hb, rfl, rfl, hlt, hlength, hle⟩
    exact ⟨⟨a, ha, rfl⟩, ⟨b, hb, rfl⟩, (toISOString_lt_iff ha hb).mpr hlt,
      ⟨b, dateParse.parse_toISOString hb.isTime, a, dateParse.parse_toISOString ha.isTime, hlength⟩,
      (toISOString_le_iff hb hn).mpr hle⟩

/-! ## Reading a payload back -/

section Payloads

variable {ν : Type} {dateParse : DateParse}

theorem readOptionalEventName_text (name : Option OrganizationAuditEventName) :
    readOptionalEventName (name.map OrganizationAuditEventName.text) = some name := by
  cases name with
  | none => rfl
  | some name =>
    rw [Option.map_some, readOptionalEventName, readEventName_eq_some_iff.mpr rfl, Option.map_some]

/-- A field with a text or `null` is read back. -/
theorem nullableText?_nullableText {value : JsonValue ν} {name : JsString} {text : Option JsString}
    (h : value.get? name = some (nullableText text)) : nullableText? value name = some text := by
  cases text <;> rw [nullableText?, h, nullableText]

variable [JsonNumber ν]

/-- An integer that JSON can write is read back. -/
theorem integerField?_ofInt {value : JsonValue ν} {name : JsString} {z : Int}
    (h : value.number? name = some (JsonNumber.ofInt z)) (hz : IsSafeInteger z) :
    integerField? value name = some z := by
  rw [integerField?, h, Option.bind_some, JsonNumber.integer?_ofInt hz]

/-- The integers of a payload that JSON can write. -/
def AuditCursorPayload.Integers (payload : AuditCursorPayload) : Prop :=
  IsSafeInteger payload.limit ∧ IsSafeInteger payload.issuedAt ∧ IsSafeInteger payload.expiresAt

theorem AuditCursorPayload.Valid.integers {payload : AuditCursorPayload} {nowSeconds : Int}
    (h : payload.Valid dateParse nowSeconds) : payload.Integers := by
  obtain ⟨-, -, -, -, -, -, -, hlimit, hissued, hexpires, -⟩ := h
  refine ⟨?_, hissued, hexpires⟩
  unfold IsSafeInteger Web.maxSafeInteger
  omega

theorem cursorPayload_faithful {payload : AuditCursorPayload} (h : payload.Integers) :
    (payload.value : JsonValue ν).Faithful := by
  have hnames : cursorKeys.Nodup := by decide
  have hnullable (text : Option JsString) : (nullableText text : JsonValue ν).Faithful := by
    cases text <;> exact trivial
  exact ⟨hnames, JsonNumber.exact_ofInt (by decide), trivial, trivial, trivial, trivial, trivial,
    hnullable _, hnullable _, JsonNumber.exact_ofInt h.1, trivial, trivial,
    JsonNumber.exact_ofInt h.2.1, JsonNumber.exact_ofInt h.2.2, trivial⟩

/-- A payload is read back while it is valid. -/
theorem readCursorPayload_value {payload : AuditCursorPayload} (h : payload.Integers)
    (nowSeconds : Int) : readCursorPayload dateParse (payload.value : JsonValue ν) nowSeconds =
      if payload.Valid dateParse nowSeconds then some payload else none := by
  have hkeys : hasCursorKeys (payload.value : JsonValue ν) = true := by
    unfold hasCursorKeys AuditCursorPayload.value
    refine decide_eq_true ⟨rfl, List.all_eq_true.mpr fun m hm => decide_eq_true ?_⟩
    exact (List.mem_map_of_mem hm : m.1 ∈ cursorKeys)
  have hversion : integerField? (payload.value : JsonValue ν) (js "v") = some 1 :=
    integerField?_ofInt rfl (by decide)
  have hfields : readCursorFields (payload.value : JsonValue ν) = some payload := by
    have hevent : nullableText? (payload.value : JsonValue ν) (js "eventName") =
        some (payload.eventName.map OrganizationAuditEventName.text) :=
      nullableText?_nullableText rfl
    have hactor : nullableText? (payload.value : JsonValue ν) (js "filterActorUserId") =
        some payload.filterActorUserId := nullableText?_nullableText rfl
    have hlimit : integerField? (payload.value : JsonValue ν) (js "limit") = some payload.limit :=
      integerField?_ofInt rfl h.1
    have hissued : integerField? (payload.value : JsonValue ν) (js "issuedAt") =
        some payload.issuedAt := integerField?_ofInt rfl h.2.1
    have hexpires : integerField? (payload.value : JsonValue ν) (js "expiresAt") =
        some payload.expiresAt := integerField?_ofInt rfl h.2.2
    unfold readCursorFields
    rw [hevent, hactor, hlimit, hissued, hexpires, Option.bind_some, readOptionalEventName_text]
    rfl
  rw [readCursorPayload, if_pos ⟨hkeys, hversion, rfl⟩, hfields]
  by_cases hvalid : payload.Valid dateParse nowSeconds
  · rw [if_pos hvalid, Option.filter, if_pos (decide_eq_true hvalid)]
  · rw [if_neg hvalid, Option.filter, if_neg (by simpa using hvalid)]

end Payloads

/-! ## Tokens -/

section Tokens

variable {ν : Type} [JsonNumber ν] {mac : Mac} {dateParse : DateParse}

theorem decodeCursorText_eq_some_iff {value : JsString} {bytes : List Byte} :
    decodeCursorText value = some bytes ↔ bytes ≠ [] ∧ value = base64UrlEncode bytes :=
  @decodeUrl_eq_some_iff (fun value => atob (padBase64 (fromUrlAlphabet value)))
    atob_padBase64_base64UrlEncode value bytes

theorem parseJson_cursorPayload {payload : AuditCursorPayload} (h : payload.Integers) :
    (decodeTextFatal (jsonBytes (payload.value : JsonValue ν))).bind parseJson =
      some (payload.value : JsonValue ν) :=
  parseJson_decodeTextFatal (cursorPayload_faithful h)

/-- A token that was built is verified while its payload is valid. -/
theorem verifyCursor_cursorToken {secret : JsString} (hsecret : IsCursorSecret secret)
    {payload : AuditCursorPayload} (h : payload.Integers)
    (hlen : (cursorToken ν mac secret payload).length ≤ 4096) (nowSeconds : Int) :
    verifyCursor ν mac dateParse (cursorToken ν mac secret payload) secret nowSeconds =
      if payload.Valid dateParse nowSeconds then some payload else none := by
  have hbytes : jsonBytes (payload.value : JsonValue ν) ≠ [] := jsonBytes_ne_nil _
  have hpayload : decodeCursorText (encodeJson (payload.value : JsonValue ν)) =
      some (jsonBytes (payload.value : JsonValue ν)) :=
    decodeCursorText_eq_some_iff.mpr ⟨hbytes, rfl⟩
  have htag := mac.sign_ne_nil secret (cursorPurpose ++ encodeJson (payload.value : JsonValue ν))
  have hlength := mac.sign_length secret
    (cursorPurpose ++ encodeJson (payload.value : JsonValue ν))
  have hsplit : (cursorToken ν mac secret payload).splitOn 46 =
      [encodeJson (payload.value : JsonValue ν), base64UrlEncode
        (mac.sign secret (cursorPurpose ++ encodeJson (payload.value : JsonValue ν)))] := by
    rw [cursorToken, ← intercalate_two]
    refine splitOn_dot (List.cons_ne_nil _ _) fun segment hsegment => ?_
    rcases List.mem_pair.mp hsegment with rfl | rfl
    · exact ⟨_, rfl⟩
    · exact ⟨_, rfl⟩
  have hparts : ¬ (encodeJson (payload.value : JsonValue ν) = [] ∨
      base64UrlEncode (mac.sign secret
        (cursorPurpose ++ encodeJson (payload.value : JsonValue ν))) = [] ∨
      (base64UrlEncode (mac.sign secret
        (cursorPurpose ++ encodeJson (payload.value : JsonValue ν)))).length ≠ 43) := by
    rw [base64UrlEncode_length, hlength, encodeJson, base64UrlEncode_eq_nil_iff,
      base64UrlEncode_eq_nil_iff]
    exact not_or.mpr ⟨hbytes, not_or.mpr ⟨htag, not_not.mpr rfl⟩⟩
  unfold verifyCursor
  rw [if_neg (not_or.mpr ⟨not_lt.mpr hlen, not_not.mpr hsecret⟩), hsplit]
  simp only
  rw [if_neg hparts, decodeCursorText_eq_some_iff.mpr ⟨htag, rfl⟩, Option.bind_some,
    hpayload, Option.bind_some, if_neg (not_or.mpr ⟨not_not.mpr hlength, not_not.mpr rfl⟩),
    parseJson_cursorPayload h, Option.bind_some, readCursorPayload_value h]

/-- What an accepted token consists of. -/
theorem exists_of_verifyCursor {token secret : JsString} {nowSeconds : Int}
    {payload : AuditCursorPayload}
    (h : verifyCursor ν mac dateParse token secret nowSeconds = some payload) :
    ∃ bytes value, token = base64UrlEncode bytes ++
        46 :: base64UrlEncode (mac.sign secret (cursorPurpose ++ base64UrlEncode bytes)) ∧
      (decodeTextFatal bytes).bind (parseJson (ν := ν)) = some value ∧
      readCursorPayload dateParse value nowSeconds = some payload := by
  unfold verifyCursor at h
  split_ifs at h with hrefused
  split at h
  · rename_i payloadEncoded signatureEncoded hsplit
    split_ifs at h with hparts
    obtain ⟨signature, hsignature, h⟩ := Option.bind_eq_some_iff.mp h
    obtain ⟨bytes, hbytes, h⟩ := Option.bind_eq_some_iff.mp h
    split_ifs at h with htag
    rw [not_or, not_not, not_not] at htag
    obtain ⟨value, hvalue, hread⟩ := Option.bind_eq_some_iff.mp h
    obtain ⟨-, rfl⟩ := decodeCursorText_eq_some_iff.mp hbytes
    obtain ⟨-, rfl⟩ := decodeCursorText_eq_some_iff.mp hsignature
    refine ⟨bytes, value, ?_, hvalue, hread⟩
    have hjoin : [46].intercalate (token.splitOn 46) = token := List.intercalate_splitOn 46
    rw [hsplit, intercalate_two] at hjoin
    rw [htag.2]
    exact hjoin.symm
  · cases h

/-- Safe integers are written in at most 17 units, a sign and 16 digits. -/
def ShortIntegers (ν : Type) [JsonNumber ν] : Prop :=
  ∀ z, IsSafeInteger z → (JsonNumber.print (JsonNumber.ofInt (ν := ν) z)).length ≤ 17

theorem byteWeight_print {z : Int} (h : IsSafeInteger z) :
    byteWeight (JsonNumber.print (JsonNumber.ofInt (ν := ν) z)) =
      (JsonNumber.print (JsonNumber.ofInt (ν := ν) z)).length := by
  obtain ⟨-, hunits⟩ := forall_of_isNumberText
    (JsonNumber.isNumberText_print (JsonNumber.exact_ofInt (ν := ν) h))
  unfold byteWeight
  rw [List.map_congr_left (g := fun _ => 1) ?_, List.map_const', List.sum_replicate_nat,
    Nat.mul_one]
  intro c hc
  have hnumber := hunits c hc
  unfold IsNumberUnit IsDigit at hnumber
  simp only [Fin.le_def, Fin.ext_iff, Fin.isValue] at hnumber
  unfold unitWeight
  rw [if_pos (by omega)]

/-- The names of a payload take 99 bytes. -/
theorem byteWeight_cursorKeys :
    (cursorKeys.map fun name => byteWeight (quoteText name)).sum = 99 := by
  decide

theorem byteWeight_id_le {id : JsString} (h : IsOrganizationAuditId id) :
    byteWeight (quoteText id) ≤ 128 := by
  rw [byteWeight_quoteText_plain fun c hc => isPlainUnit_of_isUrlUnit
    (of_decide_eq_true (List.all_eq_true.mp h.2.2 c hc))]
  exact h.2.1

theorem byteWeight_time_le {text : JsString} (h : IsCanonicalTimestamp dateParse text) :
    byteWeight (quoteText text) ≤ 144 := by
  obtain ⟨t, htime, rfl⟩ := isCanonicalTimestamp_iff.mp h
  have hweight := byteWeight_quoteText_le (toISOString t)
  rwa [(length_toISOString t).mpr htime] at hweight

/-- A nullable text takes its bytes and two quotes, or the four of `null`. -/
theorem byteWeight_nullableText_le {text : Option JsString} {bound : Nat} (hbound : 2 ≤ bound)
    (h : ∀ s ∈ text, byteWeight (quoteText s) ≤ bound) :
    byteWeight (nullableText text : JsonValue ν).stringify ≤ bound + 2 := by
  cases text with
  | none =>
    have hnull : byteWeight (nullableText none : JsonValue ν).stringify = 4 := rfl
    omega
  | some s =>
    have hs := h s rfl
    rw [nullableText, JsonValue.stringify, byteWeight_quote]
    omega

theorem byteWeight_eventName_le (name : OrganizationAuditEventName) :
    byteWeight (quoteText name.text) ≤ 40 := by
  cases name <;> decide

theorem byteWeight_integer_le (hshort : ShortIntegers ν) {z : Int} (h : IsSafeInteger z) :
    byteWeight (JsonValue.number (JsonNumber.ofInt (ν := ν) z)).stringify ≤ 17 :=
  (byteWeight_print h).trans_le (hshort z h)

/-- The values of a payload take their bytes. -/
theorem byteWeight_cursorValues_le (hshort : ShortIntegers ν) {payload : AuditCursorPayload}
    {nowSeconds : Int} (h : payload.Valid dateParse nowSeconds) :
    byteWeight (payload.value : JsonValue ν).stringify ≤ 1300 := by
  obtain ⟨hlimit, hissued, hexpires⟩ := h.integers
  obtain ⟨horganization, hactor, hfrom, hto, hoccurred, hid, hfilter, -⟩ := h
  have hversionWeight := byteWeight_integer_le hshort (z := 1) (by decide)
  have hlimitWeight := byteWeight_integer_le hshort hlimit
  have hissuedWeight := byteWeight_integer_le hshort hissued
  have hexpiresWeight := byteWeight_integer_le hshort hexpires
  have heventWeight : byteWeight (nullableText
      (payload.eventName.map OrganizationAuditEventName.text) : JsonValue ν).stringify ≤ 42 := by
    refine byteWeight_nullableText_le (by decide) fun s hs => ?_
    obtain ⟨name, -, rfl⟩ := Option.map_eq_some_iff.mp hs
    exact byteWeight_eventName_le name
  have hfilterWeight : byteWeight
      (nullableText payload.filterActorUserId : JsonValue ν).stringify ≤ 130 :=
    byteWeight_nullableText_le (by decide) fun s hs => byteWeight_id_le (hfilter s hs)
  have horganizationWeight := byteWeight_id_le horganization
  have hactorWeight := byteWeight_id_le hactor
  have hidWeight := byteWeight_id_le hid
  have hfromWeight := byteWeight_time_le hfrom
  have htoWeight := byteWeight_time_le hto
  have hoccurredWeight := byteWeight_time_le hoccurred
  have hpurposeWeight : byteWeight (quoteText (js "organization-audit")) = 18 := by decide
  have hstring (s : JsString) : byteWeight (JsonValue.string s : JsonValue ν).stringify =
      byteWeight (quoteText s) + 2 := byteWeight_quote s
  have hnames := Nat.add_le_add_left byteWeight_cursorKeys.le 2
  refine (byteWeight_stringify_object_le _).trans ((Nat.add_le_add_right hnames _).trans ?_)
  simp only [List.map_cons, List.map_nil, List.sum_cons, List.sum_nil, hstring, hpurposeWeight]
  calc _ ≤ 2 + 99 + (4 + 17 + (4 + (18 + 2) + (4 + (128 + 2) + (4 + (128 + 2) +
          (4 + (144 + 2) + (4 + (144 + 2) + (4 + 42 + (4 + 130 + (4 + 17 + (4 + (144 + 2) +
          (4 + (128 + 2) + (4 + 17 + (4 + 17 + 0))))))))))))) := by
        gcongr
    _ ≤ 1300 := by decide

/-- **A token of a valid payload stays within its bound.** -/
theorem length_cursorToken_le (hshort : ShortIntegers ν) {payload : AuditCursorPayload}
    {nowSeconds : Int} (h : payload.Valid dateParse nowSeconds) (secret : JsString) :
    (cursorToken ν mac secret payload).length ≤ 4096 := by
  have hbytes : (jsonBytes (payload.value : JsonValue ν)).length ≤ 1300 :=
    (length_encodeUtf8_le _).trans (byteWeight_cursorValues_le hshort h)
  rw [cursorToken, List.length_append, List.length_cons, encodeJson, base64UrlEncode_length,
    base64UrlEncode_length, mac.sign_length]
  omega

end Tokens

/-! ## Requests with a cursor -/

section Requests

variable {ν : Type} [JsonNumber ν] {mac : Mac} {dateParse : DateParse} {queries : AuditQueries}
  {query : OrganizationAuditQuery} {position : OrganizationAuditPosition}
  {organizationId actorUserId secret token : JsString}

/-- The filters of a request are absent, or those of a query. -/
structure AuditQueries.Repeats (queries : AuditQueries) (query : OrganizationAuditQuery) :
    Prop where
  fromDate : ∀ text ∈ readAuditQuery queries (js "from"), text = query.fromDate
  toDate : ∀ text ∈ readAuditQuery queries (js "to"), text = query.toDate
  eventName : ∀ text ∈ readAuditQuery queries (js "eventName"),
    some text = query.eventName.map OrganizationAuditEventName.text
  filterActorUserId : ∀ id ∈ readAuditQuery queries (js "actorUserId"),
    some id = query.filterActorUserId
  limit : ∀ text ∈ readAuditQuery queries (js "limit"), parseAuditLimit text = some query.limit

theorem or_eq_right_iff {α : Type} {read stored : Option α} :
    read.or stored = stored ↔ ∀ a ∈ read, some a = stored := by
  cases read <;> simp

theorem or_some_getD_eq_iff {read : Option JsString} {text default : JsString} :
    (read.or (some text)).getD default = text ↔ ∀ a ∈ read, a = text := by
  cases read <;> simp

theorem readAuditLimit_cursor_eq_iff {payload : AuditCursorPayload} :
    readAuditLimit queries .query (some payload) = some payload.limit ↔
      ∀ text ∈ readAuditQuery queries (js "limit"), parseAuditLimit text = some payload.limit := by
  unfold readAuditLimit
  cases readAuditQuery queries (js "limit") <;> simp

/-- A window at a time is one at every later time. -/
theorem ValidWindow.mono {fromDate toDate : JsString} {n m : Int}
    (h : ValidWindow dateParse fromDate toDate (toISOString n)) (hnm : n ≤ m)
    (hm : IsFourDigitTime m) : ValidWindow dateParse fromDate toDate (toISOString m) := by
  obtain ⟨t, ht, rfl⟩ := isCanonicalTimestamp_iff.mp h.2.1
  have hn := isFourDigitTime_of_le ht h.2.2.2.2
  obtain ⟨a, b, ha, hb, rfl, hto, hlt, hlength, hle⟩ := (validWindow_iff hn).mp h
  exact (validWindow_iff hm).mpr ⟨a, b, ha, hb, rfl, hto, hlt, hlength, hle.trans hnm⟩

/-- A payload that was valid when it was issued is valid until it expires. -/
theorem AuditCursorPayload.Valid.at {payload : AuditCursorPayload} {n : Int}
    (h : payload.Valid dateParse payload.issuedAt) (hn : IsFourDigitTime n) :
    payload.Valid dateParse (n / 1000) ↔
      payload.issuedAt ≤ n / 1000 ∧ n / 1000 < payload.expiresAt := by
  constructor
  · rintro ⟨-, -, -, -, -, -, -, -, -, -, hissued, -, hexpires, -⟩
    exact ⟨hissued, hexpires⟩
  · rintro ⟨hissued, hexpires⟩
    obtain ⟨horganization, hactor, hfrom, hto, hoccurred, hid, hfilter, hlimit, hsafe, hsafe', -,
      hlife, -, -, hwindow, hposition⟩ := h
    have hend := isFourDigitTime_endOfSecond hn
    exact ⟨horganization, hactor, hfrom, hto, hoccurred, hid, hfilter, hlimit, hsafe, hsafe',
      hissued, hlife, hexpires, hend.isTime, hwindow.mono (by omega) hend, hposition⟩

/-- A request with the payload of a query restores the query where it repeats its filters and the
window has ended. -/
theorem buildAuditQuery_cursor_eq_some_iff {input : AuditQueryInput}
    (hoperation : input.operation = .query)
    (hfilter : ∀ id ∈ query.filterActorUserId, IsOrganizationAuditId id) {nowSeconds : Int}
    {restored : OrganizationAuditQuery} :
    buildAuditQuery dateParse queries input nowSeconds
        (some (cursorPayload query organizationId actorUserId position)) = some restored ↔
      queries.Repeats query ∧ ValidWindow dateParse query.fromDate query.toDate input.now ∧
        restored = { query with cursor := some position } := by
  have hfrom (default : JsString) := @or_some_getD_eq_iff
    (readAuditQuery queries (js "from")) query.fromDate default
  have hto := @or_some_getD_eq_iff (readAuditQuery queries (js "to")) query.toDate input.now
  have hevent := @or_eq_right_iff _ (readAuditQuery queries (js "eventName"))
    (query.eventName.map OrganizationAuditEventName.text)
  have hactor := @or_eq_right_iff _ (readAuditQuery queries (js "actorUserId"))
    query.filterActorUserId
  have hlimit := @readAuditLimit_cursor_eq_iff queries
    (cursorPayload query organizationId actorUserId position)
  unfold buildAuditQuery
  rw [hoperation]
  simp only [Option.map_some, Option.bind_some, Option.any_some, Option.getD_some]
  constructor
  · intro h
    obtain ⟨eventName, heventName, h⟩ := Option.bind_eq_some_iff.mp h
    obtain ⟨limit, hread, h⟩ := Option.bind_eq_some_iff.mp h
    split_ifs at h with hrefused
    simp only [not_or, not_not, decide_eq_true_eq] at hrefused
    obtain ⟨hwindow, -, hfromEq, htoEq, heventEq, hactorEq, hlimitEq⟩ := hrefused
    have hrepeats : queries.Repeats query :=
      ⟨(hfrom _).mp hfromEq, hto.mp htoEq, hevent.mp heventEq, hactor.mp hactorEq,
        hlimit.mp (hread.trans (congrArg some hlimitEq))⟩
    refine ⟨hrepeats, ?_, ?_⟩
    · rwa [hfromEq, htoEq] at hwindow
    · rw [← Option.some.inj h, hfromEq, htoEq, hactorEq, hlimitEq]
      have heventEq' : eventName = query.eventName := by
        rw [heventEq] at heventName
        exact Option.some.inj (heventName.symm.trans (readOptionalEventName_text _))
      rw [heventEq']
      rfl
  · rintro ⟨hrepeats, hwindow, rfl⟩
    have hfromEq := (hfrom (defaultFrom dateParse query.toDate)).mpr hrepeats.fromDate
    have htoEq := hto.mpr hrepeats.toDate
    have heventEq := hevent.mpr hrepeats.eventName
    have hactorEq := hactor.mpr hrepeats.filterActorUserId
    have hlimitEq := hlimit.mpr hrepeats.limit
    have hids : ¬ (query.filterActorUserId.any fun id => ¬ IsOrganizationAuditId id) = true := by
      rw [Option.any_eq_true]
      rintro ⟨id, hid, hother⟩
      exact of_decide_eq_true hother (hfilter id hid)
    simp only [cursorPayload] at hlimitEq
    simp only [cursorPayload, htoEq, hfromEq, heventEq, hactorEq, hlimitEq,
      readOptionalEventName_text, Option.bind_some, hwindow, hids, ne_eq, not_true_eq_false,
      or_self, decide_false, Bool.false_eq_true, if_false]

/-- A request with an issued cursor is answered as one for the rest of the query where it is made
by the same actor for the same organization, repeats the filters and comes before the expiry; it is
refused otherwise. -/
theorem parseOrganizationAuditQuery_issued_iff
    (hissue : issueOrganizationAuditCursor ν mac dateParse query organizationId actorUserId position
      secret = some token)
    (hallowed : queries.Allowed .query)
    (htoken : readAuditQuery queries (js "continuationToken") = some token)
    {organizationId' actorUserId' : JsString} {n : Int} (hn : IsFourDigitTime n)
    {restored : OrganizationAuditQuery} :
    parseOrganizationAuditQuery ν mac dateParse queries
        { operation := .query, organizationId := organizationId', actorUserId := actorUserId'
          now := toISOString n, cursorSecret := secret } = some restored ↔
      (organizationId' = organizationId ∧ actorUserId' = actorUserId ∧ queries.Repeats query) ∧
        (query.issuedAt ≤ n / 1000 ∧ n / 1000 < query.expiresAt ∧
          ValidWindow dateParse query.fromDate query.toDate (toISOString n)) ∧
        restored = { query with cursor := some position } := by
  unfold issueOrganizationAuditCursor at hissue
  dsimp only at hissue
  split_ifs at hissue with hrefused
  simp only [not_or, not_not, not_lt] at hrefused
  obtain ⟨hsecret, hvalid, hlength⟩ := hrefused
  obtain rfl := Option.some.inj hissue
  have hverify := @verifyCursor_cursorToken ν _ mac dateParse _ hsecret _
    (hvalid.integers) hlength (n / 1000)
  have hcurrent := AuditCursorPayload.Valid.at hvalid hn
  have hnow : IsCanonicalTimestamp dateParse (toISOString n) :=
    isCanonicalTimestamp_iff.mpr ⟨n, hn, rfl⟩
  have hfilter : ∀ id ∈ query.filterActorUserId, IsOrganizationAuditId id :=
    hvalid.2.2.2.2.2.2.1
  unfold parseOrganizationAuditQuery
  dsimp only
  rw [dateParse.parse_toISOString hn.isTime, Option.bind_some, htoken]
  dsimp only
  rw [hverify]
  constructor
  · intro h
    split_ifs at h with hinput hcur
    · rw [Option.bind_some] at h
      split_ifs at h with hother
      simp only [not_or, not_not] at hother
      obtain ⟨hrepeats, hwindow, rfl⟩ :=
        (buildAuditQuery_cursor_eq_some_iff rfl hfilter).mp h
      exact ⟨⟨hother.1.symm, hother.2.symm, hrepeats⟩,
        ⟨(hcurrent.mp hcur).1, (hcurrent.mp hcur).2, hwindow⟩, rfl⟩
    · cases h
  · rintro ⟨⟨rfl, rfl, hrepeats⟩, ⟨hissued, hexpires, hwindow⟩, rfl⟩
    rw [if_pos (hcurrent.mpr ⟨hissued, hexpires⟩), Option.bind_some,
      if_neg (by
        simp only [not_or, not_not]
        exact ⟨hvalid.1, hvalid.2.1, hnow, hallowed⟩),
      if_neg (by
        simp only [not_or, not_not]
        exact ⟨rfl, rfl⟩)]
    exact (buildAuditQuery_cursor_eq_some_iff rfl hfilter).mpr ⟨hrepeats, hwindow, rfl⟩

/-- What holds of a query that was read without a cursor. -/
structure OrganizationAuditQuery.Fresh (dateParse : DateParse) (query : OrganizationAuditQuery)
    (n : Int) : Prop where
  window : ValidWindow dateParse query.fromDate query.toDate (toISOString n)
  filter : ∀ id ∈ query.filterActorUserId, IsOrganizationAuditId id
  limit : 1 ≤ query.limit ∧ query.limit ≤ 100
  cursor : query.cursor = none
  issuedAt : query.issuedAt = n / 1000
  expiresAt : query.expiresAt = n / 1000 + 900

theorem le_foldl_decimal (s : JsString) (n : Nat) :
    n ≤ s.foldl (fun n c => 10 * n + (c.val - 48)) n := by
  induction s generalizing n with
  | nil => exact le_rfl
  | cons c s ih => exact le_trans (by omega) (ih (10 * n + (c.val - 48)))

theorem parseAuditLimit_range {text : JsString} {limit : Int}
    (h : parseAuditLimit text = some limit) : 1 ≤ limit ∧ limit ≤ 100 := by
  unfold parseAuditLimit at h
  split_ifs at h with hlimit
  obtain ⟨hhead, -, hle⟩ := hlimit
  obtain rfl := Option.some.inj h
  refine ⟨?_, by exact_mod_cast hle⟩
  cases text with
  | nil => cases hhead
  | cons c rest =>
    have hdigit : 49 ≤ c ∧ c ≤ 57 := by simpa using hhead
    have hval : 49 ≤ c.val := hdigit.1
    have hrest := le_foldl_decimal rest (10 * 0 + (c.val - 48))
    unfold readDecimal
    rw [List.foldl_cons]
    omega

/-- The limit of a first page is within the bounds. -/
theorem readAuditLimit_range {limit : Int} (h : readAuditLimit queries .query none = some limit) :
    1 ≤ limit ∧ limit ≤ 100 := by
  unfold readAuditLimit at h
  dsimp only at h
  split at h
  · obtain rfl := Option.some.inj h
    decide
  · exact parseAuditLimit_range h

theorem fresh_of_build {input : AuditQueryInput} {n : Int} (hoperation : input.operation = .query)
    (hnow : input.now = toISOString n)
    (h : buildAuditQuery dateParse queries input (n / 1000) none = some query) :
    query.Fresh dateParse n := by
  unfold buildAuditQuery at h
  rw [hoperation, hnow] at h
  obtain ⟨eventName, -, h⟩ := Option.bind_eq_some_iff.mp h
  obtain ⟨limit, hlimit, h⟩ := Option.bind_eq_some_iff.mp h
  split_ifs at h with hrefused
  rw [not_or, not_or, not_not, Option.any_eq_true] at hrefused
  obtain rfl := Option.some.inj h
  refine ⟨hrefused.1, fun id hid => ?_, readAuditLimit_range hlimit, rfl, rfl, rfl⟩
  by_contra hother
  exact hrefused.2.1 ⟨id, hid, decide_eq_true hother⟩

theorem issuedAt_le_of_verifyCursor {nowSeconds : Int} {payload : AuditCursorPayload}
    (h : verifyCursor ν mac dateParse token secret nowSeconds = some payload) :
    payload.issuedAt ≤ nowSeconds := by
  obtain ⟨bytes, value, -, -, hread⟩ := exists_of_verifyCursor h
  unfold readCursorPayload at hread
  split_ifs at hread
  have hvalid := of_decide_eq_true (Option.filter_eq_some_iff.mp hread).2
  exact hvalid.2.2.2.2.2.2.2.2.2.2.1

/-- What holds of every query that was read. -/
theorem window_of_parse {input : AuditQueryInput} {n : Int} (hn : IsFourDigitTime n)
    (hnow : input.now = toISOString n)
    (h : parseOrganizationAuditQuery ν mac dateParse queries input = some query) :
    ValidWindow dateParse query.fromDate query.toDate (toISOString n) ∧
      query.issuedAt ≤ n / 1000 := by
  unfold parseOrganizationAuditQuery at h
  rw [hnow, dateParse.parse_toISOString hn.isTime, Option.bind_some] at h
  split_ifs at h
  have hbuild : ∃ token : Option AuditCursorPayload,
      (∀ payload ∈ token, payload.issuedAt ≤ n / 1000) ∧
        buildAuditQuery dateParse queries input (n / 1000) token = some query := by
    split at h
    · exact ⟨none, by simp, h⟩
    · obtain ⟨payload, hverify, h⟩ := Option.bind_eq_some_iff.mp h
      split_ifs at h
      refine ⟨some payload, ?_, h⟩
      intro payload' hpayload
      obtain rfl := Option.some.inj hpayload
      exact issuedAt_le_of_verifyCursor hverify
  obtain ⟨token, htoken, hbuild⟩ := hbuild
  unfold buildAuditQuery at hbuild
  rw [hnow] at hbuild
  obtain ⟨eventName, -, hbuild⟩ := Option.bind_eq_some_iff.mp hbuild
  obtain ⟨limit, -, hbuild⟩ := Option.bind_eq_some_iff.mp hbuild
  split_ifs at hbuild with hrefused
  rw [not_or, not_not] at hrefused
  obtain rfl := Option.some.inj hbuild
  refine ⟨hrefused.1, ?_⟩
  cases token with
  | none => exact le_rfl
  | some payload => exact htoken payload rfl

/-- **A cursor restores the query it was issued for** until it expires, by a request of the same
actor for the same organization that has the same filters, or none. -/
theorem parseOrganizationAuditQuery_restores {queries₀ : AuditQueries} {input₀ : AuditQueryInput}
    {n₀ n : Int} (hn₀ : IsFourDigitTime n₀) (hnow : input₀.now = toISOString n₀)
    (hparsed : parseOrganizationAuditQuery ν mac dateParse queries₀ input₀ = some query)
    (hissue : issueOrganizationAuditCursor ν mac dateParse query organizationId actorUserId position
      secret = some token)
    (hn : IsFourDigitTime n) (hlater : n₀ ≤ n) (hexpiry : n / 1000 < query.expiresAt)
    (hallowed : queries.Allowed .query)
    (htoken : readAuditQuery queries (js "continuationToken") = some token)
    (hrepeats : queries.Repeats query) :
    parseOrganizationAuditQuery ν mac dateParse queries
        { operation := .query, organizationId, actorUserId
          now := toISOString n, cursorSecret := secret } =
      some { query with cursor := some position } := by
  obtain ⟨hwindow, hissued⟩ := window_of_parse hn₀ hnow hparsed
  refine (parseOrganizationAuditQuery_issued_iff hissue hallowed htoken hn).mpr
    ⟨⟨rfl, rfl, hrepeats⟩, ⟨?_, hexpiry, hwindow.mono hlater hn⟩, rfl⟩
  omega

/-- A query that was read without a cursor issues a cursor for every position in its window. -/
theorem issueOrganizationAuditCursor_fresh (hshort : ShortIntegers ν)
    (hsecret : IsCursorSecret secret) (horganization : IsOrganizationAuditId organizationId)
    (hactor : IsOrganizationAuditId actorUserId) {n : Int} (hn : IsFourDigitTime n)
    (hfresh : query.Fresh dateParse n)
    (hoccurred : IsCanonicalTimestamp dateParse position.occurredAt)
    (hid : IsOrganizationAuditId position.id) (hfrom : query.fromDate ≤ position.occurredAt)
    (hto : position.occurredAt < query.toDate) :
    issueOrganizationAuditCursor ν mac dateParse query organizationId actorUserId position secret =
      some (cursorToken ν mac secret
        (cursorPayload query organizationId actorUserId position)) := by
  obtain ⟨hwindow, hfilter, hlimit, -, hissued, hexpires⟩ := hfresh
  have hend := isFourDigitTime_endOfSecond hn
  have hsafe : IsSafeInteger (n / 1000) ∧ IsSafeInteger (n / 1000 + 900) := by
    unfold IsFourDigitTime at hn
    unfold IsSafeInteger Web.maxSafeInteger
    omega
  have hvalid : (cursorPayload query organizationId actorUserId position).Valid dateParse
      query.issuedAt := by
    refine ⟨horganization, hactor, hwindow.1, hwindow.2.1, hoccurred, hid, hfilter, hlimit, ?_, ?_,
      le_rfl, ?_, ?_, ?_, ?_, hfrom, hto⟩
    · rw [cursorPayload, hissued]
      exact hsafe.1
    · rw [cursorPayload, hexpires]
      exact hsafe.2
    · exact hexpires.trans (by rw [cursorPayload, hissued])
    · exact hissued.trans_lt ((lt_add_of_pos_right _ (by decide)).trans_eq hexpires.symm)
    · rw [hissued]
      exact hend.isTime
    · rw [hissued]
      exact hwindow.mono (by omega) hend
  have hlength := @length_cursorToken_le ν _ mac dateParse hshort _ _ hvalid secret
  unfold issueOrganizationAuditCursor
  dsimp only
  rw [if_neg]
  simp only [not_or, not_not, not_lt]
  exact ⟨hsecret, hvalid, hlength⟩

/-! ### Cursors that were not issued -/

variable (ν) in
/-- The texts of cursors that were issued under a secret. -/
inductive SignsCursor (mac : Mac) (dateParse : DateParse) : JsString → JsString → Prop
  | issue (query : OrganizationAuditQuery) (organizationId actorUserId : JsString)
    (position : OrganizationAuditPosition) (secret token : JsString)
    (h : issueOrganizationAuditCursor ν mac dateParse query organizationId actorUserId position
      secret = some token) :
    SignsCursor mac dateParse secret (cursorPurpose ++ encodeJson (ν := ν)
      (cursorPayload query organizationId actorUserId position).value)

variable (ν) in
/-- No tag of the token is forged, as one of a cursor. -/
def UnforgedCursor (mac : Mac) (dateParse : DateParse) (secret token : JsString) : Prop :=
  ∀ payload tag, token = payload ++ 46 :: base64UrlEncode tag →
    Unforged mac (SignsCursor ν mac dateParse) [secret] (cursorPurpose ++ payload) tag

/-- A cursor that is accepted was issued, where no tag is forged. -/
theorem exists_issued_of_verifyCursor (hunforged : UnforgedCursor ν mac dateParse secret token)
    {nowSeconds : Int} {payload : AuditCursorPayload}
    (h : verifyCursor ν mac dateParse token secret nowSeconds = some payload) :
    ∃ query organizationId actorUserId position, issueOrganizationAuditCursor ν mac dateParse query
      organizationId actorUserId position secret = some token := by
  obtain ⟨bytes, value, htoken, -, -⟩ := exists_of_verifyCursor h
  have hsigned := hunforged _ _ htoken secret (List.mem_singleton_self secret) rfl
  generalize htext : cursorPurpose ++ base64UrlEncode bytes = text at hsigned
  cases hsigned with
  | issue query organizationId actorUserId position _ token' hissue =>
    refine ⟨query, organizationId, actorUserId, position, ?_⟩
    have hencoded := List.append_cancel_left htext
    rw [hissue, htoken, hencoded]
    unfold issueOrganizationAuditCursor at hissue
    dsimp only at hissue
    split_ifs at hissue
    rw [← Option.some.inj hissue, cursorToken]

/-- **What a request with a cursor asks for was issued** to the actor, for the organization and with
the filters of the request, where no tag is forged. -/
theorem exists_issued_of_parse {n : Int} (hn : IsFourDigitTime n)
    (hunforged : UnforgedCursor ν mac dateParse secret token)
    (htoken : readAuditQuery queries (js "continuationToken") = some token)
    {restored : OrganizationAuditQuery}
    (h : parseOrganizationAuditQuery ν mac dateParse queries
      { operation := .query, organizationId, actorUserId
        now := toISOString n, cursorSecret := secret } = some restored) :
    ∃ query position, issueOrganizationAuditCursor ν mac dateParse query organizationId actorUserId
        position secret = some token ∧ queries.Repeats query ∧
      restored = { query with cursor := some position } := by
  have hparse := h
  unfold parseOrganizationAuditQuery at hparse
  rw [dateParse.parse_toISOString hn.isTime, Option.bind_some, htoken] at hparse
  split_ifs at hparse with hinput
  simp only [not_or, not_not] at hinput
  obtain ⟨payload, hverify, -⟩ := Option.bind_eq_some_iff.mp hparse
  obtain ⟨query, organizationId', actorUserId', position, hissue⟩ :=
    exists_issued_of_verifyCursor hunforged hverify
  obtain ⟨⟨rfl, rfl, hrepeats⟩, -, hrestored⟩ :=
    (parseOrganizationAuditQuery_issued_iff hissue hinput.2.2.2 htoken hn).mp h
  exact ⟨query, position, hissue, hrepeats, hrestored⟩

/-- A request without parameters asks for fifty events of the last seven days. -/
theorem parseOrganizationAuditQuery_default {n : Int} (hn : IsFourDigitTime n)
    (hweek : IsFourDigitTime (n - 7 * 86400000))
    (horganization : IsOrganizationAuditId organizationId)
    (hactor : IsOrganizationAuditId actorUserId) :
    parseOrganizationAuditQuery ν mac dateParse []
        { operation := .query, organizationId, actorUserId
          now := toISOString n, cursorSecret := secret } =
      some
        { fromDate := toISOString (n - 7 * 86400000), toDate := toISOString n, eventName := none
          filterActorUserId := none, limit := 50, cursor := none
          issuedAt := n / 1000, expiresAt := n / 1000 + 900 } := by
  have hnow : IsCanonicalTimestamp dateParse (toISOString n) :=
    isCanonicalTimestamp_iff.mpr ⟨n, hn, rfl⟩
  have hdefault : defaultFrom dateParse (toISOString n) = toISOString (n - 7 * 86400000) := by
    unfold defaultFrom
    rw [if_pos hnow, dateParse.parse_toISOString hn.isTime, Option.map_some, Option.getD_some]
  have hwindow : ValidWindow dateParse (toISOString (n - 7 * 86400000)) (toISOString n)
      (toISOString n) :=
    (validWindow_iff hn).mpr ⟨_, _, hweek, hn, rfl, rfl, by omega, by omega, le_rfl⟩
  have hread (key : JsString) : readAuditQuery [] key = none := rfl
  unfold parseOrganizationAuditQuery buildAuditQuery readAuditLimit
  simp only [hread, Option.map_none, Option.bind_none, Option.or_none, Option.getD_none, hdefault]
  rw [dateParse.parse_toISOString hn.isTime, Option.bind_some, if_neg]
  · simp only [readOptionalEventName, Option.bind_some, Option.any_none]
    rw [if_neg]
    simpa using hwindow
  · simp only [not_or, not_not]
    exact ⟨horganization, hactor, hnow, fun entry hentry => absurd hentry List.not_mem_nil⟩

end Requests


end HonoWarden
