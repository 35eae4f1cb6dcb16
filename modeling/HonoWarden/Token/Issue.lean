import HonoWarden.Token.Keyring
import HonoWarden.Web.SignedToken

/-!
# What the secrets of a deployment sign

Model of the signing halves of `src/domain/tokens.ts` and `src/domain/attachment-download.ts`. One
keyring signs access tokens and tickets for attachment downloads, and the secret the refresh tokens
are hashed with signs the cursors of the organization audit (`src/domain/organization-audit.ts`);
what is signed begins with a purpose for the tickets and the cursors, and with the encoded header for
the access tokens. `Signs` is the history of all three.

The claims of an access token are an object of any members in any order that `isAccessTokenClaims`
takes.

Results:
* **`isTicket_json_eq_some_iff`**: a ticket is read back from its object;
* `signingInput_ne`, `purposes_ne`: no text is signed for two purposes;
* **`signs_download`**, **`signs_dot`**: what is signed for a ticket was signed as one, and what is
  signed with a dot in it as an access token.
-/

namespace HonoWarden

open Web

variable {ν : Type}

/-! ## Access tokens -/

/-- The value is absent, or `p` holds of it. -/
def isOptional (value : Option (JsonValue ν)) (p : JsonValue ν → Bool) : Bool :=
  match value with
  | none => true
  | some value => p value

def isString : JsonValue ν → Bool
  | .string _ => true
  | _ => false

def isBoolean : JsonValue ν → Bool
  | .bool _ => true
  | _ => false

def isNumber : JsonValue ν → Bool
  | .number _ => true
  | _ => false

/-- The value is there, and `p` holds of it. -/
def isRequired (value : Option (JsonValue ν)) (p : JsonValue ν → Bool) : Bool :=
  match value with
  | none => false
  | some value => p value

/-- `claims.sessionId`, where it is there. -/
def isSessionIdClaim : JsonValue ν → Bool
  | .string sessionId => 0 < sessionId.length && sessionId.length ≤ 128
  | _ => false

/-- `claims.name`, where it is there. -/
def isNameClaim : JsonValue ν → Bool
  | .null => true
  | .string _ => true
  | _ => false

/-- `claims.amr`, where it is there. -/
def isAmrClaim : JsonValue ν → Bool
  | .array methods => methods.all isString
  | _ => false

/-- `claims.authMethod`, where it is there. -/
def isAuthMethodClaim : JsonValue ν → Bool
  | .string method =>
    method = js "api_key" || method = js "auth_request" || method = js "password" ||
      method = js "refresh"
  | _ => false

/-- `isAccessTokenClaims`. -/
def isAccessTokenClaims (value : JsonValue ν) : Bool :=
  isRequired (value.get? (js "sub")) isString &&
  isRequired (value.get? (js "email")) isString &&
  isRequired (value.get? (js "device")) isString &&
  isOptional (value.get? (js "sessionId")) isSessionIdClaim &&
  isRequired (value.get? (js "securityStamp")) isString &&
  isOptional (value.get? (js "email_verified")) isBoolean &&
  isOptional (value.get? (js "name")) isNameClaim &&
  isOptional (value.get? (js "premium")) isBoolean &&
  isOptional (value.get? (js "amr")) isAmrClaim &&
  isOptional (value.get? (js "sstamp")) isString &&
  isRequired (value.get? (js "iat")) isNumber &&
  isRequired (value.get? (js "exp")) isNumber &&
  isOptional (value.get? (js "authMethod")) isAuthMethodClaim

variable [JsonNumber ν]

/-- `AccessTokenClaims`: an object that JSON can write and that `isAccessTokenClaims` takes. -/
structure AccessTokenClaims (ν : Type) [JsonNumber ν] where
  members : List (JsString × JsonValue ν)
  faithful : (JsonValue.object members).Faithful
  valid : isAccessTokenClaims (JsonValue.object members) = true

def AccessTokenClaims.json (claims : AccessTokenClaims ν) : JsonValue ν := .object claims.members

/-- The members of the header `signAccessToken` writes. -/
def headerMembers (keyId : Option JsString) : List (JsString × JsonValue ν) :=
  [(js "alg", .string (js "HS256")), (js "typ", .string (js "JWT"))] ++
    match keyId with
    | none => []
    | some id => [(js "kid", .string id)]

variable (ν) in
/-- The header `signAccessToken` writes. -/
def accessTokenHeader (keyId : Option JsString) : JsonValue ν := .object (headerMembers keyId)

/-- `signingInput`; `.` is 46. -/
def signingInput (signer : AccessTokenSigner) (claims : AccessTokenClaims ν) : JsString :=
  encodeJson (accessTokenHeader ν signer.keyId) ++ 46 :: encodeJson claims.json

/-- `signAccessToken`. -/
def signAccessToken (mac : Mac) (signer : AccessTokenSigner) (claims : AccessTokenClaims ν) :
    JsString :=
  signingInput signer claims ++
    46 :: base64UrlEncode (mac.sign (signingSecret signer) (signingInput signer claims))

theorem accessTokenHeader_faithful (keyId : Option JsString) :
    (accessTokenHeader ν keyId).Faithful := by
  have hnames : [js "alg", js "typ"].Nodup ∧ [js "alg", js "typ", js "kid"].Nodup := by decide
  cases keyId with
  | none => exact ⟨hnames.1, trivial, trivial, trivial⟩
  | some id => exact ⟨hnames.2, trivial, trivial, trivial, trivial⟩

/-! ## Tickets -/

/-- `AttachmentDownloadScope`. -/
structure AttachmentDownloadScope where
  userId : JsString
  deviceIdentifier : JsString
  sessionId : JsString
  securityStamp : JsString
  cipherId : JsString
  attachmentId : JsString
  revisionDate : JsString
  origin : JsString
  deriving DecidableEq

/-- `Ticket`. -/
structure Ticket extends AttachmentDownloadScope where
  kid : Option JsString
  iat : Int
  exp : Int
  deriving DecidableEq

/-- `attachmentDownloadTtlSeconds`. -/
def attachmentDownloadTtlSeconds : Int := 120

/-- `domain`. -/
def attachmentDownloadDomain : JsString := js "honowarden:attachment-download:v1\x00"

/-- `null`, or a string. -/
def nullableString : Option JsString → JsonValue ν
  | none => .null
  | some text => .string text

/-- The members of a ticket, in the order they are written. -/
def Ticket.members (ticket : Ticket) : List (JsString × JsonValue ν) :=
  [(js "userId", .string ticket.userId),
    (js "deviceIdentifier", .string ticket.deviceIdentifier),
    (js "sessionId", .string ticket.sessionId),
    (js "securityStamp", .string ticket.securityStamp),
    (js "cipherId", .string ticket.cipherId),
    (js "attachmentId", .string ticket.attachmentId),
    (js "revisionDate", .string ticket.revisionDate),
    (js "origin", .string ticket.origin),
    (js "kid", nullableString ticket.kid),
    (js "iat", .number (JsonNumber.ofInt ticket.iat)),
    (js "exp", .number (JsonNumber.ofInt ticket.exp))]

variable (ν) in
def Ticket.json (ticket : Ticket) : JsonValue ν := .object ticket.members

/-- The ticket of `signAttachmentDownload`. -/
def issueTicket (signer : AccessTokenSigner) (scope : AttachmentDownloadScope) (nowSeconds : Int) :
    Ticket :=
  { scope with
    kid := signer.keyId
    iat := nowSeconds
    exp := nowSeconds + attachmentDownloadTtlSeconds }

variable (ν) in
/-- The payload of `signAttachmentDownload`. -/
def ticketPayload (ticket : Ticket) : JsString := encodeJson (ticket.json ν)

variable (ν) in
/-- `signAttachmentDownload`. -/
def signAttachmentDownload (mac : Mac) (signer : AccessTokenSigner)
    (scope : AttachmentDownloadScope) (nowSeconds : Int) : JsString :=
  ticketPayload ν (issueTicket signer scope nowSeconds) ++
    46 :: base64UrlEncode (mac.sign (signingSecret signer)
      (attachmentDownloadDomain ++ ticketPayload ν (issueTicket signer scope nowSeconds)))

/-- A field of a scope: a string of 1 to 512 units. -/
def ticketText (value : JsonValue ν) (name : JsString) : Option JsString :=
  (value.string? name).filter fun text => 0 < text.length ∧ text.length ≤ 512

/-- `ticket.kid`, which is `null` or a string. -/
def ticketKid (value : JsonValue ν) : Option (Option JsString) :=
  match value.get? (js "kid") with
  | some .null => some none
  | some (.string kid) => some (some kid)
  | _ => none

/-- `value[name]`, where it is a safe integer. -/
def safeInteger? (value : JsonValue ν) (name : JsString) : Option Int :=
  match value.get? name with
  | some (.number n) => (JsonNumber.integer? n).filter fun z => IsSafeInteger z
  | _ => none

/-- `isTicket`, and the ticket it finds. -/
def isTicket (value : JsonValue ν) : Option Ticket := do
  let userId ← ticketText value (js "userId")
  let deviceIdentifier ← ticketText value (js "deviceIdentifier")
  let sessionId ← ticketText value (js "sessionId")
  let securityStamp ← ticketText value (js "securityStamp")
  let cipherId ← ticketText value (js "cipherId")
  let attachmentId ← ticketText value (js "attachmentId")
  let revisionDate ← ticketText value (js "revisionDate")
  let origin ← ticketText value (js "origin")
  let kid ← ticketKid value
  let iat ← safeInteger? value (js "iat")
  let exp ← safeInteger? value (js "exp")
  some
    { userId, deviceIdentifier, sessionId, securityStamp, cipherId, attachmentId, revisionDate,
      origin, kid, iat, exp }

/-- The fields of a scope that a ticket may carry. -/
def AttachmentDownloadScope.fields (scope : AttachmentDownloadScope) : List JsString :=
  [scope.userId, scope.deviceIdentifier, scope.sessionId, scope.securityStamp, scope.cipherId,
    scope.attachmentId, scope.revisionDate, scope.origin]

/-- Eight non-empty strings of at most 512 characters. -/
def AttachmentDownloadScope.Valid (scope : AttachmentDownloadScope) : Prop :=
  ∀ field ∈ scope.fields, 0 < field.length ∧ field.length ≤ 512

instance instDecidableScopeValid (scope : AttachmentDownloadScope) : Decidable scope.Valid :=
  inferInstanceAs (Decidable (∀ field ∈ scope.fields, _))

/-- A time at which a ticket can be issued: it and the time of expiry are safe integers. -/
def IsIssueTime (nowSeconds : Int) : Prop :=
  IsSafeInteger nowSeconds ∧ IsSafeInteger (nowSeconds + attachmentDownloadTtlSeconds)

instance : DecidablePred IsIssueTime := fun _ => inferInstanceAs (Decidable (_ ∧ _))

theorem ticket_faithful {ticket : Ticket} (hiat : IsSafeInteger ticket.iat)
    (hexp : IsSafeInteger ticket.exp) : (ticket.json ν).Faithful := by
  have hnames : [js "userId", js "deviceIdentifier", js "sessionId", js "securityStamp",
      js "cipherId", js "attachmentId", js "revisionDate", js "origin", js "kid", js "iat",
      js "exp"].Nodup := by decide +kernel
  have hkid : (nullableString (ν := ν) ticket.kid).Faithful := by
    cases ticket.kid with
    | none => exact trivial
    | some kid => exact trivial
  exact ⟨hnames, trivial, trivial, trivial, trivial, trivial, trivial, trivial, trivial, hkid,
    JsonNumber.exact_ofInt hiat, JsonNumber.exact_ofInt hexp, trivial⟩

theorem isTicket_eq_some_iff {value : JsonValue ν} {ticket : Ticket} :
    isTicket value = some ticket ↔
      ticketText value (js "userId") = some ticket.userId ∧
      ticketText value (js "deviceIdentifier") = some ticket.deviceIdentifier ∧
      ticketText value (js "sessionId") = some ticket.sessionId ∧
      ticketText value (js "securityStamp") = some ticket.securityStamp ∧
      ticketText value (js "cipherId") = some ticket.cipherId ∧
      ticketText value (js "attachmentId") = some ticket.attachmentId ∧
      ticketText value (js "revisionDate") = some ticket.revisionDate ∧
      ticketText value (js "origin") = some ticket.origin ∧
      ticketKid value = some ticket.kid ∧
      safeInteger? value (js "iat") = some ticket.iat ∧
      safeInteger? value (js "exp") = some ticket.exp := by
  unfold isTicket
  simp only [Option.bind_eq_bind, Option.bind_eq_some_iff, Option.some.injEq]
  constructor
  · rintro ⟨a, ha, b, hb, c, hc, d, hd, e, he, f, hf, g, hg, h, hh, i, hi, j, hj, k, hk, rfl⟩
    exact ⟨ha, hb, hc, hd, he, hf, hg, hh, hi, hj, hk⟩
  · rintro ⟨ha, hb, hc, hd, he, hf, hg, hh, hi, hj, hk⟩
    exact ⟨_, ha, _, hb, _, hc, _, hd, _, he, _, hf, _, hg, _, hh, _, hi, _, hj, _, hk, rfl⟩

omit [JsonNumber ν] in
theorem ticketText_eq_some_iff {value : JsonValue ν} {name : JsString} (text : JsString)
    (h : value.get? name = some (.string text)) {found : JsString} :
    ticketText value name = some found ↔
      found = text ∧ 0 < found.length ∧ found.length ≤ 512 := by
  unfold ticketText JsonValue.string?
  rw [h, Option.filter_eq_some_iff, decide_eq_true_eq]
  exact and_congr_left fun _ => ⟨fun heq => (Option.some.inj heq).symm, fun heq => heq ▸ rfl⟩

theorem safeInteger?_eq {value : JsonValue ν} {name : JsString} {z : Int}
    (h : value.get? name = some (.number (JsonNumber.ofInt z))) (hz : IsSafeInteger z) :
    safeInteger? value name = some z := by
  unfold safeInteger?
  rw [h]
  exact Option.filter_eq_some_iff.mpr ⟨JsonNumber.integer?_ofInt hz, decide_eq_true hz⟩

theorem ticketKid_json (ticket : Ticket) : ticketKid (ticket.json ν) = some ticket.kid := by
  have hget : (ticket.json ν).get? (js "kid") = some (nullableString ticket.kid) := rfl
  unfold ticketKid
  rw [hget]
  cases ticket.kid with
  | none => rfl
  | some kid => rfl

theorem valid_iff {scope : AttachmentDownloadScope} : scope.Valid ↔
    (0 < scope.userId.length ∧ scope.userId.length ≤ 512) ∧
    (0 < scope.deviceIdentifier.length ∧ scope.deviceIdentifier.length ≤ 512) ∧
    (0 < scope.sessionId.length ∧ scope.sessionId.length ≤ 512) ∧
    (0 < scope.securityStamp.length ∧ scope.securityStamp.length ≤ 512) ∧
    (0 < scope.cipherId.length ∧ scope.cipherId.length ≤ 512) ∧
    (0 < scope.attachmentId.length ∧ scope.attachmentId.length ≤ 512) ∧
    (0 < scope.revisionDate.length ∧ scope.revisionDate.length ≤ 512) ∧
    (0 < scope.origin.length ∧ scope.origin.length ≤ 512) := by
  simp only [AttachmentDownloadScope.Valid, AttachmentDownloadScope.fields, List.forall_mem_cons,
    List.not_mem_nil, IsEmpty.forall_iff, implies_true, and_true]

/-- **A ticket is read back from its object**, where its fields are valid. -/
theorem isTicket_json_eq_some_iff {ticket found : Ticket} (hiat : IsSafeInteger ticket.iat)
    (hexp : IsSafeInteger ticket.exp) :
    isTicket (ticket.json ν) = some found ↔
      found = ticket ∧ ticket.toAttachmentDownloadScope.Valid := by
  rw [isTicket_eq_some_iff, ticketText_eq_some_iff ticket.userId rfl,
    ticketText_eq_some_iff ticket.deviceIdentifier rfl,
    ticketText_eq_some_iff ticket.sessionId rfl,
    ticketText_eq_some_iff ticket.securityStamp rfl,
    ticketText_eq_some_iff ticket.cipherId rfl,
    ticketText_eq_some_iff ticket.attachmentId rfl,
    ticketText_eq_some_iff ticket.revisionDate rfl,
    ticketText_eq_some_iff ticket.origin rfl, ticketKid_json, safeInteger?_eq rfl hiat,
    safeInteger?_eq rfl hexp, valid_iff]
  constructor
  · obtain ⟨⟨_, _, _, _, _, _, _, _⟩, _, _, _⟩ := found
    obtain ⟨⟨_, _, _, _, _, _, _, _⟩, _, _, _⟩ := ticket
    rintro ⟨⟨rfl, ha⟩, ⟨rfl, hb⟩, ⟨rfl, hc⟩, ⟨rfl, hd⟩, ⟨rfl, he⟩, ⟨rfl, hf⟩, ⟨rfl, hg⟩, ⟨rfl, hh⟩,
      hi, hj, hk⟩
    cases hi
    cases hj
    cases hk
    exact ⟨rfl, ha, hb, hc, hd, he, hf, hg, hh⟩
  · rintro ⟨rfl, ha, hb, hc, hd, he, hf, hg, hh⟩
    exact ⟨⟨rfl, ha⟩, ⟨rfl, hb⟩, ⟨rfl, hc⟩, ⟨rfl, hd⟩, ⟨rfl, he⟩, ⟨rfl, hf⟩, ⟨rfl, hg⟩, ⟨rfl, hh⟩,
      rfl, rfl, rfl⟩

/-! ## The history -/

/-- `cursorPurpose`. -/
def cursorPurpose : JsString := js "honowarden:organization-audit-cursor:v1\x00"

variable (ν) in
/-- The texts the holder of a secret computes tags of; for a cursor of the audit, any payload. -/
inductive Signs : JsString → JsString → Prop
  | accessToken (signer : AccessTokenSigner) (claims : AccessTokenClaims ν) :
    Signs (signingSecret signer) (signingInput signer claims)
  | attachmentDownload (signer : AccessTokenSigner) (scope : AttachmentDownloadScope)
    (nowSeconds : Int) (htime : IsIssueTime nowSeconds) :
    Signs (signingSecret signer)
      (attachmentDownloadDomain ++ ticketPayload ν (issueTicket signer scope nowSeconds))
  | auditCursor (cursorSecret : JsString) (payload : List Byte) :
    Signs cursorSecret (cursorPurpose ++ base64UrlEncode payload)

/-- What is signed for an access token does not begin with a purpose. -/
theorem signingInput_ne {signer : AccessTokenSigner} {claims : AccessTokenClaims ν}
    {purpose payload : JsString} (hpurpose : purpose.head? = some 104) :
    signingInput signer claims ≠ purpose ++ payload := by
  have hhead : (signingInput signer claims).head? = some 101 := by
    unfold signingInput
    rw [List.head?_append, accessTokenHeader, head_encodeJson, Option.some_or]
  intro heq
  rw [heq, List.head?_append, hpurpose, Option.some_or] at hhead
  exact absurd hhead (by decide)

/-- A ticket and a cursor are signed for different purposes. -/
theorem purposes_ne {payload payload' : JsString} :
    attachmentDownloadDomain ++ payload ≠ cursorPurpose ++ payload' := by
  intro heq
  have htake := congrArg (List.take 12) heq
  rw [List.take_append_of_le_length (by decide), List.take_append_of_le_length (by decide)] at htake
  exact absurd htake (by decide)

/-- **What is signed for a ticket was signed as one.** -/
theorem signs_download {secret payload : JsString}
    (h : Signs ν secret (attachmentDownloadDomain ++ payload)) :
    ∃ signer scope nowSeconds, IsIssueTime nowSeconds ∧ signingSecret signer = secret ∧
      payload = ticketPayload ν (issueTicket signer scope nowSeconds) := by
  generalize htext : attachmentDownloadDomain ++ payload = text at h
  cases h with
  | accessToken signer claims => exact absurd htext.symm (signingInput_ne (by decide))
  | attachmentDownload signer scope nowSeconds htime =>
    exact ⟨signer, scope, nowSeconds, htime, rfl, List.append_cancel_left htext⟩
  | auditCursor _ payload' => exact absurd htext purposes_ne

/-- **What is signed with a dot in it was signed as an access token.** -/
theorem signs_dot {secret text : JsString} (h : Signs ν secret text) (hdot : 46 ∈ text) :
    ∃ (signer : AccessTokenSigner) (claims : AccessTokenClaims ν),
      signingSecret signer = secret ∧ text = signingInput signer claims := by
  cases h with
  | accessToken signer claims => exact ⟨signer, claims, rfl, rfl⟩
  | attachmentDownload signer scope nowSeconds htime =>
    rcases List.mem_append.mp hdot with h | h
    · exact absurd h (by decide)
    · exact absurd h (dot_not_mem_base64UrlEncode _)
  | auditCursor _ payload =>
    rcases List.mem_append.mp hdot with h | h
    · exact absurd h (by decide)
    · exact absurd h (dot_not_mem_base64UrlEncode _)


end HonoWarden
