import HonoWarden.Schema
import HonoWarden.Web.Date
import HonoWarden.Web.SignedToken

/-!
# Deliveries of account lifecycle mail

Model of `parseAccountMailDelivery` (`src/account-lifecycle-mail-envelope.ts`) and of what it calls:
`parseAccountDeletionRecoveryBody`, `strictNormalizeEmail` (`src/domain/account-lifecycle.ts`) and
`normalizeEmail` (`src/domain/prelogin.ts`). Of the host, `toLowerCase` and `Date.parse` are
parameters.

Results:
* **`parseAccountMailDelivery_eq_some_iff`**: a delivery is read out of an object of exactly its six
  members, where these are as they should be;
* `canonicalTimestamp_iff`: a canonical timestamp is the text of a time in the years 0 to 9999.
-/

namespace HonoWarden

open Web

/-! ## Deliveries -/

/-- `AccountLifecycleDelivery['disposition']`. -/
inductive MailDisposition where
  | deliver
  | suppress
  deriving DecidableEq, Repr

def MailDisposition.text : MailDisposition → JsString
  | .deliver => js "deliver"
  | .suppress => js "suppress"

def readDisposition (text : JsString) : Option MailDisposition :=
  if text = js "deliver" then some .deliver
  else if text = js "suppress" then some .suppress
  else none

def AccountLifecycleTokenPurpose.text : AccountLifecycleTokenPurpose → JsString
  | .emailVerify => js "email_verify"
  | .emailChange => js "email_change"
  | .accountDelete => js "account_delete"

def readPurpose (text : JsString) : Option AccountLifecycleTokenPurpose :=
  if text = js "email_verify" then some .emailVerify
  else if text = js "email_change" then some .emailChange
  else if text = js "account_delete" then some .accountDelete
  else none

/-- `AccountLifecycleDelivery`. -/
structure AccountLifecycleDelivery where
  disposition : MailDisposition
  purpose : AccountLifecycleTokenPurpose
  recipientEmail : JsString
  token : JsString
  userId : JsString
  expiresAt : JsString
  deriving DecidableEq

/-- What the codec takes from its host for reading. -/
structure MailHost where
  toLowerCase : JsString → JsString
  dateParse : DateParse

/-! ## Checks of texts -/

/-- `tokenPattern`: 43 units, and the last holds four bits only. -/
def IsMailToken (text : JsString) : Prop :=
  IsUrlText 43 43 text ∧ ∃ c ∈ text.getLast?, c ∈ js "AEIMQUYcgkosw048"

instance (text : JsString) : Decidable (IsMailToken text) := inferInstanceAs (Decidable (_ ∧ _))

/-- `canonicalTimestamp`, of a string. -/
def CanonicalTimestamp (dateParse : DateParse) (value : JsString) : Prop :=
  value.length = 24 ∧ ∃ t ∈ dateParse.parse value, toISOString t = value

instance (dateParse : DateParse) (value : JsString) :
    Decidable (CanonicalTimestamp dateParse value) := inferInstanceAs (Decidable (_ ∧ _))

/-- `isControlCharacter`. -/
def IsControlUnit (c : CodeUnit) : Prop := c.val ≤ 31 ∨ c.val = 127

instance : DecidablePred IsControlUnit := fun _ => inferInstanceAs (Decidable (_ ∨ _))

/-- `normalizeEmail`. -/
def normalizeEmail (toLowerCase : JsString → JsString) (value : JsString) : Option JsString :=
  let normalized := toLowerCase (trim value)
  if normalized.length = 0 ∨ normalized.head? = some 64 ∨ normalized.getLast? = some 64 ∨
      64 ∉ normalized then none
  else some normalized

/-- `/^[^@]+@[^@]+$/u`. -/
def IsEmailShape (value : JsString) : Prop :=
  value.takeWhile (· ≠ 64) ≠ [] ∧ (value.dropWhile (· ≠ 64)).tail ≠ [] ∧
    64 ∉ (value.dropWhile (· ≠ 64)).tail

instance (value : JsString) : Decidable (IsEmailShape value) :=
  inferInstanceAs (Decidable (_ ∧ _))

/-- `strictNormalizeEmail`. -/
def strictNormalizeEmail (toLowerCase : JsString → JsString) (value : JsString) : Option JsString :=
  (normalizeEmail toLowerCase value).bind fun normalized =>
    if normalized = [] ∨ 256 < value.length ∨ trim value ≠ value ∨
        value.any (fun c => IsJsSpace c) = true ∨ ¬ IsEmailShape value then none
    else some normalized

/-! ## Reading objects -/

section Objects

variable {ν : Type}

/-- `objectWithFields`. -/
def objectWithFields (value : JsonValue ν) (fields : List JsString) : Bool :=
  match value with
  | .object members =>
    members.length = fields.length ∧ fields.all fun field => members.any fun m => m.1 = field
  | _ => false

/-- A value is this string. -/
def isText (text : JsString) : JsonValue ν → Bool
  | .string value => value = text
  | _ => false

/-- `readAliasedBoundedString`. -/
def readAliasedBoundedString (body : JsonValue ν) (names : List JsString) (maxLength : Nat) :
    Option JsString :=
  match names.filterMap body.get? with
  | .string text :: values =>
    if values.any (fun value => !isText text value) = true ∨ text.length = 0 ∨
        maxLength < text.length ∨ trim text ≠ text ∨
        text.any (fun c => IsControlUnit c) = true then none
    else some text
  | _ => none

/-- `parseAccountDeletionRecoveryBody`: the email and its normal form. -/
def parseAccountDeletionRecoveryBody (toLowerCase : JsString → JsString) (body : JsonValue ν) :
    Option (JsString × JsString) :=
  match body with
  | .object members =>
    (readAliasedBoundedString (.object members) [js "email", js "Email"] 256).bind fun email =>
      (strictNormalizeEmail toLowerCase email).map fun emailNormalized => (email, emailNormalized)
  | _ => none

variable (ν) in
/-- The checks of `parseAccountMailDelivery` beside those of types and of the two enumerations. -/
def AccountLifecycleDelivery.Accepted (host : MailHost) (delivery : AccountLifecycleDelivery) :
    Prop :=
  (parseAccountDeletionRecoveryBody (ν := ν) host.toLowerCase
      (.object [(js "email", .string delivery.recipientEmail)])).isSome = true ∧
    ¬ delivery.recipientEmail.any (fun c => c.val < 32 ∨ c.val = 127) = true ∧
    (encodeUtf8 delivery.recipientEmail).length ≤ 254 ∧
    IsMailToken delivery.token ∧ IsUrlText 1 128 delivery.userId ∧
    CanonicalTimestamp host.dateParse delivery.expiresAt

instance (host : MailHost) (delivery : AccountLifecycleDelivery) :
    Decidable (delivery.Accepted ν host) := inferInstanceAs (Decidable (_ ∧ _))

/-- The fields of a delivery. -/
def deliveryFields : List JsString :=
  [js "disposition", js "purpose", js "recipientEmail", js "token", js "userId", js "expiresAt"]

/-- `parseAccountMailDelivery`. -/
def parseAccountMailDelivery (host : MailHost) (value : JsonValue ν) :
    Option AccountLifecycleDelivery :=
  if objectWithFields value deliveryFields = true then
    ((value.string? (js "disposition")).bind readDisposition).bind fun disposition =>
      ((value.string? (js "purpose")).bind readPurpose).bind fun purpose =>
        (value.string? (js "recipientEmail")).bind fun recipientEmail =>
          (value.string? (js "token")).bind fun token =>
            (value.string? (js "userId")).bind fun userId =>
              (value.string? (js "expiresAt")).bind fun expiresAt =>
                let delivery : AccountLifecycleDelivery :=
                  { disposition, purpose, recipientEmail, token, userId, expiresAt }
                if delivery.Accepted ν host then some delivery else none
  else none

/-- A delivery as `JSON.stringify` writes it. -/
def AccountLifecycleDelivery.value (delivery : AccountLifecycleDelivery) : JsonValue ν :=
  .object
    [(js "disposition", .string delivery.disposition.text),
      (js "purpose", .string delivery.purpose.text),
      (js "recipientEmail", .string delivery.recipientEmail),
      (js "token", .string delivery.token),
      (js "userId", .string delivery.userId),
      (js "expiresAt", .string delivery.expiresAt)]

end Objects

/-! ## What is read -/

@[simp] theorem readDisposition_text (disposition : MailDisposition) :
    readDisposition disposition.text = some disposition := by
  cases disposition <;> decide

@[simp] theorem readPurpose_text (purpose : AccountLifecycleTokenPurpose) :
    readPurpose purpose.text = some purpose := by
  cases purpose <;> decide

theorem readDisposition_eq_some_iff {text : JsString} {disposition : MailDisposition} :
    readDisposition text = some disposition ↔ text = disposition.text := by
  constructor
  · intro h
    unfold readDisposition at h
    split_ifs at h with hdeliver hsuppress
    · cases h
      exact hdeliver
    · cases h
      exact hsuppress
  · rintro rfl
    exact readDisposition_text disposition

theorem readPurpose_eq_some_iff {text : JsString} {purpose : AccountLifecycleTokenPurpose} :
    readPurpose text = some purpose ↔ text = purpose.text := by
  constructor
  · intro h
    unfold readPurpose at h
    split_ifs at h with hverify hchange hdelete
    · cases h
      exact hverify
    · cases h
      exact hchange
    · cases h
      exact hdelete
  · rintro rfl
    exact readPurpose_text purpose

/-- A canonical timestamp is the text of a time in the years 0 to 9999. -/
theorem canonicalTimestamp_iff {dateParse : DateParse} {value : JsString} :
    CanonicalTimestamp dateParse value ↔ ∃ t, IsFourDigitTime t ∧ toISOString t = value := by
  constructor
  · rintro ⟨hlength, t, -, htext⟩
    exact ⟨t, (length_toISOString t).mp (htext ▸ hlength), htext⟩
  · rintro ⟨t, htime, rfl⟩
    exact ⟨(length_toISOString t).mpr htime, t, dateParse.parse_toISOString htime.isTime, rfl⟩

section Objects

variable {ν : Type} {host : MailHost}

/-- **A delivery is read out of an object of exactly its six members**, where these are as they
should be. -/
theorem parseAccountMailDelivery_eq_some_iff {value : JsonValue ν}
    {delivery : AccountLifecycleDelivery} :
    parseAccountMailDelivery host value = some delivery ↔
      objectWithFields value deliveryFields = true ∧
        value.string? (js "disposition") = some delivery.disposition.text ∧
        value.string? (js "purpose") = some delivery.purpose.text ∧
        value.string? (js "recipientEmail") = some delivery.recipientEmail ∧
        value.string? (js "token") = some delivery.token ∧
        value.string? (js "userId") = some delivery.userId ∧
        value.string? (js "expiresAt") = some delivery.expiresAt ∧ delivery.Accepted ν host := by
  unfold parseAccountMailDelivery
  constructor
  · intro h
    split_ifs at h with hfields
    simp only [Option.bind_eq_some_iff, readDisposition_eq_some_iff, readPurpose_eq_some_iff] at h
    obtain ⟨disposition, ⟨_, hdisposition, rfl⟩, purpose, ⟨_, hpurpose, rfl⟩, recipientEmail,
      hemail, token, htoken, userId, huser, expiresAt, hexpires, h⟩ := h
    split_ifs at h with haccepted
    cases h
    exact ⟨hfields, hdisposition, hpurpose, hemail, htoken, huser, hexpires, haccepted⟩
  · rintro ⟨hfields, hdisposition, hpurpose, hemail, htoken, huser, hexpires, haccepted⟩
    rw [if_pos hfields, hdisposition, hpurpose, hemail, htoken, huser, hexpires]
    simp only [Option.bind_some, readDisposition_text, readPurpose_text]
    exact if_pos haccepted

/-- An accepted delivery is read back. -/
theorem parseAccountMailDelivery_value {delivery : AccountLifecycleDelivery}
    (h : delivery.Accepted ν host) :
    parseAccountMailDelivery host (delivery.value : JsonValue ν) = some delivery :=
  parseAccountMailDelivery_eq_some_iff.mpr ⟨rfl, rfl, rfl, rfl, rfl, rfl, rfl, h⟩

theorem accepted_of_parse {value : JsonValue ν} {delivery : AccountLifecycleDelivery}
    (h : parseAccountMailDelivery host value = some delivery) : delivery.Accepted ν host :=
  (parseAccountMailDelivery_eq_some_iff.mp h).2.2.2.2.2.2.2

/-- When an accepted delivery expires. -/
theorem AccountLifecycleDelivery.Accepted.expires {delivery : AccountLifecycleDelivery}
    (h : delivery.Accepted ν host) : ∃ expires, IsFourDigitTime expires ∧
      toISOString expires = delivery.expiresAt ∧
      host.dateParse.parse delivery.expiresAt = some expires := by
  obtain ⟨expires, htime, htext⟩ := canonicalTimestamp_iff.mp h.2.2.2.2.2
  exact ⟨expires, htime, htext, htext ▸ host.dateParse.parse_toISOString htime.isTime⟩

end Objects

end HonoWarden
