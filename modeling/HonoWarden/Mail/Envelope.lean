import Mathlib.Data.Rat.Floor
import HonoWarden.Mail.Delivery
import HonoWarden.Web.JsonInteger
import HonoWarden.Web.SealedBlock
import HonoWarden.Web.TextSize

/-!
# Envelopes of account lifecycle mail

Model of `createAccountMailCodec` (`src/account-lifecycle-mail-envelope.ts`) with its `readKeys`,
`seal` and `open`, and of `accountLifecycleTokenExpiresAt` (`src/domain/account-lifecycle.ts`).

* A finite number is a rational; `none` in the place of `now` is one that is not finite.
* The cipher is a parameter (`Aead`), what `getRandomValues` returns an argument (`SealNoise`).
* `none` as the result of `sealAccountMail` is its exception.

Results:
* `length_mailPayload_le`: the payload of an accepted delivery fits into its block;
* `sealAccountMail_eq`: `seal` by cases on the times of the delivery;
* **`accountMailCodec`**: what is sealed is opened again, all envelopes have one length, and `seal`
  refuses no delivery for its size.
-/

namespace HonoWarden

open Web

/-! ## Times -/

/-- `new Date(time)`: cut to whole milliseconds; `none` beyond the range of times. -/
def timeClip (time : ℚ) : Option Int :=
  if 8640000000000000 < |time| then none else some (if 0 ≤ time then ⌊time⌋ else ⌈time⌉)

/-- `new Date(time).toISOString()`; `none` is an exception. -/
def newDateText (time : ℚ) : Option JsString := (timeClip time).map toISOString

/-- `accountLifecycleTokenTtlMilliseconds`. -/
def accountLifecycleTokenTtlMilliseconds : AccountLifecycleTokenPurpose → Int
  | .accountDelete => 15 * 60 * 1000
  | .emailChange => 15 * 60 * 1000
  | .emailVerify => 24 * 60 * 60 * 1000

/-- `accountLifecycleTokenExpiresAt`; `none` is an exception. -/
def accountLifecycleTokenExpiresAt (dateParse : DateParse) (purpose : AccountLifecycleTokenPurpose)
    (now : JsString) : Option JsString :=
  (dateParse.parse now).bind fun timestamp =>
    newDateText ((timestamp + accountLifecycleTokenTtlMilliseconds purpose : Int) : ℚ)

/-- `a > b` of two parsed times; `NaN` compares with nothing. -/
def isLater (a b : Option Int) : Bool := a.any fun a => b.any fun b => b < a

/-- `a <= b` of two parsed times. -/
def isNotLater (a b : Option Int) : Bool := a.any fun a => b.any fun b => a ≤ b

/-- Whether a delivery expires later than its purpose allows from `queuedAt` on; `none` is an
exception. -/
def expiresTooLate (dateParse : DateParse) (delivery : AccountLifecycleDelivery)
    (queuedAt : JsString) : Option Bool :=
  (accountLifecycleTokenExpiresAt dateParse delivery.purpose queuedAt).map fun latest =>
    isLater (dateParse.parse delivery.expiresAt) (dateParse.parse latest)

/-! ## Keys -/

/-- A key id and 32 bytes of key. -/
structure AccountMailKey where
  id : JsString
  material : List Byte
  id_text : IsUrlText 1 32 id
  length_material : material.length = 32
  deriving DecidableEq

/-- The keys of a codec and which of them it seals with. -/
structure AccountMailKeyring where
  keys : List AccountMailKey
  activeKeyId : JsString
  size : 1 ≤ keys.length ∧ keys.length ≤ 3
  distinct : (keys.map AccountMailKey.id).Nodup
  active_mem : activeKeyId ∈ keys.map AccountMailKey.id

/-- `keys.get(keyId)`. -/
def AccountMailKeyring.get (keyring : AccountMailKeyring) (keyId : JsString) :
    Option AccountMailKey :=
  keyring.keys.find? fun key => key.id = keyId

/-- `decode`. -/
def decodeMailText (value : JsString) : Option (List Byte) :=
  atob (padBase64 (fromUrlAlphabet value))

section Codec

variable {ν : Type}

/-- One entry of `keysJson`. -/
def readAccountMailKey (entry : JsString × JsonValue ν) : Option AccountMailKey :=
  match entry.2 with
  | .string material =>
    if hid : IsUrlText 1 32 entry.1 ∧ IsMailToken material then
      (decodeMailText material).bind fun decoded =>
        if hlength : decoded.length = 32 ∧ base64UrlEncode decoded = material then
          some ⟨entry.1, decoded, hid.1, hlength.1⟩
        else none
    else none
  | _ => none

/-- A key has the id of its entry. -/
theorem id_readAccountMailKey {entry : JsString × JsonValue ν} {key : AccountMailKey}
    (h : readAccountMailKey entry = some key) : key.id = entry.1 := by
  unfold readAccountMailKey at h
  split at h
  · split_ifs at h with hid
    obtain ⟨decoded, -, h⟩ := Option.bind_eq_some_iff.mp h
    split_ifs at h with hlength
    cases h
    rfl
  · cases h

theorem ids_mapM_readAccountMailKey {entries : List (JsString × JsonValue ν)}
    {keys : List AccountMailKey} (h : entries.mapM readAccountMailKey = some keys) :
    keys.map AccountMailKey.id = entries.map Prod.fst := by
  have hread := mapM_eq_some_iff_forall₂.mp h
  clear h
  induction hread with
  | nil => rfl
  | cons hkey _ ih => rw [List.map_cons, List.map_cons, ih, id_readAccountMailKey hkey]

variable [JsonNumber ν]

variable (ν) in
/-- `readKeys`. -/
def readKeys (activeKeyId keysJson : JsString) : Option AccountMailKeyring :=
  if ¬ IsUrlText 1 32 activeKeyId ∨ 512 < keysJson.length then none
  else
    match hparsed : parseJson (ν := ν) keysJson with
    | some (.object entries) =>
      match hkeys : entries.mapM readAccountMailKey with
      | some keys =>
        if h : (1 ≤ keys.length ∧ keys.length ≤ 3) ∧
            activeKeyId ∈ keys.map AccountMailKey.id then
          some
            { keys, activeKeyId, size := h.1, active_mem := h.2,
              distinct := ids_mapM_readAccountMailKey hkeys ▸ nodup_of_parseJson hparsed }
        else none
      | none => none
    | _ => none

/-! ## Sealing -/

/-- `AccountMailEnvelope`, of version 1. -/
structure AccountMailEnvelope where
  keyId : JsString
  iv : JsString
  ciphertext : JsString
  deriving DecidableEq

/-- What `getRandomValues` returns while an envelope is sealed. -/
structure SealNoise where
  block : List Byte
  iv : List Byte
  length_block : block.length = 2048
  length_iv : iv.length = 12

/-- `aad`. -/
def mailAad (keyId : JsString) : List Byte :=
  encodeUtf8 (js "honowarden:account-lifecycle-mail:v1:" ++ keyId)

/-- What is sealed. -/
def mailMessage (delivery : AccountLifecycleDelivery) (queuedAt : JsString) : JsonValue ν :=
  .object [(js "delivery", delivery.value), (js "queuedAt", .string queuedAt)]

variable (ν) in
/-- `payload`. -/
def mailPayload (delivery : AccountLifecycleDelivery) (queuedAt : JsString) : List Byte :=
  jsonBytes (ν := ν) (mailMessage delivery queuedAt)

/-- An envelope of `payload` under `key`. -/
def mailEnvelope (aead : Aead) (key : AccountMailKey) (noise : SealNoise) (payload : List Byte) :
    AccountMailEnvelope where
  keyId := key.id
  iv := base64UrlEncode noise.iv
  ciphertext := base64UrlEncode
    (aead.encrypt key.material noise.iv (mailAad key.id) (fillBlock noise.block payload))

/-- `seal`; `none` is its exception. -/
def sealAccountMail (host : MailHost) (aead : Aead) (keyring : AccountMailKeyring)
    (value : JsonValue ν) (now : Option ℚ) (noise : SealNoise) : Option AccountMailEnvelope :=
  (parseAccountMailDelivery host value).bind fun delivery =>
    now.bind fun now =>
      if (host.dateParse.parse delivery.expiresAt).any (fun expires : Int => expires ≤ now) = true
      then none
      else
        (newDateText now).bind fun queuedAt =>
          (expiresTooLate host.dateParse delivery queuedAt).bind fun tooLate =>
            if tooLate = true ∨ 2048 - 2 < (mailPayload ν delivery queuedAt).length then none
            else
              (keyring.get keyring.activeKeyId).map fun key =>
                mailEnvelope aead key noise (mailPayload ν delivery queuedAt)

/-! ## Opening -/

/-- `OpenAccountMail`. -/
inductive OpenAccountMail where
  | decoded (delivery : AccountLifecycleDelivery) (queuedAt : JsString)
  | invalid
  | unknownKey
  | unreadable
  deriving DecidableEq

/-- The envelope as a message of the queue. -/
def AccountMailEnvelope.value (envelope : AccountMailEnvelope) : JsonValue ν :=
  .object
    [(js "version", .number (JsonNumber.ofInt 1)), (js "keyId", .string envelope.keyId),
      (js "iv", .string envelope.iv), (js "ciphertext", .string envelope.ciphertext)]

/-- The checks of `open` on its argument. -/
def readEnvelope (value : JsonValue ν) : Option AccountMailEnvelope :=
  if objectWithFields value [js "version", js "keyId", js "iv", js "ciphertext"] = true ∧
      (value.number? (js "version")).bind JsonNumber.integer? = some 1 then
    (value.string? (js "keyId")).bind fun keyId =>
      (value.string? (js "iv")).bind fun iv =>
        (value.string? (js "ciphertext")).bind fun ciphertext =>
          if IsUrlText 1 32 keyId ∧ IsUrlText 16 16 iv ∧ IsUrlText 2752 2752 ciphertext then
            some ⟨keyId, iv, ciphertext⟩
          else none
  else none

variable (ν) in
/-- What `open` reads out of a decrypted block; `none` is `invalid`. -/
def readMailBlock (host : MailHost) (plaintext : List Byte) :
    Option (AccountLifecycleDelivery × JsString) :=
  if plaintext.length ≠ 2048 ∨ getUint16 plaintext < 1 ∨ 2048 - 2 < getUint16 plaintext then none
  else
    ((decodeTextFatal (blockPayload plaintext)).bind (parseJson (ν := ν))).bind fun payload =>
      if objectWithFields payload [js "delivery", js "queuedAt"] = true then
        (payload.string? (js "queuedAt")).bind fun queuedAt =>
          if CanonicalTimestamp host.dateParse queuedAt then
            ((payload.get? (js "delivery")).bind (parseAccountMailDelivery host)).bind
              fun delivery =>
                if isNotLater (host.dateParse.parse delivery.expiresAt)
                    (host.dateParse.parse queuedAt) = true then none
                else
                  (expiresTooLate host.dateParse delivery queuedAt).bind fun tooLate =>
                    if tooLate = true then none else some (delivery, queuedAt)
          else none
      else none

/-- `open`. -/
def openAccountMail (host : MailHost) (aead : Aead) (keyring : AccountMailKeyring)
    (value : JsonValue ν) : OpenAccountMail :=
  match readEnvelope value with
  | none => .invalid
  | some envelope =>
    match keyring.get envelope.keyId with
    | none => .unknownKey
    | some key =>
      match (decodeMailText envelope.iv).bind fun iv =>
          (decodeMailText envelope.ciphertext).bind fun ciphertext =>
            aead.decrypt key.material iv (mailAad envelope.keyId) ciphertext with
      | none => .unreadable
      | some plaintext =>
        match readMailBlock ν host plaintext with
        | none => .invalid
        | some (delivery, queuedAt) => .decoded delivery queuedAt

/-! ## Times of a delivery -/

theorem newDateText_of_nonneg {now : ℚ} (hnow : 0 ≤ now) (hlast : now ≤ 8640000000000000) :
    newDateText now = some (toISOString ⌊now⌋) := by
  have hrange : ¬ 8640000000000000 < |now| := by rwa [abs_of_nonneg hnow, not_lt]
  rw [newDateText, timeClip, if_neg hrange, if_pos hnow, Option.map_some]

theorem newDateText_intCast {t : Int} (h : IsTime t) : newDateText (t : ℚ) = some (toISOString t) := by
  have hrange : ¬ 8640000000000000 < |(t : ℚ)| := by
    rw [not_lt, abs_le]
    exact ⟨by exact_mod_cast h.1, by exact_mod_cast h.2⟩
  rw [newDateText, timeClip, if_neg hrange, Int.floor_intCast, Int.ceil_intCast, ite_self,
    Option.map_some]

theorem accountLifecycleTokenTtlMilliseconds_le (purpose : AccountLifecycleTokenPurpose) :
    0 < accountLifecycleTokenTtlMilliseconds purpose ∧
      accountLifecycleTokenTtlMilliseconds purpose ≤ 86400000 := by
  cases purpose <;> decide

/-- The times of a delivery are compared without an exception. -/
theorem expiresTooLate_eq {dateParse : DateParse} {delivery : AccountLifecycleDelivery}
    {queued expires : Int} (hqueued : IsFourDigitTime queued)
    (hexpires : dateParse.parse delivery.expiresAt = some expires) :
    expiresTooLate dateParse delivery (toISOString queued) =
      some (decide
        (queued + accountLifecycleTokenTtlMilliseconds delivery.purpose < expires)) := by
  have httl := accountLifecycleTokenTtlMilliseconds_le delivery.purpose
  have hlatest : IsTime (queued + accountLifecycleTokenTtlMilliseconds delivery.purpose) := by
    unfold IsFourDigitTime at hqueued
    unfold IsTime
    omega
  rw [expiresTooLate, accountLifecycleTokenExpiresAt, dateParse.parse_toISOString hqueued.isTime,
    Option.bind_some, newDateText_intCast hlatest, Option.map_some, hexpires,
    dateParse.parse_toISOString hlatest]
  rfl

/-! ## The size of a payload -/

/-- The names in a payload take 68 bytes. -/
theorem byteWeight_payloadNames : ((js "delivery" :: js "queuedAt" :: deliveryFields).map
    fun name => byteWeight (quoteText name)).sum = 68 := by
  decide

theorem byteWeight_dispositionText_le (disposition : MailDisposition) :
    byteWeight (quoteText disposition.text) ≤ 8 := by
  cases disposition <;> decide

theorem byteWeight_purposeText_le (purpose : AccountLifecycleTokenPurpose) :
    byteWeight (quoteText purpose.text) ≤ 14 := by
  cases purpose <;> decide

/-- **The payload of an accepted delivery fits into its block.** -/
theorem length_mailPayload_le {host : MailHost} {delivery : AccountLifecycleDelivery}
    (haccepted : delivery.Accepted ν host) {queuedAt : JsString} (hqueued : queuedAt.length = 24) :
    (mailPayload ν delivery queuedAt).length ≤ 2046 := by
  obtain ⟨-, hcontrol, hbytes, ⟨⟨-, htoken, -⟩, -⟩, ⟨-, huser, -⟩, hexpires, -⟩ := haccepted
  have hprintable : ∀ c ∈ delivery.recipientEmail, 32 ≤ c.val := by
    intro c hc
    by_contra hlt
    exact hcontrol (List.any_eq_true.mpr ⟨c, hc, decide_eq_true (.inl (by omega))⟩)
  -- the email takes at most twice its 254 bytes, any other text six bytes a unit
  have hemail := byteWeight_quoteText_le_bytes hprintable
  have htokenWeight := byteWeight_quoteText_le delivery.token
  have huserWeight := byteWeight_quoteText_le delivery.userId
  have hexpiresWeight := byteWeight_quoteText_le delivery.expiresAt
  have hqueuedWeight := byteWeight_quoteText_le queuedAt
  have hdisposition := byteWeight_dispositionText_le delivery.disposition
  have hpurpose := byteWeight_purposeText_le delivery.purpose
  have hnames := byteWeight_payloadNames
  simp only [deliveryFields, List.map_cons, List.map_nil, List.sum_cons, List.sum_nil] at hnames
  refine (length_encodeUtf8_le _).trans ?_
  simp only [mailMessage, AccountLifecycleDelivery.value, JsonValue.stringify, JsonValue.memberTexts,
    byteWeight_cons, byteWeight_append, byteWeight_quote, byteWeight_nil]
  have hmarks : unitWeight 123 = 1 ∧ unitWeight 58 = 1 ∧ unitWeight 44 = 1 ∧ unitWeight 125 = 1 := by
    decide
  omega

/-! ## Opening what was sealed -/

/-- A key of the ring is found under its id. -/
theorem AccountMailKeyring.get_id {keyring : AccountMailKeyring} {key : AccountMailKey}
    (h : key ∈ keyring.keys) : keyring.get key.id = some key := by
  unfold AccountMailKeyring.get
  have hsome : (keyring.keys.find? fun k => k.id = key.id).isSome = true :=
    List.find?_isSome.mpr ⟨key, h, decide_eq_true rfl⟩
  obtain ⟨found, hfound⟩ := Option.isSome_iff_exists.mp hsome
  have hid : found.id = key.id := of_decide_eq_true (List.find?_some hfound :)
  rw [hfound, List.inj_on_of_nodup_map keyring.distinct (List.mem_of_find?_eq_some hfound) h hid]

theorem AccountMailKeyring.exists_get_active (keyring : AccountMailKeyring) :
    ∃ key ∈ keyring.keys, keyring.get keyring.activeKeyId = some key := by
  obtain ⟨key, hmem, hid⟩ := List.mem_map.mp keyring.active_mem
  exact ⟨key, hmem, hid ▸ AccountMailKeyring.get_id hmem⟩

theorem isUrlText_base64UrlEncode {bytes : List Byte} {n : Nat}
    (h : (bytes.length * 8 + 5) / 6 = n) : IsUrlText n n (base64UrlEncode bytes) := by
  have hlength : (base64UrlEncode bytes).length = n := (base64UrlEncode_length bytes).trans h
  exact ⟨hlength.ge, hlength.le, List.all_eq_true.mpr fun _ hc =>
    decide_eq_true (isUrlUnit_of_mem_base64UrlEncode hc)⟩

theorem decodeMailText_base64UrlEncode (bytes : List Byte) :
    decodeMailText (base64UrlEncode bytes) = some bytes :=
  atob_padBase64_base64UrlEncode bytes

/-- What is encrypted is 2064 bytes long, whatever the payload. -/
theorem length_encrypt_fillBlock (aead : Aead) (key : AccountMailKey) (noise : SealNoise)
    {payload : List Byte} (h : payload.length ≤ 2046) :
    (aead.encrypt key.material noise.iv (mailAad key.id) (fillBlock noise.block payload)).length =
      2064 := by
  rw [aead.length_encrypt _ _ key.length_material noise.length_iv,
    length_fillBlock (by rw [noise.length_block]; omega), noise.length_block]

/-- The checks of `open` pass on every envelope. -/
theorem readEnvelope_mailEnvelope {aead : Aead} {key : AccountMailKey} {noise : SealNoise}
    {payload : List Byte} (h : payload.length ≤ 2046) :
    readEnvelope ((mailEnvelope aead key noise payload).value : JsonValue ν) =
      some (mailEnvelope aead key noise payload) := by
  have hversion : ((mailEnvelope aead key noise payload).value : JsonValue ν).number?
      (js "version") = some (JsonNumber.ofInt 1) := rfl
  have hkey : ((mailEnvelope aead key noise payload).value : JsonValue ν).string? (js "keyId") =
      some key.id := rfl
  have hiv : ((mailEnvelope aead key noise payload).value : JsonValue ν).string? (js "iv") =
      some (mailEnvelope aead key noise payload).iv := rfl
  have hciphertext : ((mailEnvelope aead key noise payload).value : JsonValue ν).string?
      (js "ciphertext") = some (mailEnvelope aead key noise payload).ciphertext := rfl
  have hone : JsonNumber.integer? (JsonNumber.ofInt (ν := ν) 1) = some 1 :=
    JsonNumber.integer?_ofInt (by decide)
  have hivText : IsUrlText 16 16 (mailEnvelope aead key noise payload).iv :=
    isUrlText_base64UrlEncode (by rw [noise.length_iv])
  have hciphertextText : IsUrlText 2752 2752 (mailEnvelope aead key noise payload).ciphertext :=
    isUrlText_base64UrlEncode (by rw [length_encrypt_fillBlock aead key noise h])
  unfold readEnvelope
  rw [hversion, hkey, hiv, hciphertext, Option.bind_some, if_pos ⟨rfl, hone⟩]
  simp only [Option.bind_some]
  exact if_pos ⟨key.id_text, hivText, hciphertextText⟩

/-- A payload is parsed to what it was written from. -/
theorem parseJson_mailPayload (delivery : AccountLifecycleDelivery) (queuedAt : JsString) :
    (decodeTextFatal (mailPayload ν delivery queuedAt)).bind parseJson =
      some (mailMessage delivery queuedAt : JsonValue ν) := by
  have hnames : [js "delivery", js "queuedAt"].Nodup := by decide
  have hfields : deliveryFields.Nodup := by decide
  exact parseJson_decodeTextFatal ⟨hnames,
    ⟨hfields, trivial, trivial, trivial, trivial, trivial, trivial, trivial⟩, trivial, trivial⟩

/-- The payload of an accepted delivery is read out of its block while the delivery is current. -/
theorem readMailBlock_fillBlock {host : MailHost} {delivery : AccountLifecycleDelivery}
    (haccepted : delivery.Accepted ν host) {queued expires : Int}
    (hqueued : IsFourDigitTime queued)
    (hexpires : host.dateParse.parse delivery.expiresAt = some expires) (hafter : queued < expires)
    (hlatest : expires ≤ queued + accountLifecycleTokenTtlMilliseconds delivery.purpose)
    (noise : SealNoise) :
    readMailBlock ν host (fillBlock noise.block (mailPayload ν delivery (toISOString queued))) =
      some (delivery, toISOString queued) := by
  have hcanonical : CanonicalTimestamp host.dateParse (toISOString queued) :=
    canonicalTimestamp_iff.mpr ⟨queued, hqueued, rfl⟩
  have hsize := length_mailPayload_le (ν := ν) haccepted hcanonical.1
  have hpos : 1 ≤ (mailPayload ν delivery (toISOString queued)).length :=
    List.length_pos_of_ne_nil (jsonBytes_ne_nil _)
  have hlength : (fillBlock noise.block (mailPayload ν delivery (toISOString queued))).length =
      2048 :=
    (length_fillBlock (by rw [noise.length_block]; omega)).trans noise.length_block
  have hfields : objectWithFields (mailMessage delivery (toISOString queued) : JsonValue ν)
      [js "delivery", js "queuedAt"] = true := rfl
  have hqueuedAt : (mailMessage delivery (toISOString queued) : JsonValue ν).string?
      (js "queuedAt") = some (toISOString queued) := rfl
  have hdelivery : (mailMessage delivery (toISOString queued) : JsonValue ν).get?
      (js "delivery") = some delivery.value := rfl
  have hnotLater : ¬ isNotLater (some expires) (some queued) = true := by
    simpa [isNotLater] using hafter
  unfold readMailBlock
  rw [getUint16_fillBlock (by omega), blockPayload_fillBlock (by omega), hlength,
    if_neg (by omega), parseJson_mailPayload, Option.bind_some, if_pos hfields, hqueuedAt,
    Option.bind_some, if_pos hcanonical, hdelivery, Option.bind_some,
    parseAccountMailDelivery_value haccepted, Option.bind_some, hexpires,
    host.dateParse.parse_toISOString hqueued.isTime, if_neg hnotLater,
    expiresTooLate_eq hqueued hexpires, Option.bind_some]
  exact if_neg (by simpa using hlatest)

/-- An envelope is opened by every ring that has its key. -/
theorem openAccountMail_mailEnvelope {host : MailHost} {aead : Aead} {keyring : AccountMailKeyring}
    {key : AccountMailKey} (hkey : key ∈ keyring.keys) {noise : SealNoise} {payload : List Byte}
    (hsize : payload.length ≤ 2046) {delivery : AccountLifecycleDelivery} {queuedAt : JsString}
    (hread : readMailBlock ν host (fillBlock noise.block payload) = some (delivery, queuedAt)) :
    openAccountMail host aead keyring
      ((mailEnvelope aead key noise payload).value : JsonValue ν) = .decoded delivery queuedAt := by
  have hdecrypt : (decodeMailText (mailEnvelope aead key noise payload).iv).bind (fun iv =>
      (decodeMailText (mailEnvelope aead key noise payload).ciphertext).bind fun ciphertext =>
        aead.decrypt key.material iv (mailAad (mailEnvelope aead key noise payload).keyId)
          ciphertext) = some (fillBlock noise.block payload) := by
    simp only [mailEnvelope, decodeMailText_base64UrlEncode, Option.bind_some]
    exact aead.decrypt_encrypt _ _ key.length_material noise.length_iv
  have hget : keyring.get (mailEnvelope aead key noise payload).keyId = some key :=
    AccountMailKeyring.get_id hkey
  unfold openAccountMail
  rw [readEnvelope_mailEnvelope hsize]
  simp only [hget, hdecrypt, hread]

/-! ## The codec -/

/-- What `seal` comes to on an accepted delivery: no exception comes from its size. -/
theorem sealAccountMail_eq {host : MailHost} {aead : Aead} (keyring : AccountMailKeyring)
    {value : JsonValue ν} {delivery : AccountLifecycleDelivery}
    (hparse : parseAccountMailDelivery host value = some delivery) {expires : Int}
    (hyear : IsFourDigitTime expires)
    (hexpires : host.dateParse.parse delivery.expiresAt = some expires) {now : ℚ} (hnow : 0 ≤ now)
    (noise : SealNoise) : ∃ key ∈ keyring.keys,
      sealAccountMail host aead keyring value (some now) noise =
        if (expires : ℚ) ≤ now ∨
            ⌊now⌋ + accountLifecycleTokenTtlMilliseconds delivery.purpose < expires then none
        else some (mailEnvelope aead key noise (mailPayload ν delivery (toISOString ⌊now⌋))) := by
  obtain ⟨key, hmem, hget⟩ := keyring.exists_get_active
  refine ⟨key, hmem, ?_⟩
  unfold sealAccountMail
  rw [hparse, Option.bind_some, Option.bind_some, hexpires, Option.any_some, hget]
  by_cases hexpired : (expires : ℚ) ≤ now
  · rw [if_pos (decide_eq_true hexpired), if_pos (.inl hexpired)]
  have hlast : now ≤ 8640000000000000 :=
    (le_of_not_ge hexpired).trans (by exact_mod_cast hyear.isTime.2)
  have hfloor : 0 ≤ ⌊now⌋ := Int.floor_nonneg.mpr hnow
  have hbefore : ⌊now⌋ < expires := Int.floor_lt.mpr (not_le.mp hexpired)
  have hqueued : IsFourDigitTime ⌊now⌋ := by
    unfold IsFourDigitTime at hyear ⊢
    omega
  have hsize := length_mailPayload_le (accepted_of_parse hparse)
    ((length_toISOString ⌊now⌋).mpr hqueued)
  rw [if_neg (by simpa using hexpired), newDateText_of_nonneg hnow hlast, Option.bind_some,
    expiresTooLate_eq hqueued hexpires, Option.bind_some]
  by_cases hlatest : ⌊now⌋ + accountLifecycleTokenTtlMilliseconds delivery.purpose < expires
  · rw [if_pos (.inl (decide_eq_true hlatest)), if_pos (.inr hlatest)]
  · rw [if_neg (by simp only [decide_eq_true_eq]; omega), if_neg (by tauto), Option.map_some]

/-- **What is sealed is opened again**, with the time it was sealed at, by every ring that has the
key; all envelopes have one length; and `seal` refuses a delivery that is invalid, expired or
expires later than its purpose allows, and no other. -/
theorem accountMailCodec (host : MailHost) (aead : Aead) (keyring later : AccountMailKeyring)
    (hkeys : keyring.keys ⊆ later.keys) (value : JsonValue ν) (now : ℚ) (hnow : 0 ≤ now)
    (noise : SealNoise) :
    (∀ envelope, sealAccountMail host aead keyring value (some now) noise = some envelope →
      (∃ delivery queuedAt, parseAccountMailDelivery host value = some delivery ∧
        newDateText now = some queuedAt ∧
        openAccountMail host aead later (envelope.value : JsonValue ν) =
          .decoded delivery queuedAt) ∧
      envelope.iv.length = 16 ∧ envelope.ciphertext.length = 2752) ∧
    (sealAccountMail host aead keyring value (some now) noise = none ↔
      parseAccountMailDelivery host value = none ∨
      ∃ delivery expires, parseAccountMailDelivery host value = some delivery ∧
        host.dateParse.parse delivery.expiresAt = some expires ∧
        ((expires : ℚ) ≤ now ∨
          ⌊now⌋ + accountLifecycleTokenTtlMilliseconds delivery.purpose < expires)) := by
  cases hparse : parseAccountMailDelivery host value with
  | none =>
    have hseal : sealAccountMail host aead keyring value (some now) noise = none := by
      rw [sealAccountMail, hparse, Option.bind_none]
    rw [hseal]
    refine ⟨?_, iff_of_true rfl (.inl rfl)⟩
    intro _ h
    cases h
  | some delivery =>
    have haccepted := accepted_of_parse hparse
    obtain ⟨expires, hyear, -, hexpires⟩ := haccepted.expires
    obtain ⟨key, hmem, hseal⟩ := sealAccountMail_eq keyring hparse hyear hexpires hnow noise
    rw [hseal]
    constructor
    · intro envelope henvelope
      split_ifs at henvelope with hrefused
      obtain rfl := Option.some.inj henvelope
      rw [not_or, not_le, not_lt] at hrefused
      have hbefore : ⌊now⌋ < expires := Int.floor_lt.mpr hrefused.1
      have hfloor : 0 ≤ ⌊now⌋ := Int.floor_nonneg.mpr hnow
      have hqueued : IsFourDigitTime ⌊now⌋ := by
        unfold IsFourDigitTime at hyear ⊢
        omega
      have hlast : now ≤ 8640000000000000 :=
        hrefused.1.le.trans (by exact_mod_cast hyear.isTime.2)
      have hsize := length_mailPayload_le (ν := ν) haccepted
        ((length_toISOString ⌊now⌋).mpr hqueued)
      refine ⟨⟨delivery, toISOString ⌊now⌋, rfl, newDateText_of_nonneg hnow hlast, ?_⟩, ?_, ?_⟩
      · exact openAccountMail_mailEnvelope (hkeys hmem) hsize
          (readMailBlock_fillBlock haccepted hqueued hexpires hbefore hrefused.2 noise)
      · exact (base64UrlEncode_length _).trans (by rw [noise.length_iv])
      · exact (base64UrlEncode_length _).trans
          (by rw [length_encrypt_fillBlock aead key noise hsize])
    · constructor
      · intro h
        refine .inr ⟨delivery, expires, rfl, hexpires, ?_⟩
        by_contra hcurrent
        rw [if_neg hcurrent] at h
        cases h
      · rintro (h | ⟨_, _, hdelivery, hread, hrefused⟩)
        · cases h
        · obtain rfl := Option.some.inj hdelivery
          obtain rfl := Option.some.inj (hexpires.symm.trans hread)
          exact if_pos hrefused

end Codec

/-- A delivery for the first ten minutes of time. -/
def earlyDelivery : AccountLifecycleDelivery where
  disposition := .suppress
  purpose := .accountDelete
  recipientEmail := js "a@b"
  token := List.replicate 43 65
  userId := js "u"
  expiresAt := toISOString 600000

def asciiHost : MailHost where
  toLowerCase := id
  dateParse := isoParse

def firstMailKey : AccountMailKey where
  id := js "k1"
  material := List.replicate 32 0
  id_text := by decide
  length_material := rfl

def secondMailKey : AccountMailKey where
  id := js "k2"
  material := List.replicate 32 1
  id_text := by decide
  length_material := rfl

def firstMailKeyring : AccountMailKeyring where
  keys := [firstMailKey, secondMailKey]
  activeKeyId := firstMailKey.id
  size := by decide
  distinct := by decide
  active_mem := List.mem_cons_self

def secondMailKeyring : AccountMailKeyring :=
  { firstMailKeyring with
    activeKeyId := secondMailKey.id, active_mem := List.mem_cons_of_mem _ List.mem_cons_self }

def zeroNoise : SealNoise where
  block := List.replicate 2048 0
  iv := List.replicate 12 0
  length_block := List.length_replicate
  length_iv := List.length_replicate

/-- Sealed half a millisecond into time, opened after the second key has become active. -/
theorem accountMailCodec_activated : ∃ envelope,
    sealAccountMail asciiHost tagAead firstMailKeyring (earlyDelivery.value : JsonValue Int)
      (some (1 / 2)) zeroNoise = some envelope ∧
    openAccountMail asciiHost tagAead secondMailKeyring (envelope.value : JsonValue Int) =
      .decoded earlyDelivery (toISOString 0) := by
  have haccepted : earlyDelivery.Accepted Int asciiHost :=
    ⟨by decide +kernel, by decide +kernel, by decide +kernel,
      ⟨by decide +kernel, 65, rfl, by decide⟩, by decide,
      canonicalTimestamp_iff.mpr ⟨600000, by decide, rfl⟩⟩
  have hparse := parseAccountMailDelivery_value haccepted
  have hexpires : isoParse.parse earlyDelivery.expiresAt = some 600000 :=
    isoParse.parse_toISOString (t := 600000) (by decide)
  have hfloor : ⌊(1 / 2 : ℚ)⌋ = 0 := by norm_num
  obtain ⟨hopen, hrefused⟩ := accountMailCodec asciiHost tagAead firstMailKeyring secondMailKeyring
    (List.Subset.refl _) (earlyDelivery.value : JsonValue Int) (1 / 2) (by norm_num) zeroNoise
  cases hseal : sealAccountMail asciiHost tagAead firstMailKeyring
      (earlyDelivery.value : JsonValue Int) (some (1 / 2)) zeroNoise with
  | none =>
    obtain h | ⟨delivery, expires, hdelivery, hread, h⟩ := hrefused.mp hseal
    · rw [hparse] at h
      cases h
    · obtain rfl := Option.some.inj (hparse.symm.trans hdelivery)
      obtain rfl := Option.some.inj (hexpires.symm.trans hread)
      rw [hfloor] at h
      norm_num [earlyDelivery, accountLifecycleTokenTtlMilliseconds] at h
  | some envelope =>
    obtain ⟨⟨delivery, queuedAt, hdelivery, hqueued, hdecoded⟩, -⟩ := hopen envelope hseal
    obtain rfl := Option.some.inj (hparse.symm.trans hdelivery)
    rw [newDateText_of_nonneg (by norm_num) (by norm_num), hfloor] at hqueued
    obtain rfl := Option.some.inj hqueued
    exact ⟨envelope, rfl, hdecoded⟩

end HonoWarden
