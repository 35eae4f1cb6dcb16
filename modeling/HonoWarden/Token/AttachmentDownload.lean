import HonoWarden.Token.Issue
import HonoWarden.Web.JsonInteger

/-!
# Tickets for attachment downloads

Model of `verifyAttachmentDownload` (`src/domain/attachment-download.ts`). The payload is decoded,
parsed and checked before the tag is; whatever throws on the way refuses the token.

Results:
* `mem_ticketSecrets`: the secrets tried for a key id are those of the signers with that id;
* `verifyTicket_eq_some_iff`: when a payload and a tag are accepted;
* **`attachmentDownload_codec`**: a ticket opens from its issue until it expires, and what opens is
  a ticket that was signed.
-/

namespace HonoWarden

open Web

variable {ν : Type} [JsonNumber ν]

/-! ## The code -/

/-- `decode`. -/
def decodeTicketText (value : JsString) : Option (List Byte) :=
  decodeUrl (fun value => atob (fromUrlAlphabet value)) value

/-- The `candidates` of `verifyAttachmentDownload`. -/
def ticketSecrets : AccessTokenVerifier → Option JsString → List Secret
  | .secret secret, none => [secret]
  | .secret _, some _ => []
  | .keyring keyring, none => keyring.legacySecrets
  | .keyring keyring, some kid =>
    (keyring.keys.filter fun key => key.id = kid).map AccessTokenSigningKey.secret

/-- The ticket has not been issued later, has not expired, and lives as long as tickets do. -/
def Ticket.Current (ticket : Ticket) (nowSeconds : Int) : Prop :=
  ¬ (nowSeconds < ticket.iat ∨ ticket.exp ≤ nowSeconds ∨
    ticket.exp - ticket.iat ≠ attachmentDownloadTtlSeconds)

instance (ticket : Ticket) (nowSeconds : Int) : Decidable (ticket.Current nowSeconds) :=
  inferInstanceAs (Decidable (¬ _))

variable (ν) in
/-- `verifyAttachmentDownload`, of a token of two parts. -/
def verifyTicket (mac : Mac) (verifier : AccessTokenVerifier) (payload signature : JsString)
    (nowSeconds : Int) : Option AttachmentDownloadScope :=
  (decodeTicketText payload).bind fun bytes =>
    (parseJson (ν := ν) (decodeText bytes)).bind fun value =>
      (isTicket value).bind fun ticket =>
        if ticket.Current nowSeconds ∧ (ticketSecrets verifier ticket.kid).any (fun secret =>
            decodeTicketText signature =
              some (mac.sign secret (attachmentDownloadDomain ++ payload))) = true then
          some ticket.toAttachmentDownloadScope
        else none

variable (ν) in
/-- `verifyAttachmentDownload`. -/
def verifyAttachmentDownload (mac : Mac) (verifier : AccessTokenVerifier) (token : JsString)
    (nowSeconds : Int) : Option AttachmentDownloadScope :=
  if 8192 < token.length then none
  else
    match token.splitOn 46 with
    | [payload, signature] =>
      if payload = [] ∨ signature = [] then none
      else verifyTicket ν mac verifier payload signature nowSeconds
    | _ => none

/-! ## Acceptance -/

theorem decodeTicketText_eq_some_iff {value : JsString} {bytes : List Byte} :
    decodeTicketText value = some bytes ↔ bytes ≠ [] ∧ value = base64UrlEncode bytes :=
  decodeUrl_eq_some_iff atob_base64UrlEncode

/-- The secrets tried for a key id are those of the signers with that id. -/
theorem mem_ticketSecrets {verifier : AccessTokenVerifier} {kid : Option JsString}
    {secret : Secret} :
    secret ∈ ticketSecrets verifier kid ↔
      ∃ signer ∈ verifier.signers, signer.keyId = kid ∧ signingSecret signer = secret := by
  cases verifier with
  | secret s =>
    cases kid with
    | none =>
      refine List.mem_singleton.trans ⟨?_, ?_⟩
      · rintro rfl
        exact ⟨_, mem_signers_secret.mpr rfl, rfl, rfl⟩
      · rintro ⟨signer, hmem, -, hsecret⟩
        rw [mem_signers_secret.mp hmem] at hsecret
        exact Subtype.ext hsecret.symm
    | some id =>
      refine iff_of_false List.not_mem_nil ?_
      rintro ⟨signer, hmem, hid, -⟩
      rw [mem_signers_secret.mp hmem] at hid
      cases hid
  | keyring keyring =>
    cases kid with
    | none =>
      constructor
      · exact fun hmem => ⟨_, secret_mem_signers.mpr hmem, rfl, rfl⟩
      · rintro ⟨_ | key, hmem, hid, hsecret⟩
        · rw [Subtype.ext hsecret] at hmem
          exact secret_mem_signers.mp hmem
        · cases hid
    | some id =>
      simp only [ticketSecrets, List.mem_map, List.mem_filter, decide_eq_true_eq]
      constructor
      · rintro ⟨key, ⟨hmem, hid⟩, hsecret⟩
        exact ⟨.key key, key_mem_signers.mpr hmem, congrArg some hid, congrArg Subtype.val hsecret⟩
      · rintro ⟨_ | key, hmem, hid, hsecret⟩
        · cases hid
        · exact ⟨key, ⟨key_mem_signers.mp hmem, Option.some.inj hid⟩, Subtype.ext hsecret⟩

/-- A payload and a tag are accepted where they are the encodings of a ticket and of its tag under
a secret of the ticket's key id. -/
theorem verifyTicket_eq_some_iff {mac : Mac} {verifier : AccessTokenVerifier}
    {payload signature : JsString} {nowSeconds : Int} {scope : AttachmentDownloadScope} :
    verifyTicket ν mac verifier payload signature nowSeconds = some scope ↔
      ∃ bytes value ticket, payload = base64UrlEncode bytes ∧ bytes ≠ [] ∧
        parseJson (ν := ν) (decodeText bytes) = some value ∧ isTicket value = some ticket ∧
        ticket.Current nowSeconds ∧ ticket.toAttachmentDownloadScope = scope ∧
        ∃ secret ∈ ticketSecrets verifier ticket.kid,
          signature = base64UrlEncode (mac.sign secret (attachmentDownloadDomain ++ payload)) := by
  have htag (secret : Secret) : decodeTicketText signature =
      some (mac.sign secret (attachmentDownloadDomain ++ payload)) ↔
        signature = base64UrlEncode (mac.sign secret (attachmentDownloadDomain ++ payload)) :=
    decodeTicketText_eq_some_iff.trans (and_iff_right (mac.sign_ne_nil _ _))
  unfold verifyTicket
  simp only [Option.bind_eq_some_iff, List.any_eq_true, decide_eq_true_eq, htag]
  constructor
  · rintro ⟨bytes, hbytes, value, hvalue, ticket, hticket, h⟩
    obtain ⟨hne, hpayload⟩ := decodeTicketText_eq_some_iff.mp hbytes
    split_ifs at h with haccept
    exact ⟨bytes, value, ticket, hpayload, hne, hvalue, hticket, haccept.1, Option.some.inj h,
      haccept.2⟩
  · rintro ⟨bytes, value, ticket, hpayload, hne, hvalue, hticket, hcurrent, hscope, hsecret⟩
    refine ⟨bytes, decodeTicketText_eq_some_iff.mpr ⟨hne, hpayload⟩, value, hvalue, ticket, hticket,
      ?_⟩
    rw [if_pos ⟨hcurrent, hsecret⟩, hscope]

/-! ## The codec -/

/-- A token of two segments is verified by its parts. -/
theorem verifyAttachmentDownload_segments {mac : Mac} {verifier : AccessTokenVerifier}
    {payload tag : List Byte} {nowSeconds : Int} (hpayload : payload ≠ []) (htag : tag ≠ [])
    (hlen : (base64UrlEncode payload ++ 46 :: base64UrlEncode tag).length ≤ 8192) :
    verifyAttachmentDownload ν mac verifier (base64UrlEncode payload ++ 46 :: base64UrlEncode tag)
        nowSeconds =
      verifyTicket ν mac verifier (base64UrlEncode payload) (base64UrlEncode tag) nowSeconds := by
  have hsplit : (base64UrlEncode payload ++ 46 :: base64UrlEncode tag).splitOn 46 =
      [base64UrlEncode payload, base64UrlEncode tag] := by
    rw [← intercalate_two]
    refine splitOn_dot (List.cons_ne_nil _ _) fun segment hsegment => ?_
    rcases List.mem_pair.mp hsegment with rfl | rfl
    · exact ⟨payload, rfl⟩
    · exact ⟨tag, rfl⟩
  have hne : ¬ (base64UrlEncode payload = [] ∨ base64UrlEncode tag = []) := by
    rw [base64UrlEncode_eq_nil_iff, base64UrlEncode_eq_nil_iff]
    exact not_or.mpr ⟨hpayload, htag⟩
  unfold verifyAttachmentDownload
  rw [if_neg (not_lt.mpr hlen), hsplit]
  exact if_neg hne

/-- An accepted token has two segments that are accepted. -/
theorem exists_segments_of_verifyAttachmentDownload {mac : Mac} {verifier : AccessTokenVerifier}
    {token : JsString} {nowSeconds : Int} {scope : AttachmentDownloadScope}
    (h : verifyAttachmentDownload ν mac verifier token nowSeconds = some scope) :
    ∃ payload signature, token = payload ++ 46 :: signature ∧
      verifyTicket ν mac verifier payload signature nowSeconds = some scope := by
  unfold verifyAttachmentDownload at h
  split_ifs at h with hlong
  split at h
  · rename_i payload signature hsplit
    split_ifs at h with hempty
    refine ⟨payload, signature, ?_, h⟩
    have hjoin : [46].intercalate (token.splitOn 46) = token := List.intercalate_splitOn 46
    rw [hsplit, intercalate_two] at hjoin
    exact hjoin.symm
  · cases h

theorem issueTicket_current {signer : AccessTokenSigner} {scope : AttachmentDownloadScope}
    {issued nowSeconds : Int} : (issueTicket signer scope issued).Current nowSeconds ↔
      issued ≤ nowSeconds ∧ nowSeconds < issued + 120 := by
  unfold Ticket.Current issueTicket attachmentDownloadTtlSeconds
  dsimp only
  omega

/-- The payload of a ticket is the base64url of the bytes it is parsed from. -/
theorem parse_ticketPayload {ticket : Ticket} (hiat : IsSafeInteger ticket.iat)
    (hexp : IsSafeInteger ticket.exp) :
    parseJson (decodeText (jsonBytes (ticket.json ν))) = some (ticket.json ν) :=
  parseJson_decodeText (ticket_faithful hiat hexp)

/-- No tag of the token is forged, as one of a ticket under a secret of the verifier. -/
def UnforgedTicket (ν : Type) [JsonNumber ν] (mac : Mac) (verifier : AccessTokenVerifier)
    (token : JsString) : Prop :=
  ∀ payload tag, token = payload ++ 46 :: base64UrlEncode tag →
    Unforged mac (Signs ν) (verifier.signers.map signingSecret) (attachmentDownloadDomain ++ payload)
      tag

/-- **A ticket opens from its issue until it expires, and what opens is a ticket that was signed.**
A token that a signer of the verifier issued, its active key or a previous one, gives its scope back
for 120 seconds and nothing before and after; where no tag is forged, every accepted token is what
`signAttachmentDownload` returned for one of the verifier's signers, character by character. -/
theorem attachmentDownload_codec (mac : Mac) (verifier : AccessTokenVerifier) :
    (∀ (signer : AccessTokenSigner) (scope : AttachmentDownloadScope) (issued nowSeconds : Int),
      signer ∈ verifier.signers → scope.Valid → IsIssueTime issued →
      (signAttachmentDownload ν mac signer scope issued).length ≤ 8192 →
      verifyAttachmentDownload ν mac verifier (signAttachmentDownload ν mac signer scope issued)
          nowSeconds =
        if issued ≤ nowSeconds ∧ nowSeconds < issued + 120 then some scope else none) ∧
    ∀ (token : JsString) (nowSeconds : Int) (scope : AttachmentDownloadScope),
      UnforgedTicket ν mac verifier token →
      verifyAttachmentDownload ν mac verifier token nowSeconds = some scope →
      ∃ signer ∈ verifier.signers, ∃ issued, IsIssueTime issued ∧ scope.Valid ∧
        token = signAttachmentDownload ν mac signer scope issued ∧
        issued ≤ nowSeconds ∧ nowSeconds < issued + 120 := by
  constructor
  · intro signer scope issued nowSeconds hsigner hvalid htime hlen
    have hmem : ∃ secret ∈ ticketSecrets verifier signer.keyId,
        signingSecret signer = secret.val := by
      cases signer with
      | secret s => exact ⟨s, mem_ticketSecrets.mpr ⟨_, hsigner, rfl, rfl⟩, rfl⟩
      | key k => exact ⟨k.secret, mem_ticketSecrets.mpr ⟨_, hsigner, rfl, rfl⟩, rfl⟩
    obtain ⟨secret, hsecret, hsign⟩ := hmem
    have hverify : verifyAttachmentDownload ν mac verifier
        (signAttachmentDownload ν mac signer scope issued) nowSeconds =
          verifyTicket ν mac verifier (ticketPayload ν (issueTicket signer scope issued)) _
            nowSeconds :=
      verifyAttachmentDownload_segments (jsonBytes_ne_nil _) (mac.sign_ne_nil _ _) hlen
    rw [hverify]
    split_ifs with hwindow
    · exact verifyTicket_eq_some_iff.mpr ⟨_, _, issueTicket signer scope issued, rfl,
        jsonBytes_ne_nil _, parse_ticketPayload htime.1 htime.2,
        (isTicket_json_eq_some_iff htime.1 htime.2).mpr ⟨rfl, hvalid⟩,
        issueTicket_current.mpr hwindow, rfl, secret, hsecret, by rw [hsign]⟩
    · refine Option.eq_none_iff_forall_ne_some.mpr fun found hfound => hwindow ?_
      obtain ⟨bytes, value, ticket, hpayload, -, hvalue, hticket, hcurrent, -⟩ :=
        verifyTicket_eq_some_iff.mp hfound
      obtain rfl := base64UrlEncode_injective hpayload
      rw [parse_ticketPayload htime.1 htime.2] at hvalue
      obtain rfl := Option.some.inj hvalue
      obtain ⟨rfl, -⟩ := (isTicket_json_eq_some_iff htime.1 htime.2).mp hticket
      exact issueTicket_current.mp hcurrent
  · intro token nowSeconds scope hunforged haccept
    obtain ⟨payload, signature, rfl, hverify⟩ :=
      exists_segments_of_verifyAttachmentDownload haccept
    obtain ⟨bytes, value, ticket, hpayload, -, hvalue, hticket, hcurrent, hscope, secret, hsecret,
      hsignature⟩ := verifyTicket_eq_some_iff.mp hverify
    obtain ⟨admitted, hadmitted, hid, hadmittedSecret⟩ := mem_ticketSecrets.mp hsecret
    have hsigns : Signs ν secret (attachmentDownloadDomain ++ payload) :=
      hunforged payload _ (by rw [hsignature]) secret
        (List.mem_map.mpr ⟨admitted, hadmitted, hadmittedSecret⟩) rfl
    obtain ⟨signer, issuedScope, issued, htime, hsigner, hissued⟩ := signs_download hsigns
    -- the payload is the one that was signed, so the ticket found is the one that was issued
    have hbytes : bytes = jsonBytes ((issueTicket signer issuedScope issued).json ν) :=
      base64UrlEncode_injective (hpayload.symm.trans hissued)
    rw [hbytes, parse_ticketPayload htime.1 htime.2] at hvalue
    obtain rfl := Option.some.inj hvalue
    obtain ⟨rfl, hvalid⟩ := (isTicket_json_eq_some_iff htime.1 htime.2).mp hticket
    obtain rfl : admitted = signer := eq_of_signingSecret hid (hadmittedSecret.trans hsigner.symm)
    obtain rfl : issuedScope = scope := hscope
    refine ⟨admitted, hadmitted, issued, htime, hvalid, ?_, issueTicket_current.mp hcurrent⟩
    unfold signAttachmentDownload
    rw [hsignature, hissued, hsigner]


def ticketScope : AttachmentDownloadScope :=
  { userId := js "u", deviceIdentifier := js "d", sessionId := js "s", securityStamp := js "p",
    cipherId := js "c", attachmentId := js "a", revisionDate := js "r", origin := js "o" }

theorem attachmentDownload_codec_rotated :
    verifyAttachmentDownload Int prefixMac (.keyring rotatedKeyring)
        (signAttachmentDownload Int prefixMac (.key oldKey) ticketScope 100) 219 =
      some ticketScope ∧
    ∃ signer ∈ (AccessTokenVerifier.keyring rotatedKeyring).signers, ∃ issued,
      IsIssueTime issued ∧ ticketScope.Valid ∧
      signAttachmentDownload Int prefixMac (.key oldKey) ticketScope 100 =
        signAttachmentDownload Int prefixMac signer ticketScope issued ∧
      issued ≤ 219 ∧ 219 < issued + 120 := by
  have hlen : (signAttachmentDownload Int prefixMac (.key oldKey) ticketScope 100).length ≤ 8192 := by
    decide +kernel
  have hopen := (attachmentDownload_codec (ν := Int) prefixMac (.keyring rotatedKeyring)).1
    (.key oldKey) ticketScope 100 219 oldKey_mem_signers (by decide) (by decide) hlen
  rw [if_pos (by decide)] at hopen
  refine ⟨hopen, (attachmentDownload_codec (ν := Int) prefixMac (.keyring rotatedKeyring)).2 _ 219
    ticketScope (fun payload tag htoken secret hsecret htag => ?_) hopen⟩
  obtain ⟨rfl, htag'⟩ := append_dot_inj (dot_not_mem_base64UrlEncode _)
    (dot_not_mem_base64UrlEncode _) htoken
  obtain rfl := base64UrlEncode_injective htag'
  rcases List.mem_pair.mp hsecret with rfl | rfl
  · -- the key that became active begins its tags with another byte
    exact absurd (congrArg List.head? htag) (by decide)
  · exact Signs.attachmentDownload (.key oldKey) ticketScope 100 (by decide)


end HonoWarden
