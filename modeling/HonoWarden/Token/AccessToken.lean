import HonoWarden.Token.Issue
import HonoWarden.Web.JsonInteger

/-!
# Access tokens

Model of `verifyAccessToken` (`src/domain/tokens.ts`). The header chooses the secrets: a key id
names one key of the keyring, no key id admits every key and the legacy secrets, and a verifier that
is a string admits itself whatever the key id is.

Results:
* `constantTimeEqual_iff`: signatures are compared as strings;
* `findVerificationKey_mem`: the key found is one the verifier admits for the key id;
* **`accessToken_codec`**: a token is accepted until it expires, and what is accepted was signed with
  a secret admitted for its key id.
-/

namespace HonoWarden

open Web

/-! ## The code -/

/-- `charCodeAt`. -/
def charCodeAt (value : JsString) (index : Nat) : Nat :=
  if h : index < value.length then (value.get ⟨index, h⟩).val else 0

/-- `constantTimeEqual`. -/
def constantTimeEqual (left right : JsString) : Bool :=
  (List.range (max left.length right.length)).foldl
    (fun difference index => difference ||| (charCodeAt left index ^^^ charCodeAt right index))
    (left.length ^^^ right.length) = 0

section Verification

variable {ν : Type} [JsonNumber ν]

variable (ν) in
/-- `decodeJson`. -/
def decodeJson (value : JsString) : Option (JsonValue ν) :=
  (atob (padBase64 (fromUrlAlphabet value))).bind fun bytes => parseJson (decodeText bytes)

/-- `header.kid`, where it is absent or a string that is not empty. -/
def headerKid (header : JsonValue ν) : Option (Option JsString) :=
  match header.get? (js "kid") with
  | none => some none
  | some (.string kid) => if kid = [] then none else some (some kid)
  | some _ => none

/-- `isAccessTokenHeader`, and the key id it finds. -/
def isAccessTokenHeader (header : JsonValue ν) : Option (Option JsString) :=
  if header.string? (js "alg") = some (js "HS256") ∧ header.string? (js "typ") = some (js "JWT") then
    headerKid header
  else none

/-- `signatureMatches`. -/
def signatureMatches (mac : Mac) (signer : AccessTokenSigner) (input encodedSignature : JsString) :
    Bool :=
  constantTimeEqual (base64UrlEncode (mac.sign (signingSecret signer) input)) encodedSignature

/-- `findVerificationKey`. -/
def findVerificationKey (mac : Mac) (verifier : AccessTokenVerifier) (kid : Option JsString)
    (input encodedSignature : JsString) : Option AccessTokenSigner :=
  match verifier, kid with
  | .secret secret, _ =>
    if signatureMatches mac (.secret secret) input encodedSignature = true then
      some (.secret secret)
    else none
  | .keyring keyring, some kid =>
    (keyring.keys.find? fun candidate => candidate.id = kid).bind fun candidate =>
      if signatureMatches mac (.key candidate) input encodedSignature = true then
        some (.key candidate)
      else none
  | .keyring keyring, none =>
    (AccessTokenVerifier.keyring keyring).signers.find? fun candidate =>
      signatureMatches mac candidate input encodedSignature

/-- `AccessTokenVerification`. -/
inductive AccessTokenVerification (ν : Type) where
  | ok (claims : JsonValue ν) (keyId : Option JsString)
  | expired
  | invalid

/-- `claims.exp <= nowSeconds`. -/
def isExpired [LE ν] [DecidableLE ν] (claims : JsonValue ν) (nowSeconds : ν) : Bool :=
  (claims.number? (js "exp")).any fun exp => exp ≤ nowSeconds

/-- `verifyAccessToken`, from where the key is found. -/
def verifyClaims [LE ν] [DecidableLE ν] (verificationKey : AccessTokenSigner)
    (encodedPayload : JsString) (nowSeconds : ν) : AccessTokenVerification ν :=
  match decodeJson ν encodedPayload with
  | none => .invalid
  | some claims =>
    if isAccessTokenClaims claims = true then
      if isExpired claims nowSeconds = true then .expired else .ok claims verificationKey.keyId
    else .invalid

/-- `verifyAccessToken`, of a token of three parts. -/
def verifySegments [LE ν] [DecidableLE ν] (mac : Mac) (verifier : AccessTokenVerifier)
    (encodedHeader encodedPayload encodedSignature : JsString) (nowSeconds : ν) :
    AccessTokenVerification ν :=
  match (decodeJson ν encodedHeader).bind isAccessTokenHeader with
  | none => .invalid
  | some kid =>
    match findVerificationKey mac verifier kid (encodedHeader ++ 46 :: encodedPayload)
      encodedSignature with
    | none => .invalid
    | some verificationKey => verifyClaims verificationKey encodedPayload nowSeconds

/-- `verifyAccessToken`. -/
def verifyAccessToken [LE ν] [DecidableLE ν] (mac : Mac) (verifier : AccessTokenVerifier)
    (token : JsString) (nowSeconds : ν) : AccessTokenVerification ν :=
  match token.splitOn 46 with
  | [encodedHeader, encodedPayload, encodedSignature] =>
    if encodedHeader = [] ∨ encodedPayload = [] ∨ encodedSignature = [] then .invalid
    else verifySegments mac verifier encodedHeader encodedPayload encodedSignature nowSeconds
  | _ => .invalid

end Verification

/-! ## Comparison -/

/-- Signatures are compared as strings. -/
theorem constantTimeEqual_iff {left right : JsString} :
    constantTimeEqual left right = true ↔ left = right := by
  unfold constantTimeEqual
  rw [decide_eq_true_eq, foldl_or_eq_zero_iff]
  simp only [xor_eq_zero_iff, List.mem_range]
  constructor
  · rintro ⟨hlength, hunits⟩
    refine List.ext_getElem hlength fun index hleft hright => ?_
    have hunit := hunits index (Nat.lt_of_lt_of_le hleft (Nat.le_max_left _ _))
    unfold charCodeAt at hunit
    rw [dif_pos hleft, dif_pos hright] at hunit
    exact Fin.ext hunit
  · rintro rfl
    exact ⟨rfl, fun _ _ => rfl⟩

theorem signatureMatches_iff {mac : Mac} {signer : AccessTokenSigner}
    {input encodedSignature : JsString} :
    signatureMatches mac signer input encodedSignature = true ↔
      encodedSignature = base64UrlEncode (mac.sign (signingSecret signer) input) :=
  constantTimeEqual_iff.trans eq_comm

/-! ## The key -/

/-- The secrets a verifier admits for a key id. -/
def admittedSecrets : AccessTokenVerifier → Option JsString → List Secret
  | .secret secret, _ => [secret]
  | .keyring keyring, some kid =>
    (keyring.keys.filter fun key => key.id = kid).map AccessTokenSigningKey.secret
  | .keyring keyring, none =>
    keyring.keys.map AccessTokenSigningKey.secret ++ keyring.legacySecrets

/-- The key that is found is one the verifier admits for the key id, and it made the signature. -/
theorem findVerificationKey_mem {mac : Mac} {verifier : AccessTokenVerifier}
    {kid : Option JsString} {input encodedSignature : JsString} {found : AccessTokenSigner}
    (h : findVerificationKey mac verifier kid input encodedSignature = some found) :
    encodedSignature = base64UrlEncode (mac.sign (signingSecret found) input) ∧
      ∃ secret ∈ admittedSecrets verifier kid, signingSecret found = secret.val := by
  cases verifier with
  | secret secret =>
    have hif : (if signatureMatches mac (.secret secret) input encodedSignature = true then
        some (AccessTokenSigner.secret secret) else none) = some found := h
    split_ifs at hif with hmatch
    obtain rfl := Option.some.inj hif
    exact ⟨signatureMatches_iff.mp hmatch, secret, List.mem_singleton_self _, rfl⟩
  | keyring keyring =>
    cases kid with
    | none =>
      have hfind : (AccessTokenVerifier.keyring keyring).signers.find? (fun candidate =>
          signatureMatches mac candidate input encodedSignature) = some found := h
      have hmatch : signatureMatches mac found input encodedSignature = true := by
        simpa using List.find?_some hfind
      refine ⟨signatureMatches_iff.mp hmatch, ?_⟩
      have hmem := List.mem_of_find?_eq_some hfind
      cases found with
      | secret secret =>
        exact ⟨secret, List.mem_append_right _ (secret_mem_signers.mp hmem), rfl⟩
      | key key =>
        exact ⟨key.secret, List.mem_append_left _
          (List.mem_map_of_mem (key_mem_signers.mp hmem)), rfl⟩
    | some kid =>
      obtain ⟨candidate, hcandidate, h⟩ := Option.bind_eq_some_iff.mp h
      split_ifs at h with hmatch
      obtain rfl := Option.some.inj h
      have hid : decide (candidate.id = kid) = true := by simpa using List.find?_some hcandidate
      exact ⟨signatureMatches_iff.mp hmatch, candidate.secret, List.mem_map_of_mem
        (List.mem_filter.mpr ⟨List.mem_of_find?_eq_some hcandidate, hid⟩), rfl⟩

theorem mem_signers_of_admitted {verifier : AccessTokenVerifier} {kid : Option JsString}
    {secret : Secret} (h : secret ∈ admittedSecrets verifier kid) :
    secret.val ∈ verifier.signers.map signingSecret := by
  rw [List.mem_map]
  cases verifier with
  | secret s =>
    obtain rfl := List.mem_singleton.mp h
    exact ⟨.secret secret, mem_signers_secret.mpr rfl, rfl⟩
  | keyring keyring =>
    cases kid with
    | none =>
      rcases List.mem_append.mp h with hkey | hlegacy
      · obtain ⟨key, hmem, rfl⟩ := List.mem_map.mp hkey
        exact ⟨.key key, key_mem_signers.mpr hmem, rfl⟩
      · exact ⟨.secret secret, secret_mem_signers.mpr hlegacy, rfl⟩
    | some kid =>
      obtain ⟨key, hmem, rfl⟩ := List.mem_map.mp h
      exact ⟨.key key, key_mem_signers.mpr (List.mem_of_mem_filter hmem), rfl⟩

/-- A key is found for every signature a signer of the verifier makes; for one that has a key id,
it is the signer. -/
theorem exists_findVerificationKey {mac : Mac} {verifier : AccessTokenVerifier}
    {signer : AccessTokenSigner} (hsigner : signer ∈ verifier.signers) (input : JsString) :
    ∃ found, findVerificationKey mac verifier signer.keyId input
        (base64UrlEncode (mac.sign (signingSecret signer) input)) = some found ∧
      ∀ key, signer = .key key → found = signer := by
  have hmatch : signatureMatches mac signer input
      (base64UrlEncode (mac.sign (signingSecret signer) input)) = true :=
    signatureMatches_iff.mpr rfl
  cases verifier with
  | secret secret =>
    obtain rfl := mem_signers_secret.mp hsigner
    exact ⟨.secret secret, if_pos hmatch, fun _ _ => rfl⟩
  | keyring keyring =>
    cases signer with
    | secret secret =>
      have hsome : ((AccessTokenVerifier.keyring keyring).signers.find? fun candidate =>
          signatureMatches mac candidate input
            (base64UrlEncode (mac.sign secret.val input))).isSome = true :=
        List.find?_isSome.mpr ⟨_, hsigner, hmatch⟩
      obtain ⟨found, hfound⟩ := Option.isSome_iff_exists.mp hsome
      exact ⟨found, hfound, fun key hkey => by cases hkey⟩
    | key key =>
      have hmem := key_mem_signers.mp hsigner
      have hsome : (keyring.keys.find? fun candidate => candidate.id = key.id).isSome = true :=
        List.find?_isSome.mpr ⟨key, hmem, decide_eq_true rfl⟩
      obtain ⟨found, hfound⟩ := Option.isSome_iff_exists.mp hsome
      have hid : found.id = key.id := by simpa using List.find?_some hfound
      obtain rfl : found = key :=
        AccessTokenKeyring.eq_of_id (List.mem_of_find?_eq_some hfound) hmem hid
      refine ⟨.key found, ?_, fun _ _ => rfl⟩
      exact (congrArg (Option.bind · _) hfound).trans (if_pos hmatch)

/-! ## The codec -/

section Codec

variable {ν : Type} [JsonNumber ν]

theorem decodeJson_encodeJson {members : List (JsString × JsonValue ν)}
    (h : (JsonValue.object members).Faithful) :
    decodeJson ν (encodeJson (.object members)) = some (.object members) := by
  unfold decodeJson encodeJson
  rw [atob_padBase64_base64UrlEncode, Option.bind_some, parseJson_decodeText h]

omit [JsonNumber ν] in
theorem isAccessTokenHeader_header (signer : AccessTokenSigner) :
    isAccessTokenHeader (accessTokenHeader ν signer.keyId) = some signer.keyId := by
  cases signer with
  | secret secret => rfl
  | key key =>
    have hget : (accessTokenHeader ν (some key.id)).get? (js "kid") = some (.string key.id) := rfl
    refine (if_pos ⟨rfl, rfl⟩).trans ?_
    unfold headerKid
    rw [AccessTokenSigner.keyId, hget]
    exact if_neg key.id_ne_nil


/-- A token is verified by the segments it was joined of. -/
theorem verifyAccessToken_segments [LE ν] [DecidableLE ν] {mac : Mac}
    {verifier : AccessTokenVerifier} {header payload : List (JsString × JsonValue ν)}
    {tag : List Byte} (htag : tag ≠ []) {nowSeconds : ν} :
    verifyAccessToken mac verifier
        ((encodeJson (.object header) ++ 46 :: encodeJson (.object payload)) ++
          46 :: base64UrlEncode tag) nowSeconds =
      verifySegments mac verifier (encodeJson (.object header)) (encodeJson (.object payload))
        (base64UrlEncode tag) nowSeconds := by
  have hne (members : List (JsString × JsonValue ν)) : encodeJson (.object members) ≠ [] := by
    intro h
    have hhead := head_encodeJson members
    rw [h] at hhead
    cases hhead
  have hsplit : ((encodeJson (.object header) ++ 46 :: encodeJson (.object payload)) ++
      46 :: base64UrlEncode tag).splitOn 46 =
        [encodeJson (.object header), encodeJson (.object payload), base64UrlEncode tag] := by
    rw [← intercalate_three]
    refine splitOn_dot (List.cons_ne_nil _ _) fun segment hsegment => ?_
    simp only [List.mem_cons, List.not_mem_nil, or_false] at hsegment
    rcases hsegment with rfl | rfl | rfl
    · exact ⟨_, rfl⟩
    · exact ⟨_, rfl⟩
    · exact ⟨_, rfl⟩
  unfold verifyAccessToken
  rw [hsplit]
  refine if_neg (not_or.mpr ⟨hne header, not_or.mpr ⟨hne payload, ?_⟩⟩)
  exact mt base64UrlEncode_eq_nil_iff.mp htag

/-- An accepted token has three segments, a header, a key that made the signature, and claims. -/
theorem verifyAccessToken_ok [LE ν] [DecidableLE ν] {mac : Mac} {verifier : AccessTokenVerifier}
    {token : JsString} {nowSeconds : ν} {claims : JsonValue ν} {keyId : Option JsString}
    (h : verifyAccessToken mac verifier token nowSeconds = .ok claims keyId) :
    ∃ encodedHeader encodedPayload encodedSignature kid found,
      token.splitOn 46 = [encodedHeader, encodedPayload, encodedSignature] ∧
      (decodeJson ν encodedHeader).bind isAccessTokenHeader = some kid ∧
      findVerificationKey mac verifier kid (encodedHeader ++ 46 :: encodedPayload)
        encodedSignature = some found ∧
      decodeJson ν encodedPayload = some claims ∧ isExpired claims nowSeconds = false := by
  unfold verifyAccessToken at h
  split at h
  · rename_i encodedHeader encodedPayload encodedSignature hsplit
    split_ifs at h with hempty
    unfold verifySegments at h
    split at h
    · cases h
    · rename_i kid hkid
      split at h
      · cases h
      · rename_i found hfound
        unfold verifyClaims at h
        split at h
        · cases h
        · rename_i claims' hclaims
          split_ifs at h with hvalid hexpired
          obtain ⟨rfl, -⟩ := AccessTokenVerification.ok.inj h
          exact ⟨encodedHeader, encodedPayload, encodedSignature, kid, found, hsplit, hkid, hfound,
            hclaims, Bool.eq_false_iff.mpr hexpired⟩
  · cases h

/-- No signature of the token is forged, as one under a secret of the verifier. -/
def UnforgedAccessToken (ν : Type) [JsonNumber ν] (mac : Mac) (verifier : AccessTokenVerifier)
    (token : JsString) : Prop :=
  ∀ input tag, token = input ++ 46 :: base64UrlEncode tag →
    Unforged mac (Signs ν) (verifier.signers.map signingSecret) input tag

/-- The time of expiry of valid claims. -/
theorem AccessTokenClaims.exists_exp (claims : AccessTokenClaims ν) :
    (claims.json.number? (js "exp")).isSome = true := by
  have hvalid := claims.valid
  unfold isAccessTokenClaims at hvalid
  simp only [Bool.and_eq_true] at hvalid
  have hexp := hvalid.1.2
  unfold AccessTokenClaims.json JsonValue.number?
  unfold isRequired at hexp
  split at hexp
  · cases hexp
  · rename_i value hvalue
    rw [hvalue]
    cases value with
    | number number => rfl
    | _ => cases hexp

def AccessTokenClaims.exp (claims : AccessTokenClaims ν) : ν :=
  (claims.json.number? (js "exp")).get claims.exists_exp

theorem isExpired_json [LE ν] [DecidableLE ν] (claims : AccessTokenClaims ν) (nowSeconds : ν) :
    isExpired claims.json nowSeconds = decide (claims.exp ≤ nowSeconds) := by
  unfold isExpired
  rw [← Option.some_get claims.exists_exp, Option.any_some]
  rfl

/-- **A token is accepted until it expires, and what is accepted was signed with a secret admitted
for its key id.** A token that a signer of the verifier issued, its active key or a previous one,
gives exactly its claims back as long as `exp` is later than now, and is expired from `exp` on;
where no signature is forged, every accepted token is what `signAccessToken` returned for the claims
it gives, under a key id and a secret that the verifier admits for this key id. -/
theorem accessToken_codec [LE ν] [DecidableLE ν] (mac : Mac) (verifier : AccessTokenVerifier) :
    (∀ (signer : AccessTokenSigner) (claims : AccessTokenClaims ν), signer ∈ verifier.signers →
      ∃ keyId, (∀ key, signer = .key key → keyId = some key.id) ∧
        ∀ nowSeconds : ν, verifyAccessToken mac verifier (signAccessToken mac signer claims)
            nowSeconds =
          if claims.exp ≤ nowSeconds then .expired else .ok claims.json keyId) ∧
    ∀ (token : JsString) (nowSeconds : ν) (claims : JsonValue ν) (keyId : Option JsString),
      UnforgedAccessToken ν mac verifier token →
      verifyAccessToken mac verifier token nowSeconds = .ok claims keyId →
      ∃ (signer : AccessTokenSigner) (issued : AccessTokenClaims ν),
        (∃ secret ∈ admittedSecrets verifier signer.keyId, signingSecret signer = secret) ∧
        token = signAccessToken mac signer issued ∧ claims = issued.json ∧
        ¬ issued.exp ≤ nowSeconds := by
  constructor
  · intro signer claims hsigner
    obtain ⟨found, hfound, hkey⟩ :=
      @exists_findVerificationKey mac verifier signer hsigner (signingInput signer claims)
    refine ⟨found.keyId, ?_, fun nowSeconds => ?_⟩
    · rintro key rfl
      rw [hkey key rfl]
      rfl
    · have hheader : (decodeJson ν (encodeJson (accessTokenHeader ν signer.keyId))).bind
          isAccessTokenHeader = some signer.keyId := by
        rw [accessTokenHeader, decodeJson_encodeJson (accessTokenHeader_faithful _),
          Option.bind_some]
        exact isAccessTokenHeader_header signer
      have hclaims : decodeJson ν (encodeJson claims.json) = some claims.json :=
        decodeJson_encodeJson claims.faithful
      have hverify : verifyAccessToken mac verifier (signAccessToken mac signer claims) nowSeconds =
          verifySegments mac verifier (encodeJson (accessTokenHeader ν signer.keyId))
            (encodeJson claims.json)
            (base64UrlEncode (mac.sign (signingSecret signer) (signingInput signer claims)))
            nowSeconds := verifyAccessToken_segments (mac.sign_ne_nil _ _)
      rw [hverify]
      unfold verifySegments
      rw [hheader]
      dsimp only
      unfold signingInput at hfound
      unfold signingInput
      rw [hfound]
      dsimp only
      unfold verifyClaims
      rw [hclaims]
      dsimp only
      have hvalid : isAccessTokenClaims claims.json = true := claims.valid
      rw [if_pos hvalid, isExpired_json]
      simp only [decide_eq_true_eq]
  · intro token nowSeconds claims keyId hunforged haccept
    obtain ⟨encodedHeader, encodedPayload, encodedSignature, kid, found, hsplit, hheader, hfound,
      hclaims, hexpired⟩ := verifyAccessToken_ok haccept
    have htoken : token = (encodedHeader ++ 46 :: encodedPayload) ++ 46 :: encodedSignature := by
      rw [← intercalate_three, ← hsplit, List.intercalate_splitOn]
    obtain ⟨hsignature, secret, hsecret, hfoundSecret⟩ := findVerificationKey_mem hfound
    have hsigns : Signs ν (signingSecret found) (encodedHeader ++ 46 :: encodedPayload) :=
      hunforged _ _ (by rw [htoken, hsignature]) _
        (hfoundSecret ▸ mem_signers_of_admitted hsecret) rfl
    obtain ⟨signer, issued, hsigner, hinput⟩ :=
      signs_dot hsigns (List.mem_append_right _ List.mem_cons_self)
    -- the segments of what was signed are the segments of the token
    have hsegments : [encodedHeader, encodedPayload, encodedSignature] =
        [encodeJson (accessTokenHeader ν signer.keyId), encodeJson issued.json,
          encodedSignature] := by
      rw [← hsplit, htoken, hinput, signingInput, ← intercalate_three, hsignature]
      refine splitOn_dot (List.cons_ne_nil _ _) fun segment hsegment => ?_
      simp only [List.mem_cons, List.not_mem_nil, or_false] at hsegment
      rcases hsegment with rfl | rfl | rfl
      · exact ⟨_, rfl⟩
      · exact ⟨_, rfl⟩
      · exact ⟨_, rfl⟩
    obtain ⟨rfl, hrest⟩ := List.cons.inj hsegments
    obtain ⟨rfl, -⟩ := List.cons.inj hrest
    rw [accessTokenHeader, decodeJson_encodeJson (accessTokenHeader_faithful _), Option.bind_some]
      at hheader
    have hkid := (isAccessTokenHeader_header signer).symm.trans hheader
    obtain rfl := Option.some.inj hkid
    have hissued : decodeJson ν (encodeJson issued.json) = some issued.json :=
      decodeJson_encodeJson issued.faithful
    obtain rfl := Option.some.inj (hissued.symm.trans hclaims)
    rw [isExpired_json, decide_eq_false_iff_not] at hexpired
    refine ⟨signer, issued, ⟨secret, hsecret, hsigner.trans hfoundSecret⟩, ?_, rfl, hexpired⟩
    rw [htoken, hsignature, signAccessToken, hsigner, ← hinput]

end Codec

/-- The claims of a token that expires at 100. -/
def shortClaims : AccessTokenClaims Int where
  members :=
    [(js "sub", .string (js "u")), (js "email", .string (js "e")), (js "device", .string (js "d")),
      (js "securityStamp", .string (js "p")), (js "iat", .number 40), (js "exp", .number 100)]
  faithful := ⟨by decide, trivial, trivial, trivial, trivial, trivial, trivial, trivial⟩
  valid := by decide

theorem accessToken_codec_rotated :
    (∃ keyId, keyId = some (js "o") ∧
      verifyAccessToken prefixMac (.keyring rotatedKeyring)
        (signAccessToken prefixMac (.key oldKey) shortClaims) 99 = .ok shortClaims.json keyId) ∧
    ∃ (signer : AccessTokenSigner) (issued : AccessTokenClaims Int),
      (∃ secret ∈ admittedSecrets (.keyring rotatedKeyring) signer.keyId,
        signingSecret signer = secret) ∧
      signAccessToken prefixMac (.key oldKey) shortClaims =
        signAccessToken prefixMac signer issued ∧
      shortClaims.json = issued.json ∧ ¬ issued.exp ≤ 99 := by
  obtain ⟨keyId, hkey, hverify⟩ := (accessToken_codec (ν := Int) prefixMac
    (.keyring rotatedKeyring)).1 (.key oldKey) shortClaims oldKey_mem_signers
  have hopen := hverify 99
  rw [if_neg (by decide)] at hopen
  refine ⟨⟨keyId, hkey oldKey rfl, hopen⟩, (accessToken_codec (ν := Int) prefixMac
    (.keyring rotatedKeyring)).2 _ 99 shortClaims.json keyId
    (fun input tag htoken secret hsecret htag => ?_) hopen⟩
  obtain ⟨rfl, htag'⟩ := append_dot_inj (dot_not_mem_base64UrlEncode _)
    (dot_not_mem_base64UrlEncode _) htoken
  obtain rfl := base64UrlEncode_injective htag'
  rcases List.mem_pair.mp hsecret with rfl | rfl
  · -- the key that became active begins its tags with another byte
    exact absurd (congrArg List.head? htag) (by decide)
  · exact Signs.accessToken (.key oldKey) shortClaims

end HonoWarden
