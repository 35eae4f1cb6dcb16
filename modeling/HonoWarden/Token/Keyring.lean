import Mathlib.Data.List.Nodup
import HonoWarden.Web.Json

/-!
# Keys of the access tokens

Model of `AccessTokenKeyring` and its kin (`src/domain/tokens.ts`) and of
`resolveAccessTokenRuntimeConfig` (`src/app.ts`), where every signer and verifier comes from. The
configuration refuses empty secrets, empty key ids and a key id that is there twice, so the types
here cannot hold one.

Results:
* **`resolveAccessTokenRuntimeConfig_signer`**: what a configuration signs with, it verifies with;
* `AccessTokenKeyring.mem_signers_rotate`: and goes on to after another key has become active.
-/

namespace HonoWarden

open Web

/-- A secret that is not empty. -/
abbrev Secret := {secret : JsString // secret ≠ []}

/-- `AccessTokenSigningKey`. -/
structure AccessTokenSigningKey where
  id : JsString
  secret : Secret
  id_ne_nil : id ≠ []
  deriving DecidableEq

/-- No two of the keys have one id. -/
def DistinctKeyIds (keys : List AccessTokenSigningKey) : Prop :=
  (keys.map AccessTokenSigningKey.id).Nodup

instance (keys : List AccessTokenSigningKey) : Decidable (DistinctKeyIds keys) :=
  inferInstanceAs (Decidable (List.Nodup _))

/-- `AccessTokenKeyring`. -/
structure AccessTokenKeyring where
  active : AccessTokenSigningKey
  previous : List AccessTokenSigningKey
  legacySecrets : List Secret
  distinct : DistinctKeyIds (active :: previous)

/-- `AccessTokenSigner`. -/
inductive AccessTokenSigner where
  | secret (secret : Secret)
  | key (key : AccessTokenSigningKey)
  deriving DecidableEq

/-- `AccessTokenVerifier`. -/
inductive AccessTokenVerifier where
  | secret (secret : Secret)
  | keyring (keyring : AccessTokenKeyring)

/-- `typeof signer === 'string' ? undefined : signer.id`. -/
def AccessTokenSigner.keyId : AccessTokenSigner → Option JsString
  | .secret _ => none
  | .key k => some k.id

/-- `signingSecret`. -/
def signingSecret : AccessTokenSigner → JsString
  | .secret s => s
  | .key k => k.secret

/-- A signer is known by its key id and its secret. -/
theorem eq_of_signingSecret {signer signer' : AccessTokenSigner} (hid : signer.keyId = signer'.keyId)
    (hsecret : signingSecret signer = signingSecret signer') : signer = signer' := by
  rcases signer with s | ⟨id, s, _⟩ <;> rcases signer' with s' | ⟨id', s', _⟩
  · exact congrArg _ (Subtype.ext hsecret)
  · cases hid
  · cases hid
  · cases hid
    cases Subtype.ext hsecret
    rfl

/-- The keys of a keyring, the active one first. -/
def AccessTokenKeyring.keys (keyring : AccessTokenKeyring) : List AccessTokenSigningKey :=
  keyring.active :: keyring.previous

/-- The signers a verifier stands for. -/
def AccessTokenVerifier.signers : AccessTokenVerifier → List AccessTokenSigner
  | .secret s => [.secret s]
  | .keyring k => k.keys.map .key ++ k.legacySecrets.map .secret

theorem mem_signers_secret {signer : AccessTokenSigner} {secret : Secret} :
    signer ∈ (AccessTokenVerifier.secret secret).signers ↔ signer = .secret secret :=
  List.mem_singleton

theorem key_mem_signers {keyring : AccessTokenKeyring} {key : AccessTokenSigningKey} :
    .key key ∈ (AccessTokenVerifier.keyring keyring).signers ↔ key ∈ keyring.keys := by
  simp [AccessTokenVerifier.signers]

theorem secret_mem_signers {keyring : AccessTokenKeyring} {secret : Secret} :
    .secret secret ∈ (AccessTokenVerifier.keyring keyring).signers ↔
      secret ∈ keyring.legacySecrets := by
  simp [AccessTokenVerifier.signers]

theorem AccessTokenKeyring.active_mem_keys (keyring : AccessTokenKeyring) :
    keyring.active ∈ keyring.keys := List.mem_cons_self

/-- One key of a keyring has an id. -/
theorem AccessTokenKeyring.eq_of_id {keyring : AccessTokenKeyring} {key key' : AccessTokenSigningKey}
    (h : key ∈ keyring.keys) (h' : key' ∈ keyring.keys) (hid : key.id = key'.id) : key = key' :=
  List.inj_on_of_nodup_map keyring.distinct h h' hid

/-- Make a new key active; the active one becomes a previous one. -/
def AccessTokenKeyring.rotate (keyring : AccessTokenKeyring) (next : AccessTokenSigningKey)
    (hnew : next.id ∉ keyring.keys.map AccessTokenSigningKey.id) : AccessTokenKeyring where
  active := next
  previous := keyring.keys
  legacySecrets := keyring.legacySecrets
  distinct := List.nodup_cons.mpr ⟨hnew, keyring.distinct⟩

/-- A rotated keyring stands for the signers it stood for. -/
theorem AccessTokenKeyring.mem_signers_rotate {keyring : AccessTokenKeyring}
    {next : AccessTokenSigningKey} {hnew : next.id ∉ keyring.keys.map AccessTokenSigningKey.id}
    {signer : AccessTokenSigner} (h : signer ∈ (AccessTokenVerifier.keyring keyring).signers) :
    signer ∈ (AccessTokenVerifier.keyring (keyring.rotate next hnew)).signers := by
  cases signer with
  | secret secret =>
    have hmem : secret ∈ keyring.legacySecrets := secret_mem_signers.mp h
    exact secret_mem_signers.mpr hmem
  | key key =>
    have hmem : key ∈ keyring.keys := key_mem_signers.mp h
    exact key_mem_signers.mpr (List.mem_cons_of_mem _ hmem)

def oldKey : AccessTokenSigningKey where
  id := js "o"
  secret := ⟨js "s", by decide⟩
  id_ne_nil := by decide

/-- A keyring whose key `o` has become a previous key. -/
def rotatedKeyring : AccessTokenKeyring where
  active := { id := js "n", secret := ⟨js "t", by decide⟩, id_ne_nil := by decide }
  previous := [oldKey]
  legacySecrets := []
  distinct := by decide

theorem oldKey_mem_signers : .key oldKey ∈ (AccessTokenVerifier.keyring rotatedKeyring).signers :=
  key_mem_signers.mpr (List.mem_cons_of_mem _ (List.mem_singleton_self _))

/-! ## The configuration -/

/-- `normalizeSecret`; `none` is not a string. -/
def normalizeSecret (value : Option JsString) : Option Secret :=
  value.bind fun value => if h : trim value ≠ [] then some ⟨value, by rintro rfl; exact h rfl⟩ else none

/-- `normalizeKeyId`, and `normalizeOptionalString`. -/
def normalizeKeyId (value : Option JsString) : Option {id : JsString // id ≠ []} :=
  value.bind fun value => if h : trim value ≠ [] then some ⟨trim value, h⟩ else none

section Configuration

variable {ν : Type} [JsonNumber ν]

/-- One entry of `parsePreviousAccessTokenKeys`. -/
def parsePreviousAccessTokenKey (entry : JsonValue ν) : Option AccessTokenSigningKey :=
  (normalizeKeyId (entry.string? (js "kid"))).bind fun id =>
    (normalizeSecret (entry.string? (js "secret"))).map fun secret =>
      { id := id, secret := secret, id_ne_nil := id.2 }

variable (ν)

/-- `parsePreviousAccessTokenKeys`; `none` is `{ ok: false }`. -/
def parsePreviousAccessTokenKeys (raw : Option JsString) : Option (List AccessTokenSigningKey) :=
  match raw with
  | none => some []
  | some raw =>
    match parseJson (ν := ν) raw with
    | some (.array parsed) => parsed.mapM parsePreviousAccessTokenKey
    | _ => none

/-- The variables `resolveAccessTokenRuntimeConfig` reads. -/
structure AccessTokenBindings where
  tokenSecret : Option JsString
  activeKid : Option JsString
  activeSecret : Option JsString
  previousKeys : Option JsString

/-- `AccessTokenRuntimeConfig`, where it is `ok`. -/
structure AccessTokenRuntimeConfig where
  refreshTokenSecret : Secret
  signer : AccessTokenSigner
  verifier : AccessTokenVerifier

/-- The configuration of a deployment that has keys. -/
def keyedRuntimeConfig (refreshTokenSecret : Secret) (activeKey : AccessTokenSigningKey)
    (previous : List AccessTokenSigningKey) : Option AccessTokenRuntimeConfig :=
  if h : DistinctKeyIds (activeKey :: previous) then
    some
      { refreshTokenSecret
        signer := .key activeKey
        verifier := .keyring
          { active := activeKey
            previous
            legacySecrets := [refreshTokenSecret]
            distinct := h } }
  else none

/-- `resolveAccessTokenRuntimeConfig`; `none` is `{ ok: false }`. -/
def resolveAccessTokenRuntimeConfig (env : AccessTokenBindings) : Option AccessTokenRuntimeConfig :=
  (normalizeSecret env.tokenSecret).bind fun refreshTokenSecret =>
    let activeKid := normalizeKeyId env.activeKid
    let activeSecret := normalizeSecret env.activeSecret
    let previousKeysRaw := (normalizeKeyId env.previousKeys).map Subtype.val
    if activeKid = none ∧ activeSecret = none ∧ previousKeysRaw = none then
      some
        { refreshTokenSecret
          signer := .secret refreshTokenSecret
          verifier := .secret refreshTokenSecret }
    else
      activeKid.bind fun id => activeSecret.bind fun secret =>
        (parsePreviousAccessTokenKeys ν previousKeysRaw).bind fun previous =>
          keyedRuntimeConfig refreshTokenSecret { id := id, secret := secret, id_ne_nil := id.2 }
            previous

variable {ν}

/-- **What a configuration signs with, it verifies with.** -/
theorem resolveAccessTokenRuntimeConfig_signer {env : AccessTokenBindings}
    {config : AccessTokenRuntimeConfig}
    (h : resolveAccessTokenRuntimeConfig ν env = some config) :
    config.signer ∈ config.verifier.signers := by
  unfold resolveAccessTokenRuntimeConfig at h
  obtain ⟨refreshTokenSecret, -, h⟩ := Option.bind_eq_some_iff.mp h
  dsimp only at h
  split_ifs at h with hnone
  · obtain rfl := Option.some.inj h
    exact List.mem_singleton_self _
  · obtain ⟨id, -, h⟩ := Option.bind_eq_some_iff.mp h
    obtain ⟨secret, -, h⟩ := Option.bind_eq_some_iff.mp h
    obtain ⟨previous, -, h⟩ := Option.bind_eq_some_iff.mp h
    unfold keyedRuntimeConfig at h
    split_ifs at h with hdistinct
    obtain rfl := Option.some.inj h
    exact key_mem_signers.mpr (AccessTokenKeyring.active_mem_keys _)

end Configuration

end HonoWarden
