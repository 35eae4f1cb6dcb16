import HonoWarden.Session.Linear

/-!
# Reading the account of a session

Model of the lookups of `src/repositories/auth-repository.ts`. Each is one SELECT, and each refuses
an account whose stored key derivation settings are not structurally valid
(`assertValidAuthUserCredentialGeneration`), so a lookup can throw.
-/

namespace HonoWarden

open Relational

/-! ## Stored key derivation settings (`src/domain/account-credentials.ts`) -/

/-- `AccountCredentialKdf`. -/
structure AccountCredentialKdf where
  kdfType : Nat
  iterations : Int
  memory : Option Int
  parallelism : Option Int
  deriving DecidableEq, Repr

/-- `accountCredentialKdfTypeForStoredAlgorithm`. -/
def accountCredentialKdfTypeForStoredAlgorithm (algorithm : String) : Option Nat :=
  if algorithm = "pbkdf2-sha256" then some 0
  else if algorithm = "argon2id" then some 1
  else none

/-- `Number.isSafeInteger`, on an integer. -/
def isSafeInteger (n : Int) : Bool := -(2 ^ 53 - 1) ≤ n && n ≤ 2 ^ 53 - 1

/-- `isStructurallyValidKdf`. -/
def isStructurallyValidKdf (kdf : AccountCredentialKdf) : Bool :=
  isSafeInteger kdf.iterations && 1 ≤ kdf.iterations &&
    if kdf.kdfType = 0 then kdf.memory = none && kdf.parallelism = none
    else
      match kdf.memory, kdf.parallelism with
      | some memory, some parallelism =>
        isSafeInteger memory && 1 ≤ memory && isSafeInteger parallelism && 1 ≤ parallelism
      | _, _ => false

/-- `accountCredentialKdfFromStoredGeneration`. -/
def accountCredentialKdfFromStoredGeneration (u : User) : Option AccountCredentialKdf :=
  (accountCredentialKdfTypeForStoredAlgorithm u.kdfAlgorithm).bind fun kdfType =>
    let kdf : AccountCredentialKdf :=
      { kdfType, iterations := u.kdfIterations, memory := u.kdfMemory,
        parallelism := u.kdfParallelism }
    if isStructurallyValidKdf kdf then some kdf else none

/-! ## Lookups -/

/-- `AuthUserRecord`: the account with the columns of its TOTP factor. -/
structure AuthUserRecord where
  user : User
  totpEnabled : Bool
  totpEncryptedSecret : Option String
  totpLastAcceptedStep : Option Int
  totpCredentialGeneration : Option String
  deriving DecidableEq, Repr

/-- `authUserFromRow`, on the LEFT JOIN of `users` and `user_totp`. -/
def authUserFromRow (db : Db) (u : User) : Except String AuthUserRecord :=
  let factor := db.userTotp.rows.find? fun t => t.userId = u.id
  match accountCredentialKdfFromStoredGeneration u with
  | none => .error "stored account KDF generation is invalid"
  | some _ =>
    .ok
      { user := u
        totpEnabled := factor.any UserTotp.enabled
        totpEncryptedSecret := factor.map UserTotp.encryptedSecret
        totpLastAcceptedStep := factor.bind UserTotp.lastAcceptedStep
        totpCredentialGeneration := factor.bind UserTotp.credentialGeneration }

/-- `findAuthUserBySession`: the account, when its device is active under the session. -/
def findAuthUserBySession (actor : MfaSessionActor) (db : Db) :
    Except String (Option AuthUserRecord) :=
  match db.users.rows.find? fun u => u.id = actor.userId ∧ ∃ d ∈ db.devices.rows,
      d.userId = u.id ∧ d.revokedAt = none ∧ d.identifier = actor.deviceIdentifier ∧
      d.sessionId = some actor.sessionId with
  | none => .ok none
  | some u => (authUserFromRow db u).map some

/-- `findDeviceByIdentifier`. -/
def findDeviceByIdentifier (userId identifier : String) (db : Db) : Option Device :=
  db.devices.rows.find? fun d => d.userId = userId ∧ d.identifier = identifier ∧ d.revokedAt = none

theorem findDeviceByIdentifier_some {userId identifier : String} {db : Db} {d : Device}
    (h : findDeviceByIdentifier userId identifier db = some d) :
    d ∈ db.devices.rows ∧ d.userId = userId ∧ d.identifier = identifier ∧ d.revokedAt = none :=
  ⟨List.mem_of_find?_eq_some h, by simpa using List.find?_some h⟩

/-- `RefreshTokenSession`. -/
structure RefreshTokenSession where
  tokenId : String
  sessionId : Option String
  userId : String
  deviceId : String
  deviceIdentifier : String
  tokenExpiresAt : Timestamp
  tokenRevokedAt : Option Timestamp
  deviceRevokedAt : Option Timestamp
  user : AuthUserRecord
  deriving DecidableEq, Repr

/-- `findRefreshTokenSessionByHash`: the token joined with its account and its device. -/
def findRefreshTokenSessionByHash (refreshTokenHash : String) (db : Db) :
    Except String (Option RefreshTokenSession) :=
  match db.refreshTokens.rows.find? fun t => t.tokenHash = refreshTokenHash with
  | none => .ok none
  | some t =>
    match db.users.rows.find? (fun u => u.id = t.userId),
        db.devices.rows.find? (fun d => d.id = t.deviceId) with
    | some u, some d =>
      (authUserFromRow db u).map fun user =>
        some
          { tokenId := t.id
            sessionId := t.sessionId
            userId := t.userId
            deviceId := t.deviceId
            deviceIdentifier := d.identifier
            tokenExpiresAt := t.expiresAt
            tokenRevokedAt := t.revokedAt
            deviceRevokedAt := d.revokedAt
            user }
    | _, _ => .ok none

/-- What a lookup by hash returns was read from the token with that hash and from its device. -/
theorem findRefreshTokenSessionByHash_some {hash : String} {db : Db} {session : RefreshTokenSession}
    (h : findRefreshTokenSessionByHash hash db = .ok (some session)) :
    ∃ t ∈ db.refreshTokens.rows, t.tokenHash = hash ∧ session.tokenId = t.id ∧
      session.sessionId = t.sessionId ∧ session.userId = t.userId ∧
      session.deviceId = t.deviceId ∧ session.tokenRevokedAt = t.revokedAt ∧
      ∃ d ∈ db.devices.rows, d.id = t.deviceId ∧ session.deviceIdentifier = d.identifier := by
  unfold findRefreshTokenSessionByHash at h
  split at h
  · cases h
  · rename_i t ht
    split at h
    · rename_i u d hu hd
      cases huser : authUserFromRow db u with
      | error e => rw [huser] at h; cases h
      | ok user =>
        rw [huser] at h
        obtain rfl := Option.some.inj (Except.ok.inj h)
        exact ⟨t, List.mem_of_find?_eq_some ht, by simpa using List.find?_some ht, rfl, rfl, rfl,
          rfl, rfl, d, List.mem_of_find?_eq_some hd, by simpa using List.find?_some hd, rfl⟩
    · cases h

end HonoWarden
