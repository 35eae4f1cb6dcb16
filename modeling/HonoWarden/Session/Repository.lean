import HonoWarden.Schema

/-!
# Device sessions and refresh tokens

Model of the session part of `src/repositories/auth-repository.ts` and of
`consumeAuthRequestWithSession` (`src/repositories/auth-request-repository.ts`). Every function is
the batch of statements the source prepares, followed by its reading of the results.

A login opens a *family*: the device row is bound to the new `session_id`, which is the id of the
family's first refresh token, and every rotation hands that id on. Tokens of an earlier family of
the same device are left as they are; the session id keeps them out.

`rotateRefreshToken` is two client calls, `rotationBatch` and the clean-up
`invalidateRefreshTokenSession`, between which other requests can run; `Session/Refresh.lean`
interleaves them.
-/

namespace HonoWarden

open Relational

/-- `buildDeviceId`. -/
def buildDeviceId (userId deviceIdentifier : String) : String :=
  userId ++ ":" ++ deviceIdentifier

/-! ## TOTP verifications (`src/domain/mfa-session.ts`) -/

/-- `MfaSessionActor`. -/
structure MfaSessionActor where
  userId : String
  deviceIdentifier : String
  sessionId : String
  deriving DecidableEq, Repr

/-- `TotpSessionVerification`. -/
structure TotpSessionVerification where
  credentialGeneration : String
  acceptedStep : Int
  deriving DecidableEq, Repr

/-- `isValidTotpSessionVerification`; the bound is `Number.MAX_SAFE_INTEGER`. -/
def isValidTotpSessionVerification (verification : TotpSessionVerification) : Bool :=
  0 < verification.credentialGeneration.length ∧ verification.credentialGeneration.length ≤ 128 ∧
    verification.acceptedStep ≤ 2 ^ 53 - 1 ∧ 0 ≤ verification.acceptedStep

/-! ## Logins -/

/-- `DeviceSessionInput`. -/
structure DeviceSessionInput where
  userId : String
  expectedMasterPasswordHash : String
  expectedSecurityStamp : String
  deviceIdentifier : String
  deviceName : Option String := none
  deviceType : Option Int := none
  refreshTokenId : String
  refreshTokenHash : String
  refreshTokenExpiresAt : Timestamp
  now : Timestamp
  totpVerification : Option TotpSessionVerification := none
  requireTotpDisabled : Bool := false
  deriving DecidableEq, Repr

/-- `CreatePasswordGrantSessionResult`. -/
inductive CreatePasswordGrantSessionResult where
  | created
  | staleGeneration
  deriving DecidableEq, Repr

/-- `totpDisabledSql`, in front of the row of `users` it is correlated with. -/
def TotpDisabled (db : Db) (u : User) : Prop :=
  ¬ ∃ t ∈ db.userTotp.rows, t.userId = u.id ∧ t.enabled = true

instance (db : Db) (u : User) : Decidable (TotpDisabled db u) :=
  inferInstanceAs (Decidable (¬ ∃ t ∈ db.userTotp.rows, t.userId = u.id ∧ t.enabled = true))

/-- The account as the login read it: the WHERE clause on `users` that the three statements of
the password batch repeat. -/
def PasswordSessionOwner (input : DeviceSessionInput) (db : Db) : Prop :=
  ∃ u ∈ db.users.rows, u.id = input.userId ∧ u.disabledAt = none ∧
    u.masterPasswordHash = input.expectedMasterPasswordHash ∧
    u.securityStamp = input.expectedSecurityStamp ∧
    (input.requireTotpDisabled = true → TotpDisabled db u)

instance (input : DeviceSessionInput) (db : Db) : Decidable (PasswordSessionOwner input db) :=
  inferInstanceAs (Decidable (∃ u ∈ db.users.rows, _ ∧ _))

@[simp] theorem passwordSessionOwner_devices (input : DeviceSessionInput) (db : Db)
    (D : Table Device) :
    PasswordSessionOwner input { db with devices := D } ↔ PasswordSessionOwner input db := Iff.rfl

/-- The first token of a login's family. -/
def DeviceSessionInput.refreshToken (input : DeviceSessionInput) : RefreshToken where
  id := input.refreshTokenId
  userId := input.userId
  deviceId := buildDeviceId input.userId input.deviceIdentifier
  tokenHash := input.refreshTokenHash
  expiresAt := input.refreshTokenExpiresAt
  sessionId := some input.refreshTokenId

/-- The row a login inserts for a new device; what `updated_at` defaults to is overwritten by the
statement that follows the INSERT. -/
def DeviceSessionInput.device (input : DeviceSessionInput) : Device where
  id := buildDeviceId input.userId input.deviceIdentifier
  userId := input.userId
  identifier := input.deviceIdentifier
  name := input.deviceName
  type := input.deviceType
  lastSeenAt := some input.now
  updatedAt := input.now

/-- The device bound to the new family, without the proof of the old one. -/
def DeviceSessionInput.bind (input : DeviceSessionInput) (d : Device) : Device :=
  { d with
    name := input.deviceName
    type := input.deviceType
    lastSeenAt := some input.now
    revokedAt := none
    updatedAt := input.now
    sessionId := some input.refreshTokenId
    mfaTotpCredentialGeneration := none
    mfaVerifiedAt := none }

def insertLoginDevice (input : DeviceSessionInput) : Statement Db :=
  Db.devicesIn.insertOrIgnore
    (fun db _ => if PasswordSessionOwner input db then [input.device] else []) fun _ => []

def bindLoginDevice (input : DeviceSessionInput) : Statement Db :=
  Db.devicesIn.update
    (fun db _ d => d.id = input.device.id ∧ d.userId = input.userId ∧
      PasswordSessionOwner input db)
    fun _ => input.bind

def insertLoginToken (input : DeviceSessionInput) : Statement Db :=
  Db.refreshTokensIn.insertSelect (fun db _ =>
    if PasswordSessionOwner input db ∧ ∃ d ∈ db.devices.rows,
        d.id = input.device.id ∧ d.userId = input.userId ∧ d.revokedAt = none ∧
        d.sessionId = some input.refreshTokenId then
      [input.refreshToken]
    else []) fun _ => []

/-- A session batch reports what its third statement, the token INSERT, has changed. -/
def interpretSessionBatch (label : String) :
    List StatementResult → Except String CreatePasswordGrantSessionResult
  | [_, _, token] =>
    if token.metaChanges = 0 then .ok .staleGeneration
    else if token.metaChanges ≠ 1 then
      .error (label ++ " session batch created an invalid token count")
    else .ok .created
  | _ => .error (label ++ " session batch returned an invalid result count")

/-- The factor a TOTP login may consume a step of, with the account as the login read it. -/
def DeviceSessionInput.Factor (input : DeviceSessionInput)
    (verification : TotpSessionVerification) (db : Db) (t : UserTotp) : Prop :=
  t.userId = input.userId ∧ t.enabled = true ∧ t.verifiedAt ≠ none ∧
    t.credentialGeneration = some verification.credentialGeneration ∧
    (∀ step, t.lastAcceptedStep = some step → step < verification.acceptedStep) ∧
    ∃ u ∈ db.users.rows, u.id = t.userId ∧ u.disabledAt = none ∧
      u.masterPasswordHash = input.expectedMasterPasswordHash ∧
      u.securityStamp = input.expectedSecurityStamp

instance (input : DeviceSessionInput) (verification : TotpSessionVerification) (db : Db) :
    DecidablePred (input.Factor verification db) := fun _ => inferInstanceAs (Decidable (_ ∧ _))

/-- A factor whose last accepted step is now `step`. -/
def UserTotp.acceptStep (step : Int) (now : Timestamp) (t : UserTotp) : UserTotp :=
  { t with lastAcceptedStep := some step, updatedAt := now }

def consumeLoginStep (input : DeviceSessionInput) (verification : TotpSessionVerification) :
    Statement Db :=
  Db.userTotpIn.update (fun db _ => input.Factor verification db)
    fun _ => UserTotp.acceptStep verification.acceptedStep input.now

/-- The row a TOTP login inserts for a new device. -/
def DeviceSessionInput.totpDevice (input : DeviceSessionInput)
    (verification : TotpSessionVerification) : Device :=
  { input.device with
    sessionId := some input.refreshTokenId
    mfaTotpCredentialGeneration := some verification.credentialGeneration
    mfaVerifiedAt := some input.now }

/-- The device bound to the new family, with the proof of the step just consumed. -/
def DeviceSessionInput.bindTotp (input : DeviceSessionInput)
    (verification : TotpSessionVerification) (d : Device) : Device :=
  { d with
    name := input.deviceName
    type := input.deviceType
    lastSeenAt := some input.now
    updatedAt := input.now
    revokedAt := none
    sessionId := some input.refreshTokenId
    mfaTotpCredentialGeneration := some verification.credentialGeneration
    mfaVerifiedAt := some input.now }

def upsertTotpLoginDevice (input : DeviceSessionInput) (verification : TotpSessionVerification) :
    Statement Db :=
  Db.devicesIn.upsertRow
    (fun _ changes => if changes = 1 then some (input.totpDevice verification) else none)
    (fun d excluded =>
      if d.userId = excluded.userId ∧ d.identifier = excluded.identifier then
        some (input.bindTotp verification d)
      else none)
    fun _ => []

def insertTotpLoginToken (input : DeviceSessionInput) (verification : TotpSessionVerification) :
    Statement Db :=
  Db.refreshTokensIn.insertSelect (fun db changes =>
    if changes = 1 ∧ ∃ d ∈ db.devices.rows, d.id = input.device.id ∧ d.userId = input.userId ∧
        d.identifier = input.deviceIdentifier ∧ d.sessionId = some input.refreshTokenId ∧
        d.revokedAt = none ∧
        d.mfaTotpCredentialGeneration = some verification.credentialGeneration ∧
        d.mfaVerifiedAt ≠ none then
      [input.refreshToken]
    else []) fun _ => []

/-- `createTotpPasswordGrantSession`. -/
def createTotpPasswordGrantSession (input : DeviceSessionInput)
    (verification : TotpSessionVerification) (db : Db) :
    Db × Except Failure CreatePasswordGrantSessionResult :=
  if isValidTotpSessionVerification verification then
    commit [consumeLoginStep input verification, upsertTotpLoginDevice input verification,
      insertTotpLoginToken input verification] (interpretSessionBatch "TOTP password") db
  else (db, .ok .staleGeneration)

/-- `createPasswordGrantSession`. -/
def createPasswordGrantSession (input : DeviceSessionInput) (db : Db) :
    Db × Except Failure CreatePasswordGrantSessionResult :=
  match input.totpVerification with
  | some verification => createTotpPasswordGrantSession input verification db
  | none =>
    commit [insertLoginDevice input, bindLoginDevice input, insertLoginToken input]
      (interpretSessionBatch "password") db

/-! ## Logging in with an approved request -/

/-- `ConsumeAuthRequestWithSessionInput`. -/
structure ConsumeAuthRequestWithSessionInput where
  authRequestId : String
  accessCodeHash : String
  userId : String
  requestDeviceIdentifier : String
  deviceId : String
  deviceName : Option String := none
  deviceType : Option Int := none
  refreshTokenId : String
  refreshTokenHash : String
  refreshTokenExpiresAt : Timestamp
  now : Timestamp
  deriving DecidableEq, Repr

/-- The status `consumeAuthRequestWithSession` returns. -/
inductive ConsumeAuthRequestResult where
  | consumed
  | notConsumed
  deriving DecidableEq, Repr

/-- `eligibility`: the WHERE clause on `auth_requests` that the four statements repeat. -/
def ConsumeAuthRequestWithSessionInput.Eligible (input : ConsumeAuthRequestWithSessionInput)
    (a : AuthRequest) : Prop :=
  a.id = input.authRequestId ∧ a.userId = some input.userId ∧
    a.requestDeviceIdentifier = input.requestDeviceIdentifier ∧
    a.accessCodeHash = input.accessCodeHash ∧ a.status = .approved ∧ input.now < a.expiresAt

instance (input : ConsumeAuthRequestWithSessionInput) : DecidablePred input.Eligible := fun _ =>
  inferInstanceAs (Decidable (_ ∧ _))

/-- The row a consumption inserts for a new device. -/
def ConsumeAuthRequestWithSessionInput.device (input : ConsumeAuthRequestWithSessionInput) :
    Device where
  id := input.deviceId
  userId := input.userId
  identifier := input.requestDeviceIdentifier
  name := input.deviceName
  type := input.deviceType
  lastSeenAt := some input.now
  updatedAt := input.now

/-- The device bound to the new family, without the proof of the old one. -/
def ConsumeAuthRequestWithSessionInput.bind (input : ConsumeAuthRequestWithSessionInput)
    (d : Device) : Device :=
  { d with
    name := input.deviceName
    type := input.deviceType
    lastSeenAt := some input.now
    revokedAt := none
    updatedAt := input.now
    sessionId := some input.refreshTokenId
    mfaTotpCredentialGeneration := none
    mfaVerifiedAt := none }

/-- The first token of the family. -/
def ConsumeAuthRequestWithSessionInput.refreshToken (input : ConsumeAuthRequestWithSessionInput) :
    RefreshToken where
  id := input.refreshTokenId
  userId := input.userId
  deviceId := input.deviceId
  tokenHash := input.refreshTokenHash
  expiresAt := input.refreshTokenExpiresAt
  sessionId := some input.refreshTokenId

def insertRequestDevice (input : ConsumeAuthRequestWithSessionInput) : Statement Db :=
  Db.devicesIn.insertOrIgnore
    (fun db _ => if ∃ a ∈ db.authRequests.rows, input.Eligible a then [input.device] else [])
    fun _ => []

def bindRequestDevice (input : ConsumeAuthRequestWithSessionInput) : Statement Db :=
  Db.devicesIn.update
    (fun db _ d => d.id = input.device.id ∧ d.userId = input.userId ∧
      ∃ a ∈ db.authRequests.rows, input.Eligible a)
    fun _ => input.bind

/-- The token INSERT does not ask for the device again: the foreign key does. -/
def insertRequestToken (input : ConsumeAuthRequestWithSessionInput) : Statement Db :=
  Db.refreshTokensIn.insertReferencing
    (fun db _ =>
      if ∃ a ∈ db.authRequests.rows, input.Eligible a then [input.refreshToken] else [])
    (fun db t => ∃ d ∈ db.devices.rows, d.id = t.deviceId)

def ConsumeAuthRequestWithSessionInput.consume (input : ConsumeAuthRequestWithSessionInput)
    (a : AuthRequest) : AuthRequest :=
  { a with status := .consumed, consumedAt := some input.now, updatedAt := input.now }

def consumeRequest (input : ConsumeAuthRequestWithSessionInput) : Statement Db :=
  Db.authRequestsIn.update
    (fun db _ a => input.Eligible a ∧ ∃ t ∈ db.refreshTokens.rows,
      t.id = input.refreshTokenId ∧ t.userId = input.userId ∧ t.deviceId = input.deviceId)
    fun _ => input.consume

def interpretConsumeBatch : List StatementResult → Except String ConsumeAuthRequestResult
  | [_, _, token, request] =>
    if token.metaChanges = 1 ∧ request.metaChanges = 1 then .ok .consumed else .ok .notConsumed
  | _ => .ok .notConsumed

/-- `consumeAuthRequestWithSession`. -/
def consumeAuthRequestWithSession (input : ConsumeAuthRequestWithSessionInput) (db : Db) :
    Db × Except Failure ConsumeAuthRequestResult :=
  commit [insertRequestDevice input, bindRequestDevice input, insertRequestToken input,
    consumeRequest input] interpretConsumeBatch db

/-! ## Refresh -/

/-- `RotateRefreshTokenInput`. -/
structure RotateRefreshTokenInput where
  currentTokenId : String
  expectedSessionId : String
  userId : String
  deviceId : String
  expectedSecurityStamp : String
  deviceIdentifier : String
  deviceName : Option String := none
  deviceType : Option Int := none
  nextRefreshTokenId : String
  nextRefreshTokenHash : String
  nextRefreshTokenExpiresAt : Timestamp
  now : Timestamp
  deriving DecidableEq, Repr

/-- `RotateRefreshTokenResult`. -/
inductive RotateRefreshTokenResult where
  | rotated
  | reuseDetected
  deriving DecidableEq, Repr

/-- The token the replacement is selected from, with its device and its owner. -/
def RotateRefreshTokenInput.Current (input : RotateRefreshTokenInput) (db : Db)
    (t : RefreshToken) : Prop :=
  t.id = input.currentTokenId ∧ t.userId = input.userId ∧ t.deviceId = input.deviceId ∧
    t.revokedAt = none ∧ t.sessionId = some input.expectedSessionId ∧
    (∃ d ∈ db.devices.rows, d.id = t.deviceId ∧ d.userId = t.userId ∧ d.revokedAt = none ∧
      d.sessionId = t.sessionId) ∧
    ∃ u ∈ db.users.rows, u.id = t.userId ∧ u.disabledAt = none ∧
      u.securityStamp = input.expectedSecurityStamp

instance (input : RotateRefreshTokenInput) (db : Db) : DecidablePred (input.Current db) :=
  fun _ => inferInstanceAs (Decidable (_ ∧ _))

/-- The row the rotation inserts for the current token `t`. -/
def RotateRefreshTokenInput.replacement (input : RotateRefreshTokenInput) (t : RefreshToken) :
    RefreshToken where
  id := input.nextRefreshTokenId
  userId := t.userId
  deviceId := t.deviceId
  tokenHash := input.nextRefreshTokenHash
  rotatedFromTokenId := some t.id
  expiresAt := input.nextRefreshTokenExpiresAt
  sessionId := t.sessionId

/-- Some stored row is the live replacement of `currentTokenId`, for `userId` and `deviceId`. -/
def RotateRefreshTokenInput.Replaced (input : RotateRefreshTokenInput) (db : Db)
    (userId deviceId currentTokenId : String) : Prop :=
  ∃ r ∈ db.refreshTokens.rows, r.id = input.nextRefreshTokenId ∧ r.userId = userId ∧
    r.deviceId = deviceId ∧ r.rotatedFromTokenId = some currentTokenId ∧
    r.tokenHash = input.nextRefreshTokenHash ∧ r.revokedAt = none

instance (input : RotateRefreshTokenInput) (db : Db) (userId deviceId currentTokenId : String) :
    Decidable (input.Replaced db userId deviceId currentTokenId) :=
  inferInstanceAs (Decidable (∃ r ∈ db.refreshTokens.rows, _ ∧ _))

/-- The token as the rotation leaves it. -/
def RefreshToken.revoke (revokedAt : Timestamp) (t : RefreshToken) : RefreshToken :=
  { t with revokedAt := some revokedAt }

/-- The device as the rotation leaves it. -/
def RotateRefreshTokenInput.touch (input : RotateRefreshTokenInput) (d : Device) : Device :=
  { d with
    identifier := input.deviceIdentifier
    name := input.deviceName
    type := input.deviceType
    lastSeenAt := some input.now
    updatedAt := input.now }

def insertReplacement (input : RotateRefreshTokenInput) : Statement Db :=
  Db.refreshTokensIn.insertSelect
    (fun db _ => (db.refreshTokens.rows.filter fun t => input.Current db t).map input.replacement)
    fun _ => []

def revokeCurrentToken (input : RotateRefreshTokenInput) : Statement Db :=
  Db.refreshTokensIn.update
    (fun db _ t => t.id = input.currentTokenId ∧ t.userId = input.userId ∧
      t.deviceId = input.deviceId ∧ t.revokedAt = none ∧
      input.Replaced db t.userId t.deviceId t.id)
    fun _ => RefreshToken.revoke input.now

def touchRotatedDevice (input : RotateRefreshTokenInput) : Statement Db :=
  Db.devicesIn.update
    (fun db _ d => d.id = input.deviceId ∧ d.userId = input.userId ∧ d.revokedAt = none ∧
      input.Replaced db d.userId d.id input.currentTokenId)
    fun _ => input.touch

def interpretRotationBatch : List StatementResult → Except String Bool
  | [replacement, revoke, device] =>
    .ok (replacement.metaChanges = 1 ∧ revoke.metaChanges = 1 ∧ device.metaChanges = 1)
  | _ => .error "refresh rotation batch returned an invalid result count"

/-- The first call of `rotateRefreshToken`; the result says whether the three statements changed
one row each. -/
def rotationBatch (input : RotateRefreshTokenInput) (db : Db) : Db × Except Failure Bool :=
  commit [insertReplacement input, revokeCurrentToken input, touchRotatedDevice input]
    interpretRotationBatch db

/-- The session a clean-up is scoped by; an empty id is falsy, so it scopes nothing. -/
def InSession (expectedSessionId : Option String) (sessionId : Option String) : Prop :=
  ∀ s, expectedSessionId = some s → s ≠ "" → sessionId = some s

instance (expectedSessionId sessionId : Option String) :
    Decidable (InSession expectedSessionId sessionId) :=
  inferInstanceAs (Decidable (∀ s, expectedSessionId = some s → s ≠ "" → sessionId = some s))

/-- `invalidateRefreshTokenSession`. -/
def invalidateRefreshTokenSession (userId deviceId : String) (now : Timestamp)
    (expectedSessionId : Option String) (db : Db) : Db × Except Failure Unit :=
  commit
    [Db.refreshTokensIn.update
      (fun _ _ t => t.userId = userId ∧ t.deviceId = deviceId ∧ t.revokedAt = none ∧
        InSession expectedSessionId t.sessionId)
      fun _ => RefreshToken.revoke now,
     Db.devicesIn.update
      (fun _ _ d => d.id = deviceId ∧ d.userId = userId ∧ InSession expectedSessionId d.sessionId)
      (fun _ d => { d with revokedAt := some now, updatedAt := now })]
    (fun _ => .ok ()) db

/-- `rotateRefreshToken`. -/
def rotateRefreshToken (input : RotateRefreshTokenInput) (db : Db) :
    Db × Except Failure RotateRefreshTokenResult :=
  match rotationBatch input db with
  | (db', .error e) => (db', .error e)
  | (db', .ok true) => (db', .ok .rotated)
  | (db', .ok false) =>
    let cleaned := invalidateRefreshTokenSession input.userId input.deviceId input.now
      (some input.expectedSessionId) db'
    (cleaned.1, cleaned.2.map fun _ => .reuseDetected)

/-! ## Revocation and retention -/

/-- `DeviceRevokeResult`. -/
inductive DeviceRevokeResult where
  | revoked (deviceId : String) (revokedAt : Timestamp)
  | notFound
  deriving DecidableEq, Repr

/-- `revokeCurrentDeviceSession`. -/
def revokeCurrentDeviceSession (actor : MfaSessionActor) (revokedAt : Timestamp) (db : Db) :
    Db × Except Failure DeviceRevokeResult :=
  commit
    [Db.refreshTokensIn.update
      (fun db _ t => t.userId = actor.userId ∧ t.sessionId = some actor.sessionId ∧
        t.revokedAt = none ∧ ∃ d ∈ db.devices.rows, d.id = t.deviceId ∧
          d.userId = actor.userId ∧ d.identifier = actor.deviceIdentifier ∧
          d.sessionId = some actor.sessionId ∧ d.revokedAt = none)
      fun _ => RefreshToken.revoke revokedAt,
     Db.devicesIn.updateReturning
      (fun _ _ d => d.userId = actor.userId ∧ d.identifier = actor.deviceIdentifier ∧
        d.sessionId = some actor.sessionId ∧ d.revokedAt = none)
      (fun _ d =>
        { d with
          revokedAt := some revokedAt
          updatedAt := revokedAt
          mfaTotpCredentialGeneration := none
          mfaVerifiedAt := none })
      (fun d => [[.text d.id]])]
    (fun
      | [_, device] =>
        match device.rows with
        | [] => .ok .notFound
        | [[.text id]] => .ok (.revoked id revokedAt)
        | _ => .error "Current session revocation updated multiple devices."
      | _ => .error "Current session revocation batch returned an invalid result count.") db

/-- `revokeDeviceSession`. -/
def revokeDeviceSession (userId deviceId : String) (revokedAt : Timestamp) (db : Db) :
    Db × Except Failure DeviceRevokeResult :=
  commit
    [Db.devicesIn.update
      (fun _ _ d => d.id = deviceId ∧ d.userId = userId ∧ d.revokedAt = none)
      (fun _ d => { d with revokedAt := some revokedAt, updatedAt := revokedAt }),
     Db.refreshTokensIn.update
      (fun _ changes t => t.userId = userId ∧ t.deviceId = deviceId ∧ t.revokedAt = none ∧
        changes = 1)
      fun _ => RefreshToken.revoke revokedAt]
    (fun
      | [device, _] =>
        if device.metaChanges ≠ 1 then .ok .notFound else .ok (.revoked deviceId revokedAt)
      | _ => .error "device revoke batch returned incomplete results") db

/-- `revokeOtherDeviceSessions`. -/
def revokeOtherDeviceSessions (userId currentDeviceId : String) (revokedAt : Timestamp)
    (db : Db) : Db × Except Failure Unit :=
  commit
    [Db.devicesIn.update
      (fun _ _ d => d.userId = userId ∧ d.id ≠ currentDeviceId ∧ d.revokedAt = none)
      (fun _ d => { d with revokedAt := some revokedAt, updatedAt := revokedAt }),
     Db.refreshTokensIn.update
      (fun _ _ t => t.userId = userId ∧ t.deviceId ≠ currentDeviceId ∧ t.revokedAt = none)
      fun _ => RefreshToken.revoke revokedAt]
    (fun _ => .ok ()) db

/-- `refreshTokenRetentionDays`, in milliseconds. -/
def refreshTokenRetention : Timestamp := 30 * 86400000

/-- The ids the retention DELETE selects: the longest expired tokens, at most `limit` of them. -/
def expiredRefreshTokenIds (now : Timestamp) (limit : Nat) (db : Db) : List String :=
  (((db.refreshTokens.rows.filter fun t => t.expiresAt + refreshTokenRetention ≤ now).mergeSort
    fun a b => a.expiresAt ≤ b.expiresAt).take limit).map RefreshToken.id

/-- ON DELETE SET NULL of `rotated_from_token_id`. -/
def clearRotatedFrom (deleted : List RefreshToken) : Db → Db × Nat :=
  Db.refreshTokensIn.nestedUpdate (fun t => ∃ r ∈ deleted, t.rotatedFromTokenId = some r.id)
    fun t => { t with rotatedFromTokenId := none }

/-- `deleteExpiredRefreshTokens`. -/
def deleteExpiredRefreshTokens (now : Timestamp) (limit : Nat) (db : Db) :
    Db × Except Failure Nat :=
  execute
    (Db.refreshTokensIn.deleteTriggering
      (fun db _ t => t.id ∈ expiredRefreshTokenIds now limit db) (fun _ => []) clearRotatedFrom)
    (fun result => .ok result.metaChanges) db

end HonoWarden
