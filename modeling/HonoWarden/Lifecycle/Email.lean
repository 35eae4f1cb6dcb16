import HonoWarden.Organization.Groups

/-!
# Changing the address of an account

Model of `changeAccountEmail` (`src/repositories/account-lifecycle-repository.ts`) and of
`src/repositories/credential-wrapper-history-sql.ts`.

The address salts the master key, so a change of it brings a new password hash, a new wrapped user
key and a new security stamp, and ends every session. The user row is written under a guard on the
generation the request has seen; every later statement asks for the generation that write leaves
(`Committed`).

`fingerprint` is `fingerprintCredentialWrapper`: SHA-256 over the canonical text of a wrapper.
-/

namespace HonoWarden

open Relational

/-- The text of `wrapper_kind`. -/
def WrapperKind.text : WrapperKind → String
  | .userKey => "user_key"
  | .privateKey => "private_key"

/-- An element of the JSON array `insertCredentialWrapperHistorySql` reads. -/
structure CredentialWrapper where
  kind : WrapperKind
  sha256 : String
  deriving DecidableEq, Repr

/-- The row a wrapper is recorded as. -/
def CredentialWrapper.row (userId : String) (recordedAt : Timestamp) (w : CredentialWrapper) :
    WrapperHistory where
  userId := userId
  wrapperKind := w.kind
  wrapperSha256 := w.sha256
  recordedAt := recordedAt

/-- `insertCredentialWrapperHistorySql`: the wrappers are recorded for an account in the given
generation. -/
def insertCredentialWrapperHistory (wrappers : List CredentialWrapper) (userId : String)
    (recordedAt : Timestamp) (securityStamp : String) (revisionDate : Timestamp) : Statement Db :=
  Db.wrapperHistoryIn.insertOrIgnore
    (fun db _ =>
      if ∃ u ∈ db.users.rows, u.id = userId ∧ u.securityStamp = securityStamp ∧
          u.revisionDate = revisionDate then
        wrappers.map (CredentialWrapper.row userId recordedAt)
      else [])
    fun w => [[.text w.wrapperKind.text, .text w.wrapperSha256]]

/-- `ChangeAccountEmailInput`. -/
structure ChangeAccountEmailInput where
  userId : String
  expectedEmailNormalized : String
  expectedMasterPasswordHash : String
  expectedUserKey : String
  expectedSecurityStamp : String
  expectedRevisionDate : Timestamp
  tokenDigest : String
  tokenCredentialGeneration : String
  nextEmail : String
  nextEmailNormalized : String
  nextMasterPasswordHash : String
  nextUserKey : String
  nextSecurityStamp : String
  nextRevisionDate : Timestamp
  auditEventId : String
  auditEvent : AuditEvent
  deriving DecidableEq, Repr

/-- `ChangeAccountEmailResult`. -/
inductive ChangeAccountEmailResult where
  | changed (revokedDeviceCount revokedRefreshTokenCount invalidatedAuthRequestCount
      updatedOrganizationMembershipCount : Nat)
  | conflict
  deriving DecidableEq, Repr

namespace ChangeAccountEmailInput

variable (fingerprint : String → String) (input : ChangeAccountEmailInput)

/-- The lifecycle token the change consumes. -/
def Token (t : AccountLifecycleToken) : Prop :=
  t.userId = input.userId ∧ t.purpose = .emailChange ∧ t.tokenDigest = input.tokenDigest ∧
    t.targetEmailNormalized = some input.nextEmailNormalized ∧
    t.credentialGeneration = input.tokenCredentialGeneration ∧ t.deliveryState = .accepted ∧
    input.nextRevisionDate < t.expiresAt ∧ t.Active

instance : DecidablePred input.Token := fun _ => inferInstanceAs (Decidable (_ ∧ _))

/-- Somebody else has the new address. -/
def Taken (db : Db) : Prop :=
  ∃ u ∈ db.users.rows, u.emailNormalized = input.nextEmailNormalized ∧ u.id ≠ input.userId

instance (db : Db) : Decidable (input.Taken db) :=
  inferInstanceAs (Decidable (∃ u ∈ db.users.rows, _))

/-- Another membership of one of the account's organizations has the new address. -/
def MemberTaken (db : Db) : Prop :=
  ∃ current ∈ db.organizationUsers.rows, ∃ target ∈ db.organizationUsers.rows,
    current.userId = some input.userId ∧ target.organizationId = current.organizationId ∧
    target.email.toLower = input.nextEmailNormalized ∧ target.id ≠ current.id

instance (db : Db) : Decidable (input.MemberTaken db) :=
  inferInstanceAs (Decidable (∃ current ∈ db.organizationUsers.rows, _))

/-- The account in the generation the request has seen. -/
def Expected (u : User) : Prop :=
  u.id = input.userId ∧ u.emailNormalized = input.expectedEmailNormalized ∧
    u.masterPasswordHash = input.expectedMasterPasswordHash ∧
    u.userKey = some input.expectedUserKey ∧ u.securityStamp = input.expectedSecurityStamp ∧
    u.revisionDate = input.expectedRevisionDate ∧ u.disabledAt = none

instance : DecidablePred input.Expected := fun _ => inferInstanceAs (Decidable (_ ∧ _))

/-- The account the request may change. -/
def Account (db : Db) (u : User) : Prop :=
  input.Expected u ∧ ¬ input.Taken db ∧ ¬ input.MemberTaken db ∧
    (¬ ∃ w ∈ db.wrapperHistory.rows, w.userId = input.userId ∧
      w.wrapperSha256 = fingerprint input.nextUserKey) ∧
    ∃ t ∈ db.accountLifecycleTokens.rows, input.Token t

instance (db : Db) : DecidablePred (input.Account fingerprint db) := fun _ =>
  inferInstanceAs (Decidable (_ ∧ _))

/-- The account in its new generation. -/
def change (u : User) : User :=
  { u with
    email := input.nextEmail
    emailNormalized := input.nextEmailNormalized
    emailVerifiedAt := some input.nextRevisionDate
    masterPasswordHash := input.nextMasterPasswordHash
    userKey := some input.nextUserKey
    securityStamp := input.nextSecurityStamp
    revisionDate := input.nextRevisionDate
    updatedAt := input.nextRevisionDate }

/-- `committedGenerationGuard`. -/
def Committed (db : Db) : Prop :=
  ∃ u ∈ db.users.rows, u.id = input.userId ∧ u.emailNormalized = input.nextEmailNormalized ∧
    u.securityStamp = input.nextSecurityStamp ∧ u.revisionDate = input.nextRevisionDate

instance (db : Db) : Decidable (input.Committed db) :=
  inferInstanceAs (Decidable (∃ u ∈ db.users.rows, _))

/-- The wrappers that are recorded: the old one and the new one. -/
def wrappers : List CredentialWrapper :=
  [⟨.userKey, fingerprint input.expectedUserKey⟩, ⟨.userKey, fingerprint input.nextUserKey⟩]

def changeUser : Statement Db :=
  Db.usersIn.updateTriggering (fun db _ => input.Account fingerprint db) (fun _ => input.change)
    (fun u => [[.text u.id]]) invalidateStaleUserKeyId

/-- The memberships take over the new address. -/
def changeMemberships : Statement Db :=
  Db.organizationUsersIn.update
    (fun db _ m => m.userId = some input.userId ∧ input.Committed db)
    fun _ m => { m with email := input.nextEmail, updatedAt := input.nextRevisionDate }

/-- The batch of `changeAccountEmail`. -/
def batch : List (Statement Db) :=
  [input.changeUser fingerprint,
    insertCredentialWrapperHistory (input.wrappers fingerprint) input.userId input.nextRevisionDate
      input.nextSecurityStamp input.nextRevisionDate,
    Db.accountLifecycleTokensIn.update (fun db _ t => input.Token t ∧ input.Committed db)
      fun _ t =>
        { t with consumedAt := some input.nextRevisionDate, updatedAt := input.nextRevisionDate },
    input.changeMemberships,
    Db.devicesIn.update
      (fun db _ d => d.userId = input.userId ∧ d.revokedAt = none ∧ input.Committed db)
      fun _ => Device.revoke input.nextRevisionDate,
    Db.refreshTokensIn.update
      (fun db _ t => t.userId = input.userId ∧ t.revokedAt = none ∧ input.Committed db)
      fun _ => RefreshToken.revoke input.nextRevisionDate,
    Db.authRequestsIn.update
      (fun db _ a => a.userId = some input.userId ∧
        (a.status = .pending ∨ a.status = .approved) ∧ input.Committed db)
      fun _ => AuthRequest.supersede input.nextRevisionDate,
    auditStatement input.auditEvent input.auditEventId fun db _ => input.Committed db]

/-- The wrappers the history says it recorded: of the account's kind, at most both, each once and
the new one among them. -/
def WrappersRecorded (wrapper : StatementResult) : Prop :=
  (wrapper.metaChanges = 1 ∨ wrapper.metaChanges = 2) ∧
    wrapper.rows.length = wrapper.metaChanges ∧ wrapper.rows.Nodup ∧
    (∀ row ∈ wrapper.rows, row = [.text "user_key", .text (fingerprint input.expectedUserKey)] ∨
      row = [.text "user_key", .text (fingerprint input.nextUserKey)]) ∧
    [.text "user_key", .text (fingerprint input.nextUserKey)] ∈ wrapper.rows

instance : DecidablePred (input.WrappersRecorded fingerprint) := fun _ =>
  inferInstanceAs (Decidable (_ ∧ _))

/-- The reading of the batch. -/
def interpret : List StatementResult → Except String ChangeAccountEmailResult
  | [user, wrapper, token, membership, device, refresh, authRequest, audit] =>
    match user.rows with
    | [] =>
      if ∃ result ∈ [wrapper, token, membership, device, refresh, authRequest, audit],
          result.metaChanges ≠ 0 then
        .error "account email change guard invariant was violated"
      else .ok .conflict
    | rows =>
      if rows ≠ [[.text input.userId]] ∨ ¬ input.WrappersRecorded fingerprint wrapper ∨
          token.metaChanges ≠ 1 ∨ audit.metaChanges ≠ 1 then
        .error "account email change did not commit one generation"
      else .ok (.changed device.metaChanges refresh.metaChanges authRequest.metaChanges
        membership.metaChanges)
  | _ => .error "account email change batch returned an invalid count"

end ChangeAccountEmailInput

/-- `changeAccountEmail`. -/
def changeAccountEmail (fingerprint : String → String) (input : ChangeAccountEmailInput) (db : Db) :
    Db × Except Failure ChangeAccountEmailResult :=
  if fingerprint input.expectedUserKey = fingerprint input.nextUserKey then (db, .ok .conflict)
  else commit (input.batch fingerprint) (input.interpret fingerprint) db

end HonoWarden
