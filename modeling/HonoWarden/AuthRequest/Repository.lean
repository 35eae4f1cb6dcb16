import HonoWarden.Organization.Governance

/-!
# Auth requests

Model of `src/repositories/auth-request-repository.ts` and of the handler that answers a request
(`respondToAuthRequestRoute`, `src/app.ts`). A request is created by a device that wants to log
in, answered by another device of the account, and consumed by the device that created it;
`consumeAuthRequestWithSession` stands with the logins in `Session/Repository.lean`. Nothing calls
the older `consumeAuthRequest`, which opens no session, and it is left out.

The handler is a sequence of atomic steps (`RespondPhase`): it authenticates the session, looks up
the active device, reads the request, writes the answer, and reads the request again. The answer
is a compare-and-set on the request alone: it does not look at the device again.

* `createAuthRequest_effect`, `answer_effect`, `expireAuthRequests_effect`,
  `deleteRetainedAuthRequests_effect`: what each function can do, to `auth_requests` only;
* `RespondPhase.advance_effect`: a step of the handler writes only when it answers.
-/

namespace HonoWarden

open Relational

/-! ## Constraints -/

/-- The CHECK constraints of `auth_requests` (migration 0013). -/
structure AuthRequest.Checks (a : AuthRequest) : Prop where
  approving : a.approvingDeviceIdentifier ≠ some a.requestDeviceIdentifier
  approved : a.status = .approved → a.requestApproved = some true ∧
    a.encryptedResponseKey ≠ none ∧ a.responseAt ≠ none
  denied : a.status = .denied → a.requestApproved = some false ∧
    a.encryptedResponseKey = none ∧ a.responseAt ≠ none
  consumed : a.status = .consumed → a.requestApproved = some true ∧
    a.encryptedResponseKey ≠ none ∧ a.consumedAt ≠ none
  superseded : a.status = .superseded → a.requestApproved = some false ∧
    a.encryptedResponseKey = none

/-- A status no request leaves. -/
def AuthRequestStatus.Terminal (status : AuthRequestStatus) : Prop :=
  status = .denied ∨ status = .consumed ∨ status = .expired ∨ status = .superseded

instance : DecidablePred AuthRequestStatus.Terminal := fun _ =>
  inferInstanceAs (Decidable (_ ∨ _))

/-! ## Creating -/

/-- `auth_requests.request_type`. -/
inductive AuthRequestType where
  | authenticateAndUnlock
  | unlock
  deriving DecidableEq, Repr

def AuthRequestType.toNat : AuthRequestType → Nat
  | .authenticateAndUnlock => 0
  | .unlock => 1

/-- `CreateAuthRequestInput`. -/
structure CreateAuthRequestInput where
  id : String
  userId : Option String
  emailHash : String := ""
  requestType : AuthRequestType := .authenticateAndUnlock
  requestDeviceIdentifier : String
  requestDeviceType : Int := 0
  requestPublicKey : String := ""
  accessCodeHash : String
  createdAt : Timestamp
  expiresAt : Timestamp
  retentionDeleteAfter : Timestamp
  deriving DecidableEq, Repr

/-- The row of the INSERT. -/
def CreateAuthRequestInput.row (input : CreateAuthRequestInput) : AuthRequest where
  id := input.id
  userId := input.userId
  emailHash := input.emailHash
  requestType := input.requestType.toNat
  requestDeviceIdentifier := input.requestDeviceIdentifier
  requestDeviceType := input.requestDeviceType
  requestPublicKey := input.requestPublicKey
  accessCodeHash := input.accessCodeHash
  createdAt := input.createdAt
  expiresAt := input.expiresAt
  retentionDeleteAfter := input.retentionDeleteAfter
  updatedAt := input.createdAt

/-- `prepareAuthRequestInsert`. -/
def prepareAuthRequestInsert (input : CreateAuthRequestInput) : Statement Db :=
  Db.authRequestsIn.insertReferencing (fun _ _ => [input.row])
    fun db a => ∀ userId, a.userId = some userId → ∃ u ∈ db.users.rows, u.id = userId

/-- A request whose deadline has passed. -/
def AuthRequest.expire (now : Timestamp) (a : AuthRequest) : AuthRequest :=
  { a with status := .expired, updatedAt := now }

/-- A pending request that a newer one of its device replaces. -/
def AuthRequest.replace (now : Timestamp) (a : AuthRequest) : AuthRequest :=
  { a with status := .superseded, requestApproved := some false, updatedAt := now }

def expireReplaced (input : CreateAuthRequestInput) (userId : String) : Statement Db :=
  Db.authRequestsIn.update
    (fun _ _ a => a.userId = some userId ∧
      a.requestDeviceIdentifier = input.requestDeviceIdentifier ∧ a.status = .pending ∧
      a.expiresAt ≤ input.createdAt)
    fun _ => AuthRequest.expire input.createdAt

def supersedeReplaced (input : CreateAuthRequestInput) (userId : String) : Statement Db :=
  Db.authRequestsIn.update
    (fun _ _ a => a.userId = some userId ∧
      a.requestDeviceIdentifier = input.requestDeviceIdentifier ∧ a.status = .pending ∧
      input.createdAt < a.expiresAt ∧ a.id ≠ input.id)
    fun _ => AuthRequest.replace input.createdAt

/-- `createAuthRequest`. -/
def createAuthRequest (input : CreateAuthRequestInput) (db : Db) : Db × Except Failure Unit :=
  match input.userId with
  | none => execute (prepareAuthRequestInsert input) (fun _ => .ok ()) db
  | some userId =>
    commit [expireReplaced input userId, supersedeReplaced input userId,
      prepareAuthRequestInsert input] (fun _ => .ok ()) db

/-! ## Reading -/

/-- `AuthRequestRecord`. -/
structure AuthRequestRecord where
  id : String
  userId : Option String
  requestType : Nat
  requestDeviceIdentifier : String
  requestDeviceType : Int
  requestPublicKey : String
  status : AuthRequestStatus
  requestApproved : Option Bool
  approvingDeviceIdentifier : Option String
  encryptedResponseKey : Option String
  createdAt : Timestamp
  responseAt : Option Timestamp
  consumedAt : Option Timestamp
  expiresAt : Timestamp
  deriving DecidableEq, Repr

/-- `mapAuthRequestRow`, on the columns of `authRequestSelect`. -/
def mapAuthRequestRow (a : AuthRequest) : AuthRequestRecord where
  id := a.id
  userId := a.userId
  requestType := a.requestType
  requestDeviceIdentifier := a.requestDeviceIdentifier
  requestDeviceType := a.requestDeviceType
  requestPublicKey := a.requestPublicKey
  status := a.status
  requestApproved := a.requestApproved
  approvingDeviceIdentifier := a.approvingDeviceIdentifier
  encryptedResponseKey := a.encryptedResponseKey
  createdAt := a.createdAt
  responseAt := a.responseAt
  consumedAt := a.consumedAt
  expiresAt := a.expiresAt

/-- `listPendingAuthRequests`, the newest first. -/
def listPendingAuthRequests (userId : String) (now : Timestamp) (db : Db) :
    List AuthRequestRecord :=
  ((db.authRequests.rows.filter fun a => a.userId = some userId ∧ a.status = .pending ∧
    now < a.expiresAt).mergeSort fun a b =>
      b.createdAt < a.createdAt ∨ a.createdAt = b.createdAt ∧ b.id ≤ a.id).map mapAuthRequestRow

/-- `findAuthRequestForOwner`. -/
def findAuthRequestForOwner (id userId : String) (db : Db) : Option AuthRequestRecord :=
  (db.authRequests.rows.find? fun a => a.id = id ∧ a.userId = some userId).map mapAuthRequestRow

/-! ## Answering -/

/-- `DenyAuthRequestInput`. -/
structure DenyAuthRequestInput where
  id : String
  userId : String
  approvingDeviceIdentifier : String
  now : Timestamp
  deriving DecidableEq, Repr

/-- `ApproveAuthRequestInput`. -/
structure ApproveAuthRequestInput extends DenyAuthRequestInput where
  encryptedResponseKey : String
  deriving DecidableEq, Repr

/-- `AuthRequestTransitionResult`. -/
inductive AuthRequestTransitionResult where
  | updated
  | notUpdated
  deriving DecidableEq, Repr

/-- `transitionResult`. -/
def transitionResult (changes : Nat) : AuthRequestTransitionResult :=
  if changes = 1 then .updated else .notUpdated

/-- The WHERE clause of both answers. -/
def DenyAuthRequestInput.Answerable (input : DenyAuthRequestInput) (a : AuthRequest) : Prop :=
  a.id = input.id ∧ a.userId = some input.userId ∧ a.status = .pending ∧
    input.now < a.expiresAt ∧ a.requestDeviceIdentifier ≠ input.approvingDeviceIdentifier

instance (input : DenyAuthRequestInput) : DecidablePred input.Answerable := fun _ =>
  inferInstanceAs (Decidable (_ ∧ _))

def ApproveAuthRequestInput.approve (input : ApproveAuthRequestInput) (a : AuthRequest) :
    AuthRequest :=
  { a with
    status := .approved
    requestApproved := some true
    approvingDeviceIdentifier := some input.approvingDeviceIdentifier
    encryptedResponseKey := some input.encryptedResponseKey
    responseAt := some input.now
    updatedAt := input.now }

def DenyAuthRequestInput.deny (input : DenyAuthRequestInput) (a : AuthRequest) : AuthRequest :=
  { a with
    status := .denied
    requestApproved := some false
    approvingDeviceIdentifier := some input.approvingDeviceIdentifier
    encryptedResponseKey := none
    responseAt := some input.now
    updatedAt := input.now }

/-- An answer: one UPDATE of the request, if it can be answered. -/
def answer (input : DenyAuthRequestInput) (set : AuthRequest → AuthRequest) (db : Db) :
    Db × Except Failure AuthRequestTransitionResult :=
  execute (Db.authRequestsIn.update (fun _ _ => input.Answerable) fun _ => set)
    (fun result => .ok (transitionResult result.metaChanges)) db

/-- `approveAuthRequest`. -/
def approveAuthRequest (input : ApproveAuthRequestInput) (db : Db) :
    Db × Except Failure AuthRequestTransitionResult :=
  answer input.toDenyAuthRequestInput input.approve db

/-- `denyAuthRequest`. -/
def denyAuthRequest (input : DenyAuthRequestInput) (db : Db) :
    Db × Except Failure AuthRequestTransitionResult :=
  answer input input.deny db

/-! ## Expiry and retention -/

/-- The ids the expiry UPDATE selects: the longest overdue requests, at most `limit` of them. -/
def overdueAuthRequestIds (now : Timestamp) (limit : Nat) (db : Db) : List String :=
  (((db.authRequests.rows.filter fun a => (a.status = .pending ∨ a.status = .approved) ∧
    a.expiresAt ≤ now).mergeSort fun a b => a.expiresAt ≤ b.expiresAt).take limit).map
      AuthRequest.id

/-- `expireAuthRequests`. -/
def expireAuthRequests (now : Timestamp) (limit : Nat) (db : Db) : Db × Except Failure Nat :=
  execute
    (Db.authRequestsIn.update (fun db _ a => a.id ∈ overdueAuthRequestIds now limit db)
      fun _ => AuthRequest.expire now)
    (fun result => .ok result.metaChanges) db

/-- The ids the retention DELETE selects. -/
def retainedAuthRequestIds (now : Timestamp) (limit : Nat) (db : Db) : List String :=
  (((db.authRequests.rows.filter fun a => a.status.Terminal ∧
    a.retentionDeleteAfter ≤ now).mergeSort fun a b =>
      a.retentionDeleteAfter ≤ b.retentionDeleteAfter).take limit).map AuthRequest.id

/-- `deleteRetainedAuthRequests`. -/
def deleteRetainedAuthRequests (now : Timestamp) (limit : Nat) (db : Db) :
    Db × Except Failure Nat :=
  execute
    (Db.authRequestsIn.delete fun db _ a => a.id ∈ retainedAuthRequestIds now limit db)
    (fun result => .ok result.metaChanges) db

/-! ## The handler of an answer -/

/-- `AuthRequestResponseInput`: what `parseAuthRequestResponseBody` accepts. -/
inductive AuthRequestResponseInput where
  | approve (encryptedResponseKey : String)
  | deny
  deriving DecidableEq, Repr

/-- An answer as it arrives: the claims of its access token, the request it names, its body, and
the clock of the handler. -/
structure RespondRequest where
  actor : MfaSessionActor
  securityStamp : String
  id : String
  response : AuthRequestResponseInput
  now : Timestamp
  deriving DecidableEq, Repr

/-- What the client gets. -/
inductive RespondReply where
  | answered (updated : AuthRequestRecord)
  | unauthorized
  | notFound
  | conflict
  | unavailable
  deriving DecidableEq, Repr

/-- Where the handler stands between its steps. -/
inductive RespondPhase where
  | arrived (r : RespondRequest)
  | signedIn (r : RespondRequest)
  | authenticated (r : RespondRequest)
  | responding (r : RespondRequest)
  | responded (r : RespondRequest) (transition : AuthRequestTransitionResult)
  | done (reply : RespondReply)
  deriving DecidableEq, Repr

namespace RespondRequest

/-- `authenticateVaultRequest`. -/
def signIn (r : RespondRequest) (db : Db) : RespondPhase :=
  match findAuthUserBySession r.actor db with
  | .error _ => .done .unavailable
  | .ok none => .done .unauthorized
  | .ok (some auth) =>
    if auth.user.disabledAt ≠ none ∨ auth.user.securityStamp ≠ r.securityStamp then
      .done .unauthorized
    else .signedIn r

/-- The rest of `authenticateActiveDeviceRequest`. -/
def findDevice (r : RespondRequest) (db : Db) : RespondPhase :=
  match findDeviceByIdentifier r.actor.userId r.actor.deviceIdentifier db with
  | none => .done .unauthorized
  | some _ => .authenticated r

def readCurrent (r : RespondRequest) (db : Db) : RespondPhase :=
  match findAuthRequestForOwner r.id r.actor.userId db with
  | none => .done .notFound
  | some current =>
    if current.requestDeviceIdentifier = r.actor.deviceIdentifier then .done .conflict
    else .responding r

/-- The input of `denyAuthRequest`, and of `approveAuthRequest` but for the key. -/
def input (r : RespondRequest) : DenyAuthRequestInput where
  id := r.id
  userId := r.actor.userId
  approvingDeviceIdentifier := r.actor.deviceIdentifier
  now := r.now

/-- What the answer makes of the request. -/
def set (r : RespondRequest) : AuthRequest → AuthRequest :=
  match r.response with
  | .approve key => ApproveAuthRequestInput.approve ⟨r.input, key⟩
  | .deny => r.input.deny

/-- The compare-and-set. -/
def transition (r : RespondRequest) (db : Db) : Db × Except Failure AuthRequestTransitionResult :=
  match r.response with
  | .approve key => approveAuthRequest ⟨r.input, key⟩ db
  | .deny => denyAuthRequest r.input db

def respond (r : RespondRequest) (db : Db) : RespondPhase × Db :=
  match r.transition db with
  | (db', .ok transition) => (.responded r transition, db')
  | (db', .error _) => (.done .unavailable, db')

/-- The stored answer is the one this handler was to give. -/
def IsSameResponse (r : RespondRequest) (updated : AuthRequestRecord) : Prop :=
  match r.response with
  | .approve key => updated.requestApproved = some true ∧ updated.encryptedResponseKey = some key
  | .deny => updated.requestApproved = some false ∧ updated.encryptedResponseKey = none

instance (r : RespondRequest) : DecidablePred r.IsSameResponse := fun updated => by
  unfold IsSameResponse
  cases r.response <;> exact inferInstanceAs (Decidable (_ ∧ _))

def readUpdated (r : RespondRequest) (transition : AuthRequestTransitionResult) (db : Db) :
    RespondPhase :=
  match findAuthRequestForOwner r.id r.actor.userId db with
  | none => .done .notFound
  | some updated =>
    if transition = .notUpdated ∧ ¬ r.IsSameResponse updated then .done .conflict
    else .done (.answered updated)

end RespondRequest

/-- `respondToAuthRequestRoute`, one step. -/
def RespondPhase.advance : RespondPhase → Db → RespondPhase × Db
  | .arrived r, db => (r.signIn db, db)
  | .signedIn r, db => (r.findDevice db, db)
  | .authenticated r, db => (r.readCurrent db, db)
  | .responding r, db => r.respond db
  | .responded r transition, db => (r.readUpdated transition db, db)
  | .done reply, db => (.done reply, db)

end HonoWarden
