import HonoWarden.Schema
import HonoWarden.Relational.Query

/-!
# Passkeys and their challenges

Model of `src/repositories/webauthn-repository.ts` with the tables of migration 0015.

`PasskeyDb` holds the two tables in full and the ids of the accounts they refer to. Every function
that writes is here; the reads stand where a write's result depends on them.
-/

namespace HonoWarden

open Relational

/-- `WebAuthnChallengePurpose`. -/
inductive WebAuthnChallengePurpose where
  | registration
  | authentication
  | prfKeySet
  deriving DecidableEq, Repr

/-- `WebAuthnCredentialRecord`, which is also the row but for `updated_at`. -/
structure WebAuthnCredentialRecord where
  id : String
  userId : String
  credentialId : String
  publicKey : String
  userHandle : String
  signCount : Int
  transports : List String
  aaguid : String
  discoverable : Bool
  backupEligible : Bool
  backupState : Bool
  prfSupported : Bool
  encryptedUserKey : Option String
  encryptedPublicKey : Option String
  encryptedPrivateKey : Option String
  name : String
  createdAt : Timestamp
  revisionDate : Timestamp
  lastUsedAt : Option Timestamp
  deriving DecidableEq, Repr

/-- A row of `webauthn_credentials`. -/
structure PasskeyRow extends WebAuthnCredentialRecord where
  updatedAt : Timestamp
  deriving DecidableEq, Repr

/-- The primary key, and `credential_id TEXT NOT NULL UNIQUE`. -/
instance : Keyed PasskeyRow String where
  key a := a.id
  alternate a b := a.credentialId = b.credentialId
  alternate_symm h := h.symm
  decKey _ _ := inferInstance
  decAlternate a b := inferInstanceAs (Decidable (a.credentialId = b.credentialId))

/-- `WebAuthnChallengeRecord`, a row of `webauthn_challenges`. -/
structure WebAuthnChallengeRecord where
  id : String
  tokenHash : String
  challengeHash : String
  purpose : WebAuthnChallengePurpose
  userId : Option String
  credentialId : Option String
  rpId : String
  originPolicyVersion : String
  expiresAt : Timestamp
  consumedAt : Option Timestamp
  createdAt : Timestamp
  retentionDeleteAfter : Timestamp
  deriving DecidableEq, Repr

/-- The primary key, and `token_hash TEXT NOT NULL UNIQUE`. -/
instance : Keyed WebAuthnChallengeRecord String where
  key := WebAuthnChallengeRecord.id
  alternate a b := a.tokenHash = b.tokenHash
  alternate_symm h := h.symm
  decKey _ _ := inferInstance
  decAlternate a b := inferInstanceAs (Decidable (a.tokenHash = b.tokenHash))

structure PasskeyDb where
  users : List String := []
  webauthnCredentials : Table PasskeyRow := ∅
  webauthnChallenges : Table WebAuthnChallengeRecord := ∅
  deriving DecidableEq

namespace PasskeyDb

abbrev webauthnCredentialsIn : TableIn PasskeyDb PasskeyRow where
  name := "webauthn_credentials"
  get db := db.webauthnCredentials
  put db t := { db with webauthnCredentials := t }
  get_put _ _ := rfl
  put_get _ := rfl

abbrev webauthnChallengesIn : TableIn PasskeyDb WebAuthnChallengeRecord where
  name := "webauthn_challenges"
  get db := db.webauthnChallenges
  put db t := { db with webauthnChallenges := t }
  get_put _ _ := rfl
  put_get _ := rfl

end PasskeyDb

def webAuthnMaxCredentialsPerUser : Nat := 5

/-! ## Constraints -/

/-- The CHECKs of `webauthn_credentials` that the types leave open. -/
def WebAuthnCredentialRecord.Valid (c : WebAuthnCredentialRecord) : Prop :=
  0 ≤ c.signCount ∧ 0 < c.name.length ∧ c.name.length ≤ 64 ∧
    (c.encryptedUserKey.isSome ∧ c.encryptedPublicKey.isSome ∧ c.encryptedPrivateKey.isSome ∨
      c.encryptedUserKey = none ∧ c.encryptedPublicKey = none ∧ c.encryptedPrivateKey = none)

instance (c : WebAuthnCredentialRecord) : Decidable c.Valid :=
  inferInstanceAs (Decidable (_ ∧ _))

/-- The foreign key of a challenge. -/
def WebAuthnChallengeRecord.Refers (db : PasskeyDb) (k : WebAuthnChallengeRecord) : Prop :=
  ∀ u ∈ k.userId, u ∈ db.users

instance (db : PasskeyDb) : DecidablePred (WebAuthnChallengeRecord.Refers db) := fun k =>
  inferInstanceAs (Decidable (∀ u ∈ k.userId, u ∈ db.users))

/-- The CHECKs of `webauthn_challenges`. -/
def WebAuthnChallengeRecord.Valid (k : WebAuthnChallengeRecord) : Prop :=
  (k.purpose = .authentication ∨ k.userId ≠ none) ∧ (k.purpose ≠ .prfKeySet ∨ k.credentialId ≠ none)

instance (k : WebAuthnChallengeRecord) : Decidable k.Valid :=
  inferInstanceAs (Decidable (_ ∧ _))

/-! ## Challenges -/

/-- `issueWebAuthnChallenge`. -/
def issueWebAuthnChallenge (input : WebAuthnChallengeRecord) (db : PasskeyDb) :
    PasskeyDb × Except Failure Unit :=
  execute ((PasskeyDb.webauthnChallengesIn.insertReferencing
    (fun _ _ => [{ input with consumedAt := none }]) WebAuthnChallengeRecord.Refers).checked
      input.Valid) (fun _ => .ok ()) db

/-- `ConsumeWebAuthnChallengeInput`. -/
structure ConsumeWebAuthnChallengeInput where
  tokenHash : String
  purpose : WebAuthnChallengePurpose
  rpId : String
  originPolicyVersion : String
  userId : String
  credentialId : Option String
  consumedAt : Timestamp
  now : Timestamp
  challengeHash : Option String
  deriving DecidableEq, Repr

namespace ConsumeWebAuthnChallengeInput

variable (input : ConsumeWebAuthnChallengeInput)

/-- The condition on the challenge, but for its hash. -/
def Matches (k : WebAuthnChallengeRecord) : Prop :=
  k.tokenHash = input.tokenHash ∧ k.purpose = input.purpose ∧ k.rpId = input.rpId ∧
    k.originPolicyVersion = input.originPolicyVersion ∧ k.consumedAt = none ∧
    input.now < k.expiresAt ∧ (k.userId = none ∨ k.userId = some input.userId) ∧
    k.credentialId = input.credentialId

instance : DecidablePred input.Matches := fun _ => inferInstanceAs (Decidable (_ ∧ _))

/-- `challengeHashPredicate`: an input without a hash, or with an empty one, compares none. -/
def MatchesHash (k : WebAuthnChallengeRecord) : Prop :=
  ∀ h ∈ input.challengeHash, h ≠ "" → k.challengeHash = h

instance : DecidablePred input.MatchesHash := fun k =>
  inferInstanceAs (Decidable (∀ h ∈ input.challengeHash, h ≠ "" → k.challengeHash = h))

def consume (k : WebAuthnChallengeRecord) : WebAuthnChallengeRecord :=
  { k with consumedAt := some input.consumedAt, userId := some (k.userId.getD input.userId) }

end ConsumeWebAuthnChallengeInput

/-- `consumeWebAuthnChallenge`: whether the challenge was consumed. -/
def consumeWebAuthnChallenge (input : ConsumeWebAuthnChallengeInput) (db : PasskeyDb) :
    PasskeyDb × Except Failure Bool :=
  execute (PasskeyDb.webauthnChallengesIn.updateReferencing
    (fun _ _ k => input.Matches k ∧ input.MatchesHash k) (fun _ => input.consume)
    WebAuthnChallengeRecord.Refers) (fun r => .ok (r.metaChanges = 1)) db

/-- The challenges the cleanup picks. -/
def expiredWebAuthnChallenges (expiredBefore : Timestamp) (limit : Nat) (db : PasskeyDb) :
    List String :=
  (((db.webauthnChallenges.rows.filter fun k => k.retentionDeleteAfter ≤ expiredBefore).mergeSort
    fun a b => a.retentionDeleteAfter ≤ b.retentionDeleteAfter).take limit).map
      WebAuthnChallengeRecord.id

def cleanupExpiredWebAuthnChallenges (expiredBefore : Timestamp) (limit : Nat) (db : PasskeyDb) :
    PasskeyDb × Except Failure Nat :=
  execute (PasskeyDb.webauthnChallengesIn.delete fun db _ k =>
    k.id ∈ expiredWebAuthnChallenges expiredBefore limit db) (fun r => .ok r.metaChanges) db

/-! ## Credentials -/

/-- How many passkeys a user has. -/
def PasskeyDb.credentialCount (db : PasskeyDb) (userId : String) : Nat :=
  db.webauthnCredentials.rows.countP fun c => c.userId = userId

/-- A passkey with this credential id exists. -/
def PasskeyDb.HasCredential (db : PasskeyDb) (credentialId : String) : Prop :=
  ∃ c ∈ db.webauthnCredentials.rows, c.credentialId = credentialId

instance (db : PasskeyDb) (credentialId : String) : Decidable (db.HasCredential credentialId) :=
  inferInstanceAs (Decidable (∃ c ∈ db.webauthnCredentials.rows, _))

/-- `INSERT INTO webauthn_credentials … SELECT … WHERE condition`. -/
def insertCredential (credential : WebAuthnCredentialRecord) (condition : PasskeyDb → Nat → Prop)
    [∀ db n, Decidable (condition db n)] : Statement PasskeyDb :=
  (PasskeyDb.webauthnCredentialsIn.insertReferencing
    (fun db n =>
      if condition db n then [{ credential with updatedAt := credential.revisionDate }] else [])
    fun db c => c.userId ∈ db.users).checked credential.Valid

/-- `createWebAuthnCredential`: whether the credential was created; else the limit is reached. -/
def createWebAuthnCredential (input : WebAuthnCredentialRecord) (db : PasskeyDb) :
    PasskeyDb × Except Failure Bool :=
  execute (insertCredential input fun db _ =>
    db.credentialCount input.userId < webAuthnMaxCredentialsPerUser)
    (fun r => .ok (r.metaChanges = 1)) db

/-- `SuccessfulWebAuthnAssertionInput`. -/
structure SuccessfulWebAuthnAssertionInput where
  id : String
  userId : String
  nextSignCount : Int
  backupEligible : Bool
  backupState : Bool
  now : Timestamp
  deriving DecidableEq, Repr

/-- `recordSuccessfulWebAuthnAssertion`: whether the credential was updated. -/
def recordSuccessfulWebAuthnAssertion (input : SuccessfulWebAuthnAssertionInput) (db : PasskeyDb) :
    PasskeyDb × Except Failure Bool :=
  execute ((PasskeyDb.webauthnCredentialsIn.update
      (fun _ _ c => c.id = input.id ∧ c.userId = input.userId ∧
        (c.signCount = 0 ∧ input.nextSignCount = 0 ∨ c.signCount < input.nextSignCount))
      fun _ c =>
        { c with
          signCount := input.nextSignCount
          backupEligible := input.backupEligible
          backupState := input.backupState
          lastUsedAt := some input.now
          revisionDate := input.now
          updatedAt := input.now }).checked (0 ≤ input.nextSignCount))
    (fun r => .ok (r.metaChanges = 1)) db

/-- `RenameWebAuthnCredentialInput`. -/
structure RenameWebAuthnCredentialInput where
  id : String
  userId : String
  name : String
  revisionDate : Timestamp
  deriving DecidableEq, Repr

/-- `renameWebAuthnCredential`: whether the credential was updated. -/
def renameWebAuthnCredential (input : RenameWebAuthnCredentialInput) (db : PasskeyDb) :
    PasskeyDb × Except Failure Bool :=
  execute ((PasskeyDb.webauthnCredentialsIn.update
      (fun _ _ c => c.id = input.id ∧ c.userId = input.userId)
      fun _ c =>
        { c with
          name := input.name
          revisionDate := input.revisionDate
          updatedAt := input.revisionDate }).checked
      (0 < input.name.length ∧ input.name.length ≤ 64))
    (fun r => .ok (r.metaChanges = 1)) db

/-- `deleteWebAuthnCredential`: whether the credential was deleted. -/
def deleteWebAuthnCredential (id userId : String) (db : PasskeyDb) :
    PasskeyDb × Except Failure Bool :=
  execute (PasskeyDb.webauthnCredentialsIn.delete fun _ _ c => c.id = id ∧ c.userId = userId)
    (fun r => .ok (r.metaChanges = 1)) db

/-! ## Registration -/

/-- `CompleteWebAuthnRegistrationInput`; `challengeHash` is that of `consume`, which is always
there. -/
structure CompleteWebAuthnRegistrationInput where
  consume : ConsumeWebAuthnChallengeInput
  challengeHash : String
  credential : WebAuthnCredentialRecord
  deriving DecidableEq, Repr

inductive CompleteWebAuthnRegistrationResult where
  | created (credential : WebAuthnCredentialRecord)
  | notConsumed
  | limitReached
  | duplicateCredential
  deriving DecidableEq, Repr

namespace CompleteWebAuthnRegistrationInput

variable (input : CompleteWebAuthnRegistrationInput)

/-- The condition on the challenge and on the credentials. -/
def Consumes (db : PasskeyDb) (k : WebAuthnChallengeRecord) : Prop :=
  input.consume.Matches k ∧ k.challengeHash = input.challengeHash ∧
    db.credentialCount input.consume.userId < webAuthnMaxCredentialsPerUser ∧
    ¬ db.HasCredential input.credential.credentialId

instance (db : PasskeyDb) : DecidablePred (input.Consumes db) := fun _ =>
  inferInstanceAs (Decidable (_ ∧ _))

/-- The condition of the insertion, after `changes()`. -/
def Inserts (db : PasskeyDb) (changes : Nat) : Prop :=
  changes = 1 ∧ db.credentialCount input.credential.userId < webAuthnMaxCredentialsPerUser ∧
    (∃ k ∈ db.webauthnChallenges.rows, k.tokenHash = input.consume.tokenHash ∧
      k.challengeHash = input.challengeHash ∧ k.consumedAt = some input.consume.consumedAt ∧
      k.purpose = input.consume.purpose) ∧
    ¬ db.HasCredential input.credential.credentialId

instance (db : PasskeyDb) (changes : Nat) : Decidable (input.Inserts db changes) :=
  inferInstanceAs (Decidable (_ ∧ _ ∧ (∃ k ∈ db.webauthnChallenges.rows, _) ∧ _))

/-- The batch of `completeWebAuthnRegistration`. -/
def batch : List (Statement PasskeyDb) :=
  [PasskeyDb.webauthnChallengesIn.updateReferencing (fun db _ k => input.Consumes db k)
      (fun _ => input.consume.consume) WebAuthnChallengeRecord.Refers,
    insertCredential input.credential fun db changes => input.Inserts db changes]

/-- Whether the batch consumed a challenge, and whether it created the credential. -/
def readBatch : List StatementResult → Bool × Bool
  | consume :: insert :: _ => (consume.metaChanges = 1, insert.metaChanges = 1)
  | _ => (false, false)

/-- Why nothing was created, from the passkeys of the user. -/
def rejection (db : PasskeyDb) : CompleteWebAuthnRegistrationResult :=
  if webAuthnMaxCredentialsPerUser ≤
      min (db.credentialCount input.credential.userId) webAuthnMaxCredentialsPerUser then
    .limitReached
  else if ∃ c ∈ db.webauthnCredentials.rows, c.userId = input.credential.userId ∧
      c.credentialId = input.credential.credentialId then .duplicateCredential
  else .notConsumed

end CompleteWebAuthnRegistrationInput

/-- `completeWebAuthnRegistration`; `reread` is the database when the passkeys of the user are
listed, after the batch. -/
def completeWebAuthnRegistration (input : CompleteWebAuthnRegistrationInput) (reread : PasskeyDb)
    (db : PasskeyDb) : PasskeyDb × Except Failure CompleteWebAuthnRegistrationResult :=
  match runBatch input.batch db with
  | .error (.unique "webauthn_credentials") => (db, .ok .duplicateCredential)
  | .error e => (db, .error (.constraint e))
  | .ok (db', results) =>
    match CompleteWebAuthnRegistrationInput.readBatch results with
    | (true, true) => (db', .ok (.created input.credential))
    | (false, true) => (db', .ok .notConsumed)
    | _ => (db', .ok (input.rejection reread))

end HonoWarden
