import HonoWarden.Mfa.Effects
import HonoWarden.Relational.Run

/-!
# Rotating the TOTP wrapping secret

Model of the rewrap strategy of `scripts/honowarden-totp-secret-rotation.mjs`, beside the TOTP
requests of the accounts (`mfa-session-repository.ts`).

The script reads all rows of `user_totp` at once, encrypts every secret again under the new
wrapping secret, and then runs one UPDATE a row. The UPDATE names the active envelope the plan has
read; it writes both envelopes. One corrupt envelope, and it runs none of them.

Encryption is random, so an envelope is drawn like an id: `rotationSystem` runs the requests, the
reading and the writes in any order, and keeps beside the database the one that the requests alone
would have left. A request that names an envelope of the run stands there for the one it replaced.

Out of scope: forced re-enrolment, and other requests that write `user_totp`.
-/

namespace HonoWarden

open Relational

/-! ## Envelopes -/

/-- The two wrapping secrets, and `decryptTotpSecret`, which authenticates: no envelope opens under
both. -/
structure TotpSecrets where
  oldSecret : String
  newSecret : String
  decrypt : String → String → Option String
  authentic : ∀ envelope, decrypt oldSecret envelope = none ∨ decrypt newSecret envelope = none

/-- The secret in an envelope, under whichever wrapping secret opens it. -/
def TotpSecrets.reveal (S : TotpSecrets) (envelope : String) : Option String :=
  (S.decrypt S.oldSecret envelope).or (S.decrypt S.newSecret envelope)

/-- `next` holds under the new wrapping secret what `previous` holds under the old. -/
def TotpSecrets.Rewrapped (S : TotpSecrets) (previous next : String) : Prop :=
  ∃ secret, S.decrypt S.oldSecret previous = some secret ∧
    S.decrypt S.newSecret next = some secret

theorem TotpSecrets.Rewrapped.reveal {S : TotpSecrets} {previous next : String}
    (h : S.Rewrapped previous next) : S.reveal next = S.reveal previous := by
  obtain ⟨secret, hprevious, hnext⟩ := h
  have hold : S.decrypt S.oldSecret next = none := by
    rcases S.authentic next with hold | hnone
    · exact hold
    · rw [hnone] at hnext
      cases hnext
  unfold TotpSecrets.reveal
  rw [hprevious, hold, hnext]
  rfl

/-- The envelopes of a factor. -/
def UserTotp.envelopes (t : UserTotp) : List String :=
  t.encryptedSecret :: t.pendingEncryptedSecret.toList

/-- What a factor says of its account: the active secret, and the pending one if there is one. -/
def UserTotp.revealed (S : TotpSecrets) (t : UserTotp) :
    String × Option String × Option (Option String) :=
  (t.userId, S.reveal t.encryptedSecret, t.pendingEncryptedSecret.map S.reveal)

/-! ## The script -/

/-- A row as `normalizeRow` returns it. -/
structure TotpRow where
  userId : String
  encryptedSecret : String
  pendingEncryptedSecret : Option String
  deriving DecidableEq, Repr

def normalizeRow (t : UserTotp) : Option TotpRow :=
  if t.userId = "" ∨ t.encryptedSecret = "" then none
  else
    some
      { userId := t.userId
        encryptedSecret := t.encryptedSecret
        pendingEncryptedSecret := t.pendingEncryptedSecret.filter (· ≠ "") }

/-- A mutation plan, with the pending envelope it comes from. -/
structure MutationPlan where
  userId : String
  previousEncryptedSecret : String
  nextEncryptedSecret : String
  /-- What the row had when it was read; no statement compares it. -/
  pendingEncryptedSecret : Option String
  nextPendingEncryptedSecret : Option String
  deriving DecidableEq, Repr

section Script

variable (S : TotpSecrets)

/-- The plaintext of an envelope that is encrypted again as `next`. -/
def rewrapEnvelope (previous next : String) : Option String := do
  let plaintext ← S.decrypt S.oldSecret previous
  guard (plaintext ≠ "")
  guard (S.decrypt S.newSecret next = some plaintext)
  return next

/-- The pending envelope, if the row has one. -/
def rewrapPending (pending : Option String) (next : String) : Option (Option String) :=
  match pending with
  | none => some none
  | some previous => (rewrapEnvelope S previous next).map some

/-- The loop body of `buildRotationPlan`; `drawn` are the envelopes that `encryptTotpSecret`
returns for the active and for the pending secret. `none` is a corrupt row. -/
def planRow (row : TotpRow) (drawn : String × String) : Option MutationPlan := do
  let nextEncryptedSecret ← rewrapEnvelope S row.encryptedSecret drawn.1
  let nextPendingEncryptedSecret ← rewrapPending S row.pendingEncryptedSecret drawn.2
  return {
    userId := row.userId
    previousEncryptedSecret := row.encryptedSecret
    nextEncryptedSecret
    pendingEncryptedSecret := row.pendingEncryptedSecret
    nextPendingEncryptedSecret }

/-- `buildRotationPlan`; `none` is `not_ready`. -/
def buildRotationPlan (rows : List TotpRow) (drawn : List (String × String)) :
    Option (List MutationPlan) :=
  (rows.zip drawn).mapM fun pair => planRow S pair.1 pair.2

/-- `selectTotpRowsSql`. -/
def selectTotpRows (db : Db) : List UserTotp :=
  db.userTotp.rows.mergeSort fun t t' => t.userId ≤ t'.userId

/-- What the script is going to run: nothing, when a row is malformed or corrupt. -/
def planMutations (db : Db) (drawn : List (String × String)) : List MutationPlan :=
  (((selectTotpRows db).mapM normalizeRow).bind (buildRotationPlan S · drawn)).getD []

end Script

/-- The row the UPDATE of a plan meets. -/
def MutationPlan.Hits (plan : MutationPlan) (t : UserTotp) : Prop :=
  t.userId = plan.userId ∧ t.encryptedSecret = plan.previousEncryptedSecret

instance (plan : MutationPlan) : DecidablePred plan.Hits := fun _ =>
  inferInstanceAs (Decidable (_ ∧ _))

/-- The row the UPDATE leaves. -/
def MutationPlan.apply (plan : MutationPlan) (generatedAt : Timestamp) (t : UserTotp) : UserTotp :=
  { t with
    encryptedSecret := plan.nextEncryptedSecret
    pendingEncryptedSecret := plan.nextPendingEncryptedSecret
    updatedAt := generatedAt }

/-- `mutationSql`. -/
def mutationSql (plan : MutationPlan) (generatedAt : Timestamp) : Statement Db :=
  Db.userTotpIn.update (fun _ _ => plan.Hits) fun _ => plan.apply generatedAt

/-- One mutation of `executeMutationPlans`; nobody reads how many rows it changed. -/
def executeMutation (plan : MutationPlan) (generatedAt : Timestamp) (db : Db) :
    Db × Except Failure Unit :=
  execute (mutationSql plan generatedAt) (fun _ => .ok ()) db

/-! ## Requests -/

/-- The TOTP requests of an account that write an envelope or compare one. -/
inductive TotpCall where
  | setup (input : TotpSetupStartInput)
  | changeStart (input : TotpChangeStartInput)
  | enable (input : TotpEnrollmentInput) (generation : String)
  | promote (input : TotpPromotionInput) (generation : String)
  | disable (input : TotpDisableInput)

namespace TotpCall

def userId : TotpCall → String
  | setup input => input.userId
  | changeStart input => input.userId
  | enable input _ => input.userId
  | promote input _ => input.userId
  | disable input => input.userId

def run : TotpCall → Db → Db
  | setup input, db => (createPendingTotpSetupForSession input db).1
  | changeStart input, db => (startPendingTotpChangeForSession input db).1
  | enable input generation, db => (enableTotpSetupForSession input generation db).1
  | promote input generation, db => (promotePendingTotpChangeForSession input generation db).1
  | disable input, db => (disableTotpSetupForSession input db).1

/-- The envelope the request compares with the stored one. -/
def expected? : TotpCall → Option String
  | enable input _ => some input.expectedEncryptedSecret
  | promote input _ => some input.expectedPendingEncryptedSecret
  | _ => none

/-- The request with `name envelope` for the envelope it compares. -/
def naming (name : String → String) : TotpCall → TotpCall
  | enable input generation =>
    enable { input with expectedEncryptedSecret := name input.expectedEncryptedSecret } generation
  | promote input generation =>
    promote
      { input with expectedPendingEncryptedSecret := name input.expectedPendingEncryptedSecret }
      generation
  | call => call

/-- The envelope the request stores, which is random. -/
def draws : TotpCall → List String
  | setup input => [input.encryptedSecret]
  | changeStart input => [input.encryptedSecret]
  | _ => []

end TotpCall

/-! ## The system -/

/-- An envelope of an account that the run has replaced, and the one it wrote. -/
structure Rewrite where
  userId : String
  previous : String
  next : String
  deriving DecidableEq, Repr

/-- What the UPDATE of a plan replaces. -/
def MutationPlan.rewrites (plan : MutationPlan) : List Rewrite :=
  ⟨plan.userId, plan.previousEncryptedSecret, plan.nextEncryptedSecret⟩ ::
    match plan.pendingEncryptedSecret, plan.nextPendingEncryptedSecret with
    | some previous, some next => [⟨plan.userId, previous, next⟩]
    | _, _ => []

/-- The envelope that an account's envelope stands for. -/
def original (rewrites : List Rewrite) (userId envelope : String) : String :=
  ((rewrites.find? fun r => r.userId = userId ∧ r.next = envelope).map Rewrite.previous).getD
    envelope

structure RotationState where
  db : Db
  /-- The database that the requests alone have left. -/
  alone : Db
  /-- What the run has still to write, once it has read. -/
  plan : Option (List MutationPlan) := none
  /-- The envelopes the run has read or drawn. -/
  known : List String := []
  rewrites : List Rewrite := []

/-- Before the run. -/
def RotationState.start (db : Db) : RotationState where
  db := db
  alone := db

/-- Requests, the reading of the rows, one UPDATE, and what else happens to other tables. -/
inductive RotationStep where
  | request (call : TotpCall)
  | read (drawn : List (String × String))
  | write (generatedAt : Timestamp)
  | surroundings (other : Db → Db)

/-- The texts of drawn envelopes. -/
def drawnTexts (drawn : List (String × String)) : List String :=
  drawn.flatMap fun pair => [pair.1, pair.2]

/-- A write that neither reads nor writes the factors. -/
def besideFactors (other : Db → Db) (db : Db) : Db :=
  { other { db with userTotp := ∅ } with userTotp := db.userTotp }

namespace RotationStep

def exec (S : TotpSecrets) : RotationStep → RotationState → RotationState
  | request call, s =>
    { s with
      db := call.run s.db
      alone := (call.naming (original s.rewrites call.userId)).run s.alone }
  | read drawn, s =>
    -- The rows are read once, and two envelopes are drawn for each.
    if s.plan = none ∧ drawn.length = s.db.userTotp.rows.length ∧ (drawnTexts drawn).Nodup then
      { s with
        plan := some (planMutations S s.db drawn)
        known := s.db.userTotp.rows.flatMap UserTotp.envelopes ++ drawnTexts drawn }
    else s
  | write generatedAt, s =>
    match s.plan with
    | some (plan :: rest) =>
      { s with
        db := (executeMutation plan generatedAt s.db).1
        plan := some rest
        rewrites :=
          if ∃ t ∈ s.db.userTotp.rows, plan.Hits t then plan.rewrites ++ s.rewrites
          else s.rewrites }
    | _ => s
  | surroundings other, s =>
    { s with
      db := besideFactors other s.db
      alone := besideFactors other s.alone }

def draws : RotationStep → List String
  | request call => call.draws
  | read drawn => drawnTexts drawn
  | _ => []

/-- An UPDATE that meets its row finds there the pending envelope the run has read, and no request
compares an envelope the run has replaced. -/
def Undisturbed (s : RotationState) : RotationStep → Prop
  | request call => ∀ envelope ∈ call.expected?, ∀ r ∈ s.rewrites, r.userId = call.userId →
      r.previous ≠ envelope
  | write _ => ∀ plans ∈ s.plan, ∀ plan ∈ plans.head?, ∀ t ∈ s.db.userTotp.rows, plan.Hits t →
      t.pendingEncryptedSecret = plan.pendingEncryptedSecret
  | _ => True

instance (s : RotationState) : ∀ step : RotationStep, Decidable (step.Undisturbed s)
  | .request call => inferInstanceAs (Decidable (∀ envelope ∈ call.expected?, _))
  | .write _ => inferInstanceAs (Decidable (∀ plans ∈ s.plan, _))
  | .read _ | .surroundings _ => .isTrue trivial

end RotationStep

/-- A rewrap run among the requests of the accounts, in any order. -/
def rotationSystem (S : TotpSecrets) : System RotationState RotationStep String :=
  .ofFunction (RotationStep.exec S) RotationStep.draws

end HonoWarden
