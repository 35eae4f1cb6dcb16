import HonoWarden.AdminClient.Client
import HonoWarden.AdminClient.Keyring

/-!
# Overlapping syncs

Model of `sync` (`admin/browser/admin-client.ts`) in a finer grain than `AdminClient`: the view
with its organizations, the port with its worker, and every call of `sync` with the place it waits
at. A call replaces the keys in the worker first and compares `syncSequence` after the answer, so
a call that was overtaken meanwhile leaves its keys behind and drops its view.

What surrounds a `sync` is events: another method posts a command, publishes a view of the same
organizations, or ends the session; `login`, `verifyTotp` and `unlock` are the one event `signIn`
that ends them, with the port they have made. A fetch is its outcome, with or without the `reset`
of a refused token.
-/

namespace HonoWarden

open Web Relational

/-! ## Profiles and views -/

/-- A row of `Organizations` in a profile. -/
structure OrganizationRow where
  id : JsString
  name : JsString
  type : Int := 0
  status : Int := 2
  enabled : Bool := true
  key : JsString := []
  deriving DecidableEq, Repr

structure OrganizationView where
  id : JsString
  name : JsString
  role : Int
  deriving DecidableEq, Repr

structure ProfileBody where
  id : JsString
  email : JsString
  organizations : List OrganizationRow := []
  twoFactorEnabled : Bool := false
  emailVerified : Bool := false
  deriving DecidableEq, Repr

/-- The characters of `id`. -/
def IsIdUnit (c : CodeUnit) : Prop :=
  (48 ≤ c ∧ c ≤ 57) ∨ (65 ≤ c ∧ c ≤ 90) ∨ (97 ≤ c ∧ c ≤ 122) ∨ c = 95 ∨ c = 45

instance IsIdUnit.decidable : DecidablePred IsIdUnit := fun _ => inferInstanceAs (Decidable (_ ∨ _))

/-- What `id` lets through. -/
def IsId (value : JsString) : Prop :=
  1 ≤ value.length ∧ value.length ≤ 128 ∧ value.all (fun c => IsIdUnit c) = true

instance IsId.decidable : DecidablePred IsId := fun _ => inferInstanceAs (Decidable (_ ∧ _))

/-- The loop of `organizations`; `none` where it throws. -/
def readOrganizations : List OrganizationRow → List JsString →
    Option (List OrganizationView × List WrappedOrganization)
  | [], _ => some ([], [])
  | org :: rows, seen =>
    if ¬ IsId org.id ∨ org.id ∈ seen ∨ org.status ≠ 2 ∨ org.enabled ≠ true ∨
        1000 < org.name.length ∨ (org.type ≠ 0 ∧ org.type ≠ 1 ∧ org.type ≠ 2) ∨
        65536 < org.key.length then none
    else
      (readOrganizations rows (org.id :: seen)).map fun read =>
        ({ id := org.id, name := org.name, role := org.type } :: read.1,
          { id := org.id, key := org.key } :: read.2)

/-- `organizations` -/
def organizations (current : ProfileBody) :
    Option (List OrganizationView × List WrappedOrganization) :=
  if 10000 < current.organizations.length then none
  else readOrganizations current.organizations []

theorem readOrganizations_ids {rows : List OrganizationRow} {seen : List JsString}
    {read : List OrganizationView × List WrappedOrganization}
    (h : readOrganizations rows seen = some read) :
    read.1.map OrganizationView.id = read.2.map WrappedOrganization.id := by
  induction rows generalizing seen read with
  | nil =>
    obtain rfl := Option.some.inj h
    rfl
  | cons org rows ih =>
    unfold readOrganizations at h
    split_ifs at h
    obtain ⟨rest, hrest, rfl⟩ := Option.map_eq_some_iff.mp h
    rw [List.map_cons, List.map_cons, ih hrest]

/-- The views and the keys of a profile are of the same organizations. -/
theorem organizations_ids {current : ProfileBody}
    {read : List OrganizationView × List WrappedOrganization}
    (h : organizations current = some read) :
    read.1.map OrganizationView.id = read.2.map WrappedOrganization.id := by
  unfold organizations at h
  split_ifs at h
  exact readOrganizations_ids h

/-! ## The variables -/

/-- What `sync` reads and publishes of the `state`. -/
structure SyncView where
  phase : Phase := .signedOut
  email : Option JsString := none
  organizations : List OrganizationView := []
  mfaVerified : Bool := false
  mfaRequired : Bool := false
  totpEnabled : Bool := false
  emailVerified : Bool := false
  deriving DecidableEq, Repr

/-- The organizations of the view. -/
def SyncView.ids (view : SyncView) : List JsString := view.organizations.map OrganizationView.id

/-- Where a call of `sync` stands. -/
inductive SyncStage where
  /-- It awaits `fetchProfile()`. -/
  | profile
  /-- It awaits `assurance()`. -/
  | assurance (current : ProfileBody)
  /-- It awaits the answer of the worker to the command of this number. -/
  | called (current : ProfileBody) (verified : Bool) (id : Nat)
  /-- `cryptoCall` has its value; the rest of `sync` is queued. -/
  | returned (current : ProfileBody) (verified : Bool)
  /-- `cryptoCall` was rejected; the `catch` of `sync` is queued. -/
  | rejected (error : AdminError)
  | done
  deriving DecidableEq, Repr

structure SyncCall where
  expectedEpoch : Nat
  expectedSync : Nat
  verificationVersion : Nat
  stage : SyncStage := .profile
  /-- The organizations whose keys it has asked the worker for. -/
  handed : Option (List JsString) := none
  deriving DecidableEq, Repr

structure SyncClient (PrivateKey Key : Type) where
  state : SyncView := {}
  epoch : Nat := 0
  syncSequence : Nat := 0
  emailVerificationReadVersion : Nat := 0
  port : Option (CryptoWorker PrivateKey Key) := none
  /-- `tokens` is set. -/
  tokens : Bool := false
  profile : Option ProfileBody := none
  disposed : Bool := false
  /-- Every call of `sync`, in the order they were started. -/
  syncs : List SyncCall := []
  /-- The `expectedSync` of every view a sync has published. -/
  published : List Nat := []
  deriving DecidableEq, Repr

/-- What may happen next. -/
inductive SyncEvent (PrivateKey : Type) where
  | sync
  /-- A fetch of the call succeeds. -/
  | profile (call : Nat) (current : ProfileBody)
  | assurance (call : Nat) (verified : Bool)
  /-- A fetch of the call throws; `expired` when a `reset` has come first. -/
  | fails (call : Nat) (expired : Bool)
  /-- The worker takes a message, and its first answer arrives. -/
  | work
  | answer
  /-- The turn after the answer. -/
  | turn (call : Nat)
  /-- The worker fails, or an answer is a minute late. -/
  | die
  /-- Another method calls the worker. -/
  | operation (ok : Bool)
  | emailVerificationRead (verified : Bool)
  | mfa (required : Bool)
  | lock
  /-- `logout`, a page that goes away, or a refresh that is refused. -/
  | reset (expired : Bool)
  | dispose
  | signIn (privateKey : PrivateKey) (current : ProfileBody) (verified : Bool)
  deriving DecidableEq, Repr

namespace SyncClient

variable {PrivateKey Key : Type}

/-! ## What the methods share -/

def publish (w : SyncClient PrivateKey Key) (next : SyncView) : SyncClient PrivateKey Key :=
  { w with state := next }

/-- `request.reject(error)` -/
def rejectCall (error : AdminError) (call : SyncCall) : SyncCall :=
  match call.stage with
  | .called _ _ _ => { call with stage := .rejected error }
  | _ => call

/-- Every call of the port is rejected. -/
def rejectCalls (w : SyncClient PrivateKey Key) (error : AdminError) : SyncClient PrivateKey Key :=
  { w with syncs := w.syncs.map (rejectCall error) }

def stopCrypto (w : SyncClient PrivateKey Key) : SyncClient PrivateKey Key :=
  { w.rejectCalls .cancelled with port := none }

/-- `assertEpoch` throws. -/
def Cancelled (w : SyncClient PrivateKey Key) (expected : Nat) : Prop :=
  w.epoch ≠ expected ∨ w.disposed = true

instance (w : SyncClient PrivateKey Key) (expected : Nat) : Decidable (w.Cancelled expected) :=
  inferInstanceAs (Decidable (_ ∨ _))

def cancel (w : SyncClient PrivateKey Key) : SyncClient PrivateKey Key :=
  { w.stopCrypto with epoch := w.epoch + 1 }

def reset (w : SyncClient PrivateKey Key) (phase : Phase) : SyncClient PrivateKey Key :=
  { w.cancel with tokens := false, profile := none, state := { phase := phase } }

def lock (w : SyncClient PrivateKey Key) : SyncClient PrivateKey Key :=
  if w.tokens = false ∨ w.profile = none then w.reset .signedOut
  else { w.cancel with state := { phase := .locked, email := w.state.email } }

/-! ## `sync` -/

def setCall (w : SyncClient PrivateKey Key) (i : Nat) (call : SyncCall) :
    SyncClient PrivateKey Key :=
  { w with syncs := w.syncs.set i call }

def setStage (w : SyncClient PrivateKey Key) (i : Nat) (call : SyncCall) (stage : SyncStage) :
    SyncClient PrivateKey Key :=
  w.setCall i { call with stage := stage }

/-- `sync`, up to its first `await`. -/
def sync (w : SyncClient PrivateKey Key) : SyncClient PrivateKey Key :=
  if w.state.phase = .unlocked then
    { w with
      syncSequence := w.syncSequence + 1
      syncs := w.syncs ++
        [{ expectedEpoch := w.epoch
           expectedSync := w.syncSequence + 1
           verificationVersion := w.emailVerificationReadVersion }] }
  else w

/-- `assertEpoch(expectedEpoch)` throws, or the comparison of `syncSequence` returns. -/
def Stopped (w : SyncClient PrivateKey Key) (call : SyncCall) : Prop :=
  w.Cancelled call.expectedEpoch ∨ call.expectedSync ≠ w.syncSequence

instance (w : SyncClient PrivateKey Key) (call : SyncCall) : Decidable (w.Stopped call) :=
  inferInstanceAs (Decidable (_ ∨ _))

def afterProfile (w : SyncClient PrivateKey Key) (i : Nat) (call : SyncCall)
    (current : ProfileBody) : SyncClient PrivateKey Key :=
  if w.Stopped call then w.setStage i call .done else w.setStage i call (.assurance current)

/-- `cryptoCall({ action: 'organizations', … })` -/
def cryptoCall (w : SyncClient PrivateKey Key) (i : Nat) (call : SyncCall) (current : ProfileBody)
    (verified : Bool) (keys : List WrappedOrganization) : SyncClient PrivateKey Key :=
  match w.port with
  | none => w.setStage i call (.rejected .crypto)
  | some worker =>
    if worker.closed then w.setStage i call (.rejected .crypto)
    else
      { w.setCall i { call with
          stage := .called current verified (worker.nextId + 1)
          handed := some (keys.map WrappedOrganization.id) } with
        port := some (worker.post (.organizations keys)) }

def afterAssurance (w : SyncClient PrivateKey Key) (i : Nat) (call : SyncCall)
    (current : ProfileBody) (verified : Bool) : SyncClient PrivateKey Key :=
  if w.Stopped call then w.setStage i call .done
  else
    match organizations current with
    | none => w.setStage i call .done
    | some read => w.cryptoCall i call current verified read.2

/-- The rest of `sync`, from the answer of the worker. -/
def afterKeys (w : SyncClient PrivateKey Key) (i : Nat) (call : SyncCall) (current : ProfileBody)
    (verified : Bool) : SyncClient PrivateKey Key :=
  if w.Stopped call then w.setStage i call .done
  else
    match organizations current with
    | none => w.setStage i call .done
    | some read =>
      let sameAccount := w.profile.map ProfileBody.id = some current.id ∧
        w.profile.map ProfileBody.email = some current.email
      let current :=
        if call.verificationVersion ≠ w.emailVerificationReadVersion ∧ sameAccount then
          { current with emailVerified := w.state.emailVerified }
        else current
      { w.setStage i call .done with
        profile := some current
        state := { w.state with
          email := some current.email
          organizations := read.1
          mfaVerified := verified
          mfaRequired := if verified then false else w.state.mfaRequired
          totpEnabled := current.twoFactorEnabled
          emailVerified := current.emailVerified }
        published := w.published ++ [call.expectedSync] }

/-- The call resumes, or its `catch` does. -/
def turn (w : SyncClient PrivateKey Key) (i : Nat) (call : SyncCall) : SyncClient PrivateKey Key :=
  match call.stage with
  | .returned current verified => w.afterKeys i call current verified
  | .rejected error => (if error = .crypto then w.lock else w).setStage i call .done
  | _ => w

def fails (w : SyncClient PrivateKey Key) (i : Nat) (call : SyncCall) (expired : Bool) :
    SyncClient PrivateKey Key :=
  match call.stage with
  | .profile | .assurance _ => (if expired then w.reset .expired else w).setStage i call .done
  | _ => w

/-! ## The port -/

/-- The answer to the command of this number settles the call that waits for it. -/
def settle (id : Nat) (ok : Bool) (call : SyncCall) : SyncCall :=
  match call.stage with
  | .called current verified id' =>
    if id' = id then
      { call with stage := if ok then .returned current verified else .rejected .crypto }
    else call
  | _ => call

/-- The first answer of the worker arrives. -/
def answer (w : SyncClient PrivateKey Key) : SyncClient PrivateKey Key :=
  match w.port with
  | none => w
  | some worker =>
    match worker.replies with
    | [] => w
    | (id, ok) :: replies =>
      { w with
        port := some { worker with replies := replies }
        syncs := w.syncs.map (settle id ok) }

variable (unwrapRsa : PrivateKey → JsString → Option Key)

def work (w : SyncClient PrivateKey Key) : SyncClient PrivateKey Key :=
  { w with port := w.port.map (CryptoWorker.work unwrapRsa) }

def die (w : SyncClient PrivateKey Key) : SyncClient PrivateKey Key :=
  { w.rejectCalls .crypto with port := w.port.map CryptoWorker.dispose }

def operation (w : SyncClient PrivateKey Key) (ok : Bool) : SyncClient PrivateKey Key :=
  { w with
    port := w.port.map fun worker =>
      if worker.closed then worker else worker.post (.operation ok) }

/-! ## The session -/

/-- The end of `login`, `verifyTotp` and `unlock`: the worker has unlocked the account. -/
def signIn (w : SyncClient PrivateKey Key) (privateKey : PrivateKey) (current : ProfileBody)
    (verified : Bool) : SyncClient PrivateKey Key :=
  if w.state.phase ≠ .unlocked ∧ w.disposed = false then
    match organizations current with
    | none => w
    | some read =>
      let unlocked := Keyring.unlock unwrapRsa (some privateKey) read.2
      if unlocked.2 then
        { w with
          port := some { keyring := unlocked.1 }
          tokens := true
          profile := some current
          state :=
            { phase := .unlocked
              email := some current.email
              organizations := read.1
              mfaVerified := verified
              totpEnabled := current.twoFactorEnabled
              emailVerified := current.emailVerified } }
      else w
  else w

def emailVerificationRead (w : SyncClient PrivateKey Key) (verified : Bool) :
    SyncClient PrivateKey Key :=
  { w.publish { w.state with emailVerified := verified } with
    emailVerificationReadVersion := w.emailVerificationReadVersion + 1
    profile := w.profile.map fun profile => { profile with emailVerified := verified } }

end SyncClient

namespace SyncEvent

variable {PrivateKey Key : Type} (unwrapRsa : PrivateKey → JsString → Option Key)

def exec : SyncEvent PrivateKey → SyncClient PrivateKey Key → SyncClient PrivateKey Key
  | sync, w => w.sync
  | profile i current, w =>
    match w.syncs[i]? with
    | none => w
    | some call => if call.stage = .profile then w.afterProfile i call current else w
  | assurance i verified, w =>
    match w.syncs[i]? with
    | none => w
    | some call =>
      match call.stage with
      | .assurance current => w.afterAssurance i call current verified
      | _ => w
  | fails i expired, w =>
    match w.syncs[i]? with
    | none => w
    | some call => w.fails i call expired
  | work, w => w.work unwrapRsa
  | answer, w => w.answer
  | turn i, w =>
    match w.syncs[i]? with
    | none => w
    | some call => w.turn i call
  | die, w => w.die
  | operation ok, w => w.operation ok
  | emailVerificationRead verified, w => w.emailVerificationRead verified
  | mfa required, w =>
    w.publish { w.state with mfaRequired := required, mfaVerified := !required }
  | lock, w => w.lock
  | reset expired, w => w.reset (if expired then .expired else .signedOut)
  | dispose, w => { w.reset .signedOut with disposed := true }
  | signIn privateKey current verified, w => w.signIn unwrapRsa privateKey current verified

end SyncEvent

/-- The syncs of a client, its worker and its surroundings in any order. -/
def syncSystem {PrivateKey Key : Type} (unwrapRsa : PrivateKey → JsString → Option Key) :
    System (SyncClient PrivateKey Key) (SyncEvent PrivateKey) Empty :=
  .ofFunction (SyncEvent.exec unwrapRsa) fun _ => []

/-- The client as it is created. -/
def syncStart {PrivateKey Key : Type} : Config (SyncClient PrivateKey Key) Empty := { state := {} }

end HonoWarden
