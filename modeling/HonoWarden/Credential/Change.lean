import HonoWarden.Credential.Repository
import HonoWarden.Lifecycle.Changes
import HonoWarden.Rotation.Outcome

/-!
# Changes that end the sessions of an account

Six requests take an account to a new security stamp and end its sessions by the same statements:
the three of `CredentialMutation`, the rotation of the user key, the change of the address, and the
recoverable deletion. `AccountChange` is one of them.

* `AccountChange.reports`: the caller is told that the change has taken place;
* `AccountChanged`: the account has its next stamp, and none of its devices, refresh tokens and
  login requests is open any more.

**Headline**: `accountChange_signsOut`, a change does all of it, or it writes nothing and reports
nothing.
-/

namespace HonoWarden

open Relational

/-! ## The six requests -/

/-- A request that takes an account to a new security stamp. -/
inductive AccountChange where
  | credentials (mutation : CredentialMutation)
  | rotation (input : RotateUserKeyGenerationInput) (reads : SnapshotReads)
  | email (input : ChangeAccountEmailInput)
  | deletion (input : BeginRecoverableAccountDeletionInput)

namespace AccountChange

def userId : AccountChange → String
  | credentials mutation => mutation.input.userId
  | rotation input _ => input.userId
  | email input => input.userId
  | deletion input => input.userId

def nextSecurityStamp : AccountChange → String
  | credentials mutation => mutation.input.nextSecurityStamp
  | rotation input _ => input.nextSecurityStamp
  | email input => input.nextSecurityStamp
  | deletion input => input.nextSecurityStamp

/-- When the change takes place. -/
def now : AccountChange → Timestamp
  | credentials mutation => mutation.input.nextRevisionDate
  | rotation input _ => input.nextRevisionDate
  | email input => input.nextRevisionDate
  | deletion input => input.now

section Run

variable (C : Codec) (fingerprint : String → String)

def run : AccountChange → Db → Db
  | credentials mutation, db => (mutation.run fingerprint db).1
  | rotation input reads, db => (rotateUserKeyGeneration C fingerprint input reads db).1
  | email input, db => (changeAccountEmail fingerprint input db).1
  | deletion input, db => (beginRecoverableAccountDeletion input db).1

/-- The caller is told that the change has taken place. -/
def reports : AccountChange → Db → Bool
  | credentials mutation, db =>
    match (mutation.run fingerprint db).2 with
    | .ok (some _) => true
    | _ => false
  | rotation input reads, db =>
    match (rotateUserKeyGeneration C fingerprint input reads db).2 with
    | .ok (.rotated _ _ _ _ _ _ _) => true
    | _ => false
  | email input, db =>
    match (changeAccountEmail fingerprint input db).2 with
    | .ok (.changed _ _ _ _) => true
    | _ => false
  | deletion input, db =>
    match (beginRecoverableAccountDeletion input db).2 with
    | .ok (.recoverable _ _ _ _ _) => true
    | _ => false

end Run

end AccountChange

/-! ## What a change has done -/

/-- The devices of the account are revoked, and no device has changed its session or become
active. -/
def DevicesEnded (userId : String) (D D' : Table Device) : Prop :=
  ∀ d' ∈ D'.rows, ∃ d ∈ D.rows, d'.id = d.id ∧ d'.userId = d.userId ∧
    d'.identifier = d.identifier ∧ d'.sessionId = d.sessionId ∧
    (d'.revokedAt = none → d.revokedAt = none ∧ d.userId ≠ userId)

/-- The account has its next stamp, and its sessions have ended. -/
structure AccountChanged (userId nextStamp : String) (now : Timestamp) (db db' : Db) : Prop where
  stamp : ∃ next : User, next.securityStamp = nextStamp ∧
    Db.usersIn.row db' = Function.update (Db.usersIn.row db) userId (some next)
  devices : DevicesEnded userId db.devices db'.devices
  refreshTokens : db'.refreshTokens.rows =
    updateWhere (fun t => t.userId = userId ∧ t.revokedAt = none) (RefreshToken.revoke now)
      db.refreshTokens.rows
  authRequests : db'.authRequests.rows =
    updateWhere (fun a => a.userId = some userId ∧ (a.status = .pending ∨ a.status = .approved))
      (AuthRequest.supersede now) db.authRequests.rows

section Changed

variable {userId nextStamp : String} {now : Timestamp} {db db' : Db}

theorem SessionsEnded.devicesEnded (h : SessionsEnded userId now db db') :
    DevicesEnded userId db.devices db'.devices := by
  intro d' hd'
  rw [h.devices] at hd'
  rcases mem_updateWhere_cases hd' with ⟨hd, hnot⟩ | ⟨d, hd, -, rfl⟩
  · exact ⟨d', hd, rfl, rfl, rfl, rfl, fun hactive => ⟨hactive, fun huser => hnot ⟨huser, hactive⟩⟩⟩
  · exact ⟨d, hd, rfl, rfl, rfl, rfl, fun hactive => absurd hactive (Option.some_ne_none _)⟩

end Changed

/-! ## A change of credentials -/

theorem GenerationCommitted.accountChanged {input : RotateAccountSecurityStampInput} {next : User}
    {wrappers : List CredentialWrapper} {db db' : Db}
    (h : GenerationCommitted input next wrappers db db')
    (hstamp : next.securityStamp = input.nextSecurityStamp) :
    AccountChanged input.userId input.nextSecurityStamp input.nextRevisionDate db db' :=
  ⟨⟨next, hstamp, h.users⟩, h.sessions.devicesEnded, h.sessions.refreshTokens,
    h.sessions.authRequests⟩

section Cases

variable {fingerprint : String → String} {db : Db}

/-- What one of the three batches has done, from the three ways it can end. -/
theorem accountChanged_of_generation {input : RotateAccountSecurityStampInput}
    {out : Db × Except Failure (Option CredentialGenerationMutationResult)} {expected : User → Prop}
    {set : User → User} {wrappers : List CredentialWrapper}
    (hset : ∀ u, (set u).securityStamp = input.nextSecurityStamp)
    (h : (∃ e, out = (db, .error (.constraint e))) ∨
      (out = (db, .ok none) ∧ ∀ u, Db.usersIn.row db input.userId = some u → ¬ expected u) ∨
      ∃ u db', Db.usersIn.row db input.userId = some u ∧ expected u ∧
        GenerationCommitted input (u.settled (set u)) wrappers db db' ∧
        out = (db', .ok (some (mutationResult input.userId db)))) :
    (out.1 = db ∧ ∀ result, out.2 ≠ .ok (some result)) ∨
      AccountChanged input.userId input.nextSecurityStamp input.nextRevisionDate db out.1 := by
  rcases h with ⟨e, rfl⟩ | ⟨rfl, -⟩ | ⟨u, db', -, -, hcommitted, rfl⟩
  · exact Or.inl ⟨rfl, fun result h => by cases h⟩
  · exact Or.inl ⟨rfl, fun result h => by cases h⟩
  · exact Or.inr (hcommitted.accountChanged
      ((User.settled_securityStamp _ _).trans (hset u)))

theorem CredentialMutation.run_cases (mutation : CredentialMutation)
    (hfresh : ¬ mutation.input.Committed db) :
    ((mutation.run fingerprint db).1 = db ∧
      ∀ result, (mutation.run fingerprint db).2 ≠ .ok (some result)) ∨
      AccountChanged mutation.input.userId mutation.input.nextSecurityStamp
        mutation.input.nextRevisionDate db (mutation.run fingerprint db).1 := by
  cases mutation with
  | stamp input =>
    exact accountChanged_of_generation (fun _ => rfl)
      (RotateAccountSecurityStampInput.commitCredentialGenerationMutation_atomic input none db
        (rotateAccountSecurityStamp_writes input)
        (fun _ u hu => ⟨hu.1, rfl, hu.2.1, rfl, rfl⟩) (by rintro _ ⟨⟩) (by rintro _ ⟨⟩) hfresh)
  | password input =>
    exact accountChanged_of_generation (fun _ => rfl)
      (ChangeAccountMasterPasswordInput.changeGeneration_atomic
        (fun _ hu => ⟨rfl, hu, rfl, rfl⟩) (fun _ => rfl) hfresh)
  | kdf input =>
    exact accountChanged_of_generation (fun _ => rfl)
      (ChangeAccountMasterPasswordInput.changeGeneration_atomic
        (fun _ hu => ⟨rfl, hu, rfl, rfl⟩) (fun _ => rfl) hfresh)

/-! ## A rotation -/

/-- `d'` is the device `d`, perhaps with other keys. -/
def Device.SameSession (d d' : Device) : Prop :=
  d'.id = d.id ∧ d'.userId = d.userId ∧ d'.identifier = d.identifier ∧
    d'.sessionId = d.sessionId ∧ d'.revokedAt = d.revokedAt

theorem Device.SameSession.update {R R' : List Device} {hit : Device → Prop} [DecidablePred hit]
    {set : Device → Device} (h : ∀ d' ∈ R', ∃ d ∈ R, d.SameSession d')
    (hset : ∀ d : Device, d.SameSession (set d)) :
    ∀ d' ∈ updateWhere hit set R', ∃ d ∈ R, d.SameSession d' := by
  intro d' hd'
  rcases mem_updateWhere_cases hd' with ⟨hd, -⟩ | ⟨e, he, -, rfl⟩
  · exact h d' hd
  · obtain ⟨d, hd, hid, huser, hident, hsession, hrevoked⟩ := h e he
    obtain ⟨hid', huser', hident', hsession', hrevoked'⟩ := hset e
    exact ⟨d, hd, hid'.trans hid, huser'.trans huser, hident'.trans hident,
      hsession'.trans hsession, hrevoked'.trans hrevoked⟩

/-- A rotation ends the devices of the account, whatever it makes of their keys. -/
theorem rotateDevices_ended (input : RotateUserKeyGenerationInput)
    (items : List UserKeyRotationTrustedDevice) {D D' : Table Device}
    (hD' : D'.rows = rotateDevices input items D.rows) : DevicesEnded input.userId D D' := by
  have hrotate : ∀ d : Device, d.SameSession
      (rewriteFrom Device.id UserKeyRotationTrustedDevice.id input.rotateDevice items d) := by
    intro d
    rcases rewriteFrom_cases Device.id UserKeyRotationTrustedDevice.id input.rotateDevice items
      d with h | ⟨item, -, h⟩ <;> rw [h] <;> exact ⟨rfl, rfl, rfl, rfl, rfl⟩
  -- the two statements on keys leave everything else of a device as it is
  have hkeys : ∀ d' ∈ updateWhere (fun d => d.userId = input.userId ∧ d.revokedAt ≠ none ∧ d.Keyed)
      input.clearDevice (updateWhere (fun d => d.userId = input.userId ∧ d.revokedAt = none ∧
          d.Complete ∧ d.id ∈ items.map UserKeyRotationTrustedDevice.id)
        (rewriteFrom Device.id UserKeyRotationTrustedDevice.id input.rotateDevice items) D.rows),
      ∃ d ∈ D.rows, d.SameSession d' :=
    Device.SameSession.update (Device.SameSession.update
      (fun d hd => ⟨d, hd, rfl, rfl, rfl, rfl, rfl⟩) hrotate) fun _ => ⟨rfl, rfl, rfl, rfl, rfl⟩
  intro d' hd'
  rw [hD', rotateDevices] at hd'
  rcases mem_updateWhere_cases hd' with ⟨hmem, hnot⟩ | ⟨e, hmem, -, rfl⟩
  · obtain ⟨d, hd, hid, huser, hident, hsession, hrevoked⟩ := hkeys d' hmem
    exact ⟨d, hd, hid, huser, hident, hsession, fun hactive =>
      ⟨hrevoked ▸ hactive, fun hown => hnot ⟨huser.trans hown, hactive⟩⟩⟩
  · obtain ⟨d, hd, hid, huser, hident, hsession, -⟩ := hkeys e hmem
    exact ⟨d, hd, hid, huser, hident, hsession,
      fun hactive => absurd hactive (Option.some_ne_none _)⟩

theorem RotationCommitted.accountChanged {input : RotateUserKeyGenerationInput}
    {snapshot : RotationSnapshot} {manifests : RotationManifests} {u : User} {db' : Db}
    (h : RotationCommitted input snapshot manifests u db db') :
    AccountChanged input.userId input.nextSecurityStamp input.nextRevisionDate db db' :=
  ⟨⟨_, User.settled_securityStamp _ _, h.users⟩, rotateDevices_ended input _ h.devices,
    h.refreshTokens, h.authRequests⟩

theorem rotateUserKeyGeneration_cases {C : Codec} {input : RotateUserKeyGenerationInput}
    {reads : SnapshotReads} (hfresh : ¬ input.Committed db) :
    ((rotateUserKeyGeneration C fingerprint input reads db).1 = db ∧
      ∀ f c a t d r q, (rotateUserKeyGeneration C fingerprint input reads db).2 ≠
        .ok (.rotated f c a t d r q)) ∨
      AccountChanged input.userId input.nextSecurityStamp input.nextRevisionDate db
        (rotateUserKeyGeneration C fingerprint input reads db).1 := by
  unfold rotateUserKeyGeneration
  split
  · exact Or.inl ⟨rfl, by simp⟩
  split
  · exact Or.inl ⟨rfl, by simp⟩
  split
  · exact Or.inl ⟨rfl, by simp⟩
  · rename_i result hrefused
    exact Or.inl ⟨rfl, fun f c a t d r q h =>
      readUserKeyRotationSnapshot_refused hrefused f c a t d r q (Except.ok.inj h)⟩
  rename_i snapshot hready
  dsimp only
  split
  · exact Or.inl ⟨rfl, by simp⟩
  · exact Or.inl ⟨rfl, by simp⟩
  split
  · exact Or.inl ⟨rfl, by simp⟩
  rename_i manifests _
  split
  · exact Or.inl ⟨rfl, by simp⟩
  rcases commit_cases (mutationStatements input snapshot manifests)
    (interpretMutationResults input snapshot) db with ⟨hdb, e, he⟩ | ⟨db', results, hrun, hdb, hres⟩
  · exact Or.inl ⟨hdb, fun f c a t d r q h => by rw [he] at h; cases h⟩
  rw [hdb, hres]
  by_cases hhit : ∃ u, Db.usersIn.row db input.userId = some u ∧
      RotatableAccount input snapshot manifests db u
  · obtain ⟨u, hrow, hu⟩ := hhit
    exact Or.inr (mutationStatements_hit hrow hu (WrapperFingerprints.distinct
      (readUserKeyRotationSnapshot_ready hready).distinct) hrun).1.accountChanged
  · obtain ⟨rfl, hconflict⟩ :=
      mutationStatements_miss hfresh (fun u hu hh => hhit ⟨u, hu, hh⟩) hrun
    rw [hconflict]
    exact Or.inl ⟨rfl, by simp [Except.mapError]⟩

/-! ## The address and the deletion -/

theorem EmailChanged.accountChanged {input : ChangeAccountEmailInput} {u : User} {db' : Db}
    (h : EmailChanged fingerprint input u db db') :
    AccountChanged input.userId input.nextSecurityStamp input.nextRevisionDate db db' :=
  ⟨⟨_, User.settled_securityStamp _ _, h.users⟩, h.sessions.devicesEnded,
    h.sessions.refreshTokens, h.sessions.authRequests⟩

theorem DeletionBegun.accountChanged {input : BeginRecoverableAccountDeletionInput} {u : User}
    {db' : Db} (h : DeletionBegun input u db db') :
    AccountChanged input.userId input.nextSecurityStamp input.now db db' :=
  ⟨⟨_, rfl, h.users⟩, h.sessions.devicesEnded, h.sessions.refreshTokens, h.sessions.authRequests⟩

theorem changeAccountEmail_cases {input : ChangeAccountEmailInput}
    (hfresh : ¬ AtGeneration input.userId input.nextSecurityStamp input.nextRevisionDate db) :
    ((changeAccountEmail fingerprint input db).1 = db ∧
      ∀ d r q m, (changeAccountEmail fingerprint input db).2 ≠ .ok (.changed d r q m)) ∨
      AccountChanged input.userId input.nextSecurityStamp input.nextRevisionDate db
        (changeAccountEmail fingerprint input db).1 := by
  unfold changeAccountEmail
  split
  · exact Or.inl ⟨rfl, by simp⟩
  rename_i hne
  rcases commit_cases (input.batch fingerprint) (input.interpret fingerprint) db with
    ⟨hdb, e, he⟩ | ⟨db', results, hrun, hdb, hread⟩
  · exact Or.inl ⟨hdb, fun d r q m h => by rw [he] at h; cases h⟩
  rw [hdb, hread]
  rcases ChangeAccountEmailInput.batch_cases hne hfresh hrun with
    ⟨u, -, -, hchanged, -⟩ | ⟨-, rfl, hresult⟩
  · exact Or.inr hchanged.accountChanged
  · rw [hresult]
    exact Or.inl ⟨rfl, by simp [Except.mapError]⟩

theorem beginRecoverableAccountDeletion_cases {input : BeginRecoverableAccountDeletionInput}
    (hfresh : ¬ input.Disabled db) :
    ((beginRecoverableAccountDeletion input db).1 = db ∧
      ∀ g u d r q, (beginRecoverableAccountDeletion input db).2 ≠
        .ok (.recoverable g u d r q)) ∨
      AccountChanged input.userId input.nextSecurityStamp input.now db
        (beginRecoverableAccountDeletion input db).1 := by
  unfold beginRecoverableAccountDeletion
  rcases commit_cases input.batch input.interpret db with
    ⟨hdb, e, he⟩ | ⟨db', results, hrun, hdb, hread⟩
  · exact Or.inl ⟨hdb, fun g u d r q h => by rw [he] at h; cases h⟩
  rw [hdb, hread]
  rcases BeginRecoverableAccountDeletionInput.batch_cases hfresh hrun with
    ⟨u, -, -, -, hbegun, -⟩ | ⟨-, rfl, hresult⟩
  · exact Or.inr hbegun.accountChanged
  · rw [hresult]
    refine Or.inl ⟨rfl, fun g u d r q h => ?_⟩
    unfold BeginRecoverableAccountDeletionInput.refusedResult at h
    split at h <;> cases h

/-! ## Any of them -/

variable {C : Codec}

/-- **A change takes the account to its next stamp and ends its sessions**, or it writes nothing and
reports nothing. -/
theorem accountChange_signsOut (change : AccountChange)
    (hfresh : ∀ u ∈ db.users.rows, u.securityStamp ≠ change.nextSecurityStamp) :
    (change.run C fingerprint db = db ∧ change.reports C fingerprint db = false) ∨
      AccountChanged change.userId change.nextSecurityStamp change.now db
        (change.run C fingerprint db) := by
  cases change with
  | credentials mutation =>
    rcases @CredentialMutation.run_cases fingerprint db mutation
      fun ⟨u, hu, _, hstamp, _⟩ => hfresh u hu hstamp with ⟨hdb, hnot⟩ | hchanged
    · exact Or.inl ⟨hdb, by simp only [AccountChange.reports]⟩
    · exact Or.inr hchanged
  | rotation input reads =>
    rcases @rotateUserKeyGeneration_cases fingerprint db C input reads
      fun ⟨u, hu, _, hstamp, _⟩ => hfresh u hu hstamp with ⟨hdb, hnot⟩ | hchanged
    · exact Or.inl ⟨hdb, by simp only [AccountChange.reports]⟩
    · exact Or.inr hchanged
  | email input =>
    rcases @changeAccountEmail_cases fingerprint db input
      fun ⟨u, hu, _, hstamp, _⟩ => hfresh u hu hstamp with ⟨hdb, hnot⟩ | hchanged
    · exact Or.inl ⟨hdb, by simp only [AccountChange.reports]⟩
    · exact Or.inr hchanged
  | deletion input =>
    rcases @beginRecoverableAccountDeletion_cases db input
      fun ⟨u, hu, _, _, hstamp, _⟩ => hfresh u hu hstamp with ⟨hdb, hnot⟩ | hchanged
    · exact Or.inl ⟨hdb, by simp only [AccountChange.reports]⟩
    · exact Or.inr hchanged

end Cases

/-- The account that is signed in takes its next password. -/
theorem accountChange_signsOut_nextPassword :
    AccountChanged "owner" "next-stamp" 9 signedInDb
      ((AccountChange.credentials (.password nextPassword)).run oneNoteCodec (fun text => text)
        signedInDb) := by
  rcases @accountChange_signsOut (fun text => text) signedInDb oneNoteCodec
    (.credentials (.password nextPassword)) (by decide +kernel) with ⟨-, hsilent⟩ | hchanged
  · have hreported : (AccountChange.credentials (.password nextPassword)).reports oneNoteCodec
        (fun text => text) signedInDb = true := by decide +kernel
    exact absurd (hreported.symm.trans hsilent) Bool.noConfusion
  · exact hchanged

end HonoWarden
