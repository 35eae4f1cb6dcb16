import HonoWarden.Session.Lookup

/-!
# Two refresh requests that present one token

Model of the `refresh_token` grant of `POST /identity/connect/token` (`src/app.ts`). A request is a
sequence of atomic steps: the lookup, the rotation batch, and the clean-up batch when the token
turned out revoked or the rotation did not replace it. `refreshRace` interleaves the steps of two
requests with logins of any account and device and with writes of other requests to other tables.

A request refused at its lookup (expired token, revoked device, disabled account, a row from
before sessions were bound) or whose lookup throws answers without any clean-up; both tokens of a
pair refused so stay as they were (`refreshReuse_expired_survives`).

**Headline**: `refreshReuse_kills_family`. At most one of the two is rotated; when both are done
and neither stopped at its lookup, the family of the token is dead; and every other family,
whenever it was opened, keeps its tokens and its active device.
-/

namespace HonoWarden

open Relational

/-! ## The request -/

/-- `refreshTokenTtlSeconds`. -/
def refreshTokenTtlSeconds : Nat := 60 * 60 * 24 * 30

/-- What the client gets. The last two answer 503. -/
inductive RefreshReply where
  | rotated
  | reuseDetected
  | refused
  | lookupFailed
  | rotationFailed
  deriving DecidableEq, Repr

/-- Where a request stands between its steps. -/
inductive RefreshPhase where
  | started
  | rotating (session : RefreshTokenSession) (sessionId : String) (issuedAt : Nat)
  | cleaning (session : RefreshTokenSession) (sessionId : String) (issuedAt : Nat)
  | done (reply : RefreshReply)
  deriving DecidableEq, Repr

section Request

-- whether `buildAccountKeyProjection` returns for this account, rather than throws
variable (projects : AuthUserRecord → Bool)

/-- The lookup and the checks that follow it; `issuedAt` counts seconds. -/
def refreshLookup (tokenHash : String) (issuedAt : Nat) (db : Db) : RefreshPhase :=
  match findRefreshTokenSessionByHash tokenHash db with
  | .error _ => .done .lookupFailed
  | .ok none => .done .refused
  | .ok (some session) =>
    match session.sessionId with
    | none => .done .refused
    | some sessionId =>
      -- an empty id is falsy
      if sessionId = "" then .done .refused
      else if session.tokenRevokedAt ≠ none then .cleaning session sessionId issuedAt
      else if session.user.user.disabledAt ≠ none ∨ session.deviceRevokedAt ≠ none ∨
          session.tokenExpiresAt ≤ issuedAt * 1000 then .done .refused
      else if projects session.user then .rotating session sessionId issuedAt
      else .done .lookupFailed

end Request

/-- The input the request passes to `rotateRefreshToken`. -/
def RefreshTokenSession.rotation (session : RefreshTokenSession) (sessionId : String)
    (issuedAt : Nat) (nextId nextHash : String) : RotateRefreshTokenInput where
  currentTokenId := session.tokenId
  expectedSessionId := sessionId
  userId := session.userId
  deviceId := session.deviceId
  expectedSecurityStamp := session.user.user.securityStamp
  deviceIdentifier := session.deviceIdentifier
  nextRefreshTokenId := nextId
  nextRefreshTokenHash := nextHash
  nextRefreshTokenExpiresAt := (issuedAt + refreshTokenTtlSeconds) * 1000
  now := issuedAt * 1000

/-- The rotation batch. -/
def refreshRotate (nextId nextHash : String) : RefreshPhase → Db → RefreshPhase × Db
  | .rotating session sessionId issuedAt, db =>
    match rotationBatch (session.rotation sessionId issuedAt nextId nextHash) db with
    | (db', .ok true) => (.done .rotated, db')
    | (db', .ok false) => (.cleaning session sessionId issuedAt, db')
    | (db', .error _) => (.done .rotationFailed, db')
  | phase, db => (phase, db)

/-- The clean-up batch. -/
def refreshCleanUp : RefreshPhase → Db → RefreshPhase × Db
  | .cleaning session sessionId issuedAt, db =>
    (.done .reuseDetected, (invalidateRefreshTokenSession session.userId session.deviceId
      (issuedAt * 1000) (some sessionId) db).1)
  | phase, db => (phase, db)

/-! ## The race -/

/-- One of the two requests. -/
inductive Requester where
  | first
  | second
  deriving DecidableEq, Repr

/-- The database and the two requests. -/
structure Race where
  db : Db
  first : RefreshPhase := .started
  second : RefreshPhase := .started

def Race.phase (r : Race) : Requester → RefreshPhase
  | .first => r.first
  | .second => r.second

/-- The race after a step of `who`. -/
def Race.put (r : Race) (who : Requester) (step : RefreshPhase × Db) : Race :=
  match who with
  | .first => { r with first := step.1, db := step.2 }
  | .second => { r with second := step.1, db := step.2 }

@[simp] theorem Race.put_db (r : Race) (who : Requester) (step : RefreshPhase × Db) :
    (r.put who step).db = step.2 := by cases who <;> rfl

@[simp] theorem Race.phase_put_self (r : Race) (who : Requester) (step : RefreshPhase × Db) :
    (r.put who step).phase who = step.1 := by cases who <;> rfl

theorem Race.phase_put_ne (r : Race) {who other : Requester} (h : other ≠ who)
    (step : RefreshPhase × Db) : (r.put who step).phase other = r.phase other := by
  cases who <;> cases other <;> first | rfl | exact absurd rfl h

/-- A step of one of the two requests, a login, or a write to the rest of the database. -/
inductive RaceOp where
  | lookup (who : Requester) (issuedAt : Nat)
  | rotate (who : Requester) (nextId nextHash : String)
  | cleanUp (who : Requester)
  | createPasswordGrantSession (input : DeviceSessionInput)
  | consumeAuthRequestWithSession (input : ConsumeAuthRequestWithSessionInput)
  | elsewhere (write : Db → Db)

/-- The race after the step; a step of a request that is not at that point does nothing. -/
def RaceOp.exec (projects : AuthUserRecord → Bool) (tokenHash : String) : RaceOp → Race → Race
  | .lookup who issuedAt, r =>
    match r.phase who with
    | .started => r.put who (refreshLookup projects tokenHash issuedAt r.db, r.db)
    | _ => r
  | .rotate who nextId nextHash, r => r.put who (refreshRotate nextId nextHash (r.phase who) r.db)
  | .cleanUp who, r => r.put who (refreshCleanUp (r.phase who) r.db)
  | .createPasswordGrantSession input, r =>
    { r with db := (HonoWarden.createPasswordGrantSession input r.db).1 }
  | .consumeAuthRequestWithSession input, r =>
    { r with db := (HonoWarden.consumeAuthRequestWithSession input r.db).1 }
  | .elsewhere write, r =>
    { r with db :=
        { write r.db with devices := r.db.devices, refreshTokens := r.db.refreshTokens } }

/-- The token ids and hashes a step draws. -/
def RaceOp.draws : RaceOp → List String
  | .rotate _ nextId nextHash => [nextHash, nextId]
  | .createPasswordGrantSession input => [input.refreshTokenHash, input.refreshTokenId]
  | .consumeAuthRequestWithSession input => [input.refreshTokenHash, input.refreshTokenId]
  | _ => []

/-- Two requests that present the token with hash `tokenHash`, and their surroundings. -/
def refreshRace (projects : AuthUserRecord → Bool) (tokenHash : String) :
    System Race RaceOp String :=
  .ofFunction (RaceOp.exec projects tokenHash) RaceOp.draws

/-- Both requests arrive; ids and hashes stored so far are not drawn again. -/
def raceStart (c : Config Db String) : Config Race String where
  state := { db := c.state }
  issued := c.issued ++ c.state.refreshTokens.rows.map RefreshToken.tokenHash

/-! ## What one step does to the rows -/

/-- The tokens of the session `sessionId` are revoked, and no device is active under it. -/
def FamilyDead (sessionId : String) (db : Db) : Prop :=
  (∀ t ∈ db.refreshTokens.rows, t.sessionId = some sessionId → t.revokedAt ≠ none) ∧
    ∀ d ∈ db.devices.rows, d.sessionId = some sessionId → d.revokedAt ≠ none

instance (sessionId : String) (db : Db) : Decidable (FamilyDead sessionId db) :=
  inferInstanceAs (Decidable ((∀ t ∈ db.refreshTokens.rows, _ → _) ∧ _))

/-- What a step of the race does to tokens and devices, when the two requests work on the session
`presented`: rows stay, what is revoked stays revoked, a new token is of a new session or
succeeds a live one, and the rows of other sessions are left alone but for a later login. -/
structure RaceStep (presented : Option String) (issued drawn : List String) (db db' : Db) :
    Prop where
  token_kept : ∀ t ∈ db.refreshTokens.rows, ∃ t' ∈ db'.refreshTokens.rows, t'.id = t.id ∧
    t'.tokenHash = t.tokenHash ∧ t'.userId = t.userId ∧ t'.deviceId = t.deviceId ∧
    t'.sessionId = t.sessionId
  token_origin : ∀ t' ∈ db'.refreshTokens.rows, (∃ t ∈ db.refreshTokens.rows, t'.id = t.id ∧
      t'.sessionId = t.sessionId ∧ (t'.revokedAt = none → t.revokedAt = none)) ∨
    t'.id ∉ issued ∧ ((∃ n, n ∉ issued ∧ t'.sessionId = some n) ∨
      ∃ t ∈ db.refreshTokens.rows, t.sessionId = t'.sessionId ∧ t.revokedAt = none)
  hashes : ∀ t' ∈ db'.refreshTokens.rows,
    (∃ t ∈ db.refreshTokens.rows, t'.tokenHash = t.tokenHash) ∨ t'.tokenHash ∈ drawn
  device_kept : ∀ d ∈ db.devices.rows, ∃ d' ∈ db'.devices.rows, d'.id = d.id ∧
    d'.identifier = d.identifier
  device_origin : ∀ d' ∈ db'.devices.rows, (∃ d ∈ db.devices.rows, d'.sessionId = d.sessionId ∧
      (d'.revokedAt = none → d.revokedAt = none)) ∨ ∃ n, n ∉ issued ∧ d'.sessionId = some n
  other_tokens : ∀ t ∈ db.refreshTokens.rows, t.sessionId ≠ presented → t ∈ db'.refreshTokens.rows
  other_devices : ∀ d ∈ db.devices.rows, d.revokedAt = none → d.sessionId ≠ presented →
    ∃ d' ∈ db'.devices.rows, d'.id = d.id ∧ d'.revokedAt = none ∧
      (d'.sessionId = d.sessionId ∨ ∃ n, n ∉ issued ∧ d'.sessionId = some n)

namespace RaceStep

variable {presented : Option String} {issued drawn : List String} {db db' : Db}

theorem of_eq (hd : db'.devices = db.devices) (ht : db'.refreshTokens = db.refreshTokens) :
    RaceStep presented issued drawn db db' := by
  constructor <;> simp only [hd, ht]
  · exact fun t ht => ⟨t, ht, rfl, rfl, rfl, rfl, rfl⟩
  · exact fun t ht => Or.inl ⟨t, ht, rfl, rfl, id⟩
  · exact fun t ht => Or.inl ⟨t, ht, rfl⟩
  · exact fun d hd => ⟨d, hd, rfl, rfl⟩
  · exact fun d hd => Or.inl ⟨d, hd, rfl, id⟩
  · exact fun t ht _ => ht
  · exact fun d hd hl _ => ⟨d, hd, rfl, hl, Or.inl rfl⟩

/-- A login appends the token of a new session and binds at most one device to it. -/
theorem login (token : RefreshToken) {fresh : Device} (bind : Device → Device)
    (hfresh : token.id ∉ issued) (hsession : token.sessionId = some token.id)
    (hdrawn : token.tokenHash ∈ drawn)
    (htok : db'.refreshTokens.rows = db.refreshTokens.rows ++ [token])
    (hbind : ∀ d, (bind d).id = d.id ∧ (bind d).identifier = d.identifier ∧
      (bind d).revokedAt = none ∧ (bind d).sessionId = some token.id)
    (hdev : DeviceBound db.devices db'.devices fresh bind ∨ db'.devices = db.devices) :
    RaceStep presented issued drawn db db' := by
  -- the new row of an old device
  have hkept : ∀ d ∈ db.devices.rows, d ∈ db'.devices.rows ∨ bind d ∈ db'.devices.rows := by
    intro d hd
    rcases hdev with hbound | heq
    · by_cases hid : d.id = fresh.id
      · right
        obtain ⟨e, ⟨he, heid, -⟩ | ⟨rfl, hnone⟩, hmem⟩ := hbound.bound
        · rwa [db.devices.eq_of_key hd he (hid.trans heid.symm)]
        · exact absurd hid (hnone d hd)
      · exact Or.inl ((hbound.others d hid).mpr hd)
    · exact Or.inl (heq ▸ hd)
  constructor
  · exact fun t ht => ⟨t, htok ▸ List.mem_append_left _ ht, rfl, rfl, rfl, rfl, rfl⟩
  · intro t' ht'
    rw [htok, List.mem_append, List.mem_singleton] at ht'
    rcases ht' with ht' | rfl
    · exact Or.inl ⟨t', ht', rfl, rfl, id⟩
    · exact Or.inr ⟨hfresh, Or.inl ⟨t'.id, hfresh, hsession⟩⟩
  · intro t' ht'
    rw [htok, List.mem_append, List.mem_singleton] at ht'
    rcases ht' with ht' | rfl
    · exact Or.inl ⟨t', ht', rfl⟩
    · exact Or.inr hdrawn
  · intro d hd
    rcases hkept d hd with hmem | hmem
    · exact ⟨d, hmem, rfl, rfl⟩
    · exact ⟨bind d, hmem, (hbind d).1, (hbind d).2.1⟩
  · intro d' hd'
    rcases hdev with hbound | heq
    · rcases hbound.cases (fun d => (hbind d).1) hd' with ⟨hd, -⟩ | ⟨d, -, -, -, rfl⟩
      · exact Or.inl ⟨d', hd, rfl, id⟩
      · exact Or.inr ⟨token.id, hfresh, (hbind d).2.2.2⟩
    · exact Or.inl ⟨d', heq ▸ hd', rfl, id⟩
  · exact fun t ht _ => htok ▸ List.mem_append_left _ ht
  · intro d hd hl _
    rcases hkept d hd with hmem | hmem
    · exact ⟨d, hmem, rfl, hl, Or.inl rfl⟩
    · exact ⟨bind d, hmem, (hbind d).1, (hbind d).2.2.1, Or.inr ⟨_, hfresh, (hbind d).2.2.2⟩⟩

/-- A rotation revokes the presented token and appends its successor. -/
theorem rotated {input : RotateRefreshTokenInput} {t : RefreshToken} {T : Table RefreshToken}
    {D : Table Device} (hrot : Rotated input db t T D) (ht : t ∈ db.refreshTokens.rows)
    (hlive : t.revokedAt = none) (hsession : t.sessionId = presented)
    (hfresh : input.nextRefreshTokenId ∉ issued) (hdrawn : input.nextRefreshTokenHash ∈ drawn)
    (hident : ∀ d ∈ db.devices.rows, d.id = t.deviceId → d.identifier = input.deviceIdentifier) :
    RaceStep presented issued drawn db { db with devices := D, refreshTokens := T } := by
  have hold : ∀ r ∈ db.refreshTokens.rows, r ∈ T.rows ∨
      r.id = t.id ∧ r.revoke input.now ∈ T.rows := by
    intro r hr
    rw [hrot.tokens]
    by_cases hid : r.id = t.id
    · exact Or.inr ⟨hid, List.mem_append_left _ (mem_updateWhere.mpr ⟨r, hr, (if_pos hid).symm⟩)⟩
    · exact Or.inl (List.mem_append_left _ (mem_updateWhere_of_not_hit hr hid))
  have hdev : ∀ d ∈ db.devices.rows, ∃ d' ∈ D.rows, d'.id = d.id ∧
      d'.identifier = d.identifier ∧ d'.revokedAt = d.revokedAt ∧ d'.sessionId = d.sessionId := by
    intro d hd
    rw [hrot.devices]
    by_cases hid : d.id = t.deviceId
    · exact ⟨input.touch d, mem_updateWhere.mpr ⟨d, hd, (if_pos hid).symm⟩, rfl,
        (hident d hd hid).symm, rfl, rfl⟩
    · exact ⟨d, mem_updateWhere_of_not_hit hd hid, rfl, rfl, rfl, rfl⟩
  constructor
  · intro r hr
    rcases hold r hr with hmem | ⟨-, hmem⟩
    · exact ⟨r, hmem, rfl, rfl, rfl, rfl, rfl⟩
    · exact ⟨_, hmem, rfl, rfl, rfl, rfl, rfl⟩
  · intro t' ht'
    simp only [hrot.tokens, List.mem_append, List.mem_singleton] at ht'
    rcases ht' with ht' | rfl
    · rcases mem_updateWhere_cases ht' with ⟨hr, -⟩ | ⟨r, hr, -, rfl⟩
      · exact Or.inl ⟨t', hr, rfl, rfl, id⟩
      · exact Or.inl ⟨r, hr, rfl, rfl, fun hl => absurd hl (Option.some_ne_none _)⟩
    · exact Or.inr ⟨hfresh, Or.inr ⟨t, ht, rfl, hlive⟩⟩
  · intro t' ht'
    simp only [hrot.tokens, List.mem_append, List.mem_singleton] at ht'
    rcases ht' with ht' | rfl
    · rcases mem_updateWhere_cases ht' with ⟨hr, -⟩ | ⟨r, hr, -, rfl⟩
      · exact Or.inl ⟨t', hr, rfl⟩
      · exact Or.inl ⟨r, hr, rfl⟩
    · exact Or.inr hdrawn
  · intro d hd
    obtain ⟨d', hd', hid, hident', -⟩ := hdev d hd
    exact ⟨d', hd', hid, hident'⟩
  · intro d' hd'
    simp only [hrot.devices] at hd'
    rcases mem_updateWhere_cases hd' with ⟨hd, -⟩ | ⟨d, hd, -, rfl⟩
    · exact Or.inl ⟨d', hd, rfl, id⟩
    · exact Or.inl ⟨d, hd, rfl, id⟩
  · intro r hr hne
    rcases hold r hr with hmem | ⟨hid, -⟩
    · exact hmem
    · rw [db.refreshTokens.eq_of_key hr ht hid] at hne
      exact absurd hsession hne
  · intro d hd hl _
    obtain ⟨d', hd', hid, -, hrev, hsess⟩ := hdev d hd
    exact ⟨d', hd', hid, hrev.trans hl, Or.inl hsess⟩

/-- The clean-up touches rows of the presented session only. -/
theorem cleanUp (userId deviceId : String) (now : Timestamp) {sessionId : String}
    (hne : sessionId ≠ "") (hpresented : presented = some sessionId) :
    RaceStep presented issued drawn db
      (invalidateRefreshTokenSession userId deviceId now (some sessionId) db).1 := by
  obtain ⟨D, T, hdb, hT, hD⟩ :=
    invalidateRefreshTokenSession_effect userId deviceId now (some sessionId) db
  rw [hdb]
  have hin : ∀ s, InSession (some sessionId) s → s = presented := fun s h =>
    (h sessionId rfl hne).trans hpresented.symm
  constructor <;> simp only [hT, hD]
  · intro t ht
    by_cases hhit : t.userId = userId ∧ t.deviceId = deviceId ∧ t.revokedAt = none ∧
        InSession (some sessionId) t.sessionId
    · exact ⟨t.revoke now, mem_updateWhere.mpr ⟨t, ht, (if_pos hhit).symm⟩,
        rfl, rfl, rfl, rfl, rfl⟩
    · exact ⟨t, mem_updateWhere_of_not_hit ht hhit, rfl, rfl, rfl, rfl, rfl⟩
  · intro t' ht'
    rcases mem_updateWhere_cases ht' with ⟨ht, -⟩ | ⟨t, ht, -, rfl⟩
    · exact Or.inl ⟨t', ht, rfl, rfl, id⟩
    · exact Or.inl ⟨t, ht, rfl, rfl, fun hl => absurd hl (Option.some_ne_none _)⟩
  · intro t' ht'
    rcases mem_updateWhere_cases ht' with ⟨ht, -⟩ | ⟨t, ht, -, rfl⟩
    · exact Or.inl ⟨t', ht, rfl⟩
    · exact Or.inl ⟨t, ht, rfl⟩
  · intro d hd
    by_cases hhit : d.id = deviceId ∧ d.userId = userId ∧ InSession (some sessionId) d.sessionId
    · exact ⟨_, mem_updateWhere.mpr ⟨d, hd, (if_pos hhit).symm⟩, rfl, rfl⟩
    · exact ⟨d, mem_updateWhere_of_not_hit hd hhit, rfl, rfl⟩
  · intro d' hd'
    rcases mem_updateWhere_cases hd' with ⟨hd, -⟩ | ⟨d, hd, -, rfl⟩
    · exact Or.inl ⟨d', hd, rfl, id⟩
    · exact Or.inl ⟨d, hd, rfl, fun hl => absurd hl (Option.some_ne_none _)⟩
  · exact fun t ht hother => mem_updateWhere_of_not_hit ht fun hhit =>
      hother (hin _ hhit.2.2.2)
  · exact fun d hd hl hother => ⟨d, mem_updateWhere_of_not_hit hd fun hhit =>
      hother (hin _ hhit.2.2), rfl, hl, Or.inl rfl⟩

end RaceStep

/-! ## The invariant of the race -/

/-- The rows the race starts from and keeps: the presented token `t₀` is still stored. -/
structure RaceDb (t₀ : RefreshToken) (issued : List String) (db : Db) : Prop where
  coherent : CoherentSessions issued db
  hashes : ∀ t ∈ db.refreshTokens.rows, t.tokenHash ∈ issued
  presented : ∃ t ∈ db.refreshTokens.rows, t.id = t₀.id ∧ t.tokenHash = t₀.tokenHash ∧
    t.userId = t₀.userId ∧ t.deviceId = t₀.deviceId ∧ t.sessionId = t₀.sessionId

/-- A request past its lookup works on the token, the account, the device and the session of the
presented token, under the identifier the device has. -/
structure Presents (t₀ : RefreshToken) (db : Db) (session : RefreshTokenSession)
    (sessionId : String) : Prop where
  token : session.tokenId = t₀.id
  user : session.userId = t₀.userId
  device : session.deviceId = t₀.deviceId
  family : t₀.sessionId = some sessionId
  truthy : sessionId ≠ ""
  identifier : ∃ d ∈ db.devices.rows, d.id = t₀.deviceId ∧ d.identifier = session.deviceIdentifier

/-- What the phase of a request says about the database. -/
def PhaseInv (t₀ : RefreshToken) (db : Db) : RefreshPhase → Prop
  | .started => True
  | .rotating session sessionId _ => Presents t₀ db session sessionId
  | .cleaning session sessionId _ => Presents t₀ db session sessionId
  | .done .rotated => ∀ t ∈ db.refreshTokens.rows, t.id = t₀.id → t.revokedAt ≠ none
  | .done .reuseDetected => ∀ s, t₀.sessionId = some s → FamilyDead s db
  | .done .refused => True
  | .done .lookupFailed => True
  | .done .rotationFailed => False

section Invariant

variable {t₀ : RefreshToken} {issued drawn : List String} {db db' : Db}

theorem RaceDb.id_issued (h : RaceDb t₀ issued db) : t₀.id ∈ issued := by
  obtain ⟨t, ht, hid, -⟩ := h.presented
  exact hid ▸ h.coherent.linear.id_issued t ht

theorem RaceDb.session_issued (h : RaceDb t₀ issued db) {s : String}
    (hs : t₀.sessionId = some s) : s ∈ issued := by
  obtain ⟨t, ht, -, -, -, -, hsess⟩ := h.presented
  exact h.coherent.linear.session_issued t ht s (hsess.trans hs)

theorem RaceDb.step (h : RaceDb t₀ issued db)
    (hstep : RaceStep t₀.sessionId issued drawn db db')
    (hcoh : CoherentSessions (drawn ++ issued) db') : RaceDb t₀ (drawn ++ issued) db' where
  coherent := hcoh
  hashes := by
    intro t' ht'
    rcases hstep.hashes t' ht' with ⟨t, ht, he⟩ | hmem
    · exact List.mem_append_right _ (he ▸ h.hashes t ht)
    · exact List.mem_append_left _ hmem
  presented := by
    obtain ⟨t, ht, hid, hhash, hu, hd, hs⟩ := h.presented
    obtain ⟨t', ht', hid', hhash', hu', hd', hs'⟩ := hstep.token_kept t ht
    exact ⟨t', ht', hid'.trans hid, hhash'.trans hhash, hu'.trans hu, hd'.trans hd, hs'.trans hs⟩

/-- A dead family stays dead. -/
theorem FamilyDead.step {s : String} (h : FamilyDead s db) (hs : s ∈ issued)
    {presented : Option String} (hstep : RaceStep presented issued drawn db db') :
    FamilyDead s db' := by
  constructor
  · intro t' ht' hsess hl
    rcases hstep.token_origin t' ht' with ⟨t, ht, -, hts, hlive⟩ | ⟨-, ⟨n, hn, hns⟩ | ⟨t, ht, hts, hl'⟩⟩
    · exact h.1 t ht (hts ▸ hsess) (hlive hl)
    · exact hn (Option.some.inj (hsess.symm.trans hns) ▸ hs)
    · exact h.1 t ht (hts.trans hsess) hl'
  · intro d' hd' hsess hl
    rcases hstep.device_origin d' hd' with ⟨d, hd, hds, hlive⟩ | ⟨n, hn, hns⟩
    · exact h.2 d hd (hds ▸ hsess) (hlive hl)
    · exact hn (Option.some.inj (hsess.symm.trans hns) ▸ hs)

/-- What a phase says survives every step. -/
theorem PhaseInv.step {phase : RefreshPhase} (h : PhaseInv t₀ db phase)
    (hdb : RaceDb t₀ issued db) (hstep : RaceStep t₀.sessionId issued drawn db db') :
    PhaseInv t₀ db' phase := by
  have hpresents : ∀ session sessionId, Presents t₀ db session sessionId →
      Presents t₀ db' session sessionId := by
    intro session sessionId hp
    obtain ⟨d, hd, hid, hident⟩ := hp.identifier
    obtain ⟨d', hd', hid', hident'⟩ := hstep.device_kept d hd
    exact { hp with identifier := ⟨d', hd', hid'.trans hid, hident'.trans hident⟩ }
  cases phase with
  | started => trivial
  | rotating session sessionId issuedAt => exact hpresents session sessionId h
  | cleaning session sessionId issuedAt => exact hpresents session sessionId h
  | done reply =>
    cases reply with
    | rotated =>
      intro t' ht' hid hl
      rcases hstep.token_origin t' ht' with ⟨t, ht, htid, -, hlive⟩ | ⟨hnew, -⟩
      · exact h t ht (htid ▸ hid) (hlive hl)
      · exact hnew (hid ▸ hdb.id_issued)
    | reuseDetected => exact fun s hs => (h s hs).step (hdb.session_issued hs) hstep
    | refused => trivial
    | lookupFailed => trivial
    | rotationFailed => exact h

/-- A request that passes its lookup has found the presented token. -/
theorem refreshLookup_inv (projects : AuthUserRecord → Bool) (issuedAt : Nat)
    (hdb : RaceDb t₀ issued db) :
    PhaseInv t₀ db (refreshLookup projects t₀.tokenHash issuedAt db) ∧
      refreshLookup projects t₀.tokenHash issuedAt db ≠ .done .rotated := by
  unfold refreshLookup
  split
  · exact ⟨trivial, by simp⟩
  · exact ⟨trivial, by simp⟩
  rename_i session hfind
  obtain ⟨t, ht, hhash, hid, hsess, hu, hd, -, d, hd', hdid, hident⟩ :=
    findRefreshTokenSessionByHash_some hfind
  obtain ⟨t', ht', hid', hhash', hu', hdev', hsess'⟩ := hdb.presented
  obtain rfl := db.refreshTokens.eq_of_alternate ht ht' (hhash.trans hhash'.symm)
  split
  · exact ⟨trivial, by simp⟩
  rename_i sessionId hsome
  split
  · exact ⟨trivial, by simp⟩
  rename_i hne
  have hp : Presents t₀ db session sessionId :=
    ⟨hid.trans hid', hu.trans hu', hd.trans hdev', hsess'.symm.trans (hsess.symm.trans hsome), hne,
      d, hd', hdid.trans hdev', hident.symm⟩
  split
  · exact ⟨hp, by simp⟩
  split
  · exact ⟨trivial, by simp⟩
  split
  · exact ⟨hp, by simp⟩
  · exact ⟨trivial, by simp⟩

/-- The rotation batch of a request. When it rotates, the presented token was live until then. -/
theorem refreshRotate_inv {nextId nextHash : String} {phase : RefreshPhase}
    (hdb : RaceDb t₀ issued db) (hphase : PhaseInv t₀ db phase) (hid : nextId ∉ issued)
    (hhash : nextHash ∉ issued) :
    RaceStep t₀.sessionId issued [nextHash, nextId] db (refreshRotate nextId nextHash phase db).2 ∧
    CoherentSessions ([nextHash, nextId] ++ issued) (refreshRotate nextId nextHash phase db).2 ∧
    PhaseInv t₀ (refreshRotate nextId nextHash phase db).2
      (refreshRotate nextId nextHash phase db).1 ∧
    ((refreshRotate nextId nextHash phase db).1 = .done .rotated → phase = .done .rotated ∨
      ∃ t ∈ db.refreshTokens.rows, t.id = t₀.id ∧ t.revokedAt = none) := by
  cases phase with
  | started => exact ⟨.of_eq rfl rfl, (hdb.coherent.draw _).draw _, trivial, nofun⟩
  | cleaning session sessionId issuedAt =>
    exact ⟨.of_eq rfl rfl, (hdb.coherent.draw _).draw _, hphase, nofun⟩
  | done reply => exact ⟨.of_eq rfl rfl, (hdb.coherent.draw _).draw _, hphase, Or.inl⟩
  | rotating session sessionId issuedAt =>
    have hp : Presents t₀ db session sessionId := hphase
    have hident : ∀ d ∈ db.devices.rows, d.id = t₀.deviceId →
        d.identifier = session.deviceIdentifier := by
      intro d hd hdid
      obtain ⟨e, he, heid, hei⟩ := hp.identifier
      rw [db.devices.eq_of_key hd he (hdid.trans heid.symm), hei]
    have hfresh : ∀ t ∈ db.refreshTokens.rows, t.id ≠ nextId := fun t ht he =>
      hid (he ▸ hdb.coherent.linear.id_issued t ht)
    have hrotated : CoherentSessions
        ((session.rotation sessionId issuedAt nextId nextHash).nextRefreshTokenId :: issued)
        (rotationBatch (session.rotation sessionId issuedAt nextId nextHash) db).1 :=
      rotationBatch_coherent hid hdb.coherent
    have hcoh := hrotated.draw nextHash
    simp only [refreshRotate]
    rcases rotationBatch_effect (session.rotation sessionId issuedAt nextId nextHash) db hfresh
      with ⟨heq, hne⟩ | ⟨hok, t, ht, hcur, D, T, heq, hrot⟩
    · obtain ⟨b, hb⟩ := rotationBatch_total
        (session.rotation sessionId issuedAt nextId nextHash) db hfresh
        (fun t ht (he : t.tokenHash = nextHash) => hhash (he ▸ hdb.hashes t ht))
        (fun d hd hdid => hident d hd (hdid.trans hp.device))
      obtain rfl : b = false := by
        cases b with
        | false => rfl
        | true => exact absurd hb hne
      rw [Prod.ext (x := rotationBatch _ db) (y := (db, .ok false)) heq hb]
      exact ⟨.of_eq rfl rfl, (hdb.coherent.draw _).draw _, hp, nofun⟩
    · rw [heq] at hcoh
      rw [Prod.ext (x := rotationBatch _ db) (y := (_, .ok true)) heq hok]
      obtain ⟨htid, -, hdev, hlive, hsess, -⟩ := hcur
      have hsess' : t.sessionId = t₀.sessionId := hsess.trans hp.family.symm
      have htid' : t.id = t₀.id := htid.trans hp.token
      refine ⟨.rotated hrot ht hlive hsess' hid List.mem_cons_self ?_, hcoh, ?_,
        fun _ => Or.inr ⟨t, ht, htid', hlive⟩⟩
      · exact fun d hd hdid => hident d hd (hdid.trans (hdev.trans hp.device))
      · intro r hr hrid hl
        simp only [hrot.tokens, List.mem_append, List.mem_singleton] at hr
        rcases hr with hr | rfl
        · rcases mem_updateWhere_cases hr with ⟨-, hmiss⟩ | ⟨_, _, _, rfl⟩
          · exact hmiss (hrid.trans htid'.symm)
          · cases hl
        · have he : nextId = t₀.id := hrid
          exact hid (he ▸ hdb.id_issued)

/-- The clean-up batch of a request: the family is dead afterwards. -/
theorem refreshCleanUp_inv {phase : RefreshPhase} (hdb : RaceDb t₀ issued db)
    (hphase : PhaseInv t₀ db phase) :
    RaceStep t₀.sessionId issued [] db (refreshCleanUp phase db).2 ∧
    CoherentSessions issued (refreshCleanUp phase db).2 ∧
    PhaseInv t₀ (refreshCleanUp phase db).2 (refreshCleanUp phase db).1 ∧
    ((refreshCleanUp phase db).1 = .done .rotated → phase = .done .rotated) := by
  cases phase with
  | started => exact ⟨.of_eq rfl rfl, hdb.coherent, trivial, nofun⟩
  | rotating session sessionId issuedAt => exact ⟨.of_eq rfl rfl, hdb.coherent, hphase, nofun⟩
  | done reply => exact ⟨.of_eq rfl rfl, hdb.coherent, hphase, id⟩
  | cleaning session sessionId issuedAt =>
    have hp : Presents t₀ db session sessionId := hphase
    refine ⟨.cleanUp _ _ _ hp.truthy hp.family,
      invalidateRefreshTokenSession_coherent _ _ _ _ hdb.coherent, ?_, nofun⟩
    obtain ⟨t, ht, -, -, htu, htd, hts⟩ := hdb.presented
    obtain ⟨D, T, heq, hT, hD⟩ := invalidateRefreshTokenSession_effect session.userId
      session.deviceId (issuedAt * 1000) (some sessionId) db
    intro s hs
    obtain rfl := Option.some.inj (hp.family.symm.trans hs)
    have hin : InSession (some sessionId) (some sessionId) := fun _ h _ => h
    simp only [refreshCleanUp, heq, FamilyDead, hT, hD]
    constructor
    · intro r hr hrs hl
      rcases mem_updateWhere_cases hr with ⟨hr, hmiss⟩ | ⟨_, _, _, rfl⟩
      · obtain ⟨hu, hd⟩ := hdb.coherent.family r hr t ht sessionId hrs (hts.trans hs)
        exact hmiss ⟨hu.trans (htu.trans hp.user.symm), hd.trans (htd.trans hp.device.symm), hl,
          hrs ▸ hin⟩
      · cases hl
    · intro d hd hds hl
      rcases mem_updateWhere_cases hd with ⟨hd, hmiss⟩ | ⟨_, _, _, rfl⟩
      · obtain ⟨hu, hd'⟩ := hdb.coherent.bound d hd t ht sessionId hds (hts.trans hs)
        exact hmiss ⟨hd'.symm.trans (htd.trans hp.device.symm),
          hu.symm.trans (htu.trans hp.user.symm), hds ▸ hin⟩
      · cases hl

end Invariant

/-- The invariant of a configuration of the race. -/
structure RaceInv (t₀ : RefreshToken) (c : Config Race String) : Prop where
  db : RaceDb t₀ c.issued c.state.db
  phase : ∀ who, PhaseInv t₀ c.state.db (c.state.phase who)
  once : ¬ (c.state.first = .done .rotated ∧ c.state.second = .done .rotated)

section Step

variable {projects : AuthUserRecord → Bool} {t₀ : RefreshToken} {c c' : Config Race String}

/-- A step of the request `who` keeps the invariant. -/
theorem RaceInv.put (h : RaceInv t₀ c) (who : Requester) {drawn : List String}
    (step : RefreshPhase × Db) (hstep : RaceStep t₀.sessionId c.issued drawn c.state.db step.2)
    (hcoh : CoherentSessions (drawn ++ c.issued) step.2) (hphase : PhaseInv t₀ step.2 step.1)
    (honce : step.1 = .done .rotated → c.state.phase who = .done .rotated ∨
      ∃ t ∈ c.state.db.refreshTokens.rows, t.id = t₀.id ∧ t.revokedAt = none) :
    RaceInv t₀ { state := c.state.put who step, issued := drawn ++ c.issued } where
  db := by
    simpa using h.db.step hstep hcoh
  phase := by
    intro other
    by_cases he : other = who
    · subst he; simpa using hphase
    · simpa [Race.phase_put_ne _ he] using (h.phase other).step h.db hstep
  once := by
    -- were the other one rotated already, no live row of the presented token would be left
    have hother : ∀ other, other ≠ who → c.state.phase other = .done .rotated →
        step.1 = .done .rotated → c.state.phase who = .done .rotated := by
      intro other _ hrot hstep'
      rcases honce hstep' with hwho | ⟨t, ht, hid, hl⟩
      · exact hwho
      · have hrevoked := h.phase other
        rw [hrot] at hrevoked
        exact absurd hl (hrevoked t ht hid)
    rintro ⟨hfirst, hsecond⟩
    cases who with
    | first => exact h.once ⟨hother .second (by decide) hsecond hfirst, hsecond⟩
    | second => exact h.once ⟨hfirst, hother .first (by decide) hfirst hsecond⟩

/-- A step of the surroundings keeps the invariant. -/
theorem RaceInv.surroundings (h : RaceInv t₀ c) {drawn : List String} (db' : Db)
    (hstep : RaceStep t₀.sessionId c.issued drawn c.state.db db')
    (hcoh : CoherentSessions (drawn ++ c.issued) db') :
    RaceInv t₀ { state := { c.state with db := db' }, issued := drawn ++ c.issued } where
  db := h.db.step hstep hcoh
  phase := fun other => (h.phase other).step h.db hstep
  once := h.once

theorem createPasswordGrantSession_raceStep (presented : Option String) {issued : List String}
    {input : DeviceSessionInput} (db : Db) (hfresh : input.refreshTokenId ∉ issued) :
    RaceStep presented issued [input.refreshTokenHash, input.refreshTokenId] db
      (createPasswordGrantSession input db).1 := by
  cases hv : input.totpVerification with
  | none =>
    rcases createPasswordGrantSession_plain input db hv with
      ⟨hdb, -⟩ | ⟨-, -, D, T, hdb, hT, hbound⟩
    · rw [hdb]; exact .of_eq rfl rfl
    · rw [hdb]
      exact .login input.refreshToken input.bind hfresh rfl List.mem_cons_self hT
        (fun _ => ⟨rfl, rfl, rfl, rfl⟩) (Or.inl hbound)
  | some verification =>
    simp only [createPasswordGrantSession, hv]
    rcases createTotpPasswordGrantSession_effect input verification db with
      ⟨hdb, -⟩ | ⟨-, U, -, ⟨-, D, T, hdb, hT, hbound, -⟩ | ⟨-, hdb, -⟩⟩
    · rw [hdb]; exact .of_eq rfl rfl
    · rw [hdb]
      exact .login input.refreshToken (input.bindTotp verification) hfresh rfl
        List.mem_cons_self hT (fun _ => ⟨rfl, rfl, rfl, rfl⟩) (Or.inl hbound)
    · rw [hdb]; exact .of_eq rfl rfl

theorem consumeAuthRequestWithSession_raceStep (presented : Option String) {issued : List String}
    {input : ConsumeAuthRequestWithSessionInput} (db : Db)
    (hfresh : input.refreshTokenId ∉ issued) :
    RaceStep presented issued [input.refreshTokenHash, input.refreshTokenId] db
      (consumeAuthRequestWithSession input db).1 := by
  rcases consumeAuthRequestWithSession_effect input db with
    ⟨hdb, -⟩ | ⟨-, -, D, T, A, hdb, hT, -, hdev⟩
  · rw [hdb]; exact .of_eq rfl rfl
  · rw [hdb]
    exact .login input.refreshToken input.bind hfresh rfl List.mem_cons_self hT
      (fun _ => ⟨rfl, rfl, rfl, rfl⟩) (hdev.imp_right And.left)

/-- **Every step of the race keeps the invariant**, and does to the rows what a `RaceStep` does. -/
theorem refreshRace_step {op : RaceOp} (hnext : (refreshRace projects t₀.tokenHash).Next c op c')
    (h : RaceInv t₀ c) : RaceInv t₀ c' ∧
      RaceStep t₀.sessionId c.issued op.draws c.state.db c'.state.db := by
  obtain ⟨state', issued'⟩ := c'
  obtain ⟨hrun, hfresh, hissued⟩ := hnext
  obtain rfl : state' = _ := hrun
  obtain rfl : issued' = _ := hissued
  cases op with
  | lookup who issuedAt =>
    simp only [RaceOp.exec]
    split
    · have hlook := refreshLookup_inv projects issuedAt h.db
      have hstep : RaceStep t₀.sessionId c.issued [] c.state.db c.state.db := .of_eq rfl rfl
      exact ⟨h.put who _ hstep h.db.coherent hlook.1 fun he => absurd he hlook.2,
        by simpa only [RaceOp.draws, Race.put_db] using hstep⟩
    · exact ⟨h, .of_eq rfl rfl⟩
  | rotate who nextId nextHash =>
    obtain ⟨hstep, hcoh, hphase, honce⟩ := refreshRotate_inv h.db (h.phase who)
      (hfresh nextId (List.mem_cons_of_mem _ List.mem_cons_self))
      (hfresh nextHash List.mem_cons_self)
    exact ⟨h.put who _ hstep hcoh hphase honce,
      by simpa only [RaceOp.exec, RaceOp.draws, Race.put_db] using hstep⟩
  | cleanUp who =>
    obtain ⟨hstep, hcoh, hphase, honce⟩ := refreshCleanUp_inv h.db (h.phase who)
    exact ⟨h.put who _ hstep hcoh hphase fun he => Or.inl (honce he),
      by simpa only [RaceOp.exec, RaceOp.draws, Race.put_db] using hstep⟩
  | createPasswordGrantSession input =>
    have hid : input.refreshTokenId ∉ c.issued :=
      hfresh _ (List.mem_cons_of_mem _ List.mem_cons_self)
    have hstep := createPasswordGrantSession_raceStep t₀.sessionId c.state.db hid
    exact ⟨h.surroundings _ hstep
      ((createPasswordGrantSession_coherent hid h.db.coherent).draw _), hstep⟩
  | consumeAuthRequestWithSession input =>
    have hid : input.refreshTokenId ∉ c.issued :=
      hfresh _ (List.mem_cons_of_mem _ List.mem_cons_self)
    have hstep := consumeAuthRequestWithSession_raceStep t₀.sessionId c.state.db hid
    exact ⟨h.surroundings _ hstep
      ((consumeAuthRequestWithSession_coherent hid h.db.coherent).draw _), hstep⟩
  | elsewhere write =>
    have hstep : RaceStep t₀.sessionId c.issued [] c.state.db
        { write c.state.db with
          devices := c.state.db.devices, refreshTokens := c.state.db.refreshTokens } :=
      .of_eq rfl rfl
    exact ⟨h.surroundings _ hstep (h.db.coherent.elsewhere rfl rfl), hstep⟩

end Step

/-! ## Runs of the race -/

section Run

variable {projects : AuthUserRecord → Bool} {t₀ : RefreshToken}

theorem raceStart_inv {c : Config Db String} (h : CoherentSessions c.issued c.state)
    (ht : t₀ ∈ c.state.refreshTokens.rows) : RaceInv t₀ (raceStart c) where
  db :=
    { coherent := h.issue fun _ => List.mem_append_left _
      hashes := fun _ ht => List.mem_append_right _ (List.mem_map_of_mem ht)
      presented := ⟨t₀, ht, rfl, rfl, rfl, rfl, rfl⟩ }
  phase := fun who => by cases who <;> trivial
  once := nofun

theorem refreshRace_inv {c c' : Config Race String} {ops : List RaceOp}
    (h : Run (refreshRace projects t₀.tokenHash) c ops c') (hi : RaceInv t₀ c) : RaceInv t₀ c' :=
  h.invariant hi fun hn hi => (refreshRace_step hn hi).1

/-- The rows of other sessions after a run: tokens are as they were, and a device that was active
is active, under its session or under one opened since. -/
theorem refreshRace_others {c c' : Config Race String} {ops : List RaceOp}
    (h : Run (refreshRace projects t₀.tokenHash) c ops c') (hi : RaceInv t₀ c) :
    (∀ t ∈ c.state.db.refreshTokens.rows, t.sessionId ≠ t₀.sessionId →
      t ∈ c'.state.db.refreshTokens.rows) ∧
    (∀ d ∈ c.state.db.devices.rows, d.revokedAt = none → d.sessionId ≠ t₀.sessionId →
      ∃ d' ∈ c'.state.db.devices.rows, d'.id = d.id ∧ d'.revokedAt = none ∧
        d'.sessionId ≠ t₀.sessionId ∧
        (d'.sessionId = d.sessionId ∨ ∃ n, n ∉ c.issued ∧ d'.sessionId = some n)) := by
  induction h with
  | refl => exact ⟨fun t ht _ => ht, fun d hd hl hne => ⟨d, hd, rfl, hl, hne, Or.inl rfl⟩⟩
  | @tail ops op c₁ c₂ hrun hn ih =>
    have hi₁ := refreshRace_inv hrun hi
    have hstep := (refreshRace_step hn hi₁).2
    refine ⟨fun t ht hne => hstep.other_tokens t (ih.1 t ht hne) hne, fun d hd hl hne => ?_⟩
    obtain ⟨d₁, hd₁, hid₁, hl₁, hne₁, hs₁⟩ := ih.2 d hd hl hne
    obtain ⟨d₂, hd₂, hid₂, hl₂, hs₂⟩ := hstep.other_devices d₁ hd₁ hl₁ hne₁
    have hnew : ∀ n, n ∉ c₁.issued → some n ≠ t₀.sessionId := fun n hn he =>
      hn (hi₁.db.session_issued he.symm)
    refine ⟨d₂, hd₂, hid₂.trans hid₁, hl₂, ?_, ?_⟩
    · rcases hs₂ with hs₂ | ⟨n, hn, hs₂⟩
      · rwa [hs₂]
      · rw [hs₂]; exact hnew n hn
    · rcases hs₂ with hs₂ | ⟨n, hn, hs₂⟩
      · rwa [hs₂]
      · exact Or.inr ⟨n, fun hc => hn (hrun.issued_subset n hc), hs₂⟩

/-- What holds at the end `c'` of a race for the token `t₀`, of which `c` is an earlier point. -/
structure ReuseKillsFamily (t₀ : RefreshToken) (c c' : Config Race String) : Prop where
  /-- At most one request obtains a successor. -/
  once : ¬ (c'.state.first = .done .rotated ∧ c'.state.second = .done .rotated)
  /-- When both are done and neither stopped at its lookup, the family is dead. -/
  dead : ∀ r r', c'.state.first = .done r → c'.state.second = .done r' →
    r ∉ [.refused, .lookupFailed] → r' ∉ [.refused, .lookupFailed] →
    ∀ s, t₀.sessionId = some s → FamilyDead s c'.state.db
  /-- The tokens of every other family stay as they are. -/
  tokens_kept : ∀ t ∈ c.state.db.refreshTokens.rows, t.sessionId ≠ t₀.sessionId →
    t ∈ c'.state.db.refreshTokens.rows
  /-- A device active under another session stays active, under it or under a later one. -/
  devices_kept : ∀ d ∈ c.state.db.devices.rows, d.revokedAt = none →
    d.sessionId ≠ t₀.sessionId →
    ∃ d' ∈ c'.state.db.devices.rows, d'.id = d.id ∧ d'.revokedAt = none ∧
      d'.sessionId ≠ t₀.sessionId ∧
      (d'.sessionId = d.sessionId ∨ ∃ n, n ∉ c.issued ∧ d'.sessionId = some n)

/-- **Reuse kills exactly the presented family**, in every run of the race from a state the
session layer can reach. -/
theorem refreshReuse_kills_family {moves₀ : List (Move SessionOp Db)} {c₀ : Config Db String}
    {ops₁ ops₂ : List RaceOp} {c₁ c₂ : Config Race String}
    (h₀ : Run sessionSystem { state := {} } moves₀ c₀) (ht : t₀ ∈ c₀.state.refreshTokens.rows)
    (h₁ : Run (refreshRace projects t₀.tokenHash) (raceStart c₀) ops₁ c₁)
    (h₂ : Run (refreshRace projects t₀.tokenHash) c₁ ops₂ c₂) : ReuseKillsFamily t₀ c₁ c₂ := by
  have hi₁ := refreshRace_inv h₁ (raceStart_inv (sessionSystem_reachable_coherent h₀) ht)
  have hi₂ := refreshRace_inv h₂ hi₁
  obtain ⟨htokens, hdevices⟩ := refreshRace_others h₂ hi₁
  refine ⟨hi₂.once, fun r r' hr hr' hstop hstop' s hs => ?_, htokens, hdevices⟩
  have hfirst := hi₂.phase .first
  have hsecond := hi₂.phase .second
  simp only [Race.phase, hr, hr'] at hfirst hsecond
  -- a reply other than the two stops is a success or a clean-up, and not both are successes
  cases r with
  | reuseDetected => exact hfirst s hs
  | rotationFailed => exact hfirst.elim
  | refused => simp at hstop
  | lookupFailed => simp at hstop
  | rotated =>
    cases r' with
    | reuseDetected => exact hsecond s hs
    | rotationFailed => exact hsecond.elim
    | refused => simp at hstop'
    | lookupFailed => simp at hstop'
    | rotated => exact absurd ⟨hr, hr'⟩ hi₂.once

end Run

/-- A login whose token, with hash `h1`, is valid for one second. -/
def raceLogin : DeviceSessionInput :=
  { userId := "u", expectedMasterPasswordHash := "hash", expectedSecurityStamp := "stamp",
    deviceIdentifier := "phone", refreshTokenId := "t1", refreshTokenHash := "h1",
    refreshTokenExpiresAt := 1000, now := 0 }

/-- The session layer before the two requests. -/
def raceBefore : Config Db String :=
  (replay (Move.exec SessionOp.run keepSessions) (Move.draws SessionOp.draws) { state := {} }
    [.surroundings fun db => { db with users := oneAccount },
      .request (.createPasswordGrantSession raceLogin)]).get (by decide)

def playRace (c : Config Race String) (ops : List RaceOp) : Option (Config Race String) :=
  replay (RaceOp.exec (fun _ => true) raceLogin.refreshToken.tokenHash) RaceOp.draws c ops

/-- The first request rotates the token; then the device logs in again. -/
def raceReloggedIn : Config Race String :=
  (playRace (raceStart raceBefore) [.lookup .first 0, .lookup .second 0, .rotate .first "t2" "h2",
    .createPasswordGrantSession
      { raceLogin with refreshTokenId := "t3", refreshTokenHash := "h3", now := 1 }]).get
    (by decide)

/-- The second request is rejected and cleans up. -/
def raceReused : Config Race String :=
  (playRace raceReloggedIn [.rotate .second "t4" "h4", .cleanUp .second]).get (by decide)

theorem refreshReuse_kills_family_relogin :
    (raceReused.state.first = .done .rotated ∧ raceReused.state.second = .done .reuseDetected) ∧
      ReuseKillsFamily raceLogin.refreshToken raceReloggedIn raceReused :=
  ⟨by decide, refreshReuse_kills_family (replay_run (Option.some_get _).symm) (by decide)
    (replay_run (Option.some_get _).symm) (replay_run (Option.some_get _).symm)⟩

/-- Both requests arrive after the token expired. -/
def raceExpired : Config Race String :=
  (playRace (raceStart raceBefore) [.lookup .first 2, .lookup .second 3]).get (by decide)

/-- Two requests that present an expired token are both processed, and the token stays live. -/
theorem refreshReuse_expired_survives :
    ∃ moves₀ ops, Run sessionSystem { state := {} } moves₀ raceBefore ∧
      raceLogin.refreshToken ∈ raceBefore.state.refreshTokens.rows ∧
      Run (refreshRace (fun _ => true) raceLogin.refreshToken.tokenHash) (raceStart raceBefore)
        ops raceExpired ∧
      raceExpired.state.first = .done .refused ∧ raceExpired.state.second = .done .refused ∧
      raceLogin.refreshToken.sessionId = some "t1" ∧ ¬ FamilyDead "t1" raceExpired.state.db :=
  ⟨_, _, replay_run (Option.some_get _).symm, by decide, replay_run (Option.some_get _).symm,
    by decide, by decide, rfl, by decide⟩

end HonoWarden
