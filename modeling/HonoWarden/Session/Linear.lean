import HonoWarden.Session.Effects

/-!
# Refresh-token families are linear

The session operations as a transition system (`sessionSystem`): every operation of
`Session/Repository.lean` in any order and for any users and devices, the rotation both as a whole
and as its first call alone, and arbitrary writes of other requests to the other tables. A step
that stores a new token draws its id (`crypto.randomUUID`), which no earlier step drew.

The invariant has two parts. `LinearFamilies`: one session id has at most one live token, a
predecessor is revoked, and every id in the token table was drawn. `CoherentSessions`: the tokens
of one session belong to one account and one device, and a device bound to a session is the device
of its tokens, which is why a clean-up scoped by account, device and session reaches the whole
family and nothing else (`Session/Refresh.lean`).

**Headline**: `refreshTokenFamilies_linear`, in every state reachable from the empty database.
-/

namespace HonoWarden

open Relational

/-- A request to the session layer. -/
inductive SessionOp where
  | createPasswordGrantSession (input : DeviceSessionInput)
  | consumeAuthRequestWithSession (input : ConsumeAuthRequestWithSessionInput)
  | rotateRefreshToken (input : RotateRefreshTokenInput)
  | rotationBatch (input : RotateRefreshTokenInput)
  | invalidateRefreshTokenSession (userId deviceId : String) (now : Timestamp)
      (expectedSessionId : Option String)
  | revokeCurrentDeviceSession (actor : MfaSessionActor) (revokedAt : Timestamp)
  | revokeDeviceSession (userId deviceId : String) (revokedAt : Timestamp)
  | revokeOtherDeviceSessions (userId currentDeviceId : String) (revokedAt : Timestamp)
  | deleteExpiredRefreshTokens (now : Timestamp) (limit : Nat)

/-- The database after the request. -/
def SessionOp.run : SessionOp → Db → Db
  | .createPasswordGrantSession input, db => (HonoWarden.createPasswordGrantSession input db).1
  | .consumeAuthRequestWithSession input, db =>
    (HonoWarden.consumeAuthRequestWithSession input db).1
  | .rotateRefreshToken input, db => (HonoWarden.rotateRefreshToken input db).1
  | .rotationBatch input, db => (HonoWarden.rotationBatch input db).1
  | .invalidateRefreshTokenSession userId deviceId now expectedSessionId, db =>
    (HonoWarden.invalidateRefreshTokenSession userId deviceId now expectedSessionId db).1
  | .revokeCurrentDeviceSession actor revokedAt, db =>
    (HonoWarden.revokeCurrentDeviceSession actor revokedAt db).1
  | .revokeDeviceSession userId deviceId revokedAt, db =>
    (HonoWarden.revokeDeviceSession userId deviceId revokedAt db).1
  | .revokeOtherDeviceSessions userId currentDeviceId revokedAt, db =>
    (HonoWarden.revokeOtherDeviceSessions userId currentDeviceId revokedAt db).1
  | .deleteExpiredRefreshTokens now limit, db =>
    (HonoWarden.deleteExpiredRefreshTokens now limit db).1

/-- Which tables a session request can write: only a consumption writes `auth_requests`, and only
a password login writes `user_totp`. -/
theorem SessionOp.run_frame (op : SessionOp) (db : Db)
    (hop : ∀ input, op ≠ .consumeAuthRequestWithSession input) :
    ∃ D T U, op.run db = { db with devices := D, refreshTokens := T, userTotp := U } ∧
      ((∀ input, op ≠ .createPasswordGrantSession input) → U = db.userTotp) := by
  cases op with
  | createPasswordGrantSession input =>
    cases hv : input.totpVerification with
    | none =>
      rcases createPasswordGrantSession_plain input db hv with
        ⟨hdb, -⟩ | ⟨-, -, D, T, hdb, -, -⟩
      · exact ⟨db.devices, db.refreshTokens, db.userTotp, hdb, fun _ => rfl⟩
      · exact ⟨D, T, db.userTotp, hdb, fun _ => rfl⟩
    | some verification =>
      have hcall : HonoWarden.createPasswordGrantSession input db =
          createTotpPasswordGrantSession input verification db := by
        simp only [HonoWarden.createPasswordGrantSession, hv]
      have hlogin : ¬ ∀ input', SessionOp.createPasswordGrantSession input ≠
          .createPasswordGrantSession input' := fun h => h input rfl
      simp only [SessionOp.run, hcall]
      rcases createTotpPasswordGrantSession_effect input verification db with
        ⟨hdb, -⟩ | ⟨-, U, -, ⟨-, D, T, hdb, -⟩ | ⟨-, hdb, -⟩⟩
      · exact ⟨db.devices, db.refreshTokens, db.userTotp, hdb, fun _ => rfl⟩
      · exact ⟨D, T, U, hdb, fun h => absurd h hlogin⟩
      · exact ⟨db.devices, db.refreshTokens, U, hdb, fun h => absurd h hlogin⟩
  | consumeAuthRequestWithSession input => exact absurd rfl (hop input)
  | rotateRefreshToken input =>
    obtain ⟨D, T, hdb, -⟩ := rotationBatch_devices input db
    simp only [SessionOp.run, HonoWarden.rotateRefreshToken]
    split
    · rename_i hb; rw [hb] at hdb; exact ⟨D, T, db.userTotp, hdb, fun _ => rfl⟩
    · rename_i hb; rw [hb] at hdb; exact ⟨D, T, db.userTotp, hdb, fun _ => rfl⟩
    · rename_i db' hb
      obtain ⟨D', T', hclean, -⟩ := invalidateRefreshTokenSession_effect input.userId
        input.deviceId input.now (some input.expectedSessionId) db'
      rw [hb] at hdb
      simp only at hdb
      exact ⟨D', T', db.userTotp, by rw [hclean, hdb], fun _ => rfl⟩
  | rotationBatch input =>
    obtain ⟨D, T, hdb, -⟩ := rotationBatch_devices input db
    exact ⟨D, T, db.userTotp, hdb, fun _ => rfl⟩
  | invalidateRefreshTokenSession userId deviceId now expectedSessionId =>
    obtain ⟨D, T, hdb, -⟩ :=
      invalidateRefreshTokenSession_effect userId deviceId now expectedSessionId db
    exact ⟨D, T, db.userTotp, congrArg Prod.fst hdb, fun _ => rfl⟩
  | revokeCurrentDeviceSession actor revokedAt =>
    obtain ⟨D, T, hdb, -⟩ := revokeCurrentDeviceSession_effect actor revokedAt db
    exact ⟨D, T, db.userTotp, hdb, fun _ => rfl⟩
  | revokeDeviceSession userId deviceId revokedAt =>
    obtain ⟨D, T, hdb, -⟩ := revokeDeviceSession_effect userId deviceId revokedAt db
    exact ⟨D, T, db.userTotp, hdb, fun _ => rfl⟩
  | revokeOtherDeviceSessions userId currentDeviceId revokedAt =>
    obtain ⟨D, T, hdb, -⟩ := revokeOtherDeviceSessions_effect userId currentDeviceId revokedAt db
    exact ⟨D, T, db.userTotp, congrArg Prod.fst hdb, fun _ => rfl⟩
  | deleteExpiredRefreshTokens now limit =>
    obtain ⟨T, hdb, -⟩ := deleteExpiredRefreshTokens_effect now limit db
    exact ⟨db.devices, T, db.userTotp, hdb, fun _ => rfl⟩

/-- The token ids a request draws. -/
def SessionOp.draws : SessionOp → List String
  | .createPasswordGrantSession input => [input.refreshTokenId]
  | .consumeAuthRequestWithSession input => [input.refreshTokenId]
  | .rotateRefreshToken input => [input.nextRefreshTokenId]
  | .rotationBatch input => [input.nextRefreshTokenId]
  | _ => []

/-- What the session layer owns: devices and refresh tokens. -/
def keepSessions (db db' : Db) : Db :=
  { db' with devices := db.devices, refreshTokens := db.refreshTokens }

/-- The session layer, among requests that write the other tables. -/
def sessionSystem : System Db (Move SessionOp Db) String :=
  .within SessionOp.run SessionOp.draws keepSessions

/-! ## Linear families -/

/-- The invariant of the token table, against the ids drawn so far. -/
structure LinearFamilies (issued : List String) (tokens : List RefreshToken) : Prop where
  one_live : ∀ t ∈ tokens, ∀ t' ∈ tokens, ∀ s, t.sessionId = some s → t'.sessionId = some s →
    t.revokedAt = none → t'.revokedAt = none → t.id = t'.id
  rotated_revoked : ∀ t ∈ tokens, ∀ r ∈ tokens, r.rotatedFromTokenId = some t.id →
    t.revokedAt ≠ none
  id_issued : ∀ t ∈ tokens, t.id ∈ issued
  session_issued : ∀ t ∈ tokens, ∀ s, t.sessionId = some s → s ∈ issued
  rotated_issued : ∀ t ∈ tokens, ∀ i, t.rotatedFromTokenId = some i → i ∈ issued

namespace LinearFamilies

variable {issued : List String} {tokens tokens' : List RefreshToken}

/-- `t'` is `t`, perhaps revoked, perhaps without its link to a predecessor. -/
def Descends (t t' : RefreshToken) : Prop :=
  t'.id = t.id ∧ t'.sessionId = t.sessionId ∧ (t'.revokedAt = none → t.revokedAt = none) ∧
    ∀ i, t'.rotatedFromTokenId = some i → t.rotatedFromTokenId = some i

/-- Revoking, unlinking and deleting tokens keep the invariant. -/
theorem descend (h : LinearFamilies issued tokens)
    (hd : ∀ t' ∈ tokens', ∃ t ∈ tokens, Descends t t') : LinearFamilies issued tokens' where
  one_live := by
    intro t ht t' ht' s hs hs' hl hl'
    obtain ⟨a, ha, hid, hsess, hlive, -⟩ := hd t ht
    obtain ⟨b, hb, hid', hsess', hlive', -⟩ := hd t' ht'
    rw [hid, hid']
    exact h.one_live a ha b hb s (hsess ▸ hs) (hsess' ▸ hs') (hlive hl) (hlive' hl')
  rotated_revoked := by
    intro t ht r hr hlink hl
    obtain ⟨a, ha, hid, -, hlive, -⟩ := hd t ht
    obtain ⟨b, hb, -, -, -, hrot⟩ := hd r hr
    exact h.rotated_revoked a ha b hb (hid ▸ hrot _ hlink) (hlive hl)
  id_issued := by
    intro t ht
    obtain ⟨a, ha, hid, -⟩ := hd t ht
    exact hid ▸ h.id_issued a ha
  session_issued := by
    intro t ht s hs
    obtain ⟨a, ha, -, hsess, -⟩ := hd t ht
    exact h.session_issued a ha s (hsess ▸ hs)
  rotated_issued := by
    intro t ht i hi
    obtain ⟨a, ha, -, -, -, hrot⟩ := hd t ht
    exact h.rotated_issued a ha i (hrot i hi)

theorem revoke (h : LinearFamilies issued tokens) {hit : RefreshToken → Prop}
    [DecidablePred hit] (now : Timestamp) :
    LinearFamilies issued (updateWhere hit (RefreshToken.revoke now) tokens) := by
  refine h.descend fun t' ht' => ?_
  rcases mem_updateWhere_cases ht' with ⟨hmem, -⟩ | ⟨t, hmem, -, rfl⟩
  · exact ⟨t', hmem, rfl, rfl, id, fun _ => id⟩
  · exact ⟨t, hmem, rfl, rfl, (fun hl => absurd hl (Option.some_ne_none _)), fun _ => id⟩

theorem issue (h : LinearFamilies issued tokens) {issued' : List String}
    (hsub : ∀ x ∈ issued, x ∈ issued') : LinearFamilies issued' tokens :=
  ⟨h.one_live, h.rotated_revoked, fun t ht => hsub _ (h.id_issued t ht),
    fun t ht s hs => hsub _ (h.session_issued t ht s hs),
    fun t ht i hi => hsub _ (h.rotated_issued t ht i hi)⟩

/-- A login appends a token whose id is new and is the id of its session. -/
theorem login (h : LinearFamilies issued tokens) (token : RefreshToken)
    (hfresh : token.id ∉ issued) (hsession : token.sessionId = some token.id)
    (hlink : token.rotatedFromTokenId = none) :
    LinearFamilies (token.id :: issued) (tokens ++ [token]) := by
  have hmem : ∀ t ∈ tokens ++ [token], t ∈ tokens ∨ t = token := by simp
  have hold : ∀ t ∈ tokens, t.sessionId ≠ some token.id := fun t ht hs =>
    hfresh (h.session_issued t ht _ hs)
  constructor
  · intro t ht t' ht' s hs hs' hl hl'
    rcases hmem t ht with h₁ | rfl <;> rcases hmem t' ht' with h₂ | rfl
    · exact h.one_live t h₁ t' h₂ s hs hs' hl hl'
    · exact absurd (hs.trans (hs'.symm.trans hsession)) (hold t h₁)
    · exact absurd (hs'.trans (hs.symm.trans hsession)) (hold t' h₂)
    · rfl
  · intro t ht r hr hrot hl
    rcases hmem r hr with h₁ | rfl
    · rcases hmem t ht with h₂ | rfl
      · exact h.rotated_revoked t h₂ r h₁ hrot hl
      · exact hfresh (h.rotated_issued r h₁ _ hrot)
    · rw [hlink] at hrot; cases hrot
  · intro t ht
    rcases hmem t ht with h₁ | rfl
    · exact List.mem_cons_of_mem _ (h.id_issued t h₁)
    · exact List.mem_cons_self
  · intro t ht s hs
    rcases hmem t ht with h₁ | rfl
    · exact List.mem_cons_of_mem _ (h.session_issued t h₁ s hs)
    · obtain rfl := Option.some.inj (hsession.symm.trans hs)
      exact List.mem_cons_self
  · intro t ht i hi
    rcases hmem t ht with h₁ | rfl
    · exact List.mem_cons_of_mem _ (h.rotated_issued t h₁ i hi)
    · rw [hlink] at hi; cases hi

/-- A rotation revokes the live token `t` of its session and appends its successor. -/
theorem rotate (h : LinearFamilies issued tokens) {t : RefreshToken} (new : RefreshToken)
    (now : Timestamp) (ht : t ∈ tokens) (hlive : t.revokedAt = none) (hfresh : new.id ∉ issued)
    (hsession : new.sessionId = t.sessionId) (hlink : new.rotatedFromTokenId = some t.id) :
    LinearFamilies (new.id :: issued)
      (updateWhere (fun r => r.id = t.id) (RefreshToken.revoke now) tokens ++ [new]) := by
  have hrev : LinearFamilies issued
      (updateWhere (fun r => r.id = t.id) (RefreshToken.revoke now) tokens) := h.revoke now
  -- a token that is still live is an old one other than `t`
  have hother : ∀ r ∈ updateWhere (fun r => r.id = t.id) (RefreshToken.revoke now) tokens,
      r.revokedAt = none → r ∈ tokens ∧ r.id ≠ t.id := by
    intro r hr hl
    rcases mem_updateWhere_cases hr with hr | ⟨_, _, _, rfl⟩
    · exact hr
    · cases hl
  generalize updateWhere (fun r => r.id = t.id) (RefreshToken.revoke now) tokens = rows at *
  have hmem : ∀ r ∈ rows ++ [new], r ∈ rows ∨ r = new := by simp
  have hlone : ∀ r ∈ rows, r.revokedAt = none → r.sessionId ≠ none → r.sessionId ≠ new.sessionId := by
    intro r hr hl hsome hs
    obtain ⟨hrt, hne⟩ := hother r hr hl
    obtain ⟨s, hrs⟩ := Option.ne_none_iff_exists'.mp hsome
    exact hne (h.one_live r hrt t ht s hrs (hsession ▸ hs ▸ hrs) hl hlive)
  constructor
  · intro r hr r' hr' s hs hs' hl hl'
    rcases hmem r hr with h₁ | rfl <;> rcases hmem r' hr' with h₂ | rfl
    · exact hrev.one_live r h₁ r' h₂ s hs hs' hl hl'
    · exact absurd (hs.trans hs'.symm) (hlone r h₁ hl (by simp [hs]))
    · exact absurd (hs'.trans hs.symm) (hlone r' h₂ hl' (by simp [hs']))
    · rfl
  · intro r hr r' hr' hrot hl
    rcases hmem r hr with h₁ | rfl
    · rcases hmem r' hr' with h₂ | rfl
      · exact hrev.rotated_revoked r h₁ r' h₂ hrot hl
      · exact (hother r h₁ hl).2 (Option.some.inj (hrot.symm.trans hlink))
    · rcases hmem r' hr' with h₂ | rfl
      · exact hfresh (hrev.rotated_issued r' h₂ _ hrot)
      · exact hfresh (Option.some.inj (hrot.symm.trans hlink) ▸ h.id_issued t ht)
  · intro r hr
    rcases hmem r hr with h₁ | rfl
    · exact List.mem_cons_of_mem _ (hrev.id_issued r h₁)
    · exact List.mem_cons_self
  · intro r hr s hs
    rcases hmem r hr with h₁ | rfl
    · exact List.mem_cons_of_mem _ (hrev.session_issued r h₁ s hs)
    · exact List.mem_cons_of_mem _ (h.session_issued t ht s (hsession ▸ hs))
  · intro r hr i hi
    rcases hmem r hr with h₁ | rfl
    · exact List.mem_cons_of_mem _ (hrev.rotated_issued r h₁ i hi)
    · obtain rfl := Option.some.inj (hlink.symm.trans hi)
      exact List.mem_cons_of_mem _ (h.id_issued t ht)

end LinearFamilies

/-! ## Tokens, devices and sessions agree -/

/-- Which rows the sessions of a database belong to, against the ids drawn so far. -/
structure CoherentSessions (issued : List String) (db : Db) : Prop where
  linear : LinearFamilies issued db.refreshTokens.rows
  family : ∀ t ∈ db.refreshTokens.rows, ∀ t' ∈ db.refreshTokens.rows, ∀ s,
    t.sessionId = some s → t'.sessionId = some s →
    t.userId = t'.userId ∧ t.deviceId = t'.deviceId
  device_issued : ∀ d ∈ db.devices.rows, ∀ s, d.sessionId = some s → s ∈ issued
  bound : ∀ d ∈ db.devices.rows, ∀ t ∈ db.refreshTokens.rows, ∀ s,
    d.sessionId = some s → t.sessionId = some s → t.userId = d.userId ∧ t.deviceId = d.id

/-- The rows of `D'` are rows of `D` with their account and session. -/
def DevicesKept (D D' : Table Device) : Prop :=
  ∀ d' ∈ D'.rows, ∃ d ∈ D.rows, d'.id = d.id ∧ d'.userId = d.userId ∧ d'.sessionId = d.sessionId

theorem DevicesKept.refl (D : Table Device) : DevicesKept D D := fun d hd => ⟨d, hd, rfl, rfl, rfl⟩

theorem DevicesKept.update {D D' : Table Device} {hit : Device → Prop} [DecidablePred hit]
    {set : Device → Device} (hD : D'.rows = updateWhere hit set D.rows)
    (hset : ∀ d, (set d).id = d.id ∧ (set d).userId = d.userId ∧ (set d).sessionId = d.sessionId) :
    DevicesKept D D' := by
  intro d' hd'
  rw [hD] at hd'
  rcases mem_updateWhere_cases hd' with ⟨hd, -⟩ | ⟨d, hd, -, rfl⟩
  · exact ⟨d', hd, rfl, rfl, rfl⟩
  · exact ⟨d, hd, hset d⟩

namespace CoherentSessions

variable {issued : List String} {db : Db}

/-- Requests that bind no session and add no token keep the invariant. -/
theorem descend (h : CoherentSessions issued db) {db' : Db}
    (hlin : LinearFamilies issued db'.refreshTokens.rows)
    (htok : ∀ t' ∈ db'.refreshTokens.rows, ∃ t ∈ db.refreshTokens.rows,
      t'.userId = t.userId ∧ t'.deviceId = t.deviceId ∧ t'.sessionId = t.sessionId)
    (hdev : DevicesKept db.devices db'.devices) : CoherentSessions issued db' where
  linear := hlin
  family := by
    intro t ht t' ht' s hs hs'
    obtain ⟨a, ha, hau, had, has⟩ := htok t ht
    obtain ⟨b, hb, hbu, hbd, hbs⟩ := htok t' ht'
    rw [hau, had, hbu, hbd]
    exact h.family a ha b hb s (has ▸ hs) (hbs ▸ hs')
  device_issued := by
    intro d hd s hs
    obtain ⟨e, he, -, -, hes⟩ := hdev d hd
    exact h.device_issued e he s (hes ▸ hs)
  bound := by
    intro d hd t ht s hs hs'
    obtain ⟨e, he, hid, hu, hes⟩ := hdev d hd
    obtain ⟨a, ha, hau, had, has⟩ := htok t ht
    rw [hau, had, hid, hu]
    exact h.bound e he a ha s (hes ▸ hs) (has ▸ hs')

theorem issue (h : CoherentSessions issued db) {issued' : List String}
    (hsub : ∀ x ∈ issued, x ∈ issued') : CoherentSessions issued' db :=
  ⟨h.linear.issue hsub, h.family, fun d hd s hs => hsub _ (h.device_issued d hd s hs), h.bound⟩

theorem draw (h : CoherentSessions issued db) (x : String) : CoherentSessions (x :: issued) db :=
  h.issue fun _ => List.mem_cons_of_mem _

/-- Only the two tables matter. -/
theorem elsewhere (h : CoherentSessions issued db) {db' : Db} (hd : db'.devices = db.devices)
    (ht : db'.refreshTokens = db.refreshTokens) : CoherentSessions issued db' :=
  ⟨ht ▸ h.linear, ht ▸ h.family, hd ▸ h.device_issued, hd ▸ ht ▸ h.bound⟩

/-- A login opens a session no row names yet. -/
theorem login (h : CoherentSessions issued db) {db' : Db} (token : RefreshToken)
    (hfresh : token.id ∉ issued) (hsession : token.sessionId = some token.id)
    (hlink : token.rotatedFromTokenId = none)
    (htok : db'.refreshTokens.rows = db.refreshTokens.rows ++ [token])
    (hdev : ∀ d' ∈ db'.devices.rows, (∃ d ∈ db.devices.rows, d'.id = d.id ∧
        d'.userId = d.userId ∧ d'.sessionId = d.sessionId) ∨
      (d'.sessionId = some token.id ∧ d'.id = token.deviceId ∧ d'.userId = token.userId)) :
    CoherentSessions (token.id :: issued) db' := by
  have hmem : ∀ t ∈ db'.refreshTokens.rows, t ∈ db.refreshTokens.rows ∨ t = token := by
    rw [htok]; simp
  have hold : ∀ t ∈ db.refreshTokens.rows, t.sessionId ≠ some token.id := fun t ht hs =>
    hfresh (h.linear.session_issued t ht _ hs)
  constructor
  · rw [htok]
    exact h.linear.login token hfresh hsession hlink
  · intro t ht t' ht' s hs hs'
    rcases hmem t ht with h₁ | rfl <;> rcases hmem t' ht' with h₂ | rfl
    · exact h.family t h₁ t' h₂ s hs hs'
    · exact absurd (hs.trans (hs'.symm.trans hsession)) (hold t h₁)
    · exact absurd (hs'.trans (hs.symm.trans hsession)) (hold t' h₂)
    · exact ⟨rfl, rfl⟩
  · intro d' hd' s hs
    rcases hdev d' hd' with ⟨d, hd, -, -, hds⟩ | ⟨hds, -⟩
    · exact List.mem_cons_of_mem _ (h.device_issued d hd s (hds ▸ hs))
    · obtain rfl := Option.some.inj (hds.symm.trans hs)
      exact List.mem_cons_self
  · intro d' hd' t ht s hs hs'
    rcases hmem t ht with h₁ | rfl <;> rcases hdev d' hd' with ⟨d, hd, hid, hu, hds⟩ | ⟨hds, hid, hu⟩
    · rw [hid, hu]
      exact h.bound d hd t h₁ s (hds ▸ hs) hs'
    · exact absurd (hs'.trans (hs.symm.trans hds)) (hold t h₁)
    · exact absurd (h.device_issued d hd s (hds ▸ hs))
        (Option.some.inj (hsession.symm.trans hs') ▸ hfresh)
    · exact ⟨hu.symm, hid.symm⟩

/-- A rotation hands the session of the old token to the new one. -/
theorem rotated (h : CoherentSessions issued db) {input : RotateRefreshTokenInput}
    {t : RefreshToken} {T : Table RefreshToken} {D : Table Device}
    (hrot : Rotated input db t T D) (ht : t ∈ db.refreshTokens.rows)
    (hcur : input.Current db t) (hfresh : input.nextRefreshTokenId ∉ issued) :
    CoherentSessions (input.nextRefreshTokenId :: issued)
      { db with devices := D, refreshTokens := T } := by
  have hmem : ∀ r ∈ T.rows, ∃ a ∈ db.refreshTokens.rows, r.userId = a.userId ∧
      r.deviceId = a.deviceId ∧ r.sessionId = a.sessionId := by
    intro r hr
    rw [hrot.tokens, List.mem_append, List.mem_singleton] at hr
    rcases hr with hr | rfl
    · rcases mem_updateWhere_cases hr with ⟨hr, -⟩ | ⟨a, ha, -, rfl⟩
      · exact ⟨r, hr, rfl, rfl, rfl⟩
      · exact ⟨a, ha, rfl, rfl, rfl⟩
    · exact ⟨t, ht, rfl, rfl, rfl⟩
  refine (h.draw _).descend ?_ hmem (DevicesKept.update hrot.devices fun _ => ⟨rfl, rfl, rfl⟩)
  rw [hrot.tokens]
  exact h.linear.rotate (input.replacement t) input.now ht hcur.2.2.2.1 hfresh rfl rfl

end CoherentSessions

/-! ## Every request keeps the invariant -/

section Step

variable {issued : List String} {db : Db}

/-- The devices after a login: each is an old one, or the one bound to the new session. -/
theorem DeviceBound.sessions {D D' : Table Device} {fresh : Device} {bind : Device → Device}
    {sessionId : String} (h : DeviceBound D D' fresh bind)
    (hbind : ∀ d, (bind d).id = d.id ∧ (bind d).userId = d.userId ∧
      (bind d).sessionId = some sessionId) :
    ∀ d' ∈ D'.rows, (∃ d ∈ D.rows, d'.id = d.id ∧ d'.userId = d.userId ∧
        d'.sessionId = d.sessionId) ∨
      (d'.sessionId = some sessionId ∧ d'.id = fresh.id ∧ d'.userId = fresh.userId) := by
  intro d' hd'
  rcases h.cases (fun d => (hbind d).1) hd' with ⟨hd, -⟩ | ⟨d, -, hid, hu, rfl⟩
  · exact Or.inl ⟨d', hd, rfl, rfl, rfl⟩
  · exact Or.inr ⟨(hbind d).2.2, (hbind d).1.trans hid, (hbind d).2.1.trans hu⟩

theorem createPasswordGrantSession_coherent {input : DeviceSessionInput}
    (hfresh : input.refreshTokenId ∉ issued) (h : CoherentSessions issued db) :
    CoherentSessions (input.refreshTokenId :: issued)
      (createPasswordGrantSession input db).1 := by
  cases hv : input.totpVerification with
  | none =>
    rcases createPasswordGrantSession_plain input db hv with
      ⟨hdb, -⟩ | ⟨-, -, D, T, hdb, hT, hbound⟩
    · rw [hdb]; exact h.draw _
    · rw [hdb]
      exact h.login input.refreshToken hfresh rfl rfl hT
        (hbound.sessions fun _ => ⟨rfl, rfl, rfl⟩)
  | some verification =>
    simp only [createPasswordGrantSession, hv]
    rcases createTotpPasswordGrantSession_effect input verification db with
      ⟨hdb, -⟩ | ⟨-, U, -, ⟨-, D, T, hdb, hT, hbound, -⟩ | ⟨-, hdb, -⟩⟩
    · rw [hdb]; exact h.draw _
    · rw [hdb]
      exact h.login input.refreshToken hfresh rfl rfl hT
        (hbound.sessions fun _ => ⟨rfl, rfl, rfl⟩)
    · rw [hdb]; exact (h.draw _).elsewhere rfl rfl

theorem consumeAuthRequestWithSession_coherent {input : ConsumeAuthRequestWithSessionInput}
    (hfresh : input.refreshTokenId ∉ issued) (h : CoherentSessions issued db) :
    CoherentSessions (input.refreshTokenId :: issued)
      (consumeAuthRequestWithSession input db).1 := by
  rcases consumeAuthRequestWithSession_effect input db with
    ⟨hdb, -⟩ | ⟨-, -, D, T, A, hdb, hT, -, hbound | ⟨rfl, -⟩⟩
  · rw [hdb]; exact h.draw _
  · rw [hdb]
    exact h.login input.refreshToken hfresh rfl rfl hT
      (hbound.sessions fun _ => ⟨rfl, rfl, rfl⟩)
  · rw [hdb]
    exact h.login input.refreshToken hfresh rfl rfl hT
      fun d hd => Or.inl ⟨d, hd, rfl, rfl, rfl⟩

theorem rotationBatch_coherent {input : RotateRefreshTokenInput}
    (hfresh : input.nextRefreshTokenId ∉ issued) (h : CoherentSessions issued db) :
    CoherentSessions (input.nextRefreshTokenId :: issued) (rotationBatch input db).1 := by
  rcases rotationBatch_effect input db
    (fun t ht hid => hfresh (hid ▸ h.linear.id_issued t ht)) with
    ⟨hdb, -⟩ | ⟨-, t, ht, hcur, D, T, hdb, hrot⟩
  · rw [hdb]; exact h.draw _
  · rw [hdb]; exact h.rotated hrot ht hcur hfresh

/-- A revocation selects tokens and devices and leaves what identifies them. -/
theorem CoherentSessions.revoke (h : CoherentSessions issued db) {D : Table Device}
    {T : Table RefreshToken} {hit : RefreshToken → Prop} [DecidablePred hit] {now : Timestamp}
    (hT : T.rows = updateWhere hit (RefreshToken.revoke now) db.refreshTokens.rows)
    (hD : DevicesKept db.devices D) :
    CoherentSessions issued { db with devices := D, refreshTokens := T } := by
  refine h.descend (by rw [hT]; exact h.linear.revoke now) (fun t' ht' => ?_) hD
  rw [hT] at ht'
  rcases mem_updateWhere_cases ht' with ⟨ht, -⟩ | ⟨t, ht, -, rfl⟩
  · exact ⟨t', ht, rfl, rfl, rfl⟩
  · exact ⟨t, ht, rfl, rfl, rfl⟩

theorem invalidateRefreshTokenSession_coherent (userId deviceId : String) (now : Timestamp)
    (expectedSessionId : Option String) (h : CoherentSessions issued db) :
    CoherentSessions issued
      (invalidateRefreshTokenSession userId deviceId now expectedSessionId db).1 := by
  obtain ⟨D, T, hdb, hT, hD⟩ :=
    invalidateRefreshTokenSession_effect userId deviceId now expectedSessionId db
  rw [hdb]
  exact h.revoke hT (.update hD fun _ => ⟨rfl, rfl, rfl⟩)

theorem rotateRefreshToken_coherent {input : RotateRefreshTokenInput}
    (hfresh : input.nextRefreshTokenId ∉ issued) (h : CoherentSessions issued db) :
    CoherentSessions (input.nextRefreshTokenId :: issued) (rotateRefreshToken input db).1 := by
  have hrot := rotationBatch_coherent hfresh h
  unfold rotateRefreshToken
  split
  · rename_i hb; rwa [hb] at hrot
  · rename_i hb; rwa [hb] at hrot
  · rename_i hb
    rw [hb] at hrot
    exact invalidateRefreshTokenSession_coherent _ _ _ _ hrot

/-- **Every request keeps the invariant.** -/
theorem SessionOp.run_coherent {op : SessionOp} (hfresh : ∀ x ∈ op.draws, x ∉ issued)
    (h : CoherentSessions issued db) : CoherentSessions (op.draws ++ issued) (op.run db) := by
  cases op with
  | createPasswordGrantSession input =>
    exact createPasswordGrantSession_coherent (hfresh _ List.mem_cons_self) h
  | consumeAuthRequestWithSession input =>
    exact consumeAuthRequestWithSession_coherent (hfresh _ List.mem_cons_self) h
  | rotateRefreshToken input => exact rotateRefreshToken_coherent (hfresh _ List.mem_cons_self) h
  | rotationBatch input => exact rotationBatch_coherent (hfresh _ List.mem_cons_self) h
  | invalidateRefreshTokenSession userId deviceId now expectedSessionId =>
    exact invalidateRefreshTokenSession_coherent _ _ _ _ h
  | revokeCurrentDeviceSession actor revokedAt =>
    obtain ⟨D, T, hdb, hT, hD⟩ := revokeCurrentDeviceSession_effect actor revokedAt db
    simp only [SessionOp.run, hdb]
    exact h.revoke hT (.update hD fun _ => ⟨rfl, rfl, rfl⟩)
  | revokeDeviceSession userId deviceId revokedAt =>
    obtain ⟨D, T, hdb, hD, hT⟩ := revokeDeviceSession_effect userId deviceId revokedAt db
    simp only [SessionOp.run, hdb]
    exact h.revoke hT (.update hD fun _ => ⟨rfl, rfl, rfl⟩)
  | revokeOtherDeviceSessions userId currentDeviceId revokedAt =>
    obtain ⟨D, T, hdb, hD, hT⟩ :=
      revokeOtherDeviceSessions_effect userId currentDeviceId revokedAt db
    simp only [SessionOp.run, hdb]
    exact h.revoke hT (.update hD fun _ => ⟨rfl, rfl, rfl⟩)
  | deleteExpiredRefreshTokens now limit =>
    obtain ⟨T, hdb, hT⟩ := deleteExpiredRefreshTokens_effect now limit db
    simp only [SessionOp.run, hdb]
    refine h.descend (h.linear.descend fun t' ht' => ?_) (fun t' ht' => ?_) (.refl _)
    · obtain ⟨t, ht, rfl | rfl⟩ := hT t' ht'
      · exact ⟨t', ht, rfl, rfl, id, fun _ => id⟩
      · exact ⟨t, ht, rfl, rfl, id, fun _ hi => absurd hi.symm (Option.some_ne_none _)⟩
    · obtain ⟨t, ht, rfl | rfl⟩ := hT t' ht'
      · exact ⟨t', ht, rfl, rfl, rfl⟩
      · exact ⟨t, ht, rfl, rfl, rfl⟩

end Step

theorem sessionSystem_coherent {c c' : Config Db String} {move : Move SessionOp Db}
    (hnext : sessionSystem.Next c move c') (h : CoherentSessions c.issued c.state) :
    CoherentSessions c'.issued c'.state := by
  obtain ⟨hrun, hfresh, hissued⟩ := hnext
  rw [hrun, hissued]
  cases move with
  | request op => exact op.run_coherent hfresh h
  | surroundings write => exact h.elsewhere rfl rfl

theorem sessionSystem_reachable_coherent {c : Config Db String} {moves : List (Move SessionOp Db)}
    (h : Run sessionSystem { state := {} } moves c) : CoherentSessions c.issued c.state :=
  h.invariant (I := fun c => CoherentSessions c.issued c.state)
    ⟨⟨by simp, by simp, by simp, by simp, by simp⟩, by simp, by simp, by simp⟩
    fun hn => sessionSystem_coherent hn

/-- **Refresh-token families are linear.** In every state reachable from the empty database, a
device has at most one live token of its current session, and every token that another stored
token was rotated from is revoked. -/
theorem refreshTokenFamilies_linear {c : Config Db String} {moves : List (Move SessionOp Db)}
    (h : Run sessionSystem { state := {} } moves c) :
    (∀ d ∈ c.state.devices.rows, (c.state.refreshTokens.rows.filter fun t =>
      t.revokedAt = none ∧ t.sessionId ≠ none ∧ t.sessionId = d.sessionId).length ≤ 1) ∧
    (∀ t ∈ c.state.refreshTokens.rows, ∀ r ∈ c.state.refreshTokens.rows,
      r.rotatedFromTokenId = some t.id → t.revokedAt ≠ none) := by
  have hlin := (sessionSystem_reachable_coherent h).linear
  refine ⟨fun d _ => ?_, hlin.rotated_revoked⟩
  rw [← List.countP_eq_length_filter]
  refine countP_le_one_of_unique c.state.refreshTokens.keyed fun t ht t' ht' hp hp' => ?_
  obtain ⟨s, hs⟩ := Option.ne_none_iff_exists'.mp hp.2.1
  exact Or.inl (hlin.one_live t ht t' ht' s hs (hp'.2.2.trans (hp.2.2.symm.trans hs)) hp.1 hp'.1)

/-- An account `u`, for the examples. -/
def oneAccount : Table User :=
  ⟨[{ id := "u", masterPasswordHash := "hash", securityStamp := "stamp" }], by decide⟩

/-- A login, a rotation, a second login on the same device, and a reuse of the first token. -/
def reloginMoves : List (Move SessionOp Db) :=
  let login : DeviceSessionInput :=
    { userId := "u", expectedMasterPasswordHash := "hash", expectedSecurityStamp := "stamp",
      deviceIdentifier := "phone", refreshTokenId := "t1", refreshTokenHash := "h1",
      refreshTokenExpiresAt := 1000, now := 1 }
  let rotate : RotateRefreshTokenInput :=
    { currentTokenId := "t1", expectedSessionId := "t1", userId := "u", deviceId := "u:phone",
      expectedSecurityStamp := "stamp", deviceIdentifier := "phone", nextRefreshTokenId := "t2",
      nextRefreshTokenHash := "h2", nextRefreshTokenExpiresAt := 2000, now := 2 }
  [.surroundings fun db => { db with users := oneAccount },
    .request (.createPasswordGrantSession login),
    .request (.rotateRefreshToken rotate),
    .request (.createPasswordGrantSession
      { login with refreshTokenId := "t3", refreshTokenHash := "h3", now := 3 }),
    .request (.rotateRefreshToken
      { rotate with nextRefreshTokenId := "t4", nextRefreshTokenHash := "h4", now := 4 })]

/-- The state the run ends in. -/
def reloginEnd : Config Db String :=
  (replay (Move.exec SessionOp.run keepSessions) (Move.draws SessionOp.draws) { state := {} }
    reloginMoves).get (by decide)

theorem refreshTokenFamilies_linear_relogin :
    reloginEnd.state.refreshTokens.rows.map (fun t => (t.id, t.revokedAt)) =
        [("t1", some 2), ("t2", some 4), ("t3", none)] ∧
      (∀ d ∈ reloginEnd.state.devices.rows,
        (reloginEnd.state.refreshTokens.rows.filter fun t =>
          t.revokedAt = none ∧ t.sessionId ≠ none ∧ t.sessionId = d.sessionId).length ≤ 1) ∧
      (∀ t ∈ reloginEnd.state.refreshTokens.rows, ∀ r ∈ reloginEnd.state.refreshTokens.rows,
        r.rotatedFromTokenId = some t.id → t.revokedAt ≠ none) :=
  ⟨by decide, refreshTokenFamilies_linear (replay_run (Option.some_get _).symm)⟩

end HonoWarden
