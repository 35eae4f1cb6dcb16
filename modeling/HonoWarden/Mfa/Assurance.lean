import HonoWarden.Mfa.System

/-!
# TOTP assurance is sound

The invariant is `Verified`: a device that carries the proof of a generation is bound to a session
family with a verification of that generation in the log. A login that reuses the device row
clears the proof or brings its own, and the trigger of migration 0027 clears the proofs of an
account before a new generation is proved, so no family inherits the proof of another.

**Headline**: `findSessionTotpAssurance_sound`.
-/

namespace HonoWarden

open Relational

/-! ## Proofs are backed by verifications -/

/-- The proof a device carries was earned by the family it is bound to. -/
def Verified (log : List Verification) (d : Device) : Prop :=
  ∀ generation, d.mfaTotpCredentialGeneration = some generation → ∃ v ∈ log,
    v.userId = d.userId ∧ v.generation = generation ∧ d.sessionId = some v.sessionId

/-- The invariant. -/
def ProofsVerified (log : List Verification) (D : Table Device) : Prop :=
  ∀ d ∈ D.rows, Verified log d

section Verified

variable {log : List Verification} {d d' : Device} {D D' : Table Device}

theorem Verified.of_none (h : d.mfaTotpCredentialGeneration = none) : Verified log d :=
  fun generation hg => by rw [h] at hg; cases hg

theorem Verified.of_mem {v : Verification} (hv : v ∈ log) (huser : v.userId = d.userId)
    (hsession : d.sessionId = some v.sessionId)
    (hgen : d.mfaTotpCredentialGeneration = some v.generation) : Verified log d :=
  fun _ hg => ⟨v, hv, huser, Option.some.inj (hgen.symm.trans hg), hsession⟩

theorem Verified.append (h : Verified log d) (more : List Verification) :
    Verified (log ++ more) d := fun generation hg => by
  obtain ⟨v, hv, hrest⟩ := h generation hg
  exact ⟨v, List.mem_append_left _ hv, hrest⟩

theorem Verified.descends (h : Verified log d) (hd : d.Descends d') : Verified log d' := by
  obtain ⟨-, huser, hsession, hgen | hnone⟩ := hd
  · intro generation hg
    rw [huser, hsession]
    exact h generation (hgen ▸ hg)
  · exact .of_none hnone

theorem ProofsVerified.append (h : ProofsVerified log D) (more : List Verification) :
    ProofsVerified (log ++ more) D := fun d hd => (h d hd).append more

/-- Rows that descend from verified rows are verified. -/
theorem ProofsVerified.descend (h : ProofsVerified log D)
    (hD : ∀ d' ∈ D'.rows, ∃ d ∈ D.rows, Device.Descends d d') : ProofsVerified log D' :=
  fun d' hd' => by
    obtain ⟨d, hd, hdesc⟩ := hD d' hd'
    exact (h d hd).descends hdesc

theorem ProofsVerified.update (h : ProofsVerified log D) {hit : Device → Prop}
    [DecidablePred hit] {set : Device → Device} (hD : D'.rows = updateWhere hit set D.rows)
    (hset : ∀ d, Device.Descends d (set d)) : ProofsVerified log D' :=
  h.descend fun d' hd' => by
    rw [hD] at hd'
    rcases mem_updateWhere_cases hd' with ⟨hd, -⟩ | ⟨d, hd, -, rfl⟩
    · exact ⟨d', hd, rfl, rfl, rfl, Or.inl rfl⟩
    · exact ⟨d, hd, hset d⟩

/-- The trigger of migration 0027. -/
theorem ProofsVerified.cleared {userId : String} (h : ProofsVerified log D)
    (hD : ProofsCleared userId D D') : ProofsVerified log D' :=
  h.update hD fun _ => ⟨rfl, rfl, rfl, Or.inr rfl⟩

/-- Binding a proof to the session of a verification. -/
theorem ProofsVerified.bound (h : ProofsVerified log D) {actor : MfaSessionActor}
    {generation : String} {verifiedAt : Timestamp} (step : Int)
    (hD : ProofBound actor generation verifiedAt D D') :
    ProofsVerified (log ++ [⟨actor.userId, actor.sessionId, generation, step⟩]) D' := by
  intro d' hd'
  rw [hD] at hd'
  rcases mem_updateWhere_cases hd' with ⟨hd, -⟩ | ⟨d, -, ⟨huser, -, hsession, -⟩, rfl⟩
  · exact (h d' hd).append _
  · exact .of_mem (List.mem_append_right _ List.mem_cons_self) huser.symm hsession rfl

/-- A login binds a device to a new family, with the proof it brings or with none. -/
theorem ProofsVerified.login (h : ProofsVerified log D) {fresh : Device}
    {bind : Device → Device} (hbound : DeviceBound D D' fresh bind)
    (hbind : ∀ d, (bind d).id = d.id) {more : List Verification}
    (hproof : ∀ d, d.userId = fresh.userId → Verified (log ++ more) (bind d)) :
    ProofsVerified (log ++ more) D' := by
  intro d' hd'
  rcases hbound.cases hbind hd' with ⟨hd, -⟩ | ⟨d, -, -, huser, rfl⟩
  · exact (h d' hd).append _
  · exact hproof d huser

end Verified

/-! ## Every request keeps the invariant -/

section Step

variable {log : List Verification} {db : Db}

theorem createPasswordGrantSession_verified (input : DeviceSessionInput)
    (h : ProofsVerified log db.devices) :
    ProofsVerified (log ++ ((SessionOp.createPasswordGrantSession input).verification db).toList)
      (createPasswordGrantSession input db).1.devices := by
  cases hv : input.totpVerification with
  | none =>
    rcases createPasswordGrantSession_plain input db hv with
      ⟨hdb, -⟩ | ⟨-, -, D, T, hdb, -, hbound⟩
    · rw [hdb]; exact h.append _
    · rw [hdb]
      exact h.login hbound (fun _ => rfl) fun d _ => .of_none rfl
  | some verification =>
    have hcall : createPasswordGrantSession input db =
        createTotpPasswordGrantSession input verification db := by
      simp only [createPasswordGrantSession, hv]
    rw [hcall]
    rcases createTotpPasswordGrantSession_effect input verification db with
      ⟨hdb, -⟩ | ⟨-, U, -, ⟨hout, D, T, hdb, -, hbound, -⟩ | ⟨-, hdb, -⟩⟩
    · rw [hdb]; exact h.append _
    · have hlog : (SessionOp.createPasswordGrantSession input).verification db =
          some ⟨input.userId, input.refreshTokenId, verification.credentialGeneration,
            verification.acceptedStep⟩ := by
        simp only [SessionOp.verification, hv, hcall, hout, opened_ok]
      rw [hdb, hlog]
      exact h.login hbound (fun _ => rfl) fun d huser =>
        .of_mem (List.mem_append_right _ List.mem_cons_self) huser.symm rfl rfl
    · rw [hdb]; exact h.append _

theorem consumeAuthRequestWithSession_verified (input : ConsumeAuthRequestWithSessionInput)
    (h : ProofsVerified log db.devices) :
    ProofsVerified log (consumeAuthRequestWithSession input db).1.devices := by
  rcases consumeAuthRequestWithSession_effect input db with
    ⟨hdb, -⟩ | ⟨-, -, D, T, A, hdb, -, -, hbound | ⟨rfl, -⟩⟩
  · rwa [hdb]
  · rw [hdb]
    have hlogin : ProofsVerified (log ++ []) D :=
      h.login hbound (fun _ => rfl) fun d _ => .of_none rfl
    rwa [List.append_nil] at hlogin
  · rwa [hdb]

theorem rotationBatch_verified (input : RotateRefreshTokenInput)
    (h : ProofsVerified log db.devices) : ProofsVerified log (rotationBatch input db).1.devices := by
  obtain ⟨D, T, hdb, hD⟩ := rotationBatch_devices input db
  rw [hdb]
  refine h.descend fun d' hd' => ?_
  rcases hD d' hd' with hd | ⟨d, hd, -, -, rfl⟩
  · exact ⟨d', hd, rfl, rfl, rfl, Or.inl rfl⟩
  · exact ⟨d, hd, rfl, rfl, rfl, Or.inl rfl⟩

theorem invalidateRefreshTokenSession_verified (userId deviceId : String) (now : Timestamp)
    (expectedSessionId : Option String) (h : ProofsVerified log db.devices) :
    ProofsVerified log
      (invalidateRefreshTokenSession userId deviceId now expectedSessionId db).1.devices := by
  obtain ⟨D, T, hdb, -, hD⟩ :=
    invalidateRefreshTokenSession_effect userId deviceId now expectedSessionId db
  rw [hdb]
  exact h.update hD fun _ => ⟨rfl, rfl, rfl, Or.inl rfl⟩

theorem rotateRefreshToken_verified (input : RotateRefreshTokenInput)
    (h : ProofsVerified log db.devices) :
    ProofsVerified log (rotateRefreshToken input db).1.devices := by
  have hrot := rotationBatch_verified input h
  unfold rotateRefreshToken
  split
  · rename_i hb; rwa [hb] at hrot
  · rename_i hb; rwa [hb] at hrot
  · rename_i hb
    rw [hb] at hrot
    exact invalidateRefreshTokenSession_verified _ _ _ _ hrot

theorem SessionOp.run_verified (op : SessionOp) (h : ProofsVerified log db.devices) :
    ProofsVerified (log ++ (op.verification db).toList) (op.run db).devices := by
  cases op with
  | createPasswordGrantSession input => exact createPasswordGrantSession_verified input h
  | consumeAuthRequestWithSession input =>
    exact (consumeAuthRequestWithSession_verified input h).append _
  | rotateRefreshToken input => exact (rotateRefreshToken_verified input h).append _
  | rotationBatch input => exact (rotationBatch_verified input h).append _
  | invalidateRefreshTokenSession userId deviceId now expectedSessionId =>
    exact (invalidateRefreshTokenSession_verified _ _ _ _ h).append _
  | revokeCurrentDeviceSession actor revokedAt =>
    obtain ⟨D, T, hdb, -, hD⟩ := revokeCurrentDeviceSession_effect actor revokedAt db
    simp only [SessionOp.run, hdb]
    exact (h.update hD fun _ => ⟨rfl, rfl, rfl, Or.inr rfl⟩).append _
  | revokeDeviceSession userId deviceId revokedAt =>
    obtain ⟨D, T, hdb, hD, -⟩ := revokeDeviceSession_effect userId deviceId revokedAt db
    simp only [SessionOp.run, hdb]
    exact (h.update hD fun _ => ⟨rfl, rfl, rfl, Or.inl rfl⟩).append _
  | revokeOtherDeviceSessions userId currentDeviceId revokedAt =>
    obtain ⟨D, T, hdb, hD, -⟩ :=
      revokeOtherDeviceSessions_effect userId currentDeviceId revokedAt db
    simp only [SessionOp.run, hdb]
    exact (h.update hD fun _ => ⟨rfl, rfl, rfl, Or.inl rfl⟩).append _
  | deleteExpiredRefreshTokens now limit =>
    obtain ⟨T, hdb, -⟩ := deleteExpiredRefreshTokens_effect now limit db
    simp only [SessionOp.run, hdb]
    exact h.append _

/-- **Every request keeps the invariant.** -/
theorem MfaOp.call_verified (op : MfaOp)
    (hfresh : ∀ x ∈ op.draws, ∀ t ∈ db.userTotp.rows, t.credentialGeneration ≠ some x)
    (h : ProofsVerified log db.devices) :
    ProofsVerified (log ++ (op.call db).2.toList) (op.call db).1.devices := by
  cases op with
  | session op => exact op.run_verified h
  | consumeTotpSessionStepUp input =>
    rcases consumeTotpSessionStepUp_effect input db with
      ⟨hdb, hout⟩ | ⟨hout, -, U, D, hdb, -, hD⟩
    · simpa only [MfaOp.call, hdb, reported_of_ne hout] using h.append _
    · simpa only [MfaOp.call, hdb, hout, reported_ok, Option.toList_some] using h.bound _ hD
  | createPendingTotpSetupForSession input =>
    rcases createPendingTotpSetupForSession_effect input db with
      ⟨hdb, -⟩ | ⟨-, U, D, hdb, ⟨-, rfl, -⟩ | ⟨-, hD, -⟩⟩
    · simpa only [MfaOp.call, hdb] using h.append _
    · simpa only [MfaOp.call, hdb] using h.append _
    · simpa only [MfaOp.call, hdb] using (h.cleared hD).append _
  | startPendingTotpChangeForSession input =>
    rcases startPendingTotpChangeForSession_effect input db with
      ⟨hdb, hout⟩ | ⟨hout, -, U, D, hdb, -, hD⟩
    · simpa only [MfaOp.call, hdb, reported_of_ne hout] using h.append _
    · simpa only [MfaOp.call, hdb, hout, reported_ok, Option.toList_some] using h.bound _ hD
  | enableTotpSetupForSession input generation =>
    rcases enableTotpSetupForSession_effect input generation db
        (hfresh _ List.mem_cons_self) with
      ⟨hdb, hout⟩ | ⟨hout, -, U, D₁, D, hdb, -, hcleared, hD⟩
    · simpa only [MfaOp.call, hdb, reported_of_ne hout] using h.append _
    · simpa only [MfaOp.call, hdb, hout, reported_ok, Option.toList_some] using (h.cleared hcleared).bound _ hD
  | promotePendingTotpChangeForSession input generation =>
    rcases promotePendingTotpChangeForSession_effect input generation db
        (hfresh _ List.mem_cons_self) with
      ⟨hdb, hout⟩ | ⟨hout, -, U, D₁, D, hdb, -, hcleared, hD⟩
    · simpa only [MfaOp.call, hdb, reported_of_ne hout] using h.append _
    · simpa only [MfaOp.call, hdb, hout, reported_ok, Option.toList_some] using (h.cleared hcleared).bound _ hD
  | disableTotpSetupForSession input =>
    rcases disableTotpSetupForSession_effect input db with
      ⟨hdb, -⟩ | ⟨-, -, U, D, V, A, hdb, -, hD, -⟩
    · simpa only [MfaOp.call, hdb] using h.append _
    · simpa only [MfaOp.call, hdb] using (h.cleared hD).append _

end Step

/-- The proofs and the generations of a state. -/
def MfaInvariant (c : Config MfaState String) : Prop :=
  ProofsVerified c.state.log c.state.db.devices ∧
    GenerationsIssued c.issued c.state.db.userTotp

theorem mfaSystem_verified {c c' : Config MfaState String} {move : Move MfaOp MfaState}
    (hnext : mfaSystem.Next c move c') (h : MfaInvariant c) : MfaInvariant c' := by
  refine ⟨?_, mfaSystem_generationsIssued hnext h.2⟩
  obtain ⟨hrun, hfresh, -⟩ := hnext
  rw [hrun]
  cases move with
  | request op => exact op.call_verified (h.2.fresh hfresh) h.1
  | surroundings write =>
    simp only [Move.exec, keepFactors]
    split
    · rename_i hkeep
      refine h.1.descend fun d' hd' => ?_
      obtain ⟨d, hd, hdesc, -⟩ := hkeep.1 d' hd'
      exact ⟨d, hd, hdesc⟩
    · exact h.1

/-- **TOTP assurance is sound.** In every reachable state, a session family that
`findSessionTotpAssurance` vouches for has itself reported a verification, under the generation
that the factor of the account is in. -/
theorem findSessionTotpAssurance_sound {c : Config MfaState String}
    {moves : List (Move MfaOp MfaState)} (h : Run mfaSystem { state := {} } moves c)
    {actor : MfaSessionActor} (hassured : findSessionTotpAssurance c.state.db actor = true) :
    ∃ ut ∈ c.state.db.userTotp.rows, ut.userId = actor.userId ∧ ut.Enrolled ∧
      ∃ v ∈ c.state.log, v.userId = actor.userId ∧ v.sessionId = actor.sessionId ∧
        ut.credentialGeneration = some v.generation := by
  have hinv : MfaInvariant c := h.invariant ⟨by simp [ProofsVerified], by simp [GenerationsIssued]⟩
    fun hn => mfaSystem_verified hn
  obtain ⟨d, hd, -, ut, hut, hutd, huser, ⟨-, hsession, -⟩, henrolled, hproof, -⟩ :=
    of_decide_eq_true hassured
  obtain ⟨generation, hgen⟩ := Option.ne_none_iff_exists'.mp henrolled.2.2
  obtain ⟨v, hv, hvuser, hvgen, hvsession⟩ := hinv.1 d hd generation (hproof.trans hgen)
  refine ⟨ut, hut, hutd.trans huser, henrolled, v, hv, hvuser.trans huser, ?_, hvgen ▸ hgen⟩
  exact Option.some.inj (hvsession.symm.trans hsession)

/-- An account is created, logs in, sets a factor up and enables it with step 5. -/
def enrolMoves : List (Move MfaOp MfaState) :=
  [.surroundings fun s => { s with db := { s.db with users := oneAccount } },
    .request (.session (.createPasswordGrantSession
      { userId := "u", expectedMasterPasswordHash := "hash", expectedSecurityStamp := "stamp",
        deviceIdentifier := "phone", refreshTokenId := "t1", refreshTokenHash := "h1",
        refreshTokenExpiresAt := 1000, now := 1 })),
    .request (.createPendingTotpSetupForSession
      { userId := "u", deviceIdentifier := "phone", sessionId := "t1", encryptedSecret := "secret",
        now := 2 }),
    .request (.enableTotpSetupForSession
      { userId := "u", deviceIdentifier := "phone", sessionId := "t1",
        expectedEncryptedSecret := "secret", acceptedStep := 5, verifiedAt := 3 } "g1")]

def enrolEnd : Config MfaState String :=
  (replay (Move.exec MfaOp.exec keepFactors) (Move.draws MfaOp.draws) { state := {} }
    enrolMoves).get (by decide)

theorem findSessionTotpAssurance_sound_enrolled :
    ∃ ut ∈ enrolEnd.state.db.userTotp.rows, ut.userId = "u" ∧ ut.Enrolled ∧
      ∃ v ∈ enrolEnd.state.log, v.userId = "u" ∧ v.sessionId = "t1" ∧
        ut.credentialGeneration = some v.generation := by
  have hassured : findSessionTotpAssurance enrolEnd.state.db
      { userId := "u", deviceIdentifier := "phone", sessionId := "t1" } = true := by decide
  exact findSessionTotpAssurance_sound (replay_run (Option.some_get _).symm) hassured

end HonoWarden
