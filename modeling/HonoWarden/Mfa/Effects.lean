import HonoWarden.Mfa.Repository

/-!
# What the TOTP batches can do

One lemma for each request of `Mfa/Repository.lean`. A request that reports success has found the
factor and the session it asks for, changed the factor, and bound the proof to that one session;
a request that reports anything else has left the database alone.

* `sessionProofStatement_one`: after one direct change, the proof statement writes exactly the
  device of the session, so the count `completedProofBatch` reads is 1;
* `consumeTotpSessionStepUp_effect`, `startPendingTotpChangeForSession_effect`: a step is consumed;
* `enableTotpSetupForSession_effect`, `promotePendingTotpChangeForSession_effect`: a generation
  is put in force;
* `createPendingTotpSetupForSession_effect`, `disableTotpSetupForSession_effect`: a factor is
  started again or deleted, and the proofs of its account are cleared.
-/

namespace HonoWarden

open Relational

/-- The devices after the proof of `generation` was bound to the session of `actor`. -/
def ProofBound (actor : MfaSessionActor) (generation : String) (verifiedAt : Timestamp)
    (D D' : Table Device) : Prop :=
  D'.rows = updateWhere (fun d => d.userId = actor.userId ∧ actor.Holds d)
    (Device.prove generation verifiedAt) D.rows

/-- The devices after the proofs of the account `userId` were cleared. -/
def ProofsCleared (userId : String) (D D' : Table Device) : Prop :=
  D'.rows = updateWhere (fun d => d.userId = userId) Device.clearMfa D.rows

theorem keepsKeys_clearMfa : KeepsKeys Device.clearMfa := fun _ => ⟨rfl, fun _ h => h⟩

section Statements

variable {actor : MfaSessionActor} {generation : String} {verifiedAt : Timestamp} {db db' : Db}
  {r : StatementResult}

/-- One session family holds at most one device. -/
theorem MfaSessionActor.countP_holds (actor : MfaSessionActor) (D : Table Device) :
    D.rows.countP (fun d => d.userId = actor.userId ∧ actor.Holds d) = 1 ↔
      ∃ d ∈ D.rows, d.userId = actor.userId ∧ actor.Holds d :=
  countP_eq_one_iff_of_unique D.keyed fun _ _ _ _ ha hb =>
    Or.inr ⟨ha.1.trans hb.1.symm, ha.2.1.trans hb.2.1.symm⟩

/-- After one direct change the proof is bound to the session, and to nothing else. -/
theorem sessionProofStatement_one
    (hst : sessionProofStatement actor generation verifiedAt db 1 = .ok (db', r))
    (hfactor : ∃ ut ∈ db.userTotp.rows, ut.userId = actor.userId ∧ ut.enabled = true ∧
      ut.verifiedAt ≠ none ∧ ut.credentialGeneration = some generation)
    (hheld : ∃ d ∈ db.devices.rows, d.userId = actor.userId ∧ actor.Holds d) :
    r.metaChanges = 1 ∧ ∃ D, db' = { db with devices := D } ∧
      ProofBound actor generation verifiedAt db.devices D := by
  obtain ⟨D, hD, rfl, hc, hm⟩ := TableIn.update_ok hst
  have hiff : ∀ d : Device, (1 = 1 ∧ d.userId = actor.userId ∧ actor.Holds d ∧
      ∃ ut ∈ db.userTotp.rows, ut.userId = d.userId ∧ ut.enabled = true ∧ ut.verifiedAt ≠ none ∧
        ut.credentialGeneration = some generation) ↔
      d.userId = actor.userId ∧ actor.Holds d := by
    refine fun d => ⟨fun h => ⟨h.2.1, h.2.2.1⟩, fun h => ⟨rfl, h.1, h.2, ?_⟩⟩
    rw [h.1]
    exact hfactor
  refine ⟨?_, D, rfl, hD.trans (updateWhere_congr fun d _ => hiff d)⟩
  exact hm.trans (hc.trans ((countP_congr_prop fun d _ => hiff d).trans
    ((actor.countP_holds db.devices).mpr hheld)))

/-- Without that change it does nothing. -/
theorem sessionProofStatement_other {n : Nat}
    (hst : sessionProofStatement actor generation verifiedAt db n = .ok (db', r)) (hn : n ≠ 1) :
    db' = db ∧ r.metaChanges = 0 := by
  obtain ⟨D, hD, rfl, hc, hm⟩ := TableIn.update_ok hst
  have hD' : D = db.devices :=
    Table.ext (hD.trans (updateWhere_eq_self fun d _ h => hn h.1))
  refine ⟨by rw [hD'], ?_⟩
  rw [hm, hc, List.countP_eq_zero]
  exact fun d _ h => hn (by simpa using h : n = 1 ∧ _).1

end Statements

/-- The account of a factor has at most one. -/
theorem countP_factor {U : Table UserTotp} {p : UserTotp → Prop} [DecidablePred p]
    {userId : String} (hp : ∀ t, p t → t.userId = userId) :
    U.rows.countP p = if ∃ t ∈ U.rows, p t then 1 else 0 := by
  split
  · rename_i h; exact (Table.countP_eq_one_iff U userId hp).mpr h
  · rename_i h
    rw [List.countP_eq_zero]
    exact fun t ht hpt => h ⟨t, ht, by simpa using hpt⟩

/-- What a proof batch reports, from the count of its last statement. -/
theorem completedProofBatch_two (r r' : StatementResult) (h : r'.metaChanges ≤ 1) :
    completedProofBatch 2 [r, r'] = .ok (r'.metaChanges = 1) := by
  simp [completedProofBatch, Nat.not_lt.mpr h]

theorem completedProofBatch_three (r r' r'' : StatementResult) (h : r''.metaChanges ≤ 1) :
    completedProofBatch 3 [r, r', r''] = .ok (r''.metaChanges = 1) := by
  simp [completedProofBatch, Nat.not_lt.mpr h]

/-! ## Consuming a step -/

/-- **The step-up.** -/
theorem consumeTotpSessionStepUp_effect (input : TotpStepUpInput) (db : Db) :
    ((consumeTotpSessionStepUp input db).1 = db ∧
      (consumeTotpSessionStepUp input db).2 ≠ .ok true) ∨
    ((consumeTotpSessionStepUp input db).2 = .ok true ∧
      (∃ t ∈ db.userTotp.rows, input.Factor db t) ∧
      ∃ U D, (consumeTotpSessionStepUp input db).1 = { db with userTotp := U, devices := D } ∧
        U.rows = updateWhere (input.Factor db) (UserTotp.acceptStep input.acceptedStep input.now)
          db.userTotp.rows ∧
        ProofBound input.toMfaSessionActor input.credentialGeneration input.now db.devices D) := by
  unfold consumeTotpSessionStepUp
  split
  swap
  · exact Or.inl ⟨rfl, by simp⟩
  rcases commit_cases [consumeStepStatement input,
      sessionProofStatement input.toMfaSessionActor input.credentialGeneration input.now]
      (completedProofBatch 2) db with ⟨hdb, e, he⟩ | ⟨db₂, rs, hrun, hdb, hout⟩
  · exact Or.inl ⟨hdb, by rw [he]; simp⟩
  obtain ⟨db₁, r₁, rs₁, hstep, hrun₁, rfl⟩ := runFrom_cons hrun
  obtain ⟨db₂', r₂, rs₂, hproof, hrun₂, rfl⟩ := runFrom_cons hrun₁
  obtain ⟨rfl, rfl⟩ := runFrom_nil hrun₂
  obtain ⟨U, hU, rfl, hc, -⟩ := TableIn.update_ok hstep
  rw [hdb, hout]
  simp only at hU hc hproof ⊢
  rw [countP_factor fun t ht => ht.1] at hc
  by_cases hfactor : ∃ t ∈ db.userTotp.rows, input.Factor db t
  · right
    rw [if_pos hfactor] at hc
    obtain ⟨t, ht, hft⟩ := id hfactor
    obtain ⟨huser, henabled, hverified, hgen, -, d, hd, -, hduser, hheld⟩ := id hft
    have hmem : UserTotp.acceptStep input.acceptedStep input.now t ∈ U.rows := by
      rw [hU]; exact mem_updateWhere_of_hit ht hft
    rw [hc] at hproof
    obtain ⟨hone, D, rfl, hD⟩ := sessionProofStatement_one hproof
      ⟨_, hmem, huser, henabled, hverified, hgen⟩ ⟨d, hd, hduser.trans huser, hheld⟩
    refine ⟨?_, hfactor, U, D, rfl, hU, hD⟩
    rw [completedProofBatch_two _ _ (Nat.le_of_eq hone)]
    simp [hone, Except.mapError]
  · left
    rw [if_neg hfactor] at hc
    obtain ⟨rfl, hzero⟩ := sessionProofStatement_other hproof (by omega)
    have hU' : U = db.userTotp :=
      Table.ext (hU.trans (updateWhere_eq_self fun t ht h => hfactor ⟨t, ht, h⟩))
    refine ⟨by rw [hU'], ?_⟩
    rw [completedProofBatch_two _ _ (by omega)]
    simp [hzero, Except.mapError]

/-- The factor after a change start: the step is consumed and the new secret waits. -/
def TotpChangeStartInput.store (input : TotpChangeStartInput) (t : UserTotp) : UserTotp :=
  { UserTotp.acceptStep input.acceptedStep input.now t with
    pendingEncryptedSecret := some input.encryptedSecret
    pendingCreatedAt := some input.now }

/-- **The change start.** -/
theorem startPendingTotpChangeForSession_effect (input : TotpChangeStartInput) (db : Db) :
    ((startPendingTotpChangeForSession input db).1 = db ∧
      (startPendingTotpChangeForSession input db).2 ≠ .ok true) ∨
    ((startPendingTotpChangeForSession input db).2 = .ok true ∧
      (∃ t ∈ db.userTotp.rows, input.toTotpStepUpInput.Factor db t) ∧
      ∃ U D, (startPendingTotpChangeForSession input db).1 =
          { db with userTotp := U, devices := D } ∧
        U.rows = updateWhere (input.toTotpStepUpInput.Factor db) input.store db.userTotp.rows ∧
        ProofBound input.toMfaSessionActor input.credentialGeneration input.now db.devices D) := by
  unfold startPendingTotpChangeForSession
  split
  swap
  · exact Or.inl ⟨rfl, by simp⟩
  rcases commit_cases [consumeStepStatement input.toTotpStepUpInput, storePendingSecret input,
      sessionProofStatement input.toMfaSessionActor input.credentialGeneration input.now]
      (completedProofBatch 3) db with ⟨hdb, e, he⟩ | ⟨db₃, rs, hrun, hdb, hout⟩
  · exact Or.inl ⟨hdb, by rw [he]; simp⟩
  obtain ⟨db₁, r₁, rs₁, hstep, hrun₁, rfl⟩ := runFrom_cons hrun
  obtain ⟨db₂, r₂, rs₂, hstore, hrun₂, rfl⟩ := runFrom_cons hrun₁
  obtain ⟨db₃', r₃, rs₃, hproof, hrun₃, rfl⟩ := runFrom_cons hrun₂
  obtain ⟨rfl, rfl⟩ := runFrom_nil hrun₃
  obtain ⟨U₁, hU₁, rfl, hc₁, -⟩ := TableIn.update_ok hstep
  obtain ⟨U₂, hU₂, rfl, hc₂, -⟩ := TableIn.update_ok hstore
  rw [hdb, hout]
  simp only at hU₁ hc₁ hU₂ hc₂ hproof ⊢
  rw [countP_factor fun t ht => ht.1] at hc₁
  rw [countP_factor fun t ht => ht.2.1] at hc₂
  by_cases hfactor : ∃ t ∈ db.userTotp.rows, input.toTotpStepUpInput.Factor db t
  · right
    rw [if_pos hfactor] at hc₁
    obtain ⟨t, ht, hft⟩ := id hfactor
    obtain ⟨huser, henabled, hverified, hgen, -, d, hd, hactive, hduser, hheld⟩ := id hft
    -- the second statement meets the factor whose step was just consumed, and no other
    have hU : U₂.rows = updateWhere (input.toTotpStepUpInput.Factor db) input.store
        db.userTotp.rows := by
      rw [hU₂, hU₁]
      refine updateWhere_updateWhere (fun a _ hfa => ?_) fun a ha hfa hst => ?_
      · exact ⟨hc₁, hfa.1, hfa.2.1, hfa.2.2.2.1, hfa.2.2.2.2.2⟩
      · obtain rfl := db.userTotp.eq_of_key ha ht (hst.2.1.trans huser.symm)
        exact hfa hft
    have hone₂ : r₂.changes = 1 := by
      rw [hc₂, if_pos]
      refine ⟨UserTotp.acceptStep input.acceptedStep input.now t, ?_, hc₁, huser, henabled, hgen,
        d, hd, hactive, hduser, hheld⟩
      rw [hU₁]
      exact mem_updateWhere_of_hit ht hft
    have hmem : input.store t ∈ U₂.rows := by rw [hU]; exact mem_updateWhere_of_hit ht hft
    rw [hone₂] at hproof
    obtain ⟨hone, D, rfl, hD⟩ := sessionProofStatement_one hproof
      ⟨_, hmem, huser, henabled, hverified, hgen⟩ ⟨d, hd, hduser.trans huser, hheld⟩
    refine ⟨?_, hfactor, U₂, D, rfl, hU, hD⟩
    rw [completedProofBatch_three _ _ _ (Nat.le_of_eq hone)]
    simp [hone, Except.mapError]
  · left
    rw [if_neg hfactor] at hc₁
    have hU₁' : U₁ = db.userTotp :=
      Table.ext (hU₁.trans (updateWhere_eq_self fun t ht h => hfactor ⟨t, ht, h⟩))
    have hU₂' : U₂ = U₁ := Table.ext (hU₂.trans (updateWhere_eq_self fun t _ h => by omega))
    have hzero₂ : r₂.changes = 0 := by
      rw [hc₂, if_neg]
      rintro ⟨t, -, h, -⟩
      omega
    obtain ⟨rfl, hzero⟩ := sessionProofStatement_other hproof (by omega)
    refine ⟨by rw [hU₂', hU₁'], ?_⟩
    rw [completedProofBatch_three _ _ _ (by omega)]
    simp [hzero, Except.mapError]

/-! ## Putting a generation in force -/

/-- A batch that changes the factor to `set`, under the trigger, and then renews the proof of the
session; what an enrolment and a promotion share. -/
theorem renewFactor_effect (actor : MfaSessionActor) (generation : String)
    (verifiedAt : Timestamp) (hit : Db → UserTotp → Prop) [∀ db, DecidablePred (hit db)]
    (set : UserTotp → UserTotp) (db : Db)
    (hhit : ∀ t, hit db t → t.userId = actor.userId ∧ actor.ActiveSession db t.userId)
    (hset : ∀ t, hit db t → (set t).userId = t.userId ∧ (set t).enabled = true ∧
      (set t).verifiedAt ≠ none ∧ (set t).credentialGeneration = some generation)
    (hfresh : ∀ t ∈ db.userTotp.rows, t.credentialGeneration ≠ some generation)
    {call : Db × Except Failure Bool}
    (hcall : call = commit [Db.userTotpIn.updateTriggering (fun db _ => hit db) (fun _ => set)
        (fun _ => []) invalidateSessionMfaOnTotpChange,
      sessionProofStatement actor generation verifiedAt] (completedProofBatch 2) db) :
    (call.1 = db ∧ call.2 ≠ .ok true) ∨
    (call.2 = .ok true ∧ (∃ t ∈ db.userTotp.rows, hit db t) ∧
      ∃ U D₁ D, call.1 = { db with userTotp := U, devices := D } ∧
        U.rows = updateWhere (hit db) set db.userTotp.rows ∧
        ProofsCleared actor.userId db.devices D₁ ∧
        ProofBound actor generation verifiedAt D₁ D) := by
  rw [hcall]
  rcases commit_cases [Db.userTotpIn.updateTriggering (fun db _ => hit db) (fun _ => set)
        (fun _ => []) invalidateSessionMfaOnTotpChange,
      sessionProofStatement actor generation verifiedAt] (completedProofBatch 2) db with
    ⟨hdb, e, he⟩ | ⟨db₂, rs, hrun, hdb, hout⟩
  · exact Or.inl ⟨hdb, by rw [he]; simp⟩
  obtain ⟨db₁, r₁, rs₁, hstep, hrun₁, rfl⟩ := runFrom_cons hrun
  obtain ⟨db₂', r₂, rs₂, hproof, hrun₂, rfl⟩ := runFrom_cons hrun₁
  obtain ⟨rfl, rfl⟩ := runFrom_nil hrun₂
  obtain ⟨U, hU, hdb₁, hc, -⟩ := TableIn.updateTriggering_ok hstep
  obtain ⟨D₁, hfire, hD₁⟩ := TableIn.nestedUpdate_eq Db.devicesIn
    (fun d => ∃ image ∈ (db.userTotp.rows.filter fun t => hit db t).map fun t => (t, set t),
      (image.2.enabled ≠ true ∨ image.2.credentialGeneration ≠ image.1.credentialGeneration) ∧
      d.userId = image.2.userId) Device.clearMfa { db with userTotp := U } keepsKeys_clearMfa
  obtain rfl : db₁ = { db with userTotp := U, devices := D₁ } := hdb₁.trans hfire
  rw [hdb, hout]
  simp only at hU hc hproof hD₁ ⊢
  rw [countP_factor fun t ht => (hhit t ht).1] at hc
  by_cases hfactor : ∃ t ∈ db.userTotp.rows, hit db t
  · right
    rw [if_pos hfactor] at hc
    obtain ⟨t, ht, hft⟩ := id hfactor
    obtain ⟨huser, d, hd, hactive, hduser, hheld⟩ := hhit t hft
    obtain ⟨hsuser, henabled, hverified, hgen⟩ := hset t hft
    have hcleared : ProofsCleared actor.userId db.devices D₁ := by
      refine hD₁.trans (updateWhere_congr fun e _ => ⟨?_, fun he => ?_⟩)
      · rintro ⟨image, himage, -, heq⟩
        obtain ⟨a, ha, rfl⟩ := List.mem_map.mp himage
        have hfa : hit db a := by simpa using (List.mem_filter.mp ha).2
        exact heq.trans ((hset a hfa).1.trans (hhit a hfa).1)
      · refine ⟨(t, set t), List.mem_map_of_mem (List.mem_filter.mpr ⟨ht, by simpa using hft⟩),
          Or.inr ?_, he.trans (huser.symm.trans hsuser.symm)⟩
        simp only [hgen]
        exact fun h => hfresh t ht h.symm
    have hmem : set t ∈ U.rows := by rw [hU]; exact mem_updateWhere_of_hit ht hft
    have hheld₁ : d.clearMfa ∈ D₁.rows := by
      rw [hcleared]; exact mem_updateWhere_of_hit hd (hduser.trans huser)
    rw [hc] at hproof
    obtain ⟨hone, D, rfl, hD⟩ := sessionProofStatement_one hproof
      ⟨_, hmem, hsuser.trans huser, henabled, hverified, hgen⟩
      ⟨_, hheld₁, hduser.trans huser, hheld⟩
    refine ⟨?_, hfactor, U, D₁, D, rfl, hU, hcleared, hD⟩
    rw [completedProofBatch_two _ _ (Nat.le_of_eq hone)]
    simp [hone, Except.mapError]
  · left
    rw [if_neg hfactor] at hc
    have hU' : U = db.userTotp :=
      Table.ext (hU.trans (updateWhere_eq_self fun t ht h => hfactor ⟨t, ht, h⟩))
    have hD₁' : D₁ = db.devices := by
      refine Table.ext (hD₁.trans (updateWhere_eq_self ?_))
      rintro e - ⟨image, himage, -⟩
      obtain ⟨a, ha, rfl⟩ := List.mem_map.mp himage
      obtain ⟨ha, hfa⟩ := List.mem_filter.mp ha
      exact hfactor ⟨a, ha, by simpa using hfa⟩
    obtain ⟨rfl, hzero⟩ := sessionProofStatement_other hproof (by omega)
    refine ⟨by rw [hU', hD₁'], ?_⟩
    rw [completedProofBatch_two _ _ (by omega)]
    simp [hzero, Except.mapError]

/-- **The enrolment**, with a generation no factor has. -/
theorem enableTotpSetupForSession_effect (input : TotpEnrollmentInput) (generation : String)
    (db : Db) (hfresh : ∀ t ∈ db.userTotp.rows, t.credentialGeneration ≠ some generation) :
    ((enableTotpSetupForSession input generation db).1 = db ∧
      (enableTotpSetupForSession input generation db).2 ≠ .ok true) ∨
    ((enableTotpSetupForSession input generation db).2 = .ok true ∧
      (∃ t ∈ db.userTotp.rows, input.Factor db t) ∧
      ∃ U D₁ D, (enableTotpSetupForSession input generation db).1 =
          { db with userTotp := U, devices := D } ∧
        U.rows = updateWhere (input.Factor db) (input.enable generation) db.userTotp.rows ∧
        ProofsCleared input.userId db.devices D₁ ∧
        ProofBound input.toMfaSessionActor generation input.verifiedAt D₁ D) := by
  unfold enableTotpSetupForSession
  split
  · exact renewFactor_effect input.toMfaSessionActor generation input.verifiedAt input.Factor
      (input.enable generation) db (fun t ht => ⟨ht.1, ht.2.2.2.2⟩)
      (fun t _ => ⟨rfl, rfl, Option.some_ne_none _, rfl⟩) hfresh rfl
  · exact Or.inl ⟨rfl, by simp⟩

/-- **The promotion**, with a generation no factor has. -/
theorem promotePendingTotpChangeForSession_effect (input : TotpPromotionInput)
    (generation : String) (db : Db)
    (hfresh : ∀ t ∈ db.userTotp.rows, t.credentialGeneration ≠ some generation) :
    ((promotePendingTotpChangeForSession input generation db).1 = db ∧
      (promotePendingTotpChangeForSession input generation db).2 ≠ .ok true) ∨
    ((promotePendingTotpChangeForSession input generation db).2 = .ok true ∧
      (∃ t ∈ db.userTotp.rows, input.Factor db t) ∧
      ∃ U D₁ D, (promotePendingTotpChangeForSession input generation db).1 =
          { db with userTotp := U, devices := D } ∧
        U.rows = updateWhere (input.Factor db) (input.promote generation) db.userTotp.rows ∧
        ProofsCleared input.userId db.devices D₁ ∧
        ProofBound input.toMfaSessionActor generation input.verifiedAt D₁ D) := by
  unfold promotePendingTotpChangeForSession
  split
  · exact renewFactor_effect input.toMfaSessionActor generation input.verifiedAt input.Factor
      (input.promote generation) db (fun t ht => ⟨ht.1, ht.2.2.2.2.2⟩)
      (fun t ht => ⟨rfl, ht.2.1, Option.some_ne_none _, rfl⟩) hfresh rfl
  · exact Or.inl ⟨rfl, by simp⟩

/-! ## Starting a factor again, deleting it -/

theorem invalidateSessionMfaOnTotpChange_nil (db : Db) :
    (invalidateSessionMfaOnTotpChange [] db).1 = db := by
  obtain ⟨D, hdb, hD⟩ := TableIn.nestedUpdate_eq Db.devicesIn
    (fun d => ∃ image ∈ ([] : List (UserTotp × UserTotp)), (image.2.enabled ≠ true ∨
      image.2.credentialGeneration ≠ image.1.credentialGeneration) ∧ d.userId = image.2.userId)
    Device.clearMfa db keepsKeys_clearMfa
  refine hdb.trans ?_
  rw [Table.ext (hD.trans (updateWhere_eq_self (by simp)))]

/-- **The setup.** It inserts a pending factor, or starts the account's pending factor again and
clears the proofs of the account; it never touches an enabled factor. -/
theorem createPendingTotpSetupForSession_effect (input : TotpSetupStartInput) (db : Db) :
    ((createPendingTotpSetupForSession input db).1 = db ∧
      (createPendingTotpSetupForSession input db).2 ≠ .ok true) ∨
    ((createPendingTotpSetupForSession input db).2 = .ok true ∧
      ∃ U D, (createPendingTotpSetupForSession input db).1 =
          { db with userTotp := U, devices := D } ∧
        ((∀ t ∈ db.userTotp.rows, t.userId ≠ input.userId) ∧ D = db.devices ∧
            U.rows = db.userTotp.rows ++ [input.row] ∨
          (∃ t ∈ db.userTotp.rows, t.userId = input.userId ∧ t.enabled = false) ∧
            ProofsCleared input.userId db.devices D ∧
            U.rows = updateWhere (fun t => t.userId = input.userId) input.restart
              db.userTotp.rows)) := by
  unfold createPendingTotpSetupForSession
  rcases execute_cases (upsertPendingSetup input) (fun result => .ok (result.rows.length = 1 : Bool))
      db with ⟨hdb, e, he⟩ | ⟨db₁, r, hrun, hdb, hout⟩
  · exact Or.inl ⟨hdb, by rw [he]; simp⟩
  rw [hdb, hout]
  rcases TableIn.upsertTriggering_cases (fun db U hU => by rw [Table.ext hU])
      invalidateSessionMfaOnTotpChange_nil hrun with ⟨rfl, hrows⟩ | ⟨row, hrow, hcases⟩
  · exact Or.inl ⟨rfl, by simp [hrows, Except.mapError]⟩
  obtain rfl : input.row = row := by
    split at hrow
    · exact Option.some.inj hrow
    · cases hrow
  right
  rcases hcases with ⟨hnew, hrows, U, hU, rfl⟩ | ⟨old, hold, hkey, row', hconf, hrows, U, hU, rfl⟩
  · exact ⟨by simp [hrows, Except.mapError], U, db.devices, rfl, Or.inl ⟨hnew, rfl, hU⟩⟩
  · split at hconf
    swap
    · cases hconf
    rename_i hpending
    obtain rfl := Option.some.inj hconf
    obtain ⟨D, hfire, hD⟩ := TableIn.nestedUpdate_eq Db.devicesIn
      (fun d => ∃ image ∈ [(old, input.restart old)], (image.2.enabled ≠ true ∨
        image.2.credentialGeneration ≠ image.1.credentialGeneration) ∧ d.userId = image.2.userId)
      Device.clearMfa { db with userTotp := U } keepsKeys_clearMfa
    refine ⟨by simp [hrows, Except.mapError], U, D, hfire, Or.inr
      ⟨⟨old, hold, hkey, hpending⟩, hD.trans (updateWhere_congr fun d _ => ⟨?_, fun hd => ?_⟩), ?_⟩⟩
    · rintro ⟨image, himage, -, hd⟩
      obtain rfl := List.mem_singleton.mp himage
      exact hd.trans hkey
    · refine ⟨_, List.mem_singleton_self _, Or.inl ?_, hd.trans hkey.symm⟩
      simp [TotpSetupStartInput.restart, hpending]
    · exact hU.trans (updateWhere_only (fun _ _ => Iff.rfl) fun t ht h =>
        db.userTotp.eq_of_key ht hold (h.trans hkey.symm))

/-- **The disabling.** -/
theorem disableTotpSetupForSession_effect (input : TotpDisableInput) (db : Db) :
    ((disableTotpSetupForSession input db).1 = db ∧
      (disableTotpSetupForSession input db).2 ≠ .ok true) ∨
    ((disableTotpSetupForSession input db).2 = .ok true ∧
      (∃ t ∈ db.userTotp.rows, input.Factor db t) ∧
      ∃ U D V A, (disableTotpSetupForSession input db).1 =
          { db with userTotp := U, devices := D, users := V, auditEvents := A } ∧
        U.rows = deleteWhere (fun t => t.userId = input.userId) db.userTotp.rows ∧
        ProofsCleared input.userId db.devices D ∧
        V.rows = updateWhere (fun u => u.id = input.userId) (User.touch input.now)
          db.users.rows ∧
        A.rows = db.auditEvents.rows ++ [input.auditEvent]) := by
  unfold disableTotpSetupForSession
  rcases commit_cases [deleteFactor input, touchDisabledAccount input, insertDisableAudit input]
      interpretDisableBatch db with ⟨hdb, e, he⟩ | ⟨db₃, rs, hrun, hdb, hout⟩
  · exact Or.inl ⟨hdb, by rw [he]; simp⟩
  obtain ⟨db₁, r₁, rs₁, hdel, hrun₁, rfl⟩ := runFrom_cons hrun
  obtain ⟨db₂, r₂, rs₂, htouch, hrun₂, rfl⟩ := runFrom_cons hrun₁
  obtain ⟨db₃', r₃, rs₃, haudit, hrun₃, rfl⟩ := runFrom_cons hrun₂
  obtain ⟨rfl, rfl⟩ := runFrom_nil hrun₃
  obtain ⟨U, hU, hdb₁, hc₁, hrows₁⟩ := TableIn.deleteTriggering_ok hdel
  obtain ⟨D, hfire, hD⟩ := TableIn.nestedUpdate_eq Db.devicesIn
    (fun d => ∃ old ∈ db.userTotp.rows.filter fun t => input.Factor db t, d.userId = old.userId)
    Device.clearMfa { db with userTotp := U } keepsKeys_clearMfa
  obtain rfl : db₁ = { db with userTotp := U, devices := D } := hdb₁.trans hfire
  obtain ⟨V, hV, rfl, hc₂, -⟩ := TableIn.update_ok htouch
  obtain ⟨A, hA, rfl, hc₃, hm₃⟩ := TableIn.insertSelect_ok haudit
  rw [hdb, hout]
  simp only at hU hc₁ hrows₁ hD hV hc₂ hA hc₃ ⊢
  rw [countP_factor fun t ht => ht.1] at hc₁
  by_cases hfactor : ∃ t ∈ db.userTotp.rows, input.Factor db t
  · right
    rw [if_pos hfactor] at hc₁
    obtain ⟨t, ht, hft⟩ := id hfactor
    obtain ⟨huser, -, -, ⟨d, hd, ⟨u, hu, hud, hactive⟩, hduser, -⟩, -⟩ := id hft
    have huid : u.id = input.userId := hud.trans (hduser.trans huser)
    have hsel : db.userTotp.rows.filter (fun t => input.Factor db t) = [t] :=
      Table.filter_eq_singleton _ input.userId (fun a ha => ha.1) ht hft
    have hone : ∀ a ∈ db.userTotp.rows, input.Factor db a ↔ a.userId = input.userId :=
      fun a ha => ⟨fun h => h.1, fun h => by
        rwa [db.userTotp.eq_of_key ha ht (h.trans huser.symm)]⟩
    have hthe : ∀ a ∈ db.users.rows, (a.id = input.userId ∧ a.disabledAt = none ∧
        r₁.changes = 1) ↔ a.id = input.userId := fun a ha => ⟨And.left, fun h => by
      obtain rfl := db.users.eq_of_key ha hu (h.trans huid.symm)
      exact ⟨h, hactive, hc₁⟩⟩
    have hone₂ : r₂.changes = 1 := by
      rw [hc₂, countP_congr_prop hthe]
      exact (db.users.countP_eq_one_iff input.userId fun a ha => ha).mpr ⟨u, hu, huid⟩
    rw [if_pos hone₂] at hA hc₃
    rw [hsel] at hrows₁ hD
    refine ⟨?_, hfactor, U, D, V, A, rfl, ?_, ?_, hV.trans (updateWhere_congr hthe), hA⟩
    · simp [interpretDisableBatch, hrows₁, hm₃, hc₃, Except.mapError]
    · exact hU.trans (deleteWhere_congr hone)
    · refine hD.trans (updateWhere_congr fun e _ => ?_)
      simp [huser]
  · left
    rw [if_neg hfactor] at hc₁
    have hsel : db.userTotp.rows.filter (fun t => input.Factor db t) = [] := by
      rw [List.filter_eq_nil_iff]
      exact fun t ht h => hfactor ⟨t, ht, by simpa using h⟩
    rw [hsel] at hrows₁ hD
    have hU' : U = db.userTotp :=
      Table.ext (hU.trans (deleteWhere_eq_self fun t ht h => hfactor ⟨t, ht, h⟩))
    have hD' : D = db.devices := Table.ext (hD.trans (updateWhere_eq_self (by simp)))
    have hV' : V = db.users :=
      Table.ext (hV.trans (updateWhere_eq_self fun u _ h => by omega))
    have hzero₂ : r₂.changes = 0 := by
      rw [hc₂, List.countP_eq_zero]
      intro u _ h
      have := (of_decide_eq_true h).2.2
      omega
    rw [if_neg (by omega)] at hA
    have hA' : A = db.auditEvents := Table.ext (by simpa using hA)
    refine ⟨by rw [hU', hD', hV', hA'], ?_⟩
    simp [interpretDisableBatch, hrows₁, Except.mapError]

end HonoWarden
