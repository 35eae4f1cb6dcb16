import HonoWarden.Mfa.Effects

/-!
# Sessions and the TOTP factor as one system

The session and TOTP requests as a transition system (`mfaSystem`), in the surroundings of requests
that revoke, rename or delete devices, delete factors, and write the other tables as they like. A
request that reports success after checking a TOTP code leaves a `Verification` in the log of the
state: which session family, under which credential generation, at which step. The log is read by
no request.

* `MfaOp.call_factors`: what a request does to the factors: nothing that matters, or it accepts
  one step of one factor (`Accepts`), or it puts a generation it drew in force (`Renews`);
* `mfaSystem_generationsIssued`: the generation of a factor was drawn, so the next one is another.
-/

namespace HonoWarden

open Relational

/-! ## The system -/

/-- A TOTP code accepted at `step`, under `generation`, for the session family `sessionId`. -/
structure Verification where
  userId : String
  sessionId : String
  generation : String
  step : Int
  deriving DecidableEq, Repr

/-- A request to the session layer or to the TOTP factor. -/
inductive MfaOp where
  | session (op : SessionOp)
  | consumeTotpSessionStepUp (input : TotpStepUpInput)
  | createPendingTotpSetupForSession (input : TotpSetupStartInput)
  | startPendingTotpChangeForSession (input : TotpChangeStartInput)
  | enableTotpSetupForSession (input : TotpEnrollmentInput) (generation : String)
  | promotePendingTotpChangeForSession (input : TotpPromotionInput) (generation : String)
  | disableTotpSetupForSession (input : TotpDisableInput)

/-- `verification`, when the login has opened a family. -/
def opened (verification : Verification) :
    Except Failure CreatePasswordGrantSessionResult → Option Verification
  | .ok .created => some verification
  | _ => none

/-- The verification of a session request: that of a TOTP login that opened a family. -/
def SessionOp.verification : SessionOp → Db → Option Verification
  | .createPasswordGrantSession input, db =>
    match input.totpVerification with
    | none => none
    | some v =>
      opened ⟨input.userId, input.refreshTokenId, v.credentialGeneration, v.acceptedStep⟩
        (HonoWarden.createPasswordGrantSession input db).2
  | _, _ => none

/-- `verification`, when the request reports success. -/
def reported (verification : Verification) : Except Failure Bool → Option Verification
  | .ok true => some verification
  | _ => none

/-- The database after the request, and the verification it reports. -/
def MfaOp.call : MfaOp → Db → Db × Option Verification
  | .session op, db => (op.run db, op.verification db)
  | .consumeTotpSessionStepUp input, db =>
    let call := HonoWarden.consumeTotpSessionStepUp input db
    (call.1, reported ⟨input.userId, input.sessionId, input.credentialGeneration,
      input.acceptedStep⟩ call.2)
  | .createPendingTotpSetupForSession input, db =>
    ((HonoWarden.createPendingTotpSetupForSession input db).1, none)
  | .startPendingTotpChangeForSession input, db =>
    let call := HonoWarden.startPendingTotpChangeForSession input db
    (call.1, reported ⟨input.userId, input.sessionId, input.credentialGeneration,
      input.acceptedStep⟩ call.2)
  | .enableTotpSetupForSession input generation, db =>
    let call := HonoWarden.enableTotpSetupForSession input generation db
    (call.1, reported ⟨input.userId, input.sessionId, generation, input.acceptedStep⟩ call.2)
  | .promotePendingTotpChangeForSession input generation, db =>
    let call := HonoWarden.promotePendingTotpChangeForSession input generation db
    (call.1, reported ⟨input.userId, input.sessionId, generation, input.acceptedStep⟩ call.2)
  | .disableTotpSetupForSession input, db =>
    ((HonoWarden.disableTotpSetupForSession input db).1, none)

/-- The ids and generations a request draws. -/
def MfaOp.draws : MfaOp → List String
  | .session op => op.draws
  | .enableTotpSetupForSession _ generation => [generation]
  | .promotePendingTotpChangeForSession _ generation => [generation]
  | _ => []

/-- The database, and the verifications so far. -/
structure MfaState where
  db : Db := {}
  log : List Verification := []
  deriving DecidableEq

def MfaOp.exec (op : MfaOp) (s : MfaState) : MfaState where
  db := (op.call s.db).1
  log := s.log ++ (op.call s.db).2.toList

/-- `d'` is `d`, whatever else became of it, in the same family and with no new proof. -/
def Device.Descends (d d' : Device) : Prop :=
  d'.id = d.id ∧ d'.userId = d.userId ∧ d'.sessionId = d.sessionId ∧
    (d'.mfaTotpCredentialGeneration = d.mfaTotpCredentialGeneration ∨
      d'.mfaTotpCredentialGeneration = none)

instance (d d' : Device) : Decidable (d.Descends d') := inferInstanceAs (Decidable (_ ∧ _))

/-- What other requests do to devices and factors: no new device, family or proof, and no new or
changed factor. -/
def FactorsUndisturbed (db db' : Db) : Prop :=
  (∀ d' ∈ db'.devices.rows, ∃ d ∈ db.devices.rows, d.Descends d' ∧
    d'.identifier = d.identifier) ∧
  ∀ t ∈ db'.userTotp.rows, t ∈ db.userTotp.rows

instance (db db' : Db) : Decidable (FactorsUndisturbed db db') :=
  inferInstanceAs (Decidable (_ ∧ _))

/-- Other requests do not touch the log, and leave the factors undisturbed. -/
def keepFactors (s s' : MfaState) : MfaState :=
  if FactorsUndisturbed s.db s'.db then { s with db := s'.db } else s

theorem reported_of_ne {v : Verification} {out : Except Failure Bool} (h : out ≠ .ok true) :
    reported v out = none := by
  unfold reported
  split
  · exact absurd rfl h
  · rfl

theorem opened_of_ne {v : Verification} {out : Except Failure CreatePasswordGrantSessionResult}
    (h : out ≠ .ok .created) : opened v out = none := by
  unfold opened
  split
  · exact absurd rfl h
  · rfl

@[simp] theorem opened_ok (v : Verification) : opened v (.ok .created) = some v := rfl

@[simp] theorem reported_ok (v : Verification) : reported v (.ok true) = some v := rfl

/-- The session and TOTP requests, among all others. -/
def mfaSystem : System MfaState (Move MfaOp MfaState) String :=
  .within MfaOp.exec MfaOp.draws keepFactors

/-! ## What a request does to the factors -/

/-- The factor of `v` was in the generation of `v` and has accepted the step of `v`, which is
later than its last. -/
structure Accepts (v : Verification) (U U' : Table UserTotp) : Prop where
  factor : ∃ t ∈ U.rows, t.userId = v.userId ∧ t.credentialGeneration = some v.generation ∧
    ∀ step, t.lastAcceptedStep = some step → step < v.step
  rows : ∃ set : UserTotp → UserTotp, (∀ t, (set t).userId = t.userId ∧
      (set t).credentialGeneration = t.credentialGeneration ∧
      (set t).lastAcceptedStep = some v.step) ∧
    U'.rows = updateWhere (fun t => t.userId = v.userId) set U.rows

/-- The factor of the account of `v` entered the generation of `v`, with the step of `v`. -/
structure Renews (v : Verification) (U U' : Table UserTotp) : Prop where
  factor : ∃ t ∈ U.rows, t.userId = v.userId
  rows : ∃ set : UserTotp → UserTotp, (∀ t, (set t).userId = t.userId ∧
      (set t).credentialGeneration = some v.generation ∧
      (set t).lastAcceptedStep = some v.step) ∧
    U'.rows = updateWhere (fun t => t.userId = v.userId) set U.rows

/-- Factors were deleted, or started again without a generation, and nothing else. -/
def FactorsKept (U U' : Table UserTotp) : Prop :=
  ∀ t' ∈ U'.rows, t' ∈ U.rows ∨ t'.credentialGeneration = none

theorem FactorsKept.refl (U : Table UserTotp) : FactorsKept U U := fun _ ht => Or.inl ht

/-- A login for a device id that names a row of another account or identifier. -/
def MfaOp.Collides (db : Db) : MfaOp → Prop
  | .session (.createPasswordGrantSession input) => ∃ d ∈ db.devices.rows,
    d.id = input.device.id ∧ ¬ (d.userId = input.userId ∧ d.identifier = input.deviceIdentifier)
  | _ => False

section Factors

variable {db : Db} {U U' : Table UserTotp} {v : Verification} {hit : UserTotp → Prop}
  [DecidablePred hit] {set : UserTotp → UserTotp} {t : UserTotp}

theorem Accepts.of_update (ht : t ∈ U.rows) (hh : hit t)
    (hU : U'.rows = updateWhere hit set U.rows)
    (hhit : ∀ t, hit t → t.userId = v.userId ∧ t.credentialGeneration = some v.generation ∧
      ∀ step, t.lastAcceptedStep = some step → step < v.step)
    (hset : ∀ t, (set t).userId = t.userId ∧
      (set t).credentialGeneration = t.credentialGeneration ∧
      (set t).lastAcceptedStep = some v.step) : Accepts v U U' :=
  ⟨⟨t, ht, hhit t hh⟩, set, hset,
    hU.trans (U.updateWhere_key v.userId (fun a ha => (hhit a ha).1) ht hh)⟩

theorem Renews.of_update (ht : t ∈ U.rows) (hh : hit t)
    (hU : U'.rows = updateWhere hit set U.rows) (hhit : ∀ t, hit t → t.userId = v.userId)
    (hset : ∀ t, (set t).userId = t.userId ∧ (set t).credentialGeneration = some v.generation ∧
      (set t).lastAcceptedStep = some v.step) : Renews v U U' :=
  ⟨⟨t, ht, hhit t hh⟩, set, hset, hU.trans (U.updateWhere_key v.userId hhit ht hh)⟩

/-- What a request did to the factors, given the verification it reports. -/
def FactorStep (drawn : List String) (collides : Prop) (U U' : Table UserTotp)
    (out : Option Verification) : Prop :=
  (FactorsKept U U' ∧ out = none) ∨
  (∃ v, Accepts v U U' ∧ (out = some v ∨ out = none ∧ collides)) ∨
  ∃ v, out = some v ∧ v.generation ∈ drawn ∧ Renews v U U'

theorem createPasswordGrantSession_factors (input : DeviceSessionInput) (db : Db) :
    FactorStep [] ((MfaOp.session (.createPasswordGrantSession input)).Collides db) db.userTotp
      (createPasswordGrantSession input db).1.userTotp
      ((SessionOp.createPasswordGrantSession input).verification db) := by
  cases hv : input.totpVerification with
  | none =>
    have hnone : (SessionOp.createPasswordGrantSession input).verification db = none := by
      simp only [SessionOp.verification, hv]
    rcases createPasswordGrantSession_plain input db hv with
      ⟨hdb, -⟩ | ⟨-, -, D, T, hdb, -, -⟩
    · rw [hdb]; exact Or.inl ⟨.refl _, hnone⟩
    · rw [hdb]; exact Or.inl ⟨.refl _, hnone⟩
  | some verification =>
    have hcall : createPasswordGrantSession input db =
        createTotpPasswordGrantSession input verification db := by
      simp only [createPasswordGrantSession, hv]
    have hlog : (SessionOp.createPasswordGrantSession input).verification db =
        opened ⟨input.userId, input.refreshTokenId, verification.credentialGeneration,
          verification.acceptedStep⟩ (createTotpPasswordGrantSession input verification db).2 := by
      simp only [SessionOp.verification, hv, hcall]
    rw [hcall, hlog]
    have haccepts : ∀ {U : Table UserTotp}, (∃ t ∈ db.userTotp.rows,
          input.Factor verification db t) →
        U.rows = updateWhere (input.Factor verification db)
          (UserTotp.acceptStep verification.acceptedStep input.now) db.userTotp.rows →
        Accepts ⟨input.userId, input.refreshTokenId, verification.credentialGeneration,
          verification.acceptedStep⟩ db.userTotp U := by
      rintro U ⟨t, ht, hft⟩ hU
      exact .of_update ht hft hU (fun t ht => ⟨ht.1, ht.2.2.2.1, ht.2.2.2.2.1⟩)
        (fun _ => ⟨rfl, rfl, rfl⟩)
    rcases createTotpPasswordGrantSession_effect input verification db with
      ⟨hdb, hout⟩ | ⟨hfactor, U, hU, ⟨hout, D, T, hdb, -⟩ | ⟨hout, hdb, hcollides⟩⟩
    · rw [hdb]
      exact Or.inl ⟨.refl _, opened_of_ne hout⟩
    · rw [hdb, hout]
      exact Or.inr (Or.inl ⟨_, haccepts hfactor hU, Or.inl rfl⟩)
    · rw [hdb, hout]
      exact Or.inr (Or.inl ⟨_, haccepts hfactor hU, Or.inr ⟨rfl, hcollides⟩⟩)

/-- The other session requests leave the factors alone. -/
theorem SessionOp.run_userTotp (op : SessionOp) (db : Db)
    (hop : ∀ input, op ≠ .createPasswordGrantSession input) :
    (op.run db).userTotp = db.userTotp ∧ op.verification db = none := by
  constructor
  · by_cases hconsume : ∃ input, op = .consumeAuthRequestWithSession input
    · obtain ⟨input, rfl⟩ := hconsume
      rcases consumeAuthRequestWithSession_effect input db with
        ⟨hdb, -⟩ | ⟨-, -, D, T, A, hdb, -⟩ <;> rw [SessionOp.run, hdb]
    · push Not at hconsume
      obtain ⟨D, T, U, hdb, hU⟩ := op.run_frame db hconsume
      rw [hdb]
      exact hU hop
  · cases op with
    | createPasswordGrantSession input => exact absurd rfl (hop input)
    | _ => rfl

/-- **What a request does to the factors.** -/
theorem MfaOp.call_factors (op : MfaOp) (db : Db)
    (hfresh : ∀ x ∈ op.draws, ∀ t ∈ db.userTotp.rows, t.credentialGeneration ≠ some x) :
    FactorStep op.draws (op.Collides db) db.userTotp (op.call db).1.userTotp (op.call db).2 := by
  cases op with
  | session op =>
    by_cases hlogin : ∃ input, op = .createPasswordGrantSession input
    · obtain ⟨input, rfl⟩ := hlogin
      rcases createPasswordGrantSession_factors input db with h | h | ⟨v, -, hv, -⟩
      · exact Or.inl h
      · exact Or.inr (Or.inl h)
      · cases hv
    · obtain ⟨hU, hnone⟩ := op.run_userTotp db fun input h => hlogin ⟨input, h⟩
      exact Or.inl ⟨fun t ht => Or.inl (hU ▸ ht), hnone⟩
  | consumeTotpSessionStepUp input =>
    rcases consumeTotpSessionStepUp_effect input db with
      ⟨hdb, hout⟩ | ⟨hout, ⟨t, ht, hft⟩, U, D, hdb, hU, -⟩
    · simp only [MfaOp.call, hdb, reported_of_ne hout]
      exact Or.inl ⟨.refl _, rfl⟩
    · simp only [MfaOp.call, hdb, hout, reported_ok]
      exact Or.inr (Or.inl ⟨_, .of_update ht hft hU
        (fun t ht => ⟨ht.1, ht.2.2.2.1, ht.2.2.2.2.1⟩) (fun _ => ⟨rfl, rfl, rfl⟩), Or.inl rfl⟩)
  | createPendingTotpSetupForSession input =>
    rcases createPendingTotpSetupForSession_effect input db with
      ⟨hdb, -⟩ | ⟨-, U, D, hdb, ⟨-, -, hU⟩ | ⟨-, -, hU⟩⟩
    · simp only [MfaOp.call, hdb]
      exact Or.inl ⟨.refl _, rfl⟩
    · simp only [MfaOp.call, hdb]
      refine Or.inl ⟨fun t ht => ?_, rfl⟩
      rw [hU, List.mem_append, List.mem_singleton] at ht
      rcases ht with ht | rfl
      · exact Or.inl ht
      · exact Or.inr rfl
    · simp only [MfaOp.call, hdb]
      refine Or.inl ⟨fun t ht => ?_, rfl⟩
      rw [hU] at ht
      rcases mem_updateWhere_cases ht with ⟨ht, -⟩ | ⟨a, -, -, rfl⟩
      · exact Or.inl ht
      · exact Or.inr rfl
  | startPendingTotpChangeForSession input =>
    rcases startPendingTotpChangeForSession_effect input db with
      ⟨hdb, hout⟩ | ⟨hout, ⟨t, ht, hft⟩, U, D, hdb, hU, -⟩
    · simp only [MfaOp.call, hdb, reported_of_ne hout]
      exact Or.inl ⟨.refl _, rfl⟩
    · simp only [MfaOp.call, hdb, hout, reported_ok]
      exact Or.inr (Or.inl ⟨_, .of_update ht hft hU
        (fun t ht => ⟨ht.1, ht.2.2.2.1, ht.2.2.2.2.1⟩) (fun _ => ⟨rfl, rfl, rfl⟩), Or.inl rfl⟩)
  | enableTotpSetupForSession input generation =>
    rcases enableTotpSetupForSession_effect input generation db
        (hfresh _ List.mem_cons_self) with
      ⟨hdb, hout⟩ | ⟨hout, ⟨t, ht, hft⟩, U, D₁, D, hdb, hU, -⟩
    · simp only [MfaOp.call, hdb, reported_of_ne hout]
      exact Or.inl ⟨.refl _, rfl⟩
    · simp only [MfaOp.call, hdb, hout, reported_ok]
      exact Or.inr (Or.inr ⟨_, rfl, List.mem_cons_self, .of_update ht hft hU (fun t ht => ht.1)
        (fun _ => ⟨rfl, rfl, rfl⟩)⟩)
  | promotePendingTotpChangeForSession input generation =>
    rcases promotePendingTotpChangeForSession_effect input generation db
        (hfresh _ List.mem_cons_self) with
      ⟨hdb, hout⟩ | ⟨hout, ⟨t, ht, hft⟩, U, D₁, D, hdb, hU, -⟩
    · simp only [MfaOp.call, hdb, reported_of_ne hout]
      exact Or.inl ⟨.refl _, rfl⟩
    · simp only [MfaOp.call, hdb, hout, reported_ok]
      exact Or.inr (Or.inr ⟨_, rfl, List.mem_cons_self, .of_update ht hft hU (fun t ht => ht.1)
        (fun _ => ⟨rfl, rfl, rfl⟩)⟩)
  | disableTotpSetupForSession input =>
    rcases disableTotpSetupForSession_effect input db with
      ⟨hdb, -⟩ | ⟨-, -, U, D, V, A, hdb, hU, -⟩
    · simp only [MfaOp.call, hdb]
      exact Or.inl ⟨.refl _, rfl⟩
    · simp only [MfaOp.call, hdb]
      exact Or.inl ⟨fun t ht => Or.inl (mem_deleteWhere.mp (hU ▸ ht)).1, rfl⟩

end Factors

/-! ## Generations are drawn -/

/-- The generation of every factor was drawn. -/
def GenerationsIssued (issued : List String) (U : Table UserTotp) : Prop :=
  ∀ t ∈ U.rows, ∀ generation, t.credentialGeneration = some generation → generation ∈ issued

theorem GenerationsIssued.fresh {issued drawn : List String} {U : Table UserTotp}
    (h : GenerationsIssued issued U) (hfresh : ∀ x ∈ drawn, x ∉ issued) :
    ∀ x ∈ drawn, ∀ t ∈ U.rows, t.credentialGeneration ≠ some x :=
  fun x hx t ht hg => hfresh x hx (h t ht x hg)

theorem GenerationsIssued.step {issued drawn : List String} {collides : Prop}
    {U U' : Table UserTotp} {out : Option Verification} (h : GenerationsIssued issued U)
    (hstep : FactorStep drawn collides U U' out) : GenerationsIssued (drawn ++ issued) U' := by
  intro t' ht' generation hg
  rcases hstep with ⟨hkept, -⟩ | ⟨v, ⟨-, set, hset, hU⟩, -⟩ | ⟨v, -, hv, -, set, hset, hU⟩
  · rcases hkept t' ht' with ht | hnone
    · exact List.mem_append_right _ (h t' ht generation hg)
    · rw [hnone] at hg; cases hg
  · rw [hU] at ht'
    rcases mem_updateWhere_cases ht' with ⟨ht, -⟩ | ⟨t, ht, -, rfl⟩
    · exact List.mem_append_right _ (h t' ht generation hg)
    · exact List.mem_append_right _ (h t ht generation ((hset t).2.1 ▸ hg))
  · rw [hU] at ht'
    rcases mem_updateWhere_cases ht' with ⟨ht, -⟩ | ⟨t, ht, -, rfl⟩
    · exact List.mem_append_right _ (h t' ht generation hg)
    · rw [(hset t).2.1] at hg
      exact List.mem_append_left _ (Option.some.inj hg ▸ hv)

theorem mfaSystem_generationsIssued {c c' : Config MfaState String} {move : Move MfaOp MfaState}
    (hnext : mfaSystem.Next c move c') (h : GenerationsIssued c.issued c.state.db.userTotp) :
    GenerationsIssued c'.issued c'.state.db.userTotp := by
  obtain ⟨hrun, hfresh, hissued⟩ := hnext
  rw [hrun, hissued]
  cases move with
  | request op => exact h.step (op.call_factors c.state.db (h.fresh hfresh))
  | surroundings write =>
    simp only [Move.exec, keepFactors]
    split
    · rename_i hkeep
      exact fun t ht => h t (hkeep.2 t ht)
    · exact h

end HonoWarden
