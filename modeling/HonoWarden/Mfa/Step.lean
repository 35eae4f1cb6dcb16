import HonoWarden.Mfa.Assurance

/-!
# A TOTP step is accepted once

In the runs of `mfaSystem`, whose log holds the verifications reported so far in their order:

* within one credential generation of one account the steps of the log increase strictly, so no
  step is reported twice;
* `last_accepted_step` of a factor is the last step the log holds of its generation (`lastStep`),
  the step that enabled or promoted the generation included, and no request lowers it;
* an attempt that reports failure has left the whole database as it was.

The last point fails for a TOTP login whose device id names a row of another account or
identifier: its first statement consumes the step, and the others find no device. Device ids are
`buildDeviceId` of an account id without a colon, so there is no such row (`DeviceIds`).

**Headline**: `totpStep_acceptedOnce`.
-/

namespace HonoWarden

open Relational

/-! ## Device ids name one account and one identifier -/

/-- A separator that occurs in neither of two prefixes splits their texts in one way. -/
theorem append_cons_inj {α : Type} {a : α} : ∀ {xs xs' ys ys' : List α}, a ∉ xs → a ∉ xs' →
    xs ++ a :: ys = xs' ++ a :: ys' → xs = xs' ∧ ys = ys'
  | [], [], _, _, _, _, h => ⟨rfl, (List.cons.inj h).2⟩
  | [], x :: _, _, _, _, hx, h => absurd ((List.cons.inj h).1 ▸ List.mem_cons_self) hx
  | x :: _, [], _, _, hx, _, h => absurd ((List.cons.inj h).1 ▸ List.mem_cons_self) hx
  | x :: xs, x' :: xs', _, _, hx, hx', h => by
    obtain ⟨rfl, hrest⟩ := List.cons.inj h
    obtain ⟨rfl, rfl⟩ := append_cons_inj (fun hm => hx (List.mem_cons_of_mem _ hm))
      (fun hm => hx' (List.mem_cons_of_mem _ hm)) hrest
    exact ⟨rfl, rfl⟩

theorem buildDeviceId_inj {userId userId' identifier identifier' : String}
    (hu : ':' ∉ userId.toList) (hu' : ':' ∉ userId'.toList)
    (h : buildDeviceId userId identifier = buildDeviceId userId' identifier') :
    userId = userId' ∧ identifier = identifier' := by
  have hlist : userId.toList ++ ':' :: identifier.toList =
      userId'.toList ++ ':' :: identifier'.toList := by
    simpa [buildDeviceId] using congrArg String.toList h
  obtain ⟨huser, hident⟩ := append_cons_inj hu hu' hlist
  exact ⟨String.toList_inj.mp huser, String.toList_inj.mp hident⟩

/-- Every device has the id its account and identifier give it. -/
def DeviceIds (D : Table Device) : Prop :=
  ∀ d ∈ D.rows, d.id = buildDeviceId d.userId d.identifier ∧ ':' ∉ d.userId.toList

/-- What the handlers promise of their inputs: account ids are those of `crypto.randomUUID`, and
the device id of a request is the one its account and identifier give. -/
def SessionOp.WellFormed : SessionOp → Prop
  | .createPasswordGrantSession input => ':' ∉ input.userId.toList
  | .consumeAuthRequestWithSession input => ':' ∉ input.userId.toList ∧
    input.deviceId = buildDeviceId input.userId input.requestDeviceIdentifier
  | .rotateRefreshToken input => input.deviceId = buildDeviceId input.userId input.deviceIdentifier
  | .rotationBatch input => input.deviceId = buildDeviceId input.userId input.deviceIdentifier
  | _ => True

def MfaOp.WellFormed : MfaOp → Prop
  | .session op => op.WellFormed
  | _ => True

section DeviceIds

variable {db : Db} {D D' : Table Device}

theorem DeviceIds.descend (h : DeviceIds D) (hD : ∀ d' ∈ D'.rows, ∃ d ∈ D.rows,
    d'.id = d.id ∧ d'.userId = d.userId ∧ d'.identifier = d.identifier) : DeviceIds D' :=
  fun d' hd' => by
    obtain ⟨d, hd, hid, huser, hident⟩ := hD d' hd'
    rw [hid, huser, hident]
    exact h d hd

theorem DeviceIds.update (h : DeviceIds D) {hit : Device → Prop} [DecidablePred hit]
    {set : Device → Device} (hD : D'.rows = updateWhere hit set D.rows)
    (hset : ∀ d, (set d).id = d.id ∧ (set d).userId = d.userId ∧
      (set d).identifier = d.identifier) : DeviceIds D' :=
  h.descend fun d' hd' => by
    rw [hD] at hd'
    rcases mem_updateWhere_cases hd' with ⟨hd, -⟩ | ⟨d, hd, -, rfl⟩
    · exact ⟨d', hd, rfl, rfl, rfl⟩
    · exact ⟨d, hd, hset d⟩

theorem DeviceIds.login (h : DeviceIds D) {fresh : Device} {bind : Device → Device}
    (hbound : DeviceBound D D' fresh bind)
    (hbind : ∀ d, (bind d).id = d.id ∧ (bind d).userId = d.userId ∧
      (bind d).identifier = d.identifier)
    (hid : fresh.id = buildDeviceId fresh.userId fresh.identifier)
    (huser : ':' ∉ fresh.userId.toList) : DeviceIds D' := by
  intro d' hd'
  rcases hbound.cases (fun d => (hbind d).1) hd' with ⟨hd, -⟩ | ⟨d, hd | rfl, -, -, rfl⟩
  · exact h d' hd
  · rw [(hbind d).1, (hbind d).2.1, (hbind d).2.2]
    exact h d hd
  · rw [(hbind d).1, (hbind d).2.1, (hbind d).2.2]
    exact ⟨hid, huser⟩

/-- A login whose account id has no colon collides with no row. -/
theorem DeviceIds.not_collides (h : DeviceIds db.devices) (op : MfaOp) (hwf : op.WellFormed) :
    ¬ op.Collides db := by
  cases op with
  | session op =>
    cases op with
    | createPasswordGrantSession input =>
      rintro ⟨d, hd, hid, hne⟩
      obtain ⟨hdid, hcolon⟩ := h d hd
      exact hne (buildDeviceId_inj hcolon hwf (hdid.symm.trans hid))
    | _ => exact id
  | _ => exact id

theorem rotationBatch_deviceIds {input : RotateRefreshTokenInput} (h : DeviceIds db.devices)
    (hwf : input.deviceId = buildDeviceId input.userId input.deviceIdentifier) :
    DeviceIds (rotationBatch input db).1.devices := by
  obtain ⟨D, T, hdb, hD⟩ := rotationBatch_devices input db
  rw [hdb]
  refine h.descend fun d' hd' => ?_
  rcases hD d' hd' with hd | ⟨d, hd, hid, huser, rfl⟩
  · exact ⟨d', hd, rfl, rfl, rfl⟩
  · obtain ⟨hdid, hcolon⟩ := h d hd
    have hident := buildDeviceId_inj (huser ▸ hcolon) hcolon
      (hwf.symm.trans (hid.symm.trans hdid))
    exact ⟨d, hd, rfl, rfl, hident.2⟩

theorem invalidateRefreshTokenSession_deviceIds (userId deviceId : String) (now : Timestamp)
    (expectedSessionId : Option String) (h : DeviceIds db.devices) :
    DeviceIds (invalidateRefreshTokenSession userId deviceId now expectedSessionId db).1.devices := by
  obtain ⟨D, T, hdb, -, hD⟩ :=
    invalidateRefreshTokenSession_effect userId deviceId now expectedSessionId db
  rw [hdb]
  exact h.update hD fun _ => ⟨rfl, rfl, rfl⟩

theorem createPasswordGrantSession_deviceIds {input : DeviceSessionInput}
    (h : DeviceIds db.devices) (hwf : ':' ∉ input.userId.toList) :
    DeviceIds (createPasswordGrantSession input db).1.devices := by
  cases hv : input.totpVerification with
  | none =>
    rcases createPasswordGrantSession_plain input db hv with
      ⟨hdb, -⟩ | ⟨-, -, D, T, hdb, -, hbound⟩
    · rwa [hdb]
    · rw [hdb]
      exact h.login hbound (fun _ => ⟨rfl, rfl, rfl⟩) rfl hwf
  | some verification =>
    simp only [createPasswordGrantSession, hv]
    rcases createTotpPasswordGrantSession_effect input verification db with
      ⟨hdb, -⟩ | ⟨-, U, -, ⟨-, D, T, hdb, -, hbound, -⟩ | ⟨-, hdb, -⟩⟩
    · rwa [hdb]
    · rw [hdb]
      exact h.login hbound (fun _ => ⟨rfl, rfl, rfl⟩) rfl hwf
    · rwa [hdb]

theorem SessionOp.run_deviceIds {op : SessionOp} (h : DeviceIds db.devices)
    (hwf : op.WellFormed) : DeviceIds (op.run db).devices := by
  cases op with
  | createPasswordGrantSession input => exact createPasswordGrantSession_deviceIds h hwf
  | consumeAuthRequestWithSession input =>
    rcases consumeAuthRequestWithSession_effect input db with
      ⟨hdb, -⟩ | ⟨-, -, D, T, A, hdb, -, -, hbound | ⟨rfl, -⟩⟩
    · simpa only [SessionOp.run, hdb] using h
    · simp only [SessionOp.run, hdb]
      exact h.login hbound (fun _ => ⟨rfl, rfl, rfl⟩) hwf.2 hwf.1
    · simpa only [SessionOp.run, hdb] using h
  | rotateRefreshToken input =>
    have hrot := rotationBatch_deviceIds h hwf
    simp only [SessionOp.run, HonoWarden.rotateRefreshToken]
    split
    · rename_i hb; rwa [hb] at hrot
    · rename_i hb; rwa [hb] at hrot
    · rename_i hb
      rw [hb] at hrot
      exact invalidateRefreshTokenSession_deviceIds _ _ _ _ hrot
  | rotationBatch input => exact rotationBatch_deviceIds h hwf
  | invalidateRefreshTokenSession userId deviceId now expectedSessionId =>
    exact invalidateRefreshTokenSession_deviceIds _ _ _ _ h
  | revokeCurrentDeviceSession actor revokedAt =>
    obtain ⟨D, T, hdb, -, hD⟩ := revokeCurrentDeviceSession_effect actor revokedAt db
    simp only [SessionOp.run, hdb]
    exact h.update hD fun _ => ⟨rfl, rfl, rfl⟩
  | revokeDeviceSession userId deviceId revokedAt =>
    obtain ⟨D, T, hdb, hD, -⟩ := revokeDeviceSession_effect userId deviceId revokedAt db
    simp only [SessionOp.run, hdb]
    exact h.update hD fun _ => ⟨rfl, rfl, rfl⟩
  | revokeOtherDeviceSessions userId currentDeviceId revokedAt =>
    obtain ⟨D, T, hdb, hD, -⟩ :=
      revokeOtherDeviceSessions_effect userId currentDeviceId revokedAt db
    simp only [SessionOp.run, hdb]
    exact h.update hD fun _ => ⟨rfl, rfl, rfl⟩
  | deleteExpiredRefreshTokens now limit =>
    obtain ⟨T, hdb, -⟩ := deleteExpiredRefreshTokens_effect now limit db
    simpa only [SessionOp.run, hdb] using h

theorem DeviceIds.cleared {userId : String} (h : DeviceIds D) (hD : ProofsCleared userId D D') :
    DeviceIds D' :=
  h.update hD fun _ => ⟨rfl, rfl, rfl⟩

theorem DeviceIds.bound {actor : MfaSessionActor} {generation : String} {verifiedAt : Timestamp}
    (h : DeviceIds D) (hD : ProofBound actor generation verifiedAt D D') : DeviceIds D' :=
  h.update hD fun _ => ⟨rfl, rfl, rfl⟩

theorem MfaOp.call_deviceIds {op : MfaOp}
    (hfresh : ∀ x ∈ op.draws, ∀ t ∈ db.userTotp.rows, t.credentialGeneration ≠ some x)
    (h : DeviceIds db.devices) (hwf : op.WellFormed) : DeviceIds (op.call db).1.devices := by
  cases op with
  | session op => exact SessionOp.run_deviceIds h hwf
  | consumeTotpSessionStepUp input =>
    rcases consumeTotpSessionStepUp_effect input db with ⟨hdb, -⟩ | ⟨-, -, U, D, hdb, -, hD⟩
    · simpa only [MfaOp.call, hdb] using h
    · simpa only [MfaOp.call, hdb] using h.bound hD
  | createPendingTotpSetupForSession input =>
    rcases createPendingTotpSetupForSession_effect input db with
      ⟨hdb, -⟩ | ⟨-, U, D, hdb, ⟨-, rfl, -⟩ | ⟨-, hD, -⟩⟩
    · simpa only [MfaOp.call, hdb] using h
    · simpa only [MfaOp.call, hdb] using h
    · simpa only [MfaOp.call, hdb] using h.cleared hD
  | startPendingTotpChangeForSession input =>
    rcases startPendingTotpChangeForSession_effect input db with
      ⟨hdb, -⟩ | ⟨-, -, U, D, hdb, -, hD⟩
    · simpa only [MfaOp.call, hdb] using h
    · simpa only [MfaOp.call, hdb] using h.bound hD
  | enableTotpSetupForSession input generation =>
    rcases enableTotpSetupForSession_effect input generation db (hfresh _ List.mem_cons_self) with
      ⟨hdb, -⟩ | ⟨-, -, U, D₁, D, hdb, -, hcleared, hD⟩
    · simpa only [MfaOp.call, hdb] using h
    · simpa only [MfaOp.call, hdb] using (h.cleared hcleared).bound hD
  | promotePendingTotpChangeForSession input generation =>
    rcases promotePendingTotpChangeForSession_effect input generation db
        (hfresh _ List.mem_cons_self) with
      ⟨hdb, -⟩ | ⟨-, -, U, D₁, D, hdb, -, hcleared, hD⟩
    · simpa only [MfaOp.call, hdb] using h
    · simpa only [MfaOp.call, hdb] using (h.cleared hcleared).bound hD
  | disableTotpSetupForSession input =>
    rcases disableTotpSetupForSession_effect input db with
      ⟨hdb, -⟩ | ⟨-, -, U, D, V, A, hdb, -, hD, -⟩
    · simpa only [MfaOp.call, hdb] using h
    · simpa only [MfaOp.call, hdb] using h.cleared hD

end DeviceIds

/-! ## The ledger of steps -/

/-- The verifications of one generation of one account. -/
def InGeneration (userId generation : String) (v : Verification) : Prop :=
  v.userId = userId ∧ v.generation = generation

instance (userId generation : String) : DecidablePred (InGeneration userId generation) :=
  fun _ => inferInstanceAs (Decidable (_ ∧ _))

/-- The last step the log holds of a generation. -/
def lastStep (log : List Verification) (userId generation : String) : Option Int :=
  ((log.filter fun v => InGeneration userId generation v).getLast?).map Verification.step

/-- Within a generation the steps of the log increase strictly. -/
def StepsIncrease (log : List Verification) : Prop :=
  log.Pairwise fun v v' => InGeneration v.userId v.generation v' → v.step < v'.step

section Ledger

variable {log : List Verification} {userId generation : String} {v : Verification}

theorem lastStep_append_self : lastStep (log ++ [v]) v.userId v.generation = some v.step := by
  simp [lastStep, List.filter_append, InGeneration]

theorem lastStep_append_other (h : ¬ InGeneration userId generation v) :
    lastStep (log ++ [v]) userId generation = lastStep log userId generation := by
  simp [lastStep, List.filter_append, h]

theorem lastStep_eq_none (h : ∀ v ∈ log, ¬ InGeneration userId generation v) :
    lastStep log userId generation = none := by
  have hnil : log.filter (fun v => InGeneration userId generation v) = [] := by
    rw [List.filter_eq_nil_iff]
    simpa using h
  simp [lastStep, hnil]

/-- The steps of a generation do not pass its last one. -/
theorem StepsIncrease.le_last (h : StepsIncrease log) (hv : v ∈ log) :
    ∃ step, lastStep log v.userId v.generation = some step ∧ v.step ≤ step := by
  induction log using List.reverseRecOn with
  | nil => cases hv
  | append_singleton log w ih =>
    obtain ⟨hlog, -, hlater⟩ := List.pairwise_append.mp h
    rw [List.mem_append, List.mem_singleton] at hv
    by_cases hgen : InGeneration v.userId v.generation w
    · refine ⟨w.step, ?_, ?_⟩
      · rw [← hgen.1, ← hgen.2, lastStep_append_self]
      · rcases hv with hv | rfl
        · exact Int.le_of_lt (hlater v hv w (List.mem_singleton_self w) hgen)
        · exact Int.le_refl _
    · rw [lastStep_append_other hgen]
      rcases hv with hv | rfl
      · exact ih hlog hv
      · exact absurd ⟨rfl, rfl⟩ hgen

theorem StepsIncrease.append (h : StepsIncrease log)
    (hlater : ∀ step, lastStep log v.userId v.generation = some step → step < v.step) :
    StepsIncrease (log ++ [v]) := by
  refine List.pairwise_append.mpr ⟨h, List.pairwise_singleton _ _, fun a ha b hb hgen => ?_⟩
  obtain rfl := List.mem_singleton.mp hb
  obtain ⟨step, hlast, hle⟩ := h.le_last ha
  rw [← hgen.1, ← hgen.2] at hlast
  have := hlater step hlast
  omega

/-- The last step of a generation does not go down while the log grows. -/
theorem StepsIncrease.last_mono {more : List Verification} (h : StepsIncrease (log ++ more))
    {step : Int} (hstep : lastStep log userId generation = some step) :
    ∃ step', lastStep (log ++ more) userId generation = some step' ∧ step ≤ step' := by
  obtain ⟨v, hlast, rfl⟩ := Option.map_eq_some_iff.mp hstep
  obtain ⟨hv, hin⟩ := List.mem_filter.mp (List.mem_of_getLast? hlast)
  obtain ⟨rfl, rfl⟩ := of_decide_eq_true hin
  exact h.le_last (List.mem_append_left _ hv)

end Ledger

/-- The ledger of a state: what the log and the factors say of each other. -/
structure StepLedger (issued : List String) (s : MfaState) : Prop where
  increase : StepsIncrease s.log
  log_issued : ∀ v ∈ s.log, v.generation ∈ issued
  issued : GenerationsIssued issued s.db.userTotp
  last : ∀ t ∈ s.db.userTotp.rows, ∀ generation, t.credentialGeneration = some generation →
    t.lastAcceptedStep = lastStep s.log t.userId generation
  deviceIds : DeviceIds s.db.devices

namespace StepLedger

variable {issued drawn : List String} {s : MfaState} {U : Table UserTotp} {v : Verification}

/-- The factors and devices of a state whose log stays as it is. -/
theorem kept (h : StepLedger issued s) {db' : Db} (hU : FactorsKept s.db.userTotp db'.userTotp)
    (hD : DeviceIds db'.devices) : StepLedger (drawn ++ issued) { s with db := db' } where
  increase := h.increase
  log_issued v hv := List.mem_append_right _ (h.log_issued v hv)
  issued t ht generation hg := by
    rcases hU t ht with ht | hnone
    · exact List.mem_append_right _ (h.issued t ht generation hg)
    · rw [hnone] at hg; cases hg
  last t ht generation hg := by
    rcases hU t ht with ht | hnone
    · exact h.last t ht generation hg
    · rw [hnone] at hg; cases hg
  deviceIds := hD

/-- The last step of the log after a verification, for the factor of its account and for the
others. -/
theorem last_append (h : StepLedger issued s) {set : UserTotp → UserTotp}
    (hset : ∀ t, (set t).userId = t.userId ∧ (set t).lastAcceptedStep = some v.step)
    (hgen : ∀ t ∈ s.db.userTotp.rows, t.userId = v.userId → (set t).credentialGeneration =
      some v.generation)
    (hU : U.rows = updateWhere (fun t => t.userId = v.userId) set s.db.userTotp.rows) :
    ∀ t ∈ U.rows, ∀ generation, t.credentialGeneration = some generation →
      t.lastAcceptedStep = lastStep (s.log ++ [v]) t.userId generation := by
  intro t' ht' generation hg
  rw [hU] at ht'
  rcases mem_updateWhere_cases ht' with ⟨ht, hne⟩ | ⟨t, ht, huser, rfl⟩
  · rw [lastStep_append_other fun hin => hne hin.1.symm]
    exact h.last t' ht generation hg
  · obtain rfl := Option.some.inj ((hgen t ht huser).symm.trans hg)
    rw [(hset t).2, (hset t).1, huser, lastStep_append_self]

/-- A factor accepts a step: the step joins the log. -/
theorem accepted (h : StepLedger issued s) {db' : Db} (hacc : Accepts v s.db.userTotp db'.userTotp)
    (hD : DeviceIds db'.devices) :
    StepLedger (drawn ++ issued) { db := db', log := s.log ++ [v] } := by
  obtain ⟨⟨t, ht, huser, hgen, hlater⟩, set, hset, hU⟩ := hacc
  have hone : ∀ a ∈ s.db.userTotp.rows, a.userId = v.userId →
      a.credentialGeneration = some v.generation := fun a ha hau => by
    rwa [s.db.userTotp.eq_of_key ha ht (hau.trans huser.symm)]
  constructor
  · refine h.increase.append fun step hstep => hlater step ?_
    rw [h.last t ht v.generation hgen, huser, hstep]
  · intro w hw
    rcases List.mem_append.mp hw with hw | hw
    · exact List.mem_append_right _ (h.log_issued w hw)
    · rw [List.mem_singleton.mp hw]
      exact List.mem_append_right _ (h.issued t ht v.generation hgen)
  · have hstep : FactorStep drawn True s.db.userTotp db'.userTotp (some v) :=
      Or.inr (Or.inl ⟨v, ⟨⟨t, ht, huser, hgen, hlater⟩, set, hset, hU⟩, Or.inl rfl⟩)
    exact h.issued.step hstep
  · exact h.last_append (fun a => ⟨(hset a).1, (hset a).2.2⟩)
      (fun a ha hau => (hset a).2.1.trans (hone a ha hau)) hU
  · exact hD

/-- A factor enters a generation that was just drawn: the first step of it joins the log. -/
theorem renewed (h : StepLedger issued s) {db' : Db} (hfresh : ∀ x ∈ drawn, x ∉ issued)
    (hv : v.generation ∈ drawn) (hren : Renews v s.db.userTotp db'.userTotp)
    (hD : DeviceIds db'.devices) :
    StepLedger (drawn ++ issued) { db := db', log := s.log ++ [v] } := by
  obtain ⟨hfactor, set, hset, hU⟩ := hren
  constructor
  · refine h.increase.append fun step hstep => ?_
    have hnew : ∀ w ∈ s.log, ¬ InGeneration v.userId v.generation w := fun w hw hin =>
      hfresh _ hv (by rw [← hin.2]; exact h.log_issued w hw)
    rw [lastStep_eq_none hnew] at hstep
    cases hstep
  · intro w hw
    rcases List.mem_append.mp hw with hw | hw
    · exact List.mem_append_right _ (h.log_issued w hw)
    · rw [List.mem_singleton.mp hw]
      exact List.mem_append_left _ hv
  · have hstep : FactorStep drawn True s.db.userTotp db'.userTotp (some v) :=
      Or.inr (Or.inr ⟨v, rfl, hv, hfactor, set, hset, hU⟩)
    exact h.issued.step hstep
  · exact h.last_append (fun a => ⟨(hset a).1, (hset a).2.2⟩) (fun a _ _ => (hset a).2.1) hU
  · exact hD

/-- **Every request keeps the ledger.** -/
theorem step (h : StepLedger issued s) {op : MfaOp} (hfresh : ∀ x ∈ op.draws, x ∉ issued)
    (hwf : op.WellFormed) : StepLedger (op.draws ++ issued) (op.exec s) := by
  have hgen := h.issued.fresh hfresh
  have hD := MfaOp.call_deviceIds hgen h.deviceIds hwf
  unfold MfaOp.exec
  rcases op.call_factors s.db hgen with
    ⟨hkept, hout⟩ | ⟨v, hacc, hout | ⟨-, hcollides⟩⟩ | ⟨v, hout, hv, hren⟩
  · rw [hout, Option.toList_none, List.append_nil]
    exact h.kept hkept hD
  · rw [hout]
    exact h.accepted hacc hD
  · exact absurd hcollides (h.deviceIds.not_collides op hwf)
  · rw [hout]
    exact h.renewed hfresh hv hren hD

end StepLedger

/-! ## The runs -/

/-- A request that checks a TOTP code. -/
def MfaOp.Attempts : MfaOp → Prop
  | .session (.createPasswordGrantSession input) => input.totpVerification ≠ none
  | .consumeTotpSessionStepUp _ => True
  | .startPendingTotpChangeForSession _ => True
  | .enableTotpSetupForSession _ _ => True
  | .promotePendingTotpChangeForSession _ _ => True
  | _ => False

/-- What one request does to the steps: a success is the last accepted step of its generation, a
failed attempt has done nothing, and no last accepted step of a generation goes down. -/
structure StepAccounted (s : MfaState) (op : MfaOp) : Prop where
  success : ∀ v, (op.call s.db).2 = some v → ∃ t ∈ (op.exec s).db.userTotp.rows,
    t.userId = v.userId ∧ t.credentialGeneration = some v.generation ∧
      t.lastAcceptedStep = some v.step
  failure : op.Attempts → (op.call s.db).2 = none → (op.exec s).db = s.db
  monotone : ∀ t ∈ s.db.userTotp.rows, ∀ t' ∈ (op.exec s).db.userTotp.rows,
    t'.userId = t.userId → t.credentialGeneration ≠ none →
    t'.credentialGeneration = t.credentialGeneration → ∀ step, t.lastAcceptedStep = some step →
    ∃ step', t'.lastAcceptedStep = some step' ∧ step ≤ step'

section Runs

variable {issued : List String} {s : MfaState}

theorem reported_eq_none {v : Verification} {out : Except Failure Bool}
    (h : reported v out = none) : out ≠ .ok true := by
  rintro rfl
  cases h

/-- **A failed attempt has done nothing.** -/
theorem StepLedger.failed (h : StepLedger issued s) {op : MfaOp}
    (hfresh : ∀ x ∈ op.draws, x ∉ issued) (hwf : op.WellFormed) (hattempt : op.Attempts)
    (hout : (op.call s.db).2 = none) : (op.call s.db).1 = s.db := by
  have hgen := h.issued.fresh hfresh
  cases op with
  | session op =>
    cases op with
    | createPasswordGrantSession input =>
      obtain ⟨verification, hv⟩ := Option.ne_none_iff_exists'.mp hattempt
      have hcall : createPasswordGrantSession input s.db =
          createTotpPasswordGrantSession input verification s.db := by
        simp only [createPasswordGrantSession, hv]
      rcases createTotpPasswordGrantSession_effect input verification s.db with
        ⟨hdb, -⟩ | ⟨-, U, -, ⟨hcreated, -⟩ | ⟨-, -, hcollides⟩⟩
      · simpa only [MfaOp.call, SessionOp.run, hcall] using hdb
      · simp only [MfaOp.call, SessionOp.verification, hv, hcall, hcreated, opened_ok] at hout
        cases hout
      · exact absurd hcollides
          (h.deviceIds.not_collides (.session (.createPasswordGrantSession input)) hwf)
    | _ => exact hattempt.elim
  | consumeTotpSessionStepUp input =>
    rcases consumeTotpSessionStepUp_effect input s.db with ⟨hdb, -⟩ | ⟨hok, -⟩
    · exact hdb
    · exact absurd hok (reported_eq_none hout)
  | startPendingTotpChangeForSession input =>
    rcases startPendingTotpChangeForSession_effect input s.db with ⟨hdb, -⟩ | ⟨hok, -⟩
    · exact hdb
    · exact absurd hok (reported_eq_none hout)
  | enableTotpSetupForSession input generation =>
    rcases enableTotpSetupForSession_effect input generation s.db (hgen _ List.mem_cons_self) with
      ⟨hdb, -⟩ | ⟨hok, -⟩
    · exact hdb
    · exact absurd hok (reported_eq_none hout)
  | promotePendingTotpChangeForSession input generation =>
    rcases promotePendingTotpChangeForSession_effect input generation s.db
        (hgen _ List.mem_cons_self) with ⟨hdb, -⟩ | ⟨hok, -⟩
    · exact hdb
    · exact absurd hok (reported_eq_none hout)
  | _ => exact hattempt.elim

theorem StepLedger.accounted (h : StepLedger issued s) {op : MfaOp}
    (hfresh : ∀ x ∈ op.draws, x ∉ issued) (hwf : op.WellFormed) : StepAccounted s op where
  success v hv := by
    rcases op.call_factors s.db (h.issued.fresh hfresh) with ⟨-, hnone⟩ |
      ⟨w, ⟨⟨t, ht, huser, hgen, -⟩, set, hset, hU⟩, hw | ⟨hnone, -⟩⟩ |
      ⟨w, hw, -, ⟨t, ht, huser⟩, set, hset, hU⟩
    · rw [hnone] at hv; cases hv
    · obtain rfl := Option.some.inj (hw.symm.trans hv)
      refine ⟨set t, ?_, (hset t).1.trans huser, (hset t).2.1.trans hgen, (hset t).2.2⟩
      simp only [MfaOp.exec]
      rw [hU]
      exact mem_updateWhere_of_hit ht huser
    · rw [hnone] at hv; cases hv
    · obtain rfl := Option.some.inj (hw.symm.trans hv)
      refine ⟨set t, ?_, (hset t).1.trans huser, (hset t).2⟩
      simp only [MfaOp.exec]
      rw [hU]
      exact mem_updateWhere_of_hit ht huser
  failure hattempt hout := h.failed hfresh hwf hattempt hout
  monotone t ht t' ht' huser hsome hgen step hstep := by
    have hnext := h.step hfresh hwf
    obtain ⟨generation, hg⟩ := Option.ne_none_iff_exists'.mp hsome
    rw [hnext.last t' ht' generation (hgen.trans hg), huser]
    rw [h.last t ht generation hg] at hstep
    exact hnext.increase.last_mono hstep

theorem mfaSystem_stepLedger {c c' : Config MfaState String} {move : Move MfaOp MfaState}
    (hnext : mfaSystem.Next c move c') (hwf : ∀ op, move = .request op → op.WellFormed)
    (h : StepLedger c.issued c.state) : StepLedger c'.issued c'.state := by
  obtain ⟨hrun, hfresh, hissued⟩ := hnext
  rw [hrun, hissued]
  cases move with
  | request op => exact h.step hfresh (hwf op rfl)
  | surroundings write =>
    simp only [Move.exec, keepFactors]
    split
    · rename_i hkeep
      refine h.kept (fun t ht => Or.inl (hkeep.2 t ht)) (h.deviceIds.descend fun d' hd' => ?_)
      obtain ⟨d, hd, hdesc, hident⟩ := hkeep.1 d' hd'
      exact ⟨d, hd, hdesc.1, hdesc.2.1, hident⟩
    · exact h

/-- **A TOTP step is accepted once.** In every run of well-formed requests, the steps reported
within a credential generation increase strictly, the factor's last accepted step is the last of
them, and every further request is accounted for. -/
theorem totpStep_acceptedOnce {c : Config MfaState String} {moves : List (Move MfaOp MfaState)}
    (h : Run mfaSystem { state := {} } moves c)
    (hwf : ∀ op, Move.request op ∈ moves → op.WellFormed) :
    StepsIncrease c.state.log ∧
    (∀ t ∈ c.state.db.userTotp.rows, ∀ generation, t.credentialGeneration = some generation →
      t.lastAcceptedStep = lastStep c.state.log t.userId generation) ∧
    ∀ op : MfaOp, op.WellFormed → (∀ x ∈ op.draws, x ∉ c.issued) →
      StepAccounted c.state op := by
  have hledger : StepLedger c.issued c.state := by
    refine h.invariant_trace
      (I := fun moves c => (∀ op, Move.request op ∈ moves → op.WellFormed) →
        StepLedger c.issued c.state) (fun _ => ?_) (fun hnext ih hwf => ?_) hwf
    · exact ⟨List.Pairwise.nil, by simp, by simp [GenerationsIssued], by simp, by simp [DeviceIds]⟩
    · refine mfaSystem_stepLedger hnext (fun op hop => hwf op ?_)
        (ih fun op hop => hwf op (List.mem_append_left _ hop))
      rw [hop]
      exact List.mem_append_right _ (List.mem_singleton_self _)
  exact ⟨hledger.increase, hledger.last, fun op hop hfresh => hledger.accounted hfresh hop⟩

end Runs

/-- The enrolled account logs in with step 6, and a second login presents step 6 again. -/
def replayedStepMoves : List (Move MfaOp MfaState) :=
  let login : DeviceSessionInput :=
    { userId := "u", expectedMasterPasswordHash := "hash", expectedSecurityStamp := "stamp",
      deviceIdentifier := "laptop", refreshTokenId := "t2", refreshTokenHash := "h2",
      refreshTokenExpiresAt := 1000, now := 4, totpVerification := some ⟨"g1", 6⟩ }
  enrolMoves ++
    [.request (.session (.createPasswordGrantSession login)),
      .request (.session (.createPasswordGrantSession
        { login with
          deviceIdentifier := "thief", refreshTokenId := "t3", refreshTokenHash := "h3" }))]

def replayedStepEnd : Config MfaState String :=
  (replay (Move.exec MfaOp.exec keepFactors) (Move.draws MfaOp.draws) { state := {} }
    replayedStepMoves).get (by decide)

theorem totpStep_acceptedOnce_replayed :
    replayedStepEnd.state.log.map Verification.step = [5, 6] ∧
      StepsIncrease replayedStepEnd.state.log ∧
      (∀ t ∈ replayedStepEnd.state.db.userTotp.rows, ∀ generation,
        t.credentialGeneration = some generation →
        t.lastAcceptedStep = lastStep replayedStepEnd.state.log t.userId generation) ∧
      ∀ op : MfaOp, op.WellFormed → (∀ x ∈ op.draws, x ∉ replayedStepEnd.issued) →
        StepAccounted replayedStepEnd.state op :=
  ⟨by decide, totpStep_acceptedOnce (replay_run (Option.some_get _).symm) (by
    intro op hop
    simp only [replayedStepMoves, enrolMoves, List.mem_append, List.mem_cons, Move.request.injEq,
      reduceCtorEq, false_or, List.not_mem_nil, or_false] at hop
    rcases hop with (rfl | rfl | rfl) | rfl | rfl
    · exact (by decide : ':' ∉ "u".toList)
    · trivial
    · trivial
    · exact (by decide : ':' ∉ "u".toList)
    · exact (by decide : ':' ∉ "u".toList))⟩

end HonoWarden
