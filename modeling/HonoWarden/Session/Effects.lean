import HonoWarden.Session.Repository

/-!
# What the session batches can do

One lemma for each function of `Session/Repository.lean`: all it can do to the database, success
and failure together. Invariants are proved from these and never unfold a batch.

* `createPasswordGrantSession_plain`, `createTotpPasswordGrantSession_effect`,
  `consumeAuthRequestWithSession_effect`: a login either leaves devices and tokens alone or opens
  a family, that is, appends one token and binds one device (`DeviceBound`).
* `rotationBatch_effect`: a rotation either leaves the database alone or replaces exactly one
  live token.
* `invalidateRefreshTokenSession_effect` and the like: a revocation sets `revoked_at` on the rows
  it selects and touches nothing else.
-/

namespace HonoWarden

open Relational

/-! ## Binding a device -/

/-- The device `fresh.id` was bound: the stored row of that id and account, or else the new row
`fresh`, went through `bind`. The other devices are untouched. -/
structure DeviceBound (D D' : Table Device) (fresh : Device) (bind : Device → Device) : Prop where
  bound : ∃ d, (d ∈ D.rows ∧ d.id = fresh.id ∧ d.userId = fresh.userId ∨
    d = fresh ∧ ∀ e ∈ D.rows, e.id ≠ fresh.id) ∧ bind d ∈ D'.rows
  others : ∀ d, d.id ≠ fresh.id → (d ∈ D'.rows ↔ d ∈ D.rows)

/-- A row of the bound table is an untouched device or the one that was bound. -/
theorem DeviceBound.cases {D D' : Table Device} {fresh : Device} {bind : Device → Device}
    (h : DeviceBound D D' fresh bind) (hbind : ∀ d, (bind d).id = d.id) {d' : Device}
    (hd' : d' ∈ D'.rows) : (d' ∈ D.rows ∧ d'.id ≠ fresh.id) ∨
      ∃ d, (d ∈ D.rows ∨ d = fresh) ∧ d.id = fresh.id ∧ d.userId = fresh.userId ∧
        d' = bind d := by
  by_cases hid : d'.id = fresh.id
  · obtain ⟨d, hd, hmem⟩ := h.bound
    have hkey : d.id = fresh.id ∧ d.userId = fresh.userId := by
      rcases hd with ⟨-, hkey⟩ | ⟨rfl, -⟩
      · exact hkey
      · exact ⟨rfl, rfl⟩
    refine Or.inr ⟨d, hd.imp And.left And.left, hkey.1, hkey.2, ?_⟩
    exact D'.eq_of_key hd' hmem (hid.trans (hkey.1.symm.trans (hbind d).symm))
  · exact Or.inl ⟨(h.others d' hid).mp hd', hid⟩

section Bind

variable {D D₁ D₂ : Table Device} {fresh : Device} {hit : Device → Prop} [DecidablePred hit]

/-- INSERT OR IGNORE of `fresh`, then `bind` on the row of its id and account: either that row
exists afterwards and is bound, or nothing changed. -/
theorem insertThenBind_cases (bind : Device → Device) (hbind : ∀ d, (bind d).id = d.id)
    (hhit : ∀ d, hit d ↔ d.id = fresh.id ∧ d.userId = fresh.userId)
    (h₁ : D₁.rows = insertUnlessConflict D.rows fresh)
    (h₂ : D₂.rows = updateWhere hit bind D₁.rows) :
    DeviceBound D D₂ fresh bind ∨
      D₂ = D ∧ ∀ d ∈ D.rows, d.id = fresh.id → d.userId ≠ fresh.userId := by
  have hothers : ∀ d, d.id ≠ fresh.id → (d ∈ D₂.rows ↔ d ∈ D.rows) := by
    intro d hd
    rw [h₂, mem_updateWhere]
    constructor
    · intro hmem
      rcases mem_updateWhere_cases (mem_updateWhere.mpr hmem) with ⟨ha, -⟩ | ⟨a, -, ha, rfl⟩
      · rcases mem_insertUnlessConflict (h₁ ▸ ha) with ha | rfl
        · exact ha
        · exact absurd rfl hd
      · exact absurd ((hbind a).trans ((hhit a).mp ha).1) hd
    · intro hmem
      refine ⟨d, h₁ ▸ mem_insertUnlessConflict_of_mem hmem, ?_⟩
      rw [if_neg fun h => hd ((hhit d).mp h).1]
  by_cases hold : ∃ d ∈ D.rows, d.id = fresh.id ∧ d.userId = fresh.userId
  · obtain ⟨d, hd, hkey⟩ := hold
    refine Or.inl ⟨⟨d, Or.inl ⟨hd, hkey⟩, ?_⟩, hothers⟩
    rw [h₂]
    exact mem_updateWhere_of_hit (h₁ ▸ mem_insertUnlessConflict_of_mem hd) ((hhit d).mpr hkey)
  · push Not at hold
    by_cases hconf : ∃ d ∈ D.rows, Conflict d fresh
    · -- the INSERT is ignored, and the UPDATE finds no row of this account
      right
      have hD₁ : D₁.rows = D.rows := by rw [h₁, insertUnlessConflict, if_pos hconf]
      refine ⟨Table.ext ?_, hold⟩
      rw [h₂, hD₁]
      exact updateWhere_eq_self fun d hd h => hold d hd ((hhit d).mp h).1 ((hhit d).mp h).2
    · left
      have hD₁ : D₁.rows = D.rows ++ [fresh] := by rw [h₁, insertUnlessConflict, if_neg hconf]
      push Not at hconf
      refine ⟨⟨fresh, Or.inr ⟨rfl, fun e he hid => hconf e he (Or.inl hid)⟩, ?_⟩, hothers⟩
      rw [h₂, hD₁]
      exact mem_updateWhere_of_hit (by simp) ((hhit fresh).mpr ⟨rfl, rfl⟩)

/-- An upsert of `fresh` whose update rewrites only rows of its account and identifier. -/
theorem upsertDevice_cases (bind : Device → Device) (hbind : ∀ d, (bind d).id = d.id)
    (hfresh : bind fresh = fresh) {onConflict : Device → Device → Option Device}
    (hconflict : ∀ d, onConflict d fresh =
      if d.userId = fresh.userId ∧ d.identifier = fresh.identifier then some (bind d) else none)
    (hD : D₁.rows = (upsert onConflict D.rows fresh).1) :
    (DeviceBound D D₁ fresh bind ∧ (upsert onConflict D.rows fresh).2.length = 1 ∧
      ∀ d ∈ D.rows, d.id = fresh.id → d.identifier = fresh.identifier) ∨
    D₁ = D ∧ (upsert onConflict D.rows fresh).2.length = 0 ∧ ∃ d ∈ D.rows, d.id = fresh.id ∧
      ¬ (d.userId = fresh.userId ∧ d.identifier = fresh.identifier) := by
  rcases upsert_cases onConflict D.rows fresh with ⟨hnew, hup⟩ | ⟨old, hold, hid, hup⟩
  · left
    rw [hup] at hD ⊢
    refine ⟨⟨⟨fresh, Or.inr ⟨rfl, hnew⟩, ?_⟩, fun d hd => ?_⟩, rfl,
      fun d hd hid => absurd hid (hnew d hd)⟩
    · rw [hD, hfresh]; simp
    · rw [hD, List.mem_append, List.mem_singleton]
      exact or_iff_left fun he => hd (congrArg Device.id he)
  · rw [hconflict] at hup
    split at hup
    · rename_i hsame
      left
      rcases hup with ⟨hnone, -⟩ | ⟨row, hrow, hup⟩
      · cases hnone
      obtain rfl := Option.some.inj hrow
      rw [hup] at hD ⊢
      refine ⟨⟨⟨old, Or.inl ⟨hold, hid, hsame.1⟩, ?_⟩, fun d hd => ?_⟩, rfl, fun d hd hdid => ?_⟩
      · rw [hD, mem_updateWhere]
        exact ⟨old, hold, (if_pos hid).symm⟩
      · rw [hD]
        constructor
        · intro hmem
          rcases mem_updateWhere_cases hmem with ⟨hmem, -⟩ | ⟨a, -, -, rfl⟩
          · exact hmem
          · exact absurd ((hbind old).trans hid) hd
        · exact fun hmem => mem_updateWhere_of_not_hit hmem hd
      · rw [D.eq_of_key hd hold (hdid.trans hid.symm)]
        exact hsame.2
    · rename_i hdiff
      right
      rcases hup with ⟨-, hup⟩ | ⟨row, hrow, -⟩
      · rw [hup] at hD ⊢
        exact ⟨Table.ext hD, rfl, old, hold, hid, hdiff⟩
      · cases hrow

end Bind

/-! ## Logins -/

theorem interpretSessionBatch_created {label : String} {rs : List StatementResult}
    (h : interpretSessionBatch label rs = .ok .created) :
    ∃ r₁ r₂ r₃, rs = [r₁, r₂, r₃] ∧ r₃.metaChanges = 1 := by
  unfold interpretSessionBatch at h
  split at h
  · rename_i r₁ r₂ r₃
    split at h
    · cases h
    · split at h
      · cases h
      · exact ⟨r₁, r₂, r₃, rfl, by omega⟩
  · cases h

/-- **The password login.** It leaves the database alone, or it found the account as the login
had read it, appended one token and bound one device. -/
theorem createPasswordGrantSession_plain (input : DeviceSessionInput) (db : Db)
    (hplain : input.totpVerification = none) :
    ((createPasswordGrantSession input db).1 = db ∧
      (createPasswordGrantSession input db).2 ≠ .ok .created) ∨
    (PasswordSessionOwner input db ∧ (createPasswordGrantSession input db).2 = .ok .created ∧
      ∃ D T, (createPasswordGrantSession input db).1 =
          { db with devices := D, refreshTokens := T } ∧
        T.rows = db.refreshTokens.rows ++ [input.refreshToken] ∧
        DeviceBound db.devices D input.device input.bind) := by
  simp only [createPasswordGrantSession, hplain]
  rcases commit_cases [insertLoginDevice input, bindLoginDevice input, insertLoginToken input]
      (interpretSessionBatch "password") db with ⟨hdb, e, he⟩ | ⟨db₃, rs, hrun, hdb, hout⟩
  · exact Or.inl ⟨hdb, by rw [he]; simp⟩
  obtain ⟨db₁, r₁, rs₁, hins, hrun₁, rfl⟩ := runFrom_cons hrun
  obtain ⟨db₂, r₂, rs₂, hbind, hrun₂, rfl⟩ := runFrom_cons hrun₁
  obtain ⟨db₃', r₃, rs₃, htok, hrun₃, rfl⟩ := runFrom_cons hrun₂
  obtain ⟨rfl, rfl⟩ := runFrom_nil hrun₃
  obtain ⟨D₁, hD₁, rfl, -, -⟩ := TableIn.insertOrIgnore_ok hins
  obtain ⟨D₂, hD₂, rfl, -, -⟩ := TableIn.update_ok hbind
  obtain ⟨T, hT, rfl, hc, hm⟩ := TableIn.insertSelect_ok htok
  rw [hdb, hout]
  simp only at hD₁ hD₂ hT hc hm ⊢
  by_cases howner : PasswordSessionOwner input db
  · have hins : D₁.rows = insertUnlessConflict db.devices.rows input.device := by
      simpa [howner] using hD₁
    have hhit : ∀ d : Device, (d.id = input.device.id ∧ d.userId = input.userId ∧
        PasswordSessionOwner input { db with devices := D₁ }) ↔
        d.id = input.device.id ∧ d.userId = input.device.userId := by
      simp [howner, DeviceSessionInput.device]
    rcases insertThenBind_cases input.bind (fun _ => rfl) hhit hins hD₂ with
      hbound | ⟨rfl, hnone⟩
    · right
      obtain ⟨d, hd, hmem⟩ := hbound.bound
      have hrow : ∃ d ∈ D₂.rows, d.id = input.device.id ∧ d.userId = input.userId ∧
          d.revokedAt = none ∧ d.sessionId = some input.refreshTokenId := by
        refine ⟨_, hmem, ?_, ?_, rfl, rfl⟩
        · rcases hd with ⟨-, hid, -⟩ | ⟨rfl, -⟩
          · exact hid
          · rfl
        · rcases hd with ⟨-, -, huser⟩ | ⟨rfl, -⟩
          · exact huser
          · rfl
      rw [if_pos ⟨by simpa using howner, hrow⟩] at hT hc
      refine ⟨howner, ?_, D₂, T, rfl, hT, hbound⟩
      simp [interpretSessionBatch, hm, hc, Except.mapError]
    · -- the id belongs to another account: the last EXISTS finds no row
      have hrow : ¬ ∃ d ∈ db.devices.rows, d.id = input.device.id ∧ d.userId = input.userId ∧
          d.revokedAt = none ∧ d.sessionId = some input.refreshTokenId := by
        rintro ⟨d, hd, hid, huser, -⟩
        exact hnone d hd hid huser
      rw [if_neg fun h => hrow h.2] at hT hc
      have hT' : T = db.refreshTokens := Table.ext (by simpa using hT)
      exact Or.inl ⟨by rw [hT'], by simp [interpretSessionBatch, hm, hc, Except.mapError]⟩
  · left
    have hD₁' : D₁ = db.devices := Table.ext (by simpa [howner] using hD₁)
    have hD₂' : D₂ = D₁ := by
      refine Table.ext (hD₂.trans (updateWhere_eq_self fun d _ h => howner ?_))
      simpa using h.2.2
    rw [if_neg fun h => howner (by simpa using h.1)] at hT hc
    have hT' : T = db.refreshTokens := Table.ext (by simpa using hT)
    exact ⟨by rw [hT', hD₂', hD₁'], by simp [interpretSessionBatch, hm, hc, Except.mapError]⟩

/-- **The login with an approved request.** It leaves the database alone, or it consumed an
approved request, appended one token and bound the device, unless the device id belongs to another
account. -/
theorem consumeAuthRequestWithSession_effect (input : ConsumeAuthRequestWithSessionInput)
    (db : Db) :
    ((consumeAuthRequestWithSession input db).1 = db ∧
      (consumeAuthRequestWithSession input db).2 ≠ .ok .consumed) ∨
    ((∃ a ∈ db.authRequests.rows, input.Eligible a) ∧
      (consumeAuthRequestWithSession input db).2 = .ok .consumed ∧
      ∃ D T A, (consumeAuthRequestWithSession input db).1 =
          { db with devices := D, refreshTokens := T, authRequests := A } ∧
        T.rows = db.refreshTokens.rows ++ [input.refreshToken] ∧
        A.rows = updateWhere input.Eligible input.consume db.authRequests.rows ∧
        (DeviceBound db.devices D input.device input.bind ∨
          D = db.devices ∧ (∀ d ∈ D.rows, d.id = input.deviceId → d.userId ≠ input.userId) ∧
            ∃ d ∈ D.rows, d.id = input.deviceId)) := by
  unfold consumeAuthRequestWithSession
  rcases commit_cases [insertRequestDevice input, bindRequestDevice input,
      insertRequestToken input, consumeRequest input] interpretConsumeBatch db with ⟨hdb, e, he⟩ | ⟨db₄, rs, hrun, hdb, hout⟩
  · exact Or.inl ⟨hdb, by rw [he]; simp⟩
  obtain ⟨db₁, r₁, rs₁, hins, hrun₁, rfl⟩ := runFrom_cons hrun
  obtain ⟨db₂, r₂, rs₂, hbind, hrun₂, rfl⟩ := runFrom_cons hrun₁
  obtain ⟨db₃, r₃, rs₃, htok, hrun₃, rfl⟩ := runFrom_cons hrun₂
  obtain ⟨db₄', r₄, rs₄, hreq, hrun₄, rfl⟩ := runFrom_cons hrun₃
  obtain ⟨rfl, rfl⟩ := runFrom_nil hrun₄
  obtain ⟨D₁, hD₁, rfl, -, -⟩ := TableIn.insertOrIgnore_ok hins
  obtain ⟨D₂, hD₂, rfl, -, -⟩ := TableIn.update_ok hbind
  obtain ⟨href, T, hT, rfl, hc, hm⟩ := TableIn.insertReferencing_ok htok
  obtain ⟨A, hA, rfl, hc', hm'⟩ := TableIn.update_ok hreq
  rw [hdb, hout]
  simp only at hD₁ hD₂ href hT hc hm hA hc' hm' ⊢
  by_cases helig : ∃ a ∈ db.authRequests.rows, input.Eligible a
  · right
    rw [if_pos helig] at href hT hc
    have hins : D₁.rows = insertUnlessConflict db.devices.rows input.device := by
      simpa [helig] using hD₁
    have hhit : ∀ d : Device, (d.id = input.device.id ∧ d.userId = input.userId ∧
        ∃ a ∈ db.authRequests.rows, input.Eligible a) ↔
        d.id = input.device.id ∧ d.userId = input.device.userId := by
      simp [helig, ConsumeAuthRequestWithSessionInput.device]
    have htoken : ∃ t ∈ T.rows, t.id = input.refreshTokenId ∧ t.userId = input.userId ∧
        t.deviceId = input.deviceId :=
      ⟨input.refreshToken, by simp [hT], rfl, rfl, rfl⟩
    have hone : r₄.changes = 1 := by
      rw [hc', Table.countP_eq_one_iff _ input.authRequestId fun a ha => ha.1.1]
      obtain ⟨a, ha, he⟩ := helig
      exact ⟨a, ha, he, htoken⟩
    refine ⟨helig, by simp [interpretConsumeBatch, hm, hc, hm', hone, Except.mapError], D₂, T, A,
      rfl, hT, ?_, ?_⟩
    · exact hA.trans (updateWhere_congr fun a _ => ⟨And.left, fun he => ⟨he, htoken⟩⟩)
    · refine (insertThenBind_cases input.bind (fun _ => rfl) hhit hins hD₂).imp_right ?_
      rintro ⟨rfl, hnone⟩
      exact ⟨rfl, hnone, href input.refreshToken List.mem_cons_self⟩
  · left
    rw [if_neg helig] at hT hc
    have hD₁' : D₁ = db.devices := Table.ext (by simpa [helig] using hD₁)
    have hD₂' : D₂ = D₁ :=
      Table.ext (hD₂.trans (updateWhere_eq_self fun d _ h => helig h.2.2))
    have hT' : T = db.refreshTokens := Table.ext (by simpa using hT)
    have hA' : A = db.authRequests :=
      Table.ext (hA.trans (updateWhere_eq_self fun a ha h => helig ⟨a, ha, h.1⟩))
    exact ⟨by rw [hT', hA', hD₂', hD₁'],
      by simp [interpretConsumeBatch, hm, hc, Except.mapError]⟩

/-- **The TOTP login.** It leaves the database alone; or it consumed one step, appended one token
and bound the device; or it consumed the step and nothing else, because the device id names a row
of another account or identifier. -/
theorem createTotpPasswordGrantSession_effect (input : DeviceSessionInput)
    (verification : TotpSessionVerification) (db : Db) :
    ((createTotpPasswordGrantSession input verification db).1 = db ∧
      (createTotpPasswordGrantSession input verification db).2 ≠ .ok .created) ∨
    ((∃ t ∈ db.userTotp.rows, input.Factor verification db t) ∧ ∃ U : Table UserTotp,
      U.rows = updateWhere (input.Factor verification db)
        (UserTotp.acceptStep verification.acceptedStep input.now) db.userTotp.rows ∧
      ((createTotpPasswordGrantSession input verification db).2 = .ok .created ∧
        (∃ D T, (createTotpPasswordGrantSession input verification db).1 =
            { db with userTotp := U, devices := D, refreshTokens := T } ∧
          T.rows = db.refreshTokens.rows ++ [input.refreshToken] ∧
          DeviceBound db.devices D (input.totpDevice verification) (input.bindTotp verification) ∧
          ∀ d ∈ db.devices.rows, d.id = input.device.id → d.identifier = input.deviceIdentifier) ∨
      (createTotpPasswordGrantSession input verification db).2 = .ok .staleGeneration ∧
        (createTotpPasswordGrantSession input verification db).1 = { db with userTotp := U } ∧
        ∃ d ∈ db.devices.rows, d.id = input.device.id ∧
          ¬ (d.userId = input.userId ∧ d.identifier = input.deviceIdentifier))) := by
  unfold createTotpPasswordGrantSession
  by_cases hvalid : isValidTotpSessionVerification verification
  swap
  · rw [if_neg hvalid]; exact Or.inl ⟨rfl, by simp⟩
  rw [if_pos hvalid]
  rcases commit_cases [consumeLoginStep input verification,
      upsertTotpLoginDevice input verification, insertTotpLoginToken input verification]
      (interpretSessionBatch "TOTP password") db with ⟨hdb, e, he⟩ | ⟨db₃, rs, hrun, hdb, hout⟩
  · exact Or.inl ⟨hdb, by rw [he]; simp⟩
  obtain ⟨db₁, r₁, rs₁, hstep, hrun₁, rfl⟩ := runFrom_cons hrun
  obtain ⟨db₂, r₂, rs₂, hdev, hrun₂, rfl⟩ := runFrom_cons hrun₁
  obtain ⟨db₃', r₃, rs₃, htok, hrun₃, rfl⟩ := runFrom_cons hrun₂
  obtain ⟨rfl, rfl⟩ := runFrom_nil hrun₃
  obtain ⟨U, hU, rfl, hc₁, -⟩ := TableIn.update_ok hstep
  obtain ⟨T, hT, rfl, hc, hm⟩ := TableIn.insertSelect_ok htok
  rw [hdb, hout]
  simp only at hU hc₁ hT hc hm ⊢
  by_cases hfactor : ∃ t ∈ db.userTotp.rows, input.Factor verification db t
  · right
    have hone : r₁.changes = 1 :=
      hc₁.trans ((Table.countP_eq_one_iff _ input.userId fun t ht => ht.1).mpr hfactor)
    obtain ⟨D, hD, rfl, hc₂, -⟩ := TableIn.upsertRow_some (if_pos hone) hdev
    simp only at hD hc₂ hT hc ⊢
    refine ⟨hfactor, U, hU, ?_⟩
    rcases upsertDevice_cases (input.bindTotp verification) (fun _ => rfl) rfl (fun _ => rfl) hD
      with ⟨hbound, hlen, hident⟩ | ⟨rfl, hlen, d, hd, hid, hdiff⟩
    · left
      obtain ⟨d, hd, hmem⟩ := hbound.bound
      have hrow : ∃ d ∈ D.rows, d.id = input.device.id ∧ d.userId = input.userId ∧
          d.identifier = input.deviceIdentifier ∧ d.sessionId = some input.refreshTokenId ∧
          d.revokedAt = none ∧
          d.mfaTotpCredentialGeneration = some verification.credentialGeneration ∧
          d.mfaVerifiedAt ≠ none := by
        refine ⟨_, hmem, ?_, ?_, ?_, rfl, rfl, rfl, Option.some_ne_none _⟩
        · rcases hd with ⟨-, hid, -⟩ | ⟨rfl, -⟩
          · exact hid
          · rfl
        · rcases hd with ⟨-, -, huser⟩ | ⟨rfl, -⟩
          · exact huser
          · rfl
        · rcases hd with ⟨hd, hid, -⟩ | ⟨rfl, -⟩
          · exact hident d hd hid
          · rfl
      rw [if_pos ⟨hc₂.trans hlen, hrow⟩] at hT hc
      exact ⟨by simp [interpretSessionBatch, hm, hc, Except.mapError], D, T, rfl, hT, hbound, hident⟩
    · right
      rw [if_neg fun h => absurd (h.1.symm.trans (hc₂.trans hlen)) (by decide)] at hT hc
      have hT' : T = db.refreshTokens := Table.ext (by simpa using hT)
      exact ⟨by simp [interpretSessionBatch, hm, hc, Except.mapError], by rw [hT'],
        d, hd, hid, hdiff⟩
  · left
    have hzero : r₁.changes = 0 := by
      rw [hc₁, List.countP_eq_zero]
      exact fun t ht h => hfactor ⟨t, ht, by simpa using h⟩
    have hU' : U = db.userTotp :=
      Table.ext (hU.trans (updateWhere_eq_self fun t ht h => hfactor ⟨t, ht, h⟩))
    obtain ⟨rfl, hc₂, -⟩ := TableIn.upsertRow_none (if_neg (by omega)) hdev
    simp only at hT hc ⊢
    rw [if_neg fun h => by omega] at hT hc
    have hT' : T = db.refreshTokens := Table.ext (by simpa using hT)
    exact ⟨by rw [hT', hU'], by simp [interpretSessionBatch, hm, hc, Except.mapError]⟩

/-! ## Rotation -/

/-- The tokens and devices after the rotation of the live token `t`. -/
structure Rotated (input : RotateRefreshTokenInput) (db : Db) (t : RefreshToken) (T : Table RefreshToken)
    (D : Table Device) : Prop where
  tokens : T.rows = updateWhere (fun r => r.id = t.id) (RefreshToken.revoke input.now)
    db.refreshTokens.rows ++ [input.replacement t]
  devices : D.rows = updateWhere (fun d => d.id = t.deviceId) input.touch db.devices.rows

/-- **The rotation.** With an id no stored token has, it leaves the database alone, or it found
the presented token live and replaced it. -/
theorem rotationBatch_effect (input : RotateRefreshTokenInput) (db : Db)
    (hfresh : ∀ t ∈ db.refreshTokens.rows, t.id ≠ input.nextRefreshTokenId) :
    ((rotationBatch input db).1 = db ∧ (rotationBatch input db).2 ≠ .ok true) ∨
    ((rotationBatch input db).2 = .ok true ∧ ∃ t ∈ db.refreshTokens.rows, input.Current db t ∧
      ∃ D T, (rotationBatch input db).1 = { db with devices := D, refreshTokens := T } ∧
        Rotated input db t T D) := by
  unfold rotationBatch
  rcases commit_cases [insertReplacement input, revokeCurrentToken input, touchRotatedDevice input]
      interpretRotationBatch db with ⟨hdb, e, he⟩ | ⟨db₃, rs, hrun, hdb, hout⟩
  · exact Or.inl ⟨hdb, by rw [he]; simp⟩
  obtain ⟨db₁, r₁, rs₁, hins, hrun₁, rfl⟩ := runFrom_cons hrun
  obtain ⟨db₂, r₂, rs₂, hrev, hrun₂, rfl⟩ := runFrom_cons hrun₁
  obtain ⟨db₃', r₃, rs₃, hdev, hrun₃, rfl⟩ := runFrom_cons hrun₂
  obtain ⟨rfl, rfl⟩ := runFrom_nil hrun₃
  obtain ⟨T₁, hT₁, rfl, hc₁, hm₁⟩ := TableIn.insertSelect_ok hins
  obtain ⟨T₂, hT₂, rfl, hc₂, hm₂⟩ := TableIn.update_ok hrev
  obtain ⟨D, hD, rfl, hc₃, hm₃⟩ := TableIn.update_ok hdev
  rw [hdb, hout]
  simp only at hT₁ hc₁ hT₂ hc₂ hD hc₃ ⊢
  by_cases hcur : ∃ t ∈ db.refreshTokens.rows, input.Current db t
  · obtain ⟨t, ht, hcur⟩ := hcur
    obtain ⟨hid, huser, hdevice, hlive, hsession, ⟨d, hd, hdid, hduser, hdlive, -⟩, -⟩ := id hcur
    have hsel : db.refreshTokens.rows.filter (fun t => input.Current db t) = [t] :=
      Table.filter_eq_singleton _ input.currentTokenId (fun a ha => ha.1) ht hcur
    rw [hsel] at hT₁ hc₁
    have hmem : t ∈ T₁.rows := by rw [hT₁]; exact List.mem_append_left _ ht
    have hrep : ∀ rows : List RefreshToken, input.replacement t ∈ rows →
        ∃ r ∈ rows, r.id = input.nextRefreshTokenId ∧ r.userId = t.userId ∧
          r.deviceId = t.deviceId ∧ r.rotatedFromTokenId = some t.id ∧
          r.tokenHash = input.nextRefreshTokenHash ∧ r.revokedAt = none :=
      fun _ h => ⟨_, h, rfl, rfl, rfl, rfl, rfl, rfl⟩
    have hrep₁ := hrep T₁.rows (by rw [hT₁]; simp)
    have hT₂' : T₂.rows = updateWhere (fun r => r.id = t.id) (RefreshToken.revoke input.now)
        db.refreshTokens.rows ++ [input.replacement t] := by
      have hcongr : T₂.rows =
          updateWhere (fun r => r.id = t.id) (RefreshToken.revoke input.now) T₁.rows := by
        refine hT₂.trans (updateWhere_congr fun a ha => ⟨fun h => h.1.trans hid.symm, fun h => ?_⟩)
        obtain rfl := T₁.eq_of_key ha hmem h
        exact ⟨hid, huser, hdevice, hlive, hrep₁⟩
      rw [hcongr, hT₁, updateWhere_append]
      congr 1
      exact updateWhere_eq_self fun a ha h => by
        obtain rfl := List.mem_singleton.mp ha
        exact hfresh t ht h.symm
    have hrep₂ := hrep T₂.rows (by rw [hT₂']; simp)
    have hone₂ : r₂.changes = 1 := by
      rw [hc₂, Table.countP_eq_one_iff _ input.currentTokenId fun a ha => ha.1]
      exact ⟨t, hmem, hid, huser, hdevice, hlive, hrep₁⟩
    have htouched : ∀ e ∈ db.devices.rows, e.id = t.deviceId → e.id = input.deviceId ∧
        e.userId = input.userId ∧ e.revokedAt = none ∧
        input.Replaced { db with refreshTokens := T₂ } e.userId e.id input.currentTokenId := by
      intro e he heid
      obtain rfl := db.devices.eq_of_key he hd (heid.trans hdid.symm)
      refine ⟨heid.trans hdevice, hduser.trans huser, hdlive, ?_⟩
      rw [hduser, hdid, ← hid]
      exact hrep₂
    have hone₃ : r₃.changes = 1 := by
      rw [hc₃, Table.countP_eq_one_iff _ input.deviceId fun a ha => ha.1]
      exact ⟨d, hd, htouched d hd hdid⟩
    refine Or.inr ⟨?_, t, ht, hcur, D, T₂, rfl, hT₂', ?_⟩
    · simp [interpretRotationBatch, hm₁, hm₂, hm₃, hc₁, hone₂, hone₃, Except.mapError]
    · exact hD.trans (updateWhere_congr fun e he =>
        ⟨fun h => h.1.trans hdevice.symm, htouched e he⟩)
  · left
    have hsel : db.refreshTokens.rows.filter (fun t => input.Current db t) = [] := by
      rw [List.filter_eq_nil_iff]
      exact fun t ht h => hcur ⟨t, ht, by simpa using h⟩
    rw [hsel] at hT₁ hc₁
    have hT₁' : T₁ = db.refreshTokens := Table.ext (by simpa using hT₁)
    have hnone : ∀ userId deviceId currentId,
        ¬ input.Replaced db userId deviceId currentId := by
      rintro userId deviceId currentId ⟨r, hr, hid, -⟩
      exact hfresh r hr hid
    subst hT₁'
    have hT₂' : T₂ = db.refreshTokens :=
      Table.ext (hT₂.trans (updateWhere_eq_self fun a _ h => hnone _ _ _ h.2.2.2.2))
    subst hT₂'
    have hD' : D = db.devices :=
      Table.ext (hD.trans (updateWhere_eq_self fun e _ h => hnone _ _ _ h.2.2.2))
    subst hD'
    exact ⟨rfl, by simp [interpretRotationBatch, hm₁, hc₁, Except.mapError]⟩

/-- Whatever its ids, a rotation does no more to the devices than touch the one it names. -/
theorem rotationBatch_devices (input : RotateRefreshTokenInput) (db : Db) :
    ∃ D T, (rotationBatch input db).1 = { db with devices := D, refreshTokens := T } ∧
      ∀ d' ∈ D.rows, d' ∈ db.devices.rows ∨
        ∃ d ∈ db.devices.rows, d.id = input.deviceId ∧ d.userId = input.userId ∧
          d' = input.touch d := by
  unfold rotationBatch
  rcases commit_cases [insertReplacement input, revokeCurrentToken input, touchRotatedDevice input]
      interpretRotationBatch db with ⟨hdb, e, -⟩ | ⟨db₃, rs, hrun, hdb, -⟩
  · exact ⟨db.devices, db.refreshTokens, hdb, fun d hd => Or.inl hd⟩
  obtain ⟨db₁, r₁, rs₁, hins, hrun₁, rfl⟩ := runFrom_cons hrun
  obtain ⟨db₂, r₂, rs₂, hrev, hrun₂, rfl⟩ := runFrom_cons hrun₁
  obtain ⟨db₃', r₃, rs₃, hdev, hrun₃, rfl⟩ := runFrom_cons hrun₂
  obtain ⟨rfl, rfl⟩ := runFrom_nil hrun₃
  obtain ⟨T₁, -, rfl, -⟩ := TableIn.insertSelect_ok hins
  obtain ⟨T₂, -, rfl, -⟩ := TableIn.update_ok hrev
  obtain ⟨D, hD, rfl, -⟩ := TableIn.update_ok hdev
  refine ⟨D, T₂, hdb, fun d' hd' => ?_⟩
  rw [hD] at hd'
  rcases mem_updateWhere_cases hd' with ⟨hd, -⟩ | ⟨d, hd, hhit, rfl⟩
  · exact Or.inl hd
  · exact Or.inr ⟨d, hd, hhit.1, hhit.2.1, rfl⟩

theorem keepsKeys_revoke (now : Timestamp) : KeepsKeys (RefreshToken.revoke now) :=
  fun _ => ⟨rfl, fun _ h => h⟩

/-- The rotation is never refused when its new id and hash are new and it leaves the identifier
of the device as it is. -/
theorem rotationBatch_total (input : RotateRefreshTokenInput) (db : Db)
    (hid : ∀ t ∈ db.refreshTokens.rows, t.id ≠ input.nextRefreshTokenId)
    (hhash : ∀ t ∈ db.refreshTokens.rows, t.tokenHash ≠ input.nextRefreshTokenHash)
    (hident : ∀ d ∈ db.devices.rows, d.id = input.deviceId →
      d.identifier = input.deviceIdentifier) :
    ∃ b, (rotationBatch input db).2 = .ok b := by
  have hkeyed : KeyedRows (db.refreshTokens.rows ++
      (db.refreshTokens.rows.filter fun t => input.Current db t).map input.replacement) := by
    by_cases hcur : ∃ t ∈ db.refreshTokens.rows, input.Current db t
    · obtain ⟨t, ht, hcur⟩ := hcur
      rw [Table.filter_eq_singleton _ input.currentTokenId (fun a ha => ha.1) ht hcur]
      exact append_keyed_iff.mpr ⟨db.refreshTokens.keyed, fun a ha hc =>
        hc.elim (hid a ha) (hhash a ha)⟩
    · have hsel : db.refreshTokens.rows.filter (fun t => input.Current db t) = [] := by
        rw [List.filter_eq_nil_iff]
        exact fun t ht h => hcur ⟨t, ht, by simpa using h⟩
      simpa [hsel] using db.refreshTokens.keyed
  have hins : ∃ T r, insertReplacement input db 0 = .ok ({ db with refreshTokens := T }, r) :=
    ⟨_, _, TableIn.write_of_keyed hkeyed⟩
  obtain ⟨T₁, r₁, hins⟩ := hins
  obtain ⟨T₂, r₂, hrev, -⟩ := TableIn.updateReturning_total (s := { db with refreshTokens := T₁ })
    Db.refreshTokensIn
    (fun db _ t => t.id = input.currentTokenId ∧ t.userId = input.userId ∧
      t.deviceId = input.deviceId ∧ t.revokedAt = none ∧
      input.Replaced db t.userId t.deviceId t.id)
    (fun _ => RefreshToken.revoke input.now) r₁.changes (fun _ => [])
    (keepsKeys_revoke input.now)
  have htouch : ∃ D r, touchRotatedDevice input { db with refreshTokens := T₂ } r₂.changes =
      .ok ({ db with refreshTokens := T₂, devices := D }, r) := by
    refine ⟨_, _, TableIn.write_of_keyed (updateWhere_keyed_of_sameKeys db.devices.keyed ?_)⟩
    intro d hd hhit
    refine ⟨rfl, fun e he => ⟨he.1, ?_⟩⟩
    exact (hident d hd hhit.1).trans he.2
  obtain ⟨D, r₃, htouch⟩ := htouch
  have hrun : runBatch [insertReplacement input, revokeCurrentToken input,
      touchRotatedDevice input] db = .ok ({ db with refreshTokens := T₂, devices := D },
        [r₁, r₂, r₃]) :=
    runFrom_cons_ok hins (runFrom_cons_ok hrev (runFrom_cons_ok htouch rfl))
  simp only [rotationBatch, commit, hrun, interpretRotationBatch]
  exact ⟨_, rfl⟩

/-! ## Revocation -/

/-- The clean-up always commits; it revokes the live tokens and the device of one session. -/
theorem invalidateRefreshTokenSession_effect (userId deviceId : String) (now : Timestamp)
    (expectedSessionId : Option String) (db : Db) : ∃ D T,
    invalidateRefreshTokenSession userId deviceId now expectedSessionId db =
      ({ db with devices := D, refreshTokens := T }, .ok ()) ∧
    T.rows = updateWhere (fun t => t.userId = userId ∧ t.deviceId = deviceId ∧
      t.revokedAt = none ∧ InSession expectedSessionId t.sessionId) (RefreshToken.revoke now)
      db.refreshTokens.rows ∧
    D.rows = updateWhere (fun d => d.id = deviceId ∧ d.userId = userId ∧
      InSession expectedSessionId d.sessionId)
      (fun d => { d with revokedAt := some now, updatedAt := now }) db.devices.rows := by
  have hcall : invalidateRefreshTokenSession userId deviceId now expectedSessionId db = _ := rfl
  obtain ⟨T, r, D, r', h, hT, -, -, hD, -⟩ := TableIn.commit_update_update hcall
    (fun _ => keepsKeys_revoke now) (fun _ _ => ⟨rfl, fun _ h => h⟩)
  exact ⟨D, T, h, hT, hD⟩

theorem revokeCurrentDeviceSession_effect (actor : MfaSessionActor) (revokedAt : Timestamp)
    (db : Db) : ∃ D T, (revokeCurrentDeviceSession actor revokedAt db).1 =
      { db with devices := D, refreshTokens := T } ∧
    T.rows = updateWhere (fun t => t.userId = actor.userId ∧
      t.sessionId = some actor.sessionId ∧ t.revokedAt = none ∧
      ∃ d ∈ db.devices.rows, d.id = t.deviceId ∧ d.userId = actor.userId ∧
        d.identifier = actor.deviceIdentifier ∧ d.sessionId = some actor.sessionId ∧
        d.revokedAt = none) (RefreshToken.revoke revokedAt) db.refreshTokens.rows ∧
    D.rows = updateWhere (fun d => d.userId = actor.userId ∧
      d.identifier = actor.deviceIdentifier ∧ d.sessionId = some actor.sessionId ∧
      d.revokedAt = none)
      (fun d => { d with
        revokedAt := some revokedAt
        updatedAt := revokedAt
        mfaTotpCredentialGeneration := none
        mfaVerifiedAt := none }) db.devices.rows := by
  have hcall : revokeCurrentDeviceSession actor revokedAt db = _ := rfl
  obtain ⟨T, r, D, r', h, hT, -, -, hD, -⟩ := TableIn.commit_update_update hcall
    (fun _ => keepsKeys_revoke revokedAt) (fun _ _ => ⟨rfl, fun _ h => h⟩)
  exact ⟨D, T, congrArg Prod.fst h, hT, hD⟩

/-- The tokens of a device are revoked only when its row was. -/
theorem revokeDeviceSession_effect (userId deviceId : String) (revokedAt : Timestamp) (db : Db) :
    ∃ D T, (revokeDeviceSession userId deviceId revokedAt db).1 =
      { db with devices := D, refreshTokens := T } ∧
    D.rows = updateWhere (fun d => d.id = deviceId ∧ d.userId = userId ∧ d.revokedAt = none)
      (fun d => { d with revokedAt := some revokedAt, updatedAt := revokedAt }) db.devices.rows ∧
    T.rows = updateWhere (fun t => t.userId = userId ∧ t.deviceId = deviceId ∧
      t.revokedAt = none ∧ ∃ d ∈ db.devices.rows,
        d.id = deviceId ∧ d.userId = userId ∧ d.revokedAt = none)
      (RefreshToken.revoke revokedAt) db.refreshTokens.rows := by
  have hcall : revokeDeviceSession userId deviceId revokedAt db = _ := rfl
  obtain ⟨D, r, T, r', h, hD, hc, -, hT, -⟩ := TableIn.commit_update_update hcall
    (fun _ _ => ⟨rfl, fun _ h => h⟩) (fun _ => keepsKeys_revoke revokedAt)
  have hone := Table.countP_eq_one_iff db.devices (p := fun d => d.id = deviceId ∧
    d.userId = userId ∧ d.revokedAt = none) deviceId fun d hd => hd.1
  refine ⟨D, T, congrArg Prod.fst h, hD, hT.trans (updateWhere_congr fun t _ => ?_)⟩
  simp only [hc, hone]

theorem revokeOtherDeviceSessions_effect (userId currentDeviceId : String)
    (revokedAt : Timestamp) (db : Db) :
    ∃ D T, revokeOtherDeviceSessions userId currentDeviceId revokedAt db =
      ({ db with devices := D, refreshTokens := T }, .ok ()) ∧
    D.rows = updateWhere (fun d => d.userId = userId ∧ d.id ≠ currentDeviceId ∧
      d.revokedAt = none)
      (fun d => { d with revokedAt := some revokedAt, updatedAt := revokedAt }) db.devices.rows ∧
    T.rows = updateWhere (fun t => t.userId = userId ∧ t.deviceId ≠ currentDeviceId ∧
      t.revokedAt = none) (RefreshToken.revoke revokedAt) db.refreshTokens.rows := by
  have hcall : revokeOtherDeviceSessions userId currentDeviceId revokedAt db = _ := rfl
  obtain ⟨D, r, T, r', h, hD, -, -, hT, -⟩ := TableIn.commit_update_update hcall
    (fun _ _ => ⟨rfl, fun _ h => h⟩) (fun _ => keepsKeys_revoke revokedAt)
  exact ⟨D, T, h, hD, hT⟩

/-- The retention DELETE removes tokens, and unlinks the successors of those it removed. -/
theorem deleteExpiredRefreshTokens_effect (now : Timestamp) (limit : Nat) (db : Db) :
    ∃ T, (deleteExpiredRefreshTokens now limit db).1 = { db with refreshTokens := T } ∧
      ∀ t' ∈ T.rows, ∃ t ∈ db.refreshTokens.rows, t' = t ∨
        t' = { t with rotatedFromTokenId := none } := by
  unfold deleteExpiredRefreshTokens
  rcases execute_cases (Db.refreshTokensIn.deleteTriggering
      (fun db _ t => t.id ∈ expiredRefreshTokenIds now limit db) (fun _ => []) clearRotatedFrom)
      (fun result => .ok result.metaChanges) db with ⟨hdb, -⟩ | ⟨db', r, hrun, hdb, -⟩
  · exact ⟨db.refreshTokens, hdb, fun t ht => ⟨t, ht, Or.inl rfl⟩⟩
  obtain ⟨T₁, hT₁, rfl, -⟩ := TableIn.deleteTriggering_ok hrun
  obtain ⟨T, hT, hrows⟩ := TableIn.nestedUpdate_eq Db.refreshTokensIn
    (fun t => ∃ r ∈ db.refreshTokens.rows.filter fun a =>
      RefreshToken.id a ∈ expiredRefreshTokenIds now limit db, t.rotatedFromTokenId = some r.id)
    (fun t => { t with rotatedFromTokenId := none }) { db with refreshTokens := T₁ }
    fun _ => ⟨rfl, fun _ h => h⟩
  refine ⟨T, hdb.trans hT, fun t' ht' => ?_⟩
  rw [hrows, hT₁] at ht'
  rcases mem_updateWhere_cases ht' with ⟨hmem, -⟩ | ⟨t, hmem, -, rfl⟩
  · exact ⟨t', (mem_deleteWhere.mp hmem).1, Or.inl rfl⟩
  · exact ⟨t, (mem_deleteWhere.mp hmem).1, Or.inr rfl⟩

end HonoWarden
