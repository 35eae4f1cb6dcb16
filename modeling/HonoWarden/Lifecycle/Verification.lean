import HonoWarden.Lifecycle.Email

/-!
# Verifying the address of an account

Model of `verifyAccountEmail` (`src/repositories/account-lifecycle-repository.ts`).

The batch marks the account verified at `now` under a usable token, and the two statements after
it recognise that by the mark alone: the account is verified at `now` in its generation. The mark
is as good when another call left it there in the same millisecond.

Results:
* **`verifyAccountEmail_atomic_iff`**: a call that does not report success changes nothing, unless
  the account already bears the mark and no usable token matches, when the call leaves an audit
  event and throws.
-/

namespace HonoWarden

open Relational

/-- `VerifyAccountEmailInput`. -/
structure VerifyAccountEmailInput where
  userId : String
  credentialGeneration : String
  tokenDigest : String
  now : Timestamp
  auditEventId : String
  auditEvent : AuditEvent
  deriving DecidableEq, Repr

inductive VerifyAccountEmailResult where
  | verified
  | conflict
  deriving DecidableEq, Repr

namespace VerifyAccountEmailInput

variable (input : VerifyAccountEmailInput)

/-- The lifecycle token the verification consumes. -/
def Token (t : AccountLifecycleToken) : Prop :=
  t.userId = input.userId ∧ t.purpose = .emailVerify ∧ t.tokenDigest = input.tokenDigest ∧
    t.credentialGeneration = input.credentialGeneration ∧ t.deliveryState = .accepted ∧
    input.now < t.expiresAt ∧ t.Active

instance : DecidablePred input.Token := fun _ => inferInstanceAs (Decidable (_ ∧ _))

/-- The account in its generation. -/
def Account (u : User) : Prop :=
  u.id = input.userId ∧ u.securityStamp = input.credentialGeneration ∧ u.disabledAt = none

instance : DecidablePred input.Account := fun _ => inferInstanceAs (Decidable (_ ∧ _))

/-- A usable token of the account. -/
def Usable (db : Db) : Prop := ∃ t ∈ db.accountLifecycleTokens.rows, input.Token t

instance (db : Db) : Decidable (input.Usable db) :=
  inferInstanceAs (Decidable (∃ t ∈ db.accountLifecycleTokens.rows, _))

/-- `verifiedGuard`. -/
def Verified (db : Db) : Prop :=
  ∃ u ∈ db.users.rows, input.Account u ∧ u.emailVerifiedAt = some input.now

instance (db : Db) : Decidable (input.Verified db) :=
  inferInstanceAs (Decidable (∃ u ∈ db.users.rows, _))

def verify (u : User) : User :=
  { u with emailVerifiedAt := some input.now, updatedAt := input.now }

def consume (t : AccountLifecycleToken) : AccountLifecycleToken :=
  { t with consumedAt := some input.now, updatedAt := input.now }

/-- The batch of `verifyAccountEmail`. -/
def batch : List (Statement Db) :=
  [Db.usersIn.updateReturning (fun db _ u => input.Account u ∧ input.Usable db)
      (fun _ => input.verify) fun u => [[.text u.id]],
    Db.accountLifecycleTokensIn.update (fun db _ t => input.Token t ∧ input.Verified db)
      fun _ => input.consume,
    auditStatement input.auditEvent input.auditEventId fun db _ => input.Verified db]

/-- The reading of the batch. -/
def interpret : List StatementResult → Except String VerifyAccountEmailResult
  | [user, token, audit] =>
    match user.rows with
    | [] =>
      if token.metaChanges ≠ 0 ∨ audit.metaChanges ≠ 0 then
        .error "account email verification guard invariant was violated"
      else .ok .conflict
    | rows =>
      if rows ≠ [[.text input.userId]] ∨ token.metaChanges ≠ 1 ∨ audit.metaChanges ≠ 1 then
        .error "account email verification did not commit once"
      else .ok .verified
  | _ => .error "account email verification batch returned an invalid count"

end VerifyAccountEmailInput

def verifyAccountEmail (input : VerifyAccountEmailInput) (db : Db) :
    Db × Except Failure VerifyAccountEmailResult :=
  commit input.batch input.interpret db

/-! ## What a call does -/

section Verification

variable {input : VerifyAccountEmailInput} {db : Db}

/-- A generation names one account. -/
theorem VerifyAccountEmailInput.account_unique {u v : User} (hu : u ∈ db.users.rows)
    (hv : v ∈ db.users.rows) (hau : input.Account u) (hav : input.Account v) : u = v :=
  db.users.eq_of_key hu hv (hau.1.trans hav.1.symm)

/-- Without a usable token only the audit statement can write. -/
theorem verifyAccountEmail_unusable (h : ¬ ((∃ u ∈ db.users.rows, input.Account u) ∧
    input.Usable db)) :
    runBatch input.batch db =
      (runFrom [auditStatement input.auditEvent input.auditEventId fun db _ => input.Verified db]
        db 0).map fun out => (out.1, {} :: {} :: out.2) := by
  have huser : ∀ u ∈ db.users.rows, ¬ (input.Account u ∧ input.Usable db) :=
    fun u hu hhit => h ⟨⟨u, hu, hhit.1⟩, hhit.2⟩
  have htoken : ∀ t ∈ db.accountLifecycleTokens.rows, ¬ (input.Token t ∧ input.Verified db) := by
    rintro t ht ⟨htoken, u, hu, haccount, -⟩
    exact h ⟨⟨u, hu, haccount⟩, t, ht, htoken⟩
  have hidle : ∀ st ∈ input.batch.take 2, ∀ n, st db n = .ok (db, {}) := by
    simp only [VerifyAccountEmailInput.batch, List.take_succ_cons, List.take_zero,
      List.mem_cons, List.not_mem_nil, or_false]
    rintro st (rfl | rfl) n
    · exact TableIn.updateReturning_idle _ huser
    · exact TableIn.update_idle _ htoken
  change runFrom (input.batch.take 2 ++ [auditStatement input.auditEvent input.auditEventId
    fun db _ => input.Verified db]) db 0 = _
  rw [runFrom_idle hidle (List.cons_ne_nil _ _)]
  rfl

/-- The tokens a verification consumes have one digest. -/
theorem VerifyAccountEmailInput.countP_token (tokens : Table AccountLifecycleToken) (p : Prop)
    [Decidable p] (hp : p) (h : ∃ t ∈ tokens.rows, input.Token t) :
    tokens.rows.countP (fun t => input.Token t ∧ p) = 1 := by
  obtain ⟨t, ht, htoken⟩ := h
  refine (countP_eq_one_iff_of_unique tokens.keyed ?_).mpr ⟨t, ht, htoken, hp⟩
  intro a _ b _ ha hb
  exact Or.inr (Or.inl (ha.1.2.2.1.trans hb.1.2.2.1.symm))

/-- **Under a usable token the batch does not commit, or it verifies the account.** -/
theorem verifyAccountEmail_usable {u : User} (hu : u ∈ db.users.rows) (haccount : input.Account u)
    (husable : input.Usable db) :
    (verifyAccountEmail input db).1 = db ∨ (verifyAccountEmail input db).2 = .ok .verified := by
  rcases commit_cases input.batch input.interpret db with
    ⟨hsame, -⟩ | ⟨s, rs, hrun, -, hresult⟩
  · exact Or.inl hsame
  · obtain ⟨s₁, user, rs₁, hst₁, hrun₁, rfl⟩ := runFrom_cons hrun
    obtain ⟨s₂, token, rs₂, hst₂, hrun₂, rfl⟩ := runFrom_cons hrun₁
    obtain ⟨s₃, audit, rs₃, hst₃, hrun₃, rfl⟩ := runFrom_cons hrun₂
    obtain ⟨-, rfl⟩ := runFrom_nil hrun₃
    -- The user row is found once, and bears the mark afterwards.
    obtain ⟨U, hU, rfl, -, -, hrows⟩ := TableIn.updateReturning_ok hst₁
    have hselected : db.users.rows.filter (fun u => input.Account u ∧ input.Usable db) = [u] :=
      db.users.filter_eq_singleton input.userId (fun _ h => h.1.1) hu ⟨haccount, husable⟩
    have huser : user.rows = [[.text input.userId]] := by
      rw [hrows]
      change List.flatMap _ (List.filter _ db.users.rows) = _
      rw [hselected, ← haccount.1]
      rfl
    have hmem : input.verify u ∈ U.rows := by
      rw [hU]
      exact mem_updateWhere_of_hit hu ⟨haccount, husable⟩
    have hverified : ∀ T, input.Verified
        { db with users := U, accountLifecycleTokens := T } := fun _ =>
      ⟨_, hmem, haccount, rfl⟩
    -- The token is consumed under the mark, and the event left.
    obtain ⟨T, -, rfl, hchanges, htoken⟩ := TableIn.update_ok hst₂
    have htokenOne : token.metaChanges = 1 := by
      rw [htoken, hchanges]
      exact input.countP_token db.accountLifecycleTokens _ (hverified _) husable
    obtain ⟨A, -, rfl, haudited, haudit⟩ := TableIn.insertSelect_ok hst₃
    have hauditOne : audit.metaChanges = 1 := by
      rw [haudit, haudited, if_pos (hverified T)]
      rfl
    refine Or.inr ?_
    rw [verifyAccountEmail, hresult, mapError_eq_ok]
    simp only [VerifyAccountEmailInput.interpret, huser, htokenOne, hauditOne, ne_eq,
      not_true_eq_false, or_self, if_false]

/-- An audit event under a used id is refused. -/
theorem auditStatement_refused {event : AuditEvent} {id : String} {condition : Db → Nat → Prop}
    [∀ db n, Decidable (condition db n)] {n : Nat} (hcondition : condition db n)
    (hused : ∃ e ∈ db.auditEvents.rows, e.id = id) :
    auditStatement event id condition db n = .error (.unique "audit_events") := by
  have hkeyed : ¬ KeyedRows (db.auditEvents.rows ++ [({ event with id := id } : AuditEventRow)]) := by
    rw [append_keyed_iff]
    rintro ⟨-, hfresh⟩
    obtain ⟨e, he, hid⟩ := hused
    exact hfresh e he (Or.inl hid)
  simp only [auditStatement, TableIn.insertSelect, if_pos hcondition, TableIn.write]
  exact dif_neg hkeyed

/-- **A call without a usable token.** It leaves an event exactly when the account bears the mark
of `now`, and never reports success. -/
theorem verifyAccountEmail_unusable_eq (h : ¬ ((∃ u ∈ db.users.rows, input.Account u) ∧
    input.Usable db)) :
    (verifyAccountEmail input db).2 ≠ .ok .verified ∧
      ((verifyAccountEmail input db).1 = db ↔
        ¬ (input.Verified db ∧ ∀ e ∈ db.auditEvents.rows, e.id ≠ input.auditEventId)) := by
  have hrun := verifyAccountEmail_unusable h
  by_cases hverified : input.Verified db
  · by_cases hfresh : ∀ e ∈ db.auditEvents.rows, e.id ≠ input.auditEventId
    · obtain ⟨A, hA, haudit⟩ := @auditStatement_total db input.auditEvent input.auditEventId
        (fun db _ => input.Verified db) _ 0 hverified hfresh
      have hcommitted : runBatch input.batch db = .ok ({ db with auditEvents := A },
          [{}, {}, { changes := 1, metaChanges := 1, rows := [] }]) := by
        rw [hrun, runFrom_cons_ok haudit rfl]
        rfl
      have hne : ({ db with auditEvents := A } : Db) ≠ db := by
        intro heq
        have hlength := congrArg (fun db : Db => db.auditEvents.rows.length) heq
        simp [hA] at hlength
      rw [verifyAccountEmail, commit_of_run hcommitted]
      refine ⟨?_, iff_of_false hne fun hn => hn ⟨hverified, hfresh⟩⟩
      rw [Ne, mapError_eq_ok]
      intro hresult
      cases hresult
    · push Not at hfresh
      have hfailed : runBatch input.batch db = .error (.unique "audit_events") := by
        rw [hrun, runFrom, auditStatement_refused hverified hfresh]
        rfl
      rw [verifyAccountEmail, commit, hfailed]
      refine ⟨(by intro hresult; cases hresult), iff_of_true rfl ?_⟩
      rintro ⟨-, hunused⟩
      obtain ⟨e, he, hid⟩ := hfresh
      exact hunused e he hid
  · have hidle : auditStatement input.auditEvent input.auditEventId
        (fun db _ => input.Verified db) db 0 = .ok (db, {}) :=
      TableIn.insertSelect_idle _ (if_neg hverified)
    have hcommitted : runBatch input.batch db = .ok (db, [{}, {}, {}]) := by
      rw [hrun, runFrom_cons_ok hidle rfl]
      rfl
    rw [verifyAccountEmail, commit_of_run hcommitted]
    refine ⟨?_, iff_of_true rfl fun hn => hverified hn.1⟩
    rw [Ne, mapError_eq_ok]
    intro hresult
    cases hresult

/-- **A call that does not report success changes nothing**, unless the account bears the mark of
`now` already, no usable token matches, and the event has a new id. -/
theorem verifyAccountEmail_atomic_iff (input : VerifyAccountEmailInput) (db : Db) :
    ((verifyAccountEmail input db).2 ≠ .ok .verified → (verifyAccountEmail input db).1 = db) ↔
      ¬ (input.Verified db ∧ ¬ input.Usable db ∧
        ∀ e ∈ db.auditEvents.rows, e.id ≠ input.auditEventId) := by
  by_cases h : (∃ u ∈ db.users.rows, input.Account u) ∧ input.Usable db
  · obtain ⟨⟨u, hu, haccount⟩, husable⟩ := h
    refine iff_of_true (fun hfailed => ?_) fun hn => hn.2.1 husable
    exact (verifyAccountEmail_usable hu haccount husable).resolve_right hfailed
  · obtain ⟨hfailed, hsame⟩ := verifyAccountEmail_unusable_eq h
    have hunusable : input.Verified db → ¬ input.Usable db := by
      rintro ⟨u, hu, haccount, -⟩ husable
      exact h ⟨⟨u, hu, haccount⟩, husable⟩
    constructor
    · rintro hatomic ⟨hverified, -, hfresh⟩
      exact hsame.mp (hatomic hfailed) ⟨hverified, hfresh⟩
    · rintro hn -
      exact hsame.mpr fun hmarked => hn ⟨hmarked.1, hunusable hmarked.1, hmarked.2⟩

/-- Two calls with one token in the same millisecond. -/
def verification (auditEventId : String) : VerifyAccountEmailInput where
  userId := "v"
  credentialGeneration := "s"
  tokenDigest := "d"
  now := 7
  auditEventId := auditEventId
  auditEvent :=
    { name := "auth.email_verified", outcome := "success", requestId := "r", occurredAt := 7 }

def verifying : Db where
  users := .singleton { id := "v", securityStamp := "s" }
  accountLifecycleTokens := .singleton
    { id := "t", userId := "v", purpose := .emailVerify, tokenDigest := "d",
      credentialGeneration := "s", deliveryState := .accepted, expiresAt := 9 }

/-- **The second call fails and leaves its event.** -/
theorem verifyAccountEmail_event_left :
    ¬ ∀ (input : VerifyAccountEmailInput) (db : Db),
      (verifyAccountEmail input db).2 ≠ .ok .verified → (verifyAccountEmail input db).1 = db := by
  intro h
  have hsecond := h (verification "e2") (verifyAccountEmail (verification "e1") verifying).1
  revert hsecond
  decide +kernel

end Verification

end HonoWarden
