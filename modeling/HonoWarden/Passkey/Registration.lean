import HonoWarden.Passkey.Repository
import HonoWarden.Relational.Run

/-!
# Registering a passkey

What `completeWebAuthnRegistration` does, and what holds in every run of the functions that write
passkeys and challenges.

The insertion stands after the consumption in one batch and is gated by `changes() = 1`. Its other
conditions are those of the consumption, as long as both name the same account, which the only
caller sees to: it passes the account of the session for both.

Results:
* **`completeWebAuthnRegistration_outcome`**: a call consumes its challenge and inserts its
  credential, or changes nothing;
* **`registration_safe`**: in every run no challenge is consumed twice, no user has more passkeys
  than the limit, and no credential id is stored twice.
-/

namespace HonoWarden

open Relational

/-- The session's account on both sides. -/
def CompleteWebAuthnRegistrationInput.OneUser (input : CompleteWebAuthnRegistrationInput) : Prop :=
  input.consume.userId = input.credential.userId

instance (input : CompleteWebAuthnRegistrationInput) : Decidable input.OneUser :=
  inferInstanceAs (Decidable (_ = _))

/-- The call turned `db` into `db'` by consuming its challenge, unconsumed and unexpired, and
storing its credential, and nothing else. -/
structure Registered (input : CompleteWebAuthnRegistrationInput) (db db' : PasskeyDb) : Prop where
  users : db'.users = db.users
  challenge : ∃ k ∈ db.webauthnChallenges.rows, input.Consumes db k ∧
    db'.webauthnChallenges.rows = updateWhere (fun j => j.id = k.id)
      (fun _ => input.consume.consume k) db.webauthnChallenges.rows
  credential : db'.webauthnCredentials.rows = db.webauthnCredentials.rows ++
    [{ input.credential with updatedAt := input.credential.revisionDate }]

section Registration

variable {input : CompleteWebAuthnRegistrationInput} {db : PasskeyDb}

/-- The token names one challenge. -/
theorem CompleteWebAuthnRegistrationInput.consumes_unique {k j : WebAuthnChallengeRecord}
    (hk : k ∈ db.webauthnChallenges.rows) (hj : j ∈ db.webauthnChallenges.rows)
    (h : input.Consumes db k) (h' : input.Consumes db j) : k = j :=
  db.webauthnChallenges.eq_of_alternate hk hj (h.1.1.trans h'.1.1.symm)

/-- What the consumption does: to the one challenge it names, or nothing. -/
theorem registration_consumed {k : WebAuthnChallengeRecord}
    (hk : k ∈ db.webauthnChallenges.rows) (h : input.Consumes db k) :
    updateWhere (fun j => input.Consumes db j) input.consume.consume db.webauthnChallenges.rows =
      updateWhere (fun j => j.id = k.id) (fun _ => input.consume.consume k)
        db.webauthnChallenges.rows := by
  refine List.map_congr_left fun j hj => ?_
  by_cases hid : j.id = k.id
  · obtain rfl := db.webauthnChallenges.eq_of_key hj hk hid
    rw [if_pos h, if_pos rfl]
  · rw [if_neg fun hj' => hid (congrArg _ (input.consumes_unique hj hk hj' h)), if_neg hid]

/-- After the consumption the insertion meets its conditions. -/
theorem registration_inserts {k : WebAuthnChallengeRecord} {T : Table WebAuthnChallengeRecord}
    (hsame : input.OneUser) (hk : k ∈ db.webauthnChallenges.rows) (h : input.Consumes db k)
    (hT : T.rows = updateWhere (fun j => input.Consumes db j) input.consume.consume
      db.webauthnChallenges.rows) :
    input.Inserts { db with webauthnChallenges := T } 1 := by
  refine ⟨rfl, ?_, ⟨input.consume.consume k, ?_, h.1.1, h.2.1, rfl, h.1.2.1⟩, h.2.2.2⟩
  · rw [← hsame]
    exact h.2.2.1
  · change _ ∈ T.rows
    rw [hT]
    exact mem_updateWhere_of_hit hk h

/-- **What a batch that commits has done.** -/
theorem registration_batch {s : PasskeyDb} {rs : List StatementResult}
    (hsame : input.OneUser) (hrun : runBatch input.batch db = .ok (s, rs)) :
    (CompleteWebAuthnRegistrationInput.readBatch rs = (true, true) ∧ Registered input db s) ∨
      (CompleteWebAuthnRegistrationInput.readBatch rs = (false, false) ∧ s = db) := by
  obtain ⟨s₁, consume, rs₁, hst₁, hrun₁, rfl⟩ := runFrom_cons hrun
  obtain ⟨s₂, insert, rs₂, hst₂, hrun₂, rfl⟩ := runFrom_cons hrun₁
  obtain ⟨rfl, rfl⟩ := runFrom_nil hrun₂
  obtain ⟨-, T, hT, rfl, hchanges, hconsume⟩ := TableIn.updateReferencing_ok hst₁
  obtain ⟨hinsert, -⟩ := Statement.checked_ok hst₂
  obtain ⟨-, C, hC, rfl, hinserted, hmeta⟩ := TableIn.insertReferencing_ok hinsert
  by_cases hexists : ∃ k ∈ db.webauthnChallenges.rows, input.Consumes db k
  · obtain ⟨k, hk, hconsumes⟩ := hexists
    have hone : consume.changes = 1 := by
      rw [hchanges]
      exact (countP_eq_one_iff_of_unique db.webauthnChallenges.keyed fun a ha b hb ha' hb' =>
        Or.inr (ha'.1.1.trans hb'.1.1.symm)).mpr ⟨k, hk, hconsumes⟩
    have hinserts := registration_inserts hsame hk hconsumes hT
    rw [hone, if_pos hinserts] at hC hinserted
    refine Or.inl ⟨?_, rfl, ⟨k, hk, hconsumes, ?_⟩, hC⟩
    · simp [CompleteWebAuthnRegistrationInput.readBatch, hconsume, hone, hmeta, hinserted]
    · exact hT.trans (registration_consumed hk hconsumes)
  · push Not at hexists
    have hzero : consume.changes = 0 := by
      rw [hchanges]
      exact List.countP_eq_zero.mpr fun k hk => by simpa using hexists k hk
    have hrows : T.rows = db.webauthnChallenges.rows := hT.trans (updateWhere_eq_self hexists)
    have hnone : ¬ input.Inserts { db with webauthnChallenges := T } 0 := fun h => by cases h.1
    rw [hzero, if_neg hnone] at hC hinserted
    refine Or.inr ⟨?_, ?_⟩
    · simp [CompleteWebAuthnRegistrationInput.readBatch, hconsume, hzero, hmeta, hinserted]
    · rw [List.append_nil] at hC
      rw [TableIn.put_eq_self _ hC, TableIn.put_eq_self _ hrows]

theorem CompleteWebAuthnRegistrationInput.rejection_ne (input : CompleteWebAuthnRegistrationInput)
    (db : PasskeyDb) (c : WebAuthnCredentialRecord) : input.rejection db ≠ .created c := by
  unfold rejection
  split_ifs <;> intro h <;> cases h

/-- **A registration consumes its challenge and stores its credential, or changes nothing.** -/
theorem completeWebAuthnRegistration_outcome (hsame : input.OneUser) (reread db : PasskeyDb) :
    ((completeWebAuthnRegistration input reread db).2 = .ok (.created input.credential) ∧
      Registered input db (completeWebAuthnRegistration input reread db).1) ∨
    ((∀ c, (completeWebAuthnRegistration input reread db).2 ≠ .ok (.created c)) ∧
      (completeWebAuthnRegistration input reread db).1 = db) := by
  unfold completeWebAuthnRegistration
  split
  · refine Or.inr ⟨fun c h => ?_, rfl⟩
    cases h
  · refine Or.inr ⟨fun c h => ?_, rfl⟩
    cases h
  · rename_i s rs hrun
    rcases registration_batch hsame hrun with ⟨hread, hregistered⟩ | ⟨hread, rfl⟩
    · rw [hread]
      exact Or.inl ⟨rfl, hregistered⟩
    · rw [hread]
      refine Or.inr ⟨fun c h => ?_, rfl⟩
      exact input.rejection_ne reread c (Except.ok.inj h)

end Registration

/-! ## Runs -/

/-- A call that writes passkeys or challenges. -/
inductive PasskeyCall where
  | issue (input : WebAuthnChallengeRecord)
  | consume (input : ConsumeWebAuthnChallengeInput)
  | cleanup (expiredBefore : Timestamp) (limit : Nat)
  | create (input : WebAuthnCredentialRecord)
  | assertion (input : SuccessfulWebAuthnAssertionInput)
  | rename (input : RenameWebAuthnCredentialInput)
  | delete (id userId : String)
  | register (input : CompleteWebAuthnRegistrationInput) (reread : PasskeyDb)
  deriving DecidableEq

namespace PasskeyCall

def exec : PasskeyCall → PasskeyDb → PasskeyDb
  | issue input, db => (issueWebAuthnChallenge input db).1
  | consume input, db => (consumeWebAuthnChallenge input db).1
  | cleanup expiredBefore limit, db => (cleanupExpiredWebAuthnChallenges expiredBefore limit db).1
  | create input, db => (createWebAuthnCredential input db).1
  | assertion input, db => (recordSuccessfulWebAuthnAssertion input db).1
  | rename input, db => (renameWebAuthnCredential input db).1
  | delete id userId, db => (deleteWebAuthnCredential id userId db).1
  | register input reread, db => (completeWebAuthnRegistration input reread db).1

/-- A new challenge has a new id. -/
def draws : PasskeyCall → List String
  | issue input => [input.id]
  | _ => []

/-- A registration names one account. -/
def OneUser : PasskeyCall → Prop
  | register input _ => input.OneUser
  | _ => True

instance : DecidablePred OneUser
  | register input _ => inferInstanceAs (Decidable input.OneUser)
  | issue _ | consume _ | cleanup _ _ | create _ | assertion _ | rename _ | delete _ _ =>
    inferInstanceAs (Decidable True)

end PasskeyCall

/-- The challenges of `db` that are unconsumed there and consumed in `db'`. -/
def newlyConsumed (db db' : PasskeyDb) : List String :=
  (db.webauthnChallenges.rows.filter fun k => k.consumedAt = none ∧
    ∃ k' ∈ db'.webauthnChallenges.rows, k'.id = k.id ∧ k'.consumedAt ≠ none).map
      WebAuthnChallengeRecord.id

/-- The database, and every consumption of a challenge so far. -/
structure PasskeyState where
  db : PasskeyDb := {}
  consumed : List String := []
  deriving DecidableEq

def PasskeyState.exec (l : PasskeyCall) (s : PasskeyState) : PasskeyState where
  db := l.exec s.db
  consumed := newlyConsumed s.db (l.exec s.db) ++ s.consumed

def passkeys : System PasskeyState PasskeyCall String :=
  .ofFunction PasskeyState.exec PasskeyCall.draws

/-- No user has more passkeys than the limit. -/
def PasskeyDb.Limited (db : PasskeyDb) : Prop :=
  ∀ userId, db.credentialCount userId ≤ webAuthnMaxCredentialsPerUser

/-- What every call keeps: the limit, and which challenges are consumed. -/
structure PasskeysKept (drawn : List String) (db db' : PasskeyDb) : Prop where
  limited : db.Limited → db'.Limited
  challenges : ∀ k' ∈ db'.webauthnChallenges.rows, k'.id ∈ drawn ∨
    ∃ k ∈ db.webauthnChallenges.rows, k.id = k'.id ∧ (k.consumedAt ≠ none → k'.consumedAt ≠ none)

namespace PasskeysKept

theorem refl (drawn : List String) (db : PasskeyDb) : PasskeysKept drawn db db where
  limited h := h
  challenges k hk := Or.inr ⟨k, hk, rfl, id⟩

/-- A write of challenges only. -/
theorem ofChallenges {drawn : List String} {db : PasskeyDb} {T : Table WebAuthnChallengeRecord}
    (h : ∀ k' ∈ T.rows, k'.id ∈ drawn ∨ ∃ k ∈ db.webauthnChallenges.rows, k.id = k'.id ∧
      (k.consumedAt ≠ none → k'.consumedAt ≠ none)) :
    PasskeysKept drawn db { db with webauthnChallenges := T } where
  limited h := h
  challenges := h

/-- A write of credentials only that raises no count above the limit. -/
theorem ofCredentials {drawn : List String} {db : PasskeyDb} {C : Table PasskeyRow}
    (h : db.Limited → ({ db with webauthnCredentials := C } : PasskeyDb).Limited) :
    PasskeysKept drawn db { db with webauthnCredentials := C } where
  limited := h
  challenges k hk := Or.inr ⟨k, hk, rfl, id⟩

end PasskeysKept

/-- Rows that are updated without their user are as many. -/
theorem limited_updateWhere {db : PasskeyDb} {C : Table PasskeyRow} {hit : PasskeyRow → Prop}
    [DecidablePred hit] {set : PasskeyRow → PasskeyRow}
    (hC : C.rows = updateWhere hit set db.webauthnCredentials.rows)
    (huser : ∀ c, (set c).userId = c.userId) (h : db.Limited) :
    ({ db with webauthnCredentials := C } : PasskeyDb).Limited := by
  intro userId
  have hcount : C.rows.countP (fun c => c.userId = userId) = db.credentialCount userId := by
    rw [hC, updateWhere, List.countP_map]
    refine List.countP_congr fun c _ => ?_
    by_cases hc : hit c
    · simp [hc, huser]
    · simp [hc]
  exact hcount.le.trans (h userId)

theorem limited_deleteWhere {db : PasskeyDb} {C : Table PasskeyRow} {hit : PasskeyRow → Prop}
    [DecidablePred hit] (hC : C.rows = deleteWhere hit db.webauthnCredentials.rows)
    (h : db.Limited) : ({ db with webauthnCredentials := C } : PasskeyDb).Limited := by
  intro userId
  have hcount : C.rows.countP (fun c => c.userId = userId) ≤ db.credentialCount userId := by
    rw [hC]
    exact List.Sublist.countP_le List.filter_sublist
  exact hcount.trans (h userId)

/-- One more passkey of a user below the limit. -/
theorem limited_append {db : PasskeyDb} {C : Table PasskeyRow} {c : PasskeyRow}
    (hC : C.rows = db.webauthnCredentials.rows ++ [c])
    (hcount : db.credentialCount c.userId < webAuthnMaxCredentialsPerUser) (h : db.Limited) :
    ({ db with webauthnCredentials := C } : PasskeyDb).Limited := by
  intro userId
  change C.rows.countP (fun c => c.userId = userId) ≤ _
  rw [hC, List.countP_append]
  by_cases hc : c.userId = userId
  · subst hc
    simpa [PasskeyDb.credentialCount] using hcount
  · simpa [hc, PasskeyDb.credentialCount] using h userId

section Calls

variable {db : PasskeyDb}

/-- A call of one statement keeps what the statement keeps. -/
theorem execute_passkeysKept {α : Type} {st : Statement PasskeyDb}
    {interpret : StatementResult → Except String α} {drawn : List String}
    (h : ∀ s' r, st db 0 = .ok (s', r) → PasskeysKept drawn db s') :
    PasskeysKept drawn db (execute st interpret db).1 := by
  rcases execute_cases st interpret db with ⟨hsame, -⟩ | ⟨s', r, hrun, hdb, -⟩
  · rw [hsame]
    exact .refl _ _
  · rw [hdb]
    exact h s' r hrun

theorem issue_kept (input : WebAuthnChallengeRecord) :
    PasskeysKept [input.id] db (issueWebAuthnChallenge input db).1 := by
  refine execute_passkeysKept fun s' r hrun => ?_
  obtain ⟨-, T, hT, rfl, -⟩ := TableIn.insertReferencing_ok (Statement.checked_ok hrun).1
  refine .ofChallenges fun k' hk' => ?_
  rw [hT, List.mem_append, List.mem_singleton] at hk'
  rcases hk' with hk' | rfl
  · exact Or.inr ⟨k', hk', rfl, id⟩
  · exact Or.inl List.mem_cons_self

theorem consume_kept (input : ConsumeWebAuthnChallengeInput) :
    PasskeysKept [] db (consumeWebAuthnChallenge input db).1 := by
  refine execute_passkeysKept fun s' r hrun => ?_
  obtain ⟨-, T, hT, rfl, -⟩ := TableIn.updateReferencing_ok hrun
  refine .ofChallenges fun k' hk' => Or.inr ?_
  rw [hT] at hk'
  rcases mem_updateWhere_cases hk' with ⟨hk', -⟩ | ⟨k, hk, -, rfl⟩
  · exact ⟨k', hk', rfl, id⟩
  · exact ⟨k, hk, rfl, fun _ => Option.some_ne_none _⟩

theorem cleanup_kept (expiredBefore : Timestamp) (limit : Nat) :
    PasskeysKept [] db (cleanupExpiredWebAuthnChallenges expiredBefore limit db).1 := by
  refine execute_passkeysKept fun s' r hrun => ?_
  obtain ⟨T, hT, rfl, -⟩ := TableIn.delete_ok hrun
  refine .ofChallenges fun k' hk' => Or.inr ?_
  rw [hT] at hk'
  exact ⟨k', (mem_deleteWhere.mp hk').1, rfl, id⟩

theorem create_kept (input : WebAuthnCredentialRecord) :
    PasskeysKept [] db (createWebAuthnCredential input db).1 := by
  refine execute_passkeysKept fun s' r hrun => ?_
  obtain ⟨-, C, hC, rfl, -⟩ := TableIn.insertReferencing_ok (Statement.checked_ok hrun).1
  refine .ofCredentials fun h => ?_
  by_cases hcount : db.credentialCount input.userId < webAuthnMaxCredentialsPerUser
  · rw [if_pos hcount] at hC
    exact limited_append hC hcount h
  · rw [if_neg hcount, List.append_nil] at hC
    have hsame : ({ db with webauthnCredentials := C } : PasskeyDb) = db :=
      TableIn.put_eq_self PasskeyDb.webauthnCredentialsIn hC
    rwa [hsame]

theorem assertion_kept (input : SuccessfulWebAuthnAssertionInput) :
    PasskeysKept [] db (recordSuccessfulWebAuthnAssertion input db).1 := by
  refine execute_passkeysKept fun s' r hrun => ?_
  obtain ⟨C, hC, rfl, -⟩ := TableIn.update_ok (Statement.checked_ok hrun).1
  exact .ofCredentials (limited_updateWhere hC fun _ => rfl)

theorem rename_kept (input : RenameWebAuthnCredentialInput) :
    PasskeysKept [] db (renameWebAuthnCredential input db).1 := by
  refine execute_passkeysKept fun s' r hrun => ?_
  obtain ⟨C, hC, rfl, -⟩ := TableIn.update_ok (Statement.checked_ok hrun).1
  exact .ofCredentials (limited_updateWhere hC fun _ => rfl)

theorem delete_kept (id userId : String) :
    PasskeysKept [] db (deleteWebAuthnCredential id userId db).1 := by
  refine execute_passkeysKept fun s' r hrun => ?_
  obtain ⟨C, hC, rfl, -⟩ := TableIn.delete_ok hrun
  exact .ofCredentials (limited_deleteWhere hC)

theorem register_kept {input : CompleteWebAuthnRegistrationInput} (hsame : input.OneUser)
    (reread : PasskeyDb) :
    PasskeysKept [] db (completeWebAuthnRegistration input reread db).1 := by
  rcases completeWebAuthnRegistration_outcome hsame reread db with ⟨-, h⟩ | ⟨-, hsame⟩
  · obtain ⟨k, hk, hconsumes, hT⟩ := h.challenge
    constructor
    · intro hlimited userId
      have hcount : db.credentialCount input.credential.userId < webAuthnMaxCredentialsPerUser := by
        rw [← hsame]
        exact hconsumes.2.2.1
      exact limited_append h.credential hcount hlimited userId
    · intro k' hk'
      rw [hT] at hk'
      rcases mem_updateWhere_cases hk' with ⟨hk', -⟩ | ⟨j, hj, hid, rfl⟩
      · exact Or.inr ⟨k', hk', rfl, id⟩
      · exact Or.inr ⟨j, hj, hid, fun _ => Option.some_ne_none _⟩
  · rw [hsame]
    exact .refl _ _

/-- **Every call keeps the limit, and consumed challenges consumed.** -/
theorem exec_kept {l : PasskeyCall} (hl : l.OneUser) : PasskeysKept l.draws db (l.exec db) := by
  cases l with
  | issue input => exact issue_kept input
  | consume input => exact consume_kept input
  | cleanup expiredBefore limit => exact cleanup_kept expiredBefore limit
  | create input => exact create_kept input
  | assertion input => exact assertion_kept input
  | rename input => exact rename_kept input
  | delete id userId => exact delete_kept id userId
  | register input reread => exact register_kept hl reread

end Calls

/-- What every run keeps. -/
structure PasskeysSafe (c : Config PasskeyState String) : Prop where
  limited : c.state.db.Limited
  issued : ∀ k ∈ c.state.db.webauthnChallenges.rows, k.id ∈ c.issued
  nodup : c.state.consumed.Nodup
  consumed : ∀ x ∈ c.state.consumed, x ∈ c.issued ∧
    ∀ k ∈ c.state.db.webauthnChallenges.rows, k.id = x → k.consumedAt ≠ none

theorem mem_newlyConsumed {db db' : PasskeyDb} {x : String} :
    x ∈ newlyConsumed db db' ↔ ∃ k ∈ db.webauthnChallenges.rows, k.id = x ∧ k.consumedAt = none ∧
      ∃ k' ∈ db'.webauthnChallenges.rows, k'.id = x ∧ k'.consumedAt ≠ none := by
  simp only [newlyConsumed, List.mem_map, List.mem_filter, decide_eq_true_eq]
  constructor
  · rintro ⟨k, ⟨hk, hnone, k', hk', hid, hconsumed⟩, rfl⟩
    exact ⟨k, hk, rfl, hnone, k', hk', hid, hconsumed⟩
  · rintro ⟨k, hk, rfl, hnone, k', hk', hid, hconsumed⟩
    exact ⟨k, ⟨hk, hnone, k', hk', hid, hconsumed⟩, rfl⟩

theorem newlyConsumed_nodup (db db' : PasskeyDb) : (newlyConsumed db db').Nodup := by
  refine (List.Nodup.filter _ db.webauthnChallenges.nodup).map_on ?_
  intro a ha b hb hid
  exact db.webauthnChallenges.eq_of_key (List.mem_of_mem_filter ha) (List.mem_of_mem_filter hb) hid

/-- **One call.** -/
theorem passkeysSafe_next {c c' : Config PasskeyState String} {l : PasskeyCall}
    (hl : l.OneUser) (hnext : passkeys.Next c l c') (h : PasskeysSafe c) : PasskeysSafe c' := by
  have hkept : PasskeysKept l.draws c.state.db (l.exec c.state.db) := exec_kept hl
  have hdraws : passkeys.draws l = l.draws := rfl
  have hfresh := hnext.fresh
  rw [hdraws] at hfresh
  have hissued := hnext.issued
  rw [hdraws] at hissued
  have hold : ∀ x ∈ c.issued, x ∈ c'.issued := hnext.issued_subset
  have hstate : c'.state = PasskeyState.exec l c.state := hnext.step
  -- A challenge that is not new was there before, and stays consumed.
  have hbefore : ∀ k' ∈ (l.exec c.state.db).webauthnChallenges.rows, k'.id ∈ c.issued →
      ∃ k ∈ c.state.db.webauthnChallenges.rows, k.id = k'.id ∧
        (k.consumedAt ≠ none → k'.consumedAt ≠ none) := by
    intro k' hk' hid
    exact (hkept.challenges k' hk').resolve_left fun hdrawn => hfresh _ hdrawn hid
  rw [show c' = ⟨PasskeyState.exec l c.state, c'.issued⟩ from by rw [← hstate]]
  refine ⟨hkept.limited h.limited, ?_, ?_, ?_⟩
  · intro k' hk'
    rcases hkept.challenges k' hk' with hdrawn | ⟨k, hk, hid, -⟩
    · exact hissued ▸ List.mem_append_left _ hdrawn
    · exact hid ▸ hold _ (h.issued k hk)
  · refine List.Nodup.append (newlyConsumed_nodup _ _) h.nodup ?_
    intro x hx hx'
    obtain ⟨k, hk, hid, hnone, -⟩ := mem_newlyConsumed.mp hx
    exact (h.consumed x hx').2 k hk hid hnone
  · intro x hx
    rcases List.mem_append.mp hx with hx | hx
    · obtain ⟨k, hk, hid, -, j, hj, hjid, hconsumed⟩ := mem_newlyConsumed.mp hx
      refine ⟨hold _ (hid ▸ h.issued k hk), fun k' hk' hid' => ?_⟩
      rwa [(l.exec c.state.db).webauthnChallenges.eq_of_key hk' hj (hid'.trans hjid.symm)]
    · obtain ⟨hxissued, hspent⟩ := h.consumed x hx
      refine ⟨hold _ hxissued, fun k' hk' hid' => ?_⟩
      obtain ⟨k, hk, hid, hkeep⟩ := hbefore k' hk' (hid' ▸ hxissued)
      exact hkeep (hspent k hk (hid.trans hid'))

/-- Before the run: every user within the limit, nothing consumed yet, and the ids of the
challenges taken. -/
structure PasskeysStart (c : Config PasskeyState String) : Prop where
  limited : c.state.db.Limited
  issued : ∀ k ∈ c.state.db.webauthnChallenges.rows, k.id ∈ c.issued
  consumed : c.state.consumed = []

/-- **Registrations are exact in every run.** No challenge is consumed twice, no user exceeds the
limit, no credential id is stored twice, and the next registration either consumes its challenge
before its expiry and stores its credential, or changes nothing. -/
theorem registration_safe {c c' : Config PasskeyState String} {ls : List PasskeyCall}
    (hstart : PasskeysStart c)
    (hrun : Run (passkeys.restrict fun _ l => l.OneUser) c ls c') :
    c'.state.consumed.Nodup ∧ c'.state.db.Limited ∧
      (∀ a ∈ c'.state.db.webauthnCredentials.rows, ∀ b ∈ c'.state.db.webauthnCredentials.rows,
        a.credentialId = b.credentialId → a = b) ∧
      ∀ (input : CompleteWebAuthnRegistrationInput) (reread : PasskeyDb), input.OneUser →
        ((completeWebAuthnRegistration input reread c'.state.db).2 =
            .ok (.created input.credential) ∧
          Registered input c'.state.db
            (completeWebAuthnRegistration input reread c'.state.db).1) ∨
        ((∀ credential, (completeWebAuthnRegistration input reread c'.state.db).2 ≠
            .ok (.created credential)) ∧
          (completeWebAuthnRegistration input reread c'.state.db).1 = c'.state.db) := by
  have hsafe : PasskeysSafe c' := hrun.invariant
    ⟨hstart.limited, hstart.issued, by rw [hstart.consumed]; exact List.nodup_nil,
      by rw [hstart.consumed]; simp⟩
    fun hnext h => passkeysSafe_next hnext.unrestrict.2 hnext.unrestrict.1 h
  refine ⟨hsafe.nodup, hsafe.limited, fun a ha b hb hid => ?_, fun input reread hsame => ?_⟩
  · exact c'.state.db.webauthnCredentials.eq_of_alternate ha hb hid
  · exact completeWebAuthnRegistration_outcome hsame reread c'.state.db

/-- A registration of the account `u` under the token `t`. -/
def registration (id credentialId : String) : CompleteWebAuthnRegistrationInput where
  consume :=
    { tokenHash := "t", purpose := .registration, rpId := "r", originPolicyVersion := "o",
      userId := "u", credentialId := none, consumedAt := 5, now := 5, challengeHash := some "h" }
  challengeHash := "h"
  credential :=
    { id := id, userId := "u", credentialId := credentialId, publicKey := "p", userHandle := "u",
      signCount := 0, transports := [], aaguid := "a", discoverable := true,
      backupEligible := false, backupState := false, prfSupported := false,
      encryptedUserKey := none, encryptedPublicKey := none, encryptedPrivateKey := none,
      name := "n", createdAt := 5, revisionDate := 5, lastUsedAt := none }

def registrationChallenge : WebAuthnChallengeRecord where
  id := "k"
  tokenHash := "t"
  challengeHash := "h"
  purpose := .registration
  userId := some "u"
  credentialId := none
  rpId := "r"
  originPolicyVersion := "o"
  expiresAt := 9
  consumedAt := none
  createdAt := 1
  retentionDeleteAfter := 20

/-- Two registrations race for one challenge, then the passkey is deleted. -/
def registrations : List PasskeyCall :=
  [.issue registrationChallenge, .register (registration "c1" "x") {},
    .register (registration "c2" "y") {}, .delete "c1" "u", .cleanup 20 100]

def registrationsEnd : Config PasskeyState String :=
  (replay PasskeyState.exec PasskeyCall.draws { state := { db := { users := ["u"] } } }
    registrations).get (by decide +kernel)

theorem registration_safe_race :
    registrationsEnd.state.consumed = ["k"] ∧ registrationsEnd.state.consumed.Nodup := by
  have hstart : PasskeysStart { state := { db := { users := ["u"] } } } :=
    ⟨fun _ => Nat.zero_le _, by simp, rfl⟩
  have hrun : Run (passkeys.restrict fun _ l => l.OneUser)
      { state := { db := { users := ["u"] } } } registrations registrationsEnd :=
    replay_restrict (Option.some_get _).symm (by decide +kernel)
  exact ⟨by decide +kernel, (registration_safe hstart hrun).1⟩

end HonoWarden
