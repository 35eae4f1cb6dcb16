import HonoWarden.AuthRequest.Repository

/-!
# The life of an auth request

`AuthRequest.Step` is the state machine of one request: what a single write can make of a stored
row, with the guard under which it does. The functions of `AuthRequest/Repository.lean` and the
consumption refine it: each writes the table of requests row by row along the machine
(`RequestsStep`), or adds one pending row, or deletes terminal ones.

`authRequestSystem` interleaves these functions with the steps of any number of handlers that
answer requests, with the session requests (logins, rotations, revocations), and with other
requests, which revoke sessions, supersede requests and write the other tables as they like.

* `AuthRequest.Step.terminal`, `AuthRequest.Step.approved`, `AuthRequest.Step.checks`: what a step
  leaves, when it approves, and that the CHECK constraints never refuse a write;
* **`authRequestSystem_requests`**: every move of the system follows the machine.
-/

namespace HonoWarden

open Relational

/-! ## One request -/

/-- What one write makes of a stored request. `answers` are the handlers that write their answer
in this step, `consumes` the consumptions it performs. -/
inductive AuthRequest.Step (answers : RespondRequest → Prop)
    (consumes : ConsumeAuthRequestWithSessionInput → Prop) (a : AuthRequest) :
    AuthRequest → Prop where
  | kept : a.Step answers consumes a
  | expired (now : Timestamp) (hactive : a.status = .pending ∨ a.status = .approved)
      (hdue : a.expiresAt ≤ now) : a.Step answers consumes (a.expire now)
  | replaced (now : Timestamp) (hpending : a.status = .pending) :
      a.Step answers consumes (a.replace now)
  | superseded (now : Timestamp) (hactive : a.status = .pending ∨ a.status = .approved) :
      a.Step answers consumes (a.supersede now)
  | answered (r : RespondRequest) (hr : answers r) (ha : r.input.Answerable a) :
      a.Step answers consumes (r.set a)
  | consumed (input : ConsumeAuthRequestWithSessionInput) (hi : consumes input)
      (ha : input.Eligible a) : a.Step answers consumes (input.consume a)

/-- A pending request carries no key yet. -/
def AuthRequest.Sound (a : AuthRequest) : Prop :=
  a.Checks ∧ (a.status = .pending → a.encryptedResponseKey = none)

theorem RespondRequest.set_frame (r : RespondRequest) (a : AuthRequest) :
    (r.set a).id = a.id ∧ (r.set a).userId = a.userId ∧
      (r.set a).requestDeviceIdentifier = a.requestDeviceIdentifier ∧
      (r.set a).expiresAt = a.expiresAt ∧ (r.set a).status ≠ .pending := by
  unfold RespondRequest.set
  cases r.response <;> exact ⟨rfl, rfl, rfl, rfl, AuthRequestStatus.noConfusion⟩

namespace AuthRequest.Step

variable {answers : RespondRequest → Prop} {consumes : ConsumeAuthRequestWithSessionInput → Prop}
  {a a' : AuthRequest}

theorem mono {answers' : RespondRequest → Prop}
    {consumes' : ConsumeAuthRequestWithSessionInput → Prop} (h : a.Step answers consumes a')
    (hanswers : ∀ r, answers r → answers' r)
    (hconsumes : ∀ input, consumes input → consumes' input) : a.Step answers' consumes' a' := by
  cases h with
  | kept => exact .kept
  | expired now hactive hdue => exact .expired now hactive hdue
  | replaced now hpending => exact .replaced now hpending
  | superseded now hactive => exact .superseded now hactive
  | answered r hr ha => exact .answered r (hanswers r hr) ha
  | consumed input hi ha => exact .consumed input (hconsumes input hi) ha

/-- The account, the device and the deadline of a request are fixed. -/
theorem frame (h : a.Step answers consumes a') : a'.id = a.id ∧ a'.userId = a.userId ∧
    a'.requestDeviceIdentifier = a.requestDeviceIdentifier ∧ a'.expiresAt = a.expiresAt := by
  cases h with
  | answered r => exact ⟨(r.set_frame a).1, (r.set_frame a).2.1, (r.set_frame a).2.2.1,
      (r.set_frame a).2.2.2.1⟩
  | _ => exact ⟨rfl, rfl, rfl, rfl⟩

/-- **A terminal request is never written again.** -/
theorem terminal (h : a.Step answers consumes a') (hterminal : a.status.Terminal) : a' = a := by
  have hpending : a.status ≠ .pending := by
    rcases hterminal with h | h | h | h <;> simp [h]
  have happroved : a.status ≠ .approved := by
    rcases hterminal with h | h | h | h <;> simp [h]
  cases h with
  | kept => rfl
  | expired now hactive hdue => exact absurd hactive (not_or.mpr ⟨hpending, happroved⟩)
  | replaced now hp => exact absurd hp hpending
  | superseded now hactive => exact absurd hactive (not_or.mpr ⟨hpending, happroved⟩)
  | answered r hr ha => exact absurd ha.2.2.1 hpending
  | consumed input hi ha => exact absurd ha.2.2.2.2.1 happroved

/-- A request is pending only as long as nothing has written it. -/
theorem pending (h : a.Step answers consumes a') (hpending : a'.status = .pending) : a' = a := by
  cases h with
  | kept => rfl
  | answered r => exact absurd hpending (r.set_frame a).2.2.2.2
  | _ => cases hpending

/-- A request is approved by the approval of a handler, and by nothing else. -/
theorem approved (h : a.Step answers consumes a') (happroved : a'.status = .approved) :
    a' = a ∨ ∃ r, answers r ∧ (∃ key, r.response = .approve key) ∧ r.input.Answerable a ∧
      a' = r.set a := by
  cases h with
  | kept => exact Or.inl rfl
  | answered r hr ha =>
    refine Or.inr ⟨r, hr, ?_, ha, rfl⟩
    unfold RespondRequest.set at happroved
    cases hresponse : r.response with
    | approve key => exact ⟨key, rfl⟩
    | deny =>
      rw [hresponse] at happroved
      cases happroved
  | _ => cases happroved

theorem consumed_cases (h : a.Step answers consumes a') (hconsumed : a'.status = .consumed) :
    a' = a ∨ ∃ input, consumes input ∧ input.Eligible a ∧ a' = input.consume a := by
  cases h with
  | kept => exact Or.inl rfl
  | consumed input hi ha => exact Or.inr ⟨input, hi, ha, rfl⟩
  | answered r hr ha =>
    unfold RespondRequest.set at hconsumed
    cases hresponse : r.response <;> rw [hresponse] at hconsumed <;> cases hconsumed
  | _ => cases hconsumed

/-- **No CHECK constraint refuses a write.** -/
theorem checks (h : a.Step answers consumes a') (hsound : a.Sound) : a'.Sound := by
  obtain ⟨hchecks, hkey⟩ := hsound
  cases h with
  | kept => exact ⟨hchecks, hkey⟩
  | expired now =>
    refine ⟨⟨hchecks.approving, ?_, ?_, ?_, ?_⟩, ?_⟩ <;> exact fun h => by cases h
  | replaced now hpending =>
    refine ⟨⟨hchecks.approving, ?_, ?_, ?_, fun _ => ⟨rfl, hkey hpending⟩⟩, ?_⟩ <;>
      exact fun h => by cases h
  | superseded now =>
    refine ⟨⟨hchecks.approving, ?_, ?_, ?_, fun _ => ⟨rfl, rfl⟩⟩, ?_⟩ <;>
      exact fun h => by cases h
  | answered r hr ha =>
    have hother : some r.actor.deviceIdentifier ≠ some a.requestDeviceIdentifier :=
      fun he => ha.2.2.2.2 (Option.some.inj he).symm
    unfold RespondRequest.set
    cases r.response with
    | approve key =>
      refine ⟨⟨hother, fun _ => ⟨rfl, Option.some_ne_none _, Option.some_ne_none _⟩, ?_, ?_, ?_⟩,
        ?_⟩ <;> exact fun h => by cases h
    | deny =>
      refine ⟨⟨hother, ?_, fun _ => ⟨rfl, rfl, Option.some_ne_none _⟩, ?_, ?_⟩, ?_⟩ <;>
        exact fun h => by cases h
  | consumed input hi ha =>
    obtain ⟨happroved, hkey, -⟩ := hchecks.approved ha.2.2.2.2.1
    refine ⟨⟨hchecks.approving, ?_, ?_, fun _ => ⟨happroved, hkey, Option.some_ne_none _⟩, ?_⟩,
      ?_⟩ <;> exact fun h => by cases h

end AuthRequest.Step

theorem CreateAuthRequestInput.row_sound (input : CreateAuthRequestInput) : input.row.Sound := by
  refine ⟨⟨?_, ?_, ?_, ?_, ?_⟩, fun _ => rfl⟩ <;> exact fun h => by cases h

/-! ## The table of requests -/

/-- Every row of `A'` is a row of `A` one step on, or was created. -/
def RequestsStep (answers : RespondRequest → Prop)
    (consumes : ConsumeAuthRequestWithSessionInput → Prop) (created : AuthRequest → Prop)
    (A A' : Table AuthRequest) : Prop :=
  ∀ a' ∈ A'.rows, (∃ a ∈ A.rows, a.Step answers consumes a') ∨ created a'

section Table

variable {answers : RespondRequest → Prop} {consumes : ConsumeAuthRequestWithSessionInput → Prop}
  {created : AuthRequest → Prop} {A A' : Table AuthRequest} {hit : AuthRequest → Prop}
  [DecidablePred hit] {set : AuthRequest → AuthRequest}

theorem RequestsStep.refl (A : Table AuthRequest) : RequestsStep answers consumes created A A :=
  fun a ha => Or.inl ⟨a, ha, .kept⟩

theorem RequestsStep.of_update (hA : A'.rows = updateWhere hit set A.rows)
    (hset : ∀ a ∈ A.rows, hit a → a.Step answers consumes (set a)) :
    RequestsStep answers consumes created A A' := by
  intro a' ha'
  rw [hA] at ha'
  rcases mem_updateWhere_cases ha' with ⟨ha, -⟩ | ⟨a, ha, hh, rfl⟩
  · exact Or.inl ⟨a', ha, .kept⟩
  · exact Or.inl ⟨a, ha, hset a ha hh⟩

end Table

/-- A client call that, when it commits, leaves the requests of one UPDATE. -/
theorem execute_requests {α : Type} {hit : Db → Nat → AuthRequest → Prop}
    [∀ db n, DecidablePred (hit db n)] {set : Db → AuthRequest → AuthRequest}
    {interpret : StatementResult → Except String α} {answers : RespondRequest → Prop}
    {consumes : ConsumeAuthRequestWithSessionInput → Prop} {created : AuthRequest → Prop} (db : Db)
    (hset : ∀ a ∈ db.authRequests.rows, hit db 0 a → a.Step answers consumes (set db a)) :
    ∃ A, (execute (Db.authRequestsIn.update hit set) interpret db).1 =
        { db with authRequests := A } ∧
      RequestsStep answers consumes created db.authRequests A := by
  rcases execute_cases (Db.authRequestsIn.update hit set) interpret db with
    ⟨hdb, -⟩ | ⟨db', r, hrun, hdb, -⟩
  · exact ⟨db.authRequests, hdb, .refl _⟩
  · obtain ⟨A, hA, rfl, -⟩ := TableIn.update_ok hrun
    exact ⟨A, hdb, .of_update hA hset⟩

section Functions

variable {answers : RespondRequest → Prop} {consumes : ConsumeAuthRequestWithSessionInput → Prop}
  {created : AuthRequest → Prop}

/-- A creation expires and supersedes the pending requests of its device, and adds one row. -/
theorem createAuthRequest_requests (input : CreateAuthRequestInput) (db : Db) :
    ∃ A, (createAuthRequest input db).1 = { db with authRequests := A } ∧
      RequestsStep answers consumes (fun a => a = input.row) db.authRequests A := by
  unfold createAuthRequest
  cases input.userId with
  | none =>
    rcases execute_cases (prepareAuthRequestInsert input) (fun _ => Except.ok ()) db with
      ⟨hdb, -⟩ | ⟨db', r, hrun, hdb, -⟩
    · exact ⟨db.authRequests, hdb, .refl _⟩
    · obtain ⟨-, A, hA, rfl, -⟩ := TableIn.insertReferencing_ok hrun
      refine ⟨A, hdb, fun a ha => ?_⟩
      rw [hA, List.mem_append, List.mem_singleton] at ha
      exact ha.imp_left fun ha => ⟨a, ha, .kept⟩
  | some userId =>
    rcases commit_cases [expireReplaced input userId, supersedeReplaced input userId,
        prepareAuthRequestInsert input] (fun _ => Except.ok ()) db with
      ⟨hdb, -⟩ | ⟨db', rs, hrun, hdb, -⟩
    · exact ⟨db.authRequests, hdb, .refl _⟩
    obtain ⟨db₁, r₁, rs₁, hexpire, hrun₁, rfl⟩ := runFrom_cons hrun
    obtain ⟨db₂, r₂, rs₂, hreplace, hrun₂, rfl⟩ := runFrom_cons hrun₁
    obtain ⟨db₃, r₃, rs₃, hinsert, hrun₃, rfl⟩ := runFrom_cons hrun₂
    obtain ⟨rfl, rfl⟩ := runFrom_nil hrun₃
    obtain ⟨A₁, hA₁, rfl, -⟩ := TableIn.update_ok hexpire
    obtain ⟨A₂, hA₂, rfl, -⟩ := TableIn.update_ok hreplace
    obtain ⟨-, A₃, hA₃, rfl, -⟩ := TableIn.insertReferencing_ok hinsert
    simp only at hA₁ hA₂ hA₃
    refine ⟨A₃, hdb, fun a ha => ?_⟩
    rw [hA₃, List.mem_append, List.mem_singleton] at ha
    refine ha.imp_left fun ha => ?_
    -- a row the first UPDATE expired is no longer pending for the second
    rw [hA₂] at ha
    rcases mem_updateWhere_cases ha with ⟨ha, -⟩ | ⟨b, hb, hhit, rfl⟩
    · rw [hA₁] at ha
      rcases mem_updateWhere_cases ha with ⟨ha, -⟩ | ⟨b, hb, hhit, rfl⟩
      · exact ⟨a, ha, .kept⟩
      · exact ⟨b, hb, .expired _ (Or.inl hhit.2.2.1) hhit.2.2.2⟩
    · rw [hA₁] at hb
      rcases mem_updateWhere_cases hb with ⟨hb, -⟩ | ⟨c, -, -, rfl⟩
      · exact ⟨b, hb, .replaced _ hhit.2.2.1⟩
      · exact absurd hhit.2.2.1 AuthRequestStatus.noConfusion

/-- Overdue requests expire. -/
theorem expireAuthRequests_requests (now : Timestamp) (limit : Nat) (db : Db) :
    ∃ A, (expireAuthRequests now limit db).1 = { db with authRequests := A } ∧
      RequestsStep answers consumes created db.authRequests A := by
  refine execute_requests db fun a ha hhit => ?_
  obtain ⟨b, hb, hid⟩ := List.mem_map.mp hhit
  have hb := List.mem_mergeSort.mp (List.mem_of_mem_take hb)
  obtain ⟨hmem, hdue⟩ := List.mem_filter.mp hb
  obtain rfl := db.authRequests.eq_of_key hmem ha hid
  obtain ⟨hactive, hdue⟩ := of_decide_eq_true hdue
  exact .expired now hactive hdue

/-- Retention deletes requests, and changes none. -/
theorem deleteRetainedAuthRequests_requests (now : Timestamp) (limit : Nat) (db : Db) :
    ∃ A, (deleteRetainedAuthRequests now limit db).1 = { db with authRequests := A } ∧
      RequestsStep answers consumes created db.authRequests A := by
  unfold deleteRetainedAuthRequests
  rcases execute_cases (Db.authRequestsIn.delete fun db _ a =>
      a.id ∈ retainedAuthRequestIds now limit db) (fun result => .ok result.metaChanges) db with
    ⟨hdb, -⟩ | ⟨db', r, hrun, hdb, -⟩
  · exact ⟨db.authRequests, hdb, .refl _⟩
  · obtain ⟨A, hA, rfl, -⟩ := TableIn.delete_ok hrun
    refine ⟨A, hdb, fun a ha => Or.inl ⟨a, ?_, .kept⟩⟩
    rw [hA] at ha
    exact (mem_deleteWhere.mp ha).1

/-- An answer writes a request that can be answered. -/
theorem RespondRequest.transition_requests (r : RespondRequest) (db : Db) (hr : answers r) :
    ∃ A, (r.transition db).1 = { db with authRequests := A } ∧
      RequestsStep answers consumes created db.authRequests A := by
  have hanswer : ∀ set : AuthRequest → AuthRequest, set = r.set →
      ∃ A, (answer r.input set db).1 = { db with authRequests := A } ∧
        RequestsStep answers consumes created db.authRequests A := by
    rintro set rfl
    exact execute_requests db fun a _ hhit => .answered r hr hhit
  unfold RespondRequest.transition
  cases hresponse : r.response with
  | approve key => exact hanswer _ (by simp only [RespondRequest.set, hresponse])
  | deny => exact hanswer _ (by simp only [RespondRequest.set, hresponse])

/-- A step of a handler that is not its answer writes nothing. -/
theorem RespondPhase.advance_requests (phase : RespondPhase) (db : Db)
    (hanswers : ∀ r, phase = .responding r → answers r) :
    ∃ A, (phase.advance db).2 = { db with authRequests := A } ∧
      RequestsStep answers consumes created db.authRequests A := by
  cases phase with
  | responding r =>
    have htransition : ∃ A, (r.transition db).1 = { db with authRequests := A } ∧
        RequestsStep answers consumes created db.authRequests A :=
      r.transition_requests db (hanswers r rfl)
    obtain ⟨A, hdb, hA⟩ := htransition
    refine ⟨A, ?_, hA⟩
    rw [← hdb]
    simp only [RespondPhase.advance, RespondRequest.respond]
    split <;> rename_i htransition <;> rw [htransition]
  | _ => exact ⟨db.authRequests, rfl, .refl _⟩

theorem consumeAuthRequestWithSession_requests (input : ConsumeAuthRequestWithSessionInput)
    (db : Db) (hi : consumes input) : RequestsStep answers consumes created db.authRequests
      (consumeAuthRequestWithSession input db).1.authRequests := by
  rcases consumeAuthRequestWithSession_effect input db with
    ⟨hdb, -⟩ | ⟨-, -, D, T, A, hdb, -, hA, -⟩
  · rw [hdb]; exact .refl _
  · rw [hdb]; exact .of_update hA fun a _ ha => .consumed input hi ha

end Functions

/-! ## The system -/

/-- The database, the handlers of answers in the order they arrived, and the ids of the requests
whose consumption was reported. -/
structure AuthRequestState where
  db : Db := {}
  handlers : List RespondPhase := []
  consumed : List String := []

/-- A request to the component; `advance i` is the next step of the handler that arrived as the
`i`-th. -/
inductive AuthRequestOp where
  | createAuthRequest (input : CreateAuthRequestInput)
  | listPendingAuthRequests (userId : String) (now : Timestamp)
  | arrive (request : RespondRequest)
  | advance (i : Nat)
  | session (op : SessionOp)
  | expireAuthRequests (now : Timestamp) (limit : Nat)
  | deleteRetainedAuthRequests (now : Timestamp) (limit : Nat)

/-- The request a session request reports to have consumed. -/
def SessionOp.consumes : SessionOp → Db → Option String
  | .consumeAuthRequestWithSession input, db =>
    match (HonoWarden.consumeAuthRequestWithSession input db).2 with
    | .ok .consumed => some input.authRequestId
    | _ => none
  | _, _ => none

def AuthRequestOp.exec : AuthRequestOp → AuthRequestState → AuthRequestState
  | .createAuthRequest input, s => { s with db := (HonoWarden.createAuthRequest input s.db).1 }
  | .listPendingAuthRequests _ _, s => s
  | .arrive request, s => { s with handlers := s.handlers ++ [.arrived request] }
  | .advance i, s =>
    match s.handlers[i]? with
    | none => s
    | some phase =>
      { s with
        db := (phase.advance s.db).2
        handlers := s.handlers.set i (phase.advance s.db).1 }
  | .session op, s =>
    { s with db := op.run s.db, consumed := s.consumed ++ (op.consumes s.db).toList }
  | .expireAuthRequests now limit, s =>
    { s with db := (HonoWarden.expireAuthRequests now limit s.db).1 }
  | .deleteRetainedAuthRequests now limit, s =>
    { s with db := (HonoWarden.deleteRetainedAuthRequests now limit s.db).1 }

/-- The ids a request draws. -/
def AuthRequestOp.draws : AuthRequestOp → List String
  | .createAuthRequest input => [input.id]
  | .session op => op.draws
  | _ => []

/-- What other requests do to requests and sessions: supersede active requests, revoke devices and
tokens, delete; they open no session and answer nothing. -/
structure AuthRequestsUndisturbed (db db' : Db) : Prop where
  requests : ∀ a' ∈ db'.authRequests.rows, ∃ a ∈ db.authRequests.rows, a' = a ∨
    (a.status = .pending ∨ a.status = .approved) ∧ a' = a.supersede a'.updatedAt
  devices : ∀ d' ∈ db'.devices.rows, ∃ d ∈ db.devices.rows, d'.id = d.id ∧
    d'.userId = d.userId ∧ d'.identifier = d.identifier ∧ d'.sessionId = d.sessionId
  tokens : ∀ t' ∈ db'.refreshTokens.rows, ∃ t ∈ db.refreshTokens.rows, t'.userId = t.userId ∧
    t'.deviceId = t.deviceId ∧ LinearFamilies.Descends t t'

instance (t t' : RefreshToken) : Decidable (LinearFamilies.Descends t t') :=
  inferInstanceAs (Decidable (_ ∧ _))

instance (db db' : Db) : Decidable (AuthRequestsUndisturbed db db') :=
  decidable_of_iff (_ ∧ _ ∧ _) ⟨fun h => ⟨h.1, h.2.1, h.2.2⟩, fun h => ⟨h.1, h.2, h.3⟩⟩

/-- Other requests leave the handlers and the reports alone. -/
def keepAuthRequests (s s' : AuthRequestState) : AuthRequestState :=
  if AuthRequestsUndisturbed s.db s'.db then { s with db := s'.db } else s

/-- The requests to the component, among all others. -/
def authRequestSystem : System AuthRequestState (Move AuthRequestOp AuthRequestState) String :=
  .within AuthRequestOp.exec AuthRequestOp.draws keepAuthRequests

/-- The handlers that write their answer in this step. -/
def AuthRequestOp.Answers (s : AuthRequestState) (op : AuthRequestOp) (r : RespondRequest) : Prop :=
  ∃ i, op = .advance i ∧ s.handlers[i]? = some (.responding r)

/-- The consumptions performed in this step. -/
def AuthRequestOp.Consumes (op : AuthRequestOp) (input : ConsumeAuthRequestWithSessionInput) :
    Prop :=
  op = .session (.consumeAuthRequestWithSession input)

/-- The rows added in this step. -/
def AuthRequestOp.Creates (op : AuthRequestOp) (a : AuthRequest) : Prop :=
  ∃ input, op = .createAuthRequest input ∧ a = input.row

/-- All but the session requests write the requests only, and report no consumption. -/
theorem AuthRequestOp.exec_frame (op : AuthRequestOp) (s : AuthRequestState)
    (hop : ∀ sessionOp, op ≠ .session sessionOp) :
    ∃ A, (op.exec s).db = { s.db with authRequests := A } ∧ (op.exec s).consumed = s.consumed ∧
      RequestsStep (op.Answers s) op.Consumes op.Creates s.db.authRequests A := by
  cases op with
  | createAuthRequest input =>
    have hcreate : ∃ A, (HonoWarden.createAuthRequest input s.db).1 =
          { s.db with authRequests := A } ∧
        RequestsStep (AuthRequestOp.Answers s (.createAuthRequest input))
          (AuthRequestOp.Consumes (.createAuthRequest input)) (fun a => a = input.row)
          s.db.authRequests A := createAuthRequest_requests input s.db
    obtain ⟨A, hdb, hA⟩ := hcreate
    exact ⟨A, hdb, rfl, fun a ha => (hA a ha).imp_right fun h => ⟨input, rfl, h⟩⟩
  | listPendingAuthRequests userId now => exact ⟨s.db.authRequests, rfl, rfl, .refl _⟩
  | arrive request => exact ⟨s.db.authRequests, rfl, rfl, .refl _⟩
  | advance i =>
    simp only [AuthRequestOp.exec]
    cases hi : s.handlers[i]? with
    | none => exact ⟨s.db.authRequests, rfl, rfl, .refl _⟩
    | some phase =>
      have hanswers : ∀ r, phase = .responding r → AuthRequestOp.Answers s (.advance i) r :=
        fun r hr => ⟨i, rfl, hr ▸ hi⟩
      obtain ⟨A, hdb, hA⟩ := phase.advance_requests s.db hanswers
      exact ⟨A, hdb, rfl, hA⟩
  | session sessionOp => exact absurd rfl (hop sessionOp)
  | expireAuthRequests now limit =>
    obtain ⟨A, hdb, hA⟩ := expireAuthRequests_requests now limit s.db
    exact ⟨A, hdb, rfl, hA⟩
  | deleteRetainedAuthRequests now limit =>
    obtain ⟨A, hdb, hA⟩ := deleteRetainedAuthRequests_requests now limit s.db
    exact ⟨A, hdb, rfl, hA⟩

/-- Every operation of the component follows the machine. -/
theorem AuthRequestOp.exec_requests (op : AuthRequestOp) (s : AuthRequestState) :
    RequestsStep (op.Answers s) op.Consumes op.Creates s.db.authRequests
      (op.exec s).db.authRequests := by
  by_cases hsession : ∃ sessionOp, op = .session sessionOp
  · obtain ⟨sessionOp, rfl⟩ := hsession
    by_cases hconsume : ∃ input, sessionOp = .consumeAuthRequestWithSession input
    · obtain ⟨input, rfl⟩ := hconsume
      exact consumeAuthRequestWithSession_requests input s.db rfl
    · push Not at hconsume
      obtain ⟨D, T, U, hdb, -⟩ := sessionOp.run_frame s.db hconsume
      simp only [AuthRequestOp.exec, hdb]
      exact .refl _
  · push Not at hsession
    obtain ⟨A, hdb, -, hA⟩ := op.exec_frame s hsession
    rw [hdb]
    exact hA

/-- What a move of the system answers, consumes and creates; other requests do none of it. -/
def Answers (s : AuthRequestState) (move : Move AuthRequestOp AuthRequestState)
    (r : RespondRequest) : Prop :=
  ∃ op, move = .request op ∧ op.Answers s r

def Consumes (move : Move AuthRequestOp AuthRequestState)
    (input : ConsumeAuthRequestWithSessionInput) : Prop :=
  ∃ op, move = .request op ∧ op.Consumes input

def Creates (move : Move AuthRequestOp AuthRequestState) (a : AuthRequest) : Prop :=
  ∃ op, move = .request op ∧ op.Creates a

/-- **Every move of the system follows the machine.** -/
theorem authRequestSystem_requests {c c' : Config AuthRequestState String}
    {move : Move AuthRequestOp AuthRequestState} (hnext : authRequestSystem.Next c move c') :
    RequestsStep (Answers c.state move) (Consumes move) (Creates move) c.state.db.authRequests
      c'.state.db.authRequests := by
  obtain ⟨hrun, -, -⟩ := hnext
  rw [hrun]
  cases move with
  | request op =>
    intro a' ha'
    rcases op.exec_requests c.state a' ha' with ⟨a, ha, hstep⟩ | hcreated
    · exact Or.inl ⟨a, ha, hstep.mono (fun r hr => ⟨op, rfl, hr⟩) fun input hi => ⟨op, rfl, hi⟩⟩
    · exact Or.inr ⟨op, rfl, hcreated⟩
  | surroundings write =>
    simp only [Move.exec, keepAuthRequests]
    split
    · rename_i hkeep
      intro a' ha'
      obtain ⟨a, ha, rfl | ⟨hactive, hset⟩⟩ := hkeep.requests a' ha'
      · exact Or.inl ⟨a', ha, .kept⟩
      · exact Or.inl ⟨a, ha, hset ▸ .superseded _ hactive⟩
    · exact .refl _

end HonoWarden
