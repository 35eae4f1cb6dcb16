import HonoWarden.AuthRequest.Protocol

/-!
# Safety of the auth-request protocol

In every state that `authRequestSystem` reaches from the empty database (`AuthRequestsSafe`):

* an account has at most one pending request for one device;
* a step approves a request only when it is the answer of a handler, the request is pending and
  before its deadline, and the handler speaks for another device of the same account, which was
  active when the handler authenticated it (`AuthenticatedFor`);
* a denied, consumed, expired or superseded request keeps its status in every further run;
* no request is consumed twice, and every consumption opens exactly one session, for the account
  and the device of the request (`OpensSession`).

The answer does not look at the device again: a device that is revoked between the authentication
of its handler and the answer still approves (`approval_revokedDevice`).

**Headline**: `authRequests_safe`.
-/

namespace HonoWarden

open Relational

/-! ## Handlers -/

/-- The device of an account is active. -/
def ActiveDevice (db : Db) (userId identifier : String) : Prop :=
  ∃ d ∈ db.devices.rows, d.userId = userId ∧ d.identifier = identifier ∧ d.revokedAt = none

instance (db : Db) (userId identifier : String) : Decidable (ActiveDevice db userId identifier) :=
  inferInstanceAs (Decidable (∃ d ∈ db.devices.rows, _ ∧ _))

/-- The handler of `r` is past its authentication and has not answered yet. -/
def RespondPhase.Admitted (phase : RespondPhase) (r : RespondRequest) : Prop :=
  phase = .authenticated r ∨ phase = .responding r

/-- Where the run starts. -/
def authRequestStart : Config AuthRequestState String := { state := {} }

/-- On the way to `c`, the `i`-th handler found the device of `r` active. -/
def AuthenticatedFor (r : RespondRequest) (i : Nat) (c : Config AuthRequestState String) : Prop :=
  ∃ moves₁ c₁ c₂ moves₂, Run authRequestSystem authRequestStart moves₁ c₁ ∧
    c₁.state.handlers[i]? = some (.signedIn r) ∧
    ActiveDevice c₁.state.db r.actor.userId r.actor.deviceIdentifier ∧
    authRequestSystem.Next c₁ (.request (.advance i)) c₂ ∧ Run authRequestSystem c₂ moves₂ c

/-- A handler after an operation is as before, or took its step, or has just arrived. -/
theorem AuthRequestOp.exec_handlers (op : AuthRequestOp) (s : AuthRequestState) {i : Nat}
    {phase : RespondPhase} (h : (op.exec s).handlers[i]? = some phase) :
    s.handlers[i]? = some phase ∨
    (op = .advance i ∧ ∃ old, s.handlers[i]? = some old ∧ phase = (old.advance s.db).1) ∨
    ∃ request, phase = .arrived request := by
  cases op with
  | arrive request =>
    simp only [AuthRequestOp.exec, List.getElem?_append] at h
    split at h
    · exact Or.inl h
    · refine Or.inr (Or.inr ⟨request, ?_⟩)
      have hmem := List.mem_of_getElem? h
      simpa using hmem
  | advance j =>
    simp only [AuthRequestOp.exec] at h
    cases hj : s.handlers[j]? with
    | none => rw [hj] at h; exact Or.inl h
    | some old =>
      simp only [hj] at h
      by_cases hij : j = i
      · subst hij
        have hlen : j < s.handlers.length := (List.getElem?_eq_some_iff.mp hj).1
        rw [List.getElem?_set_self hlen] at h
        exact Or.inr (Or.inl ⟨rfl, old, hj, (Option.some.inj h).symm⟩)
      · rw [List.getElem?_set_ne hij] at h
        exact Or.inl h
  | _ => exact Or.inl h

/-- A handler is admitted by finding its device, or stays admitted. -/
theorem RespondPhase.advance_admitted {phase : RespondPhase} {db : Db} {r : RespondRequest}
    (h : (phase.advance db).1.Admitted r) :
    phase = .signedIn r ∧ ActiveDevice db r.actor.userId r.actor.deviceIdentifier ∨
      phase.Admitted r := by
  unfold RespondPhase.Admitted at h
  cases phase with
  | arrived q =>
    simp only [RespondPhase.advance, RespondRequest.signIn] at h
    repeat' split at h
    all_goals simp at h
  | signedIn q =>
    left
    simp only [RespondPhase.advance, RespondRequest.findDevice] at h
    split at h
    · simp at h
    · rename_i d hd
      obtain ⟨hmem, huser, hident, hlive⟩ := findDeviceByIdentifier_some hd
      obtain rfl : q = r := by simpa using h
      exact ⟨rfl, d, hmem, huser, hident, hlive⟩
  | authenticated q =>
    right
    simp only [RespondPhase.advance, RespondRequest.readCurrent] at h
    split at h
    · simp at h
    · split at h
      · simp at h
      · obtain rfl : q = r := by simpa using h
        exact Or.inl rfl
  | responding q =>
    simp only [RespondPhase.advance, RespondRequest.respond] at h
    split at h <;> simp at h
  | responded q transition =>
    simp only [RespondPhase.advance, RespondRequest.readUpdated] at h
    repeat' split at h
    all_goals simp at h
  | done reply => simp [RespondPhase.advance] at h

/-- **Every admitted handler found its device active.** -/
theorem admitted_authenticatedFor {c : Config AuthRequestState String}
    {moves : List (Move AuthRequestOp AuthRequestState)}
    (h : Run authRequestSystem authRequestStart moves c) :
    ∀ i phase r, c.state.handlers[i]? = some phase → phase.Admitted r →
      AuthenticatedFor r i c := by
  induction h with
  | refl =>
    intro i phase r hi
    simp [authRequestStart] at hi
  | @tail moves move c₁ c₂ hrun hnext ih =>
    intro i phase r hi hphase
    have hextend : AuthenticatedFor r i c₁ → AuthenticatedFor r i c₂ := by
      rintro ⟨moves₁, d₁, d₂, moves₂, hd₁, hd, hactive, hd₂, hafter⟩
      exact ⟨moves₁, d₁, d₂, _, hd₁, hd, hactive, hd₂, hafter.tail hnext⟩
    obtain ⟨hexec, -, -⟩ := id hnext
    cases move with
    | request op =>
      rw [hexec] at hi
      rcases op.exec_handlers c₁.state hi with hold | ⟨rfl, old, hold, rfl⟩ | ⟨request, rfl⟩
      · exact hextend (ih i phase r hold hphase)
      · rcases RespondPhase.advance_admitted hphase with ⟨rfl, hactive⟩ | hadmitted
        · exact ⟨moves, c₁, c₂, [], hrun, hold, hactive, hnext, .refl⟩
        · exact hextend (ih i old r hold hadmitted)
      · exact absurd hphase (by simp [RespondPhase.Admitted])
    | surroundings write =>
      refine hextend (ih i phase r ?_ hphase)
      rw [hexec] at hi
      simp only [Move.exec, keepAuthRequests] at hi
      split at hi <;> exact hi

/-! ## Consumptions -/

/-- The consumption of `input` turned `db` into `db'`: it consumed one approved request, and opened
one session no row named yet, for the account and the device of the request. -/
structure OpensSession (input : ConsumeAuthRequestWithSessionInput) (db db' : Db) : Prop where
  eligible : ∃ a ∈ db.authRequests.rows, input.Eligible a
  requests : db'.authRequests.rows = updateWhere (fun a => a.id = input.authRequestId)
    input.consume db.authRequests.rows
  fresh_tokens : ∀ t ∈ db.refreshTokens.rows, t.sessionId ≠ some input.refreshTokenId
  fresh_devices : ∀ d ∈ db.devices.rows, d.sessionId ≠ some input.refreshTokenId
  tokens : db'.refreshTokens.rows = db.refreshTokens.rows ++ [input.refreshToken]
  device : ∃ d ∈ db'.devices.rows, d.id = input.deviceId ∧ d.userId = input.userId ∧
    d.identifier = input.requestDeviceIdentifier ∧ d.sessionId = some input.refreshTokenId ∧
    d.revokedAt = none
  other_devices : ∀ d, d.id ≠ input.deviceId → (d ∈ db'.devices.rows ↔ d ∈ db.devices.rows)

/-- **A consumption opens one session for the device of the request, or does nothing.** -/
theorem consumeAuthRequestWithSession_opens {input : ConsumeAuthRequestWithSessionInput} {db : Db}
    {issued : List String} (hsessions : CoherentSessions issued db)
    (hdevices : DeviceIds db.devices) (hfresh : input.refreshTokenId ∉ issued)
    (hwf : (SessionOp.consumeAuthRequestWithSession input).WellFormed) :
    ((consumeAuthRequestWithSession input db).1 = db ∧
      (consumeAuthRequestWithSession input db).2 ≠ .ok .consumed) ∨
    ((consumeAuthRequestWithSession input db).2 = .ok .consumed ∧
      OpensSession input db (consumeAuthRequestWithSession input db).1) := by
  obtain ⟨hcolon, hdeviceId⟩ := hwf
  rcases consumeAuthRequestWithSession_effect input db with
    ⟨hdb, hout⟩ | ⟨⟨a, ha, helig⟩, hout, D, T, A, hdb, hT, hA, hdev⟩
  · exact Or.inl ⟨hdb, hout⟩
  refine Or.inr ⟨hout, ?_⟩
  rw [hdb]
  -- a row of this id is the device of this account and identifier
  have hown : ∀ d ∈ db.devices.rows, d.id = input.deviceId →
      d.userId = input.userId ∧ d.identifier = input.requestDeviceIdentifier := by
    intro d hd hid
    obtain ⟨hbuilt, hcolon'⟩ := hdevices d hd
    exact buildDeviceId_inj hcolon' hcolon (hbuilt.symm.trans (hid.trans hdeviceId))
  have hbound : DeviceBound db.devices D input.device input.bind := by
    rcases hdev with hbound | ⟨rfl, hnone, d, hd, hid⟩
    · exact hbound
    · exact absurd (hown d hd hid).1 (hnone d hd hid)
  refine ⟨⟨a, ha, helig⟩, ?_, fun t ht hs => hfresh (hsessions.linear.session_issued t ht _ hs),
    fun d hd hs => hfresh (hsessions.device_issued d hd _ hs), hT, ?_, fun d hd => hbound.others d hd⟩
  · exact hA.trans (db.authRequests.updateWhere_key input.authRequestId (fun b hb => hb.1) ha helig)
  · obtain ⟨d, hd, hmem⟩ := hbound.bound
    rcases hd with ⟨hd, hid, huser⟩ | ⟨rfl, -⟩
    · exact ⟨_, hmem, hid, huser, (hown d hd hid).2, rfl, rfl⟩
    · exact ⟨_, hmem, rfl, rfl, rfl, rfl, rfl⟩

/-! ## The invariant -/

/-- What a reachable state keeps, against the ids drawn so far. -/
structure AuthRequestLedger (issued : List String) (s : AuthRequestState) : Prop where
  sound : ∀ a ∈ s.db.authRequests.rows, a.Sound
  id_issued : ∀ a ∈ s.db.authRequests.rows, a.id ∈ issued
  once : s.consumed.Nodup
  consumed_issued : ∀ id ∈ s.consumed, id ∈ issued
  consumed : ∀ id ∈ s.consumed, ∀ a ∈ s.db.authRequests.rows, a.id = id → a.status = .consumed
  sessions : CoherentSessions issued s.db
  deviceIds : DeviceIds s.db.devices

namespace AuthRequestLedger

variable {issued drawn : List String} {s s' : AuthRequestState}

/-- A step of the machine that reports no consumption keeps the ledger. -/
theorem step (h : AuthRequestLedger issued s) {answers : RespondRequest → Prop}
    {consumes : ConsumeAuthRequestWithSessionInput → Prop} {created : AuthRequest → Prop}
    (hrequests : RequestsStep answers consumes created s.db.authRequests s'.db.authRequests)
    (hcreated : ∀ a, created a → a.Sound ∧ a.id ∈ drawn ∧ a.id ∉ issued)
    (hconsumed : s'.consumed = s.consumed)
    (hsessions : CoherentSessions (drawn ++ issued) s'.db) (hdevices : DeviceIds s'.db.devices) :
    AuthRequestLedger (drawn ++ issued) s' where
  sound a' ha' := by
    rcases hrequests a' ha' with ⟨a, ha, hstep⟩ | hnew
    · exact hstep.checks (h.sound a ha)
    · exact (hcreated a' hnew).1
  id_issued a' ha' := by
    rcases hrequests a' ha' with ⟨a, ha, hstep⟩ | hnew
    · rw [hstep.frame.1]
      exact List.mem_append_right _ (h.id_issued a ha)
    · exact List.mem_append_left _ (hcreated a' hnew).2.1
  once := hconsumed ▸ h.once
  consumed_issued id hid := List.mem_append_right _ (h.consumed_issued id (hconsumed ▸ hid))
  consumed id hid a' ha' hid' := by
    rw [hconsumed] at hid
    rcases hrequests a' ha' with ⟨a, ha, hstep⟩ | hnew
    · have hstatus := h.consumed id hid a ha (hstep.frame.1.symm.trans hid')
      rw [hstep.terminal (Or.inr (Or.inl hstatus))]
      exact hstatus
    · exact absurd (hid' ▸ h.consumed_issued id hid) (hcreated a' hnew).2.2
  sessions := hsessions
  deviceIds := hdevices

/-- A consumption that is reported adds a request that was never reported before. -/
theorem consume (h : AuthRequestLedger issued s) {input : ConsumeAuthRequestWithSessionInput}
    (hopens : OpensSession input s.db s'.db)
    (hreport : s'.consumed = s.consumed ++ [input.authRequestId])
    (hsessions : CoherentSessions (drawn ++ issued) s'.db) (hdevices : DeviceIds s'.db.devices) :
    AuthRequestLedger (drawn ++ issued) s' := by
  obtain ⟨a₀, ha₀, helig⟩ := hopens.eligible
  have hconsumes : ∀ a ∈ s.db.authRequests.rows, a.id = input.authRequestId →
      input.Eligible a := by
    intro a ha hid
    rwa [s.db.authRequests.eq_of_key ha ha₀ (hid.trans helig.1.symm)]
  have hstep : RequestsStep (fun _ => False) (fun i => i = input) (fun _ => False)
      s.db.authRequests s'.db.authRequests :=
    .of_update hopens.requests fun a ha hid => .consumed input rfl (hconsumes a ha hid)
  have hkept : AuthRequestLedger (drawn ++ issued) { s' with consumed := s.consumed } :=
    h.step hstep (fun _ hnew => hnew.elim) rfl hsessions hdevices
  have hnew : input.authRequestId ∉ s.consumed := by
    intro hid
    have hstatus := h.consumed _ hid a₀ ha₀ helig.1
    rw [helig.2.2.2.2.1] at hstatus
    cases hstatus
  have hmem : ∀ id ∈ s'.consumed, id ∈ s.consumed ∨ id = input.authRequestId := by
    intro id hid
    rw [hreport] at hid
    simpa using hid
  refine ⟨hkept.sound, hkept.id_issued, ?_, fun id hid => ?_, fun id hid a ha haid => ?_, hsessions,
    hdevices⟩
  · rw [hreport]
    exact List.nodup_append.mpr ⟨h.once, List.nodup_singleton _, fun x hx y hy => by
      rw [List.mem_singleton.mp hy]
      exact fun he => hnew (he ▸ hx)⟩
  · rcases hmem id hid with hold | rfl
    · exact hkept.consumed_issued id hold
    · exact List.mem_append_right _ (helig.1 ▸ h.id_issued a₀ ha₀)
  · rcases hmem id hid with hold | rfl
    · exact hkept.consumed id hold a ha haid
    · rw [hopens.requests] at ha
      rcases mem_updateWhere_cases ha with ⟨-, hmiss⟩ | ⟨b, -, -, rfl⟩
      · exact absurd haid hmiss
      · rfl

end AuthRequestLedger

theorem SessionOp.consumes_none {op : SessionOp} {db : Db}
    (hop : ∀ input, op ≠ .consumeAuthRequestWithSession input) : op.consumes db = none := by
  cases op with
  | consumeAuthRequestWithSession input => exact absurd rfl (hop input)
  | _ => rfl

theorem SessionOp.consumes_of_ne {input : ConsumeAuthRequestWithSessionInput} {db : Db}
    (h : (HonoWarden.consumeAuthRequestWithSession input db).2 ≠ .ok .consumed) :
    (SessionOp.consumeAuthRequestWithSession input).consumes db = none := by
  simp only [SessionOp.consumes]

/-- A session request keeps the ledger. -/
theorem AuthRequestLedger.session {issued : List String} {s : AuthRequestState} {op : SessionOp}
    (h : AuthRequestLedger issued s) (hfresh : ∀ x ∈ op.draws, x ∉ issued)
    (hwf : op.WellFormed) :
    AuthRequestLedger (op.draws ++ issued) (AuthRequestOp.exec (.session op) s) := by
  have hsessions : CoherentSessions (op.draws ++ issued) (op.run s.db) :=
    op.run_coherent hfresh h.sessions
  have hdevices : DeviceIds (op.run s.db).devices := SessionOp.run_deviceIds h.deviceIds hwf
  have hquiet : op.consumes s.db = none → (op.run s.db).authRequests = s.db.authRequests →
      AuthRequestLedger (op.draws ++ issued) (AuthRequestOp.exec (.session op) s) := by
    intro hnone hrequests
    have hstep : RequestsStep (fun _ => False) (fun _ => False) (fun _ => False)
        s.db.authRequests (op.run s.db).authRequests := by
      rw [hrequests]
      exact .refl _
    refine h.step hstep (fun _ hnew => hnew.elim) ?_ hsessions hdevices
    simp only [AuthRequestOp.exec, hnone, Option.toList_none, List.append_nil]
  by_cases hconsume : ∃ input, op = .consumeAuthRequestWithSession input
  · obtain ⟨input, rfl⟩ := hconsume
    rcases consumeAuthRequestWithSession_opens h.sessions h.deviceIds
        (hfresh _ List.mem_cons_self) hwf with ⟨hdb, hout⟩ | ⟨hout, hopens⟩
    · exact hquiet (SessionOp.consumes_of_ne hout) (congrArg Db.authRequests hdb)
    · refine h.consume hopens ?_ hsessions hdevices
      simp only [AuthRequestOp.exec, SessionOp.consumes, hout, Option.toList_some]
  · push Not at hconsume
    obtain ⟨D, T, U, hdb, -⟩ := op.run_frame s.db hconsume
    exact hquiet (SessionOp.consumes_none hconsume) (by rw [hdb])

/-- **Every move keeps the ledger.** -/
theorem authRequestSystem_ledger {c c' : Config AuthRequestState String}
    {move : Move AuthRequestOp AuthRequestState} (hnext : authRequestSystem.Next c move c')
    (hwf : ∀ op, move = .request (.session op) → op.WellFormed)
    (h : AuthRequestLedger c.issued c.state) : AuthRequestLedger c'.issued c'.state := by
  obtain ⟨hexec, hfresh, hissued⟩ := hnext
  rw [hexec, hissued]
  cases move with
  | request op =>
    by_cases hsession : ∃ sessionOp, op = .session sessionOp
    · obtain ⟨sessionOp, rfl⟩ := hsession
      exact h.session hfresh (hwf sessionOp rfl)
    · push Not at hsession
      obtain ⟨A, hdb, hconsumed, hA⟩ := op.exec_frame c.state hsession
      have hrequests : RequestsStep (op.Answers c.state) op.Consumes op.Creates
          c.state.db.authRequests (op.exec c.state).db.authRequests := by rw [hdb]; exact hA
      have hsessions : CoherentSessions (op.draws ++ c.issued) (op.exec c.state).db := by
        rw [hdb]
        exact (h.sessions.issue fun x hx => List.mem_append_right _ hx).elsewhere rfl rfl
      have hdevices : DeviceIds (op.exec c.state).db.devices := by
        rw [hdb]
        exact h.deviceIds
      refine h.step hrequests ?_ hconsumed hsessions hdevices
      rintro a ⟨input, rfl, rfl⟩
      exact ⟨input.row_sound, List.mem_cons_self, hfresh _ List.mem_cons_self⟩
  | surroundings write =>
    simp only [Move.exec, keepAuthRequests]
    split
    · rename_i hkeep
      have hrequests : RequestsStep (fun _ => False) (fun _ => False) (fun _ => False)
          c.state.db.authRequests (write c.state).db.authRequests := by
        intro a' ha'
        obtain ⟨a, ha, rfl | ⟨hactive, hset⟩⟩ := hkeep.requests a' ha'
        · exact Or.inl ⟨a', ha, .kept⟩
        · exact Or.inl ⟨a, ha, hset ▸ .superseded _ hactive⟩
      refine h.step hrequests (fun _ hnew => hnew.elim) rfl (h.sessions.descend
        (h.sessions.linear.descend fun t' ht' => ?_) (fun t' ht' => ?_) fun d' hd' => ?_)
        (h.deviceIds.descend fun d' hd' => ?_)
      · obtain ⟨t, ht, -, -, hdesc⟩ := hkeep.tokens t' ht'
        exact ⟨t, ht, hdesc⟩
      · obtain ⟨t, ht, huser, hdevice, hdesc⟩ := hkeep.tokens t' ht'
        exact ⟨t, ht, huser, hdevice, hdesc.2.1⟩
      · obtain ⟨d, hd, hid, huser, -, hsession⟩ := hkeep.devices d' hd'
        exact ⟨d, hd, hid, huser, hsession⟩
      · obtain ⟨d, hd, hid, huser, hident, -⟩ := hkeep.devices d' hd'
        exact ⟨d, hd, hid, huser, hident⟩
    · exact h

/-! ## The runs -/

/-- What the protocol promises of a reachable state and of every further step. -/
structure AuthRequestsSafe (c : Config AuthRequestState String) : Prop where
  single_pending : ∀ a ∈ c.state.db.authRequests.rows, ∀ b ∈ c.state.db.authRequests.rows,
    a.status = .pending → b.status = .pending → a.userId ≠ none → a.userId = b.userId →
    a.requestDeviceIdentifier = b.requestDeviceIdentifier → a = b
  approved : ∀ move c', authRequestSystem.Next c move c' →
    ∀ a' ∈ c'.state.db.authRequests.rows, a'.status = .approved →
    a' ∈ c.state.db.authRequests.rows ∨
    ∃ i r, move = .request (.advance i) ∧ (∃ key, r.response = .approve key) ∧
      AuthenticatedFor r i c ∧ ∃ a ∈ c.state.db.authRequests.rows, a' = r.set a ∧
        a.status = .pending ∧ r.now < a.expiresAt ∧ a.userId = some r.actor.userId ∧
        a.requestDeviceIdentifier ≠ r.actor.deviceIdentifier
  terminal : ∀ moves c', Run authRequestSystem c moves c' →
    ∀ a ∈ c.state.db.authRequests.rows, a.status.Terminal →
    ∀ a' ∈ c'.state.db.authRequests.rows, a'.id = a.id → a'.status = a.status
  once : c.state.consumed.Nodup
  consumed : ∀ move c', authRequestSystem.Next c move c' →
    ∀ a' ∈ c'.state.db.authRequests.rows, a'.status = .consumed →
    a' ∈ c.state.db.authRequests.rows ∨
    ∃ input, move = .request (.session (.consumeAuthRequestWithSession input)) ∧
      c'.state.consumed = c.state.consumed ++ [a'.id]
  session : ∀ input c', (SessionOp.consumeAuthRequestWithSession input).WellFormed →
    authRequestSystem.Next c (.request (.session (.consumeAuthRequestWithSession input))) c' →
    OpensSession input c.state.db c'.state.db ∧
        c'.state.consumed = c.state.consumed ++ [input.authRequestId] ∨
      c'.state = c.state

section Runs

variable {c c' : Config AuthRequestState String}
  {moves : List (Move AuthRequestOp AuthRequestState)}

theorem authRequestStart_ledger :
    AuthRequestLedger authRequestStart.issued authRequestStart.state := by
  refine ⟨?_, ?_, List.nodup_nil, ?_, ?_, ⟨⟨?_, ?_, ?_, ?_, ?_⟩, ?_, ?_, ?_⟩, ?_⟩ <;>
    simp [authRequestStart, DeviceIds]

/-- The ledger holds in every reachable state. -/
theorem authRequest_reachable_ledger (h : Run authRequestSystem authRequestStart moves c)
    (hwf : ∀ op, Move.request (.session op) ∈ moves → op.WellFormed) :
    AuthRequestLedger c.issued c.state := by
  refine h.invariant_trace
    (I := fun moves c => (∀ op, Move.request (.session op) ∈ moves → op.WellFormed) →
      AuthRequestLedger c.issued c.state) (fun _ => authRequestStart_ledger)
    (fun hnext ih hwf => ?_) hwf
  refine authRequestSystem_ledger hnext (fun op hop => hwf op ?_)
    (ih fun op hop => hwf op (List.mem_append_left _ hop))
  rw [hop]
  exact List.mem_append_right _ (List.mem_singleton_self _)

/-- **Terminal requests stay as they are**, as long as their id is not drawn again. -/
theorem run_terminal (h : Run authRequestSystem c moves c') {a : AuthRequest}
    (ha : a ∈ c.state.db.authRequests.rows) (hissued : a.id ∈ c.issued)
    (hterminal : a.status.Terminal) :
    ∀ a' ∈ c'.state.db.authRequests.rows, a'.id = a.id → a' = a := by
  induction h with
  | refl => exact fun a' ha' hid => c.state.db.authRequests.eq_of_key ha' ha hid
  | @tail moves move c₁ c₂ hrun hnext ih =>
    intro a' ha' hid
    rcases authRequestSystem_requests hnext a' ha' with ⟨b, hb, hstep⟩ | ⟨op, rfl, input, rfl, rfl⟩
    · have hba : b = a := ih b hb (hstep.frame.1.symm.trans hid)
      rw [← hba]
      exact hstep.terminal (hba ▸ hterminal)
    · have hid' : input.id = a.id := hid
      exact absurd (hid' ▸ hrun.issued_subset _ hissued) (hnext.fresh _ List.mem_cons_self)

end Runs

/-- **The auth-request protocol is safe.** -/
theorem authRequests_safe {c : Config AuthRequestState String}
    {moves : List (Move AuthRequestOp AuthRequestState)}
    (h : Run authRequestSystem authRequestStart moves c)
    (hwf : ∀ op, Move.request (.session op) ∈ moves → op.WellFormed) : AuthRequestsSafe c := by
  have hledger := authRequest_reachable_ledger h hwf
  refine ⟨?_, ?_, ?_, hledger.once, ?_, ?_⟩
  · intro a ha b hb hpending hpending' hsome huser hdevice
    exact c.state.db.authRequests.eq_of_alternate ha hb
      ⟨⟨hpending, hpending'⟩, hsome, huser, hdevice⟩
  · intro move c' hnext a' ha' happroved
    rcases authRequestSystem_requests hnext a' ha' with ⟨a, ha, hstep⟩ | ⟨op, -, input, -, rfl⟩
    · rcases hstep.approved happroved with rfl | ⟨r, ⟨op, rfl, i, rfl, hi⟩, hkey, hanswer, rfl⟩
      · exact Or.inl ha
      · exact Or.inr ⟨i, r, rfl, hkey, admitted_authenticatedFor h i _ r hi (Or.inr rfl), a, ha,
          rfl, hanswer.2.2.1, hanswer.2.2.2.1, hanswer.2.1, hanswer.2.2.2.2⟩
    · cases happroved
  · intro moves' c' hrun a ha hterminal a' ha' hid
    rw [run_terminal hrun ha (hledger.id_issued a ha) hterminal a' ha' hid]
  · intro move c' hnext a' ha' hconsumed
    rcases authRequestSystem_requests hnext a' ha' with ⟨a, ha, hstep⟩ | ⟨op, -, input, -, rfl⟩
    · rcases hstep.consumed_cases hconsumed with rfl | ⟨input, ⟨op, rfl, rfl⟩, helig, rfl⟩
      · exact Or.inl ha
      · rcases consumeAuthRequestWithSession_effect input c.state.db with
          ⟨hdb, -⟩ | ⟨-, hout, -⟩
        · rw [hnext.step] at ha'
          simp only [Move.exec, AuthRequestOp.exec, SessionOp.run, hdb] at ha'
          exact Or.inl ha'
        · refine Or.inr ⟨input, rfl, ?_⟩
          have hid : (input.consume a).id = input.authRequestId := helig.1
          rw [hnext.step, hid]
          simp only [Move.exec, AuthRequestOp.exec, SessionOp.consumes, hout, Option.toList_some]
    · cases hconsumed
  · intro input c' hwf hnext
    obtain ⟨hexec, hfresh, -⟩ := hnext
    rcases consumeAuthRequestWithSession_opens hledger.sessions hledger.deviceIds
        (hfresh _ List.mem_cons_self) hwf with ⟨hdb, hout⟩ | ⟨hout, hopens⟩
    · right
      rw [hexec]
      simp only [Move.exec, AuthRequestOp.exec, SessionOp.run, hdb, SessionOp.consumes_of_ne hout,
        Option.toList_none, List.append_nil]
    · left
      rw [hexec]
      refine ⟨hopens, ?_⟩
      simp only [Move.exec, AuthRequestOp.exec, SessionOp.consumes, hout, Option.toList_some]

/-- The account logs in on its laptop, its phone asks for approval, and the laptop's handler is
about to answer. -/
def approvalMoves : List (Move AuthRequestOp AuthRequestState) :=
  [.surroundings fun s => { s with db := { s.db with users := oneAccount } },
    .request (.session (.createPasswordGrantSession
      { userId := "u", expectedMasterPasswordHash := "hash", expectedSecurityStamp := "stamp",
        deviceIdentifier := "laptop", refreshTokenId := "t1", refreshTokenHash := "h1",
        refreshTokenExpiresAt := 1000, now := 1 })),
    .request (.createAuthRequest
      { id := "r1", userId := some "u", requestDeviceIdentifier := "phone",
        accessCodeHash := "code", createdAt := 2, expiresAt := 20, retentionDeleteAfter := 40 }),
    .request (.arrive
      { actor := ⟨"u", "laptop", "t1"⟩, securityStamp := "stamp", id := "r1",
        response := .approve "key", now := 3 }),
    .request (.advance 0), .request (.advance 0), .request (.advance 0)]

/-- The laptop approves, and the phone consumes the request. -/
def consumptionMoves : List (Move AuthRequestOp AuthRequestState) :=
  approvalMoves ++
    [.request (.advance 0),
      .request (.session (.consumeAuthRequestWithSession
        { authRequestId := "r1", accessCodeHash := "code", userId := "u",
          requestDeviceIdentifier := "phone", deviceId := "u:phone", refreshTokenId := "t2",
          refreshTokenHash := "h2", refreshTokenExpiresAt := 1000, now := 4 }))]

def consumptionEnd : Config AuthRequestState String :=
  (replay (Move.exec AuthRequestOp.exec keepAuthRequests) (Move.draws AuthRequestOp.draws)
    authRequestStart consumptionMoves).get (by decide)

theorem authRequests_safe_consumed :
    consumptionEnd.state.consumed = ["r1"] ∧
      consumptionEnd.state.db.authRequests.rows.map AuthRequest.status = [.consumed] ∧
      consumptionEnd.state.db.devices.rows.map (fun d => (d.id, d.sessionId)) =
        [("u:laptop", some "t1"), ("u:phone", some "t2")] ∧
      AuthRequestsSafe consumptionEnd :=
  ⟨by decide, by decide, by decide, authRequests_safe (replay_run (Option.some_get _).symm) (by
    intro op hop
    simp only [consumptionMoves, approvalMoves, List.mem_append, List.mem_cons,
      Move.request.injEq, AuthRequestOp.session.injEq, reduceCtorEq, false_or, or_false,
      List.not_mem_nil] at hop
    rcases hop with rfl | rfl
    · exact (by decide : ':' ∉ "u".toList)
    · exact ⟨by decide, by decide⟩)⟩

/-- Before the laptop's handler answers, the laptop is revoked. -/
def revokedApproverMoves : List (Move AuthRequestOp AuthRequestState) :=
  approvalMoves ++ [.request (.session (.revokeDeviceSession "u" "u:laptop" 4))]

def revokedApproverEnd : Config AuthRequestState String :=
  (replay (Move.exec AuthRequestOp.exec keepAuthRequests) (Move.draws AuthRequestOp.draws)
    authRequestStart revokedApproverMoves).get (by decide)

/-- **The device that approves need not be active any more.** -/
theorem approval_revokedDevice :
    ¬ ∀ moves c, Run authRequestSystem authRequestStart moves c →
      (∀ op, Move.request (.session op) ∈ moves → op.WellFormed) →
      ∀ move c', authRequestSystem.Next c move c' →
      ∀ a ∈ c.state.db.authRequests.rows, ∀ a' ∈ c'.state.db.authRequests.rows,
        a'.id = a.id → a.status ≠ .approved → a'.status = .approved →
        ∃ userId ∈ a'.userId, ∃ identifier ∈ a'.approvingDeviceIdentifier,
          ActiveDevice c.state.db userId identifier := by
  intro hclaim
  have hrun : Run authRequestSystem authRequestStart revokedApproverMoves revokedApproverEnd :=
    replay_run (Option.some_get _).symm
  have hwf : ∀ op, Move.request (.session op) ∈ revokedApproverMoves → op.WellFormed := by
    intro op hop
    simp only [revokedApproverMoves, approvalMoves, List.mem_append, List.mem_cons,
      Move.request.injEq, AuthRequestOp.session.injEq, reduceCtorEq, false_or, or_false,
      List.not_mem_nil] at hop
    rcases hop with rfl | rfl
    · exact (by decide : ':' ∉ "u".toList)
    · trivial
  have hnext : authRequestSystem.Next revokedApproverEnd (.request (.advance 0))
      { state := (AuthRequestOp.advance 0).exec revokedApproverEnd.state,
        issued := revokedApproverEnd.issued } :=
    ⟨rfl, by simp [authRequestSystem, System.within, System.ofFunction, Move.draws,
      AuthRequestOp.draws], rfl⟩
  have hbad : ∃ a ∈ revokedApproverEnd.state.db.authRequests.rows,
      ∃ a' ∈ ((AuthRequestOp.advance 0).exec revokedApproverEnd.state).db.authRequests.rows,
        a'.id = a.id ∧ a.status ≠ .approved ∧ a'.status = .approved ∧
        ¬ ∃ userId ∈ a'.userId, ∃ identifier ∈ a'.approvingDeviceIdentifier,
          ActiveDevice revokedApproverEnd.state.db userId identifier := by decide
  obtain ⟨a, ha, a', ha', hid, hstatus, happroved, hnone⟩ := hbad
  exact hnone (hclaim _ _ hrun hwf _ _ hnext a ha a' ha' hid hstatus happroved)

end HonoWarden
