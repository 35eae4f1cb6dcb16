import HonoWarden.Organization.Address

/-!
# Invitation limits

An actor may invite and reinvite a bounded number of members in an hour, an organization in a day,
and the same member again only after a pause. The counts are taken over the audit events, inside
the guarded batch that inserts the new ones; this module follows the requests of
`src/organization-membership.ts` from the event they build to the rows the next batch counts.

Results:
* `MembershipInput.audit_invitation`: the event of a request is one its limits count;
* `Recorded`: every successful invitation has an audit event of its own;
* **`invitations_limited`**: in every run, whatever else writes to the database, an actor's
  successful invitations in an hour number at most 50, an organization's in a day at most 200, and
  two reinvitations of a member are ten minutes apart.
-/

namespace HonoWarden

open Relational

/-! ## The events of the requests -/

/-- `sensitiveContextKeyFragments`. -/
def sensitiveContextKeyFragments : List String :=
  ["body", "email", "encrypted", "hash", "key", "password", "payload", "secret", "token"]

/-- `isSensitiveContextKey`. -/
def isSensitiveContextKey (key : String) : Bool :=
  sensitiveContextKeyFragments.any fun fragment =>
    fragment.toList <:+: key.toList.map Char.toLower

/-- `sanitizeAuditContext`. -/
def sanitizeAuditContext (context : List (String × AuditContextValue)) :
    List (String × AuditContextValue) :=
  context.filter fun entry => ! isSensitiveContextKey entry.1

/-- `buildAuditEvent`; an empty context is left out. -/
def buildAuditEvent (event : AuditEvent) : AuditEvent :=
  let context := sanitizeAuditContext (event.contextJson.getD [])
  { event with contextJson := if context = [] then none else some context }

/-- What every request to the memberships reads: `MembershipInput`. -/
structure MembershipInput where
  actorUserId : String
  sessionId : Option String := none
  deviceIdentifier : Option String := none
  organizationId : String
  requestId : String
  now : Timestamp
  deriving DecidableEq, Repr

namespace MembershipInput

variable (input : MembershipInput)

/-- `session` and the scope of `mutation`. -/
def scope : MembershipScope where
  organizationId := input.organizationId
  actorUserId := input.actorUserId
  sessionId := input.sessionId
  deviceIdentifier := input.deviceIdentifier

/-- `audit`. -/
def audit (name membershipId : String) (context : List (String × AuditContextValue)) :
    AuditEvent :=
  buildAuditEvent
    { name := name
      outcome := "success"
      requestId := input.requestId
      occurredAt := input.now
      actorUserId := some input.actorUserId
      actorDeviceIdentifier := input.deviceIdentifier
      targetType := some "organization_user"
      targetId := some membershipId
      contextJson := some (("organizationId", .text input.organizationId) :: context) }

end MembershipInput

/-- `organizationMembershipInviteExpiresAt`. -/
def organizationMembershipInviteExpiresAt (now : Timestamp) : Timestamp := now + 5 * 86400000

/-- A parsed request to `inviteOrganizationMembers`: each invite as its membership id, its address
and the hash of its token. -/
structure InviteRequest extends MembershipInput where
  type : MembershipRole
  collections : List CollectionGrant
  invites : List (String × String × String)

/-- The call of `insertOrganizationMemberInvites` in `inviteOrganizationMembers`. -/
def InviteRequest.input (request : InviteRequest) : MemberInvitesInput where
  toMembershipScope := request.scope
  now := request.now
  type := request.type
  collections := request.collections
  invites := request.invites.map fun invite =>
    { id := invite.1
      emailNormalized := invite.2.1
      inviteTokenHash := invite.2.2
      inviteExpiresAt := organizationMembershipInviteExpiresAt request.now }
  auditEvents := request.invites.map fun invite =>
    request.audit "organization.member.invite" invite.1
      [("type", .number request.type.toInt), ("toStatus", .number 0)]

/-- A request to `reinviteOrganizationMember`, with the address it read of the member. -/
structure ReinviteRequest extends MembershipInput where
  membershipId : String
  emailNormalized : String
  inviteTokenHash : String

/-- The call of `reinviteMember` in `reinviteOrganizationMember`. -/
def ReinviteRequest.input (request : ReinviteRequest) : ReinviteMemberInput where
  toMembershipScope := request.scope
  membershipId := request.membershipId
  now := request.now
  auditEvent := request.audit "organization.member.reinvite" request.membershipId
    [("toStatus", .number 0)]
  inviteTokenHash := request.inviteTokenHash
  inviteExpiresAt := organizationMembershipInviteExpiresAt request.now
  emailNormalized := request.emailNormalized

/-! ## The system -/

/-- An invitation or a reinvitation. -/
structure Invitation where
  actorUserId : String
  organizationId : String
  membershipId : String
  again : Bool
  occurredAt : Timestamp
  deriving DecidableEq, Repr

/-- What a request sends when it succeeds. -/
def InviteRequest.sent (request : InviteRequest) : List Invitation :=
  request.invites.map fun invite =>
    { actorUserId := request.actorUserId
      organizationId := request.organizationId
      membershipId := invite.1
      again := false
      occurredAt := request.now }

def ReinviteRequest.sent (request : ReinviteRequest) : List Invitation :=
  [{ actorUserId := request.actorUserId
     organizationId := request.organizationId
     membershipId := request.membershipId
     again := true
     occurredAt := request.now }]

/-- The database, and the invitations that succeeded so far, in their order. -/
structure InvitationState where
  db : Db
  sent : List Invitation := []

/-- A request, with the ids it draws for its audit events, or a write of anything else. -/
inductive InvitationStep where
  | invite (request : InviteRequest) (auditIds : List String)
  | reinvite (request : ReinviteRequest) (mutationId : String)
  | surroundings (db' : Db)

/-- The state after a call: what was asked for is sent when it succeeded. -/
def InvitationState.after (s : InvitationState) (call : Db × Except Failure MembershipResult)
    (sent : List Invitation) : InvitationState where
  db := call.1
  sent := if call.2 = .ok .success then s.sent ++ sent else s.sent

namespace InvitationStep

def exec : InvitationStep → InvitationState → InvitationState
  | invite request auditIds, s =>
    s.after (insertOrganizationMemberInvites request.input auditIds s.db) request.sent
  | reinvite request mutationId, s =>
    s.after (reinviteOrganizationMember request.input mutationId s.db) request.sent
  | surroundings db', s => { s with db := db' }

def draws : InvitationStep → List String
  | invite _ auditIds => auditIds
  | reinvite _ mutationId => [mutationId]
  | surroundings _ => []

/-- An id is drawn for each event and is not in use; no one takes an audit event back. -/
def Possible (s : InvitationState) : InvitationStep → Prop
  | invite request auditIds =>
    auditIds.length = request.invites.length ∧ ∀ id ∈ auditIds, ¬ Marked s.db id
  | reinvite _ mutationId => ¬ Marked s.db mutationId
  | surroundings db' => ∀ e ∈ s.db.auditEvents.rows, e ∈ db'.auditEvents.rows

instance (s : InvitationState) : ∀ step : InvitationStep, Decidable (step.Possible s)
  | invite request auditIds =>
    inferInstanceAs (Decidable (auditIds.length = request.invites.length ∧ ∀ id ∈ auditIds, _))
  | reinvite _ mutationId => inferInstanceAs (Decidable (¬ Marked s.db mutationId))
  | surroundings _ => inferInstanceAs (Decidable (∀ e ∈ s.db.auditEvents.rows, _))

end InvitationStep

/-- Invitations to any organizations, in any order. -/
def invitationSystem : System InvitationState InvitationStep String :=
  (System.ofFunction InvitationStep.exec InvitationStep.draws).restrict InvitationStep.Possible

/-! ## The record of an invitation -/

/-- The invitation an audit event stands for. -/
def AuditEvent.invitation (event : AuditEvent) : Option Invitation :=
  if event.IsInvitation then
    event.actorUserId.bind fun actorUserId => event.organizationScope.bind fun organizationId =>
      event.targetId.map fun membershipId =>
        { actorUserId := actorUserId
          organizationId := organizationId
          membershipId := membershipId
          again := event.name = "organization.member.reinvite"
          occurredAt := event.occurredAt }
  else none

theorem AuditEvent.invitation_eq_some {event : AuditEvent} {i : Invitation} :
    event.invitation = some i ↔ event.IsInvitation ∧ event.actorUserId = some i.actorUserId ∧
      event.organizationScope = some i.organizationId ∧ event.targetId = some i.membershipId ∧
      i.again = (event.name = "organization.member.reinvite" : Bool) ∧
      event.occurredAt = i.occurredAt := by
  obtain ⟨actorUserId, organizationId, membershipId, again, occurredAt⟩ := i
  unfold AuditEvent.invitation
  by_cases h : event.IsInvitation
  · rw [if_pos h]
    simp only [Option.bind_eq_some_iff, Option.map_eq_some_iff, Invitation.mk.injEq]
    constructor
    · rintro ⟨_, ha, _, ho, _, hm, rfl, rfl, rfl, hagain, rfl⟩
      exact ⟨h, ha, ho, hm, hagain.symm, rfl⟩
    · rintro ⟨-, ha, ho, hm, hagain, hat⟩
      exact ⟨_, ha, _, ho, _, hm, rfl, rfl, rfl, hagain.symm, hat⟩
  · simp [h]

/-- The scope survives the removal of sensitive members. -/
theorem sanitizeAuditContext_scope (organizationId : String)
    (context : List (String × AuditContextValue)) :
    sanitizeAuditContext (("organizationId", .text organizationId) :: context) =
      ("organizationId", .text organizationId) :: sanitizeAuditContext context := by
  have hplain : isSensitiveContextKey "organizationId" = false := by decide +kernel
  rw [sanitizeAuditContext, List.filter_cons_of_pos (by simp [hplain])]
  rfl

theorem MembershipInput.audit_invitation (input : MembershipInput) {name membershipId : String}
    {context : List (String × AuditContextValue)} {event : AuditEvent}
    (hevent : event = input.audit name membershipId context) (hname : event.IsInvitation) :
    event.invitation = some
      { actorUserId := input.actorUserId
        organizationId := input.organizationId
        membershipId := membershipId
        again := name = "organization.member.reinvite"
        occurredAt := input.now } := by
  subst hevent
  refine AuditEvent.invitation_eq_some.2 ⟨hname, rfl, ?_, rfl, rfl, rfl⟩
  simp only [audit, buildAuditEvent, Option.getD_some, sanitizeAuditContext_scope]
  rfl

theorem InviteRequest.invitations (request : InviteRequest) :
    request.input.auditEvents.filterMap AuditEvent.invitation = request.sent := by
  simp only [InviteRequest.input, InviteRequest.sent, List.filterMap_map]
  rw [← List.filterMap_eq_map]
  refine List.filterMap_congr fun invite _ => ?_
  exact request.audit_invitation rfl (Or.inl rfl)

/-- The invitations a database has a record of. -/
def Db.invitations (db : Db) : List Invitation :=
  db.auditEvents.rows.filterMap fun e => e.invitation

/-- **Every invitation that succeeded has an audit event of its own.** -/
def Recorded (s : InvitationState) : Prop := List.Subperm s.sent s.db.invitations

/-- What a request adds to the record is what it sends. -/
theorem Recorded.after {s : InvitationState} (h : Recorded s)
    {call : Db × Except Failure MembershipResult} {sent : List Invitation}
    (hcall : call.1 = s.db ∧ call.2 ≠ .ok .success ∨
      call.2 = .ok .success ∧ call.1.invitations = s.db.invitations ++ sent) :
    Recorded (s.after call sent) := by
  unfold Recorded InvitationState.after
  rcases hcall with ⟨hdb, hfailed⟩ | ⟨hsuccess, hdb⟩
  · rw [if_neg hfailed, hdb]
    exact h
  · rw [if_pos hsuccess, hdb]
    exact h.append (List.Subperm.refl sent)

/-- An invitation that succeeds was allowed, and its events are the invitations it sends. -/
theorem InviteRequest.call_cases (request : InviteRequest) {auditIds : List String} {db : Db}
    (hids : auditIds.length = request.invites.length) (hfresh : ∀ id ∈ auditIds, ¬ Marked db id)
    {call : Db × Except Failure MembershipResult}
    (hcall : call = insertOrganizationMemberInvites request.input auditIds db) :
    call.1 = db ∧ call.2 ≠ .ok .success ∨
    (call.2 = .ok .success ∧ call.1.invitations = db.invitations ++ request.sent) ∧
      request.scope.InvitationLimits request.now request.sent.length db := by
  have hevents : auditIds.length = request.input.auditEvents.length := by
    rw [hids]
    exact (List.length_map _).symm
  refine (insertOrganizationMemberInvites_applied hevents hfresh hcall).imp_right ?_
  rintro ⟨hsuccess, ⟨-, -, -, hlimits⟩, happlied⟩
  refine ⟨⟨hsuccess, ?_⟩, ?_⟩
  · rw [Db.invitations, happlied.events, List.filterMap_append, ← request.invitations,
      ← happlied.audited, List.filterMap_map]
    rfl
  · rw [InviteRequest.sent, List.length_map]
    have hcount : request.input.invites.length = request.invites.length := List.length_map _
    rw [← hcount]
    exact hlimits

/-- The same for a reinvitation, which also waited for the pause. -/
theorem ReinviteRequest.call_cases (request : ReinviteRequest) {mutationId : String} {db : Db}
    (hfresh : ¬ Marked db mutationId) {call : Db × Except Failure MembershipResult}
    (hcall : call = reinviteOrganizationMember request.input mutationId db) :
    call.1 = db ∧ call.2 ≠ .ok .success ∨
    (call.2 = .ok .success ∧ call.1.invitations = db.invitations ++ request.sent) ∧
      request.scope.InvitationLimits request.now request.sent.length db ∧
      ¬ ReinviteCooldown db request.organizationId request.membershipId request.now := by
  subst hcall
  refine ((MemberMutation.reinvite request.input).run_applied hfresh).imp_right ?_
  rintro ⟨hsuccess, ⟨m, -, -, -, -, -, hlimits, hcooldown⟩, happlied⟩
  refine ⟨⟨hsuccess, ?_⟩, hlimits, hcooldown⟩
  have hrecord : request.input.auditEvent.invitation.toList = request.sent :=
    congrArg Option.toList (request.audit_invitation rfl (Or.inr rfl))
  have hrows : (reinviteOrganizationMember request.input mutationId db).1.auditEvents.rows =
      db.auditEvents.rows ++ [{ request.input.auditEvent with id := mutationId }] := happlied.event
  rw [Db.invitations, hrows, List.filterMap_append, ← hrecord]
  cases hinvitation : request.input.auditEvent.invitation <;>
    simp [hinvitation, Db.invitations]

/-! ## Windows -/

namespace Invitation

/-- The invitation falls in the window of the given width. -/
def In (start width : Timestamp) (i : Invitation) : Prop :=
  start ≤ i.occurredAt ∧ i.occurredAt < start + width

instance (start width : Timestamp) : DecidablePred (In start width) := fun _ =>
  inferInstanceAs (Decidable (_ ∧ _))

end Invitation

/-- Recorded invitations are counted where the limits count. -/
theorem Recorded.countP_le {s : InvitationState} (h : Recorded s) {p : Invitation → Prop}
    [DecidablePred p] {q : AuditEventRow → Prop} [DecidablePred q]
    (hq : ∀ (e : AuditEventRow) (i : Invitation), e.invitation = some i → p i → q e) :
    s.sent.countP p ≤ s.db.auditEvents.rows.countP q := by
  refine (List.Subperm.countP_le (fun i => decide (p i)) h).trans ?_
  rw [Db.invitations, List.countP_filterMap]
  refine List.countP_mono_left fun e _ hany => ?_
  cases hinvitation : e.invitation with
  | none => simp [hinvitation] at hany
  | some i =>
    rw [hinvitation] at hany
    exact decide_eq_true (hq e i hinvitation (of_decide_eq_true hany))

/-- **A window holds no more than the limit**, of the invitations with one value of `key`. -/
def WindowLimited {α : Type} [DecidableEq α] (key : Invitation → α) (width : Timestamp)
    (limit : Nat) (sent : List Invitation) : Prop :=
  ∀ a start, (sent.countP fun i => key i = a ∧ i.In start width) ≤ limit

/-- A batch of one instant and one key keeps the windows limited, when what a window may hold
before it was counted. -/
theorem WindowLimited.append {α : Type} [DecidableEq α] {key : Invitation → α}
    {width : Timestamp} {limit : Nat} {sent batch : List Invitation} {now : Timestamp} {a : α}
    (h : WindowLimited key width limit sent)
    (hbatch : ∀ i ∈ batch, key i = a ∧ i.occurredAt = now)
    (hcount : (sent.countP fun i => key i = a ∧ now < i.occurredAt + width) + batch.length ≤ limit) :
    WindowLimited key width limit (sent ++ batch) := by
  intro b start
  rw [List.countP_append]
  by_cases hin : b = a ∧ start ≤ now ∧ now < start + width
  · obtain ⟨rfl, hstart, hend⟩ := hin
    have hbefore : (sent.countP fun i => key i = b ∧ i.In start width) ≤
        sent.countP fun i => key i = b ∧ now < i.occurredAt + width := by
      refine List.countP_mono_left fun i _ hi => ?_
      obtain ⟨hkey, hfrom, -⟩ := of_decide_eq_true hi
      exact decide_eq_true ⟨hkey, hend.trans_le (Nat.add_le_add_right hfrom width)⟩
    have hnew := List.countP_le_length (p := fun i => key i = b ∧ i.In start width) (l := batch)
    omega
  · have hnone : (batch.countP fun i => key i = b ∧ i.In start width) = 0 := by
      rw [List.countP_eq_zero]
      intro i hi hcontra
      obtain ⟨hkey, hat⟩ := hbatch i hi
      obtain ⟨hb, hwindow⟩ := of_decide_eq_true hcontra
      rw [Invitation.In, hat] at hwindow
      exact hin ⟨hb.symm.trans hkey, hwindow⟩
    rw [hnone]
    exact h b start

/-- The reinvitations of one member keep the pause. -/
def Paused (i j : Invitation) : Prop :=
  i.again = true → j.again = true → i.organizationId = j.organizationId →
    i.membershipId = j.membershipId → i.occurredAt + reinviteCooldown ≤ j.occurredAt

instance (i j : Invitation) : Decidable (Paused i j) := inferInstanceAs (Decidable (_ → _))

/-- **What the runs keep.** -/
structure InvitationsLimited (sent : List Invitation) : Prop where
  actor : WindowLimited (·.actorUserId) invitationActorWindow invitationActorLimit sent
  organization : WindowLimited (·.organizationId) invitationOrganizationWindow
    invitationOrganizationLimit sent
  paused : sent.Pairwise Paused

/-- A batch of one actor, organization and instant keeps the limits. -/
theorem InvitationsLimited.append {s : InvitationState} (h : InvitationsLimited s.sent)
    (hrecorded : Recorded s) {scope : MembershipScope} {now : Timestamp} {batch : List Invitation}
    (hlimits : scope.InvitationLimits now batch.length s.db)
    (hbatch : ∀ i ∈ batch, i.actorUserId = scope.actorUserId ∧
      i.organizationId = scope.organizationId ∧ i.occurredAt = now)
    (hwithin : batch.Pairwise Paused) (hpause : ∀ i ∈ s.sent, ∀ j ∈ batch, Paused i j) :
    InvitationsLimited (s.sent ++ batch) := by
  obtain ⟨hactor, horganization⟩ := hlimits
  refine ⟨h.actor.append (fun i hi => ⟨(hbatch i hi).1, (hbatch i hi).2.2⟩) ?_,
    h.organization.append (fun i hi => ⟨(hbatch i hi).2.1, (hbatch i hi).2.2⟩) ?_,
    List.pairwise_append.2 ⟨h.paused, hwithin, hpause⟩⟩
  · refine (Nat.add_le_add_right (hrecorded.countP_le ?_) _).trans hactor
    rintro e i hinvitation ⟨hkey, hnow⟩
    obtain ⟨hname, hactorUserId, -, -, -, hat⟩ := AuditEvent.invitation_eq_some.1 hinvitation
    exact ⟨hname, hactorUserId.trans (congrArg some hkey), hat ▸ hnow⟩
  · refine (Nat.add_le_add_right (hrecorded.countP_le ?_) _).trans horganization
    rintro e i hinvitation ⟨hkey, hnow⟩
    obtain ⟨hname, -, hscope, -, -, hat⟩ := AuditEvent.invitation_eq_some.1 hinvitation
    exact ⟨hname, hscope.trans (congrArg some hkey), hat ▸ hnow⟩

/-- A member who may be reinvited was not reinvited within the pause. -/
theorem Recorded.paused {s : InvitationState} (h : Recorded s) {j : Invitation}
    (hcooldown : ¬ ReinviteCooldown s.db j.organizationId j.membershipId j.occurredAt)
    {i : Invitation} (hi : i ∈ s.sent) : Paused i j := by
  intro hagain _ horganization hmember
  obtain ⟨e, he, hinvitation⟩ := List.mem_filterMap.1 (h.subset hi)
  obtain ⟨-, -, hscope, htarget, hname, hat⟩ := AuditEvent.invitation_eq_some.1 hinvitation
  by_contra hearly
  refine hcooldown ⟨e, he, ?_, htarget.trans (congrArg some hmember),
    hscope.trans (congrArg some horganization), hat ▸ not_le.1 hearly⟩
  exact of_decide_eq_true (hname.symm.trans hagain)

/-! ## Runs -/

/-- What a state of the runs keeps. -/
structure InvitationState.Sound (s : InvitationState) : Prop where
  recorded : Recorded s
  limited : InvitationsLimited s.sent

/-- A call that refuses, or sends what it was allowed to send. -/
theorem InvitationState.Sound.after {s : InvitationState} (h : s.Sound)
    {call : Db × Except Failure MembershipResult} {sent : List Invitation} {P : Prop}
    (hcall : call.1 = s.db ∧ call.2 ≠ .ok .success ∨
      (call.2 = .ok .success ∧ call.1.invitations = s.db.invitations ++ sent) ∧ P)
    (hlimited : P → InvitationsLimited (s.sent ++ sent)) : (s.after call sent).Sound := by
  refine ⟨h.recorded.after (hcall.imp_right And.left), ?_⟩
  unfold InvitationState.after
  split
  · rename_i hsuccess
    exact hlimited (hcall.resolve_left fun hfailed => hfailed.2 hsuccess).2
  · exact h.limited

/-- Audit events are only added, so what is recorded stays recorded. -/
theorem invitations_subperm {db db' : Db}
    (h : ∀ e ∈ db.auditEvents.rows, e ∈ db'.auditEvents.rows) :
    List.Subperm db.invitations db'.invitations := by
  obtain ⟨rows, hperm, hsublist⟩ := List.subperm_of_subset db.auditEvents.nodup h
  exact ⟨_, hperm.filterMap _, hsublist.filterMap _⟩

theorem InvitationStep.exec_sound {s : InvitationState} {step : InvitationStep} (h : s.Sound)
    (hpossible : step.Possible s) : (step.exec s).Sound := by
  cases step with
  | invite request auditIds =>
    refine h.after (request.call_cases hpossible.1 hpossible.2 rfl) fun hlimits => ?_
    have hbatch : ∀ i ∈ request.sent, i.again = false ∧ i.actorUserId = request.actorUserId ∧
        i.organizationId = request.organizationId ∧ i.occurredAt = request.now := by
      intro i hi
      obtain ⟨invite, -, rfl⟩ := List.mem_map.1 hi
      exact ⟨rfl, rfl, rfl, rfl⟩
    have hpaused : ∀ i, ∀ j ∈ request.sent, Paused i j := fun i j hj _ hagain => by
      rw [(hbatch j hj).1] at hagain
      cases hagain
    exact h.limited.append h.recorded hlimits (fun i hi => (hbatch i hi).2)
      (List.pairwise_of_forall_mem_list fun i _ j hj => hpaused i j hj)
      fun i _ j hj => hpaused i j hj
  | reinvite request mutationId =>
    refine h.after (request.call_cases hpossible rfl) fun hallowed => ?_
    refine h.limited.append h.recorded hallowed.1 ?_ (List.pairwise_singleton _ _) ?_
    · rintro i hi
      obtain rfl := List.mem_singleton.1 hi
      exact ⟨rfl, rfl, rfl⟩
    · rintro i hi j hj
      obtain rfl := List.mem_singleton.1 hj
      exact h.recorded.paused hallowed.2 hi
  | surroundings db' =>
    exact ⟨h.recorded.trans (invitations_subperm hpossible), h.limited⟩

/-- **Invitation limits hold in every run**: requests in any order and at any instants, between
any other writes that leave the audit events alone. -/
theorem invitations_limited {s : InvitationState} (h0 : s.sent = []) {issued : List String}
    {steps : List InvitationStep} {c : Config InvitationState String}
    (h : Run invitationSystem { state := s, issued := issued } steps c) :
    (∀ actorUserId start, (c.state.sent.countP fun i =>
      i.actorUserId = actorUserId ∧ i.In start (60 * 60 * 1000)) ≤ 50) ∧
    (∀ organizationId start, (c.state.sent.countP fun i =>
      i.organizationId = organizationId ∧ i.In start (24 * 60 * 60 * 1000)) ≤ 200) ∧
    c.state.sent.Pairwise fun i j => i.again = true → j.again = true →
      i.organizationId = j.organizationId → i.membershipId = j.membershipId →
      i.occurredAt + 10 * 60 * 1000 ≤ j.occurredAt := by
  have hstart : s.Sound := by
    refine ⟨?_, ?_⟩
    · unfold Recorded
      rw [h0]
      exact List.nil_subperm
    · rw [h0]
      exact ⟨fun _ _ => by simp, fun _ _ => by simp, .nil⟩
  have hsound : c.state.Sound := h.invariant (I := fun c => c.state.Sound) hstart
    fun {c l c'} hnext hc => by
      obtain ⟨hexec, hpossible⟩ := hnext.unrestrict
      have hstate : c'.state = l.exec c.state := hexec.step
      rw [hstate]
      exact InvitationStep.exec_sound hc hpossible
  exact ⟨hsound.limited.actor, hsound.limited.organization, hsound.limited.paused⟩

/-- The first Owner, a minute later. -/
def ownerAt (now : Timestamp) : MembershipInput where
  actorUserId := "u1"
  organizationId := "o"
  requestId := "r"
  now := now

/-- The first Owner invites a member and reinvites it three times, a minute after the first
reinvitation and again after the pause. -/
def reinvitations : List InvitationStep :=
  [.invite
    { ownerAt 0 with type := .user, collections := [], invites := [("m3", "c", "h")] } ["x"],
    .reinvite (again 1) "y", .reinvite (again 60001) "z", .reinvite (again 600001) "w"]
where
  again (now : Timestamp) : ReinviteRequest :=
    { ownerAt now with membershipId := "m3", emailNormalized := "c", inviteTokenHash := "h" }

/-- Where the reinvitations end. -/
def reinvitationsEnd : Config InvitationState String :=
  (replay InvitationStep.exec InvitationStep.draws { state := { db := twoOwners } }
    reinvitations).get (by decide +kernel)

theorem invitations_limited_reinvited :
    (reinvitationsEnd.state.sent.map fun i => (i.again, i.occurredAt)) =
        [(false, 0), (true, 1), (true, 600001)] ∧
      reinvitationsEnd.state.sent.Pairwise fun i j => i.again = true → j.again = true →
        i.organizationId = j.organizationId → i.membershipId = j.membershipId →
        i.occurredAt + 10 * 60 * 1000 ≤ j.occurredAt :=
  ⟨by decide +kernel, (invitations_limited (s := { db := twoOwners }) rfl
    (replay_restrict (Option.some_get _).symm (by decide +kernel))).2.2⟩

end HonoWarden
