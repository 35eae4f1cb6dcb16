import HonoWarden.Organization.Policy

/-!
# Organization memberships

Model of the mutations of `src/repositories/organization-membership-repository.ts`: an invitation
(status 0) is accepted (1) and confirmed (2); a member is updated, revoked (-1) or removed.

Authorization is evaluated inside the mutation (`MembershipScope.Manager`), and so is the
last-Owner guard (`EnabledOwner`). What a mutation does besides its own row hangs on the audit
event it leaves: the event is inserted when the mutation changed one row, under the mutation's id,
and every later statement of the batch asks for an event of that id (`Marked`).
-/

namespace HonoWarden

open Relational

/-! ## Inputs -/

/-- `Scope`. -/
structure MembershipScope where
  organizationId : String
  actorUserId : String
  sessionId : Option String := none
  deviceIdentifier : Option String := none
  deriving DecidableEq, Repr

/-- `actorValues`. -/
def MembershipScope.requested (input : MembershipScope) : RequestedActor where
  userId := input.actorUserId
  sessionId := input.sessionId
  deviceIdentifier := input.deviceIdentifier

/-- What `runMutation` reads of its input. -/
structure MembershipTarget where
  organizationId : String
  membershipId : String
  now : Timestamp
  auditEvent : AuditEvent
  deriving DecidableEq, Repr

/-- `Mutation`. -/
structure MembershipMutation extends MembershipScope, MembershipTarget where
  deriving DecidableEq, Repr

/-- `OrganizationMembershipCollectionGrant`. -/
structure CollectionGrant where
  id : String
  readOnly : Bool
  hidePasswords : Bool
  manage : Bool
  deriving DecidableEq, Repr

/-- `OrganizationMembershipRole`. -/
inductive MembershipRole where
  | owner
  | admin
  | user
  deriving DecidableEq, Repr

/-- The number a role is stored as. -/
def MembershipRole.toInt : MembershipRole → Int
  | .owner => 0
  | .admin => 1
  | .user => 2

/-- An element of `invites`. -/
structure MemberInvite where
  id : String
  emailNormalized : String
  inviteTokenHash : String
  inviteExpiresAt : Timestamp
  deriving DecidableEq, Repr

/-- The input of `insertOrganizationMemberInvites`. -/
structure MemberInvitesInput extends MembershipScope where
  now : Timestamp
  type : MembershipRole
  collections : List CollectionGrant
  invites : List MemberInvite
  auditEvents : List AuditEvent
  deriving DecidableEq, Repr

/-- The input of `acceptOrganizationMemberInvite`. -/
structure AcceptInviteInput extends MembershipTarget where
  userId : String
  sessionId : Option String := none
  deviceIdentifier : Option String := none
  emailNormalized : String
  inviteTokenHash : String
  deriving DecidableEq, Repr

/-- The input of `confirmOrganizationMember`. -/
structure ConfirmMemberInput extends MembershipMutation where
  keyEncrypted : String
  deriving DecidableEq, Repr

/-- The input of `updateOrganizationMember`. -/
structure UpdateMemberInput extends MembershipMutation where
  type : MembershipRole
  collections : List CollectionGrant
  deriving DecidableEq, Repr

/-- The input of `reinviteOrganizationMember`. -/
structure ReinviteMemberInput extends MembershipMutation where
  inviteTokenHash : String
  inviteExpiresAt : Timestamp
  emailNormalized : String
  deriving DecidableEq, Repr

/-- `Result` and `InvitationResult`. -/
inductive MembershipResult where
  | success
  | notFound
  | rateLimited
  | conflict
  deriving DecidableEq, Repr

/-! ## Predicates -/

/-- `activeActorFamily`. -/
def RequestedActor.ActiveFamily (actor : RequestedActor) (db : Db) : Prop :=
  actor.sessionId = none ∧ actor.deviceIdentifier = none ∨ ∃ d ∈ db.devices.rows, actor.Holds d

instance (actor : RequestedActor) (db : Db) : Decidable (actor.ActiveFamily db) :=
  inferInstanceAs (Decidable (_ ∨ _))

/-- A membership of an enabled account. -/
def OrganizationUser.HasAccount (m : OrganizationUser) (db : Db) : Prop :=
  ∃ u ∈ db.users.rows, m.userId = some u.id ∧ u.disabledAt = none

instance (db : Db) (m : OrganizationUser) : Decidable (m.HasAccount db) :=
  inferInstanceAs (Decidable (∃ u ∈ db.users.rows, _))

/-- The organization is enabled. -/
def OrganizationEnabled (db : Db) (organizationId : String) : Prop :=
  ∃ o ∈ db.organizations.rows, o.id = organizationId ∧ o.enabled = true

instance (db : Db) (organizationId : String) : Decidable (OrganizationEnabled db organizationId) :=
  inferInstanceAs (Decidable (∃ o ∈ db.organizations.rows, _))

/-- The confirmed membership through which the actor may act, in a role that `role` admits. -/
def MembershipScope.Acts (input : MembershipScope) (db : Db) (role : Int → Prop) : Prop :=
  ∃ actor ∈ db.organizationUsers.rows, actor.HasAccount db ∧
    OrganizationEnabled db actor.organizationId ∧ actor.organizationId = input.organizationId ∧
    actor.userId = some input.actorUserId ∧ actor.status = 2 ∧
    input.requested.ActiveFamily db ∧
    OrganizationPolicyAllows db actor.organizationId input.requested ∧ role actor.type

instance (input : MembershipScope) (db : Db) (role : Int → Prop) [DecidablePred role] :
    Decidable (input.Acts db role) :=
  inferInstanceAs (Decidable (∃ actor ∈ db.organizationUsers.rows, _))

/-- `manager`, in front of the membership `m`. -/
def MembershipScope.Manager (input : MembershipScope) (db : Db) (m : OrganizationUser) : Prop :=
  input.Acts db fun role => role = 0 ∨ role = 1 ∧ m.type = 2

instance (input : MembershipScope) (db : Db) (m : OrganizationUser) :
    Decidable (input.Manager db m) :=
  inferInstanceAs (Decidable (input.Acts db _))

/-- `readManager`, which is what `canRead` selects. -/
def MembershipScope.CanRead (input : MembershipScope) (db : Db) : Prop :=
  input.Acts db fun role => role = 0 ∨ role = 1

instance (input : MembershipScope) (db : Db) : Decidable (input.CanRead db) :=
  inferInstanceAs (Decidable (input.Acts db _))

/-- `enabledOwner`: another usable Owner of the organization of `m`. -/
def EnabledOwner (db : Db) (m : OrganizationUser) : Prop :=
  ∃ survivor ∈ db.organizationUsers.rows, survivor.HasAccount db ∧
    survivor.organizationId = m.organizationId ∧ survivor.id ≠ m.id ∧ survivor.type = 0 ∧
    survivor.status = 2 ∧
    OrganizationTotpEnrollmentAllows db survivor.organizationId survivor.userId

instance (db : Db) : DecidablePred (EnabledOwner db) := fun _ =>
  inferInstanceAs (Decidable (∃ survivor ∈ db.organizationUsers.rows, _))

/-- `organizationAuditScopeExpression`. -/
def AuditEvent.organizationScope (event : AuditEvent) : Option String :=
  match event.contextJson.bind fun members => members.lookup "organizationId" with
  | some (.text organizationId) => some organizationId
  | _ => none

/-- `invitationNames`. -/
def AuditEvent.IsInvitation (event : AuditEvent) : Prop :=
  event.name = "organization.member.invite" ∨ event.name = "organization.member.reinvite"

instance : DecidablePred AuditEvent.IsInvitation := fun _ => inferInstanceAs (Decidable (_ ∨ _))

def invitationActorLimit : Nat := 50
def invitationOrganizationLimit : Nat := 200
def invitationActorWindow : Timestamp := 60 * 60 * 1000
def invitationOrganizationWindow : Timestamp := 24 * invitationActorWindow
def reinviteCooldown : Timestamp := 10 * 60 * 1000

/-- `invitationLimitsSql`; an event is inside a window when `now` is less than the window after
it. -/
def MembershipScope.InvitationLimits (input : MembershipScope) (now : Timestamp) (count : Nat)
    (db : Db) : Prop :=
  (db.auditEvents.rows.countP fun e => e.IsInvitation ∧ e.actorUserId = some input.actorUserId ∧
      now < e.occurredAt + invitationActorWindow) + count ≤ invitationActorLimit ∧
    (db.auditEvents.rows.countP fun e => e.IsInvitation ∧
      e.organizationScope = some input.organizationId ∧
      now < e.occurredAt + invitationOrganizationWindow) + count ≤ invitationOrganizationLimit

instance (input : MembershipScope) (now : Timestamp) (count : Nat) (db : Db) :
    Decidable (input.InvitationLimits now count db) :=
  inferInstanceAs (Decidable (_ ∧ _))

/-- The membership was invited again a moment ago. -/
def ReinviteCooldown (db : Db) (organizationId membershipId : String) (now : Timestamp) : Prop :=
  ∃ e ∈ db.auditEvents.rows, e.name = "organization.member.reinvite" ∧
    e.targetId = some membershipId ∧ e.organizationScope = some organizationId ∧
    now < e.occurredAt + reinviteCooldown

instance (db : Db) (organizationId membershipId : String) (now : Timestamp) :
    Decidable (ReinviteCooldown db organizationId membershipId now) :=
  inferInstanceAs (Decidable (∃ e ∈ db.auditEvents.rows, _))

/-- Every grant names a collection of the organization. -/
def GrantsKnown (db : Db) (organizationId : String) (grants : List CollectionGrant) : Prop :=
  ∀ g ∈ grants, ∃ c ∈ db.collections.rows, c.id = g.id ∧ c.organizationId = organizationId

instance (db : Db) (organizationId : String) (grants : List CollectionGrant) :
    Decidable (GrantsKnown db organizationId grants) :=
  inferInstanceAs (Decidable (∀ g ∈ grants, _))

/-! ## `runMutation` -/

/-- `auditStatement`. -/
def auditStatement (event : AuditEvent) (id : String) (condition : Db → Nat → Prop)
    [∀ db n, Decidable (condition db n)] : Statement Db :=
  Db.auditEventsIn.insertSelect fun db changes =>
    if condition db changes then [{ event with id := id }] else []

/-- `revisionStatement`. -/
def revisionStatement (organizationId : String) (now : Timestamp) (auditId : String) :
    Statement Db :=
  Db.organizationsIn.update (fun db _ o => o.id = organizationId ∧ Marked db auditId) fun _ o =>
    { o with revisionDate := max o.revisionDate now + 1, updatedAt := now }

/-- The row a grant becomes for a membership. -/
def CollectionGrant.row (organizationUserId : String) (g : CollectionGrant) : CollectionUser where
  collectionId := g.id
  organizationUserId := organizationUserId
  readOnly := g.readOnly
  hidePasswords := g.hidePasswords
  manage := g.manage

/-- The foreign keys of `collection_users`. -/
def CollectionUser.Refers (db : Db) (g : CollectionUser) : Prop :=
  (∃ c ∈ db.collections.rows, c.id = g.collectionId) ∧
    ∃ m ∈ db.organizationUsers.rows, m.id = g.organizationUserId

instance (db : Db) : DecidablePred (CollectionUser.Refers db) := fun _ =>
  inferInstanceAs (Decidable (_ ∧ _))

/-- ON DELETE CASCADE of `collection_users` and `organization_group_users`. -/
def cascadeMembershipDelete (deleted : List OrganizationUser) (db : Db) : Db × Nat :=
  let grants := Db.collectionUsersIn.nestedDelete
    (fun g => ∃ m ∈ deleted, m.id = g.organizationUserId) db
  let groups := Db.organizationGroupUsersIn.nestedDelete
    (fun g => ∃ m ∈ deleted, m.id = g.organizationUserId ∧ m.organizationId = g.organizationId)
    grants.1
  (groups.1, grants.2 + groups.2)

namespace MembershipTarget

variable (input : MembershipTarget)

/-- The row the mutation is about. -/
def Row (m : OrganizationUser) : Prop :=
  m.id = input.membershipId ∧ m.organizationId = input.organizationId

instance : DecidablePred input.Row := fun _ => inferInstanceAs (Decidable (_ ∧ _))

/-- No mutation without its audit event. -/
def requireAudit (auditId : String) : Statement Db :=
  assertThat fun db _ => (¬ ∃ m ∈ db.organizationUsers.rows, input.Row m ∧
    m.lastMembershipMutationId = some auditId) ∨ Marked db auditId

/-- The account whose polling revision a mutation moves. -/
def Account (db : Db) (u : User) : Prop :=
  ∃ m ∈ db.organizationUsers.rows, input.Row m ∧ m.userId = some u.id

instance (db : Db) : DecidablePred (input.Account db) := fun _ =>
  inferInstanceAs (Decidable (∃ m ∈ db.organizationUsers.rows, _))

/-- The collection grants are replaced. -/
def replaceGrants (auditId : String) (grants : List CollectionGrant) : List (Statement Db) :=
  [Db.collectionUsersIn.delete
      (fun db _ g => g.organizationUserId = input.membershipId ∧ Marked db auditId),
    Db.collectionUsersIn.insertReferencing
      (fun db _ => if Marked db auditId then grants.map (CollectionGrant.row input.membershipId)
        else [])
      CollectionUser.Refers,
    assertThat fun db changes => ¬ Marked db auditId ∨ changes = grants.length ∧
      (db.collectionUsers.rows.countP fun g => g.organizationUserId = input.membershipId) =
        grants.length]

/-- The organization and the account are revised. -/
def revise (auditId : String) : List (Statement Db) :=
  [revisionStatement input.organizationId input.now auditId,
    assertThat fun db changes => ¬ Marked db auditId ∨ changes = 1,
    Db.usersIn.update (fun db _ u => input.Account db u ∧ Marked db auditId)
      fun db => User.poll db input.now,
    assertThat fun db changes => ¬ Marked db auditId ∨
      changes = db.users.rows.countP (input.Account db)]

/-- The member leaves its groups. -/
def leaveGroups (auditId : String) : List (Statement Db) :=
  [Db.organizationGroupUsersIn.delete
      (fun db _ g => g.organizationUserId = input.membershipId ∧
        g.organizationId = input.organizationId ∧ Marked db auditId),
    assertThat fun db _ => ¬ Marked db auditId ∨ ¬ ∃ g ∈ db.organizationGroupUsers.rows,
      g.organizationUserId = input.membershipId ∧ g.organizationId = input.organizationId]

/-- The membership is deleted. -/
def deleteMember (auditId : String) : Statement Db :=
  Db.organizationUsersIn.deleteTriggering (fun db _ m => input.Row m ∧ Marked db auditId)
    (fun m => [[.text m.id]]) cascadeMembershipDelete

/-- The deletion, asserted. -/
def leave (auditId : String) : List (Statement Db) :=
  [input.deleteMember auditId,
    assertThat fun db _ => ¬ Marked db auditId ∨
      ¬ ∃ m ∈ db.organizationUsers.rows, input.Row m]

end MembershipTarget

/-- The batch of `runMutation`. -/
def mutationBatch (mutation : Statement Db) (input : MembershipTarget) (auditId : String)
    (grants : Option (List CollectionGrant)) (remove clearGroups : Bool) : List (Statement Db) :=
  [mutation, auditStatement input.auditEvent auditId (fun _ changes => changes = 1),
    input.requireAudit auditId] ++
  (match grants with
    | some grants => input.replaceGrants auditId grants
    | none => []) ++
  input.revise auditId ++
  (if clearGroups then input.leaveGroups auditId else []) ++
  (if remove then input.leave auditId else [])

/-- The reading of `runMutation`: the audit INSERT says whether the mutation applied. -/
def interpretMutation (remove : Bool) (results : List StatementResult) :
    Except String MembershipResult :=
  let changes (i : Nat) := (results[i]?.map StatementResult.metaChanges).getD 0
  if changes 0 = 1 ∧ changes 1 ≠ 1 then
    .error "Organization membership audit did not fully apply."
  else if remove ∧ changes 1 = 1 ∧
      ((results[results.length - 2]?.map fun r => r.rows.length).getD 0) ≠ 1 then
    .error "Organization membership removal did not fully apply."
  else .ok (if changes 1 = 1 then .success else .notFound)

/-- `runMutation`. -/
def runMutation (mutation : Statement Db) (input : MembershipTarget) (auditId : String)
    (grants : Option (List CollectionGrant)) (remove clearGroups : Bool) (db : Db) :
    Db × Except Failure MembershipResult :=
  commit (mutationBatch mutation input auditId grants remove clearGroups)
    (interpretMutation remove) db

/-! ## Accepting, confirming, updating, revoking, removing -/

/-- The actor of an acceptance. -/
def AcceptInviteInput.requested (input : AcceptInviteInput) : RequestedActor where
  userId := input.userId
  sessionId := input.sessionId
  deviceIdentifier := input.deviceIdentifier

/-- The open invitation, by its token and its address. -/
def AcceptInviteInput.Invitation (input : AcceptInviteInput) (m : OrganizationUser) : Prop :=
  input.Row m ∧ m.status = 0 ∧ m.email = input.emailNormalized ∧
    m.inviteTokenHash = some input.inviteTokenHash ∧
    ∃ expiresAt ∈ m.inviteExpiresAt, input.now < expiresAt

instance (input : AcceptInviteInput) : DecidablePred input.Invitation := fun _ =>
  inferInstanceAs (Decidable (_ ∧ _))

/-- The account that accepts: of the invited address, and not a member yet. -/
def AcceptInviteInput.Invitee (input : AcceptInviteInput) (db : Db) (m : OrganizationUser) :
    Prop :=
  (∃ u ∈ db.users.rows, u.id = input.userId ∧ u.emailNormalized = m.email ∧
    u.disabledAt = none) ∧
  OrganizationEnabled db m.organizationId ∧ input.requested.ActiveFamily db ∧
  OrganizationPolicyAllows db m.organizationId input.requested ∧
  ¬ ∃ existing ∈ db.organizationUsers.rows, existing.organizationId = m.organizationId ∧
    existing.userId = some input.userId ∧ existing.id ≠ m.id

instance (input : AcceptInviteInput) (db : Db) : DecidablePred (input.Invitee db) := fun _ =>
  inferInstanceAs (Decidable (_ ∧ _))

def acceptInvite (input : AcceptInviteInput) (mutationId : String) : Statement Db :=
  Db.organizationUsersIn.update (fun db _ m => input.Invitation m ∧ input.Invitee db m)
    fun _ m =>
      { m with
        userId := some input.userId
        status := 1
        inviteTokenHash := none
        inviteExpiresAt := none
        updatedAt := input.now
        lastMembershipMutationId := some mutationId }

/-- `acceptOrganizationMemberInvite`. -/
def acceptOrganizationMemberInvite (input : AcceptInviteInput) (mutationId : String) (db : Db) :
    Db × Except Failure MembershipResult :=
  runMutation (acceptInvite input mutationId) input.toMembershipTarget mutationId none false false
    db

def confirmMember (input : ConfirmMemberInput) (mutationId : String) : Statement Db :=
  Db.organizationUsersIn.update
    (fun db _ m => input.Row m ∧ m.status = 1 ∧ m.orgKey = none ∧ input.Manager db m ∧
      ∃ u ∈ db.users.rows, m.userId = some u.id ∧ u.disabledAt = none ∧
        u.emailNormalized = m.email ∧
        OrganizationTotpEnrollmentAllows db m.organizationId (some u.id))
    fun _ m =>
      { m with
        status := 2
        orgKey := some input.keyEncrypted
        updatedAt := input.now
        lastMembershipMutationId := some mutationId }

/-- `confirmOrganizationMember`. -/
def confirmOrganizationMember (input : ConfirmMemberInput) (mutationId : String) (db : Db) :
    Db × Except Failure MembershipResult :=
  runMutation (confirmMember input mutationId) input.toMembershipTarget mutationId none false false
    db

/-- The member an update may rewrite. -/
def UpdateMemberInput.Member (input : UpdateMemberInput) (db : Db) (m : OrganizationUser) : Prop :=
  input.Row m ∧ (m.status = 0 ∨ m.status = 1 ∨ m.status = 2) ∧ input.Manager db m ∧
    (input.type.toInt = 2 ∨ ∃ actor ∈ db.organizationUsers.rows,
      actor.organizationId = m.organizationId ∧ actor.userId = some input.actorUserId ∧
      actor.status = 2 ∧ actor.type = 0) ∧
    (m.type ≠ 0 ∨ m.status ≠ 2 ∨ input.type.toInt = 0 ∨ EnabledOwner db m) ∧
    GrantsKnown db m.organizationId input.collections

instance (input : UpdateMemberInput) (db : Db) : DecidablePred (input.Member db) := fun _ =>
  inferInstanceAs (Decidable (_ ∧ _))

def updateMember (input : UpdateMemberInput) (mutationId : String) : Statement Db :=
  Db.organizationUsersIn.update (fun db _ => input.Member db) fun _ m =>
    { m with
      type := input.type.toInt
      permissions := none
      updatedAt := input.now
      lastMembershipMutationId := some mutationId }

/-- `updateOrganizationMember`. -/
def updateOrganizationMember (input : UpdateMemberInput) (mutationId : String) (db : Db) :
    Db × Except Failure MembershipResult :=
  runMutation (updateMember input mutationId) input.toMembershipTarget mutationId
    (some input.collections) false false db

/-- The membership as a revocation leaves it. -/
def MembershipTarget.revokeRow (input : MembershipTarget) (mutationId : String)
    (m : OrganizationUser) : OrganizationUser :=
  { m with
    status := -1
    orgKey := none
    inviteTokenHash := none
    inviteExpiresAt := none
    updatedAt := input.now
    lastMembershipMutationId := some mutationId }

/-- The member a request may revoke or remove, in a status that `status` admits. -/
def MembershipMutation.Revocable (input : MembershipMutation) (status : Int → Prop) (db : Db)
    (m : OrganizationUser) : Prop :=
  input.Row m ∧ status m.status ∧ input.Manager db m ∧
    (m.type ≠ 0 ∨ m.status ≠ 2 ∨ EnabledOwner db m)

instance (input : MembershipMutation) (status : Int → Prop) [DecidablePred status] (db : Db) :
    DecidablePred (input.Revocable status db) := fun _ =>
  inferInstanceAs (Decidable (_ ∧ _))

def revokeMember (input : MembershipMutation) (status : Int → Prop) [DecidablePred status]
    (mutationId : String) : Statement Db :=
  Db.organizationUsersIn.update (fun db _ => input.Revocable status db)
    fun _ => input.revokeRow mutationId

/-- `revokeOrganizationMember`. -/
def revokeOrganizationMember (input : MembershipMutation) (mutationId : String) (db : Db) :
    Db × Except Failure MembershipResult :=
  runMutation (revokeMember input (fun status => status = 0 ∨ status = 1 ∨ status = 2) mutationId)
    input.toMembershipTarget mutationId (some []) false true db

/-- `removeOrganizationMember`; a revoked membership can be removed too. -/
def removeOrganizationMember (input : MembershipMutation) (mutationId : String) (db : Db) :
    Db × Except Failure MembershipResult :=
  runMutation (revokeMember input (fun _ => True) mutationId) input.toMembershipTarget mutationId
    (some []) true true db

/-! ## Invitations -/

/-- `invitationLimitReached`; a request for a new invitation has no membership id. -/
def invitationLimitReached (input : MembershipScope) (now : Timestamp)
    (membershipId : Option String) (count : Nat) (db : Db) : Bool :=
  ¬ input.InvitationLimits now count db ∨
    ∃ id ∈ membershipId, id ≠ "" ∧ ReinviteCooldown db input.organizationId id now

def reinviteMember (input : ReinviteMemberInput) (mutationId : String) : Statement Db :=
  Db.organizationUsersIn.update
    (fun db _ m => input.Row m ∧ m.status = 0 ∧ m.email = input.emailNormalized ∧
      input.Manager db m ∧ input.InvitationLimits input.now 1 db ∧
      ¬ ReinviteCooldown db input.organizationId input.membershipId input.now)
    fun _ m =>
      { m with
        status := 0
        userId := none
        orgKey := none
        inviteTokenHash := some input.inviteTokenHash
        inviteExpiresAt := some input.inviteExpiresAt
        updatedAt := input.now
        lastMembershipMutationId := some mutationId }

/-- `reinviteOrganizationMember`. -/
def reinviteOrganizationMember (input : ReinviteMemberInput) (mutationId : String) (db : Db) :
    Db × Except Failure MembershipResult :=
  let call := runMutation (reinviteMember input mutationId) input.toMembershipTarget mutationId
    none false false db
  (call.1, call.2.map fun result =>
    if result = .success then result
    else if invitationLimitReached input.toMembershipScope input.now
        (some input.membershipId) 1 call.1 then .rateLimited
    else result)

namespace MemberInvitesInput

variable (input : MemberInvitesInput) (auditIds : List String)

/-- The invites under their mutation ids. -/
def marked : List (MemberInvite × String) := input.invites.zip auditIds

/-- The actor may invite members in this role. -/
def Allowed (db : Db) : Prop :=
  (input.Acts db fun role => role = 0 ∨ role = 1 ∧ input.type.toInt = 2) ∧
    GrantsKnown db input.organizationId input.collections ∧
    (¬ ∃ existing ∈ db.organizationUsers.rows, existing.organizationId = input.organizationId ∧
      ∃ candidate ∈ input.invites, existing.email = candidate.emailNormalized) ∧
    input.InvitationLimits input.now input.invites.length db

instance (db : Db) : Decidable (input.Allowed db) := inferInstanceAs (Decidable (_ ∧ _))

/-- The membership an invite inserts. -/
def row (invite : MemberInvite × String) : OrganizationUser where
  id := invite.1.id
  organizationId := input.organizationId
  email := invite.1.emailNormalized
  type := input.type.toInt
  status := 0
  updatedAt := input.now
  inviteTokenHash := some invite.1.inviteTokenHash
  inviteExpiresAt := some invite.1.inviteExpiresAt
  lastMembershipMutationId := some invite.2

def insertInvites : Statement Db :=
  Db.organizationUsersIn.insertSelect fun db _ =>
    if input.Allowed db then (input.marked auditIds).map input.row else []

/-- The id of the first event, which the batch marks its success with. -/
def marker : String := auditIds.headD ""

/-- The event of the first invite asks for the inserted rows, the others for the first event. -/
def auditInvites : List (Statement Db) :=
  ((input.auditEvents.zip auditIds).zipIdx).map fun event =>
    auditStatement event.1.1 event.1.2 fun db changes =>
      event.2 = 0 ∧ changes = input.invites.length ∨ event.2 ≠ 0 ∧ Marked db (marker auditIds)

/-- `markedCount`. -/
def markedCount (db : Db) : Nat :=
  (db.organizationUsers.rows.product (input.marked auditIds)).countP fun candidate =>
    candidate.1.id = candidate.2.1.id ∧
      candidate.1.lastMembershipMutationId = some candidate.2.2 ∧
      candidate.1.organizationId = input.organizationId

/-- All invites with all their events, or none. -/
def requireInviteAudits : Statement Db :=
  assertThat fun db _ => input.markedCount auditIds db = 0 ∨
    input.markedCount auditIds db = input.invites.length ∧
      (db.auditEvents.rows.countP fun e => e.id ∈ auditIds) = input.invites.length

/-- The batch of `insertOrganizationMemberInvites`. -/
def batch : List (Statement Db) :=
  [input.insertInvites auditIds] ++ input.auditInvites auditIds ++
  [input.requireInviteAudits auditIds,
    Db.collectionUsersIn.insertReferencing
      (fun db _ => if Marked db (marker auditIds) then input.collections.flatMap fun g =>
          input.invites.map fun invite => g.row invite.id
        else [])
      CollectionUser.Refers,
    assertThat fun db changes => ¬ Marked db (marker auditIds) ∨
      changes = input.collections.length * input.invites.length,
    revisionStatement input.organizationId input.now (marker auditIds),
    assertThat fun db changes => ¬ Marked db (marker auditIds) ∨ changes = 1]

/-- The reading of the batch: whether the invites were inserted. -/
def interpret (results : List StatementResult) : Except String Bool :=
  let inserted := (results.head?.map StatementResult.metaChanges).getD 0 = input.invites.length
  if inserted ∧ ∃ audit ∈ (results.drop 1).take input.invites.length, audit.metaChanges ≠ 1 then
    .error "Organization invitation audit did not fully apply."
  else .ok inserted

end MemberInvitesInput

/-- `insertOrganizationMemberInvites`, which draws one id for each audit event; the reads that
explain a refusal are taken on the database the batch leaves. -/
def insertOrganizationMemberInvites (input : MemberInvitesInput) (auditIds : List String)
    (db : Db) : Db × Except Failure MembershipResult :=
  if input.invites.length < 1 ∨ 20 < input.invites.length ∨
      input.auditEvents.length ≠ input.invites.length then
    (db, .error (.thrown "Organization invite batch bounds or audit count invalid."))
  else
    match commit (input.batch auditIds) input.interpret db with
    | (db', .error (.constraint (.unique "organization_users"))) => (db', .ok .conflict)
    | (db', .error e) => (db', .error e)
    | (db', .ok true) => (db', .ok .success)
    | (db', .ok false) =>
      (db', .ok
        (if ¬ input.CanRead db' then .notFound
        else if invitationLimitReached input.toMembershipScope input.now none
            input.invites.length db' then .rateLimited
        else .conflict))

end HonoWarden
