import HonoWarden.Organization.Access

/-!
# Groups of members

Model of the mutations of `src/repositories/organization-groups-repository.ts`. A group gives all
its members its grants, so a mutation of one is a mutation of what its members may do. The root
write of every batch asks that an Admin neither finds nor puts anyone but plain members in the
group (`AdminCurrentMembers`, `ValidRequestedAccess`); the later statements ask for the audit
event of the root write, as those of a membership mutation do.
-/

namespace HonoWarden

open Relational

/-! ## Inputs -/

/-- `OrganizationGroupMutation`. -/
structure OrganizationGroupMutation where
  organizationId : String
  actor : MfaSessionActor
  groupId : String
  now : Timestamp
  auditEvent : AuditEvent
  expectedRevisionDate : Option Timestamp := none
  deriving DecidableEq, Repr

/-- `OrganizationGroupMutation & OrganizationGroupWriteRequest`. -/
structure OrganizationGroupWriteInput extends OrganizationGroupMutation where
  name : String
  collections : List CollectionGrant
  users : List String
  deriving DecidableEq, Repr

/-- `Result`. -/
inductive OrganizationGroupResult where
  | success
  | notFound
  | conflict
  deriving DecidableEq, Repr

/-! ## Predicates -/

namespace OrganizationGroupMutation

variable (input : OrganizationGroupMutation) (db : Db)

/-- `manager`: the actor acts as Owner or Admin, in an open session. -/
def Manager : Prop :=
  ∃ actor ∈ db.organizationUsers.rows, actor.HasAccount db ∧
    OrganizationEnabled db actor.organizationId ∧ actor.organizationId = input.organizationId ∧
    actor.userId = some input.actor.userId ∧ actor.status = 2 ∧
    (actor.type = 0 ∨ actor.type = 1) ∧ (∃ d ∈ db.devices.rows, input.actor.requested.Holds d) ∧
    OrganizationPolicyAllows db actor.organizationId input.actor.requested

instance : Decidable (input.Manager db) :=
  inferInstanceAs (Decidable (∃ actor ∈ db.organizationUsers.rows, _))

/-- `owner`. -/
def Owner : Prop :=
  ∃ actor ∈ db.organizationUsers.rows, actor.organizationId = input.organizationId ∧
    actor.userId = some input.actor.userId ∧ actor.status = 2 ∧ actor.type = 0

instance : Decidable (input.Owner db) :=
  inferInstanceAs (Decidable (∃ actor ∈ db.organizationUsers.rows, _))

/-- A member the request may put into the group. -/
def Recipient (recipient : OrganizationUser) : Prop :=
  recipient.organizationId = input.organizationId ∧
    (recipient.status = 0 ∨ recipient.status = 1 ∨ recipient.status = 2) ∧
    (recipient.type = 0 ∨ recipient.type = 1 ∨ recipient.type = 2) ∧
    (¬ ∃ u ∈ db.users.rows, recipient.userId = some u.id ∧ u.disabledAt ≠ none) ∧
    (input.Owner db ∨ recipient.type = 2)

instance : DecidablePred (input.Recipient db) := fun _ => inferInstanceAs (Decidable (_ ∧ _))

/-- `validRequestedAccessSql`. -/
def ValidRequestedAccess (collections : List CollectionGrant) (users : List String) : Prop :=
  GrantsKnown db input.organizationId collections ∧
    ∀ id ∈ users, ∃ recipient ∈ db.organizationUsers.rows, recipient.id = id ∧
      input.Recipient db recipient

instance (collections : List CollectionGrant) (users : List String) :
    Decidable (input.ValidRequestedAccess db collections users) :=
  inferInstanceAs (Decidable (_ ∧ _))

/-- `adminCurrentMembersSql`: who is no Owner finds only plain members in the group. -/
def AdminCurrentMembers (g : OrganizationGroup) : Prop :=
  input.Owner db ∨ ¬ ∃ link ∈ db.organizationGroupUsers.rows,
    ∃ member ∈ db.organizationUsers.rows, member.id = link.organizationUserId ∧
      member.organizationId = link.organizationId ∧ link.groupId = g.id ∧
      link.organizationId = g.organizationId ∧ member.type ≠ 2

instance : DecidablePred (input.AdminCurrentMembers db) := fun _ =>
  inferInstanceAs (Decidable (_ ∨ _))

/-- The group, at the revision the request has seen, if it names one. -/
def Group (g : OrganizationGroup) : Prop :=
  g.id = input.groupId ∧ g.organizationId = input.organizationId ∧
    (input.expectedRevisionDate = none ∨ input.expectedRevisionDate = some g.revisionDate)

instance : DecidablePred input.Group := fun _ => inferInstanceAs (Decidable (_ ∧ _))

/-- A link of the group. -/
def Link (link : OrganizationGroupUser) : Prop :=
  link.groupId = input.groupId ∧ link.organizationId = input.organizationId

instance : DecidablePred input.Link := fun _ => inferInstanceAs (Decidable (_ ∧ _))

/-- A grant of the group. -/
def Grant (g : CollectionGroup) : Prop :=
  g.groupId = input.groupId ∧ g.organizationId = input.organizationId

instance : DecidablePred input.Grant := fun _ => inferInstanceAs (Decidable (_ ∧ _))

/-- `affectedUsers`: the accounts of the members the group has or is to have. -/
def Affected (newUsers : List String) (u : User) : Prop :=
  ∃ m ∈ db.organizationUsers.rows, m.organizationId = input.organizationId ∧
    m.userId = some u.id ∧
    ((∃ link ∈ db.organizationGroupUsers.rows, input.Link link ∧ link.organizationUserId = m.id) ∨
      m.id ∈ newUsers)

instance (newUsers : List String) : DecidablePred (input.Affected db newUsers) := fun _ =>
  inferInstanceAs (Decidable (∃ m ∈ db.organizationUsers.rows, _))

/-- The group after a mutation that leaves its name. -/
def touch (mutationId : String) (g : OrganizationGroup) : OrganizationGroup :=
  { g with
    revisionDate := max g.revisionDate input.now + 1
    lastMutationId := mutationId
    updatedAt := input.now }

end OrganizationGroupMutation

/-! ## `runMutation` -/

/-- What follows the root write. -/
inductive GroupOperation where
  | replace (collections : List CollectionGrant) (users : List String)
  | delete
  | removeMember (membershipId : String)
  deriving DecidableEq, Repr

/-- The members a group is to have. -/
def GroupOperation.newUsers : GroupOperation → List String
  | replace _ users => users
  | _ => []

/-- The row a grant becomes for a group. -/
def CollectionGrant.groupRow (organizationId groupId : String) (g : CollectionGrant) :
    CollectionGroup where
  collectionId := g.id
  organizationId := organizationId
  groupId := groupId
  readOnly := g.readOnly
  hidePasswords := g.hidePasswords
  manage := g.manage

/-- `FOREIGN KEY (group_id, organization_id)`. -/
def GroupExists (db : Db) (groupId organizationId : String) : Prop :=
  ∃ g ∈ db.organizationGroups.rows, g.id = groupId ∧ g.organizationId = organizationId

instance (db : Db) (groupId organizationId : String) :
    Decidable (GroupExists db groupId organizationId) :=
  inferInstanceAs (Decidable (∃ g ∈ db.organizationGroups.rows, _))

/-- The foreign keys of `organization_group_users`. -/
def OrganizationGroupUser.Refers (db : Db) (link : OrganizationGroupUser) : Prop :=
  GroupExists db link.groupId link.organizationId ∧
    ∃ m ∈ db.organizationUsers.rows, m.id = link.organizationUserId ∧
      m.organizationId = link.organizationId

instance (db : Db) : DecidablePred (OrganizationGroupUser.Refers db) := fun _ =>
  inferInstanceAs (Decidable (_ ∧ _))

/-- The foreign keys of `collection_groups`. -/
def CollectionGroup.Refers (db : Db) (a : CollectionGroup) : Prop :=
  GroupExists db a.groupId a.organizationId ∧
    ∃ c ∈ db.collections.rows, c.id = a.collectionId ∧ c.organizationId = a.organizationId

instance (db : Db) : DecidablePred (CollectionGroup.Refers db) := fun _ =>
  inferInstanceAs (Decidable (_ ∧ _))

/-- ON DELETE CASCADE of `organization_group_users` and `collection_groups`. -/
def cascadeGroupDelete (deleted : List OrganizationGroup) (db : Db) : Db × Nat :=
  let links := Db.organizationGroupUsersIn.nestedDelete
    (fun link => ∃ g ∈ deleted, g.id = link.groupId ∧ g.organizationId = link.organizationId) db
  let grants := Db.collectionGroupsIn.nestedDelete
    (fun a => ∃ g ∈ deleted, g.id = a.groupId ∧ g.organizationId = a.organizationId) links.1
  (grants.1, links.2 + grants.2)

namespace OrganizationGroupMutation

variable (input : OrganizationGroupMutation) (mutationId : String)

/-- No group mutation without its audit event. -/
def requireAudit : Statement Db :=
  assertThat fun db _ => ¬ ((∃ g ∈ db.organizationGroups.rows, g.id = input.groupId ∧
    g.organizationId = input.organizationId ∧ g.lastMutationId = mutationId) ∧
    ¬ Marked db mutationId)

/-- The organization and the accounts are revised. -/
def revise (newUsers : List String) : List (Statement Db) :=
  [revisionStatement input.organizationId input.now mutationId,
    assertThat fun db changes => ¬ Marked db mutationId ∨ changes = 1,
    Db.usersIn.update (fun db _ u => input.Affected db newUsers u ∧ Marked db mutationId)
      fun db => User.poll db input.now,
    assertThat fun db changes => ¬ Marked db mutationId ∨
      changes = db.users.rows.countP (input.Affected db newUsers)]

/-- The links and grants of the group are replaced. -/
def replace (collections : List CollectionGrant) (users : List String) : List (Statement Db) :=
  [Db.organizationGroupUsersIn.delete (fun db _ link => input.Link link ∧ Marked db mutationId),
    Db.organizationGroupUsersIn.insertReferencing
      (fun db _ => if Marked db mutationId then
          users.map fun id => ⟨input.groupId, input.organizationId, id⟩
        else [])
      OrganizationGroupUser.Refers,
    assertThat fun db changes => ¬ Marked db mutationId ∨ changes = users.length ∧
      db.organizationGroupUsers.rows.countP input.Link = users.length,
    Db.collectionGroupsIn.delete (fun db _ a => input.Grant a ∧ Marked db mutationId),
    Db.collectionGroupsIn.insertReferencing
      (fun db _ => if Marked db mutationId then
          collections.map (CollectionGrant.groupRow input.organizationId input.groupId)
        else [])
      CollectionGroup.Refers,
    assertThat fun db changes => ¬ Marked db mutationId ∨ changes = collections.length ∧
      db.collectionGroups.rows.countP input.Grant = collections.length]

/-- The group is deleted. -/
def deleteGroup : Statement Db :=
  Db.organizationGroupsIn.deleteTriggering
    (fun db _ g => g.id = input.groupId ∧ g.organizationId = input.organizationId ∧
      Marked db mutationId)
    (fun g => [[.text g.id]]) cascadeGroupDelete

/-- The statements of the operation itself. -/
def operate : GroupOperation → List (Statement Db)
  | .replace collections users => input.replace mutationId collections users
  | .delete =>
    [input.deleteGroup mutationId,
      assertThat fun db _ => ¬ Marked db mutationId ∨
        ¬ GroupExists db input.groupId input.organizationId]
  | .removeMember membershipId =>
    [Db.organizationGroupUsersIn.delete
        (fun db _ link => input.Link link ∧ link.organizationUserId = membershipId ∧
          Marked db mutationId),
      assertThat fun db changes => ¬ Marked db mutationId ∨ changes = 1]

/-- The batch of `runMutation`. -/
def batch (root : Statement Db) (operation : GroupOperation) : List (Statement Db) :=
  [root, auditStatement input.auditEvent mutationId (fun _ changes => changes = 1),
    input.requireAudit mutationId] ++
  input.revise mutationId operation.newUsers ++ input.operate mutationId operation

/-- The reading of the batch: whether the root write left its event. -/
def interpret (results : List StatementResult) : Except String Bool :=
  .ok ((results[1]?.map StatementResult.metaChanges).getD 0 = 1)

/-- `findOrganizationGroup`, of which the revision is read. -/
def find (db : Db) : Option OrganizationGroup :=
  db.organizationGroups.rows.find? fun g => g.id = input.groupId ∧
    g.organizationId = input.organizationId ∧ input.Manager db

/-- `runMutation`; the read that tells a stale revision from a missing group is taken on the
database the batch leaves. -/
def runMutation (root : Statement Db) (operation : GroupOperation) (db : Db) :
    Db × Except Failure OrganizationGroupResult :=
  let call := commit (input.batch mutationId root operation) interpret db
  (call.1, call.2.map fun applied =>
    if applied then .success
    else if ∃ expected ∈ input.expectedRevisionDate, ∃ current ∈ input.find call.1,
        current.revisionDate ≠ expected then .conflict
    else .notFound)

end OrganizationGroupMutation

/-! ## The mutations -/

def createGroup (input : OrganizationGroupWriteInput) (mutationId : String) : Statement Db :=
  Db.organizationGroupsIn.insertSelect fun db _ =>
    if input.Manager db ∧ input.ValidRequestedAccess db input.collections input.users then
      [{ id := input.groupId
         organizationId := input.organizationId
         name := input.name
         revisionDate := input.now + 1
         lastMutationId := mutationId
         updatedAt := input.now }]
    else []

/-- `createOrganizationGroup`. -/
def createOrganizationGroup (input : OrganizationGroupWriteInput) (mutationId : String) (db : Db) :
    Db × Except Failure OrganizationGroupResult :=
  input.runMutation mutationId (createGroup input mutationId)
    (.replace input.collections input.users) db

def updateGroup (input : OrganizationGroupWriteInput) (mutationId : String) : Statement Db :=
  Db.organizationGroupsIn.update
    (fun db _ g => input.Group g ∧ input.Manager db ∧ input.AdminCurrentMembers db g ∧
      input.ValidRequestedAccess db input.collections input.users)
    fun _ g => { input.touch mutationId g with name := input.name }

/-- `updateOrganizationGroup`. -/
def updateOrganizationGroup (input : OrganizationGroupWriteInput) (mutationId : String) (db : Db) :
    Db × Except Failure OrganizationGroupResult :=
  input.runMutation mutationId (updateGroup input mutationId)
    (.replace input.collections input.users) db

/-- The root write of `mutateExisting`; a member to be removed must be in the group. -/
def touchGroup (input : OrganizationGroupMutation) (membershipId : Option String)
    (mutationId : String) : Statement Db :=
  Db.organizationGroupsIn.update
    (fun db _ g => input.Group g ∧ input.Manager db ∧ input.AdminCurrentMembers db g ∧
      ∀ id ∈ membershipId, ∃ link ∈ db.organizationGroupUsers.rows, link.groupId = g.id ∧
        link.organizationId = g.organizationId ∧ link.organizationUserId = id)
    fun _ => input.touch mutationId

/-- `deleteOrganizationGroup`. -/
def deleteOrganizationGroup (input : OrganizationGroupMutation) (mutationId : String) (db : Db) :
    Db × Except Failure OrganizationGroupResult :=
  input.runMutation mutationId (touchGroup input none mutationId) .delete db

/-- `removeOrganizationGroupMember`. -/
def removeOrganizationGroupMember (input : OrganizationGroupMutation) (membershipId : String)
    (mutationId : String) (db : Db) : Db × Except Failure OrganizationGroupResult :=
  input.runMutation mutationId (touchGroup input (some membershipId) mutationId)
    (.removeMember membershipId) db

end HonoWarden
