import HonoWarden.Organization.Applied

/-!
# Access to the collections of organizations

Model of `src/repositories/organization-collection-access-sql.ts`, the common table expressions
every read of organization data starts from, and of `createOrganizationFoundation`
(`src/repositories/organization-repository.ts`), which starts an organization.

A member reaches a collection by a direct grant or by a grant to one of its groups
(`OrganizationUser.collectionGrants`). Several grants of one collection add up
(`OrganizationUser.accessibleCollections`): read-only and hidden passwords only when every grant
says so, management when one does.
-/

namespace HonoWarden

open Relational

/-! ## The actor -/

/-- `OrganizationAccessContext` of an account. -/
structure OrganizationAccessContext where
  userId : String
  actor : Option MfaSessionActor := none
  deriving DecidableEq, Repr

/-- `organizationAccessActorValues`: the session of another account is no session. -/
def OrganizationAccessContext.requested (context : OrganizationAccessContext) : RequestedActor where
  userId := context.userId
  sessionId := context.actor.bind fun actor =>
    if actor.userId = context.userId then some actor.sessionId else none
  deviceIdentifier := context.actor.bind fun actor =>
    if actor.userId = context.userId then some actor.deviceIdentifier else none

/-- `active_organization_actor` has a row: the account is enabled, and a session, once given, is
open. -/
def ActiveOrganizationActor (db : Db) (context : OrganizationAccessContext) : Prop :=
  (∃ u ∈ db.users.rows, u.id = context.userId ∧ u.disabledAt = none) ∧
    (context.actor = none ∨ ∃ d ∈ db.devices.rows, context.requested.Holds d)

instance (db : Db) (context : OrganizationAccessContext) :
    Decidable (ActiveOrganizationActor db context) :=
  inferInstanceAs (Decidable (_ ∧ _))

/-- A row of `confirmed_memberships`. -/
def ConfirmedMembership (db : Db) (context : OrganizationAccessContext) (m : OrganizationUser) :
    Prop :=
  OrganizationEnabled db m.organizationId ∧ ActiveOrganizationActor db context ∧
    m.userId = some context.userId ∧ m.status = 2 ∧ (m.type = 0 ∨ m.type = 1 ∨ m.type = 2) ∧
    OrganizationPolicyAllows db m.organizationId context.requested

instance (db : Db) (context : OrganizationAccessContext) :
    DecidablePred (ConfirmedMembership db context) := fun _ =>
  inferInstanceAs (Decidable (_ ∧ _))

/-- `confirmed_memberships`. -/
def confirmedMemberships (db : Db) (context : OrganizationAccessContext) : List OrganizationUser :=
  db.organizationUsers.rows.filter fun m => ConfirmedMembership db context m

/-! ## Grants -/

/-- A row of `organization_collection_grants`. -/
structure OrganizationCollectionGrant where
  collectionId : String
  organizationId : String
  organizationUserId : String
  readOnly : Bool
  hidePasswords : Bool
  manage : Bool
  deriving DecidableEq, Repr

namespace OrganizationUser

variable (db : Db) (m : OrganizationUser)

/-- The collections of the member's organization under an id. -/
def collectionsNamed (collectionId : String) : List Collection :=
  db.collections.rows.filter fun c => c.id = collectionId ∧ c.organizationId = m.organizationId

/-- The grants to the member itself. -/
def directGrants : List OrganizationCollectionGrant :=
  (db.collectionUsers.rows.filter fun a => a.organizationUserId = m.id).flatMap fun a =>
    (m.collectionsNamed db a.collectionId).map fun c =>
      ⟨c.id, c.organizationId, m.id, a.readOnly, a.hidePasswords, a.manage⟩

/-- The groups of the member. -/
def groups : List OrganizationGroup :=
  (db.organizationGroupUsers.rows.filter fun link =>
    link.organizationUserId = m.id ∧ link.organizationId = m.organizationId).flatMap fun link =>
      db.organizationGroups.rows.filter fun g =>
        g.id = link.groupId ∧ g.organizationId = m.organizationId

/-- The grants to the groups of the member. -/
def groupGrants : List OrganizationCollectionGrant :=
  (m.groups db).flatMap fun g =>
    (db.collectionGroups.rows.filter fun a =>
      a.groupId = g.id ∧ a.organizationId = m.organizationId).flatMap fun a =>
        (m.collectionsNamed db a.collectionId).map fun c =>
          ⟨c.id, c.organizationId, m.id, a.readOnly, a.hidePasswords, a.manage⟩

/-- All grants that reach the member. -/
def collectionGrants : List OrganizationCollectionGrant := m.directGrants db ++ m.groupGrants db

end OrganizationUser

/-- `organization_collection_grants`. -/
def organizationCollectionGrants (db : Db) (context : OrganizationAccessContext) :
    List OrganizationCollectionGrant :=
  (confirmedMemberships db context).flatMap fun m => m.collectionGrants db

/-- `GROUP BY collectionId, organizationId, organizationUserId`: grants of one collection add up
to the widest. -/
def aggregateGrants (grants : List OrganizationCollectionGrant) :
    List OrganizationCollectionGrant :=
  (grants.map fun g => (g.collectionId, g.organizationId, g.organizationUserId)).dedup.map
    fun key =>
      let group := grants.filter fun g =>
        (g.collectionId, g.organizationId, g.organizationUserId) = key
      ⟨key.1, key.2.1, key.2.2, group.all OrganizationCollectionGrant.readOnly,
        group.all OrganizationCollectionGrant.hidePasswords,
        group.any OrganizationCollectionGrant.manage⟩

/-- `accessible_organization_collections`. -/
def accessibleOrganizationCollections (db : Db) (context : OrganizationAccessContext) :
    List OrganizationCollectionGrant :=
  aggregateGrants (organizationCollectionGrants db context)

/-- What a membership can reach, whoever asks. -/
def OrganizationUser.accessibleCollections (db : Db) (m : OrganizationUser) :
    List OrganizationCollectionGrant :=
  aggregateGrants (m.collectionGrants db)

/-! ## The foundation of an organization -/

/-- `OrganizationFoundationInput`. -/
structure OrganizationFoundationInput extends OrganizationAccessContext where
  restrictCreation : Bool := false
  organizationId : String
  organizationUserId : String
  collectionId : String
  email : String
  name : String
  billingEmail : Option String
  planType : Int
  orgKey : String
  publicKey : String
  privateKey : String
  encryptedCollectionName : String
  now : Timestamp
  deriving DecidableEq, Repr

namespace OrganizationFoundationInput

variable (input : OrganizationFoundationInput)

/-- The account may start an organization: anyone, or, where creation is restricted, the Owner of
an enabled one and the very first. -/
def Allowed (db : Db) : Prop :=
  ActiveOrganizationActor db input.toOrganizationAccessContext ∧
    (input.restrictCreation = false ∨ db.organizations.rows = [] ∨
      ∃ owner ∈ db.organizationUsers.rows, OrganizationEnabled db owner.organizationId ∧
        owner.userId = some input.userId ∧ owner.status = 2 ∧ owner.type = 0 ∧
        OrganizationPolicyAllows db owner.organizationId
          input.toOrganizationAccessContext.requested)

instance (db : Db) : Decidable (input.Allowed db) := inferInstanceAs (Decidable (_ ∧ _))

def organization : Organization where
  id := input.organizationId
  name := input.name
  billingEmail := input.billingEmail
  planType := input.planType
  publicKey := some input.publicKey
  privateKey := some input.privateKey
  enabled := true
  useTotp := true
  revisionDate := input.now
  createdAt := input.now
  updatedAt := input.now

def owner : OrganizationUser where
  id := input.organizationUserId
  organizationId := input.organizationId
  userId := some input.userId
  email := input.email
  orgKey := some input.orgKey
  status := 2
  type := 0
  permissions := none
  updatedAt := input.now

def collection : Collection where
  id := input.collectionId
  organizationId := input.organizationId
  encryptedName := input.encryptedCollectionName
  externalId := none
  type := 0
  revisionDate := input.now

def grant : CollectionUser where
  collectionId := input.collectionId
  organizationUserId := input.organizationUserId
  readOnly := false
  hidePasswords := false
  manage := true

/-- `created_organization`. -/
def Created (db : Db) : Prop :=
  ∃ o ∈ db.organizations.rows, o.id = input.organizationId ∧ o.revisionDate = input.now ∧
    o.createdAt = input.now

instance (db : Db) : Decidable (input.Created db) :=
  inferInstanceAs (Decidable (∃ o ∈ db.organizations.rows, _))

/-- `created_owner`, a member of `created_organization`. -/
def OwnerCreated (db : Db) : Prop :=
  ∃ m ∈ db.organizationUsers.rows, m.organizationId = input.organizationId ∧
    m.id = input.organizationUserId ∧ m.userId = some input.userId ∧ m.status = 2 ∧ m.type = 0

instance (db : Db) : Decidable (input.OwnerCreated db) :=
  inferInstanceAs (Decidable (∃ m ∈ db.organizationUsers.rows, _))

/-- `created_collection`, of `created_organization`. -/
def CollectionCreated (db : Db) : Prop :=
  ∃ c ∈ db.collections.rows, c.organizationId = input.organizationId ∧
    c.id = input.collectionId ∧ c.revisionDate = input.now

instance (db : Db) : Decidable (input.CollectionCreated db) :=
  inferInstanceAs (Decidable (∃ c ∈ db.collections.rows, _))

/-- The batch of `createOrganizationFoundation`: each statement asks for the one before. -/
def batch : List (Statement Db) :=
  [Db.organizationsIn.insertSelect fun db _ =>
      if input.Allowed db then [input.organization] else [],
    Db.organizationUsersIn.insertReferencing
      (fun db changes =>
        if changes = 1 ∧ ActiveOrganizationActor db input.toOrganizationAccessContext ∧
          input.Created db then [input.owner] else [])
      fun db m => (∃ o ∈ db.organizations.rows, o.id = m.organizationId) ∧
        ∃ u ∈ db.users.rows, m.userId = some u.id,
    Db.collectionsIn.insertReferencing
      (fun db changes =>
        if changes = 1 ∧ ActiveOrganizationActor db input.toOrganizationAccessContext ∧
          input.Created db ∧ input.OwnerCreated db then [input.collection] else [])
      fun db c => ∃ o ∈ db.organizations.rows, o.id = c.organizationId,
    Db.collectionUsersIn.insertReferencing
      (fun db changes =>
        if changes = 1 ∧ ActiveOrganizationActor db input.toOrganizationAccessContext ∧
          input.Created db ∧ input.OwnerCreated db ∧ input.CollectionCreated db then [input.grant]
        else [])
      CollectionUser.Refers]

/-- The reading of the batch: `false` where creation is restricted. -/
def interpret (results : List StatementResult) : Except String Bool :=
  match results with
  | organization :: rest =>
    if input.restrictCreation = true ∧ organization.metaChanges = 0 then
      if ∃ result ∈ rest, result.metaChanges ≠ 0 then
        .error "Restricted organization foundation changed state."
      else .ok false
    else if ∃ result ∈ results, result.metaChanges ≠ 1 then
      .error "Organization foundation batch did not fully apply."
    else .ok true
  | [] => .error "Organization foundation batch did not fully apply."

end OrganizationFoundationInput

/-- `createOrganizationFoundation`; the answer repeats the input, so only whether there is one is
kept. -/
def createOrganizationFoundation (input : OrganizationFoundationInput) (db : Db) :
    Db × Except Failure Bool :=
  commit input.batch input.interpret db

end HonoWarden
