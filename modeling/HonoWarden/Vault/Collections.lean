import HonoWarden.Vault.Folders

/-!
# Writing collections

Model of the writes of `src/repositories/organization-repository.ts` to collections. Each is a batch
that revises the organization first, under the condition that an Owner asks, and the collections
after, under the condition that the statement before wrote one row.

`deleteOrganizationCollections` also asks that every cipher in a collection to be deleted is in one
that stays; the mappings and the grants of what is deleted go with it (`cascadeCollectionDelete`).
-/

namespace HonoWarden

open Relational

/-! ## Inputs -/

/-- `OrganizationCollectionWriteInput`. -/
structure OrganizationCollectionWriteInput extends OrganizationAccessContext where
  id : String
  organizationId : String
  organizationUserId : String
  encryptedName : String
  externalId : Option String
  now : Timestamp
  deriving DecidableEq, Repr

/-- `OrganizationCollectionUpdateInput`; an `externalId` of `some none` is the `null` that clears
the column, `none` leaves it. -/
structure OrganizationCollectionUpdateInput extends OrganizationAccessContext where
  id : String
  organizationId : String
  encryptedName : Option String
  externalId : Option (Option String)
  now : Timestamp
  deriving DecidableEq, Repr

/-- The input of `deleteOrganizationCollections`. -/
structure OrganizationCollectionsDeleteInput extends OrganizationAccessContext where
  organizationId : String
  collectionIds : List String
  now : Timestamp
  deriving DecidableEq, Repr

/-! ## Owners -/

/-- The actor is a confirmed Owner, as the membership named. -/
def ConfirmedOwner (db : Db) (context : OrganizationAccessContext)
    (organizationId organizationUserId : String) : Prop :=
  ∃ m ∈ confirmedMemberships db context, m.id = organizationUserId ∧
    m.organizationId = organizationId ∧ m.type = 0

instance (db : Db) (context : OrganizationAccessContext)
    (organizationId organizationUserId : String) :
    Decidable (ConfirmedOwner db context organizationId organizationUserId) :=
  inferInstanceAs (Decidable (∃ m ∈ confirmedMemberships db context, _))

/-- A grant by which the actor, an Owner, manages and writes a collection. -/
def OwnerGrant (db : Db) (context : OrganizationAccessContext) (a : OrganizationCollectionGrant) :
    Prop :=
  (∃ m ∈ confirmedMemberships db context, m.id = a.organizationUserId ∧
    m.organizationId = a.organizationId ∧ m.type = 0) ∧ a.manage = true ∧ a.readOnly = false

instance (db : Db) (context : OrganizationAccessContext) : DecidablePred (OwnerGrant db context) :=
  fun _ => inferInstanceAs (Decidable (_ ∧ _))

/-- `ownerPredicate`: the actor manages the collection as an Owner. -/
def OwnsCollection (db : Db) (context : OrganizationAccessContext)
    (organizationId collectionId : String) : Prop :=
  ∃ a ∈ accessibleOrganizationCollections db context, OwnerGrant db context a ∧
    a.collectionId = collectionId ∧ a.organizationId = organizationId

instance (db : Db) (context : OrganizationAccessContext) (organizationId collectionId : String) :
    Decidable (OwnsCollection db context organizationId collectionId) :=
  inferInstanceAs (Decidable (∃ a ∈ accessibleOrganizationCollections db context, _))

/-- The write of the organization every collection batch begins with. -/
def reviseOrganization (organizationId : String) (now : Timestamp) (condition : Db → Prop)
    [DecidablePred condition] : Statement Db :=
  Db.organizationsIn.update
    (fun db _ o => o.id = organizationId ∧ o.enabled = true ∧ condition db)
    fun _ o => { o with revisionDate := now, updatedAt := now }

/-! ## Creation -/

namespace OrganizationCollectionWriteInput

variable (input : OrganizationCollectionWriteInput)

/-- The actor is the Owner it says it is. -/
def Owner (db : Db) : Prop :=
  ConfirmedOwner db input.toOrganizationAccessContext input.organizationId input.organizationUserId

instance : DecidablePred input.Owner := fun _ =>
  inferInstanceAs (Decidable (ConfirmedOwner _ _ _ _))

def row : Collection where
  id := input.id
  organizationId := input.organizationId
  encryptedName := input.encryptedName
  externalId := input.externalId
  type := 0
  revisionDate := input.now

def grant : CollectionUser where
  collectionId := input.id
  organizationUserId := input.organizationUserId
  readOnly := false
  hidePasswords := false
  manage := true

def insertCollection : Statement Db :=
  Db.collectionsIn.insertReferencing
    (fun db changes => if changes = 1 ∧ input.Owner db then [input.row] else [])
    fun db c => ∃ o ∈ db.organizations.rows, o.id = c.organizationId

def insertGrant : Statement Db :=
  Db.collectionUsersIn.insertReferencing
    (fun db changes => if changes = 1 ∧ input.Owner db then [input.grant] else [])
    CollectionUser.Refers

end OrganizationCollectionWriteInput

/-- `createOrganizationCollection`; the answer repeats the input. -/
def createOrganizationCollection (input : OrganizationCollectionWriteInput) (db : Db) :
    Db × Except Failure Collection :=
  commit [reviseOrganization input.organizationId input.now input.Owner, input.insertCollection,
      input.insertGrant]
    (fun results =>
      if ∃ result ∈ results, result.metaChanges ≠ 1 then
        .error "Organization collection batch did not fully apply."
      else .ok input.row) db

/-! ## Update -/

namespace OrganizationCollectionUpdateInput

variable (input : OrganizationCollectionUpdateInput)

/-- `ownerPredicate`. -/
def Owner (db : Db) : Prop :=
  OwnsCollection db input.toOrganizationAccessContext input.organizationId input.id

instance : DecidablePred input.Owner := fun _ =>
  inferInstanceAs (Decidable (OwnsCollection _ _ _ _))

def apply (c : Collection) : Collection :=
  { c with
    encryptedName := input.encryptedName.getD c.encryptedName
    externalId := input.externalId.getD c.externalId
    revisionDate := input.now }

def updateCollection : Statement Db :=
  Db.collectionsIn.update
    (fun db changes c => c.id = input.id ∧ c.organizationId = input.organizationId ∧ changes = 1 ∧
      input.Owner db)
    fun _ => input.apply

/-- `findOwnerOrganizationCollection`: the collection, if the actor still owns it. -/
def findOwned (db : Db) : Option Collection :=
  db.collections.rows.find? fun c => c.id = input.id ∧ c.organizationId = input.organizationId ∧
    input.Owner db

end OrganizationCollectionUpdateInput

/-- `updateOrganizationCollection`, with the read that follows it. -/
def updateOrganizationCollection (input : OrganizationCollectionUpdateInput) (db : Db) :
    Db × Except Failure (Option Collection) :=
  let call := commit [reviseOrganization input.organizationId input.now input.Owner,
      input.updateCollection]
    (fun results => .ok (decide (∃ result ∈ results, result.metaChanges ≠ 1))) db
  (call.1, call.2.bind fun incomplete =>
    if incomplete then .ok none
    else
      match input.findOwned call.1 with
      | none => .error (.thrown "Updated organization collection could not be read back.")
      | some updated => .ok (some updated))

/-! ## Deletion -/

/-- ON DELETE CASCADE of `collection_users`, `collection_ciphers` and `collection_groups`. -/
def cascadeCollectionDelete (deleted : List Collection) (db : Db) : Db × Nat :=
  let users := Db.collectionUsersIn.nestedDelete
    (fun a => ∃ c ∈ deleted, a.collectionId = c.id) db
  let mappings := Db.collectionCiphersIn.nestedDelete
    (fun m => ∃ c ∈ deleted, m.collectionId = c.id) users.1
  let groups := Db.collectionGroupsIn.nestedDelete
    (fun a => ∃ c ∈ deleted, a.collectionId = c.id ∧ a.organizationId = c.organizationId)
    mappings.1
  (groups.1, users.2 + mappings.2 + groups.2)

namespace OrganizationCollectionsDeleteInput

variable (input : OrganizationCollectionsDeleteInput)

/-- `COUNT(DISTINCT access.collectionId)`. -/
def ownedCount (db : Db) : Nat :=
  (((accessibleOrganizationCollections db input.toOrganizationAccessContext).filter fun a =>
    a.organizationId = input.organizationId ∧ OwnerGrant db input.toOrganizationAccessContext a ∧
      a.collectionId ∈ input.collectionIds).map
        OrganizationCollectionGrant.collectionId).dedup.length

/-- A mapping into a collection of the organization that stays. -/
def Survives (db : Db) (c : Cipher) : Prop :=
  ∃ m ∈ db.collectionCiphers.rows, m.cipherId = c.id ∧ m.collectionId ∉ input.collectionIds ∧
    ∃ collection ∈ db.collections.rows, collection.id = m.collectionId ∧
      collection.organizationId = input.organizationId

instance (db : Db) : DecidablePred (input.Survives db) := fun _ =>
  inferInstanceAs (Decidable (∃ m ∈ db.collectionCiphers.rows, _))

/-- The actor owns every collection named, and no cipher is left without one. -/
def Deletable (db : Db) : Prop :=
  input.ownedCount db = input.collectionIds.length ∧
    ¬ ∃ m ∈ db.collectionCiphers.rows, m.collectionId ∈ input.collectionIds ∧
      ∃ c ∈ db.ciphers.rows, c.id = m.cipherId ∧ c.organizationId = some input.organizationId ∧
        ¬ input.Survives db c

instance : DecidablePred input.Deletable := fun _ => inferInstanceAs (Decidable (_ ∧ _))

/-- The WHERE of the DELETE. -/
def Hit (db : Db) (changes : Nat) (c : Collection) : Prop :=
  c.organizationId = input.organizationId ∧ c.id ∈ input.collectionIds ∧ changes = 1 ∧
    OwnsCollection db input.toOrganizationAccessContext c.organizationId c.id

instance (db : Db) (changes : Nat) : DecidablePred (input.Hit db changes) := fun _ =>
  inferInstanceAs (Decidable (_ ∧ _))

def deleteCollections : Statement Db :=
  Db.collectionsIn.deleteTriggering input.Hit (fun c => [[.text c.id]]) cascadeCollectionDelete

/-- Whether every collection named is deleted. -/
def interpret (results : List StatementResult) : Except String Bool :=
  .ok (results.length = 2 ∧ results[0]?.map StatementResult.metaChanges = some 1 ∧
    results[1]?.map (fun result => result.rows.length) = some input.collectionIds.length)

end OrganizationCollectionsDeleteInput

/-- `deleteOrganizationCollections`. -/
def deleteOrganizationCollections (input : OrganizationCollectionsDeleteInput) (db : Db) :
    Db × Except Failure Bool :=
  if input.collectionIds = [] ∨ 100 < input.collectionIds.length ∨ ¬ input.collectionIds.Nodup then
    (db, .ok false)
  else
    commit [reviseOrganization input.organizationId input.now input.Deletable,
      input.deleteCollections] input.interpret db

end HonoWarden
