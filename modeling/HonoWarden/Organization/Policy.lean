import HonoWarden.Mfa.Totp

/-!
# The required-TOTP policy of an organization

Model of `src/repositories/organization-policy-sql.ts` and of `updateOrganizationPolicy`
(`src/repositories/organization-policy-repository.ts`).

A policy row that is missing counts as disabled. Its update is authorised inside the batch: the
actor is a confirmed Owner with an open session, and holds a current TOTP proof unless the request
disables a policy that is not enabled anyway.
-/

namespace HonoWarden

open Relational

/-! ## Policy predicates -/

/-- `WITH requested_actor AS (…)`. -/
structure RequestedActor where
  userId : String
  sessionId : Option String := none
  deviceIdentifier : Option String := none
  deriving DecidableEq, Repr

/-- The unrevoked device of the actor's session family; NULL names no device. -/
def RequestedActor.Holds (actor : RequestedActor) (d : Device) : Prop :=
  d.userId = actor.userId ∧ actor.deviceIdentifier = some d.identifier ∧
    d.sessionId ≠ none ∧ d.sessionId = actor.sessionId ∧ d.revokedAt = none

instance (actor : RequestedActor) : DecidablePred actor.Holds := fun _ =>
  inferInstanceAs (Decidable (_ ∧ _))

/-- `organizationSessionTotpVerifiedSql`, for the account and session of the actor. -/
def OrganizationSessionTotpVerified (db : Db) (actor : RequestedActor) : Prop :=
  ∃ t ∈ db.userTotp.rows, ∃ d ∈ db.devices.rows, d.userId = t.userId ∧ t.userId = actor.userId ∧
    t.Enrolled ∧ actor.Holds d ∧ d.mfaTotpCredentialGeneration = t.credentialGeneration ∧
    d.mfaVerifiedAt ≠ none

instance (db : Db) (actor : RequestedActor) : Decidable (OrganizationSessionTotpVerified db actor) :=
  inferInstanceAs (Decidable (∃ t ∈ db.userTotp.rows, _))

/-- The organization requires TOTP. -/
def OrganizationPolicyRequired (db : Db) (organizationId : String) : Prop :=
  ∃ p ∈ db.organizationPolicies.rows, p.organizationId = organizationId ∧ p.enabled = true

instance (db : Db) (organizationId : String) :
    Decidable (OrganizationPolicyRequired db organizationId) :=
  inferInstanceAs (Decidable (∃ p ∈ db.organizationPolicies.rows, _))

/-- `organizationTotpEnrollmentAllowsSql`; the account may be NULL. -/
def OrganizationTotpEnrollmentAllows (db : Db) (organizationId : String)
    (userId : Option String) : Prop :=
  ¬ OrganizationPolicyRequired db organizationId ∨
    ∃ t ∈ db.userTotp.rows, userId = some t.userId ∧ t.Enrolled

instance (db : Db) (organizationId : String) (userId : Option String) :
    Decidable (OrganizationTotpEnrollmentAllows db organizationId userId) :=
  inferInstanceAs (Decidable (_ ∨ _))

/-- `organizationPolicyAllowsSql`. -/
def OrganizationPolicyAllows (db : Db) (organizationId : String) (actor : RequestedActor) : Prop :=
  ¬ OrganizationPolicyRequired db organizationId ∨ OrganizationSessionTotpVerified db actor

instance (db : Db) (organizationId : String) (actor : RequestedActor) :
    Decidable (OrganizationPolicyAllows db organizationId actor) :=
  inferInstanceAs (Decidable (_ ∨ _))

/-! ## Revisions

The mutations of organizations move `revision_date` one millisecond past everything a client may
have seen. -/

/-- `(SELECT MAX(revision_date) …)` over the given rows, or `default`. -/
def latestRevision (revisions : List Timestamp) (default : Timestamp) : Timestamp :=
  revisions.max?.getD default

/-- The organizations an account has a membership in. -/
def membershipOrganizations (db : Db) (userId : String) : List String :=
  (db.organizationUsers.rows.filter fun m => m.userId = some userId).map
    OrganizationUser.organizationId

/-- The `MAX(…)` of the polling revision of an account. -/
def pollingRevision (db : Db) (now : Timestamp) (u : User) : Timestamp :=
  let organizations := membershipOrganizations db u.id
  [u.revisionDate, now,
    latestRevision ((db.folders.rows.filter fun f => f.userId = u.id).map Folder.revisionDate)
      u.revisionDate,
    latestRevision ((db.ciphers.rows.filter fun c =>
      c.userId = u.id ∧ c.organizationId = none).map Cipher.revisionDate) u.revisionDate,
    latestRevision ((db.organizations.rows.filter fun o =>
      o.id ∈ organizations).map Organization.revisionDate) u.revisionDate,
    latestRevision ((db.ciphers.rows.filter fun c =>
      ∃ o ∈ organizations, c.organizationId = some o).map Cipher.revisionDate)
      u.revisionDate].foldl max 0

/-- The account with its polling revision moved on. -/
def User.poll (db : Db) (now : Timestamp) (u : User) : User :=
  { u with revisionDate := pollingRevision db now u + 1 }

/-! ## The update -/

/-- The input of `updateOrganizationPolicy`; `OrganizationPolicyActor` has the fields of
`MfaSessionActor`. -/
structure OrganizationPolicyUpdateInput where
  organizationId : String
  actor : MfaSessionActor
  enabled : Bool
  now : Timestamp
  requestId : String
  deriving DecidableEq, Repr

/-- `OrganizationPolicyRecord`. -/
structure OrganizationPolicyRecord where
  id : String
  organizationId : String
  enabled : Bool
  revisionDate : Timestamp
  deriving DecidableEq, Repr

/-- The results of `updateOrganizationPolicy`. -/
inductive OrganizationPolicyUpdateResult where
  | success (policy : OrganizationPolicyRecord)
  | mfaRequired
  | notFound
  deriving DecidableEq, Repr

/-- `actorBindings`. -/
def MfaSessionActor.requested (actor : MfaSessionActor) : RequestedActor where
  userId := actor.userId
  sessionId := some actor.sessionId
  deviceIdentifier := some actor.deviceIdentifier

/-- `actorMembership` of a confirmed Owner, with `activeActorSession`. -/
def PolicyOwner (db : Db) (actor : RequestedActor) (organizationId : String) : Prop :=
  ∃ o ∈ db.organizations.rows, o.id = organizationId ∧ o.enabled = true ∧
    ∃ m ∈ db.organizationUsers.rows, m.organizationId = o.id ∧ m.userId = some actor.userId ∧
      m.status = 2 ∧ m.type = 0 ∧
      (∃ u ∈ db.users.rows, m.userId = some u.id ∧ u.disabledAt = none) ∧
      ∃ d ∈ db.devices.rows, actor.Holds d

instance (db : Db) (actor : RequestedActor) (organizationId : String) :
    Decidable (PolicyOwner db actor organizationId) :=
  inferInstanceAs (Decidable (∃ o ∈ db.organizations.rows, _))

namespace OrganizationPolicyUpdateInput

variable (input : OrganizationPolicyUpdateInput)

/-- The request may write the policy. -/
def Authorized (db : Db) : Prop :=
  PolicyOwner db input.actor.requested input.organizationId ∧
    (input.enabled = false ∧ ¬ OrganizationPolicyRequired db input.organizationId ∨
      OrganizationSessionTotpVerified db input.actor.requested)

instance (db : Db) : Decidable (input.Authorized db) := inferInstanceAs (Decidable (_ ∧ _))

/-- The row inserted where there is none. -/
def row (policyId auditId : String) : OrganizationPolicy where
  id := policyId
  organizationId := input.organizationId
  enabled := input.enabled
  revisionDate := input.now
  updatedAt := input.now
  lastMutationId := some auditId

/-- `ON CONFLICT(organization_id, type) DO UPDATE`. -/
def overwrite (p excluded : OrganizationPolicy) : OrganizationPolicy :=
  { p with
    enabled := excluded.enabled
    revisionDate := max p.revisionDate excluded.revisionDate + 1
    updatedAt := excluded.updatedAt
    lastMutationId := excluded.lastMutationId }

/-- The event a policy row is recorded with. -/
def auditEvent (auditId : String) (p : OrganizationPolicy) : AuditEventRow where
  id := auditId
  name := "organization.policy.update"
  outcome := "success"
  requestId := input.requestId
  occurredAt := input.now
  actorUserId := some input.actor.userId
  actorDeviceIdentifier := some input.actor.deviceIdentifier
  targetType := some "organization"
  targetId := some input.organizationId
  contextJson := some [("organizationId", .text input.organizationId), ("policyType", .number 0),
    ("enabled", .boolean p.enabled), ("policyRevision", .instant p.revisionDate)]

/-- The organization with its revision moved past that of its policy. -/
def reviseOrganization (db : Db) (o : Organization) : Organization :=
  { o with
    revisionDate := ((db.organizationPolicies.rows.filter fun p => p.organizationId = o.id).map
      OrganizationPolicy.revisionDate).foldl max (max o.revisionDate input.now) + 1
    updatedAt := input.now }

end OrganizationPolicyUpdateInput

/-- The row of `audit_events` that a batch marks its success with. -/
def Marked (db : Db) (auditId : String) : Prop := ∃ e ∈ db.auditEvents.rows, e.id = auditId

instance (db : Db) (auditId : String) : Decidable (Marked db auditId) :=
  inferInstanceAs (Decidable (∃ e ∈ db.auditEvents.rows, _))

section Statements

variable (input : OrganizationPolicyUpdateInput) (policyId auditId : String)

def upsertPolicy : Statement Db :=
  Db.organizationPoliciesIn.upsertRow
    (fun db _ => if input.Authorized db then some (input.row policyId auditId) else none)
    (fun p excluded => some (OrganizationPolicyUpdateInput.overwrite p excluded)) fun _ => []

def auditPolicy : Statement Db :=
  Db.auditEventsIn.insertSelect fun db changes =>
    (db.organizationPolicies.rows.filter fun p =>
      p.organizationId = input.organizationId ∧ changes = 1).map (input.auditEvent auditId)

def requirePolicyAudit : Statement Db :=
  assertThat fun db _ => ¬ ((∃ p ∈ db.organizationPolicies.rows,
    p.organizationId = input.organizationId ∧ p.lastMutationId = some auditId) ∧
    ¬ Marked db auditId)

def revisePolicyOrganization : Statement Db :=
  Db.organizationsIn.update (fun db _ o => o.id = input.organizationId ∧ Marked db auditId)
    input.reviseOrganization

def pollPolicyMembers : Statement Db :=
  Db.usersIn.update
    (fun db _ u => (∃ m ∈ db.organizationUsers.rows,
      m.organizationId = input.organizationId ∧ m.userId = some u.id) ∧ Marked db auditId)
    fun db => User.poll db input.now

def readWrittenPolicy : Statement Db :=
  select fun db => (db.organizationPolicies.rows.filter fun p =>
    p.organizationId = input.organizationId ∧ Marked db auditId).map fun p =>
      [.text p.id, .text p.organizationId, .integer p.enabled.toInt, .integer p.revisionDate]

end Statements

/-- `fromRow`. -/
def policyFromRow : List Value → Option OrganizationPolicyRecord
  | [.text id, .text organizationId, .integer enabled, .integer revisionDate] =>
    some ⟨id, organizationId, enabled = 1, revisionDate.toNat⟩
  | _ => none

/-- The reading of the batch; `none` when it wrote nothing. -/
def interpretPolicyBatch :
    List StatementResult → Except String (Option OrganizationPolicyRecord)
  | [mutation, audit, _, organization, _, read] =>
    if mutation.metaChanges = 1 then
      match read.rows.head?.bind policyFromRow with
      | some policy =>
        if audit.metaChanges ≠ 1 ∨ organization.metaChanges ≠ 1 then
          .error "Organization policy audit or revision invariant failed."
        else .ok (some policy)
      | none => .error "Organization policy audit or revision invariant failed."
    else if mutation.metaChanges ≠ 0 ∨ audit.metaChanges ≠ 0 then
      .error "Organization policy mutation affected an invalid row count."
    else .ok none
  | _ => .error "Organization policy mutation batch did not fully apply."

/-- The batch of `updateOrganizationPolicy`. -/
def policyBatch (input : OrganizationPolicyUpdateInput) (auditId policyId : String) :
    List (Statement Db) :=
  [upsertPolicy input policyId auditId, auditPolicy input auditId,
    requirePolicyAudit input auditId, revisePolicyOrganization input auditId,
    pollPolicyMembers input auditId, readWrittenPolicy input auditId]

/-- `updateOrganizationPolicy`, which draws `auditId` and `policyId`; the read that tells a refused
Owner from a stranger is taken on the database the batch leaves. -/
def updateOrganizationPolicy (input : OrganizationPolicyUpdateInput) (auditId policyId : String)
    (db : Db) : Db × Except Failure OrganizationPolicyUpdateResult :=
  let call := commit (policyBatch input auditId policyId) interpretPolicyBatch db
  (call.1, call.2.map fun
    | some policy => .success policy
    | none =>
      if PolicyOwner call.1 input.actor.requested input.organizationId then .mfaRequired
      else .notFound)

end HonoWarden
