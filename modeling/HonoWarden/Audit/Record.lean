import HonoWarden.Web.Base64
import HonoWarden.Web.Date

/-!
# Records of the organization audit

Model of the event names, the ids, the timestamps and `projectOrganizationAuditRecord` of
`src/domain/organization-audit.ts`. The fields of a record that have one value only (`object`,
`schemaVersion`, `outcome`) are constants.

Results:
* `isCanonicalTimestamp_iff`: a canonical timestamp is the text of a time in the years 0 to 9999;
* `projected_of_project`: what a projected record holds.
-/

namespace HonoWarden

open Web

/-! ## The code -/

/-- `OrganizationAuditTargetType`. -/
inductive OrganizationAuditTargetType where
  | organizationUser
  | organizationGroup
  | organization
  deriving DecidableEq, Repr

def OrganizationAuditTargetType.text : OrganizationAuditTargetType → JsString
  | .organizationUser => js "organization_user"
  | .organizationGroup => js "organization_group"
  | .organization => js "organization"

/-- `OrganizationAuditEventName`. -/
inductive OrganizationAuditEventName where
  | memberInvite
  | memberReinvite
  | memberRegistration
  | memberAccept
  | memberConfirm
  | memberUpdate
  | memberRevoke
  | memberRemove
  | groupCreate
  | groupUpdate
  | groupDelete
  | groupMemberRemove
  | policyUpdate
  | settingsUpdate
  | mailTestRequest
  deriving DecidableEq, Repr

def OrganizationAuditEventName.text : OrganizationAuditEventName → JsString
  | .memberInvite => js "organization.member.invite"
  | .memberReinvite => js "organization.member.reinvite"
  | .memberRegistration => js "organization.member.registration"
  | .memberAccept => js "organization.member.accept"
  | .memberConfirm => js "organization.member.confirm"
  | .memberUpdate => js "organization.member.update"
  | .memberRevoke => js "organization.member.revoke"
  | .memberRemove => js "organization.member.remove"
  | .groupCreate => js "organization.group.create"
  | .groupUpdate => js "organization.group.update"
  | .groupDelete => js "organization.group.delete"
  | .groupMemberRemove => js "organization.group.member.remove"
  | .policyUpdate => js "organization.policy.update"
  | .settingsUpdate => js "organization.settings.update"
  | .mailTestRequest => js "organization.mail_test.request"

/-- `organizationAuditEventNames`. -/
def organizationAuditEventNames : List OrganizationAuditEventName :=
  [.memberInvite, .memberReinvite, .memberRegistration, .memberAccept, .memberConfirm,
    .memberUpdate, .memberRevoke, .memberRemove, .groupCreate, .groupUpdate, .groupDelete,
    .groupMemberRemove, .policyUpdate, .settingsUpdate, .mailTestRequest]

/-- `organizationAuditEventTargets`. -/
def organizationAuditEventTargets : OrganizationAuditEventName → OrganizationAuditTargetType
  | .memberInvite => .organizationUser
  | .memberReinvite => .organizationUser
  | .memberRegistration => .organizationUser
  | .memberAccept => .organizationUser
  | .memberConfirm => .organizationUser
  | .memberUpdate => .organizationUser
  | .memberRevoke => .organizationUser
  | .memberRemove => .organizationUser
  | .groupCreate => .organizationGroup
  | .groupUpdate => .organizationGroup
  | .groupDelete => .organizationGroup
  | .groupMemberRemove => .organizationGroup
  | .policyUpdate => .organization
  | .settingsUpdate => .organization
  | .mailTestRequest => .organization

/-- `isEventName`: the name a text is. -/
def readEventName (text : JsString) : Option OrganizationAuditEventName :=
  organizationAuditEventNames.find? fun name => name.text = text

/-- `isOrganizationAuditId`, of a string. -/
def IsOrganizationAuditId (value : JsString) : Prop := IsUrlText 1 128 value

instance : DecidablePred IsOrganizationAuditId := fun _ =>
  inferInstanceAs (Decidable (IsUrlText _ _ _))

/-- `isCanonicalTimestamp`, of a string. -/
def IsCanonicalTimestamp (dateParse : DateParse) (value : JsString) : Prop :=
  matchesShape isoShape value = true ∧ ∃ t ∈ dateParse.parse value, toISOString t = value

instance (dateParse : DateParse) : DecidablePred (IsCanonicalTimestamp dateParse) := fun _ =>
  inferInstanceAs (Decidable (_ ∧ _))

/-- `OrganizationAuditRecord`. -/
structure OrganizationAuditRecord where
  id : JsString
  name : OrganizationAuditEventName
  occurredAt : JsString
  actorUserId : Option JsString
  targetType : OrganizationAuditTargetType
  targetId : Option JsString
  deriving DecidableEq

/-- `OrganizationAuditStoredProjection`. -/
structure OrganizationAuditStoredProjection where
  id : JsString
  schemaVersion : Int
  name : JsString
  outcome : JsString
  occurredAt : JsString
  actorUserId : Option JsString
  targetType : JsString
  targetId : Option JsString
  deriving DecidableEq

/-- `projectOrganizationAuditRecord`; `none` is its exception. -/
def projectOrganizationAuditRecord (dateParse : DateParse)
    (row : OrganizationAuditStoredProjection) : Option OrganizationAuditRecord :=
  (readEventName row.name).bind fun name =>
    if ¬ IsOrganizationAuditId row.id ∨ ¬ IsCanonicalTimestamp dateParse row.occurredAt ∨
        row.schemaVersion ≠ 1 ∨ row.outcome ≠ js "success" ∨
        row.targetType ≠ (organizationAuditEventTargets name).text then none
    else
      some
        { id := row.id
          name
          occurredAt := row.occurredAt
          actorUserId := row.actorUserId.filter fun id => IsOrganizationAuditId id
          targetType := organizationAuditEventTargets name
          targetId := row.targetId.filter fun id => IsOrganizationAuditId id }

/-! ## Names and timestamps -/

theorem mem_organizationAuditEventNames (name : OrganizationAuditEventName) :
    name ∈ organizationAuditEventNames := by
  cases name <;> decide

/-- Names are known by their texts. -/
theorem eventNameText_injective : Function.Injective OrganizationAuditEventName.text := by
  intro a b
  revert a b
  have hall : ∀ a ∈ organizationAuditEventNames, ∀ b ∈ organizationAuditEventNames,
      a.text = b.text → a = b := by
    decide
  exact fun a b => hall a (mem_organizationAuditEventNames a) b (mem_organizationAuditEventNames b)

theorem readEventName_eq_some_iff {text : JsString} {name : OrganizationAuditEventName} :
    readEventName text = some name ↔ name.text = text := by
  constructor
  · intro h
    exact of_decide_eq_true (List.find?_some h :)
  · rintro rfl
    have hsome : (readEventName name.text).isSome = true :=
      List.find?_isSome.mpr ⟨name, mem_organizationAuditEventNames name, decide_eq_true rfl⟩
    obtain ⟨found, hfound⟩ := Option.isSome_iff_exists.mp hsome
    have htext : found.text = name.text := of_decide_eq_true (List.find?_some hfound :)
    rw [hfound, eventNameText_injective htext]

/-- A canonical timestamp is the text of a time in the years 0 to 9999. -/
theorem isCanonicalTimestamp_iff {dateParse : DateParse} {value : JsString} :
    IsCanonicalTimestamp dateParse value ↔ ∃ t, IsFourDigitTime t ∧ toISOString t = value := by
  constructor
  · rintro ⟨hshape, t, -, rfl⟩
    exact ⟨t, (length_toISOString t).mp (length_of_matchesShape hshape), rfl⟩
  · rintro ⟨t, htime, rfl⟩
    exact ⟨matchesShape_toISOString htime, t, dateParse.parse_toISOString htime.isTime, rfl⟩

/-! ## Projected records -/

/-- What a projected record holds. -/
structure OrganizationAuditRecord.Projected (record : OrganizationAuditRecord) : Prop where
  id : IsOrganizationAuditId record.id
  occurredAt : ∃ t, IsFourDigitTime t ∧ toISOString t = record.occurredAt
  actorUserId : ∀ id ∈ record.actorUserId, IsOrganizationAuditId id
  targetType : record.targetType = organizationAuditEventTargets record.name
  targetId : ∀ id ∈ record.targetId, IsOrganizationAuditId id

theorem projected_of_project {dateParse : DateParse} {row : OrganizationAuditStoredProjection}
    {record : OrganizationAuditRecord}
    (h : projectOrganizationAuditRecord dateParse row = some record) : record.Projected := by
  obtain ⟨name, -, h⟩ := Option.bind_eq_some_iff.mp h
  split_ifs at h with hrefused
  simp only [not_or, not_not] at hrefused
  obtain rfl := Option.some.inj h
  refine ⟨hrefused.1, isCanonicalTimestamp_iff.mp hrefused.2.1, ?_, rfl, ?_⟩
  · exact fun id hid => of_decide_eq_true (Option.filter_eq_some_iff.mp hid).2
  · exact fun id hid => of_decide_eq_true (Option.filter_eq_some_iff.mp hid).2

end HonoWarden
