import HonoWarden.Organization.Authority

/-!
# What a request to memberships and groups writes on the side

Whatever a request does to its membership or group, its batch then writes the same side tables:
the audit event, the organization's revision, the polling revisions of accounts, collection grants,
group links and group grants, and at the end of a removal it deletes memberships. A relation that
allows these writes (`RequestFrame`) holds of a whole request as soon as it holds of its root
statement.

Results:
* **`runMutation_within`**, **`insertOrganizationMemberInvites_within`**,
  **`OrganizationGroupMutation.runMutation_within`**: one for each kind of batch.
-/

namespace HonoWarden

open Relational

/-- A relation between databases that allows the side writes of a request. -/
structure RequestFrame (R : Db → Db → Prop) : Prop where
  refl : ∀ db, R db db
  trans : ∀ {db db' db''}, R db db' → R db' db'' → R db db''
  events : ∀ db T, R db { db with auditEvents := T }
  organizations : ∀ db T, R db { db with organizations := T }
  grants : ∀ db T, R db { db with collectionUsers := T }
  groups : ∀ db T, R db { db with organizationGroups := T }
  links : ∀ db T, R db { db with organizationGroupUsers := T }
  groupGrants : ∀ db T, R db { db with collectionGroups := T }
  polled : ∀ (db : Db) (T : Table User) (hit : User → Prop) [DecidablePred hit] (now : Timestamp),
    T.rows = updateWhere hit (User.poll db now) db.users.rows → R db { db with users := T }
  left : ∀ (db : Db) (T : Table OrganizationUser) (hit : OrganizationUser → Prop)
    [DecidablePred hit], T.rows = deleteWhere hit db.organizationUsers.rows →
    R db { db with organizationUsers := T }

section Within

variable {R : Db → Db → Prop} (hR : RequestFrame R)

include hR

theorem auditStatement_within {event : AuditEvent} {auditId : String}
    {condition : Db → Nat → Prop} [∀ s n, Decidable (condition s n)] :
    (auditStatement event auditId condition).Within R :=
  TableIn.insertSelect_within hR.events

theorem revisionStatement_within {organizationId auditId : String} {now : Timestamp} :
    (revisionStatement organizationId now auditId).Within R :=
  TableIn.update_within hR.organizations

/-- The accounts that are polled. -/
theorem poll_within {hit : Db → Nat → User → Prop} [∀ s n, DecidablePred (hit s n)]
    {now : Timestamp} : (Db.usersIn.update hit fun db => User.poll db now).Within R := by
  intro s s' n r h
  obtain ⟨T, hT, rfl, -⟩ := TableIn.update_ok h
  exact hR.polled s T (hit s n) now hT

/-! ### Memberships -/

section Memberships

variable {input : MembershipTarget} {auditId : String}

theorem replaceGrants_within (grants : List CollectionGrant) :
    ∀ st ∈ input.replaceGrants auditId grants, st.Within R := by
  intro st hst
  simp only [MembershipTarget.replaceGrants, List.mem_cons, List.not_mem_nil, or_false] at hst
  rcases hst with rfl | rfl | rfl
  · exact TableIn.delete_within hR.grants
  · exact TableIn.insertReferencing_within hR.grants
  · exact assertThat_within hR.refl

theorem revise_within : ∀ st ∈ input.revise auditId, st.Within R := by
  intro st hst
  simp only [MembershipTarget.revise, List.mem_cons, List.not_mem_nil, or_false] at hst
  rcases hst with rfl | rfl | rfl | rfl
  · exact revisionStatement_within hR
  · exact assertThat_within hR.refl
  · exact poll_within hR
  · exact assertThat_within hR.refl

theorem leaveGroups_within : ∀ st ∈ input.leaveGroups auditId, st.Within R := by
  intro st hst
  simp only [MembershipTarget.leaveGroups, List.mem_cons, List.not_mem_nil, or_false] at hst
  rcases hst with rfl | rfl
  · exact TableIn.delete_within hR.links
  · exact assertThat_within hR.refl

theorem cascadeMembershipDelete_within (deleted : List OrganizationUser) (db : Db) :
    R db (cascadeMembershipDelete deleted db).1 := by
  unfold cascadeMembershipDelete
  exact hR.trans (TableIn.nestedDelete_within (t := Db.collectionUsersIn) hR.grants db)
    (TableIn.nestedDelete_within (t := Db.organizationGroupUsersIn) hR.links _)

theorem leave_within : ∀ st ∈ input.leave auditId, st.Within R := by
  intro st hst
  simp only [MembershipTarget.leave, List.mem_cons, List.not_mem_nil, or_false] at hst
  rcases hst with rfl | rfl
  · intro s s' n r h
    obtain ⟨T, hT, rfl, -⟩ := TableIn.deleteTriggering_ok h
    exact hR.trans (hR.left s T _ hT) (cascadeMembershipDelete_within hR _ _)
  · exact assertThat_within hR.refl

/-- **A mutation of one membership is in the frame when its first statement is.** -/
theorem runMutation_within {mutation : Statement Db} {grants : Option (List CollectionGrant)}
    {remove clearGroups : Bool} (hmutation : mutation.Within R) (db : Db) :
    R db (runMutation mutation input auditId grants remove clearGroups db).1 := by
  refine commit_within hR.refl hR.trans fun st hst => ?_
  simp only [mutationBatch, List.mem_append, List.mem_cons, List.not_mem_nil, or_false] at hst
  rcases hst with (((hst | hst) | hst) | hst) | hst
  · rcases hst with rfl | rfl | rfl
    · exact hmutation
    · exact auditStatement_within hR
    · exact assertThat_within hR.refl
  · cases grants with
    | none => cases hst
    | some grants => exact replaceGrants_within hR grants st hst
  · exact revise_within hR st hst
  · split at hst
    · exact leaveGroups_within hR st hst
    · cases hst
  · split at hst
    · exact leave_within hR st hst
    · cases hst

/-- **So is an invitation.** -/
theorem insertOrganizationMemberInvites_within {input : MemberInvitesInput}
    {auditIds : List String} (hinvites : (input.insertInvites auditIds).Within R) (db : Db) :
    R db (insertOrganizationMemberInvites input auditIds db).1 := by
  have hcommit : R db (commit (input.batch auditIds) input.interpret db).1 := by
    refine commit_within hR.refl hR.trans fun st hst => ?_
    rw [MemberInvitesInput.batch_eq, List.mem_cons, List.mem_append] at hst
    rcases hst with rfl | hst | hst
    · exact hinvites
    · obtain ⟨event, -, rfl⟩ := List.mem_map.mp hst
      exact auditStatement_within hR
    · simp only [MemberInvitesInput.inviteRest, List.mem_cons, List.not_mem_nil, or_false] at hst
      rcases hst with rfl | rfl | rfl | rfl | rfl
      · exact assertThat_within hR.refl
      · exact TableIn.insertReferencing_within hR.grants
      · exact assertThat_within hR.refl
      · exact revisionStatement_within hR
      · exact assertThat_within hR.refl
  unfold insertOrganizationMemberInvites
  split
  · exact hR.refl db
  · split <;> rename_i hcall <;> rw [hcall] at hcommit <;> exact hcommit

end Memberships

/-! ### Groups -/

namespace OrganizationGroupMutation

variable {input : OrganizationGroupMutation} {mutationId : String}

theorem revise_within (newUsers : List String) :
    ∀ st ∈ input.revise mutationId newUsers, st.Within R := by
  intro st hst
  simp only [revise, List.mem_cons, List.not_mem_nil, or_false] at hst
  rcases hst with rfl | rfl | rfl | rfl
  · exact revisionStatement_within hR
  · exact assertThat_within hR.refl
  · exact poll_within hR
  · exact assertThat_within hR.refl

theorem cascadeGroupDelete_within (deleted : List OrganizationGroup) (db : Db) :
    R db (cascadeGroupDelete deleted db).1 := by
  unfold cascadeGroupDelete
  exact hR.trans (TableIn.nestedDelete_within (t := Db.organizationGroupUsersIn) hR.links db)
    (TableIn.nestedDelete_within (t := Db.collectionGroupsIn) hR.groupGrants _)

theorem operate_within (operation : GroupOperation) :
    ∀ st ∈ input.operate mutationId operation, st.Within R := by
  intro st hst
  cases operation with
  | replace collections users =>
    simp only [operate, replace, List.mem_cons, List.not_mem_nil, or_false] at hst
    rcases hst with rfl | rfl | rfl | rfl | rfl | rfl
    · exact TableIn.delete_within hR.links
    · exact TableIn.insertReferencing_within hR.links
    · exact assertThat_within hR.refl
    · exact TableIn.delete_within hR.groupGrants
    · exact TableIn.insertReferencing_within hR.groupGrants
    · exact assertThat_within hR.refl
  | delete =>
    simp only [operate, List.mem_cons, List.not_mem_nil, or_false] at hst
    rcases hst with rfl | rfl
    · exact TableIn.deleteTriggering_within (t := Db.organizationGroupsIn) hR.groups hR.trans
        (cascadeGroupDelete_within hR)
    · exact assertThat_within hR.refl
  | removeMember membershipId =>
    simp only [operate, List.mem_cons, List.not_mem_nil, or_false] at hst
    rcases hst with rfl | rfl
    · exact TableIn.delete_within hR.links
    · exact assertThat_within hR.refl

/-- **And a mutation of one group.** -/
theorem runMutation_within {root : Statement Db} (hroot : root.Within R)
    (operation : GroupOperation) (db : Db) :
    R db (input.runMutation mutationId root operation db).1 := by
  change R db (commit (input.batch mutationId root operation) interpret db).1
  refine commit_within hR.refl hR.trans fun st hst => ?_
  simp only [batch, List.mem_append, List.mem_cons, List.not_mem_nil, or_false] at hst
  rcases hst with (hst | hst) | hst
  · rcases hst with rfl | rfl | rfl
    · exact hroot
    · exact auditStatement_within hR
    · exact assertThat_within hR.refl
  · exact revise_within hR operation.newUsers st hst
  · exact operate_within hR operation st hst

end OrganizationGroupMutation

/-- The requests to groups need nothing else. -/
theorem MembershipOp.groups_within (fingerprint : String → String) (db : Db) :
    (∀ input mutationId, R db ((createGroup input mutationId).run fingerprint db)) ∧
    (∀ input mutationId, R db ((updateGroup input mutationId).run fingerprint db)) ∧
    (∀ input mutationId, R db ((deleteGroup input mutationId).run fingerprint db)) ∧
    ∀ input membershipId mutationId,
      R db ((removeGroupMember input membershipId mutationId).run fingerprint db) :=
  ⟨fun input _ => OrganizationGroupMutation.runMutation_within hR
      (TableIn.insertSelect_within hR.groups) (.replace input.collections input.users) db,
    fun input _ => OrganizationGroupMutation.runMutation_within hR
      (TableIn.update_within hR.groups) (.replace input.collections input.users) db,
    fun _ _ => OrganizationGroupMutation.runMutation_within hR
      (TableIn.update_within hR.groups) .delete db,
    fun _ membershipId _ => OrganizationGroupMutation.runMutation_within hR
      (TableIn.update_within hR.groups) (.removeMember membershipId) db⟩

end Within

end HonoWarden
