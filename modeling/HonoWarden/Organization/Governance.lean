import HonoWarden.Organization.Owners

/-!
# No organization loses its last usable Owner

The mutations of memberships, policies, TOTP factors and accounts as one system
(`governanceSystem`), and the result that holds over its runs: **`usableOwner_kept`**. From any
state, whatever requests follow in whatever order, an enabled organization that has a usable Owner
still has one.

Each operation is `Governed` by one lemma. Where the guarded statement of a batch does nothing, the
rest of the batch must do nothing either: it asks for the audit event or the purge operation the
batch would have left, whose id was drawn for it (`Db.operationIds`).
-/

namespace HonoWarden

open Relational

variable {db db' : Db} {drawn : List String}

/-- Nobody goes. -/
abbrev Nobody : String → Option String → Prop := fun _ _ => False

/-- The membership `membershipId` goes. -/
abbrev Member (membershipId : String) : String → Option String → Prop := fun id _ =>
  id = membershipId

/-- The account `userId` goes. -/
abbrev Account (userId : String) : String → Option String → Prop := fun _ user =>
  user = some userId

theorem OwnersKept.notMarked {gone : String → Option String → Prop} {auditId : String}
    (h : OwnersKept gone [] db db') (hmarked : ¬ Marked db auditId) : ¬ Marked db' auditId := by
  rintro ⟨e, he, hid⟩
  rcases h.event e he with he | hdrawn
  · exact hmarked ⟨e, he, hid⟩
  · cases hdrawn

/-! ## Memberships -/

section Memberships

variable (input : MembershipTarget) (auditId : String)

theorem replaceGrants_kept (grants : List CollectionGrant) :
    ∀ st ∈ input.replaceGrants auditId grants, st.Within (OwnersKept Nobody []) := by
  rintro st hst
  simp only [MembershipTarget.replaceGrants, List.mem_cons, List.not_mem_nil, or_false] at hst
  rcases hst with rfl | rfl | rfl
  · exact TableIn.delete_within fun _ _ => .of_tables rfl rfl rfl rfl rfl rfl rfl
  · exact TableIn.insertReferencing_within fun _ _ => .of_tables rfl rfl rfl rfl rfl rfl rfl
  · exact assertThat_within .refl

theorem revisionStatement_kept (organizationId : String) (now : Timestamp) :
    (revisionStatement organizationId now auditId).Within (OwnersKept Nobody []) :=
  organizations_update_kept fun _ _ => ⟨rfl, rfl⟩

theorem revise_kept : ∀ st ∈ input.revise auditId, st.Within (OwnersKept Nobody []) := by
  rintro st hst
  simp only [MembershipTarget.revise, List.mem_cons, List.not_mem_nil, or_false] at hst
  rcases hst with rfl | rfl | rfl | rfl
  · exact revisionStatement_kept auditId input.organizationId input.now
  · exact assertThat_within .refl
  · exact users_updateReturning_kept fun _ _ => ⟨rfl, id⟩
  · exact assertThat_within .refl

theorem leaveGroups_kept : ∀ st ∈ input.leaveGroups auditId, st.Within (OwnersKept Nobody []) := by
  rintro st hst
  simp only [MembershipTarget.leaveGroups, List.mem_cons, List.not_mem_nil, or_false] at hst
  rcases hst with rfl | rfl
  · exact TableIn.delete_within fun _ _ => .of_tables rfl rfl rfl rfl rfl rfl rfl
  · exact assertThat_within .refl

theorem cascadeMembershipDelete_kept (deleted : List OrganizationUser) (db : Db) :
    OwnersKept Nobody [] db (cascadeMembershipDelete deleted db).1 :=
  (TableIn.nestedDelete_within (R := OwnersKept Nobody [])
      (fun _ _ => .of_tables rfl rfl rfl rfl rfl rfl rfl) db).trans
    (TableIn.nestedDelete_within (fun _ _ => .of_tables rfl rfl rfl rfl rfl rfl rfl) _)

/-- What the statements after the audit event do: only the membership goes, and nothing without
the event. -/
def MutationTail (db db' : Db) : Prop :=
  OwnersKept (Member input.membershipId) [] db db' ∧
    (¬ Marked db auditId → OwnersKept Nobody [] db db')

variable {input auditId}

theorem MutationTail.refl (db : Db) : MutationTail input auditId db db :=
  ⟨.refl db, fun _ => .refl db⟩

theorem MutationTail.trans {db'' : Db} (h : MutationTail input auditId db db')
    (h' : MutationTail input auditId db' db'') : MutationTail input auditId db db'' :=
  ⟨h.1.trans h'.1, fun hmarked =>
    (h.2 hmarked).trans (h'.2 ((h.2 hmarked).notMarked hmarked))⟩

theorem OwnersKept.mutationTail (h : OwnersKept Nobody [] db db') :
    MutationTail input auditId db db' :=
  ⟨h.weaken, fun _ => h⟩

/-- The deletion of a membership hangs on the audit event. -/
theorem deleteMember_tail : (input.deleteMember auditId).Within (MutationTail input auditId) := by
  intro db db' n r h
  obtain ⟨M, hM, rfl, -⟩ := TableIn.deleteTriggering_ok h
  refine ⟨?_, fun hmarked => ?_⟩
  · refine (ownersKept_members M fun m hm hstatus htype hgone => ⟨m, ?_, rfl, rfl, rfl, hstatus,
      htype⟩).trans (cascadeMembershipDelete_kept _ _).weaken
    rw [hM]
    exact mem_deleteWhere.mpr ⟨hm, fun hh => hgone hh.1.1⟩
  · have hM' : M = db.organizationUsers :=
      Table.ext (hM.trans (deleteWhere_eq_self fun m _ hh => hmarked hh.2))
    rw [hM']
    exact cascadeMembershipDelete_kept _ _

/-- The statements after the audit event, the deletion apart. -/
theorem mutationRest_kept (input : MembershipTarget) (auditId : String)
    (grants : Option (List CollectionGrant)) (clearGroups : Bool) :
    ∀ st ∈ (match grants with
        | some grants => input.replaceGrants auditId grants
        | none => []) ++ input.revise auditId ++
        (if clearGroups then input.leaveGroups auditId else []),
      st.Within (OwnersKept Nobody []) := by
  intro st hst
  simp only [List.mem_append] at hst
  rcases hst with (hst | hst) | hst
  · cases grants with
    | none => cases hst
    | some grants => exact replaceGrants_kept input auditId grants st hst
  · exact revise_kept input auditId st hst
  · split at hst
    · exact leaveGroups_kept input auditId st hst
    · cases hst

theorem leave_tail : ∀ st ∈ input.leave auditId, st.Within (MutationTail input auditId) := by
  intro st hst
  simp only [MembershipTarget.leave, List.mem_cons, List.not_mem_nil, or_false] at hst
  rcases hst with rfl | rfl
  · exact deleteMember_tail
  · exact assertThat_within .refl

/-- A batch of `runMutation`, taken apart. -/
theorem runMutation_cases (mutation : Statement Db) (input : MembershipTarget) (auditId : String)
    (grants : Option (List CollectionGrant)) (remove clearGroups : Bool) (db : Db) :
    (runMutation mutation input auditId grants remove clearGroups db).1 = db ∨
    ∃ db₁ r₁ db₂, mutation db 0 = .ok (db₁, r₁) ∧
      OwnersKept Nobody [auditId] db₁ db₂ ∧ (r₁.changes = 0 → db₂ = db₁) ∧
      MutationTail input auditId db₂
        (runMutation mutation input auditId grants remove clearGroups db).1 ∧
      (remove = false → OwnersKept Nobody [] db₂
        (runMutation mutation input auditId grants remove clearGroups db).1) := by
  unfold runMutation
  rcases commit_cases (mutationBatch mutation input auditId grants remove clearGroups)
      (interpretMutation remove) db with ⟨hdb, -⟩ | ⟨db', rs, hrun, hdb, -⟩
  · exact Or.inl hdb
  right
  rw [hdb]
  unfold mutationBatch at hrun
  simp only [List.cons_append, List.nil_append] at hrun
  obtain ⟨db₁, r₁, rs₁, hmutation, hrun₁, -⟩ := runFrom_cons hrun
  obtain ⟨db₂, r₂, rs₂, haudit, hrun₂, -⟩ := runFrom_cons hrun₁
  obtain ⟨db₃, r₃, rs₃, hrequire, hrun₃, -⟩ := runFrom_cons hrun₂
  obtain ⟨-, rfl, -⟩ := assertThat_ok hrequire
  refine ⟨db₁, r₁, db₃, hmutation, auditStatement_kept (List.mem_singleton_self _) _ _ _ _ haudit,
    fun hnone => ?_, ?_, fun hstays => ?_⟩
  · obtain ⟨A, hA, rfl, -⟩ := TableIn.insertSelect_ok haudit
    rw [if_neg (by omega), List.append_nil] at hA
    rw [Table.ext hA]
  · refine runFrom_within .refl .trans (fun st hst => ?_) hrun₃
    rcases List.mem_append.mp hst with hst | hst
    · exact fun _ _ _ _ hok =>
        (mutationRest_kept input auditId grants clearGroups st hst _ _ _ _ hok).mutationTail
    · split at hst
      · exact leave_tail st hst
      · cases hst
  · subst hstays
    refine runFrom_within .refl .trans (fun st hst => ?_) hrun₃
    rw [if_neg Bool.false_ne_true, List.append_nil] at hst
    exact mutationRest_kept input auditId grants clearGroups st hst

/-- A mutation that deletes no membership takes away whom its first statement takes away. -/
theorem runMutation_kept {gone : String → Option String → Prop} {mutation : Statement Db}
    {grants : Option (List CollectionGrant)} {clearGroups : Bool}
    (hmutation : ∀ db₁ r, mutation db 0 = .ok (db₁, r) → OwnersKept gone [auditId] db db₁) :
    OwnersKept gone [auditId] db
      (runMutation mutation input auditId grants false clearGroups db).1 := by
  rcases runMutation_cases mutation input auditId grants false clearGroups db with
    hdb | ⟨db₁, r₁, db₂, hrun, haudit, -, -, hrest⟩
  · rw [hdb]; exact .refl db
  · have haudit' : OwnersKept gone [auditId] db₁ db₂ :=
      haudit.mono (fun _ _ hg => hg.elim) fun _ => id
    exact ((hmutation db₁ r₁ hrun).trans haudit').trans (hrest rfl).weaken

/-- **A mutation of one membership**: it does nothing, or its guard has seen to a survivor. -/
theorem runMutation_governed {mutation : Statement Db} {grants : Option (List CollectionGrant)}
    {remove clearGroups : Bool} (hfresh : ¬ Marked db auditId)
    (hmutation : ∀ db₁ r, mutation db 0 = .ok (db₁, r) → db₁ = db ∧ r.changes = 0 ∨
      OwnersKept (Member input.membershipId) [auditId] db db₁ ∧
      ∀ {o m}, UsableOwner db o m → m.id = input.membershipId →
        ∃ m', UsableOwner db o m' ∧ m'.id ≠ input.membershipId) :
    Governed [auditId] db
      (runMutation mutation input auditId grants remove clearGroups db).1 := by
  rcases runMutation_cases mutation input auditId grants remove clearGroups db with
    hdb | ⟨db₁, r₁, db₂, hrun, haudit, hnone, htail, -⟩
  · rw [hdb]
    exact (OwnersKept.refl db).governed
  rcases hmutation db₁ r₁ hrun with ⟨rfl, hzero⟩ | ⟨hkept, hsurvivor⟩
  · obtain rfl := hnone hzero
    exact (htail.2 hfresh).weaken.governed
  · have haudit' : OwnersKept (Member input.membershipId) [auditId] db₁ db₂ :=
      haudit.mono (fun _ _ hg => hg.elim) fun _ => id
    have htail' : OwnersKept (Member input.membershipId) [auditId] db₂
        (runMutation mutation input auditId grants remove clearGroups db).1 :=
      htail.1.mono (fun _ _ => id) fun _ hx => absurd hx List.not_mem_nil
    exact .of_survivor ((hkept.trans haudit').trans htail') fun _ => hsurvivor

/-- A guarded update of the one membership a request names: it hits nothing, or there is a
survivor. -/
theorem guardedUpdate_cases {hit : Db → Nat → OrganizationUser → Prop}
    [∀ db n, DecidablePred (hit db n)] {set : Db → OrganizationUser → OrganizationUser}
    (hhit : ∀ m, hit db 0 m → m.id = input.membershipId ∧
      (m.type ≠ 0 ∨ m.status ≠ 2 ∨ EnabledOwner db m))
    {db₁ : Db} {r : StatementResult}
    (h : Db.organizationUsersIn.update hit set db 0 = .ok (db₁, r)) :
    db₁ = db ∧ r.changes = 0 ∨
    OwnersKept (Member input.membershipId) drawn db db₁ ∧
      ∀ {o m}, UsableOwner db o m → m.id = input.membershipId →
        ∃ m', UsableOwner db o m' ∧ m'.id ≠ input.membershipId := by
  obtain ⟨M, hM, rfl, hc, -⟩ := TableIn.update_ok h
  by_cases hfound : ∃ m ∈ db.organizationUsers.rows, hit db 0 m
  · obtain ⟨m₀, hm₀, hh₀⟩ := hfound
    obtain ⟨hid, hguard⟩ := hhit m₀ hh₀
    refine Or.inr ⟨ownersKept_members M fun m hm hstatus htype hgone => ⟨m, ?_, rfl, rfl, rfl,
      hstatus, htype⟩, fun {o m} howner hm => ?_⟩
    · rw [hM]
      exact mem_updateWhere_of_not_hit hm fun hh => hgone (hhit m hh).1
    · rw [← hid]
      exact howner.survivor_of_enabledOwner hm₀ (hm.trans hid.symm) hguard
  · left
    have hnone : ∀ m ∈ db.organizationUsers.rows, ¬ hit db 0 m := fun m hm hh => hfound ⟨m, hm, hh⟩
    have hM' : M = db.organizationUsers := Table.ext (hM.trans (updateWhere_eq_self hnone))
    refine ⟨by rw [hM'], ?_⟩
    rw [hc, List.countP_eq_zero]
    exact fun m hm hh => hnone m hm (of_decide_eq_true hh)

theorem acceptOrganizationMemberInvite_kept (input : AcceptInviteInput) (mutationId : String)
    (db : Db) : OwnersKept Nobody [mutationId] db
      (acceptOrganizationMemberInvite input mutationId db).1 := by
  refine runMutation_kept fun db₁ r h => members_update_kept (fun _ _ m hh hstatus => ?_) _ _ _ _ h
  have hinvited : m.status = 0 := hh.1.2.1
  omega

theorem confirmOrganizationMember_kept (input : ConfirmMemberInput) (mutationId : String)
    (db : Db) : OwnersKept Nobody [mutationId] db
      (confirmOrganizationMember input mutationId db).1 := by
  refine runMutation_kept fun db₁ r h => members_update_kept (fun _ _ m hh hstatus => ?_) _ _ _ _ h
  have haccepted : m.status = 1 := hh.2.1
  omega

theorem reinviteOrganizationMember_kept (input : ReinviteMemberInput) (mutationId : String)
    (db : Db) : OwnersKept Nobody [mutationId] db
      (reinviteOrganizationMember input mutationId db).1 := by
  unfold reinviteOrganizationMember
  refine runMutation_kept fun db₁ r h => members_update_kept (fun _ _ m hh hstatus => ?_) _ _ _ _ h
  have hinvited : m.status = 0 := hh.2.1
  omega

/-- A demoted Owner leaves another usable one. -/
theorem updateOrganizationMember_governed (input : UpdateMemberInput) (mutationId : String)
    (db : Db) (hfresh : ¬ Marked db mutationId) :
    Governed [mutationId] db (updateOrganizationMember input mutationId db).1 := by
  unfold updateOrganizationMember
  by_cases hrole : input.type.toInt = 0
  · refine (runMutation_kept fun db₁ r h => members_update_kept
      (fun _ _ m hh hstatus _ _ => ?_) _ _ _ _ h).governed
    exact ⟨rfl, rfl, rfl, hstatus, hrole⟩
  · refine runMutation_governed hfresh fun db₁ r h => guardedUpdate_cases (fun m hh => ?_) h
    obtain ⟨hrow, -, -, -, hguard, -⟩ := hh
    refine ⟨hrow.1, hguard.imp_right (Or.imp_right fun h => ?_)⟩
    exact h.resolve_left hrole

/-- A revoked Owner leaves another usable one. -/
theorem revokeOrganizationMember_governed (input : MembershipMutation) (mutationId : String)
    (db : Db) (hfresh : ¬ Marked db mutationId) :
    Governed [mutationId] db (revokeOrganizationMember input mutationId db).1 := by
  unfold revokeOrganizationMember
  exact runMutation_governed hfresh fun db₁ r h =>
    guardedUpdate_cases (fun m hh => ⟨hh.1.1, hh.2.2.2⟩) h

/-- A removed Owner leaves another usable one. -/
theorem removeOrganizationMember_governed (input : MembershipMutation) (mutationId : String)
    (db : Db) (hfresh : ¬ Marked db mutationId) :
    Governed [mutationId] db (removeOrganizationMember input mutationId db).1 := by
  unfold removeOrganizationMember
  exact runMutation_governed hfresh fun db₁ r h =>
    guardedUpdate_cases (fun m hh => ⟨hh.1.1, hh.2.2.2⟩) h

/-- An invitation adds memberships that are not confirmed. -/
theorem inviteBatch_kept (input : MemberInvitesInput) (auditIds : List String) :
    ∀ st ∈ input.batch auditIds, st.Within (OwnersKept Nobody auditIds) := by
  intro st hst
  unfold MemberInvitesInput.batch at hst
  simp only [List.mem_append, List.mem_cons, List.not_mem_nil, or_false] at hst
  rcases hst with (rfl | hst) | rfl | rfl | rfl | rfl | rfl
  · intro db db' n r h
    obtain ⟨M, hM, rfl, -⟩ := TableIn.insertSelect_ok h
    refine ownersKept_members M fun m hm hstatus htype _ => ⟨m, ?_, rfl, rfl, rfl, hstatus, htype⟩
    rw [hM]
    exact List.mem_append_left _ hm
  · obtain ⟨event, hevent, rfl⟩ := List.mem_map.mp hst
    obtain ⟨pair, i⟩ := event
    have hpair : pair ∈ input.auditEvents.zip auditIds := List.fst_mem_of_mem_zipIdx hevent
    exact auditStatement_kept (List.of_mem_zip hpair).2
  · exact assertThat_within .refl
  · exact TableIn.insertReferencing_within fun _ _ => .of_tables rfl rfl rfl rfl rfl rfl rfl
  · exact assertThat_within .refl
  · exact organizations_update_kept fun _ _ => ⟨rfl, rfl⟩
  · exact assertThat_within .refl

theorem insertOrganizationMemberInvites_kept (input : MemberInvitesInput) (auditIds : List String)
    (db : Db) : OwnersKept Nobody auditIds db
      (insertOrganizationMemberInvites input auditIds db).1 := by
  have hbatch : OwnersKept Nobody auditIds db
      (commit (input.batch auditIds) input.interpret db).1 :=
    commit_within .refl .trans (inviteBatch_kept input auditIds)
  unfold insertOrganizationMemberInvites
  split
  · exact .refl db
  · split <;> rename_i hcall <;> rw [hcall] at hbatch <;> exact hbatch

end Memberships

/-! ## The policy -/

section Policy

variable {input : OrganizationPolicyUpdateInput} {auditId policyId : String}

/-- The Owner who writes the policy. -/
theorem PolicyOwner.exists_owner {actor : RequestedActor} {organizationId : String}
    (h : PolicyOwner db actor organizationId) :
    ∃ m ∈ db.organizationUsers.rows, m.organizationId = organizationId ∧ m.status = 2 ∧
      m.type = 0 ∧ m.HasAccount db ∧ m.userId = some actor.userId := by
  obtain ⟨o, -, hid, -, m, hm, horg, huser, hstatus, htype, haccount, -⟩ := h
  exact ⟨m, hm, horg.trans hid, hstatus, htype, haccount, huser⟩

/-- A policy that is required after the upsert was required before, or is the one enabled. -/
theorem upsertPolicy_required {r : StatementResult}
    (h : upsertPolicy input policyId auditId db 0 = .ok (db', r)) :
    ∃ P, db' = { db with organizationPolicies := P } ∧
      ∀ o, OrganizationPolicyRequired db' o → OrganizationPolicyRequired db o ∨
        o = input.organizationId ∧ input.enabled = true ∧ input.Authorized db := by
  unfold upsertPolicy at h
  by_cases hauthorized : input.Authorized db
  swap
  · obtain ⟨rfl, -⟩ := TableIn.upsertRow_none (if_neg hauthorized) h
    exact ⟨db'.organizationPolicies, rfl, fun _ => Or.inl⟩
  obtain ⟨P, hP, rfl, -⟩ := TableIn.upsertRow_some (if_pos hauthorized) h
  refine ⟨P, rfl, ?_⟩
  rintro o ⟨p, hp, rfl, henabled⟩
  simp only at hp
  rw [hP] at hp
  rcases upsert_cases (fun p excluded => some (OrganizationPolicyUpdateInput.overwrite p excluded))
      db.organizationPolicies.rows (input.row policyId auditId) with
    ⟨-, hrows⟩ | ⟨old, hold, hkey, ⟨hnone, -⟩ | ⟨row, hrow, hrows⟩⟩
  · rw [hrows, List.mem_append, List.mem_singleton] at hp
    rcases hp with hp | rfl
    · exact Or.inl ⟨p, hp, rfl, henabled⟩
    · exact Or.inr ⟨rfl, henabled, hauthorized⟩
  · cases hnone
  · obtain rfl := Option.some.inj hrow
    rw [hrows] at hp
    rcases mem_updateWhere_cases hp with ⟨hp, -⟩ | ⟨p₀, -, -, rfl⟩
    · exact Or.inl ⟨p, hp, rfl, henabled⟩
    · exact Or.inr ⟨hkey, henabled, hauthorized⟩

/-- The policy is written by a usable Owner: one who holds a proof of the factor it requires. -/
theorem upsertPolicy_governed {r : StatementResult}
    (h : upsertPolicy input policyId auditId db 0 = .ok (db', r)) : Governed [auditId] db db' := by
  obtain ⟨P, rfl, hrequired⟩ := upsertPolicy_required h
  refine ⟨fun {o} henabled howner => ⟨henabled, ?_⟩, fun _ he => Or.inl he,
    fun d hd _ hid => Or.inr ⟨d, hd, hid⟩⟩
  by_cases hnew : o = input.organizationId ∧ input.enabled = true ∧ input.Authorized db
  · obtain ⟨rfl, henable, hauthorized⟩ := hnew
    obtain ⟨m, hm, horg, hstatus, htype, haccount, huser⟩ := hauthorized.1.exists_owner
    rcases hauthorized.2 with ⟨hdisable, -⟩ | ⟨t, ht, d, -, -, htuser, henrolled, -⟩
    · rw [henable] at hdisable
      cases hdisable
    · exact ⟨m, hm, horg, hstatus, htype, haccount,
        Or.inr ⟨t, ht, huser.trans (congrArg some htuser.symm), henrolled⟩⟩
  · obtain ⟨m, howner⟩ := howner
    refine ⟨m, howner.member, howner.organization, howner.confirmed, howner.owner, howner.account,
      howner.enrolled.imp_left fun hopen hreq => ?_⟩
    exact (hrequired o hreq).elim hopen hnew

theorem updateOrganizationPolicy_governed (input : OrganizationPolicyUpdateInput)
    (auditId policyId : String) (db : Db) :
    Governed [auditId] db (updateOrganizationPolicy input auditId policyId db).1 := by
  unfold updateOrganizationPolicy
  rcases commit_cases (policyBatch input auditId policyId) interpretPolicyBatch db with
    ⟨hdb, -⟩ | ⟨db', rs, hrun, hdb, -⟩
  · simp only [hdb]
    exact (OwnersKept.refl db).governed
  simp only [hdb]
  obtain ⟨db₁, r₁, rs₁, hupsert, hrest, -⟩ := runFrom_cons hrun
  refine (upsertPolicy_governed hupsert).trans_kept
    (runFrom_within .refl .trans (fun st hst => ?_) hrest)
  simp only [List.mem_cons, List.not_mem_nil, or_false] at hst
  rcases hst with rfl | rfl | rfl | rfl | rfl
  · refine auditEvents_insertSelect_kept fun db n e he => ?_
    obtain ⟨p, -, rfl⟩ := List.mem_map.mp he
    exact List.mem_singleton_self _
  · exact assertThat_within .refl
  · unfold revisePolicyOrganization
    exact organizations_update_kept fun _ _ => ⟨rfl, rfl⟩
  · unfold pollPolicyMembers
    exact users_updateReturning_kept fun _ _ => ⟨rfl, id⟩
  · exact select_within .refl

end Policy

/-! ## The TOTP factor -/

section Totp

theorem sessionProofStatement_kept (actor : MfaSessionActor) (generation : String)
    (verifiedAt : Timestamp) :
    (sessionProofStatement actor generation verifiedAt).Within (OwnersKept Nobody drawn) :=
  TableIn.update_within fun _ _ => .of_tables rfl rfl rfl rfl rfl rfl rfl

theorem consumeStepStatement_kept (input : TotpStepUpInput) :
    (consumeStepStatement input).Within (OwnersKept Nobody drawn) :=
  userTotp_update_kept fun _ _ _ _ => ⟨rfl, id⟩

theorem consumeTotpSessionStepUp_kept (input : TotpStepUpInput) (db : Db) :
    OwnersKept Nobody drawn db (consumeTotpSessionStepUp input db).1 := by
  unfold consumeTotpSessionStepUp
  split
  swap
  · exact .refl db
  refine commit_within .refl .trans fun st hst => ?_
  simp only [List.mem_cons, List.not_mem_nil, or_false] at hst
  rcases hst with rfl | rfl
  · exact consumeStepStatement_kept input
  · exact sessionProofStatement_kept _ _ _

theorem createPendingTotpSetupForSession_kept (input : TotpSetupStartInput) (db : Db) :
    OwnersKept Nobody drawn db (createPendingTotpSetupForSession input db).1 := by
  unfold createPendingTotpSetupForSession upsertPendingSetup
  refine execute_within .refl (userTotp_upsertTriggering_kept fun t _ row hrow => ?_)
  split at hrow
  · assumption
  · cases hrow

theorem startPendingTotpChangeForSession_kept (input : TotpChangeStartInput) (db : Db) :
    OwnersKept Nobody drawn db (startPendingTotpChangeForSession input db).1 := by
  unfold startPendingTotpChangeForSession
  split
  swap
  · exact .refl db
  refine commit_within .refl .trans fun st hst => ?_
  simp only [List.mem_cons, List.not_mem_nil, or_false] at hst
  rcases hst with rfl | rfl | rfl
  · exact consumeStepStatement_kept _
  · unfold storePendingSecret
    exact userTotp_update_kept fun _ _ _ _ => ⟨rfl, id⟩
  · exact sessionProofStatement_kept _ _ _

theorem enableTotpSetupForSession_kept (input : TotpEnrollmentInput) (generation : String)
    (db : Db) : OwnersKept Nobody drawn db (enableTotpSetupForSession input generation db).1 := by
  unfold enableTotpSetupForSession
  split
  swap
  · exact .refl db
  refine commit_within .refl .trans fun st hst => ?_
  simp only [List.mem_cons, List.not_mem_nil, or_false] at hst
  rcases hst with rfl | rfl
  · exact userTotp_updateTriggering_kept fun _ _ _ _ =>
      ⟨rfl, fun _ => ⟨rfl, Option.some_ne_none _, Option.some_ne_none _⟩⟩
  · exact sessionProofStatement_kept _ _ _

theorem promotePendingTotpChangeForSession_kept (input : TotpPromotionInput) (generation : String)
    (db : Db) :
    OwnersKept Nobody drawn db (promotePendingTotpChangeForSession input generation db).1 := by
  unfold promotePendingTotpChangeForSession
  split
  swap
  · exact .refl db
  refine commit_within .refl .trans fun st hst => ?_
  simp only [List.mem_cons, List.not_mem_nil, or_false] at hst
  rcases hst with rfl | rfl
  · exact userTotp_updateTriggering_kept fun _ _ _ _ =>
      ⟨rfl, fun h => ⟨h.1, Option.some_ne_none _, Option.some_ne_none _⟩⟩
  · exact sessionProofStatement_kept _ _ _

/-- **The removal of factors**, each under `lastEnrolledOwnerCanRemoveTotpSql`. -/
theorem factorRemoval_governed {userId : String} {hit : UserTotp → Prop} [DecidablePred hit]
    {U : Table UserTotp} (hU : U.rows = deleteWhere hit db.userTotp.rows)
    (hhit : ∀ t, hit t → t.userId = userId ∧ LastEnrolledOwnerCanRemoveTotp db t) :
    Governed drawn db { db with userTotp := U } where
  owner {o} henabled howner := by
    refine ⟨henabled, ?_⟩
    obtain ⟨m, howner⟩ := howner
    by_cases hrequired : OrganizationPolicyRequired db o
    swap
    · exact ⟨m, { howner with enrolled := Or.inl hrequired }⟩
    -- an Owner whose factor is not among the removed ones
    obtain ⟨m', howner', hne⟩ : ∃ m', UsableOwner db o m' ∧
        ∀ t ∈ db.userTotp.rows, hit t → m'.userId ≠ some t.userId := by
      by_cases hremoved : ∃ t ∈ db.userTotp.rows, hit t ∧ m.userId = some t.userId
      · obtain ⟨t, ht, hh, huser⟩ := hremoved
        obtain ⟨m', howner', hne⟩ :=
          howner.survivor_of_factor huser henabled hrequired (hhit t hh).2
        refine ⟨m', howner', fun t' ht' hh' => ?_⟩
        rwa [(hhit t' hh').1, ← (hhit t hh).1]
      · exact ⟨m, howner, fun t ht hh huser => hremoved ⟨t, ht, hh, huser⟩⟩
    rcases howner'.enrolled with hopen | ⟨t, ht, huser, henrolled⟩
    · exact absurd hrequired hopen
    · refine ⟨m', { howner' with enrolled := Or.inr ⟨t, ?_, huser, henrolled⟩ }⟩
      rw [hU]
      exact mem_deleteWhere.mpr ⟨ht, fun hh => hne t ht hh huser⟩
  event _ he := Or.inl he
  operation d hd _ hid := Or.inr ⟨d, hd, hid⟩

theorem disableTotpSetupForSession_governed (input : TotpDisableInput) (db : Db) :
    Governed [input.auditId] db (disableTotpSetupForSession input db).1 := by
  unfold disableTotpSetupForSession
  rcases commit_cases [deleteFactor input, touchDisabledAccount input, insertDisableAudit input]
      interpretDisableBatch db with ⟨hdb, -⟩ | ⟨db', rs, hrun, hdb, -⟩
  · rw [hdb]
    exact (OwnersKept.refl db).governed
  rw [hdb]
  obtain ⟨db₁, r₁, rs₁, hdelete, hrest, -⟩ := runFrom_cons hrun
  obtain ⟨U, hU, rfl, -⟩ := TableIn.deleteTriggering_ok hdelete
  refine ((factorRemoval_governed hU fun t hh => ⟨hh.1, hh.2.2.2.2⟩).trans_kept
    (invalidateSessionMfaOnTotpDelete_kept _ _)).trans_kept
    (runFrom_within .refl .trans (fun st hst => ?_) hrest)
  simp only [List.mem_cons, List.not_mem_nil, or_false] at hst
  rcases hst with rfl | rfl
  · unfold touchDisabledAccount
    exact users_updateReturning_kept fun _ _ => ⟨rfl, id⟩
  · refine auditEvents_insertSelect_kept fun db n e he => ?_
    split at he
    · rw [List.mem_singleton] at he
      exact he ▸ List.mem_singleton_self _
    · cases he

/-! ### Without a session -/

theorem upsertPendingTotpSetup_kept (userId encryptedSecret : String) (now : Timestamp) (db : Db) :
    OwnersKept Nobody drawn db (upsertPendingTotpSetup userId encryptedSecret now db).1 := by
  refine execute_within .refl fun db db' n r h =>
    userTotp_upsertTriggering_kept (fun t _ row hrow => ?_) _ _ _ _
      (Statement.referencing_ok h).2
  split at hrow
  · assumption
  · cases hrow

theorem enableTotpSetup_kept (input : EnableTotpSetupInput) (generation : String) (db : Db) :
    OwnersKept Nobody drawn db (enableTotpSetup input generation db).1 :=
  execute_within .refl (userTotp_updateTriggering_kept fun _ _ _ _ =>
    ⟨rfl, fun _ => ⟨rfl, Option.some_ne_none _, Option.some_ne_none _⟩⟩)

theorem startPendingTotpChange_kept (input : PendingTotpChangeInput) (db : Db) :
    OwnersKept Nobody drawn db (startPendingTotpChange input db).1 :=
  execute_within .refl (userTotp_update_kept fun _ _ _ _ => ⟨rfl, id⟩)

theorem promotePendingTotpChange_kept (input : PromoteTotpChangeInput) (generation : String)
    (db : Db) : OwnersKept Nobody drawn db (promotePendingTotpChange input generation db).1 :=
  execute_within .refl (userTotp_updateTriggering_kept fun _ _ _ _ =>
    ⟨rfl, fun h => ⟨h.1, Option.some_ne_none _, Option.some_ne_none _⟩⟩)

theorem recordAcceptedTotpStep_kept (input : AcceptTotpStepInput) (db : Db) :
    OwnersKept Nobody drawn db (recordAcceptedTotpStep input db).1 :=
  execute_within .refl (userTotp_update_kept fun _ _ _ _ => ⟨rfl, id⟩)

theorem disableTotpSetup_governed (userId : String) (expectedCredentialGeneration : Option String)
    (db : Db) : Governed drawn db (disableTotpSetup userId expectedCredentialGeneration db).1 := by
  unfold disableTotpSetup
  rcases execute_cases (Db.userTotpIn.deleteTriggering
      (fun db _ t => t.userId = userId ∧ t.enabled = true ∧
        Expected expectedCredentialGeneration t.credentialGeneration ∧
        LastEnrolledOwnerCanRemoveTotp db t)
      (fun _ => []) invalidateSessionMfaOnTotpDelete)
    (fun result => .ok (1 ≤ result.metaChanges : Bool)) db with ⟨hdb, -⟩ | ⟨db', r, hrun, hdb, -⟩
  · rw [hdb]
    exact (OwnersKept.refl db).governed
  · rw [hdb]
    obtain ⟨U, hU, rfl, -⟩ := TableIn.deleteTriggering_ok hrun
    exact (factorRemoval_governed hU fun t hh => ⟨hh.1, hh.2.2.2⟩).trans_kept
      (invalidateSessionMfaOnTotpDelete_kept _ _)

end Totp

/-! ## Deleting an account -/

section Deletion

/-- The statements of a deletion's beginning after the account: nobody else goes. -/
theorem beginRest_kept (input : BeginRecoverableAccountDeletionInput) :
    ∀ st ∈ input.batch.drop 2, st.Within (OwnersKept Nobody [input.auditEventId]) := by
  intro st hst
  simp only [BeginRecoverableAccountDeletionInput.batch, List.drop_succ_cons, List.drop_zero,
    List.mem_cons, List.not_mem_nil, or_false] at hst
  rcases hst with rfl | rfl | rfl | rfl | rfl | rfl
  · intro db db' n r h
    obtain ⟨h, -⟩ := Statement.checked_ok h
    by_cases hdisabled : input.Disabled db
    swap
    · rw [(TableIn.upsertRow_none (if_neg hdisabled) h).1]
      exact .refl db
    obtain ⟨D, hD, rfl, -⟩ := TableIn.upsertRow_some (if_pos hdisabled) h
    refine ownersKept_accountDeletions D fun d hd id hid => ?_
    rw [hD] at hd
    rcases upsert_cases BeginRecoverableAccountDeletionInput.restart db.accountDeletions.rows
        input.deletion with ⟨-, hrows⟩ | ⟨old, hold, -, ⟨-, hrows⟩ | ⟨row, hrow, hrows⟩⟩
    · rw [hrows, List.mem_append, List.mem_singleton] at hd
      rcases hd with hd | rfl
      · exact Or.inr ⟨d, hd, hid⟩
      · cases hid
    · rw [hrows] at hd
      exact Or.inr ⟨d, hd, hid⟩
    · rw [hrows] at hd
      rcases mem_updateWhere_cases hd with ⟨hd, -⟩ | ⟨d₀, -, -, rfl⟩
      · exact Or.inr ⟨d, hd, hid⟩
      · unfold BeginRecoverableAccountDeletionInput.restart at hrow
        split at hrow
        · obtain rfl := Option.some.inj hrow
          cases hid
        · cases hrow
  · exact TableIn.update_within fun _ _ => .of_tables rfl rfl rfl rfl rfl rfl rfl
  · exact TableIn.update_within fun _ _ => .of_tables rfl rfl rfl rfl rfl rfl rfl
  · exact TableIn.update_within fun _ _ => .of_tables rfl rfl rfl rfl rfl rfl rfl
  · exact TableIn.update_within fun _ _ => .of_tables rfl rfl rfl rfl rfl rfl rfl
  · exact auditStatement_kept (List.mem_singleton_self _)

/-- The account that is disabled leaves another usable Owner in each of its organizations. -/
theorem disableAccount_governed {input : BeginRecoverableAccountDeletionInput} {n : Nat}
    {r : StatementResult} (h : input.disableAccount db n = .ok (db', r)) :
    Governed drawn db db' := by
  obtain ⟨U, hU, rfl, -⟩ := TableIn.updateReturning_ok h
  by_cases hfound : ∃ u ∈ db.users.rows, input.Account db u
  · obtain ⟨u₀, -, -, -, -, -, -, -, hguard, -⟩ := hfound
    have hkept : OwnersKept (Account input.userId) drawn db { db with users := U } := by
      refine ownersKept_users U fun u hu hactive hstays => ⟨u, ?_, rfl, hactive⟩
      rw [hU]
      refine mem_updateWhere_of_not_hit hu fun hh => ?_
      obtain ⟨id, hstays⟩ := hstays
      exact hstays (congrArg some hh.1)
    exact .of_survivor hkept fun _ howner huser => howner.survivor_of_deletion huser hguard
  · have hU' : U = db.users :=
      Table.ext (hU.trans (updateWhere_eq_self fun u hu hh => hfound ⟨u, hu, hh⟩))
    rw [hU']
    exact (OwnersKept.refl db).governed

theorem beginRecoverableAccountDeletion_governed (input : BeginRecoverableAccountDeletionInput)
    (db : Db) : Governed [input.auditEventId] db (beginRecoverableAccountDeletion input db).1 := by
  unfold beginRecoverableAccountDeletion
  rcases commit_cases input.batch input.interpret db with ⟨hdb, -⟩ | ⟨db', rs, hrun, hdb, -⟩
  · rw [hdb]
    exact (OwnersKept.refl db).governed
  rw [hdb]
  obtain ⟨db₁, r₁, rs₁, hselect, hrun₁, -⟩ := runFrom_cons hrun
  obtain ⟨db₂, r₂, rs₂, hdisable, hrest, -⟩ := runFrom_cons hrun₁
  simp only [select, Except.ok.injEq, Prod.mk.injEq] at hselect
  obtain ⟨rfl, -⟩ := hselect
  exact (disableAccount_governed hdisable).trans_kept
    (runFrom_within .refl .trans (beginRest_kept input) hrest)

theorem recoverAccountDeletion_kept (input : RecoverAccountDeletionInput) (db : Db) :
    OwnersKept Nobody [input.auditEventId] db (recoverAccountDeletion input db).1 := by
  refine commit_within .refl .trans fun st hst => ?_
  simp only [RecoverAccountDeletionInput.batch, List.mem_cons, List.not_mem_nil, or_false] at hst
  rcases hst with rfl | rfl | rfl
  · exact users_updateReturning_kept fun _ _ => ⟨rfl, fun _ => rfl⟩
  · exact accountDeletions_updateReturning_kept fun _ _ _ hid => Or.inr hid
  · exact auditStatement_kept (List.mem_singleton_self _)

theorem markAccountPurgeReady_kept (input : AccountPurgeTarget) (expectedCount : Nat) (db : Db) :
    OwnersKept Nobody drawn db (markAccountPurgeReady input expectedCount db).1 :=
  execute_within .refl (accountDeletions_updateReturning_kept fun _ _ _ hid => Or.inr hid)

theorem startAccountPurge_kept (input : AccountPurgeTarget) (db : Db) :
    OwnersKept Nobody drawn db (startAccountPurge input db).1 := by
  refine commit_within .refl .trans fun st hst => ?_
  simp only [List.mem_cons, List.not_mem_nil, or_false] at hst
  rcases hst with rfl | rfl
  · exact select_within .refl
  · exact accountDeletions_updateReturning_kept fun _ _ _ hid => Or.inr hid

theorem recordAccountPurgeProgress_kept (input : AccountPurgeTarget) (deletedCount : Int)
    (errorCode : Option String) (db : Db) :
    OwnersKept Nobody drawn db
      (recordAccountPurgeProgress input deletedCount errorCode db).1 := by
  unfold recordAccountPurgeProgress
  split
  · exact .refl db
  · exact execute_within .refl (accountDeletions_updateReturning_kept fun _ _ _ hid => Or.inr hid)

/-! ### The last batch of a purge -/

/-- Some deletion carries the purge operation of the request. -/
def AccountPurgeInput.Operated (input : AccountPurgeInput) (db : Db) : Prop :=
  ∃ d ∈ db.accountDeletions.rows, d.purgeOperationId = some input.auditEventId

theorem AccountPurgeInput.Sealed.operated {input : AccountPurgeInput} (h : input.Sealed db) :
    input.Operated db := by
  obtain ⟨d, hd, -, -, hid⟩ := h
  exact ⟨d, hd, hid⟩

/-- What the statements after the seal do: only the account goes, and nobody without the seal. -/
def PurgeTail (input : AccountPurgeInput) (db db' : Db) : Prop :=
  OwnersKept (Account input.userId) [input.auditEventId] db db' ∧
    (¬ input.Operated db →
      OwnersKept Nobody [input.auditEventId] db db' ∧ ¬ input.Operated db')

variable {input : AccountPurgeInput}

theorem PurgeTail.refl (db : Db) : PurgeTail input db db := ⟨.refl db, fun h => ⟨.refl db, h⟩⟩

theorem PurgeTail.trans {db'' : Db} (h : PurgeTail input db db') (h' : PurgeTail input db' db'') :
    PurgeTail input db db'' :=
  ⟨h.1.trans h'.1, fun hnone =>
    ⟨(h.2 hnone).1.trans (h'.2 (h.2 hnone).2).1, (h'.2 (h.2 hnone).2).2⟩⟩

theorem OwnersKept.purgeTail (h : OwnersKept Nobody [] db db') : PurgeTail input db db' := by
  refine ⟨h.weaken, fun hnone => ⟨h.weaken, ?_⟩⟩
  rintro ⟨d, hd, hid⟩
  rcases h.operation d hd _ hid with hdrawn | ⟨d₀, hd₀, hid₀⟩
  · cases hdrawn
  · exact hnone ⟨d₀, hd₀, hid₀⟩

theorem clearRotatedFrom_kept (deleted : List RefreshToken) (db : Db) :
    OwnersKept Nobody [] db (clearRotatedFrom deleted db).1 :=
  TableIn.nestedUpdate_within (fun _ _ => .of_tables rfl rfl rfl rfl rfl rfl rfl) .refl db

theorem cascadeDeviceDelete_kept (deleted : List Device) (db : Db) :
    OwnersKept Nobody [] db (cascadeDeviceDelete deleted db).1 :=
  (TableIn.nestedDelete_within (R := OwnersKept Nobody [])
    (fun _ _ => .of_tables rfl rfl rfl rfl rfl rfl rfl) db).trans (clearRotatedFrom_kept _ _)

theorem cascadeCipherDelete_kept (deleted : List Cipher) (db : Db) :
    OwnersKept Nobody [] db (cascadeCipherDelete deleted db).1 :=
  (TableIn.nestedDelete_within (R := OwnersKept Nobody [])
    (fun _ _ => .of_tables rfl rfl rfl rfl rfl rfl rfl) db).trans
    (TableIn.nestedDelete_within (fun _ _ => .of_tables rfl rfl rfl rfl rfl rfl rfl) _)

theorem purgeVault_kept : ∀ st ∈ input.purgeVault, st.Within (OwnersKept Nobody []) := by
  intro st hst
  simp only [AccountPurgeInput.purgeVault, List.mem_cons, List.not_mem_nil, or_false] at hst
  rcases hst with rfl | rfl | rfl | rfl
  · exact TableIn.update_within fun _ _ => .of_tables rfl rfl rfl rfl rfl rfl rfl
  · exact TableIn.delete_within fun _ _ => .of_tables rfl rfl rfl rfl rfl rfl rfl
  · exact TableIn.deleteTriggering_within (fun _ _ => .of_tables rfl rfl rfl rfl rfl rfl rfl) .trans
      cascadeCipherDelete_kept
  · exact TableIn.deleteTriggering_within (fun _ _ => .of_tables rfl rfl rfl rfl rfl rfl rfl) .trans
      fun _ => TableIn.nestedUpdate_within (fun _ _ => .of_tables rfl rfl rfl rfl rfl rfl rfl) .refl

theorem purgeCredentials_kept :
    ∀ st ∈ input.purgeCredentials, st.Within (OwnersKept Nobody []) := by
  intro st hst
  simp only [AccountPurgeInput.purgeCredentials, List.mem_cons, List.not_mem_nil, or_false] at hst
  rcases hst with rfl | rfl | rfl | rfl | rfl | rfl
  · exact TableIn.deleteTriggering_within (fun _ _ => .of_tables rfl rfl rfl rfl rfl rfl rfl) .trans
      clearRotatedFrom_kept
  · exact TableIn.deleteTriggering_within (fun _ _ => .of_tables rfl rfl rfl rfl rfl rfl rfl) .trans
      cascadeDeviceDelete_kept
  all_goals exact TableIn.delete_within fun _ _ => .of_tables rfl rfl rfl rfl rfl rfl rfl

/-- The factor goes with its account, under the seal. -/
theorem purgeFactor_tail : input.purgeFactor.Within (PurgeTail input) := by
  intro db db' n r h
  obtain ⟨U, hU, rfl, -⟩ := TableIn.deleteTriggering_ok h
  have hdeleted : PurgeTail input db { db with userTotp := U } := by
    refine ⟨?_, fun hnone => ?_⟩
    · refine ownersKept_userTotp U fun t ht henrolled hstays => ⟨t, ?_, rfl, henrolled⟩
      rw [hU]
      obtain ⟨id, hstays⟩ := hstays
      exact mem_deleteWhere.mpr ⟨ht, fun hh => hstays (congrArg some hh.1)⟩
    · have hU' : U = db.userTotp :=
        Table.ext (hU.trans (deleteWhere_eq_self fun t _ hh => hnone hh.2.operated))
      rw [hU']
      exact ⟨.refl db, hnone⟩
  exact hdeleted.trans (invalidateSessionMfaOnTotpDelete_kept _ _).purgeTail

theorem purgeMemberships_kept :
    ∀ st ∈ input.purgeMemberships, st.Within (OwnersKept Nobody []) := by
  intro st hst
  simp only [AccountPurgeInput.purgeMemberships, List.mem_cons, List.not_mem_nil, or_false] at hst
  rcases hst with rfl | rfl
  · exact TableIn.delete_within fun _ _ => .of_tables rfl rfl rfl rfl rfl rfl rfl
  · exact members_update_kept fun _ _ _ _ hstatus htype _ => ⟨rfl, rfl, rfl, hstatus, htype⟩

/-- The audit event does not touch the deletions. -/
theorem purgeAudit_tail : (auditStatement input.auditEvent input.auditEventId
    fun db _ => input.Tombstoned db).Within (PurgeTail input) := by
  intro db db' n r h
  refine ⟨auditStatement_kept (List.mem_singleton_self _) _ _ _ _ h, fun hnone =>
    ⟨auditStatement_kept (List.mem_singleton_self _) _ _ _ _ h, ?_⟩⟩
  obtain ⟨A, -, rfl, -⟩ := TableIn.insertSelect_ok h
  exact hnone

theorem purge_tail : ∀ st ∈ input.batch.drop 1, st.Within (PurgeTail input) := by
  intro st hst
  have hkept : st.Within (OwnersKept Nobody []) → st.Within (PurgeTail input) :=
    fun h _ _ _ _ hok => (h _ _ _ _ hok).purgeTail
  simp only [AccountPurgeInput.batch, AccountPurgeInput.finish, List.cons_append,
    List.drop_succ_cons, List.drop_zero, List.mem_append, List.mem_cons, List.not_mem_nil,
    or_false] at hst
  rcases hst with ((hst | hst) | rfl | hst) | rfl | rfl | rfl
  · exact hkept (purgeVault_kept st hst)
  · exact hkept (purgeCredentials_kept st hst)
  · exact purgeFactor_tail
  · exact hkept (purgeMemberships_kept st hst)
  · exact hkept (users_updateTriggering_kept fun _ _ => ⟨rfl, id⟩)
  · exact hkept (accountDeletions_updateReturning_kept fun _ _ _ hid => Or.inr hid)
  · exact purgeAudit_tail

/-- **The account that is purged leaves another usable Owner in each of its organizations.** -/
theorem finalizeAccountPurge_governed (input : AccountPurgeInput) (db : Db)
    (hfresh : ¬ input.Operated db) :
    Governed [input.auditEventId] db (finalizeAccountPurge input db).1 := by
  unfold finalizeAccountPurge
  rcases commit_cases input.batch input.interpret db with ⟨hdb, -⟩ | ⟨db', rs, hrun, hdb, -⟩
  · rw [hdb]
    exact (OwnersKept.refl db).governed
  rw [hdb]
  obtain ⟨db₁, r₁, rs₁, hseal, hrest, -⟩ := runFrom_cons hrun
  have htail : PurgeTail input db₁ db' :=
    runFrom_within .refl .trans purge_tail hrest
  obtain ⟨D, hD, rfl, -⟩ := TableIn.updateReturning_ok hseal
  by_cases hfound : ∃ d ∈ db.accountDeletions.rows, input.Sealable db d
  · obtain ⟨d, -, -, -, hguard, -⟩ := hfound
    have hsealed : OwnersKept (Account input.userId) [input.auditEventId] db
        { db with accountDeletions := D } :=
      accountDeletions_updateReturning_kept (fun _ _ id hid => Or.inl (by simpa using hid.symm))
        _ _ _ _ hseal
    exact .of_survivor (hsealed.trans htail.1) fun _ howner huser =>
      howner.survivor_of_deletion huser hguard
  · have hD' : D = db.accountDeletions :=
      Table.ext (hD.trans (updateWhere_eq_self fun d hd hh => hfound ⟨d, hd, hh⟩))
    rw [hD'] at htail
    exact (htail.2 hfresh).1.governed

end Deletion

/-! ## The system -/

/-- A request to the organization, to a TOTP factor or to the lifecycle of an account, with what it
draws. -/
inductive GovernanceOp where
  | insertOrganizationMemberInvites (input : MemberInvitesInput) (auditIds : List String)
  | acceptOrganizationMemberInvite (input : AcceptInviteInput) (mutationId : String)
  | confirmOrganizationMember (input : ConfirmMemberInput) (mutationId : String)
  | updateOrganizationMember (input : UpdateMemberInput) (mutationId : String)
  | revokeOrganizationMember (input : MembershipMutation) (mutationId : String)
  | removeOrganizationMember (input : MembershipMutation) (mutationId : String)
  | reinviteOrganizationMember (input : ReinviteMemberInput) (mutationId : String)
  | updateOrganizationPolicy (input : OrganizationPolicyUpdateInput) (auditId policyId : String)
  | consumeTotpSessionStepUp (input : TotpStepUpInput)
  | createPendingTotpSetupForSession (input : TotpSetupStartInput)
  | startPendingTotpChangeForSession (input : TotpChangeStartInput)
  | enableTotpSetupForSession (input : TotpEnrollmentInput) (generation : String)
  | promotePendingTotpChangeForSession (input : TotpPromotionInput) (generation : String)
  | disableTotpSetupForSession (input : TotpDisableInput)
  | upsertPendingTotpSetup (userId encryptedSecret : String) (now : Timestamp)
  | enableTotpSetup (input : EnableTotpSetupInput) (generation : String)
  | disableTotpSetup (userId : String) (expectedCredentialGeneration : Option String)
  | startPendingTotpChange (input : PendingTotpChangeInput)
  | promotePendingTotpChange (input : PromoteTotpChangeInput) (generation : String)
  | recordAcceptedTotpStep (input : AcceptTotpStepInput)
  | beginRecoverableAccountDeletion (input : BeginRecoverableAccountDeletionInput)
  | recoverAccountDeletion (input : RecoverAccountDeletionInput)
  | markAccountPurgeReady (input : AccountPurgeTarget) (expectedPersonalAttachmentCount : Nat)
  | startAccountPurge (input : AccountPurgeTarget)
  | recordAccountPurgeProgress (input : AccountPurgeTarget) (deletedCount : Int)
      (errorCode : Option String)
  | finalizeAccountPurge (input : AccountPurgeInput)

namespace GovernanceOp

/-- The database after the request. -/
def run : GovernanceOp → Db → Db
  | insertOrganizationMemberInvites input auditIds, db =>
    (HonoWarden.insertOrganizationMemberInvites input auditIds db).1
  | acceptOrganizationMemberInvite input mutationId, db =>
    (HonoWarden.acceptOrganizationMemberInvite input mutationId db).1
  | confirmOrganizationMember input mutationId, db =>
    (HonoWarden.confirmOrganizationMember input mutationId db).1
  | updateOrganizationMember input mutationId, db =>
    (HonoWarden.updateOrganizationMember input mutationId db).1
  | revokeOrganizationMember input mutationId, db =>
    (HonoWarden.revokeOrganizationMember input mutationId db).1
  | removeOrganizationMember input mutationId, db =>
    (HonoWarden.removeOrganizationMember input mutationId db).1
  | reinviteOrganizationMember input mutationId, db =>
    (HonoWarden.reinviteOrganizationMember input mutationId db).1
  | updateOrganizationPolicy input auditId policyId, db =>
    (HonoWarden.updateOrganizationPolicy input auditId policyId db).1
  | consumeTotpSessionStepUp input, db => (HonoWarden.consumeTotpSessionStepUp input db).1
  | createPendingTotpSetupForSession input, db =>
    (HonoWarden.createPendingTotpSetupForSession input db).1
  | startPendingTotpChangeForSession input, db =>
    (HonoWarden.startPendingTotpChangeForSession input db).1
  | enableTotpSetupForSession input generation, db =>
    (HonoWarden.enableTotpSetupForSession input generation db).1
  | promotePendingTotpChangeForSession input generation, db =>
    (HonoWarden.promotePendingTotpChangeForSession input generation db).1
  | disableTotpSetupForSession input, db => (HonoWarden.disableTotpSetupForSession input db).1
  | upsertPendingTotpSetup userId encryptedSecret now, db =>
    (HonoWarden.upsertPendingTotpSetup userId encryptedSecret now db).1
  | enableTotpSetup input generation, db => (HonoWarden.enableTotpSetup input generation db).1
  | disableTotpSetup userId expectedCredentialGeneration, db =>
    (HonoWarden.disableTotpSetup userId expectedCredentialGeneration db).1
  | startPendingTotpChange input, db => (HonoWarden.startPendingTotpChange input db).1
  | promotePendingTotpChange input generation, db =>
    (HonoWarden.promotePendingTotpChange input generation db).1
  | recordAcceptedTotpStep input, db => (HonoWarden.recordAcceptedTotpStep input db).1
  | beginRecoverableAccountDeletion input, db =>
    (HonoWarden.beginRecoverableAccountDeletion input db).1
  | recoverAccountDeletion input, db => (HonoWarden.recoverAccountDeletion input db).1
  | markAccountPurgeReady input expectedPersonalAttachmentCount, db =>
    (HonoWarden.markAccountPurgeReady input expectedPersonalAttachmentCount db).1
  | startAccountPurge input, db => (HonoWarden.startAccountPurge input db).1
  | recordAccountPurgeProgress input deletedCount errorCode, db =>
    (HonoWarden.recordAccountPurgeProgress input deletedCount errorCode db).1
  | finalizeAccountPurge input, db => (HonoWarden.finalizeAccountPurge input db).1

/-- The ids of audit events and purge operations a request draws. -/
def draws : GovernanceOp → List String
  | insertOrganizationMemberInvites _ auditIds => auditIds
  | acceptOrganizationMemberInvite _ mutationId => [mutationId]
  | confirmOrganizationMember _ mutationId => [mutationId]
  | updateOrganizationMember _ mutationId => [mutationId]
  | revokeOrganizationMember _ mutationId => [mutationId]
  | removeOrganizationMember _ mutationId => [mutationId]
  | reinviteOrganizationMember _ mutationId => [mutationId]
  | updateOrganizationPolicy _ auditId _ => [auditId]
  | disableTotpSetupForSession input => [input.auditId]
  | beginRecoverableAccountDeletion input => [input.auditEventId]
  | recoverAccountDeletion input => [input.auditEventId]
  | finalizeAccountPurge input => [input.auditEventId]
  | _ => []

end GovernanceOp

/-- The requests, each one atomic batch, in any order. -/
def governanceSystem : System Db GovernanceOp String :=
  .ofFunction GovernanceOp.run GovernanceOp.draws

/-- The ids a database holds of audit events and purge operations. -/
def Db.operationIds (db : Db) : List String :=
  db.auditEvents.rows.map AuditEventRow.id ++
    db.accountDeletions.rows.filterMap AccountDeletion.purgeOperationId

/-- Every stored id of an audit event or a purge operation was drawn. -/
structure OperationsIssued (issued : List String) (db : Db) : Prop where
  event : ∀ e ∈ db.auditEvents.rows, e.id ∈ issued
  operation : ∀ d ∈ db.accountDeletions.rows, ∀ id, d.purgeOperationId = some id → id ∈ issued

theorem operationsIssued_operationIds (db : Db) : OperationsIssued db.operationIds db where
  event _ he := List.mem_append_left _ (List.mem_map_of_mem he)
  operation d hd _ hid := List.mem_append_right _ (List.mem_filterMap.mpr ⟨d, hd, hid⟩)

theorem Governed.issued {issued : List String} (h : Governed drawn db db')
    (hissued : OperationsIssued issued db) : OperationsIssued (drawn ++ issued) db' where
  event e he := by
    rcases h.event e he with he | hdrawn
    · exact List.mem_append_right _ (hissued.event e he)
    · exact List.mem_append_left _ hdrawn
  operation d hd id hid := by
    rcases h.operation d hd id hid with hdrawn | ⟨d₀, hd₀, hid₀⟩
    · exact List.mem_append_left _ hdrawn
    · exact List.mem_append_right _ (hissued.operation d₀ hd₀ id hid₀)

/-- **No request takes the last usable Owner of an enabled organization away.** -/
theorem GovernanceOp.run_governed (op : GovernanceOp) {issued : List String} {db : Db}
    (hissued : OperationsIssued issued db) (hfresh : ∀ x ∈ op.draws, x ∉ issued) :
    Governed op.draws db (op.run db) := by
  have hmarked : ∀ x ∈ op.draws, ¬ Marked db x := by
    rintro x hx ⟨e, he, rfl⟩
    exact hfresh _ hx (hissued.event e he)
  cases op with
  | insertOrganizationMemberInvites input auditIds =>
    exact (insertOrganizationMemberInvites_kept input auditIds db).governed
  | acceptOrganizationMemberInvite input mutationId =>
    exact (acceptOrganizationMemberInvite_kept input mutationId db).governed
  | confirmOrganizationMember input mutationId =>
    exact (confirmOrganizationMember_kept input mutationId db).governed
  | updateOrganizationMember input mutationId =>
    exact updateOrganizationMember_governed input mutationId db
      (hmarked _ (List.mem_singleton_self _))
  | revokeOrganizationMember input mutationId =>
    exact revokeOrganizationMember_governed input mutationId db
      (hmarked _ (List.mem_singleton_self _))
  | removeOrganizationMember input mutationId =>
    exact removeOrganizationMember_governed input mutationId db
      (hmarked _ (List.mem_singleton_self _))
  | reinviteOrganizationMember input mutationId =>
    exact (reinviteOrganizationMember_kept input mutationId db).governed
  | updateOrganizationPolicy input auditId policyId =>
    exact updateOrganizationPolicy_governed input auditId policyId db
  | consumeTotpSessionStepUp input => exact (consumeTotpSessionStepUp_kept input db).governed
  | createPendingTotpSetupForSession input =>
    exact (createPendingTotpSetupForSession_kept input db).governed
  | startPendingTotpChangeForSession input =>
    exact (startPendingTotpChangeForSession_kept input db).governed
  | enableTotpSetupForSession input generation =>
    exact (enableTotpSetupForSession_kept input generation db).governed
  | promotePendingTotpChangeForSession input generation =>
    exact (promotePendingTotpChangeForSession_kept input generation db).governed
  | disableTotpSetupForSession input => exact disableTotpSetupForSession_governed input db
  | upsertPendingTotpSetup userId encryptedSecret now =>
    exact (upsertPendingTotpSetup_kept userId encryptedSecret now db).governed
  | enableTotpSetup input generation => exact (enableTotpSetup_kept input generation db).governed
  | disableTotpSetup userId expectedCredentialGeneration =>
    exact disableTotpSetup_governed userId expectedCredentialGeneration db
  | startPendingTotpChange input => exact (startPendingTotpChange_kept input db).governed
  | promotePendingTotpChange input generation =>
    exact (promotePendingTotpChange_kept input generation db).governed
  | recordAcceptedTotpStep input => exact (recordAcceptedTotpStep_kept input db).governed
  | beginRecoverableAccountDeletion input =>
    exact beginRecoverableAccountDeletion_governed input db
  | recoverAccountDeletion input => exact (recoverAccountDeletion_kept input db).governed
  | markAccountPurgeReady input expectedPersonalAttachmentCount =>
    exact (markAccountPurgeReady_kept input expectedPersonalAttachmentCount db).governed
  | startAccountPurge input => exact (startAccountPurge_kept input db).governed
  | recordAccountPurgeProgress input deletedCount errorCode =>
    exact (recordAccountPurgeProgress_kept input deletedCount errorCode db).governed
  | finalizeAccountPurge input =>
    refine finalizeAccountPurge_governed input db ?_
    rintro ⟨d, hd, hid⟩
    exact hfresh _ (List.mem_singleton_self _) (hissued.operation d hd _ hid)

/-- **Every enabled organization that has a usable Owner keeps one**, from any state, over any run:
the ids a run draws are new to the state it starts from. -/
theorem usableOwner_kept {db : Db} {ops : List GovernanceOp} {c : Config Db String}
    (hrun : Run governanceSystem { state := db, issued := db.operationIds } ops c)
    {organizationId : String} (henabled : OrganizationEnabled db organizationId)
    (howner : HasUsableOwner db organizationId) :
    OrganizationEnabled c.state organizationId ∧ HasUsableOwner c.state organizationId := by
  have hinv : OperationsIssued c.issued c.state ∧
      OrganizationEnabled c.state organizationId ∧ HasUsableOwner c.state organizationId := by
    refine hrun.invariant (I := fun c => OperationsIssued c.issued c.state ∧
      OrganizationEnabled c.state organizationId ∧ HasUsableOwner c.state organizationId)
      ⟨operationsIssued_operationIds db, henabled, howner⟩ ?_
    rintro c op c' ⟨hstep, hfresh, hnames⟩ ⟨hissued, henabled, howner⟩
    obtain hstep : c'.state = op.run c.state := hstep
    have hgoverned := op.run_governed hissued hfresh
    rw [hstep, hnames]
    exact ⟨hgoverned.issued hissued, hgoverned.owner henabled howner⟩
  exact hinv.2

/-- Two Owners of one organization. -/
def twoOwners : Db where
  users := ⟨[{ id := "u1", emailNormalized := "a" }, { id := "u2", emailNormalized := "b" }],
    by decide⟩
  organizations := ⟨[{ id := "o" }], by decide⟩
  organizationUsers := ⟨[
    { id := "m1", organizationId := "o", userId := some "u1", email := "a", status := 2, type := 0 },
    { id := "m2", organizationId := "o", userId := some "u2", email := "b", status := 2, type := 0 }],
    by decide⟩

/-- The first Owner removes the membership `membershipId`. -/
def removal (membershipId : String) : MembershipMutation where
  organizationId := "o"
  actorUserId := "u1"
  membershipId := membershipId
  now := 1
  auditEvent :=
    { name := "organization.member.remove", outcome := "success", requestId := "r", occurredAt := 1 }

/-- The first Owner removes the second, and then tries to remove itself. -/
def removals : List GovernanceOp :=
  [.removeOrganizationMember (removal "m2") "x", .removeOrganizationMember (removal "m1") "y"]

/-- Where the two removals end. -/
def removalsEnd : Config Db String :=
  (replay GovernanceOp.run GovernanceOp.draws
    { state := twoOwners, issued := twoOwners.operationIds } removals).get (by decide)

theorem usableOwner_kept_removals :
    removalsEnd.state.organizationUsers.rows.map OrganizationUser.id = ["m1"] ∧
      HasUsableOwner removalsEnd.state "o" := by
  refine ⟨by decide, (usableOwner_kept (replay_run (Option.some_get _).symm) ?_ ?_).2⟩
  · decide
  · exact ⟨_, List.mem_cons_self, rfl, rfl, rfl, by decide, by decide⟩

end HonoWarden
