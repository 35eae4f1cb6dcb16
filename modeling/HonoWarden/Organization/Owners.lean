import HonoWarden.Lifecycle.Repository

/-!
# Usable Owners

A usable Owner of an organization is a confirmed Owner membership of an enabled account which,
where the organization requires TOTP, has an enrolled factor. Whether an organization has one hangs
on four tables, written by four repositories, each with a last-Owner guard of its own.

`OwnersKept gone drawn` is the relation a statement is in when it takes no usable Owner away but
those in `gone`, disables no organization, and names audit events and purge operations by ids in
`drawn` only. It is reflexive and transitive, so a batch is in it when its statements are
(`runFrom_within`). An operation is `Governed` when every enabled organization keeps a usable
Owner; `Governed.of_survivor` gets there from `OwnersKept`, given that whoever goes leaves another.
-/

namespace HonoWarden

open Relational

/-- A usable Owner of the organization. -/
structure UsableOwner (db : Db) (organizationId : String) (m : OrganizationUser) : Prop where
  member : m ∈ db.organizationUsers.rows
  organization : m.organizationId = organizationId
  confirmed : m.status = 2
  owner : m.type = 0
  account : m.HasAccount db
  enrolled : OrganizationTotpEnrollmentAllows db organizationId m.userId

/-- The organization has a usable Owner. -/
def HasUsableOwner (db : Db) (organizationId : String) : Prop :=
  ∃ m, UsableOwner db organizationId m

/-! ## The guards -/

variable {db db' db'' : Db} {organizationId : String} {m m₀ : OrganizationUser}

/-- `enabledOwner` names another usable Owner. -/
theorem EnabledOwner.usable (h : EnabledOwner db m) :
    ∃ m', UsableOwner db m.organizationId m' ∧ m'.id ≠ m.id := by
  obtain ⟨survivor, hmem, haccount, horg, hid, htype, hstatus, henrolled⟩ := h
  exact ⟨survivor, ⟨hmem, horg, hstatus, htype, haccount, horg ▸ henrolled⟩, hid⟩

/-- The guard of a demotion or revocation: the usable Owner it meets is not the last. -/
theorem UsableOwner.survivor_of_enabledOwner (h : UsableOwner db organizationId m)
    (hmem : m₀ ∈ db.organizationUsers.rows) (hid : m.id = m₀.id)
    (hguard : m₀.type ≠ 0 ∨ m₀.status ≠ 2 ∨ EnabledOwner db m₀) :
    ∃ m', UsableOwner db organizationId m' ∧ m'.id ≠ m₀.id := by
  obtain rfl := db.organizationUsers.eq_of_key h.member hmem hid
  rcases hguard with htype | hstatus | howner
  · exact absurd h.owner htype
  · exact absurd h.confirmed hstatus
  · exact h.organization ▸ howner.usable

/-- The guard of a deletion: the usable Owner it meets is not the last. -/
theorem UsableOwner.survivor_of_deletion {userId : String}
    (h : UsableOwner db organizationId m) (huser : m.userId = some userId)
    (hguard : ¬ HasLastConfirmedOwnerMembership db userId) :
    ∃ m', UsableOwner db organizationId m' ∧ m'.userId ≠ some userId := by
  by_contra hnone
  refine hguard ⟨m, h.member, huser, h.confirmed, h.owner, ?_⟩
  rintro ⟨other, hmem, haccount, horg, hstatus, htype, -, hne, henrolled⟩
  rw [h.organization] at horg henrolled
  exact hnone ⟨other, ⟨hmem, horg, hstatus, htype, haccount, henrolled⟩, hne⟩

/-- The guard of a factor's removal: where TOTP is required, the usable Owner it meets is not the
last. -/
theorem UsableOwner.survivor_of_factor {t : UserTotp} (h : UsableOwner db organizationId m)
    (huser : m.userId = some t.userId) (henabled : OrganizationEnabled db organizationId)
    (hrequired : OrganizationPolicyRequired db organizationId)
    (hguard : LastEnrolledOwnerCanRemoveTotp db t) :
    ∃ m', UsableOwner db organizationId m' ∧ m'.userId ≠ some t.userId := by
  by_contra hnone
  obtain ⟨o, ho, hoid, hoenabled⟩ := henabled
  obtain ⟨p, hp, hporg, hpenabled⟩ := hrequired
  refine hguard ⟨m, h.member, ⟨o, ho, hoid.trans h.organization.symm, hoenabled, p, hp,
    hporg.trans hoid.symm, hpenabled⟩, huser, h.confirmed, h.owner, ?_⟩
  rintro ⟨other, hmem, haccount, ⟨factor, hfactor, hfuser, hfenrolled⟩, horg, hstatus, htype, hne⟩
  rw [h.organization] at horg
  refine hnone ⟨other, ⟨hmem, horg, hstatus, htype, haccount, ?_⟩, fun he => hne (he.trans huser.symm)⟩
  exact Or.inr ⟨factor, hfactor, hfuser, hfenrolled⟩

/-! ## Statements -/

/-- No usable Owner goes but those in `gone`, no organization is disabled, and no id is used that
is not in `drawn`. -/
structure OwnersKept (gone : String → Option String → Prop) (drawn : List String) (db db' : Db) :
    Prop where
  owner : ∀ {organizationId m}, UsableOwner db organizationId m → ¬ gone m.id m.userId →
    ∃ m', UsableOwner db' organizationId m' ∧ m'.id = m.id ∧ m'.userId = m.userId
  enabled : ∀ {organizationId}, OrganizationEnabled db organizationId →
    OrganizationEnabled db' organizationId
  event : ∀ e ∈ db'.auditEvents.rows, e ∈ db.auditEvents.rows ∨ e.id ∈ drawn
  operation : ∀ d' ∈ db'.accountDeletions.rows, ∀ id, d'.purgeOperationId = some id →
    id ∈ drawn ∨ ∃ d ∈ db.accountDeletions.rows, d.purgeOperationId = some id

variable {gone : String → Option String → Prop} {drawn : List String}

namespace OwnersKept

theorem refl (db : Db) : OwnersKept gone drawn db db where
  owner h _ := ⟨_, h, rfl, rfl⟩
  enabled h := h
  event _ he := Or.inl he
  operation d hd _ hid := Or.inr ⟨d, hd, hid⟩

theorem trans (h : OwnersKept gone drawn db db') (h' : OwnersKept gone drawn db' db'') :
    OwnersKept gone drawn db db'' where
  owner howner hgone := by
    obtain ⟨m', howner', hid, huser⟩ := h.owner howner hgone
    obtain ⟨m'', howner'', hid', huser'⟩ := h'.owner howner' (by rwa [hid, huser])
    exact ⟨m'', howner'', hid'.trans hid, huser'.trans huser⟩
  enabled ho := h'.enabled (h.enabled ho)
  event e he := (h'.event e he).elim (h.event e) Or.inr
  operation d hd id hid := by
    rcases h'.operation d hd id hid with hdrawn | ⟨d', hd', hid'⟩
    · exact Or.inl hdrawn
    · exact h.operation d' hd' id hid'

theorem mono {gone' : String → Option String → Prop} {drawn' : List String}
    (h : OwnersKept gone drawn db db') (hgone : ∀ id user, gone id user → gone' id user)
    (hdrawn : ∀ x ∈ drawn, x ∈ drawn') : OwnersKept gone' drawn' db db' where
  owner howner hstays := h.owner howner fun hg => hstays (hgone _ _ hg)
  enabled := h.enabled
  event e he := (h.event e he).imp_right (hdrawn e.id)
  operation d hd id hid := (h.operation d hd id hid).imp_left (hdrawn id)

/-- Where nobody goes and no id is used, nobody in `gone` goes and no id outside `drawn` is used. -/
theorem weaken (h : OwnersKept (fun _ _ => False) [] db db') : OwnersKept gone drawn db db' :=
  h.mono (fun _ _ hg => hg.elim) fun _ hx => absurd hx List.not_mem_nil

/-- The tables that `OwnersKept` reads. -/
theorem of_tables (husers : db'.users = db.users) (htotp : db'.userTotp = db.userTotp)
    (horganizations : db'.organizations = db.organizations)
    (hmembers : db'.organizationUsers = db.organizationUsers)
    (hpolicies : db'.organizationPolicies = db.organizationPolicies)
    (hevents : db'.auditEvents = db.auditEvents)
    (hdeletions : db'.accountDeletions = db.accountDeletions) : OwnersKept gone drawn db db' where
  owner h _ := by
    refine ⟨_, ⟨hmembers ▸ h.member, h.organization, h.confirmed, h.owner, ?_, ?_⟩, rfl, rfl⟩
    · rw [OrganizationUser.HasAccount, husers]; exact h.account
    · rw [OrganizationTotpEnrollmentAllows, OrganizationPolicyRequired, hpolicies, htotp]
      exact h.enrolled
  enabled h := by rw [OrganizationEnabled, horganizations]; exact h
  event _ he := Or.inl (hevents ▸ he)
  operation d hd _ hid := Or.inr ⟨d, hdeletions ▸ hd, hid⟩

end OwnersKept

/-! ### One lemma for each table -/

theorem ownersKept_users (U : Table User)
    (h : ∀ u ∈ db.users.rows, u.disabledAt = none → (∃ id, ¬ gone id (some u.id)) →
      ∃ u' ∈ U.rows, u'.id = u.id ∧ u'.disabledAt = none) :
    OwnersKept gone drawn db { db with users := U } where
  owner {o m} howner hgone := by
    obtain ⟨u, hu, huser, hactive⟩ := howner.account
    obtain ⟨u', hu', hid, hactive'⟩ := h u hu hactive ⟨m.id, huser ▸ hgone⟩
    exact ⟨m, { howner with
      account := ⟨u', hu', huser.trans (congrArg some hid.symm), hactive'⟩ }, rfl, rfl⟩
  enabled h := h
  event _ he := Or.inl he
  operation d hd _ hid := Or.inr ⟨d, hd, hid⟩

theorem ownersKept_userTotp (U : Table UserTotp)
    (h : ∀ t ∈ db.userTotp.rows, t.Enrolled → (∃ id, ¬ gone id (some t.userId)) →
      ∃ t' ∈ U.rows, t'.userId = t.userId ∧ t'.Enrolled) :
    OwnersKept gone drawn db { db with userTotp := U } where
  owner {o m} howner hgone := by
    refine ⟨m, { howner with enrolled := ?_ }, rfl, rfl⟩
    rcases howner.enrolled with hopen | ⟨t, ht, huser, henrolled⟩
    · exact Or.inl hopen
    · obtain ⟨t', ht', hid, henrolled'⟩ := h t ht henrolled ⟨m.id, huser ▸ hgone⟩
      exact Or.inr ⟨t', ht', huser.trans (congrArg some hid.symm), henrolled'⟩
  enabled h := h
  event _ he := Or.inl he
  operation d hd _ hid := Or.inr ⟨d, hd, hid⟩

theorem ownersKept_members (M : Table OrganizationUser)
    (h : ∀ m ∈ db.organizationUsers.rows, m.status = 2 → m.type = 0 → ¬ gone m.id m.userId →
      ∃ m' ∈ M.rows, m'.id = m.id ∧ m'.userId = m.userId ∧ m'.organizationId = m.organizationId ∧
        m'.status = 2 ∧ m'.type = 0) :
    OwnersKept gone drawn db { db with organizationUsers := M } where
  owner {o m} howner hgone := by
    obtain ⟨m', hm', hid, huser, horg, hstatus, htype⟩ :=
      h m howner.member howner.confirmed howner.owner hgone
    refine ⟨m', ⟨hm', horg.trans howner.organization, hstatus, htype, ?_, ?_⟩, hid, huser⟩
    · obtain ⟨u, hu, hmu, hactive⟩ := howner.account
      exact ⟨u, hu, huser.trans hmu, hactive⟩
    · rw [huser]; exact howner.enrolled
  enabled h := h
  event _ he := Or.inl he
  operation d hd _ hid := Or.inr ⟨d, hd, hid⟩

theorem ownersKept_organizations (O : Table Organization)
    (h : ∀ o ∈ db.organizations.rows, o.enabled = true →
      ∃ o' ∈ O.rows, o'.id = o.id ∧ o'.enabled = true) :
    OwnersKept gone drawn db { db with organizations := O } where
  owner {o m} howner _ := ⟨m, { howner with }, rfl, rfl⟩
  enabled := by
    rintro organizationId ⟨o, ho, hid, henabled⟩
    obtain ⟨o', ho', hid', henabled'⟩ := h o ho henabled
    exact ⟨o', ho', hid'.trans hid, henabled'⟩
  event _ he := Or.inl he
  operation d hd _ hid := Or.inr ⟨d, hd, hid⟩

theorem ownersKept_auditEvents (A : Table AuditEventRow)
    (h : ∀ e ∈ A.rows, e ∈ db.auditEvents.rows ∨ e.id ∈ drawn) :
    OwnersKept gone drawn db { db with auditEvents := A } where
  owner {o m} howner _ := ⟨m, { howner with }, rfl, rfl⟩
  enabled h := h
  event := h
  operation d hd _ hid := Or.inr ⟨d, hd, hid⟩

theorem ownersKept_accountDeletions (D : Table AccountDeletion)
    (h : ∀ d' ∈ D.rows, ∀ id, d'.purgeOperationId = some id → id ∈ drawn ∨
      ∃ d ∈ db.accountDeletions.rows, d.purgeOperationId = some id) :
    OwnersKept gone drawn db { db with accountDeletions := D } where
  owner {o m} howner _ := ⟨m, { howner with }, rfl, rfl⟩
  enabled h := h
  event _ he := Or.inl he
  operation := h

/-! ### One lemma for each kind of statement -/

section Accounts

variable {set : Db → User → User} {hit : Db → Nat → User → Prop} [∀ db n, DecidablePred (hit db n)]

theorem ownersKept_users_updateWhere {hit : User → Prop} [DecidablePred hit] {set : User → User}
    {U : Table User} (hU : U.rows = updateWhere hit set db.users.rows)
    (hset : ∀ u, (set u).id = u.id ∧ (u.disabledAt = none → (set u).disabledAt = none)) :
    OwnersKept gone drawn db { db with users := U } := by
  refine ownersKept_users U fun u hu hactive _ => ?_
  rw [hU]
  by_cases hh : hit u
  · exact ⟨_, mem_updateWhere_of_hit hu hh, (hset u).1, (hset u).2 hactive⟩
  · exact ⟨u, mem_updateWhere_of_not_hit hu hh, rfl, hactive⟩

/-- An update of accounts that disables nobody. -/
theorem users_updateReturning_kept {returning : User → List (List Value)}
    (hset : ∀ db u, (set db u).id = u.id ∧ (u.disabledAt = none → (set db u).disabledAt = none)) :
    (Db.usersIn.updateReturning hit set returning).Within (OwnersKept gone drawn) := by
  intro db db' n r h
  obtain ⟨U, hU, rfl, -⟩ := TableIn.updateReturning_ok h
  exact ownersKept_users_updateWhere hU (hset db)

theorem keepsKeys_userKeyId : KeepsKeys fun u : User => { u with userKeyId := none } :=
  fun _ => ⟨rfl, fun _ h => h⟩

theorem invalidateStaleUserKeyId_kept (images : List (User × User)) (db : Db) :
    OwnersKept gone drawn db (invalidateStaleUserKeyId images db).1 := by
  obtain ⟨U, hdb, hU⟩ := TableIn.nestedUpdate_eq Db.usersIn
    (fun u => ∃ image ∈ images, image.2.userKey ≠ image.1.userKey ∧
      image.2.userKeyId = image.1.userKeyId ∧ image.1.userKeyId ≠ none ∧ u.id = image.2.id)
    (fun u => { u with userKeyId := none }) db keepsKeys_userKeyId
  rw [invalidateStaleUserKeyId, hdb]
  exact ownersKept_users_updateWhere hU fun _ => ⟨rfl, id⟩

theorem users_updateTriggering_kept {returning : User → List (List Value)}
    (hset : ∀ db u, (set db u).id = u.id ∧ (u.disabledAt = none → (set db u).disabledAt = none)) :
    (Db.usersIn.updateTriggering hit set returning invalidateStaleUserKeyId).Within
      (OwnersKept gone drawn) := by
  intro db db' n r h
  obtain ⟨_, _, h₁, rfl, -⟩ := fire_ok h
  exact (users_updateReturning_kept hset _ _ _ _ h₁).trans (invalidateStaleUserKeyId_kept _ _)

end Accounts

section Factors

variable {set : Db → UserTotp → UserTotp} {hit : Db → Nat → UserTotp → Prop}
  [∀ db n, DecidablePred (hit db n)]

/-- An update of factors that ends no enrolment. -/
theorem userTotp_update_kept
    (hset : ∀ db n t, hit db n t →
      (set db t).userId = t.userId ∧ (t.Enrolled → (set db t).Enrolled)) :
    (Db.userTotpIn.update hit set).Within (OwnersKept gone drawn) := by
  intro db db' n r h
  obtain ⟨U, hU, rfl, -⟩ := TableIn.update_ok h
  refine ownersKept_userTotp U fun t ht henrolled _ => ?_
  rw [hU]
  by_cases hh : hit db n t
  · exact ⟨_, mem_updateWhere_of_hit ht hh, (hset db n t hh).1, (hset db n t hh).2 henrolled⟩
  · exact ⟨t, mem_updateWhere_of_not_hit ht hh, rfl, henrolled⟩

theorem invalidateSessionMfaOnTotpChange_kept (images : List (UserTotp × UserTotp)) (db : Db) :
    OwnersKept gone drawn db (invalidateSessionMfaOnTotpChange images db).1 :=
  TableIn.nestedUpdate_within (fun _ _ => .of_tables rfl rfl rfl rfl rfl rfl rfl) .refl db

theorem invalidateSessionMfaOnTotpDelete_kept (deleted : List UserTotp) (db : Db) :
    OwnersKept gone drawn db (invalidateSessionMfaOnTotpDelete deleted db).1 :=
  TableIn.nestedUpdate_within (fun _ _ => .of_tables rfl rfl rfl rfl rfl rfl rfl) .refl db

theorem userTotp_updateTriggering_kept
    (hset : ∀ db n t, hit db n t →
      (set db t).userId = t.userId ∧ (t.Enrolled → (set db t).Enrolled)) :
    (Db.userTotpIn.updateTriggering hit set (fun _ => [])
      invalidateSessionMfaOnTotpChange).Within (OwnersKept gone drawn) := by
  intro db db' n r h
  obtain ⟨_, _, h₁, rfl, -⟩ := fire_ok h
  exact (userTotp_update_kept hset _ _ _ _ h₁).trans (invalidateSessionMfaOnTotpChange_kept _ _)

/-- A setup starts a factor, or one that is not enabled again. -/
theorem userTotp_upsertTriggering_kept {new : Db → Nat → Option UserTotp}
    {onConflict : UserTotp → UserTotp → Option UserTotp} {returning : UserTotp → List (List Value)}
    (hconf : ∀ t t' row, onConflict t t' = some row → t.enabled = false) :
    (Db.userTotpIn.upsertTriggering new onConflict returning
      invalidateSessionMfaOnTotpChange).Within (OwnersKept gone drawn) := by
  intro db db' n r h
  rcases TableIn.upsertTriggering_cases (fun db U hU => by rw [Table.ext hU])
      invalidateSessionMfaOnTotpChange_nil h with ⟨rfl, -⟩ |
    ⟨row, -, ⟨-, -, U, hU, rfl⟩ | ⟨old, hold, hkey, row', hrow, -, U, hU, rfl⟩⟩
  · exact .refl _
  · refine ownersKept_userTotp U fun t ht henrolled _ => ⟨t, ?_, rfl, henrolled⟩
    rw [hU]
    exact List.mem_append_left _ ht
  · refine (ownersKept_userTotp U fun t ht henrolled _ => ⟨t, ?_, rfl, henrolled⟩).trans
      (invalidateSessionMfaOnTotpChange_kept _ _)
    rw [hU]
    refine mem_updateWhere_of_not_hit ht fun hh => ?_
    obtain rfl := db.userTotp.eq_of_key ht hold (hh.trans hkey.symm)
    simp [UserTotp.Enrolled, hconf _ _ _ hrow] at henrolled

end Factors

section Members

variable {set : Db → OrganizationUser → OrganizationUser}
  {hit : Db → Nat → OrganizationUser → Prop} [∀ db n, DecidablePred (hit db n)]

/-- An update of memberships that leaves every confirmed Owner it hits, `gone` apart, a confirmed
Owner. -/
theorem members_update_kept
    (hset : ∀ db n m, hit db n m → m.status = 2 → m.type = 0 → ¬ gone m.id m.userId →
      (set db m).id = m.id ∧ (set db m).userId = m.userId ∧
      (set db m).organizationId = m.organizationId ∧ (set db m).status = 2 ∧
      (set db m).type = 0) :
    (Db.organizationUsersIn.update hit set).Within (OwnersKept gone drawn) := by
  intro db db' n r h
  obtain ⟨M, hM, rfl, -⟩ := TableIn.update_ok h
  refine ownersKept_members M fun m hm hstatus htype hgone => ?_
  rw [hM]
  by_cases hh : hit db n m
  · exact ⟨_, mem_updateWhere_of_hit hm hh, hset db n m hh hstatus htype hgone⟩
  · exact ⟨m, mem_updateWhere_of_not_hit hm hh, rfl, rfl, rfl, hstatus, htype⟩

end Members

/-- An update of organizations that disables none. -/
theorem organizations_update_kept {set : Db → Organization → Organization}
    {hit : Db → Nat → Organization → Prop} [∀ db n, DecidablePred (hit db n)]
    (hset : ∀ db o, (set db o).id = o.id ∧ (set db o).enabled = o.enabled) :
    (Db.organizationsIn.update hit set).Within (OwnersKept gone drawn) := by
  intro db db' n r h
  obtain ⟨O, hO, rfl, -⟩ := TableIn.update_ok h
  refine ownersKept_organizations O fun o ho henabled => ?_
  rw [hO]
  by_cases hh : hit db n o
  · exact ⟨_, mem_updateWhere_of_hit ho hh, (hset db o).1, (hset db o).2.trans henabled⟩
  · exact ⟨o, mem_updateWhere_of_not_hit ho hh, rfl, henabled⟩

/-- Audit events under drawn ids. -/
theorem auditEvents_insertSelect_kept {new : Db → Nat → List AuditEventRow}
    (hnew : ∀ db n, ∀ e ∈ new db n, e.id ∈ drawn) :
    (Db.auditEventsIn.insertSelect new).Within (OwnersKept gone drawn) := by
  intro db db' n r h
  obtain ⟨A, hA, rfl, -⟩ := TableIn.insertSelect_ok h
  refine ownersKept_auditEvents A fun e he => ?_
  rw [hA, List.mem_append] at he
  exact he.imp_right (hnew db n e)

theorem auditStatement_kept {event : AuditEvent} {id : String} {condition : Db → Nat → Prop}
    [∀ db n, Decidable (condition db n)] (hid : id ∈ drawn) :
    (auditStatement event id condition).Within (OwnersKept gone drawn) := by
  refine auditEvents_insertSelect_kept fun db n e he => ?_
  split at he
  · rw [List.mem_singleton] at he
    exact he ▸ hid
  · cases he

/-- An update of deletions that writes no purge operation but a drawn one. -/
theorem accountDeletions_updateReturning_kept {set : Db → AccountDeletion → AccountDeletion}
    {hit : Db → Nat → AccountDeletion → Prop} [∀ db n, DecidablePred (hit db n)]
    {returning : AccountDeletion → List (List Value)}
    (hset : ∀ db d id, (set db d).purgeOperationId = some id →
      id ∈ drawn ∨ d.purgeOperationId = some id) :
    (Db.accountDeletionsIn.updateReturning hit set returning).Within (OwnersKept gone drawn) := by
  intro db db' n r h
  obtain ⟨D, hD, rfl, -⟩ := TableIn.updateReturning_ok h
  refine ownersKept_accountDeletions D fun d hd id hid => ?_
  rw [hD] at hd
  rcases mem_updateWhere_cases hd with ⟨hd, -⟩ | ⟨d₀, hd₀, -, rfl⟩
  · exact Or.inr ⟨d, hd, hid⟩
  · exact (hset db d₀ id hid).imp_right fun hop => ⟨d₀, hd₀, hop⟩

/-! ## Operations -/

/-- Every enabled organization with a usable Owner stays enabled and keeps one, and no id is used
that is not in `drawn`. -/
structure Governed (drawn : List String) (db db' : Db) : Prop where
  owner : ∀ {organizationId}, OrganizationEnabled db organizationId →
    HasUsableOwner db organizationId →
    OrganizationEnabled db' organizationId ∧ HasUsableOwner db' organizationId
  event : ∀ e ∈ db'.auditEvents.rows, e ∈ db.auditEvents.rows ∨ e.id ∈ drawn
  operation : ∀ d' ∈ db'.accountDeletions.rows, ∀ id, d'.purgeOperationId = some id →
    id ∈ drawn ∨ ∃ d ∈ db.accountDeletions.rows, d.purgeOperationId = some id

/-- **Whoever goes leaves another usable Owner behind.** -/
theorem Governed.of_survivor (h : OwnersKept gone drawn db db')
    (hsurvivor : ∀ {o m}, OrganizationEnabled db o → UsableOwner db o m → gone m.id m.userId →
      ∃ m', UsableOwner db o m' ∧ ¬ gone m'.id m'.userId) : Governed drawn db db' where
  owner := by
    rintro o henabled ⟨m, howner⟩
    refine ⟨h.enabled henabled, ?_⟩
    by_cases hgone : gone m.id m.userId
    · obtain ⟨m', howner', hstays⟩ := hsurvivor henabled howner hgone
      obtain ⟨m'', howner'', -⟩ := h.owner howner' hstays
      exact ⟨m'', howner''⟩
    · obtain ⟨m', howner', -⟩ := h.owner howner hgone
      exact ⟨m', howner'⟩
  event := h.event
  operation := h.operation

/-- Nobody goes. -/
theorem OwnersKept.governed (h : OwnersKept (fun _ _ => False) drawn db db') :
    Governed drawn db db' :=
  .of_survivor h fun _ _ hgone => absurd hgone not_false

/-- A step, and then one that takes nobody away. -/
theorem Governed.trans_kept (h : Governed drawn db db')
    (h' : OwnersKept (fun _ _ => False) drawn db' db'') : Governed drawn db db'' where
  owner henabled howner :=
    h'.governed.owner (h.owner henabled howner).1 (h.owner henabled howner).2
  event e he := (h'.event e he).elim (h.event e) Or.inr
  operation d hd id hid := by
    rcases h'.operation d hd id hid with hdrawn | ⟨d', hd', hid'⟩
    · exact Or.inl hdrawn
    · exact h.operation d' hd' id hid'

end HonoWarden
