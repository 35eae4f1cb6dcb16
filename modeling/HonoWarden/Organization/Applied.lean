import HonoWarden.Lifecycle.Completeness

/-!
# Membership mutations apply in full or not at all

A mutation of `organization-membership-repository.ts` is a batch whose statements hang on each
other through the audit event of its first statement. `MembershipEffect.Applied` says what a whole
mutation leaves behind, table by table, and `InvitesApplied` the same for an invitation.

Results:
* `runMutation_applied`: one membership is mutated, with everything that belongs to it, or the
  database is as before;
* `insertOrganizationMemberInvites_applied`: the same for all invites of a request;
* **`membershipMutation_allOrNothing`**: every request that fails changes nothing, and every
  request that succeeds has its whole effect and no other.
-/

namespace HonoWarden

open Relational

/-- What a mutation does to the membership it names. -/
structure MembershipEffect where
  set : OrganizationUser → OrganizationUser
  grants : Option (List CollectionGrant) := none
  leavesGroups : Bool := false
  removed : Bool := false

namespace MembershipEffect

variable (effect : MembershipEffect) (input : MembershipTarget) (db : Db)

/-- The memberships afterwards. -/
def members : List OrganizationUser :=
  if effect.removed then deleteWhere input.Row db.organizationUsers.rows
  else updateWhere input.Row effect.set db.organizationUsers.rows

/-- The direct grants afterwards. -/
def collectionUsers : List CollectionUser :=
  match effect.grants with
  | some grants =>
    deleteWhere (fun g => g.organizationUserId = input.membershipId) db.collectionUsers.rows ++
      grants.map (CollectionGrant.row input.membershipId)
  | none => db.collectionUsers.rows

/-- The group links afterwards. -/
def organizationGroupUsers : List OrganizationGroupUser :=
  if effect.leavesGroups then
    deleteWhere (fun g => g.organizationUserId = input.membershipId ∧
      g.organizationId = input.organizationId) db.organizationGroupUsers.rows
  else db.organizationGroupUsers.rows

/-- The account the mutated membership is linked to. -/
def Links (u : User) : Prop :=
  ∃ m ∈ db.organizationUsers.rows, input.Row m ∧ (effect.set m).userId = some u.id

instance : DecidablePred (effect.Links input db) := fun _ =>
  inferInstanceAs (Decidable (∃ m ∈ db.organizationUsers.rows, _))

/-- **The whole effect of a mutation**, and nothing else. -/
structure Applied (auditId : String) (db' : Db) : Prop where
  member : ∃ m ∈ db.organizationUsers.rows, input.Row m
  members : db'.organizationUsers.rows = effect.members input db
  event : db'.auditEvents.rows =
    db.auditEvents.rows ++ [{ input.auditEvent with id := auditId }]
  grants : db'.collectionUsers.rows = effect.collectionUsers input db
  groups : db'.organizationGroupUsers.rows = effect.organizationGroupUsers input db
  organization : ∃ o ∈ db.organizations.rows, o.id = input.organizationId
  organizations : db'.organizations.rows =
    updateWhere (fun o => o.id = input.organizationId)
      (fun o => { o with revisionDate := max o.revisionDate input.now + 1, updatedAt := input.now })
      db.organizations.rows
  accounts : ∃ revision : User → Timestamp, (∀ u, u.revisionDate < revision u) ∧
    db'.users.rows = updateWhere (effect.Links input db)
      (fun u => { u with revisionDate := revision u }) db.users.rows
  rest : db' = { db with
    organizationUsers := db'.organizationUsers
    auditEvents := db'.auditEvents
    collectionUsers := db'.collectionUsers
    organizationGroupUsers := db'.organizationGroupUsers
    organizations := db'.organizations
    users := db'.users }

end MembershipEffect

/-! ## The segments of a mutation batch -/

section Segments

variable {input : MembershipTarget} {auditId : String} {s s' : Db} {n : Nat}
  {rs : List StatementResult}

/-- A statement that writes nothing where the mutation left no event. -/
def IdleUnmarked (auditId : String) (s s' : Db) : Prop := ¬ Marked s auditId → s' = s

theorem IdleUnmarked.refl (s : Db) : IdleUnmarked auditId s s := fun _ => rfl

theorem IdleUnmarked.trans {s'' : Db} (h : IdleUnmarked auditId s s')
    (h' : IdleUnmarked auditId s' s'') : IdleUnmarked auditId s s'' := fun hmarked => by
  obtain rfl := h hmarked
  exact h' hmarked

section Idle

variable {α κ : Type} [Keyed α κ] {t : TableIn Db α} {hit : Db → Nat → α → Prop}
  [∀ s n, DecidablePred (hit s n)]

theorem update_idleUnmarked {set : Db → α → α} (hhit : ∀ s n a, hit s n a → Marked s auditId) :
    (t.update hit set).Within (IdleUnmarked auditId) := by
  intro s s' n r h hmarked
  rw [t.update_idle fun a _ hh => hmarked (hhit s n a hh)] at h
  cases h
  rfl

theorem delete_idleUnmarked (hhit : ∀ s n a, hit s n a → Marked s auditId) :
    (t.delete hit).Within (IdleUnmarked auditId) := by
  intro s s' n r h hmarked
  rw [t.delete_idle fun a _ hh => hmarked (hhit s n a hh)] at h
  cases h
  rfl

theorem insertReferencing_idleUnmarked {new : Db → Nat → List α} {refers : Db → α → Prop}
    [∀ s, DecidablePred (refers s)] (hnew : ∀ s n, ¬ Marked s auditId → new s n = []) :
    (t.insertReferencing new refers).Within (IdleUnmarked auditId) := by
  intro s s' n r h hmarked
  obtain ⟨-, T, hT, rfl, -⟩ := TableIn.insertReferencing_ok h
  rw [hnew s n hmarked, List.append_nil] at hT
  exact TableIn.put_eq_self t hT

end Idle

theorem replaceGrants_idle (grants : List CollectionGrant) :
    ∀ st ∈ input.replaceGrants auditId grants, st.Within (IdleUnmarked auditId) := by
  intro st hst
  simp only [MembershipTarget.replaceGrants, List.mem_cons, List.not_mem_nil, or_false] at hst
  rcases hst with rfl | rfl | rfl
  · exact delete_idleUnmarked fun _ _ _ hh => hh.2
  · exact insertReferencing_idleUnmarked fun _ _ hmarked => if_neg hmarked
  · exact assertThat_within .refl

theorem revise_idle : ∀ st ∈ input.revise auditId, st.Within (IdleUnmarked auditId) := by
  intro st hst
  simp only [MembershipTarget.revise, List.mem_cons, List.not_mem_nil, or_false] at hst
  rcases hst with rfl | rfl | rfl | rfl
  · exact update_idleUnmarked fun _ _ _ hh => hh.2
  · exact assertThat_within .refl
  · exact update_idleUnmarked fun _ _ _ hh => hh.2
  · exact assertThat_within .refl

theorem leaveGroups_idle :
    ∀ st ∈ input.leaveGroups auditId, st.Within (IdleUnmarked auditId) := by
  intro st hst
  simp only [MembershipTarget.leaveGroups, List.mem_cons, List.not_mem_nil, or_false] at hst
  rcases hst with rfl | rfl
  · exact delete_idleUnmarked fun _ _ _ hh => hh.2.2
  · exact assertThat_within .refl

/-- A deleted membership without grants and groups takes nothing with it. -/
theorem cascadeMembershipDelete_idle {deleted : List OrganizationUser}
    (hgrants : ∀ g ∈ s.collectionUsers.rows, ∀ m ∈ deleted, m.id ≠ g.organizationUserId)
    (hgroups : ∀ g ∈ s.organizationGroupUsers.rows, ∀ m ∈ deleted,
      m.id = g.organizationUserId → m.organizationId ≠ g.organizationId) :
    cascadeMembershipDelete deleted s = (s, 0) := by
  have hfst : Db.collectionUsersIn.nestedDelete
      (fun g => ∃ m ∈ deleted, m.id = g.organizationUserId) s = (s, 0) :=
    TableIn.nestedDelete_idle _ fun g hg hh => by
      obtain ⟨m, hm, hid⟩ := hh
      exact hgrants g hg m hm hid
  have hsnd : Db.organizationGroupUsersIn.nestedDelete
      (fun g => ∃ m ∈ deleted, m.id = g.organizationUserId ∧ m.organizationId = g.organizationId) s
      = (s, 0) :=
    TableIn.nestedDelete_idle _ fun g hg hh => by
      obtain ⟨m, hm, hid, horg⟩ := hh
      exact hgroups g hg m hm hid horg
  simp only [cascadeMembershipDelete, hfst, hsnd]

theorem leave_idle : ∀ st ∈ input.leave auditId, st.Within (IdleUnmarked auditId) := by
  intro st hst
  simp only [MembershipTarget.leave, List.mem_cons, List.not_mem_nil, or_false] at hst
  rcases hst with rfl | rfl
  · intro s s' n r h hmarked
    rw [MembershipTarget.deleteMember, TableIn.deleteTriggering_idle] at h
    · cases h
      rfl
    · exact cascadeMembershipDelete_idle (by simp) (by simp)
    · exact fun _ _ hh => hmarked hh.2
  · exact assertThat_within .refl

/-- The statements after the audit event. -/
theorem mutationRest_idle (grants : Option (List CollectionGrant)) (remove clearGroups : Bool) :
    ∀ st ∈ (match grants with
        | some grants => input.replaceGrants auditId grants
        | none => []) ++ input.revise auditId ++
        (if clearGroups then input.leaveGroups auditId else []) ++
        (if remove then input.leave auditId else []), st.Within (IdleUnmarked auditId) := by
  intro st hst
  simp only [List.mem_append] at hst
  rcases hst with ((hst | hst) | hst) | hst
  · cases grants with
    | none => cases hst
    | some grants => exact replaceGrants_idle grants st hst
  · exact revise_idle st hst
  · split at hst
    · exact leaveGroups_idle st hst
    · cases hst
  · split at hst
    · exact leave_idle st hst
    · cases hst

/-! ### With the event -/

theorem replaceGrants_applied {grants : List CollectionGrant} (hmarked : Marked s auditId)
    (h : runFrom (input.replaceGrants auditId grants) s n = .ok (s', rs)) :
    ∃ G : Table CollectionUser, s' = { s with collectionUsers := G } ∧ G.rows =
      deleteWhere (fun g => g.organizationUserId = input.membershipId) s.collectionUsers.rows ++
        grants.map (CollectionGrant.row input.membershipId) := by
  obtain ⟨_, _, _, hdelete, h₁, -⟩ := runFrom_cons h
  obtain ⟨G, hG, rfl, -⟩ := TableIn.delete_ok hdelete
  obtain ⟨_, _, _, hinsert, h₂, -⟩ := runFrom_cons h₁
  obtain ⟨-, G', hG', rfl, -⟩ := TableIn.insertReferencing_ok hinsert
  obtain ⟨_, _, _, hassert, h₃, -⟩ := runFrom_cons h₂
  obtain ⟨-, rfl, -⟩ := assertThat_ok hassert
  obtain ⟨rfl, -⟩ := runFrom_nil h₃
  refine ⟨G', rfl, ?_⟩
  have hmarked' : Marked (Db.collectionUsersIn.put s G) auditId := hmarked
  rw [if_pos hmarked'] at hG'
  rw [hG']
  refine congrArg (· ++ _) (hG.trans (deleteWhere_congr fun g _ => ?_))
  exact ⟨And.left, fun hid => ⟨hid, hmarked⟩⟩

theorem revise_applied (hmarked : Marked s auditId)
    (h : runFrom (input.revise auditId) s n = .ok (s', rs)) :
    ∃ (O : Table Organization) (U : Table User),
      s' = { s with organizations := O, users := U } ∧
      (∃ o ∈ s.organizations.rows, o.id = input.organizationId) ∧
      O.rows = updateWhere (fun o => o.id = input.organizationId)
        (fun o => { o with
          revisionDate := max o.revisionDate input.now + 1
          updatedAt := input.now }) s.organizations.rows ∧
      U.rows = updateWhere (input.Account s) (User.poll { s with organizations := O } input.now)
        s.users.rows := by
  obtain ⟨_, _, _, horganization, h₁, -⟩ := runFrom_cons h
  obtain ⟨O, hO, rfl, hc, -⟩ := TableIn.update_ok horganization
  obtain ⟨_, _, _, hassert, h₂, -⟩ := runFrom_cons h₁
  obtain ⟨hone, rfl, -⟩ := assertThat_ok hassert
  obtain ⟨_, _, _, husers, h₃, -⟩ := runFrom_cons h₂
  obtain ⟨U, hU, rfl, -⟩ := TableIn.update_ok husers
  obtain ⟨_, _, _, hassert', h₄, -⟩ := runFrom_cons h₃
  obtain ⟨-, rfl, -⟩ := assertThat_ok hassert'
  obtain ⟨rfl, -⟩ := runFrom_nil h₄
  have hmarked' : Marked { s with organizations := O } auditId := hmarked
  refine ⟨O, U, rfl, ?_, hO.trans (updateWhere_congr fun o _ => ?_),
    hU.trans (updateWhere_congr fun u _ => ?_)⟩
  · have hcount := hone.resolve_left (not_not_intro hmarked')
    rw [hc] at hcount
    obtain ⟨o, ho, hid, -⟩ := countP_pos_iff_exists.mp (Nat.one_pos.trans_eq hcount.symm)
    exact ⟨o, ho, hid⟩
  · exact ⟨And.left, fun hid => ⟨hid, hmarked⟩⟩
  · exact ⟨And.left, fun haccount => ⟨haccount, hmarked⟩⟩

theorem leaveGroups_applied (hmarked : Marked s auditId)
    (h : runFrom (input.leaveGroups auditId) s n = .ok (s', rs)) :
    ∃ G : Table OrganizationGroupUser, s' = { s with organizationGroupUsers := G } ∧
      G.rows = deleteWhere (fun g => g.organizationUserId = input.membershipId ∧
        g.organizationId = input.organizationId) s.organizationGroupUsers.rows := by
  obtain ⟨_, _, _, hdelete, h₁, -⟩ := runFrom_cons h
  obtain ⟨G, hG, rfl, -⟩ := TableIn.delete_ok hdelete
  obtain ⟨_, _, _, hassert, h₂, -⟩ := runFrom_cons h₁
  obtain ⟨-, rfl, -⟩ := assertThat_ok hassert
  obtain ⟨rfl, -⟩ := runFrom_nil h₂
  refine ⟨G, rfl, hG.trans (deleteWhere_congr fun g _ => ?_)⟩
  exact ⟨fun hh => ⟨hh.1, hh.2.1⟩, fun hh => ⟨hh.1, hh.2, hmarked⟩⟩

/-- The deletion reports the one row it deleted, which had nothing left to take with it. -/
theorem leave_applied (hmarked : Marked s auditId)
    (hmember : ∃ m ∈ s.organizationUsers.rows, input.Row m)
    (hgrants : ∀ g ∈ s.collectionUsers.rows, g.organizationUserId ≠ input.membershipId)
    (hgroups : ∀ g ∈ s.organizationGroupUsers.rows, g.organizationUserId = input.membershipId →
      g.organizationId ≠ input.organizationId)
    (h : runFrom (input.leave auditId) s n = .ok (s', rs)) :
    (∃ M : Table OrganizationUser, s' = { s with organizationUsers := M } ∧
      M.rows = deleteWhere input.Row s.organizationUsers.rows) ∧
    ∃ deletion assertion, rs = [deletion, assertion] ∧ deletion.rows.length = 1 := by
  obtain ⟨_, deletion, _, hdelete, h₁, rfl⟩ := runFrom_cons h
  obtain ⟨M, hM, rfl, -, hrows⟩ := TableIn.deleteTriggering_ok hdelete
  obtain ⟨_, assertion, _, hassert, h₂, rfl⟩ := runFrom_cons h₁
  obtain ⟨-, rfl, -⟩ := assertThat_ok hassert
  obtain ⟨rfl, rfl⟩ := runFrom_nil h₂
  refine ⟨⟨M, ?_, hM.trans (deleteWhere_congr fun m _ => ?_)⟩, deletion, assertion, rfl, ?_⟩
  · rw [cascadeMembershipDelete_idle]
    · intro g hg m hm hid
      obtain ⟨hrow, -⟩ : input.Row m ∧ Marked s auditId := by simpa using (List.mem_filter.mp hm).2
      exact hgrants g hg (hid.symm.trans hrow.1)
    · intro g hg m hm hid horg
      obtain ⟨hrow, -⟩ : input.Row m ∧ Marked s auditId := by simpa using (List.mem_filter.mp hm).2
      exact hgroups g hg (hid.symm.trans hrow.1) (horg.symm.trans hrow.2)
  · exact ⟨And.left, fun hrow => ⟨hrow, hmarked⟩⟩
  · obtain ⟨m, hm, hrow⟩ := hmember
    have hfilter := s.organizationUsers.filter_eq_singleton (p := fun m =>
      input.Row m ∧ Marked s auditId) input.membershipId (fun _ hh => hh.1.1) hm ⟨hrow, hmarked⟩
    rw [hrows, hfilter]
    rfl

end Segments

/-! ## A whole mutation -/

theorem revisionDate_le_pollingRevision {db : Db} {now : Timestamp} (u : User) :
    u.revisionDate ≤ pollingRevision db now u := by
  change u.revisionDate ≤ List.foldl max 0 [u.revisionDate, _, _, _, _, _]
  simp only [List.foldl_cons, List.foldl_nil]
  simp

section Mutation

variable {input : MembershipTarget} {auditId : String} {db : Db}

/-- The event is left where the mutation wrote one row. -/
theorem auditMutation_ok {event : AuditEvent} {s s' : Db} {n : Nat} {r : StatementResult}
    (h : auditStatement event auditId (fun _ changes => changes = 1) s n = .ok (s', r)) :
    (n = 1 → r.metaChanges = 1 ∧ Marked s' auditId ∧ ∃ A : Table AuditEventRow,
      s' = { s with auditEvents := A } ∧
      A.rows = s.auditEvents.rows ++ [{ event with id := auditId }]) ∧
    (n ≠ 1 → r.metaChanges = 0 ∧ s' = s) := by
  obtain ⟨A, hA, rfl, hc, hm⟩ := TableIn.insertSelect_ok h
  refine ⟨fun hone => ?_, fun hzero => ?_⟩
  · rw [if_pos hone] at hA hc
    refine ⟨hm.trans hc, ⟨{ event with id := auditId }, ?_, rfl⟩, A, rfl, hA⟩
    simp only
    rw [hA]
    exact List.mem_append_right _ (List.mem_singleton_self _)
  · rw [if_neg hzero] at hA hc
    rw [List.append_nil] at hA
    exact ⟨hm.trans hc, by rw [Table.ext hA]⟩

/-- The result of a mutation is read off the event and, for a removal, the last statement but
one. -/
theorem interpretMutation_success {remove : Bool} {mutation audit : StatementResult}
    {rest : List StatementResult} (haudit : audit.metaChanges = 1)
    (hremove : remove = true → ∃ init deletion assertion, rest = init ++ [deletion, assertion] ∧
      deletion.rows.length = 1) :
    interpretMutation remove (mutation :: audit :: rest) = .ok .success := by
  unfold interpretMutation
  cases remove with
  | false => simp [haudit]
  | true =>
    obtain ⟨init, deletion, assertion, rfl, hlength⟩ := hremove rfl
    simp [haudit, hlength]

/-- What the statements after the event do when it is there. -/
theorem mutationRest_applied {effect : MembershipEffect} {s s' : Db} {n : Nat}
    {rs : List StatementResult}
    (hremoved : effect.removed = true → effect.grants = some [] ∧ effect.leavesGroups = true)
    (hmarked : Marked s auditId) (hmember : ∃ m ∈ s.organizationUsers.rows, input.Row m)
    (h : runFrom ((match effect.grants with
        | some grants => input.replaceGrants auditId grants
        | none => []) ++ input.revise auditId ++
        (if effect.leavesGroups then input.leaveGroups auditId else []) ++
        (if effect.removed then input.leave auditId else [])) s n = .ok (s', rs)) :
    (∃ (M : Table OrganizationUser) (G : Table CollectionUser) (L : Table OrganizationGroupUser)
        (O : Table Organization) (U : Table User),
      s' = { s with
        organizationUsers := M
        collectionUsers := G
        organizationGroupUsers := L
        organizations := O
        users := U } ∧
      M.rows = (if effect.removed then deleteWhere input.Row s.organizationUsers.rows
        else s.organizationUsers.rows) ∧
      G.rows = effect.collectionUsers input s ∧
      L.rows = effect.organizationGroupUsers input s ∧
      (∃ o ∈ s.organizations.rows, o.id = input.organizationId) ∧
      O.rows = updateWhere (fun o => o.id = input.organizationId)
        (fun o => { o with
          revisionDate := max o.revisionDate input.now + 1
          updatedAt := input.now }) s.organizations.rows ∧
      ∃ revision : User → Timestamp, (∀ u, u.revisionDate < revision u) ∧
        U.rows = updateWhere (input.Account s) (fun u => { u with revisionDate := revision u })
          s.users.rows) ∧
    (effect.removed = true → ∃ init deletion assertion, rs = init ++ [deletion, assertion] ∧
      deletion.rows.length = 1) := by
  obtain ⟨s₃, _, rs₃, rs₄, h₃, hleave, rfl⟩ := runFrom_append h
  obtain ⟨s₂, _, rs₂, _, h₂, hgroups, rfl⟩ := runFrom_append h₃
  obtain ⟨s₁, _, rs₁, _, hgrants, hrevise, rfl⟩ := runFrom_append h₂
  have hG : ∃ G : Table CollectionUser, s₁ = { s with collectionUsers := G } ∧
      G.rows = effect.collectionUsers input s := by
    unfold MembershipEffect.collectionUsers
    cases hgiven : effect.grants with
    | none =>
      rw [hgiven] at hgrants
      exact ⟨s.collectionUsers, (runFrom_nil hgrants).1, rfl⟩
    | some grants =>
      rw [hgiven] at hgrants
      exact replaceGrants_applied hmarked hgrants
  obtain ⟨G, rfl, hG⟩ := hG
  have hmarked₁ : Marked { s with collectionUsers := G } auditId := hmarked
  obtain ⟨O, U, rfl, ho, hO, hU⟩ := revise_applied hmarked₁ hrevise
  have hmarked₂ : Marked { s with collectionUsers := G, organizations := O, users := U } auditId :=
    hmarked
  have hL : ∃ L : Table OrganizationGroupUser,
      s₃ = { s with
        collectionUsers := G, organizations := O, users := U, organizationGroupUsers := L } ∧
      L.rows = effect.organizationGroupUsers input s := by
    unfold MembershipEffect.organizationGroupUsers
    cases hleaves : effect.leavesGroups with
    | false =>
      rw [hleaves] at hgroups
      exact ⟨s.organizationGroupUsers, (runFrom_nil hgroups).1, rfl⟩
    | true =>
      rw [hleaves] at hgroups
      exact leaveGroups_applied hmarked₂ hgroups
  obtain ⟨L, rfl, hL⟩ := hL
  have hmarked₃ : Marked { s with
      collectionUsers := G, organizations := O, users := U, organizationGroupUsers := L } auditId :=
    hmarked
  have hpoll : ∃ revision : User → Timestamp, (∀ u, u.revisionDate < revision u) ∧
      U.rows = updateWhere (input.Account s) (fun u => { u with revisionDate := revision u })
        s.users.rows :=
    ⟨fun u => pollingRevision { s with collectionUsers := G, organizations := O } input.now u + 1,
      fun u => Nat.lt_succ_of_le (revisionDate_le_pollingRevision u), hU⟩
  by_cases hremove : effect.removed = true
  swap
  · rw [if_neg hremove] at hleave
    obtain ⟨rfl, rfl⟩ := runFrom_nil hleave
    exact ⟨⟨s.organizationUsers, G, L, O, U, rfl, (if_neg hremove).symm, hG, hL, ho, hO, hpoll⟩,
      fun h => absurd h hremove⟩
  · rw [if_pos hremove] at hleave
    obtain ⟨hnoGrants, hleaves⟩ := hremoved hremove
    have hleft : ∀ g ∈ G.rows, g.organizationUserId ≠ input.membershipId := by
      intro g hg
      rw [hG, MembershipEffect.collectionUsers, hnoGrants] at hg
      simp only [List.map_nil, List.append_nil] at hg
      exact (mem_deleteWhere.mp hg).2
    have hgone : ∀ g ∈ L.rows, g.organizationUserId = input.membershipId →
        g.organizationId ≠ input.organizationId := by
      intro g hg hid horg
      rw [hL, MembershipEffect.organizationGroupUsers, if_pos hleaves] at hg
      exact (mem_deleteWhere.mp hg).2 ⟨hid, horg⟩
    obtain ⟨⟨M, rfl, hM⟩, deletion, assertion, rfl, hlength⟩ :=
      leave_applied hmarked₃ hmember hleft hgone hleave
    exact ⟨⟨M, G, L, O, U, rfl, hM.trans (if_pos hremove).symm, hG, hL, ho, hO, hpoll⟩,
      fun _ => ⟨_, deletion, assertion, rfl, hlength⟩⟩

/-- **A mutation of one membership, with everything that belongs to it, or nothing.** -/
theorem runMutation_applied {hit : Db → Nat → OrganizationUser → Prop}
    [∀ db n, DecidablePred (hit db n)] {effect : MembershipEffect}
    {call : Db × Except Failure MembershipResult} {mutation : Statement Db}
    (hmutation : mutation = Db.organizationUsersIn.update hit fun _ => effect.set)
    (hcall : call = runMutation mutation input auditId effect.grants effect.removed
      effect.leavesGroups db)
    (hhit : ∀ m, hit db 0 m → input.Row m)
    (hset : ∀ m, (effect.set m).id = m.id ∧ (effect.set m).organizationId = m.organizationId)
    (hremoved : effect.removed = true → effect.grants = some [] ∧ effect.leavesGroups = true)
    (hfresh : ¬ Marked db auditId) :
    call.1 = db ∧ call.2 ≠ .ok .success ∨
    call.2 = .ok .success ∧ (∃ m ∈ db.organizationUsers.rows, hit db 0 m) ∧
      effect.Applied input db auditId call.1 := by
  subst hmutation hcall
  unfold runMutation
  rcases commit_cases (mutationBatch (Db.organizationUsersIn.update hit fun _ => effect.set) input
      auditId effect.grants effect.removed effect.leavesGroups) (interpretMutation effect.removed) db
    with ⟨hdb, e, he⟩ | ⟨db', rs, hrun, hdb, hresult⟩
  · exact Or.inl ⟨hdb, by simp [he]⟩
  rw [hdb, hresult]
  unfold mutationBatch at hrun
  simp only [List.cons_append, List.nil_append] at hrun
  obtain ⟨db₁, r₁, rs₁, hupdate, hrun₁, rfl⟩ := runFrom_cons hrun
  obtain ⟨M, hM, rfl, hc, hm⟩ := TableIn.update_ok hupdate
  obtain ⟨db₂, r₂, rs₂, haudit, hrun₂, rfl⟩ := runFrom_cons hrun₁
  obtain ⟨haudited, hunaudited⟩ := auditMutation_ok haudit
  obtain ⟨db₃, r₃, rs₃, hrequire, hrest, rfl⟩ := runFrom_cons hrun₂
  obtain ⟨-, rfl, -⟩ := assertThat_ok hrequire
  by_cases hfound : ∃ m ∈ db.organizationUsers.rows, hit db 0 m
  swap
  · left
    have hnone : ∀ m ∈ db.organizationUsers.rows, ¬ hit db 0 m := fun m hm hh => hfound ⟨m, hm, hh⟩
    have hzero : r₁.changes = 0 := by
      rw [hc, List.countP_eq_zero]
      exact fun m hm hh => hnone m hm (of_decide_eq_true hh)
    obtain ⟨hnoEvent, rfl⟩ := hunaudited (by omega)
    have hM' : M = db.organizationUsers := Table.ext (hM.trans (updateWhere_eq_self hnone))
    rw [hM'] at hrest
    refine ⟨runFrom_within (R := IdleUnmarked auditId) .refl .trans
      (mutationRest_idle effect.grants effect.removed effect.leavesGroups) hrest hfresh, ?_⟩
    simp [interpretMutation, hnoEvent, hm, hzero, Except.mapError]
  · right
    obtain ⟨m₀, hm₀, hh₀⟩ := hfound
    have hone : r₁.changes = 1 := by
      rw [hc]
      exact (db.organizationUsers.countP_eq_one_iff input.membershipId
        fun m hh => (hhit m hh).1).mpr ⟨m₀, hm₀, hh₀⟩
    have hrows : M.rows = updateWhere input.Row effect.set db.organizationUsers.rows := by
      refine hM.trans (updateWhere_congr fun m hm => ⟨hhit m, fun hrow => ?_⟩)
      rwa [db.organizationUsers.eq_of_key hm hm₀ (hrow.1.trans (hhit m₀ hh₀).1.symm)]
    obtain ⟨hevent, hmarked, A, rfl, hA⟩ := haudited hone
    have hmember : ∃ m ∈ M.rows, input.Row m := by
      refine ⟨effect.set m₀, ?_, (hset m₀).1.trans (hhit m₀ hh₀).1,
        (hset m₀).2.trans (hhit m₀ hh₀).2⟩
      rw [hrows]
      exact mem_updateWhere_of_hit hm₀ (hhit m₀ hh₀)
    obtain ⟨⟨M', G, L, O, U, rfl, hM', hG, hL, ho, hO, revision, hrevision, hU⟩, hdeletion⟩ :=
      mutationRest_applied hremoved hmarked hmember hrest
    refine ⟨?_, ⟨m₀, hm₀, hh₀⟩, ⟨m₀, hm₀, hhit m₀ hh₀⟩, ?_, hA, hG, hL, ho, hO,
      ⟨revision, hrevision, hU.trans (updateWhere_congr fun u _ => ?_)⟩, rfl⟩
    · rw [interpretMutation_success hevent, mapError_eq_ok]
      intro hremove
      obtain ⟨init, deletion, assertion, rfl, hlength⟩ := hdeletion hremove
      exact ⟨r₃ :: init, deletion, assertion, rfl, hlength⟩
    · rw [MembershipEffect.members, hM', hrows, deleteWhere_updateWhere fun m hm hrow =>
        ⟨(hset m).1.trans hrow.1, (hset m).2.trans hrow.2⟩]
    · constructor
      · rintro ⟨m, hm, hrow, hlink⟩
        simp only at hm
        rw [hrows] at hm
        rcases mem_updateWhere_cases hm with ⟨-, hmiss⟩ | ⟨m', hm', hrow', rfl⟩
        · exact absurd hrow hmiss
        · exact ⟨m', hm', hrow', hlink⟩
      · rintro ⟨m, hm, hrow, hlink⟩
        refine ⟨effect.set m, ?_, ⟨(hset m).1.trans hrow.1, (hset m).2.trans hrow.2⟩, hlink⟩
        simp only
        rw [hrows]
        exact mem_updateWhere_of_hit hm hrow

end Mutation

/-! ## Invitations -/

namespace MemberInvitesInput

variable (input : MemberInvitesInput) (auditIds : List String)

/-- The events under their ids. -/
def events : List AuditEventRow :=
  (input.auditEvents.zip auditIds).map fun event => { event.1 with id := event.2 }

/-- The direct grants of the invited members. -/
def grants : List CollectionUser :=
  input.collections.flatMap fun g => input.invites.map fun invite => g.row invite.id

/-- **The whole effect of an invitation**, and nothing else: a membership and an event for each
invite. -/
structure Applied (db db' : Db) : Prop where
  invited : (input.marked auditIds).map Prod.fst = input.invites
  members : db'.organizationUsers.rows =
    db.organizationUsers.rows ++ (input.marked auditIds).map input.row
  audited : (input.events auditIds).map AuditEventRow.toAuditEvent = input.auditEvents
  events : db'.auditEvents.rows = db.auditEvents.rows ++ input.events auditIds
  grants : db'.collectionUsers.rows = db.collectionUsers.rows ++ input.grants
  organization : ∃ o ∈ db.organizations.rows, o.id = input.organizationId
  organizations : db'.organizations.rows =
    updateWhere (fun o => o.id = input.organizationId)
      (fun o => { o with revisionDate := max o.revisionDate input.now + 1, updatedAt := input.now })
      db.organizations.rows
  rest : db' = { db with
    organizationUsers := db'.organizationUsers
    auditEvents := db'.auditEvents
    collectionUsers := db'.collectionUsers
    organizations := db'.organizations }

variable {input auditIds} {s s' : Db} {n : Nat} {rs : List StatementResult}

/-- The statement of one event. -/
abbrev auditInvite (input : MemberInvitesInput) (auditIds : List String)
    (event : (AuditEvent × String) × Nat) : Statement Db :=
  auditStatement event.1.1 event.1.2 fun db changes =>
    event.2 = 0 ∧ changes = input.invites.length ∨ event.2 ≠ 0 ∧ Marked db (marker auditIds)

/-- Without the first event there is none. -/
theorem auditInvites_idle : ∀ {events : List (AuditEvent × String)} {k n : Nat} {s s' : Db}
    {rs : List StatementResult}, (k = 0 → n ≠ input.invites.length) →
    ¬ Marked s (marker auditIds) →
    runFrom ((events.zipIdx k).map (input.auditInvite auditIds)) s n = .ok (s', rs) → s' = s
  | [], _, _, _, _, _, _, _, h => (runFrom_nil h).1
  | event :: events, k, n, s, s', rs, hfirst, hmarked, h => by
    obtain ⟨s₁, r, rs', haudit, hrest, -⟩ := runFrom_cons h
    obtain ⟨A, hA, rfl, -⟩ := TableIn.insertSelect_ok haudit
    have hnone : ¬ (k = 0 ∧ n = input.invites.length ∨ k ≠ 0 ∧ Marked s (marker auditIds)) := by
      rintro (⟨hk, hn⟩ | ⟨-, hm⟩)
      · exact hfirst hk hn
      · exact hmarked hm
    rw [if_neg hnone, List.append_nil] at hA
    rw [Table.ext hA] at hrest
    exact auditInvites_idle (fun hk => absurd hk k.succ_ne_zero) hmarked hrest

/-- With the first event there are all. -/
theorem auditInvites_applied : ∀ {events : List (AuditEvent × String)} {k n : Nat} {s s' : Db}
    {rs : List StatementResult}, (k = 0 ∧ n = input.invites.length ∧
      (∀ event ∈ events.head?, event.2 = marker auditIds) ∨ k ≠ 0 ∧ Marked s (marker auditIds)) →
    runFrom ((events.zipIdx k).map (input.auditInvite auditIds)) s n = .ok (s', rs) →
    (∀ r ∈ rs, r.metaChanges = 1) ∧ ∃ A : Table AuditEventRow, s' = { s with auditEvents := A } ∧
      A.rows = s.auditEvents.rows ++
        events.map fun event => { event.1 with id := event.2 }
  | [], _, _, s, s', _, _, h => by
    obtain ⟨hs, rfl⟩ := runFrom_nil h
    exact ⟨by simp, s.auditEvents, hs, by simp⟩
  | event :: events, k, n, s, s', rs, hfirst, h => by
    obtain ⟨s₁, r, rs', haudit, hrest, rfl⟩ := runFrom_cons h
    obtain ⟨A, hA, rfl, hc, hm⟩ := TableIn.insertSelect_ok haudit
    have hsome : k = 0 ∧ n = input.invites.length ∨ k ≠ 0 ∧ Marked s (marker auditIds) :=
      hfirst.imp_left fun h => ⟨h.1, h.2.1⟩
    rw [if_pos hsome] at hA hc
    have hmarked : Marked { s with auditEvents := A } (marker auditIds) := by
      rcases hfirst with ⟨-, -, hhead⟩ | ⟨-, e, he, hid⟩
      · refine ⟨{ event.1 with id := event.2 }, ?_, hhead event rfl⟩
        simp only
        rw [hA]
        exact List.mem_append_right _ (List.mem_singleton_self _)
      · refine ⟨e, ?_, hid⟩
        simp only
        rw [hA]
        exact List.mem_append_left _ he
    obtain ⟨hall, A', rfl, hA'⟩ :=
      auditInvites_applied (Or.inr ⟨k.succ_ne_zero, hmarked⟩) hrest
    refine ⟨?_, A', rfl, ?_⟩
    · rintro r' hr'
      rcases List.mem_cons.mp hr' with rfl | hr'
      · exact hm.trans hc
      · exact hall r' hr'
    · rw [hA', hA, List.append_assoc]
      rfl

/-- The statements after the events. -/
def inviteRest (input : MemberInvitesInput) (auditIds : List String) : List (Statement Db) :=
  [input.requireInviteAudits auditIds,
    Db.collectionUsersIn.insertReferencing
      (fun db _ => if Marked db (marker auditIds) then input.grants else [])
      CollectionUser.Refers,
    assertThat fun db changes => ¬ Marked db (marker auditIds) ∨
      changes = input.collections.length * input.invites.length,
    revisionStatement input.organizationId input.now (marker auditIds),
    assertThat fun db changes => ¬ Marked db (marker auditIds) ∨ changes = 1]

theorem batch_eq (input : MemberInvitesInput) (auditIds : List String) :
    input.batch auditIds = input.insertInvites auditIds ::
      (input.auditInvites auditIds ++ input.inviteRest auditIds) := rfl

theorem inviteRest_idle :
    ∀ st ∈ input.inviteRest auditIds, st.Within (IdleUnmarked (marker auditIds)) := by
  intro st hst
  simp only [inviteRest, List.mem_cons, List.not_mem_nil, or_false] at hst
  rcases hst with rfl | rfl | rfl | rfl | rfl
  · exact assertThat_within .refl
  · exact insertReferencing_idleUnmarked fun _ _ hmarked => if_neg hmarked
  · exact assertThat_within .refl
  · exact update_idleUnmarked fun _ _ _ hh => hh.2
  · exact assertThat_within .refl

theorem inviteRest_applied (hmarked : Marked s (marker auditIds))
    (h : runFrom (input.inviteRest auditIds) s n = .ok (s', rs)) :
    ∃ (G : Table CollectionUser) (O : Table Organization),
      s' = { s with collectionUsers := G, organizations := O } ∧
      G.rows = s.collectionUsers.rows ++ input.grants ∧
      (∃ o ∈ s.organizations.rows, o.id = input.organizationId) ∧
      O.rows = updateWhere (fun o => o.id = input.organizationId)
        (fun o => { o with
          revisionDate := max o.revisionDate input.now + 1
          updatedAt := input.now }) s.organizations.rows := by
  obtain ⟨_, _, _, hrequire, h₁, -⟩ := runFrom_cons h
  obtain ⟨-, rfl, -⟩ := assertThat_ok hrequire
  obtain ⟨_, _, _, hinsert, h₂, -⟩ := runFrom_cons h₁
  obtain ⟨-, G, hG, rfl, -⟩ := TableIn.insertReferencing_ok hinsert
  obtain ⟨_, _, _, hassert, h₃, -⟩ := runFrom_cons h₂
  obtain ⟨-, rfl, -⟩ := assertThat_ok hassert
  obtain ⟨_, _, _, horganization, h₄, -⟩ := runFrom_cons h₃
  obtain ⟨O, hO, rfl, hc, -⟩ := TableIn.update_ok horganization
  obtain ⟨_, _, _, hassert', h₅, -⟩ := runFrom_cons h₄
  obtain ⟨hone, rfl, -⟩ := assertThat_ok hassert'
  obtain ⟨rfl, -⟩ := runFrom_nil h₅
  rw [if_pos hmarked] at hG
  refine ⟨G, O, rfl, hG, ?_, hO.trans (updateWhere_congr fun o _ => ?_)⟩
  · have hcount := hone.resolve_left (not_not_intro hmarked)
    rw [hc] at hcount
    obtain ⟨o, ho, hid, -⟩ := countP_pos_iff_exists.mp (Nat.one_pos.trans_eq hcount.symm)
    exact ⟨o, ho, hid⟩
  · exact ⟨And.left, fun hid => ⟨hid, hmarked⟩⟩

/-- The audit results are read as the statements ran. -/
theorem interpret_inserted {mutation : StatementResult} {audits rest : List StatementResult}
    (hmutation : mutation.metaChanges = input.invites.length)
    (hlength : audits.length = input.invites.length) (haudits : ∀ r ∈ audits, r.metaChanges = 1) :
    input.interpret (mutation :: (audits ++ rest)) = .ok true := by
  have htake : (audits ++ rest).take input.invites.length = audits := by
    rw [← hlength, List.take_left]
  simp only [interpret, List.head?_cons, Option.map_some, Option.getD_some, List.drop_one,
    List.tail_cons, htake, hmutation, true_and]
  rw [if_neg]
  · rfl
  · rintro ⟨r, hr, hne⟩
    exact hne (haudits r hr)

/-- The first event stands under the marker. -/
theorem zip_marker {events : List AuditEvent} (hlength : auditIds.length = events.length)
    (hne : events ≠ []) :
    ∃ first others, events.zip auditIds = (first, marker auditIds) :: others := by
  cases events with
  | nil => exact absurd rfl hne
  | cons first events =>
    cases auditIds with
    | nil => cases hlength
    | cons id ids => exact ⟨first, events.zip ids, rfl⟩

/-- **All invites are inserted, or the database is as before.** -/
theorem batch_applied {db : Db} (hids : auditIds.length = input.invites.length)
    (hevents : input.auditEvents.length = input.invites.length) (hpos : 0 < input.invites.length)
    (hfresh : ∀ id ∈ auditIds, ¬ Marked db id) {db' : Db}
    (hrun : runBatch (input.batch auditIds) db = .ok (db', rs)) :
    db' = db ∧ input.interpret rs = .ok false ∨
    input.interpret rs = .ok true ∧ input.Allowed db ∧ input.Applied auditIds db db' := by
  rw [batch_eq] at hrun
  obtain ⟨db₁, r₁, rs₁, hinsert, hrun₁, rfl⟩ := runFrom_cons hrun
  obtain ⟨M, hM, rfl, hc, hm⟩ := TableIn.insertSelect_ok hinsert
  obtain ⟨db₂, n₂, audits, rest, haudit, hrest, rfl⟩ := runFrom_append hrun₁
  obtain ⟨first, others, hzip⟩ := zip_marker (hids.trans hevents.symm)
    (List.length_pos_iff.mp (hevents ▸ hpos))
  have hmarker : marker auditIds ∈ auditIds := by
    have hmem : (first, marker auditIds) ∈ input.auditEvents.zip auditIds := by
      rw [hzip]
      exact List.mem_cons_self
    exact (List.of_mem_zip hmem).2
  by_cases hallowed : input.Allowed db
  · right
    rw [if_pos hallowed] at hM hc
    have hcount : r₁.changes = input.invites.length := by
      rw [hc, List.length_map, marked, List.length_zip, hids, min_self]
    have hhead : ∀ event ∈ (input.auditEvents.zip auditIds).head?, event.2 = marker auditIds := by
      rw [hzip]
      rintro event hevent
      rw [← Option.some.inj hevent]
    obtain ⟨hall, A, rfl, hA⟩ := auditInvites_applied (Or.inl ⟨rfl, hcount, hhead⟩) haudit
    have hmarked : Marked { db with organizationUsers := M, auditEvents := A }
        (marker auditIds) := by
      refine ⟨{ first with id := marker auditIds }, ?_, rfl⟩
      simp only
      rw [hA, hzip]
      exact List.mem_append_right _ List.mem_cons_self
    obtain ⟨G, O, rfl, hG, ho, hO⟩ := inviteRest_applied hmarked hrest
    have hlength : audits.length = input.invites.length := by
      rw [runFrom_length haudit, auditInvites, List.length_map, List.length_zipIdx, List.length_zip,
        hids, hevents, min_self]
    refine ⟨interpret_inserted (hm.trans hcount) hlength hall, hallowed, ?_, hM, ?_, hA, hG, ho, hO,
      rfl⟩
    · exact List.map_fst_zip hids.ge
    · rw [events, List.map_map]
      exact List.map_fst_zip (hids.trans hevents.symm).ge
  · left
    rw [if_neg hallowed] at hM hc
    rw [List.append_nil] at hM
    rw [Table.ext hM] at haudit
    have hzero : r₁.changes = 0 := hc
    obtain rfl := auditInvites_idle (fun _ => by omega) (hfresh _ hmarker) haudit
    refine ⟨runFrom_within .refl .trans inviteRest_idle hrest (hfresh _ hmarker), ?_⟩
    have hne : ¬ 0 = input.invites.length := by omega
    simp [interpret, hm, hzero, hne]

end MemberInvitesInput

theorem insertOrganizationMemberInvites_applied {input : MemberInvitesInput}
    {auditIds : List String} {db : Db} (hids : auditIds.length = input.auditEvents.length)
    (hfresh : ∀ id ∈ auditIds, ¬ Marked db id) {call : Db × Except Failure MembershipResult}
    (hcall : call = insertOrganizationMemberInvites input auditIds db) :
    call.1 = db ∧ call.2 ≠ .ok .success ∨
    call.2 = .ok .success ∧ input.Allowed db ∧ input.Applied auditIds db call.1 := by
  subst hcall
  unfold insertOrganizationMemberInvites
  split
  · exact Or.inl ⟨rfl, by simp⟩
  rename_i hbounds
  simp only [not_or, not_lt, not_not] at hbounds
  obtain ⟨hpos, -, hevents⟩ := hbounds
  have hfailed : (commit (input.batch auditIds) input.interpret db).1 = db ∧
        (commit (input.batch auditIds) input.interpret db).2 ≠ .ok true ∨
      (commit (input.batch auditIds) input.interpret db).2 = .ok true ∧ input.Allowed db ∧
        input.Applied auditIds db (commit (input.batch auditIds) input.interpret db).1 := by
    rcases commit_cases (input.batch auditIds) input.interpret db with
      ⟨hdb, e, he⟩ | ⟨db', rs, hrun, hdb, hresult⟩
    · exact Or.inl ⟨hdb, by simp [he]⟩
    rw [hdb, hresult, ne_eq, mapError_eq_ok]
    rcases MemberInvitesInput.batch_applied (hids.trans hevents) hevents hpos hfresh hrun with
      ⟨hdb', hread⟩ | happlied
    · exact Or.inl ⟨hdb', by simp [hread]⟩
    · exact Or.inr happlied
  split <;> rename_i hcommit <;> rw [hcommit] at hfailed
  · exact Or.inl ⟨(hfailed.resolve_right fun h => by cases h.1).1, by simp⟩
  · exact Or.inl ⟨(hfailed.resolve_right fun h => by cases h.1).1, by simp⟩
  · exact Or.inr ⟨rfl, (hfailed.resolve_left fun h => h.2 rfl).2⟩
  · refine Or.inl ⟨(hfailed.resolve_right fun h => by cases h.1).1, ?_⟩
    simp only
    split
    · simp
    · split <;> simp

/-! ## Every request -/

/-- A request to mutate one membership. -/
inductive MemberMutation where
  | accept (input : AcceptInviteInput)
  | confirm (input : ConfirmMemberInput)
  | update (input : UpdateMemberInput)
  | revoke (input : MembershipMutation)
  | remove (input : MembershipMutation)
  | reinvite (input : ReinviteMemberInput)

namespace MemberMutation

/-- The request. -/
def run (mutationId : String) : MemberMutation → Db → Db × Except Failure MembershipResult
  | accept input => acceptOrganizationMemberInvite input mutationId
  | confirm input => confirmOrganizationMember input mutationId
  | update input => updateOrganizationMember input mutationId
  | revoke input => revokeOrganizationMember input mutationId
  | remove input => removeOrganizationMember input mutationId
  | reinvite input => reinviteOrganizationMember input mutationId

/-- The membership it names. -/
def target : MemberMutation → MembershipTarget
  | accept input => input.toMembershipTarget
  | confirm input => input.toMembershipTarget
  | update input => input.toMembershipTarget
  | revoke input => input.toMembershipTarget
  | remove input => input.toMembershipTarget
  | reinvite input => input.toMembershipTarget

/-- The effect it asks for: an accepted member is linked to its account, a confirmed one gets the
organization key, an updated one its role and grants; who is revoked or removed keeps neither key,
token, grants nor groups, and who is invited again starts over with a new token. -/
def effect (mutationId : String) : MemberMutation → MembershipEffect
  | accept input =>
    { set := fun m =>
        { m with
          userId := some input.userId
          status := 1
          inviteTokenHash := none
          inviteExpiresAt := none
          updatedAt := input.now
          lastMembershipMutationId := some mutationId } }
  | confirm input =>
    { set := fun m =>
        { m with
          status := 2
          orgKey := some input.keyEncrypted
          updatedAt := input.now
          lastMembershipMutationId := some mutationId } }
  | update input =>
    { set := fun m =>
        { m with
          type := input.type.toInt
          permissions := none
          updatedAt := input.now
          lastMembershipMutationId := some mutationId }
      grants := some input.collections }
  | revoke input => { set := input.revokeRow mutationId, grants := some [], leavesGroups := true }
  | remove input =>
    { set := input.revokeRow mutationId, grants := some [], leavesGroups := true, removed := true }
  | reinvite input =>
    { set := fun m =>
        { m with
          status := 0
          userId := none
          orgKey := none
          inviteTokenHash := some input.inviteTokenHash
          inviteExpiresAt := some input.inviteExpiresAt
          updatedAt := input.now
          lastMembershipMutationId := some mutationId } }

/-- What it asks of that membership. -/
def Guard : MemberMutation → Db → OrganizationUser → Prop
  | accept input, db, m => input.Invitation m ∧ input.Invitee db m
  | confirm input, db, m => input.Row m ∧ m.status = 1 ∧ m.orgKey = none ∧ input.Manager db m ∧
    ∃ u ∈ db.users.rows, m.userId = some u.id ∧ u.disabledAt = none ∧ u.emailNormalized = m.email ∧
      OrganizationTotpEnrollmentAllows db m.organizationId (some u.id)
  | update input, db, m => input.Member db m
  | revoke input, db, m =>
    input.Revocable (fun status => status = 0 ∨ status = 1 ∨ status = 2) db m
  | remove input, db, m => input.Revocable (fun _ => True) db m
  | reinvite input, db, m => input.Row m ∧ m.status = 0 ∧ m.email = input.emailNormalized ∧
    input.Manager db m ∧ input.InvitationLimits input.now 1 db ∧
    ¬ ReinviteCooldown db input.organizationId input.membershipId input.now

instance (mutation : MemberMutation) (db : Db) : DecidablePred (mutation.Guard db) := fun m =>
  match mutation with
  | accept input => inferInstanceAs (Decidable (input.Invitation m ∧ input.Invitee db m))
  | confirm input => inferInstanceAs (Decidable (input.Row m ∧ m.status = 1 ∧ m.orgKey = none ∧
    input.Manager db m ∧ ∃ u ∈ db.users.rows, m.userId = some u.id ∧ u.disabledAt = none ∧
      u.emailNormalized = m.email ∧
      OrganizationTotpEnrollmentAllows db m.organizationId (some u.id)))
  | update input => inferInstanceAs (Decidable (input.Member db m))
  | revoke input => inferInstanceAs (Decidable
    (input.Revocable (fun status => status = 0 ∨ status = 1 ∨ status = 2) db m))
  | remove input => inferInstanceAs (Decidable (input.Revocable (fun _ => True) db m))
  | reinvite input => inferInstanceAs (Decidable (input.Row m ∧ m.status = 0 ∧
    m.email = input.emailNormalized ∧ input.Manager db m ∧
    input.InvitationLimits input.now 1 db ∧
    ¬ ReinviteCooldown db input.organizationId input.membershipId input.now))

theorem Guard.row {mutation : MemberMutation} {db : Db} {m : OrganizationUser}
    (h : mutation.Guard db m) : mutation.target.Row m := by
  cases mutation with
  | accept input => exact h.1.1
  | _ => exact h.1

/-- Only an open invitation changes its account. -/
theorem Guard.account {mutation : MemberMutation} {db : Db} {m : OrganizationUser}
    (h : mutation.Guard db m) (mutationId : String) (hstatus : m.status ≠ 0) :
    ((mutation.effect mutationId).set m).userId = m.userId := by
  cases mutation with
  | accept input => exact absurd h.1.2.1 hstatus
  | reinvite input => exact absurd h.2.1 hstatus
  | _ => rfl

theorem effect_set (mutation : MemberMutation) (mutationId : String) (m : OrganizationUser) :
    ((mutation.effect mutationId).set m).id = m.id ∧
      ((mutation.effect mutationId).set m).organizationId = m.organizationId := by
  cases mutation <;> exact ⟨rfl, rfl⟩

theorem effect_removed (mutation : MemberMutation) (mutationId : String)
    (h : (mutation.effect mutationId).removed = true) :
    (mutation.effect mutationId).grants = some [] ∧
      (mutation.effect mutationId).leavesGroups = true := by
  cases mutation with
  | remove input => exact ⟨rfl, rfl⟩
  | _ => cases h

/-- A request that is answered by its limits was refused. -/
theorem reinvite_success {input : ReinviteMemberInput} {mutationId : String} {db : Db} :
    (reinviteOrganizationMember input mutationId db).2 = .ok .success ↔
      (runMutation (reinviteMember input mutationId) input.toMembershipTarget mutationId none false
        false db).2 = .ok .success := by
  simp only [reinviteOrganizationMember]
  cases (runMutation (reinviteMember input mutationId) input.toMembershipTarget mutationId none
      false false db).2 with
  | error e => simp [Except.map]
  | ok result =>
    simp only [Except.map, Except.ok.injEq]
    split
    · rfl
    · split <;> simp_all

/-- **A mutation of one membership applies in full, or not at all.** -/
theorem run_applied (mutation : MemberMutation) {mutationId : String} {db : Db}
    (hfresh : ¬ Marked db mutationId) :
    (mutation.run mutationId db).1 = db ∧ (mutation.run mutationId db).2 ≠ .ok .success ∨
    (mutation.run mutationId db).2 = .ok .success ∧
      (∃ m ∈ db.organizationUsers.rows, mutation.Guard db m) ∧
      (mutation.effect mutationId).Applied mutation.target db mutationId
        (mutation.run mutationId db).1 := by
  have hset := mutation.effect_set mutationId
  have hremoved := mutation.effect_removed mutationId
  have hrow : ∀ m, mutation.Guard db m → mutation.target.Row m := fun _ => Guard.row
  cases mutation with
  | accept input =>
    have hmutation : acceptInvite input mutationId = Db.organizationUsersIn.update
        (fun db _ => (accept input).Guard db)
        fun _ => ((accept input).effect mutationId).set := rfl
    exact runMutation_applied hmutation rfl hrow hset hremoved hfresh
  | confirm input =>
    have hmutation : confirmMember input mutationId = Db.organizationUsersIn.update
        (fun db _ => (confirm input).Guard db)
        fun _ => ((confirm input).effect mutationId).set := rfl
    exact runMutation_applied hmutation rfl hrow hset hremoved hfresh
  | update input =>
    have hmutation : updateMember input mutationId = Db.organizationUsersIn.update
        (fun db _ => (update input).Guard db)
        fun _ => ((update input).effect mutationId).set := rfl
    exact runMutation_applied hmutation rfl hrow hset hremoved hfresh
  | revoke input =>
    have hmutation : revokeMember input (fun status => status = 0 ∨ status = 1 ∨ status = 2)
        mutationId = Db.organizationUsersIn.update (fun db _ => (revoke input).Guard db)
        fun _ => ((revoke input).effect mutationId).set := rfl
    exact runMutation_applied hmutation rfl hrow hset hremoved hfresh
  | remove input =>
    have hmutation : revokeMember input (fun _ => True) mutationId =
        Db.organizationUsersIn.update (fun db _ => (remove input).Guard db)
        fun _ => ((remove input).effect mutationId).set := rfl
    exact runMutation_applied hmutation rfl hrow hset hremoved hfresh
  | reinvite input =>
    have hmutation : reinviteMember input mutationId = Db.organizationUsersIn.update
        (fun db _ => (reinvite input).Guard db)
        fun _ => ((reinvite input).effect mutationId).set := rfl
    simp only [run, ne_eq, reinvite_success]
    exact runMutation_applied hmutation rfl hrow hset hremoved hfresh

end MemberMutation

/-- A request to the memberships of an organization, with the ids it draws. -/
inductive MembershipRequest where
  | invite (input : MemberInvitesInput) (auditIds : List String)
  | mutate (mutation : MemberMutation) (mutationId : String)

namespace MembershipRequest

def run : MembershipRequest → Db → Db × Except Failure MembershipResult
  | invite input auditIds => insertOrganizationMemberInvites input auditIds
  | mutate mutation mutationId => mutation.run mutationId

def organizationId : MembershipRequest → String
  | invite input _ => input.organizationId
  | mutate mutation _ => mutation.target.organizationId

/-- The ids are new, one for each event. -/
def Drawn : MembershipRequest → Db → Prop
  | invite input auditIds, db =>
    auditIds.length = input.auditEvents.length ∧ ∀ id ∈ auditIds, ¬ Marked db id
  | mutate _ mutationId, db => ¬ Marked db mutationId

/-- The whole effect of the request. -/
def Applied : MembershipRequest → Db → Db → Prop
  | invite input auditIds, db, db' => input.Applied auditIds db db'
  | mutate mutation mutationId, db, db' =>
    (mutation.effect mutationId).Applied mutation.target db mutationId db'

/-- The account is linked to the membership, before the mutation or after it; an open invitation
(status 0) is of no account. -/
def Affects : MembershipRequest → Db → User → Prop
  | invite _ _, _, _ => False
  | mutate mutation mutationId, db, u => ∃ m ∈ db.organizationUsers.rows, mutation.target.Row m ∧
    (m.status ≠ 0 ∧ m.userId = some u.id ∨
      ((mutation.effect mutationId).set m).userId = some u.id)

/-- The organization and every affected account are strictly newer. -/
structure Revised (request : MembershipRequest) (db db' : Db) : Prop where
  organization : ∃ o ∈ db.organizations.rows, ∃ o' ∈ db'.organizations.rows,
    o.id = request.organizationId ∧ o'.id = request.organizationId ∧ o.revisionDate < o'.revisionDate
  accounts : ∀ u ∈ db.users.rows, request.Affects db u →
    ∃ u' ∈ db'.users.rows, u'.id = u.id ∧ u.revisionDate < u'.revisionDate

theorem organization_revised {organizationId : String} {now : Timestamp} {db db' : Db}
    (horganization : ∃ o ∈ db.organizations.rows, o.id = organizationId)
    (hrows : db'.organizations.rows = updateWhere (fun o => o.id = organizationId)
      (fun o => { o with revisionDate := max o.revisionDate now + 1, updatedAt := now })
      db.organizations.rows) :
    ∃ o ∈ db.organizations.rows, ∃ o' ∈ db'.organizations.rows,
      o.id = organizationId ∧ o'.id = organizationId ∧ o.revisionDate < o'.revisionDate := by
  obtain ⟨o, ho, hid⟩ := horganization
  refine ⟨o, ho, { o with revisionDate := max o.revisionDate now + 1, updatedAt := now }, ?_, hid, hid,
    Nat.lt_succ_of_le (Nat.le_max_left _ _)⟩
  rw [hrows]
  exact mem_updateWhere_of_hit ho hid

theorem Applied.revised {request : MembershipRequest} {db db' : Db} (h : request.Applied db db')
    (hguard : ∀ mutation mutationId, request = mutate mutation mutationId →
      ∃ m ∈ db.organizationUsers.rows, mutation.Guard db m) : request.Revised db db' := by
  cases request with
  | invite input auditIds =>
    exact ⟨organization_revised h.organization h.organizations, fun _ _ haffects => haffects.elim⟩
  | mutate mutation mutationId =>
    refine ⟨organization_revised h.organization h.organizations, fun u hu haffects => ?_⟩
    obtain ⟨m₀, hm₀, hh₀⟩ := hguard mutation mutationId rfl
    obtain ⟨m, hm, hrow, hlinked⟩ := haffects
    obtain rfl : m = m₀ := db.organizationUsers.eq_of_key hm hm₀ (hrow.1.trans hh₀.row.1.symm)
    have hlinks : (mutation.effect mutationId).Links mutation.target db u := by
      refine ⟨m, hm, hrow, hlinked.elim (fun hbefore => ?_) id⟩
      exact (hh₀.account mutationId hbefore.1).trans hbefore.2
    obtain ⟨revision, hrevision, hrows⟩ := h.accounts
    refine ⟨{ u with revisionDate := revision u }, ?_, rfl, hrevision u⟩
    rw [hrows]
    exact mem_updateWhere_of_hit hu hlinks

/-- **A request to the memberships of an organization either fails and changes nothing, or has its
whole effect and no other**: the change of every requested member, one event for each, the
replaced grants and the group links, and a strictly newer organization and account. -/
theorem membershipMutation_allOrNothing (request : MembershipRequest) (db : Db)
    (hdrawn : request.Drawn db) :
    (request.run db).1 = db ∧ (request.run db).2 ≠ .ok .success ∨
    (request.run db).2 = .ok .success ∧ request.Applied db (request.run db).1 ∧
      request.Revised db (request.run db).1 := by
  cases request with
  | invite input auditIds =>
    rcases insertOrganizationMemberInvites_applied hdrawn.1 hdrawn.2 rfl with
      hfailed | ⟨hsuccess, -, happlied⟩
    · exact Or.inl hfailed
    · have hrequest : (invite input auditIds).Applied db
          (insertOrganizationMemberInvites input auditIds db).1 := happlied
      exact Or.inr ⟨hsuccess, happlied, hrequest.revised fun _ _ h => by cases h⟩
  | mutate mutation mutationId =>
    rcases mutation.run_applied hdrawn with hfailed | ⟨hsuccess, hguard, happlied⟩
    · exact Or.inl hfailed
    · refine Or.inr ⟨hsuccess, happlied, Applied.revised happlied fun mutation' mutationId' h => ?_⟩
      cases h
      exact hguard

/-- The first of two Owners removes the second. -/
theorem membershipMutation_allOrNothing_removal :
    (removeOrganizationMember (removal "m2") "x" twoOwners).2 = .ok .success ∧
      (mutate (.remove (removal "m2")) "x").Revised twoOwners
        (removeOrganizationMember (removal "m2") "x" twoOwners).1 := by
  have hsuccess : (removeOrganizationMember (removal "m2") "x" twoOwners).2 = .ok .success := by
    decide
  have h := membershipMutation_allOrNothing (mutate (.remove (removal "m2")) "x") twoOwners
    (by decide : ¬ Marked twoOwners "x")
  exact ⟨hsuccess, (h.resolve_left fun hfailed => hfailed.2 hsuccess).2.2⟩

end MembershipRequest

end HonoWarden
