import HonoWarden.Lifecycle.Email

/-!
# Who may change a membership

The mutations of memberships, groups, foundations and account addresses as one system
(`membershipSystem`). `MembershipShape` is what a state of it looks like: a key, a token and an
account each say something about the status of the membership that has them.

Results, from any state of that shape and over any run:
* one request keeps the shape (`MembershipStep.shape`); it lets an invitation be accepted by the
  holder of its token, with the invited address, and a member be confirmed by a manager
  (`MembershipStep.moves`); and what an Admin does reaches no membership of an Owner or an Admin,
  neither its role, status and grants nor, through a group, its collections
  (`MembershipStep.untouched`);
* **`membership_authority`**: all three, over runs.
-/

namespace HonoWarden

open Relational

/-! ## The system -/

/-- A request, with the ids it draws. -/
inductive MembershipOp where
  | foundation (input : OrganizationFoundationInput)
  | membership (request : MembershipRequest)
  | createGroup (input : OrganizationGroupWriteInput) (mutationId : String)
  | updateGroup (input : OrganizationGroupWriteInput) (mutationId : String)
  | deleteGroup (input : OrganizationGroupMutation) (mutationId : String)
  | removeGroupMember (input : OrganizationGroupMutation) (membershipId mutationId : String)
  | changeEmail (input : ChangeAccountEmailInput)

namespace MembershipOp

variable (fingerprint : String → String)

/-- The database after the request. -/
def run : MembershipOp → Db → Db
  | foundation input, db => (createOrganizationFoundation input db).1
  | membership request, db => (request.run db).1
  | createGroup input mutationId, db => (createOrganizationGroup input mutationId db).1
  | updateGroup input mutationId, db => (updateOrganizationGroup input mutationId db).1
  | deleteGroup input mutationId, db => (deleteOrganizationGroup input mutationId db).1
  | removeGroupMember input membershipId mutationId, db =>
    (removeOrganizationGroupMember input membershipId mutationId db).1
  | changeEmail input, db => (changeAccountEmail fingerprint input db).1

/-- The ids of audit events a request draws. -/
def draws : MembershipOp → List String
  | foundation _ => []
  | membership (.invite _ auditIds) => auditIds
  | membership (.mutate _ mutationId) => [mutationId]
  | createGroup _ mutationId => [mutationId]
  | updateGroup _ mutationId => [mutationId]
  | deleteGroup _ mutationId => [mutationId]
  | removeGroupMember _ _ mutationId => [mutationId]
  | changeEmail input => [input.auditEventId]

/-- An invitation draws one id for each event. -/
def WellFormed : MembershipOp → Prop
  | membership (.invite input auditIds) => auditIds.length = input.auditEvents.length
  | _ => True

instance : DecidablePred WellFormed := fun op =>
  match op with
  | membership (.invite input auditIds) =>
    inferInstanceAs (Decidable (auditIds.length = input.auditEvents.length))
  | membership (.mutate _ _) => inferInstanceAs (Decidable True)
  | foundation _ => inferInstanceAs (Decidable True)
  | createGroup _ _ => inferInstanceAs (Decidable True)
  | updateGroup _ _ => inferInstanceAs (Decidable True)
  | deleteGroup _ _ => inferInstanceAs (Decidable True)
  | removeGroupMember _ _ _ => inferInstanceAs (Decidable True)
  | changeEmail _ => inferInstanceAs (Decidable True)

/-- The account that makes the request. -/
def performer : MembershipOp → String
  | foundation input => input.userId
  | membership (.invite input _) => input.actorUserId
  | membership (.mutate (.accept input) _) => input.userId
  | membership (.mutate (.confirm input) _) => input.actorUserId
  | membership (.mutate (.update input) _) => input.actorUserId
  | membership (.mutate (.revoke input) _) => input.actorUserId
  | membership (.mutate (.remove input) _) => input.actorUserId
  | membership (.mutate (.reinvite input) _) => input.actorUserId
  | createGroup input _ => input.actor.userId
  | updateGroup input _ => input.actor.userId
  | deleteGroup input _ => input.actor.userId
  | removeGroupMember input _ _ => input.actor.userId
  | changeEmail input => input.userId

/-- The organization it is made to; a foundation and a change of address are made to none. -/
def organizationId : MembershipOp → Option String
  | foundation _ => none
  | membership request => some request.organizationId
  | createGroup input _ => some input.organizationId
  | updateGroup input _ => some input.organizationId
  | deleteGroup input _ => some input.organizationId
  | removeGroupMember input _ _ => some input.organizationId
  | changeEmail _ => none

/-- An Admin of the organization makes the request. -/
def ByAdmin (op : MembershipOp) (db : Db) : Prop :=
  ∃ a ∈ db.organizationUsers.rows, a.userId = some op.performer ∧ a.type = 1 ∧
    ∀ o ∈ op.organizationId, a.organizationId = o

end MembershipOp

/-- The requests, in any order. -/
def membershipSystem (fingerprint : String → String) : System Db MembershipOp String :=
  (System.ofFunction (MembershipOp.run fingerprint) MembershipOp.draws).restrict
    fun _ op => op.WellFormed

/-! ## Properties -/

/-- What a key, a token and an account say about a membership; and what a membership and a group
link refer to. -/
structure MembershipShape (db : Db) : Prop where
  key : ∀ m ∈ db.organizationUsers.rows, m.orgKey ≠ none → m.status = 2
  token : ∀ m ∈ db.organizationUsers.rows, m.inviteTokenHash ≠ none → m.status = 0 ∧ m.userId = none
  account : ∀ m ∈ db.organizationUsers.rows, ∀ m' ∈ db.organizationUsers.rows,
    m.organizationId = m'.organizationId → m.userId = m'.userId → m.userId ≠ none → m = m'
  organization : ∀ m ∈ db.organizationUsers.rows,
    ∃ o ∈ db.organizations.rows, o.id = m.organizationId
  group : ∀ link ∈ db.organizationGroupUsers.rows, GroupExists db link.groupId link.organizationId

/-- Who moved a membership on. -/
structure MovesAuthorized (op : MembershipOp) (db db' : Db) : Prop where
  accepted : ∀ m ∈ db.organizationUsers.rows, ∀ m' ∈ db'.organizationUsers.rows, m'.id = m.id →
    m.status = 0 → m'.status = 1 →
    ∃ input mutationId, op = .membership (.mutate (.accept input) mutationId) ∧
      m.inviteTokenHash = some input.inviteTokenHash ∧ m'.userId = some input.userId ∧
      ∃ u ∈ db.users.rows, u.id = input.userId ∧ u.emailNormalized = m.email
  confirmed : ∀ m ∈ db.organizationUsers.rows, ∀ m' ∈ db'.organizationUsers.rows, m'.id = m.id →
    m.status = 1 → m'.status = 2 →
    ∃ input mutationId, op = .membership (.mutate (.confirm input) mutationId) ∧
      input.organizationId = m.organizationId ∧ input.Manager db m

/-- The membership keeps its role, status, direct grants and collections. -/
def Untouched (db db' : Db) (t : OrganizationUser) : Prop :=
  ∃ t' ∈ db'.organizationUsers.rows, t'.id = t.id ∧ t'.type = t.type ∧ t'.status = t.status ∧
    (db'.collectionUsers.rows.filter fun g => g.organizationUserId = t.id) =
      db.collectionUsers.rows.filter (fun g => g.organizationUserId = t.id) ∧
    t'.accessibleCollections db' = t.accessibleCollections db

/-! ## What a membership reaches -/

section Reach

variable {db db' : Db} {t t' : OrganizationUser}

/-- The tables behind the collections of `t` are the same for it. -/
structure ReachKept (db db' : Db) (t : OrganizationUser) : Prop where
  direct : (db'.collectionUsers.rows.filter fun g => g.organizationUserId = t.id) =
    db.collectionUsers.rows.filter fun g => g.organizationUserId = t.id
  collections : ∀ id, t.collectionsNamed db' id = t.collectionsNamed db id
  groups : t.groups db' = t.groups db
  grants : ∀ g ∈ t.groups db,
    (db'.collectionGroups.rows.filter fun a =>
      a.groupId = g.id ∧ a.organizationId = t.organizationId) =
    db.collectionGroups.rows.filter fun a =>
      a.groupId = g.id ∧ a.organizationId = t.organizationId

theorem ReachKept.refl (db : Db) (t : OrganizationUser) : ReachKept db db t :=
  ⟨rfl, fun _ => rfl, rfl, fun _ _ => rfl⟩

theorem ReachKept.accessibleCollections (h : ReachKept db db' t) :
    t.accessibleCollections db' = t.accessibleCollections db := by
  have hdirect : t.directGrants db' = t.directGrants db := by
    simp only [OrganizationUser.directGrants, h.direct, h.collections]
  have hgroups : t.groupGrants db' = t.groupGrants db := by
    unfold OrganizationUser.groupGrants
    rw [h.groups]
    exact List.flatMap_congr fun g hg => by simp only [h.grants g hg, h.collections]
  rw [OrganizationUser.accessibleCollections, OrganizationUser.collectionGrants, hdirect, hgroups]
  rfl

/-- A membership that stays and reaches the same is untouched. -/
theorem ReachKept.untouched (h : ReachKept db db' t) (ht : t' ∈ db'.organizationUsers.rows)
    (hid : t'.id = t.id) (horg : t'.organizationId = t.organizationId) (htype : t'.type = t.type)
    (hstatus : t'.status = t.status) : Untouched db db' t := by
  refine ⟨t', ht, hid, htype, hstatus, h.direct, ?_⟩
  have hsame : t'.accessibleCollections db' = t.accessibleCollections db' := by
    simp only [OrganizationUser.accessibleCollections, OrganizationUser.collectionGrants,
      OrganizationUser.directGrants, OrganizationUser.groupGrants, OrganizationUser.groups,
      OrganizationUser.collectionsNamed, hid, horg]
  rw [hsame, h.accessibleCollections]

end Reach

/-! ## One step -/

/-- What one request does, seen from the memberships. -/
structure MembershipStep (op : MembershipOp) (db db' : Db) : Prop where
  shape : MembershipShape db'
  moves : MovesAuthorized op db db'
  untouched : op.ByAdmin db → ∀ t ∈ db.organizationUsers.rows, t.type = 0 ∨ t.type = 1 →
    Untouched db db' t
  events : ∀ e ∈ db'.auditEvents.rows, e ∈ db.auditEvents.rows ∨ e.id ∈ op.draws

section Step

variable {db db' : Db} {op : MembershipOp}

theorem MembershipStep.refl (hshape : MembershipShape db) : MembershipStep op db db where
  shape := hshape
  moves := by
    constructor
    · intro m hm m' hm' hid hold hnew
      obtain rfl := db.organizationUsers.eq_of_key hm hm' hid.symm
      omega
    · intro m hm m' hm' hid hold hnew
      obtain rfl := db.organizationUsers.eq_of_key hm hm' hid.symm
      omega
  untouched _ t ht _ := (ReachKept.refl db t).untouched ht rfl rfl rfl rfl
  events _ he := Or.inl he

/-- Where every membership keeps its status, nobody moves. -/
theorem MovesAuthorized.of_status (h : ∀ m ∈ db.organizationUsers.rows,
    ∀ m' ∈ db'.organizationUsers.rows, m'.id = m.id → m'.status = m.status) :
    MovesAuthorized op db db' := by
  constructor
  · intro m hm m' hm' hid hold hnew
    have hsame := h m hm m' hm' hid
    omega
  · intro m hm m' hm' hid hold hnew
    have hsame := h m hm m' hm' hid
    omega

/-! ### The foundation -/

/-- A row that is inserted under a condition. -/
theorem of_mem_ite {α : Type} {c : Prop} [Decidable c] {a b : α}
    (h : a ∈ if c then [b] else []) : c := by
  by_contra hc
  rw [if_neg hc] at h
  cases h

theorem eq_of_mem_ite {α : Type} {c : Prop} [Decidable c] {a b : α}
    (h : a ∈ if c then [b] else []) : a = b := by
  rw [if_pos (of_mem_ite h)] at h
  exact List.mem_singleton.mp h

/-- A foundation adds an organization with its Owner and collection. -/
theorem createOrganizationFoundation_cases (input : OrganizationFoundationInput) (db : Db) :
    (createOrganizationFoundation input db).1 = db ∨
    ∃ (O : Table Organization) (M : Table OrganizationUser) (C : Table Collection)
      (G : Table CollectionUser) (ms : List OrganizationUser) (cs : List Collection)
      (gs : List CollectionUser),
      (createOrganizationFoundation input db).1 = { db with
        organizations := O
        organizationUsers := M
        collections := C
        collectionUsers := G } ∧
      O.rows = db.organizations.rows ++ [input.organization] ∧
      M.rows = db.organizationUsers.rows ++ ms ∧ (∀ m ∈ ms, m = input.owner) ∧
      C.rows = db.collections.rows ++ cs ∧ (∀ c ∈ cs, c = input.collection) ∧
      G.rows = db.collectionUsers.rows ++ gs ∧ (∀ g ∈ gs, g = input.grant ∧ input.owner ∈ ms) := by
  unfold createOrganizationFoundation
  rcases commit_cases input.batch input.interpret db with ⟨hdb, -⟩ | ⟨db', rs, hrun, hdb, -⟩
  · exact Or.inl hdb
  rw [hdb]
  obtain ⟨db₁, r₁, rs₁, horganization, hrun₁, -⟩ := runFrom_cons hrun
  obtain ⟨O, hO, rfl, hcO, -⟩ := TableIn.insertSelect_ok horganization
  obtain ⟨db₂, r₂, rs₂, howner, hrun₂, -⟩ := runFrom_cons hrun₁
  obtain ⟨-, M, hM, rfl, hcM, -⟩ := TableIn.insertReferencing_ok howner
  obtain ⟨db₃, r₃, rs₃, hcollection, hrun₃, -⟩ := runFrom_cons hrun₂
  obtain ⟨-, C, hC, rfl, hcC, -⟩ := TableIn.insertReferencing_ok hcollection
  obtain ⟨db₄, r₄, rs₄, hgrant, hrun₄, -⟩ := runFrom_cons hrun₃
  obtain ⟨-, G, hG, rfl, -, -⟩ := TableIn.insertReferencing_ok hgrant
  obtain ⟨rfl, -⟩ := runFrom_nil hrun₄
  by_cases hallowed : input.Allowed db
  · right
    rw [if_pos hallowed] at hO
    refine ⟨O, M, C, G, _, _, _, rfl, hO, hM, fun m hm => ?_, hC, fun c hc => ?_, hG,
      fun g hg => ?_⟩
    · exact eq_of_mem_ite hm
    · exact eq_of_mem_ite hc
    · refine ⟨eq_of_mem_ite hg, ?_⟩
      have hcollected : r₃.changes = 1 := (of_mem_ite hg).1
      rw [hcC] at hcollected
      have hcreated := (of_mem_ite (List.length_pos_iff_exists_mem.mp
        (Nat.one_pos.trans_eq hcollected.symm)).choose_spec).1
      rw [hcM] at hcreated
      obtain ⟨m, hm⟩ := List.length_pos_iff_exists_mem.mp (Nat.one_pos.trans_eq hcreated.symm)
      exact eq_of_mem_ite hm ▸ hm
  · left
    rw [if_neg hallowed] at hO hcO
    rw [if_neg fun h => absurd (h.1.symm.trans hcO) Nat.one_ne_zero] at hM hcM
    rw [if_neg fun h => absurd (h.1.symm.trans hcM) Nat.one_ne_zero] at hC hcC
    rw [if_neg fun h => absurd (h.1.symm.trans hcC) Nat.one_ne_zero] at hG
    rw [List.append_nil] at hO hM hC hG
    simp only [Table.ext hO, Table.ext hM, Table.ext hC, Table.ext hG]

/-- **A foundation touches no membership there is.** -/
theorem createOrganizationFoundation_step (input : OrganizationFoundationInput)
    (hshape : MembershipShape db) :
    MembershipStep (.foundation input) db (createOrganizationFoundation input db).1 := by
  rcases createOrganizationFoundation_cases input db with hdb |
    ⟨O, M, C, G, ms, cs, gs, hdb, hO, hM, hms, hC, hcs, hG, hgs⟩
  · rw [hdb]
    exact .refl hshape
  rw [hdb]
  have hnewOrganization : ∀ o ∈ db.organizations.rows, o.id ≠ input.organizationId := by
    have hkeyed := O.keyed
    rw [hO] at hkeyed
    exact fun o ho hid => (append_keyed_iff.mp hkeyed).2 o ho (Or.inl hid)
  have hnewMember : ∀ m ∈ db.organizationUsers.rows, ∀ m' ∈ ms, m.id ≠ m'.id := by
    have hkeyed := M.keyed
    rw [hM] at hkeyed
    intro m hm m' hm' hid
    exact (List.pairwise_append.mp hkeyed).2.2 m hm m' hm' (Or.inl hid)
  have helsewhere : ∀ m ∈ db.organizationUsers.rows, m.organizationId ≠ input.organizationId := by
    intro m hm hid
    obtain ⟨o, ho, hoid⟩ := hshape.organization m hm
    exact hnewOrganization o ho (hoid.trans hid)
  have hcase : ∀ m ∈ M.rows, m ∈ db.organizationUsers.rows ∨ m = input.owner := by
    intro m hm
    rw [hM] at hm
    exact (List.mem_append.mp hm).imp_right (hms m)
  refine ⟨?_, .of_status fun m hm m' hm' hid => ?_, fun _ t ht _ => ?_, fun _ he => Or.inl he⟩
  · constructor
    · intro m hm hkey
      rcases hcase m hm with hm | rfl
      · exact hshape.key m hm hkey
      · rfl
    · intro m hm htoken
      rcases hcase m hm with hm | rfl
      · exact hshape.token m hm htoken
      · exact absurd rfl htoken
    · intro m hm m' hm' horg huser hsome
      rcases hcase m hm with hm | rfl <;> rcases hcase m' hm' with hm' | rfl
      · exact hshape.account m hm m' hm' horg huser hsome
      · exact absurd horg (helsewhere m hm)
      · exact absurd horg.symm (helsewhere m' hm')
      · rfl
    · intro m hm
      simp only
      rw [hO]
      rcases hcase m hm with hm | rfl
      · obtain ⟨o, ho, hoid⟩ := hshape.organization m hm
        exact ⟨o, List.mem_append_left _ ho, hoid⟩
      · exact ⟨input.organization, List.mem_append_right _ (List.mem_singleton_self _), rfl⟩
    · exact hshape.group
  · simp only at hm'
    rw [hM] at hm'
    rcases List.mem_append.mp hm' with hm' | hm'
    · rw [db.organizationUsers.eq_of_key hm hm' hid.symm]
    · exact absurd hid.symm (hnewMember m hm m' hm')
  · have hreach : ReachKept db { db with
        organizations := O, organizationUsers := M, collections := C, collectionUsers := G } t := by
      refine ⟨?_, fun id => ?_, rfl, fun _ _ => rfl⟩
      · simp only
        rw [hG]
        refine filter_append_other fun g hg hid => ?_
        obtain ⟨rfl, howner⟩ := hgs g hg
        exact hnewMember t ht _ howner hid.symm
      · simp only [OrganizationUser.collectionsNamed]
        rw [hC]
        refine filter_append_other fun c hc hid => ?_
        obtain rfl := hcs c hc
        exact helsewhere t ht hid.2.symm
    refine hreach.untouched ?_ rfl rfl rfl rfl
    simp only
    rw [hM]
    exact List.mem_append_left _ ht

/-! ### Memberships -/

/-- The organizations of an effect are those there were. -/
theorem organizations_kept {organizationId : String} {set : Organization → Organization}
    (hrows : db'.organizations.rows = updateWhere (fun o => o.id = organizationId) set
      db.organizations.rows) (hset : ∀ o, (set o).id = o.id) {id : String} (h : ∃ o ∈ db.organizations.rows, o.id = id) :
    ∃ o ∈ db'.organizations.rows, o.id = id := by
  obtain ⟨o, ho, hid⟩ := h
  rw [hrows]
  by_cases hhit : o.id = organizationId
  · exact ⟨set o, mem_updateWhere_of_hit ho hhit, (hset o).trans hid⟩
  · exact ⟨o, mem_updateWhere_of_not_hit ho hhit, hid⟩

/-- An invitation adds memberships that nobody has yet. -/
theorem insertOrganizationMemberInvites_step {input : MemberInvitesInput} {auditIds : List String}
    (hids : auditIds.length = input.auditEvents.length) (hfresh : ∀ id ∈ auditIds, ¬ Marked db id)
    (hshape : MembershipShape db) :
    MembershipStep (.membership (.invite input auditIds)) db
      (insertOrganizationMemberInvites input auditIds db).1 := by
  rcases insertOrganizationMemberInvites_applied hids hfresh rfl with
    ⟨hdb, -⟩ | ⟨-, -, happlied⟩
  · rw [hdb]
    exact .refl hshape
  generalize (insertOrganizationMemberInvites input auditIds db).1 = db' at happlied
  have hnew : ∀ m ∈ db.organizationUsers.rows, ∀ m' ∈ (input.marked auditIds).map input.row,
      m.id ≠ m'.id := by
    have hkeyed := db'.organizationUsers.keyed
    rw [happlied.members] at hkeyed
    intro m hm m' hm' hid
    exact (List.pairwise_append.mp hkeyed).2.2 m hm m' hm' (Or.inl hid)
  have hcase : ∀ m ∈ db'.organizationUsers.rows, m ∈ db.organizationUsers.rows ∨
      ∃ invite, m = input.row invite := by
    intro m hm
    rw [happlied.members] at hm
    refine (List.mem_append.mp hm).imp_right fun hm => ?_
    obtain ⟨invite, -, rfl⟩ := List.mem_map.mp hm
    exact ⟨invite, rfl⟩
  refine ⟨?_, .of_status fun m hm m' hm' hid => ?_, fun _ t ht _ => ?_, fun e he => ?_⟩
  · constructor
    · intro m hm hkey
      rcases hcase m hm with hm | ⟨invite, rfl⟩
      · exact hshape.key m hm hkey
      · exact absurd rfl hkey
    · intro m hm htoken
      rcases hcase m hm with hm | ⟨invite, rfl⟩
      · exact hshape.token m hm htoken
      · exact ⟨rfl, rfl⟩
    · intro m hm m' hm' horg huser hsome
      rcases hcase m hm with hm | ⟨invite, rfl⟩
      · rcases hcase m' hm' with hm' | ⟨invite', rfl⟩
        · exact hshape.account m hm m' hm' horg huser hsome
        · exact absurd huser hsome
      · exact absurd rfl hsome
    · intro m hm
      refine organizations_kept happlied.organizations (fun _ => rfl) ?_
      rcases hcase m hm with hm | ⟨invite, rfl⟩
      · exact hshape.organization m hm
      · exact happlied.organization
    · rw [happlied.rest]
      exact hshape.group
  · rw [happlied.members] at hm'
    rcases List.mem_append.mp hm' with hm' | hm'
    · rw [db.organizationUsers.eq_of_key hm hm' hid.symm]
    · exact absurd hid.symm (hnew m hm m' hm')
  · have hreach : ReachKept db db' t := by
      refine ⟨?_, fun id => ?_, ?_, ?_⟩
      · rw [happlied.grants]
        refine filter_append_other fun g hg hid => ?_
        obtain ⟨c, -, hg⟩ := List.mem_flatMap.mp hg
        obtain ⟨invite, hinvite, rfl⟩ := List.mem_map.mp hg
        rw [← happlied.invited] at hinvite
        obtain ⟨marked, hmarked, rfl⟩ := List.mem_map.mp hinvite
        exact hnew t ht (input.row marked) (List.mem_map_of_mem hmarked) hid.symm
      · rw [happlied.rest]
        rfl
      · rw [happlied.rest]
        rfl
      · rw [happlied.rest]
        exact fun _ _ => rfl
    refine hreach.untouched ?_ rfl rfl rfl rfl
    rw [happlied.members]
    exact List.mem_append_left _ ht
  · rw [happlied.events] at he
    refine (List.mem_append.mp he).imp_right fun he => ?_
    obtain ⟨event, hevent, rfl⟩ := List.mem_map.mp he
    exact (List.of_mem_zip hevent).2

section Mutation

variable {mutation : MemberMutation} {mutationId : String} {m : OrganizationUser}

theorem guard_key (h : mutation.Guard db m) (hshape : MembershipShape db)
    (hm : m ∈ db.organizationUsers.rows)
    (hkey : ((mutation.effect mutationId).set m).orgKey ≠ none) :
    ((mutation.effect mutationId).set m).status = 2 := by
  cases mutation with
  | accept input =>
    have hstatus := hshape.key m hm hkey
    have hinvited : m.status = 0 := h.1.2.1
    omega
  | confirm input => rfl
  | update input => exact hshape.key m hm hkey
  | _ => exact absurd rfl hkey

theorem guard_token (h : mutation.Guard db m) (hshape : MembershipShape db)
    (hm : m ∈ db.organizationUsers.rows)
    (htoken : ((mutation.effect mutationId).set m).inviteTokenHash ≠ none) :
    ((mutation.effect mutationId).set m).status = 0 ∧
      ((mutation.effect mutationId).set m).userId = none := by
  cases mutation with
  | confirm input =>
    have hstatus := (hshape.token m hm htoken).1
    have haccepted : m.status = 1 := h.2.1
    omega
  | update input => exact hshape.token m hm htoken
  | reinvite input => exact ⟨rfl, rfl⟩
  | _ => exact absurd rfl htoken

/-- The account a membership is linked to has no other in the organization. -/
theorem guard_account (h : mutation.Guard db m) (hshape : MembershipShape db)
    (hm : m ∈ db.organizationUsers.rows) {m' : OrganizationUser}
    (hm' : m' ∈ db.organizationUsers.rows) (horg : m.organizationId = m'.organizationId)
    (huser : ((mutation.effect mutationId).set m).userId = m'.userId)
    (hsome : ((mutation.effect mutationId).set m).userId ≠ none) : m' = m := by
  cases mutation with
  | accept input =>
    obtain ⟨-, -, -, -, -, hnone⟩ := h
    by_contra hne
    refine hnone ⟨m', hm', horg.symm, huser.symm, fun hid => hne ?_⟩
    exact db.organizationUsers.eq_of_key hm' hm hid
  | reinvite input => exact absurd rfl hsome
  | _ => exact (hshape.account m hm m' hm' horg huser hsome).symm

/-- An invitation is accepted by the holder of its token. -/
theorem guard_accepted (h : mutation.Guard db m) (hold : m.status = 0)
    (hnew : ((mutation.effect mutationId).set m).status = 1) :
    ∃ input, mutation = .accept input ∧ m.inviteTokenHash = some input.inviteTokenHash ∧
      ((mutation.effect mutationId).set m).userId = some input.userId ∧
      ∃ u ∈ db.users.rows, u.id = input.userId ∧ u.emailNormalized = m.email := by
  cases mutation with
  | accept input =>
    obtain ⟨⟨-, -, -, htoken, -⟩, ⟨u, hu, hid, hemail, -⟩, -⟩ := h
    exact ⟨input, rfl, htoken, rfl, u, hu, hid, hemail⟩
  | update input => exact absurd (hold.symm.trans hnew) (by decide)
  | _ => simp [MemberMutation.effect, MembershipTarget.revokeRow] at hnew

/-- A member is confirmed by a manager. -/
theorem guard_confirmed (h : mutation.Guard db m) (hold : m.status = 1)
    (hnew : ((mutation.effect mutationId).set m).status = 2) :
    ∃ input, mutation = .confirm input ∧ input.organizationId = m.organizationId ∧
      input.Manager db m := by
  cases mutation with
  | confirm input => exact ⟨input, rfl, h.1.2.symm, h.2.2.2.1⟩
  | update input => exact absurd (hold.symm.trans hnew) (by decide)
  | _ => simp [MemberMutation.effect, MembershipTarget.revokeRow] at hnew

/-- Whoever acts on a membership that is no plain member's is an Owner. -/
theorem manager_owner {input : MembershipScope} (h : input.Manager db m) (htype : m.type ≠ 2) :
    ∃ actor ∈ db.organizationUsers.rows, actor.organizationId = input.organizationId ∧
      actor.userId = some input.actorUserId ∧ actor.type = 0 := by
  obtain ⟨actor, hactor, -, -, horg, huser, -, -, -, hrole⟩ := h
  rcases hrole with howner | ⟨-, hplain⟩
  · exact ⟨actor, hactor, horg, huser, howner⟩
  · exact absurd hplain htype

/-- An Admin mutates nobody but plain members. -/
theorem guard_plain (h : mutation.Guard db m) (hshape : MembershipShape db)
    (hm : m ∈ db.organizationUsers.rows)
    (hadmin : (MembershipOp.membership (.mutate mutation mutationId)).ByAdmin db) :
    m.type ≠ 0 ∧ m.type ≠ 1 := by
  obtain ⟨a, ha, huser, htype, horg⟩ := hadmin
  have horg := horg _ rfl
  have hmanaged : ∀ input : MembershipScope, input.Manager db m →
      a.userId = some input.actorUserId → a.organizationId = input.organizationId →
      m.type ≠ 0 ∧ m.type ≠ 1 := by
    intro input hmanager huser horg
    have hplain : m.type = 2 := by
      by_contra hne
      obtain ⟨actor, hactor, hactorOrg, hactorUser, howner⟩ := manager_owner hmanager hne
      have hsame := hshape.account a ha actor hactor (horg.trans hactorOrg.symm)
        (huser.trans hactorUser.symm) (by simp [huser])
      rw [hsame] at htype
      omega
    omega
  cases mutation with
  | accept input =>
    obtain ⟨⟨hrow, -, -, htoken, -⟩, -, -, -, -, hnone⟩ := h
    by_cases hid : a.id = m.id
    · obtain rfl := db.organizationUsers.eq_of_key ha hm hid
      have hnobody := (hshape.token a ha (by simp [htoken])).2
      rw [huser] at hnobody
      cases hnobody
    · exact absurd ⟨a, ha, horg.trans hrow.2.symm, huser, hid⟩ hnone
  | confirm input => exact hmanaged _ h.2.2.2.1 huser horg
  | update input => exact hmanaged _ h.2.2.1 huser horg
  | revoke input => exact hmanaged _ h.2.2.1 huser horg
  | remove input => exact hmanaged _ h.2.2.1 huser horg
  | reinvite input => exact hmanaged _ h.2.2.2.1 huser horg

end Mutation

/-- The memberships after a mutation: the others as they were, and its own as it was set. -/
theorem applied_cases {effect : MembershipEffect} {input : MembershipTarget} {auditId : String}
    (happlied : effect.Applied input db auditId db') {m' : OrganizationUser}
    (hm' : m' ∈ db'.organizationUsers.rows) :
    (m' ∈ db.organizationUsers.rows ∧ ¬ input.Row m') ∨
      ∃ m ∈ db.organizationUsers.rows, input.Row m ∧ m' = effect.set m := by
  rw [happlied.members, MembershipEffect.members] at hm'
  split at hm'
  · exact Or.inl (mem_deleteWhere.mp hm')
  · exact mem_updateWhere_cases hm'

theorem applied_other {effect : MembershipEffect} {input : MembershipTarget} {auditId : String}
    (happlied : effect.Applied input db auditId db') {t : OrganizationUser}
    (ht : t ∈ db.organizationUsers.rows) (hrow : ¬ input.Row t) :
    t ∈ db'.organizationUsers.rows := by
  rw [happlied.members, MembershipEffect.members]
  split
  · exact mem_deleteWhere.mpr ⟨ht, hrow⟩
  · exact mem_updateWhere_of_not_hit ht hrow

/-- A mutation reaches the collections of its own membership only. -/
theorem applied_reach {effect : MembershipEffect} {input : MembershipTarget} {auditId : String}
    (happlied : effect.Applied input db auditId db') {t : OrganizationUser}
    (hid : t.id ≠ input.membershipId) : ReachKept db db' t := by
  refine ⟨?_, fun id => ?_, ?_, ?_⟩
  · rw [happlied.grants, MembershipEffect.collectionUsers]
    split
    · rw [filter_append_other, filter_deleteWhere]
      · exact fun g _ ht hmember => hid (ht.symm.trans hmember)
      · intro g hg ht
        obtain ⟨grant, -, rfl⟩ := List.mem_map.mp hg
        exact hid ht.symm
    · rfl
  · rw [happlied.rest]
    rfl
  · have hlinks : (db'.organizationGroupUsers.rows.filter fun link =>
          link.organizationUserId = t.id ∧ link.organizationId = t.organizationId) =
        db.organizationGroupUsers.rows.filter fun link =>
          link.organizationUserId = t.id ∧ link.organizationId = t.organizationId := by
      rw [happlied.groups, MembershipEffect.organizationGroupUsers]
      split
      · exact filter_deleteWhere fun link _ ht hmember => hid (ht.1.symm.trans hmember.1)
      · rfl
    have hgroups : db'.organizationGroups = db.organizationGroups := by rw [happlied.rest]
    simp only [OrganizationUser.groups, hlinks, hgroups]
  · rw [happlied.rest]
    exact fun _ _ => rfl

/-- **A mutation of one membership.** -/
theorem memberMutation_step {mutation : MemberMutation} {mutationId : String}
    (hfresh : ¬ Marked db mutationId) (hshape : MembershipShape db) :
    MembershipStep (.membership (.mutate mutation mutationId)) db
      (mutation.run mutationId db).1 := by
  rcases mutation.run_applied hfresh with ⟨hdb, -⟩ | ⟨-, ⟨r, hr, hguard⟩, happlied⟩
  · rw [hdb]
    exact .refl hshape
  generalize (mutation.run mutationId db).1 = db' at happlied
  have hset := mutation.effect_set mutationId
  have hown : ∀ m ∈ db.organizationUsers.rows, mutation.target.Row m → m = r := fun m hm hrow =>
    db.organizationUsers.eq_of_key hm hr (hrow.1.trans hguard.row.1.symm)
  have hcase : ∀ m' ∈ db'.organizationUsers.rows,
      (m' ∈ db.organizationUsers.rows ∧ ¬ mutation.target.Row m') ∨
        m' = (mutation.effect mutationId).set r := by
    intro m' hm'
    rcases applied_cases happlied hm' with hother | ⟨m, hm, hrow, rfl⟩
    · exact Or.inl hother
    · exact Or.inr (by rw [hown m hm hrow])
  refine ⟨?_, ?_, fun hadmin t ht hrole => ?_, fun e he => ?_⟩
  · constructor
    · intro m' hm' hkey
      rcases hcase m' hm' with ⟨hm, -⟩ | rfl
      · exact hshape.key m' hm hkey
      · exact guard_key hguard hshape hr hkey
    · intro m' hm' htoken
      rcases hcase m' hm' with ⟨hm, -⟩ | rfl
      · exact hshape.token m' hm htoken
      · exact guard_token hguard hshape hr htoken
    · intro m hm m' hm' horg huser hsome
      rcases hcase m hm with ⟨hm, hrow⟩ | rfl <;> rcases hcase m' hm' with ⟨hm', hrow'⟩ | rfl
      · exact hshape.account m hm m' hm' horg huser hsome
      · rw [(hset r).2] at horg
        obtain rfl := guard_account hguard hshape hr hm horg.symm huser.symm (huser ▸ hsome)
        exact absurd hguard.row hrow
      · rw [(hset r).2] at horg
        obtain rfl := guard_account hguard hshape hr hm' horg huser hsome
        exact absurd hguard.row hrow'
      · rfl
    · intro m' hm'
      refine organizations_kept happlied.organizations (fun _ => rfl) ?_
      rcases hcase m' hm' with ⟨hm, -⟩ | rfl
      · exact hshape.organization m' hm
      · rw [(hset r).2]
        exact hshape.organization r hr
    · intro link hlink
      have hgroups : db'.organizationGroups = db.organizationGroups := by rw [happlied.rest]
      rw [happlied.groups, MembershipEffect.organizationGroupUsers] at hlink
      unfold GroupExists
      rw [hgroups]
      split at hlink
      · exact hshape.group link (mem_deleteWhere.mp hlink).1
      · exact hshape.group link hlink
  · constructor
    · intro m hm m' hm' hid hold hnew
      rcases hcase m' hm' with ⟨hm', -⟩ | rfl
      · obtain rfl := db.organizationUsers.eq_of_key hm hm' hid.symm
        omega
      · obtain rfl := db.organizationUsers.eq_of_key hm hr (hid.symm.trans (hset r).1)
        obtain ⟨input, rfl, htoken, huser, haccount⟩ := guard_accepted hguard hold hnew
        exact ⟨input, mutationId, rfl, htoken, huser, haccount⟩
    · intro m hm m' hm' hid hold hnew
      rcases hcase m' hm' with ⟨hm', -⟩ | rfl
      · obtain rfl := db.organizationUsers.eq_of_key hm hm' hid.symm
        omega
      · obtain rfl := db.organizationUsers.eq_of_key hm hr (hid.symm.trans (hset r).1)
        obtain ⟨input, rfl, horg, hmanager⟩ := guard_confirmed hguard hold hnew
        exact ⟨input, mutationId, rfl, horg, hmanager⟩
  · have hrow : ¬ mutation.target.Row t := by
      intro hrow
      obtain rfl := hown t ht hrow
      obtain ⟨howner, hadministrator⟩ := guard_plain hguard hshape ht hadmin
      exact hrole.elim howner hadministrator
    have hid : t.id ≠ mutation.target.membershipId := by
      intro hid
      obtain rfl := db.organizationUsers.eq_of_key ht hr (hid.trans hguard.row.1.symm)
      exact hrow hguard.row
    exact (applied_reach happlied hid).untouched (applied_other happlied ht hrow) rfl rfl rfl rfl
  · rw [happlied.event] at he
    refine (List.mem_append.mp he).imp_right fun he => ?_
    rw [List.mem_singleton.mp he]
    exact List.mem_singleton_self _

/-! ### Groups -/

section Groups

variable {input : OrganizationGroupMutation} {users : List String} {mutationId : String}

/-- The group of the request. -/
def OfGroup (input : OrganizationGroupMutation) (g : OrganizationGroup) : Prop :=
  g.id = input.groupId ∧ g.organizationId = input.organizationId

instance (input : OrganizationGroupMutation) : DecidablePred (OfGroup input) := fun _ =>
  inferInstanceAs (Decidable (_ ∧ _))

/-- Every link refers to a group. -/
def LinksRefer (db : Db) : Prop :=
  ∀ link ∈ db.organizationGroupUsers.rows, GroupExists db link.groupId link.organizationId

/-- What a group mutation does: outside of its group nothing, and in it only new links to
`users`. -/
structure GroupFrame (input : OrganizationGroupMutation) (users : List String)
    (mutationId : String) (db db' : Db) : Prop where
  members : db'.organizationUsers = db.organizationUsers
  direct : db'.collectionUsers = db.collectionUsers
  collections : db'.collections = db.collections
  organizations : ∀ id, (∃ o ∈ db.organizations.rows, o.id = id) →
    ∃ o ∈ db'.organizations.rows, o.id = id
  events : ∀ e ∈ db'.auditEvents.rows, e ∈ db.auditEvents.rows ∨ e.id = mutationId
  groups : (db'.organizationGroups.rows.filter fun g => ¬ OfGroup input g) =
    db.organizationGroups.rows.filter fun g => ¬ OfGroup input g
  links : (db'.organizationGroupUsers.rows.filter fun link => ¬ input.Link link) =
    db.organizationGroupUsers.rows.filter fun link => ¬ input.Link link
  grants : (db'.collectionGroups.rows.filter fun a => ¬ input.Grant a) =
    db.collectionGroups.rows.filter fun a => ¬ input.Grant a
  linked : ∀ link ∈ db'.organizationGroupUsers.rows,
    link ∈ db.organizationGroupUsers.rows ∨ link.organizationUserId ∈ users
  refers : LinksRefer db → LinksRefer db'

theorem GroupFrame.refl (db : Db) : GroupFrame input users mutationId db db :=
  ⟨rfl, rfl, rfl, fun _ => id, fun _ => Or.inl, rfl, rfl, rfl, fun _ => Or.inl, id⟩

theorem GroupFrame.trans {db'' : Db} (h : GroupFrame input users mutationId db db')
    (h' : GroupFrame input users mutationId db' db'') :
    GroupFrame input users mutationId db db'' where
  members := h'.members.trans h.members
  direct := h'.direct.trans h.direct
  collections := h'.collections.trans h.collections
  organizations id := h'.organizations id ∘ h.organizations id
  events e he := (h'.events e he).elim (h.events e) Or.inr
  groups := h'.groups.trans h.groups
  links := h'.links.trans h.links
  grants := h'.grants.trans h.grants
  linked link hlink := (h'.linked link hlink).elim (h.linked link) Or.inr
  refers := h'.refers ∘ h.refers

/-- A write to the groups that leaves the other groups, and loses none. -/
theorem groupFrame_groups (G : Table OrganizationGroup)
    (hgroups : (G.rows.filter fun g => ¬ OfGroup input g) =
      db.organizationGroups.rows.filter fun g => ¬ OfGroup input g)
    (hkept : ∀ g ∈ db.organizationGroups.rows, ∃ g' ∈ G.rows, g'.id = g.id ∧
      g'.organizationId = g.organizationId) :
    GroupFrame input users mutationId db { db with organizationGroups := G } := by
  refine ⟨rfl, rfl, rfl, fun _ => id, fun _ => Or.inl, hgroups, rfl, rfl, fun _ => Or.inl,
    fun hrefers link hlink => ?_⟩
  obtain ⟨g, hg, hid, horg⟩ := hrefers link hlink
  obtain ⟨g', hg', hid', horg'⟩ := hkept g hg
  exact ⟨g', hg', hid'.trans hid, horg'.trans horg⟩

theorem groupFrame_links (L : Table OrganizationGroupUser)
    (hlinks : (L.rows.filter fun link => ¬ input.Link link) =
      db.organizationGroupUsers.rows.filter fun link => ¬ input.Link link)
    (hlinked : ∀ link ∈ L.rows, link ∈ db.organizationGroupUsers.rows ∨
      link.organizationUserId ∈ users ∧ GroupExists db link.groupId link.organizationId) :
    GroupFrame input users mutationId db { db with organizationGroupUsers := L } := by
  refine ⟨rfl, rfl, rfl, fun _ => id, fun _ => Or.inl, rfl, hlinks, rfl,
    fun link hlink => (hlinked link hlink).imp_right And.left, fun hrefers link hlink => ?_⟩
  exact (hlinked link hlink).elim (hrefers link) And.right

theorem groupFrame_grants (C : Table CollectionGroup)
    (hgrants : (C.rows.filter fun a => ¬ input.Grant a) =
      db.collectionGroups.rows.filter fun a => ¬ input.Grant a) :
    GroupFrame input users mutationId db { db with collectionGroups := C } :=
  ⟨rfl, rfl, rfl, fun _ => id, fun _ => Or.inl, rfl, rfl, hgrants, fun _ => Or.inl, id⟩

theorem groupRevise_frame (newUsers : List String) :
    ∀ st ∈ input.revise mutationId newUsers, st.Within (GroupFrame input users mutationId) := by
  intro st hst
  simp only [OrganizationGroupMutation.revise, List.mem_cons, List.not_mem_nil, or_false] at hst
  rcases hst with rfl | rfl | rfl | rfl
  · intro s s' n r h
    obtain ⟨O, hO, rfl, -⟩ := TableIn.update_ok h
    refine ⟨rfl, rfl, rfl, fun id hid => ?_, fun _ => Or.inl, rfl, rfl, rfl, fun _ => Or.inl,
      fun h => h⟩
    obtain ⟨o, ho, rfl⟩ := hid
    simp only
    rw [hO]
    refine ⟨_, mem_updateWhere.mpr ⟨o, ho, rfl⟩, ?_⟩
    split <;> rfl
  · exact assertThat_within .refl
  · exact TableIn.update_within fun _ _ =>
      ⟨rfl, rfl, rfl, fun _ => id, fun _ => Or.inl, rfl, rfl, rfl, fun _ => Or.inl, id⟩
  · exact assertThat_within .refl

theorem groupReplace_frame (collections : List CollectionGrant) :
    ∀ st ∈ input.replace mutationId collections users,
      st.Within (GroupFrame input users mutationId) := by
  intro st hst
  simp only [OrganizationGroupMutation.replace, List.mem_cons, List.not_mem_nil, or_false] at hst
  rcases hst with rfl | rfl | rfl | rfl | rfl | rfl
  · intro s s' n r h
    obtain ⟨L, hL, rfl, -⟩ := TableIn.delete_ok h
    refine groupFrame_links L ?_ fun link hlink => ?_
    · rw [hL]
      exact filter_deleteWhere fun _ _ hother hh => hother hh.1
    · rw [hL] at hlink
      exact Or.inl (mem_deleteWhere.mp hlink).1
  · intro s s' n r h
    obtain ⟨hrefers, L, hL, rfl, -⟩ := TableIn.insertReferencing_ok h
    have hnew : ∀ link ∈ (if Marked s mutationId then
        users.map fun id => (⟨input.groupId, input.organizationId, id⟩ : OrganizationGroupUser)
        else []), input.Link link ∧ link.organizationUserId ∈ users := by
      intro link hlink
      split at hlink
      · obtain ⟨id, hid, rfl⟩ := List.mem_map.mp hlink
        exact ⟨⟨rfl, rfl⟩, hid⟩
      · cases hlink
    refine groupFrame_links L ?_ fun link hlink => ?_
    · rw [hL]
      exact filter_append_other fun link hlink hother => hother (hnew link hlink).1
    · rw [hL] at hlink
      exact (List.mem_append.mp hlink).imp_right fun hlink =>
        ⟨(hnew link hlink).2, (hrefers link hlink).1⟩
  · exact assertThat_within .refl
  · intro s s' n r h
    obtain ⟨C, hC, rfl, -⟩ := TableIn.delete_ok h
    refine groupFrame_grants C ?_
    rw [hC]
    exact filter_deleteWhere fun _ _ hother hh => hother hh.1
  · intro s s' n r h
    obtain ⟨-, C, hC, rfl, -⟩ := TableIn.insertReferencing_ok h
    refine groupFrame_grants C ?_
    rw [hC]
    refine filter_append_other fun a ha hother => hother ?_
    split at ha
    · obtain ⟨grant, -, rfl⟩ := List.mem_map.mp ha
      exact ⟨rfl, rfl⟩
    · cases ha
  · exact assertThat_within .refl

/-- The group goes with its links and grants. -/
theorem deleteGroup_frame :
    (input.deleteGroup mutationId).Within (GroupFrame input users mutationId) := by
  intro s s' n r h
  obtain ⟨G, hG, rfl, -⟩ := TableIn.deleteTriggering_ok h
  have hdeleted : ∀ g ∈ s.organizationGroups.rows.filter (fun g =>
      g.id = input.groupId ∧ g.organizationId = input.organizationId ∧ Marked s mutationId),
      g ∈ s.organizationGroups.rows ∧ OfGroup input g := by
    intro g hg
    obtain ⟨hg, hh⟩ := List.mem_filter.mp hg
    have hh := of_decide_eq_true hh
    exact ⟨hg, hh.1, hh.2.1⟩
  have hmem : ∀ g ∈ s.organizationGroups.rows, g ∈ G.rows ∨
      g ∈ s.organizationGroups.rows.filter (fun g =>
        g.id = input.groupId ∧ g.organizationId = input.organizationId ∧ Marked s mutationId) := by
    intro g hg
    rw [hG]
    by_cases hh : g.id = input.groupId ∧ g.organizationId = input.organizationId ∧
        Marked s mutationId
    · exact Or.inr (List.mem_filter.mpr ⟨hg, by simpa using hh⟩)
    · exact Or.inl (mem_deleteWhere.mpr ⟨hg, hh⟩)
  generalize s.organizationGroups.rows.filter (fun g =>
    g.id = input.groupId ∧ g.organizationId = input.organizationId ∧ Marked s mutationId) =
    deleted at hdeleted hmem
  obtain ⟨L, hL, hLrows⟩ := TableIn.nestedDelete_eq Db.organizationGroupUsersIn
    (fun link => ∃ g ∈ deleted, g.id = link.groupId ∧ g.organizationId = link.organizationId)
    { s with organizationGroups := G }
  obtain ⟨C, hC, hCrows⟩ := TableIn.nestedDelete_eq Db.collectionGroupsIn
    (fun a => ∃ g ∈ deleted, g.id = a.groupId ∧ g.organizationId = a.organizationId)
    { s with organizationGroups := G, organizationGroupUsers := L }
  have hs : (cascadeGroupDelete deleted { s with organizationGroups := G }).1 =
      { s with organizationGroups := G, organizationGroupUsers := L, collectionGroups := C } := by
    simp only [cascadeGroupDelete, hL]
    exact hC
  rw [hs]
  refine ⟨rfl, rfl, rfl, fun _ => id, fun _ => Or.inl, ?_, ?_, ?_, fun link hlink => ?_,
    fun hrefers link hlink => ?_⟩
  · simp only
    rw [hG]
    exact filter_deleteWhere fun _ _ hother hh => hother ⟨hh.1, hh.2.1⟩
  · simp only
    rw [hLrows]
    refine filter_deleteWhere fun link _ hother hh => hother ?_
    obtain ⟨g, hg, hid, horg⟩ := hh
    exact ⟨hid.symm.trans (hdeleted g hg).2.1, horg.symm.trans (hdeleted g hg).2.2⟩
  · simp only
    rw [hCrows]
    refine filter_deleteWhere fun a _ hother hh => hother ?_
    obtain ⟨g, hg, hid, horg⟩ := hh
    exact ⟨hid.symm.trans (hdeleted g hg).2.1, horg.symm.trans (hdeleted g hg).2.2⟩
  · simp only at hlink
    rw [hLrows] at hlink
    exact Or.inl (mem_deleteWhere.mp hlink).1
  · simp only at hlink
    rw [hLrows] at hlink
    obtain ⟨hlink, hkept⟩ := mem_deleteWhere.mp hlink
    obtain ⟨g, hg, hid, horg⟩ := hrefers link hlink
    refine ⟨g, (hmem g hg).resolve_right fun hgone => hkept ⟨g, hgone, hid, horg⟩, hid, horg⟩

theorem groupOperate_frame (operation : GroupOperation) :
    ∀ st ∈ input.operate mutationId operation,
      st.Within (GroupFrame input operation.newUsers mutationId) := by
  intro st hst
  cases operation with
  | replace collections users => exact groupReplace_frame collections st hst
  | delete =>
    simp only [OrganizationGroupMutation.operate, List.mem_cons, List.not_mem_nil, or_false] at hst
    rcases hst with rfl | rfl
    · exact deleteGroup_frame
    · exact assertThat_within .refl
  | removeMember membershipId =>
    simp only [OrganizationGroupMutation.operate, List.mem_cons, List.not_mem_nil, or_false] at hst
    rcases hst with rfl | rfl
    · intro s s' n r h
      obtain ⟨L, hL, rfl, -⟩ := TableIn.delete_ok h
      refine groupFrame_links L ?_ fun link hlink => ?_
      · rw [hL]
        exact filter_deleteWhere fun _ _ hother hh => hother hh.1
      · rw [hL] at hlink
        exact Or.inl (mem_deleteWhere.mp hlink).1
    · exact assertThat_within .refl

theorem groupRevise_idle (newUsers : List String) :
    ∀ st ∈ input.revise mutationId newUsers, st.Within (IdleUnmarked mutationId) := by
  intro st hst
  simp only [OrganizationGroupMutation.revise, List.mem_cons, List.not_mem_nil, or_false] at hst
  rcases hst with rfl | rfl | rfl | rfl
  · exact update_idleUnmarked fun _ _ _ hh => hh.2
  · exact assertThat_within .refl
  · exact update_idleUnmarked fun _ _ _ hh => hh.2
  · exact assertThat_within .refl

theorem groupOperate_idle (operation : GroupOperation) :
    ∀ st ∈ input.operate mutationId operation, st.Within (IdleUnmarked mutationId) := by
  intro st hst
  cases operation with
  | replace collections users =>
    simp only [OrganizationGroupMutation.operate, OrganizationGroupMutation.replace, List.mem_cons,
      List.not_mem_nil, or_false] at hst
    rcases hst with rfl | rfl | rfl | rfl | rfl | rfl
    · exact delete_idleUnmarked fun _ _ _ hh => hh.2
    · exact insertReferencing_idleUnmarked fun _ _ hmarked => if_neg hmarked
    · exact assertThat_within .refl
    · exact delete_idleUnmarked fun _ _ _ hh => hh.2
    · exact insertReferencing_idleUnmarked fun _ _ hmarked => if_neg hmarked
    · exact assertThat_within .refl
  | delete =>
    simp only [OrganizationGroupMutation.operate, List.mem_cons, List.not_mem_nil, or_false] at hst
    rcases hst with rfl | rfl
    · intro s s' n r h hmarked
      rw [OrganizationGroupMutation.deleteGroup, TableIn.deleteTriggering_idle] at h
      · cases h
        rfl
      · unfold cascadeGroupDelete
        have hlinks : Db.organizationGroupUsersIn.nestedDelete (fun link =>
            ∃ g ∈ ([] : List OrganizationGroup), g.id = link.groupId ∧
              g.organizationId = link.organizationId) s = (s, 0) :=
          TableIn.nestedDelete_idle _ (by simp)
        have hgrants : Db.collectionGroupsIn.nestedDelete (fun a =>
            ∃ g ∈ ([] : List OrganizationGroup), g.id = a.groupId ∧
              g.organizationId = a.organizationId) s = (s, 0) :=
          TableIn.nestedDelete_idle _ (by simp)
        simp only [hlinks, hgrants]
      · exact fun _ _ hh => hmarked hh.2.2
    · exact assertThat_within .refl
  | removeMember membershipId =>
    simp only [OrganizationGroupMutation.operate, List.mem_cons, List.not_mem_nil, or_false] at hst
    rcases hst with rfl | rfl
    · exact delete_idleUnmarked fun _ _ _ hh => hh.2.2
    · exact assertThat_within .refl

/-- A group mutation does nothing, or its root write has taken place and everything else of the
batch stays in the group. -/
theorem groupMutation_cases {root : Statement Db} {operation : GroupOperation} {Guard : Prop}
    (hfresh : ¬ Marked db mutationId)
    (hroot : ∀ db₁ r, root db 0 = .ok (db₁, r) → db₁ = db ∧ r.changes = 0 ∨
      r.changes = 1 ∧ Guard ∧ GroupFrame input operation.newUsers mutationId db db₁) :
    (input.runMutation mutationId root operation db).1 = db ∨
    Guard ∧ GroupFrame input operation.newUsers mutationId db
      (input.runMutation mutationId root operation db).1 := by
  unfold OrganizationGroupMutation.runMutation
  rcases commit_cases (input.batch mutationId root operation) OrganizationGroupMutation.interpret db
    with ⟨hdb, -⟩ | ⟨db', rs, hrun, hdb, -⟩
  · exact Or.inl hdb
  simp only [hdb]
  unfold OrganizationGroupMutation.batch at hrun
  simp only [List.cons_append, List.nil_append] at hrun
  obtain ⟨db₁, r₁, rs₁, hfirst, hrun₁, -⟩ := runFrom_cons hrun
  obtain ⟨db₂, r₂, rs₂, haudit, hrun₂, -⟩ := runFrom_cons hrun₁
  obtain ⟨db₃, r₃, rs₃, hrequire, hrest, -⟩ := runFrom_cons hrun₂
  obtain ⟨-, rfl, -⟩ := assertThat_ok hrequire
  obtain ⟨haudited, hunaudited⟩ := auditMutation_ok haudit
  rcases hroot db₁ r₁ hfirst with ⟨rfl, hzero⟩ | ⟨hone, hguard, hframe⟩
  · left
    obtain ⟨-, rfl⟩ := hunaudited (by omega)
    refine runFrom_within (R := IdleUnmarked mutationId) .refl .trans (fun st hst => ?_) hrest
      hfresh
    exact (List.mem_append.mp hst).elim (groupRevise_idle _ st) (groupOperate_idle _ st)
  · right
    obtain ⟨-, -, A, rfl, hA⟩ := haudited hone
    have hevent : GroupFrame input operation.newUsers mutationId db₁
        { db₁ with auditEvents := A } := by
      refine ⟨rfl, rfl, rfl, fun _ => id, fun e he => ?_, rfl, rfl, rfl, fun _ => Or.inl, id⟩
      simp only at he
      rw [hA] at he
      exact (List.mem_append.mp he).imp_right fun he => by rw [List.mem_singleton.mp he]
    refine ⟨hguard, (hframe.trans hevent).trans
      (runFrom_within .refl .trans (fun st hst => ?_) hrest)⟩
    exact (List.mem_append.mp hst).elim (groupRevise_frame _ st) (groupOperate_frame _ st)

/-! ### A group mutation, seen from the memberships -/

/-- A selection outside of what changed. -/
theorem filter_of_kept {α : Type} {p q : α → Prop} [DecidablePred p] [DecidablePred q]
    {rows rows' : List α} (hkept : (rows'.filter fun a => q a) = rows.filter fun a => q a)
    (hp : ∀ a ∈ rows, p a → q a) (hp' : ∀ a ∈ rows', p a → q a) :
    (rows'.filter fun a => p a) = rows.filter fun a => p a := by
  have hsub : ∀ l : List α, (∀ a ∈ l, p a → q a) →
      (l.filter fun a => p a) = (l.filter fun a => q a).filter fun a => p a := by
    intro l hl
    rw [List.filter_filter]
    refine List.filter_congr fun a ha => ?_
    by_cases h : p a
    · simp [h, hl a ha h]
    · simp [h]
  rw [hsub rows hp, hsub rows' hp', hkept]

/-- A member the group neither had nor gets reaches the same collections. -/
theorem GroupFrame.reach {t : OrganizationUser}
    (h : GroupFrame input users mutationId db db') (hnew : t.id ∉ users)
    (hold : ∀ link ∈ db.organizationGroupUsers.rows, link.organizationUserId = t.id →
      link.organizationId = t.organizationId → ¬ input.Link link) : ReachKept db db' t := by
  have hother : ∀ link ∈ db'.organizationGroupUsers.rows, link.organizationUserId = t.id →
      link.organizationId = t.organizationId → ¬ input.Link link := by
    intro link hlink hid horg
    rcases h.linked link hlink with hlink | huser
    · exact hold link hlink hid horg
    · exact absurd (hid ▸ huser) hnew
  have hlinks : (db'.organizationGroupUsers.rows.filter fun link =>
        link.organizationUserId = t.id ∧ link.organizationId = t.organizationId) =
      db.organizationGroupUsers.rows.filter fun link =>
        link.organizationUserId = t.id ∧ link.organizationId = t.organizationId :=
    filter_of_kept h.links (fun link hlink hh => hold link hlink hh.1 hh.2)
      fun link hlink hh => hother link hlink hh.1 hh.2
  have hlinked : ∀ link ∈ db.organizationGroupUsers.rows.filter (fun link =>
      link.organizationUserId = t.id ∧ link.organizationId = t.organizationId),
      link.organizationId = t.organizationId ∧ ¬ input.Link link := by
    intro link hlink
    obtain ⟨hlink, hh⟩ := List.mem_filter.mp hlink
    have hh := of_decide_eq_true hh
    exact ⟨hh.2, hold link hlink hh.1 hh.2⟩
  have hsame : ∀ link ∈ db.organizationGroupUsers.rows.filter (fun link =>
      link.organizationUserId = t.id ∧ link.organizationId = t.organizationId),
      ∀ g : OrganizationGroup, g.id = link.groupId ∧ g.organizationId = t.organizationId →
        ¬ OfGroup input g := by
    intro link hlink g hg hgroup
    obtain ⟨horg, hlink⟩ := hlinked link hlink
    exact hlink ⟨hg.1.symm.trans hgroup.1, (horg.trans hg.2.symm).trans hgroup.2⟩
  refine ⟨by rw [h.direct], fun id => ?_, ?_, fun g hg => ?_⟩
  · rw [OrganizationUser.collectionsNamed, h.collections]
    rfl
  · unfold OrganizationUser.groups
    rw [hlinks]
    exact List.flatMap_congr fun link hlink =>
      filter_of_kept h.groups (fun g _ => hsame link hlink g) fun g _ => hsame link hlink g
  · obtain ⟨link, hlink, hg⟩ := List.mem_flatMap.mp hg
    obtain ⟨-, hh⟩ := List.mem_filter.mp hg
    have hgroup := hsame link hlink g (of_decide_eq_true hh)
    have hh := of_decide_eq_true hh
    exact filter_of_kept h.grants
      (fun a _ ha hgrant => hgroup ⟨ha.1.symm.trans hgrant.1, (hh.2.trans ha.2.symm).trans hgrant.2⟩)
      fun a _ ha hgrant => hgroup ⟨ha.1.symm.trans hgrant.1, (hh.2.trans ha.2.symm).trans hgrant.2⟩

/-- Nobody but plain members is in the group or gets into it. -/
def PlainGroup (input : OrganizationGroupMutation) (users : List String) (db : Db) : Prop :=
  ∀ t ∈ db.organizationUsers.rows, t.type = 0 ∨ t.type = 1 → t.id ∉ users ∧
    ∀ link ∈ db.organizationGroupUsers.rows, link.organizationUserId = t.id →
      link.organizationId = t.organizationId → ¬ input.Link link

theorem GroupFrame.step (h : GroupFrame input users mutationId db db')
    (hshape : MembershipShape db) (hdraws : op.draws = [mutationId])
    (hplain : op.ByAdmin db → PlainGroup input users db) : MembershipStep op db db' := by
  refine ⟨?_, .of_status fun m hm m' hm' hid => ?_, fun hadmin t ht hrole => ?_, fun e he => ?_⟩
  · constructor
    · rw [h.members]
      exact hshape.key
    · rw [h.members]
      exact hshape.token
    · rw [h.members]
      exact hshape.account
    · rw [h.members]
      exact fun m hm => h.organizations _ (hshape.organization m hm)
    · exact h.refers hshape.group
  · rw [h.members] at hm'
    rw [db.organizationUsers.eq_of_key hm hm' hid.symm]
  · obtain ⟨hnew, hold⟩ := hplain hadmin t ht hrole
    refine (h.reach hnew hold).untouched ?_ rfl rfl rfl rfl
    rw [h.members]
    exact ht
  · rw [hdraws]
    exact (h.events e he).imp_right fun hid => by rw [hid]; exact List.mem_singleton_self _

/-- An Admin is no Owner of its organization. -/
theorem not_owner (hshape : MembershipShape db) (hadmin : op.ByAdmin db)
    (hperformer : op.performer = input.actor.userId)
    (horganization : op.organizationId = some input.organizationId) : ¬ input.Owner db := by
  rintro ⟨actor, hactor, horg, huser, -, howner⟩
  obtain ⟨a, ha, hauser, htype, haorg⟩ := hadmin
  have hsame := hshape.account a ha actor hactor
    ((haorg _ horganization).trans horg.symm) ((hauser.trans (by rw [hperformer])).trans huser.symm)
    (by simp [hauser])
  rw [hsame] at htype
  omega

/-- An Admin that finds only plain members in a group, and asks for no others. -/
theorem plainGroup_of_guard {g : OrganizationGroup} (hgroup : input.Group g)
    (hmembers : input.AdminCurrentMembers db g) (howner : ¬ input.Owner db)
    (husers : ∀ id ∈ users, ∃ recipient ∈ db.organizationUsers.rows, recipient.id = id ∧
      input.Recipient db recipient) : PlainGroup input users db := by
  refine fun t ht hrole => ⟨fun huser => ?_, fun link hlink hid horg hof => ?_⟩
  · obtain ⟨recipient, hrecipient, hid, -, -, -, -, hplain⟩ := husers t.id huser
    obtain rfl := db.organizationUsers.eq_of_key hrecipient ht hid
    have hplain := hplain.resolve_left howner
    omega
  · refine (hmembers.resolve_left howner) ⟨link, hlink, t, ht, hid.symm, horg.symm,
      hof.1.trans hgroup.1.symm, hof.2.trans hgroup.2.1.symm, ?_⟩
    omega

/-- The root write of an existing group. -/
theorem groupUpdate_root {hit : Db → Nat → OrganizationGroup → Prop}
    [∀ db n, DecidablePred (hit db n)] {set : OrganizationGroup → OrganizationGroup}
    (hhit : ∀ g, hit db 0 g → input.Group g)
    (hset : ∀ g, (set g).id = g.id ∧ (set g).organizationId = g.organizationId) (db₁ : Db)
    (r : StatementResult)
    (h : Db.organizationGroupsIn.update hit (fun _ => set) db 0 = .ok (db₁, r)) :
    db₁ = db ∧ r.changes = 0 ∨ r.changes = 1 ∧ (∃ g ∈ db.organizationGroups.rows, hit db 0 g) ∧
      GroupFrame input users mutationId db db₁ := by
  obtain ⟨G, hG, rfl, hc, -⟩ := TableIn.update_ok h
  by_cases hfound : ∃ g ∈ db.organizationGroups.rows, hit db 0 g
  · have hone := (db.organizationGroups.countP_eq_one_iff input.groupId
      fun g hh => (hhit g hh).1).mpr hfound
    refine Or.inr ⟨hc.trans hone, hfound, groupFrame_groups G ?_ fun g hg => ?_⟩
    · rw [hG]
      refine filter_updateWhere (fun g _ hother hh => hother ?_) fun g _ hh hother => hother ?_
      · exact ⟨(hhit g hh).1, (hhit g hh).2.1⟩
      · exact ⟨(hset g).1.trans (hhit g hh).1, (hset g).2.trans (hhit g hh).2.1⟩
    · rw [hG]
      refine ⟨_, mem_updateWhere.mpr ⟨g, hg, rfl⟩, ?_⟩
      split
      · exact hset g
      · exact ⟨rfl, rfl⟩
  · left
    have hnone : ∀ g ∈ db.organizationGroups.rows, ¬ hit db 0 g := fun g hg hh => hfound ⟨g, hg, hh⟩
    have hG' : G = db.organizationGroups := Table.ext (hG.trans (updateWhere_eq_self hnone))
    refine ⟨by rw [hG'], ?_⟩
    rw [hc, List.countP_eq_zero]
    exact fun g hg hh => hnone g hg (of_decide_eq_true hh)

end Groups

theorem createOrganizationGroup_step {input : OrganizationGroupWriteInput} {mutationId : String}
    (hfresh : ¬ Marked db mutationId) (hshape : MembershipShape db) :
    MembershipStep (.createGroup input mutationId) db
      (createOrganizationGroup input mutationId db).1 := by
  have hroot : ∀ db₁ r, HonoWarden.createGroup input mutationId db 0 = .ok (db₁, r) →
      db₁ = db ∧ r.changes = 0 ∨ r.changes = 1 ∧
        (input.ValidRequestedAccess db input.collections input.users ∧
          ∀ g ∈ db.organizationGroups.rows, g.id ≠ input.groupId) ∧
        GroupFrame input.toOrganizationGroupMutation input.users mutationId db db₁ := by
    intro db₁ r h
    obtain ⟨G, hG, rfl, hc, -⟩ := TableIn.insertSelect_ok h
    by_cases hallowed : input.Manager db ∧
        input.ValidRequestedAccess db input.collections input.users
    · rw [if_pos hallowed] at hG hc
      refine Or.inr ⟨hc, ⟨hallowed.2, fun g hg hid => ?_⟩, groupFrame_groups G ?_ fun g hg => ?_⟩
      · have hkeyed := G.keyed
        rw [hG] at hkeyed
        exact (append_keyed_iff.mp hkeyed).2 g hg (Or.inl hid)
      · rw [hG]
        refine filter_append_other fun g hg hother => hother ?_
        rw [List.mem_singleton.mp hg]
        exact ⟨rfl, rfl⟩
      · rw [hG]
        exact ⟨g, List.mem_append_left _ hg, rfl, rfl⟩
    · rw [if_neg hallowed, List.append_nil] at hG
      rw [if_neg hallowed] at hc
      exact Or.inl ⟨by rw [Table.ext hG], hc⟩
  have hcases : (createOrganizationGroup input mutationId db).1 = db ∨ _ :=
    groupMutation_cases hfresh hroot
  rcases hcases with hdb | ⟨⟨haccess, hnew⟩, hframe⟩
  · rw [hdb]
    exact .refl hshape
  · refine hframe.step hshape rfl fun hadmin t ht hrole => ⟨fun huser => ?_,
      fun link hlink _ _ hof => ?_⟩
    · obtain ⟨recipient, hrecipient, hid, -, -, -, -, hplain⟩ := haccess.2 t.id huser
      obtain rfl := db.organizationUsers.eq_of_key hrecipient ht hid
      have hplain := hplain.resolve_left (not_owner hshape hadmin rfl rfl)
      omega
    · obtain ⟨g, hg, hid, -⟩ := hshape.group link hlink
      exact hnew g hg (hid.trans hof.1)

theorem updateOrganizationGroup_step {input : OrganizationGroupWriteInput} {mutationId : String}
    (hfresh : ¬ Marked db mutationId) (hshape : MembershipShape db) :
    MembershipStep (.updateGroup input mutationId) db
      (updateOrganizationGroup input mutationId db).1 := by
  have hroot : ∀ db₁ r, HonoWarden.updateGroup input mutationId db 0 = .ok (db₁, r) →
      db₁ = db ∧ r.changes = 0 ∨ r.changes = 1 ∧
        (∃ g ∈ db.organizationGroups.rows, input.Group g ∧ input.Manager db ∧
          input.AdminCurrentMembers db g ∧
          input.ValidRequestedAccess db input.collections input.users) ∧
        GroupFrame input.toOrganizationGroupMutation input.users mutationId db db₁ := by
    intro db₁ r h
    unfold HonoWarden.updateGroup at h
    refine groupUpdate_root ?_ ?_ db₁ r h
    · exact fun g hh => hh.1
    · exact fun g => ⟨rfl, rfl⟩
  have hcases : (updateOrganizationGroup input mutationId db).1 = db ∨ _ :=
    groupMutation_cases hfresh hroot
  rcases hcases with hdb | ⟨⟨g, -, hgroup, -, hmembers, haccess⟩, hframe⟩
  · rw [hdb]
    exact .refl hshape
  · exact hframe.step hshape rfl fun hadmin =>
      plainGroup_of_guard hgroup hmembers (not_owner hshape hadmin rfl rfl) haccess.2

/-- A mutation of an existing group that gives it no new member. -/
theorem touchGroup_step {input : OrganizationGroupMutation} {membershipId : Option String}
    {operation : GroupOperation} {mutationId : String} (hfresh : ¬ Marked db mutationId)
    (hshape : MembershipShape db) (hnoUsers : operation.newUsers = [])
    (hdraws : op.draws = [mutationId]) (hperformer : op.performer = input.actor.userId)
    (horganization : op.organizationId = some input.organizationId) :
    MembershipStep op db (input.runMutation mutationId (touchGroup input membershipId mutationId)
      operation db).1 := by
  have hroot : ∀ db₁ r, touchGroup input membershipId mutationId db 0 = .ok (db₁, r) →
      db₁ = db ∧ r.changes = 0 ∨ r.changes = 1 ∧
        (∃ g ∈ db.organizationGroups.rows, input.Group g ∧ input.Manager db ∧
          input.AdminCurrentMembers db g ∧ ∀ id ∈ membershipId,
            ∃ link ∈ db.organizationGroupUsers.rows, link.groupId = g.id ∧
              link.organizationId = g.organizationId ∧ link.organizationUserId = id) ∧
        GroupFrame input operation.newUsers mutationId db db₁ := by
    intro db₁ r h
    unfold touchGroup at h
    refine groupUpdate_root ?_ ?_ db₁ r h
    · exact fun g hh => hh.1
    · exact fun g => ⟨rfl, rfl⟩
  rcases groupMutation_cases hfresh hroot with hdb | ⟨⟨g, -, hgroup, -, hmembers, -⟩, hframe⟩
  · rw [hdb]
    exact .refl hshape
  · refine hframe.step hshape hdraws fun hadmin => plainGroup_of_guard hgroup hmembers
      (not_owner hshape hadmin hperformer horganization) ?_
    rw [hnoUsers]
    exact fun id hid => absurd hid List.not_mem_nil

/-! ### The address of an account -/

/-- The memberships of an account change nothing but their address. -/
structure EmailFrame (auditEventId : String) (db db' : Db) : Prop where
  members : ∃ email : OrganizationUser → String, ∃ updatedAt : OrganizationUser → Timestamp,
    db'.organizationUsers.rows = db.organizationUsers.rows.map fun m =>
      { m with email := email m, updatedAt := updatedAt m }
  direct : db'.collectionUsers = db.collectionUsers
  collections : db'.collections = db.collections
  organizations : db'.organizations = db.organizations
  events : ∀ e ∈ db'.auditEvents.rows, e ∈ db.auditEvents.rows ∨ e.id = auditEventId
  groups : db'.organizationGroups = db.organizationGroups
  links : db'.organizationGroupUsers = db.organizationGroupUsers
  grants : db'.collectionGroups = db.collectionGroups

section Email

variable {auditEventId : String}

theorem EmailFrame.refl (db : Db) : EmailFrame auditEventId db db :=
  ⟨⟨OrganizationUser.email, OrganizationUser.updatedAt, (List.map_id _).symm⟩, rfl, rfl, rfl,
    fun _ => Or.inl, rfl, rfl, rfl⟩

theorem EmailFrame.trans {db'' : Db} (h : EmailFrame auditEventId db db')
    (h' : EmailFrame auditEventId db' db'') : EmailFrame auditEventId db db'' := by
  obtain ⟨email, updatedAt, hrows⟩ := h.members
  obtain ⟨email', updatedAt', hrows'⟩ := h'.members
  refine ⟨⟨fun m => email' { m with email := email m, updatedAt := updatedAt m },
    fun m => updatedAt' { m with email := email m, updatedAt := updatedAt m }, ?_⟩,
    h'.direct.trans h.direct, h'.collections.trans h.collections,
    h'.organizations.trans h.organizations, fun e he => (h'.events e he).elim (h.events e) Or.inr,
    h'.groups.trans h.groups, h'.links.trans h.links, h'.grants.trans h.grants⟩
  rw [hrows', hrows, List.map_map]
  rfl

/-- What is written beside the memberships and the events. -/
theorem EmailFrame.of_tables (hmembers : db'.organizationUsers = db.organizationUsers)
    (hdirect : db'.collectionUsers = db.collectionUsers)
    (hcollections : db'.collections = db.collections)
    (horganizations : db'.organizations = db.organizations)
    (hevents : db'.auditEvents = db.auditEvents)
    (hgroups : db'.organizationGroups = db.organizationGroups)
    (hlinks : db'.organizationGroupUsers = db.organizationGroupUsers)
    (hgrants : db'.collectionGroups = db.collectionGroups) : EmailFrame auditEventId db db' :=
  ⟨⟨OrganizationUser.email, OrganizationUser.updatedAt,
    (congrArg Table.rows hmembers).trans (List.map_id _).symm⟩, hdirect, hcollections,
    horganizations, fun _ he => Or.inl (hevents ▸ he), hgroups, hlinks, hgrants⟩

theorem changeEmail_frame (fingerprint : String → String) (input : ChangeAccountEmailInput) :
    ∀ st ∈ input.batch fingerprint, st.Within (EmailFrame input.auditEventId) := by
  intro st hst
  simp only [ChangeAccountEmailInput.batch, List.mem_cons, List.not_mem_nil, or_false] at hst
  rcases hst with rfl | rfl | rfl | rfl | rfl | rfl | rfl | rfl
  · refine TableIn.updateTriggering_within (fun _ _ => .of_tables rfl rfl rfl rfl rfl rfl rfl rfl)
      .trans fun images s => ?_
    exact TableIn.nestedUpdate_within (fun _ _ => .of_tables rfl rfl rfl rfl rfl rfl rfl rfl) .refl s
  · intro s s' n r h
    obtain ⟨W, -, rfl, -⟩ := TableIn.insertOrIgnore_ok h
    exact .of_tables rfl rfl rfl rfl rfl rfl rfl rfl
  · exact TableIn.update_within fun _ _ => .of_tables rfl rfl rfl rfl rfl rfl rfl rfl
  · intro s s' n r h
    obtain ⟨M, hM, rfl, -⟩ := TableIn.update_ok h
    refine ⟨⟨fun m => if m.userId = some input.userId ∧ input.Committed s then input.nextEmail
        else m.email, fun m => if m.userId = some input.userId ∧ input.Committed s then
          input.nextRevisionDate else m.updatedAt, ?_⟩, rfl, rfl, rfl, fun _ => Or.inl, rfl, rfl,
      rfl⟩
    rw [hM, updateWhere]
    refine List.map_congr_left fun m _ => ?_
    by_cases hh : m.userId = some input.userId ∧ input.Committed s
    · simp only [if_pos hh]
    · simp only [if_neg hh]
  · exact TableIn.update_within fun _ _ => .of_tables rfl rfl rfl rfl rfl rfl rfl rfl
  · exact TableIn.update_within fun _ _ => .of_tables rfl rfl rfl rfl rfl rfl rfl rfl
  · exact TableIn.update_within fun _ _ => .of_tables rfl rfl rfl rfl rfl rfl rfl rfl
  · intro s s' n r h
    obtain ⟨A, hA, rfl, -⟩ := TableIn.insertSelect_ok h
    refine ⟨⟨OrganizationUser.email, OrganizationUser.updatedAt, (List.map_id _).symm⟩, rfl, rfl,
      rfl, fun e he => ?_, rfl, rfl, rfl⟩
    simp only at he
    rw [hA] at he
    refine (List.mem_append.mp he).imp_right fun he => ?_
    rw [eq_of_mem_ite he]

theorem EmailFrame.step (h : EmailFrame auditEventId db db') (hshape : MembershipShape db)
    (hdraws : op.draws = [auditEventId]) : MembershipStep op db db' := by
  obtain ⟨email, updatedAt, hrows⟩ := h.members
  have hcase : ∀ m' ∈ db'.organizationUsers.rows, ∃ m ∈ db.organizationUsers.rows,
      m' = { m with email := email m, updatedAt := updatedAt m } := by
    intro m' hm'
    rw [hrows] at hm'
    obtain ⟨m, hm, rfl⟩ := List.mem_map.mp hm'
    exact ⟨m, hm, rfl⟩
  refine ⟨?_, .of_status fun m hm m' hm' hid => ?_, fun _ t ht _ => ?_, fun e he => ?_⟩
  · constructor
    · intro m' hm' hkey
      obtain ⟨m, hm, rfl⟩ := hcase m' hm'
      exact hshape.key m hm hkey
    · intro m' hm' htoken
      obtain ⟨m, hm, rfl⟩ := hcase m' hm'
      exact hshape.token m hm htoken
    · intro m₁ hm₁ m₂ hm₂ horg huser hsome
      obtain ⟨m, hm, rfl⟩ := hcase m₁ hm₁
      obtain ⟨m', hm', rfl⟩ := hcase m₂ hm₂
      rw [hshape.account m hm m' hm' horg huser hsome]
    · intro m' hm'
      obtain ⟨m, hm, rfl⟩ := hcase m' hm'
      rw [h.organizations]
      exact hshape.organization m hm
    · intro link hlink
      rw [h.links] at hlink
      unfold GroupExists
      rw [h.groups]
      exact hshape.group link hlink
  · obtain ⟨m₀, hm₀, rfl⟩ := hcase m' hm'
    rw [db.organizationUsers.eq_of_key hm hm₀ hid.symm]
  · have hreach : ReachKept db db' t := by
      refine ⟨by rw [h.direct], fun id => ?_, ?_, fun g _ => by rw [h.grants]⟩
      · rw [OrganizationUser.collectionsNamed, h.collections]
        rfl
      · simp only [OrganizationUser.groups, h.links, h.groups]
    have hmem : { t with email := email t, updatedAt := updatedAt t } ∈
        db'.organizationUsers.rows := by
      rw [hrows]
      exact List.mem_map_of_mem ht
    exact hreach.untouched hmem rfl rfl rfl rfl
  · rw [hdraws]
    exact (h.events e he).imp_right fun hid => by rw [hid]; exact List.mem_singleton_self _

/-- **A change of address moves nobody.** -/
theorem changeAccountEmail_step {fingerprint : String → String} {input : ChangeAccountEmailInput}
    (hshape : MembershipShape db) :
    MembershipStep (.changeEmail input) db (changeAccountEmail fingerprint input db).1 := by
  unfold changeAccountEmail
  split
  · exact .refl hshape
  · have hframe : EmailFrame input.auditEventId db
        (commit (input.batch fingerprint) (input.interpret fingerprint) db).1 :=
      commit_within .refl .trans (changeEmail_frame fingerprint input)
    exact hframe.step hshape rfl

end Email

end Step

/-! ## Runs -/

section Runs

variable {fingerprint : String → String} {db : Db}

/-- Where nobody is a member yet. -/
theorem membershipShape_empty (hmembers : db.organizationUsers = ∅)
    (hlinks : db.organizationGroupUsers = ∅) : MembershipShape db where
  key := by simp [hmembers]
  token := by simp [hmembers]
  account := by simp [hmembers]
  organization := by simp [hmembers]
  group := by simp [hlinks]

/-- **One request.** -/
theorem MembershipOp.run_step {op : MembershipOp} {issued : List String}
    (hissued : ∀ e ∈ db.auditEvents.rows, e.id ∈ issued) (hwell : op.WellFormed)
    (hfresh : ∀ id ∈ op.draws, id ∉ issued) (hshape : MembershipShape db) :
    MembershipStep op db (op.run fingerprint db) := by
  have hmarked : ∀ id ∈ op.draws, ¬ Marked db id := by
    rintro id hid ⟨e, he, rfl⟩
    exact hfresh _ hid (hissued e he)
  cases op with
  | foundation input => exact createOrganizationFoundation_step input hshape
  | membership request =>
    cases request with
    | invite input auditIds => exact insertOrganizationMemberInvites_step hwell hmarked hshape
    | mutate mutation mutationId =>
      exact memberMutation_step (hmarked _ (List.mem_singleton_self _)) hshape
  | createGroup input mutationId =>
    exact createOrganizationGroup_step (hmarked _ (List.mem_singleton_self _)) hshape
  | updateGroup input mutationId =>
    exact updateOrganizationGroup_step (hmarked _ (List.mem_singleton_self _)) hshape
  | deleteGroup input mutationId =>
    exact touchGroup_step (hmarked _ (List.mem_singleton_self _)) hshape rfl rfl rfl rfl
  | removeGroupMember input membershipId mutationId =>
    exact touchGroup_step (hmarked _ (List.mem_singleton_self _)) hshape rfl rfl rfl rfl
  | changeEmail input => exact changeAccountEmail_step hshape

/-- **Key, token and account of a membership fit its status in every state of a run, and from each
of them a membership is accepted by the holder of its token and confirmed by a manager only, and an
Admin reaches no membership of an Owner or an Admin.** -/
theorem membership_authority (hshape : MembershipShape db) {ops : List MembershipOp}
    {c : Config Db String} (hrun : Run (membershipSystem fingerprint)
      { state := db, issued := db.auditEvents.rows.map AuditEventRow.id } ops c) :
    MembershipShape c.state ∧ ∀ op c', (membershipSystem fingerprint).Next c op c' →
      MovesAuthorized op c.state c'.state ∧
      (op.ByAdmin c.state → ∀ t ∈ c.state.organizationUsers.rows, t.type = 0 ∨ t.type = 1 →
        Untouched c.state c'.state t) := by
  have hinv : (∀ e ∈ c.state.auditEvents.rows, e.id ∈ c.issued) ∧ MembershipShape c.state := by
    refine hrun.invariant (I := fun c => (∀ e ∈ c.state.auditEvents.rows, e.id ∈ c.issued) ∧
      MembershipShape c.state) ⟨fun e he => List.mem_map_of_mem he, hshape⟩ ?_
    rintro c op c' ⟨⟨hstep, hwell⟩, hfresh, hnames⟩ ⟨hissued, hshape⟩
    obtain hstep : c'.state = op.run fingerprint c.state := hstep
    have h : MembershipStep op c.state (op.run fingerprint c.state) :=
      op.run_step hissued hwell hfresh hshape
    rw [hstep, hnames]
    refine ⟨fun e he => ?_, h.shape⟩
    rcases h.events e he with hold | hdrawn
    · exact List.mem_append_right _ (hissued e hold)
    · exact List.mem_append_left _ hdrawn
  refine ⟨hinv.2, fun op c' hnext => ?_⟩
  obtain ⟨⟨hstep, hwell⟩, hfresh, -⟩ := hnext
  obtain hstep : c'.state = op.run fingerprint c.state := hstep
  have h : MembershipStep op c.state (op.run fingerprint c.state) :=
    op.run_step hinv.1 hwell hfresh hinv.2
  rw [hstep]
  exact ⟨h.moves, h.untouched⟩

end Runs

/-! ### A run -/

/-- Two accounts and no organization. -/
def twoAccounts : Db where
  users := twoOwners.users

/-- The event of a request at `now`. -/
def memberEvent (name : String) (now : Timestamp) : AuditEvent where
  name := name
  outcome := "success"
  requestId := "r"
  occurredAt := now

/-- The invitation of the second account as Admin. -/
def invitation : MemberInvitesInput where
  organizationId := "o"
  actorUserId := "u1"
  now := 2
  type := .admin
  collections := []
  invites := [⟨"m2", "b", "t", 9⟩]
  auditEvents := [memberEvent "organization.member.invite" 2]

/-- Its acceptance. -/
def acceptance : AcceptInviteInput where
  organizationId := "o"
  membershipId := "m2"
  now := 3
  auditEvent := memberEvent "organization.member.accept" 3
  userId := "u2"
  emailNormalized := "b"
  inviteTokenHash := "t"

/-- Its confirmation. -/
def confirmation : ConfirmMemberInput where
  organizationId := "o"
  actorUserId := "u1"
  membershipId := "m2"
  now := 4
  auditEvent := memberEvent "organization.member.confirm" 4
  keyEncrypted := "k2"

/-- The first account starts an organization. -/
def firstFoundation : OrganizationFoundationInput where
  userId := "u1"
  organizationId := "o"
  organizationUserId := "m1"
  collectionId := "c"
  email := "a"
  name := "o"
  billingEmail := none
  planType := 0
  orgKey := "k"
  publicKey := "p"
  privateKey := "q"
  encryptedCollectionName := "n"
  now := 1

/-- The first two members of an organization. -/
def firstMembers : List MembershipOp :=
  [.foundation firstFoundation, .membership (.invite invitation ["x"]),
    .membership (.mutate (.accept acceptance) "y"),
    .membership (.mutate (.confirm confirmation) "z")]

/-- Where they end. -/
def firstMembersEnd : Config Db String :=
  (replay (MembershipOp.run id) MembershipOp.draws { state := twoAccounts } firstMembers).get
    (by decide +kernel)

theorem membership_authority_firstMembers :
    (firstMembersEnd.state.organizationUsers.rows.map fun m => (m.id, m.status, m.type)) =
      [("m1", 2, 0), ("m2", 2, 1)] ∧ MembershipShape firstMembersEnd.state := by
  refine ⟨by decide +kernel, (membership_authority (membershipShape_empty rfl rfl)
    (replay_restrict (Option.some_get _).symm ?_)).1⟩
  decide +kernel

end HonoWarden
