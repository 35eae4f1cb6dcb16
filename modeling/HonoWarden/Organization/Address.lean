import HonoWarden.Credential.KdfPopulation

/-!
# The address of a linked membership

A membership carries the address it was sent to, and `acceptOrganizationMemberInvite` and
`confirmOrganizationMember` compare it with `users.email_normalized`. An invitation stores the
normalized address. `createOrganizationFoundation` stores the address its handler passes, which is
the account's `email` as it was spelled, and `changeAccountEmail` rewrites the memberships to
`input.nextEmail`, the new address as it was spelled, while the account gets the normalized one.

Results:
* **`addresses_linked`**: as long as no membership is written in a spelling of its own, every
  linked membership has the normalized address of its account;
* `address_spelled`: a change to `Next@Example.Test` ends that, and the accepted member cannot be
  confirmed any more.
-/

namespace HonoWarden

open Relational

/-- Every linked membership has the normalized address of its account. -/
def Db.AddressesLinked (db : Db) : Prop :=
  ∀ m ∈ db.organizationUsers.rows, ∀ u ∈ db.users.rows, m.userId = some u.id →
    m.email = u.emailNormalized

instance (db : Db) : Decidable db.AddressesLinked :=
  inferInstanceAs (Decidable (∀ m ∈ db.organizationUsers.rows, _))

/-- The request writes no membership in another spelling than the normalized one. -/
def MembershipOp.Normalized (db : Db) : MembershipOp → Prop
  | foundation input => ∀ u ∈ db.users.rows, u.id = input.userId → input.email = u.emailNormalized
  | changeEmail input => input.nextEmail = input.nextEmailNormalized ∨
    ∀ m ∈ db.organizationUsers.rows, m.userId ≠ some input.userId
  | _ => True

instance (db : Db) : DecidablePred (MembershipOp.Normalized db) := fun op =>
  match op with
  | .foundation _ => inferInstanceAs (Decidable (∀ u ∈ db.users.rows, _))
  | .changeEmail _ => inferInstanceAs (Decidable (_ ∨ _))
  | .membership _ => inferInstanceAs (Decidable True)
  | .createGroup _ _ => inferInstanceAs (Decidable True)
  | .updateGroup _ _ => inferInstanceAs (Decidable True)
  | .deleteGroup _ _ => inferInstanceAs (Decidable True)
  | .removeGroupMember _ _ _ => inferInstanceAs (Decidable True)

/-- A step keeps the addresses linked. -/
def LinkKept (db db' : Db) : Prop := db.AddressesLinked → db'.AddressesLinked

/-! ## Requests to memberships and groups -/

theorem linkKept_frame : RequestFrame LinkKept where
  refl _ h := h
  trans h h' := h' ∘ h
  events _ _ h := h
  organizations _ _ h := h
  grants _ _ h := h
  groups _ _ h := h
  links _ _ h := h
  groupGrants _ _ h := h
  polled db T hit _ now hT h m hm u' hu' hlink := by
    simp only at hu'
    rw [hT] at hu'
    rcases mem_updateWhere_cases hu' with ⟨hu, -⟩ | ⟨u, hu, -, rfl⟩
    · exact h m hm u' hu hlink
    · exact h m hm u hu hlink
  left db T hit _ hT h m hm u hu hlink := by
    simp only at hm
    rw [hT] at hm
    exact h m (mem_deleteWhere.mp hm).1 u hu hlink

/-- A write of memberships that links no account to another address. -/
theorem members_update_linkKept {hit : Db → Nat → OrganizationUser → Prop}
    [∀ s n, DecidablePred (hit s n)] {set : OrganizationUser → OrganizationUser}
    (hset : ∀ db n m, hit db n m → ∀ u ∈ db.users.rows, (set m).userId = some u.id →
      (m.userId = some u.id → m.email = u.emailNormalized) → (set m).email = u.emailNormalized) :
    (Db.organizationUsersIn.update hit fun _ => set).Within LinkKept := by
  intro s s' n r hrun h m' hm' u hu hlink
  obtain ⟨M, hM, rfl, -⟩ := TableIn.update_ok hrun
  simp only at hm' hu
  rw [hM] at hm'
  rcases mem_updateWhere_cases hm' with ⟨hm, -⟩ | ⟨m, hm, hhit, rfl⟩
  · exact h m' hm u hu hlink
  · exact hset s n m hhit u hu hlink fun hold => h m hm u hu hold

/-- An acceptance links the account whose normalized address was invited. -/
theorem acceptInvite_linkKept (input : AcceptInviteInput) (mutationId : String) :
    (acceptInvite input mutationId).Within LinkKept := by
  refine members_update_linkKept fun db n m hhit u hu hlink _ => ?_
  obtain ⟨-, ⟨account, haccount, hid, hemail, -⟩, -⟩ := hhit
  have hsame : input.userId = u.id := Option.some.inj hlink
  obtain rfl := db.users.eq_of_key haccount hu (hid.trans hsame)
  exact hemail.symm

theorem confirmMember_linkKept (input : ConfirmMemberInput) (mutationId : String) :
    (confirmMember input mutationId).Within LinkKept :=
  members_update_linkKept fun _ _ _ _ _ _ hlink hold => hold hlink

theorem updateMember_linkKept (input : UpdateMemberInput) (mutationId : String) :
    (updateMember input mutationId).Within LinkKept :=
  members_update_linkKept fun _ _ _ _ _ _ hlink hold => hold hlink

theorem revokeMember_linkKept (input : MembershipMutation) (status : Int → Prop)
    [DecidablePred status] (mutationId : String) :
    (revokeMember input status mutationId).Within LinkKept :=
  members_update_linkKept fun _ _ _ _ _ _ hlink hold => hold hlink

/-- A repeated invitation is linked to nobody. -/
theorem reinviteMember_linkKept (input : ReinviteMemberInput) (mutationId : String) :
    (reinviteMember input mutationId).Within LinkKept := by
  refine members_update_linkKept fun _ _ _ _ _ _ hlink _ => ?_
  cases hlink

theorem memberMutation_linkKept (mutation : MemberMutation) (mutationId : String) (db : Db) :
    LinkKept db (mutation.run mutationId db).1 := by
  cases mutation with
  | accept input =>
    exact runMutation_within linkKept_frame (acceptInvite_linkKept input mutationId) db
  | confirm input =>
    exact runMutation_within linkKept_frame (confirmMember_linkKept input mutationId) db
  | update input =>
    exact runMutation_within linkKept_frame (updateMember_linkKept input mutationId) db
  | revoke input =>
    exact runMutation_within linkKept_frame (revokeMember_linkKept input _ mutationId) db
  | remove input =>
    exact runMutation_within linkKept_frame (revokeMember_linkKept input _ mutationId) db
  | reinvite input =>
    exact runMutation_within linkKept_frame (reinviteMember_linkKept input mutationId) db

/-- An invitation is linked to nobody. -/
theorem insertInvites_linkKept (input : MemberInvitesInput) (auditIds : List String) :
    (input.insertInvites auditIds).Within LinkKept := by
  intro s s' n r hrun h m hm u hu hlink
  obtain ⟨M, hM, rfl, -⟩ := TableIn.insertSelect_ok hrun
  simp only at hm hu
  rw [hM] at hm
  rcases List.mem_append.mp hm with hm | hm
  · exact h m hm u hu hlink
  · split at hm
    · obtain ⟨invite, -, rfl⟩ := List.mem_map.mp hm
      cases hlink
    · cases hm

/-! ## The foundation -/

theorem createOrganizationFoundation_linked {input : OrganizationFoundationInput} {db : Db}
    (h : db.AddressesLinked)
    (hemail : ∀ u ∈ db.users.rows, u.id = input.userId → input.email = u.emailNormalized) :
    (createOrganizationFoundation input db).1.AddressesLinked := by
  rcases createOrganizationFoundation_cases input db with
    hdb | ⟨O, M, C, G, ms, cs, gs, hdb, -, hM, hms, -⟩
  · rwa [hdb]
  · rw [hdb]
    intro m hm u hu hlink
    simp only at hm
    rw [hM] at hm
    rcases List.mem_append.mp hm with hm | hm
    · exact h m hm u hu hlink
    · rw [hms m hm] at hlink ⊢
      exact hemail u hu (Option.some.inj hlink).symm

/-! ## The change of address -/

namespace ChangeAccountEmailInput

variable {fingerprint : String → String} {input : ChangeAccountEmailInput}

/-- The account is in the generation the change leaves. -/
def InGeneration (input : ChangeAccountEmailInput) (u : User) : Prop :=
  u.id = input.userId ∧ u.emailNormalized = input.nextEmailNormalized ∧
    u.securityStamp = input.nextSecurityStamp ∧ u.revisionDate = input.nextRevisionDate

/-- The memberships are as before, and so is the address of every account that is not in the
generation of the change. -/
structure Underway (input : ChangeAccountEmailInput) (db db' : Db) : Prop where
  members : db'.organizationUsers = db.organizationUsers
  users : ∀ u' ∈ db'.users.rows, input.InGeneration u' ∨
    ∃ u ∈ db.users.rows, u.id = u'.id ∧ u.emailNormalized = u'.emailNormalized

theorem invalidateStaleUserKeyId_users (images : List (User × User)) (db : Db) :
    ∃ T : Table User, (invalidateStaleUserKeyId images db).1 = { db with users := T } ∧
      ∀ u' ∈ T.rows, ∃ u ∈ db.users.rows, u' = u ∨ u' = { u with userKeyId := none } := by
  obtain ⟨T, hT, hrows⟩ := TableIn.nestedUpdate_eq Db.usersIn
    (fun u => ∃ image ∈ images, image.2.userKey ≠ image.1.userKey ∧
      image.2.userKeyId = image.1.userKeyId ∧ image.1.userKeyId ≠ none ∧ u.id = image.2.id)
    (fun u => { u with userKeyId := none }) db keepsKeys_userKeyId
  refine ⟨T, hT, fun u' hu' => ?_⟩
  rw [hrows] at hu'
  rcases mem_updateWhere_cases hu' with ⟨hu, -⟩ | ⟨u, hu, -, rfl⟩
  · exact ⟨u', hu, Or.inl rfl⟩
  · exact ⟨u, hu, Or.inr rfl⟩

theorem changeUser_underway {db db' : Db} {n : Nat} {r : StatementResult}
    (h : input.changeUser fingerprint db n = .ok (db', r)) : input.Underway db db' := by
  obtain ⟨T, hT, rfl, -⟩ := TableIn.updateTriggering_ok h
  obtain ⟨T', hT', hrows⟩ := invalidateStaleUserKeyId_users
    ((db.users.rows.filter fun u => input.Account fingerprint db u).map fun u =>
      (u, input.change u)) { db with users := T }
  change input.Underway db (invalidateStaleUserKeyId _ { db with users := T }).1
  rw [hT']
  refine ⟨rfl, fun u' hu' => ?_⟩
  have hwritten : ∀ u ∈ T.rows, input.InGeneration u ∨
      ∃ v ∈ db.users.rows, v.id = u.id ∧ v.emailNormalized = u.emailNormalized := by
    intro u hu
    rw [hT] at hu
    rcases mem_updateWhere_cases hu with ⟨hu, -⟩ | ⟨v, -, hhit, rfl⟩
    · exact Or.inr ⟨u, hu, rfl, rfl⟩
    · exact Or.inl ⟨hhit.1.1, rfl, rfl, rfl⟩
  obtain ⟨u, hu, rfl | rfl⟩ := hrows u' hu'
  · exact hwritten u' hu
  · exact hwritten u hu

/-- The memberships follow the account. -/
theorem changeMemberships_linked {db db₁ db₂ : Db} {n : Nat} {r : StatementResult}
    (h : db.AddressesLinked) (hunderway : input.Underway db db₁)
    (hspelling : input.nextEmail = input.nextEmailNormalized ∨
      ∀ m ∈ db.organizationUsers.rows, m.userId ≠ some input.userId)
    (hrun : input.changeMemberships db₁ n = .ok (db₂, r)) : db₂.AddressesLinked := by
  obtain ⟨M, hM, rfl, -⟩ := TableIn.update_ok hrun
  intro m' hm' u' hu' hlink
  simp only at hm' hu'
  rw [hM] at hm'
  change m' ∈ updateWhere _ _ db₁.organizationUsers.rows at hm'
  rw [hunderway.members] at hm'
  rcases mem_updateWhere_cases hm' with ⟨hm, hmiss⟩ | ⟨m, hm, ⟨howner, hcommitted⟩, rfl⟩
  · rcases hunderway.users u' hu' with hnew | ⟨u, hu, hid, hemail⟩
    · -- The account of the change has its generation, so its memberships were written.
      exact absurd ⟨hlink.trans (congrArg some hnew.1), u', hu', hnew⟩ hmiss
    · rw [← hemail]
      exact h m' hm u hu (hlink.trans (congrArg some hid.symm))
  · obtain ⟨v, hv, hvid, hvemail, -⟩ := hcommitted
    have hsame : u' = v := by
      refine db₁.users.eq_of_key hu' hv ?_
      have hid : some input.userId = some u'.id := howner.symm.trans hlink
      exact (Option.some.inj hid).symm.trans hvid.symm
    rcases hspelling with hspelling | hnone
    · change input.nextEmail = _
      rw [hsame, hvemail, hspelling]
    · exact absurd howner (hnone m hm)

/-- The wrappers and the token are written elsewhere. -/
theorem Underway.insertHistory {db db₁ db₂ : Db} {wrappers : List CredentialWrapper}
    {userId stamp : String} {now revision : Timestamp} {n : Nat} {r : StatementResult}
    (h : input.Underway db db₁)
    (hrun : insertCredentialWrapperHistory wrappers userId now stamp revision db₁ n =
      .ok (db₂, r)) : input.Underway db db₂ := by
  obtain ⟨W, -, rfl, -⟩ := TableIn.insertOrIgnore_ok hrun
  exact ⟨h.members, h.users⟩

theorem Underway.updateToken {db db₁ db₂ : Db} {hit : Db → Nat → AccountLifecycleToken → Prop}
    [∀ s n, DecidablePred (hit s n)] {set : Db → AccountLifecycleToken → AccountLifecycleToken}
    {n : Nat} {r : StatementResult} (h : input.Underway db db₁)
    (hrun : Db.accountLifecycleTokensIn.update hit set db₁ n = .ok (db₂, r)) :
    input.Underway db db₂ := by
  obtain ⟨T, -, rfl, -⟩ := TableIn.update_ok hrun
  exact ⟨h.members, h.users⟩

theorem changeAccountEmail_linked {db : Db} (h : db.AddressesLinked)
    (hspelling : input.nextEmail = input.nextEmailNormalized ∨
      ∀ m ∈ db.organizationUsers.rows, m.userId ≠ some input.userId) :
    (changeAccountEmail fingerprint input db).1.AddressesLinked := by
  unfold changeAccountEmail
  split
  · exact h
  rcases commit_cases (input.batch fingerprint) (input.interpret fingerprint) db with
    ⟨hdb, -⟩ | ⟨db', rs, hrun, hdb, -⟩
  · rwa [hdb]
  rw [hdb]
  obtain ⟨db₁, r₁, rs₁, hfirst, hrun₁, -⟩ := runFrom_cons hrun
  obtain ⟨db₂, r₂, rs₂, hhistory, hrun₂, -⟩ := runFrom_cons hrun₁
  obtain ⟨db₃, r₃, rs₃, htoken, hrun₃, -⟩ := runFrom_cons hrun₂
  obtain ⟨db₄, r₄, rs₄, hmembers, hrest, -⟩ := runFrom_cons hrun₃
  have hunderway := ((changeUser_underway hfirst).insertHistory hhistory).updateToken htoken
  have hlinked := changeMemberships_linked h hunderway hspelling hmembers
  refine runFrom_within (R := LinkKept) linkKept_frame.refl linkKept_frame.trans
    (fun st hst => ?_) hrest hlinked
  simp only [List.mem_cons, List.not_mem_nil, or_false] at hst
  rcases hst with rfl | rfl | rfl | rfl
  · exact TableIn.update_within fun _ _ h => h
  · exact TableIn.update_within fun _ _ h => h
  · exact TableIn.update_within fun _ _ h => h
  · exact auditStatement_within linkKept_frame

end ChangeAccountEmailInput

/-! ## Runs -/

section Runs

variable {fingerprint : String → String}

theorem MembershipOp.run_linked {op : MembershipOp} {db : Db} (h : db.AddressesLinked)
    (hop : op.Normalized db) : (op.run fingerprint db).AddressesLinked := by
  cases op with
  | foundation input => exact createOrganizationFoundation_linked h hop
  | membership request =>
    cases request with
    | invite input auditIds =>
      exact insertOrganizationMemberInvites_within linkKept_frame
        (insertInvites_linkKept input auditIds) db h
    | mutate mutation mutationId => exact memberMutation_linkKept mutation mutationId db h
  | createGroup input mutationId =>
    exact (MembershipOp.groups_within linkKept_frame fingerprint db).1 input mutationId h
  | updateGroup input mutationId =>
    exact (MembershipOp.groups_within linkKept_frame fingerprint db).2.1 input mutationId h
  | deleteGroup input mutationId =>
    exact (MembershipOp.groups_within linkKept_frame fingerprint db).2.2.1 input mutationId h
  | removeGroupMember input membershipId mutationId =>
    exact (MembershipOp.groups_within linkKept_frame fingerprint db).2.2.2 input membershipId
      mutationId h
  | changeEmail input => exact ChangeAccountEmailInput.changeAccountEmail_linked h hop

/-- **In every run that writes no membership in a spelling of its own, every linked membership has
the normalized address of its account.** -/
theorem addresses_linked {db : Db} {issued : List String} {ops : List MembershipOp}
    {c : Config Db String} (h : db.AddressesLinked)
    (hrun : Run ((membershipSystem fingerprint).restrict fun db op => op.Normalized db)
      { state := db, issued := issued } ops c) : c.state.AddressesLinked := by
  refine hrun.invariant (I := fun c => c.state.AddressesLinked) h fun hnext hlinked => ?_
  rw [hnext.step.1.1]
  exact MembershipOp.run_linked hlinked hnext.step.2

end Runs

/-! ### A change of spelling -/

/-- The second account changes its address. -/
def changeTo (nextEmail nextEmailNormalized : String) : ChangeAccountEmailInput where
  userId := "u2"
  expectedEmailNormalized := "b"
  expectedMasterPasswordHash := ""
  expectedUserKey := "old"
  expectedSecurityStamp := ""
  expectedRevisionDate := 5
  tokenDigest := "token"
  tokenCredentialGeneration := ""
  nextEmail := nextEmail
  nextEmailNormalized := nextEmailNormalized
  nextMasterPasswordHash := "hash"
  nextUserKey := "new"
  nextSecurityStamp := "stamp"
  nextRevisionDate := 9
  auditEventId := "e"
  auditEvent := memberEvent "account.email.change" 9

/-- Two accounts, the second with a token for a change to `next@example.test`. -/
def withEmailToken : Db where
  users := ⟨[{ id := "u1", emailNormalized := "a" },
    { id := "u2", emailNormalized := "b", userKey := some "old", revisionDate := 4 }], by decide⟩
  accountLifecycleTokens := ⟨[{
    id := "t"
    userId := "u2"
    purpose := .emailChange
    tokenDigest := "token"
    targetEmailNormalized := some "next@example.test"
    credentialGeneration := ""
    deliveryState := .accepted
    expiresAt := 99 }], by decide⟩

/-- The second account is invited, accepts, and changes its address to a spelling of
`next@example.test`. -/
def acceptedMoves (nextEmail : String) : List MembershipOp :=
  [.foundation firstFoundation, .membership (.invite invitation ["x"]),
    .membership (.mutate (.accept acceptance) "y"),
    .changeEmail (changeTo nextEmail "next@example.test")]

/-- Where that ends for the normalized spelling. -/
def acceptedMovesEnd : Config Db String :=
  (replay (MembershipOp.run id) MembershipOp.draws { state := withEmailToken }
    (acceptedMoves "next@example.test")).get (by decide +kernel)

theorem addresses_linked_normalized :
    (acceptedMovesEnd.state.organizationUsers.rows.map fun m => (m.userId, m.email)) =
      [(some "u1", "a"), (some "u2", "next@example.test")] ∧
    acceptedMovesEnd.state.AddressesLinked := by
  refine ⟨by decide +kernel, addresses_linked (by decide +kernel) (Run.restrict_and
    (replay_restrict (Option.some_get _).symm ?_))⟩
  decide +kernel

/-- Where it ends for another spelling. -/
def acceptedMovesSpelledEnd : Config Db String :=
  (replay (MembershipOp.run id) MembershipOp.draws { state := withEmailToken }
    (acceptedMoves "Next@Example.Test")).get (by decide +kernel)

/-- **A membership in a spelling of its own**: the accepted member cannot be confirmed. -/
theorem address_spelled :
    withEmailToken.AddressesLinked ∧
    Run (membershipSystem id) { state := withEmailToken } (acceptedMoves "Next@Example.Test")
      acceptedMovesSpelledEnd ∧
    ¬ acceptedMovesSpelledEnd.state.AddressesLinked ∧
    (confirmOrganizationMember confirmation "z" acceptedMovesSpelledEnd.state).2 =
      .ok .notFound := by
  refine ⟨by decide +kernel, replay_restrict (Option.some_get _).symm ?_, by decide +kernel,
    by decide +kernel⟩
  decide +kernel

end HonoWarden
