import HonoWarden.Organization.Access
import HonoWarden.Relational.Lookup
import HonoWarden.Relational.Run

/-!
# Company settings

Model of `src/company-settings.ts` with the table of migration 0032.

An update presents the settings revision it has seen, `null` for the first write. The swap is one
upsert whose SELECT carries the whole guard: the caller is a confirmed Owner and the stored revision
is the one presented. Everything after it asks for the fresh revision the upsert has left: the name
and revision of the organization, the audit event, an assertion that both are there, and the
polling revision of every member.

Results:
* **`updateCompanySettings_outcome`**: a call writes all of it, or changes no table;
* `companySettingsSafe_next`: what one step of a run keeps;
* **`companySettings_swapped`**: in every run, with any other writes in between, no two calls that
  present the same revision for one organization succeed.
-/

namespace HonoWarden

open Relational

/-- `organization_company_settings`. -/
structure CompanySettingsRow where
  organizationId : String
  defaultEmailDomain : Option String := none
  expectedMemberCount : Option Int := none
  mailTestRecipient : Option String := none
  revision : String
  updatedAt : Timestamp := 0
  deriving DecidableEq, Repr

instance : Keyed CompanySettingsRow String := .primary CompanySettingsRow.organizationId

/-- The database, with the company settings. -/
structure CompanyDb extends Db where
  companySettings : Table CompanySettingsRow := ∅
  deriving DecidableEq

namespace CompanyDb

abbrev usersIn : TableIn CompanyDb User where
  name := "users"
  get db := db.users
  put db t := { db with users := t }
  get_put _ _ := rfl
  put_get _ := rfl

abbrev organizationsIn : TableIn CompanyDb Organization where
  name := "organizations"
  get db := db.organizations
  put db t := { db with organizations := t }
  get_put _ _ := rfl
  put_get _ := rfl

abbrev auditEventsIn : TableIn CompanyDb AuditEventRow where
  name := "audit_events"
  get db := db.auditEvents
  put db t := { db with auditEvents := t }
  get_put _ _ := rfl
  put_get _ := rfl

abbrev companySettingsIn : TableIn CompanyDb CompanySettingsRow where
  name := "organization_company_settings"
  get db := db.companySettings
  put db t := { db with companySettings := t }
  get_put _ _ := rfl
  put_get _ := rfl

/-- The revision of an organization's settings; `none` is the NULL of the outer join. -/
def settingsRevision (db : CompanyDb) (organizationId : String) : Option String :=
  (companySettingsIn.row db organizationId).map CompanySettingsRow.revision

end CompanyDb

/-- `CompanySettingsInput`. -/
structure CompanySettingsInput where
  name : String
  defaultEmailDomain : Option String
  expectedMemberCount : Option Int
  mailTestRecipient : Option String
  revision : Option String
  deriving DecidableEq, Repr

/-- `CompanySettings`. -/
structure CompanySettings extends CompanySettingsInput where
  canEdit : Bool
  deriving DecidableEq, Repr

/-- `Scope`. -/
structure CompanyScope where
  organizationId : String
  actor : MfaSessionActor
  deriving DecidableEq, Repr

namespace CompanyScope

variable (input : CompanyScope)

/-- `organizationAccessActorValues(input.actor.userId, input.actor)`. -/
def context : OrganizationAccessContext where
  userId := input.actor.userId
  actor := some input.actor

/-- The confirmed memberships of the actor in the organization. -/
def memberships (db : Db) : List OrganizationUser :=
  (confirmedMemberships db input.context).filter fun m => m.organizationId = input.organizationId

/-- `readCompanySettings`: for Owners and Admins. An account has one membership of an organization;
the query takes the first. -/
def readCompanySettings (db : CompanyDb) : Option CompanySettings :=
  match db.organizations.rows.find? fun o => o.id = input.organizationId with
  | none => none
  | some organization =>
    ((input.memberships db.toDb).find? fun m => m.type = 0 ∨ m.type = 1).map
        fun (m : OrganizationUser) =>
      let settings := CompanyDb.companySettingsIn.row db input.organizationId
      { name := organization.name
        defaultEmailDomain := settings.bind CompanySettingsRow.defaultEmailDomain
        expectedMemberCount := settings.bind CompanySettingsRow.expectedMemberCount
        mailTestRecipient := settings.bind CompanySettingsRow.mailTestRecipient
        revision := settings.map CompanySettingsRow.revision
        canEdit := m.type = 0 }

end CompanyScope

/-- The input of `updateCompanySettings`. -/
structure UpdateCompanySettingsInput extends CompanyScope where
  settings : CompanySettingsInput
  now : Timestamp
  requestId : String
  deriving DecidableEq, Repr

/-- The results of `updateCompanySettings`. -/
inductive UpdateCompanySettingsResult where
  | success (settings : CompanySettings)
  | notFound
  | conflict
  deriving DecidableEq, Repr

namespace UpdateCompanySettingsInput

variable (input : UpdateCompanySettingsInput) (revision : String)

/-- The SELECT of the swap has a row: the actor is a confirmed Owner, and the stored revision is the
one presented. -/
def Swaps (db : CompanyDb) : Prop :=
  (∃ o ∈ db.organizations.rows, o.id = input.organizationId) ∧
    (∃ m ∈ input.memberships db.toDb, m.type = 0) ∧
    db.settingsRevision input.organizationId = input.settings.revision

instance (db : CompanyDb) : Decidable (input.Swaps db) := inferInstanceAs (Decidable (_ ∧ _))

/-- The row the swap writes. -/
def row : CompanySettingsRow where
  organizationId := input.organizationId
  defaultEmailDomain := input.settings.defaultEmailDomain
  expectedMemberCount := input.settings.expectedMemberCount
  mailTestRecipient := input.settings.mailTestRecipient
  revision := revision
  updatedAt := input.now

/-- `DO UPDATE SET …`: every column but the key is `excluded`'s. -/
def overwrite (old excluded : CompanySettingsRow) : CompanySettingsRow :=
  { old with
    defaultEmailDomain := excluded.defaultEmailDomain
    expectedMemberCount := excluded.expectedMemberCount
    mailTestRecipient := excluded.mailTestRecipient
    revision := excluded.revision
    updatedAt := excluded.updatedAt }

/-- The CHECKs of the table. -/
def Storable : Prop :=
  (∀ domain ∈ input.settings.defaultEmailDomain, 1 ≤ domain.length ∧ domain.length ≤ 253) ∧
    (∀ count ∈ input.settings.expectedMemberCount, 1 ≤ count ∧ count ≤ 100000) ∧
    ∀ recipient ∈ input.settings.mailTestRecipient, 3 ≤ recipient.length ∧ recipient.length ≤ 254

instance : Decidable input.Storable := inferInstanceAs (Decidable (_ ∧ _))

/-- The settings carry the revision of this call. -/
def Written (db : CompanyDb) : Prop :=
  ∃ s ∈ db.companySettings.rows, s.organizationId = input.organizationId ∧ s.revision = revision

instance (db : CompanyDb) : Decidable (input.Written revision db) :=
  inferInstanceAs (Decidable (∃ s ∈ db.companySettings.rows, _))

def rename (o : Organization) : Organization :=
  { o with
    name := input.settings.name
    updatedAt := input.now
    revisionDate := max o.revisionDate input.now + 1 }

def auditEvent : AuditEventRow where
  id := revision
  name := "organization.settings.update"
  outcome := "success"
  requestId := input.requestId
  occurredAt := input.now
  actorUserId := some input.actor.userId
  actorDeviceIdentifier := some input.actor.deviceIdentifier
  targetType := some "organization"
  targetId := some input.organizationId
  contextJson := some [("organizationId", .text input.organizationId)]

/-- An account with a membership of the organization, whatever its status. -/
def Member (db : Db) (u : User) : Prop :=
  ∃ m ∈ db.organizationUsers.rows, m.organizationId = input.organizationId ∧ m.userId = some u.id

instance (db : Db) : DecidablePred (input.Member db) := fun _ =>
  inferInstanceAs (Decidable (∃ m ∈ db.organizationUsers.rows, _))

/-- The account, moved past everything its client may have seen. -/
def poll (db : Db) (u : User) : User :=
  let organizations := membershipOrganizations db u.id
  { u with
    revisionDate := [u.revisionDate, input.now,
      latestRevision ((db.folders.rows.filter fun f => f.userId = u.id).map Folder.revisionDate)
        u.revisionDate,
      latestRevision ((db.ciphers.rows.filter fun c => c.userId = u.id).map Cipher.revisionDate)
        u.revisionDate,
      latestRevision ((db.organizations.rows.filter fun o =>
        o.id ∈ organizations).map Organization.revisionDate) u.revisionDate].foldl max 0 + 1 }

/-- The batch of `updateCompanySettings`. An actor with two confirmed memberships selects the row
of the swap twice, and writes it twice. -/
def batch : List (Statement CompanyDb) :=
  [(CompanyDb.companySettingsIn.upsertRow
      (fun db _ => if input.Swaps db then some (input.row revision) else none)
      (fun old excluded => some (overwrite old excluded)) fun _ => []).checked input.Storable,
    CompanyDb.organizationsIn.update
      (fun db _ o => o.id = input.organizationId ∧ input.Written revision db)
      fun _ => input.rename,
    CompanyDb.auditEventsIn.insertSelect fun db _ =>
      if input.Written revision db then [input.auditEvent revision] else [],
    assertThat fun db _ => ¬ (input.Written revision db ∧ (¬ Marked db.toDb revision ∨
      ¬ ∃ o ∈ db.organizations.rows, o.id = input.organizationId ∧ o.name = input.settings.name)),
    CompanyDb.usersIn.update
      (fun db _ u => input.Member db.toDb u ∧ Marked db.toDb revision)
      fun db => input.poll db.toDb,
    select fun db => (db.companySettings.rows.filter fun s =>
      s.organizationId = input.organizationId ∧ s.revision = revision).map fun s =>
        [.text s.revision]]

/-- The reading of the batch: whether the revision of this call was written. -/
def interpret (results : List StatementResult) : Except String Bool :=
  if results.length ≠ 6 then .error "Company settings transaction failed."
  else .ok ((results[5]?.bind fun r => r.rows.head?) = some [.text revision])

/-- What the caller is told. Without a write that takes another read, of the database as it is
`later`. -/
def answer (later : CompanyDb) (written : Bool) : UpdateCompanySettingsResult :=
  if written then .success { input.settings with revision := some revision, canEdit := true }
  else
    match input.readCompanySettings later with
    | some current => if current.canEdit then .conflict else .notFound
    | none => .notFound

end UpdateCompanySettingsInput

/-- `updateCompanySettings`, which draws `revision`. -/
def updateCompanySettings (input : UpdateCompanySettingsInput) (revision : String)
    (later : CompanyDb) (db : CompanyDb) :
    CompanyDb × Except Failure UpdateCompanySettingsResult :=
  let call := commit (input.batch revision) (UpdateCompanySettingsInput.interpret revision) db
  (call.1, call.2.map (input.answer revision later))

/-! ## What a call does -/

/-- The call turned `db` into `db'` by swapping the settings, renaming the organization, leaving its
event and moving the organization and its members on, and nothing else. -/
structure CompanySettingsWritten (input : UpdateCompanySettingsInput) (revision : String)
    (db db' : CompanyDb) : Prop where
  swaps : input.Swaps db
  settings : db'.companySettings.rows =
    (upsert (fun old excluded => some (UpdateCompanySettingsInput.overwrite old excluded))
      db.companySettings.rows (input.row revision)).1
  organization : ∃ o ∈ db.organizations.rows, o.id = input.organizationId ∧
    o.revisionDate < (input.rename o).revisionDate ∧ db'.organizations.rows =
      updateWhere (fun p => p.id = input.organizationId) (fun _ => input.rename o)
        db.organizations.rows
  audit : db'.auditEvents.rows = db.auditEvents.rows ++ [input.auditEvent revision]
  members : db'.users.rows = updateWhere (input.Member db.toDb)
      (input.poll { db.toDb with organizations := db'.organizations }) db.users.rows ∧
    ∀ u, u.revisionDate <
      (input.poll { db.toDb with organizations := db'.organizations } u).revisionDate
  others : db' =
    { db with
      companySettings := db'.companySettings
      organizations := db'.organizations
      auditEvents := db'.auditEvents
      users := db'.users }

/-- The revision drawn is the revision of no settings and the id of no event. -/
def CompanyDb.Unused (db : CompanyDb) (revision : String) : Prop :=
  (∀ s ∈ db.companySettings.rows, s.revision ≠ revision) ∧
    ∀ e ∈ db.auditEvents.rows, e.id ≠ revision

instance (db : CompanyDb) (revision : String) : Decidable (db.Unused revision) :=
  inferInstanceAs (Decidable (_ ∧ _))

section Outcome

variable {input : UpdateCompanySettingsInput} {revision : String} {db : CompanyDb}

/-- A polled account is moved on. -/
theorem UpdateCompanySettingsInput.lt_poll (db : Db) (u : User) :
    u.revisionDate < (input.poll db u).revisionDate := by
  refine Nat.lt_succ_of_le ?_
  simp only [List.foldl_cons, List.foldl_nil, le_max_iff, le_refl, or_true, true_or]

/-- The swap leaves the revision of the call. -/
theorem UpdateCompanySettingsInput.written_of_upsert {db : CompanyDb}
    {T : Table CompanySettingsRow} (hT : T.rows =
      (upsert (fun old excluded => some (UpdateCompanySettingsInput.overwrite old excluded))
      db.companySettings.rows (input.row revision)).1) :
    ∃ s ∈ T.rows, s.organizationId = input.organizationId ∧ s.revision = revision := by
  rw [hT]
  rcases upsert_cases (fun old excluded => some (overwrite old excluded)) db.companySettings.rows
    (input.row revision) with ⟨-, hrows⟩ | ⟨old, hold, hkey, ⟨hnone, -⟩ | ⟨row, hrow, hrows⟩⟩
  · rw [hrows]
    exact ⟨_, List.mem_append_right _ List.mem_cons_self, rfl, rfl⟩
  · cases hnone
  · obtain rfl := Option.some.inj hrow
    rw [hrows]
    exact ⟨_, mem_updateWhere_of_hit hold hkey, hkey, rfl⟩

/-- A call that does not swap does nothing. -/
theorem updateCompanySettings_idle (hunused : db.Unused revision) (hswaps : ¬ input.Swaps db) :
    runBatch (input.batch revision) db =
      .ok (db, [{}, {}, {}, { rows := [[.integer 1]] }, {}, {}]) := by
  have hwritten : ¬ input.Written revision db := by
    rintro ⟨s, hs, -, h⟩
    exact hunused.1 s hs h
  have hmarked : ¬ Marked db.toDb revision := by
    rintro ⟨e, he, h⟩
    exact hunused.2 e he h
  have hswap : ((CompanyDb.companySettingsIn.upsertRow
      (fun db _ => if input.Swaps db then some (input.row revision) else none)
      (fun old excluded => some (UpdateCompanySettingsInput.overwrite old excluded))
      fun _ => []).checked input.Storable) db 0 = .ok (db, {}) := by
    simp only [Statement.checked, TableIn.upsertRow, if_neg hswaps]
    exact if_pos fun h => absurd h (Nat.lt_irrefl 0)
  have hread : (db.companySettings.rows.filter fun s =>
      s.organizationId = input.organizationId ∧ s.revision = revision) = [] :=
    List.filter_eq_nil_iff.mpr fun s hs => by simpa using fun _ => hunused.1 s hs
  refine runFrom_cons_ok hswap ?_
  refine runFrom_cons_ok (TableIn.update_idle _ fun _ _ h => hwritten h.2) ?_
  refine runFrom_cons_ok (TableIn.insertSelect_idle _ (if_neg hwritten)) ?_
  refine runFrom_cons_ok (if_pos fun h => hwritten h.1) ?_
  refine runFrom_cons_ok (TableIn.update_idle _ fun _ _ h => hmarked h.2) ?_
  simp only [runFrom, select, hread, List.map_nil]

/-- What a batch that swapped has done. -/
theorem updateCompanySettings_swap {db' : CompanyDb} {rs : List StatementResult}
    (hswaps : input.Swaps db) (hrun : runBatch (input.batch revision) db = .ok (db', rs)) :
    CompanySettingsWritten input revision db db' ∧
      UpdateCompanySettingsInput.interpret revision rs = .ok true := by
  obtain ⟨db₁, r₁, _, hst₁, hrest₁, rfl⟩ := runFrom_cons hrun
  obtain ⟨db₂, r₂, _, hst₂, hrest₂, rfl⟩ := runFrom_cons hrest₁
  obtain ⟨db₃, r₃, _, hst₃, hrest₃, rfl⟩ := runFrom_cons hrest₂
  obtain ⟨db₄, r₄, _, hst₄, hrest₄, rfl⟩ := runFrom_cons hrest₃
  obtain ⟨db₅, r₅, _, hst₅, hrest₅, rfl⟩ := runFrom_cons hrest₄
  obtain ⟨db₆, r₆, _, hst₆, hrest₆, rfl⟩ := runFrom_cons hrest₅
  obtain ⟨rfl, rfl⟩ := runFrom_nil hrest₆
  -- the swap leaves the revision every later statement asks for
  obtain ⟨S, hS, rfl, -⟩ := TableIn.upsertRow_some (if_pos hswaps) (Statement.checked_ok hst₁).1
  obtain ⟨s, hs, hsid, hsrevision⟩ := input.written_of_upsert hS
  have hwritten : ∃ s ∈ S.rows, s.organizationId = input.organizationId ∧
      s.revision = revision := ⟨s, hs, hsid, hsrevision⟩
  obtain ⟨O, hO, rfl, -⟩ := TableIn.update_ok hst₂
  obtain ⟨E, hE, rfl, -⟩ := TableIn.insertSelect_ok hst₃
  obtain ⟨-, rfl, -⟩ := assertThat_ok hst₄
  obtain ⟨U, hU, rfl, -⟩ := TableIn.update_ok hst₅
  simp only [select, Except.ok.injEq, Prod.mk.injEq] at hst₆
  obtain ⟨rfl, rfl⟩ := hst₆
  have hevents : E.rows = db.auditEvents.rows ++ [input.auditEvent revision] := by
    rw [hE]
    exact congrArg _ (if_pos hwritten)
  have hmarked : ∃ e ∈ E.rows, e.id = revision := by
    rw [hevents]
    exact ⟨_, List.mem_append_right _ List.mem_cons_self, rfl⟩
  obtain ⟨o, ho, hoid⟩ := hswaps.1
  constructor
  · refine ⟨hswaps, hS, ⟨o, ho, hoid, Nat.lt_succ_of_le (Nat.le_max_left _ _), ?_⟩, hevents,
      ⟨?_, input.lt_poll _⟩, rfl⟩
    · refine hO.trans (updateWhere_only (fun p _ => ?_) fun p hp h => ?_).symm
      · exact (and_iff_left hwritten).symm
      · exact db.organizations.eq_of_key hp ho (h.trans hoid.symm)
    · exact hU.trans (updateWhere_congr fun u _ => and_iff_left hmarked)
  · have hread : (S.rows.filter fun s => s.organizationId = input.organizationId ∧
        s.revision = revision).map (fun s => [Value.text s.revision]) = [[.text revision]] := by
      rw [S.filter_eq_singleton input.organizationId (fun s h => h.1) hs ⟨hsid, hsrevision⟩,
        List.map_singleton, hsrevision]
    unfold UpdateCompanySettingsInput.interpret
    rw [if_neg (by simp)]
    exact congrArg Except.ok (decide_eq_true (congrArg List.head? hread))

/-- Without a write there is no success. -/
theorem UpdateCompanySettingsInput.answer_ne_success {later : CompanyDb}
    {settings : CompanySettings} : input.answer revision later false ≠ .success settings := by
  unfold UpdateCompanySettingsInput.answer
  rw [if_neg Bool.false_ne_true]
  cases input.readCompanySettings later with
  | none => exact UpdateCompanySettingsResult.noConfusion
  | some current =>
    dsimp only
    cases current.canEdit with
    | false => exact UpdateCompanySettingsResult.noConfusion
    | true => exact UpdateCompanySettingsResult.noConfusion

/-- **A call writes all of it, or changes no table.** -/
theorem updateCompanySettings_outcome (input : UpdateCompanySettingsInput) (later : CompanyDb)
    (hunused : db.Unused revision) :
    ((updateCompanySettings input revision later db).2 = .ok (.success
        { input.settings with revision := some revision, canEdit := true }) ∧
      CompanySettingsWritten input revision db
        (updateCompanySettings input revision later db).1) ∨
    ((∀ settings, (updateCompanySettings input revision later db).2 ≠ .ok (.success settings)) ∧
      (updateCompanySettings input revision later db).1 = db) := by
  unfold updateCompanySettings
  dsimp only
  by_cases hswaps : input.Swaps db
  · rcases commit_cases (input.batch revision) (UpdateCompanySettingsInput.interpret revision) db
      with ⟨hsame, e, he⟩ | ⟨db', rs, hrun, hdb, hresult⟩
    · refine Or.inr ⟨fun settings h => ?_, hsame⟩
      rw [he] at h
      cases h
    · obtain ⟨hw, hread⟩ := updateCompanySettings_swap hswaps hrun
      refine Or.inl ⟨?_, ?_⟩
      · rw [hresult, hread]
        rfl
      · rw [hdb]
        exact hw
  · rw [commit_of_run (updateCompanySettings_idle hunused hswaps)]
    exact Or.inr ⟨fun settings h => input.answer_ne_success (Except.ok.inj h), rfl⟩

end Outcome

/-! ## Runs -/

/-- A step: an update, or a write of the other tables. No code deletes an organization. -/
inductive CompanyStep where
  | update (input : UpdateCompanySettingsInput) (revision : String) (later : CompanyDb)
  | surroundings (write : Db → Db)

/-- The database, and the updates that succeeded, the last one first. -/
structure CompanyState where
  db : CompanyDb := {}
  successes : List UpdateCompanySettingsInput := []

/-- The call returned `'success'`. -/
def companySettingsSucceeded : Except Failure UpdateCompanySettingsResult → Bool
  | .ok (.success _) => true
  | _ => false

namespace CompanyStep

def exec : CompanyStep → CompanyState → CompanyState
  | update input revision later, s =>
    let out := updateCompanySettings input revision later s.db
    { db := out.1
      successes := if companySettingsSucceeded out.2 then input :: s.successes else s.successes }
  | surroundings write, s => { s with db := { s.db with toDb := write s.db.toDb } }

/-- Every update draws its revision. -/
def draws : CompanyStep → List String
  | update _ revision _ => [revision]
  | surroundings _ => []

/-- What is drawn is not in use. -/
def Draws (s : CompanyState) : CompanyStep → Prop
  | update _ revision _ => s.db.Unused revision
  | surroundings _ => True

instance (s : CompanyState) : ∀ l, Decidable (Draws s l)
  | update _ revision _ => inferInstanceAs (Decidable (s.db.Unused revision))
  | surroundings _ => inferInstanceAs (Decidable True)

end CompanyStep

def companySettingsSystem : System CompanyState CompanyStep String :=
  (System.ofFunction CompanyStep.exec CompanyStep.draws).restrict CompanyStep.Draws

/-- What an update is compared by: the organization, and the revision it presents. -/
def UpdateCompanySettingsInput.presents (input : UpdateCompanySettingsInput) :
    String × Option String :=
  (input.organizationId, input.settings.revision)

/-- What every run keeps. -/
structure CompanySettingsSafe (c : Config CompanyState String) : Prop where
  /-- Every revision stored or presented with success was drawn. -/
  stored : ∀ s ∈ c.state.db.companySettings.rows, s.revision ∈ c.issued
  presented : ∀ input ∈ c.state.successes, ∀ r ∈ input.settings.revision, r ∈ c.issued
  nodup : (c.state.successes.map UpdateCompanySettingsInput.presents).Nodup
  /-- A revision that was presented with success is stored no more. -/
  replaced : ∀ input ∈ c.state.successes,
    c.state.db.settingsRevision input.organizationId ≠ input.settings.revision

section Safety

variable {c c' : Config CompanyState String} {l : CompanyStep}

/-- A stored revision is that of a row. -/
theorem CompanyDb.mem_of_settingsRevision {db : CompanyDb} {organizationId r : String}
    (h : db.settingsRevision organizationId = some r) :
    ∃ s ∈ db.companySettings.rows, s.revision = r := by
  obtain ⟨s, hs, hr⟩ := Option.map_eq_some_iff.mp h
  exact ⟨s, List.mem_of_find?_eq_some hs, hr⟩

/-- After a swap the organization is at the new revision, and the others are where they were. -/
theorem CompanySettingsWritten.settingsRevision {input : UpdateCompanySettingsInput}
    {revision : String} {db db' : CompanyDb} (h : CompanySettingsWritten input revision db db')
    (organizationId : String) :
    db'.settingsRevision organizationId =
      if input.organizationId = organizationId then some revision
      else db.settingsRevision organizationId := by
  unfold CompanyDb.settingsRevision TableIn.row
  change (rowOf db'.companySettings.rows organizationId).map _ = _
  rw [h.settings, rowOf_upsert (fun _ _ h => h) db.companySettings.keyed fun _ => rfl]
  by_cases hid : input.organizationId = organizationId
  · rw [if_pos hid]
    refine (congrArg _ (if_pos hid)).trans ?_
    cases rowOf db.companySettings.rows organizationId with
    | none => rfl
    | some old => rfl
  · rw [if_neg hid]
    exact congrArg _ (if_neg hid)

/-- A step that leaves the settings and the successes. -/
theorem CompanySettingsSafe.kept (h : CompanySettingsSafe c)
    (hissued : ∀ x ∈ c.issued, x ∈ c'.issued)
    (hsettings : c'.state.db.companySettings = c.state.db.companySettings)
    (hsuccesses : c'.state.successes = c.state.successes) : CompanySettingsSafe c' := by
  constructor
  case stored =>
    rw [hsettings]
    exact fun s hs => hissued _ (h.stored s hs)
  case presented =>
    rw [hsuccesses]
    exact fun i hi r hr => hissued _ (h.presented i hi r hr)
  case nodup =>
    rw [hsuccesses]
    exact h.nodup
  case replaced =>
    rw [hsuccesses]
    unfold CompanyDb.settingsRevision TableIn.row
    change ∀ input ∈ _, (rowOf c'.state.db.companySettings.rows _).map _ ≠ _
    rw [hsettings]
    exact h.replaced

/-- A step that swaps the settings of an organization. -/
theorem CompanySettingsSafe.swapped (h : CompanySettingsSafe c)
    {input : UpdateCompanySettingsInput} {revision : String} (hfresh : revision ∉ c.issued)
    (hissued : c'.issued = revision :: c.issued)
    (hw : CompanySettingsWritten input revision c.state.db c'.state.db)
    (hsuccesses : c'.state.successes = input :: c.state.successes) : CompanySettingsSafe c' := by
  -- the revision presented was drawn, so it is not the one this call draws
  have hpresented : ∀ r ∈ input.settings.revision, r ∈ c.issued := fun r hr => by
    obtain ⟨s, hs, rfl⟩ := CompanyDb.mem_of_settingsRevision (hw.swaps.2.2.trans hr)
    exact h.stored s hs
  have hnew : ∀ p : Option String, (∀ r ∈ p, r ∈ c.issued) → some revision ≠ p :=
    fun p hp hsame => hfresh (hp revision hsame.symm)
  constructor
  case stored =>
    intro s hs
    rw [hissued]
    rw [hw.settings] at hs
    rcases upsert_cases (fun old excluded => some
      (UpdateCompanySettingsInput.overwrite old excluded)) c.state.db.companySettings.rows
      (input.row revision) with ⟨-, hrows⟩ | ⟨old, -, -, ⟨hnone, -⟩ | ⟨row, hrow, hrows⟩⟩
    · rw [hrows] at hs
      rcases List.mem_append.mp hs with hs | hs
      · exact List.mem_cons_of_mem _ (h.stored s hs)
      · obtain rfl := List.mem_singleton.mp hs
        exact List.mem_cons_self
    · cases hnone
    · obtain rfl := Option.some.inj hrow
      rw [hrows] at hs
      rcases mem_updateWhere_cases hs with ⟨hs, -⟩ | ⟨_, -, -, rfl⟩
      · exact List.mem_cons_of_mem _ (h.stored s hs)
      · exact List.mem_cons_self
  case presented =>
    intro i hi r hr
    rw [hissued]
    rw [hsuccesses] at hi
    rcases List.mem_cons.mp hi with rfl | hi
    · exact List.mem_cons_of_mem _ (hpresented r hr)
    · exact List.mem_cons_of_mem _ (h.presented i hi r hr)
  case nodup =>
    rw [hsuccesses, List.map_cons, List.nodup_cons]
    refine ⟨fun hmem => ?_, h.nodup⟩
    obtain ⟨other, hother, hsame⟩ := List.mem_map.mp hmem
    obtain ⟨hid, hrevision⟩ := Prod.mk.inj hsame
    refine h.replaced other hother ?_
    rw [hid, hrevision]
    exact hw.swaps.2.2
  case replaced =>
    intro i hi
    rw [hsuccesses] at hi
    rw [hw.settingsRevision]
    rcases List.mem_cons.mp hi with rfl | hi
    · rw [if_pos rfl]
      exact hnew _ hpresented
    · split
      · exact hnew _ (h.presented i hi)
      · exact h.replaced i hi

/-- **One step.** -/
theorem companySettingsSafe_next (hnext : companySettingsSystem.Next c l c')
    (h : CompanySettingsSafe c) : CompanySettingsSafe c' := by
  have hstate : c'.state = l.exec c.state := hnext.step.1
  cases l with
  | surroundings write =>
    refine h.kept hnext.issued_subset ?_ ?_
    · rw [hstate]
      rfl
    · rw [hstate]
      rfl
  | update input revision later =>
    have hunused : c.state.db.Unused revision := hnext.step.2
    have hfresh : revision ∉ c.issued := hnext.fresh _ List.mem_cons_self
    dsimp only [CompanyStep.exec] at hstate
    rcases updateCompanySettings_outcome input later hunused with ⟨hok, hw⟩ | ⟨hfailed, hsame⟩
    · rw [hok] at hstate
      refine h.swapped hfresh hnext.issued ?_ (congrArg CompanyState.successes hstate)
      rw [hstate]
      exact hw
    · refine h.kept hnext.issued_subset ?_ ?_
      · rw [hstate, hsame]
      · rw [hstate]
        refine if_neg fun hok => ?_
        unfold companySettingsSucceeded at hok
        split at hok
        · rename_i settings hsucceeded
          exact hfailed settings hsucceeded
        · cases hok

end Safety

/-- **Compare-and-swap in every run.** From a database whose revisions were all drawn, whatever is
written to the other tables on the way: of the updates of one organization that present the same
revision at most one succeeds, and the next call writes everything, or changes no table. -/
theorem companySettings_swapped {c c' : Config CompanyState String} {steps : List CompanyStep}
    (hdrawn : ∀ s ∈ c.state.db.companySettings.rows, s.revision ∈ c.issued)
    (hnone : c.state.successes = []) (hrun : Run companySettingsSystem c steps c') :
    (c'.state.successes.map UpdateCompanySettingsInput.presents).Nodup ∧
    ∀ (input : UpdateCompanySettingsInput) (revision : String) (later : CompanyDb),
      c'.state.db.Unused revision →
      ((updateCompanySettings input revision later c'.state.db).2 = .ok (.success
          { input.settings with revision := some revision, canEdit := true }) ∧
        CompanySettingsWritten input revision c'.state.db
          (updateCompanySettings input revision later c'.state.db).1) ∨
      ((∀ settings, (updateCompanySettings input revision later c'.state.db).2 ≠
          .ok (.success settings)) ∧
        (updateCompanySettings input revision later c'.state.db).1 = c'.state.db) := by
  have hsafe : CompanySettingsSafe c' := by
    refine hrun.invariant ⟨hdrawn, ?_, ?_, ?_⟩ companySettingsSafe_next
    · rw [hnone]
      exact fun _ h => absurd h List.not_mem_nil
    · rw [hnone]
      exact List.nodup_nil
    · rw [hnone]
      exact fun _ h => absurd h List.not_mem_nil
  exact ⟨hsafe.nodup, fun input _ later hunused => updateCompanySettings_outcome input later hunused⟩

def companyOwner : CompanyScope where
  organizationId := "o"
  actor := { userId := "u", deviceIdentifier := "d", sessionId := "s" }

/-- An update that presents `revision`. -/
def companyUpdate (name : String) (revision : Option String) : UpdateCompanySettingsInput where
  toCompanyScope := companyOwner
  settings :=
    { name := name
      defaultEmailDomain := some "a.b"
      expectedMemberCount := some 3
      mailTestRecipient := none
      revision := revision }
  now := 5
  requestId := "q"

/-- Two first writes, and two that follow the one that succeeds; the Owner is revoked at the end. -/
def companySteps : List CompanyStep :=
  [.update (companyUpdate "A" none) "r1" {}, .update (companyUpdate "B" none) "r2" {},
    .update (companyUpdate "C" (some "r1")) "r3" {}, .update (companyUpdate "D" (some "r1")) "r4" {},
    .surroundings fun db => { db with organizationUsers := ∅ },
    .update (companyUpdate "E" (some "r3")) "r5" {}]

def companyStart : Config CompanyState String where
  state :=
    { db :=
        { users := .singleton { id := "u" }
          devices := .singleton
            { id := "i", userId := "u", identifier := "d", sessionId := some "s" }
          organizations := .singleton { id := "o" }
          organizationUsers := .singleton
            { id := "m", organizationId := "o", userId := some "u", email := "e", status := 2
              type := 0 } } }

def companyEnd : Config CompanyState String :=
  (replay CompanyStep.exec CompanyStep.draws companyStart companySteps).get (by decide +kernel)

theorem companySettings_swapped_twice :
    companyEnd.state.successes =
        [companyUpdate "C" (some "r1"), companyUpdate "A" none] ∧
      (companyEnd.state.successes.map UpdateCompanySettingsInput.presents).Nodup := by
  have hrun : Run companySettingsSystem companyStart companySteps companyEnd :=
    replay_restrict (Option.some_get _).symm (by decide +kernel)
  exact ⟨by decide +kernel,
    (companySettings_swapped (fun _ h => absurd h List.not_mem_nil) rfl hrun).1⟩

end HonoWarden
