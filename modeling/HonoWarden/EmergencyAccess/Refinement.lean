import HonoWarden.EmergencyAccess.Repository
import HonoWarden.Protocol.Trust

/-!
# Emergency access refines trust by invitation

A row of `emergency_access` is a contact of `Trust` spelled out in columns
(`EmergencyAccessContact.contact?`), and the calls of the repository are its steps: a call that
reports success has taken the step of its event, one that does not has changed nothing. The rest of
the database writes users and audit events as it likes; removing a user takes the contacts that name
it along, as the foreign keys say.

A state keeps the events of the calls that reported success, in order. What `Trust.Steps` keeps
therefore holds of the rows.

Results:
* `EmergencyAccessOp.step`: one call, in a state whose rows are sound;
* **`emergencyAccess_refines`**: in every run the events are a history of the contacts in the table,
  and no row is ever in a state of recovery;
* **`emergencyAccess_safe`**: who may hold a key, and what they did before.
-/

namespace HonoWarden

open Relational

/-- A contact of emergency access: accounts, addresses, verifiers and keys are texts. -/
abbrev TrustContact := Trust.Contact String String String Timestamp String

abbrev TrustEvent := Trust.Event String String String String Timestamp String

namespace EmergencyAccessContact

/-- The contact a row spells out. -/
def contact? (c : EmergencyAccessContact) : Option TrustContact :=
  match c.status with
  | .invited => c.emailNormalized.bind fun email => c.inviteTokenHash.bind fun hash =>
      c.inviteExpiresAt.map fun expires => ⟨c.grantorUserId, .invited email hash expires⟩
  | .accepted => c.granteeUserId.map fun grantee => ⟨c.grantorUserId, .accepted grantee⟩
  | .confirmed => c.granteeUserId.bind fun grantee =>
      c.keyEncrypted.map fun key => ⟨c.grantorUserId, .confirmed grantee key⟩
  | .recoveryInitiated | .recoveryApproved => none

/-- A row of the table, as the repository leaves it: nothing starts a recovery. -/
structure Sound (c : EmergencyAccessContact) : Prop where
  checked : c.Checked
  status : c.status = .invited ∨ c.status = .accepted ∨ c.status = .confirmed

variable {c : EmergencyAccessContact} {t : TrustContact}

theorem contact?_grantor (h : c.contact? = some t) : t.grantor = c.grantorUserId := by
  unfold contact? at h
  split at h <;> simp only [Option.bind_eq_some_iff, Option.map_eq_some_iff, reduceCtorEq] at h
  · obtain ⟨email, -, hash, -, expires, -, rfl⟩ := h
    rfl
  · obtain ⟨grantee, -, rfl⟩ := h
    rfl
  · obtain ⟨grantee, -, key, -, rfl⟩ := h
    rfl

/-- The address and the grantee of the contact are those of the row. -/
theorem Sound.sides (hc : c.Sound) (h : c.contact? = some t) :
    t.stage.email = c.emailNormalized ∧ t.stage.grantee = c.granteeUserId := by
  have hshaped := hc.checked.shaped
  unfold contact? at h
  unfold Shaped at hshaped
  rcases hc.status with hstatus | hstatus | hstatus <;>
    simp only [hstatus, Option.bind_eq_some_iff, Option.map_eq_some_iff] at h hshaped
  · obtain ⟨email, hemail, hash, -, expires, -, rfl⟩ := h
    exact ⟨hemail.symm, hshaped.2.1.symm⟩
  · obtain ⟨grantee, hgrantee, rfl⟩ := h
    exact ⟨hshaped.1.symm, hgrantee.symm⟩
  · obtain ⟨grantee, hgrantee, key, -, rfl⟩ := h
    exact ⟨hshaped.1.symm, hgrantee.symm⟩

/-- A sound row spells out a contact. -/
theorem Sound.exists_contact (hc : c.Sound) : ∃ t, c.contact? = some t := by
  have hshaped := hc.checked.shaped
  unfold contact?
  unfold Shaped at hshaped
  rcases hc.status with hstatus | hstatus | hstatus <;> simp only [hstatus] at hshaped ⊢
  · obtain ⟨email, hemail⟩ := Option.ne_none_iff_exists'.mp hshaped.1
    obtain ⟨hash, hhash⟩ := Option.ne_none_iff_exists'.mp hshaped.2.2.1
    obtain ⟨expires, hexpires⟩ := Option.ne_none_iff_exists'.mp hshaped.2.2.2.1
    exact ⟨_, by rw [hemail, hhash, hexpires]; rfl⟩
  · obtain ⟨grantee, hgrantee⟩ := Option.ne_none_iff_exists'.mp hshaped.2.1
    exact ⟨_, by rw [hgrantee]; rfl⟩
  · obtain ⟨grantee, hgrantee⟩ := Option.ne_none_iff_exists'.mp hshaped.2.1
    obtain ⟨key, hkey⟩ := Option.ne_none_iff_exists'.mp hshaped.2.2.2.2.1
    exact ⟨_, by rw [hgrantee, hkey]; rfl⟩

/-- A row is an invitation where its contact is. -/
theorem contact?_invited {email hash : String} {expires : Timestamp}
    (hstatus : c.status = .invited) (hemail : c.emailNormalized = some email)
    (hhash : c.inviteTokenHash = some hash) (hexpires : c.inviteExpiresAt = some expires) :
    c.contact? = some ⟨c.grantorUserId, .invited email hash expires⟩ := by
  simp only [contact?, hstatus, hemail, hhash, hexpires, Option.bind_some, Option.map_some]

theorem contact?_accepted {grantee : String} (hstatus : c.status = .accepted)
    (hgrantee : c.granteeUserId = some grantee) :
    c.contact? = some ⟨c.grantorUserId, .accepted grantee⟩ := by
  simp only [contact?, hstatus, hgrantee, Option.map_some]

theorem contact?_confirmed {grantee key : String} (hstatus : c.status = .confirmed)
    (hgrantee : c.granteeUserId = some grantee) (hkey : c.keyEncrypted = some key) :
    c.contact? = some ⟨c.grantorUserId, .confirmed grantee key⟩ := by
  simp only [contact?, hstatus, hgrantee, hkey, Option.bind_some, Option.map_some]

/-- An invited row has the parts of an invitation. -/
theorem Sound.invited (hc : c.Sound) (hstatus : c.status = .invited) :
    ∃ email hash expires, c.emailNormalized = some email ∧ c.inviteTokenHash = some hash ∧
      c.inviteExpiresAt = some expires := by
  have hshaped := hc.checked.shaped
  simp only [Shaped, hstatus] at hshaped
  obtain ⟨email, hemail⟩ := Option.ne_none_iff_exists'.mp hshaped.1
  obtain ⟨hash, hhash⟩ := Option.ne_none_iff_exists'.mp hshaped.2.2.1
  obtain ⟨expires, hexpires⟩ := Option.ne_none_iff_exists'.mp hshaped.2.2.2.1
  exact ⟨email, hash, expires, hemail, hhash, hexpires⟩

end EmergencyAccessContact

namespace EmergencyAccessDb

/-- The contacts of the table. -/
def trusts (db : EmergencyAccessDb) : Trust.Contacts String String String String Timestamp String :=
  fun id => (contactsIn.row db id).bind EmergencyAccessContact.contact?

/-- Every row is sound. -/
def Sound (db : EmergencyAccessDb) : Prop := ∀ c ∈ db.contacts.rows, c.Sound

variable {db db' : EmergencyAccessDb}

theorem trusts_eq_some_iff {id : String} {t : TrustContact} :
    db.trusts id = some t ↔ ∃ c ∈ db.contacts.rows, c.id = id ∧ c.contact? = some t := by
  unfold trusts
  rw [Option.bind_eq_some_iff]
  constructor
  · rintro ⟨c, hc, ht⟩
    obtain ⟨hmem, hid⟩ := TableIn.row_eq_some_iff.mp hc
    exact ⟨c, hmem, hid, ht⟩
  · rintro ⟨c, hmem, hid, ht⟩
    exact ⟨c, TableIn.row_eq_some_iff.mpr ⟨hmem, hid⟩, ht⟩

end EmergencyAccessDb

/-- What a mutation does to the contacts. -/
theorem ContactWritten.trusts {id : String} {v : Option EmergencyAccessContact}
    {event : Option AuditEventRow} {db db' : EmergencyAccessDb}
    (h : ContactWritten id v event db db') : db'.trusts =
      Function.update db.trusts id (v.bind EmergencyAccessContact.contact?) := by
  funext i
  unfold EmergencyAccessDb.trusts
  rw [h.row]
  by_cases hi : i = id
  · subst hi
    rw [Function.update_self, Function.update_self]
  · rw [Function.update_of_ne hi, Function.update_of_ne hi]

/-- A sound row in place of another. -/
theorem ContactWritten.sound {id : String} {v : Option EmergencyAccessContact}
    {event : Option AuditEventRow} {db db' : EmergencyAccessDb}
    (h : ContactWritten id v event db db') (hdb : db.Sound) (hv : ∀ c ∈ v, c.Sound) :
    db'.Sound := by
  intro c hc
  have hrow := TableIn.row_eq_some_iff (t := EmergencyAccessDb.contactsIn).mpr ⟨hc, rfl⟩
  rw [h.row] at hrow
  by_cases hid : Keyed.key c = id
  · rw [hid, Function.update_self] at hrow
    exact hv c hrow
  · rw [Function.update_of_ne hid] at hrow
    exact hdb c (TableIn.row_eq_some_iff.mp hrow).1

/-! ## One call -/

/-- A call of the repository; where an account goes, its contacts go along. -/
inductive EmergencyAccessOp where
  | insertInvited (input : InsertInvitedEmergencyAccessInput) (event : Option AuditEventRow)
  | acceptInvited (input : AcceptInvitedEmergencyAccessInput) (event : Option AuditEventRow)
  | confirmAccepted (input : ConfirmAcceptedEmergencyAccessInput) (event : Option AuditEventRow)
  | reinvite (input : ReinviteEmergencyAccessInput) (event : Option AuditEventRow)
  | update (input : UpdateEmergencyAccessInput) (event : Option AuditEventRow)
  | delete (input : DeleteEmergencyAccessInput) (event : Option AuditEventRow)
  | deleteUser (userId : String)
  deriving DecidableEq

/-- `ON DELETE CASCADE` of both references. -/
def cascadeUserDelete (gone : List User) (db : EmergencyAccessDb) : EmergencyAccessDb × Nat :=
  EmergencyAccessDb.contactsIn.nestedDelete (fun c => ∃ u ∈ gone, c.Names u.id) db

namespace EmergencyAccessOp

/-- The database after the call, and whether it reported success. -/
def call : EmergencyAccessOp → EmergencyAccessDb → EmergencyAccessDb × Bool
  | insertInvited input event, db =>
    let call := insertInvitedEmergencyAccess input event db
    (call.1, (call.2.toOption.bind id).isSome)
  | acceptInvited input event, db =>
    let call := acceptInvitedEmergencyAccess input event db
    (call.1, (call.2.toOption.bind id).isSome)
  | confirmAccepted input event, db =>
    let call := confirmAcceptedEmergencyAccess input event db
    (call.1, (call.2.toOption.bind id).isSome)
  | reinvite input event, db =>
    let call := reinviteEmergencyAccess input event db
    (call.1, (call.2.toOption.bind id).isSome)
  | update input event, db =>
    let call := updateEmergencyAccess input event db
    (call.1, (call.2.toOption.bind id).isSome)
  | delete input event, db =>
    let call := deleteEmergencyAccess input event db
    (call.1, call.2.toOption = some true)
  | deleteUser userId, db =>
    let call := EmergencyAccessDb.usersIn.callDelete (fun _ u => u.id = userId) cascadeUserDelete db
    (call.1, (call.2.toOption.getD []).length ≠ 0)

/-- The event of a call that succeeds. -/
def event : EmergencyAccessOp → TrustEvent
  | insertInvited input _ => .invited input.id input.grantorUserId input.emailNormalized
      input.inviteTokenHash input.inviteExpiresAt
  | acceptInvited input _ => .accepted input.id input.granteeUserId input.emailNormalized
      input.inviteTokenHash input.now
  | confirmAccepted input _ => .confirmed input.id input.grantorUserId input.keyEncrypted
  | reinvite input _ => .reinvited input.id input.grantorUserId input.inviteTokenHash
      input.inviteExpiresAt
  | update input _ => .updated input.id input.grantorUserId input.keyEncrypted
  | delete input _ => .withdrawn input.id input.actorUserId
  | deleteUser userId => .departed userId

/-- The audit event a call asks for. -/
def auditEvent : EmergencyAccessOp → Option AuditEventRow
  | insertInvited _ event | acceptInvited _ event | confirmAccepted _ event | reinvite _ event
  | update _ event | delete _ event => event
  | deleteUser _ => none

/-- An invitation draws its id. -/
def draws : EmergencyAccessOp → List String
  | insertInvited input _ => [input.id]
  | _ => []

end EmergencyAccessOp

/-- A call took the step of its event, and left its audit event. -/
structure TrustTaken (op : EmergencyAccessOp) (db db' : EmergencyAccessDb) : Prop where
  step : Trust.Step db.trusts op.event db'.trusts
  sound : db'.Sound
  audit : db'.auditEvents.rows = db.auditEvents.rows ++ op.auditEvent.toList

section Calls

open EmergencyAccessContact

variable {db : EmergencyAccessDb} {event : Option AuditEventRow}

theorem isSome_of_ok {α : Type} {x : Except Failure (Option α)} {a : α} (h : x = .ok (some a)) :
    (x.toOption.bind id).isSome = true := by
  rw [h]
  rfl

theorem not_isSome_of_ne {α : Type} {x : Except Failure (Option α)}
    (h : ∀ a, x ≠ .ok (some a)) : (x.toOption.bind id).isSome = false := by
  cases x with
  | error e => rfl
  | ok o =>
    cases o with
    | none => rfl
    | some a => exact absurd rfl (h a)

/-- A write of one contact takes the step of its call. -/
theorem ContactWritten.taken {op : EmergencyAccessOp} {db' : EmergencyAccessDb} {id : String}
    {v : Option EmergencyAccessContact} (h : ContactWritten id v op.auditEvent db db')
    (hdb : db.Sound) (hv : ∀ c ∈ v, c.Sound) (hstep : Trust.Step db.trusts op.event
      (Function.update db.trusts id (v.bind contact?))) : TrustTaken op db db' :=
  ⟨h.trusts ▸ hstep, h.sound hdb hv, h.audit⟩

theorem insertInvited_taken (hdb : db.Sound) (input : InsertInvitedEmergencyAccessInput) :
    (((insertInvitedEmergencyAccess input event db).2.toOption.bind id).isSome = true ∧
      TrustTaken (.insertInvited input event) db
        (insertInvitedEmergencyAccess input event db).1) ∨
    (((insertInvitedEmergencyAccess input event db).2.toOption.bind id).isSome = false ∧
      (insertInvitedEmergencyAccess input event db).1 = db) := by
  rcases insertInvitedEmergencyAccess_outcome input event db with
    ⟨hfree, hchecked, habsent, hok, hwritten⟩ | ⟨hne, hsame⟩
  · refine Or.inl ⟨isSome_of_ok hok, hwritten.taken hdb (fun c hc => ?_) ?_⟩
    · obtain rfl := Option.some.inj hc
      exact ⟨hchecked, Or.inl rfl⟩
    · have hnone : db.trusts input.id = none := by
        unfold EmergencyAccessDb.trusts
        rw [habsent, Option.bind_none]
      refine Trust.Step.invite hnone fun i t ht hgrantor hemail => ?_
      obtain ⟨c, hc, -, hcontact⟩ := EmergencyAccessDb.trusts_eq_some_iff.mp ht
      refine hfree ⟨c, hc, (contact?_grantor hcontact).symm.trans hgrantor, Or.inl ?_⟩
      rw [← ((hdb c hc).sides hcontact).1, hemail]
  · exact Or.inr ⟨not_isSome_of_ne hne, hsame⟩

/-- An UPDATE takes the step of its call where it hits, from what it makes of a sound row. -/
theorem writeContact_taken (op : EmergencyAccessOp) {hit : EmergencyAccessContact → Prop}
    [DecidablePred hit] {set : EmergencyAccessContact → EmergencyAccessContact} {id : String}
    (hdb : db.Sound) (hkey : ∀ c, hit c → c.id = id) (hset : ∀ c, (set c).id = c.id)
    (hstatus : ∀ c, c.Sound → hit c → (set c).Checked → (set c).Sound)
    (hstep : ∀ c db', c.Sound → hit c → db.trusts id = c.contact? →
      ContactWritten id (some (set c)) op.auditEvent db db' →
      Trust.Step db.trusts op.event (Function.update db.trusts id (set c).contact?)) :
    (((writeContact hit set op.auditEvent db).2.toOption.bind fun row => row).isSome = true ∧
      TrustTaken op db (writeContact hit set op.auditEvent db).1) ∨
    (((writeContact hit set op.auditEvent db).2.toOption.bind fun row => row).isSome = false ∧
      (writeContact hit set op.auditEvent db).1 = db) := by
  rcases writeContact_outcome op.auditEvent db hkey hset with
    ⟨c, hrow, hhit, hok, hwritten, hchecked⟩ | ⟨hne, hsame⟩
  · have hc : c.Sound := hdb c (TableIn.row_eq_some_iff.mp hrow).1
    have htrust : db.trusts id = c.contact? := by
      unfold EmergencyAccessDb.trusts
      rw [hrow, Option.bind_some]
    refine Or.inl ⟨isSome_of_ok hok, hwritten.taken hdb (fun c' hc' => ?_)
      (hstep c _ hc hhit htrust hwritten)⟩
    obtain rfl := Option.some.inj hc'
    rcases hchecked with hmem | hchecked
    · exact hdb _ hmem
    · exact hstatus c hc hhit hchecked
  · exact Or.inr ⟨not_isSome_of_ne hne, hsame⟩

/-- The UNIQUE index of grantees: no other contact of the grantor has this one's grantee. -/
theorem ContactWritten.unknown {db' : EmergencyAccessDb} {id : String}
    {c : EmergencyAccessContact} (h : ContactWritten id (some c) event db db') (hdb : db.Sound)
    (hid : c.id = id) {grantee : String} (hgrantee : c.granteeUserId = some grantee) {i : String}
    {t : TrustContact} (hi : i ≠ id) (ht : db.trusts i = some t)
    (hgrantor : t.grantor = c.grantorUserId) : t.stage.grantee ≠ some grantee := by
  intro hsame
  unfold EmergencyAccessDb.trusts at ht
  obtain ⟨other, hother, hcontact⟩ := Option.bind_eq_some_iff.mp ht
  have hsound : other.Sound := hdb other (TableIn.row_eq_some_iff.mp hother).1
  have hmem : EmergencyAccessDb.contactsIn.row db' id = some c := by
    rw [h.row, Function.update_self]
  have hmem' : EmergencyAccessDb.contactsIn.row db' i = some other := by
    rw [h.row, Function.update_of_ne hi, hother]
  have htwice : other.Twice c := by
    refine ⟨(contact?_grantor hcontact).symm.trans hgrantor, Or.inr ?_⟩
    rw [← (hsound.sides hcontact).2, hsame, hgrantee]
    exact ⟨Option.some_ne_none _, rfl⟩
  have heq := db'.contacts.eq_of_alternate (TableIn.row_eq_some_iff.mp hmem').1
    (TableIn.row_eq_some_iff.mp hmem).1 htwice
  refine hi ((TableIn.row_eq_some_iff.mp hmem').2.symm.trans ?_)
  rw [heq]
  exact hid

theorem acceptInvited_taken (hdb : db.Sound) (input : AcceptInvitedEmergencyAccessInput) :
    (((acceptInvitedEmergencyAccess input event db).2.toOption.bind id).isSome = true ∧
      TrustTaken (.acceptInvited input event) db
        (acceptInvitedEmergencyAccess input event db).1) ∨
    (((acceptInvitedEmergencyAccess input event db).2.toOption.bind id).isSome = false ∧
      (acceptInvitedEmergencyAccess input event db).1 = db) := by
  refine writeContact_taken (.acceptInvited input event) hdb (fun c hc => hc.1)
    (fun _ => rfl) (fun c _ _ hchecked => ⟨hchecked, Or.inr (Or.inl rfl)⟩) ?_
  rintro c db' hc ⟨hid, hstatus, hemail, hhash, ⟨expires, hexpires, htimely⟩, hanother⟩ htrust
    hwritten
  rw [contact?_invited hstatus hemail hhash hexpires] at htrust
  rw [contact?_accepted (c := input.accept c) rfl rfl]
  exact Trust.Step.accept htrust htimely hanother fun i t hi ht hgrantor =>
    hwritten.unknown hdb hid rfl hi ht hgrantor

theorem confirmAccepted_taken (hdb : db.Sound) (input : ConfirmAcceptedEmergencyAccessInput) :
    (((confirmAcceptedEmergencyAccess input event db).2.toOption.bind id).isSome = true ∧
      TrustTaken (.confirmAccepted input event) db
        (confirmAcceptedEmergencyAccess input event db).1) ∨
    (((confirmAcceptedEmergencyAccess input event db).2.toOption.bind id).isSome = false ∧
      (confirmAcceptedEmergencyAccess input event db).1 = db) := by
  refine writeContact_taken (.confirmAccepted input event) hdb (fun c hc => hc.1)
    (fun _ => rfl) (fun c _ _ hchecked => ⟨hchecked, Or.inr (Or.inr rfl)⟩) ?_
  rintro c db' hc ⟨hid, hgrantor, hstatus, hsome, -⟩ htrust -
  obtain ⟨grantee, hgrantee⟩ := Option.ne_none_iff_exists'.mp hsome
  rw [contact?_accepted hstatus hgrantee, hgrantor] at htrust
  rw [contact?_confirmed (c := input.confirm c) rfl hgrantee rfl]
  exact hgrantor ▸ Trust.Step.confirm htrust

theorem reinvite_taken (hdb : db.Sound) (input : ReinviteEmergencyAccessInput) :
    (((reinviteEmergencyAccess input event db).2.toOption.bind id).isSome = true ∧
      TrustTaken (.reinvite input event) db (reinviteEmergencyAccess input event db).1) ∨
    (((reinviteEmergencyAccess input event db).2.toOption.bind id).isSome = false ∧
      (reinviteEmergencyAccess input event db).1 = db) := by
  refine writeContact_taken (.reinvite input event) hdb (fun c hc => hc.1)
    (fun _ => rfl) (fun c _ hhit hchecked => ⟨hchecked, Or.inl hhit.2.2⟩) ?_
  rintro c db' hc ⟨hid, hgrantor, hstatus⟩ htrust -
  obtain ⟨email, hash, expires, hemail, hhash, hexpires⟩ := hc.invited hstatus
  rw [contact?_invited hstatus hemail hhash hexpires, hgrantor] at htrust
  rw [contact?_invited (c := input.reinvite c) hstatus hemail rfl rfl]
  exact hgrantor ▸ Trust.Step.reinvite htrust

theorem update_taken (hdb : db.Sound) (input : UpdateEmergencyAccessInput) :
    (((updateEmergencyAccess input event db).2.toOption.bind id).isSome = true ∧
      TrustTaken (.update input event) db (updateEmergencyAccess input event db).1) ∨
    (((updateEmergencyAccess input event db).2.toOption.bind id).isSome = false ∧
      (updateEmergencyAccess input event db).1 = db) := by
  refine writeContact_taken (.update input event) hdb (fun c hc => hc.1)
    (fun _ => rfl) (fun c _ hhit hchecked => ⟨hchecked, hhit.2.2.1⟩) ?_
  rintro c db' hc ⟨hid, hgrantor, -⟩ htrust -
  have hrekey : ∃ stage, c.contact? = some ⟨c.grantorUserId, stage⟩ ∧
      (input.update c).contact? = some ⟨c.grantorUserId, stage.rekey input.keyEncrypted⟩ := by
    have hshaped := hc.checked.shaped
    unfold Shaped at hshaped
    rcases hc.status with hstatus | hstatus | hstatus <;> simp only [hstatus] at hshaped
    · obtain ⟨email, hash, expires, hemail, hhash, hexpires⟩ := hc.invited hstatus
      exact ⟨_, contact?_invited hstatus hemail hhash hexpires,
        contact?_invited (c := input.update c) hstatus hemail hhash hexpires⟩
    · obtain ⟨grantee, hgrantee⟩ := Option.ne_none_iff_exists'.mp hshaped.2.1
      exact ⟨_, contact?_accepted hstatus hgrantee,
        contact?_accepted (c := input.update c) hstatus hgrantee⟩
    · obtain ⟨grantee, hgrantee⟩ := Option.ne_none_iff_exists'.mp hshaped.2.1
      obtain ⟨key, hkey⟩ := Option.ne_none_iff_exists'.mp hshaped.2.2.2.2.1
      refine ⟨_, contact?_confirmed hstatus hgrantee hkey,
        contact?_confirmed (c := input.update c) hstatus hgrantee ?_⟩
      simp only [UpdateEmergencyAccessInput.update, hstatus, hkey]
      cases input.keyEncrypted <;> simp
  obtain ⟨stage, hstands, hafter⟩ := hrekey
  rw [hstands, hgrantor] at htrust
  rw [hafter, hgrantor]
  exact Trust.Step.update htrust

theorem delete_taken (hdb : db.Sound) (input : DeleteEmergencyAccessInput) :
    (decide ((deleteEmergencyAccess input event db).2.toOption = some true) = true ∧
      TrustTaken (.delete input event) db (deleteEmergencyAccess input event db).1) ∨
    (decide ((deleteEmergencyAccess input event db).2.toOption = some true) = false ∧
      (deleteEmergencyAccess input event db).1 = db) := by
  rcases deleteEmergencyAccess_outcome input event db with
    ⟨c, hrow, ⟨-, hactor⟩, hok, hwritten⟩ | ⟨hne, hsame⟩
  · refine Or.inl ⟨by rw [hok]; rfl, hwritten.taken hdb (by rintro c ⟨⟩) ?_⟩
    have hc : c.Sound := hdb c (TableIn.row_eq_some_iff.mp hrow).1
    obtain ⟨t, hcontact⟩ := hc.exists_contact
    have htrust : db.trusts input.id = some t := by
      unfold EmergencyAccessDb.trusts
      rw [hrow, Option.bind_some, hcontact]
    refine Trust.Step.withdraw htrust ?_
    unfold DeleteEmergencyAccessInput.actorColumn at hactor
    split at hactor
    · exact Or.inl ((contact?_grantor hcontact).trans (Option.some.inj hactor))
    · exact Or.inr ((hc.sides hcontact).2.trans hactor)
  · refine Or.inr ⟨decide_eq_false fun h => hne ?_, hsame⟩
    cases hresult : (deleteEmergencyAccess input event db).2 with
    | error e => simp [hresult, Except.toOption] at h
    | ok b =>
      rw [hresult] at h
      exact congrArg Except.ok (Option.some.inj h)

/-- A user that is removed takes the contacts that name it along. -/
theorem deleteUser_taken (hdb : db.Sound) (userId : String) :
    (((EmergencyAccessOp.deleteUser userId).call db).2 = true ∧
      TrustTaken (.deleteUser userId) db ((EmergencyAccessOp.deleteUser userId).call db).1) ∨
    (((EmergencyAccessOp.deleteUser userId).call db).2 = false ∧
      ((EmergencyAccessOp.deleteUser userId).call db).1 = db) := by
  obtain ⟨U, hcall, hU⟩ := TableIn.callDelete_eq EmergencyAccessDb.usersIn
    (fun _ u => u.id = userId) db cascadeUserDelete
  simp only [EmergencyAccessOp.call, hcall, Except.toOption, Option.getD_some]
  by_cases hex : ∃ u ∈ db.users.rows, u.id = userId
  · obtain ⟨u, hu, hid⟩ := hex
    have hgone : (db.users.rows.filter fun u => u.id = userId) = [u] :=
      db.users.filter_eq_singleton userId (fun _ h => h) hu hid
    rw [hgone]
    obtain ⟨C, hcascade, hC⟩ := TableIn.nestedDelete_eq EmergencyAccessDb.contactsIn
      (fun c => ∃ u' ∈ [u], c.Names u'.id) { db with users := U }
    have hmem (c : EmergencyAccessContact) :
        c ∈ C.rows ↔ c ∈ db.contacts.rows ∧ ¬ c.Names userId := by
      rw [hC, mem_deleteWhere]
      simp [hid]
    refine Or.inl ⟨rfl, ?_⟩
    unfold cascadeUserDelete
    rw [hcascade]
    refine ⟨?_, fun c hc => hdb c ((hmem c).mp hc).1, (List.append_nil _).symm⟩
    have htrusts : EmergencyAccessDb.trusts { db with users := U, contacts := C } =
        fun id => (db.trusts id).filter fun t => ¬ t.Involves userId := by
      funext id
      refine Option.ext fun t => ?_
      rw [Option.filter_eq_some_iff, decide_eq_true_iff, EmergencyAccessDb.trusts_eq_some_iff,
        EmergencyAccessDb.trusts_eq_some_iff]
      have hnames {c : EmergencyAccessContact} (hc : c ∈ db.contacts.rows)
          (ht : c.contact? = some t) : t.Involves userId ↔ c.Names userId := by
        unfold Trust.Contact.Involves EmergencyAccessContact.Names
        rw [contact?_grantor ht, ((hdb c hc).sides ht).2]
      constructor
      · rintro ⟨c, hc, hcid, ht⟩
        obtain ⟨hold, hkept⟩ := (hmem c).mp hc
        exact ⟨⟨c, hold, hcid, ht⟩, fun h => hkept ((hnames hold ht).mp h)⟩
      · rintro ⟨⟨c, hc, hcid, ht⟩, hkept⟩
        exact ⟨c, (hmem c).mpr ⟨hc, fun h => hkept ((hnames hc ht).mpr h)⟩, hcid, ht⟩
    exact htrusts ▸ Trust.Step.depart
  · have hnone : ∀ u ∈ db.users.rows, ¬ u.id = userId := fun u hu h => hex ⟨u, hu, h⟩
    have hgone : (db.users.rows.filter fun u => u.id = userId) = [] :=
      List.filter_eq_nil_iff.mpr fun u hu => by simpa using hnone u hu
    rw [hgone]
    refine Or.inr ⟨rfl, ?_⟩
    have hsame : ({ db with users := U } : EmergencyAccessDb) = db :=
      TableIn.put_eq_self EmergencyAccessDb.usersIn (hU.trans (deleteWhere_eq_self hnone))
    unfold cascadeUserDelete
    rw [hsame, TableIn.nestedDelete_idle _ (by simp)]

/-- **A call takes the step of its event, or changes nothing.** -/
theorem EmergencyAccessOp.step (op : EmergencyAccessOp) (hdb : db.Sound) :
    ((op.call db).2 = true ∧ TrustTaken op db (op.call db).1) ∨
      ((op.call db).2 = false ∧ (op.call db).1 = db) := by
  cases op with
  | insertInvited input event => exact insertInvited_taken hdb input
  | acceptInvited input event => exact acceptInvited_taken hdb input
  | confirmAccepted input event => exact confirmAccepted_taken hdb input
  | reinvite input event => exact reinvite_taken hdb input
  | update input event => exact update_taken hdb input
  | delete input event => exact delete_taken hdb input
  | deleteUser userId => exact deleteUser_taken hdb userId

end Calls

/-! ## Runs -/

/-- The database, and the events of the calls that reported success. -/
structure EmergencyAccessState where
  db : EmergencyAccessDb := {}
  log : List TrustEvent := []

/-- A call, and its event where it reports success. -/
def EmergencyAccessOp.exec (op : EmergencyAccessOp) (s : EmergencyAccessState) :
    EmergencyAccessState where
  db := (op.call s.db).1
  log := if (op.call s.db).2 then s.log ++ [op.event] else s.log

/-- Nothing else writes the contacts. -/
def keepContacts (s s' : EmergencyAccessState) : EmergencyAccessState where
  db := { s'.db with contacts := s.db.contacts }
  log := s.log

/-- Any calls in any order, with any clocks, while the rest of the database changes. -/
def emergencyAccessSystem :
    System EmergencyAccessState (Move EmergencyAccessOp EmergencyAccessState) String :=
  .within EmergencyAccessOp.exec EmergencyAccessOp.draws keepContacts

/-- The start: no contact, and nothing happened. -/
def emergencyAccessStart : Config EmergencyAccessState String where
  state := {}

/-- The rows are a history. -/
structure EmergencyAccessHistory (c : Config EmergencyAccessState String) : Prop where
  steps : Trust.Steps c.state.log c.state.db.trusts
  sound : c.state.db.Sound
  issued : ∀ e ∈ c.state.log, ∀ id ∈ e.invites, id ∈ c.issued

/-- What a call of a run does: it reports success, takes the step of its event and leaves its audit
event, or it changes nothing. -/
def EmergencyAccessOp.Done (op : EmergencyAccessOp) (s s' : EmergencyAccessState) : Prop :=
  (s'.log = s.log ++ [op.event] ∧ Trust.Step s.db.trusts op.event s'.db.trusts ∧
    s'.db.auditEvents.rows = s.db.auditEvents.rows ++ op.auditEvent.toList) ∨ s' = s

theorem EmergencyAccessOp.exec_done (op : EmergencyAccessOp) {s : EmergencyAccessState}
    (h : s.db.Sound) : op.Done s (op.exec s) ∧ (op.exec s).db.Sound := by
  rcases op.step h with ⟨hsuccess, htaken⟩ | ⟨hfailed, hsame⟩
  · exact ⟨Or.inl ⟨if_pos hsuccess, htaken.step, htaken.audit⟩, htaken.sound⟩
  · have hexec : op.exec s = s := by
      rw [EmergencyAccessOp.exec, hfailed, hsame]
      rfl
    exact ⟨Or.inr hexec, hexec.symm ▸ h⟩

/-- Only an invitation has an id to draw. -/
theorem EmergencyAccessOp.mem_draws {op : EmergencyAccessOp} {id : String}
    (h : op.event.invites = some id) : id ∈ op.draws := by
  cases op with
  | insertInvited input event =>
    obtain rfl := Option.some.inj h
    exact List.mem_cons_self
  | acceptInvited => cases h
  | confirmAccepted => cases h
  | reinvite => cases h
  | update => cases h
  | delete => cases h
  | deleteUser => cases h

/-- **Every step of a run keeps the history.** -/
theorem emergencyAccess_next {c c' : Config EmergencyAccessState String}
    {move : Move EmergencyAccessOp EmergencyAccessState}
    (hnext : emergencyAccessSystem.Next c move c') (h : EmergencyAccessHistory c) :
    EmergencyAccessHistory c' := by
  obtain ⟨hexec, hfresh, hissued⟩ := hnext
  have hold : ∀ e ∈ c.state.log, ∀ id ∈ e.invites, id ∈ c'.issued := fun e he id hid =>
    hissued ▸ List.mem_append_right _ (h.issued e he id hid)
  cases move with
  | request op =>
    have hexec' : c'.state = op.exec c.state := hexec
    obtain ⟨⟨hlog, hstep, -⟩ | hsame, hsound⟩ := op.exec_done h.sound
    · refine ⟨?_, hexec' ▸ hsound, ?_⟩
      · rw [hexec', hlog]
        refine .snoc h.steps hstep fun id hid e he hinvites => ?_
        exact hfresh id (EmergencyAccessOp.mem_draws hid) (h.issued e he id hinvites)
      · rw [hexec', hlog]
        intro e he id hid
        rcases List.mem_append.mp he with hmem | hmem
        · exact hold e hmem id hid
        · obtain rfl := List.mem_singleton.mp hmem
          exact hissued ▸ List.mem_append_left _ (EmergencyAccessOp.mem_draws hid)
    · rw [hsame] at hexec'
      exact ⟨hexec' ▸ h.steps, hexec' ▸ h.sound, by rw [hexec']; exact hold⟩
  | surroundings write =>
    have hexec' : c'.state = keepContacts c.state (write c.state) := hexec
    exact ⟨hexec' ▸ h.steps, hexec' ▸ h.sound, by rw [hexec']; exact hold⟩

/-- The rows are a history in every reachable state. -/
theorem emergencyAccess_reachable {c : Config EmergencyAccessState String}
    {moves : List (Move EmergencyAccessOp EmergencyAccessState)}
    (h : Run emergencyAccessSystem emergencyAccessStart moves c) : EmergencyAccessHistory c := by
  refine h.invariant ⟨?_, ?_, ?_⟩ emergencyAccess_next
  · exact .nil
  · rintro row ⟨⟩
  · rintro e ⟨⟩

/-- **The calls refine trust by invitation.** In every run the calls that reported success are a
history of the contacts the table spells out, every call took the step of its event and left its
audit event or changed nothing, and no row is in a state of recovery. -/
theorem emergencyAccess_refines {c : Config EmergencyAccessState String}
    {moves : List (Move EmergencyAccessOp EmergencyAccessState)}
    (h : Run emergencyAccessSystem emergencyAccessStart moves c) :
    Trust.Steps c.state.log c.state.db.trusts ∧
      (∀ row ∈ c.state.db.contacts.rows, row.Sound ∧ ∃ t, c.state.db.trusts row.id = some t ∧
        row.contact? = some t) ∧
      ∀ op c', emergencyAccessSystem.Next c (.request op) c' → op.Done c.state c'.state := by
  have hhistory := emergencyAccess_reachable h
  refine ⟨hhistory.steps, fun row hrow => ⟨hhistory.sound row hrow, ?_⟩, fun op c' hnext => ?_⟩
  · obtain ⟨t, ht⟩ := (hhistory.sound row hrow).exists_contact
    exact ⟨t, EmergencyAccessDb.trusts_eq_some_iff.mpr ⟨row, hrow, rfl, ht⟩, ht⟩
  · have hexec : c'.state = op.exec c.state := hnext.step
    rw [hexec]
    exact (op.exec_done hhistory.sound).1

/-- A grantor and a grantee. -/
def bothSides : Table User where
  rows := [{ id := "g", emailNormalized := "g@x" }, { id := "h", emailNormalized := "h@x" }]
  keyed := by decide

def entrustInvitation : InsertInvitedEmergencyAccessInput where
  id := "c"
  grantorUserId := "g"
  emailNormalized := "h@x"
  type := .view
  waitTimeDays := 7
  inviteTokenHash := "hmac-sha256:v1:1"
  inviteExpiresAt := 100
  createdAt := 1

/-- The grantee presents the token of a verifier. -/
def entrustAcceptance (inviteTokenHash : String) (now : Timestamp) :
    AcceptInvitedEmergencyAccessInput :=
  { id := "c", granteeUserId := "h", emailNormalized := "h@x", inviteTokenHash, now }

/-- A contact is invited twice, so that only the second token is good; then it is accepted,
confirmed and given another key. -/
def entrustMoves : List (Move EmergencyAccessOp EmergencyAccessState) :=
  [.surroundings fun s => { s with db.users := bothSides },
    .request (.insertInvited entrustInvitation none),
    .request (.reinvite ⟨"c", "g", "hmac-sha256:v1:2", 200, 2⟩ none),
    .request (.acceptInvited (entrustAcceptance "hmac-sha256:v1:1" 3) none),
    .request (.acceptInvited (entrustAcceptance "hmac-sha256:v1:2" 4) none),
    .request (.confirmAccepted ⟨"c", "g", "k", 1, 5⟩ none),
    .request (.update ⟨"c", "g", .takeover, 9, some "l", 6⟩ none)]

def entrusted : Config EmergencyAccessState String :=
  (replay (Move.exec EmergencyAccessOp.exec keepContacts) (Move.draws EmergencyAccessOp.draws)
    emergencyAccessStart entrustMoves).get (by decide +kernel)

theorem emergencyAccess_refines_entrusted :
    entrusted.state.log.length = 5 ∧ Trust.Steps entrusted.state.log entrusted.state.db.trusts :=
  have hrun : Run emergencyAccessSystem emergencyAccessStart entrustMoves entrusted :=
    replay_run (Option.some_get _).symm
  ⟨by decide +kernel, (emergencyAccess_refines hrun).1⟩

/-! ## What follows for the rows -/

/-- Who has a contact, who may hold a key, and what they did before. -/
structure EmergencyAccessSafe (s : EmergencyAccessState) : Prop where
  /-- An invitation is accepted once at most. -/
  once : (s.log.filterMap Trust.Event.accepts).Nodup
  /-- Who accepts presents, in time, the verifier of the last token sent for this contact, with the
  address the grantor invited, and is somebody else. -/
  acceptance : ∀ before after id grantee email verifier now,
    s.log = before ++ .accepted id grantee email verifier now :: after →
    ∃ grantor expires e, Trust.lastMove id before = some e ∧ e.Sends id grantor verifier expires ∧
      (∃ first deadline, .invited id grantor email first deadline ∈ before) ∧ now < expires ∧
      grantor ≠ grantee
  /-- A grantor confirms who has accepted last. -/
  confirmation : ∀ before after id grantor key,
    s.log = before ++ .confirmed id grantor key :: after →
    ∃ grantee email verifier now,
      Trust.lastMove id before = some (.accepted id grantee email verifier now) ∧
        ∃ address first deadline, .invited id grantor address first deadline ∈ before
  /-- A grantor has one contact for an address it invites, and one for a grantee. -/
  apart : Trust.Distinct s.db.trusts
  /-- A stored key is the last one the grantor gave, since it confirmed a contact that the grantee
  had accepted. -/
  key : ∀ row ∈ s.db.contacts.rows, ∀ key ∈ row.keyEncrypted, ∃ grantee ∈ row.granteeUserId,
    grantee ≠ row.grantorUserId ∧ row.status = .confirmed ∧
      (∃ first, Trust.lastMove row.id s.log = some (.confirmed row.id row.grantorUserId first)) ∧
      Trust.lastKey row.id s.log = some key ∧
      ∃ email verifier now, .accepted row.id grantee email verifier now ∈ s.log

/-- **Emergency access is safe**, in every run. -/
theorem emergencyAccess_safe {c : Config EmergencyAccessState String}
    {moves : List (Move EmergencyAccessOp EmergencyAccessState)}
    (h : Run emergencyAccessSystem emergencyAccessStart moves c) :
    EmergencyAccessSafe c.state := by
  have hhistory := emergencyAccess_reachable h
  have hsteps := hhistory.steps
  refine ⟨hsteps.accepted_once, ?_, ?_, hsteps.distinct, ?_⟩
  · intro before after id grantee email verifier now hlog
    rw [hlog] at hsteps
    exact hsteps.acceptance
  · intro before after id grantor key hlog
    rw [hlog] at hsteps
    exact hsteps.confirmation
  · intro row hrow key hkey
    have hsound := hhistory.sound row hrow
    have hshaped := hsound.checked.shaped
    unfold EmergencyAccessContact.Shaped at hshaped
    rcases hsound.status with hstatus | hstatus | hstatus <;> simp only [hstatus] at hshaped
    · cases hshaped.2.2.2.2.1.symm.trans hkey
    · cases hshaped.2.2.2.2.1.symm.trans hkey
    · obtain ⟨grantee, hgrantee⟩ := Option.ne_none_iff_exists'.mp hshaped.2.1
      have hcontact := EmergencyAccessContact.contact?_confirmed hstatus hgrantee hkey
      have htrust : c.state.db.trusts row.id = some _ :=
        EmergencyAccessDb.trusts_eq_some_iff.mpr ⟨row, hrow, rfl, hcontact⟩
      refine ⟨grantee, hgrantee, fun he => hsound.checked.another (he ▸ hgrantee), hstatus, ?_⟩
      cases hsteps.origin htrust with
      | confirmed last keyed =>
        exact ⟨⟨_, last⟩, keyed, hsteps.accepted htrust grantee rfl⟩

theorem emergencyAccess_safe_entrusted :
    (∃ row ∈ entrusted.state.db.contacts.rows, row.keyEncrypted = some "l") ∧
      (entrusted.state.log.filterMap Trust.Event.accepts).Nodup :=
  have hrun : Run emergencyAccessSystem emergencyAccessStart entrustMoves entrusted :=
    replay_run (Option.some_get _).symm
  ⟨by decide +kernel, (emergencyAccess_safe hrun).once⟩

end HonoWarden
