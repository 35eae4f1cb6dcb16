import HonoWarden.Organization.Frame

/-!
# Reading ciphers

Model of the reads of `src/repositories/cipher-repository.ts` that span personal and organization
ciphers: `listAccessibleCiphersByUser`, `findAccessibleCipherById` and `resolveCipherAccess`.

The first two share one SELECT, whose predicate and whose flags ask whether *some* collection the
actor reaches holds the cipher (and is not read-only, does not hide passwords);
`resolveCipherAccess` counts the collections that do and takes the *least* flag of them.

Results:
* `resolveCipherAccess_canRead`, `resolveCipherAccess_canEdit`,
  `resolveCipherAccess_canViewPassword`: counts and minima say what the SELECT says;
* `accessibleCipherFromRow_total`: where keys and collections have names, every row is read;
* **`cipherReads_agree`**: a cipher is listed, found and resolved alike.
-/

namespace HonoWarden

open Relational

/-! ## Records -/

/-- `CipherRecord`. -/
structure CipherRecord where
  id : String
  userId : String
  folderId : Option String
  type : Int
  favorite : Bool
  encryptedJson : String
  revisionDate : Timestamp
  createdAt : Timestamp
  deletedAt : Option Timestamp
  deriving DecidableEq, Repr

/-- `cipherFromRow`. -/
def cipherFromRow (c : Cipher) : CipherRecord where
  id := c.id
  userId := c.userId
  folderId := c.folderId
  type := c.type
  favorite := c.favorite
  encryptedJson := c.encryptedJson
  revisionDate := c.revisionDate
  createdAt := c.createdAt
  deletedAt := c.deletedAt

/-- `AccessibleCipherRecord`, and the row it is read from. -/
structure AccessibleCipherRecord extends CipherRecord where
  organizationId : Option String
  cipherKey : Option String
  collectionIds : List String
  canEdit : Bool
  canViewPassword : Bool
  deriving DecidableEq, Repr

/-- `CipherAccess`. -/
structure CipherAccess where
  found : Bool
  canRead : Bool
  canEdit : Bool
  canDelete : Bool
  canViewPassword : Bool
  organizationId : Option String
  deriving DecidableEq, Repr

/-- Ids as `ORDER BY id` and `sort` leave them. -/
def sortIds (ids : List String) : List String := ids.mergeSort fun a b => a ≤ b

/-- `ORDER BY revision_date ASC, id ASC`. -/
def sortCiphers (ciphers : List Cipher) : List Cipher :=
  ciphers.mergeSort fun a b =>
    a.revisionDate < b.revisionDate ∨ a.revisionDate = b.revisionDate ∧ a.id ≤ b.id

/-! ## The SELECT of accessible ciphers -/

section Select

variable (db : Db) (context : OrganizationAccessContext) (c : Cipher)

/-- `accessibleCipherPredicate`. -/
def AccessibleCipher : Prop :=
  c.organizationId = none ∧ c.userId = context.userId ∨
    c.organizationId ≠ none ∧ ∃ m ∈ db.collectionCiphers.rows,
      (∃ a ∈ accessibleOrganizationCollections db context, a.collectionId = m.collectionId ∧
        some a.organizationId = c.organizationId) ∧ m.cipherId = c.id

instance : Decidable (AccessibleCipher db context c) := inferInstanceAs (Decidable (_ ∨ _))

/-- `canEdit` of `accessibleCipherSelect`. -/
def selectedCanEdit : Bool :=
  c.organizationId = none ∨ ∃ m ∈ db.collectionCiphers.rows,
    (∃ a ∈ accessibleOrganizationCollections db context, a.collectionId = m.collectionId ∧
      some a.organizationId = c.organizationId ∧ a.readOnly = false) ∧ m.cipherId = c.id

/-- `canViewPassword` of `accessibleCipherSelect`. -/
def selectedCanViewPassword : Bool :=
  c.organizationId = none ∨ ∃ m ∈ db.collectionCiphers.rows,
    (∃ a ∈ accessibleOrganizationCollections db context, a.collectionId = m.collectionId ∧
      some a.organizationId = c.organizationId ∧ a.hidePasswords = false) ∧ m.cipherId = c.id

/-- `collectionIdsJson` of `accessibleCipherSelect`. -/
def selectedCollectionIds : List String :=
  if c.organizationId = none then []
  else
    sortIds ((db.collectionCiphers.rows.filter fun m =>
      (∃ a ∈ accessibleOrganizationCollections db context, a.collectionId = m.collectionId ∧
        some a.organizationId = c.organizationId) ∧ m.cipherId = c.id).map
          CollectionCipher.collectionId).dedup

/-- `accessibleCipherSelect`. -/
def accessibleCipherSelect : AccessibleCipherRecord where
  toCipherRecord := cipherFromRow c
  organizationId := c.organizationId
  cipherKey := c.cipherKey
  collectionIds := selectedCollectionIds db context c
  canEdit := selectedCanEdit db context c
  canViewPassword := selectedCanViewPassword db context c

end Select

/-- `accessibleCipherFromRow`. -/
def accessibleCipherFromRow (row : AccessibleCipherRecord) :
    Except String AccessibleCipherRecord :=
  if row.organizationId = none then
    .ok { row with
      organizationId := none, cipherKey := none, collectionIds := [], canEdit := true,
      canViewPassword := true }
  else if row.cipherKey = some "" then
    .error "Accessible organization cipher has an invalid opaque key."
  else if ∃ id ∈ row.collectionIds, id = "" then
    .error "Accessible organization cipher has invalid collections."
  else if sortIds row.collectionIds.dedup = [] then
    .error "Accessible organization cipher has no readable collection."
  else .ok { row with collectionIds := sortIds row.collectionIds.dedup }

/-- `listAccessibleCiphersByUser`. -/
def listAccessibleCiphersByUser (db : Db) (context : OrganizationAccessContext) :
    Except String (List AccessibleCipherRecord) :=
  (sortCiphers (db.ciphers.rows.filter fun c => AccessibleCipher db context c)).mapM fun c =>
    accessibleCipherFromRow (accessibleCipherSelect db context c)

/-- `findAccessibleCipherById`. -/
def findAccessibleCipherById (db : Db) (context : OrganizationAccessContext) (id : String) :
    Except String (Option AccessibleCipherRecord) :=
  match db.ciphers.rows.find? fun c => c.id = id ∧ AccessibleCipher db context c with
  | none => .ok none
  | some c => (accessibleCipherFromRow (accessibleCipherSelect db context c)).map some

/-! ## Resolving access -/

/-- `deniedCipherAccess`. -/
def deniedCipherAccess (found : Bool) (organizationId : Option String) : CipherAccess where
  found := found
  canRead := false
  canEdit := false
  canDelete := false
  canViewPassword := false
  organizationId := organizationId

/-- The joined rows `resolveCipherAccess` aggregates. -/
def managedCollections (db : Db) (context : OrganizationAccessContext)
    (organizationId cipherId : String) : List OrganizationCollectionGrant :=
  (accessibleOrganizationCollections db context).flatMap fun a =>
    (db.collectionCiphers.rows.filter fun m =>
      m.collectionId = a.collectionId ∧ a.organizationId = organizationId ∧
        m.cipherId = cipherId).map fun _ => a

/-- `resolveCipherAccess`. -/
def resolveCipherAccess (db : Db) (context : OrganizationAccessContext) (cipherId : String) :
    CipherAccess :=
  match db.ciphers.rows.find? fun c => c.id = cipherId with
  | none => deniedCipherAccess false none
  | some c =>
    match c.organizationId with
    | none =>
      let isOwner := decide (c.userId = context.userId)
      { found := true
        canRead := isOwner
        canEdit := isOwner
        canDelete := isOwner
        canViewPassword := isOwner
        organizationId := none }
    | some organizationId =>
      let collections := managedCollections db context organizationId cipherId
      let hasManageAccess := decide (collections.length ≠ 0)
      let canWrite := hasManageAccess && minFlag OrganizationCollectionGrant.readOnly collections
        == some false
      { found := true
        canRead := hasManageAccess
        canEdit := canWrite
        canDelete := canWrite
        canViewPassword := hasManageAccess &&
          minFlag OrganizationCollectionGrant.hidePasswords collections == some false
        organizationId := some organizationId }

/-! ## One rule of access -/

/-- **The rule of access.** A collection of the cipher's organization that the actor reaches with
a grant of `p` holds the cipher. -/
def Cipher.HeldBy (db : Db) (context : OrganizationAccessContext) (c : Cipher)
    (p : OrganizationCollectionGrant → Prop) : Prop :=
  ∃ a ∈ accessibleOrganizationCollections db context, some a.organizationId = c.organizationId ∧
    p a ∧ ∃ m ∈ db.collectionCiphers.rows, m.collectionId = a.collectionId ∧ m.cipherId = c.id

section Rule

variable {db : Db} {context : OrganizationAccessContext} {c : Cipher} {organizationId : String}

/-- The EXISTS of the SELECT, whatever it asks of the grant. -/
theorem exists_mapping_iff {p : OrganizationCollectionGrant → Prop} :
    (∃ m ∈ db.collectionCiphers.rows,
        (∃ a ∈ accessibleOrganizationCollections db context, a.collectionId = m.collectionId ∧
          some a.organizationId = c.organizationId ∧ p a) ∧ m.cipherId = c.id) ↔
      c.HeldBy db context p := by
  constructor
  · rintro ⟨m, hm, ⟨a, ha, hid, horg, hp⟩, hcipher⟩
    exact ⟨a, ha, horg, hp, m, hm, hid.symm, hcipher⟩
  · rintro ⟨a, ha, horg, hp, m, hm, hid, hcipher⟩
    exact ⟨m, hm, ⟨a, ha, hid.symm, horg, hp⟩, hcipher⟩

theorem accessibleCipher_personal (hpersonal : c.organizationId = none) :
    AccessibleCipher db context c ↔ c.userId = context.userId := by
  simp [AccessibleCipher, hpersonal]

theorem accessibleCipher_organization (horg : c.organizationId ≠ none) :
    AccessibleCipher db context c ↔ c.HeldBy db context fun _ => True := by
  rw [← exists_mapping_iff]
  simp [AccessibleCipher, horg]

theorem selectedCanEdit_organization (horg : c.organizationId ≠ none) :
    selectedCanEdit db context c = true ↔
      c.HeldBy db context fun a => a.readOnly = false := by
  rw [← exists_mapping_iff]
  simp [selectedCanEdit, horg]

theorem selectedCanViewPassword_organization (horg : c.organizationId ≠ none) :
    selectedCanViewPassword db context c = true ↔
      c.HeldBy db context fun a => a.hidePasswords = false := by
  rw [← exists_mapping_iff]
  simp [selectedCanViewPassword, horg]

theorem mem_selectedCollectionIds (horg : c.organizationId ≠ none) {id : String} :
    id ∈ selectedCollectionIds db context c ↔
      ∃ m ∈ db.collectionCiphers.rows, ((∃ a ∈ accessibleOrganizationCollections db context,
        a.collectionId = m.collectionId ∧ some a.organizationId = c.organizationId) ∧
          m.cipherId = c.id) ∧ m.collectionId = id := by
  simp [selectedCollectionIds, horg, sortIds, and_assoc]

theorem mem_managedCollections (horg : c.organizationId = some organizationId)
    {a : OrganizationCollectionGrant} :
    a ∈ managedCollections db context organizationId c.id ↔
      a ∈ accessibleOrganizationCollections db context ∧
        some a.organizationId = c.organizationId ∧
          ∃ m ∈ db.collectionCiphers.rows, m.collectionId = a.collectionId ∧
            m.cipherId = c.id := by
  simp only [managedCollections, List.mem_flatMap, List.mem_map, List.mem_filter,
    decide_eq_true_eq, horg, Option.some_inj]
  constructor
  · rintro ⟨b, hb, m, ⟨hm, hid, hbelongs, hcipher⟩, rfl⟩
    exact ⟨hb, hbelongs, m, hm, hid, hcipher⟩
  · rintro ⟨ha, hbelongs, m, hm, hid, hcipher⟩
    exact ⟨a, ha, m, ⟨hm, hid, hbelongs, hcipher⟩, rfl⟩

/-- The least flag is 0 exactly where some collection that holds the cipher grants it. -/
theorem minFlag_managedCollections (horg : c.organizationId = some organizationId)
    {flag : OrganizationCollectionGrant → Bool} :
    minFlag flag (managedCollections db context organizationId c.id) = some false ↔
      c.HeldBy db context fun a => flag a = false := by
  rw [minFlag_eq_false]
  constructor
  · rintro ⟨a, ha, hflag⟩
    obtain ⟨haccess, hbelongs, hmapped⟩ := (mem_managedCollections horg).mp ha
    exact ⟨a, haccess, hbelongs, hflag, hmapped⟩
  · rintro ⟨a, haccess, hbelongs, hflag, hmapped⟩
    exact ⟨a, (mem_managedCollections horg).mpr ⟨haccess, hbelongs, hmapped⟩, hflag⟩

theorem managedCollections_nonempty (horg : c.organizationId = some organizationId) :
    (managedCollections db context organizationId c.id).length ≠ 0 ↔
      c.HeldBy db context fun _ => True := by
  rw [← Nat.pos_iff_ne_zero, List.length_pos_iff_exists_mem]
  constructor
  · rintro ⟨a, ha⟩
    obtain ⟨haccess, hbelongs, hmapped⟩ := (mem_managedCollections horg).mp ha
    exact ⟨a, haccess, hbelongs, trivial, hmapped⟩
  · rintro ⟨a, haccess, hbelongs, -, hmapped⟩
    exact ⟨a, (mem_managedCollections horg).mpr ⟨haccess, hbelongs, hmapped⟩⟩

theorem Cipher.HeldBy.any {p : OrganizationCollectionGrant → Prop} (h : c.HeldBy db context p) :
    c.HeldBy db context fun _ => True := by
  obtain ⟨a, ha, horg, -, hmapped⟩ := h
  exact ⟨a, ha, horg, trivial, hmapped⟩

end Rule

/-! ### What `resolveCipherAccess` says -/

section Resolve

variable {db : Db} {context : OrganizationAccessContext} {c : Cipher}

theorem find?_cipher (hc : c ∈ db.ciphers.rows) :
    (db.ciphers.rows.find? fun c' => c'.id = c.id) = some c :=
  db.ciphers.find?_eq_some c.id (fun _ h => h) hc rfl

/-- A personal cipher is the owner's in every respect. -/
theorem resolveCipherAccess_personal (hc : c ∈ db.ciphers.rows)
    (hpersonal : c.organizationId = none) :
    resolveCipherAccess db context c.id =
      { found := true
        canRead := decide (c.userId = context.userId)
        canEdit := decide (c.userId = context.userId)
        canDelete := decide (c.userId = context.userId)
        canViewPassword := decide (c.userId = context.userId)
        organizationId := none } := by
  simp only [resolveCipherAccess, find?_cipher hc, hpersonal]

theorem resolveCipherAccess_missing {id : String} (hnone : ∀ c ∈ db.ciphers.rows, c.id ≠ id) :
    resolveCipherAccess db context id = deniedCipherAccess false none := by
  simp only [resolveCipherAccess, db.ciphers.find?_eq_none.mpr hnone]

theorem resolveCipherAccess_organizationId (hc : c ∈ db.ciphers.rows) :
    (resolveCipherAccess db context c.id).organizationId = c.organizationId := by
  cases horg : c.organizationId <;> simp only [resolveCipherAccess, find?_cipher hc, horg]

theorem resolveCipherAccess_canRead (hc : c ∈ db.ciphers.rows) (horg : c.organizationId ≠ none) :
    (resolveCipherAccess db context c.id).canRead = true ↔
      c.HeldBy db context fun _ => True := by
  obtain ⟨organizationId, horg⟩ := Option.ne_none_iff_exists'.mp horg
  simp only [resolveCipherAccess, find?_cipher hc, horg, decide_eq_true_eq]
  exact managedCollections_nonempty horg

theorem resolveCipherAccess_canEdit (hc : c ∈ db.ciphers.rows) (horg : c.organizationId ≠ none) :
    (resolveCipherAccess db context c.id).canEdit = true ↔
      c.HeldBy db context fun a => a.readOnly = false := by
  obtain ⟨organizationId, horg⟩ := Option.ne_none_iff_exists'.mp horg
  simp only [resolveCipherAccess, find?_cipher hc, horg, Bool.and_eq_true, decide_eq_true_eq,
    beq_iff_eq, minFlag_managedCollections horg, managedCollections_nonempty horg]
  exact ⟨And.right, fun h => ⟨h.any, h⟩⟩

theorem resolveCipherAccess_canViewPassword (hc : c ∈ db.ciphers.rows)
    (horg : c.organizationId ≠ none) :
    (resolveCipherAccess db context c.id).canViewPassword = true ↔
      c.HeldBy db context fun a => a.hidePasswords = false := by
  obtain ⟨organizationId, horg⟩ := Option.ne_none_iff_exists'.mp horg
  simp only [resolveCipherAccess, find?_cipher hc, horg, Bool.and_eq_true, decide_eq_true_eq,
    beq_iff_eq, minFlag_managedCollections horg, managedCollections_nonempty horg]
  exact ⟨And.right, fun h => ⟨h.any, h⟩⟩

/-- The predicate of the SELECT is `canRead`. -/
theorem accessibleCipher_iff_canRead (hc : c ∈ db.ciphers.rows) :
    AccessibleCipher db context c ↔ (resolveCipherAccess db context c.id).canRead = true := by
  by_cases horg : c.organizationId = none
  · rw [accessibleCipher_personal horg, resolveCipherAccess_personal hc horg, decide_eq_true_eq]
  · rw [accessibleCipher_organization horg, resolveCipherAccess_canRead hc horg]

/-- Of a cipher the actor may read, the flags of the SELECT are those resolved. -/
theorem selected_eq_resolved (hc : c ∈ db.ciphers.rows) (haccess : AccessibleCipher db context c) :
    selectedCanEdit db context c = (resolveCipherAccess db context c.id).canEdit ∧
      selectedCanViewPassword db context c =
        (resolveCipherAccess db context c.id).canViewPassword := by
  by_cases horg : c.organizationId = none
  · rw [accessibleCipher_personal horg] at haccess
    rw [resolveCipherAccess_personal hc horg]
    simp [selectedCanEdit, selectedCanViewPassword, horg, haccess]
  · constructor
    · rw [Bool.eq_iff_iff, selectedCanEdit_organization horg, resolveCipherAccess_canEdit hc horg]
    · rw [Bool.eq_iff_iff, selectedCanViewPassword_organization horg,
        resolveCipherAccess_canViewPassword hc horg]

end Resolve

/-! ## Records read -/

/-- Every organization cipher that has a key has one of at least one byte, and every mapping names
its collection: what the writers of both see to. -/
def CiphersReadable (db : Db) : Prop :=
  (∀ c ∈ db.ciphers.rows, c.organizationId ≠ none → c.cipherKey ≠ some "") ∧
    ∀ m ∈ db.collectionCiphers.rows, m.collectionId ≠ ""

section Records

variable {db : Db} {context : OrganizationAccessContext} {c : Cipher}
  {record : AccessibleCipherRecord}

/-- A row that is read keeps the cipher and the flags selected for it. -/
theorem accessibleCipherFromRow_ok
    (h : accessibleCipherFromRow (accessibleCipherSelect db context c) = .ok record) :
    record.toCipherRecord = cipherFromRow c ∧ record.canEdit = selectedCanEdit db context c ∧
      record.canViewPassword = selectedCanViewPassword db context c := by
  unfold accessibleCipherFromRow at h
  split at h
  · rename_i hpersonal
    have hnone : c.organizationId = none := hpersonal
    obtain rfl := Except.ok.inj h
    exact ⟨rfl, by simp [selectedCanEdit, hnone], by simp [selectedCanViewPassword, hnone]⟩
  · split at h
    · cases h
    · split at h
      · cases h
      · split at h
        · cases h
        · obtain rfl := Except.ok.inj h
          exact ⟨rfl, rfl, rfl⟩

/-- Where keys and collections have names, a row the predicate selects is read. -/
theorem accessibleCipherFromRow_total (hreadable : CiphersReadable db) (hc : c ∈ db.ciphers.rows)
    (haccess : AccessibleCipher db context c) :
    ∃ r, accessibleCipherFromRow (accessibleCipherSelect db context c) = .ok r := by
  unfold accessibleCipherFromRow
  split
  · exact ⟨_, rfl⟩
  · rename_i horg
    have hne : c.organizationId ≠ none := horg
    have hkey : (accessibleCipherSelect db context c).cipherKey ≠ some "" :=
      hreadable.1 c hc hne
    have hnamed : ¬ ∃ id ∈ (accessibleCipherSelect db context c).collectionIds, id = "" := by
      rintro ⟨id, hid, rfl⟩
      obtain ⟨m, hm, -, hempty⟩ := (mem_selectedCollectionIds hne).mp hid
      exact hreadable.2 m hm hempty
    have hsome : sortIds (accessibleCipherSelect db context c).collectionIds.dedup ≠ [] := by
      obtain ⟨a, ha, hbelongs, -, m, hm, hcollection, hcipher⟩ :=
        (accessibleCipher_organization hne).mp haccess
      have hmem : m.collectionId ∈ selectedCollectionIds db context c :=
        (mem_selectedCollectionIds hne).mpr
          ⟨m, hm, ⟨⟨a, ha, hcollection.symm, hbelongs⟩, hcipher⟩, rfl⟩
      have hsorted : m.collectionId ∈
          sortIds (accessibleCipherSelect db context c).collectionIds.dedup := by
        simpa [sortIds, accessibleCipherSelect] using hmem
      exact List.ne_nil_of_mem hsorted
    rw [if_neg hkey, if_neg hnamed, if_neg hsome]
    exact ⟨_, rfl⟩

theorem mem_sortCiphers {ciphers : List Cipher} : c ∈ sortCiphers ciphers ↔ c ∈ ciphers := by
  simp [sortCiphers]

/-- What a listing that is read holds. -/
theorem listAccessibleCiphersByUser_mem {records : List AccessibleCipherRecord}
    (h : listAccessibleCiphersByUser db context = .ok records) :
    record ∈ records ↔ ∃ c ∈ db.ciphers.rows, AccessibleCipher db context c ∧
      accessibleCipherFromRow (accessibleCipherSelect db context c) = .ok record := by
  rw [mem_of_mapM h record]
  simp only [mem_sortCiphers, List.mem_filter, decide_eq_true_eq, and_assoc]

/-- Every cipher the actor may read is in a listing that is read. -/
theorem listAccessibleCiphersByUser_read {records : List AccessibleCipherRecord}
    (h : listAccessibleCiphersByUser db context = .ok records) (hc : c ∈ db.ciphers.rows)
    (haccess : AccessibleCipher db context c) : ∃ r ∈ records, r.id = c.id := by
  have hmem : c ∈ sortCiphers (db.ciphers.rows.filter fun c => AccessibleCipher db context c) :=
    mem_sortCiphers.mpr (List.mem_filter.mpr ⟨hc, by simpa using haccess⟩)
  obtain ⟨r, hr⟩ := ok_of_mapM h c hmem
  refine ⟨r, (listAccessibleCiphersByUser_mem h).mpr ⟨c, hc, haccess, hr⟩, ?_⟩
  rw [(accessibleCipherFromRow_ok hr).1]
  rfl

/-- A cipher the actor may read is found as it is read. -/
theorem findAccessibleCipherById_eq (hc : c ∈ db.ciphers.rows)
    (haccess : AccessibleCipher db context c) :
    findAccessibleCipherById db context c.id =
      (accessibleCipherFromRow (accessibleCipherSelect db context c)).map some := by
  have hfind : (db.ciphers.rows.find? fun c' => c'.id = c.id ∧ AccessibleCipher db context c') =
      some c := db.ciphers.find?_eq_some c.id (fun _ h => h.1) hc ⟨rfl, haccess⟩
  simp only [findAccessibleCipherById, hfind]

theorem findAccessibleCipherById_none {id : String}
    (hnone : ∀ c ∈ db.ciphers.rows, ¬ (c.id = id ∧ AccessibleCipher db context c)) :
    findAccessibleCipherById db context id = .ok none := by
  simp only [findAccessibleCipherById, db.ciphers.find?_eq_none.mpr hnone]

/-- What is found is a cipher the actor may read, as it is read. -/
theorem findAccessibleCipherById_some {id : String}
    (h : findAccessibleCipherById db context id = .ok (some record)) :
    ∃ c ∈ db.ciphers.rows, c.id = id ∧ AccessibleCipher db context c ∧
      accessibleCipherFromRow (accessibleCipherSelect db context c) = .ok record := by
  by_cases hsome : ∃ c ∈ db.ciphers.rows, c.id = id ∧ AccessibleCipher db context c
  · obtain ⟨c, hc, rfl, haccess⟩ := hsome
    rw [findAccessibleCipherById_eq hc haccess] at h
    refine ⟨c, hc, rfl, haccess, ?_⟩
    cases hread : accessibleCipherFromRow (accessibleCipherSelect db context c) with
    | error e => simp [hread, Except.map] at h
    | ok r => simpa [hread, Except.map] using h
  · push Not at hsome
    rw [findAccessibleCipherById_none fun c hc hand => hsome c hc hand.1 hand.2] at h
    cases h

end Records

/-- A cipher is listed, found and resolved alike. -/
structure CipherReadsAgree (db : Db) (context : OrganizationAccessContext) (id : String) :
    Prop where
  /-- A listing shows the cipher exactly where it may be read. -/
  listed : ∀ records, listAccessibleCiphersByUser db context = .ok records →
    ((∃ r ∈ records, r.id = id) ↔ (resolveCipherAccess db context id).canRead = true)
  /-- A look-up finds the cipher exactly where it may be read. -/
  found : ∀ record, findAccessibleCipherById db context id = .ok record →
    (record ≠ none ↔ (resolveCipherAccess db context id).canRead = true)
  /-- The record listed is the record found. -/
  same : ∀ records, listAccessibleCiphersByUser db context = .ok records →
    ∀ r ∈ records, r.id = id → findAccessibleCipherById db context id = .ok (some r)
  /-- Its flags are those resolved. -/
  flags : ∀ r, findAccessibleCipherById db context id = .ok (some r) →
    r.canEdit = (resolveCipherAccess db context id).canEdit ∧
      r.canViewPassword = (resolveCipherAccess db context id).canViewPassword
  /-- Both reads succeed where keys and collections have names. -/
  total : CiphersReadable db → (∃ records, listAccessibleCiphersByUser db context = .ok records) ∧
    ∃ record, findAccessibleCipherById db context id = .ok record

/-- **Listing, finding and resolving a cipher agree**, in every state and for every actor. -/
theorem cipherReads_agree (db : Db) (context : OrganizationAccessContext) (id : String) :
    CipherReadsAgree db context id := by
  have hread : (resolveCipherAccess db context id).canRead = true →
      ∃ c ∈ db.ciphers.rows, c.id = id ∧ AccessibleCipher db context c := by
    intro hcan
    by_cases hsome : ∃ c ∈ db.ciphers.rows, c.id = id
    · obtain ⟨c, hc, rfl⟩ := hsome
      exact ⟨c, hc, rfl, (accessibleCipher_iff_canRead hc).mpr hcan⟩
    · push Not at hsome
      rw [resolveCipherAccess_missing hsome] at hcan
      cases hcan
  have hcan : ∀ c ∈ db.ciphers.rows, c.id = id → AccessibleCipher db context c →
      (resolveCipherAccess db context id).canRead = true := by
    rintro c hc rfl haccess
    exact (accessibleCipher_iff_canRead hc).mp haccess
  constructor
  case listed =>
    intro records hlist
    constructor
    · rintro ⟨r, hr, hid⟩
      obtain ⟨c, hc, haccess, hrow⟩ := (listAccessibleCiphersByUser_mem hlist).mp hr
      have hcid : r.id = c.id := by rw [(accessibleCipherFromRow_ok hrow).1]; rfl
      exact hcan c hc (hcid.symm.trans hid) haccess
    · intro h
      obtain ⟨c, hc, rfl, haccess⟩ := hread h
      exact listAccessibleCiphersByUser_read hlist hc haccess
  case found =>
    intro record hfind
    constructor
    · intro hne
      obtain ⟨r, rfl⟩ := Option.ne_none_iff_exists'.mp hne
      obtain ⟨c, hc, hid, haccess, -⟩ := findAccessibleCipherById_some hfind
      exact hcan c hc hid haccess
    · rintro h rfl
      obtain ⟨c, hc, rfl, haccess⟩ := hread h
      rw [findAccessibleCipherById_eq hc haccess] at hfind
      cases hrow : accessibleCipherFromRow (accessibleCipherSelect db context c) <;>
        simp [hrow, Except.map] at hfind
  case same =>
    intro records hlist r hr hid
    obtain ⟨c, hc, haccess, hrow⟩ := (listAccessibleCiphersByUser_mem hlist).mp hr
    have hcid : r.id = c.id := by rw [(accessibleCipherFromRow_ok hrow).1]; rfl
    rw [← hid, hcid, findAccessibleCipherById_eq hc haccess, hrow]
    rfl
  case flags =>
    intro r hfind
    obtain ⟨c, hc, rfl, haccess, hrow⟩ := findAccessibleCipherById_some hfind
    obtain ⟨-, hedit, hpassword⟩ := accessibleCipherFromRow_ok hrow
    rw [hedit, hpassword]
    exact selected_eq_resolved hc haccess
  case total =>
    intro hreadable
    constructor
    · refine mapM_total fun c hc => ?_
      simp only [mem_sortCiphers, List.mem_filter, decide_eq_true_eq] at hc
      exact accessibleCipherFromRow_total hreadable hc.1 hc.2
    · by_cases hsome : ∃ c ∈ db.ciphers.rows, c.id = id ∧ AccessibleCipher db context c
      · obtain ⟨c, hc, rfl, haccess⟩ := hsome
        obtain ⟨r, hr⟩ := accessibleCipherFromRow_total hreadable hc haccess
        exact ⟨some r, by rw [findAccessibleCipherById_eq hc haccess, hr]; rfl⟩
      · push Not at hsome
        exact ⟨none, findAccessibleCipherById_none fun c hc hand => hsome c hc hand.1 hand.2⟩

end HonoWarden
