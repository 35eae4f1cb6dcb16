import HonoWarden.Rotation.Request

/-!
# The leaves of a cipher

The ciphertexts of a payload are collected into one flat list, in a fixed order, and a rotation
compares two such lists position by position. `readCipherLeaves` reads the same texts and keeps
where each stands: its item, and the list the item belongs to.

Flat lists of the same shape can come from different structures, a URI with two leaves and no
custom field as well as a custom field with two and no URI. The metadata tell them apart, since
they have one entry for each item.

Results:
* `buildCipherEncryptedValues_leaves`: the flat list is that of the leaves;
* `readCipherLeaves_sizes`: the metadata count the items;
* **`sameLeaves_of_values`**: flat lists of the same shape under equal metadata come from leaves of
  the same structure.
-/

namespace HonoWarden

/-- A ciphertext, or `null`. -/
abbrev Leaf := Option String

structure LoginLeaves where
  /-- `username`, `password`, `totp`. -/
  own : List Leaf
  uris : List (List Leaf)
  fido2Credentials : List (List Leaf)
  deriving DecidableEq, Repr

structure CipherLeaves where
  /-- `notes`, `key`. -/
  own : List Leaf
  name : String
  login : Option LoginLeaves
  fields : List (List Leaf)
  passwordHistory : List (List Leaf)
  deriving DecidableEq, Repr

def LoginLeaves.values (l : LoginLeaves) : List Leaf :=
  l.own ++ l.uris.flatten ++ l.fido2Credentials.flatten

/-- The leaves in the order of `buildCipherEncryptedValues`. -/
def CipherLeaves.values (l : CipherLeaves) : List Leaf :=
  l.own ++ [some l.name] ++ (l.login.map LoginLeaves.values).getD [] ++ l.fields.flatten ++
    l.passwordHistory.flatten

/-- The leaves of every item of a list. -/
def leavesOfEach (fields : List String) (items : List Json) : Option (List (List Leaf)) :=
  items.mapM fun item : Json => item.fields?.bind (optionalEncryptedValues fields)

def readLoginLeaves (value : Fields) : Option LoginLeaves := do
  let login ← readRequiredObject value "login"
  let own ← optionalEncryptedValues ["username", "password", "totp"] login
  let uris ← readOptionalArray login "uris"
  let uriLeaves ← leavesOfEach ["uri", "uriChecksum"] uris
  let credentials ← readOptionalArray login "fido2Credentials"
  let credentialLeaves ←
    leavesOfEach (fido2CredentialFields.filter (· != "creationDate")) credentials
  return ⟨own, uriLeaves, credentialLeaves⟩

/-- Only a login has the leaves of one. -/
def readLoginPart (value : Fields) (type : Int) : Option (Option LoginLeaves) :=
  if type = 1 then (readLoginLeaves value).map some else some none

def readCipherLeaves (value : Fields) (type : Int) : Option CipherLeaves := do
  let name ←
    parseRequiredOpaqueField value "name" userKeyRotationPolicy.cipherOpaqueValueMaxLength
  let own ← optionalEncryptedValues ["notes", "key"] value
  let login ← readLoginPart value type
  let fields ← readOptionalArray value "fields"
  let fieldLeaves ← leavesOfEach ["name", "value"] fields
  let passwordHistory ← readOptionalArray value "passwordHistory"
  let passwordLeaves ← leavesOfEach ["password"] passwordHistory
  return ⟨own, name, login, fieldLeaves, passwordLeaves⟩

/-! ## The flat list -/

theorem encryptedValuesOfEach_eq (fields : List String) (items : List Json) :
    encryptedValuesOfEach fields items = (leavesOfEach fields items).map List.flatten := rfl

theorem loginEncryptedValues_leaves {value : Fields} {values : List Leaf}
    (h : loginEncryptedValues value = some values) :
    ∃ l, readLoginLeaves value = some l ∧ l.values = values := by
  simp only [loginEncryptedValues, bind, Option.bind_eq_some_iff, encryptedValuesOfEach_eq,
    Option.map_eq_some_iff] at h
  obtain ⟨login, hlogin, own, hown, uris, huris, _, ⟨uriLeaves, huriLeaves, rfl⟩, credentials,
    hcredentials, _, ⟨credentialLeaves, hcredentialLeaves, rfl⟩, hvalues⟩ := h
  refine ⟨⟨own, uriLeaves, credentialLeaves⟩, ?_, Option.some.inj hvalues⟩
  simp only [readLoginLeaves, bind, hlogin, hown, huris, huriLeaves, hcredentials,
    hcredentialLeaves, Option.bind_some]
  rfl

/-- **The flat list is that of the leaves.** -/
theorem buildCipherEncryptedValues_leaves {value : Fields} {type : Int} {values : List Leaf}
    (h : buildCipherEncryptedValues value type = some values) :
    ∃ l, readCipherLeaves value type = some l ∧ l.values = values := by
  by_cases htype : type = 1
  · simp only [buildCipherEncryptedValues, if_pos htype, bind, Option.bind_eq_some_iff,
      encryptedValuesOfEach_eq, Option.map_eq_some_iff] at h
    obtain ⟨name, hname, own, hown, loginValues, hloginValues, fields, hfields, _,
      ⟨fieldLeaves, hfieldLeaves, rfl⟩, passwordHistory, hpasswordHistory, _,
      ⟨passwordLeaves, hpasswordLeaves, rfl⟩, hvalues⟩ := h
    obtain ⟨login, hlogin, rfl⟩ := loginEncryptedValues_leaves hloginValues
    refine ⟨⟨own, name, some login, fieldLeaves, passwordLeaves⟩, ?_, Option.some.inj hvalues⟩
    simp only [readCipherLeaves, readLoginPart, if_pos htype, hlogin, bind, hname, hown, hfields,
      hfieldLeaves, hpasswordHistory, hpasswordLeaves, Option.bind_some, Option.map_some]
    rfl
  · simp only [buildCipherEncryptedValues, if_neg htype, bind, Option.bind_eq_some_iff,
      encryptedValuesOfEach_eq, Option.map_eq_some_iff, Option.bind_some] at h
    obtain ⟨name, hname, own, hown, fields, hfields, _, ⟨fieldLeaves, hfieldLeaves, rfl⟩,
      passwordHistory, hpasswordHistory, _, ⟨passwordLeaves, hpasswordLeaves, rfl⟩, hvalues⟩ := h
    refine ⟨⟨own, name, none, fieldLeaves, passwordLeaves⟩, ?_, Option.some.inj hvalues⟩
    simp only [readCipherLeaves, readLoginPart, if_neg htype, bind, hname, hown, hfields,
      hfieldLeaves, hpasswordHistory, hpasswordLeaves, Option.bind_some]
    rfl

/-! ## Sizes -/

theorem mapM_length {α β : Type} {f : α → Option β} :
    ∀ {items : List α} {results : List β}, items.mapM f = some results →
      results.length = items.length
  | [], _, h => by
    obtain rfl := Option.some.inj h
    rfl
  | item :: items, _, h => by
    simp only [List.mapM_cons, bind, Option.bind_eq_some_iff] at h
    obtain ⟨result, -, results, hresults, hcons⟩ := h
    cases hcons
    rw [List.length_cons, List.length_cons, mapM_length hresults]

/-- Every item of a list has one leaf for each field. -/
theorem leavesOfEach_item {fields : List String} : ∀ {items : List Json} {leaves : List (List Leaf)},
    leavesOfEach fields items = some leaves → ∀ item ∈ leaves, item.length = fields.length
  | [], _, h, item, hitem => by
    obtain rfl := Option.some.inj h
    cases hitem
  | value :: items, _, h, item, hitem => by
    simp only [leavesOfEach, List.mapM_cons, bind, Option.bind_eq_some_iff] at h
    obtain ⟨first, ⟨object, -, hfirst⟩, rest, hrest, hcons⟩ := h
    cases hcons
    rcases List.mem_cons.mp hitem with rfl | hitem
    · exact mapM_length hfirst
    · exact leavesOfEach_item hrest item hitem

/-- What the metadata say about the leaves of a login. -/
structure LoginSizes (l : LoginLeaves) (metadata : UserKeyRotationLoginMetadata) : Prop where
  own : l.own.length = 3
  uris : l.uris.length = metadata.uriMatches.length
  uri : ∀ item ∈ l.uris, item.length = 2
  fido2Credentials : l.fido2Credentials.length = metadata.fido2CreationDates.length
  fido2Credential : ∀ item ∈ l.fido2Credentials, item.length = 12

/-- What the metadata say about the leaves of a cipher. -/
structure CipherSizes (l : CipherLeaves) (metadata : UserKeyRotationCipherMetadata) : Prop where
  own : l.own.length = 2
  login : Option.Rel LoginSizes l.login metadata.login
  fields : l.fields.length = metadata.fields.length
  field : ∀ item ∈ l.fields, item.length = 2
  passwordHistory : l.passwordHistory.length = metadata.passwordHistoryDates.length
  password : ∀ item ∈ l.passwordHistory, item.length = 1

theorem readLoginLeaves_sizes {C : Codec} {value login : Fields} {l : LoginLeaves}
    {metadata : UserKeyRotationLoginMetadata} (hl : readLoginLeaves value = some l)
    (hlogin : readRequiredObject value "login" = some login)
    (hmetadata : readLoginMetadata C login = some metadata) : LoginSizes l metadata := by
  simp only [readLoginLeaves, bind, hlogin, Option.bind_some, Option.bind_eq_some_iff] at hl
  obtain ⟨own, hown, uris, huris, uriLeaves, huriLeaves, credentials, hcredentials,
    credentialLeaves, hcredentialLeaves, hl⟩ := hl
  cases hl
  simp only [readLoginMetadata, bind, huris, hcredentials, Option.bind_some,
    Option.bind_eq_some_iff] at hmetadata
  obtain ⟨_, -, _, -, uriMatches, huriMatches, creationDates, hcreationDates, hmetadata⟩ :=
    hmetadata
  cases hmetadata
  exact
    { own := mapM_length hown
      uris := (mapM_length huriLeaves).trans (mapM_length huriMatches).symm
      uri := leavesOfEach_item huriLeaves
      fido2Credentials := (mapM_length hcredentialLeaves).trans (mapM_length hcreationDates).symm
      fido2Credential := leavesOfEach_item hcredentialLeaves }

/-- **The metadata count the items.** -/
theorem readCipherLeaves_sizes {C : Codec} {value : Fields} {type : Int} {l : CipherLeaves}
    {metadata : UserKeyRotationCipherMetadata} (htype : type = 1 ∨ type = 2)
    (hl : readCipherLeaves value type = some l)
    (hmetadata : buildCipherMetadata C value type = some metadata) : CipherSizes l metadata := by
  simp only [readCipherLeaves, bind, Option.bind_eq_some_iff] at hl
  obtain ⟨name, -, own, hown, login, hlogin, fields, hfields, fieldLeaves, hfieldLeaves,
    passwordHistory, hpasswordHistory, passwordLeaves, hpasswordLeaves, hl⟩ := hl
  cases hl
  simp only [buildCipherMetadata, bind, hfields, hpasswordHistory, Option.bind_some,
    Option.bind_eq_some_iff] at hmetadata
  obtain ⟨fieldMetadata, hfieldMetadata, dates, hdates, hmetadata⟩ := hmetadata
  have hrest : ∀ loginMetadata secureNoteType,
      Option.Rel LoginSizes login loginMetadata →
      CipherSizes ⟨own, name, login, fieldLeaves, passwordLeaves⟩
        ⟨loginMetadata, secureNoteType, fieldMetadata, dates⟩ := fun _ _ hsizes =>
    { own := mapM_length hown
      login := hsizes
      fields := (mapM_length hfieldLeaves).trans (mapM_length hfieldMetadata).symm
      field := leavesOfEach_item hfieldLeaves
      passwordHistory := (mapM_length hpasswordLeaves).trans (mapM_length hdates).symm
      password := leavesOfEach_item hpasswordLeaves }
  unfold readLoginPart at hlogin
  rcases htype with rfl | rfl
  · rw [if_neg (by decide)] at hmetadata
    rw [if_pos rfl] at hlogin
    simp only [Option.bind_eq_some_iff] at hmetadata
    obtain ⟨object, hobject, loginMetadata, hloginMetadata, hmetadata⟩ := hmetadata
    cases hmetadata
    obtain ⟨leaves, hleaves, rfl⟩ := Option.map_eq_some_iff.mp hlogin
    exact hrest _ _ (.some (readLoginLeaves_sizes hleaves hobject hloginMetadata))
  · rw [if_pos rfl] at hmetadata
    rw [if_neg (by decide)] at hlogin
    simp only [Option.bind_eq_some_iff] at hmetadata
    obtain ⟨_, -, secureNoteType, -, hmetadata⟩ := hmetadata
    cases hmetadata
    obtain rfl := Option.some.inj hlogin
    exact hrest _ _ .none

/-! ## The same structure -/

/-- One leaf is `null` exactly where the other is. -/
def SameLeaf (old new : Leaf) : Prop := old.isSome = new.isSome

/-- As many items, and in each the same leaves. -/
abbrev SameItems (old new : List (List Leaf)) : Prop :=
  List.Forall₂ (List.Forall₂ SameLeaf) old new

structure SameLoginLeaves (old new : LoginLeaves) : Prop where
  own : List.Forall₂ SameLeaf old.own new.own
  uris : SameItems old.uris new.uris
  fido2Credentials : SameItems old.fido2Credentials new.fido2Credentials

structure SameLeaves (old new : CipherLeaves) : Prop where
  own : List.Forall₂ SameLeaf old.own new.own
  login : Option.Rel SameLoginLeaves old.login new.login
  fields : SameItems old.fields new.fields
  passwordHistory : SameItems old.passwordHistory new.passwordHistory

section Split

variable {α β : Type} {R : α → β → Prop}

/-- Related lists fall into related parts of the same length. -/
theorem forall₂_append_split {a b : List α} {a' b' : List β} (hlength : a.length = a'.length)
    (h : List.Forall₂ R (a ++ b) (a' ++ b')) : List.Forall₂ R a a' ∧ List.Forall₂ R b b' := by
  have htake := List.forall₂_take_append _ _ _ h
  have hdrop := List.forall₂_drop_append _ _ _ h
  rw [← hlength] at htake hdrop
  rw [List.take_left] at htake
  rw [List.drop_left] at hdrop
  exact ⟨htake, hdrop⟩

/-- Lists of as many parts, all of one length, are related part by part when they are related
flat. -/
theorem forall₂_of_flatten {k : Nat} {xs : List (List α)} :
    ∀ {ys : List (List β)}, xs.length = ys.length → (∀ x ∈ xs, x.length = k) →
      (∀ y ∈ ys, y.length = k) → List.Forall₂ R xs.flatten ys.flatten →
      List.Forall₂ (List.Forall₂ R) xs ys := by
  induction xs with
  | nil =>
    intro ys hlength _ _ _
    obtain rfl := List.length_eq_zero_iff.mp hlength.symm
    exact .nil
  | cons x xs ih =>
    intro ys hlength hx hy h
    cases ys with
    | nil => cases hlength
    | cons y ys =>
      rw [List.flatten_cons, List.flatten_cons] at h
      have hsame : x.length = y.length :=
        (hx x List.mem_cons_self).trans (hy y List.mem_cons_self).symm
      obtain ⟨hhead, htail⟩ := forall₂_append_split hsame h
      exact .cons hhead (ih (Nat.succ.inj hlength) (fun z hz => hx z (List.mem_cons_of_mem _ hz))
        (fun z hz => hy z (List.mem_cons_of_mem _ hz)) htail)

theorem flatten_length {k : Nat} {xs : List (List α)} {ys : List (List β)}
    (hlength : xs.length = ys.length) (hx : ∀ x ∈ xs, x.length = k)
    (hy : ∀ y ∈ ys, y.length = k) : xs.flatten.length = ys.flatten.length := by
  have hsum : ∀ {γ : Type} (zs : List (List γ)), (∀ z ∈ zs, z.length = k) →
      zs.flatten.length = zs.length * k := by
    intro γ zs hz
    induction zs with
    | nil => simp
    | cons z zs ih =>
      rw [List.flatten_cons, List.length_append, hz z List.mem_cons_self,
        ih fun z' hz' => hz z' (List.mem_cons_of_mem _ hz'), List.length_cons]
      ring
  rw [hsum xs hx, hsum ys hy, hlength]

end Split

section Structure

variable {old new : CipherLeaves} {metadata : UserKeyRotationCipherMetadata}

theorem sameLoginLeaves_of_values {old new : LoginLeaves} {metadata : UserKeyRotationLoginMetadata}
    (hold : LoginSizes old metadata) (hnew : LoginSizes new metadata)
    (h : List.Forall₂ SameLeaf old.values new.values) : SameLoginLeaves old new := by
  have huris := hold.uris.trans hnew.uris.symm
  have hown := hold.own.trans hnew.own.symm
  unfold LoginLeaves.values at h
  obtain ⟨hfront, hcredentials⟩ := forall₂_append_split (by
    rw [List.length_append, List.length_append, hown,
      flatten_length huris hold.uri hnew.uri]) h
  obtain ⟨hownLeaves, huriLeaves⟩ := forall₂_append_split hown hfront
  exact
    { own := hownLeaves
      uris := forall₂_of_flatten huris hold.uri hnew.uri huriLeaves
      fido2Credentials := forall₂_of_flatten
        (hold.fido2Credentials.trans hnew.fido2Credentials.symm) hold.fido2Credential
        hnew.fido2Credential hcredentials }

/-- The logins have flat lists of the same length. -/
theorem login_values_length (hold : CipherSizes old metadata) (hnew : CipherSizes new metadata) :
    ((old.login.map LoginLeaves.values).getD []).length =
      ((new.login.map LoginLeaves.values).getD []).length := by
  have holdLogin := hold.login
  have hnewLogin := hnew.login
  generalize old.login = oldLogin at *
  generalize new.login = newLogin at *
  generalize metadata.login = loginMetadata at *
  cases holdLogin with
  | none =>
    cases hnewLogin
    rfl
  | some ho =>
    cases hnewLogin with
    | some hn =>
      simp only [Option.map_some, Option.getD_some, LoginLeaves.values, List.length_append]
      rw [ho.own, hn.own, flatten_length (ho.uris.trans hn.uris.symm) ho.uri hn.uri,
        flatten_length (ho.fido2Credentials.trans hn.fido2Credentials.symm) ho.fido2Credential
          hn.fido2Credential]

/-- **Flat lists of the same shape under equal metadata have the same structure.** -/
theorem sameLeaves_of_values (hold : CipherSizes old metadata) (hnew : CipherSizes new metadata)
    (h : List.Forall₂ SameLeaf old.values new.values) : SameLeaves old new := by
  have hown := hold.own.trans hnew.own.symm
  have hfields := hold.fields.trans hnew.fields.symm
  have hlogin := login_values_length hold hnew
  unfold CipherLeaves.values at h
  obtain ⟨hfront, hpasswords⟩ := forall₂_append_split (by
    simp only [List.length_append, List.length_singleton]
    rw [hown, hlogin, flatten_length hfields hold.field hnew.field]) h
  obtain ⟨hfront, hfieldLeaves⟩ := forall₂_append_split (by
    simp only [List.length_append, List.length_singleton]
    rw [hown, hlogin]) hfront
  obtain ⟨hfront, hloginLeaves⟩ := forall₂_append_split (by
    simp only [List.length_append, List.length_singleton]
    rw [hown]) hfront
  obtain ⟨hownLeaves, -⟩ := forall₂_append_split hown hfront
  refine
    { own := hownLeaves
      login := ?_
      fields := forall₂_of_flatten hfields hold.field hnew.field hfieldLeaves
      passwordHistory := forall₂_of_flatten
        (hold.passwordHistory.trans hnew.passwordHistory.symm) hold.password hnew.password
        hpasswords }
  have holdLogin := hold.login
  have hnewLogin := hnew.login
  generalize old.login = oldLogin at *
  generalize new.login = newLogin at *
  generalize metadata.login = loginMetadata at *
  cases holdLogin with
  | none =>
    cases hnewLogin
    exact .none
  | some ho =>
    cases hnewLogin with
    | some hn => exact .some (sameLoginLeaves_of_values ho hn hloginLeaves)

end Structure

end HonoWarden
