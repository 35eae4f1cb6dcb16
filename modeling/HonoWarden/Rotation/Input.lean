import HonoWarden.Vault.Durable
import HonoWarden.Wire

/-!
# Reading rotation payloads

Model of `user-key-rotation-input.ts`. A field is found under its name and under the same name with
a capital first letter. When both are there they must be equal, otherwise the field is invalid.

`none` is what the readers return for a field they refuse: `null` for a required field, `undefined`
for a nullable one, `valid: false` for an optional one. A nullable or optional field that is absent
or `null` is `some none`.
-/

namespace HonoWarden

/-- `userKeyRotationPolicy`, as far as ciphers go. -/
structure UserKeyRotationPolicy where
  idMaxLength : Nat := 36
  cipherOpaqueValueMaxLength : Nat := 16384
  cipherJsonMaxLength : Nat := 500000
  cipherFieldsMax : Nat := 100
  cipherUrisMax : Nat := 100
  cipherPasswordHistoryMax : Nat := 100
  fido2CredentialsMax : Nat := 100

def userKeyRotationPolicy : UserKeyRotationPolicy := {}

/-! ## Aliased fields -/

inductive AliasedValue where
  | absent
  | invalid
  | present (value : Json)

def pascalCase (name : String) : String :=
  match name.toList with
  | [] => ""
  | first :: rest => String.ofList (first.toUpper :: rest)

def readAliasedValue (object : Fields) (name : String) : AliasedValue :=
  match object.lookup name, object.lookup (pascalCase name) with
  | none, none => .absent
  | some value, none => .present value
  | none, some value => .present value
  | some value, some alternative =>
    if alternative.deepEqual value then .present value else .invalid

def hasOnlyAliasedFields (object : Fields) (fields : List String) : Bool :=
  object.all fun field => fields.any fun name => field.1 == name || field.1 == pascalCase name

/-- A required field: `read` must accept its value. -/
def AliasedValue.required {α : Type} (read : Json → Option α) : AliasedValue → Option α
  | present value => read value
  | _ => none

/-- A field that may be absent or `null`. -/
def AliasedValue.optional {α : Type} (read : Json → Option α) : AliasedValue → Option (Option α)
  | absent => some none
  | invalid => none
  | present .null => some none
  | present value => (read value).map some

/-! ## Values -/

/-- What `trim` removes. -/
def isJsSpace (c : Char) : Bool :=
  (9 ≤ c.toNat && c.toNat ≤ 13) || c.toNat == 0x20 || c.toNat == 0xa0 || c.toNat == 0x1680 ||
    (0x2000 ≤ c.toNat && c.toNat ≤ 0x200a) || c.toNat == 0x2028 || c.toNat == 0x2029 ||
    c.toNat == 0x202f || c.toNat == 0x205f || c.toNat == 0x3000 || c.toNat == 0xfeff

def isControlCharacter (c : Char) : Bool := c.toNat ≤ 31 || c.toNat == 127

/-- `value.trim() === value`. -/
def isTrimmed (text : List Char) : Bool :=
  !(text.head?.any isJsSpace) && !(text.getLast?.any isJsSpace)

def parseOpaqueString (maxLength : Nat) : Json → Option String
  | .string value =>
    if jsLength value = 0 ∨ maxLength < jsLength value ∨ isTrimmed value.toList = false ∨
        value.toList.any isControlCharacter then none
    else some value
  | _ => none

def isHexDigit (c : Char) : Bool := ('0' ≤ c && c ≤ '9') || ('a' ≤ c && c ≤ 'f')

/-- The characters of an id, one by one. -/
def idShape : List (Char → Bool) :=
  let hex := fun count => List.replicate count isHexDigit
  let dash := [fun c : Char => c == '-']
  hex 8 ++ dash ++ hex 4 ++ dash ++ [fun c => '1' ≤ c && c ≤ '8'] ++ hex 3 ++ dash ++
    [fun c => ['8', '9', 'a', 'b'].contains c] ++ hex 3 ++ dash ++ hex 12

def hasIdShape (text : List Char) : Bool :=
  text.length == idShape.length && (text.zip idShape).all fun pair => pair.2 pair.1

def parseId (value : Json) : Option String :=
  (parseOpaqueString userKeyRotationPolicy.idMaxLength value).filter fun id => hasIdShape id.toList

/-- `Number.isSafeInteger`. -/
def parseSafeInteger : Json → Option Int
  | .number value => if value.natAbs ≤ 2 ^ 53 - 1 then some value else none
  | _ => none

def parseBoolean : Json → Option Bool
  | .bool value => some value
  | _ => none

/-- `parseIsoDate`: a text that is the canonical one of its instant. -/
def Codec.parseIsoDate (C : Codec) : Json → Option String
  | .string value =>
    if jsLength value > 32 then none
    else
      (C.dateParse value).bind fun time =>
        if C.toISOString time = value then some value else none
  | _ => none

/-! ## Fields -/

section Fields

variable (object : Fields) (name : String)

def readRequiredObject : Option Fields := (readAliasedValue object name).required Json.fields?

def readOptionalArray : Option (List Json) :=
  ((readAliasedValue object name).optional Json.items?).map (·.getD [])

def parseRequiredOpaqueField (maxLength : Nat) : Option String :=
  (readAliasedValue object name).required (parseOpaqueString maxLength)

def parseOptionalOpaqueField (maxLength : Nat) : Option (Option String) :=
  (readAliasedValue object name).optional (parseOpaqueString maxLength)

/-- The empty text is no id either. -/
def parseNullableIdField : Option (Option String) :=
  match readAliasedValue object name with
  | .present (.string "") => some none
  | value => value.optional parseId

def parseRequiredIntegerField : Option Int :=
  (readAliasedValue object name).required parseSafeInteger

def parseNullableIntegerField : Option (Option Int) :=
  (readAliasedValue object name).optional parseSafeInteger

def parseRequiredBooleanField : Option Bool :=
  (readAliasedValue object name).required parseBoolean

def parseOptionalBooleanField : Option (Option Bool) :=
  (readAliasedValue object name).optional parseBoolean

def Codec.parseNullableDateField (C : Codec) : Option (Option String) :=
  (readAliasedValue object name).optional C.parseIsoDate

def isAbsentOrNull : Bool :=
  match readAliasedValue object name with
  | .absent | .present .null => true
  | _ => false

def isAbsentNullOrEmpty : Bool :=
  match readAliasedValue object name with
  | .absent | .present .null | .present (.string "") => true
  | _ => false

end Fields

def allAbsentOrNull (object : Fields) (fields : List String) : Bool :=
  fields.all fun name => isAbsentOrNull object name

/-! ### What a reader returns -/

/-- An accepted text is the value itself. -/
theorem parseOpaqueString_eq {maxLength : Nat} {value : Json} {text : String}
    (h : parseOpaqueString maxLength value = some text) : value = .string text := by
  unfold parseOpaqueString at h
  split at h
  · split_ifs at h
    rw [Option.some.inj h]
  · cases h

/-- An accepted id is the value itself. -/
theorem parseId_eq {value : Json} {id : String} (h : parseId value = some id) :
    value = .string id := by
  obtain ⟨hparsed, -⟩ := Option.filter_eq_some_iff.mp h
  exact parseOpaqueString_eq hparsed

theorem AliasedValue.optional_present {α : Type} {read : Json → Option α} {value : Json}
    {result : Option α} (h : (present value).optional read = some result) :
    value = .null ∧ result = none ∨ ∃ parsed, read value = some parsed ∧ result = some parsed := by
  cases value with
  | null => exact .inl ⟨rfl, (Option.some.inj h).symm⟩
  | _ =>
    obtain ⟨parsed, hparsed, rfl⟩ := Option.map_eq_some_iff.mp h
    exact .inr ⟨parsed, hparsed, rfl⟩

/-- A field that is there under its own name is read from there, or refused. -/
theorem readAliasedValue_of_lookup {object : Fields} {name : String} {value : Json}
    (h : object.lookup name = some value) :
    readAliasedValue object name = .present value ∨ readAliasedValue object name = .invalid := by
  unfold readAliasedValue
  rw [h]
  cases object.lookup (pascalCase name) with
  | none => exact .inl rfl
  | some alternative =>
    dsimp only
    split_ifs
    · exact .inl rfl
    · exact .inr rfl

/-- An id that is there under its own name is read from there. -/
theorem parseNullableIdField_of_lookup {object : Fields} {name : String} {value : Json}
    {result : Option String} (hvalue : object.lookup name = some value)
    (h : parseNullableIdField object name = some result) :
    (value = .null ∨ value = .string "") ∧ result = none ∨
      ∃ id, value = .string id ∧ result = some id := by
  unfold parseNullableIdField at h
  rcases readAliasedValue_of_lookup hvalue with hread | hread
  · rw [hread] at h
    split at h
    · next heq =>
      cases heq
      exact .inl ⟨.inr rfl, (Option.some.inj h).symm⟩
    · rcases AliasedValue.optional_present h with ⟨hnull, hresult⟩ | ⟨id, hid, hresult⟩
      · exact .inl ⟨.inl hnull, hresult⟩
      · exact .inr ⟨id, parseId_eq hid, hresult⟩
  · rw [hread] at h
    cases h

end HonoWarden
