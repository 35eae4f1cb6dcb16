import HonoWarden.Web.Base64
import HonoWarden.Web.Json

/-!
# Signed tokens

What codecs of signed tokens are made of: JSON in UTF-8 in base64url, segments behind dots, and a
MAC over them.

`Mac` is a keyed MAC of 32 bytes. That it cannot be forged is said of one tag that is presented
(`Unforged`): if it is the tag of its message under one of some secrets, then a holder of that
secret has computed it; `Signs` is the history of what holders computed.

Results:
* **`parseJson_decodeText`**, `parseJson_decodeTextFatal`: an object is read back from its bytes;
* **`decodeUrl_eq_some_iff`**: a decoder that compares with the encoding reads one spelling only;
* `splitOn_dot`: a token falls apart into the segments it was joined of.
-/

namespace Web

/-! ## JSON in base64url -/

theorem base64UrlEncode_eq_nil_iff {bytes : List Byte} : base64UrlEncode bytes = [] ↔ bytes = [] := by
  constructor
  · exact fun h => base64UrlEncode_injective (h.trans rfl)
  · rintro rfl
    rfl

section Json

variable {ν : Type} [JsonNumber ν]

/-- The bytes of a value's text. -/
def jsonBytes (value : JsonValue ν) : List Byte := encodeUtf8 value.stringify

/-- A value's text, in base64url. -/
def encodeJson (value : JsonValue ν) : JsString := base64UrlEncode (jsonBytes value)

variable {members : List (JsString × JsonValue ν)}

theorem head_stringify_ne_bom (members : List (JsString × JsonValue ν)) :
    (JsonValue.object members).stringify.head? ≠ some 0xfeff := by
  rw [head_stringify_object]
  decide

/-- **An object is read back from its bytes.** -/
theorem parseJson_decodeText (h : (JsonValue.object members).Faithful) :
    parseJson (decodeText (jsonBytes (.object members))) = some (.object members) := by
  unfold jsonBytes
  rw [decodeText_encodeUtf8 (wellFormed_stringify _ h) (head_stringify_ne_bom members),
    parseJson_stringify h]

theorem parseJson_decodeTextFatal (h : (JsonValue.object members).Faithful) :
    (decodeTextFatal (jsonBytes (.object members))).bind parseJson = some (.object members) := by
  unfold jsonBytes
  rw [decodeTextFatal_encodeUtf8 (wellFormed_stringify _ h) (head_stringify_ne_bom members),
    Option.bind_some, parseJson_stringify h]

/-- An encoded object begins with `e`. -/
theorem head_encodeJson (members : List (JsString × JsonValue ν)) :
    (encodeJson (.object members)).head? = some 101 := by
  obtain ⟨rest, htext⟩ : ∃ rest, (JsonValue.object members).stringify = 123 :: rest := by
    cases members with
    | nil => exact ⟨_, rfl⟩
    | cons member members => exact ⟨_, rfl⟩
  have hbytes : jsonBytes (.object members) = 123 :: encodeUtf8 rest := by
    unfold jsonBytes encodeUtf8
    rw [htext, scalars_unit (by decide) (by decide), List.flatMap_cons]
    rfl
  unfold encodeJson
  rw [hbytes, base64UrlEncode_eq]
  rcases encodeUtf8 rest with _ | ⟨b, _ | ⟨c, bytes⟩⟩ <;> rfl

theorem jsonBytes_ne_nil (members : List (JsString × JsonValue ν)) :
    jsonBytes (.object members) ≠ [] := by
  intro h
  have hhead := head_encodeJson members
  rw [encodeJson, base64UrlEncode_eq_nil_iff.mpr h] at hhead
  cases hhead

end Json

/-! ## One spelling -/

/-- Read the alphabet, decode, and refuse what is not the encoding of what was read. -/
def decodeUrl (atob : JsString → Option (List Byte)) (value : JsString) : Option (List Byte) :=
  if value = [] ∨ ¬ value.all (fun c => IsUrlUnit c) = true then none
  else (atob value).filter fun bytes => base64UrlEncode bytes = value

/-- **A decoder that compares with the encoding reads one spelling only.** -/
theorem decodeUrl_eq_some_iff {atob : JsString → Option (List Byte)}
    (hatob : ∀ bytes, atob (base64UrlEncode bytes) = some bytes) {value : JsString}
    {bytes : List Byte} :
    decodeUrl atob value = some bytes ↔ bytes ≠ [] ∧ value = base64UrlEncode bytes := by
  unfold decodeUrl
  constructor
  · intro h
    split_ifs at h with hbad
    obtain ⟨-, heq⟩ := Option.filter_eq_some_iff.mp h
    have hvalue := of_decide_eq_true heq
    refine ⟨?_, hvalue.symm⟩
    rintro rfl
    exact hbad (Or.inl hvalue.symm)
  · rintro ⟨hne, rfl⟩
    have hall : (base64UrlEncode bytes).all (fun c => IsUrlUnit c) = true :=
      List.all_eq_true.mpr fun c hc => decide_eq_true (isUrlUnit_of_mem_base64UrlEncode hc)
    rw [if_neg (not_or.mpr ⟨mt base64UrlEncode_eq_nil_iff.mp hne, not_not.mpr hall⟩), hatob]
    exact Option.filter_eq_some_iff.mpr ⟨rfl, decide_eq_true rfl⟩

/-! ## Segments -/

theorem dot_not_mem_base64UrlEncode (bytes : List Byte) : 46 ∉ base64UrlEncode bytes := fun h =>
  absurd (isUrlUnit_of_mem_base64UrlEncode h) (by decide)

theorem intercalate_two (a b : JsString) : [46].intercalate [a, b] = a ++ 46 :: b := by
  simp [List.intercalate]

theorem intercalate_three (a b c : JsString) :
    [46].intercalate [a, b, c] = (a ++ 46 :: b) ++ 46 :: c := by
  simp [List.intercalate]

/-- **A token falls apart into the segments it was joined of.** -/
theorem splitOn_dot {segments : List JsString} (hne : segments ≠ [])
    (h : ∀ segment ∈ segments, ∃ bytes, segment = base64UrlEncode bytes) :
    ([46].intercalate segments).splitOn 46 = segments := by
  refine List.splitOn_intercalate 46 (fun segment hsegment => ?_) hne
  obtain ⟨bytes, rfl⟩ := h segment hsegment
  exact dot_not_mem_base64UrlEncode bytes

/-- The last segment is what stands behind the last dot. -/
theorem append_dot_inj {a b s t : JsString} (hs : 46 ∉ s) (ht : 46 ∉ t)
    (h : a ++ 46 :: s = b ++ 46 :: t) : a = b ∧ s = t := by
  rcases List.append_eq_append_iff.mp h with ⟨_ | ⟨c, rest⟩, hb, heq⟩ | ⟨_ | ⟨c, rest⟩, ha, heq⟩
  · exact ⟨(hb.trans (List.append_nil a)).symm, (List.cons.inj heq).2⟩
  · refine absurd ?_ hs
    rw [(List.cons.inj heq).2]
    exact List.mem_append_right _ List.mem_cons_self
  · exact ⟨ha.trans (List.append_nil b), (List.cons.inj heq).2.symm⟩
  · refine absurd ?_ ht
    rw [(List.cons.inj heq).2]
    exact List.mem_append_right _ List.mem_cons_self

/-! ## The MAC -/

/-- A keyed MAC of 32 bytes. -/
structure Mac where
  tag (key message : List Byte) : List Byte
  tag_length (key message : List Byte) : (tag key message).length = 32

/-- The tag of a text under a secret. -/
def Mac.sign (mac : Mac) (secret text : JsString) : List Byte :=
  mac.tag (encodeUtf8 secret) (encodeUtf8 text)

@[simp] theorem Mac.sign_length (mac : Mac) (secret text : JsString) :
    (mac.sign secret text).length = 32 := mac.tag_length _ _

theorem Mac.sign_ne_nil (mac : Mac) (secret text : JsString) : mac.sign secret text ≠ [] := by
  intro h
  exact absurd ((congrArg List.length h).symm.trans (mac.sign_length secret text)) (by decide)

theorem length_take_padded (key message : List Byte) :
    ((key ++ message ++ List.replicate 32 0).take 32).length = 32 := by
  rw [List.length_take, List.length_append, List.length_replicate]
  omega

/-- The first 32 bytes of the key and the message: a MAC in form only. -/
def prefixMac : Mac where
  tag key message := (key ++ message ++ List.replicate 32 0).take 32
  tag_length := length_take_padded

/-- A tag presented for a text is not forged: if it is the tag under one of `secrets`, then the
history `Signs` has it. -/
def Unforged (mac : Mac) (Signs : JsString → JsString → Prop) (secrets : List JsString)
    (text : JsString) (tag : List Byte) : Prop :=
  ∀ secret ∈ secrets, mac.sign secret text = tag → Signs secret text

end Web
