import HonoWarden.Web.Base64
import HonoWarden.Web.Utf8

/-!
# Fingerprints of credential wrappers

Model of `fingerprintCredentialWrapper` (`src/domain/account-credentials.ts`). What is hashed is a
canonical form: of an EncString its type and the hexadecimal digits of its decoded parts, of any
other string the string itself, each behind a prefix of its own.

`EncString` is what a wrapper means, a type and as many parts as the type has, and `SpelledBy` says
which strings mean it: the parts in base64, with any padding and any unused bits, behind the type
and a dot, or for the types 0 and 1 without either.

Results:
* `decodeEncStringBase64_eq_some_iff`: the decoder of the parts reads base64;
* `canonicalizeEncString_eq_some_iff`: the parser finds the EncString a string spells;
* `canonicalCredentialWrapperFingerprintInput_cases`: what a wrapper is hashed as;
* **`credentialWrapperFingerprint_iff`**: canonical forms are equal for two spellings of one
  EncString and for equal strings that spell none, and for no others.
-/

namespace HonoWarden

open Web

/-! ## The code -/

/-- `encStringPartCounts`. -/
def encStringPartCounts : List (JsString × Nat) :=
  [(js "0", 2), (js "1", 3), (js "2", 3), (js "3", 1), (js "4", 1), (js "5", 2), (js "6", 2),
    (js "7", 1)]

def encStringPartCount (encryptionType : JsString) : Option Nat :=
  (encStringPartCounts.find? fun entry => entry.1 = encryptionType).map Prod.snd

/-- `base64Sextet`. -/
def base64Sextet (codePoint : CodeUnit) : Nat :=
  if 65 ≤ codePoint.val ∧ codePoint.val ≤ 90 then codePoint - 65
  else if 97 ≤ codePoint.val ∧ codePoint.val ≤ 122 then codePoint - 71
  else if 48 ≤ codePoint.val ∧ codePoint.val ≤ 57 then codePoint + 4
  else if codePoint = 43 then 62 else 63

/-- The loop of `decodeEncStringBase64`: the bytes it writes, in order. -/
def decodeEncStringUnits : JsString → Nat → Nat → List Byte
  | [], _, _ => []
  | character :: rest, accumulator, bitCount =>
    let accumulator := accumulator <<< 6 ||| base64Sextet character
    let bitCount := bitCount + 6
    if bitCount < 8 then decodeEncStringUnits rest accumulator bitCount
    else
      let bitCount := bitCount - 8
      Fin.ofNat _ (accumulator >>> bitCount &&& 0xff) ::
        decodeEncStringUnits rest (accumulator &&& (1 <<< bitCount) - 1) bitCount

/-- `[A-Za-z0-9+/]`. -/
def IsBase64Unit (c : CodeUnit) : Prop :=
  (65 ≤ c.val ∧ c.val ≤ 90) ∨ (97 ≤ c.val ∧ c.val ≤ 122) ∨ (48 ≤ c.val ∧ c.val ≤ 57) ∨
    c = 43 ∨ c = 47

instance : DecidablePred IsBase64Unit := fun _ => inferInstanceAs (Decidable (_ ∨ _))

/-- `decodeEncStringBase64`. -/
def decodeEncStringBase64 (value : JsString) : Option (List Byte) :=
  let unpadded := trimEnd padding value
  if padding ∈ unpadded ∨ unpadded.length % 4 = 1 ∨
      ¬ unpadded.all (fun c => IsBase64Unit c) = true then none
  else some (decodeEncStringUnits unpadded 0 0)

/-- The type and the encoded parts `canonicalizeEncString` finds; `.` is 46 and `|` is 124. -/
def encStringParts (value : JsString) : Option (JsString × List JsString) :=
  match value.findIdx? (· = 46) with
  | none =>
    let encodedParts := value.splitOn 124
    if encodedParts.length = 2 then some (js "0", encodedParts)
    else if encodedParts.length = 3 then some (js "1", encodedParts)
    else none
  | some separator =>
    if separator = 0 ∨ 46 ∈ value.drop (separator + 1) then none
    else if (encStringPartCount (value.take separator)).isSome then
      some (value.take separator, (value.drop (separator + 1)).splitOn 124)
    else none

/-- A part in the canonical form. -/
def canonicalPart (part : List Byte) : JsString := decimal part.length ++ 58 :: hex part

/-- `canonicalizeEncString`. -/
def canonicalizeEncString (value : JsString) : Option JsString :=
  (encStringParts value).bind fun found =>
    if some found.2.length = encStringPartCount found.1 then
      (found.2.mapM decodeEncStringBase64).map fun decodedParts =>
        [58].intercalate (found.1 :: decodedParts.map canonicalPart)
    else none

/-- `canonicalCredentialWrapperFingerprintInput`. -/
def canonicalCredentialWrapperFingerprintInput (value : JsString) : JsString :=
  match canonicalizeEncString value with
  | none => js "opaque-v1:" ++ value
  | some canonicalEncString => js "enc-string-v1:" ++ canonicalEncString

/-- `fingerprintCredentialWrapper`; `digest` is SHA-256. -/
def fingerprintCredentialWrapper (digest : List Byte → List Byte) (value : JsString) : JsString :=
  hex (digest (encodeUtf8 (canonicalCredentialWrapperFingerprintInput value)))

/-! ## What a wrapper means -/

/-- The number of parts of each type. -/
def partCount : Fin 8 → Nat
  | 0 => 2
  | 1 => 3
  | 2 => 3
  | 3 => 1
  | 4 => 1
  | 5 => 2
  | 6 => 2
  | 7 => 1

/-- An encrypted string: its type and its parts. -/
structure EncString where
  encryptionType : Fin 8
  parts : List (List Byte)
  complete : parts.length = partCount encryptionType
  deriving DecidableEq

/-- The digit of a type. -/
def typeDigit (t : Fin 8) : CodeUnit := ⟨48 + t, by omega⟩

/-- A text spells bytes: their base64, with any padding and any bits in what is left over. -/
def SpellsBytes (text : JsString) (bytes : List Byte) : Prop :=
  ∃ xs n, text = xs.map sextetUnit ++ List.replicate n padding ∧ xs.length % 4 ≠ 1 ∧
    ofSextets xs = bytes

namespace EncString

/-- A string spells an EncString. -/
def SpelledBy (e : EncString) (value : JsString) : Prop :=
  ∃ texts, List.Forall₂ SpellsBytes texts e.parts ∧
    (value = typeDigit e.encryptionType :: 46 :: [124].intercalate texts ∨
      ((e.encryptionType = 0 ∨ e.encryptionType = 1) ∧ value = [124].intercalate texts))

/-- The canonical form. -/
def canonical (e : EncString) : JsString :=
  [58].intercalate ([typeDigit e.encryptionType] :: e.parts.map canonicalPart)

end EncString

/-! ## The decoder -/

theorem base64Sextet_sextetUnit (x : Sextet) : base64Sextet (sextetUnit x) = x.val := by
  revert x
  decide

theorem isBase64Unit_iff {c : CodeUnit} : IsBase64Unit c ↔ ∃ x, c = sextetUnit x := by
  constructor
  · intro h
    have hsome : (unitSextet c).isSome := by
      unfold IsBase64Unit at h
      unfold unitSextet
      split_ifs <;> simp_all
    obtain ⟨x, hx⟩ := Option.isSome_iff_exists.mp hsome
    exact ⟨x, unitSextet_eq_some_iff.mp hx⟩
  · rintro ⟨x, rfl⟩
    revert x
    decide

/-- One round of the loop that writes no byte. -/
theorem decodeEncStringUnits_short {x : Sextet} {rest : JsString} {accumulator bitCount : Nat}
    (h : bitCount < 2) : decodeEncStringUnits (sextetUnit x :: rest) accumulator bitCount =
      decodeEncStringUnits rest (accumulator * 64 + x) (bitCount + 6) := by
  have hor : accumulator <<< 6 ||| x.val = accumulator * 64 + x := by
    rw [← Nat.shiftLeft_add_eq_or_of_lt (i := 6) x.isLt, Nat.shiftLeft_eq]
  rw [decodeEncStringUnits, base64Sextet_sextetUnit]
  dsimp only
  rw [if_pos (by omega), hor]

/-- One round of the loop that writes a byte. -/
theorem decodeEncStringUnits_byte {x : Sextet} {rest : JsString} {accumulator bitCount : Nat}
    (h : 2 ≤ bitCount) : decodeEncStringUnits (sextetUnit x :: rest) accumulator bitCount =
      Fin.ofNat 256 ((accumulator * 64 + x) / 2 ^ (bitCount - 2)) ::
        decodeEncStringUnits rest ((accumulator * 64 + x) % 2 ^ (bitCount - 2)) (bitCount - 2) := by
  have hor : accumulator <<< 6 ||| x.val = accumulator * 64 + x := by
    rw [← Nat.shiftLeft_add_eq_or_of_lt (i := 6) x.isLt, Nat.shiftLeft_eq]
  have hbits : bitCount + 6 - 8 = bitCount - 2 := by omega
  have hbyte (n : Nat) : Fin.ofNat 256 (n &&& 0xff) = Fin.ofNat 256 n := by
    refine Fin.ext ?_
    rw [Fin.val_ofNat, Fin.val_ofNat, Nat.and_two_pow_sub_one_eq_mod n 8]
    omega
  rw [decodeEncStringUnits, base64Sextet_sextetUnit]
  dsimp only
  rw [if_neg (by omega), hor, hbits, hbyte, Nat.shiftRight_eq_div_pow, Nat.one_shiftLeft,
    Nat.and_two_pow_sub_one_eq_mod]

/-- The loop writes the bytes of the sextets. -/
theorem decodeEncStringUnits_eq (xs : List Sextet) :
    decodeEncStringUnits (xs.map sextetUnit) 0 0 = ofSextets xs := by
  induction xs using ofSextets.induct with
  | case1 => rfl
  | case2 w =>
    rw [List.map_singleton, decodeEncStringUnits_short (by decide)]
    rfl
  | case3 w x =>
    rw [List.map_cons, List.map_singleton, decodeEncStringUnits_short (by decide),
      decodeEncStringUnits_byte (by decide), ofSextets, decodeEncStringUnits]
    congr 1
    refine Fin.ext ?_
    rw [Fin.val_ofNat]
    dsimp only
    omega
  | case4 w x y =>
    rw [List.map_cons, List.map_cons, List.map_singleton, decodeEncStringUnits_short (by decide),
      decodeEncStringUnits_byte (by decide), decodeEncStringUnits_byte (by decide), ofSextets,
      decodeEncStringUnits]
    congr 1
    · refine Fin.ext ?_
      rw [Fin.val_ofNat]
      dsimp only
      omega
    · congr 1
      refine Fin.ext ?_
      rw [Fin.val_ofNat]
      dsimp only
      omega
  | case5 w x y z rest ih =>
    have hzero (n : Nat) : n % 2 ^ (6 - 2 - 2 - 2) = 0 := Nat.mod_one n
    rw [List.map_cons, List.map_cons, List.map_cons, List.map_cons,
      decodeEncStringUnits_short (by decide), decodeEncStringUnits_byte (by decide),
      decodeEncStringUnits_byte (by decide), decodeEncStringUnits_byte (by decide), hzero, ofSextets]
    refine congrArg₂ List.cons ?_ (congrArg₂ List.cons ?_ (congrArg₂ List.cons ?_ ih))
    · refine Fin.ext ?_
      rw [Fin.val_ofNat]
      dsimp only
      omega
    · refine Fin.ext ?_
      rw [Fin.val_ofNat]
      dsimp only
      omega
    · refine Fin.ext ?_
      rw [Fin.val_ofNat]
      dsimp only
      omega

/-- **The decoder of a part reads base64.** -/
theorem decodeEncStringBase64_eq_some_iff {text : JsString} {bytes : List Byte} :
    decodeEncStringBase64 text = some bytes ↔ SpellsBytes text bytes := by
  unfold decodeEncStringBase64 SpellsBytes
  dsimp only
  constructor
  · intro h
    split_ifs at h with hbad
    obtain ⟨-, hmod, hunits⟩ := not_or.mp hbad |>.imp_right not_or.mp
    obtain ⟨xs, hxs⟩ := exists_map_sextetUnit fun c hc =>
      isBase64Unit_iff.mp (of_decide_eq_true (List.all_eq_true.mp (not_not.mp hunits) c hc))
    obtain ⟨n, hn⟩ := exists_eq_trimEnd_append padding text
    rw [hxs] at hn h hmod
    rw [List.length_map] at hmod
    rw [decodeEncStringUnits_eq] at h
    exact ⟨xs, n, hn, hmod, Option.some.inj h⟩
  · rintro ⟨xs, n, rfl, hmod, rfl⟩
    have hpad : padding ∉ xs.map sextetUnit := by
      intro h
      obtain ⟨x, -, hx⟩ := List.mem_map.mp h
      exact sextetUnit_ne_padding x hx
    rw [trimEnd_append_replicate hpad, if_neg, decodeEncStringUnits_eq]
    rw [List.length_map]
    rintro (h | h | h)
    · exact hpad h
    · exact hmod h
    · refine h (List.all_eq_true.mpr fun c hc => decide_eq_true ?_)
      obtain ⟨x, -, rfl⟩ := List.mem_map.mp hc
      exact isBase64Unit_iff.mpr ⟨x, rfl⟩

/-! ## The parser -/

theorem encStringPartCount_eq_some_iff {raw : JsString} {n : Nat} :
    encStringPartCount raw = some n ↔ ∃ t, raw = [typeDigit t] ∧ n = partCount t := by
  unfold encStringPartCount
  constructor
  · intro h
    obtain ⟨entry, hfind, rfl⟩ := Option.map_eq_some_iff.mp h
    have hkey : entry.1 = raw := by simpa using List.find?_some hfind
    have hmem := List.mem_of_find?_eq_some hfind
    have htable : ∀ entry ∈ encStringPartCounts,
        ∃ t : Fin 8, entry.1 = [typeDigit t] ∧ entry.2 = partCount t := by decide
    obtain ⟨t, hraw, hcount⟩ := htable entry hmem
    exact ⟨t, hkey.symm.trans hraw, hcount⟩
  · rintro ⟨t, rfl, rfl⟩
    revert t
    decide

/-- A spelled part holds neither a dot nor a bar. -/
theorem SpellsBytes.not_mem {text : JsString} {bytes : List Byte} (h : SpellsBytes text bytes) :
    46 ∉ text ∧ 124 ∉ text := by
  obtain ⟨xs, n, rfl, -, -⟩ := h
  have hunits : ∀ x, sextetUnit x ≠ 46 ∧ sextetUnit x ≠ 124 := by decide
  have hmem (c : CodeUnit) (hc : c ≠ padding) (hx : ∀ x, sextetUnit x ≠ c) :
      c ∉ xs.map sextetUnit ++ List.replicate n padding := by
    intro h
    rcases List.mem_append.mp h with h | h
    · obtain ⟨x, -, hx'⟩ := List.mem_map.mp h
      exact hx x hx'
    · exact hc (List.eq_of_mem_replicate h)
  exact ⟨hmem 46 (by decide) fun x => (hunits x).1, hmem 124 (by decide) fun x => (hunits x).2⟩

/-- What a type and its number of parts determine, over the eight types. -/
theorem typeDigit_facts : ∀ t : Fin 8, (js "0" = [typeDigit t] → t = 0) ∧
    (js "1" = [typeDigit t] → t = 1) ∧ partCount t ≠ 0 ∧ typeDigit t ≠ 46 := by decide

theorem forall_not_mem_of_spells {texts : List JsString} {parts : List (List Byte)}
    (h : List.Forall₂ SpellsBytes texts parts) :
    ∀ text ∈ texts, 46 ∉ text ∧ 124 ∉ text := by
  induction h with
  | nil => exact fun _ htext => absurd htext List.not_mem_nil
  | cons hspells _ ih => exact List.forall_mem_cons.mpr ⟨hspells.not_mem, ih⟩

theorem not_mem_intercalate_of_spells {texts : List JsString} {parts : List (List Byte)}
    (h : List.Forall₂ SpellsBytes texts parts) : 46 ∉ [124].intercalate texts := by
  intro hdot
  rcases mem_intercalate hdot with hsep | ⟨text, htext, hc⟩
  · cases hsep
  · exact (forall_not_mem_of_spells h text htext).1 hc

/-- What the parser found, if the type has that many parts. -/
theorem encStringParts_found {value raw : JsString} {texts : List JsString}
    (h : encStringParts value = some (raw, texts))
    (hcount : some texts.length = encStringPartCount raw) :
    ∃ t, raw = [typeDigit t] ∧ texts.length = partCount t ∧
      (value = typeDigit t :: 46 :: [124].intercalate texts ∨
        ((t = 0 ∨ t = 1) ∧ value = [124].intercalate texts)) := by
  obtain ⟨t, rfl, hlength⟩ := encStringPartCount_eq_some_iff.mp hcount.symm
  refine ⟨t, rfl, hlength, ?_⟩
  unfold encStringParts at h
  split at h
  · -- without a dot the number of parts says which type it is
    right
    dsimp only at h
    split_ifs at h with htwo hthree
    · obtain ⟨htype, rfl⟩ := Prod.mk.inj (Option.some.inj h)
      exact ⟨Or.inl ((typeDigit_facts t).1 htype), (List.intercalate_splitOn 124).symm⟩
    · obtain ⟨htype, rfl⟩ := Prod.mk.inj (Option.some.inj h)
      exact ⟨Or.inr ((typeDigit_facts t).2.1 htype), (List.intercalate_splitOn 124).symm⟩
  · rename_i separator hseparator
    left
    split_ifs at h
    obtain ⟨hraw, rfl⟩ := Prod.mk.inj (Option.some.inj h)
    obtain ⟨hlt, hdot, -⟩ := List.findIdx?_eq_some_iff_getElem.mp hseparator
    rw [List.intercalate_splitOn, ← List.singleton_append (x := typeDigit t), ← hraw,
      ← of_decide_eq_true hdot, List.getElem_cons_drop, List.take_append_drop]

/-- The parser finds what a string spells. -/
theorem encStringParts_of_spelled {t : Fin 8} {texts : List JsString} {parts : List (List Byte)}
    {value : JsString} (hspells : List.Forall₂ SpellsBytes texts parts)
    (hlength : texts.length = partCount t)
    (hvalue : value = typeDigit t :: 46 :: [124].intercalate texts ∨
      ((t = 0 ∨ t = 1) ∧ value = [124].intercalate texts)) :
    encStringParts value = some ([typeDigit t], texts) := by
  have hdot := not_mem_intercalate_of_spells hspells
  have hne : texts ≠ [] := by
    rintro rfl
    exact (typeDigit_facts t).2.2.1 hlength.symm
  have hsplit : ([124].intercalate texts).splitOn 124 = texts :=
    List.splitOn_intercalate 124 (fun text htext => (forall_not_mem_of_spells hspells text htext).2)
      hne
  rcases hvalue with rfl | ⟨htype, rfl⟩
  · have hfirst := (typeDigit_facts t).2.2.2
    have hindex : (typeDigit t :: 46 :: [124].intercalate texts).findIdx? (· = 46) = some 1 := by
      rw [List.findIdx?_cons, if_neg (by simpa using hfirst), List.findIdx?_cons]
      rfl
    have hsome : (encStringPartCount [typeDigit t]).isSome := by
      rw [encStringPartCount_eq_some_iff.mpr ⟨t, rfl, rfl⟩]
      rfl
    unfold encStringParts
    rw [hindex]
    dsimp only
    rw [if_neg]
    · simp only [List.take_succ_cons, List.take_zero, List.drop_succ_cons, List.drop_zero, hsome,
        if_true, hsplit]
    · rintro (h | h)
      · cases h
      · exact hdot h
  · have hindex : ([124].intercalate texts).findIdx? (· = 46) = none := by
      refine List.findIdx?_eq_none_iff.mpr fun c hc => decide_eq_false ?_
      rintro rfl
      exact hdot hc
    unfold encStringParts
    rw [hindex]
    dsimp only
    rw [hsplit]
    rcases htype with rfl | rfl
    · have htwo : texts.length = 2 := hlength
      rw [if_pos htwo]
      rfl
    · have hthree : texts.length = 3 := hlength
      rw [if_neg (by omega), if_pos hthree]
      rfl

/-- **The parser finds the EncString a string spells.** -/
theorem canonicalizeEncString_eq_some_iff {value canonical : JsString} :
    canonicalizeEncString value = some canonical ↔
      ∃ e : EncString, e.SpelledBy value ∧ e.canonical = canonical := by
  have hdecode {texts : List JsString} {parts : List (List Byte)} :
      texts.mapM decodeEncStringBase64 = some parts ↔ List.Forall₂ SpellsBytes texts parts := by
    rw [mapM_eq_some_iff_forall₂]
    simp only [decodeEncStringBase64_eq_some_iff]
  unfold canonicalizeEncString
  constructor
  · intro h
    obtain ⟨⟨raw, texts⟩, hfound, h'⟩ := Option.bind_eq_some_iff.mp h
    dsimp only at h'
    split_ifs at h' with hcount
    obtain ⟨parts, hparts, hcanonical⟩ := Option.map_eq_some_iff.mp h'
    obtain ⟨t, rfl, hlength, hvalue⟩ := encStringParts_found hfound hcount
    have hspells := hdecode.mp hparts
    exact ⟨⟨t, parts, hspells.length_eq.symm.trans hlength⟩, ⟨texts, hspells, hvalue⟩, hcanonical⟩
  · rintro ⟨e, ⟨texts, hspells, hvalue⟩, rfl⟩
    have hlength := hspells.length_eq.trans e.complete
    rw [encStringParts_of_spelled hspells hlength hvalue, Option.bind_some]
    dsimp only
    rw [if_pos, hdecode.mpr hspells]
    · rfl
    · exact (encStringPartCount_eq_some_iff.mpr ⟨_, rfl, hlength⟩).symm

/-! ## Canonical forms -/

/-- The fields of a part in a canonical form. -/
def canonicalFields (part : List Byte) : List JsString := [decimal part.length, hex part]

theorem intercalate_canonicalPart (parts : List (List Byte)) (head : JsString) :
    [58].intercalate (head :: parts.map canonicalPart) =
      [58].intercalate (head :: parts.flatMap canonicalFields) := by
  induction parts generalizing head with
  | nil => rfl
  | cons part parts ih =>
    have hfields : (part :: parts).flatMap canonicalFields =
        decimal part.length :: hex part :: parts.flatMap canonicalFields := rfl
    have htail : [58].intercalate (canonicalPart part :: parts.map canonicalPart) =
        decimal part.length ++ [58] ++ [58].intercalate (hex part :: parts.map canonicalPart) := by
      cases parts with
      | nil =>
        rw [List.map_nil, List.intercalate_singleton, List.intercalate_singleton, canonicalPart,
          List.append_assoc, List.singleton_append]
      | cons next parts =>
        rw [List.map_cons, List.intercalate_cons_cons, List.intercalate_cons_cons, canonicalPart]
        simp only [List.append_assoc, List.cons_append, List.nil_append]
    rw [List.map_cons, List.intercalate_cons_cons, htail, ih, hfields, List.intercalate_cons_cons,
      List.intercalate_cons_cons]

/-- No field of a canonical form holds a colon. -/
theorem colon_not_mem_canonicalFields {parts : List (List Byte)} :
    ∀ field ∈ parts.flatMap canonicalFields, 58 ∉ field := by
  intro field hfield
  obtain ⟨part, -, hmem⟩ := List.mem_flatMap.mp hfield
  simp only [canonicalFields, List.mem_cons, List.not_mem_nil, or_false] at hmem
  rcases hmem with rfl | rfl
  · exact fun h => absurd (isDigit_of_mem_decimal h) (by decide)
  · exact fun h => absurd (isHexDigit_of_mem_hex h) (by decide)

theorem flatMap_canonicalFields_injective :
    Function.Injective fun parts : List (List Byte) => parts.flatMap canonicalFields := by
  intro parts
  induction parts with
  | nil =>
    intro parts' h
    cases parts' with
    | nil => rfl
    | cons part' parts' => cases h
  | cons part parts ih =>
    intro parts' h
    cases parts' with
    | nil => cases h
    | cons part' parts' =>
      have h' : decimal part.length :: hex part :: parts.flatMap canonicalFields =
        decimal part'.length :: hex part' :: parts'.flatMap canonicalFields := h
      simp only [List.cons.injEq] at h'
      rw [hex_injective h'.2.1, ih h'.2.2]

/-- A canonical form is split back into its fields. -/
theorem EncString.splitOn_canonical (e : EncString) :
    e.canonical.splitOn 58 = [typeDigit e.encryptionType] :: e.parts.flatMap canonicalFields := by
  unfold canonical
  rw [intercalate_canonicalPart]
  refine List.splitOn_intercalate 58 ?_ (List.cons_ne_nil _ _)
  refine List.forall_mem_cons.mpr ⟨?_, colon_not_mem_canonicalFields⟩
  generalize e.encryptionType = t
  revert t
  decide

theorem typeDigit_injective : Function.Injective typeDigit := by
  have h : ∀ t t' : Fin 8, typeDigit t = typeDigit t' → t = t' := by decide
  exact fun t t' => h t t'

theorem EncString.canonical_injective : Function.Injective EncString.canonical := by
  intro e e' h
  have hsplit := congrArg (List.splitOn 58) h
  rw [e.splitOn_canonical, e'.splitOn_canonical, List.cons.injEq, List.cons.injEq] at hsplit
  obtain ⟨⟨htype, -⟩, hparts⟩ := hsplit
  cases e
  cases e'
  cases typeDigit_injective htype
  cases flatMap_canonicalFields_injective hparts
  rfl

/-- A string spells one EncString. -/
theorem EncString.SpelledBy.unique {e e' : EncString} {value : JsString} (h : e.SpelledBy value)
    (h' : e'.SpelledBy value) : e = e' := by
  have hsome := canonicalizeEncString_eq_some_iff.mpr ⟨e, h, rfl⟩
  have hsome' := canonicalizeEncString_eq_some_iff.mpr ⟨e', h', rfl⟩
  exact EncString.canonical_injective (Option.some.inj (hsome.symm.trans hsome'))

/-- Two wrappers are the same: two spellings of one EncString, or one string that spells none. -/
def SameWrapper (a b : JsString) : Prop :=
  (∃ e : EncString, e.SpelledBy a ∧ e.SpelledBy b) ∨
    ((∀ e : EncString, ¬ e.SpelledBy a) ∧ (∀ e : EncString, ¬ e.SpelledBy b) ∧ a = b)

/-- What a wrapper is hashed as. -/
theorem canonicalCredentialWrapperFingerprintInput_cases (value : JsString) :
    (∃ e : EncString, e.SpelledBy value ∧
      canonicalCredentialWrapperFingerprintInput value = js "enc-string-v1:" ++ e.canonical) ∨
    ((∀ e : EncString, ¬ e.SpelledBy value) ∧
      canonicalCredentialWrapperFingerprintInput value = js "opaque-v1:" ++ value) := by
  unfold canonicalCredentialWrapperFingerprintInput
  cases h : canonicalizeEncString value with
  | none =>
    refine Or.inr ⟨fun e he => ?_, rfl⟩
    rw [canonicalizeEncString_eq_some_iff.mpr ⟨e, he, rfl⟩] at h
    cases h
  | some canonical =>
    obtain ⟨e, he, rfl⟩ := canonicalizeEncString_eq_some_iff.mp h
    exact Or.inl ⟨e, he, rfl⟩

/-- The two prefixes differ in their first unit. -/
theorem encString_ne_opaqueText (s t : JsString) : js "enc-string-v1:" ++ s ≠ js "opaque-v1:" ++ t := by
  have hfirst : js "enc-string-v1:" = 101 :: js "nc-string-v1:" := by decide
  have hfirst' : js "opaque-v1:" = 111 :: js "paque-v1:" := by decide
  rw [hfirst, hfirst']
  exact fun h => absurd (List.cons.inj h).1 (by decide)

/-- **Canonical forms are equal exactly for the same wrapper.** -/
theorem canonicalCredentialWrapperFingerprintInput_eq_iff (a b : JsString) :
    canonicalCredentialWrapperFingerprintInput a = canonicalCredentialWrapperFingerprintInput b ↔
      SameWrapper a b := by
  unfold SameWrapper
  rcases canonicalCredentialWrapperFingerprintInput_cases a with ⟨e, ha, ha'⟩ | ⟨ha, ha'⟩
  · rcases canonicalCredentialWrapperFingerprintInput_cases b with ⟨e', hb, hb'⟩ | ⟨hb, hb'⟩
    · rw [ha', hb', List.append_right_inj]
      constructor
      · intro h
        obtain rfl := EncString.canonical_injective h
        exact Or.inl ⟨e, ha, hb⟩
      · rintro (⟨e'', hea, heb⟩ | ⟨hnone, -⟩)
        · rw [ha.unique hea, hb.unique heb]
        · exact absurd ha (hnone e)
    · rw [ha', hb']
      constructor
      · exact fun h => absurd h (encString_ne_opaqueText _ _)
      · rintro (⟨e'', -, heb⟩ | ⟨hnone, -⟩)
        · exact absurd heb (hb e'')
        · exact absurd ha (hnone e)
  · rcases canonicalCredentialWrapperFingerprintInput_cases b with ⟨e', hb, hb'⟩ | ⟨hb, hb'⟩
    · rw [ha', hb']
      constructor
      · exact fun h => absurd h.symm (encString_ne_opaqueText _ _)
      · rintro (⟨e'', hea, -⟩ | ⟨-, hnone, -⟩)
        · exact absurd hea (ha e'')
        · exact absurd hb (hnone e')
    · rw [ha', hb', List.append_right_inj]
      constructor
      · exact fun h => Or.inr ⟨ha, hb, h⟩
      · rintro (⟨e'', hea, -⟩ | ⟨-, -, h⟩)
        · exact absurd hea (ha e'')
        · exact h


/-! ## The bytes that are hashed -/

theorem not_surrogate_of_lt {c : CodeUnit} (h : c.val < 0xd800) : ¬ IsHigh c ∧ ¬ IsLow c := by
  unfold IsHigh IsLow
  omega

/-- A canonical form is ASCII. -/
theorem EncString.lt_of_mem_canonical (e : EncString) {c : CodeUnit} (h : c ∈ e.canonical) :
    c.val < 0xd800 := by
  unfold canonical at h
  rw [intercalate_canonicalPart] at h
  rcases mem_intercalate h with rfl | ⟨field, hfield, hc⟩
  · decide
  · rcases List.mem_cons.mp hfield with rfl | hfield
    · rw [List.mem_singleton.mp hc]
      unfold typeDigit
      dsimp only
      omega
    · obtain ⟨part, -, hmem⟩ := List.mem_flatMap.mp hfield
      simp only [canonicalFields, List.mem_cons, List.not_mem_nil, or_false] at hmem
      rcases hmem with rfl | rfl
      · exact Nat.lt_of_le_of_lt (isDigit_of_mem_decimal hc).2 (by decide)
      · rcases isHexDigit_of_mem_hex hc with hdigit | hletter
        · exact Nat.lt_of_le_of_lt hdigit.2 (by decide)
        · exact Nat.lt_of_le_of_lt hletter.2 (by decide)

theorem wellFormed_canonicalCredentialWrapperFingerprintInput {value : JsString}
    (h : WellFormed value) : WellFormed (canonicalCredentialWrapperFingerprintInput value) := by
  have hascii (s : JsString) (hs : s.all (fun c => decide (c.val < 0xd800)) = true) :
      WellFormed s := by
    refine wellFormed_of_forall fun c hc => not_surrogate_of_lt ?_
    exact of_decide_eq_true (List.all_eq_true.mp hs c hc)
  rcases canonicalCredentialWrapperFingerprintInput_cases value with ⟨e, -, heq⟩ | ⟨-, heq⟩
  · rw [heq]
    refine (hascii _ (by decide +kernel)).append (wellFormed_of_forall fun c hc => ?_)
    exact not_surrogate_of_lt (e.lt_of_mem_canonical hc)
  · rw [heq]
    exact (hascii _ (by decide +kernel)).append h

/-- **Fingerprints identify wrappers up to their encoding.** The canonical forms of two strings are
equal if and only if they spell one EncString, of one type and with the same decoded parts, or
neither spells any and they are the same string; and for strings without lone surrogates the same
holds of the bytes that are hashed. -/
theorem credentialWrapperFingerprint_iff (a b : JsString) :
    (canonicalCredentialWrapperFingerprintInput a = canonicalCredentialWrapperFingerprintInput b ↔
      SameWrapper a b) ∧
    (WellFormed a → WellFormed b →
      (encodeUtf8 (canonicalCredentialWrapperFingerprintInput a) =
        encodeUtf8 (canonicalCredentialWrapperFingerprintInput b) ↔ SameWrapper a b)) := by
  have hiff := canonicalCredentialWrapperFingerprintInput_eq_iff a b
  refine ⟨hiff, fun ha hb => ?_⟩
  rw [← hiff]
  constructor
  · exact encodeUtf8_injective (wellFormed_canonicalCredentialWrapperFingerprintInput ha)
      (wellFormed_canonicalCredentialWrapperFingerprintInput hb)
  · exact congrArg encodeUtf8

/-- Two spellings of one wrapper: with and without the type, the padding and unused bits. -/
theorem credentialWrapperFingerprint_spellings :
    SameWrapper (js "0.AA==|AQ") (js "AB|AQ=") :=
  (credentialWrapperFingerprint_iff _ _).1.mp (by decide +kernel)


end HonoWarden
