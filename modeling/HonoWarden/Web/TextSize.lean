import Mathlib.Algebra.GroupWithZero.Nat
import HonoWarden.Web.Base64
import HonoWarden.Web.Json

/-!
# How many bytes a JSON text takes

`byteWeight` bounds the UTF-8 length of a text unit by unit, so it adds up over what a text is put
together of. A unit of a string takes at most six bytes in JSON; where no unit is a control
character, the string takes at most twice its own bytes.

Results:
* **`length_encodeUtf8_le`**: a text takes no more bytes than its weight;
* **`byteWeight_quoteText_le`**, `byteWeight_quoteText_le_bytes`: the weight of a quoted string.
-/

namespace Web

/-- A unit below 128 takes one byte, any other at most three. -/
def unitWeight (u : CodeUnit) : Nat := if u.val < 0x80 then 1 else 3

/-- A bound of the bytes of a text. -/
def byteWeight (s : JsString) : Nat := (s.map unitWeight).sum

@[simp] theorem byteWeight_nil : byteWeight [] = 0 := rfl

@[simp] theorem byteWeight_cons (u : CodeUnit) (s : JsString) :
    byteWeight (u :: s) = unitWeight u + byteWeight s := rfl

@[simp] theorem byteWeight_append (s t : JsString) :
    byteWeight (s ++ t) = byteWeight s + byteWeight t := by
  simp [byteWeight]

/-! ## Texts -/

theorem length_scalarBytes_unitScalar_le (u : CodeUnit) :
    (scalarBytes (unitScalar u)).length ≤ unitWeight u := by
  have hu := u.isLt
  unfold unitScalar unitWeight scalarBytes
  split_ifs <;> simp_all [replacement, IsHigh, IsLow]
  omega

theorem length_scalarBytes_pos (n : Nat) : 1 ≤ (scalarBytes n).length := by
  unfold scalarBytes
  split_ifs <;> simp

theorem length_scalarBytes_pairScalar (u v : CodeUnit) :
    (scalarBytes (pairScalar u v)).length = 4 := by
  unfold scalarBytes pairScalar
  rw [if_neg (by omega), if_neg (by omega), if_neg (by omega)]
  rfl

/-- Both halves of a surrogate pair are above 128. -/
theorem unitWeight_surrogate {u : CodeUnit} (h : IsHigh u ∨ IsLow u) : unitWeight u = 3 := by
  unfold unitWeight
  unfold IsHigh IsLow at h
  rw [if_neg (by omega)]

/-- **A text takes no more bytes than its weight.** -/
theorem length_encodeUtf8_le (s : JsString) : (encodeUtf8 s).length ≤ byteWeight s := by
  unfold encodeUtf8
  induction s using scalars.induct with
  | case1 => simp [scalars]
  | case2 u =>
    have h := length_scalarBytes_unitScalar_le u
    simpa [scalars] using h
  | case3 u v rest h ih =>
    have hpair := length_scalarBytes_pairScalar u v
    rw [scalars, if_pos h, List.flatMap_cons, List.length_append, byteWeight_cons, byteWeight_cons,
      unitWeight_surrogate (.inl h.1), unitWeight_surrogate (.inr h.2)]
    omega
  | case4 u v rest h ih =>
    have hunit := length_scalarBytes_unitScalar_le u
    rw [scalars, if_neg h, List.flatMap_cons, List.length_append, byteWeight_cons]
    omega

/-! ## Quoted strings -/

theorem unitWeight_hexDigit (n : Fin 16) : unitWeight (hexDigit n) = 1 := by
  revert n
  decide

theorem byteWeight_unicodeEscape (u : CodeUnit) : byteWeight (unicodeEscape u) = 6 := by
  simp only [unicodeEscape, byteWeight_cons, byteWeight_nil, unitWeight_hexDigit]
  rfl

theorem byteWeight_quoteUnitText_le (u : CodeUnit) : byteWeight (quoteUnitText u) ≤ 6 := by
  unfold quoteUnitText
  split_ifs
  iterate 7 · decide
  · rw [byteWeight_unicodeEscape]
  · rw [byteWeight_cons, byteWeight_nil]
    unfold unitWeight
    split_ifs <;> omega

/-- **A unit of a string takes at most six bytes in JSON.** -/
theorem byteWeight_quoteText_le (s : JsString) : byteWeight (quoteText s) ≤ 6 * s.length := by
  induction s using quoteText.induct with
  | case1 => exact Nat.le_refl 0
  | case2 u => simpa [quoteText] using byteWeight_quoteUnitText_le u
  | case3 u v rest h ih =>
    rw [quoteText, if_pos h, byteWeight_cons, byteWeight_cons, unitWeight_surrogate (.inl h.1),
      unitWeight_surrogate (.inr h.2), List.length_cons, List.length_cons]
    omega
  | case4 u v rest h ih =>
    have hunit := byteWeight_quoteUnitText_le u
    rw [quoteText, if_neg h, byteWeight_append, List.length_cons]
    omega

/-- A unit that is no control character takes at most twice its own bytes. -/
theorem byteWeight_quoteUnitText_le_bytes {u : CodeUnit} (h : 32 ≤ u.val) :
    byteWeight (quoteUnitText u) ≤ 2 * (scalarBytes (unitScalar u)).length := by
  have hpos := length_scalarBytes_pos (unitScalar u)
  unfold quoteUnitText
  split_ifs with h8 h9 h10 h12 h13 h34 h92 hescape
  iterate 5 · exact absurd h (by subst u; decide)
  iterate 2 · exact Nat.mul_le_mul_left 2 hpos
  · have hsurrogate : IsHigh u ∨ IsLow u := hescape.resolve_left (by omega)
    rw [byteWeight_unicodeEscape, unitScalar, if_pos hsurrogate]
    decide
  · rw [not_or] at hescape
    rw [byteWeight_cons, byteWeight_nil, unitScalar, if_neg hescape.2]
    unfold unitWeight scalarBytes
    split_ifs <;> simp

/-- A string without control characters takes at most twice its own bytes. -/
theorem byteWeight_quoteText_le_bytes {s : JsString} (h : ∀ u ∈ s, 32 ≤ u.val) :
    byteWeight (quoteText s) ≤ 2 * (encodeUtf8 s).length := by
  unfold encodeUtf8
  induction s using quoteText.induct with
  | case1 => exact Nat.le_refl 0
  | case2 u => simpa [quoteText, scalars] using byteWeight_quoteUnitText_le_bytes (h u (by simp))
  | case3 u v rest hpair ih =>
    have hrest := ih fun w hw => h w (List.mem_cons_of_mem _ (List.mem_cons_of_mem _ hw))
    have hfour := length_scalarBytes_pairScalar u v
    rw [quoteText, if_pos hpair, byteWeight_cons, byteWeight_cons,
      unitWeight_surrogate (.inl hpair.1), unitWeight_surrogate (.inr hpair.2), scalars,
      if_pos hpair, List.flatMap_cons, List.length_append]
    omega
  | case4 u v rest hpair ih =>
    have hrest := ih fun w hw => h w (List.mem_cons_of_mem _ hw)
    have hunit := byteWeight_quoteUnitText_le_bytes (h u List.mem_cons_self)
    rw [quoteText, if_neg hpair, byteWeight_append, scalars, if_neg hpair, List.flatMap_cons,
      List.length_append]
    omega

theorem byteWeight_quote (s : JsString) : byteWeight (quote s) = byteWeight (quoteText s) + 2 := by
  have hquote : unitWeight quoteUnit = 1 := rfl
  rw [quote, byteWeight_cons, byteWeight_append, byteWeight_cons, byteWeight_nil, hquote]
  omega

/-- The members of an object take their names, their values and four marks each. -/
theorem byteWeight_memberTexts {ν : Type} [JsonNumber ν] :
    ∀ members : List (JsString × JsonValue ν), byteWeight (JsonValue.memberTexts members) =
      1 + (members.map fun m => byteWeight (quoteText m.1)).sum +
        (members.map fun m => 4 + byteWeight m.2.stringify).sum
  | [] => by rfl
  | (name, value) :: members => by
    rw [JsonValue.memberTexts, byteWeight_cons, byteWeight_append, byteWeight_cons,
      byteWeight_append, byteWeight_quote, byteWeight_memberTexts members]
    have hmarks : unitWeight 44 = 1 ∧ unitWeight 58 = 1 := by decide
    simp only [List.map_cons, List.sum_cons]
    omega

theorem byteWeight_stringify_object_le {ν : Type} [JsonNumber ν]
    (members : List (JsString × JsonValue ν)) : byteWeight (JsonValue.object members).stringify ≤
      2 + (members.map fun m => byteWeight (quoteText m.1)).sum +
        (members.map fun m => 4 + byteWeight m.2.stringify).sum := by
  cases members with
  | nil => exact (by decide : byteWeight [123, 125] ≤ 2)
  | cons m members =>
    have hmembers := byteWeight_memberTexts (m :: members)
    rw [JsonValue.memberTexts, byteWeight_cons] at hmembers
    rw [JsonValue.stringify, byteWeight_cons]
    have hmarks : unitWeight 44 = 1 ∧ unitWeight 123 = 1 := by decide
    omega

/-- A unit that JSON writes as it is, in one byte. -/
def IsPlainUnit (u : CodeUnit) : Prop := 0x20 ≤ u.val ∧ u.val < 0x80 ∧ u ≠ 34 ∧ u ≠ 92

/-- A string of plain units takes as many bytes as it has units. -/
theorem byteWeight_quoteText_plain {s : JsString} (h : ∀ u ∈ s, IsPlainUnit u) :
    byteWeight (quoteText s) = s.length := by
  have hunit {u : CodeUnit} (hu : IsPlainUnit u) : byteWeight (quoteUnitText u) = 1 := by
    obtain ⟨hlow, hhigh, hquote, hslash⟩ := hu
    have hsurrogate : ¬ (u.val < 0x20 ∨ IsHigh u ∨ IsLow u) := by
      unfold IsHigh IsLow
      omega
    unfold quoteUnitText
    split_ifs with h8 h9 h10 h12 h13
    iterate 5 · exact absurd hlow (by subst u; decide)
    rw [byteWeight_cons, byteWeight_nil, unitWeight, if_pos hhigh]
  induction s using quoteText.induct with
  | case1 => rfl
  | case2 u => exact hunit (h u List.mem_cons_self)
  | case3 u v rest hpair ih =>
    have hu := (h u List.mem_cons_self).2.1
    unfold IsHigh at hpair
    omega
  | case4 u v rest hpair ih =>
    have hrest := ih fun w hw => h w (List.mem_cons_of_mem _ hw)
    rw [quoteText, if_neg hpair, byteWeight_append, hunit (h u List.mem_cons_self), hrest]
    exact Nat.add_comm _ _

theorem isPlainUnit_of_isUrlUnit {u : CodeUnit} (h : IsUrlUnit u) : IsPlainUnit u := by
  unfold IsUrlUnit at h
  unfold IsPlainUnit
  simp only [Fin.le_def, ne_eq, Fin.ext_iff, Fin.isValue] at h ⊢
  omega


end Web
