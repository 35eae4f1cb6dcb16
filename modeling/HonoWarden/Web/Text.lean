import Mathlib.Algebra.GroupWithZero.Nat
import Mathlib.Data.List.DropRight
import Mathlib.Data.List.Basic
import Mathlib.Data.List.Lex
import Mathlib.Data.List.Forall2
import Mathlib.Order.Fin.Basic

/-!
# Strings and bytes of a JavaScript program

A string is its list of UTF-16 code units, whatever they are: a lone surrogate is a string of one
unit. Bytes are the elements of a `Uint8Array`.

Results:
* **`readDecimal_decimal`**: a number reads back from its decimal digits;
* **`hex_injective`**: bytes are known by their hexadecimal digits.
-/

namespace Web

/-- A UTF-16 code unit. -/
abbrev CodeUnit := Fin 65536

abbrev JsString := List CodeUnit

abbrev Byte := Fin 256

instance CodeUnit.neZero : NeZero 65536 := ⟨by decide⟩

instance Byte.neZero : NeZero 256 := ⟨by decide⟩

instance CodeUnit.lawfulBEq : LawfulBEq CodeUnit := inferInstance

instance JsString.lawfulBEq : LawfulBEq JsString := inferInstance

/-- The code units of a character. -/
def utf16 (c : Char) : JsString :=
  if c.toNat < 0x10000 then [Fin.ofNat _ c.toNat]
  else
    [Fin.ofNat _ (0xd800 + (c.toNat - 0x10000) / 0x400),
      Fin.ofNat _ (0xdc00 + (c.toNat - 0x10000) % 0x400)]

/-- The string of a literal of the source. -/
def js (literal : String) : JsString := literal.toList.flatMap utf16

/-- `s.replace(/a/g, b)`, for two code units. -/
def replaceAll (a b : CodeUnit) (s : JsString) : JsString := s.map fun c => if c = a then b else c

/-- `s.padEnd(n, c)`. -/
def padEnd (n : Nat) (c : CodeUnit) (s : JsString) : JsString :=
  s ++ List.replicate (n - s.length) c

/-- `s.replace(/c+$/, '')`. -/
def trimEnd (c : CodeUnit) (s : JsString) : JsString := s.rdropWhile (· = c)

/-- White space and line ends, as `trim` takes them. -/
def IsJsSpace (c : CodeUnit) : Prop :=
  (9 ≤ c ∧ c ≤ 13) ∨ c = 0x20 ∨ c = 0xa0 ∨ c = 0x1680 ∨ (0x2000 ≤ c ∧ c ≤ 0x200a) ∨ c = 0x2028 ∨
    c = 0x2029 ∨ c = 0x202f ∨ c = 0x205f ∨ c = 0x3000 ∨ c = 0xfeff

instance : DecidablePred IsJsSpace := fun _ => inferInstanceAs (Decidable (_ ∨ _))

/-- `s.trim()`. -/
def trim (s : JsString) : JsString :=
  (s.dropWhile fun c => IsJsSpace c).rdropWhile fun c => IsJsSpace c

@[simp] theorem trim_nil : trim [] = [] := rfl

/-! ## Decimal digits -/

/-- A digit, `0` to `9`. -/
def IsDigit (c : CodeUnit) : Prop := 48 ≤ c ∧ c ≤ 57

instance : DecidablePred IsDigit := fun _ => inferInstanceAs (Decidable (_ ∧ _))

/-- `String(n)` for a natural number. -/
def decimal (n : Nat) : JsString := (Nat.toDigits 10 n).map fun c => Fin.ofNat _ c.toNat

/-- The number of a string of digits. -/
def readDecimal (s : JsString) : Nat := s.foldl (fun n c => 10 * n + (c.val - 48)) 0

theorem decimal_ne_nil (n : Nat) : decimal n ≠ [] := by
  unfold decimal
  simp [Nat.toDigits_ne_nil]

/-- A digit character has a digit for its code unit. -/
theorem isDigit_ofNat_of_isDigit {c : Char} (h : c.isDigit) :
    IsDigit (Fin.ofNat 65536 c.toNat) ∧ (Fin.ofNat 65536 c.toNat).val = c.toNat := by
  have hrange : 48 ≤ c.toNat ∧ c.toNat ≤ 57 := by
    simp only [Char.isDigit, Bool.and_eq_true, decide_eq_true_eq, ge_iff_le] at h
    exact ⟨h.1, h.2⟩
  have hval : (Fin.ofNat 65536 c.toNat).val = c.toNat := Nat.mod_eq_of_lt (by omega)
  refine ⟨⟨?_, ?_⟩, hval⟩
  · rw [Fin.le_def, hval]
    exact hrange.1
  · rw [Fin.le_def, hval]
    exact hrange.2

theorem isDigit_of_mem_decimal {n : Nat} {c : CodeUnit} (h : c ∈ decimal n) : IsDigit c := by
  obtain ⟨d, hd, rfl⟩ := List.mem_map.mp h
  exact (isDigit_ofNat_of_isDigit (Nat.isDigit_of_mem_toDigits (by decide) (by decide) hd)).1

/-- **A number reads back from its decimal digits.** -/
theorem readDecimal_decimal (n : Nat) : readDecimal (decimal n) = n := by
  have hfold : ∀ (l : List Char) (m : Nat), (∀ c ∈ l, c.isDigit) →
      (l.map fun c => Fin.ofNat 65536 c.toNat).foldl (fun n c => 10 * n + (c.val - 48)) m =
        Nat.ofDigitChars 10 l m := by
    intro l
    induction l with
    | nil => exact fun _ _ => Nat.ofDigitChars_nil.symm
    | cons c l ih =>
      intro m hl
      rw [List.map_cons, List.foldl_cons, Nat.ofDigitChars_cons,
        ih _ fun d hd => hl d (List.mem_cons_of_mem _ hd)]
      congr 3
      exact (isDigit_ofNat_of_isDigit (hl c List.mem_cons_self)).2
  refine (hfold _ 0 fun c hc => ?_).trans Nat.ofDigitChars_ten_toDigits
  exact Nat.isDigit_of_mem_toDigits (by decide) (by decide) hc

/-- A positive number does not begin with a zero. -/
theorem exists_decimal_eq_cons : ∀ {n : Nat}, 0 < n → ∃ c s, decimal n = c :: s ∧ 49 ≤ c
  | n, hn => by
    by_cases hlt : n < 10
    · have hdigit : ∀ m : Fin 10, 0 < m.val → (49 : CodeUnit) ≤ Fin.ofNat _ m.val.digitChar.toNat := by
        decide
      refine ⟨_, [], ?_, hdigit ⟨n, hlt⟩ hn⟩
      rw [decimal, Nat.toDigits_of_lt_base hlt, List.map_singleton]
    · obtain ⟨c, s, hdecimal, hc⟩ := exists_decimal_eq_cons (n := n / 10) (by omega)
      unfold decimal at hdecimal ⊢
      rw [Nat.toDigits_of_base_le (by decide) (by omega), List.map_append, hdecimal]
      exact ⟨c, _, rfl, hc⟩


/-! ## Hexadecimal digits -/

/-- The lower-case digit of a half byte. -/
def hexDigit (n : Fin 16) : CodeUnit := if n < 10 then ⟨48 + n, by omega⟩ else ⟨87 + n, by omega⟩

/-- The two digits of a byte. -/
def hexByte (b : Byte) : JsString :=
  [hexDigit ⟨b / 16, by omega⟩, hexDigit ⟨b % 16, by omega⟩]

/-- The digits of bytes. -/
def hex (bytes : List Byte) : JsString := bytes.flatMap hexByte

theorem hexDigit_injective : Function.Injective hexDigit := by
  have h : ∀ m n : Fin 16, hexDigit m = hexDigit n → m = n := by decide
  exact fun m n => h m n

theorem isHexDigit_hexDigit (n : Fin 16) :
    IsDigit (hexDigit n) ∨ (97 ≤ hexDigit n ∧ hexDigit n ≤ 102) := by
  revert n
  decide

theorem isHexDigit_of_mem_hex {bytes : List Byte} {c : CodeUnit} (h : c ∈ hex bytes) :
    IsDigit c ∨ (97 ≤ c ∧ c ≤ 102) := by
  obtain ⟨b, -, hc⟩ := List.mem_flatMap.mp h
  simp only [hexByte, List.mem_cons, List.not_mem_nil, or_false] at hc
  rcases hc with rfl | rfl
  · exact isHexDigit_hexDigit _
  · exact isHexDigit_hexDigit _

/-- **Bytes are known by their hexadecimal digits.** -/
theorem hex_injective : Function.Injective hex := by
  intro bs
  induction bs with
  | nil =>
    intro cs h
    cases cs with
    | nil => rfl
    | cons c cs => cases h
  | cons b bs ih =>
    intro cs h
    cases cs with
    | nil => cases h
    | cons c cs =>
      simp only [hex, List.flatMap_cons, hexByte, List.cons_append, List.nil_append,
        List.cons.injEq] at h
      obtain ⟨hhigh, hlow, hrest⟩ := h
      have hhigh' := congrArg Fin.val (hexDigit_injective hhigh)
      have hlow' := congrArg Fin.val (hexDigit_injective hlow)
      dsimp only at hhigh' hlow'
      have hbc : b = c := Fin.ext (by omega)
      rw [hbc, ih hrest]

/-! ## Parts -/

/-- A list is read item by item. -/
theorem mapM_eq_some_iff_forall₂ {α β : Type} {f : α → Option β} {l : List α} {m : List β} :
    l.mapM f = some m ↔ List.Forall₂ (fun a b => f a = some b) l m := by
  induction l generalizing m with
  | nil =>
    rw [List.mapM_nil, List.forall₂_nil_left_iff]
    exact Option.some_inj.trans eq_comm
  | cons a l ih =>
    rw [List.mapM_cons, List.forall₂_cons_left_iff]
    constructor
    · intro h
      obtain ⟨b, hb, h'⟩ := Option.bind_eq_some_iff.mp h
      obtain ⟨m', hm', h''⟩ := Option.bind_eq_some_iff.mp h'
      exact ⟨b, m', hb, ih.mp hm', (Option.some.inj h'').symm⟩
    · rintro ⟨b, m', hb, hm', rfl⟩
      rw [hb, ih.mpr hm']
      rfl

/-- A string is its trimmed part and what was trimmed. -/
theorem exists_eq_trimEnd_append (c : CodeUnit) (s : JsString) :
    ∃ n, s = trimEnd c s ++ List.replicate n c := by
  refine ⟨(s.rtakeWhile (· = c)).length, ?_⟩
  have hall : s.rtakeWhile (· = c) = List.replicate (s.rtakeWhile (· = c)).length c := by
    refine List.eq_replicate_iff.mpr ⟨rfl, fun d hd => ?_⟩
    simpa using List.mem_rtakeWhile_imp hd
  rw [← hall]
  exact List.rdropWhile_append_rtakeWhile.symm

/-- Trimming drops what was padded. -/
theorem trimEnd_append_replicate {c : CodeUnit} {s : JsString} (h : c ∉ s) (n : Nat) :
    trimEnd c (s ++ List.replicate n c) = s := by
  unfold trimEnd
  induction n with
  | zero =>
    rw [List.replicate_zero, List.append_nil]
    refine List.rdropWhile_eq_self_iff.mpr fun hne hlast => h ?_
    rw [← of_decide_eq_true hlast]
    exact List.getLast_mem hne
  | succ n ih =>
    rw [List.replicate_succ', ← List.append_assoc,
      List.rdropWhile_concat_pos (fun d => decide (d = c)) _ _ (decide_eq_true rfl), ih]


/-- What is in a joined string is a separator or in one of its parts. -/
theorem mem_intercalate {c separator : CodeUnit} {parts : List JsString}
    (h : c ∈ [separator].intercalate parts) : c = separator ∨ ∃ part ∈ parts, c ∈ part := by
  induction parts with
  | nil => cases h
  | cons part parts ih =>
    cases parts with
    | nil =>
      rw [List.intercalate_singleton] at h
      exact Or.inr ⟨part, List.mem_cons_self, h⟩
    | cons next parts =>
      rw [List.intercalate_cons_cons, List.mem_append, List.mem_append] at h
      rcases h with (hpart | hsep) | hrest
      · exact Or.inr ⟨part, List.mem_cons_self, hpart⟩
      · exact Or.inl (List.mem_singleton.mp hsep)
      · rcases ih hrest with hsep | ⟨other, hother, hc⟩
        · exact Or.inl hsep
        · exact Or.inr ⟨other, List.mem_cons_of_mem _ hother, hc⟩

/-! ## Comparison without an early end -/

/-- Or-ing differences leaves zero where there is none. -/
theorem foldl_or_eq_zero_iff {f : Nat → Nat} {indices : List Nat} {start : Nat} :
    indices.foldl (fun difference index => difference ||| f index) start = 0 ↔
      start = 0 ∧ ∀ index ∈ indices, f index = 0 := by
  induction indices generalizing start with
  | nil => simp
  | cons index indices ih =>
    rw [List.foldl_cons, ih, Nat.or_eq_zero_iff, List.forall_mem_cons, and_assoc]

theorem xor_eq_zero_iff {m n : Nat} : m ^^^ n = 0 ↔ m = n := by
  constructor
  · intro h
    calc m = m ^^^ (m ^^^ n) := by rw [h, Nat.xor_zero]
      _ = n := by rw [← Nat.xor_assoc, Nat.xor_self, Nat.zero_xor]
  · rintro rfl
    exact Nat.xor_self m

end Web
