import HonoWarden.Web.JsonSyntax
import HonoWarden.Web.Utf8

/-!
# Numbers and strings of a JSON text

A number is a word of the grammar `isNumberText`. What the numbers of a host must do is
`JsonNumber`: be read from a text, be written, and be read back as they were written, but for those
that JSON cannot write (infinities, and the negative zero, which is written as `0`).

A string is read by `unescape` and written by `quoteText`, in the well-formed way: a lone surrogate
is escaped.

Results:
* `isWordUnit_of_isNumberUnit`: a number is one word;
* **`unescape_quoteText`**: a string is read back from its text;
* `stringText_of_unescape`, `wellFormed_quoteText`: what such texts look like.
-/

namespace Web

/-! ## Numbers -/

/-- Only digits, and at least one. -/
def isDigits (s : JsString) : Bool := !s.isEmpty && s.all fun c => IsDigit c

/-- `(?:[eE][+-]?\d+)?`. -/
def isExponent : JsString → Bool
  | [] => true
  | c :: s =>
    (c = 101 || c = 69) && isDigits (if s.head? = some 43 ∨ s.head? = some 45 then s.tail else s)

/-- `(?:\.\d+)?` and what may follow. -/
def isFraction : JsString → Bool
  | [] => true
  | c :: s =>
    if c = 46 then
      match s with
      | [] => false
      | d :: s => IsDigit d && isExponent (s.dropWhile fun c => IsDigit c)
    else isExponent (c :: s)

/-- `(?:0|[1-9]\d*)` and what may follow. -/
def isUnsigned : JsString → Bool
  | [] => false
  | c :: s =>
    if c = 48 then isFraction s
    else 49 ≤ c && c ≤ 57 && isFraction (s.dropWhile fun c => IsDigit c)

/-- A JSON number. -/
def isNumberText (s : JsString) : Bool := isUnsigned (if s.head? = some 45 then s.tail else s)

/-- `Number.MAX_SAFE_INTEGER`. -/
def maxSafeInteger : Int := 9007199254740991

/-- `Number.isSafeInteger`, of an integer. -/
def IsSafeInteger (z : Int) : Prop := -maxSafeInteger ≤ z ∧ z ≤ maxSafeInteger

instance : DecidablePred IsSafeInteger := fun _ => inferInstanceAs (Decidable (_ ∧ _))

/-- The numbers of a host. -/
class JsonNumber (ν : Type) where
  /-- The value of a JSON number. -/
  read : JsString → ν
  /-- What `JSON.stringify` writes for a number. -/
  print : ν → JsString
  /-- A number that is written exactly: finite, and not the negative zero. -/
  Exact : ν → Prop
  /-- The value of a number that is an integer. -/
  integer? : ν → Option Int
  ofInt : Int → ν
  isNumberText_print {x : ν} : Exact x → isNumberText (print x) = true
  read_print {x : ν} : Exact x → read (print x) = x
  exact_ofInt {z : Int} : IsSafeInteger z → Exact (ofInt z)
  integer?_ofInt {z : Int} : IsSafeInteger z → integer? (ofInt z) = some z

/-- A unit of a number. -/
def IsNumberUnit (c : CodeUnit) : Prop :=
  IsDigit c ∨ c = 43 ∨ c = 45 ∨ c = 46 ∨ c = 69 ∨ c = 101

instance : DecidablePred IsNumberUnit := fun _ => inferInstanceAs (Decidable (_ ∨ _))

theorem forall_of_dropWhile {p : CodeUnit → Bool} {q : CodeUnit → Prop} {s : JsString}
    (hp : ∀ c, p c = true → q c) (h : ∀ c ∈ s.dropWhile p, q c) : ∀ c ∈ s, q c := by
  intro c hc
  rw [← List.takeWhile_append_dropWhile (p := p) (l := s)] at hc
  rcases List.mem_append.mp hc with htake | hdrop
  · exact hp c (List.mem_takeWhile_imp htake)
  · exact h c hdrop

theorem forall_of_isDigits {s : JsString} (h : isDigits s = true) : ∀ c ∈ s, IsNumberUnit c := by
  simp only [isDigits, Bool.and_eq_true, List.all_eq_true, decide_eq_true_eq] at h
  exact fun c hc => Or.inl (h.2 c hc)

theorem forall_of_isExponent {s : JsString} (h : isExponent s = true) :
    ∀ c ∈ s, IsNumberUnit c := by
  cases s with
  | nil => exact fun c hc => absurd hc List.not_mem_nil
  | cons c s =>
    simp only [isExponent, Bool.and_eq_true, Bool.or_eq_true, decide_eq_true_eq] at h
    obtain ⟨hletter, hdigits⟩ := h
    refine List.forall_mem_cons.mpr ⟨?_, ?_⟩
    · rcases hletter with rfl | rfl
      · decide
      · decide
    · split_ifs at hdigits with hsign
      · cases s with
        | nil => exact fun d hd => absurd hd List.not_mem_nil
        | cons d s =>
          refine List.forall_mem_cons.mpr ⟨?_, forall_of_isDigits hdigits⟩
          simp only [List.head?_cons, Option.some.injEq] at hsign
          rcases hsign with rfl | rfl
          · decide
          · decide
      · exact forall_of_isDigits hdigits

theorem isNumberUnit_of_isDigit (c : CodeUnit) (h : decide (IsDigit c) = true) : IsNumberUnit c :=
  Or.inl (of_decide_eq_true h)

theorem forall_of_isFraction {s : JsString} (h : isFraction s = true) :
    ∀ c ∈ s, IsNumberUnit c := by
  cases s with
  | nil => exact fun c hc => absurd hc List.not_mem_nil
  | cons c s =>
    unfold isFraction at h
    dsimp only at h
    split_ifs at h with hdot
    · cases s with
      | nil => cases h
      | cons d s =>
        dsimp only at h
        rw [Bool.and_eq_true] at h
        refine List.forall_mem_cons.mpr ⟨?_, List.forall_mem_cons.mpr ⟨?_, ?_⟩⟩
        · rw [hdot]
          decide
        · exact isNumberUnit_of_isDigit d h.1
        · exact forall_of_dropWhile isNumberUnit_of_isDigit (forall_of_isExponent h.2)
    · exact forall_of_isExponent h

theorem forall_of_isUnsigned {s : JsString} (h : isUnsigned s = true) :
    ∀ c ∈ s, IsNumberUnit c := by
  cases s with
  | nil => cases h
  | cons c s =>
    rw [isUnsigned] at h
    split_ifs at h with hzero
    · refine List.forall_mem_cons.mpr ⟨?_, forall_of_isFraction h⟩
      rw [hzero]
      decide
    · simp only [Bool.and_eq_true, decide_eq_true_eq] at h
      obtain ⟨⟨hlow, hhigh⟩, hrest⟩ := h
      refine List.forall_mem_cons.mpr ⟨Or.inl ⟨?_, hhigh⟩, ?_⟩
      · exact le_trans (by decide) hlow
      · exact forall_of_dropWhile isNumberUnit_of_isDigit (forall_of_isFraction hrest)

/-- The units of a number. -/
theorem forall_of_isNumberText {s : JsString} (h : isNumberText s = true) :
    s ≠ [] ∧ ∀ c ∈ s, IsNumberUnit c := by
  cases s with
  | nil => cases h
  | cons c s =>
    refine ⟨List.cons_ne_nil _ _, ?_⟩
    rw [isNumberText] at h
    split_ifs at h with hsign
    · obtain rfl := Option.some.inj hsign
      exact List.forall_mem_cons.mpr ⟨by decide, forall_of_isUnsigned h⟩
    · exact forall_of_isUnsigned h

theorem isWordUnit_of_isNumberUnit {c : CodeUnit} (h : IsNumberUnit c) :
    IsWordUnit c ∧ ¬ IsHigh c ∧ ¬ IsLow c := by
  rcases h with ⟨hlow, hhigh⟩ | rfl | rfl | rfl | rfl | rfl
  · rw [Fin.le_def] at hlow hhigh
    have hlow' : 48 ≤ c.val := hlow
    have hhigh' : c.val ≤ 57 := hhigh
    have hne (n : CodeUnit) (hn : n.val < 48 ∨ 57 < n.val) : c ≠ n := by
      rintro rfl
      omega
    refine ⟨⟨hne _ (by decide), ?_, ?_⟩, ?_, ?_⟩
    · rw [punctuation, if_neg (hne _ (by decide)), if_neg (hne _ (by decide)),
        if_neg (hne _ (by decide)), if_neg (hne _ (by decide)), if_neg (hne _ (by decide)),
        if_neg (hne _ (by decide))]
    · rintro (h | h | h | h)
      · exact hne _ (by decide) h
      · exact hne _ (by decide) h
      · exact hne _ (by decide) h
      · exact hne _ (by decide) h
    · unfold IsHigh
      omega
    · unfold IsLow
      omega
  · decide
  · decide
  · decide
  · decide
  · decide

/-! ## Strings -/

/-- The value of a hexadecimal digit. -/
def hexValue (c : CodeUnit) : Option Nat :=
  if 48 ≤ c.val ∧ c.val ≤ 57 then some (c - 48)
  else if 65 ≤ c.val ∧ c.val ≤ 70 then some (c - 55)
  else if 97 ≤ c.val ∧ c.val ≤ 102 then some (c - 87)
  else none

/-- Where a string is read: between escapes, behind a backslash, or with digits of a `\u` to come. -/
inductive EscapeState where
  | plain
  | slash
  | digits (missing value : Nat)

/-- Read what stands between the quotes; control characters must be escaped. -/
def unescapeFrom : EscapeState → JsString → Option JsString
  | .plain, [] => some []
  | .slash, [] => none
  | .digits _ _, [] => none
  | .plain, c :: s =>
    if c = backslash then unescapeFrom .slash s
    else if c = quoteUnit ∨ c.val < 0x20 then none
    else (unescapeFrom .plain s).map (c :: ·)
  | .slash, c :: s =>
    if c = 117 then unescapeFrom (.digits 4 0) s
    else
      match escapeUnit c with
      | some u => (unescapeFrom .plain s).map (u :: ·)
      | none => none
  | .digits missing value, c :: s =>
    match hexValue c with
    | some d =>
      if missing = 1 then (unescapeFrom .plain s).map (Fin.ofNat _ (value * 16 + d) :: ·)
      else unescapeFrom (.digits (missing - 1) (value * 16 + d)) s
    | none => none

/-- The string whose text it is. -/
def unescape (raw : JsString) : Option JsString := unescapeFrom .plain raw

/-- `\u` and four digits. -/
def unicodeEscape (u : CodeUnit) : JsString :=
  [92, 117, hexDigit ⟨u / 4096, by omega⟩, hexDigit ⟨u / 256 % 16, by omega⟩,
    hexDigit ⟨u / 16 % 16, by omega⟩, hexDigit ⟨u % 16, by omega⟩]

/-- How a unit is written that is no half of a surrogate pair. -/
def quoteUnitText (u : CodeUnit) : JsString :=
  if u = 8 then [92, 98]
  else if u = 9 then [92, 116]
  else if u = 10 then [92, 110]
  else if u = 12 then [92, 102]
  else if u = 13 then [92, 114]
  else if u = 34 then [92, 34]
  else if u = 92 then [92, 92]
  else if u.val < 0x20 ∨ IsHigh u ∨ IsLow u then unicodeEscape u
  else [u]

/-- How a string is written between its quotes. -/
def quoteText : JsString → JsString
  | [] => []
  | [u] => quoteUnitText u
  | u :: v :: rest =>
    if IsHigh u ∧ IsLow v then u :: v :: quoteText rest
    else quoteUnitText u ++ quoteText (v :: rest)

/-- A string with its quotes. -/
def quote (s : JsString) : JsString := quoteUnit :: (quoteText s ++ [quoteUnit])

theorem hexValue_hexDigit (n : Fin 16) : hexValue (hexDigit n) = some n.val := by
  revert n
  decide

/-- A unit that stands for itself. -/
theorem unescapeFrom_plain {u : CodeUnit} {rest : JsString} (hslash : u ≠ 92) (hquote : u ≠ 34)
    (hcontrol : ¬ u.val < 0x20) :
    unescapeFrom .plain (u :: rest) = (unescapeFrom .plain rest).map (u :: ·) := by
  rw [unescapeFrom, if_neg hslash, if_neg (not_or.mpr ⟨hquote, hcontrol⟩)]

theorem unescapeFrom_letter {u c : CodeUnit} {rest : JsString} (hne : c ≠ 117)
    (h : escapeUnit c = some u) :
    unescapeFrom .plain (92 :: c :: rest) = (unescapeFrom .plain rest).map (u :: ·) := by
  rw [unescapeFrom, if_pos rfl, unescapeFrom, if_neg hne, h]

theorem unescapeFrom_unicodeEscape (u : CodeUnit) (rest : JsString) :
    unescapeFrom .plain (unicodeEscape u ++ rest) = (unescapeFrom .plain rest).map (u :: ·) := by
  have hvalue : Fin.ofNat 65536
      ((((0 * 16 + u.val / 4096) * 16 + u.val / 256 % 16) * 16 + u.val / 16 % 16) * 16 +
        u.val % 16) = u := by
    refine Fin.ext ?_
    rw [Fin.val_ofNat]
    omega
  unfold unicodeEscape
  simp only [List.cons_append, List.nil_append]
  rw [unescapeFrom, if_pos rfl, unescapeFrom, if_pos rfl, unescapeFrom, hexValue_hexDigit]
  dsimp only
  rw [if_neg (by decide), unescapeFrom, hexValue_hexDigit]
  dsimp only
  rw [if_neg (by decide), unescapeFrom, hexValue_hexDigit]
  dsimp only
  rw [if_neg (by decide), unescapeFrom, hexValue_hexDigit]
  dsimp only
  rw [if_pos (by decide), hvalue]

theorem unescapeFrom_quoteUnitText (u : CodeUnit) (rest : JsString) :
    unescapeFrom .plain (quoteUnitText u ++ rest) = (unescapeFrom .plain rest).map (u :: ·) := by
  unfold quoteUnitText
  split_ifs with h1 h2 h3 h4 h5 h6 h7 h8
  · rw [h1]
    exact unescapeFrom_letter (by decide) (by decide)
  · rw [h2]
    exact unescapeFrom_letter (by decide) (by decide)
  · rw [h3]
    exact unescapeFrom_letter (by decide) (by decide)
  · rw [h4]
    exact unescapeFrom_letter (by decide) (by decide)
  · rw [h5]
    exact unescapeFrom_letter (by decide) (by decide)
  · rw [h6]
    exact unescapeFrom_letter (by decide) (by decide)
  · rw [h7]
    exact unescapeFrom_letter (by decide) (by decide)
  · exact unescapeFrom_unicodeEscape u rest
  · exact unescapeFrom_plain h7 h6 fun h => h8 (Or.inl h)

/-- **A string is read back from its text.** -/
theorem unescape_quoteText (s : JsString) : unescape (quoteText s) = some s := by
  unfold unescape
  induction s using quoteText.induct with
  | case1 => rfl
  | case2 u =>
    have h := unescapeFrom_quoteUnitText u []
    rw [List.append_nil] at h
    rw [quoteText, h]
    rfl
  | case3 u v rest hpair ih =>
    have hu := hpair.1.1
    have hv := hpair.2.1
    have hne (n : CodeUnit) (hn : n.val < 0xd800) : u ≠ n ∧ v ≠ n := by
      constructor
      · rintro rfl
        omega
      · rintro rfl
        omega
    rw [quoteText, if_pos hpair, unescapeFrom_plain (hne 92 (by decide)).1 (hne 34 (by decide)).1
      (by omega), unescapeFrom_plain (hne 92 (by decide)).2 (hne 34 (by decide)).2 (by omega), ih]
    rfl
  | case4 u v rest hpair ih =>
    rw [quoteText, if_neg hpair, unescapeFrom_quoteUnitText, ih]
    rfl

theorem ne_of_hexValue {c : CodeUnit} {d : Nat} (h : hexValue c = some d) :
    c ≠ quoteUnit ∧ c ≠ backslash := by
  constructor
  · rintro rfl
    cases h
  · rintro rfl
    cases h

/-- A string that can be read is the text of a string; behind a backslash it begins with the letter
of an escape. -/
theorem stringText_of_unescapeFrom : ∀ {raw s : JsString} {st : EscapeState},
    unescapeFrom st raw = some s →
      match st with
      | .slash => ∃ c rest, raw = c :: rest ∧ IsEscapeLetter c ∧ StringText rest
      | _ => StringText raw
  | [], s, .plain, _ => .nil
  | c :: raw, s, .plain, h => by
    rw [unescapeFrom] at h
    split_ifs at h with hslash hbad
    · obtain ⟨d, rest, rfl, hd, hrest⟩ := stringText_of_unescapeFrom h
      rw [hslash]
      exact .escape hd hrest
    · obtain ⟨hquote, -⟩ := not_or.mp hbad
      obtain ⟨s', hs', -⟩ := Option.map_eq_some_iff.mp h
      exact .unit hquote hslash (stringText_of_unescapeFrom hs')
  | c :: raw, s, .slash, h => by
    rw [unescapeFrom] at h
    split_ifs at h with hu
    · exact ⟨c, raw, rfl, Or.inl hu, stringText_of_unescapeFrom h⟩
    · cases hletter : escapeUnit c with
      | none =>
        rw [hletter] at h
        cases h
      | some u =>
        rw [hletter] at h
        obtain ⟨s', hs', -⟩ := Option.map_eq_some_iff.mp h
        refine ⟨c, raw, rfl, Or.inr ?_, stringText_of_unescapeFrom hs'⟩
        rw [hletter]
        exact Option.some_ne_none u
  | c :: raw, s, .digits missing value, h => by
    rw [unescapeFrom] at h
    cases hdigit : hexValue c with
    | none =>
      rw [hdigit] at h
      cases h
    | some d =>
      rw [hdigit] at h
      dsimp only at h
      obtain ⟨hquote, hslash⟩ := ne_of_hexValue hdigit
      split_ifs at h with hlast
      · obtain ⟨s', hs', -⟩ := Option.map_eq_some_iff.mp h
        exact .unit hquote hslash (stringText_of_unescapeFrom hs')
      · exact .unit hquote hslash (stringText_of_unescapeFrom h)

theorem stringText_of_unescape {raw s : JsString} (h : unescape raw = some s) : StringText raw :=
  stringText_of_unescapeFrom h

theorem stringText_quoteText (s : JsString) : StringText (quoteText s) :=
  stringText_of_unescape (unescape_quoteText s)


theorem IsHigh.ne {u c : CodeUnit} (hu : IsHigh u) (hc : c.val < 0xd800) : u ≠ c := by
  rintro rfl
  have := hu.1
  omega

theorem wellFormed_unicodeEscape (u : CodeUnit) : WellFormed (unicodeEscape u) := by
  have hdigit : ∀ n : Fin 16, ¬ IsHigh (hexDigit n) ∧ ¬ IsLow (hexDigit n) := by decide
  refine wellFormed_of_forall fun c hc => ?_
  simp only [unicodeEscape, List.mem_cons, List.not_mem_nil, or_false] at hc
  rcases hc with rfl | rfl | rfl | rfl | rfl | rfl
  · decide
  · decide
  · exact hdigit _
  · exact hdigit _
  · exact hdigit _
  · exact hdigit _

theorem wellFormed_quoteUnitText (u : CodeUnit) : WellFormed (quoteUnitText u) := by
  have hpair : ∀ c : CodeUnit, ¬ IsHigh c ∧ ¬ IsLow c → WellFormed [92, c] := fun c hc =>
    .unit (by decide) (by decide) (.unit hc.1 hc.2 .nil)
  unfold quoteUnitText
  split_ifs with h1 h2 h3 h4 h5 h6 h7 h8
  · exact hpair 98 (by decide)
  · exact hpair 116 (by decide)
  · exact hpair 110 (by decide)
  · exact hpair 102 (by decide)
  · exact hpair 114 (by decide)
  · exact hpair 34 (by decide)
  · exact hpair 92 (by decide)
  · exact wellFormed_unicodeEscape u
  · obtain ⟨-, hhigh, hlow⟩ := not_or.mp h8 |>.imp_right not_or.mp
    exact .unit hhigh hlow .nil

/-- The text of a string has no lone surrogates. -/
theorem wellFormed_quoteText (s : JsString) : WellFormed (quoteText s) := by
  induction s using quoteText.induct with
  | case1 => exact .nil
  | case2 u => exact wellFormed_quoteUnitText u
  | case3 u v rest hpair ih =>
    rw [quoteText, if_pos hpair]
    exact .pair hpair.1 hpair.2 ih
  | case4 u v rest hpair ih =>
    rw [quoteText, if_neg hpair]
    exact (wellFormed_quoteUnitText u).append ih

theorem wellFormed_quote (s : JsString) : WellFormed (quote s) :=
  .unit (by decide) (by decide)
    ((wellFormed_quoteText s).append (.unit (by decide) (by decide) .nil))


end Web
