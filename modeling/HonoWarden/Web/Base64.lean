import HonoWarden.Web.Text

/-!
# Base64

Bytes as groups of six bits (`Sextet`), three bytes in four sextets; the two or four bits left over
at the end are dropped when the sextets are read. `btoa` and `atob` are the functions of a web
platform: `btoa` pads with `=`, `atob` removes ASCII whitespace and the padding and accepts any bits
left over. `base64UrlEncode` is the usual composition that writes `-` and `_` for `+` and `/` and no
padding.

Results:
* **`ofSextets_toSextets`**: bytes read back from their sextets;
* **`atob_btoa`**, **`atob_base64UrlEncode`**: bytes read back from their base64, padded or not;
* `base64UrlEncode_injective`, `base64UrlEncode_length`.
-/

namespace Web

/-- Six bits. -/
abbrev Sextet := Fin 64

/-! ## Bytes and sextets -/

def toSextets : List Byte → List Sextet
  | [] => []
  | [a] => [⟨a / 4, by omega⟩, ⟨a % 4 * 16, by omega⟩]
  | [a, b] => [⟨a / 4, by omega⟩, ⟨a % 4 * 16 + b / 16, by omega⟩, ⟨b % 16 * 4, by omega⟩]
  | a :: b :: c :: rest =>
    ⟨a / 4, by omega⟩ :: ⟨a % 4 * 16 + b / 16, by omega⟩ :: ⟨b % 16 * 4 + c / 64, by omega⟩ ::
      ⟨c % 64, by omega⟩ :: toSextets rest

def ofSextets : List Sextet → List Byte
  | [] => []
  | [_] => []
  | [w, x] => [⟨w * 4 + x / 16, by omega⟩]
  | [w, x, y] => [⟨w * 4 + x / 16, by omega⟩, ⟨x % 16 * 16 + y / 4, by omega⟩]
  | w :: x :: y :: z :: rest =>
    ⟨w * 4 + x / 16, by omega⟩ :: ⟨x % 16 * 16 + y / 4, by omega⟩ ::
      ⟨y % 4 * 64 + z, by omega⟩ :: ofSextets rest

/-- **Bytes read back from their sextets.** -/
theorem ofSextets_toSextets (bytes : List Byte) : ofSextets (toSextets bytes) = bytes := by
  induction bytes using toSextets.induct with
  | case1 => rfl
  | case2 a =>
    simp only [toSextets, ofSextets, List.cons.injEq, and_true]
    exact Fin.ext (by dsimp only; omega)
  | case3 a b =>
    simp only [toSextets, ofSextets, List.cons.injEq, and_true]
    exact ⟨Fin.ext (by dsimp only; omega), Fin.ext (by dsimp only; omega)⟩
  | case4 a b c rest ih =>
    simp only [toSextets, ofSextets, ih, List.cons.injEq, and_true]
    exact ⟨Fin.ext (by dsimp only; omega), Fin.ext (by dsimp only; omega),
      Fin.ext (by dsimp only; omega)⟩

theorem toSextets_length (bytes : List Byte) :
    (toSextets bytes).length = (bytes.length * 8 + 5) / 6 := by
  induction bytes using toSextets.induct with
  | case1 => rfl
  | case2 a => simp [toSextets]
  | case3 a b => simp [toSextets]
  | case4 a b c rest ih =>
    simp only [toSextets, List.length_cons, ih]
    omega

theorem ofSextets_length (sextets : List Sextet) :
    (ofSextets sextets).length = sextets.length * 6 / 8 := by
  induction sextets using ofSextets.induct with
  | case1 => rfl
  | case2 w => simp [ofSextets]
  | case3 w x => simp [ofSextets]
  | case4 w x y => simp [ofSextets]
  | case5 w x y z rest ih =>
    simp only [ofSextets, List.length_cons, ih]
    omega

/-- No bytes leave one sextet over. -/
theorem toSextets_length_mod (bytes : List Byte) : (toSextets bytes).length % 4 ≠ 1 := by
  rw [toSextets_length]
  omega

/-! ## The alphabet -/

/-- The code unit of a sextet. -/
def sextetUnit (x : Sextet) : CodeUnit :=
  if x < 26 then ⟨65 + x, by omega⟩
  else if x < 52 then ⟨71 + x, by omega⟩
  else if x < 62 then ⟨x - 4, by omega⟩
  else if x = 62 then 43 else 47

/-- The sextet of a code unit of the alphabet. -/
def unitSextet (c : CodeUnit) : Option Sextet :=
  if h : 65 ≤ c.val ∧ c.val ≤ 90 then some ⟨c - 65, by omega⟩
  else if h : 97 ≤ c.val ∧ c.val ≤ 122 then some ⟨c - 71, by omega⟩
  else if h : 48 ≤ c.val ∧ c.val ≤ 57 then some ⟨c + 4, by omega⟩
  else if c = 43 then some 62
  else if c = 47 then some 63
  else none

theorem unitSextet_sextetUnit (x : Sextet) : unitSextet (sextetUnit x) = some x := by
  revert x
  decide

theorem sextetUnit_injective : Function.Injective sextetUnit := by
  intro x y h
  have h' := congrArg unitSextet h
  rw [unitSextet_sextetUnit, unitSextet_sextetUnit] at h'
  exact Option.some.inj h'

theorem sextetUnit_of_unitSextet {c : CodeUnit} {x : Sextet} (h : unitSextet c = some x) :
    sextetUnit x = c := by
  unfold unitSextet at h
  split_ifs at h with hupper hlower hdigit hplus hslash
  · obtain rfl := Option.some.inj h
    have hlt : (⟨c - 65, by omega⟩ : Sextet) < 26 := by
      rw [Fin.lt_def]
      dsimp only
      omega
    rw [sextetUnit, if_pos hlt]
    exact Fin.ext (by dsimp only; omega)
  · obtain rfl := Option.some.inj h
    have hge : ¬ (⟨c - 71, by omega⟩ : Sextet) < 26 := by
      rw [Fin.lt_def]
      dsimp only
      omega
    have hlt : (⟨c - 71, by omega⟩ : Sextet) < 52 := by
      rw [Fin.lt_def]
      dsimp only
      omega
    rw [sextetUnit, if_neg hge, if_pos hlt]
    exact Fin.ext (by dsimp only; omega)
  · obtain rfl := Option.some.inj h
    have hge : ¬ (⟨c + 4, by omega⟩ : Sextet) < 26 := by
      rw [Fin.lt_def]
      dsimp only
      omega
    have hge' : ¬ (⟨c + 4, by omega⟩ : Sextet) < 52 := by
      rw [Fin.lt_def]
      dsimp only
      omega
    have hlt : (⟨c + 4, by omega⟩ : Sextet) < 62 := by
      rw [Fin.lt_def]
      dsimp only
      omega
    rw [sextetUnit, if_neg hge, if_neg hge', if_pos hlt]
    exact Fin.ext (by dsimp only; omega)
  · obtain rfl := Option.some.inj h
    exact hplus.symm
  · obtain rfl := Option.some.inj h
    exact hslash.symm

/-- A string of the alphabet is one of sextets. -/
theorem exists_map_sextetUnit {s : JsString} (h : ∀ c ∈ s, ∃ x, c = sextetUnit x) :
    ∃ xs : List Sextet, s = xs.map sextetUnit := by
  induction s with
  | nil => exact ⟨[], rfl⟩
  | cons c s ih =>
    obtain ⟨x, rfl⟩ := h c List.mem_cons_self
    obtain ⟨xs, rfl⟩ := ih fun d hd => h d (List.mem_cons_of_mem _ hd)
    exact ⟨x :: xs, rfl⟩

/-- The sextets of a string of the alphabet. -/
def readSextets (s : JsString) : Option (List Sextet) := s.mapM unitSextet

theorem unitSextet_eq_some_iff {c : CodeUnit} {x : Sextet} :
    unitSextet c = some x ↔ c = sextetUnit x := by
  constructor
  · exact fun h => (sextetUnit_of_unitSextet h).symm
  · rintro rfl
    exact unitSextet_sextetUnit x

theorem readSextets_eq_some_iff {s : JsString} {xs : List Sextet} :
    readSextets s = some xs ↔ s = xs.map sextetUnit := by
  unfold readSextets
  rw [mapM_eq_some_iff_forall₂, ← List.forall₂_eq_eq_eq, List.forall₂_map_right_iff]
  simp only [unitSextet_eq_some_iff]

theorem readSextets_map (xs : List Sextet) : readSextets (xs.map sextetUnit) = some xs :=
  readSextets_eq_some_iff.mpr rfl

/-! ## `btoa` and `atob` -/

/-- `=`. -/
abbrev padding : CodeUnit := 61

theorem sextetUnit_ne_padding (x : Sextet) : sextetUnit x ≠ padding := by
  revert x
  decide

/-- `btoa` of the string of the bytes. -/
def btoa (bytes : List Byte) : JsString :=
  padEnd (((toSextets bytes).length + 3) / 4 * 4) padding ((toSextets bytes).map sextetUnit)

/-- ASCII whitespace. -/
def IsAsciiSpace (c : CodeUnit) : Prop := c = 9 ∨ c = 10 ∨ c = 12 ∨ c = 13 ∨ c = 32

instance : DecidablePred IsAsciiSpace := fun _ => inferInstanceAs (Decidable (_ ∨ _))

/-- Drop one or two `=` from the end of a string whose length is a multiple of four. -/
def dropPadding (s : JsString) : JsString :=
  if s.length % 4 = 0 then
    if s.getLast? = some padding then
      if s.dropLast.getLast? = some padding then s.dropLast.dropLast else s.dropLast
    else s
  else s

/-- `atob`, whose result is a string of bytes; `none` is an exception. -/
def atob (s : JsString) : Option (List Byte) :=
  let data := dropPadding (s.filter fun c => ¬ IsAsciiSpace c)
  if data.length % 4 = 1 then none else (readSextets data).map ofSextets

theorem sextetUnit_not_space (x : Sextet) : ¬ IsAsciiSpace (sextetUnit x) := by
  revert x
  decide

theorem not_isAsciiSpace_padding : ¬ IsAsciiSpace padding := by decide

/-- Up to two `=` at the end of a string of the alphabet are dropped. -/
theorem dropPadding_eq (xs : List Sextet) {n : Nat} (hn : n ≤ 2)
    (hlen : n ≠ 0 → (xs.length + n) % 4 = 0) :
    dropPadding (xs.map sextetUnit ++ List.replicate n padding) = xs.map sextetUnit := by
  have hlast : (xs.map sextetUnit).getLast? ≠ some padding := by
    rw [List.getLast?_map]
    intro h
    obtain ⟨x, -, hx⟩ := Option.map_eq_some_iff.mp h
    exact sextetUnit_ne_padding x hx
  rcases n with _ | _ | _ | n
  · rw [List.replicate_zero, List.append_nil, dropPadding, if_neg hlast, ite_self]
  · have hmod : (xs.map sextetUnit ++ List.replicate (0 + 1) padding).length % 4 = 0 := by
      simpa using hlen (by decide)
    rw [dropPadding, if_pos hmod]
    simpa using fun x hx hpad => absurd hpad (sextetUnit_ne_padding x)
  · have hmod : (xs.map sextetUnit ++ List.replicate (0 + 1 + 1) padding).length % 4 = 0 := by
      simpa using hlen (by decide)
    rw [dropPadding, if_pos hmod]
    simp [List.replicate_succ, List.dropLast_append_of_ne_nil]
  · omega

/-- `atob` reads a string of the alphabet, padded or not. -/
theorem atob_eq {xs : List Sextet} (hmod : xs.length % 4 ≠ 1) {n : Nat} (hn : n ≤ 2)
    (hlen : n ≠ 0 → (xs.length + n) % 4 = 0) :
    atob (xs.map sextetUnit ++ List.replicate n padding) = some (ofSextets xs) := by
  have hfilter : (xs.map sextetUnit ++ List.replicate n padding).filter
      (fun c => ¬ IsAsciiSpace c) = xs.map sextetUnit ++ List.replicate n padding := by
    refine List.filter_eq_self.mpr fun c hc => decide_eq_true ?_
    rcases List.mem_append.mp hc with hc | hc
    · obtain ⟨x, -, rfl⟩ := List.mem_map.mp hc
      exact sextetUnit_not_space x
    · rw [List.eq_of_mem_replicate hc]
      exact not_isAsciiSpace_padding
  unfold atob
  rw [hfilter, dropPadding_eq xs hn hlen]
  dsimp only
  rw [List.length_map, if_neg hmod, readSextets_map]
  rfl

/-- `btoa` with `-` for `+`, `_` for `/` and no padding. -/
def base64UrlEncode (bytes : List Byte) : JsString :=
  trimEnd padding (replaceAll 47 95 (replaceAll 43 45 (btoa bytes)))

/-- The value with `+` for `-` and `/` for `_`. -/
def fromUrlAlphabet (value : JsString) : JsString := replaceAll 95 47 (replaceAll 45 43 value)

/-- `value.padEnd(Math.ceil(value.length / 4) * 4, '=')`. -/
def padBase64 (value : JsString) : JsString := padEnd ((value.length + 3) / 4 * 4) padding value

/-- `/^[A-Za-z0-9_-]$/`. -/
def IsUrlUnit (c : CodeUnit) : Prop :=
  (65 ≤ c ∧ c ≤ 90) ∨ (97 ≤ c ∧ c ≤ 122) ∨ (48 ≤ c ∧ c ≤ 57) ∨ c = 95 ∨ c = 45

instance : DecidablePred IsUrlUnit := fun _ => inferInstanceAs (Decidable (_ ∨ _))

/-- `/^[A-Za-z0-9_-]{least,most}$/`. -/
def IsUrlText (least most : Nat) (text : JsString) : Prop :=
  least ≤ text.length ∧ text.length ≤ most ∧ text.all (fun c => IsUrlUnit c) = true

instance (least most : Nat) (text : JsString) : Decidable (IsUrlText least most text) :=
  inferInstanceAs (Decidable (_ ∧ _))

/-- The code unit of a sextet in the URL alphabet. -/
def sextetUrlUnit (x : Sextet) : CodeUnit :=
  if x = 62 then 45 else if x = 63 then 95 else sextetUnit x

theorem isUrlUnit_sextetUrlUnit (x : Sextet) : IsUrlUnit (sextetUrlUnit x) := by
  revert x
  decide

theorem sextetUrlUnit_ne_padding (x : Sextet) : sextetUrlUnit x ≠ padding := by
  revert x
  decide

theorem toUrlAlphabet_map (xs : List Sextet) :
    replaceAll 47 95 (replaceAll 43 45 (xs.map sextetUnit)) = xs.map sextetUrlUnit := by
  simp only [replaceAll, List.map_map]
  have h : ∀ x, (if (if sextetUnit x = 43 then 45 else sextetUnit x) = 47 then 95
      else if sextetUnit x = 43 then 45 else sextetUnit x) = sextetUrlUnit x := by decide
  exact List.map_congr_left fun x _ => h x

theorem fromUrlAlphabet_map (xs : List Sextet) :
    fromUrlAlphabet (xs.map sextetUrlUnit) = xs.map sextetUnit := by
  simp only [fromUrlAlphabet, replaceAll, List.map_map]
  have h : ∀ x, (if (if sextetUrlUnit x = 45 then 43 else sextetUrlUnit x) = 95 then 47
      else if sextetUrlUnit x = 45 then 43 else sextetUrlUnit x) = sextetUnit x := by decide
  exact List.map_congr_left fun x _ => h x

theorem base64UrlEncode_eq (bytes : List Byte) :
    base64UrlEncode bytes = (toSextets bytes).map sextetUrlUnit := by
  unfold base64UrlEncode btoa padEnd
  have hpad (n : Nat) : replaceAll 47 95 (replaceAll 43 45 (List.replicate n padding)) =
      List.replicate n padding := by
    unfold replaceAll
    rw [List.map_replicate, List.map_replicate]
    rfl
  have hsplit (s t : JsString) : replaceAll 47 95 (replaceAll 43 45 (s ++ t)) =
      replaceAll 47 95 (replaceAll 43 45 s) ++ replaceAll 47 95 (replaceAll 43 45 t) := by
    simp [replaceAll]
  rw [hsplit, hpad, toUrlAlphabet_map]
  refine trimEnd_append_replicate (fun h => ?_) _
  obtain ⟨x, -, hx⟩ := List.mem_map.mp h
  exact sextetUrlUnit_ne_padding x hx

theorem base64UrlEncode_length (bytes : List Byte) :
    (base64UrlEncode bytes).length = (bytes.length * 8 + 5) / 6 := by
  rw [base64UrlEncode_eq, List.length_map, toSextets_length]

theorem isUrlUnit_of_mem_base64UrlEncode {bytes : List Byte} {c : CodeUnit}
    (h : c ∈ base64UrlEncode bytes) : IsUrlUnit c := by
  rw [base64UrlEncode_eq] at h
  obtain ⟨x, -, rfl⟩ := List.mem_map.mp h
  exact isUrlUnit_sextetUrlUnit x

/-- **Bytes read back from their base64url**, without padding. -/
theorem atob_base64UrlEncode (bytes : List Byte) :
    atob (fromUrlAlphabet (base64UrlEncode bytes)) = some bytes := by
  have h := atob_eq (toSextets_length_mod bytes) (Nat.zero_le 2) fun h => absurd rfl h
  rw [List.replicate_zero, List.append_nil, ofSextets_toSextets] at h
  rw [base64UrlEncode_eq, fromUrlAlphabet_map, h]

/-- The same with the padding put back. -/
theorem atob_padBase64_base64UrlEncode (bytes : List Byte) :
    atob (padBase64 (fromUrlAlphabet (base64UrlEncode bytes))) = some bytes := by
  have hmod := toSextets_length_mod bytes
  rw [base64UrlEncode_eq, fromUrlAlphabet_map]
  unfold padBase64 padEnd
  rw [List.length_map, atob_eq hmod (by omega) (by omega), ofSextets_toSextets]

theorem base64UrlEncode_injective : Function.Injective base64UrlEncode := by
  intro bs cs h
  have h' := atob_base64UrlEncode bs
  rw [h, atob_base64UrlEncode cs] at h'
  exact (Option.some.inj h').symm

end Web
