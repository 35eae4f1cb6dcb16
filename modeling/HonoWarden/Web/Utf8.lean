import HonoWarden.Web.Text

/-!
# UTF-8

`encodeUtf8` is `TextEncoder.encode`: surrogate pairs become one scalar value, a lone surrogate
becomes U+FFFD. `decodeUtf8` is the decoder of the Encoding Standard as the state machine it is
given as: a byte that cannot continue the sequence under way ends it with an error, and is read
again as the start of the next one. `TextDecoder.decode` replaces errors (`decodeText`) or throws on
them (`decodeTextFatal`), and drops a byte order mark.

Results:
* **`decodeUtf8_encode`**: the scalar values of a text are read back;
* **`decodeText_encodeUtf8`**, `decodeTextFatal_encodeUtf8`: so is every well-formed string that
  does not begin with a byte order mark;
* `encodeUtf8_injective`: well-formed strings are known by their bytes;
* `toText_js`: a text is read back from its code units.
-/

namespace Web

/-! ## Surrogates -/

/-- The first half of a surrogate pair. -/
def IsHigh (u : CodeUnit) : Prop := 0xd800 ≤ u.val ∧ u.val < 0xdc00

instance : DecidablePred IsHigh := fun _ => inferInstanceAs (Decidable (_ ∧ _))

/-- The second half of a surrogate pair. -/
def IsLow (u : CodeUnit) : Prop := 0xdc00 ≤ u.val ∧ u.val < 0xe000

instance : DecidablePred IsLow := fun _ => inferInstanceAs (Decidable (_ ∧ _))

/-- The scalar value of a surrogate pair. -/
def pairScalar (u v : CodeUnit) : Nat := 0x10000 + (u.val - 0xd800) * 0x400 + (v.val - 0xdc00)

/-- U+FFFD. -/
abbrev replacement : Nat := 0xfffd

/-- A Unicode scalar value. -/
def IsScalar (n : Nat) : Prop := n < 0xd800 ∨ (0xe000 ≤ n ∧ n < 0x110000)

instance : DecidablePred IsScalar := fun _ => inferInstanceAs (Decidable (_ ∨ _))

/-- The scalar value of a code unit on its own; U+FFFD for a lone surrogate. -/
def unitScalar (u : CodeUnit) : Nat := if IsHigh u ∨ IsLow u then replacement else u.val

/-- The scalar values of a string. -/
def scalars : JsString → List Nat
  | [] => []
  | [u] => [unitScalar u]
  | u :: v :: rest =>
    if IsHigh u ∧ IsLow v then pairScalar u v :: scalars rest
    else unitScalar u :: scalars (v :: rest)

/-- No lone surrogates. -/
inductive WellFormed : JsString → Prop where
  | nil : WellFormed []
  | pair {u v : CodeUnit} {s : JsString} :
      IsHigh u → IsLow v → WellFormed s → WellFormed (u :: v :: s)
  | unit {u : CodeUnit} {s : JsString} :
      ¬ IsHigh u → ¬ IsLow u → WellFormed s → WellFormed (u :: s)

/-- The code units of a scalar value. -/
def scalarUnits (n : Nat) : JsString :=
  if n < 0x10000 then [Fin.ofNat _ n]
  else [Fin.ofNat _ (0xd800 + (n - 0x10000) / 0x400), Fin.ofNat _ (0xdc00 + (n - 0x10000) % 0x400)]

section Surrogates

variable {u v : CodeUnit} {s t : JsString}

theorem isScalar_pairScalar (hu : IsHigh u) (hv : IsLow v) : IsScalar (pairScalar u v) := by
  unfold IsHigh at hu
  unfold IsLow at hv
  unfold IsScalar pairScalar
  omega

theorem isScalar_unitScalar (u : CodeUnit) : IsScalar (unitScalar u) := by
  unfold unitScalar
  split_ifs with h
  · decide
  · unfold IsHigh IsLow at h
    unfold IsScalar
    omega

theorem scalarUnits_pairScalar (hu : IsHigh u) (hv : IsLow v) :
    scalarUnits (pairScalar u v) = [u, v] := by
  unfold IsHigh at hu
  unfold IsLow at hv
  have hge : ¬ pairScalar u v < 0x10000 := by
    unfold pairScalar
    omega
  have hfirst : Fin.ofNat 65536 (0xd800 + (pairScalar u v - 0x10000) / 0x400) = u := by
    refine Fin.ext ?_
    rw [Fin.val_ofNat]
    unfold pairScalar
    omega
  have hsecond : Fin.ofNat 65536 (0xdc00 + (pairScalar u v - 0x10000) % 0x400) = v := by
    refine Fin.ext ?_
    rw [Fin.val_ofNat]
    unfold pairScalar
    omega
  rw [scalarUnits, if_neg hge, hfirst, hsecond]

theorem scalarUnits_val (u : CodeUnit) : scalarUnits u.val = [u] := by
  have hval : Fin.ofNat 65536 u.val = u := Fin.ext (Nat.mod_eq_of_lt u.isLt)
  rw [scalarUnits, if_pos u.isLt, hval]

theorem scalars_pair (hu : IsHigh u) (hv : IsLow v) :
    scalars (u :: v :: s) = pairScalar u v :: scalars s := by
  rw [scalars, if_pos ⟨hu, hv⟩]

theorem scalars_unit (hu : ¬ IsHigh u) (hl : ¬ IsLow u) :
    scalars (u :: s) = u.val :: scalars s := by
  have hunit : unitScalar u = u.val := if_neg (not_or.mpr ⟨hu, hl⟩)
  cases s with
  | nil => exact congrArg (· :: []) hunit
  | cons v s => rw [scalars, if_neg fun h => hu h.1, hunit]

theorem WellFormed.append (hs : WellFormed s) (ht : WellFormed t) : WellFormed (s ++ t) := by
  induction hs with
  | nil => exact ht
  | pair hu hv _ ih => exact .pair hu hv ih
  | unit hu hl _ ih => exact .unit hu hl ih

/-- A string without surrogates is well-formed. -/
theorem wellFormed_of_forall (h : ∀ u ∈ s, ¬ IsHigh u ∧ ¬ IsLow u) : WellFormed s := by
  induction s with
  | nil => exact .nil
  | cons u s ih =>
    obtain ⟨hu, hl⟩ := h u List.mem_cons_self
    exact .unit hu hl (ih fun v hv => h v (List.mem_cons_of_mem _ hv))

/-- A well-formed string is the text of its scalar values. -/
theorem flatMap_scalars (hs : WellFormed s) : (scalars s).flatMap scalarUnits = s := by
  induction hs with
  | nil => rfl
  | pair hu hv _ ih =>
    rw [scalars_pair hu hv, List.flatMap_cons, ih, scalarUnits_pairScalar hu hv]
    rfl
  | unit hu hl _ ih =>
    rw [scalars_unit hu hl, List.flatMap_cons, ih, scalarUnits_val]
    rfl

theorem isScalar_of_mem_scalars {n : Nat} (h : n ∈ scalars s) : IsScalar n := by
  induction s using scalars.induct with
  | case1 => cases h
  | case2 u =>
    rw [scalars, List.mem_singleton] at h
    rw [h]
    exact isScalar_unitScalar u
  | case3 u v rest hpair ih =>
    rw [scalars_pair hpair.1 hpair.2] at h
    rcases List.mem_cons.mp h with hn | hn
    · rw [hn]
      exact isScalar_pairScalar hpair.1 hpair.2
    · exact ih hn
  | case4 u v rest hpair ih =>
    rw [scalars, if_neg hpair] at h
    rcases List.mem_cons.mp h with hn | hn
    · rw [hn]
      exact isScalar_unitScalar u
    · exact ih hn

end Surrogates

/-! ## Encoding -/

/-- The bytes of a scalar value. -/
def scalarBytes (n : Nat) : List Byte :=
  if n < 0x80 then [Fin.ofNat _ n]
  else if n < 0x800 then [Fin.ofNat _ (0xc0 + n / 0x40), Fin.ofNat _ (0x80 + n % 0x40)]
  else if n < 0x10000 then
    [Fin.ofNat _ (0xe0 + n / 0x1000), Fin.ofNat _ (0x80 + n / 0x40 % 0x40),
      Fin.ofNat _ (0x80 + n % 0x40)]
  else
    [Fin.ofNat _ (0xf0 + n / 0x40000), Fin.ofNat _ (0x80 + n / 0x1000 % 0x40),
      Fin.ofNat _ (0x80 + n / 0x40 % 0x40), Fin.ofNat _ (0x80 + n % 0x40)]

/-- `new TextEncoder().encode(s)`. -/
def encodeUtf8 (s : JsString) : List Byte := (scalars s).flatMap scalarBytes

/-! ## Decoding -/

/-- A sequence under way: how many bytes are missing, the bits so far, the bounds of the next
byte. -/
structure Utf8Pending where
  needed : Nat
  codePoint : Nat
  lower : Nat := 0x80
  upper : Nat := 0xbf
  deriving DecidableEq, Repr

/-- What a byte is at the start of a sequence. -/
inductive Utf8Lead where
  | scalar (n : Nat)
  | more (pending : Utf8Pending)
  | error
  deriving DecidableEq, Repr

def utf8Lead (b : Byte) : Utf8Lead :=
  if b.val ≤ 0x7f then .scalar b
  else if 0xc2 ≤ b.val ∧ b.val ≤ 0xdf then .more { needed := 1, codePoint := b.val % 0x20 }
  else if 0xe0 ≤ b.val ∧ b.val ≤ 0xef then
    .more
      { needed := 2
        codePoint := b.val % 0x10
        lower := if b.val = 0xe0 then 0xa0 else 0x80
        upper := if b.val = 0xed then 0x9f else 0xbf }
  else if 0xf0 ≤ b.val ∧ b.val ≤ 0xf4 then
    .more
      { needed := 3
        codePoint := b.val % 0x8
        lower := if b.val = 0xf0 then 0x90 else 0x80
        upper := if b.val = 0xf4 then 0x8f else 0xbf }
  else .error

/-- The scalar values of bytes, `none` for each error. -/
def decodeUtf8 : Option Utf8Pending → List Byte → List (Option Nat)
  | none, [] => []
  | some _, [] => [none]
  | none, b :: bytes =>
    match utf8Lead b with
    | .scalar n => some n :: decodeUtf8 none bytes
    | .more pending => decodeUtf8 (some pending) bytes
    | .error => none :: decodeUtf8 none bytes
  | some pending, b :: bytes =>
    if pending.lower ≤ b.val ∧ b.val ≤ pending.upper then
      if pending.needed = 1 then
        some (pending.codePoint * 0x40 + b.val % 0x40) :: decodeUtf8 none bytes
      else
        decodeUtf8 (some
          { needed := pending.needed - 1
            codePoint := pending.codePoint * 0x40 + b.val % 0x40 }) bytes
    else
      none :: match utf8Lead b with
        | .scalar n => some n :: decodeUtf8 none bytes
        | .more pending => decodeUtf8 (some pending) bytes
        | .error => none :: decodeUtf8 none bytes

/-- A byte order mark at the start is dropped. -/
def dropBom : List Nat → List Nat
  | 0xfeff :: rest => rest
  | text => text

/-- `new TextDecoder().decode(bytes)`. -/
def decodeText (bytes : List Byte) : JsString :=
  (dropBom ((decodeUtf8 none bytes).map fun n => n.getD replacement)).flatMap scalarUnits

/-- `new TextDecoder('utf-8', { fatal: true }).decode(bytes)`; `none` is an exception. -/
def decodeTextFatal (bytes : List Byte) : Option JsString :=
  ((decodeUtf8 none bytes).mapM id).map fun text => (dropBom text).flatMap scalarUnits

section Decode

variable {pending : Utf8Pending} {b : Byte} {bytes : List Byte} {n : Nat}

theorem decodeUtf8_scalar (h : utf8Lead b = .scalar n) :
    decodeUtf8 none (b :: bytes) = some n :: decodeUtf8 none bytes := by
  rw [decodeUtf8, h]

theorem decodeUtf8_more (h : utf8Lead b = .more pending) :
    decodeUtf8 none (b :: bytes) = decodeUtf8 (some pending) bytes := by
  rw [decodeUtf8, h]

/-- A byte that continues the sequence. -/
theorem decodeUtf8_continue (h : pending.lower ≤ b.val ∧ b.val ≤ pending.upper)
    (hneeded : pending.needed ≠ 1) :
    decodeUtf8 (some pending) (b :: bytes) = decodeUtf8 (some
      { needed := pending.needed - 1, codePoint := pending.codePoint * 0x40 + b.val % 0x40 })
      bytes := by
  rw [decodeUtf8, if_pos h, if_neg hneeded]

/-- A byte that ends the sequence. -/
theorem decodeUtf8_last (h : pending.lower ≤ b.val ∧ b.val ≤ pending.upper)
    (hneeded : pending.needed = 1) :
    decodeUtf8 (some pending) (b :: bytes) =
      some (pending.codePoint * 0x40 + b.val % 0x40) :: decodeUtf8 none bytes := by
  rw [decodeUtf8, if_pos h, if_pos hneeded]

end Decode

/-- A continuation byte carries six bits. -/
theorem continuation_val (m : Nat) (h : m < 0x40) : (Fin.ofNat 256 (0x80 + m)).val = 0x80 + m := by
  rw [Fin.val_ofNat]
  omega

/-- **The bytes of a scalar value are read as it.** -/
theorem decodeUtf8_scalarBytes {n : Nat} (h : IsScalar n) (bytes : List Byte) :
    decodeUtf8 none (scalarBytes n ++ bytes) = some n :: decodeUtf8 none bytes := by
  unfold IsScalar at h
  unfold scalarBytes
  split_ifs with h1 h2 h3
  · have hval : (Fin.ofNat 256 n).val = n := Nat.mod_eq_of_lt (by omega)
    refine decodeUtf8_scalar ?_
    rw [utf8Lead, hval, if_pos (by omega)]
  · have hval : (Fin.ofNat 256 (0xc0 + n / 0x40)).val = 0xc0 + n / 0x40 :=
      Nat.mod_eq_of_lt (by omega)
    have hlead : utf8Lead (Fin.ofNat 256 (0xc0 + n / 0x40)) =
        .more { needed := 1, codePoint := n / 0x40 } := by
      rw [utf8Lead, hval, if_neg (by omega), if_pos (by omega)]
      congr 2
      omega
    have hlast := continuation_val (n % 0x40) (by omega)
    rw [List.cons_append, decodeUtf8_more hlead, List.cons_append,
      decodeUtf8_last (by rw [hlast]; dsimp only; omega) rfl, hlast]
    congr 2
    dsimp only
    omega
  · have hval : (Fin.ofNat 256 (0xe0 + n / 0x1000)).val = 0xe0 + n / 0x1000 :=
      Nat.mod_eq_of_lt (by omega)
    have hlead : utf8Lead (Fin.ofNat 256 (0xe0 + n / 0x1000)) = .more
        { needed := 2
          codePoint := n / 0x1000
          lower := if n / 0x1000 = 0 then 0xa0 else 0x80
          upper := if n / 0x1000 = 13 then 0x9f else 0xbf } := by
      rw [utf8Lead, hval, if_neg (by omega), if_neg (by omega), if_pos (by omega)]
      congr 2
      · omega
      · exact if_congr (by omega) rfl rfl
      · exact if_congr (by omega) rfl rfl
    have hneeded : (2 : Nat) ≠ 1 := by decide
    have hsecond := continuation_val (n / 0x40 % 0x40) (by omega)
    have hlast := continuation_val (n % 0x40) (by omega)
    rw [List.cons_append, decodeUtf8_more hlead, List.cons_append,
      decodeUtf8_continue (by rw [hsecond]; dsimp only; split_ifs <;> omega) hneeded, hsecond,
      List.cons_append, decodeUtf8_last (by rw [hlast]; dsimp only; omega) rfl, hlast]
    congr 2
    dsimp only
    omega
  · have hval : (Fin.ofNat 256 (0xf0 + n / 0x40000)).val = 0xf0 + n / 0x40000 :=
      Nat.mod_eq_of_lt (by omega)
    have hlead : utf8Lead (Fin.ofNat 256 (0xf0 + n / 0x40000)) = .more
        { needed := 3
          codePoint := n / 0x40000
          lower := if n / 0x40000 = 0 then 0x90 else 0x80
          upper := if n / 0x40000 = 4 then 0x8f else 0xbf } := by
      rw [utf8Lead, hval, if_neg (by omega), if_neg (by omega), if_neg (by omega),
        if_pos (by omega)]
      congr 2
      · omega
      · exact if_congr (by omega) rfl rfl
      · exact if_congr (by omega) rfl rfl
    have hneeded : (3 : Nat) ≠ 1 := by decide
    have hneeded' : (3 - 1 : Nat) ≠ 1 := by decide
    have hsecond := continuation_val (n / 0x1000 % 0x40) (by omega)
    have hthird := continuation_val (n / 0x40 % 0x40) (by omega)
    have hlast := continuation_val (n % 0x40) (by omega)
    rw [List.cons_append, decodeUtf8_more hlead, List.cons_append,
      decodeUtf8_continue (by rw [hsecond]; dsimp only; split_ifs <;> omega) hneeded, hsecond,
      List.cons_append,
      decodeUtf8_continue (by rw [hthird]; dsimp only; omega) hneeded', hthird,
      List.cons_append, decodeUtf8_last (by rw [hlast]; dsimp only; omega) rfl, hlast]
    congr 2
    dsimp only
    omega

/-- **The scalar values of a text are read back.** -/
theorem decodeUtf8_encode {text : List Nat} (h : ∀ n ∈ text, IsScalar n) :
    decodeUtf8 none (text.flatMap scalarBytes) = text.map some := by
  induction text with
  | nil => rfl
  | cons n text ih =>
    rw [List.flatMap_cons, decodeUtf8_scalarBytes (h n List.mem_cons_self),
      ih fun m hm => h m (List.mem_cons_of_mem _ hm), List.map_cons]

theorem decodeUtf8_encodeUtf8 (s : JsString) : decodeUtf8 none (encodeUtf8 s) =
    (scalars s).map some :=
  decodeUtf8_encode fun _ hn => isScalar_of_mem_scalars hn

section RoundTrip

variable {s t : JsString}

/-- A text that does not begin with the mark keeps its start. -/
theorem dropBom_scalars (hs : WellFormed s) (hbom : s.head? ≠ some 0xfeff) :
    dropBom (scalars s) = scalars s := by
  cases hs with
  | nil => rfl
  | @pair u v s hu hv _ =>
    rw [scalars_pair hu hv]
    refine dropBom.eq_2 _ fun rest h => ?_
    have hhead := (List.cons.inj h).1
    unfold IsHigh at hu
    unfold pairScalar at hhead
    omega
  | @unit u s hu hl _ =>
    rw [scalars_unit hu hl]
    refine dropBom.eq_2 _ fun rest h => hbom ?_
    exact congrArg some (Fin.ext (List.cons.inj h).1)

/-- **A well-formed string is read back from its bytes.** -/
theorem decodeText_encodeUtf8 (hs : WellFormed s) (hbom : s.head? ≠ some 0xfeff) :
    decodeText (encodeUtf8 s) = s := by
  unfold decodeText
  rw [decodeUtf8_encodeUtf8, List.map_map]
  have hid : ((fun n : Option Nat => n.getD replacement) ∘ some) = id := rfl
  rw [hid, List.map_id, dropBom_scalars hs hbom, flatMap_scalars hs]

theorem mapM_map_some (l : List Nat) : (l.map some).mapM id = some l := by
  induction l with
  | nil => rfl
  | cons n l ih => rw [List.map_cons, List.mapM_cons, ih]; rfl

theorem decodeTextFatal_encodeUtf8 (hs : WellFormed s) (hbom : s.head? ≠ some 0xfeff) :
    decodeTextFatal (encodeUtf8 s) = some s := by
  unfold decodeTextFatal
  rw [decodeUtf8_encodeUtf8, mapM_map_some, Option.map_some, dropBom_scalars hs hbom,
    flatMap_scalars hs]

/-- Well-formed strings are known by their bytes. -/
theorem encodeUtf8_injective (hs : WellFormed s) (ht : WellFormed t)
    (h : encodeUtf8 s = encodeUtf8 t) : s = t := by
  have hscalars : (scalars s).map some = (scalars t).map some := by
    rw [← decodeUtf8_encodeUtf8, ← decodeUtf8_encodeUtf8, h]
  have hsame := List.map_injective_iff.mpr (Option.some_injective Nat) hscalars
  rw [← flatMap_scalars hs, ← flatMap_scalars ht, hsame]

end RoundTrip

/-! ## Texts -/

/-- The text of a string, U+FFFD for a lone surrogate. -/
def toText (s : JsString) : String := String.ofList ((scalars s).map Char.ofNat)

theorem scalars_utf16_append (c : Char) (rest : JsString) :
    scalars (utf16 c ++ rest) = c.toNat :: scalars rest := by
  have hvalid : c.toNat < 0xd800 ∨ 0xdfff < c.toNat ∧ c.toNat < 0x110000 := c.valid
  unfold utf16
  split_ifs with hsmall
  · have hval : (Fin.ofNat 65536 c.toNat).val = c.toNat := Nat.mod_eq_of_lt hsmall
    rw [List.singleton_append, scalars_unit, hval]
    · unfold IsHigh
      omega
    · unfold IsLow
      omega
  · have hfirst : (Fin.ofNat 65536 (0xd800 + (c.toNat - 0x10000) / 0x400)).val =
        0xd800 + (c.toNat - 0x10000) / 0x400 := Nat.mod_eq_of_lt (by omega)
    have hsecond : (Fin.ofNat 65536 (0xdc00 + (c.toNat - 0x10000) % 0x400)).val =
        0xdc00 + (c.toNat - 0x10000) % 0x400 := Nat.mod_eq_of_lt (by omega)
    have hpair : pairScalar (Fin.ofNat 65536 (0xd800 + (c.toNat - 0x10000) / 0x400))
        (Fin.ofNat 65536 (0xdc00 + (c.toNat - 0x10000) % 0x400)) = c.toNat := by
      unfold pairScalar
      rw [hfirst, hsecond]
      omega
    have hhigh : IsHigh (Fin.ofNat 65536 (0xd800 + (c.toNat - 0x10000) / 0x400)) := by
      unfold IsHigh
      rw [hfirst]
      omega
    have hlow : IsLow (Fin.ofNat 65536 (0xdc00 + (c.toNat - 0x10000) % 0x400)) := by
      unfold IsLow
      rw [hsecond]
      omega
    rw [List.cons_append, List.cons_append, List.nil_append, scalars_pair hhigh hlow, hpair]

/-- A text is read back from its code units. -/
theorem toText_js (text : String) : toText (js text) = text := by
  have hrun : ∀ chars : List Char, (scalars (chars.flatMap utf16)).map Char.ofNat = chars := by
    intro chars
    induction chars with
    | nil => rfl
    | cons c chars ih =>
      rw [List.flatMap_cons, scalars_utf16_append, List.map_cons, ih, Char.ofNat_toNat]
  unfold toText js
  rw [hrun, String.ofList_toList]

theorem js_injective : Function.Injective js := fun s t h => by
  rw [← toText_js s, h, toText_js]


end Web
