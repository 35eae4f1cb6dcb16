import Mathlib.Algebra.GroupWithZero.Nat
import Mathlib.Data.List.GetD
import HonoWarden.Web.Bits

/-!
# Base32 of TOTP secrets

Model of `base32EncodeBytes` and `base32DecodeToBytes` (`src/domain/totp.ts`). Both push into an
accumulator that is never cleared, with operators of 32 bits, so what was read first is shifted out
at the top. `toUpperCase` is a parameter (`UpperCase`) that is asked to leave capitals and digits
as they are.

Results:
* `base32EncodeBytes_bits`, `base32DecodeToBytes_eq_some_iff`: what both functions come to on bits;
* **`base32_lossless`**: bytes are decoded from what they are encoded to.
-/

namespace HonoWarden

open Web

/-! ## The code -/

/-- `base32Alphabet`. -/
def base32Alphabet : JsString := js "ABCDEFGHIJKLMNOPQRSTUVWXYZ234567"

/-- `base32Alphabet[x & 31]`. -/
def base32Unit (x : BitVec 32) : CodeUnit := base32Alphabet.getD (x &&& 31).toNat 0

/-- The `while` of `base32EncodeBytes`: the units written and the bits left. -/
def writeQuintets (buffer : BitVec 32) : Nat → JsString × Nat
  | bitsLeft + 5 =>
    (base32Unit (buffer >>> bitsLeft) :: (writeQuintets buffer bitsLeft).1,
      (writeQuintets buffer bitsLeft).2)
  | bitsLeft => ([], bitsLeft)

/-- The variables of `base32EncodeBytes`. -/
structure Base32Writer where
  output : JsString
  buffer : BitVec 32
  bitsLeft : Nat

/-- The body of the loop of `base32EncodeBytes`. -/
def Base32Writer.push (writer : Base32Writer) (byte : Byte) : Base32Writer :=
  let buffer := (writer.buffer <<< 8) ||| BitVec.ofNat 32 byte.val
  let written := writeQuintets buffer (writer.bitsLeft + 8)
  { output := writer.output ++ written.1, buffer, bitsLeft := written.2 }

/-- `base32EncodeBytes`. -/
def base32EncodeBytes (bytes : List Byte) : JsString :=
  let writer := bytes.foldl Base32Writer.push { output := [], buffer := 0, bitsLeft := 0 }
  if 0 < writer.bitsLeft then
    writer.output ++ [base32Unit (writer.buffer <<< (5 - writer.bitsLeft))]
  else writer.output

/-- `toUpperCase`, of which is asked that it leaves what is upper case already. -/
structure UpperCase where
  apply : JsString → JsString
  apply_alphabet {s : JsString} : (∀ c ∈ s, c ∈ base32Alphabet) → apply s = s

/-- `normalized` of `base32DecodeToBytes`. -/
def normalizeBase32 (upper : UpperCase) (value : JsString) : JsString :=
  upper.apply ((trimEnd 61 value).filter fun c => ¬ IsJsSpace c)

/-- The variables of `base32DecodeToBytes`. -/
structure Base32Reader where
  bytes : List Byte
  buffer : BitVec 32
  bitsLeft : Nat

/-- The body of the loop of `base32DecodeToBytes`, from where the value of the unit is known. -/
def Base32Reader.push (reader : Base32Reader) (value : Nat) : Base32Reader :=
  let buffer := (reader.buffer <<< 5) ||| BitVec.ofNat 32 value
  let bitsLeft := reader.bitsLeft + 5
  if 8 ≤ bitsLeft then
    { bytes := reader.bytes ++ [Fin.ofNat 256 ((buffer >>> (bitsLeft - 8)) &&& 0xff).toNat], buffer,
      bitsLeft := bitsLeft - 8 }
  else { bytes := reader.bytes, buffer, bitsLeft }

/-- The loop of `base32DecodeToBytes`; `none` is its `null`. -/
def readBase32 (reader : Base32Reader) : JsString → Option Base32Reader
  | [] => some reader
  | c :: rest =>
    if c ∈ base32Alphabet then readBase32 (reader.push (base32Alphabet.idxOf c)) rest else none

/-- `base32DecodeToBytes`. -/
def base32DecodeToBytes (upper : UpperCase) (value : JsString) : Option (List Byte) :=
  let normalized := normalizeBase32 upper value
  if normalized = [] ∨ ¬ normalized.all (fun c => (65 ≤ c ∧ c ≤ 90) ∨ (50 ≤ c ∧ c ≤ 55)) = true
  then none
  else
    (readBase32 { bytes := [], buffer := 0, bitsLeft := 0 } normalized).map Base32Reader.bytes

/-! ## Quintets -/

/-- The five bits of a unit of the alphabet. -/
def quintetBits (c : CodeUnit) : List Bool := lowBits (BitVec.ofNat 32 (base32Alphabet.idxOf c)) 5

theorem length_base32Alphabet : base32Alphabet.length = 32 := by decide

theorem nodup_base32Alphabet : base32Alphabet.Nodup := by decide

theorem length_flatMap_quintetBits (text : JsString) :
    (text.flatMap quintetBits).length = 5 * text.length := by
  induction text with
  | nil => rfl
  | cons c text ih =>
    rw [List.flatMap_cons, List.length_append, ih, quintetBits, length_lowBits, List.length_cons]
    omega

theorem toNat_mask_lt (x : BitVec 32) : (x &&& 31).toNat < base32Alphabet.length := by
  rw [BitVec.toNat_and]
  exact Nat.lt_of_le_of_lt Nat.and_le_right (by decide)

theorem base32Unit_mem (x : BitVec 32) : base32Unit x ∈ base32Alphabet := by
  unfold base32Unit
  rw [List.getD_eq_getElem _ _ (toNat_mask_lt x)]
  exact List.getElem_mem (toNat_mask_lt x)

/-- A written unit has the five low bits of its word. -/
theorem quintetBits_base32Unit (x : BitVec 32) : quintetBits (base32Unit x) = lowBits x 5 := by
  unfold quintetBits base32Unit
  rw [List.getD_eq_getElem _ _ (toNat_mask_lt x), nodup_base32Alphabet.idxOf_getElem,
    BitVec.ofNat_toNat, BitVec.setWidth_eq]
  exact lowBits_and_mask (by decide)

/-! ## Writing -/

/-- The units written and the bits left are the bits that were held. -/
theorem writeQuintets_spec (buffer : BitVec 32) (held : Nat) :
    (writeQuintets buffer held).1.flatMap quintetBits ++
        lowBits buffer (writeQuintets buffer held).2 = lowBits buffer held ∧
      (writeQuintets buffer held).2 < 5 ∧
      ∀ c ∈ (writeQuintets buffer held).1, c ∈ base32Alphabet := by
  induction held using writeQuintets.induct with
  | case1 bitsLeft ih =>
    have hsplit : lowBits buffer (bitsLeft + 5) =
        lowBits (buffer >>> bitsLeft) 5 ++ lowBits buffer bitsLeft := by
      rw [Nat.add_comm, lowBits_add]
    rw [writeQuintets]
    refine ⟨?_, ih.2.1, ?_⟩
    · rw [List.flatMap_cons, List.append_assoc, ih.1, quintetBits_base32Unit]
      exact hsplit.symm
    · exact List.forall_mem_cons.mpr ⟨base32Unit_mem _, ih.2.2⟩
  | case2 bitsLeft hsmall =>
    have hwritten : writeQuintets buffer bitsLeft = ([], bitsLeft) := by
      unfold writeQuintets
      split
      · exact absurd rfl (hsmall _)
      · rfl
    rw [hwritten]
    refine ⟨rfl, ?_, List.forall_mem_nil _⟩
    by_contra hlarge
    exact hsmall (bitsLeft - 5) (by omega)

/-- The bits of what is written and of what is left are those of the bytes read. -/
structure Base32Writer.Holds (writer : Base32Writer) (bytes : List Byte) : Prop where
  bits : writer.output.flatMap quintetBits ++ lowBits writer.buffer writer.bitsLeft =
    bytes.flatMap byteBits
  bitsLeft_lt : writer.bitsLeft < 5
  mem_alphabet : ∀ c ∈ writer.output, c ∈ base32Alphabet

theorem lowBits_byte (b : Byte) : lowBits (BitVec.ofNat 32 b.val) 8 = byteBits b := by
  refine lowBits_eq_iff.mpr fun i hi => ?_
  have hwide : i < 32 := by omega
  rw [BitVec.getLsbD_ofNat, BitVec.getLsbD_ofNat]
  simp [hi, hwide]

/-- A value of `w` bits has no higher ones. -/
theorem getLsbD_ofNat_of_lt {value w i : Nat} (hvalue : value < 2 ^ w) (hi : w ≤ i) :
    (BitVec.ofNat 32 value).getLsbD i = false := by
  rw [BitVec.getLsbD_ofNat, Nat.testBit_lt_two_pow
    (Nat.lt_of_lt_of_le hvalue (Nat.pow_le_pow_right (by decide) hi)), Bool.and_false]

theorem Base32Writer.Holds.push {writer : Base32Writer} {bytes : List Byte}
    (h : writer.Holds bytes) (byte : Byte) : (writer.push byte).Holds (bytes ++ [byte]) := by
  have hleft := h.bitsLeft_lt
  obtain ⟨hbits, hsmall, hmem⟩ := writeQuintets_spec
    ((writer.buffer <<< 8) ||| BitVec.ofNat 32 byte.val) (writer.bitsLeft + 8)
  refine ⟨?_, hsmall, ?_⟩
  · rw [lowBits_pushed (by omega) fun i hi => getLsbD_ofNat_of_lt byte.isLt hi, lowBits_byte]
      at hbits
    simp only [Base32Writer.push, List.flatMap_append, List.append_assoc]
    rw [hbits, ← List.append_assoc, h.bits, List.flatMap_singleton]
  · intro c hc
    rcases List.mem_append.mp hc with hc | hc
    · exact h.mem_alphabet c hc
    · exact hmem c hc

theorem Base32Writer.Holds.foldl {writer : Base32Writer} {bytes : List Byte}
    (h : writer.Holds bytes) (rest : List Byte) :
    (rest.foldl Base32Writer.push writer).Holds (bytes ++ rest) := by
  induction rest generalizing writer bytes with
  | nil => simpa using h
  | cons byte rest ih => simpa using ih (h.push byte)

/-- **What is written has the bits of the bytes**, with fewer than five zeros behind them. -/
theorem base32EncodeBytes_bits (bytes : List Byte) :
    ∃ pad < 5, (base32EncodeBytes bytes).flatMap quintetBits =
        bytes.flatMap byteBits ++ List.replicate pad false ∧
      ∀ c ∈ base32EncodeBytes bytes, c ∈ base32Alphabet := by
  have hstart : Base32Writer.Holds { output := [], buffer := 0, bitsLeft := 0 } [] :=
    ⟨rfl, by decide, List.forall_mem_nil _⟩
  have hrun := hstart.foldl bytes
  rw [List.nil_append] at hrun
  unfold base32EncodeBytes
  generalize bytes.foldl Base32Writer.push { output := [], buffer := 0, bitsLeft := 0 } = writer
    at hrun
  have hleft := hrun.bitsLeft_lt
  simp only
  split_ifs with hpos
  · have hroom : writer.bitsLeft + (5 - writer.bitsLeft) = 5 := by omega
    have hpad := @lowBits_shiftLeft _ writer.buffer writer.bitsLeft (5 - writer.bitsLeft)
      (by omega)
    rw [hroom] at hpad
    refine ⟨5 - writer.bitsLeft, by omega, ?_, ?_⟩
    · rw [List.flatMap_append, List.flatMap_singleton, quintetBits_base32Unit, hpad,
        ← List.append_assoc, hrun.bits]
    · intro c hc
      rcases List.mem_append.mp hc with hc | hc
      · exact hrun.mem_alphabet c hc
      · exact List.mem_singleton.mp hc ▸ base32Unit_mem _
  · have hzero : writer.bitsLeft = 0 := Nat.eq_zero_of_not_pos hpos
    have hbits := hrun.bits
    rw [hzero] at hbits
    exact ⟨0, by decide, by simpa [lowBits] using hbits, hrun.mem_alphabet⟩

/-! ## Reading -/

/-- The bits of the bytes written and of what is left are those of the units read. -/
structure Base32Reader.Holds (reader : Base32Reader) (text : JsString) : Prop where
  bits : reader.bytes.flatMap byteBits ++ lowBits reader.buffer reader.bitsLeft =
    text.flatMap quintetBits
  bitsLeft_lt : reader.bitsLeft < 8

theorem byteBits_mask (x : BitVec 32) :
    byteBits (Fin.ofNat 256 (x &&& 0xff).toNat) = lowBits x 8 := by
  refine lowBits_eq_iff.mpr fun i hi => ?_
  have hmask : (0xff#32).getLsbD i = true := by
    revert i
    decide
  have hval : (Fin.ofNat 256 (x &&& 0xff).toNat).val = (x &&& 0xff).toNat % 2 ^ 8 := rfl
  rw [hval, BitVec.getLsbD_ofNat, Nat.testBit_mod_two_pow, BitVec.testBit_toNat, BitVec.getLsbD_and]
  simp [hi, hmask]

theorem Base32Reader.Holds.push {reader : Base32Reader} {text : JsString}
    (h : reader.Holds text) {c : CodeUnit} (hc : c ∈ base32Alphabet) :
    (reader.push (base32Alphabet.idxOf c)).Holds (text ++ [c]) := by
  have hleft := h.bitsLeft_lt
  have hvalue : base32Alphabet.idxOf c < 2 ^ 5 :=
    (List.idxOf_lt_length_of_mem hc).trans_eq length_base32Alphabet
  have hpushed := @lowBits_pushed _ reader.buffer _ reader.bitsLeft _ (by omega)
    fun i hi => getLsbD_ofNat_of_lt hvalue hi
  unfold Base32Reader.push
  simp only
  split_ifs with hfull
  · refine ⟨?_, by simp only; omega⟩
    have hsplit : reader.bitsLeft + 5 = 8 + (reader.bitsLeft + 5 - 8) := by omega
    rw [hsplit, lowBits_add] at hpushed
    simp only [List.flatMap_append, List.flatMap_singleton, byteBits_mask, List.append_assoc]
    rw [hpushed, ← List.append_assoc, h.bits]
    rfl
  · refine ⟨?_, by simp only; omega⟩
    simp only [List.flatMap_append, List.flatMap_singleton]
    rw [hpushed, ← List.append_assoc, h.bits]
    rfl

/-- A text of the alphabet is read to its end. -/
theorem Base32Reader.Holds.read {reader : Base32Reader} {text rest : JsString}
    (h : reader.Holds text) (hrest : ∀ c ∈ rest, c ∈ base32Alphabet) :
    ∃ final, readBase32 reader rest = some final ∧ final.Holds (text ++ rest) := by
  induction rest generalizing reader text with
  | nil => exact ⟨reader, rfl, by simpa using h⟩
  | cons c rest ih =>
    obtain ⟨hc, hrest⟩ := List.forall_mem_cons.mp hrest
    obtain ⟨final, hread, hfinal⟩ := ih (h.push hc) hrest
    refine ⟨final, ?_, by simpa using hfinal⟩
    rw [readBase32, if_pos hc, hread]

theorem mem_base32Alphabet_iff {c : CodeUnit} :
    c ∈ base32Alphabet ↔ (65 ≤ c ∧ c ≤ 90) ∨ (50 ≤ c ∧ c ≤ 55) := by
  constructor
  · have hall : base32Alphabet.all (fun c => (65 ≤ c ∧ c ≤ 90) ∨ (50 ≤ c ∧ c ≤ 55)) = true := by
      decide
    exact fun h => of_decide_eq_true (List.all_eq_true.mp hall c h)
  · have hletters : ∀ k : Fin 26, Fin.ofNat 65536 (65 + k.val) ∈ base32Alphabet := by decide
    have hdigits : ∀ k : Fin 6, Fin.ofNat 65536 (50 + k.val) ∈ base32Alphabet := by decide
    rintro (⟨hfirst, hlast⟩ | ⟨hfirst, hlast⟩)
    · have hfrom : 65 ≤ c.val := hfirst
      have hto : c.val ≤ 90 := hlast
      have hc : c = Fin.ofNat 65536 (65 + (c.val - 65)) := by
        refine Fin.ext ?_
        simp only [Fin.ofNat]
        omega
      rw [hc]
      exact hletters ⟨c.val - 65, by omega⟩
    · have hfrom : 50 ≤ c.val := hfirst
      have hto : c.val ≤ 55 := hlast
      have hc : c = Fin.ofNat 65536 (50 + (c.val - 50)) := by
        refine Fin.ext ?_
        simp only [Fin.ofNat]
        omega
      rw [hc]
      exact hdigits ⟨c.val - 50, by omega⟩

/-- The check of `base32DecodeToBytes` is that all units are of the alphabet. -/
theorem all_base32_iff {text : JsString} :
    text.all (fun c => (65 ≤ c ∧ c ≤ 90) ∨ (50 ≤ c ∧ c ≤ 55)) = true ↔
      ∀ c ∈ text, c ∈ base32Alphabet := by
  simp only [List.all_eq_true, decide_eq_true_eq, mem_base32Alphabet_iff]

/-- The bytes of a text: as many as its bits make whole bytes of, and with these bits. -/
structure DecodesTo (text : JsString) (bytes : List Byte) : Prop where
  length_eq : bytes.length = 5 * text.length / 8
  bits : bytes.flatMap byteBits <+: text.flatMap quintetBits

theorem DecodesTo.unique {text : JsString} {bytes other : List Byte} (h : DecodesTo text bytes)
    (hother : DecodesTo text other) : other = bytes := by
  refine flatMap_byteBits_injective ?_
  refine (List.prefix_of_prefix_length_le hother.bits h.bits ?_).eq_of_length ?_
  · rw [length_flatMap_byteBits, length_flatMap_byteBits, h.length_eq, hother.length_eq]
  · rw [length_flatMap_byteBits, length_flatMap_byteBits, h.length_eq, hother.length_eq]

/-- **When a text is decoded**, and to what. -/
theorem base32DecodeToBytes_eq_some_iff {upper : UpperCase} {text : JsString}
    {bytes : List Byte} :
    base32DecodeToBytes upper text = some bytes ↔
      normalizeBase32 upper text ≠ [] ∧
        (∀ c ∈ normalizeBase32 upper text, c ∈ base32Alphabet) ∧
        DecodesTo (normalizeBase32 upper text) bytes := by
  have hstart : Base32Reader.Holds { bytes := [], buffer := 0, bitsLeft := 0 } [] :=
    ⟨rfl, by decide⟩
  have hdecodes (hall : ∀ c ∈ normalizeBase32 upper text, c ∈ base32Alphabet) : ∃ final,
      readBase32 { bytes := [], buffer := 0, bitsLeft := 0 } (normalizeBase32 upper text) =
        some final ∧ DecodesTo (normalizeBase32 upper text) final.bytes := by
    obtain ⟨final, hread, hfinal⟩ := hstart.read hall
    have hbits := hfinal.bits
    have hleft := hfinal.bitsLeft_lt
    have hlength := congrArg List.length hbits
    rw [List.length_append, length_flatMap_byteBits, length_lowBits, List.nil_append,
      length_flatMap_quintetBits] at hlength
    exact ⟨final, hread, by omega, ⟨_, hbits⟩⟩
  unfold base32DecodeToBytes
  simp only [all_base32_iff]
  constructor
  · intro h
    split_ifs at h with hrefused
    rw [not_or, not_not] at hrefused
    obtain ⟨final, hread, hfinal⟩ := hdecodes hrefused.2
    rw [hread] at h
    obtain rfl := Option.some.inj h
    exact ⟨hrefused.1, hrefused.2, hfinal⟩
  · rintro ⟨hne, hall, hbytes⟩
    obtain ⟨final, hread, hfinal⟩ := hdecodes hall
    rw [if_neg (by rw [not_or, not_not]; exact ⟨hne, hall⟩), hread, hfinal.unique hbytes]
    rfl

/-! ## Round trip -/

/-- What is encoded is normal already. -/
theorem normalizeBase32_of_alphabet {upper : UpperCase} {text : JsString}
    (h : ∀ c ∈ text, c ∈ base32Alphabet) : normalizeBase32 upper text = text := by
  have hplain : base32Alphabet.all (fun c => c ≠ 61 ∧ ¬ IsJsSpace c) = true := by decide
  have hunit : ∀ c ∈ text, c ≠ 61 ∧ ¬ IsJsSpace c := fun c hc =>
    of_decide_eq_true (List.all_eq_true.mp hplain c (h c hc))
  have htrim : trimEnd 61 text = text :=
    List.rdropWhile_eq_self_iff.mpr fun hne hlast =>
      (hunit _ (List.getLast_mem hne)).1 (of_decide_eq_true hlast)
  have hfilter : text.filter (fun c => ¬ IsJsSpace c) = text :=
    List.filter_eq_self.mpr fun c hc => decide_eq_true (hunit c hc).2
  rw [normalizeBase32, htrim, hfilter, upper.apply_alphabet h]

/-- **Base32 is lossless**: every byte array that is not empty is decoded from what it is encoded
to, and a text that is decoded has one byte array of the length its units make. -/
theorem base32_lossless (upper : UpperCase) :
    (∀ bytes, bytes ≠ [] →
      base32DecodeToBytes upper (base32EncodeBytes bytes) = some bytes) ∧
    ∀ text bytes, base32DecodeToBytes upper text = some bytes →
      bytes.length = 5 * (normalizeBase32 upper text).length / 8 ∧
        ∀ other, DecodesTo (normalizeBase32 upper text) other ↔ other = bytes := by
  constructor
  · intro bytes hne
    obtain ⟨pad, hpad, hbits, hmem⟩ := base32EncodeBytes_bits bytes
    have hlength := congrArg List.length hbits
    rw [List.length_append, length_flatMap_byteBits, List.length_replicate,
      length_flatMap_quintetBits] at hlength
    have hpos := List.length_pos_of_ne_nil hne
    have hencoded : base32EncodeBytes bytes ≠ [] := by
      intro hnil
      rw [hnil, List.length_nil] at hlength
      omega
    rw [base32DecodeToBytes_eq_some_iff, normalizeBase32_of_alphabet hmem]
    exact ⟨hencoded, hmem, by omega, hbits ▸ List.prefix_append _ _⟩
  · intro text bytes h
    have hdecodes := (base32DecodeToBytes_eq_some_iff.mp h).2.2
    refine ⟨hdecodes.length_eq, fun other => ⟨fun hother => hdecodes.unique hother, ?_⟩⟩
    rintro rfl
    exact hdecodes

/-- Letters are the capitals they are told to be, nothing else changes. -/
def asciiUpperCase : UpperCase where
  apply s := s.map fun c => if 97 ≤ c ∧ c ≤ 122 then c - 32 else c
  apply_alphabet {s} h := by
    have hcapital : base32Alphabet.all (fun c => ¬ (97 ≤ c ∧ c ≤ 122)) = true := by decide
    refine (List.map_congr_left fun c hc => ?_).trans (List.map_id s)
    exact if_neg (of_decide_eq_true (List.all_eq_true.mp hcapital c (h c hc)))

/-- Ten bytes, of which the accumulator holds four. -/
theorem base32_lossless_ten : base32DecodeToBytes asciiUpperCase
    (base32EncodeBytes [0x01, 0x23, 0x45, 0x67, 0x89, 0xab, 0xcd, 0xef, 0x10, 0x32]) =
      some [0x01, 0x23, 0x45, 0x67, 0x89, 0xab, 0xcd, 0xef, 0x10, 0x32] :=
  (base32_lossless asciiUpperCase).1 _ (List.cons_ne_nil _ _)

end HonoWarden
