import HonoWarden.Web.Text

/-!
# Bits of words

The low bits of a word as a list, the highest of them first, as an accumulator of bits holds what
it has read and not yet written. Words are of any width: the operators of a host that computes in
32 bits, and bytes, are compared by their bits.

Results:
* **`lowBits_add`**: the low bits fall apart into those of the shifted word and the rest;
* `lowBits_pushed`: what an accumulator holds after `(buffer << w) | value`;
* `byteBits_injective`: bytes are known by their bits.
-/

namespace Web

variable {n m : Nat}

/-- The low `count` bits, the highest first. -/
def lowBits (x : BitVec n) : Nat → List Bool
  | 0 => []
  | count + 1 => x.getLsbD count :: lowBits x count

@[simp] theorem length_lowBits (x : BitVec n) (count : Nat) : (lowBits x count).length = count := by
  induction count with
  | zero => rfl
  | succ count ih => rw [lowBits, List.length_cons, ih]

/-- Words agree on their low bits where these are the same list. -/
theorem lowBits_eq_iff {x : BitVec n} {y : BitVec m} {count : Nat} :
    lowBits x count = lowBits y count ↔ ∀ i < count, x.getLsbD i = y.getLsbD i := by
  induction count with
  | zero => simp [lowBits]
  | succ count ih =>
    rw [lowBits, lowBits, List.cons.injEq, ih]
    constructor
    · rintro ⟨hlast, hrest⟩ i hi
      rcases Nat.lt_succ_iff_lt_or_eq.mp hi with hlt | rfl
      · exact hrest i hlt
      · exact hlast
    · exact fun h => ⟨h count (Nat.lt_succ_self count), fun i hi => h i (Nat.lt_succ_of_lt hi)⟩

/-- **The low bits fall apart** into those of the shifted word and the rest. -/
theorem lowBits_add (x : BitVec n) (a b : Nat) :
    lowBits x (a + b) = lowBits (x >>> b) a ++ lowBits x b := by
  induction a with
  | zero => rw [Nat.zero_add]; rfl
  | succ a ih =>
    rw [Nat.succ_add, lowBits, lowBits, List.cons_append, ih, BitVec.getLsbD_ushiftRight,
      Nat.add_comm b a]

/-- What an accumulator holds after a value of `w` bits is pushed: only the bits not yet written
matter, whatever is shifted out above. -/
theorem lowBits_pushed {buffer value : BitVec n} {held w : Nat} (hroom : held + w ≤ n)
    (hvalue : ∀ i, w ≤ i → value.getLsbD i = false) :
    lowBits ((buffer <<< w) ||| value) (held + w) = lowBits buffer held ++ lowBits value w := by
  rw [lowBits_add]
  congr 1
  · refine lowBits_eq_iff.mpr fun i hi => ?_
    rw [BitVec.getLsbD_ushiftRight, BitVec.getLsbD_or, BitVec.getLsbD_shiftLeft,
      hvalue _ (Nat.le_add_right w i), Nat.add_sub_cancel_left, Bool.or_false]
    have hin : w + i < n := by omega
    simp [hin]
  · refine lowBits_eq_iff.mpr fun i hi => ?_
    rw [BitVec.getLsbD_or, BitVec.getLsbD_shiftLeft]
    simp [hi]

/-- Bits that are cleared above `count` leave the low ones as they are. -/
theorem lowBits_and_mask {x mask : BitVec n} {count : Nat}
    (hmask : ∀ i < count, mask.getLsbD i = true) : lowBits (x &&& mask) count = lowBits x count := by
  refine lowBits_eq_iff.mpr fun i hi => ?_
  rw [BitVec.getLsbD_and, hmask i hi, Bool.and_true]

theorem lowBits_zero (count : Nat) : lowBits (0#n) count = List.replicate count false := by
  induction count with
  | zero => rfl
  | succ count ih => rw [lowBits, ih, List.replicate_succ, BitVec.getLsbD_zero]

/-- Zeros are pushed. -/
theorem lowBits_shiftLeft {x : BitVec n} {held w : Nat} (hroom : held + w ≤ n) :
    lowBits (x <<< w) (held + w) = lowBits x held ++ List.replicate w false := by
  have hpushed := @lowBits_pushed n x 0#n held w hroom fun i _ => BitVec.getLsbD_zero
  rwa [BitVec.or_zero, lowBits_zero] at hpushed

/-! ## Bytes -/

/-- The bits of a byte. -/
def byteBits (b : Byte) : List Bool := lowBits (BitVec.ofNat 8 b.val) 8

@[simp] theorem length_byteBits (b : Byte) : (byteBits b).length = 8 := length_lowBits _ _

theorem byteBits_injective : Function.Injective byteBits := by
  intro b c h
  have hbits := lowBits_eq_iff.mp h
  have hword : BitVec.ofNat 8 b.val = BitVec.ofNat 8 c.val :=
    BitVec.eq_of_getLsbD_eq fun i hi => hbits i hi
  have hval := congrArg BitVec.toNat hword
  rw [BitVec.toNat_ofNat, BitVec.toNat_ofNat, Nat.mod_eq_of_lt b.isLt, Nat.mod_eq_of_lt c.isLt]
    at hval
  exact Fin.ext hval

theorem length_flatMap_byteBits (bytes : List Byte) :
    (bytes.flatMap byteBits).length = 8 * bytes.length := by
  induction bytes with
  | nil => rfl
  | cons b bytes ih =>
    rw [List.flatMap_cons, List.length_append, ih, length_byteBits, List.length_cons]
    omega

/-- Bytes are known by their bits. -/
theorem flatMap_byteBits_injective : Function.Injective fun bytes : List Byte =>
    bytes.flatMap byteBits := by
  intro bs cs h
  have hlength : bs.length = cs.length := by
    have hbits := congrArg List.length h
    simp only [length_flatMap_byteBits] at hbits
    omega
  induction bs generalizing cs with
  | nil => exact (List.length_eq_zero_iff.mp hlength.symm).symm
  | cons b bs ih =>
    cases cs with
    | nil => cases hlength
    | cons c cs =>
      simp only [List.flatMap_cons] at h
      obtain ⟨hhead, htail⟩ := List.append_inj h (by simp)
      rw [byteBits_injective hhead, ih htail (Nat.succ.inj hlength)]

end Web
