import Mathlib.Algebra.GroupWithZero.Nat
import HonoWarden.Web.JsonText

/-!
# Integers as the numbers of JSON

A host whose numbers are the integers: `JsonNumber` can be met. Of a number that is no integer it
reads the digits in front of the point.
-/

namespace Web

/-- The digits of an integer. -/
def printInteger (z : Int) : JsString :=
  if z < 0 then 45 :: decimal z.natAbs else decimal z.natAbs

/-- The integer a number begins with. -/
def readInteger (text : JsString) : Int :=
  if text.head? = some 45 then -(readDecimal (text.tail.takeWhile fun c => IsDigit c) : Int)
  else readDecimal (text.takeWhile fun c => IsDigit c)

theorem takeWhile_decimal (n : Nat) :
    (decimal n).takeWhile (fun c => IsDigit c) = decimal n :=
  List.takeWhile_eq_self_iff.mpr fun _ hc => decide_eq_true (isDigit_of_mem_decimal hc)

theorem head_decimal (n : Nat) : (decimal n).head? ≠ some 45 := by
  intro h
  exact absurd (isDigit_of_mem_decimal (List.mem_of_head? h)) (by decide)

theorem isUnsigned_decimal (n : Nat) : isUnsigned (decimal n) = true := by
  rcases Nat.eq_zero_or_pos n with rfl | hpos
  · decide
  · obtain ⟨c, s, hdecimal, hlow⟩ := exists_decimal_eq_cons hpos
    have hdigits : ∀ d ∈ c :: s, IsDigit d := fun d hd =>
      isDigit_of_mem_decimal (hdecimal ▸ hd)
    have hrest : s.dropWhile (fun c => IsDigit c) = [] :=
      List.dropWhile_eq_nil_iff.mpr fun d hd =>
        decide_eq_true (hdigits d (List.mem_cons_of_mem _ hd))
    have hzero : c ≠ 48 := by
      rintro rfl
      exact absurd hlow (by decide)
    have hhigh := (hdigits c List.mem_cons_self).2
    rw [hdecimal, isUnsigned, if_neg hzero, hrest, decide_eq_true hlow, decide_eq_true hhigh]
    rfl

theorem isNumberText_printInteger (z : Int) : isNumberText (printInteger z) = true := by
  unfold printInteger isNumberText
  split_ifs with hneg hhead hhead
  · exact isUnsigned_decimal _
  · exact absurd rfl hhead
  · exact absurd hhead (head_decimal _)
  · exact isUnsigned_decimal _

theorem readInteger_printInteger (z : Int) : readInteger (printInteger z) = z := by
  unfold printInteger readInteger
  split_ifs with hneg hhead hhead
  · rw [List.tail_cons, takeWhile_decimal, readDecimal_decimal]
    omega
  · exact absurd rfl hhead
  · exact absurd hhead (head_decimal _)
  · rw [takeWhile_decimal, readDecimal_decimal]
    omega

/-- A number below a power of ten has no more digits than the power. -/
theorem length_printInteger_le {z : Int} {digits : Nat} (hdigits : 0 < digits)
    (h : z.natAbs < 10 ^ digits) : (printInteger z).length ≤ digits + 1 := by
  have hlength : (decimal z.natAbs).length ≤ digits := by
    unfold decimal
    rw [List.length_map]
    exact (Nat.length_toDigits_le_iff (by decide) hdigits).mpr h
  unfold printInteger
  split_ifs
  · exact Nat.succ_le_succ hlength
  · exact hlength.trans (Nat.le_succ digits)

instance : JsonNumber Int where
  read := readInteger
  print := printInteger
  Exact _ := True
  integer? := some
  ofInt z := z
  isNumberText_print _ := isNumberText_printInteger _
  read_print _ := readInteger_printInteger _
  exact_ofInt _ := trivial
  integer?_ofInt _ := rfl

end Web
