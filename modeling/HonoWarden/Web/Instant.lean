import HonoWarden.Web.Date
import Mathlib.Data.Rat.Floor
import Mathlib.Tactic.FieldSimp
import Mathlib.Tactic.Linarith
import Mathlib.Tactic.NormNum

/-!
# Instants with an offset

The texts `YYYY-MM-DDTHH:mm:ss`, with or without a fraction of the second, and `Z` or an offset
behind them: their fields, the dates of the calendar, and the time of `Date.parse`, which drops what
is finer than a millisecond.

Results:
* **`civilDate_daysOfCivil_iff`**: a date is that of its day where its month has the day;
* `instant_eq_floor`: the time of the fields is the exact one, rounded down to a millisecond;
* `readIsoFields_toISOString`, `readIsoFields_outside`: the texts of times in the years 0 to 9999
  are of the shape, all others are not.
-/

namespace Web

/-! ## The calendar -/

/-- A leap year of the Gregorian calendar. -/
def IsLeapYear (year : Int) : Prop := year % 4 = 0 ∧ (year % 100 ≠ 0 ∨ year % 400 = 0)

instance : DecidablePred IsLeapYear := fun _ => inferInstanceAs (Decidable (_ ∧ _))

def daysInMonth (year month : Int) : Int :=
  if month = 2 then if IsLeapYear year then 29 else 28
  else if month = 4 ∨ month = 6 ∨ month = 9 ∨ month = 11 then 30 else 31

/-- A month and a day that the calendar has. -/
def CivilDate.Exists (date : CivilDate) : Prop :=
  1 ≤ date.month ∧ date.month ≤ 12 ∧ 1 ≤ date.day ∧ date.day ≤ daysInMonth date.year date.month

instance : DecidablePred CivilDate.Exists := fun _ => inferInstanceAs (Decidable (_ ∧ _))

/-- The days of a year that begins in March: it ends with the February of the next. -/
theorem yearStart_succ (year : Int) : yearStart (year + 1) =
    yearStart year + 337 + daysInMonth (year + 1) 2 := by
  unfold daysInMonth IsLeapYear yearStart
  rw [if_pos rfl]
  split_ifs with hleap
  · omega
  · omega

/-- The year of a day is the one it lies in. -/
theorem toMarch_eq {days year : Int} (hlow : yearStart year ≤ days)
    (hhigh : days < yearStart (year + 1)) : toMarch days = (year, days - yearStart year) := by
  obtain ⟨hday, hpos, -, hnext⟩ := toMarch_spec days
  have hyear : (toMarch days).1 = year := by
    rcases lt_trichotomy (toMarch days).1 year with hlt | heq | hlt
    · have hmono := yearStart_mono (show (toMarch days).1 + 1 ≤ year from hlt)
      omega
    · exact heq
    · have hmono := yearStart_mono (show year + 1 ≤ (toMarch days).1 from hlt)
      omega
  refine Prod.ext hyear ?_
  dsimp only
  rw [hyear] at hday
  omega

/-- A day of a month lies in the month, counted from March. -/
theorem day_le_daysInMonth {year index offset : Int} (hindex : 0 ≤ index ∧ index ≤ 11)
    (hnext : offset < (153 * (index + 1) + 2) / 5)
    (hyear : offset < 337 + daysInMonth (year + 1) 2) :
    offset - (153 * index + 2) / 5 + 1 ≤
      daysInMonth (year + (index + 2) / 12) ((index + 2) % 12 + 1) := by
  obtain ⟨hlow, hhigh⟩ := hindex
  by_cases hfebruary : index = 11
  · subst hfebruary
    have hlast : offset - 337 + 1 ≤ daysInMonth (year + 1) 2 := by omega
    exact hlast
  · have hmonth : (index + 2) % 12 + 1 ≠ 2 := by omega
    unfold daysInMonth
    rw [if_neg hmonth]
    split_ifs with hshort
    · omega
    · omega

/-- The day of a date lies in its month. -/
theorem civilDate_exists (days : Int) : (civilDate days).Exists := by
  obtain ⟨hmonth, hmonth', hday, -⟩ := civilDate_range days
  refine ⟨hmonth, hmonth', hday, ?_⟩
  obtain ⟨hsum, hlow, hhigh, hnext⟩ := toMarch_spec (days + 719468)
  rw [yearStart_succ] at hnext
  unfold civilDate
  dsimp only
  generalize toMarch (days + 719468) = march at *
  have hindex : 0 ≤ (5 * march.2 + 2) / 153 ∧ (5 * march.2 + 2) / 153 ≤ 11 := by omega
  have hbound := @day_le_daysInMonth march.1 ((5 * march.2 + 2) / 153) march.2 hindex (by omega)
    (by omega)
  have hyear : (march.1 * 12 + (5 * march.2 + 2) / 153 + 2) / 12 =
      march.1 + ((5 * march.2 + 2) / 153 + 2) / 12 := by omega
  have hmonthOf : (march.1 * 12 + (5 * march.2 + 2) / 153 + 2) % 12 =
      ((5 * march.2 + 2) / 153 + 2) % 12 := by omega
  rw [hyear, hmonthOf]
  exact hbound

/-- The days of a month, counted from March, lie in the year. -/
theorem offset_lt_year {year index day : Int} (hindex : 0 ≤ index ∧ index ≤ 11) (hday : 1 ≤ day)
    (h : day ≤ daysInMonth (year + (index + 2) / 12) ((index + 2) % 12 + 1)) :
    (153 * index + 2) / 5 + (day - 1) < (153 * (index + 1) + 2) / 5 ∧
      (153 * index + 2) / 5 + (day - 1) < 337 + daysInMonth (year + 1) 2 := by
  obtain ⟨hlow, hhigh⟩ := hindex
  have hleast : 28 ≤ daysInMonth (year + 1) 2 := by
    unfold daysInMonth
    split_ifs <;> omega
  have hmost : daysInMonth (year + 1) 2 ≤ 29 := by
    unfold daysInMonth
    split_ifs <;> omega
  by_cases hfebruary : index = 11
  · subst hfebruary
    have hlast : day ≤ daysInMonth (year + 1) 2 := h
    omega
  · have hmonth : (index + 2) % 12 + 1 ≠ 2 := by omega
    unfold daysInMonth at h
    rw [if_neg hmonth] at h
    split_ifs at h with hshort
    · omega
    · -- the months of 31 days, one by one
      have hlong : index = 0 ∨ index = 2 ∨ index = 4 ∨ index = 5 ∨ index = 7 ∨ index = 9 ∨
          index = 10 := by omega
      rcases hlong with rfl | rfl | rfl | rfl | rfl | rfl | rfl
      all_goals omega

/-- **A date is that of its day where the calendar has it.** -/
theorem civilDate_daysOfCivil_iff (date : CivilDate) :
    civilDate (daysOfCivil date) = date ↔ date.Exists := by
  constructor
  · exact fun h => h ▸ civilDate_exists _
  rintro ⟨hmonth, hmonth', hday, hday'⟩
  obtain ⟨year, month, day⟩ := date
  dsimp only at *
  obtain ⟨start, hstart⟩ : ∃ start, start = (year * 12 + (month - 1) - 2) / 12 := ⟨_, rfl⟩
  obtain ⟨index, hindexOf⟩ : ∃ index, index = (year * 12 + (month - 1) - 2) % 12 := ⟨_, rfl⟩
  have hindex : 0 ≤ index ∧ index ≤ 11 := by omega
  have hyear : start + (index + 2) / 12 = year := by omega
  have hmonthOf : (index + 2) % 12 + 1 = month := by omega
  have hlength := yearStart_succ start
  obtain ⟨hnext, hlast⟩ := @offset_lt_year start index day hindex hday
    (by rw [hyear, hmonthOf]; exact hday')
  have hdays : daysOfCivil ⟨year, month, day⟩ + 719468 =
      yearStart start + ((153 * index + 2) / 5 + (day - 1)) := by
    unfold daysOfCivil
    dsimp only
    rw [← hstart, ← hindexOf]
    omega
  have hmarch : toMarch (daysOfCivil ⟨year, month, day⟩ + 719468) =
      (start, (153 * index + 2) / 5 + (day - 1)) := by
    rw [@toMarch_eq _ start (by omega) (by omega)]
    exact Prod.ext rfl (by dsimp only; omega)
  unfold civilDate
  rw [hmarch]
  dsimp only
  have hsame : (5 * ((153 * index + 2) / 5 + (day - 1)) + 2) / 153 = index := by omega
  rw [hsame]
  congr 1
  · omega
  · omega
  · omega

/-! ## Fields -/

/-- An offset, `+HH:mm` or `-HH:mm`. -/
structure IsoOffset where
  negative : Bool
  hour : Int
  minute : Int

/-- The fields of an instant; no offset is `Z`. -/
structure IsoFields where
  year : Int
  month : Int
  day : Int
  hour : Int
  minute : Int
  second : Int
  fraction : JsString
  offset : Option IsoOffset

/-- `(?:\.(\d{1,9}))?`: the digits, and what follows them. -/
def readFraction (text : JsString) : Option (JsString × JsString) :=
  if text.head? = some 46 then
    let digits := text.tail.takeWhile fun c => IsDigit c
    if 1 ≤ digits.length ∧ digits.length ≤ 9 then some (digits, text.tail.drop digits.length)
    else none
  else some ([], text)

/-- `(Z|([+-])(\d{2}):(\d{2}))`, to the end of the text. -/
def readZone (text : JsString) : Option (Option IsoOffset) :=
  if text = [90] then some none
  else if (text.head? = some 43 ∨ text.head? = some 45) ∧
      matchesShape (js "00:00") text.tail = true then
    some (some
      { negative := text.head? = some 45
        hour := readField text 1 2
        minute := readField text 4 2 })
  else none

/-- `\d{4}-\d{2}-\d{2}T\d{2}:\d{2}:\d{2}`. -/
def dateTimeShape : JsString := js "0000-00-00T00:00:00"

/-- The fields of a text of the shape. -/
def readIsoFields (value : JsString) : Option IsoFields :=
  if matchesShape dateTimeShape (value.take 19) = true then
    (readFraction (value.drop 19)).bind fun found =>
      (readZone found.2).map fun offset =>
        { year := readField value 0 4
          month := readField value 5 2
          day := readField value 8 2
          hour := readField value 11 2
          minute := readField value 14 2
          second := readField value 17 2
          fraction := found.1
          offset }
  else none

/-- The milliseconds of a fraction: its first three digits. -/
def fractionMs (fraction : JsString) : Nat := readDecimal ((padEnd 3 48 fraction).take 3)

/-- The time of the fields without the offset. -/
def IsoFields.localTime (fields : IsoFields) : Int :=
  daysOfCivil { year := fields.year, month := fields.month, day := fields.day } * msPerDay +
    fields.hour * 3600000 + fields.minute * 60000 + fields.second * 1000 +
    fractionMs fields.fraction

def IsoOffset.seconds (offset : IsoOffset) : Int :=
  if offset.negative = true then -(offset.hour * 3600 + offset.minute * 60)
  else offset.hour * 3600 + offset.minute * 60

def IsoFields.offsetSeconds (fields : IsoFields) : Int :=
  (fields.offset.map IsoOffset.seconds).getD 0

/-- `Date.parse` of a text with these fields. -/
def IsoFields.instant (fields : IsoFields) : Int :=
  fields.localTime - fields.offsetSeconds * 1000

/-- The seconds from the beginning of 1970 to the instant, with the whole fraction. -/
def IsoFields.exact (fields : IsoFields) : ℚ :=
  (daysOfCivil { year := fields.year, month := fields.month, day := fields.day } * 86400 +
    fields.hour * 3600 + fields.minute * 60 + fields.second - fields.offsetSeconds : Int) +
    readDecimal fields.fraction / 10 ^ fields.fraction.length

/-! ### Fractions -/

theorem foldl_decimal (t : JsString) (n : Nat) :
    t.foldl (fun n c => 10 * n + (c.val - 48)) n = n * 10 ^ t.length + readDecimal t := by
  induction t generalizing n with
  | nil => simp [readDecimal]
  | cons c t ih =>
    have hrest : readDecimal (c :: t) = (10 * 0 + (c.val - 48)) * 10 ^ t.length + readDecimal t := by
      rw [← ih]
      rfl
    rw [List.foldl_cons, ih, hrest, List.length_cons, Nat.pow_succ]
    ring

theorem readDecimal_append_eq (s t : JsString) :
    readDecimal (s ++ t) = readDecimal s * 10 ^ t.length + readDecimal t :=
  (readDecimal_append s t).trans (foldl_decimal t _)

theorem readDecimal_lt {s : JsString} (h : ∀ c ∈ s, IsDigit c) :
    readDecimal s < 10 ^ s.length := by
  induction s with
  | nil => decide
  | cons c s ih =>
    have hc : c.val ≤ 57 := (h c List.mem_cons_self).2
    have hs := ih fun d hd => h d (List.mem_cons_of_mem c hd)
    have hcons : readDecimal (c :: s) = readDecimal [c] * 10 ^ s.length + readDecimal s :=
      readDecimal_append_eq [c] s
    have hhead : readDecimal [c] ≤ 9 := by
      unfold readDecimal
      simp only [List.foldl_cons, List.foldl_nil]
      omega
    have hmul := Nat.mul_le_mul_right (10 ^ s.length) hhead
    rw [hcons, List.length_cons, Nat.pow_succ]
    omega

theorem readDecimal_zeros (n : Nat) : readDecimal (List.replicate n 48) = 0 := by
  induction n with
  | zero => rfl
  | succ n ih =>
    have hcons : readDecimal (48 :: List.replicate n 48) =
        readDecimal [48] * 10 ^ (List.replicate n (48 : CodeUnit)).length +
          readDecimal (List.replicate n 48) := readDecimal_append_eq [48] _
    have hzero : readDecimal [48] = 0 := by decide
    rw [List.replicate_succ, hcons, ih, hzero, Nat.zero_mul]

/-- The milliseconds of a fraction are its thousandfold, rounded down. -/
theorem fractionMs_eq {fraction : JsString} (h : ∀ c ∈ fraction, IsDigit c) :
    fractionMs fraction = readDecimal fraction * 1000 / 10 ^ fraction.length := by
  unfold fractionMs padEnd
  rcases Nat.lt_or_ge fraction.length 3 with hshort | hlong
  · have hlength : (fraction ++ List.replicate (3 - fraction.length) (48 : CodeUnit)).length = 3 := by
      rw [List.length_append, List.length_replicate]
      omega
    have hpower : 1000 = 10 ^ (3 - fraction.length) * 10 ^ fraction.length := by
      rw [← Nat.pow_add, Nat.sub_add_cancel hshort.le]
    rw [List.take_of_length_le hlength.le, readDecimal_append_eq, readDecimal_zeros,
      List.length_replicate, hpower, ← Nat.mul_assoc,
      Nat.mul_div_cancel _ (Nat.pow_pos (by decide)), Nat.add_zero]
  · have hdigits : readDecimal (fraction.drop 3) < 10 ^ (fraction.length - 3) := by
      have hdrop : readDecimal (fraction.drop 3) < 10 ^ (fraction.drop 3).length :=
        readDecimal_lt fun c hc => h c (List.mem_of_mem_drop hc)
      rwa [List.length_drop] at hdrop
    have hpower : 10 ^ fraction.length = 10 ^ (fraction.length - 3) * 1000 := by
      rw [show 1000 = 10 ^ 3 from rfl, ← Nat.pow_add, Nat.sub_add_cancel hlong]
    have hsplit := readDecimal_append_eq (fraction.take 3) (fraction.drop 3)
    rw [List.take_append_drop, List.length_drop] at hsplit
    rw [List.take_append_of_le_length hlong, hpower, Nat.mul_div_mul_right _ _ (by decide), hsplit]
    exact (Nat.div_eq_of_lt_le (by omega) (by
      rw [Nat.add_mul]
      omega)).symm

/-- The instant in milliseconds: the time of the fields with the fraction whole. -/
theorem exact_scaled (fields : IsoFields) :
    1000 * fields.exact = ((fields.instant - fractionMs fields.fraction : Int) : ℚ) +
      ((readDecimal fields.fraction * 1000 : Nat) : ℚ) /
        ((10 ^ fields.fraction.length : Nat) : ℚ) := by
  unfold IsoFields.exact IsoFields.instant IsoFields.localTime msPerDay
  push_cast
  ring

/-- **The time of the fields is the instant, rounded down to a millisecond.** -/
theorem instant_eq_floor {fields : IsoFields} (h : ∀ c ∈ fields.fraction, IsDigit c) :
    fields.instant = ⌊1000 * fields.exact⌋ := by
  have hfloor : ⌊((readDecimal fields.fraction * 1000 : Nat) : ℚ) /
      ((10 ^ fields.fraction.length : Nat) : ℚ)⌋ = (fractionMs fields.fraction : Int) := by
    rw [Rat.floor_natCast_div_natCast, fractionMs_eq h]
    rfl
  rw [exact_scaled, Int.floor_intCast_add, hfloor, Int.sub_add_cancel]

/-! ### Texts of times -/

theorem matchesShape_take {pattern text : JsString} (h : matchesShape pattern text = true)
    (n : Nat) : matchesShape (pattern.take n) (text.take n) = true := by
  induction pattern, text using matchesShape.induct generalizing n with
  | case1 => rw [List.take_nil]; rfl
  | case2 p pattern c text ih =>
    rw [matchesShape, Bool.and_eq_true] at h
    cases n with
    | zero => rfl
    | succ n =>
      rw [List.take_succ_cons, List.take_succ_cons, matchesShape, Bool.and_eq_true]
      exact ⟨h.1, ih h.2 n⟩
  | case3 pattern text hnil hcons =>
    rw [matchesShape] at h
    · cases h
    · exact hnil
    · exact hcons

theorem isDigit_of_mem_readFraction {text : JsString} {found : JsString × JsString}
    (h : readFraction text = some found) : ∀ c ∈ found.1, IsDigit c := by
  unfold readFraction at h
  dsimp only at h
  split_ifs at h
  · obtain rfl := Option.some.inj h
    intro c hc
    have hmem : c ∈ text.tail.takeWhile fun c => IsDigit c := hc
    exact of_decide_eq_true (List.mem_takeWhile_imp hmem :)
  · obtain rfl := Option.some.inj h
    exact List.forall_mem_nil _

theorem isDigit_of_readIsoFields {value : JsString} {fields : IsoFields}
    (h : readIsoFields value = some fields) : ∀ c ∈ fields.fraction, IsDigit c := by
  unfold readIsoFields at h
  split_ifs at h
  obtain ⟨found, hfound, h⟩ := Option.bind_eq_some_iff.mp h
  obtain ⟨offset, -, rfl⟩ := Option.map_eq_some_iff.mp h
  exact isDigit_of_mem_readFraction hfound

theorem readFraction_digits3 {n : Int} (h : 0 ≤ n ∧ n ≤ 999) :
    readFraction (46 :: (digits3 n ++ [90])) = some (digits3 n, [90]) := by
  have hdigits : (digits3 n).all (fun c => IsDigit c) = true := by
    simp only [digits3, List.all_cons, List.all_nil, Bool.and_true, Bool.and_eq_true,
      decide_eq_true_eq]
    exact ⟨isDigit_digit (by omega), isDigit_digit (by omega), isDigit_digit (by omega)⟩
  have htake : (digits3 n ++ [90]).takeWhile (fun c => IsDigit c) = digits3 n := by
    rw [List.takeWhile_append_of_pos (List.all_eq_true.mp hdigits)]
    have hend : ([90] : JsString).takeWhile (fun c => IsDigit c) = [] := by decide
    rw [hend, List.append_nil]
  unfold readFraction
  rw [if_pos List.head?_cons, List.tail_cons]
  dsimp only
  rw [htake]
  exact if_pos (show 1 ≤ 3 ∧ 3 ≤ 9 by decide)

/-- The fields of the text of a time. -/
def isoFieldsOf (t : Int) : IsoFields where
  year := (civilDate (t / msPerDay)).year
  month := (civilDate (t / msPerDay)).month
  day := (civilDate (t / msPerDay)).day
  hour := t % msPerDay / 3600000
  minute := t % msPerDay / 60000 % 60
  second := t % msPerDay / 1000 % 60
  fraction := digits3 (t % msPerDay % 1000)
  offset := none

/-- **The text of a time in the years 0 to 9999 is of the shape.** -/
theorem readIsoFields_toISOString {t : Int} (h : IsFourDigitTime t) :
    readIsoFields (toISOString t) = some (isoFieldsOf t) := by
  have hyear := isFourDigitTime_iff.mp h
  have hdate := civilDate_range (t / msPerDay)
  have hms : 0 ≤ t % msPerDay ∧ t % msPerDay < 86400000 :=
    ⟨Int.emod_nonneg _ (by decide), Int.emod_lt_of_pos _ (by decide)⟩
  have hshape : matchesShape dateTimeShape ((toISOString t).take 19) = true := by
    have htake := matchesShape_take (matchesShape_toISOString h) 19
    have htaken : isoShape.take 19 = dateTimeShape := by decide
    rwa [htaken] at htake
  have htext : toISOString t = (digits2 ((civilDate (t / msPerDay)).year / 100) ++
      digits2 ((civilDate (t / msPerDay)).year % 100)) ++
        timeText (civilDate (t / msPerDay)).month (civilDate (t / msPerDay)).day
          (t % msPerDay) := by
    rw [toISOString, yearText, if_pos hyear]
  have hrest : (toISOString t).drop 19 = 46 :: (digits3 (t % msPerDay % 1000) ++ [90]) := by
    rw [htext]
    rfl
  have hfields : readField (toISOString t) 0 4 = (isoFieldsOf t).year ∧
      readField (toISOString t) 5 2 = (isoFieldsOf t).month ∧
      readField (toISOString t) 8 2 = (isoFieldsOf t).day ∧
      readField (toISOString t) 11 2 = (isoFieldsOf t).hour ∧
      readField (toISOString t) 14 2 = (isoFieldsOf t).minute ∧
      readField (toISOString t) 17 2 = (isoFieldsOf t).second := by
    rw [htext]
    unfold isoFieldsOf
    exact ⟨readDecimal_year4 hyear, readDecimal_digits2 (by omega), readDecimal_digits2 (by omega),
      readDecimal_digits2 (by omega), readDecimal_digits2 (by omega),
      readDecimal_digits2 (by omega)⟩
  obtain ⟨hfyear, hfmonth, hfday, hfhour, hfminute, hfsecond⟩ := hfields
  unfold readIsoFields
  rw [if_pos hshape, hrest, readFraction_digits3 (by omega), Option.bind_some, hfyear, hfmonth,
    hfday, hfhour, hfminute, hfsecond]
  rfl

/-- **The text of any other time is not.** -/
theorem readIsoFields_outside {t : Int} (h : ¬ IsFourDigitTime t) :
    readIsoFields (toISOString t) = none := by
  have hshape : dateTimeShape = 48 :: dateTimeShape.tail := by decide
  have hsign (c : CodeUnit) (rest : JsString) (hc : ¬ IsDigit c) :
      ¬ matchesShape dateTimeShape ((c :: rest).take 19) = true := by
    rw [hshape, List.take_succ_cons, matchesShape, if_pos rfl, decide_eq_false hc,
      Bool.false_and]
    exact Bool.false_ne_true
  have hyear : ¬ (0 ≤ (civilDate (t / msPerDay)).year ∧ (civilDate (t / msPerDay)).year ≤ 9999) :=
    mt isFourDigitTime_iff.mpr h
  unfold readIsoFields
  rw [if_neg]
  rw [toISOString, yearText, if_neg hyear]
  split_ifs with hneg
  · exact hsign 45 _ (by decide)
  · exact hsign 43 _ (by decide)

/-- The time of the fields of a time. -/
theorem instant_isoFieldsOf (t : Int) : (isoFieldsOf t).instant = t := by
  have hms : 0 ≤ t % msPerDay ∧ t % msPerDay < 86400000 :=
    ⟨Int.emod_nonneg _ (by decide), Int.emod_lt_of_pos _ (by decide)⟩
  have hfraction : (fractionMs (digits3 (t % msPerDay % 1000)) : Int) = t % msPerDay % 1000 :=
    readDecimal_digits3 (by omega)
  have hsum := Int.mul_ediv_add_emod t msPerDay
  have hdays : daysOfCivil { year := (isoFieldsOf t).year, month := (isoFieldsOf t).month
                             day := (isoFieldsOf t).day } = t / msPerDay :=
    daysOfCivil_civilDate _
  unfold IsoFields.instant IsoFields.localTime
  rw [hdays]
  have hoffset : (isoFieldsOf t).offsetSeconds = 0 := rfl
  rw [hoffset]
  unfold isoFieldsOf
  dsimp only
  rw [hfraction]
  unfold msPerDay at hsum hms ⊢
  omega

/-- The text of a time denotes this time, and not a part of a millisecond more. -/
theorem exact_isoFieldsOf (t : Int) : 1000 * (isoFieldsOf t).exact = (t : ℚ) := by
  have hlength : (isoFieldsOf t).fraction.length = 3 := rfl
  have hmilliseconds : fractionMs (isoFieldsOf t).fraction =
      readDecimal (isoFieldsOf t).fraction := rfl
  rw [exact_scaled, instant_isoFieldsOf, hlength, hmilliseconds]
  push_cast
  ring

end Web
