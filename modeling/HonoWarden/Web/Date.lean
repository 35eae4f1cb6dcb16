import HonoWarden.Web.Text
import Mathlib.Tactic.Ring

/-!
# Dates

`toISOString` of a time in milliseconds, and a reader of it. The days of the Gregorian calendar are
counted in years that begin in March, so that a leap day is the last one (`toMarch`); a month counts
153 days for every five.

`Date.parse` of other texts depends on the host: `DateParse` asks only that it reads what
`toISOString` writes, and `isoParse` is one that reads nothing else.

Results:
* `daysOfCivil_civilDate`: a day is read back from its date;
* **`parseISOString_toISOString`**: a time is read back from its text;
* **`toISOString_lt_iff`**: in the years 0 to 9999, texts are ordered as the times are.
-/

namespace Web

/-! ## The calendar -/

/-- The days before the first of March of a year, from the first of March of the year 0. -/
def yearStart (year : Int) : Int := 365 * year + year / 4 - year / 100 + year / 400

/-- The year and the day of the year, of years that begin in March. -/
def toMarch (days : Int) : Int × Int :=
  let era := days / 146097
  let eraDay := days % 146097
  let century := min (eraDay / 36524) 3
  let centuryDay := eraDay - century * 36524
  let quad := centuryDay / 1461
  let quadDay := centuryDay % 1461
  let year := min (quadDay / 365) 3
  (era * 400 + century * 100 + quad * 4 + year, quadDay - year * 365)

theorem yearStart_eq {era century quad year : Int} (hcentury : 0 ≤ century ∧ century ≤ 3)
    (hquad : 0 ≤ quad ∧ quad ≤ 24) (hyear : 0 ≤ year ∧ year ≤ 3) :
    yearStart (era * 400 + century * 100 + quad * 4 + year) =
      era * 146097 + century * 36524 + quad * 1461 + year * 365 := by
  have hfour : (era * 400 + century * 100 + quad * 4 + year) / 4 =
      era * 100 + century * 25 + quad := by omega
  have hhundred : (era * 400 + century * 100 + quad * 4 + year) / 100 = era * 4 + century := by omega
  have hera : (era * 400 + century * 100 + quad * 4 + year) / 400 = era := by omega
  unfold yearStart
  rw [hfour, hhundred, hera]
  ring

theorem yearStart_mono {a b : Int} (h : a ≤ b) : yearStart a ≤ yearStart b := by
  unfold yearStart
  omega

/-- A day lies in its year. -/
theorem toMarch_spec (days : Int) :
    yearStart (toMarch days).1 + (toMarch days).2 = days ∧ 0 ≤ (toMarch days).2 ∧
      (toMarch days).2 ≤ 365 ∧ days < yearStart ((toMarch days).1 + 1) := by
  have hera : 0 ≤ days % 146097 ∧ days % 146097 < 146097 := by omega
  obtain ⟨century, hcentury⟩ : ∃ century, century = min (days % 146097 / 36524) 3 := ⟨_, rfl⟩
  obtain ⟨b, hb⟩ : ∃ b, b = days % 146097 - century * 36524 := ⟨_, rfl⟩
  obtain ⟨year, hyear⟩ : ∃ year, year = min (b % 1461 / 365) 3 := ⟨_, rfl⟩
  have hcenturyRange : 0 ≤ century ∧ century ≤ 3 := by omega
  have hbRange : 0 ≤ b ∧ b ≤ 36524 ∧ (b = 36524 → century = 3) := by omega
  have hquadRange : 0 ≤ b / 1461 ∧ b / 1461 ≤ 24 := by omega
  have hyearRange : 0 ≤ year ∧ year ≤ 3 := by omega
  have hmarch : toMarch days = (days / 146097 * 400 + century * 100 + b / 1461 * 4 + year,
      b % 1461 - year * 365) := by
    rw [hyear, hb, hcentury]
    rfl
  rw [hmarch]
  dsimp only
  rw [yearStart_eq hcenturyRange hquadRange hyearRange]
  refine ⟨by omega, by omega, by omega, ?_⟩
  -- the next year is in the same four years, or begins four years, a century or an era
  by_cases hlast : year ≤ 2
  · have hnext : days / 146097 * 400 + century * 100 + b / 1461 * 4 + year + 1 =
        days / 146097 * 400 + century * 100 + b / 1461 * 4 + (year + 1) := by ring
    rw [hnext, yearStart_eq hcenturyRange hquadRange (by omega)]
    omega
  by_cases hquad : b / 1461 < 24
  · have hnext : days / 146097 * 400 + century * 100 + b / 1461 * 4 + year + 1 =
        days / 146097 * 400 + century * 100 + (b / 1461 + 1) * 4 + 0 := by omega
    rw [hnext, yearStart_eq hcenturyRange (by omega) (by omega)]
    omega
  by_cases hcent : century < 3
  · have hnext : days / 146097 * 400 + century * 100 + b / 1461 * 4 + year + 1 =
        days / 146097 * 400 + (century + 1) * 100 + 0 * 4 + 0 := by omega
    rw [hnext, yearStart_eq (by omega) (by omega) (by omega)]
    omega
  · have hnext : days / 146097 * 400 + century * 100 + b / 1461 * 4 + year + 1 =
        (days / 146097 + 1) * 400 + 0 * 100 + 0 * 4 + 0 := by omega
    rw [hnext, yearStart_eq (by omega) (by omega) (by omega)]
    omega

/-- A date of the Gregorian calendar; months and days count from 1. -/
structure CivilDate where
  year : Int
  month : Int
  day : Int

/-- The date of a day; the days count from the first of January 1970. -/
def civilDate (days : Int) : CivilDate :=
  let march := toMarch (days + 719468)
  let month := (5 * march.2 + 2) / 153
  let index := march.1 * 12 + month + 2
  { year := index / 12
    month := index % 12 + 1
    day := march.2 - (153 * month + 2) / 5 + 1 }

/-- The day of a date. -/
def daysOfCivil (date : CivilDate) : Int :=
  let index := date.year * 12 + (date.month - 1) - 2
  yearStart (index / 12) + (153 * (index % 12) + 2) / 5 + (date.day - 1) - 719468

theorem civilDate_range (days : Int) :
    1 ≤ (civilDate days).month ∧ (civilDate days).month ≤ 12 ∧
      1 ≤ (civilDate days).day ∧ (civilDate days).day ≤ 31 := by
  obtain ⟨-, hlow, hhigh, -⟩ := toMarch_spec (days + 719468)
  unfold civilDate
  dsimp only
  omega

/-- A day is read back from its date. -/
theorem daysOfCivil_civilDate (days : Int) : daysOfCivil (civilDate days) = days := by
  obtain ⟨hday, hlow, hhigh, -⟩ := toMarch_spec (days + 719468)
  have hmonth : 0 ≤ (5 * (toMarch (days + 719468)).2 + 2) / 153 ∧
      (5 * (toMarch (days + 719468)).2 + 2) / 153 < 12 := by omega
  have hindex : (civilDate days).year * 12 + ((civilDate days).month - 1) - 2 =
      (toMarch (days + 719468)).1 * 12 + (5 * (toMarch (days + 719468)).2 + 2) / 153 := by
    unfold civilDate
    dsimp only
    omega
  unfold daysOfCivil
  dsimp only
  rw [hindex]
  have hyear : ((toMarch (days + 719468)).1 * 12 +
      (5 * (toMarch (days + 719468)).2 + 2) / 153) / 12 = (toMarch (days + 719468)).1 := by omega
  have hrest : ((toMarch (days + 719468)).1 * 12 +
      (5 * (toMarch (days + 719468)).2 + 2) / 153) % 12 =
        (5 * (toMarch (days + 719468)).2 + 2) / 153 := by omega
  rw [hyear, hrest]
  unfold civilDate
  dsimp only
  omega

/-- The date as one number, in the order of its fields. -/
def CivilDate.rank (date : CivilDate) : Int := (date.year * 12 + date.month) * 32 + date.day

/-- Later days have later dates. -/
theorem rank_lt {a b : Int} (h : a < b) : (civilDate a).rank < (civilDate b).rank := by
  obtain ⟨haday, halow, hahigh, hanext⟩ := toMarch_spec (a + 719468)
  obtain ⟨hbday, hblow, hbhigh, -⟩ := toMarch_spec (b + 719468)
  have hyear : (toMarch (a + 719468)).1 ≤ (toMarch (b + 719468)).1 := by
    by_contra hlt
    have hmono := yearStart_mono (a := (toMarch (b + 719468)).1 + 1)
      (b := (toMarch (a + 719468)).1) (by omega)
    have hbnext := (toMarch_spec (b + 719468)).2.2.2
    omega
  unfold CivilDate.rank civilDate
  dsimp only
  rcases hyear.lt_or_eq with hlt | heq
  · omega
  · rw [heq] at haday ⊢
    have hmonth : (5 * (toMarch (a + 719468)).2 + 2) / 153 ≤
        (5 * (toMarch (b + 719468)).2 + 2) / 153 := by omega
    rcases hmonth.lt_or_eq with hlt | hsame
    · omega
    · rw [hsame]
      omega

theorem rank_lt_iff {a b : Int} : (civilDate a).rank < (civilDate b).rank ↔ a < b := by
  refine ⟨fun h => ?_, rank_lt⟩
  by_contra hle
  rcases (not_lt.mp hle).lt_or_eq with hlt | rfl
  · exact lt_asymm h (rank_lt hlt)
  · exact lt_irrefl _ h

/-! ## Texts -/

/-- A digit, of a number from 0 to 9. -/
def digit (n : Int) : CodeUnit := Fin.ofNat _ (48 + n.toNat)

def digits2 (n : Int) : JsString := [digit (n / 10), digit (n % 10)]

def digits3 (n : Int) : JsString := [digit (n / 100), digit (n / 10 % 10), digit (n % 10)]

/-- The digits of a year: four, or a sign and six. -/
def yearText (year : Int) : JsString :=
  if 0 ≤ year ∧ year ≤ 9999 then digits2 (year / 100) ++ digits2 (year % 100)
  else if year < 0 then 45 :: (digits3 (-year / 1000) ++ digits3 (-year % 1000))
  else 43 :: (digits3 (year / 1000) ++ digits3 (year % 1000))

/-- `-MM-DDTHH:mm:ss.sssZ`, for a month, a day and the milliseconds of the day. -/
def timeText (month day ms : Int) : JsString :=
  45 :: (digits2 month ++ 45 :: (digits2 day ++ 84 :: (digits2 (ms / 3600000) ++
    58 :: (digits2 (ms / 60000 % 60) ++ 58 :: (digits2 (ms / 1000 % 60) ++
      46 :: (digits3 (ms % 1000) ++ [90]))))))

abbrev msPerDay : Int := 86400000

/-- A time a date can have, in milliseconds. -/
def IsTime (t : Int) : Prop := -8640000000000000 ≤ t ∧ t ≤ 8640000000000000

instance : DecidablePred IsTime := fun _ => inferInstanceAs (Decidable (_ ∧ _))

/-- `new Date(t).toISOString()`. -/
def toISOString (t : Int) : JsString :=
  yearText (civilDate (t / msPerDay)).year ++
    timeText (civilDate (t / msPerDay)).month (civilDate (t / msPerDay)).day (t % msPerDay)

/-- The year a text begins with, and what follows it. -/
def readYear (s : JsString) : Int × JsString :=
  if s.head? = some 45 then (-(readDecimal (s.tail.take 6) : Int), s.drop 7)
  else if s.head? = some 43 then (readDecimal (s.tail.take 6), s.drop 7)
  else (readDecimal (s.take 4), s.drop 4)

/-- The digits of a text from a place on. -/
def readField (s : JsString) (start count : Nat) : Int := readDecimal ((s.drop start).take count)

/-- The time the fields of a text stand for. -/
def readTime (s : JsString) : Int :=
  let year := (readYear s).1
  let rest := (readYear s).2
  daysOfCivil { year, month := readField rest 1 2, day := readField rest 4 2 } * msPerDay +
    readField rest 7 2 * 3600000 + readField rest 10 2 * 60000 + readField rest 13 2 * 1000 +
    readField rest 16 3

/-- The time whose text this is. -/
def parseISOString (s : JsString) : Option Int :=
  if IsTime (readTime s) ∧ toISOString (readTime s) = s then some (readTime s) else none

section Digits

variable {n m : Int}

theorem digit_val (h : 0 ≤ n ∧ n ≤ 9) : (digit n).val = 48 + n.toNat := by
  unfold digit
  rw [Fin.val_ofNat, Nat.mod_eq_of_lt (by omega)]

theorem readDecimal_digits2 (h : 0 ≤ n ∧ n ≤ 99) : (readDecimal (digits2 n) : Int) = n := by
  unfold readDecimal digits2
  simp only [List.foldl_cons, List.foldl_nil]
  rw [digit_val (by omega), digit_val (by omega)]
  omega

theorem readDecimal_digits3 (h : 0 ≤ n ∧ n ≤ 999) : (readDecimal (digits3 n) : Int) = n := by
  unfold readDecimal digits3
  simp only [List.foldl_cons, List.foldl_nil]
  rw [digit_val (by omega), digit_val (by omega), digit_val (by omega)]
  omega

theorem readDecimal_append (s t : JsString) :
    readDecimal (s ++ t) = t.foldl (fun n c => 10 * n + (c.val - 48)) (readDecimal s) :=
  List.foldl_append

theorem readDecimal_year4 (h : 0 ≤ n ∧ n ≤ 9999) :
    (readDecimal (digits2 (n / 100) ++ digits2 (n % 100)) : Int) = n := by
  have hhigh := readDecimal_digits2 (n := n / 100) (by omega)
  rw [readDecimal_append]
  unfold digits2
  simp only [List.foldl_cons, List.foldl_nil]
  rw [digit_val (n := n % 100 / 10) (by omega), digit_val (n := n % 100 % 10) (by omega)]
  unfold digits2 at hhigh
  omega

theorem readDecimal_year6 (h : 0 ≤ n ∧ n ≤ 999999) :
    (readDecimal (digits3 (n / 1000) ++ digits3 (n % 1000)) : Int) = n := by
  have hhigh := readDecimal_digits3 (n := n / 1000) (by omega)
  rw [readDecimal_append]
  unfold digits3
  simp only [List.foldl_cons, List.foldl_nil]
  rw [digit_val (n := n % 1000 / 100) (by omega), digit_val (n := n % 1000 / 10 % 10) (by omega),
    digit_val (n := n % 1000 % 10) (by omega)]
  unfold digits3 at hhigh
  omega

end Digits


example : toISOString 951782400000 = js "2000-02-29T00:00:00.000Z" := by decide

/-! ## Reading back -/

theorem year_mem_of_isTime {t : Int} (h : IsTime t) :
    -999999 ≤ (civilDate (t / msPerDay)).year ∧ (civilDate (t / msPerDay)).year ≤ 999999 := by
  have hdays : -100000001 < t / msPerDay ∧ t / msPerDay < 100000001 := by
    unfold IsTime at h
    unfold msPerDay
    omega
  have hlow := rank_lt hdays.1
  have hhigh := rank_lt hdays.2
  have hrange := civilDate_range (t / msPerDay)
  have hends : -380000000 < (civilDate (-100000001)).rank ∧
      (civilDate 100000001).rank < 380000000 := by decide +kernel
  have hlow' := hends.1.trans hlow
  have hhigh' := hhigh.trans hends.2
  unfold CivilDate.rank at hlow' hhigh'
  omega

theorem readYear_yearText {year : Int} (h : -999999 ≤ year ∧ year ≤ 999999) (rest : JsString) :
    readYear (yearText year ++ rest) = (year, rest) := by
  unfold yearText
  split_ifs with hfour hneg
  · have hhead : (digits2 (year / 100) ++ digits2 (year % 100) ++ rest).head? =
        some (digit (year / 100 / 10)) := rfl
    have hdigit := digit_val (n := year / 100 / 10) (by omega)
    have hne (c : CodeUnit) (hc : c.val < 48) :
        ¬ (digits2 (year / 100) ++ digits2 (year % 100) ++ rest).head? = some c := by
      rw [hhead]
      intro heq
      rw [Option.some.inj heq] at hdigit
      omega
    unfold readYear
    rw [if_neg (hne 45 (by decide)), if_neg (hne 43 (by decide))]
    exact Prod.ext (readDecimal_year4 hfour) rfl
  · have hread := readDecimal_year6 (n := -year) (by omega)
    refine Prod.ext ?_ rfl
    exact (congrArg Neg.neg hread).trans (Int.neg_neg year)
  · exact Prod.ext (readDecimal_year6 (n := year) (by omega)) rfl

/-- The fields of a text are read back. -/
theorem readTime_toISOString {t : Int} (h : IsTime t) : readTime (toISOString t) = t := by
  obtain ⟨hmonth, hmonth', hday, hday'⟩ := civilDate_range (t / msPerDay)
  have hms : 0 ≤ t % msPerDay ∧ t % msPerDay < msPerDay := by
    unfold msPerDay
    omega
  obtain ⟨ms, hmsEq⟩ : ∃ ms, ms = t % msPerDay := ⟨_, rfl⟩
  have hdays := daysOfCivil_civilDate (t / msPerDay)
  have ht := Int.mul_ediv_add_emod t msPerDay
  unfold readTime toISOString
  rw [readYear_yearText (year_mem_of_isTime h), ← hmsEq]
  rw [← hmsEq] at hms ht
  generalize civilDate (t / msPerDay) = date at *
  have hfields : readField (timeText date.month date.day ms) 1 2 = date.month ∧
      readField (timeText date.month date.day ms) 4 2 = date.day ∧
      readField (timeText date.month date.day ms) 7 2 = ms / 3600000 ∧
      readField (timeText date.month date.day ms) 10 2 = ms / 60000 % 60 ∧
      readField (timeText date.month date.day ms) 13 2 = ms / 1000 % 60 ∧
      readField (timeText date.month date.day ms) 16 3 = ms % 1000 := by
    unfold msPerDay at hms
    exact ⟨readDecimal_digits2 (by omega), readDecimal_digits2 (by omega),
      readDecimal_digits2 (by omega), readDecimal_digits2 (by omega),
      readDecimal_digits2 (by omega), readDecimal_digits3 (by omega)⟩
  obtain ⟨hfmonth, hfday, hhour, hminute, hsecond, hmilli⟩ := hfields
  dsimp only
  rw [hfmonth, hfday, hhour, hminute, hsecond, hmilli, hdays]
  unfold msPerDay at ht ⊢
  omega

/-- **A time is read back from its text.** -/
theorem parseISOString_toISOString {t : Int} (h : IsTime t) :
    parseISOString (toISOString t) = some t := by
  unfold parseISOString
  rw [readTime_toISOString h]
  exact if_pos ⟨h, rfl⟩

theorem toISOString_injOn {t u : Int} (ht : IsTime t) (hu : IsTime u)
    (h : toISOString t = toISOString u) : t = u := by
  have hparse := parseISOString_toISOString ht
  rw [h, parseISOString_toISOString hu] at hparse
  exact (Option.some.inj hparse).symm

/-- `Date.parse`, of which is asked that it reads what `toISOString` writes; `none` is `NaN`. -/
structure DateParse where
  parse : JsString → Option Int
  isTime_of_parse {s : JsString} {t : Int} : parse s = some t → IsTime t
  parse_toISOString {t : Int} : IsTime t → parse (toISOString t) = some t

/-- The `Date.parse` that reads nothing else. -/
def isoParse : DateParse where
  parse := parseISOString
  isTime_of_parse {s t} h := by
    unfold parseISOString at h
    split_ifs at h with htime
    obtain rfl := Option.some.inj h
    exact htime.1
  parse_toISOString := parseISOString_toISOString

/-- A text that is the text of the time it is parsed to is the text of a time. -/
theorem DateParse.exists_toISOString_iff (dateParse : DateParse) {s : JsString} :
    (∃ t, dateParse.parse s = some t ∧ toISOString t = s) ↔ ∃ t, IsTime t ∧ toISOString t = s := by
  constructor
  · rintro ⟨t, hparse, htext⟩
    exact ⟨t, dateParse.isTime_of_parse hparse, htext⟩
  · rintro ⟨t, htime, rfl⟩
    exact ⟨t, dateParse.parse_toISOString htime, rfl⟩


/-! ## The order of texts -/

/-- A time in the years 0 to 9999. -/
def IsFourDigitTime (t : Int) : Prop := -62167219200000 ≤ t ∧ t ≤ 253402300799999

instance : DecidablePred IsFourDigitTime := fun _ => inferInstanceAs (Decidable (_ ∧ _))

theorem IsFourDigitTime.isTime {t : Int} (h : IsFourDigitTime t) : IsTime t := by
  unfold IsFourDigitTime at h
  unfold IsTime
  omega

/-- A time is in the years 0 to 9999 where its text has the four digits of one. -/
theorem isFourDigitTime_iff {t : Int} : IsFourDigitTime t ↔
    0 ≤ (civilDate (t / msPerDay)).year ∧ (civilDate (t / msPerDay)).year ≤ 9999 := by
  have hrange := civilDate_range (t / msPerDay)
  have hends : (civilDate (-719529)).rank = 31 ∧ (civilDate 2932897).rank = 3840033 := by
    decide +kernel
  have hrank : (civilDate (t / msPerDay)).rank =
      ((civilDate (t / msPerDay)).year * 12 + (civilDate (t / msPerDay)).month) * 32 +
        (civilDate (t / msPerDay)).day := rfl
  have hdays : IsFourDigitTime t ↔ -719529 < t / msPerDay ∧ t / msPerDay < 2932897 := by
    unfold IsFourDigitTime msPerDay
    omega
  have hlow := rank_lt_iff (a := -719529) (b := t / msPerDay)
  have hhigh := rank_lt_iff (a := t / msPerDay) (b := 2932897)
  rw [hends.1] at hlow
  rw [hends.2] at hhigh
  rw [hdays, ← hlow, ← hhigh]
  omega

section Order

variable {n m : Int} {s s' : JsString}

theorem digit_lt_digit (hn : 0 ≤ n ∧ n ≤ 9) (hm : 0 ≤ m ∧ m ≤ 9) : digit n < digit m ↔ n < m := by
  rw [Fin.lt_def, digit_val hn, digit_val hm]
  omega

theorem digit_inj (hn : 0 ≤ n ∧ n ≤ 9) (hm : 0 ≤ m ∧ m ≤ 9) : digit n = digit m ↔ n = m := by
  rw [Fin.ext_iff, digit_val hn, digit_val hm]
  omega

theorem digits2_append_lt (hn : 0 ≤ n ∧ n ≤ 99) (hm : 0 ≤ m ∧ m ≤ 99) :
    digits2 n ++ s < digits2 m ++ s' ↔ n < m ∨ n = m ∧ s < s' := by
  unfold digits2
  simp only [List.cons_append, List.nil_append, List.cons_lt_cons_iff]
  rw [digit_lt_digit (by omega) (by omega), digit_lt_digit (by omega) (by omega),
    digit_inj (by omega) (by omega), digit_inj (by omega) (by omega)]
  by_cases hs : s < s'
  · simp only [hs, and_true]
    omega
  · simp only [hs, and_false, or_false]
    omega

theorem digits3_append_lt (hn : 0 ≤ n ∧ n ≤ 999) (hm : 0 ≤ m ∧ m ≤ 999) :
    digits3 n ++ s < digits3 m ++ s' ↔ n < m ∨ n = m ∧ s < s' := by
  unfold digits3
  simp only [List.cons_append, List.nil_append, List.cons_lt_cons_iff]
  rw [digit_lt_digit (by omega) (by omega), digit_lt_digit (by omega) (by omega),
    digit_lt_digit (by omega) (by omega), digit_inj (by omega) (by omega),
    digit_inj (by omega) (by omega), digit_inj (by omega) (by omega)]
  by_cases hs : s < s'
  · simp only [hs, and_true]
    omega
  · simp only [hs, and_false, or_false]
    omega

theorem mark_lt {c : CodeUnit} : c :: s < c :: s' ↔ s < s' := by
  rw [List.cons_lt_cons_iff]
  simp

/-- The texts of a month, a day and a time of the day are ordered field by field. -/
theorem timeText_lt {month month' day day' ms ms' : Int} (hmonth : 0 ≤ month ∧ month ≤ 99)
    (hmonth' : 0 ≤ month' ∧ month' ≤ 99) (hday : 0 ≤ day ∧ day ≤ 99)
    (hday' : 0 ≤ day' ∧ day' ≤ 99) (hms : 0 ≤ ms ∧ ms < msPerDay)
    (hms' : 0 ≤ ms' ∧ ms' < msPerDay) :
    timeText month day ms < timeText month' day' ms' ↔
      month < month' ∨ month = month' ∧ (day < day' ∨ day = day' ∧ ms < ms') := by
  unfold msPerDay at hms hms'
  have hlast : ¬ ([90] : JsString) < [90] := List.lt_irrefl _
  unfold timeText
  rw [mark_lt, digits2_append_lt hmonth hmonth', mark_lt, digits2_append_lt hday hday', mark_lt,
    digits2_append_lt (by omega) (by omega), mark_lt, digits2_append_lt (by omega) (by omega),
    mark_lt, digits2_append_lt (by omega) (by omega), mark_lt,
    digits3_append_lt (by omega) (by omega)]
  simp only [hlast, and_false, or_false]
  have htime : (ms / 3600000 < ms' / 3600000 ∨ ms / 3600000 = ms' / 3600000 ∧
      (ms / 60000 % 60 < ms' / 60000 % 60 ∨ ms / 60000 % 60 = ms' / 60000 % 60 ∧
        (ms / 1000 % 60 < ms' / 1000 % 60 ∨ ms / 1000 % 60 = ms' / 1000 % 60 ∧
          ms % 1000 < ms' % 1000))) ↔ ms < ms' := by omega
  rw [htime]

end Order

/-- **In the years 0 to 9999, texts are ordered as the times are.** -/
theorem toISOString_lt_iff {t u : Int} (ht : IsFourDigitTime t) (hu : IsFourDigitTime u) :
    toISOString t < toISOString u ↔ t < u := by
  have htyear := isFourDigitTime_iff.mp ht
  have huyear := isFourDigitTime_iff.mp hu
  have htrange := civilDate_range (t / msPerDay)
  have hurange := civilDate_range (u / msPerDay)
  have htms : 0 ≤ t % msPerDay ∧ t % msPerDay < msPerDay := by
    unfold msPerDay
    omega
  have hums : 0 ≤ u % msPerDay ∧ u % msPerDay < msPerDay := by
    unfold msPerDay
    omega
  have hrank := rank_lt_iff (a := t / msPerDay) (b := u / msPerDay)
  have hrank' := rank_lt_iff (a := u / msPerDay) (b := t / msPerDay)
  unfold CivilDate.rank at hrank hrank'
  unfold toISOString yearText
  rw [if_pos htyear, if_pos huyear, List.append_assoc, List.append_assoc,
    digits2_append_lt (by omega) (by omega), digits2_append_lt (by omega) (by omega),
    timeText_lt (by omega) (by omega) (by omega) (by omega) htms hums]
  have hparts : t < u ↔ t / msPerDay < u / msPerDay ∨
      t / msPerDay = u / msPerDay ∧ t % msPerDay < u % msPerDay := by
    unfold msPerDay
    omega
  rw [hparts]
  omega

theorem toISOString_le_iff {t u : Int} (ht : IsFourDigitTime t) (hu : IsFourDigitTime u) :
    toISOString t ≤ toISOString u ↔ t ≤ u := by
  rw [← not_lt, toISOString_lt_iff hu ht, not_lt]

/-- A text that a time of the years 0 to 9999 does not pass is one of these years. -/
theorem isFourDigitTime_of_le {t u : Int} (ht : IsFourDigitTime t)
    (h : toISOString t ≤ toISOString u) : IsFourDigitTime u := by
  have htyear := isFourDigitTime_iff.mp ht
  by_contra hu
  rw [isFourDigitTime_iff] at hu
  refine absurd h (not_le.mpr ?_)
  have hsign (c : CodeUnit) (rest rest' : JsString) (hc : c.val < 48) :
      c :: rest < digit ((civilDate (t / msPerDay)).year / 100 / 10) :: rest' := by
    refine List.cons_lt_cons_iff.mpr (Or.inl ?_)
    rw [Fin.lt_def, digit_val (by omega)]
    omega
  unfold toISOString
  rw [yearText, yearText, if_neg hu, if_pos htyear]
  split_ifs with hneg
  · exact hsign 45 _ _ (by decide)
  · exact hsign 43 _ _ (by decide)

/-- The text of a time has 24 units in the years 0 to 9999, and 27 outside. -/
theorem length_toISOString (t : Int) :
    (toISOString t).length = 24 ↔ IsFourDigitTime t := by
  have htime : (timeText (civilDate (t / msPerDay)).month (civilDate (t / msPerDay)).day
      (t % msPerDay)).length = 20 := rfl
  rw [isFourDigitTime_iff]
  unfold toISOString yearText
  rw [List.length_append, htime]
  split_ifs with hfour hneg
  · exact iff_of_true rfl hfour
  · exact iff_of_false (show ¬ 7 + 20 = 24 by decide) hfour
  · exact iff_of_false (show ¬ 7 + 20 = 24 by decide) hfour


/-! ## The shape of texts -/

/-- A text has the units of a pattern, with any digit in the place of a zero. -/
def matchesShape : JsString → JsString → Bool
  | [], [] => true
  | p :: pattern, c :: text => (if p = 48 then IsDigit c else c = p) && matchesShape pattern text
  | _, _ => false

/-- `\d{4}-\d{2}-\d{2}T\d{2}:\d{2}:\d{2}\.\d{3}Z`. -/
def isoShape : JsString := js "0000-00-00T00:00:00.000Z"

theorem isDigit_digit {n : Int} (h : 0 ≤ n ∧ n ≤ 9) : IsDigit (digit n) := by
  have hval := digit_val h
  constructor
  · show 48 ≤ (digit n).val
    omega
  · show (digit n).val ≤ 57
    omega

/-- The text of a time in the years 0 to 9999 has the usual shape. -/
theorem matchesShape_toISOString {t : Int} (h : IsFourDigitTime t) :
    matchesShape isoShape (toISOString t) = true := by
  have hyear := isFourDigitTime_iff.mp h
  have hdate := civilDate_range (t / msPerDay)
  have hshape : isoShape = [48, 48, 48, 48, 45, 48, 48, 45, 48, 48, 84, 48, 48, 58, 48, 48, 58, 48,
      48, 46, 48, 48, 48, 90] := by
    decide
  have hms : 0 ≤ t % msPerDay ∧ t % msPerDay < 86400000 :=
    ⟨Int.emod_nonneg _ (by decide), Int.emod_lt_of_pos _ (by decide)⟩
  rw [toISOString, yearText, if_pos hyear, hshape]
  simp only [matchesShape, timeText, digits2, digits3, List.cons_append, List.nil_append,
    Bool.and_eq_true, decide_eq_true_eq, if_true]
  refine ⟨?_, ?_, ?_, ?_, rfl, ?_, ?_, rfl, ?_, ?_, rfl, ?_, ?_, rfl, ?_, ?_, rfl, ?_, ?_, rfl, ?_,
    ?_, ?_, rfl, trivial⟩
  all_goals exact isDigit_digit (by omega)

theorem length_eq_of_matchesShape {pattern text : JsString}
    (h : matchesShape pattern text = true) : text.length = pattern.length := by
  induction pattern, text using matchesShape.induct with
  | case1 => rfl
  | case2 p pattern c text ih =>
    rw [matchesShape, Bool.and_eq_true] at h
    rw [List.length_cons, List.length_cons, ih h.2]
  | case3 pattern text hnil hcons =>
    rw [matchesShape] at h
    · cases h
    · exact hnil
    · exact hcons

theorem length_of_matchesShape {text : JsString} (h : matchesShape isoShape text = true) :
    text.length = 24 :=
  (length_eq_of_matchesShape h).trans (by decide)

theorem mem_of_matchesShape {pattern text : JsString} (h : matchesShape pattern text = true) :
    ∀ c ∈ text, IsDigit c ∨ c ∈ pattern := by
  induction pattern, text using matchesShape.induct with
  | case1 => exact List.forall_mem_nil _
  | case2 p pattern c text ih =>
    rw [matchesShape, Bool.and_eq_true] at h
    refine List.forall_mem_cons.mpr ⟨?_, fun d hd => ?_⟩
    · split_ifs at h with hp
      · exact .inl (of_decide_eq_true h.1)
      · exact .inr (of_decide_eq_true h.1 ▸ List.mem_cons_self)
    · exact (ih h.2 d hd).imp_right (List.mem_cons_of_mem p)
  | case3 pattern text hnil hcons =>
    rw [matchesShape] at h
    · cases h
    · exact hnil
    · exact hcons

end Web
