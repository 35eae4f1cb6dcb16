import HonoWarden.TextSend.Access
import HonoWarden.Web.Instant

/-!
# Instants of text Sends

Model of `parseIsoInstant`, `canonicalizeTextSendInstant` and `nextTextSendRevisionDate`
(`src/domain/text-send.ts`). `Date.parse` of a text of the shape is the time of its fields.

Results:
* `parseIsoInstant_eq_some_iff`: what is accepted, and as which time;
* `parseIsoInstant_nextTextSendRevisionText`: the next revision date is the text of the one the
  repository compares;
* **`canonicalInstant_exact_iff`**: canonical texts are fixed and ordered as the instants where
  these lie in the years 0 to 9999.
-/

namespace HonoWarden

open Web

/-! ## The code -/

/-- The ranges `parseIsoInstant` refuses fields outside of. -/
def OutOfRange (fields : IsoFields) : Prop :=
  let offsetHour := (fields.offset.map IsoOffset.hour).getD 0
  let offsetMinute := (fields.offset.map IsoOffset.minute).getD 0
  fields.month < 1 ∨ 12 < fields.month ∨ fields.day < 1 ∨ 31 < fields.day ∨ 23 < fields.hour ∨
    59 < fields.minute ∨ 59 < fields.second ∨ 14 < offsetHour ∨ 59 < offsetMinute ∨
    (offsetHour = 14 ∧ offsetMinute ≠ 0)

instance : DecidablePred OutOfRange := fun _ => inferInstanceAs (Decidable (_ ∨ _))

/-- `localCalendar` has the fields it was set to. -/
def KeepsFields (fields : IsoFields) : Prop :=
  let localCalendar := fields.localTime
  (civilDate (localCalendar / msPerDay)).year = fields.year ∧
    (civilDate (localCalendar / msPerDay)).month = fields.month ∧
    (civilDate (localCalendar / msPerDay)).day = fields.day ∧
    localCalendar % msPerDay / 3600000 = fields.hour ∧
    localCalendar % msPerDay / 60000 % 60 = fields.minute ∧
    localCalendar % msPerDay / 1000 % 60 = fields.second ∧
    localCalendar % msPerDay % 1000 = fractionMs fields.fraction

instance : DecidablePred KeepsFields := fun _ => inferInstanceAs (Decidable (_ ∧ _))

/-- `parseIsoInstant`; `none` is `null`. -/
def parseIsoInstant (value : JsString) : Option Int :=
  (readIsoFields value).bind fun fields =>
    if OutOfRange fields then none
    else if ¬ KeepsFields fields then none
    else some fields.instant

/-- `canonicalizeTextSendInstant`. -/
def canonicalizeTextSendInstant (value : JsString) : Option JsString :=
  (parseIsoInstant value).map toISOString

/-- `nextTextSendRevisionDate`, on the texts. -/
def nextTextSendRevisionText (currentRevisionDate candidateRevisionDate : JsString) :
    Except String JsString :=
  match parseIsoInstant currentRevisionDate, parseIsoInstant candidateRevisionDate with
  | some current, some candidate =>
    let next := toISOString (max candidate (current + 1))
    if parseIsoInstant next = none then .error "Text Send revision date cannot advance."
    else .ok next
  | _, _ => .error "Text Send revision dates must be valid."

/-! ## What is accepted -/

/-- An instant of the calendar, with an offset of at most fourteen hours. -/
structure Admitted (fields : IsoFields) : Prop where
  date : CivilDate.Exists { year := fields.year, month := fields.month, day := fields.day }
  hour : fields.hour ≤ 23
  minute : fields.minute ≤ 59
  second : fields.second ≤ 59
  offset : ∀ offset ∈ fields.offset, offset.minute ≤ 59 ∧ offset.hour * 60 + offset.minute ≤ 14 * 60

/-- Fields that were read are not negative. -/
structure NonNegative (fields : IsoFields) : Prop where
  hour : 0 ≤ fields.hour
  minute : 0 ≤ fields.minute
  second : 0 ≤ fields.second
  offset : ∀ offset ∈ fields.offset, 0 ≤ offset.hour ∧ 0 ≤ offset.minute

theorem nonNegative_of_readIsoFields {value : JsString} {fields : IsoFields}
    (h : readIsoFields value = some fields) : NonNegative fields := by
  unfold readIsoFields at h
  split_ifs at h
  obtain ⟨found, -, h⟩ := Option.bind_eq_some_iff.mp h
  obtain ⟨offset, hoffset, rfl⟩ := Option.map_eq_some_iff.mp h
  refine ⟨Int.natCast_nonneg _, Int.natCast_nonneg _, Int.natCast_nonneg _, ?_⟩
  intro o ho
  unfold readZone at hoffset
  split_ifs at hoffset
  · obtain rfl := Option.some.inj hoffset
    exact absurd ho (Option.not_mem_none o)
  · obtain rfl := Option.some.inj hoffset
    obtain rfl := Option.some.inj ho
    exact ⟨Int.natCast_nonneg _, Int.natCast_nonneg _⟩

theorem fractionMs_lt {fraction : JsString} (h : ∀ c ∈ fraction, IsDigit c) :
    fractionMs fraction < 1000 := by
  have hless := readDecimal_lt h
  rw [fractionMs_eq h, Nat.div_lt_iff_lt_mul (Nat.pow_pos (by decide))]
  omega

/-- The day and the time of the day of a local time. -/
theorem localTime_split {fields : IsoFields} (h : NonNegative fields) (hhour : fields.hour ≤ 23)
    (hminute : fields.minute ≤ 59) (hsecond : fields.second ≤ 59)
    (hms : fractionMs fields.fraction < 1000) :
    fields.localTime / msPerDay =
        daysOfCivil { year := fields.year, month := fields.month, day := fields.day } ∧
      fields.localTime % msPerDay = fields.hour * 3600000 + fields.minute * 60000 +
        fields.second * 1000 + fractionMs fields.fraction := by
  obtain ⟨hhour', hminute', hsecond', -⟩ := h
  unfold IsoFields.localTime msPerDay
  omega

/-- The code keeps the fields of a date the calendar has, and of no other. -/
theorem keepsFields_iff {fields : IsoFields} (h : NonNegative fields) (hhour : fields.hour ≤ 23)
    (hminute : fields.minute ≤ 59) (hsecond : fields.second ≤ 59)
    (hms : fractionMs fields.fraction < 1000) : KeepsFields fields ↔
      CivilDate.Exists { year := fields.year, month := fields.month, day := fields.day } := by
  obtain ⟨hday, htime⟩ := localTime_split h hhour hminute hsecond hms
  obtain ⟨hhour', hminute', hsecond', -⟩ := h
  unfold KeepsFields
  dsimp only
  rw [hday, htime, ← civilDate_daysOfCivil_iff]
  constructor
  · rintro ⟨hyear, hmonth, hdayOf, -⟩
    generalize civilDate (daysOfCivil
      { year := fields.year, month := fields.month, day := fields.day }) = date at *
    cases date
    rw [← hyear, ← hmonth, ← hdayOf]
  · intro hdate
    rw [hdate]
    refine ⟨rfl, rfl, rfl, ?_⟩
    omega

/-- The offsets that pass are those of at most fourteen hours. -/
theorem offset_iff {offset : Option IsoOffset}
    (h : ∀ o ∈ offset, 0 ≤ o.hour ∧ 0 ≤ o.minute) :
    ((offset.map IsoOffset.hour).getD 0 ≤ 14 ∧ (offset.map IsoOffset.minute).getD 0 ≤ 59 ∧
        ((offset.map IsoOffset.hour).getD 0 = 14 → (offset.map IsoOffset.minute).getD 0 = 0)) ↔
      ∀ o ∈ offset, o.minute ≤ 59 ∧ o.hour * 60 + o.minute ≤ 14 * 60 := by
  cases offset with
  | none => simp
  | some o =>
    obtain ⟨hhour, hminute⟩ := h o rfl
    simp only [Option.map_some, Option.getD_some, Option.mem_def, Option.some.injEq,
      forall_eq']
    omega

/-- The checks of the code are those of the calendar. -/
theorem checks_iff {fields : IsoFields} (hfields : NonNegative fields)
    (hms : fractionMs fields.fraction < 1000) :
    ¬ OutOfRange fields ∧ KeepsFields fields ↔ Admitted fields := by
  have hoffset := offset_iff hfields.offset
  have hrange : ¬ OutOfRange fields ↔ (1 ≤ fields.month ∧ fields.month ≤ 12 ∧ 1 ≤ fields.day ∧
      fields.day ≤ 31) ∧ (fields.hour ≤ 23 ∧ fields.minute ≤ 59 ∧ fields.second ≤ 59) ∧
      ∀ o ∈ fields.offset, o.minute ≤ 59 ∧ o.hour * 60 + o.minute ≤ 14 * 60 := by
    rw [← hoffset]
    unfold OutOfRange
    dsimp only
    omega
  rw [hrange]
  constructor
  · rintro ⟨⟨-, ⟨hhour, hminute, hsecond⟩, hzone⟩, hkeeps⟩
    exact ⟨(keepsFields_iff hfields hhour hminute hsecond hms).mp hkeeps, hhour, hminute, hsecond,
      hzone⟩
  · rintro ⟨hdate, hhour, hminute, hsecond, hzone⟩
    refine ⟨⟨⟨hdate.1, hdate.2.1, hdate.2.2.1, ?_⟩, ⟨hhour, hminute, hsecond⟩, hzone⟩,
      (keepsFields_iff hfields hhour hminute hsecond hms).mpr hdate⟩
    have hmonth := hdate.2.2.2
    unfold daysInMonth at hmonth
    dsimp only at hmonth
    split_ifs at hmonth <;> omega

/-- **What is accepted, and as which time.** -/
theorem parseIsoInstant_eq_some_iff {value : JsString} {t : Int} :
    parseIsoInstant value = some t ↔
      ∃ fields, readIsoFields value = some fields ∧ Admitted fields ∧ fields.instant = t := by
  unfold parseIsoInstant
  rw [Option.bind_eq_some_iff]
  refine exists_congr fun fields => and_congr_right fun hread => ?_
  have hchecks := checks_iff (nonNegative_of_readIsoFields hread)
    (fractionMs_lt (isDigit_of_readIsoFields hread))
  rw [← hchecks]
  by_cases hrange : OutOfRange fields
  · rw [if_pos hrange]
    exact iff_of_false (fun h => by cases h) fun h => h.1.1 hrange
  rw [if_neg hrange]
  by_cases hkeeps : KeepsFields fields
  · rw [if_neg (not_not.mpr hkeeps), Option.some.injEq]
    exact (and_iff_right ⟨hrange, hkeeps⟩).symm
  · rw [if_pos hkeeps]
    exact iff_of_false (fun h => by cases h) fun h => hkeeps h.1.2

/-! ## Canonical texts -/

theorem admitted_isoFieldsOf (t : Int) : Admitted (isoFieldsOf t) := by
  have hms : 0 ≤ t % msPerDay ∧ t % msPerDay < 86400000 :=
    ⟨Int.emod_nonneg _ (by decide), Int.emod_lt_of_pos _ (by decide)⟩
  refine ⟨civilDate_exists _, ?_, ?_, ?_, fun o ho => absurd ho (Option.not_mem_none o)⟩
  all_goals
    unfold isoFieldsOf
    dsimp only
    omega

/-- **The text of a time is accepted where the time lies in the years 0 to 9999.** -/
theorem parseIsoInstant_toISOString (t : Int) :
    parseIsoInstant (toISOString t) = if IsFourDigitTime t then some t else none := by
  split_ifs with htime
  · exact parseIsoInstant_eq_some_iff.mpr ⟨_, readIsoFields_toISOString htime,
      admitted_isoFieldsOf t, instant_isoFieldsOf t⟩
  · unfold parseIsoInstant
    rw [readIsoFields_outside htime, Option.bind_none]

theorem canonicalizeTextSendInstant_toISOString_iff {t : Int} :
    canonicalizeTextSendInstant (toISOString t) = some (toISOString t) ↔ IsFourDigitTime t := by
  unfold canonicalizeTextSendInstant
  rw [parseIsoInstant_toISOString]
  split_ifs with htime
  · exact iff_of_true rfl htime
  · exact iff_of_false (fun h => by cases h) htime

/-- The next revision is the candidate, or a millisecond after the current one. -/
theorem nextTextSendRevisionText_spec {current candidate next : JsString}
    (h : nextTextSendRevisionText current candidate = .ok next) :
    ∃ t u, parseIsoInstant current = some t ∧ parseIsoInstant candidate = some u ∧
      parseIsoInstant next = some (max u (t + 1)) ∧
      canonicalizeTextSendInstant next = some next := by
  unfold nextTextSendRevisionText at h
  split at h
  · rename_i t u hcurrent hcandidate
    dsimp only at h
    have hparse := parseIsoInstant_toISOString (max u (t + 1))
    by_cases htime : IsFourDigitTime (max u (t + 1))
    · rw [if_pos htime] at hparse
      rw [hparse, if_neg (Option.some_ne_none _)] at h
      obtain rfl := Except.ok.inj h
      exact ⟨t, u, hcurrent, hcandidate, hparse,
        canonicalizeTextSendInstant_toISOString_iff.mpr htime⟩
    · rw [if_neg htime] at hparse
      rw [if_pos hparse] at h
      cases h
  · cases h

/-- The texts are those of the timestamps the repository compares. -/
theorem parseIsoInstant_nextTextSendRevisionText {current candidate : Timestamp}
    {next : JsString} (h : nextTextSendRevisionText (toISOString current) (toISOString candidate) =
      .ok next) : parseIsoInstant next = some (nextTextSendRevisionDate current candidate : Int) := by
  obtain ⟨t, u, ht, hu, hnext, -⟩ := nextTextSendRevisionText_spec h
  rw [parseIsoInstant_toISOString] at ht hu
  split_ifs at ht hu
  obtain rfl := Option.some.inj ht
  obtain rfl := Option.some.inj hu
  rw [hnext]
  unfold nextTextSendRevisionDate
  push_cast
  rfl

/-! ## Exactness -/

/-- The instant of the fields lies in the years 0 to 9999. -/
def InYears (fields : IsoFields) : Prop :=
  -62167219200 ≤ fields.exact ∧ fields.exact < 253402300800

/-- The text is an accepted one of the instant of the fields, rounded down to a millisecond. -/
def Denotes (text : JsString) (fields : IsoFields) : Prop :=
  ∃ found, readIsoFields text = some found ∧ Admitted found ∧
    1000 * found.exact = (⌊1000 * fields.exact⌋ : ℚ)

theorem inYears_iff {fields : IsoFields} :
    InYears fields ↔ IsFourDigitTime ⌊1000 * fields.exact⌋ := by
  have hlow : -62167219200 ≤ fields.exact ↔ -62167219200000 ≤ ⌊1000 * fields.exact⌋ := by
    rw [Int.le_floor]
    push_cast
    constructor <;> intro h <;> linarith
  have hhigh : fields.exact < 253402300800 ↔ ⌊1000 * fields.exact⌋ < 253402300800000 := by
    rw [Int.floor_lt]
    push_cast
    constructor <;> intro h <;> linarith
  unfold InYears IsFourDigitTime
  rw [hlow, hhigh]
  exact and_congr_right fun _ => Int.lt_iff_add_one_le.trans (by omega)

theorem canonicalizeTextSendInstant_isSome_iff {value : JsString} :
    (canonicalizeTextSendInstant value).isSome = true ↔
      ∃ fields, readIsoFields value = some fields ∧ Admitted fields := by
  unfold canonicalizeTextSendInstant
  rw [Option.isSome_map, Option.isSome_iff_exists]
  constructor
  · rintro ⟨t, ht⟩
    obtain ⟨fields, hread, hadmitted, -⟩ := parseIsoInstant_eq_some_iff.mp ht
    exact ⟨fields, hread, hadmitted⟩
  · rintro ⟨fields, hread, hadmitted⟩
    exact ⟨_, parseIsoInstant_eq_some_iff.mpr ⟨fields, hread, hadmitted, rfl⟩⟩

/-- The text of what is accepted: that of the instant, rounded down to a millisecond. -/
theorem eq_toISOString_of_canonicalize {value text : JsString} {fields : IsoFields}
    (hread : readIsoFields value = some fields)
    (h : canonicalizeTextSendInstant value = some text) :
    text = toISOString ⌊1000 * fields.exact⌋ := by
  obtain ⟨t, ht, rfl⟩ := Option.map_eq_some_iff.mp h
  obtain ⟨found, hfound, -, rfl⟩ := parseIsoInstant_eq_some_iff.mp ht
  obtain rfl := Option.some.inj (hread.symm.trans hfound)
  rw [instant_eq_floor (isDigit_of_readIsoFields hread)]

theorem denotes_toISOString {fields : IsoFields} (h : InYears fields) :
    Denotes (toISOString ⌊1000 * fields.exact⌋) fields :=
  ⟨_, readIsoFields_toISOString (inYears_iff.mp h), admitted_isoFieldsOf _, exact_isoFieldsOf _⟩

/-- **Where canonical texts are canonical.** What is accepted is what exists in the calendar, and
its text is that of the instant. The texts of two instants are accepted, unchanged and in the
order of the instants where both instants lie in the years 0 to 9999, and nowhere else. -/
theorem canonicalInstant_exact_iff (value value' : JsString) :
    ((canonicalizeTextSendInstant value).isSome = true ↔
      ∃ fields, readIsoFields value = some fields ∧ Admitted fields) ∧
    (∀ text fields, readIsoFields value = some fields →
      canonicalizeTextSendInstant value = some text →
        text = toISOString ⌊1000 * fields.exact⌋ ∧
          (Denotes text fields ∧ canonicalizeTextSendInstant text = some text ↔
            InYears fields)) ∧
    ∀ text fields text' fields', readIsoFields value = some fields →
      canonicalizeTextSendInstant value = some text → readIsoFields value' = some fields' →
      canonicalizeTextSendInstant value' = some text' →
        (canonicalizeTextSendInstant text = some text ∧
            canonicalizeTextSendInstant text' = some text' ∧
            (text < text' ↔ ⌊1000 * fields.exact⌋ < ⌊1000 * fields'.exact⌋) ↔
          InYears fields ∧ InYears fields') := by
  refine ⟨canonicalizeTextSendInstant_isSome_iff, ?_, ?_⟩
  · intro text fields hread h
    obtain rfl := eq_toISOString_of_canonicalize hread h
    refine ⟨rfl, ?_⟩
    rw [canonicalizeTextSendInstant_toISOString_iff, ← inYears_iff]
    exact ⟨fun h => h.2, fun h => ⟨denotes_toISOString h, h⟩⟩
  · intro text fields text' fields' hread h hread' h'
    obtain rfl := eq_toISOString_of_canonicalize hread h
    obtain rfl := eq_toISOString_of_canonicalize hread' h'
    rw [canonicalizeTextSendInstant_toISOString_iff, canonicalizeTextSendInstant_toISOString_iff,
      inYears_iff, inYears_iff]
    constructor
    · rintro ⟨hfour, hfour', -⟩
      exact ⟨hfour, hfour'⟩
    · rintro ⟨hfour, hfour'⟩
      exact ⟨hfour, hfour', toISOString_lt_iff hfour hfour'⟩

theorem canonicalInstant_exact_leapDay :
    canonicalizeTextSendInstant (js "2028-02-29T23:30:00.1239-01:45") =
        some (js "2028-03-01T01:15:00.123Z") ∧
      ∃ fields, readIsoFields (js "2028-02-29T23:30:00.1239-01:45") = some fields ∧
        InYears fields := by
  have hcanonical : canonicalizeTextSendInstant (js "2028-02-29T23:30:00.1239-01:45") =
      some (js "2028-03-01T01:15:00.123Z") := by
    decide +kernel
  have hunchanged : canonicalizeTextSendInstant (js "2028-03-01T01:15:00.123Z") =
      some (js "2028-03-01T01:15:00.123Z") := by
    decide +kernel
  obtain ⟨haccepted, hsingle, hpairs⟩ := canonicalInstant_exact_iff
    (js "2028-02-29T23:30:00.1239-01:45") (js "2028-02-29T23:30:00.1239-01:45")
  obtain ⟨fields, hread, -⟩ := haccepted.mp (Option.isSome_of_mem hcanonical)
  refine ⟨hcanonical, fields, hread, ?_⟩
  refine ((hpairs _ _ _ _ hread hcanonical hread hcanonical).mp
    ⟨hunchanged, hunchanged, ?_⟩).1
  exact iff_of_false (List.lt_irrefl _) (lt_irrefl _)

/-- An offset moves the first instant of the year 0 before it: its text is not accepted. -/
theorem canonicalInstant_not_canonical :
    ¬ ∀ value text, canonicalizeTextSendInstant value = some text →
      canonicalizeTextSendInstant text = some text := by
  intro h
  have hcanonical : canonicalizeTextSendInstant (js "0000-01-01T00:00:00+14:00") =
      some (js "-000001-12-31T10:00:00.000Z") := by
    decide +kernel
  have hrefused : canonicalizeTextSendInstant (js "-000001-12-31T10:00:00.000Z") = none := by
    decide +kernel
  cases hrefused.symm.trans (h _ _ hcanonical)

end HonoWarden
