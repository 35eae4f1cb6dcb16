import HonoWarden.Audit.Record
import HonoWarden.Web.Csv

/-!
# The CSV export of the organization audit

Model of `serializeAuditCsvCell` and `serializeOrganizationAuditCsv`
(`src/domain/organization-audit.ts`). A cell that a spreadsheet would take for a formula gets an
apostrophe in front. An id may begin with a minus sign, but with no apostrophe, so the apostrophe
tells where it was put.

Results:
* `not_startsFormula_neutralize`: no cell that is written starts a formula;
* `neutralize_injOn`: cells without an apostrophe in front stay apart;
* **`auditCsv_parsed`**: what the export is read back as, and that it is known by its text.
-/

namespace HonoWarden

open Web

/-! ## The code -/

/-- `\p{Cc}`. -/
def IsCc (c : CodeUnit) : Prop := c ≤ 0x1f ∨ (0x7f ≤ c ∧ c ≤ 0x9f)

instance : DecidablePred IsCc := fun _ => inferInstanceAs (Decidable (_ ∨ _))

/-- `/^[\s\p{Cc}]*[=+\-@]/u`. -/
def StartsFormula (cell : JsString) : Prop :=
  ∃ c ∈ (cell.dropWhile fun c => IsJsSpace c ∨ IsCc c).head?, c = 61 ∨ c = 43 ∨ c = 45 ∨ c = 64

instance : DecidablePred StartsFormula := fun cell =>
  inferInstanceAs (Decidable (∃ _ ∈ (cell.dropWhile _).head?, _))

/-- The apostrophe of `serializeAuditCsvCell`. -/
def neutralizeCell (cell : JsString) : JsString :=
  if (∃ c ∈ cell.head?, c = 9 ∨ c = 13 ∨ c = 10) ∨ StartsFormula cell then 39 :: cell else cell

/-- `serializeAuditCsvCell`. -/
def serializeAuditCsvCell (value : Option JsString) : JsString :=
  34 :: (doubleQuotes (neutralizeCell (value.getD [])) ++ [34])

/-- `columns`. -/
def auditCsvColumns : List JsString :=
  [js "id", js "occurredAt", js "name", js "outcome", js "actorUserId", js "targetType",
    js "targetId"]

/-- `columns.map((column) => record[column])`. -/
def OrganizationAuditRecord.cells (record : OrganizationAuditRecord) : List (Option JsString) :=
  [some record.id, some record.occurredAt, some record.name.text, some (js "success"),
    record.actorUserId, some record.targetType.text, record.targetId]

/-- `serializeOrganizationAuditCsv`; `none` is its exception. -/
def serializeOrganizationAuditCsv (records : List OrganizationAuditRecord) : Option JsString :=
  if 1000 < records.length then none
  else
    some ([13, 10].intercalate
      ([44].intercalate (auditCsvColumns.map fun column => serializeAuditCsvCell (some column)) ::
        records.map fun record => [44].intercalate (record.cells.map serializeAuditCsvCell)) ++
      [13, 10])

/-! ## Cells -/

theorem head?_dropWhile {p : CodeUnit → Bool} {cell : JsString} {c : CodeUnit}
    (h : p c = false) : ((c :: cell).dropWhile p).head? = some c := by
  rw [List.dropWhile_cons_of_neg (by rw [h]; exact Bool.false_ne_true), List.head?_cons]

/-- No cell that is written starts a formula. -/
theorem not_startsFormula_neutralize (cell : JsString) : ¬ StartsFormula (neutralizeCell cell) := by
  unfold neutralizeCell
  split_ifs with h
  · rintro ⟨c, hc, hformula⟩
    rw [head?_dropWhile (by decide)] at hc
    obtain rfl := Option.some.inj hc
    exact absurd hformula (by decide)
  · exact fun hformula => h (.inr hformula)

/-- A cell that begins with something else than an apostrophe is known by what is written. -/
theorem neutralize_injOn {a b : JsString} (ha : a.head? ≠ some 39) (hb : b.head? ≠ some 39)
    (h : neutralizeCell a = neutralizeCell b) : a = b := by
  unfold neutralizeCell at h
  split_ifs at h
  · exact (List.cons.inj h).2
  · exact absurd (congrArg List.head? h).symm hb
  · exact absurd (congrArg List.head? h) ha
  · exact h

/-- A cell that begins with a small letter is left as it is. -/
theorem neutralizeCell_of_letter {c : CodeUnit} {rest : JsString} (h : 97 ≤ c ∧ c ≤ 122) :
    neutralizeCell (c :: rest) = c :: rest := by
  have hspace : ¬ (IsJsSpace c ∨ IsCc c) := by
    unfold IsJsSpace IsCc
    simp only [Fin.le_def, Fin.ext_iff, Fin.isValue] at h ⊢
    omega
  refine if_neg ?_
  rintro (⟨d, hd, hbreak⟩ | ⟨d, hd, hformula⟩)
  · obtain rfl := Option.some.inj hd
    grind
  · rw [head?_dropWhile (decide_eq_false hspace)] at hd
    obtain rfl := Option.some.inj hd
    grind

theorem neutralizeCell_eq (cell : JsString) :
    neutralizeCell cell = cell ∨ neutralizeCell cell = 39 :: cell := by
  unfold neutralizeCell
  split_ifs
  · exact .inr rfl
  · exact .inl rfl

/-! ## The export as records of fields -/

/-- The fields of a record as they are read back. -/
def OrganizationAuditRecord.fields (record : OrganizationAuditRecord) : List JsString :=
  record.cells.map fun cell => neutralizeCell (cell.getD [])

theorem intercalate_lines (line : JsString) (lines : List JsString) :
    [13, 10].intercalate (line :: lines) ++ [13, 10] =
      (line :: lines).flatMap fun line => line ++ [13, 10] := by
  induction lines generalizing line with
  | nil => simp
  | cons next lines ih =>
    rw [List.intercalate_cons_cons, List.flatMap_cons, ← ih next, List.append_assoc,
      List.append_assoc]

/-- No name of a column is changed: each begins with a letter. -/
theorem neutralize_columns :
    (auditCsvColumns.map fun column => neutralizeCell column) = auditCsvColumns := by
  have hhead : auditCsvColumns.all (fun column => column.head?.any fun c => 97 ≤ c ∧ c ≤ 122) =
      true := by
    decide
  refine (List.map_congr_left fun column hcolumn => ?_).trans (List.map_id _)
  have hletter := List.all_eq_true.mp hhead column hcolumn
  cases column with
  | nil => cases hletter
  | cons c rest => exact neutralizeCell_of_letter (of_decide_eq_true hletter)

/-- What is exported is the header and the records, with all fields quoted. -/
theorem serializeOrganizationAuditCsv_eq {records : List OrganizationAuditRecord}
    (hlength : records.length ≤ 1000) : serializeOrganizationAuditCsv records =
      some (writeCsv (auditCsvColumns :: records.map OrganizationAuditRecord.fields)) := by
  have hheader : [44].intercalate
      (auditCsvColumns.map fun column => serializeAuditCsvCell (some column)) =
        writeRow auditCsvColumns := by
    rw [writeRow]
    conv_rhs => rw [← neutralize_columns, List.map_map]
    rfl
  have hrow (record : OrganizationAuditRecord) :
      [44].intercalate (record.cells.map serializeAuditCsvCell) = writeRow record.fields := by
    rw [writeRow, OrganizationAuditRecord.fields, List.map_map]
    rfl
  rw [serializeOrganizationAuditCsv, if_neg (Nat.not_lt.mpr hlength), intercalate_lines, hheader]
  simp only [hrow, writeCsv, List.flatMap_cons, List.flatMap_map]

/-! ## What a cell holds -/

/-- Units that are written as they are, and no apostrophe among them. -/
def IsPlainCell (cell : JsString) : Prop := ∀ c ∈ cell, IsTextData c ∧ c ≠ 39

theorem IsPlainCell.head {cell : JsString} (h : IsPlainCell cell) : cell.head? ≠ some 39 :=
  fun hhead => (h 39 (List.mem_of_head? hhead)).2 rfl

/-- What is written of a plain cell may be quoted. -/
theorem IsPlainCell.quotable {cell : JsString} (h : IsPlainCell cell) :
    ∀ c ∈ neutralizeCell cell, IsQuotable c := by
  rcases neutralizeCell_eq cell with heq | heq
  · rw [heq]
    exact fun c hc => .inl (h c hc).1
  · rw [heq]
    exact List.forall_mem_cons.mpr ⟨.inl (by decide), fun c hc => .inl (h c hc).1⟩

theorem isPlainCell_of_id {id : JsString} (h : IsOrganizationAuditId id) : IsPlainCell id := by
  intro c hc
  have hunit : IsUrlUnit c := of_decide_eq_true (List.all_eq_true.mp h.2.2 c hc)
  unfold IsUrlUnit at hunit
  unfold IsTextData
  grind

theorem isPlainCell_of_time {t : Int} (h : IsFourDigitTime t) : IsPlainCell (toISOString t) := by
  intro c hc
  rcases mem_of_matchesShape (matchesShape_toISOString h) c hc with hdigit | hmark
  · unfold IsDigit at hdigit
    unfold IsTextData
    grind
  · have hmarks : isoShape.all (fun c => IsTextData c ∧ c ≠ 39) = true := by decide
    exact of_decide_eq_true (List.all_eq_true.mp hmarks c hmark)

theorem isPlainCell_of_all {cell : JsString}
    (h : cell.all (fun c => IsTextData c ∧ c ≠ 39) = true) : IsPlainCell cell :=
  fun c hc => of_decide_eq_true (List.all_eq_true.mp h c hc)

theorem isPlainCell_eventName (name : OrganizationAuditEventName) : IsPlainCell name.text := by
  refine isPlainCell_of_all ?_
  cases name <;> decide

theorem isPlainCell_targetType (targetType : OrganizationAuditTargetType) :
    IsPlainCell targetType.text := by
  refine isPlainCell_of_all ?_
  cases targetType <;> decide

theorem isPlainCell_optional {id : Option JsString} (h : ∀ i ∈ id, IsOrganizationAuditId i) :
    IsPlainCell (id.getD []) := by
  cases id with
  | none => exact List.forall_mem_nil _
  | some id => exact isPlainCell_of_id (h id rfl)

/-- All cells of a projected record are plain. -/
theorem OrganizationAuditRecord.Projected.plain {record : OrganizationAuditRecord}
    (h : record.Projected) : ∀ cell ∈ record.cells, IsPlainCell (cell.getD []) := by
  obtain ⟨t, htime, htext⟩ := h.occurredAt
  have hoccurred : IsPlainCell record.occurredAt := htext ▸ isPlainCell_of_time htime
  have hsuccess : IsPlainCell (js "success") := isPlainCell_of_all (by decide)
  unfold OrganizationAuditRecord.cells
  simp only [List.forall_mem_cons]
  exact ⟨isPlainCell_of_id h.id, hoccurred, isPlainCell_eventName _, hsuccess,
    isPlainCell_optional h.actorUserId, isPlainCell_targetType _, isPlainCell_optional h.targetId,
    List.forall_mem_nil _⟩

/-- An id is not the empty cell of `null`. -/
theorem getD_injOn {a b : Option JsString} (ha : ∀ i ∈ a, IsOrganizationAuditId i)
    (hb : ∀ i ∈ b, IsOrganizationAuditId i) (h : a.getD [] = b.getD []) : a = b := by
  have hne {id : JsString} (hid : IsOrganizationAuditId id) : id ≠ [] :=
    List.length_pos_iff.mp hid.1
  cases a with
  | none =>
    cases b with
    | none => rfl
    | some b => exact absurd h.symm (hne (hb b rfl))
  | some a =>
    cases b with
    | none => exact absurd h (hne (ha a rfl))
    | some b => exact congrArg some h

/-- A projected record is known by its fields. -/
theorem fields_injOn {a b : OrganizationAuditRecord} (ha : a.Projected) (hb : b.Projected)
    (h : a.fields = b.fields) : a = b := by
  have hplainA := ha.plain
  have hplainB := hb.plain
  unfold OrganizationAuditRecord.fields at h
  unfold OrganizationAuditRecord.cells at h hplainA hplainB
  simp only [List.map_cons, List.map_nil, List.cons.injEq, Option.getD_some] at h
  simp only [List.forall_mem_cons, Option.getD_some] at hplainA hplainB
  obtain ⟨hid, hoccurred, hname, -, hactor, -, htarget, -⟩ := h
  obtain ⟨pa1, pa2, pa3, -, pa5, -, pa7, -⟩ := hplainA
  obtain ⟨pb1, pb2, pb3, -, pb5, -, pb7, -⟩ := hplainB
  have hnames : a.name = b.name :=
    eventNameText_injective (neutralize_injOn pa3.head pb3.head hname)
  have htypes : a.targetType = b.targetType := by rw [ha.targetType, hb.targetType, hnames]
  have hids := neutralize_injOn pa1.head pb1.head hid
  have htimes := neutralize_injOn pa2.head pb2.head hoccurred
  have hactors := getD_injOn ha.actorUserId hb.actorUserId
    (neutralize_injOn pa5.head pb5.head hactor)
  have htargets := getD_injOn ha.targetId hb.targetId
    (neutralize_injOn pa7.head pb7.head htarget)
  cases a
  cases b
  simp_all

/-- Projected records are known by their fields. -/
theorem map_fields_injOn {as bs : List OrganizationAuditRecord} (ha : ∀ a ∈ as, a.Projected)
    (hb : ∀ b ∈ bs, b.Projected)
    (h : as.map OrganizationAuditRecord.fields = bs.map OrganizationAuditRecord.fields) :
    as = bs := by
  induction as generalizing bs with
  | nil => exact (List.map_eq_nil_iff.mp h.symm).symm
  | cons a as ih =>
    cases bs with
    | nil => cases h
    | cons b bs =>
      obtain ⟨ha, has⟩ := List.forall_mem_cons.mp ha
      obtain ⟨hb, hbs⟩ := List.forall_mem_cons.mp hb
      obtain ⟨hhead, htail⟩ := List.cons.inj h
      rw [fields_injOn ha hb hhead, ih has hbs htail]

/-! ## The export -/

/-- A written row is its record: seven fields, each the cell of the record, up to an apostrophe in
front. -/
def RowOf (record : OrganizationAuditRecord) (row : List JsString) : Prop :=
  row.length = 7 ∧ List.Forall₂
    (fun cell field => field = cell.getD [] ∨ field = 39 :: cell.getD []) record.cells row

theorem rowOf_fields (record : OrganizationAuditRecord) : RowOf record record.fields := by
  refine ⟨rfl, ?_⟩
  unfold OrganizationAuditRecord.fields
  exact List.forall₂_map_right_iff.mpr
    (List.forall₂_same.mpr fun cell _ => neutralizeCell_eq (cell.getD []))

/-- The export is read back as the header and the fields of the records. -/
theorem parseCsv_serialize {records : List OrganizationAuditRecord}
    (hprojected : ∀ record ∈ records, record.Projected) :
    parseCsv (writeCsv (auditCsvColumns :: records.map OrganizationAuditRecord.fields)) =
      some (auditCsvColumns :: records.map OrganizationAuditRecord.fields) := by
  have hcolumns : auditCsvColumns.all (fun column => column.all fun c => IsQuotable c) = true := by
    decide +kernel
  refine parseCsv_writeCsv (List.cons_ne_nil _ _) (List.forall_mem_cons.mpr ⟨⟨?_, ?_⟩, ?_⟩)
  · exact List.cons_ne_nil _ _
  · exact fun text htext c hc => of_decide_eq_true
      (List.all_eq_true.mp (List.all_eq_true.mp hcolumns text htext) c hc)
  · intro row hrow
    obtain ⟨record, hrecord, rfl⟩ := List.mem_map.mp hrow
    refine ⟨List.cons_ne_nil _ _, fun text htext => ?_⟩
    obtain ⟨cell, hcell, rfl⟩ := List.mem_map.mp htext
    exact ((hprojected record hrecord).plain cell hcell).quotable

/-- **The export is read back** as the header and one row for each record, in order; no field of it
starts a formula; and it is known by its text. -/
theorem auditCsv_parsed (dateParse : DateParse) (records : List OrganizationAuditRecord)
    (hlength : records.length ≤ 1000)
    (hprojected : ∀ record ∈ records, ∃ row,
      projectOrganizationAuditRecord dateParse row = some record) :
    ∃ text rows, serializeOrganizationAuditCsv records = some text ∧
      parseCsv text = some (auditCsvColumns :: rows) ∧ List.Forall₂ RowOf records rows ∧
      (∀ row ∈ auditCsvColumns :: rows, ∀ field ∈ row, ¬ StartsFormula field) ∧
      ∀ others : List OrganizationAuditRecord, (∀ record ∈ others, ∃ row,
          projectOrganizationAuditRecord dateParse row = some record) →
        serializeOrganizationAuditCsv others = some text → others = records := by
  have hprojects {list : List OrganizationAuditRecord} (h : ∀ record ∈ list, ∃ row,
      projectOrganizationAuditRecord dateParse row = some record) :
      ∀ record ∈ list, record.Projected := by
    intro record hrecord
    obtain ⟨row, hrow⟩ := h record hrecord
    exact projected_of_project hrow
  refine ⟨_, records.map OrganizationAuditRecord.fields, serializeOrganizationAuditCsv_eq hlength,
    parseCsv_serialize (hprojects hprojected), ?_, ?_, ?_⟩
  · exact List.forall₂_map_right_iff.mpr (List.forall₂_same.mpr fun record _ => rowOf_fields record)
  · refine List.forall_mem_cons.mpr ⟨?_, ?_⟩
    · rw [← neutralize_columns]
      rintro _ hfield
      obtain ⟨column, -, rfl⟩ := List.mem_map.mp hfield
      exact not_startsFormula_neutralize column
    · rintro _ hrow _ hfield
      obtain ⟨record, -, rfl⟩ := List.mem_map.mp hrow
      obtain ⟨cell, -, rfl⟩ := List.mem_map.mp hfield
      exact not_startsFormula_neutralize _
  · intro others hothers htext
    have hbound : others.length ≤ 1000 := by
      by_contra hlong
      rw [serializeOrganizationAuditCsv, if_pos (Nat.not_le.mp hlong)] at htext
      cases htext
    rw [serializeOrganizationAuditCsv_eq hbound] at htext
    have hparse := parseCsv_serialize (hprojects hothers)
    rw [Option.some.inj htext, parseCsv_serialize (hprojects hprojected)] at hparse
    have hfields : others.map OrganizationAuditRecord.fields =
        records.map OrganizationAuditRecord.fields :=
      (List.cons.inj (Option.some.inj hparse)).2.symm
    exact map_fields_injOn (hprojects hothers) (hprojects hprojected) hfields

/-- A policy update whose id is a minus sign. -/
def minusRow : OrganizationAuditStoredProjection where
  id := js "-"
  schemaVersion := 1
  name := js "organization.policy.update"
  outcome := js "success"
  occurredAt := toISOString 0
  actorUserId := none
  targetType := js "organization"
  targetId := none

def minusRecord : OrganizationAuditRecord where
  id := js "-"
  name := .policyUpdate
  occurredAt := toISOString 0
  actorUserId := none
  targetType := .organization
  targetId := none

/-- The id is written behind an apostrophe and read back with it. -/
theorem auditCsv_parsed_minus : ∃ text rows,
    serializeOrganizationAuditCsv [minusRecord] = some text ∧
    parseCsv text = some (auditCsvColumns :: rows) ∧ List.Forall₂ RowOf [minusRecord] rows := by
  have hid : IsOrganizationAuditId minusRow.id := by decide
  have htime : IsCanonicalTimestamp isoParse minusRow.occurredAt :=
    isCanonicalTimestamp_iff.mpr ⟨0, by decide, rfl⟩
  have hname : readEventName minusRow.name = some .policyUpdate :=
    readEventName_eq_some_iff.mpr rfl
  have hproject : projectOrganizationAuditRecord isoParse minusRow = some minusRecord := by
    rw [projectOrganizationAuditRecord, hname, Option.bind_some, if_neg ?_]
    · rfl
    · rintro (h | h | h | h | h)
      · exact h hid
      · exact h htime
      · exact h rfl
      · exact h rfl
      · exact h rfl
  obtain ⟨text, rows, htext, hparse, hrows, -⟩ := auditCsv_parsed isoParse [minusRecord] (by decide)
    (List.forall_mem_singleton.mpr ⟨minusRow, hproject⟩)
  exact ⟨text, rows, htext, hparse, hrows⟩

end HonoWarden
