import HonoWarden.Web.Text

/-!
# Comma separated values

The grammar of RFC 4180, read by a machine that goes over the text once: records end in a line
break, which the last one may lack; a field is quoted, with its quotes doubled, or has none; and a
field holds printable ASCII, where it is quoted also commas and line breaks.

Results:
* `parseRows_quoteField`: a quoted field is read to its closing quote;
* **`parseCsv_writeCsv`**: records that were written with all fields quoted are read back.
-/

namespace Web

/-! ## Reading -/

/-- `TEXTDATA`: printable ASCII but the quote and the comma. -/
def IsTextData (c : CodeUnit) : Prop := 0x20 ≤ c ∧ c ≤ 0x7e ∧ c ≠ 34 ∧ c ≠ 44

instance : DecidablePred IsTextData := fun _ => inferInstanceAs (Decidable (_ ∧ _))

/-- What may stand in a quoted field. -/
def IsQuotable (c : CodeUnit) : Prop := IsTextData c ∨ c = 34 ∨ c = 44 ∨ c = 13 ∨ c = 10

instance : DecidablePred IsQuotable := fun _ => inferInstanceAs (Decidable (_ ∨ _))

/-- Where the machine stands: before a field, in one without quotes, between quotes, behind a quote
that may close the field, and between the two units of a line break. -/
inductive CsvState where
  | field
  | plain
  | quoted
  | closed
  | lineBreak
  deriving DecidableEq, Repr

/-- Read on, with the units of the current field and the fields of the current record. -/
def parseRows : CsvState → JsString → List JsString → JsString → Option (List (List JsString))
  | .field, text, row, [] => if row = [] then some [] else some [row ++ [text]]
  | .plain, text, row, [] => some [row ++ [text]]
  | .closed, text, row, [] => some [row ++ [text]]
  | .quoted, _, _, [] => none
  | .lineBreak, _, _, [] => none
  | .field, text, row, c :: rest =>
    if c = 34 then parseRows .quoted text row rest
    else if c = 44 then parseRows .field [] (row ++ [text]) rest
    else if c = 13 then parseRows .lineBreak text row rest
    else if IsTextData c then parseRows .plain (text ++ [c]) row rest
    else none
  | .plain, text, row, c :: rest =>
    if c = 44 then parseRows .field [] (row ++ [text]) rest
    else if c = 13 then parseRows .lineBreak text row rest
    else if IsTextData c then parseRows .plain (text ++ [c]) row rest
    else none
  | .quoted, text, row, c :: rest =>
    if c = 34 then parseRows .closed text row rest
    else if IsQuotable c then parseRows .quoted (text ++ [c]) row rest
    else none
  | .closed, text, row, c :: rest =>
    if c = 34 then parseRows .quoted (text ++ [34]) row rest
    else if c = 44 then parseRows .field [] (row ++ [text]) rest
    else if c = 13 then parseRows .lineBreak text row rest
    else none
  | .lineBreak, text, row, c :: rest =>
    if c = 10 then (parseRows .field [] [] rest).map fun rows => (row ++ [text]) :: rows
    else none

/-- The records of a text. -/
def parseCsv (text : JsString) : Option (List (List JsString)) :=
  if text = [] then some [[[]]] else parseRows .field [] [] text

/-! ## Writing -/

/-- A field with its quotes doubled. -/
def doubleQuotes (text : JsString) : JsString := text.flatMap fun c => if c = 34 then [34, 34] else [c]

/-- A quoted field. -/
def quoteField (text : JsString) : JsString := 34 :: (doubleQuotes text ++ [34])

/-- The fields of a record, behind commas. -/
def writeRow (row : List JsString) : JsString := [44].intercalate (row.map quoteField)

/-- Records with their line breaks. -/
def writeCsv (rows : List (List JsString)) : JsString := rows.flatMap fun row => writeRow row ++ [13, 10]

/-! ## Round trip -/

/-- What stands between quotes is read to the closing quote. -/
theorem parseRows_doubleQuotes {text : JsString} (htext : ∀ c ∈ text, IsQuotable c)
    (before : JsString) (row : List JsString) (rest : JsString) :
    parseRows .quoted before row (doubleQuotes text ++ 34 :: rest) =
      parseRows .closed (before ++ text) row rest := by
  induction text generalizing before with
  | nil =>
    rw [List.append_nil]
    exact if_pos rfl
  | cons c text ih =>
    obtain ⟨hc, htext⟩ := List.forall_mem_cons.mp htext
    have hstep := ih htext (before ++ [c])
    rw [List.append_assoc, List.singleton_append] at hstep
    rw [doubleQuotes, List.flatMap_cons]
    split_ifs with hquote
    · subst hquote
      simp only [List.cons_append, List.nil_append]
      rw [parseRows, if_pos rfl, parseRows, if_pos rfl]
      exact hstep
    · simp only [List.cons_append, List.nil_append]
      rw [parseRows, if_neg hquote, if_pos hc]
      exact hstep

theorem parseRows_quoteField {text : JsString} (htext : ∀ c ∈ text, IsQuotable c)
    (row : List JsString) (rest : JsString) :
    parseRows .field [] row (quoteField text ++ rest) = parseRows .closed text row rest := by
  have hquoted := parseRows_doubleQuotes htext [] row rest
  rw [List.nil_append] at hquoted
  rw [quoteField, List.cons_append, List.append_assoc, List.singleton_append, parseRows, if_pos rfl,
    hquoted]

/-- The fields of a record are read one after the other. -/
theorem parseRows_writeRow {fields : List JsString} (hne : fields ≠ [])
    (hfields : ∀ text ∈ fields, ∀ c ∈ text, IsQuotable c) (row : List JsString) (rest : JsString) :
    parseRows .field [] row (writeRow fields ++ 13 :: 10 :: rest) =
      (parseRows .field [] [] rest).map fun rows => (row ++ fields) :: rows := by
  induction fields generalizing row with
  | nil => exact absurd rfl hne
  | cons text fields ih =>
    obtain ⟨htext, hfields⟩ := List.forall_mem_cons.mp hfields
    cases fields with
    | nil =>
      rw [writeRow, List.map_singleton, List.intercalate_singleton, parseRows_quoteField htext,
        parseRows, if_neg (by decide), if_neg (by decide), if_pos rfl, parseRows, if_pos rfl]
    | cons next fields =>
      have hrow := ih (List.cons_ne_nil _ _) hfields (row ++ [text])
      rw [List.append_assoc, List.singleton_append, writeRow] at hrow
      rw [writeRow, List.map_cons, List.map_cons, List.intercalate_cons_cons, List.append_assoc,
        List.append_assoc, parseRows_quoteField htext, List.singleton_append, parseRows,
        if_neg (by decide), if_pos rfl]
      exact hrow

/-- **Written records are read back.** -/
theorem parseCsv_writeCsv {rows : List (List JsString)} (hne : rows ≠ [])
    (hrows : ∀ row ∈ rows, row ≠ [] ∧ ∀ text ∈ row, ∀ c ∈ text, IsQuotable c) :
    parseCsv (writeCsv rows) = some rows := by
  have hparse : parseRows .field [] [] (writeCsv rows) = some rows := by
    clear hne
    induction rows with
    | nil => rfl
    | cons row rows ih =>
      obtain ⟨⟨hrow, hunits⟩, hrows⟩ := List.forall_mem_cons.mp hrows
      have hline := parseRows_writeRow hrow hunits [] (writeCsv rows)
      rw [ih hrows] at hline
      rw [writeCsv, List.flatMap_cons, List.append_assoc, List.cons_append, List.cons_append,
        List.nil_append]
      exact hline
  have htext : writeCsv rows ≠ [] := by
    obtain ⟨row, rows, rfl⟩ := List.exists_cons_of_ne_nil hne
    simp [writeCsv]
  rw [parseCsv, if_neg htext, hparse]

end Web
