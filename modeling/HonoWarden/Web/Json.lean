import HonoWarden.Web.JsonText

/-!
# `JSON.parse` and `JSON.stringify`

Values over the numbers of a host (`JsonNumber`). `parseJson` is `JSON.parse`: cut into tokens, find
the tree, read its words and strings; of two members of one name the later value stands, in the
place of the earlier. `JsonValue.stringify` is `JSON.stringify`. The members of an object keep the
order they are written in; a host puts names that are array indices first, which no reader of a
member sees.

Results:
* **`parseJson_stringify`**: a value is read back from its text;
* `wellFormed_stringify`: its text has no lone surrogates;
* `head_stringify_object`: the text of an object begins with a brace.
-/

namespace Web

variable {ν : Type}

/-- A value. -/
inductive JsonValue (ν : Type) where
  | null
  | bool (value : Bool)
  | number (value : ν)
  | string (value : JsString)
  | array (items : List (JsonValue ν))
  | object (members : List (JsString × JsonValue ν))

/-- `value[name]` of an object; `none` is `undefined`. -/
def JsonValue.get? (value : JsonValue ν) (name : JsString) : Option (JsonValue ν) :=
  match value with
  | .object members => members.lookup name
  | _ => none

/-- `value[name]`, where it is a string. -/
def JsonValue.string? (value : JsonValue ν) (name : JsString) : Option JsString :=
  match value.get? name with
  | some (.string text) => some text
  | _ => none

/-- `value[name]`, where it is a number. -/
def JsonValue.number? (value : JsonValue ν) (name : JsString) : Option ν :=
  match value.get? name with
  | some (.number n) => some n
  | _ => none

/-! ## Parsing -/

/-- Set a member; a name that is there keeps its place. -/
def setMember {α : Type} (members : List (JsString × α)) (member : JsString × α) :
    List (JsString × α) :=
  if member.1 ∈ members.map Prod.fst then
    members.map fun m => if m.1 = member.1 then member else m
  else members ++ [member]

/-- The members of an object whose members are set in order. -/
def setMembers {α : Type} (members : List (JsString × α)) : List (JsString × α) :=
  members.foldl setMember []

section Values

variable [JsonNumber ν]

/-- The value of a word. -/
def wordValue (text : JsString) : Option (JsonValue ν) :=
  if text = js "null" then some .null
  else if text = js "true" then some (.bool true)
  else if text = js "false" then some (.bool false)
  else if isNumberText text = true then some (.number (JsonNumber.read text))
  else none

mutual

/-- The value a tree stands for. -/
def JsonSyntax.value : JsonSyntax → Option (JsonValue ν)
  | .word text => wordValue text
  | .string raw => (unescape raw).map .string
  | .array items => (JsonSyntax.itemValues items).map .array
  | .object members =>
    (JsonSyntax.memberValues members).map fun members => .object (setMembers members)

def JsonSyntax.itemValues : List JsonSyntax → Option (List (JsonValue ν))
  | [] => some []
  | item :: items =>
    item.value.bind fun item => (JsonSyntax.itemValues items).map fun items => item :: items

def JsonSyntax.memberValues : List (JsString × JsonSyntax) →
    Option (List (JsString × JsonValue ν))
  | [] => some []
  | (name, value) :: members =>
    (unescape name).bind fun name => value.value.bind fun value =>
      (JsonSyntax.memberValues members).map fun members => (name, value) :: members

end

/-- The tree of a text. -/
def readSyntax (text : JsString) : Option JsonSyntax := (lex (.outside []) text).bind parseTokens

/-- `JSON.parse(text)`; `none` is an exception. -/
def parseJson (text : JsString) : Option (JsonValue ν) := (readSyntax text).bind JsonSyntax.value

/-! ## The names of an object -/

theorem nodup_setMember {α : Type} {members : List (JsString × α)} {member : JsString × α}
    (h : (members.map Prod.fst).Nodup) : ((setMember members member).map Prod.fst).Nodup := by
  unfold setMember
  split_ifs with hmem
  · have hnames : (members.map fun m => if m.1 = member.1 then member else m).map Prod.fst =
        members.map Prod.fst := by
      rw [List.map_map]
      refine List.map_congr_left fun m _ => ?_
      simp only [Function.comp_apply]
      split_ifs with heq
      · exact heq.symm
      · rfl
    rwa [hnames]
  · rw [List.map_append, List.map_cons, List.map_nil]
    exact List.nodup_append.mpr ⟨h, by simp, fun a ha b hb =>
      List.mem_singleton.mp hb ▸ fun heq => hmem (heq ▸ ha)⟩

theorem nodup_setMembers {α : Type} (members : List (JsString × α)) :
    ((setMembers members).map Prod.fst).Nodup := by
  have hrun : ∀ (rest before : List (JsString × α)), (before.map Prod.fst).Nodup →
      ((rest.foldl setMember before).map Prod.fst).Nodup := by
    intro rest
    induction rest with
    | nil => exact fun before h => h
    | cons member rest ih => exact fun before h => ih _ (nodup_setMember h)
  exact hrun members [] List.nodup_nil

/-- A parsed object has no name twice. -/
theorem nodup_of_parseJson {text : JsString} {members : List (JsString × JsonValue ν)}
    (h : parseJson text = some (.object members)) : (members.map Prod.fst).Nodup := by
  obtain ⟨tree, -, hvalue⟩ := Option.bind_eq_some_iff.mp h
  cases tree with
  | word text =>
    unfold JsonSyntax.value wordValue at hvalue
    split_ifs at hvalue <;> cases hvalue
  | string raw =>
    obtain ⟨_, -, hcontra⟩ := Option.map_eq_some_iff.mp hvalue
    cases hcontra
  | array items =>
    obtain ⟨_, -, hcontra⟩ := Option.map_eq_some_iff.mp hvalue
    cases hcontra
  | object members =>
    obtain ⟨read, -, hobject⟩ := Option.map_eq_some_iff.mp hvalue
    cases hobject
    exact nodup_setMembers read

/-! ## Writing -/

mutual

/-- `JSON.stringify(value)`. -/
def JsonValue.stringify : JsonValue ν → JsString
  | .null => js "null"
  | .bool value => if value then js "true" else js "false"
  | .number value => JsonNumber.print value
  | .string value => quote value
  | .array [] => [91, 93]
  | .array (item :: items) => 91 :: (item.stringify ++ JsonValue.itemTexts items)
  | .object [] => [123, 125]
  | .object ((name, value) :: members) =>
    123 :: (quote name ++ 58 :: (value.stringify ++ JsonValue.memberTexts members))

def JsonValue.itemTexts : List (JsonValue ν) → JsString
  | [] => [93]
  | item :: items => 44 :: (item.stringify ++ JsonValue.itemTexts items)

def JsonValue.memberTexts : List (JsString × JsonValue ν) → JsString
  | [] => [125]
  | (name, value) :: members =>
    44 :: (quote name ++ 58 :: (value.stringify ++ JsonValue.memberTexts members))

end

mutual

/-- The tree of what is written. -/
def JsonValue.toSyntax : JsonValue ν → JsonSyntax
  | .null => .word (js "null")
  | .bool value => .word (if value then js "true" else js "false")
  | .number value => .word (JsonNumber.print value)
  | .string value => .string (quoteText value)
  | .array items => .array (JsonValue.itemSyntax items)
  | .object members => .object (JsonValue.memberSyntax members)

def JsonValue.itemSyntax : List (JsonValue ν) → List JsonSyntax
  | [] => []
  | item :: items => item.toSyntax :: JsonValue.itemSyntax items

def JsonValue.memberSyntax : List (JsString × JsonValue ν) → List (JsString × JsonSyntax)
  | [] => []
  | (name, value) :: members =>
    (quoteText name, value.toSyntax) :: JsonValue.memberSyntax members

end

mutual

/-- A value JSON can write: its numbers are exact, and no object has a name twice. -/
def JsonValue.Faithful : JsonValue ν → Prop
  | .null => True
  | .bool _ => True
  | .number value => JsonNumber.Exact value
  | .string _ => True
  | .array items => JsonValue.ItemsFaithful items
  | .object members => (members.map Prod.fst).Nodup ∧ JsonValue.MembersFaithful members

def JsonValue.ItemsFaithful : List (JsonValue ν) → Prop
  | [] => True
  | item :: items => item.Faithful ∧ JsonValue.ItemsFaithful items

def JsonValue.MembersFaithful : List (JsString × JsonValue ν) → Prop
  | [] => True
  | (_, value) :: members => value.Faithful ∧ JsonValue.MembersFaithful members

end

/-! ## Round trip -/

theorem setMembers_eq_self {α : Type} {members : List (JsString × α)}
    (h : (members.map Prod.fst).Nodup) : setMembers members = members := by
  have hrun : ∀ (rest before : List (JsString × α)),
      ((before ++ rest).map Prod.fst).Nodup → rest.foldl setMember before = before ++ rest := by
    intro rest
    induction rest with
    | nil => exact fun before _ => (List.append_nil before).symm
    | cons member rest ih =>
      intro before hnodup
      have hnew : member.1 ∉ before.map Prod.fst := by
        rw [List.map_append, List.map_cons] at hnodup
        exact fun hmem => (List.nodup_append.mp hnodup).2.2 _ hmem _ List.mem_cons_self rfl
      rw [List.foldl_cons, setMember, if_neg hnew, ih _ (by simpa using hnodup), List.append_assoc,
        List.singleton_append]
  exact hrun members [] h

/-- A text that is one word, of no surrogates. -/
structure IsWord (text : JsString) : Prop where
  ne_nil : text ≠ []
  units : ∀ c ∈ text, IsWordUnit c ∧ ¬ IsHigh c ∧ ¬ IsLow c

theorem isWord_of_all {text : JsString} (hne : text ≠ [])
    (h : text.all (fun c => IsWordUnit c ∧ ¬ IsHigh c ∧ ¬ IsLow c) = true) : IsWord text :=
  ⟨hne, fun c hc => of_decide_eq_true (List.all_eq_true.mp h c hc)⟩

theorem isWord_null : IsWord (js "null") := isWord_of_all (by decide) (by decide)

theorem isWord_bool (b : Bool) : IsWord (if b then js "true" else js "false") := by
  cases b with
  | false => exact isWord_of_all (by decide) (by decide)
  | true => exact isWord_of_all (by decide) (by decide)

theorem isWord_print {x : ν} (h : JsonNumber.Exact x) : IsWord (JsonNumber.print x) := by
  obtain ⟨hne, hunits⟩ := forall_of_isNumberText (JsonNumber.isNumberText_print h)
  exact ⟨hne, fun c hc => isWordUnit_of_isNumberUnit (hunits c hc)⟩

theorem IsWord.lex {text rest : JsString} (h : IsWord text) (hrest : PunctuationNext rest) :
    lex (.outside []) (text ++ rest) = (lex (.outside []) rest).map (.word text :: ·) :=
  lex_outside_word (fun c hc => (h.units c hc).1) h.ne_nil hrest

theorem IsWord.wellFormed {text : JsString} (h : IsWord text) : WellFormed text :=
  wellFormed_of_forall fun c hc => (h.units c hc).2

/-- A literal is no number. -/
theorem print_ne_literal {x : ν} (h : JsonNumber.Exact x) : JsonNumber.print x ≠ js "null" ∧
    JsonNumber.print x ≠ js "true" ∧ JsonNumber.print x ≠ js "false" := by
  have hnumber := JsonNumber.isNumberText_print h
  have hne (text : JsString) (htext : isNumberText text ≠ true) : JsonNumber.print x ≠ text := by
    intro heq
    rw [heq] at hnumber
    exact htext hnumber
  exact ⟨hne _ (by decide), hne _ (by decide), hne _ (by decide)⟩

theorem lex_quote_append (s rest : JsString) : lex (.outside []) (quote s ++ rest) =
    (lex (.outside []) rest).map (.string (quoteText s) :: ·) := by
  unfold quote
  rw [List.cons_append, List.append_assoc, List.singleton_append]
  exact lex_string (stringText_quoteText s)

theorem punctuationNext_cons {c : CodeUnit} {rest : JsString} (h : punctuation c ≠ none) :
    PunctuationNext (c :: rest) := by
  intro d hd
  obtain rfl := Option.some.inj hd
  exact h

theorem punctuationNext_itemTexts (items : List (JsonValue ν)) (rest : JsString) :
    PunctuationNext (JsonValue.itemTexts items ++ rest) := by
  cases items with
  | nil => exact punctuationNext_cons (by decide)
  | cons item items => exact punctuationNext_cons (by decide)

theorem punctuationNext_memberTexts (members : List (JsString × JsonValue ν)) (rest : JsString) :
    PunctuationNext (JsonValue.memberTexts members ++ rest) := by
  cases members with
  | nil => exact punctuationNext_cons (by decide)
  | cons member members => exact punctuationNext_cons (by decide)

theorem lex_mark {c : CodeUnit} (token : JsonToken) {rest : JsString}
    (h : punctuation c = some token) :
    lex (.outside []) (c :: rest) = (lex (.outside []) rest).map (token :: ·) :=
  lex_punctuation h

mutual

/-- What is written is cut into the tokens of its tree. -/
theorem lex_stringify : ∀ (value : JsonValue ν), value.Faithful → ∀ {rest : JsString},
    PunctuationNext rest → lex (.outside []) (value.stringify ++ rest) =
      (lex (.outside []) rest).map (value.toSyntax.tokens ++ ·)
  | .null, _, _, hrest => isWord_null.lex hrest
  | .bool b, _, _, hrest => (isWord_bool b).lex hrest
  | .number x, h, _, hrest => (isWord_print h).lex hrest
  | .string s, _, rest, _ => lex_quote_append s rest
  | .array [], _, rest, _ => by
    rw [JsonValue.stringify, List.cons_append, List.cons_append, List.nil_append,
      lex_mark .openBracket rfl, lex_mark .closeBracket rfl, Option.map_map]
    rfl
  | .array (item :: items), h, rest, hrest => by
    rw [JsonValue.Faithful, JsonValue.ItemsFaithful] at h
    rw [JsonValue.stringify, List.cons_append, List.append_assoc,
      lex_mark .openBracket rfl,
      lex_stringify item h.1 (punctuationNext_itemTexts items rest), lex_itemTexts items h.2 hrest,
      Option.map_map, Option.map_map]
    refine congrArg (Option.map · _) (funext fun tokens => ?_)
    simp only [Function.comp_apply, JsonValue.toSyntax, JsonValue.itemSyntax, JsonSyntax.tokens,
      List.cons_append, List.append_assoc]
  | .object [], _, rest, _ => by
    rw [JsonValue.stringify, List.cons_append, List.cons_append, List.nil_append,
      lex_mark .openBrace rfl, lex_mark .closeBrace rfl, Option.map_map]
    rfl
  | .object ((name, value) :: members), h, rest, hrest => by
    rw [JsonValue.Faithful, JsonValue.MembersFaithful] at h
    rw [JsonValue.stringify, List.cons_append, List.append_assoc, List.cons_append,
      List.append_assoc, lex_mark .openBrace rfl, lex_quote_append,
      lex_mark .colon rfl,
      lex_stringify value h.2.1 (punctuationNext_memberTexts members rest),
      lex_memberTexts members h.2.2 hrest, Option.map_map, Option.map_map, Option.map_map,
      Option.map_map]
    refine congrArg (Option.map · _) (funext fun tokens => ?_)
    simp only [Function.comp_apply, JsonValue.toSyntax, JsonValue.memberSyntax, JsonSyntax.tokens,
      List.cons_append, List.append_assoc]

theorem lex_itemTexts : ∀ (items : List (JsonValue ν)), JsonValue.ItemsFaithful items →
    ∀ {rest : JsString}, PunctuationNext rest →
      lex (.outside []) (JsonValue.itemTexts items ++ rest) =
        (lex (.outside []) rest).map (JsonSyntax.itemTokens (JsonValue.itemSyntax items) ++ ·)
  | [], _, rest, _ => lex_mark _ rfl
  | item :: items, h, rest, hrest => by
    rw [JsonValue.ItemsFaithful] at h
    rw [JsonValue.itemTexts, List.cons_append, List.append_assoc, lex_mark .comma rfl,
      lex_stringify item h.1 (punctuationNext_itemTexts items rest), lex_itemTexts items h.2 hrest,
      Option.map_map, Option.map_map]
    refine congrArg (Option.map · _) (funext fun tokens => ?_)
    simp only [Function.comp_apply, JsonValue.itemSyntax, JsonSyntax.itemTokens, List.cons_append,
      List.append_assoc]

theorem lex_memberTexts : ∀ (members : List (JsString × JsonValue ν)),
    JsonValue.MembersFaithful members → ∀ {rest : JsString}, PunctuationNext rest →
      lex (.outside []) (JsonValue.memberTexts members ++ rest) = (lex (.outside []) rest).map
        (JsonSyntax.memberTokens (JsonValue.memberSyntax members) ++ ·)
  | [], _, rest, _ => lex_mark _ rfl
  | (name, value) :: members, h, rest, hrest => by
    rw [JsonValue.MembersFaithful] at h
    rw [JsonValue.memberTexts, List.cons_append, List.append_assoc, List.cons_append,
      List.append_assoc, lex_mark .comma rfl, lex_quote_append,
      lex_mark .colon rfl,
      lex_stringify value h.1 (punctuationNext_memberTexts members rest),
      lex_memberTexts members h.2 hrest, Option.map_map, Option.map_map, Option.map_map,
      Option.map_map]
    refine congrArg (Option.map · _) (funext fun tokens => ?_)
    simp only [Function.comp_apply, JsonValue.memberSyntax, JsonSyntax.memberTokens,
      List.cons_append, List.append_assoc]

end

theorem wordValue_print {x : ν} (h : JsonNumber.Exact x) :
    wordValue (JsonNumber.print x) = some (.number x) := by
  obtain ⟨hnull, htrue, hfalse⟩ := print_ne_literal h
  rw [wordValue, if_neg hnull, if_neg htrue, if_neg hfalse,
    if_pos (JsonNumber.isNumberText_print h), JsonNumber.read_print h]

theorem wordValue_bool (b : Bool) :
    wordValue (if b then js "true" else js "false") = some (JsonValue.bool (ν := ν) b) := by
  cases b with
  | false => rfl
  | true => rfl

mutual

/-- The tree of what is written stands for it. -/
theorem value_toSyntax : ∀ (value : JsonValue ν), value.Faithful →
    value.toSyntax.value = some value
  | .null, _ => rfl
  | .bool b, _ => wordValue_bool b
  | .number x, h => wordValue_print h
  | .string s, _ => by
    rw [JsonValue.toSyntax, JsonSyntax.value, unescape_quoteText]
    rfl
  | .array items, h => by
    rw [JsonValue.Faithful] at h
    rw [JsonValue.toSyntax, JsonSyntax.value, itemValues_itemSyntax items h]
    rfl
  | .object members, h => by
    rw [JsonValue.Faithful] at h
    rw [JsonValue.toSyntax, JsonSyntax.value, memberValues_memberSyntax members h.2,
      Option.map_some, setMembers_eq_self h.1]

theorem itemValues_itemSyntax : ∀ (items : List (JsonValue ν)), JsonValue.ItemsFaithful items →
    JsonSyntax.itemValues (JsonValue.itemSyntax items) = some items
  | [], _ => rfl
  | item :: items, h => by
    rw [JsonValue.ItemsFaithful] at h
    rw [JsonValue.itemSyntax, JsonSyntax.itemValues, value_toSyntax item h.1,
      itemValues_itemSyntax items h.2]
    rfl

theorem memberValues_memberSyntax : ∀ (members : List (JsString × JsonValue ν)),
    JsonValue.MembersFaithful members →
      JsonSyntax.memberValues (JsonValue.memberSyntax members) = some members
  | [], _ => rfl
  | (name, value) :: members, h => by
    rw [JsonValue.MembersFaithful] at h
    rw [JsonValue.memberSyntax, JsonSyntax.memberValues, unescape_quoteText,
      value_toSyntax value h.1, memberValues_memberSyntax members h.2]
    rfl

end

/-- **A value is read back from its text.** -/
theorem parseJson_stringify {value : JsonValue ν} (h : value.Faithful) :
    parseJson value.stringify = some value := by
  have hlex := @lex_stringify ν _ value h [] fun c hc => by cases hc
  rw [List.append_nil, lex, Option.map_some, flushWord, if_pos rfl, List.append_nil] at hlex
  unfold parseJson readSyntax
  rw [hlex, Option.bind_some, parseTokens_eq_some_iff.mpr rfl, Option.bind_some, value_toSyntax value h]

/-! ## The text -/

theorem WellFormed.mark {c : CodeUnit} {s : JsString} (h : punctuation c ≠ none)
    (hs : WellFormed s) : WellFormed (c :: s) := by
  have hlow : c.val < 0xd800 := by
    by_contra hge
    refine h ?_
    have hne (n : CodeUnit) (hn : n.val < 0xd800) : c ≠ n := by
      rintro rfl
      exact hge hn
    rw [punctuation, if_neg (hne _ (by decide)), if_neg (hne _ (by decide)),
      if_neg (hne _ (by decide)), if_neg (hne _ (by decide)), if_neg (hne _ (by decide)),
      if_neg (hne _ (by decide))]
  refine .unit ?_ ?_ hs
  · unfold IsHigh
    omega
  · unfold IsLow
    omega

mutual

/-- What is written has no lone surrogates. -/
theorem wellFormed_stringify : ∀ (value : JsonValue ν), value.Faithful → WellFormed value.stringify
  | .null, _ => isWord_null.wellFormed
  | .bool b, _ => (isWord_bool b).wellFormed
  | .number x, h => (isWord_print h).wellFormed
  | .string s, _ => wellFormed_quote s
  | .array [], _ => .mark (by decide) (.mark (by decide) .nil)
  | .array (item :: items), h => by
    rw [JsonValue.Faithful, JsonValue.ItemsFaithful] at h
    rw [JsonValue.stringify]
    exact .mark (by decide) ((wellFormed_stringify item h.1).append (wellFormed_itemTexts items h.2))
  | .object [], _ => .mark (by decide) (.mark (by decide) .nil)
  | .object ((name, value) :: members), h => by
    rw [JsonValue.Faithful, JsonValue.MembersFaithful] at h
    rw [JsonValue.stringify]
    exact .mark (by decide) ((wellFormed_quote name).append (.mark (by decide)
      ((wellFormed_stringify value h.2.1).append (wellFormed_memberTexts members h.2.2))))

theorem wellFormed_itemTexts : ∀ (items : List (JsonValue ν)), JsonValue.ItemsFaithful items →
    WellFormed (JsonValue.itemTexts items)
  | [], _ => .mark (by decide) .nil
  | item :: items, h => by
    rw [JsonValue.ItemsFaithful] at h
    rw [JsonValue.itemTexts]
    exact .mark (by decide) ((wellFormed_stringify item h.1).append (wellFormed_itemTexts items h.2))

theorem wellFormed_memberTexts : ∀ (members : List (JsString × JsonValue ν)),
    JsonValue.MembersFaithful members → WellFormed (JsonValue.memberTexts members)
  | [], _ => .mark (by decide) .nil
  | (name, value) :: members, h => by
    rw [JsonValue.MembersFaithful] at h
    rw [JsonValue.memberTexts]
    exact .mark (by decide) ((wellFormed_quote name).append (.mark (by decide)
      ((wellFormed_stringify value h.1).append (wellFormed_memberTexts members h.2))))

end

/-- The text of an object begins with a brace. -/
theorem head_stringify_object (members : List (JsString × JsonValue ν)) :
    (JsonValue.object members).stringify.head? = some 123 := by
  cases members with
  | nil => rfl
  | cons member members => rfl


end Values

end Web
