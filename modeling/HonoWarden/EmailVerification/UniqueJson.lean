import HonoWarden.Web.Json

/-!
# JSON without duplicate members

Model of `parseUniqueJson` (`src/domain/email-verification.ts`). `JSON.parse` keeps the last of two
members of one name, so the source looks for duplicates in the text: a regular expression cuts it
into strings and punctuation, a stack holds for every open brace the names seen behind it and for
every open bracket nothing, and a string in front of a colon is a name of the innermost scope.

The regular expression is `"(?:\\.|[^"\\])*"|[{}[\]:,]` with the flags `g` and `u`: `matchString`
is its first alternative behind the quotation mark, of which both parts begin differently, so that
it matches in one way or not at all; `.` is no line terminator.

Results:
* `matchTokens_eq`: on a text that `JSON.parse` reads the matches are its strings and punctuation;
* `scanTokens_tokens`: the stack follows the grammar;
* **`parseUniqueJson_iff`**: what is returned is what `JSON.parse` returns, of the texts in which no
  object has a name twice.
-/

namespace HonoWarden

open Web

variable {ν : Type} [JsonNumber ν]

/-! ## The code -/

/-- What `.` does not match. -/
def IsLineTerminator (c : CodeUnit) : Prop := c = 10 ∨ c = 13 ∨ c = 0x2028 ∨ c = 0x2029

instance : DecidablePred IsLineTerminator := fun _ => inferInstanceAs (Decidable (_ ∨ _))

/-- `(?:\\.|[^"\\])*"`: what is matched in front of the quotation mark, and what is behind it. -/
def matchString : JsString → Option (JsString × JsString)
  | [] => none
  | [c] => if c = quoteUnit then some ([], []) else none
  | c :: d :: s =>
    if c = quoteUnit then some ([], d :: s)
    else if c = backslash then
      if IsLineTerminator d then none
      else (matchString s).map fun found => (c :: d :: found.1, found.2)
    else (matchString (d :: s)).map fun found => (c :: found.1, found.2)

/-- `raw.match(…) ?? []`: every match is at least one unit long, so the length is fuel enough. -/
def matchTokens : Nat → JsString → List JsString
  | 0, _ => []
  | _ + 1, [] => []
  | n + 1, c :: s =>
    if c = quoteUnit then
      match matchString s with
      | some (body, rest) => (quoteUnit :: (body ++ [quoteUnit])) :: matchTokens n rest
      | none => matchTokens n s
    else if (punctuation c).isSome then [c] :: matchTokens n s
    else matchTokens n s

/-- A name enters the innermost scope, unless that is none of an object or has it. -/
def enterName (stack : List (Option (List JsString))) (name : Option (JsonValue ν)) :
    Option (List (Option (List JsString))) :=
  match stack, name with
  | some names :: outer, some (.string name) =>
    if name ∈ names then none else some (some (name :: names) :: outer)
  | _, _ => none

/-- The loop over the tokens, with the innermost scope first; whether it runs to its end. -/
def scanTokens (ν : Type) [JsonNumber ν] : List (Option (List JsString)) → List JsString → Bool
  | _, [] => true
  | stack, token :: rest =>
    if token = [123] then scanTokens ν (some [] :: stack) rest
    else if token = [91] then scanTokens ν (none :: stack) rest
    else if token = [125] ∨ token = [93] then scanTokens ν stack.tail rest
    else if token.head? = some quoteUnit ∧ rest.head? = some [58] then
      (enterName stack (parseJson (ν := ν) token)).elim false fun stack => scanTokens ν stack rest
    else scanTokens ν stack rest

/-- `parseUniqueJson`. -/
def parseUniqueJson (raw : JsString) : Option (JsonValue ν) :=
  (parseJson raw).bind fun value =>
    if scanTokens ν [] (matchTokens raw.length raw) then some value else none

/-! ## Duplicates -/

mutual

/-- No object, at any depth, has two members whose names are the same string. -/
def UniqueMembers : JsonSyntax → Prop
  | .word _ => True
  | .string _ => True
  | .array items => UniqueInItems items
  | .object members => (members.map fun m => unescape m.1).Nodup ∧ UniqueInMembers members

def UniqueInItems : List JsonSyntax → Prop
  | [] => True
  | item :: items => UniqueMembers item ∧ UniqueInItems items

def UniqueInMembers : List (JsString × JsonSyntax) → Prop
  | [] => True
  | (_, value) :: members => UniqueMembers value ∧ UniqueInMembers members

end

/-! ## The tokens -/

/-- A token as the regular expression matches it; words are not matched. -/
def tokenText : JsonToken → Option JsString
  | .openBrace => some [123]
  | .closeBrace => some [125]
  | .openBracket => some [91]
  | .closeBracket => some [93]
  | .colon => some [58]
  | .comma => some [44]
  | .string raw => some (quoteUnit :: (raw ++ [quoteUnit]))
  | .word _ => none

/-- The matches in a sequence of tokens. -/
def tokenTexts (tokens : List JsonToken) : List JsString := tokens.filterMap tokenText

theorem tokenTexts_append (a b : List JsonToken) :
    tokenTexts (a ++ b) = tokenTexts a ++ tokenTexts b := List.filterMap_append

theorem tokenTexts_flushWord (word : JsString) : tokenTexts (flushWord word) = [] := by
  unfold flushWord
  split_ifs
  · rfl
  · rfl

theorem tokenText_punctuation {c : CodeUnit} {token : JsonToken} (h : punctuation c = some token) :
    tokenText token = some [c] := by
  unfold punctuation at h
  split_ifs at h with h1 h2 h3 h4 h5 h6
  · obtain rfl := Option.some.inj h
    rw [h1]
    rfl
  · obtain rfl := Option.some.inj h
    rw [h2]
    rfl
  · obtain rfl := Option.some.inj h
    rw [h3]
    rfl
  · obtain rfl := Option.some.inj h
    rw [h4]
    rfl
  · obtain rfl := Option.some.inj h
    rw [h5]
    rfl
  · obtain rfl := Option.some.inj h
    rw [h6]
    rfl

/-- A letter of an escape ends no line. -/
theorem not_isLineTerminator_of_isEscapeLetter {c : CodeUnit} (h : IsEscapeLetter c) :
    ¬ IsLineTerminator c := by
  unfold IsEscapeLetter at h
  rintro (rfl | rfl | rfl | rfl)
  · exact absurd h (by decide)
  · exact absurd h (by decide)
  · exact absurd h (by decide)
  · exact absurd h (by decide)

/-- The text of a string is matched up to its quotation mark. -/
theorem matchString_eq {body : JsString} (h : StringText body) (rest : JsString) :
    matchString (body ++ quoteUnit :: rest) = some (body, rest) := by
  induction h with
  | nil =>
    cases rest with
    | nil => rfl
    | cons d rest => exact if_pos rfl
  | @unit c s hquote hslash _ ih =>
    have hcons : ∀ t : JsString, t ≠ [] → matchString (c :: t) =
        (matchString t).map fun found => (c :: found.1, found.2) := by
      intro t ht
      cases t with
      | nil => exact absurd rfl ht
      | cons d t => rw [matchString, if_neg hquote, if_neg hslash]
    rw [List.cons_append, hcons _ (List.append_ne_nil_of_right_ne_nil _ (List.cons_ne_nil _ _)), ih]
    rfl
  | @escape c s hletter _ ih =>
    rw [List.cons_append, List.cons_append, matchString, if_neg (by decide), if_pos rfl,
      if_neg (not_isLineTerminator_of_isEscapeLetter hletter), ih]
    rfl

/-- A string that ends is cut off at its quotation mark. -/
theorem lex_inside_cases : ∀ {s raw : JsString} {tokens : List JsonToken},
    (lex (.inside raw) s = some tokens → ∃ body rest tail, s = body ++ quoteUnit :: rest ∧
      tokens = .string (raw ++ body) :: tail ∧ lex (.outside []) rest = some tail) ∧
    (lex (.escape raw) s = some tokens → ∃ body rest tail, s = body ++ quoteUnit :: rest ∧
      tokens = .string (raw ++ body) :: tail ∧ lex (.outside []) rest = some tail)
  | [], raw, tokens => by
    constructor
    · intro h
      cases h
    · intro h
      cases h
  | c :: s, raw, tokens => by
    constructor
    · intro h
      rw [lex] at h
      split_ifs at h with hquote hslash
      · obtain ⟨tail, htail, rfl⟩ := Option.map_eq_some_iff.mp h
        exact ⟨[], s, tail, by rw [hquote, List.nil_append], by rw [List.append_nil], htail⟩
      · obtain ⟨body, rest, tail, rfl, rfl, htail⟩ := lex_inside_cases.2 h
        refine ⟨c :: body, rest, tail, rfl, ?_, htail⟩
        rw [List.append_assoc, List.singleton_append]
      · obtain ⟨body, rest, tail, rfl, rfl, htail⟩ := lex_inside_cases.1 h
        refine ⟨c :: body, rest, tail, rfl, ?_, htail⟩
        rw [List.append_assoc, List.singleton_append]
    · intro h
      rw [lex] at h
      obtain ⟨body, rest, tail, rfl, rfl, htail⟩ := lex_inside_cases.1 h
      refine ⟨c :: body, rest, tail, rfl, ?_, htail⟩
      rw [List.append_assoc, List.singleton_append]

/-- **The matches in a text are its strings and punctuation.** -/
theorem matchTokens_eq : ∀ {n : Nat} {s word : JsString} {tokens : List JsonToken},
    s.length ≤ n → lex (.outside word) s = some tokens →
      (∀ raw, .string raw ∈ tokens → StringText raw) → matchTokens n s = tokenTexts tokens
  | 0, [], word, tokens, _, h, _ => by
    obtain rfl := Option.some.inj h
    exact (tokenTexts_flushWord word).symm
  | n + 1, [], word, tokens, _, h, _ => by
    obtain rfl := Option.some.inj h
    exact (tokenTexts_flushWord word).symm
  | n + 1, c :: s, word, tokens, hlength, h, hstrings => by
    have hs : s.length ≤ n := Nat.le_of_succ_le_succ hlength
    rw [matchTokens]
    by_cases hquote : c = quoteUnit
    · rw [hquote, lex_quote] at h
      obtain ⟨inner, hinner, rfl⟩ := Option.map_eq_some_iff.mp h
      obtain ⟨body, rest, tail, rfl, rfl, htail⟩ := lex_inside_cases.1 hinner
      rw [List.nil_append] at hstrings ⊢
      have hbody : StringText body :=
        hstrings body (List.mem_append_right _ List.mem_cons_self)
      have hrest : rest.length ≤ n := by
        rw [List.length_append, List.length_cons] at hs
        omega
      rw [if_pos hquote, matchString_eq hbody]
      dsimp only
      rw [matchTokens_eq hrest htail fun raw hraw =>
        hstrings raw (List.mem_append_right _ (List.mem_cons_of_mem _ hraw)), tokenTexts_append,
        tokenTexts_flushWord]
      rfl
    · rw [if_neg hquote]
      cases htoken : punctuation c with
      | some token =>
        rw [lex_punctuation htoken] at h
        obtain ⟨tail, htail, rfl⟩ := Option.map_eq_some_iff.mp h
        rw [Option.isSome_some, if_pos rfl, matchTokens_eq hs htail fun raw hraw =>
          hstrings raw (List.mem_append_right _ (List.mem_cons_of_mem _ hraw)), tokenTexts_append,
          tokenTexts_flushWord]
        unfold tokenTexts
        rw [List.nil_append, List.filterMap_cons_some (tokenText_punctuation htoken)]
      | none =>
        rw [Option.isSome_none, if_neg Bool.false_ne_true]
        by_cases hspace : IsJsonSpace c
        · have hlex : lex (.outside word) (c :: s) =
              (lex (.outside []) s).map (flushWord word ++ ·) := by
            rw [lex, if_neg hquote, htoken]
            exact if_pos hspace
          rw [hlex] at h
          obtain ⟨tail, htail, rfl⟩ := Option.map_eq_some_iff.mp h
          rw [matchTokens_eq hs htail fun raw hraw =>
            hstrings raw (List.mem_append_right _ hraw), tokenTexts_append, tokenTexts_flushWord,
            List.nil_append]
        · rw [lex_wordUnit ⟨hquote, htoken, hspace⟩] at h
          exact matchTokens_eq hs h hstrings

/-! ## The strings of a text that is read -/

mutual

/-- Every string of a tree that stands for a value can be read. -/
theorem stringText_of_value : ∀ (tree : JsonSyntax) {value : JsonValue ν}, tree.value = some value →
    ∀ raw, .string raw ∈ tree.tokens → StringText raw
  | .word text, value, _, raw, hraw => by
    rw [JsonSyntax.tokens, List.mem_singleton] at hraw
    cases hraw
  | .string text, value, h, raw, hraw => by
    rw [JsonSyntax.tokens, List.mem_singleton] at hraw
    obtain rfl := JsonToken.string.inj hraw
    rw [JsonSyntax.value] at h
    obtain ⟨s, hs, -⟩ := Option.map_eq_some_iff.mp h
    exact stringText_of_unescape hs
  | .array [], value, _, raw, hraw => by
    simp [JsonSyntax.tokens] at hraw
  | .array (item :: items), value, h, raw, hraw => by
    rw [JsonSyntax.value, JsonSyntax.itemValues] at h
    obtain ⟨values, hvalues, -⟩ := Option.map_eq_some_iff.mp h
    obtain ⟨first, hfirst, hrest⟩ := Option.bind_eq_some_iff.mp hvalues
    obtain ⟨rest, hrest, -⟩ := Option.map_eq_some_iff.mp hrest
    rw [JsonSyntax.tokens, List.mem_cons, List.mem_append] at hraw
    rcases hraw with hraw | hraw | hraw
    · cases hraw
    · exact stringText_of_value item hfirst raw hraw
    · exact stringText_of_itemValues items hrest raw hraw
  | .object [], value, _, raw, hraw => by
    simp [JsonSyntax.tokens] at hraw
  | .object ((name, member) :: members), value, h, raw, hraw => by
    rw [JsonSyntax.value, JsonSyntax.memberValues] at h
    obtain ⟨values, hvalues, -⟩ := Option.map_eq_some_iff.mp h
    obtain ⟨text, htext, hvalues⟩ := Option.bind_eq_some_iff.mp hvalues
    obtain ⟨first, hfirst, hrest⟩ := Option.bind_eq_some_iff.mp hvalues
    obtain ⟨rest, hrest, -⟩ := Option.map_eq_some_iff.mp hrest
    rw [JsonSyntax.tokens, List.mem_cons, List.mem_cons, List.mem_cons, List.mem_append] at hraw
    rcases hraw with hraw | hraw | hraw | hraw | hraw
    · cases hraw
    · obtain rfl := JsonToken.string.inj hraw
      exact stringText_of_unescape htext
    · cases hraw
    · exact stringText_of_value member hfirst raw hraw
    · exact stringText_of_memberValues members hrest raw hraw

theorem stringText_of_itemValues : ∀ (items : List JsonSyntax) {values : List (JsonValue ν)},
    JsonSyntax.itemValues items = some values →
      ∀ raw, .string raw ∈ JsonSyntax.itemTokens items → StringText raw
  | [], values, _, raw, hraw => by
    rw [JsonSyntax.itemTokens, List.mem_singleton] at hraw
    cases hraw
  | item :: items, values, h, raw, hraw => by
    rw [JsonSyntax.itemValues] at h
    obtain ⟨first, hfirst, hrest⟩ := Option.bind_eq_some_iff.mp h
    obtain ⟨rest, hrest, -⟩ := Option.map_eq_some_iff.mp hrest
    rw [JsonSyntax.itemTokens, List.mem_cons, List.mem_append] at hraw
    rcases hraw with hraw | hraw | hraw
    · cases hraw
    · exact stringText_of_value item hfirst raw hraw
    · exact stringText_of_itemValues items hrest raw hraw

theorem stringText_of_memberValues : ∀ (members : List (JsString × JsonSyntax))
    {values : List (JsString × JsonValue ν)}, JsonSyntax.memberValues members = some values →
      ∀ raw, .string raw ∈ JsonSyntax.memberTokens members → StringText raw
  | [], values, _, raw, hraw => by
    rw [JsonSyntax.memberTokens, List.mem_singleton] at hraw
    cases hraw
  | (name, member) :: members, values, h, raw, hraw => by
    rw [JsonSyntax.memberValues] at h
    obtain ⟨text, htext, hvalues⟩ := Option.bind_eq_some_iff.mp h
    obtain ⟨first, hfirst, hrest⟩ := Option.bind_eq_some_iff.mp hvalues
    obtain ⟨rest, hrest, -⟩ := Option.map_eq_some_iff.mp hrest
    rw [JsonSyntax.memberTokens, List.mem_cons, List.mem_cons, List.mem_cons,
      List.mem_append] at hraw
    rcases hraw with hraw | hraw | hraw | hraw | hraw
    · cases hraw
    · obtain rfl := JsonToken.string.inj hraw
      exact stringText_of_unescape htext
    · cases hraw
    · exact stringText_of_value member hfirst raw hraw
    · exact stringText_of_memberValues members hrest raw hraw

end

/-! ## The scopes -/

section Scan

variable {stack outer : List (Option (List JsString))} {rest : List JsString}

theorem scanTokens_openBrace :
    scanTokens ν stack ([123] :: rest) = scanTokens ν (some [] :: stack) rest := by
  rw [scanTokens, if_pos rfl]

theorem scanTokens_openBracket :
    scanTokens ν stack ([91] :: rest) = scanTokens ν (none :: stack) rest := by
  rw [scanTokens, if_neg (by decide), if_pos rfl]

theorem scanTokens_close {token : JsString} (h : token = [125] ∨ token = [93]) :
    scanTokens ν stack (token :: rest) = scanTokens ν stack.tail rest := by
  rw [scanTokens, if_neg, if_neg, if_pos h]
  · rcases h with rfl | rfl
    · decide
    · decide
  · rcases h with rfl | rfl
    · decide
    · decide

theorem scanTokens_separator {token : JsString} (h : token = [58] ∨ token = [44]) :
    scanTokens ν stack (token :: rest) = scanTokens ν stack rest := by
  rcases h with rfl | rfl
  · rw [scanTokens, if_neg (by decide), if_neg (by decide), if_neg (by decide),
      if_neg fun h => absurd h.1 (by decide)]
  · rw [scanTokens, if_neg (by decide), if_neg (by decide), if_neg (by decide),
      if_neg fun h => absurd h.1 (by decide)]

/-- The match of a string is no punctuation. -/
theorem quoted_ne (raw : JsString) {c : CodeUnit} (hc : c ≠ quoteUnit) :
    quoteUnit :: (raw ++ [quoteUnit]) ≠ [c] :=
  fun h => hc (List.cons.inj h).1.symm

/-- A string that is no name. -/
theorem scanTokens_string (raw : JsString) (hrest : rest.head? ≠ some [58]) :
    scanTokens ν stack ((quoteUnit :: (raw ++ [quoteUnit])) :: rest) =
      scanTokens ν stack rest := by
  rw [scanTokens, if_neg (quoted_ne raw (by decide)), if_neg (quoted_ne raw (by decide)),
    if_neg (not_or.mpr ⟨quoted_ne raw (by decide), quoted_ne raw (by decide)⟩),
    if_neg fun h => hrest h.2]

/-- `JSON.parse` of a string token. -/
theorem parseJson_quoted {raw name : JsString} (h : unescape raw = some name) :
    parseJson (ν := ν) (quoteUnit :: (raw ++ [quoteUnit])) = some (.string name) := by
  have hlex := @lex_string raw [] (stringText_of_unescape h)
  rw [lex, Option.map_some, flushWord, if_pos rfl] at hlex
  have htree : parseTokens [.string raw] = some (.string raw) :=
    parseTokens_eq_some_iff.mpr (by rw [JsonSyntax.tokens])
  unfold parseJson readSyntax
  rw [hlex, Option.bind_some, htree, Option.bind_some, JsonSyntax.value, h]
  rfl

/-- A name. -/
theorem scanTokens_name {raw name : JsString} {names : List JsString}
    (h : unescape raw = some name) :
    scanTokens ν (some names :: outer) ((quoteUnit :: (raw ++ [quoteUnit])) :: [58] :: rest) =
      if name ∈ names then false else scanTokens ν (some (name :: names) :: outer) rest := by
  rw [scanTokens, if_neg (quoted_ne raw (by decide)), if_neg (quoted_ne raw (by decide)),
    if_neg (not_or.mpr ⟨quoted_ne raw (by decide), quoted_ne raw (by decide)⟩),
    if_pos ⟨rfl, rfl⟩, parseJson_quoted h, enterName]
  split_ifs
  · rfl
  · exact scanTokens_separator (Or.inl rfl)

end Scan

/-- The names of members, and those seen before them. -/
def FreshNames (names : List JsString) (members : List (JsString × JsonSyntax)) : Prop :=
  (∀ m ∈ members, ∀ name ∈ names, unescape m.1 ≠ some name) ∧
    (members.map fun m => unescape m.1).Nodup

theorem freshNames_cons {names : List JsString} {raw name : JsString} {value : JsonSyntax}
    {members : List (JsString × JsonSyntax)} (h : unescape raw = some name) :
    FreshNames names ((raw, value) :: members) ↔
      name ∉ names ∧ FreshNames (name :: names) members := by
  unfold FreshNames
  rw [List.map_cons, List.nodup_cons, List.forall_mem_cons, h]
  constructor
  · rintro ⟨⟨hfirst, hrest⟩, hnew, hnodup⟩
    refine ⟨fun hmem => hfirst name hmem rfl, fun m hm => ?_, hnodup⟩
    refine List.forall_mem_cons.mpr ⟨fun hsame => hnew ?_, hrest m hm⟩
    exact List.mem_map.mpr ⟨m, hm, hsame⟩
  · rintro ⟨hnew, hrest, hnodup⟩
    refine ⟨⟨?_, fun m hm => (List.forall_mem_cons.mp (hrest m hm)).2⟩, ?_, hnodup⟩
    · intro other hother hsame
      exact hnew (Option.some.inj hsame ▸ hother)
    · intro hmem
      obtain ⟨m, hm, hsame⟩ := List.mem_map.mp hmem
      exact (List.forall_mem_cons.mp (hrest m hm)).1 hsame

theorem head_itemTokens (items : List JsonSyntax) (rest : List JsString) :
    (tokenTexts (JsonSyntax.itemTokens items) ++ rest).head? ≠ some [58] := by
  cases items with
  | nil => exact fun h => by cases h
  | cons item items => exact fun h => by cases h

theorem head_memberTokens (members : List (JsString × JsonSyntax)) (rest : List JsString) :
    (tokenTexts (JsonSyntax.memberTokens members) ++ rest).head? ≠ some [58] := by
  cases members with
  | nil => exact fun h => by cases h
  | cons member members => exact fun h => by cases h

mutual

/-- **The scopes follow the grammar**: over the tokens of a value the scan goes on if and only if no
object in it has a name twice. -/
theorem scanTokens_tokens : ∀ (tree : JsonSyntax) {value : JsonValue ν}, tree.value = some value →
    ∀ {stack : List (Option (List JsString))} {rest : List JsString}, rest.head? ≠ some [58] →
      (scanTokens ν stack (tokenTexts tree.tokens ++ rest) = true ↔
        UniqueMembers tree ∧ scanTokens ν stack rest = true)
  | .word text, value, _, stack, rest, _ => by
    rw [JsonSyntax.tokens, UniqueMembers, true_and]
    rfl
  | .string raw, value, _, stack, rest, hrest => by
    rw [JsonSyntax.tokens, UniqueMembers, true_and]
    exact Eq.congr_left (scanTokens_string raw hrest)
  | .array [], value, _, stack, rest, _ => by
    rw [JsonSyntax.tokens, UniqueMembers, UniqueInItems, true_and]
    refine Eq.congr_left ?_
    exact scanTokens_openBracket.trans (scanTokens_close (Or.inr rfl))
  | .array (item :: items), value, h, stack, rest, hrest => by
    rw [JsonSyntax.value, JsonSyntax.itemValues] at h
    obtain ⟨values, hvalues, -⟩ := Option.map_eq_some_iff.mp h
    obtain ⟨first, hfirst, hrest'⟩ := Option.bind_eq_some_iff.mp hvalues
    obtain ⟨others, hothers, -⟩ := Option.map_eq_some_iff.mp hrest'
    have htexts : tokenTexts (JsonSyntax.array (item :: items)).tokens ++ rest =
        [91] :: (tokenTexts item.tokens ++ (tokenTexts (JsonSyntax.itemTokens items) ++ rest)) := by
      rw [JsonSyntax.tokens, ← List.append_assoc, ← tokenTexts_append]
      rfl
    rw [htexts, scanTokens_openBracket,
      scanTokens_tokens item hfirst (head_itemTokens items rest),
      scanTokens_itemTokens items hothers, UniqueMembers, UniqueInItems, and_assoc]
  | .object [], value, _, stack, rest, _ => by
    rw [JsonSyntax.tokens, UniqueMembers, UniqueInMembers, List.map_nil]
    simp only [List.nodup_nil, true_and]
    refine Eq.congr_left ?_
    exact scanTokens_openBrace.trans (scanTokens_close (Or.inl rfl))
  | .object ((raw, member) :: members), value, h, stack, rest, hrest => by
    rw [JsonSyntax.value, JsonSyntax.memberValues] at h
    obtain ⟨values, hvalues, -⟩ := Option.map_eq_some_iff.mp h
    obtain ⟨name, hname, hvalues⟩ := Option.bind_eq_some_iff.mp hvalues
    obtain ⟨first, hfirst, hrest'⟩ := Option.bind_eq_some_iff.mp hvalues
    obtain ⟨others, hothers, -⟩ := Option.map_eq_some_iff.mp hrest'
    have htexts : tokenTexts (JsonSyntax.object ((raw, member) :: members)).tokens ++ rest =
        [123] :: (quoteUnit :: (raw ++ [quoteUnit])) :: [58] ::
          (tokenTexts member.tokens ++ (tokenTexts (JsonSyntax.memberTokens members) ++ rest)) := by
      rw [JsonSyntax.tokens, ← List.append_assoc, ← tokenTexts_append]
      rfl
    have hfresh : ((raw, member) :: members).map (fun m => unescape m.1) =
        ((raw, member) :: members).map (fun m => unescape m.1) := rfl
    have hnames : (((raw, member) :: members).map fun m => unescape m.1).Nodup ↔
        FreshNames [name] members := by
      have hcons := @freshNames_cons [] raw name member members hname
      simp only [List.not_mem_nil, not_false_eq_true, true_and] at hcons
      rw [← hcons]
      exact (and_iff_right fun m _ other hother => absurd hother List.not_mem_nil).symm
    rw [htexts, scanTokens_openBrace, scanTokens_name hname, if_neg List.not_mem_nil,
      scanTokens_tokens member hfirst (head_memberTokens members rest),
      scanTokens_memberTokens members hothers, UniqueMembers, UniqueInMembers, hnames]
    tauto

theorem scanTokens_itemTokens : ∀ (items : List JsonSyntax) {values : List (JsonValue ν)},
    JsonSyntax.itemValues items = some values →
    ∀ {stack : List (Option (List JsString))} {rest : List JsString},
      (scanTokens ν (none :: stack) (tokenTexts (JsonSyntax.itemTokens items) ++ rest) = true ↔
        UniqueInItems items ∧ scanTokens ν stack rest = true)
  | [], values, _, stack, rest => by
    rw [JsonSyntax.itemTokens, UniqueInItems, true_and]
    exact Eq.congr_left (scanTokens_close (Or.inr rfl))
  | item :: items, values, h, stack, rest => by
    rw [JsonSyntax.itemValues] at h
    obtain ⟨first, hfirst, hrest'⟩ := Option.bind_eq_some_iff.mp h
    obtain ⟨others, hothers, -⟩ := Option.map_eq_some_iff.mp hrest'
    have htexts : tokenTexts (JsonSyntax.itemTokens (item :: items)) ++ rest =
        [44] :: (tokenTexts item.tokens ++ (tokenTexts (JsonSyntax.itemTokens items) ++ rest)) := by
      rw [JsonSyntax.itemTokens, ← List.append_assoc, ← tokenTexts_append]
      rfl
    rw [htexts, scanTokens_separator (Or.inr rfl),
      scanTokens_tokens item hfirst (head_itemTokens items rest),
      scanTokens_itemTokens items hothers, UniqueInItems, and_assoc]

theorem scanTokens_memberTokens : ∀ (members : List (JsString × JsonSyntax))
    {values : List (JsString × JsonValue ν)}, JsonSyntax.memberValues members = some values →
    ∀ {stack : List (Option (List JsString))} {names : List JsString} {rest : List JsString},
      (scanTokens ν (some names :: stack)
          (tokenTexts (JsonSyntax.memberTokens members) ++ rest) = true ↔
        FreshNames names members ∧ UniqueInMembers members ∧ scanTokens ν stack rest = true)
  | [], values, _, stack, names, rest => by
    rw [JsonSyntax.memberTokens, UniqueInMembers, true_and]
    refine (Eq.congr_left (scanTokens_close (Or.inl rfl))).trans (and_iff_right ?_).symm
    exact ⟨fun m hm => absurd hm List.not_mem_nil, List.nodup_nil⟩
  | (raw, member) :: members, values, h, stack, names, rest => by
    rw [JsonSyntax.memberValues] at h
    obtain ⟨name, hname, hvalues⟩ := Option.bind_eq_some_iff.mp h
    obtain ⟨first, hfirst, hrest'⟩ := Option.bind_eq_some_iff.mp hvalues
    obtain ⟨others, hothers, -⟩ := Option.map_eq_some_iff.mp hrest'
    have htexts : tokenTexts (JsonSyntax.memberTokens ((raw, member) :: members)) ++ rest =
        [44] :: (quoteUnit :: (raw ++ [quoteUnit])) :: [58] ::
          (tokenTexts member.tokens ++ (tokenTexts (JsonSyntax.memberTokens members) ++ rest)) := by
      rw [JsonSyntax.memberTokens, ← List.append_assoc, ← tokenTexts_append]
      rfl
    rw [htexts, scanTokens_separator (Or.inr rfl), scanTokens_name hname, freshNames_cons hname]
    split_ifs with hseen
    · simp [hseen]
    · rw [scanTokens_tokens member hfirst (head_memberTokens members rest),
        scanTokens_memberTokens members hothers, UniqueInMembers]
      tauto

end

/-- **The texts without duplicate members.** For every string, `parseUniqueJson` returns a value if
and only if `JSON.parse` returns that value and no object of the text, at any depth, has two members
whose names are equal once their escapes are read. -/
theorem parseUniqueJson_iff (raw : JsString) (value : JsonValue ν) :
    parseUniqueJson raw = some value ↔
      parseJson raw = some value ∧ ∀ tree, readSyntax raw = some tree → UniqueMembers tree := by
  have hscan {tree : JsonSyntax} (htree : readSyntax raw = some tree)
      (hvalue : tree.value = some value) :
      scanTokens ν [] (matchTokens raw.length raw) = true ↔ UniqueMembers tree := by
    obtain ⟨tokens, htokens, hparse⟩ := Option.bind_eq_some_iff.mp htree
    have htexts : matchTokens raw.length raw = tokenTexts tree.tokens := by
      rw [parseTokens_eq_some_iff.mp hparse]
      refine matchTokens_eq le_rfl htokens ?_
      rw [← parseTokens_eq_some_iff.mp hparse]
      exact stringText_of_value tree hvalue
    have h : scanTokens ν [] (tokenTexts tree.tokens ++ []) = true ↔
        UniqueMembers tree ∧ scanTokens ν [] [] = true :=
      scanTokens_tokens tree hvalue fun h => by cases h
    rw [List.append_nil] at h
    rw [htexts, h]
    exact and_iff_left rfl
  unfold parseUniqueJson
  constructor
  · intro h
    obtain ⟨value', hvalue', h'⟩ := Option.bind_eq_some_iff.mp h
    split_ifs at h' with hunique
    obtain rfl := Option.some.inj h'
    refine ⟨hvalue', fun tree htree => ?_⟩
    have htree' : tree.value = some value' := by
      unfold parseJson at hvalue'
      rwa [htree, Option.bind_some] at hvalue'
    exact (hscan htree htree').mp hunique
  · rintro ⟨hparse, hunique⟩
    obtain ⟨tree, htree, hvalue⟩ := Option.bind_eq_some_iff.mp hparse
    rw [hparse, Option.bind_some, if_pos ((hscan htree hvalue).mpr (hunique tree htree))]


end HonoWarden
