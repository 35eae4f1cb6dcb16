import HonoWarden.Web.Text

/-!
# The syntax of JSON

A JSON text is a sequence of tokens that conforms to the grammar of values, with whitespace between
tokens. `lex` cuts a string into tokens: punctuation, strings by what stands between their quotes,
and words, the runs of other characters, which are to be the literal names and the numbers.
`JsonSyntax` is the tree of the grammar with its strings and words as they stand in the text, object
members in order and none dropped; `JsonSyntax.tokens` writes a tree down.

Results:
* `lex_outside_word`, `lex_string`: how a text is cut;
* **`parseTokens_eq_some_iff`**: the parser finds the tree whose tokens they are, and so every text
  has at most one.
-/

namespace Web

/-! ## Tokens -/

/-- The tokens of a JSON text. -/
inductive JsonToken where
  | openBrace
  | closeBrace
  | openBracket
  | closeBracket
  | colon
  | comma
  | string (raw : JsString)
  | word (text : JsString)
  deriving DecidableEq, Repr

/-- The quotation mark. -/
abbrev quoteUnit : CodeUnit := 34

/-- The backslash. -/
abbrev backslash : CodeUnit := 92

/-- The punctuation. -/
def punctuation (c : CodeUnit) : Option JsonToken :=
  if c = 123 then some .openBrace
  else if c = 125 then some .closeBrace
  else if c = 91 then some .openBracket
  else if c = 93 then some .closeBracket
  else if c = 58 then some .colon
  else if c = 44 then some .comma
  else none

/-- Whitespace between tokens. -/
def IsJsonSpace (c : CodeUnit) : Prop := c = 9 ∨ c = 10 ∨ c = 13 ∨ c = 32

instance : DecidablePred IsJsonSpace := fun _ => inferInstanceAs (Decidable (_ ∨ _))

/-- Where a text is cut: outside of strings, with the word under way; inside a string, with what has
been read of it; behind a backslash. -/
inductive LexState where
  | outside (word : JsString)
  | inside (raw : JsString)
  | escape (raw : JsString)

/-- The word under way, if there is one. -/
def flushWord (word : JsString) : List JsonToken := if word = [] then [] else [.word word]

/-- Cut a text into tokens; `none` when a string does not end. -/
def lex : LexState → JsString → Option (List JsonToken)
  | .outside word, [] => some (flushWord word)
  | .inside _, [] => none
  | .escape _, [] => none
  | .outside word, c :: s =>
    if c = quoteUnit then (lex (.inside []) s).map (flushWord word ++ ·)
    else
      match punctuation c with
      | some token => (lex (.outside []) s).map fun tokens => flushWord word ++ token :: tokens
      | none =>
        if IsJsonSpace c then (lex (.outside []) s).map (flushWord word ++ ·)
        else lex (.outside (word ++ [c])) s
  | .inside raw, c :: s =>
    if c = quoteUnit then (lex (.outside []) s).map (.string raw :: ·)
    else if c = backslash then lex (.escape (raw ++ [c])) s
    else lex (.inside (raw ++ [c])) s
  | .escape raw, c :: s => lex (.inside (raw ++ [c])) s

/-- A unit of a word. -/
def IsWordUnit (c : CodeUnit) : Prop := c ≠ quoteUnit ∧ punctuation c = none ∧ ¬ IsJsonSpace c

instance : DecidablePred IsWordUnit := fun _ => inferInstanceAs (Decidable (_ ∧ _))

section Lex

variable {c : CodeUnit} {s : JsString} {word raw : JsString}

theorem lex_quote : lex (.outside word) (quoteUnit :: s) =
    (lex (.inside []) s).map (flushWord word ++ ·) := by
  rw [lex, if_pos rfl]

theorem ne_quote_of_punctuation {token : JsonToken} (h : punctuation c = some token) :
    c ≠ quoteUnit := by
  rintro rfl
  cases h

theorem lex_punctuation {token : JsonToken} (h : punctuation c = some token) :
    lex (.outside word) (c :: s) =
      (lex (.outside []) s).map fun tokens => flushWord word ++ token :: tokens := by
  rw [lex, if_neg (ne_quote_of_punctuation h), h]

theorem lex_wordUnit (h : IsWordUnit c) :
    lex (.outside word) (c :: s) = lex (.outside (word ++ [c])) s := by
  rw [lex, if_neg h.1, h.2.1]
  exact if_neg h.2.2

/-- A text that ends, or goes on with punctuation. -/
def PunctuationNext (rest : JsString) : Prop := ∀ c ∈ rest.head?, punctuation c ≠ none

/-- A word ends where punctuation follows. -/
theorem lex_flush {rest : JsString} (h : PunctuationNext rest) :
    lex (.outside word) rest = (lex (.outside []) rest).map (flushWord word ++ ·) := by
  cases rest with
  | nil =>
    rw [lex, lex, Option.map_some]
    exact congrArg some (List.append_nil _).symm
  | cons c rest =>
    obtain ⟨token, htoken⟩ := Option.ne_none_iff_exists'.mp (h c rfl)
    rw [lex_punctuation htoken, lex_punctuation htoken, Option.map_map]
    rfl

/-- **A word in front of punctuation is one token.** -/
theorem lex_outside_word (hunits : ∀ c ∈ s, IsWordUnit c) (hne : s ≠ []) {rest : JsString}
    (hrest : PunctuationNext rest) :
    lex (.outside []) (s ++ rest) = (lex (.outside []) rest).map (.word s :: ·) := by
  have hrun : ∀ (s word : JsString), (∀ c ∈ s, IsWordUnit c) →
      lex (.outside word) (s ++ rest) = lex (.outside (word ++ s)) rest := by
    intro s
    induction s with
    | nil => exact fun word _ => by rw [List.nil_append, List.append_nil]
    | cons c s ih =>
      intro word hunits
      rw [List.cons_append, lex_wordUnit (hunits c List.mem_cons_self),
        ih _ fun d hd => hunits d (List.mem_cons_of_mem _ hd), List.append_assoc,
        List.singleton_append]
  rw [hrun s [] hunits, List.nil_append, lex_flush hrest, flushWord, if_neg hne]
  rfl

/-- The unit of an escape of one letter. -/
def escapeUnit (c : CodeUnit) : Option CodeUnit :=
  if c = 34 then some 34
  else if c = 92 then some 92
  else if c = 47 then some 47
  else if c = 98 then some 8
  else if c = 102 then some 12
  else if c = 110 then some 10
  else if c = 114 then some 13
  else if c = 116 then some 9
  else none

/-- What may stand behind a backslash. -/
def IsEscapeLetter (c : CodeUnit) : Prop := c = 117 ∨ escapeUnit c ≠ none

/-- The text of a string: no quotation mark, and no backslash, but where a backslash is in front. -/
inductive StringText : JsString → Prop where
  | nil : StringText []
  | unit {c : CodeUnit} {s : JsString} :
      c ≠ quoteUnit → c ≠ backslash → StringText s → StringText (c :: s)
  | escape {c : CodeUnit} {s : JsString} :
      IsEscapeLetter c → StringText s → StringText (backslash :: c :: s)

/-- **A string is one token.** -/
theorem lex_inside {text : JsString} (h : StringText text) (raw rest : JsString) :
    lex (.inside raw) (text ++ quoteUnit :: rest) =
      (lex (.outside []) rest).map (.string (raw ++ text) :: ·) := by
  induction h generalizing raw with
  | nil => rw [List.nil_append, lex, if_pos rfl, List.append_nil]
  | unit hquote hslash _ ih =>
    rw [List.cons_append, lex, if_neg hquote, if_neg hslash, ih]
    simp only [List.append_assoc, List.singleton_append]
  | escape _ _ ih =>
    rw [List.cons_append, List.cons_append, lex, if_neg (by decide), if_pos rfl, lex, ih]
    simp only [List.append_assoc, List.cons_append, List.nil_append]

theorem lex_string {text rest : JsString} (h : StringText text) :
    lex (.outside []) (quoteUnit :: (text ++ quoteUnit :: rest)) =
      (lex (.outside []) rest).map (.string text :: ·) := by
  have hinside := lex_inside h [] rest
  rw [List.nil_append] at hinside
  rw [lex_quote, hinside, Option.map_map]
  rfl

end Lex

/-! ## Trees -/

/-- A value as it stands in the text. -/
inductive JsonSyntax where
  | word (text : JsString)
  | string (raw : JsString)
  | array (items : List JsonSyntax)
  | object (members : List (JsString × JsonSyntax))

mutual

/-- The tokens of a value. -/
def JsonSyntax.tokens : JsonSyntax → List JsonToken
  | .word text => [.word text]
  | .string raw => [.string raw]
  | .array [] => [.openBracket, .closeBracket]
  | .array (item :: items) => .openBracket :: (item.tokens ++ JsonSyntax.itemTokens items)
  | .object [] => [.openBrace, .closeBrace]
  | .object ((name, value) :: members) =>
    .openBrace :: .string name :: .colon :: (value.tokens ++ JsonSyntax.memberTokens members)

/-- The tokens behind the first item of an array. -/
def JsonSyntax.itemTokens : List JsonSyntax → List JsonToken
  | [] => [.closeBracket]
  | item :: items => .comma :: (item.tokens ++ JsonSyntax.itemTokens items)

/-- The tokens behind the first member of an object. -/
def JsonSyntax.memberTokens : List (JsString × JsonSyntax) → List JsonToken
  | [] => [.closeBrace]
  | (name, value) :: members =>
    .comma :: .string name :: .colon :: (value.tokens ++ JsonSyntax.memberTokens members)

end

/-! ## The parser -/

mutual

/-- The value tokens begin with, and what is behind it. -/
def parseValue : Nat → List JsonToken → Option (JsonSyntax × List JsonToken)
  | 0, _ => none
  | n + 1, tokens =>
    match tokens with
    | .word text :: rest => some (.word text, rest)
    | .string raw :: rest => some (.string raw, rest)
    | .openBracket :: .closeBracket :: rest => some (.array [], rest)
    | .openBracket :: rest =>
      match parseValue n rest with
      | some (item, rest) => (parseItems n rest).map fun found => (.array (item :: found.1), found.2)
      | none => none
    | .openBrace :: .closeBrace :: rest => some (.object [], rest)
    | .openBrace :: .string name :: .colon :: rest =>
      match parseValue n rest with
      | some (value, rest) =>
        (parseMembers n rest).map fun found => (.object ((name, value) :: found.1), found.2)
      | none => none
    | _ => none

/-- The items behind the first. -/
def parseItems : Nat → List JsonToken → Option (List JsonSyntax × List JsonToken)
  | 0, _ => none
  | n + 1, tokens =>
    match tokens with
    | .closeBracket :: rest => some ([], rest)
    | .comma :: rest =>
      match parseValue n rest with
      | some (item, rest) => (parseItems n rest).map fun found => (item :: found.1, found.2)
      | none => none
    | _ => none

/-- The members behind the first. -/
def parseMembers : Nat → List JsonToken → Option (List (JsString × JsonSyntax) × List JsonToken)
  | 0, _ => none
  | n + 1, tokens =>
    match tokens with
    | .closeBrace :: rest => some ([], rest)
    | .comma :: .string name :: .colon :: rest =>
      match parseValue n rest with
      | some (value, rest) =>
        (parseMembers n rest).map fun found => ((name, value) :: found.1, found.2)
      | none => none
    | _ => none

end

/-- The value whose tokens they are; every call of the parser behind the first has used up a token,
so their number is fuel enough. -/
def parseTokens (tokens : List JsonToken) : Option JsonSyntax :=
  match parseValue tokens.length tokens with
  | some (value, []) => some value
  | _ => none

/-- What is parsed is what its tokens write. -/
theorem parse_sound : ∀ n,
    (∀ {tokens value rest}, parseValue n tokens = some (value, rest) →
      tokens = value.tokens ++ rest) ∧
    (∀ {tokens items rest}, parseItems n tokens = some (items, rest) →
      tokens = JsonSyntax.itemTokens items ++ rest) ∧
    ∀ {tokens members rest}, parseMembers n tokens = some (members, rest) →
      tokens = JsonSyntax.memberTokens members ++ rest
  | 0 => by
    refine ⟨?_, ?_, ?_⟩
    · intro tokens value rest h
      cases h
    · intro tokens items rest h
      cases h
    · intro tokens members rest h
      cases h
  | n + 1 => by
    obtain ⟨hvalue, hitems, hmembers⟩ := parse_sound n
    refine ⟨?_, ?_, ?_⟩
    · intro tokens value rest h
      unfold parseValue at h
      split at h
      · obtain ⟨rfl, rfl⟩ := Prod.mk.inj (Option.some.inj h)
        rfl
      · obtain ⟨rfl, rfl⟩ := Prod.mk.inj (Option.some.inj h)
        rfl
      · obtain ⟨rfl, rfl⟩ := Prod.mk.inj (Option.some.inj h)
        rfl
      · split at h
        · rename_i hitem
          obtain ⟨⟨items, rest'⟩, hrest, hsome⟩ := Option.map_eq_some_iff.mp h
          obtain ⟨rfl, rfl⟩ := Prod.mk.inj hsome
          rw [hvalue hitem, hitems hrest, JsonSyntax.tokens, List.cons_append, List.append_assoc]
        · cases h
      · obtain ⟨rfl, rfl⟩ := Prod.mk.inj (Option.some.inj h)
        rfl
      · split at h
        · rename_i hmember
          obtain ⟨⟨members, rest'⟩, hrest, hsome⟩ := Option.map_eq_some_iff.mp h
          obtain ⟨rfl, rfl⟩ := Prod.mk.inj hsome
          rw [hvalue hmember, hmembers hrest, JsonSyntax.tokens, List.cons_append,
            List.cons_append, List.cons_append, List.append_assoc]
        · cases h
      · cases h
    · intro tokens items rest h
      unfold parseItems at h
      split at h
      · obtain ⟨rfl, rfl⟩ := Prod.mk.inj (Option.some.inj h)
        rfl
      · split at h
        · rename_i hitem
          obtain ⟨⟨items', rest'⟩, hrest, hsome⟩ := Option.map_eq_some_iff.mp h
          obtain ⟨rfl, rfl⟩ := Prod.mk.inj hsome
          rw [hvalue hitem, hitems hrest, JsonSyntax.itemTokens, List.cons_append,
            List.append_assoc]
        · cases h
      · cases h
    · intro tokens members rest h
      unfold parseMembers at h
      split at h
      · obtain ⟨rfl, rfl⟩ := Prod.mk.inj (Option.some.inj h)
        rfl
      · split at h
        · rename_i hmember
          obtain ⟨⟨members', rest'⟩, hrest, hsome⟩ := Option.map_eq_some_iff.mp h
          obtain ⟨rfl, rfl⟩ := Prod.mk.inj hsome
          rw [hvalue hmember, hmembers hrest, JsonSyntax.memberTokens, List.cons_append,
            List.cons_append, List.cons_append, List.append_assoc]
        · cases h
      · cases h

/-- Tokens of a value do not begin by closing something. -/
theorem JsonSyntax.tokens_ne_close (value : JsonSyntax) {rest tokens : List JsonToken} :
    value.tokens ++ rest ≠ .closeBracket :: tokens := by
  cases value with
  | word text => exact fun h => by cases h
  | string raw => exact fun h => by cases h
  | array items =>
    cases items with
    | nil => exact fun h => by cases h
    | cons item items => exact fun h => by cases h
  | object members =>
    cases members with
    | nil => exact fun h => by cases h
    | cons member members => exact fun h => by cases h

mutual

/-- A value is parsed from its tokens. -/
theorem parseValue_tokens : ∀ (value : JsonSyntax) (rest : List JsonToken) {n : Nat},
    value.tokens.length ≤ n → parseValue n (value.tokens ++ rest) = some (value, rest)
  | .word text, rest, n + 1, _ => rfl
  | .string raw, rest, n + 1, _ => rfl
  | .array [], rest, n + 1, _ => rfl
  | .array (item :: items), rest, n + 1, h => by
    rw [JsonSyntax.tokens, List.length_cons, List.length_append] at h
    rw [JsonSyntax.tokens, List.cons_append, List.append_assoc, parseValue,
      parseValue_tokens item _ (by omega)]
    · dsimp only
      rw [parseItems_tokens items rest (by omega)]
      rfl
    · exact fun _ => item.tokens_ne_close
  | .object [], rest, n + 1, _ => rfl
  | .object ((name, value) :: members), rest, n + 1, h => by
    rw [JsonSyntax.tokens, List.length_cons, List.length_cons, List.length_cons,
      List.length_append] at h
    rw [JsonSyntax.tokens, List.cons_append, List.cons_append, List.cons_append,
      List.append_assoc, parseValue, parseValue_tokens value _ (by omega)]
    dsimp only
    rw [parseMembers_tokens members rest (by omega)]
    rfl

theorem parseItems_tokens : ∀ (items : List JsonSyntax) (rest : List JsonToken) {n : Nat},
    (JsonSyntax.itemTokens items).length ≤ n →
      parseItems n (JsonSyntax.itemTokens items ++ rest) = some (items, rest)
  | [], rest, n + 1, _ => rfl
  | item :: items, rest, n + 1, h => by
    rw [JsonSyntax.itemTokens, List.length_cons, List.length_append] at h
    rw [JsonSyntax.itemTokens, List.cons_append, List.append_assoc, parseItems,
      parseValue_tokens item _ (by omega)]
    dsimp only
    rw [parseItems_tokens items rest (by omega)]
    rfl

theorem parseMembers_tokens : ∀ (members : List (JsString × JsonSyntax)) (rest : List JsonToken)
    {n : Nat}, (JsonSyntax.memberTokens members).length ≤ n →
      parseMembers n (JsonSyntax.memberTokens members ++ rest) = some (members, rest)
  | [], rest, n + 1, _ => rfl
  | (name, value) :: members, rest, n + 1, h => by
    rw [JsonSyntax.memberTokens, List.length_cons, List.length_cons, List.length_cons,
      List.length_append] at h
    rw [JsonSyntax.memberTokens, List.cons_append, List.cons_append, List.cons_append,
      List.append_assoc, parseMembers, parseValue_tokens value _ (by omega)]
    dsimp only
    rw [parseMembers_tokens members rest (by omega)]
    rfl

end

/-- **The parser finds the tree whose tokens they are.** -/
theorem parseTokens_eq_some_iff {tokens : List JsonToken} {value : JsonSyntax} :
    parseTokens tokens = some value ↔ value.tokens = tokens := by
  unfold parseTokens
  constructor
  · intro h
    split at h
    · rename_i found hfound
      obtain rfl := Option.some.inj h
      rw [(parse_sound _).1 hfound, List.append_nil]
    · cases h
  · rintro rfl
    have hparse := parseValue_tokens value [] le_rfl
    rw [List.append_nil] at hparse
    rw [hparse]


end Web
