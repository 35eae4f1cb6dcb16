import Mathlib

/-!
# Keyset paging

A listing is ordered by a key no two rows share. A page is asked for with a cursor: the rows whose
keys are greater (`behind`), of which one more is read than is shown, and where there is one more,
the page has a token for the row it ends with. A client follows tokens until a page has none
(`Followed`).

Results:
* `sortBy_filter`: filtering and ordering commute;
* `Followed.unique`: what a client gathers is determined;
* **`followed_iff`**: a client gathers the records of all rows in order, or some row cannot be read
  and it gets to no end.
-/

namespace Relational

/-! ## Ordering by a key -/

section Sorting

variable {α κ : Type} [LinearOrder κ] {key : α → κ} {rows : List α}

/-- `ORDER BY key`. -/
def sortBy (key : α → κ) (rows : List α) : List α := rows.mergeSort fun a b => key a ≤ key b

/-- `WHERE key > cursor`, where there is a cursor. -/
def behind (key : α → κ) (cursor : Option κ) (rows : List α) : List α :=
  rows.filter fun a => cursor.all fun c => c < key a

theorem sortBy_perm (key : α → κ) (rows : List α) : (sortBy key rows).Perm rows :=
  List.mergeSort_perm rows _

theorem pairwise_sortBy (key : α → κ) (rows : List α) :
    (sortBy key rows).Pairwise fun a b => key a ≤ key b := by
  have h := @List.pairwise_mergeSort α (fun a b => decide (key a ≤ key b))
    (fun a b c hab hbc => decide_eq_true (le_trans (of_decide_eq_true hab) (of_decide_eq_true hbc)))
    (fun a b => by simpa using le_total (key a) (key b)) rows
  exact h.imp fun hle => of_decide_eq_true hle

/-- Rows with keys of their own are ordered strictly. -/
theorem pairwise_lt_sortBy (hkeys : (rows.map key).Nodup) :
    (sortBy key rows).Pairwise fun a b => key a < key b := by
  have hnodup : ((sortBy key rows).map key).Nodup :=
    (((sortBy_perm key rows).map key).nodup_iff).mpr hkeys
  exact (pairwise_sortBy key rows).imp₂ (fun a b hle hne => lt_of_le_of_ne hle hne)
    (List.pairwise_map.mp hnodup)

/-- Filtering and ordering commute. -/
theorem sortBy_filter (hkeys : (rows.map key).Nodup) (p : α → Bool) :
    sortBy key (rows.filter p) = (sortBy key rows).filter p := by
  refine @List.Perm.eq_of_pairwise α (fun a b => key a ≤ key b) _ _ ?_ (pairwise_sortBy _ _)
    ((pairwise_sortBy _ _).filter p) ?_
  · intro a b ha hb hab hba
    refine List.inj_on_of_nodup_map hkeys ?_ ?_ (le_antisymm hab hba)
    · exact List.mem_of_mem_filter ((sortBy_perm key _).mem_iff.mp ha)
    · exact (sortBy_perm key rows).mem_iff.mp (List.mem_of_mem_filter hb)
  · exact (sortBy_perm key _).trans ((sortBy_perm key rows).filter p).symm

/-- Behind a row of an ordered listing stand the rows that follow it. -/
theorem behind_append {before rest : List α} {a : α}
    (hsorted : (before ++ a :: rest).Pairwise fun a b => key a < key b) :
    behind key (some (key a)) (before ++ a :: rest) = rest := by
  obtain ⟨-, hafter, hbefore⟩ := List.pairwise_append.mp hsorted
  unfold behind
  simp only [Option.all_some]
  rw [List.filter_append, List.filter_eq_nil_iff.mpr, List.nil_append, List.filter_cons_of_neg,
    List.filter_eq_self.mpr]
  · exact fun b hb => decide_eq_true ((List.pairwise_cons.mp hafter).1 b hb)
  · simp
  · intro b hb
    have hlt := hbefore b hb a List.mem_cons_self
    simpa using le_of_lt hlt

theorem behind_none (key : α → κ) (rows : List α) : behind key none rows = rows :=
  List.filter_eq_self.mpr fun _ _ => rfl

end Sorting

/-! ## Following tokens -/

/-- A page: what it shows, and the token of the next one. -/
structure Page (β τ : Type) where
  items : List β
  next : Option τ

/-- A client that asks with `token` and follows what it gets until a page has no token gathers
these items. -/
inductive Followed {β τ : Type} (serve : Option τ → Option (Page β τ)) :
    Option τ → List β → Prop
  | last {token : Option τ} {page : Page β τ} (hpage : serve token = some page)
    (hnext : page.next = none) : Followed serve token page.items
  | more {token : Option τ} {page : Page β τ} {next : τ} {rest : List β}
    (hpage : serve token = some page) (hnext : page.next = some next)
    (hrest : Followed serve (some next) rest) : Followed serve token (page.items ++ rest)

/-- What a client gathers is determined. -/
theorem Followed.unique {β τ : Type} {serve : Option τ → Option (Page β τ)} {token : Option τ}
    {items items' : List β} (h : Followed serve token items) (h' : Followed serve token items') :
    items = items' := by
  induction h generalizing items' with
  | last hpage hnext =>
    cases h' with
    | last hpage' hnext' => rw [Option.some.inj (hpage.symm.trans hpage')]
    | more hpage' hnext' hrest' =>
      obtain rfl := Option.some.inj (hpage.symm.trans hpage')
      rw [hnext] at hnext'
      cases hnext'
  | more hpage hnext hrest ih =>
    cases h' with
    | last hpage' hnext' =>
      obtain rfl := Option.some.inj (hpage.symm.trans hpage')
      rw [hnext] at hnext'
      cases hnext'
    | more hpage' hnext' hrest' =>
      obtain rfl := Option.some.inj (hpage.symm.trans hpage')
      obtain rfl := Option.some.inj (hnext.symm.trans hnext')
      rw [ih hrest']

/-! ## Pages of a listing -/

section Paging

variable {ε α β κ τ : Type} (read : α → Except ε β) (tokenOf : β → τ) (limit : Nat)

/-- The records of one row more than the page shows. -/
def fetchPage (rows : List α) : Except ε (List β) := (rows.take (limit + 1)).mapM read

/-- The page of the records that were read. -/
def pageOf (found : List β) : Page β τ where
  items := found.take limit
  next := if limit < found.length then (found.take limit).getLast?.map tokenOf else none

/-- The reply to a request for the first of `rows`. -/
def servePage (rows : List α) : Option (Page β τ) :=
  match fetchPage read limit rows with
  | .error _ => none
  | .ok found => some (pageOf tokenOf limit found)

variable {read tokenOf limit}

theorem mapM_eq_ok_iff_forall₂ {rows : List α} {records : List β} :
    rows.mapM read = .ok records ↔ List.Forall₂ (fun a b => read a = .ok b) rows records := by
  induction rows generalizing records with
  | nil =>
    rw [List.mapM_nil, List.forall₂_nil_left_iff]
    exact ⟨fun h => (Except.ok.inj h).symm, fun h => h ▸ rfl⟩
  | cons a rows ih =>
    rw [List.mapM_cons, List.forall₂_cons_left_iff]
    constructor
    · intro h
      cases ha : read a with
      | error e =>
        rw [ha] at h
        cases h
      | ok b =>
        cases hrows : rows.mapM read with
        | error e =>
          rw [ha, hrows] at h
          cases h
        | ok rest =>
          rw [ha, hrows] at h
          exact ⟨b, rest, rfl, ih.mp hrows, (Except.ok.inj h).symm⟩
    · rintro ⟨b, rest, hb, hrest, rfl⟩
      rw [hb, ih.mpr hrest]
      rfl

theorem exists_forall₂ {related : α → β → Prop} {rows : List α}
    (h : ∀ a ∈ rows, ∃ b, related a b) : ∃ records, List.Forall₂ related rows records := by
  induction rows with
  | nil => exact ⟨[], .nil⟩
  | cons a rows ih =>
    obtain ⟨b, hb⟩ := h a List.mem_cons_self
    obtain ⟨records, hrecords⟩ := ih fun a' ha' => h a' (List.mem_cons_of_mem a ha')
    exact ⟨b :: records, .cons hb hrecords⟩

theorem servePage_eq_some_iff {rows : List α} {page : Page β τ} :
    servePage read tokenOf limit rows = some page ↔
      ∃ found, List.Forall₂ (fun a b => read a = .ok b) (rows.take (limit + 1)) found ∧
        page = pageOf tokenOf limit found := by
  unfold servePage fetchPage
  cases hread : (rows.take (limit + 1)).mapM read with
  | error e =>
    refine iff_of_false (by simp) ?_
    rintro ⟨found, hfound, -⟩
    rw [mapM_eq_ok_iff_forall₂.mpr hfound] at hread
    cases hread
  | ok found =>
    constructor
    · exact fun h => ⟨found, mapM_eq_ok_iff_forall₂.mp hread, (Option.some.inj h).symm⟩
    · rintro ⟨found', hfound, rfl⟩
      rw [mapM_eq_ok_iff_forall₂.mpr hfound] at hread
      rw [Except.ok.inj hread]

/-- The last of the records shown, and the row it was read from. -/
theorem exists_last {rows : List α} {found : List β} (hlimit : 0 < limit)
    (hlen : limit < found.length)
    (h : List.Forall₂ (fun a b => read a = .ok b) (rows.take (limit + 1)) found) :
    ∃ before a shown b, rows.take limit = before ++ [a] ∧ found.take limit = shown ++ [b] ∧
      read a = .ok b := by
  have htake : List.Forall₂ (fun a b => read a = .ok b) (rows.take limit) (found.take limit) := by
    have hshort := List.forall₂_take limit h
    rwa [List.take_take, Nat.min_eq_left (Nat.le_succ limit)] at hshort
  have hpos : (found.take limit).length ≠ 0 := by
    rw [List.length_take]
    omega
  rcases List.eq_nil_or_concat (found.take limit) with hnil | ⟨shown, b, hshown⟩
  · exact absurd (congrArg List.length hnil) hpos
  rcases List.eq_nil_or_concat (rows.take limit) with hnil | ⟨before, a, hbefore⟩
  · rw [← htake.length_eq, hnil] at hpos
    exact absurd rfl hpos
  rw [List.concat_eq_append] at hshown hbefore
  refine ⟨before, a, shown, b, hbefore, hshown, ?_⟩
  rw [hbefore, hshown] at htake
  have hreverse := List.forall₂_reverse_iff.mpr htake
  rw [List.reverse_append, List.reverse_append] at hreverse
  exact (List.forall₂_cons.mp hreverse).1

/-! ### The whole listing -/

variable [LinearOrder κ] {key : α → κ} {rows : List α} {serve : Option τ → Option (Page β τ)}

variable (read tokenOf limit rows serve) in
/-- `token` is answered with a page of `rest`, the last of the rows. -/
structure Serves (token : Option τ) (rest : List α) : Prop where
  suffix : ∃ before, rows = before ++ rest
  page : serve token = servePage read tokenOf limit rest

/-- A page that shows all the rest has no token. -/
theorem pageOf_last {found : List β} (h : found.length ≤ limit) :
    pageOf tokenOf limit found = ⟨found, none⟩ := by
  unfold pageOf
  rw [List.take_of_length_le h, if_neg (not_lt.mpr h)]

/-- The token of a page that does not is answered with what follows the page. -/
theorem Serves.step {token : Option τ} {rest : List α} {found : List β}
    (hserves : Serves read tokenOf limit rows serve token rest)
    (hsorted : rows.Pairwise fun a b => key a < key b) (hlimit : 0 < limit)
    (hnext : ∀ a ∈ rows, ∀ b, read a = .ok b →
      serve (some (tokenOf b)) = servePage read tokenOf limit (behind key (some (key a)) rows))
    (hfound : List.Forall₂ (fun a b => read a = .ok b) (rest.take (limit + 1)) found)
    (hlen : limit < found.length) :
    ∃ next, (pageOf tokenOf limit found).next = some next ∧
      Serves read tokenOf limit rows serve (some next) (rest.drop limit) := by
  obtain ⟨before, hrows⟩ := hserves.suffix
  obtain ⟨ahead, a, shown, b, htake, hshown, hread⟩ := exists_last hlimit hlen hfound
  have hsplit : rows = (before ++ ahead) ++ a :: rest.drop limit := by
    rw [hrows]
    conv_lhs => rw [← List.take_append_drop limit rest, htake]
    simp only [List.append_assoc, List.cons_append, List.nil_append]
  refine ⟨tokenOf b, ?_, ⟨⟨before ++ rest.take limit, ?_⟩, ?_⟩⟩
  · unfold pageOf
    dsimp only
    rw [if_pos hlen, hshown, List.getLast?_concat, Option.map_some]
  · rw [List.append_assoc, List.take_append_drop, hrows]
  · have hmem : a ∈ rows := by
      rw [hsplit]
      exact List.mem_append_right _ List.mem_cons_self
    rw [hnext a hmem b hread]
    conv_lhs => rw [hsplit]
    rw [behind_append (hsplit ▸ hsorted)]

/-- What is shown of a page, and what follows it, are the records of the rest. -/
theorem forall₂_of_page {rest : List α} {found later : List β}
    (hfound : List.Forall₂ (fun a b => read a = .ok b) (rest.take (limit + 1)) found)
    (hlater : List.Forall₂ (fun a b => read a = .ok b) (rest.drop limit) later) :
    List.Forall₂ (fun a b => read a = .ok b) rest (found.take limit ++ later) := by
  have hshown := List.forall₂_take limit hfound
  rw [List.take_take, Nat.min_eq_left (Nat.le_succ limit)] at hshown
  have hall : List.Forall₂ (fun a b => read a = .ok b) (rest.take limit ++ rest.drop limit)
      (found.take limit ++ later) := List.rel_append hshown hlater
  rwa [List.take_append_drop] at hall

/-- **A client gathers the records of all rows in order**: it does so where every row is read, and
gathers nothing where one is not. -/
theorem followed_iff (hsorted : rows.Pairwise fun a b => key a < key b) (hlimit : 0 < limit)
    (hfirst : serve none = servePage read tokenOf limit rows)
    (hnext : ∀ a ∈ rows, ∀ b, read a = .ok b →
      serve (some (tokenOf b)) = servePage read tokenOf limit (behind key (some (key a)) rows))
    {items : List β} :
    Followed serve none items ↔ rows.mapM read = .ok items := by
  rw [mapM_eq_ok_iff_forall₂]
  have hstart : Serves read tokenOf limit rows serve none rows := ⟨⟨[], rfl⟩, hfirst⟩
  constructor
  · -- induction on the pages: each shows the first of the rows that are left
    have hrun : ∀ {token items}, Followed serve token items → ∀ {rest},
        Serves read tokenOf limit rows serve token rest →
          List.Forall₂ (fun a b => read a = .ok b) rest items := by
      intro token items h
      induction h with
      | last hpage hnone =>
        intro rest hserves
        rw [hserves.page, servePage_eq_some_iff] at hpage
        obtain ⟨found, hfound, rfl⟩ := hpage
        have hlen : found.length ≤ limit := by
          by_contra hlt
          obtain ⟨next, hsome, -⟩ := hserves.step hsorted hlimit hnext hfound (not_le.mp hlt)
          rw [hsome] at hnone
          cases hnone
        have hshort : rest.length ≤ limit := by
          have heq := hfound.length_eq
          rw [List.length_take] at heq
          omega
        rw [pageOf_last hlen]
        rwa [List.take_of_length_le (hshort.trans (Nat.le_succ limit))] at hfound
      | more hpage hsome hrest ih =>
        intro rest hserves
        rw [hserves.page, servePage_eq_some_iff] at hpage
        obtain ⟨found, hfound, rfl⟩ := hpage
        have hlen : limit < found.length := by
          by_contra hle
          rw [pageOf_last (not_lt.mp hle)] at hsome
          cases hsome
        obtain ⟨next, hsome', hserves'⟩ := hserves.step hsorted hlimit hnext hfound hlen
        obtain rfl := Option.some.inj (hsome'.symm.trans hsome)
        exact forall₂_of_page hfound (ih hserves')
    exact fun h => hrun h hstart
  · -- induction on the number of rows that are left: a page that has a token shows at least one
    have hrun : ∀ n {rest token items}, rest.length ≤ n →
        Serves read tokenOf limit rows serve token rest →
          List.Forall₂ (fun a b => read a = .ok b) rest items → Followed serve token items := by
      intro n
      induction n with
      | zero =>
        intro rest token items hlen hserves hread
        have hpage : serve token = some (pageOf tokenOf limit (items.take (limit + 1))) := by
          rw [hserves.page]
          exact servePage_eq_some_iff.mpr ⟨_, List.forall₂_take _ hread, rfl⟩
        have hitems : items.length ≤ 0 := hread.length_eq ▸ hlen
        rw [List.take_of_length_le (by omega), pageOf_last (by omega)] at hpage
        exact .last hpage rfl
      | succ n ih =>
        intro rest token items hlen hserves hread
        have hfound := List.forall₂_take (limit + 1) hread
        have hpage : serve token = some (pageOf tokenOf limit (items.take (limit + 1))) := by
          rw [hserves.page]
          exact servePage_eq_some_iff.mpr ⟨_, hfound, rfl⟩
        by_cases hmore : limit < (items.take (limit + 1)).length
        · obtain ⟨next, hsome, hserves'⟩ := hserves.step hsorted hlimit hnext hfound hmore
          have hrest := ih (by rw [List.length_drop]; omega) hserves'
            (List.forall₂_drop limit hread)
          have hfollowed := Followed.more hpage hsome hrest
          have hitems : (pageOf tokenOf limit (items.take (limit + 1))).items ++
              items.drop limit = items := by
            unfold pageOf
            dsimp only
            rw [List.take_take, Nat.min_eq_left (Nat.le_succ limit), List.take_append_drop]
          rwa [hitems] at hfollowed
        · have hshort : items.length ≤ limit := by
            rw [List.length_take] at hmore
            omega
          rw [List.take_of_length_le (hshort.trans (Nat.le_succ limit)), pageOf_last hshort]
            at hpage
          exact .last hpage rfl
    exact fun h => hrun rows.length le_rfl hstart h

end Paging


end Relational
