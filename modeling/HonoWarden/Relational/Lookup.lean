import HonoWarden.Relational.Tally

/-!
# Rows by their primary key, and batches of updates

`rowOf rows k` is the row of primary key `k`. A statement that works by the key is a function of
that row and leaves the others alone.

Results:
* `rowOf_eq_some_iff`: the look-up finds the one row of the key;
* **`rowOf_upsert`**, **`rowOf_deleteWhere`**: what an upsert and a deletion do to the row of a key;
* `TableIn.upsertRow_merge`, `TableIn.delete_row`: neither is refused;
* **`TableIn.runFrom_updates`**: what a batch of updates of one table does to each of its rows.
-/

namespace Relational

variable {α κ : Type} [Keyed α κ] [DecidableEq κ]

/-- The row of primary key `k`. -/
def rowOf (rows : List α) (k : κ) : Option α := rows.find? fun a => Keyed.key a = k

variable {rows : List α} {k : κ}

theorem rowOf_eq_some_iff (hk : KeyedRows rows) {a : α} :
    rowOf rows k = some a ↔ a ∈ rows ∧ Keyed.key a = k := by
  constructor
  · intro h
    exact ⟨List.mem_of_find?_eq_some h, by simpa using List.find?_some h⟩
  · rintro ⟨ha, hkey⟩
    exact Table.find?_eq_some ⟨rows, hk⟩ k (fun _ h => h) ha hkey

theorem rowOf_eq_none_iff : rowOf rows k = none ↔ ∀ a ∈ rows, Keyed.key a ≠ k := by
  simp [rowOf, List.find?_eq_none]

theorem rowOf_key {a : α} (h : rowOf rows k = some a) : Keyed.key a = k := by
  simpa using List.find?_some h

/-- Two keyed lists with the same rows of key `k` find the same. -/
theorem rowOf_congr {rows' : List α} (hk : KeyedRows rows) (hk' : KeyedRows rows')
    (h : ∀ a, Keyed.key a = k → (a ∈ rows' ↔ a ∈ rows)) : rowOf rows' k = rowOf rows k := by
  refine Option.ext fun a => ?_
  rw [rowOf_eq_some_iff hk, rowOf_eq_some_iff hk']
  constructor
  · rintro ⟨ha, hkey⟩
    exact ⟨(h a hkey).mp ha, hkey⟩
  · rintro ⟨ha, hkey⟩
    exact ⟨(h a hkey).mpr ha, hkey⟩

/-- A deletion takes the row of a key when it hits it. -/
theorem rowOf_deleteWhere (hk : KeyedRows rows) {hit : α → Prop} [DecidablePred hit] :
    rowOf (deleteWhere hit rows) k = (rowOf rows k).filter fun a => ¬ hit a := by
  refine Option.ext fun a => ?_
  rw [rowOf_eq_some_iff (deleteWhere_keyed hk), mem_deleteWhere, Option.filter_eq_some_iff,
    rowOf_eq_some_iff hk, decide_eq_true_iff]
  tauto

/-! ## Upserts that always merge -/

section Merge

variable {merge : α → α → α} {new : α}

omit [DecidableEq κ]

theorem mem_upsert_merge_of_ne (hmerge : ∀ old, Keyed.key (merge old new) = Keyed.key old) {a : α}
    (ha : Keyed.key a ≠ Keyed.key new) :
    a ∈ (upsert (fun old new => some (merge old new)) rows new).1 ↔ a ∈ rows := by
  rcases upsert_cases (fun old new => some (merge old new)) rows new with
    ⟨-, hrows⟩ | ⟨old, -, hsame, ⟨hnone, -⟩ | ⟨row, hsome, hrows⟩⟩
  · rw [hrows, List.mem_append, List.mem_singleton]
    exact or_iff_left fun he => ha (congrArg Keyed.key he)
  · cases hnone
  · obtain rfl := Option.some.inj hsome
    rw [hrows]
    constructor
    · intro hmem
      rcases mem_upsert_update hmem with ⟨hmem, -⟩ | rfl
      · exact hmem
      · exact absurd ((hmerge old).trans hsame) ha
    · intro hmem
      exact mem_updateWhere.mpr ⟨a, hmem, (if_neg ha).symm⟩

theorem mem_upsert_merge_of_absent (habsent : ∀ a ∈ rows, Keyed.key a ≠ Keyed.key new) :
    new ∈ (upsert (fun old new => some (merge old new)) rows new).1 := by
  rcases upsert_cases (fun old new => some (merge old new)) rows new with
    ⟨-, hrows⟩ | ⟨old, hold, hsame, -⟩
  · rw [hrows]
    exact List.mem_append_right _ List.mem_cons_self
  · exact absurd hsame (habsent old hold)

theorem mem_upsert_merge_of_mem (hk : KeyedRows rows) {old : α} (hold : old ∈ rows)
    (hsame : Keyed.key old = Keyed.key new) :
    merge old new ∈ (upsert (fun old new => some (merge old new)) rows new).1 := by
  rcases upsert_cases (fun old new => some (merge old new)) rows new with
    ⟨habsent, -⟩ | ⟨old', hold', hsame', ⟨hnone, -⟩ | ⟨row, hsome, hrows⟩⟩
  · exact absurd hsame (habsent old hold)
  · cases hnone
  · obtain rfl := Option.some.inj hsome
    obtain rfl : old = old' := Table.eq_of_key ⟨rows, hk⟩ hold hold' (hsame.trans hsame'.symm)
    rw [hrows]
    exact mem_updateWhere.mpr ⟨old, hold, (if_pos hsame).symm⟩

end Merge

/-- **An upsert that merges writes the row of its own key.** -/
theorem rowOf_upsert (hprimary : ∀ a b : α, ¬ Keyed.alternate a b) (hk : KeyedRows rows)
    {merge : α → α → α} {new : α} (hmerge : ∀ old, Keyed.key (merge old new) = Keyed.key old) :
    rowOf (upsert (fun old new => some (merge old new)) rows new).1 k =
      if Keyed.key new = k then some (((rowOf rows k).map fun old => merge old new).getD new)
      else rowOf rows k := by
  have hkeyed : KeyedRows (upsert (fun old new => some (merge old new)) rows new).1 :=
    upsert_keyed hprimary hk fun old row h => Option.some.inj h ▸ hmerge old
  split
  · rename_i hnew
    subst hnew
    cases hold : rowOf rows (Keyed.key new) with
    | none =>
      exact (rowOf_eq_some_iff hkeyed).mpr
        ⟨mem_upsert_merge_of_absent (rowOf_eq_none_iff.mp hold), rfl⟩
    | some old =>
      obtain ⟨hmem, hsame⟩ := (rowOf_eq_some_iff hk).mp hold
      exact (rowOf_eq_some_iff hkeyed).mpr
        ⟨mem_upsert_merge_of_mem hk hmem hsame, (hmerge old).trans hsame⟩
  · rename_i hnew
    exact rowOf_congr hk hkeyed fun a ha =>
      mem_upsert_merge_of_ne hmerge fun he => hnew (he.symm.trans ha)

variable {σ : Type} {t : TableIn σ α} {s : σ}

/-- The row of key `k` in a table of the database. -/
def TableIn.row (t : TableIn σ α) (s : σ) (k : κ) : Option α := rowOf (t.get s).rows k

theorem TableIn.row_key {a : α} (h : t.row s k = some a) : Keyed.key a = k := rowOf_key h

/-- **An upsert that merges takes place.** -/
theorem TableIn.upsertRow_merge (t : TableIn σ α)
    (hprimary : ∀ a b : α, ¬ Keyed.alternate a b) {merge : α → α → α} (new : α)
    (hmerge : ∀ old, Keyed.key (merge old new) = Keyed.key old) (s : σ) (n : Nat) :
    ∃ (T : Table α) (r : StatementResult),
      t.upsertRow (fun _ _ => some new) (fun old new => some (merge old new)) (fun _ => []) s n =
        .ok (t.put s T, r) ∧
      ∀ k, rowOf T.rows k =
        if Keyed.key new = k then some (((t.row s k).map fun old => merge old new).getD new)
        else t.row s k := by
  have hkeyed : KeyedRows (upsert (fun old new => some (merge old new)) (t.get s).rows new).1 :=
    upsert_keyed hprimary (t.get s).keyed fun old row h => Option.some.inj h ▸ hmerge old
  exact ⟨⟨_, hkeyed⟩, _, TableIn.write_of_keyed hkeyed, fun k =>
    rowOf_upsert hprimary (t.get s).keyed hmerge⟩

/-- **A deletion takes place.** -/
theorem TableIn.delete_row (t : TableIn σ α) (hit : σ → Nat → α → Prop)
    [∀ s n, DecidablePred (hit s n)] (s : σ) (n : Nat) :
    ∃ (T : Table α) (r : StatementResult), t.delete hit s n = .ok (t.put s T, r) ∧
      ∀ k, rowOf T.rows k = (t.row s k).filter fun a => ¬ hit s n a := by
  have hk : KeyedRows (deleteWhere (hit s n) (t.get s).rows) := deleteWhere_keyed (t.get s).keyed
  exact ⟨⟨_, hk⟩, _, TableIn.write_of_keyed hk, fun k => rowOf_deleteWhere (t.get s).keyed⟩

omit [DecidableEq κ] in
/-- **An insertion of one new row takes place.** -/
theorem TableIn.insertSelect_row (t : TableIn σ α) {new : σ → Nat → List α}
    {returning : α → List (List Value)} {n : Nat} {a : α} (hnew : new s n = [a])
    (hk : KeyedRows ((t.get s).rows ++ [a])) :
    t.insertSelect new returning s n =
      .ok (t.put s ⟨_, hk⟩, { changes := 1, metaChanges := 1, rows := returning a }) := by
  simp only [TableIn.insertSelect, hnew, List.length_singleton, List.flatMap_singleton]
  exact TableIn.write_of_keyed hk

/-! ## Batches of updates -/

section Updates

variable {β σ : Type} {hit : β → α → Prop} [∀ b, DecidablePred (hit b)] {set : β → α → α}

omit [Keyed α κ] [DecidableEq κ] in
/-- What the updates make of one row, in order. -/
def rewriteRow (hit : β → α → Prop) [∀ b, DecidablePred (hit b)] (set : β → α → α)
    (updates : List β) (a : α) : α :=
  updates.foldl (fun a b => if hit b a then set b a else a) a

/-- The last of the updates that hits a row. -/
def lastUpdate (hit : β → α → Prop) [∀ b, DecidablePred (hit b)] (updates : List β) (a : α) :
    Option β :=
  updates.reverse.find? fun b => hit b a

omit [Keyed α κ] [DecidableEq κ] in
theorem rewriteRow_cons (b : β) (updates : List β) (a : α) :
    rewriteRow hit set (b :: updates) a =
      rewriteRow hit set updates (if hit b a then set b a else a) := rfl

omit [Keyed α κ] [DecidableEq κ] in
theorem rewriteRow_of_miss {updates : List β} {a : α} (h : ∀ b ∈ updates, ¬ hit b a) :
    rewriteRow hit set updates a = a := by
  induction updates with
  | nil => rfl
  | cons b updates ih =>
    rw [rewriteRow_cons, if_neg (h b List.mem_cons_self)]
    exact ih fun b' hb' => h b' (List.mem_cons_of_mem _ hb')

omit [Keyed α κ] [DecidableEq κ] in
theorem rewriteRow_hit (hstable : ∀ b b' a, hit b' (set b a) ↔ hit b' a) {updates : List β} {a : α}
    {b : β} : hit b (rewriteRow hit set updates a) ↔ hit b a := by
  induction updates generalizing a with
  | nil => exact Iff.rfl
  | cons b' updates ih =>
    rw [rewriteRow_cons, ih]
    split
    · exact hstable b' b a
    · exact Iff.rfl

omit [Keyed α κ] [DecidableEq κ] in
/-- What the updates write is what the last one that hits writes. -/
theorem rewriteRow_value {γ : Type} (value : α → γ) (written : β → γ)
    (hstable : ∀ b b' a, hit b' (set b a) ↔ hit b' a)
    (hwritten : ∀ b a, value (set b a) = written b) (updates : List β) (a : α) :
    value (rewriteRow hit set updates a) =
      ((lastUpdate hit updates a).map written).getD (value a) := by
  induction updates using List.reverseRecOn with
  | nil => rfl
  | append_singleton updates b ih =>
    have happend : rewriteRow hit set (updates ++ [b]) a =
        if hit b (rewriteRow hit set updates a) then set b (rewriteRow hit set updates a)
        else rewriteRow hit set updates a := by
      unfold rewriteRow
      rw [List.foldl_append]
      rfl
    rw [happend, lastUpdate, List.reverse_append]
    by_cases hb : hit b a
    · rw [if_pos ((rewriteRow_hit hstable).mpr hb), hwritten]
      simp [hb]
    · rw [if_neg fun h => hb ((rewriteRow_hit hstable).mp h), ih]
      simp [hb, lastUpdate]

omit [DecidableEq κ] in
/-- **A batch of updates that keep the keys takes place**, each hitting the rows it would have hit
alone. -/
theorem TableIn.runFrom_updates (t : TableIn σ α) (hkeys : ∀ b, KeepsKeys (set b))
    (hstable : ∀ b b' a, hit b' (set b a) ↔ hit b' a) :
    ∀ (updates : List β) (s : σ) (n : Nat), ∃ (s' : σ) (rs : List StatementResult),
      runFrom (updates.map fun b => t.update (fun _ _ => hit b) fun _ => set b) s n =
        .ok (s', rs) ∧
      (t.get s').rows = (t.get s).rows.map (rewriteRow hit set updates) ∧
      rs.map StatementResult.metaChanges = updates.map fun b => (t.get s).rows.countP (hit b)
  | [], s, n => ⟨s, [], rfl, (List.map_id _).symm, rfl⟩
  | b :: updates, s, n => by
    obtain ⟨T, r, hrun, hT, hchanges, hmeta, -⟩ := t.updateReturning_total (s := s)
      (fun _ _ => hit b) (fun _ => set b) n (fun _ => []) (hkeys b)
    obtain ⟨s', rs, hrest, hrows, hcounts⟩ :=
      TableIn.runFrom_updates t hkeys hstable updates (t.put s T) r.changes
    rw [t.get_put] at hrows hcounts
    refine ⟨s', r :: rs, runFrom_cons_ok hrun hrest, ?_, ?_⟩
    · rw [hrows, hT, updateWhere, List.map_map]
      rfl
    · rw [List.map_cons, List.map_cons, hmeta, hchanges, hcounts]
      refine congrArg _ (List.map_congr_left fun b' _ => ?_)
      rw [hT, updateWhere, List.countP_map]
      refine List.countP_congr fun a _ => ?_
      by_cases ha : hit b a
      · simp [ha, hstable]
      · simp [ha]

end Updates

end Relational
