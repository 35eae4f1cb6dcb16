import HonoWarden.Relational.Lookup
import HonoWarden.Relational.Query

/-!
# Writes of one row

A table with its primary key is a finite map from keys to rows (`TableIn.row`). A statement whose
WHERE fixes the key writes that map at one key (`RowWritten`), or writes nothing.

* `Statement.requiring`: a statement whose effect a constraint may refuse;
* `auditWhenChanged`: `INSERT INTO … SELECT … WHERE changes() = 1`, the event of the statement
  before it.

Results:
* **`updateReturning_row`**, **`deleteReturning_row`**, **`insertSelect_cases`**: what a statement
  that works by the key has done when it succeeds;
* `updateWhere_keyed_row`: when an update that moves other keys is not refused;
* `auditWhenChanged_one`, `auditWhenChanged_zero`: the event is written iff one row was.
-/

namespace Relational

variable {σ : Type}

/-! ## Constraints -/

/-- A statement whose effect must meet a constraint, or is refused with `e`. -/
def Statement.requiring (st : Statement σ) (e : SqlError) (holds : σ → σ → Prop)
    [∀ s s', Decidable (holds s s')] : Statement σ := fun s n =>
  match st s n with
  | .error e' => .error e'
  | .ok (s', r) => if holds s s' then .ok (s', r) else .error e

section Requiring

variable {st : Statement σ} {e : SqlError} {holds : σ → σ → Prop}
  [∀ s s', Decidable (holds s s')] {s s' : σ} {n : Nat} {r : StatementResult}

theorem Statement.requiring_ok (h : st.requiring e holds s n = .ok (s', r)) :
    st s n = .ok (s', r) ∧ holds s s' := by
  unfold Statement.requiring at h
  split at h
  · cases h
  · rename_i hst
    split at h
    · rename_i hholds
      simp only [Except.ok.injEq, Prod.mk.injEq] at h
      obtain ⟨rfl, rfl⟩ := h
      exact ⟨hst, hholds⟩
    · cases h

theorem Statement.requiring_of_ok (h : st s n = .ok (s', r)) (hholds : holds s s') :
    st.requiring e holds s n = .ok (s', r) := by
  simp only [Statement.requiring, h, if_pos hholds]

end Requiring

/-! ## Rows under an update -/

section Rows

variable {α κ : Type} [Keyed α κ] [DecidableEq κ] {rows : List α} {k : κ}
  {hit : α → Prop} [DecidablePred hit] {set : α → α}

/-- An update that keeps the key rewrites the row of each key. -/
theorem rowOf_updateWhere (hset : ∀ a ∈ rows, hit a → Keyed.key (set a) = Keyed.key a) :
    rowOf (updateWhere hit set rows) k =
      (rowOf rows k).map fun a => if hit a then set a else a := by
  induction rows with
  | nil => rfl
  | cons a rows ih =>
    have hrest := ih fun b hb => hset b (List.mem_cons_of_mem _ hb)
    have hkey : Keyed.key (if hit a then set a else a) = Keyed.key a := by
      split
      · exact hset a List.mem_cons_self ‹_›
      · rfl
    simp only [rowOf, updateWhere, List.map_cons, List.find?_cons, hkey] at hrest ⊢
    by_cases ha : Keyed.key a = k
    · simp only [ha, decide_true, Option.map_some]
    · simpa only [ha, decide_false] using hrest

/-- Where only the row of one key is hit, the map changes at that key. -/
theorem rowOf_updateWhere_single (hkeyed : KeyedRows rows) {a : α} (ha : rowOf rows k = some a)
    (hhit : hit a) (hkey : ∀ b ∈ rows, hit b → Keyed.key b = k)
    (hset : Keyed.key (set a) = k) :
    rowOf (updateWhere hit set rows) = Function.update (rowOf rows) k (some (set a)) := by
  obtain ⟨hmem, hak⟩ := (rowOf_eq_some_iff hkeyed).mp ha
  have honly : ∀ b ∈ rows, hit b → b = a := fun b hb h =>
    Table.eq_of_key ⟨rows, hkeyed⟩ hb hmem ((hkey b hb h).trans hak.symm)
  funext k'
  rw [rowOf_updateWhere fun b hb h => by rw [honly b hb h, hset, hak]]
  by_cases hk : k' = k
  · subst hk
    rw [ha, Function.update_self, Option.map_some, if_pos hhit]
  · rw [Function.update_of_ne hk]
    cases hrow : rowOf rows k' with
    | none => rfl
    | some b =>
      obtain ⟨hb, hbk⟩ := (rowOf_eq_some_iff hkeyed).mp hrow
      rw [Option.map_some, if_neg fun h => hk (hbk.symm.trans (hkey b hb h))]

omit [DecidableEq κ] in
/-- An update of one row is not refused when its new image conflicts with no other row. -/
theorem updateWhere_keyed_row (hkeyed : KeyedRows rows)
    (hone : ∀ a ∈ rows, ∀ b ∈ rows, hit a → hit b → Keyed.key a = Keyed.key b)
    (hfree : ∀ a ∈ rows, hit a → ∀ b ∈ rows, Keyed.key b ≠ Keyed.key a → ¬ Conflict (set a) b) :
    KeyedRows (updateWhere hit set rows) := by
  refine updateWhere_keyed hkeyed fun a ha b hb hc => ?_
  by_contra hne
  have hkeys : Keyed.key b ≠ Keyed.key a := fun he => hne (Or.inl he.symm)
  by_cases hha : hit a
  · by_cases hhb : hit b
    · exact hkeys (hone b hb a ha hhb hha)
    · rw [if_pos hha, if_neg hhb] at hc
      exact hfree a ha hha b hb hkeys hc
  · by_cases hhb : hit b
    · rw [if_neg hha, if_pos hhb] at hc
      exact hfree b hb hhb a ha hkeys.symm hc.symm
    · rw [if_neg hha, if_neg hhb] at hc
      exact hne hc

end Rows

/-- An upsert of a row that takes the place of an old one. -/
theorem upsert_replaces {α κ : Type} [Keyed α κ] {rows : List α} {row : α}
    {onConflict : α → α → Option α}
    (h : ∀ old ∈ rows, Keyed.key old = Keyed.key row → onConflict old row = some row) :
    (∀ a, a ∈ (upsert onConflict rows row).1 ↔ a = row ∨ a ∈ rows ∧ Keyed.key a ≠ Keyed.key row) ∧
      (upsert onConflict rows row).2.length = 1 := by
  rcases upsert_cases onConflict rows row with
    ⟨hkey, hupsert⟩ | ⟨old, hold, hkey, ⟨hnone, -⟩ | ⟨row', hrow', hupsert⟩⟩
  · rw [hupsert]
    refine ⟨fun a => ?_, rfl⟩
    rw [List.mem_append, List.mem_singleton, or_comm]
    exact or_congr_right ⟨fun ha => ⟨ha, hkey a ha⟩, And.left⟩
  · rw [h old hold hkey] at hnone
    cases hnone
  · obtain rfl := Option.some.inj ((h old hold hkey).symm.trans hrow')
    rw [hupsert]
    refine ⟨fun a => ⟨fun ha => (mem_upsert_update ha).symm, ?_⟩, rfl⟩
    rintro (rfl | ⟨ha, hne⟩)
    · exact mem_updateWhere_of_hit hold hkey
    · exact mem_updateWhere_of_not_hit ha hne

/-! ## Statements that work by the key -/

namespace TableIn

variable {α κ : Type} [Keyed α κ] [DecidableEq κ]

/-- The table was written at key `k`, where now stands `v`; the rest of the database is the same. -/
structure RowWritten (t : TableIn σ α) (k : κ) (v : Option α) (s s' : σ) : Prop where
  row : t.row s' = Function.update (t.row s) k v
  others : ∃ T : Table α, s' = t.put s T

variable {t : TableIn σ α} {k : κ} {s s' : σ} {n : Nat} {r : StatementResult}

theorem row_put (T : Table α) : t.row (t.put s T) = rowOf T.rows := by
  funext k
  rw [row, t.get_put]

theorem row_eq_some_iff {a : α} :
    t.row s k = some a ↔ a ∈ (t.get s).rows ∧ Keyed.key a = k :=
  rowOf_eq_some_iff (t.get s).keyed

theorem RowWritten.self {a : Option α} (h : t.RowWritten k a s s') : t.row s' k = a := by
  rw [h.row, Function.update_self]

theorem RowWritten.of_ne {a : Option α} (h : t.RowWritten k a s s') {k' : κ} (hne : k' ≠ k) :
    t.row s' k' = t.row s k' := by
  rw [h.row, Function.update_of_ne hne]

/-- Two writes of one row. -/
theorem RowWritten.trans (hput : ∀ s T T', t.put (t.put s T) T' = t.put s T') {v v' : Option α}
    {s'' : σ} (h : t.RowWritten k v s s') (h' : t.RowWritten k v' s' s'') :
    t.RowWritten k v' s s'' := by
  obtain ⟨T, hT⟩ := h.others
  obtain ⟨T', hT'⟩ := h'.others
  refine ⟨?_, T', by rw [hT', hT, hput]⟩
  rw [h'.row, h.row, Function.update_idem]

/-- The rows after a write at one key: the new one, and the others as they were. -/
theorem RowWritten.mem {v : Option α} (h : t.RowWritten k v s s') {a : α} :
    a ∈ (t.get s').rows ↔ v = some a ∨ (a ∈ (t.get s).rows ∧ Keyed.key a ≠ k) := by
  have hrow (s : σ) : a ∈ (t.get s).rows ↔ t.row s (Keyed.key a) = some a := by
    rw [row_eq_some_iff]
    exact (and_iff_left rfl).symm
  rw [hrow s', hrow s]
  by_cases hk : Keyed.key a = k
  · rw [hk, h.self]
    exact ⟨Or.inl, fun hv => hv.resolve_right fun hne => hne.2 rfl⟩
  · rw [h.of_ne hk]
    refine ⟨fun ha => Or.inr ⟨ha, hk⟩, fun hv => hv.elim (fun hv => ?_) And.left⟩
    have hself := h.self.trans hv
    exact absurd (row_key hself) hk

section Update

variable {hit : σ → Nat → α → Prop} [∀ s n, DecidablePred (hit s n)] {set : σ → α → α}
  {returning : α → List (List Value)}

/-- **What an update by the key has done.** -/
theorem updateReturning_row (h : t.updateReturning hit set returning s n = .ok (s', r))
    (hkey : ∀ a, hit s n a → Keyed.key a = k) (hset : ∀ a, Keyed.key (set s a) = Keyed.key a) :
    (∃ a, t.row s k = some a ∧ hit s n a ∧ t.RowWritten k (some (set s a)) s s' ∧
      r.changes = 1 ∧ r.metaChanges = 1 ∧ r.rows = returning (set s a)) ∨
    ((∀ a, t.row s k = some a → ¬ hit s n a) ∧ s' = s ∧ r.changes = 0 ∧ r.metaChanges = 0 ∧
      r.rows = []) := by
  obtain ⟨T, hT, rfl, hc, hm, hrows⟩ := updateReturning_ok h
  by_cases hex : ∃ a ∈ (t.get s).rows, hit s n a
  · obtain ⟨a, ha, hhit⟩ := hex
    have hrow : t.row s k = some a := row_eq_some_iff.mpr ⟨ha, hkey a hhit⟩
    have hcount : (t.get s).rows.countP (fun a => hit s n a) = 1 :=
      ((t.get s).countP_eq_one_iff k hkey).mpr ⟨a, ha, hhit⟩
    refine Or.inl ⟨a, hrow, hhit, ⟨?_, T, rfl⟩, hc.trans hcount, hm.trans (hc.trans hcount), ?_⟩
    · rw [row_put, hT]
      exact rowOf_updateWhere_single (t.get s).keyed hrow hhit (fun b _ => hkey b)
        ((hset a).trans (hkey a hhit))
    · rw [hrows, (t.get s).filter_eq_singleton k hkey ha hhit, List.flatMap_singleton]
  · have hnone : ∀ a ∈ (t.get s).rows, ¬ hit s n a := fun a ha hh => hex ⟨a, ha, hh⟩
    have hcount : (t.get s).rows.countP (fun a => hit s n a) = 0 :=
      List.countP_eq_zero.mpr fun a ha => by simpa using hnone a ha
    refine Or.inr ⟨fun a ha => hnone a (row_eq_some_iff.mp ha).1,
      put_eq_self t (hT.trans (updateWhere_eq_self hnone)), hc.trans hcount,
      hm.trans (hc.trans hcount), ?_⟩
    rw [hrows, List.filter_eq_nil_iff.mpr fun a ha => by simpa using hnone a ha, List.flatMap_nil]

/-- **What an upsert of `row` has done**, where it puts the row itself in the place of an old one. -/
theorem upsertRow_written {new : σ → Nat → Option α} {onConflict : α → α → Option α} {row : α}
    {returning : α → List (List Value)} (hnew : new s n = some row)
    (hconflict : ∀ old ∈ (t.get s).rows, Keyed.key old = Keyed.key row →
      onConflict old row = some row)
    (h : t.upsertRow new onConflict returning s n = .ok (s', r)) :
    t.RowWritten (Keyed.key row) (some row) s s' ∧ r.changes = 1 ∧ r.metaChanges = r.changes := by
  obtain ⟨T, hT, rfl, hc, hm, -⟩ := upsertRow_some hnew h
  have hrows : (∀ a, a ∈ T.rows ↔ a = row ∨ a ∈ (t.get s).rows ∧ Keyed.key a ≠ Keyed.key row) ∧
      (upsert onConflict (t.get s).rows row).2.length = 1 := by
    rw [hT]
    exact upsert_replaces hconflict
  refine ⟨⟨funext fun k => Option.ext fun a => ?_, T, rfl⟩, hc.trans hrows.2, hm⟩
  rw [row_eq_some_iff, t.get_put, hrows.1]
  by_cases hk : k = Keyed.key row
  · subst hk
    rw [Function.update_self, Option.some.injEq]
    refine ⟨fun ⟨ha, hkey⟩ => (ha.resolve_right fun hh => hh.2 hkey).symm, ?_⟩
    rintro rfl
    exact ⟨Or.inl rfl, rfl⟩
  · rw [Function.update_of_ne hk, row_eq_some_iff]
    refine ⟨fun ⟨ha, hkey⟩ => ⟨(ha.resolve_left ?_).1, hkey⟩, fun ⟨ha, hkey⟩ => ⟨Or.inr ⟨ha, ?_⟩, hkey⟩⟩
    · rintro rfl
      exact hk hkey.symm
    · rwa [hkey]

/-- **What a deletion by the key has done.** -/
theorem deleteReturning_row (h : t.deleteReturning hit returning s n = .ok (s', r))
    (hkey : ∀ a, hit s n a → Keyed.key a = k) :
    (∃ a, t.row s k = some a ∧ hit s n a ∧ t.RowWritten k none s s' ∧
      r.changes = 1 ∧ r.metaChanges = 1 ∧ r.rows = returning a) ∨
    ((∀ a, t.row s k = some a → ¬ hit s n a) ∧ s' = s ∧ r.changes = 0 ∧ r.metaChanges = 0 ∧
      r.rows = []) := by
  obtain ⟨T, hT, rfl, hc, hm, hrows⟩ := deleteReturning_ok h
  by_cases hex : ∃ a ∈ (t.get s).rows, hit s n a
  · obtain ⟨a, ha, hhit⟩ := hex
    have hrow : t.row s k = some a := row_eq_some_iff.mpr ⟨ha, hkey a hhit⟩
    have hcount : (t.get s).rows.countP (fun a => hit s n a) = 1 :=
      ((t.get s).countP_eq_one_iff k hkey).mpr ⟨a, ha, hhit⟩
    refine Or.inl ⟨a, hrow, hhit, ⟨?_, T, rfl⟩, hc.trans hcount, hm.trans (hc.trans hcount), ?_⟩
    · rw [row_put, hT]
      funext k'
      rw [rowOf_deleteWhere (t.get s).keyed]
      by_cases hk : k' = k
      · subst hk
        rw [Function.update_self]
        exact (congrArg _ hrow).trans (by simp [hhit])
      · rw [Function.update_of_ne hk]
        refine Option.ext fun b => ?_
        rw [Option.filter_eq_some_iff, decide_eq_true_iff]
        refine and_iff_left_of_imp fun hb hh => hk ((row_key hb).symm.trans (hkey b hh))
    · rw [hrows, (t.get s).filter_eq_singleton k hkey ha hhit, List.flatMap_singleton]
  · have hnone : ∀ a ∈ (t.get s).rows, ¬ hit s n a := fun a ha hh => hex ⟨a, ha, hh⟩
    have hcount : (t.get s).rows.countP (fun a => hit s n a) = 0 :=
      List.countP_eq_zero.mpr fun a ha => by simpa using hnone a ha
    refine Or.inr ⟨fun a ha => hnone a (row_eq_some_iff.mp ha).1,
      put_eq_self t (hT.trans (deleteWhere_eq_self hnone)), hc.trans hcount,
      hm.trans (hc.trans hcount), ?_⟩
    rw [hrows, List.filter_eq_nil_iff.mpr fun a ha => by simpa using hnone a ha, List.flatMap_nil]

end Update

/-- **What an insertion of at most one row has done.** -/
theorem insertSelect_cases (new : σ → Nat → Option α) {returning : α → List (List Value)}
    (h : t.insertSelect (fun s n => (new s n).toList) returning s n = .ok (s', r)) :
    (∃ a, new s n = some a ∧ t.row s (Keyed.key a) = none ∧
      t.RowWritten (Keyed.key a) (some a) s s' ∧ r.changes = 1 ∧ r.metaChanges = 1 ∧
      r.rows = returning a ∧ ∀ b ∈ (t.get s).rows, ¬ Conflict b a) ∨
    (new s n = none ∧ s' = s ∧ r.changes = 0 ∧ r.metaChanges = 0 ∧ r.rows = []) := by
  obtain ⟨T, hT, rfl, rfl⟩ := write_ok h
  cases hnew : new s n with
  | none =>
    simp only [hnew, Option.toList_none, List.append_nil] at hT
    exact Or.inr ⟨rfl, put_eq_self t hT, by simp [hnew]⟩
  | some a =>
    simp only [hnew, Option.toList_some] at hT
    have hkeyed : KeyedRows ((t.get s).rows ++ [a]) := hT ▸ T.keyed
    have hfree := (append_keyed_iff.mp hkeyed).2
    have habsent : t.row s (Keyed.key a) = none :=
      rowOf_eq_none_iff.mpr fun b hb he => hfree b hb (Or.inl he)
    refine Or.inl ⟨a, rfl, habsent, ⟨?_, T, rfl⟩, by simp [hnew], by simp [hnew],
      by simp [hnew], hfree⟩
    rw [row_put, hT]
    funext k
    by_cases hk : k = Keyed.key a
    · subst hk
      rw [Function.update_self]
      exact (rowOf_eq_some_iff hkeyed).mpr ⟨List.mem_append_right _ List.mem_cons_self, rfl⟩
    · rw [Function.update_of_ne hk]
      refine rowOf_congr (t.get s).keyed hkeyed fun b hb => ?_
      rw [List.mem_append, List.mem_singleton]
      exact or_iff_left fun he => hk (hb.symm.trans (congrArg Keyed.key he))

/-! ## The event of a statement -/

/-- `INSERT INTO … SELECT … WHERE changes() = 1`. -/
def auditWhenChanged (t : TableIn σ α) (event : α) : Statement σ :=
  t.insertSelect fun _ n => if n = 1 then [event] else []

omit [DecidableEq κ] in
theorem auditWhenChanged_one {event : α} (h : t.auditWhenChanged event s 1 = .ok (s', r)) :
    (∃ T : Table α, T.rows = (t.get s).rows ++ [event] ∧ s' = t.put s T) ∧ r.metaChanges = 1 := by
  obtain ⟨T, hT, hs, hc, hm⟩ := insertSelect_ok h
  exact ⟨⟨T, by simpa using hT, hs⟩, by simpa [hc] using hm⟩

omit [DecidableEq κ] in
theorem auditWhenChanged_zero {event : α} (h : t.auditWhenChanged event s 0 = .ok (s', r)) :
    s' = s ∧ r.metaChanges = 0 := by
  obtain ⟨T, hT, rfl, hc, hm⟩ := insertSelect_ok h
  exact ⟨put_eq_self t (by simpa using hT), by simpa [hc] using hm⟩

end TableIn

end Relational
