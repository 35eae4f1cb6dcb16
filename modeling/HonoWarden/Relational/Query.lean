import HonoWarden.Relational.Run

/-!
# Queries, and calls of one statement

What a client reads of a query, and the calls that send one statement and read the rows it
returns.

* `minFlag`: MIN over a 0/1 column, which is NULL where there is no row;
* `TableIn.callUpdate`, `TableIn.callDelete`: `UPDATE … RETURNING` and `DELETE … RETURNING` as
  calls of their own;
* `TableIn.updateReferencing`: an UPDATE of columns under a foreign key.

Results:
* `mem_of_mapM`, `mapM_total`: a client that reads row by row has read every row;
* `Table.find?_eq_some`: a look-up by key finds the row;
* **`Table.not_stands_of_swap`**: a compare-and-swap spends the token it was given;
* `minFlag_eq_false`: the minimum is 0 iff some row has 0;
* **`callUpdate_eq`**, **`callDelete_eq`**: what the calls do; neither is ever refused.
-/

namespace Relational

/-! ## Reading rows -/

section Read

variable {ε α β : Type} {read : α → Except ε β}

/-- Read row by row, the records are those of the rows. -/
theorem mem_of_mapM : ∀ {rows : List α} {records : List β}, rows.mapM read = .ok records →
    ∀ r, r ∈ records ↔ ∃ a ∈ rows, read a = .ok r
  | [], records, h, r => by
    obtain rfl : records = [] := by simpa [pure, Except.pure, eq_comm] using h
    simp
  | a :: rows, records, h, r => by
    rw [List.mapM_cons] at h
    cases ha : read a with
    | error e => simp [ha, bind, Except.bind] at h
    | ok b =>
      cases hrest : rows.mapM read with
      | error e => simp [ha, hrest, bind, Except.bind] at h
      | ok bs =>
        obtain rfl : records = b :: bs := by
          simpa [ha, hrest, bind, Except.bind, pure, Except.pure, eq_comm] using h
        rw [List.mem_cons, mem_of_mapM hrest]
        constructor
        · rintro (rfl | ⟨a', ha', hread⟩)
          · exact ⟨a, List.mem_cons_self, ha⟩
          · exact ⟨a', List.mem_cons_of_mem _ ha', hread⟩
        · rintro ⟨a', ha', hread⟩
          rcases List.mem_cons.mp ha' with rfl | hmem
          · exact Or.inl (Except.ok.inj (hread.symm.trans ha))
          · exact Or.inr ⟨a', hmem, hread⟩

/-- Read row by row, every row could be read. -/
theorem ok_of_mapM : ∀ {rows : List α} {records : List β}, rows.mapM read = .ok records →
    ∀ a ∈ rows, ∃ r, read a = .ok r
  | a :: rows, records, h, a', ha' => by
    rw [List.mapM_cons] at h
    cases ha : read a with
    | error e => simp [ha, bind, Except.bind] at h
    | ok b =>
      rcases List.mem_cons.mp ha' with rfl | hmem
      · exact ⟨b, ha⟩
      · cases hrest : rows.mapM read with
        | error e => simp [ha, hrest, bind, Except.bind] at h
        | ok bs => exact ok_of_mapM hrest a' hmem

/-- Where every row can be read, they all are. -/
theorem mapM_total : ∀ {rows : List α}, (∀ a ∈ rows, ∃ b, read a = .ok b) →
    ∃ records, rows.mapM read = .ok records
  | [], _ => ⟨[], rfl⟩
  | a :: rows, h => by
    obtain ⟨b, hb⟩ := h a List.mem_cons_self
    obtain ⟨bs, hbs⟩ := mapM_total fun a' ha' => h a' (List.mem_cons_of_mem _ ha')
    exact ⟨b :: bs, by simp [List.mapM_cons, hb, hbs, bind, Except.bind, pure, Except.pure]⟩

end Read

/-! ## Look-ups by key -/

section LookUp

variable {α κ : Type} [Keyed α κ] (t : Table α)

/-- A look-up that fixes the key finds the one row that meets it. -/
theorem Table.find?_eq_some {p : α → Prop} [DecidablePred p] (k : κ)
    (hp : ∀ a, p a → Keyed.key a = k) {a : α} (ha : a ∈ t.rows) (hpa : p a) :
    t.rows.find? (fun b => p b) = some a := by
  cases hfind : t.rows.find? (fun b => p b) with
  | none =>
    rw [List.find?_eq_none] at hfind
    exact absurd hpa (by simpa using hfind a ha)
  | some b =>
    have hb : b ∈ t.rows := List.mem_of_find?_eq_some hfind
    have hpb : p b := by simpa using List.find?_some hfind
    rw [t.eq_of_key hb ha ((hp b hpb).trans (hp a hpa).symm)]

/-- A look-up finds nothing where no row meets it. -/
theorem Table.find?_eq_none {p : α → Prop} [DecidablePred p] :
    t.rows.find? (fun b => p b) = none ↔ ∀ a ∈ t.rows, ¬ p a := by
  simp [List.find?_eq_none]

end LookUp

/-! ## Aggregates -/

section Aggregate

variable {α : Type}

/-- `MIN(flag)`. -/
def minFlag (flag : α → Bool) (rows : List α) : Option Bool :=
  if rows = [] then none else some (rows.all flag)

theorem minFlag_eq_false {flag : α → Bool} {rows : List α} :
    minFlag flag rows = some false ↔ ∃ a ∈ rows, flag a = false := by
  unfold minFlag
  split
  · rename_i hnil
    simp [hnil]
  · rw [Option.some_inj, List.all_eq_false]
    simp

end Aggregate

/-! ## Compare and swap -/

section Swap

variable {α κ τ : Type} [Keyed α κ] {token : α → τ} {t t' : Table α} {k : κ} {e : τ}
  {hit : α → Prop} [DecidablePred hit] {set : α → α}

/-- The row under the key carries the token. -/
def Table.Stands (t : Table α) (token : α → τ) (k : κ) (e : τ) : Prop :=
  ∃ a ∈ t.rows, Keyed.key a = k ∧ token a = e

/-- **A write that hits the row of a token and assigns another takes the token away.** -/
theorem Table.not_stands_of_swap (hhit : ∀ a, hit a → Keyed.key a = k) (hsome : ∃ a ∈ t.rows, hit a)
    (hset : ∀ a, hit a → token (set a) ≠ e) (hrows : t'.rows = updateWhere hit set t.rows) :
    ¬ t'.Stands token k e := by
  rintro ⟨b, hb, hkey, htoken⟩
  obtain ⟨a, ha, hh⟩ := hsome
  rw [hrows] at hb
  rcases mem_updateWhere_cases hb with ⟨hb, hmiss⟩ | ⟨c, -, hc, rfl⟩
  · exact hmiss (t.eq_of_key hb ha (hkey.trans (hhit a hh).symm) ▸ hh)
  · exact hset c hc htoken

/-- A write that hits no row leaves the tokens where they are. -/
theorem Table.rows_of_miss (hnone : ¬ ∃ a ∈ t.rows, hit a)
    (hrows : t'.rows = updateWhere hit set t.rows) : t' = t :=
  Table.ext (hrows.trans (updateWhere_eq_self fun a ha hh => hnone ⟨a, ha, hh⟩))

end Swap

/-! ## Calls of one statement -/

namespace TableIn

variable {σ α κ : Type} [Keyed α κ]

/-- A call of `UPDATE t SET set WHERE hit RETURNING *`: the new images of the rows it hit. -/
def callUpdate (t : TableIn σ α) (hit : σ → α → Prop) [∀ s, DecidablePred (hit s)] (set : α → α)
    (s : σ) : σ × Except Failure (List α) :=
  match t.update (fun s _ => hit s) (fun _ => set) s 0 with
  | .error e => (s, .error (.constraint e))
  | .ok (s', _) => (s', .ok (((t.get s).rows.filter fun a => hit s a).map set))

/-- A call of `DELETE FROM t WHERE hit RETURNING *`, and what goes with the deleted rows. -/
def callDelete (t : TableIn σ α) (hit : σ → α → Prop) [∀ s, DecidablePred (hit s)]
    (cascade : List α → σ → σ × Nat) (s : σ) : σ × Except Failure (List α) :=
  match t.deleteTriggering (fun s _ => hit s) (fun _ => []) cascade s 0 with
  | .error e => (s, .error (.constraint e))
  | .ok (s', _) => (s', .ok ((t.get s).rows.filter fun a => hit s a))

variable (t : TableIn σ α) (hit : σ → α → Prop) [∀ s, DecidablePred (hit s)] (s : σ)

/-- **A call of an UPDATE that keeps the keys takes place.** -/
theorem callUpdate_eq {set : α → α} (hset : KeepsKeys set) :
    ∃ T : Table α, t.callUpdate hit set s =
        (t.put s T, .ok (((t.get s).rows.filter fun a => hit s a).map set)) ∧
      T.rows = updateWhere (hit s) set (t.get s).rows := by
  obtain ⟨T, r, h, hT, -⟩ := updateReturning_total (s := s) t (fun s _ => hit s) (fun _ => set) 0
    (fun _ => []) hset
  exact ⟨T, by simp only [callUpdate, update, h], hT⟩

/-- **A call of a DELETE takes place.** -/
theorem callDelete_eq (cascade : List α → σ → σ × Nat) :
    ∃ T : Table α, t.callDelete hit cascade s =
        ((cascade ((t.get s).rows.filter fun a => hit s a) (t.put s T)).1,
          .ok ((t.get s).rows.filter fun a => hit s a)) ∧
      T.rows = deleteWhere (hit s) (t.get s).rows := by
  have hk : KeyedRows (deleteWhere (hit s) (t.get s).rows) := deleteWhere_keyed (t.get s).keyed
  refine ⟨⟨_, hk⟩, ?_, rfl⟩
  simp only [callDelete, deleteTriggering, deleteReturning, write_of_keyed hk, fire]

/-! ### Updates of references -/

/-- An UPDATE whose new images must refer to rows that exist. -/
def updateReferencing (t : TableIn σ α) (hit : σ → Nat → α → Prop)
    [∀ s n, DecidablePred (hit s n)] (set : σ → α → α) (refers : σ → α → Prop)
    [∀ s, DecidablePred (refers s)] : Statement σ := fun s n =>
  if ∀ a ∈ (t.get s).rows, hit s n a → refers s (set s a) then t.update hit set s n
  else .error .foreignKey

variable {t} {hit : σ → Nat → α → Prop} [∀ s n, DecidablePred (hit s n)] {set : σ → α → α}
  {refers : σ → α → Prop} [∀ s, DecidablePred (refers s)] {s} {n : Nat}

theorem updateReferencing_ok {s' : σ} {r : StatementResult}
    (h : t.updateReferencing hit set refers s n = .ok (s', r)) :
    (∀ a ∈ (t.get s).rows, hit s n a → refers s (set s a)) ∧
      ∃ T : Table α, T.rows = updateWhere (hit s n) (set s) (t.get s).rows ∧ s' = t.put s T ∧
        r.changes = (t.get s).rows.countP (hit s n) ∧ r.metaChanges = r.changes := by
  unfold updateReferencing at h
  split at h
  · rename_i hrefers
    exact ⟨hrefers, update_ok h⟩
  · cases h

/-- An update of references that keeps the keys takes place, unless a reference dangles. -/
theorem updateReferencing_cases (hset : KeepsKeys (set s)) :
    (t.updateReferencing hit set refers s n = .error .foreignKey ∧
      ∃ a ∈ (t.get s).rows, hit s n a ∧ ¬ refers s (set s a)) ∨
    (∀ a ∈ (t.get s).rows, hit s n a → refers s (set s a)) ∧
      ∃ (T : Table α) (r : StatementResult),
        t.updateReferencing hit set refers s n = .ok (t.put s T, r) ∧
        T.rows = updateWhere (hit s n) (set s) (t.get s).rows ∧
        r.changes = (t.get s).rows.countP (hit s n) ∧ r.metaChanges = r.changes := by
  by_cases hrefers : ∀ a ∈ (t.get s).rows, hit s n a → refers s (set s a)
  · obtain ⟨T, r, h, hT, hc, hm, -⟩ := updateReturning_total t hit set n (fun _ => []) hset
    exact Or.inr ⟨hrefers, T, r, by rw [updateReferencing, if_pos hrefers]; exact h, hT, hc, hm⟩
  · refine Or.inl ⟨if_neg hrefers, ?_⟩
    push Not at hrefers
    exact hrefers

theorem updateReferencing_within {R : σ → σ → Prop}
    (hput : ∀ (s : σ) (T : Table α), R s (t.put s T)) :
    (t.updateReferencing hit set refers).Within R := by
  intro s s' n r h
  obtain ⟨-, T, -, rfl, -⟩ := updateReferencing_ok h
  exact hput s T

end TableIn

end Relational
