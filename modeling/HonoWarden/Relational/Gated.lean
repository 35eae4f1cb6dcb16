import HonoWarden.Relational.RowWrites

/-!
# Statements behind a guard

A batch that changes a row by comparing it first repeats a guard in every later statement: they
write when the row is as the first statement leaves it, and nothing when it is not.

* `Statement.Gated`: a statement that does nothing without its guard.

Results:
* **`runFrom_gated`**: without the guard, gated statements do nothing;
* `TableIn.update_gated`, `TableIn.insertSelect_gated`, `TableIn.insertOrIgnore_gated`: the
  statements that are gated;
* `TableIn.update_when`: an update whose hits are known;
* **`TableIn.insertOrIgnore_new`**: `INSERT OR IGNORE` of distinct rows adds those that are new.
-/

namespace Relational

variable {σ : Type}

/-- The statement does nothing without its guard. -/
def Statement.Gated (st : Statement σ) (guard : σ → Prop) : Prop :=
  ∀ s n, ¬ guard s → st s n = .ok (s, {})

/-- **Without the guard, gated statements do nothing.** -/
theorem runFrom_gated {guard : σ → Prop} {s : σ} (hguard : ¬ guard s) :
    ∀ {batch : List (Statement σ)} {n : Nat}, (∀ st ∈ batch, st.Gated guard) →
      runFrom batch s n = .ok (s, batch.map fun _ => {})
  | [], _, _ => rfl
  | st :: _, n, hgated =>
    runFrom_cons_ok (hgated st List.mem_cons_self s n hguard)
      (runFrom_gated hguard fun st' hst' => hgated st' (List.mem_cons_of_mem _ hst'))

section Rows

variable {α κ : Type} [Keyed α κ] {rows : List α}

/-- `INSERT OR IGNORE` of rows that do not conflict among themselves. -/
theorem foldl_insertUnlessConflict : ∀ {new rows : List α}, KeyedRows new →
    new.foldl insertUnlessConflict rows =
      rows ++ new.filter fun a => ∀ b ∈ rows, ¬ Conflict b a
  | [], rows, _ => (List.append_nil rows).symm
  | a :: new, rows, hnew => by
    obtain ⟨ha, hrest⟩ := List.pairwise_cons.mp hnew
    rw [List.foldl_cons, foldl_insertUnlessConflict hrest, List.filter_cons]
    unfold insertUnlessConflict
    by_cases hfree : ∀ b ∈ rows, ¬ Conflict b a
    · have hno : ¬ ∃ b ∈ rows, Conflict b a := fun ⟨b, hb, hc⟩ => hfree b hb hc
      rw [if_neg hno, if_pos (decide_eq_true hfree), List.append_assoc, List.singleton_append]
      refine congrArg _ (congrArg _ (List.filter_congr fun c hc => ?_))
      refine decide_eq_decide.mpr ⟨fun h b hb => h b (List.mem_append_left _ hb), fun h b hb => ?_⟩
      rcases List.mem_append.mp hb with hb | hb
      · exact h b hb
      · obtain rfl := List.mem_singleton.mp hb
        exact ha c hc
    · have hex : ∃ b ∈ rows, Conflict b a := by
        push Not at hfree
        exact hfree
      rw [if_pos hex, if_neg (by simpa using hex)]

end Rows

namespace TableIn

variable {α κ : Type} [Keyed α κ] {t : TableIn σ α} {hit : σ → Nat → α → Prop}
  [∀ s n, DecidablePred (hit s n)] {set : σ → α → α} {s s' : σ} {n : Nat} {r : StatementResult}
  {new : σ → Nat → List α} {returning : α → List (List Value)} {guard : σ → Prop}

theorem update_gated (h : ∀ s n a, hit s n a → guard s) : (t.update hit set).Gated guard :=
  fun _ _ hguard => t.update_idle fun _ _ hhit => hguard (h _ _ _ hhit)

theorem insertSelect_gated (h : ∀ s n, ¬ guard s → new s n = []) :
    (t.insertSelect new returning).Gated guard :=
  fun s n hguard => t.insertSelect_idle (h s n hguard)

theorem insertOrIgnore_gated (h : ∀ s n, ¬ guard s → new s n = []) :
    (t.insertOrIgnore new returning).Gated guard :=
  fun s n hguard => t.insertOrIgnore_idle (by rw [h s n hguard, List.foldl_nil])

/-- An update, where it is known what it hits. -/
theorem update_when {p : α → Prop} [DecidablePred p] (hp : ∀ a, hit s n a ↔ p a)
    (h : t.update hit set s n = .ok (s', r)) :
    ∃ T : Table α, T.rows = updateWhere p (set s) (t.get s).rows ∧ s' = t.put s T ∧
      r.metaChanges = (t.get s).rows.countP p := by
  obtain ⟨T, hT, hs, hc, hm⟩ := update_ok h
  refine ⟨T, hT.trans (updateWhere_congr fun a _ => hp a), hs, hm.trans (hc.trans ?_)⟩
  exact List.countP_congr fun a _ => by simp [hp a]

/-- **What `INSERT OR IGNORE` of distinct rows has done.** -/
theorem insertOrIgnore_new {rows : List α} (hnew : new s n = rows) (hrows : KeyedRows rows)
    (h : t.insertOrIgnore new returning s n = .ok (s', r)) :
    ∃ (T : Table α) (added : List α),
      added = (rows.filter fun a => ∀ b ∈ (t.get s).rows, ¬ Conflict b a) ∧
      T.rows = (t.get s).rows ++ added ∧ s' = t.put s T ∧ r.metaChanges = added.length ∧
      r.rows = added.flatMap returning := by
  obtain ⟨T, hT, hs, hr⟩ := write_ok h
  rw [hnew, foldl_insertUnlessConflict hrows] at hT hr
  refine ⟨T, _, rfl, hT, hs, ?_, ?_⟩
  · rw [hr]
    simp
  · rw [hr]
    simp

end TableIn

end Relational
