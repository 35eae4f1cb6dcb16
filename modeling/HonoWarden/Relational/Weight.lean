import HonoWarden.Relational.Tally

/-!
# Weights

The weight of the rows that meet a condition: `SUM(weight) … WHERE p`.

Results:
* `weightWhere_mono`, `weightWhere_sublist`: fewer rows, less weight;
* `weightWhere_split`: the rows under one key and the others;
* **`weightWhere_updateWhere_le`**: an update that moves no row into the condition adds no weight;
* `Table.weightWhere_key_le`: the rows under one key weigh what its one row weighs.
-/

namespace Relational

variable {α : Type}

/-- `SUM(weight) … WHERE p`. -/
def weightWhere (p : α → Prop) [DecidablePred p] (weight : α → Nat) (rows : List α) : Nat :=
  ((rows.filter fun a => p a).map weight).sum

variable {p q : α → Prop} [DecidablePred p] [DecidablePred q] {weight : α → Nat} {rows : List α}

@[simp] theorem weightWhere_nil : weightWhere p weight [] = 0 := rfl

theorem weightWhere_cons (a : α) (rows : List α) :
    weightWhere p weight (a :: rows) =
      (if p a then weight a else 0) + weightWhere p weight rows := by
  unfold weightWhere
  by_cases h : p a
  · simp [h]
  · simp [h]

theorem weightWhere_append (rows rows' : List α) :
    weightWhere p weight (rows ++ rows') =
      weightWhere p weight rows + weightWhere p weight rows' := by
  simp [weightWhere]

theorem weightWhere_sublist {rows' : List α} (h : rows'.Sublist rows) :
    weightWhere p weight rows' ≤ weightWhere p weight rows :=
  ((h.filter _).map weight).sum_le_sum fun _ _ => Nat.zero_le _

theorem weightWhere_mono (h : ∀ a ∈ rows, p a → q a) :
    weightWhere p weight rows ≤ weightWhere q weight rows := by
  induction rows with
  | nil => exact le_refl 0
  | cons a rows ih =>
    have hrest := ih fun b hb => h b (List.mem_cons_of_mem _ hb)
    rw [weightWhere_cons, weightWhere_cons]
    by_cases ha : p a
    · rw [if_pos ha, if_pos (h a List.mem_cons_self ha)]
      omega
    · rw [if_neg ha]
      omega

theorem weightWhere_split :
    weightWhere p weight rows = weightWhere (fun a => p a ∧ q a) weight rows +
      weightWhere (fun a => p a ∧ ¬ q a) weight rows := by
  induction rows with
  | nil => rfl
  | cons a rows ih =>
    rw [weightWhere_cons, weightWhere_cons, weightWhere_cons, ih]
    by_cases hp : p a <;> by_cases hq : q a <;> simp [hp, hq] <;> omega

/-- **An update that moves no row into the condition adds no weight.** -/
theorem weightWhere_updateWhere_le {hit : α → Prop} [DecidablePred hit] {set : α → α}
    (hweight : ∀ a ∈ rows, hit a → weight (set a) = weight a)
    (hset : ∀ a ∈ rows, hit a → p (set a) → p a) :
    weightWhere p weight (updateWhere hit set rows) ≤ weightWhere p weight rows := by
  induction rows with
  | nil => exact le_refl 0
  | cons a rows ih =>
    have hrest := ih (fun b hb => hweight b (List.mem_cons_of_mem _ hb))
      fun b hb => hset b (List.mem_cons_of_mem _ hb)
    have hhead : updateWhere hit set (a :: rows) =
        (if hit a then set a else a) :: updateWhere hit set rows := rfl
    rw [hhead, weightWhere_cons, weightWhere_cons]
    by_cases ha : hit a
    · rw [if_pos ha, hweight a List.mem_cons_self ha]
      by_cases hp : p (set a)
      · rw [if_pos hp, if_pos (hset a List.mem_cons_self ha hp)]
        omega
      · rw [if_neg hp]
        omega
    · rw [if_neg ha]
      omega

/-- The rows under one key weigh no more than its row. -/
theorem Table.weightWhere_key_le {κ : Type} [Keyed α κ] (t : Table α) {k : κ} {bound : Nat}
    (hp : ∀ a, p a → Keyed.key a = k) (hbound : ∀ a ∈ t.rows, p a → weight a ≤ bound) :
    weightWhere p weight t.rows ≤ bound := by
  by_cases h : ∃ a ∈ t.rows, p a
  · obtain ⟨a, ha, hpa⟩ := h
    rw [weightWhere, t.filter_eq_singleton k hp ha hpa]
    simpa using hbound a ha hpa
  · have hnone : (t.rows.filter fun a => p a) = [] :=
      List.filter_eq_nil_iff.mpr fun a ha hpa => h ⟨a, ha, of_decide_eq_true hpa⟩
    rw [weightWhere, hnone]
    exact Nat.zero_le bound

end Relational
