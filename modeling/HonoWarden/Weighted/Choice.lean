import Mathlib.Algebra.GroupWithZero.Nat
import Mathlib.Algebra.BigOperators.Group.Finset.Piecewise
import Mathlib.Data.List.Sort
import Mathlib.Data.List.Range
import Mathlib.Tactic.Tauto

/-!
# Choosing among weighted values

A list of values with counts. `pick ws r` walks the counts: the first `count` residues choose the
first value, the next ones the second, and so on. `add` gathers counts in an association list, in
the order in which the values first appear.

Results:
* `pick_isSome_iff`: a residue below the total chooses a value;
* **`countP_pick`**: a value is chosen by as many residues as its count;
* **`countOf_gather`**: gathering keeps the count of every value;
* **`Gathered.perm`**, `Gathered.mergeSort_eq`: the counts determine a gathered list up to order,
  and its sorted form.
-/

namespace Weighted

/-- A value and its count. -/
structure Entry (α : Type) where
  value : α
  count : Nat
  deriving DecidableEq, Repr

variable {α κ : Type} [DecidableEq α]

omit [DecidableEq α] in
theorem Entry.ext_of {w v : Entry α} (hvalue : w.value = v.value) (hcount : w.count = v.count) :
    w = v := by
  cases w
  cases v
  simp_all

/-- The sum of the counts. -/
def total (ws : List (Entry α)) : Nat := (ws.map Entry.count).sum

/-- The count of one value. -/
def countOf (ws : List (Entry α)) (a : α) : Nat :=
  (ws.map fun w => if w.value = a then w.count else 0).sum

omit [DecidableEq α] in
@[simp] theorem total_cons (w : Entry α) (ws : List (Entry α)) :
    total (w :: ws) = w.count + total ws := rfl

@[simp] theorem countOf_nil (a : α) : countOf [] a = 0 := rfl

@[simp] theorem countOf_cons (w : Entry α) (ws : List (Entry α)) (a : α) :
    countOf (w :: ws) a = (if w.value = a then w.count else 0) + countOf ws a := rfl

/-! ## Picking -/

/-- The value a residue chooses. -/
def pick : List (Entry α) → Nat → Option α
  | [], _ => none
  | w :: ws, r => if r < w.count then some w.value else pick ws (r - w.count)

omit [DecidableEq α] in
theorem pick_isSome_iff {ws : List (Entry α)} {r : Nat} : (pick ws r).isSome ↔ r < total ws := by
  induction ws generalizing r with
  | nil => simp [pick, total]
  | cons w ws ih =>
    unfold pick
    rw [total_cons]
    split
    · rename_i hr
      exact iff_of_true rfl (by omega)
    · rename_i hr
      rw [ih]
      omega

/-- **A value is chosen by as many residues as its count.** -/
theorem countP_pick (ws : List (Entry α)) (a : α) :
    (List.range (total ws)).countP (fun r => pick ws r = some a) = countOf ws a := by
  induction ws with
  | nil => rfl
  | cons w ws ih =>
    rw [total_cons, List.range_add, List.countP_append, List.countP_map, countOf_cons, ← ih]
    have hhead : (List.range w.count).countP (fun r => pick (w :: ws) r = some a) =
        if w.value = a then w.count else 0 := by
      have hpick : ∀ r ∈ List.range w.count, pick (w :: ws) r = some w.value := fun r hr =>
        if_pos (List.mem_range.mp hr)
      split
      · rename_i hvalue
        have hall : ∀ r ∈ List.range w.count, pick (w :: ws) r = some a := fun r hr => by
          rw [hpick r hr, hvalue]
        rw [List.countP_eq_length.mpr fun r hr => by simpa using hall r hr, List.length_range]
      · rename_i hvalue
        refine List.countP_eq_zero.mpr fun r hr => ?_
        rw [hpick r hr]
        simpa using hvalue
    have htail : ∀ r, pick (w :: ws) (w.count + r) = pick ws r := by
      intro r
      unfold pick
      rw [if_neg (by omega), Nat.add_sub_cancel_left]
      cases ws <;> rfl
    rw [hhead]
    refine congrArg _ (List.countP_congr fun r _ => ?_)
    simp [htail]

/-! ## Gathering -/

section Gather

variable [DecidableEq κ] (key : α → κ)

omit [DecidableEq α] in
/-- Count `n` more of `a`, in the entry with its key or in a new one at the end. -/
def add : List (Entry α) → α → Nat → List (Entry α)
  | [], a, n => [⟨a, n⟩]
  | w :: ws, a, n =>
    if key w.value = key a then { w with count := w.count + n } :: ws else w :: add ws a n

/-- Each value once, with a count that is not zero. -/
structure Gathered (ws : List (Entry α)) : Prop where
  nodup : (ws.map Entry.value).Nodup
  positive : ∀ w ∈ ws, 0 < w.count

variable {key} {ws : List (Entry α)} {a : α} {n : Nat}

theorem countOf_add (hkey : Function.Injective key) (b : α) :
    countOf (add key ws a n) b = countOf ws b + if a = b then n else 0 := by
  induction ws with
  | nil => simp [add]
  | cons w ws ih =>
    unfold add
    split
    · rename_i hsame
      obtain rfl := hkey hsame
      rw [countOf_cons, countOf_cons]
      dsimp only
      split <;> omega
    · rw [countOf_cons, countOf_cons, ih]
      omega

omit [DecidableEq α] in
theorem total_add : total (add key ws a n) = total ws + n := by
  induction ws with
  | nil => simp [add, total]
  | cons w ws ih =>
    unfold add
    split
    · rw [total_cons, total_cons]
      dsimp only
      omega
    · rw [total_cons, total_cons, ih]
      omega

omit [DecidableEq α] in
theorem mem_add_value {w : Entry α} (hkey : Function.Injective key) (hw : w ∈ add key ws a n) :
    w.value = a ∨ w ∈ ws := by
  induction ws with
  | nil =>
    obtain rfl := List.mem_singleton.mp hw
    exact Or.inl rfl
  | cons v ws ih =>
    unfold add at hw
    split at hw
    · rename_i hsame
      rcases List.mem_cons.mp hw with rfl | hw
      · exact Or.inl (hkey hsame)
      · exact Or.inr (List.mem_cons_of_mem _ hw)
    · rcases List.mem_cons.mp hw with rfl | hw
      · exact Or.inr List.mem_cons_self
      · exact (ih hw).imp_right (List.mem_cons_of_mem _)

omit [DecidableEq α] in
/-- **Gathering one more keeps a gathered list.** -/
theorem Gathered.add (h : Gathered ws) (hkey : Function.Injective key) (hn : 0 < n) :
    Gathered (add key ws a n) := by
  induction ws with
  | nil => exact ⟨List.nodup_singleton a, fun w hw => by
      obtain rfl := List.mem_singleton.mp hw
      exact hn⟩
  | cons v ws ih =>
    have hnodup := List.nodup_cons.mp h.nodup
    have htail : Gathered ws := ⟨hnodup.2, fun w hw => h.positive w (List.mem_cons_of_mem _ hw)⟩
    unfold Weighted.add
    split
    · refine ⟨h.nodup, fun w hw => ?_⟩
      rcases List.mem_cons.mp hw with rfl | hw
      · exact Nat.add_pos_right _ hn
      · exact htail.positive w hw
    · rename_i hne
      refine ⟨List.nodup_cons.mpr ⟨fun hmem => ?_, (ih htail).nodup⟩, fun w hw => ?_⟩
      · obtain ⟨w, hw, hvalue⟩ := List.mem_map.mp hmem
        rcases mem_add_value hkey hw with ha | hw
        · exact hne (congrArg key (hvalue.symm.trans ha))
        · exact hnodup.1 (List.mem_map.mpr ⟨w, hw, hvalue⟩)
      · rcases List.mem_cons.mp hw with rfl | hw
        · exact h.positive w List.mem_cons_self
        · exact (ih htail).positive w hw

end Gather

/-! ## The counts determine a gathered list -/

section Canonical

variable {ws vs : List (Entry α)}

theorem countOf_of_notMem {a : α} (h : a ∉ ws.map Entry.value) : countOf ws a = 0 := by
  induction ws with
  | nil => rfl
  | cons w ws ih =>
    rw [List.map_cons, List.mem_cons, not_or] at h
    rw [countOf_cons, if_neg fun he => h.1 he.symm, ih h.2]

theorem Gathered.countOf_of_mem (h : Gathered ws) {w : Entry α} (hw : w ∈ ws) :
    countOf ws w.value = w.count := by
  induction ws with
  | nil => cases hw
  | cons v ws ih =>
    have hnodup := List.nodup_cons.mp h.nodup
    have htail : Gathered ws := ⟨hnodup.2, fun w hw => h.positive w (List.mem_cons_of_mem _ hw)⟩
    rw [countOf_cons]
    rcases List.mem_cons.mp hw with rfl | hw
    · rw [if_pos rfl, countOf_of_notMem hnodup.1]
      rfl
    · have hne : v.value ≠ w.value := fun he => hnodup.1 (he ▸ List.mem_map_of_mem hw)
      rw [if_neg hne, ih htail hw, Nat.zero_add]

/-- An entry stands in a gathered list exactly when it has the count of its value. -/
theorem Gathered.mem_iff (h : Gathered ws) {w : Entry α} :
    w ∈ ws ↔ countOf ws w.value = w.count ∧ 0 < w.count := by
  constructor
  · intro hw
    exact ⟨h.countOf_of_mem hw, h.positive w hw⟩
  · rintro ⟨hcount, hpositive⟩
    by_cases hmem : w.value ∈ ws.map Entry.value
    · obtain ⟨v, hv, hvalue⟩ := List.mem_map.mp hmem
      have hvcount := h.countOf_of_mem hv
      rw [hvalue, hcount] at hvcount
      rwa [Entry.ext_of hvalue.symm hvcount]
    · rw [countOf_of_notMem hmem] at hcount
      omega

omit [DecidableEq α] in
theorem Gathered.nodup_entries (h : Gathered ws) : ws.Nodup := h.nodup.of_map _

/-- **Two gathered lists with the same counts are the same up to order.** -/
theorem Gathered.perm (h : Gathered ws) (h' : Gathered vs)
    (hcounts : ∀ a, countOf ws a = countOf vs a) : ws.Perm vs := by
  refine (List.perm_ext_iff_of_nodup h.nodup_entries h'.nodup_entries).mpr fun w => ?_
  rw [h.mem_iff, h'.mem_iff, hcounts]

/-- **Sorted by their values, they are the same.** -/
theorem Gathered.mergeSort_eq {le : α → α → Bool} (htrans : ∀ a b c, le a b → le b c → le a c)
    (htotal : ∀ a b, le a b || le b a) (hantisymm : ∀ a b, le a b → le b a → a = b)
    (h : Gathered ws) (h' : Gathered vs) (hcounts : ∀ a, countOf ws a = countOf vs a) :
    ws.mergeSort (fun w v => le w.value v.value) = vs.mergeSort fun w v => le w.value v.value := by
  have hsorted : ∀ us : List (Entry α),
      (us.mergeSort fun w v => le w.value v.value).Pairwise fun w v => le w.value v.value :=
    List.pairwise_mergeSort (fun u v w => htrans u.value v.value w.value)
      fun u v => htotal u.value v.value
  refine List.Perm.eq_of_pairwise (fun w v hw hv hle hge => ?_) (hsorted ws) (hsorted vs)
    (((List.mergeSort_perm _ _).trans (h.perm h' hcounts)).trans (List.mergeSort_perm _ _).symm)
  have hvalue : w.value = v.value := hantisymm _ _ hle hge
  refine Entry.ext_of hvalue ?_
  rw [← h.countOf_of_mem (List.mem_mergeSort.mp hw), ← h'.countOf_of_mem (List.mem_mergeSort.mp hv),
    hcounts, hvalue]

end Canonical

/-! ## Order and splitting -/

theorem le_countOf_of_mem {ws : List (Entry α)} {w : Entry α} (hw : w ∈ ws) :
    w.count ≤ countOf ws w.value := by
  induction ws with
  | nil => cases hw
  | cons v ws ih =>
    rw [countOf_cons]
    rcases List.mem_cons.mp hw with rfl | hw
    · rw [if_pos rfl]
      exact Nat.le_add_right _ _
    · exact (ih hw).trans (Nat.le_add_left _ _)

/-- The total is the sum of the counts of the values. -/
theorem total_eq_sum {ws : List (Entry α)} {values : Finset α}
    (h : ∀ w ∈ ws, w.value ∈ values) : total ws = ∑ a ∈ values, countOf ws a := by
  induction ws with
  | nil => simp [total]
  | cons w ws ih =>
    rw [total_cons, ih fun v hv => h v (List.mem_cons_of_mem _ hv)]
    simp only [countOf_cons, Finset.sum_add_distrib, Finset.sum_ite_eq]
    rw [if_pos (h w List.mem_cons_self)]

/-- Lists with the same counts have the same total. -/
theorem total_eq_of_countOf {ws vs : List (Entry α)} (h : ∀ a, countOf ws a = countOf vs a) :
    total ws = total vs := by
  have hws : ∀ w ∈ ws, w.value ∈ ((ws ++ vs).map Entry.value).toFinset := fun w hw =>
    List.mem_toFinset.mpr (List.mem_map_of_mem (List.mem_append_left _ hw))
  have hvs : ∀ w ∈ vs, w.value ∈ ((ws ++ vs).map Entry.value).toFinset := fun w hw =>
    List.mem_toFinset.mpr (List.mem_map_of_mem (List.mem_append_right _ hw))
  rw [total_eq_sum hws, total_eq_sum hvs]
  exact Finset.sum_congr rfl fun a _ => h a

theorem countOf_perm {ws vs : List (Entry α)} (h : ws.Perm vs) (a : α) :
    countOf ws a = countOf vs a :=
  (h.map _).sum_nat

theorem countOf_append (ws vs : List (Entry α)) (a : α) :
    countOf (ws ++ vs) a = countOf ws a + countOf vs a := by
  simp [countOf]

omit [DecidableEq α] in
theorem total_append (ws vs : List (Entry α)) : total (ws ++ vs) = total ws + total vs := by
  simp [total]

omit [DecidableEq α] in
theorem total_perm {ws vs : List (Entry α)} (h : ws.Perm vs) : total ws = total vs :=
  (h.map _).sum_nat

end Weighted
