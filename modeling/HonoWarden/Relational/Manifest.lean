import HonoWarden.Relational.Gated

/-!
# Comparing rows with a manifest

A guard that no row has changed since it was read: as many rows as entries in a manifest, and an
anti-join that finds no row without an equal entry under its key.

```sql
(SELECT COUNT(*) FROM row) = (SELECT COUNT(*) FROM expected) AND NOT EXISTS (
  SELECT 1 FROM row LEFT JOIN expected ON expected.id = row.id
  WHERE … OR expected.id IS NULL OR expected.column IS NOT row.column OR …)
```

Results:
* **`holdsManifest_iff`**: where the keys differ, the guard says that the rows are the manifest;
* `rewriteFrom_of_mem`: a rewriting from a list takes the item with the row's key;
* **`forall₂_rewritten`**: with an item for every row of its part it rewrites that part, row by row.
-/

namespace Relational

variable {α γ κ : Type} [DecidableEq κ] [DecidableEq γ]

/-- The guard, over the rows in question: each row is `sound`, and its columns are `entry`. -/
def HoldsManifest (sound : α → Prop) (entry : α → γ) (key : γ → κ) (rows : List α)
    (manifest : List γ) : Prop :=
  rows.length = manifest.length ∧
    ∀ a ∈ rows, sound a ∧ (∃ e ∈ manifest, key e = key (entry a)) ∧
      ∀ e ∈ manifest, key e = key (entry a) → e = entry a

instance (sound : α → Prop) [DecidablePred sound] (entry : α → γ) (key : γ → κ) (rows : List α)
    (manifest : List γ) : Decidable (HoldsManifest sound entry key rows manifest) :=
  inferInstanceAs (Decidable (_ ∧ _))

omit [DecidableEq κ] [DecidableEq γ] in
/-- Distinct items that all occur in a list of their length are that list, in some order. -/
theorem perm_of_subset_of_length {l m : List γ} (hnodup : l.Nodup) (hsubset : l ⊆ m)
    (hlength : m.length ≤ l.length) : l.Perm m :=
  (List.subperm_of_subset hnodup hsubset).perm_of_length_le hlength

omit [DecidableEq γ] in
/-- Two lists of distinct items have as many of each other. -/
theorem countP_mem_comm {l m : List κ} (hl : l.Nodup) (hm : m.Nodup) :
    l.countP (fun a => a ∈ m) = m.countP fun a => a ∈ l := by
  rw [List.countP_eq_length_filter, List.countP_eq_length_filter]
  refine ((List.perm_ext_iff_of_nodup (hl.filter _) (hm.filter _)).mpr fun a => ?_).length_eq
  simp only [List.mem_filter, decide_eq_true_eq]
  exact and_comm

omit [DecidableEq κ] [DecidableEq γ] in
/-- An update that does not move rows into a part of the table, or out of it. -/
theorem countP_updateWhere {hit p : α → Prop} [DecidablePred hit] [DecidablePred p] {set : α → α}
    {rows : List α} (h : ∀ a ∈ rows, hit a → (p (set a) ↔ p a)) :
    (updateWhere hit set rows).countP p = rows.countP p := by
  rw [updateWhere, List.countP_map]
  refine countP_congr_prop (p := fun a => p (if hit a then set a else a)) fun a ha => ?_
  by_cases hhit : hit a
  · rw [if_pos hhit]
    exact h a ha hhit
  · rw [if_neg hhit]

section Manifest

variable {sound : α → Prop} {entry : α → γ} {key : γ → κ} {rows : List α} {manifest : List γ}

omit [DecidableEq κ] [DecidableEq γ] in
/-- **The guard says that the rows are the manifest**, where no key occurs twice. -/
theorem holdsManifest_iff (hrows : (rows.map fun a => key (entry a)).Nodup)
    (hmanifest : (manifest.map key).Nodup) :
    HoldsManifest sound entry key rows manifest ↔
      (∀ a ∈ rows, sound a) ∧ (rows.map entry).Perm manifest := by
  constructor
  · rintro ⟨hlength, hall⟩
    refine ⟨fun a ha => (hall a ha).1, perm_of_subset_of_length ?_ ?_ ?_⟩
    · refine List.Nodup.of_map key ?_
      rwa [List.map_map]
    · intro e he
      obtain ⟨a, ha, rfl⟩ := List.mem_map.mp he
      obtain ⟨-, ⟨e, he, hkey⟩, hsame⟩ := hall a ha
      rwa [← hsame e he hkey]
    · rw [List.length_map, hlength]
  · rintro ⟨hsound, hperm⟩
    refine ⟨by rw [← hperm.length_eq, List.length_map], fun a ha => ⟨hsound a ha, ?_, ?_⟩⟩
    · exact ⟨entry a, hperm.mem_iff.mp (List.mem_map_of_mem ha), rfl⟩
    · exact fun e he hkey => List.inj_on_of_nodup_map hmanifest he
        (hperm.mem_iff.mp (List.mem_map_of_mem ha)) hkey

omit [DecidableEq κ] [DecidableEq γ] in
theorem HoldsManifest.perm (h : HoldsManifest sound entry key rows manifest)
    (hrows : (rows.map fun a => key (entry a)).Nodup) (hmanifest : (manifest.map key).Nodup) :
    (∀ a ∈ rows, sound a) ∧ (rows.map entry).Perm manifest :=
  (holdsManifest_iff hrows hmanifest).mp h

end Manifest

/-! ## Rewriting from a list -/

section Rewriting

variable {β : Type} {key : α → κ} {itemKey : β → κ} {write : β → α → α} {items : List β}

/-- `SET column = (SELECT column FROM rotated WHERE rotated.id = id)`. -/
def rewriteFrom (key : α → κ) (itemKey : β → κ) (write : β → α → α) (items : List β) (a : α) : α :=
  match items.find? fun b => itemKey b = key a with
  | some b => write b a
  | none => a

theorem rewriteFrom_of_mem (hnodup : (items.map itemKey).Nodup) {b : β} (hb : b ∈ items) {a : α}
    (hkey : itemKey b = key a) : rewriteFrom key itemKey write items a = write b a := by
  unfold rewriteFrom
  cases hfind : items.find? fun b => itemKey b = key a with
  | none => exact absurd hkey (by simpa using List.find?_eq_none.mp hfind b hb)
  | some b' =>
    have hb' := List.mem_of_find?_eq_some hfind
    have hkey' : itemKey b' = key a := by simpa using List.find?_some hfind
    rw [List.inj_on_of_nodup_map hnodup hb' hb (hkey'.trans hkey.symm)]

theorem rewriteFrom_cases (key : α → κ) (itemKey : β → κ) (write : β → α → α) (items : List β)
    (a : α) : rewriteFrom key itemKey write items a = a ∨
      ∃ b ∈ items, rewriteFrom key itemKey write items a = write b a := by
  unfold rewriteFrom
  cases hfind : items.find? fun b => itemKey b = key a with
  | none => exact Or.inl rfl
  | some b => exact Or.inr ⟨b, List.mem_of_find?_eq_some hfind, rfl⟩

omit [DecidableEq κ] [DecidableEq γ] in
theorem exists_of_forall₂_right {R : α → β → Prop} {rows : List α} {rows' : List β}
    (h : List.Forall₂ R rows rows') {b : β} (hb : b ∈ rows') : ∃ a ∈ rows, R a b := by
  induction h with
  | nil => cases hb
  | @cons a b' rows rows' hR _ ih =>
    rcases List.mem_cons.mp hb with rfl | hb
    · exact ⟨a, List.mem_cons_self, hR⟩
    · obtain ⟨a', ha', hR'⟩ := ih hb
      exact ⟨a', List.mem_cons_of_mem _ ha', hR'⟩

/-- A row of the rewritten part takes the item under its key, and any other row stays. -/
def Rewritten (mine : α → Prop) (key : α → κ) (itemKey : β → κ) (write : β → α → α)
    (items : List β) (a b : α) : Prop :=
  (mine a → ∃ item ∈ items, itemKey item = key a ∧ b = write item a) ∧ (¬ mine a → b = a)

/-- **A rewriting with an item for every row of its part rewrites that part, row by row.** -/
theorem forall₂_rewritten {mine hit : α → Prop} [DecidablePred hit] {rows : List α}
    (hhit : ∀ a ∈ rows, hit a ↔ mine a)
    (hitems : ∀ a ∈ rows, mine a → key a ∈ items.map itemKey) (hnodup : (items.map itemKey).Nodup) :
    List.Forall₂ (Rewritten mine key itemKey write items) rows
      (updateWhere hit (rewriteFrom key itemKey write items) rows) := by
  rw [updateWhere, List.forall₂_map_right_iff, List.forall₂_same]
  intro a ha
  refine ⟨fun hmine => ?_, fun hother => if_neg fun h => hother ((hhit a ha).mp h)⟩
  obtain ⟨item, hitem, hkey⟩ := List.mem_map.mp (hitems a ha hmine)
  refine ⟨item, hitem, hkey, ?_⟩
  rw [if_pos ((hhit a ha).mpr hmine), rewriteFrom_of_mem hnodup hitem hkey]

end Rewriting

end Relational
