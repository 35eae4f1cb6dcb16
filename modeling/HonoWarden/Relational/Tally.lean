import HonoWarden.Relational.Query

/-!
# Tallies

A *tally* is a table that counts the names another table uses: one row for each name in use, with
the number of its uses. It is kept by triggers that see one row at a time, with two moves: an
upsert that starts at one or adds one, and a removal that deletes the row when it counts one and
otherwise subtracts one.

Results:
* `Tallies.perm`: a tally counts a collection, whatever its order;
* **`Tallies.add`**, **`Tallies.remove`**: each move counts one use more or less;
* `upsert_keyed`: the upsert is never refused;
* `perm_append`, `perm_deleteWhere`, `perm_updateWhere`: what one inserted, deleted or replaced
  row does to the names in use.
-/

namespace Relational

variable {α κ : Type} [Keyed α κ] [DecidableEq κ]

/-- The rows count how often each name is used, and a name not in use has no row. -/
structure Tallies (count : α → Nat) (rows : List α) (names : List κ) : Prop where
  exact : ∀ a ∈ rows, count a = names.count (Keyed.key a)
  counted : ∀ k ∈ names, ∃ a ∈ rows, Keyed.key a = k
  positive : ∀ a ∈ rows, 0 < count a

namespace Tallies

variable {count : α → Nat} {rows : List α} {names names' : List κ}

theorem perm (h : Tallies count rows names) (hp : names.Perm names') :
    Tallies count rows names' where
  exact a ha := by rw [h.exact a ha, hp.count_eq]
  counted k hk := h.counted k (hp.mem_iff.mpr hk)
  positive := h.positive

/-- A name that has a row is in use. -/
theorem mem_names (h : Tallies count rows names) {a : α} (ha : a ∈ rows) :
    Keyed.key a ∈ names := by
  have hpos := h.positive a ha
  rw [h.exact a ha] at hpos
  exact List.count_pos_iff.mp hpos

/-- **An upsert counts one use more.** -/
theorem add (h : Tallies count rows names) {new : α}
    {onConflict : α → α → Option α} (increment : α → α) (hnew : count new = 1)
    (hconflict : ∀ a, onConflict a new = some (increment a))
    (hkey : ∀ a, Keyed.key (increment a) = Keyed.key a)
    (hcount : ∀ a, count (increment a) = count a + 1) :
    Tallies count (upsert onConflict rows new).1 (Keyed.key new :: names) := by
  rcases upsert_cases onConflict rows new with ⟨habsent, hrows⟩ | ⟨old, hold, hsame, hcase⟩
  · have hunused : Keyed.key new ∉ names := fun hmem => by
      obtain ⟨a, ha, hak⟩ := h.counted _ hmem
      exact habsent a ha hak
    rw [hrows]
    refine ⟨fun a ha => ?_, fun k hmem => ?_, fun a ha => ?_⟩
    · rcases List.mem_append.mp ha with ha | ha
      · rw [h.exact a ha, List.count_cons_of_ne (habsent a ha).symm]
      · obtain rfl := List.mem_singleton.mp ha
        rw [hnew, List.count_cons_self, List.count_eq_zero_of_not_mem hunused]
    · rcases List.mem_cons.mp hmem with rfl | hmem
      · exact ⟨new, by simp, rfl⟩
      · obtain ⟨a, ha, hak⟩ := h.counted k hmem
        exact ⟨a, List.mem_append_left _ ha, hak⟩
    · rcases List.mem_append.mp ha with ha | ha
      · exact h.positive a ha
      · obtain rfl := List.mem_singleton.mp ha
        omega
  · rcases hcase with ⟨hnone, -⟩ | ⟨row, hsome, hrows⟩
    · rw [hconflict old] at hnone
      cases hnone
    obtain rfl : increment old = row := by simpa [hconflict old] using hsome
    rw [hrows]
    have hkeyOld : Keyed.key (increment old) = Keyed.key new := (hkey old).trans hsame
    refine ⟨fun a ha => ?_, fun k hmem => ?_, fun a ha => ?_⟩
    · rcases mem_upsert_update ha with ⟨ha, hne⟩ | rfl
      · rw [h.exact a ha, List.count_cons_of_ne (Ne.symm hne)]
      · rw [hcount, h.exact old hold, hkeyOld, hsame, List.count_cons_self]
    · have hlift : ∃ a ∈ rows, Keyed.key a = k := by
        rcases List.mem_cons.mp hmem with rfl | hmem
        · exact ⟨old, hold, hsame⟩
        · exact h.counted k hmem
      obtain ⟨a, ha, rfl⟩ := hlift
      exact upsert_update_key ha hkeyOld
    · rcases mem_upsert_update ha with ⟨ha, -⟩ | rfl
      · exact h.positive a ha
      · rw [hcount]
        omega

/-- **Deleting at one and otherwise subtracting one counts one use less.** -/
theorem remove (h : Tallies count rows names) {k : κ} {decrement : α → α}
    (hkey : ∀ a, Keyed.key (decrement a) = Keyed.key a)
    (hcount : ∀ a, 1 < count a → count (decrement a) = count a - 1) :
    Tallies count (updateWhere (fun a => Keyed.key a = k ∧ 1 < count a) decrement
      (deleteWhere (fun a => Keyed.key a = k ∧ count a = 1) rows)) (names.erase k) := by
  refine ⟨fun a ha => ?_, fun k' hmem => ?_, fun a ha => ?_⟩
  · rcases mem_updateWhere_cases ha with ⟨ha, hmiss⟩ | ⟨b, hb, ⟨hbk, hmany⟩, rfl⟩
    · obtain ⟨ha, hone⟩ := mem_deleteWhere.mp ha
      have hne : Keyed.key a ≠ k := fun hak => by
        have hpos := h.positive a ha
        have hle : ¬ 1 < count a := fun hlt => hmiss ⟨hak, hlt⟩
        exact hone ⟨hak, by omega⟩
      rw [h.exact a ha, List.count_erase_of_ne hne]
    · have hb := (mem_deleteWhere.mp hb).1
      rw [hcount b hmany, hkey, hbk, List.count_erase_self, h.exact b hb, hbk]
  · obtain ⟨a, ha, rfl⟩ := h.counted k' (List.mem_of_mem_erase hmem)
    have hleft : 0 < (names.erase k).count (Keyed.key a) := List.count_pos_iff.mpr hmem
    have hkeep : a ∈ deleteWhere (fun a => Keyed.key a = k ∧ count a = 1) rows := by
      refine mem_deleteWhere.mpr ⟨ha, fun ⟨hak, hone⟩ => ?_⟩
      have hexact := h.exact a ha
      rw [hak, List.count_erase_self] at hleft
      rw [hak] at hexact
      omega
    by_cases hhit : Keyed.key a = k ∧ 1 < count a
    · exact ⟨decrement a, mem_updateWhere.mpr ⟨a, hkeep, (if_pos hhit).symm⟩, hkey a⟩
    · exact ⟨a, mem_updateWhere.mpr ⟨a, hkeep, (if_neg hhit).symm⟩, rfl⟩
  · rcases mem_updateWhere_cases ha with ⟨ha, -⟩ | ⟨b, -, ⟨-, hmany⟩, rfl⟩
    · exact h.positive a (mem_deleteWhere.mp ha).1
    · rw [hcount b hmany]
      omega

end Tallies

omit [DecidableEq κ] in
/-- Where only the primary key is declared, an upsert that keeps the key is never refused. -/
theorem upsert_keyed (hprimary : ∀ a b : α, ¬ Keyed.alternate a b) {rows : List α}
    (hk : KeyedRows rows) {onConflict : α → α → Option α} {new : α}
    (hkey : ∀ old row, onConflict old new = some row → Keyed.key row = Keyed.key old) :
    KeyedRows (upsert onConflict rows new).1 := by
  rcases upsert_cases onConflict rows new with ⟨habsent, hrows⟩ | ⟨old, -, hsame, hcase⟩
  · rw [hrows]
    exact append_keyed_iff.mpr ⟨hk, fun a ha hc => hc.elim (habsent a ha) (hprimary a new)⟩
  · rcases hcase with ⟨-, hrows⟩ | ⟨row, hsome, hrows⟩
    · rwa [hrows]
    · rw [hrows]
      refine updateWhere_keyed_of_sameKeys hk fun a _ ha => ⟨?_, fun c hc => ?_⟩
      · exact ((hkey old row hsome).trans hsame).trans ha.symm
      · exact absurd hc (hprimary _ _)

/-! ## The names one row adds, drops or changes -/

section Names

variable {β : Type} [DecidableEq β] {rows : List β}

omit [DecidableEq κ] [DecidableEq β] in
theorem perm_append (name : β → κ) (rows : List β) (new : β) :
    (name new :: rows.map name).Perm ((rows ++ [new]).map name) := by
  rw [List.map_append]
  exact (List.perm_append_singleton _ _).symm

theorem perm_deleteWhere (name : β → κ) (hnodup : rows.Nodup) {old : β} (hold : old ∈ rows) :
    ((rows.map name).erase (name old)).Perm ((deleteWhere (fun b => b = old) rows).map name) := by
  have hrows : deleteWhere (fun b => b = old) rows = rows.erase old := by
    rw [hnodup.erase_eq_filter]
    exact List.filter_congr fun b _ => by by_cases h : b = old <;> simp [h]
  have hperm : (rows.map name).Perm (name old :: (rows.erase old).map name) :=
    (List.perm_cons_erase hold).map name
  rw [hrows]
  simpa using hperm.erase (name old)

theorem perm_updateWhere (name : β → κ) (hnodup : rows.Nodup) {old : β} (new : β)
    (hold : old ∈ rows) :
    (name new :: (rows.map name).erase (name old)).Perm
      ((updateWhere (fun b => b = old) (fun _ => new) rows).map name) := by
  obtain ⟨before, after, rfl⟩ := List.append_of_mem hold
  have hbefore : ∀ b ∈ before, b ≠ old := fun b hb he =>
    List.disjoint_of_nodup_append hnodup hb (he ▸ List.mem_cons_self)
  have hafter : ∀ b ∈ after, b ≠ old := fun b hb he =>
    (List.nodup_cons.mp (hnodup.of_append_right)).1 (he ▸ hb)
  have hrows : updateWhere (fun b => b = old) (fun _ => new) (before ++ old :: after) =
      before ++ new :: after := by
    rw [updateWhere_append, updateWhere_eq_self hbefore]
    simp only [updateWhere, List.map_cons, if_true]
    have hself : after.map (fun b => if b = old then new else b) = after :=
      updateWhere_eq_self hafter
    rw [hself]
  have hperm : ((before ++ old :: after).map name).Perm
      (name old :: (before ++ after).map name) := List.perm_middle.map name
  have herase := hperm.erase (name old)
  rw [List.erase_cons_head] at herase
  rw [hrows]
  exact (herase.cons (name new)).trans (List.perm_middle.map name).symm

end Names

end Relational
