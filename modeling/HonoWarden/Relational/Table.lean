import Mathlib

/-!
# Tables with declared keys

A table is a list of rows in which no two rows conflict on a declared key: the primary key
(`Keyed.key`) or any further UNIQUE constraint (`Keyed.alternate`). The condition is a field of
`Table`, so a table that breaks a key cannot be written down; a write computes the new list of
rows and is refused when that list conflicts (`Table.ofRows`).

The writes are the four of SQL: `updateWhere`, `deleteWhere`, `insertUnlessConflict` (INSERT OR
IGNORE) and `upsert` (INSERT … ON CONFLICT (key) DO UPDATE).

Results:
* `Table.eq_of_key`, `Table.eq_of_alternate`: a key names at most one row;
* `Table.countP_key_le_one`, `Table.countP_eq_one_iff`: a condition that fixes the key hits at
  most one row, and exactly one when some row meets it, which is what a change count says;
* `updateWhere_keyed`: an update that moves no key is never refused.
-/

namespace Relational

/-- The declared keys of a row type. -/
class Keyed (α : Type) (κ : outParam Type) where
  /-- The primary key. -/
  key : α → κ
  /-- Agreement on a UNIQUE constraint other than the primary key. -/
  alternate : α → α → Prop
  alternate_symm : ∀ {a b : α}, alternate a b → alternate b a
  decKey : ∀ a b : α, Decidable (key a = key b)
  decAlternate : ∀ a b : α, Decidable (alternate a b)

/-- The keys of a table with a primary key and nothing else. -/
abbrev Keyed.primary {α κ : Type} [DecidableEq κ] (key : α → κ) : Keyed α κ where
  key := key
  alternate _ _ := False
  alternate_symm h := h
  decKey _ _ := inferInstance
  decAlternate _ _ := instDecidableFalse

variable {α κ : Type} [Keyed α κ]

instance (a b : α) : Decidable (Keyed.key a = Keyed.key b) := Keyed.decKey a b

instance (a b : α) : Decidable (Keyed.alternate a b) := Keyed.decAlternate a b

/-- Two rows that may not stand in one table. -/
def Conflict (a b : α) : Prop := Keyed.key a = Keyed.key b ∨ Keyed.alternate a b

instance : DecidableRel (Conflict (α := α)) := fun a b =>
  inferInstanceAs (Decidable (Keyed.key a = Keyed.key b ∨ Keyed.alternate a b))

theorem Conflict.symm {a b : α} (h : Conflict a b) : Conflict b a :=
  h.imp Eq.symm Keyed.alternate_symm

/-- No two of the rows conflict. -/
def KeyedRows (rows : List α) : Prop := rows.Pairwise fun a b => ¬ Conflict a b

instance (rows : List α) : Decidable (KeyedRows rows) :=
  inferInstanceAs (Decidable (rows.Pairwise _))

/-- Rows that respect every declared key. -/
structure Table (α : Type) {κ : Type} [Keyed α κ] where
  rows : List α
  keyed : KeyedRows rows

namespace Table

instance : EmptyCollection (Table α) := ⟨⟨[], List.Pairwise.nil⟩⟩

@[ext] theorem ext {t u : Table α} (h : t.rows = u.rows) : t = u := by
  cases t; cases u; simpa using h

instance [DecidableEq α] : DecidableEq (Table α) := fun t u =>
  decidable_of_iff (t.rows = u.rows) ⟨Table.ext, fun h => by rw [h]⟩

@[simp] theorem rows_empty : (∅ : Table α).rows = [] := rfl

/-- The table of one row. -/
def singleton (a : α) : Table α := ⟨[a], List.pairwise_singleton _ a⟩

@[simp] theorem rows_singleton (a : α) : (singleton a).rows = [a] := rfl

theorem eq_of_conflict (t : Table α) {a b : α} (ha : a ∈ t.rows) (hb : b ∈ t.rows)
    (h : Conflict a b) : a = b := by
  by_contra hne
  have : Std.Symm fun a b : α => ¬ Conflict a b := ⟨fun _ _ hc hc' => hc hc'.symm⟩
  exact List.Pairwise.forall t.keyed ha hb hne h

/-- The primary key names at most one row. -/
theorem eq_of_key (t : Table α) {a b : α} (ha : a ∈ t.rows) (hb : b ∈ t.rows)
    (h : Keyed.key a = Keyed.key b) : a = b :=
  t.eq_of_conflict ha hb (Or.inl h)

theorem eq_of_alternate (t : Table α) {a b : α} (ha : a ∈ t.rows) (hb : b ∈ t.rows)
    (h : Keyed.alternate a b) : a = b :=
  t.eq_of_conflict ha hb (Or.inr h)

theorem nodup (t : Table α) : t.rows.Nodup :=
  t.keyed.imp fun hc he => hc (Or.inl (congrArg Keyed.key he))

end Table

/-! ## Change counts -/

theorem countP_le_one_of_unique {rows : List α} (hk : KeyedRows rows) {p : α → Prop}
    [DecidablePred p] (hp : ∀ a ∈ rows, ∀ b ∈ rows, p a → p b → Conflict a b) :
    rows.countP p ≤ 1 := by
  induction rows with
  | nil => simp
  | cons a rows ih =>
    have hrest := ih hk.of_cons fun b hb c hc =>
      hp b (List.mem_cons_of_mem _ hb) c (List.mem_cons_of_mem _ hc)
    by_cases ha : p a
    · have hzero : rows.countP p = 0 := by
        rw [List.countP_eq_zero]
        intro b hb
        have hne := List.rel_of_pairwise_cons hk hb
        simp only [decide_eq_true_eq]
        exact fun hpb => hne (hp a List.mem_cons_self b (List.mem_cons_of_mem _ hb) ha hpb)
      simp [hzero, ha]
    · simpa [List.countP_cons, ha] using hrest

/-- A condition that fixes a key hits at most one row. -/
theorem Table.countP_key_le_one (t : Table α) {p : α → Prop} [DecidablePred p] (k : κ)
    (hp : ∀ a, p a → Keyed.key a = k) : t.rows.countP p ≤ 1 :=
  countP_le_one_of_unique t.keyed fun a _ b _ ha hb => Or.inl ((hp a ha).trans (hp b hb).symm)

omit [Keyed α κ] in
theorem countP_congr_prop {rows : List α} {p q : α → Prop} [DecidablePred p] [DecidablePred q]
    (h : ∀ a ∈ rows, p a ↔ q a) : rows.countP p = rows.countP q :=
  List.countP_congr fun a ha => by rw [decide_eq_true_iff, decide_eq_true_iff, h a ha]

theorem countP_pos_iff_exists {rows : List α} {p : α → Prop} [DecidablePred p] :
    0 < rows.countP p ↔ ∃ a ∈ rows, p a := by
  simp [List.countP_pos_iff]

/-- A condition that only conflicting rows share hits exactly one row iff some row meets it. -/
theorem countP_eq_one_iff_of_unique {rows : List α} (hk : KeyedRows rows) {p : α → Prop}
    [DecidablePred p] (hp : ∀ a ∈ rows, ∀ b ∈ rows, p a → p b → Conflict a b) :
    rows.countP p = 1 ↔ ∃ a ∈ rows, p a := by
  have hle := countP_le_one_of_unique hk hp
  have hpos : 0 < rows.countP p ↔ ∃ a ∈ rows, p a := countP_pos_iff_exists
  rw [← hpos]
  omega

/-- A condition that fixes a key hits exactly one row iff some row meets it. -/
theorem Table.countP_eq_one_iff (t : Table α) {p : α → Prop} [DecidablePred p] (k : κ)
    (hp : ∀ a, p a → Keyed.key a = k) : t.rows.countP p = 1 ↔ ∃ a ∈ t.rows, p a :=
  countP_eq_one_iff_of_unique t.keyed fun a _ b _ ha hb => Or.inl ((hp a ha).trans (hp b hb).symm)

/-- A condition that fixes a key selects the one row that meets it. -/
theorem Table.filter_eq_singleton (t : Table α) {p : α → Prop} [DecidablePred p] (k : κ)
    (hp : ∀ a, p a → Keyed.key a = k) {a : α} (ha : a ∈ t.rows) (hpa : p a) :
    t.rows.filter (fun b => p b) = [a] := by
  have hlen : (t.rows.filter fun b => p b).length = 1 := by
    rw [← List.countP_eq_length_filter]
    exact (t.countP_eq_one_iff k hp).mpr ⟨a, ha, hpa⟩
  obtain ⟨b, hb⟩ := List.length_eq_one_iff.mp hlen
  have hmem : a ∈ t.rows.filter fun b => p b := List.mem_filter.mpr ⟨ha, by simpa using hpa⟩
  rw [hb, List.mem_singleton] at hmem
  rw [hb, hmem]

/-! ## Writes -/

/-- The rows after `UPDATE … SET set WHERE hit`. -/
def updateWhere (hit : α → Prop) [DecidablePred hit] (set : α → α) (rows : List α) : List α :=
  rows.map fun row => if hit row then set row else row

/-- The rows after `DELETE … WHERE hit`. -/
def deleteWhere (hit : α → Prop) [DecidablePred hit] (rows : List α) : List α :=
  rows.filter fun row => ¬ hit row

/-- The rows after `INSERT OR IGNORE` of one row. -/
def insertUnlessConflict (rows : List α) (new : α) : List α :=
  if ∃ row ∈ rows, Conflict row new then rows else rows ++ [new]

/-- The rows after `INSERT … ON CONFLICT (key) DO UPDATE` of one row, and the rows it wrote:
`onConflict old new` is what becomes of `old`, or `none` when the WHERE of the update refuses. -/
def upsert (onConflict : α → α → Option α) (rows : List α) (new : α) : List α × List α :=
  match rows.find? (fun row => Keyed.key row = Keyed.key new) with
  | none => (rows ++ [new], [new])
  | some old =>
    match onConflict old new with
    | none => (rows, [])
    | some row => (updateWhere (fun r => Keyed.key r = Keyed.key new) (fun _ => row) rows, [row])

section Writes

variable {hit : α → Prop} [DecidablePred hit] {set : α → α} {rows : List α}

omit [Keyed α κ] in
theorem mem_updateWhere {b : α} :
    b ∈ updateWhere hit set rows ↔ ∃ a ∈ rows, b = if hit a then set a else a := by
  simp only [updateWhere, List.mem_map, eq_comm]

omit [Keyed α κ] in
/-- A row of an updated table is an old row or the update of one that was hit. -/
theorem mem_updateWhere_cases {b : α} (h : b ∈ updateWhere hit set rows) :
    (b ∈ rows ∧ ¬ hit b) ∨ ∃ a ∈ rows, hit a ∧ b = set a := by
  obtain ⟨a, ha, rfl⟩ := mem_updateWhere.mp h
  by_cases hh : hit a
  · exact Or.inr ⟨a, ha, hh, if_pos hh⟩
  · rw [if_neg hh]; exact Or.inl ⟨ha, hh⟩

omit [Keyed α κ] in
theorem mem_updateWhere_of_hit {a : α} (ha : a ∈ rows) (hh : hit a) :
    set a ∈ updateWhere hit set rows :=
  mem_updateWhere.mpr ⟨a, ha, (if_pos hh).symm⟩

omit [Keyed α κ] in
theorem mem_updateWhere_of_not_hit {a : α} (ha : a ∈ rows) (hh : ¬ hit a) :
    a ∈ updateWhere hit set rows :=
  mem_updateWhere.mpr ⟨a, ha, (if_neg hh).symm⟩

omit [Keyed α κ] in
/-- An update that hits nothing changes nothing. -/
theorem updateWhere_eq_self (h : ∀ a ∈ rows, ¬ hit a) : updateWhere hit set rows = rows :=
  (List.map_congr_left fun a ha => if_neg (h a ha)).trans (List.map_id _)

omit [Keyed α κ] in
theorem updateWhere_congr {hit' : α → Prop} [DecidablePred hit']
    (h : ∀ a ∈ rows, hit a ↔ hit' a) : updateWhere hit set rows = updateWhere hit' set rows :=
  List.map_congr_left fun a ha => by simp only [h a ha]

omit [Keyed α κ] in
/-- Where only `old` is hit, it does not matter that the update is computed from `old`. -/
theorem updateWhere_only {hit' : α → Prop} [DecidablePred hit'] {old : α}
    (h : ∀ a ∈ rows, hit a ↔ hit' a) (honly : ∀ a ∈ rows, hit a → a = old) :
    updateWhere hit (fun _ => set old) rows = updateWhere hit' set rows :=
  List.map_congr_left fun a ha => by
    by_cases hh : hit a
    · rw [if_pos hh, if_pos ((h a ha).mp hh), honly a ha hh]
    · rw [if_neg hh, if_neg fun hh' => hh ((h a ha).mpr hh')]

/-- An update whose condition fixes the key and meets a row is the update of that key. -/
theorem Table.updateWhere_key (t : Table α) (k : κ) [DecidablePred fun a : α => Keyed.key a = k]
    (hkey : ∀ a, hit a → Keyed.key a = k) {a : α} (ha : a ∈ t.rows) (hh : hit a) :
    updateWhere hit set t.rows = updateWhere (fun b => Keyed.key b = k) set t.rows :=
  updateWhere_congr fun b hb => ⟨hkey b, fun h => by
    rwa [t.eq_of_key hb ha (h.trans (hkey a hh).symm)]⟩

omit [Keyed α κ] in
theorem updateWhere_append {rows' : List α} :
    updateWhere hit set (rows ++ rows') = updateWhere hit set rows ++ updateWhere hit set rows' :=
  List.map_append

omit [Keyed α κ] in
/-- An update of the rows the one before it hit is one update. -/
theorem updateWhere_updateWhere {hit' : α → Prop} [DecidablePred hit'] {set' : α → α}
    (hhit : ∀ a ∈ rows, hit a → hit' (set a)) (hmiss : ∀ a ∈ rows, ¬ hit a → ¬ hit' a) :
    updateWhere hit' set' (updateWhere hit set rows) =
      updateWhere hit (fun a => set' (set a)) rows := by
  unfold updateWhere
  rw [List.map_map]
  refine List.map_congr_left fun a ha => ?_
  by_cases h : hit a
  · simp only [Function.comp_apply, if_pos h, if_pos (hhit a ha h)]
  · simp only [Function.comp_apply, if_neg h, if_neg (hmiss a ha h)]

omit [Keyed α κ] in
theorem deleteWhere_congr {hit' : α → Prop} [DecidablePred hit']
    (h : ∀ a ∈ rows, hit a ↔ hit' a) : deleteWhere hit rows = deleteWhere hit' rows :=
  List.filter_congr fun a ha => by simp only [h a ha]

omit [Keyed α κ] in
/-- A deletion that hits nothing changes nothing. -/
theorem deleteWhere_eq_self (h : ∀ a ∈ rows, ¬ hit a) : deleteWhere hit rows = rows :=
  List.filter_eq_self.mpr fun a ha => by simpa using h a ha

omit [Keyed α κ] in
theorem mem_deleteWhere {a : α} : a ∈ deleteWhere hit rows ↔ a ∈ rows ∧ ¬ hit a := by
  simp [deleteWhere]

omit [Keyed α κ] in
/-- Inserted rows are not seen by who selects other rows. -/
theorem filter_append_other {p : α → Prop} [DecidablePred p] {new : List α}
    (h : ∀ a ∈ new, ¬ p a) :
    (rows ++ new).filter (fun a => p a) = rows.filter fun a => p a := by
  have hnone : new.filter (fun a => p a) = [] :=
    List.filter_eq_nil_iff.mpr fun a ha => by simpa using h a ha
  rw [List.filter_append, hnone, List.append_nil]

omit [Keyed α κ] in
/-- A deletion is not seen by who selects other rows. -/
theorem filter_deleteWhere {p : α → Prop} [DecidablePred p] (h : ∀ a ∈ rows, p a → ¬ hit a) :
    (deleteWhere hit rows).filter (fun a => p a) = rows.filter fun a => p a := by
  rw [deleteWhere, List.filter_filter]
  refine List.filter_congr fun a ha => ?_
  by_cases hp : p a
  · simp [hp, h a ha hp]
  · simp [hp]

omit [Keyed α κ] in
/-- An update is not seen by who selects other rows. -/
theorem filter_updateWhere {p : α → Prop} [DecidablePred p] (h : ∀ a ∈ rows, p a → ¬ hit a)
    (hset : ∀ a ∈ rows, hit a → ¬ p (set a)) :
    (updateWhere hit set rows).filter (fun a => p a) = rows.filter fun a => p a := by
  induction rows with
  | nil => rfl
  | cons a rows ih =>
    have hrest := ih (fun b hb => h b (List.mem_cons_of_mem _ hb))
      fun b hb => hset b (List.mem_cons_of_mem _ hb)
    simp only [updateWhere] at hrest
    by_cases hh : hit a
    · have hp : ¬ p a := fun hp => h a List.mem_cons_self hp hh
      simp [updateWhere, hh, hp, hset a List.mem_cons_self hh, hrest]
    · simp [updateWhere, hh, List.filter_cons, hrest]

omit [Keyed α κ] in
/-- Rows that are updated and then deleted are deleted. -/
theorem deleteWhere_updateWhere (hset : ∀ a ∈ rows, hit a → hit (set a)) :
    deleteWhere hit (updateWhere hit set rows) = deleteWhere hit rows := by
  induction rows with
  | nil => rfl
  | cons a rows ih =>
    have hrest := ih fun b hb => hset b (List.mem_cons_of_mem _ hb)
    simp only [deleteWhere, updateWhere, decide_not] at hrest
    by_cases ha : hit a
    · simp [deleteWhere, updateWhere, ha, hset a List.mem_cons_self ha, hrest]
    · simp [deleteWhere, updateWhere, ha, hrest]

/-- An update that moves no key keeps the rows free of conflicts. -/
theorem updateWhere_keyed (hk : KeyedRows rows)
    (hset : ∀ a ∈ rows, ∀ b ∈ rows, Conflict (if hit a then set a else a)
      (if hit b then set b else b) → Conflict a b) : KeyedRows (updateWhere hit set rows) := by
  unfold KeyedRows updateWhere
  rw [List.pairwise_map]
  exact hk.imp_of_mem fun ha hb hn hc => hn (hset _ ha _ hb hc)

/-- `b` has every declared key of `a`. -/
def SameKeys (a b : α) : Prop :=
  Keyed.key b = Keyed.key a ∧ ∀ c, Keyed.alternate b c → Keyed.alternate a c

theorem SameKeys.conflict {a b c : α} (hs : SameKeys a b) (h : Conflict b c) : Conflict a c :=
  h.imp (fun he => hs.1.symm.trans he) (hs.2 c)

/-- An update that leaves the keys of the rows it hits keeps the rows free of conflicts. -/
theorem updateWhere_keyed_of_sameKeys (hk : KeyedRows rows)
    (hset : ∀ a ∈ rows, hit a → SameKeys a (set a)) : KeyedRows (updateWhere hit set rows) := by
  refine updateWhere_keyed hk fun a ha b hb hc => ?_
  have hleft : Conflict a (if hit b then set b else b) := by
    split at hc
    · rename_i hh
      exact (hset a ha hh).conflict hc
    · exact hc
  split at hleft
  · rename_i hh
    exact ((hset b hb hh).conflict hleft.symm).symm
  · exact hleft

/-- An update that leaves every declared key of a row as it was. -/
def KeepsKeys (set : α → α) : Prop := ∀ a, SameKeys a (set a)

theorem deleteWhere_keyed (hk : KeyedRows rows) : KeyedRows (deleteWhere hit rows) :=
  hk.filter _

end Writes

section Insert

variable {rows : List α} {new : α}

theorem mem_insertUnlessConflict {a : α} (h : a ∈ insertUnlessConflict rows new) :
    a ∈ rows ∨ a = new := by
  unfold insertUnlessConflict at h
  split at h
  · exact Or.inl h
  · simpa using h

theorem mem_insertUnlessConflict_of_mem {a : α} (h : a ∈ rows) :
    a ∈ insertUnlessConflict rows new := by
  unfold insertUnlessConflict
  split
  · exact h
  · exact List.mem_append_left _ h

theorem append_keyed_iff : KeyedRows (rows ++ [new]) ↔
    KeyedRows rows ∧ ∀ a ∈ rows, ¬ Conflict a new := by
  simp [KeyedRows, List.pairwise_append]

/-- An upsert inserts a new key, or updates the one row that has it, or is refused by the WHERE
of its update and does nothing. -/
theorem upsert_cases (onConflict : α → α → Option α) (rows : List α) (new : α) :
    ((∀ a ∈ rows, Keyed.key a ≠ Keyed.key new) ∧
      upsert onConflict rows new = (rows ++ [new], [new])) ∨
    ∃ old ∈ rows, Keyed.key old = Keyed.key new ∧
      (onConflict old new = none ∧ upsert onConflict rows new = (rows, []) ∨
      ∃ row, onConflict old new = some row ∧ upsert onConflict rows new =
        (updateWhere (fun r => Keyed.key r = Keyed.key new) (fun _ => row) rows, [row])) := by
  unfold upsert
  split
  · rename_i hnone
    exact Or.inl ⟨by simpa using hnone, rfl⟩
  · rename_i old hsome
    refine Or.inr ⟨old, List.mem_of_find?_eq_some hsome, by simpa using List.find?_some hsome, ?_⟩
    cases onConflict old new with
    | none => exact Or.inl ⟨rfl, rfl⟩
    | some row => exact Or.inr ⟨row, rfl, rfl⟩

/-- The rows of an upsert that updates: those of other keys, and the new image. -/
theorem mem_upsert_update {row a : α}
    (h : a ∈ updateWhere (fun r => Keyed.key r = Keyed.key new) (fun _ => row) rows) :
    (a ∈ rows ∧ Keyed.key a ≠ Keyed.key new) ∨ a = row := by
  rcases mem_updateWhere_cases h with hmiss | ⟨-, -, -, rfl⟩
  · exact Or.inl hmiss
  · exact Or.inr rfl

/-- An upsert that keeps the key drops none. -/
theorem upsert_update_key {row a : α} (ha : a ∈ rows) (hrow : Keyed.key row = Keyed.key new) :
    ∃ b ∈ updateWhere (fun r => Keyed.key r = Keyed.key new) (fun _ => row) rows,
      Keyed.key b = Keyed.key a := by
  by_cases h : Keyed.key a = Keyed.key new
  · exact ⟨row, mem_updateWhere.mpr ⟨a, ha, (if_pos h).symm⟩, hrow.trans h.symm⟩
  · exact ⟨a, mem_updateWhere.mpr ⟨a, ha, (if_neg h).symm⟩, rfl⟩

theorem insertUnlessConflict_keyed (hk : KeyedRows rows) :
    KeyedRows (insertUnlessConflict rows new) := by
  unfold insertUnlessConflict
  split
  · exact hk
  · rename_i h
    push Not at h
    exact append_keyed_iff.mpr ⟨hk, h⟩

end Insert

end Relational
