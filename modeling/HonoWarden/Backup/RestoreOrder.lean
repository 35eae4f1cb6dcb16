import HonoWarden.Graph.Worklist

/-!
# The order tables are restored in

Model of `orderTablesForRestore` (`scripts/honowarden-backup.mjs`). How names are folded
(`toLowerCase`) and what `PRAGMA foreign_key_list` returns are parameters; the column `table` of the
pragma is a text, so the check of its type passes. A `Map` of sets is a function to lists without
repetition, in the order of insertion.

Results:
* `foreignKeyMaps_ok`, `foreignKeyMaps_error`: what the foreign keys are collected to;
* **`orderTablesForRestore_loadOrder`**: each table once, after the tables it references unless a
  cycle stands in the way, and an error where a table is missing.
-/

namespace HonoWarden

open Graph

/-! ## The code -/

/-- A table of `readRestorableSchemaEntries`. -/
structure TableEntry where
  name : String
  sql : String
  deriving DecidableEq, Repr

/-- `dependencies` and `dependents`. -/
structure ForeignKeyMaps where
  dependencies : String → List String
  dependents : String → List String

/-- `set.add(key)`. -/
def addToSet (key : String) (set : List String) : List String :=
  if key ∈ set then set else set ++ [key]

def missingForeignKeyTable : String := "D1 export references a missing foreign-key table"

section Code

variable (normalizeSqliteName : String → String) (foreignKeyList : String → List String)

/-- The keys of tables. -/
abbrev tableKeys (tableEntries : List TableEntry) : List String :=
  tableEntries.map fun entry => normalizeSqliteName entry.name

/-- `byKey.get(key)`: of entries with one key, the last. -/
def byKey (tableEntries : List TableEntry) (key : String) : Option TableEntry :=
  tableEntries.reverse.find? fun entry => normalizeSqliteName entry.name = key

/-- One foreign key of `child`. -/
def addForeignKey (keys : List String) (child : String) (maps : ForeignKeyMaps) (table : String) :
    Except String ForeignKeyMaps :=
  let parent := normalizeSqliteName table
  if parent = child then .ok maps
  else if parent ∉ keys then .error missingForeignKeyTable
  else .ok
    { dependencies := Function.update maps.dependencies child
        (addToSet parent (maps.dependencies child))
      dependents := Function.update maps.dependents parent
        (addToSet child (maps.dependents parent)) }

/-- The foreign keys of all tables. -/
def foreignKeyMaps (keys : List String) (tableEntries : List TableEntry) :
    Except String ForeignKeyMaps :=
  tableEntries.foldlM (fun maps entry => (foreignKeyList entry.name).foldlM
    (addForeignKey normalizeSqliteName keys (normalizeSqliteName entry.name)) maps)
    { dependencies := fun _ => [], dependents := fun _ => [] }

/-- `orderTablesForRestore`. `ordered` is kept as the keys `emitted`, in their order. -/
def orderTablesForRestore (tableEntries : List TableEntry) : Except String (List TableEntry) := do
  let keys := tableKeys normalizeSqliteName tableEntries
  let maps ← foreignKeyMaps normalizeSqliteName foreignKeyList keys tableEntries
  -- the loop ends when `ready` is empty, which so many steps suffice for
  let emitted := (run maps.dependents (keys.length + edgeCount maps.dependents keys)
    (start maps.dependencies keys)).emitted
  return emitted.filterMap (byKey normalizeSqliteName tableEntries) ++
    tableEntries.filter fun entry => normalizeSqliteName entry.name ∉ emitted

end Code

/-! ## The foreign keys -/

section ForeignKeys

variable {normalizeSqliteName : String → String} {foreignKeyList : String → List String}
  {keys : List String} {child : String} {maps : ForeignKeyMaps} {R : String → String → Prop}

variable (normalizeSqliteName foreignKeyList) in
/-- `child` has a foreign key to `parent`, another table. -/
def References (tableEntries : List TableEntry) (child parent : String) : Prop :=
  parent ≠ child ∧ ∃ entry ∈ tableEntries, normalizeSqliteName entry.name = child ∧
    ∃ table ∈ foreignKeyList entry.name, normalizeSqliteName table = parent

/-- The maps have the pairs of a relation, both ways. -/
structure ForeignKeyMaps.Holds (maps : ForeignKeyMaps) (R : String → String → Prop) : Prop where
  dependencies : ∀ c p, p ∈ maps.dependencies c ↔ R c p
  dependents : ∀ c p, c ∈ maps.dependents p ↔ R c p

theorem mem_addToSet {key k : String} {set : List String} :
    k ∈ addToSet key set ↔ k ∈ set ∨ k = key := by
  unfold addToSet
  split_ifs with hmem
  · exact (or_iff_left_of_imp fun heq => heq ▸ hmem).symm
  · rw [List.mem_append, List.mem_singleton]

theorem mem_update_addToSet {f : String → List String} {a b c d : String} :
    d ∈ Function.update f a (addToSet b (f a)) c ↔ d ∈ f c ∨ c = a ∧ d = b := by
  by_cases hc : c = a
  · rw [hc, Function.update_self, mem_addToSet, eq_self_iff_true, true_and]
  · rw [Function.update_of_ne hc]
    exact (or_iff_left fun h => hc h.1).symm

/-- A foreign key to a table that is there is added. -/
theorem addForeignKey_ok (h : maps.Holds R) {table : String}
    (htable : normalizeSqliteName table = child ∨ normalizeSqliteName table ∈ keys) :
    ∃ maps', addForeignKey normalizeSqliteName keys child maps table = .ok maps' ∧
      maps'.Holds fun c p => R c p ∨ c = child ∧ p ≠ child ∧ normalizeSqliteName table = p := by
  unfold addForeignKey
  dsimp only
  by_cases hself : normalizeSqliteName table = child
  · rw [if_pos hself]
    refine ⟨maps, rfl, fun c p => ?_, fun c p => ?_⟩
    · rw [h.dependencies]
      exact (or_iff_left fun hp => hp.2.1 (hp.2.2.symm.trans hself)).symm
    · rw [h.dependents]
      exact (or_iff_left fun hp => hp.2.1 (hp.2.2.symm.trans hself)).symm
  · rw [if_neg hself, if_neg (not_not.mpr (htable.resolve_left hself))]
    refine ⟨_, rfl, fun c p => ?_, fun c p => ?_⟩
    · rw [mem_update_addToSet, h.dependencies]
      refine or_congr_right (and_congr_right fun _ => ?_)
      exact ⟨fun heq => ⟨heq ▸ hself, heq.symm⟩, fun hp => hp.2.symm⟩
    · rw [mem_update_addToSet, h.dependents]
      refine or_congr_right ⟨fun hp => ?_, fun hp => ⟨hp.2.2.symm, hp.1⟩⟩
      exact ⟨hp.2, hp.1 ▸ hself, hp.1.symm⟩

/-- The only error is that of a table that is missing. -/
theorem error_addForeignKey {table message : String}
    (h : addForeignKey normalizeSqliteName keys child maps table = .error message) :
    message = missingForeignKeyTable := by
  unfold addForeignKey at h
  dsimp only at h
  split_ifs at h
  exact (Except.error.inj h).symm

theorem error_addForeignKeys (tables : List String) :
    ∀ {maps : ForeignKeyMaps} {message : String},
      tables.foldlM (addForeignKey normalizeSqliteName keys child) maps = .error message →
        message = missingForeignKeyTable := by
  induction tables with
  | nil =>
    intro maps message h
    cases h
  | cons table tables ih =>
    intro maps message h
    rw [List.foldlM_cons] at h
    cases hadd : addForeignKey normalizeSqliteName keys child maps table with
    | error found =>
      rw [hadd] at h
      obtain rfl := Except.error.inj h
      exact error_addForeignKey hadd
    | ok maps' =>
      rw [hadd] at h
      exact ih h

/-- The foreign keys of a table, all of them to tables that are there, are added. -/
theorem addForeignKeys_ok (tables : List String) :
    ∀ {maps : ForeignKeyMaps} {R : String → String → Prop}, maps.Holds R →
      (∀ t ∈ tables, normalizeSqliteName t = child ∨ normalizeSqliteName t ∈ keys) →
      ∃ maps', tables.foldlM (addForeignKey normalizeSqliteName keys child) maps = .ok maps' ∧
        maps'.Holds fun c p => R c p ∨ c = child ∧ p ≠ child ∧
          ∃ t ∈ tables, normalizeSqliteName t = p := by
  induction tables with
  | nil =>
    intro maps R h _
    refine ⟨maps, rfl, fun c p => ?_, fun c p => ?_⟩
    · rw [h.dependencies]
      simp
    · rw [h.dependents]
      simp
  | cons table tables ih =>
    intro maps R h htables
    obtain ⟨maps', hadd, h'⟩ := addForeignKey_ok h (htables table List.mem_cons_self)
    obtain ⟨maps'', hrest, h''⟩ := ih h' fun t ht => htables t (List.mem_cons_of_mem _ ht)
    refine ⟨maps'', by rw [List.foldlM_cons, hadd]; exact hrest, fun c p => ?_, fun c p => ?_⟩
    · rw [h''.dependencies]
      simp only [List.mem_cons, exists_eq_or_imp]
      tauto
    · rw [h''.dependents]
      simp only [List.mem_cons, exists_eq_or_imp]
      tauto

theorem addForeignKeys_error (tables : List String) : ∀ {maps : ForeignKeyMaps},
    (∃ t ∈ tables, normalizeSqliteName t ≠ child ∧ normalizeSqliteName t ∉ keys) →
      tables.foldlM (addForeignKey normalizeSqliteName keys child) maps =
        .error missingForeignKeyTable := by
  induction tables with
  | nil =>
    rintro maps ⟨t, ht, -⟩
    exact absurd ht List.not_mem_nil
  | cons table tables ih =>
    rintro maps ⟨t, ht, hself, hmissing⟩
    rw [List.foldlM_cons]
    cases hadd : addForeignKey normalizeSqliteName keys child maps table with
    | error message =>
      rw [error_addForeignKey hadd]
      rfl
    | ok maps' =>
      rcases List.mem_cons.mp ht with rfl | hrest
      · unfold addForeignKey at hadd
        dsimp only at hadd
        rw [if_neg hself, if_pos hmissing] at hadd
        cases hadd
      · exact ih ⟨t, hrest, hself, hmissing⟩

end ForeignKeys

/-! ## All tables -/

section Tables

variable {normalizeSqliteName : String → String} {foreignKeyList : String → List String}

/-- What the foreign keys of some tables are collected to, from maps of others. -/
theorem foldForeignKeys_ok {keys : List String} (tableEntries : List TableEntry) :
    ∀ {maps : ForeignKeyMaps} {R : String → String → Prop}, maps.Holds R →
      (∀ entry ∈ tableEntries, ∀ t ∈ foreignKeyList entry.name, normalizeSqliteName t ∈ keys) →
      ∃ maps', tableEntries.foldlM (fun maps entry => (foreignKeyList entry.name).foldlM
          (addForeignKey normalizeSqliteName keys (normalizeSqliteName entry.name)) maps) maps =
            .ok maps' ∧
        maps'.Holds fun c p =>
          R c p ∨ References normalizeSqliteName foreignKeyList tableEntries c p := by
  induction tableEntries with
  | nil =>
    intro maps R h _
    refine ⟨maps, rfl, fun c p => ?_, fun c p => ?_⟩
    · rw [h.dependencies]
      simp [References]
    · rw [h.dependents]
      simp [References]
  | cons entry tableEntries ih =>
    intro maps R h hin
    obtain ⟨maps', hadd, h'⟩ := @addForeignKeys_ok _ _ (normalizeSqliteName entry.name)
      (foreignKeyList entry.name) _ _ h fun t ht => Or.inr (hin entry List.mem_cons_self t ht)
    obtain ⟨maps'', hrest, h''⟩ := ih h' fun e he => hin e (List.mem_cons_of_mem _ he)
    have hsame (c p : String) : (R c p ∨ c = normalizeSqliteName entry.name ∧
        p ≠ normalizeSqliteName entry.name ∧
        ∃ t ∈ foreignKeyList entry.name, normalizeSqliteName t = p) ∨
        References normalizeSqliteName foreignKeyList tableEntries c p ↔
        R c p ∨ References normalizeSqliteName foreignKeyList (entry :: tableEntries) c p := by
      unfold References
      simp only [List.mem_cons, exists_eq_or_imp]
      rw [or_assoc]
      refine or_congr_right ⟨?_, ?_⟩
      · rintro (⟨rfl, hne, ht⟩ | ⟨hne, hrest⟩)
        · exact ⟨hne, Or.inl ⟨rfl, ht⟩⟩
        · exact ⟨hne, Or.inr hrest⟩
      · rintro ⟨hne, ⟨rfl, ht⟩ | hrest⟩
        · exact Or.inl ⟨rfl, hne, ht⟩
        · exact Or.inr ⟨hne, hrest⟩
    refine ⟨maps'', by rw [List.foldlM_cons, hadd]; exact hrest, fun c p => ?_, fun c p => ?_⟩
    · rw [h''.dependencies, hsame]
    · rw [h''.dependents, hsame]

/-- **The maps have the references between different tables**, where no table is missing. -/
theorem foreignKeyMaps_ok {keys : List String} {tableEntries : List TableEntry}
    (hin : ∀ entry ∈ tableEntries, ∀ t ∈ foreignKeyList entry.name,
      normalizeSqliteName t ∈ keys) :
    ∃ maps, foreignKeyMaps normalizeSqliteName foreignKeyList keys tableEntries = .ok maps ∧
      maps.Holds (References normalizeSqliteName foreignKeyList tableEntries) := by
  have hempty : (⟨fun _ => [], fun _ => []⟩ : ForeignKeyMaps).Holds fun _ _ => False :=
    ⟨fun _ _ => by simp, fun _ _ => by simp⟩
  obtain ⟨maps, hmaps, h⟩ := foldForeignKeys_ok tableEntries hempty hin
  refine ⟨maps, hmaps, fun c p => ?_, fun c p => ?_⟩
  · rw [h.dependencies, false_or]
  · rw [h.dependents, false_or]

theorem foldForeignKeys_error {keys : List String} (tableEntries : List TableEntry)
    (hkeys : ∀ entry ∈ tableEntries, normalizeSqliteName entry.name ∈ keys) :
    ∀ {maps : ForeignKeyMaps}, (∃ entry ∈ tableEntries, ∃ t ∈ foreignKeyList entry.name,
        normalizeSqliteName t ∉ keys) →
      tableEntries.foldlM (fun maps entry => (foreignKeyList entry.name).foldlM
        (addForeignKey normalizeSqliteName keys (normalizeSqliteName entry.name)) maps) maps =
          .error missingForeignKeyTable := by
  induction tableEntries with
  | nil =>
    rintro maps ⟨entry, hentry, -⟩
    exact absurd hentry List.not_mem_nil
  | cons entry tableEntries ih =>
    rintro maps ⟨found, hfound, t, ht, hmissing⟩
    rw [List.foldlM_cons]
    cases hadd : (foreignKeyList entry.name).foldlM
        (addForeignKey normalizeSqliteName keys (normalizeSqliteName entry.name)) maps with
    | error message =>
      rw [error_addForeignKeys _ hadd]
      rfl
    | ok maps' =>
      rcases List.mem_cons.mp hfound with rfl | hrest
      · have hself : normalizeSqliteName t ≠ normalizeSqliteName found.name := fun heq =>
          hmissing (heq ▸ hkeys found List.mem_cons_self)
        rw [addForeignKeys_error _ ⟨t, ht, hself, hmissing⟩] at hadd
        cases hadd
      · exact ih (fun e he => hkeys e (List.mem_cons_of_mem _ he)) ⟨found, hrest, t, ht, hmissing⟩

/-- **A table that is missing is an error.** -/
theorem foreignKeyMaps_error {tableEntries : List TableEntry}
    (h : ∃ entry ∈ tableEntries, ∃ t ∈ foreignKeyList entry.name,
      normalizeSqliteName t ∉ tableKeys normalizeSqliteName tableEntries) :
    foreignKeyMaps normalizeSqliteName foreignKeyList
      (tableKeys normalizeSqliteName tableEntries) tableEntries =
        .error missingForeignKeyTable := by
  refine foldForeignKeys_error tableEntries (fun entry hentry => ?_) h
  exact List.mem_map.mpr ⟨entry, hentry, rfl⟩

/-! ## The order -/

variable {tableEntries : List TableEntry}

/-- With keys of their own, entries are found by their keys. -/
theorem byKey_eq (hkeys : (tableKeys normalizeSqliteName tableEntries).Nodup)
    {entry : TableEntry} (hentry : entry ∈ tableEntries) :
    byKey normalizeSqliteName tableEntries (normalizeSqliteName entry.name) = some entry := by
  unfold byKey
  cases hfind : tableEntries.reverse.find?
      fun found => normalizeSqliteName found.name = normalizeSqliteName entry.name with
  | none =>
    have hnone := List.find?_eq_none.mp hfind entry (List.mem_reverse.mpr hentry)
    exact absurd (decide_eq_true rfl) hnone
  | some found =>
    have hmem := List.mem_reverse.mp (List.mem_of_find?_eq_some hfind)
    have hkey : normalizeSqliteName found.name = normalizeSqliteName entry.name :=
      of_decide_eq_true (List.find?_some hfind :)
    rw [List.inj_on_of_nodup_map hkeys hmem hentry hkey]

theorem mem_of_byKey {key : String} {entry : TableEntry}
    (h : byKey normalizeSqliteName tableEntries key = some entry) :
    entry ∈ tableEntries ∧ normalizeSqliteName entry.name = key :=
  ⟨List.mem_reverse.mp (List.mem_of_find?_eq_some h), of_decide_eq_true (List.find?_some h :)⟩

/-- The entries of some keys have these keys. -/
theorem map_filterMap_byKey
    (hkeys : (tableKeys normalizeSqliteName tableEntries).Nodup)
    {emitted : List String}
    (hemitted : ∀ k ∈ emitted, k ∈ tableKeys normalizeSqliteName tableEntries) :
    (emitted.filterMap (byKey normalizeSqliteName tableEntries)).map
      (fun entry => normalizeSqliteName entry.name) = emitted := by
  induction emitted with
  | nil => rfl
  | cons key emitted ih =>
    obtain ⟨entry, hentry, rfl⟩ := List.mem_map.mp (hemitted key List.mem_cons_self)
    rw [List.filterMap_cons_some (byKey_eq hkeys hentry), List.map_cons,
      ih fun k hk => hemitted k (List.mem_cons_of_mem _ hk)]

variable {emitted : List String}

variable (normalizeSqliteName tableEntries emitted) in
/-- The tables of the keys that were emitted, and those that were not. -/
def emittedFirst : List TableEntry :=
  emitted.filterMap (byKey normalizeSqliteName tableEntries) ++
    tableEntries.filter fun entry => normalizeSqliteName entry.name ∉ emitted

/-- Each table is there once. -/
theorem emittedFirst_perm
    (hkeys : (tableKeys normalizeSqliteName tableEntries).Nodup)
    (hemitted : ∀ k ∈ emitted, k ∈ tableKeys normalizeSqliteName tableEntries)
    (hnodup : emitted.Nodup) :
    (emittedFirst normalizeSqliteName tableEntries emitted).Perm tableEntries := by
  have hfirst : (emitted.filterMap (byKey normalizeSqliteName tableEntries)).Nodup :=
    List.Nodup.of_map _ ((map_filterMap_byKey hkeys hemitted).symm ▸ hnodup)
  refine (List.perm_ext_iff_of_nodup ?_ (List.Nodup.of_map _ hkeys)).mpr fun entry => ?_
  · refine List.nodup_append.mpr ⟨hfirst, (List.Nodup.of_map _ hkeys).filter _, ?_⟩
    rintro a ha b hb rfl
    obtain ⟨key, hkey, hfound⟩ := List.mem_filterMap.mp ha
    refine of_decide_eq_true (List.mem_filter.mp hb).2 ?_
    rwa [(mem_of_byKey hfound).2]
  · rw [emittedFirst, List.mem_append, List.mem_filterMap, List.mem_filter, decide_eq_true_eq]
    constructor
    · rintro (⟨key, -, hfound⟩ | ⟨hentry, -⟩)
      · exact (mem_of_byKey hfound).1
      · exact hentry
    · intro hentry
      by_cases hmem : normalizeSqliteName entry.name ∈ emitted
      · exact Or.inl ⟨_, hmem, byKey_eq hkeys hentry⟩
      · exact Or.inr ⟨hentry, hmem⟩

/-- A table that was emitted stands behind those that were emitted before it. -/
theorem mem_before_of_emitted {R : String → String → Prop}
    (hkeys : (tableKeys normalizeSqliteName tableEntries).Nodup)
    (hemitted : ∀ k ∈ emitted, k ∈ tableKeys normalizeSqliteName tableEntries)
    (hordered : ∀ before k after, emitted = before ++ k :: after → ∀ p, R k p → p ∈ before)
    {before after : List TableEntry} {entry parent : TableEntry}
    (h : emittedFirst normalizeSqliteName tableEntries emitted = before ++ entry :: after)
    (hentry : normalizeSqliteName entry.name ∈ emitted) (hparent : parent ∈ tableEntries)
    (hR : R (normalizeSqliteName entry.name) (normalizeSqliteName parent.name)) :
    parent ∈ before := by
  have hmap := map_filterMap_byKey hkeys hemitted
  obtain ⟨rest, hfirst⟩ : ∃ rest, emitted.filterMap (byKey normalizeSqliteName tableEntries) =
      before ++ entry :: rest := by
    rcases List.append_eq_append_iff.mp h with ⟨front, hbefore, hlast⟩ | ⟨front, hbefore, hlast⟩
    · -- the table would stand among those that were not emitted
      have hmem : entry ∈ tableEntries.filter fun e => normalizeSqliteName e.name ∉ emitted := by
        rw [hlast]
        exact List.mem_append_right _ List.mem_cons_self
      exact absurd hentry (of_decide_eq_true (List.mem_filter.mp hmem).2)
    · cases front with
      | nil =>
        have hmem : entry ∈ tableEntries.filter fun e => normalizeSqliteName e.name ∉ emitted := by
          rw [List.nil_append] at hlast
          exact hlast ▸ List.mem_cons_self
        exact absurd hentry (of_decide_eq_true (List.mem_filter.mp hmem).2)
      | cons a front =>
        obtain ⟨rfl, -⟩ := List.cons.inj hlast
        exact ⟨front, hbefore⟩
  rw [hfirst, List.map_append, List.map_cons] at hmap
  obtain ⟨found, hfound, hkey⟩ := List.mem_map.mp (hordered _ _ _ hmap.symm _ hR)
  have hmem : found ∈ tableEntries := by
    have hin : found ∈ emitted.filterMap (byKey normalizeSqliteName tableEntries) := by
      rw [hfirst]
      exact List.mem_append_left _ hfound
    obtain ⟨key, -, hbyKey⟩ := List.mem_filterMap.mp hin
    exact (mem_of_byKey hbyKey).1
  rwa [← List.inj_on_of_nodup_map hkeys hmem hparent hkey]

end Tables

/-- **`orderTablesForRestore` is a load order.** It fails exactly where a table references one that
is not in the list. Otherwise it returns each table once, and a table from which no cycle of
several tables is reached comes after the other tables it references. -/
theorem orderTablesForRestore_loadOrder (normalizeSqliteName : String → String)
    (foreignKeyList : String → List String) (tableEntries : List TableEntry)
    (hkeys : (tableKeys normalizeSqliteName tableEntries).Nodup) :
    ((∃ message, orderTablesForRestore normalizeSqliteName foreignKeyList tableEntries =
        .error message) ↔
      ∃ entry ∈ tableEntries, ∃ table ∈ foreignKeyList entry.name, ∀ parent ∈ tableEntries,
        normalizeSqliteName parent.name ≠ normalizeSqliteName table) ∧
    ∀ ordered, orderTablesForRestore normalizeSqliteName foreignKeyList tableEntries =
        .ok ordered →
      ordered.Perm tableEntries ∧
      ∀ before entry after, ordered = before ++ entry :: after →
        ¬ ReachesCycle (References normalizeSqliteName foreignKeyList tableEntries)
          (normalizeSqliteName entry.name) →
        ∀ parent ∈ tableEntries, References normalizeSqliteName foreignKeyList tableEntries
          (normalizeSqliteName entry.name) (normalizeSqliteName parent.name) →
          parent ∈ before := by
  by_cases hmissing : ∃ entry ∈ tableEntries, ∃ t ∈ foreignKeyList entry.name,
      normalizeSqliteName t ∉ tableKeys normalizeSqliteName tableEntries
  · have herror : orderTablesForRestore normalizeSqliteName foreignKeyList tableEntries =
        .error missingForeignKeyTable := by
      unfold orderTablesForRestore
      dsimp only
      rw [foreignKeyMaps_error hmissing]
      rfl
    rw [herror]
    refine ⟨iff_of_true ⟨_, rfl⟩ ?_, fun ordered h => by cases h⟩
    obtain ⟨entry, hentry, t, ht, hnot⟩ := hmissing
    exact ⟨entry, hentry, t, ht, fun parent hparent heq =>
      hnot (List.mem_map.mpr ⟨parent, hparent, heq⟩)⟩
  have hin : ∀ entry ∈ tableEntries, ∀ t ∈ foreignKeyList entry.name, normalizeSqliteName t ∈
      tableKeys normalizeSqliteName tableEntries := by
    intro entry hentry t ht
    by_contra hnot
    exact hmissing ⟨entry, hentry, t, ht, hnot⟩
  obtain ⟨maps, hmaps, hholds⟩ := foreignKeyMaps_ok hin
  have hdescribes : Describes (References normalizeSqliteName foreignKeyList tableEntries)
      (tableKeys normalizeSqliteName tableEntries) maps.dependents := by
    refine ⟨hkeys, ?_, hholds.dependents⟩
    rintro c p ⟨-, entry, hentry, rfl, t, ht, rfl⟩
    exact ⟨List.mem_map.mpr ⟨entry, hentry, rfl⟩, hin entry hentry t ht⟩
  obtain ⟨hinv, hrest⟩ := ordered_run hdescribes hholds.dependencies le_rfl
  have hok : orderTablesForRestore normalizeSqliteName foreignKeyList tableEntries =
      .ok (emittedFirst normalizeSqliteName tableEntries (run maps.dependents
        ((tableKeys normalizeSqliteName tableEntries).length +
          edgeCount maps.dependents
            (tableKeys normalizeSqliteName tableEntries))
        (start maps.dependencies
          (tableKeys normalizeSqliteName tableEntries))).emitted) := by
    unfold orderTablesForRestore
    dsimp only
    rw [hmaps]
    rfl
  rw [hok]
  refine ⟨iff_of_false ?_ ?_, ?_⟩
  · rintro ⟨message, h⟩
    cases h
  · rintro ⟨entry, hentry, t, ht, hnone⟩
    obtain ⟨parent, hparent, heq⟩ := List.mem_map.mp (hin entry hentry t ht)
    exact hnone parent hparent heq
  · intro ordered h
    obtain rfl := Except.ok.inj h
    have hperm := emittedFirst_perm hkeys hinv.emitted hinv.nodup
    refine ⟨hperm, fun before entry after hsplit hacyclic parent hparent hreference => ?_⟩
    have hentry : entry ∈ tableEntries := by
      rw [← hperm.mem_iff, hsplit]
      exact List.mem_append_right _ List.mem_cons_self
    refine mem_before_of_emitted hkeys hinv.emitted hinv.ordered hsplit ?_ hparent hreference
    by_contra hnot
    exact hacyclic (hrest _ (List.mem_map.mpr ⟨entry, hentry, rfl⟩) hnot)

/-- Two tables that reference each other, one that references itself, and one that is free. -/
def sampleTables : List TableEntry :=
  [⟨"c", ""⟩, ⟨"a", ""⟩, ⟨"b", ""⟩, ⟨"d", ""⟩]

def sampleForeignKeys : String → List String
  | "a" => ["b", "c"]
  | "b" => ["a"]
  | "c" => ["c", "d"]
  | _ => []

theorem orderTablesForRestore_sample :
    orderTablesForRestore id sampleForeignKeys sampleTables =
        .ok [⟨"d", ""⟩, ⟨"c", ""⟩, ⟨"a", ""⟩, ⟨"b", ""⟩] ∧
      [⟨"d", ""⟩, ⟨"c", ""⟩, ⟨"a", ""⟩, ⟨"b", ""⟩].Perm sampleTables := by
  have hordered : orderTablesForRestore id sampleForeignKeys sampleTables =
      .ok [⟨"d", ""⟩, ⟨"c", ""⟩, ⟨"a", ""⟩, ⟨"b", ""⟩] := by
    decide +kernel
  exact ⟨hordered, ((orderTablesForRestore_loadOrder id sampleForeignKeys sampleTables
    (by decide)).2 _ hordered).1⟩

end HonoWarden
