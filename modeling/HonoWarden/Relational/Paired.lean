import HonoWarden.Relational.Batch
import Mathlib.Data.List.Forall2

/-!
# The same batch on two databases

Two databases are in a relation `R`, and one batch runs on both, each statement with parameters of
its own. When every statement comes to the same on related databases (`Statement.Alike`), so does
the batch. A statement on one table comes to the same when the rows of the table correspond one by
one (`TableIn.Corresponds`) and it hits corresponding rows.

Results:
* **`runFrom_alike`**, `commit_alike`, `execute_alike`: from the statements to the batch;
* `updateReturning_alike`, `deleteReturning_alike`, `insertSelect_alike`, `upsertRow_alike`, and
  the same with triggers: one lemma for each kind of statement.
-/

namespace Relational

variable {σ : Type}

/-- Both fail alike, or both succeed alike and leave related databases. -/
inductive Alike (R : σ → σ → Prop) {ρ : Type} :
    Except SqlError (σ × ρ) → Except SqlError (σ × ρ) → Prop where
  | ok {s s' : σ} (r : ρ) (h : R s s') : Alike R (.ok (s, r)) (.ok (s', r))
  | error (e : SqlError) : Alike R (.error e) (.error e)

/-- On related databases the two statements come to the same. -/
def Statement.Alike (R : σ → σ → Prop) (st st' : Statement σ) : Prop :=
  ∀ (s s' : σ) (n : Nat), R s s' → Relational.Alike R (st s n) (st' s' n)

section Batches

variable {R : σ → σ → Prop}

/-- **A batch comes to the same when its statements do.** -/
theorem runFrom_alike {batch batch' : List (Statement σ)}
    (h : List.Forall₂ (Statement.Alike R) batch batch') :
    ∀ {s s' : σ} {n : Nat}, R s s' → Alike R (runFrom batch s n) (runFrom batch' s' n) := by
  induction h with
  | nil => exact fun hs => .ok _ hs
  | @cons st st' rest rest' hst _ ih =>
    intro s s' n hs
    have hfirst := hst s s' n hs
    simp only [runFrom]
    generalize st s n = x at hfirst ⊢
    generalize st' s' n = y at hfirst ⊢
    cases hfirst with
    | error e => exact .error e
    | @ok t t' r ht =>
      have hrest := ih (n := r.changes) ht
      dsimp only
      generalize runFrom rest t r.changes = u at hrest ⊢
      generalize runFrom rest' t' r.changes = v at hrest ⊢
      cases hrest with
      | error e => exact .error e
      | ok rs hend => exact .ok _ hend

/-- **A client call comes to the same when its statements do.** -/
theorem commit_alike {α : Type} {batch batch' : List (Statement σ)}
    {interpret : List StatementResult → Except String α} {s s' : σ}
    (h : List.Forall₂ (Statement.Alike R) batch batch') (hs : R s s') :
    R (commit batch interpret s).1 (commit batch' interpret s').1 ∧
      (commit batch interpret s).2 = (commit batch' interpret s').2 := by
  have hrun := runFrom_alike h (n := 0) hs
  unfold commit runBatch
  generalize runFrom batch s 0 = x at hrun ⊢
  generalize runFrom batch' s' 0 = y at hrun ⊢
  cases hrun with
  | error e => exact ⟨hs, rfl⟩
  | ok rs hend =>
    dsimp only
    cases interpret rs with
    | ok a => exact ⟨hend, rfl⟩
    | error message => exact ⟨hend, rfl⟩

theorem execute_alike {α : Type} {st st' : Statement σ}
    {interpret : StatementResult → Except String α} {s s' : σ} (h : st.Alike R st') (hs : R s s') :
    R (execute st interpret s).1 (execute st' interpret s').1 ∧
      (execute st interpret s).2 = (execute st' interpret s').2 := by
  have hrun := h s s' 0 hs
  unfold execute
  generalize st s 0 = x at hrun ⊢
  generalize st' s' 0 = y at hrun ⊢
  cases hrun with
  | error e => exact ⟨hs, rfl⟩
  | ok r hend =>
    dsimp only
    cases interpret r with
    | ok a => exact ⟨hend, rfl⟩
    | error message => exact ⟨hend, rfl⟩

/-- Two triggers or foreign key actions that come to the same. -/
theorem fire_alike {action action' : σ → σ × Nat} {x y : Except SqlError (σ × StatementResult)}
    (haction : ∀ s s', R s s' → R (action s).1 (action' s').1 ∧ (action s).2 = (action' s').2)
    (h : Alike R x y) : Alike R (fire action x) (fire action' y) := by
  cases h with
  | error e => exact .error e
  | @ok s s' r hs =>
    obtain ⟨hR, hcount⟩ := haction s s' hs
    dsimp only [fire]
    rw [hcount]
    exact .ok _ hR

end Batches

/-! ## Corresponding rows -/

section Rows

variable {α : Type} {Q : α → α → Prop} {rows rows' : List α} {hit hit' : α → Prop}
  [DecidablePred hit] [DecidablePred hit']

theorem forall₂_filter (h : List.Forall₂ Q rows rows') (hhit : ∀ a a', Q a a' → (hit a ↔ hit' a')) :
    List.Forall₂ Q (rows.filter fun a => hit a) (rows'.filter fun a => hit' a) :=
  List.rel_filter (fun a a' hQ => by simpa using hhit a a' hQ) h

/-- The same, with what the rows that are kept have in common. -/
theorem forall₂_filter_hit (h : List.Forall₂ Q rows rows')
    (hhit : ∀ a a', Q a a' → (hit a ↔ hit' a')) :
    List.Forall₂ (fun a a' => Q a a' ∧ hit a) (rows.filter fun a => hit a)
      (rows'.filter fun a => hit' a) := by
  induction h with
  | nil => exact .nil
  | @cons a a' rows rows' hQ _ ih =>
    by_cases hit₁ : hit a
    · rw [List.filter_cons_of_pos (by simpa using hit₁),
        List.filter_cons_of_pos (by simpa using (hhit a a' hQ).mp hit₁)]
      exact .cons ⟨hQ, hit₁⟩ ih
    · rw [List.filter_cons_of_neg (by simpa using hit₁),
        List.filter_cons_of_neg (by simpa using fun h₂ => hit₁ ((hhit a a' hQ).mpr h₂))]
      exact ih

theorem countP_eq_of_forall₂ (h : List.Forall₂ Q rows rows')
    (hhit : ∀ a a', Q a a' → (hit a ↔ hit' a')) :
    rows.countP (fun a => hit a) = rows'.countP fun a => hit' a := by
  rw [List.countP_eq_length_filter, List.countP_eq_length_filter]
  exact (forall₂_filter h hhit).length_eq

theorem forall₂_updateWhere {set set' : α → α} (h : List.Forall₂ Q rows rows')
    (hhit : ∀ a a', Q a a' → (hit a ↔ hit' a'))
    (hset : ∀ a a', Q a a' → hit a → Q (set a) (set' a')) :
    List.Forall₂ Q (updateWhere hit set rows) (updateWhere hit' set' rows') := by
  refine List.rel_map (fun a a' hQ => ?_) h
  by_cases hit₁ : hit a
  · rw [if_pos hit₁, if_pos ((hhit a a' hQ).mp hit₁)]
    exact hset a a' hQ hit₁
  · rw [if_neg hit₁, if_neg fun hit₂ => hit₁ ((hhit a a' hQ).mpr hit₂)]
    exact hQ

theorem forall₂_deleteWhere (h : List.Forall₂ Q rows rows')
    (hhit : ∀ a a', Q a a' → (hit a ↔ hit' a')) :
    List.Forall₂ Q (deleteWhere hit rows) (deleteWhere hit' rows') :=
  List.rel_filter (fun a a' hQ => by simpa using not_congr (hhit a a' hQ)) h

theorem forall₂_with_mem (h : List.Forall₂ Q rows rows') :
    List.Forall₂ (fun a a' => Q a a' ∧ a ∈ rows ∧ a' ∈ rows') rows rows' := by
  induction h with
  | nil => exact .nil
  | cons hQ _ ih =>
    refine .cons ⟨hQ, List.mem_cons_self, List.mem_cons_self⟩ (ih.imp fun a a' h => ?_)
    exact ⟨h.1, List.mem_cons_of_mem _ h.2.1, List.mem_cons_of_mem _ h.2.2⟩

theorem exists_iff_of_forall₂ {P P' : α → Prop} (h : List.Forall₂ Q rows rows')
    (hP : ∀ a a', Q a a' → (P a ↔ P' a')) : (∃ a ∈ rows, P a) ↔ ∃ a' ∈ rows', P' a' := by
  induction h with
  | nil => simp
  | cons hQ _ ih => simp only [List.exists_mem_cons_iff, hP _ _ hQ, ih]

theorem flatMap_eq_of_forall₂ {β : Type} {f f' : α → List β} (h : List.Forall₂ Q rows rows')
    (hf : ∀ a a', Q a a' → f a = f' a') : rows.flatMap f = rows'.flatMap f' := by
  induction h with
  | nil => rfl
  | cons hQ _ ih => rw [List.flatMap_cons, List.flatMap_cons, hf _ _ hQ, ih]

theorem find?_rel_of_forall₂ {p p' : α → Bool} (h : List.Forall₂ Q rows rows')
    (hp : ∀ a a', Q a a' → p a = p' a') : Option.Rel Q (rows.find? p) (rows'.find? p') := by
  induction h with
  | nil => exact .none
  | @cons a a' rows rows' hQ _ ih =>
    rw [List.find?_cons, List.find?_cons, ← hp a a' hQ]
    cases p a with
    | true => exact .some hQ
    | false => exact ih

end Rows

/-! ## Statements on corresponding tables -/

variable {α κ : Type} [Keyed α κ]

/-- In related databases the rows of the table correspond one by one, and corresponding rows may be
written there; rows that correspond conflict alike. -/
structure TableIn.Corresponds (t : TableIn σ α) (R : σ → σ → Prop) (Q : α → α → Prop) : Prop where
  rows : ∀ {s s' : σ}, R s s' → List.Forall₂ Q (t.get s).rows (t.get s').rows
  put : ∀ {s s' : σ} {T T' : Table α}, R s s' → List.Forall₂ Q T.rows T'.rows →
    R (t.put s T) (t.put s' T')
  key : ∀ {a a' b b' : α}, Q a a' → Q b b' →
    (Keyed.key a = Keyed.key b ↔ Keyed.key a' = Keyed.key b')
  alternate : ∀ {a a' b b' : α}, Q a a' → Q b b' → (Keyed.alternate a b ↔ Keyed.alternate a' b')

namespace TableIn

variable {R : σ → σ → Prop} {Q : α → α → Prop} {t : TableIn σ α}

theorem Corresponds.keyed (h : t.Corresponds R Q) {rows rows' : List α}
    (hrows : List.Forall₂ Q rows rows') : KeyedRows rows ↔ KeyedRows rows' := by
  induction hrows with
  | nil => exact Iff.rfl
  | @cons a a' rows rows' hQ hrest ih =>
    have hhead : (∀ b ∈ rows, ¬ Conflict a b) ↔ ∀ b' ∈ rows', ¬ Conflict a' b' := by
      clear ih
      induction hrest with
      | nil => simp
      | cons hQ' _ ih' =>
        rw [List.forall_mem_cons, List.forall_mem_cons, ih']
        exact and_congr_left fun _ =>
          not_congr (or_congr (h.key hQ hQ') (h.alternate hQ hQ'))
    unfold KeyedRows at ih ⊢
    rw [List.pairwise_cons, List.pairwise_cons, hhead, ih]

theorem Corresponds.write_alike (h : t.Corresponds R Q) {s s' : σ} {rows rows' : List α}
    {r : StatementResult} (hs : R s s') (hrows : List.Forall₂ Q rows rows') :
    Alike R (t.write s rows r) (t.write s' rows' r) := by
  unfold write
  by_cases hk : KeyedRows rows
  · rw [dif_pos hk, dif_pos ((h.keyed hrows).mp hk)]
    exact .ok r (h.put hs hrows)
  · rw [dif_neg hk, dif_neg fun hk' => hk ((h.keyed hrows).mpr hk')]
    exact .error _

section Statements

variable {hit hit' : σ → Nat → α → Prop} [∀ s n, DecidablePred (hit s n)]
  [∀ s n, DecidablePred (hit' s n)] {set set' : σ → α → α} {returning : α → List (List Value)}

theorem Corresponds.updateReturning_alike (h : t.Corresponds R Q)
    (hhit : ∀ {s s' n a a'}, R s s' → Q a a' → (hit s n a ↔ hit' s' n a'))
    (hset : ∀ {s s' n a a'}, R s s' → Q a a' → hit s n a → Q (set s a) (set' s' a'))
    (hreturning : ∀ {s s' a a'}, R s s' → Q a a' →
      returning (set s a) = returning (set' s' a')) :
    Statement.Alike R (t.updateReturning hit set returning)
      (t.updateReturning hit' set' returning) := by
  intro s s' n hs
  have hrows := h.rows hs
  have hcount : (t.get s).rows.countP (fun a => hit s n a) =
      (t.get s').rows.countP fun a => hit' s' n a :=
    countP_eq_of_forall₂ hrows fun _ _ => hhit hs
  have hreturned : ((t.get s).rows.filter fun a => hit s n a).flatMap
        (fun a => returning (set s a)) =
      ((t.get s').rows.filter fun a => hit' s' n a).flatMap fun a => returning (set' s' a) :=
    flatMap_eq_of_forall₂ (forall₂_filter hrows fun _ _ => hhit hs) fun _ _ => hreturning hs
  unfold updateReturning
  rw [hcount, hreturned]
  exact h.write_alike hs (forall₂_updateWhere hrows (fun _ _ => hhit hs) fun _ _ => hset hs)

theorem Corresponds.update_alike (h : t.Corresponds R Q)
    (hhit : ∀ {s s' n a a'}, R s s' → Q a a' → (hit s n a ↔ hit' s' n a'))
    (hset : ∀ {s s' n a a'}, R s s' → Q a a' → hit s n a → Q (set s a) (set' s' a')) :
    Statement.Alike R (t.update hit set) (t.update hit' set') :=
  h.updateReturning_alike hhit hset fun _ _ => rfl

theorem Corresponds.nestedUpdate_alike (h : t.Corresponds R Q) {hit hit' : α → Prop}
    [DecidablePred hit] [DecidablePred hit'] {set set' : α → α} {s s' : σ} (hs : R s s')
    (hhit : ∀ a a', Q a a' → (hit a ↔ hit' a'))
    (hset : ∀ a a', Q a a' → hit a → Q (set a) (set' a')) :
    R (t.nestedUpdate hit set s).1 (t.nestedUpdate hit' set' s').1 ∧
      (t.nestedUpdate hit set s).2 = (t.nestedUpdate hit' set' s').2 := by
  have halike : Statement.Alike R (t.update (fun _ _ => hit) fun _ => set)
      (t.update (fun _ _ => hit') fun _ => set') :=
    h.update_alike (fun _ => hhit _ _) fun _ => hset _ _
  have hupdate := halike s s' 0 hs
  unfold nestedUpdate
  generalize t.update (fun _ _ => hit) (fun _ => set) s 0 = x at hupdate ⊢
  generalize t.update (fun _ _ => hit') (fun _ => set') s' 0 = y at hupdate ⊢
  cases hupdate with
  | error e => exact ⟨hs, rfl⟩
  | ok r hend => exact ⟨hend, rfl⟩

/-- Old and new images of corresponding rows. -/
abbrev ImagesRelated (Q : α → α → Prop) (images images' : List (α × α)) : Prop :=
  List.Forall₂ (fun image image' => Q image.1 image'.1 ∧ Q image.2 image'.2) images images'

theorem Corresponds.updateTriggering_alike (h : t.Corresponds R Q)
    {trigger : List (α × α) → σ → σ × Nat}
    (htrigger : ∀ {images images' s s'}, R s s' → ImagesRelated Q images images' →
      R (trigger images s).1 (trigger images' s').1 ∧
        (trigger images s).2 = (trigger images' s').2)
    (hhit : ∀ {s s' n a a'}, R s s' → Q a a' → (hit s n a ↔ hit' s' n a'))
    (hset : ∀ {s s' n a a'}, R s s' → Q a a' → hit s n a → Q (set s a) (set' s' a'))
    (hreturning : ∀ {s s' a a'}, R s s' → Q a a' →
      returning (set s a) = returning (set' s' a')) :
    Statement.Alike R (t.updateTriggering hit set returning trigger)
      (t.updateTriggering hit' set' returning trigger) := by
  intro s s' n hs
  have himages : ImagesRelated Q
      (((t.get s).rows.filter fun a => hit s n a).map fun a => (a, set s a))
      (((t.get s').rows.filter fun a => hit' s' n a).map fun a => (a, set' s' a)) := by
    refine List.rel_map (R := fun a a' => Q a a' ∧ hit s n a)
      (fun a a' hQ => ⟨hQ.1, hset hs hQ.1 hQ.2⟩) ?_
    exact forall₂_filter_hit (h.rows hs) fun _ _ => hhit hs
  exact fire_alike (fun _ _ hs' => htrigger hs' himages)
    (h.updateReturning_alike hhit hset hreturning s s' n hs)

theorem Corresponds.deleteReturning_alike (h : t.Corresponds R Q)
    (hhit : ∀ {s s' n a a'}, R s s' → Q a a' → (hit s n a ↔ hit' s' n a'))
    (hreturning : ∀ {a a'}, Q a a' → returning a = returning a') :
    Statement.Alike R (t.deleteReturning hit returning) (t.deleteReturning hit' returning) := by
  intro s s' n hs
  have hrows := h.rows hs
  have hfilter : List.Forall₂ Q ((t.get s).rows.filter fun a => hit s n a)
      ((t.get s').rows.filter fun a => hit' s' n a) :=
    forall₂_filter hrows fun _ _ => hhit hs
  have hcount : (t.get s).rows.countP (fun a => hit s n a) =
      (t.get s').rows.countP fun a => hit' s' n a :=
    countP_eq_of_forall₂ hrows fun _ _ => hhit hs
  have hreturned : ((t.get s).rows.filter fun a => hit s n a).flatMap returning =
      ((t.get s').rows.filter fun a => hit' s' n a).flatMap returning :=
    flatMap_eq_of_forall₂ hfilter fun _ _ => hreturning
  unfold deleteReturning
  rw [hcount, hreturned]
  exact h.write_alike hs (forall₂_deleteWhere hrows fun _ _ => hhit hs)

theorem Corresponds.deleteTriggering_alike (h : t.Corresponds R Q)
    {trigger : List α → σ → σ × Nat}
    (htrigger : ∀ {rows rows' s s'}, R s s' → List.Forall₂ Q rows rows' →
      R (trigger rows s).1 (trigger rows' s').1 ∧ (trigger rows s).2 = (trigger rows' s').2)
    (hhit : ∀ {s s' n a a'}, R s s' → Q a a' → (hit s n a ↔ hit' s' n a'))
    (hreturning : ∀ {a a'}, Q a a' → returning a = returning a') :
    Statement.Alike R (t.deleteTriggering hit returning trigger)
      (t.deleteTriggering hit' returning trigger) := by
  intro s s' n hs
  have hfilter : List.Forall₂ Q ((t.get s).rows.filter fun a => hit s n a)
      ((t.get s').rows.filter fun a => hit' s' n a) :=
    forall₂_filter (h.rows hs) fun _ _ => hhit hs
  exact fire_alike (fun _ _ hs' => htrigger hs' hfilter)
    (h.deleteReturning_alike hhit hreturning s s' n hs)

theorem Corresponds.insertSelect_alike (h : t.Corresponds R Q) {new new' : σ → Nat → List α}
    (hnew : ∀ {s s' n}, R s s' → List.Forall₂ Q (new s n) (new' s' n))
    (hreturning : ∀ {a a'}, Q a a' → returning a = returning a') :
    Statement.Alike R (t.insertSelect new returning) (t.insertSelect new' returning) := by
  intro s s' n hs
  have hrows := hnew (n := n) hs
  unfold insertSelect
  rw [hrows.length_eq, flatMap_eq_of_forall₂ hrows fun _ _ => hreturning]
  exact h.write_alike hs (List.rel_append (h.rows hs) hrows)

end Statements

section Upserts

variable {new new' : σ → Nat → Option α} {onConflict onConflict' : α → α → Option α}
  {returning : α → List (List Value)}

theorem Corresponds.find_key (h : t.Corresponds R Q) {s s' : σ} (hs : R s s') {row row' : α}
    (hrow : Q row row') :
    Option.Rel Q ((t.get s).rows.find? fun a => Keyed.key a = Keyed.key row)
      ((t.get s').rows.find? fun a => Keyed.key a = Keyed.key row') :=
  find?_rel_of_forall₂ (h.rows hs) fun _ _ hQ => decide_eq_decide.mpr (h.key hQ hrow)

theorem Corresponds.upsertRow_alike (h : t.Corresponds R Q)
    (hnew : ∀ {s s' n}, R s s' → Option.Rel Q (new s n) (new' s' n))
    (hconflict : ∀ {old old' row row'}, Q old old' → Q row row' →
      Option.Rel Q (onConflict old row) (onConflict' old' row'))
    (hreturning : ∀ {a a'}, Q a a' → returning a = returning a') :
    Statement.Alike R (t.upsertRow new onConflict returning)
      (t.upsertRow new' onConflict' returning) := by
  intro s s' n hs
  have hrow := hnew (n := n) hs
  unfold upsertRow
  generalize new s n = x at hrow ⊢
  generalize new' s' n = y at hrow ⊢
  cases hrow with
  | none => exact .ok _ hs
  | @some row row' hQ =>
    have hwritten : List.Forall₂ Q (upsert onConflict (t.get s).rows row).1
          (upsert onConflict' (t.get s').rows row').1 ∧
        List.Forall₂ Q (upsert onConflict (t.get s).rows row).2
          (upsert onConflict' (t.get s').rows row').2 := by
      have hfind := h.find_key hs hQ
      unfold upsert
      generalize (t.get s).rows.find? (fun a => Keyed.key a = Keyed.key row) = u at hfind ⊢
      generalize (t.get s').rows.find? (fun a => Keyed.key a = Keyed.key row') = v at hfind ⊢
      cases hfind with
      | none => exact ⟨List.rel_append (h.rows hs) (.cons hQ .nil), .cons hQ .nil⟩
      | @some old old' hold =>
        have hupdated := hconflict hold hQ
        dsimp only
        generalize onConflict old row = u at hupdated ⊢
        generalize onConflict' old' row' = v at hupdated ⊢
        cases hupdated with
        | none => exact ⟨h.rows hs, .nil⟩
        | some hset =>
          exact ⟨forall₂_updateWhere (h.rows hs) (fun _ _ hQ' => h.key hQ' hQ)
            fun _ _ _ _ => hset, .cons hset .nil⟩
    dsimp only
    rw [hwritten.2.length_eq, flatMap_eq_of_forall₂ hwritten.2 fun _ _ => hreturning]
    exact h.write_alike hs hwritten.1

theorem Corresponds.upsertTriggering_alike (h : t.Corresponds R Q)
    {trigger : List (α × α) → σ → σ × Nat}
    (htrigger : ∀ {images images' s s'}, R s s' → ImagesRelated Q images images' →
      R (trigger images s).1 (trigger images' s').1 ∧
        (trigger images s).2 = (trigger images' s').2)
    (hnew : ∀ {s s' n}, R s s' → Option.Rel Q (new s n) (new' s' n))
    (hconflict : ∀ {old old' row row'}, Q old old' → Q row row' →
      Option.Rel Q (onConflict old row) (onConflict' old' row'))
    (hreturning : ∀ {a a'}, Q a a' → returning a = returning a') :
    Statement.Alike R (t.upsertTriggering new onConflict returning trigger)
      (t.upsertTriggering new' onConflict' returning trigger) := by
  intro s s' n hs
  have himages : ImagesRelated Q (t.upsertImages new onConflict s n)
      (t.upsertImages new' onConflict' s' n) := by
    have hrow := hnew (n := n) hs
    unfold upsertImages
    generalize new s n = x at hrow ⊢
    generalize new' s' n = y at hrow ⊢
    cases hrow with
    | none => exact .nil
    | @some row row' hQ =>
      have hfind := h.find_key hs hQ
      dsimp only
      generalize (t.get s).rows.find? (fun a => Keyed.key a = Keyed.key row) = u at hfind ⊢
      generalize (t.get s').rows.find? (fun a => Keyed.key a = Keyed.key row') = v at hfind ⊢
      cases hfind with
      | none => exact .nil
      | @some old old' hold =>
        have hupdated := hconflict hold hQ
        dsimp only
        generalize onConflict old row = u at hupdated ⊢
        generalize onConflict' old' row' = v at hupdated ⊢
        cases hupdated with
        | none => exact .nil
        | some hset => exact .cons ⟨hold, hset⟩ .nil
  exact fire_alike (fun _ _ hs' => htrigger hs' himages)
    (h.upsertRow_alike hnew hconflict hreturning s s' n hs)

end Upserts

end TableIn


end Relational
