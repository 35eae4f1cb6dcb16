import HonoWarden.Relational.Table

/-!
# Statements and atomic batches

A database of type `σ` holds its tables behind `TableIn` lenses. A `Statement` reads the database
and the `changes()` of the statement before it, and either fails on a constraint or returns the
new database with a `StatementResult`. `changes` counts the rows the statement itself wrote, which
is what the next statement's `changes()` reads; `metaChanges` also counts what its triggers and
foreign key actions wrote, which is what the client is told. A SELECT leaves `changes()` alone.

A batch is atomic: `runBatch` runs the statements in order, and the first failure discards the
work of all of them. `commit` is a client call: the batch, and then the client's reading of the
results, which can still throw when the batch has already committed.

Results:
* `update_ok`, `insertSelect_ok`, `insertOrIgnore_ok`, `upsertRows_ok`, `delete_ok`: what a
  statement that succeeds has done, one inversion lemma for each kind;
* `runFrom_cons`, `commit_cases`: a batch taken apart statement by statement;
* **`runFrom_within`**: what a batch can do, from what each of its statements can do.
-/

namespace Relational

/-- A stored or returned SQL value. -/
inductive Value where
  | null
  | integer (n : Int)
  | text (s : String)
  deriving DecidableEq, Repr

/-- Why the engine refuses a statement. -/
inductive SqlError where
  | unique (table : String)
  | foreignKey
  | check
  | malformedJson
  /-- `RAISE(ABORT, message)` in a trigger. -/
  | raise (message : String)
  deriving DecidableEq, Repr

/-- What the client is told about one statement of a batch. -/
structure StatementResult where
  changes : Nat := 0
  metaChanges : Nat := 0
  rows : List (List Value) := []
  deriving DecidableEq, Repr

/-- A statement: the database and the previous `changes()` in, the new database and result out. -/
def Statement (σ : Type) := σ → Nat → Except SqlError (σ × StatementResult)

variable {σ : Type}

/-! ## Batches -/

/-- Run the statements in order, each seeing the `changes()` of the one before. -/
def runFrom : List (Statement σ) → σ → Nat → Except SqlError (σ × List StatementResult)
  | [], s, _ => .ok (s, [])
  | st :: rest, s, n =>
    match st s n with
    | .error e => .error e
    | .ok (s', r) =>
      match runFrom rest s' r.changes with
      | .error e => .error e
      | .ok (s'', rs) => .ok (s'', r :: rs)

/-- A batch, from a connection whose last statement changed nothing. -/
def runBatch (batch : List (Statement σ)) (s : σ) : Except SqlError (σ × List StatementResult) :=
  runFrom batch s 0

/-- How a client call fails: the engine refused the batch, or the client threw afterwards. -/
inductive Failure where
  | constraint (e : SqlError)
  | thrown (message : String)
  deriving DecidableEq, Repr

/-- A client call: an atomic batch, then the client's reading of its results. -/
def commit {α : Type} (batch : List (Statement σ))
    (interpret : List StatementResult → Except String α) (s : σ) : σ × Except Failure α :=
  match runBatch batch s with
  | .error e => (s, .error (.constraint e))
  | .ok (s', results) =>
    match interpret results with
    | .ok a => (s', .ok a)
    | .error message => (s', .error (.thrown message))

/-- A client call of one statement. -/
def execute {α : Type} (st : Statement σ) (interpret : StatementResult → Except String α) (s : σ) :
    σ × Except Failure α :=
  match st s 0 with
  | .error e => (s, .error (.constraint e))
  | .ok (s', result) =>
    match interpret result with
    | .ok a => (s', .ok a)
    | .error message => (s', .error (.thrown message))

theorem runFrom_nil {s s' : σ} {n : Nat} {rs : List StatementResult}
    (h : runFrom [] s n = .ok (s', rs)) : s' = s ∧ rs = [] := by
  simp only [runFrom, Except.ok.injEq, Prod.mk.injEq] at h
  exact ⟨h.1.symm, h.2.symm⟩

theorem runFrom_cons {st : Statement σ} {rest : List (Statement σ)} {s s'' : σ} {n : Nat}
    {rs : List StatementResult} (h : runFrom (st :: rest) s n = .ok (s'', rs)) :
    ∃ s' r rs', st s n = .ok (s', r) ∧ runFrom rest s' r.changes = .ok (s'', rs') ∧
      rs = r :: rs' := by
  simp only [runFrom] at h
  split at h
  · cases h
  · rename_i s' r hst
    split at h
    · cases h
    · rename_i rs' hrest
      simp only [Except.ok.injEq, Prod.mk.injEq] at h
      obtain ⟨rfl, rfl⟩ := h
      exact ⟨s', r, rs', hst, hrest, rfl⟩

theorem runFrom_cons_ok {st : Statement σ} {rest : List (Statement σ)} {s s' s'' : σ} {n : Nat}
    {r : StatementResult} {rs : List StatementResult} (h : st s n = .ok (s', r))
    (hrest : runFrom rest s' r.changes = .ok (s'', rs)) :
    runFrom (st :: rest) s n = .ok (s'', r :: rs) := by
  simp only [runFrom, h, hrest]

/-- A client call either changed nothing, or its batch committed. -/
theorem commit_cases {α : Type} (batch : List (Statement σ))
    (interpret : List StatementResult → Except String α) (s : σ) :
    ((commit batch interpret s).1 = s ∧ ∃ e, (commit batch interpret s).2 = .error (.constraint e)) ∨
    ∃ s' rs, runBatch batch s = .ok (s', rs) ∧ (commit batch interpret s).1 = s' ∧
      (commit batch interpret s).2 = (interpret rs).mapError .thrown := by
  unfold commit
  split
  · exact Or.inl ⟨rfl, _, rfl⟩
  · rename_i s' rs h
    right
    refine ⟨s', rs, h, ?_⟩
    cases interpret rs <;> exact ⟨rfl, rfl⟩

/-- A batch that commits is read. -/
theorem commit_of_run {α : Type} {batch : List (Statement σ)}
    {interpret : List StatementResult → Except String α} {s s' : σ} {rs : List StatementResult}
    (h : runBatch batch s = .ok (s', rs)) :
    commit batch interpret s = (s', (interpret rs).mapError .thrown) := by
  rw [commit, h]
  simp only
  cases interpret rs <;> rfl

theorem mapError_eq_ok {ε ε' α : Type} {f : ε → ε'} {x : Except ε α} {a : α} :
    x.mapError f = .ok a ↔ x = .ok a := by
  cases x <;> simp [Except.mapError]

theorem execute_cases {α : Type} (st : Statement σ)
    (interpret : StatementResult → Except String α) (s : σ) :
    ((execute st interpret s).1 = s ∧ ∃ e, (execute st interpret s).2 = .error (.constraint e)) ∨
    ∃ s' r, st s 0 = .ok (s', r) ∧ (execute st interpret s).1 = s' ∧
      (execute st interpret s).2 = (interpret r).mapError .thrown := by
  unfold execute
  split
  · exact Or.inl ⟨rfl, _, rfl⟩
  · rename_i s' r h
    right
    refine ⟨s', r, h, ?_⟩
    cases interpret r <;> exact ⟨rfl, rfl⟩

/-- A batch whose statements do nothing does nothing. -/
theorem runFrom_idle {rest : List (Statement σ)} {s : σ} : ∀ {idle : List (Statement σ)} {n : Nat},
    (∀ st ∈ idle, ∀ n, st s n = .ok (s, {})) → idle ≠ [] →
    runFrom (idle ++ rest) s n = (runFrom rest s 0).map fun out =>
      (out.1, idle.map (fun _ => {}) ++ out.2)
  | [], _, _, hne => absurd rfl hne
  | [st], n, hidle, _ => by
    rw [List.cons_append, runFrom, hidle st List.mem_cons_self]
    simp only [List.nil_append]
    cases runFrom rest s 0 <;> rfl
  | st :: st' :: idle, n, hidle, _ => by
    have ih : runFrom (st' :: idle ++ rest) s 0 = (runFrom rest s 0).map fun out =>
        (out.1, (st' :: idle).map (fun _ => {}) ++ out.2) :=
      runFrom_idle (fun st'' hst => hidle st'' (List.mem_cons_of_mem _ hst)) (List.cons_ne_nil _ _)
    rw [List.cons_append, runFrom, hidle st List.mem_cons_self]
    simp only [ih]
    cases runFrom rest s 0 <;> rfl

/-- Every step of the statement is in `R`, whatever the previous `changes()` was. -/
def Statement.Within (st : Statement σ) (R : σ → σ → Prop) : Prop :=
  ∀ (s s' : σ) (n : Nat) (r : StatementResult), st s n = .ok (s', r) → R s s'

/-- **A batch of steps in `R` is a step in `R`.** -/
theorem runFrom_within {R : σ → σ → Prop} (hrefl : ∀ s, R s s)
    (htrans : ∀ {s s' s''}, R s s' → R s' s'' → R s s'') :
    ∀ {batch : List (Statement σ)} {s s' : σ} {n : Nat} {rs : List StatementResult},
      (∀ st ∈ batch, st.Within R) → runFrom batch s n = .ok (s', rs) → R s s'
  | [], s, _, _, _, _, h => (runFrom_nil h).1 ▸ hrefl s
  | _ :: _, _, _, _, _, hall, h => by
    obtain ⟨_, _, _, hst, hrest, _⟩ := runFrom_cons h
    exact htrans (hall _ List.mem_cons_self _ _ _ _ hst) (runFrom_within hrefl htrans
      (fun st' hst' => hall st' (List.mem_cons_of_mem _ hst')) hrest)

/-- **Every statement of a batch ran somewhere on the way.** -/
theorem runFrom_mem {R : σ → σ → Prop} (hrefl : ∀ s, R s s)
    (htrans : ∀ {s s' s''}, R s s' → R s' s'' → R s s'') :
    ∀ {batch : List (Statement σ)} {s s' : σ} {n : Nat} {rs : List StatementResult},
      (∀ st ∈ batch, st.Within R) → runFrom batch s n = .ok (s', rs) → ∀ st ∈ batch,
      ∃ s₁ s₂ m r, R s s₁ ∧ st s₁ m = .ok (s₂, r) ∧ R s₂ s'
  | st :: rest, s, s', _, _, hall, h, st', hst' => by
    obtain ⟨s₁, r, _, hst, hrest, _⟩ := runFrom_cons h
    have hrestAll : ∀ st ∈ rest, st.Within R := fun st'' hst'' =>
      hall st'' (List.mem_cons_of_mem _ hst'')
    rcases List.mem_cons.mp hst' with rfl | hmem
    · exact ⟨s, s₁, _, r, hrefl s, hst, runFrom_within hrefl htrans hrestAll hrest⟩
    · obtain ⟨s₂, s₃, m, r', hbefore, hrun, hafter⟩ :=
        runFrom_mem hrefl htrans hrestAll hrest st' hmem
      exact ⟨s₂, s₃, m, r', htrans (hall st List.mem_cons_self _ _ _ _ hst) hbefore, hrun, hafter⟩

theorem runFrom_append {rest : List (Statement σ)} : ∀ {batch : List (Statement σ)} {s s'' : σ}
    {n : Nat} {rs : List StatementResult}, runFrom (batch ++ rest) s n = .ok (s'', rs) →
    ∃ s' n' rs₁ rs₂, runFrom batch s n = .ok (s', rs₁) ∧ runFrom rest s' n' = .ok (s'', rs₂) ∧
      rs = rs₁ ++ rs₂
  | [], s, _, n, rs, h => ⟨s, n, [], rs, rfl, h, rfl⟩
  | st :: batch, s, s'', n, rs, h => by
    obtain ⟨s₁, r, rs', hst, hrest, rfl⟩ := runFrom_cons h
    obtain ⟨s', n', rs₁, rs₂, hbatch, hafter, rfl⟩ := runFrom_append hrest
    exact ⟨s', n', r :: rs₁, rs₂, runFrom_cons_ok hst hbatch, hafter, rfl⟩

theorem runFrom_length : ∀ {batch : List (Statement σ)} {s s' : σ} {n : Nat}
    {rs : List StatementResult}, runFrom batch s n = .ok (s', rs) → rs.length = batch.length
  | [], _, _, _, _, h => congrArg List.length (runFrom_nil h).2
  | _ :: _, _, _, _, _, h => by
    obtain ⟨_, _, _, _, hrest, rfl⟩ := runFrom_cons h
    rw [List.length_cons, List.length_cons, runFrom_length hrest]

theorem commit_within {α : Type} {R : σ → σ → Prop} (hrefl : ∀ s, R s s)
    (htrans : ∀ {s s' s''}, R s s' → R s' s'' → R s s'') {batch : List (Statement σ)}
    {interpret : List StatementResult → Except String α} {s : σ}
    (hall : ∀ st ∈ batch, st.Within R) : R s (commit batch interpret s).1 := by
  rcases commit_cases batch interpret s with
    ⟨he, _⟩ | ⟨s', rs, hrun, he, _⟩
  · rw [he]; exact hrefl s
  · rw [he]; exact runFrom_within hrefl htrans hall hrun

theorem execute_within {α : Type} {R : σ → σ → Prop} (hrefl : ∀ s, R s s) {st : Statement σ}
    {interpret : StatementResult → Except String α} {s : σ} (hst : st.Within R) :
    R s (execute st interpret s).1 := by
  rcases execute_cases st interpret s with ⟨he, _⟩ | ⟨s', r, hrun, he, _⟩
  · rw [he]; exact hrefl s
  · rw [he]; exact hst _ _ _ _ hrun

/-! ## Statements on a table -/

/-- Where a database keeps the table of `α`. -/
structure TableIn (σ α : Type) {κ : Type} [Keyed α κ] where
  name : String
  get : σ → Table α
  put : σ → Table α → σ
  get_put : ∀ s t, get (put s t) = t
  put_get : ∀ s, put s (get s) = s

/-- A SELECT: `changes()` stays what it was. -/
def select (rows : σ → List (List Value)) : Statement σ := fun s n =>
  .ok (s, { changes := n, rows := rows s })

/-- `SELECT CASE WHEN condition THEN 1 ELSE json('…') END`: an assertion inside a batch, which a
malformed JSON text aborts. -/
def assertThat (condition : σ → Nat → Prop) [∀ s n, Decidable (condition s n)] : Statement σ :=
  fun s n =>
    if condition s n then .ok (s, { changes := n, rows := [[.integer 1]] })
    else .error .malformedJson

theorem assertThat_ok {condition : σ → Nat → Prop} [∀ s n, Decidable (condition s n)] {s s' : σ}
    {n : Nat} {r : StatementResult} (h : assertThat condition s n = .ok (s', r)) :
    condition s n ∧ s' = s ∧ r.changes = n := by
  unfold assertThat at h
  split at h
  · rename_i hcondition
    simp only [Except.ok.injEq, Prod.mk.injEq] at h
    obtain ⟨rfl, rfl⟩ := h
    exact ⟨hcondition, rfl, rfl⟩
  · cases h

/-- A statement whose rows, when it writes any, are under a CHECK. -/
def Statement.checked (st : Statement σ) (condition : Prop) [Decidable condition] : Statement σ :=
  fun s n =>
    match st s n with
    | .error e => .error e
    | .ok (s', r) => if 0 < r.changes → condition then .ok (s', r) else .error .check

theorem Statement.checked_ok {st : Statement σ} {condition : Prop} [Decidable condition]
    {s s' : σ} {n : Nat} {r : StatementResult} (h : st.checked condition s n = .ok (s', r)) :
    st s n = .ok (s', r) ∧ (0 < r.changes → condition) := by
  unfold Statement.checked at h
  split at h
  · cases h
  · rename_i hst
    split at h
    · rename_i hcheck
      simp only [Except.ok.injEq, Prod.mk.injEq] at h
      obtain ⟨rfl, rfl⟩ := h
      exact ⟨hst, hcheck⟩
    · cases h

/-- A statement whose new rows are under the CHECKs of their table. -/
def Statement.ensuring (st : Statement σ) (check : σ → σ → Prop) [∀ s s', Decidable (check s s')] :
    Statement σ := fun s n =>
  match st s n with
  | .error e => .error e
  | .ok (s', r) => if check s s' then .ok (s', r) else .error .check

theorem Statement.ensuring_ok {st : Statement σ} {check : σ → σ → Prop}
    [∀ s s', Decidable (check s s')] {s s' : σ} {n : Nat} {r : StatementResult}
    (h : st.ensuring check s n = .ok (s', r)) : st s n = .ok (s', r) ∧ check s s' := by
  unfold Statement.ensuring at h
  split at h
  · cases h
  · rename_i hst
    split at h
    · rename_i hcheck
      simp only [Except.ok.injEq, Prod.mk.injEq] at h
      obtain ⟨rfl, rfl⟩ := h
      exact ⟨hst, hcheck⟩
    · cases h

/-- A statement whose rows refer to a row that must exist. -/
def Statement.referencing (st : Statement σ) (refers : σ → Prop) [DecidablePred refers] :
    Statement σ := fun s n =>
  if refers s then st s n else .error .foreignKey

theorem Statement.referencing_ok {st : Statement σ} {refers : σ → Prop} [DecidablePred refers]
    {s s' : σ} {n : Nat} {r : StatementResult} (h : st.referencing refers s n = .ok (s', r)) :
    refers s ∧ st s n = .ok (s', r) := by
  unfold Statement.referencing at h
  split at h
  · rename_i hrefers
    exact ⟨hrefers, h⟩
  · cases h

/-- Let a trigger or a foreign key action write after a statement; its writes count for the
client only. -/
def fire (action : σ → σ × Nat) :
    Except SqlError (σ × StatementResult) → Except SqlError (σ × StatementResult)
  | .error e => .error e
  | .ok (s, r) => .ok ((action s).1, { r with metaChanges := r.metaChanges + (action s).2 })

theorem fire_ok {action : σ → σ × Nat} {x : Except SqlError (σ × StatementResult)} {s' : σ}
    {r' : StatementResult} (h : fire action x = .ok (s', r')) :
    ∃ s r, x = .ok (s, r) ∧ s' = (action s).1 ∧ r'.changes = r.changes ∧
      r'.metaChanges = r.metaChanges + (action s).2 ∧ r'.rows = r.rows := by
  cases x with
  | error e => cases h
  | ok p =>
    obtain ⟨s, r⟩ := p
    simp only [fire, Except.ok.injEq, Prod.mk.injEq] at h
    obtain ⟨rfl, rfl⟩ := h
    exact ⟨s, r, rfl, rfl, rfl, rfl, rfl⟩

variable {α κ : Type} [Keyed α κ]

namespace TableIn

/-- Store `rows`, or refuse them when two of them conflict. -/
def write (t : TableIn σ α) (s : σ) (rows : List α) (r : StatementResult) :
    Except SqlError (σ × StatementResult) :=
  if h : KeyedRows rows then .ok (t.put s ⟨rows, h⟩, r) else .error (.unique t.name)

theorem write_ok {t : TableIn σ α} {s s' : σ} {rows : List α} {r r' : StatementResult}
    (h : t.write s rows r = .ok (s', r')) :
    ∃ T : Table α, T.rows = rows ∧ s' = t.put s T ∧ r' = r := by
  unfold write at h
  split at h
  · rename_i hk
    simp only [Except.ok.injEq, Prod.mk.injEq] at h
    exact ⟨⟨rows, hk⟩, rfl, h.1.symm, h.2.symm⟩
  · cases h

theorem write_of_keyed {t : TableIn σ α} {s : σ} {rows : List α} {r : StatementResult}
    (h : KeyedRows rows) : t.write s rows r = .ok (t.put s ⟨rows, h⟩, r) := by
  simp [write, h]

/-- `UPDATE t SET set WHERE hit RETURNING returning`. -/
def updateReturning (t : TableIn σ α) (hit : σ → Nat → α → Prop)
    [∀ s n, DecidablePred (hit s n)] (set : σ → α → α) (returning : α → List (List Value)) :
    Statement σ := fun s n =>
  t.write s (updateWhere (hit s n) (set s) (t.get s).rows)
    { changes := (t.get s).rows.countP (hit s n)
      metaChanges := (t.get s).rows.countP (hit s n)
      rows := ((t.get s).rows.filter fun a => hit s n a).flatMap fun a => returning (set s a) }

/-- `UPDATE t SET set WHERE hit`. -/
def update (t : TableIn σ α) (hit : σ → Nat → α → Prop) [∀ s n, DecidablePred (hit s n)]
    (set : σ → α → α) : Statement σ :=
  t.updateReturning hit set fun _ => []

/-- An UPDATE with an AFTER UPDATE trigger, which sees the old and the new image of every row
the statement wrote. -/
def updateTriggering (t : TableIn σ α) (hit : σ → Nat → α → Prop)
    [∀ s n, DecidablePred (hit s n)] (set : σ → α → α) (returning : α → List (List Value))
    (trigger : List (α × α) → σ → σ × Nat) : Statement σ := fun s n =>
  fire (trigger (((t.get s).rows.filter fun a => hit s n a).map fun a => (a, set s a)))
    (t.updateReturning hit set returning s n)

/-- An UPDATE inside a trigger or a foreign key action, and how many rows it wrote. -/
def nestedUpdate (t : TableIn σ α) (hit : α → Prop) [DecidablePred hit] (set : α → α) (s : σ) :
    σ × Nat :=
  match t.update (fun _ _ => hit) (fun _ => set) s 0 with
  | .ok (s', r) => (s', r.metaChanges)
  | .error _ => (s, 0)

/-- `DELETE FROM t WHERE hit RETURNING returning`. -/
def deleteReturning (t : TableIn σ α) (hit : σ → Nat → α → Prop)
    [∀ s n, DecidablePred (hit s n)] (returning : α → List (List Value)) : Statement σ :=
  fun s n =>
    t.write s (deleteWhere (hit s n) (t.get s).rows)
      { changes := (t.get s).rows.countP (hit s n)
        metaChanges := (t.get s).rows.countP (hit s n)
        rows := ((t.get s).rows.filter fun a => hit s n a).flatMap returning }

/-- `DELETE FROM t WHERE hit`. -/
def delete (t : TableIn σ α) (hit : σ → Nat → α → Prop) [∀ s n, DecidablePred (hit s n)] :
    Statement σ :=
  t.deleteReturning hit fun _ => []

/-- A DELETE with AFTER DELETE triggers or ON DELETE actions, which see the deleted rows. -/
def deleteTriggering (t : TableIn σ α) (hit : σ → Nat → α → Prop)
    [∀ s n, DecidablePred (hit s n)] (returning : α → List (List Value))
    (trigger : List α → σ → σ × Nat) : Statement σ := fun s n =>
  fire (trigger ((t.get s).rows.filter fun a => hit s n a)) (t.deleteReturning hit returning s n)

/-- A DELETE inside a foreign key action, and how many rows it removed. -/
def nestedDelete (t : TableIn σ α) (hit : α → Prop) [DecidablePred hit] (s : σ) : σ × Nat :=
  match t.delete (fun _ _ => hit) s 0 with
  | .ok (s', r) => (s', r.metaChanges)
  | .error _ => (s, 0)

/-- `INSERT INTO t SELECT …`: every selected row, or a constraint failure. -/
def insertSelect (t : TableIn σ α) (new : σ → Nat → List α)
    (returning : α → List (List Value) := fun _ => []) : Statement σ := fun s n =>
  t.write s ((t.get s).rows ++ new s n)
    { changes := (new s n).length
      metaChanges := (new s n).length
      rows := (new s n).flatMap returning }

/-- An INSERT whose rows must refer to rows that exist. -/
def insertReferencing (t : TableIn σ α) (new : σ → Nat → List α) (refers : σ → α → Prop)
    [∀ s, DecidablePred (refers s)] : Statement σ := fun s n =>
  if ∀ a ∈ new s n, refers s a then t.insertSelect new (fun _ => []) s n else .error .foreignKey

/-- `INSERT OR IGNORE INTO t SELECT …`: the selected rows that conflict with nothing. -/
def insertOrIgnore (t : TableIn σ α) (new : σ → Nat → List α)
    (returning : α → List (List Value) := fun _ => []) : Statement σ := fun s n =>
  let rows := (new s n).foldl insertUnlessConflict (t.get s).rows
  let count := rows.length - (t.get s).rows.length
  t.write s rows
    { changes := count
      metaChanges := count
      rows := (rows.drop (t.get s).rows.length).flatMap returning }

/-- `INSERT INTO t SELECT … ON CONFLICT (key) DO UPDATE`. -/
def upsertRow (t : TableIn σ α) (new : σ → Nat → Option α) (onConflict : α → α → Option α)
    (returning : α → List (List Value)) : Statement σ := fun s n =>
  match new s n with
  | none => .ok (s, {})
  | some row =>
    let written := upsert onConflict (t.get s).rows row
    t.write s written.1
      { changes := written.2.length
        metaChanges := written.2.length
        rows := written.2.flatMap returning }

/-- The old and the new image of the row an upsert updates; none when it inserts or is refused. -/
def upsertImages (t : TableIn σ α) (new : σ → Nat → Option α) (onConflict : α → α → Option α)
    (s : σ) (n : Nat) : List (α × α) :=
  match new s n with
  | none => []
  | some row =>
    match (t.get s).rows.find? fun a => Keyed.key a = Keyed.key row with
    | none => []
    | some old => ((onConflict old row).map fun a => (old, a)).toList

/-- An upsert into a table with an AFTER UPDATE trigger. -/
def upsertTriggering (t : TableIn σ α) (new : σ → Nat → Option α)
    (onConflict : α → α → Option α) (returning : α → List (List Value))
    (trigger : List (α × α) → σ → σ × Nat) : Statement σ := fun s n =>
  fire (trigger (t.upsertImages new onConflict s n)) (t.upsertRow new onConflict returning s n)

/-! ### What a statement that succeeds has done -/

variable {t : TableIn σ α} {hit : σ → Nat → α → Prop} [∀ s n, DecidablePred (hit s n)]
  {set : σ → α → α} {s s' : σ} {n : Nat} {r : StatementResult}

theorem updateReturning_ok {returning : α → List (List Value)}
    (h : t.updateReturning hit set returning s n = .ok (s', r)) :
    ∃ T : Table α, T.rows = updateWhere (hit s n) (set s) (t.get s).rows ∧ s' = t.put s T ∧
      r.changes = (t.get s).rows.countP (hit s n) ∧ r.metaChanges = r.changes ∧
      r.rows = ((t.get s).rows.filter fun a => hit s n a).flatMap
        fun a => returning (set s a) := by
  obtain ⟨T, hT, rfl, rfl⟩ := write_ok h
  exact ⟨T, hT, rfl, rfl, rfl, rfl⟩

variable (t hit set n) in
/-- An update that keeps the keys is never refused. -/
theorem updateReturning_total (returning : α → List (List Value)) (hset : KeepsKeys (set s)) :
    ∃ (T : Table α) (r : StatementResult),
      t.updateReturning hit set returning s n = .ok (t.put s T, r) ∧
      T.rows = updateWhere (hit s n) (set s) (t.get s).rows ∧
      r.changes = (t.get s).rows.countP (hit s n) ∧ r.metaChanges = r.changes ∧
      r.rows = ((t.get s).rows.filter fun a => hit s n a).flatMap
        fun a => returning (set s a) := by
  have hk : KeyedRows (updateWhere (hit s n) (set s) (t.get s).rows) :=
    updateWhere_keyed_of_sameKeys (t.get s).keyed fun a _ _ => hset a
  exact ⟨⟨_, hk⟩, _, write_of_keyed hk, rfl, rfl, rfl, rfl⟩

theorem update_ok (h : t.update hit set s n = .ok (s', r)) :
    ∃ T : Table α, T.rows = updateWhere (hit s n) (set s) (t.get s).rows ∧ s' = t.put s T ∧
      r.changes = (t.get s).rows.countP (hit s n) ∧ r.metaChanges = r.changes := by
  obtain ⟨T, hT, hs, hc, hm, _⟩ := updateReturning_ok h
  exact ⟨T, hT, hs, hc, hm⟩

/-- Two updates that keep their keys always commit. -/
theorem commit_update_update {β κ' δ : Type} [Keyed β κ'] {u : TableIn σ β}
    {hit' : σ → Nat → β → Prop} [∀ s n, DecidablePred (hit' s n)] {set' : σ → β → β}
    {returning : α → List (List Value)} {returning' : β → List (List Value)}
    {interpret : List StatementResult → Except String δ} {call : σ × Except Failure δ}
    (hcall : call = commit [t.updateReturning hit set returning,
      u.updateReturning hit' set' returning'] interpret s)
    (hset : ∀ s, KeepsKeys (set s)) (hset' : ∀ s, KeepsKeys (set' s)) :
    ∃ (T : Table α) (r : StatementResult) (U : Table β) (r' : StatementResult),
      call = (u.put (t.put s T) U, (interpret [r, r']).mapError .thrown) ∧
      T.rows = updateWhere (hit s 0) (set s) (t.get s).rows ∧
      r.changes = (t.get s).rows.countP (hit s 0) ∧ r.metaChanges = r.changes ∧
      U.rows = updateWhere (hit' (t.put s T) r.changes) (set' (t.put s T))
        (u.get (t.put s T)).rows ∧
      r'.rows = ((u.get (t.put s T)).rows.filter fun b => hit' (t.put s T) r.changes b).flatMap
        fun b => returning' (set' (t.put s T) b) := by
  obtain ⟨T, r, hfst, hT, hc, hm, -⟩ := updateReturning_total t hit set 0 returning (hset s)
  obtain ⟨U, r', hsnd, hU, -, -, hrows⟩ :=
    updateReturning_total u hit' set' r.changes returning' (hset' (t.put s T))
  refine ⟨T, r, U, r', ?_, hT, hc, hm, hU, hrows⟩
  simp only [hcall, commit, runBatch, runFrom, hfst, hsnd]
  cases interpret _ <;> rfl

variable (t) in
/-- A nested update that keeps the keys takes place. -/
theorem nestedUpdate_eq (hit : α → Prop) [DecidablePred hit] (set : α → α) (s : σ)
    (hset : KeepsKeys set) : ∃ T : Table α, (t.nestedUpdate hit set s).1 = t.put s T ∧
      T.rows = updateWhere hit set (t.get s).rows := by
  obtain ⟨T, r, h, hT, -⟩ := updateReturning_total (s := s) t (fun _ _ => hit) (fun _ => set) 0
    (fun _ => []) hset
  exact ⟨T, by simp only [nestedUpdate, update, h], hT⟩

theorem updateTriggering_ok {returning : α → List (List Value)}
    {trigger : List (α × α) → σ → σ × Nat}
    (h : t.updateTriggering hit set returning trigger s n = .ok (s', r)) :
    ∃ T : Table α, T.rows = updateWhere (hit s n) (set s) (t.get s).rows ∧
      s' = (trigger (((t.get s).rows.filter fun a => hit s n a).map fun a => (a, set s a))
        (t.put s T)).1 ∧
      r.changes = (t.get s).rows.countP (hit s n) ∧
      r.rows = ((t.get s).rows.filter fun a => hit s n a).flatMap
        fun a => returning (set s a) := by
  obtain ⟨s₁, r₁, h₁, rfl, hc, -, hrows⟩ := fire_ok h
  obtain ⟨T, hT, rfl, hc₁, -, hrows₁⟩ := updateReturning_ok h₁
  exact ⟨T, hT, rfl, hc.trans hc₁, hrows.trans hrows₁⟩

theorem deleteReturning_ok {returning : α → List (List Value)}
    (h : t.deleteReturning hit returning s n = .ok (s', r)) :
    ∃ T : Table α, T.rows = deleteWhere (hit s n) (t.get s).rows ∧ s' = t.put s T ∧
      r.changes = (t.get s).rows.countP (hit s n) ∧ r.metaChanges = r.changes ∧
      r.rows = ((t.get s).rows.filter fun a => hit s n a).flatMap returning := by
  obtain ⟨T, hT, rfl, rfl⟩ := write_ok h
  exact ⟨T, hT, rfl, rfl, rfl, rfl⟩

theorem deleteTriggering_ok {returning : α → List (List Value)}
    {trigger : List α → σ → σ × Nat}
    (h : t.deleteTriggering hit returning trigger s n = .ok (s', r)) :
    ∃ T : Table α, T.rows = deleteWhere (hit s n) (t.get s).rows ∧
      s' = (trigger ((t.get s).rows.filter fun a => hit s n a) (t.put s T)).1 ∧
      r.changes = (t.get s).rows.countP (hit s n) ∧
      r.rows = ((t.get s).rows.filter fun a => hit s n a).flatMap returning := by
  obtain ⟨s₁, r₁, h₁, rfl, hc, -, hrows⟩ := fire_ok h
  obtain ⟨T, hT, rfl, hc₁, -, hrows₁⟩ := deleteReturning_ok h₁
  exact ⟨T, hT, rfl, hc.trans hc₁, hrows.trans hrows₁⟩

theorem delete_ok (h : t.delete hit s n = .ok (s', r)) :
    ∃ T : Table α, T.rows = deleteWhere (hit s n) (t.get s).rows ∧ s' = t.put s T ∧
      r.changes = (t.get s).rows.countP (hit s n) ∧ r.metaChanges = r.changes := by
  obtain ⟨T, hT, hs, hc, hm, _⟩ := deleteReturning_ok h
  exact ⟨T, hT, hs, hc, hm⟩

variable {new : σ → Nat → List α} {returning : α → List (List Value)}

theorem insertSelect_ok (h : t.insertSelect new returning s n = .ok (s', r)) :
    ∃ T : Table α, T.rows = (t.get s).rows ++ new s n ∧ s' = t.put s T ∧
      r.changes = (new s n).length ∧ r.metaChanges = r.changes := by
  obtain ⟨T, hT, rfl, rfl⟩ := write_ok h
  exact ⟨T, hT, rfl, rfl, rfl⟩

theorem upsertRow_none {new : σ → Nat → Option α} {onConflict : α → α → Option α}
    (hnew : new s n = none) (h : t.upsertRow new onConflict returning s n = .ok (s', r)) :
    s' = s ∧ r.changes = 0 ∧ r.metaChanges = 0 := by
  simp only [upsertRow, hnew, Except.ok.injEq, Prod.mk.injEq] at h
  obtain ⟨rfl, rfl⟩ := h
  exact ⟨rfl, rfl, rfl⟩

theorem upsertRow_some {new : σ → Nat → Option α} {onConflict : α → α → Option α} {row : α}
    (hnew : new s n = some row) (h : t.upsertRow new onConflict returning s n = .ok (s', r)) :
    ∃ T : Table α, T.rows = (upsert onConflict (t.get s).rows row).1 ∧ s' = t.put s T ∧
      r.changes = (upsert onConflict (t.get s).rows row).2.length ∧ r.metaChanges = r.changes ∧
      r.rows = (upsert onConflict (t.get s).rows row).2.flatMap returning := by
  simp only [upsertRow, hnew] at h
  obtain ⟨T, hT, rfl, rfl⟩ := write_ok h
  exact ⟨T, hT, rfl, rfl, rfl, rfl⟩

/-- An upsert into a table with an AFTER UPDATE trigger inserts, or updates and fires, or does
nothing. -/
theorem upsertTriggering_cases {new : σ → Nat → Option α} {onConflict : α → α → Option α}
    {trigger : List (α × α) → σ → σ × Nat} (hput : ∀ s T, T.rows = (t.get s).rows → t.put s T = s)
    (hnil : ∀ s, (trigger [] s).1 = s)
    (h : t.upsertTriggering new onConflict returning trigger s n = .ok (s', r)) :
    (s' = s ∧ r.rows = []) ∨
    ∃ row, new s n = some row ∧
      ((∀ a ∈ (t.get s).rows, Keyed.key a ≠ Keyed.key row) ∧ r.rows = returning row ∧
          (∃ T : Table α, T.rows = (t.get s).rows ++ [row] ∧ s' = t.put s T) ∨
        ∃ old ∈ (t.get s).rows, Keyed.key old = Keyed.key row ∧
          ∃ row', onConflict old row = some row' ∧ r.rows = returning row' ∧
            ∃ T : Table α, T.rows = updateWhere (fun a => Keyed.key a = Keyed.key row)
                (fun _ => row') (t.get s).rows ∧
              s' = (trigger [(old, row')] (t.put s T)).1) := by
  obtain ⟨s₁, r₁, h₁, rfl, -, -, hrows⟩ := fire_ok h
  cases hnew : new s n with
  | none =>
    left
    have himages : t.upsertImages new onConflict s n = [] := by simp only [upsertImages, hnew]
    simp only [upsertRow, hnew, Except.ok.injEq, Prod.mk.injEq] at h₁
    obtain ⟨rfl, rfl⟩ := h₁
    exact ⟨by rw [himages, hnil], hrows⟩
  | some row =>
    obtain ⟨T, hT, rfl, -, -, hrows₁⟩ := upsertRow_some hnew h₁
    rw [hrows, hrows₁]
    cases hfind : (t.get s).rows.find? fun a => Keyed.key a = Keyed.key row with
    | none =>
      have himages : t.upsertImages new onConflict s n = [] := by
        simp only [upsertImages, hnew, hfind]
      refine Or.inr ⟨row, rfl, Or.inl ⟨by simpa using hfind, by simp [upsert, hfind], T, ?_, ?_⟩⟩
      · simpa [upsert, hfind] using hT
      · rw [himages, hnil]
    | some old =>
      have hold := List.mem_of_find?_eq_some hfind
      have hkey : Keyed.key old = Keyed.key row := by simpa using List.find?_some hfind
      cases hconf : onConflict old row with
      | none =>
        have himages : t.upsertImages new onConflict s n = [] := by
          simp only [upsertImages, hnew, hfind, hconf, Option.map_none, Option.toList_none]
        refine Or.inl ⟨?_, by simp [upsert, hfind, hconf]⟩
        rw [himages, hnil]
        exact hput s T (by simpa [upsert, hfind, hconf] using hT)
      | some row' =>
        have himages : t.upsertImages new onConflict s n = [(old, row')] := by
          simp only [upsertImages, hnew, hfind, hconf, Option.map_some, Option.toList_some]
        refine Or.inr ⟨row, rfl, Or.inr ⟨old, hold, hkey, row', hconf,
          by simp [upsert, hfind, hconf], T, ?_, by rw [himages]⟩⟩
        simpa [upsert, hfind, hconf] using hT

theorem insertReferencing_ok {refers : σ → α → Prop} [∀ s, DecidablePred (refers s)]
    (h : t.insertReferencing new refers s n = .ok (s', r)) :
    (∀ a ∈ new s n, refers s a) ∧ ∃ T : Table α, T.rows = (t.get s).rows ++ new s n ∧
      s' = t.put s T ∧ r.changes = (new s n).length ∧ r.metaChanges = r.changes := by
  unfold insertReferencing at h
  split at h
  · rename_i hrefers
    exact ⟨hrefers, insertSelect_ok h⟩
  · cases h

theorem insertOrIgnore_ok (h : t.insertOrIgnore new returning s n = .ok (s', r)) :
    ∃ T : Table α, T.rows = (new s n).foldl insertUnlessConflict (t.get s).rows ∧
      s' = t.put s T ∧ r.changes = T.rows.length - (t.get s).rows.length ∧
      r.metaChanges = r.changes := by
  obtain ⟨T, hT, rfl, rfl⟩ := write_ok h
  exact ⟨T, hT, rfl, by simp [hT], rfl⟩

/-! ### Statements that hit nothing -/

section Idle

variable (t)

theorem put_eq_self {T : Table α} (h : T.rows = (t.get s).rows) : t.put s T = s := by
  rw [Table.ext h, t.put_get]

theorem updateReturning_idle {returning : α → List (List Value)}
    (hnone : ∀ a ∈ (t.get s).rows, ¬ hit s n a) :
    t.updateReturning hit set returning s n = .ok (s, {}) := by
  have hrows : updateWhere (hit s n) (set s) (t.get s).rows = (t.get s).rows :=
    updateWhere_eq_self hnone
  have hcount : (t.get s).rows.countP (fun a => hit s n a) = 0 :=
    List.countP_eq_zero.mpr fun a ha => by simpa using hnone a ha
  have hfilter : (t.get s).rows.filter (fun a => hit s n a) = [] :=
    List.filter_eq_nil_iff.mpr fun a ha => by simpa using hnone a ha
  have hk : KeyedRows (updateWhere (hit s n) (set s) (t.get s).rows) := by
    rw [hrows]
    exact (t.get s).keyed
  rw [updateReturning, write_of_keyed hk, put_eq_self t hrows, hcount, hfilter]
  rfl

theorem update_idle (hnone : ∀ a ∈ (t.get s).rows, ¬ hit s n a) :
    t.update hit set s n = .ok (s, {}) :=
  t.updateReturning_idle hnone

theorem deleteReturning_idle {returning : α → List (List Value)}
    (hnone : ∀ a ∈ (t.get s).rows, ¬ hit s n a) :
    t.deleteReturning hit returning s n = .ok (s, {}) := by
  have hrows : deleteWhere (hit s n) (t.get s).rows = (t.get s).rows := deleteWhere_eq_self hnone
  have hcount : (t.get s).rows.countP (fun a => hit s n a) = 0 :=
    List.countP_eq_zero.mpr fun a ha => by simpa using hnone a ha
  have hfilter : (t.get s).rows.filter (fun a => hit s n a) = [] :=
    List.filter_eq_nil_iff.mpr fun a ha => by simpa using hnone a ha
  have hk : KeyedRows (deleteWhere (hit s n) (t.get s).rows) := by
    rw [hrows]
    exact (t.get s).keyed
  rw [deleteReturning, write_of_keyed hk, put_eq_self t hrows, hcount, hfilter]
  rfl

theorem delete_idle (hnone : ∀ a ∈ (t.get s).rows, ¬ hit s n a) :
    t.delete hit s n = .ok (s, {}) :=
  t.deleteReturning_idle hnone

theorem nestedUpdate_idle {hit : α → Prop} [DecidablePred hit] {set : α → α}
    (hnone : ∀ a ∈ (t.get s).rows, ¬ hit a) : t.nestedUpdate hit set s = (s, 0) := by
  unfold nestedUpdate
  rw [t.update_idle hnone]

theorem nestedDelete_idle {hit : α → Prop} [DecidablePred hit]
    (hnone : ∀ a ∈ (t.get s).rows, ¬ hit a) : t.nestedDelete hit s = (s, 0) := by
  unfold nestedDelete
  rw [t.delete_idle hnone]

theorem updateTriggering_idle {returning : α → List (List Value)}
    {trigger : List (α × α) → σ → σ × Nat} (htrigger : trigger [] s = (s, 0))
    (hnone : ∀ a ∈ (t.get s).rows, ¬ hit s n a) :
    t.updateTriggering hit set returning trigger s n = .ok (s, {}) := by
  have hfilter : (t.get s).rows.filter (fun a => hit s n a) = [] :=
    List.filter_eq_nil_iff.mpr fun a ha => by simpa using hnone a ha
  rw [updateTriggering, t.updateReturning_idle hnone, hfilter, List.map_nil, fire, htrigger]
  rfl

theorem deleteTriggering_idle {returning : α → List (List Value)}
    {trigger : List α → σ → σ × Nat} (htrigger : trigger [] s = (s, 0))
    (hnone : ∀ a ∈ (t.get s).rows, ¬ hit s n a) :
    t.deleteTriggering hit returning trigger s n = .ok (s, {}) := by
  have hfilter : (t.get s).rows.filter (fun a => hit s n a) = [] :=
    List.filter_eq_nil_iff.mpr fun a ha => by simpa using hnone a ha
  rw [deleteTriggering, t.deleteReturning_idle hnone, hfilter, fire, htrigger]
  rfl

theorem insertSelect_idle (hnone : new s n = []) :
    t.insertSelect new returning s n = .ok (s, {}) := by
  have hk : KeyedRows ((t.get s).rows ++ new s n) := by
    rw [hnone, List.append_nil]
    exact (t.get s).keyed
  have hrows : (t.get s).rows ++ new s n = (t.get s).rows := by rw [hnone, List.append_nil]
  rw [insertSelect, write_of_keyed hk, put_eq_self t hrows, hnone]
  rfl

theorem insertOrIgnore_idle
    (hnone : (new s n).foldl insertUnlessConflict (t.get s).rows = (t.get s).rows) :
    t.insertOrIgnore new returning s n = .ok (s, {}) := by
  have hk : KeyedRows ((new s n).foldl insertUnlessConflict (t.get s).rows) := by
    rw [hnone]
    exact (t.get s).keyed
  have hwrite : t.insertOrIgnore new returning s n = .ok (t.put s ⟨_, hk⟩, _) := dif_pos hk
  rw [hwrite, put_eq_self t hnone, hnone, Nat.sub_self, List.drop_length]
  rfl

end Idle

variable (t) in
/-- A nested deletion takes place. -/
theorem nestedDelete_eq (hit : α → Prop) [DecidablePred hit] (s : σ) :
    ∃ T : Table α, (t.nestedDelete hit s).1 = t.put s T ∧
      T.rows = deleteWhere hit (t.get s).rows := by
  have hk : KeyedRows (deleteWhere hit (t.get s).rows) := deleteWhere_keyed (t.get s).keyed
  refine ⟨⟨_, hk⟩, ?_, rfl⟩
  simp only [nestedDelete, delete, deleteReturning, write_of_keyed hk]

/-! ### Steps of a statement, when it does not matter what it writes into its table -/

section Within

variable {R : σ → σ → Prop} (hput : ∀ (s : σ) (T : Table α), R s (t.put s T))

include hput

theorem updateReturning_within {returning : α → List (List Value)} :
    (t.updateReturning hit set returning).Within R := by
  intro s s' n r h
  obtain ⟨T, -, rfl, -⟩ := updateReturning_ok h
  exact hput s T

theorem update_within : (t.update hit set).Within R := updateReturning_within hput

theorem deleteReturning_within {returning : α → List (List Value)} :
    (t.deleteReturning hit returning).Within R := by
  intro s s' n r h
  obtain ⟨T, -, rfl, -⟩ := deleteReturning_ok h
  exact hput s T

theorem delete_within : (t.delete hit).Within R := deleteReturning_within hput

theorem insertSelect_within : (t.insertSelect new returning).Within R := by
  intro s s' n r h
  obtain ⟨T, -, rfl, -⟩ := insertSelect_ok h
  exact hput s T

theorem insertReferencing_within {refers : σ → α → Prop} [∀ s, DecidablePred (refers s)] :
    (t.insertReferencing new refers).Within R := by
  intro s s' n r h
  obtain ⟨-, T, -, rfl, -⟩ := insertReferencing_ok h
  exact hput s T

theorem upsertRow_within (hrefl : ∀ s, R s s) {new : σ → Nat → Option α}
    {onConflict : α → α → Option α} : (t.upsertRow new onConflict returning).Within R := by
  intro s s' n r h
  cases hnew : new s n with
  | none =>
    rw [(upsertRow_none hnew h).1]
    exact hrefl s
  | some row =>
    obtain ⟨T, -, rfl, -⟩ := upsertRow_some hnew h
    exact hput s T

theorem nestedUpdate_within (hrefl : ∀ s, R s s) {hit : α → Prop} [DecidablePred hit]
    {set : α → α} (s : σ) : R s (t.nestedUpdate hit set s).1 := by
  unfold nestedUpdate
  split
  · rename_i h
    exact update_within hput _ _ _ _ h
  · exact hrefl s

theorem nestedDelete_within {hit : α → Prop} [DecidablePred hit] (s : σ) :
    R s (t.nestedDelete hit s).1 := by
  obtain ⟨T, hs, -⟩ := nestedDelete_eq t hit s
  rw [hs]
  exact hput s T

theorem updateTriggering_within (htrans : ∀ {s s' s''}, R s s' → R s' s'' → R s s'')
    {trigger : List (α × α) → σ → σ × Nat} (htrigger : ∀ images s, R s (trigger images s).1)
    {returning : α → List (List Value)} :
    (t.updateTriggering hit set returning trigger).Within R := by
  intro s s' n r h
  obtain ⟨T, -, rfl, -⟩ := updateTriggering_ok h
  exact htrans (hput s T) (htrigger _ _)

theorem deleteTriggering_within (htrans : ∀ {s s' s''}, R s s' → R s' s'' → R s s'')
    {trigger : List α → σ → σ × Nat} (htrigger : ∀ rows s, R s (trigger rows s).1)
    {returning : α → List (List Value)} :
    (t.deleteTriggering hit returning trigger).Within R := by
  intro s s' n r h
  obtain ⟨T, -, rfl, -⟩ := deleteTriggering_ok h
  exact htrans (hput s T) (htrigger _ _)

end Within

end TableIn

theorem select_within {R : σ → σ → Prop} (hrefl : ∀ s, R s s)
    {rows : σ → List (List Value)} : (select rows).Within R := by
  intro s s' n r h
  simp only [select, Except.ok.injEq, Prod.mk.injEq] at h
  exact h.1 ▸ hrefl s

theorem assertThat_within {R : σ → σ → Prop} (hrefl : ∀ s, R s s)
    {condition : σ → Nat → Prop} [∀ s n, Decidable (condition s n)] :
    (assertThat condition).Within R := by
  intro s s' n r h
  rw [(assertThat_ok h).2.1]
  exact hrefl s

end Relational
