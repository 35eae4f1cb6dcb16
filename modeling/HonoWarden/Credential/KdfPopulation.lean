import HonoWarden.Vault.System

/-!
# The population of key derivation settings

Model of `migrations/0014a_kdf_population.sql`. `account_kdf_population` counts, for every tuple of
key derivation settings, the accounts that hold it. A NULL memory or parallelism is encoded as
zero beside a flag, and the CHECKs of the table admit no other spelling of it: they are fields of
the row, so a row that breaks one cannot be written down.

Three triggers on `users` keep the table. SQLite runs them after each row a statement writes, so a
statement is a list of row writes (`UserStatement.rowWrites`), each followed by its trigger; the
first failure undoes the whole statement. The update trigger is declared for the four settings
columns only; its WHEN condition is false where none of them changes, so a statement that does not
assign them is a statement that leaves them as they are.

Results:
* `KdfTuple.key_injective`, `KdfPopulationKey.key_tuple`: the encoding tells zero from NULL, and
  reaches every key the CHECKs admit;
* `agrees_backfill`: the migration's own INSERT establishes the counts;
* `UserRowWrite.run_tallied`: one row write with its trigger keeps them;
* **`kdfPopulation_agrees`**: so does every sequence of statements, and no trigger aborts one.
-/

namespace HonoWarden

open Relational

/-! ## Settings and their encoding -/

/-- The key derivation settings of an account. -/
structure KdfTuple where
  kdfAlgorithm : String
  kdfIterations : Int
  kdfMemory : Option Int
  kdfParallelism : Option Int
  deriving DecidableEq, Repr

def User.kdfTuple (u : User) : KdfTuple where
  kdfAlgorithm := u.kdfAlgorithm
  kdfIterations := u.kdfIterations
  kdfMemory := u.kdfMemory
  kdfParallelism := u.kdfParallelism

/-- The primary key of `account_kdf_population`, with the CHECKs on its columns. -/
structure KdfPopulationKey where
  kdfAlgorithm : String
  kdfIterations : Int
  kdfMemory : Int
  kdfMemoryIsNull : Bool
  kdfParallelism : Int
  kdfParallelismIsNull : Bool
  memoryNull : kdfMemoryIsNull = false ∨ kdfMemory = 0
  parallelismNull : kdfParallelismIsNull = false ∨ kdfParallelism = 0
  deriving DecidableEq, Repr

theorem isNull_coalesce (x : Option Int) : x.isNone = false ∨ x.getD 0 = 0 := by
  cases x with
  | none => exact Or.inr rfl
  | some n => exact Or.inl rfl

/-- `COALESCE(kdf_memory, 0), kdf_memory IS NULL, …`. -/
def KdfTuple.key (t : KdfTuple) : KdfPopulationKey where
  kdfAlgorithm := t.kdfAlgorithm
  kdfIterations := t.kdfIterations
  kdfMemory := t.kdfMemory.getD 0
  kdfMemoryIsNull := t.kdfMemory.isNone
  kdfParallelism := t.kdfParallelism.getD 0
  kdfParallelismIsNull := t.kdfParallelism.isNone
  memoryNull := isNull_coalesce t.kdfMemory
  parallelismNull := isNull_coalesce t.kdfParallelism

/-- The settings a key stands for. -/
def KdfPopulationKey.tuple (k : KdfPopulationKey) : KdfTuple where
  kdfAlgorithm := k.kdfAlgorithm
  kdfIterations := k.kdfIterations
  kdfMemory := if k.kdfMemoryIsNull then none else some k.kdfMemory
  kdfParallelism := if k.kdfParallelismIsNull then none else some k.kdfParallelism

theorem coalesce_injective {x y : Option Int} (hvalue : x.getD 0 = y.getD 0)
    (hnull : x.isNone = y.isNone) : x = y := by
  cases x <;> cases y <;> simp_all

theorem KdfTuple.key_injective : Function.Injective KdfTuple.key := by
  intro t u h
  simp only [KdfTuple.key, KdfPopulationKey.mk.injEq] at h
  obtain ⟨halgorithm, hiterations, hmemory, hmemoryNull, hparallelism, hparallelismNull⟩ := h
  cases t
  cases u
  simp only [KdfTuple.mk.injEq]
  exact ⟨halgorithm, hiterations, coalesce_injective hmemory hmemoryNull,
    coalesce_injective hparallelism hparallelismNull⟩

/-- Every key the CHECKs admit encodes some settings. -/
theorem KdfPopulationKey.key_tuple (k : KdfPopulationKey) : k.tuple.key = k := by
  obtain ⟨algorithm, iterations, memory, memoryIsNull, parallelism, parallelismIsNull, hm, hp⟩ := k
  have hmemory : (if memoryIsNull then none else some memory).getD 0 = memory := by
    cases memoryIsNull <;> simp_all
  have hparallelism : (if parallelismIsNull then none else some parallelism).getD 0 =
      parallelism := by
    cases parallelismIsNull <;> simp_all
  simp only [KdfTuple.key, tuple, mk.injEq, hmemory, hparallelism, true_and]
  cases memoryIsNull <;> cases parallelismIsNull <;> simp

/-- `account_kdf_population`. -/
structure AccountKdfPopulation where
  key : KdfPopulationKey
  accountCount : Nat
  positive : 0 < accountCount
  deriving DecidableEq, Repr

instance : Keyed AccountKdfPopulation KdfPopulationKey := Keyed.primary AccountKdfPopulation.key

/-- The tables the triggers read and write. -/
structure KdfTables where
  users : Table User := ∅
  accountKdfPopulation : Table AccountKdfPopulation := ∅

namespace KdfTables

abbrev usersIn : TableIn KdfTables User where
  name := "users"
  get := KdfTables.users
  put db t := { db with users := t }
  get_put _ _ := rfl
  put_get _ := rfl

abbrev populationIn : TableIn KdfTables AccountKdfPopulation where
  name := "account_kdf_population"
  get := KdfTables.accountKdfPopulation
  put db t := { db with accountKdfPopulation := t }
  get_put _ _ := rfl
  put_get _ := rfl

/-- How many accounts hold the settings. -/
def holders (db : KdfTables) (t : KdfTuple) : Nat := (db.users.rows.map User.kdfTuple).count t

/-- What the population says of the settings: the count of their row, if they have one. -/
def populationCount (db : KdfTables) (t : KdfTuple) : Option Nat :=
  (db.accountKdfPopulation.rows.find? fun p => p.key = t.key).map AccountKdfPopulation.accountCount

/-- The population counts the holders of every tuple, and has no row for one without holders. -/
def Agrees (db : KdfTables) : Prop :=
  ∀ t, db.populationCount t = if db.holders t = 0 then none else some (db.holders t)

/-- The keys in use, once for every account. -/
def keysInUse (db : KdfTables) : List KdfPopulationKey := db.users.rows.map fun u => u.kdfTuple.key

theorem keysInUse_count (db : KdfTables) (t : KdfTuple) :
    db.keysInUse.count t.key = db.holders t := by
  have hmap : db.keysInUse = (db.users.rows.map User.kdfTuple).map KdfTuple.key := by
    rw [List.map_map]
    rfl
  rw [hmap, List.count_map_of_injective _ _ KdfTuple.key_injective, holders]

/-- The population tallies the keys in use. -/
abbrev Tallied (db : KdfTables) : Prop :=
  Tallies AccountKdfPopulation.accountCount db.accountKdfPopulation.rows db.keysInUse

theorem Tallied.agrees {db : KdfTables} (h : db.Tallied) : db.Agrees := by
  intro t
  unfold populationCount
  cases hfind : db.accountKdfPopulation.rows.find? fun p => p.key = t.key with
  | none =>
    have hzero : db.holders t = 0 := by
      rw [← keysInUse_count, List.count_eq_zero]
      intro hmem
      obtain ⟨p, hp, hpk⟩ := h.counted _ hmem
      exact db.accountKdfPopulation.find?_eq_none.mp hfind p hp hpk
    simp [hzero]
  | some p =>
    have hp := List.mem_of_find?_eq_some hfind
    have hkey : p.key = t.key := by simpa using List.find?_some hfind
    have hcount : p.accountCount = db.holders t := by
      rw [h.exact p hp, ← keysInUse_count, ← hkey]
      rfl
    have hpos : db.holders t ≠ 0 := by
      rw [← hcount]
      exact p.positive.ne'
    simp [hcount, hpos]

theorem Agrees.tallied {db : KdfTables} (h : db.Agrees) : db.Tallied where
  exact p hp := by
    have hfind :
        db.accountKdfPopulation.rows.find? (fun q => q.key = p.key.tuple.key) = some p := by
      rw [KdfPopulationKey.key_tuple]
      exact db.accountKdfPopulation.find?_eq_some p.key (fun _ hq => hq) hp rfl
    have hagree := h p.key.tuple
    rw [populationCount, hfind, ← keysInUse_count, KdfPopulationKey.key_tuple] at hagree
    split at hagree
    · cases hagree
    · exact Option.some.inj hagree
  counted k hk := by
    obtain ⟨u, hu, rfl⟩ := List.mem_map.mp hk
    have hagree := h u.kdfTuple
    have hpos : 0 < db.holders u.kdfTuple := List.count_pos_iff.mpr (List.mem_map_of_mem hu)
    rw [if_neg (by omega), populationCount] at hagree
    obtain ⟨p, hfind, -⟩ := Option.map_eq_some_iff.mp hagree
    have hkey : p.key = u.kdfTuple.key := by simpa using List.find?_some hfind
    exact ⟨p, List.mem_of_find?_eq_some hfind, hkey⟩
  positive p _ := p.positive

/-- The INSERT of the migration: `SELECT …, COUNT(*) FROM users GROUP BY …`, where NULLs form one
group. -/
def backfillRows (users : List User) : List AccountKdfPopulation :=
  (users.map User.kdfTuple).dedup.attach.map fun t =>
    { key := t.1.key
      accountCount := (users.map User.kdfTuple).count t.1
      positive := List.count_pos_iff.mpr (List.mem_dedup.mp t.2) }

theorem backfillRows_keyed (users : List User) : KeyedRows (backfillRows users) := by
  unfold KeyedRows backfillRows
  rw [List.pairwise_map]
  have hnodup : (users.map User.kdfTuple).dedup.attach.Nodup :=
    List.nodup_attach.mpr (List.nodup_dedup _)
  refine hnodup.imp fun hne hc => hne (Subtype.ext ?_)
  exact KdfTuple.key_injective (hc.elim (fun h => h) False.elim)

/-- The tables after the migration. -/
def backfill (users : Table User) : KdfTables where
  users := users
  accountKdfPopulation := ⟨backfillRows users.rows, backfillRows_keyed users.rows⟩

/-- **The migration establishes the counts.** -/
theorem agrees_backfill (users : Table User) : (backfill users).Agrees := by
  refine Tallied.agrees ⟨fun p hp => ?_, fun k hk => ?_, fun p _ => p.positive⟩
  · obtain ⟨t, -, rfl⟩ := List.mem_map.mp hp
    exact (keysInUse_count (backfill users) t.1).symm
  · obtain ⟨u, hu, rfl⟩ := List.mem_map.mp hk
    have hmem : u.kdfTuple ∈ (users.rows.map User.kdfTuple).dedup :=
      List.mem_dedup.mpr (List.mem_map_of_mem hu)
    exact ⟨_, List.mem_map.mpr ⟨⟨_, hmem⟩, List.mem_attach _ _, rfl⟩, rfl⟩

end KdfTables

/-! ## The triggers -/

/-- `SELECT RAISE(ABORT, message) WHERE NOT EXISTS (…)`, for the key of `old`. -/
def raiseUnlessCounted (message : String) (old : User) : Statement KdfTables := fun db n =>
  if ∃ p ∈ db.accountKdfPopulation.rows, p.key = old.kdfTuple.key then .ok (db, { changes := n })
  else .error (.raise message)

/-- `DELETE FROM account_kdf_population WHERE … AND account_count = 1`. -/
def deleteLastHolder (old : User) : Statement KdfTables :=
  KdfTables.populationIn.delete fun _ _ p => p.key = old.kdfTuple.key ∧ p.accountCount = 1

/-- `account_count - 1`, for the rows that count more than one. -/
def AccountKdfPopulation.decrement (p : AccountKdfPopulation) : AccountKdfPopulation :=
  if h : 1 < p.accountCount then
    { p with accountCount := p.accountCount - 1, positive := Nat.sub_pos_of_lt h }
  else p

/-- `UPDATE account_kdf_population SET account_count = account_count - 1
WHERE … AND account_count > 1`. -/
def decrementHolders (old : User) : Statement KdfTables :=
  KdfTables.populationIn.update (fun _ _ p => p.key = old.kdfTuple.key ∧ 1 < p.accountCount)
    fun _ => AccountKdfPopulation.decrement

/-- `account_count + 1`. -/
def AccountKdfPopulation.increment (p : AccountKdfPopulation) : AccountKdfPopulation :=
  { p with accountCount := p.accountCount + 1, positive := Nat.succ_pos _ }

/-- `INSERT INTO account_kdf_population … VALUES (…, 1)
ON CONFLICT (…) DO UPDATE SET account_count = account_count + 1`. -/
def countHolder (new : User) : Statement KdfTables :=
  KdfTables.populationIn.upsertRow
    (fun _ _ => some { key := new.kdfTuple.key, accountCount := 1, positive := Nat.one_pos })
    (fun p _ => some p.increment) fun _ => []

/-- `trg_users_kdf_population_insert`. -/
def trgUsersKdfPopulationInsert (new : User) : List (Statement KdfTables) := [countHolder new]

/-- `trg_users_kdf_population_delete`. -/
def trgUsersKdfPopulationDelete (old : User) : List (Statement KdfTables) :=
  [raiseUnlessCounted "missing old KDF population during user delete" old, deleteLastHolder old,
    decrementHolders old]

/-- `trg_users_kdf_population_update`. -/
def trgUsersKdfPopulationUpdate (old new : User) : List (Statement KdfTables) :=
  if old.kdfAlgorithm ≠ new.kdfAlgorithm ∨ old.kdfIterations ≠ new.kdfIterations ∨
      old.kdfMemory ≠ new.kdfMemory ∨ old.kdfParallelism ≠ new.kdfParallelism then
    [raiseUnlessCounted "missing old KDF population during user update" old, deleteLastHolder old,
      decrementHolders old, countHolder new]
  else []

/-! ## Writes of `users` -/

/-- A row of `users` is written. -/
inductive UserRowWrite where
  | insert (new : User)
  | delete (old : User)
  | update (old new : User)

namespace UserRowWrite

/-- The write itself; a duplicate key refuses it. -/
def write : UserRowWrite → Statement KdfTables
  | insert new => KdfTables.usersIn.insertSelect fun _ _ => [new]
  | delete old => KdfTables.usersIn.delete fun _ _ u => u = old
  | update old new => KdfTables.usersIn.update (fun _ _ u => u = old) fun _ _ => new

/-- The body of the trigger that follows it. -/
def trigger : UserRowWrite → List (Statement KdfTables)
  | insert new => trgUsersKdfPopulationInsert new
  | delete old => trgUsersKdfPopulationDelete old
  | update old new => trgUsersKdfPopulationUpdate old new

/-- The row the write needs. -/
def Present (db : KdfTables) : UserRowWrite → Prop
  | insert _ => True
  | delete old => old ∈ db.users.rows
  | update old _ => old ∈ db.users.rows

instance (db : KdfTables) : DecidablePred (Present db) := fun w =>
  match w with
  | insert _ => instDecidableTrue
  | delete old => inferInstanceAs (Decidable (old ∈ db.users.rows))
  | update old _ => inferInstanceAs (Decidable (old ∈ db.users.rows))

/-- The write with its trigger; a row that is not there is not written. -/
def run (w : UserRowWrite) (db : KdfTables) : Except SqlError KdfTables :=
  if w.Present db then (runBatch (w.write :: w.trigger) db).map Prod.fst else .ok db

end UserRowWrite

/-- The row writes of one statement, in order. -/
def runRowWrites : List UserRowWrite → KdfTables → Except SqlError KdfTables
  | [], db => .ok db
  | w :: rest, db =>
    match w.run db with
    | .error e => .error e
    | .ok db' => runRowWrites rest db'

/-- A statement on `users`. -/
inductive UserStatement where
  | insert (new : List User)
  | delete (hit : User → Bool)
  | update (hit : User → Bool) (set : User → User)

/-- The rows it writes, and how. -/
def UserStatement.rowWrites (db : KdfTables) : UserStatement → List UserRowWrite
  | insert new => new.map .insert
  | delete hit => (db.users.rows.filter hit).map .delete
  | update hit set => (db.users.rows.filter hit).map fun u => .update u (set u)

/-- Run the statements in order: the tables afterwards, and the errors met on the way. A statement
that fails leaves the tables as they were. -/
def runStatements : List UserStatement → KdfTables → KdfTables × List SqlError
  | [], db => (db, [])
  | st :: rest, db =>
    match runRowWrites (st.rowWrites db) db with
    | .error e => ((runStatements rest db).1, e :: (runStatements rest db).2)
    | .ok db' => runStatements rest db'

/-! ## What a trigger does -/

section Triggers

variable {db : KdfTables} {n : Nat} {names : List KdfPopulationKey}

/-- The population counts `names`. -/
abbrev Counts (db : KdfTables) (names : List KdfPopulationKey) : Prop :=
  Tallies AccountKdfPopulation.accountCount db.accountKdfPopulation.rows names

theorem raiseUnlessCounted_run (h : Counts db names) {message : String} {old : User}
    (hold : old.kdfTuple.key ∈ names) :
    raiseUnlessCounted message old db n = .ok (db, { changes := n }) :=
  if_pos (h.counted _ hold)

theorem deleteLastHolder_run (db : KdfTables) (n : Nat) (old : User) :
    ∃ (T : Table AccountKdfPopulation) (r : StatementResult),
      deleteLastHolder old db n = .ok ({ db with accountKdfPopulation := T }, r) ∧
      T.rows = deleteWhere (fun p => p.key = old.kdfTuple.key ∧ p.accountCount = 1)
        db.accountKdfPopulation.rows :=
  ⟨⟨_, deleteWhere_keyed db.accountKdfPopulation.keyed⟩, _,
    TableIn.write_of_keyed (deleteWhere_keyed db.accountKdfPopulation.keyed), rfl⟩

theorem decrement_keepsKeys : KeepsKeys AccountKdfPopulation.decrement := by
  intro p
  refine ⟨?_, fun _ hc => hc⟩
  change p.decrement.key = p.key
  unfold AccountKdfPopulation.decrement
  split <;> rfl

theorem decrementHolders_run (db : KdfTables) (n : Nat) (old : User) :
    ∃ (T : Table AccountKdfPopulation) (r : StatementResult),
      decrementHolders old db n = .ok ({ db with accountKdfPopulation := T }, r) ∧
      T.rows = updateWhere (fun p => p.key = old.kdfTuple.key ∧ 1 < p.accountCount)
        AccountKdfPopulation.decrement db.accountKdfPopulation.rows := by
  obtain ⟨T, r, hrun, hT, -⟩ := TableIn.updateReturning_total KdfTables.populationIn
    (s := db) (fun _ _ p => p.key = old.kdfTuple.key ∧ 1 < p.accountCount)
    (fun _ => AccountKdfPopulation.decrement) n (fun _ => []) decrement_keepsKeys
  exact ⟨T, r, hrun, hT⟩

/-- The deletion and the decrement count one holder less. -/
theorem removeHolder_run (h : Counts db names) (n : Nat) (old : User) :
    ∃ (T T' : Table AccountKdfPopulation) (r r' : StatementResult),
      deleteLastHolder old db n = .ok ({ db with accountKdfPopulation := T }, r) ∧
      decrementHolders old { db with accountKdfPopulation := T } r.changes =
        .ok ({ db with accountKdfPopulation := T' }, r') ∧
      Counts { db with accountKdfPopulation := T' } (names.erase old.kdfTuple.key) := by
  obtain ⟨T, r, hdelete, hT⟩ := deleteLastHolder_run db n old
  obtain ⟨T', r', hdecrement, hT'⟩ :=
    decrementHolders_run { db with accountKdfPopulation := T } r.changes old
  have hremove := h.remove (k := old.kdfTuple.key) (fun p => (decrement_keepsKeys p).1)
    fun p hmany => by rw [AccountKdfPopulation.decrement, dif_pos hmany]
  refine ⟨T, T', r, r', hdelete, hdecrement, ?_⟩
  change Tallies _ T'.rows _
  rw [hT', hT]
  exact hremove

/-- The upsert counts one holder more. -/
theorem countHolder_run (h : Counts db names) (n : Nat) (new : User) :
    ∃ (T : Table AccountKdfPopulation) (r : StatementResult),
      Counts { db with accountKdfPopulation := T } (new.kdfTuple.key :: names) ∧
      countHolder new db n = .ok ({ db with accountKdfPopulation := T }, r) := by
  have hkeyed : KeyedRows (upsert (fun p _ => some p.increment) db.accountKdfPopulation.rows
      ⟨new.kdfTuple.key, 1, Nat.one_pos⟩).1 := by
    refine upsert_keyed (fun _ _ h => h) db.accountKdfPopulation.keyed fun old row hrow => ?_
    obtain rfl := Option.some.inj hrow
    rfl
  refine ⟨⟨_, hkeyed⟩, _, ?_, TableIn.write_of_keyed hkeyed⟩
  exact h.add AccountKdfPopulation.increment rfl (fun _ => rfl) (fun _ => rfl) fun _ => rfl

end Triggers

/-! ## Every statement keeps the counts -/

namespace UserRowWrite

variable {db : KdfTables}

/-- Where the settings are the same, the update trigger does not fire. -/
theorem trigger_update (old new : User) :
    (update old new).trigger = if old.kdfTuple ≠ new.kdfTuple then
      [raiseUnlessCounted "missing old KDF population during user update" old,
        deleteLastHolder old, decrementHolders old, countHolder new] else [] := by
  have hwhen : (old.kdfAlgorithm ≠ new.kdfAlgorithm ∨ old.kdfIterations ≠ new.kdfIterations ∨
      old.kdfMemory ≠ new.kdfMemory ∨ old.kdfParallelism ≠ new.kdfParallelism) ↔
      old.kdfTuple ≠ new.kdfTuple := by
    simp only [User.kdfTuple, ne_eq, KdfTuple.mk.injEq]
    tauto
  simp only [trigger, trgUsersKdfPopulationUpdate, hwhen]

theorem run_present {w : UserRowWrite} (h : w.Present db) :
    w.run db = (runBatch (w.write :: w.trigger) db).map Prod.fst := if_pos h

theorem run_absent {w : UserRowWrite} (h : ¬ w.Present db) : w.run db = .ok db := if_neg h

theorem run_insert_tallied (h : db.Tallied) (new : User) :
    (∃ db', (insert new).run db = .ok db' ∧ db'.Tallied) ∨
      (insert new).run db = .error (.unique "users") := by
  have hpresent : (insert new).Present db := trivial
  rw [run_present hpresent]
  by_cases hk : KeyedRows (db.users.rows ++ [new])
  · left
    have h' : Counts { db with users := ⟨_, hk⟩ } _ := h
    obtain ⟨T, r, htally, hcount⟩ := countHolder_run h' 1 new
    have hbatch : runBatch ((insert new).write :: (insert new).trigger) db =
        .ok ({ users := ⟨_, hk⟩, accountKdfPopulation := T }, _) :=
      runFrom_cons_ok (TableIn.write_of_keyed hk) (runFrom_cons_ok hcount rfl)
    exact ⟨_, by rw [hbatch]; rfl,
      htally.perm (perm_append (fun u : User => u.kdfTuple.key) db.users.rows new)⟩
  · right
    have hwrite : (insert new).write db 0 = .error (.unique "users") := dif_neg hk
    simp only [runBatch, runFrom, hwrite]
    rfl

theorem run_delete_tallied (h : db.Tallied) (old : User) :
    ∃ db', (delete old).run db = .ok db' ∧ db'.Tallied := by
  by_cases hold : (delete old).Present db
  · rw [run_present hold]
    have hk : KeyedRows (deleteWhere (fun u => u = old) db.users.rows) :=
      deleteWhere_keyed db.users.keyed
    have hcounted : old.kdfTuple.key ∈ db.keysInUse := List.mem_map_of_mem hold
    have hcounts : Counts { db with users := ⟨_, hk⟩ } db.keysInUse := h
    obtain ⟨T, T', r, r', hdelete, hdecrement, htally⟩ := removeHolder_run hcounts
      (db.users.rows.countP fun u => u = old) old
    have hbatch : runBatch ((delete old).write :: (delete old).trigger) db =
        .ok ({ users := ⟨_, hk⟩, accountKdfPopulation := T' }, _) :=
      runFrom_cons_ok (TableIn.write_of_keyed hk)
        (runFrom_cons_ok (raiseUnlessCounted_run hcounts hcounted)
          (runFrom_cons_ok hdelete (runFrom_cons_ok hdecrement rfl)))
    exact ⟨_, by rw [hbatch]; rfl,
      htally.perm (perm_deleteWhere (fun u : User => u.kdfTuple.key) db.users.nodup hold)⟩
  · exact ⟨db, run_absent hold, h⟩

theorem run_update_tallied (h : db.Tallied) (old new : User) :
    (∃ db', (update old new).run db = .ok db' ∧ db'.Tallied) ∨
      (update old new).run db = .error (.unique "users") := by
  by_cases hold : (update old new).Present db
  swap
  · exact Or.inl ⟨db, run_absent hold, h⟩
  rw [run_present hold]
  by_cases hk : KeyedRows (updateWhere (fun u => u = old) (fun _ => new) db.users.rows)
  swap
  · right
    have hwrite : (update old new).write db 0 = .error (.unique "users") := dif_neg hk
    simp only [runBatch, runFrom, hwrite]
    rfl
  left
  have hcounted : old.kdfTuple.key ∈ db.keysInUse := List.mem_map_of_mem hold
  have hcounts : Counts { db with users := ⟨_, hk⟩ } db.keysInUse := h
  have hnames : (new.kdfTuple.key :: db.keysInUse.erase old.kdfTuple.key).Perm
      ((updateWhere (fun u => u = old) (fun _ => new) db.users.rows).map
        fun u => u.kdfTuple.key) :=
    perm_updateWhere (fun u : User => u.kdfTuple.key) db.users.nodup new hold
  by_cases hsame : old.kdfTuple = new.kdfTuple
  · -- The WHEN condition is false, and the key in use before is the key in use after.
    obtain ⟨rs, hbatch⟩ : ∃ rs, runBatch ((update old new).write :: (update old new).trigger) db =
        .ok ({ db with users := ⟨_, hk⟩ }, rs) := by
      rw [trigger_update, if_neg (not_not_intro hsame)]
      exact ⟨_, runFrom_cons_ok (TableIn.write_of_keyed hk) rfl⟩
    rw [← hsame] at hnames
    refine ⟨{ db with users := ⟨_, hk⟩ }, by rw [hbatch]; rfl, ?_⟩
    exact h.perm ((List.perm_cons_erase hcounted).trans hnames)
  · obtain ⟨T, T', r, r', hdelete, hdecrement, hremoved⟩ := removeHolder_run hcounts
      (db.users.rows.countP fun u => u = old) old
    obtain ⟨T'', r'', htally, hcount⟩ := countHolder_run hremoved r'.changes new
    obtain ⟨rs, hbatch⟩ : ∃ rs, runBatch ((update old new).write :: (update old new).trigger) db =
        .ok ({ users := ⟨_, hk⟩, accountKdfPopulation := T'' }, rs) := by
      rw [trigger_update, if_pos hsame]
      exact ⟨_, runFrom_cons_ok (TableIn.write_of_keyed hk)
        (runFrom_cons_ok (raiseUnlessCounted_run hcounts hcounted)
          (runFrom_cons_ok hdelete (runFrom_cons_ok hdecrement (runFrom_cons_ok hcount rfl))))⟩
    exact ⟨_, by rw [hbatch]; rfl, htally.perm hnames⟩

/-- **A row write with its trigger keeps the counts, and only a duplicate key refuses it.** -/
theorem run_tallied (h : db.Tallied) : ∀ w : UserRowWrite,
    (∃ db', w.run db = .ok db' ∧ db'.Tallied) ∨ w.run db = .error (.unique "users")
  | insert new => run_insert_tallied h new
  | delete old => Or.inl (run_delete_tallied h old)
  | update old new => run_update_tallied h old new

end UserRowWrite

theorem runRowWrites_tallied : ∀ (writes : List UserRowWrite) {db : KdfTables}, db.Tallied →
    (∃ db', runRowWrites writes db = .ok db' ∧ db'.Tallied) ∨
      runRowWrites writes db = .error (.unique "users")
  | [], db, h => Or.inl ⟨db, rfl, h⟩
  | w :: rest, db, h => by
    rcases w.run_tallied h with ⟨db', hrun, h'⟩ | hrun
    · simp only [runRowWrites, hrun]
      exact runRowWrites_tallied rest h'
    · exact Or.inr (by simp only [runRowWrites, hrun])

theorem runStatements_tallied : ∀ (statements : List UserStatement) {db : KdfTables},
    db.Tallied → (runStatements statements db).1.Tallied ∧
      ∀ e ∈ (runStatements statements db).2, e = .unique "users"
  | [], _, h => ⟨h, fun _ he => absurd he List.not_mem_nil⟩
  | st :: rest, db, h => by
    unfold runStatements
    rcases runRowWrites_tallied (st.rowWrites db) h with ⟨db', hrun, h'⟩ | hrun
    · rw [hrun]
      exact runStatements_tallied rest h'
    · rw [hrun]
      obtain ⟨htally, herrors⟩ := runStatements_tallied rest h
      exact ⟨htally, fun e he => (List.mem_cons.mp he).elim (fun h => h) (herrors e)⟩

/-- **Whatever is inserted, deleted and updated, the population keeps counting the holders of every
tuple, and no trigger aborts a statement.** -/
theorem kdfPopulation_agrees {db : KdfTables} (hagrees : db.Agrees)
    (statements : List UserStatement) :
    (runStatements statements db).1.Agrees ∧
      ∀ e ∈ (runStatements statements db).2, ∀ message, e ≠ .raise message := by
  obtain ⟨htally, herrors⟩ := runStatements_tallied statements hagrees.tallied
  refine ⟨htally.agrees, fun e he message hraise => ?_⟩
  have hunique := herrors e he
  rw [hraise] at hunique
  cases hunique

/-- One account with a memory of zero and one with none. -/
def zeroAndNull : Table User where
  rows := [{ id := "zero", emailNormalized := "z", kdfMemory := some 0 },
    { id := "null", emailNormalized := "n" }]
  keyed := by decide

/-- They swap their settings, and the second leaves. -/
def swapAndLeave : List UserStatement :=
  [.update (fun _ => true) fun u => { u with
      kdfMemory := if u.kdfMemory = none then some 0 else none },
    .delete fun u => u.id = "null"]

theorem kdfPopulation_agrees_swap :
    (runStatements swapAndLeave (KdfTables.backfill zeroAndNull)).1.Agrees ∧
      ∀ e ∈ (runStatements swapAndLeave (KdfTables.backfill zeroAndNull)).2,
        ∀ message, e ≠ .raise message :=
  kdfPopulation_agrees (KdfTables.agrees_backfill zeroAndNull) swapAndLeave

end HonoWarden
