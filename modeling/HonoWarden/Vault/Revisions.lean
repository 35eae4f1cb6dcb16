import HonoWarden.Organization.Address

/-!
# Updates that present a revision

An update of a personal cipher, an organization cipher or a folder presents the revision its
client has seen, and the server assigns a new one from its clock. The presented revision is
compared in the WHERE of the update, so an accepted update spends it, unless the revision it
assigns is the one it was given. `updateOrganizationCipher` asks for `revision_date < ?` besides;
`updateCipher` and `updateFolder` do not.

`updateSystem` lets any number of updates present one revision of one item, among other writes,
none of which brings the revision back.

Results:
* `ItemUpdate.run_accepted`: an accepted update has found the presented revision;
* `ItemUpdate.run_spent`: and has taken it away, where it assigned another;
* **`updates_exclusive`**: of all updates that present one revision at most one is accepted, and
  every other is told that the item is missing or has moved on;
* `updates_overwritten`: two updates within the millisecond of the revision are both accepted.
-/

namespace HonoWarden

open Relational

/-! ## Items and updates -/

/-- What an update is made to. -/
inductive VaultItem where
  | cipher (id : String)
  | folder (id : String)
  deriving DecidableEq, Repr

/-- The item stands at the revision. -/
def VaultItem.At (db : Db) (revision : Timestamp) : VaultItem → Prop
  | cipher id => db.ciphers.Stands Cipher.revisionDate id revision
  | folder id => db.folders.Stands Folder.revisionDate id revision

/-- An update request. -/
inductive ItemUpdate where
  | cipher (input : CipherUpdateInput)
  | organizationCipher (input : OrganizationCipherUpdateInput)
  | folder (input : FolderUpdateInput)

/-- What became of its statement. -/
inductive UpdateOutcome where
  | accepted
  | refused
  | failed
  deriving DecidableEq, Repr

/-- What a refused request is told. -/
inductive UpdateRefusal where
  | notFound
  | conflict
  deriving DecidableEq, Repr

namespace ItemUpdate

def item : ItemUpdate → VaultItem
  | cipher input => .cipher input.id
  | organizationCipher input => .cipher input.id
  | folder input => .folder input.id

/-- The revision the client has seen. -/
def presented : ItemUpdate → Timestamp
  | cipher input => input.expectedRevisionDate
  | organizationCipher input => input.expectedRevisionDate
  | folder input => input.expectedRevisionDate

/-- The outcome of a statement that counts the rows it wrote. -/
def counted : Except Failure Nat → UpdateOutcome
  | .ok changes => if changes = 1 then .accepted else .refused
  | .error _ => .failed

/-- The outcome of a statement that returns the row it wrote. -/
def returned : Except Failure (Option Cipher) → UpdateOutcome
  | .ok (some _) => .accepted
  | .ok none => .refused
  | .error _ => .failed

/-- The statement of the request. -/
def run (db : Db) : ItemUpdate → Db × UpdateOutcome
  | cipher input => ((attemptUpdateCipher input db).1, counted (attemptUpdateCipher input db).2)
  | organizationCipher input =>
    ((attemptUpdateOrganizationCipher input db).1,
      returned (attemptUpdateOrganizationCipher input db).2)
  | folder input => ((attemptUpdateFolder input db).1, counted (attemptUpdateFolder input db).2)

/-- What the second query of a refused request reads, in the state it meets; `none` would be an
update after all. -/
def refusal (db : Db) : ItemUpdate → Option UpdateRefusal
  | cipher input =>
    match input.answer none 0 db with
    | .updated _ => none
    | .notFound => some .notFound
    | .conflict _ => some .conflict
  | organizationCipher input =>
    match mutationFailure db input.target fun c => c.deletedAt = none with
    | .notFound => some .notFound
    | .conflict _ => some .conflict
  | folder input =>
    match input.answer 0 db with
    | .updated _ => none
    | .notFound => some .notFound
    | .conflict _ => some .conflict

/-- What the handlers have checked: the folder of a personal cipher, whose row stays while the
account does, and the length of an organization cipher's key. -/
def Checked (db : Db) : ItemUpdate → Prop
  | cipher input => ∀ c ∈ db.ciphers.rows, input.Hit c → (input.apply c).Refers db
  | organizationCipher input => ¬ CipherKeyRefused input.cipherKey
  | folder _ => True

instance (db : Db) : DecidablePred (Checked db) := fun u =>
  match u with
  | cipher _ => inferInstanceAs (Decidable (∀ c ∈ db.ciphers.rows, _))
  | organizationCipher input => inferInstanceAs (Decidable (¬ CipherKeyRefused input.cipherKey))
  | folder _ => instDecidableTrue

/-- The clock assigns another revision than the presented one, where the statement does not ask
for that itself. -/
def Moves : ItemUpdate → Prop
  | cipher input => input.revisionDate ≠ input.expectedRevisionDate
  | organizationCipher _ => True
  | folder input => input.revisionDate ≠ input.expectedRevisionDate

/-- A refused request is told why. -/
theorem refusal_isSome (db : Db) (u : ItemUpdate) : (u.refusal db).isSome := by
  cases u with
  | cipher input =>
    simp only [refusal, CipherUpdateInput.answer, if_pos Nat.zero_ne_one]
    cases findActiveCipherRevision db input.id input.userId <;> rfl
  | organizationCipher input =>
    simp only [refusal]
    split <;> rfl
  | folder input =>
    simp only [refusal, FolderUpdateInput.answer, if_pos Nat.zero_ne_one]
    cases findActiveFolderRevision db input.id input.userId <;> rfl

/-! ## One update -/

/-- What a statement does: it is refused and writes nothing, or it takes the presented revision. -/
structure Swapped (u : ItemUpdate) (db : Db) : Prop where
  settled : u.Checked db → (u.run db).2 ≠ .failed
  accepted : (u.run db).2 = .accepted → u.item.At db u.presented
  spent : (u.run db).2 = .accepted → u.Moves → ¬ u.item.At (u.run db).1 u.presented
  refused : (u.run db).2 ≠ .accepted → (u.run db).1 = db

/-- A statement that fixes the key and counts its rows. -/
theorem counted_accepted {α κ : Type} [Keyed α κ] {t : Table α} {k : κ} {hit : α → Prop}
    [DecidablePred hit] (hhit : ∀ a, hit a → Keyed.key a = k) :
    counted (.ok (t.rows.countP fun a => hit a)) = .accepted ↔ ∃ a ∈ t.rows, hit a := by
  rw [← t.countP_eq_one_iff k hhit, counted]
  split
  · rename_i h
    simp [h]
  · rename_i h
    simp [h]

theorem counted_settled (changes : Nat) : counted (.ok changes) ≠ .failed := by
  by_cases h : changes = 1 <;> simp [counted, h]

theorem cipher_swapped (input : CipherUpdateInput) (db : Db) : (cipher input).Swapped db := by
  have hkey : ∀ c, input.Hit c → Keyed.key c = input.id := fun _ h => h.1.1
  rcases attemptUpdateCipher_cases input db with ⟨hrun, c, hc, hhit, hdangling⟩ | ⟨T, hrun, hT⟩
  · have hfailed : (cipher input).run db = (db, .failed) := by simp only [run, hrun, counted]
    refine ⟨fun hchecked => absurd (hchecked c hc hhit) hdangling, ?_, ?_, ?_⟩ <;>
      simp [hfailed]
  · have hstate : ((cipher input).run db).1 = { db with ciphers := T } := by
      simp only [run, hrun]
    have houtcome : ((cipher input).run db).2 =
        counted (.ok (db.ciphers.rows.countP fun c => input.Hit c)) := by
      simp only [run, hrun]
    have haccepted := counted_accepted (t := db.ciphers) hkey
    rw [← houtcome] at haccepted
    refine ⟨fun _ => houtcome ▸ counted_settled _, fun h => ?_, fun h hmoves => ?_, fun h => ?_⟩
    · obtain ⟨c, hc, hhit⟩ := haccepted.mp h
      exact ⟨c, hc, hkey c hhit, hhit.2.2⟩
    · have hset : ∀ c, input.Hit c → (input.apply c).revisionDate ≠ input.expectedRevisionDate :=
        fun _ _ => hmoves
      rw [hstate]
      exact Table.not_stands_of_swap hkey (haccepted.mp h) hset hT
    · rw [hstate, Table.rows_of_miss (fun hsome => h (haccepted.mpr hsome)) hT]

theorem folder_swapped (input : FolderUpdateInput) (db : Db) : (folder input).Swapped db := by
  have hkey : ∀ f, input.Hit f → Keyed.key f = input.id := fun _ h => h.1.1
  obtain ⟨T, hrun, hT⟩ := attemptUpdateFolder_eq input db
  have hstate : ((folder input).run db).1 = { db with folders := T } := by
    simp only [run, hrun]
  have houtcome : ((folder input).run db).2 =
      counted (.ok (db.folders.rows.countP fun f => input.Hit f)) := by
    simp only [run, hrun]
  have haccepted := counted_accepted (t := db.folders) hkey
  rw [← houtcome] at haccepted
  refine ⟨fun _ => houtcome ▸ counted_settled _, fun h => ?_, fun h hmoves => ?_, fun h => ?_⟩
  · obtain ⟨f, hf, hhit⟩ := haccepted.mp h
    exact ⟨f, hf, hkey f hhit, hhit.2⟩
  · have hset : ∀ f, input.Hit f → (input.apply f).revisionDate ≠ input.expectedRevisionDate :=
      fun _ _ => hmoves
    rw [hstate]
    exact Table.not_stands_of_swap hkey (haccepted.mp h) hset hT
  · rw [hstate, Table.rows_of_miss (fun hsome => h (haccepted.mpr hsome)) hT]

theorem returned_accepted {rows : List Cipher} :
    returned (.ok rows.head?) = .accepted ↔ rows ≠ [] := by
  cases rows <;> simp [returned]

/-- The statement asks for a later revision itself. -/
theorem organizationCipher_swapped (input : OrganizationCipherUpdateInput) (db : Db) :
    (organizationCipher input).Swapped db := by
  have hkey : ∀ c, input.Hit db c → Keyed.key c = input.id := fun _ h => h.1
  by_cases hrefused : CipherKeyRefused input.cipherKey
  · have hfailed : (organizationCipher input).run db = (db, .failed) := by
      simp only [run, attemptUpdateOrganizationCipher, if_pos hrefused, returned]
    refine ⟨fun hchecked => absurd hrefused hchecked, ?_, ?_, ?_⟩ <;> simp [hfailed]
  · obtain ⟨T, hrun, hT⟩ := @attemptUpdateOrganizationCipher_eq db input hrefused
    have hstate : ((organizationCipher input).run db).1 = { db with ciphers := T } := by
      simp only [run, hrun]
    have houtcome : ((organizationCipher input).run db).2 =
        returned (.ok ((db.ciphers.rows.filter fun c => input.Hit db c).map input.apply).head?) := by
      simp only [run, hrun]
    have haccepted : ((organizationCipher input).run db).2 = .accepted ↔
        ∃ c ∈ db.ciphers.rows, input.Hit db c := by
      rw [houtcome, returned_accepted, ne_eq, List.map_eq_nil_iff]
      exact filter_ne_nil
    refine ⟨fun _ => ?_, fun h => ?_, fun h _ => ?_, fun h => ?_⟩
    · rw [houtcome]
      cases ((db.ciphers.rows.filter fun c => input.Hit db c).map input.apply) <;> simp [returned]
    · obtain ⟨c, hc, hhit⟩ := haccepted.mp h
      exact ⟨c, hc, hkey c hhit, hhit.2.2.1⟩
    · rw [hstate]
      refine Table.not_stands_of_swap hkey (haccepted.mp h) (fun c hhit => ?_) hT
      change input.revisionDate ≠ input.expectedRevisionDate
      have hlater := hhit.2.2.2.1
      rw [hhit.2.2.1] at hlater
      exact hlater.ne'
    · rw [hstate, Table.rows_of_miss (fun hsome => h (haccepted.mpr hsome)) hT]

theorem swapped (db : Db) : ∀ u : ItemUpdate, u.Swapped db
  | cipher input => cipher_swapped input db
  | organizationCipher input => organizationCipher_swapped input db
  | folder input => folder_swapped input db

/-- **An accepted update has found the presented revision.** -/
theorem run_accepted {u : ItemUpdate} {db : Db} (h : (u.run db).2 = .accepted) :
    u.item.At db u.presented :=
  (u.swapped db).accepted h

/-- **It takes the presented revision away, where it assigns another.** -/
theorem run_spent {u : ItemUpdate} {db : Db} (h : (u.run db).2 = .accepted) (hmoves : u.Moves) :
    ¬ u.item.At (u.run db).1 u.presented :=
  (u.swapped db).spent h hmoves

/-- What is not accepted writes nothing. -/
theorem run_refused {u : ItemUpdate} {db : Db} (h : (u.run db).2 ≠ .accepted) :
    (u.run db).1 = db :=
  (u.swapped db).refused h

end ItemUpdate

/-! ## Runs -/

/-- An update with its outcome, or another write. -/
inductive ItemMove where
  | update (u : ItemUpdate) (outcome : UpdateOutcome)
  | surroundings (write : Db → Db)

/-- The move is an accepted update. -/
def ItemMove.Accepted : ItemMove → Prop
  | update _ outcome => outcome = .accepted
  | surroundings _ => False

instance : DecidablePred ItemMove.Accepted := fun move =>
  match move with
  | .update _ outcome => inferInstanceAs (Decidable (outcome = .accepted))
  | .surroundings _ => instDecidableFalse

/-- What a move does. -/
def ItemMove.Step (db : Db) : ItemMove → Db → Prop
  | update u outcome, db' => u.run db = (db', outcome)
  | surroundings write, db' => db' = write db

/-- The move is an update that presents the revision of the item, as its handler passes it on, or
a write that does not bring the revision back. -/
def ItemMove.Races (item : VaultItem) (revision : Timestamp) (db : Db) : ItemMove → Prop
  | update u _ => u.item = item ∧ u.presented = revision ∧ u.Checked db
  | surroundings write => item.At (write db) revision → item.At db revision

/-- Updates that present one revision of one item, among other writes. -/
def updateSystem (item : VaultItem) (revision : Timestamp) : System Db ItemMove String where
  step db move db' := move.Step db db' ∧ move.Races item revision db
  draws _ := []

/-- The update assigns another revision than the presented one. -/
def ItemMove.Moves : ItemMove → Prop
  | update u _ => u.Moves
  | surroundings _ => True

/-- A move was accepted, or was refused and is told that the item is missing or has moved on,
whatever its second query meets. -/
def ItemMove.Answered : ItemMove → Prop
  | update u outcome => outcome = .accepted ∨ outcome = .refused ∧ ∀ db, (u.refusal db).isSome
  | surroundings _ => True

section Runs

variable {item : VaultItem} {revision : Timestamp}

/-- A move that is not accepted does not bring the revision back, and an accepted one takes it. -/
theorem ItemMove.step_at {move : ItemMove} {db db' : Db} (hstep : move.Step db db')
    (hraces : move.Races item revision db) (hmoves : move.Moves) :
    (item.At db' revision → item.At db revision) ∧
      (move.Accepted → item.At db revision ∧ ¬ item.At db' revision) := by
  cases move with
  | surroundings write =>
    obtain rfl : db' = write db := hstep
    exact ⟨hraces, False.elim⟩
  | update u outcome =>
    obtain ⟨rfl, rfl, -⟩ := hraces
    have hdb : (u.run db).1 = db' := congrArg Prod.fst hstep
    have houtcome : (u.run db).2 = outcome := congrArg Prod.snd hstep
    subst hdb houtcome
    by_cases haccepted : (u.run db).2 = .accepted
    · exact ⟨fun _ => ItemUpdate.run_accepted haccepted, fun _ =>
        ⟨ItemUpdate.run_accepted haccepted, ItemUpdate.run_spent haccepted hmoves⟩⟩
    · rw [ItemUpdate.run_refused haccepted]
      exact ⟨fun h => h, fun h => absurd h haccepted⟩

theorem ItemMove.step_answered {move : ItemMove} {db db' : Db} (hstep : move.Step db db')
    (hraces : move.Races item revision db) : move.Answered := by
  cases move with
  | surroundings write => trivial
  | update u outcome =>
    have houtcome : (u.run db).2 = outcome := congrArg Prod.snd hstep
    have hsettled := (u.swapped db).settled hraces.2.2
    rw [houtcome] at hsettled
    cases outcome with
    | accepted => exact Or.inl rfl
    | refused => exact Or.inr ⟨rfl, fun db => u.refusal_isSome db⟩
    | failed => exact absurd rfl hsettled

/-- **No lost update**: where every update assigns another revision than the one it presents, at
most one of those that present the same revision is accepted, and every other one is told that the
item is missing or has moved on. -/
theorem updates_exclusive {db : Db} {issued : List String} {moves : List ItemMove}
    {c : Config Db String}
    (hrun : Run ((updateSystem item revision).restrict fun _ move => move.Moves)
      { state := db, issued := issued } moves c) :
    moves.countP ItemMove.Accepted ≤ 1 ∧ ∀ move ∈ moves, move.Answered := by
  have hinv : (moves.countP ItemMove.Accepted = 0 ∨
      moves.countP ItemMove.Accepted = 1 ∧ ¬ item.At c.state revision) ∧
      ∀ move ∈ moves, move.Answered := by
    refine hrun.invariant_trace (I := fun moves c => (moves.countP ItemMove.Accepted = 0 ∨
      moves.countP ItemMove.Accepted = 1 ∧ ¬ item.At c.state revision) ∧
      ∀ move ∈ moves, move.Answered) ⟨Or.inl rfl, by simp⟩ ?_
    intro moves c move c' hnext ih
    obtain ⟨⟨hstep, hraces⟩, hmoves⟩ := hnext.step
    obtain ⟨hback, haccepted⟩ := ItemMove.step_at hstep hraces hmoves
    refine ⟨?_, fun m hm => ?_⟩
    · rw [List.countP_append, List.countP_singleton]
      by_cases h : move.Accepted
      · obtain ⟨hfound, hspent⟩ := haccepted h
        rcases ih.1 with hzero | ⟨-, hgone⟩
        · exact Or.inr ⟨by simp [hzero, h], hspent⟩
        · exact absurd hfound hgone
      · rcases ih.1 with hzero | ⟨hone, hgone⟩
        · exact Or.inl (by simp [hzero, h])
        · exact Or.inr ⟨by simp [hone, h], fun hat => hgone (hback hat)⟩
    · rcases List.mem_append.mp hm with hm | hm
      · exact ih.2 m hm
      · rw [List.mem_singleton.mp hm]
        exact ItemMove.step_answered hstep hraces
  exact ⟨by omega, hinv.2⟩

end Runs

/-! ### Two editors -/

/-- A cipher at revision 5. -/
def editedCipher : Db where
  users := ⟨[{ id := "u" }], by decide⟩
  ciphers := ⟨[{ id := "c", userId := "u", encryptedJson := "{}", revisionDate := 5 }], by decide⟩

/-- An update of it that presents revision 5, made at `now`. -/
def edit (encryptedJson : String) (now : Timestamp) : ItemUpdate :=
  .cipher
    { id := "c"
      userId := "u"
      folderId := none
      type := 1
      favorite := false
      encryptedJson := encryptedJson
      revisionDate := now
      createdAt := now
      deletedAt := none
      expectedRevisionDate := 5 }

/-- The state after two edits. -/
def afterEdits (first second : ItemUpdate) : Db :=
  (second.run (first.run editedCipher).1).1

/-- Two edits that race are a run. -/
theorem edits_run {first second : ItemUpdate} {outcome outcome' : UpdateOutcome}
    {P : Db → ItemMove → Prop}
    (hfirst : (ItemMove.update first (first.run editedCipher).2).Races (.cipher "c") 5 editedCipher ∧
      P editedCipher (.update first outcome))
    (hsecond : (ItemMove.update second outcome').Races (.cipher "c") 5 (first.run editedCipher).1 ∧
      P (first.run editedCipher).1 (.update second outcome'))
    (houtcome : (first.run editedCipher).2 = outcome)
    (houtcome' : (second.run (first.run editedCipher).1).2 = outcome') :
    Run ((updateSystem (.cipher "c") 5).restrict P) { state := editedCipher }
      [.update first outcome, .update second outcome'] { state := afterEdits first second } := by
  subst houtcome houtcome'
  have hnext : ((updateSystem (.cipher "c") 5).restrict P).Next { state := editedCipher }
      (.update first (first.run editedCipher).2) { state := (first.run editedCipher).1 } :=
    ⟨⟨⟨rfl, hfirst.1⟩, hfirst.2⟩, by simp [System.restrict, updateSystem], rfl⟩
  have hnext' : ((updateSystem (.cipher "c") 5).restrict P).Next
      { state := (first.run editedCipher).1 }
      (.update second (second.run (first.run editedCipher).1).2)
      { state := afterEdits first second } :=
    ⟨⟨⟨rfl, hsecond.1⟩, hsecond.2⟩, by simp [System.restrict, updateSystem], rfl⟩
  exact hnext.head (.tail .refl hnext')

theorem updates_exclusive_edits :
    ([ItemMove.update (edit "first" 6) .accepted, .update (edit "second" 7) .refused].countP
        ItemMove.Accepted ≤ 1) ∧
      ∀ move ∈ [ItemMove.update (edit "first" 6) .accepted, .update (edit "second" 7) .refused],
        move.Answered :=
  updates_exclusive (edits_run ⟨⟨rfl, rfl, by decide⟩, Nat.succ_ne_self 5⟩
    ⟨⟨rfl, rfl, by decide⟩, fun h => by cases h⟩ (by decide) (by decide))

/-- **Two updates within the millisecond of the revision**: the second overwrites the first. -/
theorem updates_overwritten :
    Run (updateSystem (.cipher "c") 5) { state := editedCipher }
      [.update (edit "first" 5) .accepted, .update (edit "second" 5) .accepted]
      { state := afterEdits (edit "first" 5) (edit "second" 5) } ∧
    (afterEdits (edit "first" 5) (edit "second" 5)).ciphers.rows.map Cipher.encryptedJson =
      ["second"] ∧
    ¬ [ItemMove.update (edit "first" 5) .accepted, .update (edit "second" 5) .accepted].countP
      ItemMove.Accepted ≤ 1 :=
  ⟨(edits_run (P := fun _ _ => True) ⟨⟨rfl, rfl, by decide⟩, trivial⟩
    ⟨⟨rfl, rfl, by decide⟩, trivial⟩ (by decide) (by decide)).unrestrict, by decide, by decide⟩

end HonoWarden
