import HonoWarden.TextSend.Repository

/-!
# Access to a text Send

What holds of the Sends in any interleaving of creation, update, removal of the password, deletion
and access, with any clocks, while the rest of the database changes as it likes.

An owner's write either moves both the revision and the access generation of a Send on, or leaves
its row as it is (`TextSendRow.Advances`). An access counts, and changes nothing an owner has
written (`TextSendRow.frozen`). So between two points of a run a Send is frozen or has advanced
(`TextSendRow.Before`), which is what an access that presents a generation relies on.

A run also keeps a record: the rows as they were created, the revision each successful update
expected, and the Send of each successful access.

Results:
* `updateTextSend_cases`, …, `createTextSend_outcome`: what one request does;
* `sendAccess_next`, `sendAccess_run`: what one step of a run keeps, and a whole run;
* `consumeTextSendAccess_meets`: an access meets the Send its generation was read with;
* **`textSend_access`**: the counts, the limits, the revisions and the generations of every run.
-/

namespace HonoWarden

open Relational

/-- `nextTextSendRevisionDate`. -/
def nextTextSendRevisionDate (currentRevisionDate candidateRevisionDate : Timestamp) : Timestamp :=
  max candidateRevisionDate (currentRevisionDate + 1)

/-- Whatever the clock says, the next revision is later. -/
theorem lt_nextTextSendRevisionDate (current candidate : Timestamp) :
    current < nextTextSendRevisionDate current candidate :=
  Nat.lt_of_succ_le (Nat.le_max_right _ _)

namespace TextSendRow

/-- A Send but for what an access writes: its content, its password, its state, its limits. -/
def frozen (r : TextSendRow) : TextSendRow :=
  { r with accessCount := 0, lastAccessedAt := none, updatedAt := 0 }

/-- `r'` is `r` after a write of its owner that takes effect. -/
structure Advances (r r' : TextSendRow) : Prop where
  id : r'.id = r.id
  capabilityVerifier : r'.capabilityVerifier = r.capabilityVerifier
  accessCount : r'.accessCount = r.accessCount
  revisionDate : r.revisionDate < r'.revisionDate
  accessGeneration : r.accessGeneration < r'.accessGeneration

/-- `r'` is what `r` has become. -/
structure Before (r r' : TextSendRow) : Prop where
  id : r'.id = r.id
  capabilityVerifier : r'.capabilityVerifier = r.capabilityVerifier
  accessCount : r.accessCount ≤ r'.accessCount
  frozen : r'.frozen = r.frozen ∨
    (r.revisionDate < r'.revisionDate ∧ r.accessGeneration < r'.accessGeneration)

variable {r r' r'' : TextSendRow}

theorem revisionDate_eq_of_frozen (h : r'.frozen = r.frozen) :
    r'.revisionDate = r.revisionDate := by
  change r'.frozen.revisionDate = r.frozen.revisionDate
  rw [h]

theorem accessGeneration_eq_of_frozen (h : r'.frozen = r.frozen) :
    r'.accessGeneration = r.accessGeneration := by
  change r'.frozen.accessGeneration = r.frozen.accessGeneration
  rw [h]

theorem Advances.before (h : r.Advances r') : r.Before r' where
  id := h.id
  capabilityVerifier := h.capabilityVerifier
  accessCount := h.accessCount.ge
  frozen := Or.inr ⟨h.revisionDate, h.accessGeneration⟩

@[refl] theorem Before.refl (r : TextSendRow) : r.Before r := ⟨rfl, rfl, le_rfl, Or.inl rfl⟩

@[trans] theorem Before.trans (h : r.Before r') (h' : r'.Before r'') : r.Before r'' where
  id := h'.id.trans h.id
  capabilityVerifier := h'.capabilityVerifier.trans h.capabilityVerifier
  accessCount := h.accessCount.trans h'.accessCount
  frozen := by
    rcases h.frozen with hsame | ⟨hrevision, hgeneration⟩
    · rcases h'.frozen with hsame' | hmoved
      · exact Or.inl (hsame'.trans hsame)
      · rw [revisionDate_eq_of_frozen hsame, accessGeneration_eq_of_frozen hsame] at hmoved
        exact Or.inr hmoved
    · right
      rcases h'.frozen with hsame' | ⟨hrevision', hgeneration'⟩
      · rw [revisionDate_eq_of_frozen hsame', accessGeneration_eq_of_frozen hsame']
        exact ⟨hrevision, hgeneration⟩
      · exact ⟨hrevision.trans hrevision', hgeneration.trans hgeneration'⟩

/-- A Send that is not what it was has a later generation. -/
theorem Before.lt_of_ne (h : r.Before r') (hne : r'.frozen ≠ r.frozen) :
    r.revisionDate < r'.revisionDate ∧ r.accessGeneration < r'.accessGeneration :=
  h.frozen.resolve_left hne

/-- A Send of the same generation is what it was. -/
theorem Before.frozen_eq (h : r.Before r') (hgen : r'.accessGeneration = r.accessGeneration) :
    r'.frozen = r.frozen :=
  h.frozen.resolve_right fun hmoved => absurd hgen hmoved.2.ne'

end TextSendRow

/-! ## What a write makes of its row -/

section Writes

variable {r : TextSendRow}

theorem UpdateTextSendInput.advances {input : UpdateTextSendInput} (h : input.Hit r) :
    r.Advances (input.set r) where
  id := rfl
  capabilityVerifier := rfl
  accessCount := rfl
  revisionDate := h.2.2.2.2.2.2
  accessGeneration := Nat.lt_succ_self _

/-- Without a password there is nothing to remove. -/
theorem OwnerMutationInput.removeAuth_eq_self (input : OwnerMutationInput) (h : r.Unprotected) :
    input.removeAuth r = r := by
  simp only [removeAuth, if_pos h]
  obtain ⟨hauth, hverifier, hkey⟩ := h
  cases r
  cases hauth
  cases hverifier
  cases hkey
  rfl

theorem OwnerMutationInput.removeAuth_cases {input : OwnerMutationInput} (h : input.Removes r) :
    (r.Unprotected ∧ input.removeAuth r = r) ∨ r.Advances (input.removeAuth r) := by
  by_cases hdone : r.Unprotected
  · exact Or.inl ⟨hdone, input.removeAuth_eq_self hdone⟩
  · have hlater : r.revisionDate < input.now := h.2.2.2.resolve_left hdone
    refine Or.inr ⟨rfl, rfl, rfl, ?_, ?_⟩
    · exact hlater.trans_eq (if_neg hdone).symm
    · exact (Nat.lt_succ_self _).trans_eq (if_neg hdone).symm

/-- A deleted Send is not deleted again. -/
theorem OwnerMutationInput.delete_cases {input : OwnerMutationInput} (h : input.Deletes r) :
    (r.deletedAt ≠ none ∧ input.delete r = r) ∨ r.Advances (input.delete r) := by
  obtain ⟨-, -, -, ⟨hdone, -, -⟩ | ⟨hopen, hlater⟩⟩ := h
  · left
    refine ⟨hdone, ?_⟩
    simp only [delete, if_neg hdone]
  · right
    refine ⟨rfl, rfl, rfl, ?_, ?_⟩
    · exact hlater.trans_eq (if_pos hopen).symm
    · exact (Nat.lt_succ_self _).trans_eq (if_pos hopen).symm

theorem ConsumeTextSendAccessInput.before (input : ConsumeTextSendAccessInput) (r : TextSendRow) :
    r.Before (input.set r) :=
  ⟨rfl, rfl, Nat.le_succ _, Or.inl rfl⟩

end Writes

/-! ## What a request does -/

/-- The row of a write that took hold. -/
def written (answer : Except Failure (Option TextSendRow)) : Option TextSendRow :=
  match answer with
  | .ok row => row
  | .error _ => none

/-- What a write that keeps to `Before` does to a Send. -/
def SendsBefore (db db' : TextSendDb) : Prop :=
  ∀ r ∈ db.sends.rows, ∃ r' ∈ db'.sends.rows, r.Before r'

@[refl] theorem SendsBefore.refl (db : TextSendDb) : SendsBefore db db :=
  fun r hr => ⟨r, hr, .refl r⟩

@[trans] theorem SendsBefore.trans {db db' db'' : TextSendDb} (h : SendsBefore db db')
    (h' : SendsBefore db' db'') : SendsBefore db db'' := by
  intro r hr
  obtain ⟨r', hr', hb⟩ := h r hr
  obtain ⟨r'', hr'', hb'⟩ := h' r' hr'
  exact ⟨r'', hr'', hb.trans hb'⟩

section Requests

variable {db db' : TextSendDb} {r r' : TextSendRow}

/-- The rows of a write that took hold: the others, and the new one. -/
theorem SendWritten.mem_iff (h : SendWritten r r' db db') {s : TextSendRow} :
    s ∈ db'.sends.rows ↔ (s ∈ db.sends.rows ∧ s.id ≠ r.id) ∨ s = r' := by
  rw [h.rows]
  constructor
  · intro hs
    rcases mem_updateWhere_cases hs with hold | ⟨_, _, _, rfl⟩
    · exact Or.inl hold
    · exact Or.inr rfl
  · rintro (⟨hs, hne⟩ | rfl)
    · exact mem_updateWhere_of_not_hit hs hne
    · exact mem_updateWhere_of_hit h.found rfl

theorem SendWritten.sendsBefore (h : SendWritten r r' db db') (hb : r.Before r') :
    SendsBefore db db' := by
  intro s hs
  by_cases hid : s.id = r.id
  · obtain rfl := db.sends.eq_of_key hs h.found hid
    exact ⟨r', h.mem_iff.mpr (Or.inr rfl), hb⟩
  · exact ⟨s, h.mem_iff.mpr (Or.inl ⟨hs, hid⟩), .refl s⟩

/-- A write that finds at most one Send either took hold, or did nothing. -/
theorem written_writeSend_cases {hit : TextSendRow → Prop} [DecidablePred hit]
    {set : TextSendRow → TextSendRow}
    (hone : ∀ a ∈ db.sends.rows, ∀ b ∈ db.sends.rows, hit a → hit b → a.id = b.id) :
    (∃ r, hit r ∧ written (writeSend hit set db).2 = some (set r) ∧
      SendWritten r (set r) db (writeSend hit set db).1) ∨
    (written (writeSend hit set db).2 = none ∧ (writeSend hit set db).1 = db) := by
  rcases @writeSend_outcome hit _ set db hone with ⟨r, hhit, hok, hw⟩ | ⟨hfailed, hsame⟩
  · refine Or.inl ⟨r, hhit, ?_, hw⟩
    rw [hok]
    rfl
  · refine Or.inr ⟨?_, hsame⟩
    cases hanswer : (writeSend hit set db).2 with
    | error e => rfl
    | ok row =>
      cases row with
      | none => rfl
      | some s => exact absurd hanswer (hfailed s)

/-- **An update takes hold on the revision it expects, and advances the Send.** -/
theorem updateTextSend_cases (input : UpdateTextSendInput) (db : TextSendDb) :
    (∃ r, input.Hit r ∧ r.Advances (input.set r) ∧
      written (updateTextSend input db).2 = some (input.set r) ∧
      SendWritten r (input.set r) db (updateTextSend input db).1) ∨
    (written (updateTextSend input db).2 = none ∧ (updateTextSend input db).1 = db) := by
  have hone : ∀ a ∈ db.sends.rows, ∀ b ∈ db.sends.rows, input.Hit a → input.Hit b →
      a.id = b.id := fun a _ b _ ha hb => ha.1.trans hb.1.symm
  rcases @written_writeSend_cases db _ _ input.set hone with ⟨r, hhit, hw⟩ | hidle
  · exact Or.inl ⟨r, hhit, UpdateTextSendInput.advances hhit, hw⟩
  · exact Or.inr hidle

/-- **The removal of a password advances the Send that has one, and leaves another as it is.** -/
theorem removeTextSendAuth_cases (input : OwnerMutationInput) (db : TextSendDb) :
    (∃ r, ((r.Unprotected ∧ input.removeAuth r = r) ∨ r.Advances (input.removeAuth r)) ∧
      written (removeTextSendAuth input db).2 = some (input.removeAuth r) ∧
      SendWritten r (input.removeAuth r) db (removeTextSendAuth input db).1) ∨
    (written (removeTextSendAuth input db).2 = none ∧ (removeTextSendAuth input db).1 = db) := by
  have hone : ∀ a ∈ db.sends.rows, ∀ b ∈ db.sends.rows, input.Removes a → input.Removes b →
      a.id = b.id := fun a _ b _ ha hb => ha.1.trans hb.1.symm
  rcases @written_writeSend_cases db _ _ input.removeAuth hone with ⟨r, hhit, hw⟩ | hidle
  · exact Or.inl ⟨r, OwnerMutationInput.removeAuth_cases hhit, hw⟩
  · exact Or.inr hidle

/-- **A deletion advances the Send it deletes, and leaves a deleted one as it is.** -/
theorem deleteTextSend_cases (input : OwnerMutationInput) (db : TextSendDb) :
    (∃ r, ((r.deletedAt ≠ none ∧ input.delete r = r) ∨ r.Advances (input.delete r)) ∧
      written (deleteTextSend input db).2 = some (input.delete r) ∧
      SendWritten r (input.delete r) db (deleteTextSend input db).1) ∨
    (written (deleteTextSend input db).2 = none ∧ (deleteTextSend input db).1 = db) := by
  have hone : ∀ a ∈ db.sends.rows, ∀ b ∈ db.sends.rows, input.Deletes a → input.Deletes b →
      a.id = b.id := fun a _ b _ ha hb => ha.1.trans hb.1.symm
  rcases @written_writeSend_cases db _ _ input.delete hone with ⟨r, hhit, hw⟩ | hidle
  · exact Or.inl ⟨r, OwnerMutationInput.delete_cases hhit, hw⟩
  · exact Or.inr hidle

/-- **An access takes hold on the generation it presents.** -/
theorem consumeTextSendAccess_cases (input : ConsumeTextSendAccessInput) (db : TextSendDb) :
    (∃ r, input.Hit r ∧ written (consumeTextSendAccess input db).2 = some (input.set r) ∧
      SendWritten r (input.set r) db (consumeTextSendAccess input db).1) ∨
    (written (consumeTextSendAccess input db).2 = none ∧
      (consumeTextSendAccess input db).1 = db) := by
  refine written_writeSend_cases fun a ha b hb hhit hhit' => congrArg TextSendRow.id ?_
  exact db.sends.eq_of_alternate ha hb (hhit.1.trans hhit'.1.symm)

/-- A creation that takes hold: the Send is new. -/
structure SendCreated (r : TextSendRow) (db db' : TextSendDb) : Prop where
  rows : db'.sends.rows = db.sends.rows ++ [r]
  unused : ∀ s ∈ db.sends.rows, s.id ≠ r.id
  checked : r.Checked

/-- **A creation adds a Send, or does nothing.** -/
theorem createTextSend_outcome (input : CreateTextSendInput) (db : TextSendDb) :
    ((createTextSend input db).2 = .ok input.toTextSendRow ∧
      SendCreated input.toTextSendRow db (createTextSend input db).1) ∨
    ((∃ e, (createTextSend input db).2 = .error e) ∧ (createTextSend input db).1 = db) := by
  unfold createTextSend
  rcases commit_cases input.batch input.interpret db with
    ⟨hsame, e, he⟩ | ⟨db', rs, hrun, hdb, hanswer⟩
  · exact Or.inr ⟨⟨_, he⟩, hsame⟩
  · left
    obtain ⟨db₁, r₁, _, hst₁, hrest₁, rfl⟩ := runFrom_cons hrun
    obtain ⟨db₂, r₂, _, hst₂, hrest₂, rfl⟩ := runFrom_cons hrest₁
    obtain ⟨rfl, rfl⟩ := runFrom_nil hrest₂
    obtain ⟨hsend, hchecked⟩ := Statement.ensuring_ok hst₁
    obtain ⟨S, hS, rfl, rfl⟩ := TableIn.write_ok (Statement.referencing_ok hsend).2
    obtain ⟨E, -, rfl, rfl⟩ := TableIn.write_ok hst₂
    rw [hdb, hanswer]
    have hkeyed : KeyedRows (db.sends.rows ++ [input.toTextSendRow]) := hS ▸ S.keyed
    have hunused : ∀ s ∈ db.sends.rows, s.id ≠ input.id := fun s hs h =>
      (append_keyed_iff.mp hkeyed).2 s hs (Or.inl h)
    refine ⟨rfl, hS, hunused, ?_⟩
    have hmem : input.toTextSendRow ∈ S.rows := by
      rw [hS]
      exact List.mem_append_right _ List.mem_cons_self
    rcases hchecked _ hmem with hold | hnew
    · exact absurd rfl (hunused _ hold)
    · exact hnew

end Requests


/-! ## The run -/

/-- The requests that write Sends. -/
inductive SendRequest where
  | create (input : CreateTextSendInput)
  | update (input : UpdateTextSendInput)
  | removeAuth (input : OwnerMutationInput)
  | delete (input : OwnerMutationInput)
  | consume (input : ConsumeTextSendAccessInput)

/-- The database, and the record of the run: the Sends as they were created, the Send and the
revision each successful update named, the Send of each successful access. -/
structure SendAccess where
  db : TextSendDb
  created : List TextSendRow := []
  updates : List (String × Timestamp) := []
  consumptions : List String := []

namespace SendRequest

def exec : SendRequest → SendAccess → SendAccess
  | .create input, s =>
    let call := createTextSend input s.db
    { s with db := call.1, created := s.created ++ call.2.toOption.toList }
  | .update input, s =>
    let call := updateTextSend input s.db
    { s with
      db := call.1
      updates := (written call.2).toList.map (fun _ => (input.id, input.expectedRevisionDate)) ++
        s.updates }
  | .removeAuth input, s => { s with db := (removeTextSendAuth input s.db).1 }
  | .delete input, s => { s with db := (deleteTextSend input s.db).1 }
  | .consume input, s =>
    let call := consumeTextSendAccess input s.db
    { s with
      db := call.1
      consumptions := (written call.2).toList.map TextSendRow.id ++ s.consumptions }

/-- The Sends and the record are the component's own. -/
def confine (s s' : SendAccess) : SendAccess :=
  { s with db := { s'.db with sends := s.db.sends } }

end SendRequest

/-- The requests, with any writes of the other tables in between. -/
def sendAccessSystem : System SendAccess (Move SendRequest SendAccess) Empty :=
  .within SendRequest.exec (fun _ => []) SendRequest.confine

/-- What the record says of the database. -/
structure SendsAccounted (s : SendAccess) : Prop where
  checked : ∀ r ∈ s.db.sends.rows, r.Checked
  counted : ∀ r ∈ s.db.sends.rows, ∃ o ∈ s.created, o.id = r.id ∧
    r.accessCount = o.accessCount + s.consumptions.count r.id
  created : ∀ o ∈ s.created, ∃ r ∈ s.db.sends.rows, r.id = o.id
  distinct : (s.created.map TextSendRow.id).Nodup
  consumed : ∀ i ∈ s.consumptions, ∃ r ∈ s.db.sends.rows, r.id = i
  updated : ∀ p ∈ s.updates, ∃ r ∈ s.db.sends.rows, r.id = p.1 ∧ p.2 < r.revisionDate
  once : s.updates.Nodup

namespace SendsAccounted

variable {s : SendAccess} {db' : TextSendDb} {r r' : TextSendRow}

/-- A row that keeps its id and does not go back in revision stands for the old one. -/
theorem written_row (hw : SendWritten r r' s.db db') (hb : r.Before r') {i : String}
    (h : ∃ q ∈ s.db.sends.rows, q.id = i) : ∃ q ∈ db'.sends.rows, q.id = i := by
  obtain ⟨q, hq, rfl⟩ := h
  obtain ⟨q', hq', hbefore⟩ := hw.sendsBefore hb q hq
  exact ⟨q', hq', hbefore.id⟩

theorem written_updated (hw : SendWritten r r' s.db db') (hb : r.Before r')
    {p : String × Timestamp} (h : ∃ q ∈ s.db.sends.rows, q.id = p.1 ∧ p.2 < q.revisionDate) :
    ∃ q ∈ db'.sends.rows, q.id = p.1 ∧ p.2 < q.revisionDate := by
  obtain ⟨q, hq, hid, hlt⟩ := h
  obtain ⟨q', hq', hbefore⟩ := hw.sendsBefore hb q hq
  refine ⟨q', hq', hbefore.id.trans hid, ?_⟩
  rcases hbefore.frozen with hsame | ⟨hlater, -⟩
  · rwa [TextSendRow.revisionDate_eq_of_frozen hsame]
  · exact hlt.trans hlater

theorem written_checked (h : SendsAccounted s) (hw : SendWritten r r' s.db db') :
    ∀ q ∈ db'.sends.rows, q.Checked := by
  intro q hq
  rcases hw.mem_iff.mp hq with ⟨hold, -⟩ | rfl
  · exact h.checked q hold
  · exact hw.checked.elim (h.checked q) id

/-- A write that keeps the count of its row keeps the accounts. -/
theorem owner (h : SendsAccounted s) (hw : SendWritten r r' s.db db') (hb : r.Before r')
    (hcount : r'.accessCount = r.accessCount) : SendsAccounted { s with db := db' } where
  checked := h.written_checked hw
  counted := by
    intro q hq
    rcases hw.mem_iff.mp hq with ⟨hold, -⟩ | rfl
    · exact h.counted q hold
    · obtain ⟨o, ho, hid, hsum⟩ := h.counted r hw.found
      refine ⟨o, ho, hid.trans hb.id.symm, ?_⟩
      rw [hcount, hsum, hb.id]
  created o ho := written_row hw hb (h.created o ho)
  distinct := h.distinct
  consumed i hi := written_row hw hb (h.consumed i hi)
  updated p hp := written_updated hw hb (h.updated p hp)
  once := h.once

/-- An update spends the revision it expected. -/
theorem update (h : SendsAccounted s) (hw : SendWritten r r' s.db db') (hadv : r.Advances r') :
    SendsAccounted { s with db := db', updates := (r.id, r.revisionDate) :: s.updates } where
  checked := h.written_checked hw
  counted := (h.owner hw hadv.before hadv.accessCount).counted
  created := (h.owner hw hadv.before hadv.accessCount).created
  distinct := h.distinct
  consumed := (h.owner hw hadv.before hadv.accessCount).consumed
  updated := by
    refine List.forall_mem_cons.mpr ⟨⟨r', hw.mem_iff.mpr (Or.inr rfl), hadv.id, ?_⟩, ?_⟩
    · exact hadv.revisionDate
    · exact (h.owner hw hadv.before hadv.accessCount).updated
  once := by
    refine List.nodup_cons.mpr ⟨fun hspent => ?_, h.once⟩
    obtain ⟨q, hq, hid, hlt⟩ := h.updated _ hspent
    obtain rfl := s.db.sends.eq_of_key hq hw.found hid
    exact absurd hlt (lt_irrefl _)

/-- An access counts. -/
theorem consume (h : SendsAccounted s) (hw : SendWritten r r' s.db db') (hb : r.Before r')
    (hcount : r'.accessCount = r.accessCount + 1) :
    SendsAccounted { s with db := db', consumptions := r'.id :: s.consumptions } where
  checked := h.written_checked hw
  counted := by
    intro q hq
    rcases hw.mem_iff.mp hq with ⟨hold, hne⟩ | rfl
    · obtain ⟨o, ho, hid, hsum⟩ := h.counted q hold
      refine ⟨o, ho, hid, ?_⟩
      rw [hsum, List.count_cons_of_ne (fun h => hne (h.symm.trans hb.id))]
    · obtain ⟨o, ho, hid, hsum⟩ := h.counted r hw.found
      refine ⟨o, ho, hid.trans hb.id.symm, ?_⟩
      rw [hcount, hsum, hb.id, List.count_cons_self, Nat.add_assoc]
  created o ho := written_row hw hb (h.created o ho)
  distinct := h.distinct
  consumed := by
    refine List.forall_mem_cons.mpr ⟨⟨r', hw.mem_iff.mpr (Or.inr rfl), rfl⟩, fun i hi => ?_⟩
    exact written_row hw hb (h.consumed i hi)
  updated p hp := written_updated hw hb (h.updated p hp)
  once := h.once

/-- A new Send has been accessed by nobody. -/
theorem create (h : SendsAccounted s) (hc : SendCreated r s.db db') :
    SendsAccounted { s with db := db', created := s.created ++ [r] } where
  checked := by
    intro q hq
    rw [hc.rows] at hq
    rcases List.mem_append.mp hq with hold | hnew
    · exact h.checked q hold
    · rw [List.mem_singleton.mp hnew]
      exact hc.checked
  counted := by
    intro q hq
    rw [hc.rows] at hq
    rcases List.mem_append.mp hq with hold | hnew
    · obtain ⟨o, ho, hid, hsum⟩ := h.counted q hold
      exact ⟨o, List.mem_append_left _ ho, hid, hsum⟩
    · obtain rfl := List.mem_singleton.mp hnew
      refine ⟨q, List.mem_append_right _ List.mem_cons_self, rfl, ?_⟩
      have hzero : s.consumptions.count q.id = 0 := by
        refine List.count_eq_zero.mpr fun hi => ?_
        obtain ⟨o, ho, hid⟩ := h.consumed _ hi
        exact hc.unused o ho hid
      rw [hzero, Nat.add_zero]
  created := by
    intro o ho
    rcases List.mem_append.mp ho with hold | hnew
    · obtain ⟨q, hq, hid⟩ := h.created o hold
      exact ⟨q, hc.rows ▸ List.mem_append_left _ hq, hid⟩
    · obtain rfl := List.mem_singleton.mp hnew
      exact ⟨o, hc.rows ▸ List.mem_append_right _ List.mem_cons_self, rfl⟩
  distinct := by
    rw [List.map_append, List.map_singleton]
    refine List.nodup_append.mpr ⟨h.distinct, List.nodup_singleton _, ?_⟩
    intro i hi j hj hsame
    obtain ⟨o, ho, rfl⟩ := List.mem_map.mp hi
    obtain ⟨q, hq, hid⟩ := h.created o ho
    exact hc.unused q hq (hid.trans (hsame.trans (List.mem_singleton.mp hj)))
  consumed i hi := by
    obtain ⟨q, hq, hid⟩ := h.consumed i hi
    exact ⟨q, hc.rows ▸ List.mem_append_left _ hq, hid⟩
  updated p hp := by
    obtain ⟨q, hq, hid⟩ := h.updated p hp
    exact ⟨q, hc.rows ▸ List.mem_append_left _ hq, hid⟩
  once := h.once

end SendsAccounted

theorem SendCreated.sendsBefore {r : TextSendRow} {db db' : TextSendDb} (h : SendCreated r db db') :
    SendsBefore db db' :=
  fun q hq => ⟨q, h.rows ▸ List.mem_append_left _ hq, .refl q⟩

/-- What a request keeps: the accounts, and every Send as one it was before. -/
theorem SendRequest.exec_kept (request : SendRequest) {s : SendAccess} (h : SendsAccounted s) :
    SendsAccounted (request.exec s) ∧ SendsBefore s.db (request.exec s).db := by
  cases request with
  | create input =>
    unfold exec
    dsimp only
    rcases createTextSend_outcome input s.db with ⟨hok, hcreated⟩ | ⟨⟨e, he⟩, hsame⟩
    · rw [hok]
      exact ⟨h.create hcreated, hcreated.sendsBefore⟩
    · rw [he, hsame]
      refine ⟨?_, .refl _⟩
      rwa [show (Except.error e : Except Failure TextSendRow).toOption.toList = [] from rfl,
        List.append_nil]
  | update input =>
    unfold exec
    dsimp only
    rcases updateTextSend_cases input s.db with ⟨r, hhit, hadv, hok, hw⟩ | ⟨hnone, hsame⟩
    · rw [hok]
      have hspent : (r.id, r.revisionDate) = (input.id, input.expectedRevisionDate) :=
        Prod.ext hhit.1 hhit.2.2.1
      have hkept := h.update hw hadv
      rw [hspent] at hkept
      exact ⟨hkept, hw.sendsBefore hadv.before⟩
    · rw [hnone, hsame]
      exact ⟨h, .refl _⟩
  | removeAuth input =>
    unfold exec
    dsimp only
    rcases removeTextSendAuth_cases input s.db with ⟨r, ⟨-, hself⟩ | hadv, -, hw⟩ | ⟨-, hsame⟩
    · rw [hself] at hw
      exact ⟨h.owner hw (.refl r) rfl, hw.sendsBefore (.refl r)⟩
    · exact ⟨h.owner hw hadv.before hadv.accessCount, hw.sendsBefore hadv.before⟩
    · rw [hsame]
      exact ⟨h, .refl _⟩
  | delete input =>
    unfold exec
    dsimp only
    rcases deleteTextSend_cases input s.db with ⟨r, ⟨-, hself⟩ | hadv, -, hw⟩ | ⟨-, hsame⟩
    · rw [hself] at hw
      exact ⟨h.owner hw (.refl r) rfl, hw.sendsBefore (.refl r)⟩
    · exact ⟨h.owner hw hadv.before hadv.accessCount, hw.sendsBefore hadv.before⟩
    · rw [hsame]
      exact ⟨h, .refl _⟩
  | consume input =>
    unfold exec
    dsimp only
    rcases consumeTextSendAccess_cases input s.db with ⟨r, hhit, hok, hw⟩ | ⟨hnone, hsame⟩
    · rw [hok]
      exact ⟨h.consume hw (input.before r) rfl, hw.sendsBefore (input.before r)⟩
    · rw [hnone, hsame]
      exact ⟨h, .refl _⟩

section Runs

variable {c c' c'' : Config SendAccess Empty} {move : Move SendRequest SendAccess}
  {moves moves' : List (Move SendRequest SendAccess)}

/-- **What one step of a run keeps.** -/
theorem sendAccess_next (hnext : sendAccessSystem.Next c move c') (h : SendsAccounted c.state) :
    SendsAccounted c'.state ∧ SendsBefore c.state.db c'.state.db := by
  have hstate : c'.state = Move.exec SendRequest.exec SendRequest.confine move c.state := hnext.step
  rw [hstate]
  cases move with
  | request request => exact request.exec_kept h
  | surroundings write =>
    exact ⟨⟨h.checked, h.counted, h.created, h.distinct, h.consumed, h.updated, h.once⟩,
      fun r hr => ⟨r, hr, .refl r⟩⟩

/-- What a whole run keeps. -/
theorem sendAccess_run (hrun : Run sendAccessSystem c moves c') (h : SendsAccounted c.state) :
    SendsAccounted c'.state ∧ SendsBefore c.state.db c'.state.db := by
  refine hrun.invariant (I := fun d => SendsAccounted d.state ∧ SendsBefore c.state.db d.state.db)
    ⟨h, .refl _⟩ fun hnext hkept => ?_
  obtain ⟨haccounted, hbefore⟩ := sendAccess_next hnext hkept.1
  exact ⟨haccounted, hkept.2.trans hbefore⟩

end Runs


/-- The record of a run begins with the Sends that are there. -/
structure SendAccess.Begins (s : SendAccess) : Prop where
  checked : ∀ r ∈ s.db.sends.rows, r.Checked
  created : s.created = s.db.sends.rows
  updates : s.updates = []
  consumptions : s.consumptions = []

theorem SendAccess.Begins.accounted {s : SendAccess} (h : s.Begins) : SendsAccounted s where
  checked := h.checked
  counted r hr := ⟨r, h.created ▸ hr, rfl, by rw [h.consumptions]; rfl⟩
  created o ho := ⟨o, h.created ▸ ho, rfl⟩
  distinct := by
    rw [h.created]
    refine (List.pairwise_map.mpr (s.db.sends.keyed.imp fun hne hid => hne (Or.inl hid)))
  consumed i hi := by
    rw [h.consumptions] at hi
    cases hi
  updated p hp := by
    rw [h.updates] at hp
    cases hp
  once := by
    rw [h.updates]
    exact List.nodup_nil

/-- **An access meets the Send its generation was read with.** -/
theorem consumeTextSendAccess_meets {c c' : Config SendAccess Empty}
    {moves : List (Move SendRequest SendAccess)} (hrun : Run sendAccessSystem c moves c')
    (h : SendsAccounted c.state) {input : ConsumeTextSendAccessInput} {r' : TextSendRow}
    (hok : written (consumeTextSendAccess input c'.state.db).2 = some r') :
    ∃ r, input.Hit r ∧
      SendWritten r r' c'.state.db (consumeTextSendAccess input c'.state.db).1 ∧
      ∀ q ∈ c.state.db.sends.rows, q.capabilityVerifier = input.capabilityVerifier →
        q.accessGeneration = input.accessGeneration → r.frozen = q.frozen := by
  rcases consumeTextSendAccess_cases input c'.state.db with ⟨r, hhit, hwritten, hw⟩ | ⟨hnone, -⟩
  · obtain rfl := Option.some.inj (hwritten.symm.trans hok)
    refine ⟨r, hhit, hw, fun q hq hverifier hgeneration => ?_⟩
    obtain ⟨q', hq', hbefore⟩ := (sendAccess_run hrun h).2 q hq
    -- the capability names one Send, so what was read has become what is accessed
    obtain rfl := c'.state.db.sends.eq_of_alternate hq' hw.found
      (hbefore.capabilityVerifier.trans (hverifier.trans hhit.1.symm))
    exact hbefore.frozen_eq (hhit.2.1.trans hgeneration.symm)
  · rw [hnone] at hok
    cases hok

/-- **Access to text Sends in every run.** Let the second of two points of a run be later than the
first. Every Send there was has become one whose content, password and state are the same, or whose
revision and generation are both later. The Sends count their accesses and keep to their limits; no
two updates succeeded on one revision. The next write of an owner, if it succeeds, advances its
Send or leaves it as it is, an update always advances it; and the next access, if it succeeds, meets
an open Send of the generation it presents, the same in content, password and state as any Send of
that capability and generation at the earlier point. -/
theorem textSend_access {c c' c'' : Config SendAccess Empty}
    {moves moves' : List (Move SendRequest SendAccess)} (hbegins : c.state.Begins)
    (hrun : Run sendAccessSystem c moves c') (hrun' : Run sendAccessSystem c' moves' c'') :
    (∀ r ∈ c'.state.db.sends.rows, ∃ r' ∈ c''.state.db.sends.rows, r.Before r') ∧
    (c''.state.created.map TextSendRow.id).Nodup ∧
    (∀ r ∈ c''.state.db.sends.rows,
      (∃ o ∈ c''.state.created, o.id = r.id ∧
        r.accessCount = o.accessCount + c''.state.consumptions.count r.id) ∧
      ∀ m ∈ r.maxAccessCount, r.accessCount ≤ m) ∧
    c''.state.updates.Nodup ∧
    (∀ input r', written (updateTextSend input c''.state.db).2 = some r' → ∃ r, input.Hit r ∧
      r.Advances r' ∧ SendWritten r r' c''.state.db (updateTextSend input c''.state.db).1) ∧
    (∀ input r', written (removeTextSendAuth input c''.state.db).2 = some r' → ∃ r,
      (r' = r ∨ r.Advances r') ∧
      SendWritten r r' c''.state.db (removeTextSendAuth input c''.state.db).1) ∧
    (∀ input r', written (deleteTextSend input c''.state.db).2 = some r' → ∃ r,
      (r' = r ∨ r.Advances r') ∧
      SendWritten r r' c''.state.db (deleteTextSend input c''.state.db).1) ∧
    ∀ input r', written (consumeTextSendAccess input c''.state.db).2 = some r' → ∃ r,
      input.Hit r ∧
      SendWritten r r' c''.state.db (consumeTextSendAccess input c''.state.db).1 ∧
      ∀ q ∈ c'.state.db.sends.rows, q.capabilityVerifier = input.capabilityVerifier →
        q.accessGeneration = input.accessGeneration → r.frozen = q.frozen := by
  have hmiddle := (sendAccess_run hrun hbegins.accounted).1
  obtain ⟨hend, hbefore⟩ := sendAccess_run hrun' hmiddle
  refine ⟨hbefore, hend.distinct, fun r hr => ⟨hend.counted r hr, fun m hm => ?_⟩, hend.once,
    ?_, ?_, ?_, fun input r' => consumeTextSendAccess_meets hrun' hmiddle⟩
  · exact ((hend.checked r hr).maximum m hm).2
  · intro input r' hok
    rcases updateTextSend_cases input c''.state.db with ⟨r, hhit, hadv, hw, hrow⟩ | ⟨hnone, -⟩
    · obtain rfl := Option.some.inj (hw.symm.trans hok)
      exact ⟨r, hhit, hadv, hrow⟩
    · rw [hnone] at hok
      cases hok
  · intro input r' hok
    rcases removeTextSendAuth_cases input c''.state.db with ⟨r, hcases, hw, hrow⟩ | ⟨hnone, -⟩
    · obtain rfl := Option.some.inj (hw.symm.trans hok)
      exact ⟨r, hcases.imp_left And.right, hrow⟩
    · rw [hnone] at hok
      cases hok
  · intro input r' hok
    rcases deleteTextSend_cases input c''.state.db with ⟨r, hcases, hw, hrow⟩ | ⟨hnone, -⟩
    · obtain rfl := Option.some.inj (hw.symm.trans hok)
      exact ⟨r, hcases.imp_left And.right, hrow⟩
    · rw [hnone] at hok
      cases hok

/-- A Send behind a password that allows two accesses. -/
def guardedSend : TextSendRow where
  id := "s"
  ownerUserId := "u"
  authType := .password
  lifecycleState := .active
  capabilityEnvelope := "e"
  capabilityEnvelopeKeyId := "k"
  capabilityVerifier := "00112233445566778899aabbccddeeff00112233445566778899aabbccddeeff"
  capabilityVerifierKeyId := "k"
  accessGeneration := 1
  encryptedName := "n"
  encryptedNotes := none
  encryptedKey := "k"
  encryptedText := some "t"
  textHidden := false
  passwordVerifier := some "ffeeddccbbaa99887766554433221100ffeeddccbbaa99887766554433221100"
  passwordKeyId := some "k"
  maxAccessCount := some 2
  accessCount := 0
  disabled := false
  hideEmail := false
  expirationAt := none
  deletionAt := 100
  revisionDate := 1
  createdAt := 1
  updatedAt := 1

/-- New content for the Send, expected at `revision`. -/
def guardedUpdate (text : String) (revision : Timestamp) : UpdateTextSendInput where
  id := "s"
  ownerUserId := "u"
  expectedRevisionDate := revision
  encryptedName := "n"
  encryptedNotes := none
  encryptedKey := "k"
  encryptedText := text
  textHidden := false
  authType := .password
  passwordVerifier := guardedSend.passwordVerifier
  passwordKeyId := some "k"
  maxAccessCount := some 2
  disabled := false
  hideEmail := false
  expirationAt := none
  deletionAt := 100
  nextRevisionDate := nextTextSendRevisionDate revision 3

def guardedAccess (generation : Nat) : ConsumeTextSendAccessInput where
  capabilityVerifier := guardedSend.capabilityVerifier
  accessGeneration := generation
  now := 5

/-- An access, two updates of one revision, and an access of the old generation. -/
def guardedMoves : List (Move SendRequest SendAccess) :=
  [.request (.create { toTextSendRow := guardedSend, auditEventId := "a", requestId := "q" }),
    .request (.consume (guardedAccess 1)), .request (.update (guardedUpdate "t2" 1)),
    .request (.update (guardedUpdate "t3" 1)), .request (.consume (guardedAccess 1))]

/-- The password goes, and the Send is deleted twice. -/
def guardedMoves' : List (Move SendRequest SendAccess) :=
  [.request (.removeAuth { id := "s", ownerUserId := "u", now := 7 }),
    .request (.consume (guardedAccess 3)),
    .request (.delete { id := "s", ownerUserId := "u", now := 8 }),
    .request (.delete { id := "s", ownerUserId := "u", now := 9 }),
    .request (.consume (guardedAccess 4))]

def guardedStart : Config SendAccess Empty where
  state := { db := { users := .singleton { id := "u" } } }

def guardedMiddle : Config SendAccess Empty :=
  (replay (Move.exec SendRequest.exec SendRequest.confine) (Move.draws fun _ => []) guardedStart
    guardedMoves).get (by decide +kernel)

def guardedEnd : Config SendAccess Empty :=
  (replay (Move.exec SendRequest.exec SendRequest.confine) (Move.draws fun _ => []) guardedMiddle
    guardedMoves').get (by decide +kernel)

theorem textSend_access_guarded :
    (guardedEnd.state.updates = [("s", 1)] ∧ guardedEnd.state.consumptions = ["s", "s"]) ∧
      guardedEnd.state.updates.Nodup := by
  have hbegins : guardedStart.state.Begins :=
    ⟨fun _ h => absurd h List.not_mem_nil, rfl, rfl, rfl⟩
  have hrun : Run sendAccessSystem guardedStart guardedMoves guardedMiddle :=
    replay_run (Option.some_get _).symm
  have hrun' : Run sendAccessSystem guardedMiddle guardedMoves' guardedEnd :=
    replay_run (Option.some_get _).symm
  exact ⟨by decide +kernel, (textSend_access hbegins hrun hrun').2.2.2.1⟩


end HonoWarden
