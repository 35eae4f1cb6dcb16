import HonoWarden.Session.Lookup
import HonoWarden.Relational.Lookup

/-!
# Keys of trusted devices

Model of `updateTrustedDeviceKeys` (`src/repositories/auth-repository.ts`).

The references are resolved one by one, each by one or two reads, and the keys are written later in
one batch, one UPDATE for each reference. Every UPDATE is guarded by its own device only, so the
batch commits whether or not all of them hit. `reads i` are the databases in which the reference
`i` is looked up, by id and by identifier; what happens between the reads and the batch is free.

Results:
* **`updateTrustedDeviceKeys_allOrNothing_iff`**: a call writes all of its keys or none exactly
  when every resolved device is still active and no device is asked to take two different keys, or
  some device is gone and the others are asked to take the keys they have.
-/

namespace HonoWarden

open Relational

/-- The keys of one trusted device. -/
structure TrustedDeviceKeys where
  encryptedUserKey : String
  encryptedPublicKey : String
  encryptedPrivateKey : String
  deriving DecidableEq, Repr

/-- `TrustedDeviceKeysUpdate`. -/
structure TrustedDeviceKeysUpdate extends TrustedDeviceKeys where
  deviceIdOrIdentifier : String
  deriving DecidableEq, Repr

/-- `TrustedDeviceKeysUpdateInput`. -/
structure TrustedDeviceKeysUpdateInput where
  userId : String
  devices : List TrustedDeviceKeysUpdate
  updatedAt : Timestamp
  deriving DecidableEq, Repr

/-- `TrustedDeviceKeysUpdateResult`. -/
inductive TrustedDeviceKeysUpdateResult where
  | notFound (missingDeviceIdOrIdentifier : String)
  | updated (devices : List Device)
  deriving DecidableEq, Repr

/-- `findDeviceById`. -/
def findDeviceById (userId deviceId : String) (db : Db) : Option Device :=
  db.devices.rows.find? fun d => d.userId = userId ∧ d.id = deviceId ∧ d.revokedAt = none

/-- `findDeviceByIdOrIdentifier`, with the database of either read. -/
def findDeviceByIdOrIdentifier (userId deviceIdOrIdentifier : String) (reads : Db × Db) :
    Option Device :=
  match findDeviceById userId deviceIdOrIdentifier reads.1 with
  | some byId => some byId
  | none => findDeviceByIdentifier userId deviceIdOrIdentifier reads.2

structure ResolvedDevice where
  existing : Device
  update : TrustedDeviceKeysUpdate
  deriving DecidableEq, Repr

/-- The loop over the references, from the `i`-th on: the first one that is missing, or all
devices. -/
def resolveDevices (userId : String) (reads : Nat → Db × Db) :
    Nat → List TrustedDeviceKeysUpdate → Except String (List ResolvedDevice)
  | _, [] => .ok []
  | i, update :: rest =>
    match findDeviceByIdOrIdentifier userId update.deviceIdOrIdentifier (reads i) with
    | none => .error update.deviceIdOrIdentifier
    | some existing =>
      (resolveDevices userId reads (i + 1) rest).map fun resolved => ⟨existing, update⟩ :: resolved

/-- The device written with the keys of an update. -/
def Device.withKeys (keys : TrustedDeviceKeys) (updatedAt : Timestamp) (d : Device) : Device :=
  { d with
    encryptedUserKey := some keys.encryptedUserKey
    encryptedPublicKey := some keys.encryptedPublicKey
    encryptedPrivateKey := some keys.encryptedPrivateKey
    updatedAt := updatedAt }

namespace TrustedDeviceKeysUpdateInput

variable (input : TrustedDeviceKeysUpdateInput)

/-- The device an update is written to. -/
def Target (r : ResolvedDevice) (d : Device) : Prop :=
  d.userId = input.userId ∧ d.id = r.existing.id ∧ d.revokedAt = none

instance (r : ResolvedDevice) : DecidablePred (input.Target r) := fun _ =>
  inferInstanceAs (Decidable (_ ∧ _))

def write (r : ResolvedDevice) : Device → Device :=
  Device.withKeys r.update.toTrustedDeviceKeys input.updatedAt

def batch (resolved : List ResolvedDevice) : List (Statement Db) :=
  resolved.map fun r => Db.devicesIn.update (fun _ _ => input.Target r) fun _ => input.write r

/-- The reading of the batch. -/
def interpret (resolved : List ResolvedDevice) (results : List StatementResult) :
    Except String TrustedDeviceKeysUpdateResult :=
  match results.findIdx? fun result => result.metaChanges ≠ 1 with
  | some failedIndex =>
    .ok (.notFound ((resolved[failedIndex]?.map fun r => r.update.deviceIdOrIdentifier).getD ""))
  | none => .ok (.updated (resolved.map fun r => input.write r r.existing))

end TrustedDeviceKeysUpdateInput

def updateTrustedDeviceKeys (input : TrustedDeviceKeysUpdateInput) (reads : Nat → Db × Db)
    (db : Db) : Db × Except Failure TrustedDeviceKeysUpdateResult :=
  match resolveDevices input.userId reads 0 input.devices with
  | .error missing => (db, .ok (.notFound missing))
  | .ok resolved => commit (input.batch resolved) (input.interpret resolved) db

/-! ## All or nothing -/

/-- The key columns of a device. -/
def Device.keys (d : Device) : Option String × Option String × Option String :=
  (d.encryptedUserKey, d.encryptedPublicKey, d.encryptedPrivateKey)

/-- Keys as the columns hold them. -/
def TrustedDeviceKeys.stored (k : TrustedDeviceKeys) :
    Option String × Option String × Option String :=
  (some k.encryptedUserKey, some k.encryptedPublicKey, some k.encryptedPrivateKey)

/-- The key columns of every device are what they were. -/
def KeysUnchanged (db db' : Db) : Prop :=
  (db'.devices.rows.map fun d => (d.id, d.keys)) = db.devices.rows.map fun d => (d.id, d.keys)

/-- Every resolved device is active and has the keys requested for it, and every other device is
as it was. -/
structure KeysWritten (input : TrustedDeviceKeysUpdateInput) (resolved : List ResolvedDevice)
    (db db' : Db) : Prop where
  requested : ∀ r ∈ resolved, ∃ d ∈ db'.devices.rows, input.Target r d ∧
    d.keys = r.update.stored
  others : ∀ d ∈ db.devices.rows, (∀ r ∈ resolved, d.id ≠ r.existing.id) → d ∈ db'.devices.rows
  length : db'.devices.rows.length = db.devices.rows.length

/-- A call that does not report `updated` leaves all keys alone; one that does has written each of
its keys, and no others. -/
structure AllOrNothing (input : TrustedDeviceKeysUpdateInput) (reads : Nat → Db × Db) (db : Db) :
    Prop where
  failed : (∀ devices, (updateTrustedDeviceKeys input reads db).2 ≠ .ok (.updated devices)) →
    KeysUnchanged db (updateTrustedDeviceKeys input reads db).1
  updated : ∀ devices, (updateTrustedDeviceKeys input reads db).2 = .ok (.updated devices) →
    ∃ resolved, resolveDevices input.userId reads 0 input.devices = .ok resolved ∧
      KeysWritten input resolved db (updateTrustedDeviceKeys input reads db).1

/-- Some active device is the one the reference was resolved to. -/
def TrustedDeviceKeysUpdateInput.Active (input : TrustedDeviceKeysUpdateInput) (db : Db)
    (r : ResolvedDevice) : Prop :=
  ∃ d ∈ db.devices.rows, input.Target r d

instance (input : TrustedDeviceKeysUpdateInput) (db : Db) : DecidablePred (input.Active db) :=
  fun _ => inferInstanceAs (Decidable (∃ d ∈ db.devices.rows, _))

/-- At the batch every resolved device is active, and references to one device ask for one and the
same keys; or some resolved device is not active, and each device that is asked last for the keys
it has. -/
def Serves (input : TrustedDeviceKeysUpdateInput) (resolved : List ResolvedDevice) (db : Db) :
    Prop :=
  (∀ r ∈ resolved, input.Active db r) ∧
      (∀ r ∈ resolved, ∀ r' ∈ resolved, r.existing.id = r'.existing.id →
        r.update.stored = r'.update.stored) ∨
    (∃ r ∈ resolved, ¬ input.Active db r) ∧
      ∀ d ∈ db.devices.rows, ∀ r ∈ lastUpdate input.Target resolved d, r.update.stored = d.keys

section Batch

variable (input : TrustedDeviceKeysUpdateInput) (resolved : List ResolvedDevice) (db : Db)

theorem TrustedDeviceKeysUpdateInput.write_keepsKeys (r : ResolvedDevice) :
    KeepsKeys (input.write r) := fun _ => ⟨rfl, fun _ h => h⟩

/-- A write leaves the targets of the others alone. -/
theorem TrustedDeviceKeysUpdateInput.target_write (r r' : ResolvedDevice) (d : Device) :
    input.Target r' (input.write r d) ↔ input.Target r' d := Iff.rfl

theorem TrustedDeviceKeysUpdateInput.batch_run :
    ∃ db' rs, runBatch (input.batch resolved) db = .ok (db', rs) ∧
      db'.devices.rows = db.devices.rows.map (rewriteRow input.Target input.write resolved) ∧
      rs.map StatementResult.metaChanges =
        resolved.map fun r => db.devices.rows.countP (input.Target r) :=
  Db.devicesIn.runFrom_updates input.write_keepsKeys input.target_write resolved db 0

theorem TrustedDeviceKeysUpdateInput.countP_target (r : ResolvedDevice) :
    db.devices.rows.countP (input.Target r) = 1 ↔ input.Active db r :=
  db.devices.countP_eq_one_iff r.existing.id fun _ h => h.2.1

/-- The batch is read as `updated` when every resolved device is active. -/
theorem TrustedDeviceKeysUpdateInput.interpret_updated {rs : List StatementResult}
    (hrs : rs.map StatementResult.metaChanges =
      resolved.map fun r => db.devices.rows.countP (input.Target r)) :
    (∀ r ∈ resolved, input.Active db r) ↔
      ∃ devices, input.interpret resolved rs = .ok (.updated devices) := by
  have hall : (∀ r ∈ resolved, input.Active db r) ↔ ∀ n ∈ rs.map StatementResult.metaChanges,
      n = 1 := by
    rw [hrs]
    simp only [List.mem_map, forall_exists_index, and_imp, forall_apply_eq_imp_iff₂,
      input.countP_target]
  rw [hall]
  unfold interpret
  cases hfind : rs.findIdx? fun result => result.metaChanges ≠ 1 with
  | none =>
    refine iff_of_true ?_ ⟨_, rfl⟩
    intro n hn
    obtain ⟨result, hresult, rfl⟩ := List.mem_map.mp hn
    simpa using List.findIdx?_eq_none_iff.mp hfind result hresult
  | some i =>
    refine iff_of_false ?_ (by simp)
    intro h
    obtain ⟨hlt, hne, -⟩ := List.findIdx?_eq_some_iff_getElem.mp hfind
    exact (of_decide_eq_true hne) (h _ (List.mem_map_of_mem (List.getElem_mem hlt)))

variable {input resolved db}

/-- The keys of a device after the batch. -/
theorem keys_rewriteRow (d : Device) :
    (rewriteRow input.Target input.write resolved d).keys =
      ((lastUpdate input.Target resolved d).map fun r => r.update.stored).getD d.keys :=
  rewriteRow_value Device.keys (fun r => r.update.stored) input.target_write (fun _ _ => rfl)
    resolved d

theorem id_rewriteRow (d : Device) :
    (rewriteRow input.Target input.write resolved d).id = d.id := by
  unfold rewriteRow
  induction resolved generalizing d with
  | nil => rfl
  | cons r resolved ih =>
    rw [List.foldl_cons, ih]
    split <;> rfl

/-- Nothing is unchanged by the batch but the devices asked last for the keys they have. -/
theorem keysUnchanged_iff {db' : Db}
    (hrows : db'.devices.rows = db.devices.rows.map (rewriteRow input.Target input.write resolved)) :
    KeysUnchanged db db' ↔
      ∀ d ∈ db.devices.rows, ∀ r ∈ lastUpdate input.Target resolved d, r.update.stored = d.keys := by
  unfold KeysUnchanged
  rw [hrows, List.map_map, List.map_inj_left]
  refine forall₂_congr fun d _ => ?_
  simp only [Function.comp, id_rewriteRow, keys_rewriteRow, Prod.mk.injEq, true_and]
  cases lastUpdate input.Target resolved d with
  | none => simp
  | some r => simp

/-- When every resolved device is active, the batch writes what is requested exactly when no device
is asked to take two different keys. -/
theorem keysWritten_iff {db' : Db}
    (hrows : db'.devices.rows = db.devices.rows.map (rewriteRow input.Target input.write resolved))
    (hactive : ∀ r ∈ resolved, input.Active db r) :
    KeysWritten input resolved db db' ↔ ∀ r ∈ resolved, ∀ r' ∈ resolved,
      r.existing.id = r'.existing.id → r.update.stored = r'.update.stored := by
  constructor
  · intro h r hr r' hr' hid
    obtain ⟨d, hd, htarget, hkeys⟩ := h.requested r hr
    obtain ⟨d', hd', htarget', hkeys'⟩ := h.requested r' hr'
    have hsame : d = d' := db'.devices.eq_of_key hd hd'
      ((htarget.2.1.trans hid).trans htarget'.2.1.symm)
    rw [← hkeys, ← hkeys', hsame]
  · intro hconsistent
    refine ⟨fun r hr => ?_, fun d hd hother => ?_, by rw [hrows, List.length_map]⟩
    · obtain ⟨d, hd, htarget⟩ := hactive r hr
      refine ⟨rewriteRow input.Target input.write resolved d, ?_, ?_, ?_⟩
      · rw [hrows]
        exact List.mem_map_of_mem hd
      · exact (rewriteRow_hit input.target_write).mpr htarget
      · rw [keys_rewriteRow]
        cases hlast : lastUpdate input.Target resolved d with
        | none =>
          have hnone := List.find?_eq_none.mp hlast r (List.mem_reverse.mpr hr)
          exact absurd htarget (by simpa using hnone)
        | some r' =>
          have hr' : r' ∈ resolved := List.mem_reverse.mp (List.mem_of_find?_eq_some hlast)
          have htarget' : input.Target r' d := by simpa using List.find?_some hlast
          exact hconsistent r' hr' r hr (htarget'.2.1.symm.trans htarget.2.1)
    · rw [hrows]
      refine List.mem_map.mpr ⟨d, hd, rewriteRow_of_miss fun r hr htarget => ?_⟩
      exact hother r hr htarget.2.1

end Batch

/-- **All or nothing, exactly when the resolved devices are still there and asked for one set of
keys each.** -/
theorem updateTrustedDeviceKeys_allOrNothing_iff (input : TrustedDeviceKeysUpdateInput)
    (reads : Nat → Db × Db) (db : Db) :
    AllOrNothing input reads db ↔
      ∀ resolved, resolveDevices input.userId reads 0 input.devices = .ok resolved →
        Serves input resolved db := by
  cases hresolve : resolveDevices input.userId reads 0 input.devices with
  | error missing =>
    have hcall : updateTrustedDeviceKeys input reads db = (db, .ok (.notFound missing)) := by
      rw [updateTrustedDeviceKeys, hresolve]
    refine iff_of_true ⟨fun _ => ?_, fun devices h => ?_⟩ fun resolved h => ?_
    · rw [hcall]
      rfl
    · rw [hcall] at h
      cases h
    · cases h
  | ok resolved =>
    obtain ⟨db', rs, hrun, hrows, hcounts⟩ := input.batch_run resolved db
    have hcall : updateTrustedDeviceKeys input reads db =
        (db', (input.interpret resolved rs).mapError .thrown) := by
      rw [updateTrustedDeviceKeys, hresolve]
      exact commit_of_run hrun
    have hupdated := input.interpret_updated resolved db hcounts
    have hread : ∀ devices, (updateTrustedDeviceKeys input reads db).2 = .ok (.updated devices) ↔
        input.interpret resolved rs = .ok (.updated devices) := by
      intro devices
      rw [hcall]
      exact mapError_eq_ok
    have hdb : (updateTrustedDeviceKeys input reads db).1 = db' := by rw [hcall]
    by_cases hactive : ∀ r ∈ resolved, input.Active db r
    · obtain ⟨devices, hreported⟩ := hupdated.mp hactive
      have hwritten := keysWritten_iff hrows hactive
      have hserves : Serves input resolved db ↔ KeysWritten input resolved db db' := by
        rw [hwritten]
        refine ⟨fun h => ?_, fun h => Or.inl ⟨hactive, h⟩⟩
        rcases h with ⟨-, hconsistent⟩ | ⟨⟨r, hr, hgone⟩, -⟩
        · exact hconsistent
        · exact absurd (hactive r hr) hgone
      constructor
      · intro h resolved' hresolved'
        obtain rfl := Except.ok.inj hresolved'
        obtain ⟨resolved', hresolved', hkeys⟩ := h.updated devices ((hread devices).mpr hreported)
        rw [hresolve] at hresolved'
        obtain rfl := Except.ok.inj hresolved'
        rw [hdb] at hkeys
        exact hserves.mpr hkeys
      · intro h
        refine ⟨fun hnone => absurd ((hread devices).mpr hreported) (hnone devices),
          fun _ _ => ⟨resolved, hresolve, ?_⟩⟩
        rw [hdb]
        exact hserves.mp (h resolved rfl)
    · have hnone : ∀ devices, (updateTrustedDeviceKeys input reads db).2 ≠
          .ok (.updated devices) := fun devices h =>
        hactive (hupdated.mpr ⟨devices, (hread devices).mp h⟩)
      have hgone : ∃ r ∈ resolved, ¬ input.Active db r := by
        push Not at hactive
        exact hactive
      have hserves : Serves input resolved db ↔ KeysUnchanged db db' := by
        rw [keysUnchanged_iff hrows]
        exact ⟨fun h => (h.resolve_left fun hall => hactive hall.1).2,
          fun h => Or.inr ⟨hgone, h⟩⟩
      constructor
      · intro h resolved' hresolved'
        obtain rfl := Except.ok.inj hresolved'
        have hkeys := h.failed hnone
        rw [hdb] at hkeys
        exact hserves.mpr hkeys
      · intro h
        refine ⟨fun _ => ?_, fun devices hreported => absurd hreported (hnone devices)⟩
        rw [hdb]
        exact hserves.mp (h resolved rfl)

/-- Two devices of one account. -/
def twoDevices : Db where
  users := .singleton { id := "u" }
  devices := ⟨[{ id := "d1", userId := "u", identifier := "x" },
    { id := "d2", userId := "u", identifier := "y" }], by decide⟩

/-- The second one has been revoked. -/
def oneDeviceRevoked : Db where
  users := .singleton { id := "u" }
  devices := ⟨[{ id := "d1", userId := "u", identifier := "x" },
    { id := "d2", userId := "u", identifier := "y", revokedAt := some 3 }], by decide⟩

def rotateTwoDevices : TrustedDeviceKeysUpdateInput where
  userId := "u"
  devices := [⟨⟨"k1", "k1", "k1"⟩, "d1"⟩, ⟨⟨"k2", "k2", "k2"⟩, "y"⟩]
  updatedAt := 4

/-- **A device revoked between the reads and the batch**: the call reports `notFound`, and has
written the keys of the other one. -/
theorem updateTrustedDeviceKeys_partial :
    ¬ ∀ (input : TrustedDeviceKeysUpdateInput) (reads : Nat → Db × Db) (db : Db),
      AllOrNothing input reads db := by
  intro h
  have hfailed := (h rotateTwoDevices (fun _ => (twoDevices, twoDevices)) oneDeviceRevoked).failed
  have hreported : ∀ devices, (updateTrustedDeviceKeys rotateTwoDevices
      (fun _ => (twoDevices, twoDevices)) oneDeviceRevoked).2 ≠ .ok (.updated devices) := by
    have hnotFound : (updateTrustedDeviceKeys rotateTwoDevices
        (fun _ => (twoDevices, twoDevices)) oneDeviceRevoked).2 = .ok (.notFound "y") := by
      decide +kernel
    rw [hnotFound]
    intro devices hsame
    cases hsame
  have hunchanged := hfailed hreported
  revert hunchanged
  unfold KeysUnchanged
  decide +kernel

end HonoWarden
