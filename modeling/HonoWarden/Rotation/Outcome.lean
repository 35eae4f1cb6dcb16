import HonoWarden.Rotation.Atomic

/-!
# What a rotation answers

The client reads the results of the batch after it has committed: `interpretMutationResults`
compares every count with what the snapshot has promised, and throws where one differs.

* `AccountRotated`: what a rotation has done to the account;
* `RotationReported`: what the client has to find to say so.

Results:
* **`rotationRecorded_iff`**: the check of the history compares two numbers;
* **`rotateUserKeyGeneration_atomic`**: a rotation changes nothing and never says that it has, or it
  takes the account as it stands to the next generation, and says so unless the history or the key
  id of the account has moved on since they were read.
-/

namespace HonoWarden

open Relational

/-! ## The history -/

/-- How many of the account's wrappers the history has. -/
def WrapperFingerprints.recordedCurrent (f : WrapperFingerprints) (db : Db) (userId : String) :
    Nat :=
  [f.currentUserKey, f.currentPrivateKey].countP fun sha256 => WrapperRecorded db userId sha256

section History

variable {f : WrapperFingerprints} {db : Db} {userId : String}

theorem WrapperFingerprints.distinct (h : f.values.Nodup) :
    (f.wrappers.map CredentialWrapper.sha256).Nodup := by
  have hperm : (f.wrappers.map CredentialWrapper.sha256).Perm f.values :=
    List.Perm.cons _ (List.Perm.swap _ _ _)
  exact hperm.nodup_iff.mpr h

theorem WrapperFingerprints.sha256_mem {w : CredentialWrapper} (h : w ∈ f.wrappers) :
    w.sha256 ∈ f.values := by
  simp only [wrappers, List.mem_cons, List.not_mem_nil, or_false] at h
  rcases h with rfl | rfl | rfl | rfl <;> simp [values]

/-- The new wrappers are added, and the current ones unless they are there. -/
theorem length_unrecorded (huserKey : ¬ WrapperRecorded db userId f.nextUserKey)
    (hprivateKey : ¬ WrapperRecorded db userId f.nextPrivateKey) :
    (unrecorded db userId f.wrappers).length = 4 - f.recordedCurrent db userId := by
  by_cases huser : WrapperRecorded db userId f.currentUserKey <;>
    by_cases hprivate : WrapperRecorded db userId f.currentPrivateKey <;>
    simp [unrecorded, WrapperFingerprints.wrappers, WrapperFingerprints.recordedCurrent,
      huserKey, hprivateKey, huser, hprivate]

theorem recordedCurrent_le (f : WrapperFingerprints) (db : Db) (userId : String) :
    f.recordedCurrent db userId ≤ 2 :=
  List.countP_le_length

/-- The digests the query returns are the recorded ones. -/
theorem mem_snapshotWrapperHistory {digests : List String} {sha256 : String}
    (hmem : sha256 ∈ digests) :
    sha256 ∈ (snapshotWrapperHistory db userId digests).map WrapperHistory.wrapperSha256 ↔
      WrapperRecorded db userId sha256 := by
  constructor
  · intro h
    obtain ⟨w, hw, rfl⟩ := List.mem_map.mp h
    obtain ⟨hw, hp⟩ := List.mem_filter.mp hw
    exact ⟨w, hw, (of_decide_eq_true hp).1, rfl⟩
  · rintro ⟨w, hw, hid, rfl⟩
    exact List.mem_map_of_mem (List.mem_filter.mpr ⟨hw, decide_eq_true ⟨hid, hmem⟩⟩)

theorem nodup_snapshotWrapperHistory (db : Db) (userId : String) (digests : List String) :
    ((snapshotWrapperHistory db userId digests).map WrapperHistory.wrapperSha256).Nodup := by
  refine List.pairwise_map.mpr ?_
  have hkeyed := db.wrapperHistory.keyed.filter fun w => w.userId = userId ∧
    w.wrapperSha256 ∈ digests
  refine hkeyed.imp_of_mem fun {v w} hv hw hne heq => hne (Or.inl (Prod.ext ?_ heq))
  exact (of_decide_eq_true (List.mem_filter.mp hv).2).1.trans
    (of_decide_eq_true (List.mem_filter.mp hw).2).1.symm

/-- What the snapshot counts. -/
theorem countP_snapshotWrapperHistory (h : f.values.Nodup) :
    ((snapshotWrapperHistory db userId f.values).map WrapperHistory.wrapperSha256).countP
      (fun digest => digest = f.currentUserKey ∨ digest = f.currentPrivateKey) =
      f.recordedCurrent db userId := by
  have hcurrent : [f.currentUserKey, f.currentPrivateKey].Nodup := by
    simp only [WrapperFingerprints.values, List.nodup_cons, List.mem_cons, not_or] at h
    simpa using h.1.2.1
  have hcomm := countP_mem_comm (nodup_snapshotWrapperHistory db userId f.values) hcurrent
  simp only [List.mem_cons, List.not_mem_nil, or_false] at hcomm
  rw [hcomm]
  refine countP_congr_prop fun sha256 hsha256 => mem_snapshotWrapperHistory ?_
  simp only [List.mem_cons, List.not_mem_nil, or_false] at hsha256
  rcases hsha256 with rfl | rfl <;> simp [WrapperFingerprints.values]

section Recorded

variable {snapshot : RotationSnapshot} {wrapper : StatementResult}

/-- **The check of the history compares two numbers.** -/
theorem rotationRecorded_iff (hdistinct : snapshot.fingerprints.values.Nodup)
    (huserKey : ¬ WrapperRecorded db userId snapshot.fingerprints.nextUserKey)
    (hprivateKey : ¬ WrapperRecorded db userId snapshot.fingerprints.nextPrivateKey)
    (hchanges : wrapper.metaChanges =
      (unrecorded db userId snapshot.fingerprints.wrappers).length)
    (hrows : wrapper.rows =
      (unrecorded db userId snapshot.fingerprints.wrappers).map CredentialWrapper.returned)
    (hcount : snapshot.currentHistoryCount ≤ 2) :
    RotationRecorded snapshot wrapper ↔
      snapshot.fingerprints.recordedCurrent db userId = snapshot.currentHistoryCount := by
  have hlength := length_unrecorded huserKey hprivateKey
  have hle := recordedCurrent_le snapshot.fingerprints db userId
  have hsha : wrapper.rows.map wrapperSha256 =
      ((unrecorded db userId snapshot.fingerprints.wrappers).map CredentialWrapper.sha256).map
        some := by
    rw [hrows, map_wrapperSha256_returned]
  have hnew {w : CredentialWrapper} (hw : w ∈ snapshot.fingerprints.wrappers)
      (hnone : ¬ WrapperRecorded db userId w.sha256) :
      some w.sha256 ∈ wrapper.rows.map wrapperSha256 := by
    rw [hsha]
    exact List.mem_map_of_mem (List.mem_map_of_mem
      (List.mem_filter.mpr ⟨hw, decide_eq_true hnone⟩))
  constructor
  · rintro ⟨hchanged, -⟩
    rw [hchanges, hlength] at hchanged
    omega
  · intro hsame
    refine ⟨by rw [hchanges, hlength, hsame], ?_, ?_, ?_, ?_, ?_⟩
    · rw [hrows, List.length_map, hlength, hsame]
    · rw [hsha]
      exact ((snapshot.fingerprints.distinct hdistinct).sublist
        (List.filter_sublist.map _)).map (Option.some_injective _)
    · rw [hrows]
      intro row hrow
      obtain ⟨w, hw, rfl⟩ := List.mem_map.mp hrow
      exact ⟨wrapperKind_returned w, w.sha256,
        WrapperFingerprints.sha256_mem (List.mem_filter.mp hw).1, rfl⟩
    · exact hnew (w := ⟨.userKey, _⟩) (by simp [WrapperFingerprints.wrappers]) huserKey
    · exact hnew (w := ⟨.privateKey, _⟩) (by simp [WrapperFingerprints.wrappers]) hprivateKey

end Recorded

end History

/-! ## The counts -/

/-- The rows a statement hits are as many as the items that cover them. -/
theorem countP_eq_length_items {α β : Type} [Relational.Keyed α String] {t : Table α}
    {p q : α → Prop} [DecidablePred p] [DecidablePred q] {items : List β} {id : β → String}
    (h : (items.map id).Perm ((t.rows.filter p).map Relational.Keyed.key))
    (hq : ∀ a ∈ t.rows, q a ↔ p a) : t.rows.countP q = items.length := by
  rw [countP_congr_prop hq, List.countP_eq_length_filter]
  simpa using h.length_eq.symm

section Counts

variable {C : Codec} {input : RotateUserKeyGenerationInput} {snapshot : RotationSnapshot}
  {trustedDevices : List UserKeyRotationTrustedDevice} {u : User} {db : Db}
  {user wrapper folder cipher attachment trustedDevice revokedDeviceKey device refresh authRequest
    audit : StatementResult}

/-- **The vault's counts are those of the request.** -/
theorem RotationCounts.vault
    (h : RotationCounts input snapshot (rotationManifests snapshot.toUserKeyRotationSnapshot
      input.request.toUserKeyRotationRequest trustedDevices) u db user wrapper folder cipher
      attachment trustedDevice revokedDeviceKey device refresh authRequest audit)
    (hsound : VaultSound db input.userId)
    (hcovers : CoversVault input.request.toUserKeyRotationRequest trustedDevices db input.userId) :
    folder.metaChanges = input.request.folders.length ∧
      cipher.metaChanges = input.request.ciphers.length ∧
      attachment.metaChanges =
        (input.request.ciphers.map fun cipher => cipher.attachments.length).sum ∧
      trustedDevice.metaChanges = trustedDevices.length := by
  refine ⟨?_, ?_, ?_, ?_⟩
  · rw [h.folderChanges]
    refine countP_eq_length_items hcovers.folders fun f hf => ⟨And.left, fun hmine => ⟨hmine, ?_⟩⟩
    exact ⟨hsound.folders f (List.mem_filter.mpr ⟨hf, decide_eq_true hmine⟩),
      (mem_items_iff hcovers.folders hf).mpr hmine⟩
  · rw [h.cipherChanges]
    have hlength : input.request.nextCiphers.length = input.request.ciphers.length :=
      List.length_map _
    rw [← hlength]
    refine countP_eq_length_items hcovers.ciphers fun c hc =>
      ⟨fun hh => ⟨hh.1, hh.2.1⟩, fun hmine => ⟨hmine.1, hmine.2, ?_⟩⟩
    exact ⟨(hsound.ciphers c (List.mem_filter.mpr ⟨hc, decide_eq_true hmine⟩)).1,
      (mem_items_iff hcovers.ciphers hc).mpr hmine⟩
  · rw [h.attachmentChanges]
    have hlength : input.request.nextAttachments.length =
        (input.request.ciphers.map fun cipher => cipher.attachments.length).sum := by
      rw [UserKeyRotationRequest.nextAttachments, List.length_flatMap]
      simp only [List.length_map]
    rw [← hlength]
    refine countP_eq_length_items hcovers.attachments fun a ha =>
      ⟨fun hh => (mem_items_iff hcovers.attachments ha).mp hh.2.2, fun hmine => ⟨hmine.1, ?_⟩⟩
    exact ⟨hsound.attachments a (List.mem_filter.mpr ⟨ha, decide_eq_true hmine⟩),
      (mem_items_iff hcovers.attachments ha).mpr hmine⟩
  · rw [h.trustedDeviceChanges, countP_congr_prop (q := fun d =>
      (d.userId = input.userId ∧ d.Keyed) ∧ d.revokedAt = none) fun d hd => ?_]
    · have hlength := hcovers.devices.length_eq
      rw [keyedDevices, List.filter_filter, List.length_map, List.length_map] at hlength
      rw [List.countP_eq_length_filter, hlength]
      exact congrArg List.length (List.filter_congr fun d _ => by simp [and_comm])
    · refine ⟨fun hh => (mem_trusted_iff hcovers hd).mp hh.2.2.2, fun hh => ?_⟩
      exact ⟨hh.1.1, hh.2, hsound.devices d (List.mem_filter.mpr ⟨hd, decide_eq_true hh.1⟩) hh.2,
        (mem_trusted_iff hcovers hd).mpr hh⟩

/-- The keys that are cleared are those of the revoked devices. -/
theorem RotationCounts.revoked
    (h : RotationCounts input snapshot (rotationManifests snapshot.toUserKeyRotationSnapshot
      input.request.toUserKeyRotationRequest trustedDevices) u db user wrapper folder cipher
      attachment trustedDevice revokedDeviceKey device refresh authRequest audit)
    (hsame : SameVault snapshot.toUserKeyRotationSnapshot (vaultAt db u))
    (hid : u.id = input.userId) :
    revokedDeviceKey.metaChanges = snapshot.revokedDeviceKeys.length := by
  rw [h.revokedDeviceKeyChanges, countP_updateWhere fun d _ hhit => ?_]
  · have hlength := hsame.revokedDeviceKeys.length_eq
    rw [List.length_map, List.length_map] at hlength
    rw [hlength, List.countP_eq_length_filter]
    refine Eq.trans ?_ (congrArg List.length (List.filter_filter
      (p := fun d => decide (d.revokedAt ≠ none))
      (q := fun d => decide (d.userId = u.id ∧ d.Keyed)) (l := db.devices.rows))).symm
    exact congrArg List.length (List.filter_congr fun d _ => by
      simp [hid, Bool.and_left_comm])
  · exact iff_of_false
      (fun hh => hh.2.1 ((rewriteFrom_rotateDevice_revokedAt _ d).trans hhit.2.1))
      fun hh => hh.2.1 hhit.2.1

end Counts

/-! ## The rotation -/

/-- What a rotation has done to the account. -/
structure AccountRotated (fingerprint : String → String) (input : RotateUserKeyGenerationInput)
    (u : User) (trustedDevices : List UserKeyRotationTrustedDevice) (db db' : Db) : Prop where
  users : Db.usersIn.row db' =
    Function.update (Db.usersIn.row db) input.userId (some (u.settled (input.rotate u)))
  wrappers : WrappersAdded input.userId input.nextRevisionDate
    (wrapperFingerprints fingerprint u input.request.toUserKeyRotationRequest).wrappers db db'
  vault : VaultRotated input trustedDevices db db'
  refreshTokens : db'.refreshTokens.rows =
    updateWhere (fun t => t.userId = input.userId ∧ t.revokedAt = none)
      (RefreshToken.revoke input.nextRevisionDate) db.refreshTokens.rows
  authRequests : db'.authRequests.rows =
    updateWhere (fun a => a.userId = some input.userId ∧
        (a.status = .pending ∨ a.status = .approved))
      (AuthRequest.supersede input.nextRevisionDate) db.authRequests.rows
  audit : db'.auditEvents.rows =
    db.auditEvents.rows ++ [{ input.auditEvent with id := input.auditEventId }]
  others : db' = { db with
    users := db'.users
    wrapperHistory := db'.wrapperHistory
    folders := db'.folders
    ciphers := db'.ciphers
    cipherAttachments := db'.cipherAttachments
    devices := db'.devices
    refreshTokens := db'.refreshTokens
    authRequests := db'.authRequests
    auditEvents := db'.auditEvents }

/-- The account has no key id that the new user key would share, and its wrappers are as many in
the history as they were when it was read. -/
def RotationReported (fingerprint : String → String) (input : RotateUserKeyGenerationInput)
    (reads : SnapshotReads) (db : Db) (u : User) : Prop :=
  (u.userKeyId ≠ none → input.request.newUserKeyId ≠ u.userKeyId) ∧
    (wrapperFingerprints fingerprint u input.request.toUserKeyRotationRequest).recordedCurrent db
        input.userId =
      (wrapperFingerprints fingerprint u input.request.toUserKeyRotationRequest).recordedCurrent
        reads.wrapperHistory input.userId

instance (fingerprint : String → String) (input : RotateUserKeyGenerationInput)
    (reads : SnapshotReads) (db : Db) (u : User) :
    Decidable (RotationReported fingerprint input reads db u) :=
  inferInstanceAs (Decidable (_ ∧ _))

/-- What a rotation says when every count is as promised. -/
def rotatedResult (input : RotateUserKeyGenerationInput) (db : Db) :
    RotateUserKeyGenerationResult :=
  .rotated input.request.folders.length input.request.ciphers.length
    (input.request.ciphers.map fun cipher => cipher.attachments.length).sum
    input.request.trustedDevices.length (openSessions input.userId db).1
    (openSessions input.userId db).2.1 (openSessions input.userId db).2.2

section Rotation

variable {C : Codec} {fingerprint : String → String} {input : RotateUserKeyGenerationInput}
  {reads : SnapshotReads} {snapshot : RotationSnapshot}
  {trustedDevices : List UserKeyRotationTrustedDevice} {u : User} {db : Db}

/-- The devices of a snapshot are trusted, or revoked. -/
theorem SnapshotRead.devices (h : SnapshotRead C fingerprint input reads snapshot) :
    (∀ d ∈ snapshot.trustedDevices, d.revokedAt = none ∧ d.Complete) ∧
      ∀ d ∈ snapshot.revokedDeviceKeys, d.revokedAt ≠ none := by
  rw [h.rows]
  refine ⟨fun d hd => ?_, fun d hd => of_decide_eq_true (List.mem_filter.mp hd).2⟩
  obtain ⟨hd, hactive⟩ := List.mem_filter.mp hd
  have hactive := of_decide_eq_true hactive
  obtain ⟨-, hcomplete | hrevoked⟩ := of_decide_eq_true (List.mem_filter.mp hd).2
  · exact hcomplete
  · exact absurd hactive hrevoked.1

/-- The fingerprints of the snapshot are those of the account it is compared with. -/
theorem SnapshotRead.fingerprints_eq {manifests : RotationManifests}
    (h : SnapshotRead C fingerprint input reads snapshot)
    (hu : RotatableAccount input snapshot manifests db u) :
    snapshot.fingerprints =
      wrapperFingerprints fingerprint u input.request.toUserKeyRotationRequest := by
  obtain ⟨-, -, -, -, -, -, -, -, ⟨-, huserKey⟩, -, ⟨-, hprivateKey⟩, -⟩ := hu
  rw [h.fingerprints, wrapperFingerprints, wrapperFingerprints, huserKey, hprivateKey]

/-- A fresh user key is not the one of the account. -/
theorem RotatesSnapshot.userKey_ne {request : UserKeyRotationRequest}
    (h : RotatesSnapshot C (vaultAt db u) request trustedDevices) (hstored : Stored u.userKey) :
    some request.nextUserKey ≠ u.userKey := by
  obtain ⟨current, next, -, -, -, hnew⟩ := h.fresh
  intro heq
  refine hnew request.nextUserKey (by simp [nextValues]) ?_
  refine List.mem_filter.mpr ⟨List.reduceOption_mem_iff.mpr ?_, ?_⟩
  · simp only [vaultAt, heq]
    simp
  · exact decide_eq_true fun hempty => hstored.2 (by rw [← heq, hempty])

/-- What a reading refuses is not said to be rotated. -/
theorem readUserKeyRotationSnapshot_refused {result : RotateUserKeyGenerationResult}
    (h : readUserKeyRotationSnapshot C fingerprint input reads = .ok (.refused result))
    (f c a t d r q : Nat) : result ≠ .rotated f c a t d r q := by
  rintro rfl
  unfold readUserKeyRotationSnapshot at h
  rw [if_neg fun hbound => by rw [if_pos hbound] at h; cases h] at h
  split at h
  · cases h
  rw [if_neg fun hformed => by rw [if_pos hformed] at h; cases h] at h
  split at h
  · cases h
  split_ifs at h
  any_goals cases h
  unfold readHistoryAndRows at h
  dsimp only at h
  split_ifs at h
  all_goals cases h

/-- The batch of a snapshot that has been read, and validated. -/
theorem mutationStatements_atomic
    (hread : SnapshotRead C fingerprint input reads snapshot)
    (hrotates : RotatesSnapshot C snapshot.toUserKeyRotationSnapshot
      input.request.toUserKeyRotationRequest trustedDevices)
    (hfresh : ¬ input.Committed db) {db' : Db} {results : List StatementResult}
    (hrun : runBatch (mutationStatements input snapshot (rotationManifests
      snapshot.toUserKeyRotationSnapshot input.request.toUserKeyRotationRequest trustedDevices))
      db = .ok (db', results)) :
    (db' = db ∧ interpretMutationResults input snapshot results = .ok .conflict) ∨
    ∃ u, Db.usersIn.row db input.userId = some u ∧ u.disabledAt = none ∧
      ExpectedGeneration input u ∧
      RotatesSnapshot C (vaultAt db u) input.request.toUserKeyRotationRequest trustedDevices ∧
      AccountRotated fingerprint input u trustedDevices db db' ∧
      interpretMutationResults input snapshot results =
        if RotationReported fingerprint input reads db u then .ok (rotatedResult input db)
        else .error "user key rotation batch did not commit one exact generation" := by
  by_cases hhit : ∃ u, Db.usersIn.row db input.userId = some u ∧ RotatableAccount input snapshot
      (rotationManifests snapshot.toUserKeyRotationSnapshot
        input.request.toUserKeyRotationRequest trustedDevices) db u
  swap
  · exact Or.inl (mutationStatements_miss hfresh (fun u hu hh => hhit ⟨u, hu, hh⟩) hrun)
  right
  obtain ⟨u, hrow, hu⟩ := hhit
  have hfingerprints := hread.fingerprints_eq hu
  obtain ⟨hcommitted, user, wrapper, folder, cipher, attachment, trustedDevice, revokedDeviceKey,
    device, refresh, authRequest, audit, rfl, hcounts⟩ := mutationStatements_hit hrow hu
      (WrapperFingerprints.distinct hread.distinct) hrun
  obtain ⟨hid, henabled, hhash, -, -, -, -, -, ⟨-, huserKey⟩, -, ⟨-, hprivateKey⟩, hstamp, hrevision,
    hvault, hnextUserKey, hnextPrivateKey⟩ := hu
  obtain ⟨htrusted, hrevoked⟩ := hread.devices
  have hrowsKeys : u.userKey = snapshot.userKey ∧ u.privateKey = snapshot.privateKey := by
    rw [hread.rows]
    exact ⟨huserKey, hprivateKey⟩
  obtain ⟨hsame, hsound⟩ :=
    hvault.sameVault hrotates.ids hrowsKeys.1 hrowsKeys.2 htrusted hrevoked
  have hvaultRotates := hrotates.of_sameVault hsame
  have hcovers := hvaultRotates.covers
  rw [hid] at hsound hcovers hnextUserKey hnextPrivateKey
  obtain ⟨hfolders, hciphers, hattachments, hdevices⟩ := hcounts.vault hsound hcovers
  have hdevices' : trustedDevice.metaChanges = input.request.trustedDevices.length :=
    hdevices.trans hrotates.resolved.length_eq.symm
  have hrevokedKeys := (hcounts.revoked hsame hid).trans hread.counts.2.2.2.2
  obtain ⟨hdevice, hrefresh, hrequest⟩ : device.metaChanges = (openSessions input.userId db).1 ∧
      refresh.metaChanges = (openSessions input.userId db).2.1 ∧
      authRequest.metaChanges = (openSessions input.userId db).2.2 :=
    ⟨congrArg Prod.fst hcounts.sessions, congrArg (·.2.1) hcounts.sessions,
      congrArg (·.2.2) hcounts.sessions⟩
  have hhistory : snapshot.currentHistoryCount =
      snapshot.fingerprints.recordedCurrent reads.wrapperHistory input.userId :=
    hread.history.trans (countP_snapshotWrapperHistory hread.distinct)
  have hrecorded := rotationRecorded_iff hread.distinct hnextUserKey hnextPrivateKey
    hcounts.wrapperChanges hcounts.recorded
    (hhistory ▸ recordedCurrent_le _ reads.wrapperHistory input.userId)
  have hstale : u.StaleKeyId (input.rotate u) ↔
      ¬ (u.userKeyId ≠ none → input.request.newUserKeyId ≠ u.userKeyId) := by
    have hne : (input.rotate u).userKey ≠ u.userKey :=
      hvaultRotates.userKey_ne (huserKey ▸ hread.userKey)
    rw [User.StaleKeyId, and_iff_right hne, Classical.not_imp, not_not]
    exact and_comm
  have hreported : RotationReported fingerprint input reads db u ↔
      user.metaChanges = 1 ∧ RotationRecorded snapshot wrapper := by
    rw [hrecorded, hhistory, hfingerprints, hcounts.userChanges, RotationReported]
    refine and_congr_left fun _ => ?_
    by_cases hs : u.StaleKeyId (input.rotate u)
    · rw [if_pos hs]
      exact iff_of_false (hstale.mp hs) (by decide)
    · rw [if_neg hs]
      exact iff_of_true (not_not.mp fun h => hs (hstale.mpr h)) rfl
  refine ⟨u, hrow, henabled, ⟨hid, hstamp, hrevision, hhash⟩, hvaultRotates,
    ⟨hcommitted.users, hfingerprints ▸ hcommitted.wrappers,
      hcommitted.vaultRotated hsound hcovers, hcommitted.refreshTokens, hcommitted.authRequests,
      hcommitted.audit, hcommitted.others⟩, ?_⟩
  dsimp only [interpretMutationResults]
  rw [if_neg (by rw [hcounts.rows]; exact List.cons_ne_nil _ _)]
  by_cases hok : RotationReported fingerprint input reads db u
  · obtain ⟨hone, hwrapper⟩ := hreported.mp hok
    rw [if_pos hok, if_neg]
    · rw [rotatedResult, hfolders, hciphers, hattachments, hdevices', hdevice, hrefresh, hrequest]
    · simp only [not_or, ne_eq, not_not]
      exact ⟨hcounts.rows, hone, hwrapper, hfolders, hciphers, hattachments, hdevices', hrevokedKeys,
        hcounts.auditChanges⟩
  · rw [if_neg hok, if_pos]
    by_cases hone : user.metaChanges = 1
    · exact Or.inr (Or.inr (Or.inl fun hwrapper => hok (hreported.mpr ⟨hone, hwrapper⟩)))
    · exact Or.inr (Or.inl hone)

/-- **A rotation is whole.** Whatever was written while the snapshot was read, and between the
snapshot and the batch: the rotation changes nothing and does not say that it has rotated, or the
request rotates the vault as the batch finds it, and every row of the account is taken to the next
generation. It says so unless `RotationReported` fails; then it throws after it has committed. -/
theorem rotateUserKeyGeneration_atomic {values : List Json}
    (hreads : ∀ value ∈ values, C.jsonParse (C.jsonStringify value) = some value)
    (hparsed : parseUserKeyRotationCiphers C values = some input.request.ciphers)
    (hfresh : ¬ input.Committed db) :
    ((rotateUserKeyGeneration C fingerprint input reads db).1 = db ∧
      ∀ f c a t d r q, (rotateUserKeyGeneration C fingerprint input reads db).2 ≠
        .ok (.rotated f c a t d r q)) ∨
    ∃ u trustedDevices, Db.usersIn.row db input.userId = some u ∧ u.disabledAt = none ∧
      ExpectedGeneration input u ∧
      RotatesSnapshot C (vaultAt db u) input.request.toUserKeyRotationRequest trustedDevices ∧
      AccountRotated fingerprint input u trustedDevices db
        (rotateUserKeyGeneration C fingerprint input reads db).1 ∧
      (rotateUserKeyGeneration C fingerprint input reads db).2 =
        if RotationReported fingerprint input reads db u then .ok (rotatedResult input db)
        else .error (.thrown "user key rotation batch did not commit one exact generation") := by
  unfold rotateUserKeyGeneration
  split
  · exact Or.inl ⟨rfl, by simp⟩
  split
  · exact Or.inl ⟨rfl, by simp⟩
  split
  · exact Or.inl ⟨rfl, by simp⟩
  · rename_i result hrefused
    exact Or.inl ⟨rfl, fun f c a t d r q h =>
      readUserKeyRotationSnapshot_refused hrefused f c a t d r q (Except.ok.inj h)⟩
  rename_i snapshot hready
  dsimp only
  split
  · exact Or.inl ⟨rfl, by simp⟩
  · exact Or.inl ⟨rfl, by simp⟩
  rename_i trustedDevices hvalid
  split
  · exact Or.inl ⟨rfl, by simp⟩
  rename_i manifests hmanifests
  split
  · exact Or.inl ⟨rfl, by simp⟩
  unfold buildRotationManifests at hmanifests
  dsimp only at hmanifests
  split_ifs at hmanifests
  obtain rfl := Option.some.inj hmanifests
  have hread := readUserKeyRotationSnapshot_ready hready
  have hrotates := validateSnapshotAgainstRequest_rotates hreads hparsed hread.sameCounts hvalid
  rcases commit_cases (mutationStatements input snapshot (rotationManifests
    snapshot.toUserKeyRotationSnapshot input.request.toUserKeyRotationRequest trustedDevices))
    (interpretMutationResults input snapshot) db with ⟨hdb, e, he⟩ | ⟨db', results, hrun, hdb, hres⟩
  · exact Or.inl ⟨hdb, fun f c a t d r q h => by rw [he] at h; cases h⟩
  rw [hdb, hres]
  rcases mutationStatements_atomic hread hrotates hfresh hrun with
    ⟨rfl, hconflict⟩ | ⟨u, hrow, henabled, hgeneration, hvault, hrotated, hresult⟩
  · rw [hconflict]
    exact Or.inl ⟨rfl, by simp [Except.mapError]⟩
  · refine Or.inr ⟨u, trustedDevices, hrow, henabled, hgeneration, hvault, hrotated, ?_⟩
    rw [hresult]
    split <;> rfl

end Rotation

/-! ### One account -/

/-- An account with a folder, signed in on its laptop, with an open login request. -/
def oneVault : Db where
  users := Table.singleton
    { id := "owner", email := "one@example.com", emailNormalized := "one@example.com"
      masterPasswordHash := "hash", userKey := some "2.user-key", publicKey := some "public"
      privateKey := some "2.private-key", securityStamp := "stamp", revisionDate := 4 }
  folders := Table.singleton { id := "folder", userId := "owner", encryptedName := "2.folder" }
  devices := Table.singleton
    { id := "device", userId := "owner", identifier := "laptop"
      encryptedUserKey := some "4.user", encryptedPublicKey := some "2.public"
      encryptedPrivateKey := some "2.private" }
  refreshTokens := Table.singleton
    { id := "token", userId := "owner", deviceId := "device", tokenHash := "token-hash"
      expiresAt := 100 }
  authRequests := Table.singleton
    { id := "request", userId := some "owner", requestDeviceIdentifier := "phone" }

/-- The rotation of its keys. -/
def oneRotation : RotateUserKeyGenerationInput where
  userId := "owner"
  expectedSecurityStamp := "stamp"
  expectedRevisionDate := 4
  nextSecurityStamp := "next-stamp"
  nextRevisionDate := 9
  request :=
    { nextUserKey := "2.next-user-key", wrappedPrivateKey := "2.next-private-key"
      folders := [⟨"folder", "2.next-folder"⟩]
      trustedDevices := [⟨"laptop", "2.next-public", "4.next-user"⟩]
      oldMasterKeyAuthenticationHash := "hash", nextMasterKeyAuthenticationHash := "next-hash"
      salt := "one@example.com", kdf := ⟨0, 600000, none, none⟩, publicKey := "public" }
  auditEventId := "event"
  auditEvent :=
    { name := "account.keys.rotate", outcome := "success", requestId := "request", occurredAt := 9
      actorUserId := some "owner", targetType := some "account", targetId := some "owner" }

/-- The snapshot is read, and nothing is written before the batch. -/
def oneReads : SnapshotReads := ⟨oneVault, oneVault, oneVault, oneVault, oneVault, oneVault⟩

theorem oneRotation_rotated :
    (rotateUserKeyGeneration oneNoteCodec (fun text => text) oneRotation oneReads oneVault).2 =
      .ok (.rotated 1 0 0 1 1 1 1) := by
  decide +kernel

theorem rotateUserKeyGeneration_atomic_one : ∃ u trustedDevices,
    Db.usersIn.row oneVault "owner" = some u ∧
      RotatesSnapshot oneNoteCodec (vaultAt oneVault u)
        oneRotation.request.toUserKeyRotationRequest trustedDevices ∧
      AccountRotated (fun text => text) oneRotation u trustedDevices oneVault
        (rotateUserKeyGeneration oneNoteCodec (fun text => text) oneRotation oneReads
          oneVault).1 := by
  rcases @rotateUserKeyGeneration_atomic oneNoteCodec (fun text => text) oneRotation oneReads
    oneVault [] (by simp) rfl (by decide +kernel) with
    ⟨-, hnot⟩ | ⟨u, trustedDevices, hrow, -, -, hrotates, hrotated, -⟩
  · exact absurd oneRotation_rotated (hnot _ _ _ _ _ _ _)
  · exact ⟨u, trustedDevices, hrow, hrotates, hrotated⟩

end HonoWarden
