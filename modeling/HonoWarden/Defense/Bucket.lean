import HonoWarden.Schema
import HonoWarden.Relational.Lookup
import HonoWarden.Throttle.Counter

/-!
# Failure buckets and request quotas

Model of the bucket functions of `src/repositories/auth-repository.ts`, of
`src/repositories/request-quota-repository.ts`, and of their policies in
`src/domain/login-defense.ts`, `src/domain/request-quota.ts` and
`src/maintenance/retention-cleanup.ts`.

A bucket is a row under its key, written by one upsert that recomputes count, window and lock
from the old row. Timestamps compare as their texts do.

Results:
* **`recordFailedAuthBucket_eq`**, **`recordRequestQuotaHit_eq`**: each call takes one hit on the
  counter of its bucket and leaves the other buckets alone; a quota of `limit` requests is a
  counter that locks at `limit + 1`;
* `cleanupExpiredAuthFailureBuckets_eq`: the cleanup only removes buckets that expired.
-/

namespace HonoWarden

open Relational Throttle

/-- A row of `auth_failure_buckets`. -/
structure AuthFailureBucket where
  bucketKey : String
  failedCount : Nat
  windowStartedAt : Timestamp
  lockedUntil : Option Timestamp
  updatedAt : Timestamp
  deriving DecidableEq, Repr

instance : Keyed AuthFailureBucket String := .primary AuthFailureBucket.bucketKey

inductive RequestQuotaScope where
  | anonymous
  | authenticated
  deriving DecidableEq, Repr

/-- A row of `request_quota_buckets`. -/
structure RequestQuotaBucket where
  bucketKey : String
  scope : RequestQuotaScope
  requestCount : Nat
  windowStartedAt : Timestamp
  blockedUntil : Option Timestamp
  updatedAt : Timestamp
  deriving DecidableEq, Repr

instance : Keyed RequestQuotaBucket String := .primary RequestQuotaBucket.bucketKey

/-- The tables of the defenses. -/
structure DefenseDb where
  authFailureBuckets : Table AuthFailureBucket := ∅
  requestQuotaBuckets : Table RequestQuotaBucket := ∅
  deriving DecidableEq

abbrev authFailureBucketsIn : TableIn DefenseDb AuthFailureBucket where
  name := "auth_failure_buckets"
  get db := db.authFailureBuckets
  put db t := { db with authFailureBuckets := t }
  get_put _ _ := rfl
  put_get _ := rfl

abbrev requestQuotaBucketsIn : TableIn DefenseDb RequestQuotaBucket where
  name := "request_quota_buckets"
  get db := db.requestQuotaBuckets
  put db t := { db with requestQuotaBuckets := t }
  get_put _ _ := rfl
  put_get _ := rfl

/-! ## Failure buckets -/

/-- `FailedAuthBucketInput`. -/
structure FailedAuthBucketInput where
  bucketKey : String
  failureLimit : Int
  failureWindowSeconds : Nat
  lockoutSeconds : Nat
  now : Timestamp
  deriving DecidableEq, Repr

def findAuthFailureBucket (db : DefenseDb) (bucketKey : String) : Option AuthFailureBucket :=
  authFailureBucketsIn.row db bucketKey

/-- What the upsert makes of the row it finds. -/
def FailedAuthBucketInput.onConflict (input : FailedAuthBucketInput)
    (old excluded : AuthFailureBucket) : AuthFailureBucket :=
  let windowThreshold := input.now - input.failureWindowSeconds * 1000
  let lockedUntil := input.now + input.lockoutSeconds * 1000
  let failedCount := if windowThreshold ≤ old.windowStartedAt then old.failedCount + 1 else 1
  { old with
    failedCount := failedCount
    windowStartedAt :=
      if windowThreshold ≤ old.windowStartedAt then old.windowStartedAt
      else excluded.windowStartedAt
    lockedUntil := if input.failureLimit ≤ failedCount then some lockedUntil else none
    updatedAt := excluded.updatedAt }

/-- The row the upsert inserts. -/
def FailedAuthBucketInput.inserted (input : FailedAuthBucketInput) : AuthFailureBucket where
  bucketKey := input.bucketKey
  failedCount := 1
  windowStartedAt := input.now
  lockedUntil :=
    if input.failureLimit ≤ 1 then some (input.now + input.lockoutSeconds * 1000) else none
  updatedAt := input.now

def recordFailedAuthBucket (input : FailedAuthBucketInput) (db : DefenseDb) :
    DefenseDb × Except Failure AuthFailureBucket :=
  match execute (authFailureBucketsIn.upsertRow (fun _ _ => some input.inserted)
      (fun old excluded => some (input.onConflict old excluded)) fun _ => [])
      (fun _ => .ok ()) db with
  | (db', .error e) => (db', .error e)
  | (db', .ok ()) =>
    match findAuthFailureBucket db' input.bucketKey with
    | none => (db', .error (.thrown "Failed auth bucket was not persisted."))
    | some bucket => (db', .ok bucket)

def resetAuthFailureBucket (bucketKey : String) (db : DefenseDb) : DefenseDb × Except Failure Unit :=
  execute (authFailureBucketsIn.delete fun _ _ b => b.bucketKey = bucketKey) (fun _ => .ok ()) db

/-- The input of the cleanups. -/
structure BucketCleanupInput where
  expiredBefore : Timestamp
  now : Timestamp
  limit : Nat
  deriving DecidableEq, Repr

/-- `updated_at < ? AND (locked_until IS NULL OR locked_until < ?)`. -/
def BucketCleanupInput.Expired (input : BucketCleanupInput) (b : AuthFailureBucket) : Prop :=
  b.updatedAt < input.expiredBefore ∧ ∀ u ∈ b.lockedUntil, u < input.now

instance (input : BucketCleanupInput) : DecidablePred input.Expired := fun b =>
  inferInstanceAs (Decidable (_ ∧ ∀ u ∈ b.lockedUntil, _))

def expiredAuthFailureBuckets (input : BucketCleanupInput) (db : DefenseDb) : List String :=
  (((db.authFailureBuckets.rows.filter fun b => input.Expired b).mergeSort
    fun a b => a.updatedAt ≤ b.updatedAt).take input.limit).map AuthFailureBucket.bucketKey

def cleanupExpiredAuthFailureBuckets (input : BucketCleanupInput) (db : DefenseDb) :
    DefenseDb × Except Failure Nat :=
  execute (authFailureBucketsIn.delete fun db _ b =>
    b.bucketKey ∈ expiredAuthFailureBuckets input db) (fun r => .ok r.metaChanges) db

/-! ## Request quotas -/

/-- `RequestQuotaHitInput`. -/
structure RequestQuotaHitInput where
  bucketKey : String
  scope : RequestQuotaScope
  limit : Int
  windowSeconds : Nat
  blockSeconds : Nat
  now : Timestamp
  deriving DecidableEq, Repr

def findRequestQuotaBucket (db : DefenseDb) (bucketKey : String) : Option RequestQuotaBucket :=
  requestQuotaBucketsIn.row db bucketKey

/-- What the upsert makes of the row it finds. -/
def RequestQuotaHitInput.onConflict (input : RequestQuotaHitInput)
    (old excluded : RequestQuotaBucket) : RequestQuotaBucket :=
  let windowThreshold := input.now - input.windowSeconds * 1000
  let blockedUntil := input.now + input.blockSeconds * 1000
  let requestCount := if windowThreshold ≤ old.windowStartedAt then old.requestCount + 1 else 1
  { old with
    scope := excluded.scope
    requestCount := requestCount
    windowStartedAt :=
      if windowThreshold ≤ old.windowStartedAt then old.windowStartedAt
      else excluded.windowStartedAt
    blockedUntil := if input.limit < requestCount then some blockedUntil else none
    updatedAt := excluded.updatedAt }

/-- The row the upsert inserts. -/
def RequestQuotaHitInput.inserted (input : RequestQuotaHitInput) : RequestQuotaBucket where
  bucketKey := input.bucketKey
  scope := input.scope
  requestCount := 1
  windowStartedAt := input.now
  blockedUntil :=
    if input.limit < 1 then some (input.now + input.blockSeconds * 1000) else none
  updatedAt := input.now

def recordRequestQuotaHit (input : RequestQuotaHitInput) (db : DefenseDb) :
    DefenseDb × Except Failure RequestQuotaBucket :=
  match execute (requestQuotaBucketsIn.upsertRow (fun _ _ => some input.inserted)
      (fun old excluded => some (input.onConflict old excluded)) fun _ => [])
      (fun _ => .ok ()) db with
  | (db', .error e) => (db', .error e)
  | (db', .ok ()) =>
    match findRequestQuotaBucket db' input.bucketKey with
    | none => (db', .error (.thrown "Request quota bucket was not persisted."))
    | some bucket => (db', .ok bucket)

/-- `isRequestQuotaExceeded`. -/
def IsRequestQuotaExceeded (bucket : RequestQuotaBucket) (now : Timestamp) : Prop :=
  ∃ u ∈ bucket.blockedUntil, now < u

instance (bucket : RequestQuotaBucket) (now : Timestamp) :
    Decidable (IsRequestQuotaExceeded bucket now) :=
  inferInstanceAs (Decidable (∃ u ∈ bucket.blockedUntil, now < u))

/-! ## Policies -/

/-- The shape of `loginDefensePolicy`. -/
structure LoginDefensePolicy where
  accountFailureLimit : Int
  accountFailureWindowSeconds : Nat
  accountLockoutSeconds : Nat
  ipFailureLimit : Int
  ipFailureWindowSeconds : Nat
  ipRetryAfterSeconds : Nat
  deriving DecidableEq, Repr

def loginDefensePolicy : LoginDefensePolicy where
  accountFailureLimit := 5
  accountFailureWindowSeconds := 15 * 60
  accountLockoutSeconds := 15 * 60
  ipFailureLimit := 20
  ipFailureWindowSeconds := 60
  ipRetryAfterSeconds := 60

/-- `isAccountLocked`. -/
def IsAccountLocked (lockedUntil : Option Timestamp) (now : Timestamp) : Prop :=
  ∃ u ∈ lockedUntil, now < u

instance (lockedUntil : Option Timestamp) (now : Timestamp) :
    Decidable (IsAccountLocked lockedUntil now) :=
  inferInstanceAs (Decidable (∃ u ∈ lockedUntil, now < u))

def authDefenseCleanupRowsPerSlice : Nat := 100

/-- `authDefenseCleanupWindowSeconds`. -/
def LoginDefensePolicy.authDefenseCleanupWindowSeconds (policy : LoginDefensePolicy) : Nat :=
  max (max policy.accountFailureWindowSeconds policy.accountLockoutSeconds)
    (max policy.ipFailureWindowSeconds policy.ipRetryAfterSeconds)

/-- What `cleanupTransientAuthData` asks of `cleanupExpiredAuthFailureBuckets`. -/
def LoginDefensePolicy.cleanupInput (policy : LoginDefensePolicy) (now : Timestamp) :
    BucketCleanupInput where
  expiredBefore := now - policy.authDefenseCleanupWindowSeconds * 1000
  now := now
  limit := authDefenseCleanupRowsPerSlice

inductive BucketKind where
  | account
  | ip
  deriving DecidableEq, Repr

/-- The failure the password grant records at `now`, on the bucket of an account or an address. -/
def LoginDefensePolicy.failure (policy : LoginDefensePolicy) (kind : BucketKind)
    (bucketKey : String) (now : Timestamp) : FailedAuthBucketInput :=
  match kind with
  | .ip =>
    { bucketKey
      failureLimit := policy.ipFailureLimit
      failureWindowSeconds := policy.ipFailureWindowSeconds
      lockoutSeconds := policy.ipRetryAfterSeconds
      now }
  | .account =>
    { bucketKey
      failureLimit := policy.accountFailureLimit
      failureWindowSeconds := policy.accountFailureWindowSeconds
      lockoutSeconds := policy.accountLockoutSeconds
      now }

/-! ## Buckets are counters -/

def AuthFailureBucket.counter (b : AuthFailureBucket) : Counter where
  count := b.failedCount
  windowStartedAt := b.windowStartedAt
  lockedUntil := b.lockedUntil
  updatedAt := b.updatedAt

def FailedAuthBucketInput.rule (input : FailedAuthBucketInput) : Rule where
  limit := input.failureLimit
  window := input.failureWindowSeconds * 1000
  lock := input.lockoutSeconds * 1000

def RequestQuotaBucket.counter (b : RequestQuotaBucket) : Counter where
  count := b.requestCount
  windowStartedAt := b.windowStartedAt
  lockedUntil := b.blockedUntil
  updatedAt := b.updatedAt

/-- The request after the last one the quota admits locks the counter. -/
def RequestQuotaHitInput.rule (input : RequestQuotaHitInput) : Rule where
  limit := input.limit + 1
  window := input.windowSeconds * 1000
  lock := input.blockSeconds * 1000

/-- The bucket after a failure. -/
def FailedAuthBucketInput.recorded (input : FailedAuthBucketInput)
    (old? : Option AuthFailureBucket) : AuthFailureBucket :=
  (old?.map fun old => input.onConflict old input.inserted).getD input.inserted

/-- The bucket after a request. -/
def RequestQuotaHitInput.recorded (input : RequestQuotaHitInput)
    (old? : Option RequestQuotaBucket) : RequestQuotaBucket :=
  (old?.map fun old => input.onConflict old input.inserted).getD input.inserted

theorem FailedAuthBucketInput.recorded_counter (input : FailedAuthBucketInput)
    (old? : Option AuthFailureBucket) :
    (input.recorded old?).counter =
      input.rule.hit input.now (old?.map AuthFailureBucket.counter) := by
  cases old? with
  | none => rfl
  | some old =>
    by_cases hwithin : input.rule.Within input.now old.counter
    · have hthreshold : input.now - input.failureWindowSeconds * 1000 ≤ old.windowStartedAt :=
        Nat.sub_le_iff_le_add.mpr hwithin
      rw [Option.map_some, Rule.hit_of_within hwithin]
      simp only [recorded, Option.map_some, Option.getD_some, onConflict, hthreshold, if_true]
      rfl
    · have hthreshold : ¬ input.now - input.failureWindowSeconds * 1000 ≤ old.windowStartedAt :=
        fun h => hwithin (Nat.sub_le_iff_le_add.mp h)
      rw [Option.map_some, Rule.hit_of_over hwithin]
      simp only [recorded, Option.map_some, Option.getD_some, onConflict, hthreshold, if_false]
      rfl

theorem RequestQuotaHitInput.blocked_eq (input : RequestQuotaHitInput) (count : Nat) :
    (if input.limit < count then some (input.now + input.blockSeconds * 1000) else none) =
      input.rule.lockAt count input.now := by
  unfold Rule.lockAt
  exact if_congr Int.add_one_le_iff.symm rfl rfl

theorem RequestQuotaHitInput.recorded_counter (input : RequestQuotaHitInput)
    (old? : Option RequestQuotaBucket) :
    (input.recorded old?).counter =
      input.rule.hit input.now (old?.map RequestQuotaBucket.counter) := by
  cases old? with
  | none =>
    rw [Option.map_none, Rule.hit, Rule.first, ← input.blocked_eq 1]
    rfl
  | some old =>
    by_cases hwithin : input.rule.Within input.now old.counter
    · have hthreshold : input.now - input.windowSeconds * 1000 ≤ old.windowStartedAt :=
        Nat.sub_le_iff_le_add.mpr hwithin
      rw [Option.map_some, Rule.hit_of_within hwithin, Rule.next, ← blocked_eq]
      simp only [recorded, Option.map_some, Option.getD_some, onConflict, hthreshold, if_true]
      rfl
    · have hthreshold : ¬ input.now - input.windowSeconds * 1000 ≤ old.windowStartedAt :=
        fun h => hwithin (Nat.sub_le_iff_le_add.mp h)
      rw [Option.map_some, Rule.hit_of_over hwithin, Rule.first, ← input.blocked_eq 1]
      simp only [recorded, Option.map_some, Option.getD_some, onConflict, hthreshold, if_false]
      rfl

/-! ## The calls -/

/-- **A failure writes its own bucket.** -/
theorem recordFailedAuthBucket_eq (input : FailedAuthBucketInput) (db : DefenseDb) :
    ∃ db', recordFailedAuthBucket input db =
        (db', .ok (input.recorded (findAuthFailureBucket db input.bucketKey))) ∧
      ∀ k, findAuthFailureBucket db' k =
        if input.bucketKey = k then some (input.recorded (findAuthFailureBucket db k))
        else findAuthFailureBucket db k := by
  obtain ⟨T, r, hrun, hrow⟩ := authFailureBucketsIn.upsertRow_merge (fun _ _ h => h)
    input.inserted (fun (old : AuthFailureBucket) => (rfl :
      Keyed.key (input.onConflict old input.inserted) = Keyed.key old)) db 0
  have hfind : ∀ k, findAuthFailureBucket { db with authFailureBuckets := T } k =
      if input.bucketKey = k then some (input.recorded (findAuthFailureBucket db k))
      else findAuthFailureBucket db k := hrow
  refine ⟨_, ?_, hfind⟩
  have hself := (hfind input.bucketKey).trans (if_pos rfl)
  simp only [recordFailedAuthBucket, execute, hrun]
  rw [hself]

/-- **A request writes its own bucket.** -/
theorem recordRequestQuotaHit_eq (input : RequestQuotaHitInput) (db : DefenseDb) :
    ∃ db', recordRequestQuotaHit input db =
        (db', .ok (input.recorded (findRequestQuotaBucket db input.bucketKey))) ∧
      ∀ k, findRequestQuotaBucket db' k =
        if input.bucketKey = k then some (input.recorded (findRequestQuotaBucket db k))
        else findRequestQuotaBucket db k := by
  obtain ⟨T, r, hrun, hrow⟩ := requestQuotaBucketsIn.upsertRow_merge (fun _ _ h => h)
    input.inserted (fun (old : RequestQuotaBucket) => (rfl :
      Keyed.key (input.onConflict old input.inserted) = Keyed.key old)) db 0
  have hfind : ∀ k, findRequestQuotaBucket { db with requestQuotaBuckets := T } k =
      if input.bucketKey = k then some (input.recorded (findRequestQuotaBucket db k))
      else findRequestQuotaBucket db k := hrow
  refine ⟨_, ?_, hfind⟩
  have hself := (hfind input.bucketKey).trans (if_pos rfl)
  simp only [recordRequestQuotaHit, execute, hrun]
  rw [hself]

/-- A reset removes the bucket. -/
theorem resetAuthFailureBucket_eq (bucketKey : String) (db : DefenseDb) :
    ∃ db', resetAuthFailureBucket bucketKey db = (db', .ok ()) ∧
      ∀ k, findAuthFailureBucket db' k =
        if bucketKey = k then none else findAuthFailureBucket db k := by
  obtain ⟨T, r, hrun, hrow⟩ := authFailureBucketsIn.delete_row
    (fun _ _ b => b.bucketKey = bucketKey) db 0
  refine ⟨{ db with authFailureBuckets := T }, by simp only [resetAuthFailureBucket, execute, hrun],
    fun k => (hrow k).trans ?_⟩
  change Option.filter _ (findAuthFailureBucket db k) = _
  cases hfind : findAuthFailureBucket db k with
  | none => simp
  | some b =>
    have hkey : b.bucketKey = k := TableIn.row_key hfind
    by_cases h : bucketKey = k
    · simp [Option.filter, hkey, h]
    · simp [Option.filter, hkey, h, Ne.symm h]

theorem expired_of_mem {input : BucketCleanupInput} {db : DefenseDb} {k : String}
    {b : AuthFailureBucket} (hb : findAuthFailureBucket db k = some b)
    (hpicked : b.bucketKey ∈ expiredAuthFailureBuckets input db) : input.Expired b := by
  obtain ⟨b', hb', hkey⟩ := List.mem_map.mp hpicked
  have hmem := List.mem_mergeSort.mp (List.mem_of_mem_take hb')
  rw [List.mem_filter, decide_eq_true_iff] at hmem
  have hrow := (rowOf_eq_some_iff db.authFailureBuckets.keyed).mp hb
  obtain rfl := db.authFailureBuckets.eq_of_key hmem.1 hrow.1 hkey
  exact hmem.2

/-- **The cleanup removes expired buckets only.** -/
theorem cleanupExpiredAuthFailureBuckets_eq (input : BucketCleanupInput) (db : DefenseDb) :
    ∃ db' n, cleanupExpiredAuthFailureBuckets input db = (db', .ok n) ∧
      ∀ k, findAuthFailureBucket db' k = findAuthFailureBucket db k ∨
        findAuthFailureBucket db' k = none ∧
          ∀ b ∈ findAuthFailureBucket db k, input.Expired b := by
  obtain ⟨T, r, hrun, hrow⟩ := authFailureBucketsIn.delete_row
    (fun db _ b => b.bucketKey ∈ expiredAuthFailureBuckets input db) db 0
  refine ⟨{ db with authFailureBuckets := T }, r.metaChanges,
    by simp only [cleanupExpiredAuthFailureBuckets, execute, hrun], fun k => ?_⟩
  have hfind : findAuthFailureBucket { db with authFailureBuckets := T } k =
      (findAuthFailureBucket db k).filter fun b =>
        ¬ b.bucketKey ∈ expiredAuthFailureBuckets input db := hrow k
  cases hold : findAuthFailureBucket db k with
  | none => exact Or.inl (by rw [hfind, hold]; rfl)
  | some b =>
    by_cases hpicked : b.bucketKey ∈ expiredAuthFailureBuckets input db
    · refine Or.inr ⟨by simp [hfind, hold, Option.filter, hpicked], ?_⟩
      simpa using expired_of_mem hold hpicked
    · exact Or.inl (by simp [hfind, hold, Option.filter, hpicked])

end HonoWarden
