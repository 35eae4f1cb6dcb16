import HonoWarden.Defense.Bucket
import HonoWarden.Relational.Run

/-!
# How long a block lasts, and how many guesses a lock admits

Sequential calls on one bucket.

A request quota is asked by recording the request first: a hit on a blocked bucket is counted like
any other, and a hit after the window recomputes the block from a count of one. The block runs
from the request that exceeded the quota, the window from its first request, so a window can end
under a block.

The password grant asks before it records, and the scheduled cleanup removes buckets by the time
of their last failure.

Results:
* **`quotaBlocks_hold_iff`**: a block lasts until its end exactly when no request meets a blocked
  bucket whose window is over;
* **`failures_bounded`**: while no failure is recorded on a locked bucket, fewer than twice the
  limit fall into any stretch as long as the failure window, whenever the cleanup runs.
-/

namespace HonoWarden

open Relational Throttle

/-! ## Blocks of a request quota -/

/-- The request is counted against the bucket and the quota of `quota`. -/
def RequestQuotaHitInput.OnQuota (quota hit : RequestQuotaHitInput) : Prop :=
  hit.bucketKey = quota.bucketKey ∧ hit.limit = quota.limit ∧
    hit.windowSeconds = quota.windowSeconds ∧ hit.blockSeconds = quota.blockSeconds

instance (quota hit : RequestQuotaHitInput) : Decidable (quota.OnQuota hit) :=
  inferInstanceAs (Decidable (_ ∧ _))

/-- What the requests return, one after the other. -/
def recordRequestQuotaHits :
    DefenseDb → List RequestQuotaHitInput → List (Timestamp × Except Failure RequestQuotaBucket)
  | _, [] => []
  | db, hit :: hits =>
    (hit.now, (recordRequestQuotaHit hit db).2) ::
      recordRequestQuotaHits (recordRequestQuotaHit hit db).1 hits

/-- The block an earlier request returned holds at a later one. -/
def BlockHolds (earlier later : Timestamp × Except Failure RequestQuotaBucket) : Prop :=
  ∀ bucket ∈ earlier.2.toOption, ∀ b ∈ bucket.blockedUntil, later.1 < b →
    ∃ bucket' ∈ later.2.toOption, IsRequestQuotaExceeded bucket' later.1

instance : DecidableRel BlockHolds := fun _ _ => inferInstanceAs (Decidable (∀ _ ∈ _, _))

/-- No request meets a blocked bucket whose window is over, unless the quota admits none. -/
def NoBlockOutlivesItsWindow : DefenseDb → List RequestQuotaHitInput → Prop
  | _, [] => True
  | db, hit :: hits =>
    (∀ bucket ∈ findRequestQuotaBucket db hit.bucketKey,
      IsRequestQuotaExceeded bucket hit.now →
        hit.now ≤ bucket.windowStartedAt + hit.windowSeconds * 1000 ∨ hit.limit < 1) ∧
      NoBlockOutlivesItsWindow (recordRequestQuotaHit hit db).1 hits

instance NoBlockOutlivesItsWindow.decidable : ∀ (db : DefenseDb) (hits : List RequestQuotaHitInput),
    Decidable (NoBlockOutlivesItsWindow db hits)
  | _, [] => inferInstanceAs (Decidable True)
  | db, hit :: hits =>
    have := NoBlockOutlivesItsWindow.decidable (recordRequestQuotaHit hit db).1 hits
    inferInstanceAs (Decidable (_ ∧ _))

theorem RequestQuotaHitInput.OnQuota.rule_eq {quota hit : RequestQuotaHitInput}
    (h : quota.OnQuota hit) : hit.rule = quota.rule := by
  obtain ⟨-, hlimit, hwindow, hblock⟩ := h
  simp only [rule, hlimit, hwindow, hblock]

/-- The counter behind the bucket of the quota. -/
def quotaCounter (db : DefenseDb) (bucketKey : String) : Option Counter :=
  (findRequestQuotaBucket db bucketKey).map RequestQuotaBucket.counter

variable {quota : RequestQuotaHitInput} {hits : List RequestQuotaHitInput} (db : DefenseDb)

/-- **A request is a hit.** -/
theorem recordRequestQuotaHit_hit {hit : RequestQuotaHitInput} (hsame : quota.OnQuota hit) :
    ∃ bucket, (recordRequestQuotaHit hit db).2 = .ok bucket ∧
      bucket.counter = quota.rule.hit hit.now (quotaCounter db quota.bucketKey) ∧
      quotaCounter (recordRequestQuotaHit hit db).1 quota.bucketKey = some bucket.counter := by
  obtain ⟨db', hcall, hfind⟩ := recordRequestQuotaHit_eq hit db
  have hkey : hit.bucketKey = quota.bucketKey := hsame.1
  refine ⟨_, congrArg Prod.snd hcall, ?_, ?_⟩
  · rw [hit.recorded_counter, hsame.rule_eq, hkey]
    rfl
  · rw [hcall, quotaCounter, hfind, if_pos hkey, hkey]
    rfl

/-- What the requests return is what the hits do to the counter. -/
theorem recordRequestQuotaHits_counters (hsame : ∀ hit ∈ hits, quota.OnQuota hit) :
    ∃ buckets : List RequestQuotaBucket, recordRequestQuotaHits db hits =
        (hits.map RequestQuotaHitInput.now).zip (buckets.map Except.ok) ∧
      buckets.map RequestQuotaBucket.counter =
        quota.rule.hits (quotaCounter db quota.bucketKey) (hits.map RequestQuotaHitInput.now) := by
  induction hits generalizing db with
  | nil => exact ⟨[], rfl, rfl⟩
  | cons hit hits ih =>
    obtain ⟨bucket, hreturned, hcounter, hafter⟩ :=
      recordRequestQuotaHit_hit db (hsame hit List.mem_cons_self)
    obtain ⟨buckets, hresults, hcounters⟩ := ih (recordRequestQuotaHit hit db).1
      fun hit' hmem => hsame hit' (List.mem_cons_of_mem _ hmem)
    refine ⟨bucket :: buckets, ?_, ?_⟩
    · rw [recordRequestQuotaHits, hresults, hreturned]
      rfl
    · rw [List.map_cons, List.map_cons, Rule.hits, hcounters, hafter, hcounter]

theorem noBlockOutlivesItsWindow_iff (hsame : ∀ hit ∈ hits, quota.OnQuota hit) :
    NoBlockOutlivesItsWindow db hits ↔
      quota.rule.Undisturbed (quotaCounter db quota.bucketKey)
        (hits.map RequestQuotaHitInput.now) := by
  induction hits generalizing db with
  | nil => exact Iff.rfl
  | cons hit hits ih =>
    have hhead := hsame hit List.mem_cons_self
    obtain ⟨bucket, -, hcounter, hafter⟩ := recordRequestQuotaHit_hit db hhead
    have hrest := ih (recordRequestQuotaHit hit db).1
      fun hit' hmem => hsame hit' (List.mem_cons_of_mem _ hmem)
    rw [NoBlockOutlivesItsWindow, List.map_cons, Rule.Undisturbed, hrest, hafter, hcounter]
    refine and_congr_left fun _ => ?_
    rw [quotaCounter, hhead.1, hhead.2.1, hhead.2.2.1]
    cases hfind : findRequestQuotaBucket db quota.bucketKey with
    | none => simp
    | some bucket =>
      simp only [Option.map_some, Option.mem_some_iff, forall_eq']
      refine imp_congr Iff.rfl (or_congr Iff.rfl ?_)
      exact Int.add_one_le_iff.symm.trans (by simp [RequestQuotaHitInput.rule])

theorem blockHolds_iff {earlier later : Timestamp} {bucket bucket' : RequestQuotaBucket} :
    BlockHolds (earlier, .ok bucket) (later, .ok bucket') ↔
      Rule.Holds (earlier, bucket.counter) (later, bucket'.counter) := by
  unfold BlockHolds Rule.Holds
  simp only [Except.toOption, Option.mem_some_iff, forall_eq', exists_eq_left']
  rfl

/-- Pairwise along a zip with mapped entries. -/
theorem pairwise_zip_counters : ∀ {times : List Timestamp} {buckets : List RequestQuotaBucket},
    (times.zip (buckets.map Except.ok)).Pairwise BlockHolds ↔
      (times.zip (buckets.map RequestQuotaBucket.counter)).Pairwise Rule.Holds := by
  intro times buckets
  rw [List.zip_map_right, List.zip_map_right, List.pairwise_map, List.pairwise_map]
  exact List.Pairwise.iff fun _ _ => blockHolds_iff

/-- **A block lasts until its end exactly when no request meets a blocked bucket whose window is
over.** -/
theorem quotaBlocks_hold_iff {db : DefenseDb} (hsame : ∀ hit ∈ hits, quota.OnQuota hit)
    (htimes : (hits.map RequestQuotaHitInput.now).Pairwise (· ≤ ·))
    (hdb : findRequestQuotaBucket db quota.bucketKey = none) :
    (recordRequestQuotaHits db hits).Pairwise BlockHolds ↔ NoBlockOutlivesItsWindow db hits := by
  obtain ⟨buckets, hresults, hcounters⟩ := recordRequestQuotaHits_counters db hsame
  have hnone : quotaCounter db quota.bucketKey = none := by rw [quotaCounter, hdb]; rfl
  rw [hresults, pairwise_zip_counters, hcounters, noBlockOutlivesItsWindow_iff db hsame, hnone,
    Rule.undisturbed_iff htimes]

/-- The requests of an account for a verification code. -/
def challengeHit (now : Timestamp) : RequestQuotaHitInput where
  bucketKey := "request:authenticated:challenge"
  scope := .authenticated
  limit := 5
  windowSeconds := 60
  blockSeconds := 60
  now := now

/-- A block met in its window, and after it ended. -/
theorem quotaBlocks_hold_challenge :
    (recordRequestQuotaHits {} ([0, 10, 20, 30, 40, 50000, 60000, 120000].map challengeHit)).Pairwise
      BlockHolds :=
  (quotaBlocks_hold_iff
    (by decide : ∀ hit ∈ [0, 10, 20, 30, 40, 50000, 60000, 120000].map challengeHit,
      (challengeHit 0).OnQuota hit) (by decide) rfl).mpr (by decide +kernel)

/-- **A request after the window lifts the block that the sixth request brought.** -/
theorem quotaBlock_lifted :
    ¬ (recordRequestQuotaHits {} ([0, 10, 20, 30, 40, 50000, 60001].map challengeHit)).Pairwise
      BlockHolds := by
  decide +kernel

/-! ## Failures on a bucket that is spared while locked -/

/-- A recorded failure, or a cleanup. -/
inductive FailureStep where
  | fail (now : Timestamp)
  | cleanup (now : Timestamp)
  deriving DecidableEq, Repr

structure FailureState where
  db : DefenseDb := {}
  clock : Timestamp := 0
  deriving DecidableEq

namespace LoginDefensePolicy

variable (policy : LoginDefensePolicy) (kind : BucketKind) (bucketKey : String)

/-- One call on the bucket. A cleanup may have read its clock before the latest failure. -/
def execFailure : FailureStep → FailureState → FailureState
  | .fail now, s =>
    { db := (recordFailedAuthBucket (policy.failure kind bucketKey now) s.db).1, clock := now }
  | .cleanup now, s =>
    { db := (cleanupExpiredAuthFailureBuckets (policy.cleanupInput now) s.db).1
      clock := max s.clock now }

/-- Failures come in order, and only on a bucket that is not locked. -/
def SparesLocked (s : FailureState) : FailureStep → Prop
  | .fail now => s.clock ≤ now ∧
    ∀ b ∈ findAuthFailureBucket s.db bucketKey, ¬ IsAccountLocked b.lockedUntil now
  | .cleanup _ => True

instance (s : FailureState) : DecidablePred (SparesLocked bucketKey s)
  | .fail _ => inferInstanceAs (Decidable (_ ∧ _))
  | .cleanup _ => inferInstanceAs (Decidable True)

def failures : System FailureState FailureStep String :=
  .ofFunction (policy.execFailure kind bucketKey) fun _ => []

end LoginDefensePolicy

/-- When the failures were recorded, the last one first. -/
def failureTimes (ls : List FailureStep) : List Timestamp :=
  (ls.filterMap fun | .fail now => some now | .cleanup _ => none).reverse

/-- The failure rule of a bucket. -/
def LoginDefensePolicy.rule (policy : LoginDefensePolicy) (kind : BucketKind) : Rule :=
  (policy.failure kind "" 0).rule

theorem LoginDefensePolicy.window_le_retention (policy : LoginDefensePolicy) (kind : BucketKind) :
    (policy.rule kind).window ≤ policy.authDefenseCleanupWindowSeconds * 1000 := by
  unfold authDefenseCleanupWindowSeconds
  cases kind <;> simp only [rule, failure, FailedAuthBucketInput.rule] <;> omega

theorem LoginDefensePolicy.failure_rule (policy : LoginDefensePolicy) (kind : BucketKind)
    (bucketKey : String) (now : Timestamp) :
    (policy.failure kind bucketKey now).rule = policy.rule kind := by
  cases kind <;> rfl

theorem LoginDefensePolicy.failure_bucketKey (policy : LoginDefensePolicy) (kind : BucketKind)
    (bucketKey : String) (now : Timestamp) :
    (policy.failure kind bucketKey now).bucketKey = bucketKey := by
  cases kind <;> rfl

theorem LoginDefensePolicy.failure_now (policy : LoginDefensePolicy) (kind : BucketKind)
    (bucketKey : String) (now : Timestamp) :
    (policy.failure kind bucketKey now).now = now := by
  cases kind <;> rfl

section Bounded

variable (policy : LoginDefensePolicy) (kind : BucketKind) (bucketKey : String)
  {s : FailureState} {now : Timestamp}

/-- The counter behind the failure bucket. -/
def failureCounter (db : DefenseDb) (bucketKey : String) : Option Counter :=
  (findAuthFailureBucket db bucketKey).map AuthFailureBucket.counter

/-- A recorded failure is a hit. -/
theorem failureCounter_fail :
    failureCounter (policy.execFailure kind bucketKey (.fail now) s).db bucketKey =
      some ((policy.rule kind).hit now (failureCounter s.db bucketKey)) := by
  obtain ⟨db', hcall, hfind⟩ := recordFailedAuthBucket_eq (policy.failure kind bucketKey now) s.db
  rw [failureCounter, LoginDefensePolicy.execFailure, hcall, hfind,
    if_pos (policy.failure_bucketKey kind bucketKey now), Option.map_some,
    FailedAuthBucketInput.recorded_counter, policy.failure_rule, policy.failure_now]
  rfl

/-- A cleanup keeps the counter, or forgets one last hit before the retention. -/
theorem failureCounter_cleanup :
    failureCounter (policy.execFailure kind bucketKey (.cleanup now) s).db bucketKey =
        failureCounter s.db bucketKey ∨
      failureCounter (policy.execFailure kind bucketKey (.cleanup now) s).db bucketKey = none ∧
        ∀ c ∈ failureCounter s.db bucketKey, c.updatedAt + (policy.rule kind).window < now := by
  obtain ⟨db', n, hcall, hfind⟩ := cleanupExpiredAuthFailureBuckets_eq (policy.cleanupInput now) s.db
  have hretention := policy.window_le_retention kind
  simp only [failureCounter, LoginDefensePolicy.execFailure, hcall]
  rcases hfind bucketKey with hkept | ⟨hgone, hexpired⟩
  · exact Or.inl (by rw [hkept])
  · refine Or.inr ⟨by rw [hgone]; rfl, ?_⟩
    rintro c hc
    obtain ⟨b, hb, rfl⟩ := Option.mem_map.mp hc
    have hold : b.updatedAt < now - policy.authDefenseCleanupWindowSeconds * 1000 :=
      (hexpired b hb).1
    exact lt_of_le_of_lt (Nat.add_le_add_left hretention _) (Nat.add_lt_of_lt_sub hold)

/-- **One call keeps the bound.** -/
theorem bounded_exec {l : FailureStep} {ls : List FailureStep}
    (hlock : (policy.rule kind).window ≤ (policy.rule kind).lock)
    (hlimit : 1 ≤ (policy.rule kind).limit)
    (h : (policy.rule kind).Bounded (failureCounter s.db bucketKey) (failureTimes ls) s.clock)
    (hspares : LoginDefensePolicy.SparesLocked bucketKey s l) :
    (policy.rule kind).Bounded
      (failureCounter (policy.execFailure kind bucketKey l s).db bucketKey)
      (failureTimes (ls ++ [l])) (policy.execFailure kind bucketKey l s).clock := by
  cases l with
  | fail now =>
    have htimes : failureTimes (ls ++ [.fail now]) = now :: failureTimes ls := by
      simp [failureTimes]
    rw [failureCounter_fail policy kind, htimes]
    refine h.hit hspares.1 hlimit hlock ?_
    rintro c hc
    obtain ⟨b, hb, rfl⟩ := Option.mem_map.mp hc
    exact hspares.2 b hb
  | cleanup now =>
    have htimes : failureTimes (ls ++ [.cleanup now]) = failureTimes ls := by
      simp [failureTimes]
    have hclock : s.clock ≤ max s.clock now := le_max_left _ _
    rw [htimes]
    rcases failureCounter_cleanup policy kind bucketKey with hkept | ⟨hgone, hold⟩
    · rw [hkept]
      exact h.pass hclock
    · rw [hgone]
      exact h.forget hclock fun c hc => lt_of_lt_of_le (hold c hc) (le_max_right _ _)

/-- **Brute-force bound.** However failures on a bucket and cleanups follow each other, while a
locked bucket is spared, fewer than twice the limit of failures fall into any stretch as long as
the failure window. -/
theorem failures_bounded {db : DefenseDb} {ls : List FailureStep}
    {c : Config FailureState String} (hdb : findAuthFailureBucket db bucketKey = none)
    (hlock : (policy.rule kind).window ≤ (policy.rule kind).lock)
    (hlimit : 1 ≤ (policy.rule kind).limit)
    (hrun : Run ((policy.failures kind bucketKey).restrict
      (LoginDefensePolicy.SparesLocked bucketKey)) { state := { db } } ls c) (a : Timestamp) :
    ((failureTimes ls).countP fun t => a ≤ t ∧ t < a + (policy.rule kind).window : Int) ≤
      2 * (policy.rule kind).limit - 1 := by
  have hbounded := hrun.invariant_trace
    (I := fun ls c => (policy.rule kind).Bounded (failureCounter c.state.db bucketKey)
      (failureTimes ls) c.state.clock)
    (by
      rw [failureCounter, hdb]
      exact Rule.Bounded.nil hlimit 0)
    (by
      intro ls c l c' hnext h
      obtain ⟨hnext, hspares⟩ := hnext.unrestrict
      rw [hnext.step]
      exact bounded_exec policy kind bucketKey hlock hlimit h hspares)
  exact hbounded.countP_le a

end Bounded

/-- Failures of one account, with a cleanup in between. -/
def guesses : List FailureStep :=
  [.fail 0, .fail 600000, .cleanup 600000, .fail 700000, .fail 800000, .fail 900000,
    .cleanup 1900000, .fail 2000000]

def guessesEnd : Config FailureState String :=
  (replay (loginDefensePolicy.execFailure .account "account:a") (fun _ => []) { state := {} }
    guesses).get (by decide +kernel)

theorem failures_bounded_guesses :
    ((failureTimes guesses).countP fun t =>
      600000 ≤ t ∧ t < 600000 + (loginDefensePolicy.rule .account).window : Int) ≤
      2 * (loginDefensePolicy.rule .account).limit - 1 :=
  have hrun : Run ((loginDefensePolicy.failures .account "account:a").restrict
      (LoginDefensePolicy.SparesLocked "account:a")) { state := {} } guesses guessesEnd :=
    replay_restrict (Option.some_get _).symm (by decide +kernel)
  failures_bounded loginDefensePolicy .account "account:a" rfl (by decide) (by decide) hrun 600000

end HonoWarden
