import HonoWarden.Defense.Locks

/-!
# Locks under concurrent password grants

Model of the lock checks and the failure recording of the password grant in `src/app.ts`.

An attempt reads its clock once, in whole seconds, and keeps that instant to its end. Each of its
calls on the buckets is a statement of its own, so other attempts run in between: one that passed
the lock checks may record its failure when the bucket is already locked.

Results:
* **`lock_lasts`**: a lock lasts until its end, short of a login, while every failure recorded on
  a locked bucket falls into the bucket's window and would lock it no shorter;
* `lock_lifted`: an attempt that checked before the lock and read its clock after the window
  lifts the lock when it records its failure.

The password, the user row and the second factor only decide what an attempt does next, and stand
in the model as that decision. `auth_attempts` and the lock kept on the user row are not modelled.
-/

namespace HonoWarden

open Relational Throttle

def BucketKind.text : BucketKind → String
  | .account => "account"
  | .ip => "ip"

/-- `digest` is the base64url text of SHA-256. -/
def buildAuthAttemptBucketKey (digest : String → String) (kind : BucketKind) (value : String) :
    String :=
  kind.text ++ ":" ++ digest value

/-- Where an attempt stands: its next call. -/
inductive GrantStage where
  | cleanup
  | findIp
  | findAccount (ipLockedUntil : Option Timestamp)
  | verify
  | recordIp (accountBucket : Bool)
  | recordAccount
  | resetAccount
  | done
  deriving DecidableEq, Repr

structure GrantAttempt where
  id : String
  now : Timestamp
  stage : GrantStage := .cleanup
  deriving DecidableEq, Repr

/-- How verification ends: a failure, a lock found on the user row, a login, or an answer that
records nothing. -/
inductive GrantVerdict where
  | failed
  | userLocked
  | verified
  | abandoned
  deriving DecidableEq, Repr

/-- What all attempts on one account and one address share. -/
structure GrantTarget where
  policy : LoginDefensePolicy
  digest : String → String
  address : String
  usernameNormalized : String

namespace GrantTarget

variable (target : GrantTarget)

def bucketKey : BucketKind → String
  | .ip => buildAuthAttemptBucketKey target.digest .ip target.address
  | .account => buildAuthAttemptBucketKey target.digest .account target.usernameNormalized

/-- A failure of the attempt on one of its buckets. -/
def record (kind : BucketKind) (now : Timestamp) (db : DefenseDb) : DefenseDb :=
  (recordFailedAuthBucket (target.policy.failure kind (target.bucketKey kind) now) db).1

/-- The next call of the attempt. -/
def next (a : GrantAttempt) (verdict : GrantVerdict) (db : DefenseDb) : DefenseDb × GrantStage :=
  match a.stage with
  | .cleanup =>
    ((cleanupExpiredAuthFailureBuckets (target.policy.cleanupInput a.now) db).1, .findIp)
  | .findIp =>
    (db, .findAccount
      ((findAuthFailureBucket db (target.bucketKey .ip)).bind AuthFailureBucket.lockedUntil))
  | .findAccount ipLockedUntil =>
    if IsAccountLocked ipLockedUntil a.now then (db, .done)
    else if IsAccountLocked ((findAuthFailureBucket db (target.bucketKey .account)).bind
        AuthFailureBucket.lockedUntil) a.now then (db, .recordIp false)
    else (db, .verify)
  | .verify =>
    match verdict with
    | .failed => (db, .recordIp true)
    | .userLocked => (db, .recordIp false)
    | .verified => (db, .resetAccount)
    | .abandoned => (db, .done)
  | .recordIp accountBucket =>
    (target.record .ip a.now db, if accountBucket then .recordAccount else .done)
  | .recordAccount => (target.record .account a.now db, .done)
  | .resetAccount => ((resetAuthFailureBucket (target.bucketKey .account) db).1, .done)
  | .done => (db, .done)

end GrantTarget

/-- The buckets, the clock in milliseconds, and the attempts so far. -/
structure GrantState where
  db : DefenseDb := {}
  clock : Timestamp := 0
  attempts : List GrantAttempt := []
  deriving DecidableEq

/-- Time passes, an attempt arrives, or one makes its next call. -/
inductive GrantStep where
  | pass (elapsed : Nat)
  | arrive (id : String)
  | run (id : String) (verdict : GrantVerdict)
  deriving DecidableEq, Repr

def GrantStep.draws : GrantStep → List String
  | .arrive id => [id]
  | _ => []

/-- The attempt a step runs. -/
def GrantStep.attempt? (s : GrantState) : GrantStep → Option GrantAttempt
  | .run id _ => s.attempts.find? fun a => a.id = id
  | _ => none

def GrantTarget.exec (target : GrantTarget) : GrantStep → GrantState → GrantState
  | .pass elapsed, s => { s with clock := s.clock + elapsed }
  | .arrive id, s =>
    { s with attempts := s.attempts ++ [{ id, now := s.clock / 1000 * 1000 }] }
  | .run id verdict, s =>
    match s.attempts.find? fun a => a.id = id with
    | none => s
    | some a =>
      { s with
        db := (target.next a verdict s.db).1
        attempts := s.attempts.map fun b =>
          if b.id = id then { b with stage := (target.next a verdict s.db).2 } else b }

def GrantTarget.grants (target : GrantTarget) : System GrantState GrantStep String :=
  .ofFunction target.exec GrantStep.draws

/-! ## Locks -/

/-- The bucket is locked at `t`. -/
def GrantState.Locked (s : GrantState) (bucketKey : String) (t : Timestamp) : Prop :=
  ∃ b ∈ findAuthFailureBucket s.db bucketKey, IsAccountLocked b.lockedUntil t

instance (s : GrantState) (bucketKey : String) (t : Timestamp) :
    Decidable (s.Locked bucketKey t) :=
  inferInstanceAs (Decidable (∃ b ∈ findAuthFailureBucket s.db bucketKey, _))

/-- The step is a login that resets the bucket of `kind`. -/
def GrantStep.Resets (kind : BucketKind) (s : GrantState) (l : GrantStep) : Prop :=
  kind = .account ∧ ∃ a ∈ l.attempt? s, a.stage = .resetAccount

instance (kind : BucketKind) (s : GrantState) (l : GrantStep) : Decidable (l.Resets kind s) :=
  inferInstanceAs (Decidable (_ ∧ ∃ a ∈ l.attempt? s, _))

/-- The bucket on which the stage records a failure. -/
def GrantStage.records : GrantStage → Option BucketKind
  | .recordIp _ => some .ip
  | .recordAccount => some .account
  | _ => none

/-- A failure recorded on a bucket that is still locked falls into its window, or one failure
locks, and the lockout from the attempt's instant reaches the end of the lock. -/
def GrantTarget.KeepsLocks (target : GrantTarget) (s : GrantState) (l : GrantStep) : Prop :=
  ∀ a ∈ l.attempt? s, ∀ kind ∈ a.stage.records,
    ∀ b ∈ findAuthFailureBucket s.db (target.bucketKey kind), ∀ u ∈ b.lockedUntil, s.clock < u →
      (target.policy.rule kind).Keeps a.now b.counter ∧
        u ≤ a.now + (target.policy.rule kind).lock

instance (target : GrantTarget) (s : GrantState) (l : GrantStep) :
    Decidable (target.KeepsLocks s l) :=
  inferInstanceAs (Decidable (∀ a ∈ l.attempt? s, ∀ kind ∈ a.stage.records,
    ∀ b ∈ findAuthFailureBucket s.db (target.bucketKey kind), ∀ u ∈ b.lockedUntil, _))

section Locks

variable (target : GrantTarget)

theorem GrantTarget.bucketKey_injective : ∀ {kind kind' : BucketKind},
    target.bucketKey kind = target.bucketKey kind' → kind = kind' := by
  have hhead : ∀ kind, (target.bucketKey kind).toList.head? = kind.text.toList.head? := by
    intro kind
    cases kind <;> simp [bucketKey, buildAuthAttemptBucketKey, BucketKind.text]
  intro kind kind' h
  have htext : kind.text.toList.head? = kind'.text.toList.head? := by rw [← hhead, ← hhead, h]
  cases kind <;> cases kind' <;> first | rfl | (exfalso; revert htext; decide)

/-- The counter of a bucket after a failure recorded on it. -/
theorem GrantTarget.record_self (kind : BucketKind) (now : Timestamp) (db : DefenseDb) :
    ∃ b, findAuthFailureBucket (target.record kind now db) (target.bucketKey kind) = some b ∧
      b.counter = (target.policy.rule kind).hit now
        ((findAuthFailureBucket db (target.bucketKey kind)).map AuthFailureBucket.counter) := by
  obtain ⟨db', hcall, hfind⟩ := recordFailedAuthBucket_eq
    (target.policy.failure kind (target.bucketKey kind) now) db
  refine ⟨(target.policy.failure kind (target.bucketKey kind) now).recorded
    (findAuthFailureBucket db (target.bucketKey kind)), ?_, ?_⟩
  · rw [record, hcall, hfind, if_pos (target.policy.failure_bucketKey _ _ _)]
  · rw [FailedAuthBucketInput.recorded_counter, target.policy.failure_rule,
      target.policy.failure_now]

/-- A failure recorded on the other bucket changes nothing here. -/
theorem GrantTarget.record_other {kind kind' : BucketKind} (hne : kind' ≠ kind) (now : Timestamp)
    (db : DefenseDb) :
    findAuthFailureBucket (target.record kind' now db) (target.bucketKey kind) =
      findAuthFailureBucket db (target.bucketKey kind) := by
  obtain ⟨db', hcall, hfind⟩ := recordFailedAuthBucket_eq
    (target.policy.failure kind' (target.bucketKey kind') now) db
  rw [record, hcall, hfind, target.policy.failure_bucketKey]
  exact if_neg fun h => hne (target.bucketKey_injective h)

/-- What one call of an attempt does to a bucket. -/
inductive GrantTarget.Effect (target : GrantTarget) (kind : BucketKind) (a : GrantAttempt)
    (old? : Option AuthFailureBucket) : Option AuthFailureBucket → Prop where
  | kept : Effect target kind a old? old?
  | expired (h : ∀ b ∈ old?, (target.policy.cleanupInput a.now).Expired b) :
      Effect target kind a old? none
  | recorded (b : AuthFailureBucket) (hstage : kind ∈ a.stage.records)
      (h : b.counter =
        (target.policy.rule kind).hit a.now (old?.map AuthFailureBucket.counter)) :
      Effect target kind a old? (some b)
  | reset (hkind : kind = .account) (hstage : a.stage = .resetAccount) :
      Effect target kind a old? none

/-- **One call of an attempt.** -/
theorem GrantTarget.next_effect (kind : BucketKind) (a : GrantAttempt) (verdict : GrantVerdict)
    (db : DefenseDb) :
    target.Effect kind a (findAuthFailureBucket db (target.bucketKey kind))
      (findAuthFailureBucket (target.next a verdict db).1 (target.bucketKey kind)) := by
  have hrecord : ∀ kind', kind' ∈ a.stage.records →
      target.Effect kind a (findAuthFailureBucket db (target.bucketKey kind))
        (findAuthFailureBucket (target.record kind' a.now db) (target.bucketKey kind)) := by
    intro kind' hstage
    by_cases hsame : kind' = kind
    · subst hsame
      obtain ⟨b, hb, hcounter⟩ := target.record_self kind' a.now db
      rw [hb]
      exact .recorded b hstage hcounter
    · rw [target.record_other hsame]
      exact .kept
  cases hstage : a.stage with
  | cleanup =>
    simp only [next, hstage]
    obtain ⟨db', n, hcall, hfind⟩ :=
      cleanupExpiredAuthFailureBuckets_eq (target.policy.cleanupInput a.now) db
    rw [hcall]
    rcases hfind (target.bucketKey kind) with hkept | ⟨hgone, hexpired⟩
    · dsimp only
      rw [hkept]
      exact .kept
    · dsimp only
      rw [hgone]
      exact .expired hexpired
  | findIp =>
    simp only [next, hstage]
    exact .kept
  | findAccount ipLockedUntil =>
    simp only [next, hstage]
    split
    · exact .kept
    · split <;> exact .kept
  | verify =>
    simp only [next, hstage]
    cases verdict <;> exact .kept
  | recordIp accountBucket =>
    simp only [next, hstage]
    exact hrecord .ip (by rw [hstage]; rfl)
  | recordAccount =>
    simp only [next, hstage]
    exact hrecord .account (by rw [hstage]; rfl)
  | resetAccount =>
    simp only [next, hstage]
    obtain ⟨db', hcall, hfind⟩ := resetAuthFailureBucket_eq (target.bucketKey .account) db
    rw [hcall]
    dsimp only
    rw [hfind]
    by_cases hkind : kind = .account
    · subst hkind
      rw [if_pos rfl]
      exact .reset rfl hstage
    · rw [if_neg fun h => hkind (target.bucketKey_injective h).symm]
      exact .kept
  | done =>
    simp only [next, hstage]
    exact .kept

end Locks

section Runs

variable {target : GrantTarget}

/-- What every reachable state keeps: no attempt is ahead of the clock, and the lock of a bucket
is what its count brought at the last failure. -/
structure GrantState.Ordered (target : GrantTarget) (s : GrantState) : Prop where
  past : ∀ a ∈ s.attempts, a.now ≤ s.clock
  coherent : ∀ kind, ∀ b ∈ findAuthFailureBucket s.db (target.bucketKey kind),
    (target.policy.rule kind).Coherent b.counter

theorem mem_of_attempt? {s : GrantState} {l : GrantStep} {a : GrantAttempt}
    (h : a ∈ l.attempt? s) : a ∈ s.attempts := by
  cases l with
  | run id verdict => exact List.mem_of_find?_eq_some h
  | pass elapsed => cases h
  | arrive id => cases h

theorem exec_run_none {s : GrantState} {id : String} {verdict : GrantVerdict}
    (h : s.attempts.find? (fun a => a.id = id) = none) :
    target.exec (.run id verdict) s = s := by
  simp only [GrantTarget.exec, h]

theorem exec_run_some {s : GrantState} {id : String} {verdict : GrantVerdict} {a : GrantAttempt}
    (h : s.attempts.find? (fun a => a.id = id) = some a) :
    target.exec (.run id verdict) s =
      { s with
        db := (target.next a verdict s.db).1
        attempts := s.attempts.map fun b =>
          if b.id = id then { b with stage := (target.next a verdict s.db).2 } else b } := by
  simp only [GrantTarget.exec, h]

/-- A step runs one call of an attempt, or leaves the buckets alone and the clock does not go
back. -/
theorem exec_cases (target : GrantTarget) (s : GrantState) (l : GrantStep) :
    ((target.exec l s).db = s.db ∧ s.clock ≤ (target.exec l s).clock) ∨
    ∃ id verdict, l = .run id verdict ∧ ∃ a ∈ l.attempt? s,
      (target.exec l s).db = (target.next a verdict s.db).1 ∧
      (target.exec l s).clock = s.clock := by
  cases l with
  | pass elapsed => exact Or.inl ⟨rfl, Nat.le_add_right _ _⟩
  | arrive id => exact Or.inl ⟨rfl, le_rfl⟩
  | run id verdict =>
    cases hfind : s.attempts.find? fun a => a.id = id with
    | none =>
      rw [exec_run_none hfind]
      exact Or.inl ⟨rfl, le_rfl⟩
    | some a =>
      rw [exec_run_some hfind]
      exact Or.inr ⟨id, verdict, rfl, a, hfind, rfl, rfl⟩

theorem exec_clock (s : GrantState) (l : GrantStep) : s.clock ≤ (target.exec l s).clock := by
  rcases exec_cases target s l with ⟨-, hclock⟩ | ⟨id, verdict, -, a, -, -, hclock⟩
  · exact hclock
  · exact hclock.ge

theorem exec_past {s : GrantState} {l : GrantStep} (h : ∀ a ∈ s.attempts, a.now ≤ s.clock) :
    ∀ a ∈ (target.exec l s).attempts, a.now ≤ (target.exec l s).clock := by
  cases l with
  | pass elapsed => exact fun a ha => (h a ha).trans (Nat.le_add_right _ _)
  | arrive id =>
    intro a ha
    rcases List.mem_append.mp ha with ha | ha
    · exact h a ha
    · obtain rfl := List.mem_singleton.mp ha
      exact Nat.div_mul_le_self _ _
  | run id verdict =>
    cases hfind : s.attempts.find? fun a => a.id = id with
    | none => rwa [exec_run_none hfind]
    | some a =>
      rw [exec_run_some hfind]
      intro b hb
      obtain ⟨b', hb', rfl⟩ := List.mem_map.mp hb
      dsimp only
      split
      · exact h b' hb'
      · exact h b' hb'

theorem exec_ordered {s : GrantState} {l : GrantStep} (h : s.Ordered target) :
    (target.exec l s).Ordered target where
  past := exec_past h.past
  coherent := by
    intro kind
    rcases exec_cases target s l with ⟨hdb, -⟩ | ⟨id, verdict, -, a, -, hdb, -⟩
    · rw [hdb]
      exact h.coherent kind
    · rw [hdb]
      intro b hb
      generalize hafter : findAuthFailureBucket (target.next a verdict s.db).1
        (target.bucketKey kind) = after at hb
      have heffect := target.next_effect kind a verdict s.db
      rw [hafter] at heffect
      cases heffect with
      | kept => exact h.coherent kind b hb
      | expired _ => cases hb
      | recorded b' _ hcounter =>
        obtain rfl := Option.mem_some_iff.mp hb
        rw [hcounter]
        exact Rule.hit_coherent _ _ _
      | reset _ _ => cases hb

/-- The bucket is locked until `lockedUntil` or longer. -/
def GrantState.LockedThrough (s : GrantState) (bucketKey : String) (lockedUntil : Timestamp) :
    Prop :=
  ∃ b ∈ findAuthFailureBucket s.db bucketKey, ∃ u ∈ b.lockedUntil, lockedUntil ≤ u

/-- **One step keeps a lock that has not ended.** -/
theorem exec_lockedThrough {s : GrantState} {l : GrantStep} {kind : BucketKind}
    {lockedUntil : Timestamp} (hordered : s.Ordered target) (hkeeps : target.KeepsLocks s l)
    (hreset : ¬ l.Resets kind s) (hclock : s.clock < lockedUntil)
    (h : s.LockedThrough (target.bucketKey kind) lockedUntil) :
    (target.exec l s).LockedThrough (target.bucketKey kind) lockedUntil := by
  rcases exec_cases target s l with ⟨hdb, -⟩ | ⟨id, verdict, -, a, ha, hdb, -⟩
  · unfold GrantState.LockedThrough
    rw [hdb]
    exact h
  · unfold GrantState.LockedThrough
    rw [hdb]
    obtain ⟨b, hb, u, hu, hle⟩ := h
    have hlater : s.clock < u := lt_of_lt_of_le hclock hle
    generalize hafter : findAuthFailureBucket (target.next a verdict s.db).1
      (target.bucketKey kind) = after
    have heffect := target.next_effect kind a verdict s.db
    rw [hafter] at heffect
    cases heffect with
    | kept => exact ⟨b, hb, u, hu, hle⟩
    | expired hexpired =>
      have hended : u < a.now := (hexpired b hb).2 u hu
      exact absurd (hended.trans_le (hordered.past a (mem_of_attempt? ha))) hlater.le.not_gt
    | recorded b' hstage hcounter =>
      obtain ⟨hkeep, hreach⟩ := hkeeps a ha kind hstage b hb u hu hlater
      rw [show findAuthFailureBucket s.db (target.bucketKey kind) = some b from hb] at hcounter
      have hlocked := hkeep.hit_lockedUntil (hordered.coherent kind b hb) hu
      rw [← Option.map_some, ← hcounter] at hlocked
      exact ⟨b', rfl, _, hlocked, hle.trans hreach⟩
    | reset hkind hstage => exact absurd ⟨hkind, a, ha, hstage⟩ hreset

end Runs

section Runs

variable {target : GrantTarget} {kind : BucketKind} {c c₁ c₂ : Config GrantState String}
  {ls₁ ls₂ : List GrantStep} {lockedUntil : Timestamp}

/-- Before the first attempt: neither bucket exists. -/
structure GrantState.Fresh (target : GrantTarget) (s : GrantState) : Prop where
  attempts : s.attempts = []
  absent : ∀ kind, findAuthFailureBucket s.db (target.bucketKey kind) = none

theorem GrantState.Fresh.ordered {s : GrantState} (h : s.Fresh target) : s.Ordered target where
  past a ha := by
    rw [h.attempts] at ha
    cases ha
  coherent kind b hb := by
    rw [h.absent] at hb
    cases hb

/-- **A lock lasts until its end.** In every run of password grants on one account and address in
which each failure recorded on a locked bucket falls into its window and would lock it no shorter,
a bucket once locked until `lockedUntil` is locked at every time before that, until a login resets
it. -/
theorem lock_lasts (hfresh : c.state.Fresh target)
    (hbefore : Run (target.grants.restrict target.KeepsLocks) c ls₁ c₁)
    (hlocked : ∃ b ∈ findAuthFailureBucket c₁.state.db (target.bucketKey kind),
      b.lockedUntil = some lockedUntil)
    (hafter : Run ((target.grants.restrict target.KeepsLocks).restrict
      fun s l => ¬ l.Resets kind s) c₁ ls₂ c₂)
    (hclock : c₂.state.clock < lockedUntil) :
    c₂.state.Locked (target.bucketKey kind) c₂.state.clock := by
  have hordered : c₁.state.Ordered target :=
    hbefore.invariant (I := fun c => c.state.Ordered target) hfresh.ordered fun hnext h => by
      rw [hnext.unrestrict.1.step]
      exact exec_ordered h
  have hstart : c₁.state.LockedThrough (target.bucketKey kind) lockedUntil := by
    obtain ⟨b, hb, hu⟩ := hlocked
    exact ⟨b, hb, lockedUntil, hu, le_rfl⟩
  have hend := hafter.invariant
    (I := fun c => c.state.Ordered target ∧ (c.state.clock < lockedUntil →
      c.state.LockedThrough (target.bucketKey kind) lockedUntil))
    ⟨hordered, fun _ => hstart⟩ fun {c l c'} hnext h => by
      obtain ⟨hkept, hreset⟩ := hnext.unrestrict
      obtain ⟨hstep, hkeeps⟩ := hkept.unrestrict
      rw [hstep.step]
      refine ⟨exec_ordered h.1, fun hlt => ?_⟩
      have hnow : c.state.clock < lockedUntil := lt_of_le_of_lt (exec_clock c.state l) hlt
      exact exec_lockedThrough h.1 hkeeps hreset hnow (h.2 hnow)
  obtain ⟨b, hb, u, hu, hle⟩ := hend.2 hclock
  exact ⟨b, hb, u, hu, lt_of_lt_of_le hclock hle⟩

end Runs

/-- Guesses at one account from one address. -/
def guessing : GrantTarget where
  policy := loginDefensePolicy
  digest := id
  address := "h"
  usernameNormalized := "u"

/-- An attempt arrives, and makes its calls up to the verdict. -/
def guess (id : String) : List GrantStep := .arrive id :: List.replicate 4 (.run id .failed)

/-- It records its failure on both buckets. -/
def recordGuess (id : String) : List GrantStep := List.replicate 2 (.run id .failed)

/-- Four failures, and a fifth that locks the account. -/
def fiveGuesses : List GrantStep :=
  (["a1", "a2", "a3", "a4", "a5"].map fun id => guess id ++ recordGuess id).flatten

/-- A sixth attempt that was already verifying, and one that meets the lock. -/
def lateGuesses : List GrantStep :=
  .pass 1000 :: guess "a7" ++ [.run "a6" .failed, .run "a6" .failed, .pass 500000]

def fiveGuessesEnd : Config GrantState String :=
  (replay guessing.exec GrantStep.draws { state := {} } (guess "a6" ++ fiveGuesses)).get
    (by decide +kernel)

def lateGuessesEnd : Config GrantState String :=
  (replay guessing.exec GrantStep.draws fiveGuessesEnd lateGuesses).get (by decide +kernel)

theorem lock_lasts_guessing :
    lateGuessesEnd.state.Locked (guessing.bucketKey .account) lateGuessesEnd.state.clock := by
  have hbefore : Run (guessing.grants.restrict guessing.KeepsLocks) { state := {} }
      (guess "a6" ++ fiveGuesses) fiveGuessesEnd :=
    replay_restrict (Option.some_get _).symm (by decide +kernel)
  have hafter : Run ((guessing.grants.restrict guessing.KeepsLocks).restrict
      fun s l => ¬ l.Resets .account s) fiveGuessesEnd lateGuesses lateGuessesEnd :=
    Run.restrict_and (replay_restrict (Option.some_get _).symm (by decide +kernel))
  have hlocked : ∃ b ∈ findAuthFailureBucket fiveGuessesEnd.state.db (guessing.bucketKey .account),
      b.lockedUntil = some 900000 := by decide +kernel
  have hfresh : GrantState.Fresh guessing {} := ⟨rfl, fun kind => rfl⟩
  exact lock_lasts hfresh hbefore hlocked hafter (by decide +kernel)

/-- Four failures, the last one later; around the end of the window two more attempts pass the
lock checks, the second after the window, and the first of them locks the account. -/
def lockRace : List GrantStep :=
  (["a1", "a2", "a3"].map fun id => guess id ++ recordGuess id).flatten ++
    .pass 500000 :: guess "a4" ++ recordGuess "a4" ++
    .pass 400000 :: guess "a5" ++ .pass 1000 :: guess "a6" ++ recordGuess "a5"

def lockRaceLocked : Config GrantState String :=
  (replay guessing.exec GrantStep.draws { state := {} } lockRace).get (by decide +kernel)

def lockRaceEnd : Config GrantState String :=
  (replay guessing.exec GrantStep.draws lockRaceLocked (recordGuess "a6")).get (by decide +kernel)

/-- **A failure recorded after the lock lifts it.** -/
theorem lock_lifted :
    ¬ ∀ (kind : BucketKind) (ls₁ ls₂ : List GrantStep) (c₁ c₂ : Config GrantState String)
      (lockedUntil : Timestamp), Run guessing.grants { state := {} } ls₁ c₁ →
      (∃ b ∈ findAuthFailureBucket c₁.state.db (guessing.bucketKey kind),
        b.lockedUntil = some lockedUntil) →
      Run (guessing.grants.restrict fun s l => ¬ l.Resets kind s) c₁ ls₂ c₂ →
      c₂.state.clock < lockedUntil →
      c₂.state.Locked (guessing.bucketKey kind) c₂.state.clock := by
  intro h
  have hbefore : Run guessing.grants { state := {} } lockRace lockRaceLocked :=
    replay_run (Option.some_get _).symm
  have hafter : Run (guessing.grants.restrict fun s l => ¬ l.Resets .account s) lockRaceLocked
      (recordGuess "a6") lockRaceEnd :=
    replay_restrict (Option.some_get _).symm (by decide +kernel)
  have hend := h .account _ _ _ _ 1800000 hbefore (by decide +kernel) hafter (by decide +kernel)
  revert hend
  decide +kernel

end HonoWarden
