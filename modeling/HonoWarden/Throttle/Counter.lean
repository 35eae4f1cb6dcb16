import Mathlib

/-!
# Counters with a window and a lock

A `Counter` counts the hits of a window that opens with its first hit. The hit that brings the
count to the limit of the `Rule` locks the counter, and every further hit of the window locks it
anew; a hit after the window opens the next one, and counts as its first.

Results:
* **`undisturbed_iff`**: over a sequence of hits, a lock lasts until its end exactly when no hit
  meets a locked counter whose window is over;
* **`Bounded.countP_le`**: when a locked counter takes no hits, a lock is no shorter than the
  window, and a counter is only forgotten once its hits are older than the window, then fewer than
  twice the limit of hits fall into any stretch as long as the window.
-/

namespace Throttle

/-- At `limit` hits within `window`, a counter locks for `lock`. -/
structure Rule where
  limit : Int
  window : Nat
  lock : Nat
  deriving DecidableEq, Repr

structure Counter where
  count : Nat
  windowStartedAt : Nat
  lockedUntil : Option Nat
  updatedAt : Nat
  deriving DecidableEq, Repr

/-- The counter is locked at `t`. -/
def Counter.LockedAt (c : Counter) (t : Nat) : Prop := ∃ u ∈ c.lockedUntil, t < u

instance (c : Counter) (t : Nat) : Decidable (c.LockedAt t) :=
  inferInstanceAs (Decidable (∃ u ∈ c.lockedUntil, t < u))

namespace Rule

variable (rule : Rule)

/-- The lock that `count` hits bring at `now`. -/
def lockAt (count now : Nat) : Option Nat :=
  if rule.limit ≤ count then some (now + rule.lock) else none

/-- A window opens. -/
def first (now : Nat) : Counter where
  count := 1
  windowStartedAt := now
  lockedUntil := rule.lockAt 1 now
  updatedAt := now

/-- One more hit in the window of `c`. -/
def next (now : Nat) (c : Counter) : Counter where
  count := c.count + 1
  windowStartedAt := c.windowStartedAt
  lockedUntil := rule.lockAt (c.count + 1) now
  updatedAt := now

/-- The window of `c` takes a hit at `now`. -/
def Within (now : Nat) (c : Counter) : Prop := now ≤ c.windowStartedAt + rule.window

instance (now : Nat) (c : Counter) : Decidable (rule.Within now c) :=
  inferInstanceAs (Decidable (_ ≤ _))

/-- A hit. -/
def hit (now : Nat) : Option Counter → Counter
  | none => rule.first now
  | some c => if rule.Within now c then rule.next now c else rule.first now

/-- The lock of a counter is what its count brought at the last hit. -/
def Coherent (c : Counter) : Prop := c.lockedUntil = rule.lockAt c.count c.updatedAt

variable {rule}

theorem hit_of_within {now : Nat} {c : Counter} (h : rule.Within now c) :
    rule.hit now (some c) = rule.next now c := if_pos h

theorem hit_of_over {now : Nat} {c : Counter} (h : ¬ rule.Within now c) :
    rule.hit now (some c) = rule.first now := if_neg h

theorem hit_cases (rule : Rule) (now : Nat) (c? : Option Counter) :
    rule.hit now c? = rule.first now ∧ (∀ c ∈ c?, ¬ rule.Within now c) ∨
    ∃ c, c? = some c ∧ rule.Within now c ∧ rule.hit now c? = rule.next now c := by
  cases c? with
  | none => exact Or.inl ⟨rfl, fun c hc => by cases hc⟩
  | some c =>
    by_cases h : rule.Within now c
    · exact Or.inr ⟨c, rfl, h, hit_of_within h⟩
    · refine Or.inl ⟨hit_of_over h, ?_⟩
      rintro c' hc'
      obtain rfl := Option.mem_some_iff.mp hc'
      exact h

@[simp] theorem hit_updatedAt (rule : Rule) (now : Nat) (c? : Option Counter) :
    (rule.hit now c?).updatedAt = now := by
  rcases hit_cases rule now c? with ⟨h, -⟩ | ⟨c, -, -, h⟩ <;> rw [h] <;> rfl

theorem hit_coherent (rule : Rule) (now : Nat) (c? : Option Counter) :
    rule.Coherent (rule.hit now c?) := by
  rcases hit_cases rule now c? with ⟨h, -⟩ | ⟨c, -, -, h⟩ <;> rw [h] <;> rfl

theorem lockAt_eq_some {count now u : Nat} :
    rule.lockAt count now = some u ↔ rule.limit ≤ count ∧ u = now + rule.lock := by
  unfold lockAt
  by_cases h : rule.limit ≤ count <;> simp [h, eq_comm]

theorem lockAt_eq_none {count now : Nat} :
    rule.lockAt count now = none ↔ (count : Int) < rule.limit := by
  unfold lockAt
  by_cases h : rule.limit ≤ count
  · simp [h]
  · simp [h, not_le.mp h]

/-- A locked counter has reached the limit, and its lock runs from its last hit. -/
theorem Coherent.locked {c : Counter} (hc : rule.Coherent c) {u : Nat} (hu : c.lockedUntil = some u) :
    rule.limit ≤ c.count ∧ u = c.updatedAt + rule.lock :=
  lockAt_eq_some.mp (hc.symm.trans hu)

/-! ## What a hit does to a lock -/

/-- The hits that leave a lock in place: those of the open window, and all where one hit locks. -/
def Keeps (rule : Rule) (now : Nat) (c : Counter) : Prop :=
  rule.Within now c ∨ rule.limit ≤ 1

instance (now : Nat) (c : Counter) : Decidable (rule.Keeps now c) :=
  inferInstanceAs (Decidable (_ ∨ _))

/-- **A hit that keeps the lock locks anew.** -/
theorem Keeps.hit_lockedUntil {now u : Nat} {c : Counter} (h : rule.Keeps now c)
    (hc : rule.Coherent c) (hu : c.lockedUntil = some u) :
    (rule.hit now (some c)).lockedUntil = some (now + rule.lock) := by
  have hlimit := (hc.locked hu).1
  by_cases hwithin : rule.Within now c
  · rw [hit_of_within hwithin]
    refine lockAt_eq_some.mpr ⟨?_, rfl⟩
    push_cast
    omega
  · rw [hit_of_over hwithin]
    exact lockAt_eq_some.mpr ⟨h.resolve_left hwithin, rfl⟩

/-- Any other hit lifts it. -/
theorem hit_lockedUntil_none {now : Nat} {c : Counter} (h : ¬ rule.Keeps now c) :
    (rule.hit now (some c)).lockedUntil = none := by
  unfold Keeps at h
  push Not at h
  rw [hit_of_over h.1]
  exact lockAt_eq_none.mpr h.2

/-! ## Sequences of hits -/

/-- The counter after each of the hits. -/
def hits (rule : Rule) : Option Counter → List Nat → List Counter
  | _, [] => []
  | c?, now :: times => rule.hit now c? :: hits rule (some (rule.hit now c?)) times

/-- No hit meets a locked counter whose lock it does not keep. -/
def Undisturbed (rule : Rule) : Option Counter → List Nat → Prop
  | _, [] => True
  | c?, now :: times =>
    (∀ c ∈ c?, c.LockedAt now → rule.Keeps now c) ∧
      Undisturbed rule (some (rule.hit now c?)) times

instance Undisturbed.decidable : ∀ (c? : Option Counter) (times : List Nat),
    Decidable (rule.Undisturbed c? times)
  | _, [] => inferInstanceAs (Decidable True)
  | c?, now :: times =>
    have := Undisturbed.decidable (some (rule.hit now c?)) times
    inferInstanceAs (Decidable (_ ∧ _))

/-- What a lock promises of a later hit: before the end of the lock, it meets one. -/
def Holds (earlier later : Nat × Counter) : Prop :=
  ∀ u ∈ earlier.2.lockedUntil, later.1 < u → later.2.LockedAt later.1

/-- The next hit meets a lock exactly when it keeps the one it finds. -/
theorem holds_hit_iff {now : Nat} {c : Counter} (hc : rule.Coherent c) (hnow : c.updatedAt ≤ now) :
    Holds (c.updatedAt, c) (now, rule.hit now (some c)) ↔ (c.LockedAt now → rule.Keeps now c) := by
  constructor
  · rintro hholds ⟨u, hu, hlt⟩
    by_contra hkeeps
    obtain ⟨u', hu', -⟩ := hholds u hu hlt
    simp only [hit_lockedUntil_none hkeeps] at hu'
    cases hu'
  · rintro hkeeps u hu hlt
    have hlock := (hc.locked hu).2
    have hhit := (hkeeps ⟨u, hu, hlt⟩).hit_lockedUntil hc hu
    dsimp only at hlt
    exact ⟨now + rule.lock, hhit, by dsimp only; omega⟩

/-- Locks only move on. -/
theorem Holds.trans {now : Nat} {c : Counter} {later : Nat × Counter} (hc : rule.Coherent c)
    (hnow : c.updatedAt ≤ now) (hlater : now ≤ later.1)
    (h : Holds (c.updatedAt, c) (now, rule.hit now (some c)))
    (h' : Holds (now, rule.hit now (some c)) later) : Holds (c.updatedAt, c) later := by
  intro u hu hlt
  obtain ⟨u', hu', -⟩ := h u hu (lt_of_le_of_lt hlater hlt)
  refine h' u' hu' (lt_of_lt_of_le hlt ?_)
  have hlock := (hc.locked hu).2
  have hlock' := ((hit_coherent rule now (some c)).locked hu').2
  rw [hit_updatedAt] at hlock'
  omega

theorem undisturbed_iff_of_coherent {c : Counter} (hc : rule.Coherent c) {times : List Nat}
    (htimes : (c.updatedAt :: times).Pairwise (· ≤ ·)) :
    rule.Undisturbed (some c) times ↔
      ((c.updatedAt, c) :: times.zip (rule.hits (some c) times)).Pairwise Holds := by
  induction times generalizing c with
  | nil => simp [Undisturbed]
  | cons now times ih =>
    have hrest := ih (hit_coherent rule now (some c)) (by simpa using htimes.of_cons)
    have hnow : c.updatedAt ≤ now := List.rel_of_pairwise_cons htimes List.mem_cons_self
    have hnext := holds_hit_iff hc hnow
    rw [hit_updatedAt] at hrest
    have hsplit : rule.Undisturbed (some c) (now :: times) ↔
        (c.LockedAt now → rule.Keeps now c) ∧
          rule.Undisturbed (some (rule.hit now (some c))) times := by
      simp [Undisturbed]
    rw [hsplit, hrest, ← hnext, hits, List.zip_cons_cons, List.pairwise_cons (l := (now, _) :: _)]
    refine and_congr_left fun hall => ⟨fun h later hlater => ?_, fun h => h _ List.mem_cons_self⟩
    rcases List.mem_cons.mp hlater with rfl | hmem
    · exact h
    · refine Holds.trans hc hnow ?_ h (List.rel_of_pairwise_cons hall hmem)
      exact List.rel_of_pairwise_cons htimes.of_cons (List.of_mem_zip hmem).1

/-- **A lock lasts until its end exactly when no hit meets a locked counter it does not keep.** -/
theorem undisturbed_iff {times : List Nat} (htimes : times.Pairwise (· ≤ ·)) :
    rule.Undisturbed none times ↔ (times.zip (rule.hits none times)).Pairwise Holds := by
  cases times with
  | nil => simp [Undisturbed, hits]
  | cons now times =>
    have h := undisturbed_iff_of_coherent (hit_coherent rule now none)
      (by simpa using htimes)
    rw [hit_updatedAt] at h
    rw [hits, List.zip_cons_cons, ← h]
    simp [Undisturbed]

/-! ## Hits that spare a locked counter -/

/-- The counter and every hit so far, at time `clock`, when no hit was taken under a lock and no
counter was forgotten before its hits were older than the window. -/
structure Bounded (rule : Rule) (c? : Option Counter) (times : List Nat) (clock : Nat) : Prop where
  past : ∀ t ∈ times, t ≤ clock
  forgotten : c? = none → ∀ t ∈ times, t + rule.window < clock
  coherent : ∀ c ∈ c?, rule.Coherent c
  updated : ∀ c ∈ c?, ∀ t ∈ times, t ≤ c.updatedAt
  ordered : ∀ c ∈ c?, c.windowStartedAt ≤ c.updatedAt ∧ c.updatedAt ≤ clock
  within : ∀ c ∈ c?, rule.Within c.updatedAt c
  counted : ∀ c ∈ c?, c.count = times.countP (c.windowStartedAt ≤ ·)
  before : ∀ c ∈ c?, (times.countP fun t =>
    c.windowStartedAt < t + rule.window ∧ t < c.windowStartedAt : Int) + 1 ≤ rule.limit
  spread : ∀ a, (times.countP fun t => a ≤ t ∧ t < a + rule.window : Int) + 1 ≤ 2 * rule.limit

theorem Bounded.nil (hlimit : 1 ≤ rule.limit) (clock : Nat) : rule.Bounded none [] clock where
  past := by simp
  forgotten := by simp
  coherent := by simp
  updated := by simp
  ordered := by simp
  within := by simp
  counted := by simp
  before := by simp
  spread a := by simp only [List.countP_nil]; omega

section Bounded

variable {c? : Option Counter} {c : Counter} {times : List Nat} {clock now : Nat}

/-- Time passes. -/
theorem Bounded.pass (h : rule.Bounded c? times clock) (hnow : clock ≤ now) :
    rule.Bounded c? times now :=
  { h with
    past := fun t ht => (h.past t ht).trans hnow
    forgotten := fun hc t ht => lt_of_lt_of_le (h.forgotten hc t ht) hnow
    ordered := fun c hc => ⟨(h.ordered c hc).1, (h.ordered c hc).2.trans hnow⟩ }

/-- A counter last hit before a retention at least as long as the window is forgotten. -/
theorem Bounded.forget (h : rule.Bounded c? times clock) (hnow : clock ≤ now)
    (hold : ∀ c ∈ c?, c.updatedAt + rule.window < now) : rule.Bounded none times now where
  past t ht := (h.past t ht).trans hnow
  forgotten _ t ht := by
    cases c? with
    | none => exact lt_of_lt_of_le (h.forgotten rfl t ht) hnow
    | some c =>
      have hupdated := h.updated c rfl t ht
      have := hold c rfl
      omega
  coherent := by simp
  updated := by simp
  ordered := by simp
  within := by simp
  counted := by simp
  before := by simp
  spread := h.spread

/-- A counter found unlocked is below the limit, or its hits are older than the window. -/
theorem Bounded.unlocked (h : rule.Bounded (some c) times clock) (hlock : rule.window ≤ rule.lock)
    (hunlocked : ¬ c.LockedAt now) :
    (c.count : Int) < rule.limit ∨ ∀ t ∈ times, t + rule.window ≤ now := by
  have hcoherent : rule.Coherent c := h.coherent c rfl
  cases hu : c.lockedUntil with
  | none => exact Or.inl (lockAt_eq_none.mp (hcoherent.symm.trans hu))
  | some u =>
    have hended : u ≤ now := by
      by_contra hlt
      exact hunlocked ⟨u, hu, not_le.mp hlt⟩
    have hend := (hcoherent.locked hu).2
    refine Or.inr fun t ht => ?_
    have hupdated := h.updated c rfl t ht
    omega

/-- A count is at most the sum of two that cover it. -/
theorem countP_le_add {p q r : Nat → Prop} [DecidablePred p] [DecidablePred q] [DecidablePred r]
    (h : ∀ t ∈ times, p t → q t ∨ r t) :
    times.countP p ≤ times.countP q + times.countP r := by
  induction times with
  | nil => simp
  | cons t times ih =>
    have hrest := ih fun t' ht' => h t' (List.mem_cons_of_mem _ ht')
    have ht := h t List.mem_cons_self
    simp only [List.countP_cons, decide_eq_true_eq]
    by_cases hp : p t
    · rcases ht hp with hq | hr
      · simp only [hp, hq, if_true]; omega
      · simp only [hp, hr, if_true]; omega
    · simp only [hp, if_false]; omega

theorem countP_recent_eq_zero (hold : ∀ t ∈ times, t + rule.window ≤ now) :
    times.countP (fun t => now < t + rule.window) = 0 :=
  List.countP_eq_zero.mpr fun t ht => by simpa using hold t ht

/-- The hits of the last window, when the counter's window is over or it has none. -/
theorem Bounded.recent_over (h : rule.Bounded c? times clock) (hnow : clock ≤ now)
    (hlimit : 1 ≤ rule.limit) (hlock : rule.window ≤ rule.lock)
    (hunlocked : ∀ c ∈ c?, ¬ c.LockedAt now) (hover : ∀ c ∈ c?, ¬ rule.Within now c) :
    (times.countP fun t => now < t + rule.window : Int) + 1 ≤ rule.limit := by
  cases c? with
  | none =>
    rw [countP_recent_eq_zero fun t ht => ((h.forgotten rfl t ht).trans_le hnow).le]
    omega
  | some c =>
    rcases h.unlocked hlock (hunlocked c rfl) with hcount | hold
    · have hover := hover c rfl
      unfold Within at hover
      have hle : times.countP (fun t => now < t + rule.window) ≤ c.count := by
        rw [h.counted c rfl]
        refine List.countP_mono_left fun t _ ht => ?_
        simp only [decide_eq_true_eq] at ht ⊢
        omega
      omega
    · rw [countP_recent_eq_zero hold]
      omega

/-- The hits of the last window, when the counter's window goes on: those the window counts, and
those of the stretch before it. -/
theorem Bounded.recent_within (h : rule.Bounded (some c) times clock) (hnow : clock ≤ now)
    (hlimit : 1 ≤ rule.limit) (hlock : rule.window ≤ rule.lock)
    (hunlocked : ¬ c.LockedAt now) :
    (times.countP fun t => now < t + rule.window : Int) + 2 ≤ 2 * rule.limit := by
  rcases h.unlocked hlock hunlocked with hcount | hold
  · have hordered := h.ordered c rfl
    have hbefore := h.before c rfl
    have hsplit : times.countP (fun t => now < t + rule.window) ≤
        times.countP (c.windowStartedAt ≤ ·) + times.countP (fun t =>
          c.windowStartedAt < t + rule.window ∧ t < c.windowStartedAt) := by
      refine countP_le_add fun t _ ht => ?_
      by_cases hin : c.windowStartedAt ≤ t
      · exact Or.inl hin
      · exact Or.inr ⟨by omega, not_le.mp hin⟩
    rw [← h.counted c rfl] at hsplit
    omega
  · rw [countP_recent_eq_zero hold]
    omega

end Bounded

section Bounded

variable {c? : Option Counter} {times : List Nat} {clock now : Nat}

/-- The spread of the hits, after one that finds fewer than `2 * limit - 1` in the last window. -/
theorem Bounded.spread_hit (h : rule.Bounded c? times clock)
    (hrecent : (times.countP fun t => now < t + rule.window : Int) + 2 ≤ 2 * rule.limit) (a : Nat) :
    ((now :: times).countP fun t => a ≤ t ∧ t < a + rule.window : Int) + 1 ≤ 2 * rule.limit := by
  have hspread := h.spread a
  rw [List.countP_cons]
  by_cases hnow : a ≤ now ∧ now < a + rule.window
  · have hle : times.countP (fun t => a ≤ t ∧ t < a + rule.window) ≤
        times.countP (fun t => now < t + rule.window) := by
      refine List.countP_mono_left fun t _ ht => ?_
      simp only [decide_eq_true_eq] at ht ⊢
      omega
    simp only [hnow, and_self, decide_true, if_true]
    push_cast
    omega
  · simp only [hnow, decide_false, Bool.false_eq_true, if_false]
    push_cast
    omega

/-- A window that opens finds every earlier hit before it. -/
theorem Bounded.past_lt_of_over (h : rule.Bounded c? times clock) (hnow : clock ≤ now)
    (hover : ∀ c ∈ c?, ¬ rule.Within now c) : ∀ t ∈ times, t < now := by
  intro t ht
  cases c? with
  | none =>
    have := h.forgotten rfl t ht
    omega
  | some c =>
    have hupdated := h.updated c rfl t ht
    have hwithin := h.within c rfl
    have hover := hover c rfl
    unfold Within at hwithin hover
    omega

/-- A hit that opens a window. -/
theorem Bounded.hit_first (h : rule.Bounded c? times clock) (hnow : clock ≤ now)
    (hlimit : 1 ≤ rule.limit) (hlock : rule.window ≤ rule.lock)
    (hunlocked : ∀ c ∈ c?, ¬ c.LockedAt now) (hover : ∀ c ∈ c?, ¬ rule.Within now c) :
    rule.Bounded (some (rule.first now)) (now :: times) now := by
  have hpast := h.past_lt_of_over hnow hover
  have hrecent := h.recent_over hnow hlimit hlock hunlocked hover
  have hall : ∀ t ∈ now :: times, t ≤ now := by
    simpa using fun t ht => (hpast t ht).le
  have hcount : times.countP (now ≤ ·) = 0 :=
    List.countP_eq_zero.mpr fun t ht => by simpa using hpast t ht
  have hbefore : times.countP (fun t => now < t + rule.window ∧ t < now) =
      times.countP (fun t => now < t + rule.window) :=
    List.countP_congr fun t ht => by simp [hpast t ht]
  refine ⟨hall, by simp, ?_, ?_, ?_, ?_, ?_, ?_, h.spread_hit (by omega)⟩ <;>
    rintro c hc <;> obtain rfl := Option.mem_some_iff.mp hc
  · rfl
  · exact hall
  · exact ⟨le_rfl, le_rfl⟩
  · exact Nat.le_add_right _ _
  · change 1 = (now :: times).countP (now ≤ ·)
    simp [hcount]
  · change ((now :: times).countP fun t => now < t + rule.window ∧ t < now : Int) + 1 ≤ rule.limit
    rw [List.countP_cons_of_neg (by simp), hbefore]
    exact hrecent

/-- A hit in a window. -/
theorem Bounded.hit_next {c : Counter} (h : rule.Bounded (some c) times clock) (hnow : clock ≤ now)
    (hlimit : 1 ≤ rule.limit) (hlock : rule.window ≤ rule.lock) (hunlocked : ¬ c.LockedAt now)
    (hwithin : rule.Within now c) :
    rule.Bounded (some (rule.next now c)) (now :: times) now := by
  have hordered := h.ordered c rfl
  have hall : ∀ t ∈ now :: times, t ≤ now := by
    simpa using fun t ht => (h.past t ht).trans hnow
  have hstarted : c.windowStartedAt ≤ now := by omega
  refine ⟨hall, by simp, ?_, ?_, ?_, ?_, ?_, ?_,
    h.spread_hit (h.recent_within hnow hlimit hlock hunlocked)⟩ <;>
    rintro c' hc' <;> obtain rfl := Option.mem_some_iff.mp hc'
  · rfl
  · exact hall
  · exact ⟨hstarted, le_rfl⟩
  · exact hwithin
  · simp [next, hstarted, h.counted c rfl]
  · change ((now :: times).countP fun t =>
      c.windowStartedAt < t + rule.window ∧ t < c.windowStartedAt : Int) + 1 ≤ rule.limit
    rw [List.countP_cons_of_neg (by simp [hstarted])]
    exact h.before c rfl

/-- **A hit on a counter that is not locked.** -/
theorem Bounded.hit (h : rule.Bounded c? times clock) (hnow : clock ≤ now)
    (hlimit : 1 ≤ rule.limit) (hlock : rule.window ≤ rule.lock)
    (hunlocked : ∀ c ∈ c?, ¬ c.LockedAt now) :
    rule.Bounded (some (rule.hit now c?)) (now :: times) now := by
  rcases hit_cases rule now c? with ⟨hfirst, hover⟩ | ⟨c, rfl, hwithin, hnext⟩
  · rw [hfirst]
    exact h.hit_first hnow hlimit hlock hunlocked hover
  · rw [hnext]
    exact h.hit_next hnow hlimit hlock (hunlocked c rfl) hwithin

/-- **Fewer than twice the limit of hits fall into any stretch as long as the window.** -/
theorem Bounded.countP_le (h : rule.Bounded c? times clock) (a : Nat) :
    (times.countP fun t => a ≤ t ∧ t < a + rule.window : Int) ≤ 2 * rule.limit - 1 := by
  have := h.spread a
  omega

end Bounded

end Rule

end Throttle
