import HonoWarden.Relational.Batch

/-!
# Runs that draw fresh names

A `System` steps by labels, and a label may *draw* names: random identifiers that no earlier step
of the run has drawn. A `Config` is a state together with every name drawn so far; a `Run` is a
sequence of steps, each drawing names its configuration does not hold yet.

Results:
* **`Run.invariant`**: what holds at the start and is kept by every step holds at the end;
* `Run.invariant_trace`: the same for a property of the labels so far and the configuration;
* `Run.issued_subset`, `System.Next.drawn_mem`: names are never forgotten;
* `System.restrict`, `Run.unrestrict`: runs whose steps all meet a condition.

A system given by a function (`System.ofFunction`) can be replayed on concrete labels; one that
shares its state with others is put in its surroundings by `System.within`.
-/

namespace Relational

/-- A labelled transition system whose labels draw names. -/
structure System (σ ℓ ν : Type) where
  step : σ → ℓ → σ → Prop
  draws : ℓ → List ν

/-- A state and the names drawn so far. -/
structure Config (σ ν : Type) where
  state : σ
  issued : List ν := []

variable {σ ℓ ν : Type} {S : System σ ℓ ν}

/-- One step: the names drawn are new. -/
structure System.Next (S : System σ ℓ ν) (c : Config σ ν) (l : ℓ) (c' : Config σ ν) : Prop where
  step : S.step c.state l c'.state
  fresh : ∀ x ∈ S.draws l, x ∉ c.issued
  issued : c'.issued = S.draws l ++ c.issued

/-- A run from one configuration to another, with the labels of its steps in order. -/
inductive Run (S : System σ ℓ ν) (c : Config σ ν) : List ℓ → Config σ ν → Prop where
  | refl : Run S c [] c
  | tail {ls : List ℓ} {l : ℓ} {c' c'' : Config σ ν} :
      Run S c ls c' → S.Next c' l c'' → Run S c (ls ++ [l]) c''

/-- **What holds at the start of a run and is kept by every step holds at its end.** -/
theorem Run.invariant {I : Config σ ν → Prop} {c c' : Config σ ν} {ls : List ℓ}
    (h : Run S c ls c') (h0 : I c) (hstep : ∀ {c l c'}, S.Next c l c' → I c → I c') : I c' := by
  induction h with
  | refl => exact h0
  | tail _ hn ih => exact hstep hn ih

/-- The same for a property that also reads the labels so far. -/
theorem Run.invariant_trace {I : List ℓ → Config σ ν → Prop} {c c' : Config σ ν} {ls : List ℓ}
    (h : Run S c ls c') (h0 : I [] c)
    (hstep : ∀ {ls c l c'}, S.Next c l c' → I ls c → I (ls ++ [l]) c') : I ls c' := by
  induction h with
  | refl => exact h0
  | tail _ hn ih => exact hstep hn ih

theorem System.Next.issued_subset {c c' : Config σ ν} {l : ℓ} (h : S.Next c l c') :
    ∀ x ∈ c.issued, x ∈ c'.issued := by
  intro x hx
  rw [h.issued]
  exact List.mem_append_right _ hx

theorem System.Next.drawn_mem {c c' : Config σ ν} {l : ℓ} (h : S.Next c l c') :
    ∀ x ∈ S.draws l, x ∈ c'.issued := by
  intro x hx
  rw [h.issued]
  exact List.mem_append_left _ hx

theorem Run.issued_subset {c c' : Config σ ν} {ls : List ℓ} (h : Run S c ls c') :
    ∀ x ∈ c.issued, x ∈ c'.issued :=
  h.invariant (I := fun d => ∀ x ∈ c.issued, x ∈ d.issued) (fun _ hx => hx)
    fun hn ih x hx => hn.issued_subset x (ih x hx)

/-! ## Steps under a condition -/

/-- The system with only the steps that meet `P`. -/
def System.restrict (S : System σ ℓ ν) (P : σ → ℓ → Prop) : System σ ℓ ν where
  step s l s' := S.step s l s' ∧ P s l
  draws := S.draws

theorem System.Next.unrestrict {P : σ → ℓ → Prop} {c c' : Config σ ν} {l : ℓ}
    (h : (S.restrict P).Next c l c') : S.Next c l c' ∧ P c.state l :=
  ⟨⟨h.step.1, h.fresh, h.issued⟩, h.step.2⟩

/-- A run under a condition is a run. -/
theorem Run.unrestrict {P : σ → ℓ → Prop} {c c' : Config σ ν} {ls : List ℓ}
    (h : Run (S.restrict P) c ls c') : Run S c ls c' := by
  induction h with
  | refl => exact .refl
  | tail _ hnext ih => exact .tail ih hnext.unrestrict.1

/-- A run under two conditions is a run of the system restricted twice. -/
theorem Run.restrict_and {P Q : σ → ℓ → Prop} {c c' : Config σ ν} {ls : List ℓ}
    (h : Run (S.restrict fun s l => P s l ∧ Q s l) c ls c') :
    Run ((S.restrict P).restrict Q) c ls c' := by
  induction h with
  | refl => exact .refl
  | tail _ hnext ih =>
    exact .tail ih ⟨⟨⟨hnext.step.1, hnext.step.2.1⟩, hnext.step.2.2⟩, hnext.fresh, hnext.issued⟩

/-! ## Deterministic systems -/

/-- The system whose labels act as functions. -/
def System.ofFunction (exec : ℓ → σ → σ) (draws : ℓ → List ν) : System σ ℓ ν where
  step s l s' := s' = exec l s
  draws := draws

/-- Run the labels in order; `none` when a name is drawn twice. -/
def replay [DecidableEq ν] (exec : ℓ → σ → σ) (draws : ℓ → List ν) :
    Config σ ν → List ℓ → Option (Config σ ν)
  | c, [] => some c
  | c, l :: ls =>
    if ∀ x ∈ draws l, x ∉ c.issued then
      replay exec draws { state := exec l c.state, issued := draws l ++ c.issued } ls
    else none

theorem System.Next.head {c c' c'' : Config σ ν} {l : ℓ} {ls : List ℓ} (hn : S.Next c l c')
    (h : Run S c' ls c'') : Run S c (l :: ls) c'' := by
  induction h with
  | refl => exact .tail .refl hn
  | tail _ hn' ih => exact .tail ih hn'

theorem replay_run [DecidableEq ν] {exec : ℓ → σ → σ} {draws : ℓ → List ν} :
    ∀ {ls : List ℓ} {c c' : Config σ ν}, replay exec draws c ls = some c' →
      Run (.ofFunction exec draws) c ls c'
  | [], c, c', h => by
    obtain rfl := Option.some.inj h
    exact .refl
  | l :: ls, c, c', h => by
    unfold replay at h
    split at h
    · rename_i hfresh
      have hn : (System.ofFunction exec draws).Next c l ⟨exec l c.state, draws l ++ c.issued⟩ :=
        ⟨rfl, hfresh, rfl⟩
      exact hn.head (replay_run h)
    · cases h

/-- Every label meets the condition where it acts. -/
def MeetsAll (P : σ → ℓ → Prop) (exec : ℓ → σ → σ) : σ → List ℓ → Prop
  | _, [] => True
  | s, l :: ls => P s l ∧ MeetsAll P exec (exec l s) ls

instance MeetsAll.decidable {P : σ → ℓ → Prop} [∀ s l, Decidable (P s l)] {exec : ℓ → σ → σ} :
    ∀ (s : σ) (ls : List ℓ), Decidable (MeetsAll P exec s ls)
  | _, [] => inferInstanceAs (Decidable True)
  | s, l :: ls =>
    @instDecidableAnd (P s l) (MeetsAll P exec (exec l s) ls) _ (MeetsAll.decidable (exec l s) ls)

/-- A replay whose labels meet a condition is a run under it. -/
theorem replay_restrict [DecidableEq ν] {exec : ℓ → σ → σ} {draws : ℓ → List ν}
    {P : σ → ℓ → Prop} : ∀ {ls : List ℓ} {c c' : Config σ ν}, replay exec draws c ls = some c' →
      MeetsAll P exec c.state ls → Run ((System.ofFunction exec draws).restrict P) c ls c'
  | [], c, c', h, _ => by
    obtain rfl := Option.some.inj h
    exact .refl
  | l :: ls, c, c', h, hmeets => by
    unfold replay at h
    split at h
    · rename_i hfresh
      have hn : ((System.ofFunction exec draws).restrict P).Next c l
          ⟨exec l c.state, draws l ++ c.issued⟩ := ⟨⟨rfl, hmeets.1⟩, hfresh, rfl⟩
      exact hn.head (replay_restrict h hmeets.2)
    · cases h

/-! ## Components in their surroundings -/

/-- A request to a component, or a write of what surrounds it. -/
inductive Move (ℓ σ : Type) where
  | request (l : ℓ)
  | surroundings (write : σ → σ)

/-- `confine s s'` is `s'` with what the component owns put back to what it was in `s`. -/
def Move.exec (exec : ℓ → σ → σ) (confine : σ → σ → σ) : Move ℓ σ → σ → σ
  | .request l, s => exec l s
  | .surroundings write, s => confine s (write s)

/-- Only requests draw. -/
def Move.draws (draws : ℓ → List ν) : Move ℓ σ → List ν
  | .request l => draws l
  | .surroundings _ => []

/-- A component whose surroundings write what they like outside of it. -/
def System.within (exec : ℓ → σ → σ) (draws : ℓ → List ν) (confine : σ → σ → σ) :
    System σ (Move ℓ σ) ν :=
  .ofFunction (Move.exec exec confine) (Move.draws draws)

end Relational
