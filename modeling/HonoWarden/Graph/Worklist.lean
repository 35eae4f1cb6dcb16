import Mathlib.Algebra.GroupWithZero.Nat
import Mathlib.Algebra.BigOperators.Group.List.Basic
import Mathlib.Data.Fintype.Card
import Mathlib.Data.Fintype.EquivFin
import Mathlib.Data.Fintype.Sets
import Mathlib.Data.List.Nodup
import Mathlib.Data.List.Perm.Basic
import Mathlib.Logic.Relation
import Mathlib.Order.WellFounded

/-!
# Ordering by a worklist

Keys wait for other keys. A worklist holds the keys that wait for nothing; one after the other they
are emitted, and who waited for an emitted key waits for it no more. `edgeCount keys + keys.length`
steps empty the worklist.

Results (the invariant is `Worklist.Inv`):
* `ready_run`: the worklist runs dry;
* **`ordered_run`**: no key is emitted before what it waits for, and what is never emitted waits,
  through others, for a key that waits for itself.
-/

namespace Graph

open Relation

variable {κ : Type} [DecidableEq κ]

/-- From `k`, a cycle can be reached. -/
def ReachesCycle (R : κ → κ → Prop) (k : κ) : Prop := ∃ u, ReflTransGen R k u ∧ TransGen R u u

/-- What each key still waits for, the keys that are ready, and those that were emitted. -/
structure Worklist (κ : Type) where
  waits : κ → List κ
  ready : List κ
  emitted : List κ

/-- `child` waits for `key` no more, and is ready where it waits for nothing. -/
def release (key : κ) (w : Worklist κ) (child : κ) : Worklist κ where
  waits := Function.update w.waits child ((w.waits child).filter fun k => k ≠ key)
  ready := if (w.waits child).filter (fun k => k ≠ key) = [] then w.ready ++ [child] else w.ready
  emitted := w.emitted

/-- Emit `key`, but not twice. -/
def emit (dependents : κ → List κ) (key : κ) (w : Worklist κ) : Worklist κ :=
  if key ∈ w.emitted then w
  else (dependents key).foldl (release key) { w with emitted := w.emitted ++ [key] }

/-- Emit what is ready, at most `fuel` times. -/
def run (dependents : κ → List κ) : Nat → Worklist κ → Worklist κ
  | 0, w => w
  | fuel + 1, w =>
    match w.ready with
    | [] => w
    | key :: ready => run dependents fuel (emit dependents key { w with ready := ready })

/-- The number of the dependents of some keys. -/
def edgeCount (dependents : κ → List κ) (keys : List κ) : Nat :=
  (keys.map fun k => (dependents k).length).sum

/-! ## One key -/

section Emit

variable {key : κ} {w : Worklist κ} {dependents : κ → List κ}

/-- What releasing some children does. -/
theorem foldl_release (children : List κ) (w : Worklist κ) :
    (∀ c, (children.foldl (release key) w).waits c =
      if c ∈ children then (w.waits c).filter fun k => k ≠ key else w.waits c) ∧
    (children.foldl (release key) w).ready =
      w.ready ++ children.filter (fun c => (w.waits c).filter (fun k => k ≠ key) = []) ∧
    (children.foldl (release key) w).emitted = w.emitted := by
  induction children generalizing w with
  | nil => simp
  | cons child children ih =>
    obtain ⟨hwaits, hready, hemitted⟩ := ih (release key w child)
    have hchild (c : κ) : ((release key w child).waits c).filter (fun k => k ≠ key) =
        (w.waits c).filter fun k => k ≠ key := by
      unfold release
      dsimp only
      by_cases hc : c = child
      · rw [hc, Function.update_self, List.filter_filter]
        simp
      · rw [Function.update_of_ne hc]
    rw [List.foldl_cons]
    refine ⟨fun c => ?_, ?_, hemitted⟩
    · rw [hwaits, hchild]
      by_cases hc : c ∈ children
      · rw [if_pos hc, if_pos (List.mem_cons_of_mem _ hc)]
      · rw [if_neg hc]
        unfold release
        dsimp only
        by_cases heq : c = child
        · rw [heq, Function.update_self, if_pos List.mem_cons_self]
        · rw [Function.update_of_ne heq, if_neg (by simp [heq, hc])]
    · rw [hready, List.filter_cons]
      simp only [hchild]
      unfold release
      dsimp only
      by_cases hempty : (w.waits child).filter (fun k => k ≠ key) = []
      · rw [if_pos hempty, if_pos (decide_eq_true hempty), List.append_assoc]
        rfl
      · rw [if_neg hempty, if_neg (by simpa using hempty)]

end Emit

/-! ## What a run preserves -/

section Order

variable {R : κ → κ → Prop} {keys : List κ} {dependents : κ → List κ} {w : Worklist κ}

/-- `dependents` has who waits for a key; all that wait or are waited for are keys. -/
structure Describes (R : κ → κ → Prop) (keys : List κ) (dependents : κ → List κ) : Prop where
  nodup : keys.Nodup
  mem_keys : ∀ c p, R c p → c ∈ keys ∧ p ∈ keys
  dependents : ∀ c p, c ∈ dependents p ↔ R c p

/-- Each key waits for what was not emitted, and those that wait for nothing are known. -/
structure Worklist.Inv (R : κ → κ → Prop) (keys : List κ) (w : Worklist κ) : Prop where
  waits : ∀ c p, p ∈ w.waits c ↔ R c p ∧ p ∉ w.emitted
  ready : ∀ k ∈ w.ready, k ∈ keys ∧ w.waits k = []
  known : ∀ k ∈ keys, w.waits k = [] → k ∈ w.ready ∨ k ∈ w.emitted
  emitted : ∀ k ∈ w.emitted, k ∈ keys
  nodup : w.emitted.Nodup
  ordered : ∀ before k after, w.emitted = before ++ k :: after → ∀ p, R k p → p ∈ before

omit [DecidableEq κ] in
theorem ordered_concat {emitted : List κ} {key : κ}
    (h : ∀ before k after, emitted = before ++ k :: after → ∀ p, R k p → p ∈ before)
    (hkey : ∀ p, R key p → p ∈ emitted) :
    ∀ before k after, emitted ++ [key] = before ++ k :: after → ∀ p, R k p → p ∈ before := by
  intro before k after heq p hp
  rcases List.eq_nil_or_concat after with rfl | ⟨after', last, rfl⟩
  · obtain ⟨rfl, hlast⟩ := List.append_inj' heq rfl
    obtain rfl := List.singleton_inj.mp hlast
    exact hkey p hp
  · rw [List.concat_eq_append, ← List.cons_append, ← List.append_assoc] at heq
    exact h before k after' (List.append_inj' heq rfl).1 p hp

/-- Emitting a key that is ready keeps the invariant. -/
theorem Worklist.Inv.emit (hd : Describes R keys dependents) (h : w.Inv R keys) {key : κ}
    {ready : List κ} (hready : w.ready = key :: ready) :
    (Graph.emit dependents key { w with ready := ready }).Inv R keys := by
  obtain ⟨hkey, hnothing⟩ := h.ready key (hready ▸ List.mem_cons_self)
  have hrest : ∀ k ∈ ready, k ∈ keys ∧ w.waits k = [] := fun k hk =>
    h.ready k (hready ▸ List.mem_cons_of_mem key hk)
  have hknown : ∀ k ∈ keys, w.waits k = [] → k = key ∨ k ∈ ready ∨ k ∈ w.emitted := by
    intro k hk hwaits
    have hmem := h.known k hk hwaits
    rwa [hready, List.mem_cons, or_assoc] at hmem
  unfold Graph.emit
  split_ifs with htwice
  · refine ⟨h.waits, hrest, fun k hk hwaits => ?_, h.emitted, h.nodup, h.ordered⟩
    rcases hknown k hk hwaits with rfl | hk'
    · exact Or.inr htwice
    · exact hk'
  · obtain ⟨hwaits', hready', hemitted'⟩ := @foldl_release κ _ key (dependents key)
      { w with ready := ready, emitted := w.emitted ++ [key] }
    refine ⟨fun c p => ?_, fun k hk => ?_, fun k hk hempty => ?_, ?_, ?_, ?_⟩
    · rw [hwaits', hemitted', List.mem_append, List.mem_singleton, not_or, ← and_assoc,
        ← h.waits c p]
      by_cases hc : c ∈ dependents key
      · rw [if_pos hc, List.mem_filter, decide_eq_true_eq]
      · rw [if_neg hc]
        refine (and_iff_left_of_imp fun hp heq => hc ?_).symm
        exact (hd.dependents c key).mpr (heq ▸ ((h.waits c p).mp hp).1)
    · rw [hready', List.mem_append] at hk
      rw [hwaits']
      rcases hk with hk | hk
      · obtain ⟨hmem, hempty⟩ := hrest k hk
        refine ⟨hmem, ?_⟩
        dsimp only
        rw [hempty, List.filter_nil, ite_self]
      · obtain ⟨hchild, hempty⟩ := List.mem_filter.mp hk
        refine ⟨(hd.mem_keys k key ((hd.dependents k key).mp hchild)).1, ?_⟩
        rw [if_pos hchild]
        exact of_decide_eq_true hempty
    · rw [hwaits'] at hempty
      rw [hready', hemitted', List.mem_append, List.mem_append, List.mem_singleton]
      by_cases hc : k ∈ dependents key
      · rw [if_pos hc] at hempty
        exact Or.inl (Or.inr (List.mem_filter.mpr ⟨hc, decide_eq_true hempty⟩))
      · rw [if_neg hc] at hempty
        rcases hknown k hk hempty with heq | hmem | hmem
        · exact Or.inr (Or.inr heq)
        · exact Or.inl (Or.inl hmem)
        · exact Or.inr (Or.inl hmem)
    · rw [hemitted']
      intro k hk
      rcases List.mem_append.mp hk with hk | hk
      · exact h.emitted k hk
      · exact List.mem_singleton.mp hk ▸ hkey
    · rw [hemitted']
      exact List.nodup_append_comm.mp (List.nodup_cons.mpr ⟨htwice, h.nodup⟩)
    · rw [hemitted']
      refine ordered_concat h.ordered fun p hp => ?_
      by_contra hnot
      have hwait := (h.waits key p).mpr ⟨hp, hnot⟩
      rw [hnothing] at hwait
      exact absurd hwait List.not_mem_nil

theorem Worklist.Inv.run (hd : Describes R keys dependents) (fuel : Nat) :
    ∀ {w : Worklist κ}, w.Inv R keys → (Graph.run dependents fuel w).Inv R keys := by
  induction fuel with
  | zero => exact fun h => h
  | succ fuel ih =>
    intro w h
    unfold Graph.run
    split
    · exact h
    · rename_i key ready hready
      exact ih (h.emit hd hready)

/-! ## The end of a run -/

/-- What is left to do: the keys that are ready, and the dependents of those not emitted. -/
def load (dependents : κ → List κ) (keys : List κ) (w : Worklist κ) : Nat :=
  w.ready.length + edgeCount dependents (keys.filter fun k => k ∉ w.emitted)

/-- The dependents of a key are counted until it is emitted. -/
theorem edgeCount_emitted (hkeys : keys.Nodup) {emitted : List κ} {key : κ} (hkey : key ∈ keys)
    (hnew : key ∉ emitted) :
    edgeCount dependents (keys.filter fun k => k ∉ emitted) = (dependents key).length +
      edgeCount dependents (keys.filter fun k => k ∉ emitted ++ [key]) := by
  have hmem : key ∈ keys.filter fun k => k ∉ emitted :=
    List.mem_filter.mpr ⟨hkey, decide_eq_true hnew⟩
  have herase : (keys.filter fun k => k ∉ emitted).erase key =
      keys.filter fun k => k ∉ emitted ++ [key] := by
    rw [(hkeys.filter _).erase_eq_filter, List.filter_filter]
    refine List.filter_congr fun k _ => Bool.eq_iff_iff.mpr ?_
    simp [and_comm]
  unfold edgeCount
  rw [((List.perm_cons_erase hmem).map _).sum_eq, herase, List.map_cons, List.sum_cons]

theorem load_emit (hd : Describes R keys dependents) (h : w.Inv R keys) {key : κ} {ready : List κ}
    (hready : w.ready = key :: ready) :
    load dependents keys (emit dependents key { w with ready := ready }) + 1 ≤
      load dependents keys w := by
  obtain ⟨hkey, -⟩ := h.ready key (hready ▸ List.mem_cons_self)
  unfold load
  rw [hready, List.length_cons]
  unfold emit
  split_ifs with htwice
  · exact (Nat.add_right_comm _ _ _).le
  · obtain ⟨-, hready', hemitted'⟩ := @foldl_release κ _ key (dependents key)
      { w with ready := ready, emitted := w.emitted ++ [key] }
    rw [hready', hemitted', List.length_append, edgeCount_emitted hd.nodup hkey htwice]
    have hfilter := List.length_filter_le
      (fun c => decide ((w.waits c).filter (fun k => k ≠ key) = [])) (dependents key)
    dsimp only
    omega

/-- **The worklist runs dry.** -/
theorem ready_run (hd : Describes R keys dependents) (fuel : Nat) :
    ∀ {w : Worklist κ}, w.Inv R keys → load dependents keys w ≤ fuel →
      (run dependents fuel w).ready = [] := by
  induction fuel with
  | zero =>
    intro w h hload
    unfold load at hload
    exact List.eq_nil_of_length_eq_zero (by unfold run; omega)
  | succ fuel ih =>
    intro w h hload
    unfold run
    split
    · assumption
    · rename_i key ready hready
      have hless := load_emit hd h hready
      exact ih (h.emit hd hready) (by omega)

/-! ## Cycles -/

/-- Where every key of a list leads to another one of the list, each reaches a cycle. -/
theorem reachesCycle_of_forall {rest : List κ} (h : ∀ k ∈ rest, ∃ p ∈ rest, R k p) {k : κ}
    (hk : k ∈ rest) : ReachesCycle R k := by
  by_contra hnone
  let S := { u : κ // u ∈ rest ∧ ReflTransGen R k u }
  let below (b a : S) : Prop := TransGen R a.val b.val
  have hfinite : Finite S := by
    refine Finite.of_injective (fun u : S => (⟨u.val, u.property.1⟩ : { u // u ∈ rest })) ?_
    exact fun a b hab => Subtype.ext (congrArg (fun u : { u // u ∈ rest } => u.val) hab)
  have htrans : IsTrans S below := ⟨fun _ _ _ hab hbc => TransGen.trans hbc hab⟩
  have hirrefl : Std.Irrefl below := ⟨fun u hu => hnone ⟨u.val, u.property.2, hu⟩⟩
  have hwell : WellFounded below := Finite.wellFounded_of_trans_of_irrefl below
  -- a key below which there is none leads to no key of the list
  obtain ⟨least, -, hleast⟩ := hwell.has_min Set.univ ⟨⟨k, hk, ReflTransGen.refl⟩, trivial⟩
  obtain ⟨p, hp, hedge⟩ := h least.val least.property.1
  exact hleast ⟨p, hp, least.property.2.tail hedge⟩ trivial (TransGen.single hedge)

/-! ## The order -/

variable {waits : κ → List κ}

/-- The worklist of keys that wait for others. -/
def start (waits : κ → List κ) (keys : List κ) : Worklist κ where
  waits := waits
  ready := keys.filter fun k => waits k = []
  emitted := []

omit [DecidableEq κ] in
theorem inv_start (hwaits : ∀ c p, p ∈ waits c ↔ R c p) : (start waits keys).Inv R keys where
  waits c p := by
    rw [start, hwaits]
    exact (and_iff_left List.not_mem_nil).symm
  ready k hk := ⟨List.mem_of_mem_filter hk, of_decide_eq_true (List.mem_filter.mp hk).2⟩
  known k hk hempty := Or.inl (List.mem_filter.mpr ⟨hk, decide_eq_true hempty⟩)
  emitted k hk := absurd hk List.not_mem_nil
  nodup := List.nodup_nil
  ordered before k after h := absurd h.symm (List.append_ne_nil_of_right_ne_nil _
    (List.cons_ne_nil _ _))

/-- **Keys are emitted in order, and who is not waits for a cycle.** -/
theorem ordered_run (hd : Describes R keys dependents) (hwaits : ∀ c p, p ∈ waits c ↔ R c p)
    {fuel : Nat} (hfuel : keys.length + edgeCount dependents keys ≤ fuel) :
    (run dependents fuel (start waits keys)).Inv R keys ∧
      ∀ k ∈ keys, k ∉ (run dependents fuel (start waits keys)).emitted → ReachesCycle R k := by
  have hinv : (run dependents fuel (start waits keys)).Inv R keys :=
    Worklist.Inv.run hd fuel (inv_start hwaits)
  have hload : load dependents keys (start waits keys) ≤ fuel := by
    have hready : (start waits keys).ready.length ≤ keys.length := List.length_filter_le _ _
    have hall : keys.filter (fun k => k ∉ (start waits keys).emitted) = keys :=
      List.filter_eq_self.mpr fun k _ => decide_eq_true List.not_mem_nil
    unfold load
    rw [hall]
    omega
  have hdry := ready_run hd fuel (inv_start hwaits) hload
  -- a key that was not emitted still waits for one
  have hstep : ∀ c ∈ keys.filter fun k => k ∉ (run dependents fuel (start waits keys)).emitted,
      ∃ p ∈ keys.filter fun k => k ∉ (run dependents fuel (start waits keys)).emitted, R c p := by
    intro c hc
    obtain ⟨hckeys, hcnot⟩ := List.mem_filter.mp hc
    have hnonempty : (run dependents fuel (start waits keys)).waits c ≠ [] := by
      intro hempty
      rcases hinv.known c hckeys hempty with hready | hemitted
      · rw [hdry] at hready
        exact absurd hready List.not_mem_nil
      · exact of_decide_eq_true hcnot hemitted
    obtain ⟨p, hp⟩ := List.exists_mem_of_ne_nil _ hnonempty
    obtain ⟨hedge, hpnot⟩ := (hinv.waits c p).mp hp
    exact ⟨p, List.mem_filter.mpr ⟨(hd.mem_keys c p hedge).2, decide_eq_true hpnot⟩, hedge⟩
  exact ⟨hinv, fun k hk hnot =>
    reachesCycle_of_forall hstep (List.mem_filter.mpr ⟨hk, decide_eq_true hnot⟩)⟩

end Order

end Graph
