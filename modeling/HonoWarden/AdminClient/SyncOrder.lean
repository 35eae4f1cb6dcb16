import HonoWarden.AdminClient.Sync
import Mathlib.Data.List.Nodup

/-!
# The order of overlapping syncs

Calls of `sync` are numbered as they are started, and a call publishes only while its number is
the newest.

Results:
* `SyncClient.labels`: what no event changes of a call that goes on;
* `SyncClient.Ordered.exec`: views are published in the order the syncs were started.
-/

namespace HonoWarden

open Web Relational

/-- It waits for the worker. -/
def SyncStage.Waiting : SyncStage → Prop
  | .called _ _ _ => True
  | _ => False

instance SyncStage.decidableWaiting : DecidablePred SyncStage.Waiting
  | .called _ _ _ => .isTrue trivial
  | .profile | .assurance _ | .returned _ _ | .rejected _ | .done => .isFalse id

/-! ## What an event leaves of the calls -/

namespace SyncCall

/-- What does not change while a call goes on. -/
def label (call : SyncCall) : Nat × Nat × Option (List JsString) :=
  (call.expectedEpoch, call.expectedSync, call.handed)

theorem label_stage (call : SyncCall) (stage : SyncStage) :
    label { call with stage := stage } = call.label := rfl

end SyncCall

namespace SyncClient

variable {PrivateKey Key : Type} {w w' : SyncClient PrivateKey Key}

theorem label_rejectCall (error : AdminError) (call : SyncCall) :
    (rejectCall error call).label = call.label := by
  unfold rejectCall
  split <;> rfl

theorem label_settle (id : Nat) (ok : Bool) (call : SyncCall) :
    (settle id ok call).label = call.label := by
  unfold settle
  split
  · split <;> rfl
  · rfl

/-- The labels of the calls. -/
def labels (w : SyncClient PrivateKey Key) : List (Nat × Nat × Option (List JsString)) :=
  w.syncs.map SyncCall.label

theorem labels_rejectCalls (error : AdminError) : (w.rejectCalls error).labels = w.labels := by
  unfold labels rejectCalls
  rw [List.map_map]
  exact List.map_congr_left fun call _ => label_rejectCall error call

theorem labels_setStage {i : Nat} {call : SyncCall} (hcall : w.syncs[i]? = some call)
    (stage : SyncStage) : (w.setStage i call stage).labels = w.labels := by
  obtain ⟨hlt, rfl⟩ := List.getElem?_eq_some_iff.mp hcall
  unfold labels setStage setCall
  rw [List.map_set, SyncCall.label_stage]
  refine List.ext_getElem? fun j => ?_
  rw [List.getElem?_set]
  split_ifs with hij hlength
  · subst hij
    rw [List.getElem?_map, hcall]
    rfl
  · subst hij
    rw [List.length_map] at hlength
    exact absurd hlt hlength
  · rfl

theorem labels_reset (phase : Phase) : (w.reset phase).labels = w.labels :=
  labels_rejectCalls .cancelled

theorem labels_lock : w.lock.labels = w.labels := by
  unfold lock
  split
  · exact labels_reset _
  · exact labels_rejectCalls .cancelled

/-! ## Views are published in order -/

/-- Calls are numbered in the order they were started; views were published in that order. -/
structure Ordered (w : SyncClient PrivateKey Key) : Prop where
  numbers : w.labels.map (fun label => label.2.1) = List.range' 1 w.syncSequence
  bound : ∀ n ∈ w.published, n ≤ w.syncSequence
  sorted : w.published.Pairwise (· ≤ ·)

theorem Ordered.congr (h : w.Ordered) (hlabels : w'.labels = w.labels)
    (hsequence : w'.syncSequence = w.syncSequence) (hpublished : w'.published = w.published) :
    w'.Ordered := by
  obtain ⟨hnumbers, hbound, hsorted⟩ := h
  constructor
  · rw [hlabels, hsequence]
    exact hnumbers
  · rw [hpublished, hsequence]
    exact hbound
  · rw [hpublished]
    exact hsorted

/-- A call has the number of its place. -/
theorem Ordered.expectedSync_eq (h : w.Ordered) {i : Nat} {call : SyncCall}
    (hcall : w.syncs[i]? = some call) : call.expectedSync = i + 1 := by
  have hget : (w.labels.map fun label => label.2.1)[i]? = some call.expectedSync := by
    unfold labels
    rw [List.getElem?_map, List.getElem?_map, hcall]
    rfl
  rw [h.numbers] at hget
  obtain ⟨hlt, hvalue⟩ := List.getElem?_eq_some_iff.mp hget
  rw [List.getElem_range'] at hvalue
  omega

theorem Ordered.length_eq (h : w.Ordered) : w.syncs.length = w.syncSequence := by
  have hlength := congrArg List.length h.numbers
  unfold labels at hlength
  rwa [List.length_map, List.length_map, List.length_range'] at hlength

theorem Ordered.sync (h : w.Ordered) : w.sync.Ordered := by
  unfold SyncClient.sync
  split_ifs
  · obtain ⟨hnumbers, hbound, hsorted⟩ := h
    refine ⟨?_, fun n hn => (hbound n hn).trans (Nat.le_succ _), hsorted⟩
    unfold labels at hnumbers ⊢
    rw [List.map_append, List.map_append, hnumbers, List.range'_concat]
    rw [Nat.one_mul, Nat.add_comm 1]
    rfl
  · exact h

theorem Ordered.setStage (h : w.Ordered) {i : Nat} {call : SyncCall}
    (hcall : w.syncs[i]? = some call) (stage : SyncStage) : (w.setStage i call stage).Ordered :=
  h.congr (labels_setStage hcall stage) rfl rfl

theorem Ordered.reset (h : w.Ordered) (phase : Phase) : (w.reset phase).Ordered :=
  h.congr (labels_reset phase) rfl rfl

theorem Ordered.lock (h : w.Ordered) : w.lock.Ordered := by
  refine h.congr labels_lock ?_ ?_
  all_goals
    unfold SyncClient.lock
    split <;> rfl
theorem rejectCall_eq {call : SyncCall} (h : ¬ call.stage.Waiting) (error : AdminError) :
    rejectCall error call = call := by
  unfold rejectCall
  split
  · rename_i hstage
    rw [hstage] at h
    exact absurd trivial h
  · rfl

theorem reset_getElem? {i : Nat} {call : SyncCall} (hcall : w.syncs[i]? = some call)
    (h : ¬ call.stage.Waiting) (phase : Phase) : (w.reset phase).syncs[i]? = some call := by
  change (w.syncs.map (rejectCall .cancelled))[i]? = some call
  rw [List.getElem?_map, hcall, Option.map_some, rejectCall_eq h]

theorem lock_getElem? {i : Nat} {call : SyncCall} (hcall : w.syncs[i]? = some call)
    (h : ¬ call.stage.Waiting) : w.lock.syncs[i]? = some call := by
  unfold SyncClient.lock
  split_ifs
  · exact reset_getElem? hcall h _
  · change (w.syncs.map (rejectCall .cancelled))[i]? = some call
    rw [List.getElem?_map, hcall, Option.map_some, rejectCall_eq h]

theorem Ordered.cryptoCall (h : w.Ordered) {i : Nat} {call : SyncCall}
    (hcall : w.syncs[i]? = some call) (current : ProfileBody) (verified : Bool)
    (keys : List WrappedOrganization) : (w.cryptoCall i call current verified keys).Ordered := by
  unfold SyncClient.cryptoCall
  split
  · exact h.setStage hcall _
  · split_ifs
    · exact h.setStage hcall _
    · refine ⟨?_, h.bound, h.sorted⟩
      have hnumbers : w.syncs.map SyncCall.expectedSync = List.range' 1 w.syncSequence := by
        rw [← h.numbers, labels, List.map_map]
        rfl
      have hself : (w.syncs.set i call).map SyncCall.expectedSync =
          w.syncs.map SyncCall.expectedSync := by
        obtain ⟨hlt, rfl⟩ := List.getElem?_eq_some_iff.mp hcall
        rw [List.set_getElem_self]
      unfold labels
      rw [List.map_map]
      rw [← hself] at hnumbers
      rw [List.map_set] at hnumbers
      exact (List.map_set ..).trans hnumbers

/-- **Only the newest sync publishes.** -/
theorem Ordered.afterKeys (h : w.Ordered) {i : Nat} {call : SyncCall}
    (hcall : w.syncs[i]? = some call) (current : ProfileBody) (verified : Bool) :
    (w.afterKeys i call current verified).Ordered := by
  unfold SyncClient.afterKeys
  by_cases hstopped : w.Stopped call
  · rw [if_pos hstopped]
    exact h.setStage hcall _
  · rw [if_neg hstopped]
    split
    · exact h.setStage hcall _
    · obtain ⟨hnumbers, hbound, hsorted⟩ := h.setStage hcall .done
      have hnewest : call.expectedSync = w.syncSequence :=
        not_not.mp fun hne => hstopped (.inr hne)
      refine ⟨hnumbers, fun n hn => ?_, List.pairwise_append.mpr
        ⟨hsorted, List.pairwise_singleton _ _, fun n hn m hm => ?_⟩⟩
      · rcases List.mem_append.mp hn with hold | hnew
        · exact hbound n hold
        · exact ((List.mem_singleton.mp hnew).trans hnewest).le
      · rw [List.mem_singleton.mp hm, hnewest]
        exact hbound n hn

theorem Ordered.turn (h : w.Ordered) {i : Nat} {call : SyncCall}
    (hcall : w.syncs[i]? = some call) : (w.turn i call).Ordered := by
  unfold SyncClient.turn
  split
  · exact h.afterKeys hcall _ _
  · rename_i error hstage
    have hidle : ¬ call.stage.Waiting := by
      rw [hstage]
      exact id
    split_ifs
    · exact h.lock.setStage (lock_getElem? hcall hidle) _
    · exact h.setStage hcall _
  · exact h

theorem Ordered.fails (h : w.Ordered) {i : Nat} {call : SyncCall}
    (hcall : w.syncs[i]? = some call) (expired : Bool) : (w.fails i call expired).Ordered := by
  have hdone (hidle : ¬ call.stage.Waiting) :
      ((if expired then w.reset .expired else w).setStage i call .done).Ordered := by
    split_ifs
    · exact (h.reset _).setStage (reset_getElem? hcall hidle _) _
    · exact h.setStage hcall _
  unfold SyncClient.fails
  split
  · rename_i hstage
    rw [hstage] at hdone
    exact hdone id
  · rename_i hstage
    rw [hstage] at hdone
    exact hdone id
  · exact h

theorem Ordered.signIn (h : w.Ordered) (unwrapRsa : PrivateKey → JsString → Option Key)
    (privateKey : PrivateKey) (current : ProfileBody) (verified : Bool) :
    (w.signIn unwrapRsa privateKey current verified).Ordered := by
  unfold SyncClient.signIn
  split_ifs
  · split
    · exact h
    · dsimp only
      split_ifs
      · exact h.congr rfl rfl rfl
      · exact h
  · exact h

theorem Ordered.answer (h : w.Ordered) : w.answer.Ordered := by
  unfold SyncClient.answer
  split
  · exact h
  · split
    · exact h
    · refine h.congr ?_ rfl rfl
      unfold labels
      rw [List.map_map]
      exact List.map_congr_left fun call _ => label_settle _ _ call

/-- **Every event keeps the order.** -/
theorem Ordered.exec (h : w.Ordered) (unwrapRsa : PrivateKey → JsString → Option Key)
    (event : SyncEvent PrivateKey) : (event.exec unwrapRsa w).Ordered := by
  cases event with
  | sync => exact h.sync
  | profile i current =>
    dsimp only [SyncEvent.exec]
    split
    · exact h
    · rename_i call hcall
      split_ifs
      · unfold afterProfile
        split_ifs <;> exact h.setStage hcall _
      · exact h
  | assurance i verified =>
    dsimp only [SyncEvent.exec]
    split
    · exact h
    · rename_i call hcall
      split
      · unfold afterAssurance
        split_ifs
        · exact h.setStage hcall _
        · split
          · exact h.setStage hcall _
          · exact h.cryptoCall hcall _ _ _
      · exact h
  | fails i expired =>
    dsimp only [SyncEvent.exec]
    split
    · exact h
    · rename_i call hcall
      exact h.fails hcall expired
  | work => exact h.congr rfl rfl rfl
  | answer => exact h.answer
  | turn i =>
    dsimp only [SyncEvent.exec]
    split
    · exact h
    · rename_i call hcall
      exact h.turn hcall
  | die => exact h.congr (labels_rejectCalls .crypto) rfl rfl
  | operation ok => exact h.congr rfl rfl rfl
  | emailVerificationRead verified => exact h.congr rfl rfl rfl
  | mfa required => exact h.congr rfl rfl rfl
  | lock => exact h.lock
  | reset expired => exact h.reset _
  | dispose => exact (h.reset .signedOut).congr rfl rfl rfl
  | signIn privateKey current verified => exact h.signIn unwrapRsa privateKey current verified

end SyncClient

end HonoWarden
