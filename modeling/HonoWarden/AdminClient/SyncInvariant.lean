import HonoWarden.AdminClient.SyncOrder

/-!
# The invariant of overlapping syncs

Only the newest sync asks the worker for keys and only the newest publishes. Between the two it
can be overtaken: its keys are in the worker and its view is dropped, and the agreement of the
keyring with the view hangs on the newer sync. One that fails before it has asked for keys of its
own leaves the session over the keys of a view that was never shown; `SyncEvent.KeepsKeys` is that
this does not happen.

Results:
* `SyncClient.Settling`: what the worker has been asked for is shown, or the newest sync is in
  flight;
* `SyncClient.Sound.setStage`, `SyncClient.Sound.cryptoCall`, `SyncClient.Sound.afterKeys`: the
  steps of a sync;
* `SyncClient.Sound.work`, `SyncClient.Sound.answer`, `SyncClient.Sound.die`: those of the worker;
* **`SyncClient.Sound.exec`**: every event that keeps the keys keeps the invariant.
-/

namespace HonoWarden

open Web Relational

namespace SyncClient

variable {PrivateKey Key : Type}

/-! ## The properties -/

/-- No sync is pending. -/
def Idle (w : SyncClient PrivateKey Key) : Prop := ∀ call ∈ w.syncs, call.stage = .done

instance (w : SyncClient PrivateKey Key) : Decidable w.Idle :=
  inferInstanceAs (Decidable (∀ call ∈ w.syncs, call.stage = .done))

/-- **At rest an unlocked session holds the keys of the organizations it shows.** -/
def KeysAgree (w : SyncClient PrivateKey Key) : Prop :=
  w.state.phase = .unlocked → w.Idle →
    ∃ worker, w.port = some worker ∧ worker.closed = false ∧ worker.keyring.ids = w.state.ids

/-- The organizations that the last sync of this session to call the worker has asked for. -/
def lastHanded (w : SyncClient PrivateKey Key) : Option (List JsString) :=
  (w.syncs.filterMap fun call =>
    if call.expectedEpoch = w.epoch then call.handed else none).getLast?

/-- The last sync of this session to call the worker asked for other organizations than are
shown. -/
def Diverted (w : SyncClient PrivateKey Key) : Prop := ∃ ids ∈ w.lastHanded, ids ≠ w.state.ids

instance (w : SyncClient PrivateKey Key) : Decidable w.Diverted :=
  inferInstanceAs (Decidable (∃ ids ∈ w.lastHanded, ids ≠ w.state.ids))

/-- No later sync was started, and the session is still the one it was started in. -/
def Newest (w : SyncClient PrivateKey Key) (call : SyncCall) : Prop :=
  call.expectedEpoch = w.epoch ∧ call.expectedSync = w.syncSequence

instance (w : SyncClient PrivateKey Key) (call : SyncCall) : Decidable (w.Newest call) :=
  inferInstanceAs (Decidable (_ ∧ _))

end SyncClient

/-- It awaits one of its fetches. -/
def SyncStage.Fetching : SyncStage → Prop
  | .profile | .assurance _ => True
  | _ => False

instance SyncStage.decidableFetching : DecidablePred SyncStage.Fetching
  | .profile | .assurance _ => .isTrue trivial
  | .called _ _ _ | .returned _ _ | .rejected _ | .done => .isFalse id

/-- `organizations` throws at its profile. -/
def SyncStage.Unreadable : SyncStage → Prop
  | .assurance current => organizations current = none
  | _ => False

instance SyncStage.decidableUnreadable : DecidablePred SyncStage.Unreadable
  | .assurance current => inferInstanceAs (Decidable (organizations current = none))
  | .profile | .called _ _ _ | .returned _ _ | .rejected _ | .done => .isFalse id

namespace SyncEvent

variable {PrivateKey Key : Type}

/-- The newest sync throws before it has called the worker, and the session goes on. -/
def Abandons (w : SyncClient PrivateKey Key) : SyncEvent PrivateKey → Prop
  | .fails i expired =>
    expired = false ∧ ∃ call ∈ w.syncs[i]?, w.Newest call ∧ call.stage.Fetching
  | .assurance i _ => ∃ call ∈ w.syncs[i]?, w.Newest call ∧ call.stage.Unreadable
  | _ => False

instance Abandons.decidable (w : SyncClient PrivateKey Key) :
    ∀ event : SyncEvent PrivateKey, Decidable (event.Abandons w)
  | .fails i expired => inferInstanceAs (Decidable (expired = false ∧
      ∃ call ∈ w.syncs[i]?, w.Newest call ∧ call.stage.Fetching))
  | .assurance i _ => inferInstanceAs (Decidable (∃ call ∈ w.syncs[i]?,
      w.Newest call ∧ call.stage.Unreadable))
  | .sync | .profile _ _ | .work | .answer | .turn _ | .die | .operation _
  | .emailVerificationRead _ | .mfa _ | .lock | .reset _ | .dispose | .signIn _ _ _ =>
    .isFalse id

/-- The newest sync does not fail while the worker is asked for keys that are not shown, and the
worker dies only under a sync that waits for it. -/
def KeepsKeys (w : SyncClient PrivateKey Key) : SyncEvent PrivateKey → Prop
  | .die => ∃ call ∈ w.syncs, call.stage.Waiting
  | event => event.Abandons w → ¬ w.Diverted

instance KeepsKeys.decidable (w : SyncClient PrivateKey Key) :
    ∀ event : SyncEvent PrivateKey, Decidable (event.KeepsKeys w)
  | .die => inferInstanceAs (Decidable (∃ call ∈ w.syncs, call.stage.Waiting))
  | .sync | .profile _ _ | .assurance _ _ | .fails _ _ | .work | .answer | .turn _ | .operation _
  | .emailVerificationRead _ | .mfa _ | .lock | .reset _ | .dispose | .signIn _ _ _ =>
    inferInstanceAs (Decidable (_ → ¬ w.Diverted))

end SyncEvent

/-! ## The invariant -/

/-- It will call the worker or publish, if nothing stops it. -/
def SyncStage.InFlight : SyncStage → Prop
  | .profile | .assurance _ | .called _ _ _ | .returned _ _ => True
  | _ => False

/-- The profile it has asked the worker for the keys of. -/
def SyncStage.asked : SyncStage → Option ProfileBody
  | .called current _ _ | .returned current _ => some current
  | _ => none

namespace SyncClient

variable {PrivateKey Key : Type} {w w' : SyncClient PrivateKey Key}

/-- The newest sync is in flight. -/
def Trying (w : SyncClient PrivateKey Key) : Prop :=
  ∃ (i : Nat) (call : SyncCall), w.syncs[i]? = some call ∧ w.Newest call ∧ call.stage.InFlight

/-- A refusal of the worker is on its way to the `catch` that locks. -/
def Doomed (w : SyncClient PrivateKey Key) : Prop :=
  ∃ call ∈ w.syncs, call.stage = .rejected .crypto ∨
    ∃ current verified id worker, call.stage = .called current verified id ∧
      w.port = some worker ∧ (id, false) ∈ worker.replies

/-- The worker has been asked for the keys of the view, or will be by the newest sync, or the
newest sync will show what it has been asked for. -/
structure Settling (w : SyncClient PrivateKey Key) (worker : CryptoWorker PrivateKey Key) :
    Prop where
  port : w.port = some worker
  isOpen : worker.closed = false
  eventual : worker.eventual = w.lastHanded.getD w.state.ids
  trying : worker.eventual = w.state.ids ∨ w.Trying

/-- What holds of calls, session and worker apart from the keys. -/
structure Tidy (w : SyncClient PrivateKey Key) : Prop extends Ordered w where
  past : ∀ call ∈ w.syncs, call.expectedEpoch ≤ w.epoch
  elapsed : w.state.phase ≠ .unlocked →
    w.port = none ∧ ∀ call ∈ w.syncs, call.expectedEpoch < w.epoch
  ended : w.disposed = true → w.state.phase ≠ .unlocked
  handed : ∀ call ∈ w.syncs, ∀ current ∈ call.stage.asked, ∃ read,
    organizations current = some read ∧ call.handed = some (read.1.map OrganizationView.id)
  numbered : ∀ worker ∈ w.port, worker.Numbered
  callers : ∀ worker ∈ w.port, ∀ id organizations,
    (id, CryptoCommand.organizations organizations) ∈ worker.queue →
      ∃ call ∈ w.syncs, ∃ current verified, call.stage = .called current verified id

structure Sound (w : SyncClient PrivateKey Key) : Prop extends Tidy w where
  agree : w.state.phase = .unlocked → w.Doomed ∨ ∃ worker, w.Settling worker

theorem lastHanded_eq (w : SyncClient PrivateKey Key) :
    w.lastHanded = (w.labels.filterMap fun label =>
      if label.1 = w.epoch then label.2.2 else none).getLast? := by
  unfold lastHanded labels
  rw [List.filterMap_map]
  rfl

theorem lastHanded_congr (hlabels : w'.labels = w.labels) (hepoch : w'.epoch = w.epoch) :
    w'.lastHanded = w.lastHanded := by
  rw [lastHanded_eq, lastHanded_eq, hlabels, hepoch]

/-- The newest call is the last. -/
theorem Ordered.eq_append (h : w.Ordered) {i : Nat} {call : SyncCall}
    (hcall : w.syncs[i]? = some call) (hnewest : call.expectedSync = w.syncSequence) :
    ∃ init, w.syncs = init ++ [call] := by
  have hlast : i = w.syncs.length - 1 := by
    have hnumber := h.expectedSync_eq hcall
    have hlength := h.length_eq
    omega
  rw [← List.getLast?_eq_some_iff, List.getLast?_eq_getElem?, ← hlast]
  exact hcall

theorem Ordered.lastHanded_newest (h : w.Ordered) {i : Nat} {call : SyncCall}
    (hcall : w.syncs[i]? = some call) (hnewest : w.Newest call) {ids : List JsString}
    (hhanded : call.handed = some ids) : w.lastHanded = some ids := by
  obtain ⟨init, hinit⟩ := h.eq_append hcall hnewest.2
  have hsingle : [call].filterMap (fun call : SyncCall =>
      if call.expectedEpoch = w.epoch then call.handed else none) = [ids] := by
    rw [List.filterMap_cons, if_pos hnewest.1, hhanded]
    rfl
  unfold lastHanded
  rw [hinit, List.filterMap_append, hsingle, List.getLast?_concat]

/-- Two calls of one number are one call. -/
theorem Ordered.index_eq (h : w.Ordered) {i j : Nat} {call other : SyncCall}
    (hcall : w.syncs[i]? = some call) (hother : w.syncs[j]? = some other)
    (heq : call.expectedSync = other.expectedSync) : i = j := by
  have hi := h.expectedSync_eq hcall
  have hj := h.expectedSync_eq hother
  omega

/-- What the invariant reads. -/
structure SameSyncs (w w' : SyncClient PrivateKey Key) : Prop where
  syncs : w'.syncs = w.syncs
  sequence : w'.syncSequence = w.syncSequence
  published : w'.published = w.published
  epoch : w'.epoch = w.epoch
  port : w'.port = w.port
  disposed : w'.disposed = w.disposed
  phase : w'.state.phase = w.state.phase

theorem Tidy.congr (h : w.Tidy) (hsame : w.SameSyncs w') (hordered : w'.Ordered) : w'.Tidy := by
  obtain ⟨hsyncs, -, -, hepoch, hport, hdisposed, hphase⟩ := hsame
  refine ⟨hordered, ?_, ?_, ?_, ?_, ?_, ?_⟩
  · rw [hsyncs, hepoch]
    exact h.past
  · rw [hphase, hport, hsyncs, hepoch]
    exact h.elapsed
  · rw [hdisposed, hphase]
    exact h.ended
  · rw [hsyncs]
    exact h.handed
  · rw [hport]
    exact h.numbered
  · rw [hport, hsyncs]
    exact h.callers

/-- A view of the same organizations. -/
theorem Sound.congr (h : w.Sound) (hsame : w.SameSyncs w')
    (hshown : w'.state.ids = w.state.ids) : w'.Sound := by
  have hlabels : w'.labels = w.labels := congrArg (List.map SyncCall.label) hsame.syncs
  refine ⟨h.toTidy.congr hsame (h.toOrdered.congr hlabels hsame.sequence hsame.published),
    fun hunlocked => ?_⟩
  obtain ⟨hsyncs, hsequence, -, hepoch, hport, -, hphase⟩ := hsame
  rw [hphase] at hunlocked
  rcases h.agree hunlocked with hdoomed | ⟨worker, hsettling⟩
  · left
    unfold Doomed at hdoomed ⊢
    rw [hsyncs, hport]
    exact hdoomed
  · refine .inr ⟨worker, hport.trans hsettling.port, hsettling.isOpen, ?_, ?_⟩
    · rw [lastHanded_congr hlabels hepoch, hshown]
      exact hsettling.eventual
    · rw [hshown]
      refine hsettling.trying.imp_right ?_
      unfold Trying Newest
      rw [hsyncs, hepoch, hsequence]
      exact id

/-- The other calls are still there. -/
theorem mem_set_of_ne {i : Nat} {call other : SyncCall} (hcall : w.syncs[i]? = some call)
    (hother : other ∈ w.syncs) (hne : other ≠ call) (new : SyncCall) :
    other ∈ w.syncs.set i new := by
  obtain ⟨j, hj⟩ := List.mem_iff_getElem?.mp hother
  have hij : i ≠ j := by
    rintro rfl
    exact hne (Option.some.inj (hj.symm.trans hcall))
  exact List.mem_of_getElem? ((List.getElem?_set_ne hij).trans hj)

/-- A call moves on without the worker. -/
theorem Tidy.setStage (h : w.Tidy) {i : Nat} {call : SyncCall} {stage : SyncStage}
    (hcall : w.syncs[i]? = some call) (hidle : ¬ call.stage.Waiting)
    (hasked : stage.asked = none) : (w.setStage i call stage).Tidy := by
  have hmem : ∀ other ∈ (w.setStage i call stage).syncs, other ∈ w.syncs ∨
      other = { call with stage := stage } := fun other hother => List.mem_or_eq_of_mem_set hother
  have hcallMem : call ∈ w.syncs := List.mem_of_getElem? hcall
  refine ⟨h.toOrdered.setStage hcall stage, ?_, ?_, h.ended, ?_, h.numbered, ?_⟩
  · intro other hother
    rcases hmem other hother with hold | rfl
    · exact h.past other hold
    · exact h.past call hcallMem
  · intro hphase
    obtain ⟨hport, helapsed⟩ := h.elapsed hphase
    refine ⟨hport, fun other hother => ?_⟩
    rcases hmem other hother with hold | rfl
    · exact helapsed other hold
    · exact helapsed call hcallMem
  · intro other hother current hcurrent
    rcases hmem other hother with hold | rfl
    · exact h.handed other hold current hcurrent
    · change current ∈ stage.asked at hcurrent
      rw [hasked] at hcurrent
      cases hcurrent
  · intro worker hworker id organizations hqueued
    obtain ⟨other, hother, current, verified, hstage⟩ :=
      h.callers worker hworker id organizations hqueued
    refine ⟨other, mem_set_of_ne hcall hother ?_ _, current, verified, hstage⟩
    rintro rfl
    rw [hstage] at hidle
    exact hidle trivial

/-- A refusal stays on its way while another call moves on. -/
theorem Doomed.set (h : w.Doomed) {i : Nat} {call : SyncCall}
    (hcall : w.syncs[i]? = some call) (hidle : ¬ call.stage.Waiting)
    (hcrypto : call.stage ≠ .rejected .crypto) (new : SyncCall) : (w.setCall i new).Doomed := by
  obtain ⟨other, hother, hwhy⟩ := h
  refine ⟨other, mem_set_of_ne hcall hother ?_ new, hwhy⟩
  rintro rfl
  rcases hwhy with hrejected | ⟨_, _, _, _, hstage, -⟩
  · exact hcrypto hrejected
  · rw [hstage] at hidle
    exact hidle trivial

/-- **A call moves on without the worker.** The newest one stays in flight, or is refused, or stops
where the worker has been asked for what is shown. -/
theorem Sound.setStage (h : w.Sound) {i : Nat} {call : SyncCall} {stage : SyncStage}
    (hcall : w.syncs[i]? = some call) (hidle : ¬ call.stage.Waiting)
    (hcrypto : call.stage = .rejected .crypto → w.state.phase ≠ .unlocked)
    (hasked : stage.asked = none)
    (hkeep : w.state.phase = .unlocked → w.Newest call → call.stage.InFlight →
      stage.InFlight ∨ stage = .rejected .crypto ∨ w.lastHanded.getD w.state.ids = w.state.ids) :
    (w.setStage i call stage).Sound := by
  refine ⟨h.toTidy.setStage hcall hidle hasked, fun hunlocked => ?_⟩
  have hlast : (w.setStage i call stage).lastHanded = w.lastHanded :=
    lastHanded_congr (labels_setStage hcall stage) rfl
  have hself : (w.setStage i call stage).syncs[i]? = some { call with stage := stage } :=
    List.getElem?_set_self (List.getElem?_eq_some_iff.mp hcall).1
  rcases h.agree hunlocked with hdoomed | ⟨worker, hsettling⟩
  · exact .inl (hdoomed.set hcall hidle (fun hrejected => hcrypto hrejected hunlocked) _)
  have heventual : worker.eventual =
      (w.setStage i call stage).lastHanded.getD (w.setStage i call stage).state.ids := by
    rw [hlast]
    exact hsettling.eventual
  rcases hsettling.trying with hshown | ⟨j, other, hother, hnewest, hflight⟩
  · exact .inr ⟨worker, hsettling.port, hsettling.isOpen, heventual, .inl hshown⟩
  by_cases hij : i = j
  · subst hij
    obtain rfl := Option.some.inj (hcall.symm.trans hother)
    rcases hkeep hunlocked hnewest hflight with hstays | hrefused | hasked'
    · exact .inr ⟨worker, hsettling.port, hsettling.isOpen, heventual,
        .inr ⟨i, _, hself, hnewest, hstays⟩⟩
    · exact .inl ⟨_, List.mem_of_getElem? hself, .inl hrefused⟩
    · exact .inr ⟨worker, hsettling.port, hsettling.isOpen, heventual,
        .inl (hsettling.eventual.trans hasked')⟩
  · exact .inr ⟨worker, hsettling.port, hsettling.isOpen, heventual,
      .inr ⟨j, other, (List.getElem?_set_ne hij).trans hother, hnewest, hflight⟩⟩

/-! ## The end of a session -/

theorem rejectCall_cases (error : AdminError) (call : SyncCall) :
    rejectCall error call = call ∨ (rejectCall error call).stage = .rejected error := by
  unfold rejectCall
  split
  · exact .inr rfl
  · exact .inl rfl

theorem handed_rejectCall (error : AdminError) (call : SyncCall) :
    (rejectCall error call).handed = call.handed :=
  congrArg (fun label => label.2.2) (label_rejectCall error call)

/-- A rejected call keeps its label, and asks for nothing it had not asked for. -/
theorem Tidy.handed_rejectCalls (h : w.Tidy) (error : AdminError) :
    ∀ call ∈ w.syncs.map (rejectCall error), ∀ current ∈ call.stage.asked, ∃ read,
      organizations current = some read ∧
        call.handed = some (read.1.map OrganizationView.id) := by
  intro other hother current hcurrent
  obtain ⟨call, hcall, rfl⟩ := List.mem_map.mp hother
  rcases rejectCall_cases error call with hsame | hrejected
  · rw [hsame] at hcurrent ⊢
    exact h.handed call hcall current hcurrent
  · rw [hrejected] at hcurrent
    cases hcurrent

theorem expectedEpoch_rejectCall (error : AdminError) (call : SyncCall) :
    (rejectCall error call).expectedEpoch = call.expectedEpoch :=
  congrArg Prod.fst (label_rejectCall error call)

/-- **A session that ends** takes its worker with it. -/
theorem Sound.leave (h : w.Sound) (hsyncs : w'.syncs = w.syncs.map (rejectCall .cancelled))
    (hsequence : w'.syncSequence = w.syncSequence) (hpublished : w'.published = w.published)
    (hepoch : w'.epoch = w.epoch + 1) (hport : w'.port = none)
    (hphase : w'.state.phase ≠ .unlocked) : w'.Sound := by
  have hlabels : w'.labels = w.labels := by
    refine Eq.trans ?_ (labels_rejectCalls .cancelled)
    exact congrArg (List.map SyncCall.label) hsyncs
  have hpast : ∀ call ∈ w'.syncs, call.expectedEpoch < w'.epoch := by
    rw [hsyncs, hepoch]
    intro other hother
    obtain ⟨call, hcall, rfl⟩ := List.mem_map.mp hother
    rw [expectedEpoch_rejectCall]
    exact Nat.lt_succ_of_le (h.past call hcall)
  refine ⟨⟨h.toOrdered.congr hlabels hsequence hpublished,
    fun call hcall => (hpast call hcall).le, fun _ => ⟨hport, hpast⟩, fun _ => hphase, ?_, ?_, ?_⟩,
    fun hunlocked => absurd hunlocked hphase⟩
  · rw [hsyncs]
    exact h.handed_rejectCalls .cancelled
  · rw [hport]
    exact fun worker hworker => absurd hworker (Option.not_mem_none worker)
  · rw [hport]
    exact fun worker hworker => absurd hworker (Option.not_mem_none worker)

theorem Sound.reset (h : w.Sound) {phase : Phase} (hphase : phase ≠ .unlocked) :
    (w.reset phase).Sound :=
  h.leave rfl rfl rfl rfl rfl hphase

theorem lock_phase (w : SyncClient PrivateKey Key) : w.lock.state.phase ≠ .unlocked := by
  unfold SyncClient.lock
  split
  · exact Phase.noConfusion
  · exact Phase.noConfusion

theorem Sound.lock (h : w.Sound) : w.lock.Sound := by
  have hphase := lock_phase w
  unfold SyncClient.lock at hphase ⊢
  split_ifs at hphase ⊢
  · exact h.reset hphase
  · exact h.leave rfl rfl rfl rfl rfl hphase

/-! ## The steps of a sync -/

theorem Sound.sync (h : w.Sound) : w.sync.Sound := by
  have hordered := h.toOrdered.sync
  unfold SyncClient.sync at hordered ⊢
  split_ifs at hordered ⊢ with hunlocked
  · have hmem : ∀ call ∈ w.sync.syncs, call ∈ w.syncs ∨
        (call.expectedEpoch = w.epoch ∧ call.stage = .profile) := by
      intro call hcall
      unfold SyncClient.sync at hcall
      rw [if_pos hunlocked] at hcall
      refine (List.mem_append.mp hcall).imp_right fun hnew => ?_
      rw [List.mem_singleton.mp hnew]
      exact ⟨rfl, rfl⟩
    unfold SyncClient.sync at hmem
    rw [if_pos hunlocked] at hmem
    refine ⟨⟨hordered, ?_, fun hphase => absurd hunlocked hphase, h.ended, ?_, h.numbered, ?_⟩, ?_⟩
    · intro call hcall
      rcases hmem call hcall with hold | ⟨hepoch, -⟩
      · exact h.past call hold
      · exact hepoch.le
    · intro call hcall current hcurrent
      rcases hmem call hcall with hold | ⟨-, hstage⟩
      · exact h.handed call hold current hcurrent
      · rw [hstage] at hcurrent
        cases hcurrent
    · intro worker hworker id organizations hqueued
      obtain ⟨call, hcall, hstage⟩ := h.callers worker hworker id organizations hqueued
      exact ⟨call, List.mem_append_left _ hcall, hstage⟩
    · intro _
      rcases h.agree hunlocked with ⟨call, hcall, hwhy⟩ | ⟨worker, hsettling⟩
      · exact .inl ⟨call, List.mem_append_left _ hcall, hwhy⟩
      · refine .inr ⟨worker, hsettling.port, hsettling.isOpen, ?_, .inr ?_⟩
        · refine hsettling.eventual.trans (congrArg (Option.getD · w.state.ids) ?_)
          unfold lastHanded
          rw [List.filterMap_append, List.filterMap_cons, if_pos rfl]
          exact congrArg List.getLast? (List.append_nil _).symm
        · exact ⟨w.syncs.length, _, List.getElem?_concat_length, ⟨rfl, rfl⟩, trivial⟩
  · exact h

/-- The newest sync of an unlocked session goes on, and no other one does. -/
theorem Tidy.stopped_iff (h : w.Tidy) (hunlocked : w.state.phase = .unlocked)
    (call : SyncCall) : w.Stopped call ↔ ¬ w.Newest call := by
  have hdisposed : w.disposed ≠ true := fun hdisposed => h.ended hdisposed hunlocked
  unfold Stopped Cancelled Newest
  rw [or_iff_left hdisposed, not_and_or, ne_comm]

theorem Tidy.newest_of_not_stopped (h : w.Tidy) {call : SyncCall} (hcall : call ∈ w.syncs)
    (hstopped : ¬ w.Stopped call) : w.state.phase = .unlocked ∧ w.Newest call := by
  have hunlocked : w.state.phase = .unlocked := by
    by_contra hphase
    exact hstopped (.inl (.inl ((h.elapsed hphase).2 call hcall).ne'))
  exact ⟨hunlocked, not_not.mp fun hne => hstopped ((h.stopped_iff hunlocked call).mpr hne)⟩

theorem Sound.afterProfile (h : w.Sound) {i : Nat} {call : SyncCall}
    (hcall : w.syncs[i]? = some call) (hstage : call.stage = .profile) (current : ProfileBody) :
    (w.afterProfile i call current).Sound := by
  have hidle : ¬ call.stage.Waiting := by
    rw [hstage]
    exact id
  have hcrypto : call.stage = .rejected .crypto → w.state.phase ≠ .unlocked := by
    rw [hstage]
    exact fun hrejected => by cases hrejected
  unfold SyncClient.afterProfile
  split_ifs with hstopped
  · exact h.setStage hcall hidle hcrypto rfl fun hunlocked hnewest _ =>
      absurd hnewest ((h.stopped_iff hunlocked call).mp hstopped)
  · exact h.setStage hcall hidle hcrypto rfl fun _ _ _ => .inl trivial

/-- **The newest sync asks the worker for its keys.** -/
theorem Sound.cryptoCall (h : w.Sound) {i : Nat} {call : SyncCall} {profile current : ProfileBody}
    (hcall : w.syncs[i]? = some call) (hstage : call.stage = .assurance profile)
    (hstopped : ¬ w.Stopped call) (verified : Bool)
    {read : List OrganizationView × List WrappedOrganization}
    (hread : organizations current = some read) :
    (w.cryptoCall i call current verified read.2).Sound := by
  have hordered := h.toOrdered.cryptoCall hcall current verified read.2
  have hidle : ¬ call.stage.Waiting := by
    rw [hstage]
    exact id
  have hcrypto : call.stage = .rejected .crypto → w.state.phase ≠ .unlocked := by
    rw [hstage]
    exact fun hrejected => by cases hrejected
  unfold SyncClient.cryptoCall at hordered ⊢
  cases hport : w.port with
  | none => exact h.setStage hcall hidle hcrypto rfl fun _ _ _ => .inr (.inl rfl)
  | some worker =>
    rw [hport] at hordered
    dsimp only at hordered ⊢
    by_cases hclosed : worker.closed = true
    · rw [if_pos hclosed]
      exact h.setStage hcall hidle hcrypto rfl fun _ _ _ => .inr (.inl rfl)
    rw [if_neg hclosed] at hordered ⊢
    obtain ⟨hunlocked, hnewest⟩ := h.newest_of_not_stopped (List.mem_of_getElem? hcall) hstopped
    have hids := organizations_ids hread
    have hlt : i < w.syncs.length := (List.getElem?_eq_some_iff.mp hcall).1
    refine ⟨⟨hordered, ?_, fun hphase => absurd hunlocked hphase, h.ended, ?_, ?_, ?_⟩, fun _ => ?_⟩
    · intro other hother
      rcases List.mem_or_eq_of_mem_set hother with hold | rfl
      · exact h.past other hold
      · exact hnewest.1.le
    · intro other hother asked hasked
      rcases List.mem_or_eq_of_mem_set hother with hold | rfl
      · exact h.handed other hold asked hasked
      · obtain rfl := Option.some.inj hasked
        exact ⟨read, hread, congrArg some hids.symm⟩
    · rintro _ ⟨rfl⟩
      exact (h.numbered worker hport).post _
    · rintro _ ⟨rfl⟩ id organizations hqueued
      rcases List.mem_append.mp hqueued with hold | hnew
      · obtain ⟨other, hother, asked, verified', hwaits⟩ :=
          h.callers worker hport id organizations hold
        refine ⟨other, mem_set_of_ne hcall hother ?_ _, asked, verified', hwaits⟩
        rintro rfl
        rw [hwaits] at hidle
        exact hidle trivial
      · obtain ⟨rfl, -⟩ := Prod.mk.inj (List.mem_singleton.mp hnew)
        exact ⟨_, List.mem_set hlt _, current, verified, rfl⟩
    · rcases h.agree hunlocked with hdoomed | ⟨held, hsettling⟩
      · have hcrypto' : call.stage ≠ .rejected .crypto := fun h => hcrypto h hunlocked
        obtain ⟨other, hother, hwhy⟩ :=
          hdoomed.set hcall hidle hcrypto' { call with
            stage := .called current verified (worker.nextId + 1)
            handed := some (read.2.map WrappedOrganization.id) }
        refine .inl ⟨other, hother, hwhy.imp_right ?_⟩
        rintro ⟨asked, verified', id, held, hwaits, hheld, hrefused⟩
        obtain rfl := Option.some.inj (hport.symm.trans hheld)
        exact ⟨asked, verified', id, _, hwaits, rfl, hrefused⟩
      · refine .inr ⟨_, rfl, Bool.eq_false_iff.mpr hclosed, ?_, .inr
          ⟨i, _, List.getElem?_set_self hlt, hnewest, trivial⟩⟩
        rw [CryptoWorker.eventual_post]
        rw [hordered.lastHanded_newest (List.getElem?_set_self hlt) hnewest rfl]
        rfl

/-- The worker has been asked for what is shown. -/
theorem lastHanded_of_not_diverted (h : ¬ w.Diverted) :
    w.lastHanded.getD w.state.ids = w.state.ids := by
  cases hlast : w.lastHanded with
  | none => rfl
  | some ids => exact not_not.mp fun hne => h ⟨ids, hlast, hne⟩

theorem Sound.afterAssurance (h : w.Sound) {i : Nat} {call : SyncCall} {current : ProfileBody}
    (hcall : w.syncs[i]? = some call) (hstage : call.stage = .assurance current) (verified : Bool)
    (hkeeps : w.Newest call → organizations current = none → ¬ w.Diverted) :
    (w.afterAssurance i call current verified).Sound := by
  have hidle : ¬ call.stage.Waiting := by
    rw [hstage]
    exact id
  have hcrypto : call.stage = .rejected .crypto → w.state.phase ≠ .unlocked := by
    rw [hstage]
    exact fun hrejected => by cases hrejected
  unfold SyncClient.afterAssurance
  by_cases hstopped : w.Stopped call
  · rw [if_pos hstopped]
    exact h.setStage hcall hidle hcrypto rfl fun hunlocked hnewest _ =>
      absurd hnewest ((h.stopped_iff hunlocked call).mp hstopped)
  · rw [if_neg hstopped]
    cases hread : organizations current with
    | none =>
      exact h.setStage hcall hidle hcrypto rfl fun _ hnewest _ =>
        .inr (.inr (lastHanded_of_not_diverted (hkeeps hnewest hread)))
    | some read => exact h.cryptoCall hcall hstage hstopped verified hread

/-- What a sync publishes. -/
theorem afterKeys_eq {i : Nat} {call : SyncCall} {current : ProfileBody}
    (hstopped : ¬ w.Stopped call) (verified : Bool)
    {read : List OrganizationView × List WrappedOrganization}
    (hread : organizations current = some read) :
    (w.setStage i call .done).syncs = (w.afterKeys i call current verified).syncs ∧
      (w.afterKeys i call current verified).port = w.port ∧
      (w.afterKeys i call current verified).epoch = w.epoch ∧
      (w.afterKeys i call current verified).disposed = w.disposed ∧
      (w.afterKeys i call current verified).syncSequence = w.syncSequence ∧
      (w.afterKeys i call current verified).state.phase = w.state.phase ∧
      (w.afterKeys i call current verified).state.organizations = read.1 := by
  unfold SyncClient.afterKeys
  rw [if_neg hstopped, hread]
  exact ⟨rfl, rfl, rfl, rfl, rfl, rfl, rfl⟩

/-- **The newest sync shows what it has asked the worker for.** -/
theorem Sound.afterKeys (h : w.Sound) {i : Nat} {call : SyncCall} {current : ProfileBody}
    {verified : Bool} (hcall : w.syncs[i]? = some call)
    (hstage : call.stage = .returned current verified) :
    (w.afterKeys i call current verified).Sound := by
  have hidle : ¬ call.stage.Waiting := by
    rw [hstage]
    exact id
  have hcrypto : call.stage ≠ .rejected .crypto := by
    rw [hstage]
    exact SyncStage.noConfusion
  have hmem := List.mem_of_getElem? hcall
  obtain ⟨read, hread, hhanded⟩ := h.handed call hmem current (by rw [hstage]; exact rfl)
  by_cases hstopped : w.Stopped call
  · unfold SyncClient.afterKeys
    rw [if_pos hstopped]
    exact h.setStage hcall hidle (fun hrejected => absurd hrejected hcrypto) rfl
      fun hunlocked hnewest _ => absurd hnewest ((h.stopped_iff hunlocked call).mp hstopped)
  obtain ⟨hunlocked, hnewest⟩ := h.newest_of_not_stopped hmem hstopped
  have hordered := h.toOrdered.afterKeys hcall current verified
  obtain ⟨hsyncs, hport, hepoch, hdisposed, hsequence, hphase, horganizations⟩ :=
    afterKeys_eq (w := w) (i := i) hstopped verified hread
  generalize w.afterKeys i call current verified = w' at *
  have hshown : w'.state.ids = read.1.map OrganizationView.id :=
    congrArg (List.map OrganizationView.id) horganizations
  have hlast : w'.lastHanded = w.lastHanded := by
    refine lastHanded_congr ?_ hepoch
    rw [← labels_setStage hcall .done]
    exact congrArg (List.map SyncCall.label) hsyncs.symm
  have htidy : (w.setStage i call .done).Tidy := h.toTidy.setStage hcall hidle rfl
  have hsame : (w.setStage i call .done).SameSyncs { w' with published := w.published } :=
    ⟨hsyncs.symm, hsequence, rfl, hepoch, hport, hdisposed, hphase⟩
  refine ⟨?_, fun _ => ?_⟩
  · have hrest := htidy.congr hsame (htidy.toOrdered.congr
      (congrArg (List.map SyncCall.label) hsyncs.symm) hsequence rfl)
    exact ⟨hordered, hrest.past, hrest.elapsed, hrest.ended, hrest.handed, hrest.numbered,
      hrest.callers⟩
  · rcases h.agree hunlocked with hdoomed | ⟨worker, hsettling⟩
    · left
      have hdoomed' : (w.setStage i call .done).Doomed := hdoomed.set hcall hidle hcrypto _
      unfold Doomed at hdoomed' ⊢
      rw [← hsyncs, hport]
      exact hdoomed'
    · have heventual : worker.eventual = w'.state.ids := by
        rw [hsettling.eventual, h.toOrdered.lastHanded_newest hcall hnewest hhanded, hshown]
        rfl
      refine .inr ⟨worker, hport.trans hsettling.port, hsettling.isOpen, ?_, .inl heventual⟩
      rw [hlast, heventual, h.toOrdered.lastHanded_newest hcall hnewest hhanded, hshown]
      rfl

theorem Sound.turn (h : w.Sound) {i : Nat} {call : SyncCall} (hcall : w.syncs[i]? = some call) :
    (w.turn i call).Sound := by
  unfold SyncClient.turn
  split
  · rename_i hstage
    exact h.afterKeys hcall hstage
  · rename_i error hstage
    have hidle : ¬ call.stage.Waiting := by
      rw [hstage]
      exact id
    split_ifs with herror
    · exact h.lock.setStage (lock_getElem? hcall hidle) hidle (fun _ => lock_phase w) rfl
        fun hunlocked => absurd hunlocked (lock_phase w)
    · refine h.setStage hcall hidle (fun hrejected => ?_) rfl fun _ _ hflight => ?_
      · rw [hstage] at hrejected
        exact absurd (SyncStage.rejected.inj hrejected) herror
      · rw [hstage] at hflight
        exact hflight.elim
  · exact h

theorem Sound.fails (h : w.Sound) {i : Nat} {call : SyncCall} {expired : Bool}
    (hcall : w.syncs[i]? = some call)
    (hkeeps : expired = false → w.Newest call → call.stage.Fetching → ¬ w.Diverted) :
    (w.fails i call expired).Sound := by
  have hdone (hfetching : call.stage.Fetching) (hidle : ¬ call.stage.Waiting)
      (hcrypto : call.stage ≠ .rejected .crypto) :
      ((if expired then w.reset .expired else w).setStage i call .done).Sound := by
    cases expired with
    | true =>
      exact (h.reset Phase.noConfusion).setStage (reset_getElem? hcall hidle _) hidle
        (fun hrejected => absurd hrejected hcrypto) rfl fun hunlocked => by cases hunlocked
    | false =>
      exact h.setStage hcall hidle (fun hrejected => absurd hrejected hcrypto) rfl
        fun _ hnewest _ => .inr (.inr (lastHanded_of_not_diverted
          (hkeeps rfl hnewest hfetching)))
  unfold SyncClient.fails
  split
  · rename_i hstage
    rw [hstage] at hdone
    exact hdone trivial id SyncStage.noConfusion
  · rename_i hstage
    rw [hstage] at hdone
    exact hdone trivial id SyncStage.noConfusion
  · exact h

/-! ## The steps of the worker -/

/-- **The worker takes a message.** One that fails dooms the session of the sync that asked. -/
theorem Sound.work (h : w.Sound) (unwrapRsa : PrivateKey → JsString → Option Key) :
    (w.work unwrapRsa).Sound := by
  have hworker : ∀ worker ∈ (w.work unwrapRsa).port, ∃ old ∈ w.port,
      worker = old.work unwrapRsa := fun worker hworker => by
    obtain ⟨old, hold, rfl⟩ := Option.map_eq_some_iff.mp hworker
    exact ⟨old, hold, rfl⟩
  refine ⟨⟨h.toOrdered.congr rfl rfl rfl, h.past, fun hphase => ?_, h.ended, h.handed, ?_, ?_⟩,
    fun hunlocked => ?_⟩
  · obtain ⟨hport, helapsed⟩ := h.elapsed hphase
    exact ⟨congrArg (Option.map _) hport, helapsed⟩
  · intro worker hmem
    obtain ⟨old, hold, rfl⟩ := hworker worker hmem
    exact (h.numbered old hold).work unwrapRsa
  · intro worker hmem id organizations hqueued
    obtain ⟨old, hold, rfl⟩ := hworker worker hmem
    refine h.callers old hold id organizations ?_
    rcases old.work_cases unwrapRsa with hsame | ⟨_, _, queue, _, hqueue, -, -, hqueue', -⟩
    · rwa [hsame] at hqueued
    · rw [hqueue'] at hqueued
      rw [hqueue]
      exact List.mem_cons_of_mem _ hqueued
  · rcases h.agree hunlocked with ⟨call, hcall, hwhy⟩ | ⟨worker, hsettling⟩
    · refine .inl ⟨call, hcall, hwhy.imp_right ?_⟩
      rintro ⟨current, verified, id, worker, hstage, hport, hrefused⟩
      refine ⟨current, verified, id, _, hstage, congrArg (Option.map _) hport, ?_⟩
      rcases worker.work_cases unwrapRsa with hsame | ⟨_, _, _, _, -, -, -, -, hreplies, -⟩
      · rwa [hsame]
      · rw [hreplies]
        exact List.mem_append_left _ hrefused
    · have hport : (w.work unwrapRsa).port = some (worker.work unwrapRsa) :=
        congrArg (Option.map _) hsettling.port
      rcases worker.work_cases unwrapRsa with
        hsame | ⟨id, command, queue, ok, hqueue, hclosed, -, -, hreplies, heventual⟩
      · rw [hsame] at hport
        exact .inr ⟨worker, hport, hsettling.isOpen, hsettling.eventual, hsettling.trying⟩
      by_cases hkeeps : ok = true ∨ CryptoWorker.asked command = none
      · have heq := heventual hkeeps
        refine .inr ⟨_, hport, hclosed.trans hsettling.isOpen, heq.trans hsettling.eventual, ?_⟩
        rw [heq]
        exact hsettling.trying
      · left
        rw [not_or, Bool.not_eq_true] at hkeeps
        obtain ⟨rfl, hasked⟩ := hkeeps
        cases command with
        | operation ok => exact absurd rfl hasked
        | organizations organizations =>
          obtain ⟨call, hcall, current, verified, hstage⟩ :=
            h.callers worker hsettling.port id organizations
              (by rw [hqueue]; exact List.mem_cons_self)
          refine ⟨call, hcall, .inr ⟨current, verified, id, _, hstage, hport, ?_⟩⟩
          rw [hreplies]
          exact List.mem_append_right _ (List.mem_singleton_self _)

/-- What an answer leaves of a call. -/
theorem settle_cases (id : Nat) (ok : Bool) (call : SyncCall) :
    (settle id ok call = call ∧ ∀ current verified, call.stage ≠ .called current verified id) ∨
      ∃ current verified, call.stage = .called current verified id ∧ (settle id ok call).stage =
        if ok then .returned current verified else .rejected .crypto := by
  unfold settle
  split
  · rename_i current verified id' hstage
    by_cases hid : id' = id
    · subst hid
      rw [if_pos rfl]
      exact .inr ⟨current, verified, hstage, rfl⟩
    · rw [if_neg hid]
      refine .inl ⟨rfl, fun _ _ hsame => hid ?_⟩
      rw [hstage] at hsame
      exact (SyncStage.called.inj hsame).2.2
  · rename_i hother
    exact .inl ⟨rfl, fun current verified => hother current verified id⟩

theorem expectedEpoch_settle (id : Nat) (ok : Bool) (call : SyncCall) :
    (settle id ok call).expectedEpoch = call.expectedEpoch :=
  congrArg Prod.fst (label_settle id ok call)

theorem expectedSync_settle (id : Nat) (ok : Bool) (call : SyncCall) :
    (settle id ok call).expectedSync = call.expectedSync :=
  congrArg (fun label => label.2.1) (label_settle id ok call)

theorem handed_settle (id : Nat) (ok : Bool) (call : SyncCall) :
    (settle id ok call).handed = call.handed :=
  congrArg (fun label => label.2.2) (label_settle id ok call)

/-- **An answer arrives.** A sync that waited for it can publish, or will lock. -/
theorem Sound.answer (h : w.Sound) : w.answer.Sound := by
  have hordered : w.answer.Ordered := h.toOrdered.answer
  unfold SyncClient.answer at hordered ⊢
  cases hport : w.port with
  | none => exact h
  | some worker =>
    rw [hport] at hordered
    dsimp only at hordered ⊢
    cases hreplies : worker.replies with
    | nil => exact h
    | cons reply replies =>
      rw [hreplies] at hordered
      obtain ⟨id, ok⟩ := reply
      dsimp only at hordered ⊢
      obtain ⟨hnumbered, hid⟩ := (h.numbered worker hport).answer hreplies
      refine ⟨⟨hordered, ?_, fun hphase => ?_, h.ended, ?_, ?_, ?_⟩, fun hunlocked => ?_⟩
      · intro other hother
        obtain ⟨call, hcall, rfl⟩ := List.mem_map.mp hother
        rw [expectedEpoch_settle]
        exact h.past call hcall
      · rw [(h.elapsed hphase).1] at hport
        cases hport
      · intro other hother current hcurrent
        obtain ⟨call, hcall, rfl⟩ := List.mem_map.mp hother
        rw [handed_settle]
        refine h.handed call hcall current ?_
        rcases settle_cases id ok call with ⟨hsame, -⟩ | ⟨asked, verified, hstage, hsettled⟩
        · rwa [hsame] at hcurrent
        · rw [hsettled] at hcurrent
          rw [hstage]
          cases ok with
          | true => exact hcurrent
          | false => cases hcurrent
      · rintro _ ⟨rfl⟩
        exact hnumbered
      · rintro _ ⟨rfl⟩ id' organizations hqueued
        obtain ⟨call, hcall, current, verified, hstage⟩ :=
          h.callers worker hport id' organizations hqueued
        refine ⟨_, List.mem_map_of_mem hcall, current, verified, ?_⟩
        rcases settle_cases id ok call with ⟨hsame, -⟩ | ⟨_, _, hwaits, -⟩
        · rw [hsame]
          exact hstage
        · rw [hstage] at hwaits
          obtain ⟨-, -, rfl⟩ := SyncStage.called.inj hwaits
          exact absurd (List.mem_append_right _ (List.mem_map_of_mem hqueued)) hid
      · rcases h.agree hunlocked with ⟨call, hcall, hwhy⟩ | ⟨held, hsettling⟩
        · refine .inl ⟨_, List.mem_map_of_mem hcall, ?_⟩
          rcases hwhy with hrejected | ⟨current, verified, id', held, hwaits, hheld, hrefused⟩
          · left
            rcases settle_cases id ok call with ⟨hsame, -⟩ | ⟨_, _, hwaits, -⟩
            · rw [hsame]
              exact hrejected
            · rw [hrejected] at hwaits
              cases hwaits
          · obtain rfl := Option.some.inj (hport.symm.trans hheld)
            rw [hreplies] at hrefused
            rcases List.mem_cons.mp hrefused with hnow | hlater
            · obtain ⟨rfl, rfl⟩ := Prod.mk.inj hnow
              left
              rcases settle_cases id' false call with ⟨-, hnot⟩ | ⟨_, _, -, hsettled⟩
              · exact absurd hwaits (hnot current verified)
              · exact hsettled
            · right
              refine ⟨current, verified, id', _, ?_, rfl, hlater⟩
              rcases settle_cases id ok call with ⟨hsame, -⟩ | ⟨_, _, hwaits', -⟩
              · rw [hsame]
                exact hwaits
              · rw [hwaits] at hwaits'
                obtain ⟨-, -, rfl⟩ := SyncStage.called.inj hwaits'
                exact absurd (List.mem_append_left _ (List.mem_map_of_mem hlater)) hid
        · obtain rfl := Option.some.inj (hport.symm.trans hsettling.port)
          have hlabels : (w.syncs.map (settle id ok)).map SyncCall.label = w.labels := by
            rw [List.map_map]
            exact List.map_congr_left fun call _ => label_settle id ok call
          have hlast : SyncClient.lastHanded { w with
              port := some { worker with replies := replies }
              syncs := w.syncs.map (settle id ok) } = w.lastHanded :=
            lastHanded_congr hlabels rfl
          have heventual : worker.eventual = (SyncClient.lastHanded { w with
              port := some { worker with replies := replies }
              syncs := w.syncs.map (settle id ok) }).getD w.state.ids := by
            rw [hlast]
            exact hsettling.eventual
          rcases hsettling.trying with hshown | ⟨i, call, hcall, hnewest, hflight⟩
          · exact .inr ⟨_, rfl, hsettling.isOpen, heventual, .inl hshown⟩
          have hsettled : (w.syncs.map (settle id ok))[i]? = some (settle id ok call) := by
            rw [List.getElem?_map, hcall]
            rfl
          rcases settle_cases id ok call with ⟨hsame, -⟩ | ⟨current, verified, hwaits, hstage⟩
          · rw [hsame] at hsettled
            exact .inr ⟨_, rfl, hsettling.isOpen, heventual,
              .inr ⟨i, call, hsettled, hnewest, hflight⟩⟩
          cases ok with
          | true =>
            refine .inr ⟨_, rfl, hsettling.isOpen, heventual, .inr ⟨i, _, hsettled, ?_, ?_⟩⟩
            · unfold Newest
              rw [expectedEpoch_settle, expectedSync_settle]
              exact hnewest
            · rw [hstage]
              trivial
          | false => exact .inl ⟨_, List.mem_of_getElem? hsettled, .inl hstage⟩

/-- **The worker dies** under a sync that waits for it, and dooms the session. -/
theorem Sound.die (h : w.Sound) (hwaiting : ∃ call ∈ w.syncs, call.stage.Waiting) :
    w.die.Sound := by
  refine ⟨⟨h.toOrdered.congr (labels_rejectCalls .crypto) rfl rfl, ?_, fun hphase => ?_, h.ended,
    h.handed_rejectCalls .crypto, ?_, ?_⟩, fun _ => .inl ?_⟩
  · intro other hother
    obtain ⟨call, hcall, rfl⟩ := List.mem_map.mp hother
    rw [expectedEpoch_rejectCall]
    exact h.past call hcall
  · obtain ⟨hport, helapsed⟩ := h.elapsed hphase
    refine ⟨congrArg (Option.map _) hport, fun other hother => ?_⟩
    obtain ⟨call, hcall, rfl⟩ := List.mem_map.mp hother
    rw [expectedEpoch_rejectCall]
    exact helapsed call hcall
  · intro worker hworker
    obtain ⟨old, -, rfl⟩ := Option.map_eq_some_iff.mp hworker
    exact ⟨List.nodup_nil, List.forall_mem_nil _⟩
  · intro worker hworker id organizations hqueued
    obtain ⟨old, -, rfl⟩ := Option.map_eq_some_iff.mp hworker
    exact absurd hqueued List.not_mem_nil
  · obtain ⟨call, hcall, hwaits⟩ := hwaiting
    refine ⟨_, List.mem_map_of_mem hcall, .inl ?_⟩
    unfold rejectCall
    split
    · rfl
    · rename_i hother
      cases hstage : call.stage with
      | called current verified id => exact absurd hstage (hother current verified id)
      | profile | assurance | returned | rejected | done =>
        rw [hstage] at hwaits
        exact hwaits.elim

/-- Another method leaves the organizations to the syncs. -/
theorem Sound.operation (h : w.Sound) (ok : Bool) : (w.operation ok).Sound := by
  have hworker : ∀ worker ∈ w.port, worker.closed = false →
      (w.operation ok).port = some (worker.post (.operation ok)) := fun worker hport hopen => by
    unfold SyncClient.operation
    dsimp only
    rw [hport, Option.map_some, hopen]
    rw [if_neg Bool.false_ne_true]
  have hold : ∀ worker ∈ (w.operation ok).port, ∃ old ∈ w.port,
      worker = old ∨ worker = old.post (.operation ok) := fun worker hworker => by
    obtain ⟨old, hold, rfl⟩ := Option.map_eq_some_iff.mp hworker
    refine ⟨old, hold, ?_⟩
    split_ifs
    · exact .inl rfl
    · exact .inr rfl
  refine ⟨⟨h.toOrdered.congr rfl rfl rfl, h.past, fun hphase => ?_, h.ended, h.handed, ?_, ?_⟩,
    fun hunlocked => ?_⟩
  · obtain ⟨hport, helapsed⟩ := h.elapsed hphase
    exact ⟨congrArg (Option.map _) hport, helapsed⟩
  · intro worker hmem
    obtain ⟨old, hport, rfl | rfl⟩ := hold worker hmem
    · exact h.numbered _ hport
    · exact (h.numbered _ hport).post _
  · intro worker hmem id organizations hqueued
    obtain ⟨old, hport, rfl | rfl⟩ := hold worker hmem
    · exact h.callers _ hport id organizations hqueued
    · refine h.callers _ hport id organizations ?_
      rcases List.mem_append.mp hqueued with hbefore | hnew
      · exact hbefore
      · cases (Prod.mk.inj (List.mem_singleton.mp hnew)).2
  · rcases h.agree hunlocked with ⟨call, hcall, hwhy⟩ | ⟨worker, hsettling⟩
    · refine .inl ⟨call, hcall, hwhy.imp_right ?_⟩
      rintro ⟨current, verified, id, worker, hstage, hport, hrefused⟩
      cases hclosed : worker.closed with
      | true =>
        refine ⟨current, verified, id, worker, hstage, ?_, hrefused⟩
        unfold SyncClient.operation
        dsimp only
        rw [hport, Option.map_some, hclosed, if_pos rfl]
      | false => exact ⟨current, verified, id, _, hstage, hworker worker hport hclosed, hrefused⟩
    · have heq : (worker.post (.operation ok)).eventual = worker.eventual :=
        CryptoWorker.eventual_post _
      refine .inr ⟨_, hworker worker hsettling.port hsettling.isOpen, hsettling.isOpen, ?_, ?_⟩
      · rw [heq]
        exact hsettling.eventual
      · rw [heq]
        exact hsettling.trying

/-! ## Sessions -/

/-- **A session begins** with the keys of the organizations it shows. -/
theorem Sound.signIn (h : w.Sound) (unwrapRsa : PrivateKey → JsString → Option Key)
    (privateKey : PrivateKey) (current : ProfileBody) (verified : Bool) :
    (w.signIn unwrapRsa privateKey current verified).Sound := by
  unfold SyncClient.signIn
  split_ifs with hphase
  · obtain ⟨hphase, hdisposed⟩ := hphase
    cases hread : organizations current with
    | none => exact h
    | some read =>
      dsimp only
      split_ifs with hunlocked
      · have hnone : w.lastHanded = none := by
          have hempty : (w.syncs.filterMap fun call =>
              if call.expectedEpoch = w.epoch then call.handed else none) = [] :=
            List.filterMap_eq_nil_iff.mpr fun call hcall =>
              if_neg ((h.elapsed hphase).2 call hcall).ne
          unfold lastHanded
          rw [hempty]
          rfl
        refine ⟨⟨h.toOrdered.congr rfl rfl rfl, h.past, fun hne => absurd rfl hne,
          fun hended => ?_, h.handed, ?_, ?_⟩, fun _ => .inr ?_⟩
        · rw [hdisposed] at hended
          cases hended
        · rintro _ ⟨rfl⟩
          exact ⟨List.nodup_nil, List.forall_mem_nil _⟩
        · rintro _ ⟨rfl⟩ id organizations hqueued
          cases hqueued
        · have hids := (Keyring.unlock_ids hunlocked).trans (organizations_ids hread).symm
          exact ⟨_, rfl, rfl, hids.trans (congrArg (Option.getD · _) hnone).symm, .inl hids⟩
      · exact h
  · exact h

/-- **Every event keeps the invariant**, unless the newest sync fails over other keys than are
shown, or the worker dies on its own. -/
theorem Sound.exec (h : w.Sound) (unwrapRsa : PrivateKey → JsString → Option Key)
    {event : SyncEvent PrivateKey} (hkeeps : event.KeepsKeys w) :
    (event.exec unwrapRsa w).Sound := by
  cases event with
  | sync => exact h.sync
  | profile i current =>
    dsimp only [SyncEvent.exec]
    split
    · exact h
    · rename_i call hcall
      split_ifs with hstage
      · exact h.afterProfile hcall hstage current
      · exact h
  | assurance i verified =>
    dsimp only [SyncEvent.exec]
    split
    · exact h
    · rename_i call hcall
      split
      · rename_i current hstage
        refine h.afterAssurance hcall hstage verified fun hnewest hnone => hkeeps ?_
        refine ⟨call, hcall, hnewest, ?_⟩
        rw [hstage]
        exact hnone
      · exact h
  | fails i expired =>
    dsimp only [SyncEvent.exec]
    split
    · exact h
    · rename_i call hcall
      exact h.fails hcall fun hexpired hnewest hfetching =>
        hkeeps ⟨hexpired, call, hcall, hnewest, hfetching⟩
  | work => exact h.work unwrapRsa
  | answer => exact h.answer
  | turn i =>
    dsimp only [SyncEvent.exec]
    split
    · exact h
    · rename_i call hcall
      exact h.turn hcall
  | die => exact h.die hkeeps
  | operation ok => exact h.operation ok
  | emailVerificationRead verified => exact h.congr ⟨rfl, rfl, rfl, rfl, rfl, rfl, rfl⟩ rfl
  | mfa required => exact h.congr ⟨rfl, rfl, rfl, rfl, rfl, rfl, rfl⟩ rfl
  | lock => exact h.lock
  | reset expired =>
    refine h.reset ?_
    split_ifs
    · exact Phase.noConfusion
    · exact Phase.noConfusion
  | dispose =>
    exact h.leave rfl rfl rfl rfl rfl Phase.noConfusion
  | signIn privateKey current verified => exact h.signIn unwrapRsa privateKey current verified

end SyncClient

end HonoWarden
