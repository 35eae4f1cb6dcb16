import HonoWarden.AdminClient.Client

/-!
# Refresh tokens of the admin client

`ensureToken` keeps the refresh in flight in one variable, `refresh`, and whoever needs a token
meanwhile waits for it. A token that has been presented is replaced by the `then` of its refresh,
or thrown away by its `catch`, both under the epoch the refresh began in. `lock` is the one place
that ends the epoch and keeps the tokens: while the refresh is in flight it leaves a token behind
that the server has seen, and the unlock after it presents the token again.

Results:
* `AdminClient.Single`: a stored token that has been presented has its refresh in flight;
* `AdminClient.Single.exec`: every turn keeps it, unless it locks while the stored token is being
  refreshed;
* **`refresh_tokens_presented_once`**: in a run without such a lock no refresh token is presented
  twice;
* `refresh_token_replayed`: a page that is hidden during a refresh, and shown and unlocked again.
-/

namespace HonoWarden

open Relational

namespace AdminClient

/-! ## The condition -/

/-- No refresh presents the token the session would keep. -/
def RefreshIdle (w : AdminClient) : Prop :=
  ∀ tokens ∈ w.tokens, w.profile.isSome → ∀ promise ∈ w.refresh,
    ∀ refresh ∈ w.refreshes[promise]?, refresh.token ≠ tokens.refresh

instance (w : AdminClient) : Decidable w.RefreshIdle :=
  inferInstanceAs (Decidable (∀ tokens ∈ w.tokens, w.profile.isSome → ∀ promise ∈ w.refresh,
    ∀ refresh ∈ w.refreshes[promise]?, refresh.token ≠ tokens.refresh))

/-- The next turn of the task is the `lock` in the `catch` of `sync`. -/
def SyncLocks (w : AdminClient) (id : TaskId) : Prop :=
  ∃ task ∈ w.tasks[id]?, task.wait = .failed .crypto ∧ task.catches.head? = some .sync

instance (w : AdminClient) (id : TaskId) : Decidable (w.SyncLocks id) :=
  inferInstanceAs (Decidable (∃ task ∈ w.tasks[id]?,
    task.wait = .failed .crypto ∧ task.catches.head? = some .sync))

/-! ## The invariant -/

/-- No token has been presented twice; a stored token that has been presented is being refreshed,
under the current epoch and not yet at its `finally`; and what is unsettled in this epoch is the
promise in `refresh`. -/
structure Single (w : AdminClient) (issued : List String) : Prop where
  once : w.sent.Nodup
  known : ∀ token ∈ w.sent, token ∈ issued
  stored : ∀ tokens, w.tokens = some tokens → tokens.refresh ∈ issued
  flying : ∀ tokens, w.tokens = some tokens → tokens.refresh ∈ w.sent →
    ∃ id promise, w.refresh = some id ∧ w.refreshes[id]? = some promise ∧
      promise.token = tokens.refresh ∧ promise.expected = w.epoch ∧
      (promise.stage = .request ∨ promise.stage = .thenInstall ∨ promise.stage = .catchReset)
  unsettled : ∀ id promise, w.refreshes[id]? = some promise → promise.expected ≤ w.epoch ∧
    (promise.expected = w.epoch → (∀ fulfilled, promise.stage ≠ .settled fulfilled) →
      w.refresh = some id)

/-- What the invariant reads. -/
def tokenView (w : AdminClient) :
    Nat × Option AdminTokens × Option RefreshId × List RefreshPromise × List String :=
  (w.epoch, w.tokens, w.refresh, w.refreshes, w.sent)

namespace Single

variable {w w' : AdminClient} {issued : List String}

theorem congr (h : w.Single issued) (hview : w'.tokenView = w.tokenView) : w'.Single issued := by
  simp only [tokenView, Prod.mk.injEq] at hview
  obtain ⟨hepoch, htokens, hrefresh, hrefreshes, hsent⟩ := hview
  constructor
  · rw [hsent]
    exact h.once
  · rw [hsent]
    exact h.known
  · rw [htokens]
    exact h.stored
  · rw [htokens, hsent, hrefresh, hrefreshes, hepoch]
    exact h.flying
  · rw [hrefreshes, hepoch, hrefresh]
    exact h.unsettled

theorem more (h : w.Single issued) {issued' : List String} (hsub : ∀ x ∈ issued, x ∈ issued') :
    w.Single issued' :=
  ⟨h.once, fun x hx => hsub x (h.known x hx), fun t ht => hsub _ (h.stored t ht), h.flying,
    h.unsettled⟩

/-- A new epoch whose stored token was not presented. -/
theorem epoch (h : w.Single issued) (hepoch : w'.epoch = w.epoch + 1)
    (hrefreshes : w'.refreshes = w.refreshes) (hsent : w'.sent = w.sent)
    (htokens : ∀ tokens, w'.tokens = some tokens → w.tokens = some tokens ∧
      tokens.refresh ∉ w.sent) : w'.Single issued where
  once := by
    rw [hsent]
    exact h.once
  known := by
    rw [hsent]
    exact h.known
  stored := fun tokens ht => h.stored tokens (htokens tokens ht).1
  flying := by
    intro tokens ht hmem
    rw [hsent] at hmem
    exact absurd hmem (htokens tokens ht).2
  unsettled := by
    intro id promise hpromise
    rw [hrefreshes] at hpromise
    have hold := (h.unsettled id promise hpromise).1
    rw [hepoch]
    exact ⟨by omega, fun heq => absurd heq (by omega)⟩

theorem disposePort_view (w : AdminClient) (port : Option PortId) :
    (w.disposePort port).tokenView = w.tokenView := by
  cases port <;> rfl

theorem stopCrypto_view (w : AdminClient) : w.stopCrypto.tokenView = w.tokenView :=
  disposePort_view w w.port

theorem reset (h : w.Single issued) (phase : Phase) : (w.reset phase).Single issued := by
  have hview := stopCrypto_view w
  simp only [tokenView, Prod.mk.injEq] at hview
  exact h.epoch rfl hview.2.2.2.1 hview.2.2.2.2 (by simp [AdminClient.reset])

theorem publish (h : w.Single issued) (next : SessionView) : (w.publish next).Single issued :=
  h.congr rfl

/-- **The lock keeps a token that was not presented.** -/
theorem lock (h : w.Single issued) (hidle : w.RefreshIdle) : w.lock.Single issued := by
  unfold AdminClient.lock
  by_cases hnone : w.tokens = none ∨ w.profile = none
  · rw [if_pos hnone]
    exact h.reset _
  · rw [if_neg hnone]
    push Not at hnone
    have hview := stopCrypto_view w
    simp only [tokenView, Prod.mk.injEq] at hview
    refine h.epoch rfl hview.2.2.2.1 hview.2.2.2.2 fun tokens ht => ?_
    have ht : w.tokens = some tokens := hview.2.1.symm.trans ht
    refine ⟨ht, fun hsent => ?_⟩
    obtain ⟨id, promise, hrefresh, hpromise, htoken, -⟩ := h.flying tokens ht hsent
    exact hidle tokens ht (Option.isSome_iff_ne_none.mpr hnone.2) id hrefresh promise hpromise
      htoken

/-- A token that has just been issued is stored. -/
theorem installTokens (h : w.Single issued) {now : Nat} {answer : Option TokenAnswer}
    (hinstall : w.installTokens now answer = some w')
    (hnew : ∀ a ∈ answer, a.refreshToken ∈ issued ∧ a.refreshToken ∉ w.sent) :
    w'.Single issued := by
  obtain ⟨a, rfl, hsome⟩ := Option.bind_eq_some_iff.mp hinstall
  obtain ⟨hissued, hunsent⟩ := hnew a rfl
  split at hsome
  · obtain rfl := Option.some.inj hsome
    refine ⟨h.once, h.known, fun tokens ht => ?_, fun tokens ht hmem => ?_, h.unsettled⟩
    · obtain rfl := Option.some.inj ht
      exact hissued
    · obtain rfl := Option.some.inj ht
      exact absurd hmem hunsent
  · cases hsome

theorem installTokens_sent {now : Nat} {answer : Option TokenAnswer}
    (hinstall : w.installTokens now answer = some w') : w'.sent = w.sent := by
  obtain ⟨a, -, hsome⟩ := Option.bind_eq_some_iff.mp hinstall
  split at hsome
  · obtain rfl := Option.some.inj hsome
    rfl
  · cases hsome

/-- **A refresh begins when none is in flight, so its token was not presented.** -/
theorem ensureToken (h : w.Single issued) (now : Nat) (id : TaskId) (task : Task)
    (rest : List Act) : (w.ensureToken now id task rest).Single issued := by
  unfold AdminClient.ensureToken
  split
  · exact h.congr rfl
  rename_i tokens htokens
  split
  · exact h.congr rfl
  split
  · exact h.congr rfl
  rename_i hnone
  have hunsent : tokens.refresh ∉ w.sent := by
    intro hsent
    obtain ⟨_, _, hrefresh, -⟩ := h.flying tokens htokens hsent
    rw [hnone] at hrefresh
    cases hrefresh
  constructor
  · refine List.nodup_append.mpr ⟨h.once, List.nodup_singleton _, ?_⟩
    rintro x hx y hy rfl
    rw [List.mem_singleton.mp hy] at hx
    exact hunsent hx
  · intro token hmem
    rcases List.mem_append.mp hmem with hold | hnow
    · exact h.known token hold
    · rw [List.mem_singleton.mp hnow]
      exact h.stored tokens htokens
  · exact h.stored
  · intro tokens' htokens' _
    obtain rfl := Option.some.inj (htokens.symm.trans htokens')
    exact ⟨_, _, rfl, List.getElem?_concat_length, rfl, rfl, .inl rfl⟩
  · intro id' promise hpromise
    change (w.refreshes ++ [_])[id']? = some promise at hpromise
    rw [List.getElem?_append] at hpromise
    split at hpromise
    · obtain ⟨hle, hcurrent⟩ := h.unsettled id' promise hpromise
      refine ⟨hle, fun heq hopen => ?_⟩
      have hsome := hcurrent heq hopen
      rw [hnone] at hsome
      cases hsome
    · rename_i hlen
      obtain ⟨hlt, -⟩ := List.getElem?_eq_some_iff.mp hpromise
      have hid : id' = w.refreshes.length :=
        Nat.le_antisymm (Nat.sub_eq_zero_iff_le.mp (Nat.lt_one_iff.mp hlt)) (Nat.not_lt.mp hlen)
      subst hid
      simp only [Nat.sub_self, List.getElem?_cons_zero, Option.some.injEq] at hpromise
      subst hpromise
      exact ⟨le_rfl, fun _ _ => rfl⟩

/-- The handlers that do not lock, and the one that does. -/
theorem handle (h : w.Single issued) (task : Task) (error : AdminError) (handler : Catch)
    (hlock : handler = .sync → error = .crypto → w.RefreshIdle) :
    (w.handle task error handler).1.Single issued := by
  have hstop : w.stopCrypto.Single issued := h.congr (stopCrypto_view w)
  cases handler with
  | authorized =>
    dsimp only [AdminClient.handle]
    split
    · exact h.reset _
    · exact h
  | sync =>
    dsimp only [AdminClient.handle]
    split
    · rename_i hcrypto
      exact h.lock (hlock rfl hcrypto)
    · exact h
  | loginToken =>
    dsimp only [AdminClient.handle]
    split
    · exact h.congr rfl
    · exact h
  | login =>
    dsimp only [AdminClient.handle]
    split
    · exact ⟨hstop.once, hstop.known, by simp, by simp, hstop.unsettled⟩
    · exact h
  | verifyTotp current =>
    dsimp only [AdminClient.handle]
    split
    · exact h.reset _
    · exact h
  | unlock =>
    dsimp only [AdminClient.handle]
    split
    · exact hstop
    · exact h
  | register =>
    dsimp only [AdminClient.handle]
    split
    · exact hstop.congr rfl
    · exact h

theorem complete (h : w.Single issued) (id : TaskId) (task : Task) :
    (w.complete id task).Single issued := by
  have hdone : (w.setTask id { task with rest := [], wait := .done }).Single issued := h.congr rfl
  unfold AdminClient.complete
  split
  · exact hdone.handle task .other .register (by simp)
  · exact hdone

theorem cryptoCall (h : w.Single issued) (id : TaskId) (task : Task) (rest : List Act)
    (action : CryptoAction) : (w.cryptoCall id task rest action).Single issued := by
  unfold AdminClient.cryptoCall
  split
  · exact h.congr rfl
  · split <;> exact h.congr rfl

/-- **The acts of a turn**, where the turn stores no token but a new one. -/
theorem run {now : Nat} {answer : Answer} {id : TaskId} : ∀ {acts : List Act} {task : Task}
    {w : AdminClient}, w.Single issued →
      (∀ a ∈ answer.tokens, a.refreshToken ∈ issued ∧ a.refreshToken ∉ w.sent) →
      (run now answer id acts task w).Single issued
  | [], task, w, h, _ => by
    dsimp only [AdminClient.run]
    exact h.complete id task
  | act :: rest, task, w, h, hnew => by
    cases act with
    | unlocked =>
      dsimp only [AdminClient.run]
      split
      · exact run h hnew
      · exact h.congr rfl
    | assertEpoch =>
      dsimp only [AdminClient.run]
      split
      · exact h.congr rfl
      · exact run h hnew
    | assertCurrent =>
      dsimp only [AdminClient.run]
      split
      · exact h.congr rfl
      · exact run h hnew
    | ensureToken =>
      dsimp only [AdminClient.run]
      exact h.ensureToken now id task rest
    | request =>
      dsimp only [AdminClient.run]
      exact h.congr rfl
    | authorized =>
      dsimp only [AdminClient.run]
      exact h.congr rfl
    | newCrypto =>
      dsimp only [AdminClient.run]
      exact run (h.congr rfl) hnew
    | cryptoCall action =>
      dsimp only [AdminClient.run]
      exact h.cryptoCall id task rest action
    | readProfile =>
      dsimp only [AdminClient.run]
      split
      · exact run h hnew
      · exact h.congr rfl
    | installTokens =>
      dsimp only [AdminClient.run]
      split
      · rename_i hinstall
        refine run (h.installTokens hinstall hnew) ?_
        rw [installTokens_sent hinstall]
        exact hnew
      · exact h.congr rfl
    | tryToken =>
      dsimp only [AdminClient.run]
      exact run h hnew
    | clearPending =>
      dsimp only [AdminClient.run]
      exact run (h.congr rfl) hnew
    | publishUnlocked =>
      dsimp only [AdminClient.run]
      exact run (h.congr rfl) hnew
    | publishView =>
      dsimp only [AdminClient.run]
      exact run (h.congr rfl) hnew
    | syncBegin =>
      dsimp only [AdminClient.run]
      exact run (h.congr rfl) hnew
    | syncCheck =>
      dsimp only [AdminClient.run]
      split
      · exact h.congr rfl
      split
      · exact h.congr rfl
      · exact run h hnew
    | syncEnd =>
      dsimp only [AdminClient.run]
      exact run (h.congr rfl) hnew

theorem start (h : w.Single issued) (now : Nat) (method : Method) (catches : List Catch) :
    (w.start now method catches).Single issued :=
  run (h.congr rfl) (by simp)

theorem call (h : w.Single issued) (now : Nat) (method : Method) :
    (w.call now method).Single issued := by
  cases method with
  | login email =>
    dsimp only [AdminClient.call]
    split
    · exact h.reset _
    · exact ((h.reset _).publish _).start _ _ _
  | verifyTotp =>
    dsimp only [AdminClient.call]
    split
    · split
      · exact h.start _ _ _
      · exact h
    · exact h
  | registerAccount email =>
    dsimp only [AdminClient.call]
    split
    · exact ((h.reset _).publish _).start _ _ _
    · exact h
  | unlock =>
    dsimp only [AdminClient.call]
    split
    · exact h.start _ _ _
    · exact h
  | operation script => exact h.start _ _ _

theorem resume (h : w.Single issued) {now : Nat} {id : TaskId} {answer : Answer} {throws : Bool}
    (hnew : ∀ a ∈ answer.tokens, a.refreshToken ∈ issued ∧ a.refreshToken ∉ w.sent)
    (hlock : w.SyncLocks id → w.RefreshIdle) :
    (w.resume now id answer throws).Single issued := by
  unfold AdminClient.resume
  split
  · exact h
  rename_i task htask
  split
  · split
    · exact h.congr rfl
    · exact h.run hnew
  · split
    · exact h.run hnew
    · exact h.congr rfl
    · exact h
  · rename_i error hwait
    split
    · exact h.congr rfl
    · rename_i handler catches hcatches
      refine (h.handle task error handler fun hsync hcrypto => ?_).congr rfl
      subst hsync hcrypto
      exact hlock ⟨task, htask, hwait, by rw [hcatches]; rfl⟩
  · exact h

theorem respond (h : w.Single issued) (id : TaskId) (result : FetchResult) :
    (w.respond id result).Single issued := by
  unfold AdminClient.respond
  split
  · exact h
  split
  · dsimp only
    split
    · exact h.congr rfl
    · cases result <;> exact h.congr rfl
  · exact h

theorem reply (h : w.Single issued) (id : TaskId) (ok : Bool) :
    (w.reply id ok).Single issued := by
  have hrecord : ∀ port action account, (w.record port action account).Single issued := by
    intro port action account
    refine h.congr ?_
    unfold AdminClient.record
    split <;> rfl
  unfold AdminClient.reply
  split
  · exact h
  split
  · split
    · exact h.congr rfl
    · split
      · dsimp only
        split
        · exact (hrecord _ _ _).congr rfl
        · exact (hrecord _ _ _).congr rfl
      · exact h.congr rfl
  · exact h

/-- A promise moves on, short of its `finally`. -/
theorem setRefresh (h : w.Single issued) {id : RefreshId} {promise : RefreshPromise}
    {stage : RefreshStage} (hpromise : w.refreshes[id]? = some promise)
    (hunsettled : ∀ fulfilled, promise.stage ≠ .settled fulfilled)
    (hstage : ∀ tokens, w.tokens = some tokens → tokens.refresh ∈ w.sent →
      promise.token = tokens.refresh → promise.expected = w.epoch →
        stage = .request ∨ stage = .thenInstall ∨ stage = .catchReset) :
    (w.setRefresh id { promise with stage := stage }).Single issued := by
  have hlt : id < w.refreshes.length := (List.getElem?_eq_some_iff.mp hpromise).1
  refine ⟨h.once, h.known, h.stored, fun tokens ht hsent => ?_, fun id' promise' hpromise' => ?_⟩
  · obtain ⟨current, refresh, hcurrent, hrefresh, htoken, hnow, hopen⟩ := h.flying tokens ht hsent
    by_cases heq : current = id
    · subst heq
      obtain rfl := Option.some.inj (hpromise.symm.trans hrefresh)
      exact ⟨current, _, hcurrent, List.getElem?_set_self hlt, htoken, hnow,
        hstage tokens ht hsent htoken hnow⟩
    · exact ⟨current, refresh, hcurrent, (List.getElem?_set_ne (Ne.symm heq)).trans hrefresh,
        htoken, hnow, hopen⟩
  · by_cases heq : id' = id
    · subst heq
      have hset : (w.refreshes.set id' { promise with stage := stage })[id']? = some promise' :=
        hpromise'
      rw [List.getElem?_set_self hlt] at hset
      obtain rfl := Option.some.inj hset
      obtain ⟨hle, hcurrent⟩ := h.unsettled id' promise hpromise
      exact ⟨hle, fun hepoch _ => hcurrent hepoch hunsettled⟩
    · exact h.unsettled id' promise' ((List.getElem?_set_ne (Ne.symm heq)).symm.trans hpromise')

theorem refreshRespond (h : w.Single issued) (id : RefreshId) (result : FetchResult) :
    (w.refreshRespond id result).Single issued := by
  unfold AdminClient.refreshRespond
  split
  · exact h
  rename_i promise hpromise
  split
  · rename_i hstage
    refine h.setRefresh hpromise (fun fulfilled => by rw [hstage]; simp) fun _ _ _ _ _ => ?_
    split
    · exact .inr (.inl rfl)
    · exact .inr (.inr rfl)
  · exact h

/-- **The `finally` of a refresh**: what it was for has a new token, or none. -/
theorem finallyClear (h : w.Single issued) {id : RefreshId} {promise : RefreshPromise}
    {fulfilled : Bool} (hpromise : w.refreshes[id]? = some promise)
    (hstage : promise.stage = .finallyClear fulfilled) :
    Single { w.setRefresh id { promise with stage := .settled fulfilled } with
      refresh := if w.epoch = promise.expected then none else w.refresh } issued := by
  have hlt : id < w.refreshes.length := (List.getElem?_eq_some_iff.mp hpromise).1
  have hunsettled : ∀ b, promise.stage ≠ .settled b := fun b => by
    rw [hstage]
    simp
  refine ⟨h.once, h.known, h.stored, fun tokens ht hsent => ?_, fun id' promise' hpromise' => ?_⟩
  · obtain ⟨current, refresh, hcurrent, hrefresh, htoken, hnow, hopen⟩ := h.flying tokens ht hsent
    have hne : current ≠ id := by
      rintro rfl
      obtain rfl := Option.some.inj (hpromise.symm.trans hrefresh)
      rw [hstage] at hopen
      simp at hopen
    have hepoch : w.epoch ≠ promise.expected := by
      intro heq
      have hsame := (h.unsettled id promise hpromise).2 heq.symm hunsettled
      exact hne (Option.some.inj (hcurrent.symm.trans hsame))
    exact ⟨current, refresh, (if_neg hepoch).trans hcurrent,
      (List.getElem?_set_ne (Ne.symm hne)).trans hrefresh, htoken, hnow, hopen⟩
  · by_cases heq : id' = id
    · subst heq
      have hset : (w.refreshes.set id' { promise with stage := .settled fulfilled })[id']? =
          some promise' := hpromise'
      rw [List.getElem?_set_self hlt] at hset
      obtain rfl := Option.some.inj hset
      exact ⟨(h.unsettled id' promise hpromise).1, fun _ hopen => absurd rfl (hopen fulfilled)⟩
    · have hold : w.refreshes[id']? = some promise' :=
        (List.getElem?_set_ne (Ne.symm heq)).symm.trans hpromise'
      obtain ⟨hle, hcurrent⟩ := h.unsettled id' promise' hold
      refine ⟨hle, fun hepoch hopen => ?_⟩
      have hsome : w.refresh = some id' := hcurrent hepoch hopen
      have hother : w.epoch ≠ promise.expected := by
        intro hsame
        have := (h.unsettled id promise hpromise).2 hsame.symm hunsettled
        exact heq (Option.some.inj (hsome.symm.trans this))
      exact (if_neg hother).trans hsome

/-- **The turns of a refresh.** -/
theorem refreshTurn (h : w.Single issued) {now : Nat} {id : RefreshId} {answer : Answer}
    (hnew : ∀ a ∈ answer.tokens, a.refreshToken ∈ issued ∧ a.refreshToken ∉ w.sent) :
    (w.refreshTurn now id answer).Single issued := by
  unfold AdminClient.refreshTurn
  split
  · exact h
  rename_i promise hpromise
  split
  · rename_i hstage
    have hcatch : (w.setRefresh id { promise with stage := .catchReset }).Single issued :=
      h.setRefresh hpromise (fun fulfilled => by rw [hstage]; simp)
        fun _ _ _ _ _ => .inr (.inr rfl)
    split
    · exact hcatch
    split
    · rename_i w' hinstall
      have hsame : w'.refreshes[id]? = some promise := by
        obtain ⟨a, -, hsome⟩ := Option.bind_eq_some_iff.mp hinstall
        split at hsome
        · obtain rfl := Option.some.inj hsome
          exact hpromise
        · cases hsome
      refine (h.installTokens hinstall hnew).setRefresh hsame
        (fun fulfilled => by rw [hstage]; simp) fun tokens ht hsent _ _ => ?_
      obtain ⟨a, hanswer, hsome⟩ := Option.bind_eq_some_iff.mp hinstall
      split at hsome
      · obtain rfl := Option.some.inj hsome
        obtain rfl := Option.some.inj ht
        exact absurd hsent (hnew a hanswer).2
      · cases hsome
    · exact hcatch
  · rename_i hstage
    split
    · rename_i hepoch
      refine (h.reset .expired).setRefresh ?_
        (fun fulfilled => by rw [hstage]; simp) (fun tokens ht => by cases ht)
      have hview := stopCrypto_view w
      simp only [tokenView, Prod.mk.injEq] at hview
      exact (congrArg (·[id]?) hview.2.2.2.1).trans hpromise
    · rename_i hepoch
      exact h.setRefresh hpromise (fun fulfilled => by rw [hstage]; simp)
        fun _ _ _ _ hnow => absurd hnow.symm hepoch
  · rename_i hstage
    exact h.finallyClear hpromise hstage
  · exact h

end Single

end AdminClient

/-! ## The events -/

/-- An event locks the session. -/
def AdminEvent.Locks (w : AdminClient) : AdminEvent → Prop
  | .lock => True
  | .resume task _ _ _ => w.SyncLocks task
  | _ => False

namespace AdminEvent

/-- No lock keeps a token that is being refreshed. -/
def LocksIdle (w : AdminClient) (event : AdminEvent) : Prop := event.Locks w → w.RefreshIdle

instance (w : AdminClient) : ∀ event : AdminEvent, Decidable (event.Locks w)
  | .lock => .isTrue trivial
  | .resume task _ _ _ => inferInstanceAs (Decidable (w.SyncLocks task))
  | .call _ _ | .logout | .dispose | .challengeTimer _ | .respond _ _ | .reply _ _
  | .refreshRespond _ _ | .refreshTurn _ _ _ => .isFalse id

instance (w : AdminClient) (event : AdminEvent) : Decidable (event.LocksIdle w) :=
  inferInstanceAs (Decidable (event.Locks w → w.RefreshIdle))

/-- **Every event keeps the invariant**, where the tokens it reads are new and it does not lock
during a refresh. -/
theorem exec_single {w : AdminClient} {issued : List String} {event : AdminEvent}
    (h : w.Single issued)
    (hnew : ∀ token ∈ event.draws, token ∈ issued ∧ token ∉ w.sent) (hidle : event.LocksIdle w) :
    (event.exec w).Single issued := by
  cases event with
  | call method now => exact h.call now method
  | lock => exact h.lock (hidle trivial)
  | logout => exact h.reset _
  | dispose => exact (h.reset .signedOut).congr rfl
  | challengeTimer expected =>
    dsimp only [exec]
    split
    · exact h.reset _
    · exact h
  | respond task result => exact h.respond task result
  | reply task ok => exact h.reply task ok
  | resume task now answer throws =>
    refine h.resume (fun a ha => hnew _ ?_) hidle
    simp [draws, Option.mem_def.mp ha]
  | refreshRespond promise result => exact h.refreshRespond promise result
  | refreshTurn promise now answer =>
    refine h.refreshTurn fun a ha => hnew _ ?_
    simp [draws, Option.mem_def.mp ha]

end AdminEvent

/-! ## Runs -/

/-- The client as it is created. -/
def adminClientStart : Config AdminClient String := { state := {} }

theorem next_single {c c' : Config AdminClient String} {event : AdminEvent}
    (hnext : (adminClientSystem.restrict fun w e => e.LocksIdle w).Next c event c')
    (h : c.state.Single c.issued) : c'.state.Single c'.issued := by
  have heq : c'.state = event.exec c.state := hnext.step.1
  rw [heq]
  refine AdminEvent.exec_single (h.more fun x hx => hnext.issued_subset x hx)
    (fun token hdraw => ⟨hnext.drawn_mem token hdraw, fun hsent => ?_⟩) hnext.step.2
  exact hnext.fresh token hdraw (h.known token hsent)

/-- **No refresh token is presented twice**, in a run whose locks leave no refresh in flight. -/
theorem refresh_tokens_presented_once {c : Config AdminClient String} {ls : List AdminEvent}
    (h : Run (adminClientSystem.restrict fun w e => e.LocksIdle w) adminClientStart ls c) :
    c.state.sent.Nodup := by
  have hsingle : c.state.Single c.issued :=
    h.invariant (I := fun c => c.state.Single c.issued)
      ⟨List.nodup_nil, by simp [adminClientStart], by simp [adminClientStart],
        by simp [adminClientStart], by simp [adminClientStart]⟩
      fun hnext hi => next_single hnext hi
  exact hsingle.once

/-! ## A lock during a refresh -/

/-- The account of the runs below. -/
def adminAnswer : Answer where
  profile := some { id := "person", email := "person@example.test" }

/-- A token response that lasts 45 seconds. -/
def tokenAnswer (refreshToken : String) : Answer where
  tokens := some { accessToken := "access", refreshToken := refreshToken, expiresIn := 45 }

/-- The person signs in; task 0 is the login. -/
def adminLogin : List AdminEvent :=
  [.call (.login "person@example.test") 0, .respond 0 .ok, .resume 0 0 {} false, .reply 0 true,
    .resume 0 0 {} false, .respond 0 .ok, .resume 0 0 (tokenAnswer "first") false,
    .resume 0 0 {} false, .respond 0 .ok, .resume 0 0 adminAnswer false, .resume 0 0 {} false,
    .respond 0 .ok, .resume 0 0 {} false, .reply 0 true, .resume 0 0 {} false]

/-- After half a minute a read refreshes the token, and the page is locked after the response. -/
def adminRefreshed : List AdminEvent :=
  adminLogin ++
    [.call (.operation syncScript) 30000, .refreshRespond 0 .ok,
      .refreshTurn 0 30000 (tokenAnswer "second"), .refreshTurn 0 30000 {}, .lock,
      .call .unlock 70000]

def adminRefreshedEnd : Config AdminClient String :=
  (replay AdminEvent.exec AdminEvent.draws adminClientStart adminRefreshed).get
    (by decide +kernel)

theorem adminRefreshedRun :
    Run (adminClientSystem.restrict fun w e => e.LocksIdle w) adminClientStart adminRefreshed
      adminRefreshedEnd :=
  replay_restrict (Option.some_get _).symm (by decide +kernel)

theorem refresh_tokens_presented_once_locked :
    adminRefreshedEnd.state.sent = ["first", "second"] ∧ adminRefreshedEnd.state.sent.Nodup :=
  ⟨by decide +kernel, refresh_tokens_presented_once adminRefreshedRun⟩

/-- The page is hidden while the refresh is in flight, shown again and unlocked. -/
def adminHidden : List AdminEvent :=
  adminLogin ++ [.call (.operation syncScript) 30000, .lock, .call .unlock 30000]

def adminHiddenEnd : Config AdminClient String :=
  (replay AdminEvent.exec AdminEvent.draws adminClientStart adminHidden).get (by decide +kernel)

theorem refresh_token_replayed :
    ∃ ls c, Run adminClientSystem adminClientStart ls c ∧ ¬ c.state.sent.Nodup :=
  ⟨adminHidden, adminHiddenEnd, replay_run (Option.some_get _).symm, by decide +kernel⟩

end HonoWarden
