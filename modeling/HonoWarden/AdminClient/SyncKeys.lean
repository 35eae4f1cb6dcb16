import HonoWarden.AdminClient.SyncInvariant

/-!
# The keys of overlapping syncs

Results:
* **`syncs_keep_keys`**: views are never overtaken, and the keyring agrees with the view at rest,
  unless the newest sync fails while the worker has been asked for other keys than are shown, or
  the worker dies while no sync waits for it;
* `syncs_lose_keys`: a newer sync that fails after an older one has replaced the keys.
-/

namespace HonoWarden

open Web Relational

namespace SyncClient

variable {PrivateKey Key : Type} {w : SyncClient PrivateKey Key}

/-- At rest the worker has taken every command of a sync. -/
theorem Sound.keysAgree (h : w.Sound) : w.KeysAgree := by
  intro hunlocked hidle
  rcases h.agree hunlocked with ⟨call, hcall, hwhy⟩ | ⟨worker, hsettling⟩
  · rw [hidle call hcall] at hwhy
    rcases hwhy with hrejected | ⟨_, _, _, _, hstage, -⟩
    · cases hrejected
    · cases hstage
  have hheld : worker.eventual = worker.keyring.ids := by
    refine CryptoWorker.eventual_of_asked_none fun message hmessage => ?_
    obtain ⟨id, command⟩ := message
    cases command with
    | operation ok => rfl
    | organizations organizations =>
      obtain ⟨call, hcall, _, _, hstage⟩ :=
        h.callers worker hsettling.port id organizations hmessage
      rw [hidle call hcall] at hstage
      cases hstage
  refine ⟨worker, hsettling.port, hsettling.isOpen, hheld.symm.trans ?_⟩
  rcases hsettling.trying with hshown | ⟨i, call, hcall, -, hflight⟩
  · exact hshown
  · rw [hidle call (List.mem_of_getElem? hcall)] at hflight
    exact hflight.elim

end SyncClient

/-! ## Runs -/

section Runs

variable {PrivateKey Key : Type} {unwrapRsa : PrivateKey → JsString → Option Key}

theorem SyncClient.ordered_start :
    (syncStart : Config (SyncClient PrivateKey Key) Empty).state.Ordered :=
  ⟨rfl, List.forall_mem_nil _, List.Pairwise.nil⟩

theorem SyncClient.sound_start :
    (syncStart : Config (SyncClient PrivateKey Key) Empty).state.Sound :=
  ⟨⟨ordered_start, List.forall_mem_nil _, fun _ => ⟨rfl, List.forall_mem_nil _⟩,
    fun hdisposed => Bool.noConfusion hdisposed, List.forall_mem_nil _,
    fun worker hworker => absurd hworker (Option.not_mem_none worker),
    fun worker hworker => absurd hworker (Option.not_mem_none worker)⟩,
    fun hunlocked => Phase.noConfusion hunlocked⟩

/-- **When views and keys agree.** In every run, no sync replaces the view of one started after
it. In every run in which the newest sync does not fail while the worker has last been asked for
other organizations than are shown, and the worker does not die on its own, an unlocked session at
rest holds the keys of the organizations it shows. -/
theorem syncs_keep_keys {ls : List (SyncEvent PrivateKey)}
    {c : Config (SyncClient PrivateKey Key) Empty} :
    (Run (syncSystem unwrapRsa) syncStart ls c → c.state.published.Pairwise (· ≤ ·)) ∧
      (Run ((syncSystem unwrapRsa).restrict fun w event => event.KeepsKeys w) syncStart ls c →
        c.state.published.Pairwise (· ≤ ·) ∧ c.state.KeysAgree) := by
  have hordered (hrun : Run (syncSystem unwrapRsa) syncStart ls c) : c.state.Ordered :=
    hrun.invariant (I := fun c => c.state.Ordered) SyncClient.ordered_start fun hnext hi => by
      rw [show _ = _ from hnext.step]
      exact hi.exec unwrapRsa _
  refine ⟨fun hrun => (hordered hrun).sorted, fun hrun => ?_⟩
  have hsound : c.state.Sound :=
    hrun.invariant (I := fun c => c.state.Sound) SyncClient.sound_start fun hnext hi => by
      rw [show _ = _ from hnext.step.1]
      exact hi.exec unwrapRsa hnext.step.2
  exact ⟨hsound.sorted, hsound.keysAgree⟩

end Runs

/-! ## A newer sync that fails -/

/-- A profile of these organizations. -/
def syncProfile (ids : List JsString) : ProfileBody where
  id := js "person"
  email := js "person@example.test"
  organizations := ids.map fun id => { id := id, name := js "Acme", key := js "key" }

/-- A worker that unwraps every key as it stands. -/
def unwrapAny (_ : Unit) (key : JsString) : Option JsString := some key

/-- The person has joined an organization; a second sync overtakes the first while the worker
replaces the keys. -/
def syncOvertaken : List (SyncEvent Unit) :=
  [.signIn () (syncProfile []) true, .sync, .profile 0 (syncProfile [js "acme"]),
    .assurance 0 true, .sync, .work, .answer, .turn 0]

/-- The second sync reads the same organizations. -/
def syncCaughtUp : List (SyncEvent Unit) :=
  syncOvertaken ++ [.profile 1 (syncProfile [js "acme"]), .assurance 1 true, .work, .answer,
    .turn 1]

def syncCaughtUpEnd : Config (SyncClient Unit JsString) Empty :=
  (replay (SyncEvent.exec unwrapAny) (fun _ => []) syncStart syncCaughtUp).get (by decide +kernel)

theorem syncs_keep_keys_caughtUp :
    syncCaughtUpEnd.state.state.ids = [js "acme"] ∧ syncCaughtUpEnd.state.KeysAgree :=
  ⟨by decide +kernel,
    (syncs_keep_keys.2 (replay_restrict (Option.some_get _).symm (by decide +kernel))).2⟩

/-- The second sync does not reach the server. -/
def syncFailed : List (SyncEvent Unit) := syncOvertaken ++ [.fails 1 false]

def syncFailedEnd : Config (SyncClient Unit JsString) Empty :=
  (replay (SyncEvent.exec unwrapAny) (fun _ => []) syncStart syncFailed).get (by decide +kernel)

theorem syncs_lose_keys :
    ∃ ls c, Run (syncSystem unwrapAny) syncStart ls c ∧ ¬ c.state.KeysAgree := by
  refine ⟨syncFailed, syncFailedEnd, replay_run (Option.some_get _).symm, fun hagree => ?_⟩
  obtain ⟨worker, hport, -, hids⟩ := hagree (by decide +kernel) (by decide +kernel)
  have hheld : syncFailedEnd.state.port.map (fun worker => worker.keyring.ids) =
      some [js "acme"] := by
    decide +kernel
  rw [hport] at hheld
  have hshown : syncFailedEnd.state.state.ids = [] := by decide +kernel
  rw [Option.map_some, hids, hshown] at hheld
  cases hheld

end HonoWarden
