import HonoWarden.Web.Text
import Mathlib.Data.List.Nodup

/-!
# The keyring and its worker

Model of `Keyring.replaceOrganizations` (`admin/browser/crypto/keyring.ts`), of the queue of
`crypto.worker.ts`, and of the port of `createCryptoPort` (`crypto-client.ts`) in front of it. The
worker takes its messages one at a time, in the order they were posted, and posts an answer for
each; a port that is closed has terminated it. `unwrapRsa` is a parameter.

Results:
* `Keyring.replaceOrganizations_ids`: a replacement that succeeds holds the organizations asked
  for;
* `CryptoWorker.eventual`: the organizations the keyring holds once the queue is empty, where no
  command fails.
-/

namespace HonoWarden

open Web

/-! ## The keyring -/

structure WrappedOrganization where
  id : JsString
  key : JsString
  deriving DecidableEq, Repr

/-- What `replaceOrganizations` reads and writes of a `Keyring`. -/
structure Keyring (PrivateKey Key : Type) where
  privateKey : Option PrivateKey := none
  organizations : List (JsString × Key) := []
  deriving DecidableEq, Repr

namespace Keyring

variable {PrivateKey Key : Type} (unwrapRsa : PrivateKey → JsString → Option Key)

/-- The loop of `replaceOrganizations`; `none` where it throws. -/
def unwrapAll (privateKey : PrivateKey) :
    List WrappedOrganization → List (JsString × Key) → Option (List (JsString × Key))
  | [], replacement => some replacement
  | organization :: organizations, replacement =>
    if organization.id ∈ replacement.map Prod.fst then none
    else
      (unwrapRsa privateKey organization.key).bind fun key =>
        unwrapAll privateKey organizations (replacement ++ [(organization.id, key)])

/-- `replaceOrganizations`, and whether it returns. -/
def replaceOrganizations (keyring : Keyring PrivateKey Key)
    (organizations : List WrappedOrganization) : Keyring PrivateKey Key × Bool :=
  match keyring.privateKey with
  | none => (keyring, false)
  | some privateKey =>
    match unwrapAll unwrapRsa privateKey organizations [] with
    | some replacement => ({ keyring with organizations := replacement }, true)
    | none => ({ keyring with organizations := [] }, false)

/-- `unlock`, from the private key it has unwrapped and checked against the public one. -/
def unlock (privateKey : Option PrivateKey) (organizations : List WrappedOrganization) :
    Keyring PrivateKey Key × Bool :=
  let replaced := replaceOrganizations unwrapRsa { privateKey := privateKey } organizations
  if replaced.2 then replaced else ({}, false)

/-- The organizations whose keys the keyring holds. -/
def ids (keyring : Keyring PrivateKey Key) : List JsString := keyring.organizations.map Prod.fst

variable {unwrapRsa}

theorem unwrapAll_ids {privateKey : PrivateKey} {organizations : List WrappedOrganization}
    {replacement result : List (JsString × Key)}
    (h : unwrapAll unwrapRsa privateKey organizations replacement = some result) :
    result.map Prod.fst =
      replacement.map Prod.fst ++ organizations.map WrappedOrganization.id := by
  induction organizations generalizing replacement with
  | nil =>
    obtain rfl := Option.some.inj h
    rw [List.map_nil, List.append_nil]
  | cons organization organizations ih =>
    rw [unwrapAll] at h
    split_ifs at h
    obtain ⟨key, -, hrest⟩ := Option.bind_eq_some_iff.mp h
    rw [ih hrest, List.map_append, List.append_assoc, List.map_cons]
    rfl

/-- **A replacement that returns holds the organizations asked for.** -/
theorem replaceOrganizations_ids {keyring : Keyring PrivateKey Key}
    {organizations : List WrappedOrganization}
    (h : (keyring.replaceOrganizations unwrapRsa organizations).2 = true) :
    (keyring.replaceOrganizations unwrapRsa organizations).1.ids =
      organizations.map WrappedOrganization.id := by
  unfold replaceOrganizations at h ⊢
  cases hkey : keyring.privateKey with
  | none =>
    rw [hkey] at h
    cases h
  | some privateKey =>
    rw [hkey] at h
    dsimp only at h ⊢
    cases hall : unwrapAll unwrapRsa privateKey organizations [] with
    | none =>
      rw [hall] at h
      cases h
    | some replacement => exact unwrapAll_ids hall

theorem unlock_ids {privateKey : Option PrivateKey} {organizations : List WrappedOrganization}
    (h : (unlock unwrapRsa privateKey organizations).2 = true) :
    (unlock unwrapRsa privateKey organizations).1.ids =
      organizations.map WrappedOrganization.id := by
  unfold unlock at h ⊢
  dsimp only at h ⊢
  split_ifs at h ⊢ with hreplaced
  exact replaceOrganizations_ids hreplaced

end Keyring

/-! ## The worker and its port -/

/-- The commands of an unlocked session. An operation leaves the organizations alone. -/
inductive CryptoCommand where
  | organizations (organizations : List WrappedOrganization)
  | operation (ok : Bool)
  deriving DecidableEq, Repr

/-- A port, and the worker behind it. `queue` holds the messages the worker has not taken yet,
`replies` the answers that have not arrived. -/
structure CryptoWorker (PrivateKey Key : Type) where
  closed : Bool := false
  nextId : Nat := 0
  queue : List (Nat × CryptoCommand) := []
  replies : List (Nat × Bool) := []
  keyring : Keyring PrivateKey Key := {}
  deriving DecidableEq, Repr

namespace CryptoWorker

variable {PrivateKey Key : Type} (unwrapRsa : PrivateKey → JsString → Option Key)

/-- `call` of an open port; the command has the number `nextId + 1`. -/
def post (worker : CryptoWorker PrivateKey Key) (command : CryptoCommand) :
    CryptoWorker PrivateKey Key :=
  { worker with
    nextId := worker.nextId + 1
    queue := worker.queue ++ [(worker.nextId + 1, command)] }

/-- The worker takes its next message. -/
def work (worker : CryptoWorker PrivateKey Key) : CryptoWorker PrivateKey Key :=
  match worker.queue with
  | [] => worker
  | (id, .organizations organizations) :: queue =>
    let replaced := worker.keyring.replaceOrganizations unwrapRsa organizations
    { worker with
      queue := queue
      replies := worker.replies ++ [(id, replaced.2)]
      keyring := replaced.1 }
  | (id, .operation ok) :: queue =>
    { worker with queue := queue, replies := worker.replies ++ [(id, ok)] }

/-- `dispose`: the worker is terminated, its keyring and its answers are gone. -/
def dispose (worker : CryptoWorker PrivateKey Key) : CryptoWorker PrivateKey Key :=
  { closed := true, nextId := worker.nextId }

/-- The organizations a command asks for. -/
def asked : CryptoCommand → Option (List JsString)
  | .organizations organizations => some (organizations.map WrappedOrganization.id)
  | .operation _ => none

/-- The organizations that commands leave where none of them fails. -/
def eventualOf (queue : List (Nat × CryptoCommand)) (held : List JsString) : List JsString :=
  queue.foldl (fun held message => (asked message.2).getD held) held

/-- The organizations the keyring holds once the queue is empty, where no command fails. -/
def eventual (worker : CryptoWorker PrivateKey Key) : List JsString :=
  eventualOf worker.queue worker.keyring.ids

/-- The calls whose answer has not arrived. -/
def calls (worker : CryptoWorker PrivateKey Key) : List Nat :=
  worker.replies.map Prod.fst ++ worker.queue.map Prod.fst

/-- No two calls that wait have one number. -/
structure Numbered (worker : CryptoWorker PrivateKey Key) : Prop where
  nodup : worker.calls.Nodup
  bound : ∀ id ∈ worker.calls, id ≤ worker.nextId

variable {unwrapRsa} {worker : CryptoWorker PrivateKey Key}

theorem calls_post (command : CryptoCommand) :
    (worker.post command).calls = worker.calls ++ [worker.nextId + 1] := by
  unfold calls post
  rw [List.map_append, List.append_assoc]
  rfl

theorem Numbered.post (h : worker.Numbered) (command : CryptoCommand) :
    (worker.post command).Numbered := by
  constructor
  · rw [calls_post]
    refine List.nodup_append.mpr ⟨h.nodup, List.nodup_singleton _, ?_⟩
    rintro id hid _ hnew rfl
    rw [List.mem_singleton.mp hnew] at hid
    exact absurd (h.bound _ hid) (Nat.not_succ_le_self _)
  · intro id hid
    rw [calls_post] at hid
    rcases List.mem_append.mp hid with hold | hnew
    · exact (h.bound id hold).trans (Nat.le_succ _)
    · exact (List.mem_singleton.mp hnew).le

/-- What the worker does with its next message, if there is one. -/
theorem work_cases (unwrapRsa : PrivateKey → JsString → Option Key)
    (worker : CryptoWorker PrivateKey Key) :
    worker.work unwrapRsa = worker ∨
      ∃ id command queue ok, worker.queue = (id, command) :: queue ∧
        (worker.work unwrapRsa).closed = worker.closed ∧
        (worker.work unwrapRsa).nextId = worker.nextId ∧
        (worker.work unwrapRsa).queue = queue ∧
        (worker.work unwrapRsa).replies = worker.replies ++ [(id, ok)] ∧
        (ok = true ∨ asked command = none →
          (worker.work unwrapRsa).eventual = worker.eventual) := by
  unfold work eventual
  cases hqueue : worker.queue with
  | nil => exact .inl rfl
  | cons message queue =>
    obtain ⟨id, command⟩ := message
    refine .inr ⟨id, command, queue, ?_⟩
    cases command with
    | operation ok => exact ⟨ok, rfl, rfl, rfl, rfl, rfl, fun _ => rfl⟩
    | organizations organizations =>
      refine ⟨_, rfl, rfl, rfl, rfl, rfl, ?_⟩
      rintro (hok | hnone)
      · exact congrArg (eventualOf queue) (Keyring.replaceOrganizations_ids hok)
      · cases hnone

theorem calls_work (unwrapRsa : PrivateKey → JsString → Option Key) :
    (worker.work unwrapRsa).calls = worker.calls := by
  rcases work_cases unwrapRsa worker with hsame | ⟨id, command, queue, ok, hqueue, -, -, hqueue',
    hreplies, -⟩
  · rw [hsame]
  · unfold calls
    rw [hqueue', hreplies, hqueue, List.map_append, List.append_assoc]
    rfl

theorem Numbered.work (h : worker.Numbered) (unwrapRsa : PrivateKey → JsString → Option Key) :
    (worker.work unwrapRsa).Numbered := by
  have hnext : (worker.work unwrapRsa).nextId = worker.nextId := by
    rcases work_cases unwrapRsa worker with hsame | ⟨_, _, _, _, -, -, hnext, -⟩
    · rw [hsame]
    · exact hnext
  constructor
  · rw [calls_work]
    exact h.nodup
  · rw [calls_work, hnext]
    exact h.bound

/-- The first answer arrives. -/
theorem Numbered.answer (h : worker.Numbered) {id : Nat} {ok : Bool} {replies : List (Nat × Bool)}
    (hreplies : worker.replies = (id, ok) :: replies) :
    ({ worker with replies := replies } : CryptoWorker PrivateKey Key).Numbered ∧
      id ∉ ({ worker with replies := replies } : CryptoWorker PrivateKey Key).calls := by
  have hcalls : worker.calls =
      id :: ({ worker with replies := replies } : CryptoWorker PrivateKey Key).calls := by
    unfold calls
    rw [hreplies]
    rfl
  obtain ⟨hnodup, hbound⟩ := h
  rw [hcalls] at hnodup hbound
  obtain ⟨hid, hnodup⟩ := List.nodup_cons.mp hnodup
  exact ⟨⟨hnodup, fun id hmem => hbound id (List.mem_cons_of_mem _ hmem)⟩, hid⟩

theorem eventual_post (command : CryptoCommand) :
    (worker.post command).eventual = (asked command).getD worker.eventual := by
  unfold eventual post eventualOf
  exact List.foldl_append

/-- A queue that asks for no organizations leaves them alone. -/
theorem eventual_of_asked_none (h : ∀ message ∈ worker.queue, asked message.2 = none) :
    worker.eventual = worker.keyring.ids := by
  unfold eventual
  generalize worker.queue = queue at h ⊢
  induction queue with
  | nil => rfl
  | cons message queue ih =>
    have hrest := ih fun message hmessage => h message (List.mem_cons_of_mem _ hmessage)
    unfold eventualOf at hrest ⊢
    rw [List.foldl_cons, h message List.mem_cons_self]
    exact hrest

end CryptoWorker

end HonoWarden
