import HonoWarden.Relational.Run

/-!
# The admin client

The model of `createAdminClient` (`admin/browser/admin-client.ts`): one record of variables shared
by methods that resume after every `await`. A method is a *script*, the list of what it does; a
call of it is a `Task` that holds the acts still to come and what it waits for.

* `AdminClient.run` executes the acts of one turn, up to the next `await`. A task that has its
  result is `ready`, one that failed is `failed`, and both go on in a turn of their own, so that
  anything may happen between a result and its continuation.
* `request`, `authorized`, `cryptoCall` and `ensureToken` are acts; a `catch` is a handler on the
  task's stack. The promise `refresh` is a record of its own, with a turn for each of its `then`,
  `catch` and `finally`.
* What a body says is part of the turn that reads it. Timers and page events are calls of `lock`
  and `reset`.

Views are kept as far as their phase and account. Not modelled: the parsing of bodies beyond "the
method throws", email verification attempts beyond their requests, and the requests of `logout`,
which touch none of the variables.
-/

namespace HonoWarden

open Relational

/-! ## The variables -/

abbrev PortId := Nat
abbrev RefreshId := Nat
abbrev TaskId := Nat
abbrev ChallengeId := Nat

inductive Phase where
  | signedOut
  | authenticating
  | totpRequired
  | unlocked
  | locked
  | expired
  deriving DecidableEq, Repr

structure SessionView where
  phase : Phase := .signedOut
  email : Option String := none
  deriving DecidableEq, Repr

structure AdminTokens where
  access : String
  refresh : String
  expiresAt : Nat
  deriving DecidableEq, Repr

/-- The account of a profile. -/
structure AdminProfile where
  id : String
  email : String
  deriving DecidableEq, Repr

/-- The body of a token response. -/
structure TokenAnswer where
  accessToken : String
  refreshToken : String
  expiresIn : Nat
  deriving DecidableEq, Repr

/-- What a turn reads from the body it was answered. -/
structure Answer where
  profile : Option AdminProfile := none
  tokens : Option TokenAnswer := none
  deriving DecidableEq, Repr

/-- How a fetch ends. -/
inductive FetchResult where
  | ok
  | error (status : Nat)
  | totpChallenge
  | failed
  deriving DecidableEq, Repr

inductive AdminError where
  | cancelled
  | http (status : Nat)
  | totpChallenge
  | crypto
  | other
  deriving DecidableEq, Repr

inductive CryptoAction where
  | createAccount
  | derive
  | unlock
  | organizations
  | operation
  deriving DecidableEq, Repr

/-- A worker, and the accounts it has completed `unlock` for. -/
structure CryptoPort where
  disposed : Bool := false
  unlockedFor : List AdminProfile := []
  deriving DecidableEq, Repr

/-- Where the promise `refresh` stands. -/
inductive RefreshStage where
  | request
  | thenInstall
  | catchReset
  | finallyClear (fulfilled : Bool)
  | settled (fulfilled : Bool)
  deriving DecidableEq, Repr

structure RefreshPromise where
  token : String
  expected : Nat
  stage : RefreshStage := .request
  deriving DecidableEq, Repr

/-! ## Scripts -/

/-- A `catch` or `finally` on the way out of a method. -/
inductive Catch where
  | authorized
  | sync
  | loginToken
  | login
  | verifyTotp (current : ChallengeId)
  | unlock
  | register
  deriving DecidableEq, Repr

/-- What a method does, one step of it. -/
inductive Act where
  /-- `unlocked()` -/
  | unlocked
  /-- `assertEpoch(expected)` -/
  | assertEpoch
  /-- `assertCurrent()` of an email verification -/
  | assertCurrent
  /-- `await ensureToken()` -/
  | ensureToken
  /-- `await request(…)` -/
  | request
  /-- `await request(…)` inside `authorized` -/
  | authorized
  /-- `port = newCrypto()` -/
  | newCrypto
  /-- `await cryptoCall(…)` -/
  | cryptoCall (action : CryptoAction)
  /-- `current = …` of a fetched profile -/
  | readProfile
  | installTokens
  /-- The inner `try` of `login`. -/
  | tryToken
  /-- `pending = undefined` -/
  | clearPending
  /-- `profile = current` and the view of an unlocked session -/
  | publishUnlocked
  /-- `publish({ ...state, … })` -/
  | publishView
  /-- The constants at the head of `sync`. -/
  | syncBegin
  /-- `assertEpoch(expectedEpoch)` and the comparison of `syncSequence` -/
  | syncCheck
  /-- The end of `sync`. -/
  | syncEnd
  deriving DecidableEq, Repr

/-- `fetchProfile()` -/
def fetchProfile : List Act := [.ensureToken, .authorized, .readProfile]

/-- `assurance()` -/
def assurance : List Act := [.ensureToken, .authorized]

def finishLogin : List Act :=
  .installTokens :: fetchProfile ++ assurance ++
    [.cryptoCall .unlock, .clearPending, .publishUnlocked]

/-- `sync` -/
def syncScript : List Act :=
  .unlocked :: .syncBegin :: fetchProfile ++ .syncCheck :: assurance ++
    [.syncCheck, .cryptoCall .organizations, .syncCheck, .syncEnd]

/-- The methods. An `operation` is any method behind `unlocked()`. -/
inductive Method where
  | login (email : String)
  | verifyTotp
  | registerAccount (email : String)
  | unlock
  | operation (script : List Act)
  deriving DecidableEq, Repr

/-- An act that any method behind `unlocked()` may take. -/
def Act.General : Act → Prop
  | .request | .newCrypto | .installTokens | .tryToken | .clearPending | .publishUnlocked => False
  | .cryptoCall action => action = .organizations ∨ action = .operation
  | _ => True

instance : ∀ act : Act, Decidable act.General
  | .request | .newCrypto | .installTokens | .tryToken | .clearPending | .publishUnlocked =>
    .isFalse id
  | .cryptoCall action => inferInstanceAs (Decidable (action = .organizations ∨ action = .operation))
  | .unlocked | .assertEpoch | .assertCurrent | .ensureToken | .authorized | .readProfile | .publishView
  | .syncBegin | .syncCheck | .syncEnd => .isTrue trivial

def Method.email : Method → Option String
  | .login email | .registerAccount email => some email
  | _ => none

/-- What follows the synchronous head of a method. -/
def Method.script : Method → List Act
  | .login _ =>
    [.request, .newCrypto, .cryptoCall .derive, .tryToken, .request] ++ finishLogin
  | .verifyTotp => .request :: finishLogin
  | .registerAccount _ => [.newCrypto, .cryptoCall .createAccount, .assertEpoch, .request]
  | .unlock =>
    fetchProfile ++ assurance ++
      [.newCrypto, .cryptoCall .derive, .cryptoCall .unlock, .publishUnlocked]
  | .operation script => .unlocked :: script

/-! ## Tasks -/

/-- What a task waits for. -/
inductive Wait where
  /-- Its continuation is queued. -/
  | ready
  /-- A rejection is on its way to the next handler. -/
  | failed (error : AdminError)
  | response (expected : Nat) (authorized : Bool)
  | refreshed (id : RefreshId)
  | reply (port : PortId) (expected : Nat) (action : CryptoAction)
  | done
  deriving DecidableEq, Repr

structure Task where
  method : Method
  /-- `epoch` when the method began. -/
  expected : Nat
  rest : List Act := []
  catches : List Catch := []
  wait : Wait := .ready
  current : Option AdminProfile := none
  expectedEpoch : Nat := 0
  expectedSync : Nat := 0
  deriving DecidableEq, Repr

structure AdminClient where
  state : SessionView := {}
  epoch : Nat := 0
  syncSequence : Nat := 0
  port : Option PortId := none
  tokens : Option AdminTokens := none
  refresh : Option RefreshId := none
  profile : Option AdminProfile := none
  pending : Option ChallengeId := none
  disposed : Bool := false
  /-- Every port ever created, by its number. -/
  ports : List CryptoPort := []
  /-- Every promise `refresh` has held. -/
  refreshes : List RefreshPromise := []
  challenges : Nat := 0
  tasks : List Task := []
  /-- The refresh tokens presented by `ensureToken`. -/
  sent : List String := []
  deriving DecidableEq, Repr

namespace AdminClient

/-! ## What the methods share -/

def publish (w : AdminClient) (next : SessionView) : AdminClient :=
  { w with state := next }

/-- `port?.dispose()` -/
def disposePort (w : AdminClient) : Option PortId → AdminClient
  | some id => { w with ports := w.ports.modify id fun p => { p with disposed := true } }
  | none => w

def stopCrypto (w : AdminClient) : AdminClient :=
  { w.disposePort w.port with port := none }

/-- The epoch is another one, or the client is disposed of. -/
def Cancelled (w : AdminClient) (expected : Nat) : Prop := w.epoch ≠ expected ∨ w.disposed = true

instance (w : AdminClient) (expected : Nat) : Decidable (w.Cancelled expected) :=
  inferInstanceAs (Decidable (_ ∨ _))

def cancel (w : AdminClient) : AdminClient :=
  { w.stopCrypto with epoch := w.epoch + 1, pending := none, refresh := none }

def reset (w : AdminClient) (phase : Phase) : AdminClient :=
  { w.cancel with tokens := none, profile := none, state := { phase := phase } }

def lock (w : AdminClient) : AdminClient :=
  if w.tokens = none ∨ w.profile = none then w.reset .signedOut
  else { w.cancel with state := { phase := .locked, email := w.state.email } }

/-- `none` when the response is not one. -/
def installTokens (w : AdminClient) (now : Nat) (answer : Option TokenAnswer) :
    Option AdminClient :=
  answer.bind fun answer =>
    if 0 < answer.expiresIn ∧ answer.expiresIn ≤ 86400 then
      some { w with
        tokens := some
          { access := answer.accessToken
            refresh := answer.refreshToken
            expiresAt := now + answer.expiresIn * 1000 } }
    else none

/-! ## Tasks -/

def setTask (w : AdminClient) (id : TaskId) (task : Task) : AdminClient :=
  { w with tasks := w.tasks.set id task }

/-- The method throws. -/
def reject (w : AdminClient) (id : TaskId) (task : Task) (error : AdminError)
    (catches : List Catch) : AdminClient :=
  w.setTask id { task with rest := [], catches := catches, wait := .failed error }

def suspend (w : AdminClient) (id : TaskId) (task : Task) (rest : List Act) (wait : Wait) :
    AdminClient :=
  w.setTask id { task with rest := rest, wait := wait }

/-- What a handler does; `none` passes the error on, `some` swallows it. -/
def handle (w : AdminClient) (task : Task) (error : AdminError) : Catch → AdminClient × Bool
  | .authorized => (if error = .http 401 then w.reset .expired else w, false)
  | .sync => (if error = .crypto then w.lock else w, false)
  | .loginToken =>
    if error = .totpChallenge then
      ({ w with
        pending := some w.challenges
        challenges := w.challenges + 1
        state := { phase := .totpRequired, email := task.method.email } }, true)
    else (w, false)
  | .login =>
    (if w.epoch = task.expected then
      { w.stopCrypto with tokens := none, pending := none, state := { phase := .signedOut } }
    else w, false)
  | .verifyTotp current =>
    (if w.pending = some current then w.reset .signedOut else w, false)
  | .unlock => (if w.epoch = task.expected then w.stopCrypto else w, false)
  | .register =>
    (if w.epoch = task.expected then
      w.stopCrypto.publish { phase := .signedOut, email := task.method.email }
    else w, false)

/-- The end of a method that returns; the handler of a registration is a `finally`. -/
def complete (w : AdminClient) (id : TaskId) (task : Task) : AdminClient :=
  let w := w.setTask id { task with rest := [], wait := .done }
  if .register ∈ task.catches then (w.handle task .other .register).1 else w

/-- `await ensureToken()` -/
def ensureToken (w : AdminClient) (now : Nat) (id : TaskId) (task : Task) (rest : List Act) :
    AdminClient :=
  match w.tokens with
  | none => w.reject id task .other task.catches
  | some tokens =>
    if now + 30000 < tokens.expiresAt then w.suspend id task rest .ready
    else
      match w.refresh with
      | some promise => w.suspend id task rest (.refreshed promise)
      | none =>
        { w.suspend id task rest (.refreshed w.refreshes.length) with
          refresh := some w.refreshes.length
          refreshes := w.refreshes ++ [{ token := tokens.refresh, expected := w.epoch }]
          sent := w.sent ++ [tokens.refresh] }

/-- The call of `sync` stands in a `try`. -/
def cryptoCatches (task : Task) : CryptoAction → List Catch
  | .organizations => .sync :: task.catches
  | _ => task.catches

/-- The port has been disposed of. -/
def Closed (w : AdminClient) (port : PortId) : Prop :=
  ∀ p, w.ports[port]? = some p → p.disposed = true

instance (w : AdminClient) (port : PortId) : Decidable (w.Closed port) :=
  decidable_of_iff (∀ p ∈ w.ports[port]?, p.disposed = true) Iff.rfl

/-- `await cryptoCall(…)`; a closed port rejects. -/
def cryptoCall (w : AdminClient) (id : TaskId) (task : Task) (rest : List Act)
    (action : CryptoAction) : AdminClient :=
  match w.port with
  | none => w.reject id task .crypto (cryptoCatches task action)
  | some port =>
    if w.Closed port then w.reject id task .crypto (cryptoCatches task action)
    else w.suspend id task rest (.reply port w.epoch action)

/-- The acts of one turn. -/
def run (now : Nat) (answer : Answer) (id : TaskId) :
    List Act → Task → AdminClient → AdminClient
  | [], task, w => w.complete id task
  | act :: rest, task, w =>
    match act with
    | .unlocked =>
      if w.state.phase = .unlocked then run now answer id rest task w
      else w.reject id task .crypto task.catches
    | .assertEpoch =>
      if w.Cancelled task.expected then w.reject id task .cancelled task.catches
      else run now answer id rest task w
    | .assertCurrent =>
      if w.Cancelled task.expected ∨ w.state.phase ≠ .unlocked then
        w.reject id task .cancelled task.catches
      else run now answer id rest task w
    | .ensureToken => w.ensureToken now id task rest
    | .request => w.suspend id task rest (.response w.epoch false)
    | .authorized => w.suspend id task rest (.response w.epoch true)
    | .newCrypto =>
      run now answer id rest task
        { w with port := some w.ports.length, ports := w.ports ++ [{}] }
    | .cryptoCall action => w.cryptoCall id task rest action
    | .readProfile =>
      match answer.profile with
      | some profile => run now answer id rest { task with current := some profile } w
      | none => w.reject id task .other task.catches
    | .installTokens =>
      match w.installTokens now answer.tokens with
      | some w' => run now answer id rest task w'
      | none => w.reject id task .other task.catches
    | .tryToken =>
      run now answer id rest { task with catches := .loginToken :: task.catches } w
    | .clearPending => run now answer id rest task { w with pending := none }
    | .publishUnlocked =>
      run now answer id rest task
        { w with
          profile := task.current
          state := { phase := .unlocked, email := task.current.map AdminProfile.email } }
    | .publishView => run now answer id rest task (w.publish w.state)
    | .syncBegin =>
      run now answer id rest
        { task with expectedEpoch := w.epoch, expectedSync := w.syncSequence + 1 }
        { w with syncSequence := w.syncSequence + 1 }
    | .syncCheck =>
      if w.Cancelled task.expectedEpoch then w.reject id task .cancelled task.catches
      else if task.expectedSync ≠ w.syncSequence then
        w.suspend id task ((rest.dropWhile (· ≠ .syncEnd)).drop 1) .ready
      else run now answer id rest task w
    | .syncEnd =>
      run now answer id rest task
        { w with
          profile := task.current
          state := { w.state with email := task.current.map AdminProfile.email } }

/-! ## Turns -/

/-- The next turn of a task: its continuation, or its next handler. `throws` when what it was
answered does not pass the checks. -/
def resume (w : AdminClient) (now : Nat) (id : TaskId) (answer : Answer) (throws : Bool) :
    AdminClient :=
  match w.tasks[id]? with
  | none => w
  | some task =>
    match task.wait with
    | .ready =>
      if throws then w.reject id task .other task.catches
      else run now answer id task.rest task w
    | .refreshed promise =>
      match w.refreshes[promise]?.map RefreshPromise.stage with
      | some (.settled true) => run now answer id task.rest task w
      | some (.settled false) => w.reject id task .other task.catches
      | _ => w
    | .failed error =>
      match task.catches with
      | [] => w.setTask id { task with wait := .done }
      | handler :: catches =>
        let handled := w.handle task error handler
        handled.1.setTask id
          { task with
            catches := catches
            wait := if handled.2 then .done else .failed error }
    | _ => w

/-- The handlers of a request. -/
def requestCatches (task : Task) (authorized : Bool) : List Catch :=
  if authorized then .authorized :: task.catches else task.catches

/-- A fetch ends; `request` goes on. -/
def respond (w : AdminClient) (id : TaskId) (result : FetchResult) : AdminClient :=
  match w.tasks[id]? with
  | none => w
  | some task =>
    match task.wait with
    | .response expected authorized =>
      let catches := requestCatches task authorized
      if w.Cancelled expected then w.reject id task .cancelled catches
      else
        match result with
        | .ok => w.setTask id { task with wait := .ready }
        | .error status => w.reject id task (.http status) catches
        | .totpChallenge => w.reject id task .totpChallenge catches
        | .failed => w.reject id task .other catches
    | _ => w

/-- The worker has completed the command. -/
def record (w : AdminClient) (port : PortId) (action : CryptoAction)
    (account : Option AdminProfile) : AdminClient :=
  match action, account with
  | .unlock, some profile =>
    { w with
      ports := w.ports.modify port fun p => { p with unlockedFor := profile :: p.unlockedFor } }
  | _, _ => w

/-- A worker answers, or its port rejects what is pending. -/
def reply (w : AdminClient) (id : TaskId) (ok : Bool) : AdminClient :=
  match w.tasks[id]? with
  | none => w
  | some task =>
    match task.wait with
    | .reply port expected action =>
      if w.Closed port then w.reject id task .cancelled (cryptoCatches task action)
      else if ok then
        let w := w.record port action task.current
        if w.Cancelled expected then w.reject id task .cancelled (cryptoCatches task action)
        else w.setTask id { task with wait := .ready }
      else w.reject id task .crypto (cryptoCatches task action)
    | _ => w

def setRefresh (w : AdminClient) (id : RefreshId) (promise : RefreshPromise) : AdminClient :=
  { w with refreshes := w.refreshes.set id promise }

/-- The fetch of a refresh ends. -/
def refreshRespond (w : AdminClient) (id : RefreshId) (result : FetchResult) : AdminClient :=
  match w.refreshes[id]? with
  | none => w
  | some promise =>
    if promise.stage = .request then
      w.setRefresh id { promise with
        stage :=
          if ¬ w.Cancelled promise.expected ∧ result = .ok then .thenInstall else .catchReset }
    else w

/-- The next turn of a refresh: `then`, `catch` or `finally`. -/
def refreshTurn (w : AdminClient) (now : Nat) (id : RefreshId) (answer : Answer) : AdminClient :=
  match w.refreshes[id]? with
  | none => w
  | some promise =>
    match promise.stage with
    | .thenInstall =>
      if w.Cancelled promise.expected then w.setRefresh id { promise with stage := .catchReset }
      else
        match w.installTokens now answer.tokens with
        | some w' => w'.setRefresh id { promise with stage := .finallyClear true }
        | none => w.setRefresh id { promise with stage := .catchReset }
    | .catchReset =>
      (if w.epoch = promise.expected then w.reset .expired else w).setRefresh id
        { promise with stage := .finallyClear false }
    | .finallyClear fulfilled =>
      { w.setRefresh id { promise with stage := .settled fulfilled } with
        refresh := if w.epoch = promise.expected then none else w.refresh }
    | _ => w

/-- A method begins its script. -/
def start (w : AdminClient) (now : Nat) (method : Method) (catches : List Catch) : AdminClient :=
  let task : Task := { method := method, expected := w.epoch, catches := catches }
  run now {} w.tasks.length method.script task { w with tasks := w.tasks ++ [task] }

/-- The call of a method. -/
def call (w : AdminClient) (now : Nat) : Method → AdminClient
  | .login email =>
    let w := w.reset .signedOut
    if email = "" then w
    else (w.publish { phase := .authenticating, email := email }).start now (.login email) [.login]
  | .verifyTotp =>
    match w.pending with
    | some current =>
      if w.state.phase = .totpRequired then w.start now .verifyTotp [.verifyTotp current] else w
    | none => w
  | .registerAccount email =>
    if w.state.phase = .signedOut ∨ w.state.phase = .expired then
      let w := w.reset .signedOut
      (w.publish { phase := .authenticating, email := email }).start now (.registerAccount email)
        [.register]
    else w
  | .unlock =>
    if w.state.phase = .locked ∧ w.profile.isSome then w.start now .unlock [.unlock] else w
  | .operation script => w.start now (.operation script) []

end AdminClient

/-- What may happen next. -/
inductive AdminEvent where
  | call (method : Method) (now : Nat)
  /-- The call, the idle timer, or a page that is hidden. -/
  | lock
  /-- `logout`, or a page that goes away. -/
  | logout
  | dispose
  | challengeTimer (expected : Nat)
  | respond (task : TaskId) (result : FetchResult)
  | reply (task : TaskId) (ok : Bool)
  | resume (task : TaskId) (now : Nat) (answer : Answer) (throws : Bool)
  | refreshRespond (promise : RefreshId) (result : FetchResult)
  | refreshTurn (promise : RefreshId) (now : Nat) (answer : Answer)
  deriving DecidableEq, Repr

namespace AdminEvent

def exec : AdminEvent → AdminClient → AdminClient
  | call method now, w => w.call now method
  | lock, w => w.lock
  | logout, w => w.reset .signedOut
  | dispose, w => { w.reset .signedOut with disposed := true }
  | challengeTimer expected, w =>
    if w.epoch = expected ∧ w.pending.isSome then w.reset .signedOut else w
  | respond task result, w => w.respond task result
  | reply task ok, w => w.reply task ok
  | resume task now answer throws, w => w.resume now task answer throws
  | refreshRespond promise result, w => w.refreshRespond promise result
  | refreshTurn promise now answer, w => w.refreshTurn now promise answer

/-- A refresh token is issued once. -/
def draws : AdminEvent → List String
  | resume _ _ answer _ | refreshTurn _ _ answer =>
    (answer.tokens.map TokenAnswer.refreshToken).toList
  | _ => []

/-- The methods called are the client's. -/
def Proper : AdminEvent → Prop
  | call (.operation script) _ => ∀ act ∈ script, act.General
  | _ => True

end AdminEvent

/-- The admin client, its turns and its surroundings in any order. -/
def adminClientSystem : System AdminClient AdminEvent String :=
  .ofFunction AdminEvent.exec AdminEvent.draws

end HonoWarden
