import HonoWarden.Notification.Hub

/-!
# Isolation of the notification hub

`hubSystem` takes the events of a hub in any order. The generation the hub works for is decided by
`advanceCredentialGeneration` alone, so its specification (`Advanced`) carries every invariant: the
active generation has the stamp that was presented, its time has not gone back, and the sockets
that stayed registered have that stamp.

Results:
* `HubWorld.advance_advanced`, `HubWorld.deliver_sent`: what an accepted generation and a loop of
  sends leave behind;
* `HubWorld.Isolated`: the invariant of the runs whose connects carry a generation;
* **`notification_hub_isolation`**: registered sockets have the active stamp, what is sent goes to
  them, the active time never goes back, and a socket that was superseded before its handshake is
  closed there and never hears of anything.
-/

namespace HonoWarden

open Relational

/-! ## The system -/

namespace HubEvent

variable (D : Decoders)

def exec : HubEvent → HubWorld → HubWorld
  | connect socket headers, w => (w.connect D socket headers).1
  | message socket data sendThrows, w => w.message D socket data sendThrows
  | notify body throwing, w => (w.notify D body throwing).1
  | invalidate headers, w => (w.invalidate D headers).1
  | close socket, w =>
    { w with hub := w.hub.removeSocket socket, opened := w.opened.filter (· ≠ socket) }
  | error socket, w => { w with hub := w.hub.removeSocket socket }
  | closing socket, w => { w with opened := w.opened.filter (· ≠ socket) }

/-- A connection has a socket of its own. -/
def draws : HubEvent → List SocketId
  | connect socket _ => [socket]
  | _ => []

/-- The generation the event brings to the hub. -/
def presented (w : HubWorld) : HubEvent → Option CredentialGeneration
  | connect _ headers =>
    match readCredentialGeneration D headers with
    | .generation generation =>
      if headers.upgrade.map String.toLower = some "websocket" then some generation else none
    | _ => none
  | message socket data _ =>
    if (readHandshakeProtocol D data).isSome then (w.accepted.lookup socket).join else none
  | notify body _ =>
    (parseNotification D body).bind AuthRequestNotificationDelivery.credentialGeneration
  | invalidate headers =>
    match readCredentialGeneration D headers with
    | .generation generation => some generation
    | _ => none
  | _ => none

/-- A connect carries a generation. -/
def Carries (_ : HubWorld) : HubEvent → Prop
  | connect _ headers => readCredentialGeneration D headers ≠ .absent
  | _ => True

instance (w : HubWorld) : ∀ event : HubEvent, Decidable (event.Carries D w)
  | connect _ headers => inferInstanceAs (Decidable (readCredentialGeneration D headers ≠ .absent))
  | message _ _ _ | notify _ _ | invalidate _ | close _ | error _ | closing _ => .isTrue trivial

/-- The message registers the socket, or tries to. -/
def HandshakeOf (socket : SocketId) : HubEvent → Prop
  | message socket' data _ => socket' = socket ∧ (readHandshakeProtocol D data).isSome
  | _ => False

end HubEvent

/-- The events of a hub, in any order. -/
def hubSystem (D : Decoders) : System HubWorld HubEvent SocketId :=
  .ofFunction (HubEvent.exec D) HubEvent.draws

/-! ## The invariant -/

/-- The socket was registered for the generation's stamp. -/
def SocketRegistration.Under (registration : SocketRegistration)
    (active : Option CredentialGeneration) : Prop :=
  ∃ generation current, registration.credentialGeneration = some generation ∧
    active = some current ∧ generation.securityStamp = current.securityStamp

/-- The time of the active generation has not gone back. -/
def NotBefore (active active' : Option CredentialGeneration) : Prop :=
  ∀ a, active = some a → ∃ a', active' = some a' ∧ a.revisionTime ≤ a'.revisionTime

theorem NotBefore.refl (active : Option CredentialGeneration) : NotBefore active active :=
  fun a h => ⟨a, h, le_rfl⟩

theorem NotBefore.trans {a b c : Option CredentialGeneration} (h : NotBefore a b)
    (h' : NotBefore b c) : NotBefore a c := by
  intro x hx
  obtain ⟨y, hy, hxy⟩ := h x hx
  obtain ⟨z, hz, hyz⟩ := h' y hy
  exact ⟨z, hz, hxy.trans hyz⟩

namespace HubWorld

/-- The hub works for another stamp than the generation's. -/
def Superseded (w : HubWorld) (generation : CredentialGeneration) : Prop :=
  ∃ active, w.hub.activeCredentialGeneration = some active ∧
    active.securityStamp ≠ generation.securityStamp

/-- Every registered socket has the active stamp, every listener keeps a generation that is not
newer than the active one, and whatever was sent went to a socket of the then active stamp. -/
structure Isolated (w : HubWorld) : Prop where
  registered : ∀ entry ∈ w.hub.sockets, entry.2.Under w.hub.activeCredentialGeneration
  listeners : ∀ entry ∈ w.accepted, ∃ generation, entry.2 = some generation ∧
    NotBefore (some generation) w.hub.activeCredentialGeneration
  sent : ∀ delivery ∈ w.delivered, delivery.registration.Under delivery.active

end HubWorld

/-! ## What the hub's operations do -/

namespace NotificationHub

@[simp] theorem removeSocket_active (hub : NotificationHub) (socket : SocketId) :
    (hub.removeSocket socket).activeCredentialGeneration = hub.activeCredentialGeneration := rfl

theorem mem_removeSocket {hub : NotificationHub} {socket : SocketId}
    {entry : SocketId × SocketRegistration} :
    entry ∈ (hub.removeSocket socket).sockets ↔ entry ∈ hub.sockets ∧ entry.1 ≠ socket := by
  simp [removeSocket, clearHeartbeat]

/-- `sockets.set` brings one entry. -/
theorem mem_setSocket {hub : NotificationHub} {socket : SocketId}
    {registration : SocketRegistration} {entry : SocketId × SocketRegistration}
    (h : entry ∈ (hub.setSocket socket registration).sockets) :
    entry = (socket, registration) ∨ entry ∈ hub.sockets := by
  unfold setSocket at h
  by_cases hany : hub.sockets.any (·.1 = socket)
  · rw [if_pos hany] at h
    obtain ⟨old, hold, rfl⟩ := List.mem_map.mp h
    by_cases heq : old.1 = socket
    · exact .inl (if_pos heq)
    · rw [if_neg heq]
      exact .inr hold
  · rw [if_neg hany] at h
    exact (List.mem_append.mp h).symm.imp_left (by simp)

theorem removeSockets_active (closed : List SocketId) (hub : NotificationHub) :
    (closed.foldl removeSocket hub).activeCredentialGeneration =
      hub.activeCredentialGeneration := by
  induction closed generalizing hub with
  | nil => rfl
  | cons socket closed ih => simpa using ih (hub.removeSocket socket)

theorem mem_removeSockets {closed : List SocketId} {hub : NotificationHub}
    {entry : SocketId × SocketRegistration} :
    entry ∈ (closed.foldl removeSocket hub).sockets ↔
      entry ∈ hub.sockets ∧ entry.1 ∉ closed := by
  induction closed generalizing hub with
  | nil => simp
  | cons socket closed ih =>
    simp only [List.foldl_cons, ih, mem_removeSocket, List.mem_cons, not_or]
    tauto

end NotificationHub

namespace HubWorld

/-- What an accepted generation does. -/
structure Advanced (w w' : HubWorld) (generation : CredentialGeneration) : Prop where
  active : ∃ active, w'.hub.activeCredentialGeneration = some active ∧
    active.securityStamp = generation.securityStamp
  presented : NotBefore (some generation) w'.hub.activeCredentialGeneration
  time : NotBefore w.hub.activeCredentialGeneration w'.hub.activeCredentialGeneration
  registered : (∀ entry ∈ w.hub.sockets, entry.2.Under w.hub.activeCredentialGeneration) →
    ∀ entry ∈ w'.hub.sockets, entry.2.Under w'.hub.activeCredentialGeneration
  sockets : ∀ entry ∈ w'.hub.sockets, entry ∈ w.hub.sockets
  accepted : w'.accepted = w.accepted
  opened : ∀ socket ∈ w'.opened, socket ∈ w.opened
  delivered : w'.delivered = w.delivered

theorem mem_replaceGeneration {hub : NotificationHub} {generation : CredentialGeneration}
    {entry : SocketId × SocketRegistration}
    (h : entry ∈ (hub.replaceGeneration generation).hub.sockets) :
    entry ∈ hub.sockets ∧
      entry.2.credentialGeneration.map CredentialGeneration.securityStamp =
        some generation.securityStamp := by
  obtain ⟨hmem, hclosed⟩ := NotificationHub.mem_removeSockets.mp h
  refine ⟨hmem, by_contra fun hstale => hclosed ?_⟩
  exact List.mem_map.mpr ⟨entry, List.mem_filter.mpr ⟨hmem, decide_eq_true hstale⟩, rfl⟩

theorem replaceGeneration_active (hub : NotificationHub) (generation : CredentialGeneration) :
    (hub.replaceGeneration generation).hub.activeCredentialGeneration = some generation :=
  NotificationHub.removeSockets_active _ _

/-- A generation that replaces another, or comes first. -/
theorem advance_replaced {w : HubWorld} {generation : CredentialGeneration}
    (h : w.hub.advanceCredentialGeneration generation = w.hub.replaceGeneration generation)
    (htime : ∀ a, w.hub.activeCredentialGeneration = some a →
      a.revisionTime ≤ generation.revisionTime) :
    Advanced w (w.advance generation) generation := by
  have hactive : (w.advance generation).hub.activeCredentialGeneration = some generation := by
    change (w.hub.advanceCredentialGeneration generation).hub.activeCredentialGeneration = _
    rw [h, replaceGeneration_active]
  have hsockets : ∀ entry ∈ (w.advance generation).hub.sockets, entry ∈ w.hub.sockets ∧
      entry.2.credentialGeneration.map CredentialGeneration.securityStamp =
        some generation.securityStamp := by
    intro entry hentry
    change entry ∈ (w.hub.advanceCredentialGeneration generation).hub.sockets at hentry
    rw [h] at hentry
    exact mem_replaceGeneration hentry
  refine ⟨⟨generation, hactive, rfl⟩, ?_, ?_, ?_, fun entry he => (hsockets entry he).1, rfl,
    fun _ hs => List.mem_of_mem_filter hs, rfl⟩
  · rw [hactive]
    exact NotBefore.refl _
  · intro a ha
    exact ⟨generation, hactive, htime a ha⟩
  · intro _ entry hentry
    obtain ⟨own, hown, hstamp⟩ := Option.map_eq_some_iff.mp (hsockets entry hentry).2
    exact ⟨own, generation, hown, hactive, hstamp⟩

/-- A generation of the stamp the hub already works for. -/
theorem advance_current {w : HubWorld} {generation active : CredentialGeneration}
    (hactive : w.hub.activeCredentialGeneration = some active)
    (hstamp : active.securityStamp = generation.securityStamp) :
    Advanced w (w.advance generation) generation := by
  have hadvance : w.advance generation = { w with
      hub := if active.revisionTime < generation.revisionTime then
        { w.hub with activeCredentialGeneration := some generation } else w.hub } := by
    simp [advance, NotificationHub.advanceCredentialGeneration, hactive, hstamp]
  rw [hadvance]
  by_cases hlater : active.revisionTime < generation.revisionTime
  · rw [if_pos hlater]
    refine ⟨⟨generation, rfl, rfl⟩, NotBefore.refl _, ?_, ?_, fun _ h => h, rfl, fun _ h => h, rfl⟩
    · intro a ha
      obtain rfl := Option.some.inj (hactive.symm.trans ha)
      exact ⟨generation, rfl, hlater.le⟩
    · intro hunder entry hentry
      obtain ⟨own, current, hown, hcurrent, heq⟩ := hunder entry hentry
      obtain rfl := Option.some.inj (hactive.symm.trans hcurrent)
      exact ⟨own, generation, hown, rfl, heq.trans hstamp⟩
  · rw [if_neg hlater]
    refine ⟨⟨active, hactive, hstamp⟩, ?_, NotBefore.refl _, fun h => h, fun _ h => h, rfl,
      fun _ h => h, rfl⟩
    intro a ha
    obtain rfl := Option.some.inj ha
    exact ⟨active, hactive, not_lt.mp hlater⟩

/-- **What is left when the hub has accepted a generation.** -/
theorem advance_advanced {w : HubWorld} {generation : CredentialGeneration}
    (h : w.Accepts generation) : Advanced w (w.advance generation) generation := by
  cases hactive : w.hub.activeCredentialGeneration with
  | none =>
    refine advance_replaced ?_ fun a ha => ?_
    · simp [NotificationHub.advanceCredentialGeneration, hactive]
    · rw [hactive] at ha
      cases ha
  | some active =>
    by_cases hstamp : active.securityStamp = generation.securityStamp
    · exact advance_current hactive hstamp
    · have hnewer : active.revisionTime < generation.revisionTime := by
        by_contra hold
        simp [Accepts, NotificationHub.advanceCredentialGeneration, hactive, hstamp,
          not_lt.mp hold] at h
      refine advance_replaced ?_ fun a ha => ?_
      · simp [NotificationHub.advanceCredentialGeneration, hactive, hstamp, hnewer]
      · obtain rfl := Option.some.inj (hactive.symm.trans ha)
        exact hnewer.le

/-- A superseded generation is accepted only when it is newer. -/
theorem not_accepts_superseded {w : HubWorld} {generation : CredentialGeneration}
    (h : w.Superseded generation)
    (hold : NotBefore (some generation) w.hub.activeCredentialGeneration) :
    ¬ w.Accepts generation := by
  obtain ⟨active, hactive, hstamp⟩ := h
  obtain ⟨active', hactive', htime⟩ := hold generation rfl
  obtain rfl := Option.some.inj (hactive.symm.trans hactive')
  simp [Accepts, NotificationHub.advanceCredentialGeneration, hactive, hstamp, htime]

/-- What a loop of sends leaves behind. -/
structure Sent (w w' : HubWorld) : Prop where
  active : w'.hub.activeCredentialGeneration = w.hub.activeCredentialGeneration
  sockets : ∀ entry ∈ w'.hub.sockets, entry ∈ w.hub.sockets
  accepted : w'.accepted = w.accepted
  opened : w'.opened = w.opened
  delivered : ∀ delivery ∈ w'.delivered, delivery ∈ w.delivered ∨
    ((delivery.socket, delivery.registration) ∈ w.hub.sockets ∧ delivery.socket ∈ w.opened ∧
      delivery.active = w.hub.activeCredentialGeneration)

theorem sendTo_sent {w w' : HubWorld} (notification : AuthRequestNotificationDelivery)
    (throwing : List SocketId) {entry : SocketId × SocketRegistration}
    (hentry : entry ∈ w.hub.sockets) (h : Sent w w') :
    Sent w (sendTo notification throwing w' entry) := by
  unfold sendTo
  by_cases hskip : entry.1 ∉ w'.opened ∨ entry.1 ∈ throwing
  · rw [if_pos hskip]
    exact ⟨h.active, fun e he => h.sockets e (NotificationHub.mem_removeSocket.mp he).1,
      h.accepted, h.opened, h.delivered⟩
  · rw [if_neg hskip]
    push Not at hskip
    refine ⟨h.active, h.sockets, h.accepted, h.opened, fun delivery hdelivery => ?_⟩
    rcases List.mem_append.mp hdelivery with hbefore | hnow
    · exact h.delivered delivery hbefore
    · rw [List.mem_singleton.mp hnow]
      exact .inr ⟨hentry, h.opened ▸ hskip.1, h.active⟩

/-- **The loop of `notify` sends to registered open sockets.** -/
theorem deliver_sent (w : HubWorld) (notification : AuthRequestNotificationDelivery)
    (throwing : List SocketId) : Sent w (w.deliver notification throwing) := by
  have hloop : ∀ (entries : List (SocketId × SocketRegistration)) (w' : HubWorld),
      (∀ entry ∈ entries, entry ∈ w.hub.sockets) → Sent w w' →
        Sent w (entries.foldl (sendTo notification throwing) w') := by
    intro entries
    induction entries with
    | nil => exact fun w' _ h => h
    | cons entry entries ih =>
      intro w' hmem h
      exact ih _ (fun e he => hmem e (List.mem_cons_of_mem _ he))
        (sendTo_sent notification throwing (hmem entry List.mem_cons_self) h)
  exact hloop _ w (fun _ h => h) ⟨rfl, fun _ h => h, rfl, rfl, fun _ h => .inl h⟩

/-! ## The invariant over a run -/

namespace Isolated

variable {w w' : HubWorld} {generation : CredentialGeneration}

theorem advanced (h : w.Isolated) (ha : Advanced w w' generation) : w'.Isolated where
  registered := ha.registered h.registered
  listeners := by
    intro entry hentry
    rw [ha.accepted] at hentry
    obtain ⟨own, hown, hold⟩ := h.listeners entry hentry
    exact ⟨own, hown, hold.trans ha.time⟩
  sent := by
    rw [ha.delivered]
    exact h.sent

/-- Sockets that leave, and peers that go away. -/
theorem fewer (h : w.Isolated)
    (hactive : w'.hub.activeCredentialGeneration = w.hub.activeCredentialGeneration)
    (hsockets : ∀ entry ∈ w'.hub.sockets, entry ∈ w.hub.sockets)
    (haccepted : w'.accepted = w.accepted) (hdelivered : w'.delivered = w.delivered) :
    w'.Isolated where
  registered := by
    intro entry hentry
    rw [hactive]
    exact h.registered entry (hsockets entry hentry)
  listeners := by
    rw [hactive, haccepted]
    exact h.listeners
  sent := by
    rw [hdelivered]
    exact h.sent

theorem accept (h : w.Isolated) (socket : SocketId)
    (hold : NotBefore (some generation) w.hub.activeCredentialGeneration) :
    (w.accept socket (some generation)).Isolated where
  registered := h.registered
  listeners := by
    intro entry hentry
    rcases List.mem_cons.mp hentry with rfl | hentry
    · exact ⟨generation, rfl, hold⟩
    · exact h.listeners entry hentry
  sent := h.sent

theorem register (h : w.Isolated) (socket : SocketId) {registration : SocketRegistration}
    (hunder : registration.Under w.hub.activeCredentialGeneration) (sendThrows : Bool) :
    (w.register socket registration sendThrows).Isolated := by
  have hmem : ∀ entry ∈ (w.register socket registration sendThrows).hub.sockets,
      entry = (socket, registration) ∨ entry ∈ w.hub.sockets := by
    intro entry hentry
    have hset : entry ∈ ((w.hub.clearHeartbeat socket).setSocket socket registration).sockets := by
      cases sendThrows <;> exact hentry
    exact NotificationHub.mem_setSocket hset
  have hactive : (w.register socket registration sendThrows).hub.activeCredentialGeneration =
      w.hub.activeCredentialGeneration := by
    cases sendThrows <;> rfl
  refine ⟨fun entry hentry => ?_, ?_, h.sent⟩
  · rw [hactive]
    rcases hmem entry hentry with rfl | hold
    · exact hunder
    · exact h.registered entry hold
  · rw [hactive]
    exact h.listeners

theorem sends (h : w.Isolated) (hs : Sent w w') : w'.Isolated where
  registered := by
    intro entry hentry
    rw [hs.active]
    exact h.registered entry (hs.sockets entry hentry)
  listeners := by
    rw [hs.active, hs.accepted]
    exact h.listeners
  sent := by
    intro delivery hdelivery
    rcases hs.delivered delivery hdelivery with hbefore | ⟨hmem, -, hactive⟩
    · exact h.sent delivery hbefore
    · rw [hactive]
      exact h.registered _ hmem

end Isolated

theorem mem_of_lookup {socket : SocketId} {kept : Option CredentialGeneration}
    {entries : List (SocketId × Option CredentialGeneration)}
    (h : entries.lookup socket = some kept) : (socket, kept) ∈ entries := by
  obtain ⟨front, back, rfl, -⟩ := List.lookup_eq_some_iff.mp h
  simp

end HubWorld

namespace HubEvent

variable {D : Decoders}

/-- **Every event keeps the isolation.** -/
theorem exec_isolated {w : HubWorld} (event : HubEvent) (hcarries : event.Carries D w)
    (h : w.Isolated) : (event.exec D w).Isolated := by
  cases event with
  | connect socket headers =>
    change (w.connect D socket headers).1.Isolated
    unfold HubWorld.connect
    split
    · exact h
    split
    · exact h
    · rename_i habsent
      exact absurd habsent hcarries
    · split
      · rename_i haccepts
        have hadv := HubWorld.advance_advanced haccepts
        exact (h.advanced hadv).accept socket hadv.presented
      · exact h
  | message socket data sendThrows =>
    change (w.message D socket data sendThrows).Isolated
    unfold HubWorld.message
    split
    · split
      · rename_i haccepts
        have hadv := HubWorld.advance_advanced haccepts
        obtain ⟨active, hactive, hstamp⟩ := hadv.active
        exact (h.advanced hadv).register socket ⟨_, active, rfl, hactive, hstamp.symm⟩ sendThrows
      · exact h.fewer rfl (fun entry he => (NotificationHub.mem_removeSocket.mp he).1) rfl rfl
    · rename_i hlookup
      obtain ⟨_, hnone, -⟩ := h.listeners _ (HubWorld.mem_of_lookup hlookup)
      cases hnone
    · exact h
  | notify body throwing =>
    change (w.notify D body throwing).1.Isolated
    unfold HubWorld.notify
    split
    · exact h
    split
    · exact h.sends (w.deliver_sent _ throwing)
    · split
      · rename_i haccepts
        exact (h.advanced (HubWorld.advance_advanced haccepts)).sends
          (HubWorld.deliver_sent _ _ throwing)
      · exact h
  | invalidate headers =>
    change (w.invalidate D headers).1.Isolated
    unfold HubWorld.invalidate
    split
    · split
      · rename_i haccepts
        exact h.advanced (HubWorld.advance_advanced haccepts)
      · exact h
    · exact h
  | close socket =>
    exact h.fewer rfl (fun entry he => (NotificationHub.mem_removeSocket.mp he).1) rfl rfl
  | error socket =>
    exact h.fewer rfl (fun entry he => (NotificationHub.mem_removeSocket.mp he).1) rfl rfl
  | closing socket => exact h.fewer rfl (fun _ he => he) rfl rfl

/-- What any event may change, whatever the generations. -/
structure Moved (D : Decoders) (event : HubEvent) (w w' : HubWorld) : Prop where
  time : NotBefore w.hub.activeCredentialGeneration w'.hub.activeCredentialGeneration
  opened : ∀ socket ∈ w'.opened, socket ∈ w.opened ∨ socket ∈ event.draws
  registered : ∀ entry ∈ w'.hub.sockets, entry ∈ w.hub.sockets ∨ event.HandshakeOf D entry.1
  accepted : ∀ entry ∈ w'.accepted, entry ∈ w.accepted ∨ entry.1 ∈ event.draws
  delivered : ∀ delivery ∈ w'.delivered, delivery ∈ w.delivered ∨
    ((delivery.socket, delivery.registration) ∈ w.hub.sockets ∧ delivery.socket ∈ w.opened)

namespace Moved

variable {event : HubEvent} {w w' w'' : HubWorld} {generation : CredentialGeneration}

theorem refl (event : HubEvent) (w : HubWorld) : Moved D event w w :=
  ⟨NotBefore.refl _, fun _ h => .inl h, fun _ h => .inl h, fun _ h => .inl h, fun _ h => .inl h⟩

theorem advanced (h : HubWorld.Advanced w w' generation) : Moved D event w w' where
  time := h.time
  opened := fun socket hs => .inl (h.opened socket hs)
  registered := fun entry he => .inl (h.sockets entry he)
  accepted := by
    rw [h.accepted]
    exact fun _ he => .inl he
  delivered := by
    rw [h.delivered]
    exact fun _ hd => .inl hd

/-- Sockets that leave, and peers that go away. -/
theorem fewer (hactive : w'.hub.activeCredentialGeneration = w.hub.activeCredentialGeneration)
    (hsockets : ∀ entry ∈ w'.hub.sockets, entry ∈ w.hub.sockets)
    (hopened : ∀ socket ∈ w'.opened, socket ∈ w.opened) (haccepted : w'.accepted = w.accepted)
    (hdelivered : w'.delivered = w.delivered) : Moved D event w w' where
  time := by
    rw [hactive]
    exact NotBefore.refl _
  opened := fun socket hs => .inl (hopened socket hs)
  registered := fun entry he => .inl (hsockets entry he)
  accepted := by
    rw [haccepted]
    exact fun _ he => .inl he
  delivered := by
    rw [hdelivered]
    exact fun _ hd => .inl hd

theorem accept (h : Moved D event w w') {socket : SocketId} (hdraw : socket ∈ event.draws)
    (generation : Option CredentialGeneration) :
    Moved D event w (w'.accept socket generation) where
  time := h.time
  opened := by
    intro socket' hs
    rcases List.mem_cons.mp hs with rfl | hs
    · exact .inr hdraw
    · exact h.opened socket' hs
  registered := h.registered
  accepted := by
    intro entry he
    rcases List.mem_cons.mp he with rfl | he
    · exact .inr hdraw
    · exact h.accepted entry he
  delivered := h.delivered

theorem register (h : Moved D event w w') {socket : SocketId} {registration : SocketRegistration}
    (hhandshake : event.HandshakeOf D socket) (sendThrows : Bool) :
    Moved D event w (w'.register socket registration sendThrows) where
  time := by
    cases sendThrows <;> exact h.time
  opened := h.opened
  registered := by
    intro entry hentry
    have hset : entry ∈
        ((w'.hub.clearHeartbeat socket).setSocket socket registration).sockets := by
      cases sendThrows <;> exact hentry
    rcases NotificationHub.mem_setSocket hset with rfl | hold
    · exact .inr hhandshake
    · exact h.registered entry hold
  accepted := h.accepted
  delivered := h.delivered

theorem sends (h : HubWorld.Advanced w w' generation) (hs : HubWorld.Sent w' w'') :
    Moved D event w w'' where
  time := by
    rw [hs.active]
    exact h.time
  opened := by
    rw [hs.opened]
    exact fun socket ho => .inl (h.opened socket ho)
  registered := fun entry he => .inl (h.sockets entry (hs.sockets entry he))
  accepted := by
    rw [hs.accepted, h.accepted]
    exact fun _ he => .inl he
  delivered := by
    intro delivery hd
    rcases hs.delivered delivery hd with hbefore | ⟨hmem, hopened, -⟩
    · exact .inl (h.delivered ▸ hbefore)
    · exact .inr ⟨h.sockets _ hmem, h.opened _ hopened⟩

end Moved

theorem handshakeOf_message {socket : SocketId} {data : Option String} {protocol : Protocol}
    (h : readHandshakeProtocol D data = some protocol) (sendThrows : Bool) :
    (message socket data sendThrows).HandshakeOf D socket :=
  ⟨rfl, Option.isSome_of_eq_some h⟩

theorem exec_moved (event : HubEvent) (w : HubWorld) : Moved D event w (event.exec D w) := by
  cases event with
  | connect socket headers =>
    change Moved D _ w (w.connect D socket headers).1
    have hdraw : socket ∈ (connect socket headers).draws := List.mem_singleton.mpr rfl
    unfold HubWorld.connect
    split
    · exact .refl _ _
    split
    · exact .refl _ _
    · exact (Moved.refl _ w).accept hdraw none
    · split
      · rename_i haccepts
        exact (Moved.advanced (HubWorld.advance_advanced haccepts)).accept hdraw _
      · exact .refl _ _
  | message socket data sendThrows =>
    change Moved D _ w (w.message D socket data sendThrows)
    unfold HubWorld.message
    split
    · rename_i hprotocol _
      split
      · rename_i haccepts
        exact (Moved.advanced (HubWorld.advance_advanced haccepts)).register
          (handshakeOf_message hprotocol sendThrows) sendThrows
      · exact .fewer rfl (fun entry he => (NotificationHub.mem_removeSocket.mp he).1)
          (fun _ hs => List.mem_of_mem_filter hs) rfl rfl
    · rename_i hprotocol _
      exact (Moved.refl _ w).register (handshakeOf_message hprotocol sendThrows) sendThrows
    · exact .refl _ _
  | notify body throwing =>
    change Moved D _ w (w.notify D body throwing).1
    unfold HubWorld.notify
    split
    · exact .refl _ _
    · rename_i notification _
      split
      · have hs := w.deliver_sent notification throwing
        refine ⟨?_, ?_, fun entry he => .inl (hs.sockets entry he), ?_, fun delivery hd => ?_⟩
        · rw [hs.active]
          exact NotBefore.refl _
        · rw [hs.opened]
          exact fun socket ho => .inl ho
        · rw [hs.accepted]
          exact fun entry he => .inl he
        · exact (hs.delivered delivery hd).imp_right fun h => ⟨h.1, h.2.1⟩
      · split
        · rename_i haccepts
          exact .sends (HubWorld.advance_advanced haccepts) (HubWorld.deliver_sent _ _ throwing)
        · exact .refl _ _
  | invalidate headers =>
    change Moved D _ w (w.invalidate D headers).1
    unfold HubWorld.invalidate
    split
    · split
      · rename_i haccepts
        exact .advanced (HubWorld.advance_advanced haccepts)
      · exact .refl _ _
    · exact .refl _ _
  | close socket =>
    exact .fewer rfl (fun entry he => (NotificationHub.mem_removeSocket.mp he).1)
      (fun _ hs => List.mem_of_mem_filter hs) rfl rfl
  | error socket =>
    exact .fewer rfl (fun entry he => (NotificationHub.mem_removeSocket.mp he).1)
      (fun _ hs => hs) rfl rfl
  | closing socket =>
    exact .fewer rfl (fun _ he => he) (fun _ hs => List.mem_of_mem_filter hs) rfl rfl

/-- An event whose generation is accepted leaves only sockets of its stamp registered. -/
theorem exec_accepted {event : HubEvent} {w : HubWorld} {generation : CredentialGeneration}
    (hpresented : event.presented D w = some generation) (haccepts : w.Accepts generation) :
    ∃ active, (event.exec D w).hub.activeCredentialGeneration = some active ∧
      active.securityStamp = generation.securityStamp := by
  have hadv := HubWorld.advance_advanced haccepts
  obtain ⟨active, hactive, hstamp⟩ := hadv.active
  refine ⟨active, ?_, hstamp⟩
  cases event with
  | connect socket headers =>
    change (w.connect D socket headers).1.hub.activeCredentialGeneration = _
    simp only [presented] at hpresented
    unfold HubWorld.connect
    split at hpresented
    · rename_i hread
      split at hpresented
      · rename_i hupgrade
        obtain rfl := Option.some.inj hpresented
        rw [if_neg (not_not.mpr hupgrade)]
        simp only [hread, if_pos haccepts]
        exact hactive
      · cases hpresented
    · cases hpresented
  | message socket data sendThrows =>
    change (w.message D socket data sendThrows).hub.activeCredentialGeneration = _
    simp only [presented] at hpresented
    unfold HubWorld.message
    split at hpresented
    · rename_i hsome
      obtain ⟨protocol, hprotocol⟩ := Option.isSome_iff_exists.mp hsome
      have hlookup : w.accepted.lookup socket = some (some generation) := by
        simpa [Option.join_eq_some_iff] using hpresented
      simp only [hprotocol, hlookup, if_pos haccepts]
      cases sendThrows <;> exact hactive
    · cases hpresented
  | notify body throwing =>
    change (w.notify D body throwing).1.hub.activeCredentialGeneration = _
    obtain ⟨notification, hparse, hgeneration⟩ := Option.bind_eq_some_iff.mp hpresented
    unfold HubWorld.notify
    simp only [hparse, hgeneration, if_pos haccepts]
    rw [(HubWorld.deliver_sent _ _ _).active]
    exact hactive
  | invalidate headers =>
    change (w.invalidate D headers).1.hub.activeCredentialGeneration = _
    simp only [presented] at hpresented
    unfold HubWorld.invalidate
    split at hpresented
    · rename_i hread
      obtain rfl := Option.some.inj hpresented
      simp only [hread, if_pos haccepts]
      exact hactive
    · cases hpresented
  | close socket => cases hpresented
  | error socket => cases hpresented
  | closing socket => cases hpresented

/-- A superseded socket is closed at its handshake. -/
theorem exec_superseded {w : HubWorld} (h : w.Isolated) {socket : SocketId}
    {generation : CredentialGeneration} {data : Option String} (sendThrows : Bool)
    (hlookup : w.accepted.lookup socket = some (some generation))
    (hsuperseded : w.Superseded generation) (hdata : (readHandshakeProtocol D data).isSome) :
    (message socket data sendThrows).exec D w = w.closeSocket socket := by
  obtain ⟨own, hown, hold⟩ := h.listeners _ (HubWorld.mem_of_lookup hlookup)
  obtain rfl := Option.some.inj hown
  obtain ⟨protocol, hprotocol⟩ := Option.isSome_iff_exists.mp hdata
  change w.message D socket data sendThrows = _
  unfold HubWorld.message
  simp only [hprotocol, hlookup, if_neg (HubWorld.not_accepts_superseded hsuperseded hold)]

end HubEvent

/-! ## Runs -/

section Runs

variable {D : Decoders}

/-- The runs whose connects carry a generation. -/
abbrev credentialedHub (D : Decoders) : System HubWorld HubEvent SocketId :=
  (hubSystem D).restrict (HubEvent.Carries D)

variable {c c' : Config HubWorld SocketId} {ls : List HubEvent}

theorem next_moved {event : HubEvent} (h : (credentialedHub D).Next c event c') :
    HubEvent.Moved D event c.state c'.state := by
  have heq : c'.state = event.exec D c.state := h.step.1
  rw [heq]
  exact event.exec_moved c.state

theorem run_isolated (h : Run (credentialedHub D) c ls c') (h0 : c.state.Isolated) :
    c'.state.Isolated := by
  refine h.invariant (I := fun c => c.state.Isolated) h0 fun {c l c'} hnext hi => ?_
  have heq : c'.state = l.exec D c.state := hnext.step.1
  rw [heq]
  exact l.exec_isolated hnext.step.2 hi

/-- The active time never goes back. -/
theorem run_notBefore (h : Run (credentialedHub D) c ls c') :
    NotBefore c.state.hub.activeCredentialGeneration c'.state.hub.activeCredentialGeneration :=
  h.invariant (I := fun d => NotBefore c.state.hub.activeCredentialGeneration
    d.state.hub.activeCredentialGeneration) (NotBefore.refl _)
    fun hnext hi => hi.trans (next_moved hnext).time

/-- Before its handshake a socket is not registered and has heard of nothing. -/
theorem run_before_handshake (h : Run (credentialedHub D) { state := {} } ls c) :
    (∀ entry ∈ c.state.hub.sockets, ∃ l ∈ ls, l.HandshakeOf D entry.1) ∧
      ∀ delivery ∈ c.state.delivered, ∃ l ∈ ls, l.HandshakeOf D delivery.socket := by
  refine h.invariant_trace (I := fun ls c =>
    (∀ entry ∈ c.state.hub.sockets, ∃ l ∈ ls, l.HandshakeOf D entry.1) ∧
      ∀ delivery ∈ c.state.delivered, ∃ l ∈ ls, l.HandshakeOf D delivery.socket)
    ⟨by simp, by simp⟩ fun {ls c l c'} hnext hi => ?_
  have hm := next_moved hnext
  have hlater : ∀ {socket}, (∃ l' ∈ ls, l'.HandshakeOf D socket) →
      ∃ l' ∈ ls ++ [l], l'.HandshakeOf D socket := by
    rintro socket ⟨l', hl', hs⟩
    exact ⟨l', List.mem_append_left _ hl', hs⟩
  constructor
  · intro entry hentry
    rcases hm.registered entry hentry with hold | hnow
    · exact hlater (hi.1 entry hold)
    · exact ⟨l, by simp, hnow⟩
  · intro delivery hdelivery
    rcases hm.delivered delivery hdelivery with hold | ⟨hreg, -⟩
    · exact hlater (hi.2 delivery hold)
    · exact hlater (hi.1 _ hreg)

/-- Every accepted socket has been drawn. -/
theorem run_accepted_issued (h : Run (credentialedHub D) { state := {} } ls c) :
    ∀ entry ∈ c.state.accepted, entry.1 ∈ c.issued := by
  refine h.invariant (I := fun c => ∀ entry ∈ c.state.accepted, entry.1 ∈ c.issued)
    (by simp) fun {c l c'} hnext hi entry hentry => ?_
  rcases (next_moved hnext).accepted entry hentry with hold | hdraw
  · exact hnext.issued_subset _ (hi entry hold)
  · exact hnext.drawn_mem _ hdraw

/-- A socket that was closed never hears of anything again. -/
theorem run_closed {socket : SocketId} (h : Run (credentialedHub D) c ls c')
    (hissued : socket ∈ c.issued) (hclosed : socket ∉ c.state.opened) :
    ∀ delivery ∈ c'.state.delivered, delivery.socket = socket → delivery ∈ c.state.delivered := by
  have hkept := h.invariant (I := fun d => socket ∈ d.issued ∧ socket ∉ d.state.opened ∧
    ∀ delivery ∈ d.state.delivered, delivery.socket = socket → delivery ∈ c.state.delivered)
    ⟨hissued, hclosed, fun _ hd _ => hd⟩ fun {d l d'} hnext hi => ?_
  · exact hkept.2.2
  obtain ⟨hknown, hshut, hheard⟩ := hi
  have hm := next_moved hnext
  refine ⟨hnext.issued_subset socket hknown, fun hopen => ?_, fun delivery hd heq => ?_⟩
  · rcases hm.opened socket hopen with hbefore | hdraw
    · exact hshut hbefore
    · exact hnext.fresh socket hdraw hknown
  · rcases hm.delivered delivery hd with hbefore | ⟨-, hopen⟩
    · exact hheard delivery hbefore heq
    · exact absurd (heq ▸ hopen) hshut

/-- **The isolation of a notification hub.** In every run whose connects carry a generation: every
registered socket has the active stamp; once the hub accepts a generation they have its stamp; a
notification goes to sockets of the active stamp; the active time never goes back; and a socket
whose generation was superseded before its handshake is closed at the handshake and never
receives a notification. -/
theorem notification_hub_isolation (h : Run (credentialedHub D) { state := {} } ls c) :
    (∀ entry ∈ c.state.hub.sockets, entry.2.Under c.state.hub.activeCredentialGeneration) ∧
    (∀ l c' generation, (credentialedHub D).Next c l c' → l.presented D c.state = some generation →
      c.state.Accepts generation → ∀ entry ∈ c'.state.hub.sockets,
        entry.2.credentialGeneration.map CredentialGeneration.securityStamp =
          some generation.securityStamp) ∧
    (∀ delivery ∈ c.state.delivered, delivery.registration.Under delivery.active) ∧
    (∀ ls' c', Run (credentialedHub D) c ls' c' → NotBefore
      c.state.hub.activeCredentialGeneration c'.state.hub.activeCredentialGeneration) ∧
    ∀ socket generation, c.state.accepted.lookup socket = some (some generation) →
      (∀ l ∈ ls, ¬ l.HandshakeOf D socket) → c.state.Superseded generation →
      ∀ data sendThrows c', (readHandshakeProtocol D data).isSome →
        (credentialedHub D).Next c (.message socket data sendThrows) c' →
        c'.state = c.state.closeSocket socket ∧
          ∀ ls' c'', Run (credentialedHub D) c' ls' c'' →
            ∀ delivery ∈ c''.state.delivered, delivery.socket ≠ socket := by
  have hisolated : c.state.Isolated := run_isolated h ⟨by simp, by simp, by simp⟩
  refine ⟨hisolated.registered, ?_, hisolated.sent, fun ls' c' hrun => run_notBefore hrun, ?_⟩
  · intro l c' generation hnext hpresented haccepts entry hentry
    have heq : c'.state = l.exec D c.state := hnext.step.1
    have hafter : c'.state.Isolated := by
      rw [heq]
      exact l.exec_isolated hnext.step.2 hisolated
    obtain ⟨active, hactive, hstamp⟩ := HubEvent.exec_accepted hpresented haccepts
    obtain ⟨own, current, hown, hcurrent, hsame⟩ := hafter.registered entry hentry
    rw [heq, hactive] at hcurrent
    obtain rfl := Option.some.inj hcurrent
    rw [hown, Option.map_some, hsame, hstamp]
  · intro socket generation hlookup hunregistered hsuperseded data sendThrows c' hdata hnext
    have hclosed : c'.state = c.state.closeSocket socket :=
      hnext.step.1.trans
        (HubEvent.exec_superseded hisolated sendThrows hlookup hsuperseded hdata)
    refine ⟨hclosed, fun ls' c'' hrun delivery hdelivery heq => ?_⟩
    have hissued : socket ∈ c'.issued :=
      hnext.issued_subset _ (run_accepted_issued h _ (HubWorld.mem_of_lookup hlookup))
    have hshut : socket ∉ c'.state.opened := by
      rw [hclosed]
      simp [HubWorld.closeSocket]
    have hbefore := run_closed hrun hissued hshut delivery hdelivery heq
    rw [hclosed] at hbefore
    obtain ⟨l, hl, hhandshake⟩ := (run_before_handshake h).2 delivery hbefore
    exact hunregistered l hl (heq ▸ hhandshake)

end Runs

/-! ## A superseded socket -/

/-- The parsers on the texts of the run below. -/
def hubDecoders : Decoders where
  dateParse text :=
    [("2026-07-19T00:00:00.000Z", 1784419200000), ("2026-07-19T00:00:01.000Z", 1784419201000)].lookup
      text
  jsonParse text :=
    [("\x7b\"protocol\":\"json\",\"version\":1\x7d",
      Json.object [("protocol", .string "json"), ("version", .number 1)])].lookup text

/-- The headers of a client of the credential generation. -/
def hubClient (securityStamp revision : String) : HubHeaders where
  upgrade := some "websocket"
  securityStamp := some securityStamp
  credentialRevision := some revision

/-- The handshake of a client. -/
def hubHandshake : Option String := some "\x7b\"protocol\":\"json\",\"version\":1\x7d\x1e"

/-- The first socket waits while the credential changes; the second is of the new generation and
hears of a request. -/
def hubLabels : List HubEvent :=
  [.connect 1 (hubClient "stale" "2026-07-19T00:00:00.000Z"),
    .invalidate (hubClient "current" "2026-07-19T00:00:01.000Z"),
    .connect 2 (hubClient "current" "2026-07-19T00:00:01.000Z"),
    .message 2 hubHandshake false,
    .notify (some (.object [("requestId", .string "request-123"), ("userId", .string "user-456"),
      ("type", .number 15), ("securityStamp", .string "current"),
      ("revisionDate", .string "2026-07-19T00:00:01.000Z")])) []]

def hubEnd : Config HubWorld SocketId :=
  (replay (HubEvent.exec hubDecoders) HubEvent.draws { state := {} } hubLabels).get
    (by decide +kernel)

theorem hubRun : Run (credentialedHub hubDecoders) { state := {} } hubLabels hubEnd :=
  replay_restrict (Option.some_get _).symm (by decide +kernel)

theorem notification_hub_isolation_stale :
    hubEnd.state.delivered.map Delivery.socket = [2] ∧
    (∀ entry ∈ hubEnd.state.hub.sockets,
      entry.2.Under hubEnd.state.hub.activeCredentialGeneration) ∧
    ∀ c', (credentialedHub hubDecoders).Next hubEnd (.message 1 hubHandshake false) c' →
      c'.state = hubEnd.state.closeSocket 1 ∧
        ∀ ls' c'', Run (credentialedHub hubDecoders) c' ls' c'' →
          ∀ delivery ∈ c''.state.delivered, delivery.socket ≠ 1 := by
  have h := notification_hub_isolation hubRun
  refine ⟨by decide +kernel, h.1, fun c' hnext => ?_⟩
  refine h.2.2.2.2 1 ⟨"stale", "2026-07-19T00:00:00.000Z", 1784419200000⟩ (by decide +kernel) ?_
    ⟨⟨"current", "2026-07-19T00:00:01.000Z", 1784419201000⟩, by decide +kernel,
      by decide⟩ hubHandshake false c' (by decide +kernel) hnext
  simp [hubLabels, HubEvent.HandshakeOf]

end HonoWarden
