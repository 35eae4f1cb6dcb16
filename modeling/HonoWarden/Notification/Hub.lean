import HonoWarden.Relational.Run
import HonoWarden.Wire

/-!
# The notification hub

The model of `NotificationHub` (`notification-hub.ts`), the durable object that holds the
WebSockets of one user. A socket has two phases: `connect` accepts it and keeps the credential
generation of its request in the listener, and the first message with a protocol registers it.
The generation the hub works for (`activeCredentialGeneration`) advances from `connect`, from a
handshake, from `notify` and from `invalidate`.

* `HubWorld` is the hub with the sockets around it: the listeners, which sockets are `OPEN`, and
  what has been sent to whom. `close()` makes a socket not `OPEN`, whether it throws or not.
* What a third party decides is in the event: which `send` throws, when a peer goes away.
* `Date.parse` and `JSON.parse` are the parameter `Decoders`.

Pings and the fields of the encoded message decide nothing and are left out.
-/

namespace HonoWarden

open Relational

inductive Protocol where
  | json
  | messagepack
  deriving DecidableEq, Repr

structure CredentialGeneration where
  securityStamp : String
  revisionDate : String
  revisionTime : Int
  deriving DecidableEq, Repr

inductive AuthRequestNotificationType where
  | pending
  | response
  deriving DecidableEq, Repr

structure AuthRequestNotificationDelivery where
  requestId : String
  userId : String
  type : AuthRequestNotificationType
  credentialGeneration : Option CredentialGeneration
  deriving DecidableEq, Repr

/-- The headers `connect` and `invalidate` read. -/
structure HubHeaders where
  upgrade : Option String := none
  securityStamp : Option String := none
  credentialRevision : Option String := none
  deriving DecidableEq, Repr

/-- What `readCredentialGeneration` returns. -/
inductive ReadGeneration where
  | absent
  | invalid
  | generation (generation : CredentialGeneration)
  deriving DecidableEq, Repr

section Parsers

variable (D : Decoders)

def parseCredentialGeneration (securityStamp revisionDate : Option Json) :
    Option CredentialGeneration :=
  match securityStamp, revisionDate with
  | some (.string stamp), some (.string date) =>
    if jsLength stamp < 1 ∨ 128 < jsLength stamp ∨ jsLength date < 1 ∨ 64 < jsLength date then none
    else (D.dateParse date).map fun time => ⟨stamp, date, time⟩
  | _, _ => none

def readCredentialGeneration (headers : HubHeaders) : ReadGeneration :=
  if headers.securityStamp = none ∧ headers.credentialRevision = none then .absent
  else
    match parseCredentialGeneration D (headers.securityStamp.map .string)
        (headers.credentialRevision.map .string) with
    | some generation => .generation generation
    | none => .invalid

/-- The protocol of the first frame that names one; a frame that does not parse ends the search. -/
def protocolOfFrames : List (List Char) → Option Protocol
  | [] => none
  | [] :: frames => protocolOfFrames frames
  | frame :: frames =>
    match D.jsonParse (String.ofList frame) with
    | none => none
    | some value =>
      match value.get? "version", value.get? "protocol" with
      | some (.number 1), some (.string "json") => some .json
      | some (.number 1), some (.string "messagepack") => some .messagepack
      | _, _ => protocolOfFrames frames

/-- `data` is the decoded text, `none` when `TextDecoder` throws. -/
def readHandshakeProtocol (data : Option String) : Option Protocol :=
  data.bind fun text => protocolOfFrames D (text.toList.splitOn '\u001e')

def authRequestNotificationType : Option Json → Option AuthRequestNotificationType
  | some (.number 15) => some .pending
  | some (.number 16) => some .response
  | _ => none

/-- A pending request must carry a generation, a response must not mention one. -/
def parseNotification (body : Option Json) : Option AuthRequestNotificationDelivery :=
  match body with
  | some (.object fields) =>
    let value := Json.object fields
    let credentialGeneration :=
      parseCredentialGeneration D (value.get? "securityStamp") (value.get? "revisionDate")
    match value.get? "requestId", value.get? "userId",
        authRequestNotificationType (value.get? "type") with
    | some (.string requestId), some (.string userId), some type =>
      if jsLength requestId < 1 ∨ 128 < jsLength requestId ∨
          jsLength userId < 1 ∨ 128 < jsLength userId ∨
          (type = .pending ∧ credentialGeneration = none) ∨
          (type = .response ∧
            ((value.get? "securityStamp").isSome ∨ (value.get? "revisionDate").isSome)) then none
      else some ⟨requestId, userId, type, credentialGeneration⟩
    | _, _, _ => none
  | _ => none

end Parsers

/-! ## The hub -/

/-- A server socket. -/
abbrev SocketId := Nat

structure SocketRegistration where
  protocol : Protocol
  credentialGeneration : Option CredentialGeneration
  deriving DecidableEq, Repr

/-- The fields of `NotificationHub`; the maps in insertion order. -/
structure NotificationHub where
  sockets : List (SocketId × SocketRegistration) := []
  heartbeats : List SocketId := []
  activeCredentialGeneration : Option CredentialGeneration := none
  deriving DecidableEq, Repr

/-- What `advanceCredentialGeneration` returns, with the sockets it has closed. -/
structure Advance where
  accepted : Bool
  hub : NotificationHub
  closed : List SocketId := []

namespace NotificationHub

def clearHeartbeat (hub : NotificationHub) (socket : SocketId) : NotificationHub :=
  { hub with heartbeats := hub.heartbeats.filter (· ≠ socket) }

def removeSocket (hub : NotificationHub) (socket : SocketId) : NotificationHub :=
  { hub.clearHeartbeat socket with sockets := hub.sockets.filter (·.1 ≠ socket) }

/-- `sockets.set`: a key that is there keeps its place. -/
def setSocket (hub : NotificationHub) (socket : SocketId) (registration : SocketRegistration) :
    NotificationHub :=
  { hub with
    sockets :=
      if hub.sockets.any (·.1 = socket) then
        hub.sockets.map fun entry => if entry.1 = socket then (socket, registration) else entry
      else hub.sockets ++ [(socket, registration)] }

/-- A registration the hub drops when it starts to work for the stamp. -/
def Stale (stamp : String) (registration : SocketRegistration) : Prop :=
  registration.credentialGeneration.map CredentialGeneration.securityStamp ≠ some stamp

instance (stamp : String) (registration : SocketRegistration) :
    Decidable (Stale stamp registration) :=
  inferInstanceAs (Decidable (_ ≠ _))

/-- The last part of `advanceCredentialGeneration`: every other socket is closed. -/
def replaceGeneration (hub : NotificationHub) (generation : CredentialGeneration) : Advance :=
  let closed := (hub.sockets.filter fun entry => Stale generation.securityStamp entry.2).map (·.1)
  { accepted := true
    hub := closed.foldl removeSocket { hub with activeCredentialGeneration := some generation }
    closed := closed }

def advanceCredentialGeneration (hub : NotificationHub) (generation : CredentialGeneration) :
    Advance :=
  match hub.activeCredentialGeneration with
  | some active =>
    if active.securityStamp = generation.securityStamp then
      { accepted := true
        hub :=
          if active.revisionTime < generation.revisionTime then
            { hub with activeCredentialGeneration := some generation }
          else hub }
    else if generation.revisionTime ≤ active.revisionTime then { accepted := false, hub := hub }
    else hub.replaceGeneration generation
  | none => hub.replaceGeneration generation

end NotificationHub

/-! ## The hub and its sockets -/

/-- A notification that was sent, and the generation the hub then worked for. -/
structure Delivery where
  socket : SocketId
  registration : SocketRegistration
  notification : AuthRequestNotificationDelivery
  active : Option CredentialGeneration
  deriving DecidableEq, Repr

structure HubWorld where
  hub : NotificationHub := {}
  /-- The sockets `connect` has accepted, with the generation their listener keeps. -/
  accepted : List (SocketId × Option CredentialGeneration) := []
  /-- The sockets whose `readyState` is `OPEN`. -/
  opened : List SocketId := []
  delivered : List Delivery := []
  deriving DecidableEq, Repr

/-- The answer to a request. -/
inductive HubResponse where
  | switchingProtocols
  | upgradeRequired
  | invalidCredentialGeneration
  | sessionRevoked
  | invalidNotification
  | staleNotification
  | staleInvalidation
  | notified (delivered failed invalidated : Nat)
  | invalidated (count : Nat)
  deriving DecidableEq, Repr

/-- An event at the hub or at one of its sockets. -/
inductive HubEvent where
  /-- `socket` is the server side of the new pair. -/
  | connect (socket : SocketId) (headers : HubHeaders)
  /-- `sendThrows` when the socket does not take the handshake response. -/
  | message (socket : SocketId) (data : Option String) (sendThrows : Bool)
  /-- `throwing` are the sockets whose `send` throws. -/
  | notify (body : Option Json) (throwing : List SocketId)
  | invalidate (headers : HubHeaders)
  | close (socket : SocketId)
  | error (socket : SocketId)
  /-- The peer goes away; the hub has not been told. -/
  | closing (socket : SocketId)

namespace HubWorld

/-- `closeSocket`. -/
def closeSocket (w : HubWorld) (socket : SocketId) : HubWorld :=
  { w with hub := w.hub.removeSocket socket, opened := w.opened.filter (· ≠ socket) }

/-- `advanceCredentialGeneration` with what closing does to the sockets. -/
def advance (w : HubWorld) (generation : CredentialGeneration) : HubWorld :=
  let advanced := w.hub.advanceCredentialGeneration generation
  { w with hub := advanced.hub, opened := w.opened.filter (· ∉ advanced.closed) }

/-- The hub takes the generation. -/
def Accepts (w : HubWorld) (generation : CredentialGeneration) : Prop :=
  (w.hub.advanceCredentialGeneration generation).accepted = true

instance (w : HubWorld) (generation : CredentialGeneration) : Decidable (w.Accepts generation) :=
  inferInstanceAs (Decidable (_ = true))

/-- The end of `connect`: the socket is accepted and listened to. -/
def accept (w : HubWorld) (socket : SocketId) (generation : Option CredentialGeneration) :
    HubWorld :=
  { w with accepted := (socket, generation) :: w.accepted, opened := socket :: w.opened }

/-- The end of a handshake; the heartbeat starts when the response could be sent. -/
def register (w : HubWorld) (socket : SocketId) (registration : SocketRegistration)
    (sendThrows : Bool) : HubWorld :=
  let hub := (w.hub.clearHeartbeat socket).setSocket socket registration
  { w with hub := if sendThrows then hub else { hub with heartbeats := socket :: hub.heartbeats } }

/-- The loop of `notify` at one socket. -/
def sendTo (notification : AuthRequestNotificationDelivery) (throwing : List SocketId)
    (w : HubWorld) (entry : SocketId × SocketRegistration) : HubWorld :=
  if entry.1 ∉ w.opened ∨ entry.1 ∈ throwing then { w with hub := w.hub.removeSocket entry.1 }
  else
    { w with
      delivered := w.delivered ++
        [⟨entry.1, entry.2, notification, w.hub.activeCredentialGeneration⟩] }

/-- The loop of `notify`. -/
def deliver (w : HubWorld) (notification : AuthRequestNotificationDelivery)
    (throwing : List SocketId) : HubWorld :=
  w.hub.sockets.foldl (sendTo notification throwing) w

section Requests

variable (D : Decoders)

def connect (w : HubWorld) (socket : SocketId) (headers : HubHeaders) : HubWorld × HubResponse :=
  if headers.upgrade.map String.toLower ≠ some "websocket" then (w, .upgradeRequired)
  else
    match readCredentialGeneration D headers with
    | .invalid => (w, .invalidCredentialGeneration)
    | .absent => (w.accept socket none, .switchingProtocols)
    | .generation generation =>
      if w.Accepts generation then
        ((w.advance generation).accept socket (some generation), .switchingProtocols)
      else (w, .sessionRevoked)

/-- The listener of a message. -/
def message (w : HubWorld) (socket : SocketId) (data : Option String) (sendThrows : Bool) :
    HubWorld :=
  match readHandshakeProtocol D data, w.accepted.lookup socket with
  | some protocol, some (some generation) =>
    if w.Accepts generation then
      (w.advance generation).register socket ⟨protocol, some generation⟩ sendThrows
    else w.closeSocket socket
  | some protocol, some none => w.register socket ⟨protocol, none⟩ sendThrows
  | _, _ => w

/-- How many sockets the loop of `notify` sends to, and how many throw. -/
def notified (w : HubWorld) (throwing : List SocketId) (invalidated : Nat) : HubResponse :=
  let opened := w.hub.sockets.filter (·.1 ∈ w.opened)
  .notified (opened.filter (·.1 ∉ throwing)).length (opened.filter (·.1 ∈ throwing)).length
    invalidated

def notify (w : HubWorld) (body : Option Json) (throwing : List SocketId) :
    HubWorld × HubResponse :=
  match parseNotification D body with
  | none => (w, .invalidNotification)
  | some notification =>
    match notification.credentialGeneration with
    | none => (w.deliver notification throwing, w.notified throwing 0)
    | some generation =>
      if w.Accepts generation then
        let advanced := w.advance generation
        (advanced.deliver notification throwing, advanced.notified throwing
          (w.hub.advanceCredentialGeneration generation).closed.length)
      else (w, .staleNotification)

def invalidate (w : HubWorld) (headers : HubHeaders) : HubWorld × HubResponse :=
  match readCredentialGeneration D headers with
  | .generation generation =>
    if w.Accepts generation then
      (w.advance generation,
        .invalidated (w.hub.advanceCredentialGeneration generation).closed.length)
    else (w, .staleInvalidation)
  | _ => (w, .invalidCredentialGeneration)

end Requests

end HubWorld

end HonoWarden
