import Econet.Proofs.Bridge.Reception

/-!
# Runs of the bridge and their histories

Events happen to the bridge, and packets are sent on its behalf. The history of such a run is the
list of all that sequence numbers may depend on: which numbers were heard from hosts, which clients
came to have an address and left, and what was sent. All messages of a run can be read off its
history.

## Main definitions

* `Occurrence`: an entry of a history
* `Bridge.Move`, `Bridge.moveAll`: a step of a run, and the bridge after several
* `Router.trail r ps`: the parcels of several packets that are sent one after the other
* `Bridge.history b xs`: all that happens in a run

## Main results

* `Bridge.messages_moveAll`: the messages of a run are those of its history
-/

namespace Econet

open Account (Time)
open Client (ConnectionId Pool)

/-- What happens in a run. -/
inductive Occurrence where
  /-- A host was heard, with a sequence number of its own. -/
  | heard (e : Aun.Endpoint) (sequence : UInt32)
  /-- A client that had no address was given one. -/
  | joined (c : ConnectionId) (a : Address)
  /-- A client left. -/
  | left (c : ConnectionId)
  /-- The bridge said something itself. -/
  | said (m : Message)
  /-- A packet was sent along one of its ways. -/
  | sent (x : Parcel)
  deriving DecidableEq

/-- The message of an occurrence. -/
def Occurrence.message? (aunPort : UInt16) : Occurrence → Option Message
  | said m => some m
  | sent x => some (x.message aunPort)
  | heard _ _ | joined _ _ | left _ => none

/-! ### Several packets -/

namespace Router

/-- The parcels of several packets that are sent one after the other. -/
def trail (r : Router) : List Packet → List Parcel
  | [] => []
  | p :: ps => r.parcels p ++ (send p r).2.trail ps

theorem aunPort_sendText (c : ConnectionId) (text : String) (r : Router) :
    (sendText c text r).2.aunPort = r.aunPort :=
  congrArg Plan.aunPort (plan_sendText c text r)

theorem aunPort_send (p : Packet) (r : Router) : (send p r).2.aunPort = r.aunPort :=
  congrArg Plan.aunPort (plan_send p r)

theorem aunPort_sendAll (ps : List Packet) (r : Router) : (r.sendAll ps).aunPort = r.aunPort :=
  congrArg Plan.aunPort (plan_sendAll ps r)

theorem messages_sendAll (ps : List Packet) (r : Router) :
    (r.sendAll ps).messages = r.messages ++ (r.trail ps).map (·.message r.aunPort) := by
  induction ps generalizing r with
  | nil => exact (List.append_nil _).symm
  | cons p ps ih =>
    show ((send p r).2.sendAll ps).messages = _
    rw [ih, messages_send, aunPort_send, trail, List.map_append, List.append_assoc]

end Router

namespace Bridge

/-! ### Runs -/

/-- A step of a run. -/
inductive Move where
  /-- An event happens. -/
  | event (now : Time) (e : Event)
  /-- A packet is sent on behalf of the bridge. -/
  | send (p : Packet)

/-- The bridge after a step. -/
def move (b : Bridge) : Move → Bridge
  | .event now e => b.handle now e
  | .send p => b.mapRouter fun r => (Router.send p r).2

/-- The bridge after several steps. -/
def moveAll (b : Bridge) (xs : List Move) : Bridge := xs.foldl move b

/-- What an event changes by itself: a number is heard, or a client comes to have an address or
leaves. -/
def notes (b : Bridge) (e : Event) : List Occurrence :=
  match e with
  | .datagram peer bytes =>
    match Aun.Frame.decode bytes, peer.ipv4?, b.router.routes.aun.addressOfSocket peer with
    | .ok f, some ip, some _ =>
      [.heard (b.router.routes.aun.sourceEndpoint ip peer.port) f.header.sequence]
    | _, _, _ => []
  | .clientText c _ =>
    if b.pool.addressOf c = none then ((b.settle e).pool.addressOf c).toList.map (.joined c) else []
  | .clientLeft c => [.left c]
  | .clientConnected _ _ | .clientLink _ _ | .serialLine _ | .serialClosed | .serialLink _
  | .housekeeping => []

/-- What happens in a step, in order. -/
def trace (b : Bridge) : Move → List Occurrence
  | .event _ e =>
    b.notes e ++ ((b.answer? e).toList.map .said ++
      ((b.settle e).router.trail (b.outgoing e)).map .sent)
  | .send p => (b.router.parcels p).map .sent

/-- What happens in a run, in order. -/
def history (b : Bridge) : List Move → List Occurrence
  | [] => []
  | x :: xs => b.trace x ++ (b.move x).history xs

theorem history_concat (b : Bridge) (xs : List Move) (x : Move) :
    b.history (xs ++ [x]) = b.history xs ++ (b.moveAll xs).trace x := by
  induction xs generalizing b with
  | nil => exact List.append_nil _
  | cons y ys ih =>
    show b.trace y ++ (b.move y).history (ys ++ [x]) = _
    rw [ih, ← List.append_assoc]
    rfl

theorem moveAll_concat (b : Bridge) (xs : List Move) (x : Move) :
    b.moveAll (xs ++ [x]) = (b.moveAll xs).move x := by
  rw [moveAll, List.foldl_append]
  rfl

/-! ### Messages -/

theorem aunPort_settle (b : Bridge) (e : Event) :
    (b.settle e).router.aunPort = b.router.aunPort := by
  cases e with
  | datagram peer bytes =>
    simp only [settle]
    split
    · exact router_acknowledge Router.aunPort (fun _ _ => rfl) _ _
    · rfl
  | clientText c text =>
    simp only [settle]
    split
    · exact Router.aunPort_sendText c _ _
    · split
      · exact router_acknowledge Router.aunPort (Router.aunPort_sendText c) _ _
      · rfl
    · rfl
  | _ => rfl

theorem aunPort_move (b : Bridge) (x : Move) : (b.move x).router.aunPort = b.router.aunPort := by
  cases x with
  | event now e =>
    show (b.handle now e).router.aunPort = _
    rw [router_handle, Router.aunPort_sendAll, aunPort_settle]
  | send p => exact Router.aunPort_send p b.router

theorem filterMap_message?_sent (d : UInt16) (xs : List Parcel) :
    (xs.map Occurrence.sent).filterMap (·.message? d) = xs.map (·.message d) := by
  rw [List.filterMap_map]
  exact congrFun List.filterMap_eq_map xs

/-- Nothing is said by what an event changes by itself. -/
theorem filterMap_message?_notes (d : UInt16) (b : Bridge) (e : Event) :
    (b.notes e).filterMap (·.message? d) = [] := by
  cases e with
  | datagram peer bytes =>
    simp only [notes]
    split <;> rfl
  | clientText c text =>
    simp only [notes]
    split
    · cases (b.settle (.clientText c text)).pool.addressOf c <;> rfl
    · rfl
  | _ => rfl

/-- The messages of a step are those of its trace. -/
theorem messages_move (b : Bridge) (x : Move) :
    (b.move x).router.messages =
      b.router.messages ++ (b.trace x).filterMap (·.message? b.router.aunPort) := by
  cases x with
  | event now e =>
    have hsaid : ((b.answer? e).toList.map Occurrence.said).filterMap
        (·.message? b.router.aunPort) = (b.answer? e).toList := by
      cases b.answer? e <;> rfl
    show (b.handle now e).router.messages = _
    rw [router_handle, Router.messages_sendAll, messages_settle, aunPort_settle, trace,
      List.filterMap_append, List.filterMap_append, filterMap_message?_notes, hsaid,
      filterMap_message?_sent, List.nil_append, List.append_assoc]
  | send p =>
    show (Router.send p b.router).2.messages = _
    rw [Router.messages_send, trace, filterMap_message?_sent]

/-- **The messages of a run are those of its history.** -/
theorem messages_moveAll (b : Bridge) (xs : List Move) :
    (b.moveAll xs).router.messages =
      b.router.messages ++ (b.history xs).filterMap (·.message? b.router.aunPort) := by
  induction xs generalizing b with
  | nil => exact (List.append_nil _).symm
  | cons x xs ih =>
    show ((b.move x).moveAll xs).router.messages = _
    -- The port is the same all along, so that the whole history is written with the first one.
    rw [ih, messages_move, aunPort_move, history, List.filterMap_append, List.append_assoc]

end Bridge

end Econet
