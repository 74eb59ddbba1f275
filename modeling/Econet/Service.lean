import Econet.Packet

/-!
# Services

What lives behind the bridge, such as a file server: it listens on ports, sees packets and
answers with packets. What a service does may depend on all the packets that it has seen.

## Main definitions

* `Service`: a service and what it has seen
* `Service.offer`: a service's answers to a packet
* `Service.offerAll`: the answers of several services, one after the other
-/

namespace Econet

/-- A service and what it has seen. -/
structure Service where
  /-- The service listens on a port, after the packets that it has seen. -/
  listens : List Packet → UInt8 → Bool
  /-- Its answers to a packet, after the packets that it has seen. -/
  answers : List Packet → Packet → List Packet
  /-- The packets that it has seen, oldest first. -/
  seen : List Packet

namespace Service

/-- A service that has seen nothing. -/
def fresh (listens : List Packet → UInt8 → Bool) (answers : List Packet → Packet → List Packet) :
    Service :=
  ⟨listens, answers, []⟩

/-- The service takes a packet. -/
def accepts (s : Service) (p : Packet) : Bool := s.listens s.seen p.port

/-- A service's answers to a packet, and the service after it has seen the packet. One that does
not listen on the port does not see it. -/
def offer (s : Service) (p : Packet) : List Packet × Service :=
  if s.accepts p then (s.answers s.seen p, { s with seen := s.seen ++ [p] }) else ([], s)

/-- The answers of several services to a packet, and the services afterwards. -/
def offerAll : List Service → Packet → List Packet × List Service
  | [], _ => ([], [])
  | s :: ss, p =>
    ((s.offer p).1 ++ (offerAll ss p).1, (s.offer p).2 :: (offerAll ss p).2)

end Service

end Econet
