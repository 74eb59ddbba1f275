import Econet.Proofs.Aun.ReverseLookup
import Econet.Router

/-!
# Whose sockets packets go to

A packet goes to the socket of its destination's endpoint, at the default port if the endpoint has
none of its own. Seen as the source of a datagram, that socket has an address too. It is the
destination, unless a rule gives the default port of the host to another station: the lookup of an
endpoint looks for such rules in subnets, and not where a rule names the host.

## Main results

* `Map.addressOfSocket_socket`: the address of an endpoint's socket
* `Map.addressOfSocket_socket_iff`: which sockets are those of the destination
* `Map.not_addressOfSocket_socket`: a packet can go to a port of another station
-/

namespace Econet.Aun

/-- A packet is handed on as one datagram, to the socket of its destination's endpoint. -/
theorem journal_sendToHost {r : Router} {p : Packet} {e : Endpoint}
    (h : r.routes.aun.endpointOf p.destination = some e) :
    ∃ isTaken, (Router.sendToHost p r).2.journal = r.journal ++ [⟨.datagram (e.socket r.aunPort)
      (Frame.ofPacket p (r.routes.aun.nextSequence e.text)).encode, isTaken⟩] := by
  simp only [Router.sendToHost, h, Router.sendToEndpoint, Router.journal_counted]
  exact ⟨_, rfl⟩

namespace Map

variable {m : Map} {a b : Address} {e : Endpoint}

/-! ### Sockets of endpoints -/

/-- **The address of an endpoint's socket**: that of the port where a rule names the default port
of the host, else the one that leads to the endpoint. -/
theorem Consistent.addressOfSocket_socket (hm : m.Consistent) (h : m.endpointOf a = some e)
    (ha : a.station ≠ Address.broadcastStation) (d : UInt16) :
    m.addressOfSocket (e.socket d) =
      match e.port with
      | some _ => some a
      | none => (m.hostPorts.get? (e.ip, d)).or (some a) := by
  rcases endpointOf_eq_some.mp h with ⟨ip, port, hp, rfl⟩ | ⟨-, ip, hh, rfl⟩ | ⟨-, -, ip, hs, rfl⟩
  · exact addressOf_of_hostPorts (hm.ports _ _ hp)
  · show m.addressOf ip (some d) = (m.hostPorts.get? (ip, d)).or (some a)
    cases hd : m.hostPorts.get? (ip, d) with
    | some b => exact addressOf_of_hostPorts hd
    | none => simp [addressOf, ruledAddressOf, hd, hm.hosts _ _ hh]
  · -- No rule names a host that a subnet answers with, so none names its default port.
    have hknown := knowsOnNetwork_of_subnetHost hs
    have hruled : m.isRuled ip = false := by
      simp only [knowsOnNetwork, Bool.and_eq_true, Bool.not_eq_true'] at hknown
      exact hknown.1
    have hnone : m.hostPorts.get? (ip, d) = none := by
      by_contra hd
      obtain ⟨b, hb⟩ := Option.ne_none_iff_exists'.mp hd
      have haddress := ruledAddressOf_of_not_isRuled hruled (some d)
      simp [ruledAddressOf, hb] at haddress
    show m.addressOf ip (some d) = (m.hostPorts.get? (ip, d)).or (some a)
    rw [hnone, addressOf_of_knowsOnNetwork hknown, lastOctet_of_subnetHost hs ha]
    rfl

/-- **Which sockets are those of the destination**: the sockets with a port of the endpoint's own,
and those where no rule gives the default port to another station. It is the socket that a packet
for the address is sent to. -/
theorem addressOfSocket_socket_iff (rules : List Rule) (d : UInt16)
    (h : (ofRules rules).endpointOf a = some e) (ha : a.station ≠ Address.broadcastStation) :
    ((ofRules rules).addressOfSocket (e.socket d) = some a ↔
      (e.port = none →
        ∀ b, IsLatest (e.ip, d) b (rules.filterMap Rule.portBinding?) → b = a)) ∧
    ∀ (counters : Table String UInt32) (r : Router) (p : Packet),
      r.routes.aun = { ofRules rules with counters } → r.aunPort = d → p.destination = a →
        ∃ isTaken, (Router.sendToHost p r).2.journal = r.journal ++ [⟨.datagram (e.socket d)
          (Frame.ofPacket p (r.routes.aun.nextSequence e.text)).encode, isTaken⟩] := by
  refine ⟨?_, ?_⟩
  · rw [(consistent_ofRules rules).addressOfSocket_socket h ha]
    cases hport : e.port with
    | some port => simp
    | none =>
      simp only [← hostPorts_ofRules]
      cases (ofRules rules).hostPorts.get? (e.ip, d) with
      | some b => simp
      | none => simp
  · rintro counters r p hr rfl rfl
    have hmap : r.routes.aun.endpointOf p.destination = some e := by
      rw [hr]
      exact h
    exact journal_sendToHost hmap

/-- A host is one station at the default port and another one at the next port. -/
theorem addressOfSocket_socket_shared :
    let rules : List Rule :=
      [.host (.ofNat 0x0A000005) ⟨1, 5⟩, .hostPort (.ofNat 0x0A000005) 32769 ⟨1, 6⟩]
    let e : Endpoint := ⟨.ofNat 0x0A000005, none⟩
    (ofRules rules).endpointOf ⟨1, 5⟩ = some e ∧
      (ofRules rules).addressOfSocket (e.socket 32768) = some ⟨1, 5⟩ ∧
      (ofRules rules).addressOfSocket (e.socket 32769) ≠ some ⟨1, 5⟩ := by
  intro rules e
  have he : (ofRules rules).endpointOf ⟨1, 5⟩ = some e := by decide
  have hiff (d : UInt16) := (addressOfSocket_socket_iff rules d he (by decide)).1
  have hdefault : (ofRules rules).hostPorts.get? (e.ip, 32768) = none := by decide
  refine ⟨he, (hiff 32768).mpr fun _ b hb => ?_, fun hsame => ?_⟩
  · rw [← hostPorts_ofRules] at hb
    cases hdefault.symm.trans hb
  · exact absurd ((hiff 32769).mp hsame rfl ⟨1, 6⟩ ⟨[], [], rfl, by simp⟩) (by decide)

/-- A rule gives the default port of a host to another station. Packets for the host's station go
to that port all the same. -/
theorem not_addressOfSocket_socket :
    ¬ ∀ (rules : List Rule) (d : UInt16) (a : Address) (e : Endpoint),
      a.station ≠ Address.broadcastStation → (ofRules rules).endpointOf a = some e →
        (ofRules rules).addressOfSocket (e.socket d) = some a := by
  intro h
  have hsocket := h
    [.host (.ofNat 0x0A000005) ⟨1, 5⟩, .hostPort (.ofNat 0x0A000005) 32768 ⟨1, 6⟩]
    32768 ⟨1, 5⟩ ⟨.ofNat 0x0A000005, none⟩ (by decide) (by decide)
  exact absurd hsocket (by decide)

end Map

end Econet.Aun
