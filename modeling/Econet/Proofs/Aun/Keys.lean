import Econet.Proofs.Aun.Bindings
import Econet.Proofs.Text.Numerals

/-!
# Keys of conversations

Sequence numbers are counted under the written form of an endpoint. No two endpoints are written
alike, whether or not they name a port, so that no two conversations share a counter.

## Main definitions

* `Aun.Map.sourceEndpoint`: the endpoint under which a datagram is counted
* `Aun.Map.reached`: the number that the conversation with an endpoint has come to

## Main results

* `Aun.Endpoint.text_inj`: endpoints are written differently
* `Aun.Map.reached_advance`, `Aun.Map.reached_prime`: counting at one endpoint leaves the others
  alone
-/

namespace Econet

open Text (digits)

namespace Aun

namespace Endpoint

/-- What follows the host in the written form. -/
def portChars (port : Option UInt16) : List Char :=
  match port with
  | some port => ':' :: digits port.toNat
  | none => []

theorem toList_text (e : Endpoint) : e.text.toList = e.ip.chars ++ portChars e.port := by
  obtain ⟨ip, _ | port⟩ := e
  · show (String.ofList ip.chars).toList = ip.chars ++ []
    rw [String.toList_ofList, List.append_nil]
  · have hip : (toString ip.text).toList = ip.chars := String.toList_ofList
    have hport : (toString port).toList = digits port.toNat := Nat.toList_repr
    simp only [text, String.toList_append, hip, hport, List.append_assoc]
    rfl

/-- The last number of a host is read off in front of the port, if there is one. -/
theorem digits_append_portChars_inj {m n : Nat} {p q : Option UInt16}
    (h : digits m ++ portChars p = digits n ++ portChars q) : m = n ∧ p = q := by
  have hcolon : ':'.isDigit = false := rfl
  cases p with
  | none =>
    rw [portChars, List.append_nil] at h
    cases q with
    | none =>
      rw [portChars, List.append_nil] at h
      exact ⟨Text.digits_inj h, rfl⟩
    | some q => exact absurd h (Text.digits_ne_append_cons hcolon)
  | some p =>
    cases q with
    | none =>
      rw [show portChars none = [] from rfl, List.append_nil] at h
      exact absurd h.symm (Text.digits_ne_append_cons hcolon)
    | some q =>
      obtain ⟨hmn, hpq⟩ := Text.digits_append_cons_inj hcolon h
      exact ⟨hmn, congrArg some (UInt16.toNat_inj.mp (Text.digits_inj hpq))⟩

/-- **Endpoints are written differently.** -/
theorem text_inj {e f : Endpoint} (h : e.text = f.text) : e = f := by
  have hdot : '.'.isDigit = false := rfl
  obtain ⟨⟨m, hm⟩, p⟩ := e
  obtain ⟨⟨n, hn⟩, q⟩ := f
  have hchars := congrArg String.toList h
  rw [toList_text, toList_text] at hchars
  -- The text is read from the left: four numbers, and the port.
  simp only [Ipv4.chars, List.append_assoc, List.cons_append] at hchars
  obtain ⟨hfirst, hchars⟩ := Text.digits_append_cons_inj hdot hchars
  obtain ⟨hsecond, hchars⟩ := Text.digits_append_cons_inj hdot hchars
  obtain ⟨hthird, hchars⟩ := Text.digits_append_cons_inj hdot hchars
  obtain ⟨hlast, rfl⟩ := digits_append_portChars_inj hchars
  obtain rfl : m = n := by omega
  rfl

end Endpoint

namespace Map

/-- The endpoint under which a datagram is counted: the port that it comes from if a rule names
that, else the host. -/
def sourceEndpoint (m : Map) (ip : Ipv4) (port : UInt16) : Endpoint :=
  ⟨ip, if m.hostPorts.contains (ip, port) then some port else none⟩

theorem sourceKey_eq (m : Map) (ip : Ipv4) (port : UInt16) :
    m.sourceKey ip port = (m.sourceEndpoint ip port).text := by
  unfold sourceKey sourceEndpoint
  split <;> rfl

/-- Rules set no counters. -/
theorem counters_ofRules (rules : List Rule) : (ofRules rules).counters = .empty := by
  induction rules using List.reverseRecOn with
  | nil => rfl
  | append_singleton rules r ih =>
    rw [ofRules_concat, ← ih]
    cases r <;> rfl

/-- The number that the conversation with an endpoint has come to. -/
def reached (m : Map) (e : Endpoint) : UInt32 := (m.counter e.text).getD 0

theorem nextSequence_text (m : Map) (e : Endpoint) :
    m.nextSequence e.text = m.reached e + sequenceStride := rfl

theorem reached_advance (m : Map) (e f : Endpoint) :
    (m.advance e.text).reached f = if e = f then m.reached e + sequenceStride else m.reached f := by
  rw [reached, counter_advance]
  by_cases h : e = f
  · rw [if_pos h, if_pos (congrArg Endpoint.text h)]
    rfl
  · rw [if_neg h, if_neg (mt Endpoint.text_inj h)]
    rfl

theorem reached_prime (m : Map) (e f : Endpoint) (s : UInt32) :
    (m.prime e.text s).reached f = if e = f then s else m.reached f := by
  rw [reached, counter_prime]
  by_cases h : e = f
  · rw [if_pos h, if_pos (congrArg Endpoint.text h)]
    rfl
  · rw [if_neg h, if_neg (mt Endpoint.text_inj h)]
    rfl

end Map

end Aun

end Econet
