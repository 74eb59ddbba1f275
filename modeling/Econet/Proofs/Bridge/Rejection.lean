import Econet.Proofs.Aun.Datagram
import Econet.Proofs.Bridge.Numbering

/-!
# Input that is rejected

Datagrams that are no frames or come from nobody the map knows, texts that say nothing and lines
that bring no packet leave the bridge exactly as it was, whatever it was. What is rejected once is
rejected ever after, since no event changes which hosts the map knows: a run is the same with and
without the rejected input.

## Main definitions

* `Bridge.Rejects b e`: the bridge has no use for what the event brings in

## Main results

* `Bridge.handle_of_rejects`: rejected input changes nothing
* `Bridge.rejects_handle_iff`: what is rejected does not depend on what has happened
* `Bridge.handleAll_filter`: a run is the run of what is not rejected in it
-/

namespace Econet

open Account (Time)
open Client (ConnectionId)

namespace Bridge

variable {b : Bridge} {e : Event} {bytes : List UInt8}

/-! ### What is rejected -/

/-- The bridge has no use for what the event brings in. -/
inductive Rejects (b : Bridge) : Event → Prop where
  /-- A datagram is too short for a header. -/
  | tooShort {peer : Socket} {bytes : List UInt8} (h : bytes.length < 8) :
    Rejects b (.datagram peer bytes)
  /-- The first byte of a datagram is the code of no type. -/
  | unknownType {peer : Socket} {code : UInt8} {bytes : List UInt8} (h : ¬ (1 ≤ code ∧ code ≤ 6)) :
    Rejects b (.datagram peer (code :: bytes))
  /-- A datagram comes from a socket that has no IPv4 address and embeds none. -/
  | notIpv4 {peer : Socket} {bytes : List UInt8} (h : peer.ipv4? = none) :
    Rejects b (.datagram peer bytes)
  /-- A datagram comes from a host that the map does not know. -/
  | unmapped {peer : Socket} {bytes : List UInt8}
    (h : b.router.routes.aun.addressOfSocket peer = none) : Rejects b (.datagram peer bytes)
  /-- A text of a client cannot be read. -/
  | unreadableText {c : ConnectionId} {text : String} {e : FrameError}
    (h : Client.Message.decode text = .error e) : Rejects b (.clientText c text)
  /-- A line of the adapter cannot be read. -/
  | unreadableLine {line : String} {e : FrameError}
    (h : Piconet.Line.parse line.toList = .error e) : Rejects b (.serialLine line)
  /-- A line of the adapter reports something other than a packet. -/
  | report {line : String} {l : Piconet.Line} (h : Piconet.Line.parse line.toList = .ok l)
    (hl : ∀ f, l ≠ .packet f) : Rejects b (.serialLine line)

/-- The bridge can read what an event brings in, and knows who it comes from. -/
def isHeard (b : Bridge) : Event → Bool
  | .datagram peer bytes =>
    (Aun.Frame.decode bytes).isOk && peer.ipv4?.isSome &&
      (b.router.routes.aun.addressOfSocket peer).isSome
  | .clientText _ text => (Client.Message.decode text).isOk
  | .serialLine line =>
    match Piconet.Line.parse line.toList with
    | .ok (.packet _) => true
    | _ => false
  | .clientConnected _ _ | .clientLeft _ | .clientLink _ _ | .serialClosed | .serialLink _
  | .housekeeping => true

/-- Which datagrams cannot be read. -/
theorem isOk_decode_eq_false_iff :
    (Aun.Frame.decode bytes).isOk = false ↔
      bytes.length < 8 ∨ ∃ code tail, bytes = code :: tail ∧ ¬ (1 ≤ code ∧ code ≤ 6) := by
  have hdecode : (Aun.Frame.decode bytes).isOk = true ↔
      8 ≤ bytes.length ∧ ∃ n ∈ bytes.head?, 1 ≤ n ∧ n ≤ 6 := by
    rw [← Header.exists_parse_iff, ← Aun.Frame.exists_decode_iff]
    cases Aun.Frame.decode bytes <;> simp [Except.isOk, Except.toBool]
  rw [← Bool.not_eq_true, hdecode]
  cases bytes with
  | nil => simp
  | cons code tail =>
    have hlength : tail.length < 7 ↔ tail.length + 1 < 8 := by omega
    simp [imp_iff_not_or, hlength]

/-- **What is rejected** is all that is not heard. -/
theorem rejects_iff : b.Rejects e ↔ b.isHeard e = false := by
  constructor
  · rintro (h | h | h | h | h | h | ⟨h, hl⟩)
    · simp [isHeard, isOk_decode_eq_false_iff.mpr (.inl h)]
    · simp [isHeard, isOk_decode_eq_false_iff.mpr (.inr ⟨_, _, rfl, h⟩)]
    · simp [isHeard, h]
    · simp [isHeard, h]
    · simp [isHeard, h, Except.isOk, Except.toBool]
    · simp [isHeard, h]
    · next l => cases l <;> simp_all [isHeard]
  · intro h
    cases e with
    | datagram peer bytes =>
      simp only [isHeard, Bool.and_eq_false_iff, Option.isSome_eq_false_iff,
        Option.isNone_iff_eq_none, isOk_decode_eq_false_iff] at h
      rcases h with ((h | ⟨code, tail, rfl, h⟩) | h) | h
      · exact .tooShort h
      · exact .unknownType h
      · exact .notIpv4 h
      · exact .unmapped h
    | clientText c text =>
      cases hm : Client.Message.decode text with
      | ok m => simp [isHeard, hm, Except.isOk, Except.toBool] at h
      | error error => exact .unreadableText hm
    | serialLine line =>
      cases hl : Piconet.Line.parse line.toList with
      | ok l =>
        refine .report hl ?_
        rintro f rfl
        simp [isHeard, hl] at h
      | error error => exact .unreadableLine hl
    | _ => cases h

instance (b : Bridge) : DecidablePred b.Rejects := fun _ => decidable_of_iff _ rejects_iff.symm

/-! ### Rejected input changes nothing -/

/-- **Rejected input changes nothing.** -/
theorem handle_of_rejects (h : b.Rejects e) (now : Time) : b.handle now e = b := by
  rw [rejects_iff] at h
  cases e with
  | datagram peer bytes =>
    simp only [handle, receiveDatagram]
    split
    · next f ip sender hf hip hsender =>
      -- Such a datagram would be heard.
      simp [isHeard, hf, hip, hsender, Except.isOk, Except.toBool] at h
    · rfl
  | clientText c text =>
    cases hm : Client.Message.decode text with
    | ok m => simp [isHeard, hm, Except.isOk, Except.toBool] at h
    | error error => exact handle_clientText_undecodable hm
  | serialLine line =>
    simp only [handle, receiveLine]
    split
    · next f hl => simp [isHeard, hl] at h
    · rfl
  | _ => cases h

/-- An event's own effects leave the hosts of the map where they are. -/
theorem hosts_settle (b : Bridge) (e : Event) :
    (b.settle e).router.plan.routes.aun = b.router.plan.routes.aun := by
  cases e with
  | datagram peer bytes => rw [plan_settle_datagram]
  | clientText c text =>
    simp only [Router.plan, Routes.unnumbered]
    -- A client may be given an address, which is none of a host.
    rcases b.routes_settle_clientText c text with h | ⟨a, -, -, h⟩
    · rw [h]
    · rw [h]
  | _ => rfl

theorem hosts_handle (b : Bridge) (now : Time) (e : Event) :
    (b.handle now e).router.plan.routes.aun = b.router.plan.routes.aun := by
  rw [router_handle, Router.plan_sendAll, hosts_settle]

theorem addressOfSocket_handle (b : Bridge) (now : Time) (e : Event) (peer : Socket) :
    (b.handle now e).router.routes.aun.addressOfSocket peer =
      b.router.routes.aun.addressOfSocket peer := by
  have hhosts := congrArg (fun m : Aun.Map => m.addressOfSocket peer) (b.hosts_handle now e)
  -- Sequence numbers are all that a plan leaves out of the map.
  exact hhosts

/-- **What is rejected does not depend on what has happened.** -/
theorem rejects_handle_iff (b : Bridge) (now : Time) (e f : Event) :
    (b.handle now e).Rejects f ↔ b.Rejects f := by
  rw [rejects_iff, rejects_iff]
  cases f with
  | datagram peer bytes => simp only [isHeard, addressOfSocket_handle]
  | _ => rfl

theorem rejects_handleAll_iff (b : Bridge) (es : List (Time × Event)) (e : Event) :
    (b.handleAll es).Rejects e ↔ b.Rejects e := by
  induction es generalizing b with
  | nil => rfl
  | cons x xs ih => exact (ih (b.handle x.1 x.2)).trans (rejects_handle_iff b x.1 x.2 e)

/-- **A run is the run of what is not rejected in it.** -/
theorem handleAll_filter (b : Bridge) (es : List (Time × Event)) :
    b.handleAll (es.filter fun x => ¬ b.Rejects x.2) = b.handleAll es := by
  -- From the end of the run: what the bridge rejects at first, it still rejects there.
  induction es using List.reverseRecOn with
  | nil => rfl
  | append_singleton es x ih =>
    rw [List.filter_append, handleAll_append, handleAll_append, ih]
    by_cases h : b.Rejects x.2
    · simp only [List.filter_cons, h, not_true_eq_false, decide_false, Bool.false_eq_true,
        if_false, List.filter_nil]
      exact (handle_of_rejects ((rejects_handleAll_iff b es x.2).mpr h) x.1).symm
    · simp only [List.filter_cons, h, not_false_eq_true, decide_true, if_true, List.filter_nil]

/-- **Rejected input leaves no trace**, whatever the bridge has come to. All the bridge stays as it
was: addresses, sequence numbers, ways out with their queues and counts, sessions, services, and the
journal of what was sent. What happens later is what would have happened without it, and it would
be rejected at any time. -/
theorem rejected_leaves_no_trace {before : List (Time × Event)}
    (h : (b.handleAll before).Rejects e) (now : Time) (after : List (Time × Event)) :
    (b.handleAll before).handle now e = b.handleAll before ∧
      b.handleAll (before ++ (now, e) :: after) = b.handleAll (before ++ after) ∧
      (b.handleAll (before ++ after)).Rejects e := by
  have hsame := handle_of_rejects h now
  refine ⟨hsame, ?_, ?_⟩
  · rw [handleAll_append, handleAll_append]
    exact congrArg (handleAll · after) hsame
  · rw [rejects_handleAll_iff] at h ⊢
    exact h

/-- A datagram that is in order comes from a host that the map does not know, while a client is
given an address. -/
theorem rejected_leaves_no_trace_stranger :
    let aun := Aun.Map.ofRules [.host (.ofNat 0x0A000005) ⟨1, 5⟩]
    let b : Bridge := ⟨⟨⟨127, 254⟩, 2, 0, none⟩,
      .ofRoutes ⟨aun, .empty, Client.Pool.ofList [200]⟩ 32768, .ofBackends [] 0 "", []⟩
    let before := [(0, .clientConnected ⟨"a"⟩ (.ofCapacity 16))]
    let after := [(2, .clientText ⟨"a"⟩ "\x7b\"type\":\"ctrl\",\"request\":\"allocate\"\x7d")]
    let e := .datagram (.ofIpv4 (.ofNat 0x0A000006) 32768) [2, 0x99, 0x80, 0, 100, 0, 0, 0, 0x41]
    (b.handleAll before).Rejects e ∧
      b.handleAll (before ++ (1, e) :: after) = b.handleAll (before ++ after) ∧
      (b.handleAll (before ++ after)).pool.addressOf ⟨"a"⟩ = some ⟨200, 1⟩ := by
  intro aun b before after e
  have h : (b.handleAll before).Rejects e := .unmapped rfl
  exact ⟨h, (rejected_leaves_no_trace h 1 after).2.1, rfl⟩

end Bridge

end Econet
