import Econet.Proofs.Bridge.Reception

/-!
# Traffic does not depend on sessions

Sessions notice packets, but packets do not notice sessions: what services see and what is sent
depends on what comes in and in which order. It depends neither on who is logged in, nor on the
times of events, nor on when housekeeping looks for idle sessions. At the end of a run the adapter
is told to stop, and that is all that is sent besides.

## Main definitions

* `Traffic`, `Bridge.traffic`: all of a bridge but its sessions
* `Bridge.inputs es`: the events of a run without their times and without housekeeping
* `Router.IsStopped r s`: the router `s` is `r` after the adapter was told to stop

## Main results

* `Bridge.traffic_handle`: what an event does to the traffic
* `Bridge.traffic_handleAll`: what a run does to the traffic
* `Bridge.traffic_of_inputs`: equal inputs to bridges that differ in sessions have equal effects
-/

namespace Econet

open Account (Register Time)
open Piconet (stopLine)

/-! ### The end of a run -/

namespace Router

/-- The router `s` is the router `r` after one line that tells the adapter to stop, if there is an
adapter. -/
structure IsStopped (r s : Router) : Prop where
  /-- The line is the last that was tried. It is taken if the adapter takes it. -/
  journal_eq : s.journal = r.journal ++
    (r.adapter.map fun a : Piconet.Adapter =>
      ⟨.line stopLine, (a.send stopLine).isOk⟩).toList
  /-- The adapter has the line if it has taken it. -/
  adapter_eq : s.adapter =
    r.adapter.map fun a : Piconet.Adapter => (a.send stopLine).toOption.getD a
  /-- All else is as it was. -/
  others_eq : { s with adapter := r.adapter, journal := r.journal } = r

theorem isStopped_stop (r : Router) : r.IsStopped r.stop := by
  cases ha : r.adapter with
  | none =>
    have hstop : r.stop = r := by simp only [stop, ha]
    rw [hstop]
    exact ⟨by simp [ha], by simp [ha], rfl⟩
  | some a =>
    cases hs : a.send stopLine with
    | ok a' =>
      have hstop : r.stop = { r with
          adapter := some a', journal := r.journal ++ [⟨.line stopLine, true⟩] } := by
        simp [stop, sendLine, trySendLine, note, ha, hs]
      rw [hstop]
      exact ⟨by simp [ha, hs, Except.isOk, Except.toBool], by simp [ha, hs, Except.toOption], rfl⟩
    | error e =>
      -- The adapter does not take the line, but it was tried.
      have hstop : r.stop = { r with journal := r.journal ++ [⟨.line stopLine, false⟩] } := by
        simp [stop, sendLine, trySendLine, note, ha, hs]
      rw [hstop]
      exact ⟨by simp [ha, hs, Except.isOk, Except.toBool], by simp [ha, hs, Except.toOption], rfl⟩

end Router

/-! ### The bridge without its sessions -/

/-- All of a bridge but its sessions. -/
structure Traffic where
  /-- What the bridge knows about itself. -/
  context : Context
  /-- The ways out, with all that was sent and all that is known of addresses. -/
  router : Router
  /-- The services, with all that they have seen. -/
  services : List Service

namespace Bridge

variable {b c : Bridge} {e : Event}

/-- All of the bridge but its sessions. -/
def traffic (b : Bridge) : Traffic := ⟨b.context, b.router, b.services⟩

/-- The bridge with other sessions. -/
def withRegister (b : Bridge) (m : Register) : Bridge := { b with register := m }

theorem eq_withRegister_of_traffic (h : b.traffic = c.traffic) :
    c = b.withRegister c.register := by
  simp only [traffic, Traffic.mk.injEq] at h
  obtain ⟨hcontext, hrouter, hservices⟩ := h
  rw [withRegister, hcontext, hrouter, hservices]

theorem acknowledge_withRegister {α : Type} (b : Bridge) (m : Register)
    (send : α → Router.Sending) (ack : Option α) :
    (b.withRegister m).acknowledge send ack = (b.acknowledge send ack).withRegister m := by
  cases ack <;> rfl

theorem settle_withRegister (b : Bridge) (m : Register) (e : Event) :
    (b.withRegister m).settle e = (b.settle e).withRegister m := by
  cases e with
  | datagram peer bytes =>
    simp only [settle, withRegister]
    split
    · exact acknowledge_withRegister (b.prime peer _ _) m _ _
    · rfl
  | clientText c text =>
    simp only [settle]
    split
    · rfl
    · rw [acknowledge_withRegister]
      exact (apply_ite (Bridge.withRegister · m) (b.pool.addressOf c = _) _ _).symm
    · rfl
  | _ => rfl

theorem delivered?_withRegister (b : Bridge) (m : Register) (e : Event) :
    (b.withRegister m).delivered? e = b.delivered? e := by
  cases e <;> rfl

/-- A packet goes where it goes, whoever is logged in and whenever it comes. -/
theorem traffic_deliver (b : Bridge) (m : Register) (now now' : Time) (t : Transport)
    (p : Packet) : ((b.withRegister m).deliver now t p).traffic = (b.deliver now' t p).traffic := by
  rw [deliver_eq, deliver_eq]
  show (if b.isForServices p then _ else if b.isEcho t p then _ else _ : Bridge).traffic = _
  split
  · rfl
  · split <;> rfl

/-- Housekeeping is nothing to the traffic. -/
theorem traffic_housekeeping (b : Bridge) (now : Time) :
    (b.handle now .housekeeping).traffic = b.traffic := rfl

/-- **What an event does to the traffic** does not depend on sessions, nor on the time. -/
theorem traffic_handle (h : b.traffic = c.traffic) (now now' : Time) (e : Event) :
    (b.handle now e).traffic = (c.handle now' e).traffic := by
  cases ht : e.origin? with
  | none =>
    cases e with
    | housekeeping => exact h
    | _ => cases ht
  | some t =>
    -- Neither the event's own effects nor the packet that it brings in depend on sessions.
    rw [eq_withRegister_of_traffic h, handle_eq _ _ ht, handle_eq _ _ ht, delivered?_withRegister,
      settle_withRegister]
    cases b.delivered? e with
    | none => rfl
    | some p => exact (traffic_deliver (b.settle e) c.register now' now t p).symm

/-! ### Runs -/

/-- What happens in a run besides housekeeping, in order: what comes in, and what becomes of the
links. -/
def inputs (es : List (Time × Event)) : List Event :=
  (es.map (·.2)).filter fun e => e.origin?.isSome

theorem inputs_cons {t : Transport} (ht : e.origin? = some t) (now : Time)
    (es : List (Time × Event)) : inputs ((now, e) :: es) = e :: inputs es := by
  simp [inputs, ht]

/-- **What a run does to the traffic** is what its inputs do. -/
theorem traffic_handleAll (h : b.traffic = c.traffic) (es : List (Time × Event)) :
    (b.handleAll es).traffic = (c.handleAll ((inputs es).map fun e => (0, e))).traffic := by
  induction es generalizing b c with
  | nil => exact h
  | cons x es ih =>
    obtain ⟨now, e⟩ := x
    cases ht : e.origin? with
    | none =>
      cases e with
      | housekeeping =>
        -- It is no input, and the traffic is as it was.
        exact ih ((b.traffic_housekeeping now).trans h)
      | _ => cases ht
    | some t =>
      rw [inputs_cons ht]
      exact ih (traffic_handle h now 0 e)

/-- **Traffic does not depend on sessions, nor on housekeeping.** Two bridges may differ in their
sessions, and two runs in the times of their events and in when housekeeping comes. If the inputs
are the same, then so is all that leaves the bridge, all that services have seen, and all that is
known of addresses and sequence numbers. A run to the end of its events does what these inputs do,
and then tells the adapter to stop. -/
theorem traffic_of_inputs (h : b.traffic = c.traffic) {es fs : List (Time × Event)}
    (hin : inputs es = inputs fs) :
    (b.handleAll es).traffic = (c.handleAll fs).traffic ∧
      (b.run es).services = (c.handleAll fs).services ∧
      (c.handleAll fs).router.IsStopped (b.run es).router := by
  have htraffic : (b.handleAll es).traffic = (c.handleAll fs).traffic := by
    rw [traffic_handleAll h es, hin, ← traffic_handleAll rfl fs]
  have hrouter : (b.handleAll es).router = (c.handleAll fs).router :=
    congrArg Traffic.router htraffic
  refine ⟨htraffic, congrArg Traffic.services htraffic, ?_⟩
  rw [← hrouter]
  exact (b.handleAll es).router.isStopped_stop

/-- One of two bridges has a session, which notices a packet from the adapter and is found idle
later on. A service answers the packet all the same, and then the adapter is stopped. -/
theorem traffic_of_inputs_idle :
    let router := (Router.ofRoutes ⟨.empty, .ofList [2], .empty⟩ 32768).withAdapter
      (some ⟨.ofCapacity 16, 2⟩)
    let services := [.fresh (fun _ port => port = 0x99)
      fun _ p => [{ p with destination := p.source }]]
    let m := Register.ofBackends [] 10 ""
    let s := Account.Session.start (.named "SYST" 1000 "/home/SYST") "userfile" 0
    let b : Bridge := ⟨⟨⟨127, 254⟩, 2, 0, none⟩, router,
      { m with sessions := m.sessions.insert ⟨2, 7⟩ s }, services⟩
    let c : Bridge := ⟨⟨⟨127, 254⟩, 2, 0, none⟩, router, m, services⟩
    let e : Event := .serialLine "RX_BROADCAST /wIHAoCZQQ=="
    let es := [(5, .housekeeping), (9, e), (30, .housekeeping)]
    b.traffic = c.traffic ∧ inputs es = inputs [(0, e)] ∧
      (c.handleAll [(0, e)]).router.IsStopped (b.run es).router ∧
      (c.handleAll [(0, e)]).router.messages.length = 1 ∧
      (b.run es).router.messages.getLast? = some (.line "STOP") := by
  intro router services m s b c e es
  have h : b.traffic = c.traffic := rfl
  have hin : inputs es = inputs [(0, e)] := rfl
  exact ⟨h, hin, (traffic_of_inputs h hin).2.2, rfl, rfl⟩

end Bridge

end Econet
