import Econet.Launch
import Econet.Proofs.Bridge.Reception
import Econet.Proofs.Client.EnvelopeText
import Econet.Proofs.Client.FirstFree

/-!
# Which addresses clients are given

Whatever happens to a bridge, it gives its clients addresses of its pool only. Each of them is given
to somebody if enough clients come. So it is a matter of the settings alone whether the bridge ever
gives away the address that it has itself.

## Main definitions

* `Bridge.Grants b now e a`: the event asks for an address, and the answer to it is `a`

## Main results

* `Bridge.Grants.mem_addresses`: clients are given addresses of the pool
* `Bridge.exists_grants`: a free address is given to somebody if enough clients come
* `Bridge.not_grants_own_iff`: when a bridge never gives away its own address
-/

namespace Econet

open Account (Time)
open Client (ConnectionId Envelope Pool)

/-! ### Names and texts -/

instance : Infinite ConnectionId :=
  Infinite.of_injective ConnectionId.mk fun _ _ h => ConnectionId.mk.inj h

theorem Client.Pool.exists_addressOf_eq_none (p : Pool) : ∃ c, p.addressOf c = none := by
  obtain ⟨c, hc⟩ := Infinite.exists_notMem_finset p.held.keys.toFinset
  rw [List.mem_toFinset, Table.mem_keys_iff] at hc
  exact ⟨c, Option.eq_none_iff_forall_ne_some.mpr fun a ha => hc ⟨a, ha⟩⟩

namespace Client.Envelope

/-- Envelopes that can be read are written differently. -/
theorem text_inj {e f : Envelope} (he : e.IsWritable) (hf : f.IsWritable) (h : e.text = f.text) :
    e = f := by
  have hchars : e.chars = f.chars := String.ofList_injective h
  exact Option.some.inj ((parse_chars he).symm.trans (hchars ▸ parse_chars hf))

theorem isWritable_control (request response error : Option String) :
    (control request none response error).IsWritable := nofun

end Client.Envelope

theorem Address.text_inj {a b : Address} (h : a.text = b.text) : a = b := by
  have hchars : a.chars = b.chars := String.ofList_injective h
  exact Option.some.inj ((parse_chars a).symm.trans (hchars ▸ parse_chars b))

/-- A written request is a request. -/
theorem Client.Message.decode_request (name : String) :
    decode (Envelope.control (some name) none none none).text = .ok (.request name none) := by
  have hparse := Envelope.parse_chars (Envelope.isWritable_control (some name) none none)
  rw [decode, Envelope.text, String.toList_ofList, hparse]
  rfl

namespace Bridge

/-! ### Answers to requests -/

/-- A client asks for an address and is answered with this one. -/
def Grants (b : Bridge) (now : Time) (e : Event) (a : Address) : Prop :=
  ∃ c text args, e = .clientText c text ∧
    Client.Message.decode text = .ok (.request allocateRequest args) ∧
    (b.handle now e).router.messages =
      b.router.messages ++ [.text c (Envelope.response a.text).text]

variable {b : Bridge} {a : Address} {c : ConnectionId} {text : String} {args : Option Json.Value}

theorem handle_request {name : String}
    (h : Client.Message.decode text = .ok (.request name args)) (now : Time) :
    b.handle now (.clientText c text) = b.receiveRequest c name := by
  rw [handle, receiveText, h]

theorem pool_receiveRequest (b : Bridge) (c : ConnectionId) (name : String) :
    (b.receiveRequest c name).pool = (answerRequest b.pool c name).2 :=
  congrArg Routes.pool (Router.routes_sendText c _ _)

theorem messages_receiveRequest (b : Bridge) (c : ConnectionId) (name : String) :
    (b.receiveRequest c name).router.messages =
      b.router.messages ++ [.text c (answerRequest b.pool c name).1.text] :=
  Router.messages_sendText c _ _

theorem answerRequest_allocate (p : Pool) (c : ConnectionId) :
    answerRequest p c allocateRequest =
      (match (p.allocate c).1 with
        | some a => .response a.text
        | none => .refusal Pool.noCapacity, (p.allocate c).2) := by
  rw [answerRequest, if_pos rfl]
  split
  · next h => rw [h]
  · next h => rw [h]

/-- The answer to a request for an address names what the pool gives. -/
theorem grants_iff (h : Client.Message.decode text = .ok (.request allocateRequest args))
    (now : Time) :
    b.Grants now (.clientText c text) a ↔ (b.pool.allocate c).1 = some a := by
  have hmessages : (b.handle now (.clientText c text)).router.messages = b.router.messages ++
      [.text c (answerRequest b.pool c allocateRequest).1.text] := by
    rw [handle_request h, messages_receiveRequest]
  rw [answerRequest_allocate] at hmessages
  constructor
  -- What is said determines the address, since texts of envelopes and of addresses can be read.
  · rintro ⟨d, _, _, hevent, -, hanswer⟩
    cases hevent
    rw [hmessages, List.append_cancel_left_eq, List.cons.injEq, Message.text.injEq] at hanswer
    cases hgiven : (b.pool.allocate c).1 with
    | none =>
      rw [hgiven] at hanswer
      cases Envelope.text_inj (Envelope.isWritable_control _ _ _)
        (Envelope.isWritable_control _ _ _) hanswer.1.2
    | some a' =>
      rw [hgiven] at hanswer
      have hresponse := Envelope.text_inj (Envelope.isWritable_control _ _ _)
        (Envelope.isWritable_control _ _ _) hanswer.1.2
      simp only [Envelope.control.injEq, Option.some.injEq] at hresponse
      rw [Address.text_inj hresponse.2.2.1]
  · intro hgiven
    rw [hgiven] at hmessages
    exact ⟨c, text, args, rfl, h, hmessages⟩

/-- **Clients are given addresses of the pool.** -/
theorem Grants.mem_addresses {now : Time} {e : Event} (hb : b.pool.Consistent)
    (h : b.Grants now e a) : a ∈ b.pool.addresses := by
  obtain ⟨c, text, args, rfl, hdecode, -⟩ := id h
  have hgiven := (grants_iff hdecode now).mp h
  exact Pool.mem_addresses_of_allocate hb (Prod.ext hgiven rfl)

/-! ### Enough clients come -/

/-- A client connects and asks for an address. -/
def arrival (c : ConnectionId) : List (Time × Event) :=
  [(0, .clientConnected c (.ofCapacity 1)),
    (0, .clientText c (Envelope.control (some allocateRequest) none none none).text)]

/-- A newcomer is given the first free address. -/
theorem allocate_newcomer {as : List Address} (hb : b.pool.Consistent)
    (hc : b.pool.addressOf c = none) (h : b.pool.freeAddresses = a :: as) :
    b.pool.allocate c = (some a, b.pool.take c a) := by
  have hfirst : b.pool.firstFreeAddress = some a := by
    rw [Pool.firstFreeAddress_eq hb, h, List.head?_cons]
  rw [Pool.allocate, hc, hfirst]

theorem pool_arrival {as : List Address} (hb : b.pool.Consistent)
    (hc : b.pool.addressOf c = none) (h : b.pool.freeAddresses = a :: as) :
    (b.handleAll (arrival c)).pool = b.pool.take c a := by
  have hpool : (b.handleAll (arrival c)).pool =
      (answerRequest (b.handle 0 (.clientConnected c (.ofCapacity 1))).pool c
        allocateRequest).2 := by
    rw [← pool_receiveRequest, ← handle_request (Client.Message.decode_request _) 0]
    rfl
  -- To connect leaves the pool alone.
  have hconnected : (b.handle 0 (.clientConnected c (.ofCapacity 1))).pool = b.pool := rfl
  rw [hpool, hconnected, answerRequest_allocate, allocate_newcomer hb hc h]

/-- **A free address is given to somebody** if enough clients come. -/
theorem exists_grants (hb : b.pool.Consistent) (h : a ∈ b.pool.freeAddresses) :
    ∃ es now e, (∀ x ∈ es, x.2.origin? = some .webSocket) ∧ (b.handleAll es).Grants now e a := by
  -- One newcomer after the other takes what is free before the address.
  generalize hfree : b.pool.freeAddresses = as at h
  induction as generalizing b with
  | nil => cases h
  | cons a' as ih =>
    obtain ⟨c, hc⟩ := b.pool.exists_addressOf_eq_none
    rcases List.mem_cons.mp h with rfl | h
    · refine ⟨[], 0, _, nofun, (grants_iff (c := c) (Client.Message.decode_request _) 0).mpr ?_⟩
      exact congrArg Prod.fst (allocate_newcomer hb hc hfree)
    · have hrest : (b.handleAll (arrival c)).pool.freeAddresses = as := by
        rw [pool_arrival hb hc hfree, Pool.freeAddresses_take hfree]
      have hconsistent := hb.evolves (b.evolves_handleAll (arrival c))
      obtain ⟨es, now, e, hes, hgrants⟩ := ih hconsistent hrest h
      refine ⟨arrival c ++ es, now, e, fun x hx => ?_, handleAll_append b _ _ ▸ hgrants⟩
      rcases List.mem_append.mp hx with hx | hx
      · rcases List.mem_cons.mp hx with rfl | hx
        · rfl
        · cases List.mem_singleton.mp hx
          rfl
      · exact hes x hx

theorem addresses_handleAll (b : Bridge) (es : List (Time × Event)) :
    (b.handleAll es).pool.addresses = b.pool.addresses := by
  obtain ⟨ops, hops⟩ := b.evolves_handleAll es
  rw [hops, Pool.addresses, Pool.networkList_run, Pool.addresses]

/-- The addresses that clients are ever given are those of the pool. -/
theorem exists_grants_iff {start : Bridge} {ns : List UInt8} (hpool : start.pool = Pool.ofList ns)
    (a : Address) :
    (∃ es now e, (∀ x ∈ es, x.2.origin? = some .webSocket) ∧
        (start.handleAll es).Grants now e a) ↔ a ∈ start.pool.addresses := by
  constructor
  · rintro ⟨es, now, e, -, hgrants⟩
    have hreachable : (start.handleAll es).IsReachable := ⟨start, ns, es, hpool, rfl⟩
    exact addresses_handleAll start es ▸ hgrants.mem_addresses hreachable.consistent
  · intro ha
    refine exists_grants ?_ ?_
    · rw [hpool]
      exact Pool.consistent_ofList ns
    · rwa [hpool, Pool.freeAddresses_ofList, ← hpool]

/-! ### The bridge's own address -/

theorem exists_ofList_of_pool {s : Settings} {fs : Files} {p : Pool} (h : s.pool fs = .ok p) :
    ∃ ns, p = Pool.ofList ns := by
  simp only [Settings.pool, bind, Except.bind] at h
  -- The networks of a file come last, if there is one.
  split at h
  · split at h
    · cases h
    · exact ⟨_, (Except.ok.inj h).symm⟩
  · exact ⟨_, (Except.ok.inj h).symm⟩

theorem exists_ofList_of_routes {s : Settings} {fs : Files} {routes : Routes}
    (h : s.routes fs = .ok routes) : ∃ ns, routes.pool = Pool.ofList ns := by
  simp only [Settings.routes, bind, Except.bind] at h
  split at h
  · cases h
  · split at h
    · cases h
    · split at h
      · cases h
      · next hpool =>
        cases h
        exact exists_ofList_of_pool hpool

/-- **When a bridge never gives away its own address.** Its station is the one above those of
clients, or its network is not one for clients. -/
theorem not_grants_own_iff {s : Settings} {fs : Files} (hvalid : s.isValid)
    (hroutes : s.routes fs = .ok b.router.routes) (hcontext : b.context = s.context) :
    (∀ es now e, (∀ x ∈ es, x.2.origin? = some .webSocket) →
        ¬ (b.handleAll es).Grants now e b.context.bridge) ↔
      s.bridge.station = 254 ∨ s.bridge.network ∉ b.pool.networkList := by
  obtain ⟨ns, hns⟩ := exists_ofList_of_routes hroutes
  have hown : b.context.bridge = ⟨s.bridge.network, s.bridge.station⟩ :=
    congrArg Context.bridge hcontext
  -- A valid station is neither 0 nor 255, so that 254 is the only one that clients do not get.
  have hstation : s.bridge.station ∈ Pool.stations ↔ s.bridge.station ≠ 254 := by
    simp only [Settings.isValid, Address.broadcastStation, ne_eq, decide_not, Bool.and_eq_true,
      Bool.not_eq_true', decide_eq_false_iff_not] at hvalid
    rw [Pool.mem_stations_iff]
    grind
  have hmem : b.context.bridge ∈ b.pool.addresses ↔
      s.bridge.network ∈ b.pool.networkList ∧ s.bridge.station ≠ 254 := by
    rw [Pool.mem_addresses_iff, hown, hstation]
  have hgrants := (exists_grants_iff hns b.context.bridge).trans hmem
  constructor
  · intro hnever
    by_contra hgiven
    rw [not_or, not_not, and_comm] at hgiven
    obtain ⟨es, now, e, hes, he⟩ := hgrants.mpr hgiven
    exact hnever es now e hes he
  · intro hapart es now e hes he
    obtain ⟨hnetwork, hne⟩ := hgrants.mp ⟨es, now, e, hes, he⟩
    exact hapart.elim hne fun hn => hn hnetwork

/-- A bridge on a network for clients keeps its address if its station is the one above theirs. -/
theorem not_grants_own_default :
    let s : Settings := { bridge := { network := 200 }, websocket := { dynamicNetworks := [200] } }
    let b : Bridge := ⟨s.context, .ofRoutes ⟨.empty, .empty, Pool.ofList [200]⟩ s.aun.port,
      .ofBackends [] 0 "", []⟩
    s.isValid ∧ s.routes (.empty []) = .ok b.router.routes ∧
      ∀ es now e, (∀ x ∈ es, x.2.origin? = some .webSocket) →
        ¬ (b.handleAll es).Grants now e ⟨200, 254⟩ := by
  intro s b
  have hvalid : s.isValid := by decide
  have hroutes : s.routes (.empty []) = .ok b.router.routes := by rfl
  exact ⟨hvalid, hroutes, (not_grants_own_iff hvalid hroutes rfl).mpr (.inl rfl)⟩

/-- A bridge that has the first of their stations gives it to the first client that asks. -/
theorem grants_own_first :
    let s : Settings :=
      { bridge := { network := 200, station := 1 }, websocket := { dynamicNetworks := [200] } }
    let b : Bridge := ⟨s.context, .ofRoutes ⟨.empty, .empty, Pool.ofList [200]⟩ s.aun.port,
      .ofBackends [] 0 "", []⟩
    let request := "\x7b\"type\":\"ctrl\",\"request\":\"allocate\"\x7d"
    s.isValid ∧ s.routes (.empty []) = .ok b.router.routes ∧ b.context = s.context ∧
      (b.handleAll [(0, .clientConnected ⟨"a"⟩ (.ofCapacity 256))]).Grants 0
        (.clientText ⟨"a"⟩ request) b.context.bridge := by
  refine ⟨by decide, rfl, rfl, ⟨"a"⟩, _, none, rfl, rfl, ?_⟩
  decide

end Bridge

end Econet
