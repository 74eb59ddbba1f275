import Econet.Proofs.Piconet.Reports
import Econet.Proofs.Text.Numerals

/-!
# Commands to the adapter

A command consists of words: what to do, the station and network to transmit to, control byte and
port in decimal, and the data. So all of a packet but its source can be read off its command, except
that the local network has two numbers on the wire. An answer to a frame goes to the very numbers
that its scout came from.

## Main definitions

* `commandWords p n`: the words of the command for a packet
* `SameOnWire m n l`: two numbers of networks become one on the wire

## Main results

* `fields_command`: a command has its words as fields
* `toWire_eq_iff`: which numbers of networks become one
* `command_eq_iff_of_station`, `command_eq_iff_of_broadcast`: which packets have the same command
* `command_determines_packet`: what a command says of its packet, and where answers go
-/

namespace Econet.Piconet

open Text (IsWord digits fields isBlank spaced)

variable {p q : Packet} {m n l : UInt8} {payload payload' : List UInt8} {w : List Char}

/-! ### Networks on the wire -/

/-- The networks are the same, or both are the local one, under its own number or as network 0. -/
def SameOnWire (m n l : UInt8) : Prop := m = n ∨ ((m = 0 ∨ m = l) ∧ (n = 0 ∨ n = l))

theorem toWire_eq (n l : UInt8) : toWire n l = if n = 0 ∨ n = l then 0 else n := by
  by_cases hn : n = l
  · simp [toWire, wireLocal, hn]
  · by_cases h0 : n = 0
    · simp [toWire, wireLocal, h0]
    · simp [toWire, hn, h0]

theorem toWire_eq_iff : toWire m l = toWire n l ↔ SameOnWire m n l := by
  rw [toWire_eq, toWire_eq, SameOnWire]
  split
  -- A network that counts as local is written as 0, and no other is.
  · next hm =>
    split
    · next hn => simp [hm, hn]
    · next hn =>
      obtain ⟨h0, -⟩ := not_or.mp hn
      constructor
      · intro h
        exact absurd h.symm h0
      · rintro (rfl | ⟨-, h⟩)
        · exact absurd hm hn
        · exact absurd h hn
  · next hm =>
    split
    · next hn =>
      obtain ⟨h0, -⟩ := not_or.mp hm
      constructor
      · intro h
        exact absurd h h0
      · rintro (rfl | ⟨h, -⟩)
        · exact absurd hn hm
        · exact absurd h hm
    · next hn => simp [hm]

/-- A network that comes from the wire goes back as it came, unless it is the local one. -/
theorem toWire_ofWire (n l : UInt8) : toWire (ofWire n l) l = if n = 0 ∨ n = l then 0 else n := by
  rw [toWire_eq, ofWire, wireLocal]
  by_cases h0 : n = 0
  · simp [h0]
  · simp [h0]

/-! ### Words -/

/-- The words of a command in front of the data. -/
def headWords (p : Packet) (l : UInt8) : List (List Char) :=
  if p.destination.isBroadcast then ["BCAST".toList]
  else
    ["TX".toList, digits p.destination.station.toNat,
      digits (toWire p.destination.network l).toNat, digits p.control.toNat, digits p.port.toNat]

/-- The data as a word, if there are any. -/
def dataWords (payload : List UInt8) : List (List Char) :=
  if payload = [] then [] else [Base64.encode payload]

/-- The words of the command for a packet. -/
def commandWords (p : Packet) (l : UInt8) : List (List Char) :=
  headWords p l ++ dataWords p.payload

theorem headWords_of_broadcast (h : p.destination.isBroadcast = true) (l : UInt8) :
    headWords p l = ["BCAST".toList] := by
  rw [headWords, if_pos h]

theorem headWords_of_station (h : p.destination.isBroadcast = false) (l : UInt8) :
    headWords p l = ["TX".toList, digits p.destination.station.toNat,
      digits (toWire p.destination.network l).toNat, digits p.control.toNat,
      digits p.port.toNat] := by
  rw [headWords, if_neg (by simp [h])]

/-- A command is its words, with spaces between them. -/
theorem toList_command (p : Packet) (l : UInt8) :
    (command p l).toList = spaced (commandWords p l) := by
  rw [command, String.toList_ofList, commandHead, commandData, commandWords, headWords, dataWords]
  split
  · split <;> rfl
  · split <;> simp [spaced]

theorem isWord_digits (k : Nat) : IsWord (digits k) :=
  ⟨Text.digits_ne_nil k, fun _ hc => Text.isBlank_of_isDigit (Text.isDigit_of_mem_digits hc)⟩

theorem isWord_encode (h : payload ≠ []) : IsWord (Base64.encode payload) := by
  refine ⟨?_, fun c hc => Base64.isBlank_of_mem_encode hc⟩
  intro hnil
  exact h (Base64.encode_inj.mp hnil)

theorem isWord_of_mem_commandWords (h : w ∈ commandWords p l) : IsWord w := by
  have hwords : IsWord "BCAST".toList ∧ IsWord "TX".toList := by
    simp [IsWord, isBlank]
  rw [commandWords, List.mem_append] at h
  rcases h with h | h
  · unfold headWords at h
    split at h
    · rw [List.mem_singleton.mp h]
      exact hwords.1
    · simp only [List.mem_cons, List.not_mem_nil, or_false] at h
      rcases h with rfl | rfl | rfl | rfl | rfl
      · exact hwords.2
      · exact isWord_digits _
      · exact isWord_digits _
      · exact isWord_digits _
      · exact isWord_digits _
  · unfold dataWords at h
    split at h
    · cases h
    · next hpayload =>
      rw [List.mem_singleton.mp h]
      exact isWord_encode hpayload

/-- **A command has its words as fields.** -/
theorem fields_command (p : Packet) (l : UInt8) :
    fields (command p l).toList = commandWords p l := by
  rw [toList_command]
  exact Text.fields_spaced fun w hw => isWord_of_mem_commandWords hw

/-- The only blanks of a command are the spaces between its words. -/
theorem eq_space_of_isBlank {c : Char} (hc : c ∈ (command p l).toList) (h : isBlank c = true) :
    c = ' ' := by
  rw [toList_command] at hc
  rcases Text.eq_or_mem_of_mem_spaced hc with rfl | ⟨w, hw, hcw⟩
  · rfl
  · exact absurd ((isWord_of_mem_commandWords hw).2 c hcw) (by simp [h])

/-! ### Packets of commands -/

theorem command_eq_iff : command p l = command q l ↔ commandWords p l = commandWords q l := by
  constructor
  · intro h
    rw [← fields_command, h, fields_command]
  · intro h
    rw [← String.toList_inj, toList_command, toList_command, h]

theorem dataWords_inj : dataWords payload = dataWords payload' ↔ payload = payload' := by
  constructor
  · intro h
    unfold dataWords at h
    split at h
    · next hp =>
      split at h
      · next hq => rw [hp, hq]
      · cases h
    · split at h
      · cases h
      · exact Base64.encode_inj.mp (List.head_eq_of_cons_eq h)
  · exact congrArg dataWords

theorem digits_toNat_inj : digits m.toNat = digits n.toNat ↔ m = n := by
  constructor
  · intro h
    exact UInt8.toNat_inj.mp (Text.digits_inj h)
  · rintro rfl
    rfl

/-- **All of a packet for a station but its source can be read off its command**, except which of
its two numbers the local network had. -/
theorem command_eq_iff_of_station (hp : p.destination.isBroadcast = false)
    (hq : q.destination.isBroadcast = false) : command p l = command q l ↔
      p.destination.station = q.destination.station ∧
      SameOnWire p.destination.network q.destination.network l ∧ p.control = q.control ∧
      p.port = q.port ∧ p.payload = q.payload := by
  rw [command_eq_iff, commandWords, commandWords, headWords_of_station hp, headWords_of_station hq,
    ← toWire_eq_iff]
  simp only [List.cons_append, List.nil_append, List.cons.injEq, true_and, digits_toNat_inj,
    dataWords_inj]

/-- Of a broadcast the data can be read off. -/
theorem command_eq_iff_of_broadcast (hp : p.destination.isBroadcast = true)
    (hq : q.destination.isBroadcast = true) :
    command p l = command q l ↔ p.payload = q.payload := by
  rw [command_eq_iff, commandWords, commandWords, headWords_of_broadcast hp,
    headWords_of_broadcast hq, List.append_cancel_left_eq, dataWords_inj]

theorem command_ne (hp : p.destination.isBroadcast = true)
    (hq : q.destination.isBroadcast = false) : command p l ≠ command q l := by
  rw [ne_eq, command_eq_iff, commandWords, commandWords, headWords_of_broadcast hp,
    headWords_of_station hq]
  intro h
  exact absurd (List.head_eq_of_cons_eq h) (by decide)

/-- An answer to a frame is sent to the numbers that its scout came from. -/
theorem fields_command_to_source {line : List Char} {f : Frame} (h : Frame.decode line = .ok f)
    (hstation : f.source.station ≠ 255) (hq : q.destination = (f.packet l).source) :
    ∃ (kind : Kind) (scout : List UInt8) (rest words : List (List Char)) (station network : UInt8),
      fields line = kind.word.toList :: Base64.encode scout :: rest ∧
      scout[2]? = some station ∧ scout[3]? = some network ∧
      fields (command q l).toList = "TX".toList :: digits station.toNat ::
        digits (if network = 0 ∨ network = l then 0 else network : UInt8).toNat :: words := by
  obtain ⟨kind, scout, rest, hfields, hs⟩ := Frame.exists_scout h
  have hdestination : q.destination = ⟨ofWire f.source.network l, f.source.station⟩ := hq
  have hbroadcast : q.destination.isBroadcast = false := by
    rw [hdestination]
    exact decide_eq_false hstation
  refine ⟨kind, scout, rest, digits q.control.toNat :: digits q.port.toNat :: dataWords q.payload,
    f.source.station, f.source.network, hfields, hs.sourceStation, hs.sourceNetwork, ?_⟩
  rw [fields_command, commandWords, headWords_of_station hbroadcast, hdestination, toWire_ofWire]
  rfl

/-- **What a command says of its packet, and where answers go.** Packets for stations that have the
same command are for the same station, have the same control byte, port and data, and are for the
same network, unless both are for the local one. Broadcasts that have the same command have the same
data, and no other packet has the command of a broadcast. A command is one line, with no blanks but
spaces. Whatever is sent to where a frame came from goes to the station and network of its scout. -/
theorem command_determines_packet (l : UInt8) :
    (∀ p q : Packet, p.destination.isBroadcast = false → q.destination.isBroadcast = false →
      (command p l = command q l ↔
        p.destination.station = q.destination.station ∧
        SameOnWire p.destination.network q.destination.network l ∧ p.control = q.control ∧
        p.port = q.port ∧ p.payload = q.payload)) ∧
    (∀ p q : Packet, p.destination.isBroadcast = true → q.destination.isBroadcast = true →
      (command p l = command q l ↔ p.payload = q.payload)) ∧
    (∀ p q : Packet, p.destination.isBroadcast = true → q.destination.isBroadcast = false →
      command p l ≠ command q l) ∧
    (∀ p : Packet, '\n' ∉ (command p l).toList ∧ '\r' ∉ (command p l).toList ∧
      ∀ c ∈ (command p l).toList, isBlank c = true → c = ' ') ∧
    ∀ (line : List Char) (f : Frame) (q : Packet), Frame.decode line = .ok f →
      f.source.station ≠ 255 → q.destination = (f.packet l).source →
      ∃ (kind : Kind) (scout : List UInt8) (rest words : List (List Char))
        (station network : UInt8),
        fields line = kind.word.toList :: Base64.encode scout :: rest ∧
        scout[2]? = some station ∧ scout[3]? = some network ∧
        fields (command q l).toList = "TX".toList :: digits station.toNat ::
          digits (if network = 0 ∨ network = l then 0 else network : UInt8).toNat :: words := by
  refine ⟨?_, ?_, ?_, ?_, ?_⟩
  · intro p q hp hq
    exact command_eq_iff_of_station hp hq
  · intro p q hp hq
    exact command_eq_iff_of_broadcast hp hq
  · intro p q hp hq
    exact command_ne hp hq
  · intro p
    refine ⟨fun h => ?_, fun h => ?_, fun c hc h => eq_space_of_isBlank hc h⟩
    · exact absurd (eq_space_of_isBlank h rfl) (by decide)
    · exact absurd (eq_space_of_isBlank h rfl) (by decide)
  · intro line f q h hstation hq
    exact fields_command_to_source h hstation hq

/-- Station 12 of the local network is answered under network 0, whether the answer names network 5
or 0. -/
theorem command_determines_packet_answer :
    let line := "RX_TRANSMIT /gAMAICZ /gAMAEEAAA==".toList
    let f : Frame := ⟨.unicast, ⟨0, 254⟩, ⟨0, 12⟩, 0x80, 0x99, [0x41]⟩
    let answer : Packet := ⟨⟨5, 254⟩, ⟨5, 12⟩, 0x99, 0x80, []⟩
    let other : Packet := { answer with destination := ⟨0, 12⟩ }
    Frame.decode line = .ok f ∧ f.source.station ≠ 255 ∧
      answer.destination = (f.packet 5).source ∧ command answer 5 = command other 5 ∧
      ∃ words, fields (command answer 5).toList =
        "TX".toList :: "12".toList :: "0".toList :: words := by
  intro line f answer other
  have hline : Frame.decode line = .ok f := by rfl
  obtain ⟨hsame, -, -, -, hanswer⟩ := command_determines_packet 5
  obtain ⟨kind, scout, rest, words, station, network, hfields, hstation, hnetwork, hwords⟩ :=
    hanswer line f answer hline (by decide) rfl
  refine ⟨hline, by decide, rfl, ?_, ?_⟩
  · exact (hsame answer other rfl rfl).mpr (by simp [SameOnWire, answer, other])
  · have hscout : Base64.encode scout = Base64.encode [0xFE, 0x00, 0x0C, 0x00, 0x80, 0x99] :=
      List.head_eq_of_cons_eq (List.tail_eq_of_cons_eq hfields.symm)
    rw [Base64.encode_inj.mp hscout] at hstation hnetwork
    cases hstation
    cases hnetwork
    exact ⟨words, hwords⟩

end Econet.Piconet
