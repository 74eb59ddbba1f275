import Econet.Proofs.Aun.Masks
import Econet.Proofs.Outcomes
import Econet.Proofs.Text.Numerals

/-!
# The lines that are rules

A line is a rule if it consists of two words: a host, a port of a host or a subnet, and an address
or a network. The rule has the values that the words say. Nothing else is a rule, and no line is
two.

## Main definitions

* `Text.IsPair cs v w`: the text consists of the words `v` and `w`
* `SaysAddress ip cs a`: the text says the address of a host
* `Rule.Says target address r`: two words say the rule `r`

## Main results

* `Rule.ofFields_eq_ok_iff`: which words are a rule
* `Rule.parse_grammar`: which lines are a rule, and what holds of the subnets among them
-/

namespace Econet

open Text (IsNumber IsWord AllBlank splitOnce parseBelow)

/-- The text consists of two words, with blanks between them and perhaps around them. -/
def Text.IsPair (cs v w : List Char) : Prop :=
  IsWord v ∧ IsWord w ∧
    ∃ x y z, AllBlank x ∧ AllBlank y ∧ y ≠ [] ∧ AllBlank z ∧ cs = x ++ v ++ y ++ w ++ z

namespace Aun

/-- The text says the address of a host: its network and its station, or only its network. The
station is then the last number of the host. -/
inductive SaysAddress (ip : Ipv4) : List Char → Address → Prop where
  | network {cs : List Char} {n : UInt8} (hn : IsNumber cs n.toNat) :
      SaysAddress ip cs ⟨n, ip.lastOctet⟩
  | station {cs ds : List Char} {n s : UInt8} (hn : IsNumber cs n.toNat)
      (hs : IsNumber ds s.toNat) : SaysAddress ip (cs ++ '.' :: ds) ⟨n, s⟩

namespace Rule

/-- Two words say a rule. A subnet has no station, and its lowest address is what its mask keeps of
the address as written. -/
inductive Says : List Char → List Char → Rule → Prop where
  | host {ip : Ipv4} {address : List Char} {a : Address} (ha : SaysAddress ip address a) :
      Says ip.chars address (.host ip a)
  | hostPort {ip : Ipv4} {port : UInt16} {cs address : List Char} {a : Address}
      (hport : IsNumber cs port.toNat) (ha : SaysAddress ip address a) :
      Says (ip.chars ++ ':' :: cs) address (.hostPort ip port a)
  | subnet {ip : Ipv4} {s : Subnet} {m : UInt32} {cs address : List Char}
      (hlength : IsNumber cs s.length) (hnetwork : IsNumber address s.network.toNat)
      (hmask : mask? s.length = some m) (hbase : s.base.toNat = ip.toNat &&& m.toNat) :
      Says (ip.chars ++ '/' :: cs) address (.subnet s)

variable {cs target address : List Char} {network n : UInt8} {station : Option UInt8} {ip : Ipv4}
  {r : Rule}

/-! ### Single fields -/

theorem byteField_eq_ok_iff : byteField cs = .ok n ↔ IsNumber cs n.toNat := by
  rw [← Text.parseByte_eq_some_iff, byteField]
  cases Text.parseByte cs <;> simp

theorem ipField_eq_ok_iff : ipField cs = .ok ip ↔ cs = ip.chars := by
  rw [← Ipv4.parse_eq_some_iff, ipField]
  cases Ipv4.parse cs <;> simp

theorem portField_eq_ok_iff {port : UInt16} : portField cs = .ok port ↔ IsNumber cs port.toNat := by
  rw [← Text.parseUInt16_eq_some_iff, portField]
  cases Text.parseUInt16 cs <;> simp

/-- A separator that stands in no number and in no address. -/
theorem splitOnce_beq_append {a b : List Char} {c : Char} (ha : ∀ d ∈ a, d ≠ c) :
    splitOnce (· == c) (a ++ c :: b) = some (a, b) :=
  Text.splitOnce_append (fun d hd => beq_eq_false_iff_ne.mpr (ha d hd)) (beq_self_eq_true c)

theorem splitOnce_beq_eq_none {a : List Char} {c : Char} (ha : ∀ d ∈ a, d ≠ c) :
    splitOnce (· == c) a = none :=
  Text.splitOnce_eq_none_iff.mpr fun d hd => beq_eq_false_iff_ne.mpr (ha d hd)

theorem eq_append_of_splitOnce_beq {a b : List Char} {c : Char}
    (h : splitOnce (· == c) cs = some (a, b)) : cs = a ++ c :: b := by
  obtain ⟨-, d, hd, hcs⟩ := Text.splitOnce_eq_some h
  rwa [beq_iff_eq.mp hd] at hcs

theorem ne_dot_of_isNumber {k : Nat} (h : IsNumber cs k) (d : Char) (hd : d ∈ cs) : d ≠ '.' :=
  h.ne_of_mem rfl (by decide) hd

theorem ne_slash_of_isNumber {k : Nat} (h : IsNumber cs k) (d : Char) (hd : d ∈ cs) : d ≠ '/' :=
  h.ne_of_mem rfl (by decide) hd

/-- The second field is a network, or a network and a station. -/
theorem stationField_eq_ok_iff : stationField cs = .ok (n, station) ↔
    (station = none ∧ IsNumber cs n.toNat) ∨
      ∃ s a b, station = some s ∧ cs = a ++ '.' :: b ∧ IsNumber a n.toNat ∧ IsNumber b s.toNat := by
  constructor
  · intro h
    unfold stationField at h
    split at h
    · next a b hs =>
      obtain ⟨k, hk, h⟩ := bind_eq_ok_iff.mp h
      obtain ⟨s, hs', h⟩ := bind_eq_ok_iff.mp h
      cases h
      exact .inr ⟨s, a, b, rfl, eq_append_of_splitOnce_beq hs, byteField_eq_ok_iff.mp hk,
        byteField_eq_ok_iff.mp hs'⟩
    · obtain ⟨k, hk, h⟩ := bind_eq_ok_iff.mp h
      cases h
      exact .inl ⟨rfl, byteField_eq_ok_iff.mp hk⟩
  · rintro (⟨rfl, hn⟩ | ⟨s, a, b, rfl, rfl, ha, hb⟩)
    · rw [stationField, splitOnce_beq_eq_none (ne_dot_of_isNumber hn)]
      exact bind_eq_ok_iff.mpr ⟨n, byteField_eq_ok_iff.mpr hn, rfl⟩
    · rw [stationField, splitOnce_beq_append (ne_dot_of_isNumber ha)]
      refine bind_eq_ok_iff.mpr ⟨n, byteField_eq_ok_iff.mpr ha, ?_⟩
      exact bind_eq_ok_iff.mpr ⟨s, byteField_eq_ok_iff.mpr hb, rfl⟩

/-- The second field of a line for a host, and what the rule makes of it. -/
theorem saysAddress_iff {a : Address} : SaysAddress ip address a ↔
    ∃ network station, stationField address = .ok (network, station) ∧
      a = ⟨network, station.getD ip.lastOctet⟩ := by
  constructor
  · intro h
    cases h with
    | network hn => exact ⟨_, none, stationField_eq_ok_iff.mpr (.inl ⟨rfl, hn⟩), rfl⟩
    | station hn hs =>
      exact ⟨_, some _, stationField_eq_ok_iff.mpr (.inr ⟨_, _, _, rfl, rfl, hn, hs⟩), rfl⟩
  · rintro ⟨network, station, h, rfl⟩
    rcases stationField_eq_ok_iff.mp h with ⟨rfl, hn⟩ | ⟨s, a, b, rfl, rfl, hn, hs⟩
    · exact .network hn
    · exact .station hn hs

/-! ### Both fields -/

/-- The rules for hosts. -/
theorem ofHost_eq_ok_iff : ofHost target network station = .ok r ↔
    (∃ ip, target = ip.chars ∧ r = .host ip ⟨network, station.getD ip.lastOctet⟩) ∨
      ∃ ip port cs, target = ip.chars ++ ':' :: cs ∧ IsNumber cs port.toNat ∧
        r = .hostPort ip port ⟨network, station.getD ip.lastOctet⟩ := by
  have hcolon (ip : Ipv4) (d : Char) (hd : d ∈ ip.chars) : d ≠ ':' :=
    Ipv4.ne_of_mem_chars hd rfl (by decide)
  constructor
  · intro h
    unfold ofHost at h
    split at h
    · next a b hs =>
      obtain ⟨port, hport, h⟩ := bind_eq_ok_iff.mp h
      obtain ⟨ip, hip, h⟩ := bind_eq_ok_iff.mp h
      cases h
      refine .inr ⟨ip, port, b, ?_, portField_eq_ok_iff.mp hport, rfl⟩
      rw [eq_append_of_splitOnce_beq hs, ipField_eq_ok_iff.mp hip]
    · obtain ⟨ip, hip, h⟩ := bind_eq_ok_iff.mp h
      cases h
      exact .inl ⟨ip, ipField_eq_ok_iff.mp hip, rfl⟩
  · rintro (⟨ip, rfl, rfl⟩ | ⟨ip, port, cs, rfl, hport, rfl⟩)
    · rw [ofHost, splitOnce_beq_eq_none (hcolon ip)]
      exact bind_eq_ok_iff.mpr ⟨ip, ipField_eq_ok_iff.mpr rfl, rfl⟩
    · rw [ofHost, splitOnce_beq_append (hcolon ip)]
      refine bind_eq_ok_iff.mpr ⟨port, portField_eq_ok_iff.mpr hport, ?_⟩
      exact bind_eq_ok_iff.mpr ⟨ip, ipField_eq_ok_iff.mpr rfl, rfl⟩

/-- The subnet of an address, in terms of the mask. -/
theorem eq_subnet_of_iff {s : Subnet} {m : UInt32} (hm : mask? s.length = some m) :
    s = .of ip s.length s.network s.length_le ↔ s.base.toNat = ip.toNat &&& m.toNat := by
  rw [and_mask hm ip.isLt]
  constructor
  · intro h
    exact congrArg (fun s : Subnet => s.base.toNat) h
  · intro h
    obtain ⟨⟨b, hb⟩, length, network, hlength, hmod⟩ := s
    have hbase : b = ip.toNat / blockSize length * blockSize length := h
    subst hbase
    rfl

/-- The rules for subnets. -/
theorem ofSubnet_eq_ok_iff {a b : List Char} : ofSubnet a b network = .ok r ↔
    ∃ (ip : Ipv4) (s : Subnet) (m : UInt32), a = ip.chars ∧ IsNumber b s.length ∧
      s.network = network ∧ mask? s.length = some m ∧
      s.base.toNat = ip.toNat &&& m.toNat ∧ r = .subnet s := by
  constructor
  · intro h
    obtain ⟨ip, hip, h⟩ := bind_eq_ok_iff.mp h
    split at h
    · next k hk =>
      cases h
      obtain ⟨hb, hlt⟩ := Text.parseBelow_eq_some_iff.mp hk
      obtain ⟨m, hm, -⟩ := exists_mask (Nat.le_of_lt_succ hlt)
      exact ⟨ip, _, m, ipField_eq_ok_iff.mp hip, hb, rfl, hm, (eq_subnet_of_iff hm).mp rfl, rfl⟩
    · cases h
  · rintro ⟨ip, s, m, rfl, hb, rfl, hm, hbase, rfl⟩
    refine bind_eq_ok_iff.mpr ⟨ip, ipField_eq_ok_iff.mpr rfl, ?_⟩
    have hk : parseBelow 33 b = some s.length :=
      Text.parseBelow_eq_some_iff.mpr ⟨hb, Nat.lt_succ_of_le s.length_le⟩
    split
    · next k hk' =>
      cases hk.symm.trans hk'
      rw [← (eq_subnet_of_iff hm).mpr hbase]
    · next hnone => cases hk.symm.trans hnone

/-- **Which words are a rule.** -/
theorem ofFields_eq_ok_iff : ofFields target address = .ok r ↔ Says target address r := by
  have hslash (ip : Ipv4) (d : Char) (hd : d ∈ ip.chars) : d ≠ '/' :=
    Ipv4.ne_of_mem_chars hd rfl (by decide)
  constructor
  · intro h
    obtain ⟨⟨network, station⟩, haddress, h⟩ := bind_eq_ok_iff.mp h
    dsimp only at h
    -- A slash makes a subnet, which takes no station. It is the first slash of the word.
    split at h
    · next a b hs =>
      split at h
      · cases h
      · next hstation =>
        obtain ⟨ip, s, m, rfl, hb, rfl, hm, hbase, rfl⟩ := ofSubnet_eq_ok_iff.mp h
        rw [eq_append_of_splitOnce_beq hs]
        rcases stationField_eq_ok_iff.mp haddress with ⟨-, hn⟩ | ⟨_, _, _, rfl, -⟩
        · exact .subnet hb hn hm hbase
        · exact absurd rfl hstation
    · rcases ofHost_eq_ok_iff.mp h with ⟨ip, rfl, rfl⟩ | ⟨ip, port, cs, rfl, hport, rfl⟩
      · exact .host (saysAddress_iff.mpr ⟨network, station, haddress, rfl⟩)
      · exact .hostPort hport (saysAddress_iff.mpr ⟨network, station, haddress, rfl⟩)
  · intro h
    cases h with
    | host ha =>
      obtain ⟨network, station, haddress, rfl⟩ := saysAddress_iff.mp ha
      refine bind_eq_ok_iff.mpr ⟨(network, station), haddress, ?_⟩
      dsimp only
      rw [splitOnce_beq_eq_none (hslash _)]
      exact ofHost_eq_ok_iff.mpr (.inl ⟨_, rfl, rfl⟩)
    | @hostPort ip port cs address a hport ha =>
      obtain ⟨network, station, haddress, rfl⟩ := saysAddress_iff.mp ha
      refine bind_eq_ok_iff.mpr ⟨(network, station), haddress, ?_⟩
      -- The reader must not take a host with a port for a subnet.
      have hnone : ∀ d ∈ ip.chars ++ ':' :: cs, d ≠ '/' := by
        intro d hd
        rcases List.mem_append.mp hd with hd | hd
        · exact hslash ip d hd
        · rcases List.mem_cons.mp hd with rfl | hd
          · decide
          · exact ne_slash_of_isNumber hport d hd
      dsimp only
      rw [splitOnce_beq_eq_none hnone]
      exact ofHost_eq_ok_iff.mpr (.inr ⟨ip, port, cs, rfl, hport, rfl⟩)
    | @subnet ip s m cs address hlength hnetwork hmask hbase =>
      have haddress : stationField address = .ok (s.network, none) :=
        stationField_eq_ok_iff.mpr (.inl ⟨rfl, hnetwork⟩)
      refine bind_eq_ok_iff.mpr ⟨(s.network, none), haddress, ?_⟩
      dsimp only
      rw [splitOnce_beq_append (hslash ip)]
      exact ofSubnet_eq_ok_iff.mpr ⟨ip, s, m, rfl, hlength, rfl, hmask, hbase, rfl⟩

/-- A line is a rule exactly if its words are. -/
theorem parse_eq_ok_iff (line : List Char) (r : Rule) : parse line = .ok r ↔
    ∃ target address, Text.IsPair line target address ∧ Says target address r := by
  constructor
  · intro h
    unfold parse at h
    split at h
    · next target address hfields =>
      exact ⟨target, address, Text.fields_eq_pair_iff.mp hfields, ofFields_eq_ok_iff.mp h⟩
    · cases h
  · rintro ⟨target, address, hpair, hsays⟩
    rw [parse, Text.fields_eq_pair_iff.mpr hpair]
    exact ofFields_eq_ok_iff.mpr hsays

/-- **Which lines are a rule.** They consist of two words that say the rule. If it is a subnet, the
address as written lies in it, the mask of its length can be computed, and its addresses and hosts
are what this mask makes them. -/
theorem parse_grammar (line : List Char) :
    (∀ r, parse line = .ok r ↔
      ∃ target address, Text.IsPair line target address ∧ Says target address r) ∧
    ∀ s, parse line = .ok (.subnet s) →
      ∃ ip length address m, Text.IsPair line (ip.chars ++ '/' :: length) address ∧
        IsNumber length s.length ∧ s.contains ip = true ∧ mask? s.length = some m ∧
        (∀ jp, s.contains jp = true ↔ jp.toNat &&& m.toNat = s.base.toNat) ∧
        ∀ station, (s.host station).toNat =
          if station = 255 then s.base.toNat ||| (~~~m).toNat
          else (s.base.toNat &&& (~~~(0xFF : UInt32)).toNat) ||| station.toNat := by
  refine ⟨parse_eq_ok_iff line, fun s hs => ?_⟩
  obtain ⟨target, address, hpair, hsays⟩ := (parse_eq_ok_iff line _).mp hs
  cases hsays with
  | @subnet ip s m cs address hlength hnetwork hmask hbase =>
    exact ⟨ip, cs, address, m, hpair, hlength,
      (Subnet.contains_iff_and_mask hmask ip).mpr hbase.symm, hmask,
      Subnet.contains_iff_and_mask hmask, Subnet.toNat_host hmask⟩

end Rule

end Aun

end Econet
