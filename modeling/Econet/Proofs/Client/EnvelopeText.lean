import Econet.Client.Envelope
import Econet.Proofs.Json.Values

/-!
# Envelopes as texts

What is written of an envelope reads as the same envelope: packets with any texts, and control
messages with any of their fields present or absent. Arguments need to be values that can be read at
all; those of an envelope that was read are, if their numbers are integers.

## Main definitions

* `Envelope.members`: what is written of an envelope, as values
* `Envelope.IsWritable`: the arguments, if there are any, can be read

## Main results

* `Envelope.ofMembers_members`: the members of an envelope determine it
* `Envelope.parse_chars`: a written envelope reads as itself
* `Envelope.isWritable_of_parse`: which envelopes that were read can be written and read again
-/

namespace Econet.Client.Envelope

open Json (Value memberText membersText)

/-! ### Members of an envelope -/

/-- A member, if its value is present. -/
def present (name : String) (v : Option Value) : List (String × Value) :=
  (v.map fun v => (name, v)).toList

/-- The members of the written form. -/
def members : Envelope → List (String × Value)
  | packet source destination payload =>
    [("type", .string "pkt"), ("src", .string source), ("dst", .string destination),
      ("payload", .string payload)]
  | control request args response error =>
    ("type", .string "ctrl") :: (present "request" (request.map .string) ++ present "args" args ++
      present "response" (response.map .string) ++ present "error" (error.map .string))

/-- The arguments of a control message. -/
def args? : Envelope → Option Value
  | packet _ _ _ => none
  | control _ args _ _ => args

/-- The arguments, if there are any, are a value that can be written and read: not `null`, with
integers for numbers, and nested no deeper than the envelope allows. -/
def IsWritable (e : Envelope) : Prop :=
  ∀ v ∈ e.args?, v ≠ .null ∧ v.isIntegral ∧ v.depth ≤ 126

variable {e : Envelope}

theorem member?_eq (name : String) (v : Option Value) :
    member? name (v.map Value.text) =
      (present name v).map fun m => memberText m.1 m.2.text := by
  cases v <;> rfl

/-- What is written are the members. -/
theorem chars_eq (e : Envelope) :
    e.chars = membersText (e.members.map fun m => memberText m.1 m.2.text) := by
  cases e with
  | packet source destination payload => rfl
  | control request args response error =>
    have hstring (s : Option String) :
        s.map Json.stringText = (s.map Value.string).map Value.text := by
      rw [Option.map_map]
      rfl
    simp only [chars, members, hstring, member?_eq, List.map_cons, List.map_append]
    rfl

theorem filter_present (name other : String) (v : Option Value) :
    (present name v).filter (·.1 = other) = if name = other then present name v else [] := by
  cases v with
  | none => simp [present]
  | some v =>
    by_cases h : name = other
    · simp [present, h]
    · simp [present, h]

theorem only_of_filter {ms : List (String × Value)} {name : String} {v : Option Value}
    (h : ms.filter (·.1 = name) = present name v) : only ms name = some v := by
  rw [only, h]
  cases v <;> rfl

theorem asString_string (s : String) : asString (.string s) = some s := rfl

theorem optionalString_map (s : Option String) : optionalString (s.map .string) = some s := by
  cases s <;> rfl

theorem bind_asOptional {v : Option Value} (h : v ≠ some .null) : v.bind asOptional = v := by
  cases v with
  | none => rfl
  | some v =>
    cases v with
    | null => exact absurd rfl h
    | _ => rfl

/-- The members of an envelope determine it. -/
theorem ofMembers_members (h : e.args? ≠ some .null) : ofMembers e.members = some e := by
  cases e with
  | packet source destination payload =>
    simp [ofMembers, members, only, asString_string, ofPacketFields]
  | control request args response error =>
    generalize hms : (control request args response error).members = ms
    have htype : only ms "type" = some (some (.string "ctrl")) :=
      only_of_filter (by simp [← hms, members, present])
    have hrequest : only ms "request" = some (request.map .string) :=
      only_of_filter (by simp [← hms, members, filter_present])
    have hargs : only ms "args" = some args :=
      only_of_filter (by simp [← hms, members, filter_present])
    have hresponse : only ms "response" = some (response.map .string) :=
      only_of_filter (by simp [← hms, members, filter_present])
    have herror : only ms "error" = some (error.map .string) :=
      only_of_filter (by simp [← hms, members, filter_present])
    have hbind : args.bind asOptional = args := bind_asOptional h
    simp [ofMembers, htype, hrequest, hargs, hresponse, herror, asString_string, ofControlFields,
      optionalString_map, hbind]

/-! ### Written envelopes -/

theorem mem_members {m : String × Value} (h : m ∈ e.members) :
    (∃ s, m.2 = .string s) ∨ m.2 ∈ e.args? := by
  cases e with
  | packet source destination payload =>
    simp only [members, List.mem_cons, List.not_mem_nil, or_false] at h
    rcases h with rfl | rfl | rfl | rfl <;> exact .inl ⟨_, rfl⟩
  | control request args response error =>
    have hstring {name : String} {s : Option String} (h : m ∈ present name (s.map .string)) :
        ∃ s, m.2 = .string s := by
      cases s with
      | none => cases h
      | some s =>
        rw [List.mem_singleton.mp h]
        exact ⟨s, rfl⟩
    simp only [members, List.mem_cons, List.mem_append] at h
    rcases h with rfl | ((h | h) | h) | h
    · exact .inl ⟨_, rfl⟩
    · exact .inl (hstring h)
    · cases args with
      | none => cases h
      | some v =>
        rw [List.mem_singleton.mp h]
        exact .inr rfl
    · exact .inl (hstring h)
    · exact .inl (hstring h)

/-- Every member reads as itself, one level below the envelope. -/
theorem reads_members (h : e.IsWritable) :
    ∀ m ∈ e.members, Json.Reads (Json.readValue 126) m.2.text m.2 := by
  intro m hm
  rcases mem_members hm with ⟨s, hs⟩ | hargs
  · rw [hs]
    exact Json.reads_stringText 126 s
  · obtain ⟨-, hintegral, hdepth⟩ := h m.2 hargs
    exact Json.reads_text hdepth hintegral

/-- **A written envelope reads as itself.** -/
theorem parse_chars (h : e.IsWritable) : parse e.chars = some e := by
  have hmembers := Json.readBracketed_separated (.inr rfl)
    (fun m hm => (reads_members h m hm).member m.1) []
  have hnull : e.args? ≠ some .null := fun hargs => (h .null hargs).1 rfl
  have hread : read e.chars = some (e, []) := by
    rw [chars_eq, membersText, List.cons_append, read]
    simp only [Json.readMembers]
    rw [show Json.maxDepth - 1 = 126 from rfl, hmembers]
    simp [ofMembers_members hnull]
  have hspace : Json.skipSpace e.chars = e.chars := by
    rw [chars_eq]
    exact Json.skipSpace_cons rfl _
  rw [parse, Json.parseWhole, hspace, hread]
  rfl

/-! ### Envelopes that were read -/

theorem args?_ofPacketFields {source destination payload : Value}
    (h : ofPacketFields source destination payload = some e) : e.args? = none := by
  simp only [ofPacketFields, Option.bind_eq_bind, Option.bind_eq_some_iff] at h
  obtain ⟨s, -, d, -, p, -, h⟩ := h
  cases h
  rfl

theorem args?_ofControlFields {request args response error : Option Value}
    (h : ofControlFields request args response error = some e) :
    e.args? = args.bind asOptional := by
  simp only [ofControlFields, Option.bind_eq_bind, Option.bind_eq_some_iff] at h
  obtain ⟨r, -, s, -, t, -, h⟩ := h
  cases h
  rfl

theorem mem_bind_asOptional {args : Option Value} {v : Value} (h : v ∈ args.bind asOptional) :
    v ≠ .null ∧ args = some v := by
  obtain ⟨w, rfl, hw⟩ := Option.bind_eq_some_iff.mp h
  unfold asOptional at hw
  split at hw
  · cases hw
  · next hnull =>
    cases hw
    refine ⟨?_, rfl⟩
    rintro rfl
    exact hnull rfl

theorem mem_of_only {ms : List (String × Value)} {name : String} {v : Value}
    (h : only ms name = some (some v)) : ∃ m ∈ ms, m.2 = v := by
  unfold only at h
  split at h
  · cases h
  · next m hm =>
    cases h
    have hmem : m ∈ ms.filter (·.1 = name) := hm ▸ List.mem_singleton_self m
    exact ⟨m, (List.mem_filter.mp hmem).1, rfl⟩
  · cases h

/-- The arguments of an envelope are the value of one of the members that it is made of. -/
theorem args?_ofMembers {ms : List (String × Value)} {v : Value} (h : ofMembers ms = some e)
    (hv : v ∈ e.args?) : v ≠ .null ∧ ∃ m ∈ ms, m.2 = v := by
  simp only [ofMembers, Option.bind_eq_bind, Option.bind_eq_some_iff] at h
  obtain ⟨_, -, type, -, h⟩ := h
  split at h
  · simp only [Option.bind_eq_some_iff] at h
    obtain ⟨_, _, _, _, _, _, _, _, _, _, _, _, h⟩ := h
    rw [args?_ofPacketFields h] at hv
    cases hv
  · split at h
    · simp only [Option.bind_eq_some_iff] at h
      obtain ⟨_, _, args, hargs, _, _, _, _, h⟩ := h
      rw [args?_ofControlFields h] at hv
      obtain ⟨hnull, rfl⟩ := mem_bind_asOptional hv
      exact ⟨hnull, mem_of_only hargs⟩
    · cases h

/-- The arguments of an envelope are one of the items that it is made of. -/
theorem args?_ofItems {items : List Value} {v : Value} (h : ofItems items = some e)
    (hv : v ∈ e.args?) : v ≠ .null ∧ v ∈ items := by
  cases items with
  | nil => cases h
  | cons type fields =>
    simp only [ofItems, Option.bind_eq_bind, Option.bind_eq_some_iff] at h
    obtain ⟨name, -, h⟩ := h
    split at h
    · split at h
      · rw [args?_ofPacketFields h] at hv
        cases hv
      · cases h
    · split at h
      · split at h
        · rw [args?_ofControlFields h] at hv
          obtain ⟨hnull, hargs⟩ := mem_bind_asOptional hv
          exact ⟨hnull, List.mem_cons_of_mem _ (List.mem_of_getElem? hargs)⟩
        · cases h
      · cases h

/-- Arguments that are read are nested one level less than the envelope may be. -/
theorem args?_of_read {cs rest : List Char} {v : Value} (h : read cs = some (e, rest))
    (hv : v ∈ e.args?) : v ≠ .null ∧ v.depth ≤ 126 := by
  unfold read at h
  split at h
  · simp only [Option.bind_eq_bind, Option.bind_eq_some_iff] at h
    obtain ⟨⟨ms, tail⟩, hms, f, hf, hfe⟩ := h
    cases hfe
    obtain ⟨hnull, m, hm, rfl⟩ := args?_ofMembers hf hv
    have hdepth := Json.forall_of_readBracketed (P := fun m : String × Value => m.2.depth ≤ 126)
      (fun _ _ _ => Json.of_readMember fun _ _ _ => Json.depth_le_of_readValue) hms
    exact ⟨hnull, hdepth m hm⟩
  · simp only [Option.bind_eq_bind, Option.bind_eq_some_iff] at h
    obtain ⟨⟨items, tail⟩, hitems, f, hf, hfe⟩ := h
    cases hfe
    obtain ⟨hnull, hmem⟩ := args?_ofItems hf hv
    have hdepth := Json.forall_of_readBracketed (fun _ _ _ => Json.depth_le_of_readValue) hitems
    exact ⟨hnull, hdepth v hmem⟩
  · cases h

/-- **Which envelopes that were read can be written and read again**: those whose arguments have
integers for numbers. -/
theorem isWritable_of_parse {cs : List Char} (h : parse cs = some e)
    (hintegral : ∀ v ∈ e.args?, v.isIntegral) : e.IsWritable := by
  intro v hv
  simp only [parse, Json.parseWhole, Option.bind_eq_bind, Option.bind_eq_some_iff] at h
  obtain ⟨⟨f, rest⟩, hread, h⟩ := h
  split at h
  · cases h
    obtain ⟨hnull, hdepth⟩ := args?_of_read hread hv
    exact ⟨hnull, hintegral v hv, hdepth⟩
  · cases h

/-- **Every envelope reads as it is written**: a packet with any texts, and a control message with
any of its fields, the arguments being a value that can be read. So does one that was read, if its
arguments have integers for numbers. -/
theorem parse_text (e : Envelope) :
    (e.IsWritable → parse e.text.toList = some e) ∧
    ∀ cs, parse cs = some e → (∀ v ∈ e.args?, v.isIntegral) → parse e.text.toList = some e := by
  have htext : e.text.toList = e.chars := String.toList_ofList
  rw [htext]
  exact ⟨parse_chars, fun cs h hintegral => parse_chars (isWritable_of_parse h hintegral)⟩

/-- Quotes, backslashes and control characters, and arguments at both ends of the range of integers,
in an object whose members are given out of order. The second envelope comes in as an array. -/
theorem parse_text_hostile :
    let v : Value := .ofMembers
      [("\"", .ofMembers [("é", .bool true), ("\\", .number (.negative 9223372036854775807))]),
        ("", .array [.null, .number (.natural 18446744073709551615), .array []])]
    let e : Envelope := .control (some "\x01\"\\u0000\n") (some v) none (some "\x7f€")
    let f : Envelope := .control (some "allocate") (some (.number (.natural 7))) none none
    e.IsWritable ∧ parse e.text.toList = some e ∧
      parse " [ \"ctrl\" , \"allocate\", 7 ]".toList = some f ∧ parse f.text.toList = some f := by
  intro v e f
  have he : e.IsWritable := by
    rintro w ⟨⟩
    exact ⟨fun h => Json.Tree.noConfusion (congrArg Value.tree h), by decide, by decide⟩
  have hf : parse " [ \"ctrl\" , \"allocate\", 7 ]".toList = some f := rfl
  refine ⟨he, (parse_text e).1 he, hf, (parse_text f).2 _ hf ?_⟩
  rintro w ⟨⟩
  rfl

end Econet.Client.Envelope
