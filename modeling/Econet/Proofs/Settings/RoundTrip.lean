import Econet.Proofs.Toml.Documents
import Econet.Settings.File

/-!
# Settings survive

Settings that are saved are loaded again as they were, in every section and field, with what was
left out left out again.

## Main definitions

* `Settings.optionValue`: a field that is left out if it is absent, as a value
* `General.values`, `Station.values`, …: the fields of each section as values

## Main results

* `General.ofValue_values`, `Station.ofValue_values`, …: each section is made of its values again
* `Settings.parse_chars`: written settings read as themselves
* `Settings.load_of_save`: saved settings are loaded as they were
-/

namespace Econet.Settings

open Text (digits)
open Toml (Value Reads Fields optional withDefault)

/-! ### Fields that may be absent -/

/-- A field that is left out if it is absent, as a value. -/
def optionValue (name : String) (v : Option String) : List (String × Value) :=
  (v.map fun s => (name, .string s)).toList

section Options

variable {name other : String} {vs : List (String × Value)}

theorem reads_option (name : String) (v : Option String) :
    List.Forall₂ (fun e v => e.1 = v.1 ∧ Reads Toml.maxDepth e.2 v.2) (option name v)
      (optionValue name v) := by
  cases v with
  | none => exact .nil
  | some s => exact .cons ⟨rfl, Toml.reads_stringText _ s⟩ .nil

theorem sublist_optionValue (name : String) (v : Option String) :
    ((optionValue name v).map (·.1)).Sublist [name] := by
  cases v with
  | none => exact List.nil_sublist _
  | some s => exact List.Sublist.refl _

/-- The names of fields around one that may be absent. -/
theorem sublist_append_optionValue_append (us : List (String × Value)) (v : Option String) :
    ((us ++ (optionValue name v ++ vs)).map (·.1)).Sublist
      (us.map (·.1) ++ name :: vs.map (·.1)) := by
  rw [List.map_append, List.map_append]
  exact (List.Sublist.refl _).append ((sublist_optionValue name v).append (List.Sublist.refl _))

/-- Another field is found behind the one that may be absent. -/
theorem field?_optionValue_append (h : name ≠ other) (v : Option String) :
    Toml.field? other (optionValue name v ++ vs) = Toml.field? other vs := by
  cases v with
  | none => rfl
  | some s => exact if_neg h

theorem optional_optionValue_append (h : Toml.field? name vs = none) (v : Option String) :
    optional (optionValue name v ++ vs) name Toml.text = some v := by
  cases v with
  | none => exact Toml.optional_eq_none h
  | some s => exact Toml.optional_eq (if_pos rfl) (Toml.text_string s)

end Options

/-! ### Sections -/

namespace General

/-- The fields of the general settings as values. -/
def values (s : General) : List (String × Value) :=
  optionValue "instance_id" s.instanceId ++
    [("name", .string s.name), ("verbose", .boolean s.verbose)]

theorem fields_values (s : General) : Fields s.fields s.values := by
  refine Toml.fields_of_sublist schema.names (by decide)
    (sublist_append_optionValue_append [] _) ?_
  exact List.rel_append (reads_option _ _) (.cons ⟨rfl, Toml.reads_stringText _ _⟩
    (.cons ⟨rfl, Toml.reads_booleanText _ _⟩ .nil))

theorem ofValue_values (s : General) : ofValue (.table s.values) = some s := by
  have hid : optional s.values "instance_id" Toml.text = some s.instanceId :=
    optional_optionValue_append rfl _
  have hname : withDefault s.values "name" ({} : General).name Toml.text = some s.name :=
    Toml.withDefault_eq (field?_optionValue_append (by decide) _) (Toml.text_string _) _
  have hverbose : withDefault s.values "verbose" ({} : General).verbose Toml.boolean =
      some s.verbose :=
    Toml.withDefault_eq (field?_optionValue_append (by decide) _) (Toml.boolean_boolean _) _
  rw [ofValue, Toml.recordOf, Option.bind_eq_bind, Option.bind_some, hid, hname, hverbose]
  rfl

end General

namespace Station

/-- The fields of the station as values. -/
def values (s : Station) : List (String × Value) :=
  [("network", .integer s.network.toNat), ("station", .integer s.station.toNat),
    ("version_major", .integer s.versionMajor.toNat),
    ("version_minor", .integer s.versionMinor.toNat)]

theorem fields_values (s : Station) : Fields s.fields s.values := by
  refine Toml.fields_of_sublist schema.names (by decide) (List.Sublist.refl _) ?_
  exact .cons ⟨rfl, Toml.reads_byte _ _⟩ (.cons ⟨rfl, Toml.reads_byte _ _⟩
    (.cons ⟨rfl, Toml.reads_byte _ _⟩ (.cons ⟨rfl, Toml.reads_byte _ _⟩ .nil)))

theorem ofValue_values (s : Station) : ofValue (.table s.values) = some s := by
  have hnetwork : withDefault s.values "network" ({} : Station).network Toml.byte =
      some s.network := Toml.withDefault_eq rfl (Toml.byte_integer _) _
  have hstation : withDefault s.values "station" ({} : Station).station Toml.byte =
      some s.station := Toml.withDefault_eq rfl (Toml.byte_integer _) _
  have hmajor : withDefault s.values "version_major" ({} : Station).versionMajor Toml.byte =
      some s.versionMajor := Toml.withDefault_eq rfl (Toml.byte_integer _) _
  have hminor : withDefault s.values "version_minor" ({} : Station).versionMinor Toml.byte =
      some s.versionMinor := Toml.withDefault_eq rfl (Toml.byte_integer _) _
  rw [ofValue, Toml.recordOf, Option.bind_eq_bind, Option.bind_some, hnetwork, hstation, hmajor,
    hminor]
  rfl

end Station

/-- Networks as a value. -/
def networksValue (ns : List UInt8) : Value := .array (ns.map fun n => .integer n.toNat)

theorem reads_networksText (ns : List UInt8) :
    Reads Toml.maxDepth (networksText ns) (networksValue ns) :=
  Toml.reads_arrayText fun n _ => Toml.reads_byte _ n

namespace Aun

/-- The fields of the transport by datagrams as values. -/
def values (s : Aun) : List (String × Value) :=
  [("enabled", .boolean s.enabled), ("port", .integer s.port.toNat),
    ("bind_address", .string s.bindAddress)] ++
  (optionValue "map_file" s.mapFile ++ [("rules", .array (s.rules.map .string))])

theorem fields_values (s : Aun) : Fields s.fields s.values := by
  refine Toml.fields_of_sublist schema.names (by decide)
    (sublist_append_optionValue_append _ _) ?_
  rw [Aun.fields, List.append_assoc]
  exact .cons ⟨rfl, Toml.reads_booleanText _ _⟩ (.cons ⟨rfl, Toml.reads_uint16 _ _⟩
    (.cons ⟨rfl, Toml.reads_stringText _ _⟩ (List.rel_append (reads_option _ _)
    (.cons ⟨rfl, Toml.reads_arrayText fun s _ => Toml.reads_stringText _ s⟩ .nil))))

theorem ofValue_values (s : Aun) : ofValue (.table s.values) = some s := by
  have henabled : withDefault s.values "enabled" ({} : Aun).enabled Toml.boolean =
      some s.enabled := Toml.withDefault_eq rfl (Toml.boolean_boolean _) _
  have hport : withDefault s.values "port" ({} : Aun).port Toml.uint16 = some s.port :=
    Toml.withDefault_eq rfl (Toml.uint16_integer _) _
  have haddress : withDefault s.values "bind_address" ({} : Aun).bindAddress Toml.text =
      some s.bindAddress := Toml.withDefault_eq rfl (Toml.text_string _) _
  have hfile : optional s.values "map_file" Toml.text = some s.mapFile :=
    optional_optionValue_append rfl _
  have hrules : withDefault s.values "rules" ({} : Aun).rules (Toml.listOf Toml.text) =
      some s.rules :=
    Toml.withDefault_eq (field?_optionValue_append (by decide) _)
      (Toml.listOf_array Toml.text_string _) _
  rw [ofValue, Toml.recordOf, Option.bind_eq_bind, Option.bind_some, henabled, hport, haddress,
    hfile, hrules]
  rfl

end Aun

namespace WebSocket

/-- The fields of the transport to browser clients as values. -/
def values (s : WebSocket) : List (String × Value) :=
  [("enabled", .boolean s.enabled), ("port", .integer s.port.toNat),
    ("bind_address", .string s.bindAddress)] ++
  (optionValue "dynamic_networks_file" s.dynamicNetworksFile ++
    [("dynamic_networks", networksValue s.dynamicNetworks)])

theorem fields_values (s : WebSocket) : Fields s.fields s.values := by
  refine Toml.fields_of_sublist schema.names (by decide)
    (sublist_append_optionValue_append _ _) ?_
  rw [WebSocket.fields, List.append_assoc]
  exact .cons ⟨rfl, Toml.reads_booleanText _ _⟩ (.cons ⟨rfl, Toml.reads_uint16 _ _⟩
    (.cons ⟨rfl, Toml.reads_stringText _ _⟩ (List.rel_append (reads_option _ _)
    (.cons ⟨rfl, reads_networksText _⟩ .nil))))

theorem ofValue_values (s : WebSocket) : ofValue (.table s.values) = some s := by
  have henabled : withDefault s.values "enabled" ({} : WebSocket).enabled Toml.boolean =
      some s.enabled := Toml.withDefault_eq rfl (Toml.boolean_boolean _) _
  have hport : withDefault s.values "port" ({} : WebSocket).port Toml.uint16 = some s.port :=
    Toml.withDefault_eq rfl (Toml.uint16_integer _) _
  have haddress : withDefault s.values "bind_address" ({} : WebSocket).bindAddress Toml.text =
      some s.bindAddress := Toml.withDefault_eq rfl (Toml.text_string _) _
  have hfile : optional s.values "dynamic_networks_file" Toml.text =
      some s.dynamicNetworksFile := optional_optionValue_append rfl _
  have hnetworks : withDefault s.values "dynamic_networks" ({} : WebSocket).dynamicNetworks
      (Toml.listOf Toml.byte) = some s.dynamicNetworks :=
    Toml.withDefault_eq (field?_optionValue_append (by decide) _)
      (Toml.listOf_array Toml.byte_integer _) _
  rw [ofValue, Toml.recordOf, Option.bind_eq_bind, Option.bind_some, henabled, hport, haddress,
    hfile, hnetworks]
  rfl

end WebSocket

namespace Piconet

/-- The fields of the transport by the serial adapter as values. -/
def values (s : Piconet) : List (String × Value) :=
  [("enabled", .boolean s.enabled), ("device", .string s.device),
    ("baud_rate", .integer s.baudRate.toNat)] ++
  (optionValue "networks_file" s.networksFile ++ [("networks", networksValue s.networks)])

theorem fields_values (s : Piconet) : Fields s.fields s.values := by
  refine Toml.fields_of_sublist schema.names (by decide)
    (sublist_append_optionValue_append _ _) ?_
  rw [Piconet.fields, List.append_assoc]
  exact .cons ⟨rfl, Toml.reads_booleanText _ _⟩ (.cons ⟨rfl, Toml.reads_stringText _ _⟩
    (.cons ⟨rfl, Toml.reads_uint32 _ _⟩ (List.rel_append (reads_option _ _)
    (.cons ⟨rfl, reads_networksText _⟩ .nil))))

theorem ofValue_values (s : Piconet) : ofValue (.table s.values) = some s := by
  have henabled : withDefault s.values "enabled" ({} : Piconet).enabled Toml.boolean =
      some s.enabled := Toml.withDefault_eq rfl (Toml.boolean_boolean _) _
  have hdevice : withDefault s.values "device" ({} : Piconet).device Toml.text =
      some s.device := Toml.withDefault_eq rfl (Toml.text_string _) _
  have hrate : withDefault s.values "baud_rate" ({} : Piconet).baudRate Toml.uint32 =
      some s.baudRate := Toml.withDefault_eq rfl (Toml.uint32_integer _) _
  have hfile : optional s.values "networks_file" Toml.text = some s.networksFile :=
    optional_optionValue_append rfl _
  have hnetworks : withDefault s.values "networks" ({} : Piconet).networks
      (Toml.listOf Toml.byte) = some s.networks :=
    Toml.withDefault_eq (field?_optionValue_append (by decide) _)
      (Toml.listOf_array Toml.byte_integer _) _
  rw [ofValue, Toml.recordOf, Option.bind_eq_bind, Option.bind_some, henabled, hdevice, hrate,
    hfile, hnetworks]
  rfl

end Piconet

namespace Security

/-- The fields of the users and sessions as values. -/
def values (s : Security) : List (String × Value) :=
  [("max_idle_secs", .integer s.maxIdleSecs.toNat),
    ("housekeeping_interval_secs", .integer s.housekeepingIntervalSecs.toNat)] ++
  (optionValue "users_file" s.usersFile ++
    [("home_root", .string s.homeRoot), ("library_path", .string s.libraryPath)])

/-- The numbers are written as such only where they fit into the integers of the format. -/
theorem fields_values {s : Security} (hidle : s.maxIdleSecs.toNat < 9223372036854775808)
    (hinterval : s.housekeepingIntervalSecs.toNat < 9223372036854775808) :
    Fields s.fields s.values := by
  refine Toml.fields_of_sublist schema.names (by decide)
    (sublist_append_optionValue_append _ _) ?_
  rw [Security.fields, List.append_assoc]
  exact .cons ⟨rfl, Toml.reads_digits _ hidle⟩ (.cons ⟨rfl, Toml.reads_digits _ hinterval⟩
    (List.rel_append (reads_option _ _) (.cons ⟨rfl, Toml.reads_stringText _ _⟩
    (.cons ⟨rfl, Toml.reads_stringText _ _⟩ .nil))))

theorem ofValue_values (s : Security) : ofValue (.table s.values) = some s := by
  have hidle : withDefault s.values "max_idle_secs" ({} : Security).maxIdleSecs Toml.uint64 =
      some s.maxIdleSecs := Toml.withDefault_eq rfl (Toml.uint64_integer _) _
  have hinterval : withDefault s.values "housekeeping_interval_secs"
      ({} : Security).housekeepingIntervalSecs Toml.uint64 = some s.housekeepingIntervalSecs :=
    Toml.withDefault_eq rfl (Toml.uint64_integer _) _
  have hfile : optional s.values "users_file" Toml.text = some s.usersFile :=
    optional_optionValue_append rfl _
  have hhome : withDefault s.values "home_root" ({} : Security).homeRoot Toml.text =
      some s.homeRoot :=
    Toml.withDefault_eq (field?_optionValue_append (by decide) _) (Toml.text_string _) _
  have hlibrary : withDefault s.values "library_path" ({} : Security).libraryPath Toml.text =
      some s.libraryPath :=
    Toml.withDefault_eq (field?_optionValue_append (by decide) _) (Toml.text_string _) _
  -- Each field is put in its place as a whole: the bounds of numbers are not for evaluation.
  rw [ofValue, Toml.recordOf, Option.bind_eq_bind, Option.bind_some, hidle, hinterval, hfile,
    hhome, hlibrary]
  rfl

end Security

/-! ### All settings -/

variable {s : Settings}

/-- The sections as values. -/
def values (s : Settings) : List (String × List (String × Value)) :=
  [("general", s.general.values), ("bridge", s.bridge.values), ("aun", s.aun.values),
    ("websocket", s.websocket.values), ("piconet", s.piconet.values),
    ("security", s.security.values)]

/-- The written form denotes the sections. -/
theorem parse_toml_chars (h : s.isWritable) :
    Toml.parse s.chars = some (s.values.map fun d => (d.1, .table d.2)) := by
  rw [isWritable, Bool.and_eq_true, decide_eq_true_eq, decide_eq_true_eq] at h
  have hsections : List.Forall₂ (fun w d => w.1 = d.1 ∧ Toml.IsKey w.1 ∧ Fields w.2 d.2)
      [("general", s.general.fields), ("bridge", s.bridge.fields), ("aun", s.aun.fields),
        ("websocket", s.websocket.fields), ("piconet", s.piconet.fields),
        ("security", s.security.fields)] s.values :=
    .cons ⟨rfl, (by decide : Toml.IsKey "general"), s.general.fields_values⟩
      (.cons ⟨rfl, (by decide : Toml.IsKey "bridge"), s.bridge.fields_values⟩
      (.cons ⟨rfl, (by decide : Toml.IsKey "aun"), s.aun.fields_values⟩
      (.cons ⟨rfl, (by decide : Toml.IsKey "websocket"), s.websocket.fields_values⟩
      (.cons ⟨rfl, (by decide : Toml.IsKey "piconet"), s.piconet.fields_values⟩
      (.cons ⟨rfl, (by decide : Toml.IsKey "security"), Security.fields_values h.1 h.2⟩ .nil)))))
  have hnames : (["general", "bridge", "aun", "websocket", "piconet", "security"] :
      List String).Nodup := by decide
  exact Toml.parse_sections hsections hnames

theorem ofEntries_values (s : Settings) :
    ofEntries (s.values.map fun d => (d.1, .table d.2)) = some s := by
  let es : List (String × Value) := s.values.map fun d => (d.1, .table d.2)
  have hgeneral : withDefault es "general" {} General.ofValue = some s.general :=
    Toml.withDefault_eq rfl s.general.ofValue_values _
  have hbridge : withDefault es "bridge" {} Station.ofValue = some s.bridge :=
    Toml.withDefault_eq rfl s.bridge.ofValue_values _
  have haun : withDefault es "aun" {} Aun.ofValue = some s.aun :=
    Toml.withDefault_eq rfl s.aun.ofValue_values _
  have hwebsocket : withDefault es "websocket" {} WebSocket.ofValue = some s.websocket :=
    Toml.withDefault_eq rfl s.websocket.ofValue_values _
  have hpiconet : withDefault es "piconet" {} Piconet.ofValue = some s.piconet :=
    Toml.withDefault_eq rfl s.piconet.ofValue_values _
  have hsecurity : withDefault es "security" {} Security.ofValue = some s.security :=
    Toml.withDefault_eq rfl s.security.ofValue_values _
  rw [ofEntries, hgeneral, hbridge, haun, hwebsocket, hpiconet, hsecurity]
  rfl

/-- **Settings that can be written read as themselves.** -/
theorem parse_chars (h : s.isWritable) : parse s.chars = some s := by
  rw [parse, parse_toml_chars h, Option.bind_some, ofEntries_values]

/-- What is written are settings that fit into the format, and the file holds their text. -/
theorem readText_of_save {fs gs : Files} {path : String} (h : s.save fs path = .ok gs) :
    s.isWritable ∧ gs.readText path = .ok (String.ofList s.chars) := by
  unfold save text? at h
  split at h
  · cases h
  · next text htext =>
    split at htext
    · next hwritable =>
      cases htext
      split at h
      · next hsave =>
        cases h
        exact ⟨hwritable, Files.readText_save hsave⟩
      · cases h
    · cases htext

/-- **Valid settings are loaded as they were saved**, in every section and field. -/
theorem load_of_save {fs gs : Files} {path : String} (hvalid : s.isValid)
    (hsave : s.save fs path = .ok gs) : load gs path = .ok s := by
  obtain ⟨hwritable, hread⟩ := readText_of_save hsave
  have hpresent : gs.isPresent path := Files.isPresent_of_readText hread
  rw [load, if_pos hpresent, hread]
  show ofText (String.ofList s.chars) = .ok s
  rw [ofText, String.toList_ofList, parse_chars hwritable]
  show s.validate = .ok s
  rw [validate, if_pos hvalid]

/-- Strings that take every form of quotes, lists of no, one and all elements, and options that
are absent or empty. -/
theorem load_of_save_hostile :
    let s : Settings :=
      { general := { name := "a\"b'\\\n\"\"\"'''\x7f" }
        bridge := { station := 1, versionMinor := 255 }
        aun := { mapFile := some "", rules := ["\r\n", "", "\\\"", "# [x]"] }
        websocket := { dynamicNetworks := (List.range 256).map UInt8.ofNat }
        piconet := { baudRate := 4294967295, networks := [7], networksFile := some "C:\\é\t" }
        security := { maxIdleSecs := 9223372036854775807, homeRoot := "'\"" } }
    let fs := Files.empty ["srv"]
    ∃ gs, s.isValid ∧ s.save fs "etc/bridge.toml" = .ok gs ∧
      load gs "etc/bridge.toml" = .ok s := by
  intro s fs
  have hvalid : s.isValid := by decide
  have hwritten : (s.save fs "etc/bridge.toml").isOk := by decide
  cases hsave : s.save fs "etc/bridge.toml" with
  | error e =>
    rw [hsave] at hwritten
    cases hwritten
  | ok gs => exact ⟨gs, hvalid, rfl, load_of_save hvalid hsave⟩

end Econet.Settings
