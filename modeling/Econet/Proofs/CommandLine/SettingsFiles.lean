import Econet.CommandLine.Report
import Mathlib.Control.Monad.Basic

/-!
# The settings of a call

A call takes its settings from the file that its arguments name, and if they name none, from the
first of the places that are searched at which something stands. The file holds settings, or it is
faulty: it cannot be read, it does not hold settings, or the bridge may not have the station that
they give it. A faulty file stops the call if it is named. If it was found by the search, the call
is carried out all the same, with the defaults, as it is where nothing was found.

## Main definitions

* `Settings.IsHeld`, `Settings.IsFaulty`: what a file holds, and what is wrong with it
* `CommandLine.Selects`: the file that a call takes its settings from
* `CommandLine.StopsWith`: the report of a call that an error in settings stops

## Main results

* `Settings.exists_isHeld_or_isFaulty`: a file holds settings or is faulty
* `CommandLine.not_stopsWith_default`: defaults stop no call
* `CommandLine.call_of_selects`: what the selected file means for a call
-/

namespace Econet

/-! ### What files hold -/

namespace Settings

variable {fs : Files} {path text : String} {s : Settings} {e : SettingsError}

/-- The file holds settings with which a bridge may run. -/
def IsHeld (fs : Files) (path : String) (s : Settings) : Prop :=
  ∃ text, fs.readText path = .ok text ∧ parse text.toList = some s ∧
    s.bridge.station ≠ 0 ∧ s.bridge.station ≠ 255

/-- What is wrong with a file of settings. -/
inductive IsFaulty (fs : Files) (path : String) : SettingsError → Prop where
  /-- Nothing stands there. -/
  | missing (h : fs.isPresent path = false) : IsFaulty fs path (.notFound path)
  /-- What stands there cannot be read as a text. -/
  | unreadable {cause : FileError} (hpresent : fs.isPresent path = true)
      (h : fs.readText path = .error cause) : IsFaulty fs path (.io cause)
  /-- The text is not TOML, or something in it is of a wrong type. -/
  | notSettings {text : String} (hread : fs.readText path = .ok text)
      (h : parse text.toList = none) : IsFaulty fs path (@SettingsError.notSettings text)
  /-- The station is one that no bridge may have. -/
  | reservedStation {text : String} {s : Settings} (hread : fs.readText path = .ok text)
      (hparse : parse text.toList = some s)
      (h : s.bridge.station = 0 ∨ s.bridge.station = 255) :
    IsFaulty fs path (.reservedStation s.bridge.station)

theorem isValid_iff : s.isValid = true ↔ s.bridge.station ≠ 0 ∧ s.bridge.station ≠ 255 := by
  rw [isValid, Bool.and_eq_true, decide_eq_true_eq, decide_eq_true_eq]
  rfl

theorem load_of_readText (hread : fs.readText path = .ok text) : load fs path = ofText text := by
  rw [load, if_pos (Files.isPresent_of_readText hread), hread]

theorem ofText_of_parse (hparse : parse text.toList = some s) : ofText text = s.validate := by
  rw [ofText, hparse]

theorem load_of_isHeld (h : IsHeld fs path s) : load fs path = .ok s := by
  obtain ⟨text, hread, hparse, hstation⟩ := h
  rw [load_of_readText hread, ofText_of_parse hparse, validate, if_pos (isValid_iff.mpr hstation)]

theorem load_of_isFaulty (h : IsFaulty fs path e) : load fs path = .error e := by
  cases h with
  | missing h =>
    rw [load, h]
    rfl
  | unreadable hpresent h => rw [load, if_pos hpresent, h]
  | notSettings hread h => rw [load_of_readText hread, ofText, h]
  | reservedStation hread hparse h =>
    rw [load_of_readText hread, ofText_of_parse hparse, validate, if_neg]
    rw [isValid_iff, not_and_or, not_not, not_not]
    exact h

/-- Whatever stands there, a file either holds settings or is faulty. -/
theorem exists_isHeld_or_isFaulty (fs : Files) (path : String) :
    (∃ s, IsHeld fs path s) ∨ ∃ e, IsFaulty fs path e := by
  cases hpresent : fs.isPresent path with
  | false => exact .inr ⟨_, .missing hpresent⟩
  | true =>
    cases hread : fs.readText path with
    | error cause => exact .inr ⟨_, .unreadable hpresent hread⟩
    | ok text =>
      cases hparse : parse text.toList with
      | none => exact .inr ⟨_, .notSettings hread hparse⟩
      | some s =>
        by_cases hstation : s.bridge.station = 0 ∨ s.bridge.station = 255
        · exact .inr ⟨_, .reservedStation hread hparse hstation⟩
        · exact .inl ⟨s, text, hread, hparse, not_or.mp hstation⟩

end Settings

namespace CommandLine

open Settings (IsHeld IsFaulty defaultPlaces)

variable {env : Environment} {sink : Sink} {file : Option String} {path : String} {s : Settings}
  {e : SettingsError} {args : List String} {i : Invocation}

/-! ### Which file is selected -/

/-- The file that a call takes its settings from, given the one that its arguments name. -/
inductive Selects (env : Environment) : Option String → String → Prop where
  /-- A file that is named, whether or not something stands there. -/
  | named (path : String) : Selects env (some path) path
  /-- The first place of the search at which something stands. -/
  | found {front back : List String} {path : String}
      (hplaces : defaultPlaces env.settingsDirectory = front ++ path :: back)
      (hfront : ∀ p ∈ front, env.files.isPresent p = false)
      (hpath : env.files.isPresent path = true) : Selects env none path

theorem selects_some_iff {named : String} : Selects env (some named) path ↔ path = named := by
  constructor
  · rintro ⟨⟩
    rfl
  · rintro rfl
    exact .named path

theorem selects_none_iff : Selects env none path ↔
    (defaultPlaces env.settingsDirectory).find? env.files.isPresent = some path := by
  rw [List.find?_eq_some_iff_append]
  constructor
  · intro h
    cases h with
    | @found front back _ hplaces hfront hpath =>
      exact ⟨hpath, front, back, hplaces, fun p hp => by simp [hfront p hp]⟩
  · rintro ⟨hpath, front, back, hplaces, hfront⟩
    exact .found hplaces (fun p hp => by simpa using hfront p hp) hpath

/-- The search loads the place that it comes to first, and no other. -/
theorem loadDefault_of_selects (h : Selects env none path) :
    Settings.loadDefault env.files env.settingsDirectory = Settings.load env.files path := by
  rw [Settings.loadDefault, selects_none_iff.mp h]

theorem settingsFor_of_isHeld (hselects : Selects env file path) (h : IsHeld env.files path s) :
    settingsFor env file = .ok s := by
  have hload : Settings.load env.files path = .ok s := Settings.load_of_isHeld h
  cases file with
  | some named =>
    cases selects_some_iff.mp hselects
    exact hload
  | none => rw [settingsFor, loadDefault_of_selects hselects, hload]

/-- A file that is named has to hold settings. -/
theorem settingsFor_of_isFaulty_named (h : IsFaulty env.files path e) :
    settingsFor env (some path) = .error e :=
  Settings.load_of_isFaulty h

/-- One that was found is passed over, with the places behind it. -/
theorem settingsFor_of_isFaulty_found (hselects : Selects env none path)
    (h : IsFaulty env.files path e) : settingsFor env none = .ok .default := by
  rw [settingsFor, loadDefault_of_selects hselects, Settings.load_of_isFaulty h]

theorem settingsFor_of_not_selects (h : ∀ path, ¬ Selects env file path) :
    settingsFor env file = .ok .default := by
  cases file with
  | some named => exact absurd (.named named) (h named)
  | none =>
    have hnone : (defaultPlaces env.settingsDirectory).find? env.files.isPresent = none :=
      Option.eq_none_iff_forall_ne_some.mpr fun path hpath => h path (selects_none_iff.mpr hpath)
    rw [settingsFor, Settings.loadDefault, hnone]

theorem call_of_settingsFor (hargs : parse args = .ok i)
    (hsettings : settingsFor env i.settingsFile = .ok s) :
    call env sink args = report env sink s i.command := by
  rw [call, hargs]
  simp only [hsettings]

/-! ### Calls that are stopped -/

/-- The report of a call that an error in settings stops: it fails with the error, and nothing was
run, shown or written. -/
structure StopsWith (r : Report) (env : Environment) (e : SettingsError) : Prop where
  code : r.code = 1
  errors : r.errors =
    s!"Error: {e.message env.settingsCause}{causesText (settingsCauses e env.settingsCause)}\n"
  output : r.output = ""
  log : r.log = []
  files : r.files = env.files
  bridge : r.bridge = none

theorem stopsWith_settingsFailed (env : Environment) (e : SettingsError) :
    StopsWith (settingsFailed env e) env e := ⟨rfl, rfl, rfl, rfl, rfl, rfl⟩

theorem StopsWith.code_ne_zero {r : Report} (h : StopsWith r env e) : r.code ≠ 0 := by
  rw [h.code]
  decide

/-- How the wording of errors in settings begins. -/
def settingsOpenings : List String :=
  ["IO error: ", "Parse error: ", "Serialize error: ", "Config file not found: ",
    "Invalid configuration: bridge station "]

theorem exists_message_eq (e : SettingsError) (toml : String → String) :
    ∃ opening ∈ settingsOpenings, ∃ rest, e.message toml = opening ++ rest := by
  cases e with
  | io cause => exact ⟨_, .head _, cause.message, rfl⟩
  | @notSettings text => exact ⟨_, .tail _ (.head _), toml text, rfl⟩
  | unwritable =>
    exact ⟨_, .tail _ (.tail _ (.head _)), "out-of-range value for `u64` type", rfl⟩
  | notFound path => exact ⟨_, .tail _ (.tail _ (.tail _ (.head _))), path, rfl⟩
  | reservedStation station =>
    refine ⟨_, .tail _ (.tail _ (.tail _ (.tail _ (.head _)))),
      toString station ++ " is reserved", ?_⟩
    rw [← String.append_assoc]
    rfl

/-- Errors in files are worded differently from the start. -/
theorem take_opening_ne (cause : FileError) : ∀ opening ∈ settingsOpenings,
    2 ≤ opening.toList.length ∧ 2 ≤ cause.message.toList.length ∧
      opening.toList.take 2 ≠ cause.message.toList.take 2 := by
  cases cause <;> decide

theorem errors_failed (fs : Files) (headline : String) (causes : List String) :
    (failed fs headline causes).errors =
      "Error: " ++ (headline ++ (causesText causes ++ "\n")) := by
  simp only [failed, String.append_assoc]
  rfl

/-- A file that cannot be written is reported differently from an error in settings. -/
theorem errors_failed_ne (env : Environment) (cause : FileError) (e : SettingsError) :
    (failed env.files cause.message []).errors ≠ (settingsFailed env e).errors := by
  intro h
  obtain ⟨opening, hopening, rest, he⟩ := exists_message_eq e env.settingsCause
  obtain ⟨hlength, hlength', hne⟩ := take_opening_ne cause opening hopening
  rw [settingsFailed, errors_failed, errors_failed, he, String.append_assoc] at h
  have hchars := congrArg String.toList h
  simp only [String.toList_append, List.append_cancel_left_eq] at hchars
  have htake := congrArg (List.take 2) hchars
  rw [List.take_append_of_le_length hlength', List.take_append_of_le_length hlength] at htake
  exact hne htake.symm

/-- Defaults name no files for the routes. -/
theorem exists_routes_adjusted (fs : Files) (aunPort webSocketPort : Option UInt16)
    (serial : Option String) :
    ∃ r, (adjusted .default aunPort webSocketPort serial).routes fs = .ok r := by
  cases serial with
  | none => exact ⟨_, rfl⟩
  | some device => exact ⟨_, rfl⟩

/-- A bridge that knows its routes says so in the log. -/
theorem log_runReport_ne_nil {r : Routes} (hroutes : s.routes env.files = .ok r) :
    (runReport env sink s).log ≠ [] := by
  have hlog : (s.launch env sink).1 = s.startLog r := by rw [Settings.launch, hroutes]
  have hreport : (runReport env sink s).log = (s.launch env sink).1 := by
    rw [runReport]
    rcases s.launch env sink with ⟨log, started⟩
    cases started <;> rfl
  rw [hreport, hlog]
  exact List.cons_ne_nil _ _

/-- Settings that can be written are written, or their file fails. -/
theorem not_stopsWith_textReport (hwritable : s.isWritable = true) (output : Option String) :
    ¬ StopsWith (textReport env s output) env e := by
  intro h
  have hcode : (textReport env s output).code ≠ 0 := h.code_ne_zero
  have htext : s.text? = some (String.ofList s.chars) := by rw [Settings.text?, if_pos hwritable]
  cases output with
  | none =>
    refine hcode ?_
    rw [textReport, htext]
  | some target =>
    cases hwrite : env.files.writeText target (String.ofList s.chars) with
    | error cause =>
      have hreport : textReport env s (some target) = failed env.files cause.message [] := by
        rw [textReport, htext]
        simp only [hwrite]
      exact errors_failed_ne env cause e (hreport ▸ h.errors)
    | ok files =>
      refine hcode ?_
      rw [textReport, htext]
      simp only [hwrite]

/-- **Defaults stop no call**: no command fails with them as it does for an error in settings. -/
theorem not_stopsWith_default (env : Environment) (sink : Sink) (c : Command) (e : SettingsError) :
    ¬ StopsWith (report env sink .default c) env e := by
  -- A run is told from a call that is stopped by its log, the other two by what they end with.
  cases c with
  | run aunPort webSocketPort serial =>
    intro h
    obtain ⟨r, hr⟩ := exists_routes_adjusted env.files aunPort webSocketPort serial
    exact log_runReport_ne_nil hr h.log
  | config generate output =>
    cases generate with
    | false => exact not_stopsWith_textReport (s := .default) (by decide) none
    | true => exact not_stopsWith_textReport (s := .sample) (by decide) output
  | info =>
    intro h
    exact h.code_ne_zero rfl

/-- **What the selected file means for a call.** It holds settings or is faulty. Settings that it
holds are those of the call. If it is faulty, it stops the call exactly if the arguments name it; if
they do not, the call is carried out with the defaults, as it is if no file is selected. -/
theorem call_of_selects (hargs : parse args = .ok i) (env : Environment) (sink : Sink) :
    (∀ path, Selects env i.settingsFile path →
      (∃ s, IsHeld env.files path s) ∨ ∃ e, IsFaulty env.files path e) ∧
    (∀ path s, Selects env i.settingsFile path → IsHeld env.files path s →
      call env sink args = report env sink s i.command) ∧
    (∀ path e, Selects env i.settingsFile path → IsFaulty env.files path e →
      (StopsWith (call env sink args) env e ↔ i.settingsFile = some path) ∧
      (i.settingsFile = none → call env sink args = report env sink .default i.command)) ∧
    ((∀ path, ¬ Selects env i.settingsFile path) →
      call env sink args = report env sink .default i.command) := by
  refine ⟨fun path _ => Settings.exists_isHeld_or_isFaulty env.files path,
    fun path s hselects hheld => ?_, fun path e hselects hfaulty => ?_, fun hnone => ?_⟩
  · exact call_of_settingsFor hargs (settingsFor_of_isHeld hselects hheld)
  · cases hfile : i.settingsFile with
    | some named =>
      rw [hfile] at hselects
      cases selects_some_iff.mp hselects
      have hcall : call env sink args = settingsFailed env e := by
        rw [call, hargs]
        simp only [hfile, settingsFor_of_isFaulty_named hfaulty]
      rw [hcall]
      exact ⟨iff_of_true (stopsWith_settingsFailed env e) rfl, nofun⟩
    | none =>
      rw [hfile] at hselects
      -- The error of the file is dropped, and nothing that is done with the defaults looks like it.
      have hcall : call env sink args = report env sink .default i.command :=
        call_of_settingsFor hargs (hfile ▸ settingsFor_of_isFaulty_found hselects hfaulty)
      rw [hcall]
      exact ⟨iff_of_false (not_stopsWith_default env sink i.command e) nofun, fun _ => rfl⟩
  · exact call_of_settingsFor hargs (settingsFor_of_not_selects hnone)

/-- A file that is no text stops a call that names it, although the search would find another. -/
theorem call_of_selects_unreadable :
    let files := Files.ofList ["srv"] [("bridge.toml", ⟨#[0xFF]⟩), ("config.toml", .empty)]
    let env : Environment :=
      { files, settingsDirectory := some "/home/.config", freshId := "id", refusal := fun _ => none }
    let args := ["run", "--aun-port=1", "-c", "bridge.toml"]
    let i : Invocation := ⟨some "bridge.toml", false, .run (some 1) none none⟩
    parse args = .ok i ∧ Selects env i.settingsFile "bridge.toml" ∧
      IsFaulty env.files "bridge.toml" (.io .notText) ∧ Selects env none "./config.toml" ∧
      ∀ sink, StopsWith (call env sink args) env (.io .notText) := by
  intro files env args i
  have hargs : parse args = .ok i := by decide +kernel
  have hselects : Selects env i.settingsFile "bridge.toml" := .named _
  have hfaulty : IsFaulty env.files "bridge.toml" (.io .notText) :=
    .unreadable (by decide +kernel) (by decide +kernel)
  have hother : Selects env none "./config.toml" := selects_none_iff.mpr (by decide +kernel)
  refine ⟨hargs, hselects, hfaulty, hother, fun sink => ?_⟩
  exact ((call_of_selects hargs env sink).2.2.1 _ _ hselects hfaulty).1.mpr rfl

/-- A call describes a bridge with another station than the settings that it found. -/
theorem not_stopsWith_of_found :
    let text := "[bridge]\nnetwork = 127\nstation = 255\n"
    let files := Files.ofList ["srv"] [("config.toml", text.toUTF8)]
    let env : Environment :=
      { files, settingsDirectory := some "/home/.config", freshId := "id", refusal := fun _ => none }
    let i : Invocation := ⟨none, false, .info⟩
    parse ["info"] = .ok i ∧ Selects env i.settingsFile "./config.toml" ∧
      IsFaulty env.files "./config.toml" (.reservedStation 255) ∧
      ∀ sink, ¬ StopsWith (call env sink ["info"]) env (.reservedStation 255) ∧
        (call env sink ["info"]).output = description env .default := by
  intro text files env i
  have hargs : parse ["info"] = .ok i := by decide +kernel
  have hselects : Selects env none "./config.toml" := selects_none_iff.mpr (by decide +kernel)
  have hparse : Settings.parse text.toList = some { bridge := ⟨127, 255, 2, 0⟩ } := by
    decide +kernel
  have hfaulty : IsFaulty env.files "./config.toml" (.reservedStation 255) :=
    .reservedStation (by decide +kernel) hparse (.inr rfl)
  have hcall (sink : Sink) : call env sink ["info"] = report env sink .default .info :=
    call_of_settingsFor hargs (settingsFor_of_isFaulty_found hselects hfaulty)
  refine ⟨hargs, hselects, hfaulty, fun sink => ?_⟩
  rw [hcall]
  exact ⟨not_stopsWith_default env sink .info _, rfl⟩

end CommandLine

end Econet
