import Econet.Proofs.Account.Changes
import Econet.Proofs.Toml.Documents

/-!
# Accounts survive

What is saved of the accounts is all of them. Whoever reads the file after a change that succeeded
has the same accounts as the one who made it, whatever names, passwords and directories hold.

## Main definitions

* `Record.values`: the fields of an account as values
* `UserFile.run`: the accounts after several operations

## Main results

* `parseRecords_recordsText`: written accounts read as themselves
* `UserFile.entries_insertAll`: accounts with names of their own stand in their order
* `UserFile.users_of_saved`: who reads saved accounts has them all
* `UserFile.load_of_applied`: the accounts in the file after an operation that succeeded
-/

namespace Econet.Account

open Text (upper upper_upper digits)
open Toml (Value Reads Fields required withDefault)

/-! ### Written accounts -/

namespace Record

/-- The fields of an account as values. -/
def values (r : Record) : List (String × Value) :=
  [("username", .string r.username), ("password", .string r.password),
    ("uid", .integer r.uid.toNat), ("home", .string r.home),
    ("boot_option", .integer r.bootOption.toNat), ("privileged", .boolean r.privileged)]

theorem fields_values (r : Record) : Fields r.fields r.values := by
  refine Toml.fields_of_sublist schema.names (by decide) (List.Sublist.refl _) ?_
  exact .cons ⟨rfl, Toml.reads_stringText _ _⟩ (.cons ⟨rfl, Toml.reads_stringText _ _⟩
    (.cons ⟨rfl, Toml.reads_uint32 _ _⟩ (.cons ⟨rfl, Toml.reads_stringText _ _⟩
    (.cons ⟨rfl, Toml.reads_byte _ _⟩ (.cons ⟨rfl, Toml.reads_booleanText _ _⟩ .nil)))))

theorem ofValue_values (r : Record) : ofValue (.table r.values) = some r := by
  have husername : required r.values "username" Toml.text = some r.username :=
    Toml.required_eq rfl (Toml.text_string _)
  have hpassword : withDefault r.values "password" "" Toml.text = some r.password :=
    Toml.withDefault_eq rfl (Toml.text_string _) _
  have huid : required r.values "uid" Toml.uint32 = some r.uid :=
    Toml.required_eq rfl (Toml.uint32_integer _)
  have hhome : required r.values "home" Toml.text = some r.home :=
    Toml.required_eq rfl (Toml.text_string _)
  have hboot : withDefault r.values "boot_option" 0 Toml.byte = some r.bootOption :=
    Toml.withDefault_eq rfl (Toml.byte_integer _) _
  have hprivileged : withDefault r.values "privileged" false Toml.boolean = some r.privileged :=
    Toml.withDefault_eq rfl (Toml.boolean_boolean _) _
  rw [ofValue, Toml.recordOf, Option.bind_eq_bind, Option.bind_some, husername, hpassword, huid,
    hhome, hboot, hprivileged]
  rfl

end Record

/-- **Written accounts read as themselves.** -/
theorem parseRecords_recordsText (rs : List Record) : parseRecords (recordsText rs) = some rs := by
  have hentries : Toml.parse (recordsText rs).toList =
      some [("users", .array (rs.map fun r => .table r.values))] := by
    rw [recordsText, String.toList_ofList]
    split
    · next hrs =>
      subst hrs
      have hitems : ∀ s ∈ ([] : List String), Reads 78 (Toml.stringText s) (.string s) := nofun
      have hfields : Fields [("users", Toml.arrayText [])] [("users", .array [])] :=
        Toml.fields_of_sublist ["users"] (by decide) (List.Sublist.refl _)
          (.cons ⟨rfl, Toml.reads_arrayText hitems⟩ .nil)
      have hparse := Toml.parse_assignmentsText hfields
      rwa [Toml.assignmentsText, List.flatMap_singleton] at hparse
    · next hrs =>
      have hfields : List.Forall₂ Fields (rs.map Record.fields) (rs.map Record.values) := by
        rw [List.forall₂_map_left_iff, List.forall₂_map_right_iff]
        exact List.forall₂_same.mpr fun r _ => r.fields_values
      have hkey : Toml.IsKey "users" := by decide
      have hparse := Toml.parse_series hkey hfields (mt List.map_eq_nil_iff.mp hrs)
      rwa [List.map_map, List.map_map] at hparse
  have hrecords := Toml.listOf_array Record.ofValue_values rs
  rw [parseRecords, hentries, Option.bind_eq_bind, Option.bind_some]
  exact Toml.withDefault_eq rfl hrecords []

namespace UserFile

variable {f : UserFile} {fs : Files} {rs : List Record}

/-! ### Accounts in their order -/

theorem homeRoot_insertAll (f : UserFile) (rs : List Record) :
    (f.insertAll rs).homeRoot = f.homeRoot := by
  induction rs generalizing f with
  | nil => rfl
  | cons r rs ih => exact ih (f.insert r)

/-- Accounts with names of their own stand in the order in which they come. -/
theorem entries_insertAll (hupper : ∀ r ∈ rs, upper r.username = r.username)
    (hnodup : (f.users.keys ++ rs.map (·.username)).Nodup) :
    (f.insertAll rs).users.entries = f.users.entries ++ rs.map fun r => (r.username, r) := by
  induction rs generalizing f with
  | nil => exact (List.append_nil _).symm
  | cons r rs ih =>
    obtain ⟨hr, hrs⟩ := List.forall_mem_cons.mp hupper
    have hnew : r.username ∉ f.users.keys := fun hmem =>
      List.disjoint_of_nodup_append hnodup hmem List.mem_cons_self
    have hnormal : r.normal = r := by rw [Record.normal, hr]
    have hentries : (f.insert r).users.entries = f.users.entries ++ [(r.username, r)] := by
      rw [UserFile.insert, hnormal, hr]
      exact Table.entries_insert hnew r
    have hnext : ((f.insert r).users.keys ++ rs.map (·.username)).Nodup := by
      rw [Table.keys, hentries, List.map_append, List.append_assoc]
      exact hnodup
    show ((f.insert r).insertAll rs).users.entries = _
    rw [ih hrs hnext, hentries, List.append_assoc]
    rfl

theorem IsKeyed.entries_eq (h : f.IsKeyed) :
    f.users.values.map (fun r => (r.username, r)) = f.users.entries := by
  rw [Table.values, List.map_map]
  refine (List.map_congr_left fun e he => ?_).trans (List.map_id _)
  have hname := (h e.1 e.2 ((Table.mem_entries_iff _ _ _).mp he)).1
  exact Prod.ext hname rfl

theorem readText_of_saved {path : String} (hpath : f.path = some path)
    (hsaved : (f.save fs).result = .ok ()) : (f.save fs).files.readText path = .ok f.text := by
  simp only [save, hpath] at hsaved ⊢
  cases hwritten : fs.save path f.text with
  | mk result gs =>
    simp only [hwritten] at hsaved ⊢
    cases result with
    | ok => exact Files.readText_save hwritten
    | error cause => cases hsaved

/-- Who reads saved accounts has them all, in the order of their names. -/
theorem users_of_saved (h : f.IsKeyed) {path : String} (hpath : f.path = some path)
    (hsaved : (f.save fs).result = .ok ()) (homeRoot : String) :
    ∃ g, load (f.save fs).files path homeRoot = .ok g ∧ g.path = f.path ∧ g.homeRoot = homeRoot ∧
      g.users.entries.Perm f.users.entries := by
  -- What is written is in the order of names, and what is read is put in by that order.
  have hperm : f.records.Perm f.users.values := List.mergeSort_perm _ _
  have hentries : (f.records.map fun r => (r.username, r)).Perm f.users.entries :=
    h.entries_eq ▸ hperm.map _
  have hupper : ∀ r ∈ f.records, upper r.username = r.username := by
    intro r hr
    obtain ⟨key, hkey⟩ := (Table.mem_values_iff _ _).mp (hperm.subset hr)
    obtain ⟨rfl, hkey⟩ := h key r hkey
    exact hkey
  have hnodup : (f.records.map (·.username)).Nodup := by
    have hkeys := (hentries.map (·.1)).nodup_iff.mpr f.users.nodup_keys
    rwa [List.map_map] at hkeys
  have htext := readText_of_saved hpath hsaved
  have hparse : parseRecords f.text = some f.records := parseRecords_recordsText f.records
  let start : UserFile := { inMemory homeRoot with path := some path }
  have hload : load (f.save fs).files path homeRoot = .ok (start.insertAll f.records) := by
    rw [load, if_pos (Files.isPresent_of_readText htext), htext]
    simp only [hparse]
    rfl
  refine ⟨_, hload, ?_, homeRoot_insertAll start _, ?_⟩
  · rw [path_insertAll, hpath]
  · rw [entries_insertAll (f := start) hupper hnodup]
    exact hentries

/-! ### Operations one after the other -/

/-- The accounts after several operations, each on the files of its time. -/
def run (f : UserFile) (xs : List (Files × Operation)) : UserFile :=
  xs.foldl (fun f x => (f.apply x.1 x.2).state) f

theorem path_outcome (f : UserFile) (op : Operation) : (f.outcome op).path = f.path := by
  cases op <;> rfl

theorem path_apply (f : UserFile) (fs : Files) (op : Operation) :
    (f.apply fs op).state.path = f.path := by
  rw [state_apply]
  split
  · rfl
  · exact path_outcome f op

theorem path_run (f : UserFile) (xs : List (Files × Operation)) : (f.run xs).path = f.path := by
  induction xs generalizing f with
  | nil => rfl
  | cons x xs ih => exact (ih _).trans (f.path_apply x.1 x.2)

theorem IsKeyed.run (h : f.IsKeyed) (xs : List (Files × Operation)) : (f.run xs).IsKeyed := by
  induction xs generalizing f with
  | nil => exact h
  | cons x xs ih => exact ih (h.apply x.1 x.2)

theorem path_of_load {path homeRoot : String} (h : load fs path homeRoot = .ok f) :
    f.path = some path := by
  unfold load at h
  split at h
  · split at h
    · cases h
    · split at h
      · rw [← Except.ok.inj h, path_insertAll]
      · cases h
  · rw [← Except.ok.inj h]

/-- An operation that succeeds has saved its outcome. -/
theorem apply_of_ok {op : Operation} (h : (f.apply fs op).result = .ok ()) :
    f.apply fs op = (f.outcome op).save fs := by
  rw [apply_eq] at h ⊢
  cases hop : f.refusal? op with
  | none => rfl
  | some e =>
    rw [hop] at h
    cases h

/-- **The accounts in the file after an operation that succeeded**, whatever operations went before
it and whatever became of these: whoever reads them has every account as it is. -/
theorem load_of_applied {fs₀ : Files} {path homeRoot : String}
    (hload : load fs₀ path homeRoot = .ok f) (xs : List (Files × Operation)) {op : Operation}
    (hok : ((f.run xs).apply fs op).result = .ok ()) (homeRoot' : String) :
    let c := (f.run xs).apply fs op
    ∃ g, load c.files path homeRoot' = .ok g ∧ g.path = c.state.path ∧ g.homeRoot = homeRoot' ∧
      g.size = c.state.size ∧ ∀ key, g.users.get? key = c.state.users.get? key := by
  intro c
  have hkeyed : ((f.run xs).outcome op).IsKeyed := ((isKeyed_load hload).run xs).outcome op
  have hpath : ((f.run xs).outcome op).path = some path := by
    rw [path_outcome, path_run, path_of_load hload]
  have hsaved : c = ((f.run xs).outcome op).save fs := apply_of_ok hok
  have hok : (((f.run xs).outcome op).save fs).result = .ok () := hsaved ▸ hok
  obtain ⟨g, hg, hgpath, hroot, hperm⟩ := users_of_saved hkeyed hpath hok homeRoot'
  rw [hsaved, state_save]
  exact ⟨g, hg, hgpath, hroot, hperm.length_eq, Table.get?_eq_of_perm hperm⟩

/-- A name that takes a form of several lines with escapes, and a password with both quotes. -/
theorem load_of_applied_hostile :
    let fs := Files.empty ["srv"]
    let f : UserFile := { inMemory "/ho\r\nme'" with path := some "users.toml" }
    let name := "bob\n\"\"\"'''\\\x01"
    let c := (f.run [(fs, .create name "" true)]).apply fs (.setPassword name "\"'\x7f")
    load fs "users.toml" "/ho\r\nme'" = .ok f ∧ c.result = .ok () ∧
      ∃ g, load c.files "users.toml" "/" = .ok g ∧ g.size = 1 ∧
        (g.get? name).map (·.password) = some "\"'\x7f" ∧
        (g.get? name).map (·.home) = some "/ho\r\nme'/BOB\n\"\"\"'''\\\x01" := by
  intro fs f name c
  have hload : load fs "users.toml" "/ho\r\nme'" = .ok f := by rfl
  have hok : c.result = .ok () := by decide
  obtain ⟨g, hg, -, -, hsize, husers⟩ :=
    load_of_applied hload [(fs, .create name "" true)] hok "/"
  refine ⟨hload, hok, g, hg, hsize.trans (by decide), ?_, ?_⟩
  · rw [get?, husers]
    decide
  · rw [get?, husers]
    decide

end UserFile

end Econet.Account
