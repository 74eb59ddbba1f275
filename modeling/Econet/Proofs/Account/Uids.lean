import Econet.Proofs.Account.Persistence

/-!
# Numbers of users

A new user gets a number above all others, and above the numbers that are kept for the bridge. So
numbers stay apart, whatever is made, changed and removed, and whether it can be saved or not. There
is one limit: above the last number there is none.

## Main definitions

* `UserFile.IsBuilt`: accounts that a bridge can come to have
* `UserFile.TellsApart field`: no two accounts agree in a field
* `UserFile.HasRoomAlong xs`: nobody has the last number when operations make accounts

## Main results

* `UserFile.lt_nextUid`: the next number is above those of all users
* `UserFile.get?_outcome_origin`: where an account comes from that is there after an operation
* `UserFile.TellsApart.run`: numbers stay apart along operations
* `UserFile.uids_of_run`: names and numbers at every point of a sequence of operations
-/

namespace Econet.Account

open Text (upper)

namespace UserFile

variable {f : UserFile} {fs : Files} {op : Operation} {xs pre post : List (Files × Operation)}
  {rs : List Record} {r : Record} {key : String} {α : Type} {field : Record → α}

/-! ### Accounts that a bridge has -/

/-- Accounts that a bridge can come to have: none, those of a file, and what seeds and operations
make of them. -/
inductive IsBuilt : UserFile → Prop where
  | inMemory (homeRoot : String) : IsBuilt (inMemory homeRoot)
  | load {fs : Files} {path homeRoot : String} {f : UserFile} :
    load fs path homeRoot = .ok f → IsBuilt f
  | insert {f : UserFile} (r : Record) : IsBuilt f → IsBuilt (f.insert r)
  | apply {f : UserFile} (fs : Files) (op : Operation) : IsBuilt f → IsBuilt (f.apply fs op).state

theorem IsBuilt.isKeyed (h : f.IsBuilt) : f.IsKeyed := by
  induction h with
  | inMemory homeRoot => exact isKeyed_inMemory homeRoot
  | load h => exact isKeyed_load h
  | insert r _ ih => exact ih.insert r
  | apply fs op _ ih => exact ih.apply fs op

/-! ### Fields that tell accounts apart -/

/-- No two accounts agree in a field. -/
def TellsApart (f : UserFile) (field : Record → α) : Prop := (f.users.values.map field).Nodup

/-- Accounts that agree in a field are the same: they stand in the same place. -/
theorem tellsApart_iff :
    f.TellsApart field ↔ ∀ j k r s, f.users.get? j = some r → f.users.get? k = some s →
      field r = field s → j = k := by
  rw [TellsApart, Table.values, List.map_map]
  constructor
  · intro h j k r s hr hs hfield
    have he : (j, r) = (k, s) := List.inj_on_of_nodup_map h
      ((Table.mem_entries_iff _ _ _).mpr hr) ((Table.mem_entries_iff _ _ _).mpr hs) hfield
    exact congrArg Prod.fst he
  · intro h
    have hkeys := List.pairwise_map.mp f.users.nodup_keys
    refine List.pairwise_map.mpr (hkeys.imp_of_mem ?_)
    intro d e hd he hne hfield
    exact hne (h d.1 e.1 d.2 e.2 ((Table.mem_entries_iff _ _ _).mp hd)
      ((Table.mem_entries_iff _ _ _).mp he) hfield)

/-- Names differ by more than case, since every account stands under its name in upper case. -/
theorem IsKeyed.tellsApart_upper (h : f.IsKeyed) : f.TellsApart fun r => upper r.username := by
  refine tellsApart_iff.mpr fun j k r s hr hs hupper => ?_
  obtain ⟨rfl, hj⟩ := h j r hr
  obtain ⟨rfl, hk⟩ := h k s hs
  rwa [hj, hk] at hupper

/-! ### The next number -/

theorem toNat_max (a b : UInt32) : (max a b).toNat = max a.toNat b.toNat := by
  show (if a ≤ b then b else a).toNat = _
  split
  · next h => exact (Nat.max_eq_right (UInt32.le_iff_toNat_le.mp h)).symm
  · next h => exact (Nat.max_eq_left (Nat.le_of_not_le (mt UInt32.le_iff_toNat_le.mpr h))).symm

/-- The number from which a search for a number above all others starts is not above the result. -/
theorem le_foldl_max (rs : List Record) (n : UInt32) :
    n.toNat ≤ (rs.foldl (fun n r => max n (r.uid + 1)) n).toNat := by
  induction rs generalizing n with
  | nil => exact Nat.le_refl _
  | cons r rs ih =>
    refine Nat.le_trans ?_ (ih _)
    rw [toNat_max]
    exact Nat.le_max_left _ _

theorem succ_uid_le_foldl_max (h : r ∈ rs) (n : UInt32) :
    (r.uid + 1).toNat ≤ (rs.foldl (fun n r => max n (r.uid + 1)) n).toNat := by
  induction rs generalizing n with
  | nil => cases h
  | cons s rs ih =>
    rcases List.mem_cons.mp h with rfl | h
    · refine Nat.le_trans ?_ (le_foldl_max rs _)
      rw [toNat_max]
      exact Nat.le_max_right _ _
    · exact ih h _

/-- Nobody has the last number. -/
def HasRoom (f : UserFile) : Prop := ∀ r ∈ f.users.values, r.uid ≠ 4294967295

theorem firstUid_le_nextUid (f : UserFile) : firstUid ≤ f.nextUid :=
  UInt32.le_iff_toNat_le.mpr (le_foldl_max _ _)

/-- **The next number is above those of all users.** -/
theorem lt_nextUid (h : f.HasRoom) (hr : r ∈ f.users.values) : r.uid < f.nextUid := by
  have hsucc : (r.uid + 1).toNat ≤ f.nextUid.toNat := succ_uid_le_foldl_max hr firstUid
  -- The number is not the last one, so its successor is not 0.
  have hne : r.uid.toNat ≠ 4294967295 := fun hlast => h r hr (UInt32.toNat_inj.mp hlast)
  have hlt : r.uid.toNat < 4294967296 := r.uid.toNat_lt
  have hadd : (r.uid + 1).toNat = r.uid.toNat + 1 := by
    rw [UInt32.toNat_add]
    exact Nat.mod_eq_of_lt (show r.uid.toNat + 1 < 4294967296 by omega)
  rw [hadd] at hsucc
  exact UInt32.lt_iff_toNat_lt.mpr hsucc

/-! ### Numbers along operations -/

/-- **Where an account comes from that is there after an operation.** It was there with the same
number, or the operation has made it. -/
theorem get?_outcome_origin (h : (f.outcome op).users.get? key = some r) :
    (∃ s, f.users.get? key = some s ∧ s.uid = r.uid) ∨
      (op.creates = true ∧ key = upper op.name ∧ r.uid = f.nextUid) := by
  rw [users_outcome] at h
  split at h
  · next hkey =>
    cases op with
    | create name password privileged =>
      right
      rw [← Option.some.inj h]
      exact ⟨rfl, hkey.symm, rfl⟩
    | remove name => cases h
    | setPrivileged name privileged =>
      obtain ⟨s, hs, rfl⟩ := Option.map_eq_some_iff.mp h
      exact Or.inl ⟨s, hs, rfl⟩
    | setPassword name password =>
      obtain ⟨s, hs, rfl⟩ := Option.map_eq_some_iff.mp h
      exact Or.inl ⟨s, hs, rfl⟩
  · exact Or.inl ⟨r, h, rfl⟩

theorem TellsApart.outcome (h : f.TellsApart (·.uid)) (hroom : op.creates = true → f.HasRoom) :
    (f.outcome op).TellsApart (·.uid) := by
  have hapart := tellsApart_iff.mp h
  -- A number of before is below the one that is given to a new user.
  have hnew : ∀ k s, op.creates = true → f.users.get? k = some s → s.uid ≠ f.nextUid := by
    intro k s hcreates hs heq
    have hlt := lt_nextUid (hroom hcreates) ((Table.mem_values_iff _ _).mpr ⟨k, hs⟩)
    rw [heq] at hlt
    exact UInt32.lt_irrefl _ hlt
  refine tellsApart_iff.mpr fun j k r s hr hs huid => ?_
  rcases get?_outcome_origin hr with ⟨r', hr', hruid⟩ | ⟨hcreates, hj, hruid⟩
  · rcases get?_outcome_origin hs with ⟨s', hs', hsuid⟩ | ⟨hcreates, -, hsuid⟩
    · exact hapart j k r' s' hr' hs' (by rw [hruid, hsuid, huid])
    · exact absurd (by rw [hruid, huid, hsuid]) (hnew j r' hcreates hr')
  · rcases get?_outcome_origin hs with ⟨s', hs', hsuid⟩ | ⟨-, hk, -⟩
    · exact absurd (by rw [hsuid, ← huid, hruid]) (hnew k s' hcreates hs')
    · rw [hj, hk]

theorem TellsApart.apply (h : f.TellsApart (·.uid)) (fs : Files)
    (hroom : op.creates = true → f.HasRoom) : (f.apply fs op).state.TellsApart (·.uid) := by
  rw [state_apply]
  split
  · exact h
  · exact h.outcome hroom

/-- Whenever an operation is to make an account, nobody has the last number. -/
def HasRoomAlong : UserFile → List (Files × Operation) → Prop
  | _, [] => True
  | f, x :: xs => (x.2.creates = true → f.HasRoom) ∧ (f.apply x.1 x.2).state.HasRoomAlong xs

theorem hasRoomAlong_append :
    f.HasRoomAlong (pre ++ post) ↔ f.HasRoomAlong pre ∧ (f.run pre).HasRoomAlong post := by
  induction pre generalizing f with
  | nil => simp [HasRoomAlong, UserFile.run]
  | cons x pre ih =>
    rw [List.cons_append, HasRoomAlong, HasRoomAlong, ih, and_assoc]
    rfl

/-- **Numbers stay apart along operations.** -/
theorem TellsApart.run (h : f.TellsApart (·.uid)) (hroom : f.HasRoomAlong xs) :
    (f.run xs).TellsApart (·.uid) := by
  induction xs generalizing f with
  | nil => exact h
  | cons x xs ih => exact ih (h.apply x.1 hroom.1) hroom.2

/-- An account that an operation makes has a number above those of all users. -/
theorem uid_of_created (hcreates : op.creates = true) (hnew : f.get? op.name = none)
    (hroom : f.HasRoom) :
    ∃ r, (f.apply fs op).state.get? op.name = some r ∧ 1000 ≤ r.uid ∧
      ∀ s ∈ f.users.values, s.uid < r.uid := by
  have haccepted : f.refusal? op = none := refusal?_eq_none_iff.mpr (by rw [hnew, hcreates]; rfl)
  rw [state_apply, haccepted, Option.isSome_none, if_neg Bool.false_ne_true,
    get?_outcome_name]
  cases op with
  | create name password privileged =>
    exact ⟨_, rfl, firstUid_le_nextUid f, fun s hs => lt_nextUid hroom hs⟩
  | remove name => cases hcreates
  | setPrivileged name privileged => cases hcreates
  | setPassword name password => cases hcreates

/-- **Names and numbers at every point of a sequence of operations**, if no two users have the same
number when it begins. Every account stands under its name in upper case, and no two users have the
same name or number. An operation leaves all accounts but one as they are, and if it makes an
account, this has a number of 1000 or more that is above those of all users. -/
theorem uids_of_run (hbuilt : f.IsBuilt) (huids : f.TellsApart (·.uid))
    (hroom : f.HasRoomAlong xs) :
    (∀ pre, pre <+: xs →
      (f.run pre).IsKeyed ∧ (f.run pre).TellsApart (fun r => upper r.username) ∧
        (f.run pre).TellsApart (·.uid)) ∧
    ∀ pre fs op post, xs = pre ++ (fs, op) :: post →
      (∀ key, key ≠ upper op.name →
        ((f.run pre).apply fs op).state.users.get? key = (f.run pre).users.get? key) ∧
      (op.creates = true → (f.run pre).get? op.name = none →
        ∃ r, ((f.run pre).apply fs op).state.get? op.name = some r ∧ 1000 ≤ r.uid ∧
          ∀ s ∈ (f.run pre).users.values, s.uid < r.uid) := by
  constructor
  · rintro pre ⟨post, rfl⟩
    have hkeyed : (f.run pre).IsKeyed := hbuilt.isKeyed.run pre
    exact ⟨hkeyed, hkeyed.tellsApart_upper, huids.run (hasRoomAlong_append.mp hroom).1⟩
  · rintro pre fs op post rfl
    obtain ⟨-, hnow, -⟩ := hasRoomAlong_append.mp hroom
    constructor
    -- Refused or not saved, the operation concerns no account but its own.
    · intro key hkey
      rw [state_apply]
      split
      · rfl
      · rw [users_outcome, if_neg (Ne.symm hkey)]
    · intro hcreates hnew
      exact uid_of_created hcreates hnew (hnow hcreates)

/-- Nothing can be saved here. The name of the first user gets longer in upper case, and is found
under its other spellings; the number of the second one stays the last when the first one goes. -/
theorem uids_of_run_unsaved :
    let fs := (Files.empty ["srv"]).add "a" .empty
    let f : UserFile := { inMemory "/home" with path := some "a/users.toml" }
    let xs : List (Files × Operation) :=
      [(fs, .create "straße" "" true), (fs, .create "Strasse" "" true), (fs, .create "ann" "" true),
        (fs, .remove "STRASSE"), (fs, .create "bob" "" true)]
    f.IsBuilt ∧ f.TellsApart (·.uid) ∧ f.HasRoomAlong xs ∧
      (f.run xs).users.keys = ["ANN", "BOB"] ∧ (f.run xs).TellsApart (·.uid) ∧
      ∃ r, (f.run xs).get? "bob" = some r ∧ 1000 ≤ r.uid ∧
        ∀ s ∈ (f.run (xs.take 4)).users.values, s.uid < r.uid := by
  intro fs f xs
  have hbuilt : f.IsBuilt := .load (show load fs "a/users.toml" "/home" = .ok f by rfl)
  have huids : f.TellsApart (·.uid) := List.nodup_nil
  have hroom : f.HasRoomAlong xs := by
    simp only [xs, HasRoomAlong, HasRoom]
    decide
  obtain ⟨halong, hlast⟩ := uids_of_run hbuilt huids hroom
  refine ⟨hbuilt, huids, hroom, by decide, (halong xs List.prefix_rfl).2.2, ?_⟩
  exact (hlast (xs.take 4) fs (.create "bob" "" true) [] rfl).2 rfl (by decide)

end UserFile

end Econet.Account
