/-!
# Tables

Finite maps as lists of entries with distinct keys, in the order in which the keys first
came. The lookup `get?` is the view in which every operation is described.

## Main definitions

* `Table`: entries of keys and values
* `Table.get?`, `Table.contains`, `Table.keys`, `Table.size`: what a table holds
* `Table.insert`, `Table.erase`, `Table.modify`: tables with one entry changed

## Main results

* `Table.get?_insert`, `Table.get?_erase`, `Table.get?_modify`: lookup after each operation
* `Table.nodup_keys`: keys are distinct in every table
-/

namespace Econet

variable {κ ν : Type} [DecidableEq κ]

/-! ### Lists of entries -/

namespace Entries

/-- The value that the first entry of a key holds. -/
def get? (k : κ) : List (κ × ν) → Option ν
  | [] => none
  | e :: es => if e.1 = k then some e.2 else get? k es

/-- Entries with the one of a key replaced, or with a new one at the end. -/
def insert (k : κ) (v : ν) : List (κ × ν) → List (κ × ν)
  | [] => [(k, v)]
  | e :: es => if e.1 = k then (k, v) :: es else e :: insert k v es

/-- Entries without those of a key. -/
def erase (k : κ) (es : List (κ × ν)) : List (κ × ν) := es.filter (·.1 ≠ k)

theorem get?_insert (k j : κ) (v : ν) (es : List (κ × ν)) :
    get? j (insert k v es) = if k = j then some v else get? j es := by
  induction es with
  | nil => simp [insert, get?]
  | cons e es ih => grind [insert, get?]

theorem get?_erase (k j : κ) (es : List (κ × ν)) :
    get? j (erase k es) = if k = j then none else get? j es := by
  induction es with
  | nil => simp [erase, get?]
  | cons e es ih =>
    simp only [erase] at ih
    by_cases h : e.1 = k
    · simp only [erase, List.filter_cons, h, ne_eq, not_true_eq_false, decide_false,
        Bool.false_eq_true, if_false, ih, get?]
      grind
    · simp only [erase, List.filter_cons, h, ne_eq, not_false_eq_true, decide_true, if_true, get?,
        ih]
      grind

theorem mem_keys_insert (k j : κ) (v : ν) (es : List (κ × ν)) :
    j ∈ (insert k v es).map (·.1) ↔ j = k ∨ j ∈ es.map (·.1) := by
  induction es with
  | nil => simp [insert]
  | cons e es ih =>
    simp only [insert]
    split
    · next h => simp [← h]
    · simp only [List.map_cons, List.mem_cons, ih]
      grind

theorem nodup_insert {k : κ} {v : ν} {es : List (κ × ν)} (h : (es.map (·.1)).Nodup) :
    ((insert k v es).map (·.1)).Nodup := by
  induction es with
  | nil => simp [insert]
  | cons e es ih =>
    simp only [List.map_cons, List.nodup_cons] at h
    simp only [insert]
    split
    · next he =>
      simp only [List.map_cons, List.nodup_cons]
      exact ⟨he ▸ h.1, h.2⟩
    · next he =>
      simp only [List.map_cons, List.nodup_cons]
      -- The first key is not among the others: it is not the new one, and it was not before.
      refine ⟨fun hm => ?_, ih h.2⟩
      rcases (mem_keys_insert _ _ _ _).1 hm with hm | hm
      · exact he hm
      · exact h.1 hm

/-- What is read off the entries stays if it is the same for the old value and the new one. -/
theorem map_insert {γ : Type} {k : κ} {v w : ν} {es : List (κ × ν)} (h : get? k es = some v)
    (f : κ × ν → γ) (hf : f (k, w) = f (k, v)) : (insert k w es).map f = es.map f := by
  induction es with
  | nil => simp [get?] at h
  | cons e es ih =>
    simp only [get?] at h
    simp only [insert]
    split
    · next he =>
      rw [if_pos he, Option.some.injEq] at h
      subst he h
      rw [List.map_cons, hf, List.map_cons]
    · next he =>
      rw [if_neg he] at h
      rw [List.map_cons, ih h, List.map_cons]

theorem insert_of_notMem {k : κ} {es : List (κ × ν)} (h : k ∉ es.map (·.1)) (v : ν) :
    insert k v es = es ++ [(k, v)] := by
  induction es with
  | nil => rfl
  | cons e es ih =>
    rw [List.map_cons, List.mem_cons, not_or] at h
    rw [insert, if_neg (Ne.symm h.1), ih h.2, List.cons_append]

theorem nodup_erase {k : κ} {es : List (κ × ν)} (h : (es.map (·.1)).Nodup) :
    ((erase k es).map (·.1)).Nodup :=
  h.sublist (List.filter_sublist.map _)

theorem mem_of_get? {k : κ} {v : ν} {es : List (κ × ν)} (h : get? k es = some v) :
    (k, v) ∈ es := by
  induction es with
  | nil => simp [get?] at h
  | cons e es ih =>
    simp only [get?] at h
    split at h
    · next he =>
      simp only [Option.some.injEq] at h
      subst he h
      exact List.mem_cons_self
    · exact List.mem_cons_of_mem _ (ih h)

theorem get?_of_mem {k : κ} {v : ν} {es : List (κ × ν)} (hd : (es.map (·.1)).Nodup)
    (h : (k, v) ∈ es) : get? k es = some v := by
  induction es with
  | nil => simp at h
  | cons e es ih =>
    simp only [List.map_cons, List.nodup_cons] at hd
    simp only [get?]
    rcases List.mem_cons.1 h with rfl | h
    · simp
    · rw [if_neg, ih hd.2 h]
      rintro rfl
      exact hd.1 (List.mem_map.2 ⟨_, h, rfl⟩)

end Entries

/-! ### Tables -/

/-- A finite map from `κ` to `ν`. -/
structure Table (κ ν : Type) where
  /-- The entries, oldest key first. -/
  entries : List (κ × ν)
  nodup_keys : (entries.map (·.1)).Nodup

namespace Table

/-- The table without entries. -/
def empty : Table κ ν := ⟨[], by simp⟩

instance : Inhabited (Table κ ν) := ⟨⟨[], by simp⟩⟩

instance [DecidableEq ν] : DecidableEq (Table κ ν) := fun s t =>
  if h : s.entries = t.entries then isTrue (by cases s; cases t; simp_all)
  else isFalse fun he => h (he ▸ rfl)

/-- The value of a key. -/
def get? (t : Table κ ν) (k : κ) : Option ν := Entries.get? k t.entries

/-- The key has a value. -/
def contains (t : Table κ ν) (k : κ) : Bool := (t.get? k).isSome

/-- The keys, oldest first. -/
def keys (t : Table κ ν) : List κ := t.entries.map (·.1)

/-- The values, in the order of the keys. -/
def values (t : Table κ ν) : List ν := t.entries.map (·.2)

/-- Number of entries. -/
def size (t : Table κ ν) : Nat := t.entries.length

/-- The table with a value for a key. -/
def insert (t : Table κ ν) (k : κ) (v : ν) : Table κ ν :=
  ⟨Entries.insert k v t.entries, Entries.nodup_insert t.nodup_keys⟩

/-- The table without a key. -/
def erase (t : Table κ ν) (k : κ) : Table κ ν :=
  ⟨Entries.erase k t.entries, Entries.nodup_erase t.nodup_keys⟩

/-- The table with the value of a key changed, if it has one. -/
def modify (t : Table κ ν) (k : κ) (f : ν → ν) : Table κ ν :=
  match t.get? k with
  | some v => t.insert k (f v)
  | none => t

/-- The table with every value changed. -/
def mapValues (t : Table κ ν) (f : ν → ν) : Table κ ν :=
  ⟨t.entries.map fun e => (e.1, f e.2), by
    have h := t.nodup_keys
    simpa [List.map_map, Function.comp_def] using h⟩

@[simp] theorem get?_empty (k : κ) : (empty : Table κ ν).get? k = none := rfl

theorem get?_insert (t : Table κ ν) (k j : κ) (v : ν) :
    (t.insert k v).get? j = if k = j then some v else t.get? j :=
  Entries.get?_insert k j v t.entries

@[simp] theorem get?_insert_self (t : Table κ ν) (k : κ) (v : ν) :
    (t.insert k v).get? k = some v := by
  simp [get?_insert]

theorem get?_insert_of_ne (t : Table κ ν) {k j : κ} (v : ν) (h : k ≠ j) :
    (t.insert k v).get? j = t.get? j := by
  simp [get?_insert, h]

theorem get?_erase (t : Table κ ν) (k j : κ) :
    (t.erase k).get? j = if k = j then none else t.get? j :=
  Entries.get?_erase k j t.entries

@[simp] theorem get?_erase_self (t : Table κ ν) (k : κ) : (t.erase k).get? k = none := by
  simp [get?_erase]

theorem get?_erase_of_ne (t : Table κ ν) {k j : κ} (h : k ≠ j) :
    (t.erase k).get? j = t.get? j := by
  simp [get?_erase, h]

theorem get?_modify (t : Table κ ν) (k j : κ) (f : ν → ν) :
    (t.modify k f).get? j = if k = j then (t.get? j).map f else t.get? j := by
  unfold modify
  split
  · next v h =>
    rw [get?_insert]
    split
    · next hk => simp [← hk, h]
    · rfl
  · next h =>
    split
    · next hk => simp [← hk, h]
    · rfl

theorem get?_mapValues (t : Table κ ν) (f : ν → ν) (k : κ) :
    (t.mapValues f).get? k = (t.get? k).map f := by
  obtain ⟨es, h⟩ := t
  simp only [get?, mapValues]
  clear h
  induction es with
  | nil => rfl
  | cons e es ih =>
    simp only [List.map_cons, Entries.get?]
    split
    · rfl
    · exact ih

theorem mem_entries_iff (t : Table κ ν) (k : κ) (v : ν) :
    (k, v) ∈ t.entries ↔ t.get? k = some v :=
  ⟨Entries.get?_of_mem t.nodup_keys, Entries.mem_of_get?⟩

/-- The order of the entries does not matter for what is found. -/
theorem get?_eq_of_perm {s t : Table κ ν} (h : s.entries.Perm t.entries) (k : κ) :
    s.get? k = t.get? k := by
  refine Option.ext fun v => ?_
  rw [← mem_entries_iff, ← mem_entries_iff]
  exact h.mem_iff

theorem mem_keys_iff (t : Table κ ν) (k : κ) : k ∈ t.keys ↔ ∃ v, t.get? k = some v := by
  simp only [keys, List.mem_map, ← mem_entries_iff]
  constructor
  · rintro ⟨⟨j, v⟩, h, rfl⟩
    exact ⟨v, h⟩
  · rintro ⟨v, h⟩
    exact ⟨(k, v), h, rfl⟩

theorem mem_values_iff (t : Table κ ν) (v : ν) : v ∈ t.values ↔ ∃ k, t.get? k = some v := by
  simp only [values, List.mem_map, ← mem_entries_iff]
  constructor
  · rintro ⟨⟨k, w⟩, h, rfl⟩
    exact ⟨k, h⟩
  · rintro ⟨k, h⟩
    exact ⟨(k, v), h, rfl⟩

/-- Values are distinct if no two keys have the same value. -/
theorem nodup_values {t : Table κ ν}
    (h : ∀ j k v, t.get? j = some v → t.get? k = some v → j = k) : t.values.Nodup := by
  have hk := List.pairwise_map.mp t.nodup_keys
  refine List.pairwise_map.mpr (hk.imp_of_mem ?_)
  intro d e hd he hne hv
  rw [ne_eq] at hne
  refine hne (h d.1 e.1 e.2 ?_ ((mem_entries_iff _ _ _).mp he))
  rw [← hv]
  exact (mem_entries_iff _ _ _).mp hd

theorem size_eq_zero_iff (t : Table κ ν) : t.size = 0 ↔ ∀ k, t.get? k = none := by
  rw [size, List.length_eq_zero_iff]
  constructor
  · intro h k
    rw [get?, h]
    rfl
  · intro h
    refine List.eq_nil_iff_forall_not_mem.mpr fun e he => ?_
    cases (h e.1).symm.trans ((mem_entries_iff t e.1 e.2).mp he)

/-- A new key comes last. -/
theorem entries_insert {t : Table κ ν} {k : κ} (h : k ∉ t.keys) (v : ν) :
    (t.insert k v).entries = t.entries ++ [(k, v)] :=
  Entries.insert_of_notMem h v

theorem keys_modify (t : Table κ ν) (k : κ) (f : ν → ν) : (t.modify k f).keys = t.keys := by
  unfold modify
  split
  · next v h => exact Entries.map_insert h (·.1) rfl
  · rfl

theorem keys_insert {t : Table κ ν} {k : κ} {v w : ν} (h : t.get? k = some v) :
    (t.insert k w).keys = t.keys :=
  Entries.map_insert h (·.1) rfl

theorem insert_eq_self {t : Table κ ν} {k : κ} {v : ν} (h : t.get? k = some v) :
    t.insert k v = t := by
  have hentries := Entries.map_insert (w := v) h id rfl
  rw [List.map_id, List.map_id] at hentries
  simp only [insert, hentries]

/-- A change of a value is none exactly if the value stays the same. -/
theorem modify_eq_self_iff {t : Table κ ν} {k : κ} {v : ν} (h : t.get? k = some v) (f : ν → ν) :
    t.modify k f = t ↔ f v = v := by
  constructor
  · intro ht
    have hk := get?_modify t k k f
    rw [ht, if_pos rfl, h, Option.map_some, Option.some.injEq] at hk
    exact hk.symm
  · intro hv
    simp only [modify, h, hv]
    exact insert_eq_self h

/-- A change of a value goes unnoticed where only what it keeps is looked at. -/
theorem mapValues_modify {t : Table κ ν} {k : κ} {f g : ν → ν} (h : ∀ v, g (f v) = g v) :
    (t.modify k f).mapValues g = t.mapValues g := by
  unfold modify
  split
  · next v hv =>
    simp only [mapValues, insert]
    congr 1
    exact Entries.map_insert hv (fun e => (e.1, g e.2)) (by rw [h])
  · rfl

end Table

end Econet
