/-!
# Insertion-ordered maps

A finite map that remembers the order in which its keys were first inserted.
Replacing the value of a present key keeps the key's place. No key occurs
twice; the type carries that fact, and `get?_insert` and `keys_insert` say what
the one update does to the two views `get?` and `keys`.
-/

set_option autoImplicit false

namespace Introspection

/-- Replace the value at `key` in place, or add the pair at the end. -/
def upsert {κ ν : Type} [DecidableEq κ] (key : κ) (value : ν) : List (κ × ν) → List (κ × ν)
  | [] => [(key, value)]
  | entry :: rest =>
      if entry.1 = key then (key, value) :: rest else entry :: upsert key value rest

def assoc? {κ ν : Type} [DecidableEq κ] (key : κ) : List (κ × ν) → Option ν
  | [] => none
  | entry :: rest => if entry.1 = key then some entry.2 else assoc? key rest

section Entries

variable {κ ν : Type} [DecidableEq κ]

theorem assoc?_upsert (key other : κ) (value : ν) (entries : List (κ × ν)) :
    assoc? other (upsert key value entries) =
      if key = other then some value else assoc? other entries := by
  induction entries with
  | nil => simp [upsert, assoc?]
  | cons entry rest ih =>
      rcases entry with ⟨present, stored⟩
      by_cases same : present = key
      · subst same
        by_cases wanted : present = other <;> simp [upsert, assoc?, wanted]
      · by_cases here : present = other
        · subst here
          simp [upsert, assoc?, same, Ne.symm same]
        · simp [upsert, assoc?, same, here, ih]

theorem assoc?_eq_none_iff (key : κ) (entries : List (κ × ν)) :
    assoc? key entries = none ↔ key ∉ entries.map Prod.fst := by
  induction entries with
  | nil => simp [assoc?]
  | cons entry rest ih =>
      by_cases same : entry.1 = key
      · simp [assoc?, same]
      · simp [assoc?, same, ih, Ne.symm same]

theorem map_fst_upsert (key : κ) (value : ν) (entries : List (κ × ν)) :
    (upsert key value entries).map Prod.fst =
      if key ∈ entries.map Prod.fst then entries.map Prod.fst
      else entries.map Prod.fst ++ [key] := by
  induction entries with
  | nil => simp [upsert]
  | cons entry rest ih =>
      rcases entry with ⟨present, stored⟩
      by_cases same : present = key
      · subst same
        simp [upsert]
      · rw [upsert, if_neg same, List.map_cons, List.map_cons, ih]
        by_cases member : key ∈ rest.map Prod.fst
        · rw [if_pos member, if_pos (List.mem_cons_of_mem _ member)]
        · have absent : key ∉ present :: rest.map Prod.fst := by
            intro found
            rcases List.mem_cons.mp found with equal | inside
            · exact same equal.symm
            · exact member inside
          rw [if_neg member, if_neg absent, List.cons_append]

theorem nodup_map_fst_upsert (key : κ) (value : ν) (entries : List (κ × ν))
    (distinct : (entries.map Prod.fst).Nodup) :
    ((upsert key value entries).map Prod.fst).Nodup := by
  rw [map_fst_upsert]
  by_cases present : key ∈ entries.map Prod.fst
  · rw [if_pos present]
    exact distinct
  · rw [if_neg present, List.nodup_append]
    refine ⟨distinct, by simp, ?_⟩
    intro left leftMember right rightMember equal
    rw [List.mem_singleton] at rightMember
    subst rightMember
    subst equal
    exact present leftMember

theorem upsert_self (key : κ) (value : ν) (entries : List (κ × ν))
    (found : assoc? key entries = some value) : upsert key value entries = entries := by
  induction entries with
  | nil => simp [assoc?] at found
  | cons entry rest ih =>
      rcases entry with ⟨present, stored⟩
      by_cases same : present = key
      · subst same
        simp only [assoc?, if_true, Option.some.injEq] at found
        rw [upsert, if_pos rfl, found]
      · rw [assoc?, if_neg same] at found
        rw [upsert, if_neg same, ih found]

theorem upsert_upsert (key : κ) (first second : ν) (entries : List (κ × ν)) :
    upsert key second (upsert key first entries) = upsert key second entries := by
  induction entries with
  | nil => simp [upsert]
  | cons entry rest ih =>
      by_cases same : entry.1 = key <;> simp [upsert, same, ih]

end Entries

/-- A map from `κ` to `ν` whose keys keep the order of their first insertion. -/
structure OrderedMap (κ ν : Type) where
  /-- The pairs, in insertion order. -/
  entries : List (κ × ν)
  /-- No key occurs twice. -/
  distinct : (entries.map Prod.fst).Nodup

namespace OrderedMap

variable {κ ν : Type}

def empty : OrderedMap κ ν := ⟨[], by simp⟩

instance : EmptyCollection (OrderedMap κ ν) := ⟨empty⟩

def keys (map : OrderedMap κ ν) : List κ := map.entries.map Prod.fst

def values (map : OrderedMap κ ν) : List ν := map.entries.map Prod.snd

theorem keys_nodup (map : OrderedMap κ ν) : map.keys.Nodup := map.distinct

@[ext] theorem ext {left right : OrderedMap κ ν} (same : left.entries = right.entries) :
    left = right := by
  cases left
  cases right
  simp_all

variable [DecidableEq κ]

def get? (map : OrderedMap κ ν) (key : κ) : Option ν := assoc? key map.entries

def contains (map : OrderedMap κ ν) (key : κ) : Bool := (map.get? key).isSome

/-- Set the value at `key`: in place when the key is present, else at the end. -/
def insert (map : OrderedMap κ ν) (key : κ) (value : ν) : OrderedMap κ ν :=
  ⟨upsert key value map.entries, nodup_map_fst_upsert key value map.entries map.distinct⟩

/-- Set the value at `key` unless the key already has one. -/
def insertIfNew (map : OrderedMap κ ν) (key : κ) (value : ν) : OrderedMap κ ν :=
  if map.contains key then map else map.insert key value

/-- Add the pairs in turn; a key that is already present keeps its first value. -/
def ofFirst (pairs : List (κ × ν)) : OrderedMap κ ν :=
  pairs.foldl (fun map pair => map.insertIfNew pair.1 pair.2) empty

/-- Collect the values of equal keys, keys in order of first occurrence and the
values of one key in their given order. -/
def groups (pairs : List (κ × ν)) : OrderedMap κ (List ν) :=
  pairs.foldl (fun map pair => map.insert pair.1 ((map.get? pair.1).getD [] ++ [pair.2])) empty

@[simp] theorem get?_empty (key : κ) : (empty : OrderedMap κ ν).get? key = none := rfl

theorem get?_insert (map : OrderedMap κ ν) (key other : κ) (value : ν) :
    (map.insert key value).get? other = if key = other then some value else map.get? other :=
  assoc?_upsert key other value map.entries

theorem get?_eq_none_iff (map : OrderedMap κ ν) (key : κ) :
    map.get? key = none ↔ key ∉ map.keys :=
  assoc?_eq_none_iff key map.entries

theorem contains_iff (map : OrderedMap κ ν) (key : κ) :
    map.contains key = true ↔ key ∈ map.keys := by
  have absent := map.get?_eq_none_iff key
  cases found : map.get? key with
  | none => simp [contains, found, absent.mp found]
  | some value =>
      simp only [contains, found, Option.isSome_some, true_iff]
      exact Classical.byContradiction fun missing => by
        rw [absent.mpr missing] at found
        cases found

theorem keys_insert (map : OrderedMap κ ν) (key : κ) (value : ν) :
    (map.insert key value).keys =
      if key ∈ map.keys then map.keys else map.keys ++ [key] :=
  map_fst_upsert key value map.entries

/-- Writing the value that a key already has changes nothing. -/
theorem insert_self (map : OrderedMap κ ν) (key : κ) (value : ν)
    (found : map.get? key = some value) : map.insert key value = map :=
  ext (upsert_self key value map.entries found)

/-- Of two writes to one key only the last is kept. -/
theorem insert_insert (map : OrderedMap κ ν) (key : κ) (first second : ν) :
    (map.insert key first).insert key second = map.insert key second :=
  ext (upsert_upsert key first second map.entries)

end OrderedMap

end Introspection
