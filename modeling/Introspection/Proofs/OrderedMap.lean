import Introspection.OrderedMap
import Introspection.Proofs.Fallible

/-!
# Filling ordered maps

What the folds that fill a map leave in it, seen through `get?`: the first pair
of each key, all values of a key, or the value that a fallible choice gives for
each key. All of them are instances of one step on one key. Seen through `keys`
they are instances of one step as well, which adds a key at the end unless it is
there already, so the keys are the keys offered without repetitions.
-/

set_option autoImplicit false

namespace Introspection.OrderedMap

variable {κ μ ν ε : Type} [DecidableEq κ]

theorem assoc?_eq_some_iff (key : κ) (value : ν) (entries : List (κ × ν))
    (distinct : (entries.map Prod.fst).Nodup) :
    assoc? key entries = some value ↔ (key, value) ∈ entries := by
  induction entries with
  | nil => simp [assoc?]
  | cons entry rest ih =>
      rcases entry with ⟨present, stored⟩
      rw [List.map_cons, List.nodup_cons] at distinct
      by_cases same : present = key
      · subst same
        have absent : (present, value) ∉ rest := fun inside =>
          distinct.1 (List.mem_map.mpr ⟨_, inside, rfl⟩)
        rw [assoc?, if_pos rfl, List.mem_cons, Option.some.injEq]
        constructor
        · rintro rfl
          exact .inl rfl
        · rintro (equal | inside)
          · exact (Prod.mk.inj equal).2.symm
          · exact absurd inside absent
      · rw [assoc?, if_neg same, ih distinct.2, List.mem_cons]
        constructor
        · exact .inr
        · rintro (equal | inside)
          · exact absurd (Prod.mk.inj equal).1.symm same
          · exact inside

theorem get?_eq_some_iff (map : OrderedMap κ ν) (key : κ) (value : ν) :
    map.get? key = some value ↔ (key, value) ∈ map.entries :=
  assoc?_eq_some_iff key value map.entries map.distinct

theorem mem_values_iff (map : OrderedMap κ ν) (value : ν) :
    value ∈ map.values ↔ ∃ key, map.get? key = some value := by
  simp only [values, List.mem_map, get?_eq_some_iff]
  constructor
  · rintro ⟨⟨key, stored⟩, inside, rfl⟩
    exact ⟨key, inside⟩
  · rintro ⟨key, inside⟩
    exact ⟨(key, value), inside, rfl⟩

theorem contains_eq_isSome (map : OrderedMap κ ν) (key : κ) :
    map.contains key = (map.get? key).isSome := rfl

theorem mem_keys_iff (map : OrderedMap κ ν) (key : κ) :
    key ∈ map.keys ↔ ∃ value, map.get? key = some value := by
  rw [← contains_iff, contains_eq_isSome, Option.isSome_iff_exists]

theorem get?_insertIfNew (map : OrderedMap κ ν) (key other : κ) (value : ν) :
    (map.insertIfNew key value).get? other =
      (map.get? other).or (if key = other then some value else none) := by
  cases found : map.get? key with
  | none =>
      rw [insertIfNew, contains, found, if_neg (by simp), get?_insert]
      by_cases same : key = other
      · subst same
        simp [found]
      · simp [same]
  | some stored =>
      rw [insertIfNew, contains, found, if_pos Option.isSome_some]
      by_cases same : key = other
      · subst same
        simp [found]
      · simp [same]

/-! ## First pairs -/

theorem get?_foldl_insertIfNew (start : OrderedMap κ ν) (pairs : List (κ × ν)) (key : κ) :
    (pairs.foldl (fun map pair => map.insertIfNew pair.1 pair.2) start).get? key =
      (start.get? key).or (assoc? key pairs) := by
  induction pairs generalizing start with
  | nil => simp [assoc?]
  | cons pair rest ih =>
      rw [List.foldl_cons, ih, get?_insertIfNew, Option.or_assoc]
      by_cases same : pair.1 = key <;> simp [assoc?, same]

theorem get?_ofFirst (pairs : List (κ × ν)) (key : κ) :
    (ofFirst pairs).get? key = assoc? key pairs := by
  rw [ofFirst, get?_foldl_insertIfNew, get?_empty, Option.none_or]

theorem mem_of_assoc? {key : κ} {value : ν} {pairs : List (κ × ν)}
    (found : assoc? key pairs = some value) : (key, value) ∈ pairs := by
  induction pairs with
  | nil => cases found
  | cons pair rest ih =>
      rcases pair with ⟨present, stored⟩
      by_cases same : present = key
      · subst same
        rw [assoc?, if_pos rfl, Option.some.injEq] at found
        exact found ▸ List.mem_cons_self
      · rw [assoc?, if_neg same] at found
        exact List.mem_cons_of_mem _ (ih found)

theorem exists_mem_of_mem_values_ofFirst {pairs : List (κ × ν)} {value : ν}
    (member : value ∈ (ofFirst pairs).values) : ∃ key, (key, value) ∈ pairs := by
  obtain ⟨key, found⟩ := (mem_values_iff _ _).mp member
  rw [get?_ofFirst] at found
  exact ⟨key, mem_of_assoc? found⟩

/-! ## Groups -/

/-- The values that a list of pairs has for a key, in order. -/
def valuesAt (key : κ) (pairs : List (κ × ν)) : List ν :=
  pairs.filterMap fun pair => if pair.1 = key then some pair.2 else none

theorem valuesAt_cons (key : κ) (pair : κ × ν) (rest : List (κ × ν)) :
    valuesAt key (pair :: rest) =
      if pair.1 = key then pair.2 :: valuesAt key rest else valuesAt key rest := by
  by_cases same : pair.1 = key <;> simp [valuesAt, same]

theorem get?_foldl_groups (start : OrderedMap κ (List ν)) (pairs : List (κ × ν)) (key : κ) :
    (pairs.foldl (fun map pair =>
        map.insert pair.1 ((map.get? pair.1).getD [] ++ [pair.2])) start).get? key =
      if valuesAt key pairs = [] then start.get? key
      else some ((start.get? key).getD [] ++ valuesAt key pairs) := by
  induction pairs generalizing start with
  | nil => simp [valuesAt]
  | cons pair rest ih =>
      rw [List.foldl_cons, ih, get?_insert, valuesAt_cons]
      by_cases same : pair.1 = key
      · subst same
        by_cases last : valuesAt pair.1 rest = [] <;> simp [last]
      · simp [same]

theorem get?_groups (pairs : List (κ × ν)) (key : κ) :
    (groups pairs).get? key =
      if valuesAt key pairs = [] then none else some (valuesAt key pairs) := by
  rw [groups, get?_foldl_groups, get?_empty, Option.getD_none, List.nil_append]

/-! ## Fallible choices -/

/-- Store what is chosen for an entry under the entry's key; a choice may also
leave the key out, or fail. -/
def fill (choose : κ × μ → Except ε (Option ν)) (found : OrderedMap κ ν) (entry : κ × μ) :
    Except ε (OrderedMap κ ν) :=
  (choose entry).map fun
    | some value => found.insert entry.1 value
    | none => found

theorem get?_fill {choose : κ × μ → Except ε (Option ν)} {found next : OrderedMap κ ν}
    {entry : κ × μ} (stepped : fill choose found entry = .ok next) :
    ∃ chosen, choose entry = .ok chosen ∧
      ∀ key, next.get? key = if entry.1 = key then chosen.or (found.get? key) else found.get? key := by
  obtain ⟨chosen, accepted, rfl⟩ := Fallible.map_eq_ok_iff.mp stepped
  refine ⟨chosen, accepted, fun key => ?_⟩
  cases chosen with
  | none => simp
  | some value => simp [get?_insert]

/-- Each key holds what was chosen for its one entry. The induction runs over the
entries still to come, which share no key with those already stored. -/
theorem get?_foldlM_fill {choose : κ × μ → Except ε (Option ν)} {start result : OrderedMap κ ν}
    {entries : List (κ × μ)} (distinct : (entries.map Prod.fst).Nodup)
    (ran : entries.foldlM (fill choose) start = .ok result) (key : κ) :
    match assoc? key entries with
    | none => result.get? key = start.get? key
    | some group => ∃ chosen, choose (key, group) = .ok chosen ∧
        result.get? key = chosen.or (start.get? key) := by
  induction entries generalizing start with
  | nil =>
      rw [List.foldlM_nil, Fallible.pure_eq_ok_iff] at ran
      simp [assoc?, ran]
  | cons entry rest ih =>
      rw [List.map_cons, List.nodup_cons] at distinct
      rw [List.foldlM_cons, Fallible.bind_eq_ok_iff] at ran
      obtain ⟨middle, stepped, ran⟩ := ran
      obtain ⟨chosen, accepted, update⟩ := get?_fill stepped
      have later := ih distinct.2 ran
      by_cases same : entry.1 = key
      · subst same
        have unseen : assoc? entry.1 rest = none :=
          (assoc?_eq_none_iff _ _).mpr distinct.1
        rw [unseen] at later
        rw [assoc?, if_pos rfl]
        exact ⟨chosen, accepted, by rw [later, update, if_pos rfl]⟩
      · have kept : middle.get? key = start.get? key := by rw [update, if_neg same]
        rw [assoc?, if_neg same, ← kept]
        exact later

/-! ## The order of keys -/

/-- The keys are those of `before`, with the offered key at the end if it is new. -/
def Offers (key : κ) (before after : OrderedMap κ ν) : Prop :=
  after.keys = if key ∈ before.keys then before.keys else before.keys ++ [key]

theorem offers_insert (map : OrderedMap κ ν) (key : κ) (value : ν) :
    Offers key map (map.insert key value) :=
  map.keys_insert key value

theorem offers_insertIfNew (map : OrderedMap κ ν) (key : κ) (value : ν) :
    Offers key map (map.insertIfNew key value) := by
  by_cases present : map.contains key = true
  · rw [Offers, insertIfNew, if_pos present, if_pos ((contains_iff _ _).mp present)]
  · rw [insertIfNew, if_neg present]
    exact offers_insert map key value

/-- The offered keys are kept apart from the map, so that one equation serves at every
stage of a fold. -/
theorem Offers.keys_eq {key : κ} {before after : OrderedMap κ ν} {offered : List κ}
    (step : Offers key before after) (known : before.keys = offered.eraseDups) :
    after.keys = (offered ++ [key]).eraseDups := by
  rw [Offers, known] at step
  rw [step, List.eraseDups_append]
  by_cases old : key ∈ offered
  · simp [List.removeAll, old]
  · simp [List.removeAll, old, List.eraseDups_cons]

theorem keys_foldl {α : Type} {step : OrderedMap κ ν → α → OrderedMap κ ν} {key : α → κ}
    (offers : ∀ map item, Offers (key item) map (step map item)) (items : List α)
    {start : OrderedMap κ ν} {offered : List κ} (known : start.keys = offered.eraseDups) :
    (items.foldl step start).keys = (offered ++ items.map key).eraseDups := by
  induction items generalizing start offered with
  | nil => simpa using known
  | cons item rest ih =>
      have next := (offers start item).keys_eq known
      rw [List.foldl_cons, ih next, List.append_assoc, List.map_cons, List.singleton_append]

theorem keys_foldlM {α : Type} {step : OrderedMap κ ν → α → Except ε (OrderedMap κ ν)}
    {key : α → κ} {items : List α} {start result : OrderedMap κ ν} {offered : List κ}
    (offers : ∀ item ∈ items, ∀ map next, step map item = .ok next → Offers (key item) map next)
    (known : start.keys = offered.eraseDups) (ran : items.foldlM step start = .ok result) :
    result.keys = (offered ++ items.map key).eraseDups := by
  induction items generalizing start offered with
  | nil =>
      rw [List.foldlM_nil, Fallible.pure_eq_ok_iff] at ran
      simpa [← ran] using known
  | cons item rest ih =>
      rw [List.foldlM_cons, Fallible.bind_eq_ok_iff] at ran
      obtain ⟨middle, stepped, ran⟩ := ran
      have next := (offers item List.mem_cons_self start middle stepped).keys_eq known
      have later := ih (fun item inside => offers item (List.mem_cons_of_mem _ inside)) next ran
      rw [later, List.append_assoc, List.map_cons, List.singleton_append]

theorem keys_groups (pairs : List (κ × ν)) :
    (groups pairs).keys = (pairs.map Prod.fst).eraseDups := by
  have started : (empty : OrderedMap κ (List ν)).keys = ([] : List κ).eraseDups := rfl
  rw [groups, keys_foldl (fun map pair => offers_insert map _ _) pairs started, List.nil_append]

theorem eraseDups_keys (map : OrderedMap κ ν) : map.keys.eraseDups = map.keys := by
  have idempotent : ∀ keys : List κ, keys.Nodup → keys.eraseDups = keys := by
    intro keys distinct
    induction keys with
    | nil => rfl
    | cons key rest ih =>
        rw [List.nodup_cons] at distinct
        have kept : rest.filter (fun other => !other == key) = rest := by
          rw [List.filter_eq_self]
          intro other inside
          have differs : other ≠ key := fun same => distinct.1 (same ▸ inside)
          simpa using differs
        rw [List.eraseDups_cons, kept, ih distinct.2]
  exact idempotent map.keys map.keys_nodup

/-! ## Leaving keys out -/

theorem entries_insertIfNew (map : OrderedMap κ ν) (key : κ) (value : ν) :
    (map.insertIfNew key value).entries =
      if key ∈ map.keys then map.entries else map.entries ++ [(key, value)] := by
  have appended : ∀ entries : List (κ × ν), key ∉ entries.map Prod.fst →
      upsert key value entries = entries ++ [(key, value)] := by
    intro entries absent
    induction entries with
    | nil => rfl
    | cons entry rest ih =>
        rw [List.map_cons, List.mem_cons, not_or] at absent
        rw [upsert, if_neg (Ne.symm absent.1), ih absent.2, List.cons_append]
  by_cases present : key ∈ map.keys
  · rw [insertIfNew, if_pos ((contains_iff _ _).mpr present), if_pos present]
  · have missing : ¬ map.contains key = true := fun found => present ((contains_iff _ _).mp found)
    rw [insertIfNew, if_neg missing, if_neg present]
    exact appended map.entries present

/-- Pairs whose keys fail a test can be left out before or after the first pair of each key
is taken. -/
theorem entries_ofFirst_filter (test : κ → Bool) (pairs : List (κ × ν)) :
    (ofFirst (pairs.filter fun pair => test pair.1)).entries =
      (ofFirst pairs).entries.filter fun entry => test entry.1 := by
  have folded : ∀ whole part : OrderedMap κ ν,
      part.entries = whole.entries.filter (fun entry => test entry.1) →
      ((pairs.filter fun pair => test pair.1).foldl
          (fun map pair => map.insertIfNew pair.1 pair.2) part).entries =
        (pairs.foldl (fun map pair => map.insertIfNew pair.1 pair.2) whole).entries.filter
          fun entry => test entry.1 := by
    induction pairs with
    | nil =>
        intro whole part same
        exact same
    | cons pair rest ih =>
        intro whole part same
        have grown := whole.entries_insertIfNew pair.1 pair.2
        cases passes : test pair.1 with
        | false =>
            simp only [List.filter_cons, passes, Bool.false_eq_true, if_false, List.foldl_cons]
            apply ih
            rw [grown, same]
            split <;> simp [passes]
        | true =>
            have present : pair.1 ∈ part.keys ↔ pair.1 ∈ whole.keys := by
              simp [keys, same, passes]
            simp only [List.filter_cons, passes, if_true, List.foldl_cons]
            apply ih
            rw [grown, part.entries_insertIfNew, same]
            by_cases known : pair.1 ∈ whole.keys
            · simp [known, present]
            · simp [known, present, passes]
  exact folded empty empty rfl

theorem values_ofFirst_filter (test : κ → Bool) (keep : ν → Bool) (pairs : List (κ × ν))
    (agree : ∀ pair ∈ pairs, test pair.1 = keep pair.2) :
    (ofFirst (pairs.filter fun pair => keep pair.2)).values =
      (ofFirst pairs).values.filter keep := by
  have pairsAgree : pairs.filter (fun pair => keep pair.2) =
      pairs.filter fun pair => test pair.1 := by
    apply List.filter_congr
    intro pair inside
    exact (agree pair inside).symm
  have entriesAgree : (ofFirst pairs).entries.filter (fun entry => test entry.1) =
      (ofFirst pairs).entries.filter fun entry => keep entry.2 := by
    apply List.filter_congr
    intro entry inside
    apply agree
    have found := ((ofFirst pairs).get?_eq_some_iff entry.1 entry.2).mpr inside
    rw [get?_ofFirst] at found
    exact mem_of_assoc? found
  rw [values, values, pairsAgree, entries_ofFirst_filter, entriesAgree, List.filter_map]
  rfl

/-! ## The first item of each key -/

section Items

variable {α : Type}

theorem assoc?_map (key : α → κ) (value : α → ν) (items : List α) (wanted : κ) :
    assoc? wanted (items.map fun item => (key item, value item)) =
      (items.find? fun item => key item == wanted).map value := by
  induction items with
  | nil => rfl
  | cons item rest ih => by_cases same : key item = wanted <;> simp [assoc?, same, ih]

theorem entries_foldl_insertIfNew (key : α → κ) (value : α → ν) (items : List α)
    (start : OrderedMap κ ν) :
    (items.foldl (fun map item => map.insertIfNew (key item) (value item)) start).entries =
      start.entries ++
        ((items.filter fun item => decide (key item ∉ start.keys)).eraseDupsBy
          fun later earlier => key later == key earlier).map fun item => (key item, value item) := by
  induction items generalizing start with
  | nil => simp
  | cons item rest ih =>
      have grown := start.entries_insertIfNew (key item) (value item)
      rw [List.foldl_cons, ih, keys, grown]
      by_cases known : key item ∈ start.keys
      · rw [if_pos known, List.filter_cons_of_neg (by simpa using known)]
        rfl
      · have narrowed : (rest.filter fun other => decide (key other ∉
            (start.entries ++ [(key item, value item)]).map Prod.fst)) =
            (rest.filter fun other => decide (key other ∉ start.keys)).filter
              fun other => decide ((key other == key item) = false) := by
          rw [List.filter_filter]
          apply List.filter_congr
          intro other _
          have fresh : key other ∉ (start.entries ++ [(key item, value item)]).map Prod.fst ↔
              key other ∉ start.keys ∧ key other ≠ key item := by
            rw [List.map_append, List.mem_append, not_or, keys, List.map_singleton,
              List.mem_singleton]
          rw [Bool.eq_iff_iff, decide_eq_true_iff, fresh, Bool.and_eq_true, decide_eq_true_iff,
            decide_eq_true_iff, beq_eq_false_iff_ne, and_comm]
        rw [if_neg known, narrowed, List.filter_cons_of_pos (by simpa using known),
          List.eraseDupsBy_cons, List.map_cons, List.append_assoc, List.singleton_append]

/-- Keeping the first value of each key is dropping the items whose key came before. -/
theorem entries_ofFirst_map (key : α → κ) (value : α → ν) (items : List α) :
    (ofFirst (items.map fun item => (key item, value item))).entries =
      (items.eraseDupsBy fun later earlier => key later == key earlier).map
        fun item => (key item, value item) := by
  rw [ofFirst, List.foldl_map, entries_foldl_insertIfNew]
  simp [keys, empty]

/-- Every item is represented by the first one of its key. -/
theorem exists_first_mem_eraseDupsBy (key : α → κ) {items : List α} {item : α}
    (inside : item ∈ items) :
    ∃ earlier kept later, items = earlier ++ kept :: later ∧ key kept = key item ∧
      (∀ other ∈ earlier, key other ≠ key item) ∧
      kept ∈ items.eraseDupsBy fun later earlier => key later == key earlier := by
  have present : (items.find? fun other => key other == key item).isSome = true :=
    List.find?_isSome.mpr ⟨item, inside, beq_self_eq_true _⟩
  obtain ⟨kept, found⟩ := Option.isSome_iff_exists.mp present
  obtain ⟨same, earlier, later, split, before⟩ := List.find?_eq_some_iff_append.mp found
  refine ⟨earlier, kept, later, split, eq_of_beq same, ?_, ?_⟩
  · intro other outside
    simpa using before other outside
  · have stored : (ofFirst (items.map fun item => (key item, item))).get? (key item) =
        some kept := by
      rw [get?_ofFirst, assoc?_map, found]
      rfl
    rw [get?_eq_some_iff, entries_ofFirst_map] at stored
    obtain ⟨other, listed, pair⟩ := List.mem_map.mp stored
    rw [← (Prod.mk.inj pair).2]
    exact listed

end Items

/-! ## Changing the values -/

section Values

variable {α β : Type}

omit [DecidableEq κ] in
theorem map_fst_map_entries (value : α → β) (entries : List (κ × α)) :
    (entries.map fun entry => (entry.1, value entry.2)).map Prod.fst =
      entries.map Prod.fst := by
  rw [List.map_map]
  rfl

/-- The same keys in the same order, each with the image of its value. -/
def mapValues (value : α → β) (map : OrderedMap κ α) : OrderedMap κ β where
  entries := map.entries.map fun entry => (entry.1, value entry.2)
  distinct := (map_fst_map_entries value map.entries).symm ▸ map.distinct

variable (value : α → β) (map : OrderedMap κ α)

omit [DecidableEq κ] in
@[simp] theorem keys_mapValues : (map.mapValues value).keys = map.keys :=
  map_fst_map_entries value map.entries

@[simp] theorem get?_mapValues (key : κ) :
    (map.mapValues value).get? key = (map.get? key).map value := by
  show assoc? key (map.entries.map fun entry => (entry.1, value entry.2)) =
    (assoc? key map.entries).map value
  induction map.entries with
  | nil => rfl
  | cons entry rest ih => by_cases same : entry.1 = key <;> simp [assoc?, same, ih]

@[simp] theorem contains_mapValues (key : κ) :
    (map.mapValues value).contains key = map.contains key := by
  rw [contains_eq_isSome, get?_mapValues, Option.isSome_map, contains_eq_isSome]

theorem mapValues_insert (key : κ) (added : α) :
    (map.insert key added).mapValues value = (map.mapValues value).insert key (value added) := by
  apply ext
  show (upsert key added map.entries).map (fun entry => (entry.1, value entry.2)) =
    upsert key (value added) (map.entries.map fun entry => (entry.1, value entry.2))
  induction map.entries with
  | nil => rfl
  | cons entry rest ih => by_cases same : entry.1 = key <;> simp [upsert, same, ih]

end Values

end Introspection.OrderedMap
