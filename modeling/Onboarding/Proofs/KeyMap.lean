import Mathlib.Data.Finset.Card
import Onboarding.KeyMap

/-! # What a map holds

A map is known by the values at its keys: because its entries stand in the order of their
keys, two maps with the same values are equal. The map of some entries holds the last of
each key.
-/

namespace Onboarding.KeyMap

variable {α : Type}

theorem lookup_cons (key : String) (entry : String × α) (rest : List (String × α)) :
    (entry :: rest).lookup key = if key = entry.1 then some entry.2 else rest.lookup key := by
  rw [List.lookup_cons]
  by_cases same : key = entry.1
  · rw [if_pos same, beq_iff_eq.mpr same]
  · rw [if_neg same, beq_eq_false_iff_ne.mpr same]

/-- Of entries with one key each, the first is the only one for its key. -/
theorem lookup_rest {entry : String × α} {rest : List (String × α)}
    (distinct : ((entry :: rest).map Prod.fst).Nodup) (key : String) :
    (if key = entry.1 then none else (entry :: rest).lookup key) = rest.lookup key := by
  by_cases same : key = entry.1
  · have notInRest := (List.nodup_cons.mp distinct).1
    rw [if_pos same]
    refine (List.lookup_eq_none_iff.mpr fun other inRest => ?_).symm
    rw [bne_iff_ne, same]
    exact fun sameKey => notInRest (sameKey ▸ List.mem_map_of_mem inRest)
  · rw [if_neg same, lookup_cons, if_neg same]

/-- Of entries with one key each, every one is found under its key. -/
theorem lookup_of_mem {entry : String × α} {entries : List (String × α)}
    (distinct : (entries.map Prod.fst).Nodup) (member : entry ∈ entries) :
    entries.lookup entry.1 = some entry.2 := by
  induction entries with
  | nil => exact absurd member List.not_mem_nil
  | cons head rest ih =>
      rcases List.mem_cons.mp member with rfl | inRest
      · rw [lookup_cons, if_pos rfl]
      · have isFound := ih (List.nodup_cons.mp distinct).2 inRest
        rw [← lookup_rest distinct] at isFound
        split at isFound
        · cases isFound
        · exact isFound

/-- Inserting an entry changes what stands under its key, and nothing else. -/
theorem lookup_insertEntry (key other : String) (value : α) (entries : List (String × α)) :
    (insertEntry key value entries).lookup other =
      if other = key then some value else entries.lookup other := by
  induction entries with
  | nil => exact lookup_cons other (key, value) []
  | cons entry rest ih =>
      unfold insertEntry
      split
      · exact lookup_cons other (key, value) (entry :: rest)
      · split
        · rename_i isKey
          rw [lookup_cons, lookup_cons, ← isKey]
          by_cases same : other = key
          · rw [if_pos same, if_pos same]
          · rw [if_neg same, if_neg same, if_neg same]
        · rename_i notKey
          rw [lookup_cons, lookup_cons, ih]
          by_cases same : other = key
          · subst same
            rw [if_neg notKey, if_pos rfl, if_pos rfl]
          · rw [if_neg same, if_neg same]

/-- Inserting an entry changes what is found under its key, and nothing else. -/
theorem find?_insert (map : KeyMap α) (key other : String) (value : α) :
    (map.insert key value).find? other = if other = key then some value else map.find? other :=
  lookup_insertEntry key other value map.entries

/-- Of several entries with one key, the last one counts. -/
theorem find?_ofList (entries : List (String × α)) (key : String) :
    (ofList entries).find? key = entries.reverse.lookup key := by
  have onto (map : KeyMap α) :
      (entries.foldl (fun map entry => map.insert entry.1 entry.2) map).find? key =
        (entries.reverse.lookup key).or (map.find? key) := by
    induction entries generalizing map with
    | nil => rfl
    | cons entry rest ih =>
        rw [List.foldl_cons, ih, find?_insert, List.reverse_cons, List.lookup_append,
          lookup_cons, Option.or_assoc]
        by_cases same : key = entry.1
        · rw [if_pos same, if_pos same]
          rfl
        · rw [if_neg same, if_neg same]
          rfl
  unfold ofList
  rw [onto]
  exact Option.or_none

/-- Of entries with one key each, the order does not matter. -/
theorem lookup_perm {left right : List (String × α)} (distinct : (left.map Prod.fst).Nodup)
    (same : left.Perm right) (key : String) : left.lookup key = right.lookup key := by
  induction same with
  | nil => rfl
  | cons entry _ ih => rw [lookup_cons, lookup_cons, ih (List.nodup_cons.mp distinct).2]
  | swap first second rest =>
      have differ : second.1 ≠ first.1 := by
        intro sameKey
        exact (List.nodup_cons.mp distinct).1 (sameKey ▸ List.mem_cons_self)
      rw [lookup_cons, lookup_cons, lookup_cons, lookup_cons]
      by_cases isSecond : key = second.1
      · rw [if_pos isSecond, if_pos isSecond, if_neg (isSecond ▸ differ)]
      · rw [if_neg isSecond, if_neg isSecond]
  | trans first _ ihFirst ihSecond =>
      rw [ihFirst distinct, ihSecond ((first.map Prod.fst).nodup_iff.mp distinct)]

/-- A map from entries with distinct keys has exactly these. -/
theorem find?_ofList_of_distinct {entries : List (String × α)}
    (distinct : (entries.map Prod.fst).Nodup) (key : String) :
    (ofList entries).find? key = entries.lookup key := by
  rw [find?_ofList, ← lookup_perm distinct entries.reverse_perm.symm]

/-- The keys of a map are distinct. -/
theorem keys_nodup (map : KeyMap α) : (map.entries.map Prod.fst).Nodup := by
  refine List.pairwise_map.mpr (map.increasing.imp fun below same => ?_)
  exact String.lt_irrefl _ (same ▸ below)

theorem find?_of_mem {map : KeyMap α} {entry : String × α} (member : entry ∈ map.entries) :
    map.find? entry.1 = some entry.2 :=
  lookup_of_mem map.keys_nodup member

/-- There is a value for a key exactly if the key is one of those of the entries. -/
theorem isSome_lookup_iff {entries : List (String × α)} {key : String} :
    (entries.lookup key).isSome = true ↔ key ∈ entries.map Prod.fst := by
  induction entries with
  | nil => simp
  | cons entry rest ih =>
      rw [lookup_cons, List.map_cons, List.mem_cons, ← ih]
      by_cases same : key = entry.1
      · simp [same]
      · simp [same]

/-- The map of some entries has their keys. -/
theorem mem_keys_ofList {entries : List (String × α)} {key : String} :
    key ∈ (ofList entries).keys ↔ key ∈ entries.map Prod.fst := by
  have isFound : key ∈ (ofList entries).keys ↔ ((ofList entries).find? key).isSome = true :=
    isSome_lookup_iff.symm
  rw [isFound, find?_ofList, isSome_lookup_iff, List.map_reverse, List.mem_reverse]

/-- The map of some entries has one entry for each of their keys. -/
theorem length_keys_ofList (entries : List (String × α)) :
    (ofList entries).keys.length = (entries.map Prod.fst).toFinset.card := by
  have distinct : (ofList entries).keys.Nodup := keys_nodup _
  have sameKeys : (ofList entries).keys.toFinset = (entries.map Prod.fst).toFinset := by
    ext key
    rw [List.mem_toFinset, List.mem_toFinset, mem_keys_ofList]
  rw [← sameKeys, List.toFinset_card_of_nodup distinct]

/-- Below all keys nothing is found. -/
theorem lookup_eq_none_of_above {key : String} {entries : List (String × α)}
    (above : ∀ entry ∈ entries, key < entry.1) : entries.lookup key = none := by
  refine List.lookup_eq_none_iff.mpr fun entry member => ?_
  have differs : key ≠ entry.1 := fun same => String.lt_irrefl _ (same ▸ above entry member)
  simpa using differs

theorem lookup_eq_none_of_below {key : String} {entry : String × α} {rest : List (String × α)}
    (increasing : (entry :: rest).Pairwise fun first second => first.1 < second.1)
    (below : key < entry.1) : (entry :: rest).lookup key = none := by
  have above := (List.pairwise_cons.mp increasing).1
  refine lookup_eq_none_of_above fun other member => ?_
  rcases List.mem_cons.mp member with rfl | inRest
  · exact below
  · exact String.lt_trans below (above other inRest)

/-- Entries in the order of their keys are known by the values that they give. -/
theorem eq_of_lookup_eq {left right : List (String × α)}
    (leftIncreasing : left.Pairwise fun first second => first.1 < second.1)
    (rightIncreasing : right.Pairwise fun first second => first.1 < second.1)
    (same : ∀ key, left.lookup key = right.lookup key) : left = right := by
  induction left generalizing right with
  | nil =>
      cases right with
      | nil => rfl
      | cons entry rest =>
          have present := same entry.1
          rw [lookup_cons, if_pos rfl] at present
          cases present
  | cons first leftRest ih =>
      obtain ⟨leftAbove, leftRestIncreasing⟩ := List.pairwise_cons.mp leftIncreasing
      cases right with
      | nil =>
          have present := same first.1
          rw [lookup_cons, if_pos rfl] at present
          cases present
      | cons second rightRest =>
          obtain ⟨rightAbove, rightRestIncreasing⟩ := List.pairwise_cons.mp rightIncreasing
          -- the smaller of the two first keys would have no value in the other list
          have notBelow : ¬first.1 < second.1 := by
            intro below
            have present := same first.1
            rw [lookup_eq_none_of_below rightIncreasing below, lookup_cons, if_pos rfl] at present
            cases present
          have notAbove : ¬second.1 < first.1 := by
            intro below
            have present := same second.1
            rw [lookup_eq_none_of_below leftIncreasing below, lookup_cons, if_pos rfl] at present
            cases present
          have sameKey : first.1 = second.1 :=
            String.le_antisymm (String.not_lt.mp notAbove) (String.not_lt.mp notBelow)
          have sameValue := same first.1
          rw [lookup_cons, lookup_cons, if_pos rfl, if_pos sameKey] at sameValue
          have sameEntry : first = second := Prod.ext sameKey (Option.some.inj sameValue)
          subst sameEntry
          have sameRest : leftRest = rightRest := by
            refine ih leftRestIncreasing rightRestIncreasing fun key => ?_
            by_cases isFirst : key = first.1
            · subst isFirst
              rw [lookup_eq_none_of_above leftAbove, lookup_eq_none_of_above rightAbove]
            · have value := same key
              rw [lookup_cons, lookup_cons, if_neg isFirst, if_neg isFirst] at value
              exact value
          rw [sameRest]

/-- Maps that hold the same value at every key are equal. -/
theorem ext_find? {left right : KeyMap α} (same : ∀ key, left.find? key = right.find? key) :
    left = right :=
  ext (eq_of_lookup_eq left.increasing right.increasing same)

/-- Of entries with one key each, the order does not matter for their map. -/
theorem ofList_perm {left right : List (String × α)} (distinct : (left.map Prod.fst).Nodup)
    (same : left.Perm right) : ofList left = ofList right := by
  refine ext_find? fun key => ?_
  rw [find?_ofList_of_distinct distinct,
    find?_ofList_of_distinct ((same.map Prod.fst).nodup_iff.mp distinct),
    lookup_perm distinct same]

/-- The entries of a map make that map. -/
theorem ofList_entries (map : KeyMap α) : ofList map.entries = map :=
  ext_find? (find?_ofList_of_distinct map.keys_nodup)

end Onboarding.KeyMap
