/-! # Maps from texts, ordered by key

A map holds one value for a key, and its entries stand in the order of the code
points of their keys. The order is part of the type, so two maps with the same
entries are equal.
-/

namespace Onboarding

/-- A map from texts to values whose entries are in increasing order of key. -/
structure KeyMap (α : Type) where
  entries : List (String × α)
  increasing : entries.Pairwise fun left right => left.1 < right.1

namespace KeyMap

variable {α : Type}

/-- Maps with the same entries are equal. -/
@[ext] theorem ext {left right : KeyMap α} (same : left.entries = right.entries) :
    left = right := by
  cases left
  cases right
  cases same
  rfl

instance [DecidableEq α] : DecidableEq (KeyMap α) := fun left right =>
  decidable_of_iff (left.entries = right.entries) ⟨ext, congrArg entries⟩

instance [Repr α] : Repr (KeyMap α) := ⟨fun map => reprPrec map.entries⟩

/-- The map without entries. -/
def empty : KeyMap α := ⟨[], .nil⟩

instance : Inhabited (KeyMap α) := ⟨empty⟩

/-- Put an entry in its place, or in the place of the entry with its key. -/
def insertEntry (key : String) (value : α) : List (String × α) → List (String × α)
  | [] => [(key, value)]
  | entry :: rest =>
    if key < entry.1 then (key, value) :: entry :: rest
    else if key = entry.1 then (key, value) :: rest
    else entry :: insertEntry key value rest

/-- The keys after an insertion are the old ones and the new one. -/
theorem mem_insertEntry {key : String} {value : α} {entries : List (String × α)}
    {entry : String × α} (member : entry ∈ insertEntry key value entries) :
    entry = (key, value) ∨ entry ∈ entries := by
  induction entries with
  | nil => simpa [insertEntry] using member
  | cons head rest hypothesis =>
    simp only [insertEntry] at member
    split at member
    · simpa using member
    · split at member
      · rcases List.mem_cons.mp member with here | there
        · exact .inl here
        · exact .inr (List.mem_cons_of_mem _ there)
      · rcases List.mem_cons.mp member with here | there
        · exact .inr (here ▸ List.mem_cons_self)
        · rcases hypothesis there with new | old
          · exact .inl new
          · exact .inr (List.mem_cons_of_mem _ old)

/-- Insertion keeps the order of the keys. -/
theorem insertEntry_increasing {key : String} {value : α} {entries : List (String × α)}
    (increasing : entries.Pairwise fun left right => left.1 < right.1) :
    (insertEntry key value entries).Pairwise fun left right => left.1 < right.1 := by
  induction entries with
  | nil => simp [insertEntry]
  | cons head rest hypothesis =>
    have ⟨above, ordered⟩ := List.pairwise_cons.mp increasing
    simp only [insertEntry]
    split
    · rename_i less
      refine List.pairwise_cons.mpr ⟨fun entry member => ?_, increasing⟩
      rcases List.mem_cons.mp member with here | there
      · exact here ▸ less
      · exact String.lt_trans less (above entry there)
    · split
      · rename_i same
        exact List.pairwise_cons.mpr ⟨fun entry member => same ▸ above entry member, ordered⟩
      · rename_i notLess notSame
        refine List.pairwise_cons.mpr ⟨fun entry member => ?_, hypothesis ordered⟩
        rcases mem_insertEntry member with new | old
        · subst new
          rcases String.le_total key head.1 with below | beyond
          · exact absurd (String.le_antisymm below (String.not_lt.mp notLess)) notSame
          · exact String.not_le.mp fun below => notSame (String.le_antisymm below beyond)
        · exact above entry old

/-- The map with a value at a key, in place of the one that was there. -/
def insert (map : KeyMap α) (key : String) (value : α) : KeyMap α :=
  ⟨insertEntry key value map.entries, insertEntry_increasing map.increasing⟩

/-- The map of some entries; of several with one key the last one counts. -/
def ofList (entries : List (String × α)) : KeyMap α :=
  entries.foldl (fun map entry => map.insert entry.1 entry.2) empty

/-- The value under a key. -/
def find? (map : KeyMap α) (key : String) : Option α :=
  map.entries.lookup key

/-- The keys in their order. -/
def keys (map : KeyMap α) : List String :=
  map.entries.map Prod.fst

end KeyMap

end Onboarding
