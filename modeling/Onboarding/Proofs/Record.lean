import Onboarding.Record
import Onboarding.Proofs.KeyMap
import Onboarding.Proofs.Result

/-! # Records filled by key

The entries of a record come in some order and are taken in that order. If its fields can be
entered in any order (`Onboarding.Record.Lawful`), only what stands under the key of each field
matters: a record can be said to be filled field by field from a lookup
(`Onboarding.Record.Fills`), and reading the entries comes to the record that is filled so, and
to no other (`Onboarding.Record.Fills.visit`, `Onboarding.Record.Lawful.fills_of_visit`).

Putting another value under the key of a field has the effect of entering that value into the
record that was filled before (`Onboarding.Record.Fills.replaced`).
-/

namespace Onboarding

variable {ν ε ρ α β : Type}

namespace Field

/-- Two fields can be entered one after the other in either order. -/
def Independent (field other : Field ν ε ρ) : Prop :=
  ∀ value otherValue before after,
    (∃ between, field.enter value before = .ok between ∧
      other.enter otherValue between = .ok after) ↔
    ∃ between, other.enter otherValue before = .ok between ∧
      field.enter value between = .ok after

theorem Independent.symm {field other : Field ν ε ρ} (independent : field.Independent other) :
    other.Independent field :=
  fun value otherValue before after => (independent otherValue value before after).symm

/-- Entering a field again undoes that it was entered before. -/
def Overwrites (field : Field ν ε ρ) : Prop :=
  ∀ {value before after}, field.enter value before = .ok after →
    ∀ other, field.enter other after = field.enter other before

/-- The field under its first key only. -/
def withoutAliases (field : Field ν ε ρ) : Field ν ε ρ := { field with aliases := [] }

/-- Entering a field keeps what is known of the record. -/
def Keeps (field : Field ν ε ρ) (good : ρ → Prop) : Prop :=
  ∀ ⦃value before after⦄, good before → field.enter value before = .ok after → good after

/-- What a lookup yields for a field is entered, if it yields anything. -/
inductive Takes (lookup : String → Option ν) (field : Field ν ε ρ) : ρ → ρ → Prop where
  | found {value : ν} {before after : ρ} (isFound : lookup field.key = some value)
      (entered : field.enter value before = .ok after) : Takes lookup field before after
  | absent {record : ρ} (isAbsent : lookup field.key = none) : Takes lookup field record record

section Of

variable {presence otherPresence : Presence} {key otherKey : String} {read : ν → Except ε α}
  {otherRead : ν → Except ε β} {set : ρ → α → ρ} {otherSet : ρ → β → ρ}

@[simp] theorem key_of : (of presence key read set).key = key := rfl

@[simp] theorem aliases_of : (of presence key read set).aliases = [] := rfl

@[simp] theorem presence_of : (of presence key read set).presence = presence := rfl

@[simp] theorem mandatory_eq : mandatory key read set = of .mandatory key read set := rfl

@[simp] theorem defaulted_eq : defaulted key read set = of .defaulted key read set := rfl

@[simp] theorem placed_eq : placed key read set = of .placed key read set := rfl

@[simp] theorem withoutAliases_of :
    (of presence key read set).withoutAliases = of presence key read set := rfl

@[simp] theorem key_also {field : Field ν ε ρ} : (field.also otherKey).key = field.key := rfl

@[simp] theorem aliases_also {field : Field ν ε ρ} :
    (field.also otherKey).aliases = field.aliases ++ [otherKey] := rfl

@[simp] theorem withoutAliases_also {field : Field ν ε ρ} :
    (field.also key).withoutAliases = field.withoutAliases := rfl

/-- A field is entered with what is read from its value. -/
theorem enter_of_eq_ok_iff {value : ν} {before after : ρ} :
    (of presence key read set).enter value before = .ok after ↔
      ∃ content, read value = .ok content ∧ set before content = after := by
  simp only [of, map_eq_ok_iff, eq_comm]

/-- Two fields are independent if setting them commutes. -/
@[simp] theorem independent_of
    (commute : ∀ record content other,
      otherSet (set record content) other = set (otherSet record other) content) :
    (of presence key read set).Independent (of otherPresence otherKey otherRead otherSet) := by
  intro value otherValue before after
  simp only [enter_of_eq_ok_iff]
  constructor
  · rintro ⟨_, ⟨content, reads, rfl⟩, other, otherReads, rfl⟩
    exact ⟨_, ⟨other, otherReads, rfl⟩, content, reads, (commute ..).symm⟩
  · rintro ⟨_, ⟨other, otherReads, rfl⟩, content, reads, rfl⟩
    exact ⟨_, ⟨content, reads, rfl⟩, other, otherReads, commute ..⟩

/-- A field overwrites itself if the last setting counts. -/
@[simp] theorem overwrites_of
    (last : ∀ record content other, set (set record content) other = set record other) :
    (of presence key read set).Overwrites := by
  intro value before after entered other
  obtain ⟨content, _, rfl⟩ := enter_of_eq_ok_iff.mp entered
  have sameSet : set (set before content) = set before := funext (last before content)
  simp only [of, sameSet]

/-- A field keeps a property if every content that is read keeps it when set. -/
theorem keeps_of {good : ρ → Prop}
    (keeps : ∀ value content record, read value = .ok content → good record →
      good (set record content)) : (of presence key read set).Keeps good := by
  intro value before after isGood entered
  obtain ⟨content, reads, rfl⟩ := enter_of_eq_ok_iff.mp entered
  exact keeps value content before reads isGood

end Of

end Field

namespace Record

/-- A record whose fields have one key each, all different, and can be entered in any order,
each again and again. -/
structure Lawful (shape : Record ν ε ρ) : Prop where
  plain : ∀ field ∈ shape.fields, field.aliases = []
  keysDistinct : (shape.fields.map Field.key).Nodup
  independent : shape.fields.Pairwise Field.Independent
  overwrites : ∀ field ∈ shape.fields, field.Overwrites

/-- A record is filled, field by field, with what a lookup yields. -/
inductive Fills (lookup : String → Option ν) : List (Field ν ε ρ) → ρ → ρ → Prop where
  | nil {record : ρ} : Fills lookup [] record record
  | cons {field : Field ν ε ρ} {fields : List (Field ν ε ρ)} {before between after : ρ}
      (first : field.Takes lookup before between) (others : Fills lookup fields between after) :
      Fills lookup (field :: fields) before after

namespace Fills

variable {lookup other : String → Option ν} {field : Field ν ε ρ} {fields : List (Field ν ε ρ)}
  {before after : ρ} {value : ν}

/-- Only what is found under the keys of the fields counts. -/
theorem congr (same : ∀ field ∈ fields, lookup field.key = other field.key)
    (fills : Fills lookup fields before after) : Fills other fields before after := by
  induction fills with
  | nil => exact .nil
  | cons first _ ih =>
      refine .cons ?_ (ih fun field member => same field (List.mem_cons_of_mem _ member))
      have sameHere := same _ List.mem_cons_self
      cases first with
      | found isFound entered => exact .found (sameHere ▸ isFound) entered
      | absent isAbsent => exact .absent (sameHere ▸ isAbsent)

/-- Where nothing is found, nothing changes. -/
theorem of_absent {record : ρ} (absent : ∀ field ∈ fields, lookup field.key = none) :
    Fills lookup fields record record := by
  induction fields with
  | nil => exact .nil
  | cons field fields ih =>
      refine .cons (.absent (absent field List.mem_cons_self)) (ih fun other member => ?_)
      exact absent other (List.mem_cons_of_mem _ member)

/-- Where nothing stands under any key, nothing is filled. -/
theorem eq_of_absent (fills : Fills lookup fields before after)
    (absent : ∀ field ∈ fields, lookup field.key = none) : after = before := by
  induction fills with
  | nil => rfl
  | cons first _ ih =>
      rw [ih fun field member => absent field (List.mem_cons_of_mem _ member)]
      cases first with
      | found isFound _ =>
          rw [absent _ List.mem_cons_self] at isFound
          cases isFound
      | absent _ => rfl

/-- Fields are filled one list after the other. -/
theorem append {others : List (Field ν ε ρ)} {between : ρ}
    (fills : Fills lookup fields before between) (fillsOthers : Fills lookup others between after) :
    Fills lookup (fields ++ others) before after := by
  induction fills with
  | nil => exact fillsOthers
  | cons first _ ih => exact .cons first (ih fillsOthers)

theorem exists_of_append {others : List (Field ν ε ρ)}
    (fills : Fills lookup (fields ++ others) before after) :
    ∃ between, Fills lookup fields before between ∧ Fills lookup others between after := by
  induction fields generalizing before with
  | nil => exact ⟨before, .nil, fills⟩
  | cons field fields ih =>
      cases fills with
      | cons first rest =>
          obtain ⟨between, fillsFields, fillsOthers⟩ := ih rest
          exact ⟨between, .cons first fillsFields, fillsOthers⟩

/-- A field may be entered before some others are filled, or else after them. -/
theorem enter_first_iff (independent : ∀ other ∈ fields, field.Independent other) :
    (∃ between, field.enter value before = .ok between ∧ Fills lookup fields between after) ↔
      ∃ between, Fills lookup fields before between ∧ field.enter value between = .ok after := by
  induction fields generalizing before with
  | nil =>
      constructor
      · rintro ⟨_, entered, ⟨⟩⟩
        exact ⟨before, .nil, entered⟩
      · rintro ⟨_, ⟨⟩, entered⟩
        exact ⟨after, entered, .nil⟩
  | cons other fields ih =>
      have swap := independent other List.mem_cons_self
      have others : ∀ another ∈ fields, field.Independent another :=
        fun another member => independent another (List.mem_cons_of_mem _ member)
      constructor
      · rintro ⟨_, entered, fills⟩
        cases fills with
        | cons first rest =>
            cases first with
            | found isFound otherEntered =>
                obtain ⟨middle, otherFirst, enteredLater⟩ :=
                  (swap _ _ _ _).mp ⟨_, entered, otherEntered⟩
                obtain ⟨between, fills, enteredLast⟩ := (ih others).mp ⟨_, enteredLater, rest⟩
                exact ⟨between, .cons (.found isFound otherFirst) fills, enteredLast⟩
            | absent isAbsent =>
                obtain ⟨between, fills, enteredLast⟩ := (ih others).mp ⟨_, entered, rest⟩
                exact ⟨between, .cons (.absent isAbsent) fills, enteredLast⟩
      · rintro ⟨_, fills, entered⟩
        cases fills with
        | cons first rest =>
            obtain ⟨middle, enteredEarlier, restAfter⟩ := (ih others).mpr ⟨_, rest, entered⟩
            cases first with
            | found isFound otherEntered =>
                obtain ⟨between, enteredFirst, otherLater⟩ :=
                  (swap _ _ _ _).mpr ⟨_, otherEntered, enteredEarlier⟩
                exact ⟨between, enteredFirst, .cons (.found isFound otherLater) restAfter⟩
            | absent isAbsent =>
                exact ⟨middle, enteredEarlier, .cons (.absent isAbsent) restAfter⟩

end Fills

section Visit

variable {shape : Record ν ε ρ} {duplicate : String → ε} {skip : ν → Except ε Unit}
  {filling : Filling ρ} {field : Field ν ε ρ} {key : String} {value : ν} {after : ρ}

/-- An entry that is for no field changes nothing. -/
theorem visit_skipped (isNone : shape.field? key = none) (skips : skip value = .ok ()) :
    shape.visit duplicate skip filling key value = .ok filling := by
  simp only [visit, isNone, skips]
  rfl

/-- An entry for a field that was not filled yet is entered. -/
theorem visit_entered (isField : shape.field? key = some field)
    (notFilled : field.key ∉ filling.filled)
    (entered : field.enter value filling.record = .ok after) :
    shape.visit duplicate skip filling key value =
      .ok ⟨after, field.key :: filling.filled⟩ := by
  simp only [visit, isField, List.contains_iff_mem, notFilled, ↓reduceIte, entered]
  rfl

/-- An entry that is taken is for no field, or it is the first one for its field and entered. -/
theorem visit_cases {next : Filling ρ}
    (visited : shape.visit duplicate skip filling key value = .ok next) :
    (shape.field? key = none ∧ next = filling) ∨
    ∃ field after, shape.field? key = some field ∧ field.key ∉ filling.filled ∧
      field.enter value filling.record = .ok after ∧
      next = ⟨after, field.key :: filling.filled⟩ := by
  unfold visit at visited
  cases isField : shape.field? key with
  | none =>
      rw [isField] at visited
      obtain ⟨_, _, isNext⟩ := bind_eq_ok_iff.mp visited
      exact .inl ⟨rfl, (Except.ok.inj isNext).symm⟩
  | some field =>
      rw [isField] at visited
      dsimp only at visited
      split at visited
      · cases visited
      · rename_i notFilled
        obtain ⟨after, entered, isNext⟩ := bind_eq_ok_iff.mp visited
        exact .inr ⟨field, after, rfl, by simpa using notFilled, entered,
          (Except.ok.inj isNext).symm⟩

end Visit

section Lawful

variable {shape : Record ν ε ρ} (lawful : shape.Lawful) {lookup : String → Option ν}
  {field : Field ν ε ρ} {before record after : ρ} {value : ν}

include lawful

/-- The fields of a lawful record answer to their own keys only. -/
theorem Lawful.answersTo_iff {key : String} (member : field ∈ shape.fields) :
    field.answersTo key = true ↔ field.key = key := by
  simp [Field.answersTo, lawful.plain field member]

/-- The field that is meant by a key has that key. -/
theorem Lawful.field?_eq_some {key : String} (isField : shape.field? key = some field) :
    field ∈ shape.fields ∧ field.key = key := by
  unfold field? at isField
  have member := List.mem_of_find?_eq_some isField
  have answers := List.find?_some isField
  exact ⟨member, (lawful.answersTo_iff member).mp answers⟩

/-- A key by which no field is meant is the key of none. -/
theorem Lawful.ne_of_field?_eq_none {key : String} (isNone : shape.field? key = none)
    (member : field ∈ shape.fields) : field.key ≠ key := by
  intro isKey
  have refused := List.find?_eq_none.mp isNone field member
  exact refused ((lawful.answersTo_iff member).mpr isKey)

/-- The fields around one of them have other keys, and can be entered before or after it. -/
theorem Lawful.exists_split (member : field ∈ shape.fields) :
    ∃ earlier later, shape.fields = earlier ++ field :: later ∧
      (∀ other ∈ earlier, other.key ≠ field.key ∧ field.Independent other) ∧
      ∀ other ∈ later, other.key ≠ field.key ∧ field.Independent other := by
  obtain ⟨earlier, later, isSplit⟩ := List.append_of_mem member
  have independent := lawful.independent
  have distinct := lawful.keysDistinct
  rw [isSplit, List.pairwise_append, List.pairwise_cons] at independent
  rw [isSplit, List.map_append, List.map_cons, List.nodup_append, List.nodup_cons] at distinct
  obtain ⟨_, ⟨withLater, _⟩, withEarlier⟩ := independent
  obtain ⟨_, ⟨notLater, _⟩, notEarlier⟩ := distinct
  refine ⟨earlier, later, isSplit, fun other isEarlier => ⟨?_, ?_⟩, fun other isLater => ⟨?_, ?_⟩⟩
  · exact notEarlier _ (List.mem_map_of_mem isEarlier) _ List.mem_cons_self
  · exact (withEarlier other isEarlier field List.mem_cons_self).symm
  · exact fun same => notLater (same ▸ List.mem_map_of_mem isLater)
  · exact withLater other isLater

/-- The field that one entry is for may be entered before everything else. -/
theorem Fills.enter_first (member : field ∈ shape.fields)
    (isFound : lookup field.key = some value) (fills : Fills lookup shape.fields before record) :
    ∃ between, field.enter value before = .ok between ∧
      Fills (fun key => if key = field.key then none else lookup key) shape.fields between
        record := by
  obtain ⟨earlier, later, isSplit, beforeField, behindField⟩ := lawful.exists_split member
  rw [isSplit] at fills ⊢
  obtain ⟨middle, fillsEarlier, fillsOthers⟩ := fills.exists_of_append
  cases fillsOthers with
  | cons first fillsLater =>
      cases first with
      | absent isAbsent =>
          rw [isAbsent] at isFound
          cases isFound
      | found isOther entered =>
          obtain rfl := Option.some.inj (isFound.symm.trans isOther)
          obtain ⟨between, enteredFirst, fillsEarlier⟩ :=
            (enter_first_iff fun other isEarlier => (beforeField other isEarlier).2).mpr
              ⟨_, fillsEarlier, entered⟩
          refine ⟨between, enteredFirst, ?_⟩
          refine (fillsEarlier.congr fun other isEarlier => ?_).append
            (.cons (.absent (if_pos rfl)) (fillsLater.congr fun other isLater => ?_))
          · exact (if_neg (beforeField other isEarlier).1).symm
          · exact (if_neg (behindField other isLater).1).symm

/-- Another value under the key of a field fills the record into which that value is entered. -/
theorem Fills.replaced (member : field ∈ shape.fields)
    (fills : Fills lookup shape.fields before record)
    (entered : field.enter value record = .ok after) :
    Fills (fun key => if key = field.key then some value else lookup key) shape.fields before
      after := by
  obtain ⟨earlier, later, isSplit, beforeField, behindField⟩ := lawful.exists_split member
  rw [isSplit] at fills ⊢
  obtain ⟨start, fillsEarlier, fillsOthers⟩ := fills.exists_of_append
  cases fillsOthers with
  | cons first fillsLater =>
      obtain ⟨between, enteredLater, fillsLater⟩ :=
        (enter_first_iff fun other isLater => (behindField other isLater).2).mpr
          ⟨_, fillsLater, entered⟩
      have enteredFirst : field.enter value start = .ok between := by
        cases first with
        | found _ enteredBefore =>
            exact lawful.overwrites field member enteredBefore value ▸ enteredLater
        | absent _ => exact enteredLater
      refine (fillsEarlier.congr fun other isEarlier => ?_).append
        (.cons (.found (if_pos rfl) enteredFirst) (fillsLater.congr fun other isLater => ?_))
      · exact (if_neg (beforeField other isEarlier).1).symm
      · exact (if_neg (behindField other isLater).1).symm

/-- A value that is entered before everything else may be entered in the place of its field. -/
theorem Fills.enter_inPlace {between : ρ} (member : field ∈ shape.fields)
    (isAbsent : lookup field.key = none) (entered : field.enter value before = .ok between)
    (fills : Fills lookup shape.fields between record) :
    Fills (fun key => if key = field.key then some value else lookup key) shape.fields before
      record := by
  obtain ⟨earlier, later, isSplit, beforeField, behindField⟩ := lawful.exists_split member
  rw [isSplit] at fills ⊢
  obtain ⟨_, fillsEarlier, fillsOthers⟩ := fills.exists_of_append
  cases fillsOthers with
  | cons first fillsLater =>
      cases first with
      | found isFound _ =>
          rw [isAbsent] at isFound
          cases isFound
      | absent _ =>
          obtain ⟨_, fillsEarlier, enteredLater⟩ :=
            (enter_first_iff fun other isEarlier => (beforeField other isEarlier).2).mp
              ⟨_, entered, fillsEarlier⟩
          refine (fillsEarlier.congr fun other isEarlier => ?_).append
            (.cons (.found (if_pos rfl) enteredLater) (fillsLater.congr fun other isLater => ?_))
          · exact (if_neg (beforeField other isEarlier).1).symm
          · exact (if_neg (behindField other isLater).1).symm

/-- Reading the entries of a record in their order comes to the record that is filled from what
stands under the keys. -/
theorem Fills.visit (duplicate : String → ε) (skip : ν → Except ε Unit)
    {entries : List (String × ν)} {filled : List String}
    (fills : Fills (fun key => entries.lookup key) shape.fields before record)
    (distinct : (entries.map Prod.fst).Nodup) (fresh : ∀ entry ∈ entries, entry.1 ∉ filled)
    (skips : ∀ entry ∈ entries, skip entry.2 = .ok ()) :
    ∃ done, entries.foldlM (fun filling entry =>
        shape.visit duplicate skip filling entry.1 entry.2) ⟨before, filled⟩ =
          .ok ⟨record, done⟩ ∧
      ∀ field ∈ shape.fields,
        field.key ∈ filled ∨ (entries.lookup field.key).isSome = true → field.key ∈ done := by
  -- on the entries, while the keys of those read before pile up
  induction entries generalizing before filled with
  | nil =>
      obtain rfl := fills.eq_of_absent fun _ _ => rfl
      refine ⟨filled, rfl, fun field _ isDone => ?_⟩
      rcases isDone with isFilled | isFound
      · exact isFilled
      · cases isFound
  | cons entry rest ih =>
      have skipsRest : ∀ other ∈ rest, skip other.2 = .ok () :=
        fun other member => skips other (List.mem_cons_of_mem _ member)
      have restFresh : ∀ other ∈ rest, other.1 ∉ filled :=
        fun other member => fresh other (List.mem_cons_of_mem _ member)
      obtain ⟨notInRest, restDistinct⟩ := List.nodup_cons.mp distinct
      rw [List.foldlM_cons]
      cases isField : shape.field? entry.1 with
      | none =>
          have inRest (field : Field ν ε ρ) (member : field ∈ shape.fields) :
              (entry :: rest).lookup field.key = rest.lookup field.key := by
            rw [KeyMap.lookup_cons, if_neg (lawful.ne_of_field?_eq_none isField member)]
          obtain ⟨done, isRead, isDone⟩ := ih (fills.congr inRest) restDistinct restFresh skipsRest
          rw [visit_skipped isField (skips entry List.mem_cons_self)]
          refine ⟨done, isRead, fun field member isThere => isDone field member ?_⟩
          rwa [← inRest field member]
      | some field =>
          obtain ⟨member, isKey⟩ := lawful.field?_eq_some isField
          have isFound : (entry :: rest).lookup field.key = some entry.2 := by
            rw [KeyMap.lookup_cons, if_pos isKey]
          obtain ⟨between, entered, fillsRest⟩ := fills.enter_first lawful member isFound
          have notFilled : field.key ∉ filled := isKey ▸ fresh entry List.mem_cons_self
          have restFreshNow (other : String × ν) (inRest : other ∈ rest) :
              other.1 ∉ field.key :: filled := by
            intro isFilled
            rcases List.mem_cons.mp isFilled with sameKey | isOld
            · exact notInRest (isKey ▸ sameKey ▸ List.mem_map_of_mem inRest)
            · exact restFresh other inRest isOld
          obtain ⟨done, isRead, isDone⟩ :=
            ih (fillsRest.congr fun other _ => isKey ▸ KeyMap.lookup_rest distinct other.key)
              restDistinct restFreshNow skipsRest
          rw [visit_entered isField notFilled entered]
          refine ⟨done, isRead, fun other otherMember isThere => isDone other otherMember ?_⟩
          by_cases sameKey : other.key = field.key
          · exact .inl (List.mem_cons.mpr (.inl sameKey))
          · rw [KeyMap.lookup_cons, if_neg (isKey ▸ sameKey)] at isThere
            exact isThere.imp_left (List.mem_cons_of_mem _)

/-- Entries that are read fill the record from what stands under the keys. -/
theorem Lawful.fills_of_visit {duplicate : String → ε} {skip : ν → Except ε Unit}
    {entries : List (String × ν)} {filled done : List String}
    (isRead : entries.foldlM (fun filling entry =>
      shape.visit duplicate skip filling entry.1 entry.2) ⟨before, filled⟩ = .ok ⟨record, done⟩)
    (distinct : (entries.map Prod.fst).Nodup) :
    Fills (fun key => entries.lookup key) shape.fields before record ∧
      ∀ key ∈ done, key ∈ filled ∨ (entries.lookup key).isSome = true := by
  induction entries generalizing before filled with
  | nil =>
      cases isRead
      exact ⟨.of_absent fun _ _ => rfl, fun _ isDone => .inl isDone⟩
  | cons entry rest ih =>
      have restDistinct := (List.nodup_cons.mp distinct).2
      rw [List.foldlM_cons] at isRead
      obtain ⟨next, visited, isRead⟩ := bind_eq_ok_iff.mp isRead
      have inRest {key : String} (isThere : (rest.lookup key).isSome = true) :
          ((entry :: rest).lookup key).isSome = true := by
        rw [KeyMap.lookup_cons]
        split
        · rfl
        · exact isThere
      rcases visit_cases visited with ⟨isNone, rfl⟩ | ⟨field, after, isField, _, entered, rfl⟩
      · obtain ⟨fills, isDone⟩ := ih isRead restDistinct
        refine ⟨fills.congr fun field member => ?_, fun key member => ?_⟩
        · rw [KeyMap.lookup_cons, if_neg (lawful.ne_of_field?_eq_none isNone member)]
        · exact (isDone key member).imp_right inRest
      · obtain ⟨fills, isDone⟩ := ih isRead restDistinct
        obtain ⟨member, isKey⟩ := lawful.field?_eq_some isField
        have notInRest : rest.lookup field.key = none := by
          rw [← KeyMap.lookup_rest distinct, if_pos isKey]
        refine ⟨(fills.enter_inPlace lawful member notInRest entered).congr fun other _ => ?_,
          fun key isKeyDone => ?_⟩
        · rw [KeyMap.lookup_cons, isKey]
        · rcases isDone key isKeyDone with isFilled | isThere
          · rcases List.mem_cons.mp isFilled with rfl | isOld
            · refine .inr ?_
              rw [KeyMap.lookup_cons, if_pos isKey]
              rfl
            · exact .inl isOld
          · exact .inr (inRest isThere)

end Lawful

/-- The record type whose fields answer to their first key only. -/
def withoutAliases (shape : Record ν ε ρ) : Record ν ε ρ :=
  { shape with fields := shape.fields.map Field.withoutAliases }

section Aliases

variable {shape : Record ν ε ρ} {key : String}
  (unused : ∀ field ∈ shape.fields, key ∉ field.aliases)

include unused

/-- A key that is no alias means the same field without aliases. -/
theorem field?_withoutAliases :
    shape.withoutAliases.field? key = (shape.field? key).map Field.withoutAliases := by
  simp only [field?, withoutAliases]
  generalize shape.fields = fields at unused ⊢
  induction fields with
  | nil => rfl
  | cons field fields ih =>
      have sameAnswer : field.withoutAliases.answersTo key = field.answersTo key := by
        simp [Field.answersTo, Field.withoutAliases, unused field List.mem_cons_self]
      rw [List.map_cons, List.find?_cons, List.find?_cons, sameAnswer]
      cases field.answersTo key with
      | true => rfl
      | false => exact ih fun other member => unused other (List.mem_cons_of_mem _ member)

/-- An entry under no further key of any field is read as if there were none. -/
theorem visit_withoutAliases (duplicate : String → ε) (skip : ν → Except ε Unit)
    (filling : Filling ρ) (value : ν) :
    shape.withoutAliases.visit duplicate skip filling key value =
      shape.visit duplicate skip filling key value := by
  simp only [visit, field?_withoutAliases unused]
  cases shape.field? key with
  | none => rfl
  | some field => rfl

end Aliases

/-- Whether a record is complete does not depend on the aliases of its fields. -/
theorem finish_withoutAliases (shape : Record ν ε ρ) (missing : String → ε) (filling : Filling ρ) :
    shape.withoutAliases.finish missing filling = shape.finish missing filling := by
  have sameMissing : (shape.withoutAliases.fields.find? fun field =>
      field.presence = .mandatory ∧ filling.filled.contains field.key = false) =
      (shape.fields.find? fun field =>
        field.presence = .mandatory ∧ filling.filled.contains field.key = false).map
          Field.withoutAliases := List.find?_map
  simp only [finish, sameMissing]
  cases shape.fields.find? fun field =>
      field.presence = .mandatory ∧ filling.filled.contains field.key = false with
  | none => rfl
  | some field => rfl

section Keeps

variable {shape : Record ν ε ρ} {good : ρ → Prop}

/-- What every field keeps, reading entries keeps. -/
theorem visit_keeps {duplicate : String → ε} {skip : ν → Except ε Unit}
    {entries : List (String × ν)} {filling done : Filling ρ}
    (keeps : ∀ field ∈ shape.fields, field.Keeps good) (isGood : good filling.record)
    (isRead : entries.foldlM (fun filling entry =>
      shape.visit duplicate skip filling entry.1 entry.2) filling = .ok done) :
    good done.record := by
  induction entries generalizing filling with
  | nil =>
      cases isRead
      exact isGood
  | cons entry rest ih =>
      rw [List.foldlM_cons] at isRead
      obtain ⟨next, visited, isRead⟩ := bind_eq_ok_iff.mp isRead
      refine ih ?_ isRead
      rcases visit_cases visited with ⟨_, rfl⟩ | ⟨field, after, isField, _, entered, rfl⟩
      · exact isGood
      · exact keeps field (List.mem_of_find?_eq_some isField) isGood entered

/-- What every field keeps, filling the fields in order keeps. -/
theorem fillInOrder_keeps {short : Nat → ε} {position : Nat} {fields : List (Field ν ε ρ)}
    {values rest : List ν} {before after : ρ} (keeps : ∀ field ∈ fields, field.Keeps good)
    (isGood : good before)
    (isFilled : fillInOrder short position fields values before = .ok (after, rest)) :
    good after := by
  induction fields generalizing position values before with
  | nil =>
      cases isFilled
      exact isGood
  | cons field fields ih =>
      have othersKeep : ∀ other ∈ fields, other.Keeps good :=
        fun other member => keeps other (List.mem_cons_of_mem _ member)
      cases values with
      | nil =>
          unfold fillInOrder at isFilled
          split at isFilled
          · exact ih othersKeep isGood isFilled
          · cases isFilled
      | cons value values =>
          unfold fillInOrder at isFilled
          obtain ⟨between, entered, isFilled⟩ := bind_eq_ok_iff.mp isFilled
          exact ih othersKeep (keeps field List.mem_cons_self isGood entered) isFilled

end Keeps

/-- A record is finished when every field that has to be there was read. -/
theorem finish_eq_ok {shape : Record ν ε ρ} {missing : String → ε} {filling : Filling ρ}
    (present : ∀ field ∈ shape.fields, field.presence = .mandatory →
      field.key ∈ filling.filled) :
    shape.finish missing filling = .ok filling.record := by
  have noneMissing : (shape.fields.find? fun field =>
      field.presence = .mandatory ∧ filling.filled.contains field.key = false) = none := by
    refine List.find?_eq_none.mpr fun field member => ?_
    simpa using present field member
  simp only [finish, noneMissing]
  rfl

/-- A record that is finished lacks no field that must be there. -/
theorem finish_cases {shape : Record ν ε ρ} {missing : String → ε} {filling : Filling ρ}
    {record : ρ} (finished : shape.finish missing filling = .ok record) :
    filling.record = record ∧ ∀ field ∈ shape.fields, field.presence = .mandatory →
      field.key ∈ filling.filled := by
  unfold finish at finished
  split at finished
  · cases finished
  · rename_i noneMissing
    cases finished
    refine ⟨rfl, fun field member isMandatory => ?_⟩
    simpa [isMandatory] using List.find?_eq_none.mp noneMissing field member

end Record

end Onboarding
