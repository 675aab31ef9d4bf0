import Mathlib.Data.List.Forall2
import Onboarding.Json.Reading
import Onboarding.Proofs.Record

/-! # Reading what is written

A record is read back from an object in which every field stands under its key in the form
that the field's reader takes, whatever the order of the members
(`Onboarding.Json.Holds.read_object`). When the value of one member is exchanged, what is read
is the record with that value entered (`Onboarding.Json.Holds.setMember`); and so it is with a
member of a member, along a path of keys (`Onboarding.Json.assign`).
-/

namespace Onboarding

namespace Json

/-- The members of an object; all other values have none. -/
def members : Json → List (String × Json)
  | object members => members
  | null | bool _ | number _ | string _ | array _ => []

theorem member?_eq_lookup (json : Json) (key : String) :
    json.member? key = json.members.lookup key := by
  cases json <;> rfl

/-- The members with a value under a key, in the place of the one that was there or at the
end. -/
def setEntry (key : String) (value : Json) : List (String × Json) → List (String × Json)
  | [] => [(key, value)]
  | entry :: rest =>
    if key = entry.1 then (key, value) :: rest else entry :: setEntry key value rest

/-- The object with a value under a key. What is no object counts as an empty one. -/
def setMember (json : Json) (key : String) (value : Json) : Json :=
  object (setEntry key value json.members)

/-- The value with another one at the end of a path of keys. What is missing on the way, or is
no object, counts as an empty object. -/
def assign : Json → List String → Json → Json
  | _, [], value => value
  | json, key :: keys, value =>
    json.setMember key (assign ((json.member? key).getD null) keys value)

/-- The value at the end of a path of keys, which leads through objects only. -/
def at? : Json → List String → Option Json
  | json, [] => some json
  | json, key :: keys => (json.member? key).bind (at? · keys)

/-- Setting an entry changes what stands under its key, and nothing else. -/
theorem lookup_setEntry (key other : String) (value : Json) (entries : List (String × Json)) :
    (setEntry key value entries).lookup other =
      if other = key then some value else entries.lookup other := by
  induction entries with
  | nil => exact KeyMap.lookup_cons other (key, value) []
  | cons entry rest ih =>
      unfold setEntry
      split
      · rename_i isKey
        rw [KeyMap.lookup_cons, KeyMap.lookup_cons, ← isKey]
        by_cases same : other = key
        · rw [if_pos same, if_pos same]
        · rw [if_neg same, if_neg same, if_neg same]
      · rename_i notKey
        rw [KeyMap.lookup_cons, KeyMap.lookup_cons, ih]
        by_cases same : other = key
        · subst same
          rw [if_neg notKey, if_pos rfl, if_pos rfl]
        · rw [if_neg same, if_neg same]

/-- Setting an entry brings no other key than its own. -/
theorem mem_keys_setEntry {key other : String} {value : Json} {entries : List (String × Json)}
    (member : other ∈ (setEntry key value entries).map Prod.fst) :
    other = key ∨ other ∈ entries.map Prod.fst := by
  induction entries with
  | nil => exact .inl (List.mem_singleton.mp member)
  | cons entry rest ih =>
      unfold setEntry at member
      split at member
      · rcases List.mem_cons.mp member with here | there
        · exact .inl here
        · exact .inr (List.mem_cons_of_mem _ there)
      · rcases List.mem_cons.mp member with here | there
        · exact .inr (List.mem_cons.mpr (.inl here))
        · rcases ih there with isKey | inRest
          · exact .inl isKey
          · exact .inr (List.mem_cons_of_mem _ inRest)

/-- Setting an entry leaves the keys distinct. -/
theorem nodup_keys_setEntry (key : String) (value : Json) {entries : List (String × Json)}
    (distinct : (entries.map Prod.fst).Nodup) :
    ((setEntry key value entries).map Prod.fst).Nodup := by
  induction entries with
  | nil => exact List.pairwise_singleton _ _
  | cons entry rest ih =>
      obtain ⟨notInRest, restDistinct⟩ := List.nodup_cons.mp distinct
      unfold setEntry
      split
      · rename_i isKey
        exact List.nodup_cons.mpr ⟨isKey ▸ notInRest, restDistinct⟩
      · rename_i notKey
        refine List.nodup_cons.mpr ⟨fun member => ?_, ih restDistinct⟩
        rcases mem_keys_setEntry member with isKey | inRest
        · exact notKey isKey.symm
        · exact notInRest inRest

/-- Setting a member changes what stands under its key, and nothing else. -/
theorem member?_setMember (json : Json) (key other : String) (value : Json) :
    (json.setMember key value).member? other =
      if other = key then some value else json.member? other := by
  rw [member?_eq_lookup json]
  exact lookup_setEntry key other value json.members

section Parts

variable {α : Type} {key : String} {value : Option α} {write : α → Json}
  {entries others : List (String × Json)} {keys : List String}

/-- A member that may be left out stands under its key. -/
theorem lookup_optionalMember (key other : String) (value : Option α) (write : α → Json) :
    (optionalMember key value write).lookup other =
      if other = key then value.map write else none := by
  cases value with
  | none => exact (ite_self none).symm
  | some content => exact KeyMap.lookup_cons other (key, write content) []

theorem keys_optionalMember : ((optionalMember key value write).map Prod.fst).Sublist [key] := by
  cases value with
  | none => exact List.nil_sublist _
  | some content => exact List.Sublist.refl _

/-- Behind members whose keys come in some order, a member that may be left out comes last. -/
theorem keys_append_optionalMember (inOrder : (entries.map Prod.fst).Sublist keys) :
    ((entries ++ optionalMember key value write).map Prod.fst).Sublist (keys ++ [key]) := by
  rw [List.map_append]
  exact inOrder.append keys_optionalMember

theorem keys_append (inOrder : (entries.map Prod.fst).Sublist keys) :
    ((entries ++ others).map Prod.fst).Sublist (keys ++ others.map Prod.fst) := by
  rw [List.map_append]
  exact inOrder.append (List.Sublist.refl _)

end Parts

section Values

variable {α : Type} {read : Json → Except Misfit α} {write : α → Json}

/-- Items are read one by one, each for itself. -/
theorem mapM_eq_ok_iff {ι : Type} {readItem : ι → Except Misfit α} {items : List ι}
    {values : List α} :
    items.mapM readItem = .ok values ↔
      List.Forall₂ (fun item value => readItem item = .ok value) items values := by
  induction items generalizing values with
  | nil =>
      rw [List.forall₂_nil_left_iff]
      exact ⟨fun reads => (Except.ok.inj reads).symm, fun isNil => isNil ▸ rfl⟩
  | cons item items ih =>
      rw [List.mapM_cons, List.forall₂_cons_left_iff]
      constructor
      · intro reads
        obtain ⟨value, isRead, reads⟩ := bind_eq_ok_iff.mp reads
        obtain ⟨others, areRead, isValues⟩ := bind_eq_ok_iff.mp reads
        exact ⟨value, others, isRead, ih.mp areRead, (Except.ok.inj isValues).symm⟩
      · rintro ⟨value, others, isRead, areRead, rfl⟩
        rw [isRead, ih.mpr areRead]
        rfl

/-- A list is read back if its items are. -/
theorem readList_ofList {values : List α}
    (reads : ∀ value ∈ values, read (write value) = .ok value) :
    readList read (ofList values write) = .ok values :=
  mapM_eq_ok_iff.mpr (List.forall₂_map_left_iff.mpr (List.forall₂_same.mpr reads))

/-- Read the value of a member and keep the key. -/
def readMember (read : Json → Except Misfit α) (member : String × Json) :
    Except Misfit (String × α) := do
  let value ← read member.2
  return (member.1, value)

/-- A member is read by its value, and keeps its key. -/
theorem readMember_eq_ok_iff {member : String × Json} {entry : String × α} :
    readMember read member = .ok entry ↔ member.1 = entry.1 ∧ read member.2 = .ok entry.2 := by
  refine bind_eq_ok_iff.trans ⟨?_, ?_⟩
  · rintro ⟨value, isRead, ⟨⟩⟩
    exact ⟨rfl, isRead⟩
  · rintro ⟨sameKey, isRead⟩
    exact ⟨entry.2, isRead, congrArg Except.ok (Prod.ext sameKey rfl)⟩

/-- A map is read back if its values are. -/
theorem readMap_ofMap {map : KeyMap α}
    (reads : ∀ entry ∈ map.entries, read (write entry.2) = .ok entry.2) :
    readMap read (ofMap map write) = .ok map := by
  have areRead : (map.entries.map fun entry => (entry.1, write entry.2)).mapM (readMember read) =
      .ok map.entries := by
    refine mapM_eq_ok_iff.mpr (List.forall₂_map_left_iff.mpr (List.forall₂_same.mpr ?_))
    exact fun entry member => readMember_eq_ok_iff.mpr ⟨rfl, reads entry member⟩
  change (do
    let entries ← (map.entries.map fun entry => (entry.1, write entry.2)).mapM (readMember read)
    return KeyMap.ofList entries) = Except.ok map
  rw [areRead]
  exact congrArg Except.ok map.ofList_entries

end Values

section Fields

variable {ρ α : Type} {lookup : String → Option Json} {presence : Presence} {key : String}
  {record : ρ}

/-- A field takes the value that is written under its key. -/
theorem takes_written {read : Json → Except Misfit α} {set : ρ → α → ρ} (value : α)
    (written : Json) (isFound : lookup key = some written) (reads : read written = .ok value) :
    (Field.of presence key read set).Takes lookup record (set record value) :=
  .found isFound (Field.enter_of_eq_ok_iff.mpr ⟨value, reads, rfl⟩)

/-- A field takes the value that is written under its key, if there is one; otherwise the record
is right as it is, when the field is not set in it. -/
theorem takes_optional {read : Json → Except Misfit (Option α)} {set : ρ → Option α → ρ}
    (value : Option α) (write : α → Json) (isFound : lookup key = value.map write)
    (reads : ∀ content, value = some content → read (write content) = .ok (some content))
    (unset : set record none = record) :
    (Field.of presence key read set).Takes lookup record (set record value) := by
  cases value with
  | none =>
      rw [unset]
      exact .absent isFound
  | some content => exact takes_written (some content) _ isFound (reads content rfl)

end Fields

/-- A value whose members hold a record: the record is filled from what stands under the keys,
each of which occurs once, and nothing that has to be there is missing. -/
structure Holds {ρ : Type} (json : Json) (shape : Record Json Misfit ρ) (record : ρ) : Prop where
  distinct : (json.members.map Prod.fst).Nodup
  present : ∀ field ∈ shape.fields, field.presence = .mandatory →
    (json.member? field.key).isSome = true
  fills : Record.Fills json.member? shape.fields shape.blank record

namespace Holds

variable {ρ : Type} {json value : Json} {shape : Record Json Misfit ρ} {record after : ρ}
  {field : Field Json Misfit ρ}

/-- A record is read from an object that holds it. -/
theorem read_object {members : List (String × Json)} (lawful : shape.Lawful)
    (holds : (object members).Holds shape record) :
    readRecord shape (object members) = .ok record := by
  obtain ⟨filled, isRead, isFilled⟩ := holds.fills.visit lawful Misfit.duplicateField
    (fun _ => .ok ()) holds.distinct (fun _ _ => List.not_mem_nil) (fun _ _ => rfl)
  have isFinished : shape.finish .missingField ⟨record, filled⟩ = .ok record :=
    Record.finish_eq_ok fun field member isMandatory =>
      isFilled field member (.inr (holds.present field member isMandatory))
  simp only [readRecord, Record.start]
  rw [isRead]
  exact isFinished

/-- With another value under the key of a field, an object holds the record with that value
entered. -/
theorem setMember (lawful : shape.Lawful) (holds : json.Holds shape record)
    (member : field ∈ shape.fields) (entered : field.enter value record = .ok after) :
    (json.setMember field.key value).Holds shape after where
  distinct := nodup_keys_setEntry field.key value holds.distinct
  present other otherMember isMandatory := by
    rw [member?_setMember]
    split
    · rfl
    · exact holds.present other otherMember isMandatory
  fills := by
    have replaced := holds.fills.replaced lawful member entered
    exact replaced.congr fun other _ => (json.member?_setMember field.key other.key value).symm

section Assign

variable {α : Type} {presence : Presence} {read : Json → Except Misfit α} {set : ρ → α → ρ}
  {keys : List String} {content : α} (lawful : shape.Lawful) (holds : json.Holds shape record)
  (key : String) (isField : shape.field? key = some (Field.of presence key read set))
  (reads : read (((json.member? key).getD null).assign keys value) = .ok content)

include lawful holds isField reads

/-- After an assignment along a path of keys, an object holds the record with what is read from
the changed member entered. -/
theorem assign : (json.assign (key :: keys) value).Holds shape (set record content) :=
  holds.setMember lawful (lawful.field?_eq_some isField).1
    (Field.enter_of_eq_ok_iff.mpr ⟨content, reads, rfl⟩)

/-- After an assignment along a path of keys, the record is read with what the path leads
to entered. -/
theorem read_assign :
    readRecord shape (json.assign (key :: keys) value) = .ok (set record content) :=
  (holds.assign lawful key isField reads).read_object lawful

end Assign

end Holds

/-- An object none of whose members stands under a further key of a field is read as if the fields
had none. -/
theorem readRecord_withoutAliases {ρ : Type} {shape : Record Json Misfit ρ}
    {members : List (String × Json)}
    (unused : ∀ member ∈ members, ∀ field ∈ shape.fields, member.1 ∉ field.aliases) :
    readRecord shape.withoutAliases (object members) = readRecord shape (object members) := by
  have sameVisits (filling : Filling ρ) :
      members.foldlM (fun filling member => shape.withoutAliases.visit Misfit.duplicateField
        (fun _ => .ok ()) filling member.1 member.2) filling =
      members.foldlM (fun filling member => shape.visit Misfit.duplicateField
        (fun _ => .ok ()) filling member.1 member.2) filling := by
    induction members generalizing filling with
    | nil => rfl
    | cons member rest ih =>
        rw [List.foldlM_cons, List.foldlM_cons,
          Record.visit_withoutAliases (unused member List.mem_cons_self)]
        congr 1
        funext next
        exact ih (fun other isOther => unused other (List.mem_cons_of_mem _ isOther)) next
  have sameStart : shape.withoutAliases.start = shape.start := rfl
  simp only [readRecord, sameStart, sameVisits, Record.finish_withoutAliases]

end Json

end Onboarding
