import Onboarding.Proofs.Json.Reading

/-! # What a value was read from

What a reader takes, told from what it yields: lists and maps are read value by value
(`Onboarding.Json.mapM_eq_ok_iff`, `Onboarding.Json.readMap_eq_ok_iff`), and a record is held by
the object that it was read from (`Onboarding.Json.holds_of_read`). A property that the blank
record has and that every field keeps is a property of every record that is read, whatever it was
read from (`Onboarding.Json.yields_record`).
-/

namespace Onboarding

namespace Json

variable {α β ρ : Type} {read : Json → Except Misfit α}

/-! ## Maps -/

section Maps

variable {members : List (String × Json)} {entries : List (String × α)}

/-- Entries that are read from the members of an object, each with its key. -/
def AreRead (read : Json → Except Misfit α) :
    List (String × Json) → List (String × α) → Prop :=
  List.Forall₂ fun member entry => member.1 = entry.1 ∧ read member.2 = .ok entry.2

theorem AreRead.keys_eq (areRead : AreRead read members entries) :
    members.map Prod.fst = entries.map Prod.fst := by
  induction areRead with
  | nil => rfl
  | cons isRead _ ih => rw [List.map_cons, List.map_cons, isRead.1, ih]

/-- Under a key, an entry is read from what stands there. -/
theorem AreRead.lookup (areRead : AreRead read members entries) (key : String) :
    Option.Rel (fun json value => read json = .ok value) (members.lookup key)
      (entries.lookup key) := by
  induction areRead with
  | nil => exact .none
  | cons isRead _ ih =>
      obtain ⟨sameKey, isValue⟩ := isRead
      rw [KeyMap.lookup_cons, KeyMap.lookup_cons, ← sameKey]
      split
      · exact .some isValue
      · exact ih

/-- Entries are read if every value is. -/
theorem exists_areRead (reads : ∀ member ∈ members, ∃ value, read member.2 = .ok value) :
    ∃ entries, AreRead read members entries := by
  induction members with
  | nil => exact ⟨[], .nil⟩
  | cons member members ih =>
      obtain ⟨value, isRead⟩ := reads member List.mem_cons_self
      obtain ⟨entries, areRead⟩ := ih fun other isOther =>
        reads other (List.mem_cons_of_mem _ isOther)
      exact ⟨(member.1, value) :: entries, .cons ⟨rfl, isRead⟩ areRead⟩

/-- A map is read from an object if entries are, and has these. -/
theorem readMap_eq_ok_iff_exists {map : KeyMap α} :
    source.map read (object members) = .ok map ↔
      ∃ entries, AreRead read members entries ∧ KeyMap.ofList entries = map := by
  have areRead_iff (entries : List (String × α)) :
      members.mapM (readMember read) = .ok entries ↔ AreRead read members entries := by
    refine mapM_eq_ok_iff.trans ⟨fun reads => ?_, fun areRead => ?_⟩
    · exact reads.imp fun _ _ => readMember_eq_ok_iff.mp
    · exact areRead.imp fun _ _ => readMember_eq_ok_iff.mpr
  change (do
    let entries ← members.mapM (readMember read)
    return KeyMap.ofList entries) = Except.ok map ↔ _
  refine bind_eq_ok_iff.trans (exists_congr fun entries => ?_)
  exact and_congr (areRead_iff entries) (Except.ok.injEq _ _).to_iff

/-- A map is read from an object with one member for each key exactly if under every key it has
what is read there. -/
theorem readMap_eq_ok_iff (distinct : (members.map Prod.fst).Nodup) {map : KeyMap α} :
    source.map read (object members) = .ok map ↔
      ∀ key, Option.Rel (fun json value => read json = .ok value) (members.lookup key)
        (map.find? key) := by
  have holds {entries : List (String × α)} (areRead : AreRead read members entries)
      (key : String) : (KeyMap.ofList entries).find? key = entries.lookup key :=
    KeyMap.find?_ofList_of_distinct (areRead.keys_eq ▸ distinct) key
  rw [readMap_eq_ok_iff_exists]
  constructor
  · rintro ⟨entries, areRead, rfl⟩ key
    rw [holds areRead]
    exact areRead.lookup key
  · intro same
    have readable (member : String × Json) (isMember : member ∈ members) :
        ∃ value, read member.2 = .ok value := by
      have isSame := same member.1
      rw [KeyMap.lookup_of_mem distinct isMember] at isSame
      generalize map.find? member.1 = found at isSame
      cases isSame with
      | some isRead => exact ⟨_, isRead⟩
    obtain ⟨entries, areRead⟩ := exists_areRead readable
    refine ⟨entries, areRead, KeyMap.ext_find? fun key => ?_⟩
    have isSame := same key
    have isRead := areRead.lookup key
    rw [holds areRead]
    generalize members.lookup key = json at isSame isRead
    generalize map.find? key = value at isSame ⊢
    generalize entries.lookup key = other at isRead ⊢
    cases isSame with
    | none =>
        cases isRead
        rfl
    | some isSame =>
        cases isRead with
        | some isRead =>
            rw [isSame] at isRead
            exact congrArg some (Except.ok.inj isRead).symm

end Maps

/-! ## Named values -/

/-- A choice that is read from an object is the only key there, with null behind it. -/
theorem readChoice_object {choices : List (String × α)} {members : List (String × Json)} {value : α}
    (reads : source.choice choices (object members) = .ok value) :
    ∃ name, members = [(name, null)] := by
  rcases members with _ | ⟨⟨name, content⟩, _ | ⟨other, rest⟩⟩
  · cases reads
  · refine ⟨name, ?_⟩
    obtain ⟨_, _, isUnit⟩ := bind_eq_ok_iff.mp reads
    cases content with
    | null => rfl
    | bool _ | number _ | string _ | array _ | object _ => cases isUnit
  · cases reads

/-! ## Records -/

section Records

variable {shape : Record Json Misfit ρ} {record : ρ}

/-- An object with one member for each key that is read as a record holds it. -/
theorem holds_of_read (lawful : shape.Lawful) {members : List (String × Json)}
    (distinct : (members.map Prod.fst).Nodup)
    (reads : readRecord shape (object members) = .ok record) :
    (object members).Holds shape record := by
  obtain ⟨filling, visited, finished⟩ := bind_eq_ok_iff.mp reads
  obtain ⟨rfl, isFilled⟩ := Record.finish_cases finished
  obtain ⟨fills, isThere⟩ := lawful.fills_of_visit visited distinct
  refine ⟨distinct, fun field member isMandatory => ?_, fills⟩
  rcases isThere _ (isFilled field member isMandatory) with isOld | isFound
  · cases isOld
  · exact isFound

/-- A record is read from an array if its fields take all items in order. -/
theorem readRecord_array_iff {items : List Json} :
    readRecord shape (array items) = .ok record ↔
      Record.fillInOrder (fun length => .tooShort length shape.title shape.fields.length) 0
        shape.fields items shape.blank = .ok (record, []) := by
  simp only [readRecord]
  generalize Record.fillInOrder _ 0 shape.fields items shape.blank = result
  rcases result with _ | ⟨after, _ | ⟨other, rest⟩⟩
  · constructor <;> intro reads <;> cases reads
  · constructor
    · rintro ⟨⟩
      rfl
    · rintro ⟨⟩
      rfl
  · constructor <;> intro reads <;> cases reads

end Records

/-! ## What is read, whatever it is read from -/

section Yields

variable {good : α → Prop} {goodRecord : ρ → Prop} {shape : Record Json Misfit ρ}

/-- Whatever a reader yields has a property. -/
def Yields (read : Json → Except Misfit α) (good : α → Prop) : Prop :=
  ∀ ⦃json value⦄, read json = .ok value → good value

/-- What may be left out has the property if it is there. -/
theorem yields_optional (yields : Yields read good) :
    Yields (source.optional read) fun value => ∀ content, value = some content → good content := by
  intro json value reads content isContent
  subst isContent
  have present (isMapped : (read json).map some = .ok (some content)) : good content := by
    obtain ⟨other, isRead, isOther⟩ := map_eq_ok_iff.mp isMapped
    exact Option.some.inj isOther ▸ yields isRead
  cases json with
  | null => cases reads
  | bool _ | number _ | string _ | array _ | object _ => exact present reads

/-- The items of a list have the property. -/
theorem yields_list (yields : Yields read good) :
    Yields (source.list read) fun values => ∀ value ∈ values, good value := by
  intro json values reads
  cases json with
  | array items =>
      have areRead := mapM_eq_ok_iff.mp reads
      clear reads
      induction areRead with
      | nil => exact fun value member => absurd member List.not_mem_nil
      | cons isRead _ ih =>
          intro value member
          rcases List.mem_cons.mp member with rfl | inRest
          · exact yields isRead
          · exact ih value inRest
  | null | bool _ | number _ | string _ | object _ => cases reads

/-- What the blank record is, and every field keeps, every record is that is read. -/
theorem yields_record (blank : goodRecord shape.blank)
    (keeps : ∀ field ∈ shape.fields, field.Keeps goodRecord) :
    Yields (source.record shape) goodRecord := by
  intro json record reads
  cases json with
  | array items => exact Record.fillInOrder_keeps keeps blank (readRecord_array_iff.mp reads)
  | object members =>
      obtain ⟨filling, visited, finished⟩ := bind_eq_ok_iff.mp reads
      exact (Record.finish_cases finished).1 ▸ Record.visit_keeps keeps blank visited
  | null | bool _ | number _ | string _ => cases reads

end Yields

end Json

end Onboarding
