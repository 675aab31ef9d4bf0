import Onboarding.Proofs.Json.Inversion

/-! # The order of members

The members of an object are a set: values that differ in nothing but the order of members, at
whatever depth, are the same (`Onboarding.Json.Rearranged`). A reader that takes one of them
takes the other and reads the same from it (`Onboarding.Json.IgnoresOrder`). Every way of reading
a part hands this on to the whole, and so does a record, although its members are visited in
their order (`Onboarding.Json.ignoresOrder_record`).
-/

namespace Onboarding

/-- What is found under the keys of the fields may be exchanged for anything that is entered in
the same way. -/
theorem Record.Fills.exchange {ν ε ρ : Type} {lookup other : String → Option ν}
    {fields : List (Field ν ε ρ)} {before after : ρ}
    (same : ∀ field ∈ fields,
      Option.Rel (fun value otherValue => ∀ before after, field.enter value before = .ok after →
        field.enter otherValue before = .ok after) (lookup field.key) (other field.key))
    (fills : Fills lookup fields before after) : Fills other fields before after := by
  induction fills with
  | nil => exact .nil
  | cons first _ ih =>
      refine .cons ?_ (ih fun field member => same field (List.mem_cons_of_mem _ member))
      have sameHere := same _ List.mem_cons_self
      cases first with
      | found isFound entered =>
          rw [isFound] at sameHere
          generalize isOther : other _ = found at sameHere
          cases sameHere with
          | some enters => exact .found isOther (enters _ _ entered)
      | absent isAbsent =>
          rw [isAbsent] at sameHere
          generalize isOther : other _ = found at sameHere
          cases sameHere with
          | none => exact .absent isOther

namespace Json

/-- A value with the members of its objects in another order, at any depth. An object with
several members of one key has no other order. -/
inductive Rearranged : Json → Json → Prop
  | refl (json : Json) : Rearranged json json
  | array {left right : List Json} (items : List.Forall₂ Rearranged left right) :
      Rearranged (array left) (array right)
  | object {left right : List (String × Json)} (leftDistinct : (left.map Prod.fst).Nodup)
      (rightDistinct : (right.map Prod.fst).Nodup)
      (values : ∀ key, Option.Rel Rearranged (left.lookup key) (right.lookup key)) :
      Rearranged (object left) (object right)

/-- The members of an object may be put in any other order. -/
theorem rearranged_of_perm {left right : List (String × Json)}
    (distinct : (left.map Prod.fst).Nodup) (same : left.Perm right) :
    (object left).Rearranged (object right) := by
  refine .object distinct ((same.map Prod.fst).nodup_iff.mp distinct) fun key => ?_
  rw [KeyMap.lookup_perm distinct same key]
  cases right.lookup key with
  | none => exact .none
  | some value => exact .some (.refl value)

/-- What an object with one member for each key is rearranged to is an object with the same values
under its keys. -/
theorem Rearranged.exists_members {left : List (String × Json)} {written : Json}
    (distinct : (left.map Prod.fst).Nodup) (rearranged : (Json.object left).Rearranged written) :
    ∃ right, written = Json.object right ∧ (right.map Prod.fst).Nodup ∧
      ∀ key, Option.Rel Rearranged (left.lookup key) (right.lookup key) := by
  cases rearranged with
  | object _ rightDistinct values => exact ⟨_, rfl, rightDistinct, values⟩
  | refl =>
      refine ⟨left, rfl, distinct, fun key => ?_⟩
      cases left.lookup key with
      | none => exact .none
      | some value => exact .some (.refl value)

/-- What is read from a value is read from every rearrangement of it. -/
def IgnoresOrder {α : Type} (read : Json → Except Misfit α) : Prop :=
  ∀ ⦃left right value⦄, left.Rearranged right → read left = .ok value → read right = .ok value

end Json

/-- What is entered from a value is entered from every rearrangement of it. -/
def Field.IgnoresOrder {ρ : Type} (field : Field Json Json.Misfit ρ) : Prop :=
  ∀ ⦃left right before after⦄, left.Rearranged right → field.enter left before = .ok after →
    field.enter right before = .ok after

namespace Json

variable {α β ρ : Type} {read : Json → Except Misfit α}

/-- A field ignores order if what it reads does. -/
@[simp] theorem ignoresOrder_field {presence : Presence} {key : String} {set : ρ → α → ρ}
    (ignores : IgnoresOrder read) : (Field.of presence key read set).IgnoresOrder := by
  intro left right before after rearranged entered
  obtain ⟨content, reads, isAfter⟩ := Field.enter_of_eq_ok_iff.mp entered
  exact Field.enter_of_eq_ok_iff.mpr ⟨content, ignores rearranged reads, isAfter⟩

/-! ## Texts, flags and what may be absent -/

/-- A reader that takes neither arrays nor objects has no members to look at. -/
theorem ignoresOrder_of_atomic (notArray : ∀ items value, read (array items) ≠ .ok value)
    (notObject : ∀ members value, read (object members) ≠ .ok value) : IgnoresOrder read := by
  intro left right value rearranged reads
  cases rearranged with
  | refl => exact reads
  | array _ => exact absurd reads (notArray _ _)
  | object _ _ _ => exact absurd reads (notObject _ _)

/-- A text has no order. -/
@[simp] theorem ignoresOrder_text : IgnoresOrder source.text :=
  ignoresOrder_of_atomic (fun _ _ reads => by cases reads) fun _ _ reads => by cases reads

@[simp] theorem ignoresOrder_flag : IgnoresOrder source.flag :=
  ignoresOrder_of_atomic (fun _ _ reads => by cases reads) fun _ _ reads => by cases reads

/-- What is made of a value that ignores order does so. -/
theorem ignoresOrder_mapped (ignores : IgnoresOrder read) (f : α → β) :
    IgnoresOrder fun json => (read json).map f := by
  intro left right value rearranged reads
  obtain ⟨content, isRead, isMapped⟩ := map_eq_ok_iff.mp reads
  exact map_eq_ok_iff.mpr ⟨content, ignores rearranged isRead, isMapped⟩

/-- What may be left out ignores order if what may be there does. -/
@[simp] theorem ignoresOrder_optional (ignores : IgnoresOrder read) :
    IgnoresOrder (source.optional read) := by
  intro left right value rearranged reads
  have present : (read left).map some = .ok value → (read right).map some = .ok value :=
    fun isRead => ignoresOrder_mapped ignores some rearranged isRead
  cases rearranged with
  | refl => exact reads
  | array _ => exact present reads
  | object _ _ _ => exact present reads

/-! ## Lists -/

/-- A list keeps its own order and ignores that of the members of its items. -/
@[simp] theorem ignoresOrder_list (ignores : IgnoresOrder read) :
    IgnoresOrder (source.list read) := by
  intro left right values rearranged reads
  cases rearranged with
  | refl => exact reads
  | object _ _ _ => cases reads
  | array items =>
      have areRead := mapM_eq_ok_iff.mp reads
      refine mapM_eq_ok_iff.mpr ?_
      clear reads
      induction items generalizing values with
      | nil => exact areRead
      | cons item _ ih =>
          cases areRead with
          | cons isRead others => exact .cons (ignores item isRead) (ih others)

/-! ## Maps -/

/-- A map ignores the order of its members, and of theirs. -/
@[simp] theorem ignoresOrder_map (ignores : IgnoresOrder read) : IgnoresOrder (source.map read) := by
  intro left right map rearranged reads
  cases rearranged with
  | refl => exact reads
  | array _ => cases reads
  | object leftDistinct rightDistinct values =>
      refine (readMap_eq_ok_iff rightDistinct).mpr fun key => ?_
      have isRead := (readMap_eq_ok_iff leftDistinct).mp reads key
      have same := values key
      generalize map.find? key = found at isRead ⊢
      generalize List.lookup key _ = value at isRead same
      generalize List.lookup key _ = other at same ⊢
      cases same with
      | none => exact isRead
      | some same =>
          cases isRead with
          | some isRead => exact .some (ignores same isRead)

/-! ## Named values -/

/-- A single member stays alone when members are put in another order. -/
theorem Rearranged.eq_of_single {name : String} {right : List (String × Json)}
    (rightDistinct : (right.map Prod.fst).Nodup)
    (values : ∀ key, Option.Rel Rearranged ([(name, null)].lookup key) (right.lookup key)) :
    right = [(name, null)] := by
  have isSingle (member : String × Json) (isMember : member ∈ right) : member = (name, null) := by
    have same := values member.1
    rw [KeyMap.lookup_of_mem rightDistinct isMember, KeyMap.lookup_cons] at same
    split at same
    · rename_i isName
      obtain ⟨key, value⟩ := member
      cases same with
      | some same =>
          cases same with
          | refl => exact Prod.ext isName rfl
    · cases same
  rcases right with _ | ⟨first, _ | ⟨second, rest⟩⟩
  · have same := values name
    rw [KeyMap.lookup_cons, if_pos rfl] at same
    cases same
  · rw [isSingle first List.mem_cons_self]
  · rw [isSingle first List.mem_cons_self,
      isSingle second (List.mem_cons_of_mem _ List.mem_cons_self)] at rightDistinct
    exact absurd List.mem_cons_self (List.nodup_cons.mp rightDistinct).1

/-- A choice is told by a name, or by the only key of an object. -/
@[simp] theorem ignoresOrder_choice (choices : List (String × α)) :
    IgnoresOrder (source.choice choices) := by
  intro left right value rearranged reads
  cases rearranged with
  | refl => exact reads
  | array _ => cases reads
  | object leftDistinct rightDistinct values =>
      obtain ⟨name, rfl⟩ := readChoice_object reads
      rw [Rearranged.eq_of_single rightDistinct values]
      exact reads

/-! ## Records -/

section Records

variable {shape : Record Json Misfit ρ} {record : ρ}

/-- A rearranged object holds the same record. -/
theorem Holds.rearranged {left right : List (String × Json)}
    (ignores : ∀ field ∈ shape.fields, field.IgnoresOrder)
    (rightDistinct : (right.map Prod.fst).Nodup)
    (values : ∀ key, Option.Rel Rearranged (left.lookup key) (right.lookup key))
    (holds : (object left).Holds shape record) : (object right).Holds shape record where
  distinct := rightDistinct
  present field member isMandatory := by
    have isThere := holds.present field member isMandatory
    have same := values field.key
    simp only [member?] at isThere ⊢
    generalize left.lookup field.key = value at isThere same
    generalize right.lookup field.key = other at same ⊢
    cases same with
    | none => cases isThere
    | some _ => rfl
  fills := holds.fills.exchange fun field member => by
    have same := values field.key
    simp only [member?]
    generalize left.lookup field.key = value at same ⊢
    generalize right.lookup field.key = other at same ⊢
    cases same with
    | none => exact .none
    | some same => exact .some fun _ _ entered => ignores field member same entered

/-- Values that fill a record in their order fill the same one when each of them is
rearranged. -/
theorem fillInOrder_rearranged {short : Nat → Misfit} {position : Nat}
    {fields : List (Field Json Misfit ρ)} {values others rest : List Json} {before after : ρ}
    (ignores : ∀ field ∈ fields, field.IgnoresOrder)
    (rearranged : List.Forall₂ Rearranged values others)
    (reads : Record.fillInOrder short position fields values before = .ok (after, rest)) :
    ∃ otherRest, Record.fillInOrder short position fields others before = .ok (after, otherRest) ∧
      List.Forall₂ Rearranged rest otherRest := by
  induction fields generalizing position values others before with
  | nil =>
      cases reads
      exact ⟨others, rfl, rearranged⟩
  | cons field fields ih =>
      have ignoresOthers : ∀ other ∈ fields, other.IgnoresOrder :=
        fun other member => ignores other (List.mem_cons_of_mem _ member)
      cases rearranged with
      | nil =>
          unfold Record.fillInOrder at reads ⊢
          split at reads
          · rename_i isDefaulted
            rw [if_pos isDefaulted]
            exact ih ignoresOthers .nil reads
          · cases reads
      | @cons value other _ _ same rearranged =>
          unfold Record.fillInOrder at reads ⊢
          obtain ⟨between, entered, reads⟩ := bind_eq_ok_iff.mp reads
          rw [ignores field List.mem_cons_self same entered]
          exact ih ignoresOthers rearranged reads

/-- A record does not depend on the order of members, if none of its fields does. -/
theorem ignoresOrder_record (lawful : shape.Lawful)
    (ignores : ∀ field ∈ shape.fields, field.IgnoresOrder) : IgnoresOrder (source.record shape) := by
  intro left right record rearranged reads
  cases rearranged with
  | refl => exact reads
  | object leftDistinct rightDistinct values =>
      exact ((holds_of_read lawful leftDistinct reads).rearranged ignores rightDistinct
        values).read_object lawful
  | array items =>
      obtain ⟨_, isFilled, same⟩ :=
        fillInOrder_rearranged ignores items (readRecord_array_iff.mp reads)
      cases same
      exact readRecord_array_iff.mpr isFilled

end Records

end Json

end Onboarding
