import Onboarding.Verdict
import Onboarding.Proofs.Document.Wire

/-! # What is asked and answered is what arrives

The service is asked about the document that was meant: an inquiry that is written and read again
keeps its scope and its data, and its data keep the document, whatever stands beside it and even if
something else claims its place. The verdict arrives with everything that it has to tell
(`Onboarding.wire_forms_are_read_back`).
-/

namespace Onboarding

open Json

/-- A part of the document is read back from its name. -/
theorem Scope.read_toJson (scope : Scope) : read Json.source scope.toJson = .ok scope := by
  cases scope <;> rfl

namespace Inquiry

/-- An inquiry is about a document in a scope if what its data have in the place of the document is
read as that document. -/
def Asks (inquiry : Inquiry) (scope : Scope) (document : Document) : Prop :=
  inquiry.scope = scope ∧
    ∃ config, inquiry.data.find? "config" = some config ∧ Document.ofJson? config = .ok document

/-- The two fields of an inquiry can be entered in any order. -/
theorem lawful_shape : shape.Lawful := by
  constructor <;> simp [shape]

/-- In the data of an inquiry the document has its place, and all else is as it was given. -/
theorem find?_about (scope : Scope) (document : Document) (extra : KeyMap Json) (key : String) :
    (about scope document extra).data.find? key =
      if key = "config" then some document.toJson else extra.find? key :=
  KeyMap.find?_insert extra "config" key document.toJson

/-- An inquiry is read from any object that has its scope and, as an object, its data. -/
theorem ofJson?_object {members entries : List (String × Json)} {inquiry : Inquiry}
    (distinct : (members.map Prod.fst).Nodup)
    (scopeFound : members.lookup "validation_type" = some inquiry.scope.toJson)
    (dataFound : members.lookup "data" = some (.object entries))
    (entriesDistinct : (entries.map Prod.fst).Nodup)
    (sameData : ∀ key, entries.lookup key = inquiry.data.find? key) :
    ofJson? (.object members) = .ok inquiry := by
  have reads : Json.source.map .ok (.object entries) = .ok inquiry.data := by
    refine (readMap_eq_ok_iff entriesDistinct).mpr fun key => ?_
    rw [sameData]
    cases inquiry.data.find? key with
    | none => exact .none
    | some value => exact .some rfl
  have holds : (Json.object members).Holds shape inquiry :=
    { distinct
      present := by
        simp only [shape, Field.mandatory_eq, List.forall_mem_cons, Field.key_of, member?,
          scopeFound, dataFound, Option.isSome_some, implies_true, true_and]
        exact fun _ member => absurd member List.not_mem_nil
      fills :=
        .cons (takes_written inquiry.scope _ scopeFound inquiry.scope.read_toJson) <|
        .cons (takes_written inquiry.data _ dataFound reads) .nil }
  exact holds.read_object lawful_shape

/-- An inquiry is read back. -/
theorem ofJson?_toJson (inquiry : Inquiry) : ofJson? inquiry.toJson = .ok inquiry := by
  have dataFound : inquiry.toJson.members.lookup "data" = some (.object inquiry.data.entries) := by
    simp [toJson, members, ofMap, List.lookup_cons]
  exact ofJson?_object (by simp) rfl dataFound inquiry.data.keys_nodup fun _ => rfl

/-- An inquiry whose members are put in another order is read as one with the same scope and the
same data, up to their order. -/
theorem read_rearranged {inquiry : Inquiry} {written : Json}
    (rearranged : inquiry.toJson.Rearranged written) :
    ∃ again, ofJson? written = .ok again ∧ again.scope = inquiry.scope ∧
      ∀ key, Option.Rel Rearranged (inquiry.data.find? key) (again.data.find? key) := by
  obtain ⟨members, rfl, distinct, values⟩ := rearranged.exists_members (by simp)
  have scopeFound : members.lookup "validation_type" = some inquiry.scope.toJson := by
    have same := values "validation_type"
    generalize members.lookup "validation_type" = found at same ⊢
    cases same with
    | some same =>
        cases same with
        | refl => rfl
  obtain ⟨content, dataFound, sameData⟩ : ∃ content, members.lookup "data" = some content ∧
      (ofMap inquiry.data id).Rearranged content := by
    have same := values "data"
    generalize members.lookup "data" = found at same ⊢
    cases same with
    | some same => exact ⟨_, rfl, same⟩
  have sameMap : (inquiry.data.entries.map fun entry => (entry.1, id entry.2)) =
      inquiry.data.entries := List.map_id _
  obtain ⟨entries, rfl, entriesDistinct, sameEntries⟩ := sameData.exists_members (by
    rw [sameMap]
    exact inquiry.data.keys_nodup)
  refine ⟨⟨inquiry.scope, KeyMap.ofList entries⟩, ?_, rfl, fun key => ?_⟩
  · exact ofJson?_object distinct scopeFound dataFound entriesDistinct fun key =>
      (KeyMap.find?_ofList_of_distinct entriesDistinct key).symm
  · rw [KeyMap.find?_ofList_of_distinct entriesDistinct]
    have sameKey := sameEntries key
    rwa [sameMap] at sameKey

end Inquiry

/-- The fields of a finding can be entered in any order. -/
theorem Finding.lawful_shape {ν ε : Type} (source : Source ν ε) : (shape source).Lawful := by
  constructor <;> simp [shape]

namespace Finding

/-- What is written of a finding holds it. -/
theorem holds_toJson (finding : Finding) : finding.toJson.Holds (shape Json.source) finding where
  distinct := by
    have inOrder : (finding.toJson.members.map Prod.fst).Sublist
        (["key"] ++ ["field"] ++ ["message"]) :=
      keys_append <| keys_append_optionalMember <| List.Sublist.refl _
    exact inOrder.nodup (by simp)
  present := by
    simp [shape, toJson, member?, lookup_optionalMember, List.lookup_append, List.lookup_cons]
  fills := by
    refine
      .cons (takes_written finding.key (.string finding.key) ?_ rfl) <|
      .cons (takes_optional finding.field .string ?_ (fun _ _ => rfl) rfl) <|
      .cons (takes_written finding.message (.string finding.message) ?_ rfl) .nil
    all_goals
      simp [toJson, member?, lookup_optionalMember, List.lookup_append, List.lookup_cons]

theorem read_toJson (finding : Finding) : read Json.source finding.toJson = .ok finding :=
  finding.holds_toJson.read_object (lawful_shape Json.source)

/-- A finding is read in any order of its members. -/
@[simp] theorem ignoresOrder_read : IgnoresOrder (read Json.source) :=
  ignoresOrder_record (lawful_shape _) (by simp [shape])

end Finding

namespace Verdict

/-- Under their first keys, the fields of a verdict are read in any order. -/
theorem lawful_withoutAliases {ν ε : Type} (source : Source ν ε) :
    (shape source).withoutAliases.Lawful := by
  constructor <;> simp [Record.withoutAliases, shape]

/-- What is written of a verdict holds it, under the first key of the summary. -/
theorem holds_toJson (verdict : Verdict) :
    verdict.toJson.Holds (shape Json.source).withoutAliases verdict where
  distinct := by
    have inOrder : (verdict.toJson.members.map Prod.fst).Sublist
        (["valid"] ++ ["errors"] ++ ["errorMessage"]) :=
      keys_append_optionalMember <| keys_append_optionalMember <| List.Sublist.refl _
    exact inOrder.nodup (by simp)
  present := by simp [Record.withoutAliases, shape]
  fills := by
    have findings (content : List Finding) (_ : verdict.findings = some content) :
        Json.source.optional (Json.source.list (Finding.read Json.source))
          (Json.ofList content Finding.toJson) = .ok (some content) :=
      congrArg (Except.map some) (readList_ofList fun finding _ => finding.read_toJson)
    refine
      .cons (takes_written verdict.valid (.bool verdict.valid) ?_ rfl) <|
      .cons (takes_optional verdict.findings (Json.ofList · Finding.toJson) ?_ findings rfl) <|
      .cons (takes_optional verdict.summary .string ?_ (fun _ _ => rfl) rfl) .nil
    all_goals
      simp [toJson, member?, lookup_optionalMember, List.lookup_append, List.lookup_cons]

/-- The further key of the summary is never written. -/
theorem lookup_message (verdict : Verdict) : verdict.toJson.members.lookup "message" = none := by
  simp [toJson, Json.members, lookup_optionalMember, List.lookup_append, List.lookup_cons]

/-- A verdict is read back from what is written of it, whatever the order of the members. -/
theorem read_rearranged {verdict : Verdict} {written : Json}
    (rearranged : verdict.toJson.Rearranged written) : ofJson? written = .ok verdict := by
  have holds := verdict.holds_toJson
  obtain ⟨members, rfl, distinct, values⟩ := rearranged.exists_members holds.distinct
  have ignores : ∀ field ∈ (shape Json.source).withoutAliases.fields, field.IgnoresOrder := by
    have findings : IgnoresOrder
        (Json.source.optional (Json.source.list (Finding.read Json.source))) :=
      ignoresOrder_optional (ignoresOrder_list Finding.ignoresOrder_read)
    simp [Record.withoutAliases, shape, findings]
  have holdsRearranged := holds.rearranged ignores distinct values
  have unused : ∀ member ∈ members, ∀ field ∈ (shape Json.source).fields,
      member.1 ∉ field.aliases := by
    have notThere : members.lookup "message" = none := by
      have same := values "message"
      rw [verdict.lookup_message] at same
      generalize members.lookup "message" = found at same ⊢
      cases same with
      | none => rfl
    have notMessage (member : String × Json) (isMember : member ∈ members) :
        member.1 ≠ "message" := by
      intro isMessage
      have isThere := KeyMap.lookup_of_mem distinct isMember
      rw [isMessage, notThere] at isThere
      cases isThere
    simpa [shape] using fun key value isMember isMessage =>
      notMessage (key, value) isMember isMessage
  change readRecord (shape Json.source) (.object members) = .ok verdict
  rw [← readRecord_withoutAliases unused]
  exact holdsRearranged.read_object (lawful_withoutAliases Json.source)

end Verdict

/-! ## To the service and back -/

/-- Documents, inquiries and verdicts are read back from what is written of them, whatever the order
of the members. Whatever stands beside a document, even in its place, the inquiry is about this
document when it is made and when it arrives, and has all the rest of the data and no more. -/
theorem wire_forms_are_read_back :
    (∀ (document : Document) written, document.toJson.Rearranged written →
      Document.ofJson? written = .ok document) ∧
    (∀ scope (document : Document) (extra : KeyMap Json),
      let inquiry := Inquiry.about scope document extra
      inquiry.Asks scope document ∧
      (∀ key, key ≠ "config" → inquiry.data.find? key = extra.find? key) ∧
      ∀ written, inquiry.toJson.Rearranged written →
        ∃ again, Inquiry.ofJson? written = .ok again ∧ again.Asks scope document) ∧
    (∀ inquiry : Inquiry, Inquiry.ofJson? inquiry.toJson = .ok inquiry ∧
      ∀ written, inquiry.toJson.Rearranged written →
        ∃ again, Inquiry.ofJson? written = .ok again ∧ again.scope = inquiry.scope ∧
          ∀ key, Option.Rel Rearranged (inquiry.data.find? key) (again.data.find? key)) ∧
    ∀ (verdict : Verdict) written, verdict.toJson.Rearranged written →
      ∃ again, Verdict.ofJson? written = .ok again ∧ again = verdict ∧
        again.messages = verdict.messages := by
  refine ⟨fun document written => Document.read_rearranged, ?_, ?_, ?_⟩
  · intro scope document extra inquiry
    have isDocument : inquiry.data.find? "config" = some document.toJson :=
      (Inquiry.find?_about scope document extra "config").trans (if_pos rfl)
    refine ⟨⟨rfl, _, isDocument, Document.read_rearranged (.refl _)⟩, fun key notDocument => ?_,
      fun written rearranged => ?_⟩
    · exact (Inquiry.find?_about scope document extra key).trans (if_neg notDocument)
    · obtain ⟨again, reads, sameScope, sameData⟩ := Inquiry.read_rearranged rearranged
      have config := sameData "config"
      rw [isDocument] at config
      generalize isFound : again.data.find? "config" = found at config
      cases config with
      | some same => exact ⟨again, reads, sameScope, _, isFound, Document.read_rearranged same⟩
  · exact fun inquiry => ⟨inquiry.ofJson?_toJson, fun written => Inquiry.read_rearranged⟩
  · exact fun verdict written rearranged =>
      ⟨verdict, Verdict.read_rearranged rearranged, rfl, rfl⟩

/-- The inquiry about a document with an empty environment and no bundle section, beside data that
claim its place, read from behind. -/
theorem wire_forms_are_read_back_sample :
    let document : Document := { Document.blank with
      org := "acme"
      customJobs := [⟨"e2e", "make e2e", "", none, false, some .empty, none⟩] }
    let extra : KeyMap Json := .ofList [("config", .null), ("substitution", .string "quay.io")]
    let inquiry := Inquiry.about .tests document extra
    let written : Json := .object inquiry.toJson.members.reverse
    inquiry.toJson.Rearranged written ∧
      (∃ again, Inquiry.ofJson? written = .ok again ∧ again.Asks .tests document) ∧
      inquiry.data.find? "substitution" = some (.string "quay.io") := by
  intro document extra inquiry written
  have rearranged : inquiry.toJson.Rearranged written :=
    rearranged_of_perm (by simp) (List.reverse_perm _).symm
  obtain ⟨_, kept, arrives⟩ := wire_forms_are_read_back.2.1 .tests document extra
  exact ⟨rearranged, arrives written rearranged, (kept "substitution" (by decide)).trans rfl⟩

end Onboarding
