import Onboarding.Proofs.Url.Target

/-! # URLs, read back

A URL that was read is settled: its scheme is in lower case, its parts are encoded, and none of them
holds a mark that would end it (`Onboarding.Url.isSettled_of_ofChars`). A settled URL is read from
the text it is written as (`Onboarding.Url.IsSettled.ofChars_write`), and nothing in that text is
dropped. So the text of a URL that was read stands for that URL.
-/

namespace Onboarding.Url

/-- The rules of the scheme of a URL. -/
def kind (url : Url) : SchemeKind :=
  .ofScheme url.scheme

/-- The characters that are encoded in the query of a URL. -/
def inQueryOf (kind : SchemeKind) : Char → Bool :=
  if kind = .general then Percent.inQuery else Percent.inSpecialQuery

/-- A URL as it is read. -/
structure IsSettled (url : Url) : Prop where
  scheme : IsScheme url.scheme
  target : url.target.IsSettled url.kind
  query : ∀ query ∈ url.query, Percent.IsDone (inQueryOf url.kind) query
  fragment : ∀ fragment ∈ url.fragment, Percent.IsDone Percent.inFragment fragment

/-- Behind a scheme, a URL is read part by part. -/
theorem ofChars_eq {chars scheme rest : List Char}
    (isRead : readScheme? chars = some (scheme, rest)) :
    ofChars chars =
      (readTarget (.ofScheme scheme) (splitFirst '?' (splitFirst '#' rest).1).1).map fun target =>
        ⟨scheme, target, (splitFirst '?' (splitFirst '#' rest).1).2.map
          (Percent.encode (inQueryOf (.ofScheme scheme))),
          (splitFirst '#' rest).2.map (Percent.encode Percent.inFragment)⟩ := by
  simp only [ofChars, isRead]
  rfl

/-- What the query of a special URL keeps is kept in every query. -/
theorem inQueryOf_eq_false {kind : SchemeKind} {c : Char}
    (plain : Percent.inSpecialQuery c = false) : inQueryOf kind c = false := by
  unfold inQueryOf
  split
  · exact (Bool.or_eq_false_iff.mp plain).1
  · exact plain

theorem inQueryOf_stands (kind : SchemeKind) (c : Char)
    (isEncoded : Percent.isEncodedChar c = true) : inQueryOf kind c = false :=
  inQueryOf_eq_false (Percent.encodedChar_stands isEncoded).2.2.2.1

theorem not_mem_splitFirst_of_not_mem {mark c : Char} {text : List Char} (absent : c ∉ text) :
    c ∉ (splitFirst mark text).1 := by
  unfold splitFirst
  split
  · exact absent
  · exact fun member => absent ((List.takeWhile_prefix _).subset member)

/-- What is read is settled. -/
theorem isSettled_of_ofChars {chars : List Char} {url : Url} (isRead : ofChars chars = .ok url) :
    url.IsSettled := by
  cases found : readScheme? chars with
  | none =>
      simp only [ofChars, found] at isRead
      cases isRead
  | some parts =>
      obtain ⟨scheme, rest⟩ := parts
      rw [ofChars_eq found] at isRead
      obtain ⟨target, isTarget, rfl⟩ := map_eq_ok_iff.mp isRead
      refine ⟨isScheme_of_readScheme? found, UrlTarget.isSettled_of_readTarget ⟨?_, ?_⟩ isTarget,
        fun query isQuery => ?_, fun fragment isFragment => ?_⟩
      · exact not_mem_splitFirst_of_not_mem (not_mem_splitFirst '#' rest)
      · exact not_mem_splitFirst '?' _
      · obtain ⟨source, _, rfl⟩ := Option.map_eq_some_iff.mp isQuery
        exact Percent.isDone_encode (inQueryOf_stands _) source
      · obtain ⟨source, _, rfl⟩ := Option.map_eq_some_iff.mp isFragment
        exact Percent.isDone_encode (fun _ isEncoded => (Percent.encodedChar_stands isEncoded).2.1) _

/-- The marks of query and fragment do not occur in front of these. -/
theorem IsSettled.not_mem_write {url : Url} (settled : url.IsSettled) :
    '?' ∉ url.target.write ∧ '#' ∉ url.target.write ++ writePart '?' url.query := by
  have unbroken := settled.target.unbroken
  refine ⟨fun member => absurd (unbroken '?' member).1 (by decide), fun member => ?_⟩
  rcases List.mem_append.mp member with inTarget | inQuery
  · exact absurd (unbroken '#' inTarget).1 (by decide)
  · cases given : url.query with
    | none => simp [given, writePart] at inQuery
    | some query =>
        rw [given, writePart, List.mem_cons] at inQuery
        rcases inQuery with isMark | inQuery
        · exact absurd isMark (by decide)
        · have done := (settled.query query given '#' inQuery).1
          unfold inQueryOf at done
          split at done <;> exact absurd done (by decide)

theorem map_encode_of_done {encoded : Char → Bool} {part : Option (List Char)}
    (done : ∀ text ∈ part, Percent.IsDone encoded text) :
    part.map (Percent.encode encoded) = part := by
  cases part with
  | none => rfl
  | some text => exact congrArg some (done text rfl).encode_eq

/-- A settled URL is read from its text. -/
theorem IsSettled.ofChars_write {url : Url} (settled : url.IsSettled) :
    ofChars url.write = .ok url := by
  obtain ⟨noQuestion, noHash⟩ := settled.not_mem_write
  have isWritten : url.write = url.scheme ++
      ':' :: (url.target.write ++ writePart '?' url.query ++ writePart '#' url.fragment) := by
    simp [write]
  have target : readTarget (.ofScheme url.scheme) url.target.write = .ok url.target :=
    settled.target.readTarget_write
  have query : url.query.map (Percent.encode (inQueryOf (.ofScheme url.scheme))) = url.query :=
    map_encode_of_done settled.query
  rw [isWritten, ofChars_eq (settled.scheme.readScheme?_append _), splitFirst_writePart noHash,
    splitFirst_writePart noQuestion, target, query, map_encode_of_done settled.fragment]
  rfl

/-- Settled URLs with one text are one URL. -/
theorem IsSettled.text_inj {left right : Url} (ofLeft : left.IsSettled) (ofRight : right.IsSettled)
    (same : left.text = right.text) : left = right := by
  have written : left.write = right.write := String.ofList_injective same
  have isRead := ofLeft.ofChars_write
  rw [written, ofRight.ofChars_write] at isRead
  exact (Except.ok.inj isRead).symm

/-! ## What is dropped from a text -/

/-- A text without margins and line ends counts as a whole. -/
theorem significant_eq_self {text : List Char} (begins : ∀ c ∈ text.head?, isMargin c = false)
    (ends : ∀ c ∈ text.getLast?, isMargin c = false) (kept : ∀ c ∈ text, isDropped c = false) :
    significant text = text := by
  have noMargin : ∀ {chars : List Char}, (∀ c ∈ chars.head?, isMargin c = false) →
      chars.dropWhile isMargin = chars := by
    intro chars bare
    cases chars with
    | nil => rfl
    | cons c rest => rw [List.dropWhile_cons, bare c rfl, if_neg Bool.false_ne_true]
  have allKept : text.filter (!isDropped ·) = text :=
    List.filter_eq_self.mpr fun c member => by rw [kept c member]; rfl
  rw [significant, noMargin begins, noMargin (by rwa [List.head?_reverse]), List.reverse_reverse,
    allKept]

theorem isDropped_iff {c : Char} : isDropped c = true ↔ c = '\t' ∨ c = '\n' ∨ c = '\r' := by
  simp [isDropped, or_assoc]

/-- Nothing is dropped from a part in which controls are encoded. -/
theorem not_isDropped_of_done {encoded : Char → Bool} {chars : List Char}
    (done : Percent.IsDone encoded chars)
    (controls : encoded '\t' = true ∧ encoded '\n' = true ∧ encoded '\r' = true) :
    ∀ c ∈ chars, isDropped c = false := by
  refine fun c member => Bool.eq_false_iff.mpr fun dropped => ?_
  have plain := Bool.eq_false_iff.mp (done c member).1
  rcases isDropped_iff.mp dropped with rfl | rfl | rfl
  · exact plain controls.1
  · exact plain controls.2.1
  · exact plain controls.2.2

/-- A part is written without tabs and line ends if it has none. -/
theorem not_isDropped_writePart {part : Option (List Char)} (mark : Char)
    (notMark : isDropped mark = false)
    (kept : ∀ text ∈ part, ∀ c ∈ text, isDropped c = false) :
    ∀ c ∈ writePart mark part, isDropped c = false := by
  cases part with
  | none => exact fun c member => nomatch member
  | some text => exact List.forall_mem_cons.mpr ⟨notMark, kept text rfl⟩

/-- Nothing is dropped from the text of a settled URL. -/
theorem IsSettled.not_isDropped {url : Url} (settled : url.IsSettled) :
    ∀ c ∈ url.write, isDropped c = false := by
  have ofScheme : ∀ c ∈ url.scheme, isDropped c = false := by
    refine fun c member => Bool.eq_false_iff.mpr fun dropped => ?_
    have isScheme := (settled.scheme.each c member).1
    rcases isDropped_iff.mp dropped with rfl | rfl | rfl <;> exact absurd isScheme (by decide)
  have inQuery : inQueryOf url.kind '\t' = true ∧ inQueryOf url.kind '\n' = true ∧
      inQueryOf url.kind '\r' = true := by
    unfold inQueryOf
    split <;> decide
  have query := not_isDropped_writePart '?' (by decide)
    fun text given => not_isDropped_of_done (settled.query text given) inQuery
  have fragment := not_isDropped_writePart '#' (by decide)
    fun text given => not_isDropped_of_done (settled.fragment text given) (by decide)
  have target := not_isDropped_of_done settled.target.unbroken (by decide)
  simp only [write, List.forall_mem_append, List.forall_mem_cons]
  exact ⟨⟨⟨ofScheme, by decide, target⟩, query⟩, fragment⟩

end Onboarding.Url
