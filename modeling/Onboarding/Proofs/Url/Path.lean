import Mathlib.Data.List.DropRight
import Onboarding.Proofs.Url.Character
import Onboarding.Url.Path

/-! # Paths, read back

The segments of a path that was read hold nothing that is to be encoded, no slash, and they do not
stand for dots; if a file's path begins with a drive letter, that has a colon
(`Onboarding.Path.isPath_read`). Such segments are read from the text they are written as
(`Onboarding.Path.read_write`), and they remain such when the empty ones at the end are replaced by
the name of a resource (`Onboarding.Path.IsPath.under`).
-/

namespace Onboarding.Path

/-- A segment of a path that was read. -/
structure IsSegment (kind : SchemeKind) (segment : Segment) : Prop where
  done : Percent.IsDone Percent.inPath segment
  no_slash : ∀ c ∈ segment, kind.isSlash c = false
  not_singleDot : isSingleDot segment = false
  not_doubleDot : isDoubleDot segment = false

/-- A segment that a path may begin with. For a file, a drive letter has a colon. -/
def CanBegin (kind : SchemeKind) (segment : Segment) : Prop :=
  kind = .file → ∀ letter, driveLetter? segment = some letter → segment = [letter, ':']

/-- The segments of a path that was read. -/
structure IsPath (kind : SchemeKind) (segments : List Segment) : Prop where
  each : ∀ segment ∈ segments, IsSegment kind segment
  first : ∀ segment ∈ segments.head?, CanBegin kind segment

variable {kind : SchemeKind}

/-! ## Putting segments together -/

theorem isSegment_nil : IsSegment kind [] where
  done := by simp [Percent.IsDone]
  no_slash := by simp
  not_singleDot := rfl
  not_doubleDot := rfl

theorem isPath_nil : IsPath kind [] where
  each := by simp
  first := by simp

theorem isPath_singleton {segment : Segment} (isSegment : IsSegment kind segment)
    (canBegin : CanBegin kind segment) : IsPath kind [segment] where
  each := by simpa using isSegment
  first := by simpa using canBegin

/-- What stands in front of a path is one. -/
theorem IsPath.of_prefix {segments front : List Segment} (isPath : IsPath kind segments)
    (isFront : front <+: segments) : IsPath kind front where
  each segment member := isPath.each segment (isFront.subset member)
  first segment isFirst := by
    obtain ⟨others, rfl⟩ := isFront
    refine isPath.first segment ?_
    rw [List.head?_append, Option.mem_def.mp isFirst, Option.some_or]
    rfl

/-- A path goes on with any segment, and begins with one that it may begin with. -/
theorem IsPath.concat {segments : List Segment} {segment : Segment} (isPath : IsPath kind segments)
    (isSegment : IsSegment kind segment) (canBegin : segments = [] → CanBegin kind segment) :
    IsPath kind (segments ++ [segment]) where
  each := List.forall_mem_append.mpr ⟨isPath.each, by simpa using isSegment⟩
  first := by
    cases segments with
    | nil => simpa using canBegin rfl
    | cons head others => simpa using isPath.first head rfl

/-! ## What is read -/

/-- The characters of a part are those of the whole, without the separator. -/
theorem mem_of_mem_splitAt {separator c : Char} {chars part : List Char}
    (isPart : part ∈ Text.splitAt separator chars) (member : c ∈ part) :
    c ∈ chars ∧ c ≠ separator := by
  induction chars generalizing part with
  | nil =>
      rw [Text.splitAt, List.mem_singleton] at isPart
      exact absurd (isPart ▸ member) List.not_mem_nil
  | cons head rest ih =>
      rw [Text.splitAt] at isPart
      split at isPart
      · rcases List.mem_cons.mp isPart with rfl | inRest
        · cases member
        · exact ⟨List.mem_cons_of_mem _ (ih inRest member).1, (ih inRest member).2⟩
      · next other =>
          cases parts : Text.splitAt separator rest with
          | nil => exact absurd parts (Text.splitAt_ne_nil separator rest)
          | cons first others =>
              rw [parts] at isPart ih
              rcases List.mem_cons.mp isPart with rfl | inOthers
              · rcases List.mem_cons.mp member with rfl | inFirst
                · exact ⟨List.mem_cons_self, other⟩
                · have := ih List.mem_cons_self inFirst
                  exact ⟨List.mem_cons_of_mem _ this.1, this.2⟩
              · have := ih (List.mem_cons_of_mem _ inOthers) member
                exact ⟨List.mem_cons_of_mem _ this.1, this.2⟩

/-- No slash is left in the parts that a text is split into. -/
theorem not_isSlash_of_mem_split {text : List Char} {part : Segment}
    (isPart : part ∈ split kind text) {c : Char} (member : c ∈ part) :
    kind.isSlash c = false := by
  obtain ⟨inText, other⟩ := mem_of_mem_splitAt isPart member
  obtain ⟨source, _, isSource⟩ := List.mem_map.mp inText
  split at isSource
  · exact absurd isSource.symm other
  · next notSlash => exact isSource ▸ Bool.eq_false_iff.mpr notSlash

/-- The characters of encodings are no slashes. -/
theorem not_isSlash_of_isEncodedChar {c : Char} (isEncoded : Percent.isEncodedChar c = true) :
    kind.isSlash c = false := by
  have other : c ≠ '/' ∧ c ≠ '\\' :=
    ⟨fun isSlash => absurd (isSlash ▸ isEncoded) (by decide),
      fun isSlash => absurd (isSlash ▸ isEncoded) (by decide)⟩
  simp [SchemeKind.isSlash, other.1, other.2]

/-- A drive with a colon is a path. -/
theorem isPath_drive {letter : Char} (isAlpha : letter.isAlpha = true) :
    IsPath kind [[letter, ':']] := by
  have ascii : letter.toNat < 0x80 :=
    toNat_lt_of_isAlphanum (by rw [Char.isAlphanum, isAlpha, Bool.true_or])
  have plain : Percent.inPath letter = false ∧ letter ≠ '/' ∧ letter ≠ '\\' ∧
      isSingleDot [letter, ':'] = false ∧ isDoubleDot [letter, ':'] = false := by
    refine Text.char_cases_of_ascii (motive := fun letter => letter.isAlpha = true →
      Percent.inPath letter = false ∧ letter ≠ '/' ∧ letter ≠ '\\' ∧
        isSingleDot [letter, ':'] = false ∧ isDoubleDot [letter, ':'] = false) ?_ ascii isAlpha
    decide +kernel
  refine isPath_singleton ⟨?_, ?_, plain.2.2.2.1, plain.2.2.2.2⟩ fun _ other isDrive => ?_
  · exact List.forall_mem_cons.mpr ⟨⟨plain.1, ascii⟩, List.forall_mem_singleton.mpr (by decide)⟩
  · simp [SchemeKind.isSlash, plain.2.1, plain.2.2.1]
  · rw [driveLetter?, if_pos ⟨isAlpha, .inl rfl⟩] at isDrive
    rw [Option.some.inj isDrive]

/-- A drive letter is a letter. -/
theorem isAlpha_of_driveLetter? {segment : Segment} {letter : Char}
    (isDrive : driveLetter? segment = some letter) : letter.isAlpha = true := by
  unfold driveLetter? at isDrive
  split at isDrive
  · split at isDrive
    · next both => exact Option.some.inj isDrive ▸ both.1
    · cases isDrive
  · cases isDrive

/-- The path after dots. It ends with a slash if they were the last part of it. -/
def closed (segments : List Segment) (isLast : Bool) : List Segment :=
  if isLast then segments ++ [[]] else segments

/-- An empty segment may stand at the end of every path. -/
theorem IsPath.closed {segments : List Segment} (isPath : IsPath kind segments) (isLast : Bool) :
    IsPath kind (closed segments isLast) := by
  cases isLast with
  | false => exact isPath
  | true => exact isPath.concat isSegment_nil fun _ _ _ isDrive => nomatch isDrive

theorem closed_ne_nil (segments : List Segment) : closed segments true ≠ [] :=
  List.concat_ne_nil _ _

theorem shorten_isPrefix (segments : List Segment) : shorten kind segments <+: segments := by
  unfold shorten
  split
  · exact List.prefix_refl _
  · exact List.dropLast_prefix _

/-- The path of a file that begins with a segment. -/
def beginning (segment : Segment) : List Segment :=
  match driveLetter? segment with
  | some letter => [[letter, ':']]
  | none => [segment]

/-- The beginning of the path of a file is a path, of whatever segment. -/
theorem isPath_beginning {segment : Segment} (isSegment : IsSegment kind segment) :
    IsPath kind (beginning segment) := by
  unfold beginning
  cases drive : driveLetter? segment with
  | some letter => exact isPath_drive (isAlpha_of_driveLetter? drive)
  | none =>
      exact isPath_singleton isSegment fun _ letter isDrive => nomatch drive.symm.trans isDrive

theorem beginning_ne_nil (segment : Segment) : beginning segment ≠ [] := by
  unfold beginning
  split
  · exact List.cons_ne_nil _ _
  · exact List.cons_ne_nil _ _

/-- A segment of dots closes the path, or a shorter one. Any other is added, and begins the
path of a file if it is the first. -/
theorem add_eq (segments : List Segment) (segment : Segment) (isLast : Bool) :
    add kind segments segment isLast =
      if isDoubleDot segment then closed (shorten kind segments) isLast
      else if isSingleDot segment then closed segments isLast
      else if kind = .file ∧ segments = [] then beginning segment
      else segments ++ [segment] :=
  rfl

/-- One more part of a text leaves a path. -/
theorem isPath_add {segments : List Segment} (isPath : IsPath kind segments) {segment : Segment}
    (done : Percent.IsDone Percent.inPath segment) (noSlash : ∀ c ∈ segment, kind.isSlash c = false)
    (isLast : Bool) : IsPath kind (add kind segments segment isLast) := by
  rw [add_eq]
  split
  · exact (isPath.of_prefix (shorten_isPrefix segments)).closed isLast
  · next notDouble =>
      split
      · exact isPath.closed isLast
      · next notSingle =>
          have isSegment : IsSegment kind segment :=
            ⟨done, noSlash, Bool.eq_false_iff.mpr notSingle, Bool.eq_false_iff.mpr notDouble⟩
          split
          · exact isPath_beginning isSegment
          · next notFirst =>
              exact isPath.concat isSegment fun isNil isFile => absurd ⟨isFile, isNil⟩ notFirst

/-- The last part of a text leaves a segment at least. -/
theorem add_last_ne_nil (kind : SchemeKind) (segments : List Segment) (segment : Segment) :
    add kind segments segment true ≠ [] := by
  rw [add_eq]
  split
  · exact closed_ne_nil _
  · split
    · exact closed_ne_nil _
    · split
      · exact beginning_ne_nil segment
      · exact List.concat_ne_nil _ _

/-- All parts of a text put behind segments make a path. -/
theorem isPath_addAll {segments : List Segment} (isPath : IsPath kind segments)
    {parts : List Segment} (present : parts ≠ [])
    (noSlash : ∀ part ∈ parts, ∀ c ∈ part, kind.isSlash c = false) :
    IsPath kind (addAll kind segments parts) ∧ addAll kind segments parts ≠ [] := by
  induction parts generalizing segments with
  | nil => exact absurd rfl present
  | cons part rest ih =>
      have isDone := Percent.isDone_encode
        (fun _ isEncoded => (Percent.encodedChar_stands isEncoded).2.2.2.2.1) part
      have bare : ∀ c ∈ Percent.encode Percent.inPath part, kind.isSlash c = false :=
        Percent.forall_mem_encode (fun _ => not_isSlash_of_isEncodedChar)
          fun c member _ _ => noSlash part List.mem_cons_self c member
      have step := isPath_add isPath isDone bare rest.isEmpty
      cases rest with
      | nil => exact ⟨step, add_last_ne_nil _ _ _⟩
      | cons second others =>
          exact ih step (List.cons_ne_nil _ _) fun part member =>
            noSlash part (List.mem_cons_of_mem _ member)

/-- Whatever is read is a path, and not empty if there was anything to read. -/
theorem isPath_read_cons (kind : SchemeKind) (c : Char) (rest : List Char) :
    IsPath kind (read kind (c :: rest)) ∧ read kind (c :: rest) ≠ [] :=
  isPath_addAll isPath_nil (Text.splitAt_ne_nil _ _)
    fun _ isPart _ member => not_isSlash_of_mem_split isPart member

/-- What is read is a path. It is empty only where the scheme allows that. -/
theorem isPath_read (kind : SchemeKind) (text : List Char) :
    IsPath kind (read kind text) ∧ (kind ≠ .general → read kind text ≠ []) := by
  cases text with
  | nil =>
      rw [read]
      split
      · next isGeneral => exact ⟨isPath_nil, fun other => absurd isGeneral other⟩
      · exact ⟨isPath_nil.closed true, fun _ => List.cons_ne_nil _ _⟩
  | cons c rest =>
      have isRead := isPath_read_cons kind c rest
      exact ⟨isRead.1, fun _ => isRead.2⟩

/-! ## What is written -/

theorem write_append (left right : List Segment) :
    write (left ++ right) = write left ++ write right :=
  List.flatMap_append

/-- Segments are joined by slashes, with one in front. -/
theorem write_eq_joinWith {segments : List Segment} (present : segments ≠ []) :
    write segments = '/' :: Text.joinWith '/' segments := by
  induction segments with
  | nil => exact absurd rfl present
  | cons segment rest ih =>
      cases rest with
      | nil => simp [write, Text.joinWith]
      | cons second others =>
          rw [write, List.flatMap_cons, ← write, ih (List.cons_ne_nil _ _)]
          rfl

theorem isSlash_slash : kind.isSlash '/' = true :=
  rfl

/-- Segments without slashes are split as they were joined. -/
theorem split_joinWith {segments : List Segment} (present : segments ≠ [])
    (noSlash : ∀ segment ∈ segments, ∀ c ∈ segment, kind.isSlash c = false) :
    split kind (Text.joinWith '/' segments) = segments := by
  have kept : (Text.joinWith '/' segments).map (fun c => if kind.isSlash c then '/' else c) =
      (Text.joinWith '/' segments).map id := by
    refine List.map_congr_left fun c member => ?_
    rcases Text.mem_joinWith member with rfl | ⟨segment, isSegment, inSegment⟩
    · rfl
    · rw [noSlash segment isSegment c inSegment]
      rfl
  rw [split, kept, List.map_id]
  refine Text.splitAt_joinWith present fun segment isSegment member => ?_
  exact absurd (noSlash segment isSegment '/' member) (by simp [isSlash_slash])

/-- The path of segments that are written behind each other. -/
theorem read_write_eq_addAll {segments : List Segment} (present : segments ≠ [])
    (noSlash : ∀ segment ∈ segments, ∀ c ∈ segment, kind.isSlash c = false) :
    read kind (write segments) = addAll kind [] segments := by
  rw [write_eq_joinWith present, read, if_pos isSlash_slash, split_joinWith present noSlash]

/-- A segment of a path is put behind the ones in front of it as it is. -/
theorem add_of_isPath {front : List Segment} {segment : Segment}
    (isPath : IsPath kind (front ++ [segment])) (isLast : Bool) :
    add kind front segment isLast = front ++ [segment] := by
  have isSegment := isPath.each segment (List.mem_append_right _ List.mem_cons_self)
  rw [add_eq, isSegment.not_doubleDot, isSegment.not_singleDot, if_neg Bool.false_ne_true,
    if_neg Bool.false_ne_true]
  split
  · next first =>
      obtain ⟨isFile, rfl⟩ := first
      unfold beginning
      cases isDrive : driveLetter? segment with
      | some letter => exact congrArg ([·]) (isPath.first segment rfl isFile letter isDrive).symm
      | none => rfl
  · rfl

/-- The segments of a path are added as they are. -/
theorem addAll_of_isPath {front rest : List Segment} (isPath : IsPath kind (front ++ rest)) :
    addAll kind front rest = front ++ rest := by
  induction rest generalizing front with
  | nil => rw [addAll, List.append_nil]
  | cons segment rest ih =>
      have split : front ++ segment :: rest = (front ++ [segment]) ++ rest := by simp
      have isSegment := isPath.each segment (List.mem_append_right _ List.mem_cons_self)
      rw [split] at isPath ⊢
      rw [addAll, isSegment.done.encode_eq,
        add_of_isPath (isPath.of_prefix (List.prefix_append _ _)),
        ih isPath]

/-- A path is read from the text it is written as. -/
theorem read_write {segments : List Segment} (isPath : IsPath kind segments)
    (present : segments ≠ []) : read kind (write segments) = segments := by
  rw [read_write_eq_addAll present fun segment member => (isPath.each segment member).no_slash]
  exact addAll_of_isPath isPath

/-- A segment of one dot in front of a path stands for nothing. -/
theorem read_dot_write {segments : List Segment} (isPath : IsPath kind segments)
    (present : segments ≠ []) : read kind ('/' :: '.' :: write segments) = segments := by
  have isWritten : '/' :: '.' :: write segments = write (['.'] :: segments) := rfl
  have noSlash : ∀ segment ∈ ['.'] :: segments, ∀ c ∈ segment, kind.isSlash c = false := by
    refine List.forall_mem_cons.mpr
      ⟨by cases kind <;> simp [SchemeKind.isSlash], fun segment member =>
        (isPath.each segment member).no_slash⟩
  rw [isWritten, read_write_eq_addAll (List.cons_ne_nil _ _) noSlash]
  cases segments with
  | nil => exact absurd rfl present
  | cons first others =>
      have skipped : addAll kind [] (['.'] :: first :: others) = addAll kind [] (first :: others) :=
        rfl
      rw [skipped, ← read_write_eq_addAll present fun segment member =>
        (isPath.each segment member).no_slash, read_write isPath present]

/-! ## A resource under a path -/

/-- The segments of a path without the empty ones at its end. -/
def trimmed (segments : List Segment) : List Segment :=
  segments.rdropWhile List.isEmpty

/-- A resource under a path is a path. -/
theorem IsPath.under {segments : List Segment} (isPath : IsPath kind segments) {resource : Segment}
    (isSegment : IsSegment kind resource) (canBegin : CanBegin kind resource) :
    IsPath kind (trimmed segments ++ [resource]) :=
  (isPath.of_prefix (List.rdropWhile_prefix _ _)).concat isSegment fun _ => canBegin

end Onboarding.Path
