import Onboarding.Proofs.Url.Authority
import Onboarding.Proofs.Url.Path

/-! # Schemes and targets, read back

The kind of a scheme says how the text behind it is read: as an authority and a path, as a path
alone, or as a text that is not looked into. What is read by the rules of a kind
(`Onboarding.UrlTarget.isSettled_of_readTarget`) is read again from the text it is written as
(`Onboarding.UrlTarget.IsSettled.readTarget_write`), and no mark of a query or a fragment is in
that text.
-/

namespace Onboarding

/-! ## Schemes -/

/-- A scheme as it is read. -/
structure IsScheme (scheme : List Char) : Prop where
  begins : ∃ first ∈ scheme.head?, first.isAlpha = true
  each : ∀ c ∈ scheme, isSchemeChar c = true ∧ c.toLower = c

/-- A character of a scheme stays one in lower case. -/
theorem toLower_isSchemeChar {c : Char} (isScheme : isSchemeChar c = true) :
    isSchemeChar c.toLower = true ∧ c.toLower.toLower = c.toLower ∧
      c.toLower.isAlpha = c.isAlpha := by
  have ascii : c.toNat < 0x80 := by
    rcases Bool.or_eq_true_iff.mp isScheme with isAlphanum | isMark
    · exact toNat_lt_of_isAlphanum isAlphanum
    · simp only [List.contains_iff_mem, List.mem_cons, List.not_mem_nil, or_false] at isMark
      rcases isMark with rfl | rfl | rfl <;> decide
  refine Text.char_cases_of_ascii (motive := fun c => isSchemeChar c = true →
    isSchemeChar c.toLower = true ∧ c.toLower.toLower = c.toLower ∧
      c.toLower.isAlpha = c.isAlpha) ?_ ascii isScheme
  decide +kernel

/-- A scheme that is read is in lower case, and begins with a letter. -/
theorem isScheme_of_readScheme? {text scheme rest : List Char}
    (isRead : readScheme? text = some (scheme, rest)) : IsScheme scheme := by
  unfold readScheme? at isRead
  split at isRead
  · next first others rest taken dropped =>
      split at isRead
      · next isAlpha =>
          obtain ⟨rfl, rfl⟩ := Prod.mk.inj (Option.some.inj isRead)
          have schemeChars : ∀ c ∈ first :: others, isSchemeChar c = true := fun c member =>
            List.mem_takeWhile_imp (taken ▸ member)
          refine ⟨⟨first.toLower, rfl, ?_⟩, fun c member => ?_⟩
          · rw [(toLower_isSchemeChar (schemeChars first List.mem_cons_self)).2.2, isAlpha]
          · obtain ⟨source, inFront, rfl⟩ := List.mem_map.mp member
            have lower := toLower_isSchemeChar (schemeChars source inFront)
            exact ⟨lower.1, lower.2.1⟩
      · cases isRead
  · cases isRead

/-- A scheme is found in front of the colon. -/
theorem IsScheme.readScheme?_append {scheme : List Char} (isScheme : IsScheme scheme)
    (rest : List Char) : readScheme? (scheme ++ ':' :: rest) = some (scheme, rest) := by
  have chars : ∀ c ∈ scheme, isSchemeChar c = true := fun c member => (isScheme.each c member).1
  have lower : scheme.map Char.toLower = scheme.map id :=
    List.map_congr_left fun c member => (isScheme.each c member).2
  have noColon : isSchemeChar ':' = false := by decide
  obtain ⟨first, begins, isAlpha⟩ := isScheme.begins
  cases scheme with
  | nil => cases begins
  | cons head others =>
      cases Option.some.inj begins
      rw [readScheme?, List.takeWhile_append_of_pos chars, List.dropWhile_append_of_pos chars,
        List.takeWhile_cons, List.dropWhile_cons, noColon]
      simp only [Bool.false_eq_true, if_false, List.append_nil, isAlpha, if_true, lower,
        List.map_id]

/-! ## Targets -/

namespace Url

/-- Nothing that separates the parts of a path is in an authority. -/
theorem not_isSlash_of_endsAuthority (kind : SchemeKind) {chars : List Char}
    (done : Percent.IsDone endsAuthority chars) {c : Char} (member : c ∈ chars) :
    kind.isSlash c = false := by
  have other := (done c member).1
  simp only [endsAuthority, Bool.or_eq_false_iff, beq_eq_false_iff_ne] at other
  simp [SchemeKind.isSlash, other.1.2, other.2]

/-- What goes on within an authority is broken off by no mark. -/
theorem isUnbroken_of_endsAuthority {chars : List Char}
    (done : Percent.IsDone endsAuthority chars) : IsUnbroken chars := by
  intro c member
  have other := (done c member).1
  simp only [endsAuthority, Bool.or_eq_false_iff] at other
  exact ⟨other.1.1, (done c member).2⟩

variable {kind : SchemeKind}

/-- What stands in front of a path ends where the path begins. -/
theorem splitSlash {front : List Char} (noSlash : ∀ c ∈ front, kind.isSlash c = false)
    (segments : List Path.Segment) :
    (front ++ Path.write segments).takeWhile (!kind.isSlash ·) = front ∧
      (front ++ Path.write segments).dropWhile (!kind.isSlash ·) = Path.write segments := by
  have others : ∀ c ∈ front, (!kind.isSlash c) = true := fun c member => by
    rw [noSlash c member]; rfl
  rw [List.takeWhile_append_of_pos others, List.dropWhile_append_of_pos others]
  cases segments with
  | nil => simp [Path.write]
  | cons segment rest =>
      have begins : Path.write (segment :: rest) = '/' :: (segment ++ Path.write rest) := rfl
      have slash : (!kind.isSlash '/') = false := rfl
      rw [begins, List.takeWhile_cons, List.dropWhile_cons, slash]
      simp

end Url

/-- A target as it is read. -/
inductive UrlTarget.IsSettled : SchemeKind → UrlTarget → Prop
  | service {port : Nat} {authority : Authority} {segments : List Path.Segment}
      (settled : authority.IsSettled (.service port))
      (isPath : Path.IsPath (.service port) segments) (present : segments ≠ []) :
      IsSettled (.service port) (hosted authority segments)
  | file {host : Host} {segments : List Path.Segment} (suits : host.Suits .file)
      (own : Path.isDrive (segments.take 1) = true → host = .empty)
      (isPath : Path.IsPath .file segments) (present : segments ≠ []) :
      IsSettled .file (hosted (Url.fileAuthority host) segments)
  | general {authority : Authority} {segments : List Path.Segment}
      (settled : authority.IsSettled .general) (isPath : Path.IsPath .general segments) :
      IsSettled .general (hosted authority segments)
  | rooted {segments : List Path.Segment} (isPath : Path.IsPath .general segments)
      (present : segments ≠ []) : IsSettled .general (rooted segments)
  | plain {text : List Char} (unbroken : Url.IsUnbroken text) (begins : text.head? ≠ some '/') :
      IsSettled .general (plain text)

namespace UrlTarget

variable {kind : SchemeKind}

/-- An authority and the path behind it are read from their texts. -/
theorem readHosted_write {authority : Authority} {segments : List Path.Segment}
    (settled : authority.IsSettled kind) (notFile : kind ≠ .file)
    (isPath : Path.IsPath kind segments) (present : kind ≠ .general → segments ≠ []) :
    Url.readHosted kind (authority.write ++ Path.write segments) =
      .ok (hosted authority segments) := by
  have parts := Url.splitSlash
    (fun c member => Url.not_isSlash_of_endsAuthority kind settled.done member) segments
  have path : Path.read kind (Path.write segments) = segments := by
    by_cases isNil : segments = []
    · have isGeneral : kind = .general := not_not.mp fun other => present other isNil
      rw [isNil, isGeneral]
      rfl
    · exact Path.read_write isPath isNil
  rw [Url.readHosted, parts.1, parts.2, settled.readAuthority_write notFile, path]
  rfl

/-- A service has a host, so that no slash begins its authority. -/
theorem dropWhile_isSlash_write {port : Nat} {authority : Authority}
    (settled : authority.IsSettled (.service port)) (rest : List Char) :
    ('/' :: '/' :: (authority.write ++ rest)).dropWhile (SchemeKind.service port).isSlash =
      authority.write ++ rest := by
  have slash : (SchemeKind.service port).isSlash '/' = true := rfl
  rw [List.dropWhile_cons, if_pos slash, List.dropWhile_cons, if_pos slash]
  cases written : authority.write with
  | nil => exact absurd written settled.write_ne_nil
  | cons first others =>
      have bare := Url.not_isSlash_of_endsAuthority (.service port) settled.done
        (written ▸ List.mem_cons_self)
      rw [List.cons_append, List.dropWhile_cons, bare, if_neg Bool.false_ne_true]

/-- The host of a file does not look like a drive. -/
theorem driveLetter?_write {host : Host} (suits : host.Suits .file) :
    Path.driveLetter? host.write = none := by
  have ofName : ∀ {name}, Domain.read? name = some name → Path.driveLetter? name = none := by
    intro name settled
    unfold Path.driveLetter?
    split
    · next letter mark =>
        refine if_neg fun isDrive => ?_
        have isName := Domain.isNameChar_of_read? settled
          (List.mem_cons_of_mem letter List.mem_cons_self)
        rcases isDrive.2 with rfl | rfl
        · exact absurd isName (by decide)
        · exact absurd isName (by decide)
    · rfl
  cases suits with
  | own => rfl
  | file named =>
      cases named with
      | domain _ settled => exact ofName settled
      | ipv4 address => exact ofName address.domain_read?_write
      | ipv6 address =>
          rw [Host.write]
          unfold Path.driveLetter?
          split
          · next letter mark isTwo =>
              cases (List.cons.inj isTwo).1
              rfl
          · rfl

/-- The host of a file is read back if it suits. -/
theorem readFile_write {host : Host} (suits : host.Suits .file) :
    Host.readFile host.write = .ok host := by
  cases suits with
  | own => rfl
  | file named other =>
      rw [Host.readFile, List.isEmpty_eq_false_iff.mpr named.write_ne_nil,
        if_neg Bool.false_ne_true, named.read_write]
      exact congrArg Except.ok (if_neg other)

/-- The path of a file is read back on its host, on none if it has a drive. -/
theorem fileTarget_eq {host : Host} {segments : List Path.Segment}
    (own : Path.isDrive (segments.take 1) = true → host = .empty)
    (isPath : Path.IsPath .file segments) (present : segments ≠ []) :
    Url.fileTarget host (Path.write segments) = hosted (Url.fileAuthority host) segments := by
  simp only [Url.fileTarget, Path.read_write isPath present]
  split
  · next isDrive => rw [own isDrive]
  · rfl

theorem readTarget_slash {rest : List Char} (single : rest.head? ≠ some '/') :
    Url.readTarget .general ('/' :: rest) = .ok (rooted (Path.read .general ('/' :: rest))) := by
  rw [Url.readTarget]
  rintro others rfl
  exact single rfl

/-- A path that would be taken for a host is read behind the dot in front of it. -/
theorem readTarget_write_rooted {segments : List Path.Segment}
    (isPath : Path.IsPath .general segments) (present : segments ≠ []) :
    Url.readTarget .general (rooted segments).write = .ok (rooted segments) := by
  rw [write]
  split
  · next rest written =>
      rw [readTarget_slash (by simp), ← written, Path.read_dot_write isPath present]
  · next notHost =>
      have written := Path.write_eq_joinWith present
      have single : (Text.joinWith '/' segments).head? ≠ some '/' := by
        intro begins
        obtain ⟨rest, isRest⟩ := List.head?_eq_some_iff.mp begins
        exact notHost rest (by rw [written, isRest])
      rw [written, readTarget_slash single, ← written, Path.read_write isPath present]

/-- A target is read from its text by the rules of its scheme. -/
theorem IsSettled.readTarget_write {target : UrlTarget} (settled : target.IsSettled kind) :
    Url.readTarget kind target.write = .ok target := by
  cases settled with
  | @service port authority segments settled isPath present =>
      have isDropped := dropWhile_isSlash_write settled (Path.write segments)
      have isRead := readHosted_write settled (by simp) isPath fun _ => present
      rw [← isDropped] at isRead
      exact isRead
  | @file host segments suits own isPath present =>
      have bare : ∀ c ∈ host.write, SchemeKind.file.isSlash c = false := fun c member =>
        Url.not_isSlash_of_endsAuthority .file
          (Authority.endsAuthority_of_endsHost suits.isSettled.done) member
      have parts := Url.splitSlash bare segments
      have isWritten : (hosted (Url.fileAuthority host) segments).write =
          '/' :: '/' :: (host.write ++ Path.write segments) := by
        simp [write, Authority.write, Url.fileAuthority]
      rw [isWritten, Url.readTarget, Url.readFileTarget]
      simp only [Path.isSlash_slash, Bool.and_self, if_true, parts.1, parts.2,
        driveLetter?_write suits, readFile_write suits]
      exact congrArg Except.ok (fileTarget_eq own isPath present)
  | general settled isPath =>
      exact readHosted_write settled (by simp) isPath fun other => absurd rfl other
  | @rooted segments isPath present =>
      exact readTarget_write_rooted isPath present
  | @plain text unbroken begins =>
      have encoded : Percent.encode Percent.isControl text = text :=
        Percent.encode_of_plain fun c member => by
          have other := (unbroken c member).1
          simp only [Url.isBreak, Bool.or_eq_false_iff] at other
          exact ⟨other.1.1, (unbroken c member).2⟩
      rw [write, Url.readTarget, encoded]
      · rintro rest rfl
        exact begins rfl
      · rintro rest rfl
        exact begins rfl

/-- The host of a file that is read suits. -/
theorem suits_of_readFile {text : List Char} {host : Host}
    (isRead : Host.readFile text = .ok host) : host.Suits .file := by
  unfold Host.readFile at isRead
  split at isRead
  · cases Except.ok.inj isRead
    exact .own
  · obtain ⟨named, isNamed, isRead⟩ := bind_eq_ok_iff.mp isRead
    cases Except.ok.inj isRead
    split
    · exact .own
    · next other => exact .file (Host.isNamed_of_read isNamed) other

/-- The target of a file is settled, whatever the path. -/
theorem isSettled_fileTarget {host : Host} (suits : host.Suits .file) (path : List Char) :
    (Url.fileTarget host path).IsSettled .file := by
  obtain ⟨isPath, present⟩ := Path.isPath_read .file path
  unfold Url.fileTarget
  dsimp only
  split
  · exact .file .own (fun _ => rfl) isPath (present (by simp))
  · next notDrive =>
      exact .file suits (fun isDrive => absurd isDrive notDrive) isPath (present (by simp))

theorem isSettled_of_readFileTarget {body : List Char} {target : UrlTarget}
    (isRead : Url.readFileTarget body = .ok target) : target.IsSettled .file := by
  unfold Url.readFileTarget at isRead
  dsimp only at isRead
  split at isRead
  · split at isRead
    · split at isRead
      · cases Except.ok.inj isRead
        exact isSettled_fileTarget .own _
      · obtain ⟨host, isHost, isRead⟩ := bind_eq_ok_iff.mp isRead
        cases Except.ok.inj isRead
        exact isSettled_fileTarget (suits_of_readFile isHost) _
    · cases Except.ok.inj isRead
      exact isSettled_fileTarget .own _
  · cases Except.ok.inj isRead
    exact isSettled_fileTarget .own _

/-- Behind two slashes an authority and a path are read, both settled. -/
theorem exists_of_readHosted {text : List Char} {target : UrlTarget} (notFile : kind ≠ .file)
    (isRead : Url.readHosted kind text = .ok target) :
    ∃ authority segments, target = hosted authority segments ∧ authority.IsSettled kind ∧
      Path.IsPath kind segments ∧ (kind ≠ .general → segments ≠ []) := by
  obtain ⟨authority, isAuthority, isRead⟩ := bind_eq_ok_iff.mp isRead
  obtain ⟨isPath, present⟩ := Path.isPath_read kind (text.dropWhile (!kind.isSlash ·))
  exact ⟨authority, _, (Except.ok.inj isRead).symm,
    Authority.isSettled_of_readAuthority notFile isAuthority, isPath, present⟩

/-- A text without marks is not broken off when it is encoded. -/
theorem isUnbroken_encode {text : List Char} (unmarked : '#' ∉ text ∧ '?' ∉ text) :
    Url.IsUnbroken (Percent.encode Percent.isControl text) := by
  refine Percent.forall_mem_encode (fun c isEncoded => ?_) fun c member notControl ascii => ?_
  · refine ⟨?_, Percent.toNat_lt_of_isEncodedChar isEncoded⟩
    have noMark : c ≠ '#' ∧ c ≠ '?' :=
      ⟨fun isMark => absurd (isMark ▸ isEncoded) (by decide),
        fun isMark => absurd (isMark ▸ isEncoded) (by decide)⟩
    simp [Url.isBreak, (Percent.encodedChar_stands isEncoded).1, noMark]
  · have noMark : c ≠ '#' ∧ c ≠ '?' :=
      ⟨fun isMark => unmarked.1 (isMark ▸ member), fun isMark => unmarked.2 (isMark ▸ member)⟩
    exact ⟨by simp [Url.isBreak, notControl, noMark], ascii⟩

/-- What is read as a target is settled. -/
theorem isSettled_of_readTarget {body : List Char} {target : UrlTarget}
    (unmarked : '#' ∉ body ∧ '?' ∉ body) (isRead : Url.readTarget kind body = .ok target) :
    target.IsSettled kind := by
  unfold Url.readTarget at isRead
  split at isRead
  · exact isSettled_of_readFileTarget isRead
  · obtain ⟨authority, segments, rfl, settled, isPath, present⟩ :=
      exists_of_readHosted (by simp) isRead
    exact .service settled isPath (present (by simp))
  · obtain ⟨authority, segments, rfl, settled, isPath, _⟩ := exists_of_readHosted (by simp) isRead
    exact .general settled isPath
  · next rest _ =>
      cases Except.ok.inj isRead
      have isPath := Path.isPath_read_cons .general '/' rest
      exact .rooted isPath.1 isPath.2
  · next notRooted =>
      cases Except.ok.inj isRead
      refine .plain (isUnbroken_encode unmarked) (Percent.head?_encode_ne (by decide) ?_)
      intro begins
      obtain ⟨rest, isRest⟩ := List.head?_eq_some_iff.mp begins
      exact notRooted rest isRest

/-- A path is not broken off. -/
theorem isUnbroken_write_path {segments : List Path.Segment} (isPath : Path.IsPath kind segments) :
    Url.IsUnbroken (Path.write segments) := by
  intro c member
  obtain ⟨segment, isSegment, inText⟩ := List.mem_flatMap.mp member
  rcases List.mem_cons.mp inText with rfl | inSegment
  · decide
  · have done := (isPath.each segment isSegment).done c inSegment
    refine ⟨?_, done.2⟩
    refine Text.char_cases_of_ascii (motive := fun c => Percent.inPath c = false →
      Url.isBreak c = false) ?_ done.2 done.1
    decide +kernel

theorem isUnbroken_write_hosted {authority : Authority} {segments : List Path.Segment}
    (done : Percent.IsDone Url.endsAuthority authority.write) (isPath : Path.IsPath kind segments) :
    Url.IsUnbroken (hosted authority segments).write :=
  Percent.IsDone.append (List.forall_mem_cons.mpr ⟨by decide, List.forall_mem_cons.mpr
    ⟨by decide, Url.isUnbroken_of_endsAuthority done⟩⟩) (isUnbroken_write_path isPath)

/-- Nothing in the text of a target ends it. -/
theorem IsSettled.unbroken {target : UrlTarget} (settled : target.IsSettled kind) :
    Url.IsUnbroken target.write := by
  cases settled with
  | service settled isPath => exact isUnbroken_write_hosted settled.done isPath
  | @file host segments suits own isPath =>
      refine isUnbroken_write_hosted (Authority.endsAuthority_of_endsHost ?_) isPath
      have isWritten : (Url.fileAuthority host).write = host.write := by
        simp [Authority.write, Url.fileAuthority]
      exact isWritten ▸ suits.isSettled.done
  | general settled isPath => exact isUnbroken_write_hosted settled.done isPath
  | rooted isPath =>
      have path := isUnbroken_write_path isPath
      rw [write]
      split
      · next rest written =>
          rw [written] at path
          exact List.forall_mem_cons.mpr ⟨by decide, List.forall_mem_cons.mpr ⟨by decide, path⟩⟩
      · exact path
  | plain unbroken => exact unbroken

/-- Nothing in the path of a target ends it. -/
theorem IsSettled.unbroken_path {target : UrlTarget} (settled : target.IsSettled kind) :
    Url.IsUnbroken target.path := by
  cases settled with
  | service _ isPath => exact isUnbroken_write_path isPath
  | file _ _ isPath => exact isUnbroken_write_path isPath
  | general _ isPath => exact isUnbroken_write_path isPath
  | rooted isPath => exact isUnbroken_write_path isPath
  | plain unbroken => exact unbroken

end UrlTarget

end Onboarding
