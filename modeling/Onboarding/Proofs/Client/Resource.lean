import Mathlib.Data.List.DropRight
import Onboarding.Client
import Onboarding.Proofs.Url.Target

/-! # A resource under a target

The text of a target without the slashes at its end, with the name of a resource behind it, is read
as the resource under the path of the target, at the same host and port
(`Onboarding.Client.exists_isUnder`). Where only slashes stand behind the scheme all of them are
dropped, and the resource is read as a path of its own: this is right because such a target has no
host.
-/

namespace Onboarding.Client

/-! ## Slashes at the end -/

theorem trimSlashes_concat_slash (text : List Char) :
    trimSlashes (text ++ ['/']) = trimSlashes text := by
  simp [trimSlashes]

theorem trimSlashes_concat {c : Char} (other : c ≠ '/') (text : List Char) :
    trimSlashes (text ++ [c]) = text ++ [c] := by
  simp [trimSlashes, other]

theorem trimSlashes_isPrefix (text : List Char) : trimSlashes text <+: text :=
  List.rdropWhile_prefix _ _

theorem trimSlashes_trimSlashes (text : List Char) :
    trimSlashes (trimSlashes text) = trimSlashes text :=
  List.rdropWhile_idempotent _ _

/-- Where the second part of a text is all slashes, those at the end of the first part are dropped
too. -/
theorem trimSlashes_append (text rest : List Char) :
    trimSlashes (text ++ rest) =
      if trimSlashes rest = [] then trimSlashes text else text ++ trimSlashes rest := by
  induction rest using List.reverseRecOn with
  | nil => rw [List.append_nil, if_pos (by rfl)]
  | append_singleton rest c ih =>
      rw [← List.append_assoc]
      by_cases isSlash : c = '/'
      · rw [isSlash, trimSlashes_concat_slash, trimSlashes_concat_slash, ih]
      · rw [trimSlashes_concat isSlash, trimSlashes_concat isSlash,
          if_neg (List.concat_ne_nil _ _), List.append_assoc]

/-- In front of a text that has nothing to drop, nothing is dropped. -/
theorem trimSlashes_append_of_trimmed {text : List Char} (trimmed : trimSlashes text = text)
    (rest : List Char) : trimSlashes (text ++ rest) = text ++ trimSlashes rest := by
  rw [trimSlashes_append]
  split
  · next isNil => rw [isNil, trimmed, List.append_nil]
  · rfl

/-- Nothing is dropped in front of a mark. -/
theorem trimSlashes_append_mark {mark : Char} (other : mark ≠ '/') (front part : List Char) :
    trimSlashes (front ++ mark :: part) = front ++ mark :: trimSlashes part := by
  rw [List.append_cons, trimSlashes_append_of_trimmed (trimSlashes_concat other front),
    ← List.append_cons]

theorem trimSlashes_of_not_mem {text : List Char} (absent : '/' ∉ text) :
    trimSlashes text = text := by
  rcases List.eq_nil_or_concat' text with rfl | ⟨front, last, rfl⟩
  · rfl
  · refine trimSlashes_concat (fun isSlash => absent ?_) front
    exact isSlash ▸ List.mem_append_right _ List.mem_cons_self

/-- Slashes at the end of a path are its empty segments there. -/
theorem trimSlashes_write {segments : List Path.Segment}
    (noSlash : ∀ segment ∈ segments, '/' ∉ segment) :
    trimSlashes (Path.write segments) = Path.write (Path.trimmed segments) := by
  induction segments using List.reverseRecOn with
  | nil => rfl
  | append_singleton segments segment ih =>
      obtain ⟨front, last⟩ := List.forall_mem_append.mp noSlash
      have written : Path.write (segments ++ [segment]) =
          Path.write segments ++ '/' :: segment := by
        simp [Path.write]
      by_cases isNil : segment = []
      · subst isNil
        rw [written, trimSlashes_concat_slash, ih front, Path.trimmed, Path.trimmed,
          List.rdropWhile_concat_pos _ _ _ (by rfl)]
      · have kept : trimSlashes (Path.write segments ++ '/' :: segment) =
            Path.write segments ++ '/' :: segment := by
          rw [List.append_cons, trimSlashes_append,
            trimSlashes_of_not_mem (last segment List.mem_cons_self), if_neg isNil]
        rw [written, kept, Path.trimmed, List.rdropWhile_concat_neg _ _ _ (by simpa using isNil),
          written]

/-! ## A resource under a target -/

/-- The name of a resource as it can stand in a path. -/
structure IsResource (resource : List Char) : Prop where
  isSegment : ∀ kind, Path.IsSegment kind resource
  inQuery : Percent.IsDone Percent.inSpecialQuery resource
  long : 2 < resource.length

/-- What is reached for a resource under a target: the resource under the path, on the same host
and port. -/
structure IsUnder (base : UrlTarget) (resource : List Char) (target : UrlTarget) : Prop where
  path : target.path = trimSlashes base.path ++ '/' :: resource
  host : target.host? = base.host?
  port : target.port? = base.port?

section

variable {kind : SchemeKind} {resource : List Char} (isResource : IsResource resource)

include isResource

theorem IsResource.ne_nil : resource ≠ [] :=
  List.ne_nil_of_length_pos (Nat.zero_lt_of_lt isResource.long)

theorem IsResource.canBegin : Path.CanBegin kind resource := by
  intro _ letter isDrive
  have long := isResource.long
  unfold Path.driveLetter? at isDrive
  split at isDrive
  · simp at long
  · cases isDrive

theorem IsResource.head?_ne : resource.head? ≠ some '/' := fun begins =>
  absurd ((isResource.isSegment .general).no_slash '/' (List.mem_of_head? begins)) (by decide)

/-- A resource is a path by itself. -/
theorem IsResource.isPath_alone : Path.IsPath kind [resource] :=
  Path.isPath_singleton (isResource.isSegment kind) isResource.canBegin

/-- The resource alone is read as the whole path. -/
theorem IsResource.read_slash : Path.read kind ('/' :: resource) = [resource] := by
  have alone : Path.IsPath kind [resource] := isResource.isPath_alone
  have isRead := Path.read_write alone (List.cons_ne_nil _ _)
  simpa [Path.write] using isRead

/-- Behind a slash, a resource goes on to its end without a mark that would break it off. -/
theorem IsResource.unbroken : Url.IsUnbroken ('/' :: resource) := by
  have alone : Path.IsPath .general [resource] := isResource.isPath_alone
  have path := UrlTarget.isUnbroken_write_path alone
  simpa [Path.write] using path

/-- Behind a scheme of no special kind, a resource is a path without a host. -/
theorem readTarget_slash_resource :
    Url.readTarget .general ('/' :: resource) = .ok (.rooted [resource]) := by
  rw [UrlTarget.readTarget_slash isResource.head?_ne, isResource.read_slash]

end

/-- Segments with a resource behind them are written as the text without the slashes at its end and
the resource behind it. -/
theorem write_under {segments : List Path.Segment} (isPath : Path.IsPath kind segments)
    (resource : List Char) :
    Path.write (Path.trimmed segments ++ [resource]) =
      trimSlashes (Path.write segments) ++ '/' :: resource := by
  have noSlash : ∀ segment ∈ segments, '/' ∉ segment := fun segment isSegment member =>
    absurd ((isPath.each segment isSegment).no_slash '/' member) (by simp [Path.isSlash_slash])
  rw [Path.write_append, ← trimSlashes_write noSlash]
  simp [Path.write]

/-- Both slashes in front of an authority are dropped if it is empty. -/
theorem trimSlashes_authority {authority : Authority}
    (done : Percent.IsDone Url.endsAuthority authority.write) :
    trimSlashes ('/' :: '/' :: authority.write) =
      if authority.write = [] then [] else '/' :: '/' :: authority.write := by
  have noSlash : '/' ∉ authority.write := fun member => absurd (done '/' member).1 (by decide)
  have trimmed := trimSlashes_append ['/', '/'] authority.write
  rw [trimSlashes_of_not_mem noSlash] at trimmed
  exact trimmed

/-- The text of a target with a host, and of a resource under it. -/
theorem trimSlashes_hosted {authority : Authority} {segments : List Path.Segment}
    (done : Percent.IsDone Url.endsAuthority authority.write) (isPath : Path.IsPath kind segments)
    (resource : List Char) :
    trimSlashes (UrlTarget.hosted authority segments).write ++ '/' :: resource =
      if authority.write = [] ∧ trimSlashes (Path.write segments) = [] then '/' :: resource
      else (UrlTarget.hosted authority (Path.trimmed segments ++ [resource])).write := by
  rw [UrlTarget.write, UrlTarget.write, write_under isPath, trimSlashes_append,
    trimSlashes_authority done]
  by_cases noPath : trimSlashes (Path.write segments) = []
  · by_cases noAuthority : authority.write = []
    · simp [noPath, noAuthority]
    · simp [noPath, noAuthority]
  · simp [noPath]

/-- A resource is read under the path of a base that keeps its host. -/
theorem isUnder_hosted {authority : Authority} {segments : List Path.Segment}
    (isPath : Path.IsPath kind segments) (resource : List Char) :
    IsUnder (.hosted authority segments) resource
      (.hosted authority (Path.trimmed segments ++ [resource])) :=
  ⟨write_under isPath resource, rfl, rfl⟩

/-- Behind the scheme of files, a resource is a path on no host. -/
theorem readTarget_file_resource {resource : List Char} (isResource : IsResource resource) :
    Url.readTarget .file ('/' :: resource) =
      .ok (.hosted (Url.fileAuthority .empty) [resource]) := by
  have isRead : Url.readFileTarget ('/' :: resource) =
      .ok (Url.fileTarget .empty ('/' :: resource)) := by
    unfold Url.readFileTarget
    dsimp only
    split
    · next first second rest isText =>
        obtain ⟨rfl, rfl⟩ := List.cons.inj isText
        have notSlash := (isResource.isSegment .file).no_slash second List.mem_cons_self
        rw [if_neg (by simp [notSlash])]
    · rfl
  rw [Url.readTarget, isRead, Url.fileTarget, isResource.read_slash]
  simp

/-- Where nothing of the base is left, the resource alone is under it. -/
theorem isUnder_nothing {authority : Authority} {segments : List Path.Segment}
    {resource : List Char} {reached : UrlTarget}
    (alone : authority.host = .empty ∧ authority.port = none)
    (noPath : trimSlashes (Path.write segments) = []) (path : reached.path = '/' :: resource)
    (host : reached.host? = none) (port : reached.port? = none) :
    IsUnder (.hosted authority segments) resource reached where
  path := by rw [path, UrlTarget.path, noPath, List.nil_append]
  host := by rw [host, UrlTarget.host?, if_pos alone.1]
  port := by rw [port, UrlTarget.port?, alone.2]

theorem isSettled_fileAuthority {host : Host} (suits : host.Suits .file) :
    (Url.fileAuthority host).IsSettled .file :=
  ⟨fun _ isNone => (nomatch isNone), suits, fun _ isNone => (nomatch isNone), fun _ => ⟨rfl, rfl⟩⟩

/-- A resource under a path does not make it begin with a drive. -/
theorem isDrive_under {segments : List Path.Segment} {resource : List Char}
    (isResource : IsResource resource)
    (isDrive : Path.isDrive ((Path.trimmed segments ++ [resource]).take 1) = true) :
    Path.isDrive (segments.take 1) = true := by
  cases kept : Path.trimmed segments with
  | nil =>
      have long := isResource.long
      rw [kept] at isDrive
      unfold Path.isDrive at isDrive
      split at isDrive
      · next letter isOne =>
          rw [(List.cons.inj isOne).1] at long
          simp at long
      · cases isDrive
  | cons first others =>
      obtain ⟨dropped, whole⟩ := List.rdropWhile_prefix List.isEmpty segments
      rw [← Path.trimmed, kept] at whole
      rw [kept] at isDrive
      rw [← whole]
      exact isDrive

/-- A resource stands under a path without a host. -/
theorem isUnder_rooted {segments : List Path.Segment} (isPath : Path.IsPath .general segments)
    (resource : List Char) :
    IsUnder (.rooted segments) resource (.rooted (Path.trimmed segments ++ [resource])) :=
  ⟨write_under isPath resource, rfl, rfl⟩

/-- A resource behind a text that does not begin like a host does not make it one. -/
theorem head?_under_ne {text resource rest : List Char} (isResource : IsResource resource)
    (notHost : ∀ rest, text = '/' :: '/' :: rest → False)
    (isSplit : trimSlashes text ++ '/' :: resource = '/' :: rest) : rest.head? ≠ some '/' := by
  intro begins
  obtain ⟨others, rfl⟩ := List.head?_eq_some_iff.mp begins
  obtain ⟨dropped, whole⟩ := trimSlashes_isPrefix text
  cases kept : trimSlashes text with
  | nil =>
      rw [kept] at isSplit
      exact isResource.head?_ne (by rw [(List.cons.inj isSplit).2]; rfl)
  | cons first more =>
      rw [kept] at isSplit whole
      obtain ⟨rfl, isRest⟩ := List.cons.inj isSplit
      cases more with
      | nil =>
          have twice := trimSlashes_trimSlashes text
          rw [kept] at twice
          exact absurd twice (by decide)
      | cons second more =>
          obtain ⟨rfl, _⟩ := List.cons.inj isRest
          exact notHost (more ++ dropped) whole.symm

/-- With a resource behind its text a target is read as one that is under it. -/
theorem exists_isUnder {target : UrlTarget} (settled : target.IsSettled kind)
    {resource : List Char} (isResource : IsResource resource) :
    ∃ reached, Url.readTarget kind (trimSlashes target.write ++ '/' :: resource) = .ok reached ∧
      IsUnder target resource reached := by
  cases settled with
  | service settled isPath present =>
      have isUnder := isPath.under (isResource.isSegment _) isResource.canBegin
      rw [trimSlashes_hosted settled.done isPath, if_neg fun both => settled.write_ne_nil both.1]
      exact ⟨_, (UrlTarget.IsSettled.service settled isUnder
        (List.concat_ne_nil _ _)).readTarget_write, isUnder_hosted isPath resource⟩
  | @file host segments suits own isPath present =>
      have settled := isSettled_fileAuthority suits
      have isUnder := isPath.under (isResource.isSegment _) isResource.canBegin
      rw [trimSlashes_hosted settled.done isPath]
      split
      · next none =>
          exact ⟨_, readTarget_file_resource isResource, isUnder_nothing
            (settled.of_write_eq_nil none.1) none.2 (by simp [UrlTarget.path, Path.write]) rfl rfl⟩
      · exact ⟨_, (UrlTarget.IsSettled.file suits (fun isDrive =>
          own (isDrive_under isResource isDrive)) isUnder
          (List.concat_ne_nil _ _)).readTarget_write, isUnder_hosted isPath resource⟩
  | @general authority segments settled isPath =>
      have isUnder := isPath.under (isResource.isSegment _) isResource.canBegin
      rw [trimSlashes_hosted settled.done isPath]
      split
      · next none =>
          exact ⟨_, readTarget_slash_resource isResource, isUnder_nothing
            (settled.of_write_eq_nil none.1) none.2 (by simp [UrlTarget.path, Path.write]) rfl rfl⟩
      · exact ⟨_, (UrlTarget.IsSettled.general settled isUnder).readTarget_write,
          isUnder_hosted isPath resource⟩
  | @rooted segments isPath present =>
      have isUnder := isPath.under (isResource.isSegment _) isResource.canBegin
      have nonempty : Path.trimmed segments ++ [resource] ≠ [] := List.concat_ne_nil _ _
      refine ⟨_, ?_, isUnder_rooted isPath resource⟩
      rw [UrlTarget.write]
      split
      · next rest written =>
          have dotted : trimSlashes ('/' :: '.' :: '/' :: '/' :: rest) =
              '/' :: '.' :: trimSlashes (Path.write segments) := by
            have dot : trimSlashes ['/', '.'] = ['/', '.'] := by rfl
            rw [written]
            exact trimSlashes_append_of_trimmed dot _
          rw [dotted, List.cons_append, List.cons_append, ← write_under isPath,
            UrlTarget.readTarget_slash (by simp), Path.read_dot_write isUnder nonempty]
      · next notHost =>
          have written := Path.write_eq_joinWith nonempty
          have single := head?_under_ne isResource notHost
            ((write_under isPath resource).symm.trans written)
          rw [← write_under isPath, written, UrlTarget.readTarget_slash single, ← written,
            Path.read_write isUnder nonempty]
  | @plain text unbroken begins =>
      rw [UrlTarget.write]
      cases kept : trimSlashes text with
      | nil =>
          refine ⟨_, readTarget_slash_resource isResource, ?_, rfl, rfl⟩
          rw [UrlTarget.path, UrlTarget.path, kept]
          simp [Path.write]
      | cons first others =>
          have settled : UrlTarget.IsSettled .general
              (.plain (trimSlashes text ++ '/' :: resource)) := by
            obtain ⟨dropped, whole⟩ := trimSlashes_isPrefix text
            refine .plain (Percent.IsDone.append (fun c member => unbroken c ?_)
              isResource.unbroken) ?_
            · exact whole ▸ List.mem_append_left _ member
            · rw [kept]
              rw [← whole, kept] at begins
              exact begins
          rw [kept] at settled
          refine ⟨_, settled.readTarget_write, ?_, rfl, rfl⟩
          rw [UrlTarget.path, UrlTarget.path, kept]

end Onboarding.Client
