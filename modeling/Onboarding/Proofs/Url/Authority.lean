import Mathlib.Data.List.TakeWhile
import Onboarding.Proofs.Result
import Onboarding.Proofs.Url.Host

/-! # Authorities, read back

A user is marked by the last at sign of an authority, and a port by the first colon behind the
host. Both are encoded, or made of digits, so that neither mark stands where it would be taken for
another: an authority is read from the text it is written as
(`Onboarding.Authority.IsSettled.readAuthority_write`).
-/

namespace Onboarding

/-! ## Splitting at a mark -/

namespace Url

theorem splitFirst_of_not_mem {mark : Char} {text : List Char} (absent : mark ∉ text) :
    splitFirst mark text = (text, none) := by
  have other : text.dropWhile (· ≠ mark) = [] :=
    List.dropWhile_eq_nil_iff.mpr fun c member =>
      decide_eq_true fun isMark => absent (isMark ▸ member)
  rw [splitFirst, other]

/-- A text is split at a mark if there is none in front of it. -/
theorem splitFirst_append {mark : Char} {text : List Char} (absent : mark ∉ text)
    (rest : List Char) : splitFirst mark (text ++ mark :: rest) = (text, some rest) := by
  have others : ∀ c ∈ text, decide (c ≠ mark) = true := fun c member =>
    decide_eq_true fun isMark => absent (isMark ▸ member)
  rw [splitFirst, List.dropWhile_append_of_pos others, List.takeWhile_append_of_pos others]
  simp

/-- A part is found behind the first mark. -/
theorem splitFirst_writePart {mark : Char} {text : List Char} (absent : mark ∉ text)
    (part : Option (List Char)) : splitFirst mark (text ++ writePart mark part) = (text, part) := by
  cases part with
  | none => rw [writePart, List.append_nil, splitFirst_of_not_mem absent]
  | some rest => exact splitFirst_append absent rest

/-- There is no mark in front of the first one. -/
theorem not_mem_splitFirst (mark : Char) (text : List Char) : mark ∉ (splitFirst mark text).1 := by
  intro member
  unfold splitFirst at member
  split at member
  · next allOther =>
      have other := List.dropWhile_eq_nil_iff.mp allOther mark member
      exact of_decide_eq_true other rfl
  · have inFront : mark ∈ text.takeWhile (· ≠ mark) := member
    have other := List.mem_takeWhile_imp inFront
    exact of_decide_eq_true other rfl

theorem splitLast_of_not_mem {mark : Char} {text : List Char} (absent : mark ∉ text) :
    splitLast mark text = (none, text) := by
  have behind : mark ∉ text.reverse := fun member => absent (List.mem_reverse.mp member)
  simp [splitLast, splitFirst_of_not_mem behind]

theorem splitLast_append {mark : Char} {rest : List Char} (absent : mark ∉ rest)
    (text : List Char) : splitLast mark (text ++ mark :: rest) = (some text, rest) := by
  have behind : mark ∉ rest.reverse := fun member => absent (List.mem_reverse.mp member)
  have turned : (text ++ mark :: rest).reverse = rest.reverse ++ mark :: text.reverse := by simp
  simp [splitLast, turned, splitFirst_append behind]

end Url

/-! ## Users -/

/-- A user as it is read. -/
structure UrlUser.IsSettled (user : UrlUser) : Prop where
  name : Percent.IsDone Percent.inUser user.name
  password : Percent.IsDone Percent.inUser user.password
  present : ¬(user.name = [] ∧ user.password = [])

/-- The text of a user in front of the at sign. -/
def UrlUser.credentials (user : UrlUser) : List Char :=
  user.name ++ if user.password = [] then [] else ':' :: user.password

/-- A user that is read is settled. -/
theorem UrlUser.isSettled_of_readUser {text : List Char} {user : UrlUser}
    (isRead : Url.readUser text = some user) : user.IsSettled := by
  unfold Url.readUser at isRead
  dsimp only at isRead
  split at isRead
  · cases isRead
  · next present =>
      cases Option.some.inj isRead
      have stands := fun c isEncoded => (Percent.encodedChar_stands (c := c) isEncoded).2.2.2.2.2.1
      exact ⟨Percent.isDone_encode stands _, Percent.isDone_encode stands _, present⟩

/-- A settled user is read back. -/
theorem UrlUser.IsSettled.readUser_credentials {user : UrlUser} (isSettled : user.IsSettled) :
    Url.readUser user.credentials = some user := by
  have noColon : ':' ∉ user.name := fun member =>
    absurd (isSettled.name ':' member).1 (by decide)
  have isSplit : Url.splitFirst ':' user.credentials =
      (user.name, if user.password = [] then none else some user.password) := by
    rw [credentials]
    split
    · rw [List.append_nil, Url.splitFirst_of_not_mem noColon]
    · exact Url.splitFirst_append noColon _
  have password : (if user.password = [] then none else some user.password).getD [] =
      user.password := by
    split
    · next isNil => exact isNil.symm
    · rfl
  simp only [Url.readUser, isSplit, password, isSettled.name.encode_eq,
    isSettled.password.encode_eq, if_neg isSettled.present]

/-! ## Authorities -/

/-- A host as it is read for a scheme. -/
inductive Host.Suits : SchemeKind → Host → Prop
  | service {port : Nat} {host : Host} (named : host.IsNamed) : Suits (.service port) host
  | own : Suits .file empty
  | file {host : Host} (named : host.IsNamed) (other : host ≠ domain ownName) : Suits .file host
  | general {host : Host} (plain : host.IsPlain) : Suits .general host

/-- A host that suits a scheme is settled. -/
theorem Host.Suits.isSettled {kind : SchemeKind} {host : Host} (suits : host.Suits kind) :
    host.IsSettled := by
  cases suits with
  | service named => exact .inl named
  | own => exact .inr .empty
  | file named => exact .inl named
  | general plain => exact .inr plain

/-- An authority as it is read. -/
structure Authority.IsSettled (kind : SchemeKind) (authority : Authority) : Prop where
  user : ∀ user ∈ authority.user, user.IsSettled
  host : authority.host.Suits kind
  port : ∀ port ∈ authority.port, port ≤ 0xFFFF ∧ some port ≠ kind.defaultPort?
  alone : authority.host = .empty → authority.user = none ∧ authority.port = none

namespace Authority

variable {kind : SchemeKind}

/-- The text of a port with its mark. -/
def writePort (port : Option Nat) : List Char :=
  Url.writePart ':' (port.map (Nat.toDigits 10))

/-- The text of an authority: what stands in front of the host, the host, and its port. -/
theorem write_eq (authority : Authority) :
    authority.write =
      (match authority.user with
      | some user => user.credentials ++ ['@']
      | none => []) ++ (authority.host.write ++ writePort authority.port) := by
  obtain ⟨user, host, port⟩ := authority
  cases user <;> cases port <;>
    simp [write, UrlUser.write, UrlUser.credentials, writePort, Url.writePart]

/-- A port is read back if it is small enough and not the default one. -/
theorem readPort_write {port : Option Nat}
    (allowed : ∀ number ∈ port, number ≤ 0xFFFF ∧ some number ≠ kind.defaultPort?) :
    Url.readPort kind ((port.map (Nat.toDigits 10)).getD []) = .ok port := by
  cases port with
  | none => rfl
  | some number =>
      obtain ⟨small, shown⟩ := allowed number rfl
      rw [Option.map_some, Option.getD_some, Url.readPort,
        List.isEmpty_eq_false_iff.mpr Nat.toDigits_ne_nil, if_neg Bool.false_ne_true,
        Ipv4.number?_toDigits (by decide) (by decide)]
      dsimp only
      rw [if_neg (by omega), if_neg shown]

/-- A port that is read is small enough and not the default one. -/
theorem allowed_of_readPort {digits : List Char} {port : Option Nat}
    (isRead : Url.readPort kind digits = .ok port) :
    ∀ number ∈ port, number ≤ 0xFFFF ∧ some number ≠ kind.defaultPort? := by
  unfold Url.readPort at isRead
  split at isRead
  · cases Except.ok.inj isRead
    exact fun _ isNone => nomatch isNone
  · split at isRead
    · cases isRead
    · split at isRead
      · cases isRead
      · next small =>
          cases Except.ok.inj isRead
          split
          · exact fun _ isNone => nomatch isNone
          · next shown =>
              intro number isPort
              cases Option.some.inj isPort
              exact ⟨by omega, shown⟩

/-- The marks of a port and its digits. -/
theorem writePort_done (port : Option Nat) : Percent.IsDone Url.endsHost (writePort port) := by
  cases port with
  | none => exact fun _ member => nomatch member
  | some number =>
      refine List.forall_mem_cons.mpr ⟨by decide, fun c member => ?_⟩
      obtain ⟨digit, bound, rfl⟩ := Ipv4.mem_toDigits (by decide) member
      have stands := digitChar_stands (by omega : digit < 16)
      exact ⟨stands.1, stands.2.1⟩

/-- A settled host is split from its port. -/
theorem splitPort_place {host : Host} (isSettled : host.IsSettled) (port : Option Nat) :
    Url.splitPort false (host.write ++ writePort port) =
      (host.write, port.map (Nat.toDigits 10)) := by
  rw [isSettled.splitPort_write]
  cases port <;> simp [writePort, Url.writePart, Url.splitPort]

/-- A settled authority is split from its user. -/
theorem splitLast_write {authority : Authority} (isSettled : authority.IsSettled kind) :
    Url.splitLast '@' authority.write =
      (authority.user.map UrlUser.credentials,
        authority.host.write ++ writePort authority.port) := by
  have absent : '@' ∉ authority.host.write ++ writePort authority.port := by
    intro member
    rcases List.mem_append.mp member with inHost | inPort
    · exact absurd (isSettled.host.isSettled.done '@' inHost).1 (by decide)
    · exact absurd (writePort_done authority.port '@' inPort).1 (by decide)
  rw [write_eq]
  cases authority.user with
  | none => exact Url.splitLast_of_not_mem absent
  | some user =>
      dsimp only
      rw [List.append_assoc, List.singleton_append]
      exact Url.splitLast_append absent _

/-- Read the host of a URL that is not the one of a file. -/
def readHost (kind : SchemeKind) (text : List Char) : Except UrlError Host :=
  if kind = .general then Host.readPlain text else Host.read text

/-- An authority is read by its last at-sign, and by the port at its end. -/
theorem readAuthority_eq (text : List Char) :
    Url.readAuthority kind text =
      readHost kind (Url.splitPort false (Url.splitLast '@' text).2).1 >>= fun host =>
        if host = .empty ∧ ((Url.splitLast '@' text).1.isSome ∨
            (Url.splitPort false (Url.splitLast '@' text).2).2.isSome) then
          .error .emptyHost
        else
          (Url.readPort kind ((Url.splitPort false (Url.splitLast '@' text).2).2.getD [])).map
            fun port => ⟨(Url.splitLast '@' text).1.bind Url.readUser, host, port⟩ := by
  by_cases isGeneral : kind = .general
  · simp only [Url.readAuthority, readHost, if_pos isGeneral]
    rfl
  · simp only [Url.readAuthority, readHost, if_neg isGeneral]
    rfl

/-- A host is read back if it suits the scheme. -/
theorem readHost_write {host : Host} (suits : host.Suits kind) (notFile : kind ≠ .file) :
    readHost kind host.write = .ok host := by
  cases suits with
  | service named => exact named.read_write
  | own => exact absurd rfl notFile
  | file => exact absurd rfl notFile
  | general plain => exact plain.readPlain_write

/-- A host that is read suits the scheme. -/
theorem suits_of_readHost {text : List Char} {host : Host} (notFile : kind ≠ .file)
    (isRead : readHost kind text = .ok host) : host.Suits kind := by
  cases kind with
  | file => exact absurd rfl notFile
  | service port => exact .service (Host.isNamed_of_read isRead)
  | general => exact .general (Host.isPlain_of_readPlain isRead)

/-- An authority is read from its text. -/
theorem IsSettled.readAuthority_write {authority : Authority} (isSettled : authority.IsSettled kind)
    (notFile : kind ≠ .file) : Url.readAuthority kind authority.write = .ok authority := by
  have users : (authority.user.map UrlUser.credentials).bind Url.readUser = authority.user := by
    cases given : authority.user with
    | none => rfl
    | some user => exact (isSettled.user user given).readUser_credentials
  have placed : ¬(authority.host = .empty ∧
      ((authority.user.map UrlUser.credentials).isSome = true ∨
        (authority.port.map (Nat.toDigits 10)).isSome = true)) := by
    rintro ⟨isEmpty, isGiven⟩
    obtain ⟨noUser, noPort⟩ := isSettled.alone isEmpty
    simp [noUser, noPort] at isGiven
  rw [readAuthority_eq, splitLast_write isSettled, splitPort_place isSettled.host.isSettled,
    readHost_write isSettled.host notFile, users, readPort_write isSettled.port]
  exact if_neg placed

/-- What is read as an authority is settled. -/
theorem isSettled_of_readAuthority {text : List Char} {authority : Authority}
    (notFile : kind ≠ .file) (isRead : Url.readAuthority kind text = .ok authority) :
    authority.IsSettled kind := by
  rw [readAuthority_eq, bind_eq_ok_iff] at isRead
  obtain ⟨host, isHost, isRead⟩ := isRead
  split at isRead
  · cases isRead
  · next placed =>
      obtain ⟨port, isPort, rfl⟩ := map_eq_ok_iff.mp isRead
      refine ⟨fun user isUser => ?_, suits_of_readHost notFile isHost, allowed_of_readPort isPort,
        fun isEmpty => ?_⟩
      · obtain ⟨_, _, isUser⟩ := Option.bind_eq_some_iff.mp isUser
        exact UrlUser.isSettled_of_readUser isUser
      · have isEmpty : host = .empty := isEmpty
        simp only [isEmpty, true_and, not_or, Bool.not_eq_true, Option.isSome_eq_false_iff,
          Option.isNone_iff_eq_none] at placed
        rw [placed.2] at isPort
        exact ⟨by rw [placed.1]; rfl, (Except.ok.inj isPort).symm⟩

theorem endsAuthority_of_endsHost {chars : List Char} (done : Percent.IsDone Url.endsHost chars) :
    Percent.IsDone Url.endsAuthority chars :=
  fun c member => ⟨(Bool.or_eq_false_iff.mp (done c member).1).1, (done c member).2⟩

/-- What needs no encoding in a user goes on within an authority. -/
theorem not_endsAuthority_of_inUser {chars : List Char}
    (done : Percent.IsDone Percent.inUser chars) : Percent.IsDone Url.endsAuthority chars := by
  intro c member
  refine ⟨?_, (done c member).2⟩
  refine Text.char_cases_of_ascii (motive := fun c => Percent.inUser c = false →
    Url.endsAuthority c = false) ?_ (done c member).2 (done c member).1
  decide +kernel

/-- Only an authority of no host is written as nothing. -/
theorem IsSettled.of_write_eq_nil {authority : Authority} (isSettled : authority.IsSettled kind)
    (isNil : authority.write = []) : authority.host = .empty ∧ authority.port = none := by
  rw [write_eq] at isNil
  have noHost := (List.append_eq_nil_iff.mp (List.append_eq_nil_iff.mp isNil).2).1
  have isEmpty := isSettled.host.isSettled.eq_empty noHost
  exact ⟨isEmpty, (isSettled.alone isEmpty).2⟩

/-- The authority of a service is never empty. -/
theorem IsSettled.write_ne_nil {port : Nat} {authority : Authority}
    (isSettled : authority.IsSettled (.service port)) : authority.write ≠ [] := by
  intro isNil
  have isEmpty := (isSettled.of_write_eq_nil isNil).1
  cases isSettled.host with
  | service named => exact named.write_ne_nil (isEmpty ▸ rfl)

/-- Nothing in the text of an authority ends it. -/
theorem IsSettled.done {authority : Authority} (isSettled : authority.IsSettled kind) :
    Percent.IsDone Url.endsAuthority authority.write := by
  have place : Percent.IsDone Url.endsAuthority
      (authority.host.write ++ writePort authority.port) :=
    endsAuthority_of_endsHost (isSettled.host.isSettled.done.append (writePort_done _))
  rw [write_eq]
  cases given : authority.user with
  | none => exact place
  | some user =>
      have settled := isSettled.user user given
      refine Percent.IsDone.append
        (Percent.IsDone.append ?_ (List.forall_mem_singleton.mpr (by decide))) place
      refine (not_endsAuthority_of_inUser settled.name).append ?_
      split
      · exact fun _ member => nomatch member
      · exact List.forall_mem_cons.mpr ⟨by decide, not_endsAuthority_of_inUser settled.password⟩

end Authority

end Onboarding
