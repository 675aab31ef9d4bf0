import Onboarding.Proofs.Url.Character
import Onboarding.Proofs.Url.Ipv4
import Onboarding.Proofs.Url.Ipv6
import Onboarding.Url.Reading

/-! # Hosts, read back

A host of a well-known scheme is a settled name that is not meant as an address, or an address
(`Onboarding.Host.isNamed_of_read`); any other host is an address of version six or a text without
the characters that no host has (`Onboarding.Host.isPlain_of_readPlain`). Both are read from the
text they are written as, and nothing in that text ends the host.
-/

namespace Onboarding

/-- Characters that end an authority, or that no URL has. -/
def Url.endsAuthority (c : Char) : Bool :=
  Url.isBreak c || c == '/' || c == '\\'

/-- Characters that end a host, or that no URL has. -/
def Url.endsHost (c : Char) : Bool :=
  Url.endsAuthority c || c == '@'

/-! ## The port behind a host -/

namespace Url

/-- A text without colons and brackets stands in front of whatever is split. -/
theorem splitPort_append {text : List Char} (bare : ∀ c ∈ text, c ≠ ':' ∧ c ≠ '[')
    (rest : List Char) :
    splitPort false (text ++ rest) =
      (text ++ (splitPort false rest).1, (splitPort false rest).2) := by
  induction text with
  | nil => rfl
  | cons c text ih =>
      obtain ⟨first, others⟩ := List.forall_mem_cons.mp bare
      rw [List.cons_append, splitPort, if_neg fun both => first.1 both.1,
        beq_eq_false_iff_ne.mpr first.2, Bool.false_or, Bool.false_and, ih others]
      rfl

/-- Between brackets a colon does not split. -/
theorem splitPort_inBrackets {text : List Char} (inside : ']' ∉ text) (rest : List Char) :
    splitPort true (text ++ ']' :: rest) =
      (text ++ ']' :: (splitPort false rest).1, (splitPort false rest).2) := by
  induction text with
  | nil => rfl
  | cons c text ih =>
      rw [List.mem_cons, not_or] at inside
      have stays : (c == '[' || (true && c != ']')) = true := by simp [Ne.symm inside.1]
      rw [List.cons_append, splitPort, if_neg (by simp), stays, ih inside.2]
      rfl

end Url

/-! ## Characters of hosts -/

/-- A domain that is read is made of letters, figures and hyphens, with dots between
labels. -/
theorem Domain.isNameChar_of_read? {chars name : List Char} (isRead : read? chars = some name)
    {c : Char} (member : c ∈ name) : isNameChar c = true := by
  obtain ⟨labels, _, accepted, rfl⟩ := exists_labels_of_read? isRead
  rcases Text.mem_joinWith member with rfl | ⟨label, isLabel, inLabel⟩
  · rfl
  · simp only [areLabels, Bool.and_eq_true, List.all_eq_true] at accepted
    simp [isNameChar, accepted.1 label isLabel c inLabel]

/-- No character of a name ends a host, and none begins an encoded byte. -/
theorem Domain.isNameChar_stands {c : Char} (isName : isNameChar c = true) :
    Url.endsHost c = false ∧ c ≠ ':' ∧ c ≠ '[' ∧ c ≠ '%' := by
  refine Text.char_cases_of_ascii (motive := fun c => isNameChar c = true →
    Url.endsHost c = false ∧ c ≠ ':' ∧ c ≠ '[' ∧ c ≠ '%') ?_ (toNat_lt_of_isNameChar isName) isName
  decide +kernel

/-- The characters that are left to a host which is not looked into. -/
theorem Host.not_endsHost {c : Char} (allowed : isForbidden c = false)
    (notControl : Percent.isControl c = false) (ascii : c.toNat < 0x80) :
    Url.endsHost c = false ∧ c ≠ ':' ∧ c ≠ '[' := by
  refine Text.char_cases_of_ascii (motive := fun c => isForbidden c = false →
    Percent.isControl c = false → Url.endsHost c = false ∧ c ≠ ':' ∧ c ≠ '[')
    ?_ ascii allowed notControl
  decide +kernel

/-- A digit ends no host and is no mark. -/
theorem digitChar_stands {digit : Nat} (bound : digit < 16) :
    Url.endsHost digit.digitChar = false ∧ digit.digitChar.toNat < 0x80 ∧
      digit.digitChar ≠ ':' ∧ digit.digitChar ≠ '[' ∧ digit.digitChar ≠ ']' := by
  have signs : ∀ digit : Fin 16,
      Url.endsHost digit.val.digitChar = false ∧ digit.val.digitChar.toNat < 0x80 ∧
        digit.val.digitChar ≠ ':' ∧ digit.val.digitChar ≠ '[' ∧ digit.val.digitChar ≠ ']' := by
    decide +kernel
  exact signs ⟨digit, bound⟩

/-- The text of an address of version six. -/
theorem Ipv6.mem_write {address : Ipv6} {c : Char} (member : c ∈ address.write) :
    c = ':' ∨ ∃ digit < 16, c = digit.digitChar := by
  have ofPieces : ∀ pieces, c ∈ writePieces pieces →
      c = ':' ∨ ∃ digit < 16, c = digit.digitChar := by
    intro pieces inPieces
    rcases Text.mem_joinWith inPieces with isColon | ⟨text, isText, inText⟩
    · exact .inl isColon
    · obtain ⟨piece, _, rfl⟩ := List.mem_map.mp isText
      exact .inr (Ipv4.mem_toDigits (by decide) inText)
  rw [write] at member
  dsimp only at member
  split at member
  · exact ofPieces _ member
  · rcases List.mem_append.mp member with before | after
    · exact ofPieces _ before
    · rcases List.mem_cons.mp after with isColon | after
      · exact .inl isColon
      · rcases List.mem_cons.mp after with isColon | after
        · exact .inl isColon
        · exact ofPieces _ after

namespace Host

/-! ## Hosts of well-known schemes -/

/-- A host as it is read for a well-known scheme. -/
inductive IsNamed : Host → Prop
  | domain {name : List Char} (present : name ≠ []) (settled : Domain.read? name = some name)
      (noAddress : Ipv4.isMeant name = false) : IsNamed (domain name)
  | ipv4 (address : Ipv4) : IsNamed (ipv4 address)
  | ipv6 (address : Ipv6) : IsNamed (ipv6 address)

/-- A host as it is read for any other scheme. -/
inductive IsPlain : Host → Prop
  | empty : IsPlain empty
  | ipv6 (address : Ipv6) : IsPlain (ipv6 address)
  | plain {text : List Char} (present : text ≠ [])
      (allowed : ∀ c ∈ text, isForbidden c = false) (done : Percent.IsDone Percent.isControl text) :
      IsPlain (plain text)

theorem bracketed?_of_head {text : List Char} (begins : text.head? ≠ some '[') :
    bracketed? text = none := by
  unfold bracketed?
  split
  · exact absurd rfl begins
  · rfl

theorem bracketed?_brackets (text : List Char) :
    bracketed? ('[' :: text ++ [']']) = some (some text) := by
  simp [bracketed?]

/-- What is read between brackets is an address of version six. -/
theorem exists_ipv6_of_readBracketed {text : Option (List Char)} {host : Host}
    (isRead : readBracketed text = .ok host) : ∃ address, host = ipv6 address := by
  unfold readBracketed at isRead
  split at isRead
  · next address _ => exact ⟨address, (Except.ok.inj isRead).symm⟩
  · cases isRead

/-- An address of version six is read back between brackets. -/
theorem readBracketed_write (address : Ipv6) :
    readBracketed (some address.write) = .ok (ipv6 address) := by
  rw [readBracketed, Option.bind_some, Ipv6.read?_write]

theorem isNamed_of_read {text : List Char} {host : Host} (isRead : read text = .ok host) :
    host.IsNamed := by
  unfold read at isRead
  split at isRead
  · obtain ⟨address, rfl⟩ := exists_ipv6_of_readBracketed isRead
    exact .ipv6 address
  · split at isRead
    · cases isRead
    · cases isRead
    · next name empty settled =>
        split at isRead
        · split at isRead
          · cases Except.ok.inj isRead
            exact .ipv4 _
          · cases isRead
        · next noAddress =>
            cases Except.ok.inj isRead
            exact .domain empty (Domain.read?_eq_self settled) (Bool.eq_false_iff.mpr noAddress)

/-- A settled name is read as itself, or as the address that it is meant as. -/
theorem read_of_settled {name : List Char} (present : name ≠ [])
    (settled : Domain.read? name = some name) :
    (Ipv4.isMeant name = false → read name = .ok (domain name)) ∧
      ∀ address, Ipv4.isMeant name = true → Ipv4.read? name = some address →
        read name = .ok (ipv4 address) := by
  have stands := fun c member => Domain.isNameChar_stands
    (Domain.isNameChar_of_read? settled (c := c) member)
  have noBracket : bracketed? name = none :=
    bracketed?_of_head fun begins => (stands '[' (List.mem_of_head? begins)).2.2.1 rfl
  have bytes : Text.Utf8.decode (Percent.decode name) = name := by
    rw [Percent.decode_of_not_mem fun member => (stands '%' member).2.2.2 rfl,
      Text.Utf8.decode_encode]
  cases name with
  | nil => exact absurd rfl present
  | cons first rest =>
      refine ⟨fun meant => ?_, fun address meant isRead => ?_⟩
      · simp only [read, noBracket, bytes, settled, meant, Bool.false_eq_true, if_false]
      · simp only [read, noBracket, bytes, settled, meant, if_true, isRead]

/-- A host of a well-known scheme is read from its text. -/
theorem IsNamed.read_write {host : Host} (isNamed : host.IsNamed) :
    read host.write = .ok host := by
  cases isNamed with
  | domain present settled noAddress => exact (read_of_settled present settled).1 noAddress
  | ipv4 address =>
      exact (read_of_settled address.write_ne_nil address.domain_read?_write).2 address
        address.isMeant_write address.read?_write
  | ipv6 address => simp only [read, write, bracketed?_brackets, readBracketed_write]

theorem IsNamed.write_ne_nil {host : Host} (isNamed : host.IsNamed) : host.write ≠ [] := by
  cases isNamed with
  | domain present => exact present
  | ipv4 address => exact address.write_ne_nil
  | ipv6 address => exact List.cons_ne_nil _ _

/-! ## Other hosts -/

theorem isPlain_of_readPlain {text : List Char} {host : Host}
    (isRead : readPlain text = .ok host) : host.IsPlain := by
  unfold readPlain at isRead
  split at isRead
  · obtain ⟨address, rfl⟩ := exists_ipv6_of_readBracketed isRead
    exact .ipv6 address
  · split at isRead
    · cases Except.ok.inj isRead
      exact .empty
    · next present =>
        split at isRead
        · cases isRead
        · next allowed =>
            cases Except.ok.inj isRead
            refine .plain (Percent.encode_ne_nil fun isNil => present (isNil ▸ rfl)) ?_ ?_
            · refine Percent.forall_mem_encode
                (fun c isEncoded => (Percent.encodedChar_stands isEncoded).2.2.2.2.2.2)
                fun c member _ _ => ?_
              exact Bool.eq_false_iff.mpr fun forbidden =>
                allowed (List.any_eq_true.mpr ⟨c, member, forbidden⟩)
            · exact Percent.isDone_encode
                (fun c isEncoded => (Percent.encodedChar_stands isEncoded).1) _

theorem IsPlain.readPlain_write {host : Host} (isPlain : host.IsPlain) :
    readPlain host.write = .ok host := by
  cases isPlain with
  | empty => rfl
  | ipv6 address => simp only [readPlain, write, bracketed?_brackets, readBracketed_write]
  | @plain text present allowed done =>
      have noBracket : bracketed? text = none := bracketed?_of_head fun begins =>
        absurd (allowed '[' (List.mem_of_head? begins)) (by decide)
      have noneForbidden : text.any isForbidden = false :=
        List.any_eq_false.mpr fun c member => Bool.eq_false_iff.mp (allowed c member)
      simp only [readPlain, write, noBracket, List.isEmpty_eq_false_iff.mpr present, noneForbidden,
        done.encode_eq, Bool.false_eq_true, if_false]

/-! ## What ends a host -/

/-- A host as a URL has it once it is read. -/
def IsSettled (host : Host) : Prop :=
  host.IsNamed ∨ host.IsPlain

/-- A settled host that is written as nothing is empty. -/
theorem IsSettled.eq_empty {host : Host} (isSettled : host.IsSettled) (isNil : host.write = []) :
    host = empty := by
  rcases isSettled with named | plain
  · exact absurd isNil named.write_ne_nil
  · cases plain with
    | empty => rfl
    | ipv6 address => cases isNil
    | plain present => exact absurd isNil present

/-- A settled host is an address of version six, or has neither colons nor brackets. -/
theorem bare_or_ipv6 {host : Host} (isRead : host.IsSettled) :
    (∃ address, host = ipv6 address) ∨
      ∀ c ∈ host.write, Url.endsHost c = false ∧ c.toNat < 0x80 ∧ c ≠ ':' ∧ c ≠ '[' := by
  rcases isRead with named | plain
  · cases named with
    | domain present settled noAddress =>
        refine .inr fun c member => ?_
        have isName := Domain.isNameChar_of_read? settled member
        have stands := Domain.isNameChar_stands isName
        exact ⟨stands.1, Domain.toNat_lt_of_isNameChar isName, stands.2.1, stands.2.2.1⟩
    | ipv4 address =>
        refine .inr fun c member => ?_
        rcases Text.mem_joinWith member with rfl | ⟨label, isLabel, inLabel⟩
        · decide
        · obtain ⟨digit, bound, rfl⟩ := Ipv4.decimal_of_mem_labels isLabel inLabel
          have stands := digitChar_stands (by omega : digit < 16)
          exact ⟨stands.1, stands.2.1, stands.2.2.1, stands.2.2.2.1⟩
    | ipv6 address => exact .inl ⟨address, rfl⟩
  · cases plain with
    | empty => exact .inr fun c member => nomatch member
    | ipv6 address => exact .inl ⟨address, rfl⟩
    | plain present allowed done =>
        refine .inr fun c member => ?_
        have stands := not_endsHost (allowed c member) (done c member).1 (done c member).2
        exact ⟨stands.1, (done c member).2, stands.2.1, stands.2.2⟩

/-- A settled host goes on to its end. -/
theorem IsSettled.done {host : Host} (isRead : host.IsSettled) :
    Percent.IsDone Url.endsHost host.write := by
  rcases bare_or_ipv6 isRead with ⟨address, rfl⟩ | bare
  · refine List.forall_mem_cons.mpr ⟨by decide, List.forall_mem_append.mpr
      ⟨fun c member => ?_, List.forall_mem_singleton.mpr (by decide)⟩⟩
    rcases Ipv6.mem_write member with rfl | ⟨digit, bound, rfl⟩
    · decide
    · exact ⟨(digitChar_stands bound).1, (digitChar_stands bound).2.1⟩
  · exact fun c member => ⟨(bare c member).1, (bare c member).2.1⟩

/-- The port is found behind a host. -/
theorem IsSettled.splitPort_write {host : Host} (isRead : host.IsSettled) (rest : List Char) :
    Url.splitPort false (host.write ++ rest) =
      (host.write ++ (Url.splitPort false rest).1, (Url.splitPort false rest).2) := by
  rcases bare_or_ipv6 isRead with ⟨address, rfl⟩ | bare
  · have inside : ']' ∉ address.write := by
      intro member
      rcases Ipv6.mem_write member with isColon | ⟨digit, bound, isDigit⟩
      · exact absurd isColon (by decide)
      · exact (digitChar_stands bound).2.2.2.2 isDigit.symm
    have opened : Url.splitPort false (write (ipv6 address) ++ rest) =
        ('[' :: (Url.splitPort true (address.write ++ ']' :: rest)).1,
          (Url.splitPort true (address.write ++ ']' :: rest)).2) := by
      simp [write, Url.splitPort]
    rw [opened, Url.splitPort_inBrackets inside]
    simp [write]
  · exact Url.splitPort_append (fun c member => (bare c member).2.2) rest

end Host

end Onboarding
