import Onboarding.Proofs.Domain.Label
import Onboarding.Proofs.Url.Numeral

/-! # Addresses of version four, read back

The text of an address is a domain name of four decimal labels. It is read as itself by the rules
for names, its last label makes it an address, and the address read from it is the one that was
written (`Onboarding.Ipv4.read?_write`).
-/

namespace Onboarding.Ipv4

/-- The labels of a written address. -/
def labels (address : Ipv4) : List (List Char) :=
  address.bytes.map (Nat.toDigits 10)

theorem labels_ne_nil (address : Ipv4) : address.labels ≠ [] :=
  List.cons_ne_nil _ _

/-- The bytes of an address are written in decimal digits. -/
theorem decimal_of_mem_labels {address : Ipv4} {label : List Char}
    (isLabel : label ∈ address.labels) {c : Char} (member : c ∈ label) :
    ∃ digit < 10, c = digit.digitChar := by
  obtain ⟨byte, _, rfl⟩ := List.mem_map.mp isLabel
  exact mem_toDigits (by decide) member

/-- A written address is a domain name. -/
theorem domain_read?_write (address : Ipv4) : Domain.read? address.write = some address.write := by
  refine Domain.read?_joinWith (labels_ne_nil address) (Domain.areLabels_of_plain ?_ ?_)
  · intro label isLabel c member
    obtain ⟨digit, bound, rfl⟩ := decimal_of_mem_labels isLabel member
    have digits : ∀ digit : Fin 10, Domain.isLabelChar digit.val.digitChar = true := by decide
    exact digits ⟨digit, bound⟩
  · intro label isLabel
    refine Bool.eq_false_iff.mpr fun isMarked => ?_
    have marked : 'x' ∈ label :=
      (List.isPrefixOf_iff_prefix.mp isMarked).subset (by decide : 'x' ∈ Domain.asciiMark)
    obtain ⟨digit, bound, isDigit⟩ := decimal_of_mem_labels isLabel marked
    exact Nat.digitChar_ne 'x' (by decide) isDigit.symm

/-- The parts of a written address are its four numbers. -/
theorem parts_write (address : Ipv4) : parts address.write = address.labels := by
  have noPoints : ∀ label ∈ address.labels, '.' ∉ label := by
    intro label isLabel member
    obtain ⟨digit, bound, isPoint⟩ := decimal_of_mem_labels isLabel member
    exact Nat.digitChar_ne '.' (by decide) isPoint.symm
  have isSplit : Text.splitAt '.' address.write = address.labels :=
    Text.splitAt_joinWith (labels_ne_nil address) noPoints
  rw [parts, isSplit, if_neg]
  rintro ⟨_, endsEmpty⟩
  exact Nat.toDigits_ne_nil (Option.some.inj endsEmpty)

/-- A written address is meant as one. -/
theorem isMeant_write (address : Ipv4) : isMeant address.write = true := by
  rw [isMeant, parts_write]
  simp only [labels, bytes, List.map_cons, List.map_nil, List.getLast?_cons_cons,
    List.getLast?_singleton, part?_toDigits, Option.isSome_some, Bool.or_true]

theorem write_ne_nil (address : Ipv4) : address.write ≠ [] := by
  intro isNil
  have meant := address.isMeant_write
  rw [isNil] at meant
  exact absurd meant (by decide)

/-- The bytes of an address put together are the address. -/
theorem ofNumbers?_bytes (address : Ipv4) : ofNumbers? address.bytes = some address := by
  have bound := address.bits.toNat_lt
  have whole : ((address.bits.toNat / 16777216 * 256 + address.bits.toNat / 65536 % 256) * 256 +
      address.bits.toNat / 256 % 256) * 256 + address.bits.toNat % 256 = address.bits.toNat := by
    omega
  have fits : address.bits.toNat / 16777216 < 256 := by omega
  simp [ofNumbers?, bytes, fits, whole, Nat.mod_lt]

/-- A written address is read as that address. -/
theorem read?_write (address : Ipv4) : read? address.write = some address := by
  have numbers : address.labels.mapM part? = some address.bytes := by
    rw [labels, List.mapM_map]
    have each := Domain.mapM_eq_some_of_forall (g := id) fun byte (_ : byte ∈ address.bytes) =>
      part?_toDigits byte
    rwa [List.map_id] at each
  rw [read?, parts_write, numbers, Option.bind_some, ofNumbers?_bytes]

end Onboarding.Ipv4
