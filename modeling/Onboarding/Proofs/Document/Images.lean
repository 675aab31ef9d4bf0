import Onboarding.Proofs.Document.Kernel
import Onboarding.Proofs.Text.ByteOrder

/-! # Base images under their names

Of several base images with one name the last one stands in a document, and there is one entry for
each name (`Onboarding.Document.images_keyed_by_name`). So only the order among images of one name
counts, and what an image hid appears again when that image is removed.
-/

namespace Onboarding.Document

/-- The images with a name, in their order. -/
def named (images : List ImageTag) (name : String) : List ImageTag :=
  images.filter (·.name = name)

/-- The last image with a name. -/
def lastNamed? (images : List ImageTag) (name : String) : Option ImageTag :=
  (named images name).getLast?

section

variable {images others : List ImageTag} {name : String}

theorem named_append (left right : List ImageTag) (name : String) :
    named (left ++ right) name = named left name ++ named right name :=
  List.filter_append ..

/-- The last image of a name is in the second list, if that has one. -/
theorem lastNamed?_append (left right : List ImageTag) (name : String) :
    lastNamed? (left ++ right) name = (lastNamed? right name).or (lastNamed? left name) := by
  rw [lastNamed?, named_append, List.getLast?_append]
  rfl

/-- Under a name stands the last image of that name. -/
theorem find?_imagesByName_eq (images : List ImageTag) (name : String) :
    (imagesByName images).find? name = lastNamed? images name := by
  rw [find?_imagesByName, lastNamed?, named, List.getLast?_filter]

/-- Images are keyed by their names. -/
theorem map_fst_keyed (images : List ImageTag) :
    (images.map fun image => (image.name, image)).map Prod.fst = images.map (·.name) := by
  rw [List.map_map]
  rfl

/-- The keys are the names that occur. -/
theorem mem_keys_imagesByName :
    name ∈ (imagesByName images).keys ↔ ∃ image ∈ images, image.name = name := by
  rw [imagesByName, KeyMap.mem_keys_ofList, map_fst_keyed, List.mem_map]

/-- The order among images of different names does not matter. -/
theorem imagesByName_congr (same : ∀ name, named others name = named images name) :
    imagesByName others = imagesByName images := by
  refine KeyMap.ext_find? fun name => ?_
  rw [find?_imagesByName_eq, find?_imagesByName_eq, lastNamed?, lastNamed?, same]

/-- Images of different names may come in any order. -/
theorem imagesByName_perm (distinct : (images.map (·.name)).Nodup) (perm : others.Perm images) :
    imagesByName others = imagesByName images := by
  rw [← map_fst_keyed] at distinct
  exact (KeyMap.ofList_perm distinct (perm.symm.map _)).symm

/-- Images of other names are left when an image is removed. -/
theorem named_eraseIdx {position : Nat} {image : ImageTag}
    (isThere : images[position]? = some image) (other : name ≠ image.name) :
    named (images.eraseIdx position) name = named images name := by
  obtain ⟨bound, isImage⟩ := List.getElem?_eq_some_iff.mp isThere
  have isSplit : images = images.take position ++ image :: images.drop (position + 1) := by
    rw [← isImage, List.cons_getElem_drop_succ, List.take_append_drop]
  have notNamed : named (image :: images.drop (position + 1)) name =
      named (images.drop (position + 1)) name :=
    List.filter_cons_of_neg (by simpa using Ne.symm other)
  conv_rhs => rw [isSplit, named_append, notNamed]
  rw [List.eraseIdx_eq_take_drop_succ, named_append]

end

/-- There is an entry for every name of a base image, which holds the last image of that name, and
none for anything else. The entries are in the order of the bytes of their names, one for each name.
The map stays the same when base images are put in another order in which those of one name keep
theirs, and in any order if no two have one name. Without the image at a position it is the same at
all other names, and at the name of that image it holds the last one of those behind the position,
or else of those in front of it, or nothing. -/
theorem images_keyed_by_name (images : List ImageTag) :
    (∀ name, name ∈ (imagesByName images).keys ↔ ∃ image ∈ images, image.name = name) ∧
    (∀ name, (imagesByName images).find? name = lastNamed? images name) ∧
    (imagesByName images).keys.Pairwise (fun left right => Text.bytes left < Text.bytes right) ∧
    (imagesByName images).keys.length = (images.map (·.name)).toFinset.card ∧
    (∀ others, (∀ name, named others name = named images name) →
      imagesByName others = imagesByName images) ∧
    (∀ others, others.Perm images → (images.map (·.name)).Nodup →
      imagesByName others = imagesByName images) ∧
    ∀ position image, images[position]? = some image →
      (∀ name, name ≠ image.name → (imagesByName (images.eraseIdx position)).find? name =
        (imagesByName images).find? name) ∧
      (imagesByName (images.eraseIdx position)).find? image.name =
        (lastNamed? (images.drop (position + 1)) image.name).or
          (lastNamed? (images.take position) image.name) := by
  refine ⟨fun _ => mem_keys_imagesByName, find?_imagesByName_eq images, ?_, ?_,
    fun _ => imagesByName_congr, fun _ perm distinct => imagesByName_perm distinct perm, ?_⟩
  · exact List.pairwise_map.mpr ((imagesByName images).increasing.imp Text.bytes_lt)
  · rw [imagesByName, KeyMap.length_keys_ofList, map_fst_keyed]
  · intro position image isThere
    refine ⟨fun name other => ?_, ?_⟩
    · rw [find?_imagesByName_eq, find?_imagesByName_eq, lastNamed?, lastNamed?,
        named_eraseIdx isThere other]
    · rw [find?_imagesByName_eq, List.eraseIdx_eq_take_drop_succ, lastNamed?_append]

/-- An image of another name may change its place, and an image that was hidden appears again when
the one that hid it is removed. -/
theorem images_keyed_by_name_sample :
    let older : ImageTag := ⟨"base", "ocp", "4.13"⟩
    let system : ImageTag := ⟨"os", "origin", "centos8"⟩
    let newer : ImageTag := ⟨"base", "ocp", "4.14"⟩
    let images := [older, system, newer]
    (∀ name, named [system, older, newer] name = named images name) ∧
    imagesByName [system, older, newer] = imagesByName images ∧
    ([older, system].map (·.name)).Nodup ∧
    imagesByName [system, older] = imagesByName [older, system] ∧
    images[2]? = some newer ∧
    (imagesByName images).find? "base" = some newer ∧
    (imagesByName (images.eraseIdx 2)).find? "base" = some older ∧
    (imagesByName (images.eraseIdx 2)).find? "os" = some system := by
  intro older system newer images
  have sameOrder (name : String) : named [system, older, newer] name = named images name := by
    by_cases isBase : "base" = name
    · subst isBase
      decide
    · simp [named, images, older, newer, List.filter_cons, isBase]
  have distinct : ([older, system].map (·.name)).Nodup := by decide
  obtain ⟨_, found, _, _, reordered, _, removed⟩ := images_keyed_by_name images
  obtain ⟨_, _, _, _, _, exchanged, _⟩ := images_keyed_by_name [older, system]
  obtain ⟨others, hidden⟩ := removed 2 newer rfl
  exact ⟨sameOrder, reordered _ sameOrder, distinct, exchanged _ (.swap older system []) distinct,
    rfl, (found "base").trans (by decide), hidden.trans (by decide),
    (others "os" (by decide)).trans ((found "os").trans (by decide))⟩

end Onboarding.Document
