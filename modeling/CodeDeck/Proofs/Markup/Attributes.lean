import CodeDeck.Markup.Tree
import Mathlib.Data.List.Nodup

namespace CodeDeck.Markup

/-!
# Attributes of an element

An attribute is put in place of the one of its name, or at the end. So names
stay distinct, the attribute put last is the one that is found, and all others
are as before.
-/

/-- The names of attributes. -/
def attributeNames (attributes : List Attribute) : List String :=
  attributes.map Attribute.name

namespace Tag

variable {tag : Tag} {name value : String}

@[simp] theorem id_put (tag : Tag) (name value : String) : (tag.put name value).id = tag.id :=
  rfl

theorem attributeNames_put (tag : Tag) (name value : String) :
    attributeNames (tag.put name value).attributes =
      if name ∈ attributeNames tag.attributes then attributeNames tag.attributes
      else attributeNames tag.attributes ++ [name] := by
  have onList (attributes : List Attribute) :
      attributeNames (put.go name value attributes) =
        if name ∈ attributeNames attributes then attributeNames attributes
        else attributeNames attributes ++ [name] := by
    induction attributes with
    | nil => simp [put.go, attributeNames]
    | cons entry rest inductionHypothesis =>
        simp only [attributeNames] at inductionHypothesis
        simp only [put.go, attributeNames, List.map_cons, List.mem_cons]
        by_cases same : entry.name = name
        · simp [same]
        · rw [if_neg same, List.map_cons, inductionHypothesis]
          by_cases inRest : name ∈ rest.map Attribute.name
          · simp [inRest]
          · simp [inRest, Ne.symm same]
  exact onList tag.attributes

theorem nodup_put
    (nodup : (attributeNames tag.attributes).Nodup)
    (name value : String) :
    (attributeNames (tag.put name value).attributes).Nodup := by
  rw [attributeNames_put]
  split
  · exact nodup
  · rename_i isNew
    rw [List.nodup_append]
    refine ⟨nodup, List.nodup_singleton _, ?_⟩
    rintro other member _ isName rfl
    exact isNew (List.mem_singleton.mp isName ▸ member)

theorem put_go_of_new
    {attributes : List Attribute}
    (isNew : name ∉ attributeNames attributes) :
    put.go name value attributes = attributes ++ [⟨name, value⟩] := by
  induction attributes with
  | nil => rfl
  | cons entry rest inductionHypothesis =>
      rw [attributeNames, List.map_cons, List.mem_cons, not_or] at isNew
      rw [put.go, if_neg (Ne.symm isNew.1), inductionHypothesis isNew.2, List.cons_append]

/-- Of two values under one name the second one is left. -/
theorem put_put (tag : Tag) (name first second : String) :
    (tag.put name first).put name second = tag.put name second := by
  have onList (attributes : List Attribute) :
      put.go name second (put.go name first attributes) = put.go name second attributes := by
    induction attributes with
    | nil => simp [put.go]
    | cons entry rest inductionHypothesis =>
        rw [put.go]
        split
        · rename_i same
          simp [put.go, same]
        · rename_i different
          simp [put.go, different, inductionHypothesis]
  simp only [put, onList]

theorem get?_put_self (tag : Tag) (name value : String) :
    (tag.put name value).get? name = some value := by
  have onList (attributes : List Attribute) :
      (put.go name value attributes).find? (fun entry => entry.name == name) =
        some ⟨name, value⟩ := by
    induction attributes with
    | nil => simp [put.go]
    | cons entry rest inductionHypothesis =>
        rw [put.go]
        split
        · simp
        · rename_i different
          simp [different, inductionHypothesis]
  simp only [put, get?, onList, Option.map_some]

theorem get?_put_ne
    {other : String}
    (different : other ≠ name)
    (tag : Tag)
    (value : String) :
    (tag.put name value).get? other = tag.get? other := by
  have onList (attributes : List Attribute) :
      (put.go name value attributes).find? (fun entry => entry.name == other) =
        attributes.find? fun entry => entry.name == other := by
    induction attributes with
    | nil => simp [put.go, Ne.symm different]
    | cons entry rest inductionHypothesis =>
        rw [put.go]
        split
        · rename_i same
          simp [same, Ne.symm different]
        · rw [List.find?_cons, List.find?_cons, inductionHypothesis]
  rw [get?, get?, put, onList]

/-- With distinct names, what is found under a name is what there is. -/
theorem get?_eq_some_iff
    (distinctNames : (attributeNames tag.attributes).Nodup) :
    tag.get? name = some value ↔ ⟨name, value⟩ ∈ tag.attributes := by
  rw [get?, Option.map_eq_some_iff]
  constructor
  · rintro ⟨entry, found, rfl⟩
    have isName : entry.name = name := by simpa using List.find?_some found
    rw [← isName]
    exact List.mem_of_find?_eq_some found
  · intro member
    cases found : tag.attributes.find? fun entry => entry.name == name with
    | none => exact absurd (List.find?_eq_none.mp found _ member) (by simp)
    | some entry =>
        have isName : entry.name = name := by simpa using List.find?_some found
        have same := List.inj_on_of_nodup_map distinctNames (List.mem_of_find?_eq_some found)
          member isName
        exact ⟨entry, rfl, congrArg Attribute.value same⟩

/-- The tag without the attributes of a name. -/
def without (tag : Tag) (name : String) : Tag :=
  { tag with attributes := tag.attributes.filter fun entry => entry.name != name }

theorem without_put (tag : Tag) (name value : String) :
    (tag.put name value).without name = tag.without name := by
  have onList (attributes : List Attribute) :
      (put.go name value attributes).filter (fun entry => entry.name != name) =
        attributes.filter fun entry => entry.name != name := by
    induction attributes with
    | nil => simp [put.go]
    | cons entry rest inductionHypothesis =>
        rw [put.go]
        split
        · rename_i same
          simp [same]
        · rw [List.filter_cons, List.filter_cons, inductionHypothesis]
  simp only [put, without, onList]

end Tag

end CodeDeck.Markup
