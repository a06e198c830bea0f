import CodeDeck.Markup.Tree
import Mathlib.Data.List.Nodup
import Mathlib.Data.List.Perm.Basic

namespace CodeDeck.Markup

open List

/-!
# Elements by number

The elements of a forest are found by their numbers, which are meant to be
distinct. Replacing the content of one element takes out the elements that were
inside it, and every other element keeps its place: it is still found, with the
same replacement made in its own content, and it keeps the element around it.
-/

/-- A forest is grown by texts and elements in front, the latter with a forest as content. -/
@[elab_as_elim]
theorem Forest.induction
    {motive : Forest → Prop}
    (nil : motive [])
    (text : ∀ kind content nodes, motive nodes → motive (.text kind content :: nodes))
    (element : ∀ tag children nodes,
      motive children → motive nodes → motive (.element tag children :: nodes)) :
    ∀ forest, motive forest
  | [] => nil
  | .text kind content :: nodes =>
      text kind content nodes (Forest.induction nil text element nodes)
  | .element tag children :: nodes =>
      element tag children nodes
        (Forest.induction nil text element children)
        (Forest.induction nil text element nodes)

namespace Forest

/-- The numbers of the elements in document order. -/
def ids (forest : Forest) : List Nat :=
  (tags forest).map Tag.id

/-- The numbers of the elements that stand at the top. -/
def topIds (forest : Forest) : List Nat :=
  forest.filterMap fun
    | .text .. => none
    | .element tag _ => some tag.id

variable {id other : Nat} {tag : Tag} {kind : TextKind} {text : String}
variable {forest children nodes content : Forest}

@[simp] theorem tags_nil : tags [] = [] :=
  rfl

@[simp] theorem tags_text : tags (.text kind text :: nodes) = tags nodes :=
  rfl

@[simp] theorem tags_element :
    tags (.element tag children :: nodes) = tag :: (tags children ++ tags nodes) :=
  rfl

@[simp] theorem tags_append (first second : Forest) :
    tags (first ++ second) = tags first ++ tags second := by
  induction first with
  | nil => rfl
  | cons node nodes inductionHypothesis => simp [tags, inductionHypothesis]

@[simp] theorem ids_nil : ids [] = [] :=
  rfl

@[simp] theorem ids_text : ids (.text kind text :: nodes) = ids nodes :=
  rfl

@[simp] theorem ids_element :
    ids (.element tag children :: nodes) = tag.id :: (ids children ++ ids nodes) := by
  simp [ids]

@[simp] theorem ids_append (first second : Forest) :
    ids (first ++ second) = ids first ++ ids second := by
  simp [ids]

@[simp] theorem find?_nil : find? id [] = none :=
  rfl

@[simp] theorem find?_text : find? id (.text kind text :: nodes) = find? id nodes :=
  rfl

@[simp] theorem find?_element :
    find? id (.element tag children :: nodes) =
      if tag.id = id then some (tag, children) else (find? id children).or (find? id nodes) := by
  rw [find?, Node.find?]
  split
  · split <;> simp_all
  · split <;> simp_all

theorem find?_append (first second : Forest) :
    find? id (first ++ second) = (find? id first).or (find? id second) := by
  induction first with
  | nil => simp
  | cons node nodes inductionHypothesis =>
      simp only [List.cons_append, find?, inductionHypothesis]
      cases node.find? id <;> simp

@[simp] theorem setContent_nil : setContent id content [] = [] :=
  rfl

@[simp] theorem setContent_text :
    setContent id content (.text kind text :: nodes) =
      .text kind text :: setContent id content nodes :=
  rfl

@[simp] theorem setContent_element :
    setContent id content (.element tag children :: nodes) =
      .element tag (if tag.id = id then content else setContent id content children) ::
        setContent id content nodes := by
  rw [setContent, Node.setContent]
  split <;> simp_all

@[simp] theorem setContent_append (first second : Forest) :
    setContent id content (first ++ second) =
      setContent id content first ++ setContent id content second := by
  induction first with
  | nil => rfl
  | cons node nodes inductionHypothesis => simp [setContent, inductionHypothesis]

@[simp] theorem parentOf?_nil : parentOf? id [] = none :=
  rfl

@[simp] theorem parentOf?_text : parentOf? id (.text kind text :: nodes) = parentOf? id nodes :=
  rfl

@[simp] theorem topIds_nil : topIds [] = [] :=
  rfl

@[simp] theorem topIds_text : topIds (.text kind text :: nodes) = topIds nodes :=
  rfl

@[simp] theorem topIds_element :
    topIds (.element tag children :: nodes) = tag.id :: topIds nodes :=
  rfl

theorem any_isElement_iff : forest.any (·.isElement id) = true ↔ id ∈ topIds forest := by
  induction forest with
  | nil => simp
  | cons node nodes inductionHypothesis =>
      rw [List.any_cons, Bool.or_eq_true, inductionHypothesis]
      cases node with
      | text kind text => simp [Node.isElement]
      | element tag children =>
          rw [topIds_element, List.mem_cons, Node.isElement, beq_iff_eq, eq_comm]

@[simp] theorem parentOf?_element :
    parentOf? id (.element tag children :: nodes) =
      if id ∈ topIds children then some tag.id
      else (parentOf? id children).or (parentOf? id nodes) := by
  simp only [parentOf?, Node.parentOf?, any_isElement_iff]
  split
  · split <;> simp_all
  · split <;> simp_all

/-! ## Finding -/

theorem find?_eq_none_iff : find? id forest = none ↔ id ∉ ids forest := by
  induction forest using Forest.induction with
  | nil => simp
  | text kind text nodes ofNodes => simpa using ofNodes
  | element tag children nodes ofChildren ofNodes =>
      by_cases found : tag.id = id
      · simp [found]
      · simp [found, Ne.symm found, ofChildren, ofNodes]

theorem exists_find?_of_mem_ids
    (member : id ∈ ids forest) :
    ∃ tag children, find? id forest = some (tag, children) := by
  cases found : find? id forest with
  | none => exact absurd member (find?_eq_none_iff.mp found)
  | some pair => exact ⟨pair.1, pair.2, rfl⟩

/-- An element is found in front, inside the element in front, or behind it. -/
theorem cases_of_find?_element
    {front : Tag}
    {inner : Forest}
    (found : find? id (.element front inner :: nodes) = some (tag, children)) :
    (front.id = id ∧ front = tag ∧ inner = children) ∨
      (front.id ≠ id ∧ find? id inner = some (tag, children)) ∨
        (front.id ≠ id ∧ find? id inner = none ∧ find? id nodes = some (tag, children)) := by
  rw [find?_element] at found
  split at found
  · rename_i same
    cases found
    exact .inl ⟨same, rfl, rfl⟩
  · rename_i different
    rcases Option.or_eq_some_iff.mp found with inside | ⟨absent, behind⟩
    · exact .inr (.inl ⟨different, inside⟩)
    · exact .inr (.inr ⟨different, absent, behind⟩)

theorem id_of_find?
    (found : find? id forest = some (tag, children)) :
    tag.id = id := by
  induction forest using Forest.induction with
  | nil => contradiction
  | text kind text nodes ofNodes => exact ofNodes found
  | element front inner nodes ofInner ofNodes =>
      rcases cases_of_find?_element found with ⟨same, rfl, -⟩ | ⟨-, inside⟩ | ⟨-, -, behind⟩
      · exact same
      · exact ofInner inside
      · exact ofNodes behind

/-- The elements inside one that is found are elements of the forest, in the same order. -/
theorem tags_sublist_of_find?
    (found : find? id forest = some (tag, children)) :
    tag :: tags children <+ tags forest := by
  induction forest using Forest.induction with
  | nil => contradiction
  | text kind text nodes ofNodes => exact ofNodes found
  | element front inner nodes ofInner ofNodes =>
      rw [tags_element]
      rcases cases_of_find?_element found with ⟨-, rfl, rfl⟩ | ⟨-, inside⟩ | ⟨-, -, behind⟩
      · exact (List.sublist_append_left _ _).cons_cons _
      · exact ((ofInner inside).trans (List.sublist_append_left _ _)).cons _
      · exact ((ofNodes behind).trans (List.sublist_append_right _ _)).cons _

theorem ids_sublist_of_find?
    (found : find? id forest = some (tag, children)) :
    id :: ids children <+ ids forest := by
  have inOrder := (tags_sublist_of_find? found).map Tag.id
  rwa [List.map_cons, id_of_find? found] at inOrder

theorem mem_ids_of_find?
    (found : find? id forest = some (tag, children)) :
    id ∈ ids forest :=
  (ids_sublist_of_find? found).subset (List.mem_cons_self ..)

theorem ids_subset_of_find?
    (found : find? id forest = some (tag, children))
    (member : other ∈ ids children) :
    other ∈ ids forest :=
  (ids_sublist_of_find? found).subset (List.mem_cons_of_mem id member)

theorem not_mem_ids_of_find?
    (distinct : (ids forest).Nodup)
    (found : find? id forest = some (tag, children)) :
    id ∉ ids children :=
  (List.nodup_cons.mp (distinct.sublist (ids_sublist_of_find? found))).1

theorem nodup_of_find?
    (distinct : (ids forest).Nodup)
    (found : find? id forest = some (tag, children)) :
    (ids children).Nodup :=
  (List.nodup_cons.mp (distinct.sublist (ids_sublist_of_find? found))).2

/-- What distinct numbers mean for a forest with an element in front. -/
structure FrontApart (front : Tag) (inner nodes : Forest) : Prop where
  inner_nodup : (ids inner).Nodup
  nodes_nodup : (ids nodes).Nodup
  front_not_mem_inner : front.id ∉ ids inner
  front_not_mem_nodes : front.id ∉ ids nodes
  inner_not_mem_nodes : ∀ {number : Nat}, number ∈ ids inner → number ∉ ids nodes

theorem frontApart
    {front : Tag}
    {inner : Forest}
    (distinct : (ids (.element front inner :: nodes)).Nodup) :
    FrontApart front inner nodes := by
  rw [ids_element, List.nodup_cons, List.nodup_append, List.mem_append, not_or] at distinct
  obtain ⟨⟨notInInner, notInNodes⟩, innerNodup, nodesNodup, apart⟩ := distinct
  exact ⟨innerNodup, nodesNodup, notInInner, notInNodes,
    fun inInner inNodes => apart _ inInner _ inNodes rfl⟩

/-- An element inside of another is found in the forest as it is found in there. -/
theorem find?_inside
    (distinct : (ids forest).Nodup)
    (found : find? id forest = some (tag, children))
    (member : other ∈ ids children) :
    find? other forest = find? other children := by
  induction forest using Forest.induction with
  | nil => contradiction
  | text kind text nodes ofNodes => exact ofNodes distinct found
  | element front inner nodes ofInner ofNodes =>
      have apart := frontApart distinct
      rw [find?_element]
      rcases cases_of_find?_element found with ⟨-, -, rfl⟩ | ⟨-, inside⟩ | ⟨-, -, behind⟩
      · have different : front.id ≠ other := fun same =>
          apart.front_not_mem_inner (same ▸ member)
        obtain ⟨otherTag, otherChildren, present⟩ := exists_find?_of_mem_ids member
        rw [if_neg different, present, Option.some_or]
      · have inInner := ids_subset_of_find? inside member
        have different : front.id ≠ other := fun same =>
          apart.front_not_mem_inner (same ▸ inInner)
        obtain ⟨otherTag, otherChildren, present⟩ := exists_find?_of_mem_ids member
        rw [if_neg different, ofInner apart.inner_nodup inside, present, Option.some_or]
      · have inNodes := ids_subset_of_find? behind member
        have different : front.id ≠ other := fun same =>
          apart.front_not_mem_nodes (same ▸ inNodes)
        have absent : find? other inner = none :=
          find?_eq_none_iff.mpr fun inInner => apart.inner_not_mem_nodes inInner inNodes
        rw [if_neg different, absent, Option.none_or, ofNodes apart.nodes_nodup behind]

/-- Of two elements around a third one, one is inside the other. -/
theorem nested_of_common
    {firstId secondId : Nat}
    {firstTag secondTag : Tag}
    {first second : Forest}
    (distinct : (ids forest).Nodup)
    (firstFound : find? firstId forest = some (firstTag, first))
    (secondFound : find? secondId forest = some (secondTag, second))
    (inFirst : other ∈ firstId :: ids first)
    (inSecond : other ∈ secondId :: ids second) :
    firstId = secondId ∨ firstId ∈ ids second ∨ secondId ∈ ids first := by
  induction forest using Forest.induction with
  | nil => contradiction
  | text kind text nodes ofNodes => exact ofNodes distinct firstFound secondFound
  | element front inner nodes ofInner ofNodes =>
      have apart := frontApart distinct
      rcases cases_of_find?_element firstFound with
        ⟨rfl, -, rfl⟩ | ⟨-, firstInside⟩ | ⟨-, -, firstBehind⟩
      · rcases cases_of_find?_element secondFound with
          ⟨same, -, -⟩ | ⟨-, secondInside⟩ | ⟨-, -, secondBehind⟩
        · exact .inl same
        · exact .inr (.inr (mem_ids_of_find? secondInside))
        · have inNodes := (ids_sublist_of_find? secondBehind).subset inSecond
          rcases List.mem_cons.mp inFirst with rfl | inInner
          · exact absurd inNodes apart.front_not_mem_nodes
          · exact absurd inNodes (apart.inner_not_mem_nodes inInner)
      · have inInner := (ids_sublist_of_find? firstInside).subset inFirst
        rcases cases_of_find?_element secondFound with
          ⟨rfl, -, rfl⟩ | ⟨-, secondInside⟩ | ⟨-, -, secondBehind⟩
        · exact .inr (.inl (mem_ids_of_find? firstInside))
        · exact ofInner apart.inner_nodup firstInside secondInside
        · have inNodes := (ids_sublist_of_find? secondBehind).subset inSecond
          exact absurd inNodes (apart.inner_not_mem_nodes inInner)
      · have inNodes := (ids_sublist_of_find? firstBehind).subset inFirst
        rcases cases_of_find?_element secondFound with
          ⟨rfl, -, rfl⟩ | ⟨-, secondInside⟩ | ⟨-, -, secondBehind⟩
        · rcases List.mem_cons.mp inSecond with rfl | inInner
          · exact absurd inNodes apart.front_not_mem_nodes
          · exact absurd inNodes (apart.inner_not_mem_nodes inInner)
        · have inInner := (ids_sublist_of_find? secondInside).subset inSecond
          exact absurd inNodes (apart.inner_not_mem_nodes inInner)
        · exact ofNodes apart.nodes_nodup firstBehind secondBehind

/-! ## Replacing the content of an element -/

theorem setContent_of_not_mem
    (absent : id ∉ ids forest) :
    setContent id content forest = forest := by
  induction forest using Forest.induction with
  | nil => rfl
  | text kind text nodes ofNodes => rw [setContent_text, ofNodes absent]
  | element tag children nodes ofChildren ofNodes =>
      simp only [ids_element, List.mem_cons, List.mem_append, not_or] at absent
      obtain ⟨different, notInChildren, notInNodes⟩ := absent
      rw [setContent_element, if_neg (Ne.symm different), ofChildren notInChildren,
        ofNodes notInNodes]

@[simp] theorem topIds_setContent : topIds (setContent id content forest) = topIds forest := by
  induction forest with
  | nil => rfl
  | cons node nodes inductionHypothesis =>
      cases node with
      | text kind text => exact inductionHypothesis
      | element tag children => simp [inductionHypothesis]

theorem find?_setContent_self
    (found : find? id forest = some (tag, children)) :
    find? id (setContent id content forest) = some (tag, content) := by
  induction forest using Forest.induction with
  | nil => contradiction
  | text kind text nodes ofNodes => exact ofNodes found
  | element front inner nodes ofInner ofNodes =>
      rw [setContent_element, find?_element]
      rcases cases_of_find?_element found with
        ⟨same, rfl, -⟩ | ⟨different, inside⟩ | ⟨different, absent, behind⟩
      · rw [if_pos same, if_pos same]
      · rw [if_neg different, if_neg different, ofInner inside, Option.some_or]
      · rw [if_neg different, if_neg different,
          setContent_of_not_mem (find?_eq_none_iff.mp absent), absent, Option.none_or,
          ofNodes behind]

/-- Replacing the content of an element by texts takes out the elements inside. -/
theorem ids_setContent_perm
    (distinct : (ids forest).Nodup)
    (found : find? id forest = some (tag, children))
    (noElements : ids content = []) :
    ids (setContent id content forest) ++ ids children ~ ids forest := by
  induction forest using Forest.induction with
  | nil => contradiction
  | text kind text nodes ofNodes => exact ofNodes distinct found
  | element front inner nodes ofInner ofNodes =>
      have apart := frontApart distinct
      rw [setContent_element, ids_element, ids_element]
      rcases cases_of_find?_element found with
        ⟨rfl, -, rfl⟩ | ⟨different, inside⟩ | ⟨different, absent, behind⟩
      · rw [if_pos rfl, setContent_of_not_mem apart.front_not_mem_nodes, noElements]
        exact List.perm_append_comm.cons _
      · have notBehind : id ∉ ids nodes :=
          apart.inner_not_mem_nodes (mem_ids_of_find? inside)
        rw [if_neg different, setContent_of_not_mem notBehind]
        have kept := (ofInner apart.inner_nodup inside).append_right (ids nodes)
        rw [List.cons_append, List.append_assoc]
        refine List.Perm.cons _ (List.Perm.trans ?_ kept)
        rw [List.append_assoc]
        exact List.perm_append_comm.append_left _
      · rw [if_neg different, setContent_of_not_mem (find?_eq_none_iff.mp absent)]
        have kept := (ofNodes apart.nodes_nodup behind).append_left (ids inner)
        rw [List.cons_append, List.append_assoc]
        exact kept.cons _

/-- The content of the element with a number, if there is one, has a property. -/
def ContentHas (holds : Forest → Prop) (id : Nat) (forest : Forest) : Prop :=
  ∀ found ∈ find? id forest, holds found.2

namespace ContentHas

variable {holds : Forest → Prop} {front : Tag} {inner first second : Forest}

theorem of_front
    (known : ContentHas holds front.id (.element front inner :: nodes)) :
    holds inner :=
  known (front, inner) (by simp)

theorem of_inner
    (known : ContentHas holds id (.element front inner :: nodes))
    (different : front.id ≠ id) :
    ContentHas holds id inner := by
  intro found member
  rw [Option.mem_def] at member
  refine known found ?_
  rw [find?_element, if_neg different, member]
  rfl

theorem of_nodes
    (known : ContentHas holds id (.element front inner :: nodes))
    (distinct : (ids (.element front inner :: nodes)).Nodup)
    (different : front.id ≠ id) :
    ContentHas holds id nodes := by
  intro found member
  rw [Option.mem_def] at member
  have notInner : id ∉ ids inner := fun inside =>
    (frontApart distinct).inner_not_mem_nodes inside (mem_ids_of_find? member)
  refine known found ?_
  rw [find?_element, if_neg different, find?_eq_none_iff.mpr notInner, member]
  rfl

theorem of_append_left
    (known : ContentHas holds id (first ++ second)) :
    ContentHas holds id first := by
  intro found member
  rw [Option.mem_def] at member
  refine known found ?_
  rw [find?_append, member]
  rfl

theorem of_append_right
    (known : ContentHas holds id (first ++ second))
    (distinct : (ids (first ++ second)).Nodup) :
    ContentHas holds id second := by
  intro found member
  rw [Option.mem_def] at member
  rw [ids_append, List.nodup_append] at distinct
  have notFirst : id ∉ ids first := fun inFirst =>
    distinct.2.2 id inFirst id (mem_ids_of_find? member) rfl
  refine known found ?_
  rw [find?_append, find?_eq_none_iff.mpr notFirst, member]
  rfl

end ContentHas

/-- The content of an element does not hold another one. -/
abbrev Outside (other id : Nat) (forest : Forest) : Prop :=
  ContentHas (fun content => other ∉ ids content) id forest

/-- The numbers of the elements of a kind in document order. -/
def idsWhere (holds : Tag → Bool) (forest : Forest) : List Nat :=
  ((tags forest).filter holds).map Tag.id

theorem idsWhere_element
    {holds : Tag → Bool} :
    idsWhere holds (.element tag children :: nodes) =
      (if holds tag then [tag.id] else []) ++ idsWhere holds children ++ idsWhere holds nodes := by
  rw [idsWhere, tags_element, List.filter_cons]
  split
  · simp [idsWhere]
  · simp [idsWhere]

/-- Content without elements of a kind can be replaced by other such without a trace in them. -/
theorem idsWhere_setContent
    {holds : Tag → Bool}
    (distinct : (ids forest).Nodup)
    (noneNew : idsWhere holds content = [])
    (noneOld : ContentHas (fun inner => idsWhere holds inner = []) id forest) :
    idsWhere holds (setContent id content forest) = idsWhere holds forest := by
  induction forest using Forest.induction with
  | nil => rfl
  | text kind text nodes ofNodes => exact ofNodes distinct noneOld
  | element front inner nodes ofInner ofNodes =>
      have apart := frontApart distinct
      rw [setContent_element, idsWhere_element, idsWhere_element]
      by_cases isFront : front.id = id
      · subst isFront
        rw [if_pos rfl, noneOld.of_front, noneNew,
          setContent_of_not_mem apart.front_not_mem_nodes]
      · rw [if_neg isFront, ofInner apart.inner_nodup (noneOld.of_inner isFront),
          ofNodes apart.nodes_nodup (noneOld.of_nodes distinct isFront)]

theorem ids_setContent_subset
    (noElements : ids content = []) :
    ids (setContent id content forest) ⊆ ids forest := by
  induction forest using Forest.induction with
  | nil => simp
  | text kind text nodes ofNodes => exact ofNodes
  | element front inner nodes ofInner ofNodes =>
      rw [setContent_element, ids_element, ids_element]
      refine List.cons_subset_cons _ (List.append_subset.mpr ⟨?_, ?_⟩)
      · split
        · simp [noElements]
        · exact List.Subset.trans ofInner (List.subset_append_left _ _)
      · exact List.Subset.trans ofNodes (List.subset_append_right _ _)

/-- Nothing is replaced in an element that is found where the replaced one is not. -/
theorem map_setContent_of_not_mem
    (absent : id ∉ ids forest) :
    (find? other forest).map (fun found => (found.1, setContent id content found.2)) =
      find? other forest := by
  cases found : find? other forest with
  | none => rfl
  | some pair =>
      have notInside : id ∉ ids pair.2 := fun inside =>
        absent (ids_subset_of_find? found inside)
      rw [Option.map_some, setContent_of_not_mem notInside]

/-- An element that does not go with the old content is found with the replacement made in it. -/
theorem find?_setContent_of_outside
    (distinct : (ids forest).Nodup)
    (different : other ≠ id)
    (outside : Outside other id forest)
    (noElements : ids content = []) :
    find? other (setContent id content forest) =
      (find? other forest).map fun found => (found.1, setContent id content found.2) := by
  induction forest using Forest.induction with
  | nil => rfl
  | text kind text nodes ofNodes => exact ofNodes distinct outside
  | element front inner nodes ofInner ofNodes =>
      have apart := frontApart distinct
      rw [setContent_element, find?_element, find?_element]
      by_cases same : front.id = id
      · subst same
        have notContent : other ∉ ids content := by simp [noElements]
        rw [if_pos rfl, if_neg different.symm, if_neg different.symm,
          find?_eq_none_iff.mpr outside.of_front, find?_eq_none_iff.mpr notContent,
          Option.none_or, Option.none_or, setContent_of_not_mem apart.front_not_mem_nodes,
          map_setContent_of_not_mem apart.front_not_mem_nodes]
      · rw [if_neg same]
        by_cases isFront : front.id = other
        · rw [if_pos isFront, if_pos isFront, Option.map_some]
        · rw [if_neg isFront, if_neg isFront,
            ofInner apart.inner_nodup (outside.of_inner same),
            ofNodes apart.nodes_nodup (outside.of_nodes distinct same), Option.map_or]

/-! ## The element around another one -/

theorem topIds_subset : topIds forest ⊆ ids forest := by
  induction forest using Forest.induction with
  | nil => simp
  | text kind text nodes ofNodes => exact ofNodes
  | element tag children nodes ofChildren ofNodes =>
      rw [topIds_element, ids_element]
      exact List.cons_subset_cons _ (List.Subset.trans ofNodes (List.subset_append_right _ _))

/-- What stands at the top stands inside no element. -/
theorem outside_of_mem_topIds
    (distinct : (ids forest).Nodup)
    (atTop : other ∈ topIds forest) :
    Outside other id forest := by
  rintro ⟨tag, children⟩ found inside
  rw [Option.mem_def] at found
  induction forest using Forest.induction with
  | nil => contradiction
  | text kind text nodes ofNodes => exact ofNodes distinct atTop found
  | element front inner nodes ofInner ofNodes =>
      have apart := frontApart distinct
      have notInInner : other ∉ ids inner := by
        rcases List.mem_cons.mp atTop with rfl | behind
        · exact apart.front_not_mem_inner
        · exact fun inInner => apart.inner_not_mem_nodes inInner (topIds_subset behind)
      rcases cases_of_find?_element found with ⟨-, -, rfl⟩ | ⟨-, inInner⟩ | ⟨-, -, inNodes⟩
      · exact notInInner inside
      · exact notInInner (ids_subset_of_find? inInner inside)
      · rcases List.mem_cons.mp atTop with rfl | behind
        · exact apart.front_not_mem_nodes (ids_subset_of_find? inNodes inside)
        · exact ofNodes apart.nodes_nodup behind inNodes

theorem parentOf?_append (first second : Forest) :
    parentOf? id (first ++ second) = (parentOf? id first).or (parentOf? id second) := by
  induction first with
  | nil => simp
  | cons node nodes inductionHypothesis =>
      simp only [List.cons_append, parentOf?, inductionHypothesis]
      cases node.parentOf? id <;> simp

theorem parentOf?_of_not_mem
    (absent : id ∉ ids forest) :
    parentOf? id forest = none := by
  induction forest using Forest.induction with
  | nil => rfl
  | text kind text nodes ofNodes => exact ofNodes absent
  | element tag children nodes ofChildren ofNodes =>
      simp only [ids_element, List.mem_cons, List.mem_append, not_or] at absent
      obtain ⟨-, notInChildren, notInNodes⟩ := absent
      rw [parentOf?_element, if_neg fun atTop => notInChildren (topIds_subset atTop),
        ofChildren notInChildren, ofNodes notInNodes, Option.none_or]

/-- The element around another one is the one whose content has it at the top. -/
theorem parentOf?_eq_some_iff
    {parent : Nat}
    (distinct : (ids forest).Nodup) :
    parentOf? id forest = some parent ↔
      ∃ tag children, find? parent forest = some (tag, children) ∧ id ∈ topIds children := by
  induction forest using Forest.induction with
  | nil => simp
  | text kind text nodes ofNodes => exact ofNodes distinct
  | element front inner nodes ofInner ofNodes =>
      have apart := frontApart distinct
      rw [parentOf?_element]
      constructor
      · intro around
        split at around
        · rename_i atTop
          cases around
          exact ⟨front, inner, by simp, atTop⟩
        · rcases Option.or_eq_some_iff.mp around with inside | ⟨-, behind⟩
          · obtain ⟨tag, children, found, atTop⟩ := (ofInner apart.inner_nodup).mp inside
            have different : front.id ≠ parent := fun same =>
              apart.front_not_mem_inner (same ▸ mem_ids_of_find? found)
            refine ⟨tag, children, ?_, atTop⟩
            rw [find?_element, if_neg different, found, Option.some_or]
          · obtain ⟨tag, children, found, atTop⟩ := (ofNodes apart.nodes_nodup).mp behind
            have inNodes := mem_ids_of_find? found
            have different : front.id ≠ parent := fun same =>
              apart.front_not_mem_nodes (same ▸ inNodes)
            have absent : find? parent inner = none :=
              find?_eq_none_iff.mpr fun inInner => apart.inner_not_mem_nodes inInner inNodes
            refine ⟨tag, children, ?_, atTop⟩
            rw [find?_element, if_neg different, absent, found, Option.none_or]
      · rintro ⟨tag, children, found, atTop⟩
        rcases cases_of_find?_element found with ⟨rfl, -, rfl⟩ | ⟨-, inside⟩ | ⟨-, -, behind⟩
        · rw [if_pos atTop]
        · have notAtTop : id ∉ topIds inner := fun first =>
            outside_of_mem_topIds apart.inner_nodup first _ inside (topIds_subset atTop)
          rw [if_neg notAtTop, (ofInner apart.inner_nodup).mpr ⟨tag, children, inside, atTop⟩,
            Option.some_or]
        · have notInner : id ∉ ids inner := fun inInner =>
            apart.inner_not_mem_nodes inInner (ids_subset_of_find? behind (topIds_subset atTop))
          rw [if_neg fun first => notInner (topIds_subset first), parentOf?_of_not_mem notInner,
            Option.none_or, (ofNodes apart.nodes_nodup).mpr ⟨tag, children, behind, atTop⟩]

theorem exists_parentOf?_of_mem
    (present : id ∈ ids forest)
    (notAtTop : id ∉ topIds forest) :
    ∃ parent, parentOf? id forest = some parent := by
  induction forest using Forest.induction with
  | nil => contradiction
  | text kind text nodes ofNodes => exact ofNodes present notAtTop
  | element tag children nodes ofChildren ofNodes =>
      rw [topIds_element, List.mem_cons, not_or] at notAtTop
      rw [parentOf?_element]
      split
      · exact ⟨tag.id, rfl⟩
      · rename_i notFirst
        rcases List.mem_cons.mp (ids_element ▸ present) with same | inRest
        · exact absurd same notAtTop.1
        · rcases List.mem_append.mp inRest with inChildren | inNodes
          · obtain ⟨parent, around⟩ := ofChildren inChildren notFirst
            exact ⟨parent, by rw [around, Option.some_or]⟩
          · obtain ⟨parent, around⟩ := ofNodes inNodes notAtTop.2
            cases found : parentOf? id children with
            | none => exact ⟨parent, by rw [around, Option.none_or]⟩
            | some inner => exact ⟨inner, rfl⟩

/-- An element that does not go with the old content keeps the element around it. -/
theorem parentOf?_setContent_of_outside
    (distinct : (ids forest).Nodup)
    (outside : Outside other id forest)
    (noElements : ids content = []) :
    parentOf? other (setContent id content forest) = parentOf? other forest := by
  induction forest using Forest.induction with
  | nil => rfl
  | text kind text nodes ofNodes => exact ofNodes distinct outside
  | element front inner nodes ofInner ofNodes =>
      have apart := frontApart distinct
      rw [setContent_element, parentOf?_element, parentOf?_element]
      by_cases same : front.id = id
      · subst same
        have notInner : other ∉ ids inner := outside.of_front
        have notContent : other ∉ ids content := by simp [noElements]
        rw [if_pos rfl, if_neg fun atTop => notInner (topIds_subset atTop),
          if_neg fun atTop => notContent (topIds_subset atTop),
          parentOf?_of_not_mem notInner, parentOf?_of_not_mem notContent,
          setContent_of_not_mem apart.front_not_mem_nodes]
      · rw [if_neg same, topIds_setContent,
          ofInner apart.inner_nodup (outside.of_inner same),
          ofNodes apart.nodes_nodup (outside.of_nodes distinct same)]

/-! ## Document order -/

/-- In document order no element is inside of a later one. -/
theorem pairwise_outside
    (distinct : (ids forest).Nodup) :
    (ids forest).Pairwise fun earlier later => Outside earlier later forest := by
  induction forest using Forest.induction with
  | nil => exact .nil
  | text kind text nodes ofNodes => exact ofNodes distinct
  | element front inner nodes ofInner ofNodes =>
      have apart := frontApart distinct
      rw [ids_element, List.pairwise_cons, List.pairwise_append]
      refine ⟨?_, ?_, ?_, ?_⟩
      · rintro later - ⟨tag, children⟩ found inside
        rw [Option.mem_def] at found
        rcases cases_of_find?_element found with ⟨-, -, rfl⟩ | ⟨-, inInner⟩ | ⟨-, -, inNodes⟩
        · exact apart.front_not_mem_inner inside
        · exact apart.front_not_mem_inner (ids_subset_of_find? inInner inside)
        · exact apart.front_not_mem_nodes (ids_subset_of_find? inNodes inside)
      · refine (ofInner apart.inner_nodup).imp_of_mem ?_
        rintro earlier later - laterInner outside ⟨tag, children⟩ found
        rw [Option.mem_def] at found
        rcases cases_of_find?_element found with ⟨same, -, -⟩ | ⟨-, inInner⟩ | ⟨-, absent, -⟩
        · exact absurd (same ▸ laterInner) apart.front_not_mem_inner
        · exact outside (tag, children) inInner
        · exact absurd laterInner (find?_eq_none_iff.mp absent)
      · refine (ofNodes apart.nodes_nodup).imp_of_mem ?_
        rintro earlier later - laterNodes outside ⟨tag, children⟩ found
        rw [Option.mem_def] at found
        rcases cases_of_find?_element found with ⟨same, -, -⟩ | ⟨-, inInner⟩ | ⟨-, -, inNodes⟩
        · exact absurd (same ▸ laterNodes) apart.front_not_mem_nodes
        · exact absurd laterNodes (apart.inner_not_mem_nodes (mem_ids_of_find? inInner))
        · exact outside (tag, children) inNodes
      · rintro earlier earlierInner later laterNodes ⟨tag, children⟩ found inside
        rw [Option.mem_def] at found
        rcases cases_of_find?_element found with ⟨same, -, -⟩ | ⟨-, inInner⟩ | ⟨-, -, inNodes⟩
        · exact apart.front_not_mem_nodes (same ▸ laterNodes)
        · exact apart.inner_not_mem_nodes (mem_ids_of_find? inInner) laterNodes
        · exact apart.inner_not_mem_nodes earlierInner (ids_subset_of_find? inNodes inside)

end Forest

end CodeDeck.Markup
