import CodeDeck.Deck.Basic
import CodeDeck.Proofs.Markup.Shape

namespace CodeDeck.Deck

open List Markup

/-!
# Where blocks are written

A processed block has a place in a deck: the element that gets its source and
what carries its address. Applying blocks takes content out of targets, so that
later places are looked for in another deck than the one before. They are found
where they are by what is inside of what, and of this each step can only take
away.

A place is settled when there is nothing left inside its target. The step for
an element settles its place, and no step for an element that is not around it
unsettles it again: `Settled.cut`. In document order no later element is around
an earlier one, so after a run all places are settled.
-/

/-- All of a deck: its document, and what has been taken out of it. -/
def whole (deck : Deck) : Forest :=
  deck.document ++ deck.detached

/-- Whether the numbers of the elements of a deck are distinct. -/
def Distinct (deck : Deck) : Prop :=
  (Forest.ids deck.whole).Nodup

/-- The elements inside of an element. -/
def inside (deck : Deck) (id : Nat) : List Nat :=
  match deck.find? id with
  | some (_, children) => Forest.ids children
  | none => []

/-- The code elements inside of an element. -/
def codesIn (deck : Deck) (id : Nat) : List Nat :=
  match deck.find? id with
  | some (_, children) => codes children
  | none => []

/-- What a processed block is written on. -/
structure Place where
  target : Nat
  carrier : Carrier
  deriving Repr, DecidableEq

/-- The element that the source for an element is written into. -/
def targetOf (deck : Deck) (id : Nat) : Nat :=
  match deck.codesIn id with
  | [code] => code
  | _ => id

/-- What the block of an element is written on. -/
def place (deck : Deck) (id : Nat) : Place :=
  ⟨deck.targetOf id, deck.carrier id⟩

/-- Take out the content of an element; its elements are kept outside of the document. -/
def cut (deck : Deck) (id : Nat) : Deck :=
  match deck.find? id with
  | none => deck
  | some (_, children) =>
      { deck with
        document := Forest.setContent id [] deck.document
        detached := Forest.setContent id [] deck.detached ++ children }

variable {deck : Deck} {id other target : Nat} {tag : Tag}
variable {forest children nodes content : Forest}

/-! ## Looking into a deck -/

theorem find?_eq (deck : Deck) (id : Nat) : deck.find? id = Forest.find? id deck.whole := by
  rw [find?, whole, Forest.find?_append]
  cases Forest.find? id deck.document <;> rfl

theorem inside_of_find?
    (found : deck.find? id = some (tag, children)) :
    deck.inside id = Forest.ids children := by
  rw [inside, found]

theorem codesIn_of_find?
    (found : deck.find? id = some (tag, children)) :
    deck.codesIn id = codes children := by
  rw [codesIn, found]

theorem targetOf_of_find?
    (found : deck.find? id = some (tag, children)) :
    deck.targetOf id = Deck.target id children := by
  rw [targetOf, codesIn_of_find? found]
  rfl

theorem exists_find?_of_mem_inside
    (member : other ∈ deck.inside id) :
    ∃ tag children, deck.find? id = some (tag, children) ∧ other ∈ Forest.ids children := by
  rw [inside] at member
  split at member
  · rename_i tag children found
    exact ⟨tag, children, found, member⟩
  · contradiction

theorem mem_ids_of_mem_inside
    (member : other ∈ deck.inside id) :
    other ∈ Forest.ids deck.whole := by
  obtain ⟨tag, children, found, inChildren⟩ := exists_find?_of_mem_inside member
  rw [find?_eq] at found
  exact Forest.ids_subset_of_find? found inChildren

theorem not_mem_inside_self
    (distinct : deck.Distinct) :
    id ∉ deck.inside id := by
  intro member
  obtain ⟨tag, children, found, inChildren⟩ := exists_find?_of_mem_inside member
  rw [find?_eq] at found
  exact Forest.not_mem_ids_of_find? distinct found inChildren

theorem codes_sublist_of_tags
    {first second : Forest}
    (inOrder : Forest.tags first <+ Forest.tags second) :
    codes first <+ codes second :=
  (inOrder.filter _).map _

theorem codesIn_sublist_inside : deck.codesIn id <+ deck.inside id := by
  rw [codesIn, inside]
  split
  · exact List.filter_sublist.map _
  · exact .refl _

/-- What is found inside of an element is found in the deck. -/
theorem find?_inside
    (distinct : deck.Distinct)
    (found : deck.find? id = some (tag, children))
    (member : other ∈ Forest.ids children) :
    deck.find? other = Forest.find? other children := by
  rw [find?_eq] at found ⊢
  exact Forest.find?_inside distinct found member

/-- Inside of what is inside is inside. -/
theorem inside_trans
    (distinct : deck.Distinct)
    (member : other ∈ deck.inside id) :
    deck.inside other ⊆ deck.inside id ∧ deck.codesIn other <+ deck.codesIn id := by
  obtain ⟨tag, children, found, inChildren⟩ := exists_find?_of_mem_inside member
  obtain ⟨otherTag, otherChildren, otherFound⟩ := Forest.exists_find?_of_mem_ids inChildren
  have foundInDeck := (find?_inside distinct found inChildren).trans otherFound
  rw [inside_of_find? found, inside_of_find? foundInDeck, codesIn_of_find? found,
    codesIn_of_find? foundInDeck]
  exact ⟨fun _ inOther => Forest.ids_subset_of_find? otherFound inOther,
    codes_sublist_of_tags
      ((List.sublist_cons_self _ _).trans (Forest.tags_sublist_of_find? otherFound))⟩

/-- The target for an element is the only code element inside of it, or the element itself. -/
theorem targetOf_cases (deck : Deck) (id : Nat) :
    deck.codesIn id = [deck.targetOf id] ∨
      (deck.targetOf id = id ∧ ∀ code, deck.codesIn id ≠ [code]) := by
  rw [targetOf]
  split
  · rename_i only
    exact .inl only
  · rename_i notOnly
    exact .inr ⟨rfl, notOnly⟩

theorem targetOf_mem
    (deck : Deck)
    (id : Nat) :
    deck.targetOf id = id ∨ deck.targetOf id ∈ deck.inside id := by
  rcases targetOf_cases deck id with only | ⟨itself, -⟩
  · right
    exact codesIn_sublist_inside.subset (by simp [only])
  · exact .inl itself

/-! ## Taking out content -/

theorem whole_cut
    (found : deck.find? target = some (tag, children)) :
    (deck.cut target).whole = Forest.setContent target [] deck.whole ++ children := by
  rw [cut, found, whole, whole, Forest.setContent_append, List.append_assoc]

theorem ids_cut_perm
    (distinct : deck.Distinct) :
    Forest.ids (deck.cut target).whole ~ Forest.ids deck.whole := by
  cases found : deck.find? target with
  | none => rw [cut, found]
  | some pair =>
      rw [whole_cut found, Forest.ids_append]
      rw [find?_eq] at found
      exact Forest.ids_setContent_perm distinct found rfl

theorem Distinct.document
    (distinct : deck.Distinct) :
    (Forest.ids deck.document).Nodup := by
  rw [Distinct, whole, Forest.ids_append] at distinct
  exact distinct.sublist (List.sublist_append_left _ _)

theorem Distinct.cut
    (distinct : deck.Distinct)
    (target : Nat) :
    (deck.cut target).Distinct :=
  (ids_cut_perm distinct).nodup_iff.mpr distinct

theorem outside_of_not_mem_inside
    (notInside : other ∉ deck.inside target) :
    Forest.Outside other target deck.whole := by
  intro found member
  rw [Option.mem_def, ← find?_eq] at member
  rwa [inside_of_find? member] at notInside

theorem find?_cut_self
    (found : deck.find? target = some (tag, children)) :
    (deck.cut target).find? target = some (tag, []) := by
  rw [find?_eq, whole_cut found, Forest.find?_append]
  rw [find?_eq] at found
  rw [Forest.find?_setContent_self found, Option.some_or]

theorem find?_cut_of_inside
    (distinct : deck.Distinct)
    (member : other ∈ deck.inside target) :
    (deck.cut target).find? other = deck.find? other := by
  obtain ⟨tag, children, found, inChildren⟩ := exists_find?_of_mem_inside member
  have moved := (Distinct.cut distinct target)
  rw [Distinct, whole_cut found, Forest.ids_append, List.nodup_append] at moved
  have gone : Forest.find? other (Forest.setContent target [] deck.whole) = none :=
    Forest.find?_eq_none_iff.mpr fun left => moved.2.2 other left other inChildren rfl
  rw [find?_eq, whole_cut found, Forest.find?_append, gone, Option.none_or,
    find?_inside distinct found inChildren]

theorem find?_cut_of_outside
    (distinct : deck.Distinct)
    (different : other ≠ target)
    (notInside : other ∉ deck.inside target) :
    (deck.cut target).find? other =
      (deck.find? other).map fun found => (found.1, Forest.setContent target [] found.2) := by
  cases found : deck.find? target with
  | none =>
      have absent : target ∉ Forest.ids deck.whole := by
        rw [find?_eq] at found
        exact Forest.find?_eq_none_iff.mp found
      rw [cut, found, find?_eq, Forest.map_setContent_of_not_mem absent]
  | some pair =>
      have outside := outside_of_not_mem_inside notInside
      rw [inside_of_find? found] at notInside
      rw [find?_eq, whole_cut found, Forest.find?_append,
        Forest.find?_setContent_of_outside distinct different outside rfl,
        Forest.find?_eq_none_iff.mpr notInside, Option.or_none, find?_eq]

/-- Taking out content never puts an element inside of another. -/
theorem inside_cut_subset
    (distinct : deck.Distinct) :
    (deck.cut target).inside id ⊆ deck.inside id := by
  by_cases same : id = target
  · subst same
    cases found : deck.find? id with
    | none => rw [cut, found]; exact List.Subset.refl _
    | some pair =>
        rw [inside_of_find? (find?_cut_self found)]
        exact List.nil_subset _
  · by_cases member : id ∈ deck.inside target
    · rw [inside, inside, find?_cut_of_inside distinct member]
      exact List.Subset.refl _
    · rw [inside, inside, find?_cut_of_outside distinct same member]
      cases found : deck.find? id with
      | none => exact List.Subset.refl _
      | some pair => exact Forest.ids_setContent_subset rfl

theorem inside_cut_self : (deck.cut target).inside target = [] := by
  cases found : deck.find? target with
  | none => rw [cut, found, inside, found]
  | some pair => rw [inside_of_find? (find?_cut_self found), Forest.ids_nil]

/-- An element that does not go with the content keeps what carries its address. -/
theorem carrier_cut
    (distinct : deck.Distinct)
    (notInside : id ∉ deck.inside target) :
    (deck.cut target).carrier id = deck.carrier id := by
  cases found : deck.find? target with
  | none => rw [cut, found]
  | some pair =>
      have outside := outside_of_not_mem_inside notInside
      rw [inside_of_find? found] at notInside
      have documentDistinct := distinct.document
      have detachedDistinct : (Forest.ids deck.detached).Nodup :=
        distinct.sublist (by simp [whole])
      simp only [cut, found, carrier, Forest.any_isElement_iff, Forest.topIds_setContent,
        Forest.parentOf?_append, Forest.parentOf?_of_not_mem notInside, Option.or_none,
        Forest.parentOf?_setContent_of_outside documentDistinct outside.of_append_left
          Forest.ids_nil,
        Forest.parentOf?_setContent_of_outside detachedDistinct
          (outside.of_append_right distinct) Forest.ids_nil]

/-- Content without code elements can be taken out without a trace in the code elements. -/
theorem codes_setContent
    (distinct : (Forest.ids forest).Nodup)
    (noCodes : Forest.ContentHas (fun inner => codes inner = []) target forest) :
    codes (Forest.setContent target [] forest) = codes forest :=
  Forest.idsWhere_setContent distinct rfl noCodes

/-- An element that is not around the target keeps the code elements inside of it. -/
theorem codesIn_cut_of_not_around
    (distinct : deck.Distinct)
    (notInside : id ∉ deck.inside target)
    (notAround : target ∉ id :: deck.inside id) :
    (deck.cut target).codesIn id = deck.codesIn id := by
  rw [List.mem_cons, not_or] at notAround
  rw [codesIn, codesIn, find?_cut_of_outside distinct (Ne.symm notAround.1) notInside]
  cases found : deck.find? id with
  | none => rfl
  | some pair =>
      rw [inside_of_find? found] at notAround
      simp only [Option.map_some, Forest.setContent_of_not_mem notAround.2]

/-- An element keeps the code elements inside of it when none of them is inside of the target. -/
theorem codesIn_cut_of_no_codes
    (distinct : deck.Distinct)
    (different : id ≠ target)
    (notInside : id ∉ deck.inside target)
    (noCodes : deck.codesIn target = []) :
    (deck.cut target).codesIn id = deck.codesIn id := by
  rw [codesIn, codesIn, find?_cut_of_outside distinct different notInside]
  cases found : deck.find? id with
  | none => rfl
  | some pair =>
      have foundInDeck := found
      rw [find?_eq] at foundInDeck
      refine codes_setContent (Forest.nodup_of_find? distinct foundInDeck) ?_
      intro inner member
      rw [Option.mem_def] at member
      have inPair := Forest.mem_ids_of_find? member
      have targetFound := (find?_inside distinct found inPair).trans member
      rwa [codesIn_of_find? targetFound] at noCodes

theorem targetOf_eq_of_codesIn_eq
    {first second : Deck}
    (same : first.codesIn id = second.codesIn id) :
    first.targetOf id = second.targetOf id := by
  rw [targetOf, targetOf, same]

theorem codesIn_of_emptied
    (emptied : deck.inside id = []) :
    deck.codesIn id = [] := by
  have inOrder := @codesIn_sublist_inside deck id
  rwa [emptied, List.sublist_nil] at inOrder

theorem mem_codesIn_iff
    (distinct : deck.Distinct) :
    other ∈ deck.codesIn id ↔
      other ∈ deck.inside id ∧
        ∃ tag children, deck.find? other = some (tag, children) ∧ tag.name = "code" := by
  constructor
  · intro member
    have isInside := codesIn_sublist_inside.subset member
    obtain ⟨tag, children, found, inChildren⟩ := exists_find?_of_mem_inside isInside
    obtain ⟨otherTag, otherChildren, otherFound⟩ := Forest.exists_find?_of_mem_ids inChildren
    refine ⟨isInside, otherTag, otherChildren,
      (find?_inside distinct found inChildren).trans otherFound, ?_⟩
    rw [codesIn_of_find? found, codes, List.mem_map] at member
    obtain ⟨code, isCode, sameId⟩ := member
    rw [List.mem_filter, beq_iff_eq] at isCode
    rw [find?_eq] at found
    have otherMember : otherTag ∈ Forest.tags children :=
      (Forest.tags_sublist_of_find? otherFound).subset (List.mem_cons_self ..)
    have sameTag : otherTag = code :=
      List.inj_on_of_nodup_map (Forest.nodup_of_find? distinct found) otherMember isCode.1
        ((Forest.id_of_find? otherFound).trans sameId.symm)
    rw [sameTag]
    exact isCode.2
  · rintro ⟨isInside, otherTag, otherChildren, otherFound, isCode⟩
    obtain ⟨tag, children, found, inChildren⟩ := exists_find?_of_mem_inside isInside
    rw [find?_inside distinct found inChildren] at otherFound
    have otherMember : otherTag ∈ Forest.tags children :=
      (Forest.tags_sublist_of_find? otherFound).subset (List.mem_cons_self ..)
    rw [codesIn_of_find? found, codes, List.mem_map]
    exact ⟨otherTag, List.mem_filter.mpr ⟨otherMember, by simp [isCode]⟩,
      Forest.id_of_find? otherFound⟩

/-- A code element is one of those inside of whatever it is inside of. -/
theorem mem_codesIn_of_mem_inside
    {around : Nat}
    (distinct : deck.Distinct)
    (isCode : other ∈ deck.codesIn around)
    (isInside : other ∈ deck.inside id) :
    other ∈ deck.codesIn id := by
  rw [mem_codesIn_iff distinct] at isCode ⊢
  exact ⟨isInside, isCode.2⟩

/-! ## Settled places -/

/-- The block of an element is written on a place with nothing left inside its target. -/
structure Settled (deck : Deck) (id : Nat) (place : Place) : Prop where
  place_eq : deck.place id = place
  emptied : deck.inside place.target = []

theorem not_mem_inside_targetOf
    (distinct : deck.Distinct)
    (notInside : other ∉ deck.inside id) :
    other ∉ deck.inside (deck.targetOf id) := by
  rcases targetOf_mem deck id with itself | member
  · rwa [itself]
  · exact fun inTarget => notInside ((inside_trans distinct member).1 inTarget)

/-- The step for an element settles its place. -/
theorem settled_cut_targetOf
    (distinct : deck.Distinct) :
    (deck.cut (deck.targetOf id)).Settled id (deck.place id) := by
  have notSelf : id ∉ deck.inside id := not_mem_inside_self distinct
  have notInside := not_mem_inside_targetOf distinct notSelf
  have sameCarrier := carrier_cut distinct notInside
  have sameTarget : (deck.cut (deck.targetOf id)).targetOf id = deck.targetOf id := by
    rcases targetOf_cases deck id with only | ⟨itself, -⟩
    · have member : deck.targetOf id ∈ deck.inside id :=
        codesIn_sublist_inside.subset (by simp [only])
      have different : id ≠ deck.targetOf id := by
        intro same
        rw [← same] at member
        exact not_mem_inside_self distinct member
      have noCodes : deck.codesIn (deck.targetOf id) = [] := by
        have inOrder := (inside_trans distinct member).2
        rw [only] at inOrder
        rcases List.sublist_singleton.mp inOrder with none | itself
        · exact none
        · have inItself : deck.targetOf id ∈ deck.inside (deck.targetOf id) :=
            codesIn_sublist_inside.subset (by simp [itself])
          exact absurd inItself (not_mem_inside_self distinct)
      exact targetOf_eq_of_codesIn_eq (codesIn_cut_of_no_codes distinct different notInside noCodes)
    · rw [itself]
      rw [targetOf, codesIn_of_emptied inside_cut_self]
  refine ⟨?_, inside_cut_self⟩
  rw [place, place, sameTarget, sameCarrier]

/--
A settled place stays settled when the place of another element is cut that is not around its
element. The target of the other may still be inside, but then there is no code inside of it.
-/
theorem Settled.cut
    {place : Place}
    (settled : deck.Settled id place)
    (distinct : deck.Distinct)
    (different : id ≠ other)
    (notInside : id ∉ deck.inside other) :
    (deck.cut (deck.targetOf other)).Settled id place := by
  have notInTarget := not_mem_inside_targetOf distinct notInside
  have notTarget : id ≠ deck.targetOf other := by
    rcases targetOf_mem deck other with itself | member
    · rwa [itself]
    · exact fun same => notInside (same ▸ member)
  have emptied : deck.inside (deck.targetOf id) = [] := by
    have sameTarget : deck.targetOf id = place.target := congrArg Place.target settled.place_eq
    rw [sameTarget]
    exact settled.emptied
  have sameCodes : (deck.cut (deck.targetOf other)).codesIn id = deck.codesIn id := by
    by_cases around : deck.targetOf other ∈ deck.inside id
    · refine codesIn_cut_of_no_codes distinct notTarget notInTarget ?_
      rcases targetOf_cases deck id with only | ⟨itself, -⟩
      · rcases targetOf_cases deck other with otherOnly | ⟨otherItself, otherNotOnly⟩
        · -- Both targets are the one code element inside, which has been emptied.
          have isCode : deck.targetOf other ∈ deck.codesIn other := by simp [otherOnly]
          have sameTarget := mem_codesIn_of_mem_inside distinct isCode around
          rw [only, List.mem_singleton] at sameTarget
          rw [sameTarget]
          exact codesIn_of_emptied emptied
        · have inOrder := (inside_trans distinct around).2
          rw [only, otherItself] at inOrder
          rcases List.sublist_singleton.mp inOrder with none | single
          · rw [otherItself]
            exact none
          · exact absurd single (otherNotOnly _)
      · rw [itself] at emptied
        rw [emptied] at around
        contradiction
    · exact codesIn_cut_of_not_around distinct notInTarget
        (by simp [Ne.symm notTarget, around])
  have samePlace : (deck.cut (deck.targetOf other)).place id = deck.place id := by
    rw [Deck.place, Deck.place, targetOf_eq_of_codesIn_eq sameCodes,
      carrier_cut distinct notInTarget]
  refine ⟨samePlace.trans settled.place_eq, ?_⟩
  have shrunk : (deck.cut (deck.targetOf other)).inside place.target ⊆ deck.inside place.target :=
    inside_cut_subset distinct
  rwa [settled.emptied, List.subset_nil] at shrunk

/-- Nothing changes for any place when what is cut has been emptied before. -/
theorem place_cut_of_emptied
    (distinct : deck.Distinct)
    (emptied : deck.inside target = []) :
    (deck.cut target).place id = deck.place id := by
  have notInside : id ∉ deck.inside target := by simp [emptied]
  have sameCodes : (deck.cut target).codesIn id = deck.codesIn id := by
    by_cases same : id = target
    · rw [same, codesIn_of_emptied emptied, codesIn_of_emptied inside_cut_self]
    · exact codesIn_cut_of_no_codes distinct same notInside (codesIn_of_emptied emptied)
  rw [place, place, targetOf_eq_of_codesIn_eq sameCodes, carrier_cut distinct notInside]

theorem Settled.cut_of_emptied
    {place : Place}
    (settled : deck.Settled id place)
    (distinct : deck.Distinct)
    (emptied : deck.inside target = []) :
    (deck.cut target).Settled id place := by
  refine ⟨(place_cut_of_emptied distinct emptied).trans settled.place_eq, ?_⟩
  have shrunk : (deck.cut target).inside place.target ⊆ deck.inside place.target :=
    inside_cut_subset distinct
  rwa [settled.emptied, List.subset_nil] at shrunk

/-! ## Runs -/

/-- The places of some elements, each found after the places before it have been cut. -/
def places (deck : Deck) : List Nat → List Place
  | [] => []
  | id :: rest => deck.place id :: (deck.cut (deck.targetOf id)).places rest

/-- Take out the content of some targets one after the other. -/
def cutAll (deck : Deck) : List Place → Deck
  | [] => deck
  | place :: rest => (deck.cut place.target).cutAll rest

/-- No element is around an earlier one. -/
def InOrder (deck : Deck) (ids : List Nat) : Prop :=
  ids.Pairwise fun earlier later => earlier ≠ later ∧ earlier ∉ deck.inside later

theorem InOrder.cut
    {ids : List Nat}
    (inOrder : deck.InOrder ids)
    (distinct : deck.Distinct) :
    (deck.cut target).InOrder ids :=
  List.Pairwise.imp
    (fun apart => ⟨apart.1, fun inside => apart.2 (inside_cut_subset distinct inside)⟩) inOrder

@[simp] theorem length_places (deck : Deck) (ids : List Nat) :
    (deck.places ids).length = ids.length := by
  induction ids generalizing deck with
  | nil => rfl
  | cons id rest inductionHypothesis => simp [places, inductionHypothesis]

/-- A settled place stays settled in a run over elements that are not around its own. -/
theorem Settled.cutAll_places
    {place : Place}
    {ids : List Nat}
    (settled : deck.Settled id place)
    (distinct : deck.Distinct)
    (apart : ∀ other ∈ ids, id ≠ other ∧ id ∉ deck.inside other) :
    (deck.cutAll (deck.places ids)).Settled id place := by
  induction ids generalizing deck with
  | nil => exact settled
  | cons other rest inductionHypothesis =>
      obtain ⟨different, notInside⟩ := apart other (List.mem_cons_self ..)
      refine inductionHypothesis (settled.cut distinct different notInside)
        (distinct.cut _) fun next member => ?_
      obtain ⟨nextDifferent, nextNotInside⟩ := apart next (List.mem_cons_of_mem _ member)
      exact ⟨nextDifferent, fun inside => nextNotInside (inside_cut_subset distinct inside)⟩

/-- After a run in document order all its places are settled. -/
theorem settled_of_run
    {ids : List Nat}
    (distinct : deck.Distinct)
    (inOrder : deck.InOrder ids) :
    ∀ entry ∈ ids.zip (deck.places ids),
      (deck.cutAll (deck.places ids)).Settled entry.1 entry.2 := by
  induction ids generalizing deck with
  | nil => simp
  | cons id rest inductionHypothesis =>
      obtain ⟨first, others⟩ := List.pairwise_cons.mp inOrder
      intro entry member
      rw [places, List.zip_cons_cons, List.mem_cons] at member
      rcases member with rfl | inRest
      · refine (settled_cut_targetOf distinct).cutAll_places (distinct.cut _) fun other member => ?_
        obtain ⟨different, notInside⟩ := first other member
        exact ⟨different, fun inside => notInside (inside_cut_subset distinct inside)⟩
      · exact inductionHypothesis (distinct.cut _)
          (InOrder.cut others distinct) entry inRest

/-- Settled places are found again, whatever settled places are cut before. -/
theorem places_of_settled
    {ids : List Nat}
    {settledPlaces : List Place}
    (distinct : deck.Distinct)
    (sameLength : settledPlaces.length = ids.length)
    (settled : ∀ entry ∈ ids.zip settledPlaces, deck.Settled entry.1 entry.2) :
    deck.places ids = settledPlaces := by
  induction ids generalizing deck settledPlaces with
  | nil => exact (List.length_eq_zero_iff.mp sameLength).symm
  | cons id rest inductionHypothesis =>
      match settledPlaces with
      | place :: others =>
          have first : deck.Settled id place := settled (id, place) (by simp)
          have sameTarget : deck.targetOf id = place.target :=
            congrArg Place.target first.place_eq
          have restSettled : ∀ entry ∈ rest.zip others,
              (deck.cut place.target).Settled entry.1 entry.2 := fun entry member =>
            (settled entry (by simp [member])).cut_of_emptied distinct first.emptied
          rw [places, first.place_eq, sameTarget,
            inductionHypothesis (distinct.cut _) (by simpa using sameLength) restSettled]

end CodeDeck.Deck
