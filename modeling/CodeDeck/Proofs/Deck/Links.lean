import CodeDeck.Proofs.Deck.Frame
import CodeDeck.Proofs.Markup.Lexing

namespace CodeDeck

open Markup

/-!
# Which links are on the rendered page

An element that is found in a document stands in the rendered page, written out
with its attributes, so the address around a marked element is on the page. An
address on the document is on no page: rendering does not depend on it, and an
address that is too long for the page cannot be there.
-/

/-! ## Written elements -/

namespace Markup

variable {id : Nat} {name value : String} {tag : Tag} {forest children : Forest}

/-- An element that is found stands in the written forest, between what is written around it. -/
theorem Forest.exists_write_of_find?
    (found : find? id forest = some (tag, children))
    (raw : Bool) :
    ∃ before inner behind,
      write raw forest = before ++ (Node.write inner (.element tag children) ++ behind) := by
  induction forest using Forest.induction generalizing raw with
  | nil => contradiction
  | text kind content nodes ofNodes =>
      obtain ⟨before, inner, behind, shape⟩ := ofNodes found raw
      refine ⟨(Node.text kind content).write raw ++ before, inner, behind, ?_⟩
      rw [write, shape, List.append_assoc]
  | element front content nodes ofContent ofNodes =>
      rcases cases_of_find?_element found with ⟨-, rfl, rfl⟩ | ⟨-, inside⟩ | ⟨-, -, nextTo⟩
      · exact ⟨[], raw, write raw nodes, rfl⟩
      · obtain ⟨before, inner, behind, shape⟩ := ofContent inside (isRaw front.name)
        have notEmpty : content.isEmpty = false := by
          cases content with
          | nil => contradiction
          | cons node others => rfl
        refine ⟨'<' :: front.write ++ '>' :: before, inner,
          behind ++ '<' :: '/' :: front.name.toList ++ ['>'] ++ write raw nodes, ?_⟩
        rw [write, Node.write, notEmpty, shape]
        simp
      · obtain ⟨before, inner, behind, shape⟩ := ofNodes nextTo raw
        refine ⟨(Node.element front content).write raw ++ before, inner, behind, ?_⟩
        rw [write, shape, List.append_assoc]

theorem length_le_length_escape (chars : List Char) : chars.length ≤ (escape chars).length := by
  refine length_le_length_flatMap (fun c => ?_) chars
  unfold escapeChar
  split_ifs <;> simp

theorem length_le_length_quoteValue (chars : List Char) :
    chars.length ≤ (quoteValue chars).length := by
  have escaped := length_le_length_escape chars
  have quoted : (escape chars).length ≤ ((escape chars).flatMap escapeQuote).length := by
    refine length_le_length_flatMap (fun c => ?_) _
    unfold escapeQuote
    split_ifs <;> simp
  unfold quoteValue
  split_ifs
  all_goals
    simp only [List.length_cons, List.length_append]
    omega

/-- An element is written in no fewer characters than any of its attributes has. -/
theorem length_le_length_write
    (has : tag.get? name = some value)
    (raw : Bool) :
    value.length ≤ (Node.write raw (.element tag children)).length := by
  obtain ⟨entry, found, rfl⟩ := Option.map_eq_some_iff.mp has
  have sorted : entry ∈ sortAttributes tag.attributes :=
    (List.mergeSort_perm tag.attributes _).mem_iff.mpr (List.mem_of_find?_eq_some found)
  have inTag : entry.write.length ≤ tag.write.length := by
    obtain ⟨before, behind, shape⟩ := List.append_of_mem sorted
    rw [Tag.write, shape]
    simp only [List.flatMap_append, List.flatMap_cons, List.length_append]
    omega
  have inEntry : entry.value.length ≤ entry.write.length := by
    have quoted := length_le_length_quoteValue entry.value.toList
    rw [String.length_toList] at quoted
    simp only [Attribute.write, List.length_append, List.length_cons]
    omega
  have inElement : tag.write.length ≤ (Node.write raw (.element tag children)).length := by
    rw [Node.write]
    split_ifs
    all_goals
      simp only [List.length_append, List.length_cons]
      omega
  exact inEntry.trans (inTag.trans inElement)

end Markup

namespace Deck

variable {deck : Deck} {id : Nat} {url : String} {processed : List ProcessedBlock}

/-- An element with an address stands in the rendered page, written out with what is in it. -/
def ShowsUrl (deck : Deck) (url : String) : Prop :=
  ∃ id tag children before inner behind,
    Forest.find? id deck.document = some (tag, children) ∧
      tag.get? urlAttribute = some url ∧
      deck.render.toList = before ++ (Node.write inner (.element tag children) ++ behind)

theorem showsUrl_of_find?
    {tag : Tag}
    {children : Forest}
    (found : Forest.find? id deck.document = some (tag, children))
    (has : tag.get? urlAttribute = some url) :
    deck.ShowsUrl url := by
  obtain ⟨before, inner, behind, shape⟩ := Forest.exists_write_of_find? found false
  refine ⟨id, tag, children, before, inner, behind, found, has, ?_⟩
  rw [render, Forest.render, String.toList_ofList, shape]

/-- No page shows an address that is longer than the page. -/
theorem ShowsUrl.length_le
    (shows : deck.ShowsUrl url) :
    url.length ≤ deck.render.length := by
  obtain ⟨id, tag, children, before, inner, behind, -, has, shape⟩ := shows
  have written := @length_le_length_write _ _ tag children has inner
  have pageLength := congrArg List.length shape
  simp only [List.length_append, String.length_toList] at pageLength
  omega

/-! ## Addresses on the document -/

/-- A write does to the elements of a deck the same whatever address is on the document. -/
theorem exists_put_documentUrl
    (deck : Deck)
    (write : Write)
    (url? : Option String) :
    ∃ left, ({ deck with documentUrl := url? } : Deck).put write =
      { deck.put write with documentUrl := left } := by
  match write with
  | .source target text =>
      refine ⟨url?, ?_⟩
      have sameFound : ({ deck with documentUrl := url? } : Deck).find? target =
          deck.find? target := rfl
      rw [put, put, setText, setText, sameFound]
      cases deck.find? target with
      | none => rfl
      | some found => rfl
  | .address (.element id) url => exact ⟨url?, rfl⟩
  | .address .document url => exact ⟨some url, rfl⟩

theorem document_putAll_documentUrl
    (deck : Deck)
    (writes : List Write)
    (url? : Option String) :
    (({ deck with documentUrl := url? } : Deck).putAll writes).document =
      (deck.putAll writes).document := by
  induction writes generalizing deck url? with
  | nil => rfl
  | cons write rest inductionHypothesis =>
      obtain ⟨left, written⟩ := exists_put_documentUrl deck write url?
      exact (congrArg (fun after => (after.putAll rest).document) written).trans
        (inductionHypothesis (deck.put write) left)

namespace Fits

variable {before behind : List (Nat × ProcessedBlock)} {block : ProcessedBlock}

/-- What is written for an element at the top does not depend on the address for it. -/
theorem document_filled_of_top
    {others : List ProcessedBlock}
    (atTop : id ∈ Forest.topIds deck.document)
    (split : deck.marked.zip processed = before ++ (id, block) :: behind)
    (otherSplit : deck.marked.zip others = before ++ (id, { block with url }) :: behind) :
    (deck.filled others).document = (deck.filled processed).document := by
  have written (entries : List (Nat × ProcessedBlock)) (last : ProcessedBlock)
      (entriesSplit : entries = before ++ (id, last) :: behind) :
      (deck.putAll (deck.writesAt entries)).document =
        (((deck.putAll (deck.writesAt before)).put
          (.source (deck.targetOf id) last.parsed.displaySource)).putAll
            (deck.writesAt behind)).document := by
    let written := (deck.putAll (deck.writesAt before)).put
      (.source (deck.targetOf id) last.parsed.displaySource)
    rw [entriesSplit, writesAt_split, carrier_eq_document_iff.mpr atTop, putAll_append]
    exact document_putAll_documentUrl written (deck.writesAt behind) (some last.url)
  rw [filled, filled, written _ _ split, written _ _ otherSplit]

/-- An element that is not at the top and shares its parent with no other one has its link. -/
theorem showsUrl_filled
    (fits : deck.Fits processed)
    (apart : (deck.marked.map fun id => Forest.parentOf? id deck.document).Nodup)
    (notAtTop : id ∉ Forest.topIds deck.document)
    (split : deck.marked.zip processed = before ++ (id, block) :: behind) :
    (deck.filled processed).ShowsUrl block.url := by
  have present := fits.present id (marked_of_split split).1
  obtain ⟨parent, around⟩ := Forest.exists_parentOf?_of_mem present notAtTop
  have last : ∀ later ∈ behind, Forest.parentOf? later.1 deck.document ≠ some parent := by
    intro later member same
    have marked_eq := congrArg (List.map Prod.fst) split
    rw [List.map_fst_zip (Nat.le_of_eq fits.sameLength.symm)] at marked_eq
    rw [marked_eq, List.map_map, List.map_append, List.map_cons, List.nodup_append] at apart
    refine (List.nodup_cons.mp apart.2.1).1 (List.mem_map.mpr ⟨later, member, ?_⟩)
    exact same.trans around.symm
  obtain ⟨written, content, found, has⟩ := fits.find?_parent split around last
  exact showsUrl_of_find? found has

end Fits

/-- Members of a list and of one cut at a member are paired up alike for all such members. -/
theorem exists_zip_split
    {ids : List Nat}
    {earlier later : List ProcessedBlock}
    (isMember : ids[earlier.length]? = some id) :
    ∃ before behind, ∀ block : ProcessedBlock,
      ids.zip (earlier ++ block :: later) = before ++ (id, block) :: behind := by
  obtain ⟨inRange, rfl⟩ := List.getElem?_eq_some_iff.mp isMember
  have takenLength : (ids.take earlier.length).length = earlier.length :=
    List.length_take_of_le (Nat.le_of_lt inRange)
  refine ⟨(ids.take earlier.length).zip earlier, (ids.drop (earlier.length + 1)).zip later,
    fun block => ?_⟩
  conv_lhs => rw [← List.take_append_drop earlier.length ids, List.drop_eq_getElem_cons inRange]
  rw [List.zip_append takenLength, List.zip_cons_cons]

/-- After blocks have been applied, as many as fit, the page shows the links of them all. -/
def KeepsLinks (deck : Deck) : Prop :=
  ∀ processed after,
    deck.apply processed = .ok after → ∀ block ∈ processed, after.ShowsUrl block.url

theorem apply_top
    {earlier later : List ProcessedBlock}
    {block : ProcessedBlock}
    (fits : deck.Fits (earlier ++ block :: later))
    (isMarked : deck.marked[earlier.length]? = some id)
    (atTop : id ∈ Forest.topIds deck.document)
    (url : String) :
    ∃ after other,
      deck.apply (earlier ++ block :: later) = .ok after ∧
        deck.apply (earlier ++ { block with url } :: later) = .ok other ∧
        other.render = after.render := by
  obtain ⟨before, behind, split⟩ := exists_zip_split isMarked
  have otherLength : (earlier ++ { block with url } :: later).length = deck.size := by
    rw [← fits.sameLength, List.length_append, List.length_append, List.length_cons,
      List.length_cons]
  have otherFits : deck.Fits (earlier ++ { block with url } :: later) :=
    ⟨fits.sound, fits.attached, fits.unnested, otherLength⟩
  refine ⟨_, _, fits.apply_eq, otherFits.apply_eq, ?_⟩
  rw [render, render, Fits.document_filled_of_top atTop (split block) (split { block with url })]

/-- A deck with a marked element at the top loses some links. -/
theorem not_keepsLinks_of_top
    (sound : deck.Sound)
    (attached : deck.detached = [])
    (unnested : deck.Unnested)
    (isMarked : id ∈ deck.marked)
    (atTop : id ∈ Forest.topIds deck.document) :
    ¬ deck.KeepsLinks := by
  intro keeps
  let block : ProcessedBlock := ⟨⟨"", .null, .null, "", "", .null⟩, "", ""⟩
  obtain ⟨first, second, marked_eq⟩ := List.append_of_mem isMarked
  let earlier := List.replicate first.length block
  let later := List.replicate second.length block
  have fits : deck.Fits (earlier ++ block :: later) := by
    refine ⟨sound, attached, unnested, ?_⟩
    simp [size, marked_eq, earlier, later]
  have isAt : deck.marked[earlier.length]? = some id := by
    simp [marked_eq, earlier]
  -- An address that is longer than the page, which is the same for every address.
  let long (page : String) := String.ofList (List.replicate (page.length + 1) 'a')
  obtain ⟨after, -, applied, -, -⟩ := apply_top fits isAt atTop ""
  obtain ⟨again, other, appliedAgain, otherApplied, same⟩ :=
    apply_top fits isAt atTop (long after.render)
  rw [applied] at appliedAgain
  cases appliedAgain
  have shows := keeps _ other otherApplied { block with url := long after.render } (by simp)
  have longer : (long after.render).length = after.render.length + 1 := by
    rw [String.length_ofList, List.length_replicate]
  have short : (long after.render).length ≤ after.render.length :=
    shows.length_le.trans_eq (congrArg String.length same)
  omega

/-- The page has the link of a block, unless it is for an element at the top; that is on no page. -/
theorem exists_apply_link
    {earlier later : List ProcessedBlock}
    {block : ProcessedBlock}
    (fits : deck.Fits (earlier ++ block :: later))
    (apart : (deck.marked.map fun id => Forest.parentOf? id deck.document).Nodup)
    (isMarked : deck.marked[earlier.length]? = some id) :
    ∃ after,
      deck.apply (earlier ++ block :: later) = .ok after ∧
        (id ∉ Forest.topIds deck.document → after.ShowsUrl block.url) ∧
        (id ∈ Forest.topIds deck.document →
          ∀ url, ∃ other,
            deck.apply (earlier ++ { block with url } :: later) = .ok other ∧
              other.render = after.render) := by
  obtain ⟨before, behind, split⟩ := exists_zip_split isMarked
  refine ⟨_, fits.apply_eq, fun notAtTop => fits.showsUrl_filled apart notAtTop (split block),
    fun atTop url => ?_⟩
  obtain ⟨after, other, applied, otherApplied, same⟩ := apply_top fits isMarked atTop url
  rw [fits.apply_eq] at applied
  cases applied
  exact ⟨other, otherApplied, same⟩

/--
Which links are on the rendered page, when no marked element is inside of another and no two
have the same parent. After blocks have been applied the page has, for each marked element
that is not at the top of the document, an element with the address of its block. For one at
the top the page is the same whatever that address is. So the links of all blocks are kept
exactly when no marked element is at the top.
-/
theorem apply_showsUrl
    {page : String}
    (read : Deck.parse page = .ok deck)
    (unnested : deck.Unnested)
    (apart : (deck.marked.map fun id => Forest.parentOf? id deck.document).Nodup) :
    (∀ earlier block later id,
      (earlier ++ block :: later).length = deck.size →
        deck.marked[earlier.length]? = some id →
        ∃ after,
          deck.apply (earlier ++ block :: later) = .ok after ∧
            (id ∉ Forest.topIds deck.document → after.ShowsUrl block.url) ∧
            (id ∈ Forest.topIds deck.document →
              ∀ url, ∃ other,
                deck.apply (earlier ++ { block with url } :: later) = .ok other ∧
                  other.render = after.render)) ∧
      (deck.KeepsLinks ↔ ∀ id ∈ deck.marked, id ∉ Forest.topIds deck.document) := by
  have sound := sound_of_parse read
  have attached := detached_of_parse read
  refine ⟨?_, fun keeps id isMarked atTop => ?_, fun noneAtTop => ?_⟩
  · intro earlier block later id sameLength isMarked
    exact exists_apply_link ⟨sound, attached, unnested, sameLength⟩ apart isMarked
  · exact not_keepsLinks_of_top sound attached unnested isMarked atTop keeps
  · intro processed after applied block member
    have sameLength := exists_apply_of_ok applied
    obtain ⟨earlier, later, rfl⟩ := List.append_of_mem member
    have inRange : earlier.length < deck.marked.length := by
      rw [← size, ← sameLength]
      simp
    obtain ⟨again, appliedAgain, shows, -⟩ := exists_apply_link
      ⟨sound, attached, unnested, sameLength⟩ apart (List.getElem?_eq_getElem inRange)
    rw [applied] at appliedAgain
    cases appliedAgain
    exact shows (noneAtTop _ (List.getElem_mem inRange))

/-- What a computation finds for a page holds of its deck. -/
theorem exists_parse_of_found
    {page : String}
    {marked top : List Nat}
    {parents : List (Option Nat)}
    (found : (Deck.parse page).toOption.map (fun deck =>
      (deck.marked, Forest.topIds deck.document, decide deck.Unnested,
        deck.marked.map fun id => Forest.parentOf? id deck.document)) =
      some (marked, top, true, parents)) :
    ∃ deck,
      Deck.parse page = .ok deck ∧
        deck.marked = marked ∧
        Forest.topIds deck.document = top ∧
        deck.Unnested ∧
        (deck.marked.map fun id => Forest.parentOf? id deck.document) = parents := by
  obtain ⟨deck, read, looked⟩ := exists_ok_of_map found
  simp only [Prod.mk.injEq, decide_eq_true_eq] at looked
  exact ⟨deck, read, looked⟩

/-- A marked element in another element and one at the top: the link of the first is kept. -/
theorem apply_showsUrl_mixed :
    let page := "<div><code data-ce>a</code></div><pre data-ce>b</pre>"
    let parsed : ParsedBlock := ⟨"c", .null, .null, "i", "i", .null⟩
    ∃ deck after,
      Deck.parse page = .ok deck ∧
        deck.Unnested ∧
        (deck.marked.map fun id => Forest.parentOf? id deck.document).Nodup ∧
        deck.apply [⟨parsed, "f", "u#f"⟩, ⟨parsed, "g", "u#g"⟩] = .ok after ∧
        after.ShowsUrl "u#f" ∧
        ¬ deck.KeepsLinks := by
  intro page parsed
  obtain ⟨deck, read, marked, top, unnested, parents⟩ :=
    @exists_parse_of_found page [1, 2] [0, 2] [some 0, none] (by decide +kernel)
  have apart : (deck.marked.map fun id => Forest.parentOf? id deck.document).Nodup := by
    rw [parents]
    decide
  obtain ⟨eachLink, keeps⟩ := apply_showsUrl read unnested apart
  obtain ⟨after, applied, shows, -⟩ := eachLink [] ⟨parsed, "f", "u#f"⟩
    [⟨parsed, "g", "u#g"⟩] 1 (by rw [size, marked]; rfl) (by rw [marked]; rfl)
  refine ⟨deck, after, read, unnested, apart, applied, shows (by rw [top]; decide), ?_⟩
  rw [keeps, marked, top]
  decide

/-- Not every deck keeps its links: a marked element may stand at the top. -/
theorem not_forall_keepsLinks :
    ¬ ∀ page deck,
      Deck.parse page = .ok deck →
        deck.Unnested →
        (deck.marked.map fun id => Forest.parentOf? id deck.document).Nodup →
        deck.KeepsLinks := by
  intro always
  obtain ⟨deck, read, marked, top, unnested, parents⟩ :=
    @exists_parse_of_found "<code data-ce>a</code>" [0] [0] [none] (by decide +kernel)
  have isMarked : 0 ∈ deck.marked := by
    rw [marked]
    decide
  have atTop : 0 ∈ Forest.topIds deck.document := by
    rw [top]
    decide
  have apart : (deck.marked.map fun id => Forest.parentOf? id deck.document).Nodup := by
    rw [parents]
    decide
  exact not_keepsLinks_of_top (sound_of_parse read) (detached_of_parse read) unnested isMarked
    atTop (always _ deck read unnested apart)

end Deck

end CodeDeck
