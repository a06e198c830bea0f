import CodeDeck.Proofs.Json.ScalarReadBack

namespace CodeDeck.Json

/-!
# Written values read back

The compact text of a value reads back as that value, entries in their order,
when the value holds no double-precision number, no whole number too long for
a numeral, and no object with two entries under one key. The induction follows
the value: every part of it reads back in front of whatever may follow a value.
-/

mutual

/--
Whether a value reads back from its compact text: it holds no double-precision number, its
whole numbers are short enough to be read, and the keys of each object are distinct.
-/
def isPlain : Json → Bool
  | .null => true
  | .bool _ => true
  | .int value => Decimal.digitCount value ≤ Numeral.maxDigits
  | .float _ => false
  | .string _ => true
  | .array items => arePlain items
  | .object entries => (entries.map Prod.fst).Nodup && areEntriesPlain entries

/-- Whether all items of an array read back. -/
def arePlain : List Json → Bool
  | [] => true
  | item :: items => isPlain item && arePlain items

/-- Whether the values of all entries read back. -/
def areEntriesPlain : List (String × Json) → Bool
  | [] => true
  | (_, value) :: entries => isPlain value && areEntriesPlain entries

end

theorem arePlain_cons
    {item : Json}
    {items : List Json} :
    arePlain (item :: items) = true ↔ item.isPlain = true ∧ arePlain items = true := by
  rw [arePlain, Bool.and_eq_true]

theorem areEntriesPlain_cons
    {key : String}
    {value : Json}
    {entries : List (String × Json)} :
    areEntriesPlain ((key, value) :: entries) = true ↔
      value.isPlain = true ∧ areEntriesPlain entries = true := by
  rw [areEntriesPlain, Bool.and_eq_true]

theorem isPlain_object
    {entries : List (String × Json)} :
    (object entries).isPlain = true ↔
      (entries.map Prod.fst).Nodup ∧ areEntriesPlain entries = true := by
  rw [isPlain, Bool.and_eq_true, decide_eq_true_eq]

namespace Entries

/-- Storing under a new key puts the entry at the end. -/
theorem put_of_new
    {entries : Entries}
    {key : String}
    (value : Json)
    (new : key ∉ entries.map Prod.fst) :
    put entries key value = entries ++ [(key, value)] := by
  induction entries with
  | nil => rfl
  | cons entry rest inductionHypothesis =>
      obtain ⟨name, old⟩ := entry
      simp only [List.map_cons, List.mem_cons, not_or] at new
      rw [put, if_neg (Ne.symm new.1), inductionHypothesis new.2]
      rfl

/-- Pairs stored behind entries whose keys are all different stay as they are. -/
theorem foldl_put_of_distinct
    (pairs entries : Entries)
    (distinct : ((entries ++ pairs).map Prod.fst).Nodup) :
    pairs.foldl (fun entries pair => put entries pair.1 pair.2) entries = entries ++ pairs := by
  induction pairs generalizing entries with
  | nil => simp
  | cons pair pairs inductionHypothesis =>
      have regrouped : ((entries ++ [pair] ++ pairs).map Prod.fst).Nodup := by
        simpa using distinct
      have new : pair.1 ∉ entries.map Prod.fst := by
        intro member
        rw [List.map_append, List.nodup_append] at distinct
        exact distinct.2.2 _ member _ (by simp) rfl
      rw [List.foldl_cons, put_of_new pair.2 new, inductionHypothesis _ regrouped]
      simp

theorem ofPairs_of_distinct
    {pairs : Entries}
    (distinct : (pairs.map Prod.fst).Nodup) :
    ofPairs pairs = pairs :=
  foldl_put_of_distinct pairs [] distinct

end Entries

/-- A character with which no written value starts. -/
def startsNothing (c : Char) : Bool :=
  isBlank c || c == ']' || c == '\uFEFF'

theorem startsNothing_of_isDigit
    {c : Char}
    (digit : Decimal.isDigit c = true) :
    startsNothing c = false := by
  simp only [Decimal.isDigit, Bool.and_eq_true, decide_eq_true_eq] at digit
  have range : 48 ≤ c.toNat ∧ c.toNat ≤ 57 := digit
  simp only [startsNothing, isBlank, Bool.or_eq_false_iff, beq_eq_false_iff_ne]
  refine ⟨⟨⟨⟨⟨?_, ?_⟩, ?_⟩, ?_⟩, ?_⟩, ?_⟩
  all_goals
    rintro rfl
    simp at range

/-- The first character of a written value is no blank, no bracket that closes, no mark. -/
theorem write_starts
    {value : Json}
    (plain : value.isPlain = true) :
    ∃ c rest, value.write = c :: rest ∧ startsNothing c = false := by
  cases value with
  | null => exact ⟨_, _, rfl, by decide⟩
  | bool value =>
      cases value
      · exact ⟨_, _, rfl, by decide⟩
      · exact ⟨_, _, rfl, by decide⟩
  | int value =>
      cases value with
      | ofNat n =>
          obtain ⟨c, rest, shape, digit⟩ := Decimal.exists_digits n
          exact ⟨c, rest, by rw [write, Decimal.ofInt, shape], startsNothing_of_isDigit digit⟩
      | negSucc n => exact ⟨_, _, rfl, by decide⟩
  | float value => simp [isPlain] at plain
  | string value => exact ⟨_, _, rfl, by decide⟩
  | array items =>
      cases items
      · exact ⟨_, _, rfl, by decide⟩
      · exact ⟨_, _, rfl, by decide⟩
  | object entries =>
      cases entries
      · exact ⟨_, _, rfl, by decide⟩
      · exact ⟨_, _, rfl, by decide⟩

theorem write_append_ne
    {value : Json}
    {c : Char}
    (rest after : List Char)
    (plain : value.isPlain = true)
    (starts : startsNothing c = true) :
    value.write ++ rest ≠ c :: after := by
  obtain ⟨first, more, shape, start⟩ := write_starts plain
  intro same
  rw [shape, List.cons_append] at same
  injection same with sameFirst _
  rw [sameFirst, starts] at start
  contradiction

/-- No blanks are skipped in front of a written value. -/
theorem skipBlanks_write_append
    {value : Json}
    (plain : value.isPlain = true)
    (rest : List Char) :
    skipBlanks (value.write ++ rest) = value.write ++ rest := by
  obtain ⟨c, more, shape, start⟩ := write_starts plain
  simp only [startsNothing, Bool.or_eq_false_iff] at start
  rw [shape, List.cons_append, skipBlanks, List.dropWhile_cons_of_neg (by simp [start])]

@[simp] theorem skipBlanks_comma (rest : List Char) : skipBlanks (',' :: rest) = ',' :: rest :=
  rfl

@[simp] theorem skipBlanks_colon (rest : List Char) : skipBlanks (':' :: rest) = ':' :: rest :=
  rfl

@[simp] theorem skipBlanks_quote (rest : List Char) : skipBlanks ('"' :: rest) = '"' :: rest :=
  rfl

@[simp] theorem skipBlanks_bracket (rest : List Char) : skipBlanks (']' :: rest) = ']' :: rest :=
  rfl

@[simp] theorem skipBlanks_brace
    (rest : List Char) :
    skipBlanks ('\x7d' :: rest) = '\x7d' :: rest :=
  rfl

theorem endsValue_writeItems
    (items : List Json)
    (rest : List Char) :
    EndsValue (writeItems items ++ rest) := by
  cases items with
  | nil => simp [writeItems]
  | cons item items => simp [writeItems]

theorem endsValue_writeEntries
    (entries : List (String × Json))
    (rest : List Char) :
    EndsValue (writeEntries entries ++ rest) := by
  cases entries with
  | nil => simp [writeEntries]
  | cons entry entries => simp [writeEntries]

/-- A text that starts with a digit or a sign and a digit is read as a scalar. -/
theorem readValue_ofInt
    {value : Int}
    {rest : List Char}
    {fuel : Nat}
    (short : Decimal.digitCount value ≤ Numeral.maxDigits)
    (ended : EndsValue rest) :
    readValue (fuel + 1) (Decimal.ofInt value ++ rest) = .ok (.int value, rest) := by
  rw [← readScalar_ofInt short ended]
  cases value with
  | ofNat n =>
      obtain ⟨c, more, shape, digit⟩ := Decimal.exists_digits n
      rw [Decimal.ofInt, shape, List.cons_append, readValue]
      all_goals
        intro after same
        injection same with first _
        subst c
        simp [Decimal.isDigit] at digit
  | negSucc n => rfl

theorem writeString_append
    (text : String)
    (rest : List Char) :
    writeString text ++ rest = '"' :: (text.toList.flatMap writeChar ++ '"' :: rest) := by
  simp [writeString]

/-- A string at the start of a text is read as its characters. -/
theorem readValue_writeString
    (fuel : Nat)
    (text : String)
    (rest : List Char) :
    readValue (fuel + 1) (writeString text ++ rest) = .ok (.string text, rest) := by
  have body := readString_written text.toList rest
  rw [writeString_append, readValue, body]
  simp [Except.bind, bind, pure, Except.pure]

/-- An array is read from its items when it does not end at once. -/
theorem readValue_array
    {fuel : Nat}
    {chars rest : List Char}
    {items : List Json}
    (goesOn : ∀ after, skipBlanks chars ≠ ']' :: after)
    (read : readItems fuel (skipBlanks chars) = .ok (items, rest)) :
    readValue (fuel + 1) ('[' :: chars) = .ok (.array items, rest) := by
  rw [readValue]
  split
  · rename_i shape
    exact absurd shape (goesOn _)
  · rw [read]
    rfl

/-- An object is read from its entries when it does not end at once. -/
theorem readValue_object
    {fuel : Nat}
    {chars rest : List Char}
    {entries : List (String × Json)}
    (goesOn : ∀ after, skipBlanks chars ≠ '\x7d' :: after)
    (read : readEntries fuel (skipBlanks chars) = .ok (entries, rest)) :
    readValue (fuel + 1) ('\x7b' :: chars) = .ok (.object (Entries.ofPairs entries), rest) := by
  rw [readValue]
  split
  · rename_i shape
    exact absurd shape (goesOn _)
  · rw [read]
    rfl

theorem readItems_last
    {fuel : Nat}
    {chars after rest : List Char}
    {item : Json}
    (read : readValue fuel chars = .ok (item, after))
    (closed : skipBlanks after = ']' :: rest) :
    readItems (fuel + 1) chars = .ok ([item], rest) := by
  simp [readItems, read, closed, bind, Except.bind, pure, Except.pure]

theorem readItems_more
    {fuel : Nat}
    {chars after next rest : List Char}
    {item : Json}
    {items : List Json}
    (read : readValue fuel chars = .ok (item, after))
    (comma : skipBlanks after = ',' :: next)
    (others : readItems fuel (skipBlanks next) = .ok (items, rest)) :
    readItems (fuel + 1) chars = .ok (item :: items, rest) := by
  simp [readItems, read, comma, others, bind, Except.bind, pure, Except.pure]

theorem readEntries_last
    {fuel : Nat}
    {name : String}
    {chars after rest : List Char}
    {value : Json}
    (read : readValue fuel (skipBlanks chars) = .ok (value, after))
    (closed : skipBlanks after = '\x7d' :: rest) :
    readEntries (fuel + 1) (writeString name ++ ':' :: chars) = .ok ([(name, value)], rest) := by
  have body := readString_written name.toList (':' :: chars)
  rw [writeString_append, readEntries, body]
  simp [read, closed, bind, Except.bind, pure, Except.pure]

theorem readEntries_more
    {fuel : Nat}
    {name : String}
    {chars after next rest : List Char}
    {value : Json}
    {entries : List (String × Json)}
    (read : readValue fuel (skipBlanks chars) = .ok (value, after))
    (comma : skipBlanks after = ',' :: next)
    (others : readEntries fuel (skipBlanks next) = .ok (entries, rest)) :
    readEntries (fuel + 1) (writeString name ++ ':' :: chars) =
      .ok ((name, value) :: entries, rest) := by
  have body := readString_written name.toList (':' :: chars)
  rw [writeString_append, readEntries, body]
  simp [read, comma, others, bind, Except.bind, pure, Except.pure]

theorem writeItems_length_pos (items : List Json) : 0 < (writeItems items).length := by
  cases items with
  | nil => simp [writeItems]
  | cons item items => simp [writeItems]

theorem writeEntries_length_pos
    (entries : List (String × Json)) :
    0 < (writeEntries entries).length := by
  cases entries with
  | nil => simp [writeEntries]
  | cons entry entries => simp [writeEntries]

mutual

/-- A written value reads back in front of whatever may follow it. -/
theorem readValue_write :
    ∀ (value : Json) (fuel : Nat) {rest : List Char},
      value.isPlain = true →
      EndsValue rest →
      value.write.length ≤ fuel →
      readValue fuel (value.write ++ rest) = .ok (value, rest)
  | value, 0, _, plain, _, enough => by
      obtain ⟨c, more, shape, _⟩ := write_starts plain
      simp [shape] at enough
  | .null, _ + 1, _, _, _, _ => rfl
  | .bool true, _ + 1, _, _, _, _ => rfl
  | .bool false, _ + 1, _, _, _, _ => rfl
  | .int _, _ + 1, _, plain, ended, _ =>
      readValue_ofInt (by simpa [isPlain] using plain) ended
  | .float _, _ + 1, _, plain, _, _ => by
      simp [isPlain] at plain
  | .string text, fuel + 1, rest, _, _, _ =>
      readValue_writeString fuel text rest
  | .array [], _ + 1, _, _, _, _ => rfl
  | .array (item :: items), fuel + 1, rest, plain, _, enough => by
      have itemsPlain : arePlain (item :: items) = true := by
        simpa [isPlain] using plain
      have itemPlain := (arePlain_cons.mp itemsPlain).1
      have room : (writeItems (item :: items)).length ≤ fuel + 1 := by
        simpa [write, writeItems] using enough
      have read : readItems fuel (item.write ++ (writeItems items ++ rest)) =
          .ok (item :: items, rest) := by
        simpa [writeItems] using
          readItems_write (item :: items) fuel (by simp) itemsPlain room
      have noBlank := skipBlanks_write_append itemPlain (writeItems items ++ rest)
      have goesOn : ∀ after,
          skipBlanks (item.write ++ (writeItems items ++ rest)) ≠ ']' :: after := by
        intro after
        rw [noBlank]
        exact write_append_ne _ after itemPlain (by decide)
      rw [write, List.cons_append, List.cons_append, List.append_assoc]
      exact readValue_array goesOn (noBlank.symm ▸ read)
  | .object [], _ + 1, _, _, _, _ => rfl
  | .object ((key, value) :: entries), fuel + 1, rest, plain, _, enough => by
      obtain ⟨distinct, entriesPlain⟩ := isPlain_object.mp plain
      have room : (writeEntries ((key, value) :: entries)).length ≤ fuel + 1 := by
        simpa [write, writeEntries] using enough
      have read : readEntries fuel
          (writeString key ++ ':' :: (value.write ++ (writeEntries entries ++ rest))) =
            .ok ((key, value) :: entries, rest) := by
        simpa [writeEntries] using
          readEntries_write ((key, value) :: entries) fuel (by simp) entriesPlain room
      rw [write]
      simp only [List.cons_append, List.append_assoc]
      rw [← Entries.ofPairs_of_distinct distinct]
      rw [writeString_append] at read ⊢
      exact readValue_object (by simp) read

/-- The written items of an array, without the comma in front of them, read back. -/
theorem readItems_write :
    ∀ (items : List Json) (fuel : Nat) {rest : List Char},
      items ≠ [] →
      arePlain items = true →
      (writeItems items).length ≤ fuel + 1 →
      readItems fuel ((writeItems items).drop 1 ++ rest) = .ok (items, rest)
  | [], _, _, nonempty, _, _ => absurd rfl nonempty
  | item :: items, fuel, rest, _, plain, enough => by
      obtain ⟨itemPlain, itemsPlain⟩ := arePlain_cons.mp plain
      -- The comma in front of the first item is not read, which the `+ 1` makes up for.
      have closes := writeItems_length_pos items
      simp only [writeItems, List.length_cons, List.length_append] at enough
      obtain ⟨fuel, rfl⟩ : ∃ less, fuel = less + 1 := Nat.exists_eq_add_one.mpr (by omega)
      have read := readValue_write item fuel itemPlain (endsValue_writeItems items rest) (by omega)
      rw [writeItems, List.cons_append, List.drop_one, List.tail_cons, List.append_assoc]
      match items, itemsPlain, enough, read with
      | [], _, _, read => exact readItems_last read rfl
      | next :: more, itemsPlain, enough, read =>
          have nextPlain := (arePlain_cons.mp itemsPlain).1
          have others : readItems fuel (next.write ++ (writeItems more ++ rest)) =
              .ok (next :: more, rest) := by
            simpa [writeItems] using
              readItems_write (next :: more) fuel (by simp) itemsPlain (by omega)
          rw [← skipBlanks_write_append nextPlain] at others
          refine readItems_more read ?_ others
          simp [writeItems]

/-- The written entries of an object, without the comma in front of them, read back. -/
theorem readEntries_write :
    ∀ (entries : List (String × Json)) (fuel : Nat) {rest : List Char},
      entries ≠ [] →
      areEntriesPlain entries = true →
      (writeEntries entries).length ≤ fuel + 1 →
      readEntries fuel ((writeEntries entries).drop 1 ++ rest) = .ok (entries, rest)
  | [], _, _, nonempty, _, _ => absurd rfl nonempty
  | (key, value) :: entries, fuel, rest, _, plain, enough => by
      obtain ⟨valuePlain, entriesPlain⟩ := areEntriesPlain_cons.mp plain
      have closes := writeEntries_length_pos entries
      simp only [writeEntries, List.length_cons, List.length_append] at enough
      obtain ⟨fuel, rfl⟩ : ∃ less, fuel = less + 1 := Nat.exists_eq_add_one.mpr (by omega)
      have read :=
        readValue_write value fuel valuePlain (endsValue_writeEntries entries rest) (by omega)
      rw [← skipBlanks_write_append valuePlain] at read
      rw [writeEntries]
      simp only [List.cons_append, List.append_assoc, List.drop_one, List.tail_cons]
      match entries, entriesPlain, enough, read with
      | [], _, _, read => exact readEntries_last read rfl
      | (nextKey, nextValue) :: more, entriesPlain, enough, read =>
          have others : readEntries fuel
              (writeString nextKey ++ ':' :: (nextValue.write ++ (writeEntries more ++ rest))) =
                .ok ((nextKey, nextValue) :: more, rest) := by
            simpa [writeEntries] using
              readEntries_write ((nextKey, nextValue) :: more) fuel (by simp) entriesPlain
                (by omega)
          rw [writeString_append, ← skipBlanks_quote] at others
          refine readEntries_more read ?_ others
          simp [writeEntries, writeString_append]

end

/-- The compact text of a value reads back as that value. -/
theorem read_write
    {value : Json}
    (plain : value.isPlain = true) :
    read value.write = .ok value := by
  have noMark : ∀ after, value.write ≠ '\uFEFF' :: after := by
    intro after
    rw [← List.append_nil value.write]
    exact write_append_ne [] after plain (by decide)
  have whole := readValue_write value (value.write.length + 1) plain endsValue_nil (by omega)
  have noBlank := skipBlanks_write_append plain []
  rw [List.append_nil] at whole noBlank
  rw [Json.read]
  · rw [noBlank, whole]
    rfl
  · exact noMark

end CodeDeck.Json
