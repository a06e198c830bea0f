import CodeDeck.File.Store
import CodeDeck.Proofs.Json.ReadBack
import CodeDeck.Proofs.Text.Lines

namespace CodeDeck.Json

/-!
# Values kept in files

The compact text of a value is one line without a carriage return, since
strings escape the one that they hold. So reading it as the text of a file,
where every line end becomes a newline, changes nothing: `textOf_encode_write`.
-/

theorem return_not_mem_digits (n : Nat) : '\r' ∉ Decimal.digits n := by
  intro member
  have isDigit := Decimal.isDigit_of_mem_digits member
  contradiction

theorem return_not_mem_ofInt (value : Int) : '\r' ∉ Decimal.ofInt value := by
  cases value with
  | ofNat n => exact return_not_mem_digits n
  | negSucc n => exact List.not_mem_cons_of_ne_of_not_mem (by decide) (return_not_mem_digits _)

theorem hexDigit_ne_return : ∀ n < 16, hexDigit n ≠ '\r' := by
  decide

theorem return_not_mem_writeChar (c : Char) : '\r' ∉ writeChar c := by
  unfold writeChar
  -- The first seven characters have an escape of two characters each.
  split; · decide
  split; · decide
  split; · decide
  split; · decide
  split; · decide
  split; · decide
  split; · decide
  split
  · rename_i control
    have high := hexDigit_ne_return (c.toNat / 16) (by omega)
    have low := hexDigit_ne_return (c.toNat % 16) (by omega)
    simp [high.symm, low.symm]
  · rename_i notReturn _ _ _ _
    simpa using Ne.symm notReturn

theorem return_not_mem_writeString (text : String) : '\r' ∉ writeString text := by
  have inside : '\r' ∉ text.toList.flatMap writeChar := by
    intro member
    obtain ⟨c, -, written⟩ := List.mem_flatMap.mp member
    exact return_not_mem_writeChar c written
  simp [writeString, inside]

mutual

theorem return_not_mem_write :
    ∀ value : Json, value.isPlain = true → '\r' ∉ value.write
  | .null, _ => by simp [write]
  | .bool true, _ => by simp [write]
  | .bool false, _ => by simp [write]
  | .int value, _ => return_not_mem_ofInt value
  | .float _, plain => by simp [isPlain] at plain
  | .string text, _ => return_not_mem_writeString text
  | .array [], _ => by simp [write]
  | .array (item :: items), plain => by
      obtain ⟨itemPlain, itemsPlain⟩ := arePlain_cons.mp plain
      have first := return_not_mem_write item itemPlain
      have others := return_not_mem_writeItems items itemsPlain
      simp [write, first, others]
  | .object [], _ => by simp [write]
  | .object ((key, value) :: entries), plain => by
      obtain ⟨valuePlain, othersPlain⟩ := areEntriesPlain_cons.mp (isPlain_object.mp plain).2
      have name := return_not_mem_writeString key
      have first := return_not_mem_write value valuePlain
      have others := return_not_mem_writeEntries entries othersPlain
      simp [write, name, first, others]

theorem return_not_mem_writeItems :
    ∀ items : List Json, arePlain items = true → '\r' ∉ writeItems items
  | [], _ => by simp [writeItems]
  | item :: items, plain => by
      obtain ⟨itemPlain, itemsPlain⟩ := arePlain_cons.mp plain
      have first := return_not_mem_write item itemPlain
      have others := return_not_mem_writeItems items itemsPlain
      simp [writeItems, first, others]

theorem return_not_mem_writeEntries :
    ∀ entries : List (String × Json), areEntriesPlain entries = true → '\r' ∉ writeEntries entries
  | [], _ => by simp [writeEntries]
  | (key, value) :: entries, plain => by
      obtain ⟨valuePlain, entriesPlain⟩ := areEntriesPlain_cons.mp plain
      have name := return_not_mem_writeString key
      have first := return_not_mem_write value valuePlain
      have others := return_not_mem_writeEntries entries entriesPlain
      simp [writeEntries, name, first, others]

end

/-- The text of a file that holds the compact text of a value. -/
theorem textOf_encode_write
    {value : Json}
    (plain : value.isPlain = true) :
    File.textOf (Text.Utf8.encode value.write) = .ok value.write := by
  rw [File.textOf, Text.Utf8.decode_encode, Except.map,
    Text.unifyLineEnds_of_not_mem (return_not_mem_write value plain)]

end CodeDeck.Json
