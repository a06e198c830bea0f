import CodeDeck.File.Store

namespace CodeDeck.File.Store

/-!
# Written files

A file that is written is found under its path afterwards, with the bytes that
were written: `lookUp_write`. The ways to all places stay, because a file is
never written where a directory is, and nothing but the file has changed:
`write_eq_ok_iff`.
-/

variable {store after : Store} {directory here location place : Location} {path : String}
variable {content : List UInt8} {names : List String}

theorem follow_directory
    {name : String}
    (isDirectory : store.get? here = some .directory) :
    store.follow here (name :: names) =
      if name = "." then
        store.follow here names
      else if name = ".." then
        store.follow here.dropLast names
      else if maxNameSize < name.utf8ByteSize then
        .error .nameTooLong
      else
        store.follow (here ++ [name]) names := by
  rw [follow, isDirectory]

/-- A way that can be followed stays when a file is put where no directory is. -/
theorem follow_put
    (noDirectory : store.get? place ≠ some .directory)
    (found : store.follow here names = .ok location) :
    (store.put place (.file content)).follow here names = .ok location := by
  induction names generalizing here with
  | nil => exact found
  | cons name names inductionHypothesis =>
      have isDirectory : store.get? here = some .directory := by
        rw [follow] at found
        split at found
        · contradiction
        · contradiction
        · assumption
      -- Only directories are passed on the way, so the file is put at none of these places.
      have elsewhere : here ≠ place := by
        rintro rfl
        exact noDirectory isDirectory
      rw [follow_directory isDirectory] at found
      rw [follow_directory ((get?_put_ne store _ elsewhere).trans isDirectory)]
      by_cases isHere : name = "."
      · rw [if_pos isHere] at found ⊢
        exact inductionHypothesis found
      rw [if_neg isHere] at found ⊢
      by_cases isAbove : name = ".."
      · rw [if_pos isAbove] at found ⊢
        exact inductionHypothesis found
      rw [if_neg isAbove] at found ⊢
      by_cases long : maxNameSize < name.utf8ByteSize
      · rw [if_pos long] at found
        contradiction
      rw [if_neg long] at found ⊢
      exact inductionHypothesis found

theorem locate_put
    (noDirectory : store.get? place ≠ some .directory)
    (found : store.locate directory path = .ok location) :
    (store.put place (.file content)).locate directory path = .ok location := by
  rw [locate] at found ⊢
  by_cases hasNul : path.toList.contains '\x00' = true
  · rw [if_pos hasNul] at found
    contradiction
  rw [if_neg hasNul] at found ⊢
  by_cases long : maxPathSize < path.utf8ByteSize
  · rw [if_pos long] at found
    contradiction
  rw [if_neg long] at found ⊢
  cases start : Start.ofChars path.toList with
  | working | top | doubleTop =>
      rw [start] at found
      exact follow_put noDirectory found

/-- What it takes to write a file, and what becomes of the store. -/
theorem write_eq_ok_iff :
    store.write directory path content = .ok after ↔
      ∃ location,
        store.locate directory path = .ok location ∧
          store.get? location ≠ some .directory ∧
          after = store.put location (.file content) := by
  rw [write]
  cases store.locate directory path with
  | error fault => simp [bind, Except.bind]
  | ok location =>
      simp only [bind, Except.bind, Except.ok.injEq, exists_eq_left']
      split
      · rename_i isDirectory
        simp [isDirectory]
      · rename_i noDirectory
        rw [Except.ok.injEq, eq_comm, and_iff_right fun isDirectory => noDirectory isDirectory]

/-- A file that is there can be written again. -/
theorem exists_write_of_lookUp
    {old : List UInt8}
    (isFile : store.lookUp directory path = .ok (.file old))
    (content : List UInt8) :
    ∃ after, store.write directory path content = .ok after := by
  rw [lookUp] at isFile
  cases located : store.locate directory path with
  | error fault =>
      rw [located] at isFile
      contradiction
  | ok location =>
      rw [located] at isFile
      refine ⟨_, write_eq_ok_iff.mpr ⟨location, located, fun isDirectory => ?_, rfl⟩⟩
      simp [isDirectory, bind, Except.bind] at isFile

/-- A written file is found under its path. -/
theorem lookUp_write
    (written : store.write directory path content = .ok after) :
    after.lookUp directory path = .ok (.file content) := by
  obtain ⟨location, located, noDirectory, rfl⟩ := write_eq_ok_iff.mp written
  have below : location ≠ [] := by
    rintro rfl
    exact noDirectory rfl
  rw [lookUp, locate_put noDirectory located]
  simp [bind, Except.bind, below]

end CodeDeck.File.Store
