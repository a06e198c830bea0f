import CodeDeck.Json.Value

namespace CodeDeck

/-!
# Settings by language

A setting is shared by all languages or has an entry for each language. A
shared setting counts only when it is a text, and then even when it is empty;
an entry counts only when it is given, so an empty entry is the same as none.
-/

/-- A setting that all languages share, or one entry for each language. -/
inductive Setting where
  | shared (value : Json)
  | perLanguage (entries : Json.Entries)
  deriving Repr, BEq

namespace Setting

/-- A value as a setting: none when it is null, per language when it is an object. -/
def ofJson? : Json → Option Setting
  | .null => none
  | .object entries => some (.perLanguage entries)
  | value => some (.shared value)

/-- A mapping is looked up with a key that cannot be one. -/
structure UnusableKey where
  kind : Json.Kind
  deriving Repr, DecidableEq

/-- The message about a key that cannot be one. -/
def UnusableKey.message (unusable : UnusableKey) : String :=
  "unhashable type: '" ++ unusable.kind.name ++ "'"

/-- The entry for a language, when it is given. -/
def entry (entries : Json.Entries) (language : String) (default : Json) : Json :=
  match Json.Entries.get? entries language with
  | some value => value.orElse default
  | none => default

/-- The value of a setting for a language. -/
def resolve (setting : Option Setting) (language : String) (default : Json) : Json :=
  match setting with
  | none => default
  | some (.shared (.string value)) => .string value
  | some (.shared _) => default
  | some (.perLanguage entries) => entry entries language default

/--
The value of a setting for a language that may be any value.

Only a text can have an entry. A list or a mapping is refused where an entry
would have to be looked up.
-/
def resolveFor
    (setting : Option Setting)
    (language default : Json) : Except UnusableKey Json :=
  match language with
  | .string language => .ok (resolve setting language default)
  | language =>
      match setting, language.kind with
      | some (.perLanguage _), .array => .error ⟨.array⟩
      | some (.perLanguage _), .object => .error ⟨.object⟩
      | some (.shared (.string value)), _ => .ok (.string value)
      | _, _ => .ok default

@[simp] theorem resolve_none (language : String) (default : Json) :
    resolve none language default = default := rfl

@[simp] theorem resolve_shared_string (value language : String) (default : Json) :
    resolve (some (.shared (.string value))) language default = .string value := rfl

/-- For a text as language both ways of asking agree. -/
@[simp] theorem resolveFor_string
    (setting : Option Setting)
    (language : String)
    (default : Json) :
    resolveFor setting (.string language) default = .ok (resolve setting language default) := rfl

end Setting

end CodeDeck
