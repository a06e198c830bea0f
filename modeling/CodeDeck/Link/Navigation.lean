import CodeDeck.Link.Payload

namespace CodeDeck.Link

/-!
# Following links

A click follows the link of a block when the control or command key is held; a
plain click does nothing. The browser may refuse to open an address, which is noted.
-/

/-- The keys that are held during a click. -/
structure Click where
  control : Bool
  command : Bool
  deriving Repr, DecidableEq

namespace Click

/-- Whether a click follows a link. -/
def follows (click : Click) : Bool :=
  click.control || click.command

end Click

/-- A click is described by a key that clicks do not know. -/
structure UnknownKey where
  key : String
  deriving Repr, DecidableEq

/-- The message about an unknown key. -/
def UnknownKey.message (unknown : UnknownKey) : String :=
  "ClickEvent.__init__() got an unexpected keyword argument '" ++ unknown.key ++ "'"

/-- A click by the keys that are named for it; each is held when its value counts as given. -/
def Click.ofEntries (entries : Json.Entries) : Except UnknownKey Click :=
  match entries.find? fun entry => entry.1 != "ctrl" && entry.1 != "meta" with
  | some entry => .error ⟨entry.1⟩
  | none =>
      let isHeld (key : String) : Bool := ((Json.Entries.get? entries key).getD .null).isGiven
      .ok ⟨isHeld "ctrl", isHeld "meta"⟩

/-- The record of a link that is followed. -/
def openRecord (config : Config) : Log.Record where
  source := .processor
  level := .debug
  message := "Opening " ++ config.baseUrl

/-- The address that a click on a block opens. -/
def opened? (config : Config) (fragment : String) (click : Click) : Option String :=
  if click.follows then some (address config fragment) else none

/-- What a click on a block writes to the log. -/
def clickRecords (config : Config) (click : Click) : List Log.Record :=
  if click.follows then [openRecord config] else []

/-- What opening an address writes to the log, by whether the browser took it. -/
def browserRecords (taken : Bool) : List Log.Record :=
  if taken then
    []
  else
    [{ source := .launcher, level := .warning, message := "No browser available to open link" }]

end CodeDeck.Link
