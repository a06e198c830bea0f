namespace CodeDeck.Log

/-!
# Log records

What one part of the program has to say, and how much it matters. A record
names the part that wrote it; where it goes is decided elsewhere.
-/

/-- How much a record matters. -/
inductive Level where
  | debug
  | info
  | warning
  | error
  | critical
  deriving Repr, DecidableEq

/-- The name of a level. -/
def Level.name : Level → String
  | .debug => "DEBUG"
  | .info => "INFO"
  | .warning => "WARNING"
  | .error => "ERROR"
  | .critical => "CRITICAL"

/-- The number by which levels are compared. -/
def Level.weight : Level → Nat
  | .debug => 10
  | .info => 20
  | .warning => 30
  | .error => 40
  | .critical => 50

/-- The parts of the program that write records. -/
inductive Source where
  | app
  | config
  | processor
  | reports
  | deck
  | launcher
  deriving Repr, DecidableEq

/-- The name of a part in the log. -/
def Source.name : Source → String
  | .app => "app"
  | .config => "core.config"
  | .processor => "core.processor"
  | .reports => "core.ports"
  | .deck => "adapters.html_deck"
  | .launcher => "adapters.launchers"

/-- One record. -/
structure Record where
  source : Source
  level : Level
  message : String
  deriving Repr, DecidableEq

end CodeDeck.Log
