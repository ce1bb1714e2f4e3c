import DocScribe.Text.Basic

/-!
# `DocScribe.Log`: events and their levels

What happens during a run is logged as named events. A threshold
decides which of them are shown.
-/

set_option autoImplicit false

namespace DocScribe.Log

/-- The levels, from the least urgent to the most urgent. -/
inductive Level where
  | debug
  | info
  | warning
  | error
  | critical
deriving DecidableEq, Repr

namespace Level

/-- The rank of a level. -/
def rank : Level → Nat
  | .debug => 10
  | .info => 20
  | .warning => 30
  | .error => 40
  | .critical => 50

/-- The word that a log line shows. -/
def word : Level → Text
  | .debug => "debug"
  | .info => "info"
  | .warning => "warning"
  | .error => "error"
  | .critical => "critical"

/-- The name that settings use for a level. -/
def settingName : Level → Text
  | .debug => "DEBUG"
  | .info => "INFO"
  | .warning => "WARNING"
  | .error => "ERROR"
  | .critical => "CRITICAL"

/-- The levels in the order in which they are listed. -/
def all : List Level := [.debug, .info, .warning, .error, .critical]

/-- The level that a setting names. -/
def ofSettingName? (name : Text) : Option Level :=
  all.find? fun level => level.settingName == name

end Level

/-- An event. -/
structure Entry where
  level : Level
  event : Text
deriving DecidableEq

def debug (event : Text) : Entry := ⟨.debug, event⟩

def info (event : Text) : Entry := ⟨.info, event⟩

def warning (event : Text) : Entry := ⟨.warning, event⟩

def error (event : Text) : Entry := ⟨.error, event⟩

/-- Whether an event is shown above a threshold. -/
def Entry.passes (threshold : Level) (entry : Entry) : Bool :=
  threshold.rank ≤ entry.level.rank

/-- The two layouts of log lines. -/
inductive Layout where
  | json
  | console
deriving DecidableEq, Repr

namespace Layout

def word : Layout → Text
  | .json => "json"
  | .console => "console"

/-- The layouts in the order in which they are listed. -/
def all : List Layout := [.json, .console]

/-- The layout that a setting names. -/
def ofWord? (name : Text) : Option Layout :=
  all.find? fun layout => layout.word == name

end Layout

end DocScribe.Log
