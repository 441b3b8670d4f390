import JavaText.Text.Basic

/-!
# Messages of a command

A command tells what it does in messages of different weight. The user chooses how heavy a message
must be to be shown.
-/

namespace JavaText

/-- The weight of a message, or a limit on it. -/
inductive Level
  | trace
  | debug
  | info
  | warning
  | error
  | critical
  | disable
  deriving DecidableEq, Repr

namespace Level

/-- All levels, from the lightest to the one that no message reaches. -/
def all : List Level :=
  [trace, debug, info, warning, error, critical, disable]

/-- The name of a level. -/
def name : Level → Text
  | trace => "TRACE"
  | debug => "DEBUG"
  | info => "INFO"
  | warning => "WARNING"
  | error => "ERROR"
  | critical => "CRITICAL"
  | disable => "DISABLE"

/-- The level of a name. -/
def ofName? (n : Text) : Option Level :=
  all.find? fun l => l.name == n

/-- How heavy a level is. -/
def weight : Level → Nat
  | trace => 0
  | debug => 1
  | info => 2
  | warning => 3
  | error => 4
  | critical => 5
  | disable => 6

end Level

/-- A message and its weight. -/
structure Message where
  /-- How heavy the message is. -/
  level : Level
  /-- What it says. -/
  text : Text
  deriving DecidableEq, Repr

/-- The messages of a list that are heavy enough. -/
def Message.shown (limit : Level) (messages : List Message) : List Message :=
  messages.filter fun m => decide (limit.weight ≤ m.level.weight)

end JavaText
