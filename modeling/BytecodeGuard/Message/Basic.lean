/-!
# Messages

A message is what a rule has to say about a method: how severe it is, where it was found, and
which rule found it. Severities are ordered from least to most severe. A `Draft` is a message
under construction: it may lack a text, and a condition may withhold it. Whoever builds it up does
so by settings, and a later setting replaces what was set before.
-/

namespace BytecodeGuard

/-- How severe a message is. -/
inductive Severity where
  /-- Details of what a rule did. -/
  | trace
  /-- Noteworthy, with nothing to be done about it. -/
  | informational
  /-- Suspicious code that was guarded or let pass. -/
  | warning
  /-- Code that breaks a rule. -/
  | error
deriving DecidableEq, Inhabited, Repr

namespace Severity

/-- The place in the order of severities. -/
def rank : Severity → Nat
  | trace => 0
  | informational => 1
  | warning => 2
  | error => 3

instance : LT Severity := ⟨fun a b => a.rank < b.rank⟩

instance : LE Severity := ⟨fun a b => a.rank ≤ b.rank⟩

instance (a b : Severity) : Decidable (a < b) := inferInstanceAs (Decidable (a.rank < b.rank))

instance (a b : Severity) : Decidable (a ≤ b) := inferInstanceAs (Decidable (a.rank ≤ b.rank))

/-- All severities in ascending order. -/
def all : List Severity := [trace, informational, warning, error]

/-- The name of the severity. -/
def name : Severity → String
  | trace => "trace"
  | informational => "informational"
  | warning => "warning"
  | error => "error"

/-- The severity with the given name. -/
def ofName? (text : String) : Option Severity := all.find? fun s => s.name == text

/-- The noun for one message. -/
def singular : Severity → String
  | trace => "trace"
  | informational => "note"
  | warning => "warning"
  | error => "error"

/-- The noun for any other number of messages. -/
def plural : Severity → String
  | trace => "traces"
  | informational => "notes"
  | warning => "warnings"
  | error => "errors"

end Severity

/-- A place in the code of a method. -/
structure Location where
  className : String
  memberName : String
  signature : String
  /-- The index of an instruction; the whole method if absent. -/
  index : Option Nat := none
deriving DecidableEq

/-- The text of a location. -/
def Location.text (l : Location) : String :=
  let method := l.className ++ "." ++ l.memberName ++ l.signature
  match l.index with
  | some index => method ++ " @" ++ toString index
  | none => method

/-- A recorded message. -/
structure Message where
  severity : Severity
  location : Option Location := none
  text : String
  /-- The rule that found it. -/
  rule : Option String := none
deriving DecidableEq

/-- The line of text for a message. -/
def Message.line (m : Message) : String :=
  let line := "[" ++ m.severity.name ++ "] " ++ m.text
  match m.location with
  | some location => line ++ " (" ++ location.text ++ ")"
  | none => line

/-- A message under construction. -/
structure Draft where
  severity : Severity
  location : Option Location := none
  text : Option String := none
  rule : Option String := none
  /-- Some condition for the message did not hold. -/
  withheld : Bool := false

namespace Draft

/-- Withholds the message unless the condition holds. -/
def given (d : Draft) (condition : Bool) : Draft :=
  { d with withheld := d.withheld || !condition }

/-- A setting of a message under construction. -/
inductive Setting where
  | location (place : Location)
  | text (words : String)
  | rule (name : String)
  /-- The message is withheld unless the condition holds. -/
  | given (condition : Bool)

/-- A condition is all that is set. -/
instance : Coe Bool (List Setting) := ⟨fun condition => [.given condition]⟩

/-- The draft after a setting. -/
def set (d : Draft) : Setting → Draft
  | .location place => { d with location := some place }
  | .text words => { d with text := some words }
  | .rule name => { d with rule := some name }
  | .given condition => d.given condition

/-- The draft after several settings. -/
def setAll (d : Draft) (settings : List Setting) : Draft := settings.foldl set d

/-- The finished message, unless it is withheld. A message without text is the noun of its
severity. -/
def message? (d : Draft) : Option Message :=
  if d.withheld then none
  else some ⟨d.severity, d.location, d.text.getD d.severity.singular, d.rule⟩

end Draft

end BytecodeGuard
