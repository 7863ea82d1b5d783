import BytecodeGuard.Config
import BytecodeGuard.Member.Basic
import BytecodeGuard.Rule.Notes

/-!
# Where a rule is at work

A `Site` is what a rule knows about its whereabouts: the configuration, the method and, as the
case may be, the instruction. It also knows the name of the rule, so that messages are attributed
without the help of the rule. A rule can still set a location and a name of its own.
-/

namespace BytecodeGuard

/-- What all methods of a run share. -/
structure Analysis where
  config : Config
  log : Log

namespace Analysis

/-- A run with the given configuration and nothing recorded. -/
def ofConfig (config : Config) : Analysis := ⟨config, .ofThreshold config.minimumSeverity⟩

/-- Records the messages of a stage. -/
def note (a : Analysis) (notes : Notes) : Analysis := { a with log := a.log.extend notes.messages }

end Analysis

/-- Where a rule is at work. -/
structure Site where
  config : Config
  member : Member
  /-- The index of the instruction that is looked at. -/
  index : Option Nat := none
  /-- The name of the rule, empty outside of rules. -/
  rule : String := ""

namespace Site

/-- The place in the code. -/
def location (s : Site) : Location :=
  ⟨s.member.className, s.member.name, s.member.signature, s.index⟩

/-- A message that is attributed to the place and the rule. -/
def draft (s : Site) (severity : Severity) : Draft where
  severity
  location := some s.location
  rule := if s.rule.isEmpty then none else some s.rule

/-- The display form of a class name or array type. -/
def display (s : Site) (name : String) : String := s.config.display name

end Site

/-- What a rule has to say about an instruction. -/
structure Finding where
  severity : Severity
  text : Option String := none
  /-- What else the rule sets, which may be another location or another name of a rule. -/
  settings : List Draft.Setting := []

namespace Site

/-- The message under construction for a finding: what the site says about it, and then what the
rule sets. -/
def draftOf (s : Site) (f : Finding) : Draft :=
  { s.draft f.severity with text := f.text }.setAll f.settings

/-- The message for a finding at a site, if its conditions hold. -/
def message? (s : Site) (f : Finding) : Option Message := (s.draftOf f).message?

end Site

end BytecodeGuard
