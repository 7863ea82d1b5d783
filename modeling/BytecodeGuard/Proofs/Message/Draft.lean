import BytecodeGuard.Message.Basic
import Mathlib.Data.List.Induction

/-!
# What settings make of a draft

A message is built up by settings, one after the other. Of its location, its text and its rule,
the last setting counts, and what the draft had before if there is none. A condition never
replaces another: all of them have to hold.

`setAll_eq` says this in one equation. What is known of a draft after any settings is read off
from it.
-/

namespace BytecodeGuard.Draft

namespace Setting

def location? : Setting → Option Location
  | location place => some place
  | _ => none

def text? : Setting → Option String
  | text words => some words
  | _ => none

def rule? : Setting → Option String
  | rule name => some name
  | _ => none

def condition? : Setting → Option Bool
  | given condition => some condition
  | _ => none

end Setting

/-- Every condition among the settings holds. -/
def admitted (settings : List Setting) : Bool := (settings.filterMap (·.condition?)).all id

/-- The draft after its settings. -/
theorem setAll_eq (d : Draft) (settings : List Setting) :
    d.setAll settings = {
      severity := d.severity
      location := (settings.filterMap (·.location?)).getLast?.or d.location
      text := (settings.filterMap (·.text?)).getLast?.or d.text
      rule := (settings.filterMap (·.rule?)).getLast?.or d.rule
      withheld := d.withheld || !admitted settings } := by
  unfold setAll admitted
  induction settings using List.reverseRecOn with
  | nil => simp
  | append_singleton settings setting ih =>
    rw [List.foldl_append, ih]
    cases setting <;>
      simp [set, given, Setting.location?, Setting.text?, Setting.rule?, Setting.condition?,
        Bool.or_assoc]

/-- The message that settings make of a draft, if all their conditions hold. -/
theorem message?_setAll {d : Draft} (hd : d.withheld = false) (settings : List Setting) :
    (d.setAll settings).message? =
      if admitted settings then some {
        severity := d.severity
        location := (settings.filterMap (·.location?)).getLast?.or d.location
        text := ((settings.filterMap (·.text?)).getLast?.or d.text).getD d.severity.singular
        rule := (settings.filterMap (·.rule?)).getLast?.or d.rule }
      else none := by
  rw [setAll_eq, hd]
  unfold message?
  cases admitted settings <;> rfl

end BytecodeGuard.Draft
