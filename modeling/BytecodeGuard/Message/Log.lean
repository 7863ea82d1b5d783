import BytecodeGuard.Message.Basic

/-!
# The message log

A log keeps, in order, the messages that are at least as severe as its threshold, and drops the
others silently. Nothing is ever removed. `Log.summary` counts what was kept, most severe first.
-/

namespace BytecodeGuard

/-- The messages kept so far. -/
structure Log where
  /-- The least severity that is kept. -/
  threshold : Severity := .trace
  entries : Array Message := #[]
deriving DecidableEq

namespace Log

/-- An empty log with the given threshold. -/
def ofThreshold (threshold : Severity) : Log := { threshold }

/-- The messages in the order in which they were recorded. -/
def toList (log : Log) : List Message := log.entries.toList

/-- The number of messages. -/
def size (log : Log) : Nat := log.entries.size

/-- Whether the log holds no message. -/
def isEmpty (log : Log) : Bool := log.entries.isEmpty

/-- Records a message that is severe enough. -/
def push (log : Log) (m : Message) : Log :=
  if log.threshold ≤ m.severity then { log with entries := log.entries.push m } else log

/-- Records a draft that is not withheld. -/
def record (log : Log) (d : Draft) : Log :=
  match d.message? with
  | some m => log.push m
  | none => log

/-- Records messages in order. -/
def extend (log : Log) (ms : List Message) : Log := ms.foldl push log

/-- Records the messages of another log. -/
def merge (log other : Log) : Log := log.extend other.toList

/-- A log of the given messages that keeps all of them. -/
def ofList (ms : List Message) : Log := Log.extend {} ms

/-- A log is its threshold and its messages. -/
theorem eq_of_toList_eq {log log' : Log} (ht : log.threshold = log'.threshold)
    (hm : log.toList = log'.toList) : log = log' := by
  cases log
  cases log'
  obtain rfl := Array.toList_inj.1 hm
  exact congrArg (Log.mk · _) ht

theorem toList_push (log : Log) (m : Message) :
    (log.push m).toList = log.toList ++ if log.threshold ≤ m.severity then [m] else [] := by
  unfold push toList
  split <;> simp_all

@[simp]
theorem threshold_push (log : Log) (m : Message) : (log.push m).threshold = log.threshold := by
  unfold push
  split <;> rfl

@[simp]
theorem threshold_extend (log : Log) (ms : List Message) :
    (log.extend ms).threshold = log.threshold := by
  induction ms generalizing log with
  | nil => rfl
  | cons m ms ih => exact (ih _).trans (threshold_push log m)

/-- A log keeps, of the messages offered to it, those that reach its threshold. -/
theorem toList_extend (log : Log) (ms : List Message) :
    (log.extend ms).toList = log.toList ++ ms.filter (log.threshold ≤ ·.severity) := by
  induction ms generalizing log with
  | nil => simp [extend]
  | cons m ms ih =>
    have h : (log.extend (m :: ms)).toList = ((log.push m).extend ms).toList := rfl
    rw [h, ih, toList_push, threshold_push, List.filter_cons]
    split <;> simp_all

/-! ## Queries -/

/-- The messages of exactly the given severity. -/
def ofSeverity (log : Log) (s : Severity) : List Message :=
  log.toList.filter fun m => m.severity == s

/-- The messages of at least the given severity. -/
def atLeast (log : Log) (s : Severity) : List Message := log.toList.filter fun m => s ≤ m.severity

/-- The messages of a rule. -/
def ofRule (log : Log) (rule : String) : List Message :=
  log.toList.filter fun m => m.rule == some rule

/-- The messages about a member. Overloads are not told apart. -/
def ofMember (log : Log) (className memberName : String) : List Message :=
  log.toList.filter fun m => m.location.any fun l =>
    l.className == className && l.memberName == memberName

/-- The warnings. -/
def warnings (log : Log) : List Message := log.ofSeverity .warning

/-- The errors. -/
def errors (log : Log) : List Message := log.ofSeverity .error

/-- Whether there is an error. -/
def hasErrors (log : Log) : Bool := !log.errors.isEmpty

/-- The number of messages of the given severity. -/
def countOf (log : Log) (s : Severity) : Nat := (log.ofSeverity s).length

/-- The severities that occur, in ascending order, with their numbers of messages. -/
def severityCounts (log : Log) : List (Severity × Nat) :=
  (Severity.all.map fun s => (s, log.countOf s)).filter fun (_, count) => count != 0

/-- The rules that occur, in alphabetical order, with their numbers of messages. -/
def ruleCounts (log : Log) : List (String × Nat) :=
  let rules := (log.toList.filterMap Message.rule).eraseDups
  (rules.mergeSort fun a b => a ≤ b).map fun rule => (rule, (log.ofRule rule).length)

/-- A number of messages with its noun. -/
def countText : Severity × Nat → String
  | (s, count) => toString count ++ " " ++ if count = 1 then s.singular else s.plural

/-- The numbers of messages in words, most severe first. -/
def summary (log : Log) : String :=
  if log.isEmpty then "no messages"
  else ", ".intercalate (log.severityCounts.reverse.map countText)

end Log

end BytecodeGuard
