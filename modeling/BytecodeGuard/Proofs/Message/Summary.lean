import BytecodeGuard.Message.Log
import BytecodeGuard.Proofs.Text.Cut
import Mathlib.Data.List.Induction

/-!
# What the summary of a log says

The summary puts the numbers of messages into words, most severe first, and the words for an empty
log are of another kind.

**Theorem (`summary_determines_counts`).** Two logs have the same summary if and only if they hold
equally many messages of every severity. The summary of a log that is not empty names exactly the
severities that occur, in descending order, each with its number in decimal.

The numbers are those of one pass over the messages (`tally`), one message at a time.

To read a summary back, its text is cut twice. No part contains a comma, so the commas show where
the parts end (`eq_of_intercalate_eq`). In a part the number is all digits and a blank comes next,
so the number can be told from its noun (`countText_injective`). Both cuts are one argument:
`append_inj_of_head`.
-/

namespace BytecodeGuard

/-! ## Counting -/

namespace Severity

theorem mem_all (s : Severity) : s ∈ all := by
  cases s <;> decide

theorem all_ascending : all.Pairwise (· < ·) := by
  decide

theorem ne_of_lt {s s' : Severity} (h : s < s') : s ≠ s' := by
  rintro rfl
  exact Nat.lt_irrefl _ h

theorem singular_injective : Function.Injective singular := by
  intro s s' h
  cases s <;> cases s' <;> first | rfl | exact absurd h (by decide)

theorem plural_injective : Function.Injective plural := by
  intro s s' h
  cases s <;> cases s' <;> first | rfl | exact absurd h (by decide)

end Severity

namespace Log

variable {log log' : Log} {s : Severity} {n : Nat}

theorem countOf_eq_countP (log : Log) (s : Severity) :
    log.countOf s = log.toList.countP (·.severity = s) := by
  rw [countOf, ofSeverity, List.countP_eq_length_filter]
  rfl

theorem mem_severityCounts : (s, n) ∈ log.severityCounts ↔ n ≠ 0 ∧ n = log.countOf s := by
  simp only [severityCounts, List.mem_filter, List.mem_map, Prod.mk.injEq, bne_iff_ne]
  constructor
  · rintro ⟨⟨_, _, rfl, rfl⟩, hn⟩
    exact ⟨hn, rfl⟩
  · rintro ⟨hn, rfl⟩
    exact ⟨⟨s, s.mem_all, rfl, rfl⟩, hn⟩

theorem severityCounts_ascending (log : Log) :
    log.severityCounts.Pairwise fun p q => p.1 < q.1 :=
  (Severity.all_ascending.map (fun s => (s, log.countOf s)) fun _ _ h => h).filter _

/-- The map of counts has an entry for the severities that occur and no other. -/
theorem lookup_severityCounts :
    log.severityCounts.lookup s = some n ↔ n ≠ 0 ∧ n = log.countOf s := by
  rw [← mem_severityCounts, List.lookup_eq_some_iff]
  constructor
  · rintro ⟨before, after, h, -⟩
    simp [h]
  · intro h
    obtain ⟨before, after, h⟩ := List.append_of_mem h
    refine ⟨before, after, h, fun p hp => ?_⟩
    -- An entry that comes earlier is for a lesser severity.
    have hasc := h ▸ log.severityCounts_ascending
    have hlt : p.1 < s := (List.pairwise_append.1 hasc).2.2 p hp (s, n) List.mem_cons_self
    simpa using (Severity.ne_of_lt hlt).symm

/-- A map of counts after one more message of a severity. -/
def bump (counts : Severity → Option Nat) (s : Severity) : Severity → Option Nat := fun s' =>
  if s' = s then some ((counts s).getD 0 + 1) else counts s'

/-- The map of counts that one pass over the messages makes. -/
def tally (ms : List Message) : Severity → Option Nat :=
  ms.foldl (fun counts m => bump counts m.severity) fun _ => none

theorem tally_concat (ms : List Message) (m : Message) :
    tally (ms ++ [m]) = bump (tally ms) m.severity := by
  unfold tally
  rw [List.foldl_append, List.foldl_cons, List.foldl_nil]

theorem tally_eq (ms : List Message) (s : Severity) :
    tally ms s =
      if ms.countP (·.severity = s) = 0 then none else some (ms.countP (·.severity = s)) := by
  induction ms using List.reverseRecOn with
  | nil => rfl
  | append_singleton ms m ih =>
    rw [tally_concat, List.countP_append, List.countP_singleton]
    unfold bump
    by_cases hm : s = m.severity
    · subst hm
      rw [ih]
      split_ifs <;> simp_all
    · have hne : ¬m.severity = s := fun h => hm h.symm
      simp [hm, hne, ih]

/-- One pass over the messages makes the map of counts. -/
theorem lookup_severityCounts_eq_tally (log : Log) (s : Severity) :
    log.severityCounts.lookup s = tally log.toList s := by
  refine Option.ext fun n => ?_
  rw [lookup_severityCounts, tally_eq, countOf_eq_countP]
  split_ifs with hzero
  · simp [hzero]
  · rw [Option.some.injEq]
    exact ⟨fun h => h.2.symm, fun h => ⟨h ▸ hzero, h.symm⟩⟩

theorem countOf_eq_of_lookup_eq
    (h : log.severityCounts.lookup s = log'.severityCounts.lookup s) :
    log.countOf s = log'.countOf s := by
  by_cases hn : log.countOf s = 0
  · by_contra hne
    have hsome := lookup_severityCounts.2 ⟨Ne.symm (hn ▸ hne), rfl⟩
    exact hne (lookup_severityCounts.1 (h.trans hsome)).2.symm
  · exact (lookup_severityCounts.1 (h.symm.trans (lookup_severityCounts.2 ⟨hn, rfl⟩))).2

theorem severityCounts_eq_iff :
    log.severityCounts = log'.severityCounts ↔
      ∀ s, log.severityCounts.lookup s = log'.severityCounts.lookup s := by
  constructor
  · intro h s
    rw [h]
  · intro h
    have hcount (s : Severity) : log.countOf s = log'.countOf s := countOf_eq_of_lookup_eq (h s)
    simp only [severityCounts, hcount]

theorem severityCounts_eq_nil : log.severityCounts = [] ↔ log.toList = [] := by
  constructor
  · intro h
    refine List.eq_nil_iff_forall_not_mem.2 fun m hm => ?_
    have hpos : log.countOf m.severity ≠ 0 := by
      rw [countOf_eq_countP]
      exact Nat.ne_of_gt (List.countP_pos_iff.2 ⟨m, hm, decide_eq_true rfl⟩)
    exact List.not_mem_nil (h ▸ mem_severityCounts.2 ⟨hpos, rfl⟩)
  · intro h
    refine List.eq_nil_iff_forall_not_mem.2 fun p hp => ?_
    obtain ⟨hne, hn⟩ := mem_severityCounts.1 hp
    exact hne (by rw [hn, countOf_eq_countP, h]; rfl)

/-! ## The words -/

theorem toList_countText (s : Severity) (n : Nat) :
    (countText (s, n)).toList =
      Nat.toDigits 10 n ++ ' ' :: (if n = 1 then s.singular else s.plural).toList := by
  simp [countText, Nat.toString_eq_repr, Nat.toList_repr]

theorem isDigit_of_mem_toDigits (n : Nat) : ∀ c ∈ Nat.toDigits 10 n, c.isDigit = true :=
  fun _ hc => Nat.isDigit_of_mem_toDigits (by decide) (by decide) hc

/-- The words for a number of messages tell the severity and the number. -/
theorem countText_injective : Function.Injective countText := by
  rintro ⟨s, n⟩ ⟨s', n'⟩ h
  have hchars := congrArg String.toList h
  rw [toList_countText, toList_countText] at hchars
  obtain ⟨hdigits, hnoun⟩ := append_inj_of_head (isDigit_of_mem_toDigits n)
    (isDigit_of_mem_toDigits n') (by simp) (by simp) hchars
  obtain rfl : n = n' :=
    calc
      n = Nat.ofDigitChars 10 (Nat.toDigits 10 n) 0 := Nat.ofDigitChars_ten_toDigits.symm
      _ = Nat.ofDigitChars 10 (Nat.toDigits 10 n') 0 := by rw [hdigits]
      _ = n' := Nat.ofDigitChars_ten_toDigits
  have hs : s = s' := by
    have hnoun := String.toList_inj.1 (List.cons.inj hnoun).2
    split_ifs at hnoun
    · exact Severity.singular_injective hnoun
    · exact Severity.plural_injective hnoun
  rw [hs]

theorem comma_notMem_countText (p : Severity × Nat) : ',' ∉ (countText p).toList := by
  obtain ⟨s, n⟩ := p
  rw [toList_countText, List.mem_append, List.mem_cons]
  rintro (h | h | h)
  · exact absurd (isDigit_of_mem_toDigits n _ h) (by decide)
  · exact absurd h (by decide)
  · split_ifs at h <;> cases s <;> exact absurd h (by decide)

theorem countText_ne_no_messages (p : Severity × Nat) : countText p ≠ "no messages" := by
  obtain ⟨s, n⟩ := p
  intro h
  have hchars := congrArg String.toList h
  have hletter : "no messages".toList = 'n' :: "o messages".toList := by decide
  rw [toList_countText, hletter] at hchars
  -- One text starts with digits, and the other with none.
  obtain ⟨hdigits, -⟩ := append_inj_of_head (y := []) (isDigit_of_mem_toDigits n) (by simp)
    (by simp) (by simp) hchars
  exact absurd hdigits Nat.toDigits_ne_nil

/-! ## The summary -/

/-- The parts of a summary. -/
def summaryParts (log : Log) : List String :=
  if log.isEmpty then ["no messages"] else log.severityCounts.reverse.map countText

theorem summary_eq_intercalate (log : Log) : log.summary = ", ".intercalate log.summaryParts := by
  unfold summary summaryParts
  split <;> simp

theorem isEmpty_eq_true : log.isEmpty = true ↔ log.severityCounts = [] := by
  rw [severityCounts_eq_nil]
  simp [isEmpty, toList]

theorem summaryParts_ne_nil (log : Log) : log.summaryParts ≠ [] := by
  unfold summaryParts
  split_ifs with h
  · simp
  · simpa [isEmpty_eq_true] using h

theorem comma_notMem_summaryParts (log : Log) : ∀ part ∈ log.summaryParts, ',' ∉ part.toList := by
  unfold summaryParts
  split_ifs
  · simp only [List.mem_singleton, forall_eq]
    decide
  · intro part hpart
    obtain ⟨p, -, rfl⟩ := List.mem_map.1 hpart
    exact comma_notMem_countText p

theorem summaryParts_of_summary_eq (h : log.summary = log'.summary) :
    log.summaryParts = log'.summaryParts := by
  have hchars := congrArg String.toList h
  simp only [summary_eq_intercalate, String.toList_intercalate] at hchars
  have hcommas (log : Log) : ∀ x ∈ log.summaryParts.map String.toList, ',' ∉ x := by
    intro x hx
    obtain ⟨part, hpart, rfl⟩ := List.mem_map.1 hx
    exact log.comma_notMem_summaryParts part hpart
  have hparts := eq_of_intercalate_eq (by simpa using log.summaryParts_ne_nil)
    (by simpa using log'.summaryParts_ne_nil) (hcommas log) (hcommas log') hchars
  exact List.map_injective_iff.2 (fun _ _ => String.toList_injective) hparts

theorem severityCounts_of_summaryParts_eq (h : log.summaryParts = log'.summaryParts) :
    log.severityCounts = log'.severityCounts := by
  have hcounted (counts : List (Severity × Nat)) : counts.map countText ≠ ["no messages"] := by
    intro heq
    obtain ⟨p, -, hp⟩ := List.mem_map.1 (heq ▸ List.mem_singleton_self "no messages")
    exact countText_ne_no_messages p hp
  unfold summaryParts at h
  split_ifs at h with he he' he'
  · rw [isEmpty_eq_true.1 he, isEmpty_eq_true.1 he']
  · exact absurd h.symm (hcounted _)
  · exact absurd h (hcounted _)
  · exact List.reverse_injective (List.map_injective_iff.2 countText_injective h)

theorem summary_of_severityCounts_eq (h : log.severityCounts = log'.severityCounts) :
    log.summary = log'.summary := by
  have hempty : log.isEmpty = log'.isEmpty := by
    rw [Bool.eq_iff_iff, isEmpty_eq_true, isEmpty_eq_true, h]
  rw [summary, summary, hempty, h]

/-- **The summary determines the counts.** Two logs have the same summary exactly if their maps from
severities to numbers of messages are the same, and these maps are what counting the messages one
by one makes. The summary of a log that holds messages lists the severities that occur, each once
and most severe first, with their numbers in decimal and with the singular noun exactly for the
number one. -/
theorem summary_determines_counts :
    (∀ log log' : Log, log.summary = log'.summary ↔
      ∀ s, log.severityCounts.lookup s = log'.severityCounts.lookup s) ∧
    (∀ (log : Log) (s : Severity), log.severityCounts.lookup s = tally log.toList s ∧
      ∀ n, log.severityCounts.lookup s = some n ↔
        n ≠ 0 ∧ n = log.toList.countP (·.severity = s)) ∧
    (∀ log : Log, log.toList ≠ [] → ∃ parts : List (Severity × Nat),
      log.summary = ", ".intercalate (parts.map fun p =>
        p.2.repr ++ " " ++ if p.2 = 1 then p.1.singular else p.1.plural) ∧
      parts.Pairwise (fun p q => q.1 < p.1) ∧
      ∀ s n, (s, n) ∈ parts ↔ n ≠ 0 ∧ n = log.toList.countP (·.severity = s)) ∧
    ∀ s : Severity, s.singular ≠ s.plural := by
  refine ⟨?_, ?_, ?_, ?_⟩
  · intro log log'
    constructor
    · intro h
      have hparts := summaryParts_of_summary_eq h
      exact severityCounts_eq_iff.1 (severityCounts_of_summaryParts_eq hparts)
    · intro h
      exact summary_of_severityCounts_eq (severityCounts_eq_iff.2 h)
  · intro log s
    refine ⟨log.lookup_severityCounts_eq_tally s, fun n => ?_⟩
    rw [← countOf_eq_countP]
    exact lookup_severityCounts
  · intro log hne
    have hempty : ¬log.isEmpty = true := by
      rwa [isEmpty_eq_true, severityCounts_eq_nil]
    refine ⟨log.severityCounts.reverse, ?_, ?_, fun s n => ?_⟩
    · rw [summary, if_neg hempty]
      rfl
    · exact List.pairwise_reverse.2 log.severityCounts_ascending
    · rw [List.mem_reverse, mem_severityCounts, countOf_eq_countP]
  · intro s
    cases s <;> decide

theorem summary_determines_counts_twoWarnings :
    let log := ofList [⟨.warning, none, "a", none⟩, ⟨.warning, none, "b", none⟩,
      ⟨.error, none, "c", none⟩]
    let other := ofList [⟨.warning, none, "a", none⟩, ⟨.error, none, "c", none⟩]
    log.toList ≠ [] ∧ log.summary = "1 error, 2 warnings" ∧ log.summary ≠ other.summary ∧
    ∃ parts : List (Severity × Nat),
      log.summary = ", ".intercalate (parts.map fun p =>
        p.2.repr ++ " " ++ if p.2 = 1 then p.1.singular else p.1.plural) ∧
      (.error, 1) ∈ parts ∧ (.warning, 2) ∈ parts ∧ ∀ n, (.trace, n) ∉ parts := by
  intro log other
  have hne : log.toList ≠ [] := by decide
  obtain ⟨hcounts, -, hwords, -⟩ := summary_determines_counts
  have hother : log.summary ≠ other.summary := by
    intro h
    have hwarnings := (hcounts log other).1 h .warning
    exact absurd hwarnings (by decide)
  obtain ⟨parts, hsummary, -, hparts⟩ := hwords log hne
  refine ⟨hne, by decide +kernel, hother, parts, hsummary, (hparts .error 1).2 (by decide),
    (hparts .warning 2).2 (by decide), fun n hn => ?_⟩
  obtain ⟨hpos, hzero⟩ := (hparts .trace n).1 hn
  exact hpos (hzero.trans (by decide))

end Log

end BytecodeGuard
