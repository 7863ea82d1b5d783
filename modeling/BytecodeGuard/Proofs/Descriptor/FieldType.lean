import BytecodeGuard.Descriptor
import Mathlib.Data.List.TakeWhile

/-!
# The grammar of field types

A field type is any number of brackets, followed by the letter of a primitive type or by a class
name between `L` and `;`. `IsFieldType` says this without reading anything, and `slotsOf` counts
the slots of a text without taking it apart.

* `fieldType?_eq_some_iff` — what is read at the beginning of a text is a field type, with its
  slots, and every field type at the beginning is read, whatever follows it.
* `append_inj_of_isFieldType` — no field type is the beginning of another one.
* `fieldTypes?_eq_some_iff` — a run of field types is read as their slots, in order.
* `append_paren_inj` — a run that ends at a closing parenthesis can be divided in one way only.

The reader is looked into only for the first of these; the others follow from it.
-/

namespace BytecodeGuard.Descriptor

variable {s t t' r r' rest : List Char} {n : Nat} {slots : List Nat} {ts ts' : List (List Char)}

/-! ## Field types -/

/-- The letters of the primitive types. -/
def primitives : List Char := ['Z', 'B', 'C', 'S', 'I', 'F', 'J', 'D']

/-- What stands after the brackets of a field type. -/
def IsElement (s : List Char) : Prop :=
  (∃ c ∈ primitives, s = [c]) ∨ ∃ name, name ≠ [] ∧ ';' ∉ name ∧ s = 'L' :: (name ++ [';'])

/-- A field type has any number of brackets before its element. -/
def IsFieldType (s : List Char) : Prop :=
  ∃ brackets element, IsElement element ∧ s = List.replicate brackets '[' ++ element

/-- Two slots for a `long` or `double` without brackets, one for every other value. -/
def slotsOf (s : List Char) : Nat := if s = ['J'] ∨ s = ['D'] then 2 else 1

theorem IsElement.isFieldType (h : IsElement s) : IsFieldType s := ⟨0, s, h, rfl⟩

theorem IsFieldType.bracket (h : IsFieldType s) : IsFieldType ('[' :: s) := by
  obtain ⟨brackets, element, he, rfl⟩ := h
  exact ⟨brackets + 1, element, he, rfl⟩

theorem slotsOf_bracket (s : List Char) : slotsOf ('[' :: s) = 1 := by
  simp [slotsOf]

/-! ## Cutting a text at a character -/

/-- A text is cut at the first occurrence of the character. -/
theorem takeWhile_append_stop {stop : Char} (hs : stop ∉ s) (rest : List Char) :
    (s ++ stop :: rest).takeWhile (· ≠ stop) = s ∧
      (s ++ stop :: rest).dropWhile (· ≠ stop) = stop :: rest := by
  have hall : ∀ c ∈ s, decide (c ≠ stop) = true := by
    intro c hc
    exact decide_eq_true fun he => hs (he ▸ hc)
  rw [List.takeWhile_append_of_pos hall, List.dropWhile_append_of_pos hall]
  simp

/-- The two pieces of a text with the character between them are the text. -/
theorem eq_append_of_dropWhile {stop c : Char} (h : s.dropWhile (· ≠ stop) = c :: rest) :
    s = s.takeWhile (· ≠ stop) ++ stop :: rest ∧ stop ∉ s.takeWhile (· ≠ stop) := by
  have hc : c = stop := by
    have hhead := List.head?_dropWhile_not (· ≠ stop) s
    rw [h] at hhead
    simpa using hhead
  subst hc
  constructor
  · rw [← h, List.takeWhile_append_dropWhile]
  · intro hmem
    simpa using List.mem_takeWhile_imp hmem

/-! ## Reading one -/

theorem fieldType?_bracket (s : List Char) :
    fieldType? ('[' :: s) = (fieldType? s).map fun (_, rest) => (1, rest) := by
  rw [fieldType?]

/-- The reader goes to the end of the class name. -/
theorem fieldType?_className {name : List Char} (hname : name ≠ []) (hn : ';' ∉ name)
    (rest : List Char) : fieldType? ('L' :: (name ++ ';' :: rest)) = some (1, rest) := by
  obtain ⟨htake, hdrop⟩ := takeWhile_append_stop hn rest
  obtain ⟨c, name, rfl⟩ := List.exists_cons_of_ne_nil hname
  rw [fieldType?, htake, hdrop]
  rfl

theorem fieldType?_element (h : IsElement s) (rest : List Char) :
    fieldType? (s ++ rest) = some (slotsOf s, rest) := by
  rcases h with ⟨c, hc, rfl⟩ | ⟨name, hname, hn, rfl⟩
  · simp only [primitives, List.mem_cons, List.not_mem_nil, or_false] at hc
    rcases hc with rfl | rfl | rfl | rfl | rfl | rfl | rfl | rfl <;> simp [fieldType?, slotsOf]
  · have hslots : slotsOf ('L' :: (name ++ [';'])) = 1 := by simp [slotsOf]
    rw [hslots, List.cons_append, List.append_assoc]
    exact fieldType?_className hname hn rest

/-- A field type is read whatever follows it. -/
theorem fieldType?_append (h : IsFieldType t) (rest : List Char) :
    fieldType? (t ++ rest) = some (slotsOf t, rest) := by
  obtain ⟨brackets, element, he, rfl⟩ := h
  induction brackets with
  | zero => exact fieldType?_element he rest
  | succ brackets ih =>
    rw [List.replicate_succ, List.cons_append, List.cons_append, fieldType?_bracket, ih,
      slotsOf_bracket]
    rfl

theorem exists_of_primitive {c : Char} (hc : c ∈ primitives) (rest : List Char) :
    ∃ t, c :: rest = t ++ rest ∧ IsFieldType t ∧ slotsOf [c] = slotsOf t :=
  ⟨[c], rfl, IsElement.isFieldType (.inl ⟨c, hc, rfl⟩), rfl⟩

/-- Nothing but a field type is read. -/
theorem exists_of_fieldType? (h : fieldType? s = some (n, rest)) :
    ∃ t, s = t ++ rest ∧ IsFieldType t ∧ n = slotsOf t := by
  fun_induction fieldType? s generalizing n with
  | case1 s ih =>
    obtain ⟨⟨m, rest'⟩, hread, heq⟩ := Option.map_eq_some_iff.1 h
    cases heq
    obtain ⟨t, rfl, ht, -⟩ := ih hread
    exact ⟨'[' :: t, rfl, ht.bracket, (slotsOf_bracket t).symm⟩
  | case10 s c name rest' hdrop htake =>
    cases h
    obtain ⟨hsplit, hname⟩ := eq_append_of_dropWhile hdrop
    rw [htake] at hsplit hname
    refine ⟨'L' :: (c :: name ++ [';']), ?_, ?_, ?_⟩
    · simp [hsplit]
    · exact IsElement.isFieldType (.inr ⟨c :: name, by simp, hname, rfl⟩)
    · simp [slotsOf]
  | case11 => cases h
  | case12 => cases h
  | _ =>
    -- The letter of a primitive type.
    cases h
    exact exists_of_primitive (by decide) rest

/-- **Field types are what is read.** -/
theorem fieldType?_eq_some_iff :
    fieldType? s = some (n, rest) ↔ ∃ t, s = t ++ rest ∧ IsFieldType t ∧ n = slotsOf t := by
  constructor
  · exact exists_of_fieldType?
  · rintro ⟨t, rfl, ht, rfl⟩
    exact fieldType?_append ht rest

/-- A text has slots if it is a field type from its beginning to its end. -/
theorem fieldSlots?_eq_some_iff : fieldSlots? s = some n ↔ IsFieldType s ∧ n = slotsOf s := by
  unfold fieldSlots?
  constructor
  · intro h
    split at h
    · next hread =>
      cases h
      obtain ⟨t, rfl, ht, hn⟩ := fieldType?_eq_some_iff.1 hread
      rw [List.append_nil]
      exact ⟨ht, hn⟩
    · cases h
  · rintro ⟨hs, rfl⟩
    have hread := fieldType?_append hs []
    rw [List.append_nil] at hread
    rw [hread]

/-! ## No field type begins another -/

/-- **Field types are a prefix code.** -/
theorem append_inj_of_isFieldType (ht : IsFieldType t) (ht' : IsFieldType t')
    (h : t ++ r = t' ++ r') : t = t' ∧ r = r' := by
  have hread := fieldType?_append ht r
  rw [h, fieldType?_append ht' r'] at hread
  obtain ⟨-, rfl⟩ := Prod.mk.inj (Option.some.inj hread)
  exact ⟨List.append_cancel_right h, rfl⟩

/-- A field type does not begin with a parenthesis. -/
theorem IsFieldType.append_ne_paren (h : IsFieldType t) : t ++ r ≠ ')' :: r' := by
  intro heq
  have hread := fieldType?_append h r
  rw [heq] at hread
  cases hread

/-! ## Runs of field types -/

theorem fieldTypes?_nil : fieldTypes? [] = some [] := by
  rw [fieldTypes?]
  rfl

theorem fieldTypes?_of_none (hs : s ≠ []) (h : fieldType? s = none) : fieldTypes? s = none := by
  rw [fieldTypes?, if_neg (by simpa using hs)]
  split
  · rfl
  · simp_all

theorem fieldTypes?_of_some (h : fieldType? s = some (n, rest)) :
    fieldTypes? s = (fieldTypes? rest).map (n :: ·) := by
  have hs : s ≠ [] := by
    rintro rfl
    cases h
  rw [fieldTypes?, if_neg (by simpa using hs)]
  split <;> simp_all

theorem fieldTypes?_append (ht : IsFieldType t) (rest : List Char) :
    fieldTypes? (t ++ rest) = (fieldTypes? rest).map (slotsOf t :: ·) :=
  fieldTypes?_of_some (fieldType?_append ht rest)

theorem fieldTypes?_flatten (h : ∀ t ∈ ts, IsFieldType t) :
    fieldTypes? ts.flatten = some (ts.map slotsOf) := by
  induction ts with
  | nil => exact fieldTypes?_nil
  | cons t ts ih =>
    obtain ⟨ht, hts⟩ := List.forall_mem_cons.1 h
    rw [List.flatten_cons, fieldTypes?_append ht, ih hts]
    rfl

theorem exists_of_fieldTypes? (h : fieldTypes? s = some slots) :
    ∃ ts : List (List Char),
      s = ts.flatten ∧ (∀ t ∈ ts, IsFieldType t) ∧ slots = ts.map slotsOf := by
  induction s using fieldTypes?.induct generalizing slots with
  | case1 s hs =>
    obtain rfl : s = [] := List.isEmpty_iff.1 hs
    rw [fieldTypes?_nil] at h
    cases h
    exact ⟨[], rfl, by simp, rfl⟩
  | case2 s hs hread =>
    rw [fieldTypes?_of_none (by simpa using hs) hread] at h
    cases h
  | case3 s _ n rest hread ih =>
    rw [fieldTypes?_of_some hread] at h
    obtain ⟨slots', hrest, rfl⟩ := Option.map_eq_some_iff.1 h
    obtain ⟨t, rfl, ht, rfl⟩ := fieldType?_eq_some_iff.1 hread
    obtain ⟨ts, rfl, hts, rfl⟩ := ih hrest
    exact ⟨t :: ts, rfl, List.forall_mem_cons.2 ⟨ht, hts⟩, rfl⟩

/-- **Runs of field types are what is read.** -/
theorem fieldTypes?_eq_some_iff :
    fieldTypes? s = some slots ↔ ∃ ts : List (List Char),
      s = ts.flatten ∧ (∀ t ∈ ts, IsFieldType t) ∧ slots = ts.map slotsOf := by
  constructor
  · exact exists_of_fieldTypes?
  · rintro ⟨ts, rfl, hts, rfl⟩
    exact fieldTypes?_flatten hts

/-- A run that ends at a closing parenthesis can be divided in one way only. -/
theorem append_paren_inj (h : ∀ t ∈ ts, IsFieldType t) (h' : ∀ t ∈ ts', IsFieldType t)
    (heq : ts.flatten ++ ')' :: r = ts'.flatten ++ ')' :: r') : ts = ts' ∧ r = r' := by
  induction ts generalizing ts' with
  | nil =>
    cases ts' with
    | nil => exact ⟨rfl, by simpa using heq⟩
    | cons t' ts' =>
      rw [List.flatten_cons, List.append_assoc] at heq
      exact absurd heq.symm (h' t' List.mem_cons_self).append_ne_paren
  | cons t ts ih =>
    obtain ⟨ht, hts⟩ := List.forall_mem_cons.1 h
    rw [List.flatten_cons, List.append_assoc] at heq
    cases ts' with
    | nil => exact absurd heq ht.append_ne_paren
    | cons t' ts' =>
      obtain ⟨ht', hts'⟩ := List.forall_mem_cons.1 h'
      rw [List.flatten_cons, List.append_assoc] at heq
      obtain ⟨rfl, hrest⟩ := append_inj_of_isFieldType ht ht' heq
      obtain ⟨rfl, hr⟩ := ih hts hts' hrest
      exact ⟨rfl, hr⟩

end BytecodeGuard.Descriptor
