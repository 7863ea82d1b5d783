import BytecodeGuard.TypeName
import BytecodeGuard.Proofs.Text.Cut

/-!
# Display forms tell types apart

The name of a type is that of a class, with `/` between its segments, or that of an array type: a
bracket for each dimension, and then the letter of a primitive type or the name of a class between
`L` and `;`.

**Theorem (`display_distinct`).** Types with different names have different display forms, as long
as their classes are not in the package that is left out, and do not have the word for a primitive
type as their name. An array of objects is displayed as the class with `[]` for each dimension, in
the package or not.

Only array types are unwrapped, so a class may well be called `I` or `Lx`. The display form is the
word for the element, with all brackets behind it (`displayChars_text`). The word has no bracket,
so the form can be cut before the first one (`append_brackets_inj`), and from the word the name of
the element can be told (`ElementType.descriptor_eq_of_shown_eq`).
-/

namespace BytecodeGuard.TypeName

/-! ## Types and their names -/

/-- The types that are no classes. -/
inductive Primitive where
  | boolean | byte | char | short | int | long | float | double
deriving DecidableEq

/-- The letter for a primitive type in the name of an array type. -/
def Primitive.letter : Primitive → Char
  | boolean => 'Z'
  | byte => 'B'
  | char => 'C'
  | short => 'S'
  | int => 'I'
  | long => 'J'
  | float => 'F'
  | double => 'D'

/-- The word for a primitive type in programs. -/
def Primitive.word : Primitive → String
  | boolean => "boolean"
  | byte => "byte"
  | char => "char"
  | short => "short"
  | int => "int"
  | long => "long"
  | float => "float"
  | double => "double"

/-- The characters that delimit names and their parts. -/
def delimiters : List Char := ['.', ';', '[', ']', '/']

/-- A segment of a class name is not empty, and has no delimiter. -/
def IsSegment (s : String) : Prop := s ≠ "" ∧ ∀ c ∈ s.toList, c ∉ delimiters

instance : DecidablePred IsSegment := fun s =>
  decidable_of_iff (s ≠ "" ∧ s.toList.all (!delimiters.contains ·) = true) (by simp [IsSegment])

/-- The name of a class. -/
structure ClassName where
  segments : List String
  ne_nil : segments ≠ []
  isSegment : ∀ s ∈ segments, IsSegment s

/-- The name as class files spell it. -/
def ClassName.text (c : ClassName) : String := "/".intercalate c.segments

/-- The type of the elements of an array, without any dimension. -/
inductive ElementType where
  | primitive (p : Primitive)
  | ofClass (c : ClassName)

namespace ElementType

/-- The name of an element within that of an array type. -/
def descriptor : ElementType → String
  | primitive p => String.singleton p.letter
  | ofClass c => "L" ++ c.text ++ ";"

/-- The class in the name, if there is one. -/
def className? : ElementType → Option ClassName
  | primitive _ => none
  | ofClass c => some c

end ElementType

/-- A type that has a name: a class, or an array type. -/
inductive ReferenceType where
  | ofClass (c : ClassName)
  | array (dimensions : Nat) (pos : 0 < dimensions) (element : ElementType)

namespace ReferenceType

/-- The name of the type. -/
def text : ReferenceType → String
  | ofClass c => c.text
  | array dimensions _ element => String.ofList (List.replicate dimensions '[') ++ element.descriptor

def element : ReferenceType → ElementType
  | ofClass c => .ofClass c
  | array _ _ element => element

def dimensions : ReferenceType → Nat
  | ofClass _ => 0
  | array dimensions _ _ => dimensions

/-- The class in the name, if there is one. -/
def className? (t : ReferenceType) : Option ClassName := t.element.className?

end ReferenceType

/-- The class is not in the package, if there is a package to be left out, and it is not called
like a primitive type. -/
structure ClassName.Unmistakable (package : String) (c : ClassName) : Prop where
  outside : package ≠ "" → ¬package.toList <+: c.text.toList
  ne_word : ∀ p : Primitive, c.text ≠ p.word

variable {package : String} {beginning s t : List Char} {c c' : ClassName} {e e' : ElementType}
  {m n : Nat}

/-! ## Class names -/

/-- The only delimiter in a class name is the one between its segments. -/
theorem ClassName.notMem_text (c : ClassName) {x : Char} (hx : x ∈ delimiters) (hne : x ≠ '/') :
    x ∉ c.text.toList := by
  intro h
  unfold text at h
  rw [String.toList_intercalate] at h
  rcases mem_of_mem_intercalate h with h | ⟨s, hs, h⟩
  · exact hne (by simpa using h)
  · obtain ⟨segment, hsegment, rfl⟩ := List.mem_map.1 hs
    exact (c.isSegment segment hsegment).2 x h hx

theorem ClassName.dot_notMem_text (c : ClassName) : '.' ∉ c.text.toList :=
  c.notMem_text (by decide) (by decide)

theorem ClassName.bracket_notMem_text (c : ClassName) : '[' ∉ c.text.toList :=
  c.notMem_text (by decide) (by decide)

/-- A class name with dots. -/
def dotted (s : List Char) : List Char := s.map fun c => if c = '/' then '.' else c

theorem dotted_injOn (hs : '.' ∉ s) (ht : '.' ∉ t) (h : dotted s = dotted t) : s = t := by
  -- The slashes come back in the place of the dots.
  have hback {s : List Char} (hs : '.' ∉ s) :
      (dotted s).map (fun c => if c = '.' then '/' else c) = s := by
    unfold dotted
    rw [List.map_map]
    refine (List.map_congr_left fun c hc => ?_).trans (List.map_id s)
    have hdot : c ≠ '.' := ne_of_mem_of_not_mem hc hs
    by_cases hslash : c = '/' <;> simp [hslash, hdot]
  rw [← hback hs, h, hback ht]

theorem mem_of_mem_dropBeginning {x : Char} (h : x ∈ dropBeginning beginning s) : x ∈ s := by
  unfold dropBeginning at h
  split at h
  · exact List.mem_of_mem_drop h
  · exact h

theorem dropBeginning_of_outside (h : beginning ≠ [] → ¬beginning <+: s) :
    dropBeginning beginning s = s := by
  unfold dropBeginning
  by_cases hb : beginning = []
  · subst hb
    simp
  · rw [if_neg (by simpa using h hb)]

/-- Display forms of classes have no characters of their own but dots. -/
theorem mem_of_mem_displayClass {x : Char} (hx : x ≠ '.') (h : x ∈ displayClass beginning s) :
    x ∈ s := by
  obtain ⟨y, hy, rfl⟩ := List.mem_map.1 h
  by_cases hslash : y = '/'
  · simp [hslash] at hx
  · simpa [hslash] using mem_of_mem_dropBeginning hy

/-! ## Primitive types -/

theorem primitive?_letter (p : Primitive) : primitive? [p.letter] = some p.word := by
  cases p <;> rfl

theorem letter_ne_bracket (p : Primitive) : p.letter ≠ '[' := by
  cases p <;> decide

theorem word_injective : Function.Injective Primitive.word := by
  intro p q
  cases p <;> cases q <;> decide

theorem dot_notMem_word (p : Primitive) : '.' ∉ p.word.toList := by
  cases p <;> decide

theorem bracket_notMem_word (p : Primitive) : '[' ∉ p.word.toList := by
  cases p <;> decide

theorem dotted_word (p : Primitive) : dotted p.word.toList = p.word.toList := by
  cases p <;> decide

/-! ## Elements -/

namespace ElementType

/-- What stands for an element in display forms. -/
def shown (package : List Char) : ElementType → List Char
  | primitive p => p.word.toList
  | ofClass c => displayClass package c.text.toList

theorem displayElement_descriptor (package : List Char) (e : ElementType) :
    displayElement package e.descriptor.toList = e.shown package := by
  cases e with
  | primitive p => simp [displayElement, descriptor, shown, primitive?_letter]
  | ofClass c =>
    have hnone : primitive? (ofClass c).descriptor.toList = none := by
      simp [descriptor, primitive?]
    have hunwrap : unwrap (ofClass c).descriptor.toList = c.text.toList := by
      simp [descriptor, unwrap]
    unfold displayElement
    rw [hnone, hunwrap]
    rfl

/-- The name of an element does not begin with a bracket. -/
theorem cut_descriptor (e : ElementType) :
    e.descriptor.toList.takeWhile (· = '[') = [] ∧
      e.descriptor.toList.dropWhile (· = '[') = e.descriptor.toList := by
  cases e with
  | primitive p => simp [descriptor, letter_ne_bracket]
  | ofClass c => simp [descriptor]

theorem bracket_notMem_shown (package : List Char) (e : ElementType) :
    '[' ∉ e.shown package := by
  cases e with
  | primitive p => exact bracket_notMem_word p
  | ofClass c =>
    intro h
    exact c.bracket_notMem_text (mem_of_mem_displayClass (by decide) h)

end ElementType

/-! ## Which element it is -/

theorem ClassName.Unmistakable.displayClass_eq (h : c.Unmistakable package) :
    displayClass package.toList c.text.toList = dotted c.text.toList := by
  unfold displayClass
  rw [dropBeginning_of_outside fun hne => h.outside (by simpa using hne)]
  rfl

/-- No such class is displayed like a primitive type. -/
theorem ClassName.Unmistakable.displayClass_ne (h : c.Unmistakable package) (p : Primitive) :
    displayClass package.toList c.text.toList ≠ p.word.toList := by
  rw [h.displayClass_eq, ← dotted_word]
  intro heq
  have htext := dotted_injOn c.dot_notMem_text (dot_notMem_word p) heq
  exact h.ne_word p (String.toList_inj.1 htext)

theorem ClassName.Unmistakable.text_inj (h : c.Unmistakable package)
    (h' : c'.Unmistakable package)
    (heq : displayClass package.toList c.text.toList =
      displayClass package.toList c'.text.toList) : c.text = c'.text := by
  rw [h.displayClass_eq, h'.displayClass_eq] at heq
  exact String.toList_inj.1 (dotted_injOn c.dot_notMem_text c'.dot_notMem_text heq)

/-- **Elements can be told apart.** -/
theorem ElementType.descriptor_eq_of_shown_eq
    (he : ∀ c ∈ e.className?, c.Unmistakable package)
    (he' : ∀ c ∈ e'.className?, c.Unmistakable package)
    (h : e.shown package.toList = e'.shown package.toList) : e.descriptor = e'.descriptor := by
  cases e with
  | primitive p =>
    cases e' with
    | primitive q => rw [word_injective (String.toList_inj.1 h)]
    | ofClass c => exact absurd h.symm ((he' c rfl).displayClass_ne p)
  | ofClass c =>
    cases e' with
    | primitive q => exact absurd h ((he c rfl).displayClass_ne q)
    | ofClass c' => exact congrArg ("L" ++ · ++ ";") ((he c rfl).text_inj (he' c' rfl) h)

/-! ## Dimensions -/

/-- The brackets at the end of a display form. -/
def brackets (n : Nat) : List Char := (List.replicate n ['[', ']']).flatten

theorem length_brackets (n : Nat) : (brackets n).length = 2 * n := by
  simp [brackets, Nat.mul_comm]

/-- The brackets begin where the first one is. -/
theorem append_brackets_inj (hs : '[' ∉ s) (ht : '[' ∉ t)
    (h : s ++ brackets m = t ++ brackets n) : s = t ∧ m = n := by
  have plain {s : List Char} (hs : '[' ∉ s) : ∀ x ∈ s, decide (x ≠ '[') = true := by
    intro x hx
    exact decide_eq_true (ne_of_mem_of_not_mem hx hs)
  have head (n : Nat) : ∀ x ∈ (brackets n).head?, ¬decide (x ≠ '[') = true := by
    cases n <;> simp [brackets, List.replicate_succ]
  obtain ⟨rfl, hbrackets⟩ := append_inj_of_head (plain hs) (plain ht) (head m) (head n) h
  have hlength := congrArg List.length hbrackets
  rw [length_brackets, length_brackets] at hlength
  exact ⟨rfl, by omega⟩

theorem ofList_brackets (n : Nat) :
    String.ofList (brackets n) = String.join (List.replicate n "[]") := by
  rw [← String.toList_inj, String.toList_ofList, String.toList_join]
  simp [brackets, List.flatMap_replicate]

/-- **A display form is that of the element with brackets behind it.** -/
theorem displayChars_text (package : List Char) (t : ReferenceType) :
    displayChars package t.text.toList =
      t.element.shown package ++ brackets t.dimensions := by
  cases t with
  | ofClass c =>
    have hcut : c.text.toList.takeWhile (· = '[') = [] := by
      cases htext : c.text.toList with
      | nil => rfl
      | cons x rest =>
        have hx : x ≠ '[' := by
          rintro rfl
          exact c.bracket_notMem_text (htext ▸ List.mem_cons_self)
        simp [hx]
    simp [displayChars, ReferenceType.text, ReferenceType.element, ReferenceType.dimensions,
      ElementType.shown, brackets, hcut]
  | array n pos e =>
    obtain ⟨htake, hdrop⟩ := e.cut_descriptor
    have hall : ∀ x ∈ List.replicate n '[', decide (x = '[') = true := by
      simp
    have htext : (ReferenceType.array n pos e).text.toList =
        List.replicate n '[' ++ e.descriptor.toList := by
      simp [ReferenceType.text]
    have hne : (List.replicate n '[').isEmpty = false := by
      simp [Nat.ne_of_gt pos]
    dsimp only [displayChars, ReferenceType.element, ReferenceType.dimensions]
    rw [htext, List.takeWhile_append_of_pos hall, List.dropWhile_append_of_pos hall, htake, hdrop,
      List.append_nil, hne, e.displayElement_descriptor, List.flatMap_replicate]
    rfl

theorem display_text (package : String) (t : ReferenceType) :
    display package t.text = String.ofList (t.element.shown package.toList) ++
      String.join (List.replicate t.dimensions "[]") := by
  unfold display
  rw [displayChars_text, String.ofList_append, ofList_brackets]

/-! ## Names -/

/-- A name consists of the dimensions and the name of the element. -/
theorem ReferenceType.text_eq {t u : ReferenceType} (hdimensions : t.dimensions = u.dimensions)
    (helement : t.element.descriptor = u.element.descriptor) : t.text = u.text := by
  cases t with
  | ofClass c =>
    cases u with
    | ofClass c' => simpa [element, ElementType.descriptor, text] using helement
    | array n pos e => exact absurd hdimensions (Nat.ne_of_lt pos)
  | array n pos e =>
    cases u with
    | ofClass c => exact absurd hdimensions (Nat.ne_of_gt pos)
    | array m pos' e' =>
      obtain rfl : n = m := hdimensions
      exact congrArg (String.ofList (List.replicate n '[') ++ ·) helement

/-- **Display forms tell types apart**, unless a class is in the package that is left out, or is
called like a primitive type. Any class, in the package or not, is displayed the same way in the
array types of its objects, with `[]` for each dimension behind it. -/
theorem display_distinct (package : String) :
    (∀ t u : ReferenceType, (∀ c ∈ t.className?, c.Unmistakable package) →
      (∀ c ∈ u.className?, c.Unmistakable package) → t.text ≠ u.text →
        display package t.text ≠ display package u.text) ∧
    ∀ (c : ClassName) (n : Nat), 0 < n →
      display package (String.ofList (List.replicate n '[') ++ "L" ++ c.text ++ ";") =
        display package c.text ++ String.join (List.replicate n "[]") := by
  refine ⟨fun t u ht hu hne heq => hne ?_, fun c n hn => ?_⟩
  · have hchars := String.ofList_injective heq
    rw [displayChars_text, displayChars_text] at hchars
    obtain ⟨hshown, hdimensions⟩ := append_brackets_inj
      (t.element.bracket_notMem_shown _) (u.element.bracket_notMem_shown _) hchars
    exact ReferenceType.text_eq hdimensions (ElementType.descriptor_eq_of_shown_eq ht hu hshown)
  · have hname : String.ofList (List.replicate n '[') ++ "L" ++ c.text ++ ";" =
        (ReferenceType.array n hn (.ofClass c)).text := by
      simp [ReferenceType.text, ElementType.descriptor, String.append_assoc]
    have hclass : display package c.text =
        String.ofList ((ElementType.ofClass c).shown package.toList) := by
      simpa [ReferenceType.text, ReferenceType.element, ReferenceType.dimensions] using
        display_text package (.ofClass c)
    rw [hname, display_text, hclass]
    rfl

/-- A class with the letter of a primitive type for its name. -/
def letterClass : ClassName := ⟨["I"], by decide, by decide +kernel⟩

/-- A class of the sandbox. -/
def sandboxList : ClassName := ⟨["sandbox", "java", "util", "List"], by decide, by decide +kernel⟩

/-- Arrays of such a class are not mistaken for arrays of numbers. -/
theorem display_distinct_letterClass :
    let objects : ReferenceType := .array 2 (by decide) (.ofClass letterClass)
    let numbers : ReferenceType := .array 2 (by decide) (.primitive .int)
    letterClass.Unmistakable "sandbox/" ∧ objects.text = "[[LI;" ∧ numbers.text = "[[I" ∧
      display "sandbox/" objects.text ≠ display "sandbox/" numbers.text ∧
      display "sandbox/" "[[Lsandbox/java/util/List;" =
        display "sandbox/" "sandbox/java/util/List" ++ "[][]" := by
  intro objects numbers
  obtain ⟨hdistinct, harray⟩ := display_distinct "sandbox/"
  have hclass : letterClass.Unmistakable "sandbox/" := by
    refine ⟨fun _ => by decide +kernel, fun p => ?_⟩
    cases p <;> decide +kernel
  have hobjects : ∀ c ∈ objects.className?, c.Unmistakable "sandbox/" := by
    intro c hc
    obtain rfl : letterClass = c := Option.some.inj hc
    exact hclass
  refine ⟨hclass, by decide +kernel, by decide +kernel, ?_, ?_⟩
  · exact hdistinct objects numbers hobjects (fun c hc => nomatch hc) (by decide +kernel)
  · exact harray sandboxList 2 (by decide)

end BytecodeGuard.TypeName
