import BytecodeGuard.Fault

/-!
# Descriptors

A descriptor spells the type of a field, or the types of the parameters and the result of a
method. What matters here is how many stack slots the values fill: two for a `long` or `double`,
one for every other value, arrays included.

A field type is any number of `[` followed by a letter for a primitive type, or by a class name
between `L` and `;`. The parameters of a method end at the first `)`.
-/

namespace BytecodeGuard.Descriptor

/-- Reads one field type: its slots and the text that follows. -/
def fieldType? : List Char → Option (Nat × List Char)
  | '[' :: rest => (fieldType? rest).map fun (_, rest) => (1, rest)
  | 'J' :: rest | 'D' :: rest => some (2, rest)
  | 'Z' :: rest | 'B' :: rest | 'C' :: rest | 'S' :: rest | 'I' :: rest | 'F' :: rest =>
    some (1, rest)
  | 'L' :: rest =>
    match rest.takeWhile (· ≠ ';'), rest.dropWhile (· ≠ ';') with
    | _ :: _, ';' :: rest => some (1, rest)
    | _, _ => none
  | _ => none

/-- A field type takes at least one character. -/
theorem length_lt_of_fieldType? {s rest : List Char} {slots : Nat}
    (h : fieldType? s = some (slots, rest)) : rest.length < s.length := by
  fun_induction fieldType? s generalizing slots with
  | case1 s ih =>
    obtain ⟨⟨n, t⟩, ht, heq⟩ := Option.map_eq_some_iff.1 h
    cases heq
    exact Nat.lt_succ_of_lt (ih ht)
  | case10 s _ _ t hd _ =>
    cases h
    have := (List.dropWhile_suffix (l := s) (· ≠ ';')).length_le
    simp only [hd, List.length_cons] at this ⊢
    omega
  | _ => simp_all <;> omega

/-- The slots of a text that is one field type. -/
def fieldSlots? (s : List Char) : Option Nat :=
  match fieldType? s with
  | some (slots, []) => some slots
  | _ => none

/-- The slots of each type in a run of field types. -/
def fieldTypes? (s : List Char) : Option (List Nat) :=
  if s.isEmpty then some []
  else
    match _h : fieldType? s with
    | none => none
    | some (slots, rest) => (fieldTypes? rest).map (slots :: ·)
termination_by s.length
decreasing_by exact length_lt_of_fieldType? ‹_›

/-- The slots of a result type, none for `V`. -/
def resultSlots? (s : List Char) : Option Nat := if s = ['V'] then some 0 else fieldSlots? s

/-- What a method takes from the stack and leaves there, the receiver apart. -/
structure MethodShape where
  /-- The number of arguments. -/
  arguments : Nat
  argumentSlots : Nat
  resultSlots : Nat
deriving DecidableEq, Repr

/-- A method takes at most 255 slots of arguments. -/
def maxArgumentSlots : Nat := 255

/-- Reads a method descriptor. -/
def methodShape? : List Char → Option MethodShape
  | '(' :: rest =>
    match rest.dropWhile (· ≠ ')') with
    | _ :: result => do
      let arguments ← fieldTypes? (rest.takeWhile (· ≠ ')'))
      let resultSlots ← resultSlots? result
      let argumentSlots := arguments.foldl (· + ·) 0
      if maxArgumentSlots < argumentSlots then none
      else some ⟨arguments.length, argumentSlots, resultSlots⟩
    | [] => none
  | _ => none

/-- The slots of a value of the given type. -/
def fieldSlots (descriptor : String) : Except Fault Nat :=
  match fieldSlots? descriptor.toList with
  | some slots => .ok slots
  | none => .error (.invalidDescriptor descriptor)

/-- The shape of a method with the given descriptor. -/
def methodShape (descriptor : String) : Except Fault MethodShape :=
  match methodShape? descriptor.toList with
  | some shape => .ok shape
  | none => .error (.invalidDescriptor descriptor)

end BytecodeGuard.Descriptor
