import BytecodeGuard.Proofs.Descriptor.FieldType
import Mathlib.Algebra.Ring.Nat
import Mathlib.Data.List.Forall2

/-!
# The grammar of method descriptors

A method descriptor is assembled from parts (`Parts.text`): the types of the parameters between
parentheses, and the type of the result, which may be `V`.

**Theorem (`methodShape_text`).** A descriptor that is assembled from field types is read as its
parts, unless the parameters fill more than 255 slots or the name of a class among them has a
closing parenthesis. In these two cases it is refused.

**Theorem (`descriptor_exact`).** A descriptor that is read was assembled from field types, and
from no others; its shape is that of the parts. A field type is any number of brackets with the
letter of a primitive type or with a class name between `L` and `;`.

A reader that cuts the parameters at the first closing parenthesis cannot know of names with
parentheses. Such a name is a field type of its own, and also a result, but not a parameter.
-/

namespace BytecodeGuard.Descriptor

variable {d t : String} {n : Nat} {shape : MethodShape}

/-! ## Texts of one type -/

theorem fieldSlots_eq_ok : fieldSlots d = .ok n ↔ fieldSlots? d.toList = some n := by
  unfold fieldSlots
  cases fieldSlots? d.toList <;> simp

/-- A text that has slots is a field type. -/
theorem fieldSlots_eq_ok_iff :
    fieldSlots d = .ok n ↔ IsFieldType d.toList ∧ n = slotsOf d.toList := by
  rw [fieldSlots_eq_ok, fieldSlots?_eq_some_iff]

theorem resultSlots?_eq_some_iff :
    resultSlots? d.toList = some n ↔ d = "V" ∧ n = 0 ∨ fieldSlots d = .ok n := by
  have hvoid : d.toList = "V".toList ↔ d = "V" := String.toList_inj
  have hnone : fieldSlots? ['V'] = none := rfl
  rw [fieldSlots_eq_ok]
  unfold resultSlots?
  by_cases hd : d = "V"
  · simp [hd, hnone, eq_comm]
  · have hlist : d.toList ≠ ['V'] := fun he => hd (hvoid.1 he)
    simp [hlist, hd]

/-! ## Reading a method descriptor -/

theorem methodShape_eq_ok : methodShape d = .ok shape ↔ methodShape? d.toList = some shape := by
  unfold methodShape
  cases methodShape? d.toList <;> simp

theorem methodShape_of_none (h : methodShape? d.toList = none) :
    methodShape d = .error (.invalidDescriptor d) := by
  unfold methodShape
  rw [h]

/-- The reader takes what stands before the first closing parenthesis for the parameters, and all
that follows for the result. -/
theorem methodShape?_eq_some_iff {s : List Char} :
    methodShape? s = some shape ↔ ∃ (parameters result : List Char) (slots : List Nat),
      s = '(' :: (parameters ++ ')' :: result) ∧ ')' ∉ parameters ∧
        fieldTypes? parameters = some slots ∧ resultSlots? result = some shape.resultSlots ∧
        slots.sum ≤ 255 ∧ shape.arguments = slots.length ∧ shape.argumentSlots = slots.sum := by
  constructor
  · intro h
    unfold methodShape? at h
    split at h
    · next rest =>
      split at h
      · next c result hcut =>
        obtain ⟨slots, hslots, h⟩ := Option.bind_eq_some_iff.1 h
        obtain ⟨resultSlots, hresult, h⟩ := Option.bind_eq_some_iff.1 h
        obtain ⟨hsplit, hparen⟩ := eq_append_of_dropWhile hcut
        have hsum : slots.foldl (· + ·) 0 = slots.sum := List.sum_eq_foldl.symm
        dsimp only at h
        rw [hsum] at h
        split_ifs at h with hlimit
        cases h
        exact ⟨_, result, slots, congrArg _ hsplit, hparen, hslots, hresult,
          Nat.le_of_not_lt hlimit, rfl, rfl⟩
      · cases h
    · cases h
  · rintro ⟨parameters, result, slots, rfl, hparen, hslots, hresult, hlimit, ha, hs⟩
    obtain ⟨htake, hdrop⟩ := takeWhile_append_stop hparen result
    have hsum : slots.foldl (· + ·) 0 = slots.sum := List.sum_eq_foldl.symm
    have hfits : ¬maxArgumentSlots < slots.sum := Nat.not_lt.2 hlimit
    unfold methodShape?
    simp only [hdrop, htake, hslots, hresult]
    show (if maxArgumentSlots < slots.foldl (· + ·) 0 then none
      else some ⟨slots.length, slots.foldl (· + ·) 0, shape.resultSlots⟩) = some shape
    rw [hsum, if_neg hfits, ← ha, ← hs]

/-! ## Parts of a method descriptor -/

/-- The types that a method descriptor is assembled from. -/
structure Parts where
  parameters : List String
  /-- The type of the result, `V` if there is none. -/
  result : String

namespace Parts

variable {p p' : Parts}

/-- The descriptor with these parts. -/
def text (p : Parts) : String := "(" ++ String.join p.parameters ++ ")" ++ p.result

/-- Every part has slots, apart from a result that is `V`. -/
structure Accepted (p : Parts) : Prop where
  parameters : ∀ t ∈ p.parameters, ∃ n, fieldSlots t = .ok n
  result : p.result = "V" ∨ ∃ n, fieldSlots p.result = .ok n

/-- The shape counts the parts and their slots. -/
structure Shaped (p : Parts) (shape : MethodShape) : Prop where
  arguments : shape.arguments = p.parameters.length
  argumentSlots : ∃ slots, List.Forall₂ (fun t n => fieldSlots t = .ok n) p.parameters slots ∧
    shape.argumentSlots = slots.sum
  resultSlots : p.result = "V" ∧ shape.resultSlots = 0 ∨
    fieldSlots p.result = .ok shape.resultSlots

theorem toList_text (p : Parts) : p.text.toList =
    '(' :: ((p.parameters.map String.toList).flatten ++ ')' :: p.result.toList) := by
  simp [text, List.flatMap_def]

theorem Accepted.isFieldType (h : p.Accepted) :
    ∀ s ∈ p.parameters.map String.toList, IsFieldType s := by
  intro s hs
  obtain ⟨t, ht, rfl⟩ := List.mem_map.1 hs
  obtain ⟨n, hn⟩ := h.parameters t ht
  exact (fieldSlots_eq_ok_iff.1 hn).1

/-- The slots of the parameters. -/
def slots (p : Parts) : List Nat := (p.parameters.map String.toList).map slotsOf

theorem Accepted.forall₂_slots (h : p.Accepted) :
    List.Forall₂ (fun t n => fieldSlots t = .ok n) p.parameters p.slots := by
  unfold slots
  rw [List.map_map, List.forall₂_map_right_iff, List.forall₂_same]
  intro t ht
  exact fieldSlots_eq_ok_iff.2 ⟨h.isFieldType _ (List.mem_map_of_mem ht), rfl⟩

theorem Accepted.exists_resultSlots (h : p.Accepted) :
    ∃ n, resultSlots? p.result.toList = some n := by
  rcases h.result with hvoid | ⟨n, hn⟩
  · exact ⟨0, resultSlots?_eq_some_iff.2 (.inl ⟨hvoid, rfl⟩)⟩
  · exact ⟨n, resultSlots?_eq_some_iff.2 (.inr hn)⟩

/-- **Different parts have different descriptors.** -/
theorem Accepted.text_inj (h : p.Accepted) (h' : p'.Accepted) (heq : p.text = p'.text) :
    p = p' := by
  have hlist := congrArg String.toList heq
  rw [toList_text, toList_text] at hlist
  obtain ⟨hparameters, hresult⟩ :=
    append_paren_inj h.isFieldType h'.isFieldType (List.tail_eq_of_cons_eq hlist)
  cases p
  cases p'
  obtain rfl := List.map_injective_iff.2 (fun _ _ => String.toList_inj.1) hparameters
  obtain rfl := String.toList_inj.1 hresult
  rfl

/-- The descriptor of accepted parts is read as the parts, or it is refused. -/
theorem Accepted.methodShape?_text (h : p.Accepted) :
    methodShape? p.text.toList = some shape ↔
      (∀ t ∈ p.parameters, ')' ∉ t.toList) ∧ p.slots.sum ≤ 255 ∧
        resultSlots? p.result.toList = some shape.resultSlots ∧
        shape.arguments = p.parameters.length ∧ shape.argumentSlots = p.slots.sum := by
  have hreads : fieldTypes? (p.parameters.map String.toList).flatten = some p.slots :=
    fieldTypes?_flatten h.isFieldType
  have hlength : p.slots.length = p.parameters.length := by simp [slots]
  have hparen : (∀ t ∈ p.parameters, ')' ∉ t.toList) ↔
      ')' ∉ (p.parameters.map String.toList).flatten := by simp
  rw [methodShape?_eq_some_iff, toList_text, hparen, ← hlength]
  constructor
  · rintro ⟨parameters, result, slots, heq, hp, hslots, hresult, hlimit, ha, hs⟩
    -- What the reader has cut off is a run of field types, so it is that of the parts.
    obtain ⟨ts, rfl, hts, rfl⟩ := fieldTypes?_eq_some_iff.1 hslots
    obtain ⟨rfl, rfl⟩ := append_paren_inj h.isFieldType hts (List.tail_eq_of_cons_eq heq)
    exact ⟨hp, hlimit, hresult, ha, hs⟩
  · rintro ⟨hp, hlimit, hresult, ha, hs⟩
    exact ⟨_, _, p.slots, rfl, hp, hreads, hresult, hlimit, ha, hs⟩

/-- The parts that the reader has found. -/
def ofLists (parameters : List (List Char)) (result : List Char) : Parts :=
  ⟨parameters.map String.ofList, String.ofList result⟩

theorem map_toList_ofLists (ts : List (List Char)) (result : List Char) :
    (ofLists ts result).parameters.map String.toList = ts := by
  simp [ofLists]

/-- A descriptor that is read has parts, and the shape is theirs. -/
theorem exists_of_methodShape? (h : methodShape? d.toList = some shape) :
    ∃ p : Parts, p.text = d ∧ p.Accepted ∧ p.Shaped shape ∧ shape.argumentSlots ≤ 255 := by
  obtain ⟨parameters, result, slots, hd, -, hslots, hresult, hlimit, ha, hs⟩ :=
    methodShape?_eq_some_iff.1 h
  obtain ⟨ts, rfl, hts, rfl⟩ := fieldTypes?_eq_some_iff.1 hslots
  have hresult : resultSlots? (ofLists ts result).result.toList = some shape.resultSlots := by
    simpa [ofLists] using hresult
  have haccepted : (ofLists ts result).Accepted := by
    refine ⟨fun t ht => ?_, ?_⟩
    · obtain ⟨s, hmem, rfl⟩ := List.mem_map.1 ht
      exact ⟨slotsOf s, fieldSlots_eq_ok_iff.2 (by simpa using hts s hmem)⟩
    · rcases resultSlots?_eq_some_iff.1 hresult with ⟨hvoid, -⟩ | hn
      · exact .inl hvoid
      · exact .inr ⟨_, hn⟩
  refine ⟨ofLists ts result, ?_, haccepted, ⟨?_, ⟨_, haccepted.forall₂_slots, ?_⟩, ?_⟩, ?_⟩
  · rw [← String.toList_inj, toList_text, map_toList_ofLists, hd]
    simp [ofLists]
  · simpa [ofLists] using ha
  · unfold slots
    rw [map_toList_ofLists, hs]
  · exact resultSlots?_eq_some_iff.1 hresult
  · rw [hs]
    exact hlimit

end Parts

open Parts

/-- **Assembled descriptors are read as their parts.** Refused are those with more than 255 slots
of parameters, and those with a closing parenthesis in the name of a class among them. -/
theorem methodShape_text {p : Parts} (h : p.Accepted) :
    ∃ shape, p.Shaped shape ∧
      methodShape p.text =
        if shape.argumentSlots ≤ 255 ∧ ∀ t ∈ p.parameters, ')' ∉ t.toList then .ok shape
        else .error (.invalidDescriptor p.text) := by
  obtain ⟨n, hn⟩ := h.exists_resultSlots
  refine ⟨⟨p.parameters.length, p.slots.sum, n⟩,
    ⟨rfl, ⟨p.slots, h.forall₂_slots, rfl⟩, resultSlots?_eq_some_iff.1 hn⟩, ?_⟩
  split_ifs with hfits
  · exact methodShape_eq_ok.2 (h.methodShape?_text.2 ⟨hfits.2, hfits.1, hn, rfl, rfl⟩)
  · apply methodShape_of_none
    by_contra hsome
    obtain ⟨shape, hshape⟩ := Option.ne_none_iff_exists'.1 hsome
    obtain ⟨hparen, hlimit, -⟩ := h.methodShape?_text.1 hshape
    exact hfits ⟨hlimit, hparen⟩

/-- Three parameters, and a result whose class has a closing parenthesis in its name. -/
def mixed : Parts := ⟨["J", "[[D", "Ljava/lang/String;"], "La)b;"⟩

theorem accepted_mixed : mixed.Accepted := by
  refine ⟨fun t ht => ?_, .inr ⟨1, by decide +kernel⟩⟩
  simp only [mixed, List.mem_cons, List.not_mem_nil, or_false] at ht
  rcases ht with rfl | rfl | rfl
  · exact ⟨2, by decide +kernel⟩
  · exact ⟨1, by decide +kernel⟩
  · exact ⟨1, by decide +kernel⟩

/-- A parenthesis in the result does no harm. -/
theorem methodShape_text_mixed :
    mixed.text = "(J[[DLjava/lang/String;)La)b;" ∧ mixed.Accepted ∧
      ∃ shape, mixed.Shaped shape ∧ shape.argumentSlots = 4 ∧
        methodShape mixed.text = .ok shape := by
  obtain ⟨shape, hshaped, hread⟩ := methodShape_text accepted_mixed
  have hshape : methodShape mixed.text = .ok ⟨3, 4, 1⟩ := by decide +kernel
  split_ifs at hread with hfits
  · rw [hshape] at hread
    cases hread
    exact ⟨by decide +kernel, accepted_mixed, _, hshaped, rfl, hshape⟩
  · rw [hshape] at hread
    cases hread

/-- A class with a closing parenthesis in its name is the type of a field, but a method cannot
have a parameter of this type. -/
theorem methodShape_closingName :
    fieldSlots "La)b;" = .ok 1 ∧ (Parts.mk ["La)b;"] "V").text = "(La)b;)V" ∧
      methodShape "(La)b;)V" = .error (.invalidDescriptor "(La)b;)V") := by
  decide +kernel

/-- **Only assembled descriptors are read**, and each in one way. The shape is that of the parts. A
text has slots if it is a field type: two for a `long` or `double`, one for every other. -/
theorem descriptor_exact :
    (∀ d shape, methodShape d = .ok shape →
      ∃ p : Parts, p.text = d ∧ p.Accepted ∧ p.Shaped shape ∧ shape.argumentSlots ≤ 255 ∧
        ∀ p' : Parts, p'.text = d → p'.Accepted → p' = p) ∧
    ∀ d n, fieldSlots d = .ok n ↔ IsFieldType d.toList ∧ n = slotsOf d.toList := by
  refine ⟨fun d shape h => ?_, fun d n => fieldSlots_eq_ok_iff⟩
  obtain ⟨p, rfl, hp, hshaped, hlimit⟩ := exists_of_methodShape? (methodShape_eq_ok.1 h)
  exact ⟨p, rfl, hp, hshaped, hlimit, fun p' htext hp' => hp'.text_inj hp htext⟩

/-- The parenthesis in the result is not taken for that of the parameters. -/
theorem descriptor_exact_mixed :
    methodShape mixed.text = .ok ⟨3, 4, 1⟩ ∧ mixed.Shaped ⟨3, 4, 1⟩ ∧
      (∀ p : Parts, p.text = mixed.text → p.Accepted → p = mixed) ∧
      IsFieldType "[[D".toList ∧ slotsOf "[[D".toList = 1 := by
  obtain ⟨hmethod, hfield⟩ := descriptor_exact
  have hread : methodShape mixed.text = .ok ⟨3, 4, 1⟩ := by decide +kernel
  obtain ⟨p, htext, hp, hshaped, -, hunique⟩ := hmethod mixed.text ⟨3, 4, 1⟩ hread
  obtain rfl : mixed = p := hunique mixed rfl accepted_mixed
  obtain ⟨htype, hslots⟩ := (hfield "[[D" 1).1 (by decide +kernel)
  exact ⟨hread, hshaped, hunique, htype, hslots.symm⟩

end BytecodeGuard.Descriptor
