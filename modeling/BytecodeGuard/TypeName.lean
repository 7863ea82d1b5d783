/-!
# Type names

Class names are kept the way class files spell them, with `/` between the parts.
`TypeName.display` gives the form for messages, with dots, and with the package of the sandbox
left out so that sandboxed classes read like the classes they replace. Array types end in one
`[]` for each dimension.
-/

namespace BytecodeGuard.TypeName

/-- The root of all that can be thrown. -/
def throwable : String := "java/lang/Throwable"

/-- The root of the failures that programs are not expected to handle. -/
def error : String := "java/lang/Error"

/-- Thrown to stop a thread. -/
def threadDeath : String := "java/lang/ThreadDeath"

/-- The root of the failures of the virtual machine. -/
def virtualMachineError : String := "java/lang/VirtualMachineError"

/-- Thrown when calls are nested too deeply. -/
def stackOverflowError : String := "java/lang/StackOverflowError"

/-- Thrown when memory is used up. -/
def outOfMemoryError : String := "java/lang/OutOfMemoryError"

/-- Thrown when sandboxed code breaks a rule. -/
def ruleViolation : String := "sandbox/net/corda/djvm/rules/RuleViolationException"

/-- Thrown when sandboxed code uses more than it may. -/
def thresholdViolation : String := "sandbox/net/corda/djvm/costing/ThresholdViolationException"

/-- The class whose native methods the virtual machine needs. -/
def reflectArray : String := "java/lang/reflect/Array"

/-- The name of constructors. -/
def constructor : String := "<init>"

/-! ## Display -/

/-- The word for a primitive type. -/
def primitive? : List Char → Option String
  | ['Z'] => some "boolean"
  | ['B'] => some "byte"
  | ['C'] => some "char"
  | ['S'] => some "short"
  | ['I'] => some "int"
  | ['J'] => some "long"
  | ['F'] => some "float"
  | ['D'] => some "double"
  | _ => none

/-- The text after the given beginning, or the whole text if it begins otherwise. -/
def dropBeginning (beginning s : List Char) : List Char :=
  if beginning.isPrefixOf s then s.drop beginning.length else s

/-- A class name without the package of the sandbox, with dots. -/
def displayClass (package s : List Char) : List Char :=
  (dropBeginning package s).map fun c => if c = '/' then '.' else c

/-- The class name between `L` and `;`, or the whole text if it is not so enclosed. -/
def unwrap (s : List Char) : List Char :=
  match s with
  | 'L' :: rest => if rest.getLast? = some ';' then rest.dropLast else s
  | _ => s

/-- The display form of the type of an array element. -/
def displayElement (package s : List Char) : List Char :=
  match primitive? s with
  | some word => word.toList
  | none => displayClass package (unwrap s)

/-- The display form of a class name or array type. -/
def displayChars (package s : List Char) : List Char :=
  let dimensions := s.takeWhile (· = '[')
  if dimensions.isEmpty then displayClass package s
  else displayElement package (s.dropWhile (· = '[')) ++ dimensions.flatMap fun _ => ['[', ']']

/-- The display form of a class name or array type. The package is the text that is left out at
the beginning of class names. -/
def display (package name : String) : String :=
  String.ofList (displayChars package.toList name.toList)

end BytecodeGuard.TypeName
