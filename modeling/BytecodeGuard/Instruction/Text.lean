import BytecodeGuard.Decimal.Layout
import BytecodeGuard.Instruction.Basic
import BytecodeGuard.Text.Quoted

/-!
# Instructions as text

Each instruction has one line of text, as a disassembler would show it. Operands also have a
detailed form for error messages, which names the form of the operand and all its parts.
-/

namespace BytecodeGuard

/-- The text of a label. -/
def Label.text (l : Label) : String := s!"L{l.index}"

/-- The qualified name followed by the descriptor. -/
def SymbolicRef.text (r : SymbolicRef) : String := r.owner ++ "." ++ r.name ++ r.descriptor

/-- The text of a constant. A suffix tells the numeric types apart. -/
def Constant.text : Constant → String
  | int v => toString v.toInt
  | float v => NumberLayout.plain.text v ++ "f"
  | long v => toString v.toInt ++ "L"
  | double v => NumberLayout.plain.text v ++ "d"
  | string v => Text.quoted v
  | classLiteral name => name ++ ".class"

/-- The text of an operand. A switch lists each key with its target. -/
def Operand.text : Operand → String
  | empty => ""
  | int v => toString v.toInt
  | slot index => toString index.toNat
  | typeName name => name
  | field ref | method ref => ref.text
  | callSite name descriptor => name ++ descriptor
  | target label => label.text
  | constant value => value.text
  | increment index delta => s!"{index.toNat} {delta.toInt}"
  | switch fallback keys targets =>
    let cases := (keys.zip targets).map fun (key, label) => s!"{key.toInt}: {label.text}, "
    String.join cases ++ "default: " ++ fallback.text
  | multiArray descriptor dimensions => s!"{descriptor} {dimensions.toNat}"

/-- The text of an instruction. -/
def Instruction.text : Instruction → String
  | exec op .empty => op.mnemonic
  | exec op operand => op.mnemonic ++ " " ++ operand.text
  | label l => l.text ++ ":"
  | line number start => s!"LINENUMBER {number.toNat} {start.text}"
  | region r =>
    let caught := r.caught.getD "null"
    s!"TRYCATCHBLOCK {r.start.text} {r.stop.text} {r.handler.text} {caught}"

/-! ## Detailed operands -/

/-- A value in detail: its form and, in parentheses, its content. -/
def detailOf (form content : String) : String := form ++ "(" ++ content ++ ")"

/-- A record in detail: its form and, in braces, its named parts. -/
def recordDetail (form : String) (parts : List (String × String)) : String :=
  let named := parts.map fun (name, value) => name ++ ": " ++ value
  form ++ " \x7b " ++ ", ".intercalate named ++ " \x7d"

/-- A list in brackets. -/
def listDetail (items : List String) : String := "[" ++ ", ".intercalate items ++ "]"

/-- A label in detail. -/
def Label.detail (l : Label) : String := detailOf "Label" (toString l.index)

/-- A reference in detail. -/
def SymbolicRef.detail (r : SymbolicRef) : String :=
  recordDetail "MemberRef" [("owner", Text.quoted r.owner), ("name", Text.quoted r.name),
    ("descriptor", Text.quoted r.descriptor),
    ("interface", if r.isInterface then "true" else "false")]

/-- A constant in detail. -/
def Constant.detail : Constant → String
  | int v => detailOf "Int" (toString v.toInt)
  | float v => detailOf "Float" (NumberLayout.detailed.text v)
  | long v => detailOf "Long" (toString v.toInt)
  | double v => detailOf "Double" (NumberLayout.detailed.text v)
  | string v => detailOf "String" (Text.quoted v)
  | classLiteral name => detailOf "Type" (Text.quoted name)

/-- An operand in detail. -/
def Operand.detail : Operand → String
  | empty => "None"
  | int v => detailOf "Int" (toString v.toInt)
  | slot index => detailOf "Local" (toString index.toNat)
  | typeName name => detailOf "Type" (Text.quoted name)
  | field ref => detailOf "Field" ref.detail
  | method ref => detailOf "Method" ref.detail
  | callSite name descriptor =>
    recordDetail "Dynamic" [("name", Text.quoted name), ("descriptor", Text.quoted descriptor)]
  | target label => detailOf "Target" label.detail
  | constant value => detailOf "Constant" value.detail
  | increment index delta =>
    recordDetail "Increment" [("local", toString index.toNat), ("delta", toString delta.toInt)]
  | switch fallback keys targets =>
    recordDetail "Switch" [("default", fallback.detail),
      ("keys", listDetail (keys.map fun key => toString key.toInt)),
      ("targets", listDetail (targets.map Label.detail))]
  | multiArray descriptor dimensions =>
    recordDetail "MultiArray" [("descriptor", Text.quoted descriptor),
      ("dimensions", toString dimensions.toNat)]

end BytecodeGuard
