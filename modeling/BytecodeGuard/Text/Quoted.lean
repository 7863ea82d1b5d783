import BytecodeGuard.Text.Unseen

/-!
# Quoted text

A text in double quotes, in which the quote, the backslash and every character that cannot be
seen on its own are escaped. An apostrophe stays as it is.
-/

namespace BytecodeGuard.Text

/-- Lower-case hexadecimal digits. -/
def hex (n : Nat) : String := String.ofList (Nat.toDigits 16 n)

/-- The spelling of one character inside quotes. -/
def escape (c : Char) : String :=
  match c with
  | '\x00' => "\\0"
  | '\t' => "\\t"
  | '\n' => "\\n"
  | '\r' => "\\r"
  | '"' => "\\\""
  | '\\' => "\\\\"
  | c => if isUnseen c then "\\u\x7b" ++ hex c.toNat ++ "\x7d" else c.toString

/-- The text in double quotes. -/
def quoted (s : String) : String := "\"" ++ String.join (s.toList.map escape) ++ "\""

end BytecodeGuard.Text
