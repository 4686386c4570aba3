import FailureDispatch.Text.Printable

/-!
# Quoted text

A text between double quotes, in which the quote, the backslash and all
characters without a visible form are written as escapes.  The escape of a
character without a letter of its own gives its number in hexadecimal.
-/

namespace FailureDispatch
namespace Text

/-- A number in lower-case hexadecimal digits. -/
def hexadecimal (value : Nat) : String := String.ofList (Nat.toDigits 16 value)

def escape (c : Char) : String :=
  if c = '"' then "\\\""
  else if c = '\\' then "\\\\"
  else if c = '\n' then "\\n"
  else if c = '\r' then "\\r"
  else if c = '\t' then "\\t"
  else if c = '\x00' then "\\0"
  else if isPrintable c then String.singleton c
  else "\\u\x7b" ++ hexadecimal c.toNat ++ "\x7d"

def quoted (text : String) : String :=
  "\"" ++ String.join (text.toList.map escape) ++ "\""

end Text
end FailureDispatch
