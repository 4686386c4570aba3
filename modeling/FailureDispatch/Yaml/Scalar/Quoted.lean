import FailureDispatch.Yaml.Cursor

/-!
# Quoted scalars

Between single quotes, the quote is written twice and nothing else is
special.  Between double quotes a backslash begins an escape; before a break
it joins two lines without a space.
-/

namespace FailureDispatch
namespace Yaml

/-- Escapes of one character. -/
def escapedChar? (c : Char) : Option Char :=
  match c with
  | '0' => some '\x00'
  | 'a' => some '\x07'
  | 'b' => some '\x08'
  | 't' | '\t' => some '\t'
  | 'n' => some '\n'
  | 'v' => some '\x0b'
  | 'f' => some '\x0c'
  | 'r' => some '\r'
  | 'e' => some '\x1b'
  | ' ' => some ' '
  | '"' => some '"'
  | '/' => some '/'
  | '\\' => some '\\'
  | 'N' => some '\u0085'
  | '_' => some '\u00a0'
  | 'L' => some '\u2028'
  | 'P' => some '\u2029'
  | _ => none

/-- The number of hexadecimal digits after the letter of an escape. -/
def escapeDigits? (c : Char) : Option Nat :=
  match c with
  | 'x' => some 2
  | 'u' => some 4
  | 'U' => some 8
  | _ => none

def hexDigit? (c : Char) : Option Nat :=
  if '0' ≤ c ∧ c ≤ '9' then some (c.toNat - '0'.toNat)
  else if 'a' ≤ c ∧ c ≤ 'f' then some (c.toNat - 'a'.toNat + 10)
  else if 'A' ≤ c ∧ c ≤ 'F' then some (c.toNat - 'A'.toNat + 10)
  else none

/-- The value of so many hexadecimal digits at the front. -/
def hexValue? (count : Nat) (text : List Char) : Option Nat :=
  let digits := text.take count
  if digits.length = count then
    (digits.mapM hexDigit?).map (·.foldl (fun value digit => 16 * value + digit) 0)
  else none

/-- A code point as a character.  Surrogates are not characters. -/
def char? (code : Nat) : Option Char :=
  if valid : code.isValidChar then some (Char.ofNatAux code valid) else none

/-- Read an escape that does not stand before a break: its character and its
length, the backslash not included. -/
def readEscape : List Char → Option (Char × Nat)
  | [] => none
  | c :: rest =>
      match escapedChar? c, escapeDigits? c with
      | some escaped, _ => some (escaped, 1)
      | none, some count =>
          ((hexValue? count rest).bind char?).map fun escaped => (escaped, count + 1)
      | none, none => none

/-- Read up to the closing quote, at most so many characters.  The text is
collected backwards. -/
def readQuotedWithin (quote : Char) : Nat → List Char → Cursor → Option (List Char × Cursor)
  | 0, _, _ => none
  | count + 1, text, cursor =>
      if cursor.seesDocumentMarker then none
      else match cursor.rest with
        | [] => none
        | c :: rest =>
            if c == quote then
              if quote == '\'' && rest.head? == some '\'' then
                readQuotedWithin quote count ('\'' :: text) (cursor.skip 2)
              else some (text.reverse, cursor.skip 1)
            else if quote == '"' && c == '\\' then
              if rest.head?.any isBreak then do
                let (gap, cursor) ← ((cursor.skip 1).skipBreak).readGap 0 { broken := true }
                readQuotedWithin quote count (gap.text.reverse ++ text) cursor
              else do
                let (escaped, length) ← readEscape rest
                readQuotedWithin quote count (escaped :: text) (cursor.skip (length + 1))
            else if isGap c || isBreak c then do
              let (gap, cursor) ← cursor.readGap 0 {}
              readQuotedWithin quote count (gap.text.reverse ++ text) cursor
            else readQuotedWithin quote count (c :: text) (cursor.skip 1)

/-- Read a scalar between two quotes, the first of which is next. -/
def readQuoted (quote : Char) (cursor : Cursor) : Option (List Char × Cursor) :=
  readQuotedWithin quote (cursor.rest.length + 1) [] (cursor.skip 1)

end Yaml
end FailureDispatch
