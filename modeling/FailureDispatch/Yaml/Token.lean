import FailureDispatch.Yaml.Scalar.Block
import FailureDispatch.Yaml.Scalar.Plain
import FailureDispatch.Yaml.Scalar.Quoted

/-!
# Tokens of YAML

The tokens make explicit what a text says by layout: where a block collection
begins and ends, and what is a key.  A key is recognised only by the colon
after it, so the beginning of every possible key is remembered until the
colon comes or can no longer come.  A possible key is given up at the end of
its line, or after 1024 characters; it is an error to give one up where the
layout demands a key.
-/

namespace FailureDispatch
namespace Yaml

inductive ScalarStyle where
  | plain
  | singleQuoted
  | doubleQuoted
  | literal
  | folded
  deriving DecidableEq, Repr

inductive Token where
  | version (major minor : Nat)
  /-- A directive that lets a handle stand for the beginning of tags. -/
  | tagDirective (handle lead : String)
  | documentStart
  | documentEnd
  | blockSequenceStart
  | blockMappingStart
  | blockEnd
  | flowSequenceStart
  | flowSequenceEnd
  | flowMappingStart
  | flowMappingEnd
  | blockEntry
  | flowEntry
  | key
  | value
  | alias (name : String)
  | anchor (name : String)
  | tag (handle suffix : String)
  | scalar (text : String) (style : ScalarStyle)
  deriving DecidableEq, Repr

/-! ## Tags and directives -/

/-- The punctuation that tags may contain. -/
def isTagMark (c : Char) : Bool :=
  [';', '/', '?', ':', '@', '&', '=', '+', '$', '.', '!', '~', '*', '\'', '(', ')'].contains c

/-- Characters of tags that stand for themselves.  A verbatim tag may contain
flow punctuation, except braces. -/
def isTagChar (verbatim : Bool) (c : Char) : Bool :=
  isNameChar c || isTagMark c || (verbatim && (c == ',' || c == '[' || c == ']'))

/-- The number of octets of a UTF-8 sequence and the payload of its first. -/
def leadOctet? (octet : Nat) : Option (Nat × Nat) :=
  if octet < 0x80 then some (1, octet)
  else if octet / 32 == 6 then some (2, octet % 32)
  else if octet / 16 == 14 then some (3, octet % 16)
  else if octet / 8 == 30 then some (4, octet % 8)
  else none

def escapedOctet? (text : List Char) : Option Nat :=
  if text.head? == some '%' then hexValue? 2 (text.drop 1) else none

/-- Read further octets of a percent-encoded character. -/
def readTailOctets : Nat → Nat → List Char → Option Nat
  | 0, value, _ => some value
  | count + 1, value, text =>
      (escapedOctet? text).bind fun octet =>
        if octet / 64 == 2 then readTailOctets count (64 * value + octet % 64) (text.drop 3)
        else none

/-- A percent-encoded character and the number of characters that encode it. -/
def readTagEscape (text : List Char) : Option (Char × Nat) := do
  let octet ← escapedOctet? text
  let (width, payload) ← leadOctet? octet
  let code ← readTailOctets (width - 1) payload (text.drop 3)
  return (Char.ofNat code, 3 * width)

/-- Read the characters of a tag, at most so many. -/
def readTagWithin (verbatim : Bool) : Nat → List Char → Cursor → Option (List Char × Cursor)
  | 0, text, cursor => some (text, cursor)
  | count + 1, text, cursor =>
      match cursor.peek? with
      | none => some (text, cursor)
      | some c =>
          if c == '%' then
            (readTagEscape cursor.rest).bind fun (escaped, length) =>
              readTagWithin verbatim count (text ++ [escaped]) (cursor.skip length)
          else if isTagChar verbatim c then
            readTagWithin verbatim count (text ++ [c]) (cursor.skip 1)
          else some (text, cursor)

/-- Read the part of a tag after `start`, which must not stay empty. -/
def readTagPart (verbatim : Bool) (start : List Char) (cursor : Cursor) :
    Option (List Char × Cursor) := do
  let (text, after) ← readTagWithin verbatim cursor.rest.length [] cursor
  if text.isEmpty && start.isEmpty then none
  else return (start.drop 1 ++ text, after)

/-- Read a tag handle: an exclamation mark, a name, and another mark. -/
def readTagHandle (cursor : Cursor) : List Char × Cursor :=
  let (name, after) := (cursor.skip 1).span isNameChar
  if after.sees '!' then ('!' :: name ++ ['!'], after.skip 1) else ('!' :: name, after)

/-- Read a tag. -/
def readTag (inFlow : Bool) (cursor : Cursor) : Option (Token × Cursor) := do
  let (handle, suffix, after) ←
    if cursor.peekAt? 1 == some '<' then do
      let (suffix, after) ← readTagPart true [] (cursor.skip 2)
      if after.sees '>' then some ([], suffix, after.skip 1) else none
    else do
      let (handle, after) := readTagHandle cursor
      if 1 < handle.length && handle.getLast? == some '!' then do
        let (suffix, after) ← readTagPart false [] after
        some (handle, suffix, after)
      else do
        let (suffix, after) ← readTagPart false handle after
        if suffix.isEmpty then some ([], ['!'], after) else some (['!'], suffix, after)
  if endsWord after.peek? || (inFlow && after.sees ',') then
    return (.tag (String.ofList handle) (String.ofList suffix), after)
  else none

/-- Read a number of a version, which has at most nine digits. -/
def readVersionNumber (cursor : Cursor) : Option (Nat × Cursor) :=
  let (digits, after) := cursor.span Char.isDigit
  if digits.isEmpty || 9 < digits.length then none
  else some (digits.foldl (fun value digit => 10 * value + (digit.toNat - '0'.toNat)) 0, after)

/-- Read the value of a version directive. -/
def readVersion (cursor : Cursor) : Option (Token × Cursor) := do
  let (major, after) ← readVersionNumber cursor.skipGap
  if !after.sees '.' then none
  let (minor, after) ← readVersionNumber (after.skip 1)
  return (.version major minor, after)

/-- Read the value of a tag directive. -/
def readTagDirective (cursor : Cursor) : Option (Token × Cursor) := do
  let cursor := cursor.skipGap
  if !cursor.sees '!' then none
  let (handle, after) := readTagHandle cursor
  if handle != ['!'] && handle.getLast? != some '!' then none
  if !after.peek?.any isGap then none
  let (lead, after) ← readTagPart true [] after.skipGap
  if !endsWord after.peek? then none
  return (.tagDirective (String.ofList handle) (String.ofList lead), after)

/-- Read a directive and the end of its line. -/
def readDirective (cursor : Cursor) : Option (Token × Cursor) := do
  let (name, after) := (cursor.skip 1).span isNameChar
  if !endsWord after.peek? then none
  let (token, after) ←
    if name == "YAML".toList then readVersion after
    else if name == "TAG".toList then readTagDirective after
    else none
  return (token, ← after.skipLineEnd)

/-- Read the name of an anchor or alias. -/
def readAnchorName (cursor : Cursor) : Option (String × Cursor) :=
  let (name, after) := (cursor.skip 1).span isNameChar
  let ends := endsWord after.peek? ||
    after.peek?.any fun c => ['?', ':', ',', ']', '}', '%', '@', (Char.ofNat 0x60)].contains c
  if !name.isEmpty && ends then some (String.ofList name, after) else none

end Yaml
end FailureDispatch
