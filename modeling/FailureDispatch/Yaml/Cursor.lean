/-!
# Reading positions in a YAML text

YAML is sensitive to columns and lines, so whatever reads a text carries its
position along.  A carriage return followed by a line feed is one break, and
next line, line separator and paragraph separator are breaks too.

The module fixes the character classes that all readers share.
-/

namespace FailureDispatch
namespace Yaml

/-- Characters that end a line. -/
def isBreak (c : Char) : Bool :=
  c == '\n' || c == '\r' || c.toNat == 0x85 || c.toNat == 0x2028 || c.toNat == 0x2029

/-- Spaces and tabs. -/
def isGap (c : Char) : Bool := c == ' ' || c == '\t'

/-- Characters of names: of anchors, tag handles and directives. -/
def isNameChar (c : Char) : Bool := c.isAlphanum || c == '_' || c == '-'

/-- Characters that may occur in a YAML text at all. -/
def isAllowed (c : Char) : Bool :=
  let code := c.toNat
  code == 0x09 || code == 0x0A || code == 0x0D || (0x20 ≤ code && code ≤ 0x7E) || code == 0x85
    || (0xA0 ≤ code && code ≤ 0xFFFD) || 0x10000 ≤ code

/-- What a break contributes to a text.  The separators of Unicode stand for
themselves, all other breaks for a line feed. -/
def breakText (c : Char) : Char :=
  if c.toNat == 0x2028 || c.toNat == 0x2029 then c else '\n'

/-- Whether a character ends a word: a blank, a break, or the end of the text. -/
def endsWord : Option Char → Bool
  | none => true
  | some c => isGap c || isBreak c

structure Cursor where
  rest : List Char
  index : Nat := 0
  line : Nat := 0
  column : Nat := 0
  deriving DecidableEq, Repr

namespace Cursor

def peek? (cursor : Cursor) : Option Char := cursor.rest.head?

def peekAt? (cursor : Cursor) (offset : Nat) : Option Char := cursor.rest[offset]?

/-- Whether the next character is the given one. -/
def sees (cursor : Cursor) (c : Char) : Bool := cursor.peek? == some c

/-- Pass characters of the present line. -/
def skip (cursor : Cursor) (count : Nat) : Cursor :=
  { cursor with
    rest := cursor.rest.drop count
    index := cursor.index + count
    column := cursor.column + count }

/-- Pass a break. -/
def skipBreak (cursor : Cursor) : Cursor :=
  match cursor.rest with
  | '\r' :: '\n' :: rest => ⟨rest, cursor.index + 2, cursor.line + 1, 0⟩
  | _ :: rest => ⟨rest, cursor.index + 1, cursor.line + 1, 0⟩
  | [] => cursor

/-- The longest run of characters with the property, and the cursor after it.
The property excludes breaks. -/
def span (cursor : Cursor) (property : Char → Bool) : List Char × Cursor :=
  let run := cursor.rest.takeWhile property
  (run, cursor.skip run.length)

/-- Pass blanks of the present line. -/
def skipGap (cursor : Cursor) : Cursor := (cursor.span isGap).2

/-- Pass everything up to the end of the line. -/
def skipToBreak (cursor : Cursor) : Cursor := (cursor.span fun c => !isBreak c).2

/-- Pass the rest of a line that holds at most a comment. -/
def skipLineEnd (cursor : Cursor) : Option Cursor :=
  let cursor := cursor.skipGap
  let cursor := if cursor.sees '#' then cursor.skipToBreak else cursor
  match cursor.peek? with
  | none => some cursor
  | some c => if isBreak c then some cursor.skipBreak else none

/-- Whether a marker of a document stands at the beginning of the line. -/
def seesMarker (cursor : Cursor) (c : Char) : Bool :=
  cursor.column == 0 && cursor.rest.take 3 == [c, c, c] && endsWord (cursor.peekAt? 3)

def seesDocumentMarker (cursor : Cursor) : Bool := cursor.seesMarker '-' || cursor.seesMarker '.'

end Cursor

/-- White space between two words of a scalar. -/
structure Gap where
  /-- The blanks, as long as there was no break. -/
  blanks : List Char := []
  /-- Whether the gap goes over the end of a line. -/
  broken : Bool := false
  /-- The first break, unless it was escaped. -/
  first : List Char := []
  /-- The breaks after it. -/
  more : List Char := []
  deriving DecidableEq, Repr

namespace Gap

def addBreak (gap : Gap) (c : Char) : Gap :=
  if gap.broken then { gap with more := gap.more ++ [c] }
  else { blanks := [], broken := true, first := [c], more := [] }

/-- What the gap contributes to the scalar.  A single line feed is folded into
a space; of several, the first is dropped. -/
def text (gap : Gap) : List Char :=
  if gap.broken then
    if gap.first == ['\n'] then (if gap.more.isEmpty then [' '] else gap.more)
    else gap.first ++ gap.more
  else gap.blanks

end Gap

namespace Cursor

/-- Read white space, given a number of characters that suffices.  On a
continuation line no tab may stand before the given column. -/
def readGapWithin (indent : Nat) : Nat → Gap → Cursor → Option (Gap × Cursor)
  | 0, gap, cursor => some (gap, cursor)
  | count + 1, gap, cursor =>
      match cursor.peek? with
      | none => some (gap, cursor)
      | some c =>
          if isBreak c then
            readGapWithin indent count (gap.addBreak (breakText c)) cursor.skipBreak
          else if !isGap c then some (gap, cursor)
          else if !gap.broken then
            readGapWithin indent count { gap with blanks := gap.blanks ++ [c] } (cursor.skip 1)
          else if c == '\t' && decide (cursor.column < indent) then none
          else readGapWithin indent count gap (cursor.skip 1)

/-- Read white space. -/
def readGap (cursor : Cursor) (indent : Nat) (gap : Gap) : Option (Gap × Cursor) :=
  readGapWithin indent cursor.rest.length gap cursor

end Cursor
end Yaml
end FailureDispatch
