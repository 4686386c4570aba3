import FailureDispatch.Yaml.Cursor

/-!
# Plain scalars

A plain scalar has no delimiters.  It ends before a colon that ends a word,
before a comment, before a less indented line and, inside brackets, before
the next bracket or comma.
-/

namespace FailureDispatch
namespace Yaml

/-- The punctuation of flow collections. -/
def isFlowMark (c : Char) : Bool := c == ',' || c == '[' || c == ']' || c == '{' || c == '}'

/-- The characters up to the next blank, break or end of the scalar.  Inside
brackets a colon must not stand directly before punctuation. -/
def plainWord (inFlow : Bool) : List Char → Option (List Char)
  | [] => some []
  | c :: rest =>
      if isGap c || isBreak c then some []
      else if inFlow && c == ':' && rest.head?.any (fun d => isFlowMark d || d == '?') then none
      else if c == ':' && endsWord rest.head? then some []
      else if inFlow && isFlowMark c then some []
      else (plainWord inFlow rest).map (c :: ·)

structure PlainScalar where
  text : List Char
  /-- Whether the scalar was followed by a break, so that a new line begins. -/
  endsLine : Bool
  after : Cursor

/-- Read words and the gaps between them, at most so many. -/
def readPlainWithin (inFlow : Bool) (indent : Nat) :
    Nat → List Char → Gap → Cursor → Option PlainScalar
  | 0, text, gap, cursor => some ⟨text, gap.broken, cursor⟩
  | count + 1, text, gap, cursor => do
      if cursor.seesDocumentMarker || cursor.sees '#' then
        return ⟨text, gap.broken, cursor⟩
      let word ← plainWord inFlow cursor.rest
      let text := if word.isEmpty then text else text ++ gap.text ++ word
      let gap := if word.isEmpty then gap else {}
      let cursor := cursor.skip word.length
      if cursor.peek?.all (fun c => !isGap c && !isBreak c) then
        return ⟨text, gap.broken, cursor⟩
      let (gap, cursor) ← cursor.readGap indent {}
      if !inFlow && decide (cursor.column < indent) then
        return ⟨text, gap.broken, cursor⟩
      readPlainWithin inFlow indent count text gap cursor

/-- Read a plain scalar whose continuation lines are indented by at least
`indent` outside brackets. -/
def readPlain (inFlow : Bool) (indent : Nat) (cursor : Cursor) : Option PlainScalar :=
  readPlainWithin inFlow indent (cursor.rest.length + 1) [] {} cursor

end Yaml
end FailureDispatch
