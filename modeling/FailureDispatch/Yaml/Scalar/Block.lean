import FailureDispatch.Yaml.Cursor

/-!
# Block scalars

A block scalar is made of the lines that are indented deeper than what holds
it.  Literal scalars keep their breaks, folded ones join neighbouring lines
that begin with a word.  The header may fix the indentation and says what
becomes of the breaks at the end.
-/

namespace FailureDispatch
namespace Yaml

/-- What becomes of the breaks at the end of a block scalar. -/
inductive Chomping where
  | strip
  | clip
  | keep
  deriving DecidableEq, Repr

structure BlockHeader where
  chomping : Chomping := .clip
  /-- The indentation relative to the surroundings, if it is given. -/
  indent : Option Nat := none
  deriving DecidableEq, Repr

def chomping? (c : Char) : Option Chomping :=
  if c == '+' then some .keep else if c == '-' then some .strip else none

/-- An indentation, which is a digit from 1 to 9. -/
def indentDigit? (c : Char) : Option Nat :=
  if '1' ≤ c ∧ c ≤ '9' then some (c.toNat - '0'.toNat) else none

/-- Read the header, the two parts of which may come in either order. -/
def readBlockHeader (cursor : Cursor) : Option (BlockHeader × Cursor) :=
  match cursor.peek?, cursor.peekAt? 1 with
  | none, _ => some ({}, cursor)
  | some c, next =>
      match chomping? c with
      | some chomping =>
          match next with
          | some '0' => none
          | some d =>
              match indentDigit? d with
              | some indent => some (⟨chomping, some indent⟩, cursor.skip 2)
              | none => some ({ chomping }, cursor.skip 1)
          | none => some ({ chomping }, cursor.skip 1)
      | none =>
          if c == '0' then none
          else match indentDigit? c with
            | none => some ({}, cursor)
            | some indent =>
                match next.bind chomping? with
                | some chomping => some (⟨chomping, some indent⟩, cursor.skip 2)
                | none => some ({ indent := some indent }, cursor.skip 1)

/-- Read indentation and empty lines, at most so many.  `indent` is the column
to go to, or `none` while it is unknown.  The answer holds the breaks and the
greatest column that was reached. -/
def readBreaksWithin (indent : Option Nat) :
    Nat → List Char → Nat → Cursor → Option (List Char × Nat × Cursor)
  | 0, breaks, furthest, cursor => some (breaks, furthest, cursor)
  | count + 1, breaks, furthest, cursor =>
      let spaces := (cursor.rest.takeWhile (· == ' ')).length
      let cursor := cursor.skip (match indent with
        | none => spaces
        | some column => min spaces (column - cursor.column))
      let furthest := max furthest cursor.column
      let short := indent.all fun column => decide (cursor.column < column)
      match cursor.peek? with
      | none => some (breaks, furthest, cursor)
      | some c =>
          if short && c == '\t' then none
          else if isBreak c then
            readBreaksWithin indent count (breaks ++ [breakText c]) furthest cursor.skipBreak
          else some (breaks, furthest, cursor)

def readBreaks (indent : Option Nat) (cursor : Cursor) : Option (List Char × Nat × Cursor) :=
  readBreaksWithin indent (cursor.rest.length + 1) [] 0 cursor

/-- What is left at the end of a block scalar. -/
structure BlockText where
  text : List Char
  /-- The break of the last line. -/
  lastBreak : List Char
  /-- The breaks of the empty lines after it. -/
  emptyLines : List Char
  after : Cursor

/-- Read lines, at most so many. -/
def readLinesWithin (literal : Bool) (indent : Nat) :
    Nat → Bool → BlockText → Option BlockText
  | 0, _, block => some block
  | count + 1, wasIndented, block =>
      match block.after.peek? with
      | none => some block
      | some c =>
          if block.after.column != indent then some block
          else do
            let isIndented := isGap c
            let folds := !literal && block.lastBreak == ['\n'] && !wasIndented && !isIndented
            let joint := if folds then (if block.emptyLines.isEmpty then [' '] else [])
              else block.lastBreak
            let (line, cursor) := block.after.span fun d => !isBreak d
            let lastBreak := cursor.peek?.toList.map breakText
            let (emptyLines, _, cursor) ← readBreaks (some indent) cursor.skipBreak
            readLinesWithin literal indent count isIndented
              ⟨block.text ++ joint ++ block.emptyLines ++ line, lastBreak, emptyLines, cursor⟩

/-- Read a block scalar whose indicator is next.  `outer` is the column of what
holds it, or `none` at the outermost level. -/
def readBlock (literal : Bool) (outer : Option Nat) (cursor : Cursor) :
    Option (List Char × Cursor) := do
  let (header, cursor) ← readBlockHeader (cursor.skip 1)
  let cursor ← cursor.skipLineEnd
  let base := match outer with
    | some column => column + 1
    | none => 0
  let fixed := header.indent.map fun indent => outer.getD 0 + indent
  let (emptyLines, furthest, cursor) ← readBreaks fixed cursor
  let indent := fixed.getD (max (max furthest base) 1)
  let block ← readLinesWithin literal indent (cursor.rest.length + 1) false
    ⟨[], [], emptyLines, cursor⟩
  return (block.text
      ++ (if header.chomping == .strip then [] else block.lastBreak)
      ++ (if header.chomping == .keep then block.emptyLines else []), block.after)

end Yaml
end FailureDispatch
