import FailureDispatch.Text.Alphanumeric
import FailureDispatch.Text.Blank

/-!
# Log filters

A log filter is a list of directives separated by commas.  A directive is a
target, optionally followed by `=` and a level.  This module decides only
whether a text is a filter at all.

The level is compared as it stands.  In particular a blank beside it makes
the directive bad, although blanks around the whole directive are tolerated
where they come before the target.
-/

namespace FailureDispatch
namespace LogFilter

/-- Names of levels, compared without regard to the case of ASCII letters. -/
def levelNames : List String := ["error", "warn", "info", "debug", "trace", "off"]

/-- A level as a number from 0 to 5, with an optional plus sign and any number
of leading zeros. -/
def isLevelNumber (text : List Char) : Bool :=
  let digits := match text with
    | '+' :: rest => rest
    | _ => text
  !digits.isEmpty && digits.all Char.isDigit &&
    decide (digits.foldl (fun value digit => 10 * value + (digit.toNat - '0'.toNat)) 0 ≤ 5)

def isLevel (text : List Char) : Bool :=
  levelNames.any (fun name => name.toList == text.map Char.toLower) || isLevelNumber text

/-- The characters that a target may begin with. -/
def startsTarget (c : Char) : Bool :=
  c == '-' || c == ':' || c == '_' || Text.isAlphanumeric c

/-- The text after the first equals sign, if there is one. -/
def levelPart? (directive : List Char) : Option (List Char) :=
  match directive.dropWhile (· != '=') with
  | _ :: rest => some rest
  | [] => none

def isDirective (directive : List Char) : Bool :=
  match Text.strip directive with
  | [] => true
  | first :: _ =>
      startsTarget first &&
        match levelPart? directive with
        | none | some [] => true
        | some level => isLevel level

/-- The parts between commas.  There is always at least one, possibly empty. -/
def parts : List Char → List (List Char)
  | [] => [[]]
  | c :: rest =>
      if c = ',' then [] :: parts rest
      else match parts rest with
        | [] => [[c]]
        | part :: others => (c :: part) :: others

/-- A text is a filter when every non-empty part is a directive. -/
def isFilter (text : String) : Bool :=
  ((parts text.toList).filter (!·.isEmpty)).all isDirective

/-- Whether logging can be set up: the environment's filter is used when it is
good, and ignored when it is bad. -/
def isUsable (environment : Option String) (configured : String) : Bool :=
  environment.any isFilter || isFilter configured

end LogFilter
end FailureDispatch
