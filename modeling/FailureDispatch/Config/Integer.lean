/-!
# Integers in configuration files

An integer is written in decimal digits, or in hexadecimal, octal or binary
digits after `0x`, `0o` or `0b`.  A plus sign may precede it.  A decimal
number of more than one digit does not begin with a zero, so that nobody
mistakes it for an octal one.  The value must fit into 64 bits.
-/

namespace FailureDispatch
namespace Config

/-- The greatest value of a 64-bit integer. -/
def maxInteger : Nat := UInt64.size - 1

/-- The value of a digit in a base up to sixteen. -/
def digit? (base : Nat) (c : Char) : Option Nat :=
  let value :=
    if '0' ≤ c ∧ c ≤ '9' then c.toNat - '0'.toNat
    else if 'a' ≤ c ∧ c ≤ 'f' then c.toNat - 'a'.toNat + 10
    else if 'A' ≤ c ∧ c ≤ 'F' then c.toNat - 'A'.toNat + 10
    else base
  if value < base then some value else none

/-- The value of a non-empty row of digits, if it is in range. -/
def digits? (base : Nat) (text : List Char) : Option Nat :=
  if text.isEmpty then none
  else ((text.mapM (digit? base)).map
    (·.foldl (fun value digit => base * value + digit) 0)).filter (· ≤ maxInteger)

/-- A decimal number without superfluous zeros. -/
def decimal? (text : List Char) : Option Nat :=
  match text with
  | '0' :: _ :: _ => none
  | _ => digits? 10 text

/-- The value of an integer. -/
def integer? (text : List Char) : Option Nat :=
  let unsigned := match text with
    | '+' :: rest => rest
    | _ => text
  match unsigned with
  | '0' :: 'x' :: rest => digits? 16 rest
  | '0' :: 'o' :: rest => digits? 8 rest
  | '0' :: 'b' :: rest => digits? 2 rest
  | _ => decimal? unsigned

end Config
end FailureDispatch
