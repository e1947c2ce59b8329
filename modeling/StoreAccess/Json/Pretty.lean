import StoreAccess.Json.Basic

/-!
# Indented JSON text

`Json.pretty` writes a value over several lines: each item of an array and each member of an
object has a line of its own, two blanks further in than the bracket it stands in. Empty arrays
and objects stay on one line. Of the characters in a string only quotes, backslashes and those
below the blank are escaped.
-/

namespace StoreAccess.Json

/-- A character below the blank by its code point, in four digits. -/
def controlEscape (c : Char) : List Char :=
  let row := Nat.toDigits 16 c.toNat
  ['\\', 'u'] ++ List.replicate (4 - row.length) '0' ++ row

def escapeChar (c : Char) : List Char :=
  if c = '\x22' || c = '\\' then ['\\', c]
  else if c = '\x08' then ['\\', 'b']
  else if c = '\t' then ['\\', 't']
  else if c = '\n' then ['\\', 'n']
  else if c = '\x0c' then ['\\', 'f']
  else if c = '\r' then ['\\', 'r']
  else if c < ' ' then controlEscape c
  else [c]

def stringText (value : String) : String :=
  String.ofList ('\x22' :: value.toList.flatMap escapeChar ++ ['\x22'])

/-- A number, with an exponent if it has decimals. -/
def numberText (mantissa : Int) (decimals : Nat) : String :=
  let digits := mantissa.natAbs.repr
  let signed := if mantissa < 0 then "-" ++ digits else digits
  if decimals = 0 then signed else signed ++ "e-" ++ decimals.repr

def indent (depth : Nat) : String := String.ofList (List.replicate (2 * depth) ' ')

/-- Lines between brackets, or the bare brackets if there are none. -/
def bracket (depth : Nat) (opening closing : String) (lines : List String) : String :=
  if lines.isEmpty then opening ++ closing
  else
    let inner := lines.map (indent (depth + 1) ++ ·)
    opening ++ "\n" ++ String.intercalate ",\n" inner ++ "\n" ++ indent depth ++ closing

mutual

/-- The text of a value whose first line is indented to a depth. -/
def prettyAt (depth : Nat) : Json → String
  | null => "null"
  | bool value => if value then "true" else "false"
  | number mantissa decimals => numberText mantissa decimals
  | string value => stringText value
  | array items => bracket depth "[" "]" (prettyItems (depth + 1) items)
  | object members => bracket depth "\x7b" "\x7d" (prettyMembers (depth + 1) members)

def prettyItems (depth : Nat) : List Json → List String
  | [] => []
  | item :: items => prettyAt depth item :: prettyItems depth items

def prettyMembers (depth : Nat) : List (String × Json) → List String
  | [] => []
  | (name, value) :: members =>
    (stringText name ++ ": " ++ prettyAt depth value) :: prettyMembers depth members

end

/-- The text of a value, without a line end after it. -/
def pretty (value : Json) : String := prettyAt 0 value

end StoreAccess.Json
