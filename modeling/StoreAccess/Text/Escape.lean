import StoreAccess.Text.Extending
import StoreAccess.Text.Ignorable
import StoreAccess.Text.Unprintable

/-!
# Escaped text

Messages show text that may hold quotes, line ends or invisible characters with escapes in
place of them. Two forms are in use. A *quoted* text stands between double quotes, so those are
escaped in it and single quotes are not. An *inline* text is to stand between quotes of either
kind, so both are escaped; there an extending character is shown as it is, for it joins with
the character before it, except at the start, where there is none.
-/

namespace StoreAccess.Text

/-- What a form of escaped text escapes beyond what every form does. -/
structure EscapeRule where
  singleQuote : Bool
  extending : Bool

namespace EscapeRule

/-- Inside double quotes: single quotes stay, extending characters go. -/
def quoted : EscapeRule where
  singleQuote := false
  extending := true

def inlineFirst : EscapeRule where
  singleQuote := true
  extending := true

def inlineRest : EscapeRule where
  singleQuote := true
  extending := false

end EscapeRule

/-- The code point of a character in braces, in the fewest lower-case hexadecimal digits. -/
def codePointEscape (c : Char) : List Char :=
  ['\\', 'u', '\x7b'] ++ Nat.toDigits 16 c.toNat ++ ['\x7d']

/-- One character under a rule: five characters and the quotes have short escapes, and what would
not show in print is shown by its code point. -/
def escapeChar (rule : EscapeRule) (c : Char) : List Char :=
  if c = '\x00' then ['\\', '0']
  else if c = '\t' then ['\\', 't']
  else if c = '\r' then ['\\', 'r']
  else if c = '\n' then ['\\', 'n']
  else if c = '\\' then ['\\', '\\']
  else if c = '\x22' then ['\\', c]
  else if c = '\x27' && rule.singleQuote then ['\\', c]
  else if rule.extending && isExtending c then codePointEscape c
  else if isUnprintable c || isIgnorable c then codePointEscape c
  else [c]

/-- A text between double quotes. -/
def quote (text : String) : String :=
  String.ofList ('\x22' :: text.toList.flatMap (escapeChar .quoted) ++ ['\x22'])

/-- A text to stand inside a message between quotes of either kind. -/
def inline : String → String := fun text =>
  match text.toList with
  | [] => ""
  | c :: cs =>
    String.ofList (escapeChar .inlineFirst c ++ cs.flatMap (escapeChar .inlineRest))

end StoreAccess.Text
