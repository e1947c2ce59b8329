import StoreAccess.Error

/-!
# Principals

A principal is named by an identifier: not empty, of 256 bytes at most, without white space and
control characters. `Principal` carries that as a proof, so an identifier that is not one
cannot be put where a principal is asked for.

Main statement: `Principal.parse_eq_ok_iff`, that exactly the identifiers are read.
-/

namespace StoreAccess

open Std

inductive Principal.Fault where
  | empty
  | tooLong
  | unclear
  deriving DecidableEq, Repr

/-- The most bytes an identifier may have in UTF-8. -/
def Principal.maxBytes : Nat := 256

/-- What is wrong with a text as an identifier, the first that applies. -/
def Principal.fault? (text : String) : Option Principal.Fault :=
  if text = "" then some .empty
  else if Principal.maxBytes < text.utf8ByteSize then some .tooLong
  else if text.toList.any fun c => Text.isWhiteSpace c || Text.isControl c then some .unclear
  else none

/-- Somebody who asks for access, known by an identifier. -/
structure Principal where
  text : String
  sound : Principal.fault? text = none
  deriving DecidableEq

namespace Principal

def Fault.error (text : String) : Fault → AccessError
  | empty => .invalidPrincipal "principal identifier must not be empty"
  | tooLong => .invalidPrincipal s!"principal identifier exceeds {maxBytes} bytes"
  | unclear =>
    let shown := Text.inline text
    .invalidPrincipal
      s!"principal identifier '{shown}' contains whitespace or control characters"

def parse (text : String) : Except AccessError Principal :=
  match h : fault? text with
  | none => .ok ⟨text, h⟩
  | some fault => .error (fault.error text)

instance : Repr Principal := ⟨fun p => reprPrec p.text⟩

@[ext] theorem ext {p q : Principal} (h : p.text = q.text) : p = q := by
  cases p
  cases q
  simpa using h

theorem parse_text (p : Principal) : parse p.text = .ok p := by
  unfold parse
  split
  · rfl
  · rename_i h
    exact absurd (p.sound ▸ h) (by simp)

theorem parse_eq_ok_iff {text : String} {p : Principal} :
    parse text = .ok p ↔ text = p.text := by
  constructor
  · intro h
    unfold parse at h
    split at h
    · exact congrArg Principal.text (Except.ok.inj h)
    · cases h
  · rintro rfl
    exact parse_text p

/-! ## Order -/

/-- Principals are ordered as their identifiers are, by code points. -/
instance : Ord Principal := ⟨compareOn text⟩

instance : TransOrd Principal := inferInstanceAs (TransCmp (compareOn text))

instance : LawfulEqOrd Principal where
  eq_of_compare {p q} h := by
    have h : compare p.text q.text = .eq := h
    exact ext (LawfulEqCmp.eq_of_compare h)

end Principal

end StoreAccess
