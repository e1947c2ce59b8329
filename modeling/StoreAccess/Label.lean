import StoreAccess.Error

/-!
# Labels

A label is a text meant to name something. `Label.ofText` refuses a blank text. A stored label is
taken as it was written, so a `Label` alone does not promise that its text is not blank.
-/

namespace StoreAccess

/-- A text that names something. -/
structure Label where
  text : String
  deriving DecidableEq, Repr

/-- A new label, which must not be blank. -/
def Label.ofText (text : String) : Except AccessError Label :=
  (requireName text).map Label.mk

end StoreAccess
