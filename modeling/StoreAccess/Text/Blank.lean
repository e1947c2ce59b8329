import StoreAccess.Text.CodeRange

/-!
# Blank text and control characters

White space is the property `White_Space`, which has more members than the ASCII blanks, and a
control character is one of general category `Cc`. A text is blank when white space is all it
has; trimming takes the white space off both ends.

Main statements: `isBlank_iff`, and `trim_eq_empty_iff`, that exactly the blank texts are trimmed
to nothing.
-/

namespace StoreAccess.Text

/-- The ranges of the property `White_Space`. -/
def whiteSpaceRanges : List CodeRange :=
  [⟨0x9, 0xD⟩, ⟨0x20, 0x20⟩, ⟨0x85, 0x85⟩, ⟨0xA0, 0xA0⟩, ⟨0x1680, 0x1680⟩, ⟨0x2000, 0x200A⟩,
    ⟨0x2028, 0x2029⟩, ⟨0x202F, 0x202F⟩, ⟨0x205F, 0x205F⟩, ⟨0x3000, 0x3000⟩]

/-- The ranges of the general category `Cc`. -/
def controlRanges : List CodeRange := [⟨0x0, 0x1F⟩, ⟨0x7F, 0x9F⟩]

def isWhiteSpace (c : Char) : Bool := CodeRange.covers whiteSpaceRanges c

def isControl (c : Char) : Bool := CodeRange.covers controlRanges c

/-- A text without any character but white space. The empty text is blank. -/
def isBlank (text : String) : Bool := text.toList.all isWhiteSpace

theorem isBlank_iff {text : String} :
    isBlank text = true ↔ ∀ c ∈ text.toList, isWhiteSpace c = true := by
  simp [isBlank]

/-! ## Trimming -/

/-- The characters without the white space at either end. -/
def trimmed (cs : List Char) : List Char :=
  ((cs.dropWhile isWhiteSpace).reverse.dropWhile isWhiteSpace).reverse

def trim (text : String) : String := String.ofList (trimmed text.toList)

theorem dropWhile_eq_nil_iff {p : Char → Bool} {cs : List Char} :
    cs.dropWhile p = [] ↔ ∀ c ∈ cs, p c = true := by
  induction cs with
  | nil => simp
  | cons c cs ih => by_cases h : p c <;> simp [h, ih]

theorem trimmed_eq_nil_iff {cs : List Char} :
    trimmed cs = [] ↔ ∀ c ∈ cs, isWhiteSpace c = true := by
  constructor
  · intro h
    have hback : (cs.dropWhile isWhiteSpace).reverse.dropWhile isWhiteSpace = [] := by
      simpa [trimmed] using h
    have hdrop : cs.dropWhile isWhiteSpace = [] := by
      by_cases hnil : cs.dropWhile isWhiteSpace = []
      · exact hnil
      · have hhead := List.head_dropWhile_not isWhiteSpace hnil
        have := dropWhile_eq_nil_iff.1 hback ((cs.dropWhile isWhiteSpace).head hnil) (by simp)
        simp [this] at hhead
    exact dropWhile_eq_nil_iff.1 hdrop
  · intro h
    simp [trimmed, dropWhile_eq_nil_iff.2 h]

theorem trim_eq_empty_iff {text : String} : trim text = "" ↔ isBlank text = true := by
  rw [isBlank_iff, ← trimmed_eq_nil_iff, trim]
  simp

end StoreAccess.Text
