import DispatchAudit.Text.CodeRange

/-!
# Blank characters

The blanks are the 25 characters of the Unicode property `White_Space`. Trimming, the free
space in front of an entry and the space between its parts all mean the same set, so a line
cannot be blank for one of them and not for another.
-/

namespace DispatchAudit.Text

/-- The code points of the property `White_Space`. -/
def blankTable : List CodeRange :=
  [⟨0x9, 0xD⟩, ⟨0x20, 0x20⟩, ⟨0x85, 0x85⟩, ⟨0xA0, 0xA0⟩, ⟨0x1680, 0x1680⟩, ⟨0x2000, 0x200A⟩,
   ⟨0x2028, 0x2029⟩, ⟨0x202F, 0x202F⟩, ⟨0x205F, 0x205F⟩, ⟨0x3000, 0x3000⟩]

def isBlank (c : Char) : Bool := inTable blankTable c

def dropBlanks (text : List Char) : List Char := text.dropWhile isBlank

def trim (text : List Char) : List Char :=
  (dropBlanks (dropBlanks text).reverse).reverse

theorem dropBlanks_cons_of_not_blank {c : Char} (hc : isBlank c = false) (text : List Char) :
    dropBlanks (c :: text) = c :: text := by
  simp [dropBlanks, hc]

end DispatchAudit.Text
