import DispatchAudit.Text.WordTable

/-!
# Word characters and names

A name is a run of word characters, and a run is always taken as long as it goes, so the text
after a name never continues it.
-/

namespace DispatchAudit.Text

/-- Whether an ASCII character is a letter, a digit or an underscore. -/
def isAsciiWord (c : Char) : Bool := c.isAlphanum || c == '_'

def isWord (c : Char) : Bool :=
  if c.toNat < 0x80 then isAsciiWord c else inTable wordTable c

/-- The word that the text begins with, which is empty if the text begins otherwise. -/
def leadingWord (text : List Char) : List Char := text.takeWhile isWord

def afterWord (text : List Char) : List Char := text.dropWhile isWord

theorem leadingWord_append_afterWord (text : List Char) :
    leadingWord text ++ afterWord text = text :=
  List.takeWhile_append_dropWhile

theorem isWord_of_mem_leadingWord {c : Char} {text : List Char} (h : c ∈ leadingWord text) :
    isWord c = true := by
  have hall := List.all_takeWhile (p := isWord) (l := text)
  exact List.all_eq_true.mp hall c h

/-- The text after a word does not begin with a word character. -/
theorem isWord_head_afterWord {c : Char} {text rest : List Char}
    (h : afterWord text = c :: rest) : isWord c = false := by
  have hne : afterWord text ≠ [] := by simp [h]
  have hc : (afterWord text).head hne = c := by simp [h]
  rw [← hc]
  simpa [afterWord] using List.head_dropWhile_not isWord (l := text) hne

end DispatchAudit.Text
