import Herald.Text.Ranges

/-!
# Herald.Text.Blank

Blank characters and trimming. A character is blank when it has the Unicode property White_Space.

* `isBlank`: the class.
* `trim`: a text without the blanks at its two ends.
* `isBlankText`: nothing but blanks, the test for a body that says nothing.
-/

namespace Herald.Text

/-- The characters with the property White_Space. -/
def blankRanges : Ranges := [
  (0x9, 0xd), (0x20, 0x20), (0x85, 0x85), (0xa0, 0xa0), (0x1680, 0x1680), (0x2000, 0x200a),
  (0x2028, 0x2029), (0x202f, 0x202f), (0x205f, 0x205f), (0x3000, 0x3000)]

/-- Whether `c` is blank. -/
def isBlank (c : Char) : Bool := blankRanges.has c

def trimChars (cs : List Char) : List Char :=
  ((cs.dropWhile isBlank).reverse.dropWhile isBlank).reverse

def trim (s : String) : String := String.ofList (trimChars s.toList)

/-- Whether `s` holds blanks only. -/
def isBlankText (s : String) : Bool := s.toList.all isBlank

@[simp] theorem toList_trim (s : String) : (trim s).toList = trimChars s.toList := by
  simp [trim]

end Herald.Text
