import Herald.Text.Printable

/-!
# Herald.Text.Quoted

A text in double quotes, written so that nothing in it can be mistaken: the quote, the backslash and
the usual control characters have short escapes, every other hidden character is given by its code
point in braces.
-/

namespace Herald.Text

def escapeChar (c : Char) : List Char :=
  if c = '\x00' then ['\\', '0']
  else if c = '\t' then ['\\', 't']
  else if c = '\r' then ['\\', 'r']
  else if c = '\n' then ['\\', 'n']
  else if c = '"' then ['\\', '"']
  else if c = '\\' then ['\\', '\\']
  else if isPrintable c then [c]
  else ['\\', 'u', '{'] ++ Nat.toDigits 16 c.toNat ++ ['}']

/-- `s` in double quotes. -/
def quote (s : String) : String :=
  String.ofList (['"'] ++ s.toList.flatMap escapeChar ++ ['"'])

@[simp] theorem toList_quote (s : String) :
    (quote s).toList = ['"'] ++ s.toList.flatMap escapeChar ++ ['"'] := by
  simp [quote]

end Herald.Text
