import Herald.Text.Blank
import Herald.Text.Split

/-!
# Herald.Text.ContentType

Content types. An empty one means plain text, and one that speaks of HTML but of no charset gets the
charset UTF-8.
-/

namespace Herald.ContentType

/-- The content type of a text without one. -/
def plainText : String := "text/plain"

def charsetParameter : String := "; charset=UTF-8"

/-- Whether a text speaks of something, in any case. -/
def mentions (word : String) (cs : List Char) : Bool :=
  Text.occurs word.toList (cs.map Char.toLower)

def normalize (contentType : String) : String :=
  let cs := Text.trimChars contentType.toList
  if cs = [] then plainText
  else if mentions "html" cs && !mentions "charset" cs then
    String.ofList (cs ++ charsetParameter.toList)
  else String.ofList cs

end Herald.ContentType
