import Herald.Charset
import Herald.Placeholders
import Herald.Tag

/-!
# Herald.Substitution

Putting values in the place of tags. A text is gone through once; what stands in a value is never
looked at again.

* `Segment.fill`: one part of a text with its value.
* `UrlEncoder.render`: a text with its values.
-/

namespace Herald

/-- One part of a text with its value. A tag whose name has no value stays as it is. -/
def Segment.fill (encoder : UrlEncoder) (values : Placeholders) :
    Segment → Except EncodingError (List Char)
  | .char c => .ok [c]
  | .tag t =>
    let name := String.ofList t.name
    match values.get? name with
    | none => .ok t.source
    | some value =>
      if t.encoded then (encoder.encode name value).map String.toList else .ok value.toList

/-- Parts with their values, up to the first that has none it can show. -/
def Segment.fillAll (encoder : UrlEncoder) (values : Placeholders) :
    List Segment → Except EncodingError (List Char)
  | [] => .ok []
  | s :: ss => do
    let front ← s.fill encoder values
    let rest ← fillAll encoder values ss
    return front ++ rest

namespace UrlEncoder

def render (encoder : UrlEncoder) (text : String) (values : Placeholders) :
    Except EncodingError String :=
  (Segment.fillAll encoder values (segments text.toList)).map String.ofList

def render? (encoder : UrlEncoder) (text : Option String) (values : Placeholders) :
    Except EncodingError (Option String) :=
  match text with
  | none => .ok none
  | some t => (encoder.render t values).map some

end UrlEncoder

end Herald
