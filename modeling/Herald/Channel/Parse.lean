import Herald.Error
import Herald.Text.Blank

/-!
# Herald.Channel.Parse

Channels as people write them: in any case, with blanks around them; and channels as paths name
them.
-/

namespace Herald.Channel

/-- The channel that a text names. Case and outer blanks do not matter. -/
def parse (s : String) : Except EngineError Channel :=
  let name := String.ofList ((Text.trimChars s.toList).map Char.toLower)
  match ofName? name with
  | some c => .ok c
  | none => .error (.invalidChannel name)

def ofPath (path : String) : Except EngineError Channel :=
  match ofPath? path with
  | some c => .ok c
  | none => .error (.invalidChannel ("unknown template path " ++ path))

end Herald.Channel
