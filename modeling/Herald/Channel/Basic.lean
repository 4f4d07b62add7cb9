import Herald.Json.Basic
import Herald.Text.Split

/-!
# Herald.Channel.Basic

Delivery channels.

* `Channel`: email, text message, push message.
* `Channel.rules`: which parts of a template a channel carries.
* `Channel.basePath`, `templatePath`: where the templates of a channel are stored.
* `Channel.ofPath?`: the channel of a stored path.
-/

namespace Herald

inductive Channel where
  | email
  | sms
  | push
  deriving DecidableEq, Repr

structure Channel.Rules where
  subject : Bool
  footer : Bool
  contentType : String
  deriving DecidableEq, Repr

namespace Channel

def all : List Channel := [email, sms, push]

def name : Channel → String
  | email => "email"
  | sms => "sms"
  | push => "push"

/-- Only mail has a subject and a footer. -/
def rules : Channel → Rules
  | email => ⟨true, true, "text/plain"⟩
  | sms => ⟨false, false, "text/plain"⟩
  | push => ⟨false, false, "text/plain"⟩

def basePath : Channel → String
  | email => "/identity/email"
  | sms => "/identity/sms"
  | push => "/identity/push"

def templatePath (c : Channel) (templateType : String) : String :=
  c.basePath ++ "/" ++ templateType

def owns (c : Channel) (path : String) : Bool :=
  match Text.after? c.basePath.toList path.toList with
  | some [] => true
  | some ('/' :: _) => true
  | _ => false

def ofPath? (path : String) : Option Channel := all.find? (·.owns path)

def below? (c : Channel) (path : String) : Option String :=
  match Text.after? c.basePath.toList path.toList with
  | some ('/' :: rest) => some (String.ofList rest)
  | _ => none

def ofName? (s : String) : Option Channel := all.find? (·.name = s)

/-- A channel in JSON form: its name, or an object of its name and `null`. -/
def ofJson? : Json → Option Channel
  | .str s => ofName? s
  | .obj [(s, .null)] => ofName? s
  | _ => none

def toJson (c : Channel) : Json := .str c.name

end Channel

end Herald
