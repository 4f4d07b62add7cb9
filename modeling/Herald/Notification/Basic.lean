import Herald.Channel.Basic
import Herald.Placeholders
import Herald.Timestamp
import Herald.Uuid
import Herald.Json.Record

/-!
# Herald.Notification.Basic

Notifications, asked for and rendered.

* `NotificationRequest`: what is needed to find and render one.
* `Notification`: a rendered one, ready for delivery.
* `Notification.toJson`, `ofJson?`: its JSON form.
-/

namespace Herald

structure NotificationRequest where
  tenant : String
  application : Option String := none
  channel : Channel
  templateType : String
  locale : String := ""
  placeholders : Placeholders := Placeholders.empty
  sendTo : String
  sendFrom : Option String := none

/-- What tells one rendering from another: an identifier and the time. -/
structure Stamp where
  id : Uuid
  createdAt : Timestamp
  deriving DecidableEq, Repr

structure Notification where
  stamp : Stamp
  channel : Channel
  templateType : String
  locale : String
  contentType : String
  sendTo : String
  sendFrom : Option String
  subject : Option String
  body : String
  footer : Option String
  deriving DecidableEq, Repr

namespace Notification

/-- The members of the JSON form after the stamp. Absent parts are left out. -/
def contentMembers (n : Notification) : List (String × Json) :=
  [("channel", n.channel.toJson), ("template_type", .str n.templateType),
    ("locale", .str n.locale), ("content_type", .str n.contentType), ("send_to", .str n.sendTo)]
  ++ Json.member? "send_from" n.sendFrom ++ Json.member? "subject" n.subject
  ++ [("body", .str n.body)] ++ Json.member? "footer" n.footer

def toJson (n : Notification) : Json :=
  .obj ([("id", .str n.stamp.id.text), ("created_at", .str n.stamp.createdAt.text)]
    ++ n.contentMembers)

def fieldNames : List String :=
  ["id", "created_at", "channel", "template_type", "locale", "content_type", "send_to",
    "send_from", "subject", "body", "footer"]

def ofJson? (v : Json) : Option Notification := do
  let r ← Json.Record.read? fieldNames v
  let id ← r.required "id" fun v => v.string?.bind Uuid.read?
  let createdAt ← r.required "created_at" fun v => v.string?.bind Timestamp.read?
  let channel ← r.required "channel" Channel.ofJson?
  let templateType ← r.required "template_type" Json.string?
  let locale ← r.required "locale" Json.string?
  let contentType ← r.required "content_type" Json.string?
  let sendTo ← r.required "send_to" Json.string?
  let sendFrom ← r.nullable "send_from" Json.string?
  let subject ← r.nullable "subject" Json.string?
  let body ← r.required "body" Json.string?
  let footer ← r.nullable "footer" Json.string?
  return { stamp := ⟨id, createdAt⟩, channel, templateType, locale, contentType, sendTo,
           sendFrom, subject, body, footer }

end Notification

end Herald
