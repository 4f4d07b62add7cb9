import Herald.Notification.Basic
import Herald.Substitution
import Herald.Template.Basic

/-!
# Herald.Notification.Render

Rendering a template for a channel.

* `RenderFailure`: why a template could not be rendered.
* `Template.renderParts`: the parts that the channel carries, with their values.
* `Template.render`: the notification.
-/

namespace Herald

inductive RenderFailure where
  | encoding (cause : EncodingError)
  | emptyBody (templateType locale : String) (channel : Channel)
  deriving DecidableEq, Repr

namespace RenderFailure

def toError : RenderFailure → EngineError
  | encoding cause => .encoding cause.message
  | emptyBody t l c =>
    .invalidTemplate ("Template '" ++ t ++ "' (" ++ l ++ ") rendered an empty body for " ++ c.name)

/-- The reason under which the failure is counted. -/
def reason : RenderFailure → String
  | encoding cause => (EngineError.encoding cause.message).code
  | emptyBody .. => "empty_body"

end RenderFailure

structure RenderedParts where
  subject : Option String
  body : String
  footer : Option String
  deriving DecidableEq, Repr

namespace Template

/-- The parts that a channel carries, with their values: subject, body and footer in this order. -/
def renderParts (t : Template) (channel : Channel) (encoder : UrlEncoder) (values : Placeholders) :
    Except EncodingError RenderedParts := do
  let subject ← encoder.render? (if channel.rules.subject then t.subject else none) values
  let body ← encoder.render t.body values
  let footer ← encoder.render? (if channel.rules.footer then t.footer else none) values
  return { subject, body, footer }

def contentTypeFor (t : Template) (channel : Channel) : String :=
  if Text.isBlankText t.contentType then channel.rules.contentType
  else ContentType.normalize t.contentType

def render (t : Template) (channel : Channel) (encoder : UrlEncoder) (values : Placeholders)
    (sendTo : String) (sendFrom : Option String) (stamp : Stamp) :
    Except RenderFailure Notification :=
  match t.renderParts channel encoder values with
  | .error cause => .error (.encoding cause)
  | .ok parts =>
    if Text.isBlankText parts.body then .error (.emptyBody t.templateType t.locale channel)
    else
      .ok { stamp, channel, templateType := t.templateType, locale := t.locale,
            contentType := t.contentTypeFor channel, sendTo, sendFrom, subject := parts.subject,
            body := parts.body, footer := parts.footer }

end Template

end Herald
