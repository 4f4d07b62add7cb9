import Herald.Json.Record
import Herald.Locale
import Herald.Text.Alphanumeric
import Herald.Text.ContentType

/-!
# Herald.Template.Basic

Templates of notifications.

* `Template`: the texts of a notification with their placeholders, in one locale.
* `Template.defect?`: the first reason not to accept a template.
* `Template.normalized`: the template with the defaults of its content type filled in.
* `Template.toJson`, `ofJson?`: the JSON form.
-/

namespace Herald

structure Template where
  templateType : String
  displayName : String := ""
  locale : String
  contentType : String := ContentType.plainText
  subject : Option String := none
  body : String
  footer : Option String := none
  deriving DecidableEq, Repr

inductive Template.Defect where
  | typeLength
  | typeCharacter (templateType : String)
  | locale (locale : String)
  /-- The body says nothing. -/
  | emptyBody (templateType locale : String)
  deriving DecidableEq, Repr

def Template.Defect.message : Template.Defect → String
  | typeLength => "Template type must be 1-128 characters"
  | typeCharacter t =>
    "Template type '" ++ t ++ "' must contain only alphanumeric, dash, dot, or underscore"
  | locale l => "Locale '" ++ l ++ "' is not in language_COUNTRY form"
  | emptyBody t l => "Template '" ++ t ++ "' (" ++ l ++ ") has an empty body"

namespace Template

/-- The longest template type, in bytes. -/
def maxTypeSize : Nat := 128

def isTypeChar (c : Char) : Bool := Text.isAlphanumeric c || c = '-' || c = '_' || c = '.'

/-- The first defect of a template: of its type, then of its locale, then of its body. -/
def defect? (t : Template) : Option Defect :=
  if t.templateType.utf8ByteSize = 0 || maxTypeSize < t.templateType.utf8ByteSize then
    some .typeLength
  else if !t.templateType.toList.all isTypeChar then some (.typeCharacter t.templateType)
  else if Locale.canonicalize? t.locale ≠ some t.locale then some (.locale t.locale)
  else if Text.isBlankText t.body then some (.emptyBody t.templateType t.locale)
  else none

def valid (t : Template) : Bool := t.defect?.isNone

def normalized (t : Template) : Template :=
  { t with contentType := ContentType.normalize t.contentType }

def fieldNames : List String :=
  ["template_type", "display_name", "locale", "content_type", "subject", "body", "footer"]

/-- The members of the JSON form. Absent parts are left out. -/
def members (t : Template) : List (String × Json) :=
  [("template_type", .str t.templateType), ("display_name", .str t.displayName),
    ("locale", .str t.locale), ("content_type", .str t.contentType)]
  ++ Json.member? "subject" t.subject ++ [("body", .str t.body)]
  ++ Json.member? "footer" t.footer

def toJson (t : Template) : Json := .obj t.members

def ofRecord? (r : Json.Record) : Option Template := do
  let templateType ← r.required "template_type" Json.string?
  let displayName ← r.withDefault "display_name" "" Json.string?
  let locale ← r.required "locale" Json.string?
  let contentType ← r.withDefault "content_type" ContentType.plainText Json.string?
  let subject ← r.optional "subject" Json.string?
  let body ← r.required "body" Json.string?
  let footer ← r.optional "footer" Json.string?
  return { templateType, displayName, locale, contentType, subject, body, footer }

def ofJson? (v : Json) : Option Template := (Json.Record.read? fieldNames v).bind ofRecord?

end Template

end Herald
