import Herald.Channel.Basic

/-!
# Herald.Template.Key

What a lookup asks for: a tenant, one of its applications or none, a channel, a type and a locale.
-/

namespace Herald

structure TemplateKey where
  tenant : String
  application : Option String
  channel : Channel
  templateType : String
  locale : String
  deriving DecidableEq, Repr

namespace TemplateKey

def display (k : TemplateKey) : String :=
  k.tenant ++ ":" ++ k.application.getD "-" ++ ":" ++ k.channel.name ++ ":" ++ k.templateType ++
    ":" ++ k.locale

def path (k : TemplateKey) : String := k.channel.templatePath k.templateType

end TemplateKey

end Herald
