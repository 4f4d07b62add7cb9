import Herald.Error
import Herald.Table
import Herald.Template.Basic
import Herald.Template.Scope

/-!
# Herald.Store.Basic

Stored templates.

* `Store`: templates by scope, path and locale.
* `Store.create`, `update`, `remove`: the writes; each says what it did or why it did nothing.
* `Store.getTemplate`, `listTemplates`, `listTemplateTypes`: the reads.
-/

namespace Herald

structure RowKey where
  scope : Scope
  path : String
  locale : String
  deriving DecidableEq, Repr

def RowKey.display (k : RowKey) : String :=
  k.scope.display ++ " " ++ k.path ++ " (" ++ k.locale ++ ")"

def Template.rowKey (t : Template) (scope : Scope) (channel : Channel) : RowKey :=
  ⟨scope, channel.templatePath t.templateType, t.locale⟩

structure Store where
  rows : Table RowKey Template := Table.empty

def isBelow (base path : String) : Bool :=
  match Text.after? base.toList path.toList with
  | some ('/' :: _ :: _) => true
  | _ => false

/-- Whether one template is listed before another: by type, then by locale. -/
def Template.listedBefore (a b : Template) : Bool :=
  a.templateType < b.templateType || a.templateType = b.templateType && a.locale ≤ b.locale

namespace Store

def empty : Store := {}

instance : Inhabited Store := ⟨empty⟩

def size (s : Store) : Nat := s.rows.size

/-- Adds a template. It has to be valid, and its place free. -/
def create (s : Store) (scope : Scope) (channel : Channel) (t : Template) :
    Except StoreError Store :=
  match t.defect? with
  | some d => .error (.invalid (EngineError.invalidTemplate d.message).message)
  | none =>
    let key := t.rowKey scope channel
    match s.rows.get? key with
    | some _ => .error (.alreadyExists key.display)
    | none => .ok ⟨s.rows.insert key t⟩

/-- Replaces a template and gives back the one replaced. The new one has to be valid, and its place
taken. -/
def update (s : Store) (scope : Scope) (channel : Channel) (t : Template) :
    Except StoreError (Template × Store) :=
  match t.defect? with
  | some d => .error (.invalid (EngineError.invalidTemplate d.message).message)
  | none =>
    let key := t.rowKey scope channel
    match s.rows.get? key with
    | some old => .ok (old, ⟨s.rows.insert key t⟩)
    | none => .error (.notFound key.display)

def remove (s : Store) (scope : Scope) (channel : Channel) (templateType locale : String) :
    Except StoreError (Template × Store) :=
  let key : RowKey := ⟨scope, channel.templatePath templateType, locale⟩
  match s.rows.get? key with
  | some old => .ok (old, ⟨s.rows.erase key⟩)
  | none => .error (.notFound key.display)

def getTemplate (s : Store) (scope : Scope) (path locale : String) : Option Template :=
  s.rows.get? ⟨scope, path, locale⟩

def templatesBelow (s : Store) (scope : Scope) (base : String) : List Template :=
  (s.rows.entries.filter fun e => e.1.scope = scope && isBelow base e.1.path).map Prod.snd

/-- The templates of a scope below a base path, by type and locale. -/
def listTemplates (s : Store) (scope : Scope) (base : String) : List Template :=
  (s.templatesBelow scope base).mergeSort Template.listedBefore

/-- The types of a tenant's own templates below a base path, in order, each once. -/
def listTemplateTypes (s : Store) (base tenant : String) : List String :=
  Ordered.distinct ((s.templatesBelow (.tenant tenant) base).map Template.templateType)

end Store

end Herald
