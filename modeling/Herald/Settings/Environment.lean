import Herald.Settings.Value

/-!
# Herald.Settings.Environment

Settings from variables of the environment.

* `Environment.Variables`: variables and their values.
* `Environment.value`: the value that a text stands for.
* `Environment.settings`: the variables that start with `TEMPLATE_ENGINE__`, as keys and values.
-/

namespace Herald.Settings.Environment

open Number

abbrev Variables := List (String × String)

def lead : List Char := "template_engine__".toList

def levels : List Char → List Char
  | '_' :: '_' :: r => '.' :: levels r
  | c :: r => c :: levels r
  | [] => []

/-- The key of a variable. Case does not matter. -/
def key? (name : String) : Option String :=
  (Text.after? lead (Text.lowercase name.toList)).map fun r => String.ofList (levels r)

/-- The value of a variable: a truth value, a whole number or a double if it reads as one, else the
text. -/
def value (s : String) : Value :=
  match Value.lower s with
  | "true" => .boolean true
  | "false" => .boolean false
  | _ =>
    match readInt? s with
    | some i => .integer i
    | none =>
      match readDouble? s with
      | some d => .double d
      | none => .text s

def settings (vs : Variables) : List (String × Value) :=
  Ordered.insertAll [] (vs.filterMap fun v => (key? v.1).map (·, value v.2))

end Herald.Settings.Environment
