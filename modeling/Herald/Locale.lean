import Herald.Text.Blank
import Herald.Text.Split

/-!
# Herald.Locale

Locales in the form `language_REGION`.

* `canonicalize?`: the canonical form of a text that names a locale.
* `Locale.IsCanonical`: the texts in canonical form.
* `Locales`: the default locale of a deployment, and the locale that a request asks for.
-/

namespace Herald

namespace Locale

def isLetter (c : Char) : Bool := c.isAlpha

def isSeparator (c : Char) : Bool := c = '_' || c = '-'

def isLanguage (cs : List Char) : Bool :=
  (cs.length = 2 || cs.length = 3) && cs.all isLetter

def isRegion (cs : List Char) : Bool :=
  2 ≤ cs.length && cs.length ≤ 4 && cs.all isLetter

def join (language region : List Char) : List Char :=
  language.map Char.toLower ++ '_' :: region.map Char.toUpper

/-- The canonical form of a text without blanks around it. Without a region the language stands in
for it. -/
def canonicalizeChars? (cs : List Char) : Option (List Char) :=
  match Text.cutAt isSeparator cs with
  | none => if isLanguage cs then some (join cs cs) else none
  | some (language, region) =>
    if isLanguage language && isRegion region then some (join language region) else none

/-- The canonical form of a text that names a locale. Blanks around it do not matter. -/
def canonicalize? (raw : String) : Option String :=
  (canonicalizeChars? (Text.trimChars raw.toList)).map String.ofList

/-- A canonical locale: two or three small letters, `_`, and two to four capital letters. -/
def IsCanonical (s : String) : Prop :=
  ∃ language region : List Char,
    s.toList = language ++ '_' :: region ∧
    (2 ≤ language.length ∧ language.length ≤ 3) ∧ (∀ c ∈ language, 'a' ≤ c ∧ c ≤ 'z') ∧
    (2 ≤ region.length ∧ region.length ≤ 4) ∧ ∀ c ∈ region, 'A' ≤ c ∧ c ≤ 'Z'

def fallback : String := "en_US"

end Locale

/-- The locale that a deployment uses by default, in canonical form. -/
structure Locales where
  default : String
  deriving DecidableEq, Repr

namespace Locales

def ofConfigured (configured : String) : Locales :=
  ⟨(Locale.canonicalize? configured).getD Locale.fallback⟩

/-- The locale that a text asks for: its canonical form, or else the default locale. -/
def normalize (l : Locales) (raw : String) : String :=
  (Locale.canonicalize? raw).getD l.default

def isDefault (l : Locales) (raw : String) : Bool := l.normalize raw = l.default

end Locales

end Herald
