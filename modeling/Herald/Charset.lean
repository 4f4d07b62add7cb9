import Herald.Percent
import Herald.Text.Blank
import Herald.Text.Quoted

/-!
# Herald.Charset

Charsets in which values are encoded for use in addresses.

* `Charset`: UTF-8 and ISO-8859-1.
* `Charset.bytes?`: a text in a charset.
* `Charset.encode`: a text in a charset, percent-encoded.
-/

namespace Herald

inductive EncodingError where
  | unknownCharset (name : String)
  | unusableCharset (placeholder charset : String)
  /-- A value has a character outside ISO-8859-1. -/
  | outsideLatin1 (value : String)
  deriving DecidableEq, Repr

def EncodingError.message : EncodingError → String
  | unknownCharset name => "Unsupported URL encoding charset: " ++ name
  | unusableCharset placeholder charset =>
    "Cannot encode placeholder '" ++ placeholder ++ "': unsupported charset " ++ charset
  | outsideLatin1 value => "Value is not representable in ISO-8859-1: " ++ Text.quote value

inductive Charset where
  | utf8
  | latin1
  deriving DecidableEq, Repr

namespace Charset

def ofName? : String → Option Charset
  | "utf-8" | "utf8" => some utf8
  | "iso-8859-1" | "iso8859-1" | "latin1" => some latin1
  | _ => none

/-- The charset that a text names. Case and outer blanks do not matter. -/
def parse (s : String) : Except EncodingError Charset :=
  let name := String.ofList ((Text.trimChars s.toList).map Char.toLower)
  match ofName? name with
  | some c => .ok c
  | none => .error (.unknownCharset name)

/-- The byte of a character in ISO-8859-1. -/
def latin1Byte? (c : Char) : Option UInt8 :=
  if c.toNat < 256 then some (UInt8.ofNat c.toNat) else none

/-- The bytes of a text, none if the charset lacks one of its characters. -/
def bytes? (cs : List Char) : Charset → Option (List UInt8)
  | utf8 => some (cs.flatMap String.utf8EncodeChar)
  | latin1 => cs.mapM latin1Byte?

/-- A value in a charset, percent-encoded. Only ISO-8859-1 can lack a character. -/
def encode (c : Charset) (value : String) : Except EncodingError String :=
  match c.bytes? value.toList with
  | some bs => .ok (String.ofList (Percent.encode bs))
  | none => .error (.outsideLatin1 value)

end Charset

/-- Encodes values for addresses in a charset of which only the name may be known. -/
structure UrlEncoder where
  label : String
  charset : Option Charset
  deriving DecidableEq, Repr

namespace UrlEncoder

/-- The encoder for a configured charset. An unknown name is reported when a value is encoded. -/
def ofLabel (label : String) : UrlEncoder := ⟨label, (Charset.parse label).toOption⟩

def standard : UrlEncoder := ⟨"UTF-8", some .utf8⟩

def encode (e : UrlEncoder) (placeholder value : String) : Except EncodingError String :=
  match e.charset with
  | some c => c.encode value
  | none => .error (.unusableCharset placeholder e.label)

end UrlEncoder

end Herald
