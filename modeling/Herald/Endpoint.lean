/-!
# Herald.Endpoint

Addresses to which traces are sent.

* `Endpoint.valid`: whether a text is an absolute address, an authority alone, or a path.
-/

namespace Herald.Endpoint

/-- The most bytes of an address. -/
def maxSize : Nat := 65534

def maxScheme : Nat := 64

def isSchemeChar (c : Char) : Bool :=
  c.isAlphanum || c = '+' || c = '-' || c = '.' || c = '~'

def endsAuthority (c : Char) : Bool := c = '/' || c = '?' || c = '#'

def isAuthorityChar (c : Char) : Bool :=
  c.isAlphanum || "!$&'()*+,-.:;=@[]_~".toList.contains c

structure Scan where
  colons : Nat := 0
  opened : Bool := false
  closed : Bool := false
  percent : Bool := false
  /-- Whether the last character was `@`. -/
  bareUser : Bool := false

/-- One more character. Colons and percent signs within user information or brackets are free. -/
def Scan.push (s : Scan) (c : Char) : Option Scan :=
  let s := { s with bareUser := false }
  if c = ':' then if 8 ≤ s.colons then none else some { s with colons := s.colons + 1 }
  else if c = '[' then if s.percent || s.opened then none else some { s with opened := true }
  else if c = ']' then
    if !s.opened || s.closed then none
    else some { s with closed := true, colons := 0, percent := false }
  else if c = '@' then some { s with colons := 0, percent := false, bareUser := true }
  else if c = '%' then some { s with percent := true }
  else if isAuthorityChar c then some s
  else none

def isAuthority (cs : List Char) : Bool :=
  match cs.foldlM Scan.push {} with
  | none => false
  | some s => s.opened == s.closed && s.colons ≤ 1 && !s.bareUser && !s.percent

def isQueryChar (c : Char) : Bool :=
  0x80 ≤ c.toNat ||
    0x21 ≤ c.toNat && c ≠ '"' && c ≠ '#' && c ≠ '<' && c ≠ '>' && c ≠ '\x7f'

def isPathChar (c : Char) : Bool :=
  c = '"' || isQueryChar c && c ≠ '?' && c ≠ '\x60'

/-- Whether a text is a path with or without a query. A fragment is not looked at. -/
def isPath (cs : List Char) : Bool :=
  let path := cs.takeWhile fun c => c ≠ '?' && c ≠ '#'
  path.all isPathChar &&
    match cs.dropWhile fun c => c ≠ '?' && c ≠ '#' with
    | '?' :: query => (query.takeWhile (· ≠ '#')).all isQueryChar
    | _ => true

/-- What follows a scheme and `://`, if the text starts so. The inner value is missing if the
scheme is too long. -/
def afterScheme? (cs : List Char) : Option (Option (List Char)) :=
  let scheme := cs.takeWhile isSchemeChar
  match cs.dropWhile isSchemeChar with
  | ':' :: '/' :: '/' :: rest => some (if maxScheme < scheme.length then none else some rest)
  | _ => none

def valid (s : String) : Bool :=
  let cs := s.toList
  if maxSize < s.utf8ByteSize then false
  else
    match cs with
    | [] => false
    | ['*'] => true
    | '/' :: _ => isPath cs
    | _ =>
      match afterScheme? cs with
      | none => isAuthority cs
      | some none => false
      | some (some rest) =>
        let authority := rest.takeWhile (!endsAuthority ·)
        authority ≠ [] && isAuthority authority && isPath (rest.dropWhile (!endsAuthority ·))

end Herald.Endpoint
