import FieldRules.Settings.Authority
import FieldRules.Settings.Percent

/-!
# Locations

A location says where a table of templates is found: in a file, by its path or by a `file` address,
or on a remote server.
-/

namespace FieldRules.Settings

/-- Where something is found. -/
inductive Location where
  | path (written : String)
  | file (path : String)
  | remote (uri : String)
  | unsupported (scheme uri : String)
  | malformed (fault : AuthorityFault)
  deriving DecidableEq, Repr

namespace Location

/-- A character that an address cannot begin with. -/
def isLeadingBlank (c : Char) : Bool := c.toNat ≤ 0x20

/-- A character that is left out of an address. -/
def isLeftOut (c : Char) : Bool := c = '\t' || c = '\r' || c = '\n'

/-- A character of a scheme. -/
def isSchemeChar (c : Char) : Bool := c.isAlphanum || c = '+' || c = '-' || c = '.'

/-- The scheme of an address in lower case, and what follows it. -/
def schemeOf (s : List Char) : Option (List Char × List Char) :=
  let scheme := s.takeWhile (· ≠ ':')
  if scheme.length < s.length && (scheme.head?.map Char.isAlpha).getD false &&
      scheme.all isSchemeChar then
    some (scheme.map Char.toLower, s.drop (scheme.length + 1))
  else none

/-- The authority of an address behind its scheme, and what follows it. -/
def authorityOf : List Char → List Char × List Char
  | '/' :: '/' :: s => s.span fun c => !(c = '/' || c = '?' || c = '#')
  | s => ([], s)

/-- The path of what follows the authority, without a query and a fragment. -/
def pathOf (s : List Char) : String :=
  Percent.unescape (String.ofList (s.takeWhile fun c => !(c = '?' || c = '#')))

/-- The schemes of remote servers. -/
def remoteSchemes : List (List Char) := ["http".toList, "https".toList]

/-- Reads a location. Without a scheme it is a path. -/
def read (written : String) : Location :=
  let s := (written.toList.dropWhile isLeadingBlank).filter fun c => !isLeftOut c
  let (authority, rest) := authorityOf (((schemeOf s).map (·.2)).getD s)
  match Authority.fault? authority, schemeOf s with
  | some fault, _ => .malformed fault
  | none, none => .path written
  | none, some (scheme, _) =>
    if scheme = "file".toList then .file (pathOf rest)
    else if scheme ∈ remoteSchemes then .remote written
    else .unsupported (String.ofList scheme) written

end Location

end FieldRules.Settings
