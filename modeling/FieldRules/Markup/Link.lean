import FieldRules.Markup.Entity

/-!
# Links that are kept

A link is kept if it names one of the allowed schemes, or no scheme at all. What counts is the link
in its plainest form: references expanded, only visible ASCII characters, letters in lower case.
-/

namespace FieldRules.Markup

/-- The schemes that links may have. -/
def allowedSchemes : List String := ["http", "https", "mailto"]

/-- A character that does not count in a link: only visible ASCII characters do, but no grave
    accents. -/
def isIgnoredInLink (c : Char) : Bool := c = '\x60' || c.toNat ≤ 32 || 127 ≤ c.toNat

/-- A link as it is taken. -/
def plainLink (value : String) : List Char :=
  ((expandAll value.toList).filter fun c => !isIgnoredInLink c).map Char.toLower

/-- A character of a scheme. -/
def isSchemeChar (c : Char) : Bool := c.isAlphanum || c = '+' || c = '-' || c = '.'

/-- The scheme of a link and what follows it. A number after the colon belongs to a host, and then
    what stands before it is no scheme. -/
def splitScheme (link : List Char) : Option (List Char) × List Char :=
  let scheme := link.takeWhile (· ≠ ':')
  match link.drop scheme.length with
  | ':' :: rest =>
    if !scheme.isEmpty && scheme.all isSchemeChar && (rest.isEmpty || !rest.all Char.isDigit) then
      (some scheme, rest)
    else (none, link)
  | _ => (none, link)

/-- Whether the host part of a link, if it has one, can be read. -/
def hasReadableHost (afterScheme : List Char) : Bool :=
  match afterScheme with
  | '/' :: '/' :: rest =>
    let host := rest.takeWhile fun c => c ≠ '/' && c ≠ '?' && c ≠ '#'
    host.contains '[' == host.contains ']'
  | _ => true

/-- Whether a link is kept. -/
def isAllowedLink (value : String) : Bool :=
  let (scheme, rest) := splitScheme (plainLink value)
  hasReadableHost rest &&
    match scheme with
    | some scheme => String.ofList scheme ∈ allowedSchemes
    | none => true

end FieldRules.Markup
