import FieldRules.Text
import FieldRules.Value.Display

/-!
# Authorities

The authority of an address names a host. A host in brackets has to be numbered by an address of the
sixth version, or to say that it is of a later one; and no character may stand for one of the signs
that divide an address.
-/

namespace FieldRules.Settings

/-- What is wrong with an authority. -/
inductive AuthorityFault where
  /-- There is a bracket of only one kind. -/
  | lopsided
  /-- A host of a later version is not written as one. -/
  | notLater
  /-- A host in brackets is no address. -/
  | notNumbered (host : String)
  /-- A host in brackets is an address of the fourth version. -/
  | shortNumber
  /-- A character stands for a sign that divides an address. -/
  | hiddenSign (authority : String)
  deriving DecidableEq, Repr

/-- The wording of what is wrong with an authority. -/
def AuthorityFault.message : AuthorityFault → String
  | lopsided => "Invalid IPv6 URL"
  | notLater => "IPvFuture address is invalid"
  | notNumbered host => s!"{Quoted.ofText host} does not appear to be an IPv4 or IPv6 address"
  | shortNumber => "An IPv4 address cannot be in brackets"
  | hiddenSign authority =>
    s!"netloc '{authority}' contains invalid characters under NFKC normalization"

namespace Authority

/-- A byte in decimal digits. -/
def isByte (s : List Char) : Bool :=
  !s.isEmpty && s.all Char.isDigit && s.length ≤ 3 && (s = ['0'] || s.head? ≠ some '0') &&
    s.foldl (fun n c => 10 * n + (c.toNat - 48)) 0 ≤ 255

/-- An address of the fourth version: four bytes. -/
def isFourth (s : List Char) : Bool :=
  let parts := Text.cut '.' s
  parts.length = 4 && parts.all isByte

/-- A part of an address of the sixth version. -/
def isPair (s : List Char) : Bool :=
  !s.isEmpty && s.length ≤ 4 && s.all fun c => (hexValue? c).isSome

/-- Whether parts make eight pairs, if one gap among them stands for those that are left out. A gap
    at an end is an empty part of its own. -/
def arePairs (parts : List (List Char)) : Bool :=
  match (parts.zipIdx.dropLast.drop 1).filter fun part => part.1.isEmpty with
  | [] => parts.length = 8 && parts.all isPair
  | [(_, gap)] =>
    let before := parts.take gap
    let after := parts.drop (gap + 1)
    let before := if before = [[]] then [] else before
    let after := if after = [[]] then [] else after
    before.length + after.length < 8 && before.all isPair && after.all isPair
  | _ => false

/-- An address of the sixth version; its end may be one of the fourth, and a zone may follow. -/
def isSixth (s : List Char) : Bool :=
  let (number, zone) := s.span (· ≠ '%')
  let parts := Text.cut ':' number
  let last := parts.getLastD []
  let isZoned := zone.isEmpty || (zone.length ≠ 1 && '%' ∉ zone.drop 1)
  let pairs := if '.' ∈ last then parts.dropLast ++ [['0'], ['0']] else parts
  isZoned && 3 ≤ parts.length && ('.' ∉ last || isFourth last) && pairs.length ≤ 9 && arePairs pairs

/-- A host of a later version. -/
def isLater (s : List Char) : Bool :=
  let (version, rest) := (s.drop 1).span fun c => (hexValue? c).isSome
  !version.isEmpty && rest.head? = some '.' && rest.length ≠ 1

/-- The characters that stand for signs that divide an address. -/
def hiddenSigns : List Char :=
  [0x2047, 0x2048, 0x2049, 0x2100, 0x2101, 0x2105, 0x2106, 0x2A74, 0xFE13, 0xFE16, 0xFE55, 0xFE56,
   0xFE5F, 0xFE6B, 0xFF03, 0xFF0F, 0xFF1A, 0xFF1F, 0xFF20].map Char.ofNat

/-- What is wrong with a host in brackets. -/
def hostFault? (host : List Char) : Option AuthorityFault :=
  if host.head? = some 'v' then if isLater host then none else some .notLater
  else if isFourth host then some .shortNumber
  else if isSixth host then none
  else some (.notNumbered (String.ofList host))

/-- The host in brackets, if there is one. -/
def bracketed? (authority : List Char) : Option (List Char) :=
  if '[' ∈ authority then some (((authority.dropWhile (· ≠ '[')).drop 1).takeWhile (· ≠ ']'))
  else none

/-- What is wrong with an authority. -/
def fault? (authority : List Char) : Option AuthorityFault :=
  if ('[' ∈ authority) != (']' ∈ authority) then some .lopsided
  else
    ((bracketed? authority).bind hostFault?).orElse fun _ =>
      if authority.any (· ∈ hiddenSigns) then some (.hiddenSign (String.ofList authority)) else none

end Authority

end FieldRules.Settings
