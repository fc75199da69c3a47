import FieldRules.Pattern.Parser
import FieldRules.Rule.Registry
import FieldRules.Text

/-!
# Rule texts

A rule text lists rules with bars between them; a rule is a name with options in brackets or
without. The first `regex[` of a text opens a pattern that reaches to the last closing bracket of
its line, so that the pattern may have bars, commas and brackets of its own.

Results:
* `append_of_findClose`: a bracket's content, the bracket and what follows it give the text back.
* `append_of_findPattern`: so do the parts of a text with a pattern.
-/

namespace FieldRules.Spec

/-- One rule of a rule text. Model of `ParsedRule`. -/
structure Rule where
  name : String
  options : List String
  isTransform : Bool
  deriving DecidableEq, Repr

/-- The rule whose option is a pattern. -/
def regexRule : String := "regex"

/-! ## Brackets -/

/-- Splits a text at the last closing bracket of its first line. -/
def splitAtLastClose : List Char → Option (List Char × List Char)
  | [] => none
  | c :: rest =>
    if c = '\n' then none
    else
      match splitAtLastClose rest with
      | some (inside, after) => some (c :: inside, after)
      | none => if c = ']' then some ([], rest) else none

/-- The content of a bracket that has been opened, and what follows it. It closes at the last
    closing bracket of the line, and it has some content. -/
def findClose (s : List Char) : Option (List Char × List Char) :=
  match s with
  | [] => none
  | c :: rest =>
    if c = '\n' then none
    else (splitAtLastClose rest).map fun (inside, after) => (c :: inside, after)

theorem append_of_splitAtLastClose {s inside after : List Char}
    (h : splitAtLastClose s = some (inside, after)) : inside ++ ']' :: after = s := by
  induction s generalizing inside with
  | nil => cases h
  | cons c rest ih =>
    rw [splitAtLastClose] at h
    split at h
    · cases h
    · split at h
      · next i a hr => cases h; simp [ih hr]
      · split at h
        · next hc => cases h; simp [hc]
        · cases h

/-- A bracket's content, the bracket and what follows it give the text back. -/
theorem append_of_findClose {s inside after : List Char}
    (h : findClose s = some (inside, after)) : inside ++ ']' :: after = s := by
  cases s with
  | nil => cases h
  | cons c rest =>
    rw [findClose] at h
    split at h
    · cases h
    · simp only [Option.map_eq_some_iff, Prod.mk.injEq] at h
      obtain ⟨⟨i, a⟩, hr, rfl, rfl⟩ := h
      simp [append_of_splitAtLastClose hr]

/-! ## Cutting a text into rules -/

/-- The parts of a text around its first pattern. -/
structure PatternParts where
  before : List Char
  content : List Char
  after : List Char
  deriving DecidableEq, Repr

/-- The word that opens a pattern. -/
def patternOpening : List Char := "regex[".toList

/-- The first pattern of a text. -/
def findPattern : List Char → Option PatternParts
  | [] => none
  | c :: rest =>
    let here :=
      if patternOpening.isPrefixOf (c :: rest) then
        findClose ((c :: rest).drop patternOpening.length)
      else none
    match here with
    | some (content, after) => some ⟨[], content, after⟩
    | none => (findPattern rest).map fun p => { p with before := c :: p.before }

/-- The text of a pattern with its opening and its closing bracket. -/
def PatternParts.segment (p : PatternParts) : List Char := patternOpening ++ p.content ++ [']']

/-- The parts of a text with a pattern give the text back. -/
theorem append_of_findPattern {s : List Char} {p : PatternParts} (h : findPattern s = some p) :
    p.before ++ p.segment ++ p.after = s := by
  induction s generalizing p with
  | nil => cases h
  | cons c rest ih =>
    rw [findPattern] at h
    split at h
    · next content after hc =>
      split at hc
      · next hp =>
        cases h
        obtain ⟨t, ht⟩ := List.isPrefixOf_iff_prefix.1 hp
        rw [← ht, List.drop_left] at hc
        rw [← ht, ← append_of_findClose hc]
        simp [PatternParts.segment]
      · cases hc
    · simp only [Option.map_eq_some_iff] at h
      obtain ⟨q, hq, rfl⟩ := h
      simpa [PatternParts.segment] using ih hq

/-- What stands for a pattern while its text is cut. -/
def mark (stem : List Char) : List Char := "#REGEX".toList ++ stem ++ ['#']

/-- The rules of a text, as they are written. A pattern is taken out before the text is cut at the
    bars, and put back afterwards. Model of `RuleParser.split`. -/
def splitWith (stem s : List Char) : List (List Char) :=
  match findPattern s with
  | none => Text.cut '|' s
  | some p =>
    (Text.cut '|' (Text.replaceFirst p.segment (mark stem) s)).map
      (Text.replaceAll (mark stem) p.segment)

/-- A stem that is no part of a text: it is longer than the text. -/
def freshStem (s : List Char) : List Char := List.replicate (s.length + 1) '0'

/-- The rules of a text, with a mark that is no part of it. -/
def split (s : List Char) : List (List Char) := splitWith (freshStem s) s

/-! ## Reading a rule -/

/-- The name and the options of a rule as it is written. -/
def readRule : List Char → List Char × Option (List Char)
  | [] => ([], none)
  | c :: rest =>
    match if c = '[' then findClose rest else none with
    | some (content, after) => (after, some content)
    | none =>
      let (name, content) := readRule rest
      (c :: name, content)

/-- The options in a bracket; a pattern is one option. -/
def optionsOf (name : String) : Option (List Char) → List String
  | none => []
  | some content =>
    if name = regexRule then [String.ofList content]
    else (Text.cut ',' content).map String.ofList

/-- Whether the first option of a rule is an integer. -/
def checkInteger (fail : SpecCause → Fault) : List String → Except Fault Unit
  | [] => .error (.noOption true)
  | option :: _ =>
    match LeadingInt.read option.toList with
    | .absent => .error (fail (.invalidOption option))
    | .tooLong count => .error (.tooManyDigits count)
    | .value _ => .ok ()

/-- Whether an option is a pattern. -/
def checkPattern (fail : SpecCause → Fault) : List String → Except Fault Unit
  | [] => .error (.noOption true)
  | option :: _ =>
    match Pattern.compile { ignoreCase := true } option.toList with
    | .ok _ => .ok ()
    | .error (.malformed cause position) =>
      .error (fail (.invalidPattern (Pattern.malformedMessage option.toList cause position)))
    | .error fault => .error (.pattern option.toList fault)

/-- Reads one rule of a text, for a field if one is known. Model of `_parse_token`. -/
def parseRule (registry : Registry) (hasTemplate : String → Bool) (field : Option String)
    (token : List Char) : Except Fault Rule := do
  let (written, content) := readRule token
  let name := String.ofList written
  let options := optionsOf name content
  let fail (cause : SpecCause) : Fault := .spec ⟨cause, name, field⟩
  if registry.isTransform name then return ⟨name, options, true⟩
  let some d := registry.get? name | throw (fail .unknownRule)
  if d.requiresOptions && options.isEmpty then throw (fail .missingOptions)
  if d.integerOption then checkInteger fail options
  if name = regexRule then checkPattern fail options
  if !hasTemplate name then throw (fail .missingTemplate)
  return ⟨name, options, false⟩

/-- Reads a rule text that is cut with a mark. Everything that can be wrong with it is found here,
    the first wrong rule first. Model of `RuleParser.parse`. -/
def parseWith (stem : List Char) (registry : Registry) (hasTemplate : String → Bool)
    (field : Option String) (spec : List Char) : Except Fault (List Rule) :=
  (splitWith stem spec).mapM (parseRule registry hasTemplate field)

/-- Reads a rule text. -/
def parse (registry : Registry) (hasTemplate : String → Bool) (field : Option String)
    (spec : List Char) : Except Fault (List Rule) :=
  parseWith (freshStem spec) registry hasTemplate field spec

/-- Reads a rule text that is given as a value. -/
def parseValue (registry : Registry) (hasTemplate : String → Bool) (field : Option String) :
    Value → Except Fault (List Rule)
  | .text s => parse registry hasTemplate field s.toList
  | v => .error (.specNotText v.kindName)

end FieldRules.Spec
