import FieldRules.Template.Numeral

/-!
# What placeholders speak of

A placeholder starts from a value and can go into it: to the items of lists and mappings, to the
parts of numbers, and to the kind of a value with the name of the kind.
-/

namespace FieldRules.Template

/-- What a placeholder speaks of. -/
inductive Subject where
  | value (v : Value)
  /-- The kind of a value. -/
  | kind (name : String)
  /-- A row of kinds. -/
  | kinds (names : List String)

namespace Subject

/-- The kind of all kinds. -/
def kindOfKinds : String := "type"

/-- The most general kind. -/
def anyKind : String := "object"

/-- The kinds that a kind is a case of, itself first. -/
def lineage (kind : String) : List String :=
  if kind = anyKind then [kind]
  else if kind = (Value.bool true).kindName then [kind, (Value.int 0).kindName, anyKind]
  else [kind, anyKind]

/-- The name of a subject's kind. -/
def kindName : Subject → String
  | value v => v.kindName
  | kind _ => kindOfKinds
  | kinds _ => "tuple"

/-- A kind as it is shown. -/
def showKind (name : String) : String := s!"<class '{name}'>"

/-- The subject in the form that tells texts apart from other values. -/
def display : Subject → String
  | value v => v.display
  | kind name => showKind name
  | kinds [name] => "(" ++ showKind name ++ ",)"
  | kinds names => "(" ++ String.intercalate ", " (names.map showKind) ++ ")"

/-- The text that a subject stands for. -/
def toText : Subject → String
  | value v => v.toText
  | s => s.display

/-! ## Parts -/

/-- The parts of a whole number as a fraction and as a complex number. -/
def intPart? (n : Int) (name : String) : Option Int :=
  if name = "real" || name = "numerator" then some n
  else if name = "imag" then some 0
  else if name = "denominator" then some 1
  else none

/-- The part of a subject that has a name. -/
def attribute? (s : Subject) (name : String) : Option Subject :=
  if name = "__class__" then some (.kind s.kindName)
  else match s with
    | value (.int n) => (intPart? n name).map fun n => .value (.int n)
    | value (.bool b) => (intPart? (if b then 1 else 0) name).map fun n => .value (.int n)
    | value (.float x) =>
      if name = "real" then some (.value (.float x))
      else if name = "imag" then some (.value (.float (.finite false 0 Binary64.leastExponent)))
      else none
    | kind k =>
      if name = "__name__" || name = "__qualname__" then some (.value (.text k))
      else if name = "__module__" then some (.value (.text "builtins"))
      else if name = "__mro__" then some (.kinds (lineage k))
      else if name = "__bases__" then some (.kinds ((lineage k).drop 1 |>.take 1))
      else if name = "__base__" then
        some (match (lineage k).drop 1 with
          | base :: _ => .kind base
          | [] => .value .null)
      else none
    | _ => none

/-- How a subject is called when it lacks a part. -/
def owner : Subject → String
  | kind name => s!"type object '{name}'"
  | s => s!"'{s.kindName}' object"

/-- The item of a subject under a number. -/
def itemAt (s : Subject) (i : Nat) : Except Fault Subject :=
  match s with
  | value (.text t) => match t.toList[i]? with
    | some c => .ok (.value (.text (String.ofList [c])))
    | none => .error (.noSuchItem "string")
  | value (.list items) => match items[i]? with
    | some item => .ok (.value item)
    | none => .error (.noSuchItem "list")
  | kinds names => match names[i]? with
    | some name => .ok (.kind name)
    | none => .error (.noSuchItem "tuple")
  | value (.map _) => .error (.noSuchKey (toString i))
  | s => .error (.notSubscriptable s.kindName)

/-- The item of a subject under a name. -/
def itemNamed (s : Subject) (name : String) : Except Fault Subject :=
  match s with
  | value (.text _) => .error .textIndexedByName
  | value (.list _) => .error (.indexedByName "list")
  | kinds _ => .error (.indexedByName "tuple")
  | value (.map entries) => match Entries.get? entries name with
    | some item => .ok (.value item)
    | none => .error (.noSuchKey (Quoted.ofText name))
  | s => .error (.notSubscriptable s.kindName)

/-! ## Writing -/

/-- Writes a subject as its placeholder asks for. -/
def lay (s : Subject) (whole : List Char) : Except Fault (List Char) :=
  if whole.isEmpty then .ok s.toText.toList
  else match s with
    | value v@(.text t) => do
      let spec ← Spec.read v.kindName (some 's') false whole
      match spec.code with
      | none | some 's' => spec.layText t.toList
      | some c => throw (.unknownCode c v.kindName)
    | value v@(.int n) => layInt v.kindName n whole
    | value v@(.bool b) => layInt v.kindName (if b then 1 else 0) whole
    | value v@(.float x) => layFloat v.kindName x whole
    | s => .error (.specUnsupported s.kindName)

end Subject

end FieldRules.Template
