/-!
# Arguments of the program

The program takes a path of settings and a switch for notes on what it does. Options may be
shortened as long as only one is meant. The last of several paths counts.
-/

namespace FieldRules.Rpc

/-- What the program is told. -/
structure Arguments where
  isDebug : Bool
  config : Option String
  deriving DecidableEq, Repr

/-- Why the program does not start: it was asked for help, or it was not understood. -/
inductive Exit where
  | help
  | usage
  deriving DecidableEq, Repr

/-- The code that a program ends with. -/
def Exit.code : Exit → Nat
  | help => 0
  | usage => 2

namespace Arguments

/-- An option of the program. -/
inductive Choice where
  | help
  | debug
  | config
  deriving DecidableEq, Repr

/-- An argument: an option with what is attached to it, the end of options, or something else. -/
inductive Word where
  | option (choice : Choice) (attached : Option (List Char))
  | helpWith (letters : List Char)
  | dashes
  | plain (text : String)
  | unknown
  deriving DecidableEq, Repr

/-- The options by their long names. -/
def longNames : List (List Char × Choice) :=
  [("--help".toList, .help), ("--debug".toList, .debug), ("--config".toList, .config)]

/-- The name of an option, and what is attached to it behind an equals sign. -/
def splitAttached (s : List Char) : List Char × Option (List Char) :=
  match s.span (· ≠ '=') with
  | (name, _ :: attached) => (name, some attached)
  | (name, []) => (name, none)

/-- A negative number. -/
def isNegativeNumber (s : List Char) : Bool :=
  match s with
  | '-' :: rest =>
    let whole := rest.takeWhile Char.isDigit
    match rest.drop whole.length with
    | [] => !whole.isEmpty
    | '.' :: fraction => !fraction.isEmpty && fraction.all Char.isDigit
    | _ => false
  | _ => false

/-- An argument that begins with a dash and is no option. -/
def noOption (s : List Char) : Word :=
  if isNegativeNumber s || ' ' ∈ s then .plain (String.ofList s) else .unknown

/-- Reads an argument. -/
def readWord (written : String) : Except Exit Word :=
  match written.toList with
  | ['-', '-'] => .ok .dashes
  | ['-', 'h'] => .ok (.option .help none)
  | '-' :: 'h' :: '=' :: attached => .ok (.option .help (some attached))
  | '-' :: 'h' :: letters => .ok (.helpWith letters)
  | '-' :: '-' :: rest =>
    let s := '-' :: '-' :: rest
    let (name, attached) := splitAttached s
    match longNames.filter fun e => name.isPrefixOf e.1 with
    | [] => .ok (noOption s)
    | [(_, choice)] => .ok (.option choice attached)
    | _ => .error .usage
  | '-' :: c :: rest => .ok (noOption ('-' :: c :: rest))
  | _ => .ok (.plain written)

/-- Reads the arguments; behind the end of options there are none. -/
def readWords : List String → Except Exit (List Word)
  | [] => .ok []
  | written :: rest => do
    let word ← readWord written
    if word = .dashes then return .dashes :: rest.map .plain
    return word :: (← readWords rest)

/-- What letters behind `-h` come to: more of the same, or something that help does not mind. -/
def readHelp : List Char → Exit
  | [] => .help
  | '-' :: _ => .usage
  | 'h' :: '=' :: _ => .usage
  | 'h' :: rest => readHelp rest
  | _ => .help

/-- Follows the arguments one after the other; `isOdd` says that one of them was not understood. -/
def follow (told : Arguments) (isOdd : Bool) : List Word → Except Exit Arguments
  | [] => if isOdd then .error .usage else .ok told
  | .option .help none :: _ => .error .help
  | .helpWith letters :: _ => .error (readHelp letters)
  | .option .debug none :: rest => follow { told with isDebug := true } isOdd rest
  | .option .config (some path) :: rest =>
    follow { told with config := some (String.ofList path) } isOdd rest
  | .option .config none :: .plain path :: rest =>
    follow { told with config := some path } isOdd rest
  | .option _ _ :: _ => .error .usage
  | _ :: rest => follow told true rest

/-- Reads what the program is told. -/
def read (written : List String) : Except Exit Arguments := do
  follow ⟨false, none⟩ false (← readWords written)

end Arguments

end FieldRules.Rpc
