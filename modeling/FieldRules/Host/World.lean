import FieldRules.Host.Basic
import FieldRules.Host.Path

/-!
# Worlds

A world is a tree of files with remote servers and a clock, as a value. It remembers what was
fetched in it.

Results:
* `place?_putFile`: a file that was written is there.
-/

namespace FieldRules

/-- A tree of files, the replies of remote servers, what was fetched with what patience, a clock,
    a calendar, and the numbers of workers that no pool can have, with the reasons. -/
structure World where
  folders : List Path
  files : List (Path × String)
  replies : Entries Reply
  fetches : List (String × Value)
  clock : Binary64
  today : Calendar.Today
  refusedPools : List (Value × String)
  deriving Repr

/-- What is at a place. -/
inductive Place where
  | folder
  | file (text : String)
  deriving DecidableEq, Repr

namespace World

/-- What is at a place; the root is a folder. -/
def place? (w : World) (p : Path) : Option Place :=
  match w.files.lookup p with
  | some text => some (.file text)
  | none => if p = [] || p ∈ w.folders then some .folder else none

/-- The place to which names lead from a place. Every name has to start at a folder, also one that
    leads nowhere. -/
def walk (w : World) (p : Path) : List String → Except FileProblem Path
  | [] => .ok p
  | name :: rest =>
    match w.place? p with
    | none => .error .missing
    | some (.file _) => .error .notFolder
    | some .folder =>
      let next := p.step name
      if (w.place? next).isSome then walk w next rest else .error .missing

/-- The place of a written path. The empty path leads nowhere. -/
def locate (w : World) (written : String) : Except FileFault Path :=
  if written = "" then .error ⟨.missing, written⟩
  else (w.walk [] (Path.names written)).mapError fun problem => ⟨problem, written⟩

/-- The folders above a place, from the root on, and the place itself. -/
def ancestors (p : Path) : List Path := (List.range p.length).map fun n => p.take (n + 1)

/-- A folder with all folders above it. -/
def putFolder (w : World) (p : Path) : World :=
  { w with folders := w.folders ++ (ancestors p).filter (· ∉ w.folders) }

/-- Writes a file, and the folders above it. -/
def putFile (w : World) (p : Path) (text : String) : World :=
  let w := w.putFolder p.dropLast
  { w with files := (p, text) :: w.files.filter (·.1 ≠ p) }

/-- Takes a file away. -/
def dropFile (w : World) (p : Path) : World := { w with files := w.files.filter (·.1 ≠ p) }

/-- Takes a folder away with all that is in it. -/
def dropFolder (w : World) (p : Path) : World :=
  { w with
    folders := w.folders.filter fun q => !p.isPrefixOf q
    files := w.files.filter fun e => !p.isPrefixOf e.1 }

/-- The names of the files in a folder; none if there is no such folder. -/
def filesIn? (w : World) (p : Path) : Option (List String) :=
  match w.place? p with
  | some .folder =>
    some (w.files.filterMap fun e => if e.1.dropLast = p then e.1.getLast? else none)
  | _ => none

/-- A file that was written is there. -/
theorem place?_putFile (w : World) (p : Path) (text : String) :
    (w.putFile p text).place? p = some (.file text) := by
  simp [place?, putFile]

/-- The text of a file. -/
def readFile (w : World) (written : String) : Except FileFault String := do
  let p ← w.locate written
  match w.place? p with
  | some (.file text) => return text
  | some .folder => throw ⟨.isFolder, written⟩
  | none => throw ⟨.missing, written⟩

/-- A world with a folder at a place, unless there is a file. -/
def withFolder? (w : World) (p : Path) : Option World :=
  match w.place? p with
  | some .folder => some w
  | some (.file _) => none
  | none => some (w.putFolder p)

/-- Makes folders at a place and at all those that names lead to from there. -/
def makeWay (w : World) (p : Path) : List String → Except FileProblem World
  | [] =>
    match w.withFolder? p with
    | some w' => .ok w'
    | none => .error .taken
  | name :: rest =>
    match w.withFolder? p with
    | some w' => makeWay w' (p.step name) rest
    | none => .error .notFolder

/-- Makes a folder, and those that lead to it. -/
def makeFolder (w : World) (written : String) : Except FileFault World :=
  (w.makeWay [] (Path.names written)).mapError fun problem => ⟨problem, written⟩

/-- Writes a file, unless there is a folder. -/
def writeFile (w : World) (written text : String) : Except FileFault World :=
  let p := Path.normal (Path.names written)
  match w.place? p with
  | some .folder => .error ⟨.isFolder, written⟩
  | _ => .ok (w.putFile p text)

/-- Takes a folder away. -/
def removeFolder (w : World) (written : String) : Except FileFault World := do
  let p ← w.locate written
  match w.place? p with
  | some .folder => return w.dropFolder p
  | _ => throw ⟨.notFolder, written⟩

/-- A pool with so many workers; what keeps it from being made is in words. -/
def makePool (w : World) (workers : Value) : Except String Unit :=
  match w.refusedPools.find? fun e => e.1.same workers with
  | some (_, detail) => .error detail
  | none => .ok ()

/-- Does something that changes the world unless it fails. -/
def attempt {ε : Type} (change : World → Except ε World) : StateM World (Except ε Unit) := fun w =>
  match change w with
  | .ok w' => (.ok (), w')
  | .error e => (.error e, w)

/-- The world as a host. Full paths are those without names that lead nowhere. -/
def host (cacheFolder : String) : Host (StateM World) where
  cacheFolder := cacheFolder
  resolve written := pure (Path.normal (Path.names written)).text
  readFile written := return (← get).readFile written
  isThere written := return ((← get).locate written).toBool
  makeFolder written := attempt (·.makeFolder written)
  writeFile written text := attempt (·.writeFile written text)
  removeFolder written := attempt (·.removeFolder written)
  fetch uri patience := do
    modify fun w => { w with fetches := w.fetches ++ [(uri, patience)] }
    match (← get).replies.get? uri with
    | some reply => return .ok reply
    | none => return .error "unreachable"
  makePool workers := return (← get).makePool workers
  now := return (← get).clock
  today := return (← get).today

end World

end FieldRules
