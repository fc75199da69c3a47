import FieldRules.Calendar.Reader
import FieldRules.Value.Display

/-!
# What a host offers

Settings are read from files and, through a folder of copies, from remote servers; the age of what
has been read is told by a clock, and batches may be given to a pool of workers. A host offers all
this in some monad: a program does it for real, and a world is a value that it can be done in.
-/

namespace FieldRules

/-- What is wrong with a file or a folder. -/
inductive FileProblem where
  | missing
  | taken
  | notFolder
  | isFolder
  | refused (detail : String)
  deriving DecidableEq, Repr

/-- A file or a folder that cannot be used. -/
structure FileFault where
  problem : FileProblem
  path : String
  deriving DecidableEq, Repr

/-- The wording of a file or a folder that cannot be used. -/
def FileFault.message (f : FileFault) : String :=
  match f.problem with
  | .missing => s!"[Errno 2] No such file or directory: {Quoted.ofText f.path}"
  | .taken => s!"[Errno 17] File exists: {Quoted.ofText f.path}"
  | .notFolder => s!"[Errno 20] Not a directory: {Quoted.ofText f.path}"
  | .isFolder => s!"[Errno 21] Is a directory: {Quoted.ofText f.path}"
  | .refused detail => detail

/-- What a remote server answers. -/
structure Reply where
  status : Nat
  reason : String
  text : String
  deriving DecidableEq, Repr

/-- Files and folders, remote servers, pools of workers, a clock in seconds and a calendar. A file
    is read with its line breaks as they are. A server that cannot be reached is an error in words,
    and so is a pool that cannot have so many workers. -/
structure Host (m : Type → Type) where
  cacheFolder : String
  resolve : String → m String
  readFile : String → m (Except FileFault String)
  isThere : String → m Bool
  makeFolder : String → m (Except FileFault Unit)
  writeFile : String → String → m (Except FileFault Unit)
  removeFolder : String → m (Except FileFault Unit)
  fetch : String → Value → m (Except String Reply)
  makePool : Value → m (Except String Unit)
  now : m Binary64
  today : m Calendar.Today

end FieldRules
