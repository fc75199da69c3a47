import FieldRules.Session.Basic

/-!
# Waiting for a run

A run can be waited for. A loop then works in turns: each turn does the work that was there at its
start, and what comes up meanwhile is left for the next one. A check that gives way goes on a turn
later; a turn after its verdict, the verdict is reported; a turn after the last report the result is
handed over, and in the turn after that the waiting ends.
-/

namespace FieldRules

namespace Session

/-- Starts a loop. -/
def openLoop (s : Session) : Session :=
  { s with loops := s.loops + 1, loop := some ⟨s.loops, [], false, none⟩ }

/-- Gives up the loop, with the work that is left. -/
def closeLoop (s : Session) : Session := { s with loop := none }

/-- Changes the loop, if there is one. -/
def editLoop (f : Loop → Loop) : SessionM Unit :=
  modify fun s => { s with loop := s.loop.map f }

/-- Leaves work for the next turn. -/
def leave (job : Job) : SessionM Unit := editLoop fun l => { l with jobs := l.jobs ++ [job] }

/-- Does one piece of work. Only the first result is handed over. -/
def doJob : Job → SessionM Unit
  | .step ref 0 verdict => leave (.settle ref (verdict.getD false))
  | .step ref (yields + 1) verdict => leave (.step ref yields verdict)
  | .settle ref passed => report ref passed
  | .resolve result => do
    let s : Session ← get
    if (s.loop.map (·.handed)).getD true then return ()
    editLoop fun l => { l with handed := true }
    leave (.wake result)
  | .wake result => editLoop fun l => { l with result := some result }

/-- One turn of the loop. A fault in one piece of work does not keep the others from being done. -/
def turn (s : Session) : Session :=
  match s.loop with
  | none => s
  | some l =>
    l.jobs.foldl (fun s job => s.after (doJob job)) { s with loop := some { l with jobs := [] } }

/-- The result that the loop has waited for. -/
def awaited (s : Session) : Option Delivery := s.loop.bind (·.result)

/-- Turns of the loop, until it has its result. -/
def turns (s : Session) : Nat → Session
  | 0 => s
  | n + 1 => if s.awaited.isSome then s else turns s.turn n

/-- Completes kept reports; what each of them is told. -/
def completeAll (s : Session) : List (Int × Bool) → Session × List (Except Fault Unit)
  | [] => (s, [])
  | (number, passed) :: rest =>
    let (told, s) := (complete number passed).run s
    let (s, others) := completeAll s rest
    (s, told :: others)

/-- Waits for a run: starts it in a loop of its own, completes reports, and lets the loop turn so
    many times at most. The result is none if the run is not over then. Model of `run_async`. -/
def awaitRun (s : Session) (completions : List (Int × Bool)) (limit : Nat) :
    Session × Except Fault (Option Delivery) × List (Except Fault Unit) :=
  let number := s.loops
  let (started, s) := (run (some number)).run s.openLoop
  let (s, told) := completeAll s completions
  match started with
  | .error fault => (s.closeLoop, .error fault, told)
  | .ok () =>
    let s := s.turns limit
    (s.closeLoop, .ok s.awaited, told)

end Session

end FieldRules
