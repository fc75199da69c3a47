import FieldRules.Pattern.Admit
import FieldRules.Pattern.Fault

/-!
# Matching

A pattern is matched from a place in a text by trying its parts in order, each with what has to
follow as a continuation; when the continuation fails, the next possibility is tried.

A failed attempt leaves traces: the cursor stays where it was moved to last, and the marks of groups
keep what was written last, as long as they count. Where another possibility is tried, the number of
marks that count is put back; inside a repeat the marks themselves are put back too.

Results:
* `runLength_le`: a run of characters is no longer than its bound.
-/

namespace FieldRules.Pattern

/-! ## States -/

/-- What is being matched against, and how. -/
structure Scope where
  text : Array Char
  flags : Flags
  /-- Whether the part stands inside a repeat of more than single characters. -/
  inRepeat : Bool

/-- What an attempt knows and what it leaves behind. -/
structure State where
  /-- The place that was moved to last. -/
  cursor : Nat
  /-- Where groups begin and end: entry `2 i` and `2 i + 1` for the group with index `i`. -/
  marks : Array (Option Nat)
  /-- The number of marks that count, from the first one on. -/
  valid : Nat

namespace State

/-- Nothing is matched. -/
def start (groups place : Nat) : State := ⟨place, Array.replicate (2 * groups) none, 0⟩

/-- The state with the cursor moved. -/
def moveTo (s : State) (place : Nat) : State := { s with cursor := place }

/-- Empties the marks from `first` on, `count` of them. -/
def clearMarks (marks : Array (Option Nat)) (first : Nat) : Nat → Array (Option Nat)
  | 0 => marks
  | count + 1 => clearMarks (marks.setIfInBounds first none) (first + 1) count

/-- Writes a mark. The marks before it that did not count are empty. -/
def mark (s : State) (index place : Nat) : State :=
  let marks := clearMarks s.marks s.valid (index - s.valid)
  { s with marks := marks.setIfInBounds index (some place), valid := max s.valid (index + 1) }

/-- Where the group with a number begins and ends, if both marks count. -/
def ends? (s : State) (group : Nat) : Option (Nat × Nat) :=
  if 2 * group ≤ s.valid then
    match s.marks[2 * (group - 1)]?, s.marks[2 * (group - 1) + 1]? with
    | some (some a), some (some b) => some (a, b)
    | _, _ => none
  else none

/-- Where the group with a number begins and ends; a group that is still open may begin behind the
    end it had before, and then it counts as unset. -/
def span? (s : State) (group : Nat) : Option (Nat × Nat) :=
  (s.ends? group).filter fun (a, b) => a ≤ b

/-- The state after a failed attempt, ready for the next one: of the state before, the number of
    marks that count is put back, or the marks themselves. -/
def undo (before after : State) (marks : Bool) : State :=
  { after with valid := before.valid, marks := if marks then before.marks else after.marks }

end State

/-- How an attempt ends, with the state that it leaves. -/
inductive Outcome where
  | matched (s : State)
  | failed (s : State)

/-- What has to follow a part, from a place on. -/
abbrev Continuation := Nat → State → Outcome

/-- Nothing has to follow. -/
def done : Continuation := fun p s => .matched (s.moveTo p)

/-- The other possibility, if an attempt fails. -/
def Outcome.orElse (o : Outcome) (other : State → Outcome) : Outcome :=
  match o with
  | matched s => .matched s
  | failed s => other s

/-! ## Places -/

/-- Whether the character at a place is of a word. -/
def isWordAt (sc : Scope) (p : Nat) : Bool :=
  match sc.text[p]? with
  | some c => Class.word.has sc.flags.ascii c
  | none => false

/-- Whether a place is next to a word character on exactly one side. -/
def atWordEdge (sc : Scope) (p : Nat) : Bool :=
  (0 < p && isWordAt sc (p - 1)) != isWordAt sc p

/-- Whether an anchor holds at a place. -/
def Anchor.holds (sc : Scope) (a : Anchor) (p : Nat) : Bool :=
  let size := sc.text.size
  match a with
  | lineStart => p = 0 || (sc.flags.multiline && sc.text[p - 1]? = some '\n')
  | lineEnd =>
    p = size || (sc.text[p]? = some '\n' && (p + 1 = size || sc.flags.multiline))
  | textStart => p = 0
  | textEnd => p = size
  | wordEdge => size != 0 && atWordEdge sc p
  | noWordEdge => size != 0 && !atWordEdge sc p

/-- Whether the text from `a` on, `count` characters of it, stands at a place again. -/
def repeatsAt (sc : Scope) (a p : Nat) : Nat → Bool
  | 0 => true
  | count + 1 =>
    match sc.text[a]?, sc.text[p]? with
    | some x, some y =>
      (if sc.flags.ignoreCase then lowerIn sc.flags.ascii x == lowerIn sc.flags.ascii y else x == y)
        && repeatsAt sc (a + 1) (p + 1) count
    | _, _ => false

/-! ## Repeats of single characters -/

/-- How many characters of a class stand at a place, counted up to a bound. -/
def runLength (sc : Scope) (test : Char → Bool) (p : Nat) : Nat → Nat
  | 0 => 0
  | bound + 1 =>
    match sc.text[p]? with
    | some c => if test c then runLength sc test (p + 1) bound + 1 else 0
    | none => 0

/-- A run of characters is no longer than its bound. -/
theorem runLength_le (sc : Scope) (test : Char → Bool) (p bound : Nat) :
    runLength sc test p bound ≤ bound := by
  induction bound generalizing p with
  | zero => exact Nat.le_refl 0
  | succ bound ih =>
    rw [runLength]
    split
    · split
      · exact Nat.succ_le_succ (ih (p + 1))
      · exact Nat.zero_le _
    · exact Nat.zero_le _

/-- Tries a continuation at a place and then at the places before it, `count` of them. A place that
    what follows cannot start at is passed over. -/
def tryBack (sc : Scope) (next : Option Nat) (k : Continuation) (before : State) (p : Nat)
    (s : State) (count : Nat) : Outcome :=
  let isPossible := next.all fun code => (sc.text[p]?).any (·.toNat == code)
  let tried := if isPossible then k p (s.moveTo p) else .failed s
  tried.orElse fun t =>
    let t := before.undo t sc.inRepeat
    match count with
    | 0 => .failed t
    | count + 1 => tryBack sc next k before (p - 1) t count

/-- Tries a continuation at a place and then after each further character of a class, `count` of
    them. -/
def tryForward (sc : Scope) (test : Char → Bool) (k : Continuation) (before : State) (p : Nat)
    (s : State) (count : Nat) : Outcome :=
  (k p (s.moveTo p)).orElse fun t =>
    let t := (before.undo t sc.inRepeat).moveTo p
    match count with
    | 0 => .failed t
    | count + 1 =>
      if (sc.text[p]?).any test then tryForward sc test k before (p + 1) t count
      else .failed t

/-- Repeats a part that matches exactly one character. `next` is the character that what follows
    has to start with, if that is known, and `moves` says whether counting moves the cursor. -/
def repeatTest (sc : Scope) (test : Char → Bool) (moves : Bool) (next : Option Nat) (least : Nat)
    (most : Option Nat) (greed : Greed) (p : Nat) (s : State) (k : Continuation) : Outcome :=
  let left := sc.text.size - p
  if left < least then .failed s
  else
    let counted (n : Nat) : State := s.moveTo (if moves then p + n else p)
    match greed with
    | .lazy =>
      let n := runLength sc test p least
      if n < least then .failed (counted n)
      else tryForward sc test k s (p + n) (counted n) (min (most.getD left) left - least)
    | .greedy =>
      let n := runLength sc test p (min (most.getD left) left)
      if n < least then .failed (counted n)
      else tryBack sc next k s (p + n) (counted n) (n - least)
    | .possessive =>
      let n := runLength sc test p (min (most.getD left) left)
      if n < least then .failed (counted n) else k (p + n) (counted n)

/-! ## The search -/

theorem required_lt {size now next least count : Nat} (hcount : count < least) (hle : next ≤ now) :
    Prod.Lex (· < ·) (Prod.Lex (· < ·) (· < ·)) (size, next, least - (count + 1))
      (size, now, least - count) := by
  rcases Nat.lt_or_eq_of_le hle with hlt | heq
  · exact Prod.Lex.right _ (Prod.Lex.left _ _ hlt)
  · rw [heq]; exact Prod.Lex.right _ (Prod.Lex.right _ (by omega))

mutual

/-- Matches a sequence. -/
def matchSeq (sc : Scope) (nodes : List Node) (p : Nat) (s : State) (k : Continuation) : Outcome :=
  match nodes with
  | [] => k p s
  | node :: rest =>
    matchNode sc (startCode? sc.flags rest) node p s fun p s => matchSeq sc rest p s k
termination_by (sizeOf nodes, 0, 0)

/-- Matches one part. `next` is the character that what follows has to start with, if that is
    known. -/
def matchNode (sc : Scope) (next : Option Nat) (node : Node) (p : Nat) (s : State)
    (k : Continuation) : Outcome :=
  match node with
  | .literal negated code =>
    if (sc.text[p]?).any fun c => admitsCode sc.flags code c != negated then k (p + 1) s
    else .failed s
  | .set negated members =>
    if (sc.text[p]?).any (admitsSet sc.flags negated members) then k (p + 1) s else .failed s
  | .any =>
    if (sc.text[p]?).any fun c => sc.flags.dotAll || c != '\n' then k (p + 1) s else .failed s
  | .anchor place => if place.holds sc p then k p s else .failed s
  | .group index on off body =>
    let inner := { sc with flags := sc.flags.within on off }
    match index with
    | none => matchSeq inner body p s k
    | some i =>
      matchSeq inner body p (s.mark (2 * (i - 1)) p) fun q t => k q (t.mark (2 * (i - 1) + 1) q)
  | .branch alternatives => matchAny sc alternatives s p s k
  | .repeated least most greed body =>
    match seqTest? sc.flags body with
    | some test =>
      repeatTest sc test (countsByMatching sc.flags body) next least most greed p s k
    | none =>
      match greed with
      | .greedy => repeatGreedy sc least most body 0 p none s k
      | .lazy => repeatLazy sc least most body 0 p none s k
      | .possessive => repeatPossessive sc least most body 0 p p none s k
  | .look ahead negated back body =>
    let back := if ahead then 0 else back
    if p < back then if negated then k p s else .failed s
    else
      match matchSeq sc body (p - back) (s.moveTo (p - back)) done with
      | .matched t => if negated then .failed t else k p t
      | .failed t => if negated then k p (s.undo t sc.inRepeat) else .failed t
  | .atomic body =>
    match matchSeq sc body p (s.moveTo p) done with
    | .matched t => k t.cursor t
    | .failed t => .failed (t.moveTo p)
  | .reference group =>
    match s.span? group with
    | none => .failed s
    | some (a, b) => if repeatsAt sc a p (b - a) then k (p + (b - a)) s else .failed s
  | .conditional group yes no =>
    if (s.span? group).isSome then matchSeq sc yes p s k else matchSeq sc no p s k
termination_by (sizeOf node, 0, 0)

/-- Matches the first alternative that leads on. One that cannot start here is passed over. -/
def matchAny (sc : Scope) (alternatives : List (List Node)) (before : State) (p : Nat) (s : State)
    (k : Continuation) : Outcome :=
  match alternatives with
  | [] => .failed s
  | body :: rest =>
    if (startTest? sc.flags body).all fun test => (sc.text[p]?).any test then
      (matchSeq sc body p (s.moveTo p) k).orElse fun t =>
        matchAny sc rest before p (before.undo t sc.inRepeat) k
    else matchAny sc rest before p s k
termination_by (sizeOf alternatives, 0, 0)

/-- Repeats a part, more repetitions first. `count` repetitions are done, the last one beyond the
    required ones from the place `last` on; none is added after one that matched nothing. -/
def repeatGreedy (sc : Scope) (least : Nat) (most : Option Nat) (body : List Node) (count p : Nat)
    (last : Option Nat) (s : State) (k : Continuation) : Outcome :=
  let inner := { sc with inRepeat := true }
  if hcount : count < least then
    (matchSeq inner body p (s.moveTo p) fun q t =>
      if hle : p ≤ q then repeatGreedy sc least most body (count + 1) q last t k
      else .failed t).orElse fun t => .failed (t.moveTo p)
  else
    let more : Outcome :=
      if most.all (count < ·) && last ≠ some p then
        (matchSeq inner body p (s.moveTo p) fun q t =>
          if hlt : p < q ∧ q ≤ sc.text.size then
            repeatGreedy sc least most body (count + 1) q (some p) t k
          else (k q (t.moveTo q)).orElse fun u => .failed (u.moveTo q)).orElse fun t =>
            .failed (s.undo t true)
      else .failed s
    more.orElse fun t => (k p (t.moveTo p)).orElse fun u => .failed (u.moveTo p)
termination_by (sizeOf body + 1, sc.text.size - p, least - count)
decreasing_by
  · exact required_lt hcount (Nat.sub_le_sub_left hle _)
  · exact Prod.Lex.left _ _ (Nat.lt_succ_self _)
  · exact Prod.Lex.right _ (Prod.Lex.left _ _ (by omega))
  · exact Prod.Lex.left _ _ (Nat.lt_succ_self _)

/-- Repeats a part, fewer repetitions first. -/
def repeatLazy (sc : Scope) (least : Nat) (most : Option Nat) (body : List Node) (count p : Nat)
    (last : Option Nat) (s : State) (k : Continuation) : Outcome :=
  let inner := { sc with inRepeat := true }
  if hcount : count < least then
    (matchSeq inner body p (s.moveTo p) fun q t =>
      if hle : p ≤ q then repeatLazy sc least most body (count + 1) q last t k
      else .failed t).orElse fun t => .failed (t.moveTo p)
  else
    (k p (s.moveTo p)).orElse fun t =>
      let t := (s.undo t sc.inRepeat).moveTo p
      if most.all (count < ·) && last ≠ some p then
        (matchSeq inner body p t fun q u =>
          if hlt : p < q ∧ q ≤ sc.text.size then
            repeatLazy sc least most body (count + 1) q (some p) u k
          else (k q (u.moveTo q)).orElse fun v => .failed ((u.undo v sc.inRepeat).moveTo q)).orElse
            fun u => .failed (u.moveTo p)
      else .failed t
termination_by (sizeOf body + 1, sc.text.size - p, least - count)
decreasing_by
  · exact required_lt hcount (Nat.sub_le_sub_left hle _)
  · exact Prod.Lex.left _ _ (Nat.lt_succ_self _)
  · exact Prod.Lex.right _ (Prod.Lex.left _ _ (by omega))
  · exact Prod.Lex.left _ _ (Nat.lt_succ_self _)

/-- Repeats a part as often as it goes, without going back. The repeats began at `from'`, and the
    last one beyond the required ones at `last`. What follows goes on at the cursor, also where a
    failed repetition has left it. -/
def repeatPossessive (sc : Scope) (least : Nat) (most : Option Nat) (body : List Node)
    (count from' p : Nat) (last : Option Nat) (s : State) (k : Continuation) : Outcome :=
  if _h : count < least then
    match matchSeq sc body p (s.moveTo p) done with
    | .matched t =>
      if hle : p ≤ t.cursor then
        repeatPossessive sc least most body (count + 1) from' t.cursor last t k
      else .failed (t.moveTo from')
    | .failed t => .failed (t.moveTo from')
  else if most.all (count < ·) && last ≠ some p then
    match matchSeq sc body p (s.moveTo p) done with
    | .matched t =>
      if hlt : p < t.cursor ∧ t.cursor ≤ sc.text.size then
        repeatPossessive sc least most body (count + 1) from' t.cursor (some p) t k
      else k t.cursor t
    | .failed t => k t.cursor (s.undo t true)
  else k p s
termination_by (sizeOf body + 1, sc.text.size - p, least - count)
decreasing_by
  · exact Prod.Lex.left _ _ (Nat.lt_succ_self _)
  · exact required_lt _h (Nat.sub_le_sub_left hle _)
  · exact Prod.Lex.left _ _ (Nat.lt_succ_self _)
  · exact Prod.Lex.right _ (Prod.Lex.left _ _ (by omega))

end

/-- Whether every group of a finished match begins no later than it ends. -/
def State.isOrdered (s : State) (groups : Nat) : Bool :=
  (List.range groups).all fun i => (s.ends? (i + 1)).all fun (a, b) => a ≤ b

/-- Whether the pattern matches from a place or from one further on, up to `count` of them. -/
def findFrom (pattern : Pattern) (text : Array Char) (p : Nat) : Nat → Except Fault Bool
  | 0 => .ok false
  | count + 1 =>
    match matchSeq ⟨text, pattern.flags, false⟩ pattern.body p (.start pattern.groups p) done with
    | .matched s => if s.isOrdered pattern.groups then .ok true else .error .crossedGroup
    | .failed _ => findFrom pattern text (p + 1) count

end FieldRules.Pattern

namespace FieldRules

/-- Whether the pattern matches somewhere in the text. -/
def Pattern.find (pattern : Pattern) (text : List Char) : Except Pattern.Fault Bool :=
  findFrom pattern text.toArray 0 (text.length + 1)

end FieldRules
