import Bindery.Regex.Program
import Bindery.Regex.Reading
import Bindery.Regex.Size

/-!
# Bindery — Regex — Machine

Running a program over a text.  All ways to match are followed at once, one character after the
other, in the order in which they are preferred; a place of the program is visited once for each
character, so a run takes time in proportion to the text.  Among the matches that begin first the
preferred one wins.

`extract` is the text of the first group where it took part in the match, and of the whole match
otherwise.
-/

namespace Bindery.Regex

open Bindery.Unicode

/-- A way to match: where it began, where the first group was opened, and what that group took
last. -/
structure Track where
  start : Nat
  opened : Nat
  group : Option (Nat × Nat)
deriving Inhabited

/-- A match: its track and its end. -/
structure Match where
  track : Track
  stop : Nat

/-- The word characters of Unicode. -/
def wordSet : CodeSet := .ofRanges wordRanges

/-- Whether a character is a word character. -/
def isWord (ascii : Bool) (c? : Option Char) : Bool :=
  match c? with
  | none => false
  | some c => if ascii then c.isAlphanum || c = '_' else wordSet.contains c.toNat

/-- Whether a test holds between two characters; none stands for an end of the text. -/
def Look.holds (l : Look) (before after : Option Char) : Bool :=
  match l with
  | .startText => before.isNone
  | .endText => after.isNone
  | .startLine false => before.isNone || before = some '\n'
  | .endLine false => after.isNone || after = some '\n'
  | .startLine true =>
    before.isNone || before = some '\n' || (before = some '\r' && after ≠ some '\n')
  | .endLine true =>
    after.isNone || after = some '\r' || (after = some '\n' && before ≠ some '\r')
  | .wordBoundary ascii => isWord ascii before != isWord ascii after
  | .notWordBoundary ascii => isWord ascii before == isWord ascii after
  | .wordStart ascii => !isWord ascii before && isWord ascii after
  | .wordEnd ascii => isWord ascii before && !isWord ascii after
  | .wordStartHalf ascii => !isWord ascii before
  | .wordEndHalf ascii => !isWord ascii after

/-- The places that were reached, the latest first, and for each place of the program the step
in which it was visited last. -/
structure Reached where
  tracks : List (Nat × Track)
  visited : Array Nat

/-- A place between two characters of the text.  Steps count from one. -/
structure Spot where
  step : Nat
  before : Option Char
  after : Option Char

/-- Follows the places in `pending`, in order, as far as they lead without taking a character.
Each place is visited once and leads to two others at most, which bounds `n`. -/
def follow (code : Program) (spot : Spot) : Nat → List (Nat × Track) → Reached → Reached
  | n + 1, (place, t) :: pending, r =>
    if r.visited.getD place 0 = spot.step then follow code spot n pending r
    else
      let visited := r.visited.setIfInBounds place spot.step
      let r := { r with visited }
      match code[place]? with
      | none => follow code spot n pending r
      | some (.take _) => follow code spot n pending { r with tracks := (place, t) :: r.tracks }
      | some .done => follow code spot n pending { r with tracks := (place, t) :: r.tracks }
      | some (.test l) =>
        if l.holds spot.before spot.after then follow code spot n ((place + 1, t) :: pending) r
        else follow code spot n pending r
      | some (.jump target) => follow code spot n ((target, t) :: pending) r
      | some (.split a b) => follow code spot n ((a, t) :: (b, t) :: pending) r
      | some .openGroup =>
        follow code spot n ((place + 1, { t with opened := spot.step - 1 }) :: pending) r
      | some .closeGroup =>
        let t := { t with group := some (t.opened, spot.step - 1) }
        follow code spot n ((place + 1, t) :: pending) r
  | _, _, r => r

/-- The places after the next character, in order, and the best match so far.  A match ends what
is preferred less than it. -/
def advance (code : Program) (c? : Option Char) (stop : Nat) :
    List (Nat × Track) → Option Match → List (Nat × Track) × Option Match
  | [], best => ([], best)
  | (place, t) :: rest, best =>
    match code[place]? with
    | some .done => ([], some ⟨t, stop⟩)
    | some (.take set) =>
      let (next, best) := advance code c? stop rest best
      match c? with
      | some c => if set.contains c.toNat then ((place + 1, t) :: next, best) else (next, best)
      | none => (next, best)
    | _ => advance code c? stop rest best

/-- A run up to some place of the text: the ways to match that are left, in order, the steps in
which places were visited, and the best match so far. -/
structure Run where
  pending : List (Nat × Track)
  visited : Array Nat
  best : Option Match

/-- A run taken past one place of the text.  As long as nothing matched, a new way begins at
every place, preferred less than those before it. -/
def Run.pass (code : Program) (spot : Spot) (r : Run) : Run :=
  let pending :=
    if r.best.isNone then r.pending ++ [(0, ⟨spot.step - 1, 0, none⟩)] else r.pending
  let bound := 2 * code.size + 2 * pending.length + 2
  let reached := follow code spot bound pending ⟨[], r.visited⟩
  let (next, best) := advance code spot.after (spot.step - 1) reached.tracks.reverse r.best
  ⟨next, reached.visited, best⟩

/-- The best match of a run over the rest of a text. -/
def Run.finish (code : Program) (step : Nat) (before : Option Char) (r : Run) :
    List Char → Option Match
  | [] => (r.pass code ⟨step, before, none⟩).best
  | c :: cs =>
    let r := r.pass code ⟨step, before, some c⟩
    if r.best.isSome && r.pending.isEmpty then r.best
    else r.finish code (step + 1) (some c) cs

/-- The best match of a program in a text. -/
def Program.search (code : Program) (cs : List Char) : Option Match :=
  Run.finish code 1 none ⟨[], Array.replicate code.size 0, none⟩ cs

/-- Why no text can be extracted. -/
inductive Fault where
  | invalid
  | noMatch
deriving DecidableEq, Repr

/-- The program of a regular expression, unless it is none or too large. -/
def compile? (expression : String) : Option Program :=
  (Pattern.read? expression).bind fun p =>
    (p.node? Flags.initial).bind fun (n, _) =>
      if n.isSmall then some n.program else none

/-- The text of the first group of the best match, or of the whole match. -/
def extract (expression source : String) : Except Fault String :=
  match compile? expression with
  | none => .error .invalid
  | some code =>
    let cs := source.toList
    match code.search cs with
    | none => .error .noMatch
    | some m =>
      let (a, b) := m.track.group.getD (m.track.start, m.stop)
      .ok (String.ofList ((cs.drop a).take (b - a)))

end Bindery.Regex
