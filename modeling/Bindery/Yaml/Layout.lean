import Bindery.Yaml.Token

/-!
# Bindery — Yaml — Layout

The layout of a YAML text.  A block collection starts where something stands further right than
the collections that are open, and ends before the first line that is further left.  What stands
before a colon is a key, so the place of the last token that could be one is kept; it has to be
on the line of its colon and not too far from it.  A candidate that stands where the entries of
the innermost block collection start has to turn out to be a key.
-/

namespace Bindery.Yaml

/-- A place where a key may have started. -/
structure Candidate where
  required : Bool
  tokenCount : Nat
  line : Nat
  column : Nat

/-- A text read up to some character.  The innermost block collection leaves `margin` columns
free, and `margins` are those around it.  There is a possible candidate for every bracket that
is open, `candidate` for the innermost one and `outer` for the others and for what is around all
brackets. -/
structure Layout where
  tokens : Array Token
  margin : Nat
  margins : List Nat
  keyAllowed : Bool
  candidate : Option Candidate
  outer : List (Option Candidate)

namespace Layout

/-- The layout at the start of a text. -/
def start : Layout := ⟨#[], 0, [], true, none, []⟩

/-- Whether a bracket is open. -/
def inFlow (l : Layout) : Bool :=
  !l.outer.isEmpty

/-- One more token. -/
def emit (l : Layout) (t : Token) : Layout :=
  { l with tokens := l.tokens.push t }

/-- One more token, after some number of those that are there. -/
def emitAt (l : Layout) (count : Nat) (t : Token) : Layout :=
  { l with tokens := l.tokens.insertIdxIfInBounds count t }

/-- Says whether a key may come next. -/
def allowKey (l : Layout) (allowed : Bool) : Layout :=
  { l with keyAllowed := allowed }

/-- The widest that a key may be. -/
def keyWidth : Nat := 1024

/-- A candidate that can still be a key at a place; none at all when a required one cannot. -/
def stillPossible? (line column : Nat) : Option Candidate → Option (Option Candidate)
  | none => some none
  | some c =>
    if c.line < line ∨ c.column + keyWidth < column then
      if c.required then none else some none
    else some (some c)

/-- Drops the candidates that cannot be keys from a place on. -/
def expire? (l : Layout) (line column : Nat) : Option Layout :=
  (stillPossible? line column l.candidate).bind fun candidate =>
    (l.outer.mapM (stillPossible? line column)).map fun outer =>
      { l with candidate, outer }

/-- Drops the innermost candidate, which may not be required. -/
def dropCandidate? (l : Layout) : Option Layout :=
  if l.candidate.any fun c => c.required then none
  else some { l with candidate := none }

/-- Makes what comes next a candidate, where a key is allowed. -/
def saveCandidate? (l : Layout) (s : Spot) : Option Layout :=
  if l.keyAllowed then
    l.dropCandidate?.map fun l =>
      let required := !l.inFlow && l.margin = s.column + 1
      { l with candidate := some ⟨required, l.tokens.size, s.line, s.column⟩ }
  else some l

/-- Opens a block collection at a column, unless it is open, with its token after some number of
those that are there. -/
def openBlock (l : Layout) (column count : Nat) (t : Token) : Layout :=
  if !l.inFlow ∧ l.margin < column + 1 then
    { l.emitAt count t with margin := column + 1, margins := l.margin :: l.margins }
  else l

/-- Closes the block collections that leave more columns free than `limit`, given those around
the innermost one. -/
def closeBlocks (limit : Nat) (l : Layout) : List Nat → Layout
  | [] => l
  | m :: rest =>
    if limit < l.margin then
      closeBlocks limit { l.emit .blockEnd with margin := m, margins := rest } rest
    else l

/-- Closes the block collections that end before a line that starts at a column. -/
def closeAt (l : Layout) (column : Nat) : Layout :=
  if l.inFlow then l else closeBlocks (column + 1) l l.margins

/-- Closes every block collection. -/
def closeAll (l : Layout) : Layout :=
  if l.inFlow then l else closeBlocks 0 l l.margins

/-- Opens a bracket. -/
def openFlow (l : Layout) : Layout :=
  { l with candidate := none, outer := l.candidate :: l.outer }

/-- Closes a bracket. -/
def closeFlow (l : Layout) : Layout :=
  match l.outer with
  | [] => l
  | candidate :: outer => { l with candidate, outer }

end Layout

end Bindery.Yaml
