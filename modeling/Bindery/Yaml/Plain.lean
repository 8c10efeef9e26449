import Bindery.Yaml.Folding

/-!
# Bindery — Yaml — Plain

Scalars without quotes.  Such a scalar ends at a colon before a gap, at a number sign after one,
at a line that is not indented enough or that marks a document, and, between brackets, at a
comma or a bracket.
-/

namespace Bindery.Yaml

/-- A bracket of a flow collection, or the comma between its entries. -/
def isFlowIndicator (c : Char) : Bool :=
  c = ',' || c = '[' || c = ']' || c = '\x7b' || c = '\x7d'

/-- A character that starts no plain scalar. -/
def isIndicator (c : Char) : Bool :=
  isFlowIndicator c ||
    ['-', '?', ':', '#', '&', '*', '!', '|', '>', '\'', '"', '%', '@', '\x60'].contains c

/-- Whether a plain scalar starts here.  A dash, and outside brackets a question mark or a
colon, starts one before a character that is not a gap. -/
def startsPlain (inFlow : Bool) : List Spot → Bool
  | [] => false
  | s :: rest =>
    let c := s.char
    if isBlank c || isBreak c then false
    else if c = '-' then !(rest.head?.any fun s => isBlank s.char)
    else if c = '?' || c = ':' then !inFlow && !nextIsGap rest
    else !isIndicator c

/-- A colon between brackets that another indicator follows. -/
def isStrayColon (inFlow : Bool) (c : Char) (rest : List Spot) : Bool :=
  inFlow && c = ':' && rest.head?.any fun s => s.char = '?' || isFlowIndicator s.char

/-- A character that ends a plain scalar wherever it stands. -/
def endsPlain (inFlow : Bool) (c : Char) (rest : List Spot) : Bool :=
  (c = ':' && nextIsGap rest) || (inFlow && isFlowIndicator c)

/-- Whether what follows a gap is outside the scalar before it. -/
def isPastPlain (inFlow : Bool) (margin : Nat) : List Spot → Bool
  | [] => true
  | s :: rest =>
    isDocumentMarker (s :: rest) || s.char = '#' || (!inFlow && s.column < margin)

/-- Reads on in a plain scalar whose lines are indented by `margin` columns: what it is, and what
comes after it and the gap behind it.  A tab may not stand where a line is indented. -/
def readPlain? (inFlow : Bool) (margin : Nat) (f : Folded) : List Spot → Option (Folded × List Spot)
  | [] => some (f, [])
  | s :: rest =>
    if isBlank s.char then
      if f.gap.isAcross && s.column < margin && s.char = '\t' then none
      else readPlain? inFlow margin (f.blank s.char) rest
    else if isBreak s.char then readPlain? inFlow margin (f.lineBreak s.char) rest
    else if !f.gap.isEmpty && isPastPlain inFlow margin (s :: rest) then some (f, s :: rest)
    else if isStrayColon inFlow s.char rest then none
    else if endsPlain inFlow s.char rest then some (f, s :: rest)
    else readPlain? inFlow margin (f.put s.char) rest

end Bindery.Yaml
