import Bindery.Yaml.Layout
import Bindery.Yaml.Plain
import Bindery.Yaml.Quoted
import Bindery.Yaml.Block

/-!
# Bindery — Yaml — Scan

Reading the tokens of a YAML text off its characters.  `Layout.token?` reads what comes next in a
text that has not ended; it takes at least one character, so that reading ends (`tokens?`).
-/

namespace Bindery.Yaml

namespace Layout

/-- Skips what stands between tokens: blanks, line breaks and comments.  A tab counts where no
key is allowed.  After a line break a key is allowed, outside brackets. -/
def skipGap (inFlow : Bool) (keyAllowed inComment : Bool) : List Spot → Bool × List Spot
  | [] => (keyAllowed, [])
  | s :: rest =>
    if isBreak s.char then skipGap inFlow (keyAllowed || !inFlow) false rest
    else if inComment then skipGap inFlow keyAllowed true rest
    else if s.char = '#' then skipGap inFlow keyAllowed true rest
    else if s.char = ' ' ∨ (s.char = '\t' ∧ (inFlow ∨ !keyAllowed)) ∨
        (s.char = '\uFEFF' ∧ s.column = 0) then
      skipGap inFlow keyAllowed false rest
    else (keyAllowed, s :: rest)

/-- A line with a directive, after its percent sign: the version, or what a handle stands
for. -/
def readDirective? (ss : List Spot) : Option (Token × List Spot) :=
  let (name, ss) := span isNameChar ss
  let isDirective := fun word : String => nextIsGap ss && String.ofList name = word
  let ss := skipBlanks ss
  if isDirective "YAML" then
    let (major, ss) := span Char.isDigit ss
    let (minor, rest) := span Char.isDigit (ss.drop 1)
    let isNumber := fun cs : List Char => !cs.isEmpty && cs.length ≤ 9
    let minor? := Text.natOfDigits? 10 minor
    if isNumber major && isNumber minor && nextIs '.' ss &&
        Text.natOfDigits? 10 major == some 1 && (minor? == some 1 || minor? == some 2) then
      (endLine? rest).map fun rest => (.version, rest)
    else none
  else if isDirective "TAG" then
    (readHandle? ss).bind fun (handle, ss) =>
      let ss' := skipBlanks ss
      if (isWholeHandle handle || handle = "!") && (ss.head?.any fun s => isBlank s.char) then
        (readOctets? true ss').bind fun (os, rest) =>
          if os.isEmpty || !nextIsGap rest then none
          else (endLine? rest).map fun rest => (.handle handle os, rest)
      else none
  else none

/-- Whether a character may come after a name. -/
def endsName : List Spot → Bool
  | [] => true
  | s :: _ =>
    isBlank s.char || isBreak s.char ||
      ['?', ':', ',', ']', '\x7d', '%', '@', '\x60'].contains s.char

/-- Reads the name of an anchor or an alias. -/
def readName? (ss : List Spot) : Option (String × List Spot) :=
  let (name, rest) := span isNameChar ss
  if !name.isEmpty && endsName rest then some (String.ofList name, rest) else none

/-- A mark that starts or ends a document, or a directive. -/
def putMark? (l : Layout) (t : Token) : Option Layout :=
  l.closeAll.dropCandidate?.map fun l => (l.allowKey false).emit t

/-- An opening bracket. -/
def putOpening? (l : Layout) (s : Spot) (t : Token) : Option Layout :=
  (l.saveCandidate? s).map fun l => (l.openFlow.allowKey true).emit t

/-- A closing bracket. -/
def putClosing? (l : Layout) (t : Token) : Option Layout :=
  l.dropCandidate?.map fun l => (l.closeFlow.allowKey false).emit t

/-- The dash of an entry of a block sequence. -/
def putDash? (l : Layout) (s : Spot) : Option Layout :=
  if l.inFlow ∨ l.keyAllowed then
    (l.openBlock s.column l.tokens.size .blockSequence).dropCandidate?.map fun l =>
      (l.allowKey true).emit .blockEntry
  else none

/-- The question mark before a key. -/
def putQuestion? (l : Layout) (s : Spot) : Option Layout :=
  if l.inFlow ∨ l.keyAllowed then
    (l.openBlock s.column l.tokens.size .blockMapping).dropCandidate?.map fun l =>
      (l.allowKey !l.inFlow).emit .key
  else none

/-- The colon before a value: the candidate, if there is one, is the key. -/
def putColon? (l : Layout) (s : Spot) : Option Layout :=
  match l.candidate with
  | some c =>
    let l := (l.emitAt c.tokenCount .key).openBlock c.column c.tokenCount .blockMapping
    some ({ l with candidate := none, keyAllowed := false }.emit .value)
  | none =>
    if l.inFlow ∨ l.keyAllowed then
      let l := l.openBlock s.column l.tokens.size .blockMapping
      some ((l.allowKey !l.inFlow).emit .value)
    else none

/-- A token that a key may start with, and what comes after it. -/
def putNode? (l : Layout) (s : Spot) (read : Option (Token × List Spot)) :
    Option (Layout × List Spot) :=
  (l.saveCandidate? s).bind fun l =>
    read.map fun (t, rest) => ((l.allowKey false).emit t, rest)

/-- A plain scalar; after one that ends at a line break a key is allowed. -/
def putPlain? (l : Layout) (ss : List Spot) (s : Spot) : Option (Layout × List Spot) :=
  (l.saveCandidate? s).bind fun l =>
    (readPlain? l.inFlow l.margin .start ss).map fun (f, rest) =>
      ((l.allowKey f.gap.isAcross).emit (.plain f.text), rest)

/-- A block scalar, after its first character. -/
def putBlock? (l : Layout) (folds : Bool) (rest : List Spot) : Option (Layout × List Spot) :=
  l.dropCandidate?.bind fun l =>
    (readBlock? folds l.margin rest).map fun (text, rest) =>
      ((l.allowKey true).emit (.quoted text), rest)

/-- Reads what stands where a token starts. -/
def token? (l : Layout) (s : Spot) (rest : List Spot) : Option (Layout × List Spot) :=
  let ss := s :: rest
  let c := s.char
  let then? := fun (l : Option Layout) => l.map fun l => (l, rest)
  if s.column = 0 ∧ c = '%' then
    (readDirective? rest).bind fun (t, rest) => (l.putMark? t).map fun l => (l, rest)
  else if isMarker '-' ss then (l.putMark? .documentStart).map fun l => (l, ss.drop 3)
  else if isMarker '.' ss then (l.putMark? .documentEnd).map fun l => (l, ss.drop 3)
  else if c = '[' then then? (l.putOpening? s .flowSequence)
  else if c = '\x7b' then then? (l.putOpening? s .flowMapping)
  else if c = ']' then then? (l.putClosing? .flowSequenceEnd)
  else if c = '\x7d' then then? (l.putClosing? .flowMappingEnd)
  else if c = ',' then
    then? (l.dropCandidate?.map fun l => (l.allowKey true).emit .flowEntry)
  else if c = '-' ∧ nextIsGap rest then then? (l.putDash? s)
  else if c = '?' ∧ (l.inFlow ∨ nextIsGap rest) then then? (l.putQuestion? s)
  else if c = ':' ∧ (l.inFlow ∨ nextIsGap rest) then then? (l.putColon? s)
  else if c = '*' then
    l.putNode? s ((readName? rest).map fun (name, rest) => (.alias name, rest))
  else if c = '&' then
    l.putNode? s ((readName? rest).map fun (name, rest) => (.anchor name, rest))
  else if c = '!' then
    l.putNode? s ((readTag? l.inFlow ss).map fun (name, rest) => (.tag name, rest))
  else if c = '|' ∧ !l.inFlow then l.putBlock? false rest
  else if c = '>' ∧ !l.inFlow then l.putBlock? true rest
  else if c = '\'' then
    l.putNode? s ((readSingle? .start rest).map fun (text, rest) => (.quoted text, rest))
  else if c = '"' then
    l.putNode? s ((readDouble? .start rest).map fun (text, rest) => (.quoted text, rest))
  else if startsPlain l.inFlow ss then l.putPlain? ss s
  else none

/-- Reads the tokens from a place on, taking at most `fuel` steps. -/
def run? : Nat → Layout → List Spot → Option Layout
  | 0, _, _ => none
  | fuel + 1, l, ss =>
    match skipGap l.inFlow l.keyAllowed false ss with
    | (_, []) => l.closeAll.dropCandidate?
    | (keyAllowed, s :: rest) =>
      ((l.allowKey keyAllowed).expire? s.line s.column).bind fun l =>
        ((l.closeAt s.column).token? s rest).bind fun (l, rest) => run? fuel l rest

end Layout

/-- The tokens of a text. -/
def tokens? (s : String) : Option (List Token) :=
  (spots? s).bind fun ss =>
    (Layout.start.run? (ss.length + 1) ss).map fun l => l.tokens.toList

end Bindery.Yaml
