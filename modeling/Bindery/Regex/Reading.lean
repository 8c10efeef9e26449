import Bindery.Regex.Pattern
import Bindery.Text.Blank
import Bindery.Text.Cut
import Bindery.Text.Numeral
import Bindery.Unicode.Category
import Bindery.Unicode.Property

/-!
# Bindery — Regex — Reading

Reading a regular expression.  The reader goes over the text once; what is open around the
present place is kept in a stack, for groups as for bracketed classes.  With the flag `x` blanks
and comments that run from a number sign to the end of the line do not count, except inside the
short escapes and the operators of more than one character.

`read?` gives nothing for a text that is no regular expression, and for one whose nesting is
past `nestingLimit`.
-/

namespace Bindery.Regex

open Bindery.Text Bindery.Unicode

/-- The most operators that may stand inside each other. -/
def nestingLimit : Nat := 250

namespace Reading

/-- Drops a comment up to the end of its line. -/
def afterComment : List Char → List Char
  | [] => []
  | '\n' :: cs => cs
  | _ :: cs => afterComment cs

/-- Drops the blanks and comments at the front, where they do not count. -/
def skip (x : Bool) (cs : List Char) : List Char :=
  if x then go cs.length cs else cs
where
  /-- Drops at most `n` blanks and comments. -/
  go : Nat → List Char → List Char
    | n + 1, c :: cs =>
      if isBlank c then go n cs
      else if c = '#' then go n (afterComment cs)
      else c :: cs
    | _, cs => cs

/-- The code points that a name may start with, besides the low line. -/
def letters : CodeSet := .ofRanges (readRanges Property.alphabetic)

/-- The code points that stand for numbers. -/
def numbers : CodeSet := .ofRanges (Category.ranges "N")

/-- Whether a character may stand in the name of a group. -/
def isNameChar (first : Bool) (c : Char) : Bool :=
  c = '_' || letters.contains c.toNat ||
    (!first && (c = '.' || c = '[' || c = ']' || numbers.contains c.toNat))

/-- The name of a group up to its closing bracket, and the rest. -/
def groupName? (cs : List Char) : Option (List Char × List Char) :=
  match splitOn? '>' cs with
  | some (c :: name, rest) =>
    if isNameChar true c && name.all (isNameChar false) then some (c :: name, rest) else none
  | _ => none

/-- Adds a flag that was not written before. -/
def addFlag (f : Flag) (on : Bool) (s : Switches) : Option Switches :=
  if (s.lookup f).isSome then none else some (s ++ [(f, on)])

/-- The flags of a group, whether a colon follows them, and the rest.  `dangling` tells that the
last character read was a minus sign, `on` that none was read. -/
def switches? (s : Switches) (on dangling : Bool) :
    List Char → Option (Switches × Bool × List Char)
  | [] => none
  | c :: cs =>
    if c = ':' then if dangling then none else some (s, true, cs)
    else if c = ')' then if dangling then none else some (s, false, cs)
    else if c = '-' then if on then switches? s false true cs else none
    else
      match Flag.ofChar? c with
      | some f =>
        match addFlag f on s with
        | some s => switches? s on false cs
        | none => none
      | none => none

/-- Whether a character has a meaning of its own. -/
def isMeta (c : Char) : Bool :=
  "\\.+*?()|[]\x7b\x7d^$#&-~".toList.contains c

/-- Whether a character that has no meaning of its own may follow a backslash. -/
def isEscapable (c : Char) : Bool :=
  c.toNat < 0x80 && !c.isAlphanum && c ≠ '<' && c ≠ '>'

/-- A character with a code. -/
def charOfCode? (n : Nat) : Option Char :=
  if n < 0xD800 ∨ (0xDFFF < n ∧ n < 0x110000) then some (Char.ofNat n) else none

/-- Takes a number of hexadecimal digits. -/
def hexDigits? (x : Bool) : Nat → Nat → List Char → Option (Nat × List Char)
  | 0, v, cs => some (v, cs)
  | n + 1, v, c :: cs => (digitValue? 16 c).bind fun d => hexDigits? x n (v * 16 + d) (skip x cs)
  | _ + 1, _, [] => none

/-- Takes hexadecimal digits up to a closing brace; the flag tells that there was one before. -/
def bracedDigits? (some? : Bool) (v : Nat) : List Char → Option (Nat × List Char)
  | [] => none
  | c :: cs =>
    if c = '\x7d' then if some? then some (v, cs) else none
    else (digitValue? 16 c).bind fun d => bracedDigits? true (min (v * 16 + d) 0x110000) cs

/-- A character written in hexadecimal, after the letter of its escape. -/
def hexLiteral? (x : Bool) (digits : Nat) (cs : List Char) : Option (Literal × List Char) :=
  match skip x cs with
  | '\x7b' :: cs =>
    let inside := if x then cs.filter (fun c => !isBlank c) else cs
    (bracedDigits? false 0 inside).bind fun (v, _) =>
      (splitOn? '\x7d' cs).bind fun (_, rest) =>
        (charOfCode? v).map fun c => (⟨c, false⟩, skip x rest)
  | cs =>
    (hexDigits? x digits 0 cs).bind fun (v, rest) =>
      (charOfCode? v).map fun c => (⟨c, digits = 2⟩, rest)

/-- A property asked for between braces or by one letter. -/
def propertyQuery? (x : Bool) (cs : List Char) : Option (PropertyQuery × List Char) :=
  match skip x cs with
  | '\x7b' :: cs =>
    (splitOn? '\x7d' cs).map fun (inside, rest) =>
      let inside := if x then inside.filter (fun c => !isBlank c) else inside
      let query :=
        match cutAt? ['!', '='] inside with
        | some (a, b) => PropertyQuery.notValue (String.ofList a) (String.ofList b)
        | none =>
          match splitOn? ':' inside with
          | some (a, b) => .value (String.ofList a) (String.ofList b)
          | none =>
            match splitOn? '=' inside with
            | some (a, b) => .value (String.ofList a) (String.ofList b)
            | none => .name (String.ofList inside)
      (query, rest)
  | c :: cs => if c = '\\' then none else some (.name (String.singleton c), skip x cs)
  | [] => none

/-- What stands for one place in a pattern or a class. -/
inductive Primitive where
  | literal (l : Literal)
  | assertion (a : Assertion)
  | letter (c : LetterClass) (negated : Bool)
  | property (q : PropertyQuery) (negated : Bool)

/-- The assertion that the name after `\b` stands for. -/
def boundary? : String → Option Assertion
  | "start" => some .wordStart
  | "end" => some .wordEnd
  | "start-half" => some .wordStartHalf
  | "end-half" => some .wordEndHalf
  | _ => none

/-- The word boundary after `\b`: a name between braces picks one of the special ones, and
anything else between braces is left for a repetition. -/
def wordBoundary? (x : Bool) (cs : List Char) : Option (Assertion × List Char) :=
  let isNamePart (c : Char) : Bool := c.isAlpha || c = '-'
  match cs with
  | '\x7b' :: inside =>
    match skip x inside with
    | [] => none
    | c :: _ =>
      if isNamePart c then
        (splitOn? '\x7d' inside).bind fun (name, rest) =>
          let name := if x then name.filter (fun c => !isBlank c) else name
          (boundary? (String.ofList name)).map (·, rest)
      else some (.wordBoundary, cs)
  | cs => some (.wordBoundary, cs)

/-- What the characters after a backslash stand for. -/
def escape? (x : Bool) : List Char → Option (Primitive × List Char)
  | [] => none
  | c :: cs =>
    let char (c : Char) := some (Primitive.literal ⟨c, false⟩, cs)
    let letter (k : LetterClass) (negated : Bool) := some (Primitive.letter k negated, cs)
    match c with
    | 'x' => (hexLiteral? x 2 cs).map fun (l, rest) => (.literal l, rest)
    | 'u' => (hexLiteral? x 4 cs).map fun (l, rest) => (.literal l, rest)
    | 'U' => (hexLiteral? x 8 cs).map fun (l, rest) => (.literal l, rest)
    | 'p' => (propertyQuery? x cs).map fun (q, rest) => (.property q false, rest)
    | 'P' => (propertyQuery? x cs).map fun (q, rest) => (.property q true, rest)
    | 'd' => letter .digit false
    | 'D' => letter .digit true
    | 's' => letter .blank false
    | 'S' => letter .blank true
    | 'w' => letter .word false
    | 'W' => letter .word true
    | 'a' => char '\x07'
    | 'f' => char '\x0c'
    | 't' => char '\t'
    | 'n' => char '\n'
    | 'r' => char '\r'
    | 'v' => char '\x0b'
    | 'A' => some (.assertion .startText, cs)
    | 'z' => some (.assertion .endText, cs)
    | 'b' => (wordBoundary? x cs).map fun (a, rest) => (.assertion a, rest)
    | 'B' => some (.assertion .notWordBoundary, cs)
    | '<' => some (.assertion .wordStart, cs)
    | '>' => some (.assertion .wordEnd, cs)
    | c => if isMeta c || isEscapable c then char c else none

/-- A class that is open: its items and the operation before them, the latest first. -/
structure OpenClass where
  negated : Bool
  left : Option (ClassOperation × ClassSet)
  items : List ClassItem

namespace OpenClass

/-- What stands in a class so far. -/
def set (c : OpenClass) : ClassSet :=
  let right := ClassSet.item (ClassItem.ofList c.items.reverse)
  match c.left with
  | none => right
  | some (op, left) => .operation op left right

/-- The class with one more item. -/
def add (i : ClassItem) (c : OpenClass) : OpenClass :=
  { c with items := i :: c.items }

/-- The class with what stands in it so far on the left of an operation. -/
def operate (op : ClassOperation) (c : OpenClass) : OpenClass :=
  { c with left := some (op, c.set), items := [] }

end OpenClass

/-- Takes the minus signs at the front of a class; something has to follow them. -/
def leadingMinus? (x : Bool) : Nat → OpenClass → List Char → Option (OpenClass × List Char)
  | n + 1, c, '-' :: cs =>
    leadingMinus? x n (c.add (.literal ⟨'-', false⟩)) (skip x cs)
  | _, _, [] => none
  | _, c, cs => some (c, cs)

/-- Opens a class after its bracket.  Minus signs at the front stand for themselves, and so does
a closing bracket where there are none. -/
def openClass? (x : Bool) (cs : List Char) : Option (OpenClass × List Char) :=
  let cs := skip x cs
  let (negated, cs) := match cs with
    | '^' :: cs => (true, skip x cs)
    | cs => (false, cs)
  (leadingMinus? x cs.length ⟨negated, none, []⟩ cs).bind fun (c, cs) =>
    match c.items, cs with
    | [], ']' :: cs =>
      let cs := skip x cs
      if cs.isEmpty then none else some (c.add (.literal ⟨']', false⟩), cs)
    | _, cs => some (c, cs)

/-- A class named between `[:` and `:]`, after its first bracket. -/
def asciiClass? : List Char → Option (ClassItem × List Char)
  | ':' :: cs =>
    let (negated, cs) := match cs with
      | '^' :: cs => (true, cs)
      | cs => (false, cs)
    (splitOn? ':' cs).bind fun (name, rest) =>
      match rest with
      | ']' :: rest =>
        (AsciiClass.ofName? (String.ofList name)).map fun k => (.ascii k negated, rest)
      | _ => none
  | _ => none

/-- One place of a class. -/
def classPrimitive? (x : Bool) : List Char → Option (Primitive × List Char)
  | [] => none
  | '\\' :: cs => escape? x cs
  | c :: cs => some (.literal ⟨c, false⟩, cs)

/-- A place of a class as an item; an assertion is none. -/
def Primitive.item? : Primitive → Option ClassItem
  | .literal l => some (.literal l)
  | .letter c negated => some (.letter c negated)
  | .property q negated => some (.property q negated)
  | .assertion _ => none

/-- A range or a single place of a class.  A minus sign makes a range unless a closing bracket or
another minus sign follows it. -/
def classRange? (x : Bool) (cs : List Char) : Option (ClassItem × List Char) :=
  (classPrimitive? x cs).bind fun (first, rest) =>
    let rest := skip x rest
    match rest with
    | [] => none
    | '-' :: after =>
      let after := skip x after
      if after.head? = some ']' ∨ after.head? = some '-' then first.item?.map (·, rest)
      else
        (classPrimitive? x after).bind fun (last, rest) =>
          match first, last with
          | .literal a, .literal b =>
            if a.char ≤ b.char then some (.range a b, rest) else none
          | _, _ => none
    | rest => first.item?.map (·, rest)

/-- Reads a bracketed class, given the classes that are open, the innermost first. -/
def class? (x : Bool) : Nat → List OpenClass → List Char →
    Option (Bool × ClassSet × List Char)
  | n + 1, c :: outer, cs =>
    match skip x cs with
    | [] => none
    | ']' :: cs =>
      match outer with
      | [] => some (c.negated, c.set, cs)
      | parent :: outer => class? x n (parent.add (.bracketed c.negated c.set) :: outer) cs
    | '[' :: cs =>
      match asciiClass? cs with
      | some (item, rest) => class? x n (c.add item :: outer) rest
      | none =>
        match openClass? x cs with
        | some (inner, rest) => class? x n (inner :: c :: outer) rest
        | none => none
    | '&' :: '&' :: cs => class? x n (c.operate .intersection :: outer) cs
    | '-' :: '-' :: cs => class? x n (c.operate .difference :: outer) cs
    | '~' :: '~' :: cs => class? x n (c.operate .symmetricDifference :: outer) cs
    | cs =>
      match classRange? x cs with
      | some (item, rest) => class? x n (c.add item :: outer) rest
      | none => none
  | _, _, _ => none

/-- A count of repetitions with the blanks around it. -/
def count? (x : Bool) (cs : List Char) : Option (Option Nat × List Char) :=
  let cs := cs.dropWhile isBlank
  let rec digits : Nat → List Char → List Char → List Char × List Char
    | n + 1, done, c :: cs =>
      if c.isDigit then digits n (c :: done) (skip x cs) else (done, c :: cs)
    | _, done, cs => (done, cs)
  let (ds, rest) := digits cs.length [] cs
  let rest := skip x (rest.dropWhile isBlank)
  if ds.isEmpty then some (none, rest)
  else ((natOfDigits? 10 ds.reverse).filter (· < 4294967296)).map fun n => (some n, rest)

/-- The bounds of a repetition between braces, after the opening one. -/
def bounds? (x : Bool) (cs : List Char) : Option (Nat × Option Nat × List Char) :=
  (count? x (skip x cs)).bind fun (least?, rest) =>
    match rest with
    | '\x7d' :: rest => least?.map fun n => (n, some n, rest)
    | ',' :: rest =>
      match skip x rest with
      | '\x7d' :: rest => least?.map fun n => (n, none, rest)
      | [] => none
      | rest =>
        least?.bind fun least =>
          (count? x rest).bind fun (most?, rest) =>
            match most?, rest with
            | some most, '\x7d' :: rest =>
              if least ≤ most then some (least, some most, rest) else none
            | _, _ => none
    | _ => none

/-- A group that is open: what was read before it and around it. -/
structure OpenGroup where
  kind : GroupKind
  x : Bool
  sequence : List Pattern
  branches : List Pattern

/-- A text read up to some place.  Sequences and branches have the latest part first. -/
structure State where
  x : Bool
  sequence : List Pattern
  branches : List Pattern
  outer : List OpenGroup
  captures : Nat
  names : List (List Char)

/-- What was read since the last group was opened, as one pattern. -/
def State.present (s : State) : Pattern :=
  let last := Pattern.ofSequence s.sequence.reverse
  if s.branches.isEmpty then last else .alternation (s.branches.reverse ++ [last])

/-- The state with one more pattern in its sequence. -/
def State.add (p : Pattern) (s : State) : State :=
  { s with sequence := p :: s.sequence }

/-- The state with a new group open. -/
def State.enter (kind : GroupKind) (x : Bool) (s : State) : State :=
  { s with
    x, sequence := [], branches := []
    outer := ⟨kind, s.x, s.sequence, s.branches⟩ :: s.outer }

/-- The state with a capturing group open. -/
def State.enterCapture (s : State) : State :=
  { s.enter (.capture (s.captures + 1)) s.x with captures := s.captures + 1 }

/-- Whether the characters after the parenthesis of a group look ahead or behind. -/
def looksAround (cs : List Char) : Bool :=
  [['?', '='], ['?', '!'], ['?', '<', '='], ['?', '<', '!']].any fun p => p.isPrefixOf cs

/-- Opens a group, or switches flags, after the parenthesis. -/
def group? (s : State) (cs : List Char) : Option (State × List Char) :=
  let cs := skip s.x cs
  if looksAround cs then none
  else
    let named (rest : List Char) : Option (State × List Char) :=
      (groupName? rest).bind fun (name, rest) =>
        if s.names.contains name then none
        else some ({ s.enterCapture with names := name :: s.names }, rest)
    match cs with
    | '?' :: 'P' :: '<' :: rest => named rest
    | '?' :: '<' :: rest => named rest
    | '?' :: rest =>
      (switches? [] true false rest).bind fun (flags, colon, rest) =>
        let x := (flags.state? .ignoreBlanks).getD s.x
        if colon then some (s.enter (.flagged flags) x, rest)
        else if flags.isEmpty then none
        else some ({ s.add (.flags flags) with x }, rest)
    | rest => some (s.enterCapture, rest)

/-- Closes the innermost group. -/
def State.leave? (s : State) : Option State :=
  match s.outer with
  | [] => none
  | g :: outer =>
    some { s with
      x := g.x, sequence := .group g.kind s.present :: g.sequence, branches := g.branches, outer }

/-- Repeats the last pattern.  A question mark right after the operator makes it lazy; there has
to be something to repeat, and flags are nothing. -/
def repeat? (least : Nat) (most : Option Nat) (s : State) (cs : List Char) :
    Option (State × List Char) :=
  let (greedy, cs) := match cs with
    | '?' :: cs => (false, cs)
    | cs => (true, cs)
  match s.sequence with
  | .flags _ :: _ => none
  | .empty :: _ => none
  | p :: rest => some ({ s with sequence := .repetition least most greedy p :: rest }, cs)
  | [] => none

/-- Takes what stands next. -/
def step? (s : State) : List Char → Option (State × List Char)
  | [] => none
  | c :: cs =>
    match c with
    | '(' => group? s cs
    | ')' => s.leave?.map (·, cs)
    | '|' =>
      some ({ s with
        sequence := [], branches := Pattern.ofSequence s.sequence.reverse :: s.branches }, cs)
    | '[' =>
      (openClass? s.x cs).bind fun (c, rest) =>
        (class? s.x cs.length [c] rest).map fun (negated, set, rest) =>
          (s.add (.bracketed negated set), rest)
    | '?' => repeat? 0 (some 1) s cs
    | '*' => repeat? 0 none s cs
    | '+' => repeat? 1 none s cs
    | '\x7b' =>
      (bounds? s.x cs).bind fun (least, most, rest) => repeat? least most s (skip s.x rest)
    | '.' => some (s.add .dot, cs)
    | '^' => some (s.add (.assertion .startLine), cs)
    | '$' => some (s.add (.assertion .endLine), cs)
    | '\\' =>
      (escape? s.x cs).map fun (p, rest) =>
        let pattern := match p with
          | .literal l => Pattern.literal l
          | .assertion a => .assertion a
          | .letter k negated => .letter k negated
          | .property q negated => .property q negated
        (s.add pattern, rest)
    | c => some (s.add (.literal ⟨c, false⟩), cs)

/-- Takes everything; each step takes at least one character, so `n` need not be greater than
the number of characters. -/
def all? : Nat → State → List Char → Option State
  | n, s, cs =>
    match skip s.x cs with
    | [] => some s
    | cs =>
      match n with
      | 0 => none
      | n + 1 => (step? s cs).bind fun (s, rest) => all? n s rest

end Reading

/-- The regular expression that a text is. -/
def Pattern.read? (text : String) : Option Pattern :=
  let cs := text.toList
  (Reading.all? cs.length ⟨false, [], [], [], 0, []⟩ cs).bind fun s =>
    if s.outer.isEmpty ∧ s.present.nesting ≤ nestingLimit then some s.present else none

end Bindery.Regex
