import Bindery.Decimal.Reading
import Bindery.Text.Octets

/-!
# Bindery — Host — Shell — Printing

What `echo` and `printf` print.  A format is printed again as long as it uses arguments and some
are left; an argument that is missing is empty or zero.
-/

namespace Bindery.Shell.Printing

open Bindery.Text Bindery.Decimal

/-- What is printed, complaints, the status, and whether printing was stopped. -/
structure Printed where
  chars : List Char
  complaints : List String
  status : Nat
  stopped : Bool

/-- Nothing printed. -/
def Printed.none : Printed := ⟨[], [], 0, false⟩

/-- Characters printed after others. -/
def Printed.add (p : Printed) (cs : List Char) : Printed := { p with chars := p.chars ++ cs }

/-- A complaint that does not stop printing. -/
def Printed.complain (p : Printed) (s : String) : Printed :=
  { p with complaints := p.complaints ++ [s], status := 1 }

/-- A complaint that stops printing. -/
def Printed.fail (p : Printed) (s : String) : Printed :=
  { p with complaints := p.complaints ++ [s], status := 2, stopped := true }

/-- The character that a letter after a backslash stands for. -/
def letter? : Char → Option Char
  | 'a' => some '\x07'
  | 'b' => some '\x08'
  | 'e' => some '\x1b'
  | 'f' => some '\x0c'
  | 'n' => some '\n'
  | 'r' => some '\r'
  | 't' => some '\t'
  | 'v' => some '\x0b'
  | '\\' => some '\\'
  | _ => none

/-- An octal digit. -/
def isOctal (c : Char) : Bool := '0' ≤ c && c ≤ '7'

/-- The character that at most three octal digits write, and the rest. -/
def takeOctal (cs : List Char) : Char × List Char :=
  let digits := (cs.take 3).takeWhile isOctal
  (Char.ofNat ((natOfDigits? 8 digits).getD 0 % 256), cs.drop digits.length)

/-- A text with its escapes carried out, and whether it was stopped by one. -/
def unescape : Nat → List Char → List Char × Bool
  | 0, cs => (cs, false)
  | _, [] => ([], false)
  | fuel + 1, '\\' :: c :: cs =>
    if c = 'c' then ([], true)
    else if c = '0' then
      let (d, rest) := takeOctal cs
      let (out, stopped) := unescape fuel rest
      (d :: out, stopped)
    else if isOctal c then
      let (d, rest) := takeOctal (c :: cs)
      let (out, stopped) := unescape fuel rest
      (d :: out, stopped)
    else
      let (out, stopped) := unescape fuel cs
      match letter? c with
      | some d => (d :: out, stopped)
      | none => ('\\' :: c :: out, stopped)
  | fuel + 1, c :: cs =>
    let (out, stopped) := unescape fuel cs
    (c :: out, stopped)

/-- What `echo` prints. -/
def echo (args : List String) : String :=
  let (ends, args) := match args with
    | "-n" :: rest => (false, rest)
    | args => (true, args)
  let cs := (" ".intercalate args).toList
  let (out, stopped) := unescape (cs.length + 1) cs
  String.ofList (if ends && !stopped then out ++ ['\n'] else out)

/-- How an item of a format is laid out. -/
structure Layout where
  left : Bool
  plus : Bool
  space : Bool
  alternative : Bool
  zeros : Bool
  width : Nat
  precision : Option Nat

/-- Characters padded to the width of an item. -/
def Layout.pad (l : Layout) (cs : List Char) : List Char :=
  let gap := List.replicate (l.width - cs.length) ' '
  if l.left then cs ++ gap else gap ++ cs

/-- Digits after what stands before them, padded to the width of an item, with zeros where they
are wanted. -/
def Layout.padNumber (l : Layout) (before digits : List Char) (keepsZeros : Bool) : List Char :=
  if l.zeros && !l.left && keepsZeros then
    before ++ List.replicate (l.width - before.length - digits.length) '0' ++ digits
  else l.pad (before ++ digits)

/-- The digits of a number, at least as many as the precision says. -/
def Layout.digits (l : Layout) (base n : Nat) : List Char :=
  let ds := Nat.toDigits base n
  match l.precision with
  | some 0 => if n = 0 then [] else ds
  | some k => List.replicate (k - ds.length) '0' ++ ds
  | none => ds

/-- The sign of a number. -/
def Layout.sign (l : Layout) (negative : Bool) : List Char :=
  if negative then ['-'] else if l.plus then ['+'] else if l.space then [' '] else []

/-- A whole number at the front of characters, with its sign, and the rest; none where there is
no digit. -/
def takeWhole? (cs : List Char) : Option (Bool × Nat × List Char) :=
  let cs := cs.dropWhile fun c => c = ' ' || c = '\t' || c = '\n'
  let (negative, cs) := takeSign cs
  let read := fun (base : Nat) (cs : List Char) =>
    let isDigit := fun c => (digitValue? base c).isSome
    (natOfDigits? base (cs.takeWhile isDigit)).map fun n => (negative, n, cs.dropWhile isDigit)
  match cs with
  | '0' :: x :: d :: rest =>
    if (x = 'x' ∨ x = 'X') ∧ (digitValue? 16 d).isSome then read 16 (d :: rest) else read 8 cs
  | '0' :: _ => read 8 cs
  | _ => read 10 cs

/-- The number that an argument is, at most `above` and at least minus `below`, and a complaint
if it is not one. -/
def numberOf (below above : Nat) (arg : String) : Int × Option String :=
  match arg.toList with
  | [] => (0, none)
  | '\'' :: cs => (((cs.head?.map Char.toNat).getD 0 : Nat), none)
  | '"' :: cs => (((cs.head?.map Char.toNat).getD 0 : Nat), none)
  | cs =>
    match takeWhole? cs with
    | none => (0, some (arg ++ ": expected numeric value"))
    | some (negative, n, rest) =>
      let value : Int := if negative then -(n : Int) else n
      let bounded := if value < -(below : Int) then -(below : Int) else min value above
      let complaint :=
        if !rest.isEmpty then some (arg ++ ": not completely converted")
        else if bounded ≠ value then some (arg ++ ": Numerical result out of range")
        else none
      (bounded, complaint)

/-- A real number with digits after its point, rounded; the sign apart. -/
def fixedDigits (x : Binary64) (places : Nat) : List Char :=
  let (num, den) := x.ratio
  let n := roundDiv (num * Nat.pow 10 places) den
  let ds := Nat.toDigits 10 n
  let ds := List.replicate (places + 1 - ds.length) '0' ++ ds
  let whole := ds.take (ds.length - places)
  if places = 0 then whole else whole ++ '.' :: ds.drop (ds.length - places)

/-- The longest start of an argument that is a real number. -/
def realOf (arg : String) : Option Parsed × Option String :=
  let cs := arg.toList
  let sizes := (List.range cs.length).reverse.map (· + 1)
  let start := sizes.find? fun n => (Decimal.read? (String.ofList (cs.take n))).isSome
  match start with
  | some n =>
    let rest := cs.drop n
    (Decimal.read? (String.ofList (cs.take n)),
      if rest.isEmpty then none else some (arg ++ ": not completely converted"))
  | none => (none, if cs.isEmpty then none else some (arg ++ ": expected numeric value"))

/-- What a real number is printed as. -/
def realText (l : Layout) : Option Parsed → List Char
  | some (.finite x) =>
    let places := l.precision.getD 6
    l.padNumber (l.sign x.negative) (fixedDigits x places) true
  | some (.infinite negative) => l.pad (l.sign negative ++ "inf".toList)
  | some .notANumber => l.pad "nan".toList
  | none => l.padNumber [] (fixedDigits (Binary64.zero false) (l.precision.getD 6)) true

/-- Prints one item of a format; none for a letter that is no item. -/
def item? (l : Layout) (conversion : Char) (arg : String) (p : Printed) : Option Printed :=
  let withComplaint := fun (c : Option String) (p : Printed) => match c with
    | some s => p.complain s
    | none => p
  match conversion with
  | 's' =>
    let cs := match l.precision with
      | some n => arg.toList.take n
      | none => arg.toList
    some (p.add (l.pad cs))
  | 'c' => some (p.add (l.pad [arg.toList.headD '\x00']))
  | 'b' =>
    let (cs, stopped) := unescape (arg.length + 1) arg.toList
    let cs := match l.precision with
      | some n => cs.take n
      | none => cs
    some { p.add (l.pad cs) with stopped }
  | 'f' | 'F' =>
    let (r, complaint) := realOf arg
    some (withComplaint complaint (p.add (realText l r)))
  | 'd' | 'i' =>
    let (n, complaint) := numberOf (maxSigned + 1) maxSigned arg
    let cs := l.padNumber (l.sign (n < 0)) (l.digits 10 n.natAbs) l.precision.isNone
    some (withComplaint complaint (p.add cs))
  | 'u' | 'o' | 'x' | 'X' =>
    let (m, complaint) := numberOf maxWord maxWord arg
    let n := (m % (maxWord + 1)).toNat
    let base := if conversion = 'u' then 10 else if conversion = 'o' then 8 else 16
    let ds := l.digits base n
    let ds := if conversion = 'X' then ds.map Char.toUpper else ds
    let before := if l.alternative && n ≠ 0 then
        (match conversion with
          | 'o' => ['0']
          | 'x' => ['0', 'x']
          | 'X' => ['0', 'X']
          | _ => [])
      else []
    some (withComplaint complaint (p.add (l.padNumber before ds l.precision.isNone)))
  | _ => none

/-- The layout that flags tell. -/
def flagged (flags : List Char) : Layout :=
  ⟨flags.contains '-', flags.contains '+', flags.contains ' ', flags.contains '#',
    flags.contains '0', 0, none⟩

/-- A number in a format, or an argument where a star stands for it. -/
def takeSize (cs : List Char) (args : List String) : Option Int × List Char × List String :=
  match cs with
  | '*' :: cs =>
    ((some (numberOf (maxSigned + 1) maxSigned (args.headD "")).1), cs, args.drop 1)
  | cs =>
    let digits := cs.takeWhile Char.isDigit
    ((natOfDigits? 10 digits).map Int.ofNat, cs.drop digits.length, args)

/-- Prints a format once: what is printed, and the arguments that are left. -/
def once : Nat → List Char → List String → Printed → Printed × List String
  | 0, _, args, p => (p, args)
  | _, [], args, p => (p, args)
  | fuel + 1, '\\' :: c :: cs, args, p =>
    if isOctal c then
      let (d, rest) := takeOctal (c :: cs)
      once fuel rest args (p.add [d])
    else
      match letter? c with
      | some d => once fuel cs args (p.add [d])
      | none => once fuel cs args (p.add ['\\', c])
  | fuel + 1, '%' :: '%' :: cs, args, p => once fuel cs args (p.add ['%'])
  | fuel + 1, '%' :: cs, args, p =>
    let flags := cs.takeWhile fun c => ['-', '+', ' ', '#', '0'].contains c
    let afterFlags := cs.drop flags.length
    let (width, cs', args) := takeSize afterFlags args
    let (precision, cs', args) := match cs' with
      | '.' :: rest =>
        let (n, rest, args) := takeSize rest args
        (some (n.getD 0), rest, args)
      | rest => (none, rest, args)
    let l := flagged flags
    let w := width.getD 0
    let l := { l with
      left := l.left || w < 0
      width := w.natAbs
      precision := precision.bind fun n => if n < 0 then none else some n.toNat }
    match cs' with
    | [] => (p.fail "missing format character", args)
    | c :: rest =>
      match item? l c (args.headD "") p with
      | none =>
        let item := '%' :: (cs.take (cs.length - rest.length))
        (p.fail (String.ofList item ++ ": invalid directive"), args)
      | some p => if p.stopped then (p, args.drop 1) else once fuel rest (args.drop 1) p
  | fuel + 1, c :: cs, args, p => once fuel cs args (p.add [c])

/-- Prints a format as often as arguments ask for it. -/
def repeated (format : List Char) : Nat → List String → Printed → Printed
  | 0, _, p => p
  | fuel + 1, args, p =>
    let (p, left) := once (format.length + 1) format args p
    if p.stopped || left.isEmpty || left.length = args.length then p
    else repeated format fuel left p

/-- What `printf` prints. -/
def printf (args : List String) : Printed :=
  let args := match args with
    | "--" :: rest => rest
    | args => args
  match args with
  | [] => Printed.none.fail "usage: printf format [arg ...]"
  | format :: rest => repeated format.toList (rest.length + 1) rest .none

end Bindery.Shell.Printing
