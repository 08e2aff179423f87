import BuildDispatch.Log.Layout
import BuildDispatch.Number.Style
import BuildDispatch.Text.Columns
import BuildDispatch.Text.Digit
import BuildDispatch.Text.Quoted
import BuildDispatch.Text.Split
import BuildDispatch.Text.WordCharacter

/-!
# Templates for log lines

Layouts may also be given as text. In a template a percent sign begins a directive, and two of them
stand for one. A directive names a field of the record between round brackets and says how to write
it:

    %(name) flags width .precision letter

Width and precision may be left out, and so may the name; a directive without one takes the whole
record, but only the first directive can. A star in place of a number takes the argument for that
number, so that none is left to write. Whatever is wrong with a template shows when it is filled, of
several faults the one furthest in front. Before that, a template has to hold the form of a field
somewhere; one that is empty stands for the message alone.

## Main definitions

* `Directive`, `Part`, `Template.parts`: a template in parts.
* `Datum`: what a field holds.
* `Conversion`: what a letter stands for, and `Conversion.write`.
* `Record.fill`: the line of a record by a template.
-/

namespace BuildDispatch.Log

open Text

/-- What is wrong with a template. -/
inductive TemplateFault
  /-- There is no field in it. -/
  | noField (template : Text)
  | unknownField (key : Text)
  | unclosedKey
  | unfinished
  | widthTooLarge
  | precisionTooLarge
  | unknownLetter (letter : CodePoint) (index : Nat)
  /-- The argument is missing, or not of the kind that the directive is for. -/
  | wrongKind
  /-- A number in place of a star does not fit. -/
  | starTooLarge (kind : String)
  | noSuchCodePoint
  | tooLargeForDouble
deriving Repr, DecidableEq

/-- A letter as messages show it. -/
def letterText (c : CodePoint) : Text := if 31 ≤ c.toNat ∧ c.toNat ≤ 126 then [c] else "?"

def TemplateFault.message : TemplateFault → Text
  | noField template => "Invalid format '" ++ template ++ "' for '%' style"
  | unknownField key => "Formatting field not found in record: " ++ quoted key
  | unclosedKey => "incomplete format key"
  | unfinished => "incomplete format"
  | widthTooLarge => "width too big"
  | precisionTooLarge => "precision too big"
  | unknownLetter letter index =>
    "unsupported format character '" ++ letterText letter ++ "' (0x" ++
      String.ofList (Nat.toDigits 16 letter.toNat) ++ ") at index " ++ toString index
  | wrongKind => "the argument does not fit the format"
  | starTooLarge kind => "Python int too large to convert to C " ++ kind
  | noSuchCodePoint => "%c arg not in range(0x110000)"
  | tooLargeForDouble => "int too large to convert to float"

/-! ### Directives -/

/-- A number in a directive. -/
inductive Amount
  | given (n : Nat)
  /-- A star: the argument is the number. -/
  | star
deriving Repr, DecidableEq

/-- A number that is written out. -/
def Amount.given? : Option Amount → Option Nat
  | some (.given n) => some n
  | _ => none

structure Directive where
  key : Option Text := none
  flags : Text := []
  width : Option Amount := none
  precision : Option Amount := none
  /-- The letter that ends it, and where in the template that is; or why there is none. -/
  letter : Except TemplateFault (CodePoint × Nat)

inductive Part
  | fixed (c : CodePoint)
  | directive (d : Directive)

namespace Template

def isFlag (c : CodePoint) : Bool := c = '-' || c = '+' || c = ' ' || c = '#' || c = '0'

/-- A letter that may stand in front of the last one and means nothing. -/
def isSizeLetter (c : CodePoint) : Bool := c = 'h' || c = 'l' || c = 'L'

def isPlainDigit (c : CodePoint) : Bool := 0x30 ≤ c.toNat && c.toNat < 0x3A

def plainNumber (digits : Text) : Nat := digits.foldl (fun n c => 10 * n + (c.toNat - 0x30)) 0

/-- The text up to the bracket that closes a key, and what follows it; `depth` brackets within the
key are open. -/
def splitKey? : Nat → Text → Option (Text × Text)
  | _, [] => none
  | depth, c :: rest =>
    if c = ')' ∧ depth = 0 then some ([], rest)
    else
      let depth := if c = ')' then depth - 1 else if c = '(' then depth + 1 else depth
      (splitKey? depth rest).map fun (key, rest) => (c :: key, rest)

/-- A number or a star in front of a text, if there is one, and what follows it. -/
def splitAmount (t : Text) : Option Amount × Text :=
  match t with
  | .char '*' :: rest => (some .star, rest)
  | t =>
    match t.takeWhile isPlainDigit with
    | [] => (none, t)
    | digits => (some (.given (plainNumber digits)), t.dropWhile isPlainDigit)

/-- A precision behind a point. A point alone stands for none. -/
def splitPrecision (t : Text) : Option Amount × Text :=
  match t with
  | .char '.' :: rest =>
    let (amount, rest) := splitAmount rest
    (some (amount.getD (.given 0)), rest)
  | t => (none, t)

def mostWidth : Nat := 9223372036854775807

def mostPrecision : Nat := 2147483647

/-- Whether a number is written out that exceeds a limit. -/
def exceeds (limit : Nat) (amount : Option Amount) : Bool := limit < (Amount.given? amount).getD 0

/-- Read a directive behind its key, and what follows it; `size` is the size of the template. -/
def readBody (size : Nat) (key : Option Text) (t : Text) : Directive × Text :=
  let flags := t.takeWhile isFlag
  let (width, t) := splitAmount (t.dropWhile isFlag)
  if exceeds mostWidth width then ({ key, flags, letter := .error .widthTooLarge }, t)
  else
    let (precision, t) := splitPrecision t
    if exceeds mostPrecision precision then
      ({ key, flags, width, letter := .error .precisionTooLarge }, t)
    else
      let t := if (t.head?.map isSizeLetter).getD false then t.drop 1 else t
      match t with
      | [] => ({ key, flags, width, precision, letter := .error .unfinished }, [])
      | c :: rest =>
        ({ key, flags, width, precision, letter := .ok (c, size - t.length) }, rest)

/-- Read a directive behind the percent sign, and what follows it. -/
def readDirective (size : Nat) : Text → Directive × Text
  | .char '(' :: rest =>
    match splitKey? 0 rest with
    | some (key, rest) => readBody size (some key) rest
    | none => ({ letter := .error .unclosedKey }, [])
  | t => readBody size none t

/-- The parts of a template of so many code points. There are at most as many of them as the second
argument says. -/
def partsFrom (size : Nat) : Nat → Text → List Part
  | 0, _ | _, [] => []
  | n + 1, .char '%' :: .char '%' :: rest => .fixed '%' :: partsFrom size n rest
  | n + 1, .char '%' :: rest =>
    let (d, rest) := readDirective size rest
    .directive d :: partsFrom size n rest
  | n + 1, c :: rest => .fixed c :: partsFrom size n rest

def parts (template : Text) : List Part := partsFrom template.length template.length template

/-! ### The form of a field -/

def isKeyPart (c : CodePoint) : Bool := isWordCharacter c.toChar

def isDigit (c : CodePoint) : Bool := isDecimalDigit c.toChar

/-- The letters that may end the form of a field. Capitals count, and so do the letters that have
one of these for their other case. -/
def endLetters : Text := "diouxefgcrsaDIOUXEFGCRSA%\u0130\u0131\u017F"

/-- What follows a star or digits of any script; there has to be one of them. -/
def afterAmount? : Text → Option Text
  | .char '*' :: rest => some rest
  | t => if (t.head?.map isDigit).getD false then some (t.dropWhile isDigit) else none

/-- What follows a point with a precision, if there is one. -/
def afterPrecision (t : Text) : Text :=
  match t with
  | .char '.' :: rest => (afterAmount? rest).getD t
  | t => t

/-- Whether a text begins as a directive ends: flags, width, precision and a letter. -/
def beginsBody (t : Text) : Bool :=
  let t := t.dropWhile isFlag
  match afterPrecision ((afterAmount? t).getD t) with
  | [] => false
  | c :: _ => endLetters.contains c

/-- Whether a text begins with the form of a field. -/
def beginsField : Text → Bool
  | .char '%' :: .char '(' :: rest =>
    match rest.dropWhile isKeyPart with
    | .char ')' :: body => (rest.head?.map isKeyPart).getD false && beginsBody body
    | _ => false
  | _ => false

/-- Whether the form of a field is somewhere in a text. -/
def hasField : Text → Bool
  | [] => false
  | c :: rest => beginsField (c :: rest) || hasField rest

end Template

/-! ### What fields hold -/

inductive Datum
  | text (t : Text)
  | int (n : Int)
  | float (x : Double)
  /-- Something that can only be written out. -/
  | other (literal : Text)
deriving Repr

namespace Datum

/-- A datum as text; a text stands for itself. -/
def plain : Datum → Text
  | text t => t
  | int n => toString n
  | float x => x.text
  | other literal => literal

/-- A datum as text, where a text stands between quotes. -/
def literal : Datum → Text
  | text t => quoted t
  | d => d.plain

end Datum

/-! ### Writing under a directive -/

/-- What a letter stands for. -/
inductive Conversion
  | plain
  | literal
  | ascii
  | decimal
  | octal
  | hexadecimal (capital : Bool)
  | double (style : Double.Style) (capital : Bool)
  | codePoint
deriving Repr, DecidableEq

def Conversion.ofLetter? : CodePoint → Option Conversion
  | .char 's' => some plain
  | .char 'r' => some literal
  | .char 'a' => some ascii
  | .char 'd' | .char 'i' | .char 'u' => some decimal
  | .char 'o' => some octal
  | .char 'x' => some (hexadecimal false)
  | .char 'X' => some (hexadecimal true)
  | .char 'f' => some (double .fixed false)
  | .char 'F' => some (double .fixed true)
  | .char 'e' => some (double .exponent false)
  | .char 'E' => some (double .exponent true)
  | .char 'g' => some (double .general false)
  | .char 'G' => some (double .general true)
  | .char 'c' => some codePoint
  | _ => none

/-- A number in parts: its sign, the mark of its base, and its digits. -/
structure Numeral where
  negative : Bool
  mark : List Char := []
  digits : List Char

namespace Directive

def has (d : Directive) (flag : Char) : Bool := d.flags.contains (.char flag)

def leastWidth (d : Directive) : Nat := (Amount.given? d.width).getD 0

/-- A text in its place: spaces fill the width. -/
def placeText (d : Directive) (t : Text) : Text :=
  let gap := spaces (d.leastWidth - t.length)
  if d.has '-' then t ++ gap else gap ++ t

/-- A text in its place, cut down to the precision. -/
def placeCut (d : Directive) (t : Text) : Text :=
  d.placeText (match Amount.given? d.precision with
    | some n => t.take n
    | none => t)

def signOf (d : Directive) (negative : Bool) : List Char :=
  if negative then ['-'] else if d.has '+' then ['+'] else if d.has ' ' then [' '] else []

/-- A numeral in its place: spaces fill the width, or zeros between sign and digits. -/
def placeNumeral (d : Directive) (n : Numeral) : Text :=
  let front := d.signOf n.negative ++ n.mark
  let missing := d.leastWidth - (front.length + n.digits.length)
  if !d.has '-' && d.has '0' then ofChars (front ++ List.replicate missing '0' ++ n.digits)
  else d.placeText (ofChars (front ++ n.digits))

/-- A whole number in a base, in at least as many digits as the precision says. -/
def intNumeral (d : Directive) (base : Nat) (mark : List Char) (n : Int) : Numeral :=
  let digits := Nat.toDigits base n.natAbs
  { negative := n < 0
    mark := if d.has '#' then mark else []
    digits := List.replicate ((Amount.given? d.precision).getD 0 - digits.length) '0' ++ digits }

def doubleNumeral (d : Directive) (style : Double.Style) (x : Double) : Numeral :=
  { negative := x.isNegative
    digits := style.unsignedText (d.has '#') ((Amount.given? d.precision).getD 6) x }

end Directive

/-- A numeral in capitals. -/
def Numeral.raise (capital : Bool) (n : Numeral) : Numeral :=
  if capital then { n with mark := n.mark.map Char.toUpper, digits := n.digits.map Char.toUpper }
  else n

/-- The double that a whole number rounds to. -/
def doubleOf (n : Int) : Except TemplateFault Double :=
  match Double.ofRatio (n < 0) n.natAbs 1 with
  | .infinite _ => .error .tooLargeForDouble
  | x => .ok x

namespace Datum

def double : Datum → Except TemplateFault Double
  | int n => doubleOf n
  | float x => .ok x
  | _ => .error .wrongKind

/-- A whole number; only decimal digits are given to a number with a fraction. -/
def whole (inDecimal : Bool) (v : Datum) : Except TemplateFault Int :=
  match v with
  | int n => .ok n
  | float x => if inDecimal then .ok x.truncate else .error .wrongKind
  | _ => .error .wrongKind

/-- The code point that a number names, or that a text consists of. -/
def codePoint : Datum → Except TemplateFault CodePoint
  | text [c] => .ok c
  | int n =>
    match if 0 ≤ n then CodePoint.ofNat? n.toNat else none with
    | some c => .ok c
    | none => .error .noSuchCodePoint
  | _ => .error .wrongKind

end Datum

/-- A datum under a directive. -/
def Conversion.write (c : Conversion) (d : Directive) (v : Datum) : Except TemplateFault Text :=
  match c with
  | plain => .ok (d.placeCut v.plain)
  | literal => .ok (d.placeCut v.literal)
  | ascii => .ok (d.placeCut (inAscii v.literal))
  | decimal => (v.whole true).map fun n => d.placeNumeral (d.intNumeral 10 [] n)
  | octal => (v.whole false).map fun n => d.placeNumeral (d.intNumeral 8 ['0', 'o'] n)
  | hexadecimal capital =>
    (v.whole false).map fun n => d.placeNumeral ((d.intNumeral 16 ['0', 'x'] n).raise capital)
  | double style capital =>
    v.double.map fun x => d.placeNumeral ((d.doubleNumeral style x).raise capital)
  | codePoint => v.codePoint.map fun c => d.placeText [c]

/-! ### Filling -/

/-- What a number leaves of the argument: a star takes it. -/
def Amount.spend (kind : String) (limit : Nat) (amount : Option Amount) (argument : Option Datum) :
    Except TemplateFault (Option Datum) :=
  match amount, argument with
  | some .star, some (.int n) =>
    if -(limit : Int) - 1 ≤ n ∧ n ≤ limit then .ok none else .error (.starTooLarge kind)
  | some .star, _ => .error .wrongKind
  | _, argument => .ok argument

abbrev Fields := List (Text × Datum)

namespace Fields

def field? (fields : Fields) (key : Text) : Option Datum :=
  (fields.find? fun entry => entry.1 = key).map Prod.snd

/-- All fields, written out. -/
def whole (fields : Fields) : Datum :=
  .other ("\x7b" ++ joinWith ", " (fields.map fun entry =>
    quoted entry.1 ++ ": " ++ entry.2.literal) ++ "\x7d")

/-- What a directive goes by: the field that it names, or what it is given. -/
def argument (fields : Fields) (given : Option Datum) : Option Text →
    Except TemplateFault (Option Datum)
  | none => .ok given
  | some key =>
    match fields.field? key with
    | some v => .ok (some v)
    | none => .error (.unknownField key)

/-- The text of a directive. -/
def write (fields : Fields) (given : Option Datum) (d : Directive) : Except TemplateFault Text := do
  let argument ← fields.argument given d.key
  let argument ← Amount.spend "ssize_t" Template.mostWidth d.width argument
  let argument ← Amount.spend "int" Template.mostPrecision d.precision argument
  let (letter, index) ← d.letter
  match argument, Conversion.ofLetter? letter with
  | none, _ => .error .wrongKind
  | some v, some c => c.write d v
  | some _, none => .error (.unknownLetter letter index)

/-- The text of the parts of a template; only the first directive is given anything. -/
def fill (fields : Fields) : Option Datum → List Part → Except TemplateFault Text
  | _, [] => .ok []
  | given, .fixed c :: rest => do
    let others ← fields.fill given rest
    .ok (c :: others)
  | given, .directive d :: rest => do
    let t ← fields.write given d
    let others ← fields.fill none rest
    .ok (t ++ others)

end Fields

/-! ### Records -/

def nothing : Datum := .other "None"

/-- The fields that every record has. It comes from no file, and from nowhere in particular in the
program. -/
def Record.fields (r : Record) (coloured : Bool) (now : Int) : Fields :=
  let s := (r.sheet now).shown coloured
  [("name", .text s.source), ("msg", .text s.text), ("args", .other "()"),
    ("levelname", .text s.levelName), ("levelno", .int s.level),
    ("pathname", .text ""), ("filename", .text ""), ("module", .text ""), ("exc_info", nothing),
    ("exc_text", nothing), ("stack_info", nothing), ("lineno", .int 0), ("funcName", nothing),
    ("created", .int s.created), ("msecs", .float (.ofNat 0)),
    ("relativeCreated", .float (.ofNat 0)), ("thread", .int 0), ("threadName", .text "MainThread"),
    ("processName", .text "MainProcess"), ("process", .int 0), ("message", .text s.text)]

/-- The fields of a record for a template. The time is there as text only where the template asks
for it. -/
def Record.fieldsFor (r : Record) (template : Text) (coloured : Bool) (now : Int) : Fields :=
  let fields := r.fields coloured now
  if occursIn "%(asctime)" template then fields.concat ("asctime", .text (clockText now))
  else fields

/-- The template that an empty one stands for. -/
def plainTemplate : Text := "%(message)s"

/-- The line of a record by a template. -/
def Record.fill (r : Record) (template : Text) (coloured : Bool) (now : Int) :
    Except TemplateFault Text :=
  let template := if template.isEmpty then plainTemplate else template
  if Template.hasField template then
    let fields := r.fieldsFor template coloured now
    fields.fill (some fields.whole) (Template.parts template)
  else .error (.noField template)

end BuildDispatch.Log
