import BuildDispatch.Options.Switch
import BuildDispatch.Path
import BuildDispatch.Text.Digit
import BuildDispatch.Text.Quoted

/-!
# Reading the command line

Arguments are read in two passes. The first tells words from options: an option may be written by
an unambiguous beginning of its long name, and short options may stand together. Two dashes alone
make words of all that follows. The second pass goes from left to right; an option that takes a
value takes the next word, the first word left is the operation, and what nobody takes is refused
at the end. Help is given as soon as it is asked for, so it depends on what stands before it.
-/

namespace BuildDispatch.Options

inductive UsageFault
  | ambiguous (argument : Text) (names : List Text)
  | unexpectedValue (label value : Text)
  | missingValue (label : Text)
  | invalidChoice (choice : Text) (choices : List Text)
  | unrecognized (arguments : List Text)
  | noOperation
deriving Repr, DecidableEq

open Text in
def UsageFault.message : UsageFault → Text
  | ambiguous argument names =>
    "ambiguous option: " ++ argument ++ " could match " ++ joinWith ", " names
  | unexpectedValue label value =>
    "argument " ++ label ++ ": ignored explicit argument " ++ quoted value
  | missingValue label => "argument " ++ label ++ ": expected one argument"
  | invalidChoice choice choices =>
    "argument " ++ operationLabel ++ ": invalid choice: " ++ quoted choice ++ " (choose from " ++
      joinWith ", " (choices.map quoted) ++ ")"
  | unrecognized arguments => "unrecognized arguments: " ++ joinWith " " arguments
  | noOperation => "an operation is required"

/-! ### Telling words from options -/

/-- Behind this argument there are no options. -/
def twoDashes : Text := "--"

/-- An option as it is written: the option it names, if it is a known one, the name by which it is
meant, and the value written in the same argument. -/
structure Mention where
  switch : Option Switch
  name : Text
  value : Option Text := none
  /-- The whole argument. -/
  argument : Text
deriving Repr

inductive Item
  | word (text : Text)
  | option (m : Mention)
  /-- Two dashes alone. -/
  | separator
deriving Repr

/-- The text before the first equals sign and the text behind it. -/
def splitEquals (argument : Text) : Option (Text × Text) :=
  let isOther (c : CodePoint) : Bool := c ≠ '='
  match argument.dropWhile isOther with
  | [] => none
  | _ :: value => some (argument.takeWhile isOther, value)

/-- Nothing, or the newline that may end a number. -/
def isEnd (t : Text) : Bool := t = [] || t = "\n"

def isDigit (c : CodePoint) : Bool := Text.isDecimalDigit c.toChar

/-- A negative number, which is a word although a dash begins it. -/
def isNegativeNumber (argument : Text) : Bool :=
  match argument with
  | .char '-' :: rest =>
    match rest.dropWhile isDigit with
    | .char '.' :: fraction =>
      (fraction.head?.map isDigit).getD false && isEnd (fraction.dropWhile isDigit)
    | tail => (rest.head?.map isDigit).getD false && isEnd tail
  | _ => false

/-- Whether an argument begins with two dashes, when it begins with one. -/
def isLong (argument : Text) : Bool := (argument.drop 1).head? = some (.char '-')

/-- The options that an argument with two dashes may abbreviate. -/
def longMentions (argument : Text) : List Mention :=
  let (head, value) := match splitEquals argument with
    | some (head, value) => (head, some value)
    | none => (argument, none)
  (namedSwitches.filter fun entry => head.isPrefixOf entry.1).map fun entry =>
    ⟨some entry.2, entry.1, value, argument⟩

/-- The options that an argument with one dash may mean: a short one with a value behind it, or one
that begins with the argument. -/
def shortMentions (argument : Text) : List Mention :=
  namedSwitches.filterMap fun entry =>
    if entry.1 = argument.take 2 then some ⟨some entry.2, entry.1, some (argument.drop 2), argument⟩
    else if argument.isPrefixOf entry.1 then some ⟨some entry.2, entry.1, none, argument⟩
    else none

/-- The options that an argument may mean which is no option's full name. -/
def mentions (argument : Text) : List Mention :=
  if isLong argument then longMentions argument else shortMentions argument

/-- The option that an argument names in full, before an equals sign. -/
def fullMention? (argument : Text) : Option Mention := do
  let (head, value) ← splitEquals argument
  let s ← switchNamed? head
  some ⟨some s, head, some value, argument⟩

/-- Tell a word from an option. An argument that no option fits is a word if it is a negative
number or holds a blank, else an unknown option. -/
def classify (argument : Text) : Except UsageFault Item :=
  if argument.head? ≠ some (.char '-') then .ok (.word argument)
  else
    match switchNamed? argument with
    | some s => .ok (.option ⟨some s, argument, none, argument⟩)
    | none =>
      if argument.length = 1 then .ok (.word argument)
      else
        match fullMention? argument with
        | some m => .ok (.option m)
        | none =>
          match mentions argument with
          | [m] => .ok (.option m)
          | [] =>
            if isNegativeNumber argument || argument.contains (.char ' ') then
              .ok (.word argument)
            else .ok (.option ⟨none, argument, none, argument⟩)
          | several => .error (.ambiguous argument (several.map Mention.name))

/-- Behind two dashes all is words. -/
def itemize : List Text → Except UsageFault (List Item)
  | [] => .ok []
  | argument :: rest =>
    if argument = "--" then .ok (.separator :: rest.map .word)
    else do
      let item ← classify argument
      let items ← itemize rest
      .ok (item :: items)

/-! ### Going through the items -/

/-- What the command line asks for. -/
structure Request where
  operation : Option Text := none
  rootDir : Option Path := none
  bundled : Bool := false
  list : Bool := false
  verbose : Bool := false
  dryRun : Bool := false
  logFile : Option Text := none
deriving Repr, DecidableEq

/-- How reading ends early. -/
inductive Stop
  | help
  | fault (f : UsageFault)
deriving Repr

abbrev Reading (α : Type) := Except Stop α

def refuse {α : Type} (f : UsageFault) : Reading α := .error (.fault f)

/-- A value as it counts: two dashes stand for none. -/
def counted (value : Option Text) : Option Text := value.filter fun t => t ≠ twoDashes

/-- Do what an option asks for. -/
def Request.take (r : Request) (action : Action) (value : Option Text) : Reading Request :=
  match action with
  | .help => .error .help
  | .rootDir => .ok { r with rootDir := (counted value).map Path.ofText }
  | .bundled => .ok { r with bundled := true }
  | .list => .ok { r with list := true }
  | .verbose => .ok { r with verbose := true }
  | .dryRun => .ok { r with dryRun := true }
  | .logFile => .ok { r with logFile := counted value }

/-- The options that stand together in one argument: one that takes no value may be followed by
the letters of others. Each action comes with its value, if it has one. No option of one letter
takes the next argument as its value. -/
def unfold (s : Switch) (name : Text) : Text → Reading (List (Action × Option Text))
  | [] =>
    if s.value.isSome then .ok [(s.action, some [])]
    else refuse (.unexpectedValue s.label [])
  | c :: rest =>
    if s.value.isSome then .ok [(s.action, some (c :: rest))]
    else if isLong name then refuse (.unexpectedValue s.label (c :: rest))
    else
      let next : Text := "-" ++ [c]
      match switchNamed? next with
      | none => refuse (.unexpectedValue s.label (c :: rest))
      | some t =>
        if rest.isEmpty then .ok [(s.action, none), (t.action, none)]
        else do
          let others ← unfold t next rest
          .ok ((s.action, none) :: others)

def Request.takeAll (r : Request) : List (Action × Option Text) → Reading Request
  | [] => .ok r
  | (action, value) :: rest => do
    let r ← r.take action value
    r.takeAll rest

/-- Take a word as the operation. -/
def Request.choose (r : Request) (choices : List Text) (word : Text) : Reading Request :=
  if word ∈ choices then .ok { r with operation := some word }
  else refuse (.invalidChoice word choices)

/-- What is known while going through the items: the request so far, whether the operation has
been taken, and what nobody took. -/
structure Progress where
  request : Request := {}
  taken : Bool := false
  extras : List Text := []

def Item.argument : Item → Text
  | word text => text
  | option m => m.argument
  | separator => twoDashes

/-- Go through the items. -/
def go (choices : List Text) : Progress → List Item → Reading Progress
  | p, [] => .ok p
  | p, .separator :: rest =>
    if p.taken then .ok { p with extras := p.extras ++ twoDashes :: rest.map Item.argument }
    else
      match rest with
      | .word text :: rest => do
        let request ← p.request.choose choices text
        .ok { p with request, taken := true, extras := p.extras ++ rest.map Item.argument }
      | _ => .ok { p with taken := true }
  | p, .word text :: rest =>
    if p.taken then go choices { p with extras := p.extras ++ [text] } rest
    else do
      let request ← p.request.choose choices text
      let p := { p with request, taken := true }
      match rest with
      | .separator :: rest => .ok { p with extras := p.extras ++ rest.map Item.argument }
      | rest => go choices p rest
  | p, .option m :: rest =>
    match m.switch with
    | none => go choices { p with extras := p.extras ++ [m.argument] } rest
    | some s =>
      match m.value with
      | some value => do
        let actions ← unfold s m.name value
        let request ← p.request.takeAll actions
        go choices { p with request } rest
      | none =>
        if s.value.isSome then
          match rest with
          | .word text :: rest => do
            let request ← p.request.take s.action (some text)
            go choices { p with request } rest
          | _ => refuse (.missingValue s.label)
        else do
          let request ← p.request.take s.action none
          go choices { p with request } rest

/-- Whether the request lacks an operation that it needs. -/
def Request.lacksOperation (r : Request) : Bool :=
  !r.list && (r.operation.getD []).isEmpty

/-- Read a command line. -/
def read (choices : List Text) (arguments : List Text) : Reading Request :=
  match itemize arguments with
  | .error f => refuse f
  | .ok items => do
    let p ← go choices {} items
    if !p.extras.isEmpty then refuse (.unrecognized p.extras)
    else if p.request.lacksOperation then refuse .noOperation
    else .ok p.request

end BuildDispatch.Options
