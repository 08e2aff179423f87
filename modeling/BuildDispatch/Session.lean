import BuildDispatch.Library.Lookup
import BuildDispatch.Operation.Execute
import BuildDispatch.Text.Columns

/-!
# Sessions

A session dispatches operations one after the other. It keeps the operations made ready so far,
the last resolution of the native library, and the parts of the invocation that may be set in
between. A step yields an answer or a failure, the events in between, and the next state; what was
changed before a failure stays changed.

## Main definitions

* `Session.resolveLibrary`, `Session.environmentFor`, `Session.dispatch`: the three activities.
* `Session.Step`, `Session.step`: everything that may happen in a session.
-/

namespace BuildDispatch

/-- An operation made ready, with the number of those made ready before it. -/
structure Instance where
  serial : Nat
  operation : Operation
deriving Repr

/-- What a session cannot change. -/
structure Setup where
  catalogue : Catalogue
  logger : Log.Logger
  sink : Sink := .text
  provisioner : Provisioner := .toolchain

structure Session where
  world : World
  invocation : Invocation
  /-- The operations made ready, under their names. -/
  instances : Bindings Instance := .empty
  resolution : Option Resolution := none
  /-- The serial numbers of the operations handed out, in order. -/
  handedOut : List Nat := []

/-- A run and the session after it. -/
structure Progress (α : Type) where
  run : Run α
  session : Session

namespace Session

/-- The answer of a step that does nothing in the world. -/
def still {α : Type} (s : Session) (result : Except Failure α) : Progress α := ⟨⟨[], result⟩, s⟩

def workshop (c : Setup) (s : Session) : Workshop where
  world := s.world
  runner := { logger := c.logger, dryRun := s.invocation.dryRun, sink := c.sink }
  toolchain := s.invocation.toolchain
  rootDir := s.invocation.rootDir.text
  provisioner := c.provisioner

/-- The operation under a name or alias. It is made ready once, all names of an entry sharing
it. -/
def obtain (c : Setup) (s : Session) (name : Text) : Except Failure Instance × Session :=
  match c.catalogue.find? name with
  | none => (.error (.unknownOperation name c.catalogue.keys), s)
  | some e =>
    match s.instances.find? e.name with
    | some i => (.ok i, s)
    | none =>
      match Operation.ofEntry e with
      | .error failure => (.error failure, s)
      | .ok operation =>
        let i : Instance := ⟨s.instances.toList.length, operation⟩
        (.ok i, { s with instances := s.instances.insert e.name i })

/-- Look up the native library and remember the outcome. -/
def resolveLibrary (c : Setup) (s : Session) : Progress Resolution :=
  let run := s.invocation.library.resolve c.logger s.world s.invocation.useSystemLibrary
  match run.result with
  | .ok r => ⟨run, { s with resolution := some r }⟩
  | .error _ => ⟨run, s⟩

/-- The environment for an operation. A build gets that of a resolution, which is looked up unless
it is given; all else gets the plain environment. -/
def environmentFor (c : Setup) (s : Session) (o : Operation) (given : Option Resolution) :
    Progress Environment :=
  if o.usesBuildEnv then
    match given with
    | some r => s.still (.ok (r.apply s.invocation.baseEnv))
    | none =>
      let p := s.resolveLibrary c
      ⟨do
        let r ← p.run
        pure (r.apply s.invocation.baseEnv), p.session⟩
  else s.still (.ok s.invocation.baseEnv)

/-- Tell which library a build will use. -/
def announceLibrary (c : Setup) (s : Session) : Run Unit :=
  match s.resolution with
  | some r => c.logger.debug ("Native library: " ++ r.describe)
  | none => pure ()

/-- Run the operation under a name in its environment. -/
def dispatch (c : Setup) (s : Session) (name : Text) : Progress Int :=
  match s.obtain c name with
  | (.error failure, s) => s.still (.error failure)
  | (.ok i, s) =>
    let p := { s with resolution := none }.environmentFor c i.operation none
    ⟨do
      let env ← p.run
      p.session.announceLibrary c
      (p.session.workshop c).execute i.operation env, p.session⟩

/-! ### The catalogue as text -/

def version : Text := "1.0.0"

/-- The line of an entry: its names, and its description behind them. -/
def rowText (e : Entry) : Text :=
  "  " ++ Text.padRight 20 (Text.joinWith ", " e.names) ++ " " ++ e.description ++ "\n"

/-- The heading of the catalogue, part by part. -/
def heading (i : Invocation) : List Text := [
  "\nmlm build system v" ++ version ++ "\n",
  String.ofList (List.replicate 50 '=') ++ "\n",
  "Toolchain: " ++ i.toolchain ++ "\n",
  "Root Directory: " ++ i.rootDir.text ++ "\n",
  "\nOperations:\n"]

/-- The catalogue, part by part. -/
def listing (c : Catalogue) (i : Invocation) : List Text := heading i ++ c.entries.map rowText

/-! ### Steps -/

inductive Step
  | setWorld (w : World)
  | dispatch (name : Text)
  | resolveLibrary
  | names
  | has (name : Text)
  | describe
  | list
  | setVariable (key value : Text)
  | setEnvironment (env : Environment)
  | baseEnvironment
  | setUseSystem (useSystem : Bool)
  | get (name : Text)
  | environmentFor (name : Text) (given : Option Resolution)
  | command (name : Text) (args : List Text)
  | isAvailable (name : Text) (env : Environment)
  | execute (name : Text) (env : Environment)

inductive Answer
  | done
  | status (status : Int)
  | resolution (r : Resolution)
  | names (names : List Text)
  | flag (b : Bool)
  | entries (entries : List Entry)
  | environment (env : Environment)
  | command (words : List Text)
  /-- An operation, and its number among the distinct ones handed out. -/
  | operation (number : Nat) (o : Operation)
deriving Repr

def Progress.map {α β : Type} (f : α → β) (p : Progress α) : Progress β :=
  ⟨do
    let a ← p.run
    pure (f a), p.session⟩

/-- Go on with the operation under a name. -/
def withOperation (c : Setup) (s : Session) (name : Text)
    (f : Session → Instance → Progress Answer) : Progress Answer :=
  match s.obtain c name with
  | (.error failure, s) => s.still (.error failure)
  | (.ok i, s) => f s i

/-- Hand out an operation under the number of its first time. -/
def handOut (s : Session) (i : Instance) : Progress Answer :=
  match s.handedOut.findIdx? (· == i.serial) with
  | some n => s.still (.ok (.operation n i.operation))
  | none =>
    { s with handedOut := s.handedOut ++ [i.serial] }.still
      (.ok (.operation s.handedOut.length i.operation))

def setVariable (s : Session) (key value : Text) : Session :=
  { s with
    invocation := { s.invocation with baseEnv := s.invocation.baseEnv.insert key value } }

/-- Put another environment in place of the one that the invocation was gathered from. -/
def setEnvironment (s : Session) (env : Environment) : Session :=
  { s with invocation := { s.invocation with baseEnv := env } }

def setUseSystem (s : Session) (useSystem : Bool) : Session :=
  { s with invocation := { s.invocation with useSystemLibrary := useSystem } }

/-- Whether the helper tool of an operation is there; only helper operations can tell. -/
def availability (c : Setup) (s : Session) (o : Operation) (env : Environment) : Run Answer :=
  match o with
  | .helper e tool => do
    let found ← (s.workshop c).isAvailable e tool env
    pure (.flag found)
  | o => .fail (.noAttribute o.kindLabel "is_available")

def step (c : Setup) (s : Session) : Step → Progress Answer
  | .setWorld w => { s with world := w }.still (.ok .done)
  | .dispatch name => Progress.map .status (s.dispatch c name)
  | .resolveLibrary => Progress.map .resolution (s.resolveLibrary c)
  | .names => s.still (.ok (.names c.catalogue.keys))
  | .has name => s.still (.ok (.flag (c.catalogue.contains name)))
  | .describe => s.still (.ok (.entries c.catalogue.entries))
  | .list =>
    ⟨do
      c.sink.writeAll (listing c.catalogue s.invocation)
      pure .done, s⟩
  | .setVariable key value => (s.setVariable key value).still (.ok .done)
  | .setEnvironment env => (s.setEnvironment env).still (.ok .done)
  | .baseEnvironment => s.still (.ok (.environment s.invocation.baseEnv))
  | .setUseSystem useSystem => (s.setUseSystem useSystem).still (.ok .done)
  | .get name => s.withOperation c name handOut
  | .environmentFor name given =>
    s.withOperation c name fun s i =>
      Progress.map .environment (s.environmentFor c i.operation given)
  | .command name args =>
    s.withOperation c name fun s i =>
      s.still ((i.operation.entry.command s.invocation.toolchain args).map .command)
  | .isAvailable name env =>
    s.withOperation c name fun s i => ⟨s.availability c i.operation env, s⟩
  | .execute name env =>
    s.withOperation c name fun s i =>
      ⟨do
        let status ← (s.workshop c).execute i.operation env
        pure (.status status), s⟩

/-- Each step's run and the session after it. -/
def steps (c : Setup) : Session → List Step → List (Progress Answer)
  | _, [] => []
  | s, st :: rest =>
    let p := s.step c st
    p :: steps c p.session rest

end Session
end BuildDispatch
