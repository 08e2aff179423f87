import BuildDispatch.Bindings
import BuildDispatch.Failure
import BuildDispatch.Log.Level
import BuildDispatch.World

/-!
# Runs

A run of the program is what it does, event by event, and how it ends. What was done before a
failure stays done: the events of a failed run are those up to the failure.

## Main definitions

* `Event`: a question to the world, an attempt to run a command, a call for a helper tool, a log
  record, or output.
* `Run`: the events and the result. `Run.bind` goes on with a second run where the first succeeds.
-/

namespace BuildDispatch

/-- Where the output of a command goes. -/
inductive Routing
  | inherited
  | discarded
  /-- Standard output comes to the program line by line; standard error is inherited. -/
  | piped
deriving Repr, DecidableEq

/-- An attempt to run a command. -/
structure Attempt where
  command : List Text
  directory : Option Text
  environment : Environment
  routing : Routing
deriving Repr, DecidableEq

inductive Event
  | queried (path : Text)
  | attempted (attempt : Attempt)
  /-- Somebody else was asked to install a helper tool. -/
  | provisioned (tool : Text) (environment : Environment)
  | logged (record : Log.Record)
  | wrote (octets : Octets)
  /-- A message went straight to the error stream. -/
  | reported (text : Text)
  /-- A directory was made for a log file, unless it was there. -/
  | madeDirectory (path : Text)
  /-- A log file was opened. -/
  | openedLog (file : Text)
deriving Repr, DecidableEq

abbrev Trace := List Event

namespace Trace

/-- The paths that were asked for. -/
def queries (t : Trace) : List Text := t.filterMap fun
  | .queried path => some path
  | _ => none

def attempts (t : Trace) : List Attempt := t.filterMap fun
  | .attempted a => some a
  | _ => none

def provisions (t : Trace) : List (Text × Environment) := t.filterMap fun
  | .provisioned tool env => some (tool, env)
  | _ => none

def records (t : Trace) : List Log.Record := t.filterMap fun
  | .logged r => some r
  | _ => none

/-- All output, in order. -/
def output (t : Trace) : Octets := t.flatMap fun
  | .wrote octets => octets
  | _ => []

@[simp] theorem queries_append (t u : Trace) : queries (t ++ u) = queries t ++ queries u :=
  List.filterMap_append

@[simp] theorem attempts_append (t u : Trace) :
    attempts (t ++ u) = attempts t ++ attempts u :=
  List.filterMap_append

end Trace

structure Run (α : Type) where
  events : Trace
  result : Except Failure α
deriving Repr

namespace Run

variable {α β : Type}

protected def pure (a : α) : Run α := ⟨[], .ok a⟩

protected def bind (r : Run α) (f : α → Run β) : Run β :=
  match r.result with
  | .ok a => ⟨r.events ++ (f a).events, (f a).result⟩
  | .error e => ⟨r.events, .error e⟩

instance : Monad Run where
  pure := Run.pure
  bind := Run.bind

def fail (e : Failure) : Run α := ⟨[], .error e⟩

/-- A run in which nothing happens. -/
def ofResult (r : Except Failure α) : Run α := ⟨[], r⟩

def emit (e : Event) : Run Unit := ⟨[e], .ok ()⟩

def emitAll (events : Trace) : Run Unit := ⟨events, .ok ()⟩

@[simp] theorem pure_events (a : α) : (pure a : Run α).events = [] := rfl

@[simp] theorem pure_result (a : α) : (pure a : Run α).result = .ok a := rfl

@[simp] theorem fail_events (e : Failure) : (fail e : Run α).events = [] := rfl

@[simp] theorem fail_result (e : Failure) : (fail e : Run α).result = .error e := rfl

@[simp] theorem ofResult_events (r : Except Failure α) : (ofResult r).events = [] := rfl

@[simp] theorem ofResult_result (r : Except Failure α) : (ofResult r).result = r := rfl

@[simp] theorem emit_events (e : Event) : (emit e).events = [e] := rfl

@[simp] theorem emit_result (e : Event) : (emit e).result = .ok () := rfl

@[simp] theorem emitAll_events (t : Trace) : (emitAll t).events = t := rfl

@[simp] theorem emitAll_result (t : Trace) : (emitAll t).result = .ok () := rfl

theorem bind_of_ok {r : Run α} {a : α} (h : r.result = .ok a) (f : α → Run β) :
    r >>= f = ⟨r.events ++ (f a).events, (f a).result⟩ := by
  change Run.bind r f = _
  simp [Run.bind, h]

theorem bind_of_error {r : Run α} {e : Failure} (h : r.result = .error e) (f : α → Run β) :
    r >>= f = ⟨r.events, .error e⟩ := by
  change Run.bind r f = _
  simp [Run.bind, h]

end Run
end BuildDispatch
