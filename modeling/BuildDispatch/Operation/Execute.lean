import BuildDispatch.Calendar.Text
import BuildDispatch.Command.Runner
import BuildDispatch.Invocation
import BuildDispatch.Operation

/-!
# Executing operations

* A forward operation runs one command, through a line filter if its entry has one.
* A helper operation checks for its tool, has it installed if the check fails, and runs its
  command unless the installation fails.
* An info operation writes date, directory and environment.
-/

namespace BuildDispatch

/-- Who installs helper tools: the toolchain, or somebody else, who answers with a status or
fails. -/
inductive Provisioner
  | toolchain
  | asking (install : HelperTool → Environment → Except Failure Int)

/-- Somebody else who always answers with a status. -/
def Provisioner.other (install : HelperTool → Environment → Int) : Provisioner :=
  .asking fun tool env => .ok (install tool env)

/-- What operations run with. -/
structure Workshop where
  world : World
  runner : Runner
  toolchain : Text
  rootDir : Text
  provisioner : Provisioner

/-- A toolchain command of an entry: the channel, if it has one, comes before the arguments. -/
def Entry.command (e : Entry) (toolchain : Text) (args : List Text) :
    Except Failure (List Text) :=
  if e.channel.isNothing then .ok (toolchain :: args)
  else
    match e.channel.text with
    | .ok channel => .ok (toolchain :: ("+" ++ channel) :: args)
    | .error cause => .error (.unwritable cause)

namespace Workshop

/-- Run a command in the root directory. -/
def run (s : Workshop) (command : List Text) (env : Environment) (quiet : Bool) : Run Int :=
  s.runner.run s.world command env (some s.rootDir) quiet

/-- Log the failure of an operation, if it failed. -/
def judge (s : Workshop) (name : Text) (status : Int) : Run Unit :=
  if status ≠ 0 then
    s.runner.logger.error (name ++ " failed with exit code " ++ toString status)
  else pure ()

def forward (s : Workshop) (e : Entry) (env : Environment) : Run Int := do
  let command ← .ofResult (e.command s.toolchain e.args)
  s.runner.logger.info (e.name ++ ": " ++ commandText command)
  let status ←
    if e.outputFilter.isNothing then s.run command env false
    else
      match e.outputFilter.view with
      | .str tag => do
        let filter ← .ofResult ((LineFilter.forTag tag).mapError .unencodable)
        let (status, filter) ← s.runner.stream s.world command env (some s.rootDir) filter
        s.runner.logger.debug
          ("Dropped " ++ toString filter.dropped ++ " lines tagged " ++ tag)
        pure status
      | v => .fail (.noAttribute v.fullKindName "encode")
  s.judge e.name status
  pure status

/-- Check for a helper tool; what the check writes is discarded. -/
def isAvailable (s : Workshop) (e : Entry) (tool : HelperTool) (env : Environment) : Run Bool := do
  let command ← .ofResult (e.command s.toolchain tool.checkArgs)
  s.runner.logger.debug ("Checking for " ++ tool.name ++ ": " ++ commandText command)
  let status ← s.run command env true
  pure (status == 0)

/-- Install a helper tool by a command of the toolchain, without any channel. -/
def install (s : Workshop) (tool : HelperTool) (env : Environment) : Run Int := do
  let command := s.toolchain :: tool.installArgs
  s.runner.logger.info ("Installing " ++ tool.name ++ ": " ++ commandText command)
  let status ← s.run command env false
  if status ≠ 0 then
    s.runner.logger.error
      ("Installation of " ++ tool.name ++ " failed with exit code " ++ toString status)
  else
    s.runner.logger.success ("Installed " ++ tool.name)
  pure status

def provision (s : Workshop) (tool : HelperTool) (env : Environment) : Run Int :=
  match s.provisioner with
  | .toolchain => s.install tool env
  | .asking install => do
    .emit (.provisioned tool.name env)
    .ofResult (install tool env)

/-- See that a helper tool is there. The status is zero if it is. -/
def ensure (s : Workshop) (e : Entry) (tool : HelperTool) (env : Environment) : Run Int := do
  if ← s.isAvailable e tool env then
    s.runner.logger.debug (tool.name ++ " already installed")
    pure 0
  else
    s.runner.logger.info (tool.name ++ " not found")
    s.provision tool env

def helper (s : Workshop) (e : Entry) (tool : HelperTool) (env : Environment) : Run Int := do
  let ready ← s.ensure e tool env
  if ready ≠ 0 then pure ready
  else
    let command ← .ofResult (e.command s.toolchain e.args)
    s.runner.logger.info (e.name ++ ": " ++ commandText command)
    let status ← s.run command env false
    s.judge e.name status
    pure status

/-- The report of an info operation, line by line. -/
def infoLines (s : Workshop) (env : Environment) : List Text :=
  (s.world.clock.text ++ "\n") :: (s.rootDir ++ "\n") ::
    env.toList.map fun v => v.1 ++ "=" ++ v.2 ++ "\n"

def info (s : Workshop) (env : Environment) : Run Int := do
  s.runner.sink.writeAll (s.infoLines env)
  pure 0

def execute (s : Workshop) (o : Operation) (env : Environment) : Run Int :=
  match o with
  | .forward e => s.forward e env
  | .helper e tool => s.helper e tool env
  | .info _ => s.info env

end Workshop
end BuildDispatch
