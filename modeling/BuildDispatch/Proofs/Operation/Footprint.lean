import BuildDispatch.Operation.Execute
import BuildDispatch.Proofs.Command.Runner

/-!
# The footprint of an operation

Whatever an operation does to the world, it does in the root directory and in the environment that
it was given: `Workshop.execute_every` holds of every operation, world and provisioner. The library
is never looked for while an operation runs.
-/

namespace BuildDispatch

namespace Workshop

open Run

/-- What an operation may do: run commands in the root directory and in its environment, hand that
environment to a provisioner, log and write. -/
def Permits (s : Workshop) (env : Environment) : Event → Prop
  | .attempted a => a.directory = some s.rootDir ∧ a.environment = env
  | .provisioned _ given => given = env
  | .logged _ | .wrote _ => True
  | .queried _ | .reported _ | .madeDirectory _ | .openedLog _ => False

variable (s : Workshop) (env : Environment)

theorem say_every (level : Log.Level) (source message : Text) :
    (s.runner.logger.say level source message).Every (s.Permits env) :=
  every_say _ _ _ _ fun _ => trivial

theorem run_every (command : List Text) (quiet : Bool) :
    (s.run command env quiet).Every (s.Permits env) :=
  Runner.run_every (fun _ => trivial) _ _ (fun _ => ⟨rfl, rfl⟩) _

theorem judge_every (name : Text) (status : Int) :
    (s.judge name status).Every (s.Permits env) := by
  unfold judge
  split
  · exact s.say_every env _ _ _
  · exact every_pure _

theorem forward_every (e : Entry) : (s.forward e env).Every (s.Permits env) := by
  have judged : ∀ status,
      (do s.judge e.name status; pure status : Run Int).Every (s.Permits env) :=
    fun status => (s.judge_every env _ _).bind fun _ _ => every_pure _
  refine (every_ofResult _).bind fun command _ => ?_
  refine (s.say_every env _ _ _).bind fun _ _ => ?_
  split
  · exact (s.run_every env _ _).bind fun status _ => judged status
  · split
    · refine (every_ofResult _).bind fun filter _ => ?_
      refine Every.bind ?_ fun found _ => ?_
      · exact Runner.stream_every (fun _ => trivial) (fun _ => trivial) _ _ ⟨rfl, rfl⟩ _
      · refine (s.say_every env _ _ _).bind fun _ _ => ?_
        exact (every_pure _).bind fun status _ => judged status
    · exact (every_fail _).bind fun status _ => judged status

theorem isAvailable_every (e : Entry) (tool : HelperTool) :
    (s.isAvailable e tool env).Every (s.Permits env) := by
  refine (every_ofResult _).bind fun command _ => ?_
  refine (s.say_every env _ _ _).bind fun _ _ => ?_
  exact (s.run_every env _ _).bind fun _ _ => every_pure _

theorem provision_every (tool : HelperTool) : (s.provision tool env).Every (s.Permits env) := by
  unfold provision
  split
  · refine (s.say_every env _ _ _).bind fun _ _ => ?_
    refine (s.run_every env _ _).bind fun status _ => ?_
    split
    · exact (s.say_every env _ _ _).bind fun _ _ => every_pure _
    · exact (s.say_every env _ _ _).bind fun _ _ => every_pure _
  · refine Every.bind ?_ fun _ _ => every_ofResult _
    exact every_emit rfl

theorem ensure_every (e : Entry) (tool : HelperTool) :
    (s.ensure e tool env).Every (s.Permits env) := by
  refine (s.isAvailable_every env e tool).bind fun found _ => ?_
  split
  · exact (s.say_every env _ _ _).bind fun _ _ => every_pure _
  · exact (s.say_every env _ _ _).bind fun _ _ => s.provision_every env tool

theorem helper_every (e : Entry) (tool : HelperTool) :
    (s.helper e tool env).Every (s.Permits env) := by
  refine (s.ensure_every env e tool).bind fun ready _ => ?_
  split
  · exact every_pure _
  · refine (every_ofResult _).bind fun command _ => ?_
    refine (s.say_every env _ _ _).bind fun _ _ => ?_
    refine (s.run_every env _ _).bind fun status _ => ?_
    exact (s.judge_every env _ _).bind fun _ _ => every_pure _

theorem execute_every (o : Operation) : (s.execute o env).Every (s.Permits env) := by
  cases o with
  | forward e => exact s.forward_every env e
  | helper e tool => exact s.helper_every env e tool
  | info e => exact (Sink.writeAll_every (fun _ => trivial) _ _).bind fun _ _ => every_pure _

/-- No operation asks which paths exist. -/
theorem queries_execute (o : Operation) : (s.execute o env).events.queries = [] := by
  refine Trace.queries_eq_nil fun ev hev path h => ?_
  have permitted := s.execute_every env o ev hev
  rwa [h] at permitted

end Workshop
end BuildDispatch
