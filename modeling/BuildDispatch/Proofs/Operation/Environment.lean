import BuildDispatch.Proofs.Command.Sinks
import BuildDispatch.Proofs.Operation.Obstacles

/-!
# The same operation in another environment

An operation hands its environment on and does not look into it. In another environment it does the
same, only that all it starts gets the other environment, as long as whoever installs tools makes
no difference either. A report on the environment is the exception: with one more variable at the
end of the environment it has one more line at its end, or it fails there.

## Main statements

* `Workshop.forward_rebased`, `Workshop.helper_rebased`: an operation that is no report, in two
  environments.
* `Workshop.info_insert`: a report on one more variable.
* `Workshop.execute_insert`: any operation, with one more variable in its environment.
-/

namespace BuildDispatch

open Run

/-! ### Runs that differ in their environments -/

/-- The same attempt in another environment. -/
def Attempt.rebase (f : Environment → Environment) (a : Attempt) : Attempt :=
  { a with environment := f a.environment }

/-- The same event, where `f` tells the environment that stands for each. -/
def Event.rebase (f : Environment → Environment) : Event → Event
  | .attempted a => .attempted (a.rebase f)
  | .provisioned tool env => .provisioned tool (f env)
  | ev => ev

/-- Whoever installs tools answers alike in both environments. -/
def Provisioner.Overlooks (p : Provisioner) (env env' : Environment) : Prop :=
  ∀ install, p = .asking install → ∀ tool, install tool env = install tool env'

theorem Provisioner.overlooks_toolchain (env env' : Environment) :
    Provisioner.toolchain.Overlooks env env' := nofun

namespace Run

variable {α : Type} {f : Environment → Environment}

/-- The second run is the first with other environments: all else is the same, event by event. -/
def Rebased (f : Environment → Environment) (r r' : Run α) : Prop :=
  r.Alongside (fun _ => true) (fun ev ev' => ev.rebase f = ev') (· = ·) r'

theorem Rebased.eq {r r' : Run α} (h : r.Rebased f r') : r' = r.mapEvents (Event.rebase f) := by
  obtain ⟨hevents, hresult⟩ := alongside_eq_iff (f := id).mp h
  rw [List.filter_true, List.filter_true] at hevents
  obtain ⟨events, result⟩ := r'
  rw [mapEvents, hresult, ← hevents]
  congr 1
  cases result <;> rfl

theorem rebased_self {r : Run α} (h : r.Every fun ev => ev.rebase f = ev) : r.Rebased f r :=
  alongside_self h

theorem rebased_say (l : Log.Logger) (level : Log.Level) (source message : Text) :
    (l.say level source message).Rebased f (l.say level source message) :=
  rebased_self (every_say l level source message fun _ => rfl)

end Run

namespace Trace

variable (f : Environment → Environment) (t : Trace)

theorem attempts_map_rebase :
    attempts (t.map (Event.rebase f)) = t.attempts.map (Attempt.rebase f) := by
  refine filterMap_map_map (fun ev => ?_) t
  cases ev <;> rfl

/-- What is logged has nothing to do with environments. -/
theorem records_map_rebase : records (t.map (Event.rebase f)) = t.records := by
  refine filterMap_map_of (fun ev => ?_) t
  cases ev <;> rfl

theorem output_map_rebase : output (t.map (Event.rebase f)) = t.output := by
  rw [output, output, List.flatMap_map]
  congr 1
  funext ev
  cases ev <;> rfl

end Trace

/-! ### Commands -/

variable (f : Environment → Environment)

theorem attempt_rebased (w : World) (a : Attempt) :
    (attempt w a).Rebased f (attempt w (a.rebase f)) := by
  rw [attempt_eq, attempt_eq]
  exact ⟨.cons rfl .nil, alike_self _⟩

namespace Runner

variable (r : Runner) (w : World) (command : List Text) (env : Environment) (d : Option Text)

/-- What comes of an attempt may have any consequences that have nothing to do with environments. -/
theorem attempted_rebased {α : Type} {announced : Run α} {go : Option (Int × Octets) → Run α}
    (hannounced : announced.Every fun ev => ev.rebase f = ev)
    (hgo : ∀ found, (go found).Every fun ev => ev.rebase f = ev) (routing : Routing) :
    (if r.dryRun then announced else do
        checkDirectory w d
        let found ← attempt w ⟨command, d, env, routing⟩
        go found).Rebased f
      (if r.dryRun then announced else do
        checkDirectory w d
        let found ← attempt w ⟨command, d, f env, routing⟩
        go found) := by
  split
  · exact rebased_self hannounced
  · refine (rebased_self (checkDirectory_every w d)).bind fun _ _ _ => ?_
    refine (attempt_rebased f w _).bind fun found _ heq => ?_
    obtain rfl := heq
    exact rebased_self (hgo found)

theorem run_rebased (quiet : Bool) :
    (r.run w command env d quiet).Rebased f (r.run w command (f env) d quiet) := by
  refine (rebased_say ..).bind fun _ _ _ => ?_
  extract_lets -underBinder rest rest'
  have hrest : (rest ()).Rebased f (rest' ()) := by
    refine attempted_rebased f r w command env d ?_ (fun found => ?_) _
    · exact (announce_every (fun _ => rfl) r command).bind fun _ _ => every_pure _
    · split
      · exact every_pure _
      · split
        · exact (reportMissing_every (fun _ => rfl) r command).bind fun _ _ => every_pure _
        · exact every_pure _
  cases d with
  | none => exact hrest
  | some d => exact (rebased_say ..).bind fun _ _ _ => hrest

theorem stream_rebased (filter : LineFilter) :
    (r.stream w command env d filter).Rebased f (r.stream w command (f env) d filter) := by
  refine (rebased_say ..).bind fun _ _ _ => ?_
  refine attempted_rebased f r w command env d ?_ (fun found => ?_) .piped
  · exact (announce_every (fun _ => rfl) r command).bind fun _ _ => every_pure _
  · split
    · refine Every.bind (every_emitAll ?_) fun _ _ => every_pure _
      exact filterLines_every (fun _ => rfl) _ _ _
    · exact (reportMissing_every (fun _ => rfl) r command).bind fun _ _ => every_pure _

end Runner

/-! ### Operations -/

namespace Workshop

variable (s : Workshop) (e : Entry) (tool : HelperTool) (env : Environment)

theorem run_rebased (command : List Text) (quiet : Bool) :
    (s.run command env quiet).Rebased f (s.run command (f env) quiet) :=
  Runner.run_rebased ..

theorem runTagged_rebased (tag : Text) (command : List Text) :
    (s.runTagged tag command env).Rebased f (s.runTagged tag command (f env)) := by
  refine (rebased_self (every_ofResult _)).bind fun filter _ heq => ?_
  obtain rfl := heq
  refine (Runner.stream_rebased f s.runner s.world command env _ filter).bind fun found _ heq => ?_
  obtain rfl := heq
  exact (rebased_say ..).bind fun _ _ _ => alongside_pure rfl

theorem forwardBy_rebased {run run' : List Text → Run Int}
    (hrun : ∀ command, (run command).Rebased f (run' command)) :
    (s.forwardBy e run).Rebased f (s.forwardBy e run') :=
  forwardBy_alongside (R := fun ev ev' => ev.rebase f = ev') e rfl rfl (fun _ => rfl) hrun

theorem forward_rebased : (s.forward e env).Rebased f (s.forward e (f env)) :=
  forward_alongside (R := fun ev ev' => ev.rebase f = ev') e rfl rfl (fun _ => rfl)
    (fun command => s.run_rebased f env command false)
    fun tag command => s.runTagged_rebased f env tag command

theorem isAvailable_rebased :
    (s.isAvailable e tool env).Rebased f (s.isAvailable e tool (f env)) := by
  refine (rebased_self (every_ofResult _)).bind fun command _ heq => ?_
  obtain rfl := heq
  refine (rebased_say ..).bind fun _ _ _ => ?_
  refine (s.run_rebased f env command true).bind fun status _ heq => ?_
  exact alongside_pure (heq ▸ rfl)

theorem install_rebased : (s.install tool env).Rebased f (s.install tool (f env)) := by
  refine (rebased_say ..).bind fun _ _ _ => ?_
  refine (s.run_rebased f env _ false).bind fun status _ heq => ?_
  obtain rfl := heq
  split
  · exact (rebased_say ..).bind fun _ _ _ => alongside_pure rfl
  · exact (rebased_say ..).bind fun _ _ _ => alongside_pure rfl

section Provisioner

variable {s env} (hprovisioner : s.provisioner.Overlooks env (f env))

include hprovisioner

theorem provision_rebased : (s.provision tool env).Rebased f (s.provision tool (f env)) := by
  unfold provision
  split
  · exact s.install_rebased f tool env
  · next install hasked =>
    have asked : (emit (.provisioned tool.name env)).Rebased f
        (emit (.provisioned tool.name (f env))) := ⟨.cons rfl .nil, alike_self _⟩
    refine asked.bind fun _ _ _ => ?_
    rw [hprovisioner install hasked]
    exact rebased_self (every_ofResult _)

theorem ensure_rebased : (s.ensure e tool env).Rebased f (s.ensure e tool (f env)) := by
  refine (s.isAvailable_rebased f e tool env).bind fun found _ heq => ?_
  obtain rfl := heq
  split
  · exact (rebased_say ..).bind fun _ _ _ => alongside_pure rfl
  · exact (rebased_say ..).bind fun _ _ _ => provision_rebased f tool hprovisioner

theorem helper_rebased : (s.helper e tool env).Rebased f (s.helper e tool (f env)) := by
  refine (ensure_rebased f e tool hprovisioner).bind fun ready _ heq => ?_
  obtain rfl := heq
  split
  · exact alongside_pure rfl
  · exact s.forwardBy_rebased f e fun command => s.run_rebased f env command false

end Provisioner
end Workshop

/-! ### Reports -/

/-- The line of a variable in a report. -/
def variableLine (key value : Text) : Text := key ++ "=" ++ value ++ "\n"

namespace Sink

variable (sink : Sink)

theorem writeAll_append (lines more : List Text) :
    sink.writeAll (lines ++ more) = sink.writeAll lines >>= fun _ => sink.writeAll more := by
  induction lines with
  | nil => exact (pure_bind ..).symm
  | cons t rest ih =>
    rw [List.cons_append, writeAll, writeAll, bind_assoc]
    exact bind_congr fun _ => ih

/-- A run whose answer is kept while a text is written after it. -/
def follow (r : Run Int) (t : Text) : Run Int := do
  let status ← r
  sink.write t
  pure status

variable {sink} {r : Run Int} {t : Text}

/-- Nothing follows a failure. -/
theorem follow_of_error {failure : Failure} (h : r.result = .error failure) :
    sink.follow r t = r := by
  rw [follow, bind_of_error h, ← h]

/-- What was done before a text is refused stays done. -/
theorem follow_of_refused {status : Int} {failure : Failure} (hresult : r.result = .ok status)
    (ht : sink.refusal t = some failure) : sink.follow r t = ⟨r.events, .error failure⟩ := by
  rw [follow, bind_of_ok hresult, sink.write_of_some ht, bind_of_error rfl]
  simp

theorem follow_of_ok {status : Int} (hresult : r.result = .ok status)
    (ht : sink.refusal t = none) :
    sink.follow r t = ⟨r.events ++ [.wrote (Utf8.encode t)], r.result⟩ := by
  rw [follow, bind_of_ok hresult, sink.write_of_none ht, bind_of_ok rfl, hresult]
  rfl

/-- Whatever is written, only output follows. -/
theorem filterMap_follow {α : Type} {pick : Event → Option α}
    (hpick : ∀ octets, pick (.wrote octets) = none) :
    (sink.follow r t).events.filterMap pick = r.events.filterMap pick := by
  cases hresult : r.result with
  | error failure => rw [follow_of_error hresult]
  | ok status =>
    cases ht : sink.refusal t with
    | none =>
      rw [follow_of_ok hresult ht, List.filterMap_append]
      simp [hpick]
    | some failure => rw [follow_of_refused hresult ht]

end Sink

namespace Workshop

variable (s : Workshop) {env : Environment} {key : Text} (habsent : key ∉ env.keys) (value : Text)

include habsent

/-- With one more variable a report goes on with the line of that variable. -/
theorem info_insert :
    s.info (env.insert key value) =
      s.runner.sink.follow (s.info env) (variableLine key value) := by
  have hlines : s.infoLines (env.insert key value) =
      s.infoLines env ++ [variableLine key value] := by
    unfold infoLines
    rw [Bindings.toList_insert_of_notMem habsent, List.map_append]
    rfl
  unfold info Sink.follow
  rw [hlines, Sink.writeAll_append]
  simp only [bind_assoc, pure_bind, Sink.writeAll]

end Workshop

/-! ### One more variable -/

namespace Run

variable (sink : Sink) (e : Entry) (key value : Text) (r : Run Int)

/-- What becomes of a run of the entry if one more variable is in its environment. -/
def withVariable : Run Int :=
  let rebased := r.mapEvents (Event.rebase fun env => env.insert key value)
  if e.kind = .info then sink.follow rebased (variableLine key value) else rebased

/-- For all that does not write, the line of the variable makes no difference. -/
theorem filterMap_withVariable {α : Type} {pick : Event → Option α}
    (hpick : ∀ octets, pick (.wrote octets) = none) :
    (r.withVariable sink e key value).events.filterMap pick =
      (r.events.map (Event.rebase fun env => env.insert key value)).filterMap pick := by
  unfold withVariable
  dsimp only
  split
  · exact Sink.filterMap_follow hpick
  · rfl

theorem attempts_withVariable :
    (r.withVariable sink e key value).events.attempts =
      r.events.attempts.map (Attempt.rebase fun env => env.insert key value) :=
  (filterMap_withVariable sink e key value r fun _ => rfl).trans (Trace.attempts_map_rebase _ _)

theorem records_withVariable :
    (r.withVariable sink e key value).events.records = r.events.records :=
  (filterMap_withVariable sink e key value r fun _ => rfl).trans (Trace.records_map_rebase _ _)

variable {sink e key value}

theorem withVariable_of_report (h : e.kind = .info) :
    r.withVariable sink e key value =
      sink.follow (r.mapEvents (Event.rebase fun env => env.insert key value))
        (variableLine key value) :=
  if_pos h

theorem withVariable_of_other (h : e.kind ≠ .info) :
    r.withVariable sink e key value =
      r.mapEvents (Event.rebase fun env => env.insert key value) :=
  if_neg h

variable {r}

/-- Only a report that is complete can end otherwise. -/
theorem result_withVariable (h : e.kind = .info → ∀ status, r.result = .ok status →
      sink.refusal (variableLine key value) = none) :
    (r.withVariable sink e key value).result = r.result := by
  by_cases hkind : e.kind = .info
  · rw [withVariable_of_report r hkind]
    cases hresult : r.result with
    | error failure =>
      rw [Sink.follow_of_error (r := r.mapEvents _) hresult]
      exact hresult
    | ok status =>
      rw [Sink.follow_of_ok (r := r.mapEvents _) hresult (h hkind status hresult)]
      exact hresult
  · rw [withVariable_of_other r hkind]
    rfl

theorem result_withVariable_of_refused (hkind : e.kind = .info) {status : Int}
    {failure : Failure} (hresult : r.result = .ok status)
    (h : sink.refusal (variableLine key value) = some failure) :
    (r.withVariable sink e key value).result = .error failure := by
  rw [withVariable_of_report r hkind, Sink.follow_of_refused (r := r.mapEvents _) hresult h]

/-- A report that is complete goes on with the line of the variable. -/
theorem output_withVariable_of_report (hkind : e.kind = .info) {status : Int}
    (hresult : r.result = .ok status) (h : sink.refusal (variableLine key value) = none) :
    (r.withVariable sink e key value).events.output =
      r.events.output ++ Utf8.encode (variableLine key value) := by
  rw [withVariable_of_report r hkind, Sink.follow_of_ok (r := r.mapEvents _) hresult h]
  have hsame := Trace.output_map_rebase (fun env => env.insert key value) r.events
  unfold Trace.output at hsame ⊢
  rw [List.flatMap_append, List.flatMap_singleton]
  exact congrArg (· ++ _) hsame

/-- All other output is the same. -/
theorem output_withVariable (h : e.kind = .info → ∀ status, r.result = .ok status →
      ∃ failure, sink.refusal (variableLine key value) = some failure) :
    (r.withVariable sink e key value).events.output = r.events.output := by
  have hsame := Trace.output_map_rebase (fun env => env.insert key value) r.events
  by_cases hkind : e.kind = .info
  · rw [withVariable_of_report r hkind]
    cases hresult : r.result with
    | error failure =>
      rw [Sink.follow_of_error (r := r.mapEvents _) hresult]
      exact hsame
    | ok status =>
      obtain ⟨failure, hrefused⟩ := h hkind status hresult
      rw [Sink.follow_of_refused (r := r.mapEvents _) hresult hrefused]
      exact hsame
  · rw [withVariable_of_other r hkind]
    exact hsame

/-- The variable makes no difference before the operation runs. -/
theorem withVariable_bind {α : Type} {before : Run α} {go : α → Run Int}
    (h : before.Every fun ev => ev.rebase (fun env => env.insert key value) = ev) :
    (before >>= go).withVariable sink e key value =
      before >>= fun a => (go a).withVariable sink e key value := by
  by_cases hkind : e.kind = .info
  · simp only [withVariable_of_report _ hkind, Sink.follow, mapEvents_bind, mapEvents_of_every h,
      bind_assoc]
  · simp only [withVariable_of_other _ hkind, mapEvents_bind, mapEvents_of_every h]

end Run

/-- Whatever an operation does, with one more variable it does the same, and a report has one more
line. -/
theorem Workshop.execute_insert {s : Workshop} {e : Entry} {o : Operation}
    (ho : Operation.ofEntry e = .ok o) {env : Environment} {key : Text} (habsent : key ∉ env.keys)
    {value : Text} (hprovisioner : e.kind = .helper →
      s.provisioner.Overlooks env (env.insert key value)) :
    s.execute o (env.insert key value) =
      (s.execute o env).withVariable s.runner.sink e key value := by
  rcases ofEntry_cases ho with ⟨hkind, rfl⟩ | ⟨tool, hkind, -, rfl⟩ | ⟨hkind, rfl⟩
  · rw [withVariable_of_other _ (by simp [hkind])]
    exact (s.forward_rebased (fun env => env.insert key value) e env).eq
  · rw [withVariable_of_other _ (by simp [hkind])]
    exact (helper_rebased (fun env => env.insert key value) e tool (hprovisioner hkind)).eq
  · have silent : (s.info env).Every fun ev => ev.rebase (fun env => env.insert key value) = ev :=
      (Sink.writeAll_every (fun _ => rfl) _ _).bind fun _ _ => every_pure _
    rw [withVariable_of_report _ hkind]
    exact (s.info_insert habsent value).trans (by rw [execute, mapEvents_of_every silent])

end BuildDispatch
