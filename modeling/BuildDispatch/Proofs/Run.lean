import BuildDispatch.Command.Runner

/-!
# Reasoning about runs

Two ways to speak about a run without looking at its steps. `Run.Every P` says that all of its
events are as `P` says; `Run.Shows keep t r` says that its events of one kind, those that `keep`
picks, are `t` in this order, and that it ends with `r`. Both go through `bind`, so a property of a
program is put together from the properties of its parts.
-/

namespace BuildDispatch

/-- All events but log records. -/
def Event.isDeed : Event → Bool
  | .logged _ => false
  | _ => true

namespace Trace

/-! ### Views of a trace

A view picks a part of some events. What is done to a trace event by event is seen in a view, or it
is not. -/

section Views

variable {α : Type} {pick : Event → Option α}

/-- Events may be left out of which nothing is picked. -/
theorem filterMap_filter_of {keep : Event → Bool} (h : ∀ ev, keep ev = false → pick ev = none)
    (t : Trace) : (t.filter keep).filterMap pick = t.filterMap pick := by
  rw [List.filterMap_filter]
  congr 1
  funext ev
  cases hkeep : keep ev with
  | true => rfl
  | false => exact (h ev hkeep).symm

/-- Where the same is picked of the new events, nothing is seen of the change. -/
theorem filterMap_map_of {g : Event → Event} (h : ∀ ev, pick (g ev) = pick ev) (t : Trace) :
    (t.map g).filterMap pick = t.filterMap pick := by
  rw [List.filterMap_map]
  exact congrArg (fun view => t.filterMap view) (funext h)

/-- Where the image of the same is picked, the view is the image of the view. -/
theorem filterMap_map_map {g : Event → Event} {k : α → α}
    (h : ∀ ev, pick (g ev) = (pick ev).map k) (t : Trace) :
    (t.map g).filterMap pick = (t.filterMap pick).map k := by
  rw [List.filterMap_map, List.map_filterMap]
  exact congrArg (fun view => t.filterMap view) (funext h)

end Views

theorem queries_eq_nil {t : Trace} (h : ∀ ev ∈ t, ∀ path, ev ≠ .queried path) :
    t.queries = [] := by
  rw [queries, List.filterMap_eq_nil_iff]
  intro ev hev
  cases ev with
  | queried path => exact absurd rfl (h _ hev path)
  | _ => rfl

theorem mem_attempts {t : Trace} {a : Attempt} : a ∈ t.attempts ↔ .attempted a ∈ t := by
  simp only [attempts, List.mem_filterMap]
  constructor
  · rintro ⟨ev, hev, he⟩
    cases ev <;> simp_all
  · intro h
    exact ⟨_, h, rfl⟩

theorem mem_provisions {t : Trace} {p : Text × Environment} :
    p ∈ t.provisions ↔ .provisioned p.1 p.2 ∈ t := by
  simp only [provisions, List.mem_filterMap]
  constructor
  · rintro ⟨ev, hev, he⟩
    cases ev <;> simp_all
    obtain rfl := he
    exact hev
  · intro h
    exact ⟨_, h, rfl⟩

theorem mem_records {t : Trace} {r : Log.Record} : r ∈ t.records ↔ .logged r ∈ t := by
  simp only [records, List.mem_filterMap]
  constructor
  · rintro ⟨ev, hev, he⟩
    cases ev <;> simp_all
  · intro h
    exact ⟨_, h, rfl⟩

/-- Picking events keeps all attempts if every attempt is picked. -/
theorem attempts_filter {keep : Event → Bool} (h : ∀ a, keep (.attempted a) = true) (t : Trace) :
    attempts (t.filter keep) = t.attempts := by
  refine filterMap_filter_of (fun ev hev => ?_) t
  cases ev with
  | attempted a => cases (h a).symm.trans hev
  | _ => rfl

theorem provisions_filter {keep : Event → Bool}
    (h : ∀ tool env, keep (.provisioned tool env) = true) (t : Trace) :
    provisions (t.filter keep) = t.provisions := by
  refine filterMap_filter_of (fun ev hev => ?_) t
  cases ev with
  | provisioned tool env => cases (h tool env).symm.trans hev
  | _ => rfl

theorem queries_map_queried (paths : List Text) : queries (paths.map .queried) = paths := by
  rw [queries, List.filterMap_map]
  exact List.filterMap_some

theorem records_map_queried (paths : List Text) : records (paths.map .queried) = [] := by
  rw [records, List.filterMap_map]
  exact List.filterMap_eq_nil_iff.mpr fun _ _ => rfl

theorem records_append (t u : Trace) : records (t ++ u) = records t ++ records u :=
  List.filterMap_append

/-- Log records are not among the questions. -/
theorem queries_filter_isDeed (t : Trace) : queries (t.filter Event.isDeed) = t.queries := by
  refine filterMap_filter_of (fun ev hev => ?_) t
  cases ev with
  | queried path => cases hev
  | _ => rfl

end Trace

namespace Run

variable {α β : Type}

/-! ### What holds of every event -/

def Every (P : Event → Prop) (r : Run α) : Prop := ∀ ev ∈ r.events, P ev

section Every

variable {P Q : Event → Prop}

theorem Every.mono {r : Run α} (h : r.Every P) (hPQ : ∀ ev, P ev → Q ev) : r.Every Q :=
  fun ev hev => hPQ ev (h ev hev)

theorem every_of_nil {r : Run α} (h : r.events = []) : r.Every P := by
  simp [Every, h]

theorem every_pure (a : α) : (pure a : Run α).Every P := every_of_nil rfl

theorem every_fail (e : Failure) : (fail e : Run α).Every P := every_of_nil rfl

theorem every_ofResult (r : Except Failure α) : (ofResult r).Every P := every_of_nil rfl

theorem every_emit {e : Event} (h : P e) : (emit e).Every P := by
  simpa [Every] using h

theorem every_emitAll {t : Trace} (h : ∀ ev ∈ t, P ev) : (emitAll t).Every P := h

/-- The second run matters only where the first succeeds. -/
theorem Every.bind {r : Run α} {f : α → Run β} (hr : r.Every P)
    (hf : ∀ a, r.result = .ok a → (f a).Every P) : (r >>= f).Every P := by
  cases h : r.result with
  | error e =>
    rw [bind_of_error h]
    exact hr
  | ok a =>
    rw [bind_of_ok h]
    intro ev hev
    rcases List.mem_append.mp hev with hev | hev
    · exact hr ev hev
    · exact hf a h ev hev

theorem every_say_of {level : Log.Level} {source message : Text}
    (h : P (.logged ⟨level, source, message⟩)) (l : Log.Logger) :
    (l.say level source message).Every P := by
  unfold Log.Logger.say
  split
  · exact every_emit h
  · exact every_pure _

theorem every_say (l : Log.Logger) (level : Log.Level) (source message : Text)
    (h : ∀ r, P (.logged r)) : (l.say level source message).Every P :=
  every_say_of (h _) l

end Every

@[simp] theorem say_result (l : Log.Logger) (level : Log.Level) (source message : Text) :
    (l.say level source message).result = .ok () := by
  unfold Log.Logger.say
  split <;> rfl

/-- What is more than diagnosis is logged at either verbosity. -/
theorem say_of_info_le {level : Log.Level} (h : .info ≤ level) (l : Log.Logger)
    (source message : Text) :
    l.say level source message = emit (.logged ⟨level, source, message⟩) := by
  have hthreshold : l.threshold ≤ .info := by
    unfold Log.Logger.threshold
    split <;> decide
  have hkeeps : l.keeps level = true := decide_eq_true (Int.le_trans hthreshold h)
  exact if_pos hkeeps

/-! ### Events of one kind and the result -/

/-- The events that `keep` picks are `t`, and the run ends with `result`. -/
structure Shows (keep : Event → Bool) (r : Run α) (t : Trace) (result : Except Failure α) :
    Prop where
  events : r.events.filter keep = t
  result : r.result = result

section Shows

variable {keep : Event → Bool}

theorem shows_pure (a : α) : (pure a : Run α).Shows keep [] (.ok a) := ⟨rfl, rfl⟩

theorem shows_fail (e : Failure) : (fail e : Run α).Shows keep [] (.error e) := ⟨rfl, rfl⟩

theorem shows_ofResult (r : Except Failure α) : (ofResult r).Shows keep [] r := ⟨rfl, rfl⟩

theorem shows_emit {e : Event} (h : keep e = true) : (emit e).Shows keep [e] (.ok ()) :=
  ⟨by simp [h], rfl⟩

theorem Shows.bind_ok {r : Run α} {f : α → Run β} {a : α} {t u : Trace}
    {result : Except Failure β} (hr : r.Shows keep t (.ok a)) (hf : (f a).Shows keep u result) :
    (r >>= f).Shows keep (t ++ u) result := by
  rw [bind_of_ok hr.result]
  exact ⟨by rw [List.filter_append, hr.events, hf.events], hf.result⟩

theorem Shows.bind_error {r : Run α} {f : α → Run β} {e : Failure} {t : Trace}
    (hr : r.Shows keep t (.error e)) : (r >>= f).Shows keep t (.error e) := by
  rw [bind_of_error hr.result]
  exact ⟨hr.events, rfl⟩

theorem Every.shows {r : Run α} (h : r.Every fun ev => keep ev = false)
    {result : Except Failure α} (hresult : r.result = result) : r.Shows keep [] result :=
  ⟨List.filter_eq_nil_iff.mpr fun ev hev => by simp [h ev hev], hresult⟩

/-- A run shows one thing only. -/
theorem Shows.unique {r : Run α} {t u : Trace} {a b : Except Failure α} (h : r.Shows keep t a)
    (h' : r.Shows keep u b) : t = u ∧ a = b :=
  ⟨h.events.symm.trans h'.events, h.result.symm.trans h'.result⟩

/-- Before a run that shows something, a run that shows nothing may stand. -/
theorem Shows.after {r : Run α} {f : α → Run β} {a : α} {u : Trace}
    {result : Except Failure β} (hf : (f a).Shows keep u result) (hr : r.Shows keep [] (.ok a)) :
    (r >>= f).Shows keep u result := by
  simpa using hr.bind_ok hf

/-- After a run that shows something, too. -/
theorem Shows.before {r : Run α} {f : α → Run β} {a : α} {t : Trace}
    {result : Except Failure β} (hr : r.Shows keep t (.ok a)) (hf : (f a).Shows keep [] result) :
    (r >>= f).Shows keep t result := by
  simpa using hr.bind_ok hf

/-- What follows a run may turn its answer into another, as long as it shows nothing. -/
theorem Shows.bind_map {r : Run α} {f : α → Run β} {g : α → β} {t : Trace}
    {result : Except Failure α} (hr : r.Shows keep t result)
    (hf : ∀ a, (f a).Shows keep [] (.ok (g a))) : (r >>= f).Shows keep t (result.map g) := by
  cases result with
  | error e => exact hr.bind_error
  | ok a => exact hr.before (hf a)

theorem Shows.bind_same {r : Run α} {f : α → Run α} {t : Trace} {result : Except Failure α}
    (hr : r.Shows keep t result) (hf : ∀ a, (f a).Shows keep [] (.ok a)) :
    (r >>= f).Shows keep t result := by
  cases result with
  | error e => exact hr.bind_error
  | ok a => exact hr.before (hf a)

theorem shows_say (l : Log.Logger) (level : Log.Level) (source message : Text)
    (h : ∀ r, keep (.logged r) = false) :
    (l.say level source message).Shows keep [] (.ok ()) := by
  refine ⟨?_, say_result ..⟩
  unfold Log.Logger.say
  split <;> simp [h]

/-- Where diagnosis does not count, a message for diagnosis is nothing. -/
theorem shows_debug {message : Text} (h : keep (.logged ⟨.debug, Log.rootSource, message⟩) = false)
    (l : Log.Logger) : (l.debug message).Shows keep [] (.ok ()) :=
  (every_say_of h l).shows (say_result ..)

end Shows

end Run
end BuildDispatch
