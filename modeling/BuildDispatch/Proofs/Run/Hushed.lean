import BuildDispatch.Proofs.Run

/-!
# Runs that are hushed

A run is hushed by taking the records below information out of it. Everything else stays, in its
order, and so does the result. A logger that is not verbose hushes what it would say if it were, and
this goes through `bind`: a program that hands one logger on is hushed as a whole.

## Main statements

* `Run.hushed_say`: the same message by a verbose logger and by one that is not.
* `Run.Hushed.bind`: hushed runs one after the other.
-/

namespace BuildDispatch

/-- Everything but records that only verbose loggers keep. -/
def Event.isHeard : Event → Bool
  | .logged r => Log.Level.info ≤ r.level
  | _ => true

/-- The logger made verbose, or not. -/
def Log.Logger.withVerbose (l : Logger) (verbose : Bool) : Logger := { l with verbose }

namespace Trace

/-- Only records are not heard, so what is seen of other events is the same. -/
theorem filterMap_filter_isHeard {α : Type} {pick : Event → Option α}
    (h : ∀ r, pick (.logged r) = none) (t : Trace) :
    (t.filter Event.isHeard).filterMap pick = t.filterMap pick := by
  refine filterMap_filter_of (fun ev hev => ?_) t
  cases ev with
  | logged r => exact h r
  | _ => cases hev

theorem records_filter_isHeard (t : Trace) :
    records (t.filter Event.isHeard) =
      t.records.filter fun r => Log.Level.info ≤ r.level := by
  rw [records, records, List.filterMap_filter, List.filter_filterMap]
  congr 1
  funext ev
  cases ev with
  | logged r => simp [Event.isHeard, Option.filter_some]
  | _ => rfl

theorem output_filter_isHeard (t : Trace) : output (t.filter Event.isHeard) = t.output := by
  induction t with
  | nil => rfl
  | cons ev rest ih =>
    cases hev : ev.isHeard with
    | true =>
      rw [List.filter_cons_of_pos hev]
      exact congrArg (_ ++ ·) ih
    | false =>
      rw [List.filter_cons_of_neg (by simp [hev])]
      cases ev with
      | logged r => exact ih
      | _ => cases hev

end Trace

namespace Run

variable {α β : Type}

/-- The second run is the first without what is not heard. -/
structure Hushed (r r' : Run α) : Prop where
  events : r'.events = r.events.filter Event.isHeard
  result : r'.result = r.result

/-- Where all is heard there is nothing to hush. -/
theorem hushed_self {r : Run α} (h : r.Every fun ev => ev.isHeard = true) : r.Hushed r :=
  ⟨(List.filter_eq_self.mpr h).symm, rfl⟩

theorem hushed_pure (a : α) : (pure a : Run α).Hushed (pure a) := ⟨rfl, rfl⟩

theorem Hushed.bind {r r' : Run α} {f f' : α → Run β} (h : r.Hushed r')
    (hf : ∀ a, (f a).Hushed (f' a)) : (r >>= f).Hushed (r' >>= f') := by
  cases hresult : r.result with
  | error failure =>
    rw [bind_of_error hresult, bind_of_error (h.result.trans hresult)]
    exact ⟨h.events, rfl⟩
  | ok a =>
    rw [bind_of_ok hresult, bind_of_ok (h.result.trans hresult)]
    refine ⟨?_, (hf a).result⟩
    rw [h.events, (hf a).events, List.filter_append]

/-- A logger that is not verbose says what is heard of a verbose one, at any level. -/
theorem hushed_say (l : Log.Logger) (level : Log.Level) (source message : Text) :
    ((l.withVerbose true).say level source message).Hushed
      ((l.withVerbose false).say level source message) := by
  have hdebug : Log.Level.debug ≤ Log.Level.info := by decide
  refine ⟨?_, by rw [say_result, say_result]⟩
  unfold Log.Logger.say Log.Logger.keeps
  change (if decide (Log.Level.info ≤ level) then _ else _ : Run Unit).events =
    (if decide (Log.Level.debug ≤ level) then _ else _ : Run Unit).events.filter _
  -- From information on both speak, below debug neither; in between only the verbose one does.
  by_cases hinfo : Log.Level.info ≤ level
  · have hkept : Log.Level.debug ≤ level := Int.le_trans hdebug hinfo
    simp [hinfo, hkept, Event.isHeard]
  · by_cases hkept : Log.Level.debug ≤ level <;> simp [hinfo, hkept, Event.isHeard]

end Run
end BuildDispatch
