import BuildDispatch.Proofs.CommandLine.Opening
import BuildDispatch.Proofs.Config.Acceptance
import BuildDispatch.Proofs.Operation.Obstacles

/-!
# Configurations that cannot be loaded

What a command line does when its configuration is no good. A file that is missing and a file with
faulty content are reported on the error stream and end with the status one, before anything is
asked of the world. A file that is not well-formed in the first place is not reported: its failure
leaves the program as it is.

## Main statements

* `ConfigFile.WellFormed`: files whose faults are reported.
* `CommandLine.escape_cases`: all that may leave the program without a report.
* `CommandLine.run_unloaded`: how a command line ends whose configuration cannot be loaded.
* `CommandLine.cutOffLine_escapes`: a file that is cut off is not reported.
-/

namespace BuildDispatch

open Config Run

/-- The file is missing, or it holds a value whose scalars all have texts. -/
inductive ConfigFile.WellFormed : ConfigFile → Prop
  | absent : WellFormed .absent
  | holds {file : ConfigFile} {v : Value} (h : file.Holds v) (hv : v.Writable) : WellFormed file

theorem ConfigFile.WellFormed.read_cases {file : ConfigFile} (h : file.WellFormed)
    (label path : Text) :
    file.read label path = .error (.missing label path) ∨
      ∃ v : Value, file.read label path = .ok v ∧ v.Writable := by
  cases h with
  | absent => exact .inl rfl
  | holds h hv => exact .inr ⟨_, h.read_eq label path, hv.orEmpty⟩

namespace CommandLine

theorem isReported_of_load {files : ConfigFiles} (ht : files.toolchain.WellFormed)
    (ho : files.operations.WellFormed) {directory : Text} {failure : LoadFailure}
    (h : files.load directory = .error failure) : isReported failure = true := by
  unfold ConfigFiles.load at h
  rcases ht.read_cases "Toolchain" (Path.joinText directory "toolchain.yaml") with
    hread | ⟨toolchain, hread, htoolchain⟩
  · rw [hread] at h
    obtain rfl := Except.error.inj h
    rfl
  rw [hread] at h
  rcases ho.read_cases "Operations" (Path.joinText directory "operations.yaml") with
    hread | ⟨operations, hread, hoperations⟩
  · rw [hread] at h
    obtain rfl := Except.error.inj h
    rfl
  rw [hread] at h
  change (check toolchain operations).mapError .rejected = .error failure at h
  cases hcheck : check toolchain operations with
  | ok config =>
    rw [hcheck] at h
    cases h
  | error rejection =>
    rw [hcheck] at h
    obtain rfl := Except.error.inj h
    obtain ⟨fault, rfl⟩ := (decides_check htoolchain hoperations).faults _ hcheck
    rfl

/-- A text that is not written has no form in UTF-8. -/
theorem unencodable_of_write {t : Text} {failure : Failure}
    (h : (sink.write t).result = .error failure) : ∃ cause, failure = .unencodable cause := by
  unfold Sink.write at h
  split at h
  · next hrefusal =>
    obtain rfl := Except.error.inj h
    obtain ⟨cause, -, rfl⟩ := Sink.exists_cause_of_refusal hrefusal
    exact ⟨cause, rfl⟩
  · cases h

theorem unencodable_of_writeAll {lines : List Text} {failure : Failure}
    (h : (sink.writeAll lines).result = .error failure) :
    ∃ cause, failure = .unencodable cause := by
  induction lines with
  | nil => cases h
  | cons line rest ih =>
    unfold Sink.writeAll at h
    cases hline : (sink.write line).result with
    | error e =>
      rw [bind_of_error hline] at h
      obtain rfl := Except.error.inj h
      exact unencodable_of_write hline
    | ok u =>
      rw [bind_of_ok hline] at h
      exact ih h

/-- What may leave the program although its configuration was loaded. -/
inductive Slips (choices : List Text) : Escape → Prop
  | usage (h : Options.usage? choices = none) : Slips choices .shapelessUsage
  | text (cause : Utf8.Unencodable) : Slips choices (.unwritten (.unencodable cause))

section Escapes

variable {cl : CommandLine} {config : Configuration} {cause : Escape}

theorem slips_of_written {r : Run Unit} {choices : List Text}
    (hr : ∀ failure, r.result = .error failure → ∃ cause, failure = .unencodable cause)
    (h : (written r).ending = .escaped cause) : Slips choices cause := by
  unfold written at h
  cases hresult : r.result with
  | ok u =>
    rw [hresult] at h
    cases h
  | error failure =>
    rw [hresult] at h
    cases h
    obtain ⟨cause, rfl⟩ := hr failure hresult
    exact .text cause

theorem slips_of_helpReport {choices : List Text}
    (h : (helpReport choices).ending = .escaped cause) : Slips choices cause := by
  unfold helpReport at h
  split at h
  · exact slips_of_written (fun _ => unencodable_of_write) h
  · next hhelp =>
    cases h
    cases husage : Options.usage? choices with
    | none => exact .usage husage
    | some usage =>
      rw [Options.help?, husage] at hhelp
      cases hhelp

theorem slips_of_usageRefusal {choices : List Text} {f : Options.UsageFault}
    (h : (usageRefusal choices f).ending = .escaped cause) : Slips choices cause := by
  unfold usageRefusal at h
  split at h
  · cases h
  · next husage =>
    cases h
    exact .usage husage

/-- Neither a dispatch nor a log file that cannot be had ends without a status. -/
theorem slips_of_perform {i : Invocation} {r : Options.Request} {choices : List Text}
    (h : (cl.perform config i r).ending = .escaped cause) : Slips choices cause := by
  cases hfault : cl.logFault i r with
  | some fault =>
    rw [perform_of_fault config hfault] at h
    cases h
  | none =>
    rw [perform_of_open config hfault] at h
    dsimp only [performWith] at h
    split at h
    · exact slips_of_written (fun _ => unencodable_of_writeAll) h
    · cases h

theorem slips_of_runLoaded (h : (cl.runLoaded config).ending = .escaped cause) :
    Slips config.catalogue.keys cause := by
  dsimp only [runLoaded] at h
  split at h
  · exact slips_of_helpReport h
  · exact slips_of_usageRefusal h
  · split at h
    · cases h
    · exact slips_of_perform h

theorem run_of_loaded (h : cl.files.load cl.configDir = .ok config) :
    cl.run = cl.runLoaded config := by
  unfold run
  rw [h]

theorem run_of_reported {failure : LoadFailure}
    (h : cl.files.load cl.configDir = .error failure) (hreported : isReported failure = true) :
    cl.run = refusal ("Error loading build configuration: " ++ failure.message ++ "\n") 1 := by
  unfold run
  rw [h]
  exact if_pos hreported

theorem run_of_unreported {failure : LoadFailure}
    (h : cl.files.load cl.configDir = .error failure) (hreported : isReported failure = false) :
    cl.run = escape (.unloaded failure) := by
  unfold run
  rw [h]
  exact if_neg (by simp [hreported])

end Escapes

/-- A configuration that cannot be loaded from well-formed files is reported, and nothing is asked
of the world or attempted. Whatever leaves the program does so because a file is not well-formed,
because the names of the operations make no usage, or because a text cannot be written. -/
theorem run_unloaded (cl : CommandLine) :
    (∀ failure, cl.files.load cl.configDir = .error failure →
      cl.files.toolchain.WellFormed → cl.files.operations.WellFormed →
        cl.run.events =
            [.reported ("Error loading build configuration: " ++ failure.message ++ "\n")] ∧
          cl.run.ending = .exit 1) ∧
      ∀ cause, cl.run.ending = .escaped cause →
        (∃ config, cl.files.load cl.configDir = .ok config ∧
          Slips config.catalogue.keys cause) ∨
        (∃ failure, cl.files.load cl.configDir = .error failure ∧ cause = .unloaded failure ∧
          cl.run.events = [] ∧
          (¬ cl.files.toolchain.WellFormed ∨ ¬ cl.files.operations.WellFormed)) := by
  constructor
  · intro failure hload ht ho
    rw [run_of_reported hload (isReported_of_load ht ho hload)]
    exact ⟨rfl, rfl⟩
  · intro cause hending
    cases hload : cl.files.load cl.configDir with
    | ok config =>
      rw [run_of_loaded hload] at hending
      exact .inl ⟨config, rfl, slips_of_runLoaded hending⟩
    | error failure =>
      cases hreported : isReported failure with
      | true =>
        rw [run_of_reported hload hreported] at hending
        cases hending
      | false =>
        rw [run_of_unreported hload hreported] at hending ⊢
        cases hending
        refine .inr ⟨failure, rfl, rfl, rfl, ?_⟩
        by_contra hformed
        rw [not_or, not_not, not_not] at hformed
        simp [isReported_of_load hformed.1 hformed.2 hload] at hreported

/-- A command line whose toolchain file is all right, and whose catalogue is empty. -/
def emptyLine : CommandLine where
  arguments := ["check"]
  environment := .empty
  files := { ConfigFiles.small with operations := .value (.ofTree (.mapping [])) }
  configDir := "etc"
  currentDir := .ofText "/work"
  world := .nowhere

theorem emptyLine_reported : ∃ failure, emptyLine.files.load emptyLine.configDir = .error failure ∧
    emptyLine.files.toolchain.WellFormed ∧ emptyLine.files.operations.WellFormed ∧
    emptyLine.run.events = [.reported
      "Error loading build configuration: Missing 'operations' in operations.yaml\n"] ∧
    emptyLine.run.ending = .exit 1 := by
  have hload : emptyLine.files.load emptyLine.configDir = .error _ := rfl
  have ht : emptyLine.files.toolchain.WellFormed :=
    .holds (.value _) (Value.writable_of_heap rfl)
  have ho : emptyLine.files.operations.WellFormed :=
    .holds (.value _) (Value.writable_of_heap rfl)
  obtain ⟨hevents, hending⟩ := (run_unloaded emptyLine).1 _ hload ht ho
  exact ⟨_, hload, ht, ho, hevents, hending⟩

/-- A command line whose toolchain file ends within a list. -/
def cutOffLine : CommandLine :=
  { emptyLine with files := { ConfigFiles.small with toolchain := .octets "a: [1".toUTF8.toList } }

/-- The failure to load such a file is not reported. -/
theorem cutOffLine_escapes :
    (∃ failure, cutOffLine.files.load cutOffLine.configDir = .error failure) ∧
      cutOffLine.run.ending ≠ .exit 1 ∧ cutOffLine.run.events = [] := by
  have hending : cutOffLine.run.ending ≠ .exit 1 := by decide +kernel
  have hunread : (cutOffLine.files.load cutOffLine.configDir).isOk = false := by decide +kernel
  refine ⟨?_, hending, by decide +kernel⟩
  cases hload : cutOffLine.files.load cutOffLine.configDir with
  | ok config => simp [hload, Except.isOk, Except.toBool] at hunread
  | error failure => exact ⟨failure, rfl⟩

end CommandLine
end BuildDispatch
