import BuildDispatch.Proofs.CommandLine.ExitStatus
import BuildDispatch.Proofs.CommandLine.Loading
import BuildDispatch.Proofs.Options.Order

/-!
# Command lines in any order

All that an invocation does with its arguments is to read them. So two command lines that spell the
same parts, in whatever order and by whatever names, come to the same report: the same events one
after the other, the same ending and the same logger.

## Main statements

* `CommandLine.run_of_perm`: the same parts in another order and another spelling.
-/

namespace BuildDispatch.CommandLine

open Options

variable {cl cl' : CommandLine} {config : Configuration}

/-- The arguments count by what they are read as. -/
theorem run_eq_of_read_eq (hsame : cl' = { cl with arguments := cl'.arguments })
    (hload : cl.files.load cl.configDir = .ok config)
    (hread : read config.catalogue.keys cl'.arguments = read config.catalogue.keys cl.arguments) :
    cl'.run = cl.run := by
  have hload' : cl'.files.load cl'.configDir = .ok config := by
    rw [hsame]
    exact hload
  rw [run_of_loaded hload, run_of_loaded hload']
  unfold runLoaded
  dsimp only
  rw [hread, hsame]
  rfl

/-- Command lines that spell the same parts, each part once, do the same, whatever the order of the
parts, the names of the options and the places of their values. -/
theorem run_of_perm (hsame : cl' = { cl with arguments := cl'.arguments })
    (hload : cl.files.load cl.configDir = .ok config) {parts parts' : List Part}
    (hparts : ∀ part ∈ parts, part.WellFormed config.catalogue.keys)
    (honce : (parts.map Part.topic).Nodup) (hperm : parts.Perm parts')
    (hspells : Spells parts cl.arguments) (hspells' : Spells parts' cl'.arguments) :
    cl'.run = cl.run ∧ read config.catalogue.keys cl.arguments =
      if (demand parts).lacksOperation then refuse .noOperation else .ok (demand parts) := by
  have hread := read_of_spells hparts honce hspells
  have hparts' : ∀ part ∈ parts', part.WellFormed config.catalogue.keys :=
    fun part hpart => hparts part (hperm.mem_iff.mpr hpart)
  have honce' : (parts'.map Part.topic).Nodup := (hperm.map Part.topic).nodup_iff.mp honce
  have hread' := read_of_spells hparts' honce' hspells'
  rw [← demand_of_perm hperm honce, ← hread] at hread'
  exact ⟨run_eq_of_read_eq hsame hload hread', hread⟩

/-- An operation and three options, one of which has the operation's name for its value. -/
def auditParts : List Part :=
  [.option switches[4] none, .operation "audit", .option switches[1] (some "audit"),
    .option switches[6] (some "")]

def auditApart : CommandLine :=
  { auditLine with arguments := ["-v", "audit", "--root-dir", "audit", "--log-file", ""] }

def auditJoined : CommandLine :=
  { auditLine with arguments := ["--log-file=", "--root-dir=audit", "audit", "--verbose"] }

theorem auditJoined_run : ∃ config, auditApart.files.load auditApart.configDir = .ok config ∧
    (∀ part ∈ auditParts, part.WellFormed config.catalogue.keys) ∧
    auditJoined.run = auditApart.run ∧
    read config.catalogue.keys auditApart.arguments = .ok
      { operation := some "audit", rootDir := some (.ofText "audit"), verbose := true
        logFile := some "" } := by
  obtain ⟨config, hload, hkeys⟩ : ∃ config,
      auditApart.files.load auditApart.configDir = .ok config ∧
      config.catalogue.keys = (["build", "b", "audit"] : List Text) := ⟨_, rfl, rfl⟩
  have hparts : ∀ part ∈ auditParts, part.WellFormed config.catalogue.keys := by
    rw [hkeys]
    decide
  have hspells : Spells auditParts auditApart.arguments :=
    ⟨[["-v"], ["audit"], ["--root-dir", "audit"], ["--log-file", ""]],
      .cons (.alone (by decide)) (.cons (.operation _)
        (.cons (.apart (by decide) _) (.cons (.apart (by decide) _) .nil))), rfl⟩
  have hspells' : Spells auditParts.reverse auditJoined.arguments :=
    ⟨[["--log-file="], ["--root-dir=audit"], ["audit"], ["--verbose"]],
      .cons (@Spelling.joined switches[6] "--log-file" (by decide) "")
        (.cons (@Spelling.joined switches[1] "--root-dir" (by decide) "audit")
          (.cons (.operation _) (.cons (.alone (by decide)) .nil))), rfl⟩
  have hsame : auditJoined = { auditApart with arguments := auditJoined.arguments } := rfl
  obtain ⟨hrun, hread⟩ := run_of_perm hsame hload hparts (by decide)
    (List.reverse_perm auditParts).symm hspells hspells'
  exact ⟨config, hload, hparts, hrun, hread⟩

end BuildDispatch.CommandLine
