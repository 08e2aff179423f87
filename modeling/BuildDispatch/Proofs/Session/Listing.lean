import BuildDispatch.Proofs.CommandLine.Loading
import BuildDispatch.Proofs.Operation.Rehearsal

/-!
# What is listed

The catalogue of a loaded configuration mirrors the operations file: its names are those of the
file in order, each leads to the entry that it belongs to, and every entry has one row in a listing.
The rows are written one after the other, and the first that the sink refuses ends the listing.

## Main statements

* `Catalogue.Mirrors`: what a catalogue has in common with the file that it was read from.
* `Sink.writeAll_writesOut`: what comes of writing lines.
* `catalogue_listed`: the catalogue of every loaded configuration, and its listings.
* `surrogateRow_cutShort`: a listing that ends before its first row.
-/

namespace BuildDispatch

open Config Run

/-! ### Catalogues and their files -/

/-- The catalogue has the names and the entries of the pairs of an operations file. -/
structure Catalogue.Mirrors (c : Catalogue) (pairs : List (Value × Value)) : Prop where
  keys_eq : c.keys = pairs.flatMap declaredNames
  nodup : c.keys.Nodup
  exists_entry : ∀ name ∈ c.keys, ∃ e, c.find? name = some e ∧ name ∈ e.names
  /-- Two names lead to one entry exactly if they stand in one pair of the file. -/
  find?_eq_iff : ∀ a ∈ c.keys, ∀ b ∈ c.keys,
    (c.find? a = c.find? b ↔ ∃ pair ∈ pairs, a ∈ declaredNames pair ∧ b ∈ declaredNames pair)
  helper_iff : ∀ name e, c.find? name = some e → (e.helper.isSome ↔ e.kind = .helper)
  args_ne_nil : ∀ name e, c.find? name = some e → e.kind ≠ .info → e.args ≠ []
  /-- There is one entry for each pair, in the order of the file. -/
  entries : List.Forall₂ (fun pair e => ReadsAs pair.1 pair.2 e) pairs c.entries
  names_entries : c.entries.flatMap Entry.names = c.keys

section Mirrors

variable {pairs : List (Value × Value)} {es : List Entry}

theorem map_names_eq (h : List.Forall₂ (fun pair e => ReadsAs pair.1 pair.2 e) pairs es) :
    es.map Entry.names = pairs.map declaredNames := by
  induction h with
  | nil => rfl
  | cons hread _ ih => rw [List.map_cons, List.map_cons, hread.names_eq, ih]

/-- What can be said of the names of an entry can be said of those of its pair. -/
theorem exists_names_iff (h : List.Forall₂ (fun pair e => ReadsAs pair.1 pair.2 e) pairs es)
    (P : List Text → Prop) : (∃ e ∈ es, P e.names) ↔ ∃ pair ∈ pairs, P (declaredNames pair) := by
  have hnames := map_names_eq h
  constructor
  · rintro ⟨e, he, hP⟩
    have hmem : e.names ∈ pairs.map declaredNames := hnames ▸ List.mem_map_of_mem he
    obtain ⟨pair, hpair, heq⟩ := List.mem_map.mp hmem
    exact ⟨pair, hpair, heq ▸ hP⟩
  · rintro ⟨pair, hpair, hP⟩
    have hmem : declaredNames pair ∈ es.map Entry.names := hnames ▸ List.mem_map_of_mem hpair
    obtain ⟨e, he, heq⟩ := List.mem_map.mp hmem
    exact ⟨e, he, heq ▸ hP⟩

theorem Catalogue.Lists.exists_entry {c : Catalogue} (h : c.Lists es) {name : Text}
    (hname : name ∈ c.keys) : ∃ e ∈ es, c.find? name = some e ∧ name ∈ e.names := by
  rw [h.keys] at hname
  obtain ⟨e, he, hmem⟩ := List.mem_flatMap.mp hname
  exact ⟨e, he, h.find?_eq_some_iff.mpr ⟨he, hmem⟩, hmem⟩

theorem Catalogue.Lists.find?_eq_iff {c : Catalogue} (h : c.Lists es) {a b : Text}
    (ha : a ∈ c.keys) (hb : b ∈ c.keys) :
    c.find? a = c.find? b ↔ ∃ e ∈ es, a ∈ e.names ∧ b ∈ e.names := by
  obtain ⟨e, he, hfound, hae⟩ := h.exists_entry ha
  obtain ⟨f, hf, hfound', hbf⟩ := h.exists_entry hb
  rw [hfound, hfound', Option.some.injEq]
  constructor
  · rintro rfl
    exact ⟨e, he, hae, hbf⟩
  · rintro ⟨g, hg, hag, hbg⟩
    rw [h.eq_of_mem_names he hg hae hag, h.eq_of_mem_names hf hg hbf hbg]

theorem Catalogue.Lists.mirrors {c : Catalogue} (hc : c.Lists es)
    (h : List.Forall₂ (fun pair e => ReadsAs pair.1 pair.2 e) pairs es) : c.Mirrors pairs where
  keys_eq := hc.keys.trans (flatMap_names_eq h)
  nodup := hc.keys ▸ hc.nodup
  exists_entry name hname := by
    obtain ⟨e, -, hfound, hmem⟩ := hc.exists_entry hname
    exact ⟨e, hfound, hmem⟩
  find?_eq_iff a ha b hb := by
    rw [hc.find?_eq_iff ha hb]
    exact exists_names_iff h fun names => a ∈ names ∧ b ∈ names
  helper_iff name e he := (coherent_of_mem h (hc.find?_eq_some_iff.mp he).1).helper_iff
  args_ne_nil name e he := (coherent_of_mem h (hc.find?_eq_some_iff.mp he).1).args_ne_nil
  entries := hc.entries_eq ▸ h
  names_entries := by rw [hc.entries_eq, hc.keys]

end Mirrors

/-- What is read from a file that holds nothing is an empty mapping. -/
theorem ConfigFile.exists_holds_of_read {file : ConfigFile} {label path : Text} {v : Value}
    (h : file.read label path = .ok v) : ∃ u : Value, file.Holds u ∧ v = u.orEmpty := by
  cases file with
  | absent => cases h
  | value u => exact ⟨u, .value u, (Except.ok.inj h).symm⟩
  | octets content =>
    cases hvalue : Yaml.valueOf (.ofOctets content) with
    | error fault =>
      unfold read at h
      dsimp only at h
      rw [hvalue] at h
      cases h
    | ok u =>
      have holds : ConfigFile.Holds (.octets content) u := .octets hvalue
      exact ⟨u, holds, Except.ok.inj (h.symm.trans (holds.read_eq label path))⟩

theorem ConfigFiles.exists_mirrors_of_load {files : ConfigFiles} {directory : Text}
    {config : Configuration} (hload : files.load directory = .ok config) :
    ∃ operations part pairs, files.operations.Holds operations ∧
      optional operations "operations" = some part ∧ part.view = .mapping pairs ∧
      config.catalogue.Mirrors pairs := by
  obtain ⟨toolchain, operations, -, hread, hcheck⟩ := load_eq_ok_iff.mp hload
  obtain ⟨u, hholds, rfl⟩ := ConfigFile.exists_holds_of_read hread
  obtain ⟨part, pairs, es, hpart, hview, -, hes, hlists⟩ :=
    parseOperations_eq_ok_iff.mp (check_eq_ok_iff.mp hcheck).1
  rw [optional_orEmpty] at hpart
  exact ⟨u, part, pairs, hholds, hpart, hview, hlists.mirrors hes⟩

/-! ### Rows -/

theorem mem_intersperse_of_mem {α : Type} (separator : α) {parts : List α} {a : α}
    (h : a ∈ parts) : a ∈ parts.intersperse separator := by
  induction parts with
  | nil => cases h
  | cons first rest ih =>
    cases rest with
    | nil => exact h
    | cons second others =>
      rw [List.intersperse_cons_cons]
      rcases List.mem_cons.mp h with rfl | h
      · exact List.mem_cons_self
      · exact List.mem_cons_of_mem _ (List.mem_cons_of_mem _ (ih h))

theorem Text.infix_joinWith (separator : Text) {parts : List Text} {t : Text} (h : t ∈ parts) :
    t <:+: Text.joinWith separator parts :=
  List.infix_of_mem_flatten (mem_intersperse_of_mem separator h)

theorem Text.length_padRight (width : Nat) (t : Text) :
    (Text.padRight width t).length = max width t.length := by
  rw [Text.padRight, List.length_append, Text.spaces, List.length_replicate]
  omega

/-- The row of a pair of the operations file: its names, filled up with spaces to a width of 20, and
its description behind them. -/
def IsRow (pair : Value × Value) (row : Text) : Prop :=
  let joined := Text.joinWith ", " (declaredNames pair)
  ∃ label description, row = "  " ++ label ++ " " ++ description ++ "\n" ∧
    label = joined ++ Text.spaces (20 - joined.length) ∧ 20 ≤ label.length ∧
    (∀ name ∈ declaredNames pair, name <:+: label) ∧
    optionalText pair.2 "description" "" = .ok description

theorem Config.ReadsAs.isRow {key value : Value} {e : Entry} (h : ReadsAs key value e) :
    IsRow (key, value) (Session.rowText e) := by
  let joined : Text := Text.joinWith ", " (declaredNames (key, value))
  have hrow : Session.rowText e =
      "  " ++ Text.padRight 20 joined ++ " " ++ e.description ++ "\n" := by
    rw [Session.rowText, h.names_eq]
  have hwidth : 20 ≤ (Text.padRight 20 joined).length := by
    rw [Text.length_padRight]
    exact Nat.le_max_left ..
  refine ⟨Text.padRight 20 joined, e.description, hrow, rfl, hwidth, ?_, h.description⟩
  intro name hname
  exact (Text.infix_joinWith ", " hname).trans (List.prefix_append ..).isInfix

/-- A listing has one row for each pair of the file, in order. -/
theorem Catalogue.Mirrors.forall₂_isRow {c : Catalogue} {pairs : List (Value × Value)}
    (h : c.Mirrors pairs) : List.Forall₂ IsRow pairs (c.entries.map Session.rowText) := by
  rw [List.forall₂_map_right_iff]
  exact h.entries.imp fun _ _ hread => hread.isRow

/-! ### Writing -/

/-- How the octets of lines are written. -/
def Trace.ofLines (lines : List Text) : Trace := lines.map fun t => .wrote (Utf8.encode t)

/-- A view that sees nothing of output sees nothing of lines. -/
theorem Trace.filterMap_ofLines {α : Type} {pick : Event → Option α}
    (h : ∀ octets, pick (.wrote octets) = none) (lines : List Text) :
    (ofLines lines).filterMap pick = [] := by
  rw [ofLines, List.filterMap_map]
  exact List.filterMap_eq_nil_iff.mpr fun line _ => h (Utf8.encode line)

theorem Trace.queries_ofLines (lines : List Text) : (ofLines lines).queries = [] :=
  filterMap_ofLines (fun _ => rfl) lines

theorem Trace.attempts_ofLines (lines : List Text) : (ofLines lines).attempts = [] :=
  filterMap_ofLines (fun _ => rfl) lines

/-- What comes of writing lines to a sink: all of them are written, or those before the first that
is refused. -/
inductive Sink.WritesOut (sink : Sink) (lines : List Text) : Trace → Except Failure Unit → Prop
  | all (h : ∀ t ∈ lines, sink.refusal t = none) :
    WritesOut sink lines (Trace.ofLines lines) (.ok ())
  | upTo {front back : List Text} {t : Text} {failure : Failure}
    (hlines : lines = front ++ t :: back) (hfront : ∀ u ∈ front, sink.refusal u = none)
    (ht : sink.refusal t = some failure) :
    WritesOut sink lines (Trace.ofLines front) (.error failure)

theorem Sink.writeAll_writesOut (sink : Sink) (lines : List Text) :
    sink.WritesOut lines (sink.writeAll lines).events (sink.writeAll lines).result := by
  induction lines with
  | nil => exact .all (by simp)
  | cons t rest ih =>
    unfold Sink.writeAll
    cases ht : sink.refusal t with
    | some failure =>
      rw [sink.write_of_some ht, bind_of_error (fail_result _)]
      have hlines : t :: rest = [] ++ t :: rest := rfl
      exact .upTo hlines (by simp) ht
    | none =>
      rw [sink.write_of_none ht, bind_of_ok (emit_result _)]
      generalize (sink.writeAll rest).events = events, (sink.writeAll rest).result = result at ih
      cases ih with
      | all hrest => exact .all (List.forall_mem_cons.mpr ⟨ht, hrest⟩)
      | upTo hlines hfront hu =>
        exact .upTo (congrArg (t :: ·) hlines) (List.forall_mem_cons.mpr ⟨ht, hfront⟩) hu

namespace Sink.WritesOut

variable {sink : Sink} {lines : List Text} {t : Trace} {result : Except Failure Unit}

/-- Whatever comes of it, nothing is done but writing. -/
theorem exists_eq_ofLines (h : sink.WritesOut lines t result) :
    ∃ front, front <+: lines ∧ t = Trace.ofLines front := by
  cases h with
  | all => exact ⟨lines, List.prefix_rfl, rfl⟩
  | @upTo front back line failure hlines =>
    exact ⟨front, hlines ▸ List.prefix_append .., rfl⟩

theorem eq_ofLines_of_ok (h : sink.WritesOut lines t (.ok ())) : t = Trace.ofLines lines := by
  cases h with
  | all => rfl

theorem result_eq_ok_iff (h : sink.WritesOut lines t result) :
    result = .ok () ↔ ∀ line ∈ lines, sink.refusal line = none := by
  cases h with
  | all hlines => exact iff_of_true rfl hlines
  | @upTo front back line failure hlines _ hline =>
    refine iff_of_false nofun fun hnone => ?_
    have hmem : line ∈ lines := by simp [hlines]
    cases (hnone line hmem).symm.trans hline

end Sink.WritesOut

/-! ### Listings -/

theorem Session.step_list_run (c : Setup) (s : Session) :
    let listed := c.sink.writeAll (listing c.catalogue s.invocation)
    (s.step c .list).run = ⟨listed.events, listed.result.map fun _ => .done⟩ := by
  intro listed
  change (listed >>= fun _ => pure Answer.done) = _
  cases hresult : listed.result with
  | ok a =>
    rw [bind_of_ok hresult, pure_events, List.append_nil]
    rfl
  | error failure =>
    rw [bind_of_error hresult]
    rfl

namespace CommandLine

/-- The configuration is accepted, the arguments are read, and the invocation can be gathered. -/
structure Gathers (cl : CommandLine) (config : Configuration) (r : Options.Request)
    (i : Invocation) : Prop where
  loaded : cl.files.load cl.configDir = .ok config
  read : Options.read config.catalogue.keys cl.arguments = .ok r
  gathered : config.gather cl.environment (flagsOf r) cl.currentDir = .ok i

variable {cl : CommandLine} {config : Configuration} {r : Options.Request} {i : Invocation}

theorem Gathers.run_eq (h : cl.Gathers config r i) : cl.run = cl.perform config i r := by
  rw [run_of_loaded h.loaded, runLoaded, h.read]
  dsimp only
  rw [h.gathered]

/-- A command line that lists the catalogue opens its log file and writes the list, and does nothing
else. -/
theorem Gathers.run_of_list (h : cl.Gathers config r i) (hlist : r.list = true)
    (hfault : cl.logFault i r = none) :
    let listed := written (sink.writeAll (Session.listing config.catalogue i))
    cl.run = { listed with
      events := cl.opened i r ++ listed.events, logger := some (cl.loggerFor i r) } := by
  rw [h.run_eq, perform_of_open config hfault, performWith, hlist]
  rfl

end CommandLine

/-- The catalogue of a loaded configuration has the names and entries of the operations file, and a
listing writes its heading and a row for each entry in order, up to the first line that the sink
refuses. -/
theorem catalogue_listed {files : ConfigFiles} {directory : Text} {config : Configuration}
    (hload : files.load directory = .ok config) :
    ∃ operations part pairs rows, files.operations.Holds operations ∧
      optional operations "operations" = some part ∧ part.view = .mapping pairs ∧
      config.catalogue.Mirrors pairs ∧ List.Forall₂ IsRow pairs rows ∧
      (∀ (c : Setup) (s : Session), c.catalogue = config.catalogue →
        ∃ t result, c.sink.WritesOut (Session.heading s.invocation ++ rows) t result ∧
          (s.step c .list).run = ⟨t, result.map fun _ => .done⟩) ∧
      ∀ (cl : CommandLine) (r : Options.Request) (i : Invocation),
        cl.Gathers config r i → r.list = true → cl.logFault i r = none →
        ∃ t result, CommandLine.sink.WritesOut (Session.heading i ++ rows) t result ∧
          cl.run.events = cl.opened i r ++ t := by
  obtain ⟨operations, part, pairs, hholds, hpart, hview, hmirrors⟩ :=
    ConfigFiles.exists_mirrors_of_load hload
  refine ⟨operations, part, pairs, config.catalogue.entries.map Session.rowText, hholds, hpart,
    hview, hmirrors, hmirrors.forall₂_isRow, ?_, ?_⟩
  · intro c s hc
    refine ⟨_, _, c.sink.writeAll_writesOut (Session.listing config.catalogue s.invocation), ?_⟩
    rw [← hc]
    exact Session.step_list_run ..
  · intro cl r i gathers hlist hfault
    refine ⟨_, _, CommandLine.sink.writeAll_writesOut (Session.listing config.catalogue i), ?_⟩
    rw [gathers.run_of_list hlist hfault]
    rfl

theorem small_listed : ∃ config rows, ConfigFiles.small.load "etc" = .ok config ∧
    config.catalogue.entries.flatMap Entry.names = (["build", "b", "audit"] : List Text) ∧
    ∃ t result, Sink.text.WritesOut (Session.heading config.invocation ++ rows) t result ∧
      (({ world := .nowhere, invocation := config.invocation } : Session).step
        (config.setup .text) .list).run = ⟨t, result.map fun _ => .done⟩ := by
  obtain ⟨config, hload, hkeys⟩ : ∃ config, ConfigFiles.small.load "etc" = .ok config ∧
      config.catalogue.keys = (["build", "b", "audit"] : List Text) := ⟨_, rfl, rfl⟩
  obtain ⟨operations, part, pairs, rows, -, -, -, hmirrors, -, hwritten, -⟩ :=
    catalogue_listed hload
  exact ⟨config, rows, hload, hmirrors.names_entries.trans hkeys,
    hwritten (config.setup .text) { world := .nowhere, invocation := config.invocation } rfl⟩

/-- Two operations, the first of which has a description that is no character. -/
def surrogateRow : ConfigFiles :=
  { ConfigFiles.small with
    operations := .value <| .ofTree <| .mapping [(.str "operations", .mapping [
      (.str "t", .mapping [(.str "kind", .str "info"), (.str "description", .str loneSurrogate)]),
      (.str "u", .mapping [(.str "kind", .str "info")])])] }

def surrogateRowLine : CommandLine where
  arguments := ["--list"]
  environment := .ofList [("PATH", "/bin")]
  files := surrogateRow
  configDir := "etc"
  currentDir := .ofText "/work"
  world := .nowhere

theorem surrogateRowLine_gathers : ∃ config r i, surrogateRowLine.Gathers config r i ∧
    r.list = true ∧ config.catalogue.keys = (["t", "u"] : List Text) ∧
    config.catalogue.entries.length = 2 ∧ i.toolchain = "cargo" ∧ i.rootDir = .ofText "/work" := by
  obtain ⟨config, hload, hkeys, htoolchain, hverbose, hlength⟩ :
      ∃ config, surrogateRow.load "etc" = .ok config ∧
        config.catalogue.keys = (["t", "u"] : List Text) ∧
        config.toolchainFor surrogateRowLine.environment = .ok "cargo" ∧
        config.verboseFor surrogateRowLine.environment = .ok false ∧
        config.catalogue.entries.length = 2 :=
    ⟨_, rfl, rfl, rfl, rfl, rfl⟩
  have hread : Options.read config.catalogue.keys surrogateRowLine.arguments =
      .ok { list := true } := by
    rw [hkeys]
    rfl
  obtain ⟨i, hgather, hprogram, hroot⟩ : ∃ i, config.gather surrogateRowLine.environment
      (CommandLine.flagsOf { list := true }) surrogateRowLine.currentDir = .ok i ∧
      i.toolchain = "cargo" ∧ i.rootDir = .ofText "/work" := by
    rw [Configuration.gather, htoolchain, hverbose]
    exact ⟨_, rfl, rfl, rfl⟩
  exact ⟨config, _, i, ⟨hload, hread, hgather⟩, rfl, hkeys, hlength, hprogram, hroot⟩

/-- The heading is written, but neither of the two rows. -/
theorem surrogateRow_cutShort : ∃ config r i, surrogateRowLine.Gathers config r i ∧
    r.list = true ∧ config.catalogue.keys = (["t", "u"] : List Text) ∧
    surrogateRowLine.run.events = Trace.ofLines (Session.heading i) ∧
    ∀ rows : List Text, rows.length = config.catalogue.entries.length →
      surrogateRowLine.run.events ≠ Trace.ofLines (Session.heading i ++ rows) := by
  obtain ⟨config, r, i, gathers, hlist, hkeys, hlength, hprogram, hroot⟩ := surrogateRowLine_gathers
  have hevents : surrogateRowLine.run.events = Trace.ofLines (Session.heading i) := by
    unfold Session.heading
    rw [hprogram, hroot]
    decide +kernel
  refine ⟨config, r, i, gathers, hlist, hkeys, hevents, fun rows hrows heq => ?_⟩
  have hlengths := congrArg List.length (hevents.symm.trans heq)
  simp [Trace.ofLines, hrows, hlength] at hlengths

end BuildDispatch
