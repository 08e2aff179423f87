import BuildDispatch.Log.Template
import BuildDispatch.Proofs.Log.Formatting

/-!
# The templates of consoles

The two layouts of consoles may also be written as templates. Filling one of these in never fails,
whatever the record says, and gives the line that the layout gives.

## Main statements

* `Record.fill_template`: the line of a console is what its template says.
-/

namespace BuildDispatch.Log

def briefTemplate : Text := "[%(levelname)s] %(message)s"

def timedTemplate : Text := "%(asctime)s [%(levelname)s] %(message)s"

/-- The layout of a console as a text. -/
def Logger.template (l : Logger) : Text := if l.verbose then timedTemplate else briefTemplate

/-- A directive that writes a field out as it is. -/
def plainDirective (key : Text) (index : Nat) : Directive :=
  { key := some key, letter := .ok (.char 's', index) }

theorem Fields.write_plainDirective {fields : Fields} {key : Text} {v : Datum}
    (h : fields.field? key = some v) (given : Option Datum) (index : Nat) :
    fields.write given (plainDirective key index) = .ok v.plain := by
  have hplace : (plainDirective key index).placeCut v.plain = v.plain := by
    simp [plainDirective, Directive.placeCut, Directive.placeText, Directive.leastWidth,
      Directive.has, Amount.given?, Text.spaces]
  have hwrite : fields.write given (plainDirective key index) =
      .ok ((plainDirective key index).placeCut v.plain) := by
    simp only [Fields.write, Fields.argument, plainDirective, h]
    rfl
  rw [hwrite, hplace]

/-- The parts of the brief template, of which the directives end at these places. -/
def briefParts (i k : Nat) : List Part :=
  [.fixed (.char '['), .directive (plainDirective "levelname" i), .fixed (.char ']'),
    .fixed (.char ' '), .directive (plainDirective "message" k)]

theorem Fields.fill_briefParts {fields : Fields} {level message : Text}
    (hlevel : fields.field? "levelname" = some (.text level))
    (hmessage : fields.field? "message" = some (.text message)) (given : Option Datum)
    (i k : Nat) :
    fields.fill given (briefParts i k) = .ok ("[" ++ level ++ "] " ++ message) := by
  simp only [briefParts, Fields.fill, write_plainDirective hlevel, write_plainDirective hmessage]
  simp [Datum.plain, bind, Except.bind, Text.ofString, Text.ofChars]

namespace Record

variable (r : Record) (coloured : Bool) (now : Int)

theorem fill_eq {template : Text} (hempty : template.isEmpty = false)
    (hfield : Template.hasField template = true) :
    r.fill template coloured now = (r.fieldsFor template coloured now).fill
      (some (r.fieldsFor template coloured now).whole) (Template.parts template) := by
  simp only [fill, hempty, hfield, if_true, Bool.false_eq_true, if_false]

theorem fill_brief :
    r.fill briefTemplate coloured now =
      .ok ("[" ++ ((r.sheet now).shown coloured).levelName ++ "] " ++
        ((r.sheet now).shown coloured).text) := by
  have hparts : Template.parts briefTemplate = briefParts 13 26 := rfl
  rw [fill_eq r coloured now (by decide) (by decide), hparts]
  exact Fields.fill_briefParts rfl rfl ..

theorem fill_timed :
    r.fill timedTemplate coloured now =
      .ok (clockText now ++ " " ++
        ("[" ++ ((r.sheet now).shown coloured).levelName ++ "] " ++
          ((r.sheet now).shown coloured).text)) := by
  have hparts : Template.parts timedTemplate =
      .directive (plainDirective "asctime" 10) :: .fixed (.char ' ') :: briefParts 25 38 := rfl
  have htime : (r.fieldsFor timedTemplate coloured now).field? "asctime" =
      some (.text (clockText now)) := rfl
  have hrest : (r.fieldsFor timedTemplate coloured now).fill none (briefParts 25 38) =
      .ok ("[" ++ ((r.sheet now).shown coloured).levelName ++ "] " ++
        ((r.sheet now).shown coloured).text) :=
    Fields.fill_briefParts rfl rfl ..
  rw [fill_eq r coloured now (by decide) (by decide), hparts]
  simp only [Fields.fill, Fields.write_plainDirective htime, hrest]
  simp [Datum.plain, bind, Except.bind, Text.ofString, Text.ofChars]

end Record

/-- The line of a console is what its template says. -/
theorem Record.fill_template (l : Logger) (now : Int) (r : Record) :
    r.fill l.template l.tty now = .ok (l.consoleFormatter.line (r.sheet now)) := by
  have hcreated : ((r.sheet now).shown l.tty).created = now := by
    unfold Sheet.shown
    split <;> rfl
  rw [Formatter.line_eq]
  cases hverbose : l.verbose with
  | false =>
    simp [Logger.template, Logger.consoleFormatter, Logger.layout, hverbose, fill_brief,
      Layout.brief, Sheet.line, Sheet.pieceText, Sheet.fieldText, Sheet.complete]
  | true =>
    simp [Logger.template, Logger.consoleFormatter, Logger.layout, hverbose, fill_timed, hcreated,
      Layout.timed, Layout.brief, Sheet.line, Sheet.pieceText, Sheet.fieldText, Sheet.complete,
      TimeStyle.text]

end BuildDispatch.Log
