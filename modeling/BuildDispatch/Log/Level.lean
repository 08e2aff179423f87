import BuildDispatch.Value.Text

/-!
# Log levels

Levels are integers, of which some have names. A record is kept by a logger whose threshold its
level reaches.
-/

namespace BuildDispatch.Log

abbrev Level := Int

namespace Level

def debug : Level := 10
def info : Level := 20
/-- Between information and warnings. -/
def success : Level := 25
def warning : Level := 30
def error : Level := 40
def critical : Level := 50

def name (l : Level) : String :=
  if l = 0 then "NOTSET"
  else if l = debug then "DEBUG"
  else if l = info then "INFO"
  else if l = success then "SUCCESS"
  else if l = warning then "WARNING"
  else if l = error then "ERROR"
  else if l = critical then "CRITICAL"
  else "Level " ++ toString l

/-- Whether the level can be named: its number is not too long to be written. -/
def hasName (l : Level) : Bool := (intText l).isOk

end Level

/-- A message at a level, from a named source. -/
structure Record where
  level : Level
  source : Text
  message : Text
deriving Repr, DecidableEq

end BuildDispatch.Log
