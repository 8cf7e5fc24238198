import StaticSite.Text.LetterCase
import StaticSite.Text.Quoted

/-! The log: lines with a level, and the names by which levels are known. -/

namespace StaticSite

inductive Level where
  | notset
  | debug
  | info
  | warning
  | error
  | critical
  deriving DecidableEq, Repr

namespace Level

def number : Level → Nat
  | notset => 0
  | debug => 10
  | info => 20
  | warning => 30
  | error => 40
  | critical => 50

def name : Level → Text
  | notset => "NOTSET".toList
  | debug => "DEBUG".toList
  | info => "INFO".toList
  | warning => "WARNING".toList
  | error => "ERROR".toList
  | critical => "CRITICAL".toList

/-- The names by which a threshold may be given. -/
def thresholdNames : List (Text × Level) :=
  [("CRITICAL", critical), ("FATAL", critical), ("ERROR", error), ("WARN", warning),
    ("WARNING", warning), ("INFO", info), ("DEBUG", debug), ("NOTSET", notset)].map
    fun (name, level) => (name.toList, level)

/-- The threshold that a text names in any case; else the text in upper case. -/
def threshold (t : Text) : Except Text Level :=
  match thresholdNames.lookup t.upper with
  | some level => .ok level
  | none => .error t.upper

def unknownMessage (name : Text) : Text :=
  "Unknown level: ".toList ++ name.quoted

def serverNames : List Text :=
  ["critical", "error", "warning", "info", "debug", "trace"].map String.toList

/-- Whether a server knows the level that a text names in any case; if not, the text in lower
case. -/
def checkServer (t : Text) : Except Text Unit :=
  if serverNames.contains t.lower then .ok () else .error t.lower

end Level

/-- A line of the log, and who wrote it. -/
structure LogLine where
  level : Level
  logger : Text
  message : Text
  deriving DecidableEq, Repr

namespace LogLine

def text (l : LogLine) : Text :=
  l.level.name ++ [' '] ++ l.logger ++ ": ".toList ++ l.message

/-- The line as it is written out at a given time. -/
def stamped (l : LogLine) (time : Text) : Text :=
  Text.joinWith " - ".toList [time, l.logger, l.level.name, l.message]

/-- The lines that reach a threshold. -/
def reaching (threshold : Level) (lines : List LogLine) : List LogLine :=
  lines.filter fun l => threshold.number ≤ l.level.number

end LogLine
end StaticSite
