import Formulary.Decimal.Layout
import Formulary.Log.Level
import Formulary.Text.Quoted

set_option autoImplicit false

namespace Formulary.Log

inductive Field where
  | text (s : String)
  | integer (n : Int)
  | float (x : Float)
  | nothing
  | noArguments
deriving Repr

namespace Field

def literal : Field → String
  | .text s => Text.quoted s
  | .integer n => toString n
  | .float x => NumberStyle.data.text x
  | .nothing => "None"
  | .noArguments => "()"

def display : Field → String
  | .text s => s
  | f => f.literal

end Field

structure Origin where
  path : String := ""
  file : String := ""
  source : String := ""
  line : Int := 0
  function : String := ""
  created : Float := 0
  milliseconds : Float := 0
  sinceStart : Float := 0
  thread : Int := 0
  threadName : String := "MainThread"
  processName : String := "MainProcess"
  process : Int := 0
  task : Option String := none
  time : String := ""
deriving Repr

structure Record where
  logger : String
  level : Level
  message : String
  origin : Origin := {}
deriving Repr

def Record.fields (r : Record) (timed : Bool) : List (String × Field) :=
  let o := r.origin
  [("name", .text r.logger), ("msg", .text r.message), ("args", .noArguments),
    ("levelname", .text r.level.text), ("levelno", .integer r.level.severity),
    ("pathname", .text o.path), ("filename", .text o.file), ("module", .text o.source),
    ("exc_info", .nothing), ("exc_text", .nothing), ("stack_info", .nothing),
    ("lineno", .integer o.line), ("funcName", .text o.function), ("created", .float o.created),
    ("msecs", .float o.milliseconds), ("relativeCreated", .float o.sinceStart),
    ("thread", .integer o.thread), ("threadName", .text o.threadName),
    ("processName", .text o.processName), ("process", .integer o.process),
    ("taskName", (o.task.map Field.text).getD .nothing), ("message", .text r.message)] ++
  if timed then [("asctime", .text o.time)] else []

end Formulary.Log
