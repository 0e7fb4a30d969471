import Formulary.Settings.Basic
import Formulary.Settings.Field

set_option autoImplicit false

namespace Formulary

open Settings.Field

namespace InterpreterSettings

def ofEntries (es : Entries) : Checked InterpreterSettings :=
  along
    (along (.ok .mk) (single es "debug" false boolean))
    (single es "legacy_argument_errors" false boolean)

def toEntries (s : InterpreterSettings) : Entries := [
  (.text "debug", .boolean s.debug),
  (.text "legacy_argument_errors", .boolean s.legacyArgumentErrors)]

end InterpreterSettings

namespace LoggingSettings

def ofEntries (es : Entries) : Checked LoggingSettings :=
  let usual : LoggingSettings := {}
  along
    (along
      (along
        (along (.ok .mk) (single es "level" usual.level Settings.Field.level))
        (single es "format" usual.format text))
      (single es "file" usual.file path?))
    (single es "console" usual.console boolean)

def fileDatum (s : LoggingSettings) : Datum := (s.file.map .text).getD .null

def toEntries (s : LoggingSettings) : Entries := [
  (.text "level", .text s.level.text), (.text "format", .text s.format),
  (.text "file", s.fileDatum), (.text "console", .boolean s.console)]

end LoggingSettings

namespace Settings

def ofEntries (es : Entries) : Checked Settings :=
  along
    (along
      (along (.ok .mk) (single es "profile" "default" text))
      (nested es "interpreter" "InterpreterConfig" {} InterpreterSettings.ofEntries))
    (nested es "logging" "LoggingConfig" {} LoggingSettings.ofEntries)

def toEntries (s : Settings) : Entries := [
  (.text "profile", .text s.profile), (.text "interpreter", .map s.interpreter.toEntries),
  (.text "logging", .map s.logging.toEntries)]

def present (entry : String × Datum) : Bool → Entries
  | true => [(.text entry.1, entry.2)]
  | false => []

def changedInterpreter (s : InterpreterSettings) : Entries :=
  present ("debug", .boolean s.debug) s.debug ++
    present ("legacy_argument_errors", .boolean s.legacyArgumentErrors) s.legacyArgumentErrors

def changedLogging (s : LoggingSettings) : Entries :=
  let usual : LoggingSettings := {}
  present ("level", .text s.level.text) (s.level != usual.level) ++
    present ("format", .text s.format) (s.format != usual.format) ++
    present ("file", s.fileDatum) (s.file != usual.file) ++
    present ("console", .boolean s.console) (s.console != usual.console)

def changedEntries (s : Settings) : Entries :=
  present ("profile", .text s.profile) (s.profile != "default") ++
    present ("interpreter", .map (changedInterpreter s.interpreter)) (s.interpreter != {}) ++
    present ("logging", .map (changedLogging s.logging)) (s.logging != {})

def entries (includeDefaults : Bool) (s : Settings) : Entries :=
  if includeDefaults then s.toEntries else s.changedEntries

end Settings

end Formulary
