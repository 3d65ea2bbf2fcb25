import SourceConventions.Settings.File
import SourceConventions.Settings.OfTable

/-!
# Loading settings
-/

namespace SourceConventions

/-- Why there are no settings for a run. -/
inductive LoadFault where
  | file (f : SettingsFileFault)
  | table (source : String) (f : SettingsFault)
  | mishap (m : Mishap)
  deriving Repr

namespace LoadFault

/-- What a fault of the table of a source ends in. -/
def ofTable (source : String) : SettingsFault → LoadFault
  | .longInteger => .mishap (.tooManyDigits SettingsFault.longInteger.text)
  | f => .table source f

def ofTrouble : SettingsTrouble → LoadFault
  | .fault f => .file f
  | .mishap m => .mishap m

def text : LoadFault → String
  | .file f => f.text
  | .table source f => s!"{source}: {f.text}"
  | .mishap m => m.message

/-- The findings that belong to a fault. -/
def findings : LoadFault → List Finding
  | .table source f => f.findings source
  | _ => []

end LoadFault

namespace Settings

/-- The settings of the named file, or of the nearest project file from a start directory upwards;
with what is told in the log on the way. -/
def load (t : FileTree) (named? : Option String) (start : String) :
    List LogEntry × Except LoadFault Settings :=
  let (logs, found) := SettingsFile.load t named? start defaultsSource
  match found with
  | .error trouble => (logs, .error (.ofTrouble trouble))
  | .ok found =>
    (logs ++ warnings found.table found.source,
      (ofTable found.table found.source).mapError (LoadFault.ofTable found.source))

end Settings

end SourceConventions
