import SourceConventions.Files.Resolve
import SourceConventions.Log
import SourceConventions.Mishap
import SourceConventions.Settings.Setting
import SourceConventions.Toml.Document

/-!
# Settings files

A settings file is named, or it is the project file of the nearest directory that has one, from a
start directory upwards. Settings stand in the tool's own section; a named file without that section
holds nothing but settings.
-/

namespace SourceConventions

/-- Why there is no settings table. -/
inductive SettingsFileFault where
  | notFound (path : String)
  | malformed (path : String) (fault : Toml.Fault)
  | toolNotTable (path : String)
  | sectionNotTable (path : String)
  deriving Repr

namespace SettingsFile

/-- The name of a project file. -/
def projectFile : String := "pyproject.toml"

def sectionName : String := "convention-linter"

end SettingsFile

def SettingsFileFault.text : SettingsFileFault → String
  | .notFound path => s!"Configuration file not found: {path}"
  | .malformed path f => s!"{path}: malformed TOML: {f.text}"
  | .toolNotTable path => s!"{path}: [tool] must be a table"
  | .sectionNotTable path => s!"{path}: [tool.{SettingsFile.sectionName}] must be a table"

/-- A fault that is told, or one that is not foreseen. -/
inductive SettingsTrouble where
  | fault (f : SettingsFileFault)
  | mishap (m : Mishap)
  deriving Repr

/-- A table of settings and where it comes from. -/
structure FoundSettings where
  table : SettingTable
  source : String

namespace SettingsFile

open Number in
/-- Whether a value counts as nothing. -/
def isNothing : Setting → Bool
  | .null => true
  | .bool b => !b
  | .int n => n == 0
  | .real x => x.compareInt? 0 == some .eq
  | .text s => s.isEmpty
  | .list items => items.isEmpty
  | .table fields => fields.isEmpty
  | _ => false

/-- The tool's own section of a document, if there is one. -/
def section? (path : String) (document : SettingTable) :
    Except SettingsFileFault (Option SettingTable) :=
  match document.get? "tool" with
  | some (.table tools) =>
    match SettingTable.get? tools sectionName with
    | some (.table fields) => .ok (some fields)
    | some _ => .error (.sectionNotTable path)
    | none => .ok none
  | some v => if isNothing v then .ok none else .error (.toolNotTable path)
  | none => .ok none

/-- The table of a document. Without the tool's section, all of a dedicated document counts but
what is said about tools. -/
def tableOf (path : String) (dedicated : Bool) (document : SettingTable) :
    Except SettingsFileFault SettingTable := do
  match ← section? path document with
  | some fields => return fields
  | none => return if dedicated then document.filter (·.1 != "tool") else []

def parse (path : String) (octets : Octets) : Except SettingsTrouble SettingTable :=
  match Utf8.decode octets with
  | .error f => .error (.mishap (.undecodable f))
  | .ok cs =>
    match Toml.read cs with
    | .ok document => .ok document
    | .error f =>
      match f.complaint with
      | .tooManyDigits _ => .error (.mishap (.tooManyDigits f.complaint.text))
      | _ => .error (.fault (.malformed path f))

def readTable (path : String) (dedicated : Bool) (octets : Octets) :
    Except SettingsTrouble SettingTable := do
  let document ← parse path octets
  (tableOf path dedicated document).mapError .fault

/-- The table of a file that is named. -/
def named (t : FileTree) (path : String) : Except SettingsTrouble FoundSettings := do
  let plain := (Path.ofString path).text
  match t.fileOctets? plain with
  | .error f => .error (.mishap (.file f plain))
  | .ok none => .error (.fault (.notFound path))
  | .ok (some octets) => return ⟨← readTable plain true octets, plain⟩

/-- A location and all those above it, nearest first. -/
def upwards (loc : Location) : List Location :=
  (List.range (loc.length + 1)).map fun n => loc.take (loc.length - n)

/-- The project file of a directory. -/
def projectFileIn? (t : FileTree) (loc : Location) : Except Mishap (Option (String × Octets)) :=
  let path := FileTree.locationText (loc ++ [projectFile])
  match t.fileOctets? path with
  | .error f => .error (.file f path)
  | .ok octets => .ok (octets.map (path, ·))

def foundLog (path : String) : LogEntry :=
  ⟨.debug, .discovery, s!"Using configuration from {path}"⟩

/-- The nearest project file from a directory upwards. -/
def nearest? (t : FileTree) (start : String) : Except Mishap (Option (String × Octets)) := do
  let loc ← (t.realLocation start).mapError .unresolved
  (upwards loc).findSomeM? (projectFileIn? t)

/-- The table of the nearest project file; where there is none, or where it is empty, that of the
defaults. -/
def discovered (t : FileTree) (start defaultSource : String) :
    List LogEntry × Except SettingsTrouble FoundSettings :=
  match nearest? t start with
  | .error m => ([], .error (.mishap m))
  | .ok none => ([], .ok ⟨[], defaultSource⟩)
  | .ok (some (path, octets)) =>
    ([foundLog path], do
      let table ← readTable path false octets
      return ⟨table, if table.isEmpty then defaultSource else path⟩)

/-- The table of the named file, or of the nearest project file if none is named. -/
def load (t : FileTree) (named? : Option String) (start defaultSource : String) :
    List LogEntry × Except SettingsTrouble FoundSettings :=
  match named? with
  | some path => ([], named t path)
  | none => discovered t start defaultSource

end SettingsFile

end SourceConventions
