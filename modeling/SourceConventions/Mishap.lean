import SourceConventions.Facts.Basic
import SourceConventions.Files.Resolve
import SourceConventions.Octets.Encoding

/-!
# Mishaps

A mishap is a fault that the program does not foresee where it arises. It ends whatever is under
way, unless that runs apart from the rest.
-/

namespace SourceConventions

inductive Mishap where
  | analysis (fault : AnalysisFault)
  | nameless (fault : NamelessPath)
  | unresolved (fault : ResolveFault)
  | undecodable (fault : Utf8.Fault)
  /-- A declared code that makes no texts of octets. -/
  | notText (name : String)
  | unknownCharset (name : String)
  | refused (refusal : CharsetRefusal)
  | file (fault : FileFault) (path : String)
  | tooManyDigits (message : String)
  | unwritten (fault : EncodingFault)
  | worker (message : String)
  | brokenPool (message : String)
  deriving DecidableEq, Repr

namespace Mishap

/-- The kind of a mishap and what is said about it. -/
def parts : Mishap → String × String
  | .analysis f => f.parts
  | .nameless f => ("ValueError", f.text)
  | .unresolved f => (f.kind, f.text)
  | .undecodable f => ("UnicodeDecodeError", f.text)
  | .notText name =>
    ("LookupError",
      s!"{Text.quotedString name} is not a text encoding; use codecs.open() to handle arbitrary codecs")
  | .unknownCharset name => ("LookupError", s!"unknown encoding: {name}")
  | .refused r => ("UnicodeError", r.text)
  | .file f path => (f.kind, f.report path)
  | .tooManyDigits m => ("ValueError", m)
  | .unwritten f => (f.kind, f.text)
  | .worker m => ("RuntimeError", m)
  | .brokenPool m => ("BrokenProcessPool", m)

def kind (m : Mishap) : String := m.parts.1

def message (m : Mishap) : String := m.parts.2

def text (m : Mishap) : String := s!"{m.kind}: {m.message}"

end Mishap

end SourceConventions
