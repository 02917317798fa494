import ScriptGraph.Ron.Codec
import ScriptGraph.Tick

/-! Settings of a session and the documents they are kept in. Every field of a document may be left
out. A document of a newer version is refused, and numbers out of range are moved into it. -/

namespace ScriptGraph

/-- How fast time passes in the scene is `timeScale`, and `logLevel` is what a host shows of the log
that has no filter of its own. -/
structure Settings where
  version : UInt32
  startPlaying : Bool
  timeScale : Single
  maxDepth : UInt64
  logLevel : String
deriving DecidableEq, Repr

/-- Why settings could not be had. A file that is missing or is no text is unreadable. -/
inductive SettingsError where
  | unreadable
  | malformed
  | unsupportedVersion (found supported : UInt32)
deriving DecidableEq, Repr

def SettingsError.message : SettingsError → String
  | .unreadable => "Settings I/O error"
  | .malformed => "Invalid settings document"
  | .unsupportedVersion found supported =>
    "Settings version " ++ natText found.toNat ++ " is newer than supported version " ++
      natText supported.toNat

namespace Settings

def currentVersion : UInt32 := 1

def initial : Settings where
  version := currentVersion
  startPlaying := false
  timeScale := .one
  maxDepth := UInt64.ofNat defaultMaxDepth
  logLevel := "info"

instance : Inhabited Settings := ⟨initial⟩

def maxTimeScale : Single := .ofInt 10

/-- The scale that a requested one comes to: between zero and the fastest, and one for a NaN. -/
def clampScale (scale : Single) : Single :=
  if scale.isNaN then .one else scale.clamp .zero maxTimeScale

def setTimeScale (s : Settings) (scale : Single) : Settings :=
  { s with timeScale := clampScale scale }

/-- The time that passes in the scene while `deltaTime` passes outside. -/
def scaled (s : Settings) (deltaTime : Single) : Single := deltaTime.mul (clampScale s.timeScale)

def depthLimit (s : Settings) : Nat := clampDepth s.maxDepth.toNat

/-- Equality with floats compared as numbers. -/
def equal (s t : Settings) : Bool :=
  s.version = t.version && s.startPlaying = t.startPlaying && s.timeScale.equal t.timeScale &&
    s.maxDepth = t.maxDepth && s.logLevel = t.logLevel

def ron (s : Settings) : Ron :=
  .record (some "InterpreterSettings")
    [("version", .nat s.version.toNat), ("start_playing", .bool s.startPlaying),
      ("time_scale", .single s.timeScale), ("max_dispatch_depth", .nat s.maxDepth.toNat),
      ("log_level", .string s.logLevel)]

def reader : RonReader Settings :=
  ((RonRecord.defaulted "version" .word initial.version).and <|
    (RonRecord.defaulted "start_playing" .bool initial.startPlaying).and <|
    (RonRecord.defaulted "time_scale" .single initial.timeScale).and <|
    (RonRecord.defaulted "max_dispatch_depth" .longWord initial.maxDepth).and <|
    RonRecord.defaulted "log_level" .text initial.logLevel).read "InterpreterSettings"
    |>.map fun (version, startPlaying, timeScale, maxDepth, logLevel) =>
      ⟨version, startPlaying, timeScale, maxDepth, logLevel⟩

def toRonText (s : Settings) : String := s.ron.render

def ofRonText (text : String) : Except SettingsError Settings :=
  match Ron.document? reader text with
  | none => .error .malformed
  | some s =>
    if currentVersion < s.version then .error (.unsupportedVersion s.version currentVersion)
    else .ok { s.setTimeScale s.timeScale with maxDepth := max s.maxDepth 1 }

/-- Reads a settings file, of which nothing is given if it is missing. -/
def ofFile (content : Option ByteArray) : Except SettingsError Settings :=
  match content.bind String.fromUTF8? with
  | none => .error .unreadable
  | some text => ofRonText text

end Settings

end ScriptGraph
