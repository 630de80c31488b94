import DeviceSplit.Path
import DeviceSplit.PlainForm

set_option autoImplicit false

/-! # Entries of a module

A file inside a module: its path, in normal spelling, and its bytes. A module may list an entry
more than once, as long as all entries with one path are the same. -/

namespace DeviceSplit

structure ModuleEntry where
  path : String
  content : List UInt8 := []
deriving DecidableEq

namespace ModuleEntry

/-- An entry's path is in normal spelling and leads somewhere. -/
def Valid (e : ModuleEntry) : Prop := e.path ≠ "" ∧ Path.normalize e.path = e.path

/-- Whether an entry is the given directory, in any spelling, or lies below it. -/
def isUnder (e : ModuleEntry) (directory : String) : Bool :=
  Path.contains (Path.normalizeChars directory.toList) e.path.toList

/-- A path in any spelling that leads somewhere. -/
def readPath (d : Data) : Checked String :=
  (readText d).andThen fun s =>
    if Path.normalize s = "" then .reject (.broken .emptyPath) else .ok (Path.normalize s)

instance : PlainForm ModuleEntry where
  read := readRecord fun fields =>
    ModuleEntry.mk <$> fields.required "path" readPath <*>
      fields.withDefault "content" [] readBytes
  write e := .record [("path", .text e.path), ("content", .bytes e.content)]

/-! ## Lists of entries -/

/-- The first entry that differs from the first one with its path. -/
def firstConflict? (es : List ModuleEntry) : Option ModuleEntry :=
  es.find? fun e => es.find? (·.path == e.path) != some e

/-- The entries of a list, each once and in order of first appearance, unless two of them have
one path and different content. -/
def distinct (es : List ModuleEntry) : Checked (List ModuleEntry) :=
  match firstConflict? es with
  | some e => .reject (.broken (.conflictingEntries e.path))
  | none => .ok es.eraseDups

end ModuleEntry

end DeviceSplit
