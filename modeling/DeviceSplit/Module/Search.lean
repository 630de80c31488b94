import DeviceSplit.Reading

set_option autoImplicit false

/-! # Searching modules

A search is for the entries at or below a directory. The directory is named by plain data, and only
text will do. Where there is no entry to compare it with, the directory is not looked into. -/

namespace DeviceSplit

/-- The text that names a directory. -/
def directoryName : Data → Except Refusal String
  | .text s => .ok s
  | d => .error (.misused (.notAPath d.kind))

/-- Whether an entry is at or below each of some directories. -/
def ModuleEntry.isUnderEach (e : ModuleEntry) (directories : Data) :
    Except Refusal (List Bool) := do
  let ds ← directories.elements
  ds.mapM fun d => e.isUnder <$> directoryName d

/-- The paths of the entries at or below a directory, in order. -/
def ModuleSplit.search (m : ModuleSplit) (directory : Data) : Except Refusal (List String) :=
  if m.entries.isEmpty then .ok []
  else (fun name => (m.entriesUnder name).map (·.path)) <$> directoryName directory

/-- The paths found by several searches. -/
def ModuleSplit.searchEach (m : ModuleSplit) (directories : Data) :
    Except Refusal (List (List String)) := do
  let ds ← directories.elements
  ds.mapM m.search

end DeviceSplit
