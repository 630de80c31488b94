import DeviceSplit.Device.Abi

set_option autoImplicit false

/-! # Native libraries of a module

A module may say which of its directories hold native libraries, and for which architecture each
directory is. An architecture can have several directories, and directories can contain each
other. -/

namespace DeviceSplit

/-- What a directory of native libraries is for: always a single architecture. -/
structure NativeTargeting where
  abi : Abi
deriving DecidableEq

instance : PlainForm NativeTargeting where
  read := readRecord fun fields => NativeTargeting.mk <$> fields.required "abi" read
  write t := .record [("abi", write t.abi)]

/-- A directory, in any spelling, and what it is for. -/
structure NativeDirectory where
  path : String
  targeting : NativeTargeting
deriving DecidableEq

instance : PlainForm NativeDirectory where
  read := readRecord fun fields =>
    NativeDirectory.mk <$> fields.required "path" readText <*> fields.required "targeting" read
  write d := .record [("path", .text d.path), ("targeting", write d.targeting)]

/-- The architecture of a directory. -/
def NativeDirectory.abi (d : NativeDirectory) : Abi := d.targeting.abi

structure NativeLibraries where
  directories : List NativeDirectory := []
deriving DecidableEq

namespace NativeLibraries

instance : PlainForm NativeLibraries where
  read := readRecord fun fields =>
    NativeLibraries.mk <$> fields.withDefault "directories" [] (readSequence read)
  write n := .record [("directories", .list (n.directories.map write))]

/-- The architectures, in order of first appearance. -/
def abis (n : NativeLibraries) : List Abi := (n.directories.map (·.abi)).eraseDups

/-- The directories of one architecture, in order. -/
def pathsOf (n : NativeLibraries) (a : Abi) : List String :=
  (n.directories.filter (·.abi == a)).map (·.path)

theorem mem_abis {n : NativeLibraries} {a : Abi} :
    a ∈ n.abis ↔ ∃ d ∈ n.directories, d.abi = a := by
  simp [abis, List.mem_eraseDups]

theorem mem_pathsOf {n : NativeLibraries} {a : Abi} {p : String} :
    p ∈ n.pathsOf a ↔ ∃ d ∈ n.directories, d.abi = a ∧ d.path = p := by
  simp [pathsOf, and_assoc]

end NativeLibraries

end DeviceSplit
