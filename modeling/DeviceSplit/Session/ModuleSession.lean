import DeviceSplit.AbiSplit.Request
import DeviceSplit.Module.Search

set_option autoImplicit false

/-! # Sessions on a module

A session holds a module split and the splits that the last successful pass gave. Commands change
the module split, look into it, divide it, and go on with one of the splits or with the module
split from the beginning. -/

namespace DeviceSplit

inductive ModuleCommand where
  | change (changes : Fields)
  | find (directory : Data)
  | split (policy : PolicySource)
  /-- Go on with one of the last splits, counted from 0. -/
  | select (index : Data)
  | get
  | reset
  /-- Whether the last splits are just the module split itself. -/
  | same

/-- What a command is answered with. -/
inductive ModuleAnswer where
  | data (d : Data)
  | refused (r : Refusal)
  | split (a : SplitAnswer)

/-- A module split with some fields replaced. In a change, `self` names the module split, so that
nothing can be replaced under this name. -/
def ModuleSplit.changed (m : ModuleSplit) (changes : Fields) : Except Refusal ModuleSplit := do
  let prepared ← Fields.withContents changes
  if prepared.any (·.1 == "self") then .error (.misused .changeOfSelf)
  else (m.withChanges prepared).orRefuse .moduleSplit

/-- One of some splits, counted from 0. -/
def pickSplit (splits : List ModuleSplit) (index : Data) : Except Refusal ModuleSplit :=
  let beyond : Except Refusal ModuleSplit := .error (.noSuchSplit splits.length)
  match index with
  | .bool b => splits[b.toNat]?.elim beyond .ok
  | .int n => if n < 0 then beyond else splits[n.toNat]?.elim beyond .ok
  | .floating x =>
    if x.isBelow splits.length then .error (.misused (.notACount index.kind)) else beyond
  | _ => .error (.misused (.notANumber index.kind))

structure ModuleSession where
  initial : ModuleSplit
  level : Severity
  current : ModuleSplit
  splits : List ModuleSplit := []

namespace ModuleSession

/-- Go on with a module split and show it. -/
def goOn (s : ModuleSession) (m : ModuleSplit) : ModuleSession × ModuleAnswer :=
  ({ s with current := m }, .data (write m))

/-- Carry out one command: the session afterwards and the answer. -/
def perform (s : ModuleSession) : ModuleCommand → ModuleSession × ModuleAnswer
  | .change changes =>
    match s.current.changed changes with
    | .ok m => s.goOn m
    | .error refusal => (s, .refused refusal)
  | .find directory =>
    match s.current.search directory with
    | .ok paths => (s, .data (.list (paths.map .text)))
    | .error refusal => (s, .refused refusal)
  | .split policy =>
    match s.current.answer policy s.level with
    | .error refusal => (s, .refused refusal)
    | .ok a =>
      match a.outcome with
      | .ok splits => ({ s with splits := splits }, .split a)
      | .error _ => (s, .split a)
  | .select index =>
    match pickSplit s.splits index with
    | .ok m => s.goOn m
    | .error refusal => (s, .refused refusal)
  | .get => (s, .data (write s.current))
  | .reset => s.goOn s.initial
  | .same => (s, .data (.bool (s.splits = [s.current])))

/-- Carry out commands one after another. -/
def run (s : ModuleSession) : List ModuleCommand → List ModuleAnswer
  | [] => []
  | c :: r => (s.perform c).2 :: (s.perform c).1.run r

end ModuleSession

/-- Read a module and carry out commands on it. -/
def moduleSession (module : Data) (level : LevelSource) (commands : List ModuleCommand) :
    Except Refusal (List ModuleAnswer) := do
  let m ← Schema.moduleSplit.parse module
  let l ← level.level
  return ModuleSession.run { initial := m, level := l, current := m } commands

end DeviceSplit
