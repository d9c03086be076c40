/-
The directory of a run. `pathlib` joins the paths, and the operating system takes
each one to a place; a file is known by its place.
-/

import ImagePipeline.Common.Text
import ImagePipeline.Library.Entries
import Mathlib.Data.List.Infix

namespace ImagePipeline.Benchmark

open Common
open Library (setEntry setEntries)

/-- A `PosixPath`: its components without those that are empty or `.`. -/
structure Path where
  absolute : Bool
  parts : List Str
  deriving DecidableEq

namespace Path

def ofStr (text : Str) : Path :=
  { absolute := text.head? = some slash
    parts := (text.splitOn slash).filter (fun part => part ≠ [] ∧ part ≠ str ".") }

/-- `path / text`: an absolute path takes the place of the one before it. -/
def join (path : Path) (text : Str) : Path :=
  if (ofStr text).absolute then ofStr text else ⟨path.absolute, path.parts ++ (ofStr text).parts⟩

/-- `str(path)`. -/
def text (path : Path) : Str :=
  if path.absolute then slash :: [slash].intercalate path.parts
  else if path.parts = [] then str "."
  else [slash].intercalate path.parts

end Path

structure Disk where
  workingDirectory : List Str
  files : List (List Str × Str)

/-- One component further. -/
def descend (directory : List Str) (part : Str) : List Str :=
  if part = str ".." then directory.dropLast else directory ++ [part]

namespace Disk

def place (disk : Disk) (path : Path) : List Str :=
  ((if path.absolute then [] else disk.workingDirectory) ++ path.parts).foldl descend []

def read (disk : Disk) (path : Path) : Option Str := disk.files.lookup (disk.place path)

def write (disk : Disk) (path : Path) (text : Str) : Disk :=
  { disk with files := setEntry (disk.place path) text disk.files }

end Disk

/-- A name that makes one component of a path, also with `.log` behind it. -/
structure FileName (name : Str) : Prop where
  filled : name ≠ []
  proper : name ≠ str "." ∧ name ≠ str ".."
  undivided : slash ∉ name
  unterminated : codePoint '\x00' ∉ name
  encodable : encodable name = true
  short : (encodeUtf8 name).length ≤ 251

/-- What is below a directory, by the components of its place. -/
def below (directory place : List Str) : Option (List Str) :=
  if directory <+: place then some (place.drop directory.length) else none

/-- `log_path.stem`, where `*.log` matches. -/
def logStem (filename : Str) : Option Str :=
  if (str ".log").isSuffixOf filename then
    some (if filename = str ".log" then filename else filename.take (filename.length - 4))
  else none

namespace Disk

/-- `(run_dir / "logs").glob("*.log")`: each node, container and text. -/
def localLog (disk : Disk) (runDir : Path) (file : List Str × Str) :
    Option (Option Str × Str × Str) :=
  match below (disk.place (runDir.join (str "logs"))) file.1 with
  | some [filename] => (logStem filename).map (fun container =>
      (if str "nodes" ∈ runDir.parts then runDir.parts.getLast? else none, container, file.2))
  | _ => none

/-- `(run_dir / "nodes").glob("*/logs/*.log")`. -/
def nodeLog (disk : Disk) (runDir : Path) (file : List Str × Str) :
    Option (Option Str × Str × Str) :=
  match below (disk.place (runDir.join (str "nodes"))) file.1 with
  | some [node, logs, filename] =>
      if logs = str "logs" then (logStem filename).map (fun container =>
        (some node, container, file.2))
      else none
  | _ => none

def logFiles (disk : Disk) (runDir : Path) : List (Option Str × Str × Str) :=
  disk.files.filterMap (disk.localLog runDir) ++ disk.files.filterMap (disk.nodeLog runDir)

end Disk

/-! ### Places -/

section Places

variable {disk : Disk} {path : Path} {name : Str}

theorem ofStr_component (filled : name ≠ []) (proper : name ≠ str ".") (undivided : slash ∉ name) :
    Path.ofStr name = ⟨false, [name]⟩ := by
  have whole : name.splitOn slash = [name] :=
    List.splitOnP_eq_singleton fun letter member =>
      beq_eq_false_iff_ne.mpr fun same => undivided (same ▸ member)
  have relative : name.head? ≠ some slash := by
    intro first
    exact undivided (List.mem_of_mem_head? first)
  unfold Path.ofStr
  rw [whole, List.filter_singleton, decide_eq_false relative, decide_eq_true ⟨filled, proper⟩]
  rfl

theorem place_join (filled : name ≠ []) (proper : name ≠ str "." ∧ name ≠ str "..")
    (undivided : slash ∉ name) : disk.place (path.join name) = disk.place path ++ [name] := by
  unfold Disk.place Path.join
  rw [ofStr_component filled proper.1 undivided, if_neg Bool.false_ne_true]
  dsimp only
  rw [← List.append_assoc, List.foldl_append, List.foldl_cons, List.foldl_nil, descend,
    if_neg proper.2]

theorem FileName.place (named : FileName name) :
    disk.place (path.join name) = disk.place path ++ [name] :=
  place_join named.filled named.proper named.undivided

theorem FileName.place_append (named : FileName name) {ending : Str} (longer : 2 < ending.length)
    (undivided : slash ∉ ending) :
    disk.place (path.join (name ++ ending)) = disk.place path ++ [name ++ ending] := by
  have long : 2 < (name ++ ending).length := by
    rw [List.length_append]
    omega
  refine place_join (List.ne_nil_of_length_pos (by omega)) ⟨?_, ?_⟩ ?_
  · rintro same
    rw [same] at long
    exact absurd long (by decide)
  · rintro same
    rw [same] at long
    exact absurd long (by decide)
  · rw [List.mem_append, not_or]
    exact ⟨named.undivided, undivided⟩

end Places

theorem below_append (directory rest : List Str) :
    below directory (directory ++ rest) = some rest := by
  rw [below, if_pos (List.prefix_append directory rest), List.drop_left]

theorem logStem_append {name : Str} (filled : name ≠ []) :
    logStem (name ++ str ".log") = some name := by
  have ends : (str ".log").isSuffixOf (name ++ str ".log") = true :=
    List.isSuffixOf_iff_suffix.mpr (List.suffix_append name _)
  have more : name ++ str ".log" ≠ str ".log" :=
    fun same => filled (List.self_eq_append_left.mp same.symm)
  have shorter : (name ++ str ".log").length - 4 = name.length := by
    have four : (str ".log").length = 4 := by decide
    rw [List.length_append, four, Nat.add_sub_cancel]
  rw [logStem, if_pos ends, if_neg more, shorter, List.take_left]

end ImagePipeline.Benchmark
