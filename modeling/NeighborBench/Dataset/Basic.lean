import NeighborBench.Files
import NeighborBench.Single

/-! # Datasets

A dataset is a sequence of rows read in order from a cursor. Reading past the end is no error.
-/

namespace NeighborBench

/-! ## Rows -/

inductive RowKind where
  | vector
  | id
  deriving DecidableEq, Repr

namespace RowKind

def name : RowKind → String
  | vector => "vector"
  | id => "id"

def other : RowKind → RowKind
  | vector => id
  | id => vector

end RowKind

/-- Rows of one kind: vectors to search for, or the ids of their true neighbours. -/
inductive Rows where
  | vectors (rows : List (List Single))
  | ids (rows : List (List Int))
  deriving DecidableEq, Repr

/-! ## Errors -/

/-- Why a file is not in the format it should have. -/
inductive FormatProblem where
  | header (path : String) (fault : FileFault)
  | tooLarge (path : String) (rows dim : Nat)
  | wrongLength (path : String) (rows dim expected actual : Nat)
  | unknownExtension (path : String) (found : Option String)
  | holdsIds (path : String)
  | other (text : String)
  deriving DecidableEq, Repr

def FormatProblem.message : FormatProblem → String
  | header path fault => s!"{path}: cannot read header: {fault.message}"
  | tooLarge path rows dim => s!"{path}: header {rows}x{dim} overflows the file size"
  | wrongLength path rows dim expected actual =>
    s!"{path}: header claims {rows}x{dim} ({expected} bytes) but file has {actual} bytes"
  | unknownExtension path none => s!"unknown big-ann extension None for {path}"
  | unknownExtension path (some found) =>
    s!"unknown big-ann extension Some({Text.quoted found}) for {path}"
  | holdsIds path => s!"{path}: ibin files hold neighbor ids, not vectors"
  | other text => text

inductive DatasetError where
  | io (fault : FileFault)
  | format (problem : FormatProblem)
  | unsupportedFormat (name : String)
  | featureDisabled (format : String)
  | rowKind (expected : RowKind)
  | countTooLarge (cursor count : Nat)
  deriving DecidableEq, Repr

namespace DatasetError

/-- The feature that a reader of HDF5 files would need. -/
def missingFeature : String := "hdf5"

def message : DatasetError → String
  | io fault => s!"io: {fault.message}"
  | format problem => s!"invalid dataset format: {problem.message}"
  | unsupportedFormat name => s!"unsupported dataset format `{name}`"
  | featureDisabled name => s!"dataset format `{name}` requires the `{missingFeature}` cargo feature"
  | rowKind expected => s!"expected {expected.name} rows, got {expected.other.name}"
  | countTooLarge cursor count => s!"no row has a number past {cursor} + {count}"

def diagnostic : DatasetError → String
  | io fault => s!"Io({fault.diagnostic})"
  | format problem => s!"Format({Text.quoted problem.message})"
  | unsupportedFormat name => s!"UnsupportedFormat({Text.quoted name})"
  | featureDisabled name =>
    s!"FeatureDisabled \x7b format: {Text.quoted name}, feature: {Text.quoted missingFeature} \x7d"
  | rowKind expected =>
    s!"RowKind \x7b expected: {Text.quoted expected.name}, got: {Text.quoted expected.other.name} \x7d"
  | countTooLarge cursor count => s!"CountTooLarge \x7b cursor: {cursor}, count: {count} \x7d"

end DatasetError

namespace Rows

def kind : Rows → RowKind
  | vectors _ => .vector
  | ids _ => .id

def length : Rows → Nat
  | vectors rows => rows.length
  | ids rows => rows.length

/-- The rows from one number up to another. -/
def slice (rows : Rows) (start stop : Nat) : Rows :=
  match rows with
  | vectors rows => vectors ((rows.drop start).take (stop - start))
  | ids rows => ids ((rows.drop start).take (stop - start))

def none : RowKind → Rows
  | .vector => vectors []
  | .id => ids []

def asVectors : Rows → Except DatasetError (List (List Single))
  | vectors rows => .ok rows
  | ids _ => .error (.rowKind .vector)

def asIds : Rows → Except DatasetError (List (List Int))
  | ids rows => .ok rows
  | vectors _ => .error (.rowKind .id)

end Rows

/-! ## Readers -/

/-- How a dataset is to be used once it is open. -/
inductive Role where
  | index
  | query
  | neighbors
  deriving DecidableEq, Repr

/-- The member of an HDF5 file that holds the rows. -/
def Role.member : Role → String
  | index => "train"
  | query => "test"
  | neighbors => "neighbors"

/-- `read n` answers up to `n` rows and moves the cursor past them, or nothing at the end; `reset`
moves the cursor to the first row; `size` counts all rows. -/
class Dataset (δ : Type) where
  size : δ → Nat
  read : Nat → δ → Except DatasetError (Option Rows) × δ
  reset : δ → Except DatasetError Unit × δ

/-- Rows are numbered in words of 64 bits. -/
def rowNumberLimit : Nat := 0x1_0000_0000_0000_0000

end NeighborBench
