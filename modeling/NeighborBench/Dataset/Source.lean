import NeighborBench.Dataset.BigAnn

/-! # Where datasets come from -/

namespace NeighborBench

/-- What names a dataset: its format, its path, and what it is opened for. -/
structure DatasetRef where
  format : String
  path : String
  role : Role
  deriving DecidableEq, Repr

/-- The reader of this format is a feature that a build has to ask for. What is modelled is the
default set of features, without that reader. -/
def hdf5Format : String := "hdf5"

def bigAnnFormat : String := "bigann"

/-- The element of a big-ann file. Neighbours are ids whatever the path is; vectors must not be. -/
def DatasetRef.element (ref : DatasetRef) : Except DatasetError Element :=
  match ref.role with
  | .neighbors => .ok .i32
  | _ =>
    match Element.ofPath ref.path with
    | .ok .i32 => .error (.format (.holdsIds ref.path))
    | found => found

/-- Opens a dataset through a loader of files. The loader is asked only for a big-ann file whose
element is known. -/
def DatasetRef.openWith {m : Type → Type} [Monad m] (load : String → m (Except FileFault Entry))
    (ref : DatasetRef) : m (Except DatasetError BigAnn) :=
  if ref.format = hdf5Format then pure (.error (.featureDisabled hdf5Format))
  else if ref.format = bigAnnFormat then
    match ref.element with
    | .error e => pure (.error e)
    | .ok element => do
      match ← load ref.path with
      | .error fault => pure (.error (.io fault))
      | .ok entry => pure (BigAnn.openEntry ref.path element entry)
  else pure (.error (.unsupportedFormat ref.format))

end NeighborBench
