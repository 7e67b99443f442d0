import NeighborBench.Dataset.Source
import NeighborBench.Proofs.Dataset.Format
import NeighborBench.Proofs.Success

/-! # The rows that an open file answers

The kind of the rows and how many entries each has are settled when a file is opened. Whoever writes
to the file afterwards changes neither.
-/

namespace NeighborBench

open Dataset (Call Answer perform history)

/-! ## Kinds and widths -/

/-- The rows that a dataset is opened for. -/
def Role.kind : Role → RowKind
  | .neighbors => .id
  | _ => .vector

def Rows.widths : Rows → List Nat
  | .vectors rows => rows.map List.length
  | .ids rows => rows.map List.length

/-- Rows of a kind, each with so many entries. -/
structure Rows.Fit (kind : RowKind) (dim : Nat) (rows : Rows) : Prop where
  kind : rows.kind = kind
  widths : ∀ width ∈ rows.widths, width = dim

theorem Element.rows_fit (element : Element) (dim : Nat) (chunks : List (List UInt8))
    (h : ∀ chunk ∈ chunks, chunk.length = dim * element.width) :
    (element.rows chunks).Fit element.kind dim := by
  have hwords : element.width = 4 → ∀ chunk ∈ chunks, (wordsOf chunk).length = dim := by
    intro hwidth chunk hchunk
    rw [length_wordsOf, h chunk hchunk, hwidth, Nat.mul_div_cancel dim (by decide)]
  cases element
  case f32 => exact ⟨rfl, by simpa [rows, Rows.widths, singlesOf] using hwords rfl⟩
  case u8 => exact ⟨rfl, by simpa [rows, Rows.widths, width] using h⟩
  case i32 => exact ⟨rfl, by simpa [rows, Rows.widths, idsOf] using hwords rfl⟩

namespace BigAnn

theorem chunks_length (b : BigAnn) (n offset : Nat) (chunks : List (List UInt8))
    (h : (b.chunks n offset).1 = .ok chunks) : ∀ chunk ∈ chunks, chunk.length = b.rowLength := by
  induction n generalizing offset chunks with
  | zero =>
    cases h
    nofun
  | succ n ih =>
    rw [BigAnn.chunks] at h
    simp only at h
    split at h
    · rename_i hinside
      have hrest := ih (offset + b.rowLength)
      generalize b.chunks n (offset + b.rowLength) = answer at h hrest
      rcases answer with ⟨_ | rest, stop⟩
      · cases h
      · cases h
        intro chunk hchunk
        rcases List.mem_cons.mp hchunk with rfl | hchunk
        · rw [toList_extract b.bytes offset b.rowLength hinside]
          simp
        · exact hrest rest rfl chunk hchunk
    · cases h

/-- Two states of one open file. -/
structure SameForm (a b : BigAnn) : Prop where
  element : b.element = a.element
  dim : b.dim = a.dim

theorem SameForm.trans {a b c : BigAnn} (first : SameForm a b) (next : SameForm b c) :
    SameForm a c :=
  ⟨next.element.trans first.element, next.dim.trans first.dim⟩

theorem read_sameForm (b : BigAnn) (count : Nat) : SameForm b (b.read count).2 := by
  unfold read
  split
  · exact ⟨rfl, rfl⟩
  split
  · exact ⟨rfl, rfl⟩
  · simp only
    generalize b.chunks (min (b.cursor + count) b.rows - b.cursor) b.offset = answer
    rcases answer with ⟨fault | chunks, offset⟩
    · exact ⟨rfl, rfl⟩
    · exact ⟨rfl, rfl⟩

theorem read_fit (b : BigAnn) (count : Nat) (rows : Rows)
    (h : (b.read count).1 = .ok (some rows)) : rows.Fit b.element.kind b.dim := by
  unfold read at h
  split at h
  · cases h
  split at h
  · cases h
  · have hlength := b.chunks_length (min (b.cursor + count) b.rows - b.cursor) b.offset
    simp only at h
    generalize b.chunks (min (b.cursor + count) b.rows - b.cursor) b.offset = answer at h hlength
    rcases answer with ⟨fault | chunks, offset⟩
    · cases h
    · cases h
      exact b.element.rows_fit b.dim chunks (hlength chunks rfl)

end BigAnn

/-! ## Files that are written to while they are open -/

/-- An open file and what becomes of it: at each of the next calls it holds other bytes, or the call
fails. After those calls it stays as it is. -/
structure Unsettled where
  file : BigAnn
  later : List (Except FileFault ByteArray)

namespace Unsettled

def call {α : Type} (act : BigAnn → Except DatasetError α × BigAnn) (d : Unsettled) :
    Except DatasetError α × Unsettled :=
  match d.later with
  | [] =>
    let (answer, file) := act d.file
    (answer, ⟨file, []⟩)
  | .ok bytes :: rest =>
    let (answer, file) := act { d.file with bytes }
    (answer, ⟨file, rest⟩)
  | .error fault :: rest => (.error (.io fault), ⟨d.file, rest⟩)

instance : Dataset Unsettled where
  size d := d.file.rows
  read count := call (BigAnn.read count)
  reset := call BigAnn.reset

theorem call_eq {α : Type} (act : BigAnn → Except DatasetError α × BigAnn) (d : Unsettled) :
    (∃ fault, call act d = (.error (.io fault), ⟨d.file, d.later.tail⟩)) ∨
      ∃ file, d.file.SameForm file ∧
        call act d = ((act file).1, ⟨(act file).2, d.later.tail⟩) := by
  obtain ⟨file, later⟩ := d
  rcases later with _ | ⟨fault | bytes, rest⟩
  · exact .inr ⟨file, ⟨rfl, rfl⟩, rfl⟩
  · exact .inl ⟨fault, rfl⟩
  · exact .inr ⟨{ file with bytes }, ⟨rfl, rfl⟩, rfl⟩

theorem read_fit (d : Unsettled) (count : Nat) (rows : Rows)
    (h : (Dataset.read count d).1 = .ok (some rows)) :
    rows.Fit d.file.element.kind d.file.dim := by
  change (call (BigAnn.read count) d).1 = _ at h
  rcases call_eq (BigAnn.read count) d with ⟨fault, hcall⟩ | ⟨file, same, hcall⟩
  · rw [hcall] at h
    cases h
  · rw [hcall] at h
    rw [← same.element, ← same.dim]
    exact file.read_fit count rows h

theorem call_sameForm {α : Type} {act : BigAnn → Except DatasetError α × BigAnn}
    (keeps : ∀ b, BigAnn.SameForm b (act b).2) (d : Unsettled) :
    d.file.SameForm (call act d).2.file := by
  rcases call_eq act d with ⟨fault, hcall⟩ | ⟨file, same, hcall⟩
  · rw [hcall]
    exact ⟨rfl, rfl⟩
  · rw [hcall]
    exact same.trans (keeps file)

theorem perform_sameForm (d : Unsettled) (made : Call) :
    d.file.SameForm (perform made d).2.file := by
  cases made with
  | read count => exact call_sameForm (fun b => b.read_sameForm count) d
  | reset =>
    have keeps : ∀ b : BigAnn, b.SameForm b.reset.2 := fun _ => ⟨rfl, rfl⟩
    exact call_sameForm keeps d

theorem history_fit (calls : List Call) (d : Unsettled) (rows : Rows)
    (h : .batch (.ok (some rows)) ∈ (history calls d).1) :
    rows.Fit d.file.element.kind d.file.dim := by
  induction calls generalizing d with
  | nil => cases h
  | cons made rest ih =>
    rcases List.mem_cons.mp h with hfirst | hlater
    · cases made with
      | read count =>
        injection hfirst with hfirst
        exact d.read_fit count rows hfirst.symm
      | reset => cases hfirst
    · -- The later calls are made to the same file in another state.
      have same := d.perform_sameForm made
      have hrest := ih (perform made d).2 hlater
      rwa [same.element, same.dim] at hrest

theorem history_settled (calls : List Call) (b : BigAnn) :
    (history calls (⟨b, []⟩ : Unsettled)).1 = (history calls b).1 := by
  induction calls generalizing b with
  | nil => rfl
  | cons made rest ih =>
    cases made with
    | read count => exact congrArg (_ :: ·) (ih (b.read count).2)
    | reset => exact congrArg (_ :: ·) (ih b.reset.2)

end Unsettled

/-! ## Opening -/

namespace DatasetRef

theorem element_kind (ref : DatasetRef) (element : Element) (h : ref.element = .ok element) :
    element.kind = ref.role.kind := by
  unfold DatasetRef.element at h
  split at h
  · rename_i hrole
    cases h
    rw [hrole]
    rfl
  · rename_i hrole
    have hvector : ref.role.kind = .vector := by
      cases hcase : ref.role with
      | neighbors => exact absurd hcase hrole
      | _ => rfl
    split at h
    · cases h
    · rename_i hids
      rw [hvector]
      cases element with
      | i32 => exact absurd h hids
      | _ => rfl

theorem accepted_of_openWith {ω : Type} (load : String → StateM ω (Except FileFault Entry))
    (ref : DatasetRef) (before after : ω) (b : BigAnn)
    (h : ref.openWith load before = (.ok b, after)) :
    ∃ element bytes, element.kind = ref.role.kind ∧ BigAnn.Accepted element bytes b := by
  unfold openWith at h
  split at h
  · cases h
  split at h
  · cases helement : ref.element with
    | error e =>
      rw [helement] at h
      cases h
    | ok element =>
      rw [helement] at h
      simp only [state_bind] at h
      generalize load ref.path before = loaded at h
      rcases loaded with ⟨fault | entry, between⟩
      · cases h
      · cases entry with
        | directory => cases h
        | file bytes =>
          obtain ⟨hopen, -⟩ := Prod.mk.inj h
          exact ⟨element, bytes, ref.element_kind element helement,
            BigAnn.accepted_of_openEntry ref.path element bytes b hopen⟩
  · cases h

end DatasetRef

end NeighborBench
