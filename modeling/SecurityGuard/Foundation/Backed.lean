import Mathlib.Data.Option.Basic

/-!
# Values read from stored documents

A program reads a value from a stored document when it starts, and replaces both when a new
document arrives.  The value in memory is then the one that the next start reads, and a document
that can be read is only ever replaced by another one.
-/

/-- A stored document, and the value that has been read since the start. -/
@[ext]
structure Backed (Document Value : Type*) where
  stored : Option Document
  loaded : Option Value

namespace Backed

variable {Document Value : Type*} (read : Document → Option Value)
  (backed : Backed Document Value)

/-- A document is there, or not, and nothing has been read. -/
def boot (stored : Option Document) : Backed Document Value := ⟨stored, none⟩

/-- What a start reads. -/
def readable : Option Value := backed.stored.bind read

/-- The value is read, or stays what it was if the document does not open or cannot be read. -/
def load (opens : Bool) : Backed Document Value :=
  { backed with loaded := (if opens then backed.readable read else none).or backed.loaded }

/-- A document that can be read replaces the one that is there, and its value the one in memory. -/
def write (document : Document) : Backed Document Value :=
  match read document with
  | none => backed
  | some value => ⟨some document, some value⟩

/-- The memory is lost. -/
def drop : Backed Document Value := { backed with loaded := none }

/-- The value in memory is the one that a start reads. -/
def Coherent : Prop := ∀ value, backed.loaded = some value → backed.readable read = some value

variable {read backed}

theorem coherent_boot (stored : Option Document) : (boot stored).Coherent read :=
  fun _ loaded => absurd loaded (by simp [boot])

theorem Coherent.drop : backed.drop.Coherent read :=
  fun _ loaded => absurd loaded (by simp [Backed.drop])

theorem Coherent.load (coherent : backed.Coherent read) (opens : Bool) :
    (backed.load read opens).Coherent read := by
  intro value loaded
  rcases Option.or_eq_some_iff.mp loaded with here | ⟨-, before⟩
  · cases opens with
    | false => exact absurd here (by simp)
    | true => exact here
  · exact coherent value before

theorem write_of_reads {document : Document} {value : Value} (reads : read document = some value) :
    backed.write read document = ⟨some document, some value⟩ := by
  rw [write, reads]

theorem Coherent.write (coherent : backed.Coherent read) (document : Document) :
    (backed.write read document).Coherent read := by
  cases reads : read document with
  | none =>
      rw [Backed.write, reads]
      exact coherent
  | some value =>
      rw [write_of_reads reads]
      intro other loaded
      exact reads.trans loaded

theorem load_drop (coherent : backed.Coherent read) {value : Value}
    (loaded : backed.loaded = some value) :
    (backed.drop.load read true).loaded = some value := by
  have same : backed.drop.readable read = backed.readable read := rfl
  rw [load, same, coherent value loaded, if_pos rfl, Option.some_or]

theorem isSome_readable_write (document : Document)
    (readable : (backed.readable read).isSome = true) :
    ((backed.write read document).readable read).isSome = true := by
  cases reads : read document with
  | none => rwa [write, reads]
  | some value =>
      rw [write_of_reads reads]
      exact Option.isSome_of_eq_some reads

end Backed
