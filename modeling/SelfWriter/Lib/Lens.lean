import Mathlib.Tactic.Common

/-!
# Lawful lenses

A field of a record, read and written independently of the rest.
-/

namespace SelfWriter.Lib

universe u v w

/-- A field that can be read and written.  Writing changes what is read to what
was written, writing what is there changes nothing, and the last write wins. -/
structure Lens (σ : Type u) (α : Type v) where
  get : σ → α
  set : σ → α → σ
  get_set : ∀ whole part, get (set whole part) = part := by intros; rfl
  set_get : ∀ whole, set whole (get whole) = whole := by intros; rfl
  set_set : ∀ whole first second,
    set (set whole first) second = set whole second := by intros; rfl

attribute [simp] Lens.get_set Lens.set_get Lens.set_set

namespace Lens

variable {σ : Type u} {α : Type v} {β : Type w}

/-- A field of a field. -/
def andThen (outer : Lens σ α) (inner : Lens α β) : Lens σ β where
  get whole := inner.get (outer.get whole)
  set whole part := outer.set whole (inner.set (outer.get whole) part)
  get_set whole part := by
    rw [outer.get_set, inner.get_set]
  set_get whole := by
    rw [inner.set_get, outer.set_get]
  set_set whole first second := by
    rw [outer.get_set, outer.set_set, inner.set_set]

/-- One entry of a vector. -/
def entry {size : Nat} (index : Fin size) : Lens (Vector α size) α where
  get entries := entries[index]
  set entries value := entries.set index value
  get_set entries value := by
    simp only [Fin.getElem_fin, Vector.getElem_set_self]
  set_get entries := by
    simp only [Fin.getElem_fin, Vector.set_getElem_self]
  set_set entries first second := by
    simp only [Vector.set_set]

/-- Writes an optional value: an absent one leaves the field as it is. -/
def write (field : Lens σ α) (whole : σ) (value : Option α) : σ :=
  field.set whole (value.getD (field.get whole))

/-- Writing to a field of a field writes to the outer field. -/
theorem write_andThen (outer : Lens σ α) (inner : Lens α β) (whole : σ)
    (value : Option β) :
    (outer.andThen inner).write whole value =
      outer.set whole (inner.write (outer.get whole) value) :=
  rfl

theorem getElem_write_entry {size : Nat} (index : Fin size)
    (entries : Vector α size) (value : Option α) (place : Nat)
    (bound : place < size) :
    ((entry index).write entries value)[place] =
      if index.val = place then value.getD entries[place]
      else entries[place] := by
  by_cases same : index.val = place
  · subst same
    rw [if_pos rfl]
    exact Vector.getElem_set_self _
  · rw [if_neg same]
    exact Vector.getElem_set_ne index.isLt bound same

theorem write_none (field : Lens σ α) (whole : σ) :
    field.write whole none = whole :=
  field.set_get whole

end Lens

end SelfWriter.Lib
