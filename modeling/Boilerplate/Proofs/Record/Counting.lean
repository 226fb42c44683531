/-
# Which entries count

A record is read from entries in any order and with any repetitions, and not every entry counts.
An entry under the key of a field always counts for the field.  An entry under an alias counts
unless the key of the field stands before it (`StoredField.Counts`).  A field takes the entry under
its key, or else the one under the first alias that is there (`StoredField.source?`); where neither
is, its default or its emptiness stands in (`StoredField.StandsIn`).  A transient field is not read
at all and starts as it always does (`TransientField.StartsAs`).

`RecordShape.Unreadable` lists all that can be wrong with entries.  Nothing here mentions slots:
this is what reading means, and the modules that follow show that reading does it.
-/

import Boilerplate.Record.Decoding
import Mathlib.Data.List.Induction

namespace Boilerplate

variable {τ δ E V ε α : Type}

/-! ### Elements with what stands before them -/

/-- Some element has the property, together with the elements before it. -/
def ExistsAt (P : List α → α → Prop) (l : List α) : Prop :=
  ∃ before x behind, l = before ++ x :: behind ∧ P before x

/-- There is no element in an empty list. -/
theorem not_existsAt_nil {P : List α → α → Prop} : ¬ ExistsAt P [] := by
  rintro ⟨before, x, behind, h, _⟩
  simp at h

/-- A list with one more element adds that element, behind all others. -/
theorem existsAt_concat {P : List α → α → Prop} {l : List α} {y : α} :
    ExistsAt P (l ++ [y]) ↔ ExistsAt P l ∨ P l y := by
  constructor
  · rintro ⟨before, x, behind, h, hP⟩
    induction behind using List.reverseRecOn with
    | nil =>
      obtain ⟨rfl, hxy⟩ := List.append_inj' h rfl
      exact Or.inr (List.head_eq_of_cons_eq hxy ▸ hP)
    | append_singleton behind z _ =>
      rw [← List.cons_append, ← List.append_assoc] at h
      exact Or.inl ⟨before, x, behind, List.append_inj_left' h rfl, hP⟩
  · rintro (⟨before, x, behind, rfl, hP⟩ | hP)
    · exact ⟨before, x, behind ++ [y], by simp, hP⟩
    · exact ⟨l, y, [], rfl, hP⟩

/-! ### Reading, by the entries alone -/

/-- The keys of entries, in their order. -/
def entryKeys (entries : List (String × E)) : List String := entries.map (·.1)

namespace StoredField

/-- Whether an entry under the key counts for the field when it stands behind these entries. -/
def Counts (f : StoredField τ δ) (before : List (String × E)) (key : String) : Prop :=
  key = f.key ∨ key ∈ f.aliases ∧ f.key ∉ entryKeys before

/-- What the field is read from: the entry under its key, or else the one under the first of its
aliases that is there. -/
def source? (f : StoredField τ δ) (entries : List (String × E)) : Option E :=
  (f.key :: f.aliases).findSome? fun key => entries.lookup key

/-- Whether the value stands in for the field where the field is absent.  Nothing stands in for a
field that has no default and is not optional. -/
inductive StandsIn (m : Meaning τ δ E V ε) (f : StoredField τ δ) : V → Prop
  /-- A default comes first. -/
  | default (d : δ) (declared : f.default? = some d) : StandsIn m f (m.value d)
  /-- An optional field without a default is empty. -/
  | empty (undeclared : f.default? = none) (optional : f.isOptional = true) : StandsIn m f m.empty

/-- Whether reading the entries gives the field this value. -/
def Takes (m : Meaning τ δ E V ε) (f : StoredField τ δ) (entries : List (String × E)) (v : V) :
    Prop :=
  match f.source? entries with
  | some e => m.decode f.type e = .ok v
  | none => f.StandsIn m v

end StoredField

/-- Whether a transient field starts with the value: that of its default or, without one, the value
that its name has at first. -/
inductive TransientField.StartsAs (m : Meaning τ δ E V ε) (t : TransientField δ) : V → Prop
  | default (d : δ) (declared : t.default? = some d) : StartsAs m t (m.value d)
  | initial (undeclared : t.default? = none) : StartsAs m t (m.initial t.name)

namespace RecordShape

/-- What can be wrong with the entries of a record. -/
inductive Unreadable (m : Meaning τ δ E V ε) (r : RecordShape τ δ) (entries : List (String × E)) :
    Prop
  /-- The key of a field stands twice. -/
  | keyTwice (f : StoredField τ δ) (mem : f ∈ r.fields)
      (twice : 2 ≤ (entryKeys entries).count f.key)
  /-- An alias stands again, and the first time it did not stand behind the key of its field. -/
  | aliasAgain (f : StoredField τ δ) (mem : f ∈ r.fields) (key : String) (isAlias : key ∈ f.aliases)
      (before between behind : List (String × E)) (e again : E)
      (stands : entries = before ++ (key, e) :: between ++ (key, again) :: behind)
      (early : f.key ∉ entryKeys before)
  /-- An entry that counts for a field is no value of the field's type. -/
  | undecodable (f : StoredField τ δ) (mem : f ∈ r.fields) (key : String)
      (before behind : List (String × E)) (e : E) (stands : entries = before ++ (key, e) :: behind)
      (counts : f.Counts before key) (why : ε) (refused : m.decode f.type e = .error why)
  /-- There is no entry for a field that nothing stands in for. -/
  | absent (f : StoredField τ δ) (mem : f ∈ r.fields) (required : f.isRequired = true)
      (nowhere : ∀ key ∈ f.key :: f.aliases, key ∉ entryKeys entries)

/-- What a record holds once the entries are read. -/
structure Reads (m : Meaning τ δ E V ε) (r : RecordShape τ δ) (entries : List (String × E))
    (x : RecordValue V) : Prop where
  stored : List.Forall₂ (fun f v => f.Takes m entries v) r.fields x.stored
  transient : List.Forall₂ (fun t v => t.StartsAs m v) r.transient x.transient

end RecordShape
end Boilerplate
