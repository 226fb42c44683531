/-
# Slots and their names

The slots of a record are those of its fields, one after the other (`RecordShape.slots`).  The key
table goes through the keys of all fields first, and it has the same slots in another order
(`RecordShape.perm_slots`).

The variable that holds the value of a slot and the kind of the slot's key are called by one or two
numbers, and a slot can be told from either name (`Slot.variableName_injective`,
`Slot.keyName_injective`): the number of the field ends where no digit follows, whatever number an
alias has behind it.
-/

import Boilerplate.Record.Plan
import Mathlib.Data.List.Basic
import Mathlib.Data.List.Nodup
import Mathlib.Data.List.Perm.Basic

namespace Boilerplate

/-! ### The slots of a record -/

namespace RecordShape

variable {τ δ : Type} {r : RecordShape τ δ} {s : Slot}

/-- The slots of all fields, field by field. -/
def slots (r : RecordShape τ δ) : List Slot := r.fields.zipIdx.flatMap fun (f, i) => f.slots i

/-- The slots of a field know its number. -/
theorem field_of_mem_slots {f : StoredField τ δ} {i : Nat} (h : s ∈ f.slots i) : s.field = i := by
  rcases List.mem_cons.1 h with rfl | h
  · rfl
  · obtain ⟨a, -, rfl⟩ := List.mem_map.1 h
    rfl

/-- The slots of a record are those of its fields. -/
theorem mem_slots_iff :
    s ∈ r.slots ↔ ∃ f, r.fields[s.field]? = some f ∧ s ∈ f.slots s.field := by
  simp only [slots, List.mem_flatMap, List.mem_zipIdx_iff_getElem?, Prod.exists]
  constructor
  · rintro ⟨f, i, hf, hs⟩
    obtain rfl := field_of_mem_slots hs
    exact ⟨f, hf, hs⟩
  · rintro ⟨f, hf, hs⟩
    exact ⟨f, s.field, hf, hs⟩

/-- **The key table has the slots of all fields.** -/
theorem perm_slots (r : RecordShape τ δ) : (r.keyedSlots.map (·.slot)).Perm r.slots := by
  have halias : ∀ (f : StoredField τ δ) (i : Nat),
      (f.aliases.zipIdx.map fun p => (⟨p.1, ⟨i, some p.2⟩⟩ : KeyedSlot)).map (·.slot) =
        f.aliasSlots i := by
    intro f i
    have hnumbers : (f.aliases.zipIdx.map fun p => p.2) = List.range f.legacy.length := by
      rw [List.zipIdx_map_snd, List.range_eq_range', StoredField.aliases, List.length_map]
    rw [StoredField.aliasSlots, ← hnumbers, List.map_map, List.map_map]
    rfl
  rw [keyedSlots, List.map_append, currentKeyedSlots, aliasKeyedSlots, List.map_map,
    List.map_flatMap]
  simp only [halias]
  exact List.map_append_flatMap_perm _ _ _

/-- No slot is listed twice. -/
theorem nodup_slots (r : RecordShape τ δ) : r.slots.Nodup := by
  have hfield : ∀ (f : StoredField τ δ) (i : Nat), (f.slots i).Nodup := by
    intro f i
    refine List.nodup_cons.2 ⟨fun h => ?_, List.nodup_range.map fun a b hab => ?_⟩
    · obtain ⟨a, -, ha⟩ := List.mem_map.1 h
      cases ha
    · cases hab
      rfl
  have hnumbers : (r.fields.zipIdx.map Prod.snd).Nodup := by
    rw [List.zipIdx_map_snd]
    exact List.nodup_range'
  refine List.nodup_flatMap.2 ⟨fun p _ => hfield p.1 p.2, ?_⟩
  refine (List.pairwise_map.1 hnumbers).imp fun {p q} hne s hp hq => hne ?_
  rw [← field_of_mem_slots hp, field_of_mem_slots hq]

/-- The slots in the key table are slots of the record. -/
theorem slot_mem_slots {e : KeyedSlot} (h : e ∈ r.keyedSlots) : e.slot ∈ r.slots :=
  (perm_slots r).mem_iff.1 (List.mem_map_of_mem h)

/-- What tells slots apart tells the entries of the key table apart. -/
theorem nodup_map_keyedSlots (r : RecordShape τ δ) {name : Slot → String}
    (h : Function.Injective name) : (r.keyedSlots.map fun e => name e.slot).Nodup := by
  have hnames := ((perm_slots r).nodup_iff.2 (nodup_slots r)).map h
  rwa [List.map_map] at hnames

end RecordShape

/-! ### Names -/

namespace Slot

/-- A number is told by its digits. -/
theorem eq_of_repr {m n : Nat} (h : Nat.repr m = Nat.repr n) : m = n := by
  have hdigits := congrArg (fun s => Nat.ofDigitChars 10 s.toList 0) h
  simpa only [Nat.toList_repr, Nat.ofDigitChars_toDigits (by decide : 1 < 10) (Nat.le_refl 10)]
    using hdigits

/-- The digits that both names go on with are those of the field. -/
theorem takeWhile_isDigit (s : Slot) :
    (Nat.repr s.field ++ s.suffix).toList.takeWhile Char.isDigit = (Nat.repr s.field).toList := by
  have hdigits : ∀ c ∈ (Nat.repr s.field).toList, c.isDigit = true := by
    rw [Nat.toList_repr]
    exact fun c hc => Nat.isDigit_of_mem_toDigits (by decide) (by decide) hc
  have hsuffix : s.suffix.toList.takeWhile Char.isDigit = [] := by
    unfold suffix
    split
    · rfl
    · rw [String.toList_append]
      rfl
  rw [String.toList_append, List.takeWhile_append_of_pos hdigits, hsuffix, List.append_nil]

/-- **A slot is told by its numbers.** -/
theorem eq_of_numbers {s t : Slot}
    (h : Nat.repr s.field ++ s.suffix = Nat.repr t.field ++ t.suffix) : s = t := by
  have hfield : s.field = t.field := by
    refine eq_of_repr (String.toList_inj.1 ?_)
    rw [← takeWhile_isDigit s, ← takeWhile_isDigit t, h]
  rw [hfield, String.append_right_inj] at h
  obtain ⟨i, a?⟩ := s
  obtain ⟨j, b?⟩ := t
  obtain rfl : i = j := hfield
  have halias : ∀ a : Nat, "" ≠ "_legacy" ++ Nat.repr a := fun a heq => by
    simpa using congrArg String.toList heq
  refine congrArg (Slot.mk i) ?_
  cases a? with
  | none =>
    cases b? with
    | none => rfl
    | some b => exact absurd h (halias b)
  | some a =>
    cases b? with
    | none => exact absurd h.symm (halias a)
    | some b => exact congrArg some (eq_of_repr ((String.append_right_inj "_legacy").1 h))

/-- **A slot can be told from its variable.** -/
theorem variableName_injective : Function.Injective variableName := by
  intro s t h
  rw [variableName, variableName, String.append_assoc, String.append_assoc,
    String.append_right_inj] at h
  exact eq_of_numbers h

/-- **A slot can be told from the kind of its key.** -/
theorem keyName_injective : Function.Injective keyName := by
  intro s t h
  rw [keyName, keyName, String.append_assoc, String.append_assoc, String.append_right_inj] at h
  exact eq_of_numbers h

/-- The digits are the same, but they are parted elsewhere. -/
example : keyName { field := 1, alias? := some 10 } ≠
    keyName { field := 11, alias? := some 0 } := by
  decide

/-- No slot has the name for keys that are skipped. -/
theorem keyName_ne_ignore (s : Slot) : s.keyName ≠ "__ignore" := by
  intro h
  have hthird : s.keyName.toList[2]? = some 'k' := by
    rw [keyName, String.append_assoc, String.toList_append]
    rfl
  rw [h] at hthird
  revert hthird
  decide

end Slot
end Boilerplate
