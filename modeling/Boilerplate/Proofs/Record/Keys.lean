/-
# Every key has one slot

`RecordDeclaration.judgeKeys` goes through the aliases of all fields with one growing list of keys
that are taken.  It is silent exactly when no alias is the key of a field and no alias is written
twice (`judgeKeys_eq_nil_iff`), so the keys that an accepted record is read under are distinct as
soon as those of its fields are (`allKeys_nodup_of_ofItem`).

The key table is then a one-to-one correspondence between keys and slots: `slot?` finds the slot of
a key, and `Slot.keyIn?` is the way back (`slot?_eq_some_iff`).
-/

import Boilerplate.Record.Plan
import Boilerplate.RecordDeclaration
import Mathlib.Data.List.Nodup

namespace Boilerplate
namespace RecordDeclaration

/-- An alias is accepted if it is neither the key of its field nor taken, and it is taken for the
aliases behind it. -/
theorem judgeAliases_eq_nil_iff {taken : List String} {ps : List (String × FormerKey)} :
    judgeAliases taken ps = [] ↔
      (∀ p ∈ ps, p.2.key ≠ p.1 ∧ p.2.key ∉ taken) ∧ (ps.map (·.2.key)).Nodup := by
  induction ps generalizing taken with
  | nil => simp [judgeAliases]
  | cons p ps ih =>
    obtain ⟨key, l⟩ := p
    by_cases hown : l.key = key
    · simp [judgeAliases, judgeAlias, hown]
    by_cases htaken : l.key ∈ taken
    · simp [judgeAliases, judgeAlias, hown, htaken]
    have hstep : judgeAliases taken ((key, l) :: ps) = judgeAliases (l.key :: taken) ps := by
      simp [judgeAliases, judgeAlias, hown, htaken]
    rw [hstep, ih, List.map_cons, List.nodup_cons]
    constructor
    · rintro ⟨hrest, hnd⟩
      refine ⟨?_, fun hmem => ?_, hnd⟩
      · rintro q (_ | ⟨_, hq⟩)
        · exact ⟨hown, htaken⟩
        · exact ⟨(hrest q hq).1, fun h => (hrest q hq).2 (List.mem_cons_of_mem _ h)⟩
      · obtain ⟨q, hq, heq⟩ := List.mem_map.1 hmem
        exact (hrest q hq).2 (heq ▸ List.mem_cons_self)
    · rintro ⟨hall, hnot, hnd⟩
      refine ⟨fun q hq => ⟨(hall q (List.mem_cons_of_mem _ hq)).1, fun h => ?_⟩, hnd⟩
      rcases List.mem_cons.1 h with heq | h
      · exact hnot (List.mem_map.2 ⟨q, hq, heq⟩)
      · exact (hall q (List.mem_cons_of_mem _ hq)).2 h

/-- **When aliases are accepted:** none is the key of a field, its own or another, and no two are
the same. -/
theorem judgeKeys_eq_nil_iff {fields : List (StoredField TypeExpr Expr)} :
    judgeKeys fields = [] ↔
      (∀ f ∈ fields, ∀ key ∈ f.aliases, key ∉ fields.map (·.key)) ∧
        (fields.flatMap (·.aliases)).Nodup := by
  have hkeys : (fields.flatMap fun f => f.legacy.map fun l => (f.key, l)).map (·.2.key) =
      fields.flatMap (·.aliases) := by
    simp [List.map_flatMap, StoredField.aliases, Function.comp_def]
  rw [judgeKeys, judgeAliases_eq_nil_iff, hkeys]
  refine and_congr_left fun _ => ⟨fun h f hf key hkey => ?_, fun h p hp => ?_⟩
  · obtain ⟨l, hl, rfl⟩ := List.mem_map.1 hkey
    exact (h (f.key, l) (List.mem_flatMap.2 ⟨f, hf, List.mem_map.2 ⟨l, hl, rfl⟩⟩)).2
  · obtain ⟨f, hf, hp⟩ := List.mem_flatMap.1 hp
    obtain ⟨l, hl, rfl⟩ := List.mem_map.1 hp
    have hnot := h f hf l.key (List.mem_map.2 ⟨l, hl, rfl⟩)
    exact ⟨fun heq => hnot (heq ▸ List.mem_map.2 ⟨f, hf, rfl⟩), hnot⟩

/-- A record is made of fields whose aliases are accepted. -/
theorem judgeKeys_eq_nil_of_ofFields {before : List Diagnostic} {s : StructItem}
    {fields : List Field} {d : RecordDeclaration} (h : ofFields before s fields = .ok d) :
    judgeKeys d.fields = [] := by
  simp only [ofFields] at h
  split at h
  · rename_i hnil
    obtain rfl := Except.ok.inj h
    exact (List.append_eq_nil_iff.1 hnil).2
  · cases h

/-- The fields of a declared record have accepted aliases. -/
theorem judgeKeys_eq_nil_of_ofItem {args : Tokens} {item : Item} {d : RecordDeclaration}
    (h : ofItem args item = .ok d) : judgeKeys d.fields = [] := by
  cases item with
  | struct s =>
    simp only [ofItem] at h
    split at h
    · exact judgeKeys_eq_nil_of_ofFields h
    · exact judgeKeys_eq_nil_of_ofFields h
    · cases h
  | _ => cases h

/-- **No key is read twice.**  The keys and aliases of a declared record are distinct as soon as
the keys of its fields are. -/
theorem allKeys_nodup_of_ofItem {args : Tokens} {item : Item} {d : RecordDeclaration}
    (h : ofItem args item = .ok d) (hkeys : d.keys.Nodup) : d.allKeys.Nodup := by
  obtain ⟨hfree, hnd⟩ := judgeKeys_eq_nil_iff.1 (judgeKeys_eq_nil_of_ofItem h)
  refine List.nodup_append.2 ⟨hkeys, hnd, fun key hkey other hother heq => ?_⟩
  obtain ⟨f, hf, hmem⟩ := List.mem_flatMap.1 hother
  exact hfree f hf other hmem (heq ▸ hkey)

end RecordDeclaration

/-- The key that fills the slot. -/
def Slot.keyIn? {τ δ : Type} (s : Slot) (r : RecordShape τ δ) : Option String :=
  match s.alias? with
  | none => r.fields[s.field]?.map (·.key)
  | some a => r.fields[s.field]?.bind fun f => f.aliases[a]?

namespace RecordShape

variable {τ δ : Type} {r : RecordShape τ δ}

/-- What is asked of the elements of a numbered list alone. -/
theorem map_fst_zipIdx {α β : Type} (g : α → β) (l : List α) :
    (l.zipIdx.map fun p => g p.1) = l.map g := by
  rw [← Function.comp_def g, ← List.map_map, List.zipIdx_map_fst]

/-- The keys of the key table, in its order. -/
theorem map_key_keyedSlots (r : RecordShape τ δ) : r.keyedSlots.map (·.key) = r.allKeys := by
  have hcurrent : r.currentKeyedSlots.map (·.key) = r.keys := by
    rw [currentKeyedSlots, List.map_map]
    exact map_fst_zipIdx (·.key) r.fields
  have halias : r.aliasKeyedSlots.map (·.key) = r.fields.flatMap (·.aliases) := by
    have hfield : ∀ (f : StoredField τ δ) (i : Nat),
        (f.aliases.zipIdx.map fun p => (⟨p.1, ⟨i, some p.2⟩⟩ : KeyedSlot)).map (·.key) =
          f.aliases := by
      intro f i
      rw [List.map_map]
      exact (map_fst_zipIdx id f.aliases).trans (List.map_id _)
    rw [aliasKeyedSlots, List.map_flatMap, List.flatMap_def, List.flatMap_def]
    simp only [hfield]
    exact congrArg List.flatten (map_fst_zipIdx (·.aliases) r.fields)
  rw [keyedSlots, List.map_append, hcurrent, halias, allKeys]

/-- The key table lists every slot with its key. -/
theorem mem_keyedSlots_iff {key : String} {s : Slot} :
    ⟨key, s⟩ ∈ r.keyedSlots ↔ s.keyIn? r = some key := by
  obtain ⟨i, a?⟩ := s
  rw [keyedSlots, List.mem_append]
  cases a? with
  | none => simp [currentKeyedSlots, aliasKeyedSlots, Slot.keyIn?, List.mem_zipIdx_iff_getElem?]
  | some a =>
    simp [currentKeyedSlots, aliasKeyedSlots, Slot.keyIn?, List.mem_zipIdx_iff_getElem?,
      Option.bind_eq_some_iff]

/-- **A key fills one slot, and a slot is filled under one key.** -/
theorem slot?_eq_some_iff (h : r.allKeys.Nodup) {key : String} {s : Slot} :
    r.slot? key = some s ↔ s.keyIn? r = some key := by
  rw [← mem_keyedSlots_iff, slot?, Option.map_eq_some_iff]
  constructor
  · rintro ⟨e, he, rfl⟩
    obtain rfl : e.key = key := by simpa using List.find?_some he
    exact List.mem_of_find?_eq_some he
  · intro hmem
    obtain ⟨e, he⟩ : ∃ e, r.keyedSlots.find? (·.key == key) = some e :=
      Option.isSome_iff_exists.1 (List.find?_isSome.2 ⟨_, hmem, by simp⟩)
    have hkey : e.key = key := by simpa using List.find?_some he
    have hnd : (r.keyedSlots.map (·.key)).Nodup := map_key_keyedSlots r ▸ h
    have heq : e = ⟨key, s⟩ :=
      List.inj_on_of_nodup_map hnd (List.mem_of_find?_eq_some he) hmem hkey
    exact ⟨e, he, congrArg KeyedSlot.slot heq⟩

/-- **A key that is read has one slot**, if no key is read twice. -/
theorem existsUnique_slot (h : r.allKeys.Nodup) {key : String} (hkey : key ∈ r.allKeys) :
    ∃! s : Slot, s.keyIn? r = some key := by
  rw [← map_key_keyedSlots, List.mem_map] at hkey
  obtain ⟨e, he, rfl⟩ := hkey
  refine ⟨e.slot, mem_keyedSlots_iff.1 he, fun s hs => ?_⟩
  have hfirst := (slot?_eq_some_iff h).2 (mem_keyedSlots_iff.1 he)
  exact Option.some.inj (((slot?_eq_some_iff h).2 hs).symm.trans hfirst)

end RecordShape
end Boilerplate
