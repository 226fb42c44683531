/-
# Entries under the keys of fields

A record that was stored by the code as it is now has no aliases, and no key twice.  Then nothing is
passed over, and nothing can be wrong with the entries but what is wrong with a field by itself: it
is read from the entry under its key, or filled if there is none (`readMap_eq_ok_iff_of_current`).
-/

import Boilerplate.Proofs.Record.Order

namespace Boilerplate

variable {τ δ E V ε : Type} {entries : List (String × E)}

/-- An entry is found by its key if no key stands twice. -/
theorem lookup_eq_some_of_mem (h : (entryKeys entries).Nodup) {key : String} {e : E}
    (hmem : (key, e) ∈ entries) : entries.lookup key = some e := by
  induction entries with
  | nil => cases hmem
  | cons p rest ih =>
    obtain ⟨k, e'⟩ := p
    obtain ⟨hnot, hrest⟩ := List.nodup_cons.1 h
    rw [List.lookup_cons]
    rcases List.mem_cons.1 hmem with heq | hbehind
    · cases heq
      simp
    · have hkey : key ≠ k := by
        rintro rfl
        exact hnot (List.mem_map.2 ⟨_, hbehind, rfl⟩)
      rw [beq_eq_false_iff_ne.2 hkey]
      exact ih hrest hbehind

namespace RecordShape

variable {m : Meaning τ δ E V ε} {r : RecordShape τ δ} {f : StoredField τ δ} {x : RecordValue V}

/-- Nothing is passed over under the key of a field. -/
theorem readEntry_lenient_of_current (h : r.allKeys.Nodup) {key : String} (hkey : key ∈ r.keys)
    (filled : Slots V) (e : E) :
    readEntry m.lenient r filled key e = readEntry m r filled key e := by
  obtain ⟨f, hf, rfl⟩ := List.mem_map.1 hkey
  obtain ⟨i, hi⟩ := List.getElem?_of_mem hf
  have hslot : r.slot? f.key = some { field := i } :=
    (slot?_eq_some_iff h).2 (by simp [Slot.keyIn?, hi])
  simp only [readEntry, hslot, Option.isSome_none, Bool.false_and, Bool.false_eq_true, if_false]
  rfl

/-- Nothing is passed over where all keys are those of fields. -/
theorem readMap_lenient_of_current (h : r.allKeys.Nodup)
    (current : ∀ key ∈ entryKeys entries, key ∈ r.keys) :
    readMap m.lenient r entries = readMap m r entries := by
  have hrun : ∀ filled : Slots V,
      entries.foldlM (fun filled p => readEntry m.lenient r filled p.1 p.2) filled =
        entries.foldlM (fun filled p => readEntry m r filled p.1 p.2) filled := by
    induction entries with
    | nil => exact fun _ => rfl
    | cons p rest ih =>
      obtain ⟨hkey, hrest⟩ := List.forall_mem_cons.1 current
      intro filled
      rw [List.foldlM_cons, List.foldlM_cons, readEntry_lenient_of_current h hkey,
        funext (ih hrest)]
  have hentries : readEntries m.lenient r entries = readEntries m r entries := hrun Slots.empty
  rw [readMap, hentries]
  rfl

/-- What can be passed over makes no difference to what the fields take. -/
theorem reads_lenient_iff : Reads m.lenient r entries x ↔ Reads m r entries x := by
  have htakes : ∀ (f : StoredField τ δ) v, f.Takes m.lenient entries v ↔ f.Takes m entries v := by
    intro f v
    have hstands : f.StandsIn m.lenient v ↔ f.StandsIn m v := by
      rw [← absentValue?_eq_some_iff, ← absentValue?_eq_some_iff]
      exact Iff.rfl
    unfold StoredField.Takes
    cases f.source? entries with
    | none => exact hstands
    | some e => exact Iff.rfl
  have htransient : ∀ vs, List.Forall₂ (fun t v => t.StartsAs m.lenient v) r.transient vs ↔
      List.Forall₂ (fun t v => t.StartsAs m v) r.transient vs := by
    intro vs
    rw [forall₂_startsAs_iff, forall₂_startsAs_iff]
    exact Iff.rfl
  constructor
  · rintro ⟨stored, transient⟩
    exact ⟨stored.imp fun f v => (htakes f v).1, (htransient _).1 transient⟩
  · rintro ⟨stored, transient⟩
    exact ⟨stored.imp fun f v => (htakes f v).2, (htransient _).2 transient⟩

/-- Without aliases, a field is read from the entry under its key. -/
theorem source?_of_current (h : r.allKeys.Nodup)
    (current : ∀ key ∈ entryKeys entries, key ∈ r.keys) (hf : f ∈ r.fields) :
    f.source? entries = entries.lookup f.key := by
  have haliases : f.aliases.findSome? (fun key => entries.lookup key) = none := by
    rw [List.findSome?_eq_none_iff]
    exact fun key hkey => lookup_eq_none_iff_notMem.2 fun hmem =>
      alias_notMem_keys h hf hkey (current key hmem)
  rw [StoredField.source?, List.findSome?_cons, haliases]
  cases entries.lookup f.key <;> rfl

/-- **Entries under the keys of fields**, each once, are read as what the fields take from them. -/
theorem readMap_eq_ok_iff_of_current (h : r.allKeys.Nodup)
    (current : ∀ key ∈ entryKeys entries, key ∈ r.keys) (once : (entryKeys entries).Nodup) :
    readMap m r entries = .ok x ↔ Reads m r entries x := by
  rw [← readMap_lenient_of_current h current, readMap_eq_ok_iff h fun _ _ => rfl, reads_lenient_iff]
  refine and_iff_right_of_imp fun hreads hunreadable => ?_
  have htakes : ∀ f ∈ r.fields, ∃ v, f.Takes m entries v := fun f hf => by
    obtain ⟨v, -, hv⟩ := exists_mem_of_forall₂ hreads.stored hf
    exact ⟨v, hv⟩
  have halias : ∀ f ∈ r.fields, ∀ key ∈ f.aliases, key ∉ entryKeys entries :=
    fun f hf key hkey hmem => alias_notMem_keys h hf hkey (current key hmem)
  cases hunreadable with
  | keyTwice f hf twice => exact absurd (List.nodup_iff_count_le_one.1 once f.key) (by omega)
  | aliasAgain f hf key isAlias before between behind e again stands early =>
    exact halias f hf key isAlias (by simp [stands, entryKeys])
  | undecodable f hf key before behind e stands counts why refused =>
    rcases counts with rfl | ⟨isAlias, -⟩
    · obtain ⟨v, hv⟩ := htakes f hf
      rw [StoredField.Takes, source?_of_current h current hf,
        lookup_eq_some_of_mem once (e := e) (by simp [stands])] at hv
      have hdecode : m.lenient.decode f.type e = .ok v := hv
      rw [hdecode] at refused
      cases refused
    · exact halias f hf key isAlias (by simp [stands, entryKeys])
  | absent f hf required nowhere =>
    obtain ⟨v, hv⟩ := htakes f hf
    rw [StoredField.Takes, source?_of_current h current hf,
      lookup_eq_none_iff_notMem.2 (nowhere f.key List.mem_cons_self)] at hv
    have hsome := absentValue?_eq_some_iff.2 hv
    rw [absentValue?_eq_none_iff.2 required] at hsome
    cases hsome

end RecordShape
end Boilerplate
