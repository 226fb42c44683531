/-
# Reading entries into slots

While entries are read, the slot of a key holds the value of the first entry that counts under that
key (`Filled`).  One entry keeps it so or is refused (`readEntry_spec`), and it is refused exactly
if an entry has counted under its key before, or if it counts and is no value of the field's type
(`Refused`).  Over all entries that gives `readEntries_spec`.
-/

import Boilerplate.Proofs.Except
import Boilerplate.Proofs.Record.Counting
import Boilerplate.Proofs.Record.Keys

namespace Boilerplate

variable {τ δ E V ε : Type}

/-! ### The first entry that counts under a key -/

/-- Nothing is found under a key that no entry has. -/
theorem lookup_eq_none_iff_notMem {entries : List (String × E)} {key : String} :
    entries.lookup key = none ↔ key ∉ entryKeys entries := by
  rw [List.lookup_eq_none_iff, entryKeys, List.mem_map, not_exists]
  simp only [bne_iff_ne, ne_eq, not_and]
  exact forall_congr' fun p => forall_congr' fun _ => not_congr eq_comm

namespace StoredField

variable {f : StoredField τ δ} {entries : List (String × E)} {key k : String} {e : E}

/-- The first entry that counts under the key, which is that of the field or an alias: the search
for an alias ends at the key of the field. -/
def counted? (f : StoredField τ δ) (key : String) : List (String × E) → Option E
  | [] => none
  | (k, e) :: rest => if k = key then some e else if k = f.key then none else f.counted? key rest

/-- Every key of a field counts as long as there are no entries. -/
theorem counts_nil (h : key ∈ f.key :: f.aliases) : f.Counts ([] : List (String × E)) key := by
  rcases List.mem_cons.1 h with rfl | h
  · exact Or.inl rfl
  · exact Or.inr ⟨h, List.not_mem_nil⟩

/-- An entry counts behind another one, unless that has the key of the field. -/
theorem counts_cons_iff (hk : k ≠ f.key) :
    f.Counts ((k, e) :: entries) key ↔ f.Counts entries key := by
  simp [Counts, entryKeys, Ne.symm hk]

/-- Behind the key of the field nothing counts but that key. -/
theorem counts_cons_self_iff : f.Counts ((f.key, e) :: entries) key ↔ key = f.key := by
  simp [Counts, entryKeys]

open Classical in
/-- One more entry is the first that counts under its key, if none has counted and it counts. -/
theorem counted?_concat (h : key ∈ f.key :: f.aliases) :
    f.counted? key (entries ++ [(k, e)]) =
      (f.counted? key entries).or (if k = key ∧ f.Counts entries key then some e else none) := by
  induction entries with
  | nil => simp [counted?, counts_nil h]
  | cons p rest ih =>
    obtain ⟨k', e'⟩ := p
    rw [List.cons_append, counted?, counted?]
    by_cases hkey : k' = key
    · simp [hkey]
    by_cases hown : k' = f.key
    · subst hown
      have hnot : ¬ f.Counts ((f.key, e') :: rest) key :=
        fun hc => hkey (counts_cons_self_iff.1 hc).symm
      simp [hkey, hnot]
    · simp only [if_neg hkey, if_neg hown, ih, counts_cons_iff hown]

/-- An entry has counted under the key if some entry under it counted where it stood. -/
theorem counted?_isSome_iff (h : key ∈ f.key :: f.aliases) :
    (f.counted? key entries).isSome ↔
      ExistsAt (fun before p => p.1 = key ∧ f.Counts before key) entries := by
  induction entries using List.reverseRecOn with
  | nil => simp [counted?, not_existsAt_nil]
  | append_singleton rest p ih =>
    obtain ⟨k, e⟩ := p
    rw [counted?_concat h, existsAt_concat, ← ih, Option.isSome_or, Bool.or_eq_true]
    refine or_congr_right ?_
    split <;> simp_all

/-- Under the key of the field all entries count. -/
theorem counted?_key : f.counted? f.key entries = entries.lookup f.key := by
  induction entries with
  | nil => rfl
  | cons p rest ih =>
    obtain ⟨k, e⟩ := p
    rw [counted?, List.lookup_cons, ih]
    by_cases hk : k = f.key
    · simp [hk]
    · simp [hk, beq_eq_false_iff_ne.2 (Ne.symm hk)]

/-- Without the key of the field all entries under an alias count. -/
theorem counted?_of_notMem (h : f.key ∉ entryKeys entries) :
    f.counted? key entries = entries.lookup key := by
  induction entries with
  | nil => rfl
  | cons p rest ih =>
    obtain ⟨k, e⟩ := p
    obtain ⟨hk, hrest⟩ := not_or.1 (List.mem_cons.not.1 h)
    rw [counted?, List.lookup_cons, ih hrest, if_neg (Ne.symm hk)]
    by_cases heq : k = key
    · simp [heq]
    · simp [heq, beq_eq_false_iff_ne.2 (Ne.symm heq)]

end StoredField

/-! ### Slots and fields -/

namespace RecordShape

variable {r : RecordShape τ δ}

/-- No alias is the key of a field. -/
theorem alias_notMem_keys (h : r.allKeys.Nodup) {f : StoredField τ δ} (hf : f ∈ r.fields)
    {key : String} (hkey : key ∈ f.aliases) : key ∉ r.keys :=
  fun hmem => (List.nodup_append.1 h).2.2 key hmem key (List.mem_flatMap.2 ⟨f, hf, hkey⟩) rfl

/-- The key of a slot is the key or an alias of the slot's field. -/
theorem field_of_keyIn? {s : Slot} {key : String} (h : s.keyIn? r = some key) :
    ∃ f, r.fields[s.field]? = some f ∧ key ∈ f.key :: f.aliases ∧
      (s.alias? = none → key = f.key) ∧ (s.alias?.isSome → key ∈ f.aliases) := by
  obtain ⟨i, a?⟩ := s
  cases a? with
  | none =>
    obtain ⟨f, hf, rfl⟩ := Option.map_eq_some_iff.1 h
    exact ⟨f, hf, List.mem_cons_self, fun _ => rfl, nofun⟩
  | some a =>
    obtain ⟨f, hf, ha⟩ := Option.bind_eq_some_iff.1 h
    have hmem := List.mem_of_getElem? ha
    exact ⟨f, hf, List.mem_cons_of_mem _ hmem, nofun, fun _ => hmem⟩

/-- Every key and alias of a field has a slot of that field. -/
theorem exists_slot {f : StoredField τ δ} (hf : f ∈ r.fields) {key : String}
    (h : key ∈ f.key :: f.aliases) :
    ∃ s : Slot, s.keyIn? r = some key ∧ r.fields[s.field]? = some f := by
  obtain ⟨i, hi⟩ := List.getElem?_of_mem hf
  rcases List.mem_cons.1 h with rfl | h
  · exact ⟨{ field := i }, by simp [Slot.keyIn?, hi], hi⟩
  · obtain ⟨a, ha⟩ := List.getElem?_of_mem h
    exact ⟨{ field := i, alias? := some a }, by simp [Slot.keyIn?, hi, ha], hi⟩

/-! ### The slots while entries are read -/

/-- The slots after these entries: each holds the value of the entry that counts under its key. -/
def Filled (m : Meaning τ δ E V ε) (r : RecordShape τ δ) (entries : List (String × E))
    (filled : Slots V) : Prop :=
  ∀ s key f, s.keyIn? r = some key → r.fields[s.field]? = some f →
    Option.Rel (fun e v => m.decode f.type e = .ok v) (f.counted? key entries) (filled s)

/-- Whether an entry is refused behind these entries: one has counted under its key before, or it
counts and is no value. -/
def Refused (m : Meaning τ δ E V ε) (r : RecordShape τ δ) (before : List (String × E))
    (p : String × E) : Prop :=
  ∃ f ∈ r.fields, p.1 ∈ f.key :: f.aliases ∧
    ((f.counted? p.1 before).isSome ∨
      f.Counts before p.1 ∧ ∃ why, m.decode f.type p.2 = .error why)

variable {m : Meaning τ δ E V ε} {entries : List (String × E)} {filled : Slots V}

/-- No slot is filled before the first entry is read. -/
theorem filled_empty : Filled m r [] Slots.empty :=
  fun _ _ _ _ _ => .none

/-- Of two related things, either both are there or none is. -/
theorem isSome_of_rel {α β : Type} {R : α → β → Prop} {a : Option α} {b : Option β}
    (h : Option.Rel R a b) : b.isSome = a.isSome := by
  cases h <;> rfl

/-- The slot for the key of a field is filled once that key was there. -/
theorem isSome_current_iff (hfilled : Filled m r entries filled) {s : Slot} {f : StoredField τ δ}
    (hf : r.fields[s.field]? = some f) :
    (filled s.current).isSome ↔ f.key ∈ entryKeys entries := by
  have hkey : s.current.keyIn? r = some f.key := by simp [Slot.current, Slot.keyIn?, hf]
  rw [isSome_of_rel (hfilled _ _ _ hkey hf), StoredField.counted?_key, ← not_iff_not,
    Option.not_isSome_iff_eq_none, lookup_eq_none_iff_notMem]

/-- An entry that counts for no field leaves the slots as they are. -/
theorem Filled.concat_of_not_counts (hfilled : Filled m r entries filled) {k : String} {e : E}
    (h : ∀ (s : Slot) (f : StoredField τ δ), s.keyIn? r = some k → r.fields[s.field]? = some f →
      ¬ f.Counts entries k) :
    Filled m r (entries ++ [(k, e)]) filled := by
  intro s key f hs hf
  obtain ⟨g, hg, hmem, -, -⟩ := field_of_keyIn? hs
  obtain rfl : f = g := Option.some.inj (hf.symm.trans hg)
  have hnot : ¬(k = key ∧ f.Counts entries key) := by
    rintro ⟨rfl, hc⟩
    exact h s f hs hf hc
  rw [StoredField.counted?_concat hmem, if_neg hnot, Option.or_none]
  exact hfilled s key f hs hf

/-- An entry that counts fills the slot of its key with its value. -/
theorem Filled.concat_fill (h : r.allKeys.Nodup) (hfilled : Filled m r entries filled) {k : String}
    {e : E} {s : Slot} {f : StoredField τ δ} (hs : s.keyIn? r = some k)
    (hf : r.fields[s.field]? = some f) (hfirst : f.counted? k entries = none)
    (hcounts : f.Counts entries k) {v : V} (hv : m.decode f.type e = .ok v) :
    Filled m r (entries ++ [(k, e)]) (filled.fill s v) := by
  intro t key g ht hg
  obtain ⟨g', hg', hmem, -, -⟩ := field_of_keyIn? ht
  obtain rfl : g = g' := Option.some.inj (hg.symm.trans hg')
  rw [StoredField.counted?_concat hmem]
  by_cases hts : t = s
  · subst hts
    obtain rfl : k = key := Option.some.inj (hs.symm.trans ht)
    obtain rfl : f = g := Option.some.inj (hf.symm.trans hg)
    rw [hfirst, if_pos ⟨rfl, hcounts⟩, Option.none_or, Slots.fill, if_pos rfl]
    exact .some hv
  · have hne : ¬(k = key ∧ g.Counts entries key) := by
      rintro ⟨rfl, -⟩
      exact hts (Option.some.inj (((slot?_eq_some_iff h).2 ht).symm.trans
        ((slot?_eq_some_iff h).2 hs)))
    rw [if_neg hne, Option.or_none, Slots.fill, if_neg hts]
    exact hfilled t key g ht hg

/-- Of a slot's key it can be said by the field of the slot whether an entry is refused. -/
theorem refused_iff (h : r.allKeys.Nodup) {s : Slot} {f : StoredField τ δ} {k : String} {e : E}
    (hs : s.keyIn? r = some k) (hf : r.fields[s.field]? = some f) :
    Refused m r entries (k, e) ↔ (f.counted? k entries).isSome ∨
      f.Counts entries k ∧ ∃ why, m.decode f.type e = .error why := by
  constructor
  · rintro ⟨g, hg, hmem, href⟩
    obtain ⟨t, ht, htg⟩ := exists_slot hg hmem
    obtain rfl : t = s := Option.some.inj (((slot?_eq_some_iff h).2 ht).symm.trans
      ((slot?_eq_some_iff h).2 hs))
    obtain rfl : f = g := Option.some.inj (hf.symm.trans htg)
    exact href
  · intro href
    obtain ⟨g, hg, hmem, -, -⟩ := field_of_keyIn? hs
    obtain rfl : f = g := Option.some.inj (hf.symm.trans hg)
    exact ⟨f, List.mem_of_getElem? hf, hmem, href⟩

/-- What is not decoded is passed over. -/
theorem readEntry_of_unknown {k : String} {e : E} (hskip : m.skip e = .ok ())
    (hslot : r.slot? k = none) : readEntry m r filled k e = .ok filled := by
  simp [readEntry, hslot, hskip, Except.mapError, Except.map]

/-- An alias that comes behind the key of its field is skipped. -/
theorem readEntry_of_late {k : String} {e : E} {s : Slot} (hskip : m.skip e = .ok ())
    (hslot : r.slot? k = some s) (hempty : (filled s).isSome = false)
    (hlate : s.alias?.isSome ∧ (filled s.current).isSome) :
    readEntry m r filled k e = .ok filled := by
  simp [readEntry, hslot, hempty, hlate, hskip, Except.mapError, Except.map]

/-- What counts is decoded. -/
theorem readEntry_of_counts {k : String} {e : E} {s : Slot} {f : StoredField τ δ}
    (hslot : r.slot? k = some s) (hf : r.fields[s.field]? = some f)
    (hempty : (filled s).isSome = false)
    (hearly : ¬(s.alias?.isSome ∧ (filled s.current).isSome)) :
    readEntry m r filled k e = ((m.decode f.type e).mapError .value).map (filled.fill s) := by
  have hnot : (s.alias?.isSome && (filled s.current).isSome) = false := by
    simpa only [Bool.and_eq_false_iff, Bool.not_eq_true, not_and_or] using hearly
  simp [readEntry, hslot, hempty, hnot, hf]

/-- An entry under a key whose slot is empty counts unless it is a late alias. -/
theorem counts_iff_not_late (h : r.allKeys.Nodup) (hfilled : Filled m r entries filled) {k : String}
    {s : Slot} {f : StoredField τ δ} (hs : s.keyIn? r = some k)
    (hf : r.fields[s.field]? = some f) :
    f.Counts entries k ↔ ¬(s.alias?.isSome ∧ (filled s.current).isSome) := by
  obtain ⟨g, hg, -, hown, halias⟩ := field_of_keyIn? hs
  obtain rfl : f = g := Option.some.inj (hf.symm.trans hg)
  rw [isSome_current_iff hfilled hf]
  constructor
  · rintro (heq | ⟨-, hearly⟩) ⟨hsome, hmem⟩
    · have hmem := List.mem_of_getElem? hf
      exact alias_notMem_keys h hmem (halias hsome) (heq ▸ List.mem_map_of_mem hmem)
    · exact hearly hmem
  · intro hnot
    cases ha : s.alias? with
    | none => exact Or.inl (hown ha)
    | some a =>
      have hsome : s.alias?.isSome := by simp [ha]
      exact Or.inr ⟨halias hsome, fun hmem => hnot ⟨hsome, hmem⟩⟩

/-- **One entry.**  If it is refused, reading fails; otherwise the slots go on holding what
counts. -/
theorem readEntry_spec (h : r.allKeys.Nodup) (hfilled : Filled m r entries filled) (k : String)
    (e : E) (hskip : m.skip e = .ok ()) :
    (Refused m r entries (k, e) ∧ ∃ why, readEntry m r filled k e = .error why) ∨
      (¬ Refused m r entries (k, e) ∧
        ∃ next, readEntry m r filled k e = .ok next ∧ Filled m r (entries ++ [(k, e)]) next) := by
  cases hslot : r.slot? k with
  | none =>
    have hnoslot : ∀ s : Slot, s.keyIn? r ≠ some k := by
      intro s hs
      rw [(slot?_eq_some_iff h).2 hs] at hslot
      cases hslot
    refine Or.inr ⟨?_, filled, readEntry_of_unknown hskip hslot,
      hfilled.concat_of_not_counts fun s _ hs => absurd hs (hnoslot s)⟩
    rintro ⟨f, hf, hmem, -⟩
    obtain ⟨s, hs, -⟩ := exists_slot hf hmem
    exact hnoslot s hs
  | some s =>
    have hs := (slot?_eq_some_iff h).1 hslot
    obtain ⟨f, hf, -, -, -⟩ := field_of_keyIn? hs
    have hheld : (filled s).isSome = (f.counted? k entries).isSome :=
      isSome_of_rel (hfilled s k f hs hf)
    have hcounts := counts_iff_not_late h hfilled hs hf
    rw [refused_iff h hs hf]
    by_cases hagain : (f.counted? k entries).isSome
    · exact Or.inl ⟨Or.inl hagain, .duplicate k, by simp [readEntry, hslot, hheld, hagain]⟩
    have hfirst := Option.not_isSome_iff_eq_none.1 hagain
    have hempty : (filled s).isSome = false := by rw [hheld, hfirst]; rfl
    by_cases hlate : s.alias?.isSome ∧ (filled s.current).isSome
    · have hnot : ¬ f.Counts entries k := fun hc => hcounts.1 hc hlate
      refine Or.inr ⟨fun href => href.elim hagain fun hc => hnot hc.1, filled,
        readEntry_of_late hskip hslot hempty hlate,
        hfilled.concat_of_not_counts fun t g ht hg => ?_⟩
      obtain rfl : t = s := Option.some.inj (((slot?_eq_some_iff h).2 ht).symm.trans hslot)
      obtain rfl : f = g := Option.some.inj (hf.symm.trans hg)
      exact hnot
    · have hc := hcounts.2 hlate
      rw [readEntry_of_counts hslot hf hempty hlate]
      cases hv : m.decode f.type e with
      | error why => exact Or.inl ⟨Or.inr ⟨hc, why, rfl⟩, .value why, rfl⟩
      | ok v =>
        refine Or.inr ⟨?_, filled.fill s v, rfl, hfilled.concat_fill h hs hf hfirst hc hv⟩
        rintro (hagain' | ⟨-, why, hwhy⟩)
        · exact hagain hagain'
        · cases hwhy

/-- **All entries.**  Reading fails if some entry is refused behind those before it; otherwise the
slots hold what counts. -/
theorem readEntries_spec (h : r.allKeys.Nodup) (hskip : ∀ p ∈ entries, m.skip p.2 = .ok ()) :
    (ExistsAt (Refused m r) entries ∧ ∃ why, readEntries m r entries = .error why) ∨
      (¬ ExistsAt (Refused m r) entries ∧
        ∃ filled, readEntries m r entries = .ok filled ∧ Filled m r entries filled) := by
  induction entries using List.reverseRecOn with
  | nil => exact Or.inr ⟨not_existsAt_nil, Slots.empty, rfl, filled_empty⟩
  | append_singleton entries p ih =>
    obtain ⟨k, e⟩ := p
    have hrun : readEntries m r (entries ++ [(k, e)]) =
        (readEntries m r entries).bind fun filled => readEntry m r filled k e := by
      rw [readEntries, List.foldlM_append]
      exact congrArg _ (funext fun filled => bind_pure _)
    rw [existsAt_concat, hrun]
    rcases ih fun p hp => hskip p (List.mem_append_left _ hp) with
      ⟨hbad, why, hwhy⟩ | ⟨hgood, filled, hread, hfilled⟩
    · exact Or.inl ⟨Or.inl hbad, why, by rw [hwhy]; rfl⟩
    · have hlast := hskip (k, e) (List.mem_append_right _ List.mem_cons_self)
      rw [hread]
      rcases readEntry_spec h hfilled k e hlast with ⟨hbad, hwhy⟩ | ⟨hok, next⟩
      · exact Or.inl ⟨Or.inr hbad, hwhy⟩
      · exact Or.inr ⟨fun hbad => hbad.elim hgood hok, next⟩

end RecordShape
end Boilerplate
