/-
# The order of entries

`visit_map` of `src/persist`; `SPEC_FULL.md` §4.4, item 2.

Entries under keys that a record is not read under are passed over wherever they stand, so that only
the others matter (`RecordShape.recognised`).  Their order decides whether a record is read: an
alias behind the key of its field is not even decoded, while before that key it has to be a value.
It does not decide what is read.  A field is read from the entry under its key or the one under its
first alias, and in entries that can be read each of them stands once (`source?_eq_of_perm`).
Entries without repetitions that are all values can be read in any order or in none (`Orderly`,
`readMap_eq_of_perm`).
-/

import Boilerplate.Proofs.Record.Reference

namespace Boilerplate

variable {τ δ E V ε : Type}

/-! ### Entries in another order -/

/-- A key that stands once is looked up alike in any order of the entries. -/
theorem lookup_eq_of_perm {old new : List (String × E)} (h : old.Perm new) {key : String}
    (once : (entryKeys old).count key ≤ 1) : old.lookup key = new.lookup key := by
  induction h with
  | nil => rfl
  | cons p _ ih =>
    obtain ⟨k, e⟩ := p
    rw [entryKeys, List.map_cons, List.count_cons] at once
    rw [List.lookup_cons, List.lookup_cons, ih (by unfold entryKeys; omega)]
  | swap p q rest =>
    obtain ⟨k, e⟩ := p
    obtain ⟨k', e'⟩ := q
    simp only [List.lookup_cons]
    by_cases hk : key = k
    · by_cases hk' : key = k'
      · subst hk hk'
        simp [entryKeys] at once
      · simp [hk, beq_eq_false_iff_ne.2 (hk ▸ hk')]
    · simp [beq_eq_false_iff_ne.2 hk]
  | trans hab _ ihab ihbc =>
    rw [ihab once, ihbc ((hab.map (·.1)).count_eq key ▸ once)]

/-- Searches that find the same in every element find the same. -/
theorem findSome?_congr {α β : Type} {g k : α → Option β} {as : List α}
    (h : ∀ a ∈ as, g a = k a) : as.findSome? g = as.findSome? k := by
  induction as with
  | nil => rfl
  | cons a as ih =>
    rw [List.findSome?_cons, List.findSome?_cons, h a List.mem_cons_self,
      ih fun b hb => h b (List.mem_cons_of_mem a hb)]

/-- The meaning under which everything can be passed over. -/
def Meaning.lenient (m : Meaning τ δ E V ε) : Meaning τ δ E V ε :=
  { m with skip := fun _ => .ok () }

namespace RecordShape

/-- The entries under keys that the record is read under. -/
def recognised (r : RecordShape τ δ) (entries : List (String × E)) : List (String × E) :=
  entries.filter fun p => r.allKeys.contains p.1

variable {m : Meaning τ δ E V ε} {r : RecordShape τ δ} {entries old new : List (String × E)}
  {f : StoredField τ δ} {key : String}

/-- A record is read under the key of a field and under its aliases. -/
theorem mem_allKeys (hf : f ∈ r.fields) (hkey : key ∈ f.key :: f.aliases) : key ∈ r.allKeys := by
  rcases List.mem_cons.1 hkey with rfl | hkey
  · exact List.mem_append_left _ (List.mem_map_of_mem hf)
  · exact List.mem_append_right _ (List.mem_flatMap.2 ⟨f, hf, hkey⟩)

/-- The entries that are recognised are those under a key of the record. -/
theorem mem_recognised {p : String × E} :
    p ∈ r.recognised entries ↔ p ∈ entries ∧ p.1 ∈ r.allKeys := by
  simp [recognised]

/-- All entries under a key of the record are recognised. -/
theorem count_recognised (hkey : key ∈ r.allKeys) :
    (entryKeys (r.recognised entries)).count key = (entryKeys entries).count key := by
  have hkeys : entryKeys (r.recognised entries) =
      (entryKeys entries).filter (r.allKeys.contains ·) := by
    rw [entryKeys, entryKeys, List.filter_map]
    rfl
  rw [hkeys, List.count_filter (by simpa using hkey)]

/-- What is found under a key of the record is recognised. -/
theorem lookup_recognised (hkey : key ∈ r.allKeys) :
    (r.recognised entries).lookup key = entries.lookup key := by
  induction entries with
  | nil => rfl
  | cons p rest ih =>
    obtain ⟨k, e⟩ := p
    rw [recognised, List.filter_cons, List.lookup_cons, ← ih, recognised]
    by_cases hk : key = k
    · subst hk
      simp [hkey]
    · split
      · rw [List.lookup_cons]
      · rw [beq_eq_false_iff_ne.2 hk]

section Permuted

variable (same : (r.recognised old).Perm (r.recognised new))
include same

/-- In another order, a key of the record stands as often. -/
theorem count_eq_of_perm (hkey : key ∈ r.allKeys) :
    (entryKeys old).count key = (entryKeys new).count key := by
  calc (entryKeys old).count key
      = (entryKeys (r.recognised old)).count key := (count_recognised hkey).symm
    _ = (entryKeys (r.recognised new)).count key := (same.map Prod.fst).count_eq key
    _ = (entryKeys new).count key := count_recognised hkey

/-- In another order, a key of the record stands there if it did before. -/
theorem mem_entryKeys_of_perm (hkey : key ∈ r.allKeys) :
    key ∈ entryKeys old ↔ key ∈ entryKeys new := by
  rw [← List.count_pos_iff, ← List.count_pos_iff, count_eq_of_perm same hkey]

/-- In another order, the same is found under a key that stands there once. -/
theorem lookup_eq_of_recognised_perm (hkey : key ∈ r.allKeys)
    (once : (entryKeys old).count key ≤ 1) : old.lookup key = new.lookup key := by
  calc old.lookup key
      = (r.recognised old).lookup key := (lookup_recognised hkey).symm
    _ = (r.recognised new).lookup key :=
      lookup_eq_of_perm same (Nat.le_trans (Nat.le_of_eq (count_recognised hkey)) once)
    _ = new.lookup key := lookup_recognised hkey

/-! ### What is read -/

/-- **A field is read from the same entry** in any order of entries that can be read: its key stands
once, and where it does not, each of its aliases stands once. -/
theorem source?_eq_of_perm (hf : f ∈ r.fields) (readable : ¬ Unreadable m r old) :
    f.source? old = f.source? new := by
  have hmem : ∀ key ∈ f.key :: f.aliases, key ∈ r.allKeys := fun _ => mem_allKeys hf
  have hown : old.lookup f.key = new.lookup f.key := by
    refine lookup_eq_of_recognised_perm same (hmem _ List.mem_cons_self) (Nat.not_lt.1 fun h => ?_)
    exact readable (.keyTwice f hf h)
  unfold StoredField.source?
  rw [List.findSome?_cons, List.findSome?_cons, ← hown]
  by_cases hkey : f.key ∈ entryKeys old
  · cases hlook : old.lookup f.key with
    | none => exact absurd hkey (lookup_eq_none_iff_notMem.1 hlook)
    | some e => rfl
  · rw [lookup_eq_none_iff_notMem.2 hkey]
    refine findSome?_congr fun key halias => ?_
    refine lookup_eq_of_recognised_perm same (hmem _ (List.mem_cons_of_mem _ halias))
      (Nat.not_lt.1 fun htwice => ?_)
    obtain ⟨upTo, ⟨_, again⟩, behind, rfl, rfl, hfirst⟩ := two_le_count_iff.1 htwice
    obtain ⟨⟨_, e⟩, hentry, rfl⟩ := List.mem_map.1 hfirst
    obtain ⟨before, between, rfl⟩ := List.append_of_mem hentry
    exact readable (.aliasAgain f hf _ halias before between behind e again (by simp)
      fun h => hkey (by simp_all [entryKeys]))

/-- Records that are read from the same entries in two orders are equal. -/
theorem eq_of_reads {x y : RecordValue V} (readable : ¬ Unreadable m r old)
    (hx : Reads m r old x) (hy : Reads m r new y) : x = y := by
  have hunique : Relator.RightUnique fun (f : StoredField τ δ) v => f.Takes m old v := by
    intro f v w hv hw
    unfold StoredField.Takes at hv hw
    cases hsource : f.source? old with
    | none =>
      rw [hsource] at hv hw
      exact Option.some.inj
        ((absentValue?_eq_some_iff.2 hv).symm.trans (absentValue?_eq_some_iff.2 hw))
    | some e =>
      rw [hsource] at hv hw
      exact Except.ok.inj (hv.symm.trans hw)
  have htakes : ∀ f ∈ r.fields, ∀ v, f.Takes m new v ↔ f.Takes m old v := by
    intro f hf v
    rw [StoredField.Takes, StoredField.Takes, source?_eq_of_perm same hf readable]
  have hstored := List.right_unique_forall₂' hunique hx.stored
    ((forall₂_congr_of_mem htakes).1 hy.stored)
  obtain ⟨stored, transient⟩ := x
  obtain ⟨stored', transient'⟩ := y
  obtain rfl : stored = stored' := hstored
  obtain rfl := forall₂_startsAs_iff.1 hx.transient
  obtain rfl := forall₂_startsAs_iff.1 hy.transient
  rfl

end Permuted

/-! ### Whether anything is read -/

/-- Entries without repetitions that are all values, as far as they are recognised. -/
structure Orderly (m : Meaning τ δ E V ε) (r : RecordShape τ δ) (entries : List (String × E)) :
    Prop where
  once : ∀ key ∈ r.allKeys, (entryKeys entries).count key ≤ 1
  values : ∀ f ∈ r.fields, ∀ p ∈ entries, p.1 ∈ f.key :: f.aliases →
    ∃ v, m.decode f.type p.2 = .ok v

/-- Entries stay orderly in another order. -/
theorem Orderly.of_perm (h : Orderly m r old) (same : (r.recognised old).Perm (r.recognised new)) :
    Orderly m r new where
  once key hkey := count_eq_of_perm same hkey ▸ h.once key hkey
  values f hf p hp hkey := by
    have hmem := same.mem_iff.2 (mem_recognised.2 ⟨hp, mem_allKeys hf hkey⟩)
    exact h.values f hf p (mem_recognised.1 hmem).1 hkey

/-- Nothing can be wrong with orderly entries but that a required field is nowhere. -/
theorem Orderly.unreadable_iff (h : Orderly m r entries) :
    Unreadable m r entries ↔ ∃ f ∈ r.fields, f.isRequired = true ∧
      ∀ key ∈ f.key :: f.aliases, key ∉ entryKeys entries := by
  constructor
  · intro hunreadable
    cases hunreadable with
    | keyTwice f hf twice =>
      exact absurd (h.once _ (mem_allKeys hf List.mem_cons_self)) (Nat.not_le.2 twice)
    | aliasAgain f hf key isAlias before between behind e again stands early =>
      have hkey := h.once key (mem_allKeys hf (List.mem_cons_of_mem _ isAlias))
      rw [stands] at hkey
      simp only [entryKeys, List.map_append, List.map_cons, List.count_append,
        List.count_cons_self] at hkey
      omega
    | undecodable f hf key before behind e stands counts why refused =>
      have hkey : key ∈ f.key :: f.aliases := List.mem_cons.2 (counts.imp_right And.left)
      obtain ⟨v, hv⟩ := h.values f hf (key, e) (by simp [stands]) hkey
      rw [hv] at refused
      cases refused
    | absent f hf required nowhere => exact ⟨f, hf, required, nowhere⟩
  · rintro ⟨f, hf, required, nowhere⟩
    exact .absent f hf required nowhere

/-- Orderly entries can be read in any order or in none. -/
theorem Orderly.unreadable_of_perm (h : Orderly m r old)
    (same : (r.recognised old).Perm (r.recognised new)) :
    Unreadable m r old ↔ Unreadable m r new := by
  rw [h.unreadable_iff, (h.of_perm same).unreadable_iff]
  refine exists_congr fun f => and_congr_right fun hf => and_congr_right fun _ => ?_
  exact forall₂_congr fun key hkey => not_congr (mem_entryKeys_of_perm same (mem_allKeys hf hkey))

/-! ### Entries that are passed over -/

/-- What can be read can also be read if more can be skipped. -/
theorem readEntry_lenient {filled next : Slots V} {key : String} {e : E}
    (h : readEntry m r filled key e = .ok next) :
    readEntry m.lenient r filled key e = .ok next := by
  have hskipped : ∀ {x : Except ε Unit},
      (x.mapError ReadFailure.value).map (fun _ => filled) = .ok next → filled = next := by
    rintro (why | _) hx
    · cases hx
    · exact Except.ok.inj hx
  unfold readEntry at h ⊢
  cases hslot : r.slot? key with
  | none =>
    rw [hslot] at h
    exact congrArg Except.ok (hskipped h)
  | some s =>
    rw [hslot] at h
    dsimp only at h ⊢
    split at h
    · cases h
    · rename_i hempty
      rw [if_neg hempty]
      split at h
      · rename_i hlate
        rw [if_pos hlate]
        exact congrArg Except.ok (hskipped h)
      · rename_i hearly
        rw [if_neg hearly]
        exact h

/-- **What is read** stays the same if more can be passed over. -/
theorem readMap_lenient {x : RecordValue V} (h : readMap m r entries = .ok x) :
    readMap m.lenient r entries = .ok x := by
  obtain ⟨filled, hread, hfinish⟩ := bind_eq_ok_iff.1 h
  have hlenient : readEntries m.lenient r entries = .ok filled :=
    foldlM_eq_ok_of_steps (fun _ _ _ hstep => readEntry_lenient hstep) hread
  exact bind_eq_ok_iff.2 ⟨filled, hlenient, hfinish⟩

/-- Records that are read from the same entries in two orders are equal, whatever is passed over. -/
theorem eq_of_readMap (h : r.allKeys.Nodup) (same : (r.recognised old).Perm (r.recognised new))
    {x y : RecordValue V} (hx : readMap m r old = .ok x) (hy : readMap m r new = .ok y) :
    x = y := by
  obtain ⟨readable, hold⟩ := (readMap_eq_ok_iff h fun _ _ => rfl).1 (readMap_lenient hx)
  obtain ⟨-, hnew⟩ := (readMap_eq_ok_iff h fun _ _ => rfl).1 (readMap_lenient hy)
  exact eq_of_reads same readable hold hnew

end RecordShape

/-! ### Declared records -/

namespace RecordDeclaration

open RecordShape

/-- **The order of entries does not matter** to what is read from them, and neither do entries that
are not recognised.  It matters to whether anything is read, but not for entries without repetitions
that are all values of their fields' types, as long as what is not decoded can be passed over. -/
theorem readMap_eq_of_perm {args : Tokens} {item : Item} {d : RecordDeclaration}
    (accepted : ofItem args item = .ok d) (apart : d.keys.Nodup) (m : Meaning TypeExpr Expr E V ε)
    {old new : List (String × E)}
    (same : (d.recognised old).Perm (d.recognised new)) :
    (∀ x y, d.readMap m old = .ok x → d.readMap m new = .ok y → x = y) ∧
      ((∀ e, m.skip e = .ok ()) → Orderly m d.toRecordShape old →
        ((∃ x, d.readMap m old = .ok x) ↔ ∃ y, d.readMap m new = .ok y)) := by
  have hkeys := allKeys_nodup_of_ofItem accepted apart
  refine ⟨fun x y hx hy => eq_of_readMap hkeys same hx hy, fun skips orderly => ?_⟩
  rw [exists_eq_ok_iff, exists_eq_ok_iff, exists_readMap_eq_error_iff hkeys fun _ _ => skips _,
    exists_readMap_eq_error_iff hkeys fun _ _ => skips _, orderly.unreadable_of_perm same]

/-- The key before the alias, and behind the alias and an entry that is not recognised: both are
read as the same record. -/
theorem readMap_relabelled_swapped : ∃ d x, ofItem [] relabelled = .ok d ∧
    d.readMap texts [("name", some "new"), ("label", some "old")] = .ok x ∧
    d.readMap texts [("extra", none), ("label", some "old"), ("name", some "new")] = .ok x := by
  obtain ⟨d, accepted, hkeys, halias, hread⟩ : ∃ d, ofItem [] relabelled = .ok d ∧
      d.keys = ["name"] ∧ d.allKeys = ["name", "label"] ∧
      d.readMap texts [("name", some "new"), ("label", some "old")] = .ok ⟨["new"], []⟩ :=
    ⟨_, rfl, rfl, rfl, rfl⟩
  have horderly : Orderly texts d.toRecordShape [("name", some "new"), ("label", some "old")] := by
    refine ⟨fun key _ => List.nodup_iff_count_le_one.1 (by decide) key, fun f _ p hp _ => ?_⟩
    rcases List.mem_cons.1 hp with rfl | hp
    · exact ⟨"new", rfl⟩
    · obtain rfl := List.mem_singleton.1 hp
      exact ⟨"old", rfl⟩
  have same : (d.recognised [("name", some "new"), ("label", some "old")]).Perm
      (d.recognised [("extra", none), ("label", some "old"), ("name", some "new")]) := by
    simpa [recognised, halias] using .swap ..
  obtain ⟨hequal, hboth⟩ := readMap_eq_of_perm accepted (by simp [hkeys]) texts same
  obtain ⟨y, hy⟩ := (hboth (fun _ => rfl) horderly).1 ⟨_, hread⟩
  exact ⟨d, _, accepted, hread, hequal _ y hread hy ▸ hy⟩

/-- The order decides whether anything is read if an alias has no value of the field's type. -/
example : ∃ d why, ofItem [] relabelled = .ok d ∧
    d.readMap texts [("name", some "new"), ("label", none)] = .ok ⟨["new"], []⟩ ∧
    d.readMap texts [("label", none), ("name", some "new")] = .error why := ⟨_, _, rfl, rfl, rfl⟩

end RecordDeclaration
end Boilerplate
