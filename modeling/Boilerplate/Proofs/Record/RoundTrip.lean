/-
# Writing a record and reading it again

`encode` and `decode` of `src/persist`; `SPEC_FULL.md` §8 (`decode(encode(x)) == x`, legacy
migration).

Given how values are written (`Coding`), a record writes one entry for each of its fields, under the
key of the field (`exists_write_of_encode`, `entryKeys_of_write`).  From these entries the same
values are read (`readMap_of_write`).  Whatever a record was read from, it holds values of its types
(`isRecord_of_readMap`), so once it is written no alias is left, and reading it again changes
nothing.
-/

import Boilerplate.Proofs.Record.Current

namespace Boilerplate

variable {τ δ E V ε ω : Type}

/-- How values are written such that they can be read, with the values that each type has. -/
structure Coding (m : Meaning τ δ E V ε) (ω : Type) where
  ofType : τ → V → Prop
  encode : V → Except ω E
  decode_encode : ∀ {t v e}, ofType t v → encode v = .ok e → m.decode t e = .ok v
  ofType_decode : ∀ {t v e}, m.decode t e = .ok v → ofType t v

namespace Coding

open RecordShape

variable {m : Meaning τ δ E V ε} (c : Coding m ω)

/-- An entry with its value written. -/
def writeEntry (p : String × V) : Except ω (String × E) := (c.encode p.2).map (p.1, ·)

/-- The entries that a record is written as, with their values written. -/
def write (r : RecordShape τ δ) (x : RecordValue V) : Except ω (List (String × E)) :=
  (r.written x).mapM c.writeEntry

/-- Whether there is a value of its type for each field. -/
def IsRecord (r : RecordShape τ δ) (x : RecordValue V) : Prop :=
  List.Forall₂ (fun f v => c.ofType f.type v) r.fields x.stored

/-- Whether what stands in for an absent field is of the field's type. -/
def HasDefaults (r : RecordShape τ δ) : Prop :=
  ∀ f ∈ r.fields, ∀ v, f.StandsIn m v → c.ofType f.type v

variable {c} {r : RecordShape τ δ} {x : RecordValue V} {entries : List (String × E)}

/-- An entry is written if its value is, under its key. -/
theorem writeEntry_eq_ok_iff {p : String × V} {q : String × E} :
    c.writeEntry p = .ok q ↔ q.1 = p.1 ∧ c.encode p.2 = .ok q.2 := by
  obtain ⟨k, e⟩ := q
  unfold writeEntry
  cases c.encode p.2 <;> simp [Except.map, eq_comm]

/-- A record can be written if all its values can. -/
theorem exists_write_of_encode (h : ∀ v ∈ x.stored, ∃ e, c.encode v = .ok e) :
    ∃ entries, c.write r x = .ok entries := by
  rw [exists_eq_ok_iff, write, exists_mapM_eq_error_iff]
  rintro ⟨⟨k, v⟩, hmem, why, hwhy⟩
  obtain ⟨e, he⟩ := h v (List.of_mem_zip hmem).2
  rw [writeEntry, he] at hwhy
  cases hwhy

/-- For each field its value is written under its key. -/
theorem forall₂_of_mapM {fields : List (StoredField τ δ)} {stored : List V}
    (hx : List.Forall₂ (fun f v => c.ofType f.type v) fields stored)
    (hwrite : ((fields.map (·.key)).zip stored).mapM c.writeEntry = .ok entries) :
    entryKeys entries = fields.map (·.key) ∧
      List.Forall₂ (fun f v => ∃ e, (f.key, e) ∈ entries ∧ m.decode f.type e = .ok v)
        fields stored := by
  rw [mapM_eq_ok_iff] at hwrite
  induction hx generalizing entries with
  | nil =>
    obtain rfl := List.forall₂_nil_left_iff.1 hwrite
    exact ⟨rfl, .nil⟩
  | @cons f v fields stored hv _ ih =>
    rw [List.map_cons, List.zip_cons_cons, List.forall₂_cons_left_iff] at hwrite
    obtain ⟨⟨k, e⟩, rest, he, hrest, rfl⟩ := hwrite
    obtain ⟨rfl, he⟩ := writeEntry_eq_ok_iff.1 he
    obtain ⟨hkeys, hvalues⟩ := ih hrest
    refine ⟨congrArg (f.key :: ·) hkeys, .cons ⟨e, List.mem_cons_self, c.decode_encode hv he⟩ ?_⟩
    exact hvalues.imp fun g w ⟨e', hmem, hdecode⟩ => ⟨e', List.mem_cons_of_mem _ hmem, hdecode⟩

/-- **What is written** are the keys of the fields, each once and in their order. -/
theorem entryKeys_of_write (hx : c.IsRecord r x) (hwrite : c.write r x = .ok entries) :
    entryKeys entries = r.keys :=
  (forall₂_of_mapM hx hwrite).1

/-- **Entries that have the keys of the fields**, each once, are read as the values under them. -/
theorem readMap_eq_ok_iff_of_keys (h : r.allKeys.Nodup) (hkeys : entryKeys entries = r.keys) :
    r.readMap m entries = .ok x ↔
      List.Forall₂ (fun f v => ∃ e, (f.key, e) ∈ entries ∧ m.decode f.type e = .ok v)
        r.fields x.stored ∧ x.transient = r.transientValues m := by
  have once : (entryKeys entries).Nodup := hkeys ▸ (List.nodup_append.1 h).1
  have current : ∀ key ∈ entryKeys entries, key ∈ r.keys := fun key hkey => hkeys ▸ hkey
  have htakes : ∀ f ∈ r.fields, ∀ v, f.Takes m entries v ↔
      ∃ e, (f.key, e) ∈ entries ∧ m.decode f.type e = .ok v := by
    intro f hf v
    obtain ⟨⟨_, e⟩, hmem, rfl⟩ : ∃ p ∈ entries, p.1 = f.key :=
      List.mem_map.1 (hkeys.symm ▸ List.mem_map_of_mem hf : f.key ∈ entryKeys entries)
    rw [StoredField.Takes, source?_of_current h current hf, lookup_eq_some_of_mem once hmem]
    refine ⟨fun hdecode => ⟨e, hmem, hdecode⟩, ?_⟩
    rintro ⟨e', hmem', hdecode⟩
    have hfound := lookup_eq_some_of_mem once hmem'
    rw [lookup_eq_some_of_mem once hmem] at hfound
    obtain rfl := Option.some.inj hfound
    exact hdecode
  rw [readMap_eq_ok_iff_of_current h current once, ← forall₂_congr_of_mem htakes]
  exact ⟨fun hreads => ⟨hreads.stored, forall₂_startsAs_iff.1 hreads.transient⟩,
    fun hboth => ⟨hboth.1, forall₂_startsAs_iff.2 hboth.2⟩⟩

/-- **What is written is read again**, but for the transient fields. -/
theorem readMap_of_write (h : r.allKeys.Nodup) (hx : c.IsRecord r x)
    (hwrite : c.write r x = .ok entries) :
    r.readMap m entries = .ok { x with transient := r.transientValues m } := by
  obtain ⟨hkeys, hvalues⟩ := forall₂_of_mapM hx hwrite
  exact (readMap_eq_ok_iff_of_keys h hkeys).2 ⟨hvalues, rfl⟩

/-- Whatever a record was read from, it holds values of its types. -/
theorem isRecord_of_readMap (h : r.allKeys.Nodup) (skips : ∀ e, m.skip e = .ok ())
    (defaults : c.HasDefaults r) (hread : r.readMap m entries = .ok x) : c.IsRecord r x := by
  obtain ⟨-, hreads⟩ := (readMap_eq_ok_iff h fun p _ => skips p.2).1 hread
  refine ((List.forall₂_and_left _ _).2 ⟨fun _ hf => hf, hreads.stored⟩).imp ?_
  rintro f v ⟨hf, htakes⟩
  rw [StoredField.Takes] at htakes
  split at htakes
  · exact c.ofType_decode htakes
  · exact defaults f hf v htakes

end Coding

/-! ### Declared records -/

namespace RecordDeclaration

open RecordShape

/-- **Round trip and migration.**  A record whose values can be written is read from what it is
written as, but for its transient fields, which start anew.  And once a record was read from any
entries, old ones included, what it is written as has the keys of its fields, each once and in their
order, and no alias, and is read as the same record again. -/
theorem readMap_write {args : Tokens} {item : Item} {d : RecordDeclaration}
    (accepted : ofItem args item = .ok d) (apart : d.keys.Nodup)
    {m : Meaning TypeExpr Expr E V ε} (c : Coding m ω) (defaults : c.HasDefaults d.toRecordShape)
    (skips : ∀ e, m.skip e = .ok ()) :
    (∀ x, c.IsRecord d.toRecordShape x → (∀ v ∈ x.stored, ∃ e, c.encode v = .ok e) →
      ∃ entries transient, c.write d.toRecordShape x = .ok entries ∧
        List.Forall₂ (fun t v => t.StartsAs m v) d.transient transient ∧
        d.readMap m entries = .ok { x with transient }) ∧
    (∀ old x, d.readMap m old = .ok x → (∀ v ∈ x.stored, ∃ e, c.encode v = .ok e) →
      ∃ entries, c.write d.toRecordShape x = .ok entries ∧ entryKeys entries = d.keys ∧
        (entryKeys entries).Nodup ∧ (∀ f ∈ d.fields, ∀ key ∈ f.aliases, key ∉ entryKeys entries) ∧
        d.readMap m entries = .ok x) := by
  have hkeys := allKeys_nodup_of_ofItem accepted apart
  refine ⟨fun x hx hencode => ?_, fun old x hread hencode => ?_⟩
  · obtain ⟨entries, hwrite⟩ := Coding.exists_write_of_encode (r := d.toRecordShape) hencode
    exact ⟨entries, _, hwrite, forall₂_startsAs_iff.2 rfl, Coding.readMap_of_write hkeys hx hwrite⟩
  · have hx := Coding.isRecord_of_readMap hkeys skips defaults hread
    obtain ⟨entries, hwrite⟩ := Coding.exists_write_of_encode (r := d.toRecordShape) hencode
    have hkeysOf := Coding.entryKeys_of_write hx hwrite
    have htransient := ((readMap_eq_ok_iff hkeys fun p _ => skips p.2).1 hread).2.transient
    refine ⟨entries, hwrite, hkeysOf, hkeysOf ▸ apart,
      fun f hf key hkey => hkeysOf ▸ alias_notMem_keys hkeys hf hkey, ?_⟩
    rw [Coding.readMap_of_write hkeys hx hwrite, ← forall₂_startsAs_iff.1 htransient]

/-- Texts are written as they are. -/
def textCoding : Coding standInTexts Unit where
  ofType _ _ := True
  encode s := .ok (some s)
  decode_encode := by rintro t v e - ⟨⟩; rfl
  ofType_decode _ := trivial

/-- Of a record that was changed, all fields are read again but the transient ones.  What was read
from an alias is stored under the key, together with what stands in for absent fields. -/
theorem write_everyKind : ∃ d, ofItem [] (.struct everyKind) = .ok d ∧
    (textCoding.write d.toRecordShape ⟨["new", "5", "6"], ["p", "q"]⟩ =
        .ok [("a", some "new"), ("b", some "5"), ("c", some "6")] ∧
      d.readMap standInTexts [("a", some "new"), ("b", some "5"), ("c", some "6")] =
        .ok ⟨["new", "5", "6"], ["d", "2"]⟩ ∧
      List.Forall₂ (fun t v => t.StartsAs standInTexts v) d.transient ["d", "2"]) ∧
    d.readMap standInTexts aliasEntries = .ok ⟨["old", "1", "None"], ["d", "2"]⟩ ∧
    textCoding.write d.toRecordShape ⟨["old", "1", "None"], ["d", "2"]⟩ =
      .ok [("a", some "old"), ("b", some "1"), ("c", some "None")] ∧
    d.readMap standInTexts [("a", some "old"), ("b", some "1"), ("c", some "None")] =
      .ok ⟨["old", "1", "None"], ["d", "2"]⟩ := by
  have hwrites : (ofItem [] (.struct everyKind)).toOption.map (fun d =>
      (d.keys, [textCoding.write d.toRecordShape ⟨["new", "5", "6"], ["p", "q"]⟩,
        textCoding.write d.toRecordShape ⟨["old", "1", "None"], ["d", "2"]⟩])) =
      some (["a", "b", "c"], [.ok [("a", some "new"), ("b", some "5"), ("c", some "6")],
        .ok [("a", some "old"), ("b", some "1"), ("c", some "None")]]) := by decide +kernel
  have hreads : (ofItem [] (.struct everyKind)).toOption.map (fun d =>
      [d.readMap standInTexts [("a", some "new"), ("b", some "5"), ("c", some "6")],
        d.readMap standInTexts aliasEntries]) =
      some [.ok ⟨["new", "5", "6"], ["d", "2"]⟩, .ok ⟨["old", "1", "None"], ["d", "2"]⟩] := by
    decide +kernel
  obtain ⟨d, accepted, hwrites⟩ := exists_eq_ok_of_toOption hwrites
  obtain ⟨hkeys, hwrites⟩ := Prod.mk.inj hwrites
  rw [accepted] at hreads
  have hreads := Option.some.inj hreads
  simp only [List.cons.injEq, and_true] at hwrites hreads
  obtain ⟨hchanged, hrewritten⟩ := hwrites
  obtain ⟨hanew, hold⟩ := hreads
  obtain ⟨hround, hmigrate⟩ := readMap_write accepted (by rw [hkeys]; decide) textCoding
    (fun _ _ _ _ => trivial) (fun _ => rfl)
  have hrecord : textCoding.IsRecord d.toRecordShape ⟨["new", "5", "6"], ["p", "q"]⟩ := by
    have hlength : d.fields.length = 3 := by
      have hcount := congrArg List.length hkeys
      rwa [RecordShape.keys, List.length_map] at hcount
    exact List.forall₂_iff_get.2 ⟨hlength, fun _ _ _ => trivial⟩
  obtain ⟨entries, transient, hentries, hstarts, hread⟩ := hround _ hrecord fun v _ => ⟨some v, rfl⟩
  obtain rfl := Except.ok.inj (hentries.symm.trans hchanged)
  obtain rfl : transient = ["d", "2"] :=
    congrArg RecordValue.transient (Except.ok.inj (hread.symm.trans hanew))
  obtain ⟨entries, hentries, -, -, -, hagain⟩ := hmigrate _ _ hold fun v _ => ⟨some v, rfl⟩
  obtain rfl := Except.ok.inj (hentries.symm.trans hrewritten)
  exact ⟨d, accepted, ⟨hchanged, hread, hstarts⟩, hold, hrewritten, hagain⟩

end RecordDeclaration
end Boilerplate
