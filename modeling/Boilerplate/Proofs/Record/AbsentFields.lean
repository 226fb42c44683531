/-
# Fields that are absent

`constructor` and `decode` of `src/persist`; `SPEC_FULL.md` §4.4, items 2 and 4.

A new record is made from values of its required fields.  What the other fields start with is chosen
once more where a record is read from entries, and again where it is read from elements.  Entries
for the required fields alone are read as the new record (`readMap_of_given`), and so are as many of
its own values as it takes to come past the last required field (`readElements_of_prefix`).
-/

import Boilerplate.Proofs.Record.Current
import Boilerplate.Proofs.Record.Sequence

namespace Boilerplate

variable {τ δ E V ε : Type}

open RecordShape in
/-- Whether a value is what stands in for the field or, where nothing does, what it is decoded as
from an entry under its key. -/
def StoredField.IsGiven (m : Meaning τ δ E V ε) (entries : List (String × E)) (f : StoredField τ δ)
    (v : V) : Prop :=
  absentValue? m f = some v ∨
    f.isRequired = true ∧ ∃ e, (f.key, e) ∈ entries ∧ m.decode f.type e = .ok v

namespace RecordShape

variable {m : Meaning τ δ E V ε} {r : RecordShape τ δ} {fs : List (StoredField τ δ)}
  {args : List (E × V)} {entries : List (String × E)} {stored : List V}

/-! ### A new record -/

/-- Something stands in for a field that is not required. -/
theorem exists_absentValue?_of_not_isRequired {f : StoredField τ δ} (h : ¬ f.isRequired = true) :
    ∃ v, absentValue? m f = some v :=
  Option.ne_none_iff_exists'.1 (mt absentValue?_eq_none_iff.1 h)

/-- **A new record** is made from values of the required fields, and holds them where they are
given. -/
theorem exists_constructFields?
    (h : List.Forall₂ (fun f p => m.decode f.type p.1 = .ok p.2) (fs.filter (·.isRequired)) args) :
    ∃ stored, constructFields? m fs (args.map (·.2)) = some stored ∧
      List.Forall₂ (StoredField.IsGiven m
        (((fs.filter (·.isRequired)).map (·.key)).zip (args.map (·.1)))) fs stored := by
  induction fs generalizing args with
  | nil =>
    obtain rfl := List.forall₂_nil_left_iff.1 h
    exact ⟨[], rfl, .nil⟩
  | cons f fs ih =>
    by_cases hrequired : f.isRequired = true
    · rw [List.filter_cons_of_pos hrequired] at h ⊢
      obtain ⟨⟨e, v⟩, rest, hdecode, hrest, rfl⟩ := List.forall₂_cons_left_iff.1 h
      obtain ⟨stored, hstored, hgiven⟩ := ih hrest
      refine ⟨v :: stored, ?_,
        .cons (Or.inr ⟨hrequired, e, List.mem_cons_self, hdecode⟩) (hgiven.imp ?_)⟩
      · have hnone : absentValue? m f = none := absentValue?_eq_none_iff.2 hrequired
        simp only [List.map_cons, constructFields?, hnone, hstored, Option.map_some]
      -- What is given to the others does not change with one more argument.
      · rintro g w (habsent | ⟨hg, e', hmem, hw⟩)
        · exact Or.inl habsent
        · exact Or.inr ⟨hg, e', List.mem_cons_of_mem _ hmem, hw⟩
    · rw [List.filter_cons_of_neg hrequired] at h ⊢
      obtain ⟨v, hv⟩ := exists_absentValue?_of_not_isRequired (m := m) hrequired
      obtain ⟨stored, hstored, hgiven⟩ := ih h
      refine ⟨v :: stored, ?_, .cons (Or.inl hv) hgiven⟩
      simp only [constructFields?, hv, hstored, Option.map_some]

/-! ### Entries for the required fields -/

/-- **Entries for the required fields** are read as what is given. -/
theorem readMap_of_given (h : r.allKeys.Nodup)
    (hkeys : (entryKeys entries).Perm (r.required.map (·.key)))
    (hgiven : List.Forall₂ (StoredField.IsGiven m entries) r.fields stored) :
    readMap m r entries = .ok ⟨stored, r.transientValues m⟩ := by
  have apart : r.keys.Nodup := (List.nodup_append.1 h).1
  have hsublist : (r.required.map (·.key)).Sublist r.keys := List.filter_sublist.map _
  have once : (entryKeys entries).Nodup := hkeys.nodup_iff.2 (hsublist.nodup apart)
  have current : ∀ key ∈ entryKeys entries, key ∈ r.keys :=
    fun key hkey => hsublist.subset (hkeys.mem_iff.1 hkey)
  -- No other field has the key of a required one.
  have hrequired : ∀ f ∈ r.fields, f.key ∈ entryKeys entries → f.isRequired = true := by
    intro f hf hkey
    obtain ⟨g, hg, heq⟩ := List.mem_map.1 (hkeys.mem_iff.1 hkey)
    obtain ⟨hmem, hg⟩ := List.mem_filter.1 hg
    exact List.inj_on_of_nodup_map apart hmem hf heq ▸ hg
  refine (readMap_eq_ok_iff_of_current h current once).2 ⟨?_, forall₂_startsAs_iff.2 rfl⟩
  refine ((List.forall₂_and_left _ _).2 ⟨fun _ hf => hf, hgiven⟩).imp ?_
  rintro f v ⟨hf, habsent | ⟨-, e, hmem, hdecode⟩⟩
  · have hnone : f.key ∉ entryKeys entries := by
      intro hkey
      rw [absentValue?_eq_none_iff.2 (hrequired f hf hkey)] at habsent
      cases habsent
    rw [StoredField.Takes, source?_of_current h current hf, lookup_eq_none_iff_notMem.2 hnone]
    exact absentValue?_eq_some_iff.1 habsent
  · rw [StoredField.Takes, source?_of_current h current hf, lookup_eq_some_of_mem once hmem]
    exact hdecode

/-! ### Elements for the first fields -/

/-- **Elements for the first fields**, the required ones among them, are read as what is given. -/
theorem readElements_of_prefix {elements : List E} {n i : Nat}
    (hgiven : List.Forall₂ (StoredField.IsGiven m entries) fs stored)
    (hrequired : ∀ (k : Nat) f, fs[k]? = some f → f.isRequired = true → k < n)
    (helements : List.Forall₂ (fun p e => m.decode p.1.type e = .ok p.2)
      ((fs.zip stored).take n) elements) :
    readElements m i fs elements = .ok (stored, []) := by
  induction hgiven generalizing n i elements with
  | nil =>
    obtain rfl : elements = [] := by simpa using helements
    rfl
  | @cons f v fs stored hv _ ih =>
    cases n with
    -- Behind the elements no field is required.
    | zero =>
      obtain rfl : elements = [] := by simpa using helements
      have habsent : absentValue? m f = some v :=
        hv.resolve_right fun hf => Nat.not_lt_zero 0 (hrequired 0 f rfl hf.1)
      have hrest : readElements m (i + 1) fs ([] : List E) = .ok (stored, []) := ih (n := 0)
        (fun k g hg hreq => absurd (hrequired (k + 1) g hg hreq) (Nat.not_lt_zero _)) (by simp)
      simp only [readElements, habsent, hrest]
      rfl
    | succ n =>
      rw [List.zip_cons_cons, List.take_succ_cons] at helements
      obtain ⟨e, rest, hdecode, hrest, rfl⟩ := List.forall₂_cons_left_iff.1 helements
      have hrest := ih (i := i + 1)
        (fun k g hg hreq => Nat.lt_of_succ_lt_succ (hrequired (k + 1) g hg hreq)) hrest
      rw [readElements, show m.decode f.type e = .ok v from hdecode, hrest]
      rfl

end RecordShape

/-! ### Declared records -/

namespace RecordDeclaration

open RecordShape

/-- **Absent fields are filled alike**, in a new record and in one that is read.  For any values of
the required fields a new record is made.  Entries that have these values under the keys of the
required fields, in any order, are read as the same record; and so are elements that have its first
values, if they reach past the last required field. -/
theorem construct?_eq_read {args : Tokens} {item : Item} {d : RecordDeclaration}
    (accepted : ofItem args item = .ok d) (apart : d.keys.Nodup) (m : Meaning TypeExpr Expr E V ε)
    {values : List (E × V)}
    (decoded : List.Forall₂ (fun f p => m.decode f.type p.1 = .ok p.2) d.required values) :
    ∃ x, d.construct? m (values.map (·.2)) = some x ∧
      (∀ entries : List (String × E),
        entries.Perm ((d.required.map (·.key)).zip (values.map (·.1))) →
          d.readMap m entries = .ok x) ∧
      ∀ (n : Nat) (elements : List E),
        (∀ (i : Nat) f, d.fields[i]? = some f → f.isRequired = true → i < n) →
        List.Forall₂ (fun p e => m.decode p.1.type e = .ok p.2)
          ((d.fields.zip x.stored).take n) elements →
        d.readSequence m elements = .ok (x, []) := by
  obtain ⟨stored, hstored, hgiven⟩ := exists_constructFields? decoded
  have hlength : (d.required.map (·.key)).length = (values.map (·.1)).length := by
    rw [List.length_map, List.length_map, decoded.length_eq]
  refine ⟨⟨stored, d.transientValues m⟩, ?_, fun entries horder => ?_,
    fun n elements hrequired helements => ?_⟩
  · rw [construct?, hstored, Option.map_some]
  · have hkeys : (entryKeys entries).Perm (d.required.map (·.key)) := by
      rw [← List.map_fst_zip (Nat.le_of_eq hlength)]
      exact horder.map Prod.fst
    refine readMap_of_given (allKeys_nodup_of_ofItem accepted apart) hkeys (hgiven.imp ?_)
    rintro f v (habsent | ⟨hf, e, hmem, hdecode⟩)
    · exact Or.inl habsent
    · exact Or.inr ⟨hf, e, horder.mem_iff.2 hmem, hdecode⟩
  · rw [readSequence, readElements_of_prefix hgiven hrequired helements]
    rfl

/-- A struct with a required field, one with a default, an optional one and a skipped one. -/
def partlyRequired : StructItem :=
  withOption (structOf [({ name := "a" }, []), ({ name := "b" }, code "default = 1"),
    ({ name := "c" }, []), ({ name := "d" }, named "skip")]) 2

/-- From one value, the other fields of `partlyRequired` are filled alike. -/
theorem construct?_eq_read_of_one : ∃ d x, ofItem [] (.struct partlyRequired) = .ok d ∧
    x = ⟨["x", "1", "None"], ["d"]⟩ ∧ d.construct? standInTexts ["x"] = some x ∧
    d.readMap standInTexts [("a", some "x")] = .ok x ∧
    d.readSequence standInTexts [some "x"] = .ok (x, []) := by
  have hfacts : (ofItem [] (.struct partlyRequired)).toOption.map (fun d =>
      (d.keys, d.fields.map (·.isRequired), d.construct? standInTexts ["x"])) =
      some (["a", "b", "c"], [true, false, false], some ⟨["x", "1", "None"], ["d"]⟩) := by
    decide +kernel
  cases accepted : ofItem [] (.struct partlyRequired) with
  | error ds =>
    rw [accepted] at hfacts
    cases hfacts
  | ok d =>
    rw [accepted] at hfacts
    obtain ⟨hkeys, hfacts⟩ := Prod.mk.inj (Option.some.inj hfacts)
    obtain ⟨hrequired, hconstruct⟩ := Prod.mk.inj hfacts
    obtain ⟨f, g, h, hfields, hf, hg, hh⟩ : ∃ f g h, d.fields = [f, g, h] ∧
        f.isRequired = true ∧ g.isRequired = false ∧ h.isRequired = false := by
      simpa [List.map_eq_cons_iff] using hrequired
    have hkey : f.key = "a" := by
      rw [RecordShape.keys, hfields] at hkeys
      exact (List.cons.inj hkeys).1
    have hgiven : d.required = [f] := by simp [required, hfields, hf, hg, hh]
    have decoded : List.Forall₂ (fun f p => standInTexts.decode f.type p.1 = .ok p.2) d.required
        [(some "x", "x")] := hgiven ▸ .cons rfl .nil
    obtain ⟨x, hx, hmap, hsequence⟩ :=
      construct?_eq_read accepted (by rw [hkeys]; decide) standInTexts decoded
    obtain rfl : x = ⟨["x", "1", "None"], ["d"]⟩ := Option.some.inj (hx.symm.trans hconstruct)
    refine ⟨d, _, rfl, rfl, hx, hmap _ ?_, hsequence 1 _ ?_ ?_⟩
    · rw [hgiven, List.map_singleton, hkey]
      exact .refl _
    · rintro (_ | _ | _ | i) k hk hreq
      · exact Nat.zero_lt_one
      all_goals simp_all
    · rw [hfields]
      exact .cons rfl .nil

end RecordDeclaration
end Boilerplate
