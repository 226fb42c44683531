/-
# What reading a record from entries means

`visit_map` of `src/persist`; `SPEC_FULL.md` §4.4, item 2.

Once all entries are read, the first filled slot of a field holds the value of what the field is
read from (`rel_source?`), so a field is finished with the value that it takes, or not at all if it
is required and nowhere (`finishField_eq_ok_iff`, `exists_finishField_eq_error_iff`).

`readMap_eq_ok_iff` and `exists_readMap_eq_error_iff` then describe `readMap` by the entries alone,
and `reads_unless_unreadable` does so for every record that is declared.
-/

import Boilerplate.Proofs.Record.Declares
import Boilerplate.Proofs.Record.Entries

namespace Boilerplate

variable {τ δ E V ε : Type}

/-! ### Entries that are refused -/

/-- A key stands twice if some entry stands behind another one with its key. -/
theorem two_le_count_iff {entries : List (String × E)} {key : String} :
    2 ≤ (entryKeys entries).count key ↔
      ExistsAt (fun before p => p.1 = key ∧ key ∈ entryKeys before) entries := by
  induction entries using List.reverseRecOn with
  | nil => simp [entryKeys, not_existsAt_nil]
  | append_singleton entries p ih =>
    have hcount : (entryKeys (entries ++ [p])).count key =
        (entryKeys entries).count key + if p.1 = key then 1 else 0 := by
      simp [entryKeys, List.count_singleton]
    rw [existsAt_concat, ← ih, hcount, ← List.count_pos_iff]
    by_cases hkey : p.1 = key
    · simp only [hkey, if_true, true_and]
      omega
    · simp only [hkey, if_false, false_and, or_false, Nat.add_zero]

namespace RecordShape

variable {m : Meaning τ δ E V ε} {r : RecordShape τ δ} {entries : List (String × E)}
  {filled : Slots V}

/-- The field's own key has counted if it was there. -/
theorem counted?_key_isSome_iff {f : StoredField τ δ} :
    (f.counted? f.key entries).isSome ↔ f.key ∈ entryKeys entries := by
  rw [StoredField.counted?_key, ← not_iff_not, Option.not_isSome_iff_eq_none,
    lookup_eq_none_iff_notMem]

/-- An entry that is refused makes the record unreadable. -/
theorem unreadable_of_existsAt_refused (h : ExistsAt (Refused m r) entries) :
    Unreadable m r entries := by
  obtain ⟨before, ⟨key, again⟩, behind, rfl, f, hf, hmem, href⟩ := h
  rcases href with hcounted | ⟨hcounts, why, hwhy⟩
  · obtain ⟨first, ⟨key', e⟩, between, rfl, rfl, hcounts⟩ :=
      (StoredField.counted?_isSome_iff hmem).1 hcounted
    by_cases hown : key' = f.key
    · subst hown
      exact .keyTwice f hf (two_le_count_iff.2
        ⟨_, (f.key, again), behind, rfl, rfl, by simp [entryKeys]⟩)
    · have hearly := (hcounts.resolve_left hown).2
      exact .aliasAgain f hf key' ((List.mem_cons.1 hmem).resolve_left hown) first between behind
        e again (by simp) hearly
  · exact .undecodable f hf key before behind again rfl hcounts why hwhy

/-- What is wrong with the entries one by one is that one of them is refused. -/
theorem existsAt_refused_of_unreadable (h : Unreadable m r entries) :
    ExistsAt (Refused m r) entries ∨
      ∃ f ∈ r.fields, f.isRequired = true ∧ f.source? entries = none := by
  cases h with
  | keyTwice f hf twice =>
    obtain ⟨before, p, behind, rfl, hp, hmem⟩ := two_le_count_iff.1 twice
    exact Or.inl ⟨before, p, behind, rfl, f, hf, hp ▸ List.mem_cons_self,
      Or.inl (hp ▸ counted?_key_isSome_iff.2 hmem)⟩
  | aliasAgain f hf key isAlias before between behind e again stands early =>
    have hmem : key ∈ f.key :: f.aliases := List.mem_cons_of_mem _ isAlias
    refine Or.inl ⟨before ++ (key, e) :: between, (key, again), behind, by simp [stands],
      f, hf, hmem, Or.inl ((StoredField.counted?_isSome_iff hmem).2 ?_)⟩
    exact ⟨before, (key, e), between, rfl, rfl, Or.inr ⟨isAlias, early⟩⟩
  | undecodable f hf key before behind e stands counts why refused =>
    refine Or.inl ⟨before, (key, e), behind, stands, f, hf, ?_, Or.inr ⟨counts, why, refused⟩⟩
    exact List.mem_cons.2 (counts.imp_right And.left)
  | absent f hf required nowhere =>
    refine Or.inr ⟨f, hf, required, List.findSome?_eq_none_iff.2 fun key hkey => ?_⟩
    exact lookup_eq_none_iff_notMem.2 (nowhere key hkey)

/-! ### Fields that are not read -/

/-- **What stands in for a field** is filled in for it. -/
theorem absentValue?_eq_some_iff {f : StoredField τ δ} {v : V} :
    absentValue? m f = some v ↔ f.StandsIn m v := by
  unfold absentValue? StoredField.absent
  constructor
  · intro h
    cases hdefault : f.default? with
    | some d =>
      rw [hdefault] at h
      cases h
      exact .default d hdefault
    | none =>
      cases hoptional : f.isOptional with
      | true =>
        rw [hdefault, hoptional] at h
        cases h
        exact .empty hdefault hoptional
      | false =>
        rw [hdefault, hoptional] at h
        cases h
  · rintro (⟨d, declared⟩ | ⟨undeclared, optional⟩)
    · rw [declared]
    · rw [undeclared, optional]

/-- Nothing stands in for a required field. -/
theorem absentValue?_eq_none_iff {f : StoredField τ δ} :
    absentValue? m f = none ↔ f.isRequired = true := by
  unfold absentValue? StoredField.absent StoredField.isRequired
  cases f.default? <;> cases f.isOptional <;> simp

/-- **What the transient fields start with** is filled in for them, one by one. -/
theorem forall₂_startsAs_iff {vs : List V} :
    List.Forall₂ (fun t v => t.StartsAs m v) r.transient vs ↔ vs = r.transientValues m := by
  have hstarts : ∀ (t : TransientField δ) v,
      t.StartsAs m v ↔ (t.default?.map m.value).getD (m.initial t.name) = v := by
    intro t v
    constructor
    · rintro (⟨d, declared⟩ | undeclared)
      · rw [declared, Option.map_some, Option.getD_some]
      · rw [undeclared, Option.map_none, Option.getD_none]
    · rintro rfl
      cases hdefault : t.default? with
      | some d => exact .default d hdefault
      | none => exact .initial hdefault
  have hvalues : r.transientValues m =
      r.transient.map fun t => (t.default?.map m.value).getD (m.initial t.name) := by
    refine List.map_congr_left fun t _ => ?_
    cases t.default? <;> rfl
  simp only [hstarts]
  rw [hvalues, ← List.forall₂_map_left_iff (R := Eq), List.forall₂_eq_eq_eq, eq_comm]

/-! ### Finishing a field -/

/-- The first hits of two searches are related if all that they see is. -/
theorem rel_findSome? {α β γ ζ : Type} {R : γ → ζ → Prop} {g : α → Option γ} {k : β → Option ζ}
    {as : List α} {bs : List β} (h : List.Forall₂ (fun a b => Option.Rel R (g a) (k b)) as bs) :
    Option.Rel R (as.findSome? g) (bs.findSome? k) := by
  induction h with
  | nil => exact .none
  | cons hab _ ih =>
    rw [List.findSome?_cons, List.findSome?_cons]
    cases hga : g _ <;> cases hkb : k _ <;> rw [hga, hkb] at hab <;> cases hab
    · exact ih
    · exact .some ‹_›

/-- **The first filled slot of a field** holds the value of what the field is read from. -/
theorem rel_source? (hfilled : Filled m r entries filled) {f : StoredField τ δ} {i : Nat}
    (hf : r.fields[i]? = some f) :
    Option.Rel (fun e v => m.decode f.type e = .ok v) (f.source? entries)
      ((f.slots i).findSome? filled) := by
  have hown := hfilled { field := i } f.key f (by simp [Slot.keyIn?, hf]) hf
  rw [StoredField.counted?_key] at hown
  unfold StoredField.source? StoredField.slots
  rw [List.findSome?_cons, List.findSome?_cons]
  by_cases hkey : f.key ∈ entryKeys entries
  · cases hlook : entries.lookup f.key with
    | none => exact absurd hkey (lookup_eq_none_iff_notMem.1 hlook)
    | some e =>
      rw [hlook] at hown
      cases hslot : filled { field := i } with
      | none => rw [hslot] at hown; cases hown
      | some v => rw [hslot] at hown; exact hown
  · rw [lookup_eq_none_iff_notMem.2 hkey] at hown ⊢
    cases hslot : filled { field := i } with
    | some v => rw [hslot] at hown; cases hown
    | none =>
      refine rel_findSome? (List.forall₂_iff_get.2 ⟨by simp [StoredField.aliasSlots,
        StoredField.aliases], fun a ha hb => ?_⟩)
      have halias : f.aliases[a]? = some f.aliases[a] := List.getElem?_eq_getElem ha
      have hheld := hfilled { field := i, alias? := some a } f.aliases[a] f
        (by simp [Slot.keyIn?, hf, halias]) hf
      rw [StoredField.counted?_of_notMem hkey] at hheld
      simpa [StoredField.aliasSlots] using hheld

/-- A field is finished with the value that it takes. -/
theorem finishField_eq_ok_iff (hfilled : Filled m r entries filled) {f : StoredField τ δ} {i : Nat}
    (hf : r.fields[i]? = some f) {v : V} :
    finishField m filled f i = .ok v ↔ f.Takes m entries v := by
  have hrel := rel_source? hfilled hf
  unfold finishField StoredField.Takes
  cases hsource : f.source? entries with
  | none =>
    cases hslot : (f.slots i).findSome? filled with
    | none =>
      rw [← absentValue?_eq_some_iff]
      cases absentValue? m f <;> simp
    | some w => rw [hsource, hslot] at hrel; cases hrel
  | some e =>
    cases hslot : (f.slots i).findSome? filled with
    | none => rw [hsource, hslot] at hrel; cases hrel
    | some w =>
      rw [hsource, hslot] at hrel
      obtain ⟨hw⟩ := hrel
      simp [hw]

/-- A field cannot be finished if it is required and there is nothing to read it from. -/
theorem exists_finishField_eq_error_iff (hfilled : Filled m r entries filled)
    {f : StoredField τ δ} {i : Nat} (hf : r.fields[i]? = some f) :
    (∃ why, finishField m filled f i = .error why) ↔
      f.isRequired = true ∧ f.source? entries = none := by
  have hrel := rel_source? hfilled hf
  rw [← absentValue?_eq_none_iff (m := m)]
  unfold finishField
  cases hsource : f.source? entries with
  | none =>
    cases hslot : (f.slots i).findSome? filled with
    | none => cases absentValue? m f <;> simp
    | some w => rw [hsource, hslot] at hrel; cases hrel
  | some e =>
    cases hslot : (f.slots i).findSome? filled with
    | none => rw [hsource, hslot] at hrel; cases hrel
    | some w => simp

/-! ### Reading all entries -/

/-- The record is finished with what its fields take. -/
theorem finish_eq_ok_iff (hfilled : Filled m r entries filled) {x : RecordValue V} :
    finish m r filled = .ok x ↔ Reads m r entries x := by
  have hfields : ∀ stored : List V,
      (r.fields.zipIdx.mapM fun p => finishField m filled p.1 p.2) = .ok stored ↔
        List.Forall₂ (fun f v => f.Takes m entries v) r.fields stored := by
    intro stored
    have hnumbered : ∀ p ∈ r.fields.zipIdx, ∀ v,
        finishField m filled p.1 p.2 = .ok v ↔ p.1.Takes m entries v :=
      fun p hp v => finishField_eq_ok_iff hfilled (List.mem_zipIdx_iff_getElem?.1 hp)
    have hfirst := List.forall₂_map_left_iff (f := Prod.fst) (l := r.fields.zipIdx) (u := stored)
      (R := fun (f : StoredField τ δ) v => f.Takes m entries v)
    rw [mapM_eq_ok_iff, forall₂_congr_of_mem hnumbered, ← hfirst, List.zipIdx_map_fst]
  obtain ⟨stored, transient⟩ := x
  rw [finish, bind_eq_ok_iff]
  constructor
  · rintro ⟨values, hvalues, hx⟩
    cases hx
    exact ⟨(hfields stored).1 hvalues, forall₂_startsAs_iff.2 rfl⟩
  · rintro ⟨hstored, htransient⟩
    obtain rfl := forall₂_startsAs_iff.1 htransient
    exact ⟨stored, (hfields stored).2 hstored, rfl⟩

/-- The record cannot be finished if a required field is nowhere. -/
theorem exists_finish_eq_error_iff (hfilled : Filled m r entries filled) :
    (∃ why, finish m r filled = .error why) ↔
      ∃ f ∈ r.fields, f.isRequired = true ∧ f.source? entries = none := by
  have hmap : (∃ why, finish m r filled = .error why) ↔
      ∃ why, (r.fields.zipIdx.mapM fun p => finishField m filled p.1 p.2) = .error why := by
    unfold finish
    cases r.fields.zipIdx.mapM fun p => finishField m filled p.1 p.2 <;>
      simp [bind, Except.bind, pure, Except.pure]
  rw [hmap, exists_mapM_eq_error_iff]
  constructor
  · rintro ⟨⟨f, i⟩, hmem, hfail⟩
    have hf := List.mem_zipIdx_iff_getElem?.1 hmem
    exact ⟨f, List.mem_of_getElem? hf, (exists_finishField_eq_error_iff hfilled hf).1 hfail⟩
  · rintro ⟨f, hmem, hfail⟩
    obtain ⟨i, hf⟩ := List.getElem?_of_mem hmem
    exact ⟨(f, i), List.mem_zipIdx_iff_getElem?.2 hf,
      (exists_finishField_eq_error_iff hfilled hf).2 hfail⟩

/-- **Failing.**  A record whose keys are apart is not read exactly if its entries are wrong. -/
theorem exists_readMap_eq_error_iff (h : r.allKeys.Nodup)
    (hskip : ∀ p ∈ entries, m.skip p.2 = .ok ()) :
    (∃ why, readMap m r entries = .error why) ↔ Unreadable m r entries := by
  rcases readEntries_spec h hskip with ⟨hbad, why, hwhy⟩ | ⟨hgood, filled, hread, hfilled⟩
  · refine iff_of_true ⟨why, ?_⟩ (unreadable_of_existsAt_refused hbad)
    simp [readMap, hwhy, bind, Except.bind]
  · have hfinish : readMap m r entries = finish m r filled := by
      simp [readMap, hread, bind, Except.bind, Except.mapError]
    rw [hfinish, exists_finish_eq_error_iff hfilled]
    constructor
    · rintro ⟨f, hf, hrequired, hnone⟩
      exact .absent f hf hrequired fun key hkey =>
        lookup_eq_none_iff_notMem.1 (List.findSome?_eq_none_iff.1 hnone key hkey)
    · exact fun hunreadable => (existsAt_refused_of_unreadable hunreadable).resolve_left hgood

/-- **Succeeding.**  What is read is what the fields take from the entries. -/
theorem readMap_eq_ok_iff (h : r.allKeys.Nodup)
    (hskip : ∀ p ∈ entries, m.skip p.2 = .ok ()) {x : RecordValue V} :
    readMap m r entries = .ok x ↔ ¬ Unreadable m r entries ∧ Reads m r entries x := by
  rw [← exists_readMap_eq_error_iff h hskip, ← exists_eq_ok_iff]
  rcases readEntries_spec h hskip with ⟨-, why, hwhy⟩ | ⟨-, filled, hread, hfilled⟩
  · have hfail : readMap m r entries = .error why := by
      simp [readMap, hwhy, bind, Except.bind]
    simp [hfail]
  · have hfinish : readMap m r entries = finish m r filled := by
      simp [readMap, hread, bind, Except.bind, Except.mapError]
    rw [hfinish, ← finish_eq_ok_iff hfilled]
    exact ⟨fun hx => ⟨⟨x, hx⟩, hx⟩, And.right⟩

end RecordShape

/-! ### Declared records -/

namespace RecordDeclaration

open RecordShape

/-- **What decoding a declared record means.**  It fails exactly if the entries are unreadable, and
otherwise every field takes what the entries have for it.  What is not decoded can be passed
over. -/
theorem reads_unless_unreadable {args : Tokens} {item : Item} {d : RecordDeclaration}
    (accepted : ofItem args item = .ok d) (apart : d.keys.Nodup) (m : Meaning TypeExpr Expr E V ε)
    (entries : List (String × E)) (skips : ∀ p ∈ entries, m.skip p.2 = .ok ()) :
    ((∃ why, d.readMap m entries = .error why) ↔ Unreadable m d.toRecordShape entries) ∧
      (¬ Unreadable m d.toRecordShape entries →
        ∃ x, d.readMap m entries = .ok x ∧ Reads m d.toRecordShape entries x) := by
  have hkeys := allKeys_nodup_of_ofItem accepted apart
  refine ⟨exists_readMap_eq_error_iff hkeys skips, fun hreadable => ?_⟩
  have hok := exists_readMap_eq_error_iff hkeys skips |>.not.2 hreadable
  obtain ⟨x, hx⟩ := exists_eq_ok_iff.2 hok
  exact ⟨x, hx, ((readMap_eq_ok_iff hkeys skips).1 hx).2⟩

/-- A struct with one field, which was stored as `label` in the past. -/
def relabelled : Item :=
  let directive : Attribute := {
    mark := [.punct '#' .alone .none]
    path := { rooted := false, segments := [{ name := { name := "persist" } }],
              tokens := named "persist" }
    args := .list .parenthesis (named "legacy" ++ .punct '=' .alone .none :: quoted "label")
      .none .none
    opening := .none
    closing := .none }
  let field : Field := {
    attributes := [directive]
    visibility := []
    name := some { name := "name" }
    colon := [.punct ':' .alone .none]
    type := { shape := .other, tokens := named "String" }
    separator := [] }
  .struct {
    attributes := []
    visibility := []
    keyword := named "struct"
    name := { name := "Record" }
    generics := {}
    whereClause := []
    fields := .named [field] .none .none
    semicolon := [] }

/-- Texts are read as they are, and nothing else is a value. -/
def texts : Meaning TypeExpr Expr (Option String) String Unit where
  decode _ e := if let some s := e then .ok s else .error ()
  skip _ := .ok ()
  value _ := ""
  empty := ""
  initial _ := ""

/-- Texts, where what stands in for others tells which field it stands for. -/
def standInTexts : Meaning TypeExpr Expr (Option String) String Unit :=
  { texts with value := fun e => e.tokens.print, empty := "None", initial := Ident.text }

/-- A struct with a required field that had two names in the past, one with a default that had one,
an optional field, and two that are skipped, of which the second has a default. -/
def everyKind : StructItem :=
  withOption (structOf [
    ({ name := "a" }, code "legacy =" ++ quoted "x" ++ code ", legacy =" ++ quoted "y"),
    ({ name := "b" }, code "default = 1 , legacy =" ++ quoted "z"), ({ name := "c" }, []),
    ({ name := "d" }, named "skip"), ({ name := "e" }, code "skip , default = 2")]) 2

/-- The second alias stands before the first, and there is an entry for a skipped field. -/
def aliasEntries : List (String × Option String) :=
  [("y", some "older"), ("d", some "kept"), ("x", some "old")]

/-- Behind a key its alias does not count, and need not be a value. -/
def keyEntries : List (String × Option String) :=
  [("b", some "5"), ("z", none), ("a", some "new"), ("c", some "6"), ("x", some "old")]

/-- A field takes its first alias, and what is not there is filled in.  A key comes before its
aliases.  Twice the same key is refused. -/
theorem reads_everyKind : ∃ d, ofItem [] (.struct everyKind) = .ok d ∧
    Reads standInTexts d.toRecordShape aliasEntries ⟨["old", "1", "None"], ["d", "2"]⟩ ∧
    Reads standInTexts d.toRecordShape keyEntries ⟨["new", "5", "6"], ["d", "2"]⟩ ∧
    Unreadable standInTexts d.toRecordShape [("a", some "new"), ("a", some "new")] := by
  have hfacts : (ofItem [] (.struct everyKind)).toOption.map (fun d =>
      (d.keys, [d.readMap standInTexts aliasEntries, d.readMap standInTexts keyEntries,
        d.readMap standInTexts [("a", some "new"), ("a", some "new")]])) =
      some (["a", "b", "c"], [.ok ⟨["old", "1", "None"], ["d", "2"]⟩,
        .ok ⟨["new", "5", "6"], ["d", "2"]⟩, .error (.duplicate "a")]) := by decide +kernel
  obtain ⟨d, accepted, hfacts⟩ := exists_eq_ok_of_toOption hfacts
  obtain ⟨hkeys, hruns⟩ := Prod.mk.inj hfacts
  simp only [List.cons.injEq, and_true] at hruns
  obtain ⟨halias, hkey, htwice⟩ := hruns
  have hmeans := fun entries => reads_unless_unreadable accepted (by rw [hkeys]; decide)
    standInTexts entries fun _ _ => rfl
  have hreads : ∀ {entries x}, d.readMap standInTexts entries = .ok x →
      Reads standInTexts d.toRecordShape entries x := by
    intro entries x hx
    obtain ⟨hfails, hreads⟩ := hmeans entries
    obtain ⟨y, hy, hreads⟩ := hreads (hfails.not.1 (by simp [hx]))
    rwa [Except.ok.inj (hx.symm.trans hy)]
  exact ⟨d, accepted, hreads halias, hreads hkey, (hmeans _).1.1 ⟨_, htwice⟩⟩

end RecordDeclaration
end Boilerplate
