/-
# New records and setters

`constructor` of `src/persist`; `SPEC_FULL.md` §4.4, item 4.

Each field of a record is a parameter of `new` or has a setter, and so every value of the record can
be reached: a new record has the values of the required fields, and setters give it the others
(`RecordDeclaration.construct?_then_set`).  Setters may be called in any order, and to see that none
of them have to be exchanged: a call with the value that is wanted leaves all fields right that are
right already (`RecordValue.getElem?_set_eq`), so all that counts is that each field has its call
(`RecordShape.callSetters?_spec`).
-/

import Boilerplate.Proofs.Output
import Boilerplate.Proofs.Record.AbsentFields
import Mathlib.Data.List.Count

namespace Boilerplate

variable {τ δ E V ε : Type}

/-! ### Names of fields -/

/-- Identifiers are told apart by their names as they are told apart as they are written. -/
theorem Ident.name_eq_of_text_eq {i j : Ident} (hi : isIdentifier i.name.toList = true)
    (hj : isIdentifier j.name.toList = true) (h : i.text = j.text) : i.name = j.name := by
  -- What is behind `r#` is no identifier together with it.
  have hraw : ∀ {a b : String}, isIdentifier b.toList = true → "r#" ++ a ≠ b := by
    rintro a b hb rfl
    have hmark : '#' ∈ ("r#" ++ a).toList := by simp
    have hcontinue := isContinue_of_isIdentifier hb _ hmark
    rw [ranges_ascii.2.2.1] at hcontinue
    cases hcontinue
  unfold Ident.text at h
  split at h <;> split at h
  · exact String.append_right_inj _ |>.1 h
  · exact absurd h (hraw hj)
  · exact absurd h.symm (hraw hi)
  · exact h

namespace RecordValue

variable {x y : RecordValue V} {i j : Nat} {v : V}

/-- **What is right stays right:** if a field gets the value that it has in another record, then all
fields that agree with that record still do, and it does, too. -/
theorem getElem?_set_eq (hlength : y.stored.length = x.stored.length)
    (hv : x.stored[i]? = some v) (h : y.stored[j]? = x.stored[j]? ∨ i = j) :
    (y.set i v).stored[j]? = x.stored[j]? := by
  have hi : i < y.stored.length := hlength ▸ (List.getElem?_eq_some_iff.1 hv).1
  by_cases hij : i = j
  · subst hij
    rw [set, List.getElem?_set_self hi, hv]
  · rw [set, List.getElem?_set_ne hij]
    exact h.resolve_right hij

end RecordValue

namespace RecordShape

variable {m : Meaning τ δ E V ε} {r : RecordShape τ δ} {f : StoredField τ δ}
  {fs : List (StoredField τ δ)} {x y : RecordValue V} {i : Nat}

/-! ### Calls -/

/-- The record after a call of the setter for the field with the name, if there is one. -/
def callSetter? (r : RecordShape τ δ) (x : RecordValue V) (name : String) (v : V) :
    Option (RecordValue V) :=
  (r.setter? name).map (x.set · v)

/-- The record after calls of setters, one after the other. -/
def callSetters? (r : RecordShape τ δ) (x : RecordValue V) (calls : List (String × V)) :
    Option (RecordValue V) :=
  calls.foldlM (fun x c => r.callSetter? x c.1 c.2) x

/-- The values of the required fields. -/
def requiredValues (r : RecordShape τ δ) (x : RecordValue V) : List V :=
  ((r.fields.zip x.stored).filter (·.1.isRequired)).map (·.2)

/-- The calls of setters that give all other fields their values. -/
def settings (r : RecordShape τ δ) (x : RecordValue V) : List (String × V) :=
  ((r.fields.zip x.stored).filter (!·.1.isRequired)).map fun p => (p.1.name.text, p.2)

/-- A setter is found by the name of its field. -/
theorem setter?_of_getElem? (apart : (r.fields.map (·.name.text)).Nodup)
    (hf : r.fields[i]? = some f) (h : f.isRequired = false) : r.setter? f.name.text = some i := by
  obtain ⟨hi, rfl⟩ := List.getElem?_eq_some_iff.1 hf
  refine List.findIdx?_eq_some_iff_getElem.2 ⟨hi, by simp [h], fun j hj => ?_⟩
  have hne : r.fields[j].name.text ≠ r.fields[i].name.text :=
    List.pairwise_iff_getElem.1 (List.pairwise_map.1 apart) j i (Nat.lt_trans hj hi) hi hj
  simp [hne]

/-- **Calls with the values of a record** make all fields agree with it that are set, and those that
agreed before still do. -/
theorem callSetters?_spec {calls : List (String × V)}
    (hlength : y.stored.length = x.stored.length)
    (hcalls : ∀ c ∈ calls, ∃ i, r.setter? c.1 = some i ∧ x.stored[i]? = some c.2) :
    ∃ z, r.callSetters? y calls = some z ∧ z.stored.length = x.stored.length ∧
      z.transient = y.transient ∧
      ∀ j, (y.stored[j]? = x.stored[j]? ∨ ∃ c ∈ calls, r.setter? c.1 = some j) →
        z.stored[j]? = x.stored[j]? := by
  induction calls generalizing y with
  | nil => exact ⟨y, rfl, hlength, rfl, fun j hj => hj.resolve_right (by simp)⟩
  | cons c calls ih =>
    obtain ⟨⟨i, hi, hv⟩, hrest⟩ := List.forall_mem_cons.1 hcalls
    have hnext : (y.set i c.2).stored.length = x.stored.length := by
      rw [RecordValue.set, List.length_set, hlength]
    obtain ⟨z, hz, hzlength, htransient, hagree⟩ := ih hnext hrest
    refine ⟨z, ?_, hzlength, htransient, fun j hj => hagree j ?_⟩
    · rw [callSetters?, List.foldlM_cons, callSetter?, hi]
      exact hz
    · rcases hj with hj | ⟨c', hc', hj⟩
      · exact Or.inl (RecordValue.getElem?_set_eq hlength hv (Or.inl hj))
      · rcases List.mem_cons.1 hc' with rfl | hc'
        · left
          rw [hi] at hj
          exact RecordValue.getElem?_set_eq hlength hv (Or.inr (Option.some.inj hj))
        · exact Or.inr ⟨c', hc', hj⟩

/-- **A new record** has the values of the required fields. -/
theorem exists_constructFields?_of_values {values : List V} (hlength : values.length = fs.length) :
    ∃ stored, constructFields? m fs (((fs.zip values).filter (·.1.isRequired)).map (·.2)) =
        some stored ∧ stored.length = values.length ∧
      ∀ (i : Nat) f, fs[i]? = some f → f.isRequired = true → stored[i]? = values[i]? := by
  induction fs generalizing values with
  | nil =>
    obtain rfl := List.length_eq_zero_iff.1 hlength
    exact ⟨[], rfl, rfl, fun i f hf => by simp at hf⟩
  | cons f fs ih =>
    obtain ⟨v, values, rfl⟩ := List.exists_cons_of_length_eq_add_one hlength
    obtain ⟨stored, hstored, hsame, hvalues⟩ := ih (Nat.succ.inj hlength)
    by_cases hrequired : f.isRequired = true
    · have hnone : absentValue? m f = none := absentValue?_eq_none_iff.2 hrequired
      refine ⟨v :: stored, ?_, congrArg Nat.succ hsame, fun i g hg hreq => ?_⟩
      · rw [List.zip_cons_cons, List.filter_cons_of_pos (by exact hrequired), List.map_cons]
        simp only [constructFields?, hnone, hstored, Option.map_some]
      · cases i with
        | zero => rfl
        | succ i => exact hvalues i g hg hreq
    · obtain ⟨w, hw⟩ := exists_absentValue?_of_not_isRequired (m := m) hrequired
      refine ⟨w :: stored, ?_, congrArg Nat.succ hsame, fun i g hg hreq => ?_⟩
      · rw [List.zip_cons_cons, List.filter_cons_of_neg (by exact hrequired)]
        simp only [constructFields?, hw, hstored, Option.map_some]
      · cases i with
        | zero => exact absurd (Option.some.inj hg ▸ hreq) hrequired
        | succ i => exact hvalues i g hg hreq

/-- **All fields but one are left alone** by a setter. -/
theorem exists_callSetter? (apart : (r.fields.map (·.name.text)).Nodup) (hf : f ∈ r.settable) :
    ∃ i : Nat, r.fields[i]? = some f ∧
      ∀ (x : RecordValue V) v, x.stored.length = r.fields.length →
        ∃ y, r.callSetter? x f.name.text v = some y ∧ y.stored[i]? = some v ∧
          (∀ j, j ≠ i → y.stored[j]? = x.stored[j]?) ∧ y.transient = x.transient := by
  obtain ⟨hmem, hrequired⟩ := List.mem_filter.1 hf
  obtain ⟨i, hi⟩ := List.getElem?_of_mem hmem
  refine ⟨i, hi, fun x v hlength => ⟨x.set i v, ?_, ?_, fun j hj => ?_, rfl⟩⟩
  · rw [callSetter?, setter?_of_getElem? apart hi (by simpa using hrequired), Option.map_some]
  · refine List.getElem?_set_self ?_
    rw [hlength]
    exact (List.getElem?_eq_some_iff.1 hi).1
  · exact List.getElem?_set_ne hj.symm

/-- A call gives a field that is not required the value that it has in the record. -/
theorem mem_settings_iff {c : String × V} :
    c ∈ r.settings x ↔ ∃ (i : Nat) (f : _), r.fields[i]? = some f ∧ f.isRequired = false ∧
      f.name.text = c.1 ∧ x.stored[i]? = some c.2 := by
  simp only [settings, List.mem_map, List.mem_filter]
  constructor
  · rintro ⟨⟨f, v⟩, ⟨hmem, hrequired⟩, rfl⟩
    obtain ⟨i, hi⟩ := List.getElem?_of_mem hmem
    rw [List.getElem?_zip_eq_some] at hi
    exact ⟨i, f, hi.1, by simpa using hrequired, rfl, hi.2⟩
  · rintro ⟨i, f, hf, hrequired, hname, hv⟩
    refine ⟨(f, c.2), ⟨?_, by simpa using hrequired⟩, by rw [hname]⟩
    exact List.mem_of_getElem? (List.getElem?_zip_eq_some.2 ⟨hf, hv⟩)

/-- **Every value is reached** from the values of the required fields by setters for all others, in
any order. -/
theorem exists_construct?_callSetters? (apart : (r.fields.map (·.name.text)).Nodup)
    (hlength : x.stored.length = r.fields.length)
    (htransient : List.Forall₂ (fun t v => t.StartsAs m v) r.transient x.transient) :
    ∃ y, r.construct? m (r.requiredValues x) = some y ∧
      ∀ calls, calls.Perm (r.settings x) → r.callSetters? y calls = some x := by
  have htransient := forall₂_startsAs_iff.1 htransient
  obtain ⟨stored, hstored, hsame, hvalues⟩ :=
    exists_constructFields?_of_values (m := m) hlength
  refine ⟨⟨stored, r.transientValues m⟩, by rw [construct?, requiredValues, hstored]; rfl,
    fun calls horder => ?_⟩
  have hcalls : ∀ c ∈ calls, ∃ i, r.setter? c.1 = some i ∧ x.stored[i]? = some c.2 := by
    intro c hc
    obtain ⟨i, f, hf, hrequired, hname, hv⟩ := mem_settings_iff.1 (horder.mem_iff.1 hc)
    exact ⟨i, hname ▸ setter?_of_getElem? apart hf hrequired, hv⟩
  obtain ⟨z, hz, hzlength, hztransient, hagree⟩ :=
    callSetters?_spec (y := ⟨stored, r.transientValues m⟩) hsame hcalls
  have hall : z.stored = x.stored := by
    refine List.ext_getElem? fun i => ?_
    by_cases hi : i < r.fields.length
    · have hf := List.getElem?_eq_getElem hi
      by_cases hrequired : r.fields[i].isRequired = true
      · exact hagree i (Or.inl (hvalues i _ hf hrequired))
      -- A field that is not required has been set.
      · have hrequired : r.fields[i].isRequired = false := by simpa using hrequired
        have hv := List.getElem?_eq_getElem (hlength ▸ hi : i < x.stored.length)
        have hcall : (r.fields[i].name.text, x.stored[i]) ∈ calls :=
          horder.mem_iff.2 (mem_settings_iff.2 ⟨i, _, hf, hrequired, rfl, hv⟩)
        exact hagree i (Or.inr ⟨_, hcall, setter?_of_getElem? apart hf hrequired⟩)
    · rw [List.getElem?_eq_none (by omega), List.getElem?_eq_none (by omega)]
  obtain rfl : z = x := by
    cases z
    cases x
    simp_all
  exact hz

/-! ### Parameters and setters -/

/-- Among some of the fields, each of them is listed once by its key and no other is. -/
theorem count_key_filter (apart : r.keys.Nodup) {p : StoredField τ δ → Bool} (hf : f ∈ r.fields) :
    ((r.fields.filter p).map (·.key)).count f.key = if p f then 1 else 0 := by
  have hnodup : ((r.fields.filter p).map (·.key)).Nodup :=
    (List.filter_sublist.map _).nodup apart
  have hmem : f.key ∈ (r.fields.filter p).map (·.key) ↔ p f = true := by
    constructor
    · intro hkey
      obtain ⟨g, hg, heq⟩ := List.mem_map.1 hkey
      obtain ⟨hgmem, hg⟩ := List.mem_filter.1 hg
      exact List.inj_on_of_nodup_map apart hgmem hf heq ▸ hg
    · exact fun hp => List.mem_map_of_mem (List.mem_filter.2 ⟨hf, hp⟩)
  rw [hnodup.count]
  simp only [hmem]

end RecordShape

namespace RecordDeclaration

open RecordShape

variable {d : RecordDeclaration} {f : StoredField TypeExpr Expr}

/-- Setters have names of their own. -/
theorem setterName_ne (f : StoredField TypeExpr Expr) {s : String}
    (h : s.toList.head? ≠ some 'w') : setterName f ≠ s := by
  rintro rfl
  exact h (by simp [setterName])

/-- The members of a record by their names. -/
theorem map_name_members (d : RecordDeclaration) : d.members.map (·.name) =
    ["FIELD_KEYS", "new"] ++ (d.settable.map (·.key)).map ("with_" ++ ·) ++
      ["raw_value", "from_raw_value"] := by
  simp [members, keyList, newMember, stringMembers, setter, setterName, Member.documented,
    StoredField.key, Function.comp_def]

/-- Keys can be told from the names of their setters. -/
theorem with_injective : Function.Injective (fun key : String => "with_" ++ key) :=
  fun _ _ heq => (String.append_right_inj _).1 heq

/-- **A field has one setter or none**, whatever other members there are. -/
theorem count_setterName (apart : d.keys.Nodup) (hf : f ∈ d.fields) :
    (d.members.map (·.name)).count (setterName f) = if f.isRequired then 0 else 1 := by
  have hsetters : ((d.settable.map (·.key)).map ("with_" ++ ·)).count (setterName f) =
      if f.isRequired then 0 else 1 := by
    have hcount := count_key_filter (p := (!·.isRequired)) apart hf
    rw [setterName, List.count_map_of_injective _ _ with_injective, settable]
    refine hcount.trans ?_
    cases f.isRequired <;> rfl
  have hother : ∀ s ∈ ["FIELD_KEYS", "new", "raw_value", "from_raw_value"], setterName f ≠ s := by
    intro s hs
    refine setterName_ne f ?_
    revert s
    decide
  have hbefore : ["FIELD_KEYS", "new"].count (setterName f) = 0 :=
    List.count_eq_zero.2 fun hmem => hother _ (by simp_all) rfl
  have hbehind : ["raw_value", "from_raw_value"].count (setterName f) = 0 :=
    List.count_eq_zero.2 fun hmem => hother _ (by simp_all) rfl
  rw [map_name_members, List.count_append, List.count_append, hbefore, hsetters, hbehind,
    Nat.zero_add, Nat.add_zero]

/-- The name of the field, with its type behind a colon. -/
def typed (f : StoredField TypeExpr Expr) : Tokens :=
  [.ident f.name, .punct ':' .alone .none] ++ f.type.tokens

/-- A parameter is declared with the name and the type of its field. -/
theorem parameter_eq (f : StoredField TypeExpr Expr) : parameter f = typed f := by
  rw [parameter, code_colon]
  rfl

/-- Whether the member is a function with the name of the field's setter that takes the record with
a value of the field's type, gives the field this value, and gives the record back. -/
def IsSetter (f : StoredField TypeExpr Expr) (x : Member) : Prop :=
  x.name = "with_" ++ f.key ∧ ∃ before, x.tokens = before ++ code "fn" ++
    [.ident { name := x.name }] ++ parens (code "mut self ," ++ typed f) ++ code "-> Self" ++
    braces (code "self ." ++ [.ident f.name] ++ code "=" ++ [.ident f.name] ++ code "; self")

/-- The parameters of `new` are the required fields. -/
theorem exists_newMember_eq : ∃ before behind, d.newMember.tokens = before ++ code "fn new" ++
    parens (commaSeparated (d.required.map typed)) ++ code "-> Self" ++ behind := by
  have hparameters : d.required.map parameter = d.required.map typed :=
    List.map_congr_left fun f _ => parameter_eq f
  simp only [newMember, Member.documented, hparameters, ← List.append_assoc]
  exact ⟨_, _, rfl⟩

/-- The setters of a record set its fields. -/
theorem isSetter_setter (d : RecordDeclaration) (f : StoredField TypeExpr Expr) :
    IsSetter f (d.setter f) := by
  refine ⟨rfl, marked (code "must_use") ++ d.visibility, ?_⟩
  rw [setter, parameter_eq]
  rfl

/-- **Every value is reached.**  In a declared record whose fields have keys that are apart, each
field is one parameter of `new` if it is required, and has one setter if it is not, both in the
order of the fields, and both are declared with the name and the type of the field.  A setter gives
its field the value and changes no other.  For any values of the fields, `new` with those of the
required ones makes a record that setters with the others change into the record of all these
values, in whatever order they are called; transient fields have the values that they start with.
-/
theorem construct?_then_set {args : Tokens} {item : Item}
    (accepted : ofItem args item = .ok d) (apart : d.keys.Nodup)
    (names : ∀ j ∈ item.fieldNames, isIdentifier j.name.toList = true)
    (m : Meaning TypeExpr Expr E V ε) :
    (d.required.Sublist d.fields ∧ d.settable.Sublist d.fields ∧
      (∃ before behind, d.newMember.tokens = before ++ code "fn new" ++
        parens (commaSeparated (d.required.map typed)) ++ code "-> Self" ++ behind) ∧
      (d.settable.map d.setter).Sublist d.members ∧ ∀ f, IsSetter f (d.setter f)) ∧
    (∀ f ∈ d.fields,
      (d.required.map (·.key)).count f.key = (if f.isRequired then 1 else 0) ∧
      (d.members.map (·.name)).count (setterName f) = (if f.isRequired then 0 else 1)) ∧
    (∀ f ∈ d.settable, ∃ i : Nat, d.fields[i]? = some f ∧
      ∀ (x : RecordValue V) v, x.stored.length = d.fields.length →
        ∃ y, d.callSetter? x f.name.text v = some y ∧ y.stored[i]? = some v ∧
          (∀ j, j ≠ i → y.stored[j]? = x.stored[j]?) ∧ y.transient = x.transient) ∧
    ∀ x : RecordValue V, x.stored.length = d.fields.length →
      List.Forall₂ (fun t v => t.StartsAs m v) d.transient x.transient →
      ∃ y, d.construct? m (d.requiredValues x) = some y ∧
        ∀ calls, calls.Perm (d.settings x) → d.callSetters? y calls = some x := by
  have htexts : (d.fields.map (·.name.text)).Nodup := by
    refine List.pairwise_map.2 ((List.pairwise_map.1 apart).imp_of_mem ?_)
    intro f g hf hg hkey htext
    exact hkey (Ident.name_eq_of_text_eq (names _ (name_mem_of_ofItem accepted f hf))
      (names _ (name_mem_of_ofItem accepted g hg)) htext)
  have hsetters : (d.settable.map d.setter).Sublist d.members :=
    (List.sublist_append_right _ _).trans (List.sublist_append_left _ _)
  refine ⟨
    ⟨List.filter_sublist, List.filter_sublist, exists_newMember_eq, hsetters, d.isSetter_setter⟩,
    fun f hf => ⟨count_key_filter apart hf, count_setterName apart hf⟩,
    fun f hf => exists_callSetter? htexts hf,
    fun x hlength htransient => exists_construct?_callSetters? htexts hlength htransient⟩

/-- The setters for two fields of `partlyRequired`, called in the order opposite to theirs. -/
theorem construct?_then_set_backwards : ∃ d y, ofItem [] (.struct partlyRequired) = .ok d ∧
    d.construct? standInTexts ["x"] = some y ∧
    d.callSetters? y [("c", "z"), ("b", "y")] = some ⟨["x", "y", "z"], ["d"]⟩ := by
  let x : RecordValue String := ⟨["x", "y", "z"], ["d"]⟩
  have hfacts : (ofItem [] (.struct partlyRequired)).toOption.map (fun d =>
      (d.keys, d.transientValues standInTexts, d.requiredValues x, d.settings x)) =
      some (["a", "b", "c"], ["d"], ["x"], [("b", "y"), ("c", "z")]) := by
    decide +kernel
  cases accepted : ofItem [] (.struct partlyRequired) with
  | error ds =>
    rw [accepted] at hfacts
    cases hfacts
  | ok d =>
    rw [accepted] at hfacts
    obtain ⟨hkeys, hfacts⟩ := Prod.mk.inj (Option.some.inj hfacts)
    obtain ⟨htransient, hfacts⟩ := Prod.mk.inj hfacts
    obtain ⟨hvalues, hsettings⟩ := Prod.mk.inj hfacts
    have hlength : x.stored.length = d.fields.length := by
      have hcount := congrArg List.length hkeys
      rw [RecordShape.keys, List.length_map] at hcount
      exact hcount.symm
    have hplain : ∀ j ∈ (Item.struct partlyRequired).fieldNames,
        isPlainName j.name.toList = true := by decide
    obtain ⟨-, -, -, hreached⟩ := construct?_then_set accepted (by rw [hkeys]; decide)
      (fun j hj => isIdentifier_of_isPlainName (hplain j hj)) standInTexts
    obtain ⟨y, hy, hcalls⟩ := hreached x hlength (forall₂_startsAs_iff.2 htransient.symm)
    refine ⟨d, y, rfl, hvalues ▸ hy, hcalls _ ?_⟩
    rw [hsettings]
    exact .swap _ _ _

end RecordDeclaration
end Boilerplate
