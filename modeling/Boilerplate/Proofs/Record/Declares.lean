/-
# Which items declare records

`extract_field_list` of `src/decl/extract`; `SPEC_FULL.md` §4.1 and the invariants of §3.

A struct under a directive without arguments is judged field by field: each field is stored or kept
as transient, and what is wrong with its attributes is noted (`FieldDraft.foldl_add`).  `Declares`
says what a struct is like with which nothing is wrong, and an item is accepted exactly if it is
such a struct, as the record that this declares (`ofItem_eq_ok_iff`).
-/

import Boilerplate.Proofs.Directive
import Boilerplate.Proofs.Record.Keys

namespace Boilerplate

namespace Field

/-- What the attributes of a field say. -/
def settings (f : Field) : FieldSettings := (FieldSettings.ofAttributes f.attributes).1

/-- What is wrong with the attributes of a field; those of a field without a name are not read. -/
def findings (f : Field) : List Diagnostic :=
  if f.name.isSome then (FieldSettings.ofAttributes f.attributes).2 else []

/-- The field as it is stored, unless it is skipped. -/
def stored? (f : Field) : Option (StoredField TypeExpr Expr) :=
  f.name.bind fun name =>
    if f.settings.skip then none
    else some { name, type := f.type, isOptional := f.type.isOption,
                default? := f.settings.default?, legacy := f.settings.legacy }

/-- The field as it is kept without being stored, if it is skipped. -/
def transient? (f : Field) : Option (TransientField Expr) :=
  f.name.bind fun name =>
    if f.settings.skip then some { name, default? := f.settings.default? } else none

/-- A field is stored under its own name. -/
theorem name_of_stored? {f : Field} {stored : StoredField TypeExpr Expr}
    (h : f.stored? = some stored) : f.name = some stored.name := by
  obtain ⟨name, hname, hstored⟩ := Option.bind_eq_some_iff.1 h
  split at hstored
  · cases hstored
  · rw [hname, ← Option.some.inj hstored]

end Field

/-- The fields of a record, of which a struct without any braces has none; fields without names are
not those of a record. -/
def Fields.ofRecord? : Fields → Option (List Field)
  | .named fields _ _ => some fields
  | .unit => some []
  | .tuple .. => none

/-- A struct keeps its name when its fields lose their directives. -/
theorem StructItem.name_stripped {s : StructItem} : s.stripped.name = s.name := by
  unfold stripped
  split <;> rfl

namespace RecordDeclaration

/-! ### Fields -/

/-- **One more field** is stored or transient, and adds what is wrong with its attributes. -/
theorem FieldDraft.add_eq (d : FieldDraft) (f : Field) :
    d.add f = {
      fields := d.fields ++ f.stored?.toList
      transient := d.transient ++ f.transient?.toList
      diagnostics := d.diagnostics ++ f.findings } := by
  unfold FieldDraft.add Field.stored? Field.transient? Field.findings Field.settings
  cases f.name with
  | none => simp
  | some name =>
    cases hskip : (FieldSettings.ofAttributes f.attributes).1.skip <;> simp [hskip]

/-- **All fields** are told apart in their order. -/
theorem FieldDraft.foldl_add (d : FieldDraft) (fields : List Field) :
    fields.foldl FieldDraft.add d = {
      fields := d.fields ++ fields.filterMap Field.stored?
      transient := d.transient ++ fields.filterMap Field.transient?
      diagnostics := d.diagnostics ++ fields.flatMap Field.findings } := by
  induction fields generalizing d with
  | nil => simp
  | cons f fields ih =>
    rw [List.foldl_cons, ih, FieldDraft.add_eq]
    cases hstored : f.stored? <;> cases htransient : f.transient? <;>
      simp [hstored, htransient]

/-! ### Structs -/

/-- What a struct is like that declares a record with these fields. -/
structure Declares (s : StructItem) (fields : List Field) : Prop where
  noParameters : s.generics.isEmpty = true
  shape : s.fields.ofRecord? = some fields
  /-- There is nothing wrong with the attributes of the fields. -/
  silent : ∀ f ∈ fields, f.name.isSome → (FieldSettings.ofAttributes f.attributes).2 = []
  /-- No alias is the key of a field that is stored. -/
  free : ∀ f ∈ fields.filterMap Field.stored?, ∀ key ∈ f.aliases,
    key ∉ (fields.filterMap Field.stored?).map (·.key)
  /-- No alias is written twice. -/
  once : ((fields.filterMap Field.stored?).flatMap (·.aliases)).Nodup

/-- The record that such a struct declares. -/
def declared (s : StructItem) (fields : List Field) : RecordDeclaration where
  typeName := s.name
  isUnit := s.fields.isUnit
  fields := fields.filterMap Field.stored?
  transient := fields.filterMap Field.transient?
  visibility := s.visibility
  cleaned := s.stripped

variable {s : StructItem} {fields : List Field} {before : List Diagnostic} {d : RecordDeclaration}
  {args : Tokens} {item : Item}

/-- Nothing is told of the fields if nothing is told of any that has a name. -/
theorem flatMap_findings_eq_nil_iff :
    fields.flatMap Field.findings = [] ↔
      ∀ f ∈ fields, f.name.isSome → (FieldSettings.ofAttributes f.attributes).2 = [] := by
  rw [List.flatMap_eq_nil_iff]
  exact forall₂_congr fun f _ => by rw [Field.findings, ite_eq_right_iff]

/-- A record is made of fields exactly if nothing is told of them and of their keys. -/
theorem ofFields_eq_ok_iff :
    ofFields before s fields = .ok d ↔
      before = [] ∧ fields.flatMap Field.findings = [] ∧
        judgeKeys (fields.filterMap Field.stored?) = [] ∧ d = declared s fields := by
  simp only [ofFields, FieldDraft.foldl_add, List.nil_append]
  constructor
  · intro h
    split at h
    · rename_i hnil
      obtain ⟨hleft, hkeys⟩ := List.append_eq_nil_iff.1 hnil
      obtain ⟨hbefore, hfindings⟩ := List.append_eq_nil_iff.1 hleft
      exact ⟨hbefore, hfindings, hkeys, (Except.ok.inj h).symm⟩
    · cases h
  · rintro ⟨rfl, hfindings, hkeys, rfl⟩
    rw [hfindings, hkeys]
    rfl

/-- Nothing is wrong with parameters if there are none. -/
theorem judgeGenerics_eq_nil_iff : judgeGenerics s = [] ↔ s.generics.isEmpty = true := by
  simp [judgeGenerics]

/-- A struct is judged by its fields, if it has those of a record. -/
theorem ofItem_struct_eq_ok_iff :
    ofItem args (.struct s) = .ok d ↔ ∃ fields, s.fields.ofRecord? = some fields ∧
      ofFields ((if args.isEmpty then [] else refuseArguments args) ++ judgeGenerics s) s fields =
        .ok d := by
  simp only [ofItem]
  cases hfields : s.fields <;> simp [Fields.ofRecord?]

/-- Nothing is told of arguments if there are none. -/
theorem aboutArgs_eq_nil_iff :
    (if args.isEmpty then [] else refuseArguments args) = [] ↔ args = [] := by
  rw [ite_eq_left_iff, List.isEmpty_iff, refuseArguments_eq_nil_iff]
  exact Decidable.not_imp_self

/-- **A struct is accepted** if it declares a record under a directive without arguments. -/
theorem ofItem_struct_eq_ok_iff_declares :
    ofItem args (.struct s) = .ok d ↔
      args = [] ∧ ∃ fields, Declares s fields ∧ d = declared s fields := by
  simp only [ofItem_struct_eq_ok_iff, ofFields_eq_ok_iff, List.append_eq_nil_iff,
    aboutArgs_eq_nil_iff, judgeGenerics_eq_nil_iff, flatMap_findings_eq_nil_iff]
  constructor
  · rintro ⟨fields, hshape, ⟨hargs, hparameters⟩, hsilent, hkeys, hd⟩
    obtain ⟨hfree, honce⟩ := judgeKeys_eq_nil_iff.1 hkeys
    exact ⟨hargs, fields, ⟨hparameters, hshape, hsilent, hfree, honce⟩, hd⟩
  · rintro ⟨hargs, fields, h, hd⟩
    exact ⟨fields, h.shape, ⟨hargs, h.noParameters⟩, h.silent,
      judgeKeys_eq_nil_iff.2 ⟨h.free, h.once⟩, hd⟩

/-- **Which items are accepted.**  An item declares a record exactly if its directive has no
arguments and it is a struct without parameters whose fields, if any, have names and faultless
attributes, and whose aliases are neither keys nor written twice.  Then every key that is read has
one slot, of a field or of one of its aliases, as soon as the keys of the fields are apart. -/
theorem ofItem_eq_ok_iff (args : Tokens) (item : Item) :
    (∀ d, ofItem args item = .ok d ↔
      args = [] ∧ ∃ s fields, item = .struct s ∧ Declares s fields ∧ d = declared s fields) ∧
    ∀ d, ofItem args item = .ok d → d.keys.Nodup → d.allKeys.Nodup ∧
      ∀ key ∈ d.allKeys, ∃! slot : Slot, slot.keyIn? d.toRecordShape = some key := by
  refine ⟨fun d => ?_, fun d accepted hkeys => ?_⟩
  · cases item with
    | struct s =>
      simp only [Item.struct.injEq, exists_and_left, exists_eq_left']
      exact ofItem_struct_eq_ok_iff_declares
    | _ => exact iff_of_false nofun (by simp)
  · have hall := allKeys_nodup_of_ofItem accepted hkeys
    exact ⟨hall, fun key hkey => d.toRecordShape.existsUnique_slot hall hkey⟩

/-- A struct with fields of these names, each with the arguments of its directive. -/
def structOf (fields : List (Ident × Tokens)) : StructItem where
  attributes := []
  visibility := []
  keyword := named "struct"
  name := { name := "Record" }
  generics := {}
  whereClause := []
  fields := .named (fields.map fun (name, args) => {
    attributes := [{
      mark := [.punct '#' .alone .none]
      path := ⟨false, [{ name := { name := FieldSettings.attributeName } }],
        named FieldSettings.attributeName⟩
      args := .list .parenthesis args .none .none
      opening := .none
      closing := .none }]
    visibility := []
    name := some name
    colon := [.punct ':' .alone .none]
    type := { shape := .other, tokens := named "u8" }
    separator := [.punct ',' .alone .none] }) .none .none
  semicolon := []

/-- The struct with `Option<u8>` as the type of field `i`. -/
def withOption (s : StructItem) (i : Nat) : StructItem :=
  let option : TypeExpr :=
    ⟨.path ⟨false, [⟨{ name := "Option" }, .angled⟩], code "Option < u8 >"⟩, code "Option < u8 >"⟩
  match s.fields with
  | .named fs o c =>
    { s with fields := .named (fs.modify i fun f => { f with type := option }) o c }
  | _ => s

/-- A struct whose field `r#type` was `kind` in the past, with another field of that name. -/
def renamed (args : Tokens) : StructItem :=
  structOf [({ name := "type", raw := true }, code "legacy =" ++ quoted "kind"),
    ({ name := "kind" }, args)]

/-- The key of a skipped field is free for an alias, which is read into a slot of its own; that of a
stored field is not. -/
theorem ofItem_renamed :
    (∃ d, ofItem [] (.struct (renamed (named "skip"))) = .ok d ∧ d.allKeys = ["type", "kind"] ∧
      ∃! slot : Slot, slot.keyIn? d.toRecordShape = some "kind") ∧
    ¬ ∃ d, ofItem [] (.struct (renamed [])) = .ok d := by
  have hskipped : (ofItem [] (.struct (renamed (named "skip")))).toOption.map
      (fun d => (d.keys, d.allKeys)) = some (["type"], ["type", "kind"]) := by decide +kernel
  have hstored : (ofItem [] (.struct (renamed []))).toOption.isSome = false := by decide +kernel
  refine ⟨?_, ?_⟩
  · cases accepted : ofItem [] (.struct (renamed (named "skip"))) with
    | error ds =>
      rw [accepted] at hskipped
      cases hskipped
    | ok d =>
      rw [accepted] at hskipped
      obtain ⟨hkeys, hall⟩ := Prod.mk.inj (Option.some.inj hskipped)
      obtain ⟨-, hslots⟩ := (ofItem_eq_ok_iff [] _).2 d accepted (hkeys ▸ List.nodup_singleton _)
      exact ⟨d, rfl, hall, hslots "kind" (by simp [hall])⟩
  · rintro ⟨d, accepted⟩
    rw [accepted] at hstored
    cases hstored

end RecordDeclaration
end Boilerplate
