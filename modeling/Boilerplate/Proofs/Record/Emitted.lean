/-
# The struct that a record leaves

`strip_field_attrs` of `src/decl/attrs` and `persistable` of `src/expand`; the end of `SPEC_FULL.md`
§4.1.

Whatever is wrong with a struct that is to be a record, the struct stands first in the output, and
no other struct is declared behind it.  Nothing is derived for it.  Its named fields have lost their
directives and kept everything else (`StructItem.stripped`), but the fields of a tuple keep their
directives as well, so that the struct is without any of them exactly if it is no tuple or its
fields have none (`StructItem.stripped_eq_undirected_iff`, `Output.struct_of_ofRecord`).
-/

import Boilerplate.Proofs.Siblings

namespace Boilerplate

/-! ### Directives of fields -/

/-- The field without its directives. -/
def Field.undirected (f : Field) : Field :=
  { f with attributes := f.attributes.filter (!FieldSettings.isDirective ·) }

/-- Whether the field has no directive. -/
def Field.IsUndirected (f : Field) : Prop :=
  ∀ a ∈ f.attributes, FieldSettings.isDirective a = false

/-- A field is kept as it is if it has no directive. -/
theorem Field.undirected_eq_self_iff {f : Field} : f.undirected = f ↔ f.IsUndirected := by
  obtain ⟨attributes, visibility, name, colon, type, separator⟩ := f
  simp [undirected, IsUndirected, List.filter_eq_self]

/-- Fields are kept as they are if none has a directive. -/
theorem Field.map_undirected_eq_self_iff {fields : List Field} :
    fields.map undirected = fields ↔ ∀ f ∈ fields, f.IsUndirected := by
  conv_lhs => rhs; rw [← List.map_id fields]
  rw [List.map_inj_left]
  exact forall₂_congr fun f _ => undirected_eq_self_iff

/-- The fields, with or without names, without their directives. -/
def Fields.undirected : Fields → Fields
  | .unit => .unit
  | .named fields o c => .named (fields.map Field.undirected) o c
  | .tuple fields o c => .tuple (fields.map Field.undirected) o c

namespace StructItem

variable {s : StructItem}

/-- The struct without the directives of any of its fields. -/
def undirected (s : StructItem) : StructItem := { s with fields := s.fields.undirected }

/-- The fields of a tuple keep their directives. -/
theorem stripped_of_tuple {fields : List Field} {o c : Span} (h : s.fields = .tuple fields o c) :
    s.stripped = s := by
  rw [stripped, h]

/-- Other fields than those of a tuple lose their directives. -/
theorem stripped_eq_undirected (h : ∀ fields o c, s.fields ≠ .tuple fields o c) :
    s.stripped = s.undirected := by
  obtain ⟨attributes, visibility, keyword, name, generics, whereClause, fields, semicolon⟩ := s
  cases fields with
  | unit => rfl
  | named fields o c => rfl
  | tuple fields o c => exact absurd rfl (h fields o c)

/-- **All directives are gone** exactly if there are none in a tuple. -/
theorem stripped_eq_undirected_iff :
    s.stripped = s.undirected ↔
      ∀ fields o c, s.fields = .tuple fields o c → ∀ f ∈ fields, f.IsUndirected := by
  constructor
  · intro h fields o c hfields
    rw [stripped_of_tuple hfields] at h
    have hkept : fields.map Field.undirected = fields := by
      have hsame := congrArg StructItem.fields h
      rw [undirected, hfields] at hsame
      exact (Fields.tuple.inj hsame).1.symm
    exact Field.map_undirected_eq_self_iff.1 hkept
  · intro h
    by_cases htuple : ∃ fields o c, s.fields = .tuple fields o c
    · obtain ⟨fields, o, c, hfields⟩ := htuple
      have hkept : fields.map Field.undirected = fields :=
        Field.map_undirected_eq_self_iff.2 (h fields o c hfields)
      rw [stripped_of_tuple hfields, undirected, hfields, Fields.undirected, hkept, ← hfields]
    · exact stripped_eq_undirected fun fields o c hfields => htuple ⟨fields, o, c, hfields⟩

end StructItem

/-! ### Code behind the struct -/

/-- Whether the token is the keyword that declares a struct. -/
def Token.isStruct : Token → Bool
  | .ident i => i.text == "struct"
  | _ => false

/-- Whether code declares no struct, apart from what stands in its blocks. -/
def NoStruct (ts : Tokens) : Prop := ∀ t ∈ ts, t.isStruct = false

/-- There is no struct in two pieces of code if there is none in either. -/
theorem noStruct_append {ts us : Tokens} : NoStruct (ts ++ us) ↔ NoStruct ts ∧ NoStruct us :=
  List.forall_mem_append

/-- There is no struct in code that is put together of pieces without one. -/
theorem noStruct_flatMap {α : Type} {as : List α} {f : α → Tokens}
    (h : ∀ a ∈ as, NoStruct (f a)) : NoStruct (as.flatMap f) := by
  intro t ht
  obtain ⟨a, ha, hta⟩ := List.mem_flatMap.1 ht
  exact h a ha t hta

/-- A group is no struct, whatever stands in it. -/
theorem noStruct_braces (body : Tokens) : NoStruct (braces body) := by
  intro t ht
  rw [List.mem_singleton.1 ht]
  rfl

/-- A block that starts with a fixed text and a name. -/
theorem noStruct_block {start : Tokens} {name : Ident} {body : Tokens}
    (hstart : NoStruct start) (hname : name.text ≠ "struct") :
    NoStruct (start ++ [.ident name] ++ braces body) := by
  refine noStruct_append.2 ⟨noStruct_append.2 ⟨hstart, fun t ht => ?_⟩, noStruct_braces _⟩
  rw [List.mem_singleton.1 ht]
  exact beq_false_of_ne hname

/-- What stands before the names and groups in the code beside a record, and in diagnostics. -/
def fixedStarts : List String :=
  ["impl", ":: core :: compile_error !", "impl :: serde :: Serialize for",
    "impl < 'de > :: serde :: Deserialize < 'de > for", "impl :: core :: str :: FromStr for",
    "impl :: core :: fmt :: Display for"]

/-- None of it declares a struct. -/
theorem noStruct_start {start : String} (h : start ∈ fixedStarts) : NoStruct (code start) := by
  have hstarts : ∀ s ∈ fixedStarts, NoStruct (code s) := by
    unfold NoStruct
    decide +kernel
  exact hstarts start h

/-- The block of the members is no struct. -/
theorem noStruct_memberBlock {name : Ident} (ds : List Declaration) (hname : name.text ≠ "struct") :
    NoStruct (Declaration.memberBlock name ds) := by
  unfold Declaration.memberBlock
  dsimp only
  split
  · exact fun t ht => absurd ht List.not_mem_nil
  · exact noStruct_block (noStruct_start (by simp [fixedStarts])) hname

/-- Diagnostics are no structs. -/
theorem noStruct_compileErrors (r : Report) : NoStruct r.compileErrors := by
  exact noStruct_flatMap fun d _ =>
    noStruct_append.2 ⟨noStruct_start (by simp [fixedStarts]), noStruct_braces _⟩

namespace RecordDeclaration

variable {m : RecordDeclaration}

/-- What stands beside a record are implementations of traits. -/
theorem noStruct_of_mem_declarations (hname : m.typeName.text ≠ "struct") {d : Declaration}
    (hd : d ∈ m.declarations) (hbeside : d.placement = .beside) : NoStruct d.tokens := by
  obtain ⟨member, -, rfl⟩ | hd := mem_declarations_iff.1 hd
  · cases hbeside
  · simp only [implementations, stringForms, List.mem_append, List.mem_cons, List.not_mem_nil,
      or_false] at hd
    rcases hd with (rfl | rfl) | rfl | rfl <;>
      exact noStruct_block (noStruct_start (by simp [fixedStarts])) hname

/-- **The code of a record** is put behind its struct, which stays as it is. -/
theorem exists_withDeclarations_eq {s : StructItem} (hname : s.name.text ≠ "struct")
    (htype : m.typeName = s.name) : ∃ behind,
      s.withDeclarations m.declarations = .ok (s.tokens ++ behind) ∧ NoStruct behind := by
  obtain ⟨missing, hcode⟩ := withDeclarations_of_implementations s
    fun t ht => means_of_mem_provides (m := m) ht
  refine ⟨_, hcode, noStruct_append.2
    ⟨noStruct_memberBlock m.declarations hname, noStruct_flatMap fun d hd => ?_⟩⟩
  obtain ⟨hmem, hbeside⟩ := List.mem_filter.1 (List.mem_of_mem_filter hd)
  exact noStruct_of_mem_declarations (htype ▸ hname) hmem (eq_of_beq hbeside)

end RecordDeclaration

namespace Output

/-- A record is expanded as it is by itself. -/
theorem ofRecord_of_yields {args : Tokens} {item : Item} {o : Output}
    (h : (Request.record args item).Yields o) : ofRecord args item = .ok o.tokens := by
  refine bind_eq_ok_iff.2 ⟨o, ofRequests_eq_ok_iff.2 ⟨[o], .cons h .nil, ?_⟩, rfl⟩
  simp [joined]

/-- **The struct that a record leaves** stands in the output once, at its beginning, accepted or
not, and all that it has lost are directives of its fields.  Those of named fields it has lost, but
those in a tuple it has kept. -/
theorem struct_of_ofRecord (args : Tokens) (s : StructItem)
    (fields : ∀ j ∈ (Item.struct s).fieldNames, isIdentifier j.name.toList = true)
    (name : s.name.text ≠ "struct") :
    ∃ behind, ofRecord args (.struct s) = .ok (s.stripped.tokens ++ behind) ∧ NoStruct behind ∧
      (∀ inside o c, s.fields = .tuple inside o c → s.stripped = s) ∧
      (s.stripped = s.undirected ↔
        ∀ inside o c, s.fields = .tuple inside o c → ∀ f ∈ inside, f.IsUndirected) := by
  have hstruct : ∃ behind,
      ofRecord args (.struct s) = .ok (s.stripped.tokens ++ behind) ∧ NoStruct behind := by
    cases hjudged : RecordDeclaration.ofItem args (.struct s) with
    | error ds =>
      exact ⟨_, ofRecord_of_yields (.failedStruct hjudged), noStruct_compileErrors _⟩
    | ok d =>
      obtain ⟨ts, hts⟩ := RecordDeclaration.exists_expanded_of_ofItem hjudged fields
      have houtput := ofRecord_of_yields (.record hjudged hts)
      obtain ⟨-, inside, -, rfl⟩ := RecordDeclaration.ofItem_struct_eq_ok_iff_declares.1 hjudged
      obtain ⟨-, -, hcode⟩ := bind_eq_ok_iff.1 hts
      obtain ⟨behind, hbehind, hno⟩ := RecordDeclaration.exists_withDeclarations_eq
        (m := RecordDeclaration.declared s inside) (s := s.stripped)
        (by rwa [StructItem.name_stripped]) StructItem.name_stripped.symm
      obtain rfl := Except.ok.inj (hcode.symm.trans hbehind)
      exact ⟨behind, houtput.trans (congrArg Except.ok (List.append_nil _)), hno⟩
  obtain ⟨behind, hbehind, hno⟩ := hstruct
  exact ⟨behind, hbehind, hno, fun _ _ _ => StructItem.stripped_of_tuple,
    StructItem.stripped_eq_undirected_iff⟩

/-- A tuple with one field, which is to be skipped. -/
def skippedInTuple : StructItem :=
  let directive : Attribute := {
    mark := [.punct '#' .alone .none]
    path := ⟨false, [{ name := { name := FieldSettings.attributeName } }],
      named FieldSettings.attributeName⟩
    args := .list .parenthesis (named "skip") .none .none
    opening := .none
    closing := .none }
  let field : Field := {
    attributes := [directive]
    visibility := []
    name := none
    colon := []
    type := { shape := .other, tokens := named "u8" }
    separator := [] }
  { RecordDeclaration.structOf [] with
    fields := .tuple [field] .none .none, semicolon := [.punct ';' .alone .none] }

/-- A tuple is no record, and its struct stands in the output with the directive of its field. -/
theorem struct_of_skippedInTuple : ∃ behind,
    ofRecord [] (.struct skippedInTuple) = .ok (skippedInTuple.tokens ++ behind) ∧
      NoStruct behind ∧ skippedInTuple.stripped ≠ skippedInTuple.undirected := by
  obtain ⟨behind, houtput, hno, hkept, hgone⟩ :=
    struct_of_ofRecord [] skippedInTuple nofun (by decide)
  rw [hkept _ _ _ rfl] at houtput
  refine ⟨behind, houtput, hno, fun heq => ?_⟩
  have hundirected := hgone.1 heq _ _ _ rfl _ List.mem_cons_self _ List.mem_cons_self
  revert hundirected
  decide

end Output
end Boilerplate
