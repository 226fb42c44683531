/-
# Declarations of records

`src/decl/extract` (`extract_field_list`, `is_option`) and `SPEC_FULL.md` §4.1.

What a struct under `#[persistable]` says about a record, and everything that can be wrong with it:
`RecordDeclaration.ofItem` reports all problems at once.  Skipped fields are transient.  No alias
may be the key of a field, and no alias may be given twice.
-/

import Boilerplate.FieldSettings

namespace Boilerplate

/-- The declaration of a record. -/
structure RecordDeclaration extends RecordShape TypeExpr Expr where
  visibility : Tokens
  /-- The struct without the directives of its fields. -/
  cleaned : StructItem
deriving Repr, Inhabited

/-- Whether the type is `Option<…>`, by itself or from the standard library. -/
def TypeExpr.isOption (t : TypeExpr) : Bool :=
  match t.shape with
  | .path p =>
    let isOptionSegment := fun (s : PathSegment) =>
      s.name.text == "Option" && s.arguments == .angled
    match p.segments with
    | [s] => isOptionSegment s
    | [a, b, s] =>
      (a.name.text == "std" || a.name.text == "core") && b.name.text == "option" &&
        isOptionSegment s
    | _ => false
  | _ => false

namespace RecordDeclaration

/-- The fields of a struct, told apart. -/
structure FieldDraft where
  fields : List (StoredField TypeExpr Expr) := []
  transient : List (TransientField Expr) := []
  diagnostics : List Diagnostic := []
deriving Repr, Inhabited

/-- Judges one more field. -/
def FieldDraft.add (d : FieldDraft) (f : Field) : FieldDraft :=
  match f.name with
  | none => d
  | some name =>
    let (directive, diagnostics) := FieldSettings.ofAttributes f.attributes
    let d := { d with diagnostics := d.diagnostics ++ diagnostics }
    if directive.skip then
      { d with transient := d.transient ++ [{ name, default? := directive.default? }] }
    else
      let field : StoredField TypeExpr Expr :=
        { name, type := f.type, isOptional := f.type.isOption, default? := directive.default?,
          legacy := directive.legacy }
      { d with fields := d.fields ++ [field] }

/-- What is wrong with one alias of a field, and the keys that are taken after it. -/
def judgeAlias (key : String) (taken : List String) (l : FormerKey) :
    List String × List Diagnostic :=
  if l.key == key then (taken, [⟨.legacyKeyMatchesName l.key, l.span⟩])
  else if taken.contains l.key then (taken, [⟨.duplicateKey l.key, l.span⟩])
  else (l.key :: taken, [])

/-- What is wrong with aliases, each with the key of its field, when these keys are taken. -/
def judgeAliases (taken : List String) : List (String × FormerKey) → List Diagnostic
  | [] => []
  | (key, l) :: rest =>
    let (taken, now) := judgeAlias key taken l
    now ++ judgeAliases taken rest

/-- What is wrong with the aliases of the fields. -/
def judgeKeys (fields : List (StoredField TypeExpr Expr)) : List Diagnostic :=
  judgeAliases (fields.map (·.key)) (fields.flatMap fun f => f.legacy.map fun l => (f.key, l))

/-- What is wrong with the parameters of a struct, which a record does not have. -/
def judgeGenerics (s : StructItem) : List Diagnostic :=
  if s.generics.isEmpty then [] else [⟨.unsupportedGenerics, s.generics.tokens.span⟩]

/-- The record with these fields that a struct declares, or all that is wrong with it. -/
def ofFields (before : List Diagnostic) (s : StructItem) (fields : List Field) :
    Except (List Diagnostic) RecordDeclaration :=
  let draft := fields.foldl FieldDraft.add {}
  match before ++ draft.diagnostics ++ judgeKeys draft.fields with
  | [] => .ok {
      typeName := s.name
      isUnit := s.fields.isUnit
      fields := draft.fields
      transient := draft.transient
      visibility := s.visibility
      cleaned := s.stripped }
  | diagnostics => .error diagnostics

/-- The record that an item declares under a directive with these arguments, or all that is wrong
with them. -/
def ofItem (args : Tokens) (item : Item) : Except (List Diagnostic) RecordDeclaration :=
  let aboutArgs := if args.isEmpty then [] else refuseArguments args
  match item with
  | .struct s =>
    let before := aboutArgs ++ judgeGenerics s
    match s.fields with
    | .named fields _ _ => ofFields before s fields
    | .unit => ofFields before s []
    | .tuple .. => .error (before ++ [⟨.requiresNamedFields, s.fields.span⟩])
  | _ => .error (aboutArgs ++ [⟨.requiresStruct, item.nameSpan⟩])

end RecordDeclaration
end Boilerplate
