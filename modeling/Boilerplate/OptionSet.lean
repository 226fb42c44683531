/-
# Option sets

`src/decl/extract` (`extract_flag_list`) and `SPEC_FULL.md` §4.1, with `FlagListModel` of §3.

What a declaration says about an option set (`OptionSet`), and everything that can be wrong with it:
`OptionSet.ofWritten` reports all problems of a declaration at once, in the order of its parts.
-/

import Boilerplate.Directive
import Boilerplate.OptionCase
import Boilerplate.OptionSet.Written

namespace Boilerplate

/-- The declaration of an option set. -/
structure OptionSet where
  typeName : Ident
  visibility : Tokens
  storage : TypeExpr
  /-- The cases in declaration order; each owns the bit of its position. -/
  cases : List Ident
  attributes : List Attribute
  /-- The items of the body that do not list the cases. -/
  carried : List Item
deriving Repr, Inhabited

namespace OptionSet

/-- The name of the directive that declares an option set. -/
def directiveName : String := "option_set"

/-- The constant that no case may map to, since it lists them all. -/
def reservedConstant : String := "OPTION_NAMES"

/-- Cases that have been judged one by one. -/
structure CaseDraft where
  /-- The cases that are kept. -/
  cases : List Ident := []
  /-- The constants that these map to. -/
  constants : List String := []
  diagnostics : List Diagnostic := []
deriving Repr, Inhabited

namespace CaseDraft

/-- What is wrong with the shape of a case, which has neither data nor a value. -/
def shape (v : Variant) : List Diagnostic :=
  (if v.fields.isUnit then [] else [⟨.optionCaseHasData v.name.text, v.fields.span⟩]) ++
    (match v.discriminant with
     | some (_, e) => [⟨.optionCaseHasDiscriminant v.name.text, e.tokens.span⟩]
     | none => [])

/-- Judges one more case.  Different spellings may map to one constant, and only the first of them
is kept. -/
def add (d : CaseDraft) (v : Variant) : Except BadName CaseDraft := do
  let case ← OptionCase.ofIdent v.name d.cases.length
  let constant := case.constant.text
  let diagnostics := d.diagnostics ++ shape v
  if constant == reservedConstant then
    return { d with diagnostics := diagnostics ++ [⟨.reservedOptionName v.name.text, v.name.span⟩] }
  else if d.constants.contains constant then
    return { d with diagnostics := diagnostics ++ [⟨.duplicateOption v.name.text, v.name.span⟩] }
  else return ⟨d.cases ++ [v.name], d.constants ++ [constant], diagnostics⟩

/-- The draft of the cases that an enum lists. -/
def ofVariants (vs : List Variant) : Except BadName CaseDraft := vs.foldlM add {}

end CaseDraft

/-- The enum that an item of the body lists the cases in, if its name is the given one. -/
def caseList? (options : String) : Item → Option EnumItem
  | .enum e => if e.name.text == options then some e else none
  | _ => none

/-- What is wrong with a struct that has no list of cases of the expected name.  If the directive
gives the name, that is what is wrong. -/
def noCaseList (s : StructWithItems) (directive : Option Directive) (options : String) :
    Diagnostic :=
  let given := directive.filter fun d => d.options != Directive.defaultOptions
  ⟨.requiresOptionsEnum options, (given.map (·.optionsSpan)).getD s.name.span⟩

/-- Judges the cases of a struct. -/
def judgeCases (s : StructWithItems) (directive : Option Directive) (options : String) :
    Except BadName CaseDraft :=
  match s.items.findSome? (caseList? options) with
  | none => .ok { diagnostics := [noCaseList s directive options] }
  | some e =>
    if e.variants.isEmpty then .ok { diagnostics := [⟨.emptyOptions options, e.name.span⟩] }
    else CaseDraft.ofVariants e.variants

/-- Cases need a bit each. -/
def judgeWidth (storage : TypeExpr) (count : Nat) : List Diagnostic :=
  match storage.bits? with
  | some bits =>
    if bits < count then
      [⟨.tooManyOptions count bits storage.tokens.print, storage.tokens.span⟩]
    else []
  | none => []

/-- An option set has no parameters. -/
def judgeGenerics (s : StructWithItems) : List Diagnostic :=
  if !s.generics.isEmpty || s.hasWhere then
    [⟨.unsupportedGenerics, s.generics.tokens.span⟩]
  else []

/-- Whether the attribute is the directive of an option set. -/
def isDirective (a : Attribute) : Bool := a.path.isIdent directiveName

/-- The option set that a struct declares, or all that is wrong with the struct. -/
def ofStruct (s : StructWithItems) : Except BadName (Except (List Diagnostic) OptionSet) := do
  let result := Directive.ofAttribute? (s.attributes.find? isDirective) s.name.span
  let directive := result.toOption
  let aboutDirective := match result with
    | .error ds => ds
    | .ok _ => []
  let options := (directive.map (·.options)).getD Directive.defaultOptions
  let draft ← judgeCases s directive options
  let aboutWidth := (directive.map fun d => judgeWidth d.storage draft.cases.length).getD []
  let diagnostics := aboutDirective ++ judgeGenerics s ++ draft.diagnostics ++ aboutWidth
  match directive, diagnostics with
  | some d, [] =>
    return .ok {
      typeName := s.name
      visibility := s.visibility
      storage := d.storage
      cases := draft.cases
      attributes := s.attributes.filter (!isDirective ·)
      carried := s.items.filter fun i => (caseList? d.options i).isNone }
  | _, _ => return .error diagnostics

/-- The option set that is declared, or all that is wrong with the declaration. -/
def ofWritten : WrittenSet → Except BadName (Except (List Diagnostic) OptionSet)
  | .struct s => ofStruct s
  | .other item => .ok (.error [⟨.requiresStruct, item.nameSpan⟩])

end OptionSet
end Boilerplate
