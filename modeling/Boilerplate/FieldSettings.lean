/-
# The directives of fields

`src/decl/attrs` (`FieldDirective`, `parse_field_attrs`, `strip_field_attrs`) and `SPEC_FULL.md`
§4.1.

A field's `#[persist(…)]` attributes say that it is skipped, which value it has by default, and
under which older keys it may be stored.  Arguments are read one by one; what cannot be read ends
its attribute, and what was read before it counts.
-/

import Boilerplate.Directive
import Boilerplate.RecordShape

namespace Boilerplate

/-- An argument of a field's directive. -/
inductive FieldArg
  | skip
  | default (value : Expr)
  | legacy (key : Expr)
  | unknown (name : String) (span : Span)
deriving Repr, Inhabited

namespace FieldArg

open Boilerplate.Parser

/-- The path that an argument starts with, of identifiers and keywords. -/
def path : Parser Path := do
  let root ← op? "::"
  if !(← sees Look.anyIdent) then
    if ← atEnd then expected ["nested attribute"]
    let what := if ← sees Look.literal then "literal" else "token"
    complain (.other ("unexpected " ++ what ++ " in nested attribute, expected ident"))
  let first ← anyIdent
  let more ← whileSees (Look.op "::") do return (← op "::", ← anyIdent)
  return ⟨!root.isEmpty, { name := first } :: more.map fun (_, i) => { name := i },
    root ++ [.ident first] ++ more.flatMap fun (s, i) => s ++ [.ident i]⟩

/-- The value of an argument. -/
def value (g : Grammar) : Parser Expr := do
  let _ ← op "="
  g.expr true

/-- What follows the name of an unknown argument: a value, or arguments in parentheses. -/
def skipValue (g : Grammar) : Parser Unit := do
  if ← sees (Look.op "=") then
    let _ ← value g
  else if ← sees Look.paren then
    let _ ← token

/-- An argument behind its path: what is known of it before its value is read, and the reader of the
rest. -/
def behind (g : Grammar) (p : Path) : List FieldArg × Parser (List FieldArg) :=
  if p.isIdent "skip" then ([.skip], pure [])
  else if p.isIdent "default" then ([], do return [.default (← value g)])
  else if p.isIdent "legacy" then ([], do return [.legacy (← value g)])
  else
    ([.unknown ((p.ident?.map Ident.text).getD "?") p.tokens.span], do
      skipValue g
      return [])

/-- Reads arguments up to the end or to the first complaint. -/
def readAll (g : Grammar) : Nat → Input → List FieldArg × Option SyntaxError
  | 0, _ => ([], none)
  | n + 1, inp =>
    match path inp with
    | .error e => ([], some e)
    | .ok (p, inp) =>
      let (known, rest) := behind g p
      match rest inp with
      | .error e => (known, some e)
      | .ok (args, inp) =>
        let found := known ++ args
        if inp.rest.isEmpty then (found, inp.leftover)
        else match op "," inp with
          | .error e => (found, some e)
          | .ok (_, inp) =>
            if inp.rest.isEmpty then (found, inp.leftover)
            else
              let (more, complaint) := readAll g n inp
              (found ++ more, complaint)

/-- The arguments of one attribute, and the complaint that ends them. -/
def ofAttribute (a : Attribute) : List FieldArg × Option SyntaxError :=
  let form := "#[" ++ (a.path.tokens).print ++ "(...)]"
  match a.args with
  | .none => ([], some ⟨.other ("expected attribute arguments in parentheses: " ++ form),
      a.path.tokens.span⟩)
  | .value equals _ => ([], some ⟨.other ("expected parentheses: " ++ form), equals.span⟩)
  | .list _ ts _ finish =>
    if ts.isEmpty then ([], none)
    else readAll (Grammar.forTokens ts) (ts.length + 1) { rest := ts, finish }

end FieldArg

/-- What the attributes of a field say about it. -/
structure FieldSettings where
  skip : Bool := false
  default? : Option Expr := none
  legacy : List FormerKey := []
deriving Repr, Inhabited

namespace FieldSettings

/-- The directive with one more argument, and what is wrong with the argument. -/
def add (d : FieldSettings) : FieldArg → FieldSettings × List Diagnostic
  | .skip => ({ d with skip := true }, [])
  | .default e => ({ d with default? := some e }, [])
  | .legacy e =>
    match e.stringLiteral? with
    | some key => ({ d with legacy := d.legacy ++ [⟨key, e.tokens.span⟩] }, [])
    | none => (d, [⟨.expectedStringLiteral "legacy", e.tokens.span⟩])
  | .unknown name span => (d, [⟨.unknownArgument name, span⟩])

/-- The directive with more arguments, and what is wrong with these. -/
def addAll (d : FieldSettings) : List FieldArg → FieldSettings × List Diagnostic
  | [] => (d, [])
  | a :: as =>
    let (d, now) := d.add a
    let (d, later) := d.addAll as
    (d, now ++ later)

/-- The name of a field's directive. -/
def attributeName : String := "persist"

/-- Whether the attribute belongs to a field's directive. -/
def isDirective (a : Attribute) : Bool := a.path.isIdent attributeName

/-- The directive with the arguments of more attributes, and what is wrong with these. -/
def addAttributes (d : FieldSettings) : List Attribute → FieldSettings × List Diagnostic
  | [] => (d, [])
  | a :: as =>
    if isDirective a then
      let (args, complaint) := FieldArg.ofAttribute a
      let (d, now) := d.addAll args
      let (d, later) := d.addAttributes as
      (d, now ++ (complaint.toList.map Diagnostic.ofSyntaxError) ++ later)
    else d.addAttributes as

/-- A field that is skipped is not stored, under an older key as little as under its own. -/
def conflict (d : FieldSettings) : List Diagnostic :=
  match d.skip, d.legacy with
  | true, l :: _ => [⟨.conflictingFieldArguments, l.span⟩]
  | _, _ => []

/-- What the attributes of a field say, and what is wrong with them. -/
def ofAttributes (as : List Attribute) : FieldSettings × List Diagnostic :=
  let (d, diagnostics) := addAttributes {} as
  (d, diagnostics ++ d.conflict)

end FieldSettings

/-- The struct without the directives of its named fields. -/
def StructItem.stripped (s : StructItem) : StructItem :=
  match s.fields with
  | .named fields o c =>
    let strip := fun (f : Field) =>
      { f with attributes := f.attributes.filter (!FieldSettings.isDirective ·) }
    { s with fields := .named (fields.map strip) o c }
  | _ => s

end Boilerplate
