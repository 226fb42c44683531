/-
# The directives of declarations

`src/decl/args` (`DirectiveOpts`, `parse_persistable_args`) and `SPEC_FULL.md` §4.1.

`#[option_set(u8, options = "Kind")]` names the storage type of an option set and the enum that
lists its cases; `#[persistable]` has no arguments.  Both are read as types and pairs `name = value`
in any order, and then judged.
-/

import Boilerplate.Diagnostic
import Boilerplate.Grammar
import Boilerplate.Token.Printer

namespace Boilerplate

/-- An argument of a directive. -/
inductive DirectiveArg
  | storage (type : TypeExpr)
  | named (name : Ident) (value : Expr)
deriving Repr, Inhabited

namespace DirectiveArg

open Boilerplate.Parser

/-- Arguments with commas between them. -/
def parser (g : Grammar) : Parser (List DirectiveArg) := do
  let args ← separated List.isEmpty "," do
    if ← sees fun ts => Look.name ts && Look.second (Look.op "=") ts then
      let label ← name
      let _ ← op "="
      return .named label (← g.expr true)
    else return .storage (← g.type true)
  return args.map (·.1)

/-- The arguments that the tokens are, if they are arguments and nothing else. -/
def listOfTokens (ts : Tokens) : Except SyntaxError (List DirectiveArg) := Grammar.read parser ts

end DirectiveArg

/-- The arguments of an option set's directive. -/
structure Directive where
  storage : TypeExpr
  /-- The enum that lists the cases. -/
  options : String := "Options"
  /-- Where that enum is named: the value of the argument, or else the whole directive. -/
  optionsSpan : Span
deriving Repr, Inhabited

/-- Arguments that have been judged one by one. -/
structure DirectiveDraft where
  storage : Option TypeExpr := none
  options : String
  optionsSpan : Span
  diagnostics : List Diagnostic := []
deriving Repr, Inhabited

namespace DirectiveDraft

/-- One more problem of the directive, told at this place. -/
def complain (d : DirectiveDraft) (p : Problem) (span : Span) : DirectiveDraft :=
  { d with diagnostics := d.diagnostics ++ [⟨p, span⟩] }

/-- Judges one more argument.  A second storage type is refused; a second name for the enum replaces
the first. -/
def add (d : DirectiveDraft) : DirectiveArg → DirectiveDraft
  | .storage t =>
    if d.storage.isNone then { d with storage := some t }
    else d.complain (.malformedDirective "only one raw storage type may be given") t.tokens.span
  | .named name value =>
    if name.text == "options" then
      match value.stringLiteral? with
      | some s => { d with options := s, optionsSpan := value.tokens.span }
      | none => d.complain (.expectedStringLiteral name.text) value.tokens.span
    else d.complain (.unknownArgument name.text) name.span

end DirectiveDraft

namespace Directive

/-- The enum that lists the cases if the directive names none. -/
def defaultOptions : String := "Options"

/-- The directive at the given place with these arguments. -/
def ofArgs (args : List DirectiveArg) (span : Span) : Except (List Diagnostic) Directive :=
  let start : DirectiveDraft := { options := defaultOptions, optionsSpan := span }
  let d := args.foldl DirectiveDraft.add start
  match d.storage, d.diagnostics with
  | none, _ => .error (d.complain .requiresOptionsEnumRawType span).diagnostics
  | some storage, [] => .ok { storage, options := d.options, optionsSpan := d.optionsSpan }
  | some _, diagnostics => .error diagnostics

/-- The directive with these tokens for arguments; what cannot be read is one diagnostic. -/
def ofTokens (ts : Tokens) (span : Span) : Except (List Diagnostic) Directive :=
  match DirectiveArg.listOfTokens ts with
  | .ok args => ofArgs args span
  | .error e => .error [.ofSyntaxError e]

/-- The directive on a declaration that is named at `host`, if it has one. -/
def ofAttribute? (attr : Option Attribute) (host : Span) : Except (List Diagnostic) Directive :=
  match attr with
  | none => .error [⟨.requiresOptionsEnumRawType, host⟩]
  | some a =>
    match a.args with
    | .none => ofTokens [] a.span
    | .list _ ts _ _ => ofTokens ts a.span
    | .value .. => .error [⟨.requiresOptionsEnumRawType, a.content.span⟩]

end Directive

/-- What is wrong with the arguments of a directive that takes none. -/
def refuseArguments (ts : Tokens) : List Diagnostic :=
  match DirectiveArg.listOfTokens ts with
  | .error e => [.ofSyntaxError e]
  | .ok args => args.map fun
    | .named name _ => ⟨.unknownArgument name.text, name.span⟩
    | .storage t => ⟨.unknownArgument t.tokens.print, t.tokens.span⟩

/-- The bits of a fixed-width integer type.  The width of `usize` is not fixed. -/
def TypeExpr.bits? (t : TypeExpr) : Option Nat :=
  match t.shape with
  | .path p =>
    match p.ident?.map Ident.text with
    | some "u8" | some "i8" => some 8
    | some "u16" | some "i16" => some 16
    | some "u32" | some "i32" => some 32
    | some "u64" | some "i64" => some 64
    | some "u128" | some "i128" => some 128
    | _ => none
  | _ => none

end Boilerplate
