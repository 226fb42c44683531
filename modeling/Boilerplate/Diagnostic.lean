/-
# Diagnostics

`src/diagnostic` (`DiagnosticKind`, `Diagnostic`, `Sink`) and `SPEC_FULL.md` §4.2, §7.

What can be wrong with a declaration, and where.  Every diagnostic has an identifier that does not
change with the wording of its message.  A declaration with a diagnostic is not expanded; the
diagnostics of all declarations are gathered in a `Report` and end up as calls of `compile_error`.
-/

import Boilerplate.Code
import Boilerplate.Grammar.Failure

namespace Boilerplate

/-- What is wrong with a declaration. -/
inductive Problem
  | requiresStruct
  | requiresNamedFields
  | requiresOptionsEnum (options : String)
  | optionCaseHasData (case : String)
  | optionCaseHasDiscriminant (case : String)
  | duplicateOption (case : String)
  | reservedOptionName (case : String)
  | unsupportedGenerics
  | tooManyOptions (count bits : Nat) (storage : String)
  | requiresOptionsEnumRawType
  | expectedStringLiteral (argument : String)
  | unknownArgument (argument : String)
  | legacyKeyMatchesName (key : String)
  | duplicateKey (key : String)
  | conflictingFieldArguments
  | malformedDirective (complaint : String)
  | emptyOptions (options : String)
deriving DecidableEq, Repr, Inhabited

namespace Problem

/-- What the problem is called, whatever it is about. -/
def name : Problem → String
  | requiresStruct => "requiresStruct"
  | requiresNamedFields => "requiresNamedFields"
  | requiresOptionsEnum _ => "requiresOptionsEnum"
  | optionCaseHasData _ => "optionCaseHasData"
  | optionCaseHasDiscriminant _ => "optionCaseHasDiscriminant"
  | duplicateOption _ => "duplicateOption"
  | reservedOptionName _ => "reservedOptionName"
  | unsupportedGenerics => "unsupportedGenerics"
  | tooManyOptions .. => "tooManyOptions"
  | requiresOptionsEnumRawType => "requiresOptionsEnumRawType"
  | expectedStringLiteral _ => "expectedStringLiteral"
  | unknownArgument _ => "unknownArgument"
  | legacyKeyMatchesName _ => "legacyKeyMatchesName"
  | duplicateKey _ => "duplicateKey"
  | conflictingFieldArguments => "conflictingFieldArguments"
  | malformedDirective _ => "malformedDirective"
  | emptyOptions _ => "emptyOptions"

/-- The identifier of the problem, which stays the same when its message is worded anew. -/
def id (p : Problem) : String := "shapegen." ++ p.name

/-- What the author is told of the problem. -/
def message : Problem → String
  | requiresStruct => "this directive can only be applied to a struct"
  | requiresNamedFields => inBackquotes "#[persistable]" ++ " requires a struct with named fields"
  | requiresOptionsEnum o =>
    "option set requires a nested " ++ inBackquotes ("enum " ++ o) ++ " listing its cases"
  | optionCaseHasData c => "option case " ++ inBackquotes c ++ " cannot carry associated data"
  | optionCaseHasDiscriminant c =>
    "option case " ++ inBackquotes c ++
      " cannot have an explicit discriminant; its bit is its position"
  | duplicateOption c =>
    "option case " ++ inBackquotes c ++ " maps to the same constant as an earlier case"
  | reservedOptionName c =>
    "option case " ++ inBackquotes c ++ " would collide with the generated " ++
      inBackquotes "OPTION_NAMES" ++ " constant"
  | unsupportedGenerics => "generic types are not supported by this directive"
  | tooManyOptions count bits storage =>
    Nat.repr count ++ " option cases do not fit in the " ++ Nat.repr bits ++ " bits of " ++
      inBackquotes storage
  | requiresOptionsEnumRawType =>
    "option set requires a raw storage type argument, e.g. " ++ inBackquotes "#[option_set(u8)]"
  | expectedStringLiteral a => inBackquotes a ++ " expects a string literal"
  | unknownArgument a => "unknown argument " ++ inBackquotes a
  | legacyKeyMatchesName k => "legacy key " ++ inBackquotes k ++ " is the field's own name"
  | duplicateKey k => "key " ++ inBackquotes k ++ " is already used by another field"
  | conflictingFieldArguments =>
    inBackquotes "skip" ++ " cannot be combined with " ++ inBackquotes "legacy"
  | malformedDirective complaint => complaint
  | emptyOptions o =>
    inBackquotes ("enum " ++ o) ++ " declares no cases; an option set needs at least one"

end Problem

/-- A problem and the place in the source that it is told of. -/
structure Diagnostic where
  problem : Problem
  span : Span
deriving DecidableEq, Repr, Inhabited

namespace Diagnostic

/-- The message with the identifier behind it. -/
def text (d : Diagnostic) : String := d.problem.message ++ " [" ++ d.problem.id ++ "]"

/-- A failure to read the arguments of a directive. -/
def ofSyntaxError (e : SyntaxError) : Diagnostic := ⟨.malformedDirective e.message, e.span⟩

end Diagnostic

/-- A call that makes compilation fail with the message. -/
def compileError (message : String) : Tokens :=
  code ":: core :: compile_error !" ++ braces (quoted message)

/-- The diagnostics of several declarations, in the order in which they were found. -/
structure Report where
  diagnostics : List Diagnostic := []
deriving DecidableEq, Repr, Inhabited

namespace Report

/-- The report with more diagnostics at its end. -/
def extend (r : Report) (ds : List Diagnostic) : Report := ⟨r.diagnostics ++ ds⟩

/-- Whether nothing is reported. -/
def isEmpty (r : Report) : Bool := r.diagnostics.isEmpty

/-- One call of `compile_error` for each diagnostic, in their order. -/
def compileErrors (r : Report) : Tokens := r.diagnostics.flatMap fun d => compileError d.text

end Report
end Boilerplate
