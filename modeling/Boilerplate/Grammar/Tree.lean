/-
# Parsed source

The nodes of `syn` that `src/decl` asks about.

What is known of source text after parsing.  Types, expressions and most items are kept as the
tokens they print as, with the few facts that are asked about them; structs, enums, attributes and
paths are taken apart.  Each node has `tokens`, its printed form, whose span is the node's span.
-/

import Boilerplate.Token.Scan

namespace Boilerplate

/-- What stands behind the name in a segment of a path. -/
inductive PathArguments
  | none
  | angled
  | parenthesized
deriving DecidableEq, Repr, Inhabited

/-- A name in a path with the arguments behind it. -/
structure PathSegment where
  name : Ident
  arguments : PathArguments := .none
deriving DecidableEq, Repr, Inhabited

/-- A path with its segments, and as it prints. -/
structure Path where
  /-- The path starts with `::`. -/
  rooted : Bool
  segments : List PathSegment
  tokens : Tokens
deriving Repr, Inhabited

namespace Path

/-- The path's identifier, if it is nothing else. -/
def ident? (p : Path) : Option Ident :=
  match p.rooted, p.segments with
  | false, [⟨name, .none⟩] => some name
  | _, _ => none

/-- Whether the path is this identifier alone. -/
def isIdent (p : Path) (w : String) : Bool := p.ident?.any (·.text == w)

/-- Whether the path is made of names only. -/
def isPlain (p : Path) : Bool := p.segments.all (·.arguments == .none)

end Path

/-- What is asked about a type: whether it is a path, and which one. -/
inductive TypeShape
  | path (p : Path)
  /-- Bounds without `dyn`; `single` if there is one, without a `+` behind it. -/
  | bounds (single : Bool)
  | other
deriving Repr, Inhabited

/-- A type, as it prints. -/
structure TypeExpr where
  shape : TypeShape
  tokens : Tokens
deriving Repr, Inhabited

/-- What is asked about an expression: the literal it is, and what may stand behind it. -/
inductive ExprShape
  | literal (l : Literal)
  | range
  | comparison
  /-- A block or a control structure, which ends a statement without a semicolon. -/
  | block
  /-- A macro call with braces. -/
  | bracedCall
  | other
deriving Repr, Inhabited

/-- An expression, as it prints. -/
structure Expr where
  shape : ExprShape
  tokens : Tokens
deriving Repr, Inhabited

/-- The text of a plain string literal. -/
def Expr.stringLiteral? (e : Expr) : Option String :=
  match e.shape with
  | .literal l => l.value?
  | _ => none

/-- What an attribute has behind its path. -/
inductive AttributeArgs
  | none
  /-- Unparsed arguments in brackets. -/
  | list (d : Delimiter) (args : Tokens) (opening closing : Span)
  | value (equals : Tokens) (value : Expr)
deriving Repr, Inhabited

/-- An attribute with its path, what it is given, and the places of its brackets. -/
structure Attribute where
  /-- `#`, and `!` if the attribute belongs to what it stands in. -/
  mark : Tokens
  path : Path
  args : AttributeArgs
  opening : Span
  closing : Span
deriving Repr, Inhabited

namespace AttributeArgs

/-- What stands behind the path of the attribute. -/
def tokens : AttributeArgs → Tokens
  | none => []
  | list d args o c => [.group d args o c]
  | value equals v => equals ++ v.tokens

end AttributeArgs

namespace Attribute

/-- What stands in the square brackets. -/
def content (a : Attribute) : Tokens := a.path.tokens ++ a.args.tokens

/-- The attribute as it prints. -/
def tokens (a : Attribute) : Tokens :=
  a.mark ++ [.group .bracket a.content a.opening a.closing]

/-- The place of the attribute. -/
def span (a : Attribute) : Span := Tokens.span a.tokens

end Attribute

/-- The attributes of a list, one behind the other. -/
def attributeTokens (as : List Attribute) : Tokens := as.flatMap Attribute.tokens

/-- The parameters in angle brackets, none if there are no brackets or nothing in them. -/
structure Generics where
  isEmpty : Bool := true
  tokens : Tokens := []
deriving Repr, Inhabited

/-- A field of a struct, a union or a variant, with what stands behind it in a list. -/
structure Field where
  attributes : List Attribute
  visibility : Tokens
  /-- The fields of a tuple have none. -/
  name : Option Ident
  colon : Tokens
  type : TypeExpr
  separator : Tokens
deriving Repr, Inhabited

/-- The field as it prints. -/
def Field.tokens (f : Field) : Tokens :=
  attributeTokens f.attributes ++ f.visibility ++ (f.name.toList.map Token.ident) ++ f.colon ++
    f.type.tokens ++ f.separator

/-- The fields of a struct or a variant, with the places of the brackets around them. -/
inductive Fields
  | unit
  | named (fields : List Field) (opening closing : Span)
  | tuple (fields : List Field) (opening closing : Span)
deriving Repr, Inhabited

namespace Fields

/-- The fields as they print. -/
def tokens : Fields → Tokens
  | unit => []
  | named fs o c => [.group .brace (fs.flatMap Field.tokens) o c]
  | tuple fs o c => [.group .parenthesis (fs.flatMap Field.tokens) o c]

/-- The place of the fields with their brackets. -/
def span (fs : Fields) : Span := Tokens.span fs.tokens

/-- Whether there are no brackets for fields. -/
def isUnit : Fields → Bool
  | unit => true
  | _ => false

end Fields

/-- A struct with its fields. -/
structure StructItem where
  attributes : List Attribute
  /-- The visibility and the keyword. -/
  visibility : Tokens
  keyword : Tokens
  name : Ident
  generics : Generics
  whereClause : Tokens
  fields : Fields
  semicolon : Tokens
deriving Repr, Inhabited

namespace StructItem

/-- The struct without its attributes; conditions on parameters stand before the fields if these are
in braces. -/
def declaration (s : StructItem) : Tokens :=
  s.visibility ++ s.keyword ++ [.ident s.name] ++ s.generics.tokens ++
    (match s.fields with
     | .tuple .. => s.fields.tokens ++ s.whereClause
     | _ => s.whereClause ++ s.fields.tokens) ++
    s.semicolon

/-- The struct as it prints, with its attributes. -/
def tokens (s : StructItem) : Tokens := attributeTokens s.attributes ++ s.declaration

end StructItem

/-- A case of an enum. -/
structure Variant where
  attributes : List Attribute
  name : Ident
  fields : Fields
  /-- `=` and the value. -/
  discriminant : Option (Tokens × Expr)
  separator : Tokens
deriving Repr, Inhabited

/-- The variant as it prints. -/
def Variant.tokens (v : Variant) : Tokens :=
  attributeTokens v.attributes ++ [.ident v.name] ++ v.fields.tokens ++
    (match v.discriminant with
     | some (equals, e) => equals ++ e.tokens
     | none => []) ++
    v.separator

/-- An enum with all that is written in front of its variants. -/
structure EnumItem where
  attributes : List Attribute
  visibility : Tokens
  keyword : Tokens
  name : Ident
  generics : Generics
  whereClause : Tokens
  variants : List Variant
  opening : Span
  closing : Span
deriving Repr, Inhabited

/-- The enum as it prints. -/
def EnumItem.tokens (e : EnumItem) : Tokens :=
  attributeTokens e.attributes ++ e.visibility ++ e.keyword ++ [.ident e.name] ++
    e.generics.tokens ++ e.whereClause ++
    [.group .brace (e.variants.flatMap Variant.tokens) e.opening e.closing]

/-- Items that are not taken apart. -/
inductive ItemKind
  | function
  | constant
  | other
deriving DecidableEq, Repr, Inhabited

/-- An item; structs and enums are taken apart, all others are kept as tokens. -/
inductive Item
  | struct (s : StructItem)
  | enum (e : EnumItem)
  /-- Any other item.  The name is that of a union, trait, function, module or type alias. -/
  | other (kind : ItemKind) (name : Option Ident) (tokens : Tokens)
deriving Repr, Inhabited

namespace Item

/-- The item as it prints. -/
def tokens : Item → Tokens
  | struct s => s.tokens
  | enum e => e.tokens
  | other _ _ ts => ts

/-- Where the item is named, or all of it if it has no name. -/
def nameSpan : Item → Span
  | struct s => s.name.span
  | enum e => e.name.span
  | other _ (some name) _ => name.span
  | other _ none ts => Tokens.span ts

end Item
end Boilerplate
