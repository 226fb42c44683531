/-
# The code of an option set

`src/bitmask` (`host_struct`, `generate`) and `SPEC_FULL.md` §4.3.

A struct around the raw bits (`rawStruct`), its members (`members`), and the traits it implements
(`implementations`).  Case `i` owns bit `i`; its constant has that bit and no other.  The items that
the declaration carries follow: functions and constants as members, all else beside the type.
-/

import Boilerplate.Declaration
import Boilerplate.OptionSet

namespace Boilerplate
namespace OptionSet

variable (m : OptionSet)

/-- The struct that holds the raw bits. -/
def rawStruct : StructItem where
  attributes := m.attributes
  visibility := m.visibility
  keyword := code "struct"
  name := m.typeName
  generics := {}
  whereClause := []
  fields := .named [{
    attributes := []
    visibility := []
    name := some { name := "raw_value" }
    colon := code ":"
    type := m.storage
    separator := code "," }] .none .none
  semicolon := []

/-- The traits that every option set derives. -/
def derivedTraits : List String := ["Clone", "Copy", "PartialEq", "Eq", "Hash"]

/-- The attribute `inline`. -/
def inline : Tokens := marked (code "inline")

/-- The constant of a case. -/
def constant (c : OptionCase) : Tokens := code "Self ::" ++ [.ident c.constant]

/-- A function that is evaluated at compile time if its arguments are known. -/
def constFunction (name signature : String) (result body : Tokens) : Member where
  name := name
  tokens := inline ++ m.visibility ++ code "const fn" ++ named name ++ code signature ++
    code "->" ++ result ++ braces body

/-- A function member, visible where the type is. -/
def function (name : String) (signature body : Tokens) : Member where
  name := name
  tokens := m.visibility ++ code "fn" ++ named name ++ signature ++ braces body

/-- A set with the given bits. -/
def bits (value : Tokens) : Tokens := code "Self" ++ braces (code "raw_value :" ++ value)

/-- The members that make sets of raw values and ask for these. -/
def rawMembers : List Member :=
  [Member.documented [" The empty set."] <|
      m.constFunction "new" "()" (code "Self") (bits (numeral 0)),
    Member.documented [" Wrap raw bits as they are, including bits no option owns."] <|
      { m.constFunction "from_raw_value" "" [] [] with
        tokens := inline ++ m.visibility ++ code "const fn from_raw_value" ++
          parens (code "raw_value :" ++ m.storage.tokens) ++ code "-> Self" ++
          braces (code "Self" ++ braces (code "raw_value")) },
    m.constFunction "raw_value" "(self)" m.storage.tokens (code "self . raw_value")]

/-- The constant of a case, documented by its name and bit. -/
def caseConstant (c : OptionCase) : Member where
  name := c.constant.text
  tokens :=
    let doc := "The " ++ inBackquotes c.display ++ " option, bit " ++
      inBackquotes ("1 << " ++ Nat.repr c.position) ++ "."
    marked (code "doc =" ++ quoted doc) ++ m.visibility ++ code "const" ++ [.ident c.constant] ++
      code ": Self =" ++ bits (code "1 <<" ++ numeral c.position) ++ code ";"

/-- The names of all options. -/
def nameList (cases : List OptionCase) : Member where
  name := reservedConstant
  tokens := docLine " Display names of every option, in declaration order." ++ m.visibility ++
    code "const" ++ named reservedConstant ++ code ": & 'static [& 'static str] = &" ++
    brackets (commaSeparated ((OptionCase.optionNames cases).map quoted)) ++ code ";"

/-- The members that compare, join and change sets. -/
def setMembers (cases : List OptionCase) : List Member :=
  let every := cases.flatMap fun c => code "|" ++ constant c ++ code ". raw_value"
  [Member.documented [" Every declared option."] <|
      m.constFunction "all" "()" (code "Self") (bits (numeral 0 ++ every)),
    m.constFunction "is_empty" "(self)" (code "bool") (code "self . raw_value == 0"),
    Member.documented [" `true` when every bit of `other` is set in `self`."] <|
      m.constFunction "contains" "(self , other : Self)" (code "bool")
        (code "(self . raw_value & other . raw_value) == other . raw_value"),
    m.constFunction "union" "(self , other : Self)" (code "Self")
      (bits (code "self . raw_value | other . raw_value")),
    m.constFunction "intersection" "(self , other : Self)" (code "Self")
      (bits (code "self . raw_value & other . raw_value")),
    m.constFunction "difference" "(self , other : Self)" (code "Self")
      (bits (code "self . raw_value & ! other . raw_value")),
    Member.documented [" Adds `other`; returns `false` if it was already fully present."] <|
      m.function "insert" (code "(& mut self , other : Self) -> bool")
        (code "let fresh = ! self . contains (other) ;" ++
          code "self . raw_value |= other . raw_value ; fresh"),
    Member.documented [" Removes `other`; returns `true` if any of its bits were set."] <|
      m.function "remove" (code "(& mut self , other : Self) -> bool")
        (code "let present = (self . raw_value & other . raw_value) != 0 ;" ++
          code "self . raw_value &= ! other . raw_value ; present"),
    Member.documented [" Contained single options, in declaration order."] <|
      m.function "iter" (code "(self) -> impl :: core :: iter :: Iterator < Item = Self >")
        (brackets (commaSeparated (cases.map constant)) ++
          code ". into_iter () . filter (move | flag | self . contains (* flag))")]

/-- Answers with the name of a case if the set is that case. -/
def nameLookup (c : OptionCase) : Tokens :=
  code "if self . raw_value ==" ++ constant c ++ code ". raw_value" ++
    braces (code "return" ++
      optionSome (code "if display" ++ braces (quoted c.display) ++ code "else" ++
        braces (quoted c.wire)) ++ code ";")

/-- Answers with a case if the text is one of its names. -/
def nameArm (c : OptionCase) : Tokens :=
  quoted c.display ++ (if c.display == c.wire then [] else code "|" ++ quoted c.wire) ++
    code "=>" ++ optionSome (constant c) ++ code ","

/-- Lists the name of a case if the set contains it. -/
def nameJoin (c : OptionCase) : Tokens :=
  code "if self . contains" ++ parens (constant c) ++
    braces (code "names . push" ++ parens (quoted c.display) ++ code ";")

/-- The members that go from sets to names and back. -/
def nameMembers (cases : List OptionCase) : List Member :=
  [Member.documented
      [" Name of a single option: the display form (`NextDay`) when `display` is set,",
        " the wire form (`next_day`) otherwise. `None` for empty or combined sets."] <|
      m.function "name"
        (code "(self , display : bool) -> :: core :: option :: Option < & 'static str >")
        (cases.flatMap nameLookup ++ optionNone),
    Member.documented [" Inverse of [`Self::name`]; accepts either spelling."] <|
      { m.function "from_name" [] [] with
        tokens := marked (code "allow (unreachable_patterns)") ++ m.visibility ++
          code "fn from_name (name : & str) -> :: core :: option :: Option < Self >" ++
          braces (code "match name" ++
            braces (cases.flatMap nameArm ++ code "_ =>" ++ optionNone ++ code ",")) },
    Member.documented
      [" Display names of the contained options in declaration order, joined by `\", \"`."] <|
      m.function "joined" (code "(self) -> :: std :: string :: String")
        (code "let mut names : :: std :: vec :: Vec < & 'static str > = :: std :: vec :: Vec ::" ++
          code "new () ;" ++ cases.flatMap nameJoin ++ code "names . join (\", \")")]

/-- The members that every option set with these cases has. -/
def members (cases : List OptionCase) : List Member :=
  m.rawMembers ++ cases.map m.caseConstant ++ [m.nameList cases] ++
    m.setMembers cases ++ m.nameMembers cases

/-- An implementation of a trait for the type. -/
def implement (path : Tokens) (trait : String) (body : Tokens) : Declaration :=
  .implementation trait
    (code "impl" ++ path ++ code "for" ++ [.ident m.typeName] ++ braces body)

/-- An operator and its assigning form. -/
def operator (trait function : String) (value : Tokens) : List Declaration :=
  let path := fun (t : String) => code ":: core :: ops ::" ++ named t
  let assign := trait ++ "Assign"
  [m.implement (path trait) trait
      (code "type Output = Self ;" ++ inline ++ code "fn" ++ named function ++
        code "(self , rhs : Self) -> Self" ++ braces (bits value)),
    m.implement (path assign) assign
      (inline ++ code "fn" ++ named (function ++ "_assign") ++ code "(& mut self , rhs : Self)" ++
        braces (code "* self =" ++ path trait ++ code "::" ++ named function ++
          code "(* self , rhs) ;"))]

/-- Sets put together from any number of sets. -/
def gathering : List Declaration :=
  let path := fun (t : String) =>
    code ":: core :: iter ::" ++ named t ++ code "<" ++ [.ident m.typeName] ++ code ">"
  let items := code "< I : :: core :: iter :: IntoIterator < Item =" ++ [.ident m.typeName] ++
    code ">>"
  [m.implement (path "FromIterator") "FromIterator"
      (code "fn from_iter" ++ items ++ code "(iter : I) -> Self" ++
        braces (code "iter . into_iter () . fold" ++
          parens (code "Self :: new () , | acc , flag | acc . union (flag)"))),
    m.implement (path "Extend") "Extend"
      (code "fn extend" ++ items ++ code "(& mut self , iter : I)" ++
        braces (code "for flag in iter" ++ braces (code "self . insert (flag) ;")))]

/-- The empty set as default, and the names of the contained options for debugging. -/
def defaultAndDebug : List Declaration :=
  let separator := braces (code "f . write_str (\" | \") ? ;")
  [m.implement (code ":: core :: default :: Default") "Default"
      (inline ++ code "fn default () -> Self" ++ braces (code "Self :: new ()")),
    m.implement (code ":: core :: fmt :: Debug") "Debug"
      (code "fn fmt (& self , f : & mut :: core :: fmt :: Formatter < '_ >)" ++
        code "-> :: core :: fmt :: Result" ++
        braces (code "f . write_str" ++ parens (quoted m.typeName.name) ++ code "? ;" ++
          code "f . write_str (\"(\") ? ; for (i , flag) in (* self) . iter () . enumerate ()" ++
          braces (code "if i > 0" ++ separator ++
            code "f . write_str (flag . name (true) . unwrap_or (\"?\")) ? ;") ++
          code "f . write_str (\")\")"))]

/-- The traits that every option set implements. -/
def implementations : List Declaration :=
  m.operator "BitOr" "bitor" (code "self . raw_value | rhs . raw_value") ++
    m.operator "BitAnd" "bitand" (code "self . raw_value & rhs . raw_value") ++
    m.operator "Sub" "sub" (code "self . raw_value & ! rhs . raw_value") ++
    m.gathering ++ m.defaultAndDebug

/-- A carried item as a declaration. -/
def carry : Item → Declaration
  | .other .function _ ts | .other .constant _ ts => { placement := .member, tokens := ts }
  | i => .always i.tokens

/-- All code of an option set with these cases. -/
def declarations (cases : List OptionCase) : List Declaration :=
  derivedTraits.map .derivation ++ (m.members cases).map Member.declaration ++ m.implementations ++
    m.carried.map carry

/-- The option set with all its code. -/
def expanded : Except BadName Tokens := do
  m.rawStruct.withDeclarations (m.declarations (← OptionCase.ofIdents m.cases))

end OptionSet
end Boilerplate
