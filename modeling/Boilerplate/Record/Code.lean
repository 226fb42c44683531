/-
# The code of a record

`src/persist` (`generate` and the functions that it calls) and `SPEC_FULL.md` §4.4.

Members that build and change a record, and the traits that store it: encoding writes the key of
each field; decoding takes a map with keys and aliases, or a sequence of the fields in their order.
-/

import Boilerplate.Declaration
import Boilerplate.RecordDeclaration
import Boilerplate.Record.Plan

namespace Boilerplate

/-- The value that a struct expression gives to a field; without one, the variable of its name. -/
structure Initializer where
  field : Ident
  value : Option Tokens
deriving Repr, Inhabited

/-- The initializer as it prints: `field: value`, or the field alone. -/
def Initializer.tokens (i : Initializer) : Tokens :=
  match i.value with
  | some v => [.ident i.field] ++ code ":" ++ v
  | none => [.ident i.field]

namespace RecordCode

/-- A path from the root of all names. -/
def rooted (names : List String) : Tokens := names.flatMap fun n => code "::" ++ named n

/-- The value as a result. -/
def ok (value : Tokens) : Tokens := rooted ["core", "result", "Result", "Ok"] ++ parens value

/-- The value as a failure. -/
def err (value : Tokens) : Tokens := rooted ["core", "result", "Result", "Err"] ++ parens value

/-- The result type of a function that may fail. -/
def resultOf (value error : Tokens) : Tokens :=
  rooted ["core", "result", "Result"] ++ code "<" ++ value ++ code "," ++ error ++ code ">"

/-- A failure of a decoder: the function that makes it, and what that is told. -/
def failure (function : String) (args : Tokens) : Tokens :=
  code "return" ++ err (code "< __A :: Error as :: serde :: de :: Error > ::" ++ named function ++
    parens args)

/-- What stands in for an absent field, or else how decoding fails. -/
def fallback (f : StoredField TypeExpr Expr) (missing : Tokens) : Tokens :=
  match f.absent with
  | .default e => e.tokens
  | .empty => optionNone
  | .missing => missing

/-- The value if there is one, and what stands in for it otherwise. -/
def orElse (value absent : Tokens) : Tokens :=
  code "match" ++ value ++
    braces (optionSome (code "value") ++ code "=> value ," ++ optionNone ++
      code "=>" ++ absent ++ code ",")

/-- A call of a reading function, with the type that it is to give. -/
def reading (trait function : String) (type : Tokens) (source : String) : Tokens :=
  rooted ["serde", "de", trait, function] ++ code ":: <" ++ type ++ code ">" ++
    parens (code "& mut" ++ named source) ++ code "?"

/-- The variable that holds the value of a slot. -/
def holder (s : Slot) : Tokens := named s.variableName

end RecordCode

namespace RecordDeclaration

open RecordCode

variable (m : RecordDeclaration)

/-- The type's name as a text. -/
def title : String := m.typeName.name

/-- How a transient field is filled. -/
def transientInitializer (t : TransientField Expr) : Initializer where
  field := t.name
  value := some <| match t.default? with
    | some e => e.tokens
    | none => code ":: core :: default :: Default :: default ()"

/-- A struct expression with the given name and fields; a unit struct is its name alone. -/
def literal (name : Tokens) (inits : List Initializer) : Tokens :=
  if m.isUnit then name
  else
    name ++ braces (commaTerminated
      ((inits ++ m.transient.map transientInitializer).map Initializer.tokens))

/-! ### Members -/

/-- The list of the keys that are written. -/
def keyList : Member :=
  Member.documented
      [" Keys written when encoding, in declaration order. Legacy aliases are read-only",
        " and not listed."] {
    name := "FIELD_KEYS"
    tokens := m.visibility ++ code "const FIELD_KEYS : & 'static [& 'static str] = &" ++
      brackets (commaSeparated (m.keys.map quoted)) ++ code ";" }

/-- A name with its type. -/
def parameter (f : StoredField TypeExpr Expr) : Tokens :=
  [.ident f.name] ++ code ":" ++ f.type.tokens

/-- How a new record fills a field. -/
def newInitializer (f : StoredField TypeExpr Expr) : Initializer where
  field := f.name
  value := match f.absent with
    | .default e => some e.tokens
    | .empty => some optionNone
    | .missing => none

/-- The member that makes a record from the values of its required fields. -/
def newMember : Member :=
  Member.documented
      [" Builds a value from its required fields. Optional fields start as `None` and",
        " defaulted fields at their declared default; see the `with_*` setters."] {
    name := "new"
    tokens := marked (code "allow (clippy :: new_without_default)") ++ m.visibility ++
      code "fn new" ++ parens (commaSeparated (m.required.map parameter)) ++ code "-> Self" ++
      braces (m.literal (code "Self") (m.fields.map newInitializer)) }

/-- The name of the function that sets a field. -/
def setterName (f : StoredField TypeExpr Expr) : String := "with_" ++ f.name.name

/-- The member that gives one field another value. -/
def setter (f : StoredField TypeExpr Expr) : Member where
  name := setterName f
  tokens := marked (code "must_use") ++ m.visibility ++ code "fn" ++ named (setterName f) ++
    parens (code "mut self ," ++ parameter f) ++ code "-> Self" ++
    braces (code "self ." ++ [.ident f.name] ++ code "=" ++ [.ident f.name] ++ code "; self")

/-- The members that store a record in a text and read it from one. -/
def stringMembers : List Member :=
  let empty := ":: std :: string :: String :: from (\"\x7b\x7d\")"
  [Member.documented
      [" The value as a single JSON string, for stores that only hold strings.",
        " Falls back to `\x7b\x7d` if a field refuses to serialize."] {
      name := "raw_value"
      tokens := m.visibility ++ code "fn raw_value (& self) -> :: std :: string :: String" ++
        braces (code ":: serde_json :: to_string (self) . unwrap_or_else" ++
          parens (code "| _ |" ++ code empty)) },
    Member.documented [" Inverse of [`Self::raw_value`]; `None` when `raw` does not decode."] {
      name := "from_raw_value"
      tokens := m.visibility ++
        code "fn from_raw_value (raw : & str) -> :: core :: option :: Option < Self >" ++
        braces (code ":: serde_json :: from_str (raw) . ok ()") }]

/-- The members of a record: its keys, `new`, the setters and the two for texts. -/
def members : List Member :=
  [m.keyList, m.newMember] ++ m.settable.map m.setter ++ m.stringMembers

/-! ### Encoding -/

/-- Writes a field under its key. -/
def write (f : StoredField TypeExpr Expr) : Tokens :=
  code ":: serde :: ser :: SerializeStruct :: serialize_field" ++
    parens (code "& mut state ," ++ quoted f.key ++ code ", & self ." ++ [.ident f.name]) ++
    code "? ;"

/-- The trait that writes a record, one entry for each stored field. -/
def encoding : Declaration :=
  .implementation "Serialize"
    (code "impl :: serde :: Serialize for" ++ [.ident m.typeName] ++
      braces (code "fn serialize < __S > (& self , serializer : __S) ->" ++
        resultOf (code "__S :: Ok") (code "__S :: Error") ++
        code "where __S : :: serde :: Serializer ," ++
        braces (marked (code "allow (unused_mut)") ++
          code "let mut state = :: serde :: Serializer :: serialize_struct" ++
          parens (code "serializer ," ++ quoted m.title ++ code "," ++
            numeral m.fields.length) ++
          code "? ;" ++ m.fields.flatMap write ++
          code ":: serde :: ser :: SerializeStruct :: end (state)")))

/-! ### Decoding -/

/-- The kind of a key. -/
def keyKind (s : Slot) : Tokens := code "__Key ::" ++ named s.keyName

/-- The kinds of keys, and how a key is told to be of its kind. -/
def keyReader : Tokens :=
  let kinds := commaTerminated (m.keyedSlots.map fun e => named e.slot.keyName)
  let arms := m.keyedSlots.flatMap fun e =>
    quoted e.key ++ code "=>" ++ keyKind e.slot ++ code ","
  let visitor :=
    code "type Value = __Key ;" ++
    code "fn expecting (& self , formatter : & mut :: core :: fmt :: Formatter < '_ >)" ++
    code "-> :: core :: fmt :: Result" ++
    braces (code "formatter . write_str (\"field identifier\")") ++
    code "fn visit_str < __E > (self , value : & str) ->" ++
    resultOf (code "__Key") (code "__E") ++ code "where __E : :: serde :: de :: Error ," ++
    braces (ok (code "match value" ++ braces (arms ++ code "_ => __Key :: __ignore ,")))
  let deserialize :=
    code "fn deserialize < __D2 > (deserializer : __D2) ->" ++
    resultOf (code "Self") (code "__D2 :: Error") ++
    code "where __D2 : :: serde :: Deserializer < 'de > ," ++
    braces (code ":: serde :: Deserializer :: deserialize_identifier" ++
      code "(deserializer , __KeyVisitor)")
  marked (code "allow (non_camel_case_types)") ++ code "enum __Key" ++
    braces (kinds ++ code "__ignore ,") ++
    code "struct __KeyVisitor ; impl < 'de > :: serde :: de :: Visitor < 'de > for __KeyVisitor" ++
    braces visitor ++
    code "impl < 'de > :: serde :: Deserialize < 'de > for __Key" ++ braces deserialize

/-- Declares an empty slot for values of a type. -/
def declareSlot (type : TypeExpr) (s : Slot) : Tokens :=
  code "let mut" ++ holder s ++ code ": :: core :: option :: Option <" ++ type.tokens ++
    code "> =" ++ optionNone ++ code ";"

/-- Declares the slots of all fields. -/
def declareSlots : Tokens :=
  m.fields.zipIdx.flatMap fun (f, i) => (f.slots i).flatMap (declareSlot f.type)

/-- Skips the value of an entry. -/
def skipValue : Tokens :=
  code "let _ =" ++
    reading "MapAccess" "next_value" (code ":: serde :: de :: IgnoredAny") "map" ++ code ";"

/-- Puts the value of an entry into its slot. -/
def fillSlot (type : TypeExpr) (s : Slot) : Tokens :=
  holder s ++ code "=" ++
    optionSome (reading "MapAccess" "next_value" type.tokens "map") ++ code ";"

/-- What is done with an entry under a key: a value that came before is an error; an alias does not
count once the field has a value under its own key. -/
def keyArm (type : TypeExpr) (e : KeyedSlot) : Tokens :=
  let isFilled := fun (s : Slot) => code "if" ++ holder s ++ code ". is_some ()"
  let again := isFilled e.slot ++ braces (failure "duplicate_field" (quoted e.key) ++ code ";")
  let fill := fillSlot type e.slot
  keyKind e.slot ++ code "=>" ++ braces (again ++
    match e.slot.alias? with
    | none => fill
    | some _ => isFilled e.slot.current ++ braces skipValue ++ code "else" ++ braces fill)

/-- The arms that read the value of a key, in the order of the key table. -/
def keyArms : Tokens :=
  m.keyedSlots.flatMap fun e =>
    match m.fields[e.slot.field]? with
    | some f => keyArm f.type e
    | none => []

/-- Takes the value of a field from the first of its slots that is filled. -/
def finishField (f : StoredField TypeExpr Expr) (i : Nat) : Tokens :=
  let own := holder { field := i }
  let aliases := (f.aliasSlots i).flatMap fun s => code ". or" ++ parens (holder s)
  code "let" ++ own ++ code "=" ++
    orElse (own ++ aliases) (fallback f (failure "missing_field" (quoted f.key))) ++ code ";"

/-- Takes the value of a field from the next element of a sequence. -/
def readField (f : StoredField TypeExpr Expr) (i : Nat) : Tokens :=
  code "let" ++ holder { field := i } ++ code "=" ++
    orElse (reading "SeqAccess" "next_element" f.type.tokens "seq")
      (fallback f (failure "invalid_length" (numeral i ++ code ", & self"))) ++ code ";"

/-- How the decoded record fills a field. -/
def slotInitializer (f : StoredField TypeExpr Expr) (i : Nat) : Initializer :=
  ⟨f.name, some (holder { field := i })⟩

/-- The decoded record. -/
def decoded : Tokens :=
  m.literal [.ident m.typeName] (m.fields.zipIdx.map fun (f, i) => slotInitializer f i)

/-- A function that decodes one form of the record. -/
def visit (function access source : String) (body : Tokens) : Tokens :=
  marked (code "allow (unused_mut)") ++ code "fn" ++ named function ++
    code "< __A >" ++ parens (code "self , mut" ++ named source ++ code ": __A") ++ code "->" ++
    resultOf [.ident m.typeName] (code "__A :: Error") ++
    code "where __A : :: serde :: de ::" ++ named access ++ code "< 'de > ," ++
    braces (body ++ ok m.decoded)

/-- Decodes a map. -/
def mapReader : Tokens :=
  m.visit "visit_map" "MapAccess" "map"
    (m.declareSlots ++ code "while let" ++ optionSome (code "key") ++ code "=" ++
      reading "MapAccess" "next_key" (code "__Key") "map" ++
      braces (code "match key" ++
        braces (m.keyArms ++ code "__Key :: __ignore =>" ++ braces skipValue)) ++
      m.fields.zipIdx.flatMap fun (f, i) => finishField f i)

/-- Decodes a sequence of the fields in their order. -/
def sequenceReader : Tokens :=
  m.visit "visit_seq" "SeqAccess" "seq" (m.fields.zipIdx.flatMap fun (f, i) => readField f i)

/-- The trait that reads a record, from a map or from a sequence. -/
def decoding : Declaration :=
  let visitor :=
    code "type Value =" ++ [.ident m.typeName] ++ code ";" ++
    code "fn expecting (& self , formatter : & mut :: core :: fmt :: Formatter < '_ >)" ++
    code "-> :: core :: fmt :: Result" ++
    braces (code "formatter . write_str" ++ parens (quoted ("struct " ++ m.title))) ++
    m.mapReader ++ m.sequenceReader
  .implementation "Deserialize"
    (code "impl < 'de > :: serde :: Deserialize < 'de > for" ++ [.ident m.typeName] ++
      braces (code "fn deserialize < __D > (deserializer : __D) ->" ++
        resultOf (code "Self") (code "__D :: Error") ++
        code "where __D : :: serde :: Deserializer < 'de > ," ++
        braces (m.keyReader ++
          code "struct __Visitor ; impl < 'de > :: serde :: de :: Visitor < 'de > for __Visitor" ++
          braces visitor ++
          code "const FIELDS : & [& str] = &" ++
          brackets (commaSeparated (m.allKeys.map quoted)) ++ code ";" ++
          code ":: serde :: Deserializer :: deserialize_struct" ++
          parens (code "deserializer ," ++ quoted m.title ++ code ", FIELDS , __Visitor"))))

/-! ### The form of a record as text -/

/-- The traits that read a record from a text and show it as one. -/
def stringForms : List Declaration :=
  let result := code "-> :: core :: fmt :: Result"
  [.implementation "FromStr"
      (code "impl :: core :: str :: FromStr for" ++ [.ident m.typeName] ++
        braces (code "type Err = :: serde_json :: Error ; fn from_str (s : & str) ->" ++
          resultOf (code "Self") (code "Self :: Err") ++
          braces (code ":: serde_json :: from_str (s)"))),
    .implementation "Display"
      (code "impl :: core :: fmt :: Display for" ++ [.ident m.typeName] ++
        braces (code "fn fmt (& self , f : & mut :: core :: fmt :: Formatter < '_ >)" ++ result ++
          braces (code "let text = :: serde_json :: to_string (self) ." ++
            code "map_err (| _ | :: core :: fmt :: Error) ? ; f . write_str (& text)")))]

/-- All code of the record. -/
def declarations : List Declaration :=
  m.members.map Member.declaration ++ [m.encoding, m.decoding] ++ m.stringForms

/-- The names that are put together: those of setters, of the kinds of keys, and of the variables
that hold values. -/
def computedNames : List String :=
  m.settable.map setterName ++ m.keyedSlots.map (·.slot.keyName) ++
    m.fields.zipIdx.flatMap fun (f, i) => (f.slots i).map Slot.variableName

/-- The record with all its code, if all names can be put together. -/
def expanded : Except BadName Tokens := do
  let _ ← m.computedNames.mapM fun name => Ident.ofString name
  m.cleaned.withDeclarations m.declarations

end RecordDeclaration
end Boilerplate
