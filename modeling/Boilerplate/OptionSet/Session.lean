/-
# Running an option set

A variable of an option set type goes through a sequence of commands; each answers and may change
it.
-/

import Boilerplate.OptionSet.Bits

namespace Boilerplate

/-- An option set type with the storage that its code was generated for. -/
structure FlagType where
  title : String
  width : Nat
  signed : Bool := false
  cases : List OptionCase
  /-- The raw value shows when debugging, as for any struct. -/
  derivesDebug : Bool := false
  /-- Further constants that the declaration carries. -/
  carried : List (String × Int) := []
  /-- The set that a carried function compares with: what shares a bit with it is fast. -/
  fast : Option Int := none
  /-- The constants that can be looked up by name, if not all. -/
  lookedUp : Option (List String) := none
deriving Repr, Inhabited

namespace FlagType

variable (t : FlagType)

/-- A set of the type. -/
abbrev Set := BitVec t.width

/-- The set with the raw value. -/
def ofRaw (n : Int) : t.Set := BitVec.ofInt t.width n

/-- The raw value of a set: its bits, as the storage type counts them. -/
def raw (a : t.Set) : Int := Bits.value t.signed a

/-- The constant with the name. -/
def constant? (name : String) : Option Int :=
  let own := t.cases.find? (·.constant.text == name)
  let value := (own.map fun c => t.raw (Bits.constant t.width c)) <|>
    (t.carried.find? (·.1 == name)).map (·.2)
  if t.lookedUp.all (·.contains name) then value else none

/-- The set as it shows when debugging, on one line or on several. -/
def debug (a : t.Set) (lines : Bool) : String :=
  if t.derivesDebug then
    let field := "raw_value: " ++ toString (t.raw a)
    if lines then t.title ++ " \x7b\n    " ++ field ++ ",\n\x7d"
    else t.title ++ " \x7b " ++ field ++ " \x7d"
  else Bits.debug t.title t.cases a

/-- What a command on a set answers. -/
inductive Reply
  | nothing
  | unknown
  | flag (b : Bool)
  | raw (n : Option Int)
  | raws (ns : List Int)
  | text (s : Option String)
  | texts (ss : List String)
deriving DecidableEq, Repr, Inhabited

/-- A command on a set; operands are raw values. -/
inductive Command
  | reset
  | all
  | fromRaw (b : Int)
  | union (b : Int)
  | intersection (b : Int)
  | difference (b : Int)
  | collect (bs : List Int)
  | extend (bs : List Int)
  | insert (b : Int)
  | remove (b : Int)
  | contains (b : Int)
  | equals (b : Int)
  | isEmpty
  | unionOf (b : Int)
  | intersectionOf (b : Int)
  | differenceOf (b : Int)
  | assign (o : Bits.Operator) (b : Int)
  | constant (name : String)
  | optionNames
  | iter
  | name (display : Bool)
  | fromName (s : String)
  | joined
  | debug (lines : Bool)
  | isFast
deriving DecidableEq, Repr, Inhabited

/-- Runs a command: the set after it, and the answer. -/
def step (a : t.Set) : Command → t.Set × Reply
  | .reset => (0, .nothing)
  | .all => (Bits.all t.width t.cases, .nothing)
  | .fromRaw b => (t.ofRaw b, .nothing)
  | .union b => (Bits.union a (t.ofRaw b), .nothing)
  | .intersection b => (Bits.intersection a (t.ofRaw b), .nothing)
  | .difference b => (Bits.difference a (t.ofRaw b), .nothing)
  | .collect bs => (Bits.collect (bs.map t.ofRaw), .nothing)
  | .extend bs => (Bits.extend a (bs.map t.ofRaw), .nothing)
  | .insert b =>
    let (a, fresh) := Bits.insert a (t.ofRaw b)
    (a, .flag fresh)
  | .remove b =>
    let (a, present) := Bits.remove a (t.ofRaw b)
    (a, .flag present)
  | .contains b => (a, .flag (Bits.contains a (t.ofRaw b)))
  | .equals b => (a, .flag (a == t.ofRaw b))
  | .isEmpty => (a, .flag (Bits.isEmpty a))
  | .unionOf b => (a, .raw (t.raw (Bits.Operator.bitOr.apply a (t.ofRaw b))))
  | .intersectionOf b => (a, .raw (t.raw (Bits.Operator.bitAnd.apply a (t.ofRaw b))))
  | .differenceOf b => (a, .raw (t.raw (Bits.Operator.sub.apply a (t.ofRaw b))))
  | .assign o b => (o.assign a (t.ofRaw b), .nothing)
  | .constant name => (a, .raw (t.constant? name))
  | .optionNames => (a, .texts (OptionCase.optionNames t.cases))
  | .iter => (a, .raws ((Bits.iter t.cases a).map t.raw))
  | .name display => (a, .text (Bits.name t.cases a display))
  | .fromName s => (a, .raw ((Bits.fromName t.width t.cases s).map t.raw))
  | .joined => (a, .text (Bits.joined t.cases a))
  | .debug lines => (a, .text (t.debug a lines))
  | .isFast =>
    match t.fast with
    | some b => (a, .flag (Bits.intersection a (t.ofRaw b) != 0))
    | none => (a, .unknown)

end FlagType
end Boilerplate
