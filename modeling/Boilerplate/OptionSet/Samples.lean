/-
# Option sets to run

Option set types of every kind of storage: signed and unsigned, of 8 to 128 bits, with a derived
form for debugging or without, and with cases in all spellings.
-/

import Boilerplate.OptionSet.Session

namespace Boilerplate
namespace FlagSample

/-- The cases that are written as the names, as far as their constants are names. -/
def casesOf (names : List String) : List OptionCase :=
  match OptionCase.ofIdents (names.map fun n => { name := n }) with
  | .ok cases => cases
  | .error _ => []

/-- Three cases in an unsigned byte. -/
def permissions : FlagType where
  title := "Permissions"
  width := 8
  cases := casesOf ["read", "write", "execute"]

/-- `EXPRESS` is delivery within two days; what is express or has priority is fast. -/
def shipping : FlagType where
  title := "Shipping"
  width := 16
  cases := casesOf ["NextDay", "SecondDay", "Priority", "Standard"]
  derivesDebug := true
  carried := [("EXPRESS", 0b11)]
  fast := some 0b111

/-- As many cases as a signed byte has bits, so that the last owns the sign. -/
def signed : FlagType where
  title := "Signed"
  width := 8
  signed := true
  cases := casesOf ["A", "B", "C", "D", "E", "F", "G", "H"]

/-- Cases that are keywords, with a derived form for debugging. -/
def features : FlagType where
  title := "Features"
  width := 64
  cases := casesOf ["async", "move", "Tracing"]
  derivesDebug := true

/-- Cases in all spellings, some of them not in ASCII. -/
def names : FlagType where
  title := "Names"
  width := 32
  cases := casesOf ["HTTPServer", "utf8Decoder", "X509v3", "snake_case_name", "_hidden", "SHOUT",
    "straße", "Éclair", "日本", "lower2Upper", "A1B2", "trailing_", "dz"]

/-- One case in 128 signed bits. -/
def loop : FlagType where
  title := "Loop"
  width := 128
  signed := true
  cases := casesOf ["Only"]

/-- As many cases as the widest storage type has bits. -/
def wide : FlagType where
  title := "Wide"
  width := 128
  cases := casesOf ((List.range 128).map fun n => "C" ++ Nat.repr n)
  lookedUp := some ["C_0", "C_1", "C_63", "C_64", "C_126", "C_127"]

/-- All sample types, in the order in which they are looked up. -/
def all : List FlagType := [permissions, shipping, signed, features, names, loop, wide]

/-- The sample with the title. -/
def find? (title : String) : Option FlagType := all.find? (·.title == title)

end FlagSample
end Boilerplate
