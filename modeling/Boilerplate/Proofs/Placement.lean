/-
# Where generated code goes

`assemble` of `src/assemble`; `SPEC_FULL.md` §4.6.

Every piece of generated code has one place around the struct, whatever traits it provides and
whatever the author derives, in lists that can be read or not.  Members are put into one block, all
else stands beside it, and both keep their order; nothing is left out but code that provides traits
and implements none that the author does not derive (`Declaration.Stays`).  The struct itself gets
one more attribute at most, which derives what the author does not
(`StructItem.withDeclarations_places`).
-/

import Boilerplate.Proofs.ProvidedTrait

namespace Boilerplate

open Boilerplate.Parser

/-! ### What the author derives -/

/-- Whether the attribute derives a trait of this name, by a list that can be read. -/
def Attribute.Derives (a : Attribute) (name : String) : Prop :=
  a.path.isIdent "derive" = true ∧ ∃ d ts o c paths, a.args = .list d ts o c ∧
    Grammar.read (fun g => separated List.isEmpty "," (g.path false)) ts = .ok paths ∧
    ∃ p ∈ paths, ∃ last, p.1.segments.getLast? = some last ∧ last.name.text = name

namespace ProvidedTrait

variable {name : String}

/-- The traits that an attribute derives, read from its tokens. -/
theorem mem_derived_iff {a : Attribute} :
    a.path.isIdent "derive" = true ∧ name ∈ derived a ↔ a.Derives name := by
  refine and_congr_right fun _ => ?_
  unfold derived
  cases a.args with
  | none => simp
  | value equals v => simp
  | list d ts o c =>
    dsimp only
    cases hread : Grammar.read (fun g => separated List.isEmpty "," (g.path false)) ts with
    | error e => simp [hread]
    | ok paths => simp [hread]

/-- **A trait is declared** if some attribute derives it; lists that cannot be read do not count. -/
theorem mem_declared_iff {as : List Attribute} : name ∈ declared as ↔ ∃ a ∈ as, a.Derives name := by
  simp only [declared, List.mem_flatMap, List.mem_filter, and_assoc, mem_derived_iff]

end ProvidedTrait

/-! ### What becomes of the code -/

namespace Declaration

variable {own : List String} {ds : List Declaration} {d : Declaration} {name : Ident}

/-- Whether code beside a struct stays there when the author derives these traits: it provides none,
or it implements one that the author does not derive. -/
def Stays (own : List String) (d : Declaration) : Prop :=
  d.provides = [] ∨ ∃ t ∈ d.provides, t.means = .impl ∧ t.name ∉ own

/-- Whether a piece of code stays is a matter of the traits that the struct has. -/
instance : Decidable (d.Stays own) := inferInstanceAs (Decidable (_ ∨ _))

/-- The traits that the code wants derived and that the author does not derive, in the order in
which it wants them. -/
def toDerive (own : List String) (ds : List Declaration) : List String :=
  ((ds.flatMap (·.provides)).filter fun t => t.means = .derive ∧ t.name ∉ own).map (·.name)

/-- Code is wanted for its own sake: what is missing altogether does not matter. -/
theorem isWanted_missing_iff (hd : d ∈ ds) :
    d.isWanted (ProvidedTrait.missing own (ds.flatMap (·.provides))) = true ↔ d.Stays own := by
  rw [isWanted, Bool.or_eq_true, List.isEmpty_iff, List.any_eq_true]
  refine or_congr_right (exists_congr fun t => and_congr_right fun ht => ?_)
  rw [Bool.and_eq_true, beq_iff_eq, List.contains_iff_mem, ProvidedTrait.mem_missing]
  exact and_congr_right fun _ => and_iff_right (List.mem_flatMap_of_mem hd ht)

/-- The code beside a struct is what stays there. -/
theorem wanted_missing : wanted (ProvidedTrait.missing own (ds.flatMap (·.provides))) ds =
    ds.filter fun d => d.placement = .beside ∧ d.Stays own := by
  rw [wanted, List.filter_filter]
  refine List.filter_congr fun d hd => ?_
  rw [Bool.eq_iff_iff, Bool.and_eq_true, isWanted_missing_iff hd, beq_iff_eq, decide_eq_true_iff,
    and_comm]

/-- The missing traits that can be derived. -/
theorem missingDerives_missing :
    missingDerives (ProvidedTrait.missing own (ds.flatMap (·.provides))) =
      (toDerive own ds).map fun name => { name } := by
  rw [missingDerives, toDerive, List.map_map, ProvidedTrait.missing, List.filter_filter]
  refine congrArg _ (List.filter_congr fun t _ => ?_)
  rw [Bool.eq_iff_iff, Bool.and_eq_true, beq_iff_eq, Bool.not_eq_true', List.contains_eq_mem,
    decide_eq_false_iff_not, decide_eq_true_iff]

/-- There is one block with all members, or none if there are no members. -/
theorem memberBlock_eq_ite : memberBlock name ds =
    if (ds.filter fun d => d.placement = .member) = [] then []
    else code "impl" ++ [.ident name] ++
      braces ((ds.filter fun d => d.placement = .member).flatMap (·.tokens)) := by
  have hmembers : ds.filter (·.placement == .member) = ds.filter fun d => d.placement = .member :=
    rfl
  rw [memberBlock, hmembers]
  simp only [List.isEmpty_iff]

/-- The attribute that derives traits is written as the list of their names. -/
theorem attributeTokens_deriveAttributes (names : List String) :
    attributeTokens (deriveAttributes (names.map fun name => { name })) =
      if names = [] then []
      else marked (named "derive" ++ parens (commaSeparated (names.map named))) := by
  cases names with
  | nil => rfl
  | cons name names =>
    rw [if_neg (List.cons_ne_nil _ _), deriveAttributes, deriveAttribute, List.map_map]
    rfl

/-- Each piece of code is a member, or it stays beside the struct, or it does not stay there. -/
theorem perm_of_places (own : List String) (ds : List Declaration) :
    ((ds.filter fun d => d.placement = .member) ++
      (ds.filter fun d => d.placement = .beside ∧ d.Stays own) ++
      (ds.filter fun d => d.placement = .beside ∧ ¬ d.Stays own)).Perm ds := by
  have hplace : ∀ d : Declaration, d.placement = .beside ↔ ¬ d.placement = .member := by
    intro d
    cases d.placement <;> simp
  have hothers := List.filter_append_perm (fun d => decide (d.Stays own))
    (ds.filter fun d => !decide (d.placement = .member))
  rw [List.filter_filter, List.filter_filter] at hothers
  rw [List.append_assoc]
  refine List.Perm.trans (List.Perm.append_left _ ?_)
    (List.filter_append_perm (fun d => decide (d.placement = .member)) ds)
  simpa [hplace, Bool.and_comm] using hothers

end Declaration

open Declaration

/-- **Each piece of generated code has its place.**  First stands the struct with its own
attributes, behind which there may be one more: it derives what the code wants derived and the
author does not derive, in the order in which it is wanted, and it is read back as that list.  Then
comes one block with all members in their order, unless there are none; and then, in their order,
those of the others that provide no trait or implement one that the author does not derive.  All
other code is left out, and nothing is left out or put in twice beside that. -/
theorem StructItem.withDeclarations_places (s : StructItem) (ds : List Declaration)
    (names : ∀ d ∈ ds, d.DerivesNamed) :
    let own := ProvidedTrait.declared s.attributes
    let members := ds.filter fun d => d.placement = .member
    let beside := ds.filter fun d => d.placement = .beside ∧ d.Stays own
    let leftOut := ds.filter fun d => d.placement = .beside ∧ ¬ d.Stays own
    (∀ name, name ∈ own ↔ ∃ a ∈ s.attributes, a.Derives name) ∧
    (members ++ beside ++ leftOut).Perm ds ∧
    ∃ more : List Attribute,
      s.withDeclarations ds = .ok (attributeTokens s.attributes ++ attributeTokens more ++
        s.declaration ++
        (if members = [] then []
          else code "impl" ++ [.ident s.name] ++ braces (members.flatMap (·.tokens))) ++
        beside.flatMap (·.tokens)) ∧
      more.length ≤ 1 ∧
      attributeTokens more =
        (if toDerive own ds = [] then []
          else marked (named "derive" ++ parens (commaSeparated ((toDerive own ds).map named)))) ∧
      ((∀ name ∈ toDerive own ds, name ∉ keywords) →
        ProvidedTrait.declared more = toDerive own ds) := by
  intro own members beside leftOut
  refine ⟨fun name => ProvidedTrait.mem_declared_iff, perm_of_places own ds, ?_⟩
  let missing := ProvidedTrait.missing own (ds.flatMap (·.provides))
  have hmore : derivingAttributes missing =
      .ok (deriveAttributes ((toDerive own ds).map fun name => { name })) := by
    rw [derivingAttributes_eq, missingDerives_missing]
    intro t ht hderive
    obtain ⟨d, hd, htd⟩ := List.mem_flatMap.1 (ProvidedTrait.mem_missing.1 ht).1
    exact names d hd t htd hderive
  refine ⟨_, ?_, length_deriveAttributes _, attributeTokens_deriveAttributes _, declared_of_names⟩
  refine bind_eq_ok_iff.2 ⟨_, hmore, congrArg Except.ok ?_⟩
  have hothers : (ds.filter (·.placement == .beside)).filter (·.isWanted missing) = beside :=
    wanted_missing
  rw [hothers, memberBlock_eq_ite, StructItem.tokens, attributeTokens, List.flatMap_append]
  rfl

/-- A struct whose author derives `core::fmt::Debug`, and writes another list that cannot be read
since it lacks a comma. -/
def StructItem.debugged : StructItem :=
  let segment := fun (name : String) =>
    [.punct ':' .joint .none, .punct ':' .alone .none] ++ named name
  let derive := fun (traits : Tokens) => {
    deriveAttribute [] with args := .list .parenthesis traits .none .none }
  { attributes := [derive (named "core" ++ segment "fmt" ++ segment "Debug"),
      derive (named "Clone" ++ named "Copy")]
    visibility := []
    keyword := named "struct"
    name := { name := "S" }
    generics := {}
    whereClause := []
    fields := .unit
    semicolon := [.punct ';' .alone .none] }

/-- Code for every place, some of which provides traits in both ways. -/
def Declaration.everywhere : List Declaration :=
  [{ placement := .member, tokens := named "first" },
    { placement := .beside, provides := [⟨"Debug", .impl⟩, ⟨"Clone", .derive⟩],
      tokens := named "debug" },
    .always (named "other"),
    { placement := .beside, provides := [⟨"Debug", .impl⟩, ⟨"Default", .impl⟩],
      tokens := named "both" },
    .derivation "Copy",
    { placement := .member, provides := [⟨"Debug", .derive⟩], tokens := named "second" }]

/-- `Debug` is derived already, and so the code that implements it is left out unless it implements
something else; `Clone` and `Copy` are not, since their list cannot be read. -/
theorem StructItem.withDeclarations_places_debugged : ∃ more : List Attribute,
    debugged.withDeclarations everywhere = .ok (attributeTokens debugged.attributes ++
      attributeTokens more ++ debugged.declaration ++
      (code "impl" ++ named "S" ++ braces (named "first" ++ named "second")) ++
      (named "other" ++ named "both")) ∧
    ProvidedTrait.declared more = ["Clone", "Copy"] := by
  have hown : ProvidedTrait.declared debugged.attributes = ["Debug"] := by decide +kernel
  have hplain : ∀ d ∈ everywhere, ∀ t ∈ d.provides, t.means = .derive →
      isPlainName t.name.toList = true := by decide
  have hnames : ∀ d ∈ everywhere, ∀ t ∈ d.provides, t.means = .derive →
      isIdentifier t.name.toList = true :=
    fun d hd t ht hmeans => isIdentifier_of_isPlainName (hplain d hd t ht hmeans)
  obtain ⟨-, -, more, hts, -, -, hread⟩ := withDeclarations_places debugged everywhere hnames
  rw [hown] at hts hread
  refine ⟨more, hts, ?_⟩
  exact hread (by decide)

end Boilerplate
