/-
# Declarations side by side

`expand_all` of `src/expand`; `SPEC_FULL.md` §4.2, §5.

What comes of a declaration does not depend on those beside it (`Request.Yields`): its code if it
can be expanded, and otherwise what is wrong with it, with the struct that a record would have been.
The output of a list is what its members yield, one behind the other (`ofRequests_eq_ok_iff`), code
with code and diagnostics with diagnostics, so that the outputs of two lists may be joined as the
lists are (`ofRequests_append`) and an option set that fails leaves the code as it is
(`tokens_of_siblings`).
-/

import Boilerplate.Proofs.OptionSet.Declares
import Boilerplate.Proofs.Output

namespace Boilerplate

/-! ### One declaration -/

namespace Request

/-- What comes of a declaration by itself. -/
inductive Yields : Request → Output → Prop
  | optionSet {w : WrittenSet} {m : OptionSet} {ts : Tokens}
      (accepted : OptionSet.ofWritten w = .ok (.ok m)) (expanded : m.expanded = .ok ts) :
      Yields (.optionSet w) { generated := ts }
  | record {args : Tokens} {item : Item} {d : RecordDeclaration} {ts : Tokens}
      (accepted : RecordDeclaration.ofItem args item = .ok d) (expanded : d.expanded = .ok ts) :
      Yields (.record args item) { generated := ts }
  /-- Nothing is left of an option set that fails. -/
  | failedSet {w : WrittenSet} {ds : List Diagnostic}
      (failed : OptionSet.ofWritten w = .ok (.error ds)) :
      Yields (.optionSet w) { report := ⟨ds⟩ }
  /-- Of a record that fails the struct is left, without the directives of its fields. -/
  | failedStruct {args : Tokens} {s : StructItem} {ds : List Diagnostic}
      (failed : RecordDeclaration.ofItem args (.struct s) = .error ds) :
      Yields (.record args (.struct s)) { generated := s.stripped.tokens, report := ⟨ds⟩ }
  | failedItem {args : Tokens} {item : Item} {ds : List Diagnostic}
      (noStruct : ∀ s, item ≠ .struct s)
      (failed : RecordDeclaration.ofItem args item = .error ds) :
      Yields (.record args item) { generated := item.tokens, report := ⟨ds⟩ }

/-- Whether all names can be put together: the constants of an option set's cases, and what is made
of the names of a record's fields. -/
def Nameable : Request → Prop
  | .optionSet w => ∀ v ∈ w.judgedCases, isIdentifier (Words.upperSnake v.name.name.toList) = true
  | .record _ item => ∀ i ∈ item.fieldNames, isIdentifier i.name.toList = true

/-- A declaration whose computed names are names is expanded or refused. -/
theorem Nameable.exists_expanded {r : Request} (h : r.Nameable) : ∃ x, r.expanded = .ok x := by
  cases r with
  | optionSet w => exact exists_expanded_optionSet_iff.2 h
  | record args item => exact exists_expanded_record args h

/-- An option set has code if it is accepted and that can be put together. -/
theorem expanded_optionSet_eq_code_iff {w : WrittenSet} {ts : Tokens} :
    (optionSet w).expanded = .ok (.ok ts) ↔
      ∃ m, OptionSet.ofWritten w = .ok (.ok m) ∧ m.expanded = .ok ts := by
  constructor
  · intro h
    obtain ⟨judged, hjudged, hrest⟩ := bind_eq_ok_iff.1 h
    cases judged with
    | error ds => cases hrest
    | ok m =>
      obtain ⟨_, hm, heq⟩ := bind_eq_ok_iff.1 hrest
      cases heq
      exact ⟨m, hjudged, hm⟩
  · rintro ⟨m, hjudged, hm⟩
    exact bind_eq_ok_iff.2 ⟨_, hjudged, bind_eq_ok_iff.2 ⟨_, hm, rfl⟩⟩

/-- What is wrong with an option set is what it was not accepted for. -/
theorem expanded_optionSet_eq_failed_iff {w : WrittenSet} {ds : List Diagnostic} :
    (optionSet w).expanded = .ok (.error ds) ↔ OptionSet.ofWritten w = .ok (.error ds) := by
  constructor
  · intro h
    obtain ⟨judged, hjudged, hrest⟩ := bind_eq_ok_iff.1 h
    cases judged with
    | error _ =>
      cases hrest
      exact hjudged
    | ok m =>
      obtain ⟨_, -, heq⟩ := bind_eq_ok_iff.1 hrest
      cases heq
  · exact fun h => bind_eq_ok_iff.2 ⟨_, h, rfl⟩

/-- When a record has code. -/
theorem expanded_record_eq_code_iff {args : Tokens} {item : Item} {ts : Tokens} :
    (record args item).expanded = .ok (.ok ts) ↔
      ∃ d, RecordDeclaration.ofItem args item = .ok d ∧ d.expanded = .ok ts := by
  rw [expanded]
  cases RecordDeclaration.ofItem args item with
  | error _ =>
    constructor
    · intro h
      cases Except.ok.inj h
    · rintro ⟨_, hd, -⟩
      cases hd
  | ok d =>
    constructor
    · intro h
      obtain ⟨_, hd, heq⟩ := bind_eq_ok_iff.1 h
      cases heq
      exact ⟨d, rfl, hd⟩
    · rintro ⟨_, heq, hd⟩
      cases heq
      exact bind_eq_ok_iff.2 ⟨_, hd, rfl⟩

/-- When a record is refused. -/
theorem expanded_record_eq_failed_iff {args : Tokens} {item : Item} {ds : List Diagnostic} :
    (record args item).expanded = .ok (.error ds) ↔
      RecordDeclaration.ofItem args item = .error ds := by
  rw [expanded]
  cases RecordDeclaration.ofItem args item with
  | error _ =>
    constructor
    · intro h
      cases h
      rfl
    · intro h
      cases h
      rfl
  | ok d =>
    constructor
    · intro h
      obtain ⟨_, -, heq⟩ := bind_eq_ok_iff.1 h
      cases heq
    · intro h
      cases h

/-- What a declaration yields is its code or, if it cannot be expanded, what remains of it. -/
theorem yields_iff {r : Request} {o : Output} :
    r.Yields o ↔ (∃ ts, r.expanded = .ok (.ok ts) ∧ o = { generated := ts }) ∨
      ∃ ds, r.expanded = .ok (.error ds) ∧ o = { generated := r.remains, report := ⟨ds⟩ } := by
  constructor
  · rintro (⟨accepted, hts⟩ | ⟨accepted, hts⟩ | ⟨failed⟩ | ⟨failed⟩ | ⟨noStruct, failed⟩)
    · exact Or.inl ⟨_, expanded_optionSet_eq_code_iff.2 ⟨_, accepted, hts⟩, rfl⟩
    · exact Or.inl ⟨_, expanded_record_eq_code_iff.2 ⟨_, accepted, hts⟩, rfl⟩
    · exact Or.inr ⟨_, expanded_optionSet_eq_failed_iff.2 failed, rfl⟩
    · exact Or.inr ⟨_, expanded_record_eq_failed_iff.2 failed, rfl⟩
    · rename_i item ds
      refine Or.inr ⟨ds, expanded_record_eq_failed_iff.2 failed, ?_⟩
      cases item with
      | struct s => exact absurd rfl (noStruct s)
      | _ => rfl
  · cases r with
    | optionSet w =>
      rintro (⟨ts, hts, rfl⟩ | ⟨ds, hds, rfl⟩)
      · obtain ⟨m, accepted, hm⟩ := expanded_optionSet_eq_code_iff.1 hts
        exact .optionSet accepted hm
      · exact .failedSet (expanded_optionSet_eq_failed_iff.1 hds)
    | record args item =>
      rintro (⟨ts, hts, rfl⟩ | ⟨ds, hds, rfl⟩)
      · obtain ⟨d, accepted, hd⟩ := expanded_record_eq_code_iff.1 hts
        exact .record accepted hd
      · have failed := expanded_record_eq_failed_iff.1 hds
        cases item with
        | struct s => exact .failedStruct failed
        | _ => exact .failedItem nofun failed

end Request

namespace Output

open Request

/-- One output behind another: code behind code, and diagnostics behind diagnostics. -/
def append (o p : Output) : Output :=
  { generated := o.generated ++ p.generated, report := o.report.extend p.report.diagnostics }

/-- All outputs, one behind the other. -/
def joined (os : List Output) : Output :=
  { generated := os.flatMap (·.generated), report := ⟨os.flatMap (·.report.diagnostics)⟩ }

variable {o p : Output} {r : Request} {rs more : List Request}

/-- The outputs of declarations, the first in front of the others. -/
theorem joined_cons {os : List Output} : joined (o :: os) = o.append (joined os) := rfl

/-- Of three outputs, it does not matter which two are joined first. -/
theorem append_assoc (o p q : Output) : (o.append p).append q = o.append (p.append q) := by
  simp only [append, Report.extend, List.append_assoc]

/-- Joined with an empty output, an output stays as it is. -/
theorem append_empty : o.append {} = o := by
  simp only [append, Report.extend, List.append_nil]

/-- **One more declaration** adds what it yields, behind all that there is. -/
theorem add_eq_ok_iff : o.add r = .ok p ↔ ∃ own, r.Yields own ∧ p = o.append own := by
  simp only [add, bind_eq_ok_iff, yields_iff]
  constructor
  · rintro ⟨ts | ds, hx, heq⟩
    · cases heq
      exact ⟨_, Or.inr ⟨_, hx, rfl⟩, rfl⟩
    · cases heq
      refine ⟨_, Or.inl ⟨_, hx, rfl⟩, ?_⟩
      simp only [append, Report.extend, List.append_nil]
  · rintro ⟨own, ⟨ts, hx, rfl⟩ | ⟨ds, hx, rfl⟩, rfl⟩
    · refine ⟨_, hx, ?_⟩
      simp only [append, Report.extend, List.append_nil]
      rfl
    · exact ⟨_, hx, rfl⟩

/-- **A list of declarations** adds what its members yield, each by itself and in their order. -/
theorem foldlM_add_eq_ok_iff :
    rs.foldlM add o = .ok p ↔ ∃ os, List.Forall₂ Yields rs os ∧ p = o.append (joined os) := by
  induction rs generalizing o with
  | nil =>
    have hnil : o.append (joined []) = o := append_empty
    simp only [List.foldlM_nil, List.forall₂_nil_left_iff, exists_eq_left, hnil]
    exact ⟨fun h => (Except.ok.inj h).symm, fun h => h ▸ rfl⟩
  | cons r rs ih =>
    simp only [List.foldlM_cons, bind_eq_ok_iff, add_eq_ok_iff, List.forall₂_cons_left_iff, ih]
    constructor
    · rintro ⟨_, ⟨own, hown, rfl⟩, os, hos, rfl⟩
      exact ⟨_, ⟨own, os, hown, hos, rfl⟩, by rw [joined_cons, append_assoc]⟩
    · rintro ⟨_, ⟨own, os, hown, hos, rfl⟩, rfl⟩
      exact ⟨_, ⟨own, hown, rfl⟩, os, hos, by rw [joined_cons, append_assoc]⟩

/-- **The output of declarations** is what they yield, one behind the other. -/
theorem ofRequests_eq_ok_iff :
    ofRequests rs = .ok o ↔ ∃ os, List.Forall₂ Yields rs os ∧ o = joined os :=
  foldlM_add_eq_ok_iff

/-- **Two lists of declarations** have their outputs one behind the other. -/
theorem ofRequests_append :
    ofRequests (rs ++ more) = .ok o ↔
      ∃ a b, ofRequests rs = .ok a ∧ ofRequests more = .ok b ∧ o = a.append b := by
  rw [ofRequests, List.foldlM_append, bind_eq_ok_iff]
  constructor
  · rintro ⟨a, ha, ho⟩
    obtain ⟨os, hos, rfl⟩ := foldlM_add_eq_ok_iff.1 ho
    exact ⟨a, joined os, ha, ofRequests_eq_ok_iff.2 ⟨os, hos, rfl⟩, rfl⟩
  · rintro ⟨a, _, ha, hb, rfl⟩
    obtain ⟨os, hos, rfl⟩ := ofRequests_eq_ok_iff.1 hb
    exact ⟨a, ha, foldlM_add_eq_ok_iff.2 ⟨os, hos, rfl⟩⟩

/-- **A declaration that fails leaves its siblings alone.**  Behind each other stand what the
declarations yield, first all code, then one call of `compile_error` for each diagnostic.  Two lists
of declarations are expanded as each of them is, and an option set that fails, wherever it stands,
adds its diagnostics and no code. -/
theorem tokens_of_siblings (rs : List Request) (nameable : ∀ r ∈ rs, r.Nameable) :
    ∃ o os, ofRequests rs = .ok o ∧ List.Forall₂ Yields rs os ∧
      o.tokens = os.flatMap (·.generated) ++
        (os.flatMap (·.report.diagnostics)).flatMap (fun d => compileError d.text) ∧
      ∀ before behind, rs = before ++ behind → ∃ a b,
        ofRequests before = .ok a ∧ ofRequests behind = .ok b ∧
        o.generated = a.generated ++ b.generated ∧
        o.report.compileErrors = a.report.compileErrors ++ b.report.compileErrors ∧
        ∀ w ds, OptionSet.ofWritten w = .ok (.error ds) → ∃ p,
          ofRequests (before ++ .optionSet w :: behind) = .ok p ∧ p.generated = o.generated ∧
          p.report.diagnostics = a.report.diagnostics ++ ds ++ b.report.diagnostics := by
  obtain ⟨o, ho⟩ := exists_ofRequests_iff.2 fun r hr => (nameable r hr).exists_expanded
  obtain ⟨os, hos, rfl⟩ := ofRequests_eq_ok_iff.1 ho
  refine ⟨_, os, ho, hos, rfl, fun before behind hsplit => ?_⟩
  obtain ⟨a, b, ha, hb, hjoined⟩ := ofRequests_append.1 (hsplit ▸ ho)
  refine ⟨a, b, ha, hb, by rw [hjoined]; rfl, ?_, fun w ds failed => ?_⟩
  · rw [hjoined]
    exact List.flatMap_append
  · have hfails : ofRequests [.optionSet w] = .ok { report := ⟨ds⟩ } :=
      ofRequests_eq_ok_iff.2 ⟨_, .cons (.failedSet failed) .nil, by simp [joined]⟩
    have hlast : ofRequests (.optionSet w :: behind) = .ok (append { report := ⟨ds⟩ } b) :=
      ofRequests_append.2 ⟨_, _, hfails, hb, rfl⟩
    refine ⟨_, ofRequests_append.2 ⟨_, _, ha, hlast, rfl⟩, by rw [hjoined]; rfl, ?_⟩
    exact (List.append_assoc ..).symm

/-- An option set with one case. -/
def oneCase : Request :=
  .optionSet (.struct (OptionSet.structOf "u8" [.enum (OptionSet.enumOf ["A"])]))

/-- An enum that declares no option set. -/
def noSet : WrittenSet := .other (.enum (OptionSet.enumOf ["A"]))

/-- An enum between an option set and a record is reported, and changes nothing about their code. -/
theorem tokens_of_enum_between : ∃ o p,
    ofRequests [oneCase, .record [] (oneField "a")] = .ok o ∧
    ofRequests [oneCase, .optionSet noSet, .record [] (oneField "a")] = .ok p ∧
    p.generated = o.generated ∧ ⟨.requiresStruct, .none⟩ ∈ p.report.diagnostics := by
  have hcase : oneCase.Nameable := OptionSet.exists_ofWritten_iff.1 ⟨_, rfl⟩
  have hfield : (record [] (oneField "a")).Nameable := by
    have hname : isIdentifier "a".toList = true := isIdentifier_of_isPlainName (by decide)
    exact fun i hi => List.mem_singleton.1 hi ▸ hname
  obtain ⟨o, _, ho, -, -, hsplit⟩ := tokens_of_siblings [oneCase, .record [] (oneField "a")]
    (by simp [hcase, hfield])
  obtain ⟨_, _, -, -, -, -, hinsert⟩ := hsplit [oneCase] [.record [] (oneField "a")] rfl
  obtain ⟨p, hp, hgenerated, hdiagnostics⟩ := hinsert noSet [⟨.requiresStruct, .none⟩] rfl
  exact ⟨o, p, ho, hp, hgenerated, by simp [hdiagnostics]⟩

end Output
end Boilerplate
