/-
# Code around a struct

Generated code is put around a struct if the traits that it wants derived have proper names
(`exists_withDeclarations`), and behind it if it wants none derived
(`withDeclarations_of_implementations`).  What provides no trait neither changes which traits are
missing nor is it ever left out, so that more of it only adds its code, each piece where it belongs
(`withDeclarations_append`).
-/

import Boilerplate.Declaration
import Boilerplate.Proofs.Naming

namespace Boilerplate

/-! ### Traits that are derived -/

/-- Whether the traits that the code wants derived have proper names. -/
def Declaration.DerivesNamed (d : Declaration) : Prop :=
  ∀ t ∈ d.provides, t.means = .derive → isIdentifier t.name.toList = true

namespace Declaration

/-- Code that provides no trait asks for no derivation. -/
theorem derivesNamed_of_provides_nil {d : Declaration} (h : d.provides = []) : d.DerivesNamed := by
  intro t ht
  rw [h] at ht
  cases ht

/-- An implementation asks for no derivation. -/
theorem derivesNamed_implementation (trait : String) (ts : Tokens) :
    (implementation trait ts).DerivesNamed := by
  intro t ht hderive
  obtain rfl := List.mem_singleton.1 ht
  cases hderive

/-- A derivation asks for a trait with a proper name if its trait has one. -/
theorem derivesNamed_derivation {trait : String} (h : isIdentifier trait.toList = true) :
    (derivation trait).DerivesNamed := by
  intro t ht _
  obtain rfl := List.mem_singleton.1 ht
  exact h

end Declaration

/-- Code is put around a struct if the traits that it wants derived have proper names. -/
theorem exists_withDeclarations {s : StructItem} {ds : List Declaration}
    (h : ∀ d ∈ ds, d.DerivesNamed) : ∃ ts, s.withDeclarations ds = .ok ts := by
  let missing := ProvidedTrait.missing (ProvidedTrait.declared s.attributes)
    (ds.flatMap (·.provides))
  obtain ⟨traits, htraits⟩ : ∃ traits, ((missing.filter (·.means == .derive)).mapM fun t =>
      Ident.ofString t.name) = .ok traits := by
    refine Ident.exists_mapM_ofString fun t ht => ?_
    obtain ⟨hmissing, hderive⟩ := List.mem_filter.1 ht
    obtain ⟨d, hd, htd⟩ := List.mem_flatMap.1 (List.mem_of_mem_filter hmissing)
    exact h d hd t htd (eq_of_beq hderive)
  obtain ⟨more, hmore⟩ : ∃ more, Declaration.derivingAttributes missing = .ok more :=
    ⟨_, bind_eq_ok_iff.2 ⟨traits, htraits, rfl⟩⟩
  exact ⟨_, bind_eq_ok_iff.2 ⟨more, hmore, rfl⟩⟩

/-! ### Code behind a struct -/

/-- The code that stands beside a struct when these traits are missing. -/
def Declaration.wanted (missing : List ProvidedTrait) (ds : List Declaration) : List Declaration :=
  (ds.filter (·.placement == .beside)).filter (·.isWanted missing)

/-- The struct comes first, perhaps with more attributes. -/
theorem withDeclarations_eq_ok {s : StructItem} {ds : List Declaration} {ts : Tokens}
    (h : s.withDeclarations ds = .ok ts) : ∃ more behind,
      ts = { s with attributes := s.attributes ++ more }.tokens ++ behind := by
  obtain ⟨more, -, heq⟩ := bind_eq_ok_iff.1 h
  obtain rfl := Except.ok.inj heq
  exact ⟨more, _, List.append_assoc ..⟩

/-- **Code that wants nothing derived** is put behind the struct, which stays as it is. -/
theorem withDeclarations_of_implementations (s : StructItem) {ds : List Declaration}
    (h : ∀ t ∈ ds.flatMap (·.provides), t.means = .impl) :
    ∃ missing, s.withDeclarations ds = .ok (s.tokens ++ (Declaration.memberBlock s.name ds ++
      (Declaration.wanted missing ds).flatMap (·.tokens))) := by
  let missing := ProvidedTrait.missing (ProvidedTrait.declared s.attributes)
    (ds.flatMap (·.provides))
  have hderived : missing.filter (·.means == .derive) = [] := by
    refine List.filter_eq_nil_iff.2 fun t ht hderive => ?_
    rw [h t (List.mem_of_mem_filter ht)] at hderive
    cases hderive
  have hmore : Declaration.derivingAttributes missing = .ok [] := by
    rw [Declaration.derivingAttributes, hderived]
    rfl
  refine ⟨missing, bind_eq_ok_iff.2 ⟨[], hmore, ?_⟩⟩
  rw [List.append_nil, ← List.append_assoc]
  rfl

/-! ### More code -/

namespace Declaration

/-- The code of those that go to the same place, in their order. -/
def codeAt (place : Placement) (ds : List Declaration) : Tokens :=
  (ds.filter (·.placement == place)).flatMap (·.tokens)

variable {place : Placement} {missing : List ProvidedTrait} {ds more : List Declaration}

/-- The code at a place, of two lists of pieces. -/
theorem codeAt_append : codeAt place (ds ++ more) = codeAt place ds ++ codeAt place more := by
  rw [codeAt, List.filter_append, List.flatMap_append, codeAt, codeAt]

/-- What provides nothing is always wanted. -/
theorem filter_isWanted_of_provides_nil (h : ∀ d ∈ more, d.provides = []) :
    more.filter (·.isWanted missing) = more :=
  List.filter_eq_self.2 fun d hd => by rw [isWanted, h d hd]; rfl

/-- The block with the members, if there is one. -/
theorem memberBlock_eq {name : Ident} (h : ∃ d ∈ ds, d.placement = .member) :
    memberBlock name ds = code "impl" ++ [.ident name] ++ braces (codeAt .member ds) := by
  obtain ⟨d, hd, hplace⟩ := h
  have hmem : d ∈ ds.filter (·.placement == .member) :=
    List.mem_filter.2 ⟨hd, beq_iff_eq.2 hplace⟩
  rw [memberBlock]
  split
  · rename_i hempty
    rw [List.isEmpty_iff.1 hempty] at hmem
    cases hmem
  · rfl

end Declaration

open Declaration

/-- **More code that provides no trait** is put behind the other code of its place, and changes
nothing else. -/
theorem withDeclarations_append {s : StructItem} {ds : List Declaration} {ts : Tokens}
    (hmember : ∃ d ∈ ds, d.placement = .member) (h : s.withDeclarations ds = .ok ts) :
    ∃ host members beside, ∀ more, (∀ d ∈ more, d.provides = []) →
      s.withDeclarations (ds ++ more) = .ok (host ++
        (code "impl" ++ [.ident s.name] ++ braces (members ++ codeAt .member more)) ++
        (beside ++ codeAt .beside more)) := by
  obtain ⟨attributes, hattributes, -⟩ := bind_eq_ok_iff.1 h
  let missing := ProvidedTrait.missing (ProvidedTrait.declared s.attributes)
    (ds.flatMap (·.provides))
  refine ⟨{ s with attributes := s.attributes ++ attributes }.tokens, codeAt .member ds,
    ((ds.filter (·.placement == .beside)).filter (·.isWanted missing)).flatMap (·.tokens),
    fun more hmore => ?_⟩
  -- The missing traits, and with them the attributes and what is left out, stay as they were.
  have hprovides : (ds ++ more).flatMap (·.provides) = ds.flatMap (·.provides) := by
    rw [List.flatMap_append, List.flatMap_eq_nil_iff.2 hmore, List.append_nil]
  have hmembers : ∃ d ∈ ds ++ more, d.placement = .member := by
    obtain ⟨d, hd, hplace⟩ := hmember
    exact ⟨d, List.mem_append_left _ hd, hplace⟩
  rw [StructItem.withDeclarations, hprovides]
  refine bind_eq_ok_iff.2 ⟨attributes, hattributes, congrArg Except.ok ?_⟩
  have hbeside : ∀ d ∈ more.filter (·.placement == .beside), d.provides = [] :=
    fun d hd => hmore d (List.mem_of_mem_filter hd)
  rw [memberBlock_eq hmembers, codeAt_append, List.filter_append, List.filter_append,
    filter_isWanted_of_provides_nil hbeside, List.flatMap_append]
  rfl

end Boilerplate
