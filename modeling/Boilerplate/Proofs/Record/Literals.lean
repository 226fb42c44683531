/-
# Struct expressions are complete

`constructor` and `decode` of `src/persist`; `SPEC_FULL.md` §4.4.

The code of a record makes the struct in three places: in `new`, and where a map or a sequence has
been decoded.  The fields are not at hand there in the order in which they are declared, since those
that are stored and those that are skipped have been told apart, and what is made is a third thing:
the struct without the directives of its fields.  All the same each of its fields is given a value
once, and no other field is (`StructItem.IsMadeBy`, `RecordDeclaration.literals_complete`).

A struct expression is read piece by piece here (`initialized?`), and what each piece has to say is
written out, for stored and for transient fields (`StoredField.IsStartedBy`,
`TransientField.IsStartedBy`, `StoredField.taken`).
-/

import Boilerplate.Proofs.FieldSettings.Arguments
import Boilerplate.Proofs.Record.Emitted

namespace Boilerplate

/-! ### Fields told apart -/

namespace Field

variable {f : Field} {fields : List Field}

/-- Whether an argument of some directive of the field says that the field is skipped. -/
def IsSkipped (f : Field) : Prop :=
  ∃ a ∈ f.attributes, FieldSettings.isDirective a = true ∧ .skip ∈ (FieldArg.ofAttribute a).1

/-- A field is skipped if its directives say so. -/
theorem skip_settings_iff : f.settings.skip = true ↔ f.IsSkipped := by
  have hskip : ∀ x : FieldArg, x.isSkip = true ↔ x = .skip := by
    intro x
    cases x <;> simp [FieldArg.isSkip]
  simp only [settings, FieldSettings.ofAttributes_eq, FieldSettings.ofArgs, FieldSettings.saidBy,
    List.any_eq_true, List.mem_flatMap, List.mem_filter, hskip, exists_eq_right, and_assoc,
    IsSkipped]

/-- Whether a field is skipped is told by its settings. -/
instance (f : Field) : Decidable f.IsSkipped := decidable_of_iff _ skip_settings_iff

/-- Deciding it is looking at its settings. -/
theorem decide_isSkipped (f : Field) : decide f.IsSkipped = f.settings.skip := by
  rw [Bool.eq_iff_iff, decide_eq_true_iff, skip_settings_iff]

/-- The stored fields are those that are not skipped. -/
theorem map_filterMap_stored? {α : Type} (fields : List Field) (k : Ident → TypeExpr → α) :
    (fields.filterMap stored?).map (fun f => k f.name f.type) =
      (fields.filter (¬ ·.IsSkipped)).filterMap fun f => f.name.map (k · f.type) := by
  rw [List.map_filterMap, List.filterMap_filter]
  refine List.filterMap_congr fun f _ => ?_
  rw [decide_not, decide_isSkipped, stored?]
  cases f.name <;> cases f.settings.skip <;> rfl

/-- The transient fields are those that are skipped. -/
theorem map_filterMap_transient? : (fields.filterMap transient?).map (·.name) =
    (fields.filter (·.IsSkipped)).filterMap (·.name) := by
  rw [List.map_filterMap, List.filterMap_filter]
  refine List.filterMap_congr fun f _ => ?_
  rw [decide_isSkipped, transient?]
  cases f.name <;> cases f.settings.skip <;> rfl

/-- **Every field is stored or transient,** and it is so once. -/
theorem perm_names (fields : List Field) : ((fields.filterMap stored?).map (·.name) ++
    (fields.filterMap transient?).map (·.name)).Perm (fields.filterMap (·.name)) := by
  have hstored := map_filterMap_stored? fields fun name _ => name
  simp only [Option.map_id'] at hstored
  rw [hstored, map_filterMap_transient?, ← List.filterMap_append]
  refine List.Perm.filterMap _ (List.perm_append_comm.trans ?_)
  simp only [decide_not]
  exact List.filter_append_perm (fun f => decide f.IsSkipped) fields

end Field

/-! ### What makes a struct -/

/-- The field that a piece of a struct expression gives a value: the piece is its name alone, for
the variable of this name, or its name, a colon, and the value. -/
def initialized? : Tokens → Option Ident
  | [.ident field] => some field
  | .ident field :: .punct ':' _ _ :: _ => some field
  | _ => none

/-- Code that makes a struct under a name, with these pieces for the fields. -/
inductive StructItem.IsMadeBy (s : StructItem) (name : Tokens) : List Tokens → Tokens → Prop
  /-- A struct without braces is made by its name alone. -/
  | bare (unit : s.fields = .unit) : IsMadeBy s name [] name
  /-- Each field is given a value once, and no other field is. -/
  | braced (fields : List Field) (o c : Span) (pieces : List Tokens)
      (named : s.fields = .named fields o c)
      (complete : (pieces.map initialized?).Perm ((fields.filterMap (·.name)).map some)) :
    IsMadeBy s name pieces
      (name ++ [.group .brace (pieces.flatMap (· ++ [.punct ',' .alone .none])) .none .none])

/-- The piece with which `new` fills a stored field. -/
inductive StoredField.IsStartedBy (f : StoredField TypeExpr Expr) : Tokens → Prop
  /-- A default comes first. -/
  | default (e : Expr) (declared : f.default? = some e) :
    IsStartedBy f (.ident f.name :: .punct ':' .alone .none :: e.tokens)
  /-- An optional field without a default is empty. -/
  | empty (undeclared : f.default? = none) (optional : f.isOptional = true) :
    IsStartedBy f (.ident f.name :: .punct ':' .alone .none ::
      code ":: core :: option :: Option :: None")
  /-- A required field has a parameter of its name. -/
  | parameter (undeclared : f.default? = none) (required : f.isOptional = false) :
    IsStartedBy f [.ident f.name]

/-- The piece with which a transient field is filled. -/
inductive TransientField.IsStartedBy (t : TransientField Expr) : Tokens → Prop
  | default (e : Expr) (declared : t.default? = some e) :
    IsStartedBy t (.ident t.name :: .punct ':' .alone .none :: e.tokens)
  /-- Without a default, the field starts as its type does. -/
  | initial (undeclared : t.default? = none) :
    IsStartedBy t (.ident t.name :: .punct ':' .alone .none ::
      code ":: core :: default :: Default :: default ()")

/-- An initializer is written for its field. -/
theorem Initializer.initialized?_tokens (i : Initializer) :
    initialized? i.tokens = some i.field := by
  obtain ⟨field, value⟩ := i
  cases value with
  | none => rfl
  | some v =>
    rw [tokens, code_colon]
    rfl

/-- `new` fills a stored field with its default, with nothing, or from its parameter. -/
theorem StoredField.isStartedBy (f : StoredField TypeExpr Expr) :
    f.IsStartedBy (RecordDeclaration.newInitializer f).tokens := by
  unfold RecordDeclaration.newInitializer StoredField.absent Initializer.tokens
  cases hdefault : f.default? with
  | some e =>
    rw [code_colon]
    exact .default e hdefault
  | none =>
    cases hoptional : f.isOptional with
    | true =>
      rw [code_colon]
      exact .empty hdefault hoptional
    | false => exact .parameter hdefault hoptional

/-- A transient field is filled with its default, or else starts as its type does. -/
theorem TransientField.isStartedBy (t : TransientField Expr) :
    t.IsStartedBy (RecordDeclaration.transientInitializer t).tokens := by
  unfold RecordDeclaration.transientInitializer Initializer.tokens
  cases hdefault : t.default? with
  | some e =>
    rw [code_colon]
    exact .default e hdefault
  | none =>
    rw [code_colon]
    exact .initial hdefault

/-- Without directives, a struct has the fields of a record if it has them with directives. -/
theorem Fields.ofRecord?_undirected (fs : Fields) :
    fs.undirected.ofRecord? = fs.ofRecord?.map (List.map Field.undirected) := by
  cases fs <;> rfl

/-- Fields keep their names when they lose their directives. -/
theorem Field.filterMap_name_undirected (fields : List Field) :
    (fields.map undirected).filterMap (·.name) = fields.filterMap (·.name) := by
  rw [List.filterMap_map]
  rfl

namespace RecordDeclaration

variable {s : StructItem} {fields : List Field} {args : Tokens} {item : Item}
  {d : RecordDeclaration}

/-- A declared record leaves the struct without the directives of its fields. -/
theorem Declares.stripped_eq (h : Declares s fields) : s.stripped = s.undirected := by
  refine StructItem.stripped_eq_undirected fun _ _ _ htuple => ?_
  have hshape := h.shape
  rw [htuple] at hshape
  cases hshape

/-- The pieces for the transient fields. -/
def skippedPieces (d : RecordDeclaration) : List Tokens :=
  (d.transient.map transientInitializer).map Initializer.tokens

/-- The transient fields are filled one by one. -/
theorem isStartedBy_skippedPieces (d : RecordDeclaration) :
    List.Forall₂ (fun t ts => t.IsStartedBy ts) d.transient d.skippedPieces := by
  rw [skippedPieces, List.map_map, List.forall₂_map_right_iff, List.forall₂_same]
  exact fun t _ => t.isStartedBy

/-- **A struct expression** that gives values to the stored fields makes the struct. -/
theorem Declares.isMadeBy_literal (h : Declares s fields) (name : Tokens) {inits : List Initializer}
    (hinits : inits.map (·.field) = (declared s fields).fields.map (·.name)) :
    s.stripped.IsMadeBy name (inits.map Initializer.tokens ++ (declared s fields).skippedPieces)
      ((declared s fields).literal name inits) := by
  have hshape := h.shape
  rw [h.stripped_eq, literal]
  cases hfields : s.fields with
  | tuple =>
    rw [hfields] at hshape
    cases hshape
  | unit =>
    rw [hfields] at hshape
    obtain rfl := Option.some.inj hshape
    have hunit : (declared s []).isUnit = true := by rw [declared, hfields]; rfl
    have hbare : s.undirected.fields = .unit := by rw [StructItem.undirected, hfields]; rfl
    obtain rfl : inits = [] := List.map_eq_nil_iff.1 hinits
    rw [if_pos hunit]
    exact .bare hbare
  | named fs o c =>
    rw [hfields] at hshape
    obtain rfl := Option.some.inj hshape
    have hunit : (declared s fs).isUnit = false := by rw [declared, hfields]; rfl
    have hnamed : s.undirected.fields = .named (fs.map Field.undirected) o c := by
      rw [StructItem.undirected, hfields]
      rfl
    have hread : ∀ is : List Initializer,
        (is.map Initializer.tokens).map initialized? = (is.map (·.field)).map some := by
      intro is
      rw [List.map_map, List.map_map]
      exact List.map_congr_left fun i _ => i.initialized?_tokens
    have htransient : ((declared s fs).transient.map transientInitializer).map (·.field) =
        (fs.filterMap Field.transient?).map (·.name) := List.map_map
    rw [if_neg (by rw [hunit]; decide), skippedPieces, ← List.map_append]
    refine .braced _ o c _ hnamed ?_
    rw [hread, List.map_append, hinits, htransient, Field.filterMap_name_undirected]
    exact (Field.perm_names fs).map some

/-- `new` ends with a struct expression. -/
theorem exists_newMember_ends (d : RecordDeclaration) : ∃ before, d.newMember.tokens =
    before ++ code "-> Self" ++ braces (d.literal (code "Self") (d.fields.map newInitializer)) := by
  simp only [newMember, Member.documented, ← List.append_assoc]
  exact ⟨_, rfl⟩

/-- A function that decodes a form of the record ends with the decoded record. -/
theorem exists_visit_ends (d : RecordDeclaration) (function access source : String)
    (body : Tokens) : ∃ before, d.visit function access source body = before ++
      braces (body ++ code ":: core :: result :: Result :: Ok" ++
        [.group .parenthesis d.decoded .none .none]) := by
  have hok : RecordCode.ok d.decoded = code ":: core :: result :: Result :: Ok" ++
      [.group .parenthesis d.decoded .none .none] := by
    rw [RecordCode.ok, ← RecordCode.code_ok, parens]
  rw [visit, hok, ← List.append_assoc body]
  exact ⟨_, rfl⟩

/-- **Struct expressions are complete.**  The fields of a declared record are told apart in their
order: those that no directive skips are stored with their types, and the others are transient.  The
struct that is left has all of them, with the same types and in the same order.  `new` and the two
functions that decode the record end with code that makes this struct: each of its fields gets a
value once and no other field does.  In `new`, stored fields get their defaults or parameters, and
in the decoders what was decoded for their numbers; transient fields start alike in all three.  A
struct without braces is made by its name alone, and has neither stored nor transient fields. -/
theorem literals_complete (accepted : ofItem args item = .ok d) :
    ∃ s fields, item = .struct s ∧ s.fields.ofRecord? = some fields ∧
      d.fields.map (fun f => (f.name, f.type)) =
        (fields.filter (¬ ·.IsSkipped)).filterMap (fun f => f.name.map (·, f.type)) ∧
      d.transient.map (·.name) = (fields.filter (·.IsSkipped)).filterMap (·.name) ∧
      (∃ kept, d.cleaned.fields.ofRecord? = some kept ∧
        kept.map (fun f => (f.name, f.type)) = fields.map fun f => (f.name, f.type)) ∧
      (∃ skipped, List.Forall₂ (fun t ts => t.IsStartedBy ts) d.transient skipped ∧
        (∃ before stored value, d.newMember.tokens = before ++ code "-> Self" ++ braces value ∧
          List.Forall₂ (fun f ts => f.IsStartedBy ts) d.fields stored ∧
          d.cleaned.IsMadeBy (code "Self") (stored ++ skipped) value) ∧
        (∃ before body value, d.mapReader = before ++
            braces (body ++ code ":: core :: result :: Result :: Ok" ++
              [.group .parenthesis value .none .none]) ∧
          d.cleaned.IsMadeBy [.ident d.cleaned.name]
            (d.fields.zipIdx.map (fun p => p.1.taken p.2) ++ skipped) value) ∧
        ∃ before body value, d.sequenceReader = before ++
            braces (body ++ code ":: core :: result :: Result :: Ok" ++
              [.group .parenthesis value .none .none]) ∧
          d.cleaned.IsMadeBy [.ident d.cleaned.name]
            (d.fields.zipIdx.map (fun p => p.1.taken p.2) ++ skipped) value) ∧
      (s.fields = .unit → d.fields = [] ∧ d.transient = []) := by
  cases item with
  | enum e => cases accepted
  | other kind name ts => cases accepted
  | struct s =>
    obtain ⟨-, fields, h, rfl⟩ := ofItem_struct_eq_ok_iff_declares.1 accepted
    let inits := (declared s fields).fields.map newInitializer
    have hnew : s.stripped.IsMadeBy (code "Self")
        (inits.map Initializer.tokens ++ (declared s fields).skippedPieces)
        ((declared s fields).literal (code "Self") inits) :=
      h.isMadeBy_literal _ List.map_map
    have hdecoded : s.stripped.IsMadeBy [.ident s.stripped.name]
        ((declared s fields).fields.zipIdx.map (fun p => p.1.taken p.2) ++
          (declared s fields).skippedPieces) (declared s fields).decoded := by
      have hpieces : ((declared s fields).fields.zipIdx.map fun p =>
          slotInitializer p.1 p.2).map Initializer.tokens =
          (declared s fields).fields.zipIdx.map fun p => p.1.taken p.2 := by
        rw [List.map_map]
        exact List.map_congr_left fun p _ => p.1.tokens_slotInitializer p.2
      rw [StructItem.name_stripped, ← hpieces]
      refine h.isMadeBy_literal _ ?_
      rw [List.map_map]
      exact RecordShape.map_fst_zipIdx StoredField.name _
    refine ⟨s, fields, rfl, h.shape, Field.map_filterMap_stored? fields Prod.mk,
      Field.map_filterMap_transient?, ⟨fields.map Field.undirected, ?_, ?_⟩,
      ⟨_, isStartedBy_skippedPieces _, ?_, ?_, ?_⟩, ?_⟩
    · exact (congrArg (fun s => s.fields.ofRecord?) h.stripped_eq).trans
        ((Fields.ofRecord?_undirected s.fields).trans (by rw [h.shape, Option.map_some]))
    · rw [List.map_map]
      rfl
    · obtain ⟨before, hbefore⟩ := exists_newMember_ends (declared s fields)
      refine ⟨before, _, _, hbefore, ?_, hnew⟩
      rw [List.map_map, List.forall₂_map_right_iff, List.forall₂_same]
      exact fun f _ => f.isStartedBy
    · obtain ⟨before, hbefore⟩ := exists_visit_ends (declared s fields) "visit_map" ..
      exact ⟨before, _, _, hbefore, hdecoded⟩
    · obtain ⟨before, hbefore⟩ := exists_visit_ends (declared s fields) "visit_seq" ..
      exact ⟨before, _, _, hbefore, hdecoded⟩
    · intro hunit
      have hshape := h.shape
      rw [hunit] at hshape
      obtain rfl := Option.some.inj hshape
      exact ⟨rfl, rfl⟩

/-- A record whose skipped fields stand between others. -/
def alternating : StructItem :=
  structOf [({ name := "a" }, named "skip"), ({ name := "b" }, []),
    ({ name := "type", raw := true }, code "default = 1 , skip"),
    ({ name := "c" }, code "default = 2")]

/-- The struct expression in `new` for `alternating`. -/
def alternatingValue : Tokens :=
  code "Self \x7b b , c : 2 , a : :: core :: default :: Default :: default () , r#type : 1 , \x7d"

/-- `new` of `alternating` fills its four fields. -/
theorem literals_complete_alternating : ∃ d, ofItem [] (.struct alternating) = .ok d ∧
    d.fields.map (·.name.text) = ["b", "c"] ∧ d.transient.map (·.name.text) = ["a", "r#type"] ∧
    ∃ before pieces, d.newMember.tokens = before ++ code "-> Self" ++ braces alternatingValue ∧
      d.cleaned.IsMadeBy (code "Self") pieces alternatingValue := by
  have hfacts : (ofItem [] (.struct alternating)).toOption.map (fun d =>
      (d.fields.map (·.name.text), d.transient.map (·.name.text), d.newMember.tokens.getLast?)) =
      some (["b", "c"], ["a", "r#type"], some (.group .brace alternatingValue .none .none)) := by
    decide +kernel
  obtain ⟨d, accepted, hfacts⟩ := exists_eq_ok_of_toOption hfacts
  obtain ⟨hfields, hfacts⟩ := Prod.mk.inj hfacts
  obtain ⟨htransient, hlast⟩ := Prod.mk.inj hfacts
  obtain ⟨s, fields, -, -, -, -, -, ⟨skipped, -, ⟨before, stored, value, hnew, -, hvalue⟩, -⟩, -⟩ :=
    literals_complete accepted
  obtain rfl : value = alternatingValue := by
    rw [hnew, braces, List.getLast?_concat] at hlast
    cases hlast
    rfl
  exact ⟨d, accepted, hfields, htransient, before, _, hnew, hvalue⟩

end RecordDeclaration
end Boilerplate
