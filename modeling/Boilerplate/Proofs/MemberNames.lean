/-
# Names of members

The members of `src/bitmask` and `src/persist`; `SPEC_FULL.md` §4.3, §4.4.

No two of the members that are generated for a type have the same name (`member_names_apart`).  An
option set is accepted only if the constants of its cases are apart from each other and from the one
that lists their names.  Nobody checks that they are apart from its functions: they are, since a
constant is written in upper case and so has no small letters (`OptionCase.hasNoSmall_constant`),
which every function has.  A record has setters for some of its fields, and the key of a field can
be told from the name of its setter.

What a member is called is read from its code: behind attributes and the visibility, it is the name
that stands with `fn` or `const` (`Member.IsNamed`).
-/

import Boilerplate.Proofs.Code
import Boilerplate.Proofs.OptionSet.Code
import Boilerplate.Proofs.OptionSet.Declares
import Boilerplate.Proofs.Record.Setters

namespace Boilerplate

/-! ### Constants -/

/-- Whether a name has no small letters of ASCII. -/
def HasNoSmall (name : String) : Prop := ∀ c ∈ name.toList, c.isLower = false

/-- Whether a name has small letters is a matter of looking at it. -/
instance (name : String) : Decidable (HasNoSmall name) :=
  List.decidableBAll (fun c : Char => c.isLower = false) name.toList

/-- **A constant has no small letters.** -/
theorem OptionCase.hasNoSmall_constant {is : List Ident} {cases : List OptionCase}
    (h : OptionCase.ofIdents is = .ok cases) {c : OptionCase} (hc : c ∈ cases) :
    HasNoSmall c.constant.text := by
  obtain rfl := (ofIdents_eq_ok_iff.1 h).2
  obtain ⟨p, -, rfl⟩ := List.mem_map.1 hc
  intro d hd
  have hd : d ∈ Words.upperSnake p.1.name.toList := by
    rw [← String.toList_ofList (l := Words.upperSnake p.1.name.toList)]
    exact hd
  rcases Words.mem_join hd with rfl | ⟨w, hw, hdw⟩
  · rfl
  · obtain ⟨v, -, rfl⟩ := List.mem_map.1 hw
    obtain ⟨e, -, hde⟩ := List.mem_flatMap.1 hdw
    exact Unicode.isLower_eq_false_of_mem_upper hde

/-! ### Names in code -/

/-- The name of the function or constant that code declares which starts with these signs. -/
def declaredIn : List Sign → Option String
  | .word "fn" :: .word name :: _ => some name
  | .word "const" :: .word "fn" :: .word name :: _ => some name
  | .word "const" :: .word name :: _ => if name = "fn" then none else some name
  | _ => none

/-- Whatever comes behind it, the name is the same. -/
theorem declaredIn_append {signs : List Sign} {name : String} (h : declaredIn signs = some name)
    (more : List Sign) : declaredIn (signs ++ more) = some name := by
  unfold declaredIn at h
  split at h
  · exact h
  · exact h
  · split at h
    · cases h
    · rename_i hne
      simpa [declaredIn, hne] using h
  · cases h

/-- Whether the code of a member says its name: behind attributes and the visibility it declares a
function or constant of that name. -/
def Member.IsNamed (visibility : Tokens) (x : Member) : Prop :=
  ∃ (attributes : List Tokens) (rest : Tokens),
    x.tokens = attributes.flatMap marked ++ visibility ++ rest ∧
      declaredIn (rest.map Token.sign) = some x.name

namespace Member

variable {visibility : Tokens} {x : Member}

/-- A name that stands in the first words of a member. -/
theorem isNamed_of_start (attributes : List Tokens) (start : Tokens)
    (hstart : declaredIn (start.map Token.sign) = some x.name)
    (htokens : ∃ more, x.tokens = attributes.flatMap marked ++ visibility ++ (start ++ more)) :
    x.IsNamed visibility := by
  obtain ⟨more, hmore⟩ := htokens
  refine ⟨attributes, _, hmore, ?_⟩
  rw [List.map_append]
  exact declaredIn_append hstart _

/-- Documentation does not change the name. -/
theorem IsNamed.documented (h : x.IsNamed visibility) (lines : List String) :
    (x.documented lines).IsNamed visibility := by
  obtain ⟨attributes, rest, htokens, hname⟩ := h
  choose content hcontent using fun line => (⟨_, rfl⟩ : ∃ ts, docLine line = marked ts)
  have hlines : lines.flatMap docLine = (lines.map content).flatMap marked := by
    rw [List.flatMap_map]
    exact congrArg (lines.flatMap ·) (funext hcontent)
  refine ⟨lines.map content ++ attributes, rest, ?_, hname⟩
  rw [Member.documented, htokens, hlines, List.flatMap_append]
  simp only [List.append_assoc]

end Member

/-- The keywords of a function and of a constant. -/
theorem signs_of_keywords : (code "fn").map Token.sign = [.word "fn"] ∧
    (code "const").map Token.sign = [.word "const"] ∧
    (code "const fn").map Token.sign = [.word "const", .word "fn"] := by
  decide +kernel

/-- What members start with that are written out, and the names that they declare. -/
def memberStarts : List (String × String) :=
  [("const fn from_raw_value", "from_raw_value"),
    ("fn from_name (name : & str) -> :: core :: option :: Option < Self >", "from_name"),
    ("const FIELD_KEYS : & 'static [& 'static str] = &", "FIELD_KEYS"),
    ("fn new", "new"),
    ("fn raw_value (& self) -> :: std :: string :: String", "raw_value"),
    ("fn from_raw_value (raw : & str) -> :: core :: option :: Option < Self >", "from_raw_value")]

/-- They declare these names. -/
theorem declaredIn_memberStarts :
    ∀ p ∈ memberStarts, declaredIn ((code p.1).map Token.sign) = some p.2 := by
  decide +kernel

/-- What starts with one of them declares its name. -/
theorem declaredIn_start {start name : String} (h : (start, name) ∈ memberStarts) :
    declaredIn ((code start).map Token.sign) = some name :=
  declaredIn_memberStarts (start, name) h

/-! ### Option sets -/

namespace OptionSet

variable {m : OptionSet} {cases : List OptionCase}

/-- A function member has the name that it is made with. -/
theorem isNamed_function (name : String) (signature body : Tokens) :
    (m.function name signature body).IsNamed m.visibility := by
  refine Member.isNamed_of_start [] (code "fn" ++ named name) ?_ ⟨signature ++ braces body, ?_⟩
  · rw [List.map_append, signs_of_keywords.1]
    rfl
  · simp only [function, List.flatMap_nil, List.nil_append, List.append_assoc]

/-- A function that is evaluated at compile time has the name that it is made with. -/
theorem isNamed_constFunction (name signature : String) (result body : Tokens) :
    (m.constFunction name signature result body).IsNamed m.visibility := by
  refine Member.isNamed_of_start [code "inline"] (code "const fn" ++ named name) ?_
    ⟨code signature ++ code "->" ++ result ++ braces body, ?_⟩
  · rw [List.map_append, signs_of_keywords.2.2]
    rfl
  · simp only [constFunction, inline, List.flatMap_cons, List.flatMap_nil, List.append_nil,
      List.append_assoc]

/-- The members for raw values have the names that they are listed with. -/
theorem isNamed_rawMembers : ∀ x ∈ m.rawMembers, x.IsNamed m.visibility := by
  have hraw : declaredIn ((code "const fn from_raw_value").map Token.sign) =
      some "from_raw_value" := declaredIn_start (by simp [memberStarts])
  simp only [rawMembers, List.forall_mem_cons]
  refine ⟨(isNamed_constFunction ..).documented _, ?_, isNamed_constFunction .., by simp⟩
  refine Member.IsNamed.documented ?_ _
  refine Member.isNamed_of_start [code "inline"] _ hraw ?_
  simp only [inline, List.flatMap_cons, List.flatMap_nil, List.append_nil, List.append_assoc]
  exact ⟨_, rfl⟩

/-- The members for sets have the names that they are listed with. -/
theorem isNamed_setMembers : ∀ x ∈ m.setMembers cases, x.IsNamed m.visibility := by
  simp only [setMembers, List.forall_mem_cons]
  exact ⟨(isNamed_constFunction ..).documented _, isNamed_constFunction ..,
    (isNamed_constFunction ..).documented _, isNamed_constFunction .., isNamed_constFunction ..,
    isNamed_constFunction .., (isNamed_function ..).documented _,
    (isNamed_function ..).documented _, (isNamed_function ..).documented _, by simp⟩

/-- The members for names have the names that they are listed with. -/
theorem isNamed_nameMembers : ∀ x ∈ m.nameMembers cases, x.IsNamed m.visibility := by
  have hfrom : declaredIn ((code
      "fn from_name (name : & str) -> :: core :: option :: Option < Self >").map Token.sign) =
      some "from_name" := declaredIn_start (by simp [memberStarts])
  simp only [nameMembers, List.forall_mem_cons]
  refine ⟨(isNamed_function ..).documented _, ?_, (isNamed_function ..).documented _, by simp⟩
  refine Member.IsNamed.documented ?_ _
  refine Member.isNamed_of_start [code "allow (unreachable_patterns)"] _ hfrom ?_
  simp only [List.flatMap_cons, List.flatMap_nil, List.append_nil, List.append_assoc]
  exact ⟨_, rfl⟩

/-- The constant of a case, unless that is the keyword of a function. -/
theorem isNamed_caseConstant {c : OptionCase} (h : c.constant.text ≠ "fn") :
    (m.caseConstant c).IsNamed m.visibility := by
  have htokens : ∃ doc more, (m.caseConstant c).tokens =
      marked doc ++ (m.visibility ++ (code "const" ++ ([.ident c.constant] ++ more))) := by
    simp only [caseConstant, List.append_assoc]
    exact ⟨_, _, rfl⟩
  obtain ⟨doc, more, htokens⟩ := htokens
  refine Member.isNamed_of_start [doc] (code "const" ++ [.ident c.constant]) ?_ ⟨more, ?_⟩
  · rw [List.map_append, signs_of_keywords.2.1]
    simp [declaredIn, Token.sign, caseConstant, h]
  · simp only [htokens, List.flatMap_cons, List.flatMap_nil, List.append_nil, List.append_assoc]

/-- The list of names has the name that is reserved for it. -/
theorem isNamed_nameList : (m.nameList cases).IsNamed m.visibility := by
  have htokens : ∃ doc more, (m.nameList cases).tokens =
      marked doc ++ (m.visibility ++ (code "const" ++ (named reservedConstant ++ more))) := by
    simp only [nameList, docLine, List.append_assoc]
    exact ⟨_, _, rfl⟩
  obtain ⟨doc, more, htokens⟩ := htokens
  refine Member.isNamed_of_start [doc] (code "const" ++ named reservedConstant) ?_ ⟨more, ?_⟩
  · rw [List.map_append, signs_of_keywords.2.1]
    rfl
  · simp only [htokens, List.flatMap_cons, List.flatMap_nil, List.append_nil, List.append_assoc]

/-- The code of the members says their names. -/
theorem isNamed_members (h : ∀ c ∈ cases, c.constant.text ≠ "fn") :
    ∀ x ∈ m.members cases, x.IsNamed m.visibility := by
  simp only [members, List.forall_mem_append, List.forall_mem_map, List.forall_mem_singleton]
  exact ⟨⟨⟨⟨isNamed_rawMembers, fun c hc => isNamed_caseConstant (h c hc)⟩, isNamed_nameList⟩,
    isNamed_setMembers⟩, isNamed_nameMembers⟩

/-- The functions that every option set has, by their names. -/
def functionNames : List String :=
  ["new", "from_raw_value", "raw_value", "all", "is_empty", "contains", "union", "intersection",
    "difference", "insert", "remove", "iter", "name", "from_name", "joined"]

/-- Beside its functions an option set has the constants of its cases and the one that lists their
names. -/
theorem perm_map_name_members (m : OptionSet) (cases : List OptionCase) :
    ((m.members cases).map (·.name)).Perm
      (reservedConstant :: cases.map (·.constant.text) ++ functionNames) := by
  have hnames : (m.members cases).map (·.name) = functionNames.take 3 ++
      cases.map (·.constant.text) ++ [reservedConstant] ++ functionNames.drop 3 := by
    simp [members, rawMembers, setMembers, nameMembers, nameList, caseConstant, constFunction,
      function, Member.documented, functionNames, Function.comp_def]
  rw [hnames, List.perm_iff_count]
  intro name
  have hfunctions := congrArg (List.count name) (List.take_append_drop 3 functionNames)
  rw [List.count_append] at hfunctions
  simp only [List.cons_append, List.count_cons, List.count_append, List.count_nil]
  omega

/-- **Functions are apart from constants,** since they have small letters. -/
theorem nodup_map_name_members (hcases : ∀ c ∈ cases, HasNoSmall c.constant.text)
    (hnodup : (cases.map (·.constant.text)).Nodup)
    (hfree : reservedConstant ∉ cases.map (·.constant.text)) :
    ((m.members cases).map (·.name)).Nodup := by
  have hfunctions : functionNames.Nodup ∧ ∀ name ∈ functionNames, ¬ HasNoSmall name := by decide
  have hreserved : HasNoSmall reservedConstant := by decide
  have hconstants : ∀ name ∈ reservedConstant :: cases.map (·.constant.text), HasNoSmall name :=
    List.forall_mem_cons.2 ⟨hreserved, List.forall_mem_map.2 hcases⟩
  rw [(perm_map_name_members m cases).nodup_iff, List.nodup_append]
  refine ⟨List.nodup_cons.2 ⟨hfree, hnodup⟩, hfunctions.1, fun name hname other hother heq => ?_⟩
  exact hfunctions.2 other hother (heq ▸ hconstants name hname)

/-- The members of an option set are those that every option set has, and what is carried. -/
theorem filter_declarations :
    (m.declarations cases).filter (·.placement == .member) =
      (m.members cases).map Member.declaration ++
        (m.carried.map carry).filter (·.placement == .member) := by
  have hderived : (derivedTraits.map Declaration.derivation).filter (·.placement == .member) = [] :=
    rfl
  have hmembers : ((m.members cases).map Member.declaration).filter (·.placement == .member) =
      (m.members cases).map Member.declaration :=
    List.filter_eq_self.2 (List.forall_mem_map.2 fun _ _ => rfl)
  have himplementations : m.implementations.filter (·.placement == .member) = [] := by
    refine List.filter_eq_nil_iff.2 fun d hd => ?_
    obtain ⟨trait, ts, rfl⟩ := exists_implementation_of_mem hd
    simp [Declaration.implementation]
  rw [declarations, List.filter_append, List.filter_append, List.filter_append, hderived, hmembers,
    himplementations, List.nil_append, List.append_nil]

end OptionSet

/-! ### Records -/

namespace RecordDeclaration

variable {d : RecordDeclaration}

/-- A setter has the name that it is made with. -/
theorem isNamed_setter (f : StoredField TypeExpr Expr) :
    (d.setter f).IsNamed d.visibility := by
  refine Member.isNamed_of_start [code "must_use"] (code "fn" ++ named (setterName f)) ?_ ?_
  · rw [List.map_append, signs_of_keywords.1]
    rfl
  · simp only [setter, List.flatMap_cons, List.flatMap_nil, List.append_nil, List.append_assoc]
    exact ⟨_, rfl⟩

/-- The code of the members says their names. -/
theorem isNamed_members : ∀ x ∈ d.members, x.IsNamed d.visibility := by
  have hkeys : declaredIn ((code "const FIELD_KEYS : & 'static [& 'static str] = &").map
      Token.sign) = some "FIELD_KEYS" := declaredIn_start (by simp [memberStarts])
  have hnew : declaredIn ((code "fn new").map Token.sign) = some "new" :=
    declaredIn_start (by simp [memberStarts])
  have hraw : declaredIn ((code "fn raw_value (& self) -> :: std :: string :: String").map
      Token.sign) = some "raw_value" := declaredIn_start (by simp [memberStarts])
  have hfrom : declaredIn ((code
      "fn from_raw_value (raw : & str) -> :: core :: option :: Option < Self >").map
      Token.sign) = some "from_raw_value" := declaredIn_start (by simp [memberStarts])
  simp only [members, stringMembers, List.forall_mem_append, List.forall_mem_map,
    List.forall_mem_cons, List.not_mem_nil, false_imp_iff, implies_true, and_true]
  refine ⟨⟨⟨?_, ?_⟩, fun f _ => isNamed_setter f⟩, ?_, ?_⟩
  · refine Member.IsNamed.documented (Member.isNamed_of_start [] _ hkeys ?_) _
    simp only [List.flatMap_nil, List.nil_append, List.append_assoc]
    exact ⟨_, rfl⟩
  · refine Member.IsNamed.documented
      (Member.isNamed_of_start [code "allow (clippy :: new_without_default)"] _ hnew ?_) _
    simp only [List.flatMap_cons, List.flatMap_nil, List.append_nil, List.append_assoc]
    exact ⟨_, rfl⟩
  · refine Member.IsNamed.documented (Member.isNamed_of_start [] _ hraw ?_) _
    simp only [List.flatMap_nil, List.nil_append, List.append_assoc]
    exact ⟨_, rfl⟩
  · refine Member.IsNamed.documented (Member.isNamed_of_start [] _ hfrom ?_) _
    simp only [List.flatMap_nil, List.nil_append, List.append_assoc]
    exact ⟨_, rfl⟩

/-- **Keys that are apart** have setters that are apart, and no other member is called like one. -/
theorem nodup_map_name_members (apart : d.keys.Nodup) : (d.members.map (·.name)).Nodup := by
  have hkeys : (d.settable.map (·.key)).Nodup := (List.filter_sublist.map _).nodup apart
  have hsetters : ∀ name ∈ (d.settable.map (·.key)).map ("with_" ++ ·),
      name.toList.head? = some 'w' := List.forall_mem_map.2 fun key _ => by simp
  have hothers : ∀ name ∈ ["FIELD_KEYS", "new"] ++ ["raw_value", "from_raw_value"],
      name.toList.head? ≠ some 'w' := by decide
  rw [map_name_members, List.append_assoc, (List.perm_append_comm.append_left _).nodup_iff,
    ← List.append_assoc, List.nodup_append]
  refine ⟨by decide, hkeys.map with_injective, ?_⟩
  rintro name hname _ hsetter rfl
  exact hothers name hname (hsetters name hsetter)

/-- The members of a record are those that were generated. -/
theorem filter_declarations :
    d.declarations.filter (·.placement == .member) = d.members.map Member.declaration := by
  have hmembers : (d.members.map Member.declaration).filter (·.placement == .member) =
      d.members.map Member.declaration :=
    List.filter_eq_self.2 (List.forall_mem_map.2 fun _ _ => rfl)
  rw [declarations, List.append_assoc, List.filter_append, hmembers]
  exact List.append_nil _

end RecordDeclaration

/-- **No two generated members have the same name**, read from their code.  Those of an accepted
option set are the constants of its cases, the constant that lists their names, and functions; what
else is a member was carried.  Those of a record whose keys are apart are its list of keys, the
functions that make it and turn it into text and back, and a setter for each field that is not
required. -/
theorem member_names_apart :
    (∀ written m, OptionSet.ofWritten written = .ok (.ok m) →
      ∃ cases, OptionCase.ofIdents m.cases = .ok cases ∧
        (m.declarations cases).filter (·.placement == .member) =
          (m.members cases).map Member.declaration ++
            (m.carried.map OptionSet.carry).filter (·.placement == .member) ∧
        (∀ x ∈ m.members cases, x.IsNamed m.visibility) ∧
        ((m.members cases).map (·.name)).Perm (OptionSet.reservedConstant ::
          cases.map (·.constant.text) ++ OptionSet.functionNames) ∧
        ((m.members cases).map (·.name)).Nodup) ∧
    ∀ d : RecordDeclaration, d.keys.Nodup →
      d.declarations.filter (·.placement == .member) = d.members.map Member.declaration ∧
      (∀ x ∈ d.members, x.IsNamed d.visibility) ∧
      d.members.map (·.name) = ["FIELD_KEYS", "new"] ++
        (d.settable.map (·.key)).map ("with_" ++ ·) ++ ["raw_value", "from_raw_value"] ∧
      (d.members.map (·.name)).Nodup := by
  refine ⟨fun written m accepted => ?_, fun d apart => ?_⟩
  · cases written with
    | other => cases accepted
    | struct s =>
      obtain ⟨directive, e, h, rfl⟩ := OptionSet.ofStruct_eq_ok_iff.1 accepted
      obtain ⟨cases, hcases, hnodup, hfree⟩ := h.named
      have hsmall : ∀ c ∈ cases, HasNoSmall c.constant.text :=
        fun c hc => OptionCase.hasNoSmall_constant hcases hc
      have hfn : ∀ c ∈ cases, c.constant.text ≠ "fn" := by
        intro c hc heq
        exact absurd (heq ▸ hsmall c hc) (by decide)
      exact ⟨cases, hcases, OptionSet.filter_declarations, OptionSet.isNamed_members hfn,
        OptionSet.perm_map_name_members _ cases,
        OptionSet.nodup_map_name_members hsmall hnodup hfree⟩
  · exact ⟨RecordDeclaration.filter_declarations, RecordDeclaration.isNamed_members,
      RecordDeclaration.map_name_members d, RecordDeclaration.nodup_map_name_members apart⟩

/-- An option set whose cases are called as functions are. -/
def OptionSet.namesake : WrittenSet :=
  .struct (structOf "u8" [.enum (enumOf ["new", "fromName", "options"])])

/-- A record whose fields are called as members are. -/
def RecordDeclaration.namesake : Item :=
  .struct (structOf [({ name := "new" }, code "default = 1"), ({ name := "raw_value" }, []),
    ({ name := "type", raw := true }, code "default = 1")])

/-- Cases that are called as functions are, and fields that are called as members are. -/
theorem member_names_apart_namesake :
    (∃ m cases, OptionSet.ofWritten OptionSet.namesake = .ok (.ok m) ∧
      cases.map (·.constant.text) = ["NEW", "FROM_NAME", "OPTIONS"] ∧
      ((m.members cases).map (·.name)).Nodup) ∧
    ∃ d, RecordDeclaration.ofItem [] RecordDeclaration.namesake = .ok d ∧
      d.members.map (·.name) =
        ["FIELD_KEYS", "new", "with_new", "with_type", "raw_value", "from_raw_value"] ∧
      (d.members.map (·.name)).Nodup := by
  refine ⟨?_, ?_⟩
  · obtain ⟨m, accepted, hm⟩ : ∃ m, OptionSet.ofWritten OptionSet.namesake = .ok (.ok m) ∧
        m.cases = ["new", "fromName", "options"].map fun c => { name := c } := ⟨_, rfl, rfl⟩
    obtain ⟨cases, hcases, -, -, -, hnodup⟩ := member_names_apart.1 _ m accepted
    refine ⟨m, cases, accepted, ?_, hnodup⟩
    rw [(OptionCase.ofIdents_eq_ok_iff.1 hcases).2, hm]
    decide +kernel
  · have hfacts : (RecordDeclaration.ofItem [] RecordDeclaration.namesake).toOption.map (fun d =>
        (d.keys, d.settable.map (·.key))) =
        some (["new", "raw_value", "type"], ["new", "type"]) := by decide +kernel
    obtain ⟨d, accepted, hfacts⟩ := exists_eq_ok_of_toOption hfacts
    obtain ⟨hkeys, hsettable⟩ := Prod.mk.inj hfacts
    obtain ⟨-, -, hnames, hnodup⟩ := member_names_apart.2 d (by rw [hkeys]; decide)
    refine ⟨d, accepted, ?_, hnodup⟩
    rw [hnames, hsettable]
    decide

end Boilerplate
