/-
# The decoder is well scoped

`decode` of `src/persist`; `SPEC_FULL.md` §4.4, item 2.

The code that decodes a map names each slot and each kind of key again and again: where it is
declared, where keys are told apart, where entries are read, and where the fields take their values.
Each of these places goes through the fields and their aliases on its own, some by the key table and
some field by field.  Here the code is taken apart into declarations, patterns and arms
(`SlotVariable`, `KeyPattern`, `EntryArm`), and what is declared in one place is what is used in the
others (`RecordDeclaration.decodesInScope`).

Which slots are used is read from the tokens, whatever brackets they stand in (`Tokens.slotNames`).
The types and defaults of fields are code that nobody puts together here, so what they name is told
apart from that.
-/

import Boilerplate.Proofs.Record.KeyLists

namespace Boilerplate

open RecordCode

/-! ### Names of slots in code -/

/-- Whether a name begins as all variables for slots do. -/
def isSlotName (name : String) : Bool := "__field".toList.isPrefixOf name.toList

/-- The variable of a slot is called like one. -/
theorem isSlotName_variableName (s : Slot) : isSlotName s.variableName = true := by
  rw [isSlotName, List.isPrefixOf_iff_prefix, Slot.variableName, String.append_assoc,
    String.toList_append]
  exact List.prefix_append _ _

namespace Tokens

/-- The names of slots that stand in code, in their order. -/
def slotNames (ts : Tokens) : List String := (words ts).filter isSlotName

/-- The slots in two pieces of code, one behind the other. -/
@[simp] theorem slotNames_append (ts us : Tokens) :
    slotNames (ts ++ us) = slotNames ts ++ slotNames us := by
  rw [slotNames, words_append, List.filter_append]
  rfl

@[simp] theorem slotNames_parens (body : Tokens) : slotNames (parens body) = slotNames body := by
  rw [slotNames, words_parens, slotNames]

@[simp] theorem slotNames_braces (body : Tokens) : slotNames (braces body) = slotNames body := by
  rw [slotNames, words_braces, slotNames]

@[simp] theorem slotNames_quoted (s : String) : slotNames (quoted s) = [] := rfl

/-- The variable of a slot names that slot and nothing else. -/
@[simp] theorem slotNames_holder (s : Slot) : slotNames (holder s) = [s.variableName] := by
  rw [holder, slotNames, words_named, List.filter_singleton, isSlotName_variableName]
  rfl

/-- The slots in code that is put together piece by piece. -/
theorem slotNames_flatMap {α : Type} (f : α → Tokens) (as : List α) :
    slotNames (as.flatMap f) = as.flatMap fun a => slotNames (f a) := by
  rw [slotNames, words_flatMap, List.filter_flatMap]
  rfl

/-- The fixed parts of what is done with an entry, and of the match that gives a field its value. -/
def fixedParts : List Tokens :=
  [code "if", code ". is_some ()", code "else", code "let", code "=", code "match", code ". or",
    code "value", code "=> value ,", code "=>", code ",", code ";", optionNone,
    code ":: core :: option :: Option :: Some", code "return",
    rooted ["core", "result", "Result", "Err"],
    code "< __A :: Error as :: serde :: de :: Error > ::",
    rooted ["serde", "de", "MapAccess", "next_value"], code ":: <", code ">", code "& mut",
    named "map", code "?", RecordDeclaration.skipValue]

/-- No slot is named but by its name. -/
theorem slotNames_fixedParts : ∀ part ∈ fixedParts, slotNames part = [] := by decide +kernel

/-- A failure is told by a text. -/
theorem slotNames_failure (function : String) (h : isSlotName function = false) (text : String) :
    slotNames (RecordCode.failure function (quoted text)) = [] := by
  have hparts := slotNames_fixedParts
  simp only [fixedParts, List.forall_mem_cons] at hparts
  have hfunction : slotNames (named function) = [] := by
    rw [slotNames, words_named, List.filter_singleton, h]
    rfl
  simp [RecordCode.failure, err, hparts, hfunction]

end Tokens

/-! ### Pieces of the decoder -/

/-- A variable that may hold a value of a type. -/
structure SlotVariable where
  name : String
  type : TypeExpr
deriving Repr, Inhabited

/-- Declares the variable, which holds nothing at first. -/
def SlotVariable.declaration (v : SlotVariable) : Tokens :=
  code "let mut" ++ named v.name ++ code ": :: core :: option :: Option <" ++ v.type.tokens ++
    code "> =" ++ optionNone ++ code ";"

/-- How a key is told to be of a kind: by its text, or because no text fits. -/
structure KeyPattern where
  text? : Option String
  kind : String
deriving DecidableEq, Repr, Inhabited

/-- The pattern as it prints, with the kind that it gives. -/
def KeyPattern.tokens (p : KeyPattern) : Tokens :=
  (match p.text? with
    | some text => quoted text
    | none => code "_") ++
    code "=>" ++ code "__Key ::" ++ named p.kind ++ code ","

/-- What is done with an entry whose key is of a kind. -/
structure EntryArm where
  kind : String
  body : Tokens
deriving DecidableEq, Repr, Inhabited

/-- The arm as it prints. -/
def EntryArm.tokens (a : EntryArm) : Tokens :=
  code "__Key ::" ++ named a.kind ++ code "=>" ++ braces a.body

/-- The slots that are used for an entry, in the order of their uses. -/
def KeyedSlot.uses (e : KeyedSlot) : List Slot :=
  match e.slot.alias? with
  | none => [e.slot, e.slot]
  | some _ => [e.slot, e.slot.current, e.slot]

/-- An entry under a key has to do with the slot of the key and with the slot of its field. -/
theorem KeyedSlot.eq_of_mem_uses {e : KeyedSlot} {s : Slot} (h : s ∈ e.uses) :
    s = e.slot ∨ s = e.slot.current := by
  unfold uses at h
  split at h
  · exact .inl (by simpa using h)
  · simp only [List.mem_cons, List.not_mem_nil, or_false] at h
    rcases h with h | h | h
    · exact .inl h
    · exact .inr h
    · exact .inl h

/-- The element with a name, where names are apart. -/
theorem filter_eq_singleton {α : Type} {name : α → String} {as : List α}
    (apart : (as.map name).Nodup) {a : α} (ha : a ∈ as) :
    as.filter (fun b => name b = name a) = [a] := by
  obtain ⟨before, behind, rfl⟩ := List.append_of_mem ha
  rw [List.map_append, List.map_cons, List.nodup_append, List.nodup_cons] at apart
  obtain ⟨-, ⟨hbehind, -⟩, hbefore⟩ := apart
  have hearly : before.filter (fun b => name b = name a) = [] := by
    refine List.filter_eq_nil_iff.2 fun b hb heq => ?_
    exact hbefore _ (List.mem_map_of_mem hb) _ List.mem_cons_self (of_decide_eq_true heq)
  have hlate : behind.filter (fun b => name b = name a) = [] := by
    refine List.filter_eq_nil_iff.2 fun b hb heq => hbehind ?_
    exact of_decide_eq_true heq ▸ List.mem_map_of_mem hb
  rw [List.filter_append, hearly, List.filter_cons, if_pos (decide_eq_true rfl), hlate,
    List.nil_append]

namespace RecordDeclaration

variable {d : RecordDeclaration}

/-- The kinds of keys, with the one for texts that are no keys. -/
def kinds (d : RecordDeclaration) : List String :=
  d.keyedSlots.map (·.slot.keyName) ++ ["__ignore"]

/-- The patterns that tell the keys, and the one for all others. -/
def keyPatterns (d : RecordDeclaration) : List KeyPattern :=
  d.keyedSlots.map (fun e => ⟨some e.key, e.slot.keyName⟩) ++ [⟨none, "__ignore"⟩]

/-- The variables for all slots. -/
def slotVariables (d : RecordDeclaration) : List SlotVariable :=
  d.fields.zipIdx.flatMap fun (f, i) => (f.slots i).map fun s => ⟨s.variableName, f.type⟩

/-- What is done with an entry for a slot of the type. -/
def armBody (type : TypeExpr) (e : KeyedSlot) : Tokens :=
  let isFilled := fun (s : Slot) => code "if" ++ holder s ++ code ". is_some ()"
  let again := isFilled e.slot ++ braces (RecordCode.failure "duplicate_field" (quoted e.key) ++
    code ";")
  again ++
    match e.slot.alias? with
    | none => fillSlot type e.slot
    | some _ => isFilled e.slot.current ++ braces skipValue ++ code "else" ++
        braces (fillSlot type e.slot)

/-- The arm for a key, if the key belongs to a field. -/
def entryArm? (d : RecordDeclaration) (e : KeyedSlot) : Option EntryArm :=
  d.fields[e.slot.field]?.map fun f => ⟨e.slot.keyName, armBody f.type e⟩

/-- The arms that read entries, and the one that skips all others. -/
def entryArms (d : RecordDeclaration) : List EntryArm :=
  d.keyedSlots.filterMap d.entryArm? ++ [⟨"__ignore", skipValue⟩]

/-! ### The code is made of these pieces -/

/-- The code about texts that are no keys is written out, and it is made of pieces all the same. -/
theorem code_ignored :
    code "__ignore ," = named "__ignore" ++ [.punct ',' .alone .none] ∧
    otherArm = KeyPattern.tokens ⟨none, "__ignore"⟩ ∧
    code "__Key :: __ignore =>" = code "__Key ::" ++ named "__ignore" ++ code "=>" := by
  decide +kernel

/-- The kinds as they are declared. -/
theorem commaTerminated_kinds (d : RecordDeclaration) : commaTerminated (d.kinds.map named) =
    commaTerminated (d.keyedSlots.map fun e => named e.slot.keyName) ++ code "__ignore ," := by
  rw [kinds, List.map_append, commaTerminated, List.flatMap_append, List.map_map, code_ignored.1]
  rfl

/-- The patterns are the code that tells keys. -/
theorem flatMap_tokens_keyPatterns (d : RecordDeclaration) :
    d.keyPatterns.flatMap KeyPattern.tokens = d.kindArms := by
  have harm : ∀ e, KeyPattern.tokens ⟨some e.key, e.slot.keyName⟩ = kindArm e := fun e => by
    simp only [kindArm, keyKind, KeyPattern.tokens, List.append_assoc]
  rw [kindArms, keyPatterns, List.flatMap_append, List.flatMap_singleton, ← code_ignored.2.1,
    List.flatMap_map]
  simp only [harm]

/-- The variables are the code that declares them. -/
theorem flatMap_declaration_slotVariables (d : RecordDeclaration) :
    d.slotVariables.flatMap SlotVariable.declaration = d.declareSlots := by
  rw [declareSlots, slotVariables, List.flatMap_assoc]
  refine List.flatMap_congr fun p _ => ?_
  rw [List.flatMap_map]
  rfl

/-- The arms are the code that reads entries. -/
theorem flatMap_tokens_entryArms (d : RecordDeclaration) :
    d.entryArms.flatMap EntryArm.tokens =
      d.keyArms ++ code "__Key :: __ignore =>" ++ braces skipValue := by
  have hkeys : d.keyArms =
      d.keyedSlots.flatMap fun e => (d.entryArm? e).toList.flatMap EntryArm.tokens := by
    refine List.flatMap_congr fun e _ => ?_
    rw [entryArm?]
    cases d.fields[e.slot.field]? with
    | none => rfl
    | some f => exact (List.flatMap_singleton ..).symm
  rw [entryArms, List.flatMap_append, List.flatMap_singleton, List.filterMap_eq_flatMap_toList,
    List.flatMap_assoc, hkeys, List.append_assoc, code_ignored.2.2]
  rfl

/-! ### What is declared -/

/-- Whether there is one variable for a slot, and it is one for values of the slot's field. -/
def DeclaresOnce (d : RecordDeclaration) (s : Slot) : Prop :=
  ∃ f, d.fields[s.field]? = some f ∧
    d.slotVariables.filter (·.name = s.variableName) = [⟨s.variableName, f.type⟩]

/-- There is one variable for each slot, called after it. -/
theorem map_name_slotVariables (d : RecordDeclaration) :
    d.slotVariables.map (·.name) = d.slots.map Slot.variableName := by
  rw [slotVariables, RecordShape.slots, List.map_flatMap, List.map_flatMap]
  refine List.flatMap_congr fun p _ => ?_
  rw [List.map_map]
  rfl

/-- No two variables have one name. -/
theorem nodup_map_name_slotVariables (d : RecordDeclaration) :
    (d.slotVariables.map (·.name)).Nodup := by
  rw [map_name_slotVariables]
  exact d.nodup_slots.map Slot.variableName_injective

/-- **Every slot is declared once**, with the type of its field. -/
theorem declaresOnce_of_mem {s : Slot} (hs : s ∈ d.slots) : d.DeclaresOnce s := by
  obtain ⟨f, hf, hmem⟩ := RecordShape.mem_slots_iff.1 hs
  have hv : (⟨s.variableName, f.type⟩ : SlotVariable) ∈ d.slotVariables :=
    List.mem_flatMap.2 ⟨(f, s.field), List.mem_zipIdx_iff_getElem?.2 hf,
      List.mem_map.2 ⟨s, hmem, rfl⟩⟩
  exact ⟨f, hf, filter_eq_singleton d.nodup_map_name_slotVariables hv⟩

/-- No two kinds of keys have one name. -/
theorem nodup_kinds (d : RecordDeclaration) : d.kinds.Nodup := by
  refine List.nodup_append.2 ⟨d.nodup_map_keyedSlots Slot.keyName_injective,
    List.nodup_singleton _, fun name hname other hother => ?_⟩
  obtain ⟨e, -, rfl⟩ := List.mem_map.1 hname
  rw [List.mem_singleton.1 hother]
  exact e.slot.keyName_ne_ignore

/-- There is one pattern for each kind of key. -/
theorem map_kind_keyPatterns (d : RecordDeclaration) : d.keyPatterns.map (·.kind) = d.kinds := by
  rw [keyPatterns, List.map_append, List.map_map]
  rfl

/-- Every key belongs to a field. -/
theorem exists_entryArm?_eq {e : KeyedSlot} (he : e ∈ d.keyedSlots) :
    ∃ f, d.fields[e.slot.field]? = some f ∧
      d.entryArm? e = some ⟨e.slot.keyName, armBody f.type e⟩ := by
  obtain ⟨f, hf, -⟩ := RecordShape.mem_slots_iff.1 (RecordShape.slot_mem_slots he)
  exact ⟨f, hf, by rw [entryArm?, hf, Option.map_some]⟩

/-- There is one arm for each kind of key. -/
theorem map_kind_entryArms (d : RecordDeclaration) : d.entryArms.map (·.kind) = d.kinds := by
  have hkeys : (d.keyedSlots.filterMap d.entryArm?).map (·.kind) =
      d.keyedSlots.map (·.slot.keyName) := by
    rw [List.map_filterMap, List.filterMap_eq_map_iff_forall_eq_some]
    intro e he
    obtain ⟨f, -, harm⟩ := exists_entryArm?_eq he
    rw [harm, Option.map_some]
  rw [entryArms, List.map_append, hkeys]
  rfl

/-! ### What is used -/

/-- To skip a value needs no slot. -/
theorem slotNames_skipValue : Tokens.slotNames skipValue = [] :=
  Tokens.slotNames_fixedParts _ (by simp [Tokens.fixedParts])

/-- A value is read as one of a type, and that may name anything. -/
theorem slotNames_fillSlot (type : TypeExpr) (s : Slot) :
    Tokens.slotNames (fillSlot type s) = s.variableName :: Tokens.slotNames type.tokens := by
  have hparts := Tokens.slotNames_fixedParts
  simp only [Tokens.fixedParts, List.forall_mem_cons] at hparts
  simp [fillSlot, optionSome, reading, hparts]

/-- **The slots of an arm** are the one that it fills and the one for the key of the same field. -/
theorem slotNames_armBody (type : TypeExpr) (e : KeyedSlot) : Tokens.slotNames (armBody type e) =
    e.uses.map Slot.variableName ++ Tokens.slotNames type.tokens := by
  have hparts := Tokens.slotNames_fixedParts
  simp only [Tokens.fixedParts, List.forall_mem_cons] at hparts
  have hagain := Tokens.slotNames_failure "duplicate_field" (by decide) e.key
  rw [armBody, KeyedSlot.uses]
  cases e.slot.alias? with
  | none => simp [hparts, hagain, slotNames_fillSlot]
  | some a => simp [hparts, hagain, slotNames_fillSlot]

/-- An arm uses slots of one field. -/
theorem mem_slots_of_mem_uses {e : KeyedSlot} (he : e ∈ d.keyedSlots) {s : Slot} (hs : s ∈ e.uses) :
    s.field = e.slot.field ∧ s ∈ d.slots := by
  have hslot := RecordShape.slot_mem_slots he
  obtain ⟨f, hf, -⟩ := RecordShape.mem_slots_iff.1 hslot
  have hcurrent : e.slot.current ∈ d.slots :=
    RecordShape.mem_slots_iff.2 ⟨f, hf, List.mem_cons_self⟩
  rcases KeyedSlot.eq_of_mem_uses hs with rfl | rfl
  · exact ⟨rfl, hslot⟩
  · exact ⟨rfl, hcurrent⟩

/-- What a default names of slots by itself. -/
def defaultSlotNames (f : StoredField TypeExpr Expr) : List String :=
  (f.default?.map fun e => Tokens.slotNames e.tokens).getD []

/-- What stands in for a field names no slot, unless its default does. -/
theorem slotNames_fallback (f : StoredField TypeExpr Expr) :
    Tokens.slotNames (fallback f (RecordCode.failure "missing_field" (quoted f.key))) =
      defaultSlotNames f := by
  have hnone : Tokens.slotNames optionNone = [] :=
    Tokens.slotNames_fixedParts _ (by simp [Tokens.fixedParts])
  rw [fallback, StoredField.absent, defaultSlotNames]
  cases f.default? with
  | some e => rfl
  | none =>
    cases f.isOptional with
    | true => exact hnone
    | false => exact Tokens.slotNames_failure "missing_field" (by decide) f.key

/-- **The slots of the match for a field** are its own: the one that stands for its value behind the
match, and those that the value is taken from. -/
theorem slotNames_finishField (f : StoredField TypeExpr Expr) (i : Nat) :
    Tokens.slotNames (finishField f i) =
      (({ field := i } : Slot) :: f.slots i).map Slot.variableName ++ defaultSlotNames f := by
  have hparts := Tokens.slotNames_fixedParts
  simp only [Tokens.fixedParts, List.forall_mem_cons] at hparts
  have haliases : Tokens.slotNames ((f.aliasSlots i).flatMap fun s =>
      code ". or" ++ parens (holder s)) = (f.aliasSlots i).map Slot.variableName := by
    simp only [Tokens.slotNames_flatMap, Tokens.slotNames_append, hparts, Tokens.slotNames_parens,
      Tokens.slotNames_holder, List.nil_append]
    exact List.flatMap_pure_eq_map _ _
  simp [finishField, orElse, optionSome, hparts, haliases, slotNames_fallback, StoredField.slots]

/-! ### Scope -/

/-- Whether all that the code for maps names is declared once, as what it is used for. -/
structure DecodesInScope (d : RecordDeclaration) : Prop where
  /-- Decoding has a reader of keys and one of maps. -/
  decodes : ∃ start head visitor expecting behind, d.decoding.tokens = start ++ braces (head ++
    braces (d.keyReader ++ visitor ++ braces (expecting ++ d.mapReader ++ d.sequenceReader) ++
      behind))
  /-- The reader of keys declares their kinds. -/
  declaresKinds : ∃ behind, d.keyReader = marked (code "allow (non_camel_case_types)") ++
    code "enum __Key" ++ braces (commaTerminated (d.kinds.map named)) ++ behind
  /-- It tells a key to be of a kind by a pattern. -/
  matchesKeys : ∃ before head between behind, d.keyReader = before ++ braces (head ++ braces
    (ok (code "match value" ++ braces (d.keyPatterns.flatMap KeyPattern.tokens)))) ++
      between ++ behind
  /-- The reader of maps declares variables, reads entries by their kinds, and then takes the value
  of each field. -/
  readsMap : ∃ before, d.mapReader = before ++ braces
    (d.slotVariables.flatMap SlotVariable.declaration ++
      code "while let" ++ optionSome (code "key") ++ code "=" ++
      reading "MapAccess" "next_key" (code "__Key") "map" ++
      braces (code "match key" ++ braces (d.entryArms.flatMap EntryArm.tokens)) ++
      (d.fields.zipIdx.flatMap fun (f, i) => finishField f i) ++ ok d.decoded)
  /-- The names of kinds are apart. -/
  kindsApart : (d.keyedSlots.map (·.slot.keyName) ++ ["__ignore"]).Nodup
  /-- The names of slots are apart. -/
  slotsApart : (d.keyedSlots.map (·.slot.variableName)).Nodup
  /-- Each kind has one pattern and one arm, and nothing else has. -/
  oncePerKind : ∀ kind,
    (d.keyPatterns.map (·.kind)).count kind = (if kind ∈ d.kinds then 1 else 0) ∧
    (d.entryArms.map (·.kind)).count kind = if kind ∈ d.kinds then 1 else 0
  /-- The pattern of a key is its text.  Its arm uses slots of the key's field, each of which is
  declared once; apart from them only the type may name slots there. -/
  arm : ∀ e ∈ d.keyedSlots, ⟨some e.key, e.slot.keyName⟩ ∈ d.keyPatterns ∧
    ∃ f, d.fields[e.slot.field]? = some f ∧ ⟨e.slot.keyName, armBody f.type e⟩ ∈ d.entryArms ∧
      Tokens.slotNames (armBody f.type e) =
        e.uses.map Slot.variableName ++ Tokens.slotNames f.type.tokens ∧
      ∀ s ∈ e.uses, s.field = e.slot.field ∧ d.DeclaresOnce s
  /-- What is no key is skipped, which uses no slot. -/
  ignored : ⟨none, "__ignore"⟩ ∈ d.keyPatterns ∧ ⟨"__ignore", skipValue⟩ ∈ d.entryArms ∧
    Tokens.slotNames skipValue = []
  /-- The match for a field uses the slots of the field, each of which is declared once; apart from
  them only the default may name slots there. -/
  finish : ∀ i f, d.fields[i]? = some f →
    Tokens.slotNames (finishField f i) =
      (({ field := i } : Slot) :: f.slots i).map Slot.variableName ++ defaultSlotNames f ∧
    ∀ s ∈ f.slots i, d.DeclaresOnce s
  /-- From the match on, the name of the slot for the field's key stands for the field's value, and
  the match for no other field uses it. -/
  settled : ∀ i f, d.fields[i]? = some f →
    (∃ source, finishField f i = code "let" ++ named (Slot.variableName { field := i }) ++
      code "=" ++ source) ∧
    ∀ j g, d.fields[j]? = some g → i ≠ j →
      Slot.variableName { field := i } ∉ (g.slots j).map Slot.variableName

/-- **The decoder is well scoped.**  The names of the kinds of keys are apart, and so are those of
the slots.  Each kind has one pattern and one arm.  The arm of a key or alias uses slots of its own
field only, and so does the match that gives the field its value; each of them is declared once,
with the type of the field. -/
theorem decodesInScope (d : RecordDeclaration) : d.DecodesInScope where
  decodes := by
    obtain ⟨start, head, visitor, expecting, list, hread, -⟩ := d.listsKeys.read
    rw [hread]
    simp only [List.append_assoc]
    exact ⟨_, _, _, _, _, rfl⟩
  declaresKinds := by
    rw [commaTerminated_kinds, keyReader]
    simp only [List.append_assoc]
    exact ⟨_, rfl⟩
  matchesKeys := by
    rw [flatMap_tokens_keyPatterns]
    exact d.listsKeys.matched.1
  readsMap := by
    rw [flatMap_declaration_slotVariables, flatMap_tokens_entryArms]
    exact ⟨_, rfl⟩
  kindsApart := d.nodup_kinds
  slotsApart := d.nodup_map_keyedSlots Slot.variableName_injective
  oncePerKind kind := by
    rw [map_kind_keyPatterns, map_kind_entryArms]
    exact ⟨d.nodup_kinds.count, d.nodup_kinds.count⟩
  arm e he := by
    obtain ⟨f, hf, harm⟩ := exists_entryArm?_eq he
    refine ⟨List.mem_append_left _ (List.mem_map.2 ⟨e, he, rfl⟩), f, hf,
      List.mem_append_left _ (List.mem_filterMap.2 ⟨e, he, harm⟩), slotNames_armBody f.type e,
      fun s hs => ?_⟩
    obtain ⟨hfield, hslot⟩ := mem_slots_of_mem_uses he hs
    exact ⟨hfield, declaresOnce_of_mem hslot⟩
  ignored := ⟨List.mem_append_right _ List.mem_cons_self,
    List.mem_append_right _ List.mem_cons_self, slotNames_skipValue⟩
  finish i f hf := by
    refine ⟨slotNames_finishField f i, fun s hs => declaresOnce_of_mem ?_⟩
    obtain rfl := RecordShape.field_of_mem_slots hs
    exact RecordShape.mem_slots_iff.2 ⟨f, hf, hs⟩
  settled i f _ := by
    refine ⟨?_, fun j g _ hne hmem => ?_⟩
    · rw [finishField]
      simp only [List.append_assoc]
      exact ⟨_, rfl⟩
    · obtain ⟨s, hs, heq⟩ := List.mem_map.1 hmem
      obtain rfl := Slot.variableName_injective heq
      exact hne (RecordShape.field_of_mem_slots hs)

/-- A record of twelve fields, each of which has had eleven other names. -/
def longHistory : RecordDeclaration where
  typeName := { name := "Record" }
  fields := (List.range 12).map fun i => {
    name := { name := "f" ++ Nat.repr i }
    type := { shape := .other, tokens := named "u8" }
    legacy := (List.range 11).map fun a => { key := "f" ++ Nat.repr i ++ "_" ++ Nat.repr a } }
  visibility := []
  cleaned := structOf []

/-- The last alias of field 1 and the first of field 11 are not taken for each other. -/
theorem decodesInScope_longHistory :
    (longHistory.entryArms.map (·.kind)).count "__k1_legacy10" = 1 ∧
    (longHistory.entryArms.map (·.kind)).count "__k11_legacy0" = 1 ∧
    ∃ type, ⟨"__k1_legacy10", armBody type ⟨"f1_10", ⟨1, some 10⟩⟩⟩ ∈ longHistory.entryArms ∧
      Tokens.slotNames (armBody type ⟨"f1_10", ⟨1, some 10⟩⟩) =
        ["__field1_legacy10", "__field1", "__field1_legacy10"] ∧
      longHistory.slotVariables.filter (·.name = "__field1_legacy10") =
        [⟨"__field1_legacy10", type⟩] := by
  have hscope := decodesInScope longHistory
  have hlast : (⟨"f1_10", ⟨1, some 10⟩⟩ : KeyedSlot) ∈ longHistory.keyedSlots :=
    RecordShape.mem_keyedSlots_iff.2 (by decide)
  have hfirst : (⟨"f11_0", ⟨11, some 0⟩⟩ : KeyedSlot) ∈ longHistory.keyedSlots :=
    RecordShape.mem_keyedSlots_iff.2 (by decide)
  have hcount : ∀ e ∈ longHistory.keyedSlots, ∀ kind, e.slot.keyName = kind →
      (longHistory.entryArms.map (·.kind)).count kind = 1 := fun e he kind hkind =>
    (hscope.oncePerKind kind).2.trans
      (if_pos (List.mem_append_left _ (List.mem_map.2 ⟨e, he, hkind⟩)))
  obtain ⟨-, f, hf, harm, hnames, huses⟩ := hscope.arm _ hlast
  obtain ⟨-, g, hg, hdeclared⟩ := huses _ List.mem_cons_self
  obtain rfl := Option.some.inj (hf.symm.trans hg)
  have htype : Tokens.slotNames f.type.tokens = [] := by
    obtain rfl := Option.some.inj hf
    decide
  rw [htype, List.append_nil] at hnames
  exact ⟨hcount _ hlast _ (by decide), hcount _ hfirst _ (by decide), f.type, harm, hnames,
    hdeclared⟩

end RecordDeclaration
end Boilerplate
