/-
# All lists of keys agree

`field_keys`, `encode`, `decode` and `key_table` of `src/persist`; `SPEC_FULL.md` §4.4, items 1 to
3.

The keys of a record's fields are listed in its code again and again: for users, to be written, to
be decoded from a map, and to be passed on.  A sequence has no keys, but it has the order of the
fields: its elements are read one after the other, each as a value of the type of the next field
(`StoredField.IsReadNext`).  Aliases are listed where keys are read, behind all keys.  Each list is
read from the code here (`RecordDeclaration.ListsKeys`), and they all agree
(`RecordDeclaration.key_lists_agree`).

Keys are decoded by one `match`, which gives a text the kind of the slot that it fills
(`RecordDeclaration.kindOf?_eq`), and a slot can be told from its kind.
-/

import Boilerplate.Proofs.Record.Code
import Boilerplate.Proofs.Record.Sequence
import Boilerplate.Proofs.Record.SlotNames

namespace Boilerplate

/-! ### Matching keys -/

/-- The kind that a `match` gives for a text: that in the first arm with the text, or that in the
arm for all other texts. -/
def kindFor (value : String) : List Sign → Option String
  | .text t :: .mark '=' :: .mark '>' :: .word "__Key" :: .mark ':' :: .mark ':' :: .word kind ::
      .mark ',' :: arms => if t = value then some kind else kindFor value arms
  | .word "_" :: .mark '=' :: .mark '>' :: .word "__Key" :: .mark ':' :: .mark ':' :: .word kind ::
      .mark ',' :: _ => some kind
  | _ => none

namespace RecordDeclaration

variable {d : RecordDeclaration}

/-- An arm that gives the kind of a key. -/
def kindArm (e : KeyedSlot) : Tokens := quoted e.key ++ code "=>" ++ keyKind e.slot ++ code ","

/-- The arm for texts that are no keys. -/
def otherArm : Tokens := code "_ => __Key :: __ignore ,"

/-- What is fixed in the arms, token by token, and that there are no literals in it. -/
theorem code_arms :
    (code "=>").map Token.sign = [.mark '=', .mark '>'] ∧
      (code "__Key ::").map Token.sign = [.word "__Key", .mark ':', .mark ':'] ∧
      (code ",").map Token.sign = [.mark ','] ∧
      otherArm.map Token.sign = [.word "_", .mark '=', .mark '>', .word "__Key", .mark ':',
        .mark ':', .word "__ignore", .mark ','] ∧
      ∀ ts ∈ [code "=>", code "__Key ::", code ",", otherArm], Tokens.literals ts = [] := by
  decide +kernel

/-- The arm that tells a key, token by token. -/
theorem signs_kindArm (e : KeyedSlot) : (kindArm e).map Token.sign =
    [.text e.key, .mark '=', .mark '>', .word "__Key", .mark ':', .mark ':', .word e.slot.keyName,
      .mark ','] := by
  obtain ⟨harrow, hkey, hcomma, -⟩ := code_arms
  rw [kindArm, keyKind, List.map_append, List.map_append, List.map_append, List.map_append,
    map_sign_quoted, harrow, hkey, hcomma]
  rfl

/-- **The arms are searched in their order.** -/
theorem kindFor_arms (value : String) (es : List KeyedSlot) :
    kindFor value ((es.flatMap kindArm ++ otherArm).map Token.sign) =
      some (((es.find? (·.key == value)).map (·.slot.keyName)).getD "__ignore") := by
  induction es with
  | nil =>
    obtain ⟨-, -, -, hother, -⟩ := code_arms
    rw [List.flatMap_nil, List.nil_append, hother]
    rfl
  | cons e es ih =>
    rw [List.flatMap_cons, List.append_assoc, List.map_append, signs_kindArm]
    by_cases hkey : e.key = value
    · rw [List.find?_cons_of_pos (by simpa using hkey)]
      exact if_pos hkey
    · rw [List.find?_cons_of_neg (by simpa using hkey), ← ih]
      exact if_neg hkey

/-- What the decoder compares a key with. -/
def kindArms (d : RecordDeclaration) : Tokens := d.keyedSlots.flatMap kindArm ++ otherArm

/-- The kind that the code gives to a key. -/
def kindOf? (d : RecordDeclaration) (key : String) : Option String :=
  kindFor key (d.kindArms.map Token.sign)

/-- **The kind of a key** is that of the slot that the key fills. -/
theorem kindOf?_eq (d : RecordDeclaration) (key : String) :
    d.kindOf? key = some (((d.slot? key).map Slot.keyName).getD "__ignore") := by
  rw [kindOf?, kindArms, kindFor_arms, RecordShape.slot?, Option.map_map]
  rfl

/-- **A key is of a kind** if it fills the slot, as long as no key is read twice. -/
theorem kindOf?_eq_keyName_iff (apart : d.allKeys.Nodup) {s : Slot} {key : String} :
    d.kindOf? key = some s.keyName ↔ s.keyIn? d.toRecordShape = some key := by
  rw [kindOf?_eq, Option.some.injEq, ← RecordShape.slot?_eq_some_iff apart]
  cases d.slot? key with
  | none => exact iff_of_false (fun h => s.keyName_ne_ignore h.symm) (Option.some_ne_none s).symm
  | some t =>
    rw [Option.map_some, Option.getD_some, Slot.keyName_injective.eq_iff, Option.some.injEq]

/-- **What is no key** is ignored, and nothing else is. -/
theorem kindOf?_eq_ignore_iff {text : String} :
    d.kindOf? text = some "__ignore" ↔ text ∉ d.allKeys := by
  have hslot : d.slot? text = none ↔ text ∉ d.allKeys := by
    rw [RecordShape.slot?, Option.map_eq_none_iff, List.find?_eq_none,
      ← RecordShape.map_key_keyedSlots, List.mem_map, not_exists]
    simp only [beq_iff_eq, not_and]
  rw [kindOf?_eq, ← hslot, Option.some.injEq]
  cases d.slot? text with
  | none => exact iff_of_true rfl rfl
  | some s => exact iff_of_false s.keyName_ne_ignore (Option.some_ne_none s)

/-! ### Writing keys -/

/-- The fixed parts of the code that encodes a record. -/
def encodingParts : List String :=
  ["impl :: serde :: Serialize for", "fn serialize < __S > (& self , serializer : __S) ->",
    "::", "<", ",", ">", "__S :: Ok", "__S :: Error", "where __S : :: serde :: Serializer ,",
    "allow (unused_mut)", "let mut state = :: serde :: Serializer :: serialize_struct",
    "serializer ,", "? ;", ":: serde :: ser :: SerializeStruct :: serialize_field",
    "& mut state ,", ", & self .", ":: serde :: ser :: SerializeStruct :: end (state)"]

/-- **What is written** under the name of the record and the number of its fields are their keys. -/
theorem literals_encoding (d : RecordDeclaration) : Tokens.literals d.encoding.tokens =
    .ofText d.title :: .ofNat d.keys.length :: d.keys.map .ofText := by
  have hparts : ∀ part ∈ encodingParts, Tokens.literals (code part) = [] := by decide +kernel
  simp only [encodingParts, List.forall_mem_cons] at hparts
  have hwrite : ∀ f : StoredField TypeExpr Expr, Tokens.literals (write f) = [.ofText f.key] := by
    intro f
    simp [write, parens, hparts]
  have hkeys : d.fields.flatMap (fun f => Tokens.literals (write f)) = d.keys.map .ofText := by
    simp only [hwrite, RecordShape.keys, List.map_map]
    exact List.flatMap_pure_eq_map _ _
  have hnumber : d.fields.length = d.keys.length := by rw [RecordShape.keys, List.length_map]
  simp [encoding, Declaration.implementation, RecordCode.resultOf, RecordCode.rooted, marked,
    parens, brackets, braces, named, Tokens.literals_flatMap, hparts, hnumber, hkeys]

end RecordDeclaration

/-! ### Writing and reading fields in their order -/

/-- Code that writes the value of the field under its key. -/
def StoredField.IsWritten (f : StoredField TypeExpr Expr) (ts : Tokens) : Prop :=
  ts = code ":: serde :: ser :: SerializeStruct :: serialize_field" ++
    parens (code "& mut state ," ++ quoted f.key ++ code ", & self ." ++ [.ident f.name]) ++
    code "? ;"

/-- What the code for field `i` does where a sequence has no element for it. -/
inductive StoredField.IsReplacedBy (f : StoredField TypeExpr Expr) (i : Nat) : Tokens → Prop
  /-- A default comes first. -/
  | default (e : Expr) (declared : f.default? = some e) : IsReplacedBy f i e.tokens
  /-- An optional field without a default is empty. -/
  | empty (undeclared : f.default? = none) (optional : f.isOptional = true) :
    IsReplacedBy f i (code ":: core :: option :: Option :: None")
  /-- For a required field, decoding fails with its number. -/
  | missing (undeclared : f.default? = none) (required : f.isOptional = false) :
    IsReplacedBy f i (code "return :: core :: result :: Result :: Err" ++
      parens (code "< __A :: Error as :: serde :: de :: Error > :: invalid_length" ++
        parens (numeral i ++ code ", & self")))

/-- Code that reads the next element of a sequence as a value of the field's type, into the variable
for field `i`. -/
def StoredField.IsReadNext (f : StoredField TypeExpr Expr) (i : Nat) (ts : Tokens) : Prop :=
  ∃ absent, f.IsReplacedBy i absent ∧
    ts = code "let" ++ [.ident { name := "__field" ++ Nat.repr i }] ++
      code "= match :: serde :: de :: SeqAccess :: next_element :: <" ++ f.type.tokens ++
      code "> (& mut seq) ?" ++
      braces (code ":: core :: option :: Option :: Some (value) => value ," ++
        code ":: core :: option :: Option :: None =>" ++ absent ++ code ",") ++ code ";"

namespace RecordDeclaration

open RecordCode

/-- The fixed parts of the code for a sequence, as they are put together. -/
theorem code_sequence :
    code "= match :: serde :: de :: SeqAccess :: next_element :: <" =
        code "=" ++ code "match" ++ rooted ["serde", "de", "SeqAccess", "next_element"] ++
          code ":: <" ∧
      code "> (& mut seq) ?" = code ">" ++ parens (code "& mut" ++ named "seq") ++ code "?" ∧
      code ":: core :: option :: Option :: Some (value) => value ," =
        optionSome (code "value") ++ code "=> value ," ∧
      code ":: core :: option :: Option :: None =>" = optionNone ++ code "=>" ∧
      code "return :: core :: result :: Result :: Err" =
        code "return" ++ rooted ["core", "result", "Result", "Err"] ∧
      code "< __A :: Error as :: serde :: de :: Error > :: invalid_length" =
        code "< __A :: Error as :: serde :: de :: Error > ::" ++ named "invalid_length" := by
  decide +kernel

/-- A field is replaced by its default, by nothing, or not at all. -/
theorem isReplacedBy_fallback (f : StoredField TypeExpr Expr) (i : Nat) :
    f.IsReplacedBy i (fallback f (failure "invalid_length" (numeral i ++ code ", & self"))) := by
  obtain ⟨-, -, -, -, herr, hlength⟩ := code_sequence
  unfold fallback StoredField.absent
  cases hdefault : f.default? with
  | some e => exact .default e hdefault
  | none =>
    cases hoptional : f.isOptional with
    | true => exact .empty hdefault hoptional
    | false =>
      have hmissing := StoredField.IsReplacedBy.missing (i := i) hdefault hoptional
      rw [herr, hlength, List.append_assoc (code "return")] at hmissing
      exact hmissing

/-- **An element is read** as a value of the field whose turn it is. -/
theorem isReadNext_readField (f : StoredField TypeExpr Expr) (i : Nat) :
    f.IsReadNext i (readField f i) := by
  obtain ⟨hmatch, hread, hsome, hnone, -⟩ := code_sequence
  refine ⟨_, isReplacedBy_fallback f i, ?_⟩
  rw [hmatch, hread, hsome, hnone, readField, orElse, reading, holder, Slot.variableName_current,
    named]
  simp only [List.append_assoc]

end RecordDeclaration

namespace RecordShape

variable {τ δ E V ε : Type} {m : Meaning τ δ E V ε} {r : RecordShape τ δ} {x : RecordValue V}
  {es rest : List E}

/-- What is written of a record has the keys of its fields. -/
theorem keys_written (h : x.stored.length = r.fields.length) :
    (r.written x).map (·.1) = r.keys := by
  refine List.map_fst_zip (Nat.le_of_eq ?_)
  rw [keys, List.length_map, h]

/-- **An element of a sequence** is read as the value that is written under the key at its place. -/
theorem written_of_readSequence (h : r.readSequence m es = .ok (x, rest)) {i : Nat} {key : String}
    {e : E} (hkey : r.keys[i]? = some key) (he : es[i]? = some e) :
    ∃ f v, r.fields[i]? = some f ∧ f.key = key ∧ m.decode f.type e = .ok v ∧
      (r.written x)[i]? = some (key, v) := by
  obtain ⟨⟨stored, rest'⟩, helements, hx⟩ := bind_eq_ok_iff.1 h
  obtain ⟨rfl, rfl⟩ := Prod.mk.inj (Except.ok.inj hx)
  rw [readElements_eq] at helements
  obtain ⟨vs, hvs, hrest⟩ := bind_eq_ok_iff.1 helements
  obtain ⟨ws, -, hstored⟩ := bind_eq_ok_iff.1 hrest
  obtain ⟨rfl, -⟩ := Prod.mk.inj (Except.ok.inj hstored)
  obtain ⟨f, hf, rfl⟩ : ∃ f, r.fields[i]? = some f ∧ f.key = key := by
    rwa [keys, List.getElem?_map, Option.map_eq_some_iff] at hkey
  rw [mapError_eq_ok_iff, decodeEach, mapM_eq_ok_iff] at hvs
  have hpair : (r.fields.zip es)[i]? = some (f, e) := List.getElem?_zip_eq_some.2 ⟨hf, he⟩
  obtain ⟨v, hv, hdecode⟩ := exists_getElem?_of_forall₂ hvs hpair
  have hlt : i < vs.length := (List.getElem?_eq_some_iff.1 hv).1
  refine ⟨f, v, hf, rfl, hdecode, List.getElem?_zip_eq_some.2 ⟨hkey, ?_⟩⟩
  rwa [List.getElem?_append_left hlt]

end RecordShape

namespace RecordDeclaration

open RecordCode

variable {E V ε : Type}

/-- The code in which a record lists its keys, and what is listed there. -/
structure ListsKeys (d : RecordDeclaration) : Prop where
  /-- The constant for users lists the keys of the fields. -/
  shown : ∃ before list, d.keyList.tokens = before ++ brackets list ++ code ";" ∧
    Tokens.literals list = d.keys.map .ofText
  /-- Encoding names the record, tells the number of keys, and writes field by field under the
  keys. -/
  written : (∃ start head pieces, d.encoding.tokens = start ++ braces (head ++ braces
      (marked (code "allow (unused_mut)") ++
        code "let mut state = :: serde :: Serializer :: serialize_struct" ++
        parens (code "serializer ," ++ quoted d.title ++ code "," ++ numeral d.keys.length) ++
        code "? ;" ++ pieces.flatten ++
        code ":: serde :: ser :: SerializeStruct :: end (state)")) ∧
    List.Forall₂ (fun f ts => f.IsWritten ts) d.fields pieces) ∧
    Tokens.literals d.encoding.tokens =
      .ofText d.title :: .ofNat d.keys.length :: d.keys.map .ofText
  /-- Decoding has a reader of keys, a reader of maps and one of sequences, and passes on the list
  of all keys and aliases. -/
  read : ∃ start head visitor expecting list, d.decoding.tokens = start ++
    braces (head ++ braces (d.keyReader ++ visitor ++
      braces (expecting ++ d.mapReader ++ d.sequenceReader) ++
      code "const FIELDS : & [& str] = &" ++ brackets list ++ code ";" ++
      code ":: serde :: Deserializer :: deserialize_struct" ++
      parens (code "deserializer ," ++ quoted d.title ++ code ", FIELDS , __Visitor"))) ∧
    Tokens.literals list = d.allKeys.map .ofText
  /-- Keys are compared with keys and aliases. -/
  matched : (∃ before head between behind, d.keyReader = before ++ braces (head ++
    braces (ok (code "match value" ++ braces d.kindArms))) ++ between ++ behind) ∧
    Tokens.literals d.kindArms = d.allKeys.map .ofText
  /-- A sequence is read field by field in their order, each into the variable of its number, and
  from these variables the fields are filled. -/
  ordered : ∃ pieces value, d.sequenceReader = marked (code "allow (unused_mut)") ++
      code "fn" ++ named "visit_seq" ++ code "< __A >" ++
      parens (code "self , mut" ++ named "seq" ++ code ": __A") ++ code "->" ++
      resultOf [.ident d.typeName] (code "__A :: Error") ++ code "where __A : :: serde :: de ::" ++
      named "SeqAccess" ++ code "< 'de > ," ++
      braces (pieces.flatten ++ code ":: core :: result :: Result :: Ok" ++
        [.group .parenthesis value .none .none]) ∧
    List.Forall₂ (fun p ts => p.1.IsReadNext p.2 ts) d.fields.zipIdx pieces ∧
    (d.isUnit = false → ∃ skipped, value = .ident d.typeName ::
      [.group .brace (d.fields.zipIdx.flatMap (fun p =>
        p.1.taken p.2 ++ [.punct ',' .alone .none]) ++ skipped) .none .none])

/-- The texts in the arms that tell keys are the keys. -/
theorem literals_kindArms (d : RecordDeclaration) :
    Tokens.literals d.kindArms = d.allKeys.map .ofText := by
  have hfixed := code_arms.2.2.2.2
  simp only [List.forall_mem_cons] at hfixed
  obtain ⟨harrow, hkey, hcomma, hother, -⟩ := hfixed
  have harm : ∀ e, Tokens.literals (kindArm e) = [.ofText e.key] := by
    intro e
    simp [kindArm, keyKind, named, harrow, hkey, hcomma]
  rw [kindArms, Tokens.literals_append, Tokens.literals_flatMap, hother, List.append_nil,
    ← RecordShape.map_key_keyedSlots, List.map_map]
  simp only [harm]
  exact List.flatMap_pure_eq_map _ _

/-- Encoding tells the number of keys and then writes one field after the other. -/
theorem exists_encoding_eq (d : RecordDeclaration) : ∃ start head, d.encoding.tokens =
    start ++ braces (head ++ braces (marked (code "allow (unused_mut)") ++
      code "let mut state = :: serde :: Serializer :: serialize_struct" ++
      parens (code "serializer ," ++ quoted d.title ++ code "," ++ numeral d.keys.length) ++
      code "? ;" ++ (d.fields.map write).flatten ++
      code ":: serde :: ser :: SerializeStruct :: end (state)")) := by
  rw [RecordShape.keys, List.length_map]
  exact ⟨_, _, rfl⟩

/-- What a sequence is read into is put together from the variables of the fields. -/
theorem exists_decoded_eq (d : RecordDeclaration) (braced : d.isUnit = false) :
    ∃ skipped, d.decoded = .ident d.typeName ::
      [.group .brace (d.fields.zipIdx.flatMap (fun p =>
        p.1.taken p.2 ++ [.punct ',' .alone .none]) ++ skipped) .none .none] := by
  refine ⟨commaTerminated ((d.transient.map transientInitializer).map Initializer.tokens), ?_⟩
  rw [decoded, literal, braced, List.map_append, commaTerminated, List.flatMap_append,
    List.map_map, List.flatMap_map]
  simp only [Function.comp_apply, StoredField.tokens_slotInitializer]
  rfl

/-- The code of a record lists its keys. -/
theorem listsKeys (d : RecordDeclaration) : d.ListsKeys where
  shown := by
    simp only [keyList, Member.documented, ← List.append_assoc]
    exact ⟨_, _, rfl, Tokens.literals_commaSeparated_quoted _⟩
  written := by
    obtain ⟨start, head, hcode⟩ := exists_encoding_eq d
    refine ⟨⟨start, head, _, hcode, ?_⟩, literals_encoding d⟩
    rw [List.forall₂_map_right_iff, List.forall₂_same]
    exact fun _ _ => rfl
  read := ⟨_, _, _, _, _, rfl, Tokens.literals_commaSeparated_quoted _⟩
  matched := ⟨⟨_, _, _, _, rfl⟩, literals_kindArms d⟩
  ordered := by
    refine ⟨d.fields.zipIdx.map fun p => readField p.1 p.2, d.decoded, ?_, ?_, exists_decoded_eq d⟩
    · rw [code_ok, List.append_assoc (List.flatten _)]
      rfl
    · rw [List.forall₂_map_right_iff, List.forall₂_same]
      exact fun p _ => isReadNext_readField p.1 p.2

/-- **All lists of keys agree.**  What is shown to users, what encoding writes, with the number that
it tells, and what comes first among all that is read are the keys of the fields in their order, and
in this order fields are read from a sequence.  The key table starts with them, each with the slot
of its field, and has the aliases behind them, as the list has that decoding passes on.  The code
that decodes a key ignores what is neither a key nor an alias.  If no key is read twice, every other
text is of the kind of one slot, of the field and the alias that declared it. -/
theorem key_lists_agree (d : RecordDeclaration) :
    d.ListsKeys ∧
    (∀ s, (Literal.ofText s).value? = some s) ∧
    (∀ x : RecordValue V, x.stored.length = d.fields.length → (d.written x).map (·.1) = d.keys) ∧
    d.allKeys = d.keys ++ d.fields.flatMap (·.aliases) ∧
    (∀ (m : Meaning TypeExpr Expr E V ε) es x rest, d.readSequence m es = .ok (x, rest) →
      ∀ (i : Nat) key e, d.keys[i]? = some key → es[i]? = some e →
        ∃ f v, d.fields[i]? = some f ∧ f.key = key ∧ m.decode f.type e = .ok v ∧
          (d.written x)[i]? = some (key, v)) ∧
    d.keyedSlots = d.keys.zipIdx.map (fun p => ⟨p.1, { field := p.2 }⟩) ++ d.aliasKeyedSlots ∧
    d.keyedSlots.map (·.key) = d.allKeys ∧
    (∀ text, d.kindOf? text = some "__ignore" ↔ text ∉ d.allKeys) ∧
    (d.allKeys.Nodup →
      (∀ key ∈ d.allKeys, ∃! s : Slot, s.keyIn? d.toRecordShape = some key) ∧
      ∀ key (s : Slot), d.kindOf? key = some s.keyName ↔ s.keyIn? d.toRecordShape = some key) := by
  refine ⟨d.listsKeys, Literal.value?_ofText, fun x => RecordShape.keys_written, rfl,
    fun m es x rest h i key e => RecordShape.written_of_readSequence h, ?_,
    RecordShape.map_key_keyedSlots _, fun text => kindOf?_eq_ignore_iff, fun apart =>
      ⟨fun key => RecordShape.existsUnique_slot apart, fun key s => kindOf?_eq_keyName_iff apart⟩⟩
  rw [RecordShape.keyedSlots, RecordShape.currentKeyedSlots, RecordShape.keys, List.zipIdx_map,
    List.map_map]
  rfl

/-- A record whose two fields have had other names. -/
def formerlyNamed : StructItem :=
  structOf [({ name := "a" }, code "legacy =" ++ quoted "x" ++ code ", legacy =" ++ quoted "z"),
    ({ name := "type", raw := true }, code "legacy =" ++ quoted "y")]

/-- Aliases are of the kind of their field, and a key is not read with its `r#`. -/
theorem key_lists_agree_formerlyNamed : ∃ d, ofItem [] (.struct formerlyNamed) = .ok d ∧
    d.allKeys = ["a", "type", "x", "z", "y"] ∧
    d.kindOf? "type" = some "__k1" ∧ d.kindOf? "z" = some "__k0_legacy1" ∧
    d.kindOf? "y" = some "__k1_legacy0" ∧ d.kindOf? "r#type" = some "__ignore" := by
  have hfacts : (ofItem [] (.struct formerlyNamed)).toOption.map (fun d =>
      (d.allKeys, d.fields.map (·.key), d.fields.map (·.aliases))) =
      some (["a", "type", "x", "z", "y"], ["a", "type"], [["x", "z"], ["y"]]) := by decide +kernel
  obtain ⟨d, accepted, hfacts⟩ := exists_eq_ok_of_toOption hfacts
  obtain ⟨hall, hfacts⟩ := Prod.mk.inj hfacts
  obtain ⟨hkeys, haliases⟩ := Prod.mk.inj hfacts
  obtain ⟨-, -, -, -, -, -, -, hother, hkinds⟩ := @key_lists_agree Unit Unit Unit d
  obtain ⟨-, hkind⟩ := hkinds (by rw [hall]; decide)
  have hcurrent : ∀ i : Nat, ({ field := i } : Slot).keyIn? d.toRecordShape =
      (d.fields.map (·.key))[i]? := fun i => List.getElem?_map.symm
  have halias : ∀ i a : Nat, ({ field := i, alias? := some a } : Slot).keyIn? d.toRecordShape =
      (d.fields.map (·.aliases))[i]?.bind (·[a]?) := by
    intro i a
    rw [List.getElem?_map, Option.bind_map]
    rfl
  refine ⟨d, accepted, hall, (hkind "type" { field := 1 }).2 ?_,
    (hkind "z" { field := 0, alias? := some 1 }).2 ?_,
    (hkind "y" { field := 1, alias? := some 0 }).2 ?_, (hother _).2 (by rw [hall]; decide)⟩
  · rw [hcurrent, hkeys]
    rfl
  · rw [halias, haliases]
    rfl
  · rw [halias, haliases]
    rfl

end RecordDeclaration
end Boilerplate
