/-
# The text of a record

`raw_value_members` and `string_round_trip` of `src/persist`; `SPEC_FULL.md` §4.4, item 5.

A record has one text, whether it is asked for its raw value or shown, and a text is read as the
same record by both readers (`RecordType.string_forms`).  From its own text a record is read again,
with its transient fields anew, exactly if all its data can be stored (`RecordType.hasText_iff`).
There are three kinds of records for which that is not so: those that refuse to be written, those in
which something present is absent, and those that nest too deeply (`RecordSample.not_hasText`).
The raw value of a record that refuses is `{}`, the text of no fields, from which the record is read
only if it holds what stands in for each of its fields.
-/

import Boilerplate.Proofs.Record.Storable
import Boilerplate.Record.Samples
import Boilerplate.Record.Session

namespace Boilerplate

open Json (Value)

/-- Whether the field has the datum where nothing is stored for it. -/
inductive StoredField.IsImplied (f : StoredField FieldType Datum) : Datum → Prop
  /-- A default comes first. -/
  | default (d : Datum) (declared : f.default? = some d) : IsImplied f d
  /-- An optional field without a default is absent. -/
  | empty (undeclared : f.default? = none) (optional : f.isOptional = true) : IsImplied f .absent

namespace RecordType

variable {schema : Schema} {t : RecordType} {x : RecordValue Datum}

/-- Whether the record is read from the text either way, with its transient fields as they start. -/
def IsReadFrom (schema : Schema) (t : RecordType) (x : RecordValue Datum) (text : String) : Prop :=
  ∀ me, t.step schema me (.fromRaw text) = (some (t.renewed schema x), .flag (some true)) ∧
    t.step schema me (.parse text) = (some (t.renewed schema x), .flag (some true))

/-- Whether the record has one text, from which it is read. -/
def HasText (schema : Schema) (t : RecordType) (x : RecordValue Datum) : Prop :=
  ∃ text, t.step schema (some x) .rawValue = (some x, .text text) ∧
    t.step schema (some x) .display = (some x, .text text) ∧ t.IsReadFrom schema x text

/-! ### Writing -/

/-- What is answered when a record is to be written, as its raw value and to be shown. -/
theorem step_write (t : RecordType) (x : RecordValue Datum) :
    t.step schema (some x) .rawValue = (some x, .text (t.rawValue x)) ∧
      t.step schema (some x) .display = (some x, match t.toJson x with
        | .ok v => .text v.print
        | .error _ => .unshown) :=
  ⟨rfl, rfl⟩

/-- The raw value of a record that can be written is its text. -/
theorem step_rawValue {v : Value} (hv : t.toJson x = .ok v) :
    t.step schema (some x) .rawValue = (some x, .text v.print) := by
  rw [(step_write t x).1, rawValue, hv]

/-- What is shown of a record that can be written is its text. -/
theorem step_display {v : Value} (hv : t.toJson x = .ok v) :
    t.step schema (some x) .display = (some x, .text v.print) := by
  rw [(step_write t x).2, hv]

/-- A record that refuses to be written has the raw value of no fields, and is not shown. -/
theorem step_of_unwritable {u : Unwritable} (hu : t.toJson x = .error u) :
    t.step schema (some x) .rawValue = (some x, .text "\x7b\x7d") ∧
      t.step schema (some x) .display = (some x, .unshown) := by
  rw [(step_write t x).1, (step_write t x).2, rawValue, hu]
  exact ⟨rfl, rfl⟩

/-! ### Reading -/

/-- A raw value is read as the record that its text is. -/
theorem step_fromRaw_iff {me : Option (RecordValue Datum)} {text : String}
    {y : RecordValue Datum} :
    t.step schema me (.fromRaw text) = (some y, .flag (some true)) ↔
      t.ofText schema text = .ok y := by
  simp only [step]
  cases t.ofText schema text <;> simp

/-- A text is parsed as the record that it is. -/
theorem step_parse_iff {me : Option (RecordValue Datum)} {text : String} {y : RecordValue Datum} :
    t.step schema me (.parse text) = (some y, .flag (some true)) ↔
      t.ofText schema text = .ok y := by
  simp only [step]
  cases t.ofText schema text <;> simp [replace]

/-- Both readers read what the text is. -/
theorem isReadFrom_iff {text : String} :
    t.IsReadFrom schema x text ↔ t.ofText schema text = .ok (t.renewed schema x) :=
  ⟨fun h => step_parse_iff.1 (h none).2, fun h _ => ⟨step_fromRaw_iff.2 h, step_parse_iff.2 h⟩⟩

/-- The text of a value is read as the value's document. -/
theorem ofText_print {v : Value} (h : v.Whole) :
    t.ofText schema v.print =
      t.read .text (some (Datum.decode .text schema (nestingLimit - 1))) v.doc := by
  rw [ofText, Json.Document.ofText_print h]
  dsimp only
  cases t.read .text (some (Datum.decode .text schema (nestingLimit - 1))) v.doc <;> rfl

/-- What a record is written as is read as the record exactly if all its data can be stored. -/
theorem isReadFrom_print_iff (apart : schema.Apart) (keys : t.shape.allKeys.Nodup)
    (hx : t.IsRecord schema x) {v : Value} (hv : t.toJson x = .ok v) :
    t.IsReadFrom schema x v.print ↔ ∀ p ∈ t.shape.fields.zip x.stored, p.2.Storable 126 := by
  have hwhole : v.Whole :=
    Datum.whole_of_toJson_datum hv fun p hp w hw => (hx.fields p hp).whole hw
  rw [isReadFrom_iff, ofText_print hwhole, read_doc_eq_renewed_iff keys hx.complete hv]
  exact forall₂_congr fun p hp => (hx.fields p hp).returns_iff_storable apart

/-- What stands in for a field is what it has where nothing is stored for it, however fields are
decoded. -/
theorem standsIn_meaning_iff {decode : Decode} {f : StoredField FieldType Datum} {d : Datum} :
    f.StandsIn (t.meaning decode) d ↔ f.IsImplied d := by
  constructor <;>
    rintro (⟨d, declared⟩ | ⟨undeclared, optional⟩)
  · exact .default d declared
  · exact .empty undeclared optional
  · exact .default d declared
  · exact .empty undeclared optional

/-- **The text of no fields** is read as the record in which every field is filled. -/
theorem ofText_braces_eq_ok_iff (keys : t.shape.allKeys.Nodup) {y : RecordValue Datum} :
    t.ofText schema "\x7b\x7d" = .ok y ↔
      List.Forall₂ (fun f d => f.IsImplied d) t.shape.fields y.stored ∧
        y.transient = t.starting := by
  let m := t.meaning (Datum.decode .text schema (nestingLimit - 1))
  have hread : t.ofText schema "\x7b\x7d" = .ok y ↔ t.shape.readMap m [] = .ok y := by
    have hprint : (Value.object []).print = "\x7b\x7d" := by decide +kernel
    rw [← hprint, ofText_print (.object fun _ he => absurd he List.not_mem_nil)]
    exact mapError_eq_ok_iff
  have htakes : ∀ (f : StoredField FieldType Datum) d,
      f.Takes m [] d ↔ f.IsImplied d := by
    intro f d
    have hsource : f.source? ([] : List (String × Json.Doc)) = none :=
      List.findSome?_eq_none_iff.2 fun _ _ => rfl
    rw [StoredField.Takes, hsource]
    exact standsIn_meaning_iff
  have current : ∀ key ∈ entryKeys ([] : List (String × Json.Doc)), key ∈ t.shape.keys :=
    fun _ hkey => absurd hkey List.not_mem_nil
  have once : (entryKeys ([] : List (String × Json.Doc))).Nodup := List.nodup_nil
  rw [hread, RecordShape.readMap_eq_ok_iff_of_current keys current once]
  constructor
  · rintro ⟨stored, transient⟩
    exact ⟨stored.imp fun f d => (htakes f d).1,
      (RecordShape.forall₂_startsAs_iff.1 transient).trans (t.transientValues_meaning _)⟩
  · rintro ⟨stored, transient⟩
    exact ⟨stored.imp fun f d => (htakes f d).2,
      RecordShape.forall₂_startsAs_iff.2 (transient.trans (t.transientValues_meaning _).symm)⟩

/-- A record is read from the text of no fields exactly if it holds what stands in for them. -/
theorem isReadFrom_braces_iff (keys : t.shape.allKeys.Nodup) (hx : t.IsRecord schema x) :
    t.IsReadFrom schema x "\x7b\x7d" ↔ ∀ p ∈ t.shape.fields.zip x.stored,
      p.1.IsImplied (p.2.renewed schema p.1.type) := by
  have hfields : (t.shape.fields.zip x.stored).map (·.1) = t.shape.fields :=
    List.map_fst_zip hx.complete.le
  have hall : List.Forall₂ (fun f d => f.IsImplied d)
      ((t.shape.fields.zip x.stored).map (·.1)) (t.renewed schema x).stored ↔
      ∀ p ∈ t.shape.fields.zip x.stored, p.1.IsImplied (p.2.renewed schema p.1.type) := by
    rw [renewed, List.forall₂_map_left_iff, List.forall₂_map_right_iff, List.forall₂_same]
  rw [hfields] at hall
  rw [isReadFrom_iff, ofText_braces_eq_ok_iff keys, hall]
  exact and_iff_left rfl

/-- A record is written unless a datum in it refuses. -/
theorem exists_toJson_iff (hx : t.IsRecord schema x) :
    (∃ v, t.toJson x = .ok v) ↔ ¬ (t.datum x).Refuses :=
  Datum.exists_toJson_datum_iff fun p hp => (hx.fields p hp).exists_toJson_iff

/-- **A record is read from its own text** exactly if all its data can be stored. -/
theorem hasText_iff (apart : schema.Apart) (keys : t.shape.allKeys.Nodup)
    (hx : t.IsRecord schema x) :
    t.HasText schema x ↔ ∀ p ∈ t.shape.fields.zip x.stored, p.2.Storable 126 := by
  constructor
  · rintro ⟨text, hraw, hshown, hread⟩
    cases hv : t.toJson x with
    | error u =>
      rw [(step_of_unwritable hv).2] at hshown
      cases hshown
    | ok v =>
      rw [step_rawValue hv] at hraw
      obtain rfl := Reply.text.inj (Prod.mk.inj hraw).2
      exact (isReadFrom_print_iff apart keys hx hv).1 hread
  · intro h
    obtain ⟨v, hv⟩ := exists_toJson fun p hp =>
      ((hx.fields p hp).returns_iff_storable apart).2 (h p hp)
    exact ⟨_, step_rawValue hv, step_display hv, (isReadFrom_print_iff apart keys hx hv).2 h⟩

/-- **The string forms of a record.**  Unless something in it refuses to be written, the raw value
of a record and what is shown of it are one text, and from this text both readers read the record,
with its transient fields as they start, exactly if all its data can be stored: nothing in it is
present but absent, and below the record itself there are at most 126 arrays and objects one in the
other.  If something refuses, the raw value is that of no fields, nothing is shown, and the record
is read from its raw value exactly if it holds what stands in for each of its fields.  What is read
from any text as a raw value is what is parsed from it. -/
theorem string_forms (apart : schema.Apart) (keys : t.shape.allKeys.Nodup)
    (hx : t.IsRecord schema x) :
    (¬ (t.datum x).Refuses → ∃ text,
      t.step schema (some x) .rawValue = (some x, .text text) ∧
      t.step schema (some x) .display = (some x, .text text) ∧
      (t.IsReadFrom schema x text ↔
        ∀ p ∈ t.shape.fields.zip x.stored, p.2.Storable 126)) ∧
    ((t.datum x).Refuses →
      t.step schema (some x) .rawValue = (some x, .text "\x7b\x7d") ∧
      t.step schema (some x) .display = (some x, .unshown) ∧
      (t.IsReadFrom schema x "\x7b\x7d" ↔ ∀ p ∈ t.shape.fields.zip x.stored,
        p.1.IsImplied (p.2.renewed schema p.1.type))) ∧
    ∀ me text y, t.step schema me (.fromRaw text) = (some y, .flag (some true)) ↔
      t.step schema me (.parse text) = (some y, .flag (some true)) := by
  refine ⟨fun hsilent => ?_, fun hrefuses => ?_,
    fun _ _ _ => step_fromRaw_iff.trans step_parse_iff.symm⟩
  · obtain ⟨v, hv⟩ := (exists_toJson_iff hx).2 hsilent
    exact ⟨_, step_rawValue hv, step_display hv, isReadFrom_print_iff apart keys hx hv⟩
  · cases hv : t.toJson x with
    | ok v => exact absurd hrefuses ((exists_toJson_iff hx).1 ⟨v, hv⟩)
    | error u =>
      obtain ⟨hraw, hshown⟩ := step_of_unwritable hv
      exact ⟨hraw, hshown, isReadFrom_braces_iff keys hx⟩

end RecordType

namespace RecordSample

/-- No sample has a key or alias twice. -/
theorem nodup_allKeys : ∀ t ∈ all, t.shape.allKeys.Nodup := by decide +kernel

/-- No sample type has a key twice. -/
theorem apart_find? : Schema.Apart find? := fun _ t h =>
  nodup_allKeys t (List.mem_of_find?_eq_some h)

/-- Settings with characters that are escaped, a number that is as great as it can be, and transient
fields that were changed. -/
def changedSettings : RecordValue Datum :=
  ⟨[.text "\"é\\\n\x01", .integer 4294967295, .present (.text "")], [.flag true, .text "disk"]⟩

/-- The changed settings are a record of their type. -/
theorem isRecord_changedSettings : settings.IsRecord find? changedSettings where
  complete := rfl
  fields := List.forall_mem_cons.2 ⟨.text _, List.forall_mem_cons.2
    ⟨.integer (by decide) (by decide), List.forall_mem_cons.2 ⟨.present (.text _), nofun⟩⟩⟩

/-- A record with a mood that refuses to be written. -/
def refusing : RecordValue Datum := ⟨[.integer 1, .mood true], []⟩

/-- Its mood may refuse and still be one. -/
theorem isRecord_refusing : refuses.IsRecord find? refusing where
  complete := rfl
  fields := List.forall_mem_cons.2 ⟨.integer (by decide) (by decide),
    List.forall_mem_cons.2 ⟨.mood true, nofun⟩⟩

/-- The settings are read from their text, but the transient fields start anew.  The mood refuses,
and what is written then is not read, since a record of its type has required fields. -/
theorem string_forms_changedSettings :
    (∃ text,
      settings.step find? (some changedSettings) .rawValue = (some changedSettings, .text text) ∧
      settings.step find? (some changedSettings) .display = (some changedSettings, .text text) ∧
      settings.step find? none (.parse text) =
        (some ⟨changedSettings.stored, [.flag false, .text "memory"]⟩, .flag (some true))) ∧
    refuses.step find? (some refusing) .rawValue = (some refusing, .text "\x7b\x7d") ∧
    refuses.step find? (some refusing) .display = (some refusing, .unshown) ∧
    ¬ refuses.IsReadFrom find? refusing "\x7b\x7d" := by
  constructor
  · obtain ⟨hsilent, -, -⟩ := RecordType.string_forms apart_find?
      (nodup_allKeys settings (by simp [all])) isRecord_changedSettings
    obtain ⟨text, hraw, hshown, hread⟩ := hsilent
      ((RecordType.exists_toJson_iff isRecord_changedSettings).1 ⟨_, rfl⟩)
    have hstored := hread.2 (List.forall_mem_cons.2 ⟨.text _, List.forall_mem_cons.2
      ⟨.integer _, List.forall_mem_cons.2 ⟨.present (.text _) nofun, nofun⟩⟩⟩)
    exact ⟨text, hraw, hshown, (hstored none).2⟩
  · obtain ⟨-, hrefuses, -⟩ := RecordType.string_forms apart_find?
      (nodup_allKeys refuses (by simp [all])) isRecord_refusing
    obtain ⟨hraw, hshown, hread⟩ := hrefuses (.record (.tail _ (.head _)) .mood)
    refine ⟨hraw, hshown, fun h => ?_⟩
    have hid := hread.1 h (_, _) (.head _)
    cases hid with
    | default _ declared => cases declared

/-! ### What is not read as it was -/

/-- A record whose third field is present, though nothing is in it. -/
def hidden : RecordValue Datum := ⟨[.absent, .absent, .present .absent, .absent], []⟩

/-- A tree with so many nodes below its root, one below the other. -/
def branch : Nat → RecordValue Datum
  | 0 => ⟨[.integer 0, .list [], .absent], []⟩
  | n + 1 => ⟨[.integer 0, .list [tree.datum (branch n)], .absent], []⟩

/-- The record with something absent inside is a record of its type. -/
theorem isRecord_hidden : options.IsRecord find? hidden where
  complete := rfl
  fields := List.forall_mem_cons.2 ⟨.absent, List.forall_mem_cons.2 ⟨.absent,
    List.forall_mem_cons.2 ⟨.present .absent, List.forall_mem_cons.2 ⟨.absent, nofun⟩⟩⟩⟩

/-- The branch of any length is a record of its type. -/
theorem isRecord_branch (n : Nat) : tree.IsRecord find? (branch n) := by
  have hnode : ∀ kids : List Datum, (∀ kid ∈ kids, kid.IsOf find? (.record "Tree")) →
      tree.IsRecord find? ⟨[.integer 0, .list kids, .absent], []⟩ := fun kids hkids =>
    ⟨rfl, List.forall_mem_cons.2 ⟨.integer (by decide) (by decide),
      List.forall_mem_cons.2 ⟨.list hkids, List.forall_mem_cons.2 ⟨.absent, nofun⟩⟩⟩⟩
  induction n with
  | zero => exact hnode [] nofun
  | succ n ih =>
    refine hnode [tree.datum (branch n)] fun kid hkid => ?_
    rw [List.mem_singleton.1 hkid]
    exact .record rfl ih.complete ih.fields

/-- Every node of a tree nests an array in an object. -/
theorem le_of_storable_branch {n limit : Nat} (h : (tree.datum (branch n)).Storable limit) :
    2 * n + 2 ≤ limit := by
  have hnode : ∀ {kids : List Datum} {limit : Nat},
      (Datum.record [("größe", .integer 0), ("kids", .list kids), ("record", .absent)] []).Storable
        limit → ∃ m, limit = m + 2 ∧ ∀ kid ∈ kids, kid.Storable m := by
    rintro kids _ (_ | _ | _ | _ | _ | _ | fields)
    have hkids : (Datum.list kids).Storable _ := fields ("kids", _) (.tail _ (.head _))
    cases hkids with
    | list items => exact ⟨_, rfl, items⟩
  induction n generalizing limit with
  | zero =>
    obtain ⟨m, rfl, -⟩ := hnode h
    omega
  | succ n ih =>
    obtain ⟨m, rfl, hkids⟩ := hnode h
    have hdepth := ih (hkids _ List.mem_cons_self)
    omega

/-- **Three records are not read from their own text:** one has none, from one what is present but
absent is lost, and one nests too deeply. -/
theorem not_hasText :
    (refuses.IsRecord find? refusing ∧ ¬ refuses.HasText find? refusing) ∧
    (options.IsRecord find? hidden ∧ ¬ options.HasText find? hidden) ∧
    (tree.IsRecord find? (branch 63) ∧ ¬ tree.HasText find? (branch 63)) := by
  have hkeys : refuses.shape.allKeys.Nodup ∧ options.shape.allKeys.Nodup ∧
      tree.shape.allKeys.Nodup :=
    ⟨nodup_allKeys _ (by simp [all]), nodup_allKeys _ (by simp [all]),
      nodup_allKeys _ (by simp [all])⟩
  refine ⟨⟨isRecord_refusing, fun h => ?_⟩, ⟨isRecord_hidden, fun h => ?_⟩,
    ⟨isRecord_branch 63, fun h => ?_⟩⟩
  · have hstored := (RecordType.hasText_iff apart_find? hkeys.1 isRecord_refusing).1 h
    have hmood : (Datum.mood true).Storable 126 := hstored (_, _) (.tail _ (.head _))
    cases hmood
  · have hstored := (RecordType.hasText_iff apart_find? hkeys.2.1 isRecord_hidden).1 h
    have hnested : (Datum.present .absent).Storable 126 :=
      hstored (_, _) (.tail _ (.tail _ (.head _)))
    cases hnested with
    | present _ isThere => exact isThere rfl
  · have hstored := (RecordType.hasText_iff apart_find? hkeys.2.2 (isRecord_branch 63)).1 h
    have hkids : (Datum.list [tree.datum (branch 62)]).Storable 126 :=
      hstored (_, _) (.tail _ (.head _))
    cases hkids with
    | list items =>
      have hdepth := le_of_storable_branch (items _ List.mem_cons_self)
      omega

end RecordSample
end Boilerplate
