/-
# Data that are written and read

A datum of a type is read from what it is written as, with the transient fields of the records in it
as they start (`Datum.renewed`), exactly if it is `Storable` (`Datum.IsOf.returns_iff_storable`):
nothing in it refuses to be written, nothing that is present is absent, and it does not nest too
deeply.  A record is read field by field (`RecordType.read_doc_eq_ok_iff`).
-/

import Boilerplate.Proofs.Json.Reader
import Boilerplate.Proofs.Record.RoundTrip
import Boilerplate.Record.Reader

namespace Boilerplate

open Json (Value Doc)

/-! ### Documents of values -/

namespace Json

/-- Every entry of a value's document can be decoded. -/
theorem readableEntries_entryDocs (es : List (String × Value)) :
    readableEntries (Value.entryDocs es) .closed = (es.map fun e => (e.1, e.2.doc), .ok ()) := by
  induction es with
  | nil => rfl
  | cons e es ih => rw [Value.entryDocs, readableEntries, ih, List.map_cons]

end Json

/-! ### Records that start anew -/

/-- Each field is written under its key. -/
theorem RecordShape.written_eq_map {τ δ V : Type} (r : RecordShape τ δ) (x : RecordValue V) :
    r.written x = (r.fields.zip x.stored).map fun p => (p.1.key, p.2) := by
  rw [written, keys, List.zip_map_left]
  rfl

/-- The data that the transient fields of a record start with: their defaults or, without one, what
their types start with. -/
def RecordType.starting (t : RecordType) : List Datum :=
  t.shape.transient.map fun f => f.default?.getD (t.initial f.name)

/-- The transient fields start alike, however the others are decoded. -/
theorem RecordType.transientValues_meaning (t : RecordType) (decode : Decode) :
    t.shape.transientValues (t.meaning decode) = t.starting := by
  refine List.map_congr_left fun f _ => ?_
  cases f.default? <;> rfl

namespace Datum

mutual

/-- The datum with the transient fields of all records in it as they start. -/
def renewed (schema : Schema) : FieldType → Datum → Datum
  | .option t, .present d => .present (renewed schema t d)
  | .list t, .list ds => .list (renewedItems schema t ds)
  | .record title, .record stored transient =>
    match schema title with
    | some t => .record (renewedFields schema t.shape.fields stored) t.starting
    | none => .record stored transient
  | _, d => d

/-- The elements of a list, each with its transient fields anew. -/
def renewedItems (schema : Schema) (t : FieldType) : List Datum → List Datum
  | [] => []
  | d :: ds => renewed schema t d :: renewedItems schema t ds

/-- The stored fields of a record, each with its transient fields anew. -/
def renewedFields (schema : Schema) : List (StoredField FieldType Datum) →
    List (String × Datum) → List (String × Datum)
  | f :: fs, (key, d) :: rest => (key, renewed schema f.type d) :: renewedFields schema fs rest
  | _, _ => []

end

end Datum

/-- The record with all transient fields as they start, those of the records in it included. -/
def RecordType.renewed (schema : Schema) (t : RecordType) (x : RecordValue Datum) :
    RecordValue Datum where
  stored := (t.shape.fields.zip x.stored).map fun p => p.2.renewed schema p.1.type
  transient := t.starting

/-- A record is renewed as a datum as it is by itself. -/
theorem Datum.renewed_datum {schema : Schema} {title : String} {t : RecordType}
    (declared : schema title = some t) (x : RecordValue Datum) :
    (t.datum x).renewed schema (.record title) = t.datum (t.renewed schema x) := by
  have hfields : ∀ (fs : List (StoredField FieldType Datum)) (ds : List Datum),
      renewedFields schema fs ((fs.map (·.key)).zip ds) =
        (fs.map (·.key)).zip ((fs.zip ds).map fun p => p.2.renewed schema p.1.type) := by
    intro fs
    induction fs with
    | nil => exact fun ds => rfl
    | cons f fs ih =>
      rintro (_ | ⟨d, ds⟩)
      · rfl
      · rw [List.map_cons, List.zip_cons_cons, renewedFields, ih, List.zip_cons_cons, List.map_cons,
          List.zip_cons_cons]
  rw [RecordType.datum, renewed, declared]
  simp only [RecordType.datum, RecordType.renewed, RecordShape.written, RecordShape.keys, hfields]

/-! ### Data of a type -/

/-- Whether the datum is of the type, whose integers do not have more than 64 bits. -/
inductive Datum.IsOf (schema : Schema) : FieldType → Datum → Prop
  | text (s : String) : IsOf schema .string (.text s)
  | flag (b : Bool) : IsOf schema .bool (.flag b)
  | integer {t : IntegerType} {n : Int} (narrow : t.bits ≤ 64) (holds : t.holds n = true) :
      IsOf schema (.integer t) (.integer n)
  | absent {t : FieldType} : IsOf schema (.option t) .absent
  | present {t : FieldType} {d : Datum} (inside : IsOf schema t d) :
      IsOf schema (.option t) (.present d)
  | list {t : FieldType} {ds : List Datum} (items : ∀ d ∈ ds, IsOf schema t d) :
      IsOf schema (.list t) (.list ds)
  | record {title : String} {t : RecordType} {x : RecordValue Datum}
      (declared : schema title = some t) (complete : t.shape.fields.length = x.stored.length)
      (fields : ∀ p ∈ t.shape.fields.zip x.stored, IsOf schema p.1.type p.2) :
      IsOf schema (.record title) (t.datum x)
  | mood (grumpy : Bool) : IsOf schema .mood (.mood grumpy)

/-- Whether the record has a datum of its type for each field. -/
structure RecordType.IsRecord (schema : Schema) (t : RecordType) (x : RecordValue Datum) :
    Prop where
  complete : t.shape.fields.length = x.stored.length
  fields : ∀ p ∈ t.shape.fields.zip x.stored, p.2.IsOf schema p.1.type

/-- Whether no record type has a key or alias twice. -/
def Schema.Apart (schema : Schema) : Prop :=
  ∀ title t, schema title = some t → t.shape.allKeys.Nodup

/-- Whether something in the datum refuses to be written, which a grumpy mood does.  What is in
transient fields is not written, and does not count. -/
inductive Datum.Refuses : Datum → Prop
  | mood : Refuses (.mood true)
  | present {d : Datum} (inside : Refuses d) : Refuses (.present d)
  | list {ds : List Datum} {d : Datum} (mem : d ∈ ds) (item : Refuses d) : Refuses (.list ds)
  | record {stored : List (String × Datum)} {transient : List Datum} {e : String × Datum}
      (mem : e ∈ stored) (field : Refuses e.2) : Refuses (.record stored transient)

/-- Whether what the datum is written as tells all about it, with at most `limit` arrays and objects
one in the other: no mood in it is grumpy, and nothing in it is present but absent. -/
inductive Datum.Storable : Nat → Datum → Prop
  | text {limit : Nat} (s : String) : Storable limit (.text s)
  | flag {limit : Nat} (b : Bool) : Storable limit (.flag b)
  | integer {limit : Nat} (n : Int) : Storable limit (.integer n)
  | absent {limit : Nat} : Storable limit .absent
  | present {limit : Nat} {d : Datum} (inside : Storable limit d) (isThere : d ≠ .absent) :
      Storable limit (.present d)
  | list {limit : Nat} {ds : List Datum} (items : ∀ d ∈ ds, Storable limit d) :
      Storable (limit + 1) (.list ds)
  | record {limit : Nat} {stored : List (String × Datum)} {transient : List Datum}
      (fields : ∀ e ∈ stored, Storable limit e.2) : Storable (limit + 1) (.record stored transient)
  | mood {limit : Nat} : Storable limit (.mood false)

/-! ### Writing -/

/-- The integers of a type fit 64 bits if the type is not wider. -/
theorem IntegerType.bounds_of_holds {t : IntegerType} {n : Int} (narrow : t.bits ≤ 64)
    (holds : t.holds n = true) : -2 ^ 63 ≤ n ∧ n < 2 ^ 64 := by
  have hpow : ∀ {a b : Nat}, a ≤ b → ((Nat.pow 2 a : Nat) : Int) ≤ (Nat.pow 2 b : Nat) :=
    fun h => Int.ofNat_le.2 (Nat.pow_le_pow_right (by decide) h)
  unfold IntegerType.holds at holds
  cases hsigned : t.signed with
  | false =>
    simp only [hsigned, Bool.false_eq_true, if_false, Bool.and_eq_true, decide_eq_true_eq] at holds
    exact ⟨by omega, Int.lt_of_lt_of_le holds.2 (hpow narrow)⟩
  | true =>
    simp only [hsigned, if_true, Bool.and_eq_true, decide_eq_true_eq] at holds
    have hbound := hpow (show t.bits - 1 ≤ 63 by omega)
    have hmax : ((Nat.pow 2 63 : Nat) : Int) = 2 ^ 63 := by decide
    omega

namespace Datum

variable {schema : Schema} {decode : Decode} {limit : Nat} {t : FieldType} {d : Datum}

/-- Elements are written one by one. -/
theorem toJson_list_eq_ok_iff {ds : List Datum} {v : Value} :
    (Datum.list ds).toJson = .ok v ↔
      ∃ vs, List.Forall₂ (fun d w => d.toJson = .ok w) ds vs ∧ .array vs = v := by
  have hitems : itemsToJson ds = ds.mapM toJson := by
    induction ds with
    | nil => rfl
    | cons d ds ih => rw [itemsToJson, List.mapM_cons, ih]
  simp only [toJson, map_eq_ok_iff, hitems, mapM_eq_ok_iff]

/-- Fields are written one by one, under their keys. -/
theorem toJson_record_eq_ok_iff {stored : List (String × Datum)} {transient : List Datum}
    {v : Value} :
    (Datum.record stored transient).toJson = .ok v ↔
      ∃ es, List.Forall₂ (fun p e => ∃ w, p.2.toJson = .ok w ∧ (p.1, w) = e) stored es ∧
        .object es = v := by
  have hfields : entriesToJson stored = stored.mapM fun p => p.2.toJson.map (p.1, ·) := by
    induction stored with
    | nil => rfl
    | cons p stored ih =>
      rw [entriesToJson, List.mapM_cons, ih]
      cases p.2.toJson <;> rfl
  simp only [toJson, map_eq_ok_iff, hfields, mapM_eq_ok_iff]

/-- A list can be written if all its elements can. -/
theorem exists_toJson_list_iff {ds : List Datum} :
    (∃ v, (Datum.list ds).toJson = .ok v) ↔ ∀ d ∈ ds, ∃ v, d.toJson = .ok v := by
  simp only [toJson_list_eq_ok_iff]
  constructor
  · rintro ⟨_, vs, hvs, rfl⟩ d hd
    obtain ⟨v, -, hv⟩ := exists_mem_of_forall₂ hvs hd
    exact ⟨v, hv⟩
  · intro h
    obtain ⟨vs, hvs⟩ := exists_forall₂ h
    exact ⟨_, vs, hvs, rfl⟩

/-- A record can be written if all its fields can. -/
theorem exists_toJson_record_iff {stored : List (String × Datum)} {transient : List Datum} :
    (∃ v, (Datum.record stored transient).toJson = .ok v) ↔
      ∀ e ∈ stored, ∃ v, e.2.toJson = .ok v := by
  simp only [toJson_record_eq_ok_iff]
  constructor
  · rintro ⟨_, es, hes, rfl⟩ e he
    obtain ⟨_, -, v, hv, -⟩ := exists_mem_of_forall₂ hes he
    exact ⟨v, hv⟩
  · intro h
    have hentry : ∀ e ∈ stored, ∃ p : String × Value, ∃ v, e.2.toJson = .ok v ∧ (e.1, v) = p := by
      intro e he
      obtain ⟨v, hv⟩ := h e he
      exact ⟨_, v, hv, rfl⟩
    obtain ⟨es, hes⟩ := exists_forall₂ hentry
    exact ⟨_, es, hes, rfl⟩

/-- What is present refuses to be written if what is inside does. -/
theorem refuses_present_iff : (Datum.present d).Refuses ↔ d.Refuses := by
  constructor
  · rintro (_ | inside)
    exact inside
  · exact .present

/-- A list refuses to be written if an element does. -/
theorem refuses_list_iff {ds : List Datum} : (Datum.list ds).Refuses ↔ ∃ d ∈ ds, d.Refuses := by
  constructor
  · rintro (_ | _ | ⟨mem, item⟩)
    exact ⟨_, mem, item⟩
  · rintro ⟨d, mem, item⟩
    exact .list mem item

/-- A record refuses to be written if a stored field does. -/
theorem refuses_record_iff {stored : List (String × Datum)} {transient : List Datum} :
    (Datum.record stored transient).Refuses ↔ ∃ e ∈ stored, e.2.Refuses := by
  constructor
  · rintro (_ | _ | _ | ⟨mem, field⟩)
    exact ⟨_, mem, field⟩
  · rintro ⟨e, mem, field⟩
    exact .record mem field

/-- A record is written unless something in it refuses, if this is so of its fields. -/
theorem exists_toJson_datum_iff {t : RecordType} {x : RecordValue Datum}
    (h : ∀ p ∈ t.shape.fields.zip x.stored, (∃ v, p.2.toJson = .ok v) ↔ ¬ p.2.Refuses) :
    (∃ v, (t.datum x).toJson = .ok v) ↔ ¬ (t.datum x).Refuses := by
  rw [RecordType.datum, exists_toJson_record_iff, refuses_record_iff,
    RecordShape.written_eq_map, List.forall_mem_map]
  simp only [List.mem_map, not_exists, not_and]
  constructor
  · rintro hwritten _ ⟨p, hp, rfl⟩
    exact (h p hp).1 (hwritten p hp)
  · exact fun hsilent p hp => (h p hp).2 (hsilent _ ⟨p, hp, rfl⟩)

/-- **A datum is written** unless something in it refuses. -/
theorem IsOf.exists_toJson_iff (h : IsOf schema t d) :
    (∃ v, d.toJson = .ok v) ↔ ¬ d.Refuses := by
  induction h with
  | text | flag | integer | absent => exact iff_of_true ⟨_, rfl⟩ nofun
  | present _ ih =>
    rw [refuses_present_iff]
    exact ih
  | list _ ih =>
    rw [exists_toJson_list_iff, refuses_list_iff]
    simp only [not_exists, not_and]
    exact forall₂_congr ih
  | record _ _ _ ih => exact exists_toJson_datum_iff ih
  | mood grumpy =>
    cases grumpy with
    | false => exact iff_of_true ⟨_, rfl⟩ nofun
    | true => exact iff_of_false (by rintro ⟨v, hv⟩; cases hv) (not_not_intro .mood)

/-- A record is written with whole numbers only if its fields are. -/
theorem whole_of_toJson_datum {t : RecordType} {x : RecordValue Datum} {v : Value}
    (hv : (t.datum x).toJson = .ok v)
    (h : ∀ p ∈ t.shape.fields.zip x.stored, ∀ w, p.2.toJson = .ok w → w.Whole) : v.Whole := by
  obtain ⟨es, hes, rfl⟩ := toJson_record_eq_ok_iff.1 hv
  refine .object fun e he => ?_
  obtain ⟨p, hp, w, hw, rfl⟩ := exists_mem_of_forall₂ hes.flip he
  rw [RecordShape.written_eq_map] at hp
  obtain ⟨q, hq, rfl⟩ := List.mem_map.1 hp
  exact h q hq w hw

/-- A datum of a type is written with whole numbers only. -/
theorem IsOf.whole (h : IsOf schema t d) {v : Value} (hv : d.toJson = .ok v) : v.Whole := by
  induction h generalizing v with
  | text s =>
    cases hv
    exact .string s
  | flag b =>
    cases hv
    exact .bool b
  | integer narrow holds =>
    cases hv
    obtain ⟨low, high⟩ := IntegerType.bounds_of_holds narrow holds
    exact .integer low high
  | absent =>
    cases hv
    exact .null
  | present _ ih => exact ih hv
  | list _ ih =>
    obtain ⟨vs, hvs, rfl⟩ := toJson_list_eq_ok_iff.1 hv
    refine .array fun w hw => ?_
    obtain ⟨d, hd, hdw⟩ := exists_mem_of_forall₂ hvs.flip hw
    exact ih d hd hdw
  | record _ _ _ ih => exact whole_of_toJson_datum hv fun p hp w hw => ih p hp hw
  | mood grumpy =>
    cases grumpy with
    | false =>
      cases hv
      exact .bool false
    | true => cases hv

/-! ### Reading what was written -/

/-- Whether the datum is read with `decode` from what it is written as, with its transient fields
anew. -/
def Returns (schema : Schema) (decode : Decode) (t : FieldType) (d : Datum) : Prop :=
  ∃ v, d.toJson = .ok v ∧ decode t v.doc = .ok (d.renewed schema t)

/-- Elements are read one by one. -/
theorem mapM_docs_eq_ok_iff {ds : List Datum} {vs : List Value}
    (h : List.Forall₂ (fun d v => d.toJson = .ok v) ds vs) :
    (Value.docs vs).mapM (decode t) = .ok (renewedItems schema t ds) ↔
      ∀ d ∈ ds, d.Returns schema decode t := by
  induction h with
  | nil => exact iff_of_true rfl nofun
  | @cons d v ds vs hv _ ih =>
    have hreturns : d.Returns schema decode t ↔ decode t v.doc = .ok (d.renewed schema t) := by
      simp [Returns, hv]
    rw [Value.docs, renewedItems, List.mapM_cons, List.forall_mem_cons, hreturns, ← ih,
      bind_eq_ok_iff]
    simp only [bind_eq_ok_iff]
    constructor
    · rintro ⟨a, ha, as, has, heq⟩
      obtain ⟨rfl, rfl⟩ := List.cons.inj (Except.ok.inj heq)
      exact ⟨ha, has⟩
    · rintro ⟨ha, has⟩
      exact ⟨_, ha, _, has, rfl⟩

end Datum

namespace RecordType

variable {schema : Schema} {decode : Decode} {t : RecordType} {x : RecordValue Datum}

/-- A record with a datum for each field is known by its datum. -/
theorem datum_inj {y : RecordValue Datum} (hx : x.stored.length ≤ t.shape.fields.length)
    (hy : y.stored.length ≤ t.shape.fields.length) (h : t.datum x = t.datum y) : x = y := by
  obtain ⟨hwritten, htransient⟩ := Datum.record.inj h
  have hstored : ∀ {z : RecordValue Datum}, z.stored.length ≤ t.shape.fields.length →
      (t.shape.written z).map (·.2) = z.stored := fun hz =>
    List.map_snd_zip (by simpa [RecordShape.keys] using hz)
  have hsame := congrArg (List.map (·.2)) hwritten
  rw [hstored hx, hstored hy] at hsame
  cases x
  cases y
  exact congrArg₂ RecordValue.mk hsame htransient

section Written

variable {es : List (String × Value)}
  (hes : List.Forall₂ (fun p e => ∃ w, p.2.toJson = .ok w ∧ (p.1, w) = e) (t.shape.written x) es)
include hes

/-- The entries that a record is written as have the keys of its fields. -/
theorem entryKeys_of_written (complete : t.shape.fields.length = x.stored.length) :
    entryKeys es = t.shape.keys := by
  have hsame : List.Forall₂ (· = ·) ((t.shape.written x).map (·.1)) (es.map (·.1)) :=
    List.forall₂_map_left_iff.2 (List.forall₂_map_right_iff.2
      (hes.imp fun p e ⟨_, _, he⟩ => he ▸ rfl))
  have hwritten : (t.shape.written x).map (·.1) = t.shape.keys :=
    List.map_fst_zip (by simp [RecordShape.keys, complete])
  rw [List.forall₂_eq_eq_eq, hwritten] at hsame
  exact hsame.symm

/-- Each datum has an entry, under the key of its field. -/
theorem exists_mem_of_written {p : StoredField FieldType Datum × Datum}
    (hp : p ∈ t.shape.fields.zip x.stored) : ∃ v, p.2.toJson = .ok v ∧ (p.1.key, v) ∈ es := by
  have hwritten : (p.1.key, p.2) ∈ t.shape.written x := by
    rw [RecordShape.written_eq_map]
    exact List.mem_map.2 ⟨p, hp, rfl⟩
  obtain ⟨e, he, v, hv, rfl⟩ := exists_mem_of_forall₂ hes hwritten
  exact ⟨v, hv, he⟩

end Written

/-- **A record** is read field by field from what it is written as. -/
theorem read_doc_eq_ok_iff (apart : t.shape.allKeys.Nodup)
    (complete : t.shape.fields.length = x.stored.length) {v : Value}
    (hv : (t.datum x).toJson = .ok v) {y : RecordValue Datum} :
    t.read .text (some decode) v.doc = .ok y ↔
      List.Forall₂ (fun p d => ∃ w, p.2.toJson = .ok w ∧ decode p.1.type w.doc = .ok d)
        (t.shape.fields.zip x.stored) y.stored ∧ y.transient = t.starting := by
  obtain ⟨es, hes, rfl⟩ := Datum.toJson_record_eq_ok_iff.1 hv
  let entries := es.map fun e => (e.1, e.2.doc)
  have hread : t.read .text (some decode) (Value.object es).doc = .ok y ↔
      t.shape.readMap (t.meaning decode) entries = .ok y := by
    rw [Value.doc, read, Json.readableEntries_entryDocs]
    exact mapError_eq_ok_iff
  have hkeys : entryKeys entries = t.shape.keys := by
    rw [← entryKeys_of_written hes complete, entryKeys, List.map_map]
    rfl
  have hnodup : (entryKeys entries).Nodup := hkeys ▸ (List.nodup_append.1 apart).1
  have hfields : (t.shape.fields.zip x.stored).map (·.1) = t.shape.fields :=
    List.map_fst_zip complete.le
  rw [hread, Coding.readMap_eq_ok_iff_of_keys apart hkeys, transientValues_meaning]
  refine and_congr_left fun _ => ?_
  conv_lhs => rw [← hfields]
  rw [List.forall₂_map_left_iff]
  refine forall₂_congr_of_mem fun p hp d => ?_
  -- The only entry under the key of a field is what its datum is written as.
  obtain ⟨w, hw, he⟩ := exists_mem_of_written hes hp
  have hentry : (p.1.key, w.doc) ∈ entries := List.mem_map_of_mem he
  constructor
  · rintro ⟨doc, hdoc, hdecode⟩
    have hfound := lookup_eq_some_of_mem hnodup hdoc
    rw [lookup_eq_some_of_mem hnodup hentry] at hfound
    exact ⟨w, hw, Option.some.inj hfound ▸ hdecode⟩
  · rintro ⟨w', hw', hdecode⟩
    obtain rfl := Except.ok.inj (hw.symm.trans hw')
    exact ⟨_, hentry, hdecode⟩

/-- **A record** is read from what it is written as exactly if each of its fields is. -/
theorem read_doc_eq_renewed_iff (apart : t.shape.allKeys.Nodup)
    (complete : t.shape.fields.length = x.stored.length) {v : Value}
    (hv : (t.datum x).toJson = .ok v) :
    t.read .text (some decode) v.doc = .ok (t.renewed schema x) ↔
      ∀ p ∈ t.shape.fields.zip x.stored, p.2.Returns schema decode p.1.type := by
  rw [read_doc_eq_ok_iff apart complete hv, renewed, List.forall₂_map_right_iff, List.forall₂_same]
  exact and_iff_left rfl

/-- A record can be written if each of its fields can be read. -/
theorem exists_toJson (h : ∀ p ∈ t.shape.fields.zip x.stored, p.2.Returns schema decode p.1.type) :
    ∃ v, (t.datum x).toJson = .ok v := by
  rw [datum, Datum.exists_toJson_record_iff, RecordShape.written_eq_map, List.forall_mem_map]
  exact fun p hp => (h p hp).imp fun _ => And.left

end RecordType

namespace Datum

variable {schema : Schema} {limit : Nat} {t : FieldType} {d : Datum}

/-- A datum that can be stored is written as something, unless it is absent. -/
theorem Storable.toJson_ne_null (h : d.Storable limit) (isThere : d ≠ .absent) :
    d.toJson ≠ .ok .null := by
  induction h with
  | text | flag | integer | mood => simp [toJson]
  | absent => exact absurd rfl isThere
  | present _ inner ih => exact ih inner
  | list =>
    rw [Ne, toJson_list_eq_ok_iff]
    simp
  | record =>
    rw [Ne, toJson_record_eq_ok_iff]
    simp

/-- What is present is read if what is inside is, and is written as something. -/
theorem returns_present_iff :
    (Datum.present d).Returns schema (Datum.decode .text schema limit) (.option t) ↔
      d.Returns schema (Datum.decode .text schema limit) t ∧ d.toJson ≠ .ok .null := by
  have hdecode : ∀ v : Value, v ≠ .null → Datum.decode .text schema limit (.option t) v.doc =
      (Datum.decode .text schema limit t v.doc).map .present := by
    intro v hv
    cases limit <;> cases v <;> first | rfl | exact absurd rfl hv
  have hnull : Datum.decode .text schema limit (.option t) .null = .ok .absent := by
    cases limit <;> rfl
  constructor
  · rintro ⟨v, hv, hread⟩
    by_cases hisNull : v = .null
    · rw [hisNull, Value.doc, hnull] at hread
      cases hread
    · rw [hdecode v hisNull, map_eq_ok_iff] at hread
      obtain ⟨a, ha, heq⟩ := hread
      obtain rfl := Datum.present.inj heq
      exact ⟨⟨v, hv, ha⟩, fun hnone => hisNull (Except.ok.inj (hv.symm.trans hnone))⟩
  · rintro ⟨⟨v, hv, hread⟩, hthere⟩
    have hisThere : v ≠ .null := by
      rintro rfl
      exact hthere hv
    exact ⟨v, hv, by rw [hdecode v hisThere, hread]; rfl⟩

/-- A list is read if there is room for it, and each of its elements is. -/
theorem returns_list_iff {ds : List Datum} :
    (Datum.list ds).Returns schema (Datum.decode .text schema limit) (.list t) ↔
      ∃ n, limit = n + 1 ∧ ∀ d ∈ ds, d.Returns schema (Datum.decode .text schema n) t := by
  have hdecode : ∀ (n : Nat) (vs : List Value),
      Datum.decode .text schema (n + 1) (.list t) (Value.array vs).doc =
        ((Value.docs vs).mapM (Datum.decode .text schema n t)).map .list := by
    intro n vs
    rw [Datum.decode, Value.doc, decodeWith]
    cases (Value.docs vs).mapM (Datum.decode .text schema n t) <;> rfl
  constructor
  · rintro ⟨v, hv, hread⟩
    obtain ⟨vs, hvs, rfl⟩ := toJson_list_eq_ok_iff.1 hv
    cases limit with
    | zero => cases hread
    | succ n =>
      rw [hdecode, map_eq_ok_iff] at hread
      obtain ⟨as, has, heq⟩ := hread
      obtain rfl := Datum.list.inj heq
      exact ⟨n, rfl, (mapM_docs_eq_ok_iff hvs).1 has⟩
  · rintro ⟨n, rfl, h⟩
    obtain ⟨_, hv⟩ := exists_toJson_list_iff.2 fun d hd => (h d hd).imp fun _ => And.left
    obtain ⟨vs, hvs, rfl⟩ := toJson_list_eq_ok_iff.1 hv
    refine ⟨.array vs, hv, ?_⟩
    rw [hdecode, (mapM_docs_eq_ok_iff hvs).2 h]
    rfl

/-- A record is read if there is room for it, and each of its fields is. -/
theorem returns_record_iff {title : String} {t : RecordType} {x : RecordValue Datum}
    (apart : t.shape.allKeys.Nodup) (declared : schema title = some t)
    (complete : t.shape.fields.length = x.stored.length) :
    (t.datum x).Returns schema (Datum.decode .text schema limit) (.record title) ↔
      ∃ n, limit = n + 1 ∧ ∀ p ∈ t.shape.fields.zip x.stored,
        p.2.Returns schema (Datum.decode .text schema n) p.1.type := by
  have hdecode : ∀ (n : Nat) (v : Value),
      Datum.decode .text schema (n + 1) (.record title) v.doc =
        (t.read .text (some (Datum.decode .text schema n)) v.doc).map t.datum := by
    intro n v
    rw [Datum.decode]
    cases v <;> rw [Value.doc, decodeWith, declared]
  constructor
  · rintro ⟨v, hv, hread⟩
    cases limit with
    | zero =>
      obtain ⟨es, -, rfl⟩ := toJson_record_eq_ok_iff.1 hv
      rw [Datum.decode, Value.doc, decodeWith, declared] at hread
      cases hread
    | succ n =>
      rw [hdecode, renewed_datum declared, map_eq_ok_iff] at hread
      obtain ⟨y, hy, heq⟩ := hread
      have hlength := ((RecordType.read_doc_eq_ok_iff apart complete hv).1 hy).1.length_eq
      obtain rfl := RecordType.datum_inj (by simp [← hlength]) (by simp [RecordType.renewed]) heq
      exact ⟨n, rfl, (RecordType.read_doc_eq_renewed_iff apart complete hv).1 hy⟩
  · rintro ⟨n, rfl, h⟩
    obtain ⟨v, hv⟩ := RecordType.exists_toJson h
    refine ⟨v, hv, ?_⟩
    rw [hdecode, (RecordType.read_doc_eq_renewed_iff apart complete hv).2 h, renewed_datum declared]
    rfl

/-- **A datum is read from what it is written as** exactly if it can be stored. -/
theorem IsOf.returns_iff_storable (apart : schema.Apart) (h : IsOf schema t d) :
    d.Returns schema (Datum.decode .text schema limit) t ↔ d.Storable limit := by
  induction h generalizing limit with
  | text s => exact iff_of_true ⟨_, rfl, by cases limit <;> rfl⟩ (.text s)
  | flag b => exact iff_of_true ⟨_, rfl, by cases limit <;> rfl⟩ (.flag b)
  | integer narrow holds =>
    exact iff_of_true ⟨_, rfl, by cases limit <;> exact if_pos holds⟩ (.integer _)
  | absent => exact iff_of_true ⟨_, rfl, by cases limit <;> rfl⟩ .absent
  | present _ ih =>
    rw [returns_present_iff, ih]
    constructor
    · rintro ⟨inside, hthere⟩
      refine .present inside ?_
      rintro rfl
      exact hthere rfl
    · rintro (_ | _ | _ | _ | ⟨inside, isThere⟩)
      exact ⟨inside, inside.toJson_ne_null isThere⟩
  | list _ ih =>
    rw [returns_list_iff]
    constructor
    · rintro ⟨n, rfl, hitems⟩
      exact .list fun d hd => (ih d hd).1 (hitems d hd)
    · rintro (_ | _ | _ | _ | _ | hitems)
      exact ⟨_, rfl, fun d hd => (ih d hd).2 (hitems d hd)⟩
  | @record _ t x declared complete _ ih =>
    rw [returns_record_iff (apart _ _ declared) declared complete, RecordType.datum,
      RecordShape.written_eq_map]
    constructor
    · rintro ⟨n, rfl, hfields⟩
      exact .record (List.forall_mem_map.2 fun p hp => (ih p hp).1 (hfields p hp))
    · rintro (_ | _ | _ | _ | _ | _ | hfields)
      exact ⟨_, rfl, fun p hp => (ih p hp).2 (List.forall_mem_map.1 hfields p hp)⟩
  | mood grumpy =>
    cases grumpy with
    | false => exact iff_of_true ⟨_, rfl, by cases limit <;> rfl⟩ .mood
    | true => exact iff_of_false (by rintro ⟨v, hv, -⟩; cases hv) (by rintro ⟨⟩)

end Datum

end Boilerplate
