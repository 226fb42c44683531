/-
# Two forms of one record

`visit_map` and `visit_seq` of `src/persist`; `SPEC_FULL.md` §4.4, item 2.

A record is also read from elements, one for each field in their order.  Both forms decode one value
after the other and then fill the fields that there is none for; they keep the values in different
ways, in slots and in a list, and differ in how they call the first field that cannot be filled
(`readElements_eq`, `readMap_zip_eq`).  So they read the same records and fail at the same fields
(`FormsAgree`, `forms_agree`).
-/

import Boilerplate.Proofs.Record.Declares
import Boilerplate.Proofs.Record.Reference

namespace Boilerplate

variable {τ δ E V ε : Type}

namespace RecordShape

variable {m : Meaning τ δ E V ε} {r : RecordShape τ δ}

/-! ### Elements -/

/-- The values of elements, one for each field as far as both reach. -/
def decodeEach (m : Meaning τ δ E V ε) (fs : List (StoredField τ δ)) (es : List E) :
    Except ε (List V) :=
  (fs.zip es).mapM fun p => m.decode p.1.type p.2

/-- The values that stand in for fields, numbered from `i` on, or what is wrong with the first of
them that is required. -/
def standIns (m : Meaning τ δ E V ε) (fail : StoredField τ δ → Nat → ReadFailure ε) (i : Nat)
    (fs : List (StoredField τ δ)) : Except (ReadFailure ε) (List V) :=
  (fs.zipIdx i).mapM fun p =>
    match absentValue? m p.1 with
    | some v => .ok v
    | none => .error (fail p.1 p.2)

/-- What stands in for fields, the first and then the others. -/
theorem standIns_cons {fail : StoredField τ δ → Nat → ReadFailure ε} {i : Nat}
    {f : StoredField τ δ} {fs : List (StoredField τ δ)} :
    standIns m fail i (f :: fs) =
      match absentValue? m f with
      | some v => (standIns m fail (i + 1) fs).map (v :: ·)
      | none => .error (fail f i) := by
  rw [standIns, List.zipIdx_cons, List.mapM_cons]
  dsimp only
  cases absentValue? m f with
  | none => rfl
  | some v => rfl

/-- Elements are decoded one behind the other. -/
theorem decodeEach_cons {f : StoredField τ δ} {fs : List (StoredField τ δ)} {e : E} {es : List E} :
    decodeEach m (f :: fs) (e :: es) = do
      let v ← m.decode f.type e
      let vs ← decodeEach m fs es
      return v :: vs :=
  List.mapM_cons

/-- Where there are no elements all fields are filled. -/
theorem readElements_nil (i : Nat) (fs : List (StoredField τ δ)) :
    readElements m i fs ([] : List E) =
      (standIns m (fun _ j => .tooShort j) i fs).map fun ws => (ws, []) := by
  induction fs generalizing i with
  | nil => rfl
  | cons f fs ih =>
    rw [readElements, ih, standIns_cons]
    cases absentValue? m f with
    | none => rfl
    | some v => cases standIns m (fun _ j => .tooShort j) (i + 1) fs <;> rfl

/-- **Elements** are decoded one by one, and then the other fields are filled. -/
theorem readElements_eq (i : Nat) (fs : List (StoredField τ δ)) (es : List E) :
    readElements m i fs es = do
      let vs ← (decodeEach m fs es).mapError .value
      let ws ← standIns m (fun _ j => .tooShort j) (i + es.length) (fs.drop es.length)
      return (vs ++ ws, es.drop fs.length) := by
  induction fs generalizing i es with
  | nil => cases es <;> rfl
  | cons f fs ih =>
    cases es with
    | nil =>
      rw [readElements_nil, List.length_nil, Nat.add_zero, List.drop_zero]
      cases standIns m (fun _ j => .tooShort j) i (f :: fs) <;> rfl
    | cons e es =>
      have hnumber : i + (e :: es).length = i + 1 + es.length := by
        rw [List.length_cons, Nat.add_comm es.length 1, Nat.add_assoc]
      rw [readElements, ih, decodeEach_cons, hnumber, List.length_cons, List.drop_succ_cons,
        List.length_cons, List.drop_succ_cons]
      cases m.decode f.type e with
      | error why => rfl
      | ok v =>
        cases decodeEach m fs es with
        | error why => rfl
        | ok vs =>
          cases standIns m (fun _ j => .tooShort j) (i + 1 + es.length) (fs.drop es.length) <;> rfl

/-! ### Entries under the keys of the fields -/

/-- The slots that hold values of the first fields under their own keys. -/
def slotsOf (vs : List V) : Slots V := fun s => if s.alias?.isNone then vs[s.field]? else none

/-- No slot is filled if no element was read. -/
theorem slotsOf_nil : slotsOf ([] : List V) = Slots.empty :=
  funext fun _ => ite_self none

/-- One more element fills the next slot. -/
theorem fill_slotsOf (vs : List V) (v : V) :
    (slotsOf vs).fill { field := vs.length } v = slotsOf (vs ++ [v]) := by
  funext s
  obtain ⟨i, a?⟩ := s
  cases a? with
  | none =>
    simp only [Slots.fill, slotsOf, Slot.mk.injEq, and_true, Option.isNone_none, if_true]
    split
    · rename_i hi
      rw [hi, List.getElem?_concat_length]
    · rename_i hi
      rcases Nat.lt_or_gt_of_ne hi with hlt | hgt
      · rw [List.getElem?_append_left hlt]
      · rw [List.getElem?_eq_none (by omega), List.getElem?_eq_none (by simp; omega)]
  | some a => simp [Slots.fill, slotsOf]

/-- The entry for the next field is decoded into its slot. -/
theorem readEntry_slotsOf (h : r.allKeys.Nodup) {vs : List V} {f : StoredField τ δ}
    (hf : r.fields[vs.length]? = some f) (e : E) :
    readEntry m r (slotsOf vs) f.key e =
      ((m.decode f.type e).mapError .value).map fun v => slotsOf (vs ++ [v]) := by
  have hslot : r.slot? f.key = some { field := vs.length } :=
    (slot?_eq_some_iff h).2 (by simp [Slot.keyIn?, hf])
  have hempty : (slotsOf vs { field := vs.length }).isSome = false := by simp [slotsOf]
  rw [readEntry_of_counts hslot hf hempty (by simp), funext (fill_slotsOf vs)]

/-- **Entries for the fields** from one on are decoded into their slots one by one. -/
theorem foldlM_readEntry_slotsOf (h : r.allKeys.Nodup) (before fs : List (StoredField τ δ))
    (hfields : r.fields = before ++ fs) (vs : List V) (hvs : vs.length = before.length)
    (es : List E) :
    ((fs.map (·.key)).zip es).foldlM (fun filled p => readEntry m r filled p.1 p.2)
        (slotsOf vs) =
      ((decodeEach m fs es).mapError .value).map fun ws => slotsOf (vs ++ ws) := by
  induction fs generalizing before vs es with
  | nil => exact congrArg Except.ok (congrArg slotsOf (List.append_nil vs).symm)
  | cons f fs ih =>
    cases es with
    | nil => exact congrArg Except.ok (congrArg slotsOf (List.append_nil vs).symm)
    | cons e es =>
      have hf : r.fields[vs.length]? = some f := by
        rw [hfields, hvs, List.getElem?_append_right (Nat.le_refl _), Nat.sub_self]
        rfl
      rw [List.map_cons, List.zip_cons_cons, List.foldlM_cons, readEntry_slotsOf h hf,
        decodeEach_cons]
      cases m.decode f.type e with
      | error why => rfl
      | ok v =>
        have hbehind : r.fields = before ++ [f] ++ fs := by rw [hfields, List.append_cons]
        refine (ih (before ++ [f]) hbehind (vs ++ [v]) (by simp [hvs]) es).trans ?_
        cases decodeEach m fs es with
        | error why => rfl
        | ok ws => exact congrArg Except.ok (congrArg slotsOf (List.append_cons ..).symm)

/-- A field is finished with the value in its slot, or else with what stands in for it. -/
theorem finishField_slotsOf (vs : List V) (f : StoredField τ δ) (i : Nat) :
    finishField m (slotsOf vs) f i =
      match vs[i]? with
      | some v => .ok v
      | none =>
        match absentValue? m f with
        | some v => .ok v
        | none => .error (.missing f.key) := by
  have haliases : (f.aliasSlots i).findSome? (slotsOf vs) = none := by
    rw [List.findSome?_eq_none_iff]
    intro s hs
    obtain ⟨a, -, rfl⟩ := List.mem_map.1 hs
    rfl
  have hown : slotsOf vs { field := i } = vs[i]? := rfl
  rw [finishField, StoredField.slots, List.findSome?_cons, haliases, hown]
  cases vs[i]? <;> rfl

/-- Fields whose slots are empty are filled. -/
theorem mapM_finishField_of_le {vs : List V} {i : Nat} (hi : vs.length ≤ i)
    (fs : List (StoredField τ δ)) :
    ((fs.zipIdx i).mapM fun p => finishField m (slotsOf vs) p.1 p.2) =
      standIns m (fun f _ => .missing f.key) i fs := by
  induction fs generalizing i with
  | nil => rfl
  | cons f fs ih =>
    rw [List.zipIdx_cons, List.mapM_cons, ih (Nat.le_succ_of_le hi), finishField_slotsOf,
      List.getElem?_eq_none hi, standIns_cons]
    cases absentValue? m f <;> rfl

/-- **Finishing** keeps what the slots hold and fills the other fields. -/
theorem mapM_finishField_slotsOf (before vs : List V) (fs : List (StoredField τ δ))
    (hvs : vs.length ≤ fs.length) :
    ((fs.zipIdx before.length).mapM fun p => finishField m (slotsOf (before ++ vs)) p.1 p.2) =
      (standIns m (fun f _ => .missing f.key) (before.length + vs.length)
        (fs.drop vs.length)).map (vs ++ ·) := by
  induction vs generalizing before fs with
  | nil =>
    rw [List.append_nil, mapM_finishField_of_le (Nat.le_refl _)]
    exact (congrFun Except.map_id _).symm
  | cons v vs ih =>
    cases fs with
    | nil => exact absurd hvs (Nat.not_succ_le_zero _)
    | cons f fs =>
      have hnext := ih (before ++ [v]) fs (Nat.le_of_succ_le_succ hvs)
      rw [List.append_assoc, List.singleton_append, List.length_append, List.length_singleton,
        Nat.add_right_comm] at hnext
      have hheld : (before ++ v :: vs)[before.length]? = some v := by
        rw [List.getElem?_append_right (Nat.le_refl _), Nat.sub_self]
        rfl
      rw [List.zipIdx_cons, List.mapM_cons, hnext, finishField_slotsOf, hheld, List.length_cons,
        List.drop_succ_cons, ← Nat.add_assoc]
      cases standIns m (fun f _ => .missing f.key) (before.length + vs.length + 1)
        (fs.drop vs.length) <;> rfl

/-- The record is finished with the values of as many fields as there are elements for. -/
theorem finish_slotsOf {vs : List V} {n : Nat} (hvs : vs.length = min r.fields.length n) :
    finish m r (slotsOf vs) =
      (standIns m (fun f _ => .missing f.key) n (r.fields.drop n)).map fun ws =>
        ⟨vs ++ ws, r.transientValues m⟩ := by
  have hfields := mapM_finishField_slotsOf (m := m) [] vs r.fields (by omega)
  rw [List.length_nil, Nat.zero_add, List.nil_append] at hfields
  -- Where elements are left over, no field is.
  have hlate : standIns m (fun f _ => .missing f.key) vs.length (r.fields.drop vs.length) =
      standIns m (fun f _ => .missing f.key) n (r.fields.drop n) := by
    rcases Nat.le_total n r.fields.length with hle | hle
    · rw [hvs, Nat.min_eq_right hle]
    · rw [List.drop_eq_nil_of_le hle, List.drop_eq_nil_of_le (by omega)]
      rfl
  rw [hlate] at hfields
  refine (congrArg (Except.bind · fun stored =>
    .ok (⟨stored, r.transientValues m⟩ : RecordValue V)) hfields).trans ?_
  cases standIns m (fun f _ => .missing f.key) n (r.fields.drop n) <;> rfl

/-- **Entries for the fields** are decoded one by one, and then the other fields are filled. -/
theorem readMap_zip_eq (h : r.allKeys.Nodup) (es : List E) :
    readMap m r (r.keys.zip es) = do
      let vs ← (decodeEach m r.fields es).mapError .value
      let ws ← standIns m (fun f _ => .missing f.key) es.length (r.fields.drop es.length)
      return ⟨vs ++ ws, r.transientValues m⟩ := by
  have hentries : readEntries m r (r.keys.zip es) =
      ((decodeEach m r.fields es).mapError .value).map slotsOf := by
    have hrun := foldlM_readEntry_slotsOf (m := m) h [] r.fields rfl [] rfl es
    rwa [slotsOf_nil] at hrun
  rw [readMap, hentries]
  cases hvs : decodeEach m r.fields es with
  | error why => rfl
  | ok vs =>
    have hlength : vs.length = min r.fields.length es.length := by
      rw [← (mapM_eq_ok_iff.1 hvs).length_eq, List.length_zip]
    refine (finish_slotsOf hlength).trans ?_
    cases standIns m (fun f _ => .missing f.key) es.length (r.fields.drop es.length) <;> rfl

/-! ### Both forms -/

/-- The element at a place, if there is one, is a value of the field's type. -/
def DecodesAt (m : Meaning τ δ E V ε) (fs : List (StoredField τ δ)) (es : List E) (i : Nat) :
    Prop :=
  ∀ (f : StoredField τ δ) (e : E), fs[i]? = some f → es[i]? = some e →
    ∃ v, m.decode f.type e = .ok v

/-- What the sequence form and the map form of a record make of the same elements. -/
inductive FormsAgree (m : Meaning τ δ E V ε) (r : RecordShape τ δ) (es : List E) : Prop
  /-- Both read one record: what the elements are decoded as, and what stands in for the fields that
  there are no elements for. -/
  | read (x : RecordValue V)
      (decoded : ∀ (i : Nat) f e, r.fields[i]? = some f → es[i]? = some e →
        ∃ v, m.decode f.type e = .ok v ∧ x.stored[i]? = some v)
      (filled : ∀ i f, r.fields[i]? = some f → es.length ≤ i →
        ∃ v, f.StandsIn m v ∧ x.stored[i]? = some v)
      (transient : List.Forall₂ (fun t v => t.StartsAs m v) r.transient x.transient)
      (sequence : r.readSequence m es = .ok (x, es.drop r.fields.length))
      (map : r.readMap m (r.keys.zip es) = .ok x)
  /-- Both fail at the first element that is no value of its field's type. -/
  | undecodable (i : Nat) (f : StoredField τ δ) (e : E) (why : ε) (field : r.fields[i]? = some f)
      (element : es[i]? = some e) (refused : m.decode f.type e = .error why)
      (first : ∀ k < i, DecodesAt m r.fields es k)
      (sequence : r.readSequence m es = .error (.value why))
      (map : r.readMap m (r.keys.zip es) = .error (.value why))
  /-- All elements are decoded, and both fail at the first required field that there is none for. -/
  | tooShort (j : Nat) (f : StoredField τ δ) (field : r.fields[j]? = some f)
      (required : f.isRequired = true) (late : es.length ≤ j)
      (decoded : ∀ i, DecodesAt m r.fields es i)
      (first : ∀ k < j, es.length ≤ k → ∀ g, r.fields[k]? = some g → g.isRequired = false)
      (sequence : r.readSequence m es = .error (.tooShort j))
      (map : r.readMap m (r.keys.zip es) = .error (.missing f.key))

/-- The elements are decoded in their places, or one of them is the first that is not. -/
theorem decodeEach_spec (m : Meaning τ δ E V ε) (fs : List (StoredField τ δ)) (es : List E) :
    (∃ vs, decodeEach m fs es = .ok vs ∧ vs.length = min fs.length es.length ∧
      ∀ (i : Nat) f e, fs[i]? = some f → es[i]? = some e →
        ∃ v, m.decode f.type e = .ok v ∧ vs[i]? = some v) ∨
    ∃ (i : Nat) (f : StoredField τ δ) (e : E) (why : ε), decodeEach m fs es = .error why ∧
      fs[i]? = some f ∧ es[i]? = some e ∧ m.decode f.type e = .error why ∧
      ∀ k < i, DecodesAt m fs es k := by
  cases hrun : decodeEach m fs es with
  | ok vs =>
    have hall := mapM_eq_ok_iff.1 hrun
    refine Or.inl ⟨vs, rfl, by rw [← hall.length_eq, List.length_zip], fun i f e hf he => ?_⟩
    have hboth : (fs.zip es)[i]? = some (f, e) := List.getElem?_zip_eq_some.2 ⟨hf, he⟩
    obtain ⟨v, hv, hdecode⟩ := exists_getElem?_of_forall₂ hall hboth
    exact ⟨v, hdecode, hv⟩
  | error why =>
    obtain ⟨before, ⟨f, e⟩, behind, hzip, hwhy, hbefore⟩ := mapM_eq_error_iff.1 hrun
    have hhere : (fs.zip es)[before.length]? = some (f, e) := by
      rw [hzip, List.getElem?_append_right (Nat.le_refl _), Nat.sub_self]
      rfl
    obtain ⟨hf, he⟩ := List.getElem?_zip_eq_some.1 hhere
    refine Or.inr ⟨before.length, f, e, why, rfl, hf, he, hwhy, fun k hk g e' hg he' => ?_⟩
    have hearly : (fs.zip es)[k]? = some (g, e') := List.getElem?_zip_eq_some.2 ⟨hg, he'⟩
    rw [hzip, List.getElem?_append_left hk] at hearly
    exact hbefore (g, e') (List.mem_of_getElem? hearly)

/-- All fields are filled, or one of them is the first that is required, whatever is said then. -/
theorem standIns_spec (m : Meaning τ δ E V ε) (n : Nat) (fs : List (StoredField τ δ)) :
    (∃ ws, (∀ fail, standIns m fail n fs = .ok ws) ∧
      ∀ (i : Nat) f, fs[i]? = some f → ∃ v, f.StandsIn m v ∧ ws[i]? = some v) ∨
    ∃ (i : Nat) (f : StoredField τ δ), fs[i]? = some f ∧ f.isRequired = true ∧
      (∀ k < i, ∀ g, fs[k]? = some g → g.isRequired = false) ∧
      ∀ fail, standIns m fail n fs = .error (fail f (n + i)) := by
  induction fs generalizing n with
  | nil => exact Or.inl ⟨[], fun _ => rfl, nofun⟩
  | cons f fs ih =>
    cases hf : absentValue? m f with
    | none =>
      refine Or.inr ⟨0, f, rfl, absentValue?_eq_none_iff.1 hf, nofun, fun fail => ?_⟩
      rw [standIns_cons, hf]
      rfl
    | some v =>
      have hcons : ∀ fail, standIns m fail n (f :: fs) =
          (standIns m fail (n + 1) fs).map (v :: ·) := fun fail => by rw [standIns_cons, hf]
      have hfilled : f.isRequired = false := by
        rw [← Bool.not_eq_true, ← absentValue?_eq_none_iff (m := m), hf]
        exact Option.some_ne_none v
      rcases ih (n + 1) with ⟨ws, hws, hvalues⟩ | ⟨i, g, hg, hrequired, hfirst, hfail⟩
      · refine Or.inl ⟨v :: ws, fun fail => by rw [hcons, hws]; rfl, fun i g hg => ?_⟩
        cases i with
        | zero =>
          obtain rfl := Option.some.inj hg
          exact ⟨v, absentValue?_eq_some_iff.1 hf, rfl⟩
        | succ i => exact hvalues i g hg
      · refine Or.inr ⟨i + 1, g, hg, hrequired, fun k hk g' hg' => ?_, fun fail => ?_⟩
        · cases k with
          | zero => exact Option.some.inj hg' ▸ hfilled
          | succ k => exact hfirst k (Nat.lt_of_succ_lt_succ hk) g' hg'
        · rw [hcons, hfail, Nat.add_right_comm, Nat.add_assoc]
          rfl

/-- **The forms agree** if no key is read twice. -/
theorem formsAgree (h : r.allKeys.Nodup) (m : Meaning τ δ E V ε) (es : List E) :
    FormsAgree m r es := by
  have hmap := readMap_zip_eq (m := m) h es
  have hsequence : r.readSequence m es =
      (readElements m 0 r.fields es).bind fun p => .ok (⟨p.1, r.transientValues m⟩, p.2) := rfl
  rw [readElements_eq, Nat.zero_add] at hsequence
  rcases decodeEach_spec m r.fields es with ⟨vs, hvs, hlength, hdecoded⟩ |
    ⟨i, f, e, why, hfail, hf, he, hwhy, hfirst⟩
  · rw [hvs] at hmap hsequence
    have hdecodes : ∀ i, DecodesAt m r.fields es i := fun i f e hf he =>
      (hdecoded i f e hf he).imp fun _ => And.left
    rcases standIns_spec m es.length (r.fields.drop es.length) with ⟨ws, hws, hfilled⟩ |
      ⟨i, f, hf, hrequired, hfirst, hfail⟩
    · rw [hws] at hmap hsequence
      refine .read ⟨vs ++ ws, r.transientValues m⟩ (fun i f e hf he => ?_) (fun i f hf hi => ?_)
        (forall₂_startsAs_iff.2 rfl) hsequence hmap
      · obtain ⟨v, hdecode, hv⟩ := hdecoded i f e hf he
        exact ⟨v, hdecode, by rw [List.getElem?_append_left (List.getElem?_eq_some_iff.1 hv).1, hv]⟩
      · have hshort : vs.length = es.length := by
          have hlt := (List.getElem?_eq_some_iff.1 hf).1
          omega
        have hdrop : (r.fields.drop es.length)[i - es.length]? = some f := by
          rw [List.getElem?_drop, Nat.add_sub_cancel' hi, hf]
        obtain ⟨v, hv, hheld⟩ := hfilled _ _ hdrop
        exact ⟨v, hv, by rw [List.getElem?_append_right (by omega), hshort, hheld]⟩
    · rw [hfail] at hmap hsequence
      rw [List.getElem?_drop] at hf
      refine .tooShort (es.length + i) f hf hrequired (Nat.le_add_right ..) hdecodes
        (fun k hk hle g hg => ?_) hsequence hmap
      refine hfirst (k - es.length) (by omega) g ?_
      rw [List.getElem?_drop, Nat.add_sub_cancel' hle, hg]
  · rw [hfail] at hmap hsequence
    exact .undecodable i f e why hf he hwhy hfirst hsequence hmap

/-! ### What is not read -/

/-- Elements behind those for the last field are given back as they are. -/
theorem readElements_take (m : Meaning τ δ E V ε) (i : Nat) (fs : List (StoredField τ δ))
    (es : List E) :
    readElements m i fs es =
      (readElements m i fs (es.take fs.length)).map fun p => (p.1, es.drop fs.length) := by
  induction fs generalizing i es with
  | nil => cases es <;> rfl
  | cons f fs ih =>
    cases es with
    | nil =>
      rw [List.take_nil, List.drop_nil, readElements_nil]
      cases standIns m (fun _ j => .tooShort j) i (f :: fs) <;> rfl
    | cons e es =>
      rw [List.length_cons, List.take_succ_cons, List.drop_succ_cons, readElements, ih,
        readElements]
      cases m.decode f.type e with
      | error why => rfl
      | ok v => cases readElements m (i + 1) fs (es.take fs.length) <;> rfl

/-- **No elements are read** behind those for the last field. -/
theorem readSequence_take (m : Meaning τ δ E V ε) (r : RecordShape τ δ) (es : List E) :
    r.readSequence m es = (r.readSequence m (es.take r.fields.length)).map fun p =>
      (p.1, es.drop r.fields.length) := by
  rw [readSequence, readElements_take, readSequence]
  cases readElements m 0 r.fields (es.take r.fields.length) <;> rfl

end RecordShape

/-! ### Declared records -/

namespace RecordDeclaration

open RecordShape

/-- **The sequence form and the map form agree.**  From any elements, and from entries for as many
of them as there are fields, a declared record is read as the same record, or else both forms fail
at the same field and for the same reason.  The sequence form gives back the elements behind those
for the last field, and does not depend on them. -/
theorem forms_agree {args : Tokens} {item : Item} {d : RecordDeclaration}
    (accepted : ofItem args item = .ok d) (apart : d.keys.Nodup) (m : Meaning TypeExpr Expr E V ε)
    (es : List E) :
    FormsAgree m d.toRecordShape es ∧
      d.readSequence m es = (d.readSequence m (es.take d.fields.length)).map fun p =>
        (p.1, es.drop d.fields.length) :=
  ⟨formsAgree (allKeys_nodup_of_ofItem accepted apart) m es, readSequence_take m _ es⟩

/-- Without an element for the second field both forms fail there, the one with its number and the
other one with its key. -/
theorem forms_agree_of_one : ∃ d,
    ofItem [] (.struct (structOf [({ name := "a" }, []), ({ name := "b" }, [])])) = .ok d ∧
    FormsAgree texts d.toRecordShape [some "x"] ∧
    d.readSequence texts [some "x"] = .error (.tooShort 1) ∧
    d.readMap texts [("a", some "x")] = .error (.missing "b") := by
  obtain ⟨d, accepted, hkeys, hsequence, hmap⟩ : ∃ d,
      ofItem [] (.struct (structOf [({ name := "a" }, []), ({ name := "b" }, [])])) = .ok d ∧
      d.keys = ["a", "b"] ∧ d.readSequence texts [some "x"] = .error (.tooShort 1) ∧
      d.readMap texts [("a", some "x")] = .error (.missing "b") := ⟨_, rfl, rfl, rfl, rfl⟩
  obtain ⟨hagree, -⟩ := forms_agree accepted (by simp [hkeys]) texts [some "x"]
  exact ⟨d, accepted, hagree, hsequence, hmap⟩

end RecordDeclaration
end Boilerplate
