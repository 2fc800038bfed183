import RouterMenu.Proofs.Record.RoundTrip

/-!
# Fields by their places

A record is read and changed by the place of a field among those that take part in the protocol, and
a place is found by the name on the wire. All three agree with the list of its entries: what is in a
place is the scalar of the entry there (`Cells.get?_eq`), what is put into a place becomes that of
the one entry there (`Cells.entries_set`), and a name leads to the one place that has it
(`lookup?_eq_some_iff`), provided no two fields have the same name. Whatever a record holds besides,
with or without a name on the wire, stays when something is put into a place
(`Cells.stored?_set_of_ne`).
-/

namespace RouterMenu

/-! ## The field in a place -/

/-- The fields that take part in the protocol, in order. -/
def wired (fields : List Field) : List Field := fields.filter fun f => f.wire?.isSome

section

variable {f : Field} {wire : String}

theorem wired_cons_none (hw : f.wire? = none) (fields : List Field) :
    wired (f :: fields) = wired fields := by
  rw [wired, List.filter_cons_of_neg (by simp [hw]), wired]

theorem wired_cons_some (hw : f.wire? = some wire) (fields : List Field) :
    wired (f :: fields) = f :: wired fields := by
  rw [wired, List.filter_cons_of_pos (by simp [hw]), wired]

end

/-- **The descriptor in a place is that of the field there.** -/
theorem map_descriptor?_wired (fields : List Field) :
    (wired fields).map Field.descriptor? = (descriptors fields).map some := by
  induction fields with
  | nil => rfl
  | cons f fields ih =>
    cases hw : f.wire? with
    | none => rw [wired_cons_none hw, descriptors_cons_none (Field.descriptor?_eq_none hw), ih]
    | some wire =>
      have hd := Field.descriptor?_eq_some hw
      rw [wired_cons_some hw, descriptors_cons_some hd, List.map_cons, List.map_cons, ih, hd]

theorem map_descriptor?_getElem?_wired (fields : List Field) (i : Nat) :
    (wired fields)[i]?.map Field.descriptor? = (descriptors fields)[i]?.map some := by
  rw [← List.getElem?_map, map_descriptor?_wired, List.getElem?_map]

/-- There is a field wherever there is a descriptor. -/
theorem exists_wired_of_descriptor {fields : List Field} {i : Nat} {d : Descriptor}
    (h : (descriptors fields)[i]? = some d) :
    ∃ f, (wired fields)[i]? = some f ∧ f.descriptor? = some d := by
  have hboth := map_descriptor?_getElem?_wired fields i
  rw [h, Option.map_some] at hboth
  exact Option.map_eq_some_iff.1 hboth

/-- There is a descriptor wherever there is a field. -/
theorem exists_descriptor_of_wired {fields : List Field} {i : Nat} {f : Field}
    (h : (wired fields)[i]? = some f) :
    ∃ d, (descriptors fields)[i]? = some d ∧ f.descriptor? = some d := by
  have hboth := map_descriptor?_getElem?_wired fields i
  rw [h, Option.map_some] at hboth
  obtain ⟨d, hd, hf⟩ := Option.map_eq_some_iff.1 hboth.symm
  exact ⟨d, hd, hf.symm⟩

theorem Field.coercion_of_descriptor? {f : Field} {d : Descriptor} (h : f.descriptor? = some d) :
    d.coercion = f.type.coercion := by
  obtain ⟨wire, -, rfl⟩ := Option.map_eq_some_iff.1 h
  rfl

/-! ## What a field takes in -/

/-- Whether a scalar is of the kind that text is read as. -/
def Coercion.admits : Coercion → Value → Bool
  | .text, .text _ | .flag, .flag _ | .int, .int _ | .duration, .int _ => true
  | _, _ => false

/-- A scalar that is a number comes back from a field as it was if it fits there, and as zero if it
does not. -/
theorem Whole.narrow_narrow {t : IntType} (n : Whole .i64) :
    (narrow (narrow n.val : Whole t).val : Whole .i64) = if t.fits n.val then n else zero := by
  have hfits : t.fits n.val = true ↔ t.lo ≤ n.val ∧ n.val ≤ t.hi := by simp [IntType.fits]
  by_cases h : t.lo ≤ n.val ∧ n.val ≤ t.hi
  · rw [if_pos (hfits.2 h), narrow_of_fits h.1 h.2]
    exact n.narrow_val
  · rw [if_neg fun hn => h (hfits.1 hn), narrow_of_not_fits h]
    exact narrow_zero

namespace FieldType

/-- What a field of the type gives back of a scalar that was put into it: zero for a number outside
of its range, and otherwise the scalar. -/
def returned : FieldType → Value → Value
  | .int t, .int n | .duration t, .int n => .int (if t.fits n.val then n else .zero)
  | _, v => v

/-- A field refuses the scalars of another kind, and no others. -/
theorem ofValue?_eq_none_iff {t : FieldType} {v : Value} :
    t.ofValue? v = none ↔ t.coercion.admits v = false := by
  cases t <;> cases v <;> simp [ofValue?, coercion, Coercion.admits]

/-- **What was taken in is given back**, but for a number that does not fit. -/
theorem toValue_of_ofValue? {t : FieldType} {v : Value} {x : t.Carrier}
    (taken : t.ofValue? v = some x) : t.toValue x = t.returned v := by
  cases t with
  | text =>
    cases v <;> cases taken
    rfl
  | flag =>
    cases v <;> cases taken
    rfl
  | int t =>
    cases v <;> cases taken
    exact congrArg Value.int (Whole.narrow_narrow _)
  | duration t =>
    cases v <;> cases taken
    exact congrArg Value.int (Whole.narrow_narrow _)

end FieldType

namespace Cells

variable {f : Field} {fields : List Field} {wire : String}

/-! ## Reading by place -/

theorem get?_cons_none (hw : f.wire? = none) (x : f.type.Carrier) (rest : Cells fields) (i : Nat) :
    (Cells.cons x rest).get? i = rest.get? i := by
  rw [Cells.get?.eq_def]
  simp only [hw]

theorem get?_cons_zero (hw : f.wire? = some wire) (x : f.type.Carrier) (rest : Cells fields) :
    (Cells.cons x rest).get? 0 = some (f.type.toValue x) := by
  rw [Cells.get?.eq_def]
  simp only [hw]

theorem get?_cons_succ (hw : f.wire? = some wire) (x : f.type.Carrier) (rest : Cells fields)
    (i : Nat) : (Cells.cons x rest).get? (i + 1) = rest.get? i := by
  rw [Cells.get?.eq_def]
  simp only [hw]

/-- **In a place is what the entry there holds.** -/
theorem get?_eq (r : Cells fields) (i : Nat) : r.get? i = r.entries[i]?.map Prod.snd := by
  induction r generalizing i with
  | nil => rfl
  | @cons f fields x rest ih =>
    cases hw : f.wire? with
    | none =>
      have hd := Field.descriptor?_eq_none hw
      simp only [get?_cons_none hw, entries, hd, ih]
    | some wire =>
      have hd := Field.descriptor?_eq_some hw
      simp only [entries, hd]
      cases i with
      | zero => rw [get?_cons_zero hw, List.getElem?_cons_zero, Option.map_some]
      | succ i => rw [get?_cons_succ hw, List.getElem?_cons_succ, ih]

/-- There is something in a place of a record if there is a field. -/
theorem exists_get?_of_descriptor (r : Cells fields) {i : Nat} {d : Descriptor}
    (h : (descriptors fields)[i]? = some d) :
    ∃ v, r.get? i = some v ∧ (d, v) ∈ r.entries := by
  rw [← r.map_fst_entries, List.getElem?_map] at h
  obtain ⟨⟨_, v⟩, hentry, rfl⟩ := Option.map_eq_some_iff.1 h
  exact ⟨v, by rw [get?_eq, hentry, Option.map_some], List.mem_of_getElem? hentry⟩

/-! ## Writing by place -/

theorem set_cons_none (hw : f.wire? = none) (x : f.type.Carrier) (rest : Cells fields) (i : Nat)
    (v : Value) : (Cells.cons x rest).set i v = .cons x (rest.set i v) := by
  rw [Cells.set.eq_def]
  simp only [hw]

theorem set_cons_zero (hw : f.wire? = some wire) (x : f.type.Carrier) (rest : Cells fields)
    (v : Value) : (Cells.cons x rest).set 0 v = .cons ((f.type.ofValue? v).getD x) rest := by
  rw [Cells.set.eq_def]
  simp only [hw]

theorem set_cons_succ (hw : f.wire? = some wire) (x : f.type.Carrier) (rest : Cells fields)
    (i : Nat) (v : Value) : (Cells.cons x rest).set (i + 1) v = .cons x (rest.set i v) := by
  rw [Cells.set.eq_def]
  simp only [hw]

/-- A scalar that the field in a place refuses changes nothing, nor does any in a place where there
is no field. -/
theorem set_eq_self {r : Cells fields} {i : Nat} {v : Value}
    (refused : ∀ f, (wired fields)[i]? = some f → f.type.ofValue? v = none) : r.set i v = r := by
  induction r generalizing i with
  | nil => rfl
  | @cons f fields x rest ih =>
    cases hw : f.wire? with
    | none =>
      rw [wired_cons_none hw] at refused
      rw [set_cons_none hw, ih refused]
    | some wire =>
      rw [wired_cons_some hw] at refused
      cases i with
      | zero => rw [set_cons_zero hw, refused f rfl, Option.getD_none]
      | succ i => rw [set_cons_succ hw, ih refused]

/-- **A scalar that is taken in becomes that of the entry in its place**, and no other entry
changes. -/
theorem entries_set {r : Cells fields} {i : Nat} {f : Field} {d : Descriptor} {v : Value}
    {x : f.type.Carrier} (place : (wired fields)[i]? = some f) (hd : f.descriptor? = some d)
    (taken : f.type.ofValue? v = some x) :
    (r.set i v).entries = r.entries.set i (d, f.type.toValue x) := by
  induction r generalizing i with
  | nil => cases place
  | @cons g fields y rest ih =>
    -- a field without a wire name has no entry and takes up no place
    cases hw : g.wire? with
    | none =>
      rw [wired_cons_none hw] at place
      simp only [set_cons_none hw, entries, Field.descriptor?_eq_none hw, ih place]
    | some wire =>
      rw [wired_cons_some hw] at place
      have hg := Field.descriptor?_eq_some hw
      cases i with
      | zero =>
        rw [List.getElem?_cons_zero, Option.some.injEq] at place
        subst place
        rw [set_cons_zero hw, taken]
        simp only [entries, hd, List.set_cons_zero, Option.getD_some]
      | succ i =>
        rw [List.getElem?_cons_succ] at place
        simp only [set_cons_succ hw, entries, hg, ih place, List.set_cons_succ]

/-- What the `k`-th of all fields holds, whether or not it takes part in the protocol. -/
def stored? : {fields : List Field} → Cells fields → Nat → Option (Sigma FieldType.Carrier)
  | [], .nil, _ => none
  | f :: _, .cons x _, 0 => some ⟨f.type, x⟩
  | _ :: _, .cons _ rest, k + 1 => rest.stored? k

/-- **What another field holds stays as it is**, be it unknown to the protocol. -/
theorem stored?_set_of_ne {r : Cells fields} {i k : Nat} {f g : Field} (v : Value)
    (place : (wired fields)[i]? = some f) (hg : fields[k]? = some g) (other : g ≠ f) :
    (r.set i v).stored? k = r.stored? k := by
  induction r generalizing i k with
  | nil => cases place
  | @cons first fields x rest ih =>
    cases hw : first.wire? with
    | none =>
      rw [wired_cons_none hw] at place
      rw [set_cons_none hw]
      cases k with
      | zero => rfl
      | succ k => exact ih place hg
    | some wire =>
      rw [wired_cons_some hw] at place
      cases i with
      | succ i =>
        rw [set_cons_succ hw]
        cases k with
        | zero => rfl
        | succ k => exact ih place hg
      | zero =>
        rw [set_cons_zero hw]
        cases k with
        | succ k => rfl
        | zero =>
          -- the field in the place is the first one, which is no other
          cases place
          cases hg
          exact absurd rfl other

/-- One record is another with a scalar in place `i`, which is that of the field `f`. -/
structure Put (r s : Cells fields) (i : Nat) (f : Field) (v : Value) : Prop where
  here : s.get? i = some (f.type.returned v)
  there : ∀ j, j ≠ i → s.get? j = r.get? j
  stored : ∀ k g, fields[k]? = some g → g ≠ f → s.stored? k = r.stored? k

/-- A scalar of the kind of the field is put into its place and nowhere else. -/
theorem put_of_admits (r : Cells fields) {i : Nat} {f : Field} {d : Descriptor} {v : Value}
    (place : (wired fields)[i]? = some f) (hd : f.descriptor? = some d)
    (admitted : f.type.coercion.admits v = true) : r.Put (r.set i v) i f v := by
  -- a value of the right kind is taken by the field, narrowed if need be
  obtain ⟨x, taken⟩ : ∃ x, f.type.ofValue? v = some x := by
    refine Option.ne_none_iff_exists'.1 fun hnone => ?_
    rw [FieldType.ofValue?_eq_none_iff.1 hnone] at admitted
    cases admitted
  have hentries := entries_set (r := r) place hd taken
  -- places are counted alike among the fields and among the entries
  have hlt : i < r.entries.length := by
    have hlength : (wired fields).length = r.entries.length := by
      rw [← List.length_map (f := Field.descriptor?), map_descriptor?_wired, ← r.map_fst_entries,
        List.length_map, List.length_map]
    exact hlength ▸ (List.getElem?_eq_some_iff.1 place).1
  refine ⟨?_, fun j hj => ?_, fun k g hg other => stored?_set_of_ne v place hg other⟩
  · rw [get?_eq, hentries, List.getElem?_set_self hlt, Option.map_some,
      FieldType.toValue_of_ofValue? taken]
  · rw [get?_eq, hentries, List.getElem?_set_ne (Ne.symm hj), ← get?_eq]

end Cells

/-! ## Places by name -/

variable {fields : List Field} {wire : String} {i : Nat} {d : Descriptor}

/-- **A name leads to the place of the field that has it**, and to no other. -/
theorem lookup?_eq_some_iff (unambiguous : Unambiguous fields) :
    lookup? fields wire = some (i, d) ↔ (descriptors fields)[i]? = some d ∧ d.wire = wire := by
  have hfind (j : Nat) : (descriptors fields).findIdx? (fun d => d.wire == wire) = some j ↔
      ∃ d, (descriptors fields)[j]? = some d ∧ d.wire = wire := by
    rw [List.findIdx?_eq_some_iff_getElem]
    constructor
    · rintro ⟨hlt, hwire, -⟩
      exact ⟨_, List.getElem?_eq_getElem hlt, by simpa using hwire⟩
    · rintro ⟨d, hd, hwire⟩
      obtain ⟨hlt, rfl⟩ := List.getElem?_eq_some_iff.1 hd
      refine ⟨hlt, by simpa using hwire, fun k hk other => ?_⟩
      -- a field before it would have the same name
      have hapart := List.pairwise_iff_getElem.1 unambiguous.apart k j (Nat.lt_trans hk hlt) hlt hk
      exact hapart.wire_ne ((eq_of_beq other).trans hwire.symm)
  constructor
  · intro h
    simp only [lookup?] at h
    split at h
    · next j hj =>
      obtain ⟨d', hd', hwire⟩ := (hfind j).1 hj
      rw [hd', Option.map_some, Option.some.injEq, Prod.mk.injEq] at h
      obtain ⟨rfl, rfl⟩ := h
      exact ⟨hd', hwire⟩
    · cases h
  · rintro ⟨hd, hwire⟩
    simp only [lookup?, (hfind i).2 ⟨d, hd, hwire⟩, hd, Option.map_some]

/-! ## Menus by place -/

namespace Menu

/-- **A record is a table that is read and changed place by place.** For every menu there is, a
scalar of the kind of a field is put into its place and nowhere else; a scalar of another kind, or a
place past the last, changes nothing; in a place is something exactly if there is a field; and a
name on the wire leads to the one place that has it, for no two fields have the same name. -/
theorem access_by_place {m : Menu} (known : m ∈ samples ++ catalog) :
    (∀ (r : Record m) (i : Nat) (d : Descriptor) (v : Value),
        (descriptors m.fields)[i]? = some d → d.coercion.admits v = true →
          ∃ f, (wired m.fields)[i]? = some f ∧ f.descriptor? = some d ∧ r.Put (r.set i v) i f v)
      ∧ (∀ (r : Record m) (i : Nat) (v : Value),
        (∀ d, (descriptors m.fields)[i]? = some d → d.coercion.admits v = false) → r.set i v = r)
      ∧ (∀ (r : Record m) (i : Nat), r.get? i = none ↔ (descriptors m.fields).length ≤ i)
      ∧ (∀ (i : Nat) (d : Descriptor) (wire : String),
        m.field? wire = some (i, d) ↔ (descriptors m.fields)[i]? = some d ∧ d.wire = wire)
      ∧ ((descriptors m.fields).map Descriptor.wire).Nodup := by
  have hunambiguous := unambiguous_of_known known
  refine ⟨fun r i d v hd admitted => ?_, fun r i v refused => ?_, fun r i => ?_,
    fun i d wire => lookup?_eq_some_iff hunambiguous, ?_⟩
  · obtain ⟨f, hplace, hf⟩ := exists_wired_of_descriptor hd
    rw [Field.coercion_of_descriptor? hf] at admitted
    exact ⟨f, hplace, hf, r.put_of_admits hplace hf admitted⟩
  · refine Cells.set_eq_self fun f hplace => FieldType.ofValue?_eq_none_iff.2 ?_
    obtain ⟨d, hd, hf⟩ := exists_descriptor_of_wired hplace
    rw [← Field.coercion_of_descriptor? hf]
    exact refused d hd
  · rw [Cells.get?_eq, Option.map_eq_none_iff, List.getElem?_eq_none_iff, ← r.map_fst_entries,
      List.length_map]
  · rw [List.Nodup, List.pairwise_map]
    exact hunambiguous.apart.imp fun hapart => hapart.wire_ne

/-- A record with the greatest number there is, which no scalar can hold, and with a remark. -/
def fullRecord : Record sample :=
  trial ⟨0xFFFFFFFFFFFFFFFF, by decide, by decide⟩ ⟨-5, by decide, by decide⟩ "mine"

/-- A scalar that is too large a number for one of the fields. -/
def threeHundred : Value := .int ⟨300, by decide, by decide⟩

/-- Too large a number comes back as zero while the greatest one and the remark stay, and text in
place of a number changes nothing. -/
theorem access_by_place_fullRecord :
    sample ∈ samples ++ catalog
      ∧ (fullRecord.set 7 threeHundred).get? 7 = some (.int .zero)
      ∧ (fullRecord.set 7 threeHundred).get? 12 = fullRecord.get? 12
      ∧ (fullRecord.set 7 threeHundred).stored? 10 = fullRecord.stored? 10
      ∧ (fullRecord.set 7 threeHundred).stored? 14 = fullRecord.stored? 14
      ∧ fullRecord.set 7 (.text "300") = fullRecord
      ∧ fullRecord.get? 14 = none
      ∧ sample.field? "u8-field" = some (7, ⟨"u8-field", "a_u8", .int⟩) := by
  have hknown : sample ∈ samples ++ catalog := by decide
  obtain ⟨hput, hself, hnone, hname, -⟩ := access_by_place hknown
  have hd : (descriptors sample.fields)[7]? = some ⟨"u8-field", "a_u8", .int⟩ := by decide
  obtain ⟨f, hplace, -, here, there, stored⟩ := hput fullRecord 7 _ threeHundred hd rfl
  cases hplace
  refine ⟨hknown, here, there 12 (by decide), stored 10 _ rfl (by decide),
    stored 14 _ rfl (by decide), hself fullRecord 7 _ fun d h => ?_,
    (hnone fullRecord 14).2 (by decide), (hname 7 _ _).2 ⟨hd, rfl⟩⟩
  rw [hd, Option.some.injEq] at h
  subst h
  rfl

/-- Sixteen bits without a sign hold 1500, not 70000 and no text, and the remark behind the last
field has no place. -/
example :
    let r : Record briefSample := Cells.zero _
    (r.set 1 (.int ⟨1500, by decide, by decide⟩)).get? 1
        = some (.int ⟨1500, by decide, by decide⟩)
      ∧ (r.set 1 (.int ⟨70000, by decide, by decide⟩)).get? 1 = some (.int .zero)
      ∧ r.set 1 (.text "1500") = r
      ∧ r.get? 4 = none
      ∧ briefSample.field? "disabled" = some (3, ⟨"disabled", "disabled", .flag⟩)
      ∧ briefSample.field? "nope" = none := by
  decide +kernel

end Menu

end RouterMenu
