import RouterMenu.Menu.Catalog
import RouterMenu.Proofs.Record.Change

/-!
# The order of a row

A device may send the attributes of an object in any order, and among them some that are no fields.
Neither matters, as long as it is clear which pair of the row speaks of a field (`Clear`): then the
same pair is found for it in every rearrangement (`find?_rearranged`), and rows in which the same is
found for every field are read alike, errors included (`ofRow_congr`).

Where a field goes by the name on the wire and by its own name in the same row, it is clear as well:
the name on the wire counts, wherever it stands (`find?_of_wire`). Both rest on a row having no key
twice, which is so however it was put together (`Wire.Sentence.distinct_ofList`).
-/

namespace RouterMenu.Cells

variable {fields : List Field} {row row' : Wire.Sentence} {d : Descriptor}

/-- Rows in which the same is found for every field are read alike. -/
theorem ofRow_congr (found : ∀ d ∈ descriptors fields, find? row' d = find? row d) :
    ofRow row' fields = ofRow row fields := by
  induction fields with
  | nil => rfl
  | cons f fields ih =>
    cases hd : f.descriptor? with
    | none =>
      rw [descriptors_cons_none hd] at found
      simp only [ofRow, readField, hd, ih found]
    | some d =>
      rw [descriptors_cons_some hd, List.forall_mem_cons] at found
      simp only [ofRow, readField, hd, found.1, ih found.2]

/-! ## What is found for a field -/

/-- It is clear what the row says of the field: its name on the wire is a key, or else its own name
is one in at most one spelling. -/
def Clear (row : Wire.Sentence) (d : Descriptor) : Prop :=
  d.wire ∈ row.pairs.map Prod.fst
    ∨ (row.pairs.filter fun pair => Text.sameLetters pair.1 d.name).length ≤ 1

instance (row : Wire.Sentence) (d : Descriptor) : Decidable (Clear row d) :=
  inferInstanceAs (Decidable (_ ∨ _))

/-- If at most one element passes a test, any two that do are the same. -/
theorem eq_of_length_filter_le_one {α : Type} {p : α → Bool} {l : List α}
    (one : (l.filter p).length ≤ 1) {x y : α} (hx : x ∈ l) (hy : y ∈ l) (hpx : p x = true)
    (hpy : p y = true) : x = y := by
  have hx' := List.mem_filter.2 ⟨hx, hpx⟩
  have hy' := List.mem_filter.2 ⟨hy, hpy⟩
  generalize l.filter p = passed at one hx' hy'
  match passed with
  | [] => simp at hx'
  | [z] => rw [List.mem_singleton.1 hx', List.mem_singleton.1 hy']
  | _ :: _ :: _ => simp at one

/-- **The name on the wire counts** wherever it stands, and whatever other keys there are. -/
theorem find?_of_wire (distinct : row.Distinct) {value : String}
    (h : (d.wire, value) ∈ row.pairs) : find? row d = some value := by
  rw [find?, Wire.Sentence.get?_of_mem distinct h]

/-- Whatever is called like the field stands in both rows, or in neither. -/
theorem mem_rearranged {extra : List (String × String)}
    (rearranged : row'.pairs.Perm (row.pairs ++ extra))
    (foreign : ∀ pair ∈ extra, pair.1 ≠ d.wire ∧ Text.sameLetters pair.1 d.name = false)
    {pair : String × String} (called : pair.1 = d.wire ∨ Text.sameLetters pair.1 d.name = true) :
    pair ∈ row'.pairs ↔ pair ∈ row.pairs := by
  have hextra : pair ∉ extra := by
    intro hp
    obtain ⟨hwire, hname⟩ := foreign pair hp
    rcases called with called | called
    · exact hwire called
    · exact absurd (hname ▸ called) Bool.false_ne_true
  rw [rearranged.mem_iff, List.mem_append, or_iff_left hextra]

/-- **The same is found for a field in every rearrangement** of a row in which it is clear. -/
theorem find?_rearranged (distinct : row.Distinct) {extra : List (String × String)}
    (rearranged : row'.pairs.Perm (row.pairs ++ extra))
    (foreign : ∀ pair ∈ extra, pair.1 ≠ d.wire ∧ Text.sameLetters pair.1 d.name = false)
    (clear : Clear row d) : find? row' d = find? row d := by
  have hwire : row'.get? d.wire = row.get? d.wire := by
    have hfind := find?_eq_of_unique (p := fun pair : String × String => pair.1 == d.wire)
      (fun pair hp => mem_rearranged rearranged foreign (.inl (eq_of_beq hp)))
      (fun a ha b hb hpa hpb => List.inj_on_of_nodup_map distinct ha hb
        ((eq_of_beq hpa).trans (eq_of_beq hpb).symm))
    rw [Wire.Sentence.get?, Wire.Sentence.get?, hfind]
  unfold find?
  rw [hwire]
  rcases clear with hkey | hone
  · -- the search ends with the name on the wire, so other spellings are not looked for
    obtain ⟨pair, hp, hkey⟩ := List.mem_map.1 hkey
    rw [← hkey, Wire.Sentence.get?_of_mem distinct hp]
  · have hname := find?_eq_of_unique
      (p := fun pair : String × String => Text.sameLetters pair.1 d.name)
      (fun pair hp => mem_rearranged rearranged foreign (.inr hp))
      (fun a ha b hb => eq_of_length_filter_le_one hone ha hb)
    rw [hname]

/-! ## What is read -/

/-- A field that goes by its name on the wire is read as if it stood alone. -/
theorem readField_of_wire (distinct : row.Distinct) {f : Field} (hd : f.descriptor? = some d)
    {value : String} (h : (d.wire, value) ∈ row.pairs) :
    readField row f = readField ⟨[(d.wire, value)]⟩ f := by
  have hsingle : Wire.Sentence.Distinct ⟨[(d.wire, value)]⟩ := List.nodup_singleton _
  have halone := find?_of_wire hsingle (List.mem_singleton_self _)
  simp only [readField, hd, find?_of_wire distinct h, halone]

/-- **A row is read alike in any order and among any other attributes**, provided it is clear what
it says of each field; and of two spellings of a field the name on the wire is the one that counts.
The row is any that can be put together, from words or otherwise. -/
theorem ofRow_rearranged {history : List (String × String)}
    (made : row = Wire.Sentence.ofList history) :
    (∀ (row' : Wire.Sentence) (extra : List (String × String)),
      row'.pairs.Perm (row.pairs ++ extra) → (∀ pair ∈ extra, Unclaimed fields pair.1) →
        (∀ d ∈ descriptors fields, Clear row d) → ofRow row' fields = ofRow row fields)
    ∧ ∀ f ∈ fields, ∀ d, f.descriptor? = some d → ∀ value, (d.wire, value) ∈ row.pairs →
      find? row d = some value ∧ readField row f = readField ⟨[(d.wire, value)]⟩ f := by
  -- all that is needed of how the row was put together
  have distinct : row.Distinct := made ▸ Wire.Sentence.distinct_ofList history
  refine ⟨fun row' extra rearranged foreign clear => ofRow_congr fun d hd => ?_,
    fun f _ d hd value h => ⟨find?_of_wire distinct h, readField_of_wire distinct hd h⟩⟩
  exact find?_rearranged distinct rearranged (fun pair hp => foreign pair hp d hd) (clear d hd)

/-- A row that has a time to live under both of its names. -/
def agedRow : Wire.Sentence := .ofWords ["=TIME_TO_LIVE=9d9", "=AGE=xd", "=ttl=5"]

/-- The time to live is found by its name on the wire, so its other spelling does no harm. The age
has no count of days, and is blamed in both rows. -/
theorem ofRow_rearranged_agedRow :
    ofRow ⟨[("bytes", "1"), ("ttl", "5"), ("AGE", "xd"), ("TIME_TO_LIVE", "9d9")]⟩
          Menu.sample.fields
        = ofRow agedRow Menu.sample.fields
      ∧ ofRow agedRow Menu.sample.fields = .error (.field "age" (.dayCount "xd"))
      ∧ find? agedRow ⟨"ttl", "time_to_live", .duration⟩ = some "5" := by
  have hmade : agedRow = Wire.Sentence.ofList
      (["=TIME_TO_LIVE=9d9", "=AGE=xd", "=ttl=5"].filterMap Wire.Sentence.attribute?) := rfl
  obtain ⟨halike, hwire⟩ := @ofRow_rearranged Menu.sample.fields _ _ hmade
  refine ⟨halike _ [("bytes", "1")] ?_ ?_ ?_, by decide +kernel, ?_⟩
  · exact List.isPerm_iff.1 (by decide +kernel)
  · decide +kernel
  · decide +kernel
  · exact (hwire (.duration .u32 "time_to_live" "ttl") (by decide +kernel) _ rfl "5"
      (by decide +kernel)).1

end RouterMenu.Cells
