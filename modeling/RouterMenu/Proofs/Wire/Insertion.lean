import RouterMenu.Proofs.Wire.Sentence

/-!
# What an insertion changes

To insert a pair into a sentence gives its key a value and leaves every other key as it was, with
its value and in its place. Whoever looks for a key by some test finds what was found before, unless
the test takes the key that was inserted (`find?_put_of_false`); all else is read off this.
-/

namespace RouterMenu.Wire

namespace Sentence

variable {key value : String} {pairs : List (String × String)}

/-- **A test that the new key fails** finds what it found before. -/
theorem find?_put_of_false {p : String → Bool} (h : p key = false) (value : String)
    (pairs : List (String × String)) :
    (put key value pairs).find? (fun pair => p pair.1) = pairs.find? fun pair => p pair.1 := by
  induction pairs with
  | nil => simp [put, h]
  | cons pair rest ih =>
    rw [put]
    split
    · next he =>
      -- the pair in this place has the key, so neither it nor the new one is found
      have hpair : p pair.1 = false := he ▸ h
      rw [List.find?_cons_of_neg (by simp [h]), List.find?_cons_of_neg (by simp [hpair])]
    · rw [List.find?_cons, List.find?_cons, ih]

theorem find?_put_self (key value : String) (pairs : List (String × String)) :
    (put key value pairs).find? (fun pair => pair.1 == key) = some (key, value) := by
  induction pairs with
  | nil => simp [put]
  | cons pair rest ih =>
    rw [put]
    split
    · simp
    · next hne => rw [List.find?_cons_of_neg (by simpa using hne), ih]

/-- What is in the pairs after an insertion, if no key was there twice. -/
theorem mem_put (distinct : (pairs.map Prod.fst).Nodup) {pair : String × String} :
    pair ∈ put key value pairs ↔ pair = (key, value) ∨ pair ∈ pairs ∧ pair.1 ≠ key := by
  induction pairs with
  | nil => simp [put]
  | cons first rest ih =>
    rw [List.map_cons, List.nodup_cons] at distinct
    obtain ⟨hnew, hrest⟩ := distinct
    rw [put]
    split
    · next he =>
      -- no other pair has the key, so only this one is replaced
      have hother : pair ∈ rest → pair.1 ≠ key :=
        fun hp hk => hnew (by rw [he, ← hk]; exact List.mem_map_of_mem hp)
      have hfirst : pair = first → pair.1 = key := fun hp => hp ▸ he
      rw [List.mem_cons, List.mem_cons]
      tauto
    · next hne =>
      have hfirst : pair = first → pair.1 ≠ key := fun hp => hp ▸ hne
      rw [List.mem_cons, List.mem_cons, ih hrest]
      tauto

/-! ## Keys -/

/-- No key is there twice. -/
def Distinct (s : Sentence) : Prop := (s.pairs.map Prod.fst).Nodup

instance (s : Sentence) : Decidable s.Distinct :=
  inferInstanceAs (Decidable (s.pairs.map Prod.fst).Nodup)

theorem mem_keys_put {k : String} :
    k ∈ (put key value pairs).map Prod.fst ↔ k = key ∨ k ∈ pairs.map Prod.fst := by
  induction pairs with
  | nil => simp [put]
  | cons pair rest ih =>
    rw [put]
    split
    · next he => simp [he]
    · rw [List.map_cons, List.mem_cons, ih, List.map_cons, List.mem_cons]
      tauto

/-- **An insertion brings no key in twice.** -/
theorem nodup_put (distinct : (pairs.map Prod.fst).Nodup) :
    ((put key value pairs).map Prod.fst).Nodup := by
  induction pairs with
  | nil => simp [put]
  | cons pair rest ih =>
    rw [List.map_cons, List.nodup_cons] at distinct
    obtain ⟨hnew, hrest⟩ := distinct
    rw [put]
    split
    · next he =>
      rw [List.map_cons, List.nodup_cons]
      exact ⟨he ▸ hnew, hrest⟩
    · next hne =>
      rw [List.map_cons, List.nodup_cons, mem_keys_put, not_or]
      exact ⟨⟨hne, hnew⟩, ih hrest⟩

/-! ## One insertion after another -/

/-- The sentence after pairs were inserted one after another. -/
def insertAll (s : Sentence) (pairs : List (String × String)) : Sentence :=
  pairs.foldl (fun s pair => s.insert pair.1 pair.2) s

variable {s : Sentence}

theorem distinct_insertAll (distinct : s.Distinct) (pairs : List (String × String)) :
    (s.insertAll pairs).Distinct := by
  induction pairs generalizing s with
  | nil => exact distinct
  | cons pair rest ih => exact ih (nodup_put distinct)

/-- **However a sentence was put together**, no key is there twice. It is put together so when it
is read from words, too. -/
theorem distinct_ofList (pairs : List (String × String)) : (ofList pairs).Distinct :=
  distinct_insertAll (s := {}) List.nodup_nil pairs

/-- A test that none of the new keys passes finds what it found before. -/
theorem find?_insertAll_of_false {p : String → Bool} (h : ∀ pair ∈ pairs, p pair.1 = false)
    (s : Sentence) :
    (s.insertAll pairs).pairs.find? (fun pair => p pair.1)
      = s.pairs.find? fun pair => p pair.1 := by
  induction pairs generalizing s with
  | nil => rfl
  | cons pair rest ih =>
    have hpair := h pair (List.mem_cons_self ..)
    have hrest : ∀ other ∈ rest, p other.1 = false :=
      fun other ho => h other (List.mem_cons_of_mem _ ho)
    rw [insertAll, List.foldl_cons, ← insertAll, ih hrest, insert, find?_put_of_false hpair]

theorem get?_insertAll_of_not_mem {key : String} (h : ∀ pair ∈ pairs, pair.1 ≠ key)
    (s : Sentence) : (s.insertAll pairs).get? key = s.get? key := by
  have hkey : ∀ pair ∈ pairs, (pair.1 == key) = false := by simpa using h
  have hfind := find?_insertAll_of_false (p := fun k => k == key) hkey s
  rw [get?, get?, hfind]

/-- **A key has the value it was inserted with**, if it was inserted once. -/
theorem get?_insertAll_of_mem (distinct : (pairs.map Prod.fst).Nodup) {pair : String × String}
    (h : pair ∈ pairs) (s : Sentence) : (s.insertAll pairs).get? pair.1 = some pair.2 := by
  induction pairs generalizing s with
  | nil => simp at h
  | cons first rest ih =>
    rw [List.map_cons, List.nodup_cons] at distinct
    obtain ⟨hnew, hrest⟩ := distinct
    rw [insertAll, List.foldl_cons, ← insertAll]
    rcases List.mem_cons.1 h with rfl | h
    · -- what comes later has other keys
      have hlater : ∀ other ∈ rest, other.1 ≠ pair.1 :=
        fun other ho he => hnew (he ▸ List.mem_map_of_mem ho)
      rw [get?_insertAll_of_not_mem hlater, get?, insert, find?_put_self]
      rfl
    · exact ih hrest h _

end Sentence

/-- The names that a command sets, with their values, as they are read from its words. -/
def Command.assignments (c : Command) : List (String × String) :=
  c.words.filterMap Sentence.attribute?

end RouterMenu.Wire
