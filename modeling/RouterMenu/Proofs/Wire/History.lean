import RouterMenu.Proofs.Wire.Insertion

/-!
# A sentence remembers first places and last values

A sentence comes about by assignments, one after another: by the words of an answer, each of which
may assign a value to a key (`Assigns`, `Told`), or by pairs that are put in. Whatever the
assignments are, the sentence holds every key they mention once, at the place of its first mention
and with the value of its last one (`Recalls`). One more assignment keeps this (`Recalls.insert`),
so it holds of every history (`recalls_history`).
-/

namespace RouterMenu.Wire

namespace Sentence

/-! ## The assignments in words -/

/-- What a word assigns to which key: behind an equals sign stands the key, and behind another one
the value, which is empty if there is none. The key holds no equals sign. -/
inductive Assigns : String → String → String → Prop where
  | bare {key : String} (plain : '=' ∉ key.toList) : Assigns ("=" ++ key) key ""
  | valued {key : String} (plain : '=' ∉ key.toList) (value : String) :
      Assigns ("=" ++ key ++ "=" ++ value) key value

/-- The assignments among words, in order. A word that does not begin with an equals sign is
none. -/
inductive Told : List String → List (String × String) → Prop where
  | nil : Told [] []
  | other {word : String} {words : List String} {history : List (String × String)}
      (silent : word.toList.head? ≠ some '=') (told : Told words history) :
      Told (word :: words) history
  | assigned {word key value : String} {words : List String} {history : List (String × String)}
      (said : Assigns word key value) (told : Told words history) :
      Told (word :: words) ((key, value) :: history)

variable {word key value : String}

theorem attribute?_eq_none_iff : attribute? word = none ↔ word.toList.head? ≠ some '=' := by
  unfold attribute?
  split
  · next rest hword =>
    rw [hword]
    cases Text.cut '=' rest <;> simp
  · next hword =>
    refine iff_of_true rfl fun hhead => ?_
    cases hlist : word.toList with
    | nil => simp [hlist] at hhead
    | cons c rest =>
      simp only [hlist, List.head?_cons, Option.some.injEq] at hhead
      exact hword rest (hhead ▸ hlist)

/-- A word with its first equals sign taken off. -/
theorem eq_append_of_toList {rest : List Char} (h : word.toList = '=' :: rest) :
    word = "=" ++ String.ofList rest := by
  rw [← String.toList_inj, h]
  simp

/-- **An attribute is what its word assigns.** -/
theorem attribute?_eq_some_iff : attribute? word = some (key, value) ↔ Assigns word key value := by
  constructor
  · intro h
    unfold attribute? at h
    split at h
    · next rest hword =>
      rw [eq_append_of_toList hword]
      -- the first of the equals signs behind the leading one divides name and value
      cases hcut : Text.cut '=' rest with
      | none =>
        simp only [hcut, Option.some.injEq, Prod.mk.injEq] at h
        obtain ⟨rfl, rfl⟩ := h
        exact .bare (by simpa using Text.cut_eq_none_iff.1 hcut)
      | some sides =>
        obtain ⟨before, after⟩ := sides
        simp only [hcut, Option.some.injEq, Prod.mk.injEq] at h
        obtain ⟨rfl, rfl⟩ := h
        obtain ⟨rfl, hplain⟩ := Text.cut_eq_some_iff.1 hcut
        have hsplit : "=" ++ String.ofList (before ++ '=' :: after)
            = "=" ++ String.ofList before ++ "=" ++ String.ofList after := by
          rw [← String.toList_inj]
          simp
        rw [hsplit]
        exact .valued (by simpa using hplain) _
    · cases h
  · intro said
    cases said with
    | bare plain =>
      have hword : ("=" ++ key).toList = '=' :: key.toList := by simp
      rw [attribute?, hword]
      simp only [Text.cut_of_not_mem plain, String.ofList_toList]
    | valued plain => exact @attribute?_attributeWord (key, value) plain

/-- **Every list of words tells one history.** -/
theorem told_iff {words : List String} {history : List (String × String)} :
    Told words history ↔ history = words.filterMap attribute? := by
  constructor
  · intro told
    -- word by word: each is told, or silent, and `attribute?` knows which
    induction told with
    | nil => rfl
    | other silent told ih => rw [List.filterMap_cons_none (attribute?_eq_none_iff.2 silent), ih]
    | assigned said told ih => rw [List.filterMap_cons_some (attribute?_eq_some_iff.2 said), ih]
  · rintro rfl
    induction words with
    | nil => exact .nil
    | cons word words ih =>
      cases h : attribute? word with
      | none =>
        rw [List.filterMap_cons_none h]
        exact .other (attribute?_eq_none_iff.1 h) ih
      | some pair =>
        rw [List.filterMap_cons_some h]
        exact .assigned (attribute?_eq_some_iff.1 h) ih

/-- Words that do not begin with an equals sign have no effect. -/
theorem ofWords_filter (words : List String) :
    ofWords (words.filter fun word => word.toList.head? = some '=') = ofWords words := by
  have hkept : (words.filter fun word => word.toList.head? = some '=').filterMap attribute?
      = words.filterMap attribute? := by
    rw [List.filterMap_filter]
    refine List.filterMap_congr fun word _ => ?_
    by_cases hword : word.toList.head? = some '='
    · rw [if_pos (by simpa using hword)]
    · rw [if_neg (by simpa using hword), attribute?_eq_none_iff.2 hword]
  rw [ofWords, hkept, ofWords]

/-! ## What a history leaves behind -/

/-- The keys in order. -/
def keys (s : Sentence) : List String := s.pairs.map Prod.fst

/-- A history mentions `a` before it ever mentions `b`. -/
def Before (history : List (String × String)) (a b : String) : Prop :=
  ∃ early value later, history = early ++ (a, value) :: later ∧ b ∉ early.map Prod.fst

/-- The last value that a history assigns to a key. -/
def Last (history : List (String × String)) (key value : String) : Prop :=
  ∃ earlier later, history = earlier ++ (key, value) :: later ∧ key ∉ later.map Prod.fst

/-- A sentence is what a history of assignments leaves behind. -/
structure Recalls (s : Sentence) (history : List (String × String)) : Prop where
  /-- No key is there twice. -/
  distinct : s.keys.Nodup
  /-- The keys are those that were mentioned. -/
  mentioned : ∀ key, key ∈ s.keys ↔ key ∈ history.map Prod.fst
  /-- They stand in the order of their first mention. -/
  order : s.keys.Pairwise (Before history)
  /-- The value of a key is the last one that it was given. -/
  last : ∀ key value, s.get? key = some value ↔ Last history key value
  /-- A key that was not mentioned has no value. -/
  absent : ∀ key, s.get? key = none ↔ key ∉ history.map Prod.fst

variable {s : Sentence} {history : List (String × String)} {a b k v : String}

theorem Before.append (h : Before history a b) (more : List (String × String)) :
    Before (history ++ more) a b := by
  obtain ⟨early, value, later, rfl, hb⟩ := h
  exact ⟨early, value, later ++ more, by simp, hb⟩

/-- What is mentioned comes before what is new. -/
theorem before_of_new (ha : a ∈ history.map Prod.fst) (hb : b ∉ history.map Prod.fst)
    (more : List (String × String)) : Before (history ++ more) a b := by
  obtain ⟨⟨_, value⟩, hmem, rfl⟩ := List.mem_map.1 ha
  obtain ⟨early, later, rfl⟩ := List.append_of_mem hmem
  refine ⟨early, value, later ++ more, by simp, fun hearly => hb ?_⟩
  rw [List.map_append]
  exact List.mem_append_left _ hearly

/-- The last value is the one just assigned, or it is what it was. -/
theorem last_concat_iff : Last (history ++ [(key, value)]) k v ↔
    if k = key then v = value else Last history k v := by
  constructor
  · rintro ⟨earlier, later, hsplit, hlater⟩
    rcases List.eq_nil_or_concat later with rfl | ⟨later, pair, rfl⟩
    · -- the assignment that counts is the last of all
      obtain ⟨-, hpair⟩ := List.append_inj' hsplit rfl
      cases hpair
      rw [if_pos rfl]
    · rw [List.concat_eq_append, ← List.cons_append, ← List.append_assoc] at hsplit
      obtain ⟨rfl, hpair⟩ := List.append_inj' hsplit rfl
      cases hpair
      rw [List.concat_eq_append, List.map_append, List.mem_append, not_or] at hlater
      rw [if_neg (by simpa using hlater.2)]
      exact ⟨earlier, later, rfl, hlater.1⟩
  · split
    · next hk =>
      rintro rfl
      exact ⟨history, [], by rw [hk], by simp⟩
    · next hk =>
      rintro ⟨earlier, later, rfl, hlater⟩
      refine ⟨earlier, later ++ [(key, value)], by simp, ?_⟩
      rw [List.map_append, List.mem_append, not_or]
      exact ⟨hlater, by simpa using hk⟩

/-- A key that is there already keeps its place. -/
theorem keys_put_of_mem {pairs : List (String × String)} (h : key ∈ pairs.map Prod.fst) :
    (put key value pairs).map Prod.fst = pairs.map Prod.fst := by
  induction pairs with
  | nil => simp at h
  | cons pair rest ih =>
    rw [put]
    split
    · next hkey => rw [List.map_cons, List.map_cons, hkey]
    · next hkey =>
      have hrest : key ∈ rest.map Prod.fst := (List.mem_cons.1 h).resolve_left (Ne.symm hkey)
      rw [List.map_cons, ih hrest, List.map_cons]

/-- An insertion leaves the keys as they are, or adds its own at the end. -/
theorem keys_insert_cases (s : Sentence) (key value : String) :
    key ∈ s.keys ∧ (s.insert key value).keys = s.keys
      ∨ key ∉ s.keys ∧ (s.insert key value).keys = s.keys ++ [key] := by
  by_cases hkey : key ∈ s.keys
  · exact .inl ⟨hkey, keys_put_of_mem hkey⟩
  · have hpairs : (s.insert key value).pairs = s.pairs ++ [(key, value)] := put_of_not_mem hkey
    exact .inr ⟨hkey, by rw [keys, hpairs, List.map_append]; rfl⟩

theorem get?_insert (s : Sentence) (key value k : String) :
    (s.insert key value).get? k = if k = key then some value else s.get? k := by
  split
  · next hk =>
    rw [hk, get?, insert, find?_put_self]
    rfl
  · next hk =>
    have hother : (key == k) = false := by simpa using Ne.symm hk
    rw [get?, insert, find?_put_of_false (p := fun other => other == k) hother, get?]

theorem get?_eq_none_iff : s.get? key = none ↔ key ∉ s.keys := by
  rw [get?, Option.map_eq_none_iff, List.find?_eq_none, keys, List.mem_map]
  simp only [beq_iff_eq, not_exists, not_and]

theorem recalls_nil : Recalls {} [] where
  distinct := List.nodup_nil
  mentioned := fun key => Iff.rfl
  order := List.Pairwise.nil
  last := by
    intro key value
    simp [Last, get?]
  absent := by
    intro key
    simp [get?]

/-- **One more assignment** changes the value of its key, and adds the key at the end if it is
new. -/
theorem Recalls.insert (h : Recalls s history) (key value : String) :
    Recalls (s.insert key value) (history ++ [(key, value)]) := by
  have hmentioned (k : String) : k ∈ (s.insert key value).keys ↔
      k ∈ (history ++ [(key, value)]).map Prod.fst := by
    have hkeys : k ∈ (s.insert key value).keys ↔ k = key ∨ k ∈ s.keys := mem_keys_put
    rw [hkeys, h.mentioned, List.map_append, List.mem_append, List.map_singleton,
      List.mem_singleton, or_comm]
  refine ⟨nodup_put h.distinct, hmentioned, ?_, fun k v => ?_, fun k => ?_⟩
  · have hkept : s.keys.Pairwise (Before (history ++ [(key, value)])) :=
      h.order.imp fun hab => hab.append _
    -- a key that was there keeps its place; a new one comes behind all that were mentioned
    rcases keys_insert_cases s key value with ⟨-, hkeys⟩ | ⟨hnew, hkeys⟩
    · rwa [hkeys]
    · rw [h.mentioned] at hnew
      rw [hkeys]
      refine List.pairwise_append.2 ⟨hkept, List.pairwise_singleton _ _, fun k hk b hb => ?_⟩
      rw [List.mem_singleton.1 hb]
      exact before_of_new ((h.mentioned k).1 hk) hnew _
  · rw [get?_insert, last_concat_iff]
    split
    · rw [Option.some.injEq, eq_comm]
    · exact h.last k v
  · rw [get?_eq_none_iff, hmentioned]

/-- **Any number of assignments more.** -/
theorem Recalls.insertAll (h : Recalls s history) (pairs : List (String × String)) :
    Recalls (s.insertAll pairs) (history ++ pairs) := by
  induction pairs generalizing s history with
  | nil => rwa [List.append_nil]
  | cons pair rest ih =>
    rw [List.append_cons]
    exact ih (h.insert pair.1 pair.2)

/-- A sentence is what its pairs leave behind that were put in one after another. -/
theorem recalls_ofList (pairs : List (String × String)) : Recalls (ofList pairs) pairs :=
  recalls_nil.insertAll pairs

/-- **A sentence holds each key once, where it was first mentioned, and with its last value.** This
is so of a sentence that was read from words, each of which makes one assignment or none; of one
that was made up of pairs; and of either one after any further insertions. -/
theorem recalls_history (words : List String) (pairs further : List (String × String)) :
    (∃ history, (∀ told, Told words told ↔ told = history)
        ∧ Recalls ((ofWords words).insertAll further) (history ++ further))
      ∧ ofWords (words.filter fun word => word.toList.head? = some '=') = ofWords words
      ∧ Recalls ((ofList pairs).insertAll further) (pairs ++ further) :=
  ⟨⟨words.filterMap attribute?, fun _ => told_iff, (recalls_ofList _).insertAll further⟩,
    ofWords_filter words, (recalls_ofList pairs).insertAll further⟩

example : ofWords ["=b=1", ".tag=3", "=a", "=b=x=y", "=", "==z"]
    = ⟨[("b", "x=y"), ("a", ""), ("", "z")]⟩ := by
  decide +kernel

end Sentence

end RouterMenu.Wire
