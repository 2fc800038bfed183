import Mathlib.Data.List.Basic
import RouterMenu.Proofs.Text.Numeral
import RouterMenu.Wire.Command
import RouterMenu.Wire.Sentence

/-!
# Attributes are read back from their words

A value may hold anything, equals signs and line breaks too: the word of an attribute is cut at the
first equals sign behind its name, and names have none. So the attributes of a command come back as
they were put in (`ofWords_attributes`), each once, if no two have the same name.
-/

namespace RouterMenu.Wire

/-- The word that sets a name to a value. -/
def attributeWord (pair : String × String) : String := (Clause.attr pair.1 pair.2).word

namespace Sentence

/-- **A name and a value are read back from their word**, whatever the value is. -/
theorem attribute?_attributeWord {pair : String × String} (h : '=' ∉ pair.1.toList) :
    attribute? (attributeWord pair) = some pair := by
  obtain ⟨name, value⟩ := pair
  have hword : (attributeWord (name, value)).toList
      = '=' :: (name.toList ++ '=' :: value.toList) := by
    simp [attributeWord, Clause.word]
  rw [attribute?, hword]
  simp only [Text.cut_append h, String.ofList_toList]

/-- A new key comes last. -/
theorem put_of_not_mem {key value : String} {pairs : List (String × String)}
    (h : key ∉ pairs.map Prod.fst) : put key value pairs = pairs ++ [(key, value)] := by
  induction pairs with
  | nil => rfl
  | cons pair rest ih =>
    rw [List.map_cons, List.mem_cons, not_or] at h
    obtain ⟨hne, hrest⟩ := h
    rw [put, if_neg (Ne.symm hne), ih hrest, List.cons_append]

/-- Pairs with keys of their own are kept as they are. -/
theorem pairs_ofList {pairs : List (String × String)} (h : (pairs.map Prod.fst).Nodup) :
    (ofList pairs).pairs = pairs := by
  -- the keys that were put in before differ from those to come
  have hfold : ∀ (pairs : List (String × String)) (s : Sentence),
      ((s.pairs ++ pairs).map Prod.fst).Nodup →
        (pairs.foldl (fun s pair => s.insert pair.1 pair.2) s).pairs = s.pairs ++ pairs := by
    intro pairs
    induction pairs with
    | nil => simp
    | cons pair rest ih =>
      intro s hs
      have hnew : pair.1 ∉ s.pairs.map Prod.fst := by
        rw [List.map_append, List.nodup_append] at hs
        exact fun hmem => hs.2.2 _ hmem _ (by simp) rfl
      have hinsert : (s.insert pair.1 pair.2).pairs = s.pairs ++ [pair] := put_of_not_mem hnew
      rw [List.foldl_cons, ih, hinsert, List.append_assoc, List.singleton_append]
      rw [hinsert, List.append_assoc, List.singleton_append]
      exact hs
  exact hfold pairs {} h

/-- Names and values are read back from their words one by one. -/
theorem filterMap_attributeWord {pairs : List (String × String)}
    (plain : ∀ pair ∈ pairs, '=' ∉ pair.1.toList) :
    (pairs.map attributeWord).filterMap attribute? = pairs := by
  rw [List.filterMap_map]
  calc pairs.filterMap (attribute? ∘ attributeWord)
      = pairs.filterMap some :=
        List.filterMap_congr fun pair hp => attribute?_attributeWord (plain pair hp)
    _ = pairs := List.filterMap_some

/-- **Attributes come back as they were put in.** -/
theorem ofWords_attributes {pairs : List (String × String)}
    (plain : ∀ pair ∈ pairs, '=' ∉ pair.1.toList) (distinct : (pairs.map Prod.fst).Nodup) :
    ofWords (pairs.map attributeWord) = ⟨pairs⟩ := by
  rw [ofWords, filterMap_attributeWord plain]
  exact congrArg Sentence.mk (pairs_ofList distinct)

/-- A key that is there has the value that stands beside it. -/
theorem get?_of_mem {s : Sentence} (distinct : (s.pairs.map Prod.fst).Nodup)
    {pair : String × String} (h : pair ∈ s.pairs) : s.get? pair.1 = some pair.2 := by
  obtain ⟨pairs⟩ := s
  simp only [get?] at distinct h ⊢
  induction pairs with
  | nil => simp at h
  | cons first rest ih =>
    rw [List.map_cons, List.nodup_cons] at distinct
    rcases List.mem_cons.1 h with rfl | hrest
    · simp
    · have hne : first.1 ≠ pair.1 := fun he => distinct.1 (he ▸ List.mem_map_of_mem hrest)
      rw [List.find?_cons_of_neg (by simpa using hne)]
      exact ih distinct.2 hrest

/-- A key that is not there has no value. -/
theorem get?_of_not_mem {s : Sentence} {key : String} (h : ∀ pair ∈ s.pairs, pair.1 ≠ key) :
    s.get? key = none := by
  have hnone : s.pairs.find? (fun pair => pair.1 == key) = none := by
    rw [List.find?_eq_none]
    intro pair hp
    simpa using h pair hp
  rw [get?, hnone]
  rfl

end Sentence

end RouterMenu.Wire
