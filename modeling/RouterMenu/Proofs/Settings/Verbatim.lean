import Mathlib.Data.List.Basic
import Mathlib.Data.List.TakeWhile
import RouterMenu.Settings.Environment
import RouterMenu.Settings.Extract

/-!
# Values of variables that are taken as they stand

The value of a variable is read as what it looks like, and text is only one of the things it may
look like. It is taken as it stands exactly in two cases (`asText_read_iff`): if it is a word, that
is text without blanks around it, without quotes, commas and brackets, that is no number and no
truth value (`Word`), or if no reading of it comes to its end.
-/

namespace RouterMenu

namespace Text

variable {s : List Char}

/-! ## Blanks -/

theorem trimEnd_sublist (s : List Char) : (trimEnd s).Sublist s := by
  rw [trimEnd, ← List.reverse_sublist, List.reverse_reverse]
  exact List.dropWhile_sublist _

theorem trim_sublist (s : List Char) : (trim s).Sublist s :=
  (trimEnd_sublist _).trans (List.dropWhile_sublist _)

theorem dropWhile_of_trim (h : trim s = s) : s.dropWhile isBlank = s := by
  refine List.Sublist.antisymm (List.dropWhile_sublist _) ?_
  have hsub := trimEnd_sublist (s.dropWhile isBlank)
  rwa [← trim, h] at hsub

theorem trimEnd_of_trim (h : trim s = s) : trimEnd s = s := by
  rwa [trim, dropWhile_of_trim h] at h

/-- Trimmed text does not end in a blank. -/
theorem isBlank_getLast_of_trim (h : trim s = s) (hne : s ≠ []) :
    isBlank (s.getLast hne) = false := by
  have hrev : s.reverse.dropWhile isBlank = s.reverse := by
    have hend := congrArg List.reverse (trimEnd_of_trim h)
    rwa [trimEnd, List.reverse_reverse] at hend
  obtain ⟨x, more, hx⟩ := List.exists_cons_of_ne_nil (List.reverse_ne_nil_iff.2 hne)
  have hlast : s.getLast hne = x := by
    rw [List.getLast_eq_head_reverse]
    simp only [hx, List.head_cons]
  rw [hlast, Bool.eq_false_iff]
  intro hblank
  -- a blank at the end would have been taken off, and the text would be shorter
  rw [hx, List.dropWhile_cons_of_pos hblank] at hrev
  have hlength := congrArg List.length hrev
  have hle := (List.dropWhile_sublist isBlank (l := more)).length_le
  rw [List.length_cons] at hlength
  omega

end Text

namespace Toml

theorem length_of_escape? {s rest : List Char} {c : Char} (h : escape? s = some (c, rest)) :
    rest.length < s.length := by
  unfold escape? at h
  split at h
  case h_8 | h_9 =>
    split at h
    · cases h
    · obtain ⟨c', -, heq⟩ := Option.map_eq_some_iff.1 h
      cases heq
      simp only [List.length_drop, List.length_cons]
      omega
  case h_10 => cases h
  all_goals
    cases h
    exact Nat.lt_succ_self _

/-- Text is shorter than what it is read from. -/
theorem length_of_lineText {q : Quotes} {fuel : Nat} {acc s rest : List Char} {t : String}
    (h : lineText q fuel acc s = some (t, rest)) :
    t.toList.length + rest.length < acc.length + s.length := by
  -- each character read takes one off the rest at least, and the closing quote one more
  induction fuel generalizing acc s with
  | zero => cases h
  | succ fuel ih =>
    cases s with
    | nil => cases h
    | cons c s =>
      rw [lineText] at h
      split at h
      · cases h
        rw [String.toList_ofList, List.length_reverse, List.length_cons]
        omega
      · split at h
        · cases hescape : escape? s with
          | none => rw [hescape] at h; cases h
          | some found =>
            rw [hescape] at h
            have hlt := length_of_escape? hescape
            have hread := ih h
            rw [List.length_cons] at hread ⊢
            omega
        · split at h
          · have hread := ih h
            rw [List.length_cons] at hread ⊢
            omega
          · cases h

end Toml

namespace Settings.Environment

variable {l : Layer} {s : List Char}

/-! ## Words -/

/-- Whether a text is read as a number. -/
def isNumber (s : List Char) : Bool :=
  (s.contains '.' && (Decimal.read? s).isSome) || (Text.natUpTo? Text.maxU64 s).isSome
    || (Text.i64? s).isSome

/-- Text that is taken as it stands among other values. -/
structure Word (s : List Char) : Prop where
  trimmed : Text.trim s = s
  unseparated : ∀ c ∈ s, isSeparator c = false
  unquoted : s.head? ≠ some '"' ∧ s.head? ≠ some '\x27'
  noFlag : s ≠ "true".toList ∧ s ≠ "false".toList
  noNumber : isNumber s = false

theorem word_iff : Word s ↔ Text.trim s = s ∧ s.any isSeparator = false
    ∧ (s.head? ≠ some '"' ∧ s.head? ≠ some '\x27') ∧ (s ≠ "true".toList ∧ s ≠ "false".toList)
    ∧ isNumber s = false := by
  have hseparated : s.any isSeparator = false ↔ ∀ c ∈ s, isSeparator c = false := by
    simp
  rw [hseparated]
  exact ⟨fun word => ⟨word.trimmed, word.unseparated, word.unquoted, word.noFlag, word.noNumber⟩,
    fun ⟨trimmed, unseparated, unquoted, noFlag, noNumber⟩ =>
      ⟨trimmed, unseparated, unquoted, noFlag, noNumber⟩⟩

instance (s : List Char) : Decidable (Word s) := decidable_of_iff' _ word_iff

/-- Among other values, text is what is no number. -/
theorem plain_cases (l : Layer) (s : List Char) :
    (isNumber s = false ∧ plain l s = .text l (String.ofList s))
      ∨ (isNumber s = true ∧ ((∃ x, plain l s = .float l x) ∨ (∃ n, plain l s = .unsigned l n)
        ∨ ∃ n, plain l s = .signed l n)) := by
  -- in the order in which they are tried: with a point, without a sign, with a sign, as text
  cases hfloat : (if s.contains '.' then (Decimal.read? s).map (Node.float l) else none) with
  | some n =>
    have hpoint : s.contains '.' = true := by
      by_contra hpoint
      rw [if_neg hpoint] at hfloat
      cases hfloat
    rw [if_pos hpoint] at hfloat
    obtain ⟨x, hx, rfl⟩ := Option.map_eq_some_iff.1 hfloat
    refine .inr ⟨by simp only [isNumber, hpoint, hx]; rfl, .inl ⟨x, ?_⟩⟩
    unfold plain
    simp only [hpoint, if_true, hx, Option.map_some]
  | none =>
    have hdecimal : (s.contains '.' && (Decimal.read? s).isSome) = false := by
      cases hpoint : s.contains '.' with
      | false => rfl
      | true =>
        rw [if_pos hpoint, Option.map_eq_none_iff] at hfloat
        rw [hfloat]
        rfl
    cases hnat : Text.natUpTo? Text.maxU64 s with
    | some n =>
      refine .inr ⟨by simp only [isNumber, hdecimal, hnat]; rfl, .inr (.inl ⟨n, ?_⟩)⟩
      unfold plain
      simp only [hfloat, hnat]
    | none =>
      cases hint : Text.i64? s with
      | some n =>
        refine .inr ⟨by simp only [isNumber, hdecimal, hnat, hint]; rfl, .inr (.inr ⟨n, ?_⟩)⟩
        unfold plain
        simp only [hfloat, hnat, hint]
      | none =>
        refine .inl ⟨by simp only [isNumber, hdecimal, hnat, hint]; rfl, ?_⟩
        unfold plain
        simp only [hfloat, hnat, hint]

theorem textBlank_of_isBlank {c : Char} (h : isBlank c = true) : Text.isBlank c = true := by
  simp only [isBlank, Bool.or_eq_true, beq_iff_eq] at h
  rcases h with (((rfl | rfl) | rfl) | rfl) | rfl <;> decide

/-- Trimmed text has no blanks to pass over. -/
theorem skip_of_trim (h : Text.trim s = s) : skip s = s := by
  have hdrop := Text.dropWhile_of_trim h
  cases s with
  | nil => rfl
  | cons c s =>
    have hc : ¬ isBlank c = true := by
      intro hblank
      rw [List.dropWhile_cons_of_pos (textBlank_of_isBlank hblank)] at hdrop
      have hlength := congrArg List.length hdrop
      have hle := (List.dropWhile_sublist Text.isBlank (l := s)).length_le
      rw [List.length_cons] at hlength
      omega
    rw [skip, List.dropWhile_cons_of_neg hc]

/-- What is left of trimmed text does not consist of blanks. -/
theorem skip_ne_nil {before : List Char} (h : Text.trim (before ++ s) = before ++ s)
    (hne : s ≠ []) : skip s ≠ [] := by
  intro hnil
  rw [skip, List.dropWhile_eq_nil_iff] at hnil
  have hblank := textBlank_of_isBlank (hnil _ (List.getLast_mem hne))
  have hlast := Text.isBlank_getLast_of_trim h (List.append_ne_nil_of_right_ne_nil before hne)
  rw [List.getLast_append_of_ne_nil _ hne, hblank] at hlast
  cases hlast

/-- What a value is read as that begins neither like a truth value nor like one with quotes,
brackets or braces. -/
theorem value_plain {fuel : Nat} (htrue : "true".toList.isPrefixOf (skip s) = false)
    (hfalse : "false".toList.isPrefixOf (skip s) = false)
    (hopen : ∀ x ∈ (skip s).head?, x ∉ ['\x7b', '[', '"', '\x27']) :
    value l (fuel + 1) s
      = some (plain l (Text.trim ((skip s).takeWhile fun c => !isSeparator c)),
        skip ((skip s).drop ((skip s).takeWhile fun c => !isSeparator c).length)) := by
  rw [value]
  simp only [htrue, hfalse, Bool.false_eq_true, if_false]
  split
  · next h => exact (hopen '\x7b' (by rw [h]; rfl) (by decide)).elim
  · next h => exact (hopen '[' (by rw [h]; rfl) (by decide)).elim
  · next h => exact (hopen '"' (by rw [h]; rfl) (by decide)).elim
  · next h => exact (hopen '\x27' (by rw [h]; rfl) (by decide)).elim
  · next h => exact (hopen '\x27' (by rw [h]; rfl) (by decide)).elim
  · rfl

/-- A word is read as the text that it is. -/
theorem read_word {t : String} (word : Word t.toList) : read l t = .text l t := by
  have hskip := skip_of_trim word.trimmed
  -- a word that only begins like a flag leaves something behind it
  have hflag (name : List Char) (hne : t.toList ≠ name)
      (hstart : name.isPrefixOf t.toList = true) : skip (t.toList.drop name.length) ≠ [] := by
    obtain ⟨more, hmore⟩ := List.isPrefixOf_iff_prefix.1 hstart
    have hrest : more ≠ [] := by
      rintro rfl
      exact hne (by rw [← hmore, List.append_nil])
    rw [← hmore, List.drop_left]
    exact skip_ne_nil (hmore ▸ word.trimmed) hrest
  have hvalue : value l (2 * t.length + 2) t.toList = some (.text l t, [])
      ∨ ∃ n rest, rest ≠ [] ∧ value l (2 * t.length + 2) t.toList = some (n, rest) := by
    by_cases htrue : "true".toList.isPrefixOf t.toList = true
    · refine .inr ⟨.flag l true, _, hflag _ word.noFlag.1 htrue, ?_⟩
      rw [value]
      simp only [hskip, htrue, if_true]
      rfl
    · by_cases hfalse : "false".toList.isPrefixOf t.toList = true
      · refine .inr ⟨.flag l false, _, hflag _ word.noFlag.2 hfalse, ?_⟩
        rw [value]
        simp only [hskip, htrue, hfalse, if_true]
        rfl
      · have hwhole : t.toList.takeWhile (fun c => !isSeparator c) = t.toList := by
          rw [List.takeWhile_eq_self_iff]
          intro c hc
          rw [word.unseparated c hc]
          rfl
        have hopen : ∀ x ∈ (skip t.toList).head?, x ∉ ['\x7b', '[', '"', '\x27'] := by
          intro x hx hmem
          rw [hskip, Option.mem_def] at hx
          simp only [List.mem_cons, List.not_mem_nil, or_false] at hmem
          rcases hmem with rfl | rfl | rfl | rfl
          · exact absurd (word.unseparated _ (List.mem_of_head? hx)) (by decide)
          · exact absurd (word.unseparated _ (List.mem_of_head? hx)) (by decide)
          · exact word.unquoted.1 hx
          · exact word.unquoted.2 hx
        refine .inl ?_
        rw [value_plain (by rwa [hskip, ← Bool.not_eq_true]) (by rwa [hskip, ← Bool.not_eq_true])
          hopen, hskip, hwhole, word.trimmed, List.drop_length]
        obtain ⟨-, htext⟩ | ⟨hnumber, -⟩ := plain_cases l t.toList
        · rw [htext, String.ofList_toList]
          rfl
        · rw [word.noNumber] at hnumber
          cases hnumber
  rw [read]
  obtain hvalue | ⟨n, rest, hne, hvalue⟩ := hvalue
  · rw [hvalue]
  · rw [hvalue]
    cases rest with
    | nil => exact absurd rfl hne
    | cons c rest => rfl

/-- Text between quotes is shorter than with them, and what stands in brackets or braces is none:
what is read to its end as the text that it is begins like neither. -/
theorem head_of_asText {t : String} {n : Node}
    (hvalue : value l (2 * t.length + 2) t.toList = some (n, [])) (htext : n.asText = .ok t) :
    ∀ x ∈ (skip t.toList).head?, x ∉ ['\x7b', '[', '"', '\x27'] := by
  have hle : (skip t.toList).length ≤ t.toList.length := (List.dropWhile_sublist _).length_le
  intro x hx hmem
  obtain ⟨rest, hskip⟩ : ∃ rest, skip t.toList = x :: rest := List.head?_eq_some_iff.1 hx
  rw [hskip, List.length_cons] at hle
  rw [value, hskip] at hvalue
  simp only [List.mem_cons, List.not_mem_nil, or_false] at hmem
  -- what begins so is a table, a list, or shorter than the text it came from
  rcases hmem with rfl | rfl | rfl | rfl
  · obtain ⟨_, hfound, heq⟩ := Option.map_eq_some_iff.1 hvalue
    obtain ⟨found, -, rfl⟩ := Option.map_eq_some_iff.1 hfound
    obtain rfl : Node.table l found.1 = n := congrArg Prod.fst heq
    cases htext
  · obtain ⟨_, hfound, heq⟩ := Option.map_eq_some_iff.1 hvalue
    obtain ⟨found, -, rfl⟩ := Option.map_eq_some_iff.1 hfound
    obtain rfl : Node.list l found.1 = n := congrArg Prod.fst heq
    cases htext
  · obtain ⟨_, hfound, heq⟩ := Option.map_eq_some_iff.1 hvalue
    obtain ⟨⟨text, rest'⟩, hread, rfl⟩ := Option.map_eq_some_iff.1 hfound
    obtain rfl : Node.text l text = n := congrArg Prod.fst heq
    obtain rfl : text = t := Except.ok.inj htext
    have hlt := Toml.length_of_lineText hread
    rw [List.length_nil] at hlt
    omega
  · obtain ⟨_, hfound, heq⟩ := Option.map_eq_some_iff.1 hvalue
    have hletter : ∃ c rest', rest = c :: '\x27' :: rest' ∧ n = .letter l c := by
      match rest with
      | [] => cases hfound
      | [c] => cases hfound
      | c :: d :: rest' =>
        by_cases hd : d = '\x27'
        · subst hd
          obtain rfl := Option.some.inj hfound
          exact ⟨c, rest', rfl, (congrArg Prod.fst heq).symm⟩
        · split at hfound
          · next h => cases h
          · split at hfound
            · next h => cases h
            · split at hfound <;> simp_all
    obtain ⟨c, rest', rfl, rfl⟩ := hletter
    obtain rfl : String.singleton c = t := Except.ok.inj htext
    rw [String.toList_singleton] at hle
    simp only [List.length_cons, List.length_nil] at hle
    omega

/-- Text that is read to its end as the text that it is must be a word. -/
theorem word_of_asText {t : String} {n : Node}
    (hvalue : value l (2 * t.length + 2) t.toList = some (n, [])) (htext : n.asText = .ok t) :
    Word t.toList := by
  have hopen := head_of_asText hvalue htext
  by_cases htrue : "true".toList.isPrefixOf (skip t.toList) = true
  · rw [value] at hvalue
    simp only [htrue, if_true] at hvalue
    obtain rfl : Node.flag l true = n := congrArg Prod.fst (Option.some.inj hvalue)
    cases htext
  · by_cases hfalse : "false".toList.isPrefixOf (skip t.toList) = true
    · rw [value] at hvalue
      simp only [htrue, hfalse, if_true] at hvalue
      obtain rfl : Node.flag l false = n := congrArg Prod.fst (Option.some.inj hvalue)
      cases htext
    · rw [value_plain (Bool.eq_false_iff.2 htrue) (Bool.eq_false_iff.2 hfalse) hopen] at hvalue
      obtain ⟨W, hW⟩ : ∃ W, (skip t.toList).takeWhile (fun c => !isSeparator c) = W := ⟨_, rfl⟩
      rw [hW] at hvalue
      obtain rfl : plain l (Text.trim W) = n := congrArg Prod.fst (Option.some.inj hvalue)
      obtain ⟨hnumber, hplain⟩ | ⟨-, hplain⟩ := plain_cases l (Text.trim W)
      · rw [hplain] at htext
        have ht : Text.trim W = t.toList := by
          rw [← Except.ok.inj htext, String.toList_ofList]
        -- nothing was left out on the way from the value to the word
        have hWs : W.Sublist (skip t.toList) := hW ▸ List.takeWhile_sublist _
        have hst : (skip t.toList).Sublist t.toList := List.dropWhile_sublist _
        have htW : t.toList.Sublist W := ht ▸ Text.trim_sublist W
        have hskip : skip t.toList = t.toList := hst.antisymm (htW.trans hWs)
        have hwhole : W = t.toList := (hWs.trans hst).antisymm htW
        rw [hskip] at htrue hfalse hopen
        rw [hwhole] at ht hW hnumber
        refine ⟨ht, fun c hc => ?_, ⟨fun hq => ?_, fun hq => ?_⟩, ⟨fun hf => ?_, fun hf => ?_⟩, ?_⟩
        · rw [← hW] at hc
          simpa using List.mem_takeWhile_imp hc
        · exact hopen _ hq (by decide)
        · exact hopen _ hq (by decide)
        · exact htrue (by rw [hf]; decide)
        · exact hfalse (by rw [hf]; decide)
        · rwa [ht] at hnumber
      · obtain ⟨x, hx⟩ | ⟨n, hn⟩ | ⟨n, hn⟩ := hplain
        · rw [hx] at htext
          cases htext
        · rw [hn] at htext
          cases htext
        · rw [hn] at htext
          cases htext

/-- A value that is taken as it stands: a word, or text of which no reading comes to its end. -/
def Verbatim (l : Layer) (t : String) : Prop :=
  Word t.toList ∨ ∀ n, value l (2 * t.length + 2) t.toList ≠ some (n, [])

/-- **A value is taken as it stands if it is a word, or if no reading of it comes to its end,** and
in no other case. -/
theorem asText_read_iff {t : String} : (read l t).asText = .ok t ↔ Verbatim l t := by
  constructor
  · intro htext
    rw [read] at htext
    split at htext
    · next n hvalue => exact .inl (word_of_asText hvalue htext)
    · next hend => exact .inr hend
  · rintro (word | hend)
    · rw [read_word word]
      rfl
    · rw [read]
      split
      · next n hvalue => exact absurd hvalue (hend n)
      · rfl

end Settings.Environment

end RouterMenu
