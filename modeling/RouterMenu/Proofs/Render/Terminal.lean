import Mathlib.Data.List.Basic

/-!
# What a terminal shows of a text

A terminal takes escape sequences out of the text that it shows: the escape character, a bracket,
parameters, and the character that ends the sequence. Text without an escape character is shown as
it is (`visible_of_not_mem`), and nothing is shown of an escape sequence (`visible_escape`).
Whatever cannot go on with a sequence breaks it off. The end of a line cannot, so the lines of a
text are shown each by itself (`visible_intercalate`).
-/

namespace RouterMenu.Render

/-- The characters between the bracket and the end of an escape sequence. -/
def isParameter (c : Char) : Bool := ' ' ≤ c && c ≤ '?'

/-- The characters that end an escape sequence. -/
def isFinal (c : Char) : Bool := '@' ≤ c && c ≤ '~'

/-- An escape sequence: the escape character, a bracket, parameters, and one character that ends
it. -/
def IsEscape (s : String) : Prop :=
  ∃ parameters final, s.toList = '\x1b' :: '[' :: (parameters ++ [final])
    ∧ (∀ c ∈ parameters, isParameter c = true) ∧ isFinal final = true

/-- How far into an escape sequence a terminal is. -/
inductive Terminal where
  | outside
  /-- Behind the escape character. -/
  | opened
  /-- Behind the bracket. -/
  | within
deriving DecidableEq, Repr

namespace Terminal

/-- A character outside of escape sequences. It is shown unless it opens one. -/
def plain (c : Char) : Terminal × Bool := if c = '\x1b' then (.opened, false) else (.outside, true)

/-- What a character does to a terminal, and whether it is shown. What cannot go on with an escape
sequence breaks it off. -/
def next (t : Terminal) (c : Char) : Terminal × Bool :=
  match t with
  | .outside => plain c
  | .opened => if c = '[' then (.within, false) else plain c
  | .within =>
    if isParameter c then (.within, false)
    else if isFinal c then (.outside, false)
    else plain c

/-- What a terminal shows of a text. -/
def shown (t : Terminal) : List Char → List Char
  | [] => []
  | c :: rest =>
    let (t', isShown) := t.next c
    if isShown then c :: t'.shown rest else t'.shown rest

/-- The end of a line breaks off whatever was opened on it. -/
theorem shown_newline (t : Terminal) (text rest : List Char) :
    t.shown (text ++ '\n' :: rest) = t.shown text ++ '\n' :: outside.shown rest := by
  induction text generalizing t with
  | nil =>
    -- it is neither a bracket nor a parameter nor the end of a sequence
    have hnext : t.next '\n' = (.outside, true) := by cases t <;> decide
    simp only [List.nil_append, shown, hnext, if_true]
  | cons c text ih =>
    rw [List.cons_append, shown, shown]
    simp only [ih]
    split <;> rfl

/-- Text without an escape character is shown as it is. -/
theorem shown_append {text : List Char} (silent : '\x1b' ∉ text) (rest : List Char) :
    outside.shown (text ++ rest) = text ++ outside.shown rest := by
  induction text with
  | nil => rfl
  | cons c text ih =>
    rw [List.mem_cons, not_or] at silent
    have hnext : outside.next c = (.outside, true) := if_neg (Ne.symm silent.1)
    simp only [List.cons_append, shown, hnext, if_true, ih silent.2]

/-- Nothing is shown of an escape sequence. -/
theorem shown_escape {s : String} (h : IsEscape s) (rest : List Char) :
    outside.shown (s.toList ++ rest) = outside.shown rest := by
  obtain ⟨parameters, final, hs, hparameters, hfinal⟩ := h
  have hwithin : ∀ parameters : List Char, (∀ c ∈ parameters, isParameter c = true) →
      within.shown (parameters ++ final :: rest) = outside.shown rest := by
    intro parameters hall
    induction parameters with
    | nil =>
      -- what ends a sequence is not taken for a parameter
      have hother : isParameter final = false := by
        simp only [isFinal, isParameter, Bool.and_eq_true, decide_eq_true_eq,
          Bool.and_eq_false_iff, decide_eq_false_iff_not] at hfinal ⊢
        exact .inr fun hle => absurd (Char.le_trans hfinal.1 hle) (by decide)
      simp [shown, next, hother, hfinal]
    | cons c more ih =>
      rw [List.forall_mem_cons] at hall
      simp [shown, next, hall.1, ih hall.2]
  rw [hs]
  simpa [shown, next, plain] using hwithin parameters hparameters

/-- What is shown of lines is what is shown of each. -/
theorem shown_intercalate (lines : List (List Char)) :
    outside.shown (['\n'].intercalate lines) = ['\n'].intercalate (lines.map outside.shown) := by
  match lines with
  | [] => rfl
  | [line] => simp
  | line :: next :: lines =>
    rw [List.intercalate_cons_cons, List.append_assoc, List.singleton_append, shown_newline,
      shown_intercalate (next :: lines)]
    simp [List.intercalate_cons_cons]

end Terminal

/-- What a terminal shows of a text. -/
def visible (text : String) : String := String.ofList (Terminal.outside.shown text.toList)

/-- **Text without an escape character is shown as it is.** -/
theorem visible_of_not_mem {text : String} (silent : '\x1b' ∉ text.toList) :
    visible text = text := by
  have hshown := Terminal.shown_append silent []
  rw [List.append_nil, Terminal.shown, List.append_nil] at hshown
  rw [visible, hshown, String.ofList_toList]

theorem visible_append {text : String} (silent : '\x1b' ∉ text.toList) (rest : String) :
    visible (text ++ rest) = text ++ visible rest := by
  rw [visible, String.toList_append, Terminal.shown_append silent, String.ofList_append,
    String.ofList_toList, visible]

/-- **Nothing is shown of an escape sequence.** -/
theorem visible_escape {s : String} (h : IsEscape s) (rest : String) :
    visible (s ++ rest) = visible rest := by
  rw [visible, String.toList_append, Terminal.shown_escape h, visible]

/-- **The lines of a text are shown each by itself.** -/
theorem visible_intercalate (lines : List String) :
    visible ("\n".intercalate lines) = "\n".intercalate (lines.map visible) := by
  have hnewline : "\n".toList = ['\n'] := rfl
  rw [← String.toList_inj, String.toList_intercalate, visible, String.toList_ofList,
    String.toList_intercalate, hnewline, Terminal.shown_intercalate, List.map_map, List.map_map]
  simp [visible, Function.comp_def]

end RouterMenu.Render
