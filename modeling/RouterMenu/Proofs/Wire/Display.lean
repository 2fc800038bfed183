import Mathlib.Data.List.Forall2
import RouterMenu.Gateway.Answer
import RouterMenu.Proofs.Record.RoundTrip

/-!
# What a command shows of passwords

A command is printed word by word, and a word that begins like a password attribute is printed as
one mark, whatever follows (`Shown`). The test looks at the beginning of the finished word and not
at how it came about. So two commands that were built up alike but for the values of attributes
called `password` are printed alike (`Addition.Alike`): one addition makes one word
(`Command.words_add`), words of additions that are alike are shown alike (`maskedWord_of_alike`),
and all other words are the same to begin with. Logins are such commands, and so are records with
different passwords, as long as both have one: a record without a password has no word for it, and
that can be seen.
-/

namespace RouterMenu.Wire

/-! ## How a command is built up -/

/-- One more thing that a command says. -/
inductive Addition where
  /-- Sets `name` to `value`, on the command itself or on a copy of it. -/
  | attr (name value : String)
  /-- Asks for the objects whose `name` is `value`. -/
  | query (name value : String)
  /-- Selects the object that the command is about. -/
  | numbers (id : String)

/-- The word that an addition makes. -/
def Addition.word : Addition → String
  | .attr name value => "=" ++ name ++ "=" ++ value
  | .query name value => "?" ++ name ++ "=" ++ value
  | .numbers id => "=numbers=" ++ id

/-- Two additions that say the same, but for the value of a password. -/
inductive Addition.Alike : Addition → Addition → Prop where
  | same (addition : Addition) : Alike addition addition
  | password (secret other : String) : Alike (.attr "password" secret) (.attr "password" other)

namespace Command

variable {word : String} {additions others : List Addition}

/-- The command with one thing added. -/
def add (c : Command) : Addition → Command
  | .attr name value => c.attr name value
  | .query name value => c.query name value
  | .numbers id => c.numbers id

/-- The command that is built up from a path by additions, one after another. -/
def build (path : String) (additions : List Addition) : Command := additions.foldl add { path }

/-- An addition makes one word, behind those that are there. -/
theorem words_add (c : Command) (addition : Addition) :
    (c.add addition).words = c.words ++ [addition.word] := by
  cases addition <;> simp [add, attr, query, numbers, words, Clause.word, Addition.word]

/-- Behind its path, a command has a word for each addition. -/
theorem words_build (path : String) (additions : List Addition) :
    (build path additions).words = path :: additions.map Addition.word := by
  -- on top of the words of whatever command the additions begin with
  have hfold : ∀ (additions : List Addition) (c : Command),
      (additions.foldl add c).words = c.words ++ additions.map Addition.word := by
    intro additions
    induction additions with
    | nil => simp
    | cons addition rest ih =>
      intro c
      rw [List.foldl_cons, ih, words_add, List.append_assoc, List.map_cons, List.singleton_append]
  exact hfold additions { path }

/-! ## How a word is shown -/

/-- How a word is shown: as it is, or as one mark if it begins like a password attribute. -/
inductive Shown : String → String → Prop where
  | plain {word : String} (h : ∀ secret, word ≠ "=password=" ++ secret) : Shown word word
  | masked (secret : String) : Shown ("=password=" ++ secret) "=password=***"

theorem begins_secretStart_iff :
    secretStart.toList.isPrefixOf word.toList = true ↔ ∃ secret, word = "=password=" ++ secret := by
  rw [List.isPrefixOf_iff_prefix]
  constructor
  · rintro ⟨rest, hrest⟩
    have hof : (String.ofList rest).toList = rest := String.toList_ofList
    refine ⟨String.ofList rest, String.toList_inj.1 ?_⟩
    rw [String.toList_append, hof]
    exact hrest.symm
  · rintro ⟨secret, rfl⟩
    exact ⟨secret.toList, by rw [String.toList_append]; rfl⟩

theorem shown_maskedWord (word : String) : Shown word (maskedWord word) := by
  unfold maskedWord
  split
  · next hsecret =>
    obtain ⟨secret, rfl⟩ := begins_secretStart_iff.1 hsecret
    exact .masked secret
  · next hplain => exact .plain fun secret h => hplain (begins_secretStart_iff.2 ⟨secret, h⟩)

/-- **A password is one mark**, whatever it is. -/
theorem maskedWord_password (secret : String) :
    maskedWord ("=password=" ++ secret) = "=password=***" := by
  rw [maskedWord, if_pos (begins_secretStart_iff.2 ⟨secret, rfl⟩)]
  rfl

/-- Additions that are alike are shown alike. -/
theorem maskedWord_of_alike {addition other : Addition} (alike : addition.Alike other) :
    maskedWord addition.word = maskedWord other.word := by
  cases alike with
  | same => rfl
  | password secret other =>
    exact (maskedWord_password secret).trans (maskedWord_password other).symm

/-- Commands that are built up alike have the same to show, word by word. -/
theorem maskedWords_of_alike (alike : List.Forall₂ Addition.Alike additions others) :
    (additions.map Addition.word).map maskedWord = (others.map Addition.word).map maskedWord := by
  induction alike with
  | nil => rfl
  | cons head tail ih => simp only [List.map_cons, maskedWord_of_alike head, ih]

/-- **Commands that are built up alike are printed alike.** -/
theorem display_of_alike (path : String) (alike : List.Forall₂ Addition.Alike additions others) :
    (build path additions).display = (build path others).display := by
  rw [display, display, words_build, words_build, List.map_cons, List.map_cons,
    maskedWords_of_alike alike]

end Command

end RouterMenu.Wire

namespace RouterMenu

/-! ## Commands with passwords -/

namespace Cells

variable {fields : List Field} {r s : Cells fields}

/-- The additions that make the command which sets the given entries. -/
def additions (entries : List (Descriptor × Value)) : List Wire.Addition :=
  (entries.filter isSet).map fun entry => .attr entry.1.wire entry.2.encode

theorem display_marshal (path : String) (r : Cells fields) :
    (r.marshal path).display = (Wire.Command.build path (additions r.entries)).display := by
  have hwords : (r.marshal path).words
      = (Wire.Command.build path (additions r.entries)).words := by
    rw [words_marshal, Wire.Command.words_build, additions, pairs, List.map_map, List.map_map]
    rfl
  rw [Wire.Command.display, hwords, Wire.Command.display]

/-- Two entries are the same, or they are different passwords. -/
inductive SameOrSecret : Descriptor × Value → Descriptor × Value → Prop where
  | same (entry : Descriptor × Value) : SameOrSecret entry entry
  | secret {d : Descriptor} {v w : Value} (wire : d.wire = "password") (some : v.isZero = false)
      (other : w.isZero = false) : SameOrSecret (d, v) (d, w)

/-- The records hold the same, but for passwords, and where they differ both have one. -/
def SameButPassword (r s : Cells fields) : Prop := List.Forall₂ SameOrSecret r.entries s.entries

/-- Entries that differ in passwords are set by additions that do. -/
theorem alike_additions {entries others : List (Descriptor × Value)}
    (same : List.Forall₂ SameOrSecret entries others) :
    List.Forall₂ Wire.Addition.Alike (additions entries) (additions others) := by
  unfold additions
  induction same with
  | nil => exact .nil
  | @cons entry _ _ _ head tail ih =>
    cases head with
    | same =>
      by_cases hset : isSet entry = true
      · rw [List.filter_cons_of_pos hset, List.filter_cons_of_pos hset]
        exact .cons (.same _) ih
      · rwa [List.filter_cons_of_neg hset, List.filter_cons_of_neg hset]
    | @secret d v w wire hv hw =>
      -- neither is empty, so there is a word for each
      have hset : isSet (d, v) = true := by simp [isSet, hv]
      have hset' : isSet (d, w) = true := by simp [isSet, hw]
      rw [List.filter_cons_of_pos hset, List.filter_cons_of_pos hset', List.map_cons, List.map_cons,
        wire]
      exact .cons (.password _ _) ih

end Cells

namespace Wire.Command

/-- **Passwords do not show.** Commands that were built up alike but for the values of passwords are
printed alike: the words in order with a space between two of them, each as it is, but for those
that begin like a password, of which each is the same mark. So are the logins of a user whatever the
password, and the commands that set two records which differ in passwords that both of them have. -/
theorem display_conceals :
    (∀ (path : String) (additions others : List Addition),
        List.Forall₂ Addition.Alike additions others →
          (build path additions).display = (build path others).display)
      ∧ (∀ (path : String) (additions : List Addition), ∃ items,
        List.Forall₂ Shown (path :: additions.map Addition.word) items
          ∧ (build path additions).display = " ".intercalate items)
      ∧ (∀ username secret other : String,
        (Login.command ⟨username, secret⟩).display = (Login.command ⟨username, other⟩).display)
      ∧ ∀ (path : String) (fields : List Field) (r s : Cells fields), r.SameButPassword s →
        (r.marshal path).display = (s.marshal path).display := by
  refine ⟨fun path _ _ alike => display_of_alike path alike, fun path additions => ?_,
    fun username secret other => ?_, fun path fields r s same => ?_⟩
  · refine ⟨(build path additions).words.map maskedWord, ?_, rfl⟩
    rw [words_build, List.forall₂_map_right_iff]
    exact List.forall₂_same.2 fun word _ => shown_maskedWord word
  · -- a login is built of two additions, and only the secret one differs
    have halike : List.Forall₂ Addition.Alike [.attr "name" username, .attr "password" secret]
        [.attr "name" username, .attr "password" other] :=
      .cons (.same _) (.cons (.password secret other) .nil)
    have hlogin (secret : String) : Login.command ⟨username, secret⟩
        = build "/login" [.attr "name" username, .attr "password" secret] := rfl
    rw [hlogin, hlogin, display_of_alike "/login" halike]
  · rw [Cells.display_marshal, Cells.display_marshal]
    exact display_of_alike path (Cells.alike_additions same)

example : (build "/user/add" [.attr "name" "a b", .attr "password" "x =password=y\n",
      .query "password" "z", .numbers "*1", .attr "password" ""]).display
    = "/user/add =name=a b =password=*** ?password=z =numbers=*1 =password=***" := by
  decide +kernel

end Wire.Command

end RouterMenu
