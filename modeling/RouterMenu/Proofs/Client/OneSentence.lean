import RouterMenu.Proofs.Client.Selection
import RouterMenu.Proofs.Client.Traffic
import RouterMenu.Proofs.Gateway.Exchange
import RouterMenu.Proofs.Wire.RoundTrip

/-!
# A command is one sentence, whatever its texts hold

Records and keys hold any text: none at all, line breaks, equals signs, or words of the protocol.
None of it gets out of the word it was put into. Every word has a length of its own, and none is
empty, as it begins with the mark of an attribute or a query; so a sentence ends where its command
ends. And every name ends at the first equals sign behind its mark, so an attribute is read with the
value that was put in. What each operation may ask of a device is listed by `Asks`.
-/

namespace RouterMenu

open Wire (Clause Command Sentence)

/-- The name and the value a clause sets; a query sets nothing. -/
def Wire.Clause.assigned? : Clause → Option (String × String)
  | .attr name value => some (name, value)
  | .query _ _ => none

theorem Wire.Clause.filterMap_assigned? (pairs : List (String × String)) :
    (pairs.map fun pair => Clause.attr pair.1 pair.2).filterMap Clause.assigned? = pairs := by
  rw [List.filterMap_map]
  exact List.filterMap_some

/-- A clause is read from its word as what it sets. -/
theorem Wire.Sentence.attribute?_word {clause : Clause}
    (plain : ∀ pair, clause.assigned? = some pair → '=' ∉ pair.1.toList) :
    attribute? clause.word = clause.assigned? := by
  cases clause with
  | attr name value =>
    have hread : attribute? (attributeWord (name, value)) = some (name, value) :=
      attribute?_attributeWord (plain (name, value) rfl)
    exact hread
  | query name value => simp [attribute?, Clause.word, Clause.assigned?]

/-- **What clauses set is read back from their words**, each name once. -/
theorem Wire.Sentence.ofWords_clauses {clauses : List Clause}
    (plain : ∀ pair ∈ clauses.filterMap Clause.assigned?, '=' ∉ pair.1.toList)
    (distinct : ((clauses.filterMap Clause.assigned?).map Prod.fst).Nodup) :
    ofWords (clauses.map Clause.word) = ⟨clauses.filterMap Clause.assigned?⟩ := by
  have hread : (clauses.map Clause.word).filterMap attribute?
      = clauses.filterMap Clause.assigned? := by
    rw [List.filterMap_map]
    refine List.filterMap_congr fun clause hc => ?_
    exact attribute?_word fun pair hp => plain pair (List.mem_filterMap.2 ⟨clause, hc, hp⟩)
  rw [ofWords, hread]
  exact congrArg Sentence.mk (pairs_ofList distinct)

/-- **The frame of a command is one sentence**, the words of the command. -/
theorem Wire.Command.drain_of_encode {command : Command} (path : command.path ≠ "")
    {bytes : List UInt8} (h : Wire.Framing.encode command.words = .ok bytes) :
    Wire.Framing.drain bytes = ⟨[command.words], none, []⟩ := by
  obtain ⟨hfits, rfl⟩ := Wire.Framing.encode_eq_ok.1 h
  have hspells := Wire.Framing.spells_cons (Command.decode_frame path hfits)
    Wire.Framing.spells_nil
  rw [List.append_nil] at hspells
  exact hspells

namespace Menu

variable {m : Menu} {σ : Type} {call : Gateway σ} {s : σ}

/-! ## What is asked -/

/-- What an operation may ask of a device: a verb, and the clauses behind it. -/
inductive Asks : Operation m → String → List Clause → Prop where
  | add (r : Record m) :
      Asks (.add r) "add" (r.pairs.map fun pair => .attr pair.1 pair.2)
  /-- A new record is read back by the key it has by then. -/
  | added (r : Record m) (key : String) : Asks (.add r) "print" [.query m.key key]
  | list : Asks .list "print" []
  | find (key : String) : Asks (.find key) "print" [.query m.key key]
  | get (key : String) : Asks (.get key) "print" [.query m.key key]
  | update (r : Record m) :
      Asks (.update r) "set" ((r.pairs ++ m.selector r).map fun pair => .attr pair.1 pair.2)
  /-- A changed record is read back by its key. -/
  | updated (r : Record m) : Asks (.update r) "print" [.query m.key (m.keyOf r)]
  | delete (key : String) : Asks (.delete key) "remove" [.attr "numbers" key]

/-- Every command that is sent is one of these. -/
theorem Addressable.asks_of_sent (addressable : m.Addressable) {op : Operation m}
    {command : Command} (sent : command ∈ op.dialogue.sent call s) :
    ∃ verb clauses, Asks op verb clauses ∧ command = ⟨m.verb verb, clauses⟩ := by
  cases Operation.maySend_of_sent sent with
  | add r => exact ⟨_, _, .add r, r.marshal_eq _⟩
  | added r key => exact ⟨_, _, .added r key, rfl⟩
  | list => exact ⟨_, _, .list, rfl⟩
  | find key => exact ⟨_, _, .find key, rfl⟩
  | get key => exact ⟨_, _, .get key, rfl⟩
  | update r => exact ⟨_, _, .update r, addressable.setCommand_eq r⟩
  | updated r => exact ⟨_, _, .updated r, rfl⟩
  | delete key => exact ⟨_, _, .delete key, rfl⟩

/-- The names that a command sets have no equals sign in them, and no two are the same. -/
theorem Addressable.assigned_of_asks (addressable : m.Addressable) {op : Operation m}
    {verb : String} {clauses : List Clause} (asks : Asks op verb clauses) :
    (∀ pair ∈ clauses.filterMap Clause.assigned?, '=' ∉ pair.1.toList)
      ∧ ((clauses.filterMap Clause.assigned?).map Prod.fst).Nodup := by
  cases asks with
  | add r =>
    rw [Clause.filterMap_assigned?]
    exact ⟨fun _ hp => Cells.plain_pairs addressable.unambiguous hp,
      Cells.nodup_pairs addressable.unambiguous⟩
  | update r =>
    rw [Clause.filterMap_assigned?]
    exact ⟨addressable.plain_assignments r, addressable.nodup_assignments r⟩
  | delete key =>
    have hnumbers : '=' ∉ "numbers".toList := by decide
    exact ⟨List.forall_mem_singleton.2 hnumbers, List.nodup_singleton _⟩
  -- the others set nothing
  | _ => exact ⟨List.forall_mem_nil _, List.nodup_nil⟩

/-! ## What is read back -/

/-- **No text gets out of its word.** Whatever an operation on a menu there is sends, and whatever
the gateway answered before, the command has a word for its path and one for each of its clauses.
If they can be framed at all, the bytes are read as one sentence, these words, and nothing else. And
behind the path the attributes are read as they were put in, each once. -/
theorem sent_reads_back {m : Menu} (known : m ∈ samples ++ catalog) {op : Operation m}
    {call : Gateway σ} {s : σ} {command : Command}
    (sent : command ∈ op.dialogue.sent call s) :
    (∃ verb, Asks op verb command.clauses
        ∧ command.words = m.verb verb :: command.clauses.map Clause.word)
      ∧ (∀ bytes, Wire.Framing.encode command.words = .ok bytes →
          Wire.Framing.drain bytes = ⟨[command.words], none, []⟩)
      ∧ Sentence.ofWords command.words.tail = ⟨command.clauses.filterMap Clause.assigned?⟩
      ∧ ((command.clauses.filterMap Clause.assigned?).map Prod.fst).Nodup := by
  have haddressable := addressable_of_known known
  obtain ⟨verb, clauses, hasks, rfl⟩ := haddressable.asks_of_sent sent
  obtain ⟨rest, hrest⟩ := haddressable.exists_verb verb
  -- an empty path would end the sentence before it began
  have hpath : m.verb verb ≠ "" := by
    intro he
    simp [he] at hrest
  obtain ⟨hplain, hdistinct⟩ := haddressable.assigned_of_asks hasks
  exact ⟨⟨verb, hasks, rfl⟩, fun bytes h => Command.drain_of_encode hpath h,
    Sentence.ofWords_clauses hplain hdistinct, hdistinct⟩

/-- A gateway that has lost its device. -/
def gone : Gateway Unit := fun _ s => (.error (.fatal "gone"), s)

/-- Texts that read like selectors and ends of answers stay in their words. -/
theorem sent_reads_back_misleading :
    script ∈ samples ++ catalog
      ∧ script.setCommand misleading ∈ (Operation.update misleading).dialogue.sent gone ()
      ∧ (∃ bytes, Wire.Framing.encode (script.setCommand misleading).words = .ok bytes
        ∧ Wire.Framing.drain bytes = ⟨[(script.setCommand misleading).words], none, []⟩)
      ∧ Sentence.ofWords (script.setCommand misleading).words.tail
        = ⟨[("name", "=.id=*1"), ("source", "!done\n=.id=*7\n=numbers=*8"),
            ("policy", "=numbers=*9"), ("dont-require-permissions", "no"),
            ("numbers", "=.id=*1")]⟩ := by
  have hknown : script ∈ samples ++ catalog := by decide
  have hkeyed : script.keyOf misleading ≠ "" := by decide
  have hsent : script.setCommand misleading
      ∈ (Operation.update misleading).dialogue.sent gone () := by
    rw [Operation.dialogue, sent_update, if_neg hkeyed]
    exact List.mem_cons_self ..
  obtain ⟨-, hframe, hread, -⟩ := sent_reads_back hknown hsent
  have hencode : ∃ bytes, Wire.Framing.encode (script.setCommand misleading).words = .ok bytes :=
    ⟨_, rfl⟩
  obtain ⟨bytes, hbytes⟩ := hencode
  exact ⟨hknown, hsent, ⟨bytes, hbytes, hframe bytes hbytes⟩, hread⟩

end Menu

end RouterMenu
