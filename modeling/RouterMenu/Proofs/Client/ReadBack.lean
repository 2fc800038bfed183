import RouterMenu.Proofs.Client.Traffic
import RouterMenu.Proofs.Record.Change

/-!
# What was written comes back

An object is read back after it was created or changed. A device that keeps what it is told says
then what the command said: of a new object everything, with an id of its own and whatever else it
knows of it, and of an object that was there already the old row with the attributes of the command
put into it. Both come out as the record they should: the new one with its id
(`add_returns_stored`), and the one laid over the other (`update_overlays`).
-/

namespace RouterMenu.Menu

open Wire (Command Reply Sentence)

variable {m : Menu} {σ : Type} {call : Gateway σ} {s s' : σ}

/-! ## What a command assigns -/

/-- The path of a command assigns nothing. -/
theorem Addressable.attribute?_verb (addressable : m.Addressable) (verb : String) :
    Sentence.attribute? (m.verb verb) = none := by
  obtain ⟨rest, hrest⟩ := addressable.exists_verb verb
  simp [Sentence.attribute?, hrest]

theorem Addressable.assignments_marshal (addressable : m.Addressable) (r : Record m)
    (verb : String) : (r.marshal (m.verb verb)).assignments = r.pairs := by
  rw [Command.assignments, Cells.words_marshal,
    List.filterMap_cons_none (addressable.attribute?_verb verb)]
  exact Sentence.filterMap_attributeWord fun _ hp => Cells.plain_pairs addressable.unambiguous hp

theorem Addressable.assignments_setCommand (addressable : m.Addressable) (r : Record m) :
    (m.setCommand r).assignments = r.pairs ++ m.selector r := by
  rw [Command.assignments, addressable.words_setCommand,
    List.filterMap_cons_none (addressable.attribute?_verb "set")]
  exact Sentence.filterMap_attributeWord (addressable.plain_assignments r)

/-- What a change assigns besides `numbers` is what the record is written as. -/
theorem Addressable.filter_assignments (addressable : m.Addressable) (r : Record m) :
    ((m.setCommand r).assignments.filter fun pair => pair.1 ≠ "numbers") = r.pairs := by
  have hrecord : ∀ pair ∈ r.pairs, decide (pair.1 ≠ "numbers") = true := by
    intro pair hp
    rw [decide_eq_true_iff]
    rintro he
    exact addressable.not_mem_numbers r (he ▸ List.mem_map_of_mem hp)
  have hselector : (m.selector r).filter (fun pair => pair.1 ≠ "numbers") = [] := by
    unfold selector
    split <;> simp
  rw [addressable.assignments_setCommand, List.filter_append, hselector, List.append_nil,
    List.filter_eq_self.2 hrecord]

/-! ## An object by its key -/

/-- **The key of every menu is a field of text.** -/
theorem exists_key_of_known (known : m ∈ catalog) :
    ∃ d ∈ descriptors m.fields, d.wire = m.key ∧ d.coercion = .text := by
  have hall : ∀ m ∈ catalog, ∃ d ∈ descriptors m.fields, d.wire = m.key ∧ d.coercion = .text := by
    decide +kernel
  exact hall m known

/-- A record that has what another one is written as has the same key, if that has one. -/
theorem keyOf_eq_of_entries (known : m ∈ catalog) {r r' : Record m} (keyed : m.keyOf r ≠ "")
    (kept : ∀ entry ∈ r.entries, Cells.isSet entry = true → entry.1.wire = m.key →
      entry ∈ r'.entries) : m.keyOf r' = m.keyOf r := by
  have hunambiguous := (addressable_of_known (List.mem_append_right samples known)).unambiguous
  obtain ⟨d, hd, hwire, htext⟩ := exists_key_of_known known
  have hentry := Cells.mem_entries_textOf (r := r) hunambiguous hd htext
  have hset : Cells.isSet (d, Value.text (r.textOf d.wire)) = true := by
    have hne : r.textOf d.wire ≠ "" := by rwa [hwire]
    simp [Cells.isSet, Value.isZero, hne]
  have htextOf := Cells.textOf_of_mem hunambiguous (kept _ hentry hset hwire)
  rw [keyOf, keyOf, ← hwire, htextOf]

/-- An object with a key is found if a row describes it. -/
theorem run_find {key : String} {row done : Sentence} {r : Record m}
    (answered : (call (m.printWhere key) s).1 = .ok ⟨[row], done⟩)
    (read : Cells.ofRow row m.fields = .ok r) (keyed : m.keyOf r ≠ "") :
    ((m.find key).run call s).1 = .ok r := by
  have hcall : call ((Command.mk (m.verb "print") []).query m.key key) s
      = (.ok ⟨[row], done⟩, (call (m.printWhere key) s).2) := Prod.ext answered rfl
  have hnonempty : ¬ (m.keyOf r).isEmpty = true := fun h => keyed (String.isEmpty_iff.1 h)
  simp only [find, Dialogue.run, hcall, found, Cells.ofReply, read, if_neg hnonempty]

/-! ## A new object -/

/-- **What was added is returned as it is stored.** For every menu there is, every record without
negative durations, and every id that is not empty: if the device accepts the record, and assigns
the id if the menu knows its objects by it, and then describes the object by what the record was
written as, with the id and in any order, among keys of no field, then the result is the record with
that id, and with every other field as it was. -/
theorem add_returns_stored {m : Menu} (known : m ∈ catalog) {r : Record m} (forward : r.Forward)
    (named : m.key ≠ idWire → m.keyOf r ≠ "") {id : String} (assigned : id ≠ "")
    {call : Gateway σ} {s s' : σ} {created : Reply}
    (accepted : call (r.marshal (m.verb "add")) s = (.ok created, s'))
    (returned : m.key = idWire → created.ret? = some id)
    {row done : Sentence} {extra : List (String × String)}
    (foreign : ∀ pair ∈ extra, Unclaimed m.fields pair.1)
    (stored : row.pairs.Perm
      (Sentence.put idWire id (r.marshal (m.verb "add")).assignments ++ extra))
    (answered : (call (m.printWhere (if m.key = idWire then id else m.keyOf r)) s').1
      = .ok ⟨[row], done⟩) :
    ((m.add r).run call s).1 = .ok (r.withText idWire id)
      ∧ (r.withText idWire id).entries
        = r.entries.map fun entry =>
            if entry.1.wire = idWire then (entry.1, .text id) else entry := by
  have haddressable := addressable_of_known (List.mem_append_right samples known)
  have hunambiguous := haddressable.unambiguous
  obtain ⟨d, hd, hwire, htext⟩ := haddressable.identified
  have hentries := Cells.entries_withText hunambiguous hd htext r id
  have hforward := Cells.forward_withText hunambiguous hd htext forward id
  have hpairs : ∀ pair,
      pair ∈ (r.withText d.wire id).pairs ↔ pair ∈ Sentence.put d.wire id r.pairs :=
    fun _ => Cells.mem_pairs_withText hunambiguous hd htext assigned
  rw [haddressable.assignments_marshal, ← hwire] at stored
  rw [← hwire]
  refine ⟨?_, hentries⟩
  -- the row tells of the record with its id
  have htold : (r.withText d.wire id).ToldBy row :=
    { held := fun pair hp =>
        stored.mem_iff.2 (List.mem_append_left _ ((hpairs pair).1 hp))
      foreign := fun pair hp =>
        (List.mem_append.1 (stored.mem_iff.1 hp)).imp (hpairs pair).2 (foreign pair) }
  have hread : Cells.ofRow row m.fields = .ok (r.withText d.wire id) := by
    rw [Cells.ofRow_of_told hunambiguous htold,
      Cells.carried_of_forward (carries_of_known known) hforward]
  have hkey : m.newKey? r created = some (if m.key = idWire then id else m.keyOf r) := by
    unfold newKey?
    split
    · next he => exact returned he
    · rfl
  have hkeyed : m.keyOf (r.withText d.wire id) ≠ "" := by
    by_cases he : m.key = idWire
    · have hid : (d, Value.text id) ∈ (r.withText d.wire id).entries := by
        rw [hentries]
        exact List.mem_map.2 ⟨_, Cells.mem_entries_textOf hunambiguous hd htext, if_pos rfl⟩
      rw [keyOf, he, ← hwire, Cells.textOf_of_mem hunambiguous hid]
      exact assigned
    · -- the name is in another field than the id
      rw [keyOf_eq_of_entries known (named he) fun entry hentry _ hkey => ?_]
      · exact named he
      · rw [hentries]
        exact List.mem_map.2 ⟨entry, hentry, if_neg (by rw [hkey, hwire]; exact he)⟩
  simp only [add, Dialogue.run, accepted, hkey]
  exact run_find answered hread hkeyed

/-- A gateway that accepts every command and has its answers prepared. -/
def prepared : Gateway (List Reply)
  | _, [] => (.error (.fatal "gone"), [])
  | _, reply :: replies => (.ok reply, replies)

/-- A port of a bridge. -/
def plugged (id : String) : Record bridgePort :=
  .cons id (.cons "bridge1" (.cons "ether2" (.cons "" (.cons "" (.cons false (.cons true
    (.cons false (.cons false (.cons true (.cons false (.cons false (.cons false (.cons true
      (.cons ⟨128, by decide, by decide⟩ (.cons .zero (.cons .zero (.cons "" (.cons ""
        (.cons false (.cons "=.id=*2\n" .nil))))))))))))))))))))

/-- How the device describes the port that it has put in. -/
def pluggedRow : Sentence :=
  ⟨[("status", "in-bridge"), ("comment", "=.id=*2\n"), (".id", "*7"), ("disabled", "no"),
    ("priority", "128"), ("bpdu-guard", "yes"), ("restricted-tcn", "no"), ("restricted-role", "no"),
    ("auto-isolate", "no"), ("hw", "yes"), ("trusted", "no"), ("broadcast-flood", "no"),
    ("unknown-unicast-flood", "yes"), ("unknown-multicast-flood", "no"), ("hw-offload", "yes"),
    ("interface", "ether2"), ("bridge", "bridge1")]⟩

/-- The id that the record came with is replaced, and the words of its comment stay there. -/
theorem add_returns_stored_plugged :
    bridgePort ∈ catalog ∧ (plugged "*1").Forward ∧ (bridgePort.key ≠ idWire →
        bridgePort.keyOf (plugged "*1") ≠ "")
      ∧ pluggedRow.pairs.Perm
        (Sentence.put idWire "*7" ((plugged "*1").marshal (bridgePort.verb "add")).assignments
          ++ [("status", "in-bridge"), ("hw-offload", "yes")])
      ∧ (∀ pair ∈ [("status", "in-bridge"), ("hw-offload", "yes")],
        Unclaimed bridgePort.fields pair.1)
      ∧ ((bridgePort.add (plugged "*1")).run prepared
          [⟨[], ⟨[("ret", "*7")]⟩⟩, ⟨[pluggedRow], {}⟩]).1 = .ok (plugged "*7") := by
  have hknown : bridgePort ∈ catalog := by decide
  have hforward : (plugged "*1").Forward := by decide
  have hnamed : bridgePort.key ≠ idWire → bridgePort.keyOf (plugged "*1") ≠ "" :=
    fun h => absurd rfl h
  have hassigned : "*7" ≠ "" := by decide
  have hstored : pluggedRow.pairs.Perm
      (Sentence.put idWire "*7" ((plugged "*1").marshal (bridgePort.verb "add")).assignments
        ++ [("status", "in-bridge"), ("hw-offload", "yes")]) := by
    decide +kernel
  have hforeign : ∀ pair ∈ [("status", "in-bridge"), ("hw-offload", "yes")],
      Unclaimed bridgePort.fields pair.1 := by
    decide +kernel
  exact ⟨hknown, hforward, hnamed, hstored, hforeign,
    And.left (add_returns_stored hknown hforward hnamed hassigned rfl (fun _ => rfl) hforeign
      hstored rfl)⟩

/-! ## An object that was changed -/

/-- **A change is laid over what was there.** For every menu there is, every record with a key and
without negative durations, and every row that describes a record: if the device accepts the
change, and then describes the object by that row with the attributes of the change put into it,
then the result has every flag of the new record, everything else of it that is not zero, and
otherwise what the old one had. -/
theorem update_overlays {m : Menu} (known : m ∈ catalog) {r : Record m} (keyed : m.keyOf r ≠ "")
    (forward : r.Forward) {old : Sentence} {o : Record m} (read : Cells.ofRow old m.fields = .ok o)
    {call : Gateway σ} {s s' : σ} {changed : Reply} {done : Sentence}
    (accepted : call (m.setCommand r) s = (.ok changed, s'))
    (answered : (call (m.printWhere (m.keyOf r)) s').1
      = .ok ⟨[old.insertAll ((m.setCommand r).assignments.filter fun pair => pair.1 ≠ "numbers")],
          done⟩) :
    ((m.update r).run call s).1 = .ok (r.overlay o)
      ∧ (r.overlay o).entries
        = List.zipWith (fun new kept => if Cells.isSet new then new else kept)
            r.entries o.entries := by
  have haddressable := addressable_of_known (List.mem_append_right samples known)
  have hcarries := carries_of_known known
  -- without the selector, what the command assigns is what the record encodes
  rw [haddressable.filter_assignments] at answered
  have hread : Cells.ofRow (old.insertAll r.pairs) m.fields = .ok (r.overlay o) :=
    Cells.ofRow_overlay hcarries forward read fun _ he =>
      Cells.find?_insertAll haddressable.unambiguous he old
  -- the key was sent as set, so the merged record has it too and is found by it
  have hkey : m.keyOf (r.overlay o) = m.keyOf r :=
    keyOf_eq_of_entries known keyed fun _ he hset _ =>
      Cells.mem_entries_overlay hcarries he hset
  have hnonempty : ¬ (m.keyOf r).isEmpty = true := fun h => keyed (String.isEmpty_iff.1 h)
  refine ⟨?_, Cells.entries_overlay hcarries r o⟩
  simp only [update, if_neg hnonempty, Dialogue.run, accepted]
  exact run_find answered hread (hkey ▸ keyed)

/-- A task that runs at an interval, unless it is disabled. -/
def task (id name event date time : String) (interval : Whole .i64) (disabled : Bool)
    (comment : String) : Record scheduler :=
  .cons id (.cons name (.cons event (.cons date (.cons time (.cons interval (.cons disabled
    (.cons comment .nil)))))))

/-- A task as a device might keep it: with names and a flag in other cases, a duration in units,
and a name that is no field. -/
def taskRow : Sentence :=
  ⟨[(".id", "*3"), ("NAME", "nightly"), ("On_Event", "backup"), ("start-date", "jan/01"),
    ("INTERVAL", "1h30m"), ("disabled", "TRUE"), ("run-count", "12"), ("comment", "mine")]⟩

/-- The event, the time and the flag are changed, and all else stays. -/
theorem update_overlays_task :
    scheduler ∈ catalog
      ∧ scheduler.keyOf (task "" "nightly" "=x\n" "" "04:00" .zero false "") ≠ ""
      ∧ (task "" "nightly" "=x\n" "" "04:00" .zero false "").Forward
      ∧ Cells.ofRow taskRow scheduler.fields
        = .ok (task "*3" "nightly" "backup" "jan/01" "" ⟨5400, by decide, by decide⟩ true "mine")
      ∧ ((scheduler.update (task "" "nightly" "=x\n" "" "04:00" .zero false "")).run prepared
          [{}, ⟨[taskRow.insertAll [("name", "nightly"), ("on-event", "=x\n"),
            ("start-time", "04:00"), ("disabled", "no")]], {}⟩]).1
        = .ok (task "*3" "nightly" "=x\n" "jan/01" "04:00" ⟨5400, by decide, by decide⟩ false
            "mine") := by
  have hknown : scheduler ∈ catalog := by decide
  have hkeyed : scheduler.keyOf (task "" "nightly" "=x\n" "" "04:00" .zero false "") ≠ "" := by
    decide
  have hforward : (task "" "nightly" "=x\n" "" "04:00" .zero false "").Forward := by decide
  have hread : Cells.ofRow taskRow scheduler.fields = .ok
      (task "*3" "nightly" "backup" "jan/01" "" ⟨5400, by decide, by decide⟩ true "mine") := by
    decide +kernel
  have hassigned : ((scheduler.setCommand (task "" "nightly" "=x\n" "" "04:00" .zero false
      "")).assignments.filter fun pair => pair.1 ≠ "numbers")
        = [("name", "nightly"), ("on-event", "=x\n"), ("start-time", "04:00"),
          ("disabled", "no")] := by
    decide +kernel
  exact ⟨hknown, hkeyed, hforward, hread,
    And.left (update_overlays hknown hkeyed hforward hread rfl (by rw [hassigned]; rfl))⟩

end RouterMenu.Menu
