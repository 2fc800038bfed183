import RouterMenu.Gateway.Address
import RouterMenu.Proofs.Text.Numeral

/-!
# Addresses are split where they were put together

There are three ways to write an address, and a host and a port come back from each: `host:port`,
if the host has no colon and no bracket in front; `[host]:port`, if the host has no closing bracket,
so with all of its colons; and the host alone, in brackets or not, for the default port. Without
brackets a host alone has no colon or several of them, since a single one stands before a port.

Whatever an address looks like, no port is made up. The port is the default, or its digits are what
stands behind the last colon (`PortWritten`). A bracket that is not closed opens nothing, and such
an address is split like any other; what stands between the closing bracket and a colon is lost, and
the port with it.
-/

namespace RouterMenu.Address

open Text

variable {host digits address : List Char} {port : Nat} (default : Nat)

/-- The port is the number that is written behind the last colon. -/
def PortWritten (address : List Char) (port : Nat) : Prop :=
  ∃ before digits, address = before ++ ':' :: digits ∧ ':' ∉ digits ∧ Counts maxPort digits port

/-- A host in brackets. -/
def bracketed (host : String) : String := "[" ++ host ++ "]"

/-- A port that can be read is written without a colon. -/
theorem not_mem_of_port? (h : port? digits = some port) : ':' ∉ digits :=
  (natUpTo?_eq_some_iff.1 h).not_mem (by decide) (by decide)

theorem portWritten_of_port? (h : port? digits = some port) (before : List Char) :
    PortWritten (before ++ ':' :: digits) port :=
  ⟨before, digits, rfl, not_mem_of_port? h, natUpTo?_eq_some_iff.1 h⟩

/-! ## Without brackets -/

/-- A host without a colon is split off a port. -/
theorem splitPlain_port (plain : ':' ∉ host) (h : port? digits = some port) :
    splitPlain (host ++ ':' :: digits) default = (host, port) := by
  have hcut : cutLast ':' (host ++ ':' :: digits) = some (host, digits) :=
    cutLast_eq_some_iff.2 ⟨rfl, not_mem_of_port? h⟩
  have hcontains : host.contains ':' = false := by simpa using plain
  simp only [splitPlain, hcut, hcontains, h]
  simp

/-- An address is whole unless it has exactly one colon. -/
theorem splitPlain_whole (h : address.count ':' = 0 ∨ 2 ≤ address.count ':') :
    splitPlain address default = (address, default) := by
  unfold splitPlain
  split
  · next before after hcut =>
    obtain ⟨rfl, hnot⟩ := cutLast_eq_some_iff.1 hcut
    -- the other colons stand before the last one
    have hbefore : before.contains ':' = true := by
      rw [List.count_append, List.count_cons_self, List.count_eq_zero.2 hnot] at h
      have hpos : 0 < before.count ':' := by omega
      simpa using List.count_pos_iff.1 hpos
    rw [if_pos hbefore]
  · rfl

theorem snd_splitPlain (address : List Char) :
    (splitPlain address default).2 = default
      ∨ PortWritten address (splitPlain address default).2 := by
  unfold splitPlain
  split
  · next before digits hcut =>
    obtain ⟨rfl, -⟩ := cutLast_eq_some_iff.1 hcut
    split
    · exact .inl rfl
    · split
      · next port hport => exact .inr (portWritten_of_port? hport before)
      · exact .inl rfl
  · exact .inl rfl

/-! ## With brackets -/

/-- An address without a bracket in front is split at its colon. -/
theorem splitChars_plain (h : address.head? ≠ some '[') :
    splitChars address default = splitPlain address default := by
  unfold splitChars
  split
  · simp at h
  · rfl

/-- **A host in brackets keeps its colons**, and a port may follow it. -/
theorem splitChars_bracketed (closed : ']' ∉ host) :
    (∀ digits port, port? digits = some port →
        splitChars ('[' :: (host ++ ']' :: ':' :: digits)) default = (host, port))
      ∧ splitChars ('[' :: (host ++ [']'])) default = (host, default) := by
  refine ⟨fun digits port h => ?_, ?_⟩
  · simp only [splitChars, cut_append closed, h]
    rfl
  · simp only [splitChars, cut_append closed]

theorem snd_splitChars (address : List Char) :
    (splitChars address default).2 = default
      ∨ PortWritten address (splitChars address default).2 := by
  -- only brackets around the host keep its own colons from being taken for that of the port
  unfold splitChars
  split
  · next rest =>
    split
    · next host digits hcut =>
      obtain ⟨rfl, -⟩ := cut_eq_some_iff.1 hcut
      cases hport : port? digits with
      | none => exact .inl rfl
      | some port =>
        have hwritten := portWritten_of_port? hport ('[' :: (host ++ [']']))
        exact .inr (by simpa using hwritten)
    · exact .inl rfl
    · exact snd_splitPlain default _
  · exact snd_splitPlain default _

/-! ## What was written -/

theorem split_of_chars {address host : String} {default : Nat}
    (h : splitChars address.toList default = (host.toList, port)) :
    split address default = ⟨host, port⟩ := by
  simp only [split, h, String.ofList_toList]

/-- **Splitting undoes writing.** A host and a port come back from the address they were written
as, with brackets and without, and a host alone comes back with the default port. Of no address
whatsoever is the port another than the default or the one that is written behind its last colon. -/
theorem split_written {port : Nat} (fits : port ≤ maxPort) (default : Nat) (host : String) :
    (':' ∉ host.toList → host.toList.head? ≠ some '[' →
        split (Endpoint.text ⟨host, port⟩) default = ⟨host, port⟩)
      ∧ (']' ∉ host.toList →
        split (Endpoint.text ⟨bracketed host, port⟩) default = ⟨host, port⟩
          ∧ split (bracketed host) default = ⟨host, default⟩)
      ∧ (host.toList.head? ≠ some '[' → host.toList.count ':' = 0 ∨ 2 ≤ host.toList.count ':' →
        split host default = ⟨host, default⟩)
      ∧ ∀ address, (split address default).port = default
        ∨ PortWritten address.toList (split address default).port := by
  have hport : port? (ofNat port) = some port := natUpTo?_ofNat fits
  refine ⟨fun plain unbracketed => split_of_chars ?_,
    fun closed => ⟨split_of_chars ?_, split_of_chars ?_⟩,
    fun unbracketed colons => split_of_chars ?_,
    fun address => snd_splitChars default address.toList⟩
  · -- without a bracket in front the text is cut at its one colon
    have htext : (Endpoint.text ⟨host, port⟩).toList = host.toList ++ ':' :: ofNat port := by
      simp [Endpoint.text]
    have hhead : (host.toList ++ ':' :: ofNat port).head? ≠ some '[' := by
      cases hlist : host.toList with
      | nil => simp
      | cons c rest => simpa [hlist] using unbracketed
    rw [htext, splitChars_plain default hhead, splitPlain_port default plain hport]
  · have htext : (Endpoint.text ⟨bracketed host, port⟩).toList
        = '[' :: (host.toList ++ ']' :: ':' :: ofNat port) := by
      simp [Endpoint.text, bracketed]
    rw [htext, (splitChars_bracketed default closed).1 _ _ hport]
  · have htext : (bracketed host).toList = '[' :: (host.toList ++ [']']) := by simp [bracketed]
    rw [htext, (splitChars_bracketed default closed).2]
  · rw [splitChars_plain default unbracketed, splitPlain_whole default colons]

/-- A host with colons, in brackets before the greatest port and without brackets. -/
theorem split_written_colons :
    65535 ≤ maxPort ∧ split (Endpoint.text ⟨bracketed "fe80::1", 65535⟩) 8728 = ⟨"fe80::1", 65535⟩
      ∧ split "fe80::1" 8728 = ⟨"fe80::1", 8728⟩ := by
  have hfits : 65535 ≤ maxPort := by decide
  obtain ⟨-, hbracketed, hbare, -⟩ := split_written hfits 8728 "fe80::1"
  exact ⟨hfits, (hbracketed (by decide)).1, hbare (by decide) (.inr (by decide))⟩

example : split "[router:80" 8728 = ⟨"[router", 80⟩ ∧ split "[::1]x:80" 8728 = ⟨"::1", 8728⟩
    ∧ split "router:65536" 8728 = ⟨"router:65536", 8728⟩ := by
  decide +kernel

end RouterMenu.Address
