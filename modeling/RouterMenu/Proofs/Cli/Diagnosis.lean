import Mathlib.Data.List.Infix
import RouterMenu.Cli.Failure

/-!
# What a user is told when a call fails

A failed call is sorted twice, into the classes that users of the menus meet and from there into
those of the command line. The first sorting files a stream that could not be made secure among the
failed connections, and the second finds it there by how its reason begins. All other classes are
kept whatever the texts are (`Failure.Keeps`), and these two as well unless a dial failed for a
reason that begins like the other (`told_as_is_iff`). In that case a user is advised to accept any
certificate where none has been seen (`dial_told_as_tls`).
-/

namespace RouterMenu

/-- A dial failed for a reason that reads like one of a stream that could not be made secure. -/
def GatewayError.ReadsAsTls (e : GatewayError) : Prop :=
  ∃ address reason, e = .connect address reason ∧ Failure.tlsStart.toList <+: reason.toList

namespace Failure

/-- What a user is told of a failed call. -/
def ofGateway (e : GatewayError) : Failure := ofClient (.ofGateway e)

/-! ## Failed connections -/

theorem ofClient_of_starts {reason : String} (h : tlsStart.toList <+: reason.toList)
    (address : String) : ofClient (.connectionFailed address reason) = .tlsError reason := by
  rw [ofClient, if_pos (List.isPrefixOf_iff_prefix.2 h)]

theorem ofClient_of_not_starts {reason : String} (h : ¬ tlsStart.toList <+: reason.toList)
    (address : String) :
    ofClient (.connectionFailed address reason) = .connectionFailed address reason := by
  rw [ofClient, if_neg fun hp => h (List.isPrefixOf_iff_prefix.1 hp)]

/-- A stream that could not be made secure is always found again. -/
theorem ofGateway_tls (reason : String) :
    ofGateway (.tls reason) = .tlsError ("TLS error: " ++ reason) := by
  refine ofClient_of_starts ?_ ""
  rw [String.toList_append]
  exact List.IsPrefix.trans (by decide) (List.prefix_append _ _)

/-- A failed dial is told as what it is, or as a stream that could not be made secure. -/
theorem ofGateway_connect (address reason : String) :
    ofGateway (.connect address reason) = .connectionFailed address reason
        ∧ ¬ tlsStart.toList <+: reason.toList
      ∨ ofGateway (.connect address reason) = .tlsError reason
        ∧ tlsStart.toList <+: reason.toList := by
  by_cases h : tlsStart.toList <+: reason.toList
  · exact .inr ⟨ofClient_of_starts h address, h⟩
  · exact .inl ⟨ofClient_of_not_starts h address, h⟩

theorem ofGateway_eq_connectionFailed_iff {e : GatewayError} {address reason : String} :
    ofGateway e = .connectionFailed address reason
      ↔ e = .connect address reason ∧ ¬ tlsStart.toList <+: reason.toList := by
  -- only a failed connection is told as one, unless its reason reads like that of TLS
  cases e with
  | tls source => simp [ofGateway_tls]
  | connect address' reason' =>
    obtain ⟨htold, hp⟩ | ⟨htold, hp⟩ := ofGateway_connect address' reason'
    · rw [htold, connectionFailed.injEq, GatewayError.connect.injEq]
      exact ⟨fun he => ⟨he, he.2 ▸ hp⟩, And.left⟩
    · rw [htold]
      constructor
      · intro h
        cases h
      · rintro ⟨h, hother⟩
        cases h
        exact absurd hp hother
  | _ => simp [ofGateway, ofClient, ClientError.ofGateway, ClientError.ofDecode]

theorem ofGateway_eq_tlsError_iff {e : GatewayError} {reason : String} :
    ofGateway e = .tlsError reason
      ↔ (∃ source, e = .tls source ∧ "TLS error: " ++ source = reason)
        ∨ ∃ address, e = .connect address reason ∧ tlsStart.toList <+: reason.toList := by
  -- two kinds can be told so: a failure of TLS, and a connection whose reason reads like it
  cases e with
  | tls source => simp [ofGateway_tls]
  | connect address reason' =>
    obtain ⟨htold, hp⟩ | ⟨htold, hp⟩ := ofGateway_connect address reason'
    · rw [htold]
      constructor
      · intro h
        cases h
      · rintro (⟨_, h, -⟩ | ⟨_, h, hother⟩)
        · cases h
        · cases h
          exact absurd hother hp
    · rw [htold]
      constructor
      · intro h
        cases h
        exact .inr ⟨address, rfl, hp⟩
      · rintro (⟨_, h, -⟩ | ⟨_, h, -⟩)
        · cases h
        · cases h
          rfl
  | _ => simp [ofGateway, ofClient, ClientError.ofGateway, ClientError.ofDecode]

/-! ## The classes that no text can change -/

/-- The failure has the class and the texts of the error, as far as the class is another than that
of a failed connection. -/
structure Keeps (f : Failure) (e : GatewayError) : Prop where
  disconnected : ∀ reason, f = .disconnected reason
    ↔ (∃ fault, e = .stream fault ∧ fault.message = reason) ∨ e = .fatal reason
  authentication : ∀ message, f = .authFailed message ↔ e = .authentication message
  timeout : ∀ seconds, f = .timeout seconds ↔ e = .timeout seconds
  rejected : ∀ message, f = .rejected message ↔ ∃ trap, e = .device trap ∧ trap.message = message
  decode : ∀ message, f = .decode message
    ↔ ∃ source, e = .decode source ∧ source.message = message
  internal : ∀ message, f = .internal message
    ↔ ∃ fault, e = .protocol fault ∧ "Protocol error: " ++ fault.message = message
  found : ∀ kind key listCommand, f ≠ .notFound kind key listCommand

theorem keeps_ofGateway (e : GatewayError) : (ofGateway e).Keeps e := by
  cases e with
  | tls reason =>
    rw [ofGateway_tls]
    constructor <;> simp
  | connect address reason =>
    obtain ⟨htold, -⟩ | ⟨htold, -⟩ := ofGateway_connect address reason
    · rw [htold]
      constructor <;> simp
    · rw [htold]
      constructor <;> simp
  | _ => constructor <;> simp [ofGateway, ofClient, ClientError.ofGateway, ClientError.ofDecode]

/-! ## The advice to waive certificates -/

/-- The help names the option that accepts any certificate. -/
def SuggestsWaiver (f : Failure) : Prop :=
  ∃ help, f.help? = some help ∧ "--insecure".toList <:+: help.toList

theorem suggestsWaiver_tlsError (reason : String) : (tlsError reason).SuggestsWaiver :=
  ⟨_, rfl, by decide +kernel⟩

theorem not_suggestsWaiver_of_help {f : Failure} {help : String} (h : f.help? = some help)
    (other : ¬ "--insecure".toList <:+: help.toList) : ¬ f.SuggestsWaiver := by
  rintro ⟨_, hhelp, hnamed⟩
  rw [h, Option.some.injEq] at hhelp
  exact other (hhelp ▸ hnamed)

theorem not_suggestsWaiver_of_silent {f : Failure} (h : f.help? = none) : ¬ f.SuggestsWaiver := by
  rintro ⟨_, hhelp, -⟩
  rw [h] at hhelp
  cases hhelp

/-- **Only who is told of a stream that could not be made secure** is advised to waive
certificates. -/
theorem suggestsWaiver_ofGateway_iff (e : GatewayError) :
    (ofGateway e).SuggestsWaiver ↔ ∃ reason, ofGateway e = .tlsError reason := by
  constructor
  · intro h
    -- every other kind has a help of its own, or none
    cases e with
    | tls reason => exact ⟨_, ofGateway_tls reason⟩
    | connect address reason =>
      obtain ⟨htold, -⟩ | ⟨htold, -⟩ := ofGateway_connect address reason
      · rw [htold] at h
        exact absurd h (not_suggestsWaiver_of_help rfl (by decide +kernel))
      · exact ⟨reason, htold⟩
    | authentication message =>
      exact absurd h (not_suggestsWaiver_of_help rfl (by decide +kernel))
    | timeout seconds => exact absurd h (not_suggestsWaiver_of_help rfl (by decide +kernel))
    | stream fault => exact absurd h (not_suggestsWaiver_of_silent rfl)
    | protocol fault => exact absurd h (not_suggestsWaiver_of_silent rfl)
    | device trap => exact absurd h (not_suggestsWaiver_of_silent rfl)
    | fatal reason => exact absurd h (not_suggestsWaiver_of_silent rfl)
    | decode source => exact absurd h (not_suggestsWaiver_of_silent rfl)
  · rintro ⟨reason, htold⟩
    rw [htold]
    exact suggestsWaiver_tlsError reason

/-! ## The class of a failed call -/

/-- The failure has the class and the texts of the error, and it comes with the advice to waive
certificates exactly if a stream could not be made secure. -/
structure Tells (f : Failure) (e : GatewayError) : Prop extends f.Keeps e where
  tls : ∀ reason, f = .tlsError reason
    ↔ ∃ source, e = .tls source ∧ "TLS error: " ++ source = reason
  connection : ∀ address reason, f = .connectionFailed address reason ↔ e = .connect address reason
  waiver : f.SuggestsWaiver ↔ ∃ reason, e = .tls reason

/-- **A user is told of a failed call as what it is,** class and texts, unless a dial failed for a
reason that begins like that of a stream that could not be made secure. All classes but these two
are told as they are in any case, and none is told as an object that does not exist. -/
theorem told_as_is_iff (e : GatewayError) :
    (ofGateway e).Keeps e ∧ ((ofGateway e).Tells e ↔ ¬ e.ReadsAsTls) := by
  have hkeeps := keeps_ofGateway e
  refine ⟨hkeeps, fun htells => ?_, fun hplain => ?_⟩
  · -- a reason that reads like TLS takes the connection its own kind
    rintro ⟨address, reason, he, hp⟩
    exact (ofGateway_eq_connectionFailed_iff.1 ((htells.connection address reason).2 he)).2 hp
  · -- without such a reason only a failure of TLS is told as one
    have htls (reason : String) : ofGateway e = .tlsError reason
        ↔ ∃ source, e = .tls source ∧ "TLS error: " ++ source = reason := by
      rw [ofGateway_eq_tlsError_iff, or_iff_left]
      rintro ⟨address, he, hp⟩
      exact hplain ⟨address, reason, he, hp⟩
    refine ⟨hkeeps, htls, fun address reason => ?_, ?_⟩
    · rw [ofGateway_eq_connectionFailed_iff, and_iff_left_of_imp]
      exact fun he hp => hplain ⟨address, reason, he, hp⟩
    · rw [suggestsWaiver_ofGateway_iff]
      constructor
      · rintro ⟨reason, htold⟩
        obtain ⟨source, he, -⟩ := (htls reason).1 htold
        exact ⟨source, he⟩
      · rintro ⟨source, he⟩
        exact ⟨_, (htls _).2 ⟨source, he, rfl⟩⟩

/-- A dial that failed for a reason which begins like that of another class. -/
def disguisedDial : GatewayError := .connect "10.0.0.1:8728" "TLS error: reset by peer"

/-- **A failed dial can be told as a failure of security,** with the advice to accept any
certificate. -/
theorem dial_told_as_tls :
    ofGateway disguisedDial = .tlsError "TLS error: reset by peer"
      ∧ (ofGateway disguisedDial).SuggestsWaiver
      ∧ ¬ ∀ e : GatewayError,
        (∃ reason, ofGateway e = .tlsError reason) ↔ ∃ reason, e = .tls reason := by
  have htold : ofGateway disguisedDial = .tlsError "TLS error: reset by peer" :=
    ofClient_of_starts (by decide) _
  refine ⟨htold, ?_, fun hclass => ?_⟩
  · rw [htold]
    exact suggestsWaiver_tlsError _
  · obtain ⟨_, h⟩ := (hclass _).1 ⟨_, htold⟩
    cases h

end Failure

end RouterMenu
