import RouterMenu.Proofs.Record.Quantities
import RouterMenu.Proofs.Record.Scalar

/-!
# What a text is read as a duration

The first `d` divides a text. Before it stands the count of days, and only there can a text be
wrong; behind it stands a clock, which is read as well as possible. A text without a `d` is never
wrong: its digits are seconds, and anything else is a clock.

A clock is written in one of three forms (`Clock`), and no text is written in two, so it shows at
most one number of seconds (`clock?_eq_some_iff`). It counts if that number stays within a day, and
as zero otherwise (`clock_eq_iff`). Digits alone are a clock behind a `d` and seconds without one,
and so have different bounds in the two places. All this together is `decode_rules`.

The three numbers between colons are added up in 64 bits. A clock of so many hours that this is
not enough shows what is left of the sum, which may again stay within a day (`Clock.wraps`).
-/

namespace RouterMenu.Duration

open Text

/-! ## Clocks -/

/-- The forms of a clock, with the seconds that it shows. -/
inductive Clock : List Char → Nat → Prop where
  /-- Three numbers of 64 bits between colons; minutes and seconds are below sixty, and 64 bits
  hold all of it in seconds. -/
  | colons {hours minutes seconds : List Char} {h m s : Nat} (hour : Counts maxU64 hours h)
      (minute : Counts maxU64 minutes m) (second : Counts maxU64 seconds s) (minute_lt : m < 60)
      (second_lt : s < 60) (fits : h * 3600 + m * 60 + s ≤ maxU64) :
      Clock (hours ++ ':' :: (minutes ++ ':' :: seconds)) (h * 3600 + m * 60 + s)
  /-- As many hours again as 64 bits cannot hold in seconds. -/
  | wraps {hours minutes seconds : List Char} {h m s : Nat} (hour : Counts maxU64 hours h)
      (minute : Counts maxU64 minutes m) (second : Counts maxU64 seconds s) (minute_lt : m < 60)
      (second_lt : s < 60) (overflows : maxU64 < h * 3600 + m * 60 + s) :
      Clock (hours ++ ':' :: (minutes ++ ':' :: seconds))
        ((h * 3600 + m * 60 + s) % (maxU64 + 1))
  /-- Digits alone, for a number of 64 bits. -/
  | digits {s : List Char} (numeral : isNumeral s = true) (fits : numberOf s ≤ maxU64) :
      Clock s (numberOf s)
  /-- Quantities with their units. -/
  | units {s : List Char} {total : Span} (together : Together s total) : Clock s total.seconds

variable {s : List Char} {n : Nat}

theorem wrap_of_le (h : n ≤ maxU64) : wrap n = n := Nat.mod_eq_of_lt (Nat.lt_succ_of_le h)

theorem hms?_eq_some_iff :
    hms? s = some n ↔ ∃ hours minutes seconds h m x,
      s = hours ++ ':' :: (minutes ++ ':' :: seconds) ∧ Counts maxU64 hours h
        ∧ Counts maxU64 minutes m ∧ Counts maxU64 seconds x ∧ m < 60 ∧ x < 60
        ∧ n = wrap (h * 3600 + m * 60 + x) := by
  constructor
  · intro hread
    unfold hms? at hread
    split at hread
    · -- three pieces put the two colons where they stand, and the last piece has none
      next hours minutes seconds hpieces =>
      obtain ⟨rest, rfl, -, hrest⟩ := pieces_eq_cons_iff.1 hpieces
      obtain ⟨last, rfl, -, hlast⟩ := pieces_eq_cons_iff.1 hrest
      obtain ⟨rfl, -⟩ := pieces_eq_singleton_iff.1 hlast
      obtain ⟨h, hh, hread⟩ := Option.bind_eq_some_iff.1 hread
      obtain ⟨m, hm, hread⟩ := Option.bind_eq_some_iff.1 hread
      obtain ⟨x, hx, hread⟩ := Option.bind_eq_some_iff.1 hread
      split at hread
      · next hlt =>
        cases hread
        exact ⟨hours, minutes, last, h, m, x, rfl, natUpTo?_eq_some_iff.1 hh,
          natUpTo?_eq_some_iff.1 hm, natUpTo?_eq_some_iff.1 hx, hlt.1, hlt.2, rfl⟩
      · simp at hread
    · simp at hread
  · rintro ⟨hours, minutes, seconds, h, m, x, rfl, hh, hm, hx, hmlt, hxlt, rfl⟩
    -- no number holds a colon, so the text falls into just these pieces
    have hcolon : ∀ {t : List Char} {k : Nat}, Counts maxU64 t k → ':' ∉ t :=
      fun hc => hc.not_mem (by decide) (by decide)
    have hlast : pieces ':' seconds = [seconds] := pieces_eq_singleton_iff.2 ⟨rfl, hcolon hx⟩
    have hrest : pieces ':' (minutes ++ ':' :: seconds) = [minutes, seconds] :=
      pieces_eq_cons_iff.2 ⟨seconds, rfl, hcolon hm, hlast⟩
    have hpieces : pieces ':' (hours ++ ':' :: (minutes ++ ':' :: seconds))
        = [hours, minutes, seconds] := pieces_eq_cons_iff.2 ⟨_, rfl, hcolon hh, hrest⟩
    simp only [hms?, hpieces, natUpTo?_eq_some_iff.2 hh, natUpTo?_eq_some_iff.2 hm,
      natUpTo?_eq_some_iff.2 hx, Option.bind_eq_bind, Option.bind_some]
    rw [if_pos ⟨hmlt, hxlt⟩]

/-- **A clock is read in the form that it is written in.** -/
theorem clock?_eq_some_iff : clock? s = some n ↔ Clock s n := by
  constructor
  · intro hread
    unfold clock? at hread
    split at hread
    · obtain ⟨hours, minutes, seconds, h, m, x, rfl, hh, hm, hx, hmlt, hxlt, rfl⟩ :=
        hms?_eq_some_iff.1 hread
      -- the one place where the two forms with colons part
      by_cases hfits : h * 3600 + m * 60 + x ≤ maxU64
      · rw [wrap_of_le hfits]
        exact .colons hh hm hx hmlt hxlt hfits
      · exact .wraps hh hm hx hmlt hxlt (Nat.lt_of_not_le hfits)
    · split at hread
      · next hnumeral =>
        rw [natUpTo?_of_isNumeral hnumeral] at hread
        split at hread
        · next hle =>
          cases hread
          exact .digits hnumeral hle
        · simp at hread
      · next hnumeral =>
        rcases units?_eq_some_iff.1 hread with ⟨rfl, -⟩ | ⟨total, htogether, rfl⟩
        · exact absurd rfl hnumeral
        · exact .units htogether
  · intro hclock
    -- each form is out of reach of the readers asked before its own
    cases hclock with
    | @colons hours minutes seconds h m x hh hm hx hmlt hxlt hfits =>
      have hcolon : (hours ++ ':' :: (minutes ++ ':' :: seconds)).contains ':' = true := by simp
      rw [clock?, if_pos hcolon]
      exact hms?_eq_some_iff.2
        ⟨_, _, _, _, _, _, rfl, hh, hm, hx, hmlt, hxlt, (wrap_of_le hfits).symm⟩
    | @wraps hours minutes seconds h m x hh hm hx hmlt hxlt =>
      have hcolon : (hours ++ ':' :: (minutes ++ ':' :: seconds)).contains ':' = true := by simp
      rw [clock?, if_pos hcolon]
      exact hms?_eq_some_iff.2 ⟨_, _, _, _, _, _, rfl, hh, hm, hx, hmlt, hxlt, rfl⟩
    | digits hnumeral hle =>
      have hcounts : Counts maxU64 s (numberOf s) := ⟨s, .inl rfl, hnumeral, rfl, hle⟩
      have hcolon : ':' ∉ s := hcounts.not_mem (by decide) (by decide)
      rw [clock?, if_neg (by simpa using hcolon), if_pos hnumeral]
      exact natUpTo?_eq_some_iff.2 hcounts
    | @units _ total htogether =>
      have hnumeral : ¬ isNumeral s = true := by simp [htogether.isNumeral]
      rw [clock?, if_neg (by simpa using htogether.not_mem_colon), if_neg hnumeral]
      exact units?_eq_some_iff.2 (.inr ⟨total, htogether, rfl⟩)

/-- The seconds that a clock counts for: those it shows if they stay within a day, and none if they
do not, or if it shows nothing. -/
def CountsFor (s : List Char) (n : Nat) : Prop :=
  Clock s n ∧ n ≤ maxClock ∨ n = 0 ∧ ∀ m, Clock s m → maxClock < m

/-- **A clock counts for what it shows**, if that stays within a day. -/
theorem clock_eq_iff : clock s = n ↔ CountsFor s n := by
  unfold clock CountsFor
  simp only [← clock?_eq_some_iff]
  cases clock? s with
  | none => simp [eq_comm]
  | some m =>
    by_cases hle : m ≤ maxClock
    · simp only [if_pos hle, Option.some.injEq, forall_eq', Nat.not_lt.2 hle, and_false, or_false]
      exact ⟨fun h => ⟨h, h ▸ hle⟩, fun h => h.1⟩
    · simp only [if_neg hle, Option.some.injEq, forall_eq', Nat.lt_of_not_le hle, and_true]
      constructor
      · exact fun h => .inr h.symm
      · rintro (⟨rfl, h⟩ | h)
        · exact absurd h hle
        · exact h.symm

/-- So many hours that 64 bits lose them: what is left of their seconds is less than a day. -/
example : clock "5124095576030432:00:00".toList = 3584 := by cbv

/-! ## Days -/

/-- The text before the first `d` and the text behind it. -/
def Divides (text : String) (days rest : List Char) : Prop :=
  text.toList = days ++ 'd' :: rest ∧ 'd' ∉ days

/-- A count of days: digits, and no more days than seconds can be counted. -/
def CountsDays (days : List Char) : Prop :=
  isNumeral days = true ∧ secondsPerDay * numberOf days ≤ maxSeconds

instance (days : List Char) : Decidable (CountsDays days) :=
  inferInstanceAs (Decidable (_ ∧ _))

theorem decode_of_divides {text : String} {days rest : List Char} (h : Divides text days rest) :
    decode text = if CountsDays days then
        .ok (min maxSeconds (secondsPerDay * numberOf days + clock rest))
      else .error (.dayCount text) := by
  have hcut : cut 'd' text.toList = some (days, rest) := cut_eq_some_iff.2 h
  simp only [decode, hcut]
  by_cases hnumeral : isNumeral days = true
  · -- the bound on the days is the bound on their seconds
    have hbound : numberOf days ≤ maxSeconds / secondsPerDay
        ↔ secondsPerDay * numberOf days ≤ maxSeconds := by
      rw [Nat.le_div_iff_mul_le (by decide), Nat.mul_comm]
    simp only [if_pos hnumeral, natUpTo?_of_isNumeral hnumeral, hbound]
    by_cases hfits : secondsPerDay * numberOf days ≤ maxSeconds
    · have hcounts : CountsDays days := ⟨hnumeral, hfits⟩
      simp only [if_pos hfits, if_pos hcounts, Nat.mul_comm]
    · have hnot : ¬ CountsDays days := fun hc => hfits hc.2
      simp only [if_neg hfits, if_neg hnot]
  · have hnot : ¬ CountsDays days := fun hc => hnumeral hc.1
    simp only [if_neg hnumeral, if_neg hnot]

theorem decode_of_undivided {text : String} (h : 'd' ∉ text.toList) :
    decode text = .ok (if isNumeral text.toList then
        if numberOf text.toList ≤ maxSeconds then numberOf text.toList else 0
      else clock text.toList) := by
  simp only [decode, cut_of_not_mem h]
  by_cases hnumeral : isNumeral text.toList = true
  · simp only [if_pos hnumeral, natUpTo?_of_isNumeral hnumeral]
    split <;> rfl
  · simp only [if_neg hnumeral]

/-- The same digits mean more than a day where no days stand before them. -/
example : decode "1d90000" = .ok 86400 ∧ decode "90000" = .ok 90000 := by
  constructor <;> cbv

theorem divides_or_undivided (text : String) :
    (∃ days rest, Divides text days rest) ∨ 'd' ∉ text.toList := by
  cases hcut : cut 'd' text.toList with
  | none => exact .inr (cut_eq_none_iff.1 hcut)
  | some parts => exact .inl ⟨parts.1, parts.2, cut_eq_some_iff.1 hcut⟩

/-- Before the first `d` stands something else than a count of days. -/
def Miscounts (text : String) : Prop :=
  ∃ days rest, Divides text days rest ∧ ¬ CountsDays days

/-- **Nothing but a count of days can be wrong.** -/
theorem decode_eq_error_iff {text : String} {e : DecodeError} :
    decode text = .error e ↔ Miscounts text ∧ e = .dayCount text := by
  constructor
  · intro h
    rcases divides_or_undivided text with ⟨days, rest, hdivides⟩ | hundivided
    · rw [decode_of_divides hdivides] at h
      split at h
      · simp at h
      · next hnot =>
        cases h
        exact ⟨⟨days, rest, hdivides, hnot⟩, rfl⟩
    · rw [decode_of_undivided hundivided] at h
      simp at h
  · rintro ⟨⟨days, rest, hdivides, hnot⟩, rfl⟩
    rw [decode_of_divides hdivides, if_neg hnot]

theorem clock_le (s : List Char) : clock s ≤ maxClock := by
  rcases clock_eq_iff.1 (rfl : clock s = clock s) with ⟨-, hle⟩ | ⟨hzero, -⟩
  · exact hle
  · rw [hzero]
    exact Nat.zero_le _

/-- No duration is longer than can be counted. -/
theorem le_of_decode {text : String} (h : decode text = .ok n) : n ≤ maxSeconds := by
  rcases divides_or_undivided text with ⟨days, rest, hdivides⟩ | hundivided
  · rw [decode_of_divides hdivides] at h
    split at h
    · cases h
      exact Nat.min_le_left _ _
    · simp at h
  · rw [decode_of_undivided hundivided] at h
    cases h
    -- a clock alone is less than a day
    have hclock : clock text.toList ≤ maxSeconds :=
      Nat.le_trans (clock_le _) (by decide)
    split
    · split
      · assumption
      · exact Nat.zero_le _
    · exact hclock

/-- The rules by which a text is read as a duration. -/
structure Rules (text : String) : Prop where
  /-- Days and a clock: the count of days stands before the first `d`, and it alone can be wrong. -/
  days {days rest : List Char} : Divides text days rest →
    decode text = if CountsDays days then
        .ok (min maxSeconds (secondsPerDay * numberOf days + clock rest))
      else .error (.dayCount text)
  /-- Digits without a `d` are seconds, as many as can be counted, and other text is a clock. -/
  seconds : 'd' ∉ text.toList →
    decode text = .ok (if isNumeral text.toList then
        if numberOf text.toList ≤ maxSeconds then numberOf text.toList else 0
      else clock text.toList)
  /-- A clock counts for what it shows in one of its forms, if that stays within a day. -/
  clock (s : List Char) (n : Nat) : Duration.clock s = n ↔ CountsFor s n
  /-- No result is too large for the 64 bits of a scalar, and none is changed there. -/
  bounded {n : Nat} : decode text = .ok n → n ≤ maxSeconds
    ∧ ∃ v : Whole .i64, Coercion.duration.decode text = .ok (.int v) ∧ v.val = n
  /-- What a number of seconds is written as is read as that number. -/
  written (v : Whole .i64) : 0 ≤ v.val → text = (Value.int v).encode →
    Coercion.duration.decode text = .ok (.int v)

/-- **How every text is read as a duration.** -/
theorem decode_rules (text : String) : Rules text where
  days h := decode_of_divides h
  seconds h := decode_of_undivided h
  clock s n := clock_eq_iff
  bounded {n} h := by
    -- the seconds fit the width, so narrowing them changes nothing
    have hle := le_of_decode h
    have hhi : (n : Int) ≤ IntType.i64.hi := Int.ofNat_le.2 hle
    have hlo : IntType.i64.lo ≤ (n : Int) :=
      Int.le_trans IntType.i64.lo_nonpos (Int.natCast_nonneg n)
    refine ⟨hle, ⟨n, hlo, hhi⟩, ?_, rfl⟩
    simp only [Coercion.decode, h, Whole.narrow_of_fits hlo hhi]
  written v hv htext := by
    have hread : decode text = .ok v.val.toNat := by
      rw [htext]
      exact decode_ofInt v.le_hi
    simp only [Coercion.decode, hread, Int.toNat_of_nonneg hv, Whole.narrow_val]

end RouterMenu.Duration
