import ColumnCast.Proofs.Decimal.Value

/-!
# `ColumnCast.Proofs.Decimal.Rounding`: what a decimal keeps of a number

A numeral may have more digits than a decimal has room for. What is left
of its number `x` when it is read is `held? x`: `x` rounded to as many
places as there is room for, at most 28, and nothing if there is no room
for its whole part. `Written.Proper.toRat_read?` states this for every
numeral, of any length.

For the number of a cell `Numeral.reads_of_ofCell?` says the same.

The reader goes from digit to digit and never sees `x` whole. The
structure `Keeps` says which coefficient and places it may stop with: they
are `x` rounded, and more places would not help, because nothing was
rounded off or because there is no room for them. `readDigits_keeps` is
the induction over the digits, and `Keeps.held?_eq` shows that `Keeps`
leaves no choice.

Nothing is lost exactly when a decimal holds the number
(`held?_eq_self_iff`). A larger number has room for fewer places and is
still kept as no smaller one (`getD_held?_mono`): where the places get
fewer, the largest coefficient at the last of them lies between. A number that was rounded once may be rounded to
another whole number than before, but only if the first rounding took it
up to a half (`round_atPlaces`).
-/

set_option autoImplicit false

namespace ColumnCast

open Text (AreDigits digitsValue)

namespace Decimal

/-! ### Rounding to whole numbers -/

theorem le_round_iff {x : ℚ} {n : ℤ} : n ≤ round x ↔ (n : ℚ) - 1 / 2 ≤ x := by
  rw [round_eq, Int.le_floor]
  exact sub_le_iff_le_add.symm

theorem round_le_round {x y : ℚ} (le : x ≤ y) : round x ≤ round y :=
  le_round_iff.mpr ((le_round_iff.mp (le_refl (round x))).trans le)

theorem round_nonneg {x : ℚ} (nonneg : 0 ≤ x) : 0 ≤ round x := by
  simpa using round_le_round nonneg

/-- The last digit is rounded off: what stands behind it does not matter. -/
theorem round_div_ten (n : Nat) {r : ℚ} (nonneg : 0 ≤ r) (lt : r < 1) :
    round ((n + r) / 10) = ((n + 5) / 10 : Nat) := by
  have least : (((n + 5) / 10 * 10 : Nat) : ℚ) ≤ ((n + 5 : Nat) : ℚ) := by
    exact_mod_cast Nat.div_mul_le_self (n + 5) 10
  have most : ((n + 6 : Nat) : ℚ) ≤ (((n + 5) / 10 * 10 + 10 : Nat) : ℚ) := by
    have below : n + 6 ≤ (n + 5) / 10 * 10 + 10 := by omega
    exact_mod_cast below
  push_cast at least most
  rw [round_eq_iff, Int.cast_natCast]
  constructor <;> linarith

/-! ### Room -/

/-- There is room in a decimal for the number, rounded to so many places. -/
def HasRoom (x : ℚ) (places : Nat) : Prop := round (x * 10 ^ places) < (coefficientBound : ℤ)

instance (x : ℚ) : DecidablePred (HasRoom x) := fun places =>
  inferInstanceAs (Decidable (round (x * 10 ^ places) < (coefficientBound : ℤ)))

/-- Where there is room for more places there is room for fewer. -/
theorem HasRoom.mono {x : ℚ} {p q : Nat} (nonneg : 0 ≤ x) (le : q ≤ p) (room : HasRoom x p) :
    HasRoom x q := by
  have scaled : x * 10 ^ q ≤ x * 10 ^ p := by
    gcongr
    norm_num
  exact lt_of_le_of_lt (round_le_round scaled) room

/-- The number rounded to so many places, a half up. -/
def atPlaces (x : ℚ) (places : Nat) : ℚ := round (x * 10 ^ places) / 10 ^ places

/-- A number with no more places stays as it is. -/
theorem atPlaces_eq_self {x : ℚ} {places : Nat} {n : ℤ} (whole : x * 10 ^ places = n) :
    atPlaces x places = x := by
  unfold atPlaces
  rw [whole, round_intCast, ← whole]
  field_simp

/-- Rounded to one number of places, numbers stay in order. -/
theorem atPlaces_mono {x y : ℚ} (le : x ≤ y) (places : Nat) :
    atPlaces x places ≤ atPlaces y places := by
  have scaled : x * 10 ^ places ≤ y * 10 ^ places := by gcongr
  have rounded : (round (x * 10 ^ places) : ℚ) ≤ round (y * 10 ^ places) := by
    exact_mod_cast round_le_round scaled
  unfold atPlaces
  gcongr

/-- A half has one place, so every place but the point itself keeps it. -/
theorem atPlaces_half (k : ℤ) (places : Nat) :
    atPlaces ((k : ℚ) + 1 / 2) (places + 1) = k + 1 / 2 := by
  have whole : ((k : ℚ) + 1 / 2) * 10 ^ (places + 1) = (((2 * k + 1) * 5 * 10 ^ places : ℤ) : ℚ) := by
    push_cast
    ring
  exact atPlaces_eq_self whole

/-- The most places for which there is room. -/
def mostPlaces (x : ℚ) : Nat := Nat.findGreatest (HasRoom x) maxPlaces

/-- What a decimal keeps of the number; none if it is too large. -/
def held? (x : ℚ) : Option ℚ := if HasRoom x 0 then some (atPlaces x (mostPlaces x)) else none

theorem held?_eq_none_iff {x : ℚ} : held? x = none ↔ (coefficientBound : ℤ) ≤ round x := by
  have whole : HasRoom x 0 ↔ round x < (coefficientBound : ℤ) := by
    unfold HasRoom
    rw [pow_zero, mul_one]
  rw [← not_lt, ← whole]
  unfold held?
  by_cases room : HasRoom x 0
  · rw [if_pos room]
    exact iff_of_false (Option.some_ne_none _) (not_not_intro room)
  · rw [if_neg room]
    exact iff_of_true rfl room

/-- A number of which nothing can be kept lies above every word. -/
theorem toInt_lt_of_held?_eq_none {x : ℚ} (large : held? x = none) (word : Int64) :
    (word.toInt : ℚ) < x := by
  have rounded : (coefficientBound : ℤ) ≤ round x := held?_eq_none_iff.mp large
  have next : word.toInt + 1 ≤ (coefficientBound : ℤ) := by
    have high := word.toInt_lt
    unfold coefficientBound
    omega
  -- Rounding adds a half at most, and the next whole number above the word is still in reach.
  have half : ((word.toInt + 1 : ℤ) : ℚ) - 1 / 2 ≤ x := le_round_iff.mp (next.trans rounded)
  push_cast at half
  linarith

/-- With room for the whole part there is room for the places that are kept. -/
theorem hasRoom_mostPlaces {x : ℚ} (room : HasRoom x 0) : HasRoom x (mostPlaces x) :=
  Nat.findGreatest_spec (Nat.zero_le _) room

/-! ### What is kept -/

/-- The number is rounded to `q` places, and more places are of no use or have no room. -/
structure Keeps (x : ℚ) (m q : Nat) : Prop where
  places_le : q ≤ maxPlaces
  small : m < coefficientBound
  rounded : round (x * 10 ^ q) = m
  most : x * 10 ^ q = m ∨ ∀ p, q < p → p ≤ maxPlaces → ¬HasRoom x p

theorem Keeps.hasRoom {x : ℚ} {m q : Nat} (keeps : Keeps x m q) : HasRoom x q := by
  unfold HasRoom
  rw [keeps.rounded]
  exact_mod_cast keeps.small

/-- A number can be kept in one way only. -/
theorem Keeps.held?_eq {x : ℚ} {m q : Nat} (nonneg : 0 ≤ x) (keeps : Keeps x m q) :
    held? x = some ((m : ℚ) / 10 ^ q) := by
  have some : held? x = some (atPlaces x (mostPlaces x)) :=
    if_pos (keeps.hasRoom.mono nonneg (Nat.zero_le q))
  have least : q ≤ mostPlaces x := Nat.le_findGreatest keeps.places_le keeps.hasRoom
  rw [some, Option.some.injEq]
  rcases keeps.most with exact | full
  · -- All of the number is kept, with more places too.
    obtain ⟨more, eq⟩ := Nat.exists_eq_add_of_le least
    have whole : x * 10 ^ mostPlaces x = ((m * 10 ^ more : Nat) : ℤ) := by
      rw [eq, pow_add, ← mul_assoc, exact]
      push_cast
      rfl
    rw [atPlaces_eq_self whole, ← exact]
    field_simp
  · have same : mostPlaces x = q := by
      by_contra different
      exact full (mostPlaces x) (lt_of_le_of_ne least (Ne.symm different))
        (Nat.findGreatest_le _) (hasRoom_mostPlaces (keeps.hasRoom.mono nonneg (Nat.zero_le q)))
    unfold atPlaces
    rw [same, keeps.rounded]
    rfl

/-- A number rounded to places for which there is room is a decimal. -/
theorem exists_toRat_eq_atPlaces {x : ℚ} {places : Nat} (nonneg : 0 ≤ x) (room : HasRoom x places)
    (few : places ≤ maxPlaces) : ∃ d : Decimal, d.toRat = atPlaces x places := by
  have atLeast : 0 ≤ round (x * 10 ^ places) := round_nonneg (by positivity)
  unfold HasRoom at room
  exact ⟨⟨round (x * 10 ^ places), places, by omega, few⟩, rfl⟩

/-- A decimal keeps all of its own number. -/
theorem exists_keeps_toRat {d : Decimal} (nonneg : 0 ≤ d.toRat) :
    ∃ c : Nat, d.toRat * 10 ^ d.places = c ∧ Keeps d.toRat c d.places := by
  obtain ⟨c, eq⟩ := Int.eq_ofNat_of_zero_le (coefficient_nonneg nonneg)
  have scaled : d.toRat * 10 ^ d.places = (c : ℚ) := by
    unfold toRat
    rw [eq]
    field_simp
    rfl
  have small : c < coefficientBound := by
    have lt := d.coefficient_lt
    omega
  exact ⟨c, scaled, d.places_le, small, by rw [scaled, round_natCast], Or.inl scaled⟩

/-- **Nothing is lost exactly when a decimal holds the number.** -/
theorem held?_eq_self_iff {x : ℚ} (nonneg : 0 ≤ x) :
    held? x = some x ↔ ∃ d : Decimal, d.toRat = x := by
  constructor
  · intro held
    have room : HasRoom x 0 := by
      by_contra large
      unfold held? at held
      rw [if_neg large] at held
      exact absurd held (by simp)
    have eq : atPlaces x (mostPlaces x) = x := by
      unfold held? at held
      rw [if_pos room] at held
      exact Option.some.inj held
    obtain ⟨d, kept⟩ :=
      exists_toRat_eq_atPlaces nonneg (hasRoom_mostPlaces room) (Nat.findGreatest_le _)
    exact ⟨d, kept.trans eq⟩
  · rintro ⟨d, rfl⟩
    obtain ⟨c, scaled, keeps⟩ := exists_keeps_toRat nonneg
    rw [keeps.held?_eq nonneg, ← scaled, Option.some.injEq]
    field_simp

/-! ### Larger numbers -/

section Order

variable {x y : ℚ} {p q : Nat}

theorem HasRoom.of_le (le : x ≤ y) (room : HasRoom y p) : HasRoom x p := by
  have scaled : x * 10 ^ p ≤ y * 10 ^ p := by gcongr
  exact lt_of_le_of_lt (round_le_round scaled) room

/-- A larger number has room for no more places. -/
theorem mostPlaces_anti (le : x ≤ y) : mostPlaces y ≤ mostPlaces x :=
  Nat.findGreatest_mono (fun _ room => room.of_le le) (le_refl maxPlaces)

theorem largest_nonneg : (0 : ℚ) ≤ ((coefficientBound : ℤ) - 1 : ℤ) := by
  exact_mod_cast (by decide : (0 : ℤ) ≤ (coefficientBound : ℤ) - 1)

/-- No coefficient is larger than the largest. -/
theorem HasRoom.atPlaces_le (room : HasRoom x p) :
    atPlaces x p ≤ ((coefficientBound : ℤ) - 1 : ℤ) / 10 ^ p := by
  have le : round (x * 10 ^ p) ≤ (coefficientBound : ℤ) - 1 := Int.le_sub_one_of_lt room
  unfold atPlaces
  gcongr

/-- Without room for one place more, the number is beyond what that place would have room for. -/
theorem le_atPlaces_of_not_hasRoom (full : ¬HasRoom y (q + 1)) :
    (((coefficientBound : ℤ) - 1 : ℤ) : ℚ) / 10 ^ (q + 1) ≤ atPlaces y q := by
  -- A tenth of the bound is no whole number, and the next one up is what `y` is rounded to.
  have tenth : (7922816251426433759354395034 : ℤ) ≤ round (y * 10 ^ q) := by
    unfold HasRoom coefficientBound at full
    have beyond := le_round_iff.mp (not_lt.mp full)
    rw [pow_succ, ← mul_assoc] at beyond
    rw [le_round_iff]
    push_cast at beyond ⊢
    linarith
  have cast : (7922816251426433759354395034 : ℚ) ≤ round (y * 10 ^ q) := by exact_mod_cast tenth
  unfold atPlaces coefficientBound
  rw [pow_succ, div_mul_eq_div_div_swap]
  gcongr
  push_cast
  linarith

/-- What is kept at the most places grows with the number, although the places get fewer. -/
theorem atPlaces_mostPlaces_mono (le : x ≤ y) (room : HasRoom y 0) :
    atPlaces x (mostPlaces x) ≤ atPlaces y (mostPlaces y) := by
  rcases Nat.eq_or_lt_of_le (mostPlaces_anti le) with same | fewer
  · rw [same]
    exact atPlaces_mono le _
  · have full : ¬HasRoom y (mostPlaces y + 1) :=
      Nat.findGreatest_is_greatest (Nat.lt_succ_self _)
        (Nat.le_trans (Nat.succ_le_of_lt fewer) (Nat.findGreatest_le _))
    -- The largest coefficient at one place more than `y` has separates the two.
    calc atPlaces x (mostPlaces x)
        ≤ ((coefficientBound : ℤ) - 1 : ℤ) / 10 ^ mostPlaces x :=
          (hasRoom_mostPlaces (room.of_le le)).atPlaces_le
      _ ≤ ((coefficientBound : ℤ) - 1 : ℤ) / 10 ^ (mostPlaces y + 1) := by
          have least := largest_nonneg
          have le : mostPlaces y + 1 ≤ mostPlaces x := Nat.succ_le_of_lt fewer
          gcongr
      _ ≤ atPlaces y (mostPlaces y) := le_atPlaces_of_not_hasRoom full

/-- **A larger number is kept as no smaller one**, and where nothing can be kept it is larger
than all that can. -/
theorem getD_held?_mono (le : x ≤ y) : (held? x).getD x ≤ (held? y).getD y := by
  unfold held?
  by_cases room : HasRoom y 0
  · rw [if_pos room, if_pos (room.of_le le)]
    exact atPlaces_mostPlaces_mono le room
  · rw [if_neg room, Option.getD_none]
    by_cases smaller : HasRoom x 0
    · -- One is kept and the other is not: the largest coefficient lies between.
      rw [if_pos smaller, Option.getD_some]
      calc atPlaces x (mostPlaces x)
          ≤ ((coefficientBound : ℤ) - 1 : ℤ) / 10 ^ mostPlaces x :=
            (hasRoom_mostPlaces smaller).atPlaces_le
        _ ≤ ((coefficientBound : ℤ) - 1 : ℤ) :=
            div_le_self largest_nonneg (one_le_pow₀ (by norm_num))
        _ ≤ y := by
          unfold HasRoom at room
          rw [pow_zero, mul_one] at room
          have beyond := le_round_iff.mp (not_lt.mp room)
          rw [Int.cast_sub, Int.cast_one]
          generalize ((coefficientBound : ℤ) : ℚ) = bound at beyond ⊢
          linarith
    · rw [if_neg smaller]
      exact le

theorem getD_held?_nonneg (nonneg : 0 ≤ x) : 0 ≤ (held? x).getD x := by
  have zero : held? (0 : ℚ) = some 0 := by
    rw [held?_eq_self_iff (le_refl 0)]
    exact ⟨ofInt64 0, toRat_ofInt64 0⟩
  have mono := getD_held?_mono nonneg
  rwa [zero, Option.getD_some] at mono

end Order

/-! ### Digits that are read -/

section Digits

variable {x : ℚ} {c p m q : Nat} {next : Char} {word : List Char}

/-- The last digit that is looked at is rounded off. -/
theorem roundOff_keeps {tail : ℚ} (isDigit : next.isDigit = true) (small : c < coefficientBound)
    (few : p ≤ maxPlaces) (nonneg : 0 ≤ tail) (lt : tail < 1)
    (value : x * 10 ^ p = c + ((next.toNat - 48 : Nat) + tail) / 10)
    (full : ∀ more, p < more → more ≤ maxPlaces → ¬HasRoom x more)
    (read : roundOff c p next = some (m, q)) : Keeps x m q := by
  have five : '5'.toNat = 53 := rfl
  have range := Text.isDigit_iff.mp isDigit
  have rounded : round (x * 10 ^ p) = ((10 * c + (next.toNat - 48) + 5) / 10 : Nat) := by
    have whole : x * 10 ^ p = ((10 * c + (next.toNat - 48) : Nat) + tail) / 10 := by
      rw [value]
      push_cast
      ring
    rw [whole, round_div_ten _ nonneg lt]
  unfold roundOff at read
  rw [if_pos isDigit, five] at read
  split at read
  · -- Below a half the digit is cut off.
    obtain ⟨rfl, rfl⟩ := Prod.mk.inj (Option.some.inj read)
    exact ⟨few, small, by rw [rounded]; congr 1; omega, Or.inr full⟩
  · have up : round (x * 10 ^ p) = (c + 1 : Nat) := by
      rw [rounded]
      congr 1
      omega
    split at read
    · rename_i fits
      obtain ⟨rfl, rfl⟩ := Prod.mk.inj (Option.some.inj read)
      exact ⟨few, fits, up, Or.inr full⟩
    · rename_i carried
      split at read
      · exact absurd read (by simp)
      · -- The coefficient reached the bound, so one place more is given up.
        rename_i pointed
        obtain ⟨rfl, rfl⟩ := Prod.mk.inj (Option.some.inj read)
        obtain ⟨p, rfl⟩ := Nat.exists_eq_succ_of_ne_zero pointed
        have tenth : x * 10 ^ p = (c + ((next.toNat - 48 : Nat) + tail) / 10) / 10 := by
          rw [← value, pow_succ]
          ring
        have digit : ((next.toNat - 48 : Nat) : ℚ) ≤ 9 := by
          have le : next.toNat - 48 ≤ 9 := by omega
          exact_mod_cast le
        refine ⟨(Nat.le_succ p).trans few, by omega, ?_, Or.inr fun more lt le room => ?_⟩
        · rw [Nat.succ_sub_one, tenth, round_div_ten _ (by positivity) (by linarith)]
        · rcases Nat.eq_or_lt_of_le (Nat.succ_le_of_lt lt) with rfl | beyond
          · unfold HasRoom at room
            rw [Nat.succ_sub_one, up] at room
            exact absurd (Int.ofNat_lt.mp room) carried
          · exact full more (by omega) le room

/-- **What the reader stops with is the number rounded.** The number is that of all the
digits, those before and those to come. -/
theorem readDigits_keeps (digits : AreDigits word) (small : c < coefficientBound)
    (few : p ≤ maxPlaces) (value : x * 10 ^ p = c + Written.fractionValue word)
    (read : readDigits true true c p word = some (m, q)) : Keeps x m q := by
  induction word generalizing c p with
  | nil =>
      rw [Written.fractionValue_nil, add_zero] at value
      obtain ⟨rfl, rfl⟩ := Prod.mk.inj (Option.some.inj read)
      exact ⟨few, small, by rw [value, round_natCast], Or.inl value⟩
  | cons next word ih =>
      have isDigit := digits next List.mem_cons_self
      have rest : AreDigits word := fun d mem => digits d (List.mem_cons_of_mem _ mem)
      have nonneg := Written.fractionValue_nonneg word
      have lt := Written.fractionValue_lt_one rest
      rw [Written.fractionValue_cons] at value
      by_cases full : maxPlaces ≤ p
      · rw [readDigits, if_pos (by simpa using full)] at read
        exact roundOff_keeps isDigit small few nonneg lt value
          (fun more beyond le => absurd (beyond.trans_le le) (by omega)) read
      · rw [readDigits_digit isDigit (fun _ => Nat.lt_of_not_le full)] at read
        have longer : x * 10 ^ (p + 1)
            = (10 * c + (next.toNat - 48) : Nat) + Written.fractionValue word := by
          rw [pow_succ, ← mul_assoc, value]
          push_cast
          ring
        split at read
        · rename_i fits
          exact ih rest fits (by omega) longer read
        · rename_i large
          have scaled : 0 ≤ x := by
            have positive : 0 ≤ x * 10 ^ (p + 1) := by rw [longer]; positivity
            exact nonneg_of_mul_nonneg_left positive (by positivity)
          refine roundOff_keeps isDigit small few nonneg lt value (fun more beyond _ room => ?_) read
          -- There is no room for the digit itself, so there is none for more.
          have here : HasRoom x (p + 1) := room.mono scaled beyond
          unfold HasRoom at here
          rw [longer, round_natCast_add] at here
          have part : 0 ≤ round (Written.fractionValue word) := round_nonneg nonneg
          omega

end Digits

/-! ### Rounding twice -/

/-- A number rounded to some places is rounded to the same whole number, or the places took
it up to a half. -/
theorem round_atPlaces (x : ℚ) (places : Nat) :
    round (atPlaces x places) = round x
      ∨ (x < atPlaces x places ∧ ∃ k : ℤ, atPlaces x places = k + 1 / 2
          ∧ round x = k ∧ round (atPlaces x places) = k + 1) := by
  cases places with
  | zero =>
      left
      unfold atPlaces
      rw [pow_zero, mul_one, div_one, round_intCast]
  | succ places =>
      obtain ⟨least, below⟩ := round_eq_iff.mp (rfl : round x = round x)
      -- The number lies between two halves, which both stay where they are.
      have low : (round x : ℚ) - 1 / 2 ≤ atPlaces x (places + 1) := by
        have half : ((round x - 1 : ℤ) : ℚ) + 1 / 2 ≤ x := by
          push_cast
          linarith
        have kept := atPlaces_mono half (places + 1)
        rw [atPlaces_half] at kept
        push_cast at kept
        linarith
      have high : atPlaces x (places + 1) ≤ (round x : ℚ) + 1 / 2 := by
        have kept := atPlaces_mono below.le (places + 1)
        rwa [atPlaces_half] at kept
      rcases lt_or_eq_of_le high with inside | half
      · exact Or.inl (round_eq_iff.mpr ⟨low, inside⟩)
      · right
        refine ⟨by rw [half]; exact below, round x, half, rfl, ?_⟩
        rw [half, round_eq_iff]
        constructor
        · push_cast
          linarith
        · push_cast
          linarith

end Decimal

/-! ### Numerals that are read -/

namespace Written

variable {w : Written}

/-- **A numeral is read as what a decimal keeps of its number**, however many digits it has. -/
theorem Proper.toRat_read? (proper : w.Proper) :
    (Decimal.read? w.text).map Decimal.toRat = Decimal.held? w.number := by
  cases read : Decimal.read? w.text with
  | none =>
      have value := w.number_eq
      have part := fractionValue_nonneg w.fraction
      refine (Decimal.held?_eq_none_iff.mpr ?_).symm
      rw [Decimal.le_round_iff, value]
      rcases proper.read?_text_eq_none_iff.mp read with large | ⟨last, c, first, atLeast⟩
      · have whole : ((Decimal.coefficientBound : ℤ) : ℚ) ≤ (digitsValue w.whole : ℚ) := by
          exact_mod_cast large
        generalize ((Decimal.coefficientBound : ℤ) : ℚ) = bound at whole ⊢
        linarith
      · -- The first digit of the fraction makes a half at least.
        have eq := List.eq_cons_of_mem_head? first
        have whole : ((Decimal.coefficientBound : ℤ) : ℚ) = (digitsValue w.whole : ℚ) + 1 := by
          exact_mod_cast last.symm
        have digit : (5 : ℚ) ≤ ((c.toNat - 48 : Nat) : ℚ) := by
          have le : 5 ≤ c.toNat - 48 := by omega
          exact_mod_cast le
        have more := fractionValue_nonneg w.fraction.tail
        rw [eq, fractionValue_cons, whole]
        linarith
  | some d =>
      have small : digitsValue w.whole < Decimal.coefficientBound := by
        by_contra large
        have refused := proper.read?_text_eq_none_iff.mpr (Or.inl (Nat.not_lt.mp large))
        rw [refused] at read
        exact absurd read (by simp)
      rw [Decimal.read?_unsigned proper.unsigned] at read
      unfold Decimal.readSigned at read
      rw [proper.readDigits_text small] at read
      split at read
      · rename_i m q digits
        have value : w.number * 10 ^ 0 = (digitsValue w.whole : ℚ) + fractionValue w.fraction := by
          rw [pow_zero, mul_one, number_eq]
        have keeps := Decimal.readDigits_keeps proper.fraction small (Nat.zero_le _) value digits
        unfold Decimal.ofParts? at read
        simp only [Bool.false_eq_true, if_false] at read
        split at read
        · obtain rfl := Option.some.inj read
          rw [keeps.held?_eq w.number_nonneg]
          rfl
        · exact absurd read (by simp)
      · exact absurd read (by simp)

end Written

/-! ### Numbers of cells -/

namespace Numeral

/-- The numeral is what digits are read as: a decimal with what is kept of their number, or
canonical digits where nothing can be kept. -/
def Reads (w : Written) : Numeral → Prop
  | exact value => 0 ≤ value.coefficient ∧ Decimal.held? w.number = some value.toRat
  | wide digits => digits = String.ofList w.shortened.text ∧ Decimal.held? w.number = none

theorem ofCell?_eq_none_iff {cell : String} :
    ofCell? cell = none ↔ ∀ c ∈ cell.toList, c.isDigit = false := by
  rw [← Written.whole_ofCell_eq_nil_iff, ← List.isEmpty_iff]
  unfold ofCell?
  dsimp only
  split
  · rename_i none
    exact iff_of_true rfl none
  · rename_i inhabited
    refine iff_of_false ?_ inhabited
    split <;> simp

/-- A cell has a number if it writes a numeral, and only then. -/
theorem exists_ofCell?_iff {cell : String} :
    (∃ numeral, ofCell? cell = some numeral) ↔ (Written.ofCell cell).Proper := by
  rw [← Option.ne_none_iff_exists', ne_eq, ofCell?_eq_none_iff, ← Written.whole_ofCell_eq_nil_iff]
  exact ⟨Written.proper_ofCell, Written.Proper.inhabited⟩

/-- **A cell with a digit is read as its digits.** -/
theorem reads_of_ofCell? {cell : String} {numeral : Numeral} (h : ofCell? cell = some numeral) :
    numeral.Reads (Written.ofCell cell) := by
  have proper := exists_ofCell?_iff.mp ⟨numeral, h⟩
  have kept := proper.toRat_read?
  unfold ofCell? at h
  dsimp only at h
  rw [if_neg (by simpa using proper.inhabited)] at h
  split at h
  · rename_i value read
    obtain rfl := Option.some.inj h
    rw [read] at kept
    refine ⟨Decimal.normalize_nonneg (Decimal.nonneg_of_read? proper.unsigned read), ?_⟩
    rw [Decimal.toRat_normalize, ← kept]
    rfl
  · rename_i read
    obtain rfl := Option.some.inj h
    rw [read] at kept
    exact ⟨rfl, kept.symm⟩

theorem exists_reads {cell : String} (digit : ∃ c ∈ cell.toList, c.isDigit = true) :
    ∃ numeral, ofCell? cell = some numeral ∧ numeral.Reads (Written.ofCell cell) := by
  obtain ⟨numeral, found⟩ := exists_ofCell?_iff.mpr (Written.proper_of_digit digit)
  exact ⟨numeral, found, reads_of_ofCell? found⟩

end Numeral

end ColumnCast
