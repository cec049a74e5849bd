import FilterSql.Proofs.Token.Spelling

namespace FilterSql

theorem Text.natValue_toString (n : Nat) : natValue (toString n).toList = n := by
  rw [Nat.toString_eq_repr, Nat.toList_repr]
  exact Nat.ofDigitChars_ten_toDigits

theorem exists_digits (n : Nat) : ∃ d ds, (toString n).toList = d :: ds ∧
    ∀ e ∈ d :: ds, e.isDigit = true := by
  rw [Nat.toString_eq_repr, Nat.toList_repr]
  obtain ⟨d, ds, hds⟩ := List.exists_cons_of_ne_nil (Nat.toDigits_ne_nil (n := n) (b := 10))
  exact ⟨d, ds, hds, fun e he =>
    Nat.isDigit_of_mem_toDigits (by decide) (by decide) (hds ▸ he)⟩

namespace Binary64

/-- The numbers from here on are rounded to infinity: half a place above the largest finite one. -/
def overflow : Nat := (2 ^ 54 - 1) * 2 ^ 970

section Rounding

variable {num den k : Nat}

theorem le_roundQuotient (hd : 0 < den) (h : k * den ≤ num) : k ≤ roundQuotient num den := by
  have hq : k ≤ num / den := (Nat.le_div_iff_mul_le hd).2 h
  unfold roundQuotient
  grind

theorem roundQuotient_le (hd : 0 < den) (h : num ≤ k * den) : roundQuotient num den ≤ k := by
  have hdiv := Nat.div_add_mod num den
  obtain hq | hq := Nat.lt_or_ge (num / den) k
  · unfold roundQuotient
    grind
  · have hle : den * k ≤ den * (num / den) := Nat.mul_le_mul_left den hq
    rw [Nat.mul_comm] at h
    have hk : num / den = k := Nat.eq_of_mul_eq_mul_left hd (by omega)
    have hr : num % den = 0 := by
      rw [hk] at hdiv
      omega
    simp [roundQuotient, hr, hd, hk]

theorem roundQuotient_lt_iff (hd : 0 < den) (hk : 0 < k) (heven : k % 2 = 0) :
    roundQuotient num den < k ↔ 2 * num < (2 * k - 1) * den := by
  have hdiv := Nat.div_add_mod num den
  have hmod := Nat.mod_lt num hd
  rw [Nat.sub_mul, Nat.one_mul, Nat.mul_assoc]
  obtain hq | hq | hq := Nat.lt_trichotomy (num / den + 1) k
  · have hle : den * (num / den + 2) ≤ den * k := Nat.mul_le_mul_left den hq
    rw [Nat.mul_add] at hle
    rw [Nat.mul_comm k den]
    refine iff_of_true ?_ (by omega)
    unfold roundQuotient
    grind
  · subst hq
    -- half way between two quotients goes to the even one, and that is `k`
    rw [Nat.mul_comm _ den, Nat.mul_add]
    unfold roundQuotient
    grind
  · have hle : den * k ≤ den * (num / den) := Nat.mul_le_mul_left den (by omega)
    rw [Nat.mul_comm k den]
    refine iff_of_false ?_ (by omega)
    have : k ≤ roundQuotient num den := le_roundQuotient hd (by rw [Nat.mul_comm]; omega)
    omega

theorem binaryOrder_eq (num den : Nat) :
    binaryOrder num den =
      if den * 2 ^ num.log2 ≤ num * 2 ^ den.log2 then (num.log2 : Int) - den.log2
      else num.log2 - den.log2 - 1 := by
  simp only [binaryOrder]
  generalize num.log2 = m
  generalize den.log2 = n
  congr 1
  split
  · obtain ⟨c, rfl⟩ := Nat.exists_eq_add_of_le (show n ≤ m by omega)
    have hc : (((n + c : Nat) : Int) - n).toNat = c := by omega
    rw [hc, decide_eq_true_iff, Nat.shiftLeft_eq, Nat.add_comm, Nat.pow_add, ← Nat.mul_assoc,
      Nat.mul_le_mul_right_iff (Nat.two_pow_pos n)]
  · obtain ⟨c, rfl⟩ := Nat.exists_eq_add_of_le (show m ≤ n by omega)
    have hc : (-((m : Int) - (m + c : Nat))).toNat = c := by omega
    rw [hc, decide_eq_true_iff, Nat.shiftLeft_eq, Nat.add_comm, Nat.pow_add, ← Nat.mul_assoc,
      Nat.mul_le_mul_right_iff (Nat.two_pow_pos m)]

/-- The order is the greatest exponent of two that the fraction reaches. -/
theorem le_binaryOrder_iff (hn : num ≠ 0) (hd : den ≠ 0) (a b : Nat) :
    (a : Int) - b ≤ binaryOrder num den ↔ den * 2 ^ a ≤ num * 2 ^ b := by
  have hnum := Nat.log2_self_le hn
  have hnum' := Nat.lt_log2_self (n := num)
  have hden := Nat.log2_self_le hd
  have hden' := Nat.lt_log2_self (n := den)
  have hpow {i j : Nat} (h : i ≤ j) : 2 ^ i ≤ 2 ^ j := Nat.pow_le_pow_right (by decide) h
  rw [binaryOrder_eq]
  generalize num.log2 = m at *
  generalize den.log2 = n at *
  -- the order of the quotient is `m - n` or one less, as the leading digits compare
  split
  · next h =>
    constructor
    · intro hle
      refine Nat.le_of_mul_le_mul_right ?_ (Nat.two_pow_pos n)
      calc den * 2 ^ a * 2 ^ n = den * 2 ^ (a + n) := by rw [Nat.mul_assoc, ← Nat.pow_add]
        _ ≤ den * 2 ^ (m + b) := Nat.mul_le_mul_left _ (hpow (by omega))
        _ = den * 2 ^ m * 2 ^ b := by rw [Nat.mul_assoc, ← Nat.pow_add]
        _ ≤ num * 2 ^ n * 2 ^ b := Nat.mul_le_mul_right _ h
        _ = num * 2 ^ b * 2 ^ n := Nat.mul_right_comm ..
    · refine fun hle => Int.not_lt.1 fun hlt => Nat.not_lt.2 hle ?_
      calc num * 2 ^ b < 2 ^ (m + 1) * 2 ^ b :=
            Nat.mul_lt_mul_of_pos_right hnum' (Nat.two_pow_pos b)
        _ = 2 ^ (m + 1 + b) := (Nat.pow_add ..).symm
        _ ≤ 2 ^ (n + a) := hpow (by omega)
        _ = 2 ^ n * 2 ^ a := Nat.pow_add ..
        _ ≤ den * 2 ^ a := Nat.mul_le_mul_right _ hden
  · next h =>
    have h := Nat.not_le.1 h
    constructor
    · intro hle
      calc den * 2 ^ a ≤ 2 ^ (n + 1) * 2 ^ a := Nat.mul_le_mul_right _ hden'.le
        _ = 2 ^ (n + 1 + a) := (Nat.pow_add ..).symm
        _ ≤ 2 ^ (m + b) := hpow (by omega)
        _ = 2 ^ m * 2 ^ b := Nat.pow_add ..
        _ ≤ num * 2 ^ b := Nat.mul_le_mul_right _ hnum
    · refine fun hle => Int.not_lt.1 fun hlt => Nat.not_lt.2 hle ?_
      refine Nat.lt_of_mul_lt_mul_right (a := 2 ^ n) ?_
      calc num * 2 ^ b * 2 ^ n = num * 2 ^ n * 2 ^ b := Nat.mul_right_comm ..
        _ < den * 2 ^ m * 2 ^ b := Nat.mul_lt_mul_of_pos_right h (Nat.two_pow_pos b)
        _ = den * 2 ^ (m + b) := by rw [Nat.mul_assoc, ← Nat.pow_add]
        _ ≤ den * 2 ^ (a + n) := Nat.mul_le_mul_left _ (hpow (by omega))
        _ = den * 2 ^ a * 2 ^ n := by rw [Nat.mul_assoc, ← Nat.pow_add]

theorem binaryOrder_lt_iff (hn : num ≠ 0) (hd : den ≠ 0) (a b : Nat) :
    binaryOrder num den < (a : Int) - b ↔ num * 2 ^ b < den * 2 ^ a := by
  rw [← Int.not_le, le_binaryOrder_iff hn hd, Nat.not_le]

def significand (num den place : Nat) : Nat :=
  if 1074 ≤ place then roundQuotient num (den <<< (place - 1074))
  else roundQuotient (num <<< (1074 - place)) den

theorem nearest_eq (num den : Nat) :
    nearest num den =
      if num = 0 then 0
      else
        let place := (binaryOrder num den - 52 + 1074).toNat
        min infinityBits ((place <<< 52) + significand num den place) :=
  rfl

theorem mul_two_pow_add (m a b c : Nat) :
    m * 2 ^ (a + (b + c)) = 2 ^ a * (m * 2 ^ c) * 2 ^ b := by
  rw [Nat.pow_add, Nat.pow_add]
  ac_rfl

theorem significand_le (hd : 0 < den) {place : Nat}
    (h : num * 2 ^ 1074 ≤ den * 2 ^ (53 + place)) : significand num den place ≤ 2 ^ 53 := by
  unfold significand
  split
  · next hp =>
    obtain ⟨c, rfl⟩ := Nat.exists_eq_add_of_le hp
    rw [Nat.shiftLeft_eq, Nat.add_sub_cancel_left]
    refine roundQuotient_le (Nat.mul_pos hd (Nat.two_pow_pos c)) ?_
    refine Nat.le_of_mul_le_mul_right ?_ (Nat.two_pow_pos 1074)
    calc num * 2 ^ 1074 ≤ den * 2 ^ (53 + (1074 + c)) := h
      _ = 2 ^ 53 * (den * 2 ^ c) * 2 ^ 1074 := mul_two_pow_add ..
  · next hp =>
    obtain ⟨c, hc⟩ := Nat.exists_eq_add_of_le (Nat.le_of_not_le hp)
    rw [hc, Nat.shiftLeft_eq, Nat.add_sub_cancel_left]
    refine roundQuotient_le hd ?_
    refine Nat.le_of_mul_le_mul_right ?_ (Nat.two_pow_pos place)
    calc num * 2 ^ c * 2 ^ place = num * 2 ^ 1074 := by
          rw [hc, Nat.pow_add, Nat.mul_assoc, Nat.mul_comm (2 ^ c)]
      _ ≤ den * 2 ^ (53 + place) := h
      _ = 2 ^ 53 * den * 2 ^ place := by rw [Nat.pow_add]; ac_rfl

theorem le_significand (hd : 0 < den) {c : Nat} (h : den * 2 ^ (52 + c) ≤ num) :
    2 ^ 52 ≤ significand num den (1074 + c) := by
  rw [significand, if_pos (Nat.le_add_right ..), Nat.shiftLeft_eq, Nat.add_sub_cancel_left]
  refine le_roundQuotient (Nat.mul_pos hd (Nat.two_pow_pos c)) ?_
  calc 2 ^ 52 * (den * 2 ^ c) = den * 2 ^ (52 + c) := by rw [Nat.pow_add]; ac_rfl
    _ ≤ num := h

theorem significand_lt_iff (hd : 0 < den) (n : Nat) :
    significand num den (1074 + (n + 1)) < 2 ^ 53 ↔ num < (2 ^ 54 - 1) * 2 ^ n * den := by
  have h : (2 * 2 ^ 53 - 1) * (den * 2 ^ (n + 1)) = 2 * ((2 ^ 54 - 1) * 2 ^ n * den) := by
    rw [Nat.pow_succ]
    ring
  rw [significand, if_pos (Nat.le_add_right ..), Nat.shiftLeft_eq, Nat.add_sub_cancel_left,
    roundQuotient_lt_iff (Nat.mul_pos hd (Nat.two_pow_pos _)) (by decide) (by decide), h]
  exact Nat.mul_lt_mul_left (by decide)

theorem overflow_bounds : 2 ^ (53 + 970) ≤ overflow ∧ overflow ≤ 2 ^ (54 + 970) := by
  have h (n : Nat) :
      2 ^ (53 + n) ≤ (2 ^ 54 - 1) * 2 ^ n ∧ (2 ^ 54 - 1) * 2 ^ n ≤ 2 ^ (54 + n) := by
    rw [Nat.pow_add, Nat.pow_add]
    exact ⟨Nat.mul_le_mul_right _ (by decide), Nat.mul_le_mul_right _ (by decide)⟩
  exact h 970

theorem overflow_pos : 0 < overflow :=
  Nat.lt_of_lt_of_le (Nat.two_pow_pos _) overflow_bounds.1

theorem nearest_le (num den : Nat) : nearest num den ≤ infinityBits := by
  rw [nearest_eq]
  split
  · exact Nat.zero_le _
  · exact Nat.min_le_left ..

/-- A fraction is rounded to a finite number exactly if it is below the overflow. -/
theorem nearest_lt_iff (hd : 0 < den) :
    nearest num den < infinityBits ↔ num < overflow * den := by
  rw [nearest_eq]
  split
  · next hn => exact iff_of_true (by decide) (by simp [hn, overflow_pos, hd])
  · next hn =>
    have hle := le_binaryOrder_iff hn (Nat.ne_of_gt hd)
    have hlt := binaryOrder_lt_iff hn (Nat.ne_of_gt hd)
    dsimp only
    rw [Nat.shiftLeft_eq, min_lt_iff, or_iff_right (Nat.lt_irrefl _),
      show infinityBits = 2047 * 2 ^ 52 from rfl]
    generalize binaryOrder num den = e at hle hlt
    -- the largest finite numbers are of order 1023
    obtain he | rfl | he := Int.lt_trichotomy e 1023
    · have hs := significand_le hd
        (Nat.le_of_lt ((hlt (53 + (e - 52 + 1074).toNat) 1074).1 (by omega)))
      refine iff_of_true (by omega) ?_
      calc num = num * 2 ^ 0 := (Nat.mul_one num).symm
        _ < den * 2 ^ (53 + 970) := (hlt (53 + 970) 0).1 (by omega)
        _ ≤ den * overflow := Nat.mul_le_mul_left _ overflow_bounds.1
        _ = overflow * den := Nat.mul_comm ..
    · rw [overflow, ← significand_lt_iff hd,
        show (1023 - 52 + 1074 : Int).toNat = 1074 + (970 + 1) from rfl]
      omega
    · obtain ⟨c, hc⟩ : ∃ c : Nat, e = 1024 + c := ⟨(e - 1024).toNat, by omega⟩
      have hp : (e - 52 + 1074).toNat = 1074 + (970 + 2 + c) := by omega
      have hnum : den * 2 ^ (52 + (970 + 2 + c)) ≤ num := by
        simpa using (hle (52 + (970 + 2 + c)) 0).1 (by omega)
      have hpow (n : Nat) : 2 ^ (54 + n) ≤ 2 ^ (52 + (n + 2 + c)) :=
        Nat.pow_le_pow_right (by decide) (by omega)
      have hs := le_significand hd hnum
      rw [hp]
      refine iff_of_false (by omega) (Nat.not_lt.2 ?_)
      calc overflow * den = den * overflow := Nat.mul_comm ..
        _ ≤ den * 2 ^ (54 + 970) := Nat.mul_le_mul_left _ overflow_bounds.2
        _ ≤ den * 2 ^ (52 + (970 + 2 + c)) := Nat.mul_le_mul_left _ (hpow 970)
        _ ≤ num := hnum

end Rounding

theorem isFinite_ofMagnitude {magnitude : Nat} (h : magnitude ≤ infinityBits) :
    (ofMagnitude false magnitude).isFinite = true ↔ magnitude < infinityBits := by
  have hinf : infinityBits = 2047 * 2 ^ 52 := rfl
  have hsize : magnitude % UInt64.size = magnitude := Nat.mod_eq_of_lt (by
    rw [show UInt64.size = 2 ^ 64 from rfl]
    omega)
  have hm : (ofMagnitude false magnitude).magnitude = magnitude := by
    simp only [Binary64.magnitude, ofMagnitude, Bool.false_eq_true, if_false, UInt64.toNat_ofNat']
    rw [hsize, show 1 <<< 63 = 2 ^ 63 from rfl]
    omega
  rw [isFinite, hm, decide_eq_true_iff]

theorem pow_le_of_lt_length {n k : Nat} (h : k < (Nat.toDigits 10 n).length) (hk : 0 < k) :
    10 ^ k ≤ n := by
  refine Nat.not_lt.1 fun hlt => ?_
  have := (Nat.length_toDigits_le_iff (by decide) hk).2 hlt
  omega

theorem overflow_le_pow : overflow ≤ 10 ^ decimalRange := by
  have h (m n : Nat) (hmn : m ≤ 3 * n) : 2 ^ m ≤ 10 ^ n :=
    calc 2 ^ m ≤ 2 ^ (3 * n) := Nat.pow_le_pow_right (by decide) hmn
      _ = 8 ^ n := Nat.pow_mul 2 3 n
      _ ≤ 10 ^ n := Nat.pow_le_pow_left (by decide) n
  exact Nat.le_trans overflow_bounds.2 (h (54 + 970) decimalRange (by decide))

theorem isFinite_ofDecimal (n k : Nat) :
    (ofDecimal ⟨false, n, -(k : Int)⟩).isFinite = true ↔ n < overflow * 10 ^ k := by
  have hten : 0 < 10 ^ k := Nat.pow_pos (by decide)
  have hlength : decimalRange = 400 := rfl
  simp only [ofDecimal]
  split
  · next h =>
    -- too small for the range, and so for the overflow
    refine iff_of_true ((isFinite_ofMagnitude (Nat.zero_le _)).2 (by decide)) ?_
    refine Nat.lt_of_lt_of_le ?_ (Nat.le_mul_of_pos_left _ overflow_pos)
    simp only [Bool.or_eq_true, decide_eq_true_iff] at h
    obtain rfl | h := h
    · exact hten
    · exact (Nat.length_toDigits_le_iff (by decide) (by omega)).1 (by omega)
  · split
    · next h =>
      refine iff_of_false ?_ (Nat.not_lt.2 ?_)
      · rw [isFinite_ofMagnitude (Nat.le_refl _)]
        exact Nat.lt_irrefl _
      · calc overflow * 10 ^ k ≤ 10 ^ decimalRange * 10 ^ k :=
              Nat.mul_le_mul_right _ overflow_le_pow
          _ = 10 ^ (decimalRange + k) := (Nat.pow_add ..).symm
          _ ≤ n := pow_le_of_lt_length (by omega) (by omega)
    · split
      · next h =>
        obtain rfl : k = 0 := by omega
        rw [isFinite_ofMagnitude (nearest_le ..), nearest_lt_iff Nat.one_pos]
        simp
      · rw [isFinite_ofMagnitude (nearest_le ..), Int.neg_neg, Int.toNat_natCast, Nat.pow_eq,
          nearest_lt_iff hten]

end Binary64

namespace Lexer

def fraction (w : List Char) : List Char := (w.dropWhile Char.isDigit).drop 1

def value (w : List Char) : ℚ :=
  Text.natValue (w.filter Char.isDigit) / 10 ^ (fraction w).length

/-- The numeral is an integer of 64 bits, or a decimal that is rounded to a finite number. -/
def Representable (w : List Char) : Prop :=
  if '.' ∈ w then value w < Binary64.overflow else value w ≤ 2 ^ 63 - 1

theorem isDigit_ne {d : Char} (h : d.isDigit = true) : d ≠ '-' ∧ d ≠ '+' := by
  constructor
  · rintro rfl
    exact absurd h (by decide)
  · rintro rfl
    exact absurd h (by decide)

theorem readBounded_digits (bound : Nat) {d : Char} {ds : List Char}
    (h : ∀ e ∈ d :: ds, e.isDigit = true) :
    Text.readBounded bound (d :: ds) =
      if bound < Text.natValue (d :: ds) then .error .tooLarge
      else .ok (Text.natValue (d :: ds)) := by
  have htake : (d :: ds).takeWhile Char.isDigit = d :: ds := List.takeWhile_eq_self_iff.2 h
  have hwhole : ¬((d :: ds).isEmpty || decide ((d :: ds).length < (d :: ds).length)) = true := by
    simp
  simp only [Text.readBounded, htake, if_neg hwhole]

theorem readUnsigned_digits (bound : Nat) {d : Char} {ds : List Char}
    (h : ∀ e ∈ d :: ds, e.isDigit = true) :
    Text.readUnsigned bound (d :: ds) =
      if bound < Text.natValue (d :: ds) then .error .tooLarge
      else .ok (Text.natValue (d :: ds)) := by
  obtain ⟨-, hplus⟩ := isDigit_ne (h d List.mem_cons_self)
  unfold Text.readUnsigned
  split
  · next heq => cases heq
  · next heq => exact absurd (List.cons.inj heq).1 hplus
  · exact readBounded_digits bound h

theorem readInt64_digits {d : Char} {ds : List Char} (h : ∀ e ∈ d :: ds, e.isDigit = true) :
    Text.readInt64 (d :: ds) =
      if 2 ^ 63 - 1 < Text.natValue (d :: ds) then .error .tooLarge
      else .ok (Int64.ofInt (Text.natValue (d :: ds))) := by
  obtain ⟨hminus, hplus⟩ := isDigit_ne (h d List.mem_cons_self)
  unfold Text.readInt64
  split
  · next heq => cases heq
  · next heq => exact absurd (List.cons.inj heq).1 hminus
  · next heq => exact absurd (List.cons.inj heq).1 hplus
  · rw [readBounded_digits _ h, show UInt64.size / 2 - 1 = 2 ^ 63 - 1 from rfl]
    split <;> rfl

theorem readInt64_isOk_iff {d : Char} {ds : List Char} (h : ∀ e ∈ d :: ds, e.isDigit = true) :
    (Text.readInt64 (d :: ds)).isOk = true ↔ Text.natValue (d :: ds) ≤ 2 ^ 63 - 1 := by
  rw [readInt64_digits h]
  split
  · next hlt => exact iff_of_false Bool.false_ne_true (Nat.not_le.2 hlt)
  · next hlt => exact iff_of_true rfl (Nat.not_lt.1 hlt)

theorem readDecimal_point {d : Char} {ds es : List Char} (hd : ∀ e ∈ d :: ds, e.isDigit = true)
    (he : ∀ e ∈ es, e.isDigit = true) :
    Text.readDecimal (d :: ds ++ '.' :: es) =
      some ⟨false, Text.natValue (d :: ds ++ es), -(es.length : Int)⟩ := by
  have hstop : ∀ f ∈ ('.' :: es).head?, f.isDigit = false := by simp
  have htake := takeWhile_eq hd hstop
  have hdrop := dropWhile_eq hd hstop
  obtain ⟨hminus, hplus⟩ := isDigit_ne (hd d List.mem_cons_self)
  have hsign : Text.splitSign (d :: ds ++ '.' :: es) = (false, d :: ds ++ '.' :: es) := by
    unfold Text.splitSign
    split
    · next heq => exact absurd (List.cons.inj heq).1 hminus
    · next heq => exact absurd (List.cons.inj heq).1 hplus
    · rfl
  simp only [Text.readDecimal, hsign, htake, hdrop, List.takeWhile_eq_self_iff.2 he,
    List.dropWhile_eq_nil_iff.2 he]
  simp [Text.readExponent]

theorem inRange_iff {w : List Char} (h : IsNumeral w) : inRange w = true ↔ Representable w := by
  unfold inRange Representable value fraction
  cases h with
  | @whole d ds hd hds =>
    have hw : ∀ e ∈ d :: ds, e.isDigit = true := List.forall_mem_cons.2 ⟨hd, hds⟩
    have hp : '.' ∉ d :: ds := fun h => absurd (hw _ h) (by decide)
    rw [if_neg hp, if_neg hp, readInt64_isOk_iff hw, List.filter_eq_self.2 hw,
      List.dropWhile_eq_nil_iff.2 hw, List.drop_nil, List.length_nil, pow_zero, div_one]
    have hmax : (2 ^ 63 - 1 : ℚ) = ((2 ^ 63 - 1 : Nat) : ℚ) := by norm_num
    rw [hmax, Nat.cast_le]
  | @point d e ds es hd hds he hes =>
    have hw : ∀ f ∈ d :: ds, f.isDigit = true := List.forall_mem_cons.2 ⟨hd, hds⟩
    have hq : ∀ f ∈ e :: es, f.isDigit = true := List.forall_mem_cons.2 ⟨he, hes⟩
    have hp : '.' ∈ d :: ds ++ '.' :: e :: es := by simp
    have hstop : ∀ f ∈ ('.' :: e :: es).head?, f.isDigit = false := by simp
    rw [if_pos hp, if_pos hp, Binary64.read?, readDecimal_point hw hq, dropWhile_eq hw hstop,
      List.filter_append, List.filter_eq_self.2 hw, List.filter_cons_of_neg (by decide),
      List.filter_eq_self.2 hq, List.drop_one, List.tail_cons, div_lt_iff₀ (by positivity),
      Option.map_some, Option.isSome_filter]
    norm_cast
    exact Binary64.isFinite_ofDecimal ..

end Lexer

end FilterSql
