import CourseFeed.Decimal.Binary64

/-!
# Integers as binary numbers

A binary number of 64 bits has 53 significant bits, so not every integer is one. Which one is taken
for an integer is said here without looking at how it is found.

* **`IsNearest`** — of the integers with 53 bits none is nearer, and of two that are equally near
  the one is taken that has 52 bits.
* **`nearest`** — the rounded integer, and **`isNearest_nearest`**: it is the nearest one.
* **`IsNearest.le_of_lt`** — rounding never turns the order of integers round, and an integer that
  has 53 bits stays what it is (**`IsNearest.eq_of_hasBits`**).
* **`eq_of_nearest_eq`** — below two to the power of 53 no two integers are rounded to the same.
* **`signedUnits_ofInt`** — the binary number made of an integer has the value of the nearest one.
-/

namespace CourseFeed.Decimal

theorem two_pow_add (a b : Nat) : Nat.pow 2 (a + b) = Nat.pow 2 a * Nat.pow 2 b :=
  Nat.pow_add 2 a b

theorem two_pow_le {a b : Nat} (h : a ≤ b) : Nat.pow 2 a ≤ Nat.pow 2 b :=
  Nat.pow_le_pow_right (by decide) h

/-! ## What it is to be nearest -/

/-- An integer has so many significant bits. -/
def HasBits (bits : Nat) (x : Int) : Prop :=
  ∃ m k, x.natAbs = m * Nat.pow 2 k ∧ m < Nat.pow 2 bits

/-- An integer with 53 bits that no other is nearer to `n` than; if another one is as near, it is
    the one with 52 bits. -/
structure IsNearest (n x : Int) : Prop where
  has_bits : HasBits 53 x
  least : ∀ y, HasBits 53 y → (n - x).natAbs ≤ (n - y).natAbs
  even : ∀ y, HasBits 53 y → y ≠ x → (n - y).natAbs = (n - x).natAbs → HasBits 52 x

theorem HasBits.neg {bits : Nat} {x : Int} (h : HasBits bits x) : HasBits bits (-x) := by
  obtain ⟨m, k, hx, hm⟩ := h
  exact ⟨m, k, by rw [Int.natAbs_neg, hx], hm⟩

/-- A multiple of a power of two by a number up to the bound has so many bits; the bound itself is
    a power of two. -/
theorem hasBits_mul_pow {bits q : Nat} (hbits : bits ≠ 0) (hq : q ≤ Nat.pow 2 bits) (e : Nat) :
    HasBits bits ((q * Nat.pow 2 e : Nat) : Int) := by
  rcases Nat.lt_or_eq_of_le hq with hless | heq
  · exact ⟨q, e, rfl, hless⟩
  · refine ⟨1, bits + e, ?_, Nat.one_lt_two_pow hbits⟩
    rw [Int.natAbs_natCast, heq, Nat.one_mul, two_pow_add]

theorem hasBits_of_lt {bits : Nat} {x : Int} (h : x.natAbs < Nat.pow 2 bits) : HasBits bits x :=
  ⟨x.natAbs, 0, (Nat.mul_one _).symm, h⟩

namespace IsNearest

variable {n n' x x' : Int}

theorem neg (h : IsNearest n x) : IsNearest (-n) (-x) where
  has_bits := h.has_bits.neg
  least := by
    intro y hy
    have hleast := h.least (-y) hy.neg
    omega
  even := by
    intro y hy hne htie
    exact (h.even (-y) hy.neg (by omega) (by omega)).neg

/-- **An integer with 53 bits is its own nearest one.** -/
theorem eq_of_hasBits (h : IsNearest n x) (hn : HasBits 53 n) : x = n := by
  have hleast := h.least n hn
  omega

/-- Of two different integers the smaller one is not rounded to a larger one. -/
theorem le_of_lt (h : IsNearest n x) (h' : IsNearest n' x') (hlt : n < n') : x ≤ x' := by
  have hleast := h.least x' h'.has_bits
  have hleast' := h'.least x h.has_bits
  omega

/-- Where no number of 53 bits lies between two others, each of these is the nearest up to their
    middle. -/
theorem of_gap {low high : Int} (hgap : ∀ y, HasBits 53 y → y ≤ low ∨ high ≤ y)
    (hend : x = low ∨ x = high) (hx : HasBits 53 x) (hlow : low ≤ n) (hhigh : n ≤ high)
    (hnear : 2 * (n - x).natAbs ≤ high - low) (heven : 2 * n = low + high → HasBits 52 x) :
    IsNearest n x where
  has_bits := hx
  least := by
    intro y hy
    have hy := hgap y hy
    omega
  even := by
    intro y hy hne htie
    have hy := hgap y hy
    exact heven (by omega)

end IsNearest

/-! ## Rounding -/

/-- The spacing of the numbers of 53 bits around a natural number is a power of two: one where the
    number itself has so many bits, and else such that 53 bits are left above it. -/
theorem exists_unitStep_eq (n : Nat) :
    ∃ e, unitStep n = Nat.pow 2 e ∧ n < Nat.pow 2 53 * Nat.pow 2 e ∧
      (e = 0 ∨ Nat.pow 2 52 * Nat.pow 2 e ≤ n) := by
  refine ⟨n.log2 - 52, rfl, ?_, ?_⟩
  · rw [← two_pow_add]
    exact Nat.lt_of_lt_of_le Nat.lt_log2_self (two_pow_le (by omega))
  · by_cases hlog : n.log2 ≤ 52
    · exact Or.inl (by omega)
    · refine Or.inr ?_
      have hne : n ≠ 0 := by
        rintro rfl
        exact hlog (by decide)
      rw [← two_pow_add, Nat.add_sub_cancel' (by omega)]
      exact Nat.log2_self_le hne

/-- Between two neighbouring multiples of the spacing no number has 53 bits. -/
theorem le_or_le_of_hasBits {n e : Nat} (he : e = 0 ∨ Nat.pow 2 52 * Nat.pow 2 e ≤ n) {y : Int}
    (hy : HasBits 53 y) :
    y ≤ (n / Nat.pow 2 e * Nat.pow 2 e : Nat) ∨
      (((n / Nat.pow 2 e + 1) * Nat.pow 2 e : Nat) : Int) ≤ y := by
  by_cases hneg : y < 0
  · exact Or.inl (by omega)
  obtain ⟨z, rfl⟩ := Int.eq_ofNat_of_zero_le (Int.not_lt.mp hneg)
  obtain ⟨m, k, hmul, hm⟩ := hy
  rw [Int.natAbs_natCast] at hmul
  rw [Int.ofNat_le, Int.ofNat_le]
  have hpos : 0 < Nat.pow 2 e := Nat.two_pow_pos e
  by_cases hk : e ≤ k
  · -- a multiple of the spacing
    have hspaced : z = m * Nat.pow 2 (k - e) * Nat.pow 2 e := by
      rw [hmul, Nat.mul_assoc, ← two_pow_add, Nat.sub_add_cancel hk]
    rw [hspaced]
    by_cases hle : m * Nat.pow 2 (k - e) ≤ n / Nat.pow 2 e
    · exact Or.inl (Nat.mul_le_mul_right _ hle)
    · exact Or.inr (Nat.mul_le_mul_right _ (Nat.not_le.mp hle))
  · -- with a finer spacing, numbers of 53 bits are below all that are spaced so
    refine Or.inl ?_
    have hwhole : Nat.pow 2 52 ≤ n / Nat.pow 2 e :=
      (Nat.le_div_iff_mul_le hpos).mpr (he.resolve_left (by omega))
    calc z = m * Nat.pow 2 k := hmul
      _ ≤ Nat.pow 2 53 * Nat.pow 2 k := Nat.mul_le_mul_right _ (Nat.le_of_lt hm)
      _ = Nat.pow 2 (53 + k) := (two_pow_add 53 k).symm
      _ ≤ Nat.pow 2 (52 + e) := two_pow_le (by omega)
      _ = Nat.pow 2 52 * Nat.pow 2 e := two_pow_add 52 e
      _ ≤ n / Nat.pow 2 e * Nat.pow 2 e := Nat.mul_le_mul_right _ hwhole

/-- An even multiple of a power of two has a bit less, as a multiple of the next power. -/
theorem hasBits_mul_pow_of_even {q : Nat} (hq : q ≤ Nat.pow 2 53) (heven : q % 2 = 0) (e : Nat) :
    HasBits 52 ((q * Nat.pow 2 e : Nat) : Int) := by
  have htwice : q * Nat.pow 2 e = q / 2 * Nat.pow 2 (1 + e) := by
    rw [two_pow_add, ← Nat.mul_assoc]
    exact congrArg (· * Nat.pow 2 e) (by show q = q / 2 * 2; omega)
  have hbound : Nat.pow 2 53 = 2 * Nat.pow 2 52 := by decide
  rw [htwice]
  exact hasBits_mul_pow (by decide) (by omega) (1 + e)

/-- **A natural number is rounded to the nearest one.** -/
theorem isNearest_roundUnits (n : Nat) : IsNearest n (roundUnits n 1) := by
  obtain ⟨e, hstep, hless, he⟩ := exists_unitStep_eq n
  have hpos : 0 < Nat.pow 2 e := Nat.two_pow_pos e
  have hwhole : n / Nat.pow 2 e + 1 ≤ Nat.pow 2 53 := (Nat.div_lt_iff_lt_mul hpos).mpr hless
  have hsplit : n / Nat.pow 2 e * Nat.pow 2 e + n % Nat.pow 2 e = n := Nat.div_add_mod' n _
  have hrest : n % Nat.pow 2 e < Nat.pow 2 e := Nat.mod_lt _ hpos
  have hnext : (n / Nat.pow 2 e + 1) * Nat.pow 2 e =
      n / Nat.pow 2 e * Nat.pow 2 e + Nat.pow 2 e := Nat.succ_mul _ _
  have hgap := fun y => le_or_le_of_hasBits he (y := y)
  rw [roundUnits, Nat.div_one, hstep, Nat.one_mul, roundQuotient]
  -- the multiple below, the one above, or the even one of both
  have hlower (heven : 2 * (n % Nat.pow 2 e) = Nat.pow 2 e → n / Nat.pow 2 e % 2 = 0)
      (hnear : 2 * (n % Nat.pow 2 e) ≤ Nat.pow 2 e) :
      IsNearest n (n / Nat.pow 2 e * Nat.pow 2 e : Nat) :=
    .of_gap hgap (Or.inl rfl) (hasBits_mul_pow (by decide) (by omega) e) (by omega) (by omega)
      (by omega) fun htie => hasBits_mul_pow_of_even (by omega) (heven (by omega)) e
  have hhigher (heven : 2 * (n % Nat.pow 2 e) = Nat.pow 2 e → (n / Nat.pow 2 e + 1) % 2 = 0)
      (hnear : Nat.pow 2 e ≤ 2 * (n % Nat.pow 2 e)) :
      IsNearest n ((n / Nat.pow 2 e + 1) * Nat.pow 2 e : Nat) :=
    .of_gap hgap (Or.inr rfl) (hasBits_mul_pow (by decide) hwhole e) (by omega) (by omega)
      (by omega) fun htie => hasBits_mul_pow_of_even hwhole (heven (by omega)) e
  by_cases hbelow : 2 * (n % Nat.pow 2 e) < Nat.pow 2 e
  · simp only [if_pos hbelow]
    exact hlower (by omega) (by omega)
  · by_cases habove : Nat.pow 2 e < 2 * (n % Nat.pow 2 e)
    · simp only [if_neg hbelow, if_pos habove]
      exact hhigher (by omega) (by omega)
    · simp only [if_neg hbelow, if_neg habove]
      rcases Nat.mod_two_eq_zero_or_one (n / Nat.pow 2 e) with heven | hodd
      · rw [heven, Nat.add_zero]
        exact hlower (fun _ => heven) (by omega)
      · rw [hodd]
        exact hhigher (fun _ => by omega) (by omega)

/-- The integer nearest to another, as whole numbers are rounded. -/
def nearest (n : Int) : Int :=
  if n < 0 then -(roundUnits n.natAbs 1 : Int) else roundUnits n.natAbs 1

/-- **An integer is rounded to the nearest one.** -/
theorem isNearest_nearest (n : Int) : IsNearest n (nearest n) := by
  have habs := isNearest_roundUnits n.natAbs
  by_cases hneg : n < 0
  · rw [nearest, if_pos hneg]
    have hn : n = -(n.natAbs : Int) := by omega
    have hopposite := habs.neg
    rw [← hn] at hopposite
    exact hopposite
  · rw [nearest, if_neg hneg]
    have hn : (n.natAbs : Int) = n := by omega
    rw [hn] at habs
    exact habs

/-- Rounding never turns the order of two integers round. -/
theorem nearest_mono {a b : Int} (h : a ≤ b) : nearest a ≤ nearest b := by
  rcases Int.lt_or_eq_of_le h with hlt | rfl
  · exact (isNearest_nearest a).le_of_lt (isNearest_nearest b) hlt
  · exact Int.le_refl _

/-- **Rounding keeps the order of two integers**, unless they are different and rounded to the
    same. -/
theorem nearest_le_iff {a b : Int} (hapart : nearest a = nearest b → a = b) :
    nearest a ≤ nearest b ↔ a ≤ b := by
  refine ⟨?_, nearest_mono⟩
  intro hle
  by_cases hba : b ≤ a
  · exact Int.le_of_eq (hapart (Int.le_antisymm hle (nearest_mono hba)))
  · exact Int.le_of_lt (Int.not_le.mp hba)

theorem compare_nearest {a b : Int} (hapart : nearest a = nearest b → a = b) :
    compare (nearest a) (nearest b) = compare a b := by
  have hle := nearest_le_iff hapart
  have hge := nearest_le_iff fun h => (hapart h.symm).symm
  rw [Int.compare_eq_ite_le, Int.compare_eq_ite_le]
  simp only [hle, hge]

theorem nearest_of_lt {n : Int} (h : n.natAbs < Nat.pow 2 53) : nearest n = n :=
  (isNearest_nearest n).eq_of_hasBits (hasBits_of_lt h)

/-- **An integer below the bound is rounded to by no other.** -/
theorem eq_of_nearest_eq {a b : Int} (ha : a.natAbs < Nat.pow 2 53) (h : nearest a = nearest b) :
    a = b := by
  rw [nearest_of_lt ha] at h
  by_cases hb : b.natAbs < Nat.pow 2 53
  · rw [nearest_of_lt hb] at h
    exact h
  · -- what is not below the bound is not rounded to below it
    have hbound : HasBits 53 (Nat.pow 2 53 : Nat) := ⟨1, 53, rfl, by decide⟩
    have hhigh := (isNearest_nearest (Nat.pow 2 53 : Nat)).eq_of_hasBits hbound
    have hlow := (isNearest_nearest (-(Nat.pow 2 53 : Nat))).eq_of_hasBits hbound.neg
    rcases Int.le_total 0 b with hpos | hneg
    · have hle := nearest_mono (a := (Nat.pow 2 53 : Nat)) (b := b) (by omega)
      omega
    · have hle := nearest_mono (a := b) (b := -(Nat.pow 2 53 : Nat)) (by omega)
      omega

/-! ## The binary number of an integer -/

theorem roundQuotient_mul_right (num den : Nat) {c : Nat} (hc : 0 < c) :
    roundQuotient (num * c) (den * c) = roundQuotient num den := by
  have htwice : 2 * (num % den * c) = 2 * (num % den) * c := (Nat.mul_assoc 2 _ c).symm
  rw [roundQuotient, roundQuotient, Nat.mul_div_mul_right _ _ hc, Nat.mul_mod_mul_right, htwice]
  simp only [Nat.mul_lt_mul_right hc]

theorem log2_mul_pow {n : Nat} (hn : n ≠ 0) (j : Nat) :
    (n * Nat.pow 2 j).log2 = n.log2 + j := by
  induction j with
  | zero => exact congrArg Nat.log2 (Nat.mul_one n)
  | succ j ih =>
      have hdouble : n * Nat.pow 2 (j + 1) = 2 * (n * Nat.pow 2 j) := by
        rw [Nat.add_comm, two_pow_add]
        exact Nat.mul_left_comm n 2 (Nat.pow 2 j)
      have hne : n * Nat.pow 2 j ≠ 0 := Nat.mul_ne_zero hn (Nat.ne_of_gt (Nat.two_pow_pos j))
      rw [hdouble, Nat.log2_two_mul hne, ih, Nat.add_assoc]

/-- Beyond 53 bits the spacing grows with the number. -/
theorem unitStep_mul_pow {n : Nat} (hn : Nat.pow 2 53 ≤ n) (j : Nat) :
    unitStep (n * Nat.pow 2 j) = unitStep n * Nat.pow 2 j := by
  have hne : n ≠ 0 := by
    rintro rfl
    exact absurd hn (by decide)
  have hlog : 53 ≤ n.log2 := (Nat.le_log2 hne).mpr hn
  rw [unitStep, unitStep, log2_mul_pow hne, ← two_pow_add]
  refine congrArg _ ?_
  omega

/-- Rounding does not depend on the unit, if this is a power of two. -/
theorem roundUnits_mul_pow (n j : Nat) :
    roundUnits (n * Nat.pow 2 j) 1 = roundUnits n 1 * Nat.pow 2 j := by
  by_cases hsmall : n < Nat.pow 2 53
  · -- both are numbers of 53 bits
    have hn := (isNearest_roundUnits n).eq_of_hasBits (hasBits_of_lt hsmall)
    have hmul := (isNearest_roundUnits (n * Nat.pow 2 j)).eq_of_hasBits
      (hasBits_mul_pow (by decide) (Nat.le_of_lt hsmall) j)
    rw [Int.ofNat.inj hn, Int.ofNat.inj hmul]
  · have hpos : 0 < Nat.pow 2 j := Nat.two_pow_pos j
    have hstep := unitStep_mul_pow (Nat.not_lt.mp hsmall) j
    simp only [roundUnits, Nat.div_one, Nat.one_mul, hstep, roundQuotient_mul_right _ _ hpos,
      Nat.mul_assoc]

theorem roundUnits_mul_unitsInOne (n : Nat) :
    roundUnits (n * unitsInOne) 1 = roundUnits n 1 * unitsInOne := by
  unfold unitsInOne
  generalize 1074 = j
  exact roundUnits_mul_pow n j

/-- **The binary number of an integer has the value of the nearest one.** -/
theorem signedUnits_ofInt (n : Int) :
    (Binary64.ofInt n).signedUnits = nearest n * unitsInOne := by
  have hpositive (u : Nat) : (Binary64.mk false u).signedUnits = u := rfl
  have hnegative (u : Nat) : (Binary64.mk true u).signedUnits = -(u : Int) := rfl
  cases n with
  | ofNat n =>
      have hn : ¬ Int.ofNat n < 0 := Int.not_lt.mpr (Int.natCast_nonneg n)
      rw [nearest, if_neg hn, Binary64.ofInt, Binary64.ofNat, hpositive,
        roundUnits_mul_unitsInOne, Int.natCast_mul]
      rfl
  | negSucc n =>
      rw [nearest, if_pos (Int.negSucc_lt_zero n), Binary64.ofInt, Binary64.ofNat, hnegative,
        roundUnits_mul_unitsInOne, Int.natCast_mul, Int.neg_mul]
      rfl

theorem unitsInOne_pos : (0 : Int) < unitsInOne := by
  unfold unitsInOne
  generalize 1074 = j
  exact Int.natCast_pos.mpr (Nat.two_pow_pos j)

/-- The binary numbers of two integers have the same value if these are rounded to the same. -/
theorem sameValue_ofInt (a b : Int) :
    (Binary64.ofInt a).sameValue (.ofInt b) = true ↔ nearest a = nearest b := by
  rw [Binary64.sameValue, signedUnits_ofInt, signedUnits_ofInt, beq_iff_eq]
  exact Int.mul_eq_mul_right_iff (Int.ne_of_gt unitsInOne_pos)

/-- The binary numbers of two integers are ordered as what these are rounded to. -/
theorem order_ofInt (a b : Int) :
    (Binary64.ofInt a).order (.ofInt b) = compare (nearest a) (nearest b) := by
  rw [Binary64.order, signedUnits_ofInt, signedUnits_ofInt, Int.compare_eq_ite_lt,
    Int.compare_eq_ite_lt]
  simp only [Int.mul_lt_mul_right unitsInOne_pos]

end CourseFeed.Decimal
