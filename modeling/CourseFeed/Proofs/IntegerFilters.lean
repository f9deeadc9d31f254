import CourseFeed.Catalog.Selection
import CourseFeed.Proofs.DisplayedValues
import CourseFeed.Proofs.FilterGrammar
import CourseFeed.Proofs.NearestIntegers
import CourseFeed.Proofs.OrderedValues

/-!
# Filters on integers

Values compare integers by the binary numbers made of them, so filters see the nearest integers of
53 bits in place of the integers.

* **`Operator.onIntegers?`** — what an operator says of two integers, and **`holds_ofInt`**: what
  it says of the nearest ones is the answer of its comparison.
* **`Operator.onIntegers?_nearest`** — that is the answer for the integers themselves, unless these
  are different and rounded to the same.
* **`filters_on_integers`** — equality, order, and the filters on an integer field with an integer
  or a list of integers, from their texts on.
* **`integers_rounded_alike`** — two integers that no filter tells apart.
-/

namespace CourseFeed

open CourseFeed.Text CourseFeed.Decimal

/-- What an operator says of an integer field and an integer. -/
def Operator.onIntegers? : Operator → Option (Int → Int → Bool)
  | .lt => some fun field value => field < value
  | .le => some fun field value => field ≤ value
  | .eq => some fun field value => field = value
  | .ne => some fun field value => field ≠ value
  | .ge => some fun field value => value ≤ field
  | .gt => some fun field value => value < field
  | _ => none

/-! ## Relations between integers -/

theorem order_ofInt (a b : Int) :
    (Value.ofInt a).order (.ofInt b) = some (compare (nearest a) (nearest b)) :=
  congrArg some (Decimal.order_ofInt a b)

theorem same_ofInt (a b : Int) :
    (Value.ofInt a).same (.ofInt b) = true ↔ nearest a = nearest b :=
  sameValue_ofInt a b

/-- What an operator says of two integers is whether it admits their order. -/
theorem Operator.onOrder?_compare {op : Operator} {r : Int → Int → Bool}
    (h : op.onIntegers? = some r) :
    ∃ admits, op.onOrder? = some admits ∧ ∀ a b : Int, admits (compare a b) = r a b := by
  cases op with
  | lt | le | eq | ne | ge | gt =>
      obtain rfl := Option.some.inj h
      refine ⟨_, rfl, ?_⟩
      intro a b
      rw [Bool.eq_iff_iff, decide_eq_true_iff]
      simp only [Ordering.isLT_iff_eq_lt, Ordering.isEq_iff_eq_eq, Ordering.isNe_iff_ne_eq,
        Ordering.isGT_iff_eq_gt, Int.isLE_compare, Int.isGE_compare, Int.compare_eq_lt,
        Int.compare_eq_eq, Int.compare_eq_gt, ne_eq]
  | tilde | equalTilde | notTilde | isIn | keyIn | valueIn => exact nomatch h

/-- A comparison of integers answers what its operator says of the nearest ones. -/
theorem holds_ofInt {op : Operator} {r : Int → Int → Bool} (h : op.onIntegers? = some r)
    (value field : Int) :
    op.comparison.holds (.ofInt value) (.ofInt field) = r (nearest field) (nearest value) := by
  obtain ⟨admits, hadmits, hcompare⟩ := Operator.onOrder?_compare h
  rw [Operator.holds_of_order hadmits (order_ofInt field value), hcompare]

/-- **An operator says the same of the nearest integers as of the integers themselves**, where these
    are not different and rounded to the same. -/
theorem Operator.onIntegers?_nearest {op : Operator} {r : Int → Int → Bool}
    (h : op.onIntegers? = some r) {a b : Int} (hapart : nearest a = nearest b → a = b) :
    r (nearest a) (nearest b) = r a b := by
  have hle := nearest_le_iff hapart
  have hge := nearest_le_iff fun h => (hapart h.symm).symm
  cases op with
  | lt | le | eq | ne | ge | gt =>
      obtain rfl := Option.some.inj h
      exact decide_eq_decide.mpr (by omega)
  | tilde | equalTilde | notTilde | isIn | keyIn | valueIn => exact nomatch h

/-- A list of integers holds one if one of them is rounded to the same. -/
theorem contains_ofInt (values : List Int) (field : Int) :
    (Value.list (values.map .ofInt)).contains (.ofInt field) =
      values.any fun value => nearest field = nearest value := by
  show (values.map .ofInt).any (fun item : Value => item.same (.ofInt field)) = _
  rw [List.any_map]
  refine congrArg (List.any values) (funext ?_)
  intro value
  rw [Function.comp_apply, Bool.eq_iff_iff, same_ofInt, decide_eq_true_iff]
  exact eq_comm

/-! ## Filters from their texts -/

/-- A phrase with a name that is in the table, and an operator that goes with its value, is accepted
    as the criterion that it means. -/
theorem Phrase.parse_text {ε : Type} {table : Extractors ε} {p : Phrase} {name : List Char}
    {v : Value} {asked : Comparison} (hname : p.name? = some name)
    (hknown : String.ofList name ∈ table.names) (hformed : p.Formed v)
    (hasks : ∀ op, p.operator? = some op → op.Asks asked ∧ asked.Suits v)
    (halone : p.operator? = none → v.Asks asked) :
    Criterion.parse (String.ofList p.text) table =
      .ok ((Sentence.mk none p).criterion v asked) := by
  have hvalid : (Sentence.mk none p).Valid table v asked := by
    refine ⟨?_, hformed, ?_, ?_, hasks, halone⟩
    · intro gap hnone
      exact nomatch hnone
    · intro name' hname'
      rw [← Option.some.inj (hname.symm.trans hname')]
      exact hknown
    · intro hnone
      exact nomatch hname.symm.trans hnone
  have htext : p.text = (Sentence.mk none p).text := rfl
  rw [htext]
  exact Criterion.parse_text hvalid (Extractors.isEmpty_of_known hknown)

/-- Without a negation the criterion of a phrase answers as its comparison does. -/
theorem Phrase.accepts_criterion {p : Phrase} (h : p.operator? ≠ some .notTilde)
    (asked : Comparison) (v field : Value) :
    ((Sentence.mk none p).criterion v asked).accepts field = asked.holds v field := by
  show (_ != xor false (decide (p.operator? = some .notTilde))) = _
  rw [decide_eq_false h, Bool.false_xor, Bool.bne_false]
  rfl

/-- The operators for integers take them and do not negate. -/
theorem Operator.of_onIntegers? {op : Operator} {r : Int → Int → Bool}
    (h : op.onIntegers? = some r) :
    op ≠ .notTilde ∧ ∀ n : Int, op.comparison.Suits (.ofInt n) := by
  cases op with
  | lt | le | eq | ne | ge | gt => exact ⟨by decide, fun _ => Comparison.suits_iff.mpr rfl⟩
  | tilde | equalTilde | notTilde | isIn | keyIn | valueIn => exact nomatch h

section

variable {ε : Type} {table : Extractors ε} {name gap gap' : List Char}

/-- A filter by an integer answers what its operator says of the nearest integers. -/
theorem accepts_signed (hname : IsName name)
    (hknown : String.ofList name ∈ table.names) (hgap : IsGap gap)
    (hgap' : IsGap gap') {sign : String} {op : Operator} (hsign : IsSign sign op)
    {r : Int → Int → Bool} (hop : op.onIntegers? = some r) {value : Int}
    (hlow : -(Nat.pow 2 63 : Nat) ≤ value) (hhigh : value ≤ Json.maxWord) :
    ∃ c, Criterion.parse (String.ofList
        (name ++ (gap ++ (sign.toList ++ (gap' ++ intText value))))) table = .ok c ∧
      ∀ field : Int, c.accepts (.ofInt field) = r (nearest field) (nearest value) := by
  obtain ⟨hpositive, hsuits⟩ := Operator.of_onIntegers? hop
  let p : Phrase := .signed name gap sign op gap' (intText value)
  have hparse : Criterion.parse (String.ofList p.text) table =
      .ok ((Sentence.mk none p).criterion (.ofInt value) op.comparison) := by
    refine p.parse_text rfl hknown ⟨hname, hgap, hsign, hgap', isToken_intText hlow hhigh⟩ ?_
      fun hnone => absurd hnone (Option.some_ne_none op)
    intro op' hop'
    rw [← Option.some.inj hop']
    exact ⟨Operator.asks_iff.mpr rfl, hsuits value⟩
  refine ⟨_, hparse, ?_⟩
  intro field
  rw [p.accepts_criterion fun hnot => hpositive (Option.some.inj hnot)]
  exact holds_ofInt hop value field

/-- A filter by a list of integers answers whether one of them is rounded as the field is. -/
theorem accepts_listed (hname : IsName name)
    (hknown : String.ofList name ∈ table.names) (hgap : IsGap gap ∧ gap ≠ [])
    (hgap' : IsGap gap' ∧ gap' ≠ []) {values : List Int}
    (hvalues : ∀ v ∈ values, -(Nat.pow 2 63 : Nat) ≤ v ∧ v ≤ Json.maxWord) {between : List Char}
    (hbetween : between ∈ [gap, gap ++ ("in".toList ++ gap')]) :
    ∃ c, Criterion.parse (String.ofList (name ++ (between ++ intListText values))) table =
        .ok c ∧
      ∀ field : Int,
        c.accepts (.ofInt field) = values.any fun v => nearest field = nearest v := by
  have htoken := isToken_intListText hvalues
  simp only [List.mem_cons, List.not_mem_nil, or_false] at hbetween
  rcases hbetween with rfl | rfl
  · let p : Phrase := .plain name between (intListText values)
    have hparse : Criterion.parse (String.ofList p.text) table =
        .ok ((Sentence.mk none p).criterion (.list (values.map .ofInt)) .contains) :=
      p.parse_text rfl hknown ⟨hname, hgap, htoken⟩
        (fun op hop => absurd hop.symm (Option.some_ne_none op)) fun _ => .list _
    refine ⟨_, hparse, ?_⟩
    intro field
    rw [p.accepts_criterion fun hnot => Option.some_ne_none _ hnot.symm]
    exact contains_ofInt values field
  · let p : Phrase := .worded name gap "in" .isIn gap' (intListText values)
    have hparse : Criterion.parse (String.ofList p.text) table =
        .ok ((Sentence.mk none p).criterion (.list (values.map .ofInt)) .contains) := by
      refine p.parse_text rfl hknown ⟨hname, hgap, .isIn, hgap', htoken⟩ ?_
        fun hnone => absurd hnone (Option.some_ne_none _)
      intro op hop
      rw [← Option.some.inj hop]
      exact ⟨.isIn, .list _⟩
    have htext : name ++ ((gap ++ ("in".toList ++ gap')) ++ intListText values) = p.text := by
      simp only [p, Phrase.text, List.append_assoc]
    rw [htext]
    refine ⟨_, hparse, ?_⟩
    intro field
    rw [p.accepts_criterion fun hnot => absurd (Option.some.inj hnot) (by decide)]
    exact contains_ofInt values field

end

/-- **Filters compare integers as the nearest ones that have 53 bits.**  Equality and order of
    values, and the filters on an integer field by an integer or a list of integers of 64 bits, are
    those of the nearest integers.  So they are those of the integers themselves just where no two
    different ones are rounded to the same, as is so whenever one of two is below the bound. -/
theorem filters_on_integers {ε : Type} {table : Extractors ε} {name gap gap' : List Char}
    (hname : IsName name) (hknown : String.ofList name ∈ table.names)
    (hgap : IsGap gap) (hgap' : IsGap gap') :
    (∀ n, IsNearest n (nearest n)) ∧
    (∀ a b : Int,
      (Value.ofInt a).order (.ofInt b) = some (compare (nearest a) (nearest b)) ∧
      ((Value.ofInt a).same (.ofInt b) = true ↔ nearest a = nearest b) ∧
      (((Value.ofInt a).order (.ofInt b) = some (compare a b) ∧
        ((Value.ofInt a).same (.ofInt b) = true ↔ a = b)) ↔ (nearest a = nearest b → a = b)) ∧
      (a.natAbs < Nat.pow 2 53 ∨ b.natAbs < Nat.pow 2 53 → nearest a = nearest b → a = b)) ∧
    (∀ (sign : String) (op : Operator) (r : Int → Int → Bool) (value : Int), IsSign sign op →
      op.onIntegers? = some r → -(Nat.pow 2 63 : Nat) ≤ value → value ≤ Json.maxWord →
      ∃ c, Criterion.parse (String.ofList
          (name ++ (gap ++ (sign.toList ++ (gap' ++ intText value))))) table = .ok c ∧
        ∀ field : Int, c.accepts (.ofInt field) = r (nearest field) (nearest value) ∧
          ((nearest field = nearest value → field = value) →
            c.accepts (.ofInt field) = r field value)) ∧
    ∀ values : List Int, (∀ v ∈ values, -(Nat.pow 2 63 : Nat) ≤ v ∧ v ≤ Json.maxWord) →
      gap ≠ [] → gap' ≠ [] → ∀ between ∈ [gap, gap ++ ("in".toList ++ gap')],
      ∃ c, Criterion.parse (String.ofList (name ++ (between ++ intListText values))) table =
          .ok c ∧
        ∀ field : Int,
          c.accepts (.ofInt field) = values.any (fun v => nearest field = nearest v) ∧
          ((∀ v ∈ values, nearest field = nearest v → field = v) →
            c.accepts (.ofInt field) = decide (field ∈ values)) := by
  refine ⟨isNearest_nearest, ?_, ?_, ?_⟩
  · intro a b
    refine ⟨order_ofInt a b, same_ofInt a b, ?_, ?_⟩
    · rw [order_ofInt, same_ofInt]
      constructor
      · rintro ⟨-, hsame⟩ h
        exact hsame.mp h
      · intro hapart
        exact ⟨congrArg some (compare_nearest hapart), hapart, congrArg nearest⟩
    · rintro (ha | hb) h
      · exact eq_of_nearest_eq ha h
      · exact (eq_of_nearest_eq hb h.symm).symm
  · intro sign op r value hsign hop hlow hhigh
    obtain ⟨c, hparse, haccepts⟩ := accepts_signed hname hknown hgap hgap' hsign hop hlow hhigh
    refine ⟨c, hparse, ?_⟩
    intro field
    refine ⟨haccepts field, ?_⟩
    intro hapart
    rw [haccepts, Operator.onIntegers?_nearest hop hapart]
  · intro values hvalues hne hne' between hbetween
    obtain ⟨c, hparse, haccepts⟩ :=
      accepts_listed hname hknown ⟨hgap, hne⟩ ⟨hgap', hne'⟩ hvalues hbetween
    refine ⟨c, hparse, ?_⟩
    intro field
    refine ⟨haccepts field, ?_⟩
    intro hapart
    rw [haccepts, Bool.eq_iff_iff, List.any_eq_true, decide_eq_true_iff]
    constructor
    · rintro ⟨v, hv, hsame⟩
      rw [hapart v hv (of_decide_eq_true hsame)]
      exact hv
    · intro hmem
      exact ⟨field, hmem, decide_eq_true rfl⟩

/-- Filters on the year by the largest word and by a list of integers. -/
theorem filters_on_integers_year :
    let name := ['y', 'e', 'a', 'r']
    IsName name ∧ String.ofList name ∈ Catalog.extractors.names ∧ IsGap [' '] ∧
      (∃ c, Criterion.parse "year <= 18446744073709551615" Catalog.extractors = .ok c ∧
        ∀ field : Int, c.accepts (.ofInt field) =
          decide (nearest field ≤ nearest 18446744073709551615)) ∧
      ∃ c, Criterion.parse "year in [2015,-1]" Catalog.extractors = .ok c ∧
        ∀ field : Int, c.accepts (.ofInt field) = decide (field ∈ [2015, -1]) := by
  intro name
  have hname : IsName name :=
    isName_cons_iff.mpr ⟨by decide, List.all_eq_true.mp (by decide)⟩
  have hknown : String.ofList name ∈ Catalog.extractors.names := by decide
  have hgap : IsGap [' '] := by decide
  obtain ⟨-, -, hsigned, hlisted⟩ := filters_on_integers hname hknown hgap hgap
  refine ⟨hname, hknown, hgap, ?_, ?_⟩
  · obtain ⟨c, hparse, haccepts⟩ :=
      hsigned "<=" .le _ 18446744073709551615 .le rfl (by decide) (by decide)
    have htext : String.ofList (name ++ ([' '] ++ ("<=".toList ++
        ([' '] ++ intText 18446744073709551615)))) = "year <= 18446744073709551615" := by decide
    rw [htext] at hparse
    exact ⟨c, hparse, fun field => (haccepts field).1⟩
  · obtain ⟨c, hparse, haccepts⟩ :=
      hlisted [2015, -1] (by decide) (by decide) (by decide) _
        (List.mem_cons_of_mem _ List.mem_cons_self)
    have htext : String.ofList (name ++ (([' '] ++ ("in".toList ++ [' '])) ++
        intListText [2015, -1])) = "year in [2015,-1]" := by decide
    rw [htext] at hparse
    refine ⟨c, hparse, fun field => (haccepts field).2 ?_⟩
    intro v hv h
    refine (eq_of_nearest_eq ?_ h.symm).symm
    simp only [List.mem_cons, List.not_mem_nil, or_false] at hv
    rcases hv with rfl | rfl <;> decide

/-- Two integers of 64 bits that are different but neither below nor above each other: they are
    rounded to the same. -/
theorem integers_rounded_alike :
    Value.parse "9007199254740993" = .ok (some (.ofInt 9007199254740993)) ∧
    Value.parse "9007199254740992" = .ok (some (.ofInt 9007199254740992)) ∧
    (Value.ofInt 9007199254740993).same (.ofInt 9007199254740992) = true ∧
    (Value.ofInt 9007199254740993).order (.ofInt 9007199254740992) = some .eq ∧
    compare (9007199254740993 : Int) 9007199254740992 = .gt := by
  have halike : nearest 9007199254740993 = nearest 9007199254740992 := by decide
  have hodd : String.ofList (intText 9007199254740993) = "9007199254740993" := by decide
  have heven : String.ofList (intText 9007199254740992) = "9007199254740992" := by decide
  refine ⟨?_, ?_, (same_ofInt _ _).mpr halike, ?_, by decide⟩
  · rw [← hodd]
    exact (isToken_intText (by decide) (by decide)).value
  · rw [← heven]
    exact (isToken_intText (by decide) (by decide)).value
  · rw [order_ofInt, halike]
    exact congrArg some (Int.compare_eq_eq.mpr rfl)

end CourseFeed
