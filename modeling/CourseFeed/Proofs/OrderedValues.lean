import CourseFeed.Filter.Comparison

/-!
# Ordered values

Numbers are ordered with numbers and texts with texts, each totally, and values are equal just where
they are ordered so.  An operator compares a field with a value, while the value is asked about the
field, so what is asked is turned round.

* **`Value.order_eq_some_iff`** — which values are ordered, and how.
* **`Value.order_swap`**, **`Value.same_of_order`**, **`Value.order_trans`** — the laws of the
  order.
* **`Operator.onOrder?`** — which orders of a field with the value an operator admits, and
  **`Operator.holds_of_order`**: these are the ones for which its comparison holds.
-/

namespace CourseFeed

/-! ## The order of values -/

/-- Lists of characters are ordered as the lists of their codes. -/
theorem lt_iff_codes (a b : List Char) : a < b ↔ a.map Char.toNat < b.map Char.toNat := by
  induction a generalizing b with
  | nil => cases b <;> simp
  | cons c rest ih =>
      cases b with
      | nil => simp
      | cons d rest' =>
          rw [List.map_cons, List.map_cons, List.cons_lt_cons_iff, List.cons_lt_cons_iff, ih,
            Char.toNat_inj]
          exact Iff.rfl

namespace Value

variable {v w f : Value} {o : Ordering}

/-- **Numbers are ordered with numbers and texts with texts**, and nothing else is ordered. -/
theorem order_eq_some_iff :
    v.order f = some o ↔
      (∃ a b, v = .number a ∧ f = .number b ∧
        compare a.toBinary.signedUnits b.toBinary.signedUnits = o) ∨
      ∃ a b, v = .text a ∧ f = .text b ∧ compare a b = o := by
  constructor
  · intro h
    cases v with
    | number a =>
        cases f with
        | number b => exact Or.inl ⟨a, b, rfl, rfl, Option.some.inj h⟩
        | _ => exact nomatch h
    | text a =>
        cases f with
        | text b => exact Or.inr ⟨a, b, rfl, rfl, Option.some.inj h⟩
        | _ => exact nomatch h
    | _ => exact nomatch h
  · rintro (⟨a, b, rfl, rfl, rfl⟩ | ⟨a, b, rfl, rfl, rfl⟩) <;> rfl

/-- Values are ordered just if they are both numbers or both texts. -/
theorem exists_order_iff :
    (∃ o, v.order f = some o) ↔ v.kind = f.kind ∧ v.kind ∈ ["number", "string"] := by
  cases v <;> cases f <;> simp [order, kind]

/-- Values of different kinds are different. -/
theorem same_of_kind_ne (h : v.kind ≠ f.kind) : v.same f = false := by
  cases v <;> cases f <;> first | rfl | exact absurd rfl h

/-- Seen from the other one, the order of two values is turned round. -/
theorem order_swap (h : v.order f = some o) : f.order v = some o.swap := by
  rw [order_eq_some_iff] at h ⊢
  rcases h with ⟨a, b, rfl, rfl, rfl⟩ | ⟨a, b, rfl, rfl, rfl⟩
  · exact Or.inl ⟨b, a, rfl, rfl, Std.OrientedCmp.eq_swap⟩
  · exact Or.inr ⟨b, a, rfl, rfl, Std.OrientedCmp.eq_swap⟩

/-- **Values that are ordered are the same just if they are ordered as equal.** -/
theorem same_of_order (h : v.order f = some o) : v.same f = o.isEq := by
  rw [order_eq_some_iff] at h
  rcases h with ⟨a, b, rfl, rfl, rfl⟩ | ⟨a, b, rfl, rfl, rfl⟩
  · rw [Bool.eq_iff_iff, Ordering.isEq_iff_eq_eq, Std.compare_eq_iff_eq]
    exact beq_iff_eq
  · rw [Bool.eq_iff_iff, Ordering.isEq_iff_eq_eq, Std.compare_eq_iff_eq]
    exact beq_iff_eq

/-- **What is below a value that is below another is below the other.** -/
theorem order_trans (h : f.order v = some .lt) (h' : v.order w = some .lt) :
    f.order w = some .lt := by
  rw [order_eq_some_iff] at h h' ⊢
  rcases h with ⟨a, b, rfl, rfl, hab⟩ | ⟨a, b, rfl, rfl, hab⟩
  · rcases h' with ⟨b', c, hb, rfl, hbc⟩ | ⟨b', c, hb, -⟩
    · obtain rfl := Value.number.inj hb
      exact Or.inl ⟨a, c, rfl, rfl, Std.TransCmp.lt_trans hab hbc⟩
    · exact nomatch hb
  · rcases h' with ⟨b', c, hb, -⟩ | ⟨b', c, hb, rfl, hbc⟩
    · exact nomatch hb
    · obtain rfl := Value.text.inj hb
      exact Or.inr ⟨a, c, rfl, rfl, Std.TransCmp.lt_trans hab hbc⟩

theorem order_text_iff {a b : String} :
    (Value.text a).order (.text b) = some .lt ↔
      a.toList.map Char.toNat < b.toList.map Char.toNat := by
  rw [← lt_iff_codes, ← String.lt_iff]
  exact Option.some_inj.trans compareOfLessAndEq_eq_lt

end Value

/-! ## What operators admit -/

namespace Operator

/-- The orders of a field with a value that an operator admits. -/
def onOrder? : Operator → Option (Ordering → Bool)
  | .lt => some Ordering.isLT
  | .le => some Ordering.isLE
  | .eq => some Ordering.isEq
  | .ne => some Ordering.isNe
  | .ge => some Ordering.isGE
  | .gt => some Ordering.isGT
  | _ => none

/-- The operators that ask for an order. -/
def orders : List Operator := [.lt, .le, .ge, .gt]

variable {op : Operator} {value field : Value}

/-- **A comparison holds of a field in the orders with the value that its operator admits.** -/
theorem holds_of_order {admits : Ordering → Bool} (h : op.onOrder? = some admits) {o : Ordering}
    (ho : field.order value = some o) : op.comparison.holds value field = admits o := by
  -- the value is asked, so the order is turned round
  have hvalue := Value.order_swap ho
  have hsame := Value.same_of_order hvalue
  cases op with
  | lt | le | ge | gt =>
      obtain rfl := Option.some.inj h
      simp only [comparison, Comparison.holds, hvalue]
      cases o <;> rfl
  | eq | ne =>
      obtain rfl := Option.some.inj h
      simp only [comparison, Comparison.holds, hsame]
      cases o <;> rfl
  | tilde | equalTilde | notTilde | isIn | keyIn | valueIn => exact nomatch h

/-- Without an order no comparison by order holds. -/
theorem holds_of_unordered (hop : op ∈ orders) (h : ∀ o, value.order field ≠ some o) :
    op.comparison.holds value field = false := by
  have hnone : value.order field = none := Option.eq_none_iff_forall_ne_some.mpr h
  simp only [orders, List.mem_cons, List.not_mem_nil, or_false] at hop
  rcases hop with rfl | rfl | rfl | rfl <;>
    simp only [comparison, Comparison.holds, hnone] <;> rfl

/-- The comparisons by order go with the values that have one. -/
theorem supports_iff_of_mem_orders (hop : op ∈ orders) :
    op.comparison.supports value = true ↔ value.kind ∈ ["number", "string"] := by
  simp only [orders, List.mem_cons, List.not_mem_nil, or_false] at hop
  rcases hop with rfl | rfl | rfl | rfl <;> cases value <;>
    simp [comparison, Comparison.supports, Value.kind]

end Operator

end CourseFeed
