import CourseFeed.Catalog.Selection
import CourseFeed.Proofs.DisplayedValues
import CourseFeed.Proofs.OrderedValues
import CourseFeed.Proofs.SpacedFilters

/-!
# Filters by order

Filters by order and by equality on one name and one literal ask the same value in different ways.
What they accept is told by the order of the field with the value, which is total among numbers and
among texts; a field that is in no order with the value is accepted by none of them.

* **`Extractors.Ordered`** — such filters, as they are compiled; **`exists_ordered`**: those of a
  number or a text compile.
* **`Extractors.Ordered.accepts_of_order`** — what they say of a field that is ordered with the
  value, and **`Extractors.Ordered.accepts_of_kind_ne`**: what of one of another kind.
* **`filters_ordered`** — what filters by order accept, from their texts on.
-/

namespace CourseFeed

open CourseFeed.Text

/-! ## Filters -/

/-- The signs that ask for an order. -/
def orderSigns : List String := ["<", "<=", ">=", ">"]

/-- Filters by these signs and by `==` on one name and one text, as they are compiled. -/
def Extractors.Ordered {ε : Type} (t : Extractors ε) (name text : List Char)
    (filters : String → Filter ε) : Prop :=
  ∀ sign ∈ "==" :: orderSigns, ∃ s : Spacing, t.compile (s.filter false name sign text) =
    .ok (filters sign)

/-- The operators that these signs stand for. -/
def Operator.comparing : List Operator := .eq :: Operator.orders

section

variable {ε : Type} {t : Extractors ε} {name text : List Char} {v : Value} {sign : String}

theorem IsSign.mem_comparing_iff {op : Operator} (h : IsSign sign op) :
    op ∈ Operator.comparing ↔ sign ∈ "==" :: orderSigns := by
  cases h <;> decide

theorem exists_isSign (h : sign ∈ "==" :: orderSigns) :
    ∃ op, IsSign sign op ∧ op ∈ Operator.comparing := by
  have hsign : ∃ op, IsSign sign op := by
    simp only [orderSigns, List.mem_cons, List.not_mem_nil, or_false] at h
    rcases h with rfl | rfl | rfl | rfl | rfl
    · exact ⟨_, .eq⟩
    · exact ⟨_, .lt⟩
    · exact ⟨_, .le⟩
    · exact ⟨_, .ge⟩
    · exact ⟨_, .gt⟩
  obtain ⟨op, hop⟩ := hsign
  exact ⟨op, hop, hop.mem_comparing_iff.mpr h⟩

/-- None of these operators negates. -/
theorem Operator.negates_of_mem_comparing {op : Operator} (h : op ∈ Operator.comparing) :
    op.negates = false := by
  have hall : ∀ op ∈ Operator.comparing, op.negates = false := by decide
  exact hall op h

/-- The filters of a number or a text compile. -/
theorem exists_ordered (hname : IsName name) (hknown : String.ofList name ∈ t.names)
    (hv : Value.parse (String.ofList text) = .ok (some v)) (hkind : v.kind ∈ ["number", "string"])
    (s : String → Spacing) :
    ∃ filters : String → Filter ε, ∀ sign ∈ "==" :: orderSigns,
      t.compile ((s sign).filter false name sign text) = .ok (filters sign) := by
  have hcompile : ∀ sign ∈ "==" :: orderSigns,
      ∃ f, t.compile ((s sign).filter false name sign text) = .ok f := by
    intro sign hmem
    obtain ⟨op, hsign, hop⟩ := exists_isSign hmem
    refine (Spacing.exists_compile_iff hname (hsign.finds_of_parse hv)).mpr ⟨v, hv, ?_, ?_⟩
    · rcases List.mem_cons.mp hop with rfl | horder
      · rfl
      · exact (Operator.supports_iff_of_mem_orders horder).mpr hkind
    · exact (resolve_eq_ok_iff t _).mpr ⟨Extractors.isEmpty_of_known hknown, _, rfl, hknown⟩
  have hall : ∀ sign, ∃ f, sign ∈ "==" :: orderSigns →
      t.compile ((s sign).filter false name sign text) = .ok f := by
    intro sign
    by_cases hmem : sign ∈ "==" :: orderSigns
    · obtain ⟨f, hf⟩ := hcompile sign hmem
      exact ⟨f, fun _ => hf⟩
    -- for another sign any filter will do
    · obtain ⟨other, -⟩ := hcompile "==" List.mem_cons_self
      exact ⟨other, fun h => absurd h hmem⟩
  exact Classical.skolem.mp hall

namespace Extractors.Ordered

variable {filters : String → Filter ε} (h : t.Ordered name text filters) (hname : IsName name)
  (hv : Value.parse (String.ofList text) = .ok (some v)) {op : Operator} (hsign : IsSign sign op)

include h hname hv

include hsign in
/-- What is known of the filters by their operators. -/
theorem compiled (hop : op ∈ Operator.comparing) :
    op.comparison.supports v = true ∧
      ∀ f, (filters sign).criterion.accepts f = op.comparison.holds v f := by
  obtain ⟨s, hs⟩ := h sign (hsign.mem_comparing_iff.mp hop)
  obtain ⟨v', hv', hsupports, -, hc⟩ :=
    (Spacing.compile_filter_iff hname (hsign.finds_of_parse hv)).mp hs
  obtain rfl := Option.some.inj (Except.ok.inj (hv.symm.trans hv'))
  refine ⟨hsupports, ?_⟩
  intro f
  rw [hc, Criterion.accepts, Operator.negates_of_mem_comparing hop]
  exact Bool.bne_false _

/-- As they compile, their value is a number or a text. -/
theorem kind : v.kind ∈ ["number", "string"] :=
  (Operator.supports_iff_of_mem_orders (by decide)).mp (h.compiled hname hv .lt (by decide)).1

include hsign in
/-- They accept a field that is ordered with their value in the orders that their operators
    admit. -/
theorem accepts_of_order (hop : op ∈ Operator.comparing) {admits : Ordering → Bool}
    (hadmits : op.onOrder? = some admits) {f : Value} {o : Ordering} (ho : f.order v = some o) :
    (filters sign).criterion.accepts f = admits o := by
  rw [(h.compiled hname hv hsign hop).2]
  exact Operator.holds_of_order hadmits ho

/-- **They accept no field of another kind.** -/
theorem accepts_of_kind_ne (hmem : sign ∈ "==" :: orderSigns) {f : Value}
    (hkind : f.kind ≠ v.kind) : (filters sign).criterion.accepts f = false := by
  obtain ⟨op, hsign, hop⟩ := exists_isSign hmem
  rw [(h.compiled hname hv hsign hop).2]
  rcases List.mem_cons.mp hop with rfl | horder
  · exact Value.same_of_kind_ne hkind.symm
  · refine Operator.holds_of_unordered horder ?_
    intro o ho
    exact hkind (Value.exists_order_iff.mp ⟨o, ho⟩).1.symm

theorem accepts_lt_iff {f : Value} :
    (filters "<").criterion.accepts f = true ↔ f.order v = some .lt := by
  by_cases hkind : f.kind = v.kind
  · obtain ⟨o, ho⟩ := Value.exists_order_iff.mpr ⟨hkind, hkind ▸ h.kind hname hv⟩
    rw [h.accepts_of_order hname hv .lt (by decide) rfl ho, ho, Option.some.injEq]
    cases o <;> decide
  · rw [h.accepts_of_kind_ne hname hv (by decide) hkind]
    constructor
    · intro hfalse
      exact nomatch hfalse
    · intro ho
      exact absurd (Value.exists_order_iff.mp ⟨_, ho⟩).1 hkind

end Extractors.Ordered

end

/-- **Filters by order order the fields of their value's kind totally, and accept no others.**
    Every integer of 64 bits and every plain text has a literal.  By a literal that is a number or a
    text, filters by the four operators of order and by equality are accepted, whatever their gaps
    are.  A field of the kind of the value is accepted by just one of `<`, `==` and `>`; `<=` and
    `>=` accept what `<` or `>` and what `==` accepts; a text is below another by the codes of its
    characters; and what is below a value that is below another is below the other.  A field of
    another kind is accepted by no filter by order. -/
theorem filters_ordered {ε : Type} {t : Extractors ε} {name : List Char} (hname : IsName name)
    (hknown : String.ofList name ∈ t.names) :
    (∀ v : Value, v.Plain 127 →
      ∃ text, Value.parse (String.ofList text) = .ok (some v)) ∧
    (∀ text v, Value.parse (String.ofList text) = .ok (some v) → v.kind ∈ ["number", "string"] →
      ∀ s : String → Spacing, ∃ filters : String → Filter ε, ∀ sign ∈ "==" :: orderSigns,
        t.compile ((s sign).filter false name sign text) = .ok (filters sign)) ∧
    ∀ text v, Value.parse (String.ofList text) = .ok (some v) →
      ∀ filters, t.Ordered name text filters →
        let accepts sign := (filters sign).criterion.accepts
        (∀ f, f.kind = v.kind → ["<", "==", ">"].countP (accepts · f) = 1) ∧
        (∀ f, accepts "<=" f = (accepts "<" f || accepts "==" f) ∧
          accepts ">=" f = (accepts ">" f || accepts "==" f)) ∧
        (∀ a b, v = .text a → (accepts "<" (.text b) = true ↔
          b.toList.map Char.toNat < a.toList.map Char.toNat)) ∧
        (∀ text' w, Value.parse (String.ofList text') = .ok (some w) →
          ∀ others, t.Ordered name text' others → ∀ f, accepts "<" f = true →
            (others "<").criterion.accepts v = true →
            (others "<").criterion.accepts f = true) ∧
        ∀ f, f.kind ≠ v.kind → ∀ sign ∈ orderSigns, accepts sign f = false := by
  refine ⟨fun v hv => ⟨_, hv.isToken.value⟩,
    fun text v hv hkind s => exists_ordered hname hknown hv hkind s, ?_⟩
  intro text v hv filters hfilters accepts
  have hanswer {sign : String} {op : Operator} (hsign : IsSign sign op)
      (hop : op ∈ Operator.comparing) {admits : Ordering → Bool}
      (hadmits : op.onOrder? = some admits) {f : Value} {o : Ordering}
      (ho : f.order v = some o) : accepts sign f = admits o :=
    hfilters.accepts_of_order hname hv hsign hop hadmits ho
  have hordered {f : Value} (hkind : f.kind = v.kind) : ∃ o, f.order v = some o :=
    Value.exists_order_iff.mpr ⟨hkind, hkind ▸ hfilters.kind hname hv⟩
  refine ⟨?_, ?_, ?_, ?_, ?_⟩
  · intro f hkind
    obtain ⟨o, ho⟩ := hordered hkind
    simp only [List.countP_cons, List.countP_nil, hanswer .lt (by decide) rfl ho,
      hanswer .eq (by decide) rfl ho, hanswer .gt (by decide) rfl ho]
    cases o <;> rfl
  · intro f
    by_cases hkind : f.kind = v.kind
    · obtain ⟨o, ho⟩ := hordered hkind
      rw [hanswer .le (by decide) rfl ho, hanswer .lt (by decide) rfl ho,
        hanswer .ge (by decide) rfl ho, hanswer .gt (by decide) rfl ho,
        hanswer .eq (by decide) rfl ho]
      cases o <;> exact ⟨rfl, rfl⟩
    · have hnone : ∀ sign ∈ "==" :: orderSigns, accepts sign f = false :=
        fun sign hmem => hfilters.accepts_of_kind_ne hname hv hmem hkind
      rw [hnone "<=" (by decide), hnone "<" (by decide), hnone ">=" (by decide),
        hnone ">" (by decide), hnone "==" (by decide)]
      exact ⟨rfl, rfl⟩
  · rintro a b rfl
    exact (hfilters.accepts_lt_iff hname hv).trans Value.order_text_iff
  · intro text' w hw others hothers f hf hvw
    have hfv := (hfilters.accepts_lt_iff hname hv).mp hf
    have hvw := (hothers.accepts_lt_iff hname hw).mp hvw
    exact (hothers.accepts_lt_iff hname hw).mpr (Value.order_trans hfv hvw)
  · intro f hkind sign hmem
    exact hfilters.accepts_of_kind_ne hname hv (List.mem_cons_of_mem _ hmem) hkind

/-- Filters on the code by a letter and by a longer text, and filters by the largest word. -/
theorem filters_ordered_code :
    let name := "code".toList
    let text := "\"B\"".toList
    let text' := "\"BA\"".toList
    let s : String → Spacing := fun _ => ⟨[], [], [' '], ['\t'], [], by decide⟩
    (∃ filters others, Catalog.extractors.Ordered name text filters ∧
      Catalog.extractors.Ordered name text' others ∧
      (filters "<").criterion.accepts (.text "AZ") = true ∧
      (others "<").criterion.accepts (.text "B") = true ∧
      (others "<").criterion.accepts (.text "AZ") = true ∧
      (filters ">=").criterion.accepts .null = false) ∧
    ∃ (word : List Char) (filters : String → Filter Element),
      Value.parse (String.ofList word) = .ok (some (.ofInt Json.maxWord)) ∧
      (∀ sign ∈ "==" :: orderSigns, Catalog.extractors.compile
        ((s sign).filter false name sign word) = .ok (filters sign)) ∧
      ∀ n : Int, ["<", "==", ">"].countP
        (fun sign => (filters sign).criterion.accepts (.ofInt n)) = 1 := by
  intro name text text' s
  have hname : IsName name :=
    isName_cons_iff.mpr ⟨by decide, List.all_eq_true.mp (by decide)⟩
  have hknown : String.ofList name ∈ Catalog.extractors.names := by decide
  obtain ⟨hliterals, hcompile, hlaws⟩ := filters_ordered (t := Catalog.extractors) hname hknown
  refine ⟨?_, ?_⟩
  · have hplain (a : String) (h : Json.IsPlainText a) : (Value.text a).Plain 127 := .text h
    have hv : Value.parse (String.ofList text) = .ok (some (.text "B")) :=
      (hplain "B" (by decide)).isToken.value
    have hw : Value.parse (String.ofList text') = .ok (some (.text "BA")) :=
      (hplain "BA" (by decide)).isToken.value
    obtain ⟨filters, hfilters⟩ := hcompile text _ hv (by decide) s
    obtain ⟨others, hothers⟩ := hcompile text' _ hw (by decide) s
    have hordered : Catalog.extractors.Ordered name text filters :=
      fun sign hmem => ⟨s sign, hfilters sign hmem⟩
    have hordered' : Catalog.extractors.Ordered name text' others :=
      fun sign hmem => ⟨s sign, hothers sign hmem⟩
    obtain ⟨-, -, hcodes, htrans, hother⟩ := hlaws text _ hv filters hordered
    obtain ⟨-, -, hcodes', -⟩ := hlaws text' _ hw others hordered'
    have hbelow := (hcodes _ "AZ" rfl).mpr (by decide)
    have hbelow' := (hcodes' _ "B" rfl).mpr (by decide)
    exact ⟨filters, others, hordered, hordered', hbelow, hbelow',
      htrans text' _ hw others hordered' _ hbelow hbelow',
      hother .null (by decide) ">=" (by decide)⟩
  · obtain ⟨word, hv⟩ := hliterals (.ofInt Json.maxWord) (.int (by decide) (Int.le_refl _))
    obtain ⟨filters, hfilters⟩ := hcompile _ _ hv (List.mem_cons_self) s
    refine ⟨word, filters, hv, hfilters, ?_⟩
    intro n
    exact (hlaws _ _ hv filters fun sign hmem => ⟨s sign, hfilters sign hmem⟩).1 (.ofInt n) rfl

end CourseFeed
