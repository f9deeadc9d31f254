import CourseFeed.Proofs.EscapedTexts
import CourseFeed.Proofs.ValueTexts

/-!
# Lists and objects between brackets

What stands between brackets is read part by part.  It does not matter how the parts are laid out:
blanks before a part are skipped, also behind a comma, and so are blanks before the closing bracket.
So what is written on one line and what is written on many are read by the same lemmas.

* **`Gap`** — the blanks between parts, and **`laidOut`**: parts with commas between them, each
  behind a gap, and a gap behind the last of them.
* **`ReadsItem`** — a text is read as an item wherever it stands in a list, and
  **`readItems_laidOut`**: texts that are each read as an item are read as the list of these items.
* **`TakesMember`** — a text is taken as a member, by which what is known of an object changes; it
  is if its name is read and what follows is taken (**`takesMember_of_pieces`**).
  **`TakesMembers`** puts such changes one after another, and **`readMembers_laidOut`**: members
  that are laid out make the same changes.
-/

namespace CourseFeed.Json

open CourseFeed.Text

/-- A text does not go on as a number does. -/
def EndsNumber (rest : List Char) : Prop :=
  BeginsOff (fun c => (digit? c).isSome || c = '.' || c = 'e' || c = 'E') rest

theorem endsNumber_nil : EndsNumber [] := fun _ _ hnil => nomatch hnil

/-! ## Gaps -/

/-- Blanks between the parts of a text. -/
structure Gap where
  chars : List Char
  spaces : ∀ c ∈ chars, isSpace c = true

namespace Gap

/-- Nothing between two parts. -/
def none : Gap := ⟨[], fun _ h => absurd h List.not_mem_nil⟩

/-- A gap is skipped with the blanks behind it. -/
theorem skipSpace_append (g : Gap) (rest : List Char) (here : Position) :
    ∃ p, (Cursor.mk (g.chars ++ rest) here).skipSpace = (Cursor.mk rest p).skipSpace := by
  obtain ⟨chars, spaces⟩ := g
  induction chars generalizing here with
  | nil => exact ⟨here, rfl⟩
  | cons c tail ih =>
      obtain ⟨p, hskip⟩ :=
        ih (here.after c) fun d hd => spaces d (List.mem_cons_of_mem c hd)
      refine ⟨p, ?_⟩
      show skipSpaceFrom here (c :: (tail ++ rest)) = _
      rw [skipSpaceFrom, if_pos (spaces c List.mem_cons_self)]
      exact hskip

/-- A gap is skipped up to what is no blank. -/
theorem skipSpace_cons (g : Gap) {c : Char} (h : isSpace c = false) (rest : List Char)
    (here : Position) :
    ∃ p, (Cursor.mk (g.chars ++ c :: rest) here).skipSpace = ⟨c :: rest, p⟩ := by
  obtain ⟨p, hskip⟩ := g.skipSpace_append (c :: rest) here
  exact ⟨p, hskip.trans (skipSpaceFrom_of_off p (beginsOff_cons h))⟩

/-- No number goes on in a gap. -/
theorem endsNumber (g : Gap) {rest : List Char} (h : EndsNumber rest) :
    EndsNumber (g.chars ++ rest) := by
  obtain ⟨chars, spaces⟩ := g
  cases chars with
  | nil => exact h
  | cons c tail =>
      have hspace := spaces c List.mem_cons_self
      refine beginsOff_cons ?_
      simp only [isSpace, Bool.or_eq_true, decide_eq_true_eq] at hspace
      rcases hspace with ((rfl | rfl) | rfl) | rfl <;> decide

end Gap

/-- Parts with commas between them, each behind a gap, and a gap behind the last of them. -/
def laidOut (lead trail : Gap) (parts : List (List Char)) : List Char :=
  [','].intercalate (parts.map fun part => lead.chars ++ part) ++ trail.chars

theorem laidOut_none (parts : List (List Char)) :
    laidOut .none .none parts = [','].intercalate parts := by
  show [','].intercalate (parts.map fun part => part) ++ [] = _
  rw [List.append_nil, List.map_id']

/-- What stands behind the first part. -/
def furtherParts (lead trail : Gap) (parts : List (List Char)) : List Char :=
  (parts.flatMap fun part => ',' :: (lead.chars ++ part)) ++ trail.chars

theorem laidOut_cons (lead trail : Gap) (part : List Char) (parts : List (List Char)) :
    laidOut lead trail (part :: parts) = lead.chars ++ part ++ furtherParts lead trail parts := by
  rw [laidOut, furtherParts, ← List.append_assoc]
  refine congrArg (· ++ trail.chars) ?_
  induction parts generalizing part with
  | nil =>
      rw [List.map_singleton, List.intercalate_singleton]
      exact (List.append_nil _).symm
  | cons next rest ih =>
      rw [List.map_cons, List.map_cons, List.intercalate_cons_cons, ← List.map_cons, ih,
        List.flatMap_cons, List.append_assoc]
      rfl

theorem furtherParts_cons (lead trail : Gap) (part : List Char) (parts : List (List Char)) :
    furtherParts lead trail (part :: parts) =
      ',' :: lead.chars ++ (part ++ furtherParts lead trail parts) := by
  simp only [furtherParts, List.flatMap_cons, List.cons_append, List.append_assoc]

theorem length_le_furtherParts (lead trail : Gap) (parts : List (List Char)) :
    parts.length ≤ (furtherParts lead trail parts).length := by
  induction parts with
  | nil => exact Nat.zero_le _
  | cons part rest ih =>
      rw [furtherParts_cons, List.length_append, List.length_append, List.length_cons,
        List.length_cons]
      omega

/-- Behind a part there is a comma, or what ends the parts. -/
theorem endsNumber_furtherParts (lead trail : Gap) (parts : List (List Char)) {rest : List Char}
    (h : EndsNumber rest) : EndsNumber (furtherParts lead trail parts ++ rest) := by
  cases parts with
  | nil => exact trail.endsNumber h
  | cons part parts => exact beginsOff_cons (by decide)

/-! ## Lists -/

/-- A text is read as a value wherever it stands before something that does not go on as a number
    does. It begins with a character that is no blank and does not end a list. -/
structure ReadsItem {α : Type} (item : Reader α) (text : List Char) (value : α) : Prop where
  begins : ∃ c tail, text = c :: tail ∧ isSpace c = false ∧ c ≠ ']'
  reads : ∀ (rest : List Char) (here : Position), EndsNumber rest →
    ∃ p, item ⟨text ++ rest, here⟩ = .ok (value, ⟨rest, p⟩)

theorem endsNumber_bracket (rest : List Char) : EndsNumber (']' :: rest) :=
  beginsOff_cons (by decide)

/-- A bracket behind a gap ends the items. -/
theorem readMoreItems_close (first : Bool) (g : Gap) (rest : List Char) (here : Position) :
    ∃ p, readMoreItems first ⟨g.chars ++ ']' :: rest, here⟩ = .ok (false, ⟨']' :: rest, p⟩) := by
  obtain ⟨p, hskip⟩ := g.skipSpace_cons (c := ']') (by decide) rest here
  refine ⟨p, ?_⟩
  rw [readMoreItems, hskip]
  rfl

section

variable {α : Type} {item : Reader α}

/-- An item follows where one begins, and its text is left to be read. -/
theorem ReadsItem.first {text : List Char} {value : α} (h : ReadsItem item text value) (g : Gap)
    (rest : List Char) (here : Position) :
    ∃ p, readMoreItems true ⟨g.chars ++ (text ++ rest), here⟩ =
      .ok (true, ⟨text ++ rest, p⟩) := by
  obtain ⟨c, tail, rfl, hspace, hclose⟩ := h.begins
  obtain ⟨p, hskip⟩ := g.skipSpace_cons hspace (tail ++ rest) here
  refine ⟨p, ?_⟩
  rw [readMoreItems, List.cons_append, hskip]
  simp only [Cursor.peek?, List.head?_cons, if_true]

theorem ReadsItem.further {text : List Char} {value : α} (h : ReadsItem item text value) (g : Gap)
    (rest : List Char) (here : Position) :
    ∃ p, readMoreItems false ⟨',' :: (g.chars ++ (text ++ rest)), here⟩ =
      .ok (true, ⟨text ++ rest, p⟩) := by
  obtain ⟨c, tail, rfl, hspace, hclose⟩ := h.begins
  obtain ⟨p, hskip⟩ := g.skipSpace_cons hspace (tail ++ rest) (here.after ',')
  have hcomma : (Cursor.mk (',' :: (g.chars ++ (c :: tail ++ rest))) here).skipSpace =
      ⟨',' :: (g.chars ++ (c :: tail ++ rest)), here⟩ := rfl
  have hnext : (Cursor.mk (',' :: (g.chars ++ (c :: tail ++ rest))) here).next.skipSpace =
      ⟨c :: tail ++ rest, p⟩ := hskip
  have hpeek : (Cursor.mk (c :: tail ++ rest) p).peek? ≠ some ']' :=
    fun hhead => hclose (Option.some.inj hhead)
  refine ⟨p, ?_⟩
  simp only [readMoreItems, hcomma, hnext, if_neg hpeek]
  rfl

/-- Where another item follows, it is read, and then the items behind it. -/
theorem ReadsItem.step {text : List Char} {value : α} (h : ReadsItem item text value)
    {first : Bool} (front : List Char) {tail : List Char} {here p : Position}
    (hends : EndsNumber tail)
    (hmore : readMoreItems first ⟨front ++ (text ++ tail), here⟩ = .ok (true, ⟨text ++ tail, p⟩)) :
    ∃ q, ∀ fuel values c, readItemsWithin item false fuel ⟨tail, q⟩ = .ok (values, c) →
      readItemsWithin item first (fuel + 1) ⟨front ++ (text ++ tail), here⟩ =
        .ok (value :: values, c) := by
  obtain ⟨q, hread⟩ := h.reads tail p hends
  refine ⟨q, ?_⟩
  intro fuel values c hrest
  simp only [readItemsWithin, hmore, bind, Except.bind, if_true, hread, hrest]
  rfl

/-- What follows the first item is read as the other ones. -/
theorem readItemsWithin_further {entries : List (List Char × α)}
    (h : ∀ e ∈ entries, ReadsItem item e.1 e.2) (lead trail : Gap) (rest : List Char) {fuel : Nat}
    (hfuel : entries.length < fuel) (here : Position) :
    ∃ p, readItemsWithin item false fuel
        ⟨furtherParts lead trail (entries.map Prod.fst) ++ ']' :: rest, here⟩ =
      .ok (entries.map Prod.snd, ⟨']' :: rest, p⟩) := by
  induction entries generalizing fuel here with
  | nil =>
      obtain ⟨fuel, rfl⟩ : ∃ n, fuel = n + 1 := ⟨fuel - 1, by omega⟩
      obtain ⟨p, hclose⟩ := readMoreItems_close false trail rest here
      refine ⟨p, ?_⟩
      show (readMoreItems false ⟨trail.chars ++ ']' :: rest, here⟩).bind _ = _
      rw [hclose]
      rfl
  | cons e more ih =>
      obtain ⟨fuel, rfl⟩ : ∃ n, fuel = n + 1 := ⟨fuel - 1, by omega⟩
      have hitem := h e List.mem_cons_self
      have hends := endsNumber_furtherParts lead trail (more.map Prod.fst) (endsNumber_bracket rest)
      obtain ⟨p₁, hmore⟩ := hitem.further lead
        (furtherParts lead trail (more.map Prod.fst) ++ ']' :: rest) here
      obtain ⟨p₂, hstep⟩ := hitem.step (',' :: lead.chars) hends hmore
      obtain ⟨p, hrest⟩ := ih (fun e' he' => h e' (List.mem_cons_of_mem e he'))
        (Nat.lt_of_succ_lt_succ hfuel) p₂
      refine ⟨p, ?_⟩
      rw [List.map_cons, furtherParts_cons, List.append_assoc, List.append_assoc]
      exact hstep fuel _ _ hrest

/-- **The texts of items with commas between them are read as a list**, however they are laid
    out. -/
theorem readItems_laidOut {entries : List (List Char × α)}
    (h : ∀ e ∈ entries, ReadsItem item e.1 e.2) (lead trail : Gap) (rest : List Char)
    (here : Position) :
    ∃ p, readItems item ⟨laidOut lead trail (entries.map Prod.fst) ++ ']' :: rest, here⟩ =
      .ok (entries.map Prod.snd, ⟨']' :: rest, p⟩) := by
  cases entries with
  | nil =>
      obtain ⟨p, hclose⟩ := readMoreItems_close true trail rest here
      refine ⟨p, ?_⟩
      show (readMoreItems true ⟨trail.chars ++ ']' :: rest, here⟩).bind _ = _
      rw [hclose]
      rfl
  | cons e more =>
      have hitem := h e List.mem_cons_self
      have hends := endsNumber_furtherParts lead trail (more.map Prod.fst) (endsNumber_bracket rest)
      have hlength := length_le_furtherParts lead trail (more.map Prod.fst)
      rw [List.length_map] at hlength
      obtain ⟨p₁, hfirst⟩ := hitem.first lead
        (furtherParts lead trail (more.map Prod.fst) ++ ']' :: rest) here
      obtain ⟨p₂, hstep⟩ := hitem.step lead.chars hends hfirst
      have henough : more.length < (lead.chars ++ (e.1 ++
          (furtherParts lead trail (more.map Prod.fst) ++ ']' :: rest))).length := by
        simp only [List.length_append, List.length_cons]
        omega
      obtain ⟨p, hrest⟩ := readItemsWithin_further
        (fun e' he' => h e' (List.mem_cons_of_mem e he')) lead trail rest henough p₂
      refine ⟨p, ?_⟩
      rw [List.map_cons, laidOut_cons, List.append_assoc, List.append_assoc]
      exact hstep _ _ _ hrest

end

/-! ## Objects -/

/-- A text is taken as a member, by which what is known of an object changes: its name stands
    between quotes, and what follows is taken from behind them on. -/
def TakesMember {σ : Type} (member : σ → String → Reader σ) (text : List Char) (known known' : σ) :
    Prop :=
  ∃ tail, text = '"' :: tail ∧
    ∀ (rest : List Char) (here : Position), EndsNumber rest →
      ∃ name c p, readTextBody ⟨tail ++ rest, here⟩ = .ok (name, c) ∧
        member known name c = .ok (known', ⟨rest, p⟩)

/-- A text is taken as a member if the pieces of its name are read as the name and what follows is
    taken. -/
theorem takesMember_of_pieces {σ : Type} {member : σ → String → Reader σ} {known known' : σ}
    {piece : Char → List Char} {name : String} {tail : List Char}
    (hname : ∀ c ∈ name.toList, ReadsChar (piece c) c)
    (htail : ∀ (rest : List Char) (here : Position), EndsNumber rest →
      ∃ p, member known name ⟨tail ++ rest, here⟩ = .ok (known', ⟨rest, p⟩)) :
    TakesMember member ('"' :: (name.toList.flatMap piece ++ '"' :: tail)) known known' := by
  refine ⟨_, rfl, ?_⟩
  intro rest here hrest
  obtain ⟨q, hread⟩ := readTextBody_pieces hname (tail ++ rest) here
  obtain ⟨p, hmember⟩ := htail rest q hrest
  refine ⟨name, ⟨tail ++ rest, q⟩, p, ?_, hmember⟩
  rw [List.append_assoc]
  exact hread

/-- Texts are taken as members, one after another. -/
inductive TakesMembers {σ : Type} (member : σ → String → Reader σ) :
    List (List Char) → σ → σ → Prop
  | nil (known : σ) : TakesMembers member [] known known
  | cons {text : List Char} {texts : List (List Char)} {known known' known'' : σ} :
      TakesMember member text known known' → TakesMembers member texts known' known'' →
      TakesMembers member (text :: texts) known known''

/-- Another member is taken behind some. -/
theorem TakesMembers.concat {σ : Type} {member : σ → String → Reader σ}
    {texts : List (List Char)} {text : List Char} {known known' known'' : σ}
    (h : TakesMembers member texts known known') (hlast : TakesMember member text known' known'') :
    TakesMembers member (texts ++ [text]) known known'' := by
  induction h with
  | nil known => exact .cons hlast (.nil known'')
  | cons hfirst _ ih => exact .cons hfirst (ih hlast)

section

variable {σ : Type} {member : σ → String → Reader σ} {texts : List (List Char)}
  {known known' : σ}

theorem endsNumber_brace (rest : List Char) : EndsNumber ('\x7d' :: rest) :=
  beginsOff_cons (by decide)

/-- A brace behind a gap ends the members. -/
theorem readMoreMembers_close (first : Bool) (g : Gap) (rest : List Char) (here : Position) :
    ∃ p, readMoreMembers first ⟨g.chars ++ '\x7d' :: rest, here⟩ =
      .ok (false, ⟨'\x7d' :: rest, p⟩) := by
  obtain ⟨p, hskip⟩ := g.skipSpace_cons (c := '\x7d') (by decide) rest here
  refine ⟨p, ?_⟩
  rw [readMoreMembers, hskip]
  rfl

/-- A member follows where a quote stands behind a gap, and also if a comma is before that. -/
theorem readMoreMembers_quote (g : Gap) (rest : List Char) (here : Position) :
    (∃ p, readMoreMembers true ⟨g.chars ++ '"' :: rest, here⟩ = .ok (true, ⟨'"' :: rest, p⟩)) ∧
    ∃ p, readMoreMembers false ⟨',' :: (g.chars ++ '"' :: rest), here⟩ =
      .ok (true, ⟨'"' :: rest, p⟩) := by
  constructor
  · obtain ⟨p, hskip⟩ := g.skipSpace_cons (c := '"') (by decide) rest here
    refine ⟨p, ?_⟩
    rw [readMoreMembers, hskip]
    rfl
  · obtain ⟨p, hskip⟩ := g.skipSpace_cons (c := '"') (by decide) rest (here.after ',')
    have hcomma : (Cursor.mk (',' :: (g.chars ++ '"' :: rest)) here).skipSpace =
        ⟨',' :: (g.chars ++ '"' :: rest), here⟩ := rfl
    have hnext : (Cursor.mk (',' :: (g.chars ++ '"' :: rest)) here).next.skipSpace =
        ⟨'"' :: rest, p⟩ := hskip
    refine ⟨p, ?_⟩
    simp only [readMoreMembers, hcomma, hnext]
    rfl

/-- Where another member follows, it is taken, and then the members behind it. -/
theorem TakesMember.step {text : List Char} (h : TakesMember member text known known')
    {first : Bool} (front : List Char) {tail : List Char} {here : Position}
    (hends : EndsNumber tail)
    (hmore : ∀ rest, ∃ p, readMoreMembers first ⟨front ++ '"' :: rest, here⟩ =
      .ok (true, ⟨'"' :: rest, p⟩)) :
    ∃ q, ∀ fuel, readMembersWithin member first (fuel + 1) known ⟨front ++ (text ++ tail), here⟩ =
      readMembersWithin member false fuel known' ⟨tail, q⟩ := by
  obtain ⟨inner, rfl, hreads⟩ := h
  obtain ⟨p, hquote⟩ := hmore (inner ++ tail)
  obtain ⟨name, c, q, hname, hvalue⟩ := hreads tail (p.after '"') hends
  have hnext : (Cursor.mk ('"' :: (inner ++ tail)) p).next = ⟨inner ++ tail, p.after '"'⟩ := rfl
  refine ⟨q, ?_⟩
  intro fuel
  simp only [List.cons_append, readMembersWithin, hquote, bind, Except.bind, if_true, hnext, hname,
    hvalue]

/-- What follows the first member changes what is known as the other ones do. -/
theorem readMembersWithin_further (h : TakesMembers member texts known known') (lead trail : Gap)
    (rest : List Char) {fuel : Nat} (hfuel : texts.length < fuel) (here : Position) :
    ∃ p, readMembersWithin member false fuel known
        ⟨furtherParts lead trail texts ++ '\x7d' :: rest, here⟩ =
      .ok (known', ⟨'\x7d' :: rest, p⟩) := by
  induction h generalizing fuel here with
  | nil known =>
      obtain ⟨fuel, rfl⟩ : ∃ n, fuel = n + 1 := ⟨fuel - 1, by omega⟩
      obtain ⟨p, hclose⟩ := readMoreMembers_close false trail rest here
      refine ⟨p, ?_⟩
      show (readMoreMembers false ⟨trail.chars ++ '\x7d' :: rest, here⟩).bind _ = _
      rw [hclose]
      rfl
  | @cons text texts known known' known'' htakes _ ih =>
      obtain ⟨fuel, rfl⟩ : ∃ n, fuel = n + 1 := ⟨fuel - 1, by omega⟩
      have hends := endsNumber_furtherParts lead trail texts (endsNumber_brace rest)
      obtain ⟨q, hstep⟩ := htakes.step (',' :: lead.chars) hends fun rest' =>
        (readMoreMembers_quote lead rest' here).2
      obtain ⟨p, hrest⟩ := ih (Nat.lt_of_succ_lt_succ hfuel) q
      refine ⟨p, ?_⟩
      rw [furtherParts_cons, List.append_assoc, List.append_assoc, hstep fuel]
      exact hrest

/-- **Members with commas between them change what is known one after another**, however they are
    laid out. -/
theorem readMembers_laidOut (h : TakesMembers member texts known known') (lead trail : Gap)
    (rest : List Char) (here : Position) :
    ∃ p, readMembers member known ⟨laidOut lead trail texts ++ '\x7d' :: rest, here⟩ =
      .ok (known', ⟨'\x7d' :: rest, p⟩) := by
  cases h with
  | nil =>
      obtain ⟨p, hclose⟩ := readMoreMembers_close true trail rest here
      refine ⟨p, ?_⟩
      show (readMoreMembers true ⟨trail.chars ++ '\x7d' :: rest, here⟩).bind _ = _
      rw [hclose]
      rfl
  | @cons text texts known known₁ known' htakes hmembers =>
      have hends := endsNumber_furtherParts lead trail texts (endsNumber_brace rest)
      have hlength := length_le_furtherParts lead trail texts
      obtain ⟨q, hstep⟩ := htakes.step lead.chars hends fun rest' =>
        (readMoreMembers_quote lead rest' here).1
      have henough : texts.length < (lead.chars ++ (text ++
          (furtherParts lead trail texts ++ '\x7d' :: rest))).length := by
        simp only [List.length_append, List.length_cons]
        omega
      obtain ⟨p, hrest⟩ := readMembersWithin_further hmembers lead trail rest henough q
      refine ⟨p, ?_⟩
      rw [laidOut_cons, List.append_assoc, List.append_assoc, readMembers, hstep]
      exact hrest

end

end CourseFeed.Json
