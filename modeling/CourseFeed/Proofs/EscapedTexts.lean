import CourseFeed.Json.Printer

/-!
# Reading texts piece by piece

A text between quotes is written with a piece for each of its characters: the character itself, or a
backslash and what stands for it.  Whatever pieces are chosen, they are read back one by one, so it
is enough to know for each character that its piece is read as it.

* **`ReadsChar`** — a piece is read as a character.  So are a character that needs no escape
  (**`ReadsChar.shown`**), an escape of one letter (**`ReadsChar.letter`**) and the code of a
  character (**`ReadsChar.code`**).
* **`readTextBody_pieces`** — pieces that are read as the characters of a text are read as this
  text.
* **`readTextBody_escaped`** — what is written of a text is read back, whatever the text is.
-/

namespace CourseFeed.Json

/-- A piece of a text between quotes is read as a character, and reading goes on behind it. -/
structure ReadsChar (piece : List Char) (c : Char) : Prop where
  nonempty : piece ≠ []
  reads : ∀ here, ∃ q, ∀ fuel rest text k, readTextWithin fuel ⟨rest, q⟩ = .ok (text, k) →
    readTextWithin (fuel + 1) ⟨piece ++ rest, here⟩ = .ok (c :: text, k)

/-- A character that is no quote, backslash or control stands for itself. -/
theorem ReadsChar.shown {c : Char} (hlow : 0x20 ≤ c.toNat) (hquote : c ≠ '"') (hslash : c ≠ '\\') :
    ReadsChar [c] c where
  nonempty := List.cons_ne_nil c []
  reads := by
    intro here
    refine ⟨here.after c, ?_⟩
    intro fuel rest text k hread
    simp only [List.cons_append, List.nil_append, readTextWithin, Cursor.peek?, List.head?_cons]
    rw [if_neg (by omega)]
    simp only [Cursor.next, bind, Except.bind, hread]
    rfl

/-- An escape is read as a character if what follows its backslash is. -/
theorem ReadsChar.escape {code : List Char} {c : Char}
    (h : ∀ here, ∃ q, ∀ rest, readEscape ⟨code ++ rest, here⟩ = .ok (c, ⟨rest, q⟩)) :
    ReadsChar ('\\' :: code) c where
  nonempty := List.cons_ne_nil _ code
  reads := by
    intro here
    obtain ⟨q, hescape⟩ := h (here.after '\\')
    refine ⟨q, ?_⟩
    intro fuel rest text k hread
    simp only [List.cons_append, readTextWithin, Cursor.peek?, List.head?_cons, Cursor.next, bind,
      Except.bind, hescape, hread]
    rfl

theorem ReadsChar.letter {letter c : Char} (h : simpleEscape? letter = some c)
    (hletter : letter ≠ 'u') : ReadsChar ['\\', letter] c := by
  refine .escape ?_
  intro here
  refine ⟨here.after letter, ?_⟩
  intro rest
  simp only [List.cons_append, List.nil_append, readEscape, Cursor.peek?, List.head?_cons, h]
  rfl

/-- The hexadecimal digits are read back. -/
theorem hexDigit?_digitChar : ∀ n < 16, hexDigit? (Nat.digitChar n) = some n := by
  decide

/-- The four digits of the code of a control are read as it. -/
theorem ReadsChar.code {c : Char} (h : c.toNat < 0x20) :
    ReadsChar ['\\', 'u', '0', '0', Nat.digitChar (c.toNat / 16), Nat.digitChar (c.toNat % 16)]
      c := by
  refine .escape ?_
  intro here
  refine ⟨((((here.after 'u').after '0').after '0').after (Nat.digitChar (c.toNat / 16))).after
    (Nat.digitChar (c.toNat % 16)), ?_⟩
  intro rest
  have hhigh := hexDigit?_digitChar (c.toNat / 16) (by omega)
  have hlow := hexDigit?_digitChar (c.toNat % 16) (by omega)
  have hzero : hexDigit? '0' = some 0 := hexDigit?_digitChar 0 (by decide)
  have hunit : ((0 * 16 + 0) * 16 + c.toNat / 16) * 16 + c.toNat % 16 = c.toNat := by omega
  have hread : readHex ⟨'0' :: '0' :: Nat.digitChar (c.toNat / 16) ::
      Nat.digitChar (c.toNat % 16) :: rest, here.after 'u'⟩ =
      .ok (c.toNat, ⟨rest, ((((here.after 'u').after '0').after '0').after
        (Nat.digitChar (c.toNat / 16))).after (Nat.digitChar (c.toNat % 16))⟩) := by
    simp only [readHex, hzero, hhigh, hlow, hunit]
    rfl
  show readUnicodeEscape ⟨'0' :: '0' :: Nat.digitChar (c.toNat / 16) ::
    Nat.digitChar (c.toNat % 16) :: rest, here.after 'u'⟩ = _
  -- no control is half of a pair
  simp only [readUnicodeEscape, hread, bind, Except.bind]
  rw [if_neg (by omega), if_neg (by omega), Char.ofNat_toNat]
  rfl

/-! ## Texts -/

section

variable {piece : Char → List Char}

theorem length_le_pieces {text : List Char} (h : ∀ c ∈ text, ReadsChar (piece c) c) :
    text.length ≤ (text.flatMap piece).length := by
  induction text with
  | nil => exact Nat.le_refl 0
  | cons c tail ih =>
      have hpos : 0 < (piece c).length :=
        List.length_pos_iff.mpr (h c List.mem_cons_self).nonempty
      have htail := ih fun d hd => h d (List.mem_cons_of_mem c hd)
      rw [List.flatMap_cons, List.length_append, List.length_cons]
      omega

theorem readTextWithin_pieces {text : List Char} (h : ∀ c ∈ text, ReadsChar (piece c) c)
    (rest : List Char) {fuel : Nat} (hfuel : text.length < fuel) (here : Position) :
    ∃ p, readTextWithin fuel ⟨text.flatMap piece ++ '"' :: rest, here⟩ =
      .ok (text, ⟨rest, p⟩) := by
  induction text generalizing fuel here with
  | nil =>
      obtain ⟨fuel, rfl⟩ : ∃ n, fuel = n + 1 := ⟨fuel - 1, by omega⟩
      exact ⟨here.after '"', rfl⟩
  | cons c tail ih =>
      obtain ⟨fuel, rfl⟩ : ∃ n, fuel = n + 1 := ⟨fuel - 1, by omega⟩
      obtain ⟨q, hone⟩ := (h c List.mem_cons_self).reads here
      obtain ⟨p, hread⟩ := ih (fun d hd => h d (List.mem_cons_of_mem c hd))
        (Nat.lt_of_succ_lt_succ hfuel) q
      refine ⟨p, ?_⟩
      rw [List.flatMap_cons, List.append_assoc]
      exact hone fuel _ _ _ hread

/-- **Pieces that are read as the characters of a text are read as this text**, up to its closing
    quote. -/
theorem readTextBody_pieces {text : String} (h : ∀ c ∈ text.toList, ReadsChar (piece c) c)
    (rest : List Char) (here : Position) :
    ∃ p, readTextBody ⟨text.toList.flatMap piece ++ '"' :: rest, here⟩ =
      .ok (text, ⟨rest, p⟩) := by
  have hlength := length_le_pieces h
  have henough : text.toList.length <
      (text.toList.flatMap piece ++ '"' :: rest).length + 1 := by
    rw [List.length_append]
    omega
  obtain ⟨p, hread⟩ := readTextWithin_pieces h rest henough here
  refine ⟨p, ?_⟩
  rw [readTextBody, hread]
  simp only [bind, Except.bind, String.ofList_toList]
  rfl

end

/-! ## Texts that are written -/

/-- What is written of a character is read as it. -/
theorem readsChar_escapedChar (c : Char) : ReadsChar (escapedChar c) c := by
  by_cases hletter : c ∈ ['"', '\\', '\n', '\r', '\t', '\x08', '\x0c']
  · simp only [List.mem_cons, List.not_mem_nil, or_false] at hletter
    rcases hletter with rfl | rfl | rfl | rfl | rfl | rfl | rfl <;> exact .letter rfl (by decide)
  simp only [List.mem_cons, List.not_mem_nil, or_false, not_or] at hletter
  obtain ⟨hquote, hslash, hfeed, hreturn, htab, hback, hform⟩ := hletter
  rw [escapedChar, if_neg hquote, if_neg hslash]
  by_cases hlow : c.toNat < 0x20
  · rw [if_pos hlow, if_neg hfeed, if_neg hreturn, if_neg htab, if_neg hback, if_neg hform]
    exact .code hlow
  · rw [if_neg hlow]
    exact .shown (Nat.le_of_not_lt hlow) hquote hslash

/-- **What is written of a text is read back**, up to its closing quote, whatever the text is. -/
theorem readTextBody_escaped (text : String) (rest : List Char) (here : Position) :
    ∃ p, readTextBody ⟨text.toList.flatMap escapedChar ++ '"' :: rest, here⟩ =
      .ok (text, ⟨rest, p⟩) :=
  readTextBody_pieces (fun c _ => readsChar_escapedChar c) rest here

end CourseFeed.Json
