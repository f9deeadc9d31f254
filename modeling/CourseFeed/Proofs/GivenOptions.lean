import CourseFeed.Command.Request
import CourseFeed.Proofs.Outcomes

/-!
# One option more among the arguments

What arguments say does not depend on what was given before them: reading them does the same things
one after the other, whatever they are done to, until one of them is refused. So an option that is
put in between other arguments changes nothing but what was given: it is there now, and a second one
of its name is refused.

* **`Act`** — one thing that arguments say. **`Signature.exists_acts`**: reading arguments is to do
  the things that they say.
* **`Signature.readFrom_append`** — arguments that can be read alone are read before those behind
  them, and **`Signature.readFrom_option`** reads an option that has its value behind it.
* **`Joined`** — what was given, and the same with an option more. **`Alike`** says this of results:
  both stop for one reason, or the option is refused as a repeated one.
* **`Alike.perform`** is one act, **`Alike.performAll`** all acts and **`Signature.alike_readFrom`**
  what comes of the arguments.
-/

namespace CourseFeed.Command

variable {s : Signature}

/-! ## What arguments say -/

/-- One thing that arguments say. -/
inductive Act (s : Signature) where
  | take (o : Choice) (known : o ∈ s.choices) (value : String)
  | operand (text : String)
  | stop (cause : Stop)

/-- Does one thing to what was given. -/
def Act.perform (g : Given) : Act s → Except Stop Given
  | .take o _ value => o.take value g
  | .operand text => s.takeOperand g text
  | .stop cause => .error cause

/-- Does one thing after the other. -/
def Act.performAll (acts : List (Act s)) (g : Given) : Except Stop Given :=
  acts.foldlM Act.perform g

theorem Act.performAll_cons (a : Act s) (acts : List (Act s)) (g : Given) :
    Act.performAll (a :: acts) g = a.perform g >>= Act.performAll acts :=
  List.foldlM_cons

theorem Act.performAll_append (acts more : List (Act s)) (g : Given) :
    Act.performAll (acts ++ more) g = Act.performAll acts g >>= Act.performAll more :=
  List.foldlM_append

/-- To read a part of the arguments is to do some things, the same ones whatever was given, and
    perhaps to be left with an option that needs a value. -/
def Says (s : Signature) (f : Given → Except Stop (Given × Option Choice)) : Prop :=
  ∃ (acts : List (Act s)) (pending : Option Choice), (∀ o ∈ pending, o ∈ s.choices) ∧
    ∀ g, f g = (Act.performAll acts g).map fun g => (g, pending)

namespace Says

theorem stop (cause : Stop) : Says s fun _ => .error cause :=
  ⟨[.stop cause], none, fun _ h => absurd h (Option.not_mem_none _), fun _ => rfl⟩

theorem nothing : Says s fun g => .ok (g, none) :=
  ⟨[], none, fun _ h => absurd h (Option.not_mem_none _), fun _ => rfl⟩

theorem pending {o : Choice} (known : o ∈ s.choices) : Says s fun g => .ok (g, some o) :=
  ⟨[], some o, fun _ h => Option.some.inj h ▸ known, fun _ => rfl⟩

/-- One thing, and then what comes after it. -/
theorem after {f : Given → Except Stop (Given × Option Choice)} (h : Says s f) (a : Act s) :
    Says s fun g => a.perform g >>= f := by
  obtain ⟨acts, pending, hknown, hacts⟩ := h
  refine ⟨a :: acts, pending, hknown, ?_⟩
  intro g
  show a.perform g >>= f = _
  rw [Act.performAll_cons]
  cases a.perform g with
  | error cause => rfl
  | ok g => exact hacts g

/-- An option with its value. -/
theorem take {o : Choice} (known : o ∈ s.choices) (value : String) :
    Says s fun g => do return (← o.take value g, none) :=
  nothing.after (.take o known value)

end Says

namespace Signature

/-- The letters of options, by induction on them. -/
theorem says_readLetters (s : Signature) (text : List Char) :
    Says s fun g => s.readLetters g text := by
  induction text with
  | nil => exact .nothing
  | cons letter rest ih =>
      by_cases hhelp : letter = 'h'
      · simp only [readLetters, if_pos hhelp]
        exact .stop .help
      cases hfind : s.choices.find? fun o => o.letter == some letter with
      | none =>
          simp only [readLetters, if_neg hhelp, hfind]
          exact .stop _
      | some o =>
          have known := List.mem_of_find?_eq_some hfind
          by_cases hflag : o.kind = .flag
          · simp only [readLetters, if_neg hhelp, hfind, if_pos hflag]
            exact ih.after (.take o known "")
          simp only [readLetters, if_neg hhelp, hfind, if_neg hflag]
          split
          · exact .pending known
          · exact .take known _
          · exact .take known _

/-- An option by its name. -/
theorem says_readNamed (s : Signature) (text : List Char) : Says s fun g => s.readNamed g text := by
  unfold readNamed
  extract_lets name value
  by_cases hhelp : name = "help"
  · simp only [if_pos hhelp]
    exact .stop _
  simp only [if_neg hhelp]
  cases hfind : s.choices.find? fun o => o.name == name with
  | none => exact .stop _
  | some o =>
      have known := List.mem_of_find?_eq_some hfind
      dsimp only
      split
      · exact .take known ""
      · exact .stop _
      · exact .pending known
      · exact .take known _

/-- An argument: options, or an operand. -/
theorem says_readArgument (s : Signature) (argument : String) :
    Says s fun g => s.readArgument g argument := by
  unfold readArgument
  by_cases hoption : isOption argument.toList = true
  · simp only [if_pos hoption]
    split
    · exact s.says_readNamed _
    · exact s.says_readLetters _
  · simp only [if_neg hoption]
    exact Says.nothing.after (.operand argument)

/-! ## Arguments one after the other -/

/-- Reads the arguments behind the one that gave `g`, the first of them as the value of an option
    that needs one. -/
def readRest (s : Signature) (rest : List String) : Given × Option Choice → Except Stop Given
  | (g, none) => s.readFrom g rest
  | (g, some o) =>
    match rest with
    | [] => .error (.misuse (.valueMissing o.name))
    | value :: rest =>
      if isOption value.toList then .error (.misuse (.valueMissing o.name))
      else o.take value g >>= fun g => s.readFrom g rest

theorem readFrom_cons {argument : String} (h : argument ≠ "--") (g : Given) (rest : List String) :
    s.readFrom g (argument :: rest) = s.readArgument g argument >>= s.readRest rest := by
  rw [readFrom, if_neg h]
  cases s.readArgument g argument with
  | error cause => rfl
  | ok found =>
      obtain ⟨g, _ | o⟩ := found
      · rfl
      cases rest with
      | nil => rfl
      | cons value rest =>
          show (if isOption value.toList then _ else _) = if isOption value.toList then _ else _
          cases o.take value g <;> rfl

/-- An argument that does not look like an option is the value that is needed. -/
theorem readRest_value {value : String} (h : isOption value.toList = false) (g : Given) (o : Choice)
    (rest : List String) :
    s.readRest (value :: rest) (g, some o) = o.take value g >>= fun g => s.readFrom g rest :=
  if_neg (Bool.eq_false_iff.mp h)

/-- One that does is none. -/
theorem readRest_option {value : String} (h : isOption value.toList = true) (g : Given) (o : Choice)
    (rest : List String) :
    s.readRest (value :: rest) (g, some o) = .error (.misuse (.valueMissing o.name)) :=
  if_pos h

/-- **To read arguments is to do the things that they say**, which do not depend on what was given
    before. -/
theorem exists_acts (s : Signature) : ∀ arguments : List String,
    ∃ acts : List (Act s), ∀ g, s.readFrom g arguments = Act.performAll acts g
  | [] => ⟨[], fun _ => rfl⟩
  | argument :: rest => by
      by_cases hend : argument = "--"
      · refine ⟨rest.map .operand, fun g => ?_⟩
        rw [readFrom, if_pos hend, Act.performAll, List.foldlM_map]
        rfl
      obtain ⟨acts, pending, hknown, (hacts : ∀ g, s.readArgument g argument = _)⟩ :=
        s.says_readArgument argument
      -- An option that needs a value takes it off the rest, which then is two arguments shorter.
      have hrest : ∃ more : List (Act s),
          ∀ g, s.readRest rest (g, pending) = Act.performAll more g := by
        cases pending with
        | none => exact exists_acts s rest
        | some o =>
            match rest with
            | [] => exact ⟨[.stop _], fun _ => rfl⟩
            | value :: rest =>
                cases hoption : isOption value.toList with
                | true => exact ⟨[.stop _], fun g => readRest_option hoption g o rest⟩
                | false =>
                    obtain ⟨more, hmore⟩ := exists_acts s rest
                    refine ⟨.take o (hknown o rfl) value :: more, fun g => ?_⟩
                    rw [Act.performAll_cons, readRest_value hoption, funext hmore]
                    rfl
      obtain ⟨more, hmore⟩ := hrest
      refine ⟨acts ++ more, fun g => ?_⟩
      rw [readFrom_cons hend, Act.performAll_append, hacts g]
      cases Act.performAll acts g with
      | error cause => rfl
      | ok g => exact hmore g

/-- **Arguments that can be read alone are read before those behind them.** -/
theorem readFrom_append (s : Signature) (after : List String) :
    ∀ (before : List String) {g g' : Given}, "--" ∉ before → s.readFrom g before = .ok g' →
      s.readFrom g (before ++ after) = s.readFrom g' after
  | [], _, _, _, h => by
      rw [← Except.ok.inj h]
      rfl
  | argument :: rest, _, _, hend, h => by
      obtain ⟨hargument, hrest⟩ := List.ne_and_not_mem_of_not_mem_cons hend
      rw [readFrom_cons (Ne.symm hargument)] at h
      rw [List.cons_append, readFrom_cons (Ne.symm hargument)]
      obtain ⟨⟨g, pending⟩, hread, h⟩ := bind_eq_ok_iff.mp h
      rw [hread]
      cases pending with
      | none => exact readFrom_append s after rest hrest h
      | some o =>
          match rest with
          | [] => cases h
          | value :: rest =>
              have hrest := List.not_mem_of_not_mem_cons hrest
              cases hoption : isOption value.toList with
              | true =>
                  rw [readRest_option hoption] at h
                  cases h
              | false =>
                  rw [readRest_value hoption] at h
                  obtain ⟨g, htake, h⟩ := bind_eq_ok_iff.mp h
                  refine (readRest_value hoption _ o (rest ++ after)).trans ?_
                  rw [htake]
                  exact readFrom_append s after rest hrest h

/-- **An option that needs a value takes the argument behind it**, which must not look like an
    option. -/
theorem readFrom_option {argument value : String} {o : Choice} {g : Given}
    (hargument : argument ≠ "--") (hread : s.readArgument g argument = .ok (g, some o))
    (hvalue : isOption value.toList = false) (rest : List String) :
    s.readFrom g (argument :: value :: rest) = o.take value g >>= fun g => s.readFrom g rest := by
  rw [readFrom_cons hargument, hread]
  exact readRest_value hvalue g o rest

end Signature

/-! ## One option more -/

namespace Given

variable {g : Given}

/-- With an option behind the others. -/
def add (g : Given) (name value : String) : Given :=
  { g with options := g.options ++ [(name, value)] }

theorem has_eq_false_iff {name : String} : g.has name = false ↔ g.values name = [] := by
  rw [has, value?, Option.isSome_eq_false_iff, Option.isNone_iff_eq_none, List.head?_eq_none_iff]

end Given

/-- What was given, and the same with an option more. -/
inductive Joined (name value : String) : Given → Given → Prop
  | mk (before after : List (String × String)) (operands : List String) :
      Joined name value ⟨before ++ after, operands⟩ ⟨before ++ (name, value) :: after, operands⟩

namespace Joined

variable {name value other : String} {g g' : Given}

theorem of_add (g : Given) (name value : String) : Joined name value g (g.add name value) := by
  have hlast : Joined name value ⟨g.options ++ [], g.operands⟩ (g.add name value) :=
    .mk g.options [] g.operands
  rw [List.append_nil] at hlast
  exact hlast

/-- The values of other options are the same. -/
theorem values_of_ne (h : Joined name value g g') (hne : name ≠ other) :
    g'.values other = g.values other := by
  obtain ⟨before, after, operands⟩ := h
  simp [Given.values, hne]

theorem value?_of_ne (h : Joined name value g g') (hne : name ≠ other) :
    g'.value? other = g.value? other := congrArg List.head? (h.values_of_ne hne)

theorem has_of_ne (h : Joined name value g g') (hne : name ≠ other) :
    g'.has other = g.has other := congrArg Option.isSome (h.value?_of_ne hne)

/-- An option that was not given has one value now. -/
theorem values_self (h : Joined name value g g') (hnew : g.has name = false) :
    g'.values name = [value] := by
  rw [Given.has_eq_false_iff] at hnew
  obtain ⟨before, after, operands⟩ := h
  simp only [Given.values, List.filter_append, List.map_append, List.append_eq_nil_iff] at hnew ⊢
  simp [hnew]

theorem has_self (h : Joined name value g g') : g'.has name = true := by
  obtain ⟨before, after, operands⟩ := h
  rw [← Bool.not_eq_false, Given.has_eq_false_iff]
  simp [Given.values]

/-- What was given stays. -/
theorem has (h : Joined name value g g') (hhas : g.has other = true) : g'.has other = true := by
  by_cases hne : name = other
  · exact hne ▸ h.has_self
  · exact (h.has_of_ne hne).trans hhas

theorem operands_eq (h : Joined name value g g') : g'.operands = g.operands := by
  obtain ⟨before, after, operands⟩ := h
  rfl

theorem add (h : Joined name value g g') (other text : String) :
    Joined name value (g.add other text) (g'.add other text) := by
  obtain ⟨before, after, operands⟩ := h
  have hmore : Joined name value ⟨before ++ (after ++ [(other, text)]), operands⟩
      ⟨before ++ (name, value) :: (after ++ [(other, text)]), operands⟩ := .mk ..
  rw [← List.append_assoc, ← List.cons_append, ← List.append_assoc] at hmore
  exact hmore

theorem takeOperand (h : Joined name value g g') (operand : String) :
    Joined name value { g with operands := g.operands ++ [operand] }
      { g' with operands := g'.operands ++ [operand] } := by
  obtain ⟨before, after, operands⟩ := h
  exact .mk before after (operands ++ [operand])

end Joined

/-! ## What an act gives -/

theorem Choice.take_eq_ok {o : Choice} {value : String} {g g' : Given}
    (h : o.take value g = .ok g') : g' = g.add o.name value := by
  unfold take at h
  split at h
  · cases h
  split at h
  · cases h
  exact (Except.ok.inj h).symm

theorem Signature.takeOperand_eq_ok {operand : String} {g g' : Given}
    (h : s.takeOperand g operand = .ok g') :
    g' = { g with operands := g.operands ++ [operand] } := by
  unfold takeOperand at h
  split at h
  · exact (Except.ok.inj h).symm
  split at h
  · cases h
  split at h
  · cases h
  exact (Except.ok.inj h).symm

/-- No act takes back what was given. -/
theorem Act.has_perform {a : Act s} {g g' : Given} {name : String} (h : a.perform g = .ok g')
    (hhas : g.has name = true) : g'.has name = true := by
  cases a with
  | take o known value =>
      rw [Choice.take_eq_ok h]
      exact (Joined.of_add g o.name value).has hhas
  | operand text =>
      rw [Signature.takeOperand_eq_ok h]
      exact hhas
  | stop cause => cases h

/-! ## Results that are alike -/

/-- The same results but for an option more, which may be refused in one of them as repeated. -/
inductive Alike (name value : String) : Except Stop Given → Except Stop Given → Prop
  | given {g g' : Given} :
      Joined name value g g' → g.has name = false → Alike name value (.ok g) (.ok g')
  | stop (cause : Stop) : Alike name value (.error cause) (.error cause)
  | again {x : Except Stop Given} : (∀ g, x = .ok g → g.has name = true) →
      Alike name value x (.error (.misuse (.repeated name)))

namespace Alike

variable {name value : String}

/-- An option is taken in both, refused in both, or the one that is there already. -/
theorem take {g g' : Given} (h : Joined name value g g') (hnew : g.has name = false) {o : Choice}
    (hone : o.name = name → o.kind ≠ .texts) (text : String) :
    Alike name value (o.take text g) (o.take text g') := by
  by_cases hempty : o.kind = .path ∧ text.isEmpty
  · rw [Choice.take, Choice.take, if_pos hempty, if_pos hempty]
    exact .stop _
  by_cases hname : o.name = name
  · subst hname
    have hagain : o.take text g' = .error (.misuse (.repeated o.name)) := by
      rw [Choice.take, if_neg hempty, if_pos ⟨hone rfl, h.has_self⟩]
    rw [hagain]
    refine .again fun taken htaken => ?_
    rw [Choice.take_eq_ok htaken]
    exact (Joined.of_add g o.name text).has_self
  rw [Choice.take, Choice.take, if_neg hempty, if_neg hempty, h.has_of_ne (Ne.symm hname)]
  split
  · exact .stop _
  · exact .given (h.add o.name text) (((Joined.of_add g o.name text).has_of_ne hname).trans hnew)

/-- An operand is taken in both or refused in both. -/
theorem takeOperand {g g' : Given} (h : Joined name value g g') (hnew : g.has name = false)
    (operand : String) : Alike name value (s.takeOperand g operand) (s.takeOperand g' operand) := by
  have htaken := given (h.takeOperand operand) hnew
  obtain ⟨before, after, operands⟩ := h
  unfold Signature.takeOperand
  split
  · exact htaken
  · dsimp only
    split
    · exact .stop _
    split
    · exact .stop _
    · exact htaken

/-- **One act keeps results alike.** -/
theorem perform (hone : ∀ o ∈ s.choices, o.name = name → o.kind ≠ .texts)
    {x x' : Except Stop Given} (h : Alike name value x x') (a : Act s) :
    Alike name value (x >>= fun g => a.perform g) (x' >>= fun g => a.perform g) := by
  cases h with
  | given hjoined hnew =>
      cases a with
      | take o known text => exact take hjoined hnew (hone o known) text
      | operand text => exact takeOperand hjoined hnew text
      | stop cause => exact .stop cause
  | stop cause => exact .stop cause
  | again hhas =>
      -- One of them was refused already; the other keeps the option for which it was.
      refine .again fun g hg => ?_
      obtain ⟨before, hbefore, hperform⟩ := bind_eq_ok_iff.mp hg
      exact Act.has_perform hperform (hhas before hbefore)

/-- **And so do all acts**, by induction on them. -/
theorem performAll (hone : ∀ o ∈ s.choices, o.name = name → o.kind ≠ .texts)
    (acts : List (Act s)) {x x' : Except Stop Given} (h : Alike name value x x') :
    Alike name value (x >>= Act.performAll acts) (x' >>= Act.performAll acts) := by
  induction acts generalizing x x' with
  | nil => exact (bind_pure x).symm ▸ (bind_pure x').symm ▸ h
  | cons a acts ih =>
      have hstep := ih (h.perform hone a)
      rw [bind_assoc, bind_assoc] at hstep
      have hcons : Act.performAll (a :: acts) =
          fun g => a.perform g >>= Act.performAll acts := funext (Act.performAll_cons a acts)
      rw [hcons]
      exact hstep

end Alike

/-- **With an option more in front of them, arguments are read as they are without it.** -/
theorem Signature.alike_readFrom {o : Choice} (known : o ∈ s.choices)
    (hone : ∀ c ∈ s.choices, c.name = o.name → c.kind ≠ .texts) {value : String}
    (hvalue : value ≠ "") (g : Given) (arguments : List String) :
    Alike o.name value (s.readFrom g arguments)
      (o.take value g >>= fun g => s.readFrom g arguments) := by
  obtain ⟨acts, hacts⟩ := s.exists_acts arguments
  have hstart : Alike o.name value (.ok g) (o.take value g) := by
    have hfull : ¬(o.kind = .path ∧ value.isEmpty) := by simp [hvalue]
    rw [Choice.take, if_neg hfull]
    by_cases hnew : g.has o.name = false
    · rw [if_neg (by simp [hnew])]
      exact .given (.of_add g o.name value) hnew
    · rw [Bool.not_eq_false] at hnew
      rw [if_pos ⟨hone o known rfl, hnew⟩]
      exact .again fun _ h => Except.ok.inj h ▸ hnew
  rw [hacts g, funext hacts]
  exact hstart.performAll hone acts

end CourseFeed.Command
