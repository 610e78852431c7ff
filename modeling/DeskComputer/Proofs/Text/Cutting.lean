import DeskComputer.Text.Blank
import DeskComputer.Text.Line

/-!
# Cutting text

Trimming takes nothing from a text without blanks at its ends, the first word and what follows are
told apart by the blanks between them, and lines joined by line feeds are the lines of the text that
they make. Every line break is a blank.
-/

namespace DeskComputer.Text

variable {text : List Char}

theorem isLineBreak_of_unblank {c : Char} (h : isBlank c = false) : isLineBreak c = false := by
  have blanks : lineBreaks.all isBlank = true := by decide
  rw [List.all_eq_true] at blanks
  rw [Bool.eq_false_iff] at h ⊢
  exact fun breaks => h (blanks c (List.contains_iff_mem.mp breaks))

/-! ### Trimming -/

theorem trimStart_of_head (first : ∀ c ∈ text.head?, isBlank c = false) :
    trimStart text = text := by
  cases text with
  | nil => rfl
  | cons c text =>
    have plain := first c rfl
    unfold trimStart
    rw [List.dropWhile_cons_of_neg (by simp [plain])]

theorem trimEnd_of_getLast (last : ∀ c ∈ text.getLast?, isBlank c = false) :
    trimEnd text = text := by
  have same : trimStart text.reverse = text.reverse :=
    trimStart_of_head (by rwa [List.head?_reverse])
  unfold trimStart at same
  rw [trimEnd, same, List.reverse_reverse]

theorem trim_eq_self (first : ∀ c ∈ text.head?, isBlank c = false)
    (last : ∀ c ∈ text.getLast?, isBlank c = false) : trim text = text := by
  rw [trim, trimStart_of_head first, trimEnd_of_getLast last]

theorem trim_of_plain (plain : ∀ c ∈ text, isBlank c = false) : trim text = text :=
  trim_eq_self (fun c hc => plain c (List.mem_of_head? hc))
    (fun c hc => plain c (List.mem_of_getLast? hc))

theorem head?_trimStart : ∀ c ∈ (trimStart text).head?, isBlank c = false := by
  intro c first
  have unblank := List.head?_dropWhile_not isBlank text
  unfold trimStart at first
  rw [Option.mem_def] at first
  rwa [first] at unblank

theorem getLast?_trimEnd : ∀ c ∈ (trimEnd text).getLast?, isBlank c = false := by
  rw [trimEnd, List.getLast?_reverse]
  exact head?_trimStart

theorem trimEnd_initial (text : List Char) : trimEnd text <+: text := by
  rw [trimEnd, ← List.reverse_suffix, List.reverse_reverse]
  exact List.dropWhile_suffix _

theorem mem_of_mem_trim {c : Char} (h : c ∈ trim text) : c ∈ text :=
  (List.dropWhile_suffix isBlank).mem ((trimEnd_initial _).mem h)

theorem head?_trim : ∀ c ∈ (trim text).head?, isBlank c = false := by
  intro c first
  have front := (List.singleton_prefix_iff_head?_eq_some.mpr first).trans (trimEnd_initial _)
  exact head?_trimStart c (List.singleton_prefix_iff_head?_eq_some.mp front)

theorem trim_trim (text : List Char) : trim (trim text) = trim text :=
  trim_eq_self head?_trim getLast?_trimEnd

theorem trimEnd_of_trim (trimmed : trim text = text) : trimEnd text = text := by
  apply trimEnd_of_getLast
  rw [← trimmed]
  exact getLast?_trimEnd

section Padding

variable {before after : List Char}

theorem trimStart_of_blank (blank : ∀ c ∈ before, isBlank c = true) (text : List Char) :
    trimStart (before ++ text) = trimStart text :=
  List.dropWhile_append_of_pos blank

theorem trimEnd_append (text rest : List Char) :
    trimEnd (text ++ rest) = if trimEnd rest = [] then trimEnd text else text ++ trimEnd rest := by
  simp only [trimEnd, List.reverse_append, List.dropWhile_append, List.isEmpty_iff,
    List.reverse_eq_nil_iff]
  split
  · rfl
  · rw [List.reverse_append, List.reverse_reverse]

theorem trimStart_eq_nil (blank : ∀ c ∈ after, isBlank c = true) : trimStart after = [] := by
  have whole := trimStart_of_blank blank []
  rwa [List.append_nil] at whole

theorem trimEnd_eq_nil (blank : ∀ c ∈ after, isBlank c = true) : trimEnd after = [] := by
  have reversed : ∀ c ∈ after.reverse, isBlank c = true := by simpa using blank
  rw [trimEnd, List.reverse_eq_nil_iff]
  exact trimStart_eq_nil reversed

theorem trimEnd_append_of_trimmed (trimmed : trimEnd text = text) (rest : List Char) :
    trimEnd (text ++ rest) = text ++ trimEnd rest := by
  rw [trimEnd_append]
  split
  · rename_i none
    rw [none, List.append_nil, trimmed]
  · rfl

/-- Only what stands behind a word that a text starts with is trimmed. -/
theorem trim_append (blank : ∀ c ∈ before, isBlank c = true) (filled : text ≠ [])
    (plain : ∀ c ∈ text, isBlank c = false) (rest : List Char) :
    trim (before ++ (text ++ rest)) = text ++ trimEnd rest := by
  have start : ∀ c ∈ (text ++ rest).head?, isBlank c = false := by
    intro c first
    rw [List.head?_append, List.head?_eq_some_head filled, Option.some_or] at first
    cases first
    exact plain _ (List.head_mem filled)
  rw [trim, trimStart_of_blank blank, trimStart_of_head start,
    trimEnd_append_of_trimmed (trimEnd_of_trim (trim_of_plain plain))]

theorem trim_padded (blank : ∀ c ∈ before, isBlank c = true)
    (blank' : ∀ c ∈ after, isBlank c = true) (text : List Char) :
    trim (before ++ (text ++ after)) = trim text := by
  rw [trim, trimStart_of_blank blank, trim]
  unfold trimStart
  rw [List.dropWhile_append]
  split
  · rename_i none
    rw [List.isEmpty_iff.mp none]
    exact congrArg trimEnd (trimStart_eq_nil blank')
  · rw [trimEnd_append, if_pos (trimEnd_eq_nil blank')]

theorem getLast?_trimEnd_blank {P : Char → Prop} (blank : ∀ c ∈ after, isBlank c = true) :
    ∀ c ∈ (trimEnd after).getLast?, P c := by
  intro c last
  rw [trimEnd_eq_nil blank] at last
  cases last

/-- What a text ends in, blanks aside, when it is put together. -/
theorem getLast?_trimEnd_append {rest : List Char} {P : Char → Prop}
    (front : ∀ c ∈ (trimEnd text).getLast?, P c) (back : ∀ c ∈ (trimEnd rest).getLast?, P c) :
    ∀ c ∈ (trimEnd (text ++ rest)).getLast?, P c := by
  rw [trimEnd_append]
  split
  · exact front
  · rename_i filled
    rwa [List.getLast?_append, List.getLast?_eq_some_getLast filled, Option.some_or,
      ← List.getLast?_eq_some_getLast filled]

theorem exists_trimEnd (text : List Char) :
    ∃ after, (∀ c ∈ after, isBlank c = true) ∧ trimEnd text ++ after = text := by
  refine ⟨(text.reverse.takeWhile isBlank).reverse, ?_, ?_⟩
  · intro c member
    exact List.all_eq_true.mp List.all_takeWhile c (List.mem_reverse.mp member)
  · rw [trimEnd, ← List.reverse_append, List.takeWhile_append_dropWhile, List.reverse_reverse]

theorem exists_trim (text : List Char) :
    ∃ before after, (∀ c ∈ before, isBlank c = true) ∧ (∀ c ∈ after, isBlank c = true) ∧
      before ++ (trim text ++ after) = text := by
  obtain ⟨after, blank, same⟩ := exists_trimEnd (trimStart text)
  refine ⟨text.takeWhile isBlank, after, ?_, blank, ?_⟩
  · exact fun c member => List.all_eq_true.mp List.all_takeWhile c member
  · rw [trim, same, trimStart, List.takeWhile_append_dropWhile]

end Padding

/-! ### Words -/

section Words

variable {word rest : List Char}

theorem takeWhile_run {p : Char → Bool} (run : ∀ c ∈ word, p c = true)
    (ends : ∀ c ∈ rest.head?, p c = false) : (word ++ rest).takeWhile p = word := by
  rw [List.takeWhile_append_of_pos run]
  cases rest with
  | nil => rw [List.takeWhile_nil, List.append_nil]
  | cons c rest => rw [List.takeWhile_cons_of_neg (by simp [ends c rfl]), List.append_nil]

theorem dropWhile_run {p : Char → Bool} (run : ∀ c ∈ word, p c = true)
    (ends : ∀ c ∈ rest.head?, p c = false) : (word ++ rest).dropWhile p = rest := by
  rw [List.dropWhile_append_of_pos run]
  cases rest with
  | nil => rfl
  | cons c rest => rw [List.dropWhile_cons_of_neg (by simp [ends c rfl])]

theorem firstWord_append (plain : ∀ c ∈ word, isBlank c = false)
    (ends : ∀ c ∈ rest.head?, isBlank c = true) : firstWord (word ++ rest) = word :=
  takeWhile_run (by simpa using plain) (by simpa using ends)

theorem afterWord_append (plain : ∀ c ∈ word, isBlank c = false)
    (ends : ∀ c ∈ rest.head?, isBlank c = true) : afterWord (word ++ rest) = trimStart rest :=
  congrArg trimStart (dropWhile_run (by simpa using plain) (by simpa using ends))

end Words

/-! ### Joined texts -/

section Joined

variable {fields : List (List Char)}

theorem mem_intercalate {sep c : Char} (h : c ∈ [sep].intercalate fields) :
    c = sep ∨ ∃ f ∈ fields, c ∈ f := by
  induction fields with
  | nil => simp at h
  | cons first fields ih =>
    cases fields with
    | nil => exact .inr ⟨first, List.mem_cons_self, by simpa using h⟩
    | cons second fields =>
      rw [List.intercalate_cons_cons, List.append_assoc, List.singleton_append, List.mem_append,
        List.mem_cons] at h
      rcases h with here | rfl | later
      · exact .inr ⟨first, List.mem_cons_self, here⟩
      · exact .inl rfl
      · rcases ih later with same | ⟨f, member, here⟩
        · exact .inl same
        · exact .inr ⟨f, List.mem_cons_of_mem _ member, here⟩

theorem getLast?_trimEnd_intercalate {sep : Char} {P : Char → Prop} (separator : P sep)
    (ends : ∀ f ∈ fields, ∀ c ∈ (trimEnd f).getLast?, P c) :
    ∀ c ∈ (trimEnd ([sep].intercalate fields)).getLast?, P c := by
  induction fields with
  | nil =>
    rintro c ⟨⟩
  | cons first fields ih =>
    rw [List.forall_mem_cons] at ends
    cases fields with
    | nil =>
      rw [List.intercalate_singleton]
      exact ends.1
    | cons second fields =>
      have alone : ∀ c ∈ (trimEnd [sep]).getLast?, P c := by
        intro c last
        obtain rfl := List.mem_singleton.mp ((trimEnd_initial _).mem (List.mem_of_getLast? last))
        exact separator
      rw [List.intercalate_cons_cons, List.append_assoc]
      exact getLast?_trimEnd_append ends.1 (getLast?_trimEnd_append alone (ih ends.2))

end Joined

/-! ### Lines -/

section Lines

variable {line : List Char}

theorem splitLines_cons {c : Char} (inside : isLineBreak c = false) (rest : List Char) :
    splitLines (c :: rest) =
      match splitLines rest with
      | [] => [[c]]
      | line :: lines => (c :: line) :: lines := by
  have other : c ≠ '\r' := by
    rintro rfl
    exact absurd inside (by decide)
  rw [splitLines]
  · exact if_neg (by simp [inside])
  · intro _ same
    exact absurd same other

/-- A line feed ends the line before it. -/
theorem splitLines_append (inside : ∀ c ∈ line, isLineBreak c = false) (rest : List Char) :
    splitLines (line ++ '\n' :: rest) = line :: splitLines rest := by
  induction line with
  | nil => rfl
  | cons c line ih =>
    rw [List.forall_mem_cons] at inside
    rw [List.cons_append, splitLines_cons inside.1, ih inside.2]

theorem splitLines_single (inside : ∀ c ∈ line, isLineBreak c = false) (filled : line ≠ []) :
    splitLines line = [line] := by
  induction line with
  | nil => exact absurd rfl filled
  | cons c line ih =>
    rw [List.forall_mem_cons] at inside
    rw [splitLines_cons inside.1]
    cases line with
    | nil => rfl
    | cons d line => rw [ih inside.2 (List.cons_ne_nil d line)]

theorem splitLines_break {c : Char} {rest : List Char} (breaks : isLineBreak c = true)
    (alone : c = '\r' → ∀ after, rest ≠ '\n' :: after) :
    splitLines (c :: rest) = [] :: splitLines rest := by
  rw [splitLines]
  · exact if_pos breaks
  · intro after same
    exact alone same after

theorem splitLines_eq_nil {text : List Char} (none : splitLines text = []) : text = [] := by
  unfold splitLines at none
  split at none
  · rfl
  · cases none
  · split at none
    · cases none
    · split at none <;> cases none

/-- A text that ends with a line feed is cut by itself, whatever follows it. -/
theorem splitLines_append_of_ended {text : List Char}
    (ended : text = [] ∨ text.getLast? = some '\n') (rest : List Char) :
    splitLines (text ++ rest) = splitLines text ++ splitLines rest := by
  have onward : ∀ {c : Char} {text : List Char},
      c :: text = [] ∨ (c :: text).getLast? = some '\n' → text ≠ [] →
        text = [] ∨ text.getLast? = some '\n' := by
    intro c text ended filled
    cases text with
    | nil => exact absurd rfl filled
    | cons d text => exact .inr (by simpa using ended)
  induction text using splitLines.induct with
  | case1 => rfl
  | case2 text ih =>
    refine congrArg ([] :: ·) (ih ?_)
    cases text with
    | nil => exact .inl rfl
    | cons c text => exact .inr (by simpa using ended)
  | case3 c text alone breaks ih =>
    by_cases filled : text = []
    · subst text
      obtain rfl : c = '\n' := by simpa using ended
      rfl
    · -- A line feed that belongs to a carriage return is in the text, which has not ended.
      have apart : c = '\r' → ∀ after, text ++ rest ≠ '\n' :: after := by
        intro same after joined
        cases text with
        | nil => exact filled rfl
        | cons d text =>
          rw [List.cons_append, List.cons.injEq] at joined
          exact alone text same (congrArg (· :: text) joined.1)
      rw [List.cons_append, splitLines_break breaks apart,
        splitLines_break breaks fun same after here => alone after same here,
        ih (onward ended filled), List.cons_append]
  | case4 c text alone inside none ih =>
    obtain rfl := splitLines_eq_nil none
    obtain rfl : c = '\n' := by simpa using ended
    exact absurd rfl inside
  | case5 c text alone inside line lines cut ih =>
    have filled : text ≠ [] := by
      rintro rfl
      cases cut
    have within : isLineBreak c = false := Bool.eq_false_iff.mpr inside
    rw [List.cons_append, splitLines_cons within, splitLines_cons within, ih (onward ended filled),
      cut]
    rfl

theorem mem_of_mem_splitLines {c : Char} (text : List Char) :
    ∀ line ∈ splitLines text, c ∈ line → c ∈ text := by
  induction text using splitLines.induct with
  | case1 => simp [splitLines]
  | case2 text ih =>
    rw [splitLines]
    grind
  | case3 d text alone breaks ih =>
    rw [splitLines_break breaks fun same after here => alone after same here]
    grind
  | case4 d text alone inside none ih =>
    rw [splitLines_cons (Bool.eq_false_iff.mpr inside), none]
    grind
  | case5 d text alone inside line lines cut ih =>
    rw [splitLines_cons (Bool.eq_false_iff.mpr inside), cut]
    grind

theorem unifyNewlines_eq_self (unix : '\r' ∉ text) : unifyNewlines text = text := by
  induction text using unifyNewlines.induct with
  | case1 => rfl
  | case2 rest ih => simp at unix
  | case3 c rest alone ih =>
    rw [List.mem_cons, not_or] at unix
    rw [unifyNewlines, if_neg (Ne.symm unix.1), ih unix.2]
    exact fun after clash => absurd clash.symm unix.1

/-- Joined lines are cut where they were joined. An empty line at the end is lost. -/
theorem splitLines_intercalate {lines : List (List Char)}
    (inside : ∀ line ∈ lines, ∀ c ∈ line, isLineBreak c = false) :
    splitLines (['\n'].intercalate lines) = lines ∨
      splitLines (['\n'].intercalate lines) ++ [[]] = lines := by
  induction lines with
  | nil => exact .inl rfl
  | cons line lines ih =>
    rw [List.forall_mem_cons] at inside
    cases lines with
    | nil =>
      rw [List.intercalate_singleton]
      by_cases filled : line = []
      · subst line
        exact .inr rfl
      · exact .inl (splitLines_single inside.1 filled)
    | cons next lines =>
      rw [List.intercalate_cons_cons, List.append_assoc, List.singleton_append,
        splitLines_append inside.1]
      rcases ih inside.2 with whole | cut
      · exact .inl (congrArg (line :: ·) whole)
      · exact .inr (congrArg (line :: ·) cut)

/-- A text that ends in a line without a break is that line behind lines that have one. -/
theorem intercalate_concat (lines : List String) (last : String) :
    "\n".intercalate (lines ++ [last]) = String.join (lines.map (· ++ "\n")) ++ last := by
  induction lines with
  | nil =>
    rw [List.nil_append, String.intercalate_singleton]
    exact (String.empty_append).symm
  | cons line lines ih =>
    obtain ⟨next, rest, split⟩ : ∃ next rest, lines ++ [last] = next :: rest :=
      List.exists_cons_of_ne_nil (by simp)
    rw [List.cons_append, split, String.intercalate_cons_cons, ← split, ih, List.map_cons,
      String.join_cons, ← String.append_assoc]

end Lines

end DeskComputer.Text
