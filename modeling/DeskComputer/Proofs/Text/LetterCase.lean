import DeskComputer.Proofs.Text.Classes
import DeskComputer.Proofs.Text.Cutting
import DeskComputer.Proofs.Text.Decimal

/-!
# Letter case

Texts that differ in the case of ASCII letters are cut at the same places and have one lower case:
every class of characters that the cutting of text looks for holds of a letter in both cases or in
none. A class of ranges that the runs of the lower-case mapping stay clear of is not changed by it,
so that a lower-case text starts with a digit or a sign exactly if the text does.
-/

namespace DeskComputer.Text

variable {c : Char} {text : List Char}

/-! ### Capitals -/

def capitals : List Char := (List.range 26).map fun i => Char.ofNat (65 + i)

theorem mem_capitals (low : 65 ≤ c.toNat) (high : c.toNat ≤ 90) : c ∈ capitals := by
  refine List.mem_map.mpr ⟨c.toNat - 65, List.mem_range.mpr (by omega), ?_⟩
  rw [Nat.add_sub_cancel' low, Char.ofNat_toNat]

theorem toLower_of_not_capital (other : c ∉ capitals) : c.toLower = c :=
  dif_neg fun capital => other (mem_capitals capital.1 capital.2)

/-- What has one value at each capital and its lower case has one at all characters and theirs. -/
theorem toLower_kept {α : Type} [DecidableEq α] {f : Char → α}
    (letters : capitals.all (fun c => decide (f c.toLower = f c)) = true) (c : Char) :
    f c.toLower = f c := by
  by_cases capital : c ∈ capitals
  · exact of_decide_eq_true (List.all_eq_true.mp letters c capital)
  · rw [toLower_of_not_capital capital]

/-- Whether a class has no ASCII letters. -/
def Ranges.letterless (ranges : Ranges) : Bool :=
  ranges.all fun (low, high) => high < 65 || (90 < low && high < 97) || 122 < low

theorem Ranges.contains_capital {ranges : Ranges} (letterless : ranges.letterless = true)
    (capital : c ∈ capitals) : ranges.contains c = false ∧ ranges.contains c.toLower = false := by
  have codes : capitals.all (fun c => decide (65 ≤ c.toNat ∧ c.toNat ≤ 90 ∧
      c.toLower.toNat = c.toNat + 32)) = true := by decide
  obtain ⟨first, last, lowered⟩ := of_decide_eq_true (List.all_eq_true.mp codes c capital)
  simp only [Ranges.letterless, List.all_eq_true, Bool.or_eq_true, Bool.and_eq_true,
    decide_eq_true_eq] at letterless
  constructor <;> apply contains_eq_false <;> intro range member <;>
    have := letterless range member <;> omega

theorem Ranges.contains_toLower {ranges : Ranges} (letterless : ranges.letterless = true) :
    ranges.contains ∘ Char.toLower = ranges.contains := by
  funext c
  by_cases capital : c ∈ capitals
  · obtain ⟨here, lowered⟩ := contains_capital letterless capital
    exact lowered.trans here.symm
  · exact congrArg ranges.contains (toLower_of_not_capital capital)

theorem isBlank_toLower : isBlank ∘ Char.toLower = isBlank :=
  Ranges.contains_toLower (by decide)

theorem isLineBreak_toLower : isLineBreak ∘ Char.toLower = isLineBreak :=
  funext (toLower_kept (by decide))

theorem isDecimal_toLower : isDecimal ∘ Char.toLower = isDecimal :=
  Ranges.contains_toLower (by decide)

theorem isWordChar_toLower : isWordChar ∘ Char.toLower = isWordChar :=
  funext (toLower_kept (by decide +kernel))

theorem toLower_eq_iff {d : Char}
    (kept : capitals.all (fun c => decide (c ≠ d ∧ c.toLower ≠ d)) = true)
    (c : Char) : c.toLower = d ↔ c = d := by
  have same := toLower_kept (f := fun c => decide (c = d)) (by
    rw [List.all_eq_true] at kept ⊢
    intro c member
    have apart := of_decide_eq_true (kept c member)
    simp [apart.1, apart.2]) c
  simpa using same

theorem head?_toLower {d : Char}
    (kept : capitals.all (fun c => decide (c ≠ d ∧ c.toLower ≠ d)) = true) :
    (text.map Char.toLower).head? = some d ↔ text.head? = some d := by
  cases text with
  | nil => simp
  | cons c text => simp [toLower_eq_iff kept]

theorem getLast?_toLower {d : Char}
    (kept : capitals.all (fun c => decide (c ≠ d ∧ c.toLower ≠ d)) = true) :
    (text.map Char.toLower).getLast? = some d ↔ text.getLast? = some d := by
  rw [← List.head?_reverse, ← List.map_reverse, head?_toLower kept, List.head?_reverse]

/-! ### Cutting -/

theorem trimStart_toLower (text : List Char) :
    trimStart (text.map Char.toLower) = (trimStart text).map Char.toLower := by
  rw [trimStart, List.dropWhile_map, isBlank_toLower, trimStart]

theorem trimEnd_toLower (text : List Char) :
    trimEnd (text.map Char.toLower) = (trimEnd text).map Char.toLower := by
  rw [trimEnd, ← List.map_reverse, List.dropWhile_map, isBlank_toLower, ← List.map_reverse, trimEnd]

theorem trim_toLower (text : List Char) :
    trim (text.map Char.toLower) = (trim text).map Char.toLower := by
  rw [trim, trimStart_toLower, trimEnd_toLower, trim]

theorem not_isBlank_toLower : (!isBlank ·) ∘ Char.toLower = (!isBlank ·) :=
  funext fun c => congrArg (!·) (congrFun isBlank_toLower c)

theorem firstWord_toLower (text : List Char) :
    firstWord (text.map Char.toLower) = (firstWord text).map Char.toLower := by
  rw [firstWord, List.takeWhile_map, not_isBlank_toLower, firstWord]

theorem afterWord_toLower (text : List Char) :
    afterWord (text.map Char.toLower) = (afterWord text).map Char.toLower := by
  rw [afterWord, List.dropWhile_map, not_isBlank_toLower, trimStart_toLower, afterWord]

theorem splitLines_toLower (text : List Char) :
    splitLines (text.map Char.toLower) = (splitLines text).map (List.map Char.toLower) := by
  induction text using splitLines.induct with
  | case1 => rfl
  | case2 text ih => exact congrArg ([] :: ·) ih
  | case3 c text alone breaks ih =>
    have apart : c.toLower = '\r' → ∀ after, text.map Char.toLower ≠ '\n' :: after := by
      intro same after here
      obtain ⟨d, rest, rfl, feed, -⟩ := List.map_eq_cons_iff.mp here
      rw [toLower_eq_iff (by decide)] at same feed
      exact alone rest same (by rw [feed])
    have breaks' : isLineBreak c.toLower = true := (congrFun isLineBreak_toLower c).trans breaks
    rw [List.map_cons, splitLines_break breaks' apart, ih,
      splitLines_break breaks fun same after here => alone after same here, List.map_cons]
    rfl
  | case4 c text alone inside none ih =>
    have within : isLineBreak c = false := Bool.eq_false_iff.mpr inside
    have within' : isLineBreak c.toLower = false := (congrFun isLineBreak_toLower c).trans within
    rw [List.map_cons, splitLines_cons within', ih, splitLines_cons within, none]
    rfl
  | case5 c text alone inside line lines cut ih =>
    have within : isLineBreak c = false := Bool.eq_false_iff.mpr inside
    have within' : isLineBreak c.toLower = false := (congrFun isLineBreak_toLower c).trans within
    rw [List.map_cons, splitLines_cons within', ih, splitLines_cons within, cut]
    rfl

/-! ### Lower case -/

theorem lowerChar_toLower (c : Char) : lowerChar c.toLower = lowerChar c :=
  toLower_kept (by decide +kernel) c

theorem startsCased_toLower (text : List Char) :
    startsCased (text.map Char.toLower) = startsCased text := by
  have ignorable : caseIgnorableRanges.contains ∘ Char.toLower = caseIgnorableRanges.contains :=
    Ranges.contains_toLower (by decide +kernel)
  have cased : ∀ c : Char, casedRanges.contains c.toLower = casedRanges.contains c :=
    toLower_kept (by decide +kernel)
  rw [startsCased, List.dropWhile_map, ignorable, List.head?_map, Option.any_map, startsCased]
  simp only [cased]

theorem lowerInPlace_toLower (before : List Char) (c : Char) (rest : List Char) :
    lowerInPlace (before.map Char.toLower) c.toLower (rest.map Char.toLower) =
      lowerInPlace before c rest := by
  have sigma : c.toLower = 'Σ' ↔ c = 'Σ' := toLower_eq_iff (by decide) c
  have dotted : c.toLower = 'İ' ↔ c = 'İ' := toLower_eq_iff (by decide) c
  unfold lowerInPlace endsWord
  simp only [startsCased_toLower, lowerChar_toLower, sigma, dotted]

/-- Texts that differ in the case of letters have one lower case. -/
theorem lower_toLower (text : List Char) : lower (text.map Char.toLower) = lower text := by
  have placed : ∀ before : List Char,
      lowerAfter (before.map Char.toLower) (text.map Char.toLower) = lowerAfter before text := by
    induction text with
    | nil => intro before; rfl
    | cons c text ih =>
      intro before
      rw [List.map_cons, lowerAfter, lowerAfter, lowerInPlace_toLower, ← List.map_cons, ih]
  exact placed []

/-! ### Classes that lowering keeps -/

/-- Whether the runs of the lower-case mapping neither leave a class nor enter it. -/
def Ranges.apart (ranges : Ranges) : Bool :=
  lowerRuns.all fun (first, last, _, offset) => ranges.all fun (low, high) =>
    Nat.blt 0 low && (Nat.blt last low || Nat.blt high first) &&
      (Nat.blt (last + offset).toNat low || Nat.blt high (first + offset).toNat)

/-- A number that is no code point stands for the character zero. -/
theorem toNat_ofNat (n : Nat) : (Char.ofNat n).toNat = n ∨ (Char.ofNat n).toNat = 0 := by
  by_cases valid : n.isValidChar
  · rw [Char.ofNat, dif_pos valid]
    exact .inl rfl
  · rw [Char.ofNat, dif_neg valid]
    exact .inr rfl

theorem Ranges.contains_lowerChar {ranges : Ranges} (apart : ranges.apart = true)
    (high : ¬c.toNat < 0x80) : ranges.contains (lowerChar c) = ranges.contains c := by
  rw [lowerChar, if_neg high]
  split
  · rename_i first last step offset found
    have within := List.find?_some found
    have clear := List.all_eq_true.mp apart _ (List.mem_of_find?_eq_some found)
    simp only [List.all_eq_true, Bool.and_eq_true, Bool.or_eq_true, decide_eq_true_eq,
      Nat.blt_eq] at within clear
    have code := toNat_ofNat (c.toNat + offset).toNat
    rw [contains_eq_false fun range member => ?_, contains_eq_false fun range member => ?_]
    · have := clear range member
      omega
    · have := clear range member
      omega
  · rfl

theorem lowerChar_of_ascii (low : c.toNat < 0x80) : lowerChar c = c.toLower := by
  by_cases capital : c ∈ capitals
  · have letters : capitals.all (fun c => decide (lowerChar c = c.toLower)) = true := by decide
    exact of_decide_eq_true (List.all_eq_true.mp letters c capital)
  · have outside : ¬('A' ≤ c ∧ c ≤ 'Z') := fun inside => capital (mem_capitals inside.1 inside.2)
    rw [lowerChar, if_pos low, if_neg outside, toLower_of_not_capital capital]

/-- A lower-case text starts in a class without letters if and only if the text does. -/
theorem Ranges.head?_lower {ranges : Ranges} (apart : ranges.apart = true)
    (letterless : ranges.letterless = true)
    (special : ['Σ', 'σ', 'İ'].all (!ranges.contains ·) = true) (text : List Char) :
    (lower text).head?.any ranges.contains = text.head?.any ranges.contains := by
  simp only [List.all_cons, List.all_nil, Bool.and_true, Bool.and_eq_true,
    Bool.not_eq_true'] at special
  obtain ⟨capitalSigma, sigma, dotted⟩ := special
  cases text with
  | nil => rfl
  | cons c rest =>
    show (lowerInPlace [] c rest ++ _).head?.any _ = ranges.contains c
    unfold lowerInPlace
    split
    · rename_i same
      rw [same, capitalSigma]
      exact sigma
    · split
      · rename_i same
        rw [same, dotted]
        exact (contains_capital (c := 'I') letterless (by decide)).2
      · show ranges.contains (lowerChar c) = ranges.contains c
        by_cases low : c.toNat < 0x80
        · rw [lowerChar_of_ascii low]
          exact congrFun (contains_toLower letterless) c
        · exact contains_lowerChar apart low

theorem head?_lower_isDigit (text : List Char) :
    (lower text).head?.any isDigit = text.head?.any isDigit := by
  have digits : isDigit = Ranges.contains (decimalRanges ++ otherDigitRanges) := by
    funext c
    rw [Ranges.contains, List.any_append]
    rfl
  rw [digits]
  exact Ranges.head?_lower (by decide +kernel) (by decide +kernel) (by decide +kernel) text

theorem head?_lower_minus (text : List Char) :
    (lower text).head? = some '-' ↔ text.head? = some '-' := by
  have minus : ∀ first : Option Char,
      first.any (Ranges.contains [(45, 45)]) = true ↔ first = some '-' := by
    intro first
    cases first with
    | none => simp
    | some c =>
      simp only [Option.any_some, Ranges.contains, List.any_cons, List.any_nil, Bool.or_false,
        Bool.and_eq_true, decide_eq_true_eq, Option.some.injEq, ← Char.toNat_inj]
      show 45 ≤ c.toNat ∧ c.toNat ≤ 45 ↔ c.toNat = 45
      omega
  rw [← minus, ← minus, Ranges.head?_lower (by decide +kernel) (by decide) (by decide)]

/-- A lower-case text has no capitals. -/
theorem toLower_of_mem_lower (member : c ∈ lower text) : c.toLower = c := by
  have placed : ∀ before d rest, c ∈ lowerInPlace before d rest → c.toLower = c := by
    intro before d rest here
    unfold lowerInPlace at here
    split at here
    · split at here <;> rw [List.mem_singleton.mp here] <;> decide
    · split at here
      · have both : ['i', '\u0307'].all (fun c => decide (c.toLower = c)) = true := by decide
        exact of_decide_eq_true (List.all_eq_true.mp both c here)
      · obtain rfl := List.mem_singleton.mp here
        by_cases low : d.toNat < 0x80
        · rw [lowerChar_of_ascii low]
          exact toLower_kept (f := Char.toLower) (by decide) d
        · -- No run of the mapping ends among the capitals.
          apply toLower_of_not_capital
          intro capital
          have inside : capitals.all (Ranges.contains [(65, 90)]) = true := by decide
          have here := List.all_eq_true.mp inside _ capital
          rw [Ranges.contains_lowerChar (by decide +kernel) low] at here
          simp only [Ranges.contains, List.any_cons, List.any_nil, Bool.or_false, Bool.and_eq_true,
            decide_eq_true_eq] at here
          omega
  have after : ∀ before, c ∈ lowerAfter before text → c.toLower = c := by
    clear member
    induction text with
    | nil =>
      intro before none
      cases none
    | cons d text ih =>
      intro before here
      rw [lowerAfter, List.mem_append] at here
      exact here.elim (placed before d text) (ih (d :: before))
  exact after [] member

end DeskComputer.Text
