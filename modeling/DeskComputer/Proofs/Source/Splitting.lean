import DeskComputer.Proofs.Text.Cutting
import DeskComputer.Source.Operand

/-!
# Splitting at commas

A comma between single quotes does not cut. Texts that are `Uncut` join to a text that is cut only
where they were joined, and blanks around a field, or fields of blanks alone, leave no trace:
`splitOperands_fields`. Of any text nothing but blanks and commas is left out. Main statement:
`splitOperands_lossless`.
-/

namespace DeskComputer.Source

open Text

/-! ### Cutting -/

/-- Texts without commas and quotes but for those in quoted characters. -/
inductive Uncut : List Char → Prop where
  | nil : Uncut []
  | plain {c : Char} {text : List Char} : c ≠ ',' → c ≠ '\'' → Uncut text → Uncut (c :: text)
  | quoted (c : Char) {text : List Char} : Uncut text → Uncut ('\'' :: c :: '\'' :: text)

section Uncut

variable {text : List Char}

theorem Uncut.of_forall (uncut : ∀ c ∈ text, c ≠ ',' ∧ c ≠ '\'') : Uncut text := by
  induction text with
  | nil => exact .nil
  | cons c text ih =>
    rw [List.forall_mem_cons] at uncut
    exact .plain uncut.1.1 uncut.1.2 (ih uncut.2)

theorem Uncut.of_blank (blank : ∀ c ∈ text, isBlank c = true) : Uncut text := by
  refine .of_forall fun c member => ⟨?_, ?_⟩
  · rintro rfl
    exact absurd (blank _ member) (by decide)
  · rintro rfl
    exact absurd (blank _ member) (by decide)

theorem Uncut.append {rest : List Char} (uncut : Uncut text) (uncut' : Uncut rest) :
    Uncut (text ++ rest) := by
  induction uncut with
  | nil => exact uncut'
  | plain comma quote _ ih => exact .plain comma quote ih
  | quoted c _ ih => exact .quoted c ih

/-- A character that starts no quoted one is read alone. -/
theorem cutAtCommas_cons {c : Char} {field rest : List Char}
    (alone : ∀ d after, c = '\'' → rest ≠ d :: '\'' :: after) :
    cutAtCommas field (c :: rest) =
      if c = ',' then field.reverse :: cutAtCommas [] rest else cutAtCommas (c :: field) rest := by
  rw [cutAtCommas]
  exact alone

theorem cutAtCommas_unquoted {c : Char} (unquoted : c ≠ '\'') (field rest : List Char) :
    cutAtCommas field (c :: rest) =
      if c = ',' then field.reverse :: cutAtCommas [] rest else cutAtCommas (c :: field) rest :=
  cutAtCommas_cons fun _ _ quote => absurd quote unquoted

theorem cutAtCommas_comma (field rest : List Char) :
    cutAtCommas field (',' :: rest) = field.reverse :: cutAtCommas [] rest := by
  rw [cutAtCommas_unquoted (by decide), if_pos rfl]

theorem cutAtCommas_uncut (uncut : Uncut text) (field rest : List Char) :
    cutAtCommas field (text ++ rest) = cutAtCommas (text.reverse ++ field) rest := by
  induction uncut generalizing field with
  | nil => rfl
  | plain comma quote _ ih =>
    rw [List.cons_append, cutAtCommas_unquoted quote, if_neg comma, ih, List.reverse_cons,
      List.append_assoc]
    rfl
  | quoted c _ ih =>
    rw [List.cons_append, List.cons_append, List.cons_append, cutAtCommas, ih]
    simp

theorem mem_of_mem_cutAtCommas {c : Char} (field text : List Char) :
    ∀ f ∈ cutAtCommas field text, c ∈ f → c ∈ field ∨ c ∈ text := by
  induction field, text using cutAtCommas.induct with
  | case1 field => simp [cutAtCommas]
  | case2 field d rest ih =>
    rw [cutAtCommas]
    intro f member here
    grind
  | case3 field rest alone ih =>
    rw [cutAtCommas_comma]
    intro f member here
    grind
  | case4 field d rest alone other ih =>
    rw [cutAtCommas_cons alone, if_neg other]
    intro f member here
    grind

theorem mem_of_mem_splitOperands {c : Char} {operand : List Char}
    (h : operand ∈ splitOperands text) (here : c ∈ operand) : c ∈ text := by
  obtain ⟨field, member, rfl⟩ := List.mem_map.mp (List.mem_filter.mp h).1
  have := mem_of_mem_cutAtCommas [] text field member (mem_of_mem_trim here)
  simpa using this

/-- A text is cut at the commas that join its fields. -/
theorem splitOperands_intercalate {fields : List (List Char)} (uncut : ∀ f ∈ fields, Uncut f) :
    splitOperands ([','].intercalate fields) = (fields.map trim).filter (!·.isEmpty) := by
  cases fields with
  | nil => rfl
  | cons first fields =>
    have cut : cutAtCommas [] ([','].intercalate (first :: fields)) = first :: fields := by
      induction fields generalizing first with
      | nil =>
        have whole := cutAtCommas_uncut (uncut first List.mem_cons_self) [] []
        rw [List.append_nil, List.append_nil, cutAtCommas, List.reverse_reverse] at whole
        rw [List.intercalate_singleton, whole]
      | cons second fields ih =>
        rw [List.forall_mem_cons] at uncut
        rw [List.intercalate_cons_cons, List.append_assoc, cutAtCommas_uncut uncut.1,
          List.singleton_append, cutAtCommas_comma, ih second uncut.2, List.append_nil,
          List.reverse_reverse]
    rw [splitOperands, cut]

end Uncut

/-! ### Blanks around a text -/

section Padding

variable {before after : List Char}

/-- Blanks in front of a field are trimmed with it. -/
theorem map_trim_cutAtCommas_before (blank : ∀ c ∈ before, isBlank c = true)
    (field text : List Char) :
    (cutAtCommas (field ++ before.reverse) text).map trim = (cutAtCommas field text).map trim := by
  have ahead : ∀ field : List Char,
      trim (field ++ before.reverse).reverse = trim field.reverse := by
    intro field
    have padded := trim_padded blank (List.forall_mem_nil _) field.reverse
    rwa [List.append_nil, ← List.reverse_reverse before, ← List.reverse_append] at padded
  induction field, text using cutAtCommas.induct with
  | case1 field => exact congrArg (· :: []) (ahead field)
  | case2 field c rest ih =>
    rw [cutAtCommas, cutAtCommas]
    exact ih
  | case3 field rest alone =>
    rw [cutAtCommas_comma, cutAtCommas_comma, List.map_cons, List.map_cons, ahead]
  | case4 field c rest alone other ih =>
    rw [cutAtCommas_cons alone, cutAtCommas_cons alone, if_neg other, if_neg other]
    exact ih

/-- Blanks at the end of a text are trimmed with its last field. -/
theorem map_trim_cutAtCommas_after (blank : ∀ c ∈ after, isBlank c = true)
    (field text : List Char) :
    (cutAtCommas field (text ++ after)).map trim = (cutAtCommas field text).map trim := by
  induction field, text using cutAtCommas.induct with
  | case1 field =>
    have padded := trim_padded (List.forall_mem_nil _) blank field.reverse
    have whole := cutAtCommas_uncut (.of_blank blank) field []
    rw [List.append_nil, cutAtCommas, List.reverse_append, List.reverse_reverse] at whole
    rw [List.nil_append, whole, cutAtCommas]
    exact congrArg (· :: []) padded
  | case2 field c rest ih =>
    rw [List.cons_append, List.cons_append, List.cons_append, cutAtCommas, cutAtCommas]
    exact ih
  | case3 field rest alone ih =>
    rw [List.cons_append, cutAtCommas_comma, cutAtCommas_comma, List.map_cons, List.map_cons, ih]
  | case4 field c rest alone other ih =>
    -- No blank is a quote, so that the blanks complete no quoted character.
    have alone' : ∀ d behind, c = '\'' → rest ++ after ≠ d :: '\'' :: behind := by
      intro d behind quote same
      have unquoted : '\'' ∉ after := fun member => absurd (blank _ member) (by decide)
      match rest with
      | [] => exact unquoted (by rw [← List.nil_append after, same]; simp)
      | [e] =>
        obtain ⟨-, rfl⟩ := List.cons.inj same
        exact unquoted List.mem_cons_self
      | e :: f :: rest =>
        obtain ⟨-, same⟩ := List.cons.inj same
        obtain ⟨rfl, -⟩ := List.cons.inj same
        exact alone e rest quote rfl
    rw [List.cons_append, cutAtCommas_cons alone, cutAtCommas_cons alone', if_neg other,
      if_neg other]
    exact ih

theorem splitOperands_padded (blank : ∀ c ∈ before, isBlank c = true)
    (blank' : ∀ c ∈ after, isBlank c = true) (text : List Char) :
    splitOperands (before ++ (text ++ after)) = splitOperands text := by
  unfold splitOperands
  rw [cutAtCommas_uncut (.of_blank blank), List.append_nil, ← List.nil_append before.reverse,
    map_trim_cutAtCommas_before blank, map_trim_cutAtCommas_after blank']

theorem splitOperands_trimStart (text : List Char) :
    splitOperands (trimStart text) = splitOperands text := by
  have blank : ∀ c ∈ text.takeWhile isBlank, isBlank c = true :=
    fun c member => List.all_eq_true.mp List.all_takeWhile c member
  have padded := splitOperands_padded blank (List.forall_mem_nil _) (trimStart text)
  rw [List.append_nil, trimStart, List.takeWhile_append_dropWhile] at padded
  exact padded.symm

theorem splitOperands_trimEnd (text : List Char) :
    splitOperands (trimEnd text) = splitOperands text := by
  obtain ⟨after, blank, same⟩ := exists_trimEnd text
  have padded := splitOperands_padded (List.forall_mem_nil _) blank (trimEnd text)
  rw [List.nil_append, same] at padded
  exact padded.symm

end Padding

/-! ### Fields -/

/-- Fields that hold tokens in order, each with blanks around it, among fields of blanks. -/
inductive Fields : List (List Char) → List (List Char) → Prop where
  | nil : Fields [] []
  | blank {field : List Char} {fields tokens : List (List Char)} :
      (∀ c ∈ field, isBlank c = true) → Fields fields tokens → Fields (field :: fields) tokens
  | token {before token after : List Char} {fields tokens : List (List Char)} :
      (∀ c ∈ before, isBlank c = true) → (∀ c ∈ after, isBlank c = true) →
      Fields fields tokens → Fields ((before ++ (token ++ after)) :: fields) (token :: tokens)

/-- Tokens that come back whole from between commas. -/
structure Whole (token : List Char) : Prop where
  filled : token ≠ []
  trimmed : trim token = token
  uncut : Uncut token

section Fields

variable {fields tokens : List (List Char)}

theorem Fields.uncut (written : Fields fields tokens) (whole : ∀ t ∈ tokens, Whole t) :
    ∀ f ∈ fields, Uncut f := by
  induction written with
  | nil =>
    intro f none
    cases none
  | blank blank _ ih =>
    rw [List.forall_mem_cons]
    exact ⟨.of_blank blank, ih whole⟩
  | token blank blank' _ ih =>
    rw [List.forall_mem_cons] at whole ⊢
    exact ⟨.append (.of_blank blank) (whole.1.uncut.append (.of_blank blank')), ih whole.2⟩

/-- The operands of joined fields are the tokens in them. -/
theorem splitOperands_fields (written : Fields fields tokens) (whole : ∀ t ∈ tokens, Whole t) :
    splitOperands ([','].intercalate fields) = tokens := by
  rw [splitOperands_intercalate (written.uncut whole)]
  induction written with
  | nil => rfl
  | blank blank _ ih =>
    rw [List.map_cons, trim, trimStart_eq_nil blank]
    exact ih whole
  | @token before token after fields tokens blank blank' _ ih =>
    rw [List.forall_mem_cons] at whole
    have filled : (!token.isEmpty) = true := by simpa using whole.1.filled
    rw [List.map_cons, trim_padded blank blank', whole.1.trimmed, List.filter_cons, if_pos filled,
      ih whole.2]

end Fields

/-! ### Tokens -/

/-- Texts that stand for themselves between commas: trimmed ones without commas and quotes, and any
character between quotes. -/
inductive Token : List Char → Prop where
  | plain {token : List Char} : token ≠ [] → trim token = token →
      (∀ c ∈ token, c ≠ ',' ∧ c ≠ '\'') → Token token
  | quoted (c : Char) : Token ['\'', c, '\'']

theorem trim_quoted (c : Char) : trim ['\'', c, '\''] = ['\'', c, '\''] := rfl

theorem Token.whole {token : List Char} (h : Token token) : Whole token := by
  cases h with
  | plain filled trimmed uncut => exact ⟨filled, trimmed, .of_forall uncut⟩
  | quoted c => exact ⟨by simp, trim_quoted c, .quoted c .nil⟩

/-! ### Operands in their text -/

/-- Operands have been trimmed, and none is empty. -/
theorem trimmed_of_mem_splitOperands {text operand : List Char}
    (h : operand ∈ splitOperands text) : operand ≠ [] ∧ trim operand = operand := by
  obtain ⟨cut, filled⟩ := List.mem_filter.mp h
  obtain ⟨field, -, rfl⟩ := List.mem_map.mp cut
  exact ⟨by simpa using filled, trim_trim field⟩

/-- Whether a text is made of blanks and commas. -/
def Gap (text : List Char) : Prop := ∀ c ∈ text, isBlank c = true ∨ c = ','

/-- Operands in a text, in order and apart, with nothing but gaps in front of, between and behind
them. -/
inductive Among : List (List Char) → List Char → Prop where
  | nil {gap : List Char} : Gap gap → Among [] gap
  | cons {gap operand rest : List Char} {operands : List (List Char)} :
      Gap gap → Among operands rest → Among (operand :: operands) (gap ++ (operand ++ rest))

section Among

variable {gap rest : List Char} {operands fields : List (List Char)}

theorem Gap.of_blank (blank : ∀ c ∈ gap, isBlank c = true) : Gap gap :=
  fun c member => .inl (blank c member)

theorem Gap.append (h : Gap gap) (h' : Gap rest) : Gap (gap ++ rest) :=
  List.forall_mem_append.mpr ⟨h, h'⟩

theorem Among.behind (spaced : Gap gap) (among : Among operands rest) :
    Among operands (gap ++ rest) := by
  cases among with
  | nil spaced' => exact .nil (spaced.append spaced')
  | cons spaced' later =>
    rw [← List.append_assoc]
    exact .cons (spaced.append spaced') later

/-- A field in front adds what is left of it when it is trimmed, if anything is. -/
theorem Among.before (field : List Char)
    (among : Among ((fields.map trim).filter (!·.isEmpty)) rest) :
    Among (((field :: fields).map trim).filter (!·.isEmpty)) (field ++ rest) := by
  obtain ⟨before, after, blank, blank', same⟩ := exists_trim field
  rw [List.map_cons, List.filter_cons]
  split
  · have later := among.behind (.of_blank blank')
    have whole : Among (trim field :: _) (before ++ (trim field ++ (after ++ rest))) :=
      .cons (.of_blank blank) later
    rwa [← List.append_assoc (trim field), ← List.append_assoc before, same] at whole
  · rename_i empty
    have none : trim field = [] := by simpa using empty
    rw [none, List.nil_append] at same
    rw [← same]
    exact among.behind ((Gap.of_blank blank).append (.of_blank blank'))

theorem among_cutAtCommas (field text : List Char) :
    Among (((cutAtCommas field text).map trim).filter (!·.isEmpty)) (field.reverse ++ text) := by
  induction field, text using cutAtCommas.induct with
  | case1 field =>
    have none : Among ((List.map trim []).filter (!·.isEmpty)) [] := .nil (by simp [Gap])
    exact none.before field.reverse
  | case2 field c rest ih =>
    rw [cutAtCommas]
    simpa using ih
  | case3 field rest alone ih =>
    have comma : Gap [','] := by simp [Gap]
    rw [cutAtCommas_comma]
    exact (ih.behind comma).before field.reverse
  | case4 field c rest alone other ih =>
    rw [cutAtCommas_cons alone, if_neg other]
    simpa using ih

end Among

/-- Splitting takes tokens from between commas as they are, whatever blanks and blank fields stand
around them. Of any text it leaves out blanks and commas only, in front of, between and behind its
operands, which are trimmed and not empty. -/
theorem splitOperands_lossless :
    (∀ fields tokens : List (List Char), Fields fields tokens → (∀ t ∈ tokens, Token t) →
      splitOperands ([','].intercalate fields) = tokens) ∧
    ∀ text : List Char, Among (splitOperands text) text ∧
      ∀ operand ∈ splitOperands text, operand ≠ [] ∧ trim operand = operand := by
  constructor
  · intro fields tokens written each
    exact splitOperands_fields written fun t member => (each t member).whole
  · intro text
    exact ⟨among_cutAtCommas [] text, fun _ => trimmed_of_mem_splitOperands⟩

/-- A quote and a comma between quotes, among blanks. -/
theorem splitOperands_lossless_quoted :
    let fields := [[' ', '\'', '\'', '\''], ['\t'], ['\'', ',', '\''], ['a', ' ', 'b', ' ']]
    let tokens := [['\'', '\'', '\''], ['\'', ',', '\''], ['a', ' ', 'b']]
    Fields fields tokens ∧ (∀ t ∈ tokens, Token t) ∧
      String.ofList ([','].intercalate fields) = " ''',\t,',',a b " ∧
      splitOperands ([','].intercalate fields) = tokens := by
  intro fields tokens
  have written : Fields fields tokens := by
    have space : ∀ c ∈ [' '], isBlank c = true := List.forall_mem_singleton.mpr (by decide)
    have tab : ∀ c ∈ ['\t'], isBlank c = true := List.forall_mem_singleton.mpr (by decide)
    have none : ∀ c ∈ ([] : List Char), isBlank c = true := List.forall_mem_nil _
    refine @Fields.token [' '] ['\'', '\'', '\''] [] _ _ space none (.blank tab ?_)
    refine @Fields.token [] ['\'', ',', '\''] [] _ _ none none ?_
    exact @Fields.token [] ['a', ' ', 'b'] [' '] _ _ none space .nil
  have each : ∀ t ∈ tokens, Token t := by
    intro t member
    rcases List.mem_cons.mp member with rfl | member
    · exact .quoted '\''
    rcases List.mem_cons.mp member with rfl | member
    · exact .quoted ','
    obtain rfl := List.mem_singleton.mp member
    exact .plain (by decide) (by decide) (by simp)
  exact ⟨written, each, by decide, splitOperands_lossless.1 fields tokens written each⟩

end DeskComputer.Source
