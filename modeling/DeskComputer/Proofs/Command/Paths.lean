import DeskComputer.Proofs.Command.Files

/-!
# Paths to one place

A path that is read from a text is walked part by part. Paths that differ in their last parts name
different places, if the one that is left out of account goes up at most. So a file and the file
beside it with the suffix `.bin` are the same only if the name of the file ends in that suffix, or
if one of the two is a link. Main statement: `Path.locate_withSuffix`.
-/

namespace DeskComputer.Command

/-! ### Pieces -/

theorem cutAtSlashes_eq (text : List Char) : cutAtSlashes text = text.splitOn '/' := by
  induction text with
  | nil => rfl
  | cons c text ih =>
    rw [cutAtSlashes, List.splitOn_cons_eq_if_modifyHead, ih]
    by_cases slash : c = '/'
    · rw [if_pos slash, if_pos (beq_iff_eq.mpr slash)]
    · rw [if_neg slash, if_neg (by simpa using slash)]
      cases split : text.splitOn '/' with
      | nil => exact absurd split (List.splitOn_ne_nil '/' text)
      | cons piece pieces => rfl

theorem slash_not_mem_cutAtSlashes (text : List Char) :
    ∀ piece ∈ cutAtSlashes text, '/' ∉ piece := by
  induction text with
  | nil => simp [cutAtSlashes]
  | cons c text ih =>
    rw [cutAtSlashes]
    split
    · exact List.forall_mem_cons.mpr ⟨List.not_mem_nil, ih⟩
    · rename_i other
      split
      · simpa using Ne.symm other
      · rename_i piece pieces split
        rw [split, List.forall_mem_cons] at ih
        refine List.forall_mem_cons.mpr ⟨?_, ih.2⟩
        rw [List.mem_cons, not_or]
        exact ⟨Ne.symm other, ih.1⟩

theorem pieces_intercalate {parts : List String} (some : parts ≠ [])
    (slashless : ∀ part ∈ parts, '/' ∉ part.toList) :
    (cutAtSlashes ("/".intercalate parts).toList).map String.ofList = parts := by
  have cut : cutAtSlashes ("/".intercalate parts).toList = parts.map String.toList := by
    rw [cutAtSlashes_eq, String.toList_intercalate]
    refine List.splitOn_intercalate '/' ?_ (by simpa using some)
    simpa using slashless
  rw [cut, List.map_map]
  exact (List.map_congr_left fun part _ => String.ofList_toList).trans (List.map_id parts)

namespace Path

/-! ### Paths that are read -/

/-- Whether a path has a root and parts as one that is read from a text has. -/
structure Proper (p : Path) : Prop where
  root : p.root = "" ∨ p.root = "/" ∨ p.root = "//"
  slashless : ∀ part ∈ p.parts, '/' ∉ part.toList
  filled : ∀ part ∈ p.parts, part ≠ "" ∧ part ≠ "."

theorem proper_ofString (text : String) : (ofString text).Proper where
  root := by
    unfold ofString rootOf
    dsimp only
    split
    · exact .inl rfl
    · exact .inr (.inr rfl)
    · exact .inr (.inl rfl)
  slashless := by
    intro part member
    obtain ⟨piece, cut, rfl⟩ := List.mem_map.mp (List.mem_filter.mp member).1
    rw [String.toList_ofList]
    exact slash_not_mem_cutAtSlashes _ piece cut
  filled := by
    intro part member
    simpa using (List.mem_filter.mp member).2

variable {p : Path}

/-- The text of a proper path is cut into its parts again, after an empty piece for each slash of
its root. -/
theorem Proper.pieces_text (h : p.Proper) (some : p.parts ≠ []) :
    pieces p.text = List.replicate p.root.length "" ++ p.parts := by
  have rest := pieces_intercalate some h.slashless
  have slash (text : List Char) : (cutAtSlashes ('/' :: text)).map String.ofList =
      "" :: (cutAtSlashes text).map String.ofList := rfl
  unfold text pieces
  rw [if_neg fun none => some none.2, String.toList_append]
  rcases h.root with root | root | root <;> rw [root]
  · exact rest
  · exact (slash _).trans (congrArg _ rest)
  · exact (slash _).trans (congrArg _ ((slash _).trans (congrArg _ rest)))

theorem Proper.start_text (h : p.Proper) (some : p.parts ≠ []) :
    Files.start p.text = if p.root = "" then [] else ["/"] := by
  have shown : p.text = p.root ++ "/".intercalate p.parts := if_neg fun none => some none.2
  rw [Files.start, shown, String.toList_append]
  rcases h.root with root | root | root <;> rw [root]
  · -- Without a root the first character is that of the first part.
    obtain ⟨first, parts, split⟩ := List.exists_cons_of_ne_nil some
    have member : first ∈ p.parts := split ▸ List.mem_cons_self
    have filled : first.toList ≠ [] := by simpa using (h.filled first member).1
    have front : ∃ rest, ("/".intercalate p.parts).toList = first.toList ++ rest := by
      rw [split]
      cases parts with
      | nil => exact ⟨[], by simp⟩
      | cons second parts =>
        rw [String.intercalate_cons_cons, String.append_assoc, String.toList_append]
        exact ⟨_, rfl⟩
    obtain ⟨rest, front⟩ := front
    have slashless : first.toList.head? ≠ Option.some '/' :=
      fun slash => h.slashless first member (List.mem_of_head? slash)
    rw [front, if_pos rfl, if_neg]
    rwa [String.toList_empty, List.nil_append, List.head?_append, List.head?_eq_some_head filled,
      Option.some_or, ← List.head?_eq_some_head filled]
  · rfl
  · rfl

/-! ### Names with a suffix -/

/-- A name stays as it is when its suffix is replaced by `.bin` only if it has that suffix. -/
theorem stem_append {name : List Char} :
    stem name ++ ".bin".toList = name ↔ ∃ front, front ≠ [] ∧ name = front ++ ".bin".toList := by
  have suffix : ".bin".toList = ['.', 'b', 'i', 'n'] := by simp
  constructor
  · intro same
    have shorter : (stem name).length + 4 = name.length := by
      simpa using congrArg List.length same
    refine ⟨stem name, ?_, same.symm⟩
    unfold stem at shorter ⊢
    dsimp only at shorter ⊢
    split at shorter
    · rename_i cut
      rw [if_pos cut, ← List.length_pos_iff, List.length_take]
      omega
    · omega
  · rintro ⟨front, filled, rfl⟩
    have after : ((front ++ ".bin".toList).reverse.takeWhile (· ≠ '.')).length = 3 := by
      rw [suffix, List.reverse_append]
      rfl
    have before : (front ++ ".bin".toList).length - 3 - 1 = front.length := by
      rw [suffix, List.length_append]
      rfl
    have kept : stem (front ++ ".bin".toList) = front := by
      unfold stem
      dsimp only
      rw [after, before, if_pos ⟨by decide, List.length_pos_iff.mpr filled⟩, List.take_left]
    rw [kept]

theorem mem_stem {name : List Char} {c : Char} (h : c ∈ stem name) : c ∈ name := by
  unfold stem at h
  dsimp only at h
  split at h
  · exact List.mem_of_mem_take h
  · exact h

/-- A name with its suffix replaced by `.bin`. -/
def binName (name : String) : String := String.ofList (stem name.toList) ++ ".bin"

theorem length_binName (name : String) : 2 < (binName name).length := by
  rw [binName, String.length_append]
  exact Nat.lt_add_left _ (by decide)

theorem binName_eq_self {name : String} :
    binName name = name ↔ ∃ front, front ≠ "" ∧ name = front ++ ".bin" := by
  rw [← String.toList_inj, binName, String.toList_append, String.toList_ofList, stem_append]
  constructor
  · rintro ⟨front, filled, same⟩
    refine ⟨String.ofList front, by simpa using filled, ?_⟩
    rw [← String.toList_inj, String.toList_append, String.toList_ofList, same]
  · rintro ⟨front, filled, rfl⟩
    exact ⟨front.toList, by simpa using filled, String.toList_append⟩

theorem withSuffix_concat {name : String} {front : List String}
    (named : p.parts = front ++ [name]) :
    p.withSuffix ".bin" = { p with parts := front ++ [binName name] } := by
  unfold withSuffix
  rw [named, List.getLast?_concat, List.dropLast_concat]
  rfl

theorem withSuffix_eq_self {front : String} (filled : front ≠ "")
    (suffixed : p.parts.getLast? = some (front ++ ".bin")) : p.withSuffix ".bin" = p := by
  obtain ⟨rest, named⟩ := List.getLast?_eq_some_iff.mp suffixed
  rw [withSuffix_concat named, binName_eq_self.mpr ⟨front, filled, rfl⟩, ← named]

theorem Proper.withSuffix (h : p.Proper) : (p.withSuffix ".bin").Proper := by
  rcases List.eq_nil_or_concat p.parts with none | ⟨front, name, named⟩
  · have same : p.withSuffix ".bin" = p := by
      unfold Path.withSuffix
      rw [none]
      rfl
    rwa [same]
  · rw [List.concat_eq_append] at named
    rw [withSuffix_concat named]
    have slashless := h.slashless
    have filled := h.filled
    rw [named, List.forall_mem_append, List.forall_mem_singleton] at slashless filled
    refine ⟨h.root, ?_, ?_⟩
    · refine List.forall_mem_append.mpr ⟨slashless.1, List.forall_mem_singleton.mpr ?_⟩
      rw [binName, String.toList_append, String.toList_ofList, List.mem_append, not_or]
      exact ⟨fun slash => slashless.2 (mem_stem slash), by simp⟩
    · refine List.forall_mem_append.mpr ⟨filled.1, List.forall_mem_singleton.mpr ?_⟩
      have long := length_binName name
      constructor
      · intro empty
        rw [empty] at long
        exact absurd long (by decide)
      · intro point
        rw [point] at long
        exact absurd long (by decide)

end Path

namespace Files

/-! ### Last parts -/

variable {files : Files} {place target : Place} {name other : String}

theorem walk_concat {parts : List String}
    (walked : files.walk place (parts ++ [name]) = .ok target) :
    ∃ last, files.walk place parts = .ok last ∧ files.follow (stepTo last name) = target := by
  induction parts generalizing place with
  | nil =>
    rw [List.nil_append, walk] at walked
    split at walked
    · split at walked
      · cases walked
      · exact ⟨place, rfl, Except.ok.inj walked⟩
    · cases walked
    · cases walked
    · cases walked
  | cons part parts ih =>
    rw [List.cons_append, walk] at walked
    rw [walk]
    split at walked
    · split at walked
      · cases walked
      · rename_i short
        rw [if_neg short]
        exact ih walked
    · cases walked
    · cases walked
    · cases walked

/-- The place that a path text names: its last part is not followed if it is a link. -/
def named (files : Files) (path : String) : Except FileProblem Place := do
  let last ← files.walk (start path) (pieces path).dropLast
  return stepTo last ((pieces path).getLast?.getD "")

/-- Whether a path text names a link. -/
def NamesLink (files : Files) (path : String) : Prop :=
  ∃ place target, files.named path = .ok place ∧ files.node? place = some (.link target)

theorem follow_eq_self (unlinked : ∀ target, files.node? place ≠ some (.link target)) :
    files.follow place = place := by
  unfold follow
  split
  · rename_i target linked
    exact absurd linked (unlinked target)
  · rfl

theorem stepTo_down (proper : name ≠ "" ∧ name ≠ ".") (down : name ≠ "..") :
    stepTo place name = place ++ [name] := by
  rw [stepTo, if_neg (not_or.mpr proper), if_pos down]

/-- Two names lead from a place to one place only if they are the same, where one is long enough to
go down. -/
theorem stepTo_inj (proper : name ≠ "" ∧ name ≠ ".") (long : 2 < other.length)
    (same : stepTo place name = stepTo place other) : name = other := by
  have down : ∀ short : String, short.length ≤ 2 → other ≠ short := by
    rintro short limit rfl
    omega
  rw [stepTo_down ⟨down "" (by decide), down "." (by decide)⟩ (down ".." (by decide))] at same
  by_cases up : name = ".."
  · subst up
    have longer := congrArg List.length same
    unfold stepTo at same longer
    rw [if_neg (by decide), if_neg (by simp)] at same longer
    split at same
    · rename_i root
      rw [root] at same
      cases same
    · rename_i below
      rw [if_neg below] at longer
      split at same
      · exact absurd (List.singleton_inj.mp (List.append_cancel_left same)).symm
          (down ".." (by decide))
      · rename_i inside
        rw [if_neg inside, List.length_dropLast, List.length_append, List.length_singleton]
          at longer
        omega
  · rw [stepTo_down proper up] at same
    exact List.singleton_inj.mp (List.append_cancel_left same)

end Files

namespace Path

variable {p : Path} {files : Files} {place : Place} {bytes : List Nat}

/-- A proper path names a step from the place that its other parts lead to, and leads where that is
followed to. -/
theorem Proper.locate_concat (h : p.Proper) {name : String} {front : List String}
    (last : p.parts = front ++ [name]) (located : files.locate p.text = .ok place) :
    ∃ within, files.walk (if p.root = "" then [] else ["/"])
        (List.replicate p.root.length "" ++ front) = .ok within ∧
      files.named p.text = .ok (Files.stepTo within name) ∧
      files.follow (Files.stepTo within name) = place := by
  obtain ⟨-, -, -, walked⟩ := Files.locate_ok.mp located
  have some : p.parts ≠ [] := by simp [last]
  have cut : pieces p.text = List.replicate p.root.length "" ++ front ++ [name] := by
    rw [h.pieces_text some, last, List.append_assoc]
  rw [cut, h.start_text some] at walked
  obtain ⟨within, walked, followed⟩ := Files.walk_concat walked
  refine ⟨within, walked, ?_, followed⟩
  rw [Files.named, cut, h.start_text some, List.dropLast_concat, List.getLast?_concat, walked]
  rfl

/-- A path without parts leads to a directory. -/
theorem Proper.parts_of_read (h : p.Proper) (held : files.read p = .ok bytes) : p.parts ≠ [] := by
  intro none
  obtain ⟨place, located, standing⟩ := Files.read_ok.mp held
  obtain ⟨-, -, -, walked⟩ := Files.locate_ok.mp located
  have top : place = [] ∨ place = ["/"] := by
    unfold text at walked
    rw [none] at walked
    rcases h.root with root | root | root <;> rw [root] at walked
    · exact .inl (Except.ok.inj walked).symm
    · exact .inr (Except.ok.inj walked).symm
    · exact .inr (Except.ok.inj walked).symm
  rcases top with rfl | rfl
  · cases standing
  · cases standing

/-- A file and the file beside it with the suffix `.bin` are one only if the name has that suffix,
or one of them is a link. -/
theorem Proper.locate_withSuffix (h : p.Proper) (held : files.read p = .ok bytes)
    (same : files.locate (p.withSuffix ".bin").text = files.locate p.text) :
    (∃ front, front ≠ "" ∧ p.parts.getLast? = some (front ++ ".bin")) ∨
      files.NamesLink p.text ∨ files.NamesLink (p.withSuffix ".bin").text := by
  obtain ⟨place, located, -⟩ := Files.read_ok.mp held
  obtain ⟨front, name, last⟩ :=
    (List.eq_nil_or_concat p.parts).resolve_left (h.parts_of_read held)
  rw [List.concat_eq_append] at last
  have proper := h.withSuffix
  rw [withSuffix_concat last] at same proper ⊢
  obtain ⟨within, walked, named, followed⟩ := h.locate_concat last located
  obtain ⟨within', walked', named', followed'⟩ := proper.locate_concat rfl (same.trans located)
  obtain rfl := Except.ok.inj (walked.symm.trans walked')
  by_cases linked : ∃ target, files.node? (Files.stepTo within name) = some (.link target)
  · obtain ⟨target, linked⟩ := linked
    exact .inr (.inl ⟨_, target, named, linked⟩)
  by_cases linked' : ∃ target, files.node? (Files.stepTo within (binName name)) =
      some (.link target)
  · obtain ⟨target, linked'⟩ := linked'
    exact .inr (.inr ⟨_, target, named', linked'⟩)
  -- Neither is a link, so the two names are steps to one place.
  rw [Files.follow_eq_self (not_exists.mp linked)] at followed
  rw [Files.follow_eq_self (not_exists.mp linked')] at followed'
  have member : name ∈ p.parts := by simp [last]
  have equal := Files.stepTo_inj (h.filled name member) (length_binName name)
    (followed.trans followed'.symm)
  obtain ⟨front, filled, suffixed⟩ := binName_eq_self.mp equal.symm
  exact .inl ⟨front, filled, by rw [last, List.getLast?_concat, suffixed]⟩

end Path

end DeskComputer.Command
