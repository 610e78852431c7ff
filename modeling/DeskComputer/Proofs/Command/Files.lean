import DeskComputer.Command.Files
import DeskComputer.Proofs.Outcome
import DeskComputer.Proofs.Text.Bytes
import DeskComputer.Proofs.Text.Cutting

/-!
# Reading what was written

A file that is written can be read, and every other file is left as it was. Writing adds a file in a
directory that exists and changes no link, so whatever a path led to before it leads to after.
-/

namespace DeskComputer.Command.Files

variable {files after : Files} {place other target : Place} {path : Path} {bytes old : List Nat}
  {node : Node}

/-- Whether a file can stand at a place: no directory and no link does. -/
def Free (files : Files) (place : Place) : Prop :=
  ∀ node, files.node? place = some node → ∃ bytes, node = .file bytes

/-! ### One place -/

theorem lookup_put :
    (put place bytes files).lookup other =
      if other = place then some (.file bytes) else files.lookup other := by
  induction files with
  | nil => exact lookup_entry place _
  | cons first files ih =>
    obtain ⟨known, held⟩ := first
    unfold put
    by_cases same : known = place
    · subst known
      rw [if_pos rfl, lookup_entry, lookup_entry]
      by_cases hit : other = place
      · rw [if_pos hit, if_pos hit]
      · rw [if_neg hit, if_neg hit, if_neg hit]
    · rw [if_neg same, lookup_entry, lookup_entry, ih]
      by_cases hit : other = known
      · rw [if_pos hit, if_pos hit, if_neg (fun clash => same (hit.symm.trans clash))]
      · rw [if_neg hit, if_neg hit]

/-- What holds of a listed place still does. -/
theorem any_put {P : Place → Bool} (h : files.any (fun entry => P entry.1) = true) :
    (put place bytes files).any (fun entry => P entry.1) = true := by
  induction files with
  | nil => cases h
  | cons first files ih =>
    obtain ⟨known, held⟩ := first
    rw [List.any_cons, Bool.or_eq_true] at h
    unfold put
    split
    · rw [List.any_cons, Bool.or_eq_true]
      exact h
    · rw [List.any_cons, Bool.or_eq_true]
      exact h.imp_right ih

theorem node?_put_self (free : files.Free place) :
    (put place bytes files).node? place = some (.file bytes) := by
  unfold Free node? at free
  unfold node?
  split at free
  · obtain ⟨_, same⟩ := free _ rfl
    cases same
  · rename_i proper
    rw [if_neg proper, lookup_put, if_pos rfl]

theorem node?_put_other (held : files.node? other = some node) (elsewhere : other ≠ place) :
    (put place bytes files).node? other = some node := by
  unfold node? at held ⊢
  split
  · rename_i root
    rwa [if_pos root] at held
  · rename_i proper
    rw [if_neg proper] at held
    rw [lookup_put, if_neg elsewhere]
    cases found : files.lookup other with
    | some listed =>
      rw [found] at held
      exact held
    | none =>
      rw [found] at held
      dsimp only at held ⊢
      split at held
      · rename_i above
        rw [if_pos (any_put above)]
        exact held
      · cases held

theorem node?_eq_link :
    files.node? place = some (.link target) ↔
      ¬(place.all (· = "..") ∨ place = ["/"]) ∧ files.lookup place = some (.link target) := by
  unfold node?
  split
  · rename_i root
    exact iff_of_false (by simp) fun h => h.1 root
  · rename_i proper
    rw [and_iff_right proper]
    cases files.lookup place with
    | some listed => rfl
    | none =>
      dsimp only
      split <;> simp

theorem follow_put (free : files.Free place) (other : Place) :
    (put place bytes files).follow other = files.follow other := by
  have kept : ∀ target, (put place bytes files).node? other = some (.link target) ↔
      files.node? other = some (.link target) := by
    intro target
    rw [node?_eq_link, lookup_put]
    split
    · rename_i same
      subst same
      refine iff_of_false (by simp) fun linked => ?_
      obtain ⟨_, file⟩ := free _ linked
      cases file
    · exact node?_eq_link.symm
  unfold follow
  split
  · rename_i target linked
    rw [(kept target).mp linked]
  · rename_i unlinked
    split
    · rename_i target linked
      exact absurd ((kept target).mpr linked) (unlinked target)
    · rfl

/-! ### Paths -/

theorem walk_put (free : files.Free place) {start : Place}
    {parts : List String} (walked : files.walk start parts = .ok target) :
    walk (put place bytes files) start parts = .ok target := by
  induction parts generalizing start with
  | nil => exact walked
  | cons part parts ih =>
    unfold walk at walked ⊢
    cases standing : files.node? start with
    | none =>
      rw [standing] at walked
      cases walked
    | some node =>
      rw [standing] at walked
      cases node with
      | file held => cases walked
      | link target => cases walked
      | directory =>
        have elsewhere : start ≠ place := by
          rintro rfl
          obtain ⟨_, file⟩ := free _ standing
          cases file
        rw [node?_put_other standing elsewhere]
        dsimp only at walked ⊢
        split
        · rename_i long
          rw [if_pos long] at walked
          cases walked
        · rename_i short
          rw [if_neg short] at walked
          rw [follow_put free]
          exact ih walked

theorem contains_iff_mem {text : String} {c : Char} : text.contains c = true ↔ c ∈ text.toList := by
  rw [String.contains_char_eq, decide_eq_true_eq]

theorem locate_ok {text : String} :
    files.locate text = .ok place ↔ text ≠ "" ∧ '\x00' ∉ text.toList ∧
      text.utf8ByteSize ≤ pathLimit ∧ files.walk (start text) (pieces text) = .ok place := by
  have nowhere : (text = "" || text.contains '\x00') = true ↔ text = "" ∨ '\x00' ∈ text.toList := by
    rw [Bool.or_eq_true, decide_eq_true_eq, contains_iff_mem]
  unfold locate
  by_cases absent : text = "" ∨ '\x00' ∈ text.toList
  · rw [if_pos (nowhere.mpr absent)]
    refine iff_of_false (by simp) ?_
    rintro ⟨proper, visible, -⟩
    exact absent.elim proper visible
  · rw [if_neg (mt nowhere.mp absent)]
    obtain ⟨proper, visible⟩ := not_or.mp absent
    rw [and_iff_right proper, and_iff_right visible]
    split
    · rename_i long
      refine iff_of_false (by simp) ?_
      rintro ⟨short, -⟩
      omega
    · rename_i short
      rw [and_iff_right (Nat.le_of_not_lt short)]

theorem locate_put (free : files.Free place) {text : String}
    (located : files.locate text = .ok target) :
    locate (put place bytes files) text = .ok target := by
  obtain ⟨proper, visible, short, walked⟩ := locate_ok.mp located
  exact locate_ok.mpr ⟨proper, visible, short, walk_put free walked⟩

/-! ### Reading and writing -/

theorem status_file {text : String} :
    files.status text = .ok (.file bytes) ↔
      ∃ place, files.locate text = .ok place ∧ files.node? place = some (.file bytes) := by
  unfold status
  constructor
  · intro found
    obtain ⟨place, located, found⟩ := bind_ok.mp found
    split at found
    · cases found
    · rename_i held _ standing
      exact ⟨place, located, standing.trans (congrArg some (pure_ok.mp found))⟩
    · cases found
  · rintro ⟨place, located, standing⟩
    refine bind_ok.mpr ⟨place, located, ?_⟩
    rw [standing]
    rfl

theorem read_eq_ok : files.read path = .ok bytes ↔ files.status path.text = .ok (.file bytes) := by
  unfold read
  cases files.status path.text with
  | error problem => simp [bind, Except.bind]
  | ok node => cases node <;> simp [bind, Except.bind, throw, throwThe, MonadExceptOf.throw, pure,
      Except.pure]

theorem read_ok :
    files.read path = .ok bytes ↔
      ∃ place, files.locate path.text = .ok place ∧ files.node? place = some (.file bytes) :=
  read_eq_ok.trans status_file

/-- The source text in a file that can be read is its decoded bytes. -/
theorem readSource_of_read (held : files.read path = .ok bytes) {text : List Char}
    (decoded : Text.decodeUtf8? bytes = .ok text) :
    files.readSource path = .ok (String.ofList (Text.unifyNewlines text)) := by
  rw [readSource, read_eq_ok.mp held, held]
  dsimp only [bind, Except.bind, Except.mapError]
  rw [decoded]
  rfl

/-- A text without carriage returns is read as it was saved. -/
theorem readSource_of_text {text : String} (unix : '\r' ∉ text.toList)
    (held : files.read path = .ok (text.toList.flatMap fun c => Text.utf8Bytes c.toNat)) :
    files.readSource path = .ok text := by
  rw [readSource_of_read held (Text.decodeUtf8?_flatMap _), Text.unifyNewlines_eq_self unix,
    String.ofList_toList]

/-- Whether a file can be written at a path. -/
def Writable (files : Files) (path : Path) : Prop :=
  ∃ place, files.locate path.text = .ok place ∧ files.Free place

theorem writable_of_read (held : files.read path = .ok bytes) : files.Writable path := by
  obtain ⟨place, located, standing⟩ := read_ok.mp held
  refine ⟨place, located, ?_⟩
  intro node found
  rw [standing] at found
  cases found
  exact ⟨bytes, rfl⟩

theorem write_ok :
    files.write path bytes = .ok after ↔
      ∃ place, files.locate path.text = .ok place ∧ files.Free place ∧
        after = put place bytes files := by
  unfold write Free
  cases files.locate path.text with
  | error problem => simp [bind, Except.bind]
  | ok place =>
    simp only [bind, Except.bind, Except.ok.injEq, exists_eq_left']
    split
    · rename_i directory
      simp [directory, throw, throwThe, MonadExceptOf.throw]
    · rename_i target linked
      simp [linked, throw, throwThe, MonadExceptOf.throw]
    · rename_i undirected unlinked
      have free : ∀ node, files.node? place = some node → ∃ bytes, node = .file bytes := by
        intro node standing
        cases node with
        | file bytes => exact ⟨bytes, rfl⟩
        | directory => exact absurd standing undirected
        | link target => exact absurd standing (unlinked target)
      rw [and_iff_right free, eq_comm (a := after)]
      exact pure_ok

theorem Writable.write (h : files.Writable path) (bytes : List Nat) :
    ∃ after, files.write path bytes = .ok after := by
  obtain ⟨place, located, free⟩ := h
  exact ⟨_, write_ok.mpr ⟨place, located, free, rfl⟩⟩

/-- What is written is read by every path that leads to it. -/
theorem read_written_through {kept : Path} (written : files.write path bytes = .ok after)
    (same : files.locate path.text = files.locate kept.text) : after.read kept = .ok bytes := by
  obtain ⟨place, located, free, rfl⟩ := write_ok.mp written
  exact read_ok.mpr ⟨place, locate_put free (same.symm.trans located), node?_put_self free⟩

theorem read_written (written : files.write path bytes = .ok after) :
    after.read path = .ok bytes :=
  read_written_through written rfl

theorem read_unwritten {kept : Path} (written : files.write path bytes = .ok after)
    (held : files.read kept = .ok old)
    (elsewhere : files.locate path.text ≠ files.locate kept.text) :
    after.read kept = .ok old := by
  obtain ⟨place, located, free, rfl⟩ := write_ok.mp written
  obtain ⟨other, found, standing⟩ := read_ok.mp held
  have different : other ≠ place := by
    rintro rfl
    exact elsewhere (located.trans found.symm)
  exact read_ok.mpr ⟨other, locate_put free found, node?_put_other standing different⟩

end DeskComputer.Command.Files
