import LoxExpressions.Proofs.Lexical.Class
import LoxExpressions.Proofs.Session.Lines

/-!
Where cursors stand in a source. Whichever moves lead to a cursor, it stands behind a text with which
the source begins, and its rest, line and offset are those of that place. So offsets tell cursors
apart, and the text between two cursors is made of the bytes between their offsets.
-/

namespace LoxExpressions

/-! Bytes of texts that are joined. -/

theorem utf8Length_eq_length (text : List Char) :
    utf8Length text = (utf8Bytes (String.ofList text)).length := by
  rw [utf8Bytes_eq_flatMap, String.toList_ofList]
  induction text with
  | nil => rfl
  | cons c rest ih => simp [utf8Length, ih]

theorem utf8Bytes_ofList_append (text more : List Char) :
    utf8Bytes (String.ofList (text ++ more)) =
      utf8Bytes (String.ofList text) ++ utf8Bytes (String.ofList more) := by
  simp [utf8Bytes_eq_flatMap]

@[simp]
theorem utf8Length_append (text more : List Char) :
    utf8Length (text ++ more) = utf8Length text + utf8Length more := by
  simp only [utf8Length_eq_length, utf8Bytes_ofList_append, List.length_append]

theorem utf8Length_eq_zero_iff {text : List Char} : utf8Length text = 0 ↔ text = [] := by
  constructor
  · intro zero
    cases text with
    | nil => rfl
    | cons c rest =>
      have size := c.utf8Size_pos
      unfold utf8Length at zero
      omega
  · rintro rfl
    rfl

namespace Cursor

/-- The cursor stands behind a text with which the source begins. -/
structure Stands (source passed : List Char) (cursor : Cursor) : Prop where
  source_eq : cursor.source = source
  rest_eq : passed ++ cursor.rest = source
  line_eq : cursor.line = 1 + passed.count '\n'
  offset_eq : cursor.offset = (utf8Bytes (String.ofList passed)).length

variable {source passed before upto : List Char} {cursor x y z : Cursor}

/-- The offset follows from the rest. -/
theorem Stands.of_rest (source_eq : cursor.source = source) (rest_eq : passed ++ cursor.rest = source)
    (line_eq : cursor.line = 1 + passed.count '\n') : cursor.Stands source passed := by
  refine ⟨source_eq, rest_eq, line_eq, ?_⟩
  unfold offset
  rw [source_eq, ← rest_eq, utf8Length_append, ← utf8Length_eq_length]
  omega

theorem stands_start (source : List Char) : (start source).Stands source [] :=
  .of_rest rfl rfl rfl

/-- Passing characters moves the place by just these characters. -/
theorem Stands.pass (stands : cursor.Stands source passed) (count : Nat) :
    (cursor.pass count).Stands source (passed ++ cursor.rest.take count) := by
  apply Stands.of_rest
  · exact stands.source_eq
  · rw [rest_pass, List.append_assoc, List.take_append_drop, stands.rest_eq]
  · show cursor.line + (cursor.rest.take count).count '\n' = _
    rw [stands.line_eq, List.count_append, Nat.add_assoc]

/-! Moves of a cursor. Marks are clones that it can be put back to. -/

inductive Move where
  | next
  | advanceIf (expected : Char)
  | advanceWhile (test : Char → Bool)
  | mark
  /-- Goes back to a mark, counted from zero. -/
  | reset (mark : Nat)

structure Walk where
  cursor : Cursor
  marks : List Cursor

namespace Walk

def start (source : List Char) : Walk := ⟨.start source, []⟩

/-- A mark that is not set moves nothing. -/
def move (walk : Walk) : Move → Walk
  | .next => { walk with cursor := walk.cursor.next.2 }
  | .advanceIf expected => { walk with cursor := (walk.cursor.advanceIf expected).2 }
  | .advanceWhile test => { walk with cursor := walk.cursor.advanceWhile test }
  | .mark => { walk with marks := walk.marks ++ [walk.cursor] }
  | .reset mark => { walk with cursor := walk.marks.getD mark walk.cursor }

def run (walk : Walk) (moves : List Move) : Walk := moves.foldl move walk

def cursors (walk : Walk) : List Cursor := walk.cursor :: walk.marks

end Walk

/-- The cursor is at hand after some moves in the source. -/
def Reached (source : List Char) (cursor : Cursor) : Prop :=
  ∃ moves, cursor ∈ ((Walk.start source).run moves).cursors

/-- A move passes characters, sets a mark or goes back to one. -/
theorem Walk.cursors_move (walk : Walk) (move : Move) (mem : cursor ∈ (walk.move move).cursors) :
    cursor ∈ walk.cursors ∨ ∃ count, cursor = walk.cursor.pass count := by
  have kept {moved : Cursor} (mem : cursor ∈ cursors { walk with cursor := moved }) :
      cursor = moved ∨ cursor ∈ walk.cursors := by
    rcases List.mem_cons.1 mem with same | mem
    · exact .inl same
    · exact .inr (List.mem_cons_of_mem _ mem)
  cases move with
  | next =>
    rcases kept mem with same | mem
    · exact .inr ⟨1, same⟩
    · exact .inl mem
  | advanceIf expected =>
    rcases kept mem with same | mem
    · unfold advanceIf at same
      split at same
      · exact .inr ⟨1, same⟩
      · exact .inl (same ▸ List.mem_cons_self)
    · exact .inl mem
  | advanceWhile test =>
    rcases kept mem with same | mem
    · exact .inr ⟨_, same⟩
    · exact .inl mem
  | mark =>
    left
    have mem : cursor ∈ walk.cursors ++ [walk.cursor] := mem
    rcases List.mem_append.1 mem with mem | mem
    · exact mem
    · exact List.mem_singleton.1 mem ▸ List.mem_cons_self
  | reset mark =>
    left
    rcases kept mem with same | mem
    · rw [same, List.getD_eq_getElem?_getD]
      cases found : walk.marks[mark]? with
      | none => exact List.mem_cons_self
      | some marked => exact List.mem_cons_of_mem _ (List.mem_of_getElem? found)
    · exact mem

/-- One move keeps every cursor at a place in the source. -/
theorem Walk.stands_move {walk : Walk}
    (stand : ∀ cursor ∈ walk.cursors, ∃ passed, cursor.Stands source passed) (move : Move) :
    ∀ cursor ∈ (walk.move move).cursors, ∃ passed, cursor.Stands source passed := by
  intro cursor mem
  rcases walk.cursors_move move mem with mem | ⟨count, rfl⟩
  · exact stand cursor mem
  · obtain ⟨passed, stands⟩ := stand walk.cursor List.mem_cons_self
    exact ⟨_, stands.pass count⟩

theorem Walk.stands_run {walk : Walk}
    (stand : ∀ cursor ∈ walk.cursors, ∃ passed, cursor.Stands source passed) (moves : List Move) :
    ∀ cursor ∈ (walk.run moves).cursors, ∃ passed, cursor.Stands source passed := by
  induction moves generalizing walk with
  | nil => exact stand
  | cons move moves ih => exact ih (stands_move stand move)

theorem Reached.stands (reached : Reached source cursor) :
    ∃ passed, cursor.Stands source passed := by
  obtain ⟨moves, mem⟩ := reached
  refine Walk.stands_run (fun start mem => ?_) moves cursor mem
  obtain rfl : start = Cursor.start source := by simpa [Walk.start, Walk.cursors] using mem
  exact ⟨[], stands_start source⟩

/-! Two cursors in one source. -/

theorem Stands.offset_eq_utf8Length (stands : cursor.Stands source passed) :
    cursor.offset = utf8Length passed := by
  rw [stands.offset_eq, utf8Length_eq_length]

/-- The cursor with the smaller offset has passed a part of what the other one has. -/
theorem Stands.prefix_of_offset_le (here : x.Stands source before) (there : y.Stands source upto)
    (le : x.offset ≤ y.offset) : before <+: upto := by
  rw [here.offset_eq_utf8Length, there.offset_eq_utf8Length] at le
  have hereInSource : before <+: source := ⟨_, here.rest_eq⟩
  have thereInSource : upto <+: source := ⟨_, there.rest_eq⟩
  rcases List.prefix_or_prefix_of_prefix hereInSource thereInSource with shorter | ⟨more, rfl⟩
  · exact shorter
  · rw [utf8Length_append] at le
    have none : more = [] := utf8Length_eq_zero_iff.1 (by omega)
    simp [none]

/-- The text between two cursors is what the later one has passed since the earlier one. -/
theorem Stands.append_sliceUntil (here : x.Stands source before) (there : y.Stands source upto)
    (le : x.offset ≤ y.offset) : before ++ x.sliceUntil y = upto := by
  obtain ⟨between, rfl⟩ := here.prefix_of_offset_le there le
  have rest : x.rest = between ++ y.rest := by
    have whole := there.rest_eq.trans here.rest_eq.symm
    rw [List.append_assoc] at whole
    exact (List.append_cancel_left whole).symm
  have length : x.rest.length - y.rest.length = between.length := by
    rw [rest, List.length_append]
    omega
  unfold sliceUntil
  rw [length, rest, List.take_left]

theorem Stands.sliceUntil_eq_nil (here : x.Stands source before) (there : y.Stands source upto)
    (le : y.offset ≤ x.offset) : x.sliceUntil y = [] := by
  have shorter := (there.prefix_of_offset_le here le).length_le
  have lengthHere := congrArg List.length here.rest_eq
  have lengthThere := congrArg List.length there.rest_eq
  rw [List.length_append] at lengthHere lengthThere
  have zero : x.rest.length - y.rest.length = 0 := by omega
  unfold sliceUntil
  rw [zero, List.take_zero]

/-- The bytes of the text between two cursors are those of the source between their offsets. -/
theorem Stands.utf8Bytes_sliceUntil (here : x.Stands source before)
    (there : y.Stands source upto) : utf8Bytes (String.ofList (x.sliceUntil y)) =
      (utf8Bytes (String.ofList source)).extract x.offset y.offset := by
  rcases Nat.le_total x.offset y.offset with le | le
  · have joined := here.append_sliceUntil there le
    have length : y.offset - x.offset = (utf8Bytes (String.ofList (x.sliceUntil y))).length := by
      rw [there.offset_eq, here.offset_eq, ← joined, utf8Bytes_ofList_append, List.length_append]
      omega
    rw [List.extract_eq_take_drop, length, ← there.rest_eq, ← joined, List.append_assoc,
      utf8Bytes_ofList_append, here.offset_eq, List.drop_left, utf8Bytes_ofList_append,
      List.take_left]
  · rw [here.sliceUntil_eq_nil there le, List.extract_eq_take_drop, Nat.sub_eq_zero_of_le le,
      List.take_zero]
    rfl

/-- Cursors with one offset stand at one place. -/
theorem Stands.eq_of_offset_eq (here : x.Stands source before) (there : y.Stands source upto)
    (same : x.offset = y.offset) : before = upto := by
  have forth := here.prefix_of_offset_le there same.le
  have back := there.prefix_of_offset_le here same.ge
  exact forth.eq_of_length_le back.length_le

theorem Stands.beq_iff (here : x.Stands source before) (there : y.Stands source upto) :
    (x == y) = true ↔ x.offset = y.offset := by
  have unfolded : (x == y) = (x.source == y.source && x.rest == y.rest) := rfl
  rw [unfolded, here.source_eq, there.source_eq]
  simp only [beq_self_eq_true, Bool.true_and, beq_iff_eq]
  constructor
  · intro rest
    unfold offset
    rw [here.source_eq, there.source_eq, rest]
  · intro offset
    obtain rfl := here.eq_of_offset_eq there offset
    exact List.append_cancel_left (here.rest_eq.trans there.rest_eq.symm)

/-- Taking characters as long as they pass a test takes the longest run of such characters: the
texts that the run begins with are all those that the rest begins with and that pass the test. -/
theorem exists_longest_run (cursor : Cursor) (test : Char → Bool) :
    ∃ run, cursor.rest = run ++ (cursor.advanceWhile test).rest ∧
      ∀ text, text <+: run ↔ text <+: cursor.rest ∧ ∀ c ∈ text, test c = true := by
  refine ⟨cursor.rest.takeWhile test, ?_, fun text => ?_⟩
  · have taken := List.prefix_iff_eq_append.1 (List.takeWhile_prefix (l := cursor.rest) test)
    exact taken.symm
  · constructor
    · intro inside
      refine ⟨inside.trans (List.takeWhile_prefix test), fun c mem => ?_⟩
      exact List.all_eq_true.1 List.all_takeWhile c (inside.subset mem)
    · rintro ⟨begins, passes⟩
      exact Segment.prefix_takeWhile passes begins

/-- How two cursors in a source compare: what lies between them, and when they are equal. -/
structure Compare (source : List Char) (x y : Cursor) : Prop where
  between : ∀ before upto, x.Stands source before → y.Stands source upto →
    x.offset ≤ y.offset → before ++ x.sliceUntil y = upto
  behind : y.offset ≤ x.offset → x.sliceUntil y = []
  bytes : utf8Bytes (String.ofList (x.sliceUntil y)) =
    (utf8Bytes (String.ofList source)).extract x.offset y.offset
  equal : (x == y) = true ↔ x.offset = y.offset
  line : (x == y) = true → x.line = y.line

theorem Reached.compare (reachedX : Reached source x) (reachedY : Reached source y) :
    Compare source x y := by
  obtain ⟨before, here⟩ := reachedX.stands
  obtain ⟨upto, there⟩ := reachedY.stands
  constructor
  · intro before upto here there le
    exact here.append_sliceUntil there le
  · exact here.sliceUntil_eq_nil there
  · exact here.utf8Bytes_sliceUntil there
  · exact here.beq_iff there
  · intro equal
    obtain rfl := here.eq_of_offset_eq there ((here.beq_iff there).1 equal)
    rw [here.line_eq, there.line_eq]

theorem Reached.sliceUntil_append (reachedX : Reached source x) (reachedY : Reached source y)
    (reachedZ : Reached source z) (xy : x.offset ≤ y.offset) (yz : y.offset ≤ z.offset) :
    x.sliceUntil y ++ y.sliceUntil z = x.sliceUntil z := by
  obtain ⟨first, atX⟩ := reachedX.stands
  obtain ⟨second, atY⟩ := reachedY.stands
  obtain ⟨third, atZ⟩ := reachedZ.stands
  have toY := atX.append_sliceUntil atY xy
  have toZ := atY.append_sliceUntil atZ yz
  have across := atX.append_sliceUntil atZ (xy.trans yz)
  rw [← toZ, ← toY, List.append_assoc] at across
  exact (List.append_cancel_left across).symm

/-- Every cursor that moves in a source can lead to stands at a place of it and runs on as far as a
test allows; cursors compare as their places do, and the texts between them join. -/
theorem cursors_keep_their_place (source : List Char) :
    (∀ x, Reached source x → (∃ passed, x.Stands source passed) ∧
      ∀ test, ∃ run, x.rest = run ++ (x.advanceWhile test).rest ∧
        ∀ text, text <+: run ↔ text <+: x.rest ∧ ∀ c ∈ text, test c = true) ∧
    (∀ x y, Reached source x → Reached source y → Compare source x y) ∧
    ∀ x y z, Reached source x → Reached source y → Reached source z →
      x.offset ≤ y.offset → y.offset ≤ z.offset →
        x.sliceUntil y ++ y.sliceUntil z = x.sliceUntil z := by
  refine ⟨fun x reached => ⟨reached.stands, x.exists_longest_run⟩, ?_, ?_⟩
  · intro x y reachedX reachedY
    exact reachedX.compare reachedY
  · intro x y z reachedX reachedY reachedZ xy yz
    exact reachedX.sliceUntil_append reachedY reachedZ xy yz

/-- Marks around a letter of two bytes and behind the next line, and the way back to one of them. -/
theorem place_of_marked_cursor :
    let source := "aä\nb".toList
    let walk := (Walk.start source).run
      [.next, .mark, .advanceWhile (· ≠ '\n'), .mark, .next, .advanceIf 'b', .mark, .reset 1]
    ∃ x y z, walk.cursors = [y, x, y, z] ∧
      (x.offset, y.offset, z.offset) = (1, 3, 5) ∧ (x.line, y.line, z.line) = (1, 1, 2) ∧
      (∃ passed, z.Stands source passed) ∧ Compare source x y ∧
      x.sliceUntil y ++ y.sliceUntil z = x.sliceUntil z := by
  intro source walk
  let x : Cursor := ⟨source, "ä\nb".toList, 1⟩
  let y : Cursor := ⟨source, "\nb".toList, 1⟩
  let z : Cursor := ⟨source, [], 2⟩
  have cursors : walk.cursors = [y, x, y, z] := by cbv
  have reached (cursor : Cursor) (mem : cursor ∈ [y, x, y, z]) : Reached source cursor :=
    ⟨_, cursors.symm ▸ mem⟩
  have reachedX := reached x (by simp)
  have reachedY := reached y (by simp)
  have reachedZ := reached z (by simp)
  have offsets : (x.offset, y.offset, z.offset) = (1, 3, 5) := by cbv
  obtain ⟨stand, compare, join⟩ := cursors_keep_their_place source
  refine ⟨x, y, z, cursors, offsets, rfl, (stand z reachedZ).1, compare x y reachedX reachedY, ?_⟩
  simp only [Prod.mk.injEq] at offsets
  exact join x y z reachedX reachedY reachedZ (by omega) (by omega)

end Cursor

end LoxExpressions
