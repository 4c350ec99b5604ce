import SpecGraph.Error.Reference

/-!
# Names are read and written

The segments of a text have no slashes, and the text is its segments with slashes between them. So a name that
is read has a namespace without a slash, and a full name is read as the name that it was made of.
-/

namespace SpecGraph

namespace Name

/-- A name that a namespace can have: it is not empty and has no slash. -/
def IsSpace (name : String) : Prop := name ≠ "" ∧ '/' ∉ name.toList

instance (name : String) : Decidable (IsSpace name) := inferInstanceAs (Decidable (name ≠ "" ∧ '/' ∉ name.toList))

/-- A text starts as full names do. -/
def StartsFull (text : String) : Prop := text.toList.head? = some '@'

theorem startsFull_format (name : Name) : StartsFull name.format := by
  simp [StartsFull, format]

theorem toList_format (name : Name) :
    name.format.toList = '@' :: (name.space.toList ++ '/' :: name.path.toList) := by
  simp only [format, String.toList_append]
  change '@' :: name.space.toList ++ ['/'] ++ name.path.toList = _
  simp

/-- There is a first segment. -/
theorem exists_segments (text : List Char) : ∃ first others, segments text = first :: others := by
  cases text with
  | nil => exact ⟨[], [], rfl⟩
  | cons character rest =>
      rw [segments]
      split
      · exact ⟨[], _, rfl⟩
      · split
        · exact ⟨[character], [], rfl⟩
        · next segment others _ => exact ⟨character :: segment, others, rfl⟩

theorem segments_slash (rest : List Char) : segments ('/' :: rest) = [] :: segments rest := by
  rw [segments, if_pos rfl]

theorem segments_cons {character : Char} (noSlash : character ≠ '/') {rest first : List Char}
    {others : List (List Char)} (tail : segments rest = first :: others) :
    segments (character :: rest) = (character :: first) :: others := by
  rw [segments, if_neg noSlash, tail]

/-- No segment has a slash. -/
theorem slash_notMem_segments {text segment : List Char} (segmentMem : segment ∈ segments text) :
    '/' ∉ segment := by
  induction text generalizing segment with
  | nil =>
      obtain rfl := List.mem_singleton.mp segmentMem
      exact List.not_mem_nil
  | cons character rest ih =>
      by_cases isSlash : character = '/'
      · subst isSlash
        rw [segments_slash] at segmentMem
        rcases List.mem_cons.mp segmentMem with rfl | inRest
        · exact List.not_mem_nil
        · exact ih inRest
      · obtain ⟨first, others, tail⟩ := exists_segments rest
        rw [segments_cons isSlash tail] at segmentMem
        rw [tail] at ih
        rcases List.mem_cons.mp segmentMem with rfl | inOthers
        · intro slashMem
          rcases List.mem_cons.mp slashMem with same | inFirst
          · exact isSlash same.symm
          · exact ih List.mem_cons_self inFirst
        · exact ih (List.mem_cons_of_mem _ inOthers)

/-- A text is its segments with slashes between them. -/
theorem join_segments (text : List Char) : join (segments text) = text := by
  induction text with
  | nil => rfl
  | cons character rest ih =>
      obtain ⟨first, others, tail⟩ := exists_segments rest
      rw [tail] at ih
      by_cases isSlash : character = '/'
      · subst isSlash
        rw [segments_slash, tail]
        change '/' :: join (first :: others) = _
        rw [ih]
      · rw [segments_cons isSlash tail]
        cases others with
        | nil => exact congrArg (character :: ·) ih
        | cons next more => exact congrArg (character :: ·) ih

/-- The segments of a text with a slash are those before and those after it. -/
theorem segments_append_slash (front rest : List Char) :
    segments (front ++ '/' :: rest) = segments front ++ segments rest := by
  induction front with
  | nil => exact segments_slash rest
  | cons character others ih =>
      rw [List.cons_append]
      by_cases isSlash : character = '/'
      · subst isSlash
        rw [segments_slash, segments_slash, ih, List.cons_append]
      · rcases exists_segments others with ⟨first, more, tail⟩
        rw [tail, List.cons_append] at ih
        rw [segments_cons isSlash tail, segments_cons isSlash ih, List.cons_append]

/-- A text without a slash is its only segment. -/
theorem segments_of_noSlash {text : List Char} (noSlash : '/' ∉ text) : segments text = [text] := by
  induction text with
  | nil => rfl
  | cons character rest ih =>
      rw [List.mem_cons, not_or] at noSlash
      exact segments_cons (fun same => noSlash.1 same.symm) (ih noSlash.2)

theorem segments_append {front : List Char} (noSlash : '/' ∉ front) (rest : List Char) :
    segments (front ++ '/' :: rest) = front :: segments rest := by
  rw [segments_append_slash, segments_of_noSlash noSlash, List.singleton_append]

/-- Parts without slashes are the segments of the text that has slashes between them. -/
theorem segments_join {parts : List (List Char)} (some_ : parts ≠ []) (noSlash : ∀ part ∈ parts, '/' ∉ part) :
    segments (join parts) = parts := by
  induction parts with
  | nil => exact (some_ rfl).elim
  | cons first rest ih =>
      rw [List.forall_mem_cons] at noSlash
      cases rest with
      | nil =>
          change segments (first ++ []) = _
          rw [List.append_nil, segments_of_noSlash noSlash.1]
      | cons next more =>
          change segments (first ++ '/' :: join (next :: more)) = _
          rw [segments_append noSlash.1, ih (List.cons_ne_nil _ _) noSlash.2]

theorem space_ofSegments {space : String} {path : List (List Char)} {name : Name}
    (made : ofSegments space path = .ok name) : name.space = space := by
  unfold ofSegments at made
  split at made
  · cases made
  · exact congrArg Name.space (Except.ok.inj made).symm

/-- The namespace of a name that was read is one that a namespace can have. -/
theorem isSpace_of_parse {text : String} {name : Name} (read : parse text = .ok name) :
    IsSpace name.space := by
  unfold parse at read
  split at read
  · cases read
  · split at read
    · next space path shape =>
        split at read
        · cases read
        · next some_space =>
            split at read
            · cases read
            · rw [space_ofSegments read]
              have segmentMem : '@' :: space ∈ segments text.toList := shape ▸ List.mem_cons_self
              refine ⟨fun isEmpty => ?_, fun slashMem => ?_⟩
              · have none := congrArg String.toList isEmpty
                simp only [String.toList_ofList] at none
                rw [none] at some_space
                exact some_space rfl
              · rw [String.toList_ofList] at slashMem
                exact slash_notMem_segments segmentMem (List.mem_cons_of_mem _ slashMem)
    · rw [space_ofSegments read, IsSpace]
      decide

/-- A text can be read as a name. -/
def IsLegible (text : String) : Prop := ∃ name, parse text = .ok name

/-- No segment of a path is empty. -/
def IsWhole (path : String) : Prop := ∀ segment ∈ segments path.toList, segment ≠ []

instance (path : String) : Decidable (IsWhole path) :=
  inferInstanceAs (Decidable (∀ segment ∈ segments path.toList, segment ≠ []))

theorem isWhole_ofSegments {space : String} {path : List (List Char)} {name : Name} (some_ : path ≠ [])
    (noSlash : ∀ segment ∈ path, '/' ∉ segment) (made : ofSegments space path = .ok name) :
    IsWhole name.path := by
  unfold ofSegments at made
  split at made
  · cases made
  · next whole =>
      obtain rfl := Except.ok.inj made
      unfold IsWhole
      rw [String.toList_ofList, segments_join some_ noSlash]
      intro segment segmentMem isEmpty
      exact whole (List.any_eq_true.mpr ⟨segment, segmentMem, List.isEmpty_iff.mpr isEmpty⟩)

/-- The path of a name that was read has no empty segment. -/
theorem isWhole_of_parse {text : String} {name : Name} (read : parse text = .ok name) : IsWhole name.path := by
  have noSlash : ∀ segment ∈ segments text.toList, '/' ∉ segment := fun _ => slash_notMem_segments
  unfold parse at read
  split at read
  · cases read
  · split at read
    · next space path shape =>
        rw [shape, List.forall_mem_cons] at noSlash
        split at read
        · cases read
        · split at read
          · cases read
          · next some_ => exact isWhole_ofSegments (fun none => some_ (List.isEmpty_iff.mpr none)) noSlash.2 read
    · refine isWhole_ofSegments (fun none => ?_) noSlash read
      rcases exists_segments text.toList with ⟨first, others, shape⟩
      rw [shape] at none
      cases none

/-- A path below a path has the segments of both. -/
theorem IsWhole.below {outer inner : String} (outerWhole : IsWhole outer) (innerWhole : IsWhole inner) :
    IsWhole (outer ++ "/" ++ inner) := by
  have text : (outer ++ "/" ++ inner).toList = outer.toList ++ '/' :: inner.toList := by
    simp only [String.toList_append]
    change outer.toList ++ ['/'] ++ inner.toList = _
    simp
  unfold IsWhole
  rw [text, segments_append_slash, List.forall_mem_append]
  exact ⟨outerWhole, innerWhole⟩

/-- A full name is read as the name that it was made of. -/
theorem parse_format {name : Name} (isSpace : IsSpace name.space) (whole : IsWhole name.path) :
    parse name.format = .ok name := by
  have shape : segments name.format.toList = ('@' :: name.space.toList) :: segments name.path.toList := by
    rw [toList_format, ← List.cons_append]
    refine segments_append (fun slashMem => ?_) _
    rcases List.mem_cons.mp slashMem with same | inSpace
    · exact absurd same (by decide)
    · exact isSpace.2 inSpace
  have some_text : name.format ≠ "" := by
    intro none
    have starts := startsFull_format name
    rw [none] at starts
    cases starts
  have some_space : name.space.toList.isEmpty = false := by
    rw [List.isEmpty_eq_false_iff]
    intro none
    exact isSpace.1 (String.toList_inj.mp none)
  have allWhole : (segments name.path.toList).any List.isEmpty = false := by
    rw [List.any_eq_false]
    intro segment segmentMem
    rw [List.isEmpty_iff]
    exact whole segment segmentMem
  obtain ⟨first, others, path⟩ := exists_segments name.path.toList
  unfold parse
  rw [if_neg some_text, shape]
  simp only [some_space, Bool.false_eq_true, if_false]
  rw [path]
  simp only [List.isEmpty_cons, Bool.false_eq_true, if_false]
  rw [← path, ofSegments, allWhole, if_neg Bool.false_ne_true, join_segments, String.ofList_toList,
    String.ofList_toList]
  rfl

/-- A text that starts as full names do is the full name of what is read of it. -/
theorem format_of_parse {text : String} {name : Name} (starts : StartsFull text)
    (read : parse text = .ok name) : name.format = text := by
  obtain ⟨rest, isText⟩ : ∃ rest, text.toList = '@' :: rest := List.head?_eq_some_iff.mp starts
  obtain ⟨space, path, tail⟩ := exists_segments rest
  have shape : segments text.toList = ('@' :: space) :: path := by
    rw [isText]
    exact segments_cons (by decide) tail
  have joined := join_segments text.toList
  rw [shape] at joined
  have some_text : text ≠ "" := by
    intro none
    rw [none] at isText
    cases isText
  unfold parse at read
  rw [if_neg some_text, shape] at read
  change (if space.isEmpty then throw .emptySpace else if path.isEmpty then throw .missingPath
    else ofSegments (String.ofList space) path) = _ at read
  split at read
  · cases read
  · cases path with
    | nil => cases read
    | cons first others =>
        rw [List.isEmpty_cons, if_neg Bool.false_ne_true] at read
        unfold ofSegments at read
        split at read
        · cases read
        · obtain rfl := Except.ok.inj read
          rw [← String.toList_inj, ← joined]
          simp only [format, String.toList_append, String.toList_ofList]
          change '@' :: space ++ ['/'] ++ join (first :: others) = '@' :: space ++ '/' :: join (first :: others)
          simp

end Name

namespace Reference

theorem parse_text {text : String} {name : Name} :
    parse (.text text) = .ok name ↔ Name.parse text = .ok name := by
  unfold parse
  dsimp only
  cases Name.parse text with
  | ok other => simp [pure, Except.pure]
  | error fault =>
      constructor
      · intro read
        cases read
      · intro read
        cases read

/-- What is read as a name is a text. -/
theorem exists_text_of_parse {reference : Data} {name : Name} (read : parse reference = .ok name) :
    ∃ text, Name.parse text = .ok name := by
  cases reference with
  | text text => exact ⟨text, parse_text.mp read⟩
  | _ =>
      unfold parse at read
      dsimp only at read
      split at read
      · cases read
      · cases read

theorem isSpace_of_parse {reference : Data} {name : Name} (read : parse reference = .ok name) :
    Name.IsSpace name.space := by
  rcases exists_text_of_parse read with ⟨text, readText⟩
  exact Name.isSpace_of_parse readText

theorem isWhole_of_parse {reference : Data} {name : Name} (read : parse reference = .ok name) :
    Name.IsWhole name.path := by
  rcases exists_text_of_parse read with ⟨text, readText⟩
  exact Name.isWhole_of_parse readText

end Reference

end SpecGraph
