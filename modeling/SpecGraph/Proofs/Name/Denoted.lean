import SpecGraph.Proofs.Name

/-!
# What a text denotes

A text denotes a name in one of two ways, which its segments between slashes tell. A bare text has no mark in
front of its first segment and denotes itself in the default namespace. A full one has the mark there, with the
name of a namespace behind it, and denotes what follows the first slash in that namespace. No other segment may be
empty. Reading finds the name that a text denotes and refuses every text that denotes none.

The full form of a name is its normal form: a text that was read has one, it is read as the same name, and a text
that starts with the mark is in this form already.
-/

namespace SpecGraph

namespace Name

/-- What follows the first slash of a text. -/
def afterSlash (text : String) : String := String.ofList (text.toList.dropWhile (· != '/')).tail

/-- A text denotes a name. -/
inductive Denotes (text : String) : Name → Prop
  /-- Without the mark a text is a path in the default namespace. -/
  | bare {first : List Char} {others : List (List Char)} (shape : text.toList.splitOn '/' = first :: others)
      (unmarked : first.head? ≠ some '@') (whole : ∀ segment ∈ first :: others, segment ≠ []) :
      Denotes text ⟨defaultSpace, text⟩
  /-- With the mark its first segment is a namespace, and a path follows. -/
  | full {space : List Char} {path : List (List Char)} (shape : text.toList.splitOn '/' = ('@' :: space) :: path)
      (named : space ≠ []) (below : path ≠ []) (whole : ∀ segment ∈ path, segment ≠ []) :
      Denotes text ⟨String.ofList space, afterSlash text⟩

theorem segments_eq_splitOn (text : List Char) : segments text = text.splitOn '/' := by
  induction text with
  | nil => rfl
  | cons character rest ih =>
      obtain ⟨first, others, tail⟩ := exists_segments rest
      rw [List.splitOn, List.splitOnP_cons_eq_if_modifyHead, ← List.splitOn, ← ih]
      by_cases isSlash : character = '/'
      · subst isSlash
        rw [segments_slash, if_pos (beq_self_eq_true _)]
      · rw [segments_cons isSlash tail, if_neg (by simpa using isSlash), tail, List.modifyHead_cons]

theorem afterSlash_of_segments {text : String} {first : List Char} {path : List (List Char)}
    (shape : segments text.toList = first :: path) (below : path ≠ []) :
    afterSlash text = String.ofList (join path) := by
  obtain ⟨next, others, rfl⟩ := List.exists_cons_of_ne_nil below
  have firstMem : first ∈ segments text.toList := shape ▸ List.mem_cons_self
  have noSlash := slash_notMem_segments firstMem
  have whole : text.toList = first ++ '/' :: join (next :: others) := by
    rw [← join_segments text.toList, shape]
    rfl
  have dropped : text.toList.dropWhile (· != '/') = '/' :: join (next :: others) := by
    rw [whole, List.dropWhile_append_of_pos, List.dropWhile_cons_of_neg (by simp)]
    intro character characterMem
    rw [bne_iff_ne]
    exact fun same => noSlash (same ▸ characterMem)
  rw [afterSlash, dropped, List.tail_cons]

theorem ofSegments_eq_ok_iff {space : String} {path : List (List Char)} {name : Name} :
    ofSegments space path = .ok name ↔
      (∀ segment ∈ path, segment ≠ []) ∧ name = ⟨space, String.ofList (join path)⟩ := by
  have whole : path.any List.isEmpty = false ↔ ∀ segment ∈ path, segment ≠ [] := by
    simp [List.any_eq_false]
  rw [← whole, ofSegments]
  cases path.any List.isEmpty with
  | true => simp [throw, throwThe, MonadExceptOf.throw]
  | false => simp [pure, Except.pure, eq_comm]

theorem parse_of_marked {text : String} {space : List Char} {path : List (List Char)}
    (shape : segments text.toList = ('@' :: space) :: path) :
    parse text = if space.isEmpty then throw .emptySpace else if path.isEmpty then throw .missingPath
      else ofSegments (String.ofList space) path := by
  have some_text : text ≠ "" := by
    rintro rfl
    cases shape
  rw [parse, if_neg some_text, shape]
  rfl

theorem parse_of_unmarked {text : String} {first : List Char} {others : List (List Char)} (some_text : text ≠ "")
    (shape : segments text.toList = first :: others) (unmarked : first.head? ≠ some '@') :
    parse text = ofSegments defaultSpace (first :: others) := by
  rw [parse, if_neg some_text, shape]
  split
  · next same =>
      cases same
      exact (unmarked rfl).elim
  · rfl

/-- A text is read as the name that it denotes. -/
theorem parse_eq_ok_iff {text : String} {name : Name} : parse text = .ok name ↔ Denotes text name := by
  obtain ⟨first, others, shape⟩ := exists_segments text.toList
  have split : text.toList.splitOn '/' = first :: others := segments_eq_splitOn text.toList ▸ shape
  by_cases marked : first.head? = some '@'
  · obtain ⟨space, rfl⟩ := List.head?_eq_some_iff.mp marked
    rw [parse_of_marked shape]
    constructor
    · intro read
      split at read
      · cases read
      · next named =>
          split at read
          · cases read
          · next below =>
              rw [List.isEmpty_iff] at named below
              obtain ⟨whole, rfl⟩ := ofSegments_eq_ok_iff.mp read
              rw [← afterSlash_of_segments shape below]
              exact .full split named below whole
    · rintro (⟨shape', unmarked, _⟩ | ⟨shape', named, below, whole⟩)
      · cases split.symm.trans shape'
        exact (unmarked rfl).elim
      · cases split.symm.trans shape'
        rw [if_neg (by rwa [List.isEmpty_iff]), if_neg (by rwa [List.isEmpty_iff]), ofSegments_eq_ok_iff,
          afterSlash_of_segments shape below]
        exact ⟨whole, rfl⟩
  · by_cases some_text : text = ""
    · subst some_text
      constructor
      · intro read
        cases read
      · rintro (⟨shape', _, whole⟩ | ⟨shape', _, _, _⟩)
        · cases shape'
          exact (whole [] List.mem_cons_self rfl).elim
        · cases shape'
    · rw [parse_of_unmarked some_text shape marked, ofSegments_eq_ok_iff]
      have same : String.ofList (join (first :: others)) = text := by
        rw [← shape, join_segments, String.ofList_toList]
      rw [same]
      constructor
      · rintro ⟨whole, rfl⟩
        exact .bare split marked whole
      · rintro (⟨shape', _, whole⟩ | ⟨shape', _, _, _⟩)
        · cases split.symm.trans shape'
          exact ⟨whole, rfl⟩
        · cases split.symm.trans shape'
          exact (marked rfl).elim

theorem isWhole_intercalate {parts : List String} (some_ : parts ≠ [])
    (each : ∀ part ∈ parts, part ≠ "" ∧ '/' ∉ part.toList) : IsWhole ("/".intercalate parts) := by
  have isJoined : ("/".intercalate parts).toList = join (parts.map String.toList) := String.toList_intercalate
  have noSlash : ∀ part ∈ parts.map String.toList, '/' ∉ part :=
    List.forall_mem_map.mpr fun part partMem => (each part partMem).2
  rw [IsWhole, isJoined, segments_join (by simpa using some_) noSlash, List.forall_mem_map]
  intro part partMem none
  exact (each part partMem).1 (String.toList_inj.mp none)

theorem isFull_format (name : Name) : isFull name.format = true := by
  rw [isFull, toList_format]
  simp

theorem startsFull_of_isFull {text : String} (full : isFull text = true) : StartsFull text := by
  unfold isFull at full
  split at full
  · next rest shape => rw [StartsFull, shape, List.head?_cons]
  · cases full

end Name

namespace Reference

theorem normalize_of_parse {text : String} {name : Name} (read : parse (.text text) = .ok name) :
    normalize (.text text) = .ok name.format := by
  rw [normalize, read]
  rfl

/-- A text is read as the name that it denotes, and one that denotes no name is refused as malformed. -/
theorem parse_iff_denotes (text : String) :
    (∀ name, parse (.text text) = .ok name ↔ Name.Denotes text name) ∧
      ((∃ fault, parse (.text text) = .error (.name (.text text) fault)) ↔ ¬∃ name, Name.Denotes text name) := by
  refine ⟨fun name => parse_text.trans Name.parse_eq_ok_iff, ?_⟩
  simp only [← Name.parse_eq_ok_iff, parse]
  cases Name.parse text with
  | ok name => simp [pure, Except.pure]
  | error fault => simp [throw, throwThe, MonadExceptOf.throw]

/-- The full form of a name is its normal form. A text that is read as a name has one, and it is read as the same name.
Such a text is in this form already if it starts with the mark of full names, and it looks full exactly then. And the
full form of any namespace and path is read as these. -/
theorem normal_form_kept :
    (∀ {text : String} {name : Name}, parse (.text text) = .ok name →
      normalize (.text text) = .ok name.format ∧ parse (.text name.format) = .ok name ∧
        normalize (.text name.format) = .ok name.format ∧
        (Name.StartsFull text → normalize (.text text) = .ok text) ∧
        (Name.isFull text = true ↔ Name.StartsFull text)) ∧
    (∀ {space : String} {parts : List String}, Name.IsSpace space → parts ≠ [] →
      (∀ part ∈ parts, part ≠ "" ∧ '/' ∉ part.toList) →
      parse (.text (Name.format ⟨space, "/".intercalate parts⟩)) = .ok ⟨space, "/".intercalate parts⟩) := by
  constructor
  · intro text name read
    have again : parse (.text name.format) = .ok name :=
      parse_text.mpr (Name.parse_format (isSpace_of_parse read) (isWhole_of_parse read))
    have same (starts : Name.StartsFull text) : name.format = text :=
      Name.format_of_parse starts (parse_text.mp read)
    refine ⟨normalize_of_parse read, again, normalize_of_parse again, fun starts => ?_,
      Name.startsFull_of_isFull, fun starts => ?_⟩
    · rw [normalize_of_parse read, same starts]
    · rw [← same starts]
      exact Name.isFull_format name
  · intro space parts isSpace some_ each
    exact parse_text.mpr (Name.parse_format isSpace (Name.isWhole_intercalate some_ each))

/-- A bare text, a full one and a path whose namespace and segments start with the mark themselves. -/
theorem normal_form_kept_marked :
    normalize (.text "users/address") = .ok "@default/users/address" ∧
      parse (.text "@default/users/address") = .ok ⟨"default", "users/address"⟩ ∧
      normalize (.text "@hello/@users") = .ok "@hello/@users" ∧ Name.isFull "@hello/@users" = true ∧
      parse (.text "@@odd/@users/a@b") = .ok ⟨"@odd", "@users/a@b"⟩ := by
  have bare := normal_form_kept.1 (show parse (.text "users/address") = .ok ⟨"default", "users/address"⟩ from rfl)
  have full := normal_form_kept.1 (show parse (.text "@hello/@users") = .ok ⟨"hello", "@users"⟩ from rfl)
  have made := normal_form_kept.2 (show Name.IsSpace "@odd" by decide) (show ["@users", "a@b"] ≠ [] by decide)
    (by decide)
  have starts : Name.StartsFull "@hello/@users" := rfl
  exact ⟨bare.1, bare.2.1, full.2.2.2.1 starts, full.2.2.2.2.mpr starts, made⟩

end Reference

end SpecGraph
