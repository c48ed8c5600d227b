import CoreWatch.Proofs.Files.Replace

set_option autoImplicit false

/-!
Where the file of a path is, and that of its temporary path. They are two files for every path but
those that have the ending of temporary files themselves.
-/

namespace CoreWatch.FileTree

/-- The place to which names lead if all directories on the way are there. -/
def leadsTo (place : List String) : List String → List String
  | [] => place
  | name :: names =>
    if name == ".." then leadsTo place.dropLast names else leadsTo (place ++ [name]) names

/-- The place of the file of a path. -/
def home (path : String) : List String :=
  leadsTo [] (namesOf path)

theorem leadsTo_append (place front back : List String) :
    leadsTo place (front ++ back) = leadsTo (leadsTo place front) back := by
  induction front generalizing place with
  | nil => rfl
  | cons name front ih =>
    rw [List.cons_append, leadsTo, leadsTo]
    split
    · exact ih place.dropLast
    · exact ih (place ++ [name])

theorem leadsTo_concat {last : String} (down : (last == "..") = false) (names : List String) :
    leadsTo [] (names ++ [last]) = leadsTo [] names ++ [last] := by
  rw [leadsTo_append, leadsTo, down, if_neg Bool.false_ne_true, leadsTo]

theorem eq_leadsTo_of_enter {tree : FileTree} {place names goal : List String}
    (entered : tree.enter place names = .ok goal) : goal = leadsTo place names := by
  induction names generalizing place with
  | nil => exact (Except.ok.inj entered).symm
  | cons name names ih =>
    rw [enter] at entered
    rw [leadsTo]
    split at entered
    · rename_i up
      rw [if_pos up]
      exact ih entered
    · rename_i down
      rw [if_neg down]
      split at entered
      · exact ih entered
      · cases entered
      · cases entered

theorem eq_leadsTo_of_placeOf {tree : FileTree} {names place : List String}
    (found : tree.placeOf names = .ok place) : place = leadsTo [] names := by
  obtain ⟨last, directory, atEnd, entered, down, _, rfl⟩ := placeOf_eq_ok.mp found
  rw [eq_leadsTo_of_enter entered, ← leadsTo_concat down, List.dropLast_append_getLast? last atEnd]

/-! Names -/

theorem namesOf_name {name : List Char} (whole : '/' ∉ name) (some : name ≠ [])
    (dot : name ≠ ['.']) : namesOf (String.ofList name) = [String.ofList name] := by
  have kept : (String.ofList name != "" && String.ofList name != ".") = true := by
    simp only [Bool.and_eq_true, bne_iff_ne, ne_eq, ← String.toList_inj, String.toList_ofList]
    exact ⟨some, dot⟩
  rw [namesOf, String.toList_ofList, Text.splitOn_whole whole, List.map_singleton]
  simp only [List.filter_cons, kept, ↓reduceIte, List.filter_nil]

theorem stem_ne_nil {name : List Char} (some : name ≠ []) : stem name ≠ [] := by
  unfold stem
  simp only
  split
  · exact some
  · rename_i full
    simpa using full

theorem mem_of_mem_stem {name : List Char} {c : Char} (listed : c ∈ stem name) : c ∈ name := by
  unfold stem at listed
  simp only at listed
  split at listed
  · exact listed
  · have inside := List.mem_of_mem_drop (List.mem_reverse.mp listed)
    exact List.mem_reverse.mp ((List.dropWhile_sublist _).subset inside)

/-- A name with the ending of temporary files is none of those with a meaning of their own. -/
theorem temporary_ne {name short : List Char} (brief : short.length ≤ 2) :
    stem name ++ ".tmp".toList ≠ short := by
  rintro rfl
  have ending : ".tmp".toList.length = 4 := rfl
  rw [List.length_append, ending] at brief
  omega

theorem stem_temporary {name : List Char} (some : name ≠ []) :
    stem (name ++ ".tmp".toList) = name := by
  have parts : (name ++ ".tmp".toList).reverse.dropWhile (· != '.') = '.' :: name.reverse := by
    rw [List.reverse_append]
    rfl
  unfold stem
  simp only [parts, List.drop_succ_cons, List.drop_zero, List.isEmpty_reverse,
    List.isEmpty_eq_false_iff.mpr some, Bool.false_eq_true, ↓reduceIte, List.reverse_reverse]

/-- Whether a path is its own temporary path: its last name is another name and `.tmp`. -/
def isOwnTemporary (path : String) : Bool :=
  (namesOf path).getLast?.any fun name => ".tmp".toList.isSuffixOf name.toList && name != ".tmp"

theorem temporaryPath_dotted {path : String} (dotted : isDotted (splitName path.toList).2 = true) :
    temporaryPath path = path := by
  unfold temporaryPath
  simp only [dotted, ↓reduceIte]

/-- Only the last name of a path is another one in its temporary path. -/
theorem namesOf_temporaryPath {path : String}
    (named : isDotted (splitName path.toList).2 = false) :
    ∃ front name, namesOf path = front ++ [String.ofList name] ∧ name ≠ [] ∧
      name ≠ ['.', '.'] ∧
      namesOf (temporaryPath path) = front ++ [String.ofList (stem name ++ ".tmp".toList)] := by
  obtain ⟨slash, whole⟩ := splitName_slash path.toList
  have names := namesOf_splitName path
  unfold temporaryPath
  simp only [named, Bool.false_eq_true, ↓reduceIte]
  generalize (splitName path.toList).1 = start at slash names
  generalize (splitName path.toList).2 = name at named whole names
  simp only [isDotted, Bool.or_eq_false_iff, decide_eq_false_iff_not] at named
  obtain ⟨⟨some, dot⟩, dots⟩ := named
  rw [namesOf_name whole some dot] at names
  refine ⟨namesOf (String.ofList start), name, names, some, dots, ?_⟩
  have whole' : '/' ∉ stem name ++ ".tmp".toList := by
    rw [List.mem_append, not_or]
    exact ⟨fun listed => whole (mem_of_mem_stem listed), by decide⟩
  have alone := namesOf_name whole' (temporary_ne (by decide)) (temporary_ne (by decide))
  rw [List.append_assoc, namesOf_append slash, alone]

/-- The temporary file of a path that is its own temporary path is the file itself. -/
theorem namesOf_ownTemporary {path : String} (own : isOwnTemporary path = true) :
    namesOf (temporaryPath path) = namesOf path := by
  cases dotted : isDotted (splitName path.toList).2 with
  | true => rw [temporaryPath_dotted dotted]
  | false =>
    obtain ⟨front, name, names, _, _, temporary⟩ := namesOf_temporaryPath dotted
    rw [isOwnTemporary, names, List.getLast?_concat, Option.any_some, Bool.and_eq_true,
      String.toList_ofList, List.isSuffixOf_iff_suffix, bne_iff_ne, ne_eq, ← String.toList_inj,
      String.toList_ofList] at own
    obtain ⟨⟨first, parts⟩, longer⟩ := own
    have ending : first ++ ".tmp".toList = name := parts
    have some : first ≠ [] := by
      rintro rfl
      exact longer ending.symm
    rw [temporary, names, ← ending, stem_temporary some]

/-- A path without a last name, or with two dots for it, is that of no file. -/
theorem placeOf_dotted {path : String} (dotted : isDotted (splitName path.toList).2 = true)
    (tree : FileTree) (place : List String) : tree.placeOf (namesOf path) ≠ .ok place := by
  intro found
  obtain ⟨last, directory, atEnd, _, down, _⟩ := placeOf_eq_ok.mp found
  rw [namesOf_splitName] at atEnd
  have blank := @splitName_blank path.toList
  simp only [isDotted, Bool.or_eq_true, decide_eq_true_eq] at dotted
  rcases dotted with (none | dot) | dots
  · rw [none, blank (Or.inl none)] at atEnd
    cases atEnd
  · rw [dot, blank (Or.inr dot)] at atEnd
    cases atEnd
  · have up : namesOf (String.ofList ['.', '.']) = [".."] := by decide
    rw [dots, up, List.getLast?_concat] at atEnd
    cases atEnd
    cases down

/-- Wherever the temporary file of a path is written, it is another file than that of the path. -/
theorem temporary_apart {path : String} (other : isOwnTemporary path = false) {tree : FileTree}
    {place : List String} (found : tree.placeOf (namesOf (temporaryPath path)) = .ok place) :
    place ≠ home path := by
  cases dotted : isDotted (splitName path.toList).2 with
  | true =>
    rw [temporaryPath_dotted dotted] at found
    exact absurd found (placeOf_dotted dotted tree place)
  | false =>
    obtain ⟨front, name, names, some, dots, temporary⟩ := namesOf_temporaryPath dotted
    have down : (String.ofList name == "..") = false := by
      rw [beq_eq_false_iff_ne, ne_eq, ← String.toList_inj, String.toList_ofList]
      exact dots
    have down' : (String.ofList (stem name ++ ".tmp".toList) == "..") = false := by
      rw [beq_eq_false_iff_ne, ne_eq, ← String.toList_inj, String.toList_ofList]
      exact temporary_ne (by decide)
    rw [eq_leadsTo_of_placeOf found, home, names, temporary, leadsTo_concat down,
      leadsTo_concat down']
    intro same
    have ending : stem name ++ ".tmp".toList = name := by
      rw [← String.ofList_inj]
      exact (List.singleton_inj.mp (List.append_inj' same rfl).2)
    have own : isOwnTemporary path = true := by
      rw [isOwnTemporary, names, List.getLast?_concat, Option.any_some, Bool.and_eq_true]
      rw [← ending, String.toList_ofList, List.isSuffixOf_iff_suffix, bne_iff_ne, ne_eq,
        ← String.toList_inj, String.toList_ofList]
      refine ⟨List.suffix_append _ _, fun alone => stem_ne_nil some ?_⟩
      exact List.append_left_eq_self.mp alone
    rw [own] at other
    cases other

end CoreWatch.FileTree
