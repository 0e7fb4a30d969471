import Formulary.Data.Folder

set_option autoImplicit false

namespace Formulary

namespace Text

theorem splitFrom_eq_splitOn (separator : Char) (read cs : List Char) :
    splitFrom [separator] 0 read cs =
      (List.splitOnPPrepend (· == separator) cs read).map String.ofList := by
  induction cs generalizing read with
  | nil => rfl
  | cons c cs ih =>
      rw [splitFrom, List.splitOnPPrepend]
      by_cases here : c = separator
      · simp [here, ih]
      · simp [here, Ne.symm here, ih]

theorem split_eq_splitOn (separator : Char) (cs : List Char) :
    split [separator] cs = (cs.splitOn separator).map String.ofList :=
  splitFrom_eq_splitOn separator [] cs

theorem split_intercalate {separator : Char} {names : List String} (nonempty : names ≠ [])
    (absent : ∀ name ∈ names, separator ∉ name.toList) :
    split [separator] ([separator].intercalate (names.map String.toList)) = names := by
  rw [split_eq_splitOn, List.splitOn_intercalate, List.map_map]
  · simp
  · simpa using absent
  · simpa using nonempty

theorem intercalate_split (separator : Char) (cs : List Char) :
    [separator].intercalate ((split [separator] cs).map String.toList) = cs := by
  have back : String.toList ∘ String.ofList = id := funext fun _ => String.toList_ofList
  rw [split_eq_splitOn, List.map_map, back, List.map_id, List.intercalate_splitOn]

theorem notMem_of_mem_splitFrom {separator : Char} {read cs : List Char}
    (absent : separator ∉ read) {part : String} (mem : part ∈ splitFrom [separator] 0 read cs) :
    separator ∉ part.toList := by
  induction cs generalizing read with
  | nil =>
      obtain rfl : part = String.ofList read.reverse := by simpa [splitFrom] using mem
      simpa using absent
  | cons c cs ih =>
      rw [splitFrom] at mem
      split at mem
      · obtain rfl | mem := List.mem_cons.mp mem
        · simpa using absent
        · exact ih List.not_mem_nil mem
      · next differs =>
          refine ih ?_ mem
          simp only [List.isPrefixOf, Bool.and_true, beq_iff_eq] at differs
          simp [absent, differs]

end Text

namespace Path

structure IsName (name : String) : Prop where
  nonempty : name ≠ ""
  notHere : name ≠ "."
  single : '/' ∉ name.toList

theorem isName_of_mem_parts {path name : String} (mem : name ∈ parts path) : IsName name := by
  obtain ⟨mem, named⟩ := List.mem_filter.mp mem
  simp only [Bool.and_eq_true, bne_iff_ne] at named
  exact ⟨named.1, named.2, Text.notMem_of_mem_splitFrom List.not_mem_nil mem⟩

def named (cs : List Char) : List String :=
  (Text.split ['/'] cs).filter fun part => part != "" && part != "."

theorem parts_eq_named (path : String) : parts path = named path.toList := rfl

theorem named_slash (cs : List Char) : named ('/' :: cs) = named cs := by
  simp [named, Text.split, Text.splitFrom]

theorem named_intercalate {names : List String} (all : ∀ name ∈ names, IsName name) :
    named ("/".intercalate names).toList = names := by
  by_cases none : names = []
  · simp [none, named, Text.split, Text.splitFrom]
  · have back := Text.split_intercalate none fun name mem => (all name mem).single
    have slash : "/".toList = ['/'] := rfl
    rw [named, String.toList_intercalate, slash, back, List.filter_eq_self]
    intro name mem
    simp [(all name mem).nonempty, (all name mem).notHere]

theorem root_cases (path : String) : root path = "" ∨ root path = "/" ∨ root path = "//" := by
  unfold root
  split <;> simp

theorem toList_intercalate_cons (name : String) (names : List String) :
    ∃ rest, ("/".intercalate (name :: names)).toList = name.toList ++ rest := by
  cases names with
  | nil => exact ⟨[], by simp⟩
  | cons next names =>
      exact ⟨_, by rw [String.toList_intercalate, List.map_cons, List.map_cons,
        List.intercalate_cons_cons, List.append_assoc]⟩

theorem slashes_join {r : String} {names : List String}
    (slashed : ∀ c ∈ r.toList, (c == '/') = true) (all : ∀ name ∈ names, IsName name) :
    slashes (join r names) = r.length := by
  have unslashed : ("/".intercalate names).toList.takeWhile (· == '/') = [] := by
    cases names with
    | nil => rfl
    | cons name names =>
        obtain ⟨rest, joined⟩ := toList_intercalate_cons name names
        obtain ⟨nonempty, -, single⟩ := all name (List.mem_cons_self ..)
        cases cs : name.toList with
        | nil => exact absurd (String.toList_eq_nil_iff.mp cs) nonempty
        | cons c cs' =>
            have differs : c ≠ '/' := fun same => single (by simp [cs, same])
            simp [joined, cs, differs]
  unfold join
  split
  · next empty => rw [empty.1]; rfl
  · rw [slashes, String.toList_append, List.takeWhile_append_of_pos slashed, unslashed,
      List.append_nil, String.length_toList]

theorem parts_join {r : String} {names : List String} (isRoot : r = "" ∨ r = "/" ∨ r = "//")
    (all : ∀ name ∈ names, IsName name) : parts (join r names) = names := by
  unfold join
  split
  · next empty =>
      obtain ⟨rfl, rfl⟩ := empty
      decide +kernel
  · obtain rfl | rfl | rfl := isRoot <;>
      simp [parts_eq_named, named_slash, named_intercalate all, - String.toList_intercalate]

theorem root_join {r : String} {names : List String} (isRoot : r = "" ∨ r = "/" ∨ r = "//")
    (all : ∀ name ∈ names, IsName name) : root (join r names) = r := by
  have counted : slashes (join r names) = r.length := by
    refine slashes_join (fun c mem => ?_) all
    obtain rfl | rfl | rfl := isRoot <;> simp_all
  unfold root
  rw [counted]
  obtain rfl | rfl | rfl := isRoot <;> rfl

theorem parts_normal (path : String) : parts (normal path) = parts path :=
  parts_join (root_cases path) fun _ => isName_of_mem_parts

theorem root_normal (path : String) : root (normal path) = root path :=
  root_join (root_cases path) fun _ => isName_of_mem_parts

theorem normal_normal (path : String) : normal (normal path) = normal path := by
  rw [normal, root_normal, parts_normal, ← normal]

end Path

namespace Folder

theorem read?_normal (folder : Folder) (path : String) :
    folder.read? (Path.normal path) = folder.read? path := by
  simp only [read?, start, Path.root_normal, Path.parts_normal]

end Folder

end Formulary
