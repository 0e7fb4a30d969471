import Formulary.Data.Folder

set_option autoImplicit false

namespace Formulary.Folder

variable {folder : Folder} {place other : List String} {text : String}

section Put

theorem lookup_put_self (folder : Folder) (place : List String) (text : String) :
    (folder.put place text).lookup place = some text := by
  induction folder with
  | nil => simp [put]
  | cons f folder ih =>
      obtain ⟨p, old⟩ := f
      rw [put]
      by_cases here : p = place
      · simp [here]
      · have differs : (place == p) = false := by simpa using Ne.symm here
        simp [if_neg here, List.lookup_cons, differs, ih]

theorem lookup_put_other (apart : other ≠ place) (folder : Folder) (text : String) :
    (folder.put place text).lookup other = folder.lookup other := by
  have differs : (other == place) = false := by simpa using apart
  induction folder with
  | nil => simp [put, List.lookup_cons, differs]
  | cons f folder ih =>
      obtain ⟨p, old⟩ := f
      rw [put]
      by_cases here : p = place
      · subst here
        simp [List.lookup_cons, differs]
      · simp [if_neg here, List.lookup_cons, ih]

theorem exists_of_mem {f : List String × String} (mem : f ∈ folder) (place : List String)
    (text : String) : ∃ new ∈ folder.put place text, new.1 = f.1 := by
  induction folder with
  | nil => cases mem
  | cons g folder ih =>
      obtain ⟨p, old⟩ := g
      rw [put]
      split
      · obtain rfl | mem := List.mem_cons.mp mem
        · exact ⟨(p, text), List.mem_cons_self .., rfl⟩
        · exact ⟨f, List.mem_cons_of_mem _ mem, rfl⟩
      · obtain rfl | mem := List.mem_cons.mp mem
        · exact ⟨_, List.mem_cons_self .., rfl⟩
        · obtain ⟨new, mem, same⟩ := ih mem
          exact ⟨new, List.mem_cons_of_mem _ mem, same⟩

theorem mem_put_self (folder : Folder) (place : List String) (text : String) :
    (place, text) ∈ folder.put place text := by
  induction folder with
  | nil => simp [put]
  | cons f folder ih =>
      rw [put]
      split
      · next here => simp [← here]
      · exact List.mem_cons_of_mem _ ih

end Put

section Directories

theorem isDirectory_iff :
    folder.isDirectory place = true ↔
      isAbove place = true ∨ place = ["/"] ∨ ∃ f ∈ folder, place ≠ f.1 ∧ place <+: f.1 := by
  simp [isDirectory, or_assoc]

theorem isDirectory_put (there : folder.isDirectory other = true) (place : List String)
    (text : String) : (folder.put place text).isDirectory other = true := by
  rw [isDirectory_iff] at there ⊢
  obtain above | root | ⟨f, mem, inside⟩ := there
  · exact .inl above
  · exact .inr (.inl root)
  · obtain ⟨new, mem, same⟩ := exists_of_mem mem place text
    exact .inr (.inr ⟨new, mem, same ▸ inside⟩)

theorem isDirectory_makeDirectory_self (folder : Folder) (place : List String) :
    (folder.makeDirectory place).isDirectory place = true := by
  unfold makeDirectory
  split
  · assumption
  · exact isDirectory_iff.mpr
      (.inr (.inr ⟨_, mem_put_self .., by simp, List.prefix_append ..⟩))

theorem isDirectory_makeDirectory (there : folder.isDirectory other = true) (place : List String) :
    (folder.makeDirectory place).isDirectory other = true := by
  unfold makeDirectory
  split
  · exact there
  · exact isDirectory_put there ..

theorem isDirectory_foldl (there : folder.isDirectory other = true) (places : List (List String)) :
    (places.foldl makeDirectory folder).isDirectory other = true := by
  induction places generalizing folder with
  | nil => exact there
  | cons place places ih => exact ih (isDirectory_makeDirectory there place)

theorem isDirectory_of_mem_foldl {places : List (List String)} (mem : place ∈ places) :
    (places.foldl makeDirectory folder).isDirectory place = true := by
  induction places generalizing folder with
  | nil => cases mem
  | cons first places ih =>
      obtain rfl | mem := List.mem_cons.mp mem
      · exact isDirectory_foldl (isDirectory_makeDirectory_self folder place) places
      · exact ih mem

end Directories

section Content

def content (folder : Folder) (place : List String) : String := (folder.lookup place).getD ""

@[simp] theorem content_put_self (folder : Folder) (place : List String) (text : String) :
    (folder.put place text).content place = text := by
  simp [content, lookup_put_self]

theorem content_put_other (apart : other ≠ place) (folder : Folder) (text : String) :
    (folder.put place text).content other = folder.content other := by
  simp [content, lookup_put_other apart]

theorem content_eq_empty (missing : folder.isDirectory place = false) (name : String) :
    folder.content (place ++ [name]) = "" := by
  suffices folder.lookup (place ++ [name]) = none by simp [content, this]
  refine List.lookup_eq_none_iff.mpr fun f mem => bne_iff_ne.mpr fun found => ?_
  have there : folder.isDirectory place = true :=
    isDirectory_iff.mpr (.inr (.inr ⟨f, mem, by simp [← found], found ▸ List.prefix_append ..⟩))
  simp [missing] at there

@[simp] theorem content_makeDirectory (folder : Folder) (place other : List String) :
    (folder.makeDirectory place).content other = folder.content other := by
  unfold makeDirectory
  split
  · rfl
  · next missing =>
      by_cases here : other = place ++ [""]
      · rw [here, content_put_self, content_eq_empty (by simpa using missing)]
      · rw [content_put_other here]

theorem content_foldl (folder : Folder) (places : List (List String)) (other : List String) :
    (places.foldl makeDirectory folder).content other = folder.content other := by
  induction places generalizing folder with
  | nil => rfl
  | cons place places ih => rw [List.foldl_cons, ih, content_makeDirectory]

end Content

section Way

variable {made : Folder} {path : String}

theorem makeWay_eq (way : folder.makeWay path = .ok made) :
    made = (stops (start path) (Path.parts path)).foldl makeDirectory folder := by
  simp only [makeWay] at way
  split at way
  · cases way
  split at way
  · cases way
  split at way
  · cases way
  split at way
  · cases way
  · exact (Except.ok.inj way).symm

theorem content_makeWay (way : folder.makeWay path = .ok made) (place : List String) :
    made.content place = folder.content place := by
  rw [makeWay_eq way, content_foldl]

theorem isDirectory_makeWay (way : folder.makeWay path = .ok made)
    (mem : place ∈ stops (start path) (Path.parts path)) : made.isDirectory place = true := by
  rw [makeWay_eq way]
  exact isDirectory_of_mem_foldl mem

theorem walk_eq_foldl {names : List String} (named : ∀ name ∈ names, name ≠ "" ∧ name ≠ ".")
    (there : ∀ p ∈ stops place names, folder.isDirectory p = true) :
    folder.walk place names = some (names.foldl step place) := by
  induction names generalizing place with
  | nil => rfl
  | cons name names ih =>
      obtain ⟨⟨nonempty, notDot⟩, named⟩ := List.forall_mem_cons.mp named
      obtain ⟨here, there⟩ := List.forall_mem_cons.mp there
      have further := ih named there
      rw [List.foldl_cons, ← further]
      simp only [walk, here, step, nonempty, notDot, Bool.not_true, or_self, if_false,
        Bool.false_eq_true]
      grind

theorem named_parts (path : String) : ∀ name ∈ Path.parts path, name ≠ "" ∧ name ≠ "." := by
  intro name mem
  simpa using (List.mem_filter.mp mem).2

theorem read?_put (way : folder.makeWay path = .ok made) (text : String) :
    (made.put (target path) text).read? path = some text := by
  have there : ∀ p ∈ stops (start path) (Path.parts path),
      (made.put (target path) text).isDirectory p = true := fun p mem =>
    isDirectory_put (isDirectory_makeWay way mem) ..
  have found := walk_eq_foldl (named_parts path) there
  simp only [read?, found, Option.bind_eq_bind, Option.bind_some]
  exact lookup_put_self made (target path) text

end Way

end Formulary.Folder
