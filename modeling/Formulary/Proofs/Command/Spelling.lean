import Formulary.Command.Outline

set_option autoImplicit false

namespace Formulary.Command

def short (c : Char) (more : List Char) : String := String.ofList ('-' :: c :: more)

/-- Arguments that spell what is given, in order. -/
inductive Spelled (switches : List Switch) : List Given → List String → Prop where
  | nil : Spelled switches [] []
  | flag {s : Switch} {name : String} {given : List Given} {args : List String}
      (mem : s ∈ switches) (named : name ∈ s.names) (bare : s.takesValue = false)
      (others : Spelled switches given args) :
      Spelled switches (⟨s.key, none⟩ :: given) (name :: args)
  | value {s : Switch} {name text : String} {given : List Given} {args : List String}
      (mem : s ∈ switches) (named : name ∈ s.names) (takes : s.takesValue = true)
      (others : Spelled switches given args) :
      Spelled switches (⟨s.key, some text⟩ :: given) (name :: text :: args)
  | equated {s : Switch} {name text : String} {given : List Given} {args : List String}
      (mem : s ∈ switches) (named : name ∈ s.names) (long : Line.isLong name = true)
      (takes : s.takesValue = true) (others : Spelled switches given args) :
      Spelled switches (⟨s.key, some text⟩ :: given) ((name ++ "=" ++ text) :: args)
  | joined {s : Switch} {c : Char} {text : List Char} {given : List Given} {args : List String}
      (mem : s ∈ switches) (named : short c [] ∈ s.names) (more : text ≠ [])
      (takes : s.takesValue = true) (others : Spelled switches given args) :
      Spelled switches (⟨s.key, some (String.ofList text)⟩ :: given) (short c text :: args)
  | shared {s : Switch} {c next : Char} {more : List Char} {given : List Given}
      {args : List String} (mem : s ∈ switches) (named : short c [] ∈ s.names)
      (bare : s.takesValue = false) (letter : next ≠ '-')
      (others : Spelled switches given (short next more :: args)) :
      Spelled switches (⟨s.key, none⟩ :: given) (short c (next :: more) :: args)

namespace Line

section Equals

variable {name : String}

theorem plain_forall (plain : '=' ∉ name.toList) : ∀ c ∈ name.toList, (c != '=') = true := by
  intro c mem
  rw [bne_iff_ne]
  rintro rfl
  exact plain mem

theorem takeWhile_plain (plain : '=' ∉ name.toList) (rest : List Char) :
    (name.toList ++ rest).takeWhile (· != '=') = name.toList ++ rest.takeWhile (· != '=') :=
  List.takeWhile_append_of_pos (plain_forall plain)

theorem dropWhile_plain (plain : '=' ∉ name.toList) (rest : List Char) :
    (name.toList ++ rest).dropWhile (· != '=') = rest.dropWhile (· != '=') :=
  List.dropWhile_append_of_pos (plain_forall plain)

theorem beforeEquals_of_notMem (plain : '=' ∉ name.toList) : beforeEquals name = name := by
  have whole := takeWhile_plain plain []
  rw [List.append_nil, List.takeWhile_nil, List.append_nil] at whole
  rw [beforeEquals, whole, String.ofList_toList]

theorem afterEquals_of_notMem (plain : '=' ∉ name.toList) : afterEquals name = none := by
  have nothing := dropWhile_plain plain []
  rw [List.append_nil, List.dropWhile_nil] at nothing
  rw [afterEquals, nothing]

theorem toList_equated (name text : String) :
    (name ++ "=" ++ text).toList = name.toList ++ '=' :: text.toList := by
  simp

theorem beforeEquals_equated (plain : '=' ∉ name.toList) (text : String) :
    beforeEquals (name ++ "=" ++ text) = name := by
  rw [beforeEquals, toList_equated, takeWhile_plain plain]
  simp

theorem afterEquals_equated (plain : '=' ∉ name.toList) (text : String) :
    afterEquals (name ++ "=" ++ text) = some text := by
  rw [afterEquals, toList_equated, dropWhile_plain plain]
  simp

end Equals

section Names

def isWord (name : String) : Bool :=
  match name.toList with
  | '-' :: '-' :: _ :: _ => true
  | _ => false

def isLetter (name : String) : Bool :=
  match name.toList with
  | ['-', c] => c != '-'
  | _ => false

/-- What a name is like that is read as the name of a switch. -/
structure Legible (switches : List Switch) (s : Switch) (name : String) : Prop where
  own : find? switches name = some s
  formed : isWord name = true ∨ isLetter name = true
  plain : '=' ∉ name.toList

theorem legible_switches (c : Command) :
    ∀ s ∈ c.switches, ∀ name ∈ s.names, Legible c.switches s name := by
  have each : ∀ s ∈ c.switches, ∀ name ∈ s.names, find? c.switches name = some s ∧
      (isWord name = true ∨ isLetter name = true) ∧ '=' ∉ name.toList := by
    cases c with
    | root | config => decide +kernel
    | action a => cases a <;> decide +kernel
  intro s mem name named
  obtain ⟨own, formed, plain⟩ := each s mem name named
  exact ⟨own, formed, plain⟩

theorem isWord_iff {name : String} :
    isWord name = true ↔ ∃ c cs, name.toList = '-' :: '-' :: c :: cs := by
  simp only [isWord]
  constructor
  · intro word
    split at word
    · rename_i c cs shape
      exact ⟨c, cs, shape⟩
    · cases word
  · rintro ⟨c, cs, shape⟩
    simp only [shape]

theorem isLetter_iff {name : String} :
    isLetter name = true ↔ ∃ c, name = short c [] ∧ c ≠ '-' := by
  simp only [isLetter]
  constructor
  · intro letter
    split at letter
    · rename_i c shape
      refine ⟨c, ?_, by simpa using letter⟩
      rw [short, ← shape, String.ofList_toList]
    · cases letter
  · rintro ⟨c, rfl, letter⟩
    simpa [short] using letter

theorem isLong_of_word {name : String} (word : isWord name = true) : isLong name = true := by
  obtain ⟨c, cs, shape⟩ := isWord_iff.mp word
  rw [isLong, ← String.length_toList, shape]
  simp

theorem not_isLong_short (c : Char) : isLong (short c []) = false := by
  rw [isLong, ← String.length_toList, short, String.toList_ofList]
  simp

def Dashed (text : String) : Prop := text ≠ "--" ∧ isSwitch text = true

theorem dashed_of_word {text : String} (word : isWord text = true) : Dashed text := by
  obtain ⟨c, cs, shape⟩ := isWord_iff.mp word
  have apart (other : String) (size : other.length ≤ 2) : text ≠ other := by
    rintro rfl
    have long := isLong_of_word word
    rw [isLong, decide_eq_true_iff] at long
    omega
  refine ⟨apart "--" (by decide), ?_⟩
  simp [isSwitch, shape, apart "-" (by decide)]

theorem dashed_short {c : Char} (letter : c ≠ '-') (more : List Char) : Dashed (short c more) := by
  constructor
  · intro same
    have shape : '-' :: c :: more = ['-', '-'] := by
      simpa [short] using congrArg String.toList same
    exact letter (List.cons.inj (List.cons.inj shape).2).1
  · have other : short c more ≠ "-" := by
      intro same
      simpa [short] using congrArg String.toList same
    simp [isSwitch, other]
    simp [short]

end Names

section Reading

variable {switches : List Switch} {s : Switch} {name : String} {c : Char}

theorem Legible.word (names : Legible switches s name) (long : isLong name = true) :
    isWord name = true := by
  refine names.formed.resolve_right fun letter => ?_
  obtain ⟨c, rfl, -⟩ := isLetter_iff.mp letter
  rw [not_isLong_short] at long
  cases long

theorem Legible.letter (names : Legible switches s (short c [])) : c ≠ '-' := by
  obtain word | letter := names.formed
  · have long := isLong_of_word word
    rw [not_isLong_short] at long
    cases long
  · obtain ⟨c', same, letter⟩ := isLetter_iff.mp letter
    have shape : c = c' := by simpa [short] using congrArg String.toList same
    rwa [shape]

theorem Legible.dashed (names : Legible switches s name) : Dashed name := by
  obtain word | letter := names.formed
  · exact dashed_of_word word
  · obtain ⟨c, rfl, other⟩ := isLetter_iff.mp letter
    exact dashed_short other []

theorem isWord_equated (word : isWord name = true) (text : String) :
    isWord (name ++ "=" ++ text) = true := by
  obtain ⟨c, cs, shape⟩ := isWord_iff.mp word
  exact isWord_iff.mpr ⟨c, cs ++ '=' :: text.toList, by rw [toList_equated, shape]; rfl⟩

theorem read_word (names : Legible switches s name) (word : isWord name = true) :
    read switches name =
      if s.takesValue then .ok ⟨[], some (s.key, name)⟩ else .ok ⟨[⟨s.key, none⟩], none⟩ := by
  simp only [read, beforeEquals_of_notMem names.plain, afterEquals_of_notMem names.plain,
    isLong_of_word word, if_true, names.own]

theorem read_equated (names : Legible switches s name) (long : isLong name = true)
    (takes : s.takesValue = true) (text : String) :
    read switches (name ++ "=" ++ text) = .ok ⟨[⟨s.key, some text⟩], none⟩ := by
  simp only [read, beforeEquals_equated names.plain, afterEquals_equated names.plain, long, if_true,
    names.own, takes]

theorem mem_of_find? (found : find? switches name = some s) : s ∈ switches ∧ name ∈ s.names := by
  rw [find?, List.find?_eq_some_iff_append] at found
  obtain ⟨holds, before, after, rfl, -⟩ := found
  exact ⟨by simp, by simpa using holds⟩

theorem not_isWord_beforeEquals (letter : c ≠ '-') (more : List Char) :
    ¬ isWord (beforeEquals (short c more)) = true := by
  intro word
  obtain ⟨c', cs, shape⟩ := isWord_iff.mp word
  rw [beforeEquals, short, String.toList_ofList, String.toList_ofList,
    List.takeWhile_cons_of_pos rfl, List.takeWhile_cons] at shape
  split at shape
  · exact letter (List.cons.inj (List.cons.inj shape).2).1
  · cases shape

theorem readShort_alone (own : find? switches (short c []) = some s) :
    readShort switches [c] =
      if s.takesValue then .ok ⟨[], some (s.key, short c [])⟩ else .ok ⟨[⟨s.key, none⟩], none⟩ := by
  rw [short] at own
  simp only [readShort, own, if_true]
  split <;> rfl

variable (legible : ∀ s ∈ switches, ∀ name ∈ s.names, Legible switches s name)

include legible

theorem read_short (letter : c ≠ '-') (more : List Char) :
    read switches (short c more) = readShort switches (c :: more) := by
  have unknown : (if isLong (beforeEquals (short c more)) = true then
      find? switches (beforeEquals (short c more)) else none) = none := by
    split
    · rename_i long
      cases found : find? switches (beforeEquals (short c more)) with
      | none => rfl
      | some s =>
          obtain ⟨mem, named⟩ := mem_of_find? found
          exact absurd ((legible s mem _ named).word long) (not_isWord_beforeEquals letter more)
    · rfl
  have single : "--".toList.isPrefixOf (short c more).toList = false := by
    have two : "--".toList = ['-', '-'] := rfl
    simp [two, short, List.isPrefixOf, letter.symm]
  simp only [read, unknown, single, Bool.false_eq_true, if_false]
  simp [short]

end Reading

section Scanning

variable {switches : List Switch} {s : Switch} {name : String} {c : Char}

theorem addGiven_append (first second : List Given) (line : Line) :
    addGiven (first ++ second) line = addGiven first (addGiven second line) := by
  simp [addGiven]

theorem map_addGiven (first second : List Given) (r : Except Misuse Line) :
    (r.map (addGiven second)).map (addGiven first) = r.map (addGiven (first ++ second)) := by
  cases r with
  | error m => rfl
  | ok line => exact congrArg Except.ok (addGiven_append first second line).symm

variable {text : String} {given : List Given} (mixed : Bool) (rest : List String)

theorem scan_whole (dashed : Dashed text) (reads : read switches text = .ok ⟨given, none⟩) :
    scan switches mixed (text :: rest) = (scan switches mixed rest).map (addGiven given) := by
  rw [scan, if_neg dashed.1, if_pos dashed.2, reads]

theorem scan_waiting {key : Key} (dashed : Dashed text)
    (reads : read switches text = .ok ⟨given, some (key, name)⟩) (value : String) :
    scan switches mixed (text :: value :: rest) =
      (scan switches mixed rest).map (addGiven (given ++ [⟨key, some value⟩])) := by
  rw [scan, if_neg dashed.1, if_pos dashed.2, reads]

variable (legible : ∀ s ∈ switches, ∀ name ∈ s.names, Legible switches s name)

include legible

theorem read_name (names : Legible switches s name) :
    read switches name =
      if s.takesValue then .ok ⟨[], some (s.key, name)⟩ else .ok ⟨[⟨s.key, none⟩], none⟩ := by
  obtain word | letter := names.formed
  · exact read_word names word
  · obtain ⟨c, rfl, other⟩ := isLetter_iff.mp letter
    rw [read_short legible other, readShort_alone names.own]

theorem scan_shared {next : Char} {more : List Char} (names : Legible switches s (short c []))
    (bare : s.takesValue = false) (letter : next ≠ '-') :
    scan switches mixed (short c (next :: more) :: rest) =
      (scan switches mixed (short next more :: rest)).map (addGiven [⟨s.key, none⟩]) := by
  have own := names.own
  rw [short] at own
  have first := dashed_short names.letter (next :: more)
  have second := dashed_short letter more
  rw [scan, if_neg first.1, if_pos first.2, read_short legible names.letter, scan,
    if_neg second.1, if_pos second.2, read_short legible letter, readShort]
  simp only [own, bare]
  cases readShort switches (next :: more) with
  | error m => rfl
  | ok reading =>
      obtain ⟨given, waiting⟩ := reading
      cases waiting with
      | none => exact (map_addGiven [⟨s.key, none⟩] given _).symm
      | some waiting =>
          cases rest with
          | nil => rfl
          | cons value rest =>
              exact (map_addGiven [⟨s.key, none⟩] (given ++ [⟨waiting.1, some value⟩]) _).symm

/-- Read again, the arguments hold what was spelled. -/
theorem scan_spelled {given : List Given} {args : List String}
    (spelled : Spelled switches given args) :
    scan switches mixed (args ++ rest) = (scan switches mixed rest).map (addGiven given) := by
  induction spelled with
  | nil =>
    rw [List.nil_append]
    cases scan switches mixed rest <;> rfl
  | flag mem named bare others ih =>
    have names := legible _ mem _ named
    have reads := read_name legible names
    rw [bare, if_neg Bool.false_ne_true] at reads
    rw [List.cons_append, scan_whole mixed _ (names.dashed) reads, ih,
      map_addGiven]
    rfl
  | value mem named takes others ih =>
    have names := legible _ mem _ named
    have reads := read_name legible names
    rw [takes, if_pos rfl] at reads
    rw [List.cons_append, List.cons_append,
      scan_waiting mixed _ (names.dashed) reads, ih, map_addGiven]
    rfl
  | @equated s name text given args mem named long takes others ih =>
    have names := legible s mem name named
    have dashed := dashed_of_word (isWord_equated (names.word long) text)
    rw [List.cons_append, scan_whole mixed _ dashed (read_equated names long takes _), ih,
      map_addGiven]
    rfl
  | @joined s c text given args mem named more takes others ih =>
    have names := legible _ mem _ named
    have reads : read switches (short c text) =
        .ok ⟨[⟨s.key, some (String.ofList text)⟩], none⟩ := by
      have own := names.own
      rw [short] at own
      rw [read_short legible names.letter, readShort]
      simp only [own, takes, if_true, if_neg more]
    rw [List.cons_append, scan_whole mixed _ (dashed_short names.letter text) reads, ih,
      map_addGiven]
    rfl
  | shared mem named bare letter others ih =>
    have names := legible _ mem _ named
    rw [List.cons_append] at ih ⊢
    rw [scan_shared mixed _ legible names bare letter, ih, map_addGiven]
    rfl

end Scanning

end Line

end Formulary.Command
