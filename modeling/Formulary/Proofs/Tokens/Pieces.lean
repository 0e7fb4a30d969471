import Formulary.Proofs.Reading.Spaces
import Formulary.Proofs.Tokens.Tidy

set_option autoImplicit false

namespace Formulary.Token

theorem apart_space {t : Token} (visible : t ≠ .mark .space) : Apart t (.mark .space) := by
  refine ⟨by simp, ?_⟩
  cases t with
  | word w => simp [barred]
  | mark m =>
      cases m <;> first | exact absurd rfl visible | simp [barred, joining, text, Separator.text]

theorem space_apart {t : Token} (words : ∀ w, .word w = t → IsWord w)
    (visible : t ≠ .mark .space) : Apart (.mark .space) t := by
  refine ⟨by simp, fun c mem head => ?_⟩
  obtain rfl : c = ' ' := by simpa [barred] using mem
  have plain := plain_text words visible ' ' (List.mem_of_head? head)
  exact absurd plain (by decide)

def Solid (m : Separator) : Prop := m = .quote ∨ m = .leftBracket ∨ m = .rightBracket

theorem Solid.apart {m : Separator} (solid : Solid m) (t : Token) : Apart t (.mark m) := by
  refine ⟨by simp, ?_⟩
  have free : ∀ c ∈ barred t, c ∈ ['=', '>', ' '] := by
    cases t with
    | word w => simp [barred]
    | mark m => cases m <;> simp [barred, joining]
  intro c mem
  have listed := free c mem
  obtain rfl | rfl | rfl := solid <;> rintro head <;> cases head <;> exact absurd listed (by decide)

theorem Solid.leads {m : Separator} (solid : Solid m) (t : Token) : Apart (.mark m) t := by
  refine ⟨by simp, ?_⟩
  obtain rfl | rfl | rfl := solid <;> simp [barred, joining]

theorem Canonical.enclosed {ts : List Token} (words : ∀ w, .word w ∈ ts → IsWord w)
    (apart : ts.IsChain Apart) {l r : Separator} (left : Solid l) (right : Solid r) :
    Canonical (.mark l :: (ts ++ [.mark r])) where
  words w mem := words w (by simpa using mem)
  apart := by
    apply List.isChain_cons.mpr
    refine ⟨fun t _ => left.leads t, List.isChain_append.mpr ⟨apart, by simp, ?_⟩⟩
    intro t _ u mem
    obtain rfl : u = .mark r := by simpa using mem.symm
    exact right.apart t
  start := by obtain rfl | rfl | rfl := left <;> simp
  stop := by
    rw [← List.cons_append, List.getLast?_concat]
    obtain rfl | rfl | rfl := right <;> simp

structure Piece (ts : List Token) : Prop where
  nonempty : ts ≠ []
  canonical : Canonical ts
  bare : ∀ us, bare false (ts ++ us) = ts ++ bare false us

theorem piece_word {w : String} (word : IsWord w) : Piece [.word w] where
  nonempty := by simp
  canonical := ⟨by simpa using word, by simp, by simp, by simp⟩
  bare us := bare_cons (by simp) (by simp) us

theorem piece_mark {m : Separator} (unquoted : m ≠ .quote) (visible : m ≠ .space) :
    Piece [.mark m] where
  nonempty := by simp
  canonical := ⟨by simp, by simp, by simpa using visible, by simpa using visible⟩
  bare us := bare_cons (by simpa using unquoted) (by simpa using visible) us

theorem unquoted_split {cs : List Char} (unquoted : '"' ∉ cs) : .mark .quote ∉ split [] cs := by
  intro mem
  have text := chars_split [] cs
  apply unquoted
  rw [← List.nil_append cs, ← List.reverse_nil, ← text]
  exact List.mem_flatMap.mpr ⟨_, mem, by decide⟩

theorem piece_quotation {cs : List Char} (unquoted : '"' ∉ cs) (tidy : Tidy cs) :
    Piece (.mark .quote :: (split [] cs ++ [.mark .quote])) where
  nonempty := by simp
  canonical := by
    have plain : Plain [] := by simp [Plain]
    exact .enclosed (fun w mem => words_split tidy plain mem) (apart_split tidy plain) (.inl rfl)
      (.inl rfl)
  bare us := by simp [bare_unquoted (unquoted_split unquoted)]

def spread (pieces : List (List Token)) : List Token := [.mark .space].intercalate pieces

theorem Canonical.spaced {ts us : List Token} (left : Canonical ts) (right : Canonical us)
    (given : ts ≠ []) (given' : us ≠ []) : Canonical (ts ++ .mark .space :: us) where
  words w mem := by
    obtain mem | mem := List.mem_append.mp mem
    · exact left.words w mem
    · exact right.words w (by simpa using mem)
  apart := by
    refine List.isChain_append.mpr ⟨left.apart, List.isChain_cons.mpr ⟨?_, right.apart⟩, ?_⟩
    · intro t head
      exact space_apart (fun w same => right.words w (by rw [same]; exact List.mem_of_head? head))
        fun space => right.start (space ▸ head)
    · intro t final u head
      obtain rfl : u = .mark .space := by simpa using head.symm
      exact apart_space fun space => left.stop (space ▸ final)
  start := by
    rw [List.head?_append_of_ne_nil _ given]
    exact left.start
  stop := by
    rw [List.getLast?_append_of_ne_nil _ (by simp), List.getLast?_cons_of_ne_nil given']
    exact right.stop

theorem spread_ne_nil {ts : List Token} (given : ts ≠ []) (pieces : List (List Token)) :
    spread (ts :: pieces) ≠ [] := by
  cases pieces with
  | nil => simpa [spread] using given
  | cons us pieces => simp [spread, given]

theorem canonical_spread {pieces : List (List Token)} (each : ∀ ts ∈ pieces, Piece ts) :
    Canonical (spread pieces) := by
  induction pieces with
  | nil => exact ⟨by simp [spread], by simp [spread], by simp [spread], by simp [spread]⟩
  | cons ts pieces ih =>
      have others := ih fun us mem => each us (List.mem_cons_of_mem _ mem)
      have piece := each ts (List.mem_cons_self ..)
      cases pieces with
      | nil => simpa [spread] using piece.canonical
      | cons us pieces =>
          have given := (each us (by simp)).nonempty
          have whole := piece.canonical.spaced others piece.nonempty (spread_ne_nil given pieces)
          simpa [spread] using whole

theorem bare_spread {pieces : List (List Token)} (each : ∀ ts ∈ pieces, Piece ts) :
    bare false (spread pieces) = pieces.flatten := by
  induction pieces with
  | nil => rfl
  | cons ts pieces ih =>
      have same := ih fun us mem => each us (List.mem_cons_of_mem _ mem)
      have piece := each ts (List.mem_cons_self ..)
      cases pieces with
      | nil => simpa [spread] using piece.bare []
      | cons us pieces =>
          rw [spread, List.intercalate_cons_cons, List.append_assoc, piece.bare]
          exact congrArg (ts ++ ·) same

theorem join_spread (pieces : List (List Token)) :
    String.join ((spread pieces).map text) =
      " ".intercalate (pieces.map fun ts => String.join (ts.map text)) := by
  induction pieces with
  | nil => rfl
  | cons ts pieces ih =>
      cases pieces with
      | nil => simp [spread]
      | cons us pieces =>
          rw [spread, List.intercalate_cons_cons, List.map_append, List.map_append,
            String.join_append, String.join_append]
          change _ ++ _ ++ String.join ((spread (us :: pieces)).map text) = _
          rw [ih, List.map_cons, List.map_cons, List.map_cons, List.map_cons,
            String.intercalate_cons_cons]
          rfl

end Formulary.Token
