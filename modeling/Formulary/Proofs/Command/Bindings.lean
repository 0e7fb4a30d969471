import Formulary.Command.Binding
import Formulary.Proofs.Data.Outcome

set_option autoImplicit false

namespace Formulary.Bindings

variable {bs items : Bindings} {name other : String}

section Lookup

theorem lookup_bind_self (bs : Bindings) (name : String) (v : Value) :
    (bind bs name v).lookup name = some v := by
  induction bs with
  | nil => simp [bind]
  | cons b bs ih =>
      obtain ⟨n, old⟩ := b
      rw [bind]
      by_cases here : n = name
      · simp [here]
      · have differs : (name == n) = false := by simpa using Ne.symm here
        rw [if_neg here, List.lookup_cons, differs, ih]

theorem lookup_bind_other (apart : other ≠ name) (bs : Bindings) (v : Value) :
    (bind bs name v).lookup other = bs.lookup other := by
  have differs : (other == name) = false := by simpa using apart
  induction bs with
  | nil => simp [bind, List.lookup_cons, differs]
  | cons b bs ih =>
      obtain ⟨n, old⟩ := b
      rw [bind]
      by_cases here : n = name
      · subst here
        simp [List.lookup_cons, differs]
      · rw [if_neg here, List.lookup_cons, List.lookup_cons, ih]

theorem lookup_ofList (items : Bindings) (name : String) :
    (ofList items).lookup name = items.reverse.lookup name := by
  suffices folded : ∀ bs : Bindings, (items.foldl (fun bs b => bind bs b.1 b.2) bs).lookup name =
      (items.reverse.lookup name).or (bs.lookup name) by
    rw [ofList, folded, List.lookup_nil, Option.or_none]
  induction items with
  | nil => simp
  | cons b items ih =>
      intro bs
      obtain ⟨n, v⟩ := b
      rw [List.foldl_cons, ih, List.reverse_cons, List.lookup_append, Option.or_assoc]
      congr 1
      by_cases here : name = n
      · subst here
        rw [lookup_bind_self, List.lookup_cons_self]
        rfl
      · have differs : (name == n) = false := by simpa using here
        rw [lookup_bind_other here, List.lookup_cons, differs]
        rfl

end Lookup

section Gathered

variable {v : Value}

def bindAll (bs items : Bindings) : Bindings := items.foldl (fun bs b => bind bs b.1 b.2) bs

def names (bs : Bindings) : List String := bs.map Prod.fst

theorem mem_names_bind_self (bs : Bindings) (name : String) (v : Value) :
    name ∈ names (bind bs name v) := by
  induction bs with
  | nil => simp [names, bind]
  | cons b bs ih =>
      rw [bind]
      split
      · next here => simp [names, here]
      · exact List.mem_cons_of_mem _ ih

theorem names_bind_of_mem (bound : name ∈ names bs) (v : Value) :
    names (bind bs name v) = names bs := by
  induction bs with
  | nil => cases bound
  | cons b bs ih =>
      rw [bind]
      split
      · rfl
      · next apart =>
          have later := (List.mem_cons.mp bound).resolve_left (Ne.symm apart)
          exact congrArg (List.cons b.1) (ih later)

theorem names_bind_of_notMem (free : name ∉ names bs) (v : Value) :
    names (bind bs name v) = names bs ++ [name] := by
  induction bs with
  | nil => rfl
  | cons b bs ih =>
      obtain ⟨apart, free⟩ := List.ne_and_not_mem_of_not_mem_cons free
      rw [bind, if_neg (Ne.symm apart)]
      exact congrArg (List.cons b.1) (ih free)

theorem mem_names_bind (bound : other ∈ names bs) (name : String) (v : Value) :
    other ∈ names (bind bs name v) := by
  by_cases known : name ∈ names bs
  · rwa [names_bind_of_mem known]
  · rw [names_bind_of_notMem known]
    exact List.mem_append_left _ bound

theorem nodup_bind (distinct : (names bs).Nodup) (name : String) (v : Value) :
    (names (bind bs name v)).Nodup := by
  by_cases known : name ∈ names bs
  · rwa [names_bind_of_mem known]
  · rw [names_bind_of_notMem known, List.nodup_append]
    refine ⟨distinct, by simp, fun n mem m last same => ?_⟩
    rw [List.mem_singleton.mp last] at same
    exact known (same ▸ mem)

theorem bind_bind (bs : Bindings) (name : String) (old new : Value) :
    bind (bind bs name old) name new = bind bs name new := by
  induction bs with
  | nil => simp [bind]
  | cons b bs ih =>
      by_cases here : b.1 = name <;> simp [bind, here, ih]

theorem bind_swap (bound : name ∈ names bs) (apart : other ≠ name) (v u : Value) :
    bind (bind bs other u) name v = bind (bind bs name v) other u := by
  induction bs with
  | nil => cases bound
  | cons b bs ih =>
      obtain ⟨n, old⟩ := b
      by_cases here : n = name
      · subst here
        simp [bind, Ne.symm apart]
      · have later := (List.mem_cons.mp bound).resolve_left (Ne.symm here)
        by_cases there : n = other
        · subst there
          simp [bind, here]
        · simp [bind, here, there, ih later]

theorem bind_bindAll (bound : name ∈ names bs) (free : name ∉ names items) (v : Value) :
    bind (bindAll bs items) name v = bindAll (bind bs name v) items := by
  induction items generalizing bs with
  | nil => rfl
  | cons b items ih =>
      obtain ⟨apart, free⟩ := List.ne_and_not_mem_of_not_mem_cons free
      have swapped := bind_swap bound (Ne.symm apart) v b.2
      exact (ih (mem_names_bind bound b.1 b.2) free).trans (congrArg (bindAll · items) swapped)

theorem bindAll_bind (distinct : (names items).Nodup) (bs : Bindings) (name : String) (v : Value) :
    bindAll bs (bind items name v) = bind (bindAll bs items) name v := by
  induction items generalizing bs with
  | nil => rfl
  | cons b items ih =>
      obtain ⟨n, old⟩ := b
      obtain ⟨free, distinct⟩ := List.nodup_cons.mp distinct
      rw [bind]
      split
      · next here =>
          subst here
          have first := bind_bindAll (mem_names_bind_self bs n old) free v
          rw [bind_bind] at first
          exact first.symm
      · exact ih distinct (bind bs n old)

theorem bindAll_bindAll (distinct : (names bs).Nodup) (first items : Bindings) :
    bindAll first (bindAll bs items) = bindAll (bindAll first bs) items := by
  induction items generalizing bs with
  | nil => rfl
  | cons b items ih =>
      have step := ih (nodup_bind distinct b.1 b.2)
      rw [bindAll_bind distinct] at step
      exact step

theorem bindAll_ofList (bs items : Bindings) : bindAll bs (ofList items) = bindAll bs items :=
  have distinct : (names []).Nodup := List.nodup_nil
  bindAll_bindAll distinct bs items

theorem ofList_append (first second : Bindings) :
    ofList (first ++ second) = bindAll (ofList first) second := List.foldl_append

theorem extend_ofList (first second : Bindings) :
    extend (ofList first) (ofList second) = ofList (first ++ second) := by
  have again : ofList (ofList first) = ofList first := bindAll_ofList [] first
  rw [extend, ofList_append, ofList_append, again, bindAll_ofList]

end Gathered

section Scopes

def inScope (b : String × Value) : String × Datum := (b.1, .value b.2)

theorem bind_inScope (bs : Bindings) (name : String) (v : Value) :
    Scope.bind (bs.map inScope) name (.value v) = (bind bs name v).map inScope := by
  induction bs with
  | nil => rfl
  | cons b bs ih =>
      by_cases here : b.1 = name <;> simp [bind, Scope.bind, inScope, here]
      exact ih

theorem scope_eq (bs : Bindings) : scope bs = (ofList bs).map inScope := by
  have folded : ∀ done : Bindings,
      (bs.map inScope).foldl (fun scope b => Scope.bind scope b.1 b.2) (done.map inScope) =
        (bindAll done bs).map inScope := by
    induction bs with
    | nil => exact fun _ => rfl
    | cons b bs ih =>
        intro done
        have step := ih (bind done b.1 b.2)
        rw [← bind_inScope] at step
        exact step
  exact folded []

theorem scope_ofList (items : Bindings) : scope (ofList items) = scope items := by
  rw [scope_eq, scope_eq, show ofList (ofList items) = ofList items from bindAll_ofList [] items]

theorem lookup_scope (items : Bindings) (name : String) :
    (scope items).lookup name = (items.reverse.lookup name).map Datum.value := by
  rw [scope_eq, ← lookup_ofList]
  induction ofList items with
  | nil => rfl
  | cons b bs ih =>
      obtain ⟨n, v⟩ := b
      simp only [List.map_cons, inScope, List.lookup_cons]
      cases name == n with
      | true => rfl
      | false => exact ih

end Scopes

end Formulary.Bindings
