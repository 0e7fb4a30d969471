import Formulary.Proofs.Reading.Steps
import Formulary.Proofs.Value.Arithmetic

set_option autoImplicit false

namespace Formulary

inductive Operation where
  | compare (c : Comparison)
  | concat
  | add (o : Operator.Additive)
  | multiply (o : Operator.Multiplicative)
  | power
deriving Repr, DecidableEq

def Operator.Additive.mark : Operator.Additive → Separator
  | .plus => .plus
  | .minus => .minus

theorem Operator.Additive.mark_of_additive? {t : Token} {o : Operator.Additive}
    (known : Operator.additive? t = some o) : t = .mark o.mark := by
  cases t with
  | word w => cases known
  | mark m => cases m <;> cases known <;> rfl

namespace Operation

def mark : Operation → Separator
  | .compare .equal => .equal
  | .compare .notEqual => .notEqual
  | .compare .less => .less
  | .compare .lessEqual => .lessEqual
  | .compare .greater => .greater
  | .compare .greaterEqual => .greaterEqual
  | .concat => .ampersand
  | .add o => o.mark
  | .multiply .times => .times
  | .multiply .divide => .divide
  | .power => .caret

-- Tiers count from the weakest binding; everything that is no operation stands on tier 5.
def tier : Operation → Nat
  | .compare _ => 0
  | .concat => 1
  | .add _ => 2
  | .multiply _ => 3
  | .power => 4

theorem tier_lt_or_power (op : Operation) : op.tier < 4 ∨ op = .power := by
  cases op <;> simp [tier]

def leftTier : Operation → Nat
  | .power => 5
  | op => op.tier

def rightTier : Operation → Nat
  | .power => 4
  | op => op.tier + 1

theorem leftTier_le (op : Operation) : op.leftTier ≤ 5 := by
  cases op <;> simp [leftTier, tier]

theorem rightTier_le (op : Operation) : op.rightTier ≤ 5 := by
  cases op <;> simp [rightTier, tier]

theorem sideTiers_of_tier_lt (op : Operation) (low : op.tier < 4) :
    op.leftTier = op.tier ∧ op.rightTier = op.tier + 1 := by
  cases op <;> first | exact ⟨rfl, rfl⟩ | exact absurd low (Nat.lt_irrefl 4)

def apply : Operation → Value → Value → Except Fault Value
  | .compare c => c.apply
  | .concat => Operator.concat ()
  | .add o => Operator.add o
  | .multiply o => Operator.multiply o
  | .power => Operator.raise ()

def meet (op : Operation) (a b : Value) : Except Fault Value :=
  if a.isError then .ok a else if b.isError then .ok b else op.apply a b

end Operation

def Signature.refused? (s : Signature) (args : List Value) : Option Value :=
  (args.zipIdx.find? fun (v, position) => v.isError && !s.admitsErrorAt position).map Prod.fst

def Signature.value (s : Signature) (args : List Value) : Except Fault Value :=
  match s.refused? args with
  | some e => .ok e
  | none => if args.length < s.arity then .ok .valueError else s.body args

def Function.value (name : String) (args : List Value) : Except Fault Value :=
  match builtIn.find? name with
  | none => .ok .nameError
  | some s => s.value args

inductive Tree where
  | missing
  | number (word : String)
  | keyword (word : String)
  | text (content : List Token)
  | name (x : String)
  | sign (o : Operator.Additive) (operand : Tree)
  | bracket (inner : Tree)
  | binary (op : Operation) (left right : Tree)
  | call (name : String) (args : List Tree)

namespace Tree

@[elab_as_elim, induction_eliminator]
theorem induction_on {motive : Tree → Prop} (missing : motive .missing)
    (number : ∀ w, motive (.number w)) (keyword : ∀ w, motive (.keyword w))
    (text : ∀ content, motive (.text content)) (name : ∀ x, motive (.name x))
    (sign : ∀ o t, motive t → motive (.sign o t)) (bracket : ∀ t, motive t → motive (.bracket t))
    (binary : ∀ op a b, motive a → motive b → motive (.binary op a b))
    (call : ∀ f args, (∀ t ∈ args, motive t) → motive (.call f args)) : ∀ t, motive t
  | .missing => missing
  | .number w => number w
  | .keyword w => keyword w
  | .text content => text content
  | .name x => name x
  | .sign o t => sign o t
      (induction_on missing number keyword text name sign bracket binary call t)
  | .bracket t => bracket t
      (induction_on missing number keyword text name sign bracket binary call t)
  | .binary op a b => binary op a b
      (induction_on missing number keyword text name sign bracket binary call a)
      (induction_on missing number keyword text name sign bracket binary call b)
  | .call f args => call f args fun t _ =>
      induction_on missing number keyword text name sign bracket binary call t

def tier : Tree → Nat
  | .binary op _ _ => op.tier
  | _ => 5

theorem tier_le (t : Tree) : t.tier ≤ 5 := by
  cases t with
  | binary op a b => cases op <;> simp [tier, Operation.tier]
  | _ => exact Nat.le_refl 5

mutual

/-- The tokens of a tree, spaces outside its string literals left out. -/
def yield : Tree → List Token
  | .missing => []
  | .number w | .keyword w | .name w => [.word w]
  | .text content => .mark .quote :: (content ++ [.mark .quote])
  | .sign o t => .mark o.mark :: t.yield
  | .bracket t => .mark .leftBracket :: (t.yield ++ [.mark .rightBracket])
  | .binary op a b => a.yield ++ .mark op.mark :: b.yield
  | .call f args => .word f :: .mark .leftBracket :: (yieldAll args ++ [.mark .rightBracket])

def yieldAll : List Tree → List Token
  | [] => []
  | [t] => t.yield
  | t :: u :: ts => t.yield ++ .mark .comma :: yieldAll (u :: ts)

end

mutual

def value (scope : Scope) : Tree → Except Fault Value
  | .missing => .ok .tokenError
  | .number w => .ok ((Numeral.literal? w).elim .numeralError .number)
  | .keyword w => .ok (.boolean (Token.boolean? w == some true))
  | .text content => .ok (.string (String.join (content.map Token.text)))
  | .name x => scope.read x
  | .sign o t => do return Operator.signed o (← t.value scope)
  | .bracket t => t.value scope
  | .binary op a b => do op.meet (← a.value scope) (← b.value scope)
  | .call f args => do Function.value f (← values scope args)

def values (scope : Scope) : List Tree → Except Fault (List Value)
  | [] => .ok []
  | t :: ts => do return (← t.value scope) :: (← values scope ts)

end

end Tree

namespace Token

def startsOperand : Token → Bool
  | .mark m => m ∈ [.plus, .minus, .leftBracket, .quote]
  | .word w => Rule.startsNumber w || isKeyword w || Rule.hasNameStart w

end Token

namespace Tree

mutual

/-- The tree is one of the grammar where `next` stands behind it. -/
def Fits : Tree → List Token → Prop
  | .missing, next => ∀ t, next.head? = some t → t.startsOperand = false
  | .number w, _ => Rule.startsNumber w = true
  | .keyword w, _ => Rule.startsNumber w = false ∧ Token.isKeyword w = true
  | .text content, _ => .mark .quote ∉ content
  | .name x, next => Token.isName x = true ∧ next.head? ≠ some (.mark .leftBracket)
  | .sign _ t, next => t.tier = 5 ∧ t.Fits next
  | .bracket t, next => t.Fits (.mark .rightBracket :: next)
  | .binary op a b, next =>
      op.leftTier ≤ a.tier ∧ op.rightTier ≤ b.tier ∧
        a.Fits (.mark op.mark :: (b.yield ++ next)) ∧ b.Fits next
  | .call f args, next =>
      Token.isName f = true ∧ args ≠ [.missing] ∧ FitAll args (.mark .rightBracket :: next)

def FitAll : List Tree → List Token → Prop
  | [], _ => True
  | [t], next => t.Fits next
  | t :: u :: ts, next =>
      t.Fits (.mark .comma :: (yieldAll (u :: ts) ++ next)) ∧ FitAll (u :: ts) next

end

end Tree

end Formulary
