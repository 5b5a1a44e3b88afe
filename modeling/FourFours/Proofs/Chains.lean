import FourFours.Proofs.Grammar.Tokens
import FourFours.Proofs.Refusal

/-!
# Chains of operands

A chain of factors is read as one quotient: the product of all that are multiplied, divided
by the product of all divisors. A chain of terms is read as one sum, in which the subtracted
terms are negated. Whatever numbers the decimal literals stand for, both trees have the meaning
of the chain worked off from left to right, undefined where that is undefined. So the regrouping
never changes a result, and a chain of factors that all have values is a division by zero only
if one of its divisors is zero.
-/

namespace FourFours

open Radical (Value)

/-! ## From left to right -/

namespace Meaning

/-- The product or the quotient of two numbers; nothing is divided by zero. -/
noncomputable def factor? (divides : Bool) (total y : ℝ) : Option ℝ :=
  if divides then if y = 0 then none else some (total / y) else some (total * y)

/-- The sum or the difference of two numbers. -/
noncomputable def term? (subtracted : Bool) (total y : ℝ) : Option ℝ :=
  some (if subtracted then total - y else total + y)

end Meaning

namespace Grammar

section

variable (number : Expr → Option ℝ) (step : Bool → ℝ → ℝ → Option ℝ)

/-- What a number becomes when the links of a chain are applied to it one after another. A link
is an operand with the flag of the operator in front of it, and stands for a number. -/
noncomputable def continued (total : ℝ) : List (Bool × Expr) → Option ℝ
  | [] => some total
  | (flag, x) :: links => do
      let next ← step flag total (← number x)
      continued next links

/-- The number of a chain that is worked off from left to right. -/
noncomputable def leftToRight (first : Expr) (links : List (Bool × Expr)) : Option ℝ := do
  continued number step (← number first) links

variable {number step} {number' : Expr → Option ℝ} {links : List (Bool × Expr)}

theorem continued_congr
    (agree : ∀ x ∈ links.map Prod.snd, number x = number' x)
    (total : ℝ) :
    continued number step total links = continued number' step total links := by
  induction links generalizing total with
  | nil => rfl
  | cons link links inductionHypothesis =>
      obtain ⟨first, others⟩ := List.forall_mem_cons.mp agree
      rw [continued, continued, first]
      simp only [inductionHypothesis others]

/-- Only the numbers of its own operands count for a chain. -/
theorem leftToRight_congr
    {first : Expr}
    (agree : ∀ x ∈ first :: links.map Prod.snd, number x = number' x) :
    leftToRight number step first links = leftToRight number' step first links := by
  obtain ⟨same, others⟩ := List.forall_mem_cons.mp agree
  rw [leftToRight, leftToRight, same]
  simp only [continued_congr others]

end

end Grammar

namespace Expr

open Grammar

variable {literal : Decimal → Option ℝ}

/-- A single factor has the meaning of the product that consists of it. -/
theorem meaningWith_productOf (x : Expr) (xs : List Expr) :
    (Expr.product (x :: xs)).meaningWith literal =
      (meaningWith.meanings literal (x :: xs)).map List.prod := by
  cases xs with
  | nil =>
      rw [Expr.product, meanings_cons]
      cases x.meaningWith literal <;> simp [meaningWith.meanings]
  | cons y ys => exact meaningWith_product x (y :: ys)

/-- A single term has the meaning of the sum that consists of it. -/
theorem meaningWith_sumOf (x : Expr) (xs : List Expr) :
    (Expr.sum (x :: xs)).meaningWith literal =
      (meaningWith.meanings literal (x :: xs)).map List.sum := by
  cases xs with
  | nil =>
      rw [Expr.sum, meanings_cons]
      cases x.meaningWith literal <;> simp [meaningWith.meanings]
  | cons y ys => exact meaningWith_sum x (y :: ys)

/-- A product of meanings is zero exactly if one of them is. -/
theorem prod_eq_zero_iff_of_meanings
    {xs : List Expr}
    {numbers : List ℝ}
    (meanings : meaningWith.meanings literal xs = some numbers) :
    numbers.prod = 0 ↔ ∃ x ∈ xs, x.meaningWith literal = some 0 := by
  induction xs generalizing numbers with
  | nil =>
      rw [meaningWith.meanings, Option.some.injEq] at meanings
      subst meanings
      simp
  | cons x xs inductionHypothesis =>
      rw [meanings_cons, Option.map₂_eq_some_iff] at meanings
      obtain ⟨y, ys, number, rest, rfl⟩ := meanings
      rw [List.prod_cons, mul_eq_zero, inductionHypothesis rest]
      simp [Option.mem_def.mp number]

end Expr

namespace Grammar

/-- The operands of some links with a given flag, in order. -/
def operandsWith (flag : Bool) (links : List (Bool × Expr)) : List Expr :=
  (links.filter fun link => link.1 == flag).map Prod.snd

theorem operandsWith_cons (flag : Bool) (link : Bool × Expr) (links : List (Bool × Expr)) :
    operandsWith flag (link :: links) =
      if link.1 = flag then link.2 :: operandsWith flag links else operandsWith flag links := by
  by_cases same : link.1 = flag <;> simp [operandsWith, same]

theorem productTree_eq (x : Expr) (links : List (Bool × Expr)) :
    productTree x links = match operandsWith true links with
      | [] => Expr.product (x :: operandsWith false links)
      | divisors => .node .quotient
          [Expr.product (x :: operandsWith false links), Expr.product divisors] := by
  have multiplied : (links.filter (!·.1)) = links.filter fun link => link.1 == false := by
    refine List.filter_congr fun link _ => ?_
    cases link.1 <;> rfl
  have dividing : (links.filter (·.1)) = links.filter fun link => link.1 == true := by
    refine List.filter_congr fun link _ => ?_
    cases link.1 <;> rfl
  rw [productTree, multiplied, dividing]
  rfl

variable {literal : Decimal → Option ℝ}

/-- Gathering the multiplied factors and the divisors of a chain keeps its number: it is the
number so far times all of the ones, divided by all of the others. -/
theorem continued_factor? (total : ℝ) (links : List (Bool × Expr)) :
    continued (Expr.meaningWith literal) Meaning.factor? total links = (do
      let factors ← Expr.meaningWith.meanings literal (operandsWith false links)
      let divisors ← Expr.meaningWith.meanings literal (operandsWith true links)
      if divisors.prod = 0 then none else some (total * factors.prod / divisors.prod)) := by
  induction links generalizing total with
  | nil => simp [continued, operandsWith, Expr.meaningWith.meanings]
  | cons link links inductionHypothesis =>
      obtain ⟨divides, x⟩ := link
      rw [continued, operandsWith_cons, operandsWith_cons]
      cases divides with
      | false =>
          rw [if_pos rfl, if_neg Bool.false_ne_true, Expr.meanings_cons]
          cases x.meaningWith literal with
          | none => rfl
          | some y =>
              cases factors : Expr.meaningWith.meanings literal (operandsWith false links) <;>
                simp [Meaning.factor?, inductionHypothesis, factors, mul_assoc]
      | true =>
          rw [if_neg Bool.false_ne_true.symm, if_pos rfl, Expr.meanings_cons]
          cases x.meaningWith literal with
          | none =>
              cases Expr.meaningWith.meanings literal (operandsWith false links) <;> rfl
          | some y =>
              cases factors : Expr.meaningWith.meanings literal (operandsWith false links) with
              | none => by_cases zero : y = 0 <;>
                  simp [Meaning.factor?, inductionHypothesis, factors, zero]
              | some numerators =>
                  cases divisors :
                      Expr.meaningWith.meanings literal (operandsWith true links) with
                  | none => by_cases zero : y = 0 <;>
                      simp [Meaning.factor?, inductionHypothesis, factors, divisors, zero]
                  | some denominators =>
                      by_cases zero : y = 0
                      · simp [Meaning.factor?, zero]
                      · have regrouped : total / y * numerators.prod / denominators.prod =
                            total * numerators.prod / (y * denominators.prod) := by
                          rw [div_mul_eq_mul_div, div_div]
                        simp [Meaning.factor?, inductionHypothesis, factors, divisors, zero,
                          Ne.symm zero, regrouped]

/-- Negating the subtracted terms of a chain and adding up all of them keeps its number. -/
theorem continued_term? (total : ℝ) (links : List (Bool × Expr)) :
    continued (Expr.meaningWith literal) Meaning.term? total links =
      (Expr.meaningWith.meanings literal (links.map fun (subtracted, x) =>
        if subtracted then .unary .negate x else x)).map fun numbers => total + numbers.sum := by
  induction links generalizing total with
  | nil => simp [continued, Expr.meaningWith.meanings]
  | cons link links inductionHypothesis =>
      obtain ⟨subtracted, x⟩ := link
      rw [continued, List.map_cons, Expr.meanings_cons]
      cases number : x.meaningWith literal with
      | none => cases subtracted <;> simp [Expr.meaningWith_negate, number]
      | some y =>
          cases numbers : Expr.meaningWith.meanings literal (links.map fun (subtracted, x) =>
              if subtracted then .unary .negate x else x) <;>
            cases subtracted <;>
              simp [Meaning.term?, inductionHypothesis, Expr.meaningWith_negate, number,
                numbers, sub_eq_add_neg, add_assoc]

/-- The tree of a chain of factors means what the chain means from left to right. -/
theorem meaningWith_productTree (x : Expr) (links : List (Bool × Expr)) :
    (productTree x links).meaningWith literal =
      leftToRight (Expr.meaningWith literal) Meaning.factor? x links := by
  rw [leftToRight, productTree_eq]
  simp only [continued_factor?]
  cases dividing : operandsWith true links with
  | nil =>
      rw [Expr.meaningWith_productOf, Expr.meanings_cons]
      cases x.meaningWith literal with
      | none => rfl
      | some y => cases Expr.meaningWith.meanings literal (operandsWith false links) <;>
          simp [Expr.meaningWith.meanings]
  | cons z zs =>
      rw [Expr.meaningWith_pair, Expr.meaningWith_productOf, Expr.meaningWith_productOf,
        Expr.meanings_cons x]
      cases x.meaningWith literal with
      | none => rfl
      | some y =>
          cases Expr.meaningWith.meanings literal (operandsWith false links) with
          | none => rfl
          | some factors => cases Expr.meaningWith.meanings literal (z :: zs) <;> rfl

/-- The tree of a chain of terms means what the chain means from left to right. -/
theorem meaningWith_sumTree (x : Expr) (links : List (Bool × Expr)) :
    (sumTree x links).meaningWith literal =
      leftToRight (Expr.meaningWith literal) Meaning.term? x links := by
  rw [leftToRight, sumTree, Expr.meaningWith_sumOf, Expr.meanings_cons]
  simp only [continued_term?]
  cases x.meaningWith literal with
  | none => rfl
  | some y =>
      cases Expr.meaningWith.meanings literal (links.map fun (subtracted, x) =>
          if subtracted then .unary .negate x else x) <;> simp

theorem mem_operandsWith {flag : Bool} {links : List (Bool × Expr)} {x : Expr} :
    x ∈ operandsWith flag links ↔ (flag, x) ∈ links := by
  simp [operandsWith]

/-- A chain with a divisor that means zero means nothing. -/
theorem leftToRight_eq_none_of_zero
    (x : Expr)
    {links : List (Bool × Expr)}
    {divisor : Expr}
    (member : (true, divisor) ∈ links)
    (zero : divisor.meaningWith literal = some 0) :
    leftToRight (Expr.meaningWith literal) Meaning.factor? x links = none := by
  rw [leftToRight]
  simp only [continued_factor?]
  cases x.meaningWith literal with
  | none => rfl
  | some y =>
      cases Expr.meaningWith.meanings literal (operandsWith false links) with
      | none => rfl
      | some factors =>
          cases numbers : Expr.meaningWith.meanings literal (operandsWith true links) with
          | none => rfl
          | some divisors =>
              have vanishes : divisors.prod = 0 :=
                (Expr.prod_eq_zero_iff_of_meanings numbers).mpr
                  ⟨divisor, mem_operandsWith.mpr member, zero⟩
              exact if_pos vanishes

end Grammar

/-! ## Evaluation -/

namespace Expr

open Grammar

variable {settings : Settings} {fault : Fault}

/-- Whether the evaluation of a tree returns a value. -/
def Evaluates (settings : Settings) (x : Expr) : Prop :=
  ∃ v, x.value settings = .ok v

/-- The real number that the value of a tree stands for, if it has a value. -/
noncomputable def real? (settings : Settings) (x : Expr) : Option ℝ :=
  (x.value settings).toOption.map Value.real

theorem Evaluates.meaningWith_eq_real? {x : Expr} (evaluates : x.Evaluates settings) :
    x.meaningWith Decimal.real? = x.real? settings := by
  obtain ⟨v, valued⟩ := evaluates
  rw [(isSound settings x v valued).2, real?, valued]
  rfl

/-- Values that are combined one after another have to be there. -/
theorem evaluates_of_accumulated
    (combine : Value → Value → Except Fault Value)
    (all : Value → List Expr → Except Fault Value)
    (all_cons : ∀ total x xs, all total (x :: xs) =
      x.value settings >>= fun v => combine total v >>= fun next => all next xs)
    {xs : List Expr}
    {total u : Value}
    (valued : all total xs = .ok u) :
    ∀ x ∈ xs, x.Evaluates settings := by
  induction xs generalizing total with
  | nil => exact fun x member => absurd member List.not_mem_nil
  | cons x xs inductionHypothesis =>
      rw [all_cons, bind_eq_ok_iff] at valued
      obtain ⟨v, first, valued⟩ := valued
      obtain ⟨next, -, valued⟩ := bind_eq_ok_iff.mp valued
      exact List.forall_mem_cons.mpr ⟨⟨v, first⟩, inductionHypothesis valued⟩

/-- The operands of a product that has a value have values. -/
theorem Evaluates.of_productOf
    {x : Expr}
    {xs : List Expr}
    (evaluates : (Expr.product (x :: xs)).Evaluates settings) :
    ∀ y ∈ x :: xs, y.Evaluates settings := by
  cases xs with
  | nil => exact List.forall_mem_singleton.mpr evaluates
  | cons y ys =>
      obtain ⟨u, valued⟩ := evaluates
      change value.multiplyAll settings .one (x :: y :: ys) = .ok u at valued
      exact evaluates_of_accumulated Value.mul _ (fun _ _ _ => rfl) valued

/-- The operands of a sum that has a value have values. -/
theorem Evaluates.of_sumOf
    {x : Expr}
    {xs : List Expr}
    (evaluates : (Expr.sum (x :: xs)).Evaluates settings) :
    ∀ y ∈ x :: xs, y.Evaluates settings := by
  cases xs with
  | nil => exact List.forall_mem_singleton.mpr evaluates
  | cons y ys =>
      obtain ⟨u, valued⟩ := evaluates
      change value.addAll settings .zero (x :: y :: ys) = .ok u at valued
      exact evaluates_of_accumulated Value.add _ (fun _ _ _ => rfl) valued

/-- The operands of a chain of terms that has a value have values. -/
theorem Evaluates.of_sumTree
    {x : Expr}
    {links : List (Bool × Expr)}
    (evaluates : (sumTree x links).Evaluates settings) :
    ∀ y ∈ x :: links.map Prod.snd, y.Evaluates settings := by
  rw [sumTree] at evaluates
  obtain ⟨first, others⟩ := List.forall_mem_cons.mp evaluates.of_sumOf
  refine List.forall_mem_cons.mpr ⟨first, List.forall_mem_map.mpr ?_⟩
  rintro ⟨subtracted, y⟩ member
  have term := List.forall_mem_map.mp others _ member
  cases subtracted with
  | false => exact term
  | true =>
      obtain ⟨v, negated⟩ := term
      obtain ⟨w, valued, -⟩ := bind_eq_ok_iff.mp negated
      exact ⟨w, valued⟩

/-- The operands of a chain of factors that has a value have values. -/
theorem Evaluates.of_productTree
    {x : Expr}
    {links : List (Bool × Expr)}
    (evaluates : (productTree x links).Evaluates settings) :
    ∀ y ∈ x :: links.map Prod.snd, y.Evaluates settings := by
  have gathered : (∀ y ∈ x :: operandsWith false links, y.Evaluates settings) ∧
      ∀ y ∈ operandsWith true links, y.Evaluates settings := by
    rw [productTree_eq] at evaluates
    cases dividing : operandsWith true links with
    | nil =>
        rw [dividing] at evaluates
        exact ⟨evaluates.of_productOf, by simp⟩
    | cons z zs =>
        rw [dividing] at evaluates
        obtain ⟨u, valued⟩ := evaluates
        dsimp only at valued
        rw [value] at valued
        obtain ⟨left, numerator, valued⟩ := bind_eq_ok_iff.mp valued
        obtain ⟨right, denominator, -⟩ := bind_eq_ok_iff.mp valued
        exact ⟨of_productOf ⟨left, numerator⟩, of_productOf ⟨right, denominator⟩⟩
  obtain ⟨first, multiplied⟩ := List.forall_mem_cons.mp gathered.1
  refine List.forall_mem_cons.mpr ⟨first, List.forall_mem_map.mpr ?_⟩
  rintro ⟨divides, y⟩ member
  cases divides with
  | false => exact multiplied y (mem_operandsWith.mpr member)
  | true => exact gathered.2 y (mem_operandsWith.mpr member)

/-- Values combined one after another, as all operands have values, fail at a limit only. -/
theorem isLimit_of_accumulated
    {combine : Value → Value → Except Fault Value}
    (limits : ∀ {v w : Value} {fault : Fault}, combine v w = .error fault → fault.IsLimit)
    (all : Value → List Expr → Except Fault Value)
    (all_nil : ∀ total, all total [] = .ok total)
    (all_cons : ∀ total x xs, all total (x :: xs) =
      x.value settings >>= fun v => combine total v >>= fun next => all next xs)
    {xs : List Expr}
    (evaluate : ∀ x ∈ xs, x.Evaluates settings)
    {total : Value}
    (failed : all total xs = .error fault) :
    fault.IsLimit := by
  rcases operand_or_limit_of_accumulated limits all all_nil all_cons failed with
    ⟨x, member, operand⟩ | limit
  · obtain ⟨v, valued⟩ := evaluate x member
    rw [valued] at operand
    contradiction
  · exact limit

/-- A product of operands that have values fails at a limit only. -/
theorem isLimit_of_product
    {x : Expr}
    {xs : List Expr}
    (evaluate : ∀ y ∈ x :: xs, y.Evaluates settings)
    (failed : (Expr.product (x :: xs)).value settings = .error fault) :
    fault.IsLimit := by
  cases xs with
  | nil =>
      obtain ⟨v, valued⟩ := evaluate x List.mem_cons_self
      rw [Expr.product, valued] at failed
      contradiction
  | cons y ys =>
      exact isLimit_of_accumulated Value.isLimit_of_mul (value.multiplyAll settings)
        (fun _ => rfl) (fun _ _ _ => rfl) evaluate failed

/-- A sum of operands that have values fails at a limit only. -/
theorem isLimit_of_sum
    {x : Expr}
    {xs : List Expr}
    (evaluate : ∀ y ∈ x :: xs, y.Evaluates settings)
    (failed : (Expr.sum (x :: xs)).value settings = .error fault) :
    fault.IsLimit := by
  cases xs with
  | nil =>
      obtain ⟨v, valued⟩ := evaluate x List.mem_cons_self
      rw [Expr.sum, valued] at failed
      contradiction
  | cons y ys =>
      exact isLimit_of_accumulated Value.isLimit_of_add (value.addAll settings)
        (fun _ => rfl) (fun _ _ _ => rfl) evaluate failed

/-- A chain of terms that have values fails at a limit only. -/
theorem isLimit_of_sumTree
    {x : Expr}
    {links : List (Bool × Expr)}
    (evaluate : ∀ y ∈ x :: links.map Prod.snd, y.Evaluates settings)
    (failed : (sumTree x links).value settings = .error fault) :
    fault.IsLimit := by
  rw [sumTree] at failed
  refine isLimit_of_sum ?_ failed
  obtain ⟨first, others⟩ := List.forall_mem_cons.mp evaluate
  refine List.forall_mem_cons.mpr ⟨first, List.forall_mem_map.mpr ?_⟩
  rintro ⟨subtracted, y⟩ member
  obtain ⟨v, valued⟩ := others y (List.mem_map_of_mem member)
  cases subtracted with
  | false => exact ⟨v, valued⟩
  | true =>
      have negated : (unary .negate y).value settings = .ok v.neg := by
        rw [value, valued]
        rfl
      exact ⟨v.neg, negated⟩

/-- A chain of factors that have values fails at a limit, or because a divisor is zero. -/
theorem zero_or_limit_of_productTree
    {x : Expr}
    {links : List (Bool × Expr)}
    (evaluate : ∀ y ∈ x :: links.map Prod.snd, y.Evaluates settings)
    (failed : (productTree x links).value settings = .error fault) :
    (fault = .inEvaluation .divisionByZero ∧
        ∃ divisor v, (true, divisor) ∈ links ∧ divisor.value settings = .ok v ∧ v.real = 0) ∨
      fault.IsLimit := by
  obtain ⟨first, others⟩ := List.forall_mem_cons.mp evaluate
  have evaluateWith (flag : Bool) : ∀ y ∈ operandsWith flag links, y.Evaluates settings :=
    fun y member => others y (List.mem_map.mpr ⟨_, mem_operandsWith.mp member, rfl⟩)
  have evaluateNumerator := List.forall_mem_cons.mpr ⟨first, evaluateWith false⟩
  rw [productTree_eq] at failed
  cases dividing : operandsWith true links with
  | nil =>
      rw [dividing] at failed
      exact .inr (isLimit_of_product evaluateNumerator failed)
  | cons z zs =>
      rw [dividing] at failed
      dsimp only at failed
      rw [value] at failed
      have evaluateDivisors := evaluateWith true
      rw [dividing] at evaluateDivisors
      rcases bind_eq_error_iff.mp failed with numerator | ⟨left, valuedLeft, failed⟩
      · exact .inr (isLimit_of_product evaluateNumerator numerator)
      rcases bind_eq_error_iff.mp failed with denominator | ⟨right, valuedRight, divided⟩
      · exact .inr (isLimit_of_product evaluateDivisors denominator)
      obtain ⟨normal, number⟩ := isSound settings _ right valuedRight
      rcases normal.div_eq_error divided with ⟨zero, rfl⟩ | limit
      · refine .inl ⟨rfl, ?_⟩
        rw [meaningWith_productOf, Option.map_eq_some_iff] at number
        obtain ⟨numbers, meanings, product⟩ := number
        rw [zero, prod_eq_zero_iff_of_meanings meanings] at product
        obtain ⟨divisor, member, meaningZero⟩ := product
        obtain ⟨v, valued⟩ := evaluateDivisors divisor member
        refine ⟨divisor, v, mem_operandsWith.mp (dividing ▸ member), valued, ?_⟩
        rw [(isSound settings divisor v valued).2] at meaningZero
        exact Option.some.inj meaningZero
      · exact .inr limit

end Expr

/-! ## Texts of chains -/

namespace Grammar

/-- A text spells some tokens, whatever blanks and typographic symbols it has. -/
def Spells (text : String) (tokens : List Token) : Prop :=
  ∃ characters, Token.normalize text.toList = .ok characters ∧
    Token.tokenize characters = .ok tokens

/-- Two texts with a symbol between them. -/
theorem Spells.join
    {left right : String}
    {tokens tokens' : List Token}
    {token : Token}
    (symbol : token.isRun = false)
    (spellsLeft : Spells left tokens)
    (spellsRight : Spells right tokens') :
    Spells (left ++ (String.ofList token.lexeme ++ right)) (tokens ++ token :: tokens') := by
  obtain ⟨charactersLeft, normalLeft, cutLeft⟩ := spellsLeft
  obtain ⟨charactersRight, normalRight, cutRight⟩ := spellsRight
  have normal : Token.normalize token.lexeme = .ok token.lexeme := by
    obtain ⟨c, lexeme, _, found⟩ := Token.exists_lexeme_of_isRun_eq_false symbol
    rw [lexeme]
    exact Token.normalize_of_inAlphabet (by simp [Token.inAlphabet, found])
  refine ⟨charactersLeft ++ (token.lexeme ++ charactersRight), ?_,
    Token.tokenize_append_of_symbol symbol cutLeft cutRight⟩
  rw [String.toList_append, String.toList_append, String.toList_ofList]
  exact Token.normalize_append normalLeft (Token.normalize_append normal normalRight)

/-- A text that spells a phrase of a category and does not nest too deep. -/
structure Phrase (category : Category) where
  text : String
  derivation : Derivation category
  spells : Spells text derivation.tokens
  nesting_le : derivation.nesting ≤ 256

/-- What a phrase stands for. -/
def Phrase.meaning {category : Category} (phrase : Phrase category) : category.Meaning :=
  phrase.derivation.meaning

/-- A run of digits as an operand. -/
def Phrase.ofRun
    (atStart : Bool)
    (run : List Char)
    (proper : (Token.digits run).IsProper) :
    Phrase (.power atStart) where
  text := String.ofList run
  derivation := .base (.unsigned (.postfixed (.literal (.integer run)) 0))
  spells := by
    refine ⟨run, ?_, ?_⟩
    · rw [String.toList_ofList]
      exact Token.normalize_of_inAlphabet fun c member =>
        Token.inAlphabet_of_mem_lexeme proper member
    · have cut := Token.tokenize_append_of_digits proper
        (show Token.tokenize [] = .ok [] from rfl) (by simp)
      rwa [List.append_nil] at cut
  nesting_le := Nat.zero_le _

section

variable {category : Category}

/-- The text of the links of a chain, each operand behind its operator. -/
def linksText (operator : Bool → Token) : List (Bool × Phrase category) → String
  | [] => ""
  | (flag, phrase) :: links =>
      String.ofList (operator flag).lexeme ++ (phrase.text ++ linksText operator links)

/-- The tokens of the links of a chain. -/
def linksTokens (operator : Bool → Token) (links : List (Bool × Phrase category)) :
    List Token :=
  links.flatMap fun (flag, phrase) => operator flag :: phrase.derivation.tokens

/-- What the links of a chain stand for. -/
def linksMeaning (links : List (Bool × Phrase category)) : List (Bool × category.Meaning) :=
  links.map fun (flag, phrase) => (flag, phrase.meaning)

/-- The text of a chain spells its operands with the operators between them. -/
theorem Spells.chain
    (operator : Bool → Token)
    (symbols : ∀ flag, (operator flag).isRun = false)
    {text : String}
    {tokens : List Token}
    (spells : Spells text tokens)
    (links : List (Bool × Phrase category)) :
    Spells (text ++ linksText operator links) (tokens ++ linksTokens operator links) := by
  induction links generalizing text tokens with
  | nil => simpa [linksText, linksTokens] using spells
  | cons link links inductionHypothesis =>
      obtain ⟨flag, phrase⟩ := link
      have longer := inductionHypothesis (spells.join (symbols flag) phrase.spells)
      simpa [linksText, linksTokens, String.append_assoc] using longer

/-- The rule for the factors behind the first one, applied to the links of a chain. -/
def factors : List (Bool × Phrase (.power false)) → Derivation .factors
  | [] => .noFactors
  | (divides, phrase) :: links => .factor divides phrase.derivation (factors links)

/-- The rule for the terms behind the first one, applied to the links of a chain. -/
def terms : List (Bool × Phrase (.product false)) → Derivation .terms
  | [] => .noTerms
  | (subtracted, phrase) :: links => .term subtracted phrase.derivation (terms links)

theorem factors_spec (links : List (Bool × Phrase (.power false))) :
    (factors links).tokens = linksTokens factorOperator links ∧
      (factors links).meaning = linksMeaning links ∧ (factors links).nesting ≤ 256 := by
  induction links with
  | nil => exact ⟨rfl, rfl, Nat.zero_le _⟩
  | cons link links inductionHypothesis =>
      obtain ⟨tokens, meaning, nesting⟩ := inductionHypothesis
      refine ⟨?_, ?_, max_le link.2.nesting_le nesting⟩
      · simp [factors, Derivation.tokens, tokens, linksTokens]
      · simp [factors, Derivation.meaning, meaning, linksMeaning, Phrase.meaning]

theorem terms_spec (links : List (Bool × Phrase (.product false))) :
    (terms links).tokens = linksTokens termOperator links ∧
      (terms links).meaning = linksMeaning links ∧ (terms links).nesting ≤ 256 := by
  induction links with
  | nil => exact ⟨rfl, rfl, Nat.zero_le _⟩
  | cons link links inductionHypothesis =>
      obtain ⟨tokens, meaning, nesting⟩ := inductionHypothesis
      refine ⟨?_, ?_, max_le link.2.nesting_le nesting⟩
      · simp [terms, Derivation.tokens, tokens, linksTokens]
      · simp [terms, Derivation.meaning, meaning, linksMeaning, Phrase.meaning]

end

/-- A chain of factors is read as the quotient of two products. -/
theorem Phrase.read_factors
    (first : Phrase (.power true))
    (links : List (Bool × Phrase (.power false))) :
    Expr.read (first.text ++ linksText factorOperator links) =
      .ok (productTree first.meaning (linksMeaning links)) := by
  obtain ⟨tokens, meaning, nesting⟩ := factors_spec links
  obtain ⟨characters, normal, cut⟩ :=
    first.spells.chain factorOperator (by decide) links
  rw [← tokens] at cut
  rw [← meaning]
  refine @Expr.read_of_tokenize _ _
    (.sum (.product first.derivation (factors links)) .noTerms) normal ?_
    (max_le (max_le first.nesting_le nesting) (Nat.zero_le _))
  rw [cut, Derivation.tokens, Derivation.tokens, Derivation.tokens, List.append_nil]

/-- A chain of terms is read as one sum. -/
theorem Phrase.read_terms
    (first : Phrase (.product true))
    (links : List (Bool × Phrase (.product false))) :
    Expr.read (first.text ++ linksText termOperator links) =
      .ok (sumTree first.meaning (linksMeaning links)) := by
  obtain ⟨tokens, meaning, nesting⟩ := terms_spec links
  obtain ⟨characters, normal, cut⟩ :=
    first.spells.chain termOperator (by decide) links
  rw [← tokens] at cut
  rw [← meaning]
  exact @Expr.read_of_tokenize _ _ (.sum first.derivation (terms links)) normal cut
    (max_le first.nesting_le nesting)

/-- Whatever stands in the middle of a group may stand at its start. -/
theorem Derivation.exists_atStart_signed (operand : Derivation (.signed false)) :
    ∃ opened : Derivation (.signed true), opened.tokens = operand.tokens ∧
      opened.meaning = operand.meaning ∧ opened.nesting = operand.nesting := by
  cases operand with
  | triangular operand => exact ⟨.triangular operand, rfl, rfl, rfl⟩
  | root operand => exact ⟨.root operand, rfl, rfl, rfl⟩
  | unsigned operand =>
      cases operand with
      | postfixed operand factorials =>
          cases operand with
          | group inner => exact ⟨.unsigned (.postfixed (.group inner) factorials), rfl, rfl, rfl⟩
          | literal written =>
              exact ⟨.unsigned (.postfixed (.literal written) factorials), rfl, rfl, rfl⟩

theorem Derivation.exists_atStart_power (operand : Derivation (.power false)) :
    ∃ opened : Derivation (.power true), opened.tokens = operand.tokens ∧
      opened.meaning = operand.meaning ∧ opened.nesting = operand.nesting := by
  cases operand with
  | base operand =>
      obtain ⟨opened, tokens, meaning, nesting⟩ := operand.exists_atStart_signed
      exact ⟨.base opened, tokens, meaning, nesting⟩
  | raised operand exponent =>
      obtain ⟨opened, tokens, meaning, nesting⟩ := operand.exists_atStart_signed
      refine ⟨.raised opened exponent, ?_, ?_, ?_⟩
      · rw [Derivation.tokens, tokens, Derivation.tokens]
      · rw [Derivation.meaning, meaning, Derivation.meaning]
      · rw [Derivation.nesting, nesting, Derivation.nesting]

theorem Derivation.exists_atStart_product (operand : Derivation (.product false)) :
    ∃ opened : Derivation (.product true), opened.tokens = operand.tokens ∧
      opened.meaning = operand.meaning ∧ opened.nesting = operand.nesting := by
  cases operand with
  | product first rest =>
      obtain ⟨opened, tokens, meaning, nesting⟩ := first.exists_atStart_power
      refine ⟨.product opened rest, ?_, ?_, ?_⟩
      · rw [Derivation.tokens, tokens, Derivation.tokens]
      · rw [Derivation.meaning, meaning, Derivation.meaning]
      · rw [Derivation.nesting, nesting, Derivation.nesting]

theorem Phrase.read_alone_power (phrase : Phrase (.power true)) :
    Expr.read phrase.text = .ok phrase.meaning := by
  have alone := phrase.read_factors []
  rwa [linksText, String.append_empty] at alone

theorem Phrase.read_alone_product (phrase : Phrase (.product true)) :
    Expr.read phrase.text = .ok phrase.meaning := by
  have alone := phrase.read_terms []
  rwa [linksText, String.append_empty] at alone

/-- A factor is a complete expression. -/
theorem Phrase.read_power (phrase : Phrase (.power false)) :
    Expr.read phrase.text = .ok phrase.meaning := by
  obtain ⟨opened, tokens, meaning, nesting⟩ := phrase.derivation.exists_atStart_power
  have alone := Phrase.read_alone_power
    ⟨phrase.text, opened, tokens ▸ phrase.spells, nesting ▸ phrase.nesting_le⟩
  exact alone.trans (congrArg Except.ok meaning)

/-- A term is a complete expression. -/
theorem Phrase.read_product (phrase : Phrase (.product false)) :
    Expr.read phrase.text = .ok phrase.meaning := by
  obtain ⟨opened, tokens, meaning, nesting⟩ := phrase.derivation.exists_atStart_product
  have alone := Phrase.read_alone_product
    ⟨phrase.text, opened, tokens ▸ phrase.spells, nesting ▸ phrase.nesting_le⟩
  exact alone.trans (congrArg Except.ok meaning)

theorem mem_linksMeaning
    {category : Category}
    {links : List (Bool × Phrase category)}
    {flag : Bool}
    {x : category.Meaning} :
    (flag, x) ∈ linksMeaning links ↔ ∃ link ∈ links, link.1 = flag ∧ link.2.meaning = x := by
  simp [linksMeaning]

theorem forall_mem_linksMeaning
    {category : Category}
    (links : List (Bool × Phrase category))
    (property : category.Meaning → Prop)
    (holds : ∀ link ∈ links, property link.2.meaning) :
    ∀ x ∈ (linksMeaning links).map Prod.snd, property x := by
  rintro x member
  obtain ⟨⟨flag, _⟩, among, rfl⟩ := List.mem_map.mp member
  obtain ⟨link, within, -, rfl⟩ := mem_linksMeaning.mp among
  exact holds link within

/-- Chains are worked off from left to right. Operands that are complete on their own, with
multiplications and divisions between them, are read as one tree. If it has a value, that is
the number of the chain, worked off from left to right with the values of the operands. If all
operands have values, the tree is a division by zero only where a divisor is zero; and where
one is, the tree has no value. The same goes for additions and subtractions, which never
divide by zero. -/
theorem Phrase.value_chain (settings : Settings) :
    (∀ (first : Phrase (.power true)) (links : List (Bool × Phrase (.power false))),
      Expr.read first.text = .ok first.meaning ∧
      (∀ link ∈ links, Expr.read link.2.text = .ok link.2.meaning) ∧
      ∃ tree, tree = productTree first.meaning (linksMeaning links) ∧
        Expr.read (first.text ++ linksText factorOperator links) = .ok tree ∧
        (∀ v, tree.value settings = .ok v →
          leftToRight (Expr.real? settings) Meaning.factor? first.meaning (linksMeaning links) =
            some v.real) ∧
        (first.meaning.Evaluates settings → (∀ link ∈ links, link.2.meaning.Evaluates settings) →
          tree.value settings = .error (.inEvaluation .divisionByZero) →
            ∃ link ∈ links, link.1 = true ∧
              ∃ v, link.2.meaning.value settings = .ok v ∧ v.real = 0) ∧
        (∀ link ∈ links, link.1 = true →
          ∀ v, link.2.meaning.value settings = .ok v → v.real = 0 → ¬tree.Evaluates settings)) ∧
    ∀ (first : Phrase (.product true)) (links : List (Bool × Phrase (.product false))),
      Expr.read first.text = .ok first.meaning ∧
      (∀ link ∈ links, Expr.read link.2.text = .ok link.2.meaning) ∧
      ∃ tree, tree = sumTree first.meaning (linksMeaning links) ∧
        Expr.read (first.text ++ linksText termOperator links) = .ok tree ∧
        (∀ v, tree.value settings = .ok v →
          leftToRight (Expr.real? settings) Meaning.term? first.meaning (linksMeaning links) =
            some v.real) ∧
        (first.meaning.Evaluates settings → (∀ link ∈ links, link.2.meaning.Evaluates settings) →
          ∀ fault, tree.value settings = .error fault → fault.IsLimit) := by
  constructor
  · intro first links
    refine ⟨first.read_alone_power, fun link _ => link.2.read_power, _,
      rfl, first.read_factors links, fun v valued => ?_, fun evaluates others failed => ?_,
      fun link member divides v valued zero evaluates => ?_⟩
    · have operands := Expr.Evaluates.of_productTree ⟨v, valued⟩
      rw [← leftToRight_congr fun x member => (operands x member).meaningWith_eq_real?,
        ← meaningWith_productTree, (Expr.isSound settings _ v valued).2]
    · have operands := List.forall_mem_cons.mpr
        ⟨evaluates, forall_mem_linksMeaning links (Expr.Evaluates settings) others⟩
      rcases Expr.zero_or_limit_of_productTree operands failed with
        ⟨_, divisor, v, among, valued, zero⟩ | limit
      · obtain ⟨link, member, divides, rfl⟩ := mem_linksMeaning.mp among
        exact ⟨link, member, divides, v, valued, zero⟩
      · contradiction
    · obtain ⟨u, valuedTree⟩ := evaluates
      have number := (Expr.isSound settings _ u valuedTree).2
      have divisor := (Expr.isSound settings _ v valued).2
      rw [meaningWith_productTree, leftToRight_eq_none_of_zero first.meaning
        (mem_linksMeaning.mpr ⟨link, member, divides, rfl⟩) (zero ▸ divisor)] at number
      contradiction
  · intro first links
    refine ⟨first.read_alone_product, fun link _ => link.2.read_product, _,
      rfl, first.read_terms links, fun v valued => ?_, fun evaluates others fault failed => ?_⟩
    · have operands := Expr.Evaluates.of_sumTree ⟨v, valued⟩
      rw [← leftToRight_congr fun x member => (operands x member).meaningWith_eq_real?,
        ← meaningWith_sumTree, (Expr.isSound settings _ v valued).2]
    · have operands := List.forall_mem_cons.mpr
        ⟨evaluates, forall_mem_linksMeaning links (Expr.Evaluates settings) others⟩
      exact Expr.isLimit_of_sumTree operands failed

/-- A quotient that is multiplied on is no quotient by the product. -/
theorem value_eightByFourTimesThree :
    ∃ tree, Expr.read "8/4*3" = .ok tree ∧ tree.value .standard = .ok (.ofInt 6) ∧
      leftToRight (Expr.real? .standard) Meaning.factor? (.integer 8)
        [(true, .integer 4), (false, .integer 3)] = some (Value.ofInt 6).real := by
  obtain ⟨-, -, tree, tree_eq, read, value, -⟩ :=
    (Phrase.value_chain .standard).1 (.ofRun true ['8'] ⟨by simp, rfl⟩)
      [(true, .ofRun false ['4'] ⟨by simp, rfl⟩), (false, .ofRun false ['3'] ⟨by simp, rfl⟩)]
  have form : tree =
      .node .quotient [.node .product [.integer 8, .integer 3], .integer 4] := by
    rw [tree_eq]
    rfl
  have six : tree.value .standard = .ok (.ofInt 6) := by
    rw [form]
    cbv
  exact ⟨tree, read, six, value _ six⟩

end Grammar
end FourFours
