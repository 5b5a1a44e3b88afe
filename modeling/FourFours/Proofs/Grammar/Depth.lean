import FourFours.Proofs.Grammar.Decision
import FourFours.Proofs.Grammar.Paths
import FourFours.Proofs.Outcome

/-!
# How deep the trees are that are read

A limit on the nesting of a written expression limits the height of its tree, and with it
the recursion of everything that descends into the tree. The two are not the same, though.
The factorials of a chain give their levels back when the chain ends. A group in brackets
with factorials of its own may hence stand in front of a chain, and the tree has the levels
of both. Where no bracket has two factorials behind it the brackets pay for this, and a path
has no more levels than there may be. Elsewhere it may have as many as chains of 1 to 256
factorials have together, but never more.
-/

namespace FourFours
namespace Expr

open Grammar

/-! ## Readers -/

section Readers

variable {counted : Step → Bool} {bound : Nat}

/-- The trees that a reader returns fit a bound, if chains behind brackets are paid for. What
it leaves over is the end of its tokens, so there they are paid for, too. -/
def Keeps (tariff : Tariff counted) (bound : Nat) (reader : Reader) : Prop :=
  ∀ {atStart tokens x rest}, tariff.Covers tokens → reader atStart tokens = .ok (x, rest) →
    x.Fits counted bound ∧ rest <:+ tokens

theorem fits_of_readFraction
    {written tokens rest : List Token}
    {whole : Option Int}
    {x : Expr}
    (read : readFraction written whole tokens = .ok (x, rest)) :
    x.Fits counted bound ∧ rest <:+ tokens := by
  unfold readFraction at read
  split at read
  · cases read
    exact ⟨fits_decimal _, List.suffix_cons _ _⟩
  · cases read
    exact ⟨fits_decimal _, List.suffix_append [_, _, _] _⟩
  · contradiction

theorem fits_of_readLiteral
    {tokens rest : List Token}
    {x : Expr}
    (read : readLiteral tokens = .ok (x, rest)) :
    x.Fits counted bound ∧ rest <:+ tokens := by
  unfold readLiteral at read
  split at read
  · obtain ⟨whole, -, read⟩ := bind_eq_ok_iff.mp read
    obtain ⟨fits, left⟩ := fits_of_readFraction read
    exact ⟨fits, left.trans (List.suffix_append [_, _] _)⟩
  · obtain ⟨n, -, read⟩ := bind_eq_ok_iff.mp read
    cases read
    exact ⟨fits_integer n, List.suffix_cons _ _⟩
  · obtain ⟨fits, left⟩ := fits_of_readFraction read
    exact ⟨fits, left.trans (List.suffix_cons _ _)⟩
  · contradiction

theorem Fits.factorialTree {x : Expr} (fits : x.Fits counted bound) (count : Nat) :
    (factorialTree count x).Fits counted
      (bound + count * (counted (.unary .factorial)).toNat) := by
  induction count generalizing x bound with
  | zero => exact fits.mono (Nat.le_add_right _ _)
  | succ count inductionHypothesis =>
      rw [Nat.succ_mul, Nat.add_comm (count * _), ← Nat.add_assoc]
      exact inductionHypothesis (fits.unary .factorial)

/-- The factorials that are read are those in front, as many as levels are left. -/
theorem exists_of_readFactorials
    {levels : Nat}
    {tokens rest : List Token}
    {x y : Expr}
    (read : readFactorials levels x tokens = .ok (y, rest)) :
    ∃ count ≤ levels, List.replicate count .factorial ++ rest = tokens ∧
      Grammar.factorialTree count x = y := by
  have yields := @yields_readFactorials levels tokens x
  rwa [read] at yields

variable {tariff : Tariff counted}

theorem fits_of_readLinks
    {isLink : Token → Bool}
    {reader : Reader}
    (keeps : Keeps tariff bound reader)
    {count : Nat}
    {tokens rest : List Token}
    (covers : tariff.Covers tokens)
    {links : List (Token × Expr)}
    (read : readLinks isLink reader count tokens = .ok (links, rest)) :
    (∀ link ∈ links, link.2.Fits counted bound) ∧ rest <:+ tokens := by
  induction count generalizing tokens links rest with
  | zero =>
      cases read
      exact ⟨nofun, List.suffix_rfl⟩
  | succ count inductionHypothesis =>
      cases tokens with
      | nil =>
          cases read
          exact ⟨nofun, List.suffix_rfl⟩
      | cons operator tokens =>
          rw [readLinks] at read
          split at read
          · obtain ⟨-, -, read⟩ := bind_eq_ok_iff.mp read
            obtain ⟨⟨x, behind⟩, readOperand, read⟩ := bind_eq_ok_iff.mp read
            obtain ⟨⟨links', rest'⟩, readRest, read⟩ := bind_eq_ok_iff.mp read
            cases read
            have covers := covers.suffix (List.suffix_cons operator tokens)
            obtain ⟨fits, left⟩ := keeps covers readOperand
            obtain ⟨linksFit, left'⟩ := inductionHypothesis (covers.suffix left) readRest
            exact ⟨List.forall_mem_cons.mpr ⟨fits, linksFit⟩,
              (left'.trans left).trans (List.suffix_cons _ _)⟩
          · cases read
            exact ⟨nofun, List.suffix_rfl⟩

variable (tariff) in
/-- The readers of a tier keep within the budget of its levels. -/
structure KeepsTier (levels : Nat) : Prop where
  sum : Keeps tariff (tariff.budget levels + 5 * tariff.flat)
    (readSum levels (lowerTier levels))
  power : Keeps tariff (tariff.budget levels + tariff.flat)
    (readPower levels (lowerTier levels))
  signed : Keeps tariff (tariff.budget levels) (readSigned levels (lowerTier levels))

variable {levels : Nat} (below : ∀ left, levels = left + 1 → KeepsTier tariff left)
  {atStart : Bool} {tokens rest : List Token} {x : Expr}

/-- What is read one level deeper has been read with one level less. -/
theorem exists_of_deeper
    {select : Tier → Reader}
    (read : deeper (lowerTier levels) select atStart tokens = .ok (x, rest)) :
    ∃ left, levels = left + 1 ∧ select (tier left) atStart tokens = .ok (x, rest) := by
  cases levels with
  | zero => contradiction
  | succ left => exact ⟨left, rfl, read⟩

include below

theorem fits_of_readGroup
    (covers : tariff.Covers tokens)
    (read : readGroup (lowerTier levels) tokens = .ok (x, rest)) :
    ∃ left, levels = left + 1 ∧ x.Fits counted (tariff.budget left + 5 * tariff.flat) ∧
      .closing :: rest <:+ tokens := by
  unfold readGroup at read
  split at read
  · contradiction
  · obtain ⟨⟨y, behind⟩, readDeeper, returned⟩ := bind_eq_ok_iff.mp read
    obtain ⟨left, rfl, readInner⟩ := exists_of_deeper readDeeper
    rw [tier_eq] at readInner
    obtain ⟨fits, leftOver⟩ := (below left rfl).sum covers readInner
    split at returned
    · rename_i equal
      cases equal
      cases returned
      exact ⟨left, rfl, fits, leftOver⟩
    · contradiction
    · contradiction

/-- An atom leaves room for the factorials that stand behind it. -/
theorem fits_of_readAtom
    (covers : tariff.Covers tokens)
    (read : readAtom (lowerTier levels) atStart tokens = .ok (x, rest)) :
    rest <:+ tokens ∧ ∃ inner, x.Fits counted inner ∧
      ∀ count ≤ levels, .replicate count .factorial <+: rest →
        inner + count * (counted (.unary .factorial)).toNat ≤ tariff.budget levels := by
  have literal (front : List Token) {tokens : List Token}
      (read : readLiteral tokens = .ok (x, rest)) :
      rest <:+ front ++ tokens ∧ ∃ inner, x.Fits counted inner ∧
        ∀ count ≤ levels, .replicate count .factorial <+: rest →
          inner + count * (counted (.unary .factorial)).toNat ≤ tariff.budget levels := by
    obtain ⟨fits, left⟩ := fits_of_readLiteral read
    refine ⟨left.trans (List.suffix_append _ _), 0, fits, fun count within _ => ?_⟩
    rw [Nat.zero_add]
    exact tariff.chain_le_budget within
  unfold readAtom at read
  split at read
  · contradiction
  · -- A group is read with one level less, but the chain behind it may use all levels again.
    obtain ⟨left, rfl, fits, leftOver⟩ :=
      fits_of_readGroup below (covers.suffix (List.suffix_cons _ _)) read
    have leftOver := leftOver.trans (List.suffix_cons .opening _)
    refine ⟨(List.suffix_cons _ _).trans leftOver, _, fits, fun count within front => ?_⟩
    have stands := List.IsPrefix.isInfix ((List.prefix_cons_inj .closing).mpr front)
    exact Nat.add_le_add_left (covers _ count within (stands.trans leftOver.isInfix)) _
  · exact literal [] read
  · exact literal [] read
  · exact literal [.plus] read
  · exact literal [.plus] read
  all_goals contradiction

theorem keeps_readPostfixed :
    Keeps tariff (tariff.budget levels) (readPostfixed levels (lowerTier levels)) := by
  intro atStart tokens x rest covers read
  obtain ⟨⟨atom, behind⟩, readAtom, read⟩ := bind_eq_ok_iff.mp read
  obtain ⟨left, inner, fits, room⟩ := fits_of_readAtom below covers readAtom
  obtain ⟨count, within, equal, rfl⟩ := exists_of_readFactorials read
  subst equal
  exact ⟨(fits.factorialTree count).mono (room count within (List.prefix_append _ _)),
    (List.suffix_append _ _).trans left⟩

/-- A sign in front of an operand takes one of the levels left. -/
theorem fits_of_sign
    {sign : Token}
    {cause : SyntaxFault}
    (op : Unary)
    (covers : tariff.Covers (sign :: tokens))
    (read : (requireOperand cause tokens >>= fun _ =>
      deeper (lowerTier levels) Tier.signed false tokens >>= fun (x, rest) =>
        pure (.unary op x, rest)) = .ok (x, rest)) :
    x.Fits counted (tariff.budget levels) ∧ rest <:+ sign :: tokens := by
  obtain ⟨-, -, read⟩ := bind_eq_ok_iff.mp read
  obtain ⟨⟨operand, behind⟩, readDeeper, returned⟩ := bind_eq_ok_iff.mp read
  obtain ⟨left, rfl, readOperand⟩ := exists_of_deeper readDeeper
  rw [tier_eq] at readOperand
  obtain ⟨fits, leftOver⟩ :=
    (below left rfl).signed (covers.suffix (List.suffix_cons _ _)) readOperand
  cases returned
  refine ⟨(fits.unary op).mono ?_, leftOver.trans (List.suffix_cons _ _)⟩
  have le := tariff.unary_le op left
  rw [Tariff.budget]
  omega

theorem keeps_readSigned :
    Keeps tariff (tariff.budget levels) (readSigned levels (lowerTier levels)) := by
  intro atStart tokens x rest covers read
  unfold readSigned at read
  split at read
  · exact fits_of_sign below .negate covers read
  · exact fits_of_sign below .triangular covers read
  · exact fits_of_sign below .root covers read
  · exact keeps_readPostfixed below covers read

theorem keeps_readPower :
    Keeps tariff (tariff.budget levels + tariff.flat) (readPower levels (lowerTier levels)) := by
  intro atStart tokens x rest covers read
  obtain ⟨⟨base, behind⟩, readBase, read⟩ := bind_eq_ok_iff.mp read
  obtain ⟨baseFits, leftByBase⟩ := keeps_readSigned below covers readBase
  split at read
  · rename_i base' tokens' equal
    cases equal
    obtain ⟨-, -, read⟩ := bind_eq_ok_iff.mp read
    obtain ⟨⟨exponent, rest'⟩, readDeeper, returned⟩ := bind_eq_ok_iff.mp read
    obtain ⟨left, rfl, readExponent⟩ := exists_of_deeper readDeeper
    rw [tier_eq] at readExponent
    have leftByBase := (List.suffix_cons _ _).trans leftByBase
    obtain ⟨exponentFits, leftOver⟩ :=
      (below left rfl).power (covers.suffix leftByBase) readExponent
    cases returned
    refine ⟨fits_node fun position y found => ?_, leftOver.trans leftByBase⟩
    match position, found with
    | 0, found =>
        cases found
        exact ⟨_, baseFits, Nat.add_le_add_left (tariff.flat_le _ rfl) _⟩
    | 1, found =>
        cases found
        refine ⟨_, exponentFits, ?_⟩
        have le := tariff.level_le (.operand .power 1) left rfl
        rw [Tariff.budget]
        omega
  · cases read
    exact ⟨baseFits.mono (Nat.le_add_right _ _), leftByBase⟩

theorem keeps_readProduct :
    Keeps tariff (tariff.budget levels + 3 * tariff.flat)
      (readProduct levels (lowerTier levels)) := by
  intro atStart tokens x rest covers read
  obtain ⟨⟨first, behind⟩, readFirst, read⟩ := bind_eq_ok_iff.mp read
  obtain ⟨⟨links, rest'⟩, readRest, read⟩ := bind_eq_ok_iff.mp read
  cases read
  obtain ⟨fits, left⟩ := keeps_readPower below covers readFirst
  obtain ⟨linksFit, left'⟩ :=
    fits_of_readLinks (keeps_readPower below) (covers.suffix left) readRest
  refine ⟨(fits_ofFactors tariff fits linksFit).mono ?_, left'.trans left⟩
  omega

theorem keeps_readSum :
    Keeps tariff (tariff.budget levels + 5 * tariff.flat)
      (readSum levels (lowerTier levels)) := by
  intro atStart tokens x rest covers read
  obtain ⟨⟨first, behind⟩, readFirst, read⟩ := bind_eq_ok_iff.mp read
  obtain ⟨⟨links, rest'⟩, readRest, read⟩ := bind_eq_ok_iff.mp read
  cases read
  obtain ⟨fits, left⟩ := keeps_readProduct below covers readFirst
  obtain ⟨linksFit, left'⟩ :=
    fits_of_readLinks (keeps_readProduct below) (covers.suffix left) readRest
  refine ⟨(fits_ofTerms tariff fits linksFit).mono ?_, left'.trans left⟩
  omega

end Readers

/-- At every level the readers keep within their budget. -/
theorem keepsTier {counted : Step → Bool} (tariff : Tariff counted) (levels : Nat) :
    KeepsTier tariff levels := by
  induction levels with
  | zero =>
      have below (left : Nat) (equal : 0 = left + 1) : KeepsTier tariff left := nomatch equal
      exact ⟨keeps_readSum below, keeps_readPower below, keeps_readSigned below⟩
  | succ levels inductionHypothesis =>
      have below (left : Nat) (equal : levels + 1 = left + 1) : KeepsTier tariff left := by
        cases equal
        exact inductionHypothesis
      exact ⟨keeps_readSum below, keeps_readPower below, keeps_readSigned below⟩

/-- The tree of an accepted token list keeps within the budget of all levels. -/
theorem fits_of_ofTokens
    {counted : Step → Bool}
    (tariff : Tariff counted)
    {tokens : List Token}
    (covers : tariff.Covers tokens)
    {x : Expr}
    (read : ofTokens tokens = .ok x) :
    x.Fits counted (tariff.budget depthLimit + 5 * tariff.flat) := by
  unfold ofTokens at read
  split at read
  · contradiction
  split at read
  · contradiction
  obtain ⟨⟨y, rest⟩, readSum, read⟩ := bind_eq_ok_iff.mp read
  rw [tier_eq] at readSum
  obtain ⟨fits, -⟩ := (keepsTier tariff depthLimit).sum covers readSum
  split at read
  · rename_i equal
    cases equal
    cases read
    exact fits
  · contradiction

/-! ## Chains of factorials -/

/-- Factorials behind an operand lengthen its paths. -/
theorem HasPath.factorialTree {x : Expr} {path : List Step} (leads : x.HasPath path)
    (count : Nat) :
    (factorialTree count x).HasPath (.replicate count (.unary .factorial) ++ path) := by
  induction count generalizing x path with
  | zero => exact leads
  | succ count inductionHypothesis =>
      rw [List.replicate_succ', List.append_assoc]
      exact inductionHypothesis (leads.unary .factorial)

theorem factorialTree_factorialTree (inner outer : Nat) (x : Expr) :
    factorialTree outer (factorialTree inner x) = factorialTree (inner + outer) x := by
  induction inner generalizing x with
  | zero => rw [Nat.zero_add]; rfl
  | succ inner inductionHypothesis =>
      rw [Nat.succ_add]
      exact inductionHypothesis _

/-- The sentence of an atom with a chain of factorials behind it. -/
def chain (operand : Derivation (.atom true)) (count : Nat) : Sentence :=
  .sum (.product (.base (.unsigned (.postfixed operand count))) .noFactors) .noTerms

/-- The atom `4`. -/
def four : Derivation (.atom true) :=
  .literal (.integer ['4'])

theorem tokens_chain (operand : Derivation (.atom true)) (count : Nat) :
    (chain operand count).tokens = operand.tokens ++ .replicate count .factorial := by
  simp [chain, Derivation.tokens]

theorem nesting_chain (operand : Derivation (.atom true)) (count : Nat) :
    (chain operand count).nesting = max operand.nesting count := by
  simp [chain, Derivation.nesting]

theorem allProper_four : AllProper four.tokens := by
  intro token member
  obtain rfl : token = .digits ['4'] := List.mem_singleton.mp member
  exact ⟨nofun, rfl⟩

theorem allProper_chain {operand : Derivation (.atom true)} (proper : AllProper operand.tokens)
    (count : Nat) :
    AllProper (chain operand count).tokens := by
  rw [tokens_chain]
  refine List.forall_mem_append.mpr ⟨proper, fun token member => ?_⟩
  rw [List.eq_of_mem_replicate member]
  trivial

theorem allProper_group {inner : Sentence} (proper : AllProper inner.tokens) :
    AllProper (Derivation.group inner : Derivation (.atom true)).tokens := by
  refine List.forall_mem_cons.mpr ⟨trivial, List.forall_mem_append.mpr ⟨proper, ?_⟩⟩
  exact List.forall_mem_singleton.mpr trivial

/-- A chain is read if it is not longer than the limit and its operand does not nest deeper. -/
theorem ofTokens_chain {operand : Derivation (.atom true)} (proper : AllProper operand.tokens)
    (count : Nat) :
    ofTokens (operand.tokens ++ .replicate count .factorial) =
      resultWithin depthLimit (max operand.nesting count)
        (factorialTree count operand.meaning) := by
  rw [← tokens_chain, ofTokens_tokens _ (allProper_chain proper count), nesting_chain]
  rfl

/-- A 4 behind which stand chains of one factorial, of two, and so on, each chain behind the
shorter ones in brackets: `((4!)!!)!!!`. -/
def chains : Nat → Sentence
  | 0 => chain four 0
  | levels + 1 => chain (.group (chains levels)) (levels + 1)

theorem nesting_chains (levels : Nat) : (chains levels).nesting = levels := by
  induction levels with
  | zero => rfl
  | succ levels inductionHypothesis =>
      rw [chains, nesting_chain, Derivation.nesting, inductionHypothesis, Nat.max_self]

theorem allProper_chains (levels : Nat) : AllProper (chains levels).tokens := by
  induction levels with
  | zero => exact allProper_chain allProper_four 0
  | succ levels inductionHypothesis =>
      exact allProper_chain (allProper_group inductionHypothesis) (levels + 1)

theorem ofTokens_chains :
    ofTokens (chains depthLimit).tokens = .ok (chains depthLimit).meaning := by
  rw [ofTokens_tokens _ (allProper_chains depthLimit), nesting_chains]
  exact if_pos (Nat.le_refl depthLimit)

/-- The chains together have as many levels as the budget has. -/
theorem exists_path_chains (levels : Nat) :
    ∃ path, HasPath (chains levels).meaning path ∧
      path.countP Step.isLevel = Tariff.levels.budget levels := by
  induction levels with
  | zero => exact ⟨[], .integer 4, rfl⟩
  | succ levels inductionHypothesis =>
      obtain ⟨path, leads, count⟩ := inductionHypothesis
      refine ⟨_, leads.factorialTree (levels + 1), ?_⟩
      have counted : (Step.unary .factorial).isLevel = true := rfl
      rw [List.countP_append, count, List.countP_replicate, if_pos counted, Nat.add_comm]
      rfl

theorem budget_limit : Tariff.levels.budget depthLimit = 32896 := by
  have doubled : 2 * Tariff.levels.budget depthLimit = 256 * 257 :=
    Tariff.two_mul_budget_levels depthLimit
  omega

/-- Some accepted tree has as many levels on a path as the budget allows. -/
theorem exists_path_of_ofTokens :
    ∃ tokens x path, ofTokens tokens = .ok x ∧ x.HasPath path ∧
      path.countP Step.isLevel = 32896 := by
  obtain ⟨path, leads, count⟩ := exists_path_chains depthLimit
  exact ⟨_, _, path, ofTokens_chains, leads, count.trans budget_limit⟩

section Paths

variable {tokens : List Token} {x : Expr} {path : List Step}

/-- Where brackets have at most so many factorials behind them, the levels on a path are at
most so many times the limit. -/
theorem countP_isLevel_le
    {most : Nat}
    (positive : 0 < most)
    (short : ¬.closing :: .replicate (most + 1) .factorial <:+: tokens)
    (read : ofTokens tokens = .ok x)
    (leads : x.HasPath path) :
    path.countP Step.isLevel ≤ depthLimit * most := by
  have fits := fits_of_ofTokens _ (Tariff.covers_shortChains positive short) read path leads
  rwa [Tariff.budget_shortChains] at fits

/-- On a path through an accepted tree there are at most 256 signs and exponents, and with
the factorials at most 256 levels, unless a bracket has two factorials behind it. Whatever
stands behind brackets, there are at most as many levels as chains of 1 to 256 factorials
have together, and no path is longer than 34181 steps. -/
theorem paths_of_ofTokens (read : ofTokens tokens = .ok x) (leads : x.HasPath path) :
    path.countP Step.isSign ≤ 256 ∧
    (¬[.closing, .factorial, .factorial] <:+: tokens → path.countP Step.isLevel ≤ 256) ∧
    path.countP Step.isLevel ≤ 32896 ∧
    path.length ≤ 34181 := by
  have signs := fits_of_ofTokens .signs (Tariff.covers_signs _) read path leads
  have levels := fits_of_ofTokens .levels (Tariff.covers_levels _) read path leads
  have steps := fits_of_ofTokens .steps (Tariff.covers_steps _) read path leads
  rw [Tariff.budget_signs] at signs
  rw [budget_limit] at levels
  rw [Tariff.budget_steps, budget_limit, List.countP_true] at steps
  exact ⟨signs, fun short => countP_isLevel_le Nat.one_pos short read leads, levels, steps⟩

end Paths

/-- The tokens of a 4 with as many factorials behind it as there are levels. -/
def longestChain : List Token :=
  .digits ['4'] :: .replicate 256 .factorial

/-- The bounds hold of the longest chain, and that of the levels is attained. -/
theorem paths_of_ofTokens_longestChain :
    ofTokens longestChain = .ok (factorialTree 256 (.integer 4)) ∧
    HasPath (Grammar.factorialTree 256 (.integer 4)) (.replicate 256 (.unary .factorial)) ∧
    ¬[.closing, .factorial, .factorial] <:+: longestChain ∧
    (List.replicate 256 (Step.unary .factorial)).countP Step.isSign ≤ 256 ∧
    (List.replicate 256 (Step.unary .factorial)).countP Step.isLevel ≤ 256 ∧
    (List.replicate 256 (Step.unary .factorial)).length ≤ 34181 := by
  have read : ofTokens longestChain = .ok (Grammar.factorialTree 256 (.integer 4)) := by
    refine (ofTokens_chain allProper_four 256).trans ?_
    rw [resultWithin, if_pos (by decide)]
    rfl
  have leads := (HasPath.integer 4).factorialTree 256
  rw [List.append_nil] at leads
  have bracketless : ¬[.closing, .factorial, .factorial] <:+: longestChain := by
    intro stands
    have member : Token.closing ∈ longestChain := stands.subset List.mem_cons_self
    rcases List.mem_cons.mp member with equal | member
    · cases equal
    · cases List.eq_of_mem_replicate member
  obtain ⟨signs, levels, -, steps⟩ := paths_of_ofTokens read leads
  exact ⟨read, leads, bracketless, signs, levels bracketless, steps⟩

/-- The tokens of `(4!)` with 256 factorials behind it. -/
def chainBehindGroup : List Token :=
  [.opening, .digits ['4'], .factorial, .closing] ++ .replicate 256 .factorial

theorem ofTokens_chainBehindGroup :
    ofTokens chainBehindGroup = .ok (factorialTree 257 (.integer 4)) := by
  have proper := allProper_group (allProper_chain allProper_four 1)
  have nesting : (Derivation.group (chain four 1) : Derivation (.atom true)).nesting = 2 := rfl
  refine (ofTokens_chain proper 256).trans ?_
  rw [nesting, resultWithin, if_pos (by decide)]
  exact congrArg Except.ok (factorialTree_factorialTree 1 256 (.integer 4))

/-- An accepted tree has a path with 257 levels. Written without the brackets, the same tree
is refused as too deep. -/
theorem accepted_though_too_deep :
    ofTokens chainBehindGroup = .ok (factorialTree 257 (.integer 4)) ∧
    HasPath (Grammar.factorialTree 257 (.integer 4)) (.replicate 257 (.unary .factorial)) ∧
    (List.replicate 257 (Step.unary .factorial)).countP Step.isLevel = 257 ∧
    ofTokens (.digits ['4'] :: .replicate 257 .factorial) = .error (.inSyntax .tooDeep) := by
  refine ⟨ofTokens_chainBehindGroup, ?_, ?_, ?_⟩
  · have leads := (HasPath.integer 4).factorialTree 257
    rwa [List.append_nil] at leads
  · have counted : (Step.unary .factorial).isLevel = true := rfl
    rw [List.countP_replicate, if_pos counted]
  · refine (ofTokens_chain allProper_four 257).trans ?_
    rw [resultWithin, if_neg (by decide), refuse]

end Expr
end FourFours
