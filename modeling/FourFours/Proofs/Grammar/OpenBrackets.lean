import FourFours.Proofs.Grammar.Complete
import FourFours.Proofs.Outcome

/-!
# Reading behind open brackets

A reader that starts behind some open brackets, all of which the tokens in front of it close,
leaves tokens that close them too: an operator takes away no bracket, a group takes away its own
pair, and so does a literal that repeats, although it looks at three tokens at once. Hence behind
an open bracket the tokens never run out. What is read there does not depend on what stands behind
the end of the list, and the faults of a reader that meets the end are never told.
-/

namespace FourFours
namespace Expr

theorem balanced_nil {opened : Nat} (closed : balanced opened [] = true) : opened = 0 := by
  simpa [balanced] using closed

/-- A token that is no bracket leaves as many brackets open. -/
theorem balanced_cons
    {token : Token}
    (noOpening : token ≠ .opening)
    (noClosing : token ≠ .closing)
    (opened : Nat)
    (rest : List Token) :
    balanced opened (token :: rest) = balanced opened rest := by
  cases token <;> first | contradiction | cases opened <;> rfl

/-! ## Readers that stay inside -/

/-- The faults of a reader that meets the end of the tokens. -/
def IsEndFault (fault : Fault) : Prop :=
  fault = .inSyntax .unmatchedBracket ∨ fault = .inSyntax .empty

section

variable {α β : Type}

/-- What is read, with more tokens behind those that are left. -/
def followedBy (more : List Token) (result : α × List Token) : α × List Token :=
  (result.1, result.2 ++ more)

/-- A reader of tokens behind some open brackets leaves tokens that still close these brackets,
does not fail for meeting the end, and reads the same whatever follows the brackets. -/
structure IsConfined (opened : Nat) (tokens : List Token)
    (reader : List Token → Except Fault (α × List Token)) : Prop where
  closes : ∀ result, reader tokens = .ok result →
    balanced opened result.2 = true ∧ result.2.length ≤ tokens.length
  noEndFault : ∀ fault, reader tokens = .error fault → ¬IsEndFault fault
  unaffected : 0 < opened → ∀ more,
    reader (tokens ++ more) = (reader tokens).map (followedBy more)

variable
  {opened : Nat}
  {tokens rest : List Token}
  {reader reader' : List Token → Except Fault (α × List Token)}

/-- Outside all brackets a reader may meet the end. -/
theorem confined_of_end
    (outcome : (∃ a, reader tokens = .ok (a, [])) ∨
      ∃ fault, reader tokens = .error fault ∧ ¬IsEndFault fault) :
    IsConfined 0 tokens reader := by
  refine ⟨fun result read => ?_, fun fault failed => ?_, fun inside => absurd inside (by decide)⟩
  · rcases outcome with ⟨a, ok⟩ | ⟨fault, error, -⟩
    · rw [ok, Except.ok.injEq] at read
      subst read
      exact ⟨rfl, Nat.zero_le _⟩
    · simp [error] at read
  · rcases outcome with ⟨a, ok⟩ | ⟨fault', error, noEndFault⟩
    · simp [ok] at failed
    · rw [error, Except.error.injEq] at failed
      exact failed ▸ noEndFault

/-- A reader that fails at the first tokens. -/
theorem confined_of_error
    (front : List Token)
    {fault : Fault}
    (noEndFault : ¬IsEndFault fault)
    (same : ∀ tail, reader (front ++ tail) = .error fault) :
    IsConfined opened (front ++ rest) reader where
  closes := by simp [same]
  noEndFault := by
    intro fault' failed
    rw [same, Except.error.injEq] at failed
    exact failed ▸ noEndFault
  unaffected := fun _ more => by
    rw [List.append_assoc, same, same]
    rfl

/-- A reader that succeeds at the first tokens, of which it may keep some. -/
theorem confined_of_ok
    (front kept : List Token)
    {a : α}
    (closed : balanced opened (kept ++ rest) = true)
    (shorter : kept.length ≤ front.length)
    (same : ∀ tail, reader (front ++ tail) = .ok (a, kept ++ tail)) :
    IsConfined opened (front ++ rest) reader where
  closes := by
    intro result read
    rw [same, Except.ok.injEq] at read
    subst read
    simpa [closed] using shorter
  noEndFault := by simp [same]
  unaffected := fun _ more => by
    rw [List.append_assoc, same, same]
    simp [Except.map, followedBy]

/-- A reader that goes on as another behind the first tokens. -/
theorem IsConfined.behind
    (confined : IsConfined opened rest reader')
    (front : List Token)
    (same : ∀ more, reader (front ++ (rest ++ more)) = reader' (rest ++ more)) :
    IsConfined opened (front ++ rest) reader := by
  have alone : reader (front ++ rest) = reader' rest := by simpa using same []
  refine ⟨fun result read => ?_, fun fault failed => ?_, fun inside more => ?_⟩
  · obtain ⟨closed, shorter⟩ := confined.closes result (alone ▸ read)
    exact ⟨closed, by rw [List.length_append]; omega⟩
  · exact confined.noEndFault fault (alone ▸ failed)
  · rw [List.append_assoc, same, alone, confined.unaffected inside]

/-- Readers in a row, of which the second may stand behind fewer open brackets. -/
theorem IsConfined.bindWithin
    {outer : Nat}
    {next : α × List Token → Except Fault (β × List Token)}
    (within : outer ≤ opened)
    (confined : IsConfined opened tokens reader)
    (continued : ∀ a rest, balanced opened rest = true → rest.length ≤ tokens.length →
      IsConfined outer rest fun tokens => next (a, tokens)) :
    IsConfined outer tokens fun tokens => reader tokens >>= next where
  closes := by
    intro result read
    obtain ⟨⟨a, rest⟩, readFirst, readNext⟩ := bind_eq_ok_iff.mp read
    obtain ⟨closed, shorter⟩ := confined.closes _ readFirst
    obtain ⟨closedNext, shorterNext⟩ := (continued a rest closed shorter).closes result readNext
    exact ⟨closedNext, Nat.le_trans shorterNext shorter⟩
  noEndFault := by
    intro fault failed
    rcases bind_eq_error_iff.mp failed with failedFirst | ⟨⟨a, rest⟩, readFirst, failedNext⟩
    · exact confined.noEndFault fault failedFirst
    · obtain ⟨closed, shorter⟩ := confined.closes _ readFirst
      exact (continued a rest closed shorter).noEndFault fault failedNext
  unaffected := fun inside more => by
    have unaffected := confined.unaffected (Nat.lt_of_lt_of_le inside within) more
    cases read : reader tokens with
    | error fault =>
        rw [unaffected, read]
        rfl
    | ok result =>
        rw [unaffected, read]
        obtain ⟨closed, shorter⟩ := confined.closes _ read
        exact (continued result.1 result.2 closed shorter).unaffected inside more

/-- Readers in a row. -/
theorem IsConfined.bind
    {next : α × List Token → Except Fault (β × List Token)}
    (confined : IsConfined opened tokens reader)
    (continued : ∀ a rest, balanced opened rest = true → rest.length ≤ tokens.length →
      IsConfined opened rest fun tokens => next (a, tokens)) :
    IsConfined opened tokens fun tokens => reader tokens >>= next :=
  confined.bindWithin (Nat.le_refl opened) continued

/-- What is built of what was read takes no token away. -/
theorem IsConfined.build (confined : IsConfined opened tokens reader) (build : α → β) :
    IsConfined opened tokens fun tokens =>
      reader tokens >>= fun result => pure (build result.1, result.2) :=
  confined.bind fun a _ closed _ =>
    confined_of_ok [] [] (a := build a) closed (by simp) fun _ => rfl

/-- An operand that has to begin is looked for among the tokens that are left. -/
theorem confined_requireOperand
    {cause : SyntaxFault}
    (noEndFault : ¬IsEndFault (.inSyntax cause))
    (closed : balanced opened tokens = true)
    (confined : tokens ≠ [] → IsConfined opened tokens reader) :
    IsConfined opened tokens fun tokens =>
      requireOperand cause tokens >>= fun _ => reader tokens := by
  cases tokens with
  | nil =>
      obtain rfl : opened = 0 := by simpa [balanced] using closed
      exact confined_of_end (.inr ⟨_, rfl, noEndFault⟩)
  | cons token rest =>
      cases begins : token.beginsOperand with
      | false =>
          refine confined_of_error [token] noEndFault fun tail => ?_
          simp [requireOperand, begins, refuse, bind, Except.bind]
      | true =>
          refine (confined (List.cons_ne_nil _ _)).behind [] fun more => ?_
          simp [requireOperand, begins, bind, Except.bind]

end

section

variable {opened : Nat} {tokens rest : List Token}

theorem not_isEndFault_malformed (fragment : List Token) :
    ¬IsEndFault (.inSyntax (.malformed fragment)) := by
  simp [IsEndFault]

theorem confined_readFraction
    (written : List Token)
    (whole : Option Int)
    (closed : balanced opened tokens = true) :
    IsConfined opened tokens (readFraction written whole) := by
  have malformed (front : List Token) {tail : List Token} (same : ∀ more,
      readFraction written whole (front ++ more) = refuse (.malformed (written ++ front.take 1))) :
      IsConfined opened (front ++ tail) (readFraction written whole) :=
    confined_of_error front (not_isEndFault_malformed _) same
  cases tokens with
  | nil =>
      obtain rfl := balanced_nil closed
      exact confined_of_end (.inr ⟨_, rfl, not_isEndFault_malformed _⟩)
  | cons token rest =>
      cases token with
      | digits run =>
          rw [balanced_cons (by simp) (by simp)] at closed
          exact confined_of_ok [.digits run] [] closed (by simp) fun _ => rfl
      | opening =>
          -- the bracket is closed within the list, so there are two more tokens to look at
          cases rest with
          | nil => simp [balanced] at closed
          | cons second rest =>
              cases second with
              | digits run =>
                  cases rest with
                  | nil => simp [balanced] at closed
                  | cons third rest =>
                      cases third with
                      | closing =>
                          exact confined_of_ok [.opening, .digits run, .closing] [] closed
                            (by simp) fun _ => rfl
                      | _ => exact malformed [.opening, .digits run, _] fun _ => rfl
              | _ => exact malformed [.opening, _] fun _ => rfl
      | _ => exact malformed [_] fun _ => rfl

theorem not_isEndFault_internal (cause : InternalFault) : ¬IsEndFault (.internal cause) := by
  simp [IsEndFault]

theorem not_isEndFault_of_readInteger
    {run : List Char}
    {fault : Fault}
    (failed : readInteger run = .error fault) :
    ¬IsEndFault fault := by
  unfold readInteger at failed
  split at failed
  · rw [← Except.error.inj failed]
    exact not_isEndFault_internal _
  · contradiction

/-- The number of a run of digits takes no token away. -/
theorem confined_readInteger
    {reader : Int → List Token → Except Fault (Expr × List Token)}
    (run : List Char)
    (confined : ∀ n, IsConfined opened tokens (reader n)) :
    IsConfined opened tokens fun tokens => readInteger run >>= fun n => reader n tokens := by
  cases number : readInteger run with
  | error fault =>
      exact confined_of_error [] (not_isEndFault_of_readInteger number) fun _ => rfl
  | ok n => exact confined n

theorem confined_readLiteral (closed : balanced opened tokens = true) :
    IsConfined opened tokens readLiteral := by
  cases tokens with
  | nil =>
      obtain rfl := balanced_nil closed
      exact confined_of_end (.inr ⟨_, rfl, not_isEndFault_malformed _⟩)
  | cons token rest =>
      cases token with
      | point =>
          rw [balanced_cons (by simp) (by simp)] at closed
          exact (confined_readFraction [.point] none closed).behind [.point] fun _ => rfl
      | digits run =>
          rw [balanced_cons (by simp) (by simp)] at closed
          cases rest with
          | nil =>
              obtain rfl := balanced_nil closed
              refine confined_of_end ?_
              cases number : readInteger run with
              | error fault =>
                  exact .inr ⟨fault, by simp [readLiteral, number, bind, Except.bind],
                    not_isEndFault_of_readInteger number⟩
              | ok n => exact .inl ⟨.integer n, by simp [readLiteral, number, bind, Except.bind]⟩
          | cons second rest =>
              have integer : IsConfined opened (second :: rest) fun tokens =>
                  readInteger run >>= fun n => .ok (Expr.integer n, tokens) :=
                confined_readInteger run fun n => confined_of_ok [] [] closed (by simp) fun _ => rfl
              cases second with
              | point =>
                  rw [balanced_cons (by simp) (by simp)] at closed
                  have decimal := confined_readInteger run fun n =>
                    confined_readFraction [.digits run, .point] (some n) closed
                  exact decimal.behind [.digits run, .point] fun _ => rfl
              | _ => exact integer.behind [.digits run] fun _ => rfl
      | _ =>
          exact confined_of_error [_] (not_isEndFault_malformed [_]) fun _ => rfl

theorem confined_readFactorials
    (levels : Nat)
    (x : Expr)
    (closed : balanced opened tokens = true) :
    IsConfined opened tokens (readFactorials levels x) := by
  induction tokens generalizing levels x with
  | nil =>
      obtain rfl := balanced_nil closed
      exact confined_of_end (.inl ⟨x, by cases levels <;> rfl⟩)
  | cons token rest inductionHypothesis =>
      by_cases factorial : token = .factorial
      · subst factorial
        cases levels with
        | zero => exact confined_of_error [.factorial] (by simp [IsEndFault]) fun _ => rfl
        | succ levels =>
            rw [balanced_cons (by simp) (by simp)] at closed
            exact (inductionHypothesis levels (.unary .factorial x) closed).behind [.factorial]
              fun _ => rfl
      · refine confined_of_ok [token] [token] (a := x) closed (by simp) fun _ => ?_
        cases levels <;> cases token <;> first | rfl | contradiction

end

/-- The tokens of a group end at the bracket that closes it. -/
theorem groupTokens_append
    {opened nesting : Nat}
    {tokens : List Token}
    (closed : balanced (opened + nesting + 1) tokens = true)
    (more : List Token) :
    groupTokens nesting (tokens ++ more) = groupTokens nesting tokens := by
  fun_induction groupTokens nesting tokens with
  | case1 nesting => simp [balanced] at closed
  | case2 rest => rfl
  | case3 nesting rest inductionHypothesis =>
      rw [List.cons_append, groupTokens, inductionHypothesis closed]
  | case4 nesting rest inductionHypothesis =>
      rw [List.cons_append, groupTokens, inductionHypothesis closed]
  | case5 nesting token rest notEnd notClosing notOpening inductionHypothesis =>
      have noClosing : token ≠ .closing := by
        cases nesting with
        | zero => exact notEnd rfl
        | succ nesting => exact notClosing nesting rfl
      have behind : balanced (opened + nesting + 1) rest = true := by
        rwa [balanced_cons notOpening noClosing] at closed
      have taken (tail : List Token) :
          groupTokens nesting (token :: tail) = token :: groupTokens nesting tail := by
        cases nesting <;> cases token <;> first | rfl | contradiction
      rw [List.cons_append, taken, inductionHypothesis behind]

section

variable {opened : Nat} {tokens : List Token} {lower : Option Tier}

/-- What follows the tokens in a group: its closing bracket, if the whole group was read. -/
def endGroup (fragment : List Token) :
    Expr × List Token → Except Fault (Expr × List Token)
  | (x, .closing :: rest) => .ok (x, rest)
  | (_, []) => refuse .unmatchedBracket
  | _ => refuse (.malformed fragment)

theorem readGroup_eq
    {token : Token}
    (noClosing : token ≠ .closing)
    (rest : List Token) :
    readGroup lower (token :: rest) =
      deeper lower Tier.sum true (token :: rest) >>= endGroup (groupTokens 0 (token :: rest)) := by
  cases token <;> first | rfl | contradiction

/-- An open bracket is never missed: if the group were not read to its end, some other token
would stand there. -/
theorem confined_endGroup
    (fragment : List Token)
    (x : Expr)
    (closed : balanced (opened + 1) tokens = true) :
    IsConfined opened tokens fun tokens => endGroup fragment (x, tokens) := by
  cases tokens with
  | nil => simp [balanced] at closed
  | cons token rest =>
      cases token with
      | closing => exact confined_of_ok [.closing] [] closed (by simp) fun _ => rfl
      | _ => exact confined_of_error [_] (not_isEndFault_malformed fragment) fun _ => rfl

theorem confined_readGroup
    (inner : IsConfined (opened + 1) tokens (deeper lower Tier.sum true))
    (closed : balanced (opened + 1) tokens = true) :
    IsConfined opened tokens (readGroup lower) := by
  cases tokens with
  | nil => simp [balanced] at closed
  | cons token rest =>
      by_cases empty : token = .closing
      · subst empty
        exact confined_of_error [.closing] (by simp [IsEndFault]) fun _ => rfl
      · have group : IsConfined opened (token :: rest) fun tokens =>
            deeper lower Tier.sum true tokens >>= endGroup (groupTokens 0 (token :: rest)) :=
          inner.bindWithin (Nat.le_succ opened) fun x _ closedRest _ =>
            confined_endGroup _ x closedRest
        refine group.behind [] fun more => ?_
        have fragment := @groupTokens_append opened 0 (token :: rest) closed more
        rw [List.cons_append] at fragment ⊢
        rw [List.nil_append, readGroup_eq empty, fragment]

end

/-! ## Operands and chains -/

section

variable {levels opened : Nat} {tokens : List Token} {atStart : Bool}

theorem confined_deeper
    {select : Tier → Reader}
    (below : ∀ left < levels, IsConfined opened tokens (select (tier left) atStart)) :
    IsConfined opened tokens (deeper (lowerTier levels) select atStart) := by
  cases levels with
  | zero => exact confined_of_error [] (by simp [IsEndFault]) fun _ => rfl
  | succ levels => exact below levels levels.lt_succ_self

/-- An operand that has to follow, read one level deeper. -/
theorem confined_operand
    (select : Tier → Reader)
    (cause : SyntaxFault)
    (noEndFault : ¬IsEndFault (.inSyntax cause))
    (build : Expr → Expr)
    (closed : balanced opened tokens = true)
    (below : tokens ≠ [] → ∀ left < levels, IsConfined opened tokens (select (tier left) false)) :
    IsConfined opened tokens fun tokens =>
      requireOperand cause tokens >>= fun _ =>
        deeper (lowerTier levels) select false tokens >>= fun (x, rest) => pure (build x, rest) :=
  confined_requireOperand noEndFault closed fun some =>
    (confined_deeper (below some)).build build

/-- The readers of a tier are confined to the brackets that are open. -/
structure IsConfinedTier (levels : Nat) : Prop where
  sum : ∀ {opened : Nat} {tokens : List Token}, balanced opened tokens = true → tokens ≠ [] →
    ∀ atStart, IsConfined opened tokens ((tier levels).sum atStart)
  power : ∀ {opened : Nat} {tokens : List Token}, balanced opened tokens = true → tokens ≠ [] →
    ∀ atStart, IsConfined opened tokens ((tier levels).power atStart)
  signed : ∀ {opened : Nat} {tokens : List Token}, balanced opened tokens = true → tokens ≠ [] →
    ∀ atStart, IsConfined opened tokens ((tier levels).signed atStart)

variable
  (below : ∀ left < levels, IsConfinedTier left)
  (closed : balanced opened tokens = true)
  (some : tokens ≠ [])

include below closed some

theorem confined_readAtom (atStart : Bool) :
    IsConfined opened tokens (readAtom (lowerTier levels) atStart) := by
  have missing (operator : Token) : ¬IsEndFault (.inSyntax (.missingLeft operator)) := by
    simp [IsEndFault]
  cases tokens with
  | nil => contradiction
  | cons token rest =>
      cases token with
      | opening =>
          have closedGroup : balanced (opened + 1) rest = true := closed
          have someInside : rest ≠ [] := by
            rintro rfl
            simp [balanced] at closedGroup
          have inner : IsConfined (opened + 1) rest (deeper (lowerTier levels) Tier.sum true) :=
            confined_deeper fun left lt => (below left lt).sum closedGroup someInside true
          exact (confined_readGroup inner closedGroup).behind [.opening] fun _ => rfl
      | digits run => exact (confined_readLiteral closed).behind [] fun _ => rfl
      | point => exact (confined_readLiteral closed).behind [] fun _ => rfl
      | plus =>
          rw [balanced_cons (by simp) (by simp)] at closed
          cases atStart with
          | false =>
              exact confined_of_error [.plus] (missing .plus) fun _ => by simp [readAtom, refuse]
          | true =>
              cases rest with
              | nil =>
                  obtain rfl := balanced_nil closed
                  exact confined_of_end (.inr ⟨_, rfl, missing .plus⟩)
              | cons second rest =>
                  cases second with
                  | digits run =>
                      exact (confined_readLiteral closed).behind [.plus] fun _ => rfl
                  | point => exact (confined_readLiteral closed).behind [.plus] fun _ => rfl
                  | _ => exact confined_of_error [.plus, _] (missing .plus) fun _ => rfl
      | triangular | root | closing =>
          exact confined_of_error [_] (not_isEndFault_malformed [_]) fun _ => rfl
      | _ => exact confined_of_error [_] (missing _) fun _ => rfl

theorem confined_readPostfixed (atStart : Bool) :
    IsConfined opened tokens (readPostfixed levels (lowerTier levels) atStart) :=
  (confined_readAtom below closed some atStart).bind fun x _ closedRest _ =>
    confined_readFactorials levels x closedRest

theorem confined_readSigned (atStart : Bool) :
    IsConfined opened tokens (readSigned levels (lowerTier levels) atStart) := by
  have postfixed := confined_readPostfixed below closed some atStart
  cases tokens with
  | nil => contradiction
  | cons token rest =>
      have operand (cause : SyntaxFault) (noEndFault : ¬IsEndFault (.inSyntax cause)) (op : Unary)
          (closedRest : balanced opened rest = true) :=
        confined_operand Tier.signed cause noEndFault (.unary op) closedRest fun some left lt =>
          (below left lt).signed closedRest some false
      cases token with
      | triangular =>
          rw [balanced_cons (by simp) (by simp)] at closed
          exact (operand (.missingOperand .triangular) (by simp [IsEndFault]) .triangular
            closed).behind [.triangular] fun _ => by cases atStart <;> rfl
      | root =>
          rw [balanced_cons (by simp) (by simp)] at closed
          exact (operand (.missingOperand .root) (by simp [IsEndFault]) .root
            closed).behind [.root] fun _ => by cases atStart <;> rfl
      | minus =>
          cases atStart with
          | true =>
              rw [balanced_cons (by simp) (by simp)] at closed
              exact (operand (.missingRight .minus) (by simp [IsEndFault]) .negate
                closed).behind [.minus] fun _ => rfl
          | false => exact postfixed.behind [] fun _ => rfl
      | _ => exact postfixed.behind [] fun _ => by cases atStart <;> rfl

theorem confined_readPower (atStart : Bool) :
    IsConfined opened tokens (readPower levels (lowerTier levels) atStart) := by
  refine (confined_readSigned below closed some atStart).bind fun base rest closedRest _ => ?_
  cases rest with
  | nil =>
      obtain rfl := balanced_nil closedRest
      exact confined_of_end (.inl ⟨base, rfl⟩)
  | cons token rest =>
      cases token with
      | power =>
          rw [balanced_cons (by simp) (by simp)] at closedRest
          have exponent := confined_operand Tier.power (.missingRight .power)
            (by simp [IsEndFault]) (fun exponent => .node .power [base, exponent]) closedRest
            fun some left lt => (below left lt).power closedRest some false
          exact exponent.behind [.power] fun _ => rfl
      | _ => exact confined_of_ok [_] [_] closedRest (by simp) fun _ => rfl

end

section

variable
  {opened : Nat}
  {tokens : List Token}
  {isLink : Token → Bool}
  {operand : Reader}
  (noBracket : ∀ token, isLink token = true → token ≠ .opening ∧ token ≠ .closing)
  (confined : ∀ {tokens}, balanced opened tokens = true → tokens ≠ [] →
    IsConfined opened tokens (operand false))
  (closed : balanced opened tokens = true)

include noBracket confined closed

/-- The count that bounds the links of a chain does not matter once there is one for each
token. -/
theorem readLinks_count
    {count count' : Nat}
    (enough : tokens.length ≤ count)
    (enough' : tokens.length ≤ count') :
    readLinks isLink operand count tokens = readLinks isLink operand count' tokens := by
  induction count generalizing tokens count' with
  | zero =>
      obtain rfl := List.eq_nil_of_length_eq_zero (Nat.le_zero.mp enough)
      cases count' <;> rfl
  | succ count inductionHypothesis =>
      cases tokens with
      | nil => cases count' <;> rfl
      | cons operator rest =>
          cases count' with
          | zero => simp at enough'
          | succ count' =>
              cases link : isLink operator with
              | false => simp [readLinks, link]
              | true =>
                  have closedRest : balanced opened rest = true := by
                    rwa [balanced_cons (noBracket _ link).1 (noBracket _ link).2] at closed
                  simp only [readLinks, link, if_true]
                  cases rest with
                  | nil => rfl
                  | cons token rest =>
                      refine congrArg _ (funext fun _ => ?_)
                      cases read : operand false (token :: rest) with
                      | error fault => rfl
                      | ok result =>
                          obtain ⟨closedLinks, shorter⟩ :=
                            (confined closedRest (List.cons_ne_nil _ _)).closes _ read
                          have same := inductionHypothesis closedLinks
                            (Nat.le_trans shorter (Nat.le_of_succ_le_succ enough))
                            (Nat.le_trans shorter (Nat.le_of_succ_le_succ enough'))
                          simp only [bind, Except.bind, same]

/-- The links of a chain, while the count that bounds them does not run out. -/
theorem confined_readLinks_count
    {count : Nat}
    (enough : tokens.length ≤ count) :
    IsConfined opened tokens (readLinks isLink operand count) := by
  induction count generalizing tokens with
  | zero =>
      obtain rfl := List.eq_nil_of_length_eq_zero (Nat.le_zero.mp enough)
      obtain rfl := balanced_nil closed
      exact confined_of_end (.inl ⟨[], rfl⟩)
  | succ count inductionHypothesis =>
      cases tokens with
      | nil =>
          obtain rfl := balanced_nil closed
          exact confined_of_end (.inl ⟨[], rfl⟩)
      | cons operator rest =>
          cases link : isLink operator with
          | false =>
              exact confined_of_ok [operator] [operator] (a := []) closed (by simp) fun _ => by
                simp [readLinks, link, pure, Except.pure]
          | true =>
              rw [balanced_cons (noBracket _ link).1 (noBracket _ link).2] at closed
              have linked : IsConfined opened rest fun tokens =>
                  requireOperand (.missingRight operator) tokens >>= fun _ =>
                    operand false tokens >>= fun (x, rest) =>
                      readLinks isLink operand count rest >>= fun result =>
                        pure ((operator, x) :: result.1, result.2) := by
                refine confined_requireOperand (by simp [IsEndFault]) closed fun some => ?_
                refine (confined closed some).bind fun x behind closedBehind shorter => ?_
                have enoughBehind := Nat.le_trans shorter (Nat.le_of_succ_le_succ enough)
                exact (inductionHypothesis closedBehind enoughBehind).build ((operator, x) :: ·)
              exact linked.behind [operator] fun _ => by
                simp only [List.cons_append, List.nil_append, readLinks, link, if_true]

/-- The links of a chain, counted by the tokens that are left. -/
theorem confined_readLinks :
    IsConfined opened tokens fun tokens => readLinks isLink operand tokens.length tokens where
  closes := (confined_readLinks_count noBracket confined closed (Nat.le_refl _)).closes
  noEndFault := (confined_readLinks_count noBracket confined closed (Nat.le_refl _)).noEndFault
  unaffected := fun inside more => by
    have enough : tokens.length ≤ (tokens ++ more).length := by simp
    rw [(confined_readLinks_count noBracket confined closed enough).unaffected inside,
      readLinks_count noBracket confined closed enough (Nat.le_refl _)]

end

section

variable {levels opened : Nat} {tokens : List Token}

/-- A chain of operands. -/
theorem confined_chain
    {isLink : Token → Bool}
    {operand : Reader}
    (noBracket : ∀ token, isLink token = true → token ≠ .opening ∧ token ≠ .closing)
    (confined : ∀ {tokens}, balanced opened tokens = true → tokens ≠ [] →
      ∀ atStart, IsConfined opened tokens (operand atStart))
    (build : Expr → List (Token × Expr) → Expr)
    (closed : balanced opened tokens = true)
    (some : tokens ≠ [])
    (atStart : Bool) :
    IsConfined opened tokens fun tokens =>
      operand atStart tokens >>= fun (first, rest) =>
        readLinks isLink operand rest.length rest >>= fun result =>
          pure (build first result.1, result.2) :=
  (confined closed some atStart).bind fun first _ closedLinks _ =>
    (confined_readLinks noBracket (fun closed some => confined closed some false)
      closedLinks).build (build first)

variable
  (below : ∀ left < levels, IsConfinedTier left)
  (closed : balanced opened tokens = true)
  (some : tokens ≠ [])

include below closed some

theorem confined_readProduct (atStart : Bool) :
    IsConfined opened tokens (readProduct levels (lowerTier levels) atStart) :=
  confined_chain (by rintro ⟨⟩ <;> simp [isFactorLink]) (confined_readPower below) ofFactors
    closed some atStart

theorem confined_readSum (atStart : Bool) :
    IsConfined opened tokens (readSum levels (lowerTier levels) atStart) :=
  confined_chain (by rintro ⟨⟩ <;> simp [isTermLink]) (confined_readProduct below) ofTerms
    closed some atStart

omit below closed some in
/-- By induction on the depth that remains. -/
theorem isConfinedTier (levels : Nat) : IsConfinedTier levels := by
  induction levels using Nat.strongRecOn with
  | ind levels below =>
      constructor
      all_goals
        rw [tier_eq]
        intro opened tokens closed some
      · exact confined_readSum below closed some
      · exact confined_readPower below closed some
      · exact confined_readSigned below closed some

end

end Expr
end FourFours
