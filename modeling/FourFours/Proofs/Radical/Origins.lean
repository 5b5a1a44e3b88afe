import FourFours.Proofs.Radical.SharedRoots

/-!
# Origins of square roots

The origin of a square root only tells whether a later calculation recognises it. Without
their origins the square roots of two towers may still be the same, one by one. Then the
search for common roots, wherever it settles every sign, finds each root again as itself, or
adjoins it again in its place: it ends with the pair that recognised roots give at once.
Therefore no result, and no exact form, depends on which origins two operands share.
-/

namespace FourFours
namespace Radical

variable {n m k : Nat} {α β : Type}

/-- A calculation that does not stop for a sign that no enclosure settles. -/
def SettlesSigns (outcome : Except Fault α) : Prop :=
  ∀ exact, outcome ≠ .error (.internal (.undecidedSign exact))

theorem settlesSigns_of_ok {outcome : Except Fault α} {a : α} (succeeds : outcome = .ok a) :
    SettlesSigns outcome := by
  intro exact failed
  rw [succeeds] at failed
  contradiction

/-- If all steps settle their signs, then so does the first one. -/
theorem SettlesSigns.of_bind
    {first : Except Fault α}
    {rest : α → Except Fault β}
    (settles : SettlesSigns (first >>= rest)) :
    SettlesSigns first :=
  fun exact failed => settles exact (bind_eq_error_iff.mpr (.inl failed))

namespace Tower

/-- A tower without the origins of its square roots. -/
def unascribed : {n : Nat} → Tower n → Tower n
  | _, .base => .base
  | _, .adjoin tower radicand _ => .adjoin tower.unascribed radicand none

/-- The radicands of one tower are the first radicands of another. -/
def Precedes (short : Tower m) (long : Tower n) : Prop :=
  long.unascribed.restrict m = some short.unascribed

@[simp] theorem unascribed_unascribed (tower : Tower n) :
    tower.unascribed.unascribed = tower.unascribed := by
  induction tower with
  | base => rfl
  | adjoin tower radicand origin inductionHypothesis =>
      rw [unascribed, unascribed, inductionHypothesis]

@[simp] theorem unascribed_ascribe (tower : Tower n) (entry : Nat) :
    (tower.ascribe entry).unascribed = tower.unascribed := by
  induction tower with
  | base => rfl
  | adjoin tower radicand origin inductionHypothesis =>
      rw [ascribe, unascribed, unascribed, inductionHypothesis]

@[simp] theorem roots_unascribed (tower : Tower n) : tower.unascribed.roots = tower.roots := by
  induction tower with
  | base => rfl
  | adjoin tower radicand origin inductionHypothesis =>
      rw [unascribed, roots, roots, inductionHypothesis]

theorem IsProper.unascribed {tower : Tower n} (proper : tower.IsProper) :
    tower.unascribed.IsProper := by
  induction tower with
  | base => trivial
  | adjoin tower radicand origin inductionHypothesis =>
      obtain ⟨properBelow, positive, notSquare⟩ := proper
      refine ⟨inductionHypothesis properBelow, ?_⟩
      rw [roots_unascribed]
      exact ⟨positive, notSquare⟩

theorem restrict_unascribed
    {tower : Tower n}
    {below : Tower m}
    (initial : tower.restrict m = some below) :
    tower.unascribed.restrict m = some below.unascribed := by
  refine restrict_induction
    (motive := fun tower => tower.unascribed.restrict m = some below.unascribed)
    (restrict_self _) ?_ initial
  intro n tower radicand origin shorter inductionHypothesis
  rw [unascribed, restrict_adjoin _ _ _ shorter, inductionHypothesis]

/-- The first roots of the first roots of a tower are first roots of the tower. -/
theorem restrict_trans
    {tower : Tower n}
    {long : Tower m}
    {short : Tower k}
    (initialLong : tower.restrict m = some long)
    (initialShort : long.restrict k = some short) :
    tower.restrict k = some short := by
  have shorter := le_of_restrict initialShort
  refine (restrict_induction
    (motive := fun {n} tower => m ≤ n ∧ tower.restrict k = some short)
    ⟨le_rfl, initialShort⟩ ?_ initialLong).2
  intro n tower radicand origin _ inductionHypothesis
  obtain ⟨within, initial⟩ := inductionHypothesis
  exact ⟨Nat.le_succ_of_le within, by rw [restrict_adjoin _ _ _ (by omega), initial]⟩

/-- Over a proper tower the radicand of each of its roots has a root. -/
theorem IsProper.exists_sqrt?_of_restrict
    {tower : Tower n}
    (proper : tower.IsProper)
    {below : Tower m}
    {radicand : Element m}
    {origin : Option Nat}
    (initial : tower.restrict (m + 1) = some (below.adjoin radicand origin))
    {x : Element n}
    (equal : x.real tower.roots = radicand.real below.roots) :
    ∃ root, tower.sqrt? x = some root := by
  have nonnegative := (proper.restrict initial).2.1.le
  refine proper.findsSquares x ((Element.pair (.zero m) (.one m)).raise n) ?_
  rw [real_raise initial, equal, roots, Element.real_pair, Element.real_zero,
    Element.real_one, zero_add, one_mul, Real.mul_self_sqrt nonnegative]

/-- A root whose sign is settled can be made nonnegative. -/
theorem exists_nonnegative
    {tower : Tower n}
    {x : Element n}
    (settles : SettlesSigns (tower.nonnegative x)) :
    ∃ image, tower.nonnegative x = .ok image := by
  cases chosen : tower.nonnegative x with
  | error fault => exact absurd (nonnegative_eq_error chosen ▸ chosen) (settles _)
  | ok image => exact ⟨image, rfl⟩

/-- Recognised roots have the same radicands. -/
theorem precedes_of_isInitial
    {short : Tower m}
    {long : Tower n}
    (initial : short.isInitial long = true) :
    short.Precedes long :=
  restrict_unascribed (restrict_of_isInitial initial)

/-! ## Calculations that ignore the origins -/

@[simp] theorem mul_unascribed (tower : Tower n) (x y : Element n) :
    tower.unascribed.mul x y = tower.mul x y := by
  induction tower with
  | base => rfl
  | adjoin tower radicand origin inductionHypothesis =>
      cases x
      cases y
      simp only [unascribed, mul, inductionHypothesis]

@[simp] theorem norm_unascribed (tower : Tower n) (radicand a b : Element n) :
    tower.unascribed.norm radicand a b = tower.norm radicand a b := by
  simp only [norm, mul_unascribed]

@[simp] theorem inverse?_unascribed (tower : Tower n) (x : Element n) :
    tower.unascribed.inverse? x = tower.inverse? x := by
  induction tower with
  | base => rfl
  | adjoin tower radicand origin inductionHypothesis =>
      cases x
      simp only [unascribed, inverse?, inductionHypothesis, norm_unascribed, mul_unascribed]

theorem completeRoot_unascribed (tower : Tower n) (b : Element n) (u : Option (Element n)) :
    sqrt?.completeRoot tower.unascribed b u = sqrt?.completeRoot tower b u := by
  simp only [sqrt?.completeRoot, inverse?_unascribed, mul_unascribed]

@[simp] theorem sqrt?_unascribed (tower : Tower n) (x : Element n) :
    tower.unascribed.sqrt? x = tower.sqrt? x := by
  induction tower with
  | base => rfl
  | adjoin tower radicand origin inductionHypothesis =>
      cases x
      simp only [unascribed, sqrt?, inductionHypothesis, norm_unascribed, mul_unascribed,
        inverse?_unascribed, completeRoot_unascribed]

@[simp] theorem substitute_unascribed
    (tower : Tower n)
    (x : Element m)
    (images : Family (Element n) m) :
    tower.unascribed.substitute x images = tower.substitute x images := by
  induction x with
  | rational q => rfl
  | pair a b constantHypothesis slopeHypothesis =>
      cases images
      simp only [substitute, constantHypothesis, slopeHypothesis, mul_unascribed]

theorem rootTexts_unascribed (tower : Tower n) :
    tower.unascribed.rootTexts = tower.rootTexts := by
  induction tower with
  | base => rfl
  | adjoin tower radicand origin inductionHypothesis =>
      simp only [unascribed, rootTexts, inductionHypothesis]

@[simp] theorem text_unascribed (tower : Tower n) (x : Element n) :
    tower.unascribed.text x = tower.text x := by
  rw [text, text, rootTexts_unascribed]

theorem rootEnclosures_unascribed (tower : Tower n) (p : Nat) :
    tower.unascribed.rootEnclosures p = tower.rootEnclosures p := by
  induction tower with
  | base => rfl
  | adjoin tower radicand origin inductionHypothesis =>
      simp only [unascribed, rootEnclosures, inductionHypothesis]

@[simp] theorem sign_unascribed (tower : Tower n) (x : Element n) :
    tower.unascribed.sign x = tower.sign x := by
  simp only [sign, enclosure, rootEnclosures_unascribed, text_unascribed]

@[simp] theorem nonnegative_unascribed (tower : Tower n) (x : Element n) :
    tower.unascribed.nonnegative x = tower.nonnegative x := by
  simp only [nonnegative, sign_unascribed]

end Tower

/-- An extension without the origins of its square roots. -/
def Extension.unascribed (extension : Extension m) : Extension m :=
  ⟨extension.tower.unascribed, extension.left, extension.images⟩

/-- A pair without the origins of its square roots. -/
def Pair.unascribed (pair : Pair) : Pair :=
  ⟨pair.tower.unascribed, pair.left, pair.right⟩

namespace Extension

/-- The extension by the image of one more square root, given its radicand over the roots
before it. -/
def next (below : Extension m) (radicand : Element m) : Except Fault (Extension (m + 1)) :=
  let radicand := below.tower.substitute radicand below.images
  match below.tower.sqrt? radicand with
  | some root => below.tower.nonnegative root >>= fun image => pure (below.identify image)
  | none =>
      if radicalLimit ≤ below.level then fail .tooManyRadicals else pure (below.adjoin radicand)

theorem next_of_found
    {below : Extension m}
    {radicand : Element m}
    {root : Element below.level}
    (found : below.tower.sqrt? (below.tower.substitute radicand below.images) = some root) :
    below.next radicand =
      below.tower.nonnegative root >>= fun image => pure (below.identify image) := by
  simp only [next, found]

theorem next_of_missing
    {below : Extension m}
    {radicand : Element m}
    {image : Element below.level}
    (substituted : below.tower.substitute radicand below.images = image)
    (missing : below.tower.sqrt? image = none)
    (room : below.level < radicalLimit) :
    below.next radicand = .ok (below.adjoin image) := by
  simp only [next, substituted, missing]
  exact if_neg room.not_ge

theorem next_unascribed (below : Extension m) (radicand : Element m) :
    below.unascribed.next radicand = (below.next radicand).map unascribed := by
  simp only [next, unascribed, Tower.substitute_unascribed, Tower.sqrt?_unascribed,
    Tower.nonnegative_unascribed]
  cases below.tower.sqrt? (below.tower.substitute radicand below.images) with
  | some root =>
      dsimp only
      cases below.tower.nonnegative root <;> rfl
  | none =>
      dsimp only
      split <;> rfl

end Extension

namespace Value

variable {v w v' w' : Value}

/-- A value without the origins of its square roots. -/
def unascribed (v : Value) : Value :=
  ⟨v.tower.unascribed, v.element⟩

theorem text_eq_of_unascribed (same : v.unascribed = v'.unascribed) : v.text = v'.text := by
  have texts := congrArg text same
  rwa [text, text, unascribed, unascribed, Tower.text_unascribed, Tower.text_unascribed]
    at texts

theorem level_eq_of_unascribed (same : v.unascribed = v'.unascribed) : v.level = v'.level := by
  have levels : v.unascribed.level = v'.unascribed.level := congrArg level same
  exact levels

theorem IsNormal.unascribed (normal : v.IsNormal) : v.unascribed.IsNormal :=
  ⟨normal.proper.unascribed, normal.level_le, normal.usesLast⟩

theorem unascribed_trim (tower : Tower n) (x : Element n) :
    (trim tower x).unascribed = trim tower.unascribed x := by
  induction tower with
  | base => rfl
  | adjoin tower radicand origin inductionHypothesis =>
      cases x
      rw [Tower.unascribed, trim, trim]
      split
      · exact inductionHypothesis _
      · rfl

theorem extend_adjoin
    (v : Value)
    (tower : Tower m)
    (radicand : Element m)
    (origin : Option Nat) :
    v.extend (tower.adjoin radicand origin) =
      v.extend tower >>= fun below => below.next radicand :=
  rfl

/-- The search for common roots looks at the radicands alone. -/
theorem extend_unascribed (v : Value) (tower : Tower m) :
    v.unascribed.extend tower.unascribed = (v.extend tower).map Extension.unascribed := by
  induction tower with
  | base => rfl
  | adjoin tower radicand origin inductionHypothesis =>
      rw [Tower.unascribed, extend_adjoin, extend_adjoin, inductionHypothesis]
      cases v.extend tower with
      | error fault => rfl
      | ok below => exact below.next_unascribed radicand

theorem merge_unascribed (v w : Value) :
    v.unascribed.merge w.unascribed = (merge v w).map Pair.unascribed := by
  obtain ⟨tower, x⟩ := w
  have extended := v.extend_unascribed tower
  dsimp only [merge, unascribed] at extended ⊢
  rw [extended]
  cases v.extend tower with
  | error fault => rfl
  | ok extension =>
      simp only [Except.map, bind, Except.bind, pure, Except.pure, Pair.unascribed,
        Extension.unascribed, Tower.substitute_unascribed]

/-- A root of the tower of a value is found again as itself: the extension by the first
roots of that tower leaves it as it is. -/
theorem extend_of_restrict
    (proper : v.tower.IsProper)
    (level_le : v.level ≤ radicalLimit)
    {below : Tower m}
    (initial : v.tower.restrict m = some below)
    (settles : SettlesSigns (v.extend below)) :
    ∃ images, v.extend below = .ok ⟨v.tower, v.element, images⟩ := by
  induction below with
  | base => exact ⟨.nil, rfl⟩
  | @adjoin m below radicand origin inductionHypothesis =>
      have initialBelow : v.tower.restrict m = some below := by
        refine Tower.restrict_trans initial ?_
        rw [Tower.restrict_adjoin _ _ _ (by omega), Tower.restrict_self]
      rw [extend_adjoin] at settles ⊢
      obtain ⟨images, extended⟩ := inductionHypothesis initialBelow settles.of_bind
      have represents :=
        represents_of_extend proper level_le (proper.restrict initialBelow) extended
      obtain ⟨root, found⟩ :=
        proper.exists_sqrt?_of_restrict initial (represents.real_substitute radicand)
      have next : Extension.next ⟨v.tower, v.element, images⟩ radicand = _ :=
        Extension.next_of_found found
      rw [extended] at settles ⊢
      replace settles : SettlesSigns (Extension.next ⟨v.tower, v.element, images⟩ radicand) :=
        settles
      rw [next] at settles
      obtain ⟨image, chosen⟩ := Tower.exists_nonnegative settles.of_bind
      exact ⟨images.snoc image, next.trans (by rw [chosen]; rfl)⟩

/-- The roots behind those of a value are adjoined again one by one. -/
theorem extend_of_restricted
    (proper : v.tower.IsProper)
    (level_le : v.level ≤ radicalLimit)
    {tower : Tower n}
    (properTower : tower.IsProper)
    (room : n ≤ radicalLimit)
    (initial : tower.restrict v.level = some v.tower)
    (plain : tower.unascribed = tower)
    (settles : SettlesSigns (v.extend tower)) :
    ∃ images, v.extend tower = .ok ⟨tower, v.element.raise n, images⟩ := by
  revert properTower room plain settles
  refine Tower.restrict_induction
    (motive := fun {n} tower => tower.IsProper → n ≤ radicalLimit → tower.unascribed = tower →
      SettlesSigns (v.extend tower) →
        ∃ images, v.extend tower = .ok ⟨tower, v.element.raise n, images⟩) ?_ ?_ initial
  · intro _ _ _ settles
    rw [Element.raise_self]
    exact extend_of_restrict proper level_le (Tower.restrict_self _) settles
  · intro n tower radicand origin shorter inductionHypothesis properTower room plain settles
    obtain ⟨plainBelow, _, rfl⟩ := Tower.adjoin.inj plain
    obtain ⟨properBelow, _, notSquare⟩ := properTower
    rw [extend_adjoin] at settles ⊢
    obtain ⟨images, extended⟩ :=
      inductionHypothesis properBelow (by omega) plainBelow settles.of_bind
    have represents := represents_of_extend proper level_le properBelow extended
    have unchanged : tower.substitute radicand images = radicand :=
      properBelow.real_inj.mp (represents.real_substitute radicand)
    have missing := properBelow.sqrt?_eq_none_iff.mpr notSquare
    have next : Extension.next ⟨tower, v.element.raise n, images⟩ radicand = _ :=
      Extension.next_of_missing unchanged missing room
    rw [extended, Element.raise, dif_neg shorter]
    exact ⟨_, next⟩

/-! ## Both towers at once -/

/-- The pair of two values over the longer one of their towers, as it is. -/
def shortcut (v w : Value) : Pair :=
  if w.level ≤ v.level then ⟨v.tower, v.element, w.element.raise v.level⟩
  else ⟨w.tower, v.element.raise w.level, w.element⟩

theorem unascribed_shortcut (v w : Value) :
    (shortcut v w).unascribed = shortcut v.unascribed w.unascribed := by
  unfold shortcut
  split
  · rename_i shorter
    exact (if_pos shorter).symm
  · rename_i longer
    exact (if_neg longer).symm

theorem shortcut_of_restrict_left (initial : v.tower.restrict w.level = some w.tower) :
    shortcut v w = ⟨v.tower, v.element, w.element.raise v.level⟩ :=
  if_pos (Tower.le_of_restrict initial)

theorem shortcut_of_restrict_right (initial : w.tower.restrict v.level = some v.tower) :
    shortcut v w = ⟨w.tower, v.element.raise w.level, w.element⟩ := by
  unfold shortcut
  split
  · -- The towers have one height, so they are the same tower.
    rename_i shorter
    obtain ⟨tower, x⟩ := v
    obtain ⟨tower', y⟩ := w
    obtain rfl := le_antisymm shorter (Tower.le_of_restrict initial)
    rw [Tower.restrict_self, Option.some.injEq] at initial
    dsimp only at initial
    subst initial
    simp only [Element.raise_self]
  · rfl

/-- Roots that are recognised make the longer tower serve both values. -/
theorem unify_of_isInitial
    (initial : w.tower.isInitial v.tower = true ∨ v.tower.isInitial w.tower = true) :
    unify v w = .ok (shortcut v w) := by
  unfold unify
  split
  · rename_i initialRight
    rw [shortcut_of_restrict_left (Tower.restrict_of_isInitial initialRight)]
  · rename_i unrecognised
    have initialLeft := initial.resolve_left unrecognised
    rw [if_pos initialLeft,
      shortcut_of_restrict_right (Tower.restrict_of_isInitial initialLeft)]

/-- Where no root has an origin, and one tower begins with the roots of the other, the search
for common roots ends with the longer tower, as far as the signs are settled on the way. -/
theorem IsNormal.merge_of_plain
    (left : v.IsNormal)
    (right : w.IsNormal)
    (plain : w.tower.unascribed = w.tower)
    (initial : v.tower.restrict w.level = some w.tower ∨
      w.tower.restrict v.level = some v.tower)
    (settles : SettlesSigns (merge v w)) :
    merge v w = .ok (shortcut v w) := by
  have represents {extension} (extended : v.extend w.tower = .ok extension) :=
    (represents_of_extend left.proper left.level_le right.proper extended).real_substitute
      w.element
  rcases initial with initial | initial
  · obtain ⟨images, extended⟩ :=
      extend_of_restrict left.proper left.level_le initial settles.of_bind
    have right_eq : v.tower.substitute w.element images = w.element.raise v.level :=
      left.proper.real_inj.mp
        ((represents extended).trans (Tower.real_raise initial w.element).symm)
    rw [shortcut_of_restrict_left initial, merge, extended, ← right_eq]
    rfl
  · obtain ⟨images, extended⟩ := extend_of_restricted left.proper left.level_le right.proper
      right.level_le initial plain settles.of_bind
    have right_eq : w.tower.substitute w.element images = w.element :=
      right.proper.real_inj.mp (represents extended)
    rw [shortcut_of_restrict_right initial, merge, extended]
    exact congrArg (fun x => Except.ok (Pair.mk w.tower (v.element.raise w.level) x)) right_eq

/-- Whatever the origins, the search for common roots ends with the longer tower if the
radicands of the other are the first ones of it. -/
theorem IsNormal.merge_of_precedes
    (left : v.IsNormal)
    (right : w.IsNormal)
    (precedes : w.tower.Precedes v.tower ∨ v.tower.Precedes w.tower)
    (settles : SettlesSigns (merge v w)) :
    (merge v w).map Pair.unascribed = .ok (shortcut v w).unascribed := by
  rw [← merge_unascribed, unascribed_shortcut]
  refine left.unascribed.merge_of_plain right.unascribed (Tower.unascribed_unascribed _)
    precedes ?_
  rw [merge_unascribed]
  exact fun exact failed => settles exact (map_eq_error_iff.mp failed)

theorem unify_of_not_isInitial
    (unrecognised : ¬(w.tower.isInitial v.tower = true ∨ v.tower.isInitial w.tower = true)) :
    unify v w = merge v w := by
  rw [not_or] at unrecognised
  rw [unify, if_neg unrecognised.1, if_neg unrecognised.2]

/-- Recognised or not, the roots of both values are found to be the same ones. -/
theorem IsNormal.unify_of_precedes
    (left : v.IsNormal)
    (right : w.IsNormal)
    (precedes : w.tower.Precedes v.tower ∨ v.tower.Precedes w.tower)
    (settles : SettlesSigns (unify v w)) :
    (unify v w).map Pair.unascribed = .ok (shortcut v w).unascribed := by
  by_cases initial : w.tower.isInitial v.tower = true ∨ v.tower.isInitial w.tower = true
  · rw [unify_of_isInitial initial]
    rfl
  · rw [unify_of_not_isInitial initial] at settles ⊢
    exact left.merge_of_precedes right precedes settles

theorem unify_of_not_precedes
    (apart : ¬(w.tower.Precedes v.tower ∨ v.tower.Precedes w.tower)) :
    unify v w = merge v w :=
  unify_of_not_isInitial fun initial =>
    apart (initial.imp Tower.precedes_of_isInitial Tower.precedes_of_isInitial)

theorem precedes_iff_of_unascribed
    (sameLeft : v.unascribed = v'.unascribed)
    (sameRight : w.unascribed = w'.unascribed) :
    v.tower.Precedes w.tower ↔ v'.tower.Precedes w'.tower := by
  have precedes_iff (v w : Value) : v.tower.Precedes w.tower ↔
      w.unascribed.tower.restrict v.unascribed.level = some v.unascribed.tower := Iff.rfl
  rw [precedes_iff, precedes_iff, sameLeft, sameRight]

/-- The common tower of two values does not depend on the origins of their roots. -/
theorem IsNormal.unascribed_unify
    (left : v.IsNormal)
    (right : w.IsNormal)
    (left' : v'.IsNormal)
    (right' : w'.IsNormal)
    (sameLeft : v.unascribed = v'.unascribed)
    (sameRight : w.unascribed = w'.unascribed)
    (settles : SettlesSigns (unify v w))
    (settles' : SettlesSigns (unify v' w')) :
    (unify v w).map Pair.unascribed = (unify v' w').map Pair.unascribed := by
  have precedes_iff := or_congr (precedes_iff_of_unascribed sameRight sameLeft)
    (precedes_iff_of_unascribed sameLeft sameRight)
  by_cases precedes : w.tower.Precedes v.tower ∨ v.tower.Precedes w.tower
  · rw [left.unify_of_precedes right precedes settles,
      left'.unify_of_precedes right' (precedes_iff.mp precedes) settles', unascribed_shortcut,
      unascribed_shortcut, sameLeft, sameRight]
  · rw [unify_of_not_precedes precedes,
      unify_of_not_precedes (fun precedes' => precedes (precedes_iff.mpr precedes')),
      ← merge_unascribed, ← merge_unascribed, sameLeft, sameRight]

/-- An operation on two normal values has the same outcome whatever the origins of their
roots are, except that the origins may decide whether signs have to be settled. -/
def IgnoresOrigins (operation : Value → Value → Except Fault Value) : Prop :=
  ∀ v w v' w' : Value, v.IsNormal → w.IsNormal → v'.IsNormal → w'.IsNormal →
    v.unascribed = v'.unascribed → w.unascribed = w'.unascribed →
      SettlesSigns (operation v w) → SettlesSigns (operation v' w') →
        (operation v w).map unascribed = (operation v' w').map unascribed

/-- A calculation over the common tower ignores the origins if its result does. -/
theorem ignoresOrigins_of_combine
    (combine : Pair → Value)
    (plain : ∀ pair, (combine pair).unascribed = combine pair.unascribed) :
    IgnoresOrigins fun v w => unify v w >>= fun pair => pure (combine pair) := by
  have unascribed_outcome (outcome : Except Fault Pair) :
      (outcome >>= fun pair => pure (combine pair)).map unascribed =
        (outcome.map Pair.unascribed).map combine := by
    cases outcome with
    | error fault => rfl
    | ok pair => exact congrArg Except.ok (plain pair)
  intro v w v' w' left right left' right' sameLeft sameRight settles settles'
  rw [unascribed_outcome, unascribed_outcome,
    left.unascribed_unify right left' right' sameLeft sameRight settles.of_bind
      settles'.of_bind]

theorem ignoresOrigins_add : IgnoresOrigins add :=
  ignoresOrigins_of_combine (fun pair => trim pair.tower (pair.left.add pair.right))
    fun _ => unascribed_trim _ _

theorem ignoresOrigins_sub : IgnoresOrigins sub := by
  intro v w v' w' left right left' right' sameLeft sameRight
  exact ignoresOrigins_add v w.neg v' w'.neg left right.neg.1 left' right'.neg.1 sameLeft
    (congrArg neg sameRight)

theorem ignoresOrigins_mul : IgnoresOrigins mul :=
  ignoresOrigins_of_combine
    (fun pair => trim pair.tower (pair.tower.mul pair.left pair.right))
    fun pair => by
      rw [unascribed_trim, Pair.unascribed, Tower.mul_unascribed]

theorem inverse_unascribed (v : Value) : v.unascribed.inverse = v.inverse.map unascribed := by
  unfold inverse
  split
  · rename_i zero
    rw [if_pos (show v.isZero = true from zero)]
    rfl
  · rename_i nonzero
    rw [if_neg (show ¬v.isZero = true from nonzero)]
    have text : v.unascribed.text = v.text := v.tower.text_unascribed v.element
    have found : v.unascribed.tower.inverse? v.unascribed.element = v.tower.inverse? v.element :=
      v.tower.inverse?_unascribed v.element
    rw [found, text]
    cases v.tower.inverse? v.element with
    | none => rfl
    | some x => exact congrArg Except.ok (unascribed_trim v.tower x).symm

theorem ignoresOrigins_div : IgnoresOrigins div := by
  intro v w v' w' left right left' right' sameLeft sameRight settles settles'
  have zero_eq : w.isZero = w'.isZero := by
    have same := congrArg isZero sameRight
    exact same
  have inverse_eq : w.inverse.map unascribed = w'.inverse.map unascribed := by
    rw [← inverse_unascribed, ← inverse_unascribed, sameRight]
  unfold div at settles settles' ⊢
  rw [zero_eq] at settles ⊢
  split
  · rfl
  · rename_i nonzero
    rw [if_neg nonzero] at settles settles'
    cases inverted : w.inverse with
    | error fault =>
        rw [inverted] at inverse_eq
        rw [map_eq_error_iff.mp inverse_eq.symm]
        rfl
    | ok u =>
        cases inverted' : w'.inverse with
        | error fault =>
            rw [inverted, inverted'] at inverse_eq
            contradiction
        | ok u' =>
            rw [inverted, inverted'] at inverse_eq
            rw [inverted] at settles
            rw [inverted'] at settles'
            exact ignoresOrigins_mul v u v' u' left (right.inverse inverted).1 left'
              (right'.inverse inverted').1 sameLeft (Except.ok.inj inverse_eq) settles settles'

theorem ignoresOrigins_of_mem
    {operation : Value → Value → Except Fault Value}
    (member : operation ∈ [add, sub, mul, div]) :
    IgnoresOrigins operation := by
  simp only [List.mem_cons, List.not_mem_nil, or_false] at member
  rcases member with rfl | rfl | rfl | rfl
  · exact ignoresOrigins_add
  · exact ignoresOrigins_sub
  · exact ignoresOrigins_mul
  · exact ignoresOrigins_div

/-- What ignores the origins of a value is the same for outcomes that differ in them alone. -/
theorem map_eq_of_unascribed
    {f : Value → α}
    (ignores : ∀ {u u' : Value}, u.unascribed = u'.unascribed → f u = f u')
    {outcome outcome' : Except Fault Value}
    (same : outcome.map unascribed = outcome'.map unascribed) :
    outcome.map f = outcome'.map f := by
  cases outcome with
  | error fault => rw [map_eq_error_iff.mp same.symm]
  | ok u =>
      cases outcome' with
      | error fault => contradiction
      | ok u' => exact congrArg Except.ok (ignores (Except.ok.inj same))

/-- Recognising square roots is only an optimisation. Roots that are recognised make the
longer tower serve both values. If the radicands of one tower are the first ones of the
other, the search for common roots, unless a sign stays undecided, gives the same radicands
and the same two elements. So the outcome of an operation, its exact form and its number of
square roots are the same whatever roots the operands share. -/
theorem Reachable.merge_eq_shortcut
    (left : v.Reachable)
    (right : w.Reachable) :
    ((w.tower.isInitial v.tower = true ∨ v.tower.isInitial w.tower = true) →
        unify v w = .ok (shortcut v w)) ∧
      ((w.tower.Precedes v.tower ∨ v.tower.Precedes w.tower) → SettlesSigns (merge v w) →
        ∃ pair, merge v w = .ok pair ∧ pair.unascribed = (shortcut v w).unascribed) ∧
      ∀ v' w' : Value, v'.Reachable → w'.Reachable →
        v.unascribed = v'.unascribed → w.unascribed = w'.unascribed →
        ∀ operation ∈ [Value.add, Value.sub, Value.mul, Value.div],
          SettlesSigns (operation v w) → SettlesSigns (operation v' w') →
            (operation v w).map unascribed = (operation v' w').map unascribed ∧
            (operation v w).map text = (operation v' w').map text ∧
            (operation v w).map level = (operation v' w').map level := by
  refine ⟨unify_of_isInitial, fun precedes settles => ?_, ?_⟩
  · have merged := left.isNormal.merge_of_precedes right.isNormal precedes settles
    cases outcome : merge v w with
    | error fault =>
        rw [outcome] at merged
        contradiction
    | ok pair =>
        rw [outcome] at merged
        exact ⟨pair, rfl, Except.ok.inj merged⟩
  · intro v' w' left' right' sameLeft sameRight operation member settles settles'
    have same := ignoresOrigins_of_mem member v w v' w' left.isNormal right.isNormal
      left'.isNormal right'.isNormal sameLeft sameRight settles settles'
    exact ⟨same, map_eq_of_unascribed text_eq_of_unascribed same,
      map_eq_of_unascribed level_eq_of_unascribed same⟩

/-- The square root of two in two entries of a worksheet is found to be the same one, and its
product with itself is the one of a single entry. -/
theorem merge_sqrtTwo_ascribe :
    (sqrtTwo.ascribe 0).Reachable ∧ (sqrtTwo.ascribe 1).Reachable ∧
      (sqrtTwo.ascribe 1).tower.isInitial (sqrtTwo.ascribe 0).tower = false ∧
      (∃ pair, merge (sqrtTwo.ascribe 0) (sqrtTwo.ascribe 1) = .ok pair ∧
        pair.unascribed = (shortcut (sqrtTwo.ascribe 0) (sqrtTwo.ascribe 1)).unascribed) ∧
      (mul (sqrtTwo.ascribe 0) (sqrtTwo.ascribe 1)).map text =
        (mul (sqrtTwo.ascribe 0) (sqrtTwo.ascribe 0)).map text := by
  have first := reachable_sqrtTwo.ascribe 0
  have second := reachable_sqrtTwo.ascribe 1
  have merged : (merge (sqrtTwo.ascribe 0) (sqrtTwo.ascribe 1)).toOption.map Pair.level =
      some 1 := by decide +kernel
  have product : (mul (sqrtTwo.ascribe 0) (sqrtTwo.ascribe 1)).toOption.map level =
      some 0 := by decide +kernel
  have square : (mul (sqrtTwo.ascribe 0) (sqrtTwo.ascribe 0)).toOption.map level =
      some 0 := by decide +kernel
  obtain ⟨pair, merged, _⟩ := exists_of_map_toOption merged
  obtain ⟨u, product, _⟩ := exists_of_map_toOption product
  obtain ⟨u', square, _⟩ := exists_of_map_toOption square
  obtain ⟨_, found, same⟩ := Reachable.merge_eq_shortcut first second
  refine ⟨first, second, by decide, found (.inl rfl) (settlesSigns_of_ok merged), ?_⟩
  exact (same (sqrtTwo.ascribe 0) (sqrtTwo.ascribe 0) first first rfl rfl mul (by simp)
    (settlesSigns_of_ok product) (settlesSigns_of_ok square)).2.1

end Value
end Radical
end FourFours
