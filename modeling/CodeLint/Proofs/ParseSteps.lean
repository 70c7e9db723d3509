import CodeLint.Proofs.BuiltNodes
import CodeLint.Proofs.ReadTokens

/-!
What parsing steps give. A step gives values with a property if whatever it finds has it, while the
outcomes of rules that are kept stay as the rules promise. Only parses that do not search for
particular faults are looked at, since they are the ones that give trees: what is done in search of
a fault then misses at once.
-/

namespace CodeLint.Source

open CodeLint.Tree

namespace Grammar

def keptRules : List Rule :=
  [.simpleStatement, .block, .expression, .starExpression, .disjunction, .conjunction, .inversion,
   .bitwiseOr, .bitwiseXor, .bitwiseAnd, .shift, .sum, .term, .factor, .awaitPrimary, .primary,
   .strings, .arguments, .starTarget, .targetWithStarAtom, .targetPrimary, .delTarget,
   .closedPattern, .starPattern, .invalidNamed]

theorem keptRules_of_key? {r : Rule} {k : Nat} (h : r.key? = some k) : keptRules[k]? = some r := by
  cases r <;> cases h <;> rfl

theorem key?_lt {r : Rule} {k : Nat} (h : r.key? = some k) : k < 64 := by
  have hindex := List.getElem?_eq_some_iff.mp (keptRules_of_key? h)
  exact Nat.lt_trans hindex.1 (by decide)

theorem key?_injective {r r' : Rule} {k : Nat} (h : r.key? = some k) (h' : r'.key? = some k) :
    r = r' :=
  Option.some.inj ((keptRules_of_key? h).symm.trans (keptRules_of_key? h'))

end Grammar

variable [LineLimit]

structure IsArguments (n : Node) : Prop where
  positional : ∀ m ∈ Grammar.nodesAt n .positional, Built .expression m
  keywords : ∀ m ∈ Grammar.nodesAt n .keywords, Built .keyword m

def Grammar.Rule.Builds : Grammar.Rule → Node → Prop
  | .arguments => IsArguments
  | .simpleStatement | .block | .statements | .elifPart => Built .statement
  | .closedPattern | .starPattern | .pattern => Built .pattern
  | _ => Built .expression

/-- A token whose lines are within the limit, those that begin inside it included, and, if it is a
name, without a space in its normal form. -/
structure Token.Clear (t : Token) : Prop where
  lines : t.line + t.text.length ≤ LineLimit.last
  name : t.kind = .name → ' ' ∉ (Grammar.nameText t).toList

theorem Token.Clear.sited {t : Token} (h : t.Clear) {column stop : Nat} :
    Place.Sited ⟨some t.line, column, stop⟩ :=
  ⟨t.line, rfl, Int.natCast_nonneg _,
    Int.ofNat_le.mpr (Nat.le_trans (Nat.le_add_right _ _) h.lines)⟩

def ExpressionReader.Builds (read : ExpressionReader) : Prop :=
  ∀ cs line shift n, line + cs.length + 4 ≤ LineLimit.last → read cs line shift = .ok n →
    Built .expression n

/-- A parse that does not search for faults, over tokens that are clear, and whose reader of
expressions builds them as it should. -/
structure Context.Plain (x : Context) : Prop where
  searching : x.searching = false
  tokens : ∀ t ∈ x.tokens.tokens.toList, t.Clear
  expression : x.expression.Builds

def Progress.Keeps (s : Progress) : Prop :=
  ∀ slot ns position, s.memo[slot]? = some ⟨some ns, position⟩ →
    ∀ r : Grammar.Rule, r.key? = some (slot % 64) → ∀ n ∈ ns, r.Builds n

def Answer.Meets (P : α → Prop) : Answer α → Prop
  | .found a => P a
  | _ => True

def Gives (P : α → Prop) (p : Parse α) : Prop :=
  ∀ x : Context, x.Plain → ∀ s : Progress, s.Keeps → (p x s).1.Meets P ∧ (p x s).2.Keeps

namespace Gives

variable {α β : Type} {P : α → Prop} {Q : β → Prop} {p q : Parse α}

theorem pure {a : α} (h : P a) : Gives P (Pure.pure a) := fun _ _ _ hs => ⟨h, hs⟩

theorem mono {P' : α → Prop} (h : Gives P p) (hP : ∀ a, P a → P' a) : Gives P' p := by
  intro x hx s hs
  obtain ⟨hp, hkeeps⟩ := h x hx s hs
  refine ⟨?_, hkeeps⟩
  generalize (p x s).1 = a at hp
  cases a with
  | found a => exact hP a hp
  | missing | refused | faulty e => trivial

theorem bind {f : α → Parse β} (h : Gives P p) (hf : ∀ a, P a → Gives Q (f a)) :
    Gives Q (p >>= f) := by
  intro x hx s hs
  obtain ⟨hp, hkeeps⟩ := h x hx s hs
  change ((Parse.bind p f) x s).1.Meets Q ∧ ((Parse.bind p f) x s).2.Keeps
  unfold Parse.bind
  generalize p x s = r at hp hkeeps
  obtain ⟨a, s'⟩ := r
  cases a with
  | found a => exact hf a hp x hx s' hkeeps
  | missing | refused | faulty e => exact ⟨trivial, hkeeps⟩

theorem orElse (hp : Gives P p) (hq : Gives P q) : Gives P (p <|> q) := by
  intro x hx s hs
  obtain ⟨hfirst, hkeeps⟩ := hp x hx s hs
  change ((Parse.orElse p fun _ => q) x s).1.Meets P ∧ ((Parse.orElse p fun _ => q) x s).2.Keeps
  unfold Parse.orElse
  generalize p x s = r at hfirst hkeeps
  obtain ⟨a, s'⟩ := r
  cases a with
  | found a => exact ⟨hfirst, hkeeps⟩
  | missing => exact hq x hx { s' with position := s.position } hkeeps
  | refused | faulty e => exact ⟨trivial, hkeeps⟩

theorem ite {c : Prop} [Decidable c] (hp : Gives P p) (hq : Gives P q) :
    Gives P (if c then p else q) := by
  split
  · exact hp
  · exact hq

theorem rule (h : Gives P p) : Gives P (Parse.rule p) := by
  intro x hx s hs
  obtain ⟨hp, hkeeps⟩ := h x hx s hs
  unfold Parse.rule
  generalize p x s = r at hp hkeeps
  obtain ⟨a, s'⟩ := r
  cases a with
  | found a => exact ⟨hp, hkeeps⟩
  | missing | refused | faulty e => exact ⟨trivial, hkeeps⟩

theorem commit (h : Gives P p) : Gives P (Parse.commit p) := by
  intro x hx s hs
  obtain ⟨hp, hkeeps⟩ := h x hx s hs
  unfold Parse.commit
  generalize p x s = r at hp hkeeps
  obtain ⟨a, s'⟩ := r
  cases a with
  | found a => exact ⟨hp, hkeeps⟩
  | missing | refused | faulty e => exact ⟨trivial, hkeeps⟩

theorem optional (h : Gives P p) : Gives (fun o => ∀ a ∈ o, P a) (Parse.optional p) := by
  intro x hx s hs
  obtain ⟨hp, hkeeps⟩ := h x hx s hs
  unfold Parse.optional
  generalize p x s = r at hp hkeeps
  obtain ⟨a, s'⟩ := r
  cases a with
  | found a =>
    refine ⟨?_, hkeeps⟩
    rintro b ⟨⟩
    exact hp
  | missing | refused => exact ⟨nofun, hkeeps⟩
  | faulty e => exact ⟨trivial, hkeeps⟩

theorem ahead (h : Gives P p) : Gives (fun _ => True) (Parse.ahead p) := by
  intro x hx s hs
  obtain ⟨-, hkeeps⟩ := h x hx s hs
  unfold Parse.ahead
  generalize p x s = r at hkeeps
  obtain ⟨a, s'⟩ := r
  cases a <;> exact ⟨trivial, hkeeps⟩

theorem notAhead (h : Gives P p) : Gives (fun _ => True) (Parse.notAhead p) := by
  intro x hx s hs
  obtain ⟨-, hkeeps⟩ := h x hx s hs
  unfold Parse.notAhead
  generalize p x s = r at hkeeps
  obtain ⟨a, s'⟩ := r
  cases a <;> exact ⟨trivial, hkeeps⟩

theorem repeated (h : Gives P p) (n : Nat) (acc : Array α) (hacc : ∀ a ∈ acc.toList, P a) :
    Gives (fun as => ∀ a ∈ as.toList, P a) (Parse.repeated p n acc) := by
  induction n generalizing acc with
  | zero => exact fun x hx s hs => ⟨hacc, hs⟩
  | succ n ih =>
    intro x hx s hs
    obtain ⟨hp, hkeeps⟩ := h x hx s hs
    unfold Parse.repeated
    generalize p x s = r at hp hkeeps
    obtain ⟨a, s'⟩ := r
    cases a with
    | found a =>
      -- The fuel runs over the tokens; what was collected so far is the invariant.
      refine ih (acc.push a) ?_ x hx s' hkeeps
      rw [Array.toList_push]
      exact List.forall_mem_append.mpr ⟨hacc, List.forall_mem_singleton.mpr hp⟩
    | missing | refused => exact ⟨hacc, hkeeps⟩
    | faulty e => exact ⟨trivial, hkeeps⟩

theorem many (h : Gives P p) : Gives (fun as => ∀ a ∈ as, P a) (Parse.many p) := by
  intro x hx s hs
  obtain ⟨hp, hkeeps⟩ := repeated h (x.tokens.tokens.size + 1) #[] (by simp) x hx s hs
  unfold Parse.many
  generalize Parse.repeated p _ #[] x s = r at hp hkeeps
  obtain ⟨a, s'⟩ := r
  cases a with
  | found as => exact ⟨hp, hkeeps⟩
  | missing | refused | faulty e => exact ⟨trivial, hkeeps⟩

theorem many1 (h : Gives P p) : Gives (fun as => ∀ a ∈ as, P a) (Parse.many1 p) :=
  h.bind fun _ ha => h.many.bind fun _ has => pure (List.forall_mem_cons.mpr ⟨ha, has⟩)

theorem sepBy1 {sep : Parse β} (h : Gives P p) (hsep : Gives (fun _ => True) sep) :
    Gives (fun as => ∀ a ∈ as, P a) (Parse.sepBy1 p sep) :=
  h.bind fun _ ha => (hsep.bind fun _ _ => h).many.bind fun _ has =>
    pure (List.forall_mem_cons.mpr ⟨ha, has⟩)

end Gives

/-! ### Tokens and faults -/

/-- A step of which nothing is said but that it leaves the kept outcomes as they are. -/
abbrev Passes (p : Parse α) : Prop := Gives (fun _ => True) p

section Tokens

variable {α : Type} {P : α → Prop}

theorem gives_miss : Gives P (Parse.miss : Parse α) := fun _ _ _ hs => ⟨trivial, hs⟩

theorem gives_searching (p : Parse α) : Gives P (Parse.searching p) := by
  intro x hx s hs
  rw [Parse.searching, hx.searching, if_neg Bool.false_ne_true]
  exact ⟨trivial, hs⟩

theorem gives_peek : Gives Token.Clear Parse.peek := by
  intro x hx s hs
  unfold Parse.peek
  cases htoken : x.tokens.tokens[s.position]? with
  | some t =>
    have hmem : t ∈ x.tokens.tokens.toList := by
      rw [← Array.getElem?_toList] at htoken
      exact List.mem_of_getElem? htoken
    exact ⟨hx.tokens t hmem, hs⟩
  | none =>
    cases x.tokens.stop with
    | some stop => exact ⟨trivial, hs⟩
    | none => exact ⟨trivial, hs⟩

theorem passes_advance : Passes Parse.advance := fun _ _ _ hs => ⟨trivial, hs⟩

theorem gives_satisfy (test : Token → Bool) :
    Gives (fun t => t.Clear ∧ test t = true) (Parse.satisfy test) := by
  refine gives_peek.bind fun t hclear => ?_
  by_cases ht : test t = true
  · rw [if_pos ht]
    exact passes_advance.bind fun _ _ => .pure ⟨hclear, ht⟩
  · rw [if_neg ht]
    exact gives_miss

theorem passes_satisfy (test : Token → Bool) : Passes (Parse.satisfy test) :=
  (gives_satisfy test).mono fun _ _ => trivial

theorem passes_symbol (word : String) : Passes (Parse.symbol word) := passes_satisfy _

theorem gives_symbol (word : String) : Gives Token.Clear (Parse.symbol word) :=
  (gives_satisfy _).mono fun _ h => h.1

theorem passes_softKeyword (word : String) : Passes (Parse.softKeyword word) := passes_satisfy _

theorem passes_ofKind (k : TokenKind) : Passes (Parse.ofKind k) := passes_satisfy _

theorem passes_oneOf (words : List String) : Passes (Parse.oneOf words) := passes_satisfy _

theorem gives_ofKind (k : TokenKind) : Gives Token.Clear (Parse.ofKind k) :=
  (gives_satisfy _).mono fun _ h => h.1

structure Token.Names (t : Token) : Prop where
  sited : (Grammar.placeOf t).Sited
  no_space : ' ' ∉ (Grammar.nameText t).toList

theorem gives_nameToken : Gives Token.Names Grammar.nameToken :=
  (gives_satisfy _).mono fun _ ⟨hclear, hkind⟩ =>
    ⟨hclear.sited, hclear.name (beq_iff_eq.mp hkind)⟩

theorem gives_context : Gives Context.Plain Parse.context := fun _ hx _ hs => ⟨hx, hs⟩

theorem passes_lastSeen : Passes Parse.lastSeen := by
  intro x hx s hs
  unfold Parse.lastSeen
  cases x.tokens.tokens[s.fetched - 1]? <;> exact ⟨trivial, hs⟩

theorem passes_passed : Passes Parse.passed := by
  intro x hx s hs
  unfold Parse.passed
  cases x.tokens.tokens[s.position - 1]? <;> exact ⟨trivial, hs⟩

theorem gives_fault (f : SyntaxFault) : Gives P (Parse.fault f : Parse α) :=
  fun _ _ _ hs => ⟨trivial, hs⟩

theorem gives_faultAtBytes (line bytes : Nat) (c : Cause) :
    Gives P (Parse.faultAtBytes line bytes c : Parse α) :=
  gives_context.bind fun _ _ => passes_lastSeen.bind fun _ _ => gives_fault _

theorem gives_faultAt (t : Token) (c : Cause) : Gives P (Parse.faultAt t c : Parse α) :=
  gives_faultAtBytes _ _ _

theorem gives_faultAtNode (n : Node) (c : Cause) : Gives P (Parse.faultAtNode n c : Parse α) :=
  gives_faultAtBytes _ _ _

theorem gives_faultHere (c : Cause) : Gives P (Parse.faultHere c : Parse α) :=
  passes_lastSeen.bind fun _ _ => gives_faultAtBytes _ _ _

theorem passes_forced (word : String) : Passes (Parse.forced word) := by
  refine gives_peek.bind fun t _ => ?_
  by_cases ht : ((t.kind == .operator || t.kind == .keyword) && t.text == word) = true
  · rw [if_pos ht]
    exact passes_advance.bind fun _ _ => .pure trivial
  · rw [if_neg ht]
    exact gives_faultAt _ _

theorem gives_spanned {P : Node → Prop} {p : Parse (Place → Node)}
    (h : Gives (fun f => ∀ place : Place, place.Sited → P (f place)) p) :
    Gives P (Parse.spanned p) :=
  gives_peek.bind fun _ ht => h.bind fun _ hf => passes_passed.bind fun _ _ =>
    .pure (hf _ ht.sited)

end Tokens

/-! ### Rules -/

theorem keeps_insert {s : Progress} (hs : s.Keeps) {r : Grammar.Rule} {k start : Nat}
    (hk : r.key? = some k) {outcome : Remembered}
    (hnodes : ∀ ns ∈ outcome.nodes, ∀ n ∈ ns, r.Builds n) :
    ({ s with memo := s.memo.insert (64 * start + k) outcome } : Progress).Keeps := by
  intro slot ns position hslot r' hr'
  simp only [Std.TreeMap.getElem?_insert] at hslot
  split at hslot
  · next heq =>
    -- The number of a slot is its position and, below 64, its rule: no other rule reads this one.
    have hslot' : 64 * start + k = slot := by simpa using heq
    have hmod : slot % 64 = k := by
      have := Grammar.key?_lt hk
      omega
    rw [hmod] at hr'
    rw [← Grammar.key?_injective hk hr']
    cases hslot
    exact hnodes ns rfl
  · exact hs slot ns position hslot r' hr'

theorem gives_remember {r : Grammar.Rule} {k : Nat} (hk : r.key? = some k) {p : Parse (List Node)}
    (h : Gives (fun ns => ∀ n ∈ ns, r.Builds n) p) :
    Gives (fun ns => ∀ n ∈ ns, r.Builds n) (Parse.remember k p) := by
  intro x hx s hs
  have hmod : (64 * s.position + k) % 64 = k := by
    have := Grammar.key?_lt hk
    omega
  unfold Parse.remember
  dsimp only
  cases hmemo : s.memo[64 * s.position + k]? with
  | some outcome =>
    obtain ⟨nodes, position⟩ := outcome
    cases nodes with
    | some ns => exact ⟨hs _ ns position hmemo r (by rw [hmod, hk]), hs⟩
    | none => exact ⟨trivial, hs⟩
  | none =>
    obtain ⟨hp, hkeeps⟩ := h x hx s hs
    generalize p x s = answer at hp hkeeps
    obtain ⟨a, s'⟩ := answer
    cases a with
    | found ns =>
      refine ⟨hp, keeps_insert hkeeps hk ?_⟩
      rintro ns' ⟨⟩
      exact hp
    | missing | refused => exact ⟨trivial, keeps_insert hkeeps hk nofun⟩
    | faulty e => exact ⟨trivial, hkeeps⟩

namespace Grammar

def Keep (rules : Rules) : Prop := ∀ r, Gives (fun ns => ∀ n ∈ ns, r.Builds n) (rules r)

theorem Keep.one {rules : Rules} (h : Keep rules) (r : Rule) : Gives r.Builds (rules.one r) := by
  refine (h r).bind fun ns hns => ?_
  split
  · exact .pure (hns _ (List.mem_singleton.mpr rfl))
  · exact gives_miss

theorem gives_single {P : Node → Prop} {p : Parse Node} (h : Gives P p) :
    Gives (fun ns => ∀ n ∈ ns, P n) (single p) :=
  h.bind fun _ hn => .pure (List.forall_mem_singleton.mpr hn)

end Grammar

end CodeLint.Source
