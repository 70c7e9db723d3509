import CodeLint.Lint.Analyzer
import CodeLint.Proofs.ParsedExpressions
import CodeLint.Proofs.Totality

/-!
Patterns and statements as the parser builds them are sound, and so the tree of every text that can
be read is well-formed. The rules are followed to any depth by induction on the fuel of the parser,
and formatted texts inside each other by induction on the fuel of the reader of expressions.
-/

namespace CodeLint.Source

open CodeLint.Tree

namespace Grammar

theorem not_mem_intercalate {α : Type} {a : α} {sep : List α} (hsep : a ∉ sep) :
    ∀ {xs : List (List α)}, (∀ x ∈ xs, a ∉ x) → a ∉ sep.intercalate xs
  | [], _ => List.not_mem_nil
  | [x], h => by rw [List.intercalate_singleton]; exact h x List.mem_cons_self
  | x :: y :: xs, h => by
    obtain ⟨hx, hrest⟩ := List.forall_mem_cons.mp h
    rw [List.intercalate_cons_cons, List.mem_append, List.mem_append, not_or, not_or]
    exact ⟨⟨hx, hsep⟩, not_mem_intercalate hsep hrest⟩

variable [LineLimit] {rules : Rules}

/-! ### Patterns -/

theorem realNumberNode_gives : Gives (Built .expression) realNumberNode :=
  number_gives.bind fun _ hn => .ite (gives_faultAtNode _ _) (.pure hn)

theorem imaginaryNumberNode_gives : Gives (Built .expression) imaginaryNumberNode :=
  number_gives.bind fun _ hn => .ite (.pure hn) (gives_faultAtNode _ _)

theorem signedNumber_gives : Gives (Built .expression) signedNumber :=
  number_gives.orElse (unary_gives _ (built_bare rfl rfl rfl rfl) number_gives)

theorem complexNumber_gives : Gives (Built .expression) complexNumber := by
  have hreal := realNumberNode_gives.orElse
    (unary_gives "-" (k := .uSub) (built_bare rfl rfl rfl rfl) realNumberNode_gives)
  refine gives_spanned <| hreal.bind fun re hre => (passes_oneOf _).bind fun t _ =>
    imaginaryNumberNode_gives.bind fun im him => .pure fun p hp => ?_
  have hsign : Built .operator (bare (if t.text == "+" then .add else .sub)) := by
    split
    · exact built_bare rfl rfl rfl rfl
    · exact built_bare rfl rfl rfl rfl
  exact built_build rfl rfl rfl hp ((suits_node rfl rfl hre).cons
    ((suits_node rfl rfl hsign).cons (suits_node rfl rfl him).only))

theorem literalValue_gives (h : Keep rules) : Gives (Built .expression) (literalValue rules) :=
  .orElse (signedNumber_gives.bind fun _ hn => (passes_oneOf _).notAhead.bind fun _ _ => .pure hn)
    (complexNumber_gives.orElse (h.one .strings))

theorem literalPattern_gives (h : Keep rules) : Gives (Built .pattern) (literalPattern rules) := by
  have hsingleton (word : String) (a : Atom) : Gives (Built .pattern) (Parse.spanned do
      let _ ← Parse.symbol word
      return build .matchSingleton [atomField .value a]) :=
    gives_spanned <| (passes_symbol _).bind fun _ _ => .pure fun _ hp =>
      built_build rfl rfl rfl hp (suits_plain rfl rfl (by decide) a).only
  exact .orElse (gives_spanned <| (literalValue_gives h).bind fun _ hn => .pure fun _ hp =>
    built_build rfl rfl rfl hp (suits_node rfl rfl hn).only)
    ((hsingleton _ _).orElse ((hsingleton _ _).orElse (hsingleton _ _)))

theorem literalExpression_gives (h : Keep rules) :
    Gives (Built .expression) (literalExpression rules) :=
  (literalValue_gives h).orElse ((constantOf_gives _ _).orElse
    ((constantOf_gives _ _).orElse (constantOf_gives _ _)))

theorem captureTarget_gives : Gives Token.Names captureTarget :=
  (passes_softKeyword _).notAhead.bind fun _ _ => gives_nameToken.bind fun _ ht =>
    (passes_oneOf _).notAhead.bind fun _ _ => .pure ht

theorem capturePattern_gives : Gives (Built .pattern) capturePattern :=
  gives_spanned <| captureTarget_gives.bind fun _ ht => .pure fun _ hp =>
    built_build rfl rfl rfl hp (suits_text rfl rfl fun _ => ht.no_space).only

theorem wildcardPattern_gives : Gives (Built .pattern) wildcardPattern :=
  gives_spanned <| (passes_softKeyword _).bind fun _ _ => .pure fun _ hp =>
    built_build rfl rfl rfl hp allSuit_nil

theorem nameOrDotted_gives : Gives (Built .expression) nameOrDotted :=
  leftward_gives name_gives fun _ hn => attributeStep_extends built_load hn

theorem dottedValue_gives : Gives (Built .expression) dottedValue :=
  nameOrDotted_gives.bind fun _ hn => .ite gives_miss (.pure hn)

theorem valuePattern_gives : Gives (Built .pattern) valuePattern :=
  gives_spanned <| dottedValue_gives.bind fun _ hn => (passes_oneOf _).notAhead.bind fun _ _ =>
    .pure fun _ hp => built_build rfl rfl rfl hp (suits_node rfl rfl hn).only

theorem groupPattern_gives (h : Keep rules) : Gives (Built .pattern) (groupPattern rules) :=
  (passes_symbol _).bind fun _ _ => (h.one .pattern).bind fun _ hp =>
    (passes_symbol _).bind fun _ _ => .pure hp

theorem maybeStarPattern_gives (h : Keep rules) : Gives (Built .pattern) (maybeStarPattern rules) :=
  (h.one .starPattern).orElse (h.one .pattern)

theorem maybeSequence_gives (h : Keep rules) :
    Gives (fun ps => ∀ p ∈ ps, Built .pattern p) (maybeSequence rules) :=
  ((maybeStarPattern_gives h).sepBy1 (passes_symbol _)).bind fun _ hps =>
    (passes_symbol _).optional.bind fun _ _ => .pure hps

theorem openSequence_gives (h : Keep rules) :
    Gives (fun ps => ∀ p ∈ ps, Built .pattern p) (openSequence rules) :=
  (maybeStarPattern_gives h).bind fun _ hp => (passes_symbol _).bind fun _ _ =>
    (maybeSequence_gives h).optional.bind fun _ hps =>
      .pure (List.forall_mem_cons.mpr ⟨hp, forall_getD hps⟩)

theorem matchSequence_built {ps : List Node} (hps : ∀ p ∈ ps, Built .pattern p) {place : Place}
    (hplace : place.Sited) :
    Built .pattern (build .matchSequence [listField .patterns ps] place) :=
  built_build rfl rfl rfl hplace (suits_list rfl rfl hps).only

theorem sequencePattern_gives (h : Keep rules) : Gives (Built .pattern) (sequencePattern rules) :=
  .orElse (gives_spanned <| (passes_symbol _).bind fun _ _ => (maybeSequence_gives h).optional.bind
    fun _ hps => (passes_symbol _).bind fun _ _ => .pure fun _ hp =>
      matchSequence_built (forall_getD hps) hp)
    (gives_spanned <| (passes_symbol _).bind fun _ _ => (openSequence_gives h).optional.bind
      fun _ hps => (passes_symbol _).bind fun _ _ => .pure fun _ hp =>
        matchSequence_built (forall_getD hps) hp)

theorem starPattern_gives : Gives (Built .pattern) starPattern :=
  .orElse (gives_spanned <| (passes_symbol _).bind fun _ _ => captureTarget_gives.bind fun _ ht =>
    .pure fun _ hp => built_build rfl rfl rfl hp (suits_text rfl rfl fun _ => ht.no_space).only)
    (gives_spanned <| (passes_symbol _).bind fun _ _ => wildcardPattern_gives.bind fun _ _ =>
      .pure fun _ hp => built_build rfl rfl rfl hp allSuit_nil)

theorem keyPattern_gives (h : Keep rules) :
    Gives (fun i => Built .expression i.1 ∧ Built .pattern i.2) (keyPattern rules) :=
  ((literalExpression_gives h).orElse dottedValue_gives).bind fun _ hk => (passes_symbol _).bind
    fun _ _ => (h.one .pattern).bind fun _ hp => .pure ⟨hk, hp⟩

theorem mappingOf_built {items : List (Node × Node)}
    (hitems : ∀ i ∈ items, Built .expression i.1 ∧ Built .pattern i.2) (rest : Option Token)
    {p : Place} (hp : p.Sited) : Built .pattern (mappingOf items rest p) := by
  refine built_build rfl rfl rfl hp (((suits_list rfl rfl fun n hn => ?_).cons
    (suits_list rfl rfl fun n hn => ?_).only).append
      (suits_optionalText rfl rfl fun h => absurd h (by decide)))
  · obtain ⟨i, hi, rfl⟩ := List.mem_map.mp hn
    exact (hitems i hi).1
  · obtain ⟨i, hi, rfl⟩ := List.mem_map.mp hn
    exact (hitems i hi).2

theorem mappingPattern_gives (h : Keep rules) : Gives (Built .pattern) (mappingPattern rules) := by
  have hnone : ∀ i ∈ ([] : List (Node × Node)), Built .expression i.1 ∧ Built .pattern i.2 :=
    fun _ hi => absurd hi List.not_mem_nil
  have hrest : Passes restPattern :=
    (passes_symbol _).bind fun _ _ => captureTarget_gives.mono fun _ _ => trivial
  have hitems := (keyPattern_gives h).sepBy1 (passes_symbol ",")
  refine .orElse ?_ (.orElse ?_ (.orElse ?_ ?_))
  · exact gives_spanned <| (passes_symbol _).bind fun _ _ => (passes_symbol _).bind fun _ _ =>
      .pure fun _ hp => mappingOf_built hnone none hp
  · exact gives_spanned <| (passes_symbol _).bind fun _ _ => hrest.bind fun r _ =>
      (passes_symbol _).optional.bind fun _ _ => (passes_symbol _).bind fun _ _ =>
        .pure fun _ hp => mappingOf_built hnone (some r) hp
  · exact gives_spanned <| (passes_symbol _).bind fun _ _ => hitems.bind fun _ hi =>
      (passes_symbol _).bind fun _ _ => hrest.bind fun r _ => (passes_symbol _).optional.bind
        fun _ _ => (passes_symbol _).bind fun _ _ => .pure fun _ hp =>
          mappingOf_built hi (some r) hp
  · exact gives_spanned <| (passes_symbol _).bind fun _ _ => hitems.bind fun _ hi =>
      (passes_symbol _).optional.bind fun _ _ => (passes_symbol _).bind fun _ _ =>
        .pure fun _ hp => mappingOf_built hi none hp

theorem classOf_built {n : Node} (hn : Built .expression n) {ps : List Node}
    (hps : ∀ p ∈ ps, Built .pattern p) {ks : List (Token × Node)}
    (hks : ∀ k ∈ ks, Built .pattern k.2) {p : Place} (hp : p.Sited) :
    Built .pattern (classOf n ps ks p) := by
  refine built_build rfl rfl rfl hp ((suits_node rfl rfl hn).cons ((suits_list rfl rfl hps).cons
    ((suits_texts rfl rfl ks _).cons (suits_list rfl rfl fun m hm => ?_).only)))
  obtain ⟨k, hk, rfl⟩ := List.mem_map.mp hm
  exact hks k hk

theorem keywordPattern_gives (h : Keep rules) :
    Gives (fun k => Built .pattern k.2) (keywordPattern rules) := by
  refine gives_nameToken.bind fun t _ => (passes_symbol _).bind fun _ _ =>
    (h.one .pattern).bind fun n hn => .pure ?_
  exact hn

theorem classPattern_gives (h : Keep rules) : Gives (Built .pattern) (classPattern rules) := by
  have hnoPatterns : ∀ p ∈ ([] : List Node), Built .pattern p :=
    fun _ hp => absurd hp List.not_mem_nil
  have hnoKeywords : ∀ k ∈ ([] : List (Token × Node)), Built .pattern k.2 :=
    fun _ hk => absurd hk List.not_mem_nil
  have hpatterns : Gives (fun ps => ∀ p ∈ ps, Built .pattern p) (positionalPatterns rules) :=
    (h.one .pattern).sepBy1 (passes_symbol _)
  have hkeywords : Gives (fun ks => ∀ k ∈ ks, Built .pattern k.2) (keywordPatterns rules) :=
    (keywordPattern_gives h).sepBy1 (passes_symbol _)
  have hclosing : Passes (do
      let _ ← Parse.optional (Parse.symbol ",")
      let _ ← Parse.symbol ")") :=
    (passes_symbol _).optional.bind fun _ _ => (passes_symbol _).bind fun _ _ => .pure trivial
  refine .orElse ?_ (.orElse ?_ (.orElse ?_ (.orElse ?_ (gives_searching _))))
  · exact gives_spanned <| nameOrDotted_gives.bind fun _ hn => (passes_symbol _).bind fun _ _ =>
      (passes_symbol _).bind fun _ _ => .pure fun _ hp =>
        classOf_built hn hnoPatterns hnoKeywords hp
  · exact gives_spanned <| nameOrDotted_gives.bind fun _ hn => (passes_symbol _).bind fun _ _ =>
      hpatterns.bind fun _ hps => hclosing.bind fun _ _ => .pure fun _ hp =>
        classOf_built hn hps hnoKeywords hp
  · exact gives_spanned <| nameOrDotted_gives.bind fun _ hn => (passes_symbol _).bind fun _ _ =>
      hkeywords.bind fun _ hks => hclosing.bind fun _ _ => .pure fun _ hp =>
        classOf_built hn hnoPatterns hks hp
  · exact gives_spanned <| nameOrDotted_gives.bind fun _ hn => (passes_symbol _).bind fun _ _ =>
      hpatterns.bind fun _ hps => (passes_symbol _).bind fun _ _ => hkeywords.bind fun _ hks =>
        hclosing.bind fun _ _ => .pure fun _ hp => classOf_built hn hps hks hp

theorem closedPattern_gives (h : Keep rules) : Gives (Built .pattern) (closedPattern rules) :=
  (literalPattern_gives h).orElse <| capturePattern_gives.orElse <| wildcardPattern_gives.orElse <|
    valuePattern_gives.orElse <| (groupPattern_gives h).orElse <| (sequencePattern_gives h).orElse <|
    (mappingPattern_gives h).orElse (classPattern_gives h)

theorem orPattern_gives (h : Keep rules) : Gives (Built .pattern) (orPattern rules) := by
  refine gives_peek.bind fun first hfirst => ((h.one .closedPattern).sepBy1 (passes_symbol _)).bind
    fun ps hps => ?_
  split
  · exact .pure (hps _ (List.mem_singleton.mpr rfl))
  · exact passes_passed.bind fun _ _ => .pure (built_build rfl rfl rfl hfirst.sited
      (suits_list rfl rfl hps).only)

theorem asPattern_gives (h : Keep rules) : Gives (Built .pattern) (asPattern rules) :=
  .orElse (gives_spanned <| (orPattern_gives h).bind fun _ hn => (passes_symbol _).bind fun _ _ =>
    captureTarget_gives.bind fun _ ht => .pure fun _ hp => built_build rfl rfl rfl hp
      ((suits_node rfl rfl hn).cons (suits_text rfl rfl fun _ => ht.no_space).only)) (gives_searching _)

theorem pattern_gives (h : Keep rules) : Gives (Built .pattern) (pattern rules) :=
  (asPattern_gives h).orElse (orPattern_gives h)

theorem openPattern_gives (h : Keep rules) : Gives (Built .pattern) (openPattern rules) :=
  .orElse (gives_spanned <| (openSequence_gives h).bind fun _ hps => .pure fun _ hp =>
    matchSequence_built hps hp) (h.one .pattern)

/-! ### Statements of one line -/

theorem assignedValue_gives (h : Keep rules) : Gives (Built .expression) (assignedValue rules) :=
  (yieldExpression_gives h).orElse (h.one .starExpressions)

theorem annotationValue_gives (h : Keep rules) :
    Gives (fun o => ∀ n ∈ o, Built .expression n) (annotationValue rules) :=
  ((passes_symbol _).bind fun _ _ => assignedValue_gives h).optional

theorem annotatedNode_built {target hint : Node} (htarget : Built .expression target)
    (hhint : Built .expression hint) {value : Option Node}
    (hvalue : ∀ n ∈ value, Built .expression n) (simple : Int) {p : Place}
    (hp : p.Sited) : Built .statement (annotatedNode target hint value simple p) := by
  refine built_build rfl ?_ rfl hp ((((suits_node rfl rfl htarget).cons
    (suits_node rfl rfl hhint).only).append (suits_optional rfl rfl hvalue)).append
      (suits_number rfl rfl _).only)
  cases value <;> rfl

theorem augmentedOperator_gives :
    Gives (fun k => Built .operator (bare k)) augmentedOperator :=
  (passes_oneOf _).bind fun _ _ => .pure (built_lookup rfl _)

theorem invalidAnnotationTarget_gives (h : Keep rules) :
    Gives (Built .expression) (invalidAnnotationTarget rules) :=
  (listDisplay_gives h).rule.orElse ((tupleDisplay_gives h).rule.orElse
    ((passes_symbol _).bind fun _ _ => (h.one .bracketedTarget).bind fun _ hn =>
      (passes_symbol _).bind fun _ _ => .pure hn))

theorem assignment_gives (h : Keep rules) : Gives (Built .statement) (assignment rules) := by
  refine Gives.rule (.orElse ?_ (.orElse ?_ (.orElse ?_ (.orElse ?_ (gives_searching _)))))
  · exact gives_spanned <| gives_nameToken.bind fun _ ht => (passes_symbol _).bind fun _ _ =>
      (h.one .expression).bind fun _ ha => (annotationValue_gives h).bind fun _ hv =>
        .pure fun _ hp => annotatedNode_built
          (built_nameNode built_store ht.sited ht.no_space) ha hv 1 hp
  · exact gives_spanned <| (Gives.orElse ((passes_symbol _).bind fun _ _ =>
      (h.one .singleTarget).bind fun _ hn => (passes_symbol _).bind fun _ _ => .pure hn)
        (attributeOrSubscript_gives h built_store)).bind fun _ hn => (passes_symbol _).bind fun _ _ =>
          (h.one .expression).bind fun _ ha => (annotationValue_gives h).bind fun _ hv =>
            .pure fun _ hp => annotatedNode_built hn ha hv 0 hp
  · exact gives_spanned <| ((starTargets_gives h).bind fun _ hn => (passes_symbol _).bind fun _ _ =>
      .pure hn).many1.bind fun _ htargets => (assignedValue_gives h).bind fun _ hv =>
        (passes_symbol _).notAhead.bind fun _ _ => .pure fun _ hp => built_build rfl rfl rfl hp
          ((suits_list rfl rfl htargets).cons (suits_node rfl rfl hv).only)
  · exact gives_spanned <| (h.one .singleTarget).bind fun _ hn => augmentedOperator_gives.bind
      fun _ hk => (assignedValue_gives h).commit.bind fun _ hv => .pure fun _ hp =>
        built_build rfl rfl rfl hp ((suits_node rfl rfl hn).cons
          ((suits_node rfl rfl hk).cons (suits_node rfl rfl hv).only))

theorem returnStatement_gives (h : Keep rules) : Gives (Built .statement) (returnStatement rules) :=
  gives_spanned <| (passes_symbol _).bind fun _ _ => (h.one .starExpressions).optional.bind
    fun _ hv => .pure fun _ hp => built_build rfl rfl rfl hp (suits_optional rfl rfl hv)

theorem raiseStatement_gives (h : Keep rules) : Gives (Built .statement) (raiseStatement rules) :=
  .orElse (gives_spanned <| (passes_symbol _).bind fun _ _ => (h.one .expression).bind fun _ he =>
    ((passes_symbol _).bind fun _ _ => h.one .expression).optional.bind fun _ hc =>
      .pure fun _ hp => built_build rfl rfl rfl hp
        ((suits_node rfl rfl he).cons (suits_optional rfl rfl hc)))
    (gives_spanned <| (passes_symbol _).bind fun _ _ => .pure fun _ hp =>
      built_build rfl rfl rfl hp allSuit_nil)

theorem namesStatement_gives (word : String) {k : Kind} (hcategory : k.category = .statement)
    (hmany : k.takesMany .names = true) (hcontent : k.content .names = .text)
    (hlayout : k.layout = [(.names, .many)]) (hkind : (k == .compare) = false) :
    Gives (Built .statement) (namesStatement word k) := by
  refine gives_spanned <| (passes_symbol _).bind fun _ _ =>
    (gives_nameToken.sepBy1 (passes_symbol _)).bind fun ts _ => .pure fun p hp => ?_
  exact built_build hcategory (by rw [complete, hlayout]; rfl) hkind hp
    (suits_texts hmany hcontent ts _).only

theorem deleteStatement_gives (h : Keep rules) : Gives (Built .statement) (deleteStatement rules) :=
  Gives.rule (.orElse (gives_spanned <| (passes_symbol _).bind fun _ _ => (delTargets_gives h).bind
    fun _ hns => (Gives.orElse (P := fun _ => True) ((passes_symbol _).bind fun _ _ => .pure trivial)
      ((passes_ofKind _).bind fun _ _ => .pure trivial)).ahead.bind fun _ _ => .pure fun _ hp =>
        built_build rfl rfl rfl hp (suits_list rfl rfl hns).only) (gives_searching _))

theorem assertStatement_gives (h : Keep rules) : Gives (Built .statement) (assertStatement rules) :=
  gives_spanned <| (passes_symbol _).bind fun _ _ => (h.one .expression).bind fun _ he =>
    ((passes_symbol _).bind fun _ _ => h.one .expression).optional.bind fun _ hm =>
      .pure fun _ hp => built_build rfl rfl rfl hp
        ((suits_node rfl rfl he).cons (suits_optional rfl rfl hm))

theorem dottedName_gives : Gives (fun s => ' ' ∉ s.toList) dottedName := by
  refine gives_nameToken.bind fun t ht => ((passes_symbol _).bind fun _ _ =>
    gives_nameToken).many.bind fun ts hts => .pure ?_
  have hall : ∀ s ∈ (t :: ts).map nameText, ' ' ∉ s.toList :=
    List.forall_mem_map.mpr fun u hu => (List.forall_mem_cons.mpr ⟨ht, hts⟩ u hu).no_space
  rw [String.toList_intercalate]
  exact not_mem_intercalate (by decide) (List.forall_mem_map.mpr hall)

theorem optionalName_gives (word : String) : Gives (fun o => ∀ s ∈ o, ' ' ∉ s.toList)
    (Parse.optional do let _ ← Parse.symbol word; return nameText (← nameToken)) :=
  Gives.optional (P := fun s : String => ' ' ∉ s.toList) ((passes_symbol _).bind fun _ _ =>
    gives_nameToken.bind fun _ ht => .pure ht.no_space)

theorem aliasOf_built {name : String} (hname : ' ' ∉ name.toList) {other : Option String}
    (hother : ∀ s ∈ other, ' ' ∉ s.toList) {p : Place} (hp : p.Sited) :
    Built .importItem (aliasOf name other p) :=
  built_build rfl rfl rfl hp
    ((suits_text rfl rfl fun _ => hname).cons (suits_optionalText rfl rfl fun _ => hother))

theorem importStatement_gives : Gives (Built .statement) importStatement := by
  have hitem : Gives (Built .importItem) (Parse.spanned do
      let n ← dottedName
      return aliasOf n (← aliasPart)) :=
    gives_spanned <| dottedName_gives.bind fun _ hn => (optionalName_gives _).bind fun _ ho =>
      .pure fun _ hp => aliasOf_built hn ho hp
  exact gives_spanned <| (passes_symbol _).bind fun _ _ => (hitem.sepBy1 (passes_symbol _)).bind
    fun _ hns => .pure fun _ hp => built_build rfl rfl rfl hp (suits_list rfl rfl hns).only

theorem importedNames_gives :
    Gives (fun ns => ∀ n ∈ ns, Built .importItem n) importedNames :=
  Gives.sepBy1 (gives_spanned <| gives_nameToken.bind fun _ ht => (optionalName_gives _).bind
    fun _ ho => .pure fun _ hp => aliasOf_built ht.no_space ho hp) (passes_symbol _)

theorem importTargets_gives : Gives (fun ns => ∀ n ∈ ns, Built .importItem n) importTargets := by
  refine Gives.rule (.orElse ?_ (.orElse ?_ (.orElse ?_ (gives_searching _))))
  · exact (passes_symbol _).bind fun _ _ => importedNames_gives.bind fun _ hns =>
      (passes_symbol _).optional.bind fun _ _ => (passes_symbol _).bind fun _ _ => .pure hns
  · exact importedNames_gives.bind fun _ hns => (passes_symbol _).notAhead.bind fun _ _ => .pure hns
  · exact gives_single (gives_spanned <| (passes_symbol _).bind fun _ _ => .pure fun _ hp =>
      aliasOf_built (by decide) (fun _ h => absurd h (Option.not_mem_none _)) hp)

theorem importFromNode_built (package : Option String) {ns : List Node}
    (hns : ∀ n ∈ ns, Built .importItem n) (level : Nat) {p : Place} (hp : p.Sited) :
    Built .statement (importFromNode package ns level p) := by
  refine built_build rfl ?_ rfl hp ((suits_optionalText rfl rfl fun h => absurd h (by decide)).append
    ((suits_list rfl rfl hns).cons (suits_number rfl rfl _).only))
  cases package <;> rfl

theorem importFromStatement_gives : Gives (Built .statement) importFromStatement := by
  have hdots : Passes dots := (passes_oneOf _).bind fun _ _ => .pure trivial
  exact .orElse (gives_spanned <| (passes_symbol _).bind fun _ _ => hdots.many.bind fun _ _ =>
    dottedName_gives.bind fun n _ => (passes_symbol _).bind fun _ _ => importTargets_gives.bind
      fun _ hns => .pure fun _ hp => importFromNode_built (some n) hns _ hp)
    (gives_spanned <| (passes_symbol _).bind fun _ _ => hdots.many1.bind fun _ _ =>
      (passes_symbol _).bind fun _ _ => importTargets_gives.bind fun _ hns => .pure fun _ hp =>
        importFromNode_built none hns _ hp)

theorem wordStatement_gives (word : String) {k : Kind} (hcategory : k.category = .statement)
    (hlayout : k.layout = []) (hkind : (k == .compare) = false) :
    Gives (Built .statement) (wordStatement word k) :=
  gives_spanned <| (passes_symbol _).bind fun _ _ => .pure fun _ hp =>
    built_build hcategory (by rw [complete, hlayout]; rfl) hkind hp allSuit_nil

theorem expressionStatement_gives {e : Parse Node} (he : Gives (Built .expression) e) :
    Gives (Built .statement) (expressionStatement e) :=
  gives_spanned <| he.bind fun _ hn => .pure fun _ hp =>
    built_build rfl rfl rfl hp (suits_node rfl rfl hn).only

theorem simpleStatement_gives (h : Keep rules) : Gives (Built .statement) (simpleStatement rules) :=
  (assignment_gives h).orElse <| (expressionStatement_gives (h.one .starExpressions)).orElse <|
    (returnStatement_gives h).orElse <| importStatement_gives.orElse <|
    importFromStatement_gives.orElse <| (raiseStatement_gives h).orElse <|
    (wordStatement_gives _ rfl rfl rfl).orElse <| (deleteStatement_gives h).orElse <|
    (expressionStatement_gives (yieldExpression_gives h)).orElse <|
    (assertStatement_gives h).orElse <| (wordStatement_gives _ rfl rfl rfl).orElse <|
    (wordStatement_gives _ rfl rfl rfl).orElse <| (namesStatement_gives _ rfl rfl rfl rfl rfl).orElse
    (namesStatement_gives _ rfl rfl rfl rfl rfl)

theorem simpleStatements_gives (h : Keep rules) :
    Gives (fun ns => ∀ n ∈ ns, Built .statement n) (simpleStatements rules) :=
  .orElse ((h.one .simpleStatement).bind fun _ hn => (passes_symbol _).notAhead.bind fun _ _ =>
    (passes_ofKind _).bind fun _ _ => .pure (List.forall_mem_singleton.mpr hn))
    (((h.one .simpleStatement).sepBy1 (passes_symbol _)).bind fun _ hns =>
      (passes_symbol _).optional.bind fun _ _ => (passes_ofKind _).bind fun _ _ => .pure hns)

/-! ### Statements with blocks -/

abbrev GivesStatements (p : Parse (List Node)) : Prop :=
  Gives (fun ns => ∀ n ∈ ns, Built .statement n) p

abbrev GivesStatementAt (p : Parse (Place → Node)) : Prop :=
  Gives (fun f => ∀ place : Place, place.Sited → Built .statement (f place)) p

theorem block_gives (h : Keep rules) : GivesStatements (block rules) := by
  refine .orElse ?_ ((simpleStatements_gives h).orElse (gives_searching _))
  exact (passes_ofKind _).bind fun _ _ => (passes_ofKind _).bind fun _ _ =>
    (h .statements).bind fun _ hns => (passes_ofKind _).bind fun _ _ => .pure hns

theorem decorators_gives (h : Keep rules) :
    Gives (fun ns => ∀ n ∈ ns, Built .expression n) (decorators rules) :=
  ((passes_symbol _).bind fun _ _ => (h.one .namedExpression).bind fun _ hn =>
    (passes_ofKind _).bind fun _ _ => .pure hn).many1

theorem classArguments_gives (h : Keep rules) :
    Gives (fun o => ∀ n ∈ o, IsArguments n) (classArguments rules) := by
  refine ((passes_symbol _).bind fun _ _ => (h.one .arguments).optional.bind fun _ ho =>
    (passes_symbol _).bind fun _ _ => .pure ho).optional.bind fun o ho => .pure ?_
  cases o with
  | none => exact fun _ hn => absurd hn (Option.not_mem_none _)
  | some arguments => exact ho arguments rfl

theorem classDefinition_gives (h : Keep rules) {ds : List Node}
    (hds : ∀ n ∈ ds, Built .expression n) :
    Gives (Built .statement) (classDefinition rules ds) := by
  refine (gives_searching _).orElse <| gives_spanned <| (passes_symbol _).bind fun _ _ =>
    gives_nameToken.bind fun t ht => (classArguments_gives h).bind fun arguments harguments =>
      (passes_symbol _).bind fun _ _ => (h .block).bind fun b hb => .pure fun p hp => ?_
  cases arguments with
  | none =>
    exact built_build rfl rfl rfl hp ((suits_text rfl rfl fun _ => ht.no_space).cons
      ((suits_list rfl rfl fun _ hn => absurd hn List.not_mem_nil).cons
        ((suits_list rfl rfl fun _ hn => absurd hn List.not_mem_nil).cons
          ((suits_list rfl rfl hb).cons (suits_list rfl rfl hds).only))))
  | some a =>
    obtain ⟨hpositional, hkeywords⟩ := harguments a rfl
    exact built_build rfl rfl rfl hp ((suits_text rfl rfl fun _ => ht.no_space).cons
      ((suits_list rfl rfl hpositional).cons ((suits_list rfl rfl hkeywords).cons
        ((suits_list rfl rfl hb).cons (suits_list rfl rfl hds).only))))

theorem returnHint_gives (h : Keep rules) :
    Gives (fun o => ∀ n ∈ o, Built .expression n) (returnHint rules) :=
  ((passes_symbol _).bind fun _ _ => h.one .expression).optional

theorem functionOf_gives (h : Keep rules) {k : Kind}
    (hk : k = .functionDef ∨ k = .asyncFunctionDef) {ds : List Node}
    (hds : ∀ n ∈ ds, Built .expression n) : GivesStatementAt (functionOf rules k ds) := by
  refine (passes_symbol _).bind fun _ _ => gives_nameToken.bind fun t ht =>
    (passes_forced _).bind fun _ _ => (parameters_gives h .function).optional.bind fun ps hps =>
      (passes_symbol _).bind fun _ _ => (returnHint_gives h).bind fun r hr =>
        (passes_forced _).bind fun _ _ => (h .block).bind fun b hb => .pure fun p hp => ?_
  rcases hk with rfl | rfl
  all_goals
    exact built_build rfl rfl rfl hp (((suits_text rfl rfl fun _ => ht.no_space).cons
      ((suits_node rfl rfl (parametersNode_built hps)).cons ((suits_list rfl rfl hb).cons
        (suits_list rfl rfl hds).only))).append (suits_optional rfl rfl hr))

theorem functionDefinition_gives (h : Keep rules) {ds : List Node}
    (hds : ∀ n ∈ ds, Built .expression n) :
    Gives (Built .statement) (functionDefinition rules ds) :=
  (gives_searching _).orElse <| (gives_spanned (functionOf_gives h (.inl rfl) hds)).orElse <|
    gives_spanned ((passes_symbol _).bind fun _ _ => functionOf_gives h (.inr rfl) hds)

theorem decorated_gives (h : Keep rules) {definition : List Node → Parse Node}
    (hdefinition : ∀ ds, (∀ n ∈ ds, Built .expression n) →
      Gives (Built .statement) (definition ds)) :
    Gives (Built .statement) (decorated rules definition) :=
  .orElse ((decorators_gives h).bind fun ds hds => hdefinition ds hds)
    (hdefinition [] fun _ hn => absurd hn List.not_mem_nil)

theorem elsePart_gives (h : Keep rules) : GivesStatements (elsePart rules) :=
  (gives_searching _).orElse <| (passes_symbol _).bind fun _ _ =>
    (passes_forced _).bind fun _ _ => h .block

theorem branch_gives (h : Keep rules) (word : String) :
    Gives (Built .statement) (branch rules word) := by
  have hrest : Gives (fun o => ∀ ns ∈ o, ∀ n ∈ ns, Built .statement n)
      ((do return some (← rules .elifPart)) <|> Parse.optional (elsePart rules)) := by
    refine .orElse ((h .elifPart).bind fun ns hns => .pure ?_) (elsePart_gives h).optional
    rintro ns' ⟨⟩
    exact hns
  exact (gives_searching _).orElse <| gives_spanned <| (passes_symbol _).bind fun _ _ =>
    (h.one .namedExpression).bind fun c hc => (passes_symbol _).bind fun _ _ =>
      (h .block).bind fun b hb => hrest.bind fun o ho => .pure fun p hp =>
        built_build rfl rfl rfl hp ((suits_node rfl rfl hc).cons
          ((suits_list rfl rfl hb).cons (suits_list rfl rfl (forall_getD ho)).only))

theorem whileStatement_gives (h : Keep rules) : Gives (Built .statement) (whileStatement rules) :=
  (gives_searching _).orElse <| gives_spanned <| (passes_symbol _).bind fun _ _ =>
    (h.one .namedExpression).bind fun _ hc => (passes_symbol _).bind fun _ _ =>
      (h .block).bind fun _ hb => (elsePart_gives h).optional.bind fun _ ho => .pure fun _ hp =>
        built_build rfl rfl rfl hp ((suits_node rfl rfl hc).cons
          ((suits_list rfl rfl hb).cons (suits_list rfl rfl (forall_getD ho)).only))

theorem forOf_gives (h : Keep rules) {k : Kind} (hk : k = .forLoop ∨ k = .asyncFor) :
    GivesStatementAt (forOf rules k) := by
  refine (passes_symbol _).bind fun _ _ => (starTargets_gives h).bind fun n hn =>
    (passes_symbol _).bind fun _ _ => .commit <| (h.one .starExpressions).bind fun e he =>
      (passes_symbol _).bind fun _ _ => (h .block).bind fun b hb =>
        (elsePart_gives h).optional.bind fun o ho => .pure fun p hp => ?_
  rcases hk with rfl | rfl
  all_goals
    exact built_build rfl rfl rfl hp ((suits_node rfl rfl hn).cons ((suits_node rfl rfl he).cons
      ((suits_list rfl rfl hb).cons (suits_list rfl rfl (forall_getD ho)).only)))

theorem forStatement_gives (h : Keep rules) : Gives (Built .statement) (forStatement rules) :=
  Gives.rule <| (gives_searching _).orElse <| (gives_spanned (forOf_gives h (.inl rfl))).orElse <|
    (gives_spanned ((passes_symbol _).bind fun _ _ => forOf_gives h (.inr rfl))).orElse
      (gives_searching _)

theorem withItemNode_built {e : Node} (he : Built .expression e) {target : Option Node}
    (htarget : ∀ n ∈ target, Built .expression n) : Built .withItem (withItemNode e target) :=
  built_part rfl rfl rfl rfl ((suits_node rfl rfl he).cons (suits_optional rfl rfl htarget))

theorem withItem_gives (h : Keep rules) : Gives (Built .withItem) (withItem rules) := by
  refine .orElse ?_ ((gives_searching _).orElse ?_)
  · refine (h.one .expression).bind fun e he => (passes_symbol _).bind fun _ _ =>
      (h.one .starTarget).bind fun n hn => (passes_oneOf _).ahead.bind fun _ _ =>
        .pure (withItemNode_built he ?_)
    rintro m ⟨⟩
    exact hn
  · exact (h.one .expression).bind fun _ he =>
      .pure (withItemNode_built he fun _ hn => absurd hn (Option.not_mem_none _))

theorem withOf_gives (h : Keep rules) {k : Kind} (hk : k = .withStmt ∨ k = .asyncWith)
    (bracketed : Bool) : GivesStatementAt (withOf rules k bracketed) := by
  have hitems := (withItem_gives h).sepBy1 (passes_symbol ",")
  have hrest (items : List Node) (hitems : ∀ n ∈ items, Built .withItem n) : GivesStatementAt (do
      let _ ← Parse.symbol ":"
      let b ← rules .block
      return build k [listField .items items, listField .body b]) := by
    refine (passes_symbol _).bind fun _ _ => (h .block).bind fun b hb => .pure fun p hp => ?_
    rcases hk with rfl | rfl
    all_goals
      exact built_build rfl rfl rfl hp
        ((suits_list rfl rfl hitems).cons (suits_list rfl rfl hb).only)
  exact (passes_symbol _).bind fun _ _ => .ite ((passes_symbol _).bind fun _ _ =>
    hitems.bind fun _ hns => (passes_symbol _).optional.bind fun _ _ =>
      (passes_symbol _).bind fun _ _ => hrest _ hns) (hitems.bind hrest)

theorem withStatement_gives (h : Keep rules) : Gives (Built .statement) (withStatement rules) := by
  have hasync (bracketed : Bool) := gives_spanned ((passes_symbol "async").bind fun _ _ =>
    withOf_gives h (.inr rfl) bracketed)
  exact (gives_searching _).orElse <| (gives_spanned (withOf_gives h (.inl rfl) true)).orElse <|
    (gives_spanned (withOf_gives h (.inl rfl) false)).orElse <| (hasync true).orElse <|
      (hasync false).orElse (gives_searching _)

theorem handlerNode_built {type : Option Node} (htype : ∀ n ∈ type, Built .expression n)
    {name : Option String} (hname : ∀ s ∈ name, ' ' ∉ s.toList) {b : List Node}
    (hb : ∀ n ∈ b, Built .statement n) {p : Place} (hp : p.Sited) :
    Built .handler (handlerNode type name b p) := by
  refine built_build rfl ?_ rfl hp (((suits_optional rfl rfl htype).append
    (suits_optionalText rfl rfl fun _ => hname)).append (suits_list rfl rfl hb).only)
  cases type <;> cases name <;> rfl

theorem handler_gives (h : Keep rules) : Gives (Built .handler) (handler rules) := by
  refine (gives_searching _).orElse <| .orElse ?_ <| .orElse ?_ (gives_searching _)
  · refine gives_spanned <| (passes_symbol _).bind fun _ _ => (h.one .expression).bind fun e he =>
      (optionalName_gives _).bind fun name hname => (passes_symbol _).bind fun _ _ =>
        (h .block).bind fun b hb => .pure fun p hp => handlerNode_built ?_ hname hb hp
    rintro n ⟨⟩
    exact he
  · exact gives_spanned <| (passes_symbol _).bind fun _ _ => (passes_symbol _).bind fun _ _ =>
      (h .block).bind fun b hb => .pure fun p hp =>
        handlerNode_built (fun _ hn => absurd hn (Option.not_mem_none _))
          (fun _ h => absurd h (Option.not_mem_none _)) hb hp

theorem starHandler_gives (h : Keep rules) : Gives (Built .handler) (starHandler rules) := by
  refine (gives_searching _).orElse <| .orElse ?_ (gives_searching _)
  refine gives_spanned <| (passes_symbol _).bind fun _ _ => (passes_symbol _).bind fun _ _ =>
    (h.one .expression).bind fun e he => (optionalName_gives _).bind fun name hname =>
      (passes_symbol _).bind fun _ _ => (h .block).bind fun b hb => .pure fun p hp =>
        handlerNode_built ?_ hname hb hp
  rintro n ⟨⟩
  exact he

theorem finallyPart_gives (h : Keep rules) : GivesStatements (finallyPart rules) :=
  (gives_searching _).orElse <| (passes_symbol _).bind fun _ _ =>
    (passes_forced _).bind fun _ _ => h .block

theorem tryNode_built {k : Kind} (hk : k = .tryStmt ∨ k = .tryStar) {b hs o f : List Node}
    (hb : ∀ n ∈ b, Built .statement n) (hhs : ∀ n ∈ hs, Built .handler n)
    (ho : ∀ n ∈ o, Built .statement n) (hf : ∀ n ∈ f, Built .statement n) {p : Place}
    (hp : p.Sited) : Built .statement (tryNode k b hs o f p) := by
  rcases hk with rfl | rfl
  all_goals
    exact built_build rfl rfl rfl hp ((suits_list rfl rfl hb).cons ((suits_list rfl rfl hhs).cons
      ((suits_list rfl rfl ho).cons (suits_list rfl rfl hf).only)))

theorem tryStatement_gives (h : Keep rules) : Gives (Built .statement) (tryStatement rules) := by
  refine (gives_searching _).orElse <| gives_spanned <| (passes_symbol _).bind fun _ _ =>
    (passes_forced _).bind fun _ _ => (h .block).bind fun b hb => ?_
  have hnone {c : Tree.Category} : ∀ n ∈ ([] : List Node), Built c n :=
    fun _ hn => absurd hn List.not_mem_nil
  have hhandled {k : Kind} (hk : k = .tryStmt ∨ k = .tryStar) {one : Parse Node}
      (hone : Gives (Built .handler) one) : GivesStatementAt (do
        let hs ← Parse.many1 one
        let o ← Parse.optional (elsePart rules)
        let f ← Parse.optional (finallyPart rules)
        return tryNode k b hs (o.getD []) (f.getD [])) :=
    hone.many1.bind fun _ hhs => (elsePart_gives h).optional.bind fun _ ho =>
      (finallyPart_gives h).optional.bind fun _ hf => .pure fun _ hp =>
        tryNode_built hk hb hhs (forall_getD ho) (forall_getD hf) hp
  exact .orElse ((finallyPart_gives h).bind fun _ hf => .pure fun _ hp =>
    tryNode_built (.inl rfl) hb hnone hnone hf hp)
    ((hhandled (.inl rfl) (handler_gives h)).orElse (hhandled (.inr rfl) (starHandler_gives h)))

theorem subject_gives (h : Keep rules) : Gives (Built .expression) (subject rules) := by
  refine .orElse (gives_spanned <| (starNamedExpression_gives h).bind fun n hn =>
    (passes_symbol _).bind fun _ _ => (starNamedExpressions_gives h).optional.bind fun o ho =>
      .pure fun p hp => ?_) (h.one .namedExpression)
  exact built_tuple built_load (List.forall_mem_cons.mpr ⟨hn, forall_getD ho⟩) hp

theorem guardPart_gives (h : Keep rules) :
    Gives (fun o => ∀ n ∈ o, Built .expression n) (guardPart rules) :=
  ((passes_symbol _).bind fun _ _ => h.one .namedExpression).optional

theorem casePart_gives (h : Keep rules) : Gives (Built .matchCase) (casePart rules) := by
  refine (gives_searching _).orElse <| (passes_softKeyword _).bind fun _ _ =>
    (openPattern_gives h).bind fun p hp => (guardPart_gives h).bind fun g hg =>
      (passes_symbol _).bind fun _ _ => (h .block).bind fun b hb => .pure ?_
  refine built_part rfl ?_ rfl rfl (((suits_node rfl rfl hp).only.append
    (suits_optional rfl rfl hg)).append (suits_list rfl rfl hb).only)
  cases g <;> rfl

theorem matchStatement_gives (h : Keep rules) : Gives (Built .statement) (matchStatement rules) := by
  refine .orElse (gives_spanned <| (passes_softKeyword _).bind fun _ _ => (subject_gives h).bind
    fun s hs => (passes_symbol _).bind fun _ _ => (passes_ofKind _).bind fun _ _ =>
      (passes_ofKind _).bind fun _ _ => (casePart_gives h).many1.bind fun cs hcs =>
        (passes_ofKind _).bind fun _ _ => .pure fun p hp => ?_) (gives_searching _)
  exact built_build rfl rfl rfl hp ((suits_node rfl rfl hs).cons (suits_list rfl rfl hcs).only)

theorem compoundStatement_gives (h : Keep rules) :
    Gives (Built .statement) (compoundStatement rules) :=
  gives_peek.bind fun _ _ =>
    (Gives.ite (decorated_gives h fun _ hds => functionDefinition_gives h hds) gives_miss).orElse <|
    (Gives.ite (branch_gives h _) gives_miss).orElse <|
    (Gives.ite (decorated_gives h fun _ hds => classDefinition_gives h hds) gives_miss).orElse <|
    (Gives.ite (withStatement_gives h) gives_miss).orElse <|
    (Gives.ite (forStatement_gives h) gives_miss).orElse <|
    (Gives.ite (tryStatement_gives h) gives_miss).orElse <|
    (Gives.ite (whileStatement_gives h) gives_miss).orElse (matchStatement_gives h)

theorem statements_gives (h : Keep rules) : GivesStatements (statements rules) := by
  refine Gives.bind (P := fun nss => ∀ ns ∈ nss, ∀ n ∈ ns, Built .statement n) ?_
    fun nss hnss => .pure ?_
  · exact ((gives_single (compoundStatement_gives h)).orElse (simpleStatements_gives h)).many1
  · intro n hn
    obtain ⟨ns, hns, hmem⟩ := List.mem_flatten.mp hn
    exact hnss ns hns n hmem

/-! ### The parser -/

theorem body_gives (h : Keep rules) (r : Rule) :
    Gives (fun ns => ∀ n ∈ ns, r.Builds n) (body rules r) := by
  cases r with
  | simpleStatement => exact gives_single (simpleStatement_gives h)
  | block => exact block_gives h
  | expression => exact gives_single (expression_gives h)
  | starExpression => exact gives_single (starExpression_gives h)
  | disjunction =>
    exact gives_single (joined_gives _ (built_bare rfl rfl rfl rfl) (h.one .conjunction))
  | conjunction =>
    exact gives_single (joined_gives _ (built_bare rfl rfl rfl rfl) (h.one .inversion))
  | inversion => exact gives_single (inversion_gives h)
  | bitwiseOr => exact gives_single (binary_gives rfl (h.one .bitwiseXor))
  | bitwiseXor => exact gives_single (binary_gives rfl (h.one .bitwiseAnd))
  | bitwiseAnd => exact gives_single (binary_gives rfl (h.one .shift))
  | shift => exact gives_single (binary_gives rfl (h.one .sum))
  | sum => exact gives_single (binary_gives rfl (h.one .term))
  | term => exact gives_single (binary_gives rfl (h.one .factor))
  | factor => exact gives_single (factor_gives h)
  | awaitPrimary => exact gives_single (awaitPrimary_gives h)
  | primary => exact gives_single (primary_gives h)
  | strings => exact gives_single strings_gives
  | arguments => exact gives_single (arguments_gives h)
  | starTarget => exact gives_single (starTarget_gives h)
  | targetWithStarAtom => exact gives_single (targetWithStarAtom_gives h)
  | targetPrimary => exact gives_single (targetPrimary_gives h)
  | delTarget => exact gives_single (delTarget_gives h)
  | closedPattern => exact gives_single (closedPattern_gives h)
  | starPattern => exact gives_single starPattern_gives
  | invalidNamed => exact invalidNamed_gives h
  | statements => exact statements_gives h
  | elifPart => exact gives_single (branch_gives h _)
  | singleTarget => exact gives_single (singleTarget_gives h)
  | namedExpression => exact gives_single (namedExpression_gives h)
  | starExpressions => exact gives_single (starExpressions_gives h)
  | pattern => exact gives_single (pattern_gives h)
  | bracketedTarget => exact gives_single (invalidAnnotationTarget_gives h)

theorem parser_keeps (n : Nat) : Keep (parser n) := by
  induction n with
  | zero => exact fun r x hx s hs => ⟨trivial, hs⟩
  | succ n ih =>
    intro r x hx s hs
    rw [parser]
    cases hk : r.key? with
    -- the rules that a body refers to have one level less
    | some k => exact gives_remember hk (body_gives ih r) x hx s hs
    | none => exact (body_gives ih r).rule x hx s hs

theorem program_gives (h : Keep rules) :
    Gives (fun n => n.kind = .program ∧ Built .module n) (program rules) :=
  (h .statements).optional.bind fun _ ho => (passes_ofKind _).bind fun _ _ =>
    .pure ⟨rfl, built_program (forall_getD ho)⟩

end Grammar

/-- Only the first parse gives a result, and it starts with nothing kept. -/
theorem Context.run_gives [LineLimit] {x : Context} (hx : { x with searching := false }.Plain)
    {P : α → Prop} {p : Grammar.Rules → Parse α}
    (hp : ∀ rules, Grammar.Keep rules → Gives P (p rules)) {a : α} (h : x.run p = .ok a) : P a := by
  have hempty : ({} : Progress).Keeps := fun _ _ _ hslot => by simp at hslot
  have hfirst := (hp x.rules (Grammar.parser_keeps _) { x with searching := false } hx {} hempty).1
  unfold Context.run at h
  generalize p x.rules { x with searching := false } {} = first at hfirst h
  obtain ⟨answer, s⟩ := first
  cases answer with
  | found b =>
    cases h
    exact hfirst
  | faulty f => cases h
  | missing | refused =>
    -- what the search for a fault finds is an error in any case
    dsimp only at h
    split at h <;> cases h

theorem Input.tokens_clear [LineLimit] {i : Input} (hi : i.extent ≤ LineLimit.last) :
    ∀ t ∈ i.tokens.tokens.toList, t.Clear :=
  fun t ht => ⟨Nat.le_trans (i.tokens_in t ht).extent hi, (i.tokens_in t ht).no_space⟩

theorem readExpressionIn_builds [LineLimit] (names : NameTable) (fuel : Nat) :
    (readExpressionIn names fuel).Builds := by
  induction fuel with
  | zero => exact fun _ _ _ _ _ h => nomatch h
  | succ fuel ih =>
    intro cs line shift n hlines h
    simp only [readExpressionIn] at h
    have hextent : (Input.ofExpression cs line shift).extent = line + cs.length + 4 := by
      simp [Input.extent, Input.ofExpression]
      omega
    exact Context.run_gives ⟨rfl, Input.tokens_clear (hextent ▸ hlines), ih⟩
      (fun _ hrules => hrules.one .starExpressions) h

/-- A line more than the text has characters, and two that the tokens at its end can add. -/
def lastLine (text : String) : Nat := text.length + 3

theorem length_unifyLineEnds (cs : List Char) : (unifyLineEnds cs).length ≤ cs.length := by
  fun_induction unifyLineEnds cs <;> simp only [List.length_cons, List.length_nil] <;> omega

theorem Input.extent_ofText (text : String) : (Input.ofText text).extent ≤ lastLine text := by
  have hends := length_unifyLineEnds text.toList
  rw [String.length_toList] at hends
  simp only [Input.extent, Input.ofText, List.size_toArray, List.length_append, lastLine]
  split <;> simp only [List.length_cons, List.length_nil] <;> omega

theorem readProgram_built {names : NameTable} {text : String} {n : Node}
    (h : readProgram names text = .ok n) :
    n.kind = .program ∧ n.Sound ∧ n.Legible (lastLine text) := by
  unfold readProgram at h
  split_ifs at h
  let limit : LineLimit := ⟨lastLine text⟩
  have hread := Context.run_gives
    ⟨rfl, Input.tokens_clear (Input.extent_ofText text), readExpressionIn_builds names _⟩
    (fun _ hrules => Grammar.program_gives hrules) h
  exact ⟨hread.1, hread.2.sound, hread.2.legible⟩

end CodeLint.Source

namespace CodeLint.Lint

open CodeLint.Tree

theorem readTree_wellFormed {s : String} {n : Node} (h : readTree s = .ok n) : n.WellFormed :=
  have hread := Source.readProgram_built h
  ⟨hread.1, hread.2.1⟩

theorem readTree_legible {s : String} {n : Node} (h : readTree s = .ok n) :
    n.Legible (Source.lastLine s) :=
  (Source.readProgram_built h).2.2

end CodeLint.Lint
