import CodeLint.Proofs.ParsedLiterals
import CodeLint.Source.Grammar.Target

/-!
Expressions, targets, arguments and parameters as the parser builds them are sound, provided that
the rules they refer to give what they promise.
-/

namespace CodeLint.Source.Grammar

open CodeLint.Tree

theorem nodes_map_node (ns : List Node) : (Value.list (ns.map .node)).nodes = ns := by
  rw [Value.nodes, List.filterMap_map]
  exact List.filterMap_some

theorem forall_getD {α : Type} {P : α → Prop} {o : Option (List α)}
    (h : ∀ as ∈ o, ∀ a ∈ as, P a) : ∀ a ∈ o.getD [], P a := by
  cases o with
  | none => exact nofun
  | some as => exact h as rfl

variable [LineLimit] {rules : Rules}

/-! ### Parts of several expressions -/

theorem starredExpression_gives (h : Keep rules) :
    Gives (Built .expression) (starredExpression rules) :=
  gives_spanned <| (passes_symbol _).bind fun _ _ => (h.one .expression).bind fun _ hn =>
    .pure fun _ hp => built_starred built_load hn hp

theorem starredOperand_gives (h : Keep rules) :
    Gives (Built .expression) (Parse.spanned do
      let _ ← Parse.symbol "*"
      return starredOf .load (← rules.one .bitwiseOr)) :=
  gives_spanned <| (passes_symbol _).bind fun _ _ => (h.one .bitwiseOr).bind fun _ hn =>
    .pure fun _ hp => built_starred built_load hn hp

theorem assignmentExpression_gives (h : Keep rules) :
    Gives (Built .expression) (assignmentExpression rules) := by
  refine (gives_spanned <| gives_nameToken.bind fun t ht => (passes_symbol _).bind fun _ _ =>
    (h.one .expression).commit.bind fun e he => .pure fun p hp => ?_).rule
  have hname := built_nameNode built_store ht.sited ht.no_space
  exact built_build rfl rfl rfl hp
    ((suits_node rfl rfl hname).cons (suits_node rfl rfl he).only)

theorem plainExpression_gives (h : Keep rules) :
    Gives (Built .expression) (plainExpression rules) :=
  (h.one .expression).bind fun _ he => (passes_symbol _).notAhead.bind fun _ _ => .pure he

theorem namedExpression_gives (h : Keep rules) :
    Gives (Built .expression) (namedExpression rules) :=
  (assignmentExpression_gives h).orElse ((gives_searching _).orElse (plainExpression_gives h))

theorem generatorElement_gives (h : Keep rules) :
    Gives (Built .expression) (generatorElement rules) :=
  (assignmentExpression_gives h).orElse (plainExpression_gives h)

theorem starNamedExpression_gives (h : Keep rules) :
    Gives (Built .expression) (starNamedExpression rules) :=
  (starredOperand_gives h).orElse (h.one .namedExpression)

theorem starNamedExpressions_gives (h : Keep rules) :
    Gives (fun ns => ∀ n ∈ ns, Built .expression n) (starNamedExpressions rules) :=
  ((starNamedExpression_gives h).sepBy1 (passes_symbol _)).bind fun _ hns =>
    (passes_symbol _).optional.bind fun _ _ => .pure hns

theorem yieldExpression_gives (h : Keep rules) :
    Gives (Built .expression) (yieldExpression rules) := by
  refine .orElse (gives_spanned <| (passes_symbol _).bind fun _ _ => (passes_symbol _).bind fun _ _ =>
    (h.one .expression).bind fun e he => .pure fun p hp => ?_)
    (gives_spanned <| (passes_symbol _).bind fun _ _ => (h.one .starExpressions).optional.bind
      fun e he => .pure fun p hp => ?_)
  · exact built_build rfl rfl rfl hp (suits_node rfl rfl he).only
  · exact built_build rfl rfl rfl hp (suits_optional rfl rfl he)

/-! ### Comprehensions -/

theorem starTargets_gives (h : Keep rules) : Gives (Built .expression) (starTargets rules) := by
  refine .orElse ((h.one .starTarget).bind fun n hn => (passes_symbol _).notAhead.bind
    fun _ _ => .pure hn) (gives_spanned <| (h.one .starTarget).bind fun n hn =>
      ((passes_symbol _).bind fun _ _ => h.one .starTarget).many.bind fun ns hns =>
        (passes_symbol _).optional.bind fun _ _ => .pure fun p hp => ?_)
  exact built_tuple built_store (List.forall_mem_cons.mpr ⟨hn, hns⟩) hp

theorem forClause_gives (h : Keep rules) (isAsync : Bool) :
    Gives (Built .comprehension) (forClause rules isAsync) := by
  refine .ite ((passes_symbol _).bind fun _ _ => ?_) ?_
  all_goals
    refine (passes_symbol _).bind fun _ _ => (starTargets_gives h).bind fun target htarget =>
      (passes_symbol _).bind fun _ _ => ((h.one .disjunction).bind fun source hsource =>
        ((passes_symbol _).bind fun _ _ => h.one .disjunction).many.bind
          fun conditions hconditions => .pure ?_).commit
    exact built_part rfl rfl rfl rfl ((suits_node rfl rfl htarget).cons
      ((suits_node rfl rfl hsource).cons ((suits_list rfl rfl hconditions).cons
        (suits_number rfl rfl _).only)))

theorem forClauses_gives (h : Keep rules) :
    Gives (fun ns => ∀ n ∈ ns, Built .comprehension n) (forClauses rules) :=
  ((forClause_gives h true).orElse ((forClause_gives h false).orElse (gives_searching _))).rule.many1

theorem generator_gives (h : Keep rules) : Gives (Built .expression) (generator rules) := by
  refine Gives.rule (.orElse (gives_spanned <| (passes_symbol _).bind fun _ _ =>
    (generatorElement_gives h).bind fun e he => (forClauses_gives h).bind fun clauses hclauses =>
      (passes_symbol _).bind fun _ _ => .pure fun p hp => ?_) (gives_searching _))
  exact built_build rfl rfl rfl hp
    ((suits_node rfl rfl he).cons (suits_list rfl rfl hclauses).only)

/-! ### Arguments -/

def SoundArgument : Argument → Prop
  | .keyword n => Built .keyword n
  | .starred n => Built .expression n

theorem keywordArgument_gives (h : Keep rules) : Gives (Built .keyword) (keywordArgument rules) := by
  refine gives_spanned <| gives_nameToken.bind fun t ht => (passes_symbol _).bind fun _ _ =>
    (h.one .expression).bind fun e he => .pure fun p hp => ?_
  exact built_build rfl rfl rfl hp
    ((suits_text rfl rfl fun _ => ht.no_space).cons (suits_node rfl rfl he).only)

theorem unpackedKeywords_gives (h : Keep rules) :
    Gives (Built .keyword) (unpackedKeywords rules) := by
  refine gives_spanned <| (passes_symbol _).bind fun _ _ => (h.one .expression).bind fun e he =>
    .pure fun p hp => ?_
  exact built_build rfl rfl rfl hp (suits_node rfl rfl he).only

theorem keywordOrStarred_gives (h : Keep rules) :
    Gives SoundArgument (keywordOrStarred rules) := by
  refine .orElse (gives_searching _) (.orElse ((keywordArgument_gives h).bind fun n hn => .pure ?_)
    ((starredExpression_gives h).bind fun n hn => .pure ?_))
  · exact hn
  · exact hn

theorem keywordOrUnpacked_gives (h : Keep rules) :
    Gives SoundArgument (keywordOrUnpacked rules) := by
  refine .orElse (gives_searching _) (.orElse ((keywordArgument_gives h).bind fun n hn => .pure ?_)
    ((unpackedKeywords_gives h).bind fun n hn => .pure ?_))
  · exact hn
  · exact hn

theorem keywordArguments_gives (h : Keep rules) :
    Gives (fun as => ∀ a ∈ as, SoundArgument a) (keywordArguments rules) := by
  have hstarred := (keywordOrStarred_gives h).sepBy1 (passes_symbol ",")
  have hunpacked := (keywordOrUnpacked_gives h).sepBy1 (passes_symbol ",")
  refine .orElse (hstarred.bind fun xs hxs => (passes_symbol _).bind fun _ _ =>
    hunpacked.bind fun ys hys => .pure ?_) (hstarred.orElse hunpacked)
  exact List.forall_mem_append.mpr ⟨hxs, hys⟩

theorem positionalArgument_gives (h : Keep rules) :
    Gives (Built .expression) (positionalArgument rules) :=
  (starredExpression_gives h).orElse ((generatorElement_gives h).bind fun _ he =>
    (passes_symbol _).notAhead.bind fun _ _ => .pure he)

theorem argumentsNode_isArguments {args : List Node} {rest : List Argument}
    (hargs : ∀ n ∈ args, Built .expression n) (hrest : ∀ a ∈ rest, SoundArgument a) (p : Place) :
    IsArguments (argumentsNode args rest p) := by
  refine ⟨fun m hm => ?_, fun m hm => ?_⟩
  · have hnodes : nodesAt (argumentsNode args rest p) .positional =
        args ++ rest.filterMap Argument.starred? := nodes_map_node _
    rw [hnodes] at hm
    rcases List.mem_append.mp hm with hm | hm
    · exact hargs m hm
    · obtain ⟨a, ha, hstarred⟩ := List.mem_filterMap.mp hm
      cases a with
      | keyword n => cases hstarred
      | starred n =>
        cases hstarred
        exact hrest _ ha
  · have hnodes : nodesAt (argumentsNode args rest p) .keywords =
        rest.filterMap Argument.keyword? := nodes_map_node _
    rw [hnodes] at hm
    obtain ⟨a, ha, hkeyword⟩ := List.mem_filterMap.mp hm
    cases a with
    | starred n => cases hkeyword
    | keyword n =>
      cases hkeyword
      exact hrest _ ha

theorem argumentList_gives (h : Keep rules) : Gives IsArguments (argumentList rules) := by
  refine .orElse (gives_spanned <| ((positionalArgument_gives h).sepBy1 (passes_symbol _)).bind
    fun args hargs => ((passes_symbol _).bind fun _ _ => keywordArguments_gives h).optional.bind
      fun rest hrest => .pure fun p _ => ?_)
    (gives_spanned <| (keywordArguments_gives h).bind fun rest hrest => .pure fun p _ => ?_)
  · exact argumentsNode_isArguments hargs (forall_getD hrest) p
  · exact argumentsNode_isArguments (fun _ hn => absurd hn List.not_mem_nil) hrest p

theorem arguments_gives (h : Keep rules) : Gives IsArguments (arguments rules) :=
  .orElse ((argumentList_gives h).bind fun _ ha => (passes_symbol _).optional.bind fun _ _ =>
    (passes_symbol _).ahead.bind fun _ _ => .pure ha) (gives_searching _)

/-! ### Parameters -/

structure SoundDefault (d : Default) : Prop where
  parameter : Built .parameter d.parameter
  value : ∀ n ∈ d.value, Built .expression n

structure SoundParameters (p : Parameters) : Prop where
  positionalOnly : ∀ n ∈ p.positionalOnly, Built .parameter n
  positional : ∀ n ∈ p.positional, Built .parameter n
  defaults : ∀ n ∈ p.defaults, Built .expression n
  rest : ∀ n ∈ p.rest, Built .parameter n
  keywordOnly : ∀ d ∈ p.keywordOnly, SoundDefault d
  restKeywords : ∀ n ∈ p.restKeywords, Built .parameter n

structure SoundStarPart (s : StarPart) : Prop where
  rest : ∀ n ∈ s.rest, Built .parameter n
  keywordOnly : ∀ d ∈ s.keywordOnly, SoundDefault d
  restKeywords : ∀ n ∈ s.restKeywords, Built .parameter n

theorem SoundParameters.node {p : Parameters} (h : SoundParameters p) :
    Built .parameters p.node := by
  have hnames : ∀ n ∈ p.keywordOnly.map (·.parameter), Built .parameter n := by
    intro n hn
    obtain ⟨d, hd, rfl⟩ := List.mem_map.mp hn
    exact (h.keywordOnly d hd).parameter
  refine built_part rfl ?_ rfl rfl
    (((((suits_list rfl rfl h.positionalOnly).cons (suits_list rfl rfl h.positional).only).append
      (suits_optional rfl rfl h.rest)).append ((suits_list rfl rfl hnames).cons
        (Suits.only (suits_gaps rfl rfl fun v hv => ?_)))).append
      (suits_optional rfl rfl h.restKeywords) |>.append (suits_list rfl rfl h.defaults).only)
  · cases p.rest <;> cases p.restKeywords <;> rfl
  · obtain ⟨d, hd, rfl⟩ := List.mem_map.mp hv
    cases hvalue : d.value with
    | none => exact .inl rfl
    | some n => exact .inr ⟨n, rfl, (h.keywordOnly d hd).value n hvalue⟩

theorem parameterNode_built {t : Token} (ht : t.Names) {hint : Option Node}
    (hhint : ∀ n ∈ hint, Built .expression n) {p : Place} (hp : p.Sited) :
    Built .parameter (parameterNode t hint p) :=
  built_build rfl rfl rfl hp
    ((suits_text rfl rfl fun _ => ht.no_space).cons (suits_optional rfl rfl hhint))

theorem parameter_gives (h : Keep rules) (o : Owner) :
    Gives (Built .parameter) (parameter rules o) := by
  refine gives_spanned <| gives_nameToken.bind fun t ht => ?_
  refine .ite (((passes_symbol _).bind fun _ _ => h.one .expression).optional.bind fun hint hhint =>
    .pure fun p hp => ?_) (.pure fun p hp => ?_)
  · exact parameterNode_built ht hhint hp
  · exact parameterNode_built ht (fun _ hn => absurd hn (Option.not_mem_none _)) hp

theorem parameterWithStar_gives (h : Keep rules) :
    Gives (Built .parameter) (parameterWithStar rules) := by
  refine gives_spanned <| gives_nameToken.bind fun t ht => (passes_symbol _).bind fun _ _ =>
    (h.one .starExpression).bind fun hint hhint => .pure fun p hp => ?_
  exact parameterNode_built ht (by rintro n ⟨⟩; exact hhint) hp

theorem parameterEnd_passes (o : Owner) : Passes (parameterEnd o) := by
  refine .orElse ((passes_symbol _).bind fun _ _ => ?_) (passes_symbol _).ahead
  exact .ite (gives_peek.bind fun _ _ => .pure trivial) (.pure trivial)

theorem plainParameter_gives (h : Keep rules) (o : Owner) :
    Gives (Built .parameter) (plainParameter rules o) :=
  (parameter_gives h o).bind fun _ hp => (parameterEnd_passes o).bind fun _ _ => .pure hp

theorem starAnnotatedParameter_gives (h : Keep rules) (o : Owner) :
    Gives (Built .parameter) (starAnnotatedParameter rules o) :=
  (parameterWithStar_gives h).bind fun _ hp => (parameterEnd_passes o).bind fun _ _ => .pure hp

theorem defaultValue_gives (h : Keep rules) : Gives (Built .expression) (defaultValue rules) :=
  .orElse ((passes_symbol _).bind fun _ _ => h.one .expression) (gives_searching _)

theorem defaultParameter_gives (h : Keep rules) (o : Owner) :
    Gives SoundDefault (defaultParameter rules o) :=
  (parameter_gives h o).bind fun _ hp => (defaultValue_gives h).bind fun _ hv =>
    (parameterEnd_passes o).bind fun _ _ => .pure ⟨hp, by rintro n ⟨⟩; exact hv⟩

theorem anyParameter_gives (h : Keep rules) (o : Owner) :
    Gives SoundDefault (anyParameter rules o) :=
  (parameter_gives h o).bind fun _ hp => (defaultValue_gives h).optional.bind fun _ hv =>
    (parameterEnd_passes o).bind fun _ _ => .pure ⟨hp, hv⟩

theorem slash_passes (o : Owner) : Passes (slash o) :=
  (passes_symbol _).bind fun _ _ =>
    .orElse ((passes_symbol _).bind fun _ _ => .pure trivial) (passes_symbol _).ahead

theorem slashPlain_gives (h : Keep rules) (o : Owner) :
    Gives (fun ns => ∀ n ∈ ns, Built .parameter n) (slashPlain rules o) :=
  (plainParameter_gives h o).many1.bind fun _ hps => (slash_passes o).bind fun _ _ => .pure hps

theorem slashDefault_gives (h : Keep rules) (o : Owner) :
    Gives (fun r => (∀ n ∈ r.1, Built .parameter n) ∧ ∀ d ∈ r.2, SoundDefault d)
      (slashDefault rules o) :=
  (plainParameter_gives h o).many.bind fun _ hps => (defaultParameter_gives h o).many1.bind
    fun _ hds => (slash_passes o).bind fun _ _ => .pure ⟨hps, hds⟩

theorem restKeywords_gives (h : Keep rules) (o : Owner) :
    Gives (Built .parameter) (restKeywords rules o) :=
  (gives_searching _).orElse ((passes_symbol _).bind fun _ _ => plainParameter_gives h o)

theorem starPart_gives (h : Keep rules) (o : Owner) : Gives SoundStarPart (starPart rules o) := by
  have hsome {n : Node} (hn : Built .parameter n) : ∀ m ∈ some n, Built .parameter m := by
    rintro m ⟨⟩
    exact hn
  have hrest := (restKeywords_gives h o).optional
  have hmany := (anyParameter_gives h o).many
  refine .orElse (gives_searching _) (.orElse ?_ (.orElse ?_ (.orElse ?_ ?_)))
  · exact (passes_symbol _).bind fun _ _ => (plainParameter_gives h o).bind fun p hp =>
      hmany.bind fun ds hds => hrest.bind fun r hr => .pure ⟨hsome hp, hds, hr⟩
  · refine .ite ((gives_miss (P := fun _ => True)).bind fun _ _ => ?_) ?_
    all_goals
      exact (passes_symbol _).bind fun _ _ => (starAnnotatedParameter_gives h o).bind fun p hp =>
        hmany.bind fun ds hds => hrest.bind fun r hr => .pure ⟨hsome hp, hds, hr⟩
  · exact (passes_symbol _).bind fun _ _ => (passes_symbol _).bind fun _ _ =>
      (anyParameter_gives h o).many1.bind fun ds hds => hrest.bind fun r hr =>
        .pure ⟨nofun, hds, hr⟩
  · exact (restKeywords_gives h o).bind fun r hr =>
      .pure ⟨nofun, fun _ hd => absurd hd List.not_mem_nil, hsome hr⟩

theorem SoundParameters.withDefaults {p : Parameters} (h : SoundParameters p) {ds : List Default}
    (hds : ∀ d ∈ ds, SoundDefault d) : SoundParameters (p.withDefaults ds) := by
  refine { h with positional := ?_, defaults := ?_ }
  · refine List.forall_mem_append.mpr ⟨h.positional, fun n hn => ?_⟩
    obtain ⟨d, hd, rfl⟩ := List.mem_map.mp hn
    exact (hds d hd).parameter
  · refine List.forall_mem_append.mpr ⟨h.defaults, fun n hn => ?_⟩
    obtain ⟨d, hd, hvalue⟩ := List.mem_filterMap.mp hn
    exact (hds d hd).value n hvalue

theorem SoundParameters.withStar {p : Parameters} (h : SoundParameters p) {s : Option StarPart}
    (hs : ∀ part ∈ s, SoundStarPart part) : SoundParameters (p.withStar s) := by
  cases s with
  | none => exact h
  | some part =>
    obtain ⟨hrest, hkeywords, hlast⟩ := hs part rfl
    exact { h with rest := hrest, keywordOnly := hkeywords, restKeywords := hlast }

theorem soundParameters_positional {only ps ds : List Node} (honly : ∀ n ∈ only, Built .parameter n)
    (hps : ∀ n ∈ ps, Built .parameter n) (hds : ∀ n ∈ ds, Built .expression n) :
    SoundParameters { positionalOnly := only, positional := ps, defaults := ds } :=
  ⟨honly, hps, hds, nofun, fun _ hd => absurd hd List.not_mem_nil, nofun⟩

theorem SoundParameters.empty : SoundParameters {} := by
  refine soundParameters_positional ?_ ?_ ?_ <;> exact fun _ hn => absurd hn List.not_mem_nil

theorem validParameters_gives (h : Keep rules) (o : Owner) :
    Gives SoundParameters (validParameters rules o) := by
  have hplain := plainParameter_gives h o
  have hdefaults := (defaultParameter_gives h o).many
  have hstar := (starPart_gives h o).optional
  have hnone {c : Tree.Category} : ∀ n ∈ ([] : List Node), Built c n :=
    fun _ hn => absurd hn List.not_mem_nil
  refine .orElse ?_ (.orElse ?_ (.orElse ?_ (.orElse ?_ ?_)))
  · exact (slashPlain_gives h o).bind fun only honly => hplain.many.bind fun ps hps =>
      hdefaults.bind fun ds hds => hstar.bind fun s hs =>
        .pure (((soundParameters_positional honly hps hnone).withDefaults hds).withStar hs)
  · refine (slashDefault_gives h o).bind fun only honly => hdefaults.bind fun ds hds =>
      hstar.bind fun s hs => .pure ?_
    have hslash := SoundParameters.empty.withDefaults honly.2
    have honly' := List.forall_mem_append.mpr ⟨honly.1, hslash.positional⟩
    exact ((soundParameters_positional honly' hnone hslash.defaults).withDefaults hds).withStar hs
  · exact hplain.many1.bind fun ps hps => hdefaults.bind fun ds hds => hstar.bind fun s hs =>
      .pure (((soundParameters_positional hnone hps hnone).withDefaults hds).withStar hs)
  · exact (defaultParameter_gives h o).many1.bind fun ds hds => hstar.bind fun s hs =>
      .pure ((SoundParameters.empty.withDefaults hds).withStar hs)
  · exact (starPart_gives h o).bind fun s hs =>
      .pure (SoundParameters.empty.withStar (by rintro part ⟨⟩; exact hs))

theorem parameters_gives (h : Keep rules) (o : Owner) :
    Gives SoundParameters (parameters rules o) :=
  (gives_searching _).orElse (validParameters_gives h o)

theorem parametersNode_built {p : Option Parameters} (h : ∀ ps ∈ p, SoundParameters ps) :
    Built .parameters (p.getD {}).node := by
  cases p with
  | none => exact SoundParameters.empty.node
  | some ps => exact (h ps rfl).node

/-! ### Displays -/

theorem tupleDisplay_gives (h : Keep rules) : Gives (Built .expression) (tupleDisplay rules) := by
  refine gives_spanned <| (passes_symbol _).bind fun _ _ =>
    (Gives.optional (P := fun ns => ∀ n ∈ ns, Built .expression n)
      ((starNamedExpression_gives h).bind fun n hn => (passes_symbol _).bind fun _ _ =>
        (starNamedExpressions_gives h).optional.bind fun ns hns => .pure ?_)).bind fun ns hns =>
      (passes_symbol _).bind fun _ _ => .pure fun p hp => ?_
  · exact List.forall_mem_cons.mpr ⟨hn, forall_getD hns⟩
  · exact built_tuple built_load (forall_getD hns) hp

theorem group_gives (h : Keep rules) : Gives (Built .expression) (group rules) :=
  .orElse ((passes_symbol _).bind fun _ _ =>
    ((yieldExpression_gives h).orElse (h.one .namedExpression)).bind fun _ hn =>
      (passes_symbol _).bind fun _ _ => .pure hn) (gives_searching _)

theorem listDisplay_gives (h : Keep rules) : Gives (Built .expression) (listDisplay rules) :=
  gives_spanned <| (passes_symbol _).bind fun _ _ => (starNamedExpressions_gives h).optional.bind
    fun _ hns => (passes_symbol _).bind fun _ _ =>
      .pure fun _ hp => built_listLit built_load (forall_getD hns) hp

theorem listComprehension_gives (h : Keep rules) :
    Gives (Built .expression) (listComprehension rules) := by
  refine .orElse (gives_spanned <| (passes_symbol _).bind fun _ _ => (h.one .namedExpression).bind
    fun e he => (forClauses_gives h).bind fun clauses hclauses => (passes_symbol _).bind fun _ _ =>
      .pure fun p hp => ?_) (gives_searching _)
  exact built_build rfl rfl rfl hp
    ((suits_node rfl rfl he).cons (suits_list rfl rfl hclauses).only)

theorem setDisplay_gives (h : Keep rules) : Gives (Built .expression) (setDisplay rules) :=
  gives_spanned <| (passes_symbol _).bind fun _ _ => (starNamedExpressions_gives h).bind
    fun _ hns => (passes_symbol _).bind fun _ _ =>
      .pure fun _ hp => built_build rfl rfl rfl hp (suits_list rfl rfl hns).only

theorem setComprehension_gives (h : Keep rules) :
    Gives (Built .expression) (setComprehension rules) := by
  refine .orElse (gives_spanned <| (passes_symbol _).bind fun _ _ => (h.one .namedExpression).bind
    fun e he => (forClauses_gives h).bind fun clauses hclauses => (passes_symbol _).bind fun _ _ =>
      .pure fun p hp => ?_) (gives_searching _)
  exact built_build rfl rfl rfl hp
    ((suits_node rfl rfl he).cons (suits_list rfl rfl hclauses).only)

structure SoundEntry (e : Entry) : Prop where
  key : ∀ n ∈ e.key, Built .expression n
  value : Built .expression e.value

theorem keyedEntry_gives (h : Keep rules) :
    Gives (fun e => SoundEntry e ∧ e.key.isSome = true) (keyedEntry rules) :=
  (h.one .expression).bind fun _ hk => (passes_symbol _).bind fun _ _ =>
    (h.one .expression).bind fun _ hv => .pure ⟨⟨by rintro n ⟨⟩; exact hk, hv⟩, rfl⟩

theorem entry_gives (h : Keep rules) : Gives SoundEntry (entry rules) :=
  .orElse ((passes_symbol _).bind fun _ _ => (h.one .bitwiseOr).bind fun _ hv => .pure ⟨nofun, hv⟩)
    ((keyedEntry_gives h).mono fun _ he => he.1)

theorem dictDisplay_gives (h : Keep rules) : Gives (Built .expression) (dictDisplay rules) := by
  refine .orElse (gives_spanned <| (passes_symbol _).bind fun _ _ =>
    (((entry_gives h).sepBy1 (passes_symbol _)).bind fun es hes =>
      (passes_symbol _).optional.bind fun _ _ => .pure hes).optional.bind fun es hes =>
      (passes_symbol _).bind fun _ _ => .pure fun p hp => ?_) (gives_searching _)
  have hentries := forall_getD hes
  refine built_build rfl rfl rfl hp (.cons (suits_gaps rfl rfl fun v hv => ?_)
    (suits_list rfl rfl fun n hn => ?_).only)
  · obtain ⟨e, he, rfl⟩ := List.mem_map.mp hv
    cases hkey : e.key with
    | none => exact .inl rfl
    | some k => exact .inr ⟨k, rfl, (hentries e he).key k hkey⟩
  · obtain ⟨e, he, rfl⟩ := List.mem_map.mp hn
    exact (hentries e he).value

theorem dictComprehension_gives (h : Keep rules) :
    Gives (Built .expression) (dictComprehension rules) := by
  refine .orElse (gives_spanned <| (passes_symbol _).bind fun _ _ => (keyedEntry_gives h).bind
    fun e he => (forClauses_gives h).bind fun clauses hclauses => (passes_symbol _).bind fun _ _ =>
      .pure fun p hp => ?_) (gives_searching _)
  obtain ⟨k, hk⟩ := Option.isSome_iff_exists.mp he.2
  refine built_build rfl ?_ rfl hp ((suits_optional rfl rfl he.1.key).append
    ((suits_node rfl rfl he.1.value).cons (suits_list rfl rfl hclauses).only))
  rw [hk]
  rfl

theorem constantOf_gives (text : String) (a : Atom) :
    Gives (Built .expression) (constantOf text a) :=
  (gives_symbol _).bind fun _ ht => .pure (built_constant a ht.sited)

theorem name_gives : Gives (Built .expression) name :=
  gives_nameToken.bind fun _ ht => .pure (built_nameNode built_load ht.sited ht.no_space)

theorem atom_gives (h : Keep rules) : Gives (Built .expression) (atom rules) := by
  refine gives_peek.bind fun t _ => ?_
  split
  · exact name_gives
  · exact number_gives
  · exact h.one .strings
  · exact (constantOf_gives _ _).orElse ((constantOf_gives _ _).orElse (constantOf_gives _ _))
  · refine .ite ?_ (.ite ?_ (.ite ?_ (constantOf_gives _ _)))
    · exact (tupleDisplay_gives h).rule.orElse ((group_gives h).rule.orElse (generator_gives h))
    · exact (listDisplay_gives h).rule.orElse (listComprehension_gives h).rule
    · exact (dictDisplay_gives h).rule.orElse ((setDisplay_gives h).rule.orElse
        ((dictComprehension_gives h).rule.orElse (setComprehension_gives h).rule))
  · exact gives_miss

/-! ### Operators -/

theorem extended_gives {step : Node → Parse (Place → Node)}
    (hstep : ∀ n, Built .expression n →
      Gives (fun f => ∀ p : Place, p.Sited → Built .expression (f p)) (step n))
    {first : Token} (hfirst : first.Clear) (k : Nat) {n : Node} (hn : Built .expression n) :
    Gives (Built .expression) (extended step first k n) := by
  induction k generalizing n with
  | zero => exact .pure hn
  | succ k ih =>
    refine ((hstep n hn).bind fun f hf => passes_passed.bind fun _ _ =>
      .pure (hf _ hfirst.sited)).optional.bind fun next hnext => ?_
    cases next with
    | none => exact .pure hn
    | some m => exact ih (hnext m rfl)

theorem leftward_gives {operand : Parse Node} (hoperand : Gives (Built .expression) operand)
    {step : Node → Parse (Place → Node)} (hstep : ∀ n, Built .expression n →
      Gives (fun f => ∀ p : Place, p.Sited → Built .expression (f p)) (step n)) :
    Gives (Built .expression) (leftward operand step) :=
  gives_peek.bind fun _ hfirst => hoperand.bind fun _ hn => gives_context.bind fun _ _ =>
    extended_gives hstep hfirst _ hn

def areOperators (operators : List (String × Kind)) : Bool :=
  operators.all fun o => o.2.category == .operator && o.2.layout.isEmpty

theorem built_lookup {operators : List (String × Kind)}
    (hoperators : areOperators operators = true) (word : String) :
    Built .operator (bare ((operators.lookup word).getD .add)) := by
  cases hlookup : operators.lookup word with
  -- an unknown word would be an addition
  | none => exact built_bare rfl rfl rfl rfl
  | some k =>
    have hk := List.all_eq_true.mp hoperators (word, k) (mem_of_lookup hlookup)
    rw [Bool.and_eq_true, beq_iff_eq, List.isEmpty_iff] at hk
    obtain ⟨hcategory, hlayout⟩ := hk
    refine built_bare hcategory hlayout rfl (beq_eq_false_iff_ne.mpr ?_)
    rintro rfl
    cases hcategory

theorem binary_gives {operators : List (String × Kind)}
    (hoperators : areOperators operators = true) {operand : Parse Node}
    (hoperand : Gives (Built .expression) operand) :
    Gives (Built .expression) (binary operators operand) := by
  refine leftward_gives hoperand fun left hleft => (passes_oneOf _).bind fun t _ =>
    hoperand.bind fun right hright => .pure fun p hp => ?_
  exact built_build rfl rfl rfl hp ((suits_node rfl rfl hleft).cons
    ((suits_node rfl rfl (built_lookup hoperators _)).cons (suits_node rfl rfl hright).only))

theorem unary_gives (word : String) {k : Kind} (hk : Built .unaryOperator (bare k))
    {operand : Parse Node} (hoperand : Gives (Built .expression) operand) :
    Gives (Built .expression) (unary word k operand) := by
  refine gives_spanned <| (passes_symbol _).bind fun _ _ => hoperand.bind fun n hn =>
    .pure fun p hp => ?_
  exact built_build rfl rfl rfl hp ((suits_node rfl rfl hk).cons (suits_node rfl rfl hn).only)

theorem joined_gives (word : String) {k : Kind} (hk : Built .boolOperator (bare k))
    {operand : Parse Node} (hoperand : Gives (Built .expression) operand) :
    Gives (Built .expression) (joined word k operand) := by
  refine gives_peek.bind fun first hfirst => hoperand.bind fun a ha =>
    ((passes_symbol _).bind fun _ _ => hoperand).many.bind fun rest hrest =>
      .ite (.pure ha) (passes_passed.bind fun last _ => .pure ?_)
  exact built_build rfl rfl rfl hfirst.sited ((suits_node rfl rfl hk).cons
    (suits_list rfl rfl (List.forall_mem_cons.mpr ⟨ha, hrest⟩)).only)

/-! ### Primaries -/

abbrev Extends (p : Parse (Place → Node)) : Prop :=
  Gives (fun f => ∀ place : Place, place.Sited → Built .expression (f place)) p

theorem slicePart_gives (h : Keep rules) : Gives (Built .expression) (slicePart rules) := by
  have hpart := (h.one .expression).optional
  refine .orElse (gives_spanned <| hpart.bind fun lower hlower => (passes_symbol _).bind fun _ _ =>
    hpart.bind fun upper hupper => ((passes_symbol _).bind fun _ _ => hpart).optional.bind
      fun step hstep => .pure fun p hp => ?_) (h.one .namedExpression)
  refine built_build rfl rfl rfl hp (((suits_optional rfl rfl hlower).append
    (suits_optional rfl rfl hupper)).append (suits_optional rfl rfl ?_))
  cases step with
  | none => exact nofun
  | some o => exact hstep o rfl

theorem slices_gives (h : Keep rules) : Gives (Built .expression) (slices rules) :=
  .orElse ((slicePart_gives h).bind fun _ hn => (passes_symbol _).notAhead.bind fun _ _ => .pure hn)
    (gives_spanned <| (((slicePart_gives h).orElse (starredExpression_gives h)).sepBy1
      (passes_symbol _)).bind fun _ hns => (passes_symbol _).optional.bind fun _ _ =>
        .pure fun _ hp => built_tuple built_load hns hp)

theorem callArguments_extends (h : Keep rules) {callee : Node} (hcallee : Built .expression callee) :
    Extends (callArguments rules callee) := by
  have hnone {c : Tree.Category} : ∀ n ∈ ([] : List Node), Built c n :=
    fun _ hn => absurd hn List.not_mem_nil
  refine (passes_symbol _).bind fun _ _ => (h.one .arguments).optional.bind fun args hargs =>
    (passes_symbol _).bind fun _ _ => .pure fun p hp => ?_
  cases args with
  | none => exact built_call hcallee hnone hnone hp
  | some a => exact built_call hcallee (hargs a rfl).positional (hargs a rfl).keywords hp

theorem generatorCall_extends (h : Keep rules) {callee : Node}
    (hcallee : Built .expression callee) : Extends (generatorCall rules callee) :=
  (generator_gives h).bind fun _ hn => .pure fun _ hp =>
    built_call hcallee (List.forall_mem_singleton.mpr hn)
      (fun _ hm => absurd hm List.not_mem_nil) hp

theorem attributeStep_extends {context : Kind} (hcontext : Built .context (bare context)) {n : Node}
    (hn : Built .expression n) : Extends (attributeStep context n) :=
  (passes_symbol _).bind fun _ _ => gives_nameToken.bind fun t _ =>
    .pure fun _ hp => built_attribute hcontext hn t hp

theorem subscriptStep_extends (h : Keep rules) {context : Kind}
    (hcontext : Built .context (bare context)) {n : Node} (hn : Built .expression n) :
    Extends (subscriptStep rules context n) :=
  (passes_symbol _).bind fun _ _ => (slices_gives h).bind fun _ hs => (passes_symbol _).bind
    fun _ _ => .pure fun _ hp => built_subscript hcontext hn hs hp

theorem primary_gives (h : Keep rules) : Gives (Built .expression) (primary rules) :=
  leftward_gives (atom_gives h) fun _ hn => (attributeStep_extends built_load hn).orElse
    ((generatorCall_extends h hn).orElse ((callArguments_extends h hn).orElse
      (subscriptStep_extends h built_load hn)))

theorem awaitPrimary_gives (h : Keep rules) : Gives (Built .expression) (awaitPrimary rules) :=
  .orElse (gives_spanned <| (passes_symbol _).bind fun _ _ => (h.one .primary).bind fun _ hn =>
    .pure fun _ hp => built_build rfl rfl rfl hp (suits_node rfl rfl hn).only) (h.one .primary)

theorem power_gives (h : Keep rules) : Gives (Built .expression) (power rules) := by
  have hpow : Built .operator (bare .pow) := built_bare rfl rfl rfl rfl
  refine gives_peek.bind fun first hfirst => (h.one .awaitPrimary).bind fun a ha =>
    ((passes_symbol _).bind fun _ _ => h.one .factor).optional.bind fun b hb => ?_
  cases b with
  | none => exact .pure ha
  | some b =>
    exact passes_passed.bind fun last _ => .pure (built_build rfl rfl rfl hfirst.sited
      ((suits_node rfl rfl ha).cons ((suits_node rfl rfl hpow).cons
        (suits_node rfl rfl (hb b rfl)).only)))

theorem factor_gives (h : Keep rules) : Gives (Built .expression) (factor rules) :=
  (unary_gives _ (built_bare rfl rfl rfl rfl) (h.one .factor)).orElse
    ((unary_gives _ (built_bare rfl rfl rfl rfl) (h.one .factor)).orElse
      ((unary_gives _ (built_bare rfl rfl rfl rfl) (h.one .factor)).orElse (power_gives h)))

/-! ### Comparisons and conditions -/

theorem comparisonOperator_gives :
    Gives (fun k => Built .comparison (bare k)) comparisonOperator := by
  have hword (word : String) {k : Kind} (hk : Built .comparison (bare k)) :
      Gives (fun k => Built .comparison (bare k))
        (do let _ ← Parse.symbol word; return k) :=
    (passes_symbol word).bind fun _ _ => .pure hk
  have hwords (first second : String) {k : Kind} (hk : Built .comparison (bare k)) :
      Gives (fun k => Built .comparison (bare k))
        (do let _ ← Parse.symbol first; let _ ← Parse.symbol second; return k) :=
    (passes_symbol first).bind fun _ _ => hword second hk
  have hbare {k : Kind} (hcategory : k.category = .comparison) (hlayout : k.layout = [])
      (hkind : (k == .compare) = false) : Built .comparison (bare k) :=
    built_bare hcategory hlayout rfl hkind
  exact (hword _ (hbare rfl rfl rfl)).orElse <| (hword _ (hbare rfl rfl rfl)).orElse <|
    (hword _ (hbare rfl rfl rfl)).orElse <| (hword _ (hbare rfl rfl rfl)).orElse <|
    (hword _ (hbare rfl rfl rfl)).orElse <| (hword _ (hbare rfl rfl rfl)).orElse <|
    (hwords _ _ (hbare rfl rfl rfl)).orElse <| (hword _ (hbare rfl rfl rfl)).orElse <|
    (hwords _ _ (hbare rfl rfl rfl)).orElse (hword _ (hbare rfl rfl rfl))

theorem comparisonPair_gives (h : Keep rules) :
    Gives (fun p => Built .comparison (bare p.1) ∧ Built .expression p.2) (comparisonPair rules) :=
  .orElse (comparisonOperator_gives.bind fun _ hk => (h.one .bitwiseOr).bind fun _ hn =>
    .pure ⟨hk, hn⟩) ((passes_symbol _).bind fun _ _ => (h.one .bitwiseOr).bind fun _ hn =>
      .pure ⟨built_bare rfl rfl rfl rfl, hn⟩)

theorem comparison_gives (h : Keep rules) : Gives (Built .expression) (comparison rules) := by
  refine gives_peek.bind fun first hfirst => (h.one .bitwiseOr).bind fun a ha =>
    (comparisonPair_gives h).many.bind fun pairs hpairs =>
      .ite (.pure ha) (passes_passed.bind fun last _ => .pure ?_)
  refine built_sited rfl rfl hfirst.sited (fun _ => ?_) ((suits_node rfl rfl ha).cons
    ((suits_list rfl rfl fun n hn => ?_).cons (suits_list rfl rfl fun n hn => ?_).only))
  · -- both lists are made from the same pairs
    change ((pairs.map fun p => bare p.1).map Value.node).length =
      ((pairs.map (·.2)).map Value.node).length
    simp
  · obtain ⟨pair, hpair, rfl⟩ := List.mem_map.mp hn
    exact (hpairs pair hpair).1
  · obtain ⟨pair, hpair, rfl⟩ := List.mem_map.mp hn
    exact (hpairs pair hpair).2

theorem inversion_gives (h : Keep rules) : Gives (Built .expression) (inversion rules) :=
  (unary_gives _ (built_bare rfl rfl rfl rfl) (h.one .inversion)).orElse (comparison_gives h)

theorem lambdaExpression_gives (h : Keep rules) :
    Gives (Built .expression) (lambdaExpression rules) := by
  refine gives_spanned <| (passes_symbol _).bind fun _ _ => (parameters_gives h .lambda).optional.bind
    fun ps hps => (passes_symbol _).bind fun _ _ => (h.one .expression).bind fun e he =>
      .pure fun p hp => ?_
  exact built_build rfl rfl rfl hp
    ((suits_node rfl rfl (parametersNode_built hps)).cons (suits_node rfl rfl he).only)

theorem conditional_gives (h : Keep rules) : Gives (Built .expression) (conditional rules) := by
  refine gives_spanned <| (h.one .disjunction).bind fun a ha => (passes_symbol _).bind fun _ _ =>
    (h.one .disjunction).bind fun b hb => (passes_symbol _).bind fun _ _ =>
      (h.one .expression).bind fun c hc => .pure fun p hp => ?_
  exact built_build rfl rfl rfl hp ((suits_node rfl rfl hb).cons
    ((suits_node rfl rfl ha).cons (suits_node rfl rfl hc).only))

theorem expression_gives (h : Keep rules) : Gives (Built .expression) (expression rules) :=
  (gives_searching _).orElse ((gives_searching _).orElse ((conditional_gives h).orElse
    ((h.one .disjunction).orElse (lambdaExpression_gives h))))

theorem starExpression_gives (h : Keep rules) : Gives (Built .expression) (starExpression rules) :=
  (starredOperand_gives h).orElse (h.one .expression)

theorem tupleOrOne_gives {element : Parse Node} (helement : Gives (Built .expression) element) :
    Gives (Built .expression) (tupleOrOne element) :=
  gives_peek.bind fun _ hfirst => helement.bind fun _ ha =>
    ((passes_symbol _).bind fun _ _ => helement).many.bind fun _ hrest =>
      (passes_symbol _).optional.bind fun _ _ => .ite (.pure ha) (passes_passed.bind fun _ _ =>
        .pure (built_tuple built_load (List.forall_mem_cons.mpr ⟨ha, hrest⟩) hfirst.sited))

theorem starExpressions_gives (h : Keep rules) : Gives (Built .expression) (starExpressions rules) :=
  tupleOrOne_gives (h.one .starExpression)

theorem invalidNamed_gives (h : Keep rules) {P : List Node → Prop} :
    Gives P (invalidNamed rules) := by
  have hbehind := (passes_oneOf ["=", ":="]).notAhead
  refine .orElse ?_ (.orElse ?_ ?_)
  · exact (h.one .expression).bind fun _ _ => (passes_symbol _).bind fun _ _ =>
      (h.one .expression).bind fun _ _ => gives_faultAtNode _ _
  · exact gives_nameToken.bind fun _ _ => (passes_symbol _).bind fun _ _ =>
      (h.one .bitwiseOr).bind fun _ _ => hbehind.bind fun _ _ => gives_faultAt _ _
  · have hdisplay {p : Parse Node} (hp : Gives (Built .expression) p) : Passes p :=
      hp.mono fun _ _ => trivial
    have hplain : Passes (do let t ← Parse.oneOf ["True", "None", "False"]; return nameNode .load t) :=
      (passes_oneOf _).bind fun _ _ => .pure trivial
    exact ((hdisplay (listDisplay_gives h).rule).orElse ((hdisplay (tupleDisplay_gives h).rule).orElse
      ((hdisplay (generator_gives h)).orElse hplain))).notAhead.bind fun _ _ =>
        (h.one .bitwiseOr).bind fun _ _ => (passes_symbol _).bind fun _ _ =>
          (h.one .bitwiseOr).bind fun _ _ => hbehind.bind fun _ _ => gives_faultAtNode _ _

/-! ### Targets -/

theorem targetPrimary_gives (h : Keep rules) : Gives (Built .expression) (targetPrimary rules) := by
  have hcontinues : Passes (Parse.ahead targetContinues) := (passes_oneOf _).ahead
  have hstep {f : Parse (Place → Node)} (hf : Extends f) :
      Extends (do let n ← f; Parse.ahead targetContinues; return n) :=
    hf.bind fun _ hn => hcontinues.bind fun _ _ => .pure hn
  exact leftward_gives ((atom_gives h).bind fun _ hn => hcontinues.bind fun _ _ => .pure hn)
    fun _ hn => (hstep (attributeStep_extends built_load hn)).orElse
      ((hstep (subscriptStep_extends h built_load hn)).orElse
        ((hstep (generatorCall_extends h hn)).orElse (hstep (callArguments_extends h hn))))

theorem attributeOrSubscript_gives (h : Keep rules) {context : Kind}
    (hcontext : Built .context (bare context)) :
    Gives (Built .expression) (attributeOrSubscript rules context) := by
  have hends : Passes (Parse.notAhead targetContinues) := (passes_oneOf _).notAhead
  exact .orElse
    (gives_spanned <| (h.one .targetPrimary).bind fun _ hn =>
      (attributeStep_extends hcontext hn).bind fun _ hf => hends.bind fun _ _ => .pure hf)
    (gives_spanned <| (h.one .targetPrimary).bind fun _ hn =>
      (subscriptStep_extends h hcontext hn).bind fun _ hf => hends.bind fun _ _ => .pure hf)

theorem starTarget_gives (h : Keep rules) : Gives (Built .expression) (starTarget rules) :=
  .orElse (gives_spanned <| (passes_symbol _).bind fun _ _ => (passes_symbol _).notAhead.bind
    fun _ _ => (h.one .starTarget).bind fun _ hn => .pure fun _ hp =>
      built_starred built_store (built_withContext built_store hn) hp) (h.one .targetWithStarAtom)

theorem starTargetTuple_gives (h : Keep rules) :
    Gives (fun ns => ∀ n ∈ ns, Built .expression n) (starTargetTuple rules) :=
  .orElse ((h.one .starTarget).bind fun _ hn =>
    ((passes_symbol _).bind fun _ _ => h.one .starTarget).many1.bind fun _ hns =>
      (passes_symbol _).optional.bind fun _ _ => .pure (List.forall_mem_cons.mpr ⟨hn, hns⟩))
    ((h.one .starTarget).bind fun _ hn => (passes_symbol _).bind fun _ _ =>
      .pure (List.forall_mem_singleton.mpr hn))

theorem starTargetList_gives (h : Keep rules) :
    Gives (fun ns => ∀ n ∈ ns, Built .expression n) (starTargetList rules) :=
  ((h.one .starTarget).sepBy1 (passes_symbol _)).bind fun _ hns =>
    (passes_symbol _).optional.bind fun _ _ => .pure hns

theorem nameTarget_gives {context : Kind} (hcontext : Built .context (bare context)) :
    Gives (Built .expression) (do return nameNode context (← nameToken)) :=
  gives_nameToken.bind fun _ ht => .pure (built_nameNode hcontext ht.sited ht.no_space)

theorem starAtom_gives (h : Keep rules) : Gives (Built .expression) (starAtom rules) := by
  refine .orElse (nameTarget_gives built_store) (.orElse ?_ (.orElse ?_ ?_))
  · exact (passes_symbol _).bind fun _ _ => (h.one .targetWithStarAtom).bind fun _ hn =>
      (passes_symbol _).bind fun _ _ => .pure (built_withContext built_store hn)
  · exact gives_spanned <| (passes_symbol _).bind fun _ _ => (starTargetTuple_gives h).optional.bind
      fun _ hns => (passes_symbol _).bind fun _ _ => .pure fun _ hp =>
        built_tuple built_store (forall_getD hns) hp
  · exact gives_spanned <| (passes_symbol _).bind fun _ _ => (starTargetList_gives h).optional.bind
      fun _ hns => (passes_symbol _).bind fun _ _ => .pure fun _ hp =>
        built_listLit built_store (forall_getD hns) hp

theorem targetWithStarAtom_gives (h : Keep rules) :
    Gives (Built .expression) (targetWithStarAtom rules) :=
  (attributeOrSubscript_gives h built_store).orElse (starAtom_gives h)

theorem singleTarget_gives (h : Keep rules) : Gives (Built .expression) (singleTarget rules) :=
  (attributeOrSubscript_gives h built_store).orElse ((nameTarget_gives built_store).orElse
    ((passes_symbol _).bind fun _ _ => (h.one .singleTarget).bind fun _ hn =>
      (passes_symbol _).bind fun _ _ => .pure hn))

theorem delTargets_gives (h : Keep rules) :
    Gives (fun ns => ∀ n ∈ ns, Built .expression n) (delTargets rules) :=
  ((h.one .delTarget).sepBy1 (passes_symbol _)).bind fun _ hns =>
    (passes_symbol _).optional.bind fun _ _ => .pure hns

theorem delTarget_gives (h : Keep rules) : Gives (Built .expression) (delTarget rules) := by
  refine .orElse (attributeOrSubscript_gives h built_del)
    (.orElse (nameTarget_gives built_del) (.orElse ?_ (.orElse ?_ ?_)))
  · exact (passes_symbol _).bind fun _ _ => (h.one .delTarget).bind fun _ hn =>
      (passes_symbol _).bind fun _ _ => .pure (built_withContext built_del hn)
  · exact gives_spanned <| (passes_symbol _).bind fun _ _ => (delTargets_gives h).optional.bind
      fun _ hns => (passes_symbol _).bind fun _ _ => .pure fun _ hp =>
        built_tuple built_del (forall_getD hns) hp
  · exact gives_spanned <| (passes_symbol _).bind fun _ _ => (delTargets_gives h).optional.bind
      fun _ hns => (passes_symbol _).bind fun _ _ => .pure fun _ hp =>
        built_listLit built_del (forall_getD hns) hp

end CodeLint.Source.Grammar
