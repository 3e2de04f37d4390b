import PromptScript.Pipeline.Expression
import PromptScript.Proofs.SymbolTable

/-!
# Proofs.Grammar

The pattern language as a grammar over tokens,

    expression = action | "case" text { (text action)* }
    action     = pattern { call (| call)* }
    call       = word [ ( [ text (, text)* ] ) ]

and the readers against it. What a reader takes from the tokens is derived by the grammar
(`call_sound` and its like), and a reader takes whatever the grammar derives if what comes next
cannot belong to it (`call_complete` and its like). Together, a text is read exactly if all of its
tokens derive an expression (`ofTextWith_eq_ok_iff`). Which texts write a pattern is a parameter of
both.
-/

namespace PromptScript

namespace NameMap

/-- A map of pairs with distinct names holds exactly these pairs. -/
theorem get?_ofList_eq_some_iff {α : Type u} {pairs : List (String × α)}
    (h : (pairs.map (·.1)).Nodup) {name : String} {value : α} :
    (ofList pairs).get? name = some value ↔ (name, value) ∈ pairs := by
  have key : ∀ m : NameMap α,
      (pairs.foldl (fun m e => m.insert e.1 e.2) m).get? name = some value ↔
        (name, value) ∈ pairs ∨ name ∉ pairs.map (·.1) ∧ m.get? name = some value := by
    induction pairs with
    | nil => intro m; simp
    | cons e rest ih =>
      intro m
      obtain ⟨k, v⟩ := e
      rw [List.map_cons, List.nodup_cons] at h
      have hmem : ∀ {w}, (k, w) ∉ rest := fun hw => h.1 (List.mem_map_of_mem (f := (·.1)) hw)
      rw [List.foldl_cons, ih h.2, get?_insert]
      by_cases hname : name = k
      · subst hname
        simp only [List.mem_cons, List.map_cons, true_or, not_true_eq_false, false_and, or_false,
          Prod.mk.injEq, true_and, if_true, Option.some.injEq]
        constructor
        · rintro (hw | ⟨_, rfl⟩)
          · exact absurd hw hmem
          · exact .inl rfl
        · rintro (rfl | hw)
          · exact .inr ⟨h.1, rfl⟩
          · exact .inl hw
      · simp [hname]
  rw [ofList, key empty]
  constructor
  · rintro (hmem | ⟨_, hnone⟩)
    · exact hmem
    · cases hnone
  · exact .inl

end NameMap

/-- The tokens without their lines. -/
def tokens (ts : List PlacedToken) : List Token := ts.map (·.token)

@[simp] theorem tokens_cons (p : PlacedToken) (ts : List PlacedToken) :
    tokens (p :: ts) = p.token :: tokens ts := rfl

@[simp] theorem tokens_append (ts rest : List PlacedToken) :
    tokens (ts ++ rest) = tokens ts ++ tokens rest := List.map_append

@[simp] theorem tokens_placed (made : List Token) (line : Nat) :
    tokens (made.map fun t => ⟨t, line⟩) = made := by
  induction made with
  | nil => rfl
  | cons t rest ih => rw [List.map_cons, tokens_cons, ih]

theorem tokens_eq_cons_iff {ts : List PlacedToken} {t : Token} {more : List Token} :
    tokens ts = t :: more ↔ ∃ line rest, ts = ⟨t, line⟩ :: rest ∧ tokens rest = more := by
  constructor
  · intro h
    obtain ⟨p, rest, rfl, rfl, hrest⟩ := List.map_eq_cons_iff.1 h
    exact ⟨p.line, rest, rfl, hrest⟩
  · rintro ⟨line, rest, rfl, rfl⟩
    rfl

namespace Grammar

/-! ## The grammar -/

/-- Texts with commas before them. -/
def commaTexts : List String → List Token
  | [] => []
  | s :: rest => .comma :: .text s :: commaTexts rest

/-- Texts with commas between them. -/
def listedTexts : List String → List Token
  | [] => []
  | s :: rest => .text s :: commaTexts rest

/-- The arguments of a call, in parentheses; without any, the parentheses may be left out. -/
inductive ArgumentTokens : List Token → List String → Prop where
  | absent : ArgumentTokens [] []
  | given (texts : List String) :
      ArgumentTokens (.openParen :: listedTexts texts ++ [.closeParen]) texts

section Valid

-- which texts write a pattern
variable (valid : String → Prop)

/-- The verbs by their words, with the arguments that each of them takes. -/
inductive IsVerb : String → List String → Verb → Prop where
  | prompt (message : String) : IsVerb "prompt" [message] (.prompt message)
  | grep {patterns : List String} :
      1 ≤ patterns.length → (∀ p ∈ patterns, valid p) → IsVerb "grep" patterns (.grep patterns)
  | sort (arguments : List String) : IsVerb "sort" arguments (.sort arguments)
  | xargs {names : List String} :
      1 ≤ names.length → names.length ≤ 5 → IsVerb "xargs" names (.xargs names)

inductive CallTokens : List Token → Verb → Prop where
  | mk {word : String} {ts : List Token} {arguments : List String} {v : Verb} :
      ArgumentTokens ts arguments → IsVerb valid word arguments v → CallTokens (.word word :: ts) v

/-- Calls with bars before them. -/
inductive BarCalls : List Token → List Verb → Prop where
  | nil : BarCalls [] []
  | cons {ts rest : List Token} {v : Verb} {vs : List Verb} :
      CallTokens valid ts v → BarCalls rest vs → BarCalls (.bar :: ts ++ rest) (v :: vs)

/-- Calls with bars between them. -/
inductive PipelineTokens : List Token → List Verb → Prop where
  | mk {ts rest : List Token} {v : Verb} {vs : List Verb} :
      CallTokens valid ts v → BarCalls valid rest vs → PipelineTokens (ts ++ rest) (v :: vs)

inductive ActionTokens : List Token → Action → Prop where
  | mk {ts : List Token} {a : Action} :
      valid a.trigger → PipelineTokens valid ts a.verbs →
        ActionTokens (.pattern a.trigger :: .openBrace :: ts ++ [.closeBrace]) a

/-- The arms of a case match with their keys, in the order in which they are written. -/
inductive ArmTokens : List Token → List (String × Action) → Prop where
  | nil : ArmTokens [] []
  | cons {ts rest : List Token} {key : String} {a : Action} {arms : List (String × Action)} :
      ActionTokens valid ts a → ArmTokens rest arms →
        ArmTokens (.text key :: ts ++ rest) ((key, a) :: arms)

/-- An expression. No two arms of a case match have one key, and each key selects its own action. -/
inductive ExpressionTokens : List Token → Value → Prop where
  | action {ts : List Token} {a : Action} :
      ActionTokens valid ts a → ExpressionTokens ts (.action a)
  | caseMatch {ts : List Token} {arms : List (String × Action)} {m : CaseMatch} :
      ArmTokens valid ts arms → (arms.map (·.1)).Nodup →
        (∀ key a, m.select key = some a ↔ (key, a) ∈ arms) →
          ExpressionTokens
            (.word "case" :: .text m.subject :: .openBrace :: ts ++ [.closeBrace]) (.caseMatch m)

end Valid

/-! ## The mark of the end

It is no part of an expression. -/

section Done

variable {valid : String → Prop} {ts : List Token}

theorem done_not_mem_commaTexts (texts : List String) : Token.done ∉ commaTexts texts := by
  induction texts with
  | nil => exact List.not_mem_nil
  | cons s rest ih => simp [commaTexts, ih]

theorem done_not_mem_arguments {texts : List String} (h : ArgumentTokens ts texts) :
    Token.done ∉ ts := by
  cases h with
  | absent => exact List.not_mem_nil
  | given texts =>
    cases texts with
    | nil => simp [listedTexts]
    | cons s rest => simp [listedTexts, done_not_mem_commaTexts]

theorem done_not_mem_call {v : Verb} (h : CallTokens valid ts v) : Token.done ∉ ts := by
  obtain ⟨harguments, _⟩ := h
  simp [done_not_mem_arguments harguments]

theorem done_not_mem_barCalls {vs : List Verb} (h : BarCalls valid ts vs) : Token.done ∉ ts := by
  induction h with
  | nil => exact List.not_mem_nil
  | cons hcall _ ih => simp [done_not_mem_call hcall, ih]

theorem done_not_mem_action {a : Action} (h : ActionTokens valid ts a) : Token.done ∉ ts := by
  obtain ⟨_, hpipeline⟩ := h
  generalize a.verbs = vs at hpipeline
  obtain ⟨hcall, hcalls⟩ := hpipeline
  simp [done_not_mem_call hcall, done_not_mem_barCalls hcalls]

theorem done_not_mem_arms {arms : List (String × Action)} (h : ArmTokens valid ts arms) :
    Token.done ∉ ts := by
  induction h with
  | nil => exact List.not_mem_nil
  | cons haction _ ih => simp [done_not_mem_action haction, ih]

theorem done_not_mem_expression {v : Value} (h : ExpressionTokens valid ts v) :
    Token.done ∉ ts := by
  cases h with
  | action haction => exact done_not_mem_action haction
  | caseMatch harms _ _ => simp [done_not_mem_arms harms]

end Done

end Grammar

namespace Token

theorem done_not_mem_start {c : Char} {made : List Token} {mode : Mode}
    (h : start c = .ok (made, mode)) : Token.done ∉ made := by
  unfold start at h
  split at h
  · cases h; exact List.not_mem_nil
  · split at h
    case h_9 => split at h <;> cases h; exact List.not_mem_nil
    all_goals cases h; simp

theorem done_not_mem_advance {mode mode' : Mode} {c : Char} {made : List Token}
    (h : advance mode c = .ok (made, mode')) : Token.done ∉ made := by
  cases mode with
  | between => exact done_not_mem_start h
  | word read =>
    rw [advance] at h
    split at h
    · cases h; exact List.not_mem_nil
    · cases hstart : start c with
      | error e => rw [hstart] at h; cases h
      | ok r =>
        rw [hstart] at h
        cases h
        simp [done_not_mem_start hstart]
  | text read =>
    rw [advance] at h
    split at h
    · cases h; simp
    · split at h
      · cases h; simp
      · split at h <;> cases h
        simp
  | escape read => cases h; simp
  | pattern read =>
    rw [advance] at h
    split at h
    · cases h; simp
    · split at h
      · cases h
      · split at h <;> cases h <;> simp
  | slash read =>
    rw [advance] at h
    split at h
    · cases h; simp
    · split at h
      · cases h
      · split at h <;> cases h <;> simp

theorem done_last_finish {mode : Mode} {made : List Token} (h : finish mode = .ok made) :
    ∃ body, made = body ++ [.done] ∧ Token.done ∉ body := by
  cases mode with
  | between => cases h; exact ⟨[], rfl, List.not_mem_nil⟩
  | word read => cases h; exact ⟨[.word (textOf read)], rfl, by simp⟩
  | text read => cases h
  | escape read => cases h
  | pattern read => cases h
  | slash read => cases h

theorem done_last_scan {mode : Mode} {line : Nat} {cs : List Char} {ts : List PlacedToken}
    (h : scan mode line cs = .ok ts) : ∃ body, tokens ts = body ++ [.done] ∧ Token.done ∉ body := by
  induction cs generalizing mode line ts with
  | nil =>
    rw [scan] at h
    split at h
    · cases h
    · rename_i made hfinish
      cases h
      obtain ⟨body, hbody, hdone⟩ := done_last_finish hfinish
      exact ⟨body, by rw [tokens_placed, hbody], hdone⟩
  | cons c rest ih =>
    rw [scan] at h
    split at h
    · cases h
    · rename_i made mode' hadvance
      split at h
      · cases h
      · rename_i others hscan
        cases h
        obtain ⟨body, hbody, hdone⟩ := ih hscan
        refine ⟨made ++ body, ?_, by simp [done_not_mem_advance hadvance, hdone]⟩
        rw [tokens_append, tokens_placed, hbody, List.append_assoc]

end Token

namespace Expression

open Grammar

/-- The texts that a check accepts. -/
def Passes (check : String → Checked Unit) (pattern : String) : Prop := check pattern = .ok ()

section Readers

variable {check : String → Checked Unit} {ts rest : List PlacedToken}

theorem expect_eq_ok_iff {t : Token} {sign : Char} :
    expect t sign ts = .ok rest ↔ ∃ line, ts = ⟨t, line⟩ :: rest := by
  cases ts with
  | nil => simp [expect]
  | cons p more =>
    obtain ⟨token, line⟩ := p
    rw [expect]
    by_cases htoken : token = t
    · subst htoken
      rw [if_pos rfl]
      simp
    · rw [if_neg htoken]
      simp [htoken]

theorem expect_sound {t : Token} {sign : Char} (h : expect t sign ts = .ok rest) :
    tokens ts = t :: tokens rest := by
  obtain ⟨line, rfl⟩ := expect_eq_ok_iff.1 h
  rfl

theorem expect_complete {t : Token} {more : List Token} (sign : Char) (h : tokens ts = t :: more) :
    ∃ rest, expect t sign ts = .ok rest ∧ tokens rest = more := by
  obtain ⟨line, rest, hts, hrest⟩ := tokens_eq_cons_iff.1 h
  exact ⟨rest, expect_eq_ok_iff.2 ⟨line, hts⟩, hrest⟩

theorem onLine_eq_ok_iff {α : Type} {line : Nat} {c : Checked α} {a : α} :
    onLine line c = .ok a ↔ c = .ok a := by
  cases c <;> simp [onLine]

/-! ## Calls -/

theorem checkPatterns_eq_ok_iff {patterns : List String} :
    checkPatterns check patterns = .ok () ↔ ∀ p ∈ patterns, Passes check p := by
  induction patterns with
  | nil => simp [checkPatterns]
  | cons p more ih =>
    rw [checkPatterns, List.forall_mem_cons, Passes]
    cases check p with
    | error f => simp
    | ok u => simp [ih]

theorem verbOf_sound {word : String} {arguments : List String} {v : Verb}
    (h : verbOf check word arguments = .ok v) : IsVerb (Passes check) word arguments v := by
  unfold verbOf at h
  split at h
  · split at h
    · cases h; exact .prompt _
    · cases h
  · split at h
    · cases h
    · rename_i hne
      cases hchecked : checkPatterns check arguments with
      | error f => rw [hchecked] at h; cases h
      | ok u =>
        rw [hchecked] at h
        cases h
        exact .grep (List.length_pos_iff.2 hne) (checkPatterns_eq_ok_iff.1 hchecked)
  · cases h; exact .sort _
  · split at h
    · cases h
    · rename_i hlength
      cases h
      rw [not_or, List.isEmpty_iff, Nat.not_lt] at hlength
      exact .xargs (List.length_pos_iff.2 hlength.1) hlength.2
  · cases h

theorem verbOf_complete {word : String} {arguments : List String} {v : Verb}
    (h : IsVerb (Passes check) word arguments v) : verbOf check word arguments = .ok v := by
  cases h with
  | prompt message => rfl
  | grep hlength hvalid =>
    have hchecked := checkPatterns_eq_ok_iff.2 hvalid
    cases arguments with
    | nil => cases hlength
    | cons p more => simp only [verbOf, hchecked, Except.map]
  | sort _ => rfl
  | xargs hleast hmost =>
    have hlength :
        ¬ (arguments.isEmpty = true ∨ ExpressionFault.mostVariables < arguments.length) := by
      rw [not_or, List.isEmpty_iff, Nat.not_lt]
      exact ⟨List.length_pos_iff.1 hleast, hmost⟩
    simp only [verbOf, if_neg hlength]

theorem moreTexts_sound {texts : List String} (h : moreTexts ts = .ok (texts, rest)) :
    tokens ts = commaTexts texts ++ tokens rest := by
  fun_induction moreTexts ts generalizing texts rest with
  | case1 => cases h
  | case2 _ s _ _ _ _ hmore ih =>
    cases h
    simp [ih hmore, commaTexts]
  | case3 => cases h
  | case4 => cases h; rfl

theorem moreTexts_complete {texts : List String} {more : List Token}
    (h : tokens ts = commaTexts texts ++ .closeParen :: more) :
    ∃ rest, moreTexts ts = .ok (texts, rest) ∧ tokens rest = .closeParen :: more := by
  induction texts generalizing ts with
  | nil =>
    obtain ⟨line, rest, rfl, _⟩ := tokens_eq_cons_iff.1 h
    exact ⟨_, rfl, h⟩
  | cons s texts ih =>
    obtain ⟨line, afterComma, rfl, htext⟩ := tokens_eq_cons_iff.1 h
    obtain ⟨line', afterText, rfl, htexts⟩ := tokens_eq_cons_iff.1 htext
    obtain ⟨rest, hmore, hrest⟩ := ih htexts
    exact ⟨rest, by rw [moreTexts, hmore], hrest⟩

theorem closedArguments_sound {texts : List String} (h : closedArguments ts = .ok (texts, rest)) :
    tokens ts = listedTexts texts ++ .closeParen :: tokens rest := by
  unfold closedArguments at h
  split at h
  · cases h; rfl
  · split at h
    · cases h
    · rename_i hmore
      split at h
      · cases h
      · rename_i hclose
        cases h
        rw [tokens_cons, moreTexts_sound hmore, expect_sound hclose]
        rfl
  · cases h

theorem closedArguments_complete {texts : List String} {more : List Token}
    (h : tokens ts = listedTexts texts ++ .closeParen :: more) :
    ∃ rest, closedArguments ts = .ok (texts, rest) ∧ tokens rest = more := by
  cases texts with
  | nil =>
    obtain ⟨line, rest, rfl, hrest⟩ := tokens_eq_cons_iff.1 h
    exact ⟨rest, rfl, hrest⟩
  | cons s texts =>
    obtain ⟨line, ts, rfl, hts⟩ := tokens_eq_cons_iff.1 h
    obtain ⟨between, hmore, hbetween⟩ := moreTexts_complete hts
    obtain ⟨rest, hclose, hrest⟩ := expect_complete ')' hbetween
    exact ⟨rest, by rw [closedArguments, hmore]; dsimp only; rw [hclose], hrest⟩

theorem arguments_sound {texts : List String} (h : arguments ts = .ok (texts, rest)) :
    ∃ used, tokens ts = used ++ tokens rest ∧ ArgumentTokens used texts := by
  unfold arguments at h
  split at h
  · refine ⟨_, ?_, .given texts⟩
    rw [tokens_cons, closedArguments_sound h]
    simp
  · cases h
    exact ⟨[], rfl, .absent⟩

theorem arguments_complete {texts : List String} {used more : List Token}
    (h : ArgumentTokens used texts) (hts : tokens ts = used ++ more)
    (hmore : more.head? ≠ some .openParen) :
    ∃ rest, arguments ts = .ok (texts, rest) ∧ tokens rest = more := by
  cases h with
  | absent =>
    refine ⟨ts, ?_, hts⟩
    unfold arguments
    split
    · refine absurd ?_ hmore
      rw [← List.nil_append more, ← hts]
      rfl
    · rfl
  | given texts =>
    simp only [List.cons_append, List.append_assoc] at hts
    obtain ⟨line, inside, rfl, hinside⟩ := tokens_eq_cons_iff.1 hts
    exact closedArguments_complete hinside

theorem call_sound {v : Verb} (h : call check ts = .ok (v, rest)) :
    ∃ used, tokens ts = used ++ tokens rest ∧ CallTokens (Passes check) used v := by
  unfold call at h
  split at h
  · split at h
    · cases h
    · rename_i harguments
      split at h
      · cases h
      · rename_i hverb
        cases h
        obtain ⟨used, hused, hderives⟩ := arguments_sound harguments
        exact ⟨_, by rw [tokens_cons, hused]; rfl,
          .mk hderives (verbOf_sound (onLine_eq_ok_iff.1 hverb))⟩
  · cases h

theorem call_complete {v : Verb} {used more : List Token} (h : CallTokens (Passes check) used v)
    (hts : tokens ts = used ++ more) (hmore : more.head? ≠ some .openParen) :
    ∃ rest, call check ts = .ok (v, rest) ∧ tokens rest = more := by
  obtain @⟨word, _, texts, _, harguments, hverb⟩ := h
  obtain ⟨line, afterWord, rfl, hafter⟩ := tokens_eq_cons_iff.1 hts
  obtain ⟨rest, hread, hrest⟩ := arguments_complete harguments hafter hmore
  have hplaced : onLine line (verbOf check word texts) = .ok v :=
    onLine_eq_ok_iff.2 (verbOf_complete hverb)
  exact ⟨rest, by rw [call, hread]; dsimp only; rw [hplaced], hrest⟩

/-! ## Pipelines -/

theorem moreVerbs_sound {vs : List Verb} (h : moreVerbs check ts = .ok (vs, rest)) :
    ∃ used, tokens ts = used ++ tokens rest ∧ BarCalls (Passes check) used vs := by
  fun_induction moreVerbs check ts generalizing vs rest with
  | case1 => cases h
  | case2 => cases h
  | case3 _ afterBar v afterCall hcall _ vs more hmore ih =>
    cases h
    obtain ⟨first, hfirst, hderives⟩ := call_sound hcall
    obtain ⟨used, hused, hcalls⟩ := ih hmore
    refine ⟨_, ?_, .cons hderives hcalls⟩
    rw [tokens_cons, hfirst, hused]
    simp
  | case4 => cases h; exact ⟨[], rfl, .nil⟩

/-- What follows a call within braces is no opening parenthesis. -/
theorem head?_barCalls {valid : String → Prop} {used : List Token} {vs : List Verb}
    (h : BarCalls valid used vs) (more : List Token) :
    (used ++ .closeBrace :: more).head? ≠ some .openParen := by
  cases h <;> simp

theorem moreVerbs_complete {vs : List Verb} {used more : List Token}
    (h : BarCalls (Passes check) used vs) (hts : tokens ts = used ++ .closeBrace :: more) :
    ∃ rest, moreVerbs check ts = .ok (vs, rest) ∧ tokens rest = .closeBrace :: more := by
  induction h generalizing ts with
  | nil =>
    obtain ⟨line, after, rfl, _⟩ := tokens_eq_cons_iff.1 hts
    refine ⟨_, ?_, hts⟩
    rw [moreVerbs]
    intro line afterBar heq
    cases heq
  | @cons _ _ v vs hcall hcalls ih =>
    simp only [List.cons_append, List.append_assoc] at hts
    obtain ⟨line, afterBar, rfl, hafterBar⟩ := tokens_eq_cons_iff.1 hts
    -- a bar or the closing brace comes next, so no argument is taken that belongs to something else
    obtain ⟨afterCall, hread, hafterCall⟩ :=
      call_complete hcall hafterBar (head?_barCalls hcalls more)
    obtain ⟨rest, hmore, hrest⟩ := ih hafterCall
    refine ⟨rest, ?_, hrest⟩
    rw [moreVerbs]
    split
    · rename_i heq
      rw [hread] at heq
      cases heq
    · rename_i heq
      rw [hread] at heq
      cases heq
      rw [hmore]

theorem verbs_sound {vs : List Verb} (h : verbs check ts = .ok (vs, rest)) (hne : vs ≠ []) :
    ∃ used, tokens ts = used ++ tokens rest ∧ PipelineTokens (Passes check) used vs := by
  unfold verbs at h
  split at h
  · cases h
    exact absurd rfl hne
  · split at h
    · cases h
    · rename_i hcall
      split at h
      · cases h
      · rename_i hmore
        cases h
        obtain ⟨first, hfirst, hderives⟩ := call_sound hcall
        obtain ⟨used, hused, hcalls⟩ := moreVerbs_sound hmore
        exact ⟨_, by rw [hfirst, hused, List.append_assoc], .mk hderives hcalls⟩

theorem verbs_complete {vs : List Verb} {used more : List Token}
    (h : PipelineTokens (Passes check) used vs) (hts : tokens ts = used ++ .closeBrace :: more) :
    ∃ rest, verbs check ts = .ok (vs, rest) ∧ tokens rest = .closeBrace :: more := by
  obtain ⟨hcall, hcalls⟩ := h
  rw [List.append_assoc] at hts
  obtain ⟨afterCall, hread, hafterCall⟩ := call_complete hcall hts (head?_barCalls hcalls more)
  obtain ⟨rest, hmore, hrest⟩ := moreVerbs_complete hcalls hafterCall
  refine ⟨rest, ?_, hrest⟩
  unfold verbs
  split
  · obtain ⟨_, _⟩ := hcall
    cases hts
  · rw [hread]
    dsimp only
    rw [hmore]

/-! ## Actions -/

theorem ofVerbs?_eq_some_iff {trigger : String} {vs : List Verb} {a : Action} :
    Action.ofVerbs? trigger vs = some a ↔ a.trigger = trigger ∧ a.verbs = vs := by
  unfold Action.ofVerbs?
  split
  · constructor
    · intro h; cases h; exact ⟨rfl, rfl⟩
    · rintro ⟨rfl, rfl⟩; rfl
  · rename_i hnil
    constructor
    · intro h; cases h
    · rintro ⟨_, rfl⟩; exact absurd a.verbs_ne_nil hnil

theorem action_sound {a : Action} (h : action check ts = .ok (a, rest)) :
    ∃ used, tokens ts = used ++ tokens rest ∧ ActionTokens (Passes check) used a := by
  unfold action at h
  split at h
  · split at h
    · cases h
    · rename_i hcheck
      split at h
      · cases h
      · rename_i hopen
        split at h
        · cases h
        · rename_i hverbs
          split at h
          · cases h
          · rename_i hclose
            split at h
            · cases h
            · rename_i hsome
              cases h
              obtain ⟨rfl, rfl⟩ := ofVerbs?_eq_some_iff.1 hsome
              have hvalid : Passes check a.trigger := onLine_eq_ok_iff.1 hcheck
              obtain ⟨used, hused, hderives⟩ := verbs_sound hverbs a.verbs_ne_nil
              refine ⟨_, ?_, .mk hvalid hderives⟩
              rw [tokens_cons, expect_sound hopen, hused, expect_sound hclose]
              simp
  · cases h

theorem action_complete {a : Action} {used more : List Token}
    (h : ActionTokens (Passes check) used a) (hts : tokens ts = used ++ more) :
    ∃ rest, action check ts = .ok (a, rest) ∧ tokens rest = more := by
  obtain ⟨hvalid, hpipeline⟩ := h
  simp only [List.cons_append, List.append_assoc] at hts
  obtain ⟨line, afterPattern, rfl, hopen⟩ := tokens_eq_cons_iff.1 hts
  obtain ⟨inside, hopen, hinside⟩ := expect_complete '\x7b' hopen
  obtain ⟨afterVerbs, hverbs, hclose⟩ := verbs_complete hpipeline hinside
  obtain ⟨rest, hclose, hrest⟩ := expect_complete '\x7d' hclose
  have hcheck : onLine line (check a.trigger) = .ok () := onLine_eq_ok_iff.2 hvalid
  have hsome : Action.ofVerbs? a.trigger a.verbs = some a := ofVerbs?_eq_some_iff.2 ⟨rfl, rfl⟩
  refine ⟨rest, ?_, hrest⟩
  rw [action, hcheck]
  dsimp only
  rw [hopen]
  dsimp only
  rw [hverbs]
  dsimp only
  rw [hclose]
  dsimp only
  rw [hsome]

/-! ## Case matches -/

/-- The arms found so far stay, the new ones are added in order. Each key is new. -/
theorem arms_sound {found m : NameMap Action} (h : arms check found ts = .ok (m, rest)) :
    ∃ used pairs, tokens ts = used ++ .closeBrace :: tokens rest ∧
      ArmTokens (Passes check) used pairs ∧ (pairs.map (·.1)).Nodup ∧
      (∀ key ∈ pairs.map (·.1), found.contains key = false) ∧
      m = pairs.foldl (fun m e => m.insert e.1 e.2) found := by
  fun_induction arms check found ts generalizing m rest with
  | case1 => cases h; exact ⟨[], [], rfl, .nil, .nil, by simp, rfl⟩
  | case2 => cases h
  | case3 => cases h
  | case4 found key line afterKey a afterAction haction _ hnew ih =>
    obtain ⟨first, hfirst, hderives⟩ := action_sound haction
    obtain ⟨used, pairs, hused, harms, hnodup, hfresh, hm⟩ := ih h
    -- the later arms are read with this key already found, so none of them has it
    have hkey : key ∉ pairs.map (·.1) := by
      intro hmem
      have hinserted := hfresh key hmem
      rw [NameMap.contains, NameMap.get?_insert_self] at hinserted
      cases hinserted
    refine ⟨_, (key, a) :: pairs, ?_, .cons hderives harms, ?_, ?_, hm⟩
    · rw [tokens_cons, hfirst, hused]
      simp
    · exact List.nodup_cons.2 ⟨hkey, hnodup⟩
    · intro other hother
      rcases List.mem_cons.1 hother with rfl | hmem
      · simpa using hnew
      · have hne : other ≠ key := fun heq => hkey (heq ▸ hmem)
        have hinserted := hfresh other hmem
        rwa [NameMap.contains, NameMap.get?_insert_ne _ _ hne] at hinserted
  | case5 => cases h

theorem arms_complete {found : NameMap Action} {pairs : List (String × Action)}
    {used more : List Token} (h : ArmTokens (Passes check) used pairs)
    (hnodup : (pairs.map (·.1)).Nodup)
    (hfresh : ∀ key ∈ pairs.map (·.1), found.contains key = false)
    (hts : tokens ts = used ++ .closeBrace :: more) :
    ∃ rest, arms check found ts = .ok (pairs.foldl (fun m e => m.insert e.1 e.2) found, rest) ∧
      tokens rest = more := by
  induction h generalizing found ts with
  | nil =>
    obtain ⟨line, rest, rfl, hrest⟩ := tokens_eq_cons_iff.1 hts
    exact ⟨rest, by rw [arms]; rfl, hrest⟩
  | @cons _ _ key a pairs haction _ ih =>
    rw [List.map_cons, List.nodup_cons] at hnodup
    rw [List.map_cons, List.forall_mem_cons] at hfresh
    simp only [List.cons_append, List.append_assoc] at hts
    obtain ⟨line, afterKey, rfl, hafterKey⟩ := tokens_eq_cons_iff.1 hts
    obtain ⟨afterAction, hread, hafterAction⟩ := action_complete haction hafterKey
    have hstill : ∀ other ∈ pairs.map (·.1), (found.insert key a).contains other = false := by
      intro other hother
      have hne : other ≠ key := fun heq => hnodup.1 (heq ▸ hother)
      rw [NameMap.contains, NameMap.get?_insert_ne _ _ hne]
      exact hfresh.2 other hother
    obtain ⟨rest, harms, hrest⟩ := ih hnodup.2 hstill hafterAction
    refine ⟨rest, ?_, hrest⟩
    rw [arms]
    split
    · rename_i heq
      rw [hread] at heq
      cases heq
    · rename_i heq
      rw [hread] at heq
      cases heq
      rw [if_neg (by simp [hfresh.1]), harms]
      rfl

theorem caseMatch_sound {m : CaseMatch} (h : caseMatch check ts = .ok (m, rest)) :
    ∃ used, tokens ts = used ++ tokens rest ∧
      ExpressionTokens (Passes check) (.word caseWord :: used) (.caseMatch m) := by
  unfold caseMatch at h
  split at h
  · split at h
    · cases h
    · rename_i hopen
      split at h
      · cases h
      · rename_i harms
        cases h
        obtain ⟨used, pairs, hused, hderives, hnodup, _, rfl⟩ := arms_sound harms
        refine ⟨_, ?_, .caseMatch hderives hnodup
          fun key a => NameMap.get?_ofList_eq_some_iff hnodup⟩
        rw [tokens_cons, expect_sound hopen, hused]
        simp
  · cases h

theorem caseMatch_complete {m : CaseMatch} {used more : List Token}
    {pairs : List (String × Action)} (h : ArmTokens (Passes check) used pairs)
    (hnodup : (pairs.map (·.1)).Nodup)
    (hselect : ∀ key a, m.select key = some a ↔ (key, a) ∈ pairs)
    (hts : tokens ts = .text m.subject :: .openBrace :: used ++ .closeBrace :: more) :
    ∃ rest, caseMatch check ts = .ok (m, rest) ∧ tokens rest = more := by
  obtain ⟨line, afterSubject, rfl, hopen⟩ := tokens_eq_cons_iff.1 hts
  obtain ⟨inside, hopen, hinside⟩ := expect_complete '\x7b' hopen
  have hfresh : ∀ key ∈ pairs.map (·.1), (NameMap.empty : NameMap Action).contains key = false :=
    fun _ _ => rfl
  obtain ⟨rest, harms, hrest⟩ := arms_complete h hnodup hfresh hinside
  have hmap : NameMap.ofList pairs = m.arms := by
    apply NameMap.ext_get?
    intro key
    apply Option.ext
    intro a
    exact (NameMap.get?_ofList_eq_some_iff hnodup).trans (hselect key a).symm
  refine ⟨rest, ?_, hrest⟩
  rw [caseMatch, hopen]
  dsimp only
  rw [harms]
  dsimp only
  rw [NameMap.ofList] at hmap
  rw [hmap]

/-! ## Expressions -/

theorem next_token (ts : List PlacedToken) :
    (next ts).token = (tokens ts).headD .done := by
  cases ts <;> rfl

theorem leading_sound {v : Value} (h : leading check ts = .ok (v, rest)) :
    ∃ used, tokens ts = used ++ tokens rest ∧ ExpressionTokens (Passes check) used v := by
  unfold leading at h
  split at h
  · rename_i hcase
    cases hread : caseMatch check (ts.drop 1) with
    | error e => rw [hread] at h; cases h
    | ok r =>
      rw [hread] at h
      cases h
      obtain ⟨used, hused, hderives⟩ := caseMatch_sound hread
      cases ts with
      | nil => cases hcase
      | cons p after =>
        have hword : p.token = .word caseWord := hcase
        exact ⟨_, by rw [tokens_cons, hword]; exact congrArg _ hused, hderives⟩
  · cases hread : action check ts with
    | error e => rw [hread] at h; cases h
    | ok r =>
      rw [hread] at h
      cases h
      obtain ⟨used, hused, hderives⟩ := action_sound hread
      exact ⟨used, hused, .action hderives⟩

theorem leading_complete {v : Value} {used more : List Token}
    (h : ExpressionTokens (Passes check) used v) (hts : tokens ts = used ++ more) :
    ∃ rest, leading check ts = .ok (v, rest) ∧ tokens rest = more := by
  cases h with
  | action haction =>
    obtain ⟨rest, hread, hrest⟩ := action_complete haction hts
    have hword : (next ts).token ≠ .word caseWord := by
      obtain ⟨_, _⟩ := haction
      rw [next_token, hts]
      intro heq
      cases heq
    exact ⟨rest, by rw [leading, if_neg hword, hread]; rfl, hrest⟩
  | caseMatch harms hnodup hselect =>
    simp only [List.cons_append, List.append_assoc] at hts
    obtain ⟨line, afterWord, rfl, hafterWord⟩ := tokens_eq_cons_iff.1 hts
    obtain ⟨rest, hread, hrest⟩ := caseMatch_complete harms hnodup hselect hafterWord
    have hword : (next (⟨.word "case", line⟩ :: afterWord)).token = .word caseWord := rfl
    exact ⟨rest, by rw [leading, if_pos hword, List.drop_one, List.tail_cons, hread]; rfl, hrest⟩

/-- What is read up to a mark of the end is all that stands before the only one. -/
theorem eq_of_append_done {body used more : List Token} (h : body ++ [.done] = used ++ more)
    (hbody : Token.done ∉ body) (hused : Token.done ∉ used) (hmore : more.headD .done = .done) :
    used = body := by
  induction body generalizing used with
  | nil =>
    cases used with
    | nil => rfl
    | cons t used =>
      obtain ⟨rfl, _⟩ := List.cons.inj h
      exact absurd List.mem_cons_self hused
  | cons b body ih =>
    cases used with
    | nil =>
      rw [← List.nil_append more, ← h] at hmore
      exact absurd (hmore ▸ List.mem_cons_self) hbody
    | cons t used =>
      obtain ⟨rfl, htail⟩ := List.cons.inj h
      rw [ih htail (fun hmem => hbody (List.mem_cons_of_mem _ hmem))
        (fun hmem => hused (List.mem_cons_of_mem _ hmem))]

/-- All tokens before the mark of the end are read, and no others. -/
theorem ofTokens_eq_ok_iff {body : List Token} (hts : tokens ts = body ++ [.done])
    (hdone : Token.done ∉ body) {v : Value} :
    ofTokens check ts = .ok v ↔ ExpressionTokens (Passes check) body v := by
  constructor
  · intro h
    unfold ofTokens at h
    split at h
    · cases h
    · rename_i v' rest hread
      split at h
      · rename_i hnext
        cases h
        obtain ⟨used, hused, hderives⟩ := leading_sound hread
        rw [hts] at hused
        rw [next_token] at hnext
        rwa [← eq_of_append_done hused hdone (done_not_mem_expression hderives) hnext]
      · cases h
  · intro h
    obtain ⟨rest, hread, hrest⟩ := leading_complete h hts
    have hnext : (next rest).token = .done := by rw [next_token, hrest]; rfl
    rw [ofTokens, hread]
    dsimp only
    rw [if_pos hnext]

end Readers

/-- A text is read as an expression exactly if it falls into tokens all of which, up to the mark of
the end, derive this expression. Patterns are what the check accepts. -/
theorem ofTextWith_eq_ok_iff (check : String → Checked Unit) (text : String) (line : Nat)
    (v : Value) :
    ofTextWith check text line = .ok v ↔
      ∃ ts body, Token.ofText text line = .ok ts ∧ tokens ts = body ++ [.done] ∧
        ExpressionTokens (fun pattern => check pattern = .ok ()) body v := by
  rw [ofTextWith]
  cases htokens : Token.ofText text line with
  | error e => simp
  | ok ts =>
    dsimp only
    constructor
    · intro h
      obtain ⟨body, hbody, hdone⟩ := Token.done_last_scan htokens
      exact ⟨ts, body, rfl, hbody, (ofTokens_eq_ok_iff hbody hdone).1 h⟩
    · rintro ⟨_, body, heq, hbody, hderives⟩
      cases heq
      have hdone := done_not_mem_expression hderives
      exact (ofTokens_eq_ok_iff hbody hdone).2 hderives

end Expression

end PromptScript
