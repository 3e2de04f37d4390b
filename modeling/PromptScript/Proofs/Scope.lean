import PromptScript.Document.Basic
import PromptScript.Proofs.SymbolTable

/-!
# Proofs.Scope

Compiling accepts exactly the well-scoped documents. `WellScoped` says, without a symbol table, that
names are declared once and used below their declaration; `InOrder` says the same along the list of
declarations and is the form in which the table is followed.
-/

namespace PromptScript

open SymbolTable

/-- The canonical names that declarations bring. -/
def declaredNames (ds : List Declaration) : List String := ds.map fun d => canonicalName d.name

/-- Whether a reference counts as one: a bare name in braces does if the document knows the name. -/
def Refers (known : List String) (r : Reference) : Prop := r.bare = true → r.name ∈ known

/-- Every reference of the text names something in scope. -/
def InScope (known scope : List String) (text : String) : Prop :=
  ∀ o ∈ references text, Refers known o.reference → o.reference.name ∈ scope

/-- The symbol that a declaration brings. -/
def Declaration.symbol (d : Declaration) : Symbol := ⟨d.value.variableType, .userDefined, d.line⟩

/-- The value holds the text as one in which references are replaced: it is the text itself, or the
text is the message of a prompt or the subject of a choice between actions. -/
inductive Value.Holds : Value → String → Prop where
  | text (s : String) : Holds (.text s) s
  | message {a : Action} {s : String} : .prompt s ∈ a.verbs → Holds (.action a) s
  | subject (m : CaseMatch) : Holds (.caseMatch m) m.subject
  | arm {m : CaseMatch} {a : Action} {s : String} : a ∈ m.arms.values → .prompt s ∈ a.verbs →
      Holds (.caseMatch m) s

/-- Numbers and flags have types of their own, and all else is text. -/
inductive Value.HasType : Value → VariableType → Prop where
  | number (n : Int) : HasType (.number n) .number
  | flag (b : Bool) : HasType (.flag b) .flag
  | text {v : Value} : (∀ n, v ≠ .number n) → (∀ b, v ≠ .flag b) → HasType v .text

/-- Names are declared once, and used only below their declaration. -/
structure WellScoped (h : Header) (body : List Char) : Prop where
  distinct : (declaredNames h.declarations).Nodup
  fresh : ∀ d ∈ h.declarations, canonicalName d.name ∉ builtInNames
  /-- The texts of a value refer to names of the host and to declarations above. -/
  above : ∀ before d after, h.declarations = before ++ d :: after → ∀ text, d.value.Holds text →
    InScope (Document.knownNames h) (builtInNames ++ declaredNames before) text
  /-- The body refers to names of the host and to any declaration. -/
  body : InScope (Document.knownNames h) (Document.knownNames h) (String.ofList body)

/-- The texts of each value are in scope where it is declared, and its name is not. -/
def InOrder (known : List String) : List String → List Declaration → Prop
  | _, [] => True
  | scope, d :: rest =>
    (∀ text ∈ d.value.texts, InScope known scope text) ∧ canonicalName d.name ∉ scope ∧
      InOrder known (scope ++ [canonicalName d.name]) rest

theorem inOrder_iff {known scope : List String} {ds : List Declaration} :
    InOrder known scope ds ↔ (declaredNames ds).Nodup ∧
      (∀ d ∈ ds, canonicalName d.name ∉ scope) ∧
      ∀ before d after, ds = before ++ d :: after →
        ∀ text ∈ d.value.texts, InScope known (scope ++ declaredNames before) text := by
  induction ds generalizing scope with
  | nil => simp [InOrder, declaredNames]
  | cons d rest ih =>
    rw [InOrder, ih]
    constructor
    · rintro ⟨htexts, hnew, hnodup, hfresh, habove⟩
      have hkey : canonicalName d.name ∉ declaredNames rest := by
        intro hmem
        obtain ⟨d', hd', hname⟩ := List.mem_map.1 hmem
        exact hfresh d' hd' (by simp [hname])
      refine ⟨List.nodup_cons.2 ⟨hkey, hnodup⟩, ?_, ?_⟩
      · intro d' hd'
        rcases List.mem_cons.1 hd' with rfl | hd'
        · exact hnew
        · intro hmem
          exact hfresh d' hd' (List.mem_append_left _ hmem)
      · intro before d' after heq
        cases before with
        | nil =>
          cases heq
          simpa [declaredNames] using htexts
        | cons b before =>
          obtain ⟨rfl, hrest⟩ := List.cons.inj heq
          intro text htext
          have := habove before d' after hrest text htext
          simpa [declaredNames] using this
    · rintro ⟨hnodup, hfresh, habove⟩
      obtain ⟨hkey, hnodup⟩ := List.nodup_cons.1 hnodup
      refine ⟨?_, hfresh d List.mem_cons_self, hnodup, ?_, ?_⟩
      · intro text htext
        simpa [declaredNames] using habove [] d rest rfl text htext
      · intro d' hd' hmem
        rcases List.mem_append.1 hmem with hmem | hmem
        · exact hfresh d' (List.mem_cons_of_mem d hd') hmem
        · rw [List.mem_singleton] at hmem
          exact hkey (List.mem_map.2 ⟨d', hd', hmem⟩)
      · intro before d' after heq text htext
        have := habove (d :: before) d' after (by rw [heq]; rfl) text htext
        simpa [declaredNames] using this

theorem Action.mem_messages_iff {a : Action} {s : String} :
    s ∈ a.messages ↔ .prompt s ∈ a.verbs := by
  rw [Action.messages, List.mem_filterMap]
  constructor
  · rintro ⟨v, hv, hs⟩
    cases v <;> cases hs
    exact hv
  · exact fun h => ⟨_, h, rfl⟩

theorem Value.mem_texts_iff {v : Value} {s : String} : s ∈ v.texts ↔ v.Holds s := by
  constructor
  · intro h
    cases v with
    | text t =>
      obtain rfl := List.mem_singleton.1 h
      exact .text s
    | action a => exact .message (Action.mem_messages_iff.1 h)
    | caseMatch m =>
      rcases List.mem_cons.1 h with rfl | h
      · exact .subject m
      · obtain ⟨a, ha, hs⟩ := List.mem_flatMap.1 h
        exact .arm ha (Action.mem_messages_iff.1 hs)
    | number n => cases h
    | date t => cases h
    | flag b => cases h
    | list items => cases h
    | record fields => cases h
  · rintro (_ | hs | _ | ⟨ha, hs⟩)
    · exact List.mem_singleton_self s
    · exact Action.mem_messages_iff.2 hs
    · exact List.mem_cons_self
    · exact List.mem_cons_of_mem _ (List.mem_flatMap.2 ⟨_, ha, Action.mem_messages_iff.2 hs⟩)

theorem Value.hasType_iff {v : Value} {t : VariableType} : v.HasType t ↔ t = v.variableType := by
  constructor
  · rintro (n | b | ⟨hnumber, hflag⟩)
    · rfl
    · rfl
    · cases v with
      | number n => exact absurd rfl (hnumber n)
      | flag b => exact absurd rfl (hflag b)
      | _ => rfl
  · rintro rfl
    cases v with
    | number n => exact .number n
    | flag b => exact .flag b
    | _ => exact .text (fun _ h => by cases h) fun _ h => by cases h

theorem wellScoped_iff {h : Header} {body : List Char} :
    WellScoped h body ↔ InOrder (Document.knownNames h) builtInNames h.declarations ∧
      InScope (Document.knownNames h) (Document.knownNames h) (String.ofList body) := by
  rw [inOrder_iff]
  simp only [Value.mem_texts_iff]
  constructor
  · rintro ⟨hdistinct, hfresh, habove, hbody⟩
    exact ⟨⟨hdistinct, hfresh, habove⟩, hbody⟩
  · rintro ⟨⟨hdistinct, hfresh, habove⟩, hbody⟩
    exact ⟨hdistinct, hfresh, habove, hbody⟩

namespace Document

/-! ## Checking texts -/

theorem isChecked_eq_true_iff {known : List String} {r : Reference} :
    isChecked known r = true ↔ Refers known r := by
  simp only [isChecked, Refers, Bool.or_eq_true, Bool.not_eq_true', List.contains_iff_mem]
  cases r.bare <;> simp

theorem isName_of_mem_references {text : String} {o : Occurrence} (h : o ∈ references text) :
    IsName o.reference.identifier :=
  isName_of_mem_pieces (mem_references_iff.1 ⟨o, h, rfl⟩)

theorem checkText_eq_ok_iff {t : SymbolTable} {scope : List String} (ht : t.Covers scope)
    (known : List String) (lineOf : Occurrence → Nat) (text : String) :
    checkText t known lineOf text = .ok () ↔ InScope known scope text := by
  have hfind : firstUndeclared? t known (references text) = none ↔ InScope known scope text := by
    rw [firstUndeclared?, List.find?_eq_none]
    constructor
    · intro h o ho hrefers
      have := h o ho
      rw [Bool.and_eq_true, not_and, isChecked_eq_true_iff] at this
      have hfound := this hrefers
      rw [Bool.not_eq_true', Bool.not_eq_false] at hfound
      exact (ht.contains_label (isName_of_mem_references ho)).1 hfound
    · intro h o ho hand
      rw [Bool.and_eq_true, isChecked_eq_true_iff] at hand
      have hmem := h o ho hand.1
      rw [← ht.contains_label (isName_of_mem_references ho)] at hmem
      simp [hmem] at hand
  rw [checkText, ← hfind]
  cases firstUndeclared? t known (references text) <;> simp

theorem checkTexts_eq_ok_iff {t : SymbolTable} {scope : List String} (ht : t.Covers scope)
    (known : List String) (line : Nat) (texts : List String) :
    checkTexts t known line texts = .ok () ↔ ∀ text ∈ texts, InScope known scope text := by
  induction texts with
  | nil => simp [checkTexts]
  | cons text rest ih =>
    rw [checkTexts, List.forall_mem_cons, ← checkText_eq_ok_iff ht known (fun _ => line), ← ih]
    cases checkText t known (fun _ => line) text <;> simp

/-! ## Declaring variables -/

/-- Declaring succeeds when everything is in order. -/
theorem declare_isOk_iff {t : SymbolTable} {scope : List String} (ht : t.Covers scope)
    (known : List String) (ds : List Declaration) :
    (∃ t', declare known t ds = .ok t') ↔ InOrder known scope ds := by
  -- the table covers the scope, and goes on doing so as each declaration enters both
  induction ds generalizing t scope with
  | nil => simp [declare, InOrder]
  | cons d rest ih =>
    rw [declare, InOrder, ← checkTexts_eq_ok_iff ht known d.line]
    cases hcheck : checkTexts t known d.line d.value.texts with
    | error e => simp
    | ok u =>
      rcases hadd : t.add d.name d.symbol with ⟨e | _, t₁⟩
      · have hmem : canonicalName d.name ∈ scope := by
          rw [← ht, ← Decidable.not_not (p := _ = true), ← NameMap.get?_eq_none_iff]
          intro hnone
          rw [add_eq_ok_iff.2 ⟨hnone, rfl⟩] at hadd
          cases hadd
        rw [Declaration.symbol] at hadd
        simp [hadd, hmem]
      · obtain ⟨hnone, rfl⟩ := add_eq_ok_iff.1 hadd
        have hnew : canonicalName d.name ∉ scope := by
          rw [← ht]
          exact NameMap.get?_eq_none_iff.1 hnone
        have hrest := ih (ht.insert (canonicalName d.name) d.symbol)
        rw [Declaration.symbol] at hadd hrest
        simp [hadd, hnew, hrest]

/-- What the table holds after declaring. -/
theorem get?_of_declare {known : List String} {t t' : SymbolTable} {ds : List Declaration}
    (h : declare known t ds = .ok t') (name : String) (s : Symbol) :
    t'.symbols.get? name = some s ↔ t.symbols.get? name = some s ∨
      ∃ d ∈ ds, canonicalName d.name = name ∧ s = d.symbol := by
  induction ds generalizing t with
  | nil => simp only [declare] at h; cases h; simp
  | cons d rest ih =>
    simp only [declare] at h
    split at h
    · cases h
    · split at h
      · cases h
      · rename_i t1 hadd
        obtain ⟨hnone, rfl⟩ := add_eq_ok_iff.1 hadd
        rw [ih h, NameMap.get?_insert]
        by_cases hn : name = canonicalName d.name
        · subst hn
          simp [hnone, Declaration.symbol, eq_comm]
        · simp [hn, Ne.symm hn]

/-- After all declarations the table holds the names that the document knows. -/
theorem covers_of_declare {h : Header} {known : List String} {t : SymbolTable}
    (ht : declare known builtIns h.declarations = .ok t) : t.Covers (knownNames h) := by
  intro name
  rw [NameMap.contains_eq_true_iff, knownNames, List.mem_append, List.mem_map]
  simp only [get?_of_declare ht, get?_builtIns]
  constructor
  · rintro ⟨s, hs | ⟨d, hd, hname, _⟩⟩
    · left
      by_cases hmem : name ∈ builtInNames
      · exact hmem
      · rw [if_neg hmem] at hs
        cases hs
    · exact .inr ⟨d, hd, hname⟩
  · rintro (hmem | ⟨d, hd, hname⟩)
    · exact ⟨builtInSymbol, .inl (if_pos hmem)⟩
    · exact ⟨d.symbol, .inr ⟨d, hd, hname, rfl⟩⟩

/-! ## Compiling -/

theorem ofHeader_isOk_iff (h : Header) (s : Sections) :
    (∃ d, ofHeader h s = .ok d) ↔ WellScoped h s.body := by
  rw [wellScoped_iff, ← declare_isOk_iff covers_builtIns]
  simp only [ofHeader]
  cases hdeclare : declare (knownNames h) builtIns h.declarations with
  | error e => simp
  | ok t =>
    have hcheck := checkText_eq_ok_iff (covers_of_declare hdeclare) (knownNames h)
      (fun o => s.bodyLine + o.lineOffset) (String.ofList s.body)
    rw [← hcheck]
    cases hbody : checkText t (knownNames h) (fun o => s.bodyLine + o.lineOffset)
        (String.ofList s.body) with
    | error e => simp [hbody]
    | ok u => simp [hbody]

theorem ofHeader_eq_ok {h : Header} {s : Sections} {d : Document} (hd : ofHeader h s = .ok d) :
    ∃ t, declare (knownNames h) builtIns h.declarations = .ok t ∧
      d = ⟨h, s.body, s.bodyLine, t.symbols⟩ := by
  simp only [ofHeader] at hd
  split at hd
  · cases hd
  · rename_i t hdeclare
    split at hd
    · cases hd
    · cases hd
      exact ⟨t, hdeclare, rfl⟩

theorem compile_eq_ok_iff {text : String} {d : Document} :
    compile text = .ok d ↔ ∃ s h, Sections.ofText? text.toList = some s ∧
      headerOf s = .ok h ∧ ofHeader h s = .ok d := by
  rw [compile]
  cases hs : Sections.ofText? text.toList with
  | none => simp
  | some s =>
    cases hh : headerOf s with
    | error e => simp [hh]
    | ok h => simp [hh]

/-- What is read off the document that a text compiles to. -/
theorem compiled_of_map {β : Type} {text : String} {f : Document → β} {b : β}
    (h : (compile text).toOption.map f = some b) : ∃ d, compile text = .ok d ∧ f d = b := by
  cases hd : compile text with
  | error e => rw [hd] at h; cases h
  | ok d => rw [hd] at h; exact ⟨d, rfl, Option.some.inj h⟩

/-- A compiled document is well scoped. -/
theorem wellScoped_of_compile {text : String} {d : Document} (h : compile text = .ok d) :
    WellScoped d.header d.body := by
  obtain ⟨s, header, _, _, hok⟩ := compile_eq_ok_iff.1 h
  obtain ⟨t, _, rfl⟩ := ofHeader_eq_ok hok
  exact (ofHeader_isOk_iff header s).1 ⟨_, hok⟩

/-- A symbol is one that every host provides, or that of a declaration. -/
theorem symbol_iff {text : String} {d : Document} (hd : compile text = .ok d) {name : String}
    {s : Symbol} :
    d.symbols.get? name = some s ↔
      (name ∈ builtInNames ∧ s = builtInSymbol) ∨
        ∃ decl ∈ d.header.declarations, canonicalName decl.name = name ∧ s = decl.symbol := by
  obtain ⟨_, h, _, _, hok⟩ := compile_eq_ok_iff.1 hd
  obtain ⟨t, hdeclare, rfl⟩ := ofHeader_eq_ok hok
  rw [get?_of_declare hdeclare, get?_builtIns]
  split
  · rename_i hmem
    simp [hmem, eq_comm]
  · rename_i hmem
    simp [hmem]

/-- Compiling accepts exactly the well-scoped documents, and its symbols are those of the host and
one for each declaration. -/
theorem compile_accepts_wellScoped (text : String) :
    ((∃ d, compile text = .ok d) ↔ ∃ s h, Sections.ofText? text.toList = some s ∧
      headerOf s = .ok h ∧ WellScoped h s.body) ∧
    ∀ d, compile text = .ok d →
      (∃ s, Sections.ofText? text.toList = some s ∧ headerOf s = .ok d.header ∧
        d.body = s.body ∧ d.bodyLine = s.bodyLine) ∧
      ∀ name symbol, d.symbols.get? name = some symbol ↔
        (name ∈ builtInNames ∧ symbol = ⟨.text, .builtIn, 0⟩) ∨
        ∃ decl ∈ d.header.declarations, canonicalName decl.name = name ∧
          ∃ type, decl.value.HasType type ∧ symbol = ⟨type, .userDefined, decl.line⟩ := by
  constructor
  · constructor
    · rintro ⟨d, hd⟩
      obtain ⟨s, h, hs, hh, hok⟩ := compile_eq_ok_iff.1 hd
      exact ⟨s, h, hs, hh, (ofHeader_isOk_iff h s).1 ⟨d, hok⟩⟩
    · rintro ⟨s, h, hs, hh, hscoped⟩
      obtain ⟨d, hok⟩ := (ofHeader_isOk_iff h s).2 hscoped
      exact ⟨d, compile_eq_ok_iff.2 ⟨s, h, hs, hh, hok⟩⟩
  · intro d hd
    obtain ⟨s, h, hs, hh, hok⟩ := compile_eq_ok_iff.1 hd
    obtain ⟨t, hdeclare, rfl⟩ := ofHeader_eq_ok hok
    refine ⟨⟨s, hs, hh, rfl, rfl⟩, fun name symbol => ?_⟩
    simp only [symbol_iff hd, builtInSymbol, Declaration.symbol, Value.hasType_iff,
      exists_eq_left]

/-- A number, and below it a prompt that refers to the number and to a name of the host; and a body
that refers to what nobody declares. -/
theorem compile_accepts_wellScoped_prompt :
    let text :=
      "---\nvariables:\n  n: 3\n  p: /x/ \x7b prompt(\"$n $language\") \x7d\n---\n$p"
    (∃ d s, compile text = .ok d ∧ Sections.ofText? text.toList = some s ∧
        WellScoped d.header s.body ∧
        d.symbols.get? "n" = some ⟨.number, .userDefined, 3⟩ ∧
        ∃ decl ∈ d.header.declarations, canonicalName decl.name = "n" ∧
          decl.value.HasType .number ∧ decl.line = 3) ∧
      ¬ ∃ s h, Sections.ofText? "$p".toList = some s ∧ headerOf s = .ok h ∧
        WellScoped h s.body := by
  intro text
  constructor
  · have hn : (compile text).toOption.map (·.symbols.get? "n") =
        some (some ⟨.number, .userDefined, 3⟩) := by decide +kernel
    obtain ⟨d, hd, hsymbol⟩ := compiled_of_map hn
    obtain ⟨haccepts, hsymbols⟩ := compile_accepts_wellScoped text
    obtain ⟨s, h, hs, hh, hscoped⟩ := haccepts.1 ⟨d, hd⟩
    obtain ⟨⟨s', hs', hh', _⟩, hiff⟩ := hsymbols d hd
    obtain rfl := Option.some.inj (hs.symm.trans hs')
    obtain rfl := Except.ok.inj (hh.symm.trans hh')
    refine ⟨d, s, hd, hs, hscoped, hsymbol, ?_⟩
    rcases (hiff _ _).1 hsymbol with ⟨_, heq⟩ | ⟨decl, hdecl, hname, type, htype, heq⟩
    · cases heq
    · obtain ⟨rfl, _, hline⟩ := Symbol.mk.inj heq
      exact ⟨decl, hdecl, hname, htype, hline.symm⟩
  · have hnone : (compile "$p").toOption.isSome = false := by decide +kernel
    rw [← (compile_accepts_wellScoped "$p").1]
    rintro ⟨d, hd⟩
    rw [hd] at hnone
    cases hnone

end Document

end PromptScript
