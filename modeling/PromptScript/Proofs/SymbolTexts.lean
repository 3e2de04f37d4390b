import PromptScript.Proofs.CheckedValues
import PromptScript.Proofs.Turns

/-!
# Proofs.SymbolTexts

The symbols of a document describe its runs. The compiler adds a symbol for each declaration and the
run a text, each in its own walk over them; in the end the same names are there (`declared_iff`),
each of them once. The type of a symbol is that of the declared value, so it tells what the text of
a number or a flag is (`text_of_typed`), whatever happens in the run.
-/

namespace PromptScript

namespace NameMap

theorem nodup_names {α : Type u} (m : NameMap α) : m.names.Nodup := by
  refine List.pairwise_map.2 (m.ascending.imp ?_)
  intro a b hlt heq
  exact String.lt_irrefl b.1 (heq ▸ hlt)

theorem mem_names_iff {α : Type u} {m : NameMap α} {name : String} :
    name ∈ m.names ↔ m.contains name = true := by
  rw [contains_eq_true_iff, names, List.mem_map]
  constructor
  · rintro ⟨⟨_, value⟩, hmem, rfl⟩
    exact ⟨value, (find?_eq_some_iff m.ascending _ value).2 hmem⟩
  · rintro ⟨value, hget⟩
    exact ⟨(name, value), (find?_eq_some_iff m.ascending name value).1 hget, rfl⟩

end NameMap

/-! ## Symbols and declarations -/

namespace Document

variable {text : String} {d : Document}

/-- The names that the document itself declares. -/
theorem declared_iff (hd : compile text = .ok d) {name : String} :
    (∃ s, d.symbols.get? name = some s ∧ s.scope = .userDefined) ↔
      name ∈ declaredNames d.header.declarations := by
  constructor
  · rintro ⟨s, hs, hscope⟩
    rcases (symbol_iff hd).1 hs with ⟨_, rfl⟩ | ⟨decl, hdecl, rfl, _⟩
    · cases hscope
    · exact List.mem_map_of_mem hdecl
  · intro hmem
    obtain ⟨decl, hdecl, hname⟩ := List.mem_map.1 hmem
    exact ⟨decl.symbol, (symbol_iff hd).2 (.inr ⟨decl, hdecl, hname, rfl⟩), rfl⟩

/-- A symbol that is not a text is that of a declaration. -/
theorem declaration_of_symbol (hd : compile text = .ok d) {name : String} {s : Symbol}
    (hs : d.symbols.get? name = some s) (htype : s.type ≠ .text) :
    ∃ decl ∈ d.header.declarations, canonicalName decl.name = name ∧
      decl.value.variableType = s.type := by
  rcases (symbol_iff hd).1 hs with ⟨_, rfl⟩ | ⟨decl, hdecl, hname, rfl⟩
  · exact absurd rfl htype
  · exact ⟨decl, hdecl, hname, rfl⟩

end Document

namespace Value

theorem value_of_number {v : Value} (h : v.variableType = .number) : ∃ n, v = .number n := by
  cases v with
  | number n => exact ⟨n, rfl⟩
  | text | date | flag | list | record | action | caseMatch => cases h

theorem value_of_flag {v : Value} (h : v.variableType = .flag) : ∃ b, v = .flag b := by
  cases v with
  | flag b => exact ⟨b, rfl⟩
  | text | number | date | list | record | action | caseMatch => cases h

theorem ofText_ne_number {s : String} {line : Nat} {n : Int} : ofText s line ≠ .ok (.number n) := by
  intro h
  unfold ofText at h
  dsimp only at h
  split at h
  · split at h
    · rename_i hread
      cases h
      obtain ⟨_, hbody⟩ := Expression.expressionTokens_of_ofText hread
      cases hbody
    · cases h
  · split at h <;> cases h

/-- The integers of a header have 64 bits. -/
theorem bounds_of_isRead {n : Int} (h : Header.IsRead (.number n)) :
    -(twoTo 63 : Int) ≤ n ∧ n < twoTo 63 := by
  obtain ⟨line, node, hnode⟩ := h
  cases node with
  | integer i =>
    rw [ofNode] at hnode
    split at hnode
    · rename_i hfits
      cases hnode
      rw [fitsSigned64, Bool.and_eq_true, decide_eq_true_iff, decide_eq_true_iff] at hfits
      exact hfits
    · cases hnode
  | text s =>
    rw [ofNode] at hnode
    exact absurd hnode ofText_ne_number
  | sequence items => rw [ofNode] at hnode; split at hnode <;> cases hnode
  | mapping entries => rw [ofNode] at hnode; split at hnode <;> cases hnode
  | null | flag | float | tagged => rw [ofNode] at hnode; cases hnode

/-- Such a value is rendered without the source and without the scene. -/
theorem renderValue_plain (source : ItemSource) (s : RunState) {v : Value}
    (h : v.variableType ≠ .text) : renderValue source s v = (.ok { text := v.plain }, s) := by
  cases v with
  | number | flag => rfl
  | text | date | list | record | action | caseMatch => exact absurd rfl h

end Value

/-! ## Symbols and texts -/

/-- The symbols tell which variables there are and what the texts of some of them are. -/
structure Describes (symbols : NameMap Symbol) (ds : List Declaration)
    (rendered : NameMap String) : Prop where
  names : ∀ name, rendered.contains name = true ↔
    ∃ s, symbols.get? name = some s ∧ s.scope = .userDefined
  /-- Each declaration has a name of its own. -/
  once : rendered.names.Perm (declaredNames ds)
  number : ∀ name s, symbols.get? name = some s → s.type = .number →
    ∃ decl ∈ ds, canonicalName decl.name = name ∧ ∃ n, decl.value = .number n ∧
      -(twoTo 63 : Int) ≤ n ∧ n < twoTo 63 ∧ rendered.get? name = some (toString n)
  flag : ∀ name s, symbols.get? name = some s → s.type = .flag →
    ∃ decl ∈ ds, canonicalName decl.name = name ∧ ∃ b, decl.value = .flag b ∧
      rendered.get? name = some (if b then "true" else "false")

section Runs

variable {text : String} {d : Document} {host : Host} {script : String} {context : Context}
  {cache cache' : ResponseCache} {p q : Progress Event} {out : RunOutput}

theorem contains_rendered_iff (h : d.run host script context cache p = (.ok out, cache', q))
    (name : String) :
    out.rendered.contains name = true ↔ name ∈ declaredNames d.header.declarations := by
  obtain ⟨s, _, _, hvars, _, _, hout⟩ := run_eq_ok h
  rw [hout]
  exact (holds_renderVariables (Scene.holds_nil context) hvars).1 name

/-- The text of a variable whose type is known is its value as it stands. -/
theorem text_of_typed (hd : Document.compile text = .ok d)
    (h : d.run host script context cache p = (.ok out, cache', q)) {decl : Declaration}
    (hdecl : decl ∈ d.header.declarations) (htype : decl.value.variableType ≠ .text) :
    out.rendered.get? (canonicalName decl.name) = some decl.value.plain := by
  obtain ⟨t, ht, rfl⟩ := exists_turn_of_mem h hdecl
  obtain ⟨r, hrendered, hget⟩ := text_of_turn hd h ht
  rw [Turn.rendered, Value.renderValue_plain host.source t.state htype] at hrendered
  cases hrendered
  exact hget

/-- A symbol that is not a text tells what the text of its variable is. -/
theorem text_of_symbol (hd : Document.compile text = .ok d)
    (h : d.run host script context cache p = (.ok out, cache', q)) {name : String} {s : Symbol}
    (hs : d.symbols.get? name = some s) (htype : s.type ≠ .text) :
    ∃ decl ∈ d.header.declarations, canonicalName decl.name = name ∧
      decl.value.variableType = s.type ∧ Header.IsRead decl.value ∧
        out.rendered.get? name = some decl.value.plain := by
  obtain ⟨decl, hdecl, rfl, hvalue⟩ := Document.declaration_of_symbol hd hs htype
  have hread :=
    Document.isRead_of_compile hd _ (Header.mem_values_iff.2 (.inl ⟨decl, hdecl, rfl⟩))
  exact ⟨decl, hdecl, rfl, hvalue, hread, text_of_typed hd h hdecl (hvalue ▸ htype)⟩

/-- In every run that completes the symbols of a compiled document describe the variables, and no
text of a variable is overwritten. -/
theorem symbols_describe_run (hd : Document.compile text = .ok d)
    (h : d.run host script context cache p = (.ok out, cache', q)) :
    Describes d.symbols d.header.declarations out.rendered ∧
      (d.turns host.source context p).map (·.declaration) = d.header.declarations ∧
      ∀ t ∈ d.turns host.source context p, ∃ r, t.rendered host.source = .ok r ∧
        out.rendered.get? t.name = some r.text := by
  refine ⟨⟨?_, ?_, ?_, ?_⟩, map_declaration_turns h, fun t ht => text_of_turn hd h ht⟩
  · intro name
    rw [contains_rendered_iff h, Document.declared_iff hd]
  · have hdistinct := (Document.wellScoped_of_compile hd).distinct
    refine (List.perm_ext_iff_of_nodup out.rendered.nodup_names hdistinct).2 fun name => ?_
    rw [NameMap.mem_names_iff, contains_rendered_iff h]
  · intro name s hs hnumber
    obtain ⟨decl, hdecl, hname, htype, hread, htext⟩ :=
      text_of_symbol hd h hs (by rw [hnumber]; exact nofun)
    obtain ⟨n, hvalue⟩ := Value.value_of_number (htype.trans hnumber)
    rw [hvalue] at hread htext
    obtain ⟨hleast, hmost⟩ := Value.bounds_of_isRead hread
    exact ⟨decl, hdecl, hname, n, hvalue, hleast, hmost, htext⟩
  · intro name s hs hflag
    obtain ⟨decl, hdecl, hname, htype, _, htext⟩ :=
      text_of_symbol hd h hs (by rw [hflag]; exact nofun)
    obtain ⟨b, hvalue⟩ := Value.value_of_flag (htype.trans hflag)
    rw [hvalue] at htext
    exact ⟨decl, hdecl, hname, b, hvalue, by cases b <;> exact htext⟩

end Runs

/-- Two names that differ in their braces only, and a variable that fails. -/
def bracedText : String :=
  "---\nvariables:\n  '\x7bcontext.n\x7d': -9223372036854775808\n  '\x7b\x7bn\x7d\x7d': true\n" ++
    "  bad: /.*/ \x7b sort(\"mtime\") \x7d\n---\n$bad\n"

theorem symbols_describe_run_braced :
    let host : Host := ⟨.ofList ["a"], .withEcho⟩
    ∃ d out cache q, Document.compile bracedText = .ok d ∧
      d.run host "s" {} .empty {} = (.ok out, cache, q) ∧
      d.symbols.get? "n" = some ⟨.number, .userDefined, 3⟩ ∧
      d.symbols.get? "\x7bn\x7d" = some ⟨.flag, .userDefined, 4⟩ ∧
      out.rendered.entries =
        [("bad", diagnostic (PipelineError.invalidArgument "mtime").message),
          ("n", "-9223372036854775808"), ("\x7bn\x7d", "true")] ∧
      Describes d.symbols d.header.declarations out.rendered := by
  intro host
  have hmap : (Document.compile bracedText).toOption.map (fun d =>
      ([d.symbols.get? "n", d.symbols.get? "\x7bn\x7d"],
        (d.run host "s" {} .empty {}).1.toOption.map (·.rendered.entries))) =
      some ([some ⟨.number, .userDefined, 3⟩, some ⟨.flag, .userDefined, 4⟩],
        some [("bad", diagnostic (PipelineError.invalidArgument "mtime").message),
          ("n", "-9223372036854775808"), ("\x7bn\x7d", "true")]) := by
    decide +kernel
  obtain ⟨d, hd, hread⟩ := Document.compiled_of_map hmap
  simp only [Prod.mk.injEq, List.cons.injEq, and_true] at hread
  obtain ⟨⟨hnumber, hflag⟩, htexts⟩ := hread
  rcases hrun : d.run host "s" {} .empty {} with ⟨e | out, cache, q⟩
  · simp [hrun, Except.toOption] at htexts
  · simp only [hrun, Except.toOption, Option.map_some, Option.some.injEq] at htexts
    obtain ⟨hdescribes, _⟩ := symbols_describe_run hd hrun
    exact ⟨d, out, cache, q, hd, hrun, hnumber, hflag, htexts, hdescribes⟩

end PromptScript
