import PromptScript.Proofs.Agreement

/-!
# Proofs.StrayWords

Bare words in braces that a document does not know. The compiler takes them for plain text. A run
looks them up like any reference, so it depends on the host whether they stay: a stray word is left
as written exactly if the host gives it no value but itself (`leftAsWritten_iff`), and if all are,
the values of names that the document does not know make no difference (`stray_words_read_context`).
-/

namespace PromptScript

open SymbolTable

namespace NameMap

/-- The entries of the given names. -/
def only {α : Type u} (names : List String) (m : NameMap α) : NameMap α :=
  ⟨m.entries.filter fun e => e.1 ∈ names, m.ascending.filter _⟩

theorem get?_only {α : Type u} (names : List String) (m : NameMap α) (name : String) :
    (m.only names).get? name = if name ∈ names then m.get? name else none := by
  obtain ⟨entries, ascending⟩ := m
  simp only [get?, only]
  clear ascending
  induction entries with
  | nil => simp [find?]
  | cons e rest ih =>
    obtain ⟨k, v⟩ := e
    by_cases hk : k = name
    · subst hk
      by_cases hmem : k ∈ names
      · simp [hmem, find?]
      · rw [if_neg hmem] at ih ⊢
        rw [List.filter_cons_of_neg (by simpa using hmem), ih]
    · by_cases hmem : k ∈ names
      · rw [List.filter_cons_of_pos (by simpa using hmem), find?, if_neg hk, ih, find?, if_neg hk]
      · rw [List.filter_cons_of_neg (by simpa using hmem), ih, find?, if_neg hk]

end NameMap

/-- The values of the given names. -/
def Context.only (names : List String) (c : Context) : Context := ⟨c.values.only names⟩

theorem Context.get?_only (names : List String) (c : Context) {r : Reference}
    (h : IsName r.identifier) :
    (c.only names).get? r.name = if r.name ∈ names then c.get? r.name else none := by
  simp only [Context.get?, Context.only, NameMap.get?_only, Reference.canonicalName_name h]

/-- A bare name in braces that the document does not know. -/
def Document.Stray (d : Document) (r : Reference) : Prop :=
  r.bare = true ∧ r.name ∉ Document.knownNames d.header

/-- The reference is not replaced, or by itself. -/
def ReferenceLookup.LeftAsWritten (l : ReferenceLookup) : Prop :=
  l.scene.shown l.reference = l.reference.written

/-- A look-up happens when some of the declarations are rendered, from the first on. -/
theorem scene_of_lookup {d : Document} {host : Host} {script : String} {context : Context}
    {cache : ResponseCache} {p : Progress Event} {l : ReferenceLookup}
    (h : l ∈ (Through.run Traced.look host script d context cache p).lookups) :
    ∃ before after s, d.header.declarations = before ++ after ∧
      renderVariables host.source { scene := ⟨context, .empty⟩, progress := p } before =
        (.ok (), s) ∧ l.scene = s.scene := by
  simp only [Through.run, Traced.lookups_bind, Through.value_renderVariables,
    List.mem_append] at h
  rcases h with h | h
  · obtain ⟨before, decl, after, s, heq, hbefore, hscene, _⟩ := asks_renderVariables h
    exact ⟨before, decl :: after, s, heq, hbefore, hscene⟩
  · split at h
    · cases h
    · rename_i s hvars
      simp only [Traced.lookups_bind, Through.value_expandBody, List.mem_append] at h
      rcases h with h | h
      · exact ⟨d.header.declarations, [], s, (List.append_nil _).symm, hvars,
          (mem_pieces_of_expandBody h).1⟩
      · split at h
        · cases h
        · split at h <;> cases h

/-- No variable stands for a stray word. -/
theorem not_rendered_of_stray {d : Document} {host : Host} {script : String} {context : Context}
    {cache : ResponseCache} {p : Progress Event} {l : ReferenceLookup}
    (h : l ∈ (Through.run Traced.look host script d context cache p).lookups)
    (hstray : d.Stray l.reference) :
    l.scene.rendered.get? l.reference.name = none ∧ l.scene.context = context := by
  obtain ⟨before, after, s, heq, hbefore, hscene⟩ := scene_of_lookup h
  obtain ⟨hholds, hcontext⟩ := holds_renderVariables (Scene.holds_nil context) hbefore
  rw [hscene]
  refine ⟨?_, hcontext⟩
  rw [NameMap.get?_eq_none_iff, hholds]
  intro hmem
  refine hstray.2 (List.mem_append_right _ ?_)
  rw [heq, List.map_append]
  exact List.mem_append_left _ hmem

theorem shown_of_none {s : Scene} {r : Reference} (h : s.find? r.name = none) :
    s.shown r = r.written := by
  rw [Scene.shown, Piece.resolved, h]

theorem shown_of_some {s : Scene} {r : Reference} {v : String} (h : s.find? r.name = some v) :
    s.shown r = v.toList := by
  rw [Scene.shown, Piece.resolved, h]

theorem leftAsWritten_iff {d : Document} {host : Host} {script : String} {context : Context}
    {cache : ResponseCache} {p : Progress Event} {l : ReferenceLookup}
    (hl : l ∈ (Through.run Traced.look host script d context cache p).lookups)
    (hstray : d.Stray l.reference) :
    l.LeftAsWritten ↔
      ∀ v, context.get? l.reference.name = some v → v.toList = l.reference.written := by
  obtain ⟨hrendered, hcontext⟩ := not_rendered_of_stray hl hstray
  have hfind : l.scene.find? l.reference.name = context.get? l.reference.name := by
    rw [Scene.find?, hrendered, hcontext]; rfl
  cases hvalue : context.get? l.reference.name with
  | none =>
    rw [hvalue] at hfind
    have hleft : l.LeftAsWritten := shown_of_none hfind
    simp [hleft]
  | some value =>
    rw [hvalue] at hfind
    rw [ReferenceLookup.LeftAsWritten, shown_of_some hfind]
    simp

/-- Without the values of names that the document does not know a look-up shows the same, unless it
is of a stray word that such a value replaces. -/
theorem alikeIn_only {text : String} {d : Document} (hd : Document.compile text = .ok d)
    {host : Host} {script : String} {context : Context} {cache : ResponseCache}
    {p : Progress Event} {l : ReferenceLookup}
    (hl : l ∈ (Through.run Traced.look host script d context cache p).lookups)
    (hleft : d.Stray l.reference → l.LeftAsWritten) :
    l.AlikeIn (l.scene.under (context.only (Document.knownNames d.header))) := by
  have hscoped := Document.wellScoped_of_compile hd
  obtain ⟨names, text, hholds, hcontext, hscope, hmem, _⟩ := lookup_site hscoped hl
  have hname := isName_of_mem_pieces hmem
  cases hrendered : l.scene.rendered.get? l.reference.name with
  | some v =>
    -- a variable of the document comes first in both scenes
    have hfind : ∀ c, (l.scene.under c).find? l.reference.name = some v := by
      intro c
      rw [Scene.find?, Scene.rendered_under, hrendered]; rfl
    exact (shown_of_some (hfind _)).trans (shown_of_some (hfind l.scene.context)).symm
  | none =>
    have hfind : ∀ c, (l.scene.under c).find? l.reference.name = c.get? l.reference.name := by
      intro c
      rw [Scene.find?, Scene.rendered_under, hrendered]; rfl
    rcases not_found_of_inScope hholds hscope hmem hrendered with hbuiltIn | ⟨hbare, hstray⟩
    · -- a value of the host that is kept
      have hknown : l.reference.name ∈ Document.knownNames d.header :=
        List.mem_append_left _ hbuiltIn
      have hkept : (l.scene.under (context.only (Document.knownNames d.header))).find?
          l.reference.name = l.scene.find? l.reference.name := by
        rw [hfind, Context.get?_only _ _ hname, if_pos hknown, ← hcontext]
        exact (hfind l.scene.context).symm
      rw [ReferenceLookup.AlikeIn, Scene.shown, Scene.shown, Piece.resolved, Piece.resolved,
        hkept]
    · have hunknown : l.reference.name ∉ Document.knownNames d.header := by
        intro hmem
        exact (List.mem_append.1 hmem).elim hstray.1 hstray.2
      rw [ReferenceLookup.AlikeIn, hleft ⟨hbare, hunknown⟩]
      refine shown_of_none ?_
      rw [hfind, Context.get?_only _ _ hname, if_neg hunknown]

/-- A stray word is left as written exactly if the host gives it no value but itself. If all that a
run looks up are, the run is the one under the values of the names that the document knows. -/
theorem stray_words_read_context {text : String} {d : Document}
    (hd : Document.compile text = .ok d) (host : Host) (script : String) (context : Context)
    (cache : ResponseCache) (p : Progress Event) :
    (Through.run Traced.look host script d context cache p).value =
      d.run host script context cache p ∧
    (∀ l ∈ (Through.run Traced.look host script d context cache p).lookups, d.Stray l.reference →
      (l.LeftAsWritten ↔
        ∀ v, context.get? l.reference.name = some v → v.toList = l.reference.written)) ∧
    ((∀ l ∈ (Through.run Traced.look host script d context cache p).lookups,
        d.Stray l.reference → l.LeftAsWritten) →
      d.run host script context cache p =
        d.run host script (context.only (Document.knownNames d.header)) cache p) := by
  refine ⟨Through.value_run host script d context cache p, ?_, ?_⟩
  · intro l hl hstray
    exact leftAsWritten_iff hl hstray
  · intro hleft
    have halike := fun l hl => alikeIn_only hd hl (hleft l hl)
    exact (run_under halike).symm

/-- A document with a word that it does not know and a name of the host. -/
def strayText : String := "list.map \x7bit\x7d in $language\n"

/-- The text of a run of a document in which nothing is listed. -/
def textUnder (context : Context) (d : Document) : Option String :=
  (d.run { source := .ofList [] } "s" context .empty {}).1.toOption.map (·.text)

theorem stray_words_read_context_unused :
    ∃ d context, Document.compile strayText = .ok d ∧
      context = Context.ofList [("language", "rust"), ("that", "x")] ∧
      d.run { source := .ofList [] } "s" context .empty {} = d.run { source := .ofList [] } "s"
        (context.only (Document.knownNames d.header)) .empty {} ∧
      textUnder context d = some "list.map \x7bit\x7d in rust\n" := by
  have hlookups : ((Document.compile strayText).toOption.all fun d =>
      (Through.run Traced.look { source := .ofList [] } "s" d
        (Context.ofList [("language", "rust"), ("that", "x")]) .empty {}).lookups.all fun l =>
          l.reference.name == "language" || l.answer.isNone) = true := by decide +kernel
  have htext : ((Document.compile strayText).toOption.bind
      (textUnder (Context.ofList [("language", "rust"), ("that", "x")]))) =
        some "list.map \x7bit\x7d in rust\n" := by decide +kernel
  cases hd : Document.compile strayText with
  | error e => rw [hd] at htext; cases htext
  | ok d =>
    rw [hd] at hlookups htext
    refine ⟨d, _, rfl, rfl, ?_, htext⟩
    refine (stray_words_read_context hd { source := .ofList [] } "s" _ .empty {}).2.2 ?_
    intro l hl hstray
    have hanswer := List.all_eq_true.1 hlookups l hl
    rw [Bool.or_eq_true, beq_iff_eq, Option.isNone_iff_eq_none] at hanswer
    rcases hanswer with hname | hnone
    · refine absurd ?_ hstray.2
      rw [hname]
      exact List.mem_append_left _ (by decide)
    · exact shown_of_none hnone

/-- A value of the host for the word takes its place. -/
theorem stray_word_replaced :
    ∃ d context, Document.compile strayText = .ok d ∧
      context = Context.ofList [("language", "rust"), ("it", "x")] ∧
      "it" ∉ Document.knownNames d.header ∧
      textUnder context d = some "list.map x in rust\n" ∧
      textUnder (context.only (Document.knownNames d.header)) d =
        some "list.map \x7bit\x7d in rust\n" := by
  have hrun : (Document.compile strayText).toOption.map (fun d =>
      (Document.knownNames d.header,
        textUnder (Context.ofList [("language", "rust"), ("it", "x")]) d,
        textUnder ((Context.ofList [("language", "rust"), ("it", "x")]).only
          (Document.knownNames d.header)) d)) =
      some (builtInNames, some "list.map x in rust\n",
        some "list.map \x7bit\x7d in rust\n") := by decide +kernel
  cases hd : Document.compile strayText with
  | error e => rw [hd] at hrun; cases hrun
  | ok d =>
    rw [hd] at hrun
    simp only [Except.toOption, Option.map_some, Option.some.injEq, Prod.mk.injEq] at hrun
    obtain ⟨hknown, htext, honly⟩ := hrun
    refine ⟨d, _, rfl, rfl, ?_, htext, honly⟩
    rw [hknown]
    decide

end PromptScript
