import PromptScript.Proofs.Rendering

/-!
# Proofs.Turns

The turns of a run: the declarations one after the other, each with the state that the ones before
it left. In a run that completes every declaration has its turn, and the run can be cut at any of
them (`exists_split_of_mem_turns`). Where the declared names are distinct, the text of a turn is the
text that its variable has in the end (`get?_of_mem_turns`).
-/

namespace PromptScript

/-- A declaration whose turn it is, with the state in which it is rendered. -/
structure Turn where
  declaration : Declaration
  state : RunState

namespace Turn

def name (t : Turn) : String := canonicalName t.declaration.name

/-- What the declaration is rendered to. -/
def rendered (source : ItemSource) (t : Turn) : Except RunError Rendered :=
  (renderValue source t.state t.declaration.value).1

end Turn

/-- The turns of declarations, up to one whose rendering is given up. -/
def turnsFrom (source : ItemSource) (s : RunState) : List Declaration → List Turn
  | [] => []
  | d :: rest =>
    match renderValue source s d.value with
    | (.error _, _) => [⟨d, s⟩]
    | (.ok r, s') => ⟨d, s⟩ :: turnsFrom source (s'.keep d.name r) rest

/-- The turns of a run. -/
def Document.turns (d : Document) (source : ItemSource) (context : Context)
    (p : Progress Event) : List Turn :=
  turnsFrom source { scene := ⟨context, .empty⟩, progress := p } d.header.declarations

section Variables

variable {source : ItemSource} {s s' : RunState} {ds : List Declaration} {t : Turn}

theorem turnsFrom_cons {d : Declaration} {rest : List Declaration} {r : Rendered} {s₁ : RunState}
    (h : renderValue source s d.value = (.ok r, s₁)) :
    turnsFrom source s (d :: rest) = ⟨d, s⟩ :: turnsFrom source (s₁.keep d.name r) rest := by
  rw [turnsFrom, h]

/-- Every declaration has its turn. -/
theorem map_declaration_turnsFrom (h : renderVariables source s ds = (.ok (), s')) :
    (turnsFrom source s ds).map (·.declaration) = ds := by
  induction ds generalizing s with
  | nil => rfl
  | cons d rest ih =>
    obtain ⟨r, s₁, hvalue, hrest⟩ := renderVariables_cons_eq_ok_iff.1 h
    rw [turnsFrom_cons hvalue, List.map_cons, ih hrest]

/-- The declarations before a turn, the turn itself, and the declarations after it. -/
structure SplitAt (source : ItemSource) (s : RunState) (t : Turn) (s' : RunState)
    (before after : List Declaration) (r : Rendered) (s₁ : RunState) : Prop where
  before : renderVariables source s before = (.ok (), t.state)
  value : renderValue source t.state t.declaration.value = (.ok r, s₁)
  after : renderVariables source (s₁.keep t.declaration.name r) after = (.ok (), s')

theorem exists_split_of_mem_turns (h : renderVariables source s ds = (.ok (), s'))
    (ht : t ∈ turnsFrom source s ds) :
    ∃ before after r s₁, ds = before ++ t.declaration :: after ∧
      SplitAt source s t s' before after r s₁ := by
  induction ds generalizing s with
  | nil => cases ht
  | cons d rest ih =>
    obtain ⟨r, s₁, hvalue, hrest⟩ := renderVariables_cons_eq_ok_iff.1 h
    rw [turnsFrom_cons hvalue] at ht
    rcases List.mem_cons.1 ht with rfl | ht
    · exact ⟨[], rest, r, s₁, rfl, rfl, hvalue, hrest⟩
    · obtain ⟨before, after, r', s₂, hds, hsplit⟩ := ih hrest ht
      refine ⟨d :: before, after, r', s₂, by rw [hds]; rfl, ?_, hsplit.value, hsplit.after⟩
      exact renderVariables_cons_eq_ok_iff.2 ⟨r, s₁, hvalue, hsplit.before⟩

/-- No later declaration overwrites the text of a turn. -/
theorem get?_of_mem_turns (hdistinct : (declaredNames ds).Nodup)
    (h : renderVariables source s ds = (.ok (), s')) (ht : t ∈ turnsFrom source s ds) :
    ∃ r, t.rendered source = .ok r ∧ s'.scene.rendered.get? t.name = some r.text := by
  obtain ⟨before, after, r, s₁, rfl, hsplit⟩ := exists_split_of_mem_turns h ht
  refine ⟨r, by rw [Turn.rendered, hsplit.value], ?_⟩
  rw [declaredNames, List.map_append, List.map_cons] at hdistinct
  have hlater : t.name ∉ declaredNames after :=
    (List.nodup_cons.1 (List.nodup_append.1 hdistinct).2.1).1
  rw [get?_of_renderVariables hsplit.after hlater]
  exact NameMap.get?_insert_self ..

end Variables

/-! ## Whole runs -/

section Runs

variable {host : Host} {script : String} {d : Document} {context : Context}
  {cache cache' : ResponseCache} {p q : Progress Event} {out : RunOutput}

theorem map_declaration_turns (h : d.run host script context cache p = (.ok out, cache', q)) :
    (d.turns host.source context p).map (·.declaration) = d.header.declarations := by
  obtain ⟨s, _, _, hvars, _⟩ := run_eq_ok h
  exact map_declaration_turnsFrom hvars

theorem exists_turn_of_mem (h : d.run host script context cache p = (.ok out, cache', q))
    {decl : Declaration} (hdecl : decl ∈ d.header.declarations) :
    ∃ t ∈ d.turns host.source context p, t.declaration = decl := by
  rw [← map_declaration_turns h] at hdecl
  exact List.mem_map.1 hdecl

/-- In a run of a compiled document the text of a variable is that of its turn. -/
theorem text_of_turn {text : String} (hd : Document.compile text = .ok d)
    (h : d.run host script context cache p = (.ok out, cache', q)) {t : Turn}
    (ht : t ∈ d.turns host.source context p) :
    ∃ r, t.rendered host.source = .ok r ∧ out.rendered.get? t.name = some r.text := by
  obtain ⟨s, _, _, hvars, _, _, hout⟩ := run_eq_ok h
  obtain ⟨r, hrendered, hget⟩ :=
    get?_of_mem_turns (Document.wellScoped_of_compile hd).distinct hvars ht
  exact ⟨r, hrendered, by rw [hout]; exact hget⟩

end Runs

end PromptScript
